import RipDvd.InitialManifest

namespace RipDvd
set_option autoImplicit true

def DVD_RECOVERY_EVIDENCE_FORMAT : String := "dvd-recovery-evidence-v1"

/-- `publication-intent.json`. -/
structure PublicationIntent where
  version : String
  stagingPath : String
  manifest : DvdInitialManifest
  deriving DecidableEq

/-- The fields of an object that `checkProjection` compares; none is one that the object does not
have. -/
structure ProjectedFields where
  currentManifestRevision : Option Int
  currentManifestId : Option String
  currentManifestDigest : Option Digest
  deriving DecidableEq

/-- What `JSON.parse` finds in a record; `other` is any value of another shape, with its fields if
it is an object. -/
inductive EvidenceRecord where
  | intent (intent : PublicationIntent)
  | manifest (manifest : DvdInitialManifest)
  | checkpoint (checkpoint : DvdCheckpointPointer)
  | other (text : String) (fields : Option ProjectedFields)
  deriving DecidableEq

/-- The names of the evidence directory, and those of images outside of it. -/
inductive PublicationPath where
  | intent
  | manifest
  | pointer
  | temporary (uuid : Nat)
  | image (path : String)
  deriving DecidableEq

/-- A file; it has no record when it is not JSON. -/
structure Inode where
  isFile : Bool
  record : Option EvidenceRecord
  size : Nat
  mtimeNs : Nat
  deriving DecidableEq

inductive ArchiveJobStatus where
  | running
  | completed
  | other
  deriving DecidableEq

inductive ArchiveRequestStatus where
  | running
  | fulfilled
  | other
  deriving DecidableEq

structure InitialSaveJob where
  id : String
  archiveRequestId : String
  detectedDiscId : String
  evidenceFormat : Option String
  status : ArchiveJobStatus
  claimToken : Option String
  originalDiscArchiveId : Option String
  deriving DecidableEq

structure InitialSaveRequest where
  id : String
  status : ArchiveRequestStatus
  evidenceFormat : Option String
  rearchiveSourceArchiveId : Option String
  deriving DecidableEq

/-- A row of `original_disc_archives`. -/
structure PublishedArchive extends OriginalDiscArchive where
  archivePath : String
  rearchiveSourceArchiveId : Option String
  deriving DecidableEq

/-- The rows that an initial save reads and writes; archives have a primary key. -/
structure InitialSaveRows where
  job : InitialSaveJob
  request : InitialSaveRequest
  discId : String
  discKind : String
  fingerprint : String
  sourceInspectionTotalBytes : Option Nat
  archives : List PublishedArchive
  archiveKeys : (archives.map (·.id)).Nodup
  headers : List DvdArchiveEvidenceHeader
  manifests : List EvidenceManifest
  sourceSamples : List (String × DvdSourceSampleManifest)
  recoveries : List String
  deriving DecidableEq

/-- The directories of one publication and the catalog. -/
structure SaveStore where
  names : PublicationPath → Option FilesystemIdentity
  inodes : FilesystemIdentity → Option Inode
  rows : InitialSaveRows

/-- What is stored, and how many of its questions a save has asked. -/
structure SaveWorld extends SaveStore where
  clock : Nat

abbrev SaveProgram := Program SaveWorld InitialSaveError

/-- Look at what is stored. -/
def look (f : SaveStore → Except InitialSaveError α) : SaveProgram α :=
  .read fun w => f w.toSaveStore

/-- Change what is stored. -/
def change (f : SaveStore → SaveStore) : SaveProgram Unit :=
  .modify fun w => { w with toSaveStore := f w.toSaveStore }

structure InitialSaveClaim where
  id : String
  archiveRequestId : String
  detectedDiscId : String
  evidenceFormat : Option String
  claimToken : String
  deriving DecidableEq

/-- A save, with all that decides how it goes: where it is cut short, what it is given when it asks
for a new file or token, when its lease is over, what is known of the writer before it, and the
samples that it takes of the image. -/
structure SaveOptions where
  claim : InitialSaveClaim
  originalsLibraryPath : String
  interrupt : Nat → Bool
  newFile : Nat → Nat × FilesystemIdentity
  newToken : Nat → String
  expired : Nat → Bool
  writerIsActive : Option Bool
  readSamples : DvdInitialManifest → Except InitialSaveError DvdSourceSampleManifest

namespace SaveOptions

variable (o : SaveOptions)

def originalDiscArchiveId : String := s!"dvd-{o.claim.id}"

/-- `paths.archive`. -/
def archivePath : String := s!"{o.originalsLibraryPath}/{o.originalDiscArchiveId}.iso"

end SaveOptions

/-- A point where a save can be aborted, lose its ownership or meet a fault of its storage. -/
def throwIfAborted (o : SaveOptions) : SaveProgram Unit :=
  .transaction fun w =>
    if o.interrupt w.clock then .error .interrupted else .ok ((), { w with clock := w.clock + 1 })

def InitialSaveRows.findJob (rows : InitialSaveRows) (id : String) : Option InitialSaveJob :=
  if rows.job.id = id then some rows.job else none

def InitialSaveRows.findRequest (rows : InitialSaveRows) (id : String) :
    Option InitialSaveRequest :=
  if rows.request.id = id then some rows.request else none

def InitialSaveRows.findHeader (rows : InitialSaveRows) (id : String) :
    Option DvdArchiveEvidenceHeader :=
  rows.headers.find? (·.originalDiscArchiveId = id)

/-- The claim still holds, with its lease. -/
def InitialSaveClaim.Holds (claim : InitialSaveClaim) (o : SaveOptions) (w : SaveWorld) : Prop :=
  (∃ job ∈ w.rows.findJob claim.id, job.status = .running ∧
      job.claimToken = some claim.claimToken) ∧
    (∃ request ∈ w.rows.findRequest claim.archiveRequestId, request.status = .running) ∧
    o.expired w.clock = false

instance (claim : InitialSaveClaim) (o : SaveOptions) (w : SaveWorld) :
    Decidable (claim.Holds o w) :=
  inferInstanceAs (Decidable (_ ∧ _))

def InitialSaveRows.jobCompleted (rows : InitialSaveRows) (id : String) : Bool :=
  (rows.findJob id).any (·.status = .completed)

def authorizeMutation (o : SaveOptions) : SaveProgram Unit := do
  throwIfAborted o
  throwIfAborted o
  let completed ← .read fun w => do
    let completed := w.rows.jobCompleted o.claim.id
    rejectIf (¬completed ∧ ¬o.claim.Holds o w) (.save .ownershipLost)
    return completed
  if completed then pure () else throwIfAborted o

def authorize (o : SaveOptions) : SaveProgram Unit := do
  throwIfAborted o
  authorizeMutation o
  throwIfAborted o

/-- `step`, with the fault seam before and after the work. -/
def publicationStep (o : SaveOptions) (work : SaveProgram Unit) : SaveProgram Unit := do
  authorize o
  throwIfAborted o
  authorize o
  work
  throwIfAborted o
  authorize o

/-- `file.sync()` and `syncDirectory`. -/
def synchronize : SaveProgram Unit := .modify id

def readRecord (path : PublicationPath) (code : DvdInitialPublicationFaultCode) (w : SaveStore) :
    Except InitialSaveError (Option EvidenceRecord) :=
  match w.names path with
  | none => .ok none
  | some identity =>
    match w.inodes identity with
    | none => .error (.publication code)
    | some inode =>
      if inode.isFile then
        match inode.record with
        | some record => .ok (some record)
        | none => .error (.publication code)
      else .error (.publication code)

def SaveStore.setName (w : SaveStore) (path : PublicationPath)
    (identity : Option FilesystemIdentity) : SaveStore :=
  { w with names := fun p => if p = path then identity else w.names p }

def SaveStore.setInode (w : SaveStore) (identity : FilesystemIdentity) (inode : Inode) :
    SaveStore :=
  { w with inodes := fun i => if i = identity then some inode else w.inodes i }

/-- Create a temporary that is not there yet, in a file of its own. -/
def createTemporary (o : SaveOptions) : SaveProgram (PublicationPath × FilesystemIdentity) :=
  .transaction fun w =>
    let (uuid, identity) := o.newFile w.clock
    if (w.names (.temporary uuid)).isSome ∨ (w.inodes identity).isSome then .error .alreadyExists
    else .ok ((.temporary uuid, identity), {
      toSaveStore := (w.setName (.temporary uuid) (some identity)).setInode identity
        ⟨true, none, 0, 0⟩
      clock := w.clock + 1 })

def writeRecord (identity : FilesystemIdentity) (value : EvidenceRecord) : SaveProgram Unit :=
  change (·.setInode identity ⟨true, some value, 0, 0⟩)

/-- `link`: false when the name is taken. -/
def linkFile (existing path : PublicationPath) : SaveProgram Bool :=
  .transaction fun w =>
    match w.names existing with
    | none => .error (.error "ENOENT")
    | some identity =>
      if (w.names path).isSome then .ok (false, w)
      else .ok (true, { w with toSaveStore := w.setName path (some identity) })

def unlinkFile (path : PublicationPath) : SaveProgram Unit := change (·.setName path none)

def installRecord (o : SaveOptions) (path : PublicationPath) (value : EvidenceRecord)
    (code : DvdInitialPublicationFaultCode) : SaveProgram Unit := do
  match ← look (readRecord path code) with
  | some existing =>
    .done (rejectIf (existing ≠ value) (.publication code))
    synchronize
    synchronize
  | none =>
    let (temporary, identity) ← createTemporary o
    writeRecord identity value
    synchronize
    .ensure (do
      let linked ← linkFile temporary path
      if linked then pure ()
      else
        let existing ← look (readRecord path code)
        .done (rejectIf (existing ≠ some value) (.publication code))
      synchronize) (do
      unlinkFile temporary
      synchronize)

def checkpointFor (manifest : DvdInitialManifest) : DvdCheckpointPointer where
  originalDiscArchiveId := manifest.originalDiscArchiveId
  currentManifestId := manifest.id
  currentManifestRevision := 1
  currentManifestDigest := manifest.manifestDigest
  publicationDigest := manifest.publicationDigest

/-- The record as a checkpoint, as far as it is an object. -/
def EvidenceRecord.asCheckpoint : EvidenceRecord → Option ProjectedFields
  | .checkpoint pointer => some ⟨some pointer.currentManifestRevision,
      some pointer.currentManifestId, some pointer.currentManifestDigest⟩
  | .intent _ => some ⟨none, none, none⟩
  | .manifest _ => some ⟨none, none, none⟩
  | .other _ fields => fields

/-- A comparison with a revision that is not there is false. -/
def checkProjection (pointer : Option EvidenceRecord)
    (projection : Option DvdArchiveEvidenceHeader) :
    Except InitialSaveError Unit :=
  match projection with
  | none => .ok ()
  | some projection => do
    rejectIf (∃ record ∈ pointer, record.asCheckpoint = none) (.publication .checkpointConflict)
    let checkpoint := pointer.bind EvidenceRecord.asCheckpoint
    rejectIf (projection.currentManifestRevision > maxSafeInteger ∨
        projection.currentManifestRevision < 1 ∨ checkpoint = none ∨
        ∃ fields ∈ checkpoint, ∃ revision ∈ fields.currentManifestRevision,
          (projection.currentManifestRevision : Int) > revision)
      (.publication .projectionAhead)
    rejectIf (∃ fields ∈ checkpoint,
        fields.currentManifestRevision = some (projection.currentManifestRevision : Int) ∧
        (fields.currentManifestId ≠ some projection.currentManifestId ∨
          fields.currentManifestDigest ≠ some projection.currentManifestDigest))
      (.publication .checkpointConflict)

/-- A name stands for the image that a manifest is about, in the version that it is about. -/
def SaveStore.ImageAt (w : SaveStore) (path : PublicationPath) (manifest : DvdInitialManifest) :
    Prop :=
  w.names path = some manifest.image.filesystemIdentity ∧
    ∃ inode ∈ w.inodes manifest.image.filesystemIdentity, inode.isFile = true ∧
      inode.size = manifest.boundaryPublishedSizeBytes ∧ inode.mtimeNs = manifest.image.mtimeNs

instance (w : SaveStore) (path : PublicationPath) (manifest : DvdInitialManifest) :
    Decidable (w.ImageAt path manifest) :=
  inferInstanceAs (Decidable (_ ∧ _))

def verifyImage (path : PublicationPath) (manifest : DvdInitialManifest) : SaveProgram Unit :=
  look fun w => rejectIf (¬w.ImageAt path manifest) (.publication .imageConflict)

/-- `verifyImage` of a file that is synchronized between two looks. -/
def verifyImageSynchronized (path : PublicationPath) (manifest : DvdInitialManifest) :
    SaveProgram Unit := do
  verifyImage path manifest
  synchronize
  verifyImage path manifest

variable (sha256 : Hashed → Digest)

/-- `verifyIntent`. -/
def verifyIntent (o : SaveOptions) (imageFingerprint : String) (value : EvidenceRecord) :
    Except InitialSaveError PublicationIntent :=
  withError (fun _ => .publication .intentConflict) do
    match value with
    | .intent intent =>
      rejectIf (intent.version ≠ "dvd-initial-publication-v1")
        (.error "Unsupported publication intent")
      let manifest ← validateDvdInitialManifest sha256 intent.manifest
      rejectIf (manifest.originalDiscArchiveId ≠ o.originalDiscArchiveId ∨
          manifest.sourceArchiveJobId ≠ o.claim.id ∨
          manifest.imageFingerprint ≠ imageFingerprint)
        (.error "Publication intent belongs to another archive or job")
      rejectIf (intent.stagingPath = o.archivePath) (.publication .pathConflict)
      rejectIf (intent ≠ ⟨"dvd-initial-publication-v1", intent.stagingPath, manifest⟩)
        (.error "Invalid publication intent")
      return { intent with manifest }
    | _ => .error (.error "Unsupported publication intent")

def verifyRecord (path : PublicationPath) (value : EvidenceRecord)
    (code : DvdInitialPublicationFaultCode) : SaveProgram Unit :=
  look fun w => do
    let current ← readRecord path code w
    rejectIf (current ≠ some value) (.publication code)

/-- `verifyEvidence` of `completePublication`. -/
def verifyEvidence (intent : PublicationIntent) : SaveProgram Unit := do
  verifyRecord .intent (.intent intent) .intentConflict
  verifyRecord .manifest (.manifest intent.manifest) .manifestConflict

def verifyCheckpoint (intent : PublicationIntent) : SaveProgram Unit :=
  verifyRecord .pointer (.checkpoint (checkpointFor intent.manifest)) .checkpointConflict

/-- Publish the image and its records, up to what the caller may save. -/
def completePublication (o : SaveOptions) (projection : Option DvdArchiveEvidenceHeader)
    (intent : PublicationIntent) : SaveProgram Unit := do
  let manifest := intent.manifest
  let archive : PublicationPath := .image o.archivePath
  let staging : PublicationPath := .image intent.stagingPath
  let pointer ← look (readRecord .pointer .checkpointConflict)
  .done (checkProjection pointer projection)
  let savedManifest ← look (readRecord .manifest .manifestConflict)
  .done (rejectIf (savedManifest ≠ none ∧ savedManifest ≠ some (.manifest manifest))
    (.publication .manifestConflict))
  .done (rejectIf (pointer ≠ none ∧ (pointer ≠ some (.checkpoint (checkpointFor manifest)) ∨
    savedManifest = none)) (.publication .checkpointConflict))
  let published ← look fun w => .ok (w.names archive).isSome
  .done (rejectIf (pointer ≠ none ∧ published = false) (.publication .imageConflict))
  publicationStep o (verifyImageSynchronized (if published then archive else staging) manifest)
  publicationStep o (installRecord o .manifest (.manifest manifest) .manifestConflict)
  publicationStep o do
    if published then pure ()
    else
      verifyImage staging manifest
      authorize o
      let _ ← linkFile staging archive
    verifyImageSynchronized archive manifest
    synchronize
    verifyImage archive manifest
  publicationStep o do
    verifyImage archive manifest
    verifyEvidence intent
    authorize o
    installRecord o .pointer (.checkpoint (checkpointFor manifest)) .checkpointConflict
  verifyEvidence intent
  verifyCheckpoint intent
  verifyImage archive manifest

def finalizePublication (o : SaveOptions) (intent : PublicationIntent) : SaveProgram Unit := do
  let archive : PublicationPath := .image o.archivePath
  let staging : PublicationPath := .image intent.stagingPath
  throwIfAborted o
  verifyCheckpoint intent
  verifyEvidence intent
  verifyImage archive intent.manifest
  let staged ← look fun w => .ok (w.names staging).isSome
  if staged then
    verifyImage staging intent.manifest
    throwIfAborted o
    unlinkFile staging
    synchronize
  else pure ()

/-- `publishDvdInitialArchive`; `stagingPath` is where the copy left the image. -/
def publishDvdInitialArchive (o : SaveOptions) (projection : Option DvdArchiveEvidenceHeader)
    (imageFingerprint stagingPath : String) (proven : ProvenDvdInitialArchiveBoundary) :
    SaveProgram PublicationIntent := do
  authorize o
  .done (rejectIf (¬isArchivePathId o.originalDiscArchiveId) (.publication .pathConflict))
  .done (rejectIf (stagingPath = o.archivePath) (.publication .pathConflict))
  let baseManifest ← .done (createDvdInitialManifest sha256 o.originalDiscArchiveId o.claim.id
    imageFingerprint proven none)
  authorize o
  let sourceSampleManifest ← .done (o.readSamples baseManifest)
  let manifest ← .done (createDvdInitialManifest sha256 o.originalDiscArchiveId o.claim.id
    imageFingerprint proven (some sourceSampleManifest))
  let intent : PublicationIntent := ⟨"dvd-initial-publication-v1", stagingPath, manifest⟩
  let foreign ← look fun w => do
    let current ← readRecord .intent .intentConflict w
    return decide (current = none ∧ ((w.names (.image o.archivePath)).isSome ∨
      (w.names .manifest).isSome ∨ (w.names .pointer).isSome))
  .done (rejectIf foreign (.publication .intentMissing))
  let pointer ← look (readRecord .pointer .checkpointConflict)
  .done (checkProjection pointer projection)
  verifyImage (.image stagingPath) manifest
  publicationStep o (installRecord o .intent (.intent intent) .intentConflict)
  completePublication o projection intent
  return intent

/-- The intent on disk, checked. -/
def readIntent (o : SaveOptions) (imageFingerprint : String) : SaveProgram PublicationIntent :=
  look fun w => do
    let value ← readRecord .intent .intentConflict w
    match value with
    | none => .error (.publication .intentMissing)
    | some value => verifyIntent sha256 o imageFingerprint value

/-- `reconcileDvdInitialArchivePublication`. -/
def reconcileDvdInitialArchivePublication (o : SaveOptions)
    (projection : Option DvdArchiveEvidenceHeader) (imageFingerprint expectedStagingPath : String) :
    SaveProgram PublicationIntent := do
  authorize o
  .done (rejectIf (¬isArchivePathId o.originalDiscArchiveId) (.publication .pathConflict))
  let intent ← readIntent sha256 o imageFingerprint
  .done (rejectIf (intent.stagingPath ≠ expectedStagingPath) (.publication .intentConflict))
  publicationStep o (installRecord o .intent (.intent intent) .intentConflict)
  completePublication o projection intent
  return intent

/-- The checks that an initial save passes before it looks at its job. -/
def requireInitialProvenance (claim : InitialSaveClaim) (manifest : DvdInitialManifest) :
    Except InitialSaveError Unit := do
  rejectIf (claim.evidenceFormat ≠ some DVD_RECOVERY_EVIDENCE_FORMAT ∨
      manifest.sourceArchiveJobId ≠ claim.id ∨ manifest.revision ≠ 1 ∨
      manifest.previousManifestId ≠ none ∨ manifest.recoveryReadId ≠ none ∨
      manifest.previousManifestDigest ≠ none ∨ manifest.recoveryReadEvidenceDigest ≠ none ∨
      manifest.evidenceFormat ≠ DVD_RECOVERY_EVIDENCE_FORMAT ∨
      ∃ range ∈ manifest.unrecoveredSourceRanges, range.classification ≠ .skippedUntested)
    (.domain (.invariant "Invalid initial DVD save provenance"))
  withError .domain (assertDvdArchiveEvidenceManifestDigests sha256 manifest.toEvidenceManifest)
  withError .domain (assertDvdArchiveBoundaryEvidenceDigest sha256 manifest.boundaryEvidence
    manifest.boundaryEvidenceDigest)
  rejectIf (manifest.boundaryPolicyVersion ≠ manifest.boundaryEvidence.policyVersion ∨
      manifest.boundaryReportedSizeBytes ≠ manifest.boundaryEvidence.reportedSizeBytes)
    (.domain (.invariant "Initial DVD save boundary conflicts with checkpoint"))

/-- A completed job is one whose archive, header and request are those of the manifest. -/
def requireCompletedSave (claim : InitialSaveClaim) (archivePath : String)
    (manifest : DvdInitialManifest) (rows : InitialSaveRows) : Except InitialSaveError Unit :=
  rejectIf (rows.job.originalDiscArchiveId ≠ some manifest.originalDiscArchiveId ∨
      (¬∃ header ∈ rows.findHeader manifest.originalDiscArchiveId,
        header.sourceArchiveJobId = claim.id ∧ header.currentManifestId = manifest.id ∧
        header.currentManifestRevision = 1 ∧
        header.currentManifestDigest = manifest.manifestDigest) ∨
      (¬∃ archive ∈ rows.archives.find? fun archive : PublishedArchive =>
          archive.id = manifest.originalDiscArchiveId,
        archive.archivePath = archivePath) ∨
      (¬∃ request ∈ rows.findRequest rows.job.archiveRequestId, request.status = .fulfilled) ∨
      manifest.originalDiscArchiveId ∉ rows.recoveries)
    (.save .consistencyFault)

/-- `requireCurrentClaim` of `publishArchive`. -/
def requireCurrentInitialClaim (claim : InitialSaveClaim) (manifest : DvdInitialManifest)
    (expired : Bool) (rows : InitialSaveRows) : Except InitialSaveError Unit := do
  rejectIf (rows.job.id ≠ claim.id ∨ rows.job.detectedDiscId ≠ claim.detectedDiscId ∨
      rows.job.status ≠ .running ∨ rows.job.claimToken ≠ some claim.claimToken ∨
      rows.request.id ≠ rows.job.archiveRequestId ∨ rows.request.status ≠ .running ∨
      rows.discId ≠ rows.job.detectedDiscId ∨ expired)
    (.domain (.staleJobAttempt "archive job" claim.id))
  rejectIf (rows.job.evidenceFormat ≠ some DVD_RECOVERY_EVIDENCE_FORMAT ∨
      rows.request.evidenceFormat ≠ some DVD_RECOVERY_EVIDENCE_FORMAT ∨
      rows.fingerprint ≠ manifest.imageFingerprint ∨ rows.discKind ≠ "dvd")
    (.domain (.invariant "Initial DVD save does not match the marked source job"))
  rejectIf (rows.sourceInspectionTotalBytes ≠ some manifest.boundaryEvidence.reportedSizeBytes)
    (.domain (.invariant
      "Archive Boundary Evidence does not match the source Disc Inspection"))

/-- The archive a new one replaces, or that there is none of the same content. -/
def requireArchiveProvenance (rows : InitialSaveRows) : Except InitialSaveError Unit :=
  match rows.request.rearchiveSourceArchiveId with
  | some source =>
    match rows.archives.find? (·.id = source) with
    | none => .error (.domain (.recordNotFound "original disc archive" source))
    | some archive => rejectIf (archive.fingerprint ≠ rows.fingerprint)
      (.domain (.invariant "Re-archive source does not match the Archive Job disc identity"))
  | none => rejectIf (∃ archive ∈ rows.archives, archive.fingerprint = rows.fingerprint)
    (.domain (.invariant "DVD content already has Original Disc Archive provenance"))

/-- The row of the archive that a manifest describes. -/
def archiveOf (archivePath : String) (manifest : DvdInitialManifest) (rows : InitialSaveRows)
    (timestamp : Nat) : PublishedArchive where
  id := manifest.originalDiscArchiveId
  discKind := rows.discKind
  detectedDiscId := rows.discId
  fingerprint := rows.fingerprint
  sizeBytes := manifest.boundaryPublishedSizeBytes
  boundaryEvidence := manifest.boundaryEvidence
  integrity := if manifest.unrecoveredSourceRanges = [] then .cleanRead else .incompleteRead
  integrityEvidenceRevision := some 1
  integrityPolicyVersion := DVD_RECOVERY_EVIDENCE_FORMAT
  badSectorCount := (manifest.unrecoveredSourceRanges.map (·.sectorCount)).sum
  badAreaCount := manifest.unrecoveredSourceRanges.length
  badSectorRanges := manifest.unrecoveredSourceRanges.map fun range =>
    (range.startLba, range.sectorCount)
  updatedAt := timestamp
  archivePath
  rearchiveSourceArchiveId := rows.request.rearchiveSourceArchiveId

def headerOf (claim : InitialSaveClaim) (manifest : DvdInitialManifest) (timestamp : Nat) :
    DvdArchiveEvidenceHeader where
  originalDiscArchiveId := manifest.originalDiscArchiveId
  sourceArchiveJobId := claim.id
  boundaryEvidenceDigest := manifest.boundaryEvidenceDigest
  acceptedEndLbaExclusive := manifest.acceptedEndLbaExclusive
  currentManifestId := manifest.id
  currentManifestRevision := 1
  currentManifestDigest := manifest.manifestDigest
  updatedAt := timestamp

/-- The rows once the save is committed. -/
def savedRows (claim : InitialSaveClaim) (archivePath : String) (manifest : DvdInitialManifest)
    (rows : InitialSaveRows) (timestamp : Nat)
    (fresh : ¬∃ archive ∈ rows.archives, archive.id = manifest.originalDiscArchiveId) :
    InitialSaveRows :=
  { rows with
    job := { rows.job with
      status := .completed
      originalDiscArchiveId := some manifest.originalDiscArchiveId }
    request := { rows.request with status := .fulfilled }
    archives := rows.archives ++ [archiveOf archivePath manifest rows timestamp]
    archiveKeys := by
      rw [List.map_append]
      apply List.nodup_append.2
      refine ⟨rows.archiveKeys, List.nodup_singleton _, fun id hid id' hid' he => ?_⟩
      obtain ⟨archive, harchive, rfl⟩ := List.mem_map.1 hid
      exact fresh ⟨archive, harchive, he.trans (List.mem_singleton.1 hid')⟩
    headers := rows.headers ++ [headerOf claim manifest timestamp]
    manifests := rows.manifests ++ [manifest.toEvidenceManifest]
    sourceSamples := rows.sourceSamples ++ manifest.sourceSampleManifest.toList.map fun samples =>
      (manifest.originalDiscArchiveId, samples)
    recoveries := rows.recoveries ++ [manifest.originalDiscArchiveId] }

/-- `archiveJobs.publishDvdInitial`; a primary key that is taken ends the transaction. -/
def publishDvdInitial (claim : InitialSaveClaim) (archivePath : String)
    (manifest : DvdInitialManifest) (expired : Bool) (timestamp : Nat) (rows : InitialSaveRows) :
    Except InitialSaveError InitialSaveRows := do
  requireInitialProvenance sha256 claim manifest
  if rows.jobCompleted claim.id then
    requireCompletedSave claim archivePath manifest rows
    return rows
  else
    rejectIf (archivePath.length = 0) (.domain (.invariant "archivePath must not be empty"))
    requireCurrentInitialClaim claim manifest expired rows
    requireArchiveProvenance rows
    if taken : ∃ archive ∈ rows.archives, archive.id = manifest.originalDiscArchiveId then
      .error .alreadyExists
    else
      rejectIf (∃ row ∈ rows.manifests, row.id = manifest.id) .alreadyExists
      rejectIf (∃ header ∈ rows.headers,
        header.originalDiscArchiveId = manifest.originalDiscArchiveId) .alreadyExists
      rejectIf (∃ samples ∈ manifest.sourceSampleManifest,
          samples.sourceMetadataFingerprint ≠ manifest.imageFingerprint ∨
          samples.acceptedEndLbaExclusive ≠ manifest.acceptedEndLbaExclusive ∨
          samples.checkpointRevision ≠ 1 ∨ samples.checkpointDigest ≠ manifest.manifestDigest)
        (.domain (.invariant "DVD source sample manifest does not match the initial checkpoint"))
      return savedRows claim archivePath manifest rows timestamp taken

/-- The rows are those of the job that a claim is for. -/
def InitialSaveRows.OwnedBy (claim : InitialSaveClaim) (rows : InitialSaveRows) : Prop :=
  ∃ job ∈ rows.findJob claim.id, job.evidenceFormat = some DVD_RECOVERY_EVIDENCE_FORMAT ∧
    job.archiveRequestId = claim.archiveRequestId ∧ job.detectedDiscId = claim.detectedDiscId ∧
    rows.discId = job.detectedDiscId

instance (claim : InitialSaveClaim) (rows : InitialSaveRows) : Decidable (rows.OwnedBy claim) :=
  inferInstanceAs (Decidable (∃ _ ∈ _, _))

/-- `publicationOptions`: the fingerprint of the disc and the header that is there already. -/
def SaveStore.publicationOptions (o : SaveOptions) (w : SaveStore) :
    Except InitialSaveError (String × Option DvdArchiveEvidenceHeader) := do
  rejectIf (¬w.rows.OwnedBy o.claim) (.save .consistencyFault)
  return (w.rows.fingerprint, w.rows.findHeader o.originalDiscArchiveId)

def publicationOptions (o : SaveOptions) :
    SaveProgram (String × Option DvdArchiveEvidenceHeader) :=
  look (SaveStore.publicationOptions o)

def verifyPublication (o : SaveOptions) (intent : PublicationIntent) : SaveProgram Unit := do
  verifyEvidence intent
  verifyCheckpoint intent
  verifyImage (.image o.archivePath) intent.manifest

/-- `commitSave`: the rows are saved between the last look at the files and the cleanup. -/
def commitSave (o : SaveOptions) (intent : PublicationIntent) : SaveProgram Unit := do
  throwIfAborted o
  throwIfAborted o
  let _ ← publicationOptions o
  authorizeMutation o
  throwIfAborted o
  verifyPublication o intent
  throwIfAborted o
  throwIfAborted o
  .transaction fun w => do
    let rows ← publishDvdInitial sha256 o.claim o.archivePath intent.manifest (o.expired w.clock)
      w.clock w.rows
    return ((), { w with rows })
  throwIfAborted o
  throwIfAborted o
  finalizePublication o intent
  throwIfAborted o

/-- `updateDvdInitialClaim`: the same claim when it is renewed, another when it is taken over. -/
def updateDvdInitialClaim (o : SaveOptions) (reclaims : Bool) : SaveProgram InitialSaveClaim :=
  .transaction fun w => do
    rejectIf (w.rows.job.id ≠ o.claim.id ∨ w.rows.job.status ≠ .running ∨
        w.rows.job.archiveRequestId ≠ o.claim.archiveRequestId ∨
        w.rows.job.detectedDiscId ≠ o.claim.detectedDiscId ∨
        w.rows.job.evidenceFormat ≠ some DVD_RECOVERY_EVIDENCE_FORMAT ∨
        w.rows.job.claimToken ≠ some o.claim.claimToken ∨ o.expired w.clock ≠ reclaims ∨
        w.rows.request.id ≠ w.rows.job.archiveRequestId ∨
        w.rows.request.evidenceFormat ≠ some DVD_RECOVERY_EVIDENCE_FORMAT ∨
        w.rows.request.status ≠ .running) (.save .ownershipLost)
    let claimToken := if reclaims then o.newToken w.clock else o.claim.claimToken
    return ({ o.claim with claimToken }, { w with
      rows := { w.rows with job := { w.rows.job with claimToken := some claimToken } } })

/-- `withOwnedClaim`, for a task that the archive and the workspace are held for. -/
def withOwnedClaim (o : SaveOptions) (task : SaveOptions → SaveProgram α) : SaveProgram α := do
  let _ ← publicationOptions o
  throwIfAborted o
  let completed ← look fun w => .ok (w.rows.jobCompleted o.claim.id)
  if completed then task o
  else
    throwIfAborted o
    let expired ← .read fun w => do
      rejectIf (¬∃ job ∈ w.rows.findJob o.claim.id, job.status = .running ∧
        job.claimToken = some o.claim.claimToken) (.save .ownershipLost)
      return o.expired w.clock
    if expired then
      .done (rejectIf (o.writerIsActive ≠ some false) (.save .ownershipLost))
      throwIfAborted o
      let claim ← updateDvdInitialClaim o true
      task { o with claim }
    else
      let claim ← updateDvdInitialClaim o false
      task { o with claim }

/-- `saveDvdInitialArchiveForArchiveJob`. -/
def saveDvdInitialArchiveForArchiveJob (o : SaveOptions) (stagingPath : String)
    (proven : ProvenDvdInitialArchiveBoundary) : SaveProgram Unit := do
  let _ ← publicationOptions o
  withOwnedClaim o fun owned => do
    let (imageFingerprint, projection) ← publicationOptions owned
    let intent ← publishDvdInitialArchive sha256 owned projection imageFingerprint
      stagingPath proven
    commitSave sha256 owned intent

/-- `reconcileDvdInitialArchiveForArchiveJob`. -/
def reconcileDvdInitialArchiveForArchiveJob (o : SaveOptions) : SaveProgram Unit := do
  let (fingerprint, _) ← publicationOptions o
  .done (rejectIf (¬isArchivePathId o.originalDiscArchiveId) (.publication .pathConflict))
  let expected ← readIntent sha256 o fingerprint
  withOwnedClaim o fun owned => do
    let (imageFingerprint, projection) ← publicationOptions owned
    let intent ← reconcileDvdInitialArchivePublication sha256 owned projection imageFingerprint
      expected.stagingPath
    commitSave sha256 owned intent

end RipDvd
