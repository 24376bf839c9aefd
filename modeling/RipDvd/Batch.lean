import RipDvd.Program
import RipDvd.Work
import RipDvd.Journal

namespace RipDvd
set_option autoImplicit true

/-- Everything durable about one archive. -/
structure World where
  disk : Disk
  catalog : Catalog

inductive DvdRecoveryBatchFaultCode where
  | consistencyFault
  | checkpointCapacityExhausted
  | storageUnsupported
  | discVerificationStale
  | journalCapacityInsufficient
  deriving DecidableEq

structure DvdRecoveryBatchFault where
  code : DvdRecoveryBatchFaultCode
  retainRecoveryWork : Bool
  storageFault : Bool
  deriving DecidableEq

def batchFault (code : DvdRecoveryBatchFaultCode) : DvdRecoveryBatchFault := ⟨code, false, false⟩

/-- Whatever else is thrown surfaces as a consistency fault. -/
def consistencyFault : DvdRecoveryBatchFault := batchFault .consistencyFault

def storageUnsupported : DvdRecoveryBatchFault := ⟨.storageUnsupported, false, true⟩

/-- One sector that was read; `bytes` is empty when the read failed. -/
structure DvdRecoveryReadObservation where
  startLba : Nat
  outcome : RecoveryReadOutcome
  bytes : Bytes
  deriving DecidableEq

/-- `inspected` is what the atomic writer reports about the image, `writtenAt` the modification
times its unit writes leave, `now` the clock at the projection. -/
structure DvdRecoveryBatchOptions where
  originalDiscArchiveId : String
  recoveryWorkClaim : ClaimedArchiveRecoveryWork
  writeAuthority : DvdRecoveryWriteAuthority
  observation : DvdRecoveryReadObservation
  inspected : Option DvdRecoveryMutationProtection
  pid : Nat
  now : Nat
  writtenAt : Nat → Nat

/-- The archive, the header and the recovery of the archive a batch is for. -/
def Catalog.isOf (c : Catalog) (archiveId : String) : Prop :=
  c.archive.id = archiveId ∧ c.header.originalDiscArchiveId = archiveId ∧
    c.recovery.originalDiscArchiveId = archiveId

instance (c : Catalog) (archiveId : String) : Decidable (c.isOf archiveId) :=
  inferInstanceAs (Decidable (_ ∧ _))

def assertRecoveryWorkClaim (o : DvdRecoveryBatchOptions) (c : Catalog) :
    Except DvdRecoveryBatchFault ArchiveRecoveryWork := do
  rejectIf (o.recoveryWorkClaim.originalDiscArchiveId ≠ o.originalDiscArchiveId) consistencyFault
  withError (fun _ => consistencyFault) (requireCurrentArchiveRecoveryClaim c o.recoveryWorkClaim)

def sameWriteAuthority (authority : DvdRecoveryWriteAuthority)
    (verification : DvdDiscVerification) : Prop :=
  verification.id = authority.verificationId ∧
  verification.archiveRecoveryId = authority.archiveRecoveryId ∧
  verification.archiveRecoveryAttemptId = some authority.archiveRecoveryAttemptId ∧
  verification.originalDiscArchiveId = authority.originalDiscArchiveId ∧
  verification.discInspectionId = authority.discInspectionId ∧
  verification.detectedDiscId = authority.detectedDiscId ∧
  verification.mediaGeneration = authority.mediaGeneration ∧
  verification.workerExecutionId = some authority.verificationWorkerExecutionId ∧
  verification.checkpointRevision = authority.checkpointRevision ∧
  verification.checkpointDigest = authority.checkpointDigest

instance (authority : DvdRecoveryWriteAuthority) (verification : DvdDiscVerification) :
    Decidable (sameWriteAuthority authority verification) :=
  inferInstanceAs (Decidable (_ ∧ _))

/-- The disc is the one that was verified, or the one an operator confirmed. -/
def sourceAuthorized (authority : DvdRecoveryWriteAuthority) (verification : DvdDiscVerification)
    (work : ArchiveRecoveryWork) (detectedDisc : DetectedDisc) (c : Catalog) : Prop :=
  match authority.discConfirmationId with
  | none => verification.outcome = some .match ∧ work.discConfirmationId = none ∧
    verification.sourceMetadataFingerprint = verification.observedMetadataFingerprint ∧
    verification.sourceMetadataFingerprint = c.archive.fingerprint ∧
    verification.observedMetadataFingerprint = detectedDisc.fingerprint
  | some confirmationId => ∃ confirmation ∈ c.findConfirmation confirmationId,
    (∃ confirmed ∈ dvdConfirmedRecoveryWriteAuthority verification confirmation,
      confirmed.discConfirmationId = some confirmationId) ∧
    work.discConfirmationId = some confirmationId ∧
    work.claimedBy = some confirmation.verificationWorkerExecutionId

instance (authority : DvdRecoveryWriteAuthority) (verification : DvdDiscVerification)
    (work : ArchiveRecoveryWork) (detectedDisc : DetectedDisc) (c : Catalog) :
    Decidable (sourceAuthorized authority verification work detectedDisc c) := by
  unfold sourceAuthorized
  cases authority.discConfirmationId <;> infer_instance

/-- The checkpoint a verification was made at is the current one or an ancestor of it. -/
def verifiedBase (header : DvdArchiveEvidenceHeader) (verification : DvdDiscVerification) : Prop :=
  verification.checkpointRevision ≤ header.currentManifestRevision ∧
    (header.currentManifestRevision = verification.checkpointRevision →
      header.currentManifestDigest = verification.checkpointDigest)

instance (header : DvdArchiveEvidenceHeader) (verification : DvdDiscVerification) :
    Decidable (verifiedBase header verification) :=
  inferInstanceAs (Decidable (_ ∧ _))

def Catalog.findInspection (c : Catalog) (id : String) : Option DiscInspection :=
  c.inspections.find? (·.id = id)

def Catalog.findDetectedDisc (c : Catalog) (id : String) : Option DetectedDisc :=
  c.detectedDiscs.find? (·.id = id)

/-- What makes a write authority good for the claim that uses it. -/
def writeAuthorityCurrent (o : DvdRecoveryBatchOptions) (work : ArchiveRecoveryWork) (c : Catalog)
    (requireBaseCheckpoint : Bool) : Prop :=
  o.writeAuthority.originalDiscArchiveId = o.originalDiscArchiveId ∧
  o.writeAuthority.archiveRecoveryId = o.recoveryWorkClaim.archiveRecoveryId ∧
  o.writeAuthority.archiveRecoveryAttemptId = o.recoveryWorkClaim.attemptId ∧
  c.recovery.attemptId = o.writeAuthority.archiveRecoveryAttemptId ∧
  c.archive.id = o.originalDiscArchiveId ∧
  ∃ verification ∈ c.findVerification o.writeAuthority.verificationId,
    c.latestVerification.map (·.id) = some verification.id ∧
    verification.status = .completed ∧
    work.verificationId = some verification.id ∧
    sameWriteAuthority o.writeAuthority verification ∧
    (∃ detectedDisc ∈ c.findDetectedDisc verification.detectedDiscId,
      sourceAuthorized o.writeAuthority verification work detectedDisc c) ∧
    dvdDiscVerificationInsertionIsCurrent verification
      (c.findInspection verification.discInspectionId) ∧
    (requireBaseCheckpoint → c.header.originalDiscArchiveId = o.originalDiscArchiveId ∧
      verifiedBase c.header verification)

instance (o : DvdRecoveryBatchOptions) (work : ArchiveRecoveryWork) (c : Catalog)
    (requireBaseCheckpoint : Bool) :
    Decidable (writeAuthorityCurrent o work c requireBaseCheckpoint) :=
  inferInstanceAs (Decidable (_ ∧ _))

def assertRecoveryWriteAuthority (o : DvdRecoveryBatchOptions) (requireBaseCheckpoint : Bool)
    (c : Catalog) : Except DvdRecoveryBatchFault Unit := do
  let work ← withError (fun _ => consistencyFault)
    (requireCurrentArchiveRecoveryClaim c o.recoveryWorkClaim)
  rejectIf (¬writeAuthorityCurrent o work c requireBaseCheckpoint)
    (batchFault .discVerificationStale)

/-- The claim and the authority, as every step checks them before it mutates anything. -/
def assertMayMutate (o : DvdRecoveryBatchOptions) (requireBaseCheckpoint : Bool) (w : World) :
    Except DvdRecoveryBatchFault Unit := do
  let _ ← assertRecoveryWorkClaim o w.catalog
  assertRecoveryWriteAuthority o requireBaseCheckpoint w.catalog

def assertClaimed (o : DvdRecoveryBatchOptions) (w : World) :
    Except DvdRecoveryBatchFault Unit := do
  let _ ← assertRecoveryWorkClaim o w.catalog

abbrev BatchProgram := Program World DvdRecoveryBatchFault

/-- One durable step; a fault after its checks keeps the work row for a reconciliation. -/
def batchStep (o : DvdRecoveryBatchOptions) (requireBaseCheckpoint : Bool)
    (work : BatchProgram α) : BatchProgram α := do
  Program.read (assertMayMutate o requireBaseCheckpoint)
  Program.read (assertMayMutate o requireBaseCheckpoint)
  Program.mapError (fun fault => { fault with retainRecoveryWork := true }) do
    let result ← work
    Program.read (assertClaimed o)
    Program.read (assertClaimed o)
    return result

variable (sha256 : Hashed → Digest) (metadataLength : DvdRecoveryJournalMetadata → Nat)

def recoveryReadFor (archiveId : String) (current : CommittedDvdCheckpointEvidence)
    (observation : DvdRecoveryReadObservation) (authority : DvdRecoveryWriteAuthority) :
    Except DomainError RecoveryRead := do
  let input : DvdArchiveRecoveryReadEvidenceDigestInput := {
    originalDiscArchiveId := archiveId
    fromManifestId := current.manifest.id
    fromManifestRevision := current.manifest.revision
    startLba := observation.startLba
    sectorCount := 1
    outcome := observation.outcome
    verificationId := some authority.verificationId
    discConfirmationId := some authority.discConfirmationId }
  let evidenceDigest ← createDvdArchiveRecoveryReadEvidenceDigest sha256 input
  return { input with
    id := s!"{archiveId}:recovery-read:{current.manifest.revision + 1}"
    evidenceDigest }

/-- The digest input of the successor of `current`. -/
def successorDigestInput (current : CommittedDvdCheckpointEvidence) (recoveryRead : RecoveryRead)
    (nextRanges : List UnrecoveredSourceRange) : DvdArchiveEvidenceManifestDigestInput where
  originalDiscArchiveId := current.manifest.originalDiscArchiveId
  revision := current.manifest.revision + 1
  previousManifestId := some current.manifest.id
  previousManifestDigest := some current.manifest.manifestDigest
  recoveryReadId := some recoveryRead.id
  recoveryReadEvidenceDigest := some recoveryRead.evidenceDigest
  evidenceFormat := current.manifest.evidenceFormat
  imageFingerprint := current.manifest.imageFingerprint
  sectorSizeBytes := current.manifest.sectorSizeBytes
  acceptedEndLbaExclusive := current.manifest.acceptedEndLbaExclusive
  boundaryPolicyVersion := current.manifest.boundaryPolicyVersion
  boundaryReportedSizeBytes := current.manifest.boundaryReportedSizeBytes
  boundaryPublishedSizeBytes := current.manifest.boundaryPublishedSizeBytes
  boundaryEvidenceDigest := current.manifest.boundaryEvidenceDigest
  unrecoveredSourceRanges := nextRanges

/-- What a batch has done to the image when it writes its manifest. -/
structure BatchMutation where
  image : ImageVersion
  journalDigest : Option Digest
  protectedRanges : List DvdRecoveryProtectedRange
  deriving DecidableEq

def recoveryManifestFor (current : CommittedDvdCheckpointEvidence) (recoveryRead : RecoveryRead)
    (mutation : BatchMutation) (nextRanges : List UnrecoveredSourceRange) :
    Except DomainError CommittedDvdRecoveryEvidence := do
  let digestInput := successorDigestInput current recoveryRead nextRanges
  let digests ← createDvdArchiveEvidenceManifestDigests sha256 digestInput
  let payload : RecoveryCheckpointPayload := { digestInput with
    unrecoveredSourceRangesDigest := digests.1
    manifestDigest := digests.2
    id := s!"{current.manifest.originalDiscArchiveId}:recovery:{current.manifest.revision + 1}"
    checkpointFormat := "dvd-recovery-batch-v1"
    sourceArchiveJobId := current.sourceArchiveJobId
    rootPublicationDigest := current.rootPublicationDigest
    previousPublicationDigest := current.publicationDigest
    image := mutation.image
    previousImage := current.image
    boundaryEvidence := current.boundaryEvidence
    recoveryRead
    journalDigest := mutation.journalDigest
    protectedRanges := mutation.protectedRanges }
  return { payload with
    publicationDigest := createDvdRecoveryCheckpointPublicationDigest sha256 payload }

/-- The mutation protection the library's storage was verified to have. -/
def requireMutationProtection (c : Catalog) :
    Except DvdRecoveryBatchFault DvdRecoveryMutationProtection :=
  match c.storage with
  | some { status := "supported", mutationProtection := some protection } => .ok protection
  | _ => .error storageUnsupported

/-- What a batch has read and checked before it touches anything. -/
structure AdmittedBatch where
  protection : DvdRecoveryMutationProtection
  current : CommittedDvdCheckpointEvidence
  recoveryRead : RecoveryRead

/-- Every check of a batch before its first mutation. -/
def admitBatch (o : DvdRecoveryBatchOptions) (w : World) :
    Except DvdRecoveryBatchFault AdmittedBatch := do
  assertMayMutate o true w
  rejectIf (¬w.catalog.isOf o.originalDiscArchiveId ∨
      w.catalog.recovery.status ∉ [ArchiveRecoveryStatus.running, .stopping]) consistencyFault
  rejectIf (∃ latest ∈ w.catalog.latestReconciliation, latest.status ≠ "completed") consistencyFault
  rejectIf (w.catalog.header.currentManifestRevision ≥ DVD_RECOVERY_MAX_CHECKPOINT_REVISION)
    (batchFault .checkpointCapacityExhausted)
  let protection ← requireMutationProtection w.catalog
  let current ← withError (fun _ => consistencyFault)
    (readCommittedDvdCheckpoint sha256 w.disk w.catalog)
  rejectIf (current.manifest.revision ≠ w.catalog.header.currentManifestRevision ∨
      current.manifest.manifestDigest ≠ w.catalog.header.currentManifestDigest) consistencyFault
  rejectIf (current.manifest.revision < o.writeAuthority.checkpointRevision ∨
      (current.manifest.revision = o.writeAuthority.checkpointRevision ∧
        current.manifest.manifestDigest ≠ o.writeAuthority.checkpointDigest))
    (batchFault .discVerificationStale)
  rejectIf (o.observation.startLba > maxSafeInteger ∨
      (o.observation.outcome = .recovered ∧ o.observation.bytes.length ≠ 2048)) consistencyFault
  rejectIf (¬∃ range ∈ current.manifest.unrecoveredSourceRanges,
    range.contains o.observation.startLba) consistencyFault
  let recoveryRead ← withError (fun _ => consistencyFault)
    (recoveryReadFor sha256 o.originalDiscArchiveId current o.observation o.writeAuthority)
  return { protection, current, recoveryRead }

/-- The storage units a recovered sector touches, as they are and as they will be. -/
structure ProtectedUnits where
  startByte : Nat
  unitBytes : Nat
  before : Bytes
  after : Bytes
  deriving DecidableEq

def ProtectedUnits.count (units : ProtectedUnits) : Nat := units.before.length / units.unitBytes

def ProtectedUnits.unit (units : ProtectedUnits) (bytes : Bytes) (index : Nat) : Bytes :=
  slice bytes (index * units.unitBytes) units.unitBytes

def ProtectedUnits.ranges (units : ProtectedUnits) : List DvdRecoveryProtectedRange :=
  (List.range units.count).map fun index => {
    startByte := units.startByte + index * units.unitBytes
    byteCount := units.unitBytes
    unitBytes := units.unitBytes
    beforeDigest := sha256 (.bytes (units.unit units.before index))
    afterDigest := sha256 (.bytes (units.unit units.after index)) }

/-- Find the units of the observed sector and read them, once the writer can protect them. -/
def protectUnits (o : DvdRecoveryBatchOptions) (admitted : AdmittedBatch) (w : World) :
    Except DvdRecoveryBatchFault ProtectedUnits := do
  rejectIf (o.inspected ≠ some admitted.protection) storageUnsupported
  let unitBytes := admitted.protection.unitBytes
  let sectorStart := o.observation.startLba * 2048
  let startByte := unitStart sectorStart unitBytes
  let byteCount := unitEnd sectorStart unitBytes - startByte
  let published := admitted.current.manifest.boundaryPublishedSizeBytes
  rejectIf (sectorStart > maxSafeInteger ∨ unitEnd sectorStart unitBytes > published ∨
      byteCount > DVD_RECOVERY_JOURNAL_PAYLOAD_BYTES)
    (batchFault .journalCapacityInsufficient)
  rejectIf (w.disk.image.bytes.length ≠ published ∨
      w.disk.image.version ≠ admitted.current.image) consistencyFault
  let before := slice w.disk.image.bytes startByte byteCount
  return {
    startByte, unitBytes, before
    after := patch before (sectorStart - startByte) o.observation.bytes }

/-- The undo journal of a batch. -/
def journalFor (o : DvdRecoveryBatchOptions) (admitted : AdmittedBatch) (units : ProtectedUnits) :
    DvdRecoveryJournalDigestInput where
  originalDiscArchiveId := o.originalDiscArchiveId
  image := admitted.current.image
  imageSizeBytes := admitted.current.manifest.boundaryPublishedSizeBytes
  base := {
    manifestId := admitted.current.manifest.id
    revision := admitted.current.manifest.revision
    manifestDigest := admitted.current.manifest.manifestDigest
    publicationDigest := admitted.current.publicationDigest
    unrecoveredSourceRanges := admitted.current.manifest.unrecoveredSourceRanges }
  recoveryRead := {
    id := admitted.recoveryRead.id
    startLba := admitted.recoveryRead.startLba
    sectorCount := 1
    outcome := .recovered
    sourceBytesDigest := sha256 (.bytes o.observation.bytes) }
  protectedRanges := (units.ranges sha256).mapIdx fun index range =>
    { range with payloadOffset := index * units.unitBytes }

/-- A journal header with its digest. -/
def completeJournal (journal : DvdRecoveryJournalDigestInput) (originalBytes : Bytes) :
    DvdRecoveryJournalMetadata :=
  { journal with journalDigest := createDvdRecoveryJournalDigest sha256 journal originalBytes }

def updateDisk (f : Disk → Disk) : BatchProgram Unit :=
  Program.modify fun w => { w with disk := f w.disk }

/-- Create a file exclusively; one that is there already is a consistency fault. -/
def createExclusively (present : Disk → Bool) (create : Disk → Disk) : BatchProgram Unit :=
  Program.transaction fun w =>
    if present w.disk then .error consistencyFault
    else .ok ((), { w with disk := create w.disk })

/-- Reserve, then write the header, then the original bytes. -/
def reserveJournal (metadata : DvdRecoveryJournalMetadata) (originalBytes : Bytes) :
    BatchProgram Unit := do
  if ¬fitsJournalHeader metadataLength metadata ∨
      originalBytes.length > DVD_RECOVERY_JOURNAL_PAYLOAD_BYTES then
    Program.fail (batchFault .journalCapacityInsufficient)
  else
    createExclusively (·.journal.isSome) fun d => { d with journal := some ⟨false, none, none⟩ }
    updateDisk fun d => { d with journal := some ⟨true, none, none⟩ }
    updateDisk fun d => { d with journal := some ⟨true, some metadata, none⟩ }
    updateDisk fun d => { d with journal := some ⟨true, some metadata, some originalBytes⟩ }

/-- One all-or-nothing write of a storage unit. -/
def writeUnit (disk : Disk) (startByte : Nat) (bytes : Bytes) (mtimeNs : Nat) : Disk :=
  { disk with image := { disk.image with
    bytes := patch disk.image.bytes startByte bytes, mtimeNs } }

def writeUnits (o : DvdRecoveryBatchOptions) (units : ProtectedUnits) : BatchProgram Unit :=
  Program.each (List.range units.count) fun index =>
    updateDisk fun d => writeUnit d (units.startByte + index * units.unitBytes)
      (units.unit units.after index) (o.writtenAt index)

/-- Read the units back and take the version the image has now. -/
def verifyWrittenImage (current : CommittedDvdCheckpointEvidence) (units : ProtectedUnits)
    (w : World) : Except DvdRecoveryBatchFault ImageVersion := do
  rejectIf (slice w.disk.image.bytes units.startByte units.after.length ≠ units.after)
    consistencyFault
  rejectIf (w.disk.image.bytes.length ≠ current.manifest.boundaryPublishedSizeBytes ∨
      w.disk.image.filesystemIdentity ≠ current.image.filesystemIdentity) consistencyFault
  return w.disk.image.version

def Disk.setManifest (d : Disk) (revision : Nat) (manifest : Option CommittedDvdRecoveryEvidence) :
    Disk :=
  { d with manifests := fun r => if r = revision then manifest else d.manifests r }

def Disk.setManifestTemporary (d : Disk) (revision pid : Nat)
    (file : Option (Option CommittedDvdRecoveryEvidence)) : Disk :=
  { d with manifestTemporaries := fun r p =>
      if r = revision ∧ p = pid then file else d.manifestTemporaries r p }

def Disk.setPointerTemporary (d : Disk) (pid : Nat) (file : Option (Option DvdCheckpointPointer)) :
    Disk :=
  { d with pointerTemporaries := fun p => if p = pid then file else d.pointerTemporaries p }

/-- Install a manifest once: write a temporary of this process, link it, unlink it. -/
def installImmutableRecord (pid : Nat) (manifest : CommittedDvdRecoveryEvidence) :
    BatchProgram Unit := do
  let existing ← Program.read fun w => .ok (w.disk.manifests manifest.revision)
  match existing with
  | some record => if record ≠ manifest then Program.fail consistencyFault else pure ()
  | none =>
    createExclusively (fun d => (d.manifestTemporaries manifest.revision pid).isSome)
      (·.setManifestTemporary manifest.revision pid (some none))
    updateDisk (·.setManifestTemporary manifest.revision pid (some (some manifest)))
    Program.ensure
      (createExclusively (fun d => (d.manifests manifest.revision).isSome)
        (·.setManifest manifest.revision (some manifest)))
      (updateDisk (·.setManifestTemporary manifest.revision pid none))

/-- `rename` puts the temporary's contents in the pointer's place. -/
def Disk.renamePointer (d : Disk) (pid : Nat) : Disk :=
  match d.pointerTemporaries pid with
  | some (some pointer) => { d.setPointerTemporary pid none with pointer }
  | _ => d

/-- Replace the pointer through a temporary of this process, and read it back. -/
def replacePointer (pid : Nat) (pointer : DvdCheckpointPointer) : BatchProgram Unit := do
  createExclusively (fun d => (d.pointerTemporaries pid).isSome)
    (·.setPointerTemporary pid (some none))
  updateDisk (·.setPointerTemporary pid (some (some pointer)))
  updateDisk (·.renamePointer pid)
  updateDisk (·.setPointerTemporary pid none)
  Program.read fun w => rejectIf (w.disk.pointer ≠ pointer) consistencyFault

/-- Run a catalog transaction inside the world. -/
def catalogTransaction (f : Catalog → Except DomainError (α × Catalog)) : BatchProgram α :=
  Program.transaction fun w =>
    (withError (fun _ => consistencyFault) (f w.catalog)).map fun (a, c) =>
      (a, { w with catalog := c })

structure CommittedBatch where
  manifest : CommittedDvdRecoveryEvidence
  header : DvdArchiveEvidenceHeader

/-- The manifest, pointer and database steps. -/
def commitManifest (o : DvdRecoveryBatchOptions) (admitted : AdmittedBatch)
    (mutation : BatchMutation) : BatchProgram CommittedBatch := do
  let manifest ← Program.read fun _ => withError (fun _ => consistencyFault) do
    let nextRanges ← dvdEvidenceRangesAfterRecoveryRead
      admitted.current.manifest.unrecoveredSourceRanges o.observation.startLba o.observation.outcome
    recoveryManifestFor sha256 admitted.current admitted.recoveryRead mutation nextRanges
  batchStep o true (installImmutableRecord o.pid manifest)
  batchStep o true do
    Program.read fun w => rejectIf (w.disk.pointer ≠ pointerTo admitted.current) consistencyFault
    replacePointer o.pid (pointerTo (.recovery manifest))
  let header ← batchStep o true (catalogTransaction (projectDvdRecoveryCheckpoint sha256 o.now {
    claim := some o.recoveryWorkClaim
    recoveryRead := admitted.recoveryRead
    manifest := manifest.toEvidenceManifest }))
  return { manifest, header }

/-- The journal, write and image sync steps of a recovered sector. -/
def mutateImage (o : DvdRecoveryBatchOptions) (admitted : AdmittedBatch) (units : ProtectedUnits) :
    BatchProgram BatchMutation := do
  let metadata := completeJournal sha256 (journalFor sha256 o admitted units) units.before
  batchStep o true (reserveJournal metadataLength metadata units.before)
  batchStep o true (writeUnits o units)
  let image ← batchStep o true (Program.read (verifyWrittenImage admitted.current units))
  return {
    image
    journalDigest := some metadata.journalDigest
    protectedRanges := units.ranges sha256 }

/-- The cleanup step: the journal must be there to be unlinked. -/
def unlinkJournal : BatchProgram Unit :=
  Program.transaction fun w =>
    if w.disk.journal.isNone then .error consistencyFault
    else .ok ((), { w with disk := { w.disk with journal := none } })

def runOwnedBatch (o : DvdRecoveryBatchOptions) : BatchProgram CommittedBatch := do
  let admitted ← Program.read (admitBatch sha256 o)
  match o.observation.outcome with
  | .recovered =>
    let units ← Program.read (protectUnits o admitted)
    let mutation ← mutateImage sha256 metadataLength o admitted units
    let committed ← commitManifest sha256 o admitted mutation
    batchStep o false unlinkJournal
    return committed
  | .failed =>
    commitManifest sha256 o admitted {
      image := admitted.current.image
      journalDigest := none
      protectedRanges := [] }

/-- The claim a batch goes on with; a manual claim is bound to its verification first. -/
def bindRecoveryWorkClaim (o : DvdRecoveryBatchOptions) :
    BatchProgram ClaimedArchiveRecoveryWork := do
  let work ← Program.read fun w => withError (fun _ => consistencyFault)
    (requireCurrentArchiveRecoveryClaim w.catalog o.recoveryWorkClaim)
  if work.verificationId = none then
    catalogTransaction (bindVerification o.recoveryWorkClaim o.writeAuthority o.now)
  else return work.claimedAs o.recoveryWorkClaim

/-- Commit one bounded recovery evidence unit. -/
def commitDvdRecoveryBatch (o : DvdRecoveryBatchOptions) : BatchProgram CommittedBatch := do
  let recoveryWorkClaim ← bindRecoveryWorkClaim o
  let current := { o with recoveryWorkClaim }
  Program.read fun w => assertRecoveryWriteAuthority current true w.catalog
  Program.read fun w => rejectIf (¬isArchivePathId w.catalog.archive.id) consistencyFault
  runOwnedBatch sha256 metadataLength current

end RipDvd
