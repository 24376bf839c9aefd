import RipDvd.Blocks
import RipDvd.Catalog
import Mathlib.Algebra.GroupWithZero.Nat

namespace RipDvd
set_option autoImplicit true

/-- `<archive>.iso`. -/
structure ImageFile where
  filesystemIdentity : FilesystemIdentity
  bytes : Bytes
  mtimeNs : Nat
  deriving DecidableEq

def ImageFile.version (image : ImageFile) : ImageVersion :=
  ⟨image.filesystemIdentity, image.mtimeNs⟩

/-- `recovery-journal.bin`: the reservation, its header and its payload are written in turn; a part
that is not written yet holds zeros. -/
structure JournalFile where
  reserved : Bool
  metadata : Option DvdRecoveryJournalMetadata
  originalBytes : Option Bytes
  deriving DecidableEq

/-- `checkpoint.json`. -/
@[ext]
structure DvdCheckpointPointer where
  originalDiscArchiveId : String
  currentManifestId : String
  currentManifestRevision : Nat
  currentManifestDigest : Digest
  publicationDigest : Digest
  deriving DecidableEq

/-- The image of one archive and its `.dvd-evidence` directory. A temporary is created empty. -/
structure Disk where
  image : ImageFile
  initialManifest : CommittedDvdInitialEvidence
  pointer : DvdCheckpointPointer
  /-- `recovery-manifest-<revision>.json` -/
  manifests : Nat → Option CommittedDvdRecoveryEvidence
  journal : Option JournalFile
  /-- `recovery-manifest-<revision>.json.<pid>.tmp` -/
  manifestTemporaries : Nat → Nat → Option (Option CommittedDvdRecoveryEvidence)
  /-- `checkpoint.json.<pid>.next` -/
  pointerTemporaries : Nat → Option (Option DvdCheckpointPointer)

inductive DvdCheckpointReadFault where
  | consistencyFault
  | publicationPathConflict
  | publicationManifestConflict
  | publicationCheckpointConflict
  | publicationProjectionAhead
  | publicationImageConflict
  deriving DecidableEq

/-- `/^[A-Za-z0-9][A-Za-z0-9_-]{0,127}$/` -/
def isArchivePathId (id : String) : Bool :=
  match id.toList with
  | [] => false
  | first :: rest =>
    first.isAlphanum && rest.length ≤ 127 &&
      rest.all fun c => c.isAlphanum || c = '_' || c = '-'

def pointerTo (evidence : CommittedDvdCheckpointEvidence) : DvdCheckpointPointer where
  originalDiscArchiveId := evidence.manifest.originalDiscArchiveId
  currentManifestId := evidence.manifest.id
  currentManifestRevision := evidence.manifest.revision
  currentManifestDigest := evidence.manifest.manifestDigest
  publicationDigest := evidence.publicationDigest

variable (sha256 : Hashed → Digest)

def assertDvdArchiveBoundaryEvidenceDigest (boundaryEvidence : ArchiveBoundaryEvidence)
    (boundaryEvidenceDigest : Digest) : Except DomainError Unit :=
  rejectIf (sha256 (.boundaryEvidence boundaryEvidence) ≠ boundaryEvidenceDigest)
    (.invariant "Archive Boundary Evidence digest does not match its contents")

def assertRecoveryManifestStaticProvenance (manifest : RecoveryCheckpointPayload)
    (initial : CommittedDvdInitialEvidence) : Except DomainError Unit :=
  rejectIf (manifest.originalDiscArchiveId ≠ initial.originalDiscArchiveId ∨
      changedImmutableEvidence manifest.toEvidenceManifest initial.toEvidenceManifest ∨
      manifest.boundaryEvidence ≠ initial.boundaryEvidence ∨
      manifest.sourceArchiveJobId ≠ initial.sourceArchiveJobId ∨
      manifest.rootPublicationDigest ≠ initial.publicationDigest)
    (.invariant "Recovery manifest provenance differs")

/-- The first byte of the storage unit that holds a sector's first byte. -/
def unitStart (sectorStart unitBytes : Nat) : Nat := sectorStart / unitBytes * unitBytes

/-- The end of the storage unit that holds a sector's last byte. -/
def unitEnd (sectorStart unitBytes : Nat) : Nat :=
  (sectorStart + 2048 + unitBytes - 1) / unitBytes * unitBytes

def protectedByteCount (ranges : List DvdRecoveryProtectedRange) : Nat :=
  (ranges.map (·.byteCount)).sum

/-- A recovered sector's ranges are exactly the storage units the sector touches. -/
def coversRecoveredSector (manifest : RecoveryCheckpointPayload) : Prop :=
  ∃ first ∈ manifest.protectedRanges.head?,
    (∀ entry ∈ manifest.protectedRanges.zipIdx,
      entry.1.unitBytes = first.unitBytes ∧ entry.1.byteCount = first.unitBytes ∧
        entry.1.startByte = unitStart (manifest.recoveryRead.startLba * manifest.sectorSizeBytes)
          first.unitBytes + entry.2 * first.unitBytes) ∧
    unitEnd (manifest.recoveryRead.startLba * manifest.sectorSizeBytes) first.unitBytes =
      unitStart (manifest.recoveryRead.startLba * manifest.sectorSizeBytes) first.unitBytes +
        protectedByteCount manifest.protectedRanges

instance (manifest : RecoveryCheckpointPayload) : Decidable (coversRecoveredSector manifest) :=
  inferInstanceAs (Decidable (∃ first ∈ manifest.protectedRanges.head?, _))

def DvdRecoveryProtectedRange.wellFormed (range : DvdRecoveryProtectedRange) (limit : Nat) : Prop :=
  range.startByte ≤ maxSafeInteger ∧ 0 < range.byteCount ∧ range.byteCount ≤ maxSafeInteger ∧
    0 < range.unitBytes ∧ range.unitBytes ≤ maxSafeInteger ∧
    range.startByte % range.unitBytes = 0 ∧ range.byteCount % range.unitBytes = 0 ∧
    range.startByte + range.byteCount ≤ limit

instance (range : DvdRecoveryProtectedRange) (limit : Nat) : Decidable (range.wellFormed limit) :=
  inferInstanceAs (Decidable (_ ∧ _))

/-- The shape of a recovery manifest, before its digests are looked at. -/
def recoveryManifestShape (manifest : RecoveryCheckpointPayload)
    (initial : CommittedDvdInitialEvidence) : Prop :=
  manifest.checkpointFormat = "dvd-recovery-batch-v1" ∧
  0 < manifest.id.length ∧ manifest.id.length ≤ 256 ∧
  2 ≤ manifest.revision ∧ manifest.revision ≤ DVD_RECOVERY_MAX_CHECKPOINT_REVISION ∧
  manifest.id = s!"{initial.originalDiscArchiveId}:recovery:{manifest.revision}" ∧
  manifest.previousManifestId ≠ none ∧ manifest.previousManifestDigest ≠ none ∧
  manifest.recoveryReadId = some manifest.recoveryRead.id ∧
  manifest.recoveryReadEvidenceDigest = some manifest.recoveryRead.evidenceDigest ∧
  manifest.recoveryRead.originalDiscArchiveId = initial.originalDiscArchiveId ∧
  protectedByteCount manifest.protectedRanges ≤ DVD_RECOVERY_JOURNAL_PAYLOAD_BYTES ∧
  (if manifest.recoveryRead.outcome = .recovered then
    manifest.journalDigest ≠ none ∧ coversRecoveredSector manifest
  else manifest.journalDigest = none ∧ manifest.protectedRanges = []) ∧
  ∀ range ∈ manifest.protectedRanges, range.wellFormed manifest.boundaryPublishedSizeBytes

instance (manifest : RecoveryCheckpointPayload) (initial : CommittedDvdInitialEvidence) :
    Decidable (recoveryManifestShape manifest initial) :=
  inferInstanceAs (Decidable (_ ∧ _))

/-- Validate one published recovery manifest on its own. -/
def assertRecoveryManifestRecord (manifest : CommittedDvdRecoveryEvidence)
    (initial : CommittedDvdInitialEvidence) : Except DomainError Unit := do
  rejectIf (manifest.publicationDigest ≠
      createDvdRecoveryCheckpointPublicationDigest sha256 manifest.toRecoveryCheckpointPayload ∨
      ¬recoveryManifestShape manifest.toRecoveryCheckpointPayload initial)
    (.invariant "Recovery manifest shape differs")
  assertDvdArchiveEvidenceManifestDigests sha256 manifest.toEvidenceManifest
  assertDvdArchiveRecoveryReadEvidenceDigest sha256
    manifest.recoveryRead.toDvdArchiveRecoveryReadEvidenceDigestInput
    manifest.recoveryRead.evidenceDigest
  assertRecoveryManifestStaticProvenance manifest.toRecoveryCheckpointPayload initial

/-- Validate that one manifest is the successor of another. -/
def assertRecoveryManifestTransition (manifest : CommittedDvdRecoveryEvidence)
    (previous : CommittedDvdCheckpointEvidence) : Except DomainError Unit := do
  rejectIf (manifest.revision ≠ previous.manifest.revision + 1 ∨
      manifest.previousManifestId ≠ some previous.manifest.id ∨
      manifest.previousManifestDigest ≠ some previous.manifest.manifestDigest ∨
      manifest.previousPublicationDigest ≠ previous.publicationDigest ∨
      manifest.previousImage ≠ previous.image ∨
      manifest.recoveryRead.fromManifestId ≠ previous.manifest.id ∨
      manifest.recoveryRead.fromManifestRevision ≠ previous.manifest.revision)
    (.invariant "Recovery manifest transition differs")
  assertDvdEvidenceRangeTransition previous.manifest.unrecoveredSourceRanges
    manifest.unrecoveredSourceRanges manifest.recoveryRead.startLba manifest.recoveryRead.outcome

/-- The image must be the version a checkpoint vouches for. -/
def verifyDvdCheckpointImage (image : ImageFile) (evidence : CommittedDvdCheckpointEvidence) :
    Except DvdCheckpointReadFault Unit := do
  rejectIf (image.filesystemIdentity ≠ evidence.image.filesystemIdentity ∨
      image.bytes.length ≠ evidence.manifest.boundaryPublishedSizeBytes ∨
      image.mtimeNs ≠ evidence.image.mtimeNs)
    .publicationImageConflict
  rejectIf (∃ range ∈ evidence.protectedRanges,
      (slice image.bytes range.startByte range.byteCount).length ≠ range.byteCount ∨
      sha256 (.bytes (slice image.bytes range.startByte range.byteCount)) ≠ range.afterDigest)
    .publicationImageConflict

/-- The initial manifest against the rows of its archive. -/
def assertInitialManifest (manifest : CommittedDvdInitialEvidence) (archive : OriginalDiscArchive)
    (jobs : List ArchiveJob) : Except DomainError Unit := do
  rejectIf (manifest.publicationDigest ≠
      createDvdInitialPublicationDigest sha256 manifest.toInitialPublicationPayload)
    (.invariant "Publication digest differs")
  assertDvdArchiveEvidenceManifestDigests sha256 manifest.toEvidenceManifest
  assertDvdArchiveBoundaryEvidenceDigest sha256 manifest.boundaryEvidence
    manifest.boundaryEvidenceDigest
  rejectIf (manifest.declaredByteCount ≠ manifest.boundaryReportedSizeBytes ∨
      manifest.recoveredByteCount + unrecoveredSectorCount manifest.unrecoveredSourceRanges * 2048 ≠
        manifest.boundaryPublishedSizeBytes)
    (.invariant "Initial evidence projections or policies differ")
  rejectIf (manifest.originalDiscArchiveId ≠ archive.id ∨
      manifest.imageFingerprint ≠ archive.fingerprint ∨
      archive.discKind ≠ "dvd" ∨ manifest.revision ≠ 1 ∨ manifest.id ≠ s!"{archive.id}:initial" ∨
      (¬∃ source ∈ jobs, source.id = manifest.sourceArchiveJobId ∧
        source.evidenceFormat = "dvd-recovery-evidence-v1" ∧
        source.originalDiscArchiveId = archive.id ∧
        source.detectedDiscId = archive.detectedDiscId ∧ source.status = "completed") ∨
      manifest.boundaryPolicyVersion ≠ manifest.boundaryEvidence.policyVersion ∨
      manifest.boundaryReportedSizeBytes ≠ manifest.boundaryEvidence.reportedSizeBytes ∨
      manifest.boundaryPublishedSizeBytes ≠ manifest.boundaryEvidence.publishedSizeBytes ∨
      manifest.boundaryPublishedSizeBytes ≠ archive.sizeBytes ∨
      manifest.boundaryEvidence ≠ archive.boundaryEvidence)
    (.invariant "Manifest provenance differs")

def assertCheckpointPointer (pointer : DvdCheckpointPointer)
    (initial : CommittedDvdInitialEvidence) (archive : OriginalDiscArchive) :
    Except DomainError Unit :=
  rejectIf (pointer.originalDiscArchiveId ≠ archive.id ∨
      pointer.currentManifestId.length = 0 ∨ pointer.currentManifestId.length > 256 ∨
      pointer.currentManifestRevision > maxSafeInteger ∨ pointer.currentManifestRevision < 1 ∨
      (pointer.currentManifestRevision = 1 ∧
        (pointer.currentManifestId ≠ initial.id ∨
          pointer.currentManifestDigest ≠ initial.manifestDigest ∨
          pointer.publicationDigest ≠ initial.publicationDigest)))
    (.invariant "Checkpoint differs")

def readRecoveryManifest (disk : Disk) (revision : Nat) :
    Except DomainError CommittedDvdRecoveryEvidence :=
  match disk.manifests revision with
  | some manifest => .ok manifest
  | none => .error (.invariant "DVD_PUBLICATION_CHECKPOINT_CONFLICT")

/-- The predecessor of revision `revision`; the initial manifest precedes revision 2. -/
def readPreviousEvidence (disk : Disk) (revision : Nat) :
    Except DomainError CommittedDvdCheckpointEvidence :=
  if revision = 2 then .ok (.initial disk.initialManifest)
  else do
    let previous ← readRecoveryManifest disk (revision - 1)
    assertRecoveryManifestRecord sha256 previous disk.initialManifest
    return .recovery previous

/-- The evidence the pointer names, and its predecessor. -/
def readCurrentEvidence (disk : Disk) :
    Except DomainError (CommittedDvdCheckpointEvidence × Option CommittedDvdCheckpointEvidence) :=
  if disk.pointer.currentManifestRevision > 1 then do
    let current ← readRecoveryManifest disk disk.pointer.currentManifestRevision
    assertRecoveryManifestRecord sha256 current disk.initialManifest
    let previous ← readPreviousEvidence sha256 disk disk.pointer.currentManifestRevision
    assertRecoveryManifestTransition current previous
    rejectIf (current.id ≠ disk.pointer.currentManifestId ∨
        current.revision ≠ disk.pointer.currentManifestRevision ∨
        current.manifestDigest ≠ disk.pointer.currentManifestDigest ∨
        current.publicationDigest ≠ disk.pointer.publicationDigest)
      (.invariant "Recovery checkpoint pointer differs")
    return (.recovery current, some previous)
  else return (.initial disk.initialManifest, none)

structure DvdCheckpointRecords where
  currentEvidence : CommittedDvdCheckpointEvidence
  previousEvidence : Option CommittedDvdCheckpointEvidence
  deriving DecidableEq

/-- The header may lag behind the pointer, never lead it or contradict it. -/
def assertHeaderMatches (header : DvdArchiveEvidenceHeader) (pointer : DvdCheckpointPointer)
    (initial : CommittedDvdInitialEvidence) (current : EvidenceManifest) :
    Except DvdCheckpointReadFault Unit := do
  rejectIf (header.currentManifestRevision > pointer.currentManifestRevision)
    .publicationProjectionAhead
  rejectIf (header.sourceArchiveJobId ≠ initial.sourceArchiveJobId ∨
      header.acceptedEndLbaExclusive ≠ current.acceptedEndLbaExclusive ∨
      header.boundaryEvidenceDigest ≠ current.boundaryEvidenceDigest ∨
      (header.currentManifestRevision = pointer.currentManifestRevision ∧
        (header.currentManifestId ≠ pointer.currentManifestId ∨
          header.currentManifestDigest ≠ pointer.currentManifestDigest)))
    .publicationCheckpointConflict

/-- `readDvdCheckpointForReconciliation`: a journal is permitted and the image not looked at. -/
def readDvdCheckpointForReconciliation (disk : Disk) (c : Catalog) :
    Except DvdCheckpointReadFault DvdCheckpointRecords := do
  rejectIf (¬isArchivePathId c.archive.id) .publicationPathConflict
  withError (fun _ => .publicationManifestConflict)
    (assertInitialManifest sha256 disk.initialManifest c.archive c.archiveJobs)
  withError (fun _ => .publicationCheckpointConflict)
    (assertCheckpointPointer disk.pointer disk.initialManifest c.archive)
  let (currentEvidence, previousEvidence) ← withError (fun _ => .publicationCheckpointConflict)
    (readCurrentEvidence sha256 disk)
  assertHeaderMatches c.header disk.pointer disk.initialManifest currentEvidence.manifest
  return { currentEvidence, previousEvidence }

/-- Read the current committed checkpoint evidence without traversing history. -/
def readCommittedDvdCheckpoint (disk : Disk) (c : Catalog) :
    Except DvdCheckpointReadFault CommittedDvdCheckpointEvidence := do
  rejectIf (disk.journal ≠ none) .consistencyFault
  let records ← readDvdCheckpointForReconciliation sha256 disk c
  verifyDvdCheckpointImage sha256 disk.image records.currentEvidence
  rejectIf (c.header.currentManifestId ≠ disk.pointer.currentManifestId ∨
      c.header.currentManifestRevision ≠ disk.pointer.currentManifestRevision ∨
      c.header.currentManifestDigest ≠ disk.pointer.currentManifestDigest)
    (if disk.pointer.currentManifestRevision = 1 then .publicationCheckpointConflict
    else .consistencyFault)
  return records.currentEvidence

/-- The manifest a batch may have left behind after the current one. -/
def readDvdRecoveryManifestForReconciliation (disk : Disk)
    (previous : CommittedDvdCheckpointEvidence) (revision : Nat) :
    Except DvdCheckpointReadFault (Option CommittedDvdRecoveryEvidence) :=
  match disk.manifests revision with
  | none => .ok none
  | some manifest => withError (fun _ => .publicationCheckpointConflict) do
    assertRecoveryManifestRecord sha256 manifest disk.initialManifest
    assertRecoveryManifestTransition manifest previous
    rejectIf (manifest.revision ≠ revision) (.invariant "Recovery manifest revision differs")
    return some manifest

variable {sha256 : Hashed → Digest}

theorem assertRecoveryManifestStaticProvenance_ok {manifest : RecoveryCheckpointPayload}
    {initial : CommittedDvdInitialEvidence} :
    assertRecoveryManifestStaticProvenance manifest initial = .ok u ↔
      manifest.originalDiscArchiveId = initial.originalDiscArchiveId ∧
      ¬changedImmutableEvidence manifest.toEvidenceManifest initial.toEvidenceManifest ∧
      manifest.boundaryEvidence = initial.boundaryEvidence ∧
      manifest.sourceArchiveJobId = initial.sourceArchiveJobId ∧
      manifest.rootPublicationDigest = initial.publicationDigest := by
  rw [assertRecoveryManifestStaticProvenance, rejectIf_ok]
  simp only [not_or, ne_eq, not_not]

theorem assertRecoveryManifestRecord_ok {manifest : CommittedDvdRecoveryEvidence}
    {initial : CommittedDvdInitialEvidence} :
    assertRecoveryManifestRecord sha256 manifest initial = .ok () ↔
      manifest.publicationDigest =
        createDvdRecoveryCheckpointPublicationDigest sha256 manifest.toRecoveryCheckpointPayload ∧
      recoveryManifestShape manifest.toRecoveryCheckpointPayload initial ∧
      assertDvdArchiveEvidenceManifestDigests sha256 manifest.toEvidenceManifest = .ok () ∧
      assertDvdArchiveRecoveryReadEvidenceDigest sha256
        manifest.recoveryRead.toDvdArchiveRecoveryReadEvidenceDigestInput
        manifest.recoveryRead.evidenceDigest = .ok () ∧
      assertRecoveryManifestStaticProvenance manifest.toRecoveryCheckpointPayload initial =
        .ok () := by
  simp only [assertRecoveryManifestRecord, bind_ok, rejectIf_ok, not_or, ne_eq, not_not]
  constructor
  · rintro ⟨_, ⟨hp, hs⟩, _, hd, _, hr, h⟩
    exact ⟨hp, hs, hd, hr, h⟩
  · rintro ⟨hp, hs, hd, hr, h⟩
    exact ⟨(), ⟨hp, hs⟩, (), hd, (), hr, h⟩

theorem assertRecoveryManifestTransition_ok {manifest : CommittedDvdRecoveryEvidence}
    {previous : CommittedDvdCheckpointEvidence} :
    assertRecoveryManifestTransition manifest previous = .ok u ↔
      (manifest.revision = previous.manifest.revision + 1 ∧
        manifest.previousManifestId = some previous.manifest.id ∧
        manifest.previousManifestDigest = some previous.manifest.manifestDigest ∧
        manifest.previousPublicationDigest = previous.publicationDigest ∧
        manifest.previousImage = previous.image ∧
        manifest.recoveryRead.fromManifestId = previous.manifest.id ∧
        manifest.recoveryRead.fromManifestRevision = previous.manifest.revision) ∧
      assertDvdEvidenceRangeTransition previous.manifest.unrecoveredSourceRanges
        manifest.unrecoveredSourceRanges manifest.recoveryRead.startLba
        manifest.recoveryRead.outcome = .ok () := by
  simp only [assertRecoveryManifestTransition, bind_ok, rejectIf_ok, not_or, ne_eq, not_not]
  constructor
  · rintro ⟨_, h, ht⟩
    exact ⟨h, ht⟩
  · rintro ⟨h, ht⟩
    exact ⟨(), h, ht⟩

theorem ImageFile.version_eq {image : ImageFile} {version : ImageVersion} :
    image.version = version ↔
      image.filesystemIdentity = version.filesystemIdentity ∧ image.mtimeNs = version.mtimeNs := by
  cases version
  exact ImageVersion.mk.injEq .. ▸ Iff.rfl

theorem verifyDvdCheckpointImage_ok {image : ImageFile}
    {evidence : CommittedDvdCheckpointEvidence} :
    verifyDvdCheckpointImage sha256 image evidence = .ok u ↔
      image.version = evidence.image ∧
      image.bytes.length = evidence.manifest.boundaryPublishedSizeBytes ∧
      ∀ range ∈ evidence.protectedRanges,
        (slice image.bytes range.startByte range.byteCount).length = range.byteCount ∧
        sha256 (.bytes (slice image.bytes range.startByte range.byteCount)) =
          range.afterDigest := by
  simp only [verifyDvdCheckpointImage, bind_ok, rejectIf_ok, not_or, ne_eq, not_not, not_exists,
    not_and, ImageFile.version_eq]
  constructor
  · rintro ⟨_, ⟨hi, hl, hm⟩, h⟩
    exact ⟨⟨hi, hm⟩, hl, h⟩
  · rintro ⟨⟨hi, hm⟩, hl, h⟩
    exact ⟨(), ⟨hi, hl, hm⟩, h⟩

theorem readRecoveryManifest_ok :
    readRecoveryManifest disk revision = .ok manifest ↔ disk.manifests revision =
      some manifest := by
  rw [readRecoveryManifest]
  cases disk.manifests revision with
  | none => exact ⟨fun h => (nomatch h), fun h => (nomatch h)⟩
  | some m => simp

/-- What a reconciliation's reading of the records checks, and what it returns. -/
theorem readDvdCheckpointForReconciliation_ok :
    readDvdCheckpointForReconciliation sha256 disk c = .ok records ↔
      isArchivePathId c.archive.id = true ∧
      assertInitialManifest sha256 disk.initialManifest c.archive c.archiveJobs = .ok () ∧
      assertCheckpointPointer disk.pointer disk.initialManifest c.archive = .ok () ∧
      readCurrentEvidence sha256 disk = .ok (records.currentEvidence, records.previousEvidence) ∧
      assertHeaderMatches c.header disk.pointer disk.initialManifest
        records.currentEvidence.manifest = .ok () := by
  simp only [readDvdCheckpointForReconciliation, bind_ok, rejectIf_ok, withError_ok, pure_ok,
    not_not]
  constructor
  · rintro ⟨_, hid, _, hi, _, hp, ⟨current, previous⟩, hc, _, hh, rfl⟩
    exact ⟨hid, hi, hp, hc, hh⟩
  · rintro ⟨hid, hi, hp, hc, hh⟩
    exact ⟨(), hid, (), hi, (), hp, _, hc, (), hh, rfl⟩

theorem readCommittedDvdCheckpoint_ok :
    readCommittedDvdCheckpoint sha256 disk c = .ok current ↔
      disk.journal = none ∧
      (∃ previous, readDvdCheckpointForReconciliation sha256 disk c = .ok ⟨current, previous⟩) ∧
      verifyDvdCheckpointImage sha256 disk.image current = .ok () ∧
      c.header.currentManifestId = disk.pointer.currentManifestId ∧
      c.header.currentManifestRevision = disk.pointer.currentManifestRevision ∧
      c.header.currentManifestDigest = disk.pointer.currentManifestDigest := by
  simp only [readCommittedDvdCheckpoint, bind_ok, rejectIf_ok, pure_ok, not_or, ne_eq, not_not]
  constructor
  · rintro ⟨_, hj, ⟨current', previous⟩, hr, _, hv, _, hh, rfl⟩
    exact ⟨hj, ⟨previous, hr⟩, hv, hh⟩
  · rintro ⟨hj, ⟨previous, hr⟩, hv, hh⟩
    exact ⟨(), hj, _, hr, (), hv, (), hh, rfl⟩

/-- The records of a checkpoint, and how the evidence the pointer names came about. -/
inductive ReadsCurrent (sha256 : Hashed → Digest) (disk : Disk) :
    CommittedDvdCheckpointEvidence → Option CommittedDvdCheckpointEvidence → Prop where
  | initial (h : ¬1 < disk.pointer.currentManifestRevision) :
    ReadsCurrent sha256 disk (.initial disk.initialManifest) none
  | recovery (h : 1 < disk.pointer.currentManifestRevision)
    (stored : disk.manifests disk.pointer.currentManifestRevision = some current)
    (record : assertRecoveryManifestRecord sha256 current disk.initialManifest = .ok ())
    (before : readPreviousEvidence sha256 disk disk.pointer.currentManifestRevision = .ok previous)
    (transition : assertRecoveryManifestTransition current previous = .ok ())
    (pointer : current.id = disk.pointer.currentManifestId ∧
      current.revision = disk.pointer.currentManifestRevision ∧
      current.manifestDigest = disk.pointer.currentManifestDigest ∧
      current.publicationDigest = disk.pointer.publicationDigest) :
    ReadsCurrent sha256 disk (.recovery current) (some previous)

theorem readCurrentEvidence_ok :
    readCurrentEvidence sha256 disk = .ok (current, previous) ↔
      ReadsCurrent sha256 disk current previous := by
  rw [readCurrentEvidence]
  by_cases h : disk.pointer.currentManifestRevision > 1
  · simp only [if_pos h, bind_ok, rejectIf_ok, pure_ok, readRecoveryManifest_ok, not_or, ne_eq,
      not_not, Prod.mk.injEq]
    constructor
    · rintro ⟨m, hm, _, hr, p, hp, _, ht, _, hptr, rfl, rfl⟩
      exact .recovery h hm hr hp ht hptr
    · intro hc
      cases hc with
      | initial hn => exact absurd h hn
      | recovery _ hm hr hp ht hptr => exact ⟨_, hm, (), hr, _, hp, (), ht, (), hptr, rfl, rfl⟩
  · simp only [if_neg h, pure_ok, Prod.mk.injEq]
    constructor
    · rintro ⟨rfl, rfl⟩
      exact .initial h
    · intro hc
      cases hc with
      | initial => exact ⟨rfl, rfl⟩
      | recovery hp => exact absurd hp h

end RipDvd
