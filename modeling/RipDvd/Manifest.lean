import RipDvd.Evidence

namespace RipDvd
set_option autoImplicit true

/-- A SHA-256 digest; every record spells it as sixty-four lowercase hexadecimal digits. -/
abbrev Digest := BitVec 256

abbrev Bytes := List UInt8

/-- The device and inode of a file, spelled as two decimal numbers around a colon. -/
structure FilesystemIdentity where
  dev : Nat
  ino : Nat
  deriving DecidableEq

/-- The version of the image a checkpoint vouches for. -/
structure ImageVersion where
  filesystemIdentity : FilesystemIdentity
  mtimeNs : Nat
  deriving DecidableEq

/-- `discConfirmationId` is absent, null or an id. -/
structure DvdArchiveRecoveryReadEvidenceDigestInput where
  originalDiscArchiveId : String
  fromManifestId : String
  fromManifestRevision : Nat
  startLba : Nat
  sectorCount : Nat
  outcome : RecoveryReadOutcome
  verificationId : Option String
  discConfirmationId : Option (Option String)
  deriving DecidableEq

structure RecoveryRead extends DvdArchiveRecoveryReadEvidenceDigestInput where
  id : String
  evidenceDigest : Digest
  deriving DecidableEq

structure DvdArchiveEvidenceManifestDigestInput where
  originalDiscArchiveId : String
  revision : Nat
  previousManifestId : Option String
  previousManifestDigest : Option Digest
  recoveryReadId : Option String
  recoveryReadEvidenceDigest : Option Digest
  evidenceFormat : String
  imageFingerprint : String
  sectorSizeBytes : Nat
  acceptedEndLbaExclusive : Nat
  boundaryPolicyVersion : String
  boundaryReportedSizeBytes : Nat
  boundaryPublishedSizeBytes : Nat
  boundaryEvidenceDigest : Digest
  unrecoveredSourceRanges : List UnrecoveredSourceRange
  deriving DecidableEq

structure EvidenceManifest extends DvdArchiveEvidenceManifestDigestInput where
  unrecoveredSourceRangesDigest : Digest
  manifestDigest : Digest
  id : String
  deriving DecidableEq

/-- The archive evidence that no recovery may change. -/
def changedImmutableEvidence (manifest current : EvidenceManifest) : Prop :=
  manifest.evidenceFormat ≠ current.evidenceFormat ∨
  manifest.imageFingerprint ≠ current.imageFingerprint ∨
  manifest.sectorSizeBytes ≠ current.sectorSizeBytes ∨
  manifest.acceptedEndLbaExclusive ≠ current.acceptedEndLbaExclusive ∨
  manifest.boundaryPolicyVersion ≠ current.boundaryPolicyVersion ∨
  manifest.boundaryReportedSizeBytes ≠ current.boundaryReportedSizeBytes ∨
  manifest.boundaryPublishedSizeBytes ≠ current.boundaryPublishedSizeBytes ∨
  manifest.boundaryEvidenceDigest ≠ current.boundaryEvidenceDigest

instance (manifest current : EvidenceManifest) :
    Decidable (changedImmutableEvidence manifest current) :=
  inferInstanceAs (Decidable (_ ∨ _))

/-- One storage unit the undo journal protects. -/
structure DvdRecoveryProtectedRange where
  startByte : Nat
  byteCount : Nat
  unitBytes : Nat
  beforeDigest : Digest
  afterDigest : Digest
  deriving DecidableEq

/-- Archive Boundary Evidence; `proof` stands for the endpoint or out-of-range proof. -/
structure ArchiveBoundaryEvidence where
  policyVersion : String
  reportedSizeBytes : Nat
  publishedSizeBytes : Nat
  excludedSectorCount : Nat
  proof : String
  deriving DecidableEq

/-- The published fields of a recovery manifest, all of them under its publication digest. -/
structure RecoveryCheckpointPayload extends EvidenceManifest where
  checkpointFormat : String
  sourceArchiveJobId : String
  rootPublicationDigest : Digest
  previousPublicationDigest : Digest
  image : ImageVersion
  previousImage : ImageVersion
  boundaryEvidence : ArchiveBoundaryEvidence
  recoveryRead : RecoveryRead
  journalDigest : Option Digest
  protectedRanges : List DvdRecoveryProtectedRange
  deriving DecidableEq

structure CommittedDvdRecoveryEvidence extends RecoveryCheckpointPayload where
  publicationDigest : Digest
  deriving DecidableEq

/-- The published fields of the initial manifest that a reader checks. -/
structure InitialPublicationPayload extends EvidenceManifest where
  sourceArchiveJobId : String
  image : ImageVersion
  boundaryEvidence : ArchiveBoundaryEvidence
  declaredByteCount : Nat
  recoveredByteCount : Nat
  deriving DecidableEq

structure CommittedDvdInitialEvidence extends InitialPublicationPayload where
  publicationDigest : Digest
  deriving DecidableEq

/-- `evidence` for either kind of checkpoint. -/
inductive CommittedDvdCheckpointEvidence where
  | initial (evidence : CommittedDvdInitialEvidence)
  | recovery (evidence : CommittedDvdRecoveryEvidence)
  deriving DecidableEq

namespace CommittedDvdCheckpointEvidence

def manifest : CommittedDvdCheckpointEvidence → EvidenceManifest
  | .initial e => e.toEvidenceManifest
  | .recovery e => e.toEvidenceManifest

def image : CommittedDvdCheckpointEvidence → ImageVersion
  | .initial e => e.image
  | .recovery e => e.image

def publicationDigest : CommittedDvdCheckpointEvidence → Digest
  | .initial e => e.publicationDigest
  | .recovery e => e.publicationDigest

def rootPublicationDigest : CommittedDvdCheckpointEvidence → Digest
  | .initial e => e.publicationDigest
  | .recovery e => e.rootPublicationDigest

def sourceArchiveJobId : CommittedDvdCheckpointEvidence → String
  | .initial e => e.sourceArchiveJobId
  | .recovery e => e.sourceArchiveJobId

def boundaryEvidence : CommittedDvdCheckpointEvidence → ArchiveBoundaryEvidence
  | .initial e => e.boundaryEvidence
  | .recovery e => e.boundaryEvidence

def protectedRanges : CommittedDvdCheckpointEvidence → List DvdRecoveryProtectedRange
  | .initial _ => []
  | .recovery e => e.protectedRanges

@[simp] theorem manifest_recovery (evidence : CommittedDvdRecoveryEvidence) :
    (recovery evidence).manifest = evidence.toEvidenceManifest := rfl

end CommittedDvdCheckpointEvidence

structure DvdRecoveryJournalBase where
  manifestId : String
  revision : Nat
  manifestDigest : Digest
  publicationDigest : Digest
  unrecoveredSourceRanges : List UnrecoveredSourceRange
  deriving DecidableEq

structure DvdRecoveryJournalRead where
  id : String
  startLba : Nat
  sectorCount : Nat
  outcome : RecoveryReadOutcome
  sourceBytesDigest : Digest
  deriving DecidableEq

structure DvdRecoveryJournalRange extends DvdRecoveryProtectedRange where
  payloadOffset : Nat
  deriving DecidableEq

/-- The journal header without its digest. -/
structure DvdRecoveryJournalDigestInput where
  originalDiscArchiveId : String
  image : ImageVersion
  imageSizeBytes : Nat
  base : DvdRecoveryJournalBase
  recoveryRead : DvdRecoveryJournalRead
  protectedRanges : List DvdRecoveryJournalRange
  deriving DecidableEq

structure DvdRecoveryJournalMetadata extends DvdRecoveryJournalDigestInput where
  journalDigest : Digest
  deriving DecidableEq

structure DvdSourceSampleReference where
  bandIndex : Nat
  startLba : Nat
  sectorCount : Nat
  digest : Digest
  deriving DecidableEq

/-- The published samples of a disc, one for each band of its addresses. -/
structure DvdSourceSampleManifest where
  policyVersion : String
  byteRepresentation : String
  sourceMetadataFingerprint : String
  acceptedEndLbaExclusive : Nat
  checkpointRevision : Nat
  checkpointDigest : Digest
  samples : List DvdSourceSampleReference
  manifestDigest : Digest
  deriving DecidableEq

/-- Everything the program hashes, each constructor under its own domain prefix. -/
inductive Hashed where
  | bytes (bytes : Bytes)
  | boundaryEvidence (evidence : ArchiveBoundaryEvidence)
  | sourceRanges (tuples : List (Nat × Nat × SourceClassification))
  | recoveryReadEvidence (input : DvdArchiveRecoveryReadEvidenceDigestInput)
  | evidenceManifest (input : DvdArchiveEvidenceManifestDigestInput) (rangesDigest : Digest)
  | initialPublication (payload : InitialPublicationPayload)
  | recoveryCheckpoint (payload : RecoveryCheckpointPayload)
  | recoveryJournal (input : DvdRecoveryJournalDigestInput) (originalBytes : Bytes)
  | sourceSamples (manifest : DvdSourceSampleManifest)

def DVD_RECOVERY_MAX_CHECKPOINT_REVISION : Nat := 10000
def DVD_RECOVERY_JOURNAL_RESERVATION_BYTES : Nat := 1048576
def DVD_RECOVERY_JOURNAL_METADATA_BYTES : Nat := 65536
def DVD_RECOVERY_JOURNAL_PAYLOAD_BYTES : Nat :=
  DVD_RECOVERY_JOURNAL_RESERVATION_BYTES - DVD_RECOVERY_JOURNAL_METADATA_BYTES

def requireNonEmptyString (value description : String) : Except DomainError Unit :=
  rejectIf (value.length = 0) (.invariant s!"{description} must not be empty")

variable (sha256 : Hashed → Digest)

/-- Hashes the ordered, normalized range tuples; a noncanonical map is rejected. -/
def createDvdUnrecoveredSourceRangesDigest (ranges : List UnrecoveredSourceRange) :
    Except DomainError Digest := do
  let canonical ← canonicalSourceRangesPayload none ranges
  return sha256 (.sourceRanges canonical)

def assertDvdUnrecoveredSourceRangesDigest (ranges : List UnrecoveredSourceRange)
    (rangesDigest : Digest) : Except DomainError Unit := do
  let expected ← createDvdUnrecoveredSourceRangesDigest sha256 ranges
  rejectIf (expected ≠ rangesDigest)
    (.invariant "Persisted Unrecovered Source ranges digest does not match its contents")

/-- A verified read names its confirmation, if only as null. -/
def requireReadConfirmation (input : DvdArchiveRecoveryReadEvidenceDigestInput) :
    Except DomainError Unit :=
  match input.verificationId with
  | some verificationId => do
    requireNonEmptyString verificationId "Recovery read verification ID"
    if input.discConfirmationId = some none then return
    requireNonEmptyString (input.discConfirmationId.join.getD "")
      "Recovery read disc confirmation ID"
  | none =>
    rejectIf (input.discConfirmationId ≠ none)
      (.invariant "Recovery read confirmation requires a verification")

/-- Hashes the complete persisted one-sector recovery observation. -/
def createDvdArchiveRecoveryReadEvidenceDigest
    (input : DvdArchiveRecoveryReadEvidenceDigestInput) : Except DomainError Digest := do
  requireNonEmptyString input.originalDiscArchiveId "Recovery read Original Disc Archive ID"
  requireNonEmptyString input.fromManifestId "Recovery read manifest ID"
  requireSafeInteger input.fromManifestRevision "Recovery read manifest revision" 1
  requireSafeInteger input.startLba "Recovery read start LBA" 0
  rejectIf (input.sectorCount ≠ 1)
    (.invariant "DVD Archive Recovery evidence must describe one sector")
  requireReadConfirmation input
  return sha256 (.recoveryReadEvidence input)

def assertDvdArchiveRecoveryReadEvidenceDigest
    (input : DvdArchiveRecoveryReadEvidenceDigestInput) (evidenceDigest : Digest) :
    Except DomainError Unit := do
  let expected ← createDvdArchiveRecoveryReadEvidenceDigest sha256 input
  rejectIf (expected ≠ evidenceDigest)
    (.invariant "Persisted DVD Archive Recovery evidence digest does not match its contents")

/-- The extent and range checks made before a manifest is hashed. -/
def requireManifestExtent (input : DvdArchiveEvidenceManifestDigestInput) :
    Except DomainError Unit := do
  rejectIf (input.boundaryPublishedSizeBytes ≠
      input.acceptedEndLbaExclusive * input.sectorSizeBytes ∨
      input.boundaryPublishedSizeBytes > input.boundaryReportedSizeBytes)
    (.invariant "DVD Archive Evidence accepted extent is inconsistent")
  rejectIf (∃ range ∈ input.unrecoveredSourceRanges,
      range.startLba + range.sectorCount > input.acceptedEndLbaExclusive)
    (.invariant "Unrecovered Source range exceeds the accepted extent")
  rejectIf (∃ range ∈ input.unrecoveredSourceRanges,
      input.revision = 1 ∧ range.classification ≠ .skippedUntested)
    (.invariant "Initial DVD Archive Evidence may contain only skipped source ranges")

/-- Only the first manifest has no predecessor and no recovery read. -/
def requireManifestPredecessor (input : DvdArchiveEvidenceManifestDigestInput) :
    Except DomainError Unit :=
  if input.revision = 1 then
    rejectIf (input.previousManifestId ≠ none ∨ input.previousManifestDigest ≠ none ∨
        input.recoveryReadId ≠ none ∨ input.recoveryReadEvidenceDigest ≠ none)
      (.invariant
        "Initial DVD evidence manifest must not reference a predecessor or recovery read")
  else do
    rejectIf (input.previousManifestId = none ∨ input.previousManifestDigest = none ∨
        input.recoveryReadId = none ∨ input.recoveryReadEvidenceDigest = none)
      (.invariant "Later DVD evidence manifest must reference its predecessor and recovery read")
    requireNonEmptyString (input.previousManifestId.getD "") "Previous evidence manifest ID"
    requireNonEmptyString (input.recoveryReadId.getD "") "Recovery read ID"

/-- Computes both content digests before a manifest is persisted. -/
def createDvdArchiveEvidenceManifestDigests (input : DvdArchiveEvidenceManifestDigestInput) :
    Except DomainError (Digest × Digest) := do
  requireNonEmptyString input.originalDiscArchiveId "Evidence manifest Original Disc Archive ID"
  requireSafeInteger input.revision "Evidence manifest revision" 1
  requireNonEmptyString input.imageFingerprint "Evidence image fingerprint"
  rejectIf (input.evidenceFormat ≠ "dvd-recovery-evidence-v1")
    (.invariant "DVD Archive Evidence format is invalid")
  rejectIf (input.imageFingerprint.length > 512)
    (.invariant "Evidence image fingerprint is too long")
  rejectIf (input.sectorSizeBytes ≠ 2048)
    (.invariant "DVD Archive Evidence sector size is invalid")
  requireSafeInteger input.acceptedEndLbaExclusive "Evidence accepted end LBA" 1
  requireNonEmptyString input.boundaryPolicyVersion "Evidence boundary policy version"
  rejectIf (input.boundaryPolicyVersion.length > 128)
    (.invariant "Evidence boundary policy version is too long")
  requireSafeInteger input.boundaryReportedSizeBytes "Evidence reported boundary size" 1
  requireSafeInteger input.boundaryPublishedSizeBytes "Evidence published boundary size" 1
  requireManifestExtent input
  requireManifestPredecessor input
  let unrecoveredSourceRangesDigest ←
    createDvdUnrecoveredSourceRangesDigest sha256 input.unrecoveredSourceRanges
  return (unrecoveredSourceRangesDigest,
    sha256 (.evidenceManifest { input with unrecoveredSourceRanges := [] }
      unrecoveredSourceRangesDigest))

def assertDvdArchiveEvidenceManifestDigests (manifest : EvidenceManifest) :
    Except DomainError Unit := do
  let expected ← createDvdArchiveEvidenceManifestDigests sha256
    manifest.toDvdArchiveEvidenceManifestDigestInput
  assertDvdUnrecoveredSourceRangesDigest sha256 manifest.unrecoveredSourceRanges
    manifest.unrecoveredSourceRangesDigest
  rejectIf (manifest.manifestDigest ≠ expected.2)
    (.invariant "Persisted DVD Archive Evidence digest does not match its contents")

/-- The checks a manifest passes before it is hashed. -/
structure Hashable (input : DvdArchiveEvidenceManifestDigestInput) : Prop where
  archiveId : input.originalDiscArchiveId.length ≠ 0
  revision : 1 ≤ input.revision ∧ input.revision ≤ maxSafeInteger
  fingerprint : input.imageFingerprint.length ≠ 0 ∧ input.imageFingerprint.length ≤ 512
  format : input.evidenceFormat = "dvd-recovery-evidence-v1"
  sectorSize : input.sectorSizeBytes = 2048
  acceptedEnd : 1 ≤ input.acceptedEndLbaExclusive ∧ input.acceptedEndLbaExclusive ≤ maxSafeInteger
  policy : input.boundaryPolicyVersion.length ≠ 0 ∧ input.boundaryPolicyVersion.length ≤ 128
  reported : 1 ≤ input.boundaryReportedSizeBytes ∧ input.boundaryReportedSizeBytes ≤ maxSafeInteger
  published : 1 ≤ input.boundaryPublishedSizeBytes ∧
    input.boundaryPublishedSizeBytes ≤ maxSafeInteger
  extent : requireManifestExtent input = .ok ()
  predecessor : requireManifestPredecessor input = .ok ()

variable {sha256}

theorem createDvdUnrecoveredSourceRangesDigest_ok :
    createDvdUnrecoveredSourceRangesDigest sha256 ranges = .ok digest ↔
      ∃ tuples, canonicalSourceRangesPayload none ranges = .ok tuples ∧
        sha256 (.sourceRanges tuples) = digest := by
  simp only [createDvdUnrecoveredSourceRangesDigest, bind_ok, pure_ok]

theorem requireSafeInteger_ok :
    requireSafeInteger value description minimum = .ok u ↔
      minimum ≤ value ∧ value ≤ maxSafeInteger := by
  rw [requireSafeInteger, rejectIf_ok]
  omega

theorem requireNonEmptyString_ok :
    requireNonEmptyString value description = .ok u ↔ value.length ≠ 0 := by
  rw [requireNonEmptyString, rejectIf_ok]

/-- A manifest has digests exactly when it is hashable and its map is canonical. -/
theorem createDvdArchiveEvidenceManifestDigests_ok :
    createDvdArchiveEvidenceManifestDigests sha256 input = .ok digests ↔
      Hashable input ∧ ∃ rangesDigest,
        createDvdUnrecoveredSourceRangesDigest sha256 input.unrecoveredSourceRanges =
          .ok rangesDigest ∧
        (rangesDigest, sha256 (.evidenceManifest { input with unrecoveredSourceRanges := [] }
          rangesDigest)) = digests := by
  simp only [createDvdArchiveEvidenceManifestDigests, bind_ok, pure_ok, requireNonEmptyString_ok,
    requireSafeInteger_ok, rejectIf_ok, not_not, ne_eq, Nat.not_lt]
  constructor
  · rintro ⟨_, h1, _, h2, _, h3, _, h4, _, h5, _, h6, _, h7, _, h8, _, h9, _, h10, _, h11, _, h12,
      _, h13, rangesDigest, hd, h⟩
    exact ⟨⟨h1, h2, ⟨h3, h5⟩, h4, h6, h7, ⟨h8, h9⟩, h10, h11, h12, h13⟩, rangesDigest, hd, h⟩
  · rintro ⟨⟨h1, h2, ⟨h3, h5⟩, h4, h6, h7, ⟨h8, h9⟩, h10, h11, h12, h13⟩, rangesDigest, hd, h⟩
    exact ⟨(), h1, (), h2, (), h3, (), h4, (), h5, (), h6, (), h7, (), h8, (), h9, (), h10,
      (), h11, (), h12, (), h13, rangesDigest, hd, h⟩

theorem assertDvdUnrecoveredSourceRangesDigest_ok :
    assertDvdUnrecoveredSourceRangesDigest sha256 ranges digest = .ok u ↔
      createDvdUnrecoveredSourceRangesDigest sha256 ranges = .ok digest := by
  simp only [assertDvdUnrecoveredSourceRangesDigest, bind_ok, rejectIf_ok, ne_eq, not_not]
  constructor
  · rintro ⟨_, h, he⟩
    exact he ▸ h
  · intro h
    exact ⟨_, h, rfl⟩

theorem assertDvdArchiveEvidenceManifestDigests_ok {manifest : EvidenceManifest} :
    assertDvdArchiveEvidenceManifestDigests sha256 manifest = .ok u ↔
      createDvdArchiveEvidenceManifestDigests sha256
        manifest.toDvdArchiveEvidenceManifestDigestInput =
        .ok (manifest.unrecoveredSourceRangesDigest, manifest.manifestDigest) := by
  simp only [assertDvdArchiveEvidenceManifestDigests, bind_ok, rejectIf_ok,
    assertDvdUnrecoveredSourceRangesDigest_ok, ne_eq, not_not]
  constructor
  · rintro ⟨digests, hd, _, hr, he⟩
    obtain ⟨-, rangesDigest, hr', rfl⟩ := createDvdArchiveEvidenceManifestDigests_ok.1 hd
    cases hr.symm.trans hr'
    rw [hd, he]
  · intro h
    obtain ⟨-, rangesDigest, hr, he⟩ := createDvdArchiveEvidenceManifestDigests_ok.1 h
    exact ⟨_, h, (), (Prod.mk.inj he).1 ▸ hr, rfl⟩

/-- The map of a manifest whose digests hold is canonical. -/
theorem canonical_of_digests {manifest : EvidenceManifest}
    (h : assertDvdArchiveEvidenceManifestDigests sha256 manifest = .ok u) :
    Canonical manifest.unrecoveredSourceRanges := by
  obtain ⟨-, _, hr, -⟩ := createDvdArchiveEvidenceManifestDigests_ok.1
    (assertDvdArchiveEvidenceManifestDigests_ok.1 h)
  obtain ⟨tuples, ht, -⟩ := createDvdUnrecoveredSourceRangesDigest_ok.1 hr
  exact (canonicalSourceRangesPayload_iff.1 ⟨tuples, ht⟩).1

theorem assertDvdArchiveRecoveryReadEvidenceDigest_ok :
    assertDvdArchiveRecoveryReadEvidenceDigest sha256 input digest = .ok u ↔
      createDvdArchiveRecoveryReadEvidenceDigest sha256 input = .ok digest := by
  simp only [assertDvdArchiveRecoveryReadEvidenceDigest, bind_ok, rejectIf_ok, ne_eq, not_not]
  constructor
  · rintro ⟨_, h, he⟩
    exact he ▸ h
  · intro h
    exact ⟨_, h, rfl⟩

variable (sha256)

def createDvdInitialPublicationDigest (payload : InitialPublicationPayload) : Digest :=
  sha256 (.initialPublication payload)

def createDvdRecoveryCheckpointPublicationDigest (payload : RecoveryCheckpointPayload) : Digest :=
  sha256 (.recoveryCheckpoint payload)

def createDvdRecoveryJournalDigest (metadata : DvdRecoveryJournalDigestInput)
    (originalBytes : Bytes) : Digest :=
  sha256 (.recoveryJournal metadata originalBytes)

end RipDvd
