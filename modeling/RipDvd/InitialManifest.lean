import RipDvd.Checkpoint
import RipDvd.SourceSamples
import RipDvd.InitialCopy

namespace RipDvd
set_option autoImplicit true

inductive DvdInitialPublicationFaultCode where
  | intentConflict
  | intentMissing
  | imageConflict
  | manifestConflict
  | checkpointConflict
  | projectionAhead
  | pathConflict
  deriving DecidableEq

inductive DvdInitialSaveFaultCode where
  | ownershipLost
  | consistencyFault
  deriving DecidableEq

/-- How a save of an initial archive can fail. -/
inductive InitialSaveError where
  | publication (code : DvdInitialPublicationFaultCode)
  | save (code : DvdInitialSaveFaultCode)
  | domain (error : DomainError)
  | error (message : String)
  | alreadyExists
  | interrupted
  deriving DecidableEq

/-- `observations` stands for the list of them. -/
structure DvdMetadataDecision where
  policyVersion : String
  decision : String
  blockers : List String
  observations : List String
  deriving DecidableEq

/-- The image of an initial copy with its proven boundary. -/
structure ProvenDvdInitialArchiveBoundary where
  boundaryEvidence : ArchiveBoundaryEvidence
  initialCopy : DvdInitialCopyResult
  imageFilesystemIdentity : FilesystemIdentity
  imageMtimeNs : Nat
  metadataDecision : Option DvdMetadataDecision
  deriving DecidableEq

/-- The manifest that an initial save publishes. -/
structure DvdInitialManifest extends CommittedDvdInitialEvidence where
  initialCopy : DvdInitialCopyResult
  metadataDecision : Option DvdMetadataDecision
  sourceSampleManifest : Option DvdSourceSampleManifest
  deriving DecidableEq

def DvdMetadataDecision.accepted (decision : DvdMetadataDecision) : Bool :=
  decision.policyVersion = "dvd-full-extent-metadata-v1" && decision.decision = "publishable" &&
    decision.blockers = []

/-- Where the samples of a manifest come from. -/
def DvdSourceSampleManifest.Of (samples : DvdSourceSampleManifest)
    (input : DvdArchiveEvidenceManifestDigestInput) (manifestDigest : Digest) : Prop :=
  samples.sourceMetadataFingerprint = input.imageFingerprint ∧
    samples.acceptedEndLbaExclusive = input.acceptedEndLbaExclusive ∧
    samples.checkpointRevision = input.revision ∧ samples.checkpointDigest = manifestDigest

instance (samples : DvdSourceSampleManifest) : Decidable (samples.Of input manifestDigest) :=
  inferInstanceAs (Decidable (_ ∧ _))

variable (sha256 : Hashed → Digest)

def createDvdArchiveBoundaryEvidenceDigest (boundaryEvidence : ArchiveBoundaryEvidence) : Digest :=
  sha256 (.boundaryEvidence boundaryEvidence)

/-- The digest covers every field but itself. -/
def createDvdSourceSampleManifestDigest (manifest : DvdSourceSampleManifest) : Digest :=
  sha256 (.sourceSamples { manifest with manifestDigest := 0 })

/-- The samples that a manifest is given, if it is given any. -/
def validateSourceSamples : Option DvdSourceSampleManifest →
    Except InitialSaveError (Option DvdSourceSampleManifest)
  | none => .ok none
  | some samples => (withError (fun message => .domain (.invariant message))
      (validateDvdSourceSampleManifest
        (createDvdSourceSampleManifestDigest sha256) samples)).map some

/-- The evidence of the first checkpoint of an archive. -/
def initialEvidence (originalDiscArchiveId imageFingerprint : String)
    (proven : ProvenDvdInitialArchiveBoundary) : DvdArchiveEvidenceManifestDigestInput where
  originalDiscArchiveId
  revision := 1
  previousManifestId := none
  previousManifestDigest := none
  recoveryReadId := none
  recoveryReadEvidenceDigest := none
  evidenceFormat := "dvd-recovery-evidence-v1"
  imageFingerprint
  sectorSizeBytes := 2048
  acceptedEndLbaExclusive := proven.boundaryEvidence.publishedSizeBytes / 2048
  boundaryPolicyVersion := proven.boundaryEvidence.policyVersion
  boundaryReportedSizeBytes := proven.boundaryEvidence.reportedSizeBytes
  boundaryPublishedSizeBytes := proven.boundaryEvidence.publishedSizeBytes
  boundaryEvidenceDigest := createDvdArchiveBoundaryEvidenceDigest sha256 proven.boundaryEvidence
  unrecoveredSourceRanges := proven.initialCopy.unrecoveredSourceRanges

def createDvdInitialManifest (originalDiscArchiveId sourceArchiveJobId imageFingerprint : String)
    (proven : ProvenDvdInitialArchiveBoundary)
    (sourceSampleManifest : Option DvdSourceSampleManifest) :
    Except InitialSaveError DvdInitialManifest := do
  rejectIf (sourceArchiveJobId = "") (.error "Invalid initial publication identity")
  withError .error (validateDvdInitialCopyResult proven.initialCopy
    proven.boundaryEvidence.reportedSizeBytes "Invalid initial publication source map"
    proven.boundaryEvidence.publishedSizeBytes)
  rejectIf (proven.boundaryEvidence.excludedSectorCount = 0 ∧
      ¬∃ decision ∈ proven.metadataDecision, decision.accepted)
    (.error "Initial publication requires the accepted full-extent metadata decision")
  rejectIf (proven.boundaryEvidence.excludedSectorCount ≠ 0 ∧ proven.metadataDecision ≠ none)
    (.error "Corrected initial publication requires strict boundary evidence")
  let input := initialEvidence sha256 originalDiscArchiveId imageFingerprint proven
  let (unrecoveredSourceRangesDigest, manifestDigest) ←
    withError .domain (createDvdArchiveEvidenceManifestDigests sha256 input)
  let sourceSampleManifest ← validateSourceSamples sha256 sourceSampleManifest
  rejectIf (∃ samples ∈ sourceSampleManifest, ¬samples.Of input manifestDigest)
    (.error "DVD source sample manifest provenance is invalid")
  let payload : InitialPublicationPayload := {
    toEvidenceManifest := {
      toDvdArchiveEvidenceManifestDigestInput := input
      unrecoveredSourceRangesDigest
      manifestDigest
      id := s!"{originalDiscArchiveId}:initial" }
    sourceArchiveJobId
    image := ⟨proven.imageFilesystemIdentity, proven.imageMtimeNs⟩
    boundaryEvidence := proven.boundaryEvidence
    declaredByteCount := proven.initialCopy.declaredByteCount
    recoveredByteCount := proven.initialCopy.recoveredByteCount }
  return {
    toInitialPublicationPayload := payload
    publicationDigest := createDvdInitialPublicationDigest sha256 payload
    initialCopy := proven.initialCopy
    metadataDecision := proven.metadataDecision
    sourceSampleManifest }

/-- What a manifest says of the copy that it was made from. -/
def DvdInitialManifest.proven (candidate : DvdInitialManifest) :
    ProvenDvdInitialArchiveBoundary where
  boundaryEvidence := candidate.boundaryEvidence
  initialCopy := candidate.initialCopy
  imageFilesystemIdentity := candidate.image.filesystemIdentity
  imageMtimeNs := candidate.image.mtimeNs
  metadataDecision := candidate.metadataDecision

def validateDvdInitialManifest (candidate : DvdInitialManifest) :
    Except InitialSaveError DvdInitialManifest := do
  let expected ← createDvdInitialManifest sha256 candidate.originalDiscArchiveId
    candidate.sourceArchiveJobId candidate.imageFingerprint candidate.proven
    candidate.sourceSampleManifest
  rejectIf (candidate ≠ expected)
    (.error "Initial publication manifest contents or digest conflict")
  return expected

variable {sha256 : Hashed → Digest}

theorem validateSourceSamples_ok (h : validateSourceSamples sha256 samples = .ok valid) :
    valid = samples := by
  cases samples with
  | none =>
    cases h
    rfl
  | some given =>
    obtain ⟨validated, hvalidated, rfl⟩ := map_ok.1 h
    obtain ⟨_, -, hrest⟩ := bind_ok.1 (withError_ok.1 hvalidated)
    obtain ⟨_, -, hrest⟩ := bind_ok.1 hrest
    obtain ⟨_, -, hrest⟩ := bind_ok.1 hrest
    cases hrest
    rfl

/-- What a manifest was made of can be read off it. -/
theorem createDvdInitialManifest_fields {manifest : DvdInitialManifest}
    (h : createDvdInitialManifest sha256 archiveId jobId fingerprint proven samples =
      .ok manifest) :
    manifest.originalDiscArchiveId = archiveId ∧ manifest.sourceArchiveJobId = jobId ∧
      manifest.imageFingerprint = fingerprint ∧ manifest.proven = proven ∧
      manifest.sourceSampleManifest = samples ∧ manifest.revision = 1 := by
  simp only [createDvdInitialManifest, bind_ok, pure_ok, Prod.exists] at h
  obtain ⟨_, _, _, _, _, _, _, _, _, _, _, valid, hvalid, _, _, rfl⟩ := h
  obtain rfl := validateSourceSamples_ok hvalid
  exact ⟨rfl, rfl, rfl, rfl, rfl, rfl⟩

/-- A manifest that was made is valid. -/
theorem validateDvdInitialManifest_created {manifest : DvdInitialManifest}
    (h : createDvdInitialManifest sha256 archiveId jobId fingerprint proven samples =
      .ok manifest) :
    validateDvdInitialManifest sha256 manifest = .ok manifest := by
  obtain ⟨harchive, hjob, hfingerprint, hproven, hsamples, -⟩ := createDvdInitialManifest_fields h
  simp only [validateDvdInitialManifest, harchive, hjob, hfingerprint, hproven, hsamples, bind_ok]
  exact ⟨manifest, h, (), rejectIf_ok.2 (not_not.2 rfl), rfl⟩

theorem validateDvdInitialManifest_ok {candidate manifest : DvdInitialManifest}
    (h : validateDvdInitialManifest sha256 candidate = .ok manifest) : manifest = candidate := by
  simp only [validateDvdInitialManifest, bind_ok, pure_ok, rejectIf_ok, ne_eq, not_not] at h
  obtain ⟨expected, -, _, heq, rfl⟩ := h
  exact heq.symm

end RipDvd
