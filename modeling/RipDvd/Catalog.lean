import RipDvd.Manifest

namespace RipDvd
set_option autoImplicit true

inductive ArchiveIntegrity where
  | cleanRead
  | incompleteRead
  deriving DecidableEq

structure OriginalDiscArchive where
  id : String
  discKind : String
  detectedDiscId : String
  fingerprint : String
  sizeBytes : Nat
  boundaryEvidence : ArchiveBoundaryEvidence
  integrity : ArchiveIntegrity
  integrityEvidenceRevision : Option Nat
  integrityPolicyVersion : String
  badSectorCount : Nat
  badAreaCount : Nat
  badSectorRanges : List (Nat × Nat)
  updatedAt : Nat
  deriving DecidableEq

structure ArchiveJob where
  id : String
  evidenceFormat : String
  originalDiscArchiveId : String
  detectedDiscId : String
  status : String
  deriving DecidableEq

structure DvdArchiveEvidenceHeader where
  originalDiscArchiveId : String
  sourceArchiveJobId : String
  boundaryEvidenceDigest : Digest
  acceptedEndLbaExclusive : Nat
  currentManifestId : String
  currentManifestRevision : Nat
  currentManifestDigest : Digest
  updatedAt : Nat
  deriving DecidableEq

/-- A row of `dvd_archive_evidence_manifests`. -/
structure DvdArchiveEvidenceManifestRow extends EvidenceManifest where
  createdAt : Nat
  deriving DecidableEq

/-- What `dvd_source_sample_manifests` says of the publication its samples are of. -/
structure SourceManifestBinding where
  sourceMetadataFingerprint : String
  acceptedEndLbaExclusive : Nat
  deriving DecidableEq

/-- A row of `dvd_archive_recovery_reads`. -/
structure DvdArchiveRecoveryReadRow extends RecoveryRead where
  fromClassification : SourceClassification
  meaningfulTransition : Bool
  createdAt : Nat
  deriving DecidableEq

inductive ArchiveRecoveryStatus where
  | eligible
  | waitingForDisc
  | running
  | paused
  | stopping
  | stopped
  | completed
  | faulted
  deriving DecidableEq

def ArchiveRecoveryStatus.value : ArchiveRecoveryStatus → String
  | .eligible => "eligible"
  | .waitingForDisc => "waiting_for_disc"
  | .running => "running"
  | .paused => "paused"
  | .stopping => "stopping"
  | .stopped => "stopped"
  | .completed => "completed"
  | .faulted => "faulted"

inductive ArchiveRecoveryPauseReason where
  | noProgress
  | storageFault
  deriving DecidableEq

inductive ArchiveRecoveryPassDirection where
  | forward
  | reverse
  deriving DecidableEq

def ArchiveRecoveryPassDirection.opposite :
    ArchiveRecoveryPassDirection → ArchiveRecoveryPassDirection
  | .forward => .reverse
  | .reverse => .forward

inductive ArchiveRecoveryPassOutcome where
  | productive
  | noProgress
  | completed
  deriving DecidableEq

structure ArchiveRecoveryPassSummary where
  passNumber : Nat
  direction : ArchiveRecoveryPassDirection
  initialUnrecoveredSectorCount : Nat
  recoveredSectorCount : Nat
  remainingSectorCount : Nat
  lastCursorLba : Option Nat
  startedAtMs : Nat
  completedAtMs : Nat
  elapsedMs : Nat
  outcome : ArchiveRecoveryPassOutcome
  deriving DecidableEq

structure ArchiveRecovery where
  id : String
  originalDiscArchiveId : String
  attemptId : String
  attemptOrdinal : Nat
  status : ArchiveRecoveryStatus
  pauseReason : Option ArchiveRecoveryPauseReason
  passHistory : List ArchiveRecoveryPassSummary
  resumeOperationId : Option String
  resumeCheckpointRevision : Option Nat
  resumeCheckpointDigest : Option Digest
  stopOperationId : Option String
  stopRequestedAt : Option Nat
  stoppedAt : Option Nat
  faultCode : Option String
  updatedAt : Nat
  deriving DecidableEq

def DVD_RECOVERY_PASS_HISTORY_LIMIT : Nat := 16

/-- The column checks of `archive_recoveries`: what a status says about the other columns. -/
structure ArchiveRecovery.Valid (recovery : ArchiveRecovery) : Prop where
  attempt : 0 < recovery.attemptOrdinal
  pause : recovery.status = .paused ↔ recovery.pauseReason ≠ none
  history : recovery.passHistory.length ≤ DVD_RECOVERY_PASS_HISTORY_LIMIT
  stopping : recovery.status = .stopping → recovery.stopOperationId ≠ none ∧
    recovery.stopRequestedAt ≠ none ∧ recovery.stoppedAt = none
  stopped : recovery.status = .stopped → recovery.stopOperationId ≠ none ∧
    recovery.stopRequestedAt ≠ none ∧ recovery.stoppedAt ≠ none
  faulted : recovery.status = .faulted → recovery.stoppedAt = none ∧
    (recovery.stopOperationId = none ↔ recovery.stopRequestedAt = none)
  active : recovery.status ∉ [ArchiveRecoveryStatus.stopping, .stopped, .faulted] →
    recovery.stopOperationId = none ∧ recovery.stopRequestedAt = none ∧ recovery.stoppedAt = none
  fault : recovery.status = .faulted ↔ recovery.faultCode ≠ none

theorem ArchiveRecovery.valid_iff {r : ArchiveRecovery} :
    r.Valid ↔ 0 < r.attemptOrdinal ∧ (r.status = .paused ↔ r.pauseReason ≠ none) ∧
      r.passHistory.length ≤ DVD_RECOVERY_PASS_HISTORY_LIMIT ∧
      (r.status = .stopping → r.stopOperationId ≠ none ∧ r.stopRequestedAt ≠ none ∧
        r.stoppedAt = none) ∧
      (r.status = .stopped → r.stopOperationId ≠ none ∧ r.stopRequestedAt ≠ none ∧
        r.stoppedAt ≠ none) ∧
      (r.status = .faulted → r.stoppedAt = none ∧
        (r.stopOperationId = none ↔ r.stopRequestedAt = none)) ∧
      (r.status ∉ [ArchiveRecoveryStatus.stopping, .stopped, .faulted] →
        r.stopOperationId = none ∧ r.stopRequestedAt = none ∧ r.stoppedAt = none) ∧
      (r.status = .faulted ↔ r.faultCode ≠ none) :=
  ⟨fun ⟨h1, h2, h3, h4, h5, h6, h7, h8⟩ => ⟨h1, h2, h3, h4, h5, h6, h7, h8⟩,
    fun ⟨h1, h2, h3, h4, h5, h6, h7, h8⟩ => ⟨h1, h2, h3, h4, h5, h6, h7, h8⟩⟩

instance (recovery : ArchiveRecovery) : Decidable recovery.Valid :=
  decidable_of_iff _ ArchiveRecovery.valid_iff.symm

inductive ArchiveRecoveryWorkStatus where
  | requested
  | claimed
  deriving DecidableEq

/-- What the pass in progress has done since it started. -/
structure ArchiveRecoveryPass where
  passNumber : Nat
  passDirection : ArchiveRecoveryPassDirection
  passStartedAt : Option Nat
  passStartedManifestRevision : Option Nat
  passInitialUnrecoveredSectorCount : Option Nat
  passRecoveredSectorCount : Nat
  passObservationCount : Option Nat
  passPositiveIntervalCount : Option Nat
  passMinimumIntervalMs : Option Nat
  passMaximumIntervalMs : Option Nat
  passLastObservedAt : Option Nat
  passCursorLba : Option Nat
  deriving DecidableEq

structure ArchiveRecoveryWork extends ArchiveRecoveryPass where
  archiveRecoveryId : String
  originalDiscArchiveId : String
  attemptId : String
  status : ArchiveRecoveryWorkStatus
  verificationId : Option String
  discConfirmationId : Option String
  requestedAt : Option Nat
  claimedBy : Option String
  claimToken : Option String
  claimedAt : Option Nat
  updatedAt : Nat
  deriving DecidableEq

/-- The column defaults of a new work row. -/
def ArchiveRecoveryPass.initial : ArchiveRecoveryPass where
  passNumber := 1
  passDirection := .forward
  passStartedAt := none
  passStartedManifestRevision := none
  passInitialUnrecoveredSectorCount := none
  passRecoveredSectorCount := 0
  passObservationCount := none
  passPositiveIntervalCount := none
  passMinimumIntervalMs := none
  passMaximumIntervalMs := none
  passLastObservedAt := none
  passCursorLba := none

/-- The claim a worker holds: the identity of a work row at the time it was claimed. -/
structure ClaimedArchiveRecoveryWork where
  archiveRecoveryId : String
  originalDiscArchiveId : String
  attemptId : String
  verificationId : Option String
  discConfirmationId : Option String
  claimedBy : String
  claimToken : String
  deriving DecidableEq

inductive DvdDiscVerificationStatus where
  | queued
  | running
  | completed
  | failed
  deriving DecidableEq

inductive DvdDiscVerificationOutcome where
  | «match»
  | mismatch
  | inconclusive
  deriving DecidableEq

/-- `resultDigest` is what `createDvdDiscVerificationResultDigest` computes from the row. -/
structure DvdDiscVerification where
  id : String
  archiveRecoveryId : String
  archiveRecoveryAttemptId : Option String
  attemptOrdinal : Nat
  originalDiscArchiveId : String
  discInspectionId : String
  detectedDiscId : String
  mediaGeneration : String
  sourceMetadataFingerprint : String
  observedMetadataFingerprint : String
  checkpointRevision : Nat
  checkpointDigest : Digest
  status : DvdDiscVerificationStatus
  outcome : Option DvdDiscVerificationOutcome
  workerExecutionId : Option String
  claimedAt : Option Nat
  resultDigest : Digest
  claimToken : Option String := none
  startedAt : Option Nat
  completedAt : Option Nat
  failureCode : Option String := none
  createdAt : Nat
  deriving DecidableEq

structure DvdDiscConfirmation where
  id : String
  archiveRecoveryId : String
  archiveRecoveryAttemptId : String
  originalDiscArchiveId : String
  verificationId : String
  discInspectionId : String
  detectedDiscId : String
  mediaGeneration : String
  verificationWorkerExecutionId : String
  verificationOutcome : DvdDiscVerificationOutcome
  verificationResultDigest : Digest
  checkpointRevision : Nat
  checkpointDigest : Digest
  acknowledgedMixedSource : Bool
  expiredAt : Option Nat
  deriving DecidableEq

/-- The identities a recovery writer revalidates before it mutates an archive. -/
structure DvdRecoveryWriteAuthority where
  verificationId : String
  archiveRecoveryId : String
  archiveRecoveryAttemptId : String
  originalDiscArchiveId : String
  discInspectionId : String
  detectedDiscId : String
  mediaGeneration : String
  verificationWorkerExecutionId : String
  checkpointRevision : Nat
  checkpointDigest : Digest
  discConfirmationId : Option String
  deriving DecidableEq

structure DiscInspection where
  id : String
  isCurrent : Bool
  status : String
  detectedDiscId : Option String
  mediaGeneration : String
  deriving DecidableEq

structure DetectedDisc where
  id : String
  fingerprint : String
  deriving DecidableEq

structure DvdRecoveryReconciliation where
  attemptOrdinal : Nat
  status : String
  claimToken : Option String := none
  claimedAt : Option Nat := none
  deriving DecidableEq

/-- `unitBytes_pos` is what the writer's inspection refuses to report otherwise. -/
structure DvdRecoveryMutationProtection where
  contract : String
  unitBytes : Nat
  memoryAlignmentBytes : Nat
  unitBytes_pos : 0 < unitBytes
  deriving DecidableEq

/-- The recovery storage preflight; no protection when it is unproven. -/
structure DvdRecoveryStoragePreflight where
  status : String
  mutationProtection : Option DvdRecoveryMutationProtection
  deriving DecidableEq

/-- The catalog rows of one archive and of the recovery that owns it. -/
structure Catalog where
  archive : OriginalDiscArchive
  archiveJobs : List ArchiveJob
  header : DvdArchiveEvidenceHeader
  manifests : List DvdArchiveEvidenceManifestRow
  recoveryReads : List DvdArchiveRecoveryReadRow
  recovery : ArchiveRecovery
  work : Option ArchiveRecoveryWork
  verifications : List DvdDiscVerification
  confirmations : List DvdDiscConfirmation
  inspections : List DiscInspection
  detectedDiscs : List DetectedDisc
  reconciliations : List DvdRecoveryReconciliation
  sourceManifest : Option SourceManifestBinding
  storage : Option DvdRecoveryStoragePreflight
  /-- an active encode job of the archive -/
  activeEncodeWork : Bool
  /-- a damage preview that holds the recovery -/
  damagePreviewHolds : Bool
  deriving DecidableEq

namespace Catalog

def findVerification (c : Catalog) (id : String) : Option DvdDiscVerification :=
  c.verifications.find? (·.id = id)

def findConfirmation (c : Catalog) (id : String) : Option DvdDiscConfirmation :=
  c.confirmations.find? (·.id = id)

/-- The row with the highest attempt ordinal. -/
def latestVerification (c : Catalog) : Option DvdDiscVerification :=
  (c.verifications.filter (·.archiveRecoveryId = c.recovery.id)).foldl (fun latest v =>
    match latest with
    | some l => if l.attemptOrdinal < v.attemptOrdinal then some v else some l
    | none => some v) none

def latestReconciliation (c : Catalog) : Option DvdRecoveryReconciliation :=
  c.reconciliations.foldl (fun latest r =>
    match latest with
    | some l => if l.attemptOrdinal < r.attemptOrdinal then some r else some l
    | none => some r) none

/-- The manifest row the header names. -/
def currentManifest (c : Catalog) : Option DvdArchiveEvidenceManifestRow :=
  c.manifests.find? (·.id = c.header.currentManifestId)

/-- The map of the manifest the header names. -/
def currentDvdUnrecoveredSourceRanges (c : Catalog) :
    Except DomainError (List UnrecoveredSourceRange) :=
  match c.currentManifest with
  | some row => .ok row.unrecoveredSourceRanges
  | none => .error (.recordNotFound "DVD Archive Evidence" c.header.originalDiscArchiveId)

end Catalog

/-- The claim must still be the one recorded in the work row. -/
def requireCurrentArchiveRecoveryClaim (c : Catalog) (claim : ClaimedArchiveRecoveryWork) :
    Except DomainError ArchiveRecoveryWork :=
  match c.work with
  | some work =>
    if c.recovery.id = claim.archiveRecoveryId ∧
        c.recovery.originalDiscArchiveId = claim.originalDiscArchiveId ∧
        work.status = .claimed ∧ work.claimToken = some claim.claimToken ∧
        work.claimedBy = some claim.claimedBy ∧ work.attemptId = claim.attemptId ∧
        c.recovery.attemptId = claim.attemptId then .ok work
    else .error (.staleJobAttempt "Archive Recovery work" claim.archiveRecoveryId)
  | none => .error (.staleJobAttempt "Archive Recovery work" claim.archiveRecoveryId)

theorem requireCurrentArchiveRecoveryClaim_ok :
    requireCurrentArchiveRecoveryClaim c claim = .ok work ↔ c.work = some work ∧
      c.recovery.id = claim.archiveRecoveryId ∧
      c.recovery.originalDiscArchiveId = claim.originalDiscArchiveId ∧
      work.status = .claimed ∧ work.claimToken = some claim.claimToken ∧
      work.claimedBy = some claim.claimedBy ∧ work.attemptId = claim.attemptId ∧
      c.recovery.attemptId = claim.attemptId := by
  rw [requireCurrentArchiveRecoveryClaim]
  cases c.work with
  | none => exact ⟨fun h => (nomatch h), fun h => (nomatch h.1)⟩
  | some row =>
    simp only [Option.some.injEq]
    split
    · next hc => exact ⟨fun h => by cases h; exact ⟨rfl, hc⟩, fun h => by rw [h.1]⟩
    · next hc => exact ⟨fun h => (nomatch h), fun h => absurd (h.1 ▸ h.2) hc⟩

def dvdDiscVerificationInsertionIsCurrent (verification : DvdDiscVerification)
    (inspection : Option DiscInspection) : Bool :=
  match inspection with
  | some inspection =>
    inspection.id = verification.discInspectionId && inspection.isCurrent &&
      inspection.status = "completed" &&
      inspection.detectedDiscId = some verification.detectedDiscId &&
      inspection.mediaGeneration = verification.mediaGeneration
  | none => false

def dvdDiscConfirmationMatchesVerification (verification : DvdDiscVerification)
    (confirmation : DvdDiscConfirmation) : Bool :=
  verification.status = .completed &&
  verification.outcome ≠ none &&
  verification.outcome ≠ some .match &&
  verification.archiveRecoveryAttemptId ≠ none &&
  verification.workerExecutionId ≠ none &&
  confirmation.acknowledgedMixedSource &&
  confirmation.archiveRecoveryId = verification.archiveRecoveryId &&
  some confirmation.archiveRecoveryAttemptId = verification.archiveRecoveryAttemptId &&
  confirmation.originalDiscArchiveId = verification.originalDiscArchiveId &&
  confirmation.verificationId = verification.id &&
  confirmation.discInspectionId = verification.discInspectionId &&
  confirmation.detectedDiscId = verification.detectedDiscId &&
  confirmation.mediaGeneration = verification.mediaGeneration &&
  some confirmation.verificationWorkerExecutionId = verification.workerExecutionId &&
  some confirmation.verificationOutcome = verification.outcome &&
  confirmation.verificationResultDigest = verification.resultDigest &&
  confirmation.checkpointRevision = verification.checkpointRevision &&
  confirmation.checkpointDigest = verification.checkpointDigest

/-- An operator's live confirmation lets a mismatched disc be written from. -/
def dvdConfirmedRecoveryWriteAuthority (verification : DvdDiscVerification)
    (confirmation : DvdDiscConfirmation) : Option DvdRecoveryWriteAuthority :=
  match verification.archiveRecoveryAttemptId, verification.workerExecutionId with
  | some attemptId, some workerExecutionId =>
    if confirmation.expiredAt ≠ none ||
        !dvdDiscConfirmationMatchesVerification verification confirmation then none
    else some {
      verificationId := verification.id
      archiveRecoveryId := verification.archiveRecoveryId
      archiveRecoveryAttemptId := attemptId
      originalDiscArchiveId := verification.originalDiscArchiveId
      discInspectionId := verification.discInspectionId
      detectedDiscId := verification.detectedDiscId
      mediaGeneration := verification.mediaGeneration
      verificationWorkerExecutionId := workerExecutionId
      checkpointRevision := verification.checkpointRevision
      checkpointDigest := verification.checkpointDigest
      discConfirmationId := some confirmation.id }
  | _, _ => none

end RipDvd
