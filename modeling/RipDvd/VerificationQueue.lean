import RipDvd.Claims
import RipDvd.Collections

namespace RipDvd
set_option autoImplicit true

inductive DvdDiscVerificationReasonCode where
  | discMetadataMismatch
  | discSampleMismatch
  | discSampleManifestUnavailable
  | discSampleCoverageIncomplete
  | discSampleUnreadable
  | discVerificationTimeout
  | discVerificationInterrupted
  | discInsertionChanged
  | discCheckpointChanged
  deriving DecidableEq

/-- What a verification came to; `resultDigest` is the digest of the row it is written to. -/
structure EvaluatedVerification where
  outcome : DvdDiscVerificationOutcome
  reasons : List DvdDiscVerificationReasonCode
  resultDigest : Digest
  deriving DecidableEq

/-- The claim a verification worker holds. -/
structure VerificationClaim where
  id : String
  claimToken : String
  deriving DecidableEq

def DVD_DISC_VERIFICATION_CLAIM_LEASE_MS : Nat := 65000

/-- The source samples of an archive must be those of its initial publication. -/
def validateDvdDiscVerificationManifestBinding (c : Catalog) : Except DomainError Unit :=
  match c.sourceManifest with
  | none => .ok ()
  | some manifest =>
    rejectIf (manifest.sourceMetadataFingerprint ≠ c.archive.fingerprint ∨
        manifest.acceptedEndLbaExclusive ≠ c.header.acceptedEndLbaExclusive)
      (.invariant "DVD source sample manifest does not match its initial publication")

/-- The source samples of the archive, if it has any, are those of its initial publication. -/
def SourceBound (c : Catalog) : Prop :=
  ∀ manifest ∈ c.sourceManifest, manifest.sourceMetadataFingerprint = c.archive.fingerprint ∧
    manifest.acceptedEndLbaExclusive = c.header.acceptedEndLbaExclusive

theorem validateDvdDiscVerificationManifestBinding_ok :
    validateDvdDiscVerificationManifestBinding c = .ok () ↔ SourceBound c := by
  rw [validateDvdDiscVerificationManifestBinding, SourceBound]
  split
  · next hnone => simp [hnone]
  · next manifest hsome =>
    rw [rejectIf_ok, not_or, not_not, not_not, hsome]
    simp

/-- The values of a verification of an insertion against the current checkpoint. -/
def verificationOf (c : Catalog) (inspection : DiscInspection) (observedDisc : DetectedDisc) :
    DvdDiscVerification where
  id := ""
  archiveRecoveryId := c.recovery.id
  archiveRecoveryAttemptId := some c.recovery.attemptId
  attemptOrdinal := 0
  originalDiscArchiveId := c.recovery.originalDiscArchiveId
  discInspectionId := inspection.id
  detectedDiscId := observedDisc.id
  mediaGeneration := inspection.mediaGeneration
  sourceMetadataFingerprint :=
    (c.sourceManifest.map (·.sourceMetadataFingerprint)).getD c.archive.fingerprint
  observedMetadataFingerprint := observedDisc.fingerprint
  checkpointRevision := c.header.currentManifestRevision
  checkpointDigest := c.header.currentManifestDigest
  status := .queued
  outcome := none
  workerExecutionId := none
  claimedAt := none
  resultDigest := 0
  startedAt := none
  completedAt := none
  createdAt := 0

/-- The disc an insertion holds. -/
def requireDetectedDisc (c : Catalog) (inspection : DiscInspection) :
    Except DomainError DetectedDisc :=
  match inspection.detectedDiscId with
  | none => .error (.invariant "Archive Recovery Resume insertion has no Detected Disc")
  | some id =>
    match c.findDetectedDisc id with
    | none => .error (.recordNotFound "Detected Disc" id)
    | some disc => .ok disc

def DvdDiscVerification.Active (verification : DvdDiscVerification) : Prop :=
  verification.status = .queued ∨ verification.status = .running

instance (verification : DvdDiscVerification) : Decidable verification.Active :=
  inferInstanceAs (Decidable (_ ∨ _))

/-- The verifications of the current attempt. -/
def ofAttempt (c : Catalog) (verification : DvdDiscVerification) : Prop :=
  verification.archiveRecoveryId = c.recovery.id ∧
    verification.archiveRecoveryAttemptId = some c.recovery.attemptId

instance (c : Catalog) (verification : DvdDiscVerification) :
    Decidable (ofAttempt c verification) :=
  inferInstanceAs (Decidable (_ ∧ _))

/-- A verification of the attempt that has not settled. -/
def activeVerification (c : Catalog) : Prop :=
  ∃ verification ∈ c.verifications, ofAttempt c verification ∧ verification.Active

instance (c : Catalog) : Decidable (activeVerification c) :=
  inferInstanceAs (Decidable (∃ verification ∈ c.verifications, _))

/-- `dvdDiscVerifications.submit`. -/
def submitVerification (discInspectionId : String) (checkpointRevision : Nat)
    (checkpointDigest : Digest) (newId : String) (timestamp : Nat) (c : Catalog) :
    Except DomainError Catalog := do
  rejectIf (c.recovery.status ≠ .eligible)
    (.invalidStatusTransition "archive recovery" c.recovery.status.value "DVD Disc Verification")
  rejectIf (c.header.currentManifestRevision ≠ checkpointRevision ∨
      c.header.currentManifestDigest ≠ checkpointDigest)
    (.staleJobAttempt "DVD Disc Verification" "DISC_CHECKPOINT_CHANGED")
  match c.findInspection discInspectionId with
  | none => throw (.recordNotFound "disc inspection" discInspectionId)
  | some inspection => do
    rejectIf (¬inspection.isCurrent ∨ inspection.status ≠ "completed")
      (.staleJobAttempt "DVD Disc Verification" "DISC_INSERTION_CHANGED")
    let observedDisc ← requireDetectedDisc c inspection
    rejectIf (∃ other ∈ c.verifications, other.archiveRecoveryId = c.recovery.id ∧ other.Active)
      (.invalidStatusTransition "DVD Disc Verification" "active" "queued")
    validateDvdDiscVerificationManifestBinding c
    insertQueuedDvdDiscVerification c newId (verificationOf c inspection observedDisc) timestamp

/-- Replace a row by the one with its id. -/
def Catalog.updateVerification (c : Catalog) (row : DvdDiscVerification) : Catalog :=
  { c with verifications := c.verifications.map fun verification =>
    if verification.id = row.id then row else verification }

/-- The recovery still waits for this verification. -/
def awaitsVerification (c : Catalog) (verification : DvdDiscVerification) : Prop :=
  verification.archiveRecoveryId = c.recovery.id ∧ c.recovery.status = .eligible ∧
    verification.archiveRecoveryAttemptId = some c.recovery.attemptId

instance (c : Catalog) (verification : DvdDiscVerification) :
    Decidable (awaitsVerification c verification) :=
  inferInstanceAs (Decidable (_ ∧ _))

/-- The oldest verification first. -/
def compareVerifications : DvdDiscVerification → DvdDiscVerification → Ordering :=
  compareLex (compareOn (·.createdAt)) (compareOn (·.id))

/-- `dvdDiscVerifications.claimNext`. -/
def claimNextVerification (workerExecutionId claimToken : String) (timestamp : Nat) (c : Catalog) :
    Except DomainError (Option VerificationClaim × Catalog) := do
  let execution ← requireNonEmpty (trim workerExecutionId)
    "DVD Disc Verification worker execution ID"
  rejectIf (256 < execution.length)
    (.invariant "DVD Disc Verification worker execution ID is too long")
  match earliest compareVerifications
    (c.verifications.filter fun v => v.status = .queued ∧ awaitsVerification c v) with
  | none => return (none, c)
  | some next => return (some ⟨next.id, claimToken⟩, c.updateVerification { next with
      status := .running
      workerExecutionId := some execution
      claimedAt := some timestamp
      claimToken := some claimToken
      startedAt := some timestamp })

/-- The running row of a claim. -/
def heldVerification (c : Catalog) (claim : VerificationClaim) : Option DvdDiscVerification :=
  (c.findVerification claim.id).filter fun v =>
    v.status = .running ∧ v.claimToken = some claim.claimToken

/-- `dvdDiscVerifications.renewClaim`, and `admitSourceRead` when the insertion is current. -/
def renewVerificationClaim (claim : VerificationClaim) (timestamp : Nat) (c : Catalog) :
    Bool × Catalog :=
  match heldVerification c claim with
  | none => (false, c)
  | some verification =>
    if awaitsVerification c verification then
      (true, c.updateVerification { verification with claimedAt := some timestamp })
    else (false, c)

/-- An interruption, and at most the missing coverage it caused. -/
def retryableInterruption : Option EvaluatedVerification → Prop
  | none => False
  | some evaluated => evaluated.outcome = .inconclusive ∧
    .discVerificationInterrupted ∈ evaluated.reasons ∧
    ∀ reason ∈ evaluated.reasons, reason = .discSampleCoverageIncomplete ∨
      reason = .discVerificationInterrupted

instance : Decidable (retryableInterruption evaluated) := by
  cases evaluated with
  | none => exact isFalse id
  | some evaluated => exact inferInstanceAs (Decidable (_ ∧ _))

/-- The verification of a resumed pass. -/
def verifiesResume (c : Catalog) (verification : DvdDiscVerification) : Prop :=
  awaitsVerification c verification ∧ c.recovery.resumeOperationId ≠ none ∧
    ∃ work ∈ c.work, work.status = .requested ∧ work.verificationId = some verification.id

instance (c : Catalog) (verification : DvdDiscVerification) :
    Decidable (verifiesResume c verification) :=
  inferInstanceAs (Decidable (_ ∧ _))

/-- The verification of the pass that follows a productive one. -/
def verifiesNextPass (c : Catalog) (verification : DvdDiscVerification) : Prop :=
  awaitsVerification c verification ∧
    (∃ work ∈ c.work, work.status = .requested ∧ work.verificationId = none ∧
      work.passStartedAt = none ∧ ∃ last ∈ c.recovery.passHistory.getLast?,
        last.outcome = .productive ∧ work.passNumber = last.passNumber + 1)

instance (c : Catalog) (verification : DvdDiscVerification) :
    Decidable (verifiesNextPass c verification) :=
  inferInstanceAs (Decidable (_ ∧ _))

/-- Bind the requested pass of a resumed recovery to another verification. -/
def rebindWork (c : Catalog) (verificationId : String) (timestamp : Nat) :
    Except DomainError Catalog :=
  match c.work with
  | none => .error (.recordNotFound "Archive Recovery work" c.recovery.id)
  | some work => writeWork c { work with
      verificationId := some verificationId
      requestedAt := some timestamp
      updatedAt := timestamp }

/-- What a verification that the program itself queued means for the recovery. -/
def settleGeneratedContinuationVerification (c : Catalog) (verification : DvdDiscVerification)
    (evaluated : Option EvaluatedVerification) (newId : String) (timestamp : Nat) :
    Except DomainError Catalog :=
  if verifiesResume c verification then
    if retryableInterruption evaluated then do
      let queued ← insertQueuedDvdDiscVerification c newId verification timestamp
      rebindWork queued newId timestamp
    else if evaluated.map (·.outcome) = some .match then .ok c
    else updateArchiveRecovery c { c.recovery with
      status := .waitingForDisc
      updatedAt := timestamp }
  else if verifiesNextPass c verification then
    if evaluated.map (·.outcome) = some .match then .ok c
    else if retryableInterruption evaluated then
      insertQueuedDvdDiscVerification c newId verification timestamp
    else updateArchiveRecovery c { c.recovery with
      status := .faulted
      faultCode := some "DISC_VERIFICATION_STALE"
      pauseReason := none
      updatedAt := timestamp }
  else .ok c

def DISC_VERIFICATION_UNAVAILABLE : String := "DISC_VERIFICATION_UNAVAILABLE"

/-- The row of a verification that has come to its result. -/
def DvdDiscVerification.completedWith (verification : DvdDiscVerification)
    (evaluated : EvaluatedVerification) (timestamp : Nat) : DvdDiscVerification :=
  { verification with
    status := .completed
    outcome := some evaluated.outcome
    resultDigest := evaluated.resultDigest
    claimedAt := none
    claimToken := none
    completedAt := some timestamp }

def DvdDiscVerification.asFailed (verification : DvdDiscVerification) (timestamp : Nat) :
    DvdDiscVerification :=
  { verification with
    status := .failed
    claimedAt := none
    claimToken := none
    completedAt := some timestamp
    failureCode := some DISC_VERIFICATION_UNAVAILABLE }

/-- `dvdDiscVerifications.complete`, with the result `evaluatePersistedDvdDiscVerification`
found. -/
def completeVerification (claim : VerificationClaim) (evaluated : EvaluatedVerification)
    (newId : String) (timestamp : Nat) (c : Catalog) : Except DomainError Catalog :=
  match heldVerification c claim with
  | none => .error (.staleJobAttempt "DVD Disc Verification" claim.id)
  | some verification => do
    rejectIf (¬awaitsVerification c verification)
      (.staleJobAttempt "DVD Disc Verification" claim.id)
    let completed := verification.completedWith evaluated timestamp
    settleGeneratedContinuationVerification (c.updateVerification completed) completed
      (some evaluated) newId timestamp

/-- `dvdDiscVerifications.fail`: whether the claim was still held. -/
def failVerification (claim : VerificationClaim) (newId : String) (timestamp : Nat) (c : Catalog) :
    Except DomainError (Bool × Catalog) :=
  match heldVerification c claim with
  | none => .ok (false, c)
  | some verification => do
    let failed := verification.asFailed timestamp
    let settled ← settleGeneratedContinuationVerification (c.updateVerification failed) failed none
      newId timestamp
    return (true, settled)

/-- A running verification whose lease has run out. -/
def DvdDiscVerification.Expired (verification : DvdDiscVerification) (timestamp : Nat) : Prop :=
  verification.status = .running ∧ ∃ claimedAt ∈ verification.claimedAt,
    claimedAt < timestamp - DVD_DISC_VERIFICATION_CLAIM_LEASE_MS

instance (verification : DvdDiscVerification) (timestamp : Nat) :
    Decidable (verification.Expired timestamp) :=
  inferInstanceAs (Decidable (_ ∧ _))

/-- Complete one expired verification as interrupted. -/
def recoverExpiredVerification (evaluate : DvdDiscVerification → EvaluatedVerification)
    (newId : String → String) (timestamp : Nat) (c : Catalog) (verification : DvdDiscVerification) :
    Except DomainError Catalog := do
  rejectIf (verification.claimToken = none)
    (.invariant "Running DVD Disc Verification has no claim token")
  let completed := verification.completedWith (evaluate verification) timestamp
  settleGeneratedContinuationVerification (c.updateVerification completed) completed
    (some (evaluate verification)) (newId verification.id) timestamp

/-- `dvdDiscVerifications.recoverExpiredClaims`. -/
def recoverExpiredVerifications (evaluate : DvdDiscVerification → EvaluatedVerification)
    (newId : String → String) (timestamp : Nat) (c : Catalog) : Except DomainError Catalog :=
  (c.verifications.filter (·.Expired timestamp)).foldlM
    (recoverExpiredVerification evaluate newId timestamp) c

/-- A row of the attempt that is still active was active before, unless the recovery may get
new ones. -/
def VerificationsChange (c : Catalog) (verifications : List DvdDiscVerification) : Prop :=
  c.recovery.status = .eligible ∨
    (activeVerification { c with verifications } → activeVerification c)

theorem submitVerification_ok
    (h : submitVerification inspectionId revision digest newId timestamp c = .ok c') :
    c.recovery.status = .eligible ∧
      ∃ row, c' = { c with verifications := c.verifications ++ [row] } := by
  simp only [submitVerification, bind_ok, rejectIf_ok, ne_eq, not_not] at h
  obtain ⟨-, hstatus, -, -, h⟩ := h
  refine ⟨hstatus, ?_⟩
  split at h
  · cases h
  · simp only [bind_ok] at h
    obtain ⟨_, -, _, -, _, -, _, -, h⟩ := h
    exact insertQueuedDvdDiscVerification_ok h

/-- Replacing a row by one that is not active leaves no active row that was not there. -/
theorem activeVerification_updateVerification (h : ¬row.Active)
    (ha : activeVerification (c.updateVerification row)) : activeVerification c := by
  obtain ⟨verification, hm, hof, hactive⟩ := ha
  obtain ⟨other, ho, he⟩ := List.mem_map.1 hm
  split at he
  · subst he
    exact absurd hactive h
  · subst he
    exact ⟨other, ho, hof, hactive⟩

theorem claimNextVerification_ok
    (h : claimNextVerification workerExecutionId claimToken timestamp c = .ok (claim, c')) :
    ∃ verifications, VerificationsChange c verifications ∧ c' = { c with verifications } := by
  simp only [claimNextVerification, bind_ok] at h
  obtain ⟨_, -, _, -, h⟩ := h
  split at h
  · cases h
    exact ⟨_, .inr id, rfl⟩
  · next next hfind =>
    cases h
    obtain ⟨_, hqueued⟩ := List.mem_filter.1 (earliest_mem hfind)
    obtain ⟨_, hawaits⟩ := decide_eq_true_eq.mp hqueued
    exact ⟨_, .inl hawaits.2.1, rfl⟩

theorem heldVerification_some : heldVerification c claim = some verification ↔
    c.findVerification claim.id = some verification ∧ verification.status = .running ∧
      verification.claimToken = some claim.claimToken := by
  rw [heldVerification, Option.filter_eq_some_iff, decide_eq_true_eq]

theorem renewVerificationClaim_eq (h : renewVerificationClaim claim timestamp c = (held, c')) :
    ∃ verifications, VerificationsChange c verifications ∧ c' = { c with verifications } := by
  rw [renewVerificationClaim] at h
  split at h
  · cases h
    exact ⟨_, .inr id, rfl⟩
  · split at h
    · next hawaits =>
      cases h
      exact ⟨_, .inl hawaits.2.1, rfl⟩
    · cases h
      exact ⟨_, .inr id, rfl⟩

/-- What a settled verification does to an eligible recovery and its requested pass. -/
inductive Continuation (c : Catalog) (timestamp : Nat) : Catalog → Prop where
  | unchanged : Continuation c timestamp c
  | queued (heligible : c.recovery.status = .eligible) (row : DvdDiscVerification) :
    Continuation c timestamp { c with verifications := c.verifications ++ [row] }
  | rebound (heligible : c.recovery.status = .eligible) (row : DvdDiscVerification)
    (work : ArchiveRecoveryWork) (hwork : c.work = some work)
    (hrequested : work.status = .requested)
    (newId : String) :
    Continuation c timestamp { c with
      verifications := c.verifications ++ [row]
      work := some { work with
        verificationId := some newId
        requestedAt := some timestamp
        updatedAt := timestamp } }
  | unmatched (heligible : c.recovery.status = .eligible)
    (hresume : c.recovery.resumeOperationId ≠ none)
    (hwork : ∃ work ∈ c.work, work.status = .requested)
    (hvalid : ArchiveRecovery.Valid { c.recovery with
      status := .waitingForDisc
      updatedAt := timestamp }) :
    Continuation c timestamp { c with recovery := { c.recovery with
      status := .waitingForDisc
      updatedAt := timestamp } }
  | faulted (heligible : c.recovery.status = .eligible) (code : String)
    (hvalid : ArchiveRecovery.Valid { c.recovery with
      status := .faulted
      faultCode := some code
      pauseReason := none
      updatedAt := timestamp }) :
    Continuation c timestamp { c with recovery := { c.recovery with
      status := .faulted
      faultCode := some code
      pauseReason := none
      updatedAt := timestamp } }

theorem rebindWork_ok (h : rebindWork c verificationId timestamp = .ok c') :
    ∃ work, c.work = some work ∧ c' = { c with work := some { work with
      verificationId := some verificationId
      requestedAt := some timestamp
      updatedAt := timestamp } } := by
  rw [rebindWork] at h
  split at h
  · cases h
  · next work hwork =>
    obtain ⟨-, -, -, rfl⟩ := writeWork_ok.1 h
    exact ⟨work, hwork, rfl⟩

theorem settleGeneratedContinuationVerification_ok
    (h : settleGeneratedContinuationVerification c verification evaluated newId timestamp =
      .ok c') : Continuation c timestamp c' := by
  rw [settleGeneratedContinuationVerification] at h
  by_cases hr : verifiesResume c verification
  · rw [if_pos hr] at h
    obtain ⟨⟨-, heligible, -⟩, hresume, work, hwork, hrequested, -⟩ := hr
    split at h
    · obtain ⟨queued, hq, hb⟩ := bind_ok.1 h
      obtain ⟨row, rfl⟩ := insertQueuedDvdDiscVerification_ok hq
      obtain ⟨work', hwork', rfl⟩ := rebindWork_ok hb
      cases hwork.symm.trans hwork'
      exact .rebound heligible row work hwork hrequested newId
    · split at h
      · cases h
        exact .unchanged
      · obtain ⟨-, -, -, -, hvalid, rfl⟩ := updateArchiveRecovery_ok.1 h
        exact .unmatched heligible hresume ⟨work, hwork, hrequested⟩ hvalid
  · rw [if_neg hr] at h
    by_cases hn : verifiesNextPass c verification
    · have heligible := hn.1.2.1
      rw [if_pos hn] at h
      split at h
      · cases h
        exact .unchanged
      · split at h
        · obtain ⟨row, rfl⟩ := insertQueuedDvdDiscVerification_ok h
          exact .queued heligible row
        · obtain ⟨-, -, -, -, hvalid, rfl⟩ := updateArchiveRecovery_ok.1 h
          exact .faulted heligible _ hvalid
    · rw [if_neg hn] at h
      cases h
      exact .unchanged

/-- A verification settles: its row is no longer active, and its recovery goes on. -/
def VerificationSettles (c : Catalog) (timestamp : Nat) (c' : Catalog) : Prop :=
  ∃ row, ¬row.Active ∧ Continuation (c.updateVerification row) timestamp c'

theorem not_active_completedWith (verification : DvdDiscVerification)
    (evaluated : EvaluatedVerification) (timestamp : Nat) :
    ¬(verification.completedWith evaluated timestamp).Active := by
  rintro (h | h)
  · cases h
  · cases h

theorem not_active_asFailed (verification : DvdDiscVerification) (timestamp : Nat) :
    ¬(verification.asFailed timestamp).Active := by
  rintro (h | h)
  · cases h
  · cases h

theorem completeVerification_ok
    (h : completeVerification claim evaluated newId timestamp c = .ok c') :
    VerificationSettles c timestamp c' := by
  rw [completeVerification] at h
  split at h
  · cases h
  · next verification _ =>
    obtain ⟨_, -, hs⟩ := bind_ok.1 h
    exact ⟨_, not_active_completedWith verification evaluated timestamp,
      settleGeneratedContinuationVerification_ok hs⟩

theorem failVerification_ok (h : failVerification claim newId timestamp c = .ok (held, c')) :
    c' = c ∨ VerificationSettles c timestamp c' := by
  rw [failVerification] at h
  split at h
  · cases h
    exact .inl rfl
  · next verification _ =>
    obtain ⟨settled, hs, he⟩ := bind_ok.1 h
    cases he
    exact .inr ⟨_, not_active_asFailed verification timestamp,
      settleGeneratedContinuationVerification_ok hs⟩

theorem recoverExpiredVerification_ok
    (h : recoverExpiredVerification evaluate newId timestamp c verification = .ok c') :
    VerificationSettles c timestamp c' := by
  obtain ⟨_, -, hs⟩ := bind_ok.1 h
  exact ⟨_, not_active_completedWith verification _ timestamp,
    settleGeneratedContinuationVerification_ok hs⟩

/-- What settling one verification keeps, settling all that have expired keeps. -/
theorem recoverExpiredVerifications_keeps {I : Catalog → Prop}
    (hI : ∀ c c', VerificationSettles c timestamp c' → I c → I c')
    (h : recoverExpiredVerifications evaluate newId timestamp c = .ok c') (hc : I c) : I c' := by
  rw [recoverExpiredVerifications] at h
  generalize c.verifications.filter (·.Expired timestamp) = expired at h
  induction expired generalizing c with
  | nil =>
    cases h
    exact hc
  | cons verification rest ih =>
    rw [List.foldlM_cons] at h
    obtain ⟨settled, hs, hrest⟩ := bind_ok.1 h
    exact ih (hI _ _ (recoverExpiredVerification_ok hs) hc) hrest

end RipDvd
