import RipDvd.Projection

namespace RipDvd
set_option autoImplicit true

def DVD_RECOVERY_PASS_CLAIM_LEASE_MS : Nat := 65000

/-- `archive_recovery_work_claim_check`. -/
def ArchiveRecoveryWork.ClaimValid (work : ArchiveRecoveryWork) : Prop :=
  (work.status = .requested ∧ work.requestedAt ≠ none ∧ work.claimedBy = none ∧
    work.claimToken = none ∧ work.claimedAt = none) ∨
  (work.status = .claimed ∧ work.claimedBy ≠ none ∧ work.claimToken ≠ none ∧
    work.claimedAt ≠ none)

instance (work : ArchiveRecoveryWork) : Decidable work.ClaimValid :=
  inferInstanceAs (Decidable (_ ∨ _))

/-- Insert or replace the work row, under its checks and its reference to the attempt. -/
def writeWork (c : Catalog) (work : ArchiveRecoveryWork) : Except DomainError Catalog := do
  rejectIf (¬work.ClaimValid) (.constraint "archive_recovery_work_claim_check")
  rejectIf (¬work.toArchiveRecoveryPass.Valid) (.constraint "archive_recovery_work_pass_check")
  rejectIf (work.archiveRecoveryId ≠ c.recovery.id ∨
      work.originalDiscArchiveId ≠ c.recovery.originalDiscArchiveId ∨
      work.attemptId ≠ c.recovery.attemptId) (.constraint "archive_recovery_work_attempt_fk")
  return { c with work := some work }

theorem writeWork_ok : writeWork c work = .ok c' ↔
    work.ClaimValid ∧ work.toArchiveRecoveryPass.Valid ∧
      (work.archiveRecoveryId = c.recovery.id ∧
        work.originalDiscArchiveId = c.recovery.originalDiscArchiveId ∧
        work.attemptId = c.recovery.attemptId) ∧
      { c with work := some work } = c' := by
  simp only [writeWork, bind_ok, rejectIf_ok, pure_ok, not_or, ne_eq, not_not]
  exact ⟨fun ⟨_, hc, _, hp, _, hf, h⟩ => ⟨hc, hp, hf, h⟩,
    fun ⟨hc, hp, hf, h⟩ => ⟨(), hc, (), hp, (), hf, h⟩⟩

/-- The claim a claimed row stands for. -/
def ArchiveRecoveryWork.claim (work : ArchiveRecoveryWork) : Option ClaimedArchiveRecoveryWork :=
  match work.claimedBy, work.claimToken with
  | some claimedBy, some claimToken => some {
      archiveRecoveryId := work.archiveRecoveryId
      originalDiscArchiveId := work.originalDiscArchiveId
      attemptId := work.attemptId
      verificationId := work.verificationId
      discConfirmationId := work.discConfirmationId
      claimedBy, claimToken }
  | _, _ => none

/-- The claim as the row now records it. -/
def ArchiveRecoveryWork.claimedAs (work : ArchiveRecoveryWork)
    (claim : ClaimedArchiveRecoveryWork) : ClaimedArchiveRecoveryWork :=
  { claim with
    verificationId := work.verificationId
    discConfirmationId := work.discConfirmationId }

def requireNoActiveEncodeWork (c : Catalog) : Except DomainError Unit :=
  rejectIf c.activeEncodeWork .encodeWorkConflict

def requireNoPendingDvdRecoveryReconciliation (c : Catalog) : Except DomainError Unit :=
  match c.latestReconciliation with
  | some latest =>
    rejectIf (latest.status ≠ "completed")
      (.invalidStatusTransition "DVD recovery reconciliation" latest.status "source read")
  | none => .ok ()

def settledArchiveRecoveryStatus (c : Catalog) : Except DomainError ArchiveRecoveryStatus := do
  let ranges ← c.currentDvdUnrecoveredSourceRanges
  return if ranges.length = 0 then .completed else .eligible

/-- A pass starts at the current checkpoint, once. -/
def archiveRecoveryPassStart (c : Catalog) (timestamp : Nat) :
    Except DomainError ArchiveRecoveryPass := do
  let pass := (c.work.map (·.toArchiveRecoveryPass)).getD .initial
  if pass.passStartedAt ≠ none then return pass
  else
    let ranges ← c.currentDvdUnrecoveredSourceRanges
    return { pass with
      passStartedAt := some timestamp
      passStartedManifestRevision := some c.header.currentManifestRevision
      passInitialUnrecoveredSectorCount := some (unrecoveredSectorCount ranges)
      passObservationCount := some 0
      passPositiveIntervalCount := some 0
      passMinimumIntervalMs := none
      passMaximumIntervalMs := none
      passLastObservedAt := none }

structure ArchiveRecoveryPassSettlement where
  outcome : ArchiveRecoveryPassOutcome
  history : List ArchiveRecoveryPassSummary
  deriving DecidableEq

def passOutcome (remainingSectorCount recoveredSectorCount : Nat) : ArchiveRecoveryPassOutcome :=
  if remainingSectorCount = 0 then .completed
  else if 0 < recoveredSectorCount then .productive else .noProgress

/-- The last entries of a history that may only grow so long. -/
def boundedHistory (history : List ArchiveRecoveryPassSummary) : List ArchiveRecoveryPassSummary :=
  history.drop (history.length - DVD_RECOVERY_PASS_HISTORY_LIMIT)

/-- What the pass has done, as long as its counter agrees with the current checkpoint. -/
def archiveRecoveryPassSettlement (c : Catalog) (timestamp : Nat) :
    Except DomainError ArchiveRecoveryPassSettlement := do
  match c.work with
  | none => throw (.invariant "Archive Recovery pass has no durable starting progress")
  | some work =>
    match work.passStartedAt, work.passInitialUnrecoveredSectorCount with
    | some startedAt, some initial =>
      let ranges ← c.currentDvdUnrecoveredSourceRanges
      let remaining := unrecoveredSectorCount ranges
      rejectIf (initial ≠ remaining + work.passRecoveredSectorCount)
        (.invariant "Archive Recovery pass progress does not match the current checkpoint")
      let outcome := passOutcome remaining work.passRecoveredSectorCount
      return {
        outcome
        history := boundedHistory (c.recovery.passHistory ++ [{
          passNumber := work.passNumber
          direction := work.passDirection
          initialUnrecoveredSectorCount := initial
          recoveredSectorCount := work.passRecoveredSectorCount
          remainingSectorCount := remaining
          lastCursorLba := work.passCursorLba
          startedAtMs := startedAt
          completedAtMs := timestamp
          elapsedMs := timestamp - startedAt
          outcome }]) }
    | _, _ => throw (.invariant "Archive Recovery pass has no durable starting progress")

/-- The status an interrupted pass leaves, with its history when nothing is left to recover. -/
def archiveRecoveryCompletionAfterInterruption (c : Catalog) (timestamp : Nat) :
    Except DomainError (ArchiveRecoveryStatus × Option (List ArchiveRecoveryPassSummary)) := do
  let status ← settledArchiveRecoveryStatus c
  if status = .eligible then return (status, none)
  else
    let completion ← archiveRecoveryPassSettlement c timestamp
    rejectIf (completion.outcome ≠ .completed)
      (.invariant "Completed Archive Recovery still has unrecovered sectors")
    return (status, some completion.history)

/-- One past the highest attempt ordinal of the recovery. -/
def nextVerificationOrdinal (c : Catalog) : Nat :=
  ((c.verifications.filter (·.archiveRecoveryId = c.recovery.id)).map (·.attemptOrdinal)).foldl
    max 0 + 1

/-- Queue a verification of the current checkpoint, like `previous` in all other respects. -/
def insertQueuedDvdDiscVerification (c : Catalog) (id : String) (values : DvdDiscVerification)
    (timestamp : Nat) : Except DomainError Catalog := do
  rejectIf (∃ other ∈ c.verifications, other.id = id) (.constraint "dvd_disc_verifications.id")
  return { c with verifications := c.verifications ++ [{ values with
    id
    attemptOrdinal := nextVerificationOrdinal c
    status := .queued
    outcome := none
    workerExecutionId := none
    claimedAt := none
    claimToken := none
    startedAt := none
    completedAt := none
    failureCode := none
    createdAt := timestamp }] }

/-- The next pass needs a verification of its own; it repeats the one this pass is bound to. -/
def queueNextArchiveRecoveryPassVerification (c : Catalog) (newId : String)
    (verificationId : Option String) (timestamp : Nat) : Except DomainError Catalog :=
  match verificationId with
  | none => .error (.invariant "Archive Recovery pass has no bound DVD Disc Verification")
  | some verificationId =>
    match c.verifications.find? (fun v => v.id = verificationId ∧
      v.archiveRecoveryId = c.recovery.id ∧
      v.archiveRecoveryAttemptId = some c.recovery.attemptId ∧
      v.status = .completed ∧ v.outcome = some .match) with
    | some previous => insertQueuedDvdDiscVerification c newId { previous with
        archiveRecoveryId := c.recovery.id
        archiveRecoveryAttemptId := some c.recovery.attemptId
        originalDiscArchiveId := c.recovery.originalDiscArchiveId
        checkpointRevision := c.header.currentManifestRevision
        checkpointDigest := c.header.currentManifestDigest } timestamp
    | none => .error (.recordNotFound "DVD Disc Verification" verificationId)

/-- A row that waits to be claimed again. -/
def ArchiveRecoveryWork.requeued (work : ArchiveRecoveryWork) (timestamp : Nat) :
    ArchiveRecoveryWork :=
  { work with
    status := .requested
    requestedAt := some timestamp
    claimedBy := none
    claimToken := none
    claimedAt := none
    updatedAt := timestamp }

/-- The row of the pass after this one. -/
def ArchiveRecoveryWork.nextPass (work : ArchiveRecoveryWork) : ArchiveRecoveryWork :=
  { work with
    toArchiveRecoveryPass := { ArchiveRecoveryPass.initial with
      passNumber := work.passNumber + 1
      passDirection := work.passDirection.opposite }
    verificationId := none }

/-- Settle the work row of a finished pass. -/
def settleWork (c : Catalog) (work : ArchiveRecoveryWork) (outcome : ArchiveRecoveryPassOutcome)
    (timestamp : Nat) (newVerificationId : String) : Except DomainError Catalog :=
  match outcome with
  | .completed => .ok { c with work := none }
  | .productive => do
    let queued ← queueNextArchiveRecoveryPassVerification c newVerificationId work.verificationId
      timestamp
    writeWork queued (work.nextPass.requeued timestamp)
  | .noProgress => writeWork c (work.requeued timestamp)

def settledStatus : ArchiveRecoveryPassOutcome → ArchiveRecoveryStatus
  | .completed => .completed
  | .productive => .eligible
  | .noProgress => .paused

/-- Settle a pass that ran to the end of its sector list. -/
def settlePass (claim : ClaimedArchiveRecoveryWork) (timestamp : Nat) (newVerificationId : String)
    (c : Catalog) : Except DomainError (ArchiveRecovery × Catalog) := do
  let work ← requireCurrentArchiveRecoveryClaim c claim
  if c.recovery.status ≠ .running ∧ c.recovery.status ≠ .completed then return (c.recovery, c)
  else
    let { outcome, history } ← archiveRecoveryPassSettlement c timestamp
    let settled ← settleWork c work outcome timestamp newVerificationId
    let settled ← updateArchiveRecovery settled { c.recovery with
      status := settledStatus outcome
      pauseReason := if outcome = .noProgress then some .noProgress else none
      passHistory := history
      updatedAt := timestamp }
    return (settled.recovery, settled)

/-- Fault a running recovery, or pause it for its storage; a stopping one is left alone. -/
def markFault (claim : ClaimedArchiveRecoveryWork) (faultCode : String)
    (retainWork storageFault : Bool) (timestamp : Nat) (c : Catalog) :
    Except DomainError (ArchiveRecovery × Catalog) := do
  let _ ← requireCurrentArchiveRecoveryClaim c claim
  if c.recovery.status = .stopping then return (c.recovery, c)
  else
    rejectIf (c.recovery.status ≠ .running)
      (.invalidStatusTransition "Archive Recovery" c.recovery.status.value "faulted")
    let faulted ← updateArchiveRecovery c { c.recovery with
      status := if storageFault then .paused else .faulted
      faultCode := if storageFault then none else some faultCode
      pauseReason := if storageFault then some .storageFault else none
      updatedAt := timestamp }
    return (faulted.recovery, if retainWork then faulted else { faulted with work := none })

/-- The recovery row after an interrupted pass has been accounted for. -/
def updateInterruptedRecovery (c : Catalog) (timestamp : Nat)
    (settlement : ArchiveRecoveryStatus × Option (List ArchiveRecoveryPassSummary)) :
    Except DomainError Catalog :=
  updateArchiveRecovery c { c.recovery with
    status := settlement.1
    passHistory := settlement.2.getD c.recovery.passHistory
    updatedAt := timestamp }

/-- Remove the work row; a running recovery leaves its interrupted pass behind. -/
def releaseWork (c : Catalog) (timestamp : Nat) : Except DomainError Catalog :=
  if c.recovery.status = .running then do
    let settlement ← archiveRecoveryCompletionAfterInterruption c timestamp
    updateInterruptedRecovery { c with work := none } timestamp settlement
  else .ok { c with work := none }

def releaseAfterReconciliation (attemptId : String) (timestamp : Nat) (c : Catalog) :
    Except DomainError (ArchiveRecovery × Catalog) := do
  rejectIf (c.recovery.attemptId ≠ attemptId)
    (.staleJobAttempt "Archive Recovery work" c.recovery.id)
  if c.recovery.status = .stopping ∨ c.work = none then return (c.recovery, c)
  else
    let released ← releaseWork c timestamp
    return (released.recovery, released)

def release (claim : ClaimedArchiveRecoveryWork) (timestamp : Nat) (c : Catalog) :
    Except DomainError (ArchiveRecovery × Catalog) := do
  if c.recovery.status = .stopped ∧ c.recovery.attemptId = claim.attemptId ∧ c.work = none then
    return (c.recovery, c)
  else
    let _ ← requireCurrentArchiveRecoveryClaim c claim
    if c.recovery.status = .stopping then return (c.recovery, c)
    else
      let released ← releaseWork c timestamp
      return (released.recovery, released)

/-- Give an interrupted pass back to the queue. -/
def requeue (claim : ClaimedArchiveRecoveryWork) (timestamp : Nat) (c : Catalog) :
    Except DomainError (ArchiveRecovery × Catalog) := do
  let work ← requireCurrentArchiveRecoveryClaim c claim
  if c.recovery.status = .stopping then return (c.recovery, c)
  else
    rejectIf (c.recovery.status ≠ .running)
      (.invalidStatusTransition "Archive Recovery" c.recovery.status.value "eligible")
    let settlement ← archiveRecoveryCompletionAfterInterruption c timestamp
    let released ← if settlement.1 = .completed then .ok { c with work := none }
      else writeWork c (work.requeued timestamp)
    let requeued ← updateInterruptedRecovery released timestamp settlement
    return (requeued.recovery, requeued)

/-- Take the work row, or make one, for a pass that starts or goes on. -/
def claimWork (c : Catalog) (verificationId discConfirmationId : Option String)
    (claimedBy claimToken : String) (timestamp : Nat) : Except DomainError Catalog := do
  let pass ← archiveRecoveryPassStart c timestamp
  writeWork c {
    pass with
    archiveRecoveryId := c.recovery.id
    originalDiscArchiveId := c.recovery.originalDiscArchiveId
    attemptId := c.recovery.attemptId
    status := .claimed
    verificationId
    discConfirmationId
    requestedAt := c.work.bind (·.requestedAt)
    claimedBy := some claimedBy
    claimToken := some claimToken
    claimedAt := some timestamp
    updatedAt := timestamp }

/-- `archiveRecoveryWork.claim`: manual claim of an eligible recovery. -/
def claimRecoveryWork (claimedBy claimToken : String) (timestamp : Nat) (c : Catalog) :
    Except DomainError (Option ClaimedArchiveRecoveryWork × Catalog) := do
  rejectIf (claimedBy.length = 0) (.invariant "workerId must not be empty")
  rejectIf (c.recovery.status ≠ .eligible)
    (.invalidStatusTransition "Archive Recovery" c.recovery.status.value "claimed")
  rejectIf (∃ work ∈ c.work, work.status = .claimed)
    (.invalidStatusTransition "Archive Recovery work" "claimed" "claimed")
  requireNoActiveEncodeWork c
  let claimed ← claimWork c none (c.work.bind (·.discConfirmationId)) claimedBy claimToken timestamp
  return (claimed.work.bind (·.claim), claimed)

/-- Bind the verification a manually claimed pass writes under. -/
def bindVerification (claim : ClaimedArchiveRecoveryWork) (authority : DvdRecoveryWriteAuthority)
    (timestamp : Nat) (c : Catalog) :
    Except DomainError (ClaimedArchiveRecoveryWork × Catalog) := do
  let work ← requireCurrentArchiveRecoveryClaim c claim
  match c.findVerification authority.verificationId with
  | none => throw (.staleJobAttempt "Archive Recovery verification" claim.archiveRecoveryId)
  | some verification =>
    rejectIf (c.recovery.status ≠ .eligible ∨
        c.latestVerification.map (·.id) ≠ some verification.id ∨
        verification.status ≠ .completed ∨ verification.outcome ≠ some .match ∨
        verification.archiveRecoveryId ≠ c.recovery.id ∨
        verification.archiveRecoveryAttemptId ≠ some c.recovery.attemptId ∨
        verification.originalDiscArchiveId ≠ c.recovery.originalDiscArchiveId ∨
        verification.archiveRecoveryAttemptId ≠ some authority.archiveRecoveryAttemptId ∨
        verification.discInspectionId ≠ authority.discInspectionId ∨
        verification.detectedDiscId ≠ authority.detectedDiscId ∨
        verification.mediaGeneration ≠ authority.mediaGeneration ∨
        verification.workerExecutionId ≠ some authority.verificationWorkerExecutionId ∨
        verification.checkpointRevision ≠ authority.checkpointRevision ∨
        verification.checkpointDigest ≠ authority.checkpointDigest ∨
        c.header.currentManifestRevision ≠ authority.checkpointRevision ∨
        c.header.currentManifestDigest ≠ authority.checkpointDigest)
      (.staleJobAttempt "Archive Recovery verification" claim.archiveRecoveryId)
    rejectIf (work.verificationId ≠ none)
      (.staleJobAttempt "Archive Recovery work" claim.archiveRecoveryId)
    let row := { work with verificationId := some verification.id, updatedAt := timestamp }
    let bound ← writeWork c row
    let bound ← updateArchiveRecovery bound { c.recovery with
      status := .running
      updatedAt := timestamp }
    return (row.claimedAs claim, bound)

/-! What the transactions of a pass have checked and written. -/

/-- The work row and the verifications that a settled pass leaves. -/
inductive SettledRows (c : Catalog) (work : ArchiveRecoveryWork) (timestamp : Nat) :
    ArchiveRecoveryPassOutcome → Option ArchiveRecoveryWork → List DvdDiscVerification → Prop where
  | completed : SettledRows c work timestamp .completed none c.verifications
  | productive (row : DvdDiscVerification) :
    SettledRows c work timestamp .productive (some (work.nextPass.requeued timestamp))
      (c.verifications ++ [row])
  | noProgress :
    SettledRows c work timestamp .noProgress (some (work.requeued timestamp)) c.verifications

theorem insertQueuedDvdDiscVerification_ok
    (h : insertQueuedDvdDiscVerification c newId values timestamp = .ok c') :
    ∃ row, c' = { c with verifications := c.verifications ++ [row] } := by
  obtain ⟨_, -, he⟩ := bind_ok.1 h
  exact ⟨_, (pure_ok.1 he).symm⟩

theorem settleWork_ok (h : settleWork c work outcome timestamp newId = .ok c') :
    ∃ row verifications, SettledRows c work timestamp outcome row verifications ∧
      c' = { c with work := row, verifications } := by
  cases outcome with
  | completed =>
    cases h
    exact ⟨_, _, .completed, rfl⟩
  | productive =>
    obtain ⟨queued, hq, hw⟩ := bind_ok.1 h
    obtain ⟨-, -, -, rfl⟩ := writeWork_ok.1 hw
    unfold queueNextArchiveRecoveryPassVerification at hq
    split at hq
    · cases hq
    · split at hq
      · obtain ⟨row, rfl⟩ := insertQueuedDvdDiscVerification_ok hq
        exact ⟨_, _, .productive row, rfl⟩
      · cases hq
  | noProgress =>
    obtain ⟨-, -, -, rfl⟩ := writeWork_ok.1 h
    exact ⟨_, _, .noProgress, rfl⟩

/-- The recovery row of a settled pass. -/
def ArchiveRecovery.settled (recovery : ArchiveRecovery)
    (settlement : ArchiveRecoveryPassSettlement) (timestamp : Nat) : ArchiveRecovery :=
  { recovery with
    status := settledStatus settlement.outcome
    pauseReason := if settlement.outcome = .noProgress then some .noProgress else none
    passHistory := settlement.history
    updatedAt := timestamp }

/-- A pass that was settled. -/
structure PassSettled (c : Catalog) (work : ArchiveRecoveryWork) (timestamp : Nat)
    (settlement : ArchiveRecoveryPassSettlement) (c' : Catalog) : Prop where
  status : c.recovery.status = .running ∨ c.recovery.status = .completed
  settles : archiveRecoveryPassSettlement c timestamp = .ok settlement
  valid : (c.recovery.settled settlement timestamp).Valid
  rows : ∃ row verifications, SettledRows c work timestamp settlement.outcome row verifications ∧
    c' = { c with
      work := row
      verifications
      recovery := c.recovery.settled settlement timestamp }
  matched : archiveRecoveryStatusMatches { c' with recovery := c.recovery } c'.recovery

theorem settlePass_ok (h : settlePass claim timestamp newId c = .ok (recovery, c')) :
    ∃ work, requireCurrentArchiveRecoveryClaim c claim = .ok work ∧
      (c' = c ∨ ∃ settlement, PassSettled c work timestamp settlement c') := by
  simp only [settlePass, bind_ok] at h
  obtain ⟨work, hwork, h⟩ := h
  refine ⟨work, hwork, ?_⟩
  split at h
  · cases h
    exact .inl rfl
  · next hstatus =>
    simp only [bind_ok] at h
    obtain ⟨settlement, hsettle, settled, hs, written, hu, he⟩ := h
    obtain ⟨row, verifications, hrows, rfl⟩ := settleWork_ok hs
    obtain ⟨-, -, -, hmatch, hvalid, rfl⟩ := updateArchiveRecovery_ok.1 hu
    cases he
    refine .inr ⟨settlement, ?_, hsettle, hvalid, ⟨row, verifications, hrows, rfl⟩, hmatch⟩
    by_cases hr : c.recovery.status = .running
    · exact .inl hr
    · exact .inr (by_contra fun hc => hstatus ⟨hr, hc⟩)

/-- The recovery row of a faulted or storage-paused pass. -/
def ArchiveRecovery.faultedWith (recovery : ArchiveRecovery) (faultCode : String)
    (storageFault : Bool) (timestamp : Nat) : ArchiveRecovery :=
  { recovery with
    status := if storageFault then .paused else .faulted
    faultCode := if storageFault then none else some faultCode
    pauseReason := if storageFault then some .storageFault else none
    updatedAt := timestamp }

theorem markFault_ok
    (h : markFault claim faultCode retainWork storageFault timestamp c = .ok (recovery, c')) :
    ∃ work, requireCurrentArchiveRecoveryClaim c claim = .ok work ∧
      (c' = c ∨ c.recovery.status = .running ∧
        (c.recovery.faultedWith faultCode storageFault timestamp).Valid ∧
        c' = { c with
          work := if retainWork then c.work else none
          recovery := c.recovery.faultedWith faultCode storageFault timestamp }) := by
  simp only [markFault, bind_ok] at h
  obtain ⟨work, hwork, h⟩ := h
  refine ⟨work, hwork, ?_⟩
  split at h
  · cases h
    exact .inl rfl
  · simp only [bind_ok, rejectIf_ok, ne_eq, not_not] at h
    obtain ⟨-, hrunning, faulted, hu, he⟩ := h
    obtain ⟨-, -, -, -, hvalid, rfl⟩ := updateArchiveRecovery_ok.1 hu
    cases he
    refine .inr ⟨hrunning, hvalid, ?_⟩
    cases retainWork with
    | true => rfl
    | false => rfl

/-- The recovery row of an interrupted pass that has been accounted for. -/
def ArchiveRecovery.interrupted (recovery : ArchiveRecovery)
    (settlement : ArchiveRecoveryStatus × Option (List ArchiveRecoveryPassSummary))
    (timestamp : Nat) : ArchiveRecovery :=
  { recovery with
    status := settlement.1
    passHistory := settlement.2.getD recovery.passHistory
    updatedAt := timestamp }

/-- The pass of a running recovery that was cut short. -/
structure PassInterrupted (c : Catalog) (timestamp : Nat)
    (settlement : ArchiveRecoveryStatus × Option (List ArchiveRecoveryPassSummary))
    (row : Option ArchiveRecoveryWork) (c' : Catalog) : Prop where
  running : c.recovery.status = .running
  settles : archiveRecoveryCompletionAfterInterruption c timestamp = .ok settlement
  valid : (c.recovery.interrupted settlement timestamp).Valid
  rows : c' = { c with
    work := row
    recovery := c.recovery.interrupted settlement timestamp }
  matched : archiveRecoveryStatusMatches { c' with recovery := c.recovery } c'.recovery

theorem updateInterruptedRecovery_ok
    (h : updateInterruptedRecovery { c with work := row } timestamp settlement = .ok c')
    (hrunning : c.recovery.status = .running)
    (hsettle : archiveRecoveryCompletionAfterInterruption c timestamp = .ok settlement) :
    PassInterrupted c timestamp settlement row c' := by
  obtain ⟨-, -, -, hmatch, hvalid, rfl⟩ := updateArchiveRecovery_ok.1 h
  exact ⟨hrunning, hsettle, hvalid, rfl, hmatch⟩

theorem requeue_ok (h : requeue claim timestamp c = .ok (recovery, c')) :
    ∃ work, requireCurrentArchiveRecoveryClaim c claim = .ok work ∧
      (c' = c ∨ ∃ settlement, PassInterrupted c timestamp settlement
        (if settlement.1 = .completed then none else some (work.requeued timestamp)) c') := by
  simp only [requeue, bind_ok] at h
  obtain ⟨work, hwork, h⟩ := h
  refine ⟨work, hwork, ?_⟩
  split at h
  · cases h
    exact .inl rfl
  · simp only [bind_ok, rejectIf_ok, ne_eq, not_not] at h
    obtain ⟨-, hrunning, settlement, hsettle, h⟩ := h
    refine .inr ⟨settlement, ?_⟩
    split at h
    · next hc =>
      obtain ⟨released, hr, h⟩ := bind_ok.1 h
      obtain ⟨requeued, hu, he⟩ := bind_ok.1 h
      cases hr
      cases he
      rw [if_pos hc]
      exact updateInterruptedRecovery_ok hu hrunning hsettle
    · next hc =>
      obtain ⟨released, hr, h⟩ := bind_ok.1 h
      obtain ⟨requeued, hu, he⟩ := bind_ok.1 h
      obtain ⟨-, -, -, rfl⟩ := writeWork_ok.1 hr
      cases he
      rw [if_neg hc]
      exact updateInterruptedRecovery_ok hu hrunning hsettle

theorem releaseAfterReconciliation_ok
    (h : releaseAfterReconciliation attemptId timestamp c = .ok (recovery, c')) :
    c.recovery.attemptId = attemptId ∧
      (c' = c ∨ (c.recovery.status ∉ [ArchiveRecoveryStatus.running, .stopping] ∧
          c.work ≠ none ∧ c' = { c with work := none }) ∨
        ∃ settlement, PassInterrupted c timestamp settlement none c') := by
  simp only [releaseAfterReconciliation, bind_ok, rejectIf_ok, ne_eq, not_not] at h
  obtain ⟨-, hattempt, h⟩ := h
  refine ⟨hattempt, ?_⟩
  split at h
  · cases h
    exact .inl rfl
  · next hstate =>
    obtain ⟨released, hr, he⟩ := bind_ok.1 h
    cases he
    rw [releaseWork] at hr
    split at hr
    · next hrunning =>
      obtain ⟨settlement, hsettle, hu⟩ := bind_ok.1 hr
      exact .inr (.inr ⟨settlement, updateInterruptedRecovery_ok hu hrunning hsettle⟩)
    · next hrunning =>
      cases hr
      refine .inr (.inl ⟨?_, fun hn => hstate (.inr hn), rfl⟩)
      simp only [List.mem_cons, List.not_mem_nil, or_false, not_or]
      exact ⟨hrunning, fun hs => hstate (.inl hs)⟩

end RipDvd
