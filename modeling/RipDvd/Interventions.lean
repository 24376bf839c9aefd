import RipDvd.VerificationQueue

namespace RipDvd
set_option autoImplicit true

/-- Queue a verification of the insertion a resumed pass will read. -/
def queueResumeVerification (c : Catalog) (inspection : DiscInspection) (newId : String)
    (timestamp : Nat) : Except DomainError Catalog := do
  let observedDisc ← requireDetectedDisc c inspection
  rejectIf (c.recovery.resumeCheckpointRevision ≠ some c.header.currentManifestRevision ∨
      c.recovery.resumeCheckpointDigest ≠ some c.header.currentManifestDigest)
    (.staleJobAttempt "Archive Recovery checkpoint" c.recovery.id)
  validateDvdDiscVerificationManifestBinding c
  insertQueuedDvdDiscVerification c newId (verificationOf c inspection observedDisc) timestamp

/-- Bind the requested pass to a verification of the insertion, and let it wait for that. -/
def activateResumeInsertion (c : Catalog) (inspection : DiscInspection) (newId : String)
    (timestamp : Nat) : Except DomainError Catalog := do
  let queued ← queueResumeVerification c inspection newId timestamp
  match c.work with
  | none => throw (.recordNotFound "Archive Recovery work" c.recovery.id)
  | some work => do
    rejectIf (work.status ≠ .requested) (.recordNotFound "Archive Recovery work" c.recovery.id)
    rejectIf (c.recovery.status ≠ .waitingForDisc)
      (.recordNotFound "Archive Recovery" c.recovery.id)
    let bound ← writeWork queued { work with
      verificationId := some newId
      discConfirmationId := none
      requestedAt := some timestamp
      updatedAt := timestamp }
    updateArchiveRecovery bound { c.recovery with status := .eligible, updatedAt := timestamp }

def requireAttempt (c : Catalog) (archiveRecoveryId attemptId : String) :
    Except DomainError Unit := do
  rejectIf (c.recovery.id ≠ archiveRecoveryId)
    (.recordNotFound "Archive Recovery" archiveRecoveryId)
  rejectIf (c.recovery.attemptId ≠ attemptId)
    (.staleArchiveRecoveryAttempt c.recovery.id c.recovery.attemptId)

structure RequestResumeInput where
  archiveRecoveryId : String
  attemptId : String
  checkpointRevision : Nat
  checkpointDigest : Digest

/-- The pass a resumed recovery starts with. -/
def resumedPass (recovery : ArchiveRecovery) : ArchiveRecoveryPass :=
  let last := recovery.passHistory.getLast?
  { ArchiveRecoveryPass.initial with
    passNumber := (last.map (·.passNumber)).getD 0 + 1
    passDirection := if last.map (·.direction) = some .forward then .reverse else .forward }

/-- A new attempt of a recovery, which waits for its disc. -/
def ArchiveRecovery.resumed (recovery : ArchiveRecovery) (input : RequestResumeInput)
    (attemptId resumeOperationId : String) (timestamp : Nat) : ArchiveRecovery :=
  { recovery with
    attemptId
    attemptOrdinal := recovery.attemptOrdinal + 1
    status := .waitingForDisc
    pauseReason := none
    resumeOperationId := some resumeOperationId
    resumeCheckpointRevision := some input.checkpointRevision
    resumeCheckpointDigest := some input.checkpointDigest
    stopOperationId := none
    stopRequestedAt := none
    stoppedAt := none
    faultCode := none
    updatedAt := timestamp }

/-- `archiveRecoveryWork.requestResume`; `insertion` is what `currentResumeInsertion` found. -/
def requestResume (input : RequestResumeInput) (attemptId resumeOperationId : String)
    (insertion : Option DiscInspection) (newVerificationId : String) (timestamp : Nat)
    (c : Catalog) : Except DomainError Catalog := do
  requireAttempt c input.archiveRecoveryId input.attemptId
  rejectIf (c.recovery.status ≠ .paused ∧ c.recovery.status ≠ .stopped)
    (.invalidStatusTransition "Archive Recovery" c.recovery.status.value "waiting_for_disc")
  rejectIf (c.header.currentManifestRevision ≠ input.checkpointRevision ∨
      c.header.currentManifestDigest ≠ input.checkpointDigest)
    (.staleArchiveRecoveryCheckpoint c.recovery.id)
  requireSupportedStorage c
  requireNoPendingDvdRecoveryReconciliation c
  requireNoActiveEncodeWork c
  rejectIf (∃ work ∈ c.work, work.status = .claimed)
    (.invalidStatusTransition "Archive Recovery work" "claimed" "requested")
  let waiting ← updateArchiveRecovery { c with work := none }
    (c.recovery.resumed input attemptId resumeOperationId timestamp)
  let requested ← writeWork waiting
    (waiting.recovery.requestedWork (resumedPass c.recovery) timestamp)
  match insertion with
  | none => return requested
  | some insertion => activateResumeInsertion requested insertion newVerificationId timestamp

/-- `archiveRecoveryWork.activateWaitingResume`: whether the disc was there. -/
def activateWaitingResume (insertion : Option DiscInspection) (newVerificationId : String)
    (timestamp : Nat) (c : Catalog) : Except DomainError (Bool × Catalog) :=
  match insertion with
  | none => .ok (false, c)
  | some insertion =>
    if c.recovery.status = .waitingForDisc ∧ c.recovery.resumeOperationId ≠ none ∧
        (∃ work ∈ c.work, work.status = .requested) ∧
        c.latestVerification.map (·.discInspectionId) ≠ some insertion.id then do
      requireNoActiveEncodeWork c
      requireNoPendingDvdRecoveryReconciliation c
      let activated ← activateResumeInsertion c insertion newVerificationId timestamp
      return (true, activated)
    else .ok (false, c)

/-- Fail the queued verifications of the attempt. -/
def failQueuedVerifications (c : Catalog) (timestamp : Nat) : Catalog :=
  { c with verifications := c.verifications.map fun verification =>
    if ofAttempt c verification ∧ verification.status = .queued then
      verification.asFailed timestamp
    else verification }

/-- `archiveRecoveryWork.requestStop`. -/
def requestStop (archiveRecoveryId attemptId stopOperationId : String) (timestamp : Nat)
    (c : Catalog) : Except DomainError Catalog := do
  requireAttempt c archiveRecoveryId attemptId
  rejectIf (c.recovery.status ∉
      [ArchiveRecoveryStatus.eligible, .waitingForDisc, .running, .paused])
    (.invalidStatusTransition "Archive Recovery" c.recovery.status.value "stopping")
  requireNoActiveEncodeWork c
  let requested ← match c.work with
    | none => writeWork c (c.recovery.requestedWork .initial timestamp)
    | some _ => .ok c
  let stopping ← updateArchiveRecovery requested { c.recovery with
    status := .stopping
    stopOperationId := some stopOperationId
    stopRequestedAt := some timestamp
    stoppedAt := none
    faultCode := none
    pauseReason := none
    updatedAt := timestamp }
  return failQueuedVerifications stopping timestamp

/-- The Stop that an operation of a worker is about must be the one in progress. -/
def requireStopping (c : Catalog) (archiveRecoveryId attemptId stopOperationId target : String) :
    Except DomainError Unit := do
  requireAttempt c archiveRecoveryId attemptId
  rejectIf (c.recovery.status ≠ .stopping ∨ c.recovery.stopOperationId ≠ some stopOperationId)
    (.invalidStatusTransition "Archive Recovery" c.recovery.status.value target)

/-- Somebody else's claim that has not run out. -/
def liveWriter (c : Catalog) (quiescedClaim : Option ClaimedArchiveRecoveryWork) (timestamp : Nat) :
    Prop :=
  ∃ work ∈ c.work, work.status = .claimed ∧
    (∃ claimedAt ∈ work.claimedAt, timestamp - DVD_RECOVERY_PASS_CLAIM_LEASE_MS ≤ claimedAt) ∧
    ∀ claim ∈ quiescedClaim, claim.archiveRecoveryId ≠ c.recovery.id ∨
      claim.attemptId ≠ c.recovery.attemptId ∨ work.claimToken ≠ some claim.claimToken

instance (c : Catalog) (quiescedClaim : Option ClaimedArchiveRecoveryWork) (timestamp : Nat) :
    Decidable (liveWriter c quiescedClaim timestamp) :=
  inferInstanceAs (Decidable (∃ work ∈ c.work, _))

/-- Complete the expired verifications of the attempt as interrupted. -/
def completeExpiredVerifications (c : Catalog)
    (evaluate : DvdDiscVerification → EvaluatedVerification) (timestamp : Nat) : Catalog :=
  { c with verifications := c.verifications.map fun verification =>
    if ofAttempt c verification ∧ verification.Expired timestamp then
      verification.completedWith (evaluate verification) timestamp
    else verification }

/-- `archiveRecoveryWork.prepareStop`: whether the Stop can go on. -/
def prepareStop (archiveRecoveryId attemptId stopOperationId : String)
    (quiescedClaim : Option ClaimedArchiveRecoveryWork)
    (evaluate : DvdDiscVerification → EvaluatedVerification) (timestamp : Nat) (c : Catalog) :
    Except DomainError (Bool × Catalog) := do
  requireStopping c archiveRecoveryId attemptId stopOperationId "stopping"
  if liveWriter c quiescedClaim timestamp then return (false, c)
  else
    rejectIf (∃ verification ∈ c.verifications, ofAttempt c verification ∧
        verification.Expired timestamp ∧ verification.claimToken = none)
      (.invariant "Running DVD Disc Verification has no claim token")
    let settled := completeExpiredVerifications
      (failQueuedVerifications c timestamp) evaluate timestamp
    return (!activeVerification settled, settled)

/-- `archiveRecoveryWork.completeStop`. -/
def completeStop (archiveRecoveryId attemptId stopOperationId : String) (timestamp : Nat)
    (c : Catalog) : Except DomainError Catalog := do
  requireStopping c archiveRecoveryId attemptId stopOperationId "stopped"
  rejectIf (activeVerification c)
    (.invariant "Archive Recovery Stop requires settled DVD Disc Verification")
  updateArchiveRecovery { c with work := none } { c.recovery with
    status := .stopped
    stoppedAt := some timestamp
    updatedAt := timestamp }

/-- `archiveRecoveryWork.deferStop`; `latestStopping` is when a stopping recovery was last
updated. -/
def deferStop (archiveRecoveryId attemptId stopOperationId : String)
    (latestStopping timestamp : Nat)
    (c : Catalog) : Except DomainError Catalog := do
  requireStopping c archiveRecoveryId attemptId stopOperationId "stopping"
  updateArchiveRecovery c { c.recovery with
    updatedAt := max timestamp (max (c.recovery.updatedAt + 1) (latestStopping + 1)) }

/-- `archiveRecoveryWork.markStopFault`. -/
def markStopFault (archiveRecoveryId attemptId stopOperationId faultCode : String) (timestamp : Nat)
    (c : Catalog) : Except DomainError Catalog := do
  let faultCode ← requireNonEmpty faultCode "faultCode"
  requireStopping c archiveRecoveryId attemptId stopOperationId "faulted"
  updateArchiveRecovery c { c.recovery with
    status := .faulted
    stoppedAt := none
    faultCode := some faultCode
    updatedAt := timestamp }

theorem queueResumeVerification_ok
    (h : queueResumeVerification c inspection newId timestamp = .ok c') : ∃ row, c' = { c with
      verifications := c.verifications ++ [row] } := by
  simp only [queueResumeVerification, bind_ok] at h
  obtain ⟨_, -, _, -, _, -, h⟩ := h
  exact insertQueuedDvdDiscVerification_ok h

/-- A waiting recovery whose disc is there has a verification queued and can be claimed. -/
structure Activated (c : Catalog) (newId : String) (timestamp : Nat) (c' : Catalog) : Prop where
  waiting : c.recovery.status = .waitingForDisc
  valid : ArchiveRecovery.Valid { c.recovery with
    status := .eligible
    updatedAt := timestamp }
  rows : ∃ work row, c.work = some work ∧ work.status = .requested ∧ c' = { c with
    verifications := c.verifications ++ [row]
    work := some { work with
      verificationId := some newId
      discConfirmationId := none
      requestedAt := some timestamp
      updatedAt := timestamp }
    recovery := { c.recovery with
      status := .eligible
      updatedAt := timestamp } }

theorem activateResumeInsertion_ok
    (h : activateResumeInsertion c inspection newId timestamp = .ok c') :
    Activated c newId timestamp c' := by
  obtain ⟨queued, hq, h⟩ := bind_ok.1 h
  obtain ⟨row, rfl⟩ := queueResumeVerification_ok hq
  split at h
  · cases h
  · next work hwork =>
    simp only [bind_ok, rejectIf_ok, ne_eq, not_not] at h
    obtain ⟨-, hrequested, -, hwaiting, bound, hb, hu⟩ := h
    obtain ⟨-, -, -, rfl⟩ := writeWork_ok.1 hb
    obtain ⟨-, -, -, -, hvalid, rfl⟩ := updateArchiveRecovery_ok.1 hu
    exact ⟨hwaiting, hvalid, work, row, hwork, hrequested, rfl⟩

theorem requireAttempt_ok :
    requireAttempt c recoveryId attemptId = .ok u ↔
      c.recovery.id = recoveryId ∧ c.recovery.attemptId = attemptId := by
  simp only [requireAttempt, bind_ok, rejectIf_ok, ne_eq, not_not]
  exact ⟨fun ⟨_, hid, ha⟩ => ⟨hid, ha⟩, fun ⟨hid, ha⟩ => ⟨(), hid, ha⟩⟩

/-- The catalog of a resumed recovery before anybody looks for its disc. -/
def resumedCatalog (c : Catalog) (input : RequestResumeInput) (attemptId resumeOperationId : String)
    (timestamp : Nat) : Catalog :=
  let recovery := c.recovery.resumed input attemptId resumeOperationId timestamp
  { c with
    recovery
    work := some (recovery.requestedWork (resumedPass c.recovery) timestamp) }

/-- A paused or stopped recovery is resumed as a new attempt. -/
structure Resumed (c : Catalog) (input : RequestResumeInput) (attemptId resumeOperationId : String)
    (newVerificationId : String) (timestamp : Nat) (c' : Catalog) : Prop where
  attempt : c.recovery.attemptId = input.attemptId
  status : c.recovery.status = .paused ∨ c.recovery.status = .stopped
  unclaimed : ∀ work ∈ c.work, work.status ≠ .claimed
  valid : ArchiveRecovery.Valid (c.recovery.resumed input attemptId resumeOperationId timestamp)
  result : c' = resumedCatalog c input attemptId resumeOperationId timestamp ∨
    Activated (resumedCatalog c input attemptId resumeOperationId timestamp) newVerificationId
      timestamp c'

theorem requestResume_ok
    (h : requestResume input attemptId resumeOperationId insertion newVerificationId timestamp c =
      .ok c') : Resumed c input attemptId resumeOperationId newVerificationId timestamp c' := by
  simp only [requestResume, bind_ok, rejectIf_ok, requireAttempt_ok, not_and, ne_eq, not_not,
    not_exists] at h
  obtain ⟨-, ⟨-, hattempt⟩, -, hstatus, -, -, -, -, -, -, -, -, -, hwork, waiting, hwait,
    requested, hreq, h⟩ := h
  obtain ⟨-, -, -, -, hvalid, rfl⟩ := updateArchiveRecovery_ok.1 hwait
  obtain ⟨-, -, -, rfl⟩ := writeWork_ok.1 hreq
  refine ⟨hattempt, ?_, fun work hm hc => hwork work hm hc, hvalid, ?_⟩
  · by_cases hp : c.recovery.status = .paused
    · exact .inl hp
    · exact .inr (hstatus hp)
  · split at h
    · cases h
      exact .inl rfl
    · exact .inr (activateResumeInsertion_ok h)

theorem activateWaitingResume_ok
    (h : activateWaitingResume insertion newVerificationId timestamp c = .ok (found, c')) :
    c' = c ∨ Activated c newVerificationId timestamp c' := by
  unfold activateWaitingResume at h
  split at h
  · cases h
    exact .inl rfl
  · split at h
    · simp only [bind_ok] at h
      obtain ⟨-, -, -, -, activated, ha, he⟩ := h
      cases he
      exact .inr (activateResumeInsertion_ok ha)
    · cases h
      exact .inl rfl

/-- Failing queued rows and completing running ones leaves no active row that was not there. -/
theorem activeVerification_map {f : DvdDiscVerification → DvdDiscVerification}
    (h : ∀ verification, f verification = verification ∨ ¬(f verification).Active)
    (ha : activeVerification { c with verifications := c.verifications.map f }) :
    activeVerification c := by
  obtain ⟨verification, hm, hof, hactive⟩ := ha
  obtain ⟨other, ho, rfl⟩ := List.mem_map.1 hm
  rcases h other with he | hn
  · rw [he] at hof hactive
    exact ⟨other, ho, hof, hactive⟩
  · exact absurd hactive hn

theorem activeVerification_failQueued
    (h : activeVerification (failQueuedVerifications c timestamp)) :
    activeVerification c := by
  refine activeVerification_map (fun verification => ?_) h
  split
  · exact .inr (not_active_asFailed verification timestamp)
  · exact .inl rfl

theorem activeVerification_completeExpired
    (h : activeVerification (completeExpiredVerifications c evaluate timestamp)) :
    activeVerification c := by
  refine activeVerification_map (fun verification => ?_) h
  split
  · exact .inr (not_active_completedWith verification _ timestamp)
  · exact .inl rfl

/-- The recovery row of a Stop in progress. -/
def ArchiveRecovery.stopping (recovery : ArchiveRecovery) (stopOperationId : String)
    (timestamp : Nat) : ArchiveRecovery :=
  { recovery with
    status := .stopping
    stopOperationId := some stopOperationId
    stopRequestedAt := some timestamp
    stoppedAt := none
    faultCode := none
    pauseReason := none
    updatedAt := timestamp }

theorem requestStop_ok
    (h : requestStop recoveryId attemptId stopOperationId timestamp c = .ok c') :
    c.recovery.attemptId = attemptId ∧
      c.recovery.status ∈ [ArchiveRecoveryStatus.eligible, .waitingForDisc, .running, .paused] ∧
      ArchiveRecovery.Valid (c.recovery.stopping stopOperationId timestamp) ∧
      ∃ work verifications, (c.work = some work ∨ c.work = none ∧
          work = c.recovery.requestedWork .initial timestamp) ∧
        c' = { c with
          verifications
          work := some work
          recovery := c.recovery.stopping stopOperationId timestamp } := by
  simp only [requestStop, bind_ok, rejectIf_ok, requireAttempt_ok, not_not] at h
  obtain ⟨-, ⟨-, hattempt⟩, -, hstatus, -, -, h⟩ := h
  refine ⟨hattempt, hstatus, ?_⟩
  split at h
  · next hnone =>
    obtain ⟨requested, hreq, h⟩ := bind_ok.1 h
    obtain ⟨stopping, hs, he⟩ := bind_ok.1 h
    obtain ⟨-, -, -, rfl⟩ := writeWork_ok.1 hreq
    obtain ⟨-, -, -, -, hvalid, rfl⟩ := updateArchiveRecovery_ok.1 hs
    cases he
    exact ⟨hvalid, _, _, .inr ⟨hnone, rfl⟩, rfl⟩
  · next work hwork =>
    obtain ⟨requested, hreq, h⟩ := bind_ok.1 h
    obtain ⟨stopping, hs, he⟩ := bind_ok.1 h
    cases hreq
    obtain ⟨-, -, -, -, hvalid, rfl⟩ := updateArchiveRecovery_ok.1 hs
    cases he
    exact ⟨hvalid, work, _, .inl hwork, by simp only [failQueuedVerifications, hwork]; rfl⟩

theorem requireStopping_ok :
    requireStopping c recoveryId attemptId stopOperationId target = .ok u ↔
      (c.recovery.id = recoveryId ∧ c.recovery.attemptId = attemptId) ∧
        c.recovery.status = .stopping ∧ c.recovery.stopOperationId = some stopOperationId := by
  simp only [requireStopping, bind_ok, rejectIf_ok, requireAttempt_ok, not_or, ne_eq, not_not]
  exact ⟨fun ⟨_, ha, hs⟩ => ⟨ha, hs⟩, fun ⟨ha, hs⟩ => ⟨(), ha, hs⟩⟩

theorem prepareStop_ok
    (h : prepareStop recoveryId attemptId stopOperationId quiescedClaim evaluate timestamp c =
      .ok (ready, c')) :
    (c.recovery.attemptId = attemptId ∧ c.recovery.status = .stopping) ∧
      ∃ verifications, VerificationsChange c verifications ∧ c' = { c with verifications } := by
  simp only [prepareStop, bind_ok, requireStopping_ok] at h
  obtain ⟨-, ⟨⟨-, hattempt⟩, hstopping, -⟩, h⟩ := h
  refine ⟨⟨hattempt, hstopping⟩, ?_⟩
  split at h
  · cases h
    exact ⟨_, .inr id, rfl⟩
  · simp only [bind_ok] at h
    obtain ⟨-, -, he⟩ := h
    cases he
    exact ⟨_, .inr fun ha => activeVerification_failQueued (activeVerification_completeExpired ha),
      rfl⟩

theorem completeStop_ok
    (h : completeStop recoveryId attemptId stopOperationId timestamp c = .ok c') :
    (c.recovery.attemptId = attemptId ∧ c.recovery.status = .stopping) ∧ ¬activeVerification c ∧
      ArchiveRecovery.Valid { c.recovery with
        status := .stopped
        stoppedAt := some timestamp
        updatedAt := timestamp } ∧
      c' = { c with
        work := none
        recovery := { c.recovery with
          status := .stopped
          stoppedAt := some timestamp
          updatedAt := timestamp } } := by
  simp only [completeStop, bind_ok, rejectIf_ok, requireStopping_ok] at h
  obtain ⟨-, ⟨⟨-, hattempt⟩, hstopping, -⟩, -, hactive, hu⟩ := h
  obtain ⟨-, -, -, -, hvalid, rfl⟩ := updateArchiveRecovery_ok.1 hu
  exact ⟨⟨hattempt, hstopping⟩, hactive, hvalid, rfl⟩

theorem deferStop_ok
    (h : deferStop recoveryId attemptId stopOperationId latestStopping timestamp c = .ok c') :
    (c.recovery.attemptId = attemptId ∧ c.recovery.status = .stopping) ∧
      ∃ updatedAt, ArchiveRecovery.Valid { c.recovery with updatedAt } ∧
        c' = { c with recovery := { c.recovery with updatedAt } } := by
  simp only [deferStop, bind_ok, requireStopping_ok] at h
  obtain ⟨-, ⟨⟨-, hattempt⟩, hstopping, -⟩, hu⟩ := h
  obtain ⟨-, -, -, -, hvalid, rfl⟩ := updateArchiveRecovery_ok.1 hu
  exact ⟨⟨hattempt, hstopping⟩, _, hvalid, rfl⟩

theorem markStopFault_ok
    (h : markStopFault recoveryId attemptId stopOperationId faultCode timestamp c = .ok c') :
    (c.recovery.attemptId = attemptId ∧ c.recovery.status = .stopping) ∧
      ArchiveRecovery.Valid { c.recovery with
        status := .faulted
        stoppedAt := none
        faultCode := some faultCode
        updatedAt := timestamp } ∧
      c' = { c with recovery := { c.recovery with
        status := .faulted
        stoppedAt := none
        faultCode := some faultCode
        updatedAt := timestamp } } := by
  simp only [markStopFault, bind_ok, requireStopping_ok] at h
  obtain ⟨_, hcode, -, ⟨⟨-, hattempt⟩, hstopping, -⟩, hu⟩ := h
  obtain ⟨-, rfl⟩ := requireNonEmpty_ok.1 hcode
  obtain ⟨-, -, -, -, hvalid, rfl⟩ := updateArchiveRecovery_ok.1 hu
  exact ⟨⟨hattempt, hstopping⟩, hvalid, rfl⟩

/-! The reconciliations an operator asks for. -/

/-- The claim of a reconciliation worker. -/
structure ReconciliationClaim where
  attemptOrdinal : Nat
  claimToken : String
  deriving DecidableEq

def DVD_RECOVERY_RECONCILIATION_CLAIM_LEASE_MS : Nat := 60000

/-- A requested pass that will start again by itself. -/
def requestedPass (c : Catalog) : Prop :=
  c.recovery.status ∈ [ArchiveRecoveryStatus.eligible, .paused, .waitingForDisc] ∧
    ∃ work ∈ c.work, work.status = .requested

instance (c : Catalog) : Decidable (requestedPass c) :=
  inferInstanceAs (Decidable (_ ∧ _))

/-- `dvdRecoveryReconciliations.submit`. -/
def submitReconciliation (c : Catalog) : Except DomainError Catalog := do
  rejectIf (c.recovery.status ∈ [ArchiveRecoveryStatus.running, .stopping] ∨ requestedPass c)
    (.invalidStatusTransition "Archive Recovery"
      (if ∃ work ∈ c.work, work.status = .requested then "requested" else c.recovery.status.value)
      "DVD recovery reconciliation")
  rejectIf (∃ active ∈ c.reconciliations, active.status = "queued" ∨ active.status = "running")
    (.invalidStatusTransition "DVD recovery reconciliation" "active" "queued")
  return { c with reconciliations := c.reconciliations ++ [{
    attemptOrdinal := (c.reconciliations.map (·.attemptOrdinal)).foldl max 0 + 1
    status := "queued" }] }

def Catalog.updateReconciliations (c : Catalog)
    (f : DvdRecoveryReconciliation → DvdRecoveryReconciliation) : Catalog :=
  { c with reconciliations := c.reconciliations.map f }

def DvdRecoveryReconciliation.requeued (row : DvdRecoveryReconciliation) :
    DvdRecoveryReconciliation :=
  { row with
    status := "queued"
    claimToken := none
    claimedAt := none }

/-- `dvdRecoveryReconciliations.recoverExpiredClaims`. -/
def recoverExpiredReconciliations (timestamp : Nat) (c : Catalog) : Catalog :=
  c.updateReconciliations fun row =>
    if row.status = "running" ∧ ∃ claimedAt ∈ row.claimedAt,
        claimedAt < timestamp - DVD_RECOVERY_RECONCILIATION_CLAIM_LEASE_MS then row.requeued
    else row

/-- `dvdRecoveryReconciliations.claimNext`. -/
def claimNextReconciliation (workerExecutionId claimToken : String) (timestamp : Nat)
    (c : Catalog) : Except DomainError (Option ReconciliationClaim × Catalog) := do
  let execution ← requireNonEmpty (trim workerExecutionId)
    "DVD recovery reconciliation worker execution ID"
  rejectIf (256 < execution.length)
    (.invariant "DVD recovery reconciliation worker execution ID is too long")
  match c.reconciliations.find? (·.status = "queued") with
  | none => return (none, c)
  | some next => return (some ⟨next.attemptOrdinal, claimToken⟩, c.updateReconciliations fun row =>
      if row = next then { row with
        status := "running"
        claimToken := some claimToken
        claimedAt := some timestamp }
      else row)

/-- The running row of a reconciliation claim. -/
def DvdRecoveryReconciliation.HeldBy (row : DvdRecoveryReconciliation)
    (claim : ReconciliationClaim) : Prop :=
  row.attemptOrdinal = claim.attemptOrdinal ∧ row.status = "running" ∧
    row.claimToken = some claim.claimToken

instance (row : DvdRecoveryReconciliation) (claim : ReconciliationClaim) :
    Decidable (row.HeldBy claim) :=
  inferInstanceAs (Decidable (_ ∧ _))

/-- A conditional update of the claimed row: whether it was there. -/
def updateHeldReconciliation (claim : ReconciliationClaim)
    (f : DvdRecoveryReconciliation → DvdRecoveryReconciliation) (c : Catalog) : Bool × Catalog :=
  (c.reconciliations.any fun row => row.HeldBy claim,
    c.updateReconciliations fun row => if row.HeldBy claim then f row else row)

/-- `dvdRecoveryReconciliations.renewClaim` and `setPhase`. -/
def renewReconciliation (claim : ReconciliationClaim) (timestamp : Nat) (c : Catalog) :
    Bool × Catalog :=
  updateHeldReconciliation claim (fun row => { row with claimedAt := some timestamp }) c

/-- `dvdRecoveryReconciliations.requeue`. -/
def requeueReconciliation (claim : ReconciliationClaim) (c : Catalog) : Bool × Catalog :=
  updateHeldReconciliation claim (·.requeued) c

def DvdRecoveryReconciliation.ended (row : DvdRecoveryReconciliation) (status : String) :
    DvdRecoveryReconciliation :=
  { row with
    status
    claimToken := none
    claimedAt := none }

/-- `dvdRecoveryReconciliations.complete`; `converged` is whether the evidence is. -/
def completeReconciliation (claim : ReconciliationClaim) (converged : Bool) (c : Catalog) :
    Except DomainError Catalog := do
  rejectIf (¬converged) (.invariant "DVD recovery reconciliation evidence is not converged")
  let (held, completed) := updateHeldReconciliation claim (·.ended "completed") c
  rejectIf (¬held) (.staleJobAttempt "DVD recovery reconciliation" "claim")
  return completed

/-- `dvdRecoveryReconciliations.fail`. -/
def failReconciliation (claim : ReconciliationClaim) (c : Catalog) : Bool × Catalog :=
  updateHeldReconciliation claim (·.ended "failed") c

/-! The queue of reconciliations leaves everything else alone. -/

theorem submitReconciliation_ok (h : submitReconciliation c = .ok c') :
    ∃ reconciliations, c' = { c with reconciliations } := by
  simp only [submitReconciliation, bind_ok] at h
  obtain ⟨-, -, -, -, he⟩ := h
  exact ⟨_, (pure_ok.1 he).symm⟩

theorem claimNextReconciliation_ok
    (h : claimNextReconciliation workerExecutionId claimToken timestamp c = .ok (claim, c')) :
    ∃ reconciliations, c' = { c with reconciliations } := by
  simp only [claimNextReconciliation, bind_ok] at h
  obtain ⟨_, -, _, -, h⟩ := h
  split at h
  · cases h
    exact ⟨_, rfl⟩
  · cases h
    exact ⟨_, rfl⟩

theorem completeReconciliation_ok (h : completeReconciliation claim converged c = .ok c') :
    ∃ reconciliations, c' = { c with reconciliations } := by
  simp only [completeReconciliation, bind_ok] at h
  obtain ⟨-, -, -, -, he⟩ := h
  exact ⟨_, (pure_ok.1 he).symm⟩

end RipDvd
