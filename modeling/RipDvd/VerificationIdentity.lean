import RipDvd.WaitingResume
import RipDvd.RecoveryTables

namespace RipDvd
set_option autoImplicit true

/-- What a verification was made for, which never changes. -/
def DvdDiscVerification.identity (verification : DvdDiscVerification) :
    String × String × Option String × String :=
  (verification.id, verification.archiveRecoveryId, verification.archiveRecoveryAttemptId,
    verification.discInspectionId)

def DistinctVerifications (c : Catalog) : Prop := (c.verifications.map (·.id)).Nodup

/-- Verifications are added and settled, and stay what they were made for. -/
def VerificationsGrow (c c' : Catalog) : Prop :=
  DistinctVerifications c → DistinctVerifications c' ∧
    c.verifications.map (·.identity) <+: c'.verifications.map (·.identity)

theorem VerificationsGrow.trans (h : VerificationsGrow a b) (h' : VerificationsGrow b c) :
    VerificationsGrow a c := by
  intro hdistinct
  obtain ⟨hdistinct, hkept⟩ := h hdistinct
  obtain ⟨hdistinct, hkept'⟩ := h' hdistinct
  exact ⟨hdistinct, hkept.trans hkept'⟩

theorem verificationsGrow_of_same (h : c'.verifications = c.verifications) :
    VerificationsGrow c c' := by
  rw [VerificationsGrow, DistinctVerifications, DistinctVerifications, h]
  exact fun hdistinct => ⟨hdistinct, List.prefix_rfl⟩

theorem verificationsGrow_of_identities
    (h : DistinctVerifications c →
      c'.verifications.map (·.identity) = c.verifications.map (·.identity)) :
    VerificationsGrow c c' := by
  intro hdistinct
  have hsame := h hdistinct
  have hids : c'.verifications.map (·.id) = c.verifications.map (·.id) := by
    have hfirst := congrArg (List.map Prod.fst) hsame
    rw [List.map_map, List.map_map] at hfirst
    exact hfirst
  refine ⟨?_, hsame ▸ List.prefix_rfl⟩
  rw [DistinctVerifications, hids]
  exact hdistinct

theorem verificationsGrow_map {f : DvdDiscVerification → DvdDiscVerification}
    (h : ∀ verification, (f verification).identity = verification.identity) :
    VerificationsGrow c { c with verifications := c.verifications.map f } := by
  refine verificationsGrow_of_identities fun _ => ?_
  rw [List.map_map]
  exact List.map_congr_left fun verification _ => h verification

theorem verificationsGrow_append {row : DvdDiscVerification}
    (hfresh : ∀ other ∈ c.verifications, other.id ≠ row.id)
    (h : c'.verifications = c.verifications ++ [row]) : VerificationsGrow c c' := by
  intro hdistinct
  rw [DistinctVerifications, h, List.map_append, List.map_append]
  refine ⟨?_, List.prefix_append _ _⟩
  refine List.nodup_append.2 ⟨hdistinct, List.nodup_singleton _, ?_⟩
  intro id hid other hother
  obtain ⟨verification, hmem, rfl⟩ := List.mem_map.1 hid
  rw [List.map_singleton, List.mem_singleton] at hother
  rw [hother]
  exact hfresh verification hmem

/-- A row is replaced by one for the same. -/
theorem verificationsGrow_update (h : ∃ old ∈ c.verifications, old.identity = row.identity) :
    VerificationsGrow c (c.updateVerification row) := by
  refine verificationsGrow_of_identities fun hdistinct => ?_
  obtain ⟨old, hold, hsame⟩ := h
  rw [Catalog.updateVerification, List.map_map]
  apply List.map_congr_left
  intro verification hmem
  rw [Function.comp_apply]
  split
  · next hid =>
    have heq : verification = old :=
      List.inj_on_of_nodup_map hdistinct hmem hold (hid.trans (congrArg Prod.fst hsame).symm)
    rw [heq, hsame]
  · rfl

theorem insertQueuedDvdDiscVerification_grows
    (h : insertQueuedDvdDiscVerification c newId values timestamp = .ok c') :
    VerificationsGrow c c' := by
  obtain ⟨_, hfresh, h⟩ := bind_ok.1 h
  cases h
  rw [rejectIf_ok] at hfresh
  exact verificationsGrow_append (fun other hother hid => hfresh ⟨other, hother, hid⟩) rfl

theorem updateArchiveRecovery_grows (h : updateArchiveRecovery c recovery = .ok c') :
    VerificationsGrow c c' := by
  obtain ⟨-, -, -, -, -, rfl⟩ := updateArchiveRecovery_ok.1 h
  exact verificationsGrow_of_same rfl

theorem writeWork_grows (h : writeWork c work = .ok c') : VerificationsGrow c c' := by
  obtain ⟨-, -, -, rfl⟩ := writeWork_ok.1 h
  exact verificationsGrow_of_same rfl

theorem InsertionBound.grows (h : InsertionBound c inspection newId timestamp c') :
    VerificationsGrow c c' := by
  obtain ⟨verification, hverifications, hid, -⟩ := h.queued
  exact verificationsGrow_append (hid ▸ h.fresh) hverifications

theorem rebindWork_grows (h : rebindWork c verificationId timestamp = .ok c') :
    VerificationsGrow c c' := by
  obtain ⟨_, -, rfl⟩ := rebindWork_ok h
  exact verificationsGrow_of_same rfl

theorem settleGeneratedContinuationVerification_grows
    (h : settleGeneratedContinuationVerification c verification evaluated newId timestamp =
      .ok c') : VerificationsGrow c c' := by
  rw [settleGeneratedContinuationVerification] at h
  split at h
  · split at h
    · obtain ⟨queued, hqueued, hbound⟩ := bind_ok.1 h
      exact (insertQueuedDvdDiscVerification_grows hqueued).trans (rebindWork_grows hbound)
    · split at h
      · cases h
        exact verificationsGrow_of_same rfl
      · exact updateArchiveRecovery_grows h
  · split at h
    · split at h
      · cases h
        exact verificationsGrow_of_same rfl
      · split at h
        · exact insertQueuedDvdDiscVerification_grows h
        · exact updateArchiveRecovery_grows h
    · cases h
      exact verificationsGrow_of_same rfl

theorem heldVerification_mem (h : heldVerification c claim = some verification) :
    verification ∈ c.verifications :=
  List.mem_of_find?_eq_some (heldVerification_some.1 h).1

theorem completeVerification_grows
    (h : completeVerification claim evaluated newId timestamp c = .ok c') :
    VerificationsGrow c c' := by
  rw [completeVerification] at h
  split at h
  · cases h
  · next verification hheld =>
    obtain ⟨_, -, hsettled⟩ := bind_ok.1 h
    have hrow : VerificationsGrow c
        (c.updateVerification (verification.completedWith evaluated timestamp)) :=
      verificationsGrow_update ⟨verification, heldVerification_mem hheld, rfl⟩
    exact hrow.trans (settleGeneratedContinuationVerification_grows hsettled)

theorem failVerification_grows (h : failVerification claim newId timestamp c = .ok (held, c')) :
    VerificationsGrow c c' := by
  rw [failVerification] at h
  split at h
  · cases h
    exact verificationsGrow_of_same rfl
  · next verification hheld =>
    obtain ⟨settled, hsettled, he⟩ := bind_ok.1 h
    cases he
    have hrow : VerificationsGrow c (c.updateVerification (verification.asFailed timestamp)) :=
      verificationsGrow_update ⟨verification, heldVerification_mem hheld, rfl⟩
    exact hrow.trans (settleGeneratedContinuationVerification_grows hsettled)

theorem claimNextVerification_grows
    (h : claimNextVerification workerExecutionId claimToken timestamp c = .ok (claim, c')) :
    VerificationsGrow c c' := by
  obtain ⟨_, -, h⟩ := bind_ok.1 h
  obtain ⟨_, -, h⟩ := bind_ok.1 h
  split at h
  · cases h
    exact verificationsGrow_of_same rfl
  · next next hfound =>
    cases h
    exact verificationsGrow_update ⟨next, (List.mem_filter.1 (earliest_mem hfound)).1, rfl⟩

theorem renewVerificationClaim_grows
    (h : renewVerificationClaim claim timestamp c = (held, c')) : VerificationsGrow c c' := by
  rw [renewVerificationClaim] at h
  split at h
  · cases h
    exact verificationsGrow_of_same rfl
  · next verification hheld =>
    split at h
    · cases h
      exact verificationsGrow_update ⟨verification, heldVerification_mem hheld, rfl⟩
    · cases h
      exact verificationsGrow_of_same rfl

theorem recoverExpiredVerifications_grows
    (h : recoverExpiredVerifications evaluate newId timestamp c = .ok c') :
    VerificationsGrow c c' := by
  rw [recoverExpiredVerifications] at h
  have hexpired : ∀ verification ∈ c.verifications.filter (·.Expired timestamp),
      verification.identity ∈ c.verifications.map (·.identity) := by
    intro verification hmem
    exact List.mem_map_of_mem (List.mem_filter.1 hmem).1
  -- along the loop the rows that had expired at its start are still there
  generalize c.verifications.filter (·.Expired timestamp) = expired at h hexpired
  intro hdistinct
  suffices ∀ d, DistinctVerifications d →
      c.verifications.map (·.identity) <+: d.verifications.map (·.identity) →
      expired.foldlM (recoverExpiredVerification evaluate newId timestamp) d = .ok c' →
      DistinctVerifications c' ∧
        c.verifications.map (·.identity) <+: c'.verifications.map (·.identity) from
    this c hdistinct List.prefix_rfl h
  clear h
  induction expired with
  | nil =>
    intro d hd hkept h
    cases h
    exact ⟨hd, hkept⟩
  | cons verification rest ih =>
    intro d hd hkept h
    rw [List.foldlM_cons] at h
    obtain ⟨settled, hsettled, hrest⟩ := bind_ok.1 h
    obtain ⟨_, -, hsettled⟩ := bind_ok.1 hsettled
    obtain ⟨old, hold, hsame⟩ :=
      List.mem_map.1 (hkept.subset (hexpired verification List.mem_cons_self))
    have hrow : VerificationsGrow d
        (d.updateVerification (verification.completedWith (evaluate verification) timestamp)) :=
      verificationsGrow_update ⟨old, hold, hsame⟩
    obtain ⟨hd', hkept'⟩ :=
      hrow.trans (settleGeneratedContinuationVerification_grows hsettled) hd
    exact ih (fun other hother => hexpired other (List.mem_cons_of_mem _ hother)) settled hd'
      (hkept.trans hkept') hrest

theorem failQueuedVerifications_grows (c : Catalog) (timestamp : Nat) :
    VerificationsGrow c (failQueuedVerifications c timestamp) := by
  refine verificationsGrow_map fun verification => ?_
  split <;> rfl

theorem completeExpiredVerifications_grows (c : Catalog)
    (evaluate : DvdDiscVerification → EvaluatedVerification) (timestamp : Nat) :
    VerificationsGrow c (completeExpiredVerifications c evaluate timestamp) := by
  refine verificationsGrow_map fun verification => ?_
  split <;> rfl

theorem requestStop_grows
    (h : requestStop recoveryId attemptId stopOperationId timestamp c = .ok c') :
    VerificationsGrow c c' := by
  obtain ⟨_, -, h⟩ := bind_ok.1 h
  obtain ⟨_, -, h⟩ := bind_ok.1 h
  obtain ⟨_, -, h⟩ := bind_ok.1 h
  split at h
  · obtain ⟨requested, hrequested, h⟩ := bind_ok.1 h
    obtain ⟨stopping, hstopping, he⟩ := bind_ok.1 h
    cases he
    exact ((writeWork_grows hrequested).trans (updateArchiveRecovery_grows hstopping)).trans
      (failQueuedVerifications_grows stopping timestamp)
  · obtain ⟨requested, hrequested, h⟩ := bind_ok.1 h
    obtain ⟨stopping, hstopping, he⟩ := bind_ok.1 h
    cases hrequested
    cases he
    exact (updateArchiveRecovery_grows hstopping).trans
      (failQueuedVerifications_grows stopping timestamp)

theorem prepareStop_grows
    (h : prepareStop recoveryId attemptId stopOperationId quiescedClaim evaluate timestamp c =
      .ok (ready, c')) : VerificationsGrow c c' := by
  obtain ⟨_, -, h⟩ := bind_ok.1 h
  split at h
  · cases h
    exact verificationsGrow_of_same rfl
  · obtain ⟨_, -, h⟩ := bind_ok.1 h
    cases h
    exact (failQueuedVerifications_grows c timestamp).trans
      (completeExpiredVerifications_grows _ _ _)

theorem queueNext_grows
    (h : queueNextArchiveRecoveryPassVerification c newId verificationId timestamp = .ok c') :
    VerificationsGrow c c' := by
  unfold queueNextArchiveRecoveryPassVerification at h
  split at h
  · cases h
  · split at h
    · exact insertQueuedDvdDiscVerification_grows h
    · cases h

theorem settleWork_grows (h : settleWork c work outcome timestamp newId = .ok c') :
    VerificationsGrow c c' := by
  cases outcome with
  | completed =>
    cases h
    exact verificationsGrow_of_same rfl
  | productive =>
    obtain ⟨queued, hqueued, hwritten⟩ := bind_ok.1 h
    exact (queueNext_grows hqueued).trans (writeWork_grows hwritten)
  | noProgress => exact writeWork_grows h

theorem settlePass_grows (h : settlePass claim timestamp newId c = .ok (recovery, c')) :
    VerificationsGrow c c' := by
  obtain ⟨work, -, h⟩ := bind_ok.1 h
  split at h
  · cases h
    exact verificationsGrow_of_same rfl
  · obtain ⟨settlement, -, h⟩ := bind_ok.1 h
    obtain ⟨settled, hsettled, h⟩ := bind_ok.1 h
    obtain ⟨written, hwritten, h⟩ := bind_ok.1 h
    cases h
    exact (settleWork_grows hsettled).trans (updateArchiveRecovery_grows hwritten)

theorem requestResume_grows
    (h : requestResume input attemptId resumeOperationId insertion newVerificationId timestamp c =
      .ok c') : VerificationsGrow c c' := by
  simp only [requestResume, bind_ok] at h
  obtain ⟨_, -, _, -, _, -, _, -, _, -, _, -, _, -, waiting, hwaiting, requested,
    hrequested, h⟩ := h
  have hrow : VerificationsGrow c requested := by
    have hnone : VerificationsGrow c { c with work := none } := verificationsGrow_of_same rfl
    exact (hnone.trans (updateArchiveRecovery_grows hwaiting)).trans (writeWork_grows hrequested)
  split at h
  · cases h
    exact hrow
  · exact hrow.trans (activateResumeInsertion_binds h).grows

theorem activateWaitingResume_grows
    (h : activateWaitingResume insertion newVerificationId timestamp c = .ok (found, c')) :
    VerificationsGrow c c' := by
  unfold activateWaitingResume at h
  split at h
  · cases h
    exact verificationsGrow_of_same rfl
  · split at h
    · obtain ⟨_, -, h⟩ := bind_ok.1 h
      obtain ⟨_, -, h⟩ := bind_ok.1 h
      obtain ⟨activated, hactivated, h⟩ := bind_ok.1 h
      cases h
      exact (activateResumeInsertion_binds hactivated).grows
    · cases h
      exact verificationsGrow_of_same rfl

theorem submitVerification_grows
    (h : submitVerification inspectionId revision digest newId timestamp c = .ok c') :
    VerificationsGrow c c' := by
  obtain ⟨_, -, h⟩ := bind_ok.1 h
  obtain ⟨_, -, h⟩ := bind_ok.1 h
  split at h
  · cases h
  · obtain ⟨_, -, h⟩ := bind_ok.1 h
    obtain ⟨_, -, h⟩ := bind_ok.1 h
    obtain ⟨_, -, h⟩ := bind_ok.1 h
    obtain ⟨_, -, h⟩ := bind_ok.1 h
    exact insertQueuedDvdDiscVerification_grows h

variable (sha256 : Hashed → Digest)

/-- No transaction removes a verification or lets it be one for something else. -/
theorem RecoveryOperation.run_grows {op : RecoveryOperation}
    (h : op.run sha256 timestamp c = .ok (returned, c')) : VerificationsGrow c c' := by
  have hothers := RecoveryOperation.run_others sha256 h
  cases op with
  | settlePass claim newVerificationId =>
    obtain ⟨recovery, hs⟩ := commits_snd_ok h
    exact settlePass_grows hs
  | requestResume input attemptId resumeOperationId insertion newVerificationId =>
    exact requestResume_grows (commits_ok.1 h).2
  | activateWaitingResume insertion newVerificationId => exact activateWaitingResume_grows h
  | requestStop archiveRecoveryId attemptId stopOperationId =>
    exact requestStop_grows (commits_ok.1 h).2
  | prepareStop archiveRecoveryId attemptId stopOperationId quiescedClaim evaluate =>
    exact prepareStop_grows h
  | submitVerification discInspectionId checkpointRevision checkpointDigest newId =>
    exact submitVerification_grows (commits_ok.1 h).2
  | claimNextVerification workerExecutionId claimToken =>
    obtain ⟨claim, hc, -⟩ := finds_ok.1 h
    exact claimNextVerification_grows hc
  | renewVerificationClaim claim => exact renewVerificationClaim_grows (Except.ok.inj h)
  | completeVerification claim evaluated newId =>
    exact completeVerification_grows (commits_ok.1 h).2
  | failVerification claim newId => exact failVerification_grows h
  | recoverExpiredVerifications evaluate newId =>
    exact recoverExpiredVerifications_grows (commits_ok.1 h).2
  | _ => exact verificationsGrow_of_same (hothers.verifications (by simp [table]))

end RipDvd
