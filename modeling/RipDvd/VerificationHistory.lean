import RipDvd.ResumeRuns

namespace RipDvd
set_option autoImplicit true

/-- `dvd_disc_verifications_result_check`. -/
def DvdDiscVerification.ResultValid (verification : DvdDiscVerification) : Prop :=
  verification.Active ∧ verification.outcome = none ∧ verification.completedAt = none ∧
    verification.failureCode = none ∨
  verification.status = .completed ∧ verification.outcome ≠ none ∧
    verification.completedAt ≠ none ∧ verification.failureCode = none ∨
  verification.status = .failed ∧ verification.outcome = none ∧
    verification.completedAt ≠ none ∧
    verification.failureCode = some DISC_VERIFICATION_UNAVAILABLE

/-- `dvd_disc_verifications_claim_check`. -/
def DvdDiscVerification.ClaimValid (verification : DvdDiscVerification) : Prop :=
  verification.status = .running ∧ verification.claimToken ≠ none ∧
    verification.claimedAt ≠ none ∧ verification.workerExecutionId ≠ none ∧
    verification.startedAt ≠ none ∨
  verification.status ≠ .running ∧ verification.claimToken = none ∧ verification.claimedAt = none

/-- The column checks of `dvd_disc_verifications`: what a status says about the other columns. -/
structure DvdDiscVerification.Valid (verification : DvdDiscVerification) : Prop where
  attempt : 0 < verification.attemptOrdinal
  result : verification.ResultValid
  claim : verification.ClaimValid

/-- A verification without what its worker and its result write to it. -/
def DvdDiscVerification.made (verification : DvdDiscVerification) : DvdDiscVerification :=
  { verification with
    status := .queued
    outcome := none
    workerExecutionId := none
    claimedAt := none
    resultDigest := 0
    claimToken := none
    startedAt := none
    completedAt := none
    failureCode := none }

/-- How far a verification has come. -/
def DvdDiscVerificationStatus.stage : DvdDiscVerificationStatus → Nat
  | .queued => 0
  | .running => 1
  | .completed => 2
  | .failed => 2

/-- A row stays what it was made for, never goes back, and stays as it is once it has settled. -/
structure DvdDiscVerification.GoesOn (old new : DvdDiscVerification) : Prop where
  made : new.made = old.made
  stage : old.status.stage ≤ new.status.stage
  settled : ¬old.Active → new = old
  valid : old.Valid → new.Valid

theorem DvdDiscVerification.GoesOn.refl (verification : DvdDiscVerification) :
    verification.GoesOn verification :=
  ⟨rfl, le_rfl, fun _ => rfl, fun hvalid => hvalid⟩

theorem DvdDiscVerification.GoesOn.trans {a b c : DvdDiscVerification} (h : a.GoesOn b)
    (h' : b.GoesOn c) : a.GoesOn c := by
  refine ⟨h'.made.trans h.made, h.stage.trans h'.stage, fun hsettled => ?_, h'.valid ∘ h.valid⟩
  have hsame := h.settled hsettled
  rw [hsame] at h'
  exact h'.settled hsettled

theorem DvdDiscVerification.GoesOn.id_eq {old new : DvdDiscVerification} (h : old.GoesOn new) :
    new.id = old.id :=
  congrArg (·.id) h.made

theorem DvdDiscVerification.GoesOn.active {old new : DvdDiscVerification} (h : old.GoesOn new)
    (hactive : new.Active) : old.Active := by
  by_contra hsettled
  rw [h.settled hsettled] at hactive
  exact hsettled hactive

/-- The rows go on, and others may come behind them. -/
def VerificationsContinue (c c' : Catalog) : Prop :=
  ∀ (i : Nat) verification, c.verifications[i]? = some verification →
    ∃ later, c'.verifications[i]? = some later ∧ verification.GoesOn later

theorem VerificationsContinue.same (h : c'.verifications = c.verifications) :
    VerificationsContinue c c' :=
  fun _ verification hrow => ⟨verification, h ▸ hrow, .refl verification⟩

theorem VerificationsContinue.trans (h : VerificationsContinue a b)
    (h' : VerificationsContinue b c) : VerificationsContinue a c := by
  intro i verification hrow
  obtain ⟨later, hlater, hgoes⟩ := h i verification hrow
  obtain ⟨last, hlast, hgoes'⟩ := h' i later hlater
  exact ⟨last, hlast, hgoes.trans hgoes'⟩

/-- A verification may be under way: the recovery is not in a pass, and does not wait for one. -/
def MayVerify (c : Catalog) : Prop :=
  c.recovery.status ∈ [ArchiveRecoveryStatus.eligible, .stopping, .faulted, .completed] ∧
    ∀ work ∈ c.work, work.status ≠ .claimed

/-- A claimed row is the row of a pass that runs, was cut short or came to its end. -/
def ClaimedRow (c : Catalog) : Prop :=
  ∀ work ∈ c.work, work.status = .claimed →
    c.recovery.status ∉ [ArchiveRecoveryStatus.eligible, .waitingForDisc, .stopped, .completed]

/-- What the verifications of a recovery are to one another and to the recovery. -/
structure VerificationTable (c : Catalog) : Prop where
  rows : ∀ verification ∈ c.verifications,
    verification.Valid ∧ verification.archiveRecoveryId = c.recovery.id
  order : c.verifications.Pairwise fun earlier later => earlier.id ≠ later.id ∧
    earlier.attemptOrdinal < later.attemptOrdinal ∧ ¬earlier.Active
  active : ∀ verification ∈ c.verifications, verification.Active →
    verification.archiveRecoveryAttemptId = some c.recovery.attemptId ∧ MayVerify c
  claimed : ClaimedRow c

def NoneActive (c : Catalog) : Prop := ∀ verification ∈ c.verifications, ¬verification.Active

/-- A transaction that leaves the rows alone. -/
theorem VerificationTable.same (h : VerificationTable c)
    (hrows : c'.verifications = c.verifications)
    (hid : c'.recovery.id = c.recovery.id)
    (hactive : NoneActive c ∨ c'.recovery.attemptId = c.recovery.attemptId ∧
      (MayVerify c → MayVerify c'))
    (hclaimed : ClaimedRow c') : VerificationTable c' := by
  refine ⟨?_, hrows ▸ h.order, ?_, hclaimed⟩
  · rw [hrows, hid]
    exact h.rows
  · rw [hrows]
    intro verification hmem hverifies
    obtain hnone | ⟨hattempt, hmay⟩ := hactive
    · exact absurd hverifies (hnone verification hmem)
    · obtain ⟨hof, hbefore⟩ := h.active verification hmem hverifies
      exact ⟨hattempt ▸ hof, hmay hbefore⟩

/-- Rows that go on. -/
theorem VerificationTable.map {f : DvdDiscVerification → DvdDiscVerification}
    (h : VerificationTable c) (hf : ∀ verification ∈ c.verifications,
      verification.GoesOn (f verification)) :
    VerificationTable { c with verifications := c.verifications.map f } ∧
      VerificationsContinue c { c with verifications := c.verifications.map f } := by
  constructor
  · constructor
    · intro row hmem
      obtain ⟨verification, hv, rfl⟩ := List.mem_map.1 hmem
      obtain ⟨hvalid, hid⟩ := h.rows verification hv
      have hmade := congrArg (·.archiveRecoveryId) (hf verification hv).made
      exact ⟨(hf verification hv).valid hvalid, hmade.trans hid⟩
    · rw [List.pairwise_map]
      refine h.order.imp_of_mem fun {earlier later} he hl ⟨hne, hlt, hsettled⟩ => ?_
      have hordinals := congrArg (·.attemptOrdinal) (hf earlier he).made
      have hordinals' := congrArg (·.attemptOrdinal) (hf later hl).made
      rw [(hf earlier he).id_eq, (hf later hl).id_eq]
      refine ⟨hne, ?_, fun ha => hsettled ((hf earlier he).active ha)⟩
      exact lt_of_eq_of_lt hordinals (lt_of_lt_of_eq hlt hordinals'.symm)
    · intro row hmem hactive
      obtain ⟨verification, hv, rfl⟩ := List.mem_map.1 hmem
      obtain ⟨hof, hmay⟩ := h.active verification hv ((hf verification hv).active hactive)
      have hmade := congrArg (·.archiveRecoveryAttemptId) (hf verification hv).made
      exact ⟨hmade.trans hof, hmay⟩
    · exact h.claimed
  · intro i verification hrow
    refine ⟨f verification, ?_, hf verification (List.mem_of_getElem? hrow)⟩
    rw [List.getElem?_map, hrow]
    rfl

/-- A row that has just been queued for the attempt. -/
structure JustQueued (c : Catalog) (row : DvdDiscVerification) : Prop where
  fresh : ∀ other ∈ c.verifications, other.id ≠ row.id
  ordinal : row.attemptOrdinal = nextVerificationOrdinal c
  recovery : row.archiveRecoveryId = c.recovery.id
  attempt : row.archiveRecoveryAttemptId = some c.recovery.attemptId
  queued : row.status = .queued
  result : row.outcome = none ∧ row.completedAt = none ∧ row.failureCode = none
  unclaimed : row.claimToken = none ∧ row.claimedAt = none

theorem VerificationTable.lt_next (h : VerificationTable c)
    (hmem : verification ∈ c.verifications) :
    verification.attemptOrdinal < nextVerificationOrdinal c := by
  rw [nextVerificationOrdinal, Nat.lt_succ_iff]
  apply (le_foldl_max _ 0).2
  apply List.mem_map_of_mem
  exact List.mem_filter.2 ⟨hmem, by simpa using (h.rows verification hmem).2⟩

/-- A row is queued while none is active. -/
theorem VerificationTable.append (h : VerificationTable c) (hnone : NoneActive c)
    (hrow : JustQueued c row) (hrows : c'.verifications = c.verifications ++ [row])
    (hrecovery : c'.recovery.id = c.recovery.id ∧ c'.recovery.attemptId = c.recovery.attemptId)
    (hmay : MayVerify c') : VerificationTable c' ∧ VerificationsContinue c c' := by
  constructor
  · constructor
    · rw [hrows, hrecovery.1]
      intro verification hmem
      obtain hmem | hmem := List.mem_append.1 hmem
      · exact h.rows verification hmem
      · cases List.mem_singleton.1 hmem
        have hordinal : 0 < row.attemptOrdinal := by
          rw [hrow.ordinal]
          exact Nat.succ_pos _
        have hnot : row.status ≠ .running := by
          rw [hrow.queued]
          decide
        exact ⟨⟨hordinal, .inl ⟨.inl hrow.queued, hrow.result⟩, .inr ⟨hnot, hrow.unclaimed⟩⟩,
          hrow.recovery⟩
    · rw [hrows, List.pairwise_append]
      refine ⟨h.order, List.pairwise_singleton _ _, fun earlier he later hl => ?_⟩
      cases List.mem_singleton.1 hl
      exact ⟨hrow.fresh earlier he, hrow.ordinal ▸ h.lt_next he, hnone earlier he⟩
    · rw [hrows, hrecovery.2]
      intro verification hmem hactive
      obtain hmem | hmem := List.mem_append.1 hmem
      · exact absurd hactive (hnone verification hmem)
      · cases List.mem_singleton.1 hmem
        exact ⟨hrow.attempt, hmay⟩
    · intro work hw hclaimed
      exact absurd hclaimed (hmay.2 work hw)
  · intro i verification hr
    refine ⟨verification, ?_, .refl verification⟩
    have hlt := (List.getElem?_eq_some_iff.1 hr).1
    rw [hrows, List.getElem?_append_left hlt, hr]

/-- No other row is active beside one that is. -/
theorem VerificationTable.active_eq (h : VerificationTable c) (ha : a ∈ c.verifications)
    (hactive : a.Active) (hb : b ∈ c.verifications) (hactive' : b.Active) : a = b := by
  by_contra hne
  have hsymmetric : Std.Symm fun a b : DvdDiscVerification => ¬(a.Active ∧ b.Active) :=
    ⟨fun _ _ hboth hswapped => hboth hswapped.symm⟩
  have hpairs : c.verifications.Pairwise fun a b => ¬(a.Active ∧ b.Active) :=
    h.order.imp fun hpair hboth => hpair.2.2 hboth.1
  exact hpairs.forall ha hb hne ⟨hactive, hactive'⟩

/-- A row is replaced by one it goes on as. -/
theorem VerificationTable.update (h : VerificationTable c) (hmem : old ∈ c.verifications)
    (hgoes : old.GoesOn row) : VerificationTable (c.updateVerification row) ∧
      VerificationsContinue c (c.updateVerification row) := by
  refine h.map fun verification hv => ?_
  split
  · next hid =>
    by_cases hsame : verification = old
    · exact hsame ▸ hgoes
    · have hsymmetric : Std.Symm fun a b : DvdDiscVerification => a.id ≠ b.id :=
        ⟨fun _ _ hne => hne.symm⟩
      have hpairs : c.verifications.Pairwise fun a b => a.id ≠ b.id := h.order.imp And.left
      exact absurd (hid.trans hgoes.id_eq) (hpairs.forall hv hmem hsame)
  · exact .refl verification

/-- When the active row has settled, none is active. -/
theorem VerificationTable.settles (h : VerificationTable c) (hmem : old ∈ c.verifications)
    (hgoes : old.GoesOn row) (hactive : old.Active) (hsettled : ¬row.Active) :
    NoneActive (c.updateVerification row) := by
  intro verification hv hverifies
  obtain ⟨before, hb, he⟩ := List.mem_map.1 hv
  split at he
  · subst he
    exact hsettled hverifies
  · next hne =>
    subst he
    rw [h.active_eq hb hverifies hmem hactive, hgoes.id_eq] at hne
    exact hne rfl

theorem stage_le (status : DvdDiscVerificationStatus) : status.stage ≤ 2 := by
  cases status <;> decide

/-- A verification that is under way has no result. -/
theorem DvdDiscVerification.Valid.unsettled {verification : DvdDiscVerification}
    (h : verification.Valid) (hactive : verification.Active) :
    verification.outcome = none ∧ verification.completedAt = none ∧
      verification.failureCode = none := by
  obtain ⟨-, hnone⟩ | ⟨hcompleted, -⟩ | ⟨hfailed, -⟩ := h.result
  · exact hnone
  · simp [DvdDiscVerification.Active, hcompleted] at hactive
  · simp [DvdDiscVerification.Active, hfailed] at hactive

theorem goesOn_completedWith {verification : DvdDiscVerification} (hactive : verification.Active)
    (evaluated : EvaluatedVerification) (timestamp : Nat) :
    verification.GoesOn (verification.completedWith evaluated timestamp) := by
  refine ⟨rfl, stage_le _, fun hsettled => absurd hactive hsettled, fun hvalid => ?_⟩
  obtain ⟨-, -, hfailure⟩ := hvalid.unsettled hactive
  exact ⟨hvalid.attempt,
    .inr (.inl ⟨rfl, Option.some_ne_none _, Option.some_ne_none _, hfailure⟩),
    .inr ⟨by simp [DvdDiscVerification.completedWith], rfl, rfl⟩⟩

theorem goesOn_asFailed {verification : DvdDiscVerification} (hactive : verification.Active)
    (timestamp : Nat) : verification.GoesOn (verification.asFailed timestamp) := by
  refine ⟨rfl, stage_le _, fun hsettled => absurd hactive hsettled, fun hvalid => ?_⟩
  obtain ⟨houtcome, -⟩ := hvalid.unsettled hactive
  exact ⟨hvalid.attempt, .inr (.inr ⟨rfl, houtcome, Option.some_ne_none _, rfl⟩),
    .inr ⟨by simp [DvdDiscVerification.asFailed], rfl, rfl⟩⟩

theorem goesOn_claimed {verification : DvdDiscVerification}
    (hqueued : verification.status = .queued)
    (execution token : String) (timestamp : Nat) : verification.GoesOn { verification with
      status := .running
      workerExecutionId := some execution
      claimedAt := some timestamp
      claimToken := some token
      startedAt := some timestamp } := by
  refine ⟨rfl, ?_, fun hsettled => absurd (.inl hqueued) hsettled, fun hvalid => ?_⟩
  · rw [hqueued]
    exact Nat.zero_le _
  · exact ⟨hvalid.attempt, .inl ⟨.inr rfl, hvalid.unsettled (.inl hqueued)⟩,
      .inl ⟨rfl, Option.some_ne_none _, Option.some_ne_none _, Option.some_ne_none _,
        Option.some_ne_none _⟩⟩

theorem goesOn_renewed {verification : DvdDiscVerification}
    (hrunning : verification.status = .running) (timestamp : Nat) :
    verification.GoesOn { verification with claimedAt := some timestamp } := by
  refine ⟨rfl, le_rfl, fun hsettled => absurd (.inr hrunning) hsettled, fun hvalid => ?_⟩
  refine ⟨hvalid.attempt, hvalid.result, ?_⟩
  obtain ⟨-, htoken, -, hexecution⟩ | ⟨hnot, -⟩ := hvalid.claim
  · exact .inl ⟨hrunning, htoken, Option.some_ne_none _, hexecution⟩
  · exact absurd hrunning hnot

theorem VerificationTable.mayVerify (h : VerificationTable c)
    (heligible : c.recovery.status = .eligible) : MayVerify c := by
  refine ⟨by simp [heligible], fun work hw hclaimed => ?_⟩
  exact h.claimed work hw hclaimed (by simp [heligible])

theorem insertQueuedDvdDiscVerification_queues
    (h : insertQueuedDvdDiscVerification c newId values timestamp = .ok c')
    (hrecovery : values.archiveRecoveryId = c.recovery.id)
    (hattempt : values.archiveRecoveryAttemptId = some c.recovery.attemptId) :
    ∃ row, JustQueued c row ∧ c' = { c with verifications := c.verifications ++ [row] } := by
  obtain ⟨_, hfresh, h⟩ := bind_ok.1 h
  cases h
  rw [rejectIf_ok] at hfresh
  refine ⟨_, ?_, rfl⟩
  exact ⟨fun other hother hid => hfresh ⟨other, hother, hid⟩, rfl, hrecovery, hattempt, rfl,
    ⟨rfl, rfl, rfl⟩, rfl, rfl⟩

/-- A settled verification leads to at most one that is queued. -/
theorem settleGeneratedContinuationVerification_table
    (h : settleGeneratedContinuationVerification c verification evaluated newId timestamp = .ok c')
    (hc : VerificationTable c) (hnone : NoneActive c) :
    VerificationTable c' ∧ VerificationsContinue c c' := by
  rw [settleGeneratedContinuationVerification] at h
  split at h
  · next hverifies =>
    obtain ⟨⟨hid, heligible, hattempt⟩, -, work, hwork, hrequested, -⟩ := hverifies
    split at h
    · obtain ⟨queued, hqueued, hbound⟩ := bind_ok.1 h
      obtain ⟨row, hrow, rfl⟩ := insertQueuedDvdDiscVerification_queues hqueued hid hattempt
      obtain ⟨bound, hb, rfl⟩ := rebindWork_ok hbound
      cases hwork.symm.trans hb
      apply hc.append hnone hrow
      · rfl
      · exact ⟨rfl, rfl⟩
      · refine ⟨by simp [heligible], fun other ho hclaimed => ?_⟩
        cases ho
        cases hrequested.symm.trans hclaimed
    · split at h
      · cases h
        exact ⟨hc, .same rfl⟩
      · obtain ⟨-, -, -, -, -, rfl⟩ := updateArchiveRecovery_ok.1 h
        refine ⟨hc.same rfl rfl (.inl hnone) fun other ho hclaimed => ?_, .same rfl⟩
        cases hwork.symm.trans ho
        cases hrequested.symm.trans hclaimed
  · split at h
    · next hverifies =>
      obtain ⟨⟨hid, heligible, hattempt⟩, -⟩ := hverifies
      split at h
      · cases h
        exact ⟨hc, .same rfl⟩
      · split at h
        · obtain ⟨row, hrow, rfl⟩ := insertQueuedDvdDiscVerification_queues h hid hattempt
          exact hc.append hnone hrow rfl ⟨rfl, rfl⟩ (hc.mayVerify heligible)
        · obtain ⟨-, -, -, -, -, rfl⟩ := updateArchiveRecovery_ok.1 h
          exact ⟨hc.same rfl rfl (.inl hnone) fun _ _ _ => by simp, .same rfl⟩
    · cases h
      exact ⟨hc, .same rfl⟩

/-- A running verification settles, and the recovery goes on. -/
theorem VerificationTable.settle (hc : VerificationTable c) (hmem : old ∈ c.verifications)
    (hactive : old.Active) (hgoes : old.GoesOn row) (hsettled : ¬row.Active)
    (h : settleGeneratedContinuationVerification (c.updateVerification row) row evaluated newId
      timestamp = .ok c') : VerificationTable c' ∧ VerificationsContinue c c' := by
  obtain ⟨htable, hcontinue⟩ := hc.update hmem hgoes
  obtain ⟨htable', hcontinue'⟩ :=
    settleGeneratedContinuationVerification_table h htable (hc.settles hmem hgoes hactive hsettled)
  exact ⟨htable', hcontinue.trans hcontinue'⟩

theorem completeVerification_table
    (h : completeVerification claim evaluated newId timestamp c = .ok c')
    (hc : VerificationTable c) : VerificationTable c' ∧ VerificationsContinue c c' := by
  rw [completeVerification] at h
  split at h
  · cases h
  · next verification hheld =>
    obtain ⟨_, -, hsettled⟩ := bind_ok.1 h
    have hactive : verification.Active := .inr (heldVerification_some.1 hheld).2.1
    exact hc.settle (heldVerification_mem hheld) hactive
      (goesOn_completedWith hactive evaluated timestamp)
      (not_active_completedWith verification evaluated timestamp) hsettled

theorem failVerification_table (h : failVerification claim newId timestamp c = .ok (held, c'))
    (hc : VerificationTable c) : VerificationTable c' ∧ VerificationsContinue c c' := by
  rw [failVerification] at h
  split at h
  · cases h
    exact ⟨hc, .same rfl⟩
  · next verification hheld =>
    obtain ⟨settled, hsettled, he⟩ := bind_ok.1 h
    cases he
    have hactive : verification.Active := .inr (heldVerification_some.1 hheld).2.1
    exact hc.settle (heldVerification_mem hheld) hactive (goesOn_asFailed hactive timestamp)
      (not_active_asFailed verification timestamp) hsettled

/-- At most one verification can have expired. -/
theorem VerificationTable.expired (h : VerificationTable c) (timestamp : Nat) :
    (c.verifications.filter (·.Expired timestamp)).length ≤ 1 := by
  have hpairs := h.order.sublist (List.filter_sublist (p := (·.Expired timestamp)))
  rw [← not_lt]
  intro hlt
  obtain ⟨a, b, rest, hrows⟩ : ∃ a b rest, c.verifications.filter (·.Expired timestamp) =
      a :: b :: rest := by
    cases hrows : c.verifications.filter (·.Expired timestamp) with
    | nil => simp [hrows] at hlt
    | cons a rest =>
      cases rest with
      | nil => simp [hrows] at hlt
      | cons b rest => exact ⟨a, b, rest, rfl⟩
  rw [hrows] at hpairs
  have hmem : a ∈ c.verifications.filter (·.Expired timestamp) := hrows ▸ List.mem_cons_self
  have hexpired := (List.mem_filter.1 hmem).2
  rw [decide_eq_true_eq] at hexpired
  exact (List.rel_of_pairwise_cons hpairs List.mem_cons_self).2.2 (.inr hexpired.1)

theorem VerificationTable.noneActive (h : VerificationTable c) (hnot : ¬MayVerify c) :
    NoneActive c :=
  fun verification hmem hactive => hnot (h.active verification hmem hactive).2

theorem recoverExpiredVerifications_table
    (h : recoverExpiredVerifications evaluate newId timestamp c = .ok c')
    (hc : VerificationTable c) : VerificationTable c' ∧ VerificationsContinue c c' := by
  have hone := hc.expired timestamp
  rw [recoverExpiredVerifications] at h
  cases hrows : c.verifications.filter (·.Expired timestamp) with
  | nil =>
    rw [hrows] at h
    cases h
    exact ⟨hc, .same rfl⟩
  | cons verification rest =>
    have hmem : verification ∈ c.verifications.filter (·.Expired timestamp) :=
      hrows ▸ List.mem_cons_self
    rw [hrows, List.length_cons] at hone
    rw [hrows, List.length_eq_zero_iff.1 (Nat.le_zero.1 (Nat.le_of_succ_le_succ hone)),
      List.foldlM_cons] at h
    obtain ⟨settled, hsettled, he⟩ := bind_ok.1 h
    cases he
    obtain ⟨_, -, hsettled⟩ := bind_ok.1 hsettled
    obtain ⟨hrow, hexpired⟩ := List.mem_filter.1 hmem
    rw [decide_eq_true_eq] at hexpired
    have hactive : verification.Active := .inr hexpired.1
    exact hc.settle hrow hactive (goesOn_completedWith hactive _ timestamp)
      (not_active_completedWith verification _ timestamp) hsettled

theorem submitVerification_table
    (h : submitVerification inspectionId revision digest newId timestamp c = .ok c')
    (hc : VerificationTable c) : VerificationTable c' ∧ VerificationsContinue c c' := by
  have heligible := (submitVerification_ok h).1
  obtain ⟨_, -, h⟩ := bind_ok.1 h
  obtain ⟨_, -, h⟩ := bind_ok.1 h
  split at h
  · cases h
  · obtain ⟨_, -, h⟩ := bind_ok.1 h
    obtain ⟨observedDisc, -, h⟩ := bind_ok.1 h
    obtain ⟨_, hactive, h⟩ := bind_ok.1 h
    rw [rejectIf_ok] at hactive
    obtain ⟨_, -, h⟩ := bind_ok.1 h
    obtain ⟨row, hrow, rfl⟩ := insertQueuedDvdDiscVerification_queues h rfl rfl
    apply hc.append _ hrow
    · rfl
    · exact ⟨rfl, rfl⟩
    · exact hc.mayVerify heligible
    · intro verification hmem hverifies
      exact hactive ⟨verification, hmem, (hc.rows verification hmem).2, hverifies⟩

theorem claimNextVerification_table
    (h : claimNextVerification workerExecutionId claimToken timestamp c = .ok (claim, c'))
    (hc : VerificationTable c) : VerificationTable c' ∧ VerificationsContinue c c' := by
  obtain ⟨_, -, h⟩ := bind_ok.1 h
  obtain ⟨_, -, h⟩ := bind_ok.1 h
  split at h
  · cases h
    exact ⟨hc, .same rfl⟩
  · next next hfound =>
    cases h
    obtain ⟨hmem, hqueued⟩ := List.mem_filter.1 (earliest_mem hfound)
    rw [decide_eq_true_eq] at hqueued
    exact hc.update hmem (goesOn_claimed hqueued.1 _ _ _)

theorem renewVerificationClaim_table
    (h : renewVerificationClaim claim timestamp c = (held, c')) (hc : VerificationTable c) :
    VerificationTable c' ∧ VerificationsContinue c c' := by
  rw [renewVerificationClaim] at h
  split at h
  · cases h
    exact ⟨hc, .same rfl⟩
  · next verification hheld =>
    split at h
    · cases h
      exact hc.update (heldVerification_mem hheld)
        (goesOn_renewed (heldVerification_some.1 hheld).2.1 timestamp)
    · cases h
      exact ⟨hc, .same rfl⟩

theorem failQueuedVerifications_table (hc : VerificationTable c) (timestamp : Nat) :
    VerificationTable (failQueuedVerifications c timestamp) ∧
      VerificationsContinue c (failQueuedVerifications c timestamp) := by
  refine hc.map fun verification _ => ?_
  split
  · next hqueued => exact goesOn_asFailed (.inl hqueued.2) timestamp
  · exact .refl verification

theorem requestStop_table
    (h : requestStop recoveryId attemptId stopOperationId timestamp c = .ok c')
    (hc : VerificationTable c) : VerificationTable c' ∧ VerificationsContinue c c' := by
  have hstopped (requested : Catalog) (hrequested : requested.verifications = c.verifications)
      (hrecovery : requested.recovery = c.recovery)
      (hwork : MayVerify c → ∀ work ∈ requested.work, work.status ≠ .claimed) :
      VerificationTable { requested with
          recovery := c.recovery.stopping stopOperationId timestamp } ∧
        VerificationsContinue c { requested with
          recovery := c.recovery.stopping stopOperationId timestamp } := by
    refine ⟨hc.same hrequested rfl (.inr ⟨rfl, fun hmay => ?_⟩) ?_, .same hrequested⟩
    · exact ⟨by simp [ArchiveRecovery.stopping], hwork hmay⟩
    · intro work _ _
      simp [ArchiveRecovery.stopping]
  obtain ⟨_, -, h⟩ := bind_ok.1 h
  obtain ⟨_, -, h⟩ := bind_ok.1 h
  obtain ⟨_, -, h⟩ := bind_ok.1 h
  split at h
  · obtain ⟨requested, hrequested, h⟩ := bind_ok.1 h
    obtain ⟨stopping, hstopping, he⟩ := bind_ok.1 h
    cases he
    obtain ⟨-, -, -, rfl⟩ := writeWork_ok.1 hrequested
    obtain ⟨-, -, -, -, -, rfl⟩ := updateArchiveRecovery_ok.1 hstopping
    obtain ⟨htable, hcontinue⟩ := hstopped
      { c with work := some (c.recovery.requestedWork .initial timestamp) } rfl rfl (by
        intro _ work hw hclaimed
        cases hw
        cases hclaimed)
    obtain ⟨hfailed, hcontinue'⟩ := failQueuedVerifications_table htable timestamp
    exact ⟨hfailed, hcontinue.trans hcontinue'⟩
  · obtain ⟨requested, hrequested, h⟩ := bind_ok.1 h
    obtain ⟨stopping, hstopping, he⟩ := bind_ok.1 h
    cases hrequested
    cases he
    obtain ⟨-, -, -, -, -, rfl⟩ := updateArchiveRecovery_ok.1 hstopping
    obtain ⟨htable, hcontinue⟩ := hstopped c rfl rfl fun hmay => hmay.2
    obtain ⟨hfailed, hcontinue'⟩ := failQueuedVerifications_table htable timestamp
    exact ⟨hfailed, hcontinue.trans hcontinue'⟩

theorem prepareStop_table
    (h : prepareStop recoveryId attemptId stopOperationId quiescedClaim evaluate timestamp c =
      .ok (ready, c')) (hc : VerificationTable c) :
    VerificationTable c' ∧ VerificationsContinue c c' := by
  obtain ⟨_, -, h⟩ := bind_ok.1 h
  split at h
  · cases h
    exact ⟨hc, .same rfl⟩
  · obtain ⟨_, -, h⟩ := bind_ok.1 h
    cases h
    obtain ⟨htable, hcontinue⟩ := failQueuedVerifications_table hc timestamp
    have hcompleted := htable.map (f := fun verification =>
        if ofAttempt (failQueuedVerifications c timestamp) verification ∧
            verification.Expired timestamp then
          verification.completedWith (evaluate verification) timestamp
        else verification) fun verification _ => by
      split
      · next hexpired => exact goesOn_completedWith (.inr hexpired.2.1) _ timestamp
      · exact .refl verification
    exact ⟨hcompleted.1, hcontinue.trans hcompleted.2⟩

theorem settlePass_table (h : settlePass claim timestamp newId c = .ok (recovery, c'))
    (hc : VerificationTable c) : VerificationTable c' ∧ VerificationsContinue c c' := by
  obtain ⟨work, hclaim, h⟩ := bind_ok.1 h
  obtain ⟨hwork, -, -, hclaimed, -⟩ := requireCurrentArchiveRecoveryClaim_ok.1 hclaim
  have hnone : NoneActive c := hc.noneActive fun hmay => hmay.2 work hwork hclaimed
  split at h
  · cases h
    exact ⟨hc, .same rfl⟩
  · obtain ⟨⟨outcome, history⟩, -, h⟩ := bind_ok.1 h
    obtain ⟨settled, hsettled, h⟩ := bind_ok.1 h
    obtain ⟨written, hwritten, h⟩ := bind_ok.1 h
    cases h
    obtain ⟨-, -, -, -, -, rfl⟩ := updateArchiveRecovery_ok.1 hwritten
    cases outcome with
    | completed =>
      cases hsettled
      refine ⟨hc.same rfl rfl (.inl hnone) fun other ho => ?_, .same rfl⟩
      cases ho
    | productive =>
      obtain ⟨queued, hqueued, hrow⟩ := bind_ok.1 hsettled
      obtain ⟨-, -, -, rfl⟩ := writeWork_ok.1 hrow
      unfold queueNextArchiveRecoveryPassVerification at hqueued
      split at hqueued
      · cases hqueued
      · split at hqueued
        · obtain ⟨row, hnew, rfl⟩ := insertQueuedDvdDiscVerification_queues hqueued rfl rfl
          apply hc.append hnone hnew
          · rfl
          · exact ⟨rfl, rfl⟩
          · refine ⟨by simp [settledStatus], fun other ho => ?_⟩
            cases ho
            simp [ArchiveRecoveryWork.requeued]
        · cases hqueued
    | noProgress =>
      obtain ⟨-, -, -, rfl⟩ := writeWork_ok.1 hsettled
      refine ⟨hc.same rfl rfl (.inl hnone) fun other ho hother => ?_, .same rfl⟩
      cases ho
      cases hother

theorem activateResumeInsertion_table
    (h : activateResumeInsertion c inspection newId timestamp = .ok c')
    (hc : VerificationTable c) (hnone : NoneActive c) :
    VerificationTable c' ∧ VerificationsContinue c c' := by
  obtain ⟨queued, hqueued, h⟩ := bind_ok.1 h
  obtain ⟨observedDisc, -, hqueued⟩ := bind_ok.1 hqueued
  obtain ⟨_, -, hqueued⟩ := bind_ok.1 hqueued
  obtain ⟨_, -, hqueued⟩ := bind_ok.1 hqueued
  obtain ⟨row, hrow, rfl⟩ := insertQueuedDvdDiscVerification_queues hqueued rfl rfl
  split at h
  · cases h
  · next work hwork =>
    obtain ⟨_, hrequested, h⟩ := bind_ok.1 h
    obtain ⟨_, -, h⟩ := bind_ok.1 h
    obtain ⟨bound, hbound, h⟩ := bind_ok.1 h
    obtain ⟨-, -, -, rfl⟩ := writeWork_ok.1 hbound
    obtain ⟨-, -, -, -, -, rfl⟩ := updateArchiveRecovery_ok.1 h
    rw [rejectIf_ok, not_not] at hrequested
    apply hc.append hnone hrow
    · rfl
    · exact ⟨rfl, rfl⟩
    · refine ⟨by simp, fun other ho hclaimed => ?_⟩
      cases ho
      cases hrequested.symm.trans hclaimed

theorem requestResume_table
    (h : requestResume input attemptId resumeOperationId insertion newVerificationId timestamp c =
      .ok c') (hc : VerificationTable c) :
    VerificationTable c' ∧ VerificationsContinue c c' := by
  simp only [requestResume, bind_ok, rejectIf_ok] at h
  obtain ⟨_, -, _, hstatus, _, -, _, -, _, -, _, -, _, -, waiting, hwaiting, requested,
    hrequested, h⟩ := h
  obtain ⟨-, -, -, -, -, rfl⟩ := updateArchiveRecovery_ok.1 hwaiting
  obtain ⟨-, -, -, rfl⟩ := writeWork_ok.1 hrequested
  have hnone : NoneActive c := by
    apply hc.noneActive
    rintro ⟨hmay, -⟩
    by_cases hpaused : c.recovery.status = .paused
    · simp [hpaused] at hmay
    · have hstopped : c.recovery.status = .stopped := by_contra fun hn => hstatus ⟨hpaused, hn⟩
      simp [hstopped] at hmay
  have hrow : VerificationTable { c with
      work := some ((c.recovery.resumed input attemptId resumeOperationId timestamp).requestedWork
        (resumedPass c.recovery) timestamp)
      recovery := c.recovery.resumed input attemptId resumeOperationId timestamp } := by
    refine hc.same rfl rfl (.inl hnone) fun other ho hclaimed => ?_
    cases ho
    cases hclaimed
  split at h
  · cases h
    exact ⟨hrow, .same rfl⟩
  · obtain ⟨htable, hcontinue⟩ := activateResumeInsertion_table h hrow hnone
    exact ⟨htable, .trans (.same rfl) hcontinue⟩

theorem activateWaitingResume_table
    (h : activateWaitingResume insertion newVerificationId timestamp c = .ok (found, c'))
    (hc : VerificationTable c) : VerificationTable c' ∧ VerificationsContinue c c' := by
  unfold activateWaitingResume at h
  split at h
  · cases h
    exact ⟨hc, .same rfl⟩
  · split at h
    · next hwaiting =>
      obtain ⟨_, -, h⟩ := bind_ok.1 h
      obtain ⟨_, -, h⟩ := bind_ok.1 h
      obtain ⟨activated, hactivated, h⟩ := bind_ok.1 h
      cases h
      have hnone := hc.noneActive fun hmay => by simp [MayVerify, hwaiting.1] at hmay
      exact activateResumeInsertion_table hactivated hc hnone
    · cases h
      exact ⟨hc, .same rfl⟩

/-- A projection finds the claimed row of the attempt. -/
theorem projectionWork_claimed (hrow : RowOfAttempt c)
    (hclaim : ∀ claim ∈ input.claim, ∃ work, requireCurrentArchiveRecoveryClaim c claim = .ok work)
    (hwork : c.work = some work) (hclaimed : work.status = .claimed) :
    projectionWork input c = some work := by
  obtain ⟨hid, -, hattempt⟩ := hrow work hwork
  rw [projectionWork, hwork, Option.filter_some, if_pos]
  rw [decide_eq_true_eq]
  refine ⟨hid, hattempt, hclaimed, fun claim hc => ?_⟩
  obtain ⟨held, hheld⟩ := hclaim claim hc
  obtain ⟨hsame, -, -, -, htoken, -⟩ := requireCurrentArchiveRecoveryClaim_ok.1 hheld
  cases hwork.symm.trans hsame
  exact htoken

theorem Advances.table (ha : Advances input c c') (hrow : RowOfAttempt c)
    (hclaim : ∀ claim ∈ input.claim, ∃ work, requireCurrentArchiveRecoveryClaim c claim = .ok work)
    (hc : VerificationTable c) : VerificationTable c' ∧ VerificationsContinue c c' := by
  have hstatus := ha.status
  obtain ⟨timestamp, classification, meaningful, work', hwork', rfl, -⟩ := ha.written
  refine ⟨?_, .same rfl⟩
  obtain ⟨hnone, rfl⟩ | ⟨claimed, next, hsome, hwork, hadvance, rfl⟩ := projectWork_ok hwork'
  · have hnot : ∀ work ∈ c.work, work.status ≠ .claimed := by
      intro work hw hclaimed
      cases hnone.symm.trans (projectionWork_claimed hrow hclaim hw hclaimed)
    refine hc.same rfl rfl (.inr ⟨rfl, fun hmay => ⟨?_, hnot⟩⟩) fun work hw hclaimed => ?_
    · show projectedRecoveryStatus input c ∈ _
      rw [projectedRecoveryStatus]
      split
      · exact hmay.1
      · rw [if_neg (by simp [hnone])]
        split <;> simp
    · exact absurd hclaimed (hnot work hw)
  · have hclaimed : claimed.status = .claimed := by
      have hfilter := (Option.filter_eq_some_iff.1 hsome).2
      rw [decide_eq_true_eq] at hfilter
      exact hfilter.2.2.1
    have hnoneActive := hc.noneActive fun hmay => hmay.2 claimed hwork hclaimed
    refine hc.same rfl rfl (.inl hnoneActive) fun work _ _ => ?_
    show projectedRecoveryStatus input c ∉ _
    rw [projectedRecoveryStatus]
    split
    · exact hc.claimed claimed hwork hclaimed
    · rw [if_pos (by simp [hsome])]
      simp

/-- The last verification has settled, so none is active. -/
theorem VerificationTable.latest_settled (hc : VerificationTable c)
    (hmem : verification ∈ c.verifications) (hsettled : ¬verification.Active)
    (hlast : ∀ later ∈ c.verifications, later.archiveRecoveryId = c.recovery.id →
      later.attemptOrdinal ≤ verification.attemptOrdinal) : NoneActive c := by
  intro other hother hactive
  have hsymmetric : Std.Symm fun a b : DvdDiscVerification =>
      a.attemptOrdinal < b.attemptOrdinal ∧ ¬a.Active ∨
        b.attemptOrdinal < a.attemptOrdinal ∧ ¬b.Active := ⟨fun _ _ h => h.symm⟩
  have hpairs : c.verifications.Pairwise fun a b =>
      a.attemptOrdinal < b.attemptOrdinal ∧ ¬a.Active ∨
        b.attemptOrdinal < a.attemptOrdinal ∧ ¬b.Active := hc.order.imp fun h => .inl h.2
  have hne : other ≠ verification := fun he => hsettled (he ▸ hactive)
  obtain ⟨-, hnot⟩ | ⟨hlt, -⟩ := hpairs.forall hother hmem hne
  · exact hnot hactive
  · exact absurd (hlast other hother (hc.rows other hother).2) (not_le.2 hlt)

theorem ClaimedCandidate.table {pass : ArchiveRecoveryPass}
    (h : ClaimedCandidate c workerId claimToken timestamp verification confirmation pass c')
    (hc : VerificationTable c) : VerificationTable c' ∧ VerificationsContinue c c' := by
  obtain ⟨confirmations, -, -, -, -, hcompleted, -, -, -, hlast, -⟩ := h.candidate
  have hsettled : ¬verification.Active := by
    rintro (hqueued | hrunning)
    · cases hcompleted.symm.trans hqueued
    · cases hcompleted.symm.trans hrunning
  have hnone := hc.latest_settled h.row hsettled hlast
  obtain ⟨_, rfl⟩ := h.claimed
  exact ⟨hc.same rfl rfl (.inl hnone) fun _ _ _ => by simp, .same rfl⟩

/-- The holder of a claimed row touches it. -/
theorem VerificationTable.touched (hc : VerificationTable c) (hheld : c.work = some work)
    (hclaimed : work.status = .claimed) (hrows : c'.verifications = c.verifications)
    (hrecovery : c'.recovery = c.recovery) :
    VerificationTable c' ∧ VerificationsContinue c c' := by
  have hnone := hc.noneActive fun hmay => hmay.2 work hheld hclaimed
  refine ⟨hc.same hrows (congrArg (·.id) hrecovery) (.inl hnone) fun _ _ _ => ?_, .same hrows⟩
  rw [hrecovery]
  exact hc.claimed work hheld hclaimed

/-- A running recovery goes on to another status. -/
theorem VerificationTable.leaves (hc : VerificationTable c)
    (hrunning : c.recovery.status = .running)
    (hrows : c'.verifications = c.verifications) (hid : c'.recovery.id = c.recovery.id)
    (hclaimed : ClaimedRow c') : VerificationTable c' ∧ VerificationsContinue c c' := by
  have hnone := hc.noneActive fun hmay => by simp [MayVerify, hrunning] at hmay
  exact ⟨hc.same hrows hid (.inl hnone) hclaimed, .same hrows⟩

/-- Neither the rows nor the recovery nor its work row change. -/
theorem VerificationTable.aside (hc : VerificationTable c)
    (hrows : c'.verifications = c.verifications) (hrecovery : c'.recovery = c.recovery)
    (hwork : c'.work = c.work) : VerificationTable c' ∧ VerificationsContinue c c' := by
  refine ⟨hc.same hrows (congrArg (·.id) hrecovery) (.inr ⟨by rw [hrecovery], ?_⟩) ?_, .same hrows⟩
  · rw [MayVerify, MayVerify, hrecovery, hwork]
    exact id
  · rw [ClaimedRow, hrecovery, hwork]
    exact hc.claimed

theorem recordConfirmation_table
    (h : recordConfirmation input newId timestamp c = .ok (confirmation, c'))
    (hc : VerificationTable c) : VerificationTable c' ∧ VerificationsContinue c c' := by
  obtain ⟨confirmations, ⟨-, rfl⟩ | ⟨work, hwaiting, hwork, -, rfl⟩⟩ := recordConfirmation_ok h
  · exact hc.aside rfl rfl rfl
  · have hstatus : c.recovery.status = .waitingForDisc := hwaiting.1
    have hnone := hc.noneActive fun hmay => by simp [MayVerify, hstatus] at hmay
    refine ⟨hc.same rfl rfl (.inl hnone) fun other ho hclaimed => ?_, .same rfl⟩
    cases ho
    exact absurd (hc.claimed work hwork hclaimed) (by simp [hstatus])

theorem completeStop_table
    (h : completeStop recoveryId attemptId stopOperationId timestamp c = .ok c')
    (hc : VerificationTable c) : VerificationTable c' ∧ VerificationsContinue c c' := by
  obtain ⟨-, hactive, -, rfl⟩ := completeStop_ok h
  have hnone : NoneActive c := by
    intro verification hmem hverifies
    exact hactive ⟨verification, hmem, ⟨(hc.rows verification hmem).2,
      (hc.active verification hmem hverifies).1⟩, hverifies⟩
  refine ⟨hc.same rfl rfl (.inl hnone) fun work hw => ?_, .same rfl⟩
  cases hw

variable (sha256 : Hashed → Digest)

/-- Every transaction keeps the table, and lets every row go on. -/
theorem RecoveryOperation.run_table {op : RecoveryOperation}
    (h : op.run sha256 timestamp c = .ok (returned, c')) (hrow : RowOfAttempt c)
    (hc : VerificationTable c) : VerificationTable c' ∧ VerificationsContinue c c' := by
  cases op with
  | settlePass claim newVerificationId =>
    obtain ⟨recovery, hs⟩ := commits_snd_ok h
    exact settlePass_table hs hc
  | requestResume input attemptId resumeOperationId insertion newVerificationId =>
    exact requestResume_table (commits_ok.1 h).2 hc
  | activateWaitingResume insertion newVerificationId => exact activateWaitingResume_table h hc
  | requestStop archiveRecoveryId attemptId stopOperationId =>
    exact requestStop_table (commits_ok.1 h).2 hc
  | prepareStop archiveRecoveryId attemptId stopOperationId quiescedClaim evaluate =>
    exact prepareStop_table h hc
  | submitVerification discInspectionId checkpointRevision checkpointDigest newId =>
    exact submitVerification_table (commits_ok.1 h).2 hc
  | claimNextVerification workerExecutionId claimToken =>
    obtain ⟨claim, hnext, -⟩ := finds_ok.1 h
    exact claimNextVerification_table hnext hc
  | renewVerificationClaim claim => exact renewVerificationClaim_table (Except.ok.inj h) hc
  | completeVerification claim evaluated newId =>
    exact completeVerification_table (commits_ok.1 h).2 hc
  | failVerification claim newId => exact failVerification_table h hc
  | recoverExpiredVerifications evaluate newId =>
    exact recoverExpiredVerifications_table (commits_ok.1 h).2 hc
  | claimNextVerifiedCandidate workerId claimToken =>
    obtain ⟨claim, hnext, -⟩ := finds_ok.1 h
    obtain ⟨-, _, rfl⟩ | ⟨_, _, _, hclaimed, -⟩ := claimNextVerifiedCandidate_ok hnext
    · exact hc.aside rfl rfl rfl
    · exact hclaimed.table hc
  | beginInterruptedTakeover claim workerId claimToken =>
    obtain ⟨taken, ht, -⟩ := finds_ok.1 h
    obtain ⟨-, rfl⟩ | ⟨work, hheld, -, rfl⟩ := beginInterruptedTakeover_ok ht
    · exact hc.aside rfl rfl rfl
    · obtain ⟨hwork, -, -, hclaimed, -⟩ := heldWork_some.1 hheld
      exact hc.touched hwork hclaimed rfl rfl
  | deferInterruptedTakeover claim =>
    obtain ⟨-, rfl⟩ | ⟨work, hheld, rfl⟩ := deferInterruptedTakeover_eq (Except.ok.inj h)
    · exact hc.aside rfl rfl rfl
    · obtain ⟨hwork, -, -, hclaimed, -⟩ := heldWork_some.1 hheld
      exact hc.touched hwork hclaimed rfl rfl
  | renewClaim claim =>
    obtain ⟨-, rfl⟩ | ⟨work, hheld, rfl⟩ := renewClaim_eq (Except.ok.inj h)
    · exact hc.aside rfl rfl rfl
    · obtain ⟨hwork, -, -, hclaimed, -⟩ := heldWork_some.1 hheld
      exact hc.touched hwork hclaimed rfl rfl
  | admitSourceRead claim driveReady =>
    obtain ⟨work, confirmations, hclaim, -, rfl | rfl⟩ := admitSourceRead_ok h
    · exact hc.aside rfl rfl rfl
    · obtain ⟨hwork, -, -, hclaimed, -⟩ := requireCurrentArchiveRecoveryClaim_ok.1 hclaim
      exact hc.touched hwork hclaimed rfl rfl
  | projectDvdRecoveryCheckpoint input =>
    obtain ⟨header, hp⟩ := commits_snd_ok h
    obtain ⟨-, hclaim, ⟨rfl, -⟩ | hadvances⟩ := projectDvdRecoveryCheckpoint_ok sha256 hp
    · exact hc.aside rfl rfl rfl
    · exact hadvances.table hrow hclaim hc
  | markFault claim faultCode retainWork storageFault =>
    obtain ⟨recovery, hm⟩ := commits_snd_ok h
    obtain ⟨work, -, rfl | ⟨hrunning, -, rfl⟩⟩ := markFault_ok hm
    · exact hc.aside rfl rfl rfl
    · refine hc.leaves hrunning rfl rfl fun _ _ _ => ?_
      cases storageFault <;> simp [ArchiveRecovery.faultedWith]
  | releaseAfterReconciliation attemptId =>
    obtain ⟨recovery, hr⟩ := commits_snd_ok h
    obtain ⟨-, rfl | ⟨-, -, rfl⟩ | ⟨settlement, hinterrupted⟩⟩ := releaseAfterReconciliation_ok hr
    · exact hc.aside rfl rfl rfl
    · refine ⟨hc.same rfl rfl (.inr ⟨rfl, fun hmay => ⟨hmay.1, ?_⟩⟩) ?_, .same rfl⟩
      · intro work hw
        cases hw
      · intro work hw
        cases hw
    · obtain ⟨hrunning, -, -, rfl, -⟩ := hinterrupted
      refine hc.leaves hrunning rfl rfl fun work hw => ?_
      cases hw
  | requeue claim =>
    obtain ⟨recovery, hr⟩ := commits_snd_ok h
    obtain ⟨work, -, rfl | ⟨settlement, hinterrupted⟩⟩ := requeue_ok hr
    · exact hc.aside rfl rfl rfl
    · obtain ⟨hrunning, -, -, rfl, -⟩ := hinterrupted
      refine hc.leaves hrunning rfl rfl fun row hr hclaimed => ?_
      change row ∈ (if settlement.1 = .completed then none else some
        (work.requeued timestamp)) at hr
      split at hr
      · cases hr
      · cases hr
        cases hclaimed
  | completeStop archiveRecoveryId attemptId stopOperationId =>
    exact completeStop_table (commits_ok.1 h).2 hc
  | deferStop archiveRecoveryId attemptId stopOperationId latestStopping =>
    obtain ⟨-, updatedAt, -, rfl⟩ := deferStop_ok (commits_ok.1 h).2
    exact ⟨hc.same rfl rfl (.inr ⟨rfl, id⟩) hc.claimed, .same rfl⟩
  | markStopFault archiveRecoveryId attemptId stopOperationId faultCode =>
    obtain ⟨-, -, rfl⟩ := markStopFault_ok (commits_ok.1 h).2
    refine ⟨hc.same rfl rfl (.inr ⟨rfl, fun hmay => ⟨by simp, hmay.2⟩⟩) ?_, .same rfl⟩
    intro _ _ _
    simp
  | recordConfirmation input newId =>
    obtain ⟨confirmation, hr⟩ := commits_snd_ok h
    exact recordConfirmation_table hr hc
  | expireConfirmation id =>
    cases h
    exact hc.aside rfl rfl rfl
  | expireForWorkerExecution workerExecutionId confirmationId =>
    obtain ⟨_, rfl⟩ := expireInvalidDvdDiscConfirmations_ok (commits_ok.1 h).2
    exact hc.aside rfl rfl rfl
  | submitReconciliation =>
    obtain ⟨_, rfl⟩ := submitReconciliation_ok (commits_ok.1 h).2
    exact hc.aside rfl rfl rfl
  | recoverExpiredReconciliations =>
    cases h
    exact hc.aside rfl rfl rfl
  | claimNextReconciliation workerExecutionId claimToken =>
    obtain ⟨claim, hnext, -⟩ := finds_ok.1 h
    obtain ⟨_, rfl⟩ := claimNextReconciliation_ok hnext
    exact hc.aside rfl rfl rfl
  | renewReconciliation claim =>
    cases h
    exact hc.aside rfl rfl rfl
  | requeueReconciliation claim =>
    cases h
    exact hc.aside rfl rfl rfl
  | completeReconciliation claim converged =>
    obtain ⟨_, rfl⟩ := completeReconciliation_ok (commits_ok.1 h).2
    exact hc.aside rfl rfl rfl
  | failReconciliation claim =>
    cases h
    exact hc.aside rfl rfl rfl
  | surroundings next =>
    cases h
    exact hc.aside rfl rfl rfl

theorem JustPublished.table (h : JustPublished c) : VerificationTable c := by
  obtain ⟨hnone, -, -⟩ := h.verifications
  refine ⟨?_, ?_, ?_, fun work hw => ?_⟩
  · simp [hnone]
  · rw [hnone]
    exact .nil
  · simp [hnone]
  · rw [h.work] at hw
    cases hw

/-- What a recovery keeps about its rows in every run. -/
def RecoverySystem.KeepsTable (s : RecoverySystem) : Prop :=
  Stored s.catalog ∧ VerificationTable s.catalog

theorem RecoverySystem.Step.table {s s' : RecoverySystem} (h : s.Step sha256 op s')
    (hs : s.KeepsTable) : s'.KeepsTable ∧ VerificationsContinue s.catalog s'.catalog := by
  obtain ⟨-, -, timestamp, returned, hop⟩ := (RecoverySystem.step_iff sha256).1 h
  obtain ⟨htable, hcontinue⟩ := RecoveryOperation.run_table sha256 hop hs.1.attempt hs.2
  exact ⟨⟨(RecoveryOperation.run_effect sha256 hop).stored hs.1, htable⟩, hcontinue⟩

theorem RecoverySystem.run_continue {s s' : RecoverySystem}
    (hrun : Run (RecoverySystem.Step sha256) s ops s') (hs : s.KeepsTable) :
    s'.KeepsTable ∧ VerificationsContinue s.catalog s'.catalog := by
  induction hrun with
  | nil s => exact ⟨hs, .same rfl⟩
  | cons h _ ih =>
    obtain ⟨hnext, hcontinue⟩ := RecoverySystem.Step.table sha256 h hs
    obtain ⟨hlast, hrest⟩ := ih hnext
    exact ⟨hlast, hcontinue.trans hrest⟩

theorem RecoverySystem.Initial.keepsTable {s : RecoverySystem} (h : s.Initial) : s.KeepsTable :=
  ⟨h.1.stored, h.1.table⟩

/-- In every state of every run the verifications pass the checks of their table, their ordinals
ascend, and at most the last is active, which never happens beside a pass. -/
theorem verificationTable_kept {s₀ s : RecoverySystem} (hstart : s₀.Initial)
    (hrun : Run (RecoverySystem.Step sha256) s₀ ops s) : VerificationTable s.catalog :=
  (RecoverySystem.run_continue sha256 hrun hstart.keepsTable).1.2

theorem verificationTable_kept_claimed : ∃ s, Run (RecoverySystem.Step sampleSha256)
    publishedSystem (firstClaimRun.map Prod.snd) s ∧ VerificationTable s.catalog := by
  have hclaimed : (publishedSystem.performAll sampleSha256 firstClaimRun).isSome = true := by
    decide +kernel
  obtain ⟨s, hs⟩ := Option.isSome_iff_exists.1 hclaimed
  have hrun := RecoverySystem.run_of_performAll sampleSha256 hs
  exact ⟨s, hrun, verificationTable_kept sampleSha256 publishedSystem_initial hrun⟩

/-- A verification stays in its place for good: made for the same, never set back, and as it is
once it has settled. -/
theorem verifications_final {s₀ s s' : RecoverySystem} (hstart : s₀.Initial)
    (hbefore : Run (RecoverySystem.Step sha256) s₀ before s)
    (hafter : Run (RecoverySystem.Step sha256) s after s') :
    VerificationsContinue s.catalog s'.catalog := by
  obtain ⟨hkept, -⟩ := RecoverySystem.run_continue sha256 hbefore hstart.keepsTable
  exact (RecoverySystem.run_continue sha256 hafter hkept).2

theorem RecoverySystem.runs_of_performAll {s₀ : RecoverySystem}
    (h : ((s₀.performAll sha256 before).bind fun s => s.performAll sha256 after).isSome = true) :
    ∃ s s', Run (RecoverySystem.Step sha256) s₀ (before.map Prod.snd) s ∧
      Run (RecoverySystem.Step sha256) s (after.map Prod.snd) s' := by
  obtain ⟨s', hs'⟩ := Option.isSome_iff_exists.1 h
  obtain ⟨s, hs, hrest⟩ := Option.bind_eq_some_iff.1 hs'
  exact ⟨s, s', RecoverySystem.run_of_performAll sha256 hs,
    RecoverySystem.run_of_performAll sha256 hrest⟩

theorem verifications_final_claimed : ∃ s s',
    Run (RecoverySystem.Step sampleSha256) publishedSystem ((firstClaimRun.take 2).map Prod.snd) s ∧
      Run (RecoverySystem.Step sampleSha256) s ((firstClaimRun.drop 2).map Prod.snd) s' ∧
      VerificationsContinue s.catalog s'.catalog := by
  have hclaimed : ((publishedSystem.performAll sampleSha256 (firstClaimRun.take 2)).bind
      fun s => s.performAll sampleSha256 (firstClaimRun.drop 2)).isSome = true := by
    decide +kernel
  obtain ⟨s, s', hbefore, hafter⟩ := RecoverySystem.runs_of_performAll sampleSha256 hclaimed
  exact ⟨s, s', hbefore, hafter,
    verifications_final sampleSha256 publishedSystem_initial hbefore hafter⟩

end RipDvd
