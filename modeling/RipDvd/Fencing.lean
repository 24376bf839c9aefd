import RipDvd.Lifecycle

namespace RipDvd
set_option autoImplicit true

/-- The work row is of the recovery's current attempt. -/
def RowOfAttempt (c : Catalog) : Prop :=
  ∀ work ∈ c.work, work.archiveRecoveryId = c.recovery.id ∧
    work.originalDiscArchiveId = c.recovery.originalDiscArchiveId ∧
    work.attemptId = c.recovery.attemptId

/-- No claim is taken and no attempt begins. -/
structure Retains (c c' : Catalog) : Prop where
  recovery : c'.recovery.id = c.recovery.id ∧ c'.recovery.attemptId = c.recovery.attemptId
  row : RowOfAttempt c → RowOfAttempt c'
  token : ∀ work' ∈ c'.work, ∀ token ∈ work'.claimToken, ∃ work ∈ c.work,
    work.claimToken = some token ∧ work.claimedBy = work'.claimedBy

theorem Retains.refl (c : Catalog) : Retains c c :=
  ⟨⟨rfl, rfl⟩, id, fun work hw _ ht => ⟨work, hw, ht, rfl⟩⟩

theorem Retains.trans (h : Retains a b) (h' : Retains b c) : Retains a c := by
  refine ⟨⟨h'.recovery.1.trans h.recovery.1, h'.recovery.2.trans h.recovery.2⟩,
    fun ha => h'.row (h.row ha), fun work'' hw'' token ht => ?_⟩
  obtain ⟨work', hw', ht', hb'⟩ := h'.token work'' hw'' token ht
  obtain ⟨work, hw, ht, hb⟩ := h.token work' hw' token ht'
  exact ⟨work, hw, ht, hb.trans hb'⟩

/-- A row with the same identity and claim, under the same recovery and attempt. -/
theorem Retains.of_row (hid : c'.recovery.id = c.recovery.id)
    (harchive : c'.recovery.originalDiscArchiveId = c.recovery.originalDiscArchiveId)
    (hattempt : c'.recovery.attemptId = c.recovery.attemptId) (hwork : c.work = some work)
    (hwork' : c'.work = some work')
    (hrow : work'.archiveRecoveryId = work.archiveRecoveryId ∧
      work'.originalDiscArchiveId = work.originalDiscArchiveId ∧ work'.attemptId = work.attemptId)
    (htoken : work'.claimToken = none ∨
      work'.claimToken = work.claimToken ∧ work'.claimedBy = work.claimedBy) : Retains c c' := by
  refine ⟨⟨hid, hattempt⟩, fun h row hr => ?_, fun row hr token ht => ?_⟩
  · cases hwork'.symm.trans hr
    obtain ⟨hi, ho, ha⟩ := h work hwork
    obtain ⟨hri, hro, hra⟩ := hrow
    exact ⟨hri.trans (hi.trans hid.symm), hro.trans (ho.trans harchive.symm),
      hra.trans (ha.trans hattempt.symm)⟩
  · cases hwork'.symm.trans hr
    rcases htoken with hn | ⟨hs, hb⟩
    · cases hn.symm.trans ht
    · exact ⟨work, hwork, hs.symm.trans ht, hb.symm⟩

theorem Retains.of_none (hid : c'.recovery.id = c.recovery.id)
    (hattempt : c'.recovery.attemptId = c.recovery.attemptId) (hwork' : c'.work = none) :
    Retains c c' := by
  refine ⟨⟨hid, hattempt⟩, fun _ row hr => ?_, fun row hr => ?_⟩
  all_goals cases hwork'.symm.trans hr

theorem Retains.of_same (hid : c'.recovery.id = c.recovery.id)
    (harchive : c'.recovery.originalDiscArchiveId = c.recovery.originalDiscArchiveId)
    (hattempt : c'.recovery.attemptId = c.recovery.attemptId) (hwork' : c'.work = c.work) :
    Retains c c' := by
  cases hwork : c.work with
  | none => exact .of_none hid hattempt (hwork'.trans hwork)
  | some work =>
    exact .of_row hid harchive hattempt hwork (hwork'.trans hwork) ⟨rfl, rfl, rfl⟩
      (.inr ⟨rfl, rfl⟩)

theorem Continuation.retains (h : Continuation c timestamp c') : Retains c c' := by
  cases h with
  | unchanged => exact .refl _
  | queued => exact .of_same rfl rfl rfl rfl
  | rebound _ _ work hwork => exact .of_row rfl rfl rfl hwork rfl ⟨rfl, rfl, rfl⟩ (.inr ⟨rfl, rfl⟩)
  | unmatched => exact .of_same rfl rfl rfl rfl
  | faulted => exact .of_same rfl rfl rfl rfl

theorem VerificationSettles.retains (h : VerificationSettles c timestamp c') : Retains c c' := by
  obtain ⟨row, -, hc⟩ := h
  have hrow : Retains c (c.updateVerification row) := .of_same rfl rfl rfl rfl
  exact hrow.trans hc.retains

theorem retains_of_settles
    (h : Relation.ReflTransGen (fun d d' => VerificationSettles d timestamp d') c c') :
    Retains c c' := by
  induction h with
  | refl => exact .refl _
  | tail _ hs ih => exact ih.trans hs.retains

theorem PassInterrupted.retains (h : PassInterrupted c timestamp settlement row c')
    (hrow : row = none ∨ ∃ work, c.work = some work ∧ row = some (work.requeued timestamp)) :
    Retains c c' := by
  obtain ⟨-, -, -, rfl, -⟩ := h
  rcases hrow with rfl | ⟨work, hwork, rfl⟩
  · exact .of_none rfl rfl rfl
  · exact .of_row rfl rfl rfl hwork rfl ⟨rfl, rfl, rfl⟩ (.inl rfl)

theorem PassSettled.retains (h : PassSettled c work timestamp settlement c')
    (hwork : c.work = some work) : Retains c c' := by
  obtain ⟨row, verifications, hrows, rfl⟩ := h.rows
  generalize settlement.outcome = outcome at hrows
  cases hrows with
  | completed => exact .of_none rfl rfl rfl
  | productive => exact .of_row rfl rfl rfl hwork rfl ⟨rfl, rfl, rfl⟩ (.inl rfl)
  | noProgress => exact .of_row rfl rfl rfl hwork rfl ⟨rfl, rfl, rfl⟩ (.inl rfl)

theorem projectWork_row (h : projectWork input c timestamp = .ok work') :
    work' = c.work ∨ ∃ claimed pass, c.work = some claimed ∧ claimed.status = .claimed ∧
      work' = some { claimed with toArchiveRecoveryPass := pass, updatedAt := timestamp } := by
  rw [projectWork] at h
  split at h
  · exact .inl (Except.ok.inj h).symm
  · next claimed hclaimed =>
    obtain ⟨hwork, hfilter⟩ := Option.filter_eq_some_iff.1 hclaimed
    rw [decide_eq_true_eq] at hfilter
    obtain ⟨next, hadvance, rfl⟩ := map_ok.1 h
    obtain ⟨pass, rfl⟩ := advancePass_row hadvance
    exact .inr ⟨claimed, pass, hwork, hfilter.2.2.1, rfl⟩

theorem Advances.retains (h : Advances input c c') : Retains c c' := by
  obtain ⟨timestamp, _, _, work, hwork, rfl, -⟩ := h.written
  rcases projectWork_row hwork with rfl | ⟨claimed, pass, hclaimed, -, rfl⟩
  · exact .of_same rfl rfl rfl rfl
  · exact .of_row rfl rfl rfl hclaimed rfl ⟨rfl, rfl, rfl⟩ (.inr ⟨rfl, rfl⟩)

theorem Activated.retains (h : Activated c newId timestamp c') : Retains c c' := by
  obtain ⟨work, row, hwork, -, rfl⟩ := h.rows
  exact .of_row rfl rfl rfl hwork rfl ⟨rfl, rfl, rfl⟩ (.inr ⟨rfl, rfl⟩)

/-- The transactions that may take a claim. -/
def RecoveryOperation.takesClaim : RecoveryOperation → Bool
  | .claimNextVerifiedCandidate .. => true
  | .beginInterruptedTakeover .. => true
  | _ => false

/-- A transaction takes a claim, begins an attempt, or does neither. -/
theorem RecoveryOperation.Effect.cases_claim {op : RecoveryOperation}
    (h : op.Effect timestamp c c') :
    Retains c c' ∨
    (∃ token work', op.issues = [token] ∧ c'.work = some work' ∧ work'.claimToken = some token ∧
      c'.recovery.id = c.recovery.id ∧ c'.recovery.attemptId = c.recovery.attemptId ∧
      (RowOfAttempt c → RowOfAttempt c') ∧ op.takesClaim = true) ∨
    (op.issues = [c'.recovery.attemptId] ∧ RowOfAttempt c' ∧
      ∀ work' ∈ c'.work, work'.claimToken = none) := by
  cases h with
  | aside op h =>
    exact .inl (.of_same (by rw [h.recovery]) (by rw [h.recovery]) (by rw [h.recovery]) h.work)
  | touched op h =>
    obtain ⟨work, _, _, _, hwork, -, rfl⟩ := h.row
    exact .inl (.of_row rfl rfl rfl hwork rfl ⟨rfl, rfl, rfl⟩ (.inr ⟨rfl, rfl⟩))
  | claimed h =>
    obtain ⟨_, rfl⟩ := h.claimed
    refine .inr (.inl ⟨_, _, rfl, rfl, rfl, rfl, rfl, fun _ row hr => ?_, rfl⟩)
    cases hr
    exact ⟨rfl, rfl, rfl⟩
  | takenOver work hheld _ he =>
    subst he
    obtain ⟨hwork, -⟩ := heldWork_some.1 hheld
    refine .inr (.inl ⟨_, _, rfl, rfl, rfl, rfl, rfl, fun hc row hr => ?_, rfl⟩)
    cases hr
    exact hc work hwork
  | projected _ h => exact .inl h.retains
  | settled hclaim h =>
    exact .inl (h.retains (requireCurrentArchiveRecoveryClaim_ok.1 hclaim).1)
  | @faulted _ _ _ _ retainWork hclaim _ _ he =>
    subst he
    cases retainWork with
    | true => exact .inl (.of_same rfl rfl rfl rfl)
    | false => exact .inl (.of_none rfl rfl rfl)
  | released _ _ he =>
    subst he
    exact .inl (.of_none rfl rfl rfl)
  | abandoned h => exact .inl (h.retains (.inl rfl))
  | requeued hclaim h =>
    refine .inl (h.retains ?_)
    split
    · exact .inl rfl
    · exact .inr ⟨_, (requireCurrentArchiveRecoveryClaim_ok.1 hclaim).1, rfl⟩
  | resumed h =>
    refine .inr (.inr ?_)
    rcases h.result with rfl | ha
    · refine ⟨rfl, fun row hr => ?_, fun row hr => ?_⟩
      · cases hr
        exact ⟨rfl, rfl, rfl⟩
      · cases hr
        rfl
    · obtain ⟨work, _, hwork, -, rfl⟩ := ha.rows
      cases hwork
      refine ⟨rfl, fun row hr => ?_, fun row hr => ?_⟩
      · cases hr
        exact ⟨rfl, rfl, rfl⟩
      · cases hr
        rfl
  | activated h => exact .inl h.retains
  | stopping _ _ _ work _ hwork he =>
    subst he
    rcases hwork with hwork | ⟨hnone, rfl⟩
    · exact .inl (.of_row rfl rfl rfl hwork rfl ⟨rfl, rfl, rfl⟩ (.inr ⟨rfl, rfl⟩))
    · refine .inl ⟨⟨rfl, rfl⟩, fun _ row hr => ?_, fun row hr token ht => ?_⟩
      · cases hr
        exact ⟨rfl, rfl, rfl⟩
      · cases hr
        cases ht
  | stopped _ _ _ he =>
    subst he
    exact .inl (.of_none rfl rfl rfl)
  | stopDeferred _ _ he =>
    subst he
    exact .inl (.of_same rfl rfl rfl rfl)
  | stopFaulted _ _ he =>
    subst he
    exact .inl (.of_same rfl rfl rfl rfl)
  | confirmed work _ _ _ hwork _ he =>
    subst he
    exact .inl (.of_row rfl rfl rfl hwork rfl ⟨rfl, rfl, rfl⟩ (.inr ⟨rfl, rfl⟩))
  | verified op h => exact .inl (retains_of_settles h)

variable (sha256 : Hashed → Digest)

/-- The claim a transaction is presented with. -/
def RecoveryOperation.claim : RecoveryOperation → Option ClaimedArchiveRecoveryWork
  | .beginInterruptedTakeover claim _ _ => some claim
  | .deferInterruptedTakeover claim => some claim
  | .renewClaim claim => some claim
  | .admitSourceRead claim _ => some claim
  | .projectDvdRecoveryCheckpoint input => input.claim
  | .settlePass claim _ => some claim
  | .markFault claim _ _ _ => some claim
  | .requeue claim => some claim
  | _ => none

/-- The attempt a transaction is presented with in place of a claim. -/
def RecoveryOperation.attempt : RecoveryOperation → Option String
  | .releaseAfterReconciliation attemptId => some attemptId
  | .requestResume input _ _ _ _ => some input.attemptId
  | .requestStop _ attemptId _ => some attemptId
  | .prepareStop _ attemptId _ _ _ => some attemptId
  | .completeStop _ attemptId _ => some attemptId
  | .deferStop _ attemptId _ _ => some attemptId
  | .markStopFault _ attemptId _ _ => some attemptId
  | _ => none

/-- The token of the claim is not the row's any more, or its attempt not the recovery's. -/
def Superseded (c : Catalog) (claim : ClaimedArchiveRecoveryWork) : Prop :=
  c.recovery.attemptId ≠ claim.attemptId ∨
    ∀ work ∈ c.work, work.claimToken ≠ some claim.claimToken

instance (c : Catalog) (claim : ClaimedArchiveRecoveryWork) : Decidable (Superseded c claim) :=
  inferInstanceAs (Decidable (_ ∨ _))

theorem Superseded.requireCurrent (h : Superseded c claim) :
    requireCurrentArchiveRecoveryClaim c claim ≠ .ok work := by
  intro hclaim
  obtain ⟨hwork, -, -, -, htoken, -, -, hattempt⟩ := requireCurrentArchiveRecoveryClaim_ok.1 hclaim
  rcases h with ha | ht
  · exact ha hattempt
  · exact ht work hwork htoken

theorem Superseded.heldWork (h : Superseded c claim) (hrow : RowOfAttempt c) :
    heldWork c claim = none := by
  apply Option.eq_none_iff_forall_ne_some.2
  intro work hheld
  obtain ⟨hwork, -, hattempt, -, htoken⟩ := heldWork_some.1 hheld
  rcases h with ha | ht
  · exact ha ((hrow work hwork).2.2.symm.trans hattempt)
  · exact ht work hwork htoken

/-- The transaction was refused and changed nothing. -/
def Refused (c : Catalog) (result : Except DomainError (Bool × Catalog)) : Prop :=
  result = .ok (false, c) ∨ ∃ error, result = .error error

theorem Refused.of_ne_ok (h : ∀ r, result ≠ .ok r) : Refused c result := by
  cases result with
  | error error => exact .inr ⟨error, rfl⟩
  | ok r => exact absurd rfl (h r)

/-- Whatever is presented with a superseded claim is refused. -/
theorem Superseded.refused {op : RecoveryOperation} (h : Superseded c claim)
    (hrow : RowOfAttempt c) (hop : op.claim = some claim) (timestamp : Nat) :
    Refused c (op.run sha256 timestamp c) := by
  have hheld := h.heldWork hrow
  cases op with
  | beginInterruptedTakeover held workerId claimToken =>
    cases hop
    simp only [RecoveryOperation.run, RipDvd.beginInterruptedTakeover, hheld]
    cases requireNonEmpty workerId "workerId" with
    | error error => exact .inr ⟨error, rfl⟩
    | ok claimedBy => exact .inl rfl
  | deferInterruptedTakeover held =>
    cases hop
    exact .inl (by rw [RecoveryOperation.run, RipDvd.deferInterruptedTakeover, hheld])
  | renewClaim held =>
    cases hop
    exact .inl (by rw [RecoveryOperation.run, RipDvd.renewClaim, hheld])
  | admitSourceRead held driveReady =>
    cases hop
    refine .of_ne_ok fun r hr => ?_
    obtain ⟨work, -, hclaim, -⟩ := admitSourceRead_ok hr
    exact h.requireCurrent hclaim
  | projectDvdRecoveryCheckpoint input =>
    refine .of_ne_ok fun r hr => ?_
    obtain ⟨header, hp⟩ := commits_snd_ok hr
    obtain ⟨work, hclaim⟩ := (projectDvdRecoveryCheckpoint_ok sha256 hp).2.1 claim hop
    exact h.requireCurrent hclaim
  | settlePass held newVerificationId =>
    cases hop
    refine .of_ne_ok fun r hr => ?_
    obtain ⟨recovery, hs⟩ := commits_snd_ok hr
    obtain ⟨work, hclaim, -⟩ := settlePass_ok hs
    exact h.requireCurrent hclaim
  | markFault held faultCode retainWork storageFault =>
    cases hop
    refine .of_ne_ok fun r hr => ?_
    obtain ⟨recovery, hm⟩ := commits_snd_ok hr
    obtain ⟨work, hclaim, -⟩ := markFault_ok hm
    exact h.requireCurrent hclaim
  | requeue held =>
    cases hop
    refine .of_ne_ok fun r hr => ?_
    obtain ⟨recovery, hq⟩ := commits_snd_ok hr
    obtain ⟨work, hclaim, -⟩ := requeue_ok hq
    exact h.requireCurrent hclaim
  | _ => cases hop

/-- Whatever is presented with another attempt than the recovery's fails. -/
theorem attempt_of_run {op : RecoveryOperation}
    (h : op.run sha256 timestamp c = .ok (returned, c')) (hop : op.attempt = some attemptId) :
    c.recovery.attemptId = attemptId := by
  cases op with
  | releaseAfterReconciliation attempt =>
    cases hop
    obtain ⟨recovery, hr⟩ := commits_snd_ok h
    exact (releaseAfterReconciliation_ok hr).1
  | requestResume input attempt resumeOperationId insertion newVerificationId =>
    cases hop
    exact (requestResume_ok (commits_ok.1 h).2).attempt
  | requestStop archiveRecoveryId attempt stopOperationId =>
    cases hop
    exact (requestStop_ok (commits_ok.1 h).2).1
  | prepareStop archiveRecoveryId attempt stopOperationId quiescedClaim evaluate =>
    cases hop
    exact (prepareStop_ok h).1.1
  | completeStop archiveRecoveryId attempt stopOperationId =>
    cases hop
    exact (completeStop_ok (commits_ok.1 h).2).1.1
  | deferStop archiveRecoveryId attempt stopOperationId latestStopping =>
    cases hop
    exact (deferStop_ok (commits_ok.1 h).2).1.1
  | markStopFault archiveRecoveryId attempt stopOperationId faultCode =>
    cases hop
    exact (markStopFault_ok (commits_ok.1 h).2).1.1
  | _ => cases hop

/-- The identifiers in the row and the recovery have been generated. -/
structure Issued (s : RecoverySystem) : Prop where
  row : RowOfAttempt s.catalog
  attempt : s.catalog.recovery.attemptId ∈ s.issued
  token : ∀ work ∈ s.catalog.work, ∀ token ∈ work.claimToken, token ∈ s.issued

theorem RecoverySystem.Initial.issued (h : RecoverySystem.Initial s) : Issued s := by
  obtain ⟨hpublished, hissued⟩ := h
  refine ⟨fun work hw => ?_, by simp [hissued], fun work hw => ?_⟩
  all_goals cases hpublished.work.symm.trans hw

theorem Issued.step (h : Issued s) (hstep : RecoverySystem.Step sha256 s op s') : Issued s' := by
  obtain ⟨-, hissued, timestamp, returned, hrun⟩ := (RecoverySystem.step_iff sha256).1 hstep
  have hold : ∀ newId ∈ s.issued, newId ∈ s'.issued := fun newId hm =>
    hissued ▸ List.mem_append_right _ hm
  have hnew : ∀ newId ∈ op.issues, newId ∈ s'.issued := fun newId hm =>
    hissued ▸ List.mem_append_left _ hm
  rcases (RecoveryOperation.run_effect sha256 hrun).cases_claim with hc | ⟨token, work', hissues,
    hwork', htoken, -, hattempt, hrow, -⟩ | ⟨hissues, hrow, hnone⟩
  · refine ⟨hc.row h.row, ?_, fun work' hw token ht => ?_⟩
    · exact hc.recovery.2 ▸ hold _ h.attempt
    · obtain ⟨work, hwork, htoken, -⟩ := hc.token work' hw token ht
      exact hold _ (h.token work hwork token htoken)
  · refine ⟨hrow h.row, hattempt ▸ hold _ h.attempt, fun row hr found hf => ?_⟩
    cases hwork'.symm.trans hr
    cases htoken.symm.trans hf
    exact hnew _ (hissues ▸ List.mem_singleton_self _)
  · refine ⟨hrow, hnew _ (hissues ▸ List.mem_singleton_self _), fun work' hw token ht => ?_⟩
    cases (hnone work' hw).symm.trans ht

theorem issued_step (h : RecoverySystem.Step sha256 s op s') (hm : newId ∈ s.issued) :
    newId ∈ s'.issued :=
  ((RecoverySystem.step_iff sha256).1 h).2.1 ▸ List.mem_append_right _ hm

/-- An attempt that is over does not come back. -/
theorem attempt_ne_step (h : s.catalog.recovery.attemptId ≠ attemptId)
    (hattempt : attemptId ∈ s.issued) (hstep : RecoverySystem.Step sha256 s op s') :
    s'.catalog.recovery.attemptId ≠ attemptId := by
  obtain ⟨hfresh, -, timestamp, returned, hrun⟩ := (RecoverySystem.step_iff sha256).1 hstep
  rcases (RecoveryOperation.run_effect sha256 hrun).cases_claim with
    hc | ⟨-, -, -, -, -, -, ha, -⟩ | ⟨hissues, -, -⟩
  · rwa [hc.recovery.2]
  · rwa [ha]
  · intro he
    exact hfresh _ (hissues ▸ List.mem_singleton_self _) (he ▸ hattempt)

/-- A superseded claim whose identifiers have been generated stays superseded. -/
theorem Superseded.step (h : Superseded s.catalog claim) (htoken : claim.claimToken ∈ s.issued)
    (hattempt : claim.attemptId ∈ s.issued) (hstep : RecoverySystem.Step sha256 s op s') :
    Superseded s'.catalog claim := by
  rcases h with hne | hrow
  · exact .inl (attempt_ne_step sha256 hne hattempt hstep)
  · obtain ⟨hfresh, -, timestamp, returned, hrun⟩ := (RecoverySystem.step_iff sha256).1 hstep
    refine .inr fun work' hw he => ?_
    rcases (RecoveryOperation.run_effect sha256 hrun).cases_claim with hc | ⟨token, row, hissues,
      hnew, ht, -⟩ | ⟨-, -, hnone⟩
    · obtain ⟨work, hwork, hsame, -⟩ := hc.token work' hw _ he
      exact hrow work hwork hsame
    · cases hnew.symm.trans hw
      cases ht.symm.trans he
      exact hfresh _ (hissues ▸ List.mem_singleton_self _) htoken
    · cases (hnone work' hw).symm.trans he

/-- A token that a row has not had before was generated in between. -/
theorem token_of_run (hr : Run (RecoverySystem.Step sha256) s ops s')
    (hwork' : s'.catalog.work = some work') (htoken : work'.claimToken = some token) :
    (∃ work, s.catalog.work = some work ∧ work.claimToken = some token ∧
        work.claimedBy = work'.claimedBy) ∨ ∃ op ∈ ops, token ∈ op.issues := by
  let Held (r : RecoverySystem) := ∃ work, r.catalog.work = some work ∧
    work.claimToken = some token ∧ work.claimedBy = work'.claimedBy
  by_cases hheld : Held s
  · exact .inl hheld
  · obtain ⟨r, op, r', hstep, hop, hnot, work, hwork, ht, hby⟩ :=
      hr.enters (Q := Held) ⟨work', hwork', htoken, rfl⟩ hheld
    refine .inr ⟨op, hop, ?_⟩
    obtain ⟨-, -, timestamp, returned, hrun⟩ := (RecoverySystem.step_iff sha256).1 hstep
    rcases (RecoveryOperation.run_effect sha256 hrun).cases_claim with hc | ⟨other, row, hissues,
      hrow, hother, -⟩ | ⟨-, -, hnone⟩
    · obtain ⟨before, hbefore, htb, hbb⟩ := hc.token work hwork token ht
      exact absurd ⟨before, hbefore, htb, hbb.trans hby⟩ hnot
    · cases hrow.symm.trans hwork
      cases hother.symm.trans ht
      rw [hissues]
      exact List.mem_singleton_self _
    · cases (hnone work hwork).symm.trans ht

/-- The claim that a projection has checked is the one in the row. -/
theorem claim_of_projection
    (h : (RecoveryOperation.projectDvdRecoveryCheckpoint input).run sha256 timestamp c =
      .ok (returned, c')) (hclaim : input.claim = some claim) :
    ∃ work, requireCurrentArchiveRecoveryClaim c claim = .ok work := by
  obtain ⟨header, hp⟩ := commits_snd_ok h
  exact (projectDvdRecoveryCheckpoint_ok sha256 hp).2.1 claim hclaim

/-- Whatever is presented with the claim is refused, at any time. -/
def ClaimRefused (c : Catalog) (claim : ClaimedArchiveRecoveryWork) : Prop :=
  ∀ (op : RecoveryOperation) (timestamp : Nat), op.claim = some claim →
    Refused c (op.run sha256 timestamp c)

/-- Whatever is presented with the attempt fails, at any time. -/
def AttemptRefused (c : Catalog) (attemptId : String) : Prop :=
  ∀ (op : RecoveryOperation) (timestamp : Nat), op.attempt = some attemptId →
    ∃ error, op.run sha256 timestamp c = .error error

theorem attemptRefused_of_ne (h : c.recovery.attemptId ≠ attemptId) :
    AttemptRefused sha256 c attemptId := by
  intro op timestamp hop
  cases hrun : op.run sha256 timestamp c with
  | error error => exact ⟨error, rfl⟩
  | ok r => exact absurd (attempt_of_run sha256 hrun hop) h

/-- A superseded claim is refused in every later state, and so is its attempt once another one has
begun; until another claim is made, only the holder of the current one projects with a claim. -/
theorem superseded_claim_refused (hstart : RecoverySystem.Initial s₀)
    (hfirst : Run (RecoverySystem.Step sha256) s₀ ops₀ s₁)
    (hheld : requireCurrentArchiveRecoveryClaim s₁.catalog claim = .ok work) :
    (∀ ops₁ s₂ ops₂ s₃, Run (RecoverySystem.Step sha256) s₁ ops₁ s₂ →
      Superseded s₂.catalog claim → Run (RecoverySystem.Step sha256) s₂ ops₂ s₃ →
        ClaimRefused sha256 s₃.catalog claim ∧
        (s₂.catalog.recovery.attemptId ≠ claim.attemptId →
          AttemptRefused sha256 s₃.catalog claim.attemptId)) ∧
    ∀ ops s input held timestamp r, Run (RecoverySystem.Step sha256) s₁ ops s →
      input.claim = some held →
      (RecoveryOperation.projectDvdRecoveryCheckpoint input).run sha256 timestamp
        s.catalog = .ok r →
      held.claimToken = claim.claimToken ∧ held.claimedBy = claim.claimedBy ∨
        ∃ op ∈ ops, held.claimToken ∈ op.issues := by
  have hissued : Issued s₁ := hfirst.inv (fun _ _ _ hi hs => hi.step sha256 hs) hstart.issued
  obtain ⟨hwork, -, -, -, htoken, hby, -, hattempt⟩ :=
    requireCurrentArchiveRecoveryClaim_ok.1 hheld
  constructor
  · intro ops₁ s₂ ops₂ s₃ h₁ hsuper h₂
    obtain ⟨hissued₂, htoken₂, hattempt₂⟩ : Issued s₂ ∧ claim.claimToken ∈ s₂.issued ∧
        claim.attemptId ∈ s₂.issued := by
      refine h₁.inv (I := fun s => Issued s ∧ claim.claimToken ∈ s.issued ∧
        claim.attemptId ∈ s.issued) (fun s op s' ⟨hi, ht, ha⟩ hs =>
          ⟨hi.step sha256 hs, issued_step sha256 hs ht, issued_step sha256 hs ha⟩) ?_
      exact ⟨hissued, hissued.token work hwork _ htoken, hattempt ▸ hissued.attempt⟩
    obtain ⟨hissued₃, hsuper₃, -⟩ : Issued s₃ ∧ Superseded s₃.catalog claim ∧
        claim.claimToken ∈ s₃.issued ∧ claim.attemptId ∈ s₃.issued := by
      refine h₂.inv (I := fun s => Issued s ∧ Superseded s.catalog claim ∧
        claim.claimToken ∈ s.issued ∧ claim.attemptId ∈ s.issued)
        (fun s op s' ⟨hi, hsup, ht, ha⟩ hs => ⟨hi.step sha256 hs, hsup.step sha256 ht ha hs,
          issued_step sha256 hs ht, issued_step sha256 hs ha⟩) ?_
      exact ⟨hissued₂, hsuper, htoken₂, hattempt₂⟩
    refine ⟨fun op timestamp hop => hsuper₃.refused sha256 hissued₃.row hop timestamp,
      fun hne => ?_⟩
    have hne₃ := h₂.inv (I := fun s => s.catalog.recovery.attemptId ≠ claim.attemptId ∧
      claim.attemptId ∈ s.issued) (fun s op s' ⟨hn, ha⟩ hs =>
        ⟨attempt_ne_step sha256 hn ha hs, issued_step sha256 hs ha⟩) ⟨hne, hattempt₂⟩
    exact attemptRefused_of_ne sha256 hne₃.1
  · intro ops s input held timestamp r hr hclaim hrun
    obtain ⟨row, hcurrent⟩ := claim_of_projection sha256 hrun hclaim
    obtain ⟨hrow, -, -, -, hrowToken, hrowBy, -⟩ := requireCurrentArchiveRecoveryClaim_ok.1 hcurrent
    rcases token_of_run sha256 hr hrow hrowToken with ⟨before, hbefore, hsame, hsameBy⟩ | hnew
    · cases hwork.symm.trans hbefore
      exact .inl ⟨Option.some.inj (hsame.symm.trans htoken),
        Option.some.inj (hrowBy.symm.trans (hsameBy.symm.trans hby))⟩
    · exact .inr hnew

/-- The pass is taken over once its lease has run out, and a Stop is requested. -/
def takeoverRun : List (Nat × RecoveryOperation) := [
  (70000, .beginInterruptedTakeover sampleClaim "taker" "taken"),
  (70001, .requestStop "recovery" "attempt" "stop")]

def supersededStop : RecoveryOperation :=
  .prepareStop "recovery" "attempt" "stop" (some sampleClaim) fun _ => ⟨.inconclusive, [], 0⟩

/-- Once the taker's lease has run out as well, the superseded worker prepares the Stop. -/
theorem takeoverRun_supersedes : ∃ s₁ ∈ publishedSystem.performAll sampleSha256 firstClaimRun,
    (requireCurrentArchiveRecoveryClaim s₁.catalog sampleClaim).isOk ∧
      ∃ s₂ ∈ s₁.performAll sampleSha256 takeoverRun, Superseded s₂.catalog sampleClaim ∧
        (supersededStop.run sampleSha256 140000 s₂.catalog).map Prod.fst = .ok true := by
  decide +kernel

theorem superseded_claim_prepares_stop :
    RecoverySystem.Initial publishedSystem ∧ ∃ ops₁ s₁ work ops₂ s₂ c,
      Run (RecoverySystem.Step sampleSha256) publishedSystem ops₁ s₁ ∧
      requireCurrentArchiveRecoveryClaim s₁.catalog sampleClaim = .ok work ∧
      Run (RecoverySystem.Step sampleSha256) s₁ ops₂ s₂ ∧ Superseded s₂.catalog sampleClaim ∧
      supersededStop.run sampleSha256 140000 s₂.catalog = .ok (true, c) := by
  obtain ⟨s₁, h₁, hheld, s₂, h₂, hsuper, hprepare⟩ := takeoverRun_supersedes
  obtain ⟨work, hwork⟩ := exists_ok hheld
  obtain ⟨⟨_, c⟩, hrun, rfl⟩ := map_ok.1 hprepare
  exact ⟨publishedSystem_initial, _, s₁, work, _, s₂, c,
    RecoverySystem.run_of_performAll _ h₁, hwork, RecoverySystem.run_of_performAll _ h₂, hsuper,
    hrun⟩

theorem sampleClaim_refused : ∃ (s₁ s₂ : RecoverySystem) (work : ArchiveRecoveryWork),
    requireCurrentArchiveRecoveryClaim s₁.catalog sampleClaim = .ok work ∧
    Superseded s₂.catalog sampleClaim ∧ ClaimRefused sampleSha256 s₂.catalog sampleClaim := by
  obtain ⟨s₁, h₁, hheld, s₂, h₂, hsuper, -⟩ := takeoverRun_supersedes
  obtain ⟨work, hwork⟩ := exists_ok hheld
  have hrefused := (superseded_claim_refused sampleSha256 publishedSystem_initial
    (RecoverySystem.run_of_performAll _ h₁) hwork).1 _ s₂ [] s₂
      (RecoverySystem.run_of_performAll _ h₂) hsuper (.nil s₂)
  exact ⟨s₁, s₂, work, hwork, hsuper, hrefused.1⟩

end RipDvd
