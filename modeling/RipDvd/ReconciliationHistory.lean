import RipDvd.VerificationHistory

namespace RipDvd
set_option autoImplicit true

variable {c c' : Catalog}

def DvdRecoveryReconciliation.Active (row : DvdRecoveryReconciliation) : Prop :=
  row.status = "queued" ∨ row.status = "running"

/-- What the status of a reconciliation says about its claim. -/
structure DvdRecoveryReconciliation.Valid (row : DvdRecoveryReconciliation) : Prop where
  status : row.status ∈ ["queued", "running", "completed", "failed"]
  token : row.claimToken ≠ none ↔ row.status = "running"
  time : row.claimedAt ≠ none ↔ row.status = "running"

/-- A pass runs, or one is requested. -/
def InPass (c : Catalog) : Prop := c.recovery.status = .running ∨ requestedPass c

/-- The last reconciliation has completed, if there was one. -/
def LastReconciled (c : Catalog) : Prop :=
  ∀ latest ∈ c.latestReconciliation, latest.status = "completed"

/-- What the reconciliations of a recovery are to one another and to its passes. -/
structure ReconciliationTable (c : Catalog) : Prop where
  rows : ∀ row ∈ c.reconciliations, row.Valid
  order : c.reconciliations.Pairwise fun earlier later =>
    earlier.attemptOrdinal < later.attemptOrdinal ∧ ¬earlier.Active
  exclusive : InPass c → LastReconciled c

/-- A fold that keeps the higher of two ordinals ends with the last of ascending ones. -/
theorem foldl_ascending {step : Option DvdRecoveryReconciliation → DvdRecoveryReconciliation →
      Option DvdRecoveryReconciliation}
    (hnone : ∀ row, step none row = some row)
    (hsome : ∀ found row, step (some found) row =
      if found.attemptOrdinal < row.attemptOrdinal then some row else some found)
    (h : ∀ row ∈ rows, row.attemptOrdinal < last.attemptOrdinal) :
    (rows ++ [last]).foldl step none = some last := by
  rw [List.foldl_append, List.foldl_cons, List.foldl_nil]
  -- whatever the fold has reached is one of the rows before the last
  have hreached : ∀ start, (∀ row ∈ start, row.attemptOrdinal < last.attemptOrdinal) →
      ∀ row ∈ rows.foldl step start, row.attemptOrdinal < last.attemptOrdinal := by
    induction rows with
    | nil => exact fun start hstart => hstart
    | cons next rest ih =>
      intro start hstart
      obtain ⟨hnext, hrest⟩ := List.forall_mem_cons.1 h
      refine ih hrest _ fun row hrow => ?_
      cases start with
      | none =>
        rw [hnone] at hrow
        cases hrow
        exact hnext
      | some found =>
        rw [hsome] at hrow
        split at hrow
        · cases hrow
          exact hnext
        · cases hrow
          exact hstart _ rfl
  cases hfound : rows.foldl step none with
  | none => exact hnone last
  | some found =>
    rw [hsome, if_pos]
    exact hreached none (fun row hrow => by cases hrow) found hfound

/-- The latest reconciliation is the last row. -/
theorem ReconciliationTable.latest (h : ReconciliationTable c) :
    c.latestReconciliation = c.reconciliations.getLast? := by
  rw [Catalog.latestReconciliation]
  cases hrows : c.reconciliations.reverse with
  | nil =>
    rw [List.reverse_eq_nil_iff.1 hrows]
    rfl
  | cons last before =>
    have hsplit : c.reconciliations = before.reverse ++ [last] := by
      rw [← List.reverse_reverse c.reconciliations, hrows, List.reverse_cons]
    have horder := h.order
    rw [hsplit] at horder ⊢
    obtain ⟨-, -, hlast⟩ := List.pairwise_append.1 horder
    rw [List.getLast?_concat]
    exact foldl_ascending (fun _ => rfl) (fun _ _ => rfl)
      fun row hrow => (hlast row hrow last List.mem_cons_self).1

/-- Where the last reconciliation has completed, none is active. -/
theorem ReconciliationTable.not_active (h : ReconciliationTable c) (hlast : LastReconciled c) :
    ∀ row ∈ c.reconciliations, ¬row.Active := by
  intro row hrow
  have hlatest := h.latest
  rw [LastReconciled, hlatest] at hlast
  obtain ⟨before, last, hsplit⟩ : ∃ before last, c.reconciliations = before ++ [last] :=
    ⟨_, _, (List.dropLast_append_getLast (List.ne_nil_of_mem hrow)).symm⟩
  have horder := h.order
  rw [hsplit] at hrow hlast horder
  rw [List.getLast?_concat] at hlast
  obtain ⟨-, -, hbefore⟩ := List.pairwise_append.1 horder
  obtain hrow | hrow := List.mem_append.1 hrow
  · exact (hbefore row hrow last List.mem_cons_self).2
  · cases List.mem_singleton.1 hrow
    have hcompleted := hlast row rfl
    rintro (hqueued | hrunning)
    · simp [hcompleted] at hqueued
    · simp [hcompleted] at hrunning

/-- An active row changes its claim or settles; a settled row stays. -/
structure DvdRecoveryReconciliation.GoesOn (old new : DvdRecoveryReconciliation) : Prop where
  ordinal : new.attemptOrdinal = old.attemptOrdinal
  settled : ¬old.Active → new = old
  valid : old.Valid → new.Valid

theorem DvdRecoveryReconciliation.GoesOn.refl (row : DvdRecoveryReconciliation) : row.GoesOn row :=
  ⟨rfl, fun _ => rfl, fun hvalid => hvalid⟩

theorem DvdRecoveryReconciliation.GoesOn.active {old new : DvdRecoveryReconciliation}
    (h : old.GoesOn new) (hactive : new.Active) : old.Active := by
  by_contra hsettled
  rw [h.settled hsettled] at hactive
  exact hsettled hactive

/-- Rows that go on. -/
theorem ReconciliationTable.map {f : DvdRecoveryReconciliation → DvdRecoveryReconciliation}
    (h : ReconciliationTable c)
    (hf : ∀ row : DvdRecoveryReconciliation, row.GoesOn (f row)) :
    ReconciliationTable (c.updateReconciliations f) := by
  refine ⟨?_, ?_, fun hpass => ?_⟩
  · intro row hrow
    obtain ⟨before, hbefore, rfl⟩ := List.mem_map.1 hrow
    exact (hf before).valid (h.rows before hbefore)
  · refine List.pairwise_map.2 (h.order.imp fun {earlier later} hpair => ?_)
    rw [(hf earlier).ordinal, (hf later).ordinal]
    exact ⟨hpair.1, fun hactive => hpair.2 ((hf earlier).active hactive)⟩
  · -- beside a pass no row is active, so none of them changes
    have hlast : LastReconciled c := h.exclusive hpass
    have hsame : c.reconciliations.map f = c.reconciliations := by
      refine (List.map_congr_left fun row hrow => ?_).trans (List.map_id _)
      exact (hf row).settled (h.not_active hlast row hrow)
    rw [LastReconciled, Catalog.latestReconciliation, Catalog.updateReconciliations, hsame]
    exact hlast

theorem goesOn_requeued {row : DvdRecoveryReconciliation} (hrunning : row.status = "running") :
    row.GoesOn row.requeued := by
  refine ⟨rfl, fun hsettled => absurd (.inr hrunning) hsettled, fun _ => ?_⟩
  exact ⟨by simp [DvdRecoveryReconciliation.requeued],
    by simp [DvdRecoveryReconciliation.requeued], by simp [DvdRecoveryReconciliation.requeued]⟩

theorem goesOn_ended {row : DvdRecoveryReconciliation} (hrunning : row.status = "running")
    (hstatus : status ∈ ["completed", "failed"]) : row.GoesOn (row.ended status) := by
  refine ⟨rfl, fun hsettled => absurd (.inr hrunning) hsettled, fun _ => ?_⟩
  simp only [List.mem_cons, List.not_mem_nil, or_false] at hstatus
  obtain rfl | rfl := hstatus
  · exact ⟨by simp [DvdRecoveryReconciliation.ended], by simp [DvdRecoveryReconciliation.ended],
      by simp [DvdRecoveryReconciliation.ended]⟩
  · exact ⟨by simp [DvdRecoveryReconciliation.ended], by simp [DvdRecoveryReconciliation.ended],
      by simp [DvdRecoveryReconciliation.ended]⟩

theorem ReconciliationTable.updateHeld (h : ReconciliationTable c)
    {f : DvdRecoveryReconciliation → DvdRecoveryReconciliation}
    (hf : ∀ row : DvdRecoveryReconciliation, row.status = "running" → row.GoesOn (f row)) :
    ReconciliationTable (updateHeldReconciliation claim f c).2 := by
  refine h.map fun row => ?_
  split
  · next hheld => exact hf row hheld.2.1
  · exact .refl row

theorem submitReconciliation_table (h : submitReconciliation c = .ok c')
    (hc : ReconciliationTable c) : ReconciliationTable c' := by
  obtain ⟨_, hfree, h⟩ := bind_ok.1 h
  obtain ⟨_, hnone, h⟩ := bind_ok.1 h
  cases h
  rw [rejectIf_ok] at hfree hnone
  have hsettled : ∀ row ∈ c.reconciliations, ¬row.Active :=
    fun row hrow hactive => hnone ⟨row, hrow, hactive⟩
  refine ⟨?_, ?_, fun hpass => absurd ?_ hfree⟩
  · intro row hrow
    obtain hrow | hrow := List.mem_append.1 hrow
    · exact hc.rows row hrow
    · cases List.mem_singleton.1 hrow
      exact ⟨by simp, by simp, by simp⟩
  · refine List.pairwise_append.2 ⟨hc.order, List.pairwise_singleton _ _, ?_⟩
    intro earlier he later hl
    cases List.mem_singleton.1 hl
    refine ⟨Nat.lt_succ_of_le ?_, hsettled earlier he⟩
    exact (le_foldl_max _ 0).2 _ (List.mem_map_of_mem he)
  · change InPass c at hpass
    exact hpass.imp (fun hrunning => by simp [hrunning]) id

theorem claimNextReconciliation_table
    (h : claimNextReconciliation workerExecutionId claimToken timestamp c = .ok (claim, c'))
    (hc : ReconciliationTable c) : ReconciliationTable c' := by
  obtain ⟨_, -, h⟩ := bind_ok.1 h
  obtain ⟨_, -, h⟩ := bind_ok.1 h
  split at h
  · cases h
    exact hc
  · next next hfound =>
    cases h
    have hqueued := List.find?_some hfound
    rw [decide_eq_true_eq] at hqueued
    refine hc.map fun row => ?_
    split
    · next hsame =>
      subst hsame
      refine ⟨rfl, fun hsettled => absurd (.inl hqueued) hsettled, fun _ => ?_⟩
      exact ⟨by simp, by simp, by simp⟩
    · exact .refl row

/-- A transaction that leaves the rows alone and begins no pass. -/
theorem ReconciliationTable.same (h : ReconciliationTable c)
    (hrows : c'.reconciliations = c.reconciliations)
    (hpass : InPass c' → InPass c ∨ LastReconciled c) : ReconciliationTable c' := by
  refine ⟨hrows ▸ h.rows, hrows ▸ h.order, fun hin => ?_⟩
  have hlast : LastReconciled c := (hpass hin).elim h.exclusive id
  rw [LastReconciled, Catalog.latestReconciliation, hrows]
  exact hlast

theorem requestResume_reconciled
    (h : requestResume input attemptId resumeOperationId insertion newVerificationId timestamp c =
      .ok c') : LastReconciled c := by
  simp only [requestResume, bind_ok] at h
  obtain ⟨_, -, _, -, _, -, _, -, _, hpending, -⟩ := h
  intro latest hlatest
  rw [requireNoPendingDvdRecoveryReconciliation] at hpending
  rw [Option.mem_def.1 hlatest] at hpending
  exact not_not.1 (rejectIf_ok.1 hpending)

/-- A pass that is requested with the row of another state is requested there. -/
theorem requestedPass_of_row (hpass : requestedPass c') (hwork : c'.work = some work')
    (hold : c.work = some work) (hsame : work'.status = work.status)
    (hstatus : c.recovery.status ∈ [ArchiveRecoveryStatus.eligible, .paused, .waitingForDisc]) :
    requestedPass c := by
  obtain ⟨-, row, hrow, hrequested⟩ := hpass
  cases hwork.symm.trans hrow
  exact ⟨hstatus, work, hold, hsame ▸ hrequested⟩

theorem InPass.of_settles (h : VerificationSettles c timestamp c') (hpass : InPass c') :
    InPass c := by
  obtain ⟨row, -, hcontinues⟩ := h
  cases hcontinues with
  | unchanged => exact hpass
  | queued => exact hpass
  | rebound heligible _ work hwork hrequested =>
    have heligible : c.recovery.status = .eligible := heligible
    exact .inr ⟨by simp [heligible], work, hwork, hrequested⟩
  | unmatched heligible _ hwork =>
    have heligible : c.recovery.status = .eligible := heligible
    exact .inr ⟨by simp [heligible], hwork⟩
  | faulted =>
    obtain hrunning | ⟨hstatus, -⟩ := hpass
    · cases hrunning
    · simp at hstatus

theorem Advances.inPass (h : Advances input c c') (hclaimed : ClaimedRow c) (hpass : InPass c') :
    InPass c := by
  have hstatus := h.status
  obtain ⟨timestamp, classification, meaningful, work', hwork', rfl, -⟩ := h.written
  have hrow : (projectionWork input c).isSome → c.recovery.status ≠ .eligible := by
    intro hsome heligible
    obtain ⟨work, hwork⟩ := Option.isSome_iff_exists.1 hsome
    obtain ⟨hrow, hheld⟩ := Option.filter_eq_some_iff.1 hwork
    rw [decide_eq_true_eq] at hheld
    exact hclaimed work hrow hheld.2.2.1 (by simp [heligible])
  have hkept : requestedPass { projectedCatalog input c timestamp classification meaningful with
      work := work' } → ∃ work ∈ c.work, work.status = .requested := by
    intro hrequested
    obtain ⟨-, row, hr, hrequested⟩ := hrequested
    obtain ⟨-, rfl⟩ | ⟨claimed, next, -, hwork, hadvance, rfl⟩ := projectWork_ok hwork'
    · exact ⟨row, hr, hrequested⟩
    · obtain ⟨pass, rfl⟩ := advancePass_row hadvance
      cases hr
      exact ⟨claimed, hwork, hrequested⟩
  by_cases hstays : c.recovery.status ∈ [ArchiveRecoveryStatus.stopping, .faulted, .paused]
  · have hsame : projectedRecoveryStatus input c = c.recovery.status := by
      rw [projectedRecoveryStatus, if_pos hstays]
    obtain hrunning | hrequested := hpass
    · exact .inl (hsame.symm.trans hrunning)
    · have hlisted := hrequested.1
      change projectedRecoveryStatus input c ∈ _ at hlisted
      exact .inr ⟨hsame ▸ hlisted, hkept hrequested⟩
  · have hwas : c.recovery.status = .running ∨ c.recovery.status = .eligible := by
      simp only [List.mem_cons, List.not_mem_nil, or_false] at hstatus hstays
      tauto
    obtain hrunning | heligible := hwas
    · exact .inl hrunning
    · obtain hrunning | hrequested := hpass
      · change projectedRecoveryStatus input c = _ at hrunning
        rw [projectedRecoveryStatus, if_neg hstays, if_neg fun hsome => hrow hsome heligible]
          at hrunning
        split at hrunning
        · cases hrunning
        · cases hrunning
      · exact .inr ⟨by simp [heligible], hkept hrequested⟩

/-- A pass begins only where the last reconciliation has completed. -/
theorem RecoveryOperation.Effect.inPass (sha256 : Hashed → Digest) {op : RecoveryOperation}
    (h : op.Effect timestamp c c')
    (hop : op.run sha256 timestamp c = .ok (returned, c')) (hclaimed : ClaimedRow c)
    (hpass : InPass c') : InPass c ∨ LastReconciled c := by
  cases h with
  | aside op ha =>
    rw [InPass, requestedPass, ha.recovery, ha.work] at hpass
    exact .inl hpass
  | touched op ht =>
    obtain ⟨work, _, _, _, hwork, -, rfl⟩ := ht.row
    refine .inl (hpass.imp id fun hrequested => ?_)
    exact requestedPass_of_row hrequested rfl hwork rfl hrequested.1
  | claimed h =>
    obtain ⟨_, hcandidate⟩ := h.candidate
    exact .inr hcandidate.2.2.2.2.2.2.2.2.2.2.2
  | takenOver work hheld hrunning he => exact .inl (.inl hrunning.2.2)
  | projected _ h => exact .inl (h.inPass hclaimed hpass)
  | settled hclaim h =>
    obtain ⟨hwork, -, -, hrow, -⟩ := requireCurrentArchiveRecoveryClaim_ok.1 hclaim
    obtain hrunning | hcompleted := h.status
    · exact .inl (.inl hrunning)
    · exact absurd (hclaimed _ hwork hrow) (by simp [hcompleted])
  | faulted _ hrunning _ _ => exact .inl (.inl hrunning)
  | released hstatus _ he =>
    subst he
    obtain hrunning | ⟨-, work, hwork, -⟩ := hpass
    · exact absurd hstatus (by simp [show c.recovery.status = .running from hrunning])
    · cases hwork
  | abandoned h => exact .inl (.inl h.running)
  | requeued _ h => exact .inl (.inl h.running)
  | resumed h => exact .inr (requestResume_reconciled (commits_ok.1 hop).2)
  | activated h =>
    obtain ⟨work, _, hwork, hrequested, -⟩ := h.rows
    exact .inl (.inr ⟨by simp [h.waiting], work, hwork, hrequested⟩)
  | stopping _ _ _ _ _ _ he =>
    subst he
    obtain hrunning | ⟨hstatus, -⟩ := hpass
    · cases hrunning
    · simp [ArchiveRecovery.stopping] at hstatus
  | stopped _ _ _ he =>
    subst he
    obtain hrunning | ⟨hstatus, -⟩ := hpass
    · cases hrunning
    · simp at hstatus
  | stopDeferred hstopping _ he =>
    subst he
    obtain hrunning | ⟨hstatus, -⟩ := hpass
    · cases hstopping.symm.trans hrunning
    · simp [hstopping] at hstatus
  | stopFaulted _ _ he =>
    subst he
    obtain hrunning | ⟨hstatus, -⟩ := hpass
    · cases hrunning
    · simp at hstatus
  | confirmed work _ _ hwaiting hwork _ he =>
    subst he
    obtain hrunning | hrequested := hpass
    · cases hrunning
    · exact .inl (.inr (requestedPass_of_row hrequested rfl hwork rfl (by simp [hwaiting.1])))
  | verified op h =>
    refine .inl ?_
    clear hop hclaimed
    induction h with
    | refl => exact hpass
    | tail _ hsettles ih => exact ih (hpass.of_settles hsettles)

variable (sha256 : Hashed → Digest)

/-- Every transaction keeps the reconciliations in order, and apart from the passes. -/
theorem RecoveryOperation.run_reconciliations {op : RecoveryOperation}
    (h : op.run sha256 timestamp c = .ok (returned, c')) (hclaimed : ClaimedRow c)
    (hc : ReconciliationTable c) : ReconciliationTable c' := by
  have hothers := RecoveryOperation.run_others sha256 h
  have heffect := RecoveryOperation.run_effect sha256 h
  cases op with
  | submitReconciliation => exact submitReconciliation_table (commits_ok.1 h).2 hc
  | recoverExpiredReconciliations =>
    cases h
    refine hc.map fun row => ?_
    split
    · next hexpired => exact goesOn_requeued hexpired.1
    · exact .refl row
  | claimNextReconciliation workerExecutionId claimToken =>
    obtain ⟨claim, hnext, -⟩ := finds_ok.1 h
    exact claimNextReconciliation_table hnext hc
  | renewReconciliation claim =>
    cases h
    exact hc.updateHeld fun row hrunning =>
      ⟨rfl, fun hsettled => absurd (.inr hrunning) hsettled, fun hvalid =>
        ⟨hvalid.status, hvalid.token, by simp [hrunning]⟩⟩
  | requeueReconciliation claim =>
    cases h
    exact hc.updateHeld fun row hrunning => goesOn_requeued hrunning
  | completeReconciliation claim converged =>
    obtain ⟨_, -, hcompleted⟩ := bind_ok.1 (commits_ok.1 h).2
    obtain ⟨_, -, he⟩ := bind_ok.1 hcompleted
    cases he
    exact hc.updateHeld fun row hrunning => goesOn_ended hrunning (by simp)
  | failReconciliation claim =>
    cases h
    exact hc.updateHeld fun row hrunning => goesOn_ended hrunning (by simp)
  | _ =>
    have hrows := hothers.reconciliations (by simp [table])
    exact hc.same hrows fun hpass => heffect.inPass sha256 h hclaimed hpass

theorem JustPublished.reconciliationTable (h : JustPublished c) : ReconciliationTable c := by
  obtain ⟨-, -, hnone⟩ := h.verifications
  refine ⟨?_, ?_, fun _ => ?_⟩
  · simp [hnone]
  · rw [hnone]
    exact .nil
  · rw [LastReconciled, Catalog.latestReconciliation, hnone]
    simp

/-- In every run at most the last reconciliation is active, and none is beside a pass that runs or
is requested: such a pass finds the last reconciliation completed, for as long as it lasts. -/
theorem reconciliation_beside_no_pass {s₀ s : RecoverySystem} (hstart : s₀.Initial)
    (hrun : Run (RecoverySystem.Step sha256) s₀ ops s) :
    ReconciliationTable s.catalog ∧
      (InPass s.catalog → ∀ row ∈ s.catalog.reconciliations, ¬row.Active) := by
  have hkept := hrun.inv (I := fun s => s.KeepsTable ∧ ReconciliationTable s.catalog) ?_
    ⟨hstart.keepsTable, hstart.1.reconciliationTable⟩
  · exact ⟨hkept.2, fun hpass => hkept.2.not_active (hkept.2.exclusive hpass)⟩
  · intro s op s' hs h
    obtain ⟨-, -, timestamp, returned, hop⟩ := (RecoverySystem.step_iff sha256).1 h
    exact ⟨(RecoverySystem.Step.table sha256 h hs.1).1,
      RecoveryOperation.run_reconciliations sha256 hop hs.1.2.claimed hs.2⟩

/-- A reconciliation is asked for, claimed and completed, and then a disc is verified and its pass
claimed. -/
def reconciledRun : List (Nat × RecoveryOperation) := [
  (1, .submitReconciliation),
  (1, .claimNextReconciliation "worker" "reconciliation-token"),
  (1, .completeReconciliation ⟨1, "reconciliation-token"⟩ true)] ++ firstClaimRun

theorem reconciledRun_in_pass : ∃ s,
    Run (RecoverySystem.Step sampleSha256) publishedSystem (reconciledRun.map Prod.snd) s ∧
      ReconciliationTable s.catalog ∧
      (InPass s.catalog → ∀ row ∈ s.catalog.reconciliations, ¬row.Active) := by
  have hdone : (publishedSystem.performAll sampleSha256 reconciledRun).isSome = true := by
    decide +kernel
  obtain ⟨s, hs⟩ := Option.isSome_iff_exists.1 hdone
  have hrun := RecoverySystem.run_of_performAll sampleSha256 hs
  exact ⟨s, hrun, reconciliation_beside_no_pass sampleSha256 publishedSystem_initial hrun⟩

end RipDvd
