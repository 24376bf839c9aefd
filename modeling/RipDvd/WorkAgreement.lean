import RipDvd.Fencing

namespace RipDvd
set_option autoImplicit true

/-- What a status says about the work row and the columns that go with it. -/
def ArchiveRecoveryStatus.Agrees (c : Catalog) : ArchiveRecoveryStatus → Prop
  | .running => ∃ work ∈ c.work, work.status = .claimed ∧ work.verificationId ≠ none
  | .stopping => c.recovery.stopOperationId ≠ none ∧ c.work ≠ none
  | .stopped => c.work = none ∧ ¬activeVerification c
  | .waitingForDisc => c.recovery.resumeOperationId ≠ none ∧
    ∃ work ∈ c.work, work.status = .requested
  | .completed => c.work = none ∧
    ∃ current ∈ c.currentManifest, current.unrecoveredSourceRanges = []
  | .eligible => True
  | .paused => True
  | .faulted => True

/-- The recovery and its work row agree. -/
structure WorkAgreement (c : Catalog) : Prop where
  attempt : ∀ work ∈ c.work, work.attemptId = c.recovery.attemptId
  status : c.recovery.status.Agrees c
  fault : c.recovery.faultCode ≠ none → c.recovery.status = .faulted

/-- Only a pass that runs, or one that was cut short, holds its row, under a verification. -/
def ClaimedInPass (c : Catalog) : Prop :=
  ∀ work ∈ c.work, work.status = .claimed → work.verificationId ≠ none ∧
    c.recovery.status ∈ [ArchiveRecoveryStatus.running, .stopping, .paused, .faulted]

/-- The agreement, with what keeps it. -/
structure Coherent (c : Catalog) : Prop where
  status : c.recovery.status.Agrees c
  row : RowOfAttempt c
  claimed : ClaimedInPass c
  valid : c.recovery.Valid

theorem Coherent.agreement (h : Coherent c) : WorkAgreement c :=
  ⟨fun work hw => (h.row work hw).2.2, h.status, h.valid.fault.2⟩

theorem publishedRecovery_valid (newId archiveId attemptId : String)
    (ranges : List UnrecoveredSourceRange) (timestamp : Nat) :
    (publishedRecovery newId archiveId attemptId ranges timestamp).Valid := by
  rw [publishedRecovery]
  split
  · simp [ArchiveRecovery.valid_iff]
  · simp [ArchiveRecovery.valid_iff]

theorem JustPublished.coherent (h : JustPublished c) : Coherent c := by
  obtain ⟨current, hcurrent, hrecovery⟩ := h.recovery
  have hnone : ∀ work, c.work ≠ some work := by simp [h.work]
  refine ⟨?_, fun work hw => absurd hw (hnone work), fun work hw => absurd hw (hnone work), ?_⟩
  · rw [hrecovery, publishedRecovery]
    by_cases hempty : current.unrecoveredSourceRanges.length ≠ 0
    · simp only [if_pos hempty, ArchiveRecoveryStatus.Agrees]
    · simp only [if_neg hempty]
      exact ⟨h.work, current, hcurrent, List.length_eq_zero_iff.1 (not_not.1 hempty)⟩
  · rw [hrecovery]
    exact publishedRecovery_valid _ _ _ _ _

/-- The transaction does not remove the row a resumed recovery waits with, nor complete a recovery
that has a row without having claimed it. -/
def Orderly (c : Catalog) : RecoveryOperation → Prop
  | .releaseAfterReconciliation _ => c.recovery.status ≠ .waitingForDisc
  | .projectDvdRecoveryCheckpoint input => c.recovery.status = .eligible → c.work ≠ none →
    unrecoveredSectorCount input.manifest.unrecoveredSourceRanges ≠ 0
  | _ => True

theorem Coherent.not_claimed (h : Coherent c)
    (hstatus : c.recovery.status ∉ [ArchiveRecoveryStatus.running, .stopping, .paused, .faulted]) :
    ∀ work ∈ c.work, work.status ≠ .claimed :=
  fun work hw hclaimed => hstatus (h.claimed work hw hclaimed).2

theorem claimedInPass_of_not (h : ∀ work ∈ c.work, work.status ≠ .claimed) : ClaimedInPass c :=
  fun work hw hclaimed => absurd hclaimed (h work hw)

/-- A status goes on agreeing with the same row. -/
theorem ArchiveRecoveryStatus.Agrees.same {status : ArchiveRecoveryStatus} (h : status.Agrees c)
    (hoperations : c'.recovery.stopOperationId = c.recovery.stopOperationId ∧
      c'.recovery.resumeOperationId = c.recovery.resumeOperationId) (hwork : c'.work = c.work)
    (hmap : status = .completed → c'.currentManifest = c.currentManifest)
    (hactive : status = .stopped → activeVerification c' → activeVerification c) :
    status.Agrees c' := by
  obtain ⟨hstop, hresume⟩ := hoperations
  cases status with
  | running => simpa only [Agrees, hwork] using h
  | stopping => simpa only [Agrees, hwork, hstop] using h
  | stopped => exact ⟨hwork.trans h.1, fun ha => h.2 (hactive rfl ha)⟩
  | waitingForDisc => simpa only [Agrees, hwork, hresume] using h
  | completed => exact ⟨hwork.trans h.1, (hmap rfl).symm ▸ h.2⟩
  | eligible => trivial
  | paused => trivial
  | faulted => trivial

theorem activeVerification_same (h : activeVerification c') (hrecovery : c'.recovery.id =
      c.recovery.id ∧ c'.recovery.attemptId = c.recovery.attemptId)
    (hverifications : c'.verifications = c.verifications) : activeVerification c := by
  obtain ⟨verification, hm, ⟨hid, hattempt⟩, hactive⟩ := h
  exact ⟨verification, hverifications ▸ hm, ⟨hid.trans hrecovery.1,
    hattempt.trans (congrArg some hrecovery.2)⟩, hactive⟩

theorem Aside.coherent (ha : Aside c c') (h : Coherent c) : Coherent c' := by
  obtain ⟨-, hheader, hmanifests, -⟩ := ha.evidence
  have hcurrent : c'.currentManifest = c.currentManifest := by
    rw [Catalog.currentManifest, Catalog.currentManifest, hheader, hmanifests]
  refine ⟨?_, ?_, ?_, ha.recovery ▸ h.valid⟩
  · rw [ha.recovery]
    refine h.status.same (by rw [ha.recovery]; exact ⟨rfl, rfl⟩) ha.work (fun _ => hcurrent) ?_
    intro hstopped hactive
    rcases ha.verifications with heligible | hkeeps
    · cases hstopped.symm.trans heligible
    · have hsame : activeVerification { c with verifications := c'.verifications } :=
        activeVerification_same hactive (by rw [ha.recovery]; exact ⟨rfl, rfl⟩) rfl
      exact hkeeps hsame
  · intro work hw
    rw [ha.recovery]
    exact h.row work (ha.work ▸ hw)
  · intro work hw
    rw [ha.recovery]
    exact h.claimed work (ha.work ▸ hw)

/-- A claimed row whose claim columns are touched. -/
theorem Touched.coherent (ht : Touched c c') (h : Coherent c) : Coherent c' := by
  obtain ⟨work, claimedAt, updatedAt, confirmations, hwork, hclaimed, rfl⟩ := ht.row
  obtain ⟨hverification, hstatus⟩ := h.claimed work hwork hclaimed
  refine ⟨?_, ?_, ?_, h.valid⟩
  · have hs := h.status
    revert hs
    generalize hst : c.recovery.status = status at hstatus ⊢
    intro hs
    cases status with
    | running => exact ⟨_, rfl, hclaimed, hverification⟩
    | stopping => exact ⟨hs.1, nofun⟩
    | paused => trivial
    | faulted => trivial
    | _ => simp at hstatus
  · intro row hr
    cases hr
    exact h.row work hwork
  · intro row hr _
    cases hr
    exact ⟨hverification, hstatus⟩

/-- A recovery that runs has just been claimed under a verification. -/
theorem ClaimedCandidate.coherent {pass : ArchiveRecoveryPass}
    (hc : ClaimedCandidate c workerId claimToken timestamp verification confirmation pass c') :
    Coherent c' := by
  obtain ⟨_, rfl⟩ := hc.claimed
  refine ⟨⟨_, rfl, rfl, nofun⟩, ?_, ?_, hc.valid.2⟩
  · intro row hr
    cases hr
    exact ⟨rfl, rfl, rfl⟩
  · intro row hr _
    cases hr
    exact ⟨nofun, List.mem_cons_self⟩

/-- A recovery that is eligible, paused or faulted asks nothing of its row. -/
theorem coherent_of_free (hstatus : c.recovery.status ∈
      [ArchiveRecoveryStatus.eligible, .paused, .faulted]) (hrow : RowOfAttempt c)
    (hclaimed : ClaimedInPass c) (hvalid : c.recovery.Valid) : Coherent c := by
  refine ⟨?_, hrow, hclaimed, hvalid⟩
  generalize c.recovery.status = status at hstatus
  simp only [List.mem_cons, List.not_mem_nil, or_false] at hstatus
  rcases hstatus with rfl | rfl | rfl
  all_goals trivial

/-- Without a row, a recovery may be anything that needs none. -/
theorem coherent_of_none (hwork : c.work = none) (hvalid : c.recovery.Valid)
    (hstatus : c.recovery.status.Agrees c) : Coherent c := by
  have hnone : ∀ work, c.work ≠ some work := by simp [hwork]
  exact ⟨hstatus, fun work hw => absurd hw (hnone work), fun work hw => absurd hw (hnone work),
    hvalid⟩

theorem PassSettled.coherent (hs : PassSettled c work timestamp settlement c') (h : Coherent c)
    (hwork : c.work = some work) : Coherent c' := by
  have hretains := hs.retains hwork
  obtain ⟨row, verifications, hrows, rfl⟩ := hs.rows
  have hmatched := hs.matched
  have hvalid := hs.valid
  generalize hout : settlement.outcome = outcome at hrows
  have hsettled : (c.recovery.settled settlement timestamp).status = settledStatus outcome := by
    rw [ArchiveRecovery.settled, hout]
  cases hrows with
  | completed =>
    refine coherent_of_none rfl hvalid ?_
    rcases hmatched with hm | hm | ⟨-, hempty⟩ | hm
    · simp [hsettled, settledStatus] at hm
    · simp [hsettled, settledStatus] at hm
    · rw [hsettled]
      exact ⟨rfl, hempty⟩
    · simp [hsettled, settledStatus] at hm
  | productive queued =>
    refine coherent_of_free (by simp [hsettled, settledStatus]) (hretains.row h.row)
      (claimedInPass_of_not fun row hr => ?_) hvalid
    cases hr
    nofun
  | noProgress =>
    refine coherent_of_free (by simp [hsettled, settledStatus]) (hretains.row h.row)
      (claimedInPass_of_not fun row hr => ?_) hvalid
    cases hr
    nofun

theorem completionAfterInterruption_status
    (h : archiveRecoveryCompletionAfterInterruption c timestamp = .ok settlement) :
    settlement.1 = .completed ∨ settlement.1 = .eligible := by
  obtain ⟨status, hstatus, h⟩ := bind_ok.1 h
  have hsettled : status = .completed ∨ status = .eligible := by
    obtain ⟨ranges, -, he⟩ := bind_ok.1 hstatus
    split at he
    · exact .inl (pure_ok.1 he).symm
    · exact .inr (pure_ok.1 he).symm
  split at h
  · cases h
    exact hsettled
  · obtain ⟨completion, -, h⟩ := bind_ok.1 h
    obtain ⟨-, -, h⟩ := bind_ok.1 h
    cases h
    exact hsettled

/-- An interrupted pass leaves no claimed row, and none at all when nothing is left. -/
theorem PassInterrupted.coherent (hs : PassInterrupted c timestamp settlement row c')
    (hrow : RowOfAttempt c') (hclaimed : ∀ work ∈ row, work.status ≠ .claimed)
    (hcompleted : settlement.1 = .completed → row = none) : Coherent c' := by
  have hmatched := hs.matched
  obtain ⟨-, hsettles, hvalid, rfl, -⟩ := hs
  rcases completionAfterInterruption_status hsettles with hc | he
  · refine coherent_of_none (hcompleted hc) hvalid ?_
    have hstatus : (c.recovery.interrupted settlement timestamp).status = .completed := hc
    rcases hmatched with hm | hm | ⟨-, hempty⟩ | hm
    · simp [hstatus] at hm
    · simp [hstatus] at hm
    · rw [hstatus]
      exact ⟨hcompleted hc, hempty⟩
    · simp [hstatus] at hm
  · have hstatus : (c.recovery.interrupted settlement timestamp).status = .eligible := he
    exact coherent_of_free (by simp [hstatus]) hrow (claimedInPass_of_not hclaimed) hvalid

theorem Activated.coherent (ha : Activated c newId timestamp c') (hrow : RowOfAttempt c) :
    Coherent c' := by
  have hretains := ha.retains
  obtain ⟨work, row, hwork, hrequested, rfl⟩ := ha.rows
  refine coherent_of_free List.mem_cons_self (hretains.row hrow) (claimedInPass_of_not ?_) ha.valid
  intro found hf hclaimed
  cases hf
  cases hrequested.symm.trans hclaimed

theorem Resumed.coherent (hr : Resumed c input attemptId resumeOperationId newId timestamp c') :
    Coherent c' := by
  have hrow : RowOfAttempt (resumedCatalog c input attemptId resumeOperationId timestamp) := by
    intro work hw
    cases hw
    exact ⟨rfl, rfl, rfl⟩
  rcases hr.result with rfl | hactivated
  · refine ⟨⟨nofun, _, rfl, rfl⟩, hrow, claimedInPass_of_not fun work hw => ?_, hr.valid⟩
    cases hw
    nofun
  · exact hactivated.coherent hrow

/-- The statuses between which a projection moves a recovery have the same columns. -/
theorem ArchiveRecovery.Valid.unclaimed {recovery : ArchiveRecovery} (h : recovery.Valid)
    (hfrom : recovery.status ∈ [ArchiveRecoveryStatus.eligible, .running])
    {status : ArchiveRecoveryStatus}
    (hto : status ∈ [ArchiveRecoveryStatus.eligible, .running, .completed]) (updatedAt : Nat) :
    ArchiveRecovery.Valid { recovery with status, updatedAt } := by
  rw [valid_iff] at h ⊢
  simp only [List.mem_cons, List.not_mem_nil, or_false] at hfrom hto
  rcases hfrom with hf | hf
  all_goals
    simp [hf] at h
    rcases hto with rfl | rfl | rfl
    all_goals simp [h]

theorem projectionWork_some (hclaim : ∀ claim ∈ input.claim, ∃ work,
      requireCurrentArchiveRecoveryClaim c claim = .ok work) (hrow : RowOfAttempt c)
    (hwork : c.work = some work) (hclaimed : work.status = .claimed) :
    projectionWork input c = some work := by
  refine Option.filter_eq_some_iff.2 ⟨hwork, decide_eq_true_iff.2 ?_⟩
  obtain ⟨hid, -, hattempt⟩ := hrow work hwork
  refine ⟨hid, hattempt, hclaimed, fun claim hm => ?_⟩
  obtain ⟨row, hcurrent⟩ := hclaim claim hm
  obtain ⟨hrow, -, -, -, htoken, -⟩ := requireCurrentArchiveRecoveryClaim_ok.1 hcurrent
  cases hwork.symm.trans hrow
  exact htoken

theorem projectionWork_none (h : ∀ work ∈ c.work, work.status ≠ .claimed) :
    projectionWork input c = none := by
  apply Option.eq_none_iff_forall_ne_some.2
  intro work hw
  obtain ⟨hwork, hfilter⟩ := Option.filter_eq_some_iff.1 hw
  exact h work hwork (decide_eq_true_iff.1 hfilter).2.2.1

/-- A projection leaves every row claimed or not, and under its verification. -/
theorem ClaimedInPass.projected (h : ClaimedInPass c)
    (hwork : projectWork input c timestamp = .ok work) (hc' : c'.work = work)
    (hstatus : c.recovery.status ∈ [ArchiveRecoveryStatus.running, .stopping, .paused, .faulted] →
      c'.recovery.status = c.recovery.status) : ClaimedInPass c' := by
  have hkeep : ∀ row, c.work = some row → row.status = .claimed → row.verificationId ≠ none ∧
      c'.recovery.status ∈ [ArchiveRecoveryStatus.running, .stopping, .paused, .faulted] := by
    intro row hr hclaimed
    obtain ⟨hverification, hm⟩ := h row hr hclaimed
    exact ⟨hverification, hstatus hm ▸ hm⟩
  intro row hr hclaimed
  rcases projectWork_row hwork with rfl | ⟨claimed, pass, hc, hstatus, rfl⟩
  · exact hkeep row (hc'.symm.trans hr) hclaimed
  · cases hc'.symm.trans hr
    exact hkeep claimed hc hstatus

theorem ArchiveRecovery.Valid.touched {recovery : ArchiveRecovery} (h : recovery.Valid)
    (updatedAt : Nat) : ArchiveRecovery.Valid { recovery with updatedAt } :=
  ⟨h.attempt, h.pause, h.history, h.stopping, h.stopped, h.faulted, h.active, h.fault⟩

theorem projectWork_isSome (h : projectWork input c timestamp = .ok work') :
    c.work ≠ none → work' ≠ none := by
  intro hwork
  rcases projectWork_row h with rfl | ⟨claimed, pass, -, -, rfl⟩
  · exact hwork
  · nofun

/-- A projection leaves a recovery that is being stopped, faulted or paused as it is. -/
theorem Advances.coherent_stays (ha : Advances input c c')
    (hstays : c.recovery.status ∈ [ArchiveRecoveryStatus.stopping, .faulted, .paused])
    (h : Coherent c) : Coherent c' := by
  have hrow := ha.retains.row h.row
  obtain ⟨timestamp, classification, meaningful, work', hwork', rfl, -⟩ := ha.written
  have hsame : projectedRecoveryStatus input c = c.recovery.status := by
    rw [projectedRecoveryStatus, if_pos hstays]
  refine ⟨?_, hrow, h.claimed.projected hwork' rfl fun _ => hsame, ?_⟩
  · have hs := h.status
    show (projectedRecoveryStatus input c).Agrees _
    rw [hsame]
    generalize c.recovery.status = status at hs hstays
    cases status with
    | stopping => exact ⟨hs.1, projectWork_isSome hwork' hs.2⟩
    | faulted => trivial
    | paused => trivial
    | _ => simp at hstays
  · have hvalid := h.valid.touched timestamp
    rw [← hsame] at hvalid
    exact hvalid

/-- A recovery that runs goes on running. -/
theorem Advances.coherent_running (ha : Advances input c c')
    (hclaim : ∀ claim ∈ input.claim, ∃ work, requireCurrentArchiveRecoveryClaim c claim = .ok work)
    (hrunning : c.recovery.status = .running) (h : Coherent c) : Coherent c' := by
  have hrow := ha.retains.row h.row
  obtain ⟨timestamp, classification, meaningful, work', hwork', rfl, -⟩ := ha.written
  have hs := h.status
  rw [hrunning] at hs
  obtain ⟨work, hwork, hclaimed, hverification⟩ := hs
  have hheld := projectionWork_some hclaim h.row hwork hclaimed
  have hstatus : projectedRecoveryStatus input c = .running := by
    rw [projectedRecoveryStatus, if_neg (by simp [hrunning]), hheld]
    rfl
  refine ⟨?_, hrow, h.claimed.projected hwork' rfl fun _ => hstatus.trans hrunning.symm, ?_⟩
  · show (projectedRecoveryStatus input c).Agrees _
    rw [hstatus]
    rcases projectWork_row hwork' with rfl | ⟨row, pass, hr, hc, rfl⟩
    · exact ⟨work, hwork, hclaimed, hverification⟩
    · cases hwork.symm.trans hr
      exact ⟨_, rfl, hclaimed, hverification⟩
  · exact h.valid.unclaimed (by simp [hrunning]) (by simp [hstatus]) timestamp

/-- A recovery that nobody has claimed stays eligible until nothing is left. -/
theorem Advances.coherent_eligible (ha : Advances input c c')
    (horderly : Orderly c (.projectDvdRecoveryCheckpoint input))
    (heligible : c.recovery.status = .eligible) (h : Coherent c) : Coherent c' := by
  have hrow := ha.retains.row h.row
  obtain ⟨timestamp, classification, meaningful, work', hwork', rfl, hmatched⟩ := ha.written
  have hnot := h.not_claimed (by simp [heligible])
  have hnone : projectionWork input c = none := projectionWork_none hnot
  have hsame : work' = c.work := by
    rw [projectWork, hnone] at hwork'
    exact (Except.ok.inj hwork').symm
  subst hsame
  by_cases hzero : unrecoveredSectorCount input.manifest.unrecoveredSourceRanges = 0
  · have hstatus : projectedRecoveryStatus input c = .completed := by
      rw [projectedRecoveryStatus, if_neg (by simp [heligible]), hnone, if_neg (by simp),
        if_pos hzero]
    have hwork : c.work = none := by_contra fun hw => horderly heligible hw hzero
    refine coherent_of_none hwork
      (h.valid.unclaimed (by simp [heligible]) (by simp [hstatus]) timestamp) ?_
    show (projectedRecoveryStatus input c).Agrees _
    rw [hstatus]
    rcases hmatched with hm | hm | ⟨-, hempty⟩ | hm
    · simp [projectedCatalog, hstatus] at hm
    · simp [projectedCatalog, hstatus] at hm
    · exact ⟨hwork, hempty⟩
    · simp [projectedCatalog, hstatus] at hm
  · have hstatus : projectedRecoveryStatus input c = .eligible := by
      rw [projectedRecoveryStatus, if_neg (by simp [heligible]), hnone, if_neg (by simp),
        if_neg hzero]
    exact coherent_of_free (by simp [projectedCatalog, hstatus]) hrow (claimedInPass_of_not hnot)
      (h.valid.unclaimed (by simp [heligible]) (by simp [hstatus]) timestamp)

theorem Advances.coherent (ha : Advances input c c')
    (hclaim : ∀ claim ∈ input.claim, ∃ work, requireCurrentArchiveRecoveryClaim c claim = .ok work)
    (horderly : Orderly c (.projectDvdRecoveryCheckpoint input)) (h : Coherent c) :
    Coherent c' := by
  by_cases hstays : c.recovery.status ∈ [ArchiveRecoveryStatus.stopping, .faulted, .paused]
  · exact ha.coherent_stays hstays h
  · rcases ha.status with hs | ⟨hpaused, -⟩
    · by_cases hrunning : c.recovery.status = .running
      · exact ha.coherent_running hclaim hrunning h
      · refine ha.coherent_eligible horderly ?_ h
        simp only [List.mem_cons, List.not_mem_nil, or_false] at hs hstays
        tauto
    · exact absurd (by simp [hpaused]) hstays

theorem Continuation.coherent (hc : Continuation c timestamp c') (h : Coherent c) :
    Coherent c' := by
  have hrow := hc.retains.row h.row
  cases hc with
  | unchanged => exact h
  | queued heligible row =>
    have hnot := h.not_claimed (by simp [heligible])
    exact coherent_of_free (by simp [heligible]) hrow (claimedInPass_of_not hnot) h.valid
  | rebound heligible row work hwork hrequested newId =>
    refine coherent_of_free (by simp [heligible]) hrow (claimedInPass_of_not ?_) h.valid
    intro found hf hclaimed
    cases hf
    cases hrequested.symm.trans hclaimed
  | unmatched heligible hresume hwork hvalid =>
    have hnot := h.not_claimed (by simp [heligible])
    exact ⟨⟨hresume, hwork⟩, hrow, claimedInPass_of_not hnot, hvalid⟩
  | faulted heligible code hvalid =>
    have hnot := h.not_claimed (by simp [heligible])
    exact coherent_of_free (by simp) hrow (claimedInPass_of_not hnot) hvalid

theorem VerificationSettles.coherent (hs : VerificationSettles c timestamp c') (h : Coherent c) :
    Coherent c' := by
  obtain ⟨row, hrow, hc⟩ := hs
  have haside : Aside c (c.updateVerification row) :=
    ⟨⟨rfl, rfl, rfl, rfl⟩, rfl, rfl, rfl, .inr (activeVerification_updateVerification hrow)⟩
  exact hc.coherent (haside.coherent h)

/-- Every orderly transaction keeps the recovery and its row in agreement. -/
theorem RecoveryOperation.Effect.coherent {op : RecoveryOperation} (he : op.Effect timestamp c c')
    (horderly : Orderly c op) (h : Coherent c) : Coherent c' := by
  cases he with
  | aside op ha => exact ha.coherent h
  | touched op ht => exact ht.coherent h
  | claimed hc => exact hc.coherent
  | takenOver work hheld hrunning he =>
    subst he
    obtain ⟨hwork, -, -, hclaimed, -⟩ := heldWork_some.1 hheld
    obtain ⟨hverification, hstatus⟩ := h.claimed work hwork hclaimed
    refine ⟨?_, ?_, ?_, h.valid⟩
    · show c.recovery.status.Agrees _
      rw [hrunning.2.2]
      exact ⟨_, rfl, hclaimed, hverification⟩
    · intro row hr
      cases hr
      exact h.row work hwork
    · intro row hr _
      cases hr
      exact ⟨hverification, hstatus⟩
  | projected hclaim ha => exact ha.coherent hclaim horderly h
  | settled hclaim hs => exact hs.coherent h (requireCurrentArchiveRecoveryClaim_ok.1 hclaim).1
  | @faulted _ _ _ storageFault retainWork hclaim hrunning hvalid he =>
    subst he
    have hstatus : ∀ code, (c.recovery.faultedWith code storageFault timestamp).status ∈
        [ArchiveRecoveryStatus.paused, .faulted] := by
      intro code
      cases storageFault with
      | true => exact List.mem_cons_self
      | false => exact List.mem_cons_of_mem _ List.mem_cons_self
    refine coherent_of_free (List.mem_cons_of_mem _ (hstatus _)) ?_ ?_ hvalid
    · intro row hr
      exact h.row row (by cases retainWork <;> simp_all)
    · intro row hr hclaimed
      refine ⟨(h.claimed row (by cases retainWork <;> simp_all) hclaimed).1, ?_⟩
      exact List.mem_cons_of_mem _ (List.mem_cons_of_mem _ (hstatus _))
  | released hstatus hwork he =>
    subst he
    refine coherent_of_none rfl h.valid ?_
    have hs := h.status
    have hwaiting : c.recovery.status ≠ .waitingForDisc := horderly
    generalize c.recovery.status = status at hs hstatus hwaiting
    cases status with
    | stopped => exact absurd hs.1 hwork
    | completed => exact absurd hs.1 hwork
    | eligible => trivial
    | paused => trivial
    | faulted => trivial
    | waitingForDisc => exact absurd rfl hwaiting
    | running => simp at hstatus
    | stopping => simp at hstatus
  | abandoned hi =>
    refine hi.coherent ((hi.retains (.inl rfl)).row h.row) (fun row hr => ?_) fun _ => rfl
    cases hr
  | requeued hclaim hi =>
    have hwork := (requireCurrentArchiveRecoveryClaim_ok.1 hclaim).1
    have hrow := (hi.retains (by split; exact .inl rfl; exact .inr ⟨_, hwork, rfl⟩)).row h.row
    refine hi.coherent hrow (fun row hr => ?_) fun hcompleted => if_pos hcompleted
    split at hr
    · cases hr
    · cases hr
      nofun
  | resumed hr => exact hr.coherent
  | activated ha => exact ha.coherent h.row
  | stopping _ hstatus hvalid work verifications hwork he =>
    subst he
    refine ⟨⟨Option.some_ne_none _, Option.some_ne_none _⟩, ?_, ?_, hvalid⟩
    · intro row hr
      cases hr
      rcases hwork with hwork | ⟨-, rfl⟩
      · exact h.row work hwork
      · exact ⟨rfl, rfl, rfl⟩
    · intro row hr hclaimed
      cases hr
      rcases hwork with hwork | ⟨-, rfl⟩
      · exact ⟨(h.claimed work hwork hclaimed).1, by simp [ArchiveRecovery.stopping]⟩
      · cases hclaimed
  | stopped hstopping hactive hvalid he =>
    subst he
    exact coherent_of_none rfl hvalid
      ⟨rfl, fun ha => hactive (activeVerification_same ha ⟨rfl, rfl⟩ rfl)⟩
  | stopDeferred hstopping hvalid he =>
    subst he
    exact ⟨h.status.same ⟨rfl, rfl⟩ rfl (fun _ => rfl) fun _ ha =>
      activeVerification_same ha ⟨rfl, rfl⟩ rfl, h.row, h.claimed, hvalid⟩
  | stopFaulted hstopping hvalid he =>
    subst he
    refine coherent_of_free (by simp) h.row (fun row hr hclaimed => ?_) hvalid
    exact ⟨(h.claimed row hr hclaimed).1, by simp⟩
  | confirmed work confirmations confirmationId hwaiting hwork hvalid he =>
    subst he
    refine coherent_of_free (by simp) ?_ (claimedInPass_of_not ?_) hvalid
    · intro row hr
      cases hr
      exact h.row work hwork
    · intro row hr hclaimed
      cases hr
      obtain ⟨-, -, found, hfound, hrequested, -⟩ := hwaiting
      cases hwork.symm.trans hfound
      cases hrequested.symm.trans hclaimed
  | verified op hs =>
    induction hs with
    | refl => exact h
    | tail _ hstep ih => exact hstep.coherent ih

variable (sha256 : Hashed → Digest)

/-- A step that is orderly in the state it is taken in. -/
def OrderlyStep (s : RecoverySystem) (op : RecoveryOperation) (s' : RecoverySystem) : Prop :=
  Orderly s.catalog op ∧ RecoverySystem.Step sha256 s op s'

/-- In every run of orderly transactions from a published archive, the recovery and its work row
agree all the way. -/
theorem recovery_work_agrees (hstart : RecoverySystem.Initial s₀)
    (hrun : Run (OrderlyStep sha256) s₀ ops s) : WorkAgreement s.catalog := by
  have hcoherent : Coherent s.catalog := by
    refine hrun.inv (I := fun s => Coherent s.catalog) (fun s op s' hs hstep => ?_)
      hstart.1.coherent
    obtain ⟨horderly, hstep⟩ := hstep
    obtain ⟨-, -, timestamp, returned, hop⟩ := (RecoverySystem.step_iff sha256).1 hstep
    exact (RecoveryOperation.run_effect sha256 hop).coherent horderly hs
  exact hcoherent.agreement

/-- A reconciliation stalls before it releases the work; another worker completes it, the recovery
is stopped and resumed, and then the first worker goes on. -/
def lateReleaseRun : List (Nat × RecoveryOperation) := [
  (1, .submitReconciliation),
  (2, .claimNextReconciliation "first" "first-token"),
  (70000, .recoverExpiredReconciliations),
  (70001, .claimNextReconciliation "second" "second-token"),
  (70002, .completeReconciliation ⟨1, "second-token"⟩ true),
  (70003, .requestStop "recovery" "attempt" "stop"),
  (70004, .prepareStop "recovery" "attempt" "stop" none fun _ => ⟨.inconclusive, [], 0⟩),
  (70005, .completeStop "recovery" "attempt" "stop"),
  (70006, .requestResume ⟨"recovery", "attempt", 1, 1⟩ "next-attempt" "resume" none "unused"),
  (70007, .releaseAfterReconciliation "next-attempt")]

theorem lateRelease_disagrees : RecoverySystem.Initial publishedSystem ∧ ∃ s,
    Run (RecoverySystem.Step sampleSha256) publishedSystem (lateReleaseRun.map Prod.snd) s ∧
      s.catalog.recovery.status = .waitingForDisc ∧ s.catalog.work = none ∧
      ¬WorkAgreement s.catalog := by
  have h : ∃ s ∈ publishedSystem.performAll sampleSha256 lateReleaseRun,
      s.catalog.recovery.status = .waitingForDisc ∧ s.catalog.work = none := by
    decide +kernel
  obtain ⟨s, hs, hwaiting, hnone⟩ := h
  refine ⟨publishedSystem_initial, s, RecoverySystem.run_of_performAll _ hs, hwaiting, hnone,
    fun ha => ?_⟩
  have hstatus := ha.status
  rw [hwaiting] at hstatus
  obtain ⟨-, work, hwork, -⟩ := hstatus
  cases hnone.symm.trans hwork

/-- The run of a first claim is orderly. -/
theorem firstClaimRun_orderly : ∃ s,
    Run (OrderlyStep sampleSha256) publishedSystem (firstClaimRun.map Prod.snd) s ∧
      s.catalog.recovery.status = .running ∧ WorkAgreement s.catalog := by
  have h : ∃ s ∈ publishedSystem.performAll sampleSha256 firstClaimRun,
      s.catalog.recovery.status = .running := by
    decide +kernel
  obtain ⟨s, hs, hrunning⟩ := h
  have hplain : ∀ op ∈ firstClaimRun.map Prod.snd, ∀ c, Orderly c op := by
    simp [firstClaimRun, Orderly]
  have hrun : Run (OrderlyStep sampleSha256) publishedSystem (firstClaimRun.map Prod.snd) s :=
    (RecoverySystem.run_of_performAll _ hs).mono fun op hm _ _ hstep => ⟨hplain op hm _, hstep⟩
  exact ⟨s, hrun, hrunning, recovery_work_agrees sampleSha256 publishedSystem_initial hrun⟩

end RipDvd
