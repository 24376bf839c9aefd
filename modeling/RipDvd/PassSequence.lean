import RipDvd.PassSettlement
import RipDvd.WorkAgreement

namespace RipDvd
set_option autoImplicit true

/-- The direction of the pass that comes after so many. -/
def directionAfter (passes : Nat) : ArchiveRecoveryPassDirection :=
  if passes % 2 = 0 then .forward else .reverse

theorem directionAfter_succ (passes : Nat) :
    directionAfter (passes + 1) = (directionAfter passes).opposite := by
  by_cases heven : passes % 2 = 0
  · have hodd : ¬(passes + 1) % 2 = 0 := by omega
    rw [directionAfter, directionAfter, if_neg hodd, if_pos heven]
    rfl
  · have hnext : (passes + 1) % 2 = 0 := by omega
    rw [directionAfter, directionAfter, if_pos hnext, if_neg heven]
    rfl

/-- A summary that continues the passes before it. -/
structure ArchiveRecoveryPassSummary.Follows (log : List ArchiveRecoveryPassSummary)
    (entry : ArchiveRecoveryPassSummary) : Prop where
  number : entry.passNumber = log.length + 1
  direction : entry.direction = directionAfter log.length
  balanced : entry.initialUnrecoveredSectorCount =
    entry.remainingSectorCount + entry.recoveredSectorCount
  outcome : entry.outcome = passOutcome entry.remainingSectorCount entry.recoveredSectorCount
  elapsed : entry.elapsedMs = entry.completedAtMs - entry.startedAtMs
  positive : 0 < entry.initialUnrecoveredSectorCount
  decreasing : ∀ last ∈ log.getLast?,
    entry.initialUnrecoveredSectorCount ≤ last.remainingSectorCount

/-- Every summary continues the ones before it. -/
def SequencedPasses (log : List ArchiveRecoveryPassSummary) : Prop :=
  ∀ before entry after, log = before ++ entry :: after →
    ArchiveRecoveryPassSummary.Follows before entry

theorem sequencedPasses_nil : SequencedPasses [] := by
  intro before entry after h
  cases before <;> cases h

theorem SequencedPasses.append (h : SequencedPasses log)
    (hentry : ArchiveRecoveryPassSummary.Follows log entry) :
    SequencedPasses (log ++ [entry]) := by
  intro before other after heq
  rcases List.eq_nil_or_concat after with rfl | ⟨after, last, rfl⟩
  · obtain ⟨rfl, hlast⟩ := List.append_inj' heq rfl
    cases hlast
    exact hentry
  · have hcons : before ++ other :: (after.concat last) = (before ++ other :: after) ++ [last] := by
      rw [List.concat_eq_append, List.append_assoc, List.cons_append]
    rw [hcons] at heq
    exact h before other after (List.append_inj' heq rfl).1

theorem SequencedPasses.at (h : SequencedPasses log) (hi : log[i]? = some entry) :
    ArchiveRecoveryPassSummary.Follows (log.take i) entry := by
  obtain ⟨hlt, rfl⟩ := List.getElem?_eq_some_iff.1 hi
  apply h (log.take i) _ (log.drop (i + 1))
  rw [← List.drop_eq_getElem_cons hlt, List.take_append_drop]

theorem SequencedPasses.last (h : SequencedPasses log) (hlast : log.getLast? = some entry) :
    entry.passNumber = log.length ∧ entry.direction = directionAfter (log.length - 1) := by
  rw [List.getLast?_eq_getElem?] at hlast
  have hfollows := h.at hlast
  obtain ⟨hlt, -⟩ := List.getElem?_eq_some_iff.1 hlast
  have hlength : (log.take (log.length - 1)).length = log.length - 1 := by
    rw [List.length_take]
    omega
  have hnumber := hfollows.number
  have hdirection := hfollows.direction
  rw [hlength] at hnumber hdirection
  exact ⟨by omega, hdirection⟩

/-- The numbers, directions and counts of the summaries of a recovery. -/
structure CoherentPasses (log : List ArchiveRecoveryPassSummary) : Prop where
  numbered : ∀ i entry, log[i]? = some entry →
    entry.passNumber = i + 1 ∧ entry.direction = directionAfter i
  balanced : ∀ entry ∈ log, entry.initialUnrecoveredSectorCount =
      entry.remainingSectorCount + entry.recoveredSectorCount ∧
    entry.outcome = passOutcome entry.remainingSectorCount entry.recoveredSectorCount ∧
    entry.elapsedMs = entry.completedAtMs - entry.startedAtMs
  decreasing : ∀ i entry next, log[i]? = some entry → log[i + 1]? = some next →
    next.initialUnrecoveredSectorCount ≤ entry.remainingSectorCount
  completed_last : ∀ i entry, log[i]? = some entry → entry.outcome = .completed →
    i + 1 = log.length

theorem passOutcome_completed (h : passOutcome remaining recovered = .completed) :
    remaining = 0 := by
  rw [passOutcome] at h
  by_cases hzero : remaining = 0
  · exact hzero
  · rw [if_neg hzero] at h
    split at h <;> cases h

theorem SequencedPasses.coherent (h : SequencedPasses log) : CoherentPasses log := by
  have hdecreasing : ∀ i entry next, log[i]? = some entry → log[i + 1]? = some next →
      0 < next.initialUnrecoveredSectorCount ∧
        next.initialUnrecoveredSectorCount ≤ entry.remainingSectorCount := by
    intro i entry next hentry hnext
    have hfollows := h.at hnext
    refine ⟨hfollows.positive, hfollows.decreasing entry ?_⟩
    obtain ⟨hlt, -⟩ := List.getElem?_eq_some_iff.1 hnext
    rw [Option.mem_def, List.getLast?_eq_getElem?, List.length_take, Nat.min_eq_left hlt.le,
      Nat.add_sub_cancel, List.getElem?_take_of_lt (Nat.lt_succ_self i)]
    exact hentry
  constructor
  · intro i entry hi
    obtain ⟨hlt, -⟩ := List.getElem?_eq_some_iff.1 hi
    have hfollows := h.at hi
    have hnumber := hfollows.number
    have hdirection := hfollows.direction
    rw [List.length_take, Nat.min_eq_left hlt.le] at hnumber hdirection
    exact ⟨hnumber, hdirection⟩
  · intro entry hmem
    obtain ⟨before, after, heq⟩ := List.append_of_mem hmem
    have hfollows := h before entry after heq
    exact ⟨hfollows.balanced, hfollows.outcome, hfollows.elapsed⟩
  · intro i entry next hentry hnext
    exact (hdecreasing i entry next hentry hnext).2
  · intro i entry hi hcompleted
    obtain ⟨hlt, rfl⟩ := List.getElem?_eq_some_iff.1 hi
    have houtcome := (h.at hi).outcome
    have hzero := passOutcome_completed (houtcome.symm.trans hcompleted)
    by_contra hne
    have hnext : log[i + 1]? = some (log.get ⟨i + 1, by omega⟩) :=
      List.getElem?_eq_getElem (by omega)
    have hpos := hdecreasing i _ _ hi hnext
    omega

theorem getLast?_boundedHistory (log : List ArchiveRecoveryPassSummary) :
    (boundedHistory log).getLast? = log.getLast? := by
  rw [boundedHistory, List.getLast?_drop]
  cases log with
  | nil => rfl
  | cons entry log =>
    have hlt : ¬(entry :: log).length ≤
        (entry :: log).length - DVD_RECOVERY_PASS_HISTORY_LIMIT := by
      rw [List.length_cons, DVD_RECOVERY_PASS_HISTORY_LIMIT]
      omega
    rw [if_neg hlt]

/-- Bounding a history again after an entry more forgets no more than bounding the whole. -/
theorem boundedHistory_append (log : List ArchiveRecoveryPassSummary)
    (entry : ArchiveRecoveryPassSummary) :
    boundedHistory (boundedHistory log ++ [entry]) = boundedHistory (log ++ [entry]) := by
  rw [boundedHistory, boundedHistory, boundedHistory, List.length_append, List.length_drop,
    List.length_append, List.length_singleton]
  have hlimit : 0 < DVD_RECOVERY_PASS_HISTORY_LIMIT := by decide
  generalize DVD_RECOVERY_PASS_HISTORY_LIMIT = limit at hlimit
  by_cases hle : log.length ≤ limit
  · have hzero : log.length - limit = 0 := by omega
    rw [hzero, List.drop_zero, Nat.sub_zero]
  · have hone : log.length - (log.length - limit) + 1 - limit = 1 := by omega
    have hdrop : log.length + 1 - limit = log.length - limit + 1 := by omega
    have hlength : 1 ≤ (log.drop (log.length - limit)).length := by
      rw [List.length_drop]
      omega
    rw [hone, hdrop, List.drop_append_of_le_length hlength, List.drop_drop,
      List.drop_append_of_le_length (by omega)]

/-- The pass of a row that continues the passes settled so far. -/
structure ArchiveRecoveryPass.Continues (log : List ArchiveRecoveryPassSummary)
    (pass : ArchiveRecoveryPass) : Prop where
  number : pass.passNumber = log.length + 1
  direction : pass.passDirection = directionAfter log.length
  initial : ∀ initial ∈ pass.passInitialUnrecoveredSectorCount, 0 < initial ∧
    ∀ last ∈ log.getLast?, initial ≤ last.remainingSectorCount

/-- The row of a recovery with this status is that of its next pass, or of the one that runs. -/
def ArchiveRecoveryStatus.GoesOn (status : ArchiveRecoveryStatus) : Prop :=
  status ∈ [ArchiveRecoveryStatus.eligible, .waitingForDisc, .running, .completed]

instance (status : ArchiveRecoveryStatus) : Decidable status.GoesOn :=
  inferInstanceAs (Decidable (_ ∈ _))

/-- The passes of a recovery, all that were settled, in order. -/
structure PassesInOrder (c : Catalog) (log : List ArchiveRecoveryPassSummary) : Prop where
  kept : c.recovery.passHistory = boundedHistory log
  sequenced : SequencedPasses log
  left : ∀ current ∈ c.currentManifest, ∀ last ∈ log.getLast?,
    unrecoveredSectorCount current.unrecoveredSourceRanges ≤ last.remainingSectorCount
  next : c.recovery.status.GoesOn → ∀ work ∈ c.work, work.toArchiveRecoveryPass.Continues log
  fresh : c.recovery.status ∈ [ArchiveRecoveryStatus.eligible, .running] → c.work = none →
    log = []

theorem JustPublished.passesInOrder (h : JustPublished c) : PassesInOrder c [] := by
  obtain ⟨current, -, hrecovery⟩ := h.recovery
  constructor
  · rw [hrecovery]
    rfl
  · exact sequencedPasses_nil
  · intro current _ last hlast
    cases hlast
  · intro _ work hwork
    cases h.work.symm.trans hwork
  · intro _ _
    rfl

/-- The rows are of the same pass and differ at most in what it has done. -/
def ArchiveRecoveryPass.Alike (pass' pass : ArchiveRecoveryPass) : Prop :=
  pass'.passNumber = pass.passNumber ∧ pass'.passDirection = pass.passDirection ∧
    pass'.passInitialUnrecoveredSectorCount = pass.passInitialUnrecoveredSectorCount

theorem ArchiveRecoveryPass.Continues.alike {pass pass' : ArchiveRecoveryPass}
    (h : pass.Continues log) (halike : pass'.Alike pass) : pass'.Continues log := by
  obtain ⟨hnumber, hdirection, hinitial⟩ := halike
  exact ⟨hnumber.trans h.number, hdirection.trans h.direction, hinitial ▸ h.initial⟩

/-- No sector is unrecovered that was not before. -/
def LeavesNoMore (c c' : Catalog) : Prop :=
  ∀ current' ∈ c'.currentManifest, ∃ current ∈ c.currentManifest,
    unrecoveredSectorCount current'.unrecoveredSourceRanges ≤
      unrecoveredSectorCount current.unrecoveredSourceRanges

theorem leavesNoMore_of_same (h : c'.currentManifest = c.currentManifest) : LeavesNoMore c c' :=
  fun current' hcurrent' => ⟨current', h ▸ hcurrent', le_rfl⟩

/-- The recovery goes on with the row of the same pass, or with one that continues as well. -/
theorem PassesInOrder.frame (h : PassesInOrder c log)
    (hhistory : c'.recovery.passHistory = c.recovery.passHistory) (hleft : LeavesNoMore c c')
    (hnext : c'.recovery.status.GoesOn → ∀ work' ∈ c'.work,
      (c.recovery.status.GoesOn ∧ ∃ work ∈ c.work,
        work'.toArchiveRecoveryPass.Alike work.toArchiveRecoveryPass) ∨
      work'.toArchiveRecoveryPass.Continues log)
    (hfresh : c'.recovery.status ∈ [ArchiveRecoveryStatus.eligible, .running] →
      c'.work = none → log = []) : PassesInOrder c' log := by
  constructor
  · exact hhistory.trans h.kept
  · exact h.sequenced
  · intro current' hcurrent' last hlast
    obtain ⟨current, hcurrent, hle⟩ := hleft current' hcurrent'
    exact hle.trans (h.left current hcurrent last hlast)
  · intro hgoes work' hwork'
    obtain ⟨hgoes, work, hwork, halike⟩ | hcontinues := hnext hgoes work' hwork'
    · exact (h.next hgoes work hwork).alike halike
    · exact hcontinues
  · exact hfresh

/-- The same recovery, map and row. -/
theorem PassesInOrder.same (h : PassesInOrder c log) (hrecovery : c'.recovery = c.recovery)
    (hcurrent : c'.currentManifest = c.currentManifest) (hwork : c'.work = c.work) :
    PassesInOrder c' log := by
  apply h.frame (congrArg _ hrecovery) (leavesNoMore_of_same hcurrent)
  · intro hgoes work' hwork'
    rw [hrecovery] at hgoes
    exact .inl ⟨hgoes, work', hwork ▸ hwork', rfl, rfl, rfl⟩
  · rw [hrecovery, hwork]
    exact h.fresh

/-- A recovery that goes no further keeps its history and nothing else. -/
theorem PassesInOrder.halted (h : PassesInOrder c log)
    (hhistory : c'.recovery.passHistory = c.recovery.passHistory) (hleft : LeavesNoMore c c')
    (hstatus : c'.recovery.status ∈
      [ArchiveRecoveryStatus.paused, .stopping, .stopped, .faulted]) : PassesInOrder c' log := by
  apply h.frame hhistory hleft
  · intro hgoes
    rw [ArchiveRecoveryStatus.GoesOn] at hgoes
    generalize c'.recovery.status = status at hstatus hgoes
    cases status <;> simp at hstatus hgoes
  · intro heligible
    generalize c'.recovery.status = status at hstatus heligible
    cases status <;> simp at hstatus heligible

/-- The recovery goes on with the row that it has. -/
theorem PassesInOrder.goesOn (h : PassesInOrder c log)
    (hhistory : c'.recovery.passHistory = c.recovery.passHistory) (hleft : LeavesNoMore c c')
    (hgoes : c.recovery.status.GoesOn) (hwork : c.work = some work)
    (hwork' : c'.work = some work')
    (halike : work'.toArchiveRecoveryPass.Alike work.toArchiveRecoveryPass) :
    PassesInOrder c' log := by
  apply h.frame hhistory hleft
  · intro _ row hrow
    cases hwork'.symm.trans hrow
    exact .inl ⟨hgoes, work, hwork, halike⟩
  · intro _ hnone
    cases hwork'.symm.trans hnone

theorem Activated.passesInOrder (h : Activated c newId timestamp c') (hc : PassesInOrder c log) :
    PassesInOrder c' log := by
  have hgoes : c.recovery.status.GoesOn := by
    rw [h.waiting]
    decide
  obtain ⟨work, row, hwork, -, rfl⟩ := h.rows
  exact hc.goesOn rfl (leavesNoMore_of_same rfl) hgoes hwork rfl ⟨rfl, rfl, rfl⟩

theorem PassesInOrder.getLast? (h : PassesInOrder c log) :
    c.recovery.passHistory.getLast? = log.getLast? := by
  rw [h.kept, getLast?_boundedHistory]

/-- A resumed recovery derives its next pass from the history. -/
theorem PassesInOrder.resumedPass (h : PassesInOrder c log) :
    (resumedPass c.recovery).Continues log := by
  have hpass : (RipDvd.resumedPass c.recovery).passNumber = log.length + 1 ∧
      (RipDvd.resumedPass c.recovery).passDirection = directionAfter log.length := by
    rw [RipDvd.resumedPass, h.getLast?]
    cases hlast : log.getLast? with
    | none =>
      rw [List.getLast?_eq_none_iff.1 hlast]
      exact ⟨rfl, rfl⟩
    | some last =>
      have hpos : 0 < log.length :=
        List.length_pos_iff.2 fun hnil => by rw [hnil] at hlast; cases hlast
      obtain ⟨hnumber, hdirection⟩ := h.sequenced.last hlast
      refine ⟨congrArg (· + 1) hnumber, ?_⟩
      have hnext := directionAfter_succ (log.length - 1)
      rw [Nat.sub_add_cancel hpos, ← hdirection] at hnext
      rw [hnext]
      show (if some last.direction = some .forward then _ else _) = _
      cases last.direction <;> rfl
  exact ⟨hpass.1, hpass.2, nofun⟩

theorem Resumed.passesInOrder
    (h : Resumed c input attemptId resumeOperationId newVerificationId timestamp c')
    (hc : PassesInOrder c log) : PassesInOrder c' log := by
  have hresumed : PassesInOrder (resumedCatalog c input attemptId resumeOperationId timestamp)
      log := by
    refine hc.frame rfl (leavesNoMore_of_same rfl) ?_ ?_
    · intro _ work hwork
      cases hwork
      exact .inr hc.resumedPass
    · intro _ hnone
      cases hnone
  obtain rfl | hactivated := h.result
  · exact hresumed
  · exact hactivated.passesInOrder hresumed

/-- A claimed pass is the one of its row, or the first. -/
theorem ClaimedCandidate.passesInOrder {pass : ArchiveRecoveryPass}
    (h : ClaimedCandidate c workerId claimToken timestamp verification confirmation pass c')
    (hc : PassesInOrder c log) : PassesInOrder c' log := by
  obtain ⟨_, -, heligible, -⟩ := h.candidate
  have hgoes : c.recovery.status.GoesOn := by
    rw [heligible]
    decide
  have hpass : c.pass.Continues log := by
    cases hwork : c.work with
    | none =>
      have hnil := hc.fresh (by rw [heligible]; exact List.mem_cons_self) hwork
      rw [hnil, Catalog.pass, hwork]
      refine ⟨rfl, rfl, fun initial hinitial => ?_⟩
      cases hinitial
    | some work =>
      rw [pass_of_work hwork]
      exact hc.next hgoes work hwork
  have hcontinues : pass.Continues log := by
    obtain ⟨rfl, -⟩ | ⟨-, current, hcurrent, rfl⟩ := archiveRecoveryPassStart_ok h.start
    · exact hpass
    · refine ⟨hpass.number, hpass.direction, ?_⟩
      intro initial hinitial
      cases hinitial
      obtain ⟨-, ⟨hnone, -⟩ | ⟨-, initial, hinitial, hpos, -⟩⟩ := h.valid.1
      · cases hnone
      · cases hinitial
        exact ⟨hpos, hc.left current hcurrent⟩
  obtain ⟨confirmations, rfl⟩ := h.claimed
  refine hc.frame rfl (leavesNoMore_of_same rfl) ?_ ?_
  · intro _ work' hwork'
    cases hwork'
    exact .inr hcontinues
  · intro _ hnone
    cases hnone

theorem advancePass_alike (h : advancePass work recoveryRead timestamp = .ok next) :
    next.toArchiveRecoveryPass.Alike work.toArchiveRecoveryPass := by
  obtain ⟨observed, hobserved, h⟩ := bind_ok.1 h
  obtain ⟨-, -, h⟩ := bind_ok.1 h
  cases h
  rw [observePass] at hobserved
  split at hobserved
  · split at hobserved
    · obtain ⟨-, -, he⟩ := bind_ok.1 hobserved
      cases he
      exact ⟨rfl, rfl, rfl⟩
    · cases hobserved
  · obtain ⟨-, -, he⟩ := bind_ok.1 hobserved
    cases he
    exact ⟨rfl, rfl, rfl⟩

theorem Advances.leavesNoMore (ha : Advances input c c') : LeavesNoMore c c' := by
  obtain ⟨current, hcurrent, -, hranges⟩ := ha.ranges
  obtain ⟨timestamp, classification, meaningful, work', -, rfl, -⟩ := ha.written
  have hnext := projectedCatalog_current ha.fresh.2 timestamp classification meaningful
  intro current' hcurrent'
  cases hnext.symm.trans hcurrent'
  refine ⟨current, hcurrent, ?_⟩
  rw [unrecoveredSectorCount_afterRecoveryRead hranges]
  exact Nat.le_add_right _ _

/-- A projected read leaves the row at its pass, with fewer sectors before it. -/
theorem Advances.passesInOrder (ha : Advances input c c') (hc : PassesInOrder c log) :
    PassesInOrder c' log := by
  have hleft := ha.leavesNoMore
  have hstatus := ha.status
  obtain ⟨timestamp, classification, meaningful, work', hwork', rfl, -⟩ := ha.written
  by_cases hstays : c.recovery.status ∈ [ArchiveRecoveryStatus.stopping, .faulted, .paused]
  · have hsame : projectedRecoveryStatus input c = c.recovery.status := by
      rw [projectedRecoveryStatus, if_pos hstays]
    refine hc.halted rfl hleft ?_
    show projectedRecoveryStatus input c ∈ _
    rw [hsame]
    simp only [List.mem_cons, List.not_mem_nil, or_false] at hstays ⊢
    tauto
  · have hactive : c.recovery.status ∈ [ArchiveRecoveryStatus.eligible, .running] := by
      simp only [List.mem_cons, List.not_mem_nil, or_false] at hstays hstatus ⊢
      tauto
    have hgoes : c.recovery.status.GoesOn := by
      rw [ArchiveRecoveryStatus.GoesOn]
      simp only [List.mem_cons, List.not_mem_nil, or_false] at hactive ⊢
      tauto
    refine hc.frame rfl hleft ?_ ?_
    · intro _ row hrow
      have hrow : work' = some row := hrow
      obtain ⟨-, rfl⟩ | ⟨claimed, next, -, hclaimed, hadvance, rfl⟩ := projectWork_ok hwork'
      · exact .inl ⟨hgoes, row, hrow, rfl, rfl, rfl⟩
      · cases hrow
        exact .inl ⟨hgoes, claimed, hclaimed, advancePass_alike hadvance⟩
    · intro _ hnone
      have hnone : work' = none := hnone
      apply hc.fresh hactive
      by_contra hsome
      exact projectWork_isSome hwork' hsome hnone

/-- What a pass of the row that starts and ends so has done. -/
def ArchiveRecoveryWork.summary (work : ArchiveRecoveryWork)
    (startedAt initial remaining timestamp : Nat) : ArchiveRecoveryPassSummary where
  passNumber := work.passNumber
  direction := work.passDirection
  initialUnrecoveredSectorCount := initial
  recoveredSectorCount := work.passRecoveredSectorCount
  remainingSectorCount := remaining
  lastCursorLba := work.passCursorLba
  startedAtMs := startedAt
  completedAtMs := timestamp
  elapsedMs := timestamp - startedAt
  outcome := passOutcome remaining work.passRecoveredSectorCount

/-- The summary of a settled pass continues the history. -/
theorem PassesInOrder.settles (hc : PassesInOrder c log)
    (hgoes : c.recovery.status.GoesOn)
    (h : archiveRecoveryPassSettlement c timestamp = .ok settlement) :
    ∃ entry, ArchiveRecoveryPassSummary.Follows log entry ∧
      settlement.history = boundedHistory (log ++ [entry]) ∧
      (∃ work ∈ c.work, entry.passNumber = work.passNumber ∧
        entry.direction = work.passDirection) ∧
      ∀ current ∈ c.currentManifest,
        unrecoveredSectorCount current.unrecoveredSourceRanges = entry.remainingSectorCount := by
  rw [archiveRecoveryPassSettlement] at h
  split at h
  · cases h
  · next work hwork =>
    split at h
    · next startedAt initial hstarted hinitial =>
      obtain ⟨ranges, hranges, h⟩ := bind_ok.1 h
      obtain ⟨_, hsum, h⟩ := bind_ok.1 h
      cases h
      have hcontinues := hc.next hgoes work hwork
      obtain ⟨hpos, hdecreasing⟩ := hcontinues.initial initial hinitial
      refine ⟨work.summary startedAt initial (unrecoveredSectorCount ranges) timestamp, ?_, ?_,
        ⟨work, hwork, rfl, rfl⟩, ?_⟩
      · exact ⟨hcontinues.number, hcontinues.direction, not_not.1 (rejectIf_ok.1 hsum), rfl, rfl,
          hpos, hdecreasing⟩
      · rw [hc.kept]
        exact boundedHistory_append _ _
      · intro current hcurrent
        rw [Catalog.currentDvdUnrecoveredSourceRanges, hcurrent] at hranges
        cases hranges
        rfl
    · cases h

theorem PassesInOrder.appended (hc : PassesInOrder c log)
    (hentry : ArchiveRecoveryPassSummary.Follows log entry)
    (hhistory : c'.recovery.passHistory = boundedHistory (log ++ [entry]))
    (hcurrent : c'.currentManifest = c.currentManifest)
    (hremaining : ∀ current ∈ c.currentManifest,
      unrecoveredSectorCount current.unrecoveredSourceRanges = entry.remainingSectorCount)
    (hnext : c'.recovery.status.GoesOn → ∀ work' ∈ c'.work,
      work'.toArchiveRecoveryPass.Continues (log ++ [entry]))
    (hfresh : c'.recovery.status ∈ [ArchiveRecoveryStatus.eligible, .running] →
      c'.work ≠ none) : PassesInOrder c' (log ++ [entry]) := by
  constructor
  · exact hhistory
  · exact hc.sequenced.append hentry
  · rw [hcurrent, List.getLast?_concat]
    intro current hfound last hlast
    cases hlast
    exact (hremaining current hfound).le
  · exact hnext
  · intro hstatus hnone
    exact absurd hnone (hfresh hstatus)

/-- A settled pass is followed by the one in the other direction, if by any. -/
theorem PassSettled.passesInOrder (h : PassSettled c work timestamp settlement c')
    (hwork : c.work = some work) (hc : PassesInOrder c log) :
    ∃ entry, PassesInOrder c' (log ++ [entry]) := by
  have hgoes : c.recovery.status.GoesOn := by
    rcases h.status with hstatus | hstatus
    all_goals
      rw [hstatus]
      decide
  obtain ⟨entry, hentry, hhistory, ⟨held, hheld, hnumber, hdirection⟩, hremaining⟩ :=
    hc.settles hgoes h.settles
  cases hwork.symm.trans hheld
  refine ⟨entry, ?_⟩
  obtain ⟨row, verifications, hrows, rfl⟩ := h.rows
  have hstatus : (c.recovery.settled settlement timestamp).status =
    settledStatus settlement.outcome := rfl
  generalize settlement.outcome = outcome at hrows hstatus
  refine hc.appended hentry hhistory rfl hremaining ?_ ?_
  · intro hgoes work' hwork'
    cases hrows with
    | completed => cases hwork'
    | productive =>
      cases hwork'
      refine ⟨?_, ?_, nofun⟩
      · show work.passNumber + 1 = _
        rw [← hnumber, hentry.number, List.length_append, List.length_singleton]
      · show work.passDirection.opposite = _
        rw [← hdirection, hentry.direction, List.length_append, List.length_singleton,
          directionAfter_succ]
    | noProgress =>
      have hpaused : (c.recovery.settled settlement timestamp).status = .paused := hstatus
      rw [hpaused] at hgoes
      simp [ArchiveRecoveryStatus.GoesOn] at hgoes
  · intro hon hnone
    cases hrows with
    | completed =>
      have hcompleted : (c.recovery.settled settlement timestamp).status = .completed := hstatus
      rw [hcompleted] at hon
      simp at hon
    | productive => cases hnone
    | noProgress => cases hnone

/-- An interrupted pass keeps its row, leaves a first pass to come, or completes the recovery. -/
theorem PassInterrupted.passesInOrder (h : PassInterrupted c timestamp settlement row c')
    (hrow : settlement.1 = .eligible →
      (∃ work, c.work = some work ∧ row = some (work.requeued timestamp)) ∨ row = none ∧ log = [])
    (hcompleted : settlement.1 = .completed → row = none) (hc : PassesInOrder c log) :
    PassesInOrder c' log ∨ ∃ entry, PassesInOrder c' (log ++ [entry]) := by
  have hgoes : c.recovery.status.GoesOn := by
    rw [h.running]
    decide
  obtain ⟨-, hsettles, -, rfl, -⟩ := h
  have hstatus := completionAfterInterruption_status hsettles
  obtain ⟨status, -, hsettles⟩ := bind_ok.1 hsettles
  split at hsettles
  · next heligible =>
    cases hsettles
    refine .inl (hc.frame rfl (leavesNoMore_of_same rfl) ?_ ?_)
    · intro _ work' hwork'
      obtain ⟨work, hwork, rfl⟩ | ⟨rfl, -⟩ := hrow heligible
      · cases hwork'
        exact .inl ⟨hgoes, work, hwork, rfl, rfl, rfl⟩
      · cases hwork'
    · intro _ hnone
      obtain ⟨work, -, rfl⟩ | ⟨-, hnil⟩ := hrow heligible
      · cases hnone
      · exact hnil
  · obtain ⟨completion, hcompletion, hsettles⟩ := bind_ok.1 hsettles
    obtain ⟨-, -, hsettles⟩ := bind_ok.1 hsettles
    cases hsettles
    obtain ⟨entry, hentry, hhistory, -, hremaining⟩ := hc.settles hgoes hcompletion
    next hnot _ _ =>
    have hdone : status = .completed := hstatus.resolve_right hnot
    refine .inr ⟨entry, hc.appended hentry hhistory rfl hremaining ?_ ?_⟩
    · intro _ work' hwork'
      rw [hcompleted hdone] at hwork'
      cases hwork'
    · intro heligible
      have heligible : status ∈ [ArchiveRecoveryStatus.eligible, .running] := heligible
      rw [hdone] at heligible
      simp at heligible

theorem VerificationSettles.passesInOrder (h : VerificationSettles c timestamp c')
    (hc : PassesInOrder c log) : PassesInOrder c' log := by
  obtain ⟨row, -, hcontinuation⟩ := h
  have hrow : PassesInOrder (c.updateVerification row) log := hc.same rfl rfl rfl
  cases hcontinuation with
  | unchanged => exact hrow
  | queued => exact hrow.same rfl rfl rfl
  | rebound heligible _ work hwork =>
    have hgoes : (c.updateVerification row).recovery.status.GoesOn := by
      rw [heligible]
      decide
    exact hrow.goesOn rfl (leavesNoMore_of_same rfl) hgoes hwork rfl ⟨rfl, rfl, rfl⟩
  | unmatched heligible _ hwork =>
    have hgoes : (c.updateVerification row).recovery.status.GoesOn := by
      rw [heligible]
      decide
    obtain ⟨work, hwork, -⟩ := hwork
    exact hrow.goesOn rfl (leavesNoMore_of_same rfl) hgoes hwork hwork ⟨rfl, rfl, rfl⟩
  | faulted =>
    refine hrow.halted rfl (leavesNoMore_of_same rfl) ?_
    simp

/-- The transaction takes no row from a recovery that goes on after passes that were settled. -/
def KeepsSequence (c : Catalog) : RecoveryOperation → Prop
  | .releaseAfterReconciliation _ => c.recovery.passHistory ≠ [] →
    c.recovery.status ≠ .eligible ∧
      (c.recovery.status = .running → c.currentDvdUnrecoveredSourceRanges = .ok [])
  | _ => True

/-- With nothing left, an interrupted pass completes the recovery. -/
theorem interruption_of_nothing (h : c.currentDvdUnrecoveredSourceRanges = .ok [])
    (hsettles : archiveRecoveryCompletionAfterInterruption c timestamp = .ok settlement) :
    settlement.1 = .completed := by
  have hstatus : settledArchiveRecoveryStatus c = .ok .completed := by
    rw [settledArchiveRecoveryStatus, h]
    rfl
  obtain ⟨status, hfound, hsettles⟩ := bind_ok.1 hsettles
  cases hstatus.symm.trans hfound
  obtain ⟨completion, -, hsettles⟩ := bind_ok.1 hsettles
  obtain ⟨-, -, hsettles⟩ := bind_ok.1 hsettles
  cases hsettles
  rfl

theorem PassesInOrder.log_nil (h : PassesInOrder c log) (hnil : c.recovery.passHistory = []) :
    log = [] := by
  have hlast := h.getLast?
  rw [hnil] at hlast
  exact List.getLast?_eq_none_iff.1 hlast.symm

/-- A transaction keeps the passes in order, or appends the one that comes next. -/
theorem RecoveryOperation.Effect.passesInOrder {op : RecoveryOperation}
    (he : op.Effect timestamp c c') (hkeeps : KeepsSequence c op) (hc : PassesInOrder c log) :
    PassesInOrder c' log ∨ ∃ entry, PassesInOrder c' (log ++ [entry]) := by
  cases he with
  | aside op ha =>
    obtain ⟨-, hheader, hmanifests, -⟩ := ha.evidence
    have hcurrent : c'.currentManifest = c.currentManifest := by
      rw [Catalog.currentManifest, Catalog.currentManifest, hheader, hmanifests]
    exact .inl (hc.same ha.recovery hcurrent ha.work)
  | touched op ht =>
    obtain ⟨work, claimedAt, updatedAt, confirmations, hwork, -, rfl⟩ := ht.row
    refine .inl (hc.frame rfl (leavesNoMore_of_same rfl) ?_ ?_)
    · intro hgoes row hrow
      cases hrow
      exact .inl ⟨hgoes, work, hwork, rfl, rfl, rfl⟩
    · intro _ hnone
      cases hnone
  | claimed h => exact .inl (h.passesInOrder hc)
  | takenOver work hheld hrunning he =>
    subst he
    have hgoes : c.recovery.status.GoesOn := by
      rw [hrunning.2.2]
      decide
    exact .inl (hc.goesOn rfl (leavesNoMore_of_same rfl) hgoes (heldWork_some.1 hheld).1 rfl
      ⟨rfl, rfl, rfl⟩)
  | projected _ h => exact .inl (h.passesInOrder hc)
  | settled hclaim h =>
    exact .inr (h.passesInOrder (requireCurrentArchiveRecoveryClaim_ok.1 hclaim).1 hc)
  | @faulted _ _ _ storageFault _ _ _ _ he =>
    subst he
    refine .inl (hc.halted rfl (leavesNoMore_of_same rfl) ?_)
    show (if storageFault = true then ArchiveRecoveryStatus.paused else .faulted) ∈ _
    cases storageFault with
    | true => simp
    | false => simp
  | released hstatus _ he =>
    subst he
    refine .inl (hc.frame rfl (leavesNoMore_of_same rfl) ?_ ?_)
    · intro _ work hwork
      cases hwork
    · intro hon _
      apply hc.log_nil
      by_contra hpasses
      have hnot := (hkeeps hpasses).1
      simp only [List.mem_cons, List.not_mem_nil, or_false] at hon hstatus
      tauto
  | abandoned h =>
    refine h.passesInOrder (fun heligible => .inr ⟨rfl, hc.log_nil ?_⟩) (fun _ => rfl) hc
    by_contra hpasses
    have hnothing := (hkeeps hpasses).2 h.running
    cases (interruption_of_nothing hnothing h.settles).symm.trans heligible
  | requeued hclaim h =>
    have hwork := (requireCurrentArchiveRecoveryClaim_ok.1 hclaim).1
    refine h.passesInOrder (fun heligible => .inl ⟨_, hwork, ?_⟩) (fun hdone => if_pos hdone) hc
    rw [if_neg (by simp [heligible])]
  | resumed h => exact .inl (h.passesInOrder hc)
  | activated h => exact .inl (h.passesInOrder hc)
  | stopping _ _ _ _ _ _ he =>
    subst he
    refine .inl (hc.halted rfl (leavesNoMore_of_same rfl) ?_)
    simp [ArchiveRecovery.stopping]
  | stopped _ _ _ he =>
    subst he
    refine .inl (hc.halted rfl (leavesNoMore_of_same rfl) ?_)
    simp
  | stopDeferred hstopping _ he =>
    subst he
    refine .inl (hc.halted rfl (leavesNoMore_of_same rfl) ?_)
    simp [hstopping]
  | stopFaulted _ _ he =>
    subst he
    refine .inl (hc.halted rfl (leavesNoMore_of_same rfl) ?_)
    simp
  | confirmed work _ _ hwaiting hwork _ he =>
    subst he
    have hgoes : c.recovery.status.GoesOn := by
      rw [hwaiting.1]
      decide
    exact .inl (hc.goesOn rfl (leavesNoMore_of_same rfl) hgoes hwork rfl ⟨rfl, rfl, rfl⟩)
  | verified op h =>
    left
    induction h with
    | refl => exact hc
    | tail _ hstep ih => exact hstep.passesInOrder ih

/-- The summary that a transaction has appended to the history. -/
def appendedSummaries (c c' : Catalog) : List ArchiveRecoveryPassSummary :=
  if c'.recovery.passHistory = c.recovery.passHistory then []
  else c'.recovery.passHistory.getLast?.toList

theorem PassesInOrder.appendedSummaries_of_same (h : PassesInOrder c log)
    (h' : PassesInOrder c' log) : appendedSummaries c c' = [] := by
  rw [appendedSummaries, if_pos (h'.kept.trans h.kept.symm)]

theorem PassesInOrder.appendedSummaries_of_next (h : PassesInOrder c log)
    (h' : PassesInOrder c' (log ++ [entry])) : appendedSummaries c c' = [entry] := by
  have hlast : c'.recovery.passHistory.getLast? = some entry := by
    rw [h'.getLast?, List.getLast?_concat]
  have hchanged : c'.recovery.passHistory ≠ c.recovery.passHistory := by
    intro hsame
    rw [hsame, h.getLast?] at hlast
    -- the two summaries have different numbers
    have hnumber := (h.sequenced.last hlast).1
    have hnext := (h'.sequenced.last List.getLast?_concat).1
    rw [List.length_append, List.length_singleton] at hnext
    omega
  rw [appendedSummaries, if_neg hchanged, hlast]
  rfl

/-- A recovery with the summaries of all its passes, whatever its history still has of them. -/
structure RecordedRecovery where
  system : RecoverySystem
  log : List ArchiveRecoveryPassSummary

variable (sha256 : Hashed → Digest)

/-- Some worker or operator commits a transaction, and what it settles is recorded. -/
def RecordedRecovery.Step (r : RecordedRecovery) (op : RecoveryOperation) (r' : RecordedRecovery) :
    Prop :=
  RecoverySystem.Step sha256 r.system op r'.system ∧
    r'.log = r.log ++ appendedSummaries r.system.catalog r'.system.catalog

/-- A step that takes no row from a recovery that goes on. -/
def RecordedRecovery.KeptStep (r : RecordedRecovery) (op : RecoveryOperation)
    (r' : RecordedRecovery) : Prop :=
  KeepsSequence r.system.catalog op ∧ r.Step sha256 op r'

theorem RecordedRecovery.KeptStep.passesInOrder (h : KeptStep sha256 r op r')
    (hr : PassesInOrder r.system.catalog r.log) :
    PassesInOrder r'.system.catalog r'.log := by
  obtain ⟨hkeeps, hstep, hlog⟩ := h
  obtain ⟨-, -, timestamp, returned, hop⟩ := (RecoverySystem.step_iff sha256).1 hstep
  obtain hsame | ⟨entry, hnext⟩ :=
    (RecoveryOperation.run_effect sha256 hop).passesInOrder hkeeps hr
  · rw [hlog, hr.appendedSummaries_of_same hsame, List.append_nil]
    exact hsame
  · rw [hlog, hr.appendedSummaries_of_next hnext]
    exact hnext

/-- The next pass of a recovery comes after the ones that were settled. -/
structure NextPassContinues (c : Catalog) (log : List ArchiveRecoveryPassSummary) : Prop where
  row : c.recovery.status.GoesOn → ∀ work ∈ c.work,
    work.passNumber = log.length + 1 ∧ work.passDirection = directionAfter log.length
  first : c.recovery.status = .eligible → c.work = none → log = []

/-- In every run in which no reconciliation takes the row of a recovery that goes on, the passes
are in sequence, the history has the last of them, and the next pass continues them. -/
theorem passes_in_sequence (hstart : RecoverySystem.Initial s₀)
    (hrun : Run (RecordedRecovery.KeptStep sha256) ⟨s₀, []⟩ ops r) :
    CoherentPasses r.log ∧ r.system.catalog.recovery.passHistory = boundedHistory r.log ∧
      NextPassContinues r.system.catalog r.log := by
  have horder : PassesInOrder r.system.catalog r.log := by
    apply hrun.inv (I := fun r => PassesInOrder r.system.catalog r.log)
    · intro r op r' hr hstep
      exact RecordedRecovery.KeptStep.passesInOrder sha256 hstep hr
    · exact hstart.1.passesInOrder
  refine ⟨horder.sequenced.coherent, horder.kept, ?_, ?_⟩
  · intro hgoes work hwork
    have hcontinues := horder.next hgoes work hwork
    exact ⟨hcontinues.number, hcontinues.direction⟩
  · intro heligible
    exact horder.fresh (by rw [heligible]; exact List.mem_cons_self)

/-- A run of transactions of which none takes a row away can be recorded. -/
theorem RecordedRecovery.records (hrun : Run (RecoverySystem.Step sha256) s ops s')
    (hkeeps : ∀ op ∈ ops, ∀ c, KeepsSequence c op) (log : List ArchiveRecoveryPassSummary) :
    ∃ log', Run (KeptStep sha256) ⟨s, log⟩ ops ⟨s', log'⟩ := by
  induction hrun generalizing log with
  | nil s => exact ⟨log, .nil _⟩
  | @cons s op t ops u hstep _ ih =>
    obtain ⟨log', hrest⟩ := ih (fun op hm => hkeeps op (List.mem_cons_of_mem _ hm))
      (log ++ appendedSummaries s.catalog t.catalog)
    exact ⟨log', .cons ⟨hkeeps op List.mem_cons_self _, hstep, rfl⟩ hrest⟩

/-- A pass recovers nothing, and the recovery is paused. -/
def pausedRun : List (Nat × RecoveryOperation) :=
  firstClaimRun ++ [(5, .settlePass sampleClaim "next")]

/-- The recovery is resumed after that. -/
def resumedRun : List (Nat × RecoveryOperation) :=
  pausedRun ++
    [(6, .requestResume ⟨"recovery", "attempt", 1, 1⟩ "next-attempt" "resume" none "unused")]

/-- A reconciliation worker that had stalled releases the work of the paused recovery, and the
recovery is resumed after that. -/
theorem resumedRun_in_sequence : ∃ ops r, .releaseAfterReconciliation "attempt" ∈ ops ∧
    Run (RecordedRecovery.KeptStep sampleSha256) ⟨publishedSystem, []⟩ ops r ∧
      r.system.catalog.recovery.status = .waitingForDisc ∧ CoherentPasses r.log ∧
      r.system.catalog.recovery.passHistory = boundedHistory r.log ∧
      NextPassContinues r.system.catalog r.log := by
  have h : ∃ s ∈ publishedSystem.performAll sampleSha256 pausedRun,
      s.catalog.recovery.passHistory ≠ [] ∧ s.catalog.recovery.status = .paused ∧
      ∃ t ∈ s.performAll sampleSha256 [(6, .releaseAfterReconciliation "attempt")],
      s.catalog.work ≠ none ∧ t.catalog.work = none ∧
      ∃ u ∈ t.performAll sampleSha256
        [(7, .requestResume ⟨"recovery", "attempt", 1, 1⟩ "next-attempt" "resume" none "unused")],
      u.catalog.recovery.status = .waitingForDisc := by
    decide +kernel
  obtain ⟨s, hs, -, hpaused, t, ht, -, -, u, hu, hwaiting⟩ := h
  have hkeeps : ∀ op ∈ pausedRun.map Prod.snd, ∀ c, KeepsSequence c op := by
    simp [pausedRun, firstClaimRun, KeepsSequence]
  obtain ⟨log, hbefore⟩ :=
    RecordedRecovery.records sampleSha256 (RecoverySystem.run_of_performAll _ hs) hkeeps []
  have hreleased : Run (RecordedRecovery.KeptStep sampleSha256) ⟨s, log⟩
      [.releaseAfterReconciliation "attempt"]
        ⟨t, log ++ appendedSummaries s.catalog t.catalog⟩ := by
    have hrun := RecoverySystem.run_of_performAll sampleSha256 ht
    cases hrun with
    | cons hstep hnil =>
      cases hnil
      refine .single ⟨fun _ => ?_, hstep, rfl⟩
      rw [hpaused]
      exact ⟨by decide, fun hrunning => by cases hrunning⟩
  obtain ⟨log', hresumed⟩ := RecordedRecovery.records sampleSha256
    (RecoverySystem.run_of_performAll _ hu) (by simp [KeepsSequence])
    (log ++ appendedSummaries s.catalog t.catalog)
  have hrun := (hbefore.append hreleased).append hresumed
  exact ⟨_, _, by simp, hrun, hwaiting,
    passes_in_sequence sampleSha256 publishedSystem_initial hrun⟩

def secondPassClaim : ClaimedArchiveRecoveryWork :=
  { sampleClaim with verificationId := some "next", claimToken := "second-pass" }

/-- A reconciliation stalls before it releases the work; another worker completes it, a pass is
settled and the next one verified, and then the first worker goes on. -/
def lateReleaseBetweenPasses : List (Nat × RecoveryOperation) := [
  (1, .submitReconciliation),
  (2, .claimNextReconciliation "first" "first-token"),
  (70000, .recoverExpiredReconciliations),
  (70001, .claimNextReconciliation "second" "second-token"),
  (70002, .completeReconciliation ⟨1, "second-token"⟩ true),
  (70003, .submitVerification "inspection" 1 1 "verification"),
  (70004, .claimNextVerification "worker" "verification-token"),
  (70005, .completeVerification ⟨"verification", "verification-token"⟩ ⟨.match, [], 0⟩ "unused"),
  (70006, .claimNextVerifiedCandidate "worker" "token"),
  (70007, .projectDvdRecoveryCheckpoint sampleProjection),
  (70008, .settlePass sampleClaim "next"),
  (70009, .claimNextVerification "worker" "next-token"),
  (70010, .completeVerification ⟨"next", "next-token"⟩ ⟨.match, [], 0⟩ "unused"),
  (70011, .releaseAfterReconciliation "attempt"),
  (70012, .claimNextVerifiedCandidate "worker" "second-pass"),
  (70013, .settlePass secondPassClaim "unused")]

/-- The row of a paused recovery still has the number of the pass that was settled, and after a
late release the passes are counted from one again. -/
theorem passes_out_of_sequence : RecoverySystem.Initial publishedSystem ∧
    (∃ s, Run (RecoverySystem.Step sampleSha256) publishedSystem (pausedRun.map Prod.snd) s ∧
      s.catalog.recovery.passHistory.map (·.passNumber) = [1] ∧
      s.catalog.work.map (·.passNumber) = some 1) ∧
    ∃ s, Run (RecoverySystem.Step sampleSha256) publishedSystem
        (lateReleaseBetweenPasses.map Prod.snd) s ∧
      s.catalog.recovery.passHistory.map (·.passNumber) = [1, 1] ∧
      s.catalog.recovery.passHistory.map (·.direction) = [.forward, .forward] := by
  have hpaused : ∃ s ∈ publishedSystem.performAll sampleSha256 pausedRun,
      s.catalog.recovery.passHistory.map (·.passNumber) = [1] ∧
      s.catalog.work.map (·.passNumber) = some 1 := by
    decide +kernel
  have hlate : ∃ s ∈ publishedSystem.performAll sampleSha256 lateReleaseBetweenPasses,
      s.catalog.recovery.passHistory.map (·.passNumber) = [1, 1] ∧
      s.catalog.recovery.passHistory.map (·.direction) = [.forward, .forward] := by
    decide +kernel
  obtain ⟨s, hs, hnumbers⟩ := hpaused
  obtain ⟨t, ht, hagain⟩ := hlate
  exact ⟨publishedSystem_initial, ⟨s, RecoverySystem.run_of_performAll _ hs, hnumbers⟩,
    t, RecoverySystem.run_of_performAll _ ht, hagain⟩

end RipDvd
