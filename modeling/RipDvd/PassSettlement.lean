import RipDvd.PassOrder

namespace RipDvd
set_option autoImplicit true

/-- The verification that the row is bound to has found the disc of the archive. -/
def MatchBound (c : Catalog) (work : ArchiveRecoveryWork) : Prop :=
  ∃ verification ∈ c.verifications, work.verificationId = some verification.id ∧
    verification.archiveRecoveryId = c.recovery.id ∧
    verification.archiveRecoveryAttemptId = some c.recovery.attemptId ∧
    verification.status = .completed ∧ verification.outcome = some .match

instance (c : Catalog) (work : ArchiveRecoveryWork) : Decidable (MatchBound c work) :=
  inferInstanceAs (Decidable (∃ verification ∈ c.verifications, _))

/-- What is left of a pass that has come to the end of its sectors. -/
structure PassEnded (c : Catalog) (work : ArchiveRecoveryWork) (remaining : Nat) (c' : Catalog) :
    Prop where
  completed : remaining = 0 → c'.recovery.status = .completed ∧ c'.work = none
  productive : 0 < remaining → 0 < work.passRecoveredSectorCount →
    c'.recovery.status = .eligible ∧
    (∃ row, c'.work = some row ∧ row.status = .requested ∧
      row.toArchiveRecoveryPass = { ArchiveRecoveryPass.initial with
        passNumber := work.passNumber + 1
        passDirection := work.passDirection.opposite }) ∧
    ∃ verification, c'.verifications = c.verifications ++ [verification] ∧
      verification.status = .queued ∧ verification.archiveRecoveryId = c.recovery.id ∧
      verification.archiveRecoveryAttemptId = some c.recovery.attemptId
  noProgress : 0 < remaining → work.passRecoveredSectorCount = 0 →
    c'.recovery.status = .paused ∧ c'.recovery.pauseReason = some .noProgress

theorem queueNext_ok
    (h : queueNextArchiveRecoveryPassVerification c newId work.verificationId timestamp = .ok c') :
    MatchBound c work ∧ ∃ verification, verification.status = .queued ∧
      verification.archiveRecoveryId = c.recovery.id ∧
      verification.archiveRecoveryAttemptId = some c.recovery.attemptId ∧
      c' = { c with verifications := c.verifications ++ [verification] } := by
  unfold queueNextArchiveRecoveryPassVerification at h
  split at h
  · cases h
  · next verificationId hbound =>
    split at h
    · next previous hfound =>
      have hbinds := List.find?_some hfound
      obtain ⟨hid, hrest⟩ := decide_eq_true_iff.1 hbinds
      obtain ⟨_, -, he⟩ := bind_ok.1 h
      cases he
      exact ⟨⟨previous, List.mem_of_find?_eq_some hfound, hbound.trans (congrArg some hid.symm),
        hrest⟩, _, rfl, rfl, rfl, rfl⟩
    · cases h

theorem queueNext_of_match (h : MatchBound c work) (hfresh : ∀ other ∈ c.verifications,
    other.id ≠ newId) :
    ∃ c', queueNextArchiveRecoveryPassVerification c newId work.verificationId timestamp =
      .ok c' := by
  obtain ⟨verification, hm, hbound, hrest⟩ := h
  have hfound : (c.verifications.find? fun v => v.id = verification.id ∧
      v.archiveRecoveryId = c.recovery.id ∧
      v.archiveRecoveryAttemptId = some c.recovery.attemptId ∧
      v.status = .completed ∧ v.outcome = some .match).isSome := by
    rw [List.find?_isSome]
    exact ⟨verification, hm, decide_eq_true ⟨rfl, hrest⟩⟩
  obtain ⟨previous, hprevious⟩ := Option.isSome_iff_exists.1 hfound
  rw [hbound]
  unfold queueNextArchiveRecoveryPassVerification
  simp only [hprevious]
  refine ⟨_, bind_ok.2 ⟨(), rejectIf_ok.2 ?_, rfl⟩⟩
  intro hused
  obtain ⟨other, ho, he⟩ := hused
  exact hfresh other ho he

/-- The pass of a running recovery is settled in two steps. -/
theorem settlePass_running (hclaim : requireCurrentArchiveRecoveryClaim c claim = .ok work)
    (hrunning : c.recovery.status = .running)
    (hsettles : archiveRecoveryPassSettlement c timestamp = .ok settlement) :
    settlePass claim timestamp newId c = .ok (recovery, c') ↔ recovery = c'.recovery ∧
      ∃ settled, settleWork c work settlement.outcome timestamp newId = .ok settled ∧
        updateArchiveRecovery settled (c.recovery.settled settlement timestamp) = .ok c' := by
  have hactive : ¬(c.recovery.status ≠ .running ∧ c.recovery.status ≠ .completed) :=
    fun h => h.1 hrunning
  constructor
  · intro h
    obtain ⟨row, hrow, h⟩ := bind_ok.1 h
    cases hclaim.symm.trans hrow
    rw [if_neg hactive] at h
    obtain ⟨found, hfound, h⟩ := bind_ok.1 h
    cases hsettles.symm.trans hfound
    obtain ⟨settled, hsettled, h⟩ := bind_ok.1 h
    obtain ⟨written, hwritten, h⟩ := bind_ok.1 h
    cases h
    exact ⟨rfl, settled, hsettled, hwritten⟩
  · intro h
    obtain ⟨rfl, settled, hsettled, hwritten⟩ := h
    refine bind_ok.2 ⟨work, hclaim, ?_⟩
    rw [if_neg hactive]
    exact bind_ok.2 ⟨settlement, hsettles, bind_ok.2 ⟨settled, hsettled,
      bind_ok.2 ⟨c', hwritten, rfl⟩⟩⟩

theorem length_boundedHistory (history : List ArchiveRecoveryPassSummary) :
    (boundedHistory history).length ≤ DVD_RECOVERY_PASS_HISTORY_LIMIT := by
  rw [boundedHistory, List.length_drop]
  omega

/-- A running recovery may take any result of its pass. -/
theorem ArchiveRecovery.Valid.settled {recovery : ArchiveRecovery} (h : recovery.Valid)
    (hrunning : recovery.status = .running) {settlement : ArchiveRecoveryPassSettlement}
    (hhistory : settlement.history.length ≤ DVD_RECOVERY_PASS_HISTORY_LIMIT) (timestamp : Nat) :
    (recovery.settled settlement timestamp).Valid := by
  rw [ArchiveRecovery.valid_iff] at h ⊢
  obtain ⟨hordinal, -, -, -, -, -, hfree, hfault⟩ := h
  obtain ⟨hoperation, hrequested, hstopped⟩ := hfree (by simp [hrunning])
  have hnofault : recovery.faultCode = none := by
    rw [hrunning] at hfault
    simpa using hfault
  rw [ArchiveRecovery.settled]
  cases settlement.outcome with
  | completed => simp [settledStatus, hordinal, hhistory, hoperation, hrequested,
    hstopped, hnofault]
  | productive => simp [settledStatus, hordinal, hhistory, hoperation, hrequested,
    hstopped, hnofault]
  | noProgress => simp [settledStatus, hordinal, hhistory, hoperation, hrequested,
    hstopped, hnofault]

theorem eq_nil_of_count (h : Canonical ranges) (hnone : unrecoveredSectorCount ranges = 0) :
    ranges = [] := by
  cases ranges with
  | nil => rfl
  | cons range rest =>
    have hpos := (h.within range List.mem_cons_self).1
    rw [unrecoveredSectorCount_cons] at hnone
    omega

theorem requeued_claimValid (work : ArchiveRecoveryWork) (timestamp : Nat) :
    (work.requeued timestamp).ClaimValid :=
  .inl ⟨rfl, Option.some_ne_none _, rfl, rfl, rfl⟩

theorem PassAccounts.valid {pass : ArchiveRecoveryPass} (h : PassAccounts pass revision ranges) :
    pass.Valid := by
  obtain ⟨startedAt, hstarted⟩ := h.startedAt
  obtain ⟨initial, hpos, hinitial, hsum⟩ := h.initial
  refine ⟨h.number, .inr ⟨?_, initial, hinitial, hpos, ?_⟩⟩
  · rw [hstarted]
    exact Option.some_ne_none _
  · omega

/-- What settling the row of a pass has done. -/
inductive WorkSettled (c : Catalog) (work : ArchiveRecoveryWork) :
    ArchiveRecoveryPassOutcome → Catalog → Prop where
  | completed : WorkSettled c work .completed { c with work := none }
  | productive (hmatch : MatchBound c work) (hrow : row.toArchiveRecoveryPass =
        { ArchiveRecoveryPass.initial with
          passNumber := work.passNumber + 1
          passDirection := work.passDirection.opposite })
      (hrequested : row.status = .requested) (hqueued : verification.status = .queued)
      (hrecovery : verification.archiveRecoveryId = c.recovery.id)
      (hattempt : verification.archiveRecoveryAttemptId = some c.recovery.attemptId) :
    WorkSettled c work .productive { c with
      work := some row
      verifications := c.verifications ++ [verification] }
  | noProgress : WorkSettled c work .noProgress { c with work := some row }

theorem settleWork_settled (h : settleWork c work outcome timestamp newId = .ok settled) :
    WorkSettled c work outcome settled := by
  cases outcome with
  | completed =>
    cases h
    exact .completed
  | productive =>
    obtain ⟨queued, hqueued, hwritten⟩ := bind_ok.1 h
    obtain ⟨hmatch, verification, hstatus, hrecovery, hattempt, rfl⟩ := queueNext_ok hqueued
    obtain ⟨-, -, -, rfl⟩ := writeWork_ok.1 hwritten
    exact .productive hmatch rfl rfl hstatus hrecovery hattempt
  | noProgress =>
    obtain ⟨-, -, -, rfl⟩ := writeWork_ok.1 h
    exact .noProgress

theorem WorkSettled.fields (h : WorkSettled c work outcome settled) :
    settled.recovery = c.recovery ∧ settled.currentManifest = c.currentManifest := by
  cases h with
  | completed => exact ⟨rfl, rfl⟩
  | productive => exact ⟨rfl, rfl⟩
  | noProgress => exact ⟨rfl, rfl⟩

/-- The row of a started pass can be settled, as long as the next pass can be verified. -/
theorem settleWork_settles (hcounted : Counted c) (hrow : RowOfAttempt c)
    (hwork : c.work = some work) (hstarted : work.passStartedAt ≠ none)
    (hmatch : outcome = .productive → MatchBound c work)
    (hfresh : ∀ other ∈ c.verifications, other.id ≠ newId) (timestamp : Nat) :
    ∃ settled, settleWork c work outcome timestamp newId = .ok settled := by
  obtain ⟨current, -, haccounts⟩ := hcounted.accounts work hwork hstarted
  have hidentity := hrow work hwork
  cases outcome with
  | completed => exact ⟨_, rfl⟩
  | productive =>
    obtain ⟨queued, hqueued⟩ := queueNext_of_match (hmatch rfl) hfresh
    obtain ⟨-, verification, -, -, -, rfl⟩ := queueNext_ok hqueued
    exact ⟨_, bind_ok.2 ⟨_, hqueued, writeWork_ok.2 ⟨requeued_claimValid _ _,
      ⟨Nat.succ_pos _, .inl ⟨rfl, rfl, rfl, rfl⟩⟩, hidentity, rfl⟩⟩⟩
  | noProgress =>
    exact ⟨_, writeWork_ok.2 ⟨requeued_claimValid _ _, haccounts.valid, hidentity, rfl⟩⟩

theorem history_of_settlement (h : archiveRecoveryPassSettlement c timestamp = .ok settlement) :
    settlement.history.length ≤ DVD_RECOVERY_PASS_HISTORY_LIMIT := by
  rw [archiveRecoveryPassSettlement] at h
  split at h
  · cases h
  · split at h
    · obtain ⟨ranges, -, h⟩ := bind_ok.1 h
      obtain ⟨-, -, h⟩ := bind_ok.1 h
      cases h
      exact length_boundedHistory _
    · cases h

/-- The status that a settled recovery takes fits the map. -/
theorem settled_matches {settled : Catalog} (hcurrent : settled.currentManifest = some current)
    (hcanonical : Canonical current.unrecoveredSourceRanges)
    (houtcome : settlement.outcome =
      passOutcome (unrecoveredSectorCount current.unrecoveredSourceRanges) recovered)
    (recovery : ArchiveRecovery) (timestamp : Nat) :
    archiveRecoveryStatusMatches settled (recovery.settled settlement timestamp) := by
  by_cases hnone : unrecoveredSectorCount current.unrecoveredSourceRanges = 0
  · rw [passOutcome, if_pos hnone] at houtcome
    refine .inr (.inr (.inl ⟨?_, current, hcurrent, eq_nil_of_count hcanonical hnone⟩))
    rw [ArchiveRecovery.settled, houtcome]
    rfl
  · have hleft : current.unrecoveredSourceRanges ≠ [] := by
      intro hnil
      rw [hnil] at hnone
      exact hnone rfl
    refine .inr (.inr (.inr ⟨?_, current, hcurrent, hleft⟩))
    rw [passOutcome, if_neg hnone] at houtcome
    rw [ArchiveRecovery.settled, houtcome]
    split
    · exact List.mem_cons_self
    · exact List.mem_cons_of_mem _ List.mem_cons_self

theorem WorkSettled.ended (h : WorkSettled c work outcome settled)
    (houtcome : outcome = passOutcome remaining work.passRecoveredSectorCount)
    (hsettlement : settlement.outcome = outcome) (recovery : ArchiveRecovery) (timestamp : Nat) :
    PassEnded c work remaining
      { settled with recovery := recovery.settled settlement timestamp } := by
  have hstatus : (recovery.settled settlement timestamp).status = settledStatus outcome := by
    rw [← hsettlement]
    rfl
  refine ⟨fun hnone => ?_, fun hleft hsome => ?_, fun hleft hnothing => ?_⟩
  · rw [passOutcome, if_pos hnone] at houtcome
    subst houtcome
    cases h
    exact ⟨hstatus, rfl⟩
  · rw [passOutcome, if_neg (Nat.pos_iff_ne_zero.1 hleft), if_pos hsome] at houtcome
    subst houtcome
    cases h with
    | productive hmatch hrow hrequested hqueued hrecovery hattempt =>
      exact ⟨hstatus, ⟨_, rfl, hrequested, hrow⟩, _, rfl, hqueued, hrecovery, hattempt⟩
  · rw [passOutcome, if_neg (Nat.pos_iff_ne_zero.1 hleft), if_neg (by omega)] at houtcome
    refine ⟨hstatus.trans (by rw [houtcome]; rfl), ?_⟩
    show (if settlement.outcome = .noProgress then _ else _) = _
    rw [hsettlement, if_pos houtcome]

variable (sha256 : Hashed → Digest)

/-- A pass, at the end of its sectors or before it, is settled as it should be if and only if the
clock has not gone back and, where there is a next pass, a match can be repeated for it. -/
theorem pass_settles_iff (hstart : RecoverySite.Initial s₀)
    (hrun : Run (RecoverySite.Step sha256) s₀ actions s)
    (hclaim : requireCurrentArchiveRecoveryClaim s.catalog claim = .ok work)
    (hrunning : s.catalog.recovery.status = .running)
    (hcurrent : s.catalog.currentManifest = some current)
    (hfresh : ∀ other ∈ s.catalog.verifications, other.id ≠ newId) (timestamp : Nat) :
    (∃ recovery c', settlePass claim timestamp newId s.catalog = .ok (recovery, c') ∧
      PassEnded s.catalog work (unrecoveredSectorCount current.unrecoveredSourceRanges) c') ↔
    s.catalog.recovery.updatedAt ≤ timestamp ∧ (MatchBound s.catalog work ∨
      work.passRecoveredSectorCount = 0 ∨
      unrecoveredSectorCount current.unrecoveredSourceRanges = 0) := by
  have hordered := ordered_of_run sha256 hstart hrun
  have hcounted := hordered.progressing.counted
  have hcoherent := hordered.progressing.coherent
  obtain ⟨hwork, -, -, hclaimed, -⟩ := requireCurrentArchiveRecoveryClaim_ok.1 hclaim
  have hstarted := hcounted.started work hwork hclaimed
  obtain ⟨found, settlement, hfound, hsettles, houtcome⟩ :=
    hcounted.settlement hwork hstarted timestamp
  cases hcurrent.symm.trans hfound
  constructor
  · intro h
    obtain ⟨recovery, c', hsettled, -⟩ := h
    obtain ⟨-, settled, hrows, hwritten⟩ := (settlePass_running hclaim hrunning hsettles).1 hsettled
    have hws := settleWork_settled hrows
    obtain ⟨-, -, hclock, -⟩ := updateArchiveRecovery_ok.1 hwritten
    rw [hws.fields.1] at hclock
    refine ⟨hclock, ?_⟩
    by_cases hnone : unrecoveredSectorCount current.unrecoveredSourceRanges = 0
    · exact .inr (.inr hnone)
    · by_cases hnothing : work.passRecoveredSectorCount = 0
      · exact .inr (.inl hnothing)
      · rw [houtcome, passOutcome, if_neg hnone, if_pos (Nat.pos_of_ne_zero hnothing)] at hws
        cases hws with
        | productive hmatch => exact .inl hmatch
  · intro h
    obtain ⟨hclock, hcondition⟩ := h
    have hmatch : settlement.outcome = .productive → MatchBound s.catalog work := by
      intro hproductive
      rw [houtcome, passOutcome] at hproductive
      split at hproductive
      · cases hproductive
      · next hleft =>
        split at hproductive
        · next hsome =>
          rcases hcondition with hmatch | hnothing | hnone
          · exact hmatch
          · omega
          · exact absurd hnone hleft
        · cases hproductive
    obtain ⟨settled, hrows⟩ := settleWork_settles hcounted hcoherent.row hwork hstarted hmatch
      hfresh timestamp
    have hws := settleWork_settled hrows
    obtain ⟨hsame, hmap⟩ := hws.fields
    have hwritten : updateArchiveRecovery settled
        (s.catalog.recovery.settled settlement timestamp) =
        .ok { settled with recovery := s.catalog.recovery.settled settlement timestamp } :=
      updateArchiveRecovery_ok.2 ⟨by rw [hsame]; rfl, by rw [hsame]; rfl, hsame ▸ hclock,
        settled_matches (hmap.trans hcurrent) (hordered.history.canonical current hcurrent) houtcome
          _ _,
        hcoherent.valid.settled hrunning (history_of_settlement hsettles) timestamp, rfl⟩
    exact ⟨_, _, (settlePass_running hclaim hrunning hsettles).2 ⟨rfl, settled, hrows, hwritten⟩,
      hws.ended houtcome rfl _ _⟩

/-- One batch of a worker. -/
def batchRun (claim : ClaimedArchiveRecoveryWork) (input : DvdRecoveryCheckpointProjection) :
    List (Nat × SiteAction) := [
  (6, .beginBatch claim),
  (7, .reserveJournal claim.claimToken),
  (8, .publish claim.claimToken { input with
    claim := none
    recoveryRead := { input.recoveryRead with
      discConfirmationId := some claim.discConfirmationId } }),
  (9, .project claim),
  (10, .unlinkJournal claim.claimToken)]

/-- A pass over both sectors of the sample recovers the first of them. -/
def wholePassRun (claim : ClaimedArchiveRecoveryWork) : List (Nat × SiteAction) :=
  (5, .readCheckpoint claim.claimToken) ::
    (batchRun claim sampleProjection ++ batchRun claim secondProjection)

/-- The disc matches, and a worker claims the pass. -/
def matchedRun : List (Nat × SiteAction) := [
  (1, .transaction (.submitVerification "inspection" 1 1 "verification")),
  (2, .transaction (.claimNextVerification "worker" "verification-token")),
  (3, .transaction (.completeVerification ⟨"verification", "verification-token"⟩ ⟨.match, [], 0⟩
    "unused")),
  (4, .claim "worker" "token")]

theorem matchedPass_settles : ∃ (s : RecoverySite) (current : DvdArchiveEvidenceManifestRow),
    Run (RecoverySite.Step sampleSha256) publishedSite
      ((matchedRun ++ wholePassRun sampleClaim).map Prod.snd) s ∧
    s.phase "token" = .reading [] ∧
    ∃ work recovery c', settlePass sampleClaim 11 "next" s.catalog = .ok (recovery, c') ∧
      PassEnded s.catalog work (unrecoveredSectorCount current.unrecoveredSourceRanges) c' := by
  have h : ∃ s ∈ publishedSite.performAll sampleSha256 (matchedRun ++ wholePassRun sampleClaim),
      s.phase "token" = .reading [] ∧
      (requireCurrentArchiveRecoveryClaim s.catalog sampleClaim).isOk ∧
      s.catalog.recovery.status = .running ∧ s.catalog.currentManifest.isSome ∧
      (∀ other ∈ s.catalog.verifications, other.id ≠ "next") ∧
      s.catalog.recovery.updatedAt ≤ 11 ∧ ∃ work ∈ s.catalog.work, MatchBound s.catalog work := by
    decide +kernel
  obtain ⟨s, hs, hphase, hclaim, hrunning, hcurrent, hfresh, hclock, row, hrow, hmatch⟩ := h
  obtain ⟨work, hclaim⟩ := exists_ok hclaim
  obtain ⟨current, hcurrent⟩ := Option.isSome_iff_exists.1 hcurrent
  cases (requireCurrentArchiveRecoveryClaim_ok.1 hclaim).1.symm.trans hrow
  have hrun := RecoverySite.run_of_performAll _ hs
  exact ⟨s, current, hrun, hphase, row, (pass_settles_iff sampleSha256 publishedSite_initial hrun
    hclaim hrunning hcurrent hfresh 11).2 ⟨hclock, .inl hmatch⟩⟩

def confirmedClaim : ClaimedArchiveRecoveryWork :=
  { sampleClaim with discConfirmationId := some "confirmation" }

/-- The disc does not match, an operator confirms it, and a worker claims the pass. -/
def confirmedRun : List (Nat × SiteAction) := [
  (1, .transaction (.submitVerification "inspection" 1 1 "verification")),
  (2, .transaction (.claimNextVerification "worker" "verification-token")),
  (3, .transaction (.completeVerification ⟨"verification", "verification-token"⟩ ⟨.mismatch, [], 0⟩
    "unused")),
  (4, .transaction (.recordConfirmation ⟨"recovery", "attempt", "archive", "verification",
    "inspection", "disc", "generation", "worker", .mismatch, 0, 1, 1, true⟩ "confirmation")),
  (4, .claim "worker" "token")]

/-- The pass of a confirmed disc that has recovered a sector and left one cannot be settled, and is
faulted. -/
theorem confirmedPass_faults : RecoverySite.Initial publishedSite ∧ ∃ s,
    Run (RecoverySite.Step sampleSha256) publishedSite
      ((confirmedRun ++ wholePassRun confirmedClaim).map Prod.snd) s ∧
    s.phase "token" = .reading [] ∧ s.catalog.recovery.status = .running ∧
    settlePass confirmedClaim 11 "next" s.catalog =
      .error (.recordNotFound "DVD Disc Verification" "verification") ∧
    ∃ recovery c', markFault confirmedClaim "CONSISTENCY_FAULT" false false 12 s.catalog =
      .ok (recovery, c') ∧ recovery.status = .faulted := by
  have h : ∃ s ∈ publishedSite.performAll sampleSha256
    (confirmedRun ++ wholePassRun confirmedClaim),
      s.phase "token" = .reading [] ∧ s.catalog.recovery.status = .running ∧
      settlePass confirmedClaim 11 "next" s.catalog =
        .error (.recordNotFound "DVD Disc Verification" "verification") ∧
      (markFault confirmedClaim "CONSISTENCY_FAULT" false false 12 s.catalog).toOption.map
        (·.1.status) = some .faulted := by
    decide +kernel
  obtain ⟨s, hs, hphase, hrunning, hsettle, hfault⟩ := h
  refine ⟨publishedSite_initial, s, RecoverySite.run_of_performAll _ hs, hphase, hrunning, hsettle,
    ?_⟩
  cases hmark : markFault confirmedClaim "CONSISTENCY_FAULT" false false 12 s.catalog with
  | error e =>
    rw [hmark] at hfault
    cases hfault
  | ok result =>
    rw [hmark] at hfault
    exact ⟨result.1, result.2, rfl, Option.some.inj hfault⟩

end RipDvd
