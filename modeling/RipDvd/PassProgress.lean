import RipDvd.Accounts
import RipDvd.PassProtocol

namespace RipDvd
set_option autoImplicit true

/-- A pass that has yet to start. -/
def ArchiveRecoveryPass.Unstarted (pass : ArchiveRecoveryPass) : Prop :=
  ∃ passNumber passDirection, pass = { ArchiveRecoveryPass.initial with passNumber, passDirection }

theorem ArchiveRecoveryPass.Unstarted.startedAt {pass : ArchiveRecoveryPass} (h : pass.Unstarted) :
    pass.passStartedAt = none := by
  obtain ⟨_, _, rfl⟩ := h
  rfl

/-- No pass starts and no sector is accounted for; a row is newly claimed in neither case. -/
structure KeepsPass (c c' : Catalog) : Prop where
  evidence : c'.header = c.header ∧ c'.manifests = c.manifests ∧ c'.recoveryReads = c.recoveryReads
  row : ∀ work', c'.work = some work' →
    (∃ work, c.work = some work ∧ work'.toArchiveRecoveryPass = work.toArchiveRecoveryPass ∧
      (work'.status = .claimed → work.status = .claimed)) ∨
    work'.status = .requested ∧ work'.toArchiveRecoveryPass.Unstarted

theorem KeepsPass.refl (c : Catalog) : KeepsPass c c :=
  ⟨⟨rfl, rfl, rfl⟩, fun work hw => .inl ⟨work, hw, rfl, id⟩⟩

theorem KeepsPass.trans (h : KeepsPass a b) (h' : KeepsPass b c) : KeepsPass a c := by
  obtain ⟨hh, hm, hr⟩ := h.evidence
  obtain ⟨hh', hm', hr'⟩ := h'.evidence
  refine ⟨⟨hh'.trans hh, hm'.trans hm, hr'.trans hr⟩, fun work'' hw'' => ?_⟩
  rcases h'.row work'' hw'' with ⟨work', hw', hpass', hclaimed'⟩ | hnew
  · rcases h.row work' hw' with ⟨work, hw, hpass, hclaimed⟩ | ⟨hrequested, hunstarted⟩
    · exact .inl ⟨work, hw, hpass'.trans hpass, hclaimed ∘ hclaimed'⟩
    · refine .inr ⟨?_, hpass' ▸ hunstarted⟩
      cases hs : work''.status with
      | requested => rfl
      | claimed => cases hrequested.symm.trans (hclaimed' hs)
  · exact .inr hnew

/-- The evidence is as it was, and the row, if there is one, is the old one or a new one. -/
theorem KeepsPass.of_none (hevidence : c'.header = c.header ∧ c'.manifests = c.manifests ∧
    c'.recoveryReads = c.recoveryReads) (hwork' : c'.work = none) : KeepsPass c c' := by
  refine ⟨hevidence, fun work' hw' => ?_⟩
  cases hwork'.symm.trans hw'

theorem KeepsPass.of_row (hevidence : c'.header = c.header ∧ c'.manifests = c.manifests ∧
      c'.recoveryReads = c.recoveryReads) (hwork : c.work = some work)
    (hwork' : c'.work = some work')
    (hpass : work'.toArchiveRecoveryPass = work.toArchiveRecoveryPass)
    (hstatus : work'.status = .requested ∨ work'.status = work.status) : KeepsPass c c' := by
  refine ⟨hevidence, fun row hr => ?_⟩
  cases hwork'.symm.trans hr
  refine .inl ⟨work, hwork, hpass, fun hclaimed => ?_⟩
  rcases hstatus with hrequested | hsame
  · cases hrequested.symm.trans hclaimed
  · exact hsame.symm.trans hclaimed

theorem KeepsPass.of_same (hevidence : c'.header = c.header ∧ c'.manifests = c.manifests ∧
    c'.recoveryReads = c.recoveryReads) (hwork' : c'.work = c.work) : KeepsPass c c' := by
  cases hwork : c.work with
  | none => exact .of_none hevidence (hwork'.trans hwork)
  | some work => exact .of_row hevidence hwork (hwork'.trans hwork) rfl (.inr rfl)

theorem KeepsPass.of_new (hevidence : c'.header = c.header ∧ c'.manifests = c.manifests ∧
      c'.recoveryReads = c.recoveryReads) (hwork' : c'.work = some work')
    (hrequested : work'.status = .requested) (hpass : work'.toArchiveRecoveryPass.Unstarted) :
    KeepsPass c c' := by
  refine ⟨hevidence, fun row hr => ?_⟩
  cases hwork'.symm.trans hr
  exact .inr ⟨hrequested, hpass⟩

theorem Continuation.keepsPass (h : Continuation c timestamp c') : KeepsPass c c' := by
  cases h with
  | unchanged => exact .refl _
  | queued => exact .of_same ⟨rfl, rfl, rfl⟩ rfl
  | rebound _ _ work hwork => exact .of_row ⟨rfl, rfl, rfl⟩ hwork rfl rfl (.inr rfl)
  | unmatched => exact .of_same ⟨rfl, rfl, rfl⟩ rfl
  | faulted => exact .of_same ⟨rfl, rfl, rfl⟩ rfl

theorem VerificationSettles.keepsPass (h : VerificationSettles c timestamp c') :
    KeepsPass c c' := by
  obtain ⟨row, -, hc⟩ := h
  have hrow : KeepsPass c (c.updateVerification row) := .of_same ⟨rfl, rfl, rfl⟩ rfl
  exact hrow.trans hc.keepsPass

theorem Activated.keepsPass (h : Activated c newId timestamp c') : KeepsPass c c' := by
  obtain ⟨work, row, hwork, -, rfl⟩ := h.rows
  exact .of_row ⟨rfl, rfl, rfl⟩ hwork rfl rfl (.inr rfl)

theorem PassSettled.keepsPass (h : PassSettled c work timestamp settlement c')
    (hwork : c.work = some work) : KeepsPass c c' := by
  obtain ⟨row, verifications, hrows, rfl⟩ := h.rows
  generalize settlement.outcome = outcome at hrows
  cases hrows with
  | completed => exact .of_none ⟨rfl, rfl, rfl⟩ rfl
  | productive => exact .of_new ⟨rfl, rfl, rfl⟩ rfl rfl ⟨_, _, rfl⟩
  | noProgress => exact .of_row ⟨rfl, rfl, rfl⟩ hwork rfl rfl (.inl rfl)

theorem PassInterrupted.keepsPass (h : PassInterrupted c timestamp settlement row c')
    (hrow : row = none ∨ ∃ work, c.work = some work ∧ row = some (work.requeued timestamp)) :
    KeepsPass c c' := by
  obtain ⟨-, -, -, rfl, -⟩ := h
  rcases hrow with rfl | ⟨work, hwork, rfl⟩
  · exact .of_none ⟨rfl, rfl, rfl⟩ rfl
  · exact .of_row ⟨rfl, rfl, rfl⟩ hwork rfl rfl (.inl rfl)

theorem Resumed.keepsPass
    (h : Resumed c input attemptId resumeOperationId newVerificationId timestamp c') :
    KeepsPass c c' := by
  have hresumed : KeepsPass c (resumedCatalog c input attemptId resumeOperationId timestamp) :=
    .of_new ⟨rfl, rfl, rfl⟩ rfl rfl ⟨_, _, rfl⟩
  rcases h.result with rfl | ha
  · exact hresumed
  · exact hresumed.trans ha.keepsPass

/-- A transaction starts or continues a pass, accounts for a sector, or does neither. -/
theorem RecoveryOperation.Effect.cases_pass {op : RecoveryOperation}
    (h : op.Effect timestamp c c') :
    KeepsPass c c' ∨
    (∃ workerId claimToken verification confirmation pass,
      op = .claimNextVerifiedCandidate workerId claimToken ∧
      ClaimedCandidate c workerId claimToken timestamp verification confirmation pass c') ∨
    ∃ input, op = .projectDvdRecoveryCheckpoint input ∧ Advances input c c' := by
  cases h with
  | aside op h => exact .inl (.of_same ⟨h.evidence.2.1, h.evidence.2.2⟩ h.work)
  | touched op h =>
    obtain ⟨work, _, _, _, hwork, -, rfl⟩ := h.row
    exact .inl (.of_row ⟨rfl, rfl, rfl⟩ hwork rfl rfl (.inr rfl))
  | claimed h => exact .inr (.inl ⟨_, _, _, _, _, rfl, h⟩)
  | takenOver work hheld _ he =>
    subst he
    exact .inl (.of_row ⟨rfl, rfl, rfl⟩ (heldWork_some.1 hheld).1 rfl rfl (.inr rfl))
  | projected _ h => exact .inr (.inr ⟨_, rfl, h⟩)
  | settled hclaim h => exact .inl (h.keepsPass (requireCurrentArchiveRecoveryClaim_ok.1 hclaim).1)
  | @faulted _ _ _ _ retainWork hclaim _ _ he =>
    subst he
    cases retainWork with
    | true => exact .inl (.of_same ⟨rfl, rfl, rfl⟩ rfl)
    | false => exact .inl (.of_none ⟨rfl, rfl, rfl⟩ rfl)
  | released _ _ he =>
    subst he
    exact .inl (.of_none ⟨rfl, rfl, rfl⟩ rfl)
  | abandoned h => exact .inl (h.keepsPass (.inl rfl))
  | requeued hclaim h =>
    refine .inl (h.keepsPass ?_)
    split
    · exact .inl rfl
    · exact .inr ⟨_, (requireCurrentArchiveRecoveryClaim_ok.1 hclaim).1, rfl⟩
  | resumed h => exact .inl h.keepsPass
  | activated h => exact .inl h.keepsPass
  | stopping _ _ _ work _ hwork he =>
    subst he
    rcases hwork with hwork | ⟨-, rfl⟩
    · exact .inl (.of_row ⟨rfl, rfl, rfl⟩ hwork rfl rfl (.inr rfl))
    · exact .inl (.of_new ⟨rfl, rfl, rfl⟩ rfl rfl ⟨_, _, rfl⟩)
  | stopped _ _ _ he =>
    subst he
    exact .inl (.of_none ⟨rfl, rfl, rfl⟩ rfl)
  | stopDeferred _ _ he =>
    subst he
    exact .inl (.of_same ⟨rfl, rfl, rfl⟩ rfl)
  | stopFaulted _ _ he =>
    subst he
    exact .inl (.of_same ⟨rfl, rfl, rfl⟩ rfl)
  | confirmed work _ _ _ hwork _ he =>
    subst he
    exact .inl (.of_row ⟨rfl, rfl, rfl⟩ hwork rfl rfl (.inr rfl))
  | verified op h =>
    refine .inl ?_
    induction h with
    | refl => exact .refl _
    | tail _ hs ih => exact ih.trans hs.keepsPass

/-- A claimed pass has started, and the counters of a started one add up. -/
structure Counted (c : Catalog) : Prop where
  started : ∀ work, c.work = some work → work.status = .claimed → work.passStartedAt ≠ none
  unstarted : ∀ work, c.work = some work → work.passStartedAt = none →
    work.toArchiveRecoveryPass.Unstarted
  accounts : ∀ work, c.work = some work → work.passStartedAt ≠ none → ∃ current,
    c.currentManifest = some current ∧ PassAccounts work.toArchiveRecoveryPass
      c.header.currentManifestRevision current.unrecoveredSourceRanges

theorem counted_of_none (h : c.work = none) : Counted c := by
  refine ⟨fun work hw => ?_, fun work hw => ?_, fun work hw => ?_⟩
  all_goals cases h.symm.trans hw

theorem KeepsPass.currentManifest (h : KeepsPass c c') :
    c'.currentManifest = c.currentManifest := by
  obtain ⟨hheader, hmanifests, -⟩ := h.evidence
  rw [Catalog.currentManifest, Catalog.currentManifest, hheader, hmanifests]

theorem KeepsPass.counted (h : KeepsPass c c') (hc : Counted c) : Counted c' := by
  refine ⟨fun work' hw' hclaimed => ?_, fun work' hw' hnone => ?_, fun work' hw' hstarted => ?_⟩
  · rcases h.row work' hw' with ⟨work, hw, hpass, hkept⟩ | ⟨hrequested, -⟩
    · rw [hpass]
      exact hc.started work hw (hkept hclaimed)
    · cases hrequested.symm.trans hclaimed
  · rcases h.row work' hw' with ⟨work, hw, hpass, -⟩ | ⟨-, hunstarted⟩
    · rw [hpass] at hnone ⊢
      exact hc.unstarted work hw hnone
    · exact hunstarted
  · rcases h.row work' hw' with ⟨work, hw, hpass, -⟩ | ⟨-, hunstarted⟩
    · rw [hpass, h.evidence.1, h.currentManifest]
      exact hc.accounts work hw (hpass ▸ hstarted)
    · exact absurd hunstarted.startedAt hstarted

/-- The pass of the row, or a new one. -/
def Catalog.pass (c : Catalog) : ArchiveRecoveryPass :=
  (c.work.map (·.toArchiveRecoveryPass)).getD .initial

theorem Counted.pass_unstarted (h : Counted c) (hnone : c.pass.passStartedAt = none) :
    c.pass.Unstarted := by
  cases hw : c.work with
  | none => exact ⟨1, .forward, by rw [Catalog.pass, hw]; rfl⟩
  | some work =>
    have hpass : c.pass = work.toArchiveRecoveryPass := by
      rw [Catalog.pass, hw]
      rfl
    rw [hpass] at hnone ⊢
    exact h.unstarted work hw hnone

/-- A pass that starts has everything before it; one that goes on has its accounts. -/
theorem archiveRecoveryPassStart_ok {pass : ArchiveRecoveryPass}
    (h : archiveRecoveryPassStart c timestamp = .ok pass) :
    (pass = c.pass ∧ c.pass.passStartedAt ≠ none) ∨
    c.pass.passStartedAt = none ∧ ∃ current, c.currentManifest = some current ∧ pass = { c.pass with
      passStartedAt := some timestamp
      passStartedManifestRevision := some c.header.currentManifestRevision
      passInitialUnrecoveredSectorCount :=
        some (unrecoveredSectorCount current.unrecoveredSourceRanges)
      passObservationCount := some 0
      passPositiveIntervalCount := some 0
      passMinimumIntervalMs := none
      passMaximumIntervalMs := none
      passLastObservedAt := none } := by
  rw [archiveRecoveryPassStart, ← Catalog.pass] at h
  split at h
  · next hstarted => exact .inl ⟨(pure_ok.1 h).symm, hstarted⟩
  · next hstarted =>
    obtain ⟨ranges, hranges, h⟩ := bind_ok.1 h
    rw [Catalog.currentDvdUnrecoveredSourceRanges] at hranges
    split at hranges
    · next current hcurrent =>
      cases hranges
      exact .inr ⟨not_not.1 hstarted, current, hcurrent, (pure_ok.1 h).symm⟩
    · cases hranges

theorem ClaimedCandidate.counted {pass : ArchiveRecoveryPass}
    (h : ClaimedCandidate c workerId claimToken timestamp verification confirmation pass c')
    (hc : Counted c) : Counted c' := by
  obtain ⟨confirmations, rfl⟩ := h.claimed
  have hpass : pass.passStartedAt ≠ none ∧ ∃ current, c.currentManifest = some current ∧
      PassAccounts pass c.header.currentManifestRevision current.unrecoveredSourceRanges := by
    rcases archiveRecoveryPassStart_ok h.start with ⟨rfl, hstarted⟩ |
      ⟨hnone, current, hcurrent, rfl⟩
    · refine ⟨hstarted, ?_⟩
      cases hw : c.work with
      | none =>
        rw [Catalog.pass, hw] at hstarted
        exact absurd rfl hstarted
      | some work =>
        have hp : c.pass = work.toArchiveRecoveryPass := by
          rw [Catalog.pass, hw]
          rfl
        rw [hp] at hstarted ⊢
        exact hc.accounts work hw hstarted
    · refine ⟨Option.some_ne_none _, current, hcurrent, ?_⟩
      obtain ⟨number, direction, hp⟩ := hc.pass_unstarted hnone
      have hvalid := h.valid.1
      rw [hp] at hvalid ⊢
      obtain ⟨hnumber, ⟨hne, -⟩ | ⟨-, initial, hinitial, hpos, -⟩⟩ := hvalid
      · cases hne
      · cases hinitial
        exact ⟨hnumber, ⟨timestamp, rfl⟩, ⟨_, le_rfl, rfl⟩, ⟨_, hpos, rfl, rfl⟩, 0, 0, rfl, rfl⟩
  obtain ⟨hstarted, haccounts⟩ := hpass
  refine ⟨fun work hw _ => ?_, fun work hw hnone => ?_, fun work hw _ => ?_⟩
  · cases hw
    exact hstarted
  · cases hw
    exact absurd hnone hstarted
  · cases hw
    exact haccounts

/-- A projection onto a claimed row accounts for its sector there. -/
theorem Advances.counted (ha : Advances input c c') (hc : Counted c)
    (hwork : c.work = some work) (hheld : projectionWork input c = some work) : Counted c' := by
  obtain ⟨hfromId, hfromRevision, -⟩ := ha.fromHeader
  obtain ⟨current, hcurrent, -, hranges⟩ := ha.ranges
  obtain ⟨-, hfresh⟩ := ha.fresh
  obtain ⟨hrevision, -⟩ := ha.successor
  obtain ⟨timestamp, classification, meaningful, work', hwork', rfl, -⟩ := ha.written
  have hclaimed : work.status = .claimed :=
    (decide_eq_true_iff.1 (Option.filter_eq_some_iff.1 hheld).2).2.2.1
  have hstarted := hc.started work hwork hclaimed
  obtain ⟨_, hsame, haccounts⟩ := hc.accounts work hwork hstarted
  cases hcurrent.symm.trans hsame
  obtain ⟨pass, hadvance, hpass⟩ := haccounts.advance hfromRevision.symm hranges timestamp
  rw [projectWork, hheld] at hwork'
  simp only [hadvance, Except.map, Except.ok.injEq] at hwork'
  subst hwork'
  have hnew : pass.passStartedAt ≠ none := by
    obtain ⟨startedAt, hst⟩ := hpass.startedAt
    rw [hst]
    exact Option.some_ne_none _
  refine ⟨fun row hr _ => ?_, fun row hr hnone => ?_, fun row hr _ => ?_⟩
  · cases hr
    exact hnew
  · cases hr
    exact absurd hnone hnew
  · cases hr
    refine ⟨_, projectedCatalog_current hfresh timestamp classification meaningful, ?_⟩
    show PassAccounts pass input.manifest.revision _
    rw [hrevision]
    exact hpass

/-- The transactions after which a claimed row may have another token, or none. -/
def RecoveryOperation.endsClaim : RecoveryOperation → Bool
  | .beginInterruptedTakeover .. => true
  | .settlePass .. => true
  | .requeue .. => true
  | .markFault .. => true
  | .releaseAfterReconciliation .. => true
  | .completeStop .. => true
  | _ => false

/-- A row is claimed with the token. -/
def ClaimedWith (c : Catalog) (token : String) : Prop :=
  ∃ work, c.work = some work ∧ work.status = .claimed ∧ work.claimToken = some token

theorem ClaimedWith.of_same (h : ClaimedWith c token) (hwork : c'.work = c.work) :
    ClaimedWith c' token := by
  obtain ⟨work, hw, hclaimed, htoken⟩ := h
  exact ⟨work, hwork.trans hw, hclaimed, htoken⟩

theorem Touched.claimedWith (ht : Touched c c') (h : ClaimedWith c token) :
    ClaimedWith c' token := by
  obtain ⟨work, hw, hclaimed, htoken⟩ := h
  obtain ⟨row, _, _, _, hrow, -, rfl⟩ := ht.row
  cases hw.symm.trans hrow
  exact ⟨_, rfl, hclaimed, htoken⟩

theorem VerificationSettles.claimedWith (hs : VerificationSettles c timestamp c')
    (h : ClaimedWith c token) : ClaimedWith c' token := by
  obtain ⟨work, hw, hclaimed, htoken⟩ := h
  obtain ⟨row, -, hc⟩ := hs
  cases hc with
  | unchanged => exact ⟨work, hw, hclaimed, htoken⟩
  | queued => exact ⟨work, hw, hclaimed, htoken⟩
  | rebound _ _ found hfound hrequested =>
    cases hw.symm.trans hfound
    cases hrequested.symm.trans hclaimed
  | unmatched => exact ⟨work, hw, hclaimed, htoken⟩
  | faulted => exact ⟨work, hw, hclaimed, htoken⟩

theorem claimedWith_of_settles (h : ClaimedWith c token)
    (hs : Relation.ReflTransGen (fun d d' => VerificationSettles d timestamp d') c c') :
    ClaimedWith c' token := by
  induction hs with
  | refl => exact h
  | tail _ hstep ih => exact hstep.claimedWith ih

theorem Advances.claimedWith (ha : Advances input c c') (h : ClaimedWith c token) :
    ClaimedWith c' token := by
  obtain ⟨work, hw, hclaimed, htoken⟩ := h
  obtain ⟨timestamp, _, _, work', hwork', rfl, -⟩ := ha.written
  rcases projectWork_row hwork' with rfl | ⟨row, pass, hrow, -, rfl⟩
  · exact ⟨work, hw, hclaimed, htoken⟩
  · cases hw.symm.trans hrow
    exact ⟨_, rfl, hclaimed, htoken⟩

/-- Any other transaction leaves a claimed row to its holder. -/
theorem RecoveryOperation.Effect.claimedWith {op : RecoveryOperation}
    (he : op.Effect timestamp c c') (hop : op.endsClaim = false) (h : ClaimedWith c token) :
    ClaimedWith c' token := by
  have h₀ := h
  obtain ⟨work, hw, hclaimed, htoken⟩ := h
  cases he with
  | aside op ha => exact h₀.of_same ha.work
  | touched op ht => exact ht.claimedWith h₀
  | claimed hc =>
    obtain ⟨_, hcandidate⟩ := hc.candidate
    exact absurd hclaimed (hcandidate.2.2.2.2.2.2.2.2.2.1 work hw)
  | projected _ ha => exact ha.claimedWith h₀
  | resumed hr => exact absurd hclaimed (hr.unclaimed work hw)
  | activated ha =>
    obtain ⟨row, _, hrow, hrequested, -⟩ := ha.rows
    cases hw.symm.trans hrow
    cases hrequested.symm.trans hclaimed
  | stopping _ _ _ row _ hrow he =>
    subst he
    rcases hrow with hrow | ⟨hnone, -⟩
    · cases hw.symm.trans hrow
      exact ⟨_, rfl, hclaimed, htoken⟩
    · cases hw.symm.trans hnone
  | stopDeferred _ _ he =>
    subst he
    exact h₀.of_same rfl
  | stopFaulted _ _ he =>
    subst he
    exact h₀.of_same rfl
  | confirmed row _ _ hwaiting hrow _ he =>
    obtain ⟨-, -, found, hfound, hrequested, -⟩ := hwaiting
    cases hw.symm.trans hfound
    cases hrequested.symm.trans hclaimed
  | verified op hs => exact claimedWith_of_settles h₀ hs
  | _ => cases hop

/-- The recovery has been stopped, and nobody works on it. -/
def Idle (c : Catalog) : Prop := c.recovery.status = .stopped ∧ c.work = none

theorem Idle.not_claimed (h : Idle c) : ¬ClaimedWith c token := by
  rintro ⟨work, hwork, -⟩
  cases h.2.symm.trans hwork

theorem VerificationSettles.idle (hs : VerificationSettles c timestamp c') (h : Idle c) :
    Idle c' := by
  obtain ⟨hstopped, hnone⟩ := h
  obtain ⟨row, -, hc⟩ := hs
  cases hc with
  | unchanged => exact ⟨hstopped, hnone⟩
  | queued => exact ⟨hstopped, hnone⟩
  | rebound _ _ work hwork => cases hnone.symm.trans hwork
  | unmatched heligible => cases hstopped.symm.trans heligible
  | faulted heligible => cases hstopped.symm.trans heligible

theorem Advances.not_idle (ha : Advances input c c') : ¬Idle c := by
  rintro ⟨hstopped, -⟩
  rcases ha.status with hm | ⟨hpaused, -⟩
  · rw [hstopped] at hm
    simp at hm
  · cases hstopped.symm.trans hpaused

/-- Only a Resume takes up a stopped recovery. -/
theorem RecoveryOperation.Effect.idle {op : RecoveryOperation} (he : op.Effect timestamp c c')
    (hop : op.readsCheckpoint = false) (h : Idle c) : Idle c' := by
  obtain ⟨hstopped, hnone⟩ := h
  cases he with
  | aside op ha => exact ⟨(congrArg _ ha.recovery).trans hstopped, ha.work.trans hnone⟩
  | touched op ht =>
    obtain ⟨_, _, _, _, hwork, -⟩ := ht.row
    cases hnone.symm.trans hwork
  | claimed hc =>
    obtain ⟨_, hcandidate⟩ := hc.candidate
    cases hstopped.symm.trans hcandidate.2.1
  | takenOver _ hheld => cases hnone.symm.trans (heldWork_some.1 hheld).1
  | projected _ ha => exact absurd ⟨hstopped, hnone⟩ ha.not_idle
  | settled hclaim => cases hnone.symm.trans (requireCurrentArchiveRecoveryClaim_ok.1 hclaim).1
  | faulted hclaim => cases hnone.symm.trans (requireCurrentArchiveRecoveryClaim_ok.1 hclaim).1
  | released _ hwork => exact absurd hnone hwork
  | abandoned hi => cases hstopped.symm.trans hi.running
  | requeued hclaim => cases hnone.symm.trans (requireCurrentArchiveRecoveryClaim_ok.1 hclaim).1
  | resumed => cases hop
  | activated ha => cases hstopped.symm.trans ha.waiting
  | stopping _ hstatus =>
    rw [hstopped] at hstatus
    simp at hstatus
  | stopped hstopping => cases hstopped.symm.trans hstopping
  | stopDeferred hstopping => cases hstopped.symm.trans hstopping
  | stopFaulted hstopping => cases hstopped.symm.trans hstopping
  | confirmed _ _ _ _ hwork => cases hnone.symm.trans hwork
  | verified op hs =>
    induction hs with
    | refl => exact ⟨hstopped, hnone⟩
    | tail _ hstep ih => exact hstep.idle ih

/-- A Stop that is completed leaves the recovery to nobody. -/
theorem claimedWith_completeStop
    (he : (RecoveryOperation.completeStop archiveRecoveryId attemptId stopOperationId).Effect
      timestamp c c') (h : ClaimedWith c token) : ClaimedWith c' token ∨ Idle c' := by
  cases he with
  | aside op ha => exact .inl (h.of_same ha.work)
  | touched op ht => exact .inl (ht.claimedWith h)
  | stopped _ _ _ he =>
    subst he
    exact .inr ⟨rfl, rfl⟩
  | verified op hs => exact .inl (claimedWith_of_settles h hs)

/-- A takeover leaves the row to its holder or gives it to the taker. -/
theorem claimedWith_takeover
    (he : (RecoveryOperation.beginInterruptedTakeover claim workerId claimToken).Effect timestamp
      c c') (h : ClaimedWith c token) : ClaimedWith c' token ∨ ClaimedWith c' claimToken := by
  cases he with
  | aside op ha => exact .inl (h.of_same ha.work)
  | touched op ht => exact .inl (ht.claimedWith h)
  | takenOver work hheld _ he =>
    subst he
    obtain ⟨-, -, -, hclaimed, -⟩ := heldWork_some.1 hheld
    exact .inr ⟨_, rfl, hclaimed, rfl⟩
  | verified op hs => exact .inl (claimedWith_of_settles h hs)

/-- The worker starts and ends nothing until its batch is closed. -/
def WorkerPhase.Waits : WorkerPhase → Prop
  | .writing _ _ => True
  | .closing _ => True
  | .unreconciled => True
  | .gone => True
  | _ => False

/-- The counters add up, and an open batch is waited for by whoever holds the row, if the recovery
has not been stopped around it. -/
structure Progressing (s : RecoverySite) : Prop where
  issued : Issued s.toRecoverySystem
  coherent : Coherent s.catalog
  counted : Counted s.catalog
  held : s.BatchOpen →
    (∃ token, ClaimedWith s.catalog token ∧ (s.phase token).Waits) ∨ Idle s.catalog

theorem RecoverySite.Initial.progressing (h : RecoverySite.Initial s) : Progressing s := by
  obtain ⟨hsystem, hdisk, hwriter, -⟩ := h
  refine ⟨hsystem.issued, hsystem.1.coherent, counted_of_none hsystem.1.work, fun hopen => ?_⟩
  rcases hopen with hw | hd
  · exact absurd hwriter hw
  · rw [hdisk] at hd
    cases hd

variable (sha256 : Hashed → Digest)

theorem RecoverySystem.Step.effect (h : RecoverySystem.Step sha256 s op s') :
    ∃ timestamp, op.Effect timestamp s.catalog s'.catalog := by
  obtain ⟨-, -, timestamp, returned, hrun⟩ := (RecoverySystem.step_iff sha256).1 h
  exact ⟨timestamp, RecoveryOperation.run_effect sha256 hrun⟩

theorem RecoverySystem.Step.fresh (h : RecoverySystem.Step sha256 s op s')
    (hm : newId ∈ op.issues) : newId ∉ s.issued :=
  ((RecoverySystem.step_iff sha256).1 h).1 newId hm

theorem orderly_of_unconfined {op : RecoveryOperation} (h : op.confined = false) :
    Orderly c op := by
  cases op with
  | releaseAfterReconciliation => cases h
  | projectDvdRecoveryCheckpoint => cases h
  | _ => trivial

theorem RecoverySystem.Step.coherent (h : RecoverySystem.Step sha256 s op s')
    (horderly : Orderly s.catalog op) (hc : Coherent s.catalog) : Coherent s'.catalog := by
  obtain ⟨timestamp, he⟩ := h.effect sha256
  exact he.coherent horderly hc

/-- A transaction that projects nothing keeps the accounts. -/
theorem RecoverySystem.Step.counted (h : RecoverySystem.Step sha256 s op s')
    (hop : ∀ input, op ≠ .projectDvdRecoveryCheckpoint input) (hc : Counted s.catalog) :
    Counted s'.catalog := by
  obtain ⟨timestamp, he⟩ := h.effect sha256
  rcases he.cases_pass with hkeeps | ⟨_, _, _, _, _, -, hclaimed⟩ | ⟨input, rfl, -⟩
  · exact hkeeps.counted hc
  · exact hclaimed.counted hc
  · exact absurd rfl (hop input)

/-- A projection by the holder of a claimed row, or by nobody in particular, keeps them as well. -/
theorem RecoverySystem.Step.counted_projected
    (h : RecoverySystem.Step sha256 s (.projectDvdRecoveryCheckpoint input) s')
    (hcoherent : Coherent s.catalog) (hc : Counted s.catalog)
    (hheld : (∃ token, ClaimedWith s.catalog token) ∨ Idle s.catalog) : Counted s'.catalog := by
  obtain ⟨-, -, timestamp, returned, hrun⟩ := (RecoverySystem.step_iff sha256).1 h
  obtain ⟨header, hp⟩ := commits_snd_ok hrun
  obtain ⟨-, hclaim, ⟨he, -⟩ | ha⟩ := projectDvdRecoveryCheckpoint_ok sha256 hp
  · rwa [he]
  · rcases hheld with ⟨token, work, hwork, hstatus, -⟩ | hidle
    · exact ha.counted hc hwork (projectionWork_some hclaim hcoherent.row hwork hstatus)
    · exact absurd hidle ha.not_idle

theorem current_of_requeue (h : RecoverySystem.Step sha256 s (.requeue claim) s') :
    ∃ work, requireCurrentArchiveRecoveryClaim s.catalog claim = .ok work := by
  obtain ⟨-, -, timestamp, returned, hrun⟩ := (RecoverySystem.step_iff sha256).1 h
  obtain ⟨recovery, hr⟩ := commits_snd_ok hrun
  obtain ⟨work, hclaim, -⟩ := requeue_ok hr
  exact ⟨work, hclaim⟩

theorem current_of_settlePass
    (h : RecoverySystem.Step sha256 s (.settlePass claim newVerificationId) s') :
    ∃ work, requireCurrentArchiveRecoveryClaim s.catalog claim = .ok work := by
  obtain ⟨-, -, timestamp, returned, hrun⟩ := (RecoverySystem.step_iff sha256).1 h
  obtain ⟨recovery, hs⟩ := commits_snd_ok hrun
  obtain ⟨work, hclaim, -⟩ := settlePass_ok hs
  exact ⟨work, hclaim⟩

theorem claimedWith_of_current (h : requireCurrentArchiveRecoveryClaim c claim = .ok work) :
    ClaimedWith c claim.claimToken := by
  obtain ⟨hwork, -, -, hclaimed, htoken, -⟩ := requireCurrentArchiveRecoveryClaim_ok.1 h
  exact ⟨work, hwork, hclaimed, htoken⟩

theorem ClaimedWith.unique (h : ClaimedWith c token) (h' : ClaimedWith c token') :
    token = token' := by
  obtain ⟨work, hwork, -, htoken⟩ := h
  obtain ⟨work', hwork', -, htoken'⟩ := h'
  cases hwork.symm.trans hwork'
  exact Option.some.inj (htoken.symm.trans htoken')

theorem claimedWith_of_projection (h : RecoverySystem.Step sha256 s
      (.projectDvdRecoveryCheckpoint input) s') (hclaim : input.claim = some claim) :
    ClaimedWith s.catalog claim.claimToken := by
  obtain ⟨-, -, timestamp, returned, hrun⟩ := (RecoverySystem.step_iff sha256).1 h
  obtain ⟨header, hp⟩ := commits_snd_ok hrun
  obtain ⟨work, hclaim⟩ := (projectDvdRecoveryCheckpoint_ok sha256 hp).2.1 claim hclaim
  exact claimedWith_of_current hclaim

theorem Progressing.holds (h : Progressing s) (hopen : s.BatchOpen) :
    (∃ token, ClaimedWith s.catalog token) ∨ Idle s.catalog := by
  rcases h.held hopen with ⟨token, hclaimed, -⟩ | hidle
  · exact .inl ⟨token, hclaimed⟩
  · exact .inr hidle

/-- The holder of the row is busy while a batch is open. -/
theorem Progressing.waits (h : Progressing s) (hopen : s.BatchOpen)
    (hclaimed : ClaimedWith s.catalog token) : (s.phase token).Waits := by
  rcases h.held hopen with ⟨token', hclaimed', hwaits⟩ | hidle
  · cases hclaimed.unique hclaimed'
    exact hwaits
  · exact absurd hclaimed hidle.not_claimed

theorem Progressing.not_open (h : Progressing s) (hclaimed : ClaimedWith s.catalog token)
    (hphase : ¬(s.phase token).Waits) : ¬s.BatchOpen :=
  fun hopen => hphase (h.waits hopen hclaimed)

theorem Progressing.orderly_project (h : Progressing s) (hopen : s.BatchOpen) :
    Orderly s.catalog (.projectDvdRecoveryCheckpoint input) := by
  intro heligible
  rcases h.holds hopen with ⟨token, work, hwork, hstatus, -⟩ | hidle
  · have hm := (h.coherent.claimed work hwork hstatus).2
    rw [heligible] at hm
    simp at hm
  · cases hidle.1.symm.trans heligible

theorem setPhase_waits {s : RecoverySite} (hphase : phase.Waits)
    (h : (s.phase token).Waits) : ((s.setPhase claimToken phase).phase token).Waits := by
  rw [RecoverySite.setPhase]
  dsimp only
  split
  · exact hphase
  · exact h

theorem not_open_of_closed {s : RecoverySite} (hwriter : s.writer = none)
    (hdisk : s.disk.pending = false) : ¬s.BatchOpen := by
  intro hopen
  rcases hopen with hw | hd
  · exact hw hwriter
  · cases hdisk.symm.trans hd

/-- While a batch is open the row is taken, so that it is not claimed anew. -/
theorem Progressing.closed_of_claim (h : Progressing s)
    (hstep : RecoverySystem.Step sha256 s.toRecoverySystem
      (.claimNextVerifiedCandidate workerId claimToken) system)
    (hclaimed : ClaimedWith system.catalog claimToken) : ¬s.BatchOpen := by
  intro hopen
  obtain ⟨_, he⟩ := hstep.effect sha256
  rcases h.holds hopen with ⟨token, hold⟩ | hidle
  · cases (he.claimedWith rfl hold).unique hclaimed
    obtain ⟨row, hrow, -, hrowToken⟩ := hold
    exact hstep.fresh sha256 (List.mem_singleton_self _) (h.issued.token row hrow _ hrowToken)
  · exact (he.idle rfl hidle).not_claimed hclaimed

theorem Progressing.step (h : Progressing s) (hstep : RecoverySite.Step sha256 s action s') :
    Progressing s' := by
  obtain ⟨timestamp, hperform⟩ := hstep
  have hissued := h.issued
  have hcoherent := h.coherent
  have hcounted := h.counted
  have hheld := h.held
  cases RecoverySite.perform_effect sha256 hperform with
  | @transaction op system hop hread hstep =>
    refine ⟨hissued.step sha256 hstep,
      hstep.coherent sha256 (orderly_of_unconfined hop) hcoherent,
      hstep.counted sha256 (fun input he => by cases he; cases hop) hcounted, fun hopen => ?_⟩
    obtain ⟨_, he⟩ := hstep.effect sha256
    rcases hheld hopen with ⟨token, hclaimed, hwaits⟩ | hidle
    · cases op with
      | completeStop =>
        rcases claimedWith_completeStop he hclaimed with hkept | hidle
        · exact .inl ⟨token, hkept, hwaits⟩
        · exact .inr hidle
      | _ => first | exact .inl ⟨token, he.claimedWith rfl hclaimed, hwaits⟩ | cases hop
    · refine .inr (he.idle (Bool.eq_false_iff.2 fun hgated => ?_) hidle)
      obtain ⟨hwriter, hdisk⟩ := hread hgated
      exact not_open_of_closed hwriter (congrArg RecoveryDisk.pending hdisk) hopen
  | @claim workerId claimToken system work hstep hwork hclaimed htoken =>
    refine ⟨hissued.step sha256 hstep, hstep.coherent sha256 trivial hcoherent,
      hstep.counted sha256 (fun _ he => by cases he) hcounted, fun hopen => ?_⟩
    exact absurd hopen (h.closed_of_claim sha256 hstep ⟨work, hwork, hclaimed, htoken⟩)
  | notClaimed hstep hnot =>
    refine ⟨hissued.step sha256 hstep, hstep.coherent sha256 trivial hcoherent,
      hstep.counted sha256 (fun _ he => by cases he) hcounted, fun hopen => ?_⟩
    obtain ⟨_, he⟩ := hstep.effect sha256
    rcases hheld hopen with ⟨token, hold, hwaits⟩ | hidle
    · exact .inl ⟨token, he.claimedWith rfl hold, hwaits⟩
    · exact .inr (he.idle rfl hidle)
  | @takeOver claim workerId claimToken system work hstep hwork hclaimed htoken =>
    refine ⟨hissued.step sha256 hstep, hstep.coherent sha256 trivial hcoherent,
      hstep.counted sha256 (fun _ he => by cases he) hcounted, fun _ => ?_⟩
    refine .inl ⟨claimToken, ⟨work, hwork, hclaimed, htoken⟩, ?_⟩
    simp only [RecoverySite.setPhase, if_pos, WorkerPhase.Waits]
  | @notTakenOver claim workerId claimToken system hstep hnot =>
    refine ⟨hissued.step sha256 hstep, hstep.coherent sha256 trivial hcoherent,
      hstep.counted sha256 (fun _ he => by cases he) hcounted, fun hopen => ?_⟩
    obtain ⟨_, he⟩ := hstep.effect sha256
    rcases hheld hopen with ⟨token, hold, hwaits⟩ | hidle
    · rcases claimedWith_takeover he hold with hkept | ⟨work, hwork, hclaimed, htoken⟩
      · exact .inl ⟨token, hkept, hwaits⟩
      · exact absurd htoken (hnot work hwork hclaimed)
    · exact .inr (he.idle rfl hidle)
  | readCheckpoint hphase hcurrent hwriter hdisk =>
    exact ⟨hissued, hcoherent, hcounted, fun hopen =>
      absurd hopen (not_open_of_closed hwriter (congrArg RecoveryDisk.pending hdisk))⟩
  | @beginBatch claim startLba todo work hphase hwriter hdisk hclaim =>
    refine ⟨hissued, hcoherent, hcounted, fun _ => .inl ⟨_, claimedWith_of_current hclaim, ?_⟩⟩
    simp only [RecoverySite.setPhase, if_pos, WorkerPhase.Waits]
  | reserveJournal hphase hwriter hdisk =>
    exact ⟨hissued, hcoherent, hcounted, fun _ => hheld (.inl (by simp [hwriter]))⟩
  | publish hphase hwriter hdisk hstart hnext =>
    exact ⟨hissued, hcoherent, hcounted, fun _ => hheld (.inl (by simp [hwriter]))⟩
  | project hphase hwriter hdisk hstep =>
    have hopen : s.BatchOpen := .inl (by simp [hwriter])
    have hclaimed := claimedWith_of_projection sha256 hstep rfl
    obtain ⟨_, he⟩ := hstep.effect sha256
    exact ⟨hissued.step sha256 hstep,
      hstep.coherent sha256 (h.orderly_project hopen) hcoherent,
      hstep.counted_projected sha256 hcoherent hcounted (h.holds hopen),
      fun _ => .inl ⟨_, he.claimedWith rfl hclaimed,
        setPhase_waits trivial (h.waits hopen hclaimed)⟩⟩
  | unlinkJournal hphase hwriter =>
    exact ⟨hissued, hcoherent, hcounted, fun hopen => absurd hopen (not_open_of_closed rfl rfl)⟩
  | failBatch hwriter =>
    refine ⟨hissued, hcoherent, hcounted, fun _ => ?_⟩
    rcases hheld (.inl (by simp [hwriter])) with ⟨token, hclaimed, hwaits⟩ | hidle
    · exact .inl ⟨token, hclaimed, setPhase_waits trivial hwaits⟩
    · exact .inr hidle
  | crash =>
    refine ⟨hissued, hcoherent, hcounted, fun hopen => ?_⟩
    have hbefore : s.BatchOpen := by
      rcases hopen with hw | hd
      · exact .inl fun hnone => hw (by simp [hnone])
      · exact .inr hd
    rcases hheld hbefore with ⟨token, hclaimed, hwaits⟩ | hidle
    · exact .inl ⟨token, hclaimed, setPhase_waits trivial hwaits⟩
    · exact .inr hidle
  | rollForward hwriter hdisk hstep =>
    have hopen : s.BatchOpen := .inr (by rw [hdisk]; rfl)
    exact ⟨hissued.step sha256 hstep,
      hstep.coherent sha256 (h.orderly_project hopen) hcoherent,
      hstep.counted_projected sha256 hcoherent hcounted (h.holds hopen),
      fun hopen => absurd hopen (not_open_of_closed hwriter rfl)⟩
  | removeJournal hwriter hdisk =>
    exact ⟨hissued, hcoherent, hcounted, fun hopen => absurd hopen (not_open_of_closed hwriter rfl)⟩
  | reconciled hwriter hdisk hphase =>
    exact ⟨hissued, hcoherent, hcounted, fun hopen => absurd hopen (not_open_of_closed hwriter rfl)⟩
  | requeue hphase hstep =>
    obtain ⟨work, hclaim⟩ := current_of_requeue sha256 hstep
    have hclosed : ¬s.BatchOpen := by
      refine h.not_open (claimedWith_of_current hclaim) ?_
      rcases hphase with ⟨_, _, hp⟩ | ⟨_, hp⟩ | hp
      all_goals simp [hp, WorkerPhase.Waits]
    exact ⟨hissued.step sha256 hstep, hstep.coherent sha256 trivial hcoherent,
      hstep.counted sha256 (fun _ he => by cases he) hcounted, fun hopen => absurd hopen hclosed⟩
  | settlePass hphase hstep =>
    obtain ⟨work, hclaim⟩ := current_of_settlePass sha256 hstep
    have hclosed : ¬s.BatchOpen :=
      h.not_open (claimedWith_of_current hclaim) (by simp [hphase, WorkerPhase.Waits])
    exact ⟨hissued.step sha256 hstep, hstep.coherent sha256 trivial hcoherent,
      hstep.counted sha256 (fun _ he => by cases he) hcounted, fun hopen => absurd hopen hclosed⟩

/-- The pass of a work row agrees with the checkpoint of the header, and whoever holds the row can
settle it, whether the pass ends or is interrupted. -/
structure PassReconciles (c : Catalog) : Prop where
  counter : ∀ work, c.work = some work → work.passStartedAt ≠ none →
    ∃ current initial startedRevision, c.currentManifest = some current ∧
      work.passInitialUnrecoveredSectorCount = some initial ∧
      initial =
        unrecoveredSectorCount current.unrecoveredSourceRanges + work.passRecoveredSectorCount ∧
      work.passStartedManifestRevision = some startedRevision ∧
      startedRevision ≤ c.header.currentManifestRevision
  settlement : ∀ claim work, requireCurrentArchiveRecoveryClaim c claim = .ok work →
    ∀ timestamp, ∃ settlement, archiveRecoveryPassSettlement c timestamp = .ok settlement
  interruption : ∀ claim work, requireCurrentArchiveRecoveryClaim c claim = .ok work →
    ∀ timestamp, ∃ settlement,
      archiveRecoveryCompletionAfterInterruption c timestamp = .ok settlement

theorem Counted.settlement (h : Counted c) (hwork : c.work = some work)
    (hstarted : work.passStartedAt ≠ none) (timestamp : Nat) :
    ∃ current settlement, c.currentManifest = some current ∧
      archiveRecoveryPassSettlement c timestamp = .ok settlement ∧
      settlement.outcome = passOutcome (unrecoveredSectorCount current.unrecoveredSourceRanges)
        work.passRecoveredSectorCount := by
  obtain ⟨current, hcurrent, haccounts⟩ := h.accounts work hwork hstarted
  obtain ⟨startedAt, hst⟩ := haccounts.startedAt
  obtain ⟨initial, -, hinitial, hsum⟩ := haccounts.initial
  have hranges : c.currentDvdUnrecoveredSourceRanges = .ok current.unrecoveredSourceRanges := by
    rw [Catalog.currentDvdUnrecoveredSourceRanges, hcurrent]
  suffices ∃ settlement, archiveRecoveryPassSettlement c timestamp = .ok settlement ∧
      settlement.outcome = passOutcome (unrecoveredSectorCount current.unrecoveredSourceRanges)
        work.passRecoveredSectorCount by
    obtain ⟨settlement, hsettles, houtcome⟩ := this
    exact ⟨current, settlement, hcurrent, hsettles, houtcome⟩
  simp only [archiveRecoveryPassSettlement, hwork, hst, hinitial]
  exact ⟨_, bind_ok.2 ⟨_, hranges, bind_ok.2 ⟨(), rejectIf_ok.2 (not_not.2 hsum), rfl⟩⟩, rfl⟩

theorem Counted.interruption (h : Counted c) (hwork : c.work = some work)
    (hstarted : work.passStartedAt ≠ none) (timestamp : Nat) :
    ∃ settlement, archiveRecoveryCompletionAfterInterruption c timestamp = .ok settlement := by
  obtain ⟨current, settlement, hcurrent, hsettles, houtcome⟩ :=
    h.settlement hwork hstarted timestamp
  have hstatus : settledArchiveRecoveryStatus c =
      .ok (if current.unrecoveredSourceRanges.length = 0 then .completed else .eligible) := by
    rw [settledArchiveRecoveryStatus, Catalog.currentDvdUnrecoveredSourceRanges, hcurrent]
    rfl
  by_cases hnone : current.unrecoveredSourceRanges.length = 0
  · -- nothing is left, so that the pass completes the recovery
    have hcompleted : settlement.outcome = .completed := by
      rw [houtcome, List.eq_nil_of_length_eq_zero hnone]
      rfl
    rw [if_pos hnone] at hstatus
    refine ⟨(.completed, some settlement.history), bind_ok.2 ⟨_, hstatus, ?_⟩⟩
    exact bind_ok.2 ⟨_, hsettles, bind_ok.2 ⟨(), rejectIf_ok.2 (not_not.2 hcompleted), rfl⟩⟩
  · rw [if_neg hnone] at hstatus
    exact ⟨(.eligible, none), bind_ok.2 ⟨_, hstatus, rfl⟩⟩

theorem Counted.reconciles (h : Counted c) : PassReconciles c := by
  refine ⟨fun work hwork hstarted => ?_, fun claim work hclaim timestamp => ?_,
    fun claim work hclaim timestamp => ?_⟩
  · obtain ⟨current, hcurrent, haccounts⟩ := h.accounts work hwork hstarted
    obtain ⟨startedRevision, hle, hrevision⟩ := haccounts.startedRevision
    obtain ⟨initial, -, hinitial, hsum⟩ := haccounts.initial
    exact ⟨current, initial, startedRevision, hcurrent, hinitial, hsum, hrevision, hle⟩
  · obtain ⟨hwork, -, -, hclaimed, -⟩ := requireCurrentArchiveRecoveryClaim_ok.1 hclaim
    obtain ⟨-, settlement, -, hsettles, -⟩ :=
      h.settlement hwork (h.started work hwork hclaimed) timestamp
    exact ⟨settlement, hsettles⟩
  · obtain ⟨hwork, -, -, hclaimed, -⟩ := requireCurrentArchiveRecoveryClaim_ok.1 hclaim
    exact h.interruption hwork (h.started work hwork hclaimed) timestamp

theorem progressing_of_run (hstart : RecoverySite.Initial s₀)
    (hrun : Run (RecoverySite.Step sha256) s₀ actions s) : Progressing s :=
  hrun.inv (I := Progressing) (fun _ _ _ h hstep => h.step sha256 hstep) hstart.progressing

/-- In every run from a published archive the pass of the work row agrees with the checkpoint. -/
theorem pass_progress_reconciles (hstart : RecoverySite.Initial s₀)
    (hrun : Run (RecoverySite.Step sha256) s₀ actions s) : PassReconciles s.catalog :=
  (progressing_of_run sha256 hstart hrun).counted.reconciles

def publishedSite : RecoverySite := ⟨publishedSystem, .settled, none, fun _ => .gone⟩

theorem publishedSite_initial : RecoverySite.Initial publishedSite :=
  ⟨publishedSystem_initial, rfl, rfl, fun _ => rfl⟩

/-- A worker claims the pass and reads the map of the checkpoint. -/
def firstPassRun : List (Nat × SiteAction) := [
  (1, .transaction (.submitVerification "inspection" 1 1 "verification")),
  (2, .transaction (.claimNextVerification "worker" "verification-token")),
  (3, .transaction (.completeVerification ⟨"verification", "verification-token"⟩ ⟨.match, [], 0⟩
    "unused")),
  (4, .claim "worker" "token"),
  (5, .readCheckpoint "token")]

/-- It publishes its first sector and records it in the catalog. -/
def firstBatchRun : List (Nat × SiteAction) := [
  (6, .beginBatch sampleClaim),
  (7, .reserveJournal "token"),
  (8, .publish "token" { sampleProjection with claim := none }),
  (9, .project sampleClaim),
  (10, .unlinkJournal "token")]

/-- A Stop overtakes the worker in its second batch, is completed and leaves the batch open until it
has been cleaned up. The recovery is then resumed, and a new pass started. -/
def stoppedBatchRun : List (Nat × SiteAction) := [
  (11, .beginBatch sampleClaim),
  (12, .transaction (.requestStop "recovery" "attempt" "stop")),
  (70000, .transaction (.prepareStop "recovery" "attempt" "stop" none
    fun _ => ⟨.inconclusive, [], 0⟩)),
  (70001, .reserveJournal "token"),
  (70002, .transaction (.completeStop "recovery" "attempt" "stop")),
  (70003, .crash "token"),
  (70004, .removeJournal none),
  (70005, .transaction (.requestResume ⟨"recovery", "attempt", 2, 2⟩ "next-attempt" "resume"
    (some ⟨"inspection", true, "completed", some "disc", "generation"⟩) "next-verification")),
  (70006, .transaction (.claimNextVerification "worker" "next-verification-token")),
  (70007, .transaction (.completeVerification ⟨"next-verification", "next-verification-token"⟩
    ⟨.match, [], 0⟩ "unused")),
  (70008, .claim "worker" "next-token")]

/-- The new pass starts with the sector that the stopped one has left. -/
theorem stoppedBatch_reconciles : ∃ s work,
    Run (RecoverySite.Step sampleSha256) publishedSite
      ((firstPassRun ++ firstBatchRun ++ stoppedBatchRun).map Prod.snd) s ∧
    s.catalog.work = some work ∧ work.passStartedAt = some 70008 ∧
    work.passInitialUnrecoveredSectorCount = some 1 ∧ PassReconciles s.catalog := by
  have h : ∃ s ∈ publishedSite.performAll sampleSha256
        (firstPassRun ++ firstBatchRun ++ stoppedBatchRun),
      ∃ work ∈ s.catalog.work, work.passStartedAt = some 70008 ∧
        work.passInitialUnrecoveredSectorCount = some 1 := by
    decide +kernel
  obtain ⟨s, hs, work, hwork, hstarted, hinitial⟩ := h
  have hrun := RecoverySite.run_of_performAll _ hs
  exact ⟨s, work, hrun, hwork, hstarted, hinitial,
    pass_progress_reconciles sampleSha256 publishedSite_initial hrun⟩

end RipDvd
