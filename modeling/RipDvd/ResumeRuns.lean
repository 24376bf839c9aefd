import RipDvd.VerificationIdentity
import RipDvd.PassSequence

namespace RipDvd
set_option autoImplicit true

theorem stored_of_none (hwork : c.work = none) (hvalid : c.recovery.Valid) : Stored c := by
  have hnone : ∀ work, c.work ≠ some work := by simp [hwork]
  exact ⟨fun work hw => absurd hw (hnone work), fun work hw => absurd hw (hnone work),
    fun work hw => absurd hw (hnone work), hvalid⟩

theorem stored_of_row (hattempt : RowOfAttempt c) (hvalid : c.recovery.Valid)
    (hwork : c.work = some work) (hpass : work.toArchiveRecoveryPass.Valid)
    (hunclaimed : work.status = .requested →
      work.claimedBy = none ∧ work.claimToken = none ∧ work.claimedAt = none) : Stored c := by
  refine ⟨hattempt, fun row hrow => ?_, fun row hrow => ?_, hvalid⟩
  · cases hwork.symm.trans hrow
    exact hpass
  · cases hwork.symm.trans hrow
    exact hunclaimed

/-- The row of the same recovery stays as it was, or has been claimed. -/
theorem Stored.row (h : Stored c) (hrow : RowOfAttempt c → RowOfAttempt c')
    (hvalid : c'.recovery.Valid) (hwork : c.work = some work) (hwork' : c'.work = some work')
    (hpass : work'.toArchiveRecoveryPass = work.toArchiveRecoveryPass)
    (hclaim : work'.status = .requested → work.status = .requested ∧
      work'.claimedBy = work.claimedBy ∧ work'.claimToken = work.claimToken ∧
      work'.claimedAt = work.claimedAt) : Stored c' := by
  refine stored_of_row (hrow h.attempt) hvalid hwork' (hpass ▸ h.pass work hwork) ?_
  intro hrequested
  obtain ⟨hrequested, hby, htoken, hat⟩ := hclaim hrequested
  rw [hby, htoken, hat]
  exact h.unclaimed work hwork hrequested

theorem Stored.same (h : Stored c) (hrecovery : c'.recovery = c.recovery)
    (hwork : c'.work = c.work) : Stored c' := by
  refine ⟨?_, ?_, ?_, hrecovery ▸ h.recovery⟩
  · rw [RowOfAttempt, hwork, hrecovery]
    exact h.attempt
  · rw [hwork]
    exact h.pass
  · rw [hwork]
    exact h.unclaimed

theorem JustPublished.stored (h : JustPublished c) : Stored c := by
  obtain ⟨current, -, hrecovery⟩ := h.recovery
  refine stored_of_none h.work ?_
  rw [hrecovery]
  exact publishedRecovery_valid _ _ _ _ _

theorem Activated.stored (h : Activated c newId timestamp c') (hc : Stored c) : Stored c' := by
  have hretains := h.retains
  have hvalid := h.valid
  obtain ⟨work, row, hwork, -, rfl⟩ := h.rows
  exact hc.row hretains.row hvalid hwork rfl rfl fun hrequested => ⟨hrequested, rfl, rfl, rfl⟩

theorem resumedPass_valid (recovery : ArchiveRecovery) : (resumedPass recovery).Valid :=
  ⟨Nat.succ_pos _, .inl ⟨rfl, rfl, rfl, rfl⟩⟩

theorem Resumed.stored
    (h : Resumed c input attemptId resumeOperationId newVerificationId timestamp c') :
    Stored c' := by
  have hresumed : Stored (resumedCatalog c input attemptId resumeOperationId timestamp) := by
    refine stored_of_row (fun work hwork => ?_) h.valid rfl (resumedPass_valid _)
      fun _ => ⟨rfl, rfl, rfl⟩
    cases hwork
    exact ⟨rfl, rfl, rfl⟩
  obtain rfl | hactivated := h.result
  · exact hresumed
  · exact hactivated.stored hresumed

theorem PassSettled.stored (h : PassSettled c work timestamp settlement c')
    (hwork : c.work = some work) (hc : Stored c) : Stored c' := by
  have hretains := h.retains hwork
  have hvalid := h.valid
  obtain ⟨row, verifications, hrows, rfl⟩ := h.rows
  generalize settlement.outcome = outcome at hrows
  cases hrows with
  | completed => exact stored_of_none rfl hvalid
  | productive =>
    exact stored_of_row (hretains.row hc.attempt) hvalid rfl
      ⟨Nat.succ_pos _, .inl ⟨rfl, rfl, rfl, rfl⟩⟩ fun _ => ⟨rfl, rfl, rfl⟩
  | noProgress =>
    exact stored_of_row (hretains.row hc.attempt) hvalid rfl (hc.pass work hwork)
      fun _ => ⟨rfl, rfl, rfl⟩

theorem PassInterrupted.stored (h : PassInterrupted c timestamp settlement row c')
    (hrow : row = none ∨ ∃ work, c.work = some work ∧ row = some (work.requeued timestamp))
    (hc : Stored c) : Stored c' := by
  have hretains := h.retains hrow
  obtain ⟨-, -, hvalid, rfl, -⟩ := h
  obtain rfl | ⟨work, hwork, rfl⟩ := hrow
  · exact stored_of_none rfl hvalid
  · exact stored_of_row (hretains.row hc.attempt) hvalid rfl (hc.pass work hwork)
      fun _ => ⟨rfl, rfl, rfl⟩

theorem advancePass_valid (h : advancePass work recoveryRead timestamp = .ok next) :
    next.toArchiveRecoveryPass.Valid := by
  obtain ⟨observed, -, h⟩ := bind_ok.1 h
  obtain ⟨_, hvalid, h⟩ := bind_ok.1 h
  cases h
  exact not_not.1 (rejectIf_ok.1 hvalid)

theorem Advances.stored (ha : Advances input c c') (hc : Stored c) : Stored c' := by
  have hretains := ha.retains
  have hstatus := ha.status
  obtain ⟨timestamp, classification, meaningful, work', hwork', rfl, -⟩ := ha.written
  have hvalid : ArchiveRecovery.Valid { c.recovery with
      status := projectedRecoveryStatus input c
      updatedAt := timestamp } := by
    by_cases hstays : c.recovery.status ∈ [ArchiveRecoveryStatus.stopping, .faulted, .paused]
    · have hsame : projectedRecoveryStatus input c = c.recovery.status := by
        rw [projectedRecoveryStatus, if_pos hstays]
      rw [hsame]
      exact hc.recovery.touched timestamp
    · refine hc.recovery.unclaimed ?_ ?_ timestamp
      · simp only [List.mem_cons, List.not_mem_nil, or_false] at hstays hstatus ⊢
        tauto
      · rw [projectedRecoveryStatus, if_neg hstays]
        split
        · simp
        · split <;> simp
  obtain ⟨-, rfl⟩ | ⟨claimed, next, -, hclaimed, hadvance, rfl⟩ := projectWork_ok hwork'
  · exact ⟨hretains.row hc.attempt, hc.pass, hc.unclaimed, hvalid⟩
  · have hnext : next.status = claimed.status ∧ next.claimedBy = claimed.claimedBy ∧
        next.claimToken = claimed.claimToken ∧ next.claimedAt = claimed.claimedAt := by
      obtain ⟨pass, rfl⟩ := advancePass_row hadvance
      exact ⟨rfl, rfl, rfl, rfl⟩
    obtain ⟨hsame, hby, htoken, hat⟩ := hnext
    refine stored_of_row (hretains.row hc.attempt) hvalid rfl (advancePass_valid hadvance) ?_
    rw [hsame, hby, htoken, hat]
    exact hc.unclaimed claimed hclaimed

theorem VerificationSettles.stored (h : VerificationSettles c timestamp c') (hc : Stored c) :
    Stored c' := by
  obtain ⟨row, -, hcontinuation⟩ := h
  have hretains := hcontinuation.retains
  have hrow : Stored (c.updateVerification row) := hc.same rfl rfl
  cases hcontinuation with
  | unchanged => exact hrow
  | queued => exact hrow.same rfl rfl
  | rebound _ _ work hwork =>
    exact hrow.row hretains.row hrow.recovery hwork rfl rfl
      fun hrequested => ⟨hrequested, rfl, rfl, rfl⟩
  | unmatched _ _ _ hvalid => exact ⟨hrow.attempt, hrow.pass, hrow.unclaimed, hvalid⟩
  | faulted _ _ hvalid => exact ⟨hrow.attempt, hrow.pass, hrow.unclaimed, hvalid⟩

/-- Every transaction leaves rows that pass the checks of their tables. -/
theorem RecoveryOperation.Effect.stored {op : RecoveryOperation} (he : op.Effect timestamp c c')
    (hc : Stored c) : Stored c' := by
  cases he with
  | aside op ha => exact hc.same ha.recovery ha.work
  | touched op ht =>
    obtain ⟨work, claimedAt, updatedAt, confirmations, hwork, hclaimed, rfl⟩ := ht.row
    refine hc.row (fun hrow row hr => ?_) hc.recovery hwork rfl rfl fun hrequested => ?_
    · cases hr
      exact hrow work hwork
    · cases hclaimed.symm.trans hrequested
  | claimed h =>
    obtain ⟨confirmations, rfl⟩ := h.claimed
    refine stored_of_row (fun work hwork => ?_) h.valid.2 rfl h.valid.1 nofun
    cases hwork
    exact ⟨rfl, rfl, rfl⟩
  | takenOver work hheld hrunning he =>
    subst he
    obtain ⟨hwork, -, -, hclaimed, -⟩ := heldWork_some.1 hheld
    refine hc.row (fun hrow row hr => ?_) hc.recovery hwork rfl rfl fun hrequested => ?_
    · cases hr
      exact hrow work hwork
    · cases hclaimed.symm.trans hrequested
  | projected _ h => exact h.stored hc
  | settled hclaim h => exact h.stored (requireCurrentArchiveRecoveryClaim_ok.1 hclaim).1 hc
  | @faulted _ _ _ _ retainWork hclaim _ hvalid he =>
    subst he
    cases retainWork with
    | true => exact ⟨hc.attempt, hc.pass, hc.unclaimed, hvalid⟩
    | false => exact stored_of_none rfl hvalid
  | released _ _ he =>
    subst he
    exact stored_of_none rfl hc.recovery
  | abandoned h => exact h.stored (.inl rfl) hc
  | requeued hclaim h =>
    refine h.stored ?_ hc
    split
    · exact .inl rfl
    · exact .inr ⟨_, (requireCurrentArchiveRecoveryClaim_ok.1 hclaim).1, rfl⟩
  | resumed h => exact h.stored
  | activated h => exact h.stored hc
  | stopping _ _ hvalid work _ hwork he =>
    subst he
    obtain hwork | ⟨-, rfl⟩ := hwork
    · refine hc.row (fun hrow row hr => ?_) hvalid hwork rfl rfl fun hrequested =>
        ⟨hrequested, rfl, rfl, rfl⟩
      cases hr
      exact hrow work hwork
    · refine stored_of_row (fun row hr => ?_) hvalid rfl ⟨Nat.one_pos, .inl ⟨rfl, rfl, rfl, rfl⟩⟩
        fun _ => ⟨rfl, rfl, rfl⟩
      cases hr
      exact ⟨rfl, rfl, rfl⟩
  | stopped _ _ hvalid he =>
    subst he
    exact stored_of_none rfl hvalid
  | stopDeferred _ hvalid he =>
    subst he
    exact ⟨hc.attempt, hc.pass, hc.unclaimed, hvalid⟩
  | stopFaulted _ hvalid he =>
    subst he
    exact ⟨hc.attempt, hc.pass, hc.unclaimed, hvalid⟩
  | confirmed work _ _ _ hwork hvalid he =>
    subst he
    refine hc.row (fun hrow row hr => ?_) hvalid hwork rfl rfl fun hrequested =>
      ⟨hrequested, rfl, rfl, rfl⟩
    cases hr
    exact hrow work hwork
  | verified op h =>
    induction h with
    | refl => exact hc
    | tail _ hstep ih => exact hstep.stored ih

/-- A transaction is about one recovery. -/
theorem RecoveryOperation.Effect.recoveryId {op : RecoveryOperation}
    (he : op.Effect timestamp c c') : c'.recovery.id = c.recovery.id := by
  cases he with
  | aside op ha => exact congrArg ArchiveRecovery.id ha.recovery
  | touched op ht =>
    obtain ⟨_, _, _, _, -, -, rfl⟩ := ht.row
    rfl
  | claimed h =>
    obtain ⟨_, rfl⟩ := h.claimed
    rfl
  | projected _ h => exact h.retains.recovery.1
  | settled hclaim h =>
    exact (h.retains (requireCurrentArchiveRecoveryClaim_ok.1 hclaim).1).recovery.1
  | abandoned h => exact (h.retains (.inl rfl)).recovery.1
  | requeued hclaim h =>
    obtain ⟨-, -, -, rfl, -⟩ := h
    rfl
  | resumed h =>
    obtain rfl | hactivated := h.result
    · rfl
    · exact hactivated.retains.recovery.1
  | activated h => exact h.retains.recovery.1
  | verified op h => exact (retains_of_settles h).recovery.1
  | takenOver _ _ _ he => exact he ▸ rfl
  | faulted _ _ _ he => exact he ▸ rfl
  | released _ _ he => exact he ▸ rfl
  | stopping _ _ _ _ _ _ he => exact he ▸ rfl
  | stopped _ _ _ he => exact he ▸ rfl
  | stopDeferred _ _ he => exact he ▸ rfl
  | stopFaulted _ _ he => exact he ▸ rfl
  | confirmed _ _ _ _ _ _ he => exact he ▸ rfl

/-- The archive, and what its source samples are of. -/
def Catalog.source (c : Catalog) : String × String × Nat × Option SourceManifestBinding :=
  (c.archive.id, c.archive.fingerprint, c.header.acceptedEndLbaExclusive, c.sourceManifest)

/-- A transaction changes neither. -/
theorem RecoveryOperation.Effect.source {op : RecoveryOperation} (h : op.Effect timestamp c c') :
    c'.source = c.source := by
  cases h with
  | aside op ha =>
    obtain ⟨harchive, hheader, -⟩ := ha.evidence
    rw [Catalog.source, Catalog.source, harchive, hheader, ha.source]
  | touched op ht =>
    obtain ⟨_, _, _, _, -, -, rfl⟩ := ht.row
    rfl
  | claimed h =>
    obtain ⟨_, rfl⟩ := h.claimed
    rfl
  | projected _ h =>
    obtain ⟨_, _, _, _, -, rfl, -⟩ := h.written
    rfl
  | settled hclaim h =>
    obtain ⟨_, _, -, rfl⟩ := h.rows
    rfl
  | abandoned h =>
    obtain ⟨-, -, -, rfl, -⟩ := h
    rfl
  | requeued hclaim h =>
    obtain ⟨-, -, -, rfl, -⟩ := h
    rfl
  | resumed h =>
    obtain rfl | hactivated := h.result
    · rfl
    · obtain ⟨_, _, -, -, rfl⟩ := hactivated.rows
      rfl
  | activated h =>
    obtain ⟨_, _, -, -, rfl⟩ := h.rows
    rfl
  | verified op h =>
    induction h with
    | refl => rfl
    | tail _ hsettles ih =>
      obtain ⟨row, -, hcontinues⟩ := hsettles
      refine Eq.trans ?_ ih
      cases hcontinues <;> rfl
  | takenOver _ _ _ he => exact he ▸ rfl
  | faulted _ _ _ he => exact he ▸ rfl
  | released _ _ he => exact he ▸ rfl
  | stopping _ _ _ _ _ _ he => exact he ▸ rfl
  | stopped _ _ _ he => exact he ▸ rfl
  | stopDeferred _ _ he => exact he ▸ rfl
  | stopFaulted _ _ he => exact he ▸ rfl
  | confirmed _ _ _ _ _ _ he => exact he ▸ rfl

theorem RecoveryOperation.Effect.archiveId {op : RecoveryOperation} (h : op.Effect timestamp c c') :
    c'.archive.id = c.archive.id :=
  congrArg Prod.fst h.source

theorem RecoveryOperation.Effect.sampled {op : RecoveryOperation} (h : op.Effect timestamp c c')
    (hc : SourceBound c) : SourceBound c' := by
  obtain ⟨-, hrest⟩ := Prod.mk.inj h.source
  obtain ⟨hfingerprint, hrest⟩ := Prod.mk.inj hrest
  obtain ⟨hacceptedEnd, hmanifest⟩ := Prod.mk.inj hrest
  rw [SourceBound, hmanifest, hfingerprint, hacceptedEnd]
  exact hc

/-- The recoveries, every identifier generated so far for a claim or an attempt, and what the
drives show. -/
structure ResumeSystem where
  recoveries : Recoveries
  issued : List String
  tables : DriveTables
  /-- `disc_inspections.detected_disc_id` references `detected_discs.id` -/
  discs : ∀ c ∈ recoveries.rows, DiscsKnown tables c

/-- A verification that `activateWaitingResume` has queued: of which attempt of which recovery, and
on which insertion. -/
structure Activation where
  archiveRecoveryId : String
  attemptId : String
  discInspectionId : String
  deriving DecidableEq

/-- What a recovery was activated with: the verification that its pass is bound to. -/
def Catalog.activation (c : Catalog) : Option Activation := do
  let work ← c.work
  let verificationId ← work.verificationId
  let verification ← c.findVerification verificationId
  return ⟨c.recovery.id, c.recovery.attemptId, verification.discInspectionId⟩

inductive ResumeAction where
  | published
  | transaction (archiveRecoveryId : String) (op : RecoveryOperation)
  | drives
  | activate (newVerificationId : String) (timestamp : Nat) (activation : Option Activation)

/-- What the action has activated. -/
def ResumeAction.activated : ResumeAction → Option Activation
  | .activate _ _ activation => activation
  | _ => none

variable (sha256 : Hashed → Digest)

/-- An archive is published, some worker or operator commits a transaction of one recovery, drives
and insertions change, or a poll looks for a recovery whose disc is there. -/
inductive ResumeSystem.Step (s : ResumeSystem) : ResumeAction → ResumeSystem → Prop
  | published (hnew : JustPublished c) (hrows : s'.recoveries.rows = s.recoveries.rows ++ [c])
    (htables : s'.tables = s.tables) : Step s .published s'
  | transaction (hc : c ∈ s.recoveries.rows)
    (hother : ∀ insertion newId, op ≠ .activateWaitingResume insertion newId)
    (hstep : RecoverySystem.Step sha256 ⟨c, s.issued⟩ op ⟨c', s'.issued⟩)
    (hrows : s'.recoveries = s.recoveries.put c') (htables : s'.tables = s.tables) :
    Step s (.transaction c.recovery.id op) s'
  | drives (hrows : s'.recoveries = s.recoveries) : Step s .drives s'
  | activate (hfresh : ∀ c ∈ s.recoveries.rows, ∀ other ∈ c.verifications, other.id ≠ newId)
    (hcall : s.recoveries.activateWaitingResume s.tables newId timestamp =
      .ok (found, s'.recoveries))
    (htables : s'.tables = s.tables) :
    Step s (.activate newId timestamp (found.bind Catalog.activation)) s'

/-- In a poll every recovery that waits is regular. -/
def ResumeSystem.RegularStep (s : ResumeSystem) (action : ResumeAction) (s' : ResumeSystem) :
    Prop :=
  (∀ newId timestamp activation, action = .activate newId timestamp activation →
    ∀ c ∈ s.recoveries.rows, Regular s.tables timestamp c) ∧ s.Step sha256 action s'

def ResumeSystem.Initial (s : ResumeSystem) : Prop := ∀ c ∈ s.recoveries.rows, JustPublished c

/-- The rows of every recovery are as the database keeps them. -/
def ResumeSystem.Kept (s : ResumeSystem) : Prop :=
  ∀ c ∈ s.recoveries.rows, Stored c ∧ DistinctVerifications c ∧ SourceBound c

theorem JustPublished.distinct (h : JustPublished c) : DistinctVerifications c := by
  rw [DistinctVerifications, h.verifications.1]
  exact List.nodup_nil

theorem InsertionBound.recoveryId (h : InsertionBound c inspection newId timestamp c') :
    c'.recovery.id = c.recovery.id := by
  rw [h.recovery]

theorem InsertionBound.activation (h : InsertionBound c inspection newId timestamp c') :
    c'.activation = some ⟨c.recovery.id, c.recovery.attemptId, inspection.id⟩ := by
  obtain ⟨verification, hverifications, hid, -, hinspection, -⟩ := h.queued
  obtain ⟨work, -, hwork⟩ := h.row
  have hfound : c'.findVerification newId = some verification := by
    rw [Catalog.findVerification, hverifications, List.find?_append,
      List.find?_eq_none.2 fun other hother => by simpa using h.fresh other hother]
    simp [hid]
  rw [Catalog.activation, hwork]
  show (do
    let verification ← c'.findVerification newId
    return ⟨c'.recovery.id, c'.recovery.attemptId, verification.discInspectionId⟩ :
      Option Activation) = _
  rw [hfound, h.recovery, ← hinspection]
  rfl

/-- What a poll has done. -/
inductive ResumeSystem.Polled (s : ResumeSystem) (newId : String) (timestamp : Nat)
    (activation : Option Activation) (s' : ResumeSystem) : Prop
  | activated (hmem : c ∈ s.recoveries.rows) (hdue : Due s.tables c inspection)
    (hbound : InsertionBound c inspection newId timestamp c')
    (hrows : s'.recoveries = s.recoveries.put c')
    (hactivation : activation = some ⟨c.recovery.id, c.recovery.attemptId, inspection.id⟩)
  | idle (hnone : ∀ c ∈ s.recoveries.rows, ∀ inspection, ¬Due s.tables c inspection)
    (hrows : s'.recoveries = s.recoveries) (hactivation : activation = none)

theorem ResumeSystem.RegularStep.polled {s s' : ResumeSystem} (hs : s.Kept)
    (h : s.RegularStep sha256 (.activate newId timestamp activation) s') :
    s.Polled newId timestamp activation s' := by
  obtain ⟨hregular, hstep⟩ := h
  cases hstep with
  | @activate _ _ _ found hfresh hcall =>
    have hcalls : CallActivates s.tables newId timestamp s.recoveries := by
      apply callActivates_of_activatable
      intro c hc
      exact ⟨hregular _ _ _ rfl c hc, (hs c hc).1, s.discs c hc, (hs c hc).2.2, hfresh c hc⟩
    cases hcalls with
    | activated hmem hdue hbound hactivated =>
      obtain ⟨hfound, hrows⟩ := Prod.mk.inj (Except.ok.inj (hcall.symm.trans hactivated))
      refine .activated hmem hdue hbound hrows ?_
      rw [hfound]
      exact hbound.activation
    | idle hnone hidle =>
      obtain ⟨hfound, hrows⟩ := Prod.mk.inj (Except.ok.inj (hcall.symm.trans hidle))
      exact .idle hnone hrows (by rw [hfound]; rfl)

theorem ResumeSystem.RegularStep.kept {s s' : ResumeSystem}
    (h : s.RegularStep sha256 action s') (hs : s.Kept) : s'.Kept := by
  have hstep := h.2
  cases hstep with
  | published hnew hrows =>
    intro d hd
    rw [hrows] at hd
    obtain hd | hd := List.mem_append.1 hd
    · exact hs d hd
    · cases List.mem_singleton.1 hd
      exact ⟨hnew.stored, hnew.distinct, hnew.sampled⟩
  | transaction hc _ hstep hrows =>
    obtain ⟨-, -, timestamp, returned, hop⟩ := (RecoverySystem.step_iff sha256).1 hstep
    obtain ⟨hstored, hdistinct, hsampled⟩ := hs _ hc
    have heffect := RecoveryOperation.run_effect sha256 hop
    intro d hd
    rw [hrows] at hd
    obtain ⟨rfl, -⟩ | ⟨hd, -⟩ := Recoveries.mem_put.1 hd
    · exact ⟨heffect.stored hstored, (RecoveryOperation.run_grows sha256 hop hdistinct).1,
        heffect.sampled hsampled⟩
    · exact hs d hd
  | drives hrows =>
    rw [Kept, hrows]
    exact hs
  | activate =>
    cases ResumeSystem.RegularStep.polled sha256 hs h with
    | activated hmem hdue hbound hrows =>
      obtain ⟨hstored, hdistinct, hsampled⟩ := hs _ hmem
      intro d hd
      rw [hrows] at hd
      obtain ⟨rfl, -⟩ | ⟨hd, -⟩ := Recoveries.mem_put.1 hd
      · exact ⟨hbound.stored hdue.waits.1 hstored, (hbound.grows hdistinct).1,
          hbound.sampled hsampled⟩
      · exact hs d hd
    | idle hnone hrows =>
      rw [Kept, hrows]
      exact hs

/-- A verification of the attempt has been bound to the insertion. -/
def ResumeSystem.Bound (s : ResumeSystem) (activation : Activation) : Prop :=
  ∃ c ∈ s.recoveries.rows, c.recovery.id = activation.archiveRecoveryId ∧
    BoundInAttempt c activation.attemptId activation.discInspectionId

theorem BoundInAttempt.grows (h : BoundInAttempt c attemptId inspectionId)
    (hid : c'.recovery.id = c.recovery.id)
    (hkept : c.verifications.map (·.identity) <+: c'.verifications.map (·.identity)) :
    BoundInAttempt c' attemptId inspectionId := by
  obtain ⟨verification, hmem, hrecovery, hattempt, hinspection⟩ := h
  obtain ⟨verification', hmem', hsame⟩ :=
    List.mem_map.1 (hkept.subset (List.mem_map_of_mem hmem))
  obtain ⟨-, hsame⟩ := Prod.mk.inj hsame
  obtain ⟨hrecovery', hsame⟩ := Prod.mk.inj hsame
  obtain ⟨hattempt', hinspection'⟩ := Prod.mk.inj hsame
  exact ⟨verification', hmem', hrecovery'.trans (hrecovery.trans hid.symm),
    hattempt'.trans hattempt, hinspection'.trans hinspection⟩

/-- Rows in which a recovery has taken a step keep what was bound. -/
theorem ResumeSystem.Bound.put {s s' : ResumeSystem} (h : s.Bound activation)
    (hc : c ∈ s.recoveries.rows) (hid : c'.recovery.id = c.recovery.id)
    (hkept : c.verifications.map (·.identity) <+: c'.verifications.map (·.identity))
    (hrows : s'.recoveries = s.recoveries.put c') : s'.Bound activation := by
  obtain ⟨d, hd, hdid, hbound⟩ := h
  rw [Bound, hrows]
  by_cases hsame : d.recovery.id = c.recovery.id
  · cases Recoveries.eq_of_id hd hc hsame
    exact ⟨c', Recoveries.mem_put.2 (.inl ⟨rfl, _, hc, hid.symm⟩), hid.trans hdid,
      hbound.grows hid hkept⟩
  · exact ⟨d, Recoveries.mem_put.2 (.inr ⟨hd, fun h => hsame (h.trans hid)⟩), hdid, hbound⟩

theorem ResumeSystem.RegularStep.bound {s s' : ResumeSystem}
    (h : s.RegularStep sha256 action s') (hs : s.Kept) (hbound : s.Bound activation) :
    s'.Bound activation := by
  have hstep := h.2
  cases hstep with
  | published hnew hrows =>
    obtain ⟨d, hd, hdid, hbound⟩ := hbound
    exact ⟨d, hrows ▸ List.mem_append_left _ hd, hdid, hbound⟩
  | transaction hc _ hstep hrows =>
    obtain ⟨-, -, timestamp, returned, hop⟩ := (RecoverySystem.step_iff sha256).1 hstep
    exact hbound.put hc (RecoveryOperation.run_effect sha256 hop).recoveryId
      (RecoveryOperation.run_grows sha256 hop (hs _ hc).2.1).2 hrows
  | drives hrows =>
    rw [Bound, hrows]
    exact hbound
  | activate =>
    cases ResumeSystem.RegularStep.polled sha256 hs h with
    | activated hmem hdue hinsertion hrows =>
      exact hbound.put hmem hinsertion.recoveryId
        (hinsertion.grows (hs _ hmem).2.1).2 hrows
    | idle hnone hrows =>
      rw [Bound, hrows]
      exact hbound

/-- A poll activates an attempt for an insertion that it has not been bound to, and binds it. -/
theorem ResumeSystem.RegularStep.once {s s' : ResumeSystem}
    (h : s.RegularStep sha256 action s') (hs : s.Kept)
    (hactivated : action.activated = some activation) :
    ¬s.Bound activation ∧ s'.Bound activation := by
  have hstep := h.2
  cases hstep with
  | published => cases hactivated
  | transaction => cases hactivated
  | drives => cases hactivated
  | activate =>
    cases ResumeSystem.RegularStep.polled sha256 hs h with
    | @activated c inspection c' hmem hdue hinsertion hrows hactivation =>
      cases hactivation.symm.trans hactivated
      constructor
      · rintro ⟨d, hd, hid, hbound⟩
        cases Recoveries.eq_of_id hd hmem hid
        exact hdue.unbound hbound
      · have hid := hinsertion.recoveryId
        obtain ⟨verification, hverifications, -, -, hinspection, hrecovery, hattempt, -⟩ :=
          hinsertion.queued
        rw [Bound, hrows]
        refine ⟨c', Recoveries.mem_put.2 (.inl ⟨rfl, c, hmem, hid.symm⟩), hid, verification, ?_,
          hrecovery.trans hid.symm, hattempt, hinspection⟩
        rw [hverifications]
        exact List.mem_append_right _ List.mem_cons_self
    | idle _ _ hactivation => cases hactivation.symm.trans hactivated

/-- A waiting Resume is activated by the right insertion, once. -/
structure ResumeActivated (actions : List ResumeAction) (s : ResumeSystem) : Prop where
  once : (actions.filterMap ResumeAction.activated).Nodup
  call : ∀ newId timestamp, (∀ c ∈ s.recoveries.rows, Regular s.tables timestamp c) →
    (∀ c ∈ s.recoveries.rows, ∀ other ∈ c.verifications, other.id ≠ newId) →
      CallActivates s.tables newId timestamp s.recoveries
  drains : ∀ calls, (calls.map Prod.fst).Nodup → waitingCount s.recoveries ≤ calls.length →
    (∀ call ∈ calls, ∀ c ∈ s.recoveries.rows, Regular s.tables call.2 c ∧
      ∀ other ∈ c.verifications, other.id ≠ call.1) →
      ∃ r, s.recoveries.activateRepeatedly s.tables calls = .ok r ∧
        ∀ c ∈ r.rows, ∀ inspection, ¬Due s.tables c inspection

/-- In every run whose polls find regular recoveries, a poll of regular recoveries activates one
that is due if there is any, and polls go on doing so until none is left. -/
theorem waiting_resume_activated (hstart : ResumeSystem.Initial s₀)
    (hrun : Run (ResumeSystem.RegularStep sha256) s₀ actions s) : ResumeActivated actions s := by
  have hstep : ∀ s action s', ResumeSystem.Kept s →
      ResumeSystem.RegularStep sha256 s action s' → s'.Kept :=
    fun s action s' hs h => ResumeSystem.RegularStep.kept sha256 h hs
  have hinitial : s₀.Kept := fun c hc =>
    ⟨(hstart c hc).stored, (hstart c hc).distinct, (hstart c hc).sampled⟩
  have hs : s.Kept := hrun.inv hstep hinitial
  have honce : (actions.filterMap ResumeAction.activated).Nodup ∧
      ∀ activation ∈ actions.filterMap ResumeAction.activated, ¬s₀.Bound activation :=
    hrun.once hinitial hstep
      (fun s action s' activation hs h hbound =>
        ResumeSystem.RegularStep.bound sha256 h hs hbound)
      (fun s action s' activation hs h hactivated =>
        ResumeSystem.RegularStep.once sha256 h hs hactivated)
  refine ⟨honce.1, fun newId timestamp hregular hfresh => ?_, fun calls hids hcount hcalls => ?_⟩
  · exact callActivates_of_activatable fun c hc =>
      ⟨hregular c hc, (hs c hc).1, s.discs c hc, (hs c hc).2.2, hfresh c hc⟩
  · apply activateRepeatedly_drains hids _ hcount
    intro call hcall c hc
    obtain ⟨hregular, hfresh⟩ := hcalls call hcall c hc
    exact ⟨hregular, (hs c hc).1, s.discs c hc, (hs c hc).2.2, hfresh⟩

def sampleDrive : OpticalDrive where
  id := "drive"
  devicePath := "/dev/sr0"
  displayName := none
  vendor := none
  product := none
  serialNumber := none
  isEnabled := true
  configurationDefaultResolved := true
  isConfiguredTarget := true
  isPresent := true
  lastSeenAt := 0

def sampleInsertion : DiscInspection := ⟨"inspection", true, "completed", some "disc", "generation"⟩

def reinsertedInsertion : DiscInspection := ⟨"reinserted", true, "completed", some "disc", "later"⟩

/-- The drive, enabled again, with the disc that was verified in it. -/
def sampleDrives : DriveTables where
  opticalDrives := [sampleDrive]
  discInspections := [⟨sampleInsertion, "drive", 0⟩]
  discDrives := [("disc", "drive")]

/-- The drive after its disc was put in again. -/
def reinsertedDrives : DriveTables where
  opticalDrives := [sampleDrive]
  discInspections := [⟨reinsertedInsertion, "drive", 0⟩]
  discDrives := [("disc", "drive")]

/-- The projection of a checkpoint that has recovered the second sector as well. -/
def lastProjection : DvdRecoveryCheckpointProjection where
  claim := none
  recoveryRead := { secondProjection.recoveryRead with outcome := .recovered }
  manifest := { secondProjection.manifest with unrecoveredSourceRanges := [] }

/-- A Stop is requested when the last sector has just been read, and the recovery is resumed. -/
def stoppedAtTheEndRun : List (Nat × RecoveryOperation) := firstClaimRun ++ [
  (5, .projectDvdRecoveryCheckpoint sampleProjection),
  (6, .projectDvdRecoveryCheckpoint lastProjection),
  (7, .requestStop "recovery" "attempt" "stop"),
  (8, .prepareStop "recovery" "attempt" "stop" (some sampleClaim) fun _ => ⟨.inconclusive, [], 0⟩),
  (9, .completeStop "recovery" "attempt" "stop"),
  (10, .requestResume ⟨"recovery", "attempt", 3, 3⟩ "next-attempt" "resume" none "unused")]

def otherCatalog : Catalog := { publishedCatalog with
  archive := { sampleArchive with id := "other-archive" }
  archiveJobs := [⟨"job", "dvd-recovery-evidence-v1", "other-archive", "disc", "completed"⟩]
  header := { sampleHeader with originalDiscArchiveId := "other-archive" }
  manifests := [{ sampleManifest with originalDiscArchiveId := "other-archive", createdAt := 0 }]
  recovery := publishedRecovery "other" "other-archive" "other-attempt"
    sampleManifest.unrecoveredSourceRanges 0 }

def otherSystem : RecoverySystem := ⟨otherCatalog, ["other-attempt"]⟩

theorem otherSystem_initial : RecoverySystem.Initial otherSystem := by
  refine ⟨⟨⟨⟨rfl, rfl⟩, ⟨_, rfl, rfl, rfl, rfl, ⟨rfl, rfl, rfl, rfl, rfl⟩⟩, by decide⟩,
    ⟨_, rfl, rfl⟩, fun current hc => ?_, rfl, ⟨rfl, rfl, rfl⟩, ⟨rfl, rfl, rfl⟩,
    fun manifest hmanifest => ?_⟩, rfl⟩
  · cases hc
    exact ⟨by decide, .singleton _⟩
  · cases hmanifest
    exact ⟨rfl, rfl⟩

/-- Another recovery is stopped before its first pass, and resumed. -/
def otherRun : List (Nat × RecoveryOperation) := [
  (11, .requestStop "other" "other-attempt" "other-stop"),
  (12, .prepareStop "other" "other-attempt" "other-stop" none fun _ => ⟨.inconclusive, [], 0⟩),
  (13, .completeStop "other" "other-attempt" "other-stop"),
  (14, .requestResume ⟨"other", "other-attempt", 1, 1⟩ "other-next" "other-resume" none "unused")]

theorem activateWaitingResume_skips (hlatest : c.latestVerification.map (·.discInspectionId) =
      some inspection.id) (newId : String) (timestamp : Nat) :
    activateWaitingResume (some inspection) newId timestamp c = .ok (false, c) := by
  unfold activateWaitingResume
  dsimp only
  rw [if_neg fun h => h.2.2.2 hlatest]

/-- The only recovery, before any drive has been seen. -/
def RecoverySystem.alone (s : RecoverySystem) : ResumeSystem where
  recoveries := ⟨[s.catalog], List.nodup_singleton _⟩
  issued := s.issued
  tables := ⟨[], [], []⟩
  discs := fun _ _ row hrow => absurd hrow (List.not_mem_nil (a := row))

theorem RecoverySystem.alone_run (hrun : Run (RecoverySystem.Step sha256) s ops s')
    (hother : ∀ op ∈ ops, ∀ insertion newId, op ≠ .activateWaitingResume insertion newId) :
    ∃ actions, Run (ResumeSystem.RegularStep sha256) s.alone actions s'.alone := by
  induction hrun with
  | nil => exact ⟨[], .nil _⟩
  | @cons s op t ops u hstep _ ih =>
    obtain ⟨actions, hrest⟩ := ih fun op hop => hother op (List.mem_cons_of_mem _ hop)
    obtain ⟨-, -, timestamp, returned, hop⟩ := (RecoverySystem.step_iff sha256).1 hstep
    have hid := (RecoveryOperation.run_effect sha256 hop).recoveryId
    refine ⟨.transaction s.catalog.recovery.id op :: actions, .cons ⟨nofun, ?_⟩ hrest⟩
    refine .transaction List.mem_cons_self (hother op List.mem_cons_self) hstep ?_ rfl
    simp [Recoveries.put, alone, hid]

theorem otherRun_waits : ∃ t ∈ otherSystem.performAll sampleSha256 otherRun,
    WaitsForDisc t.catalog ∧
    currentResumeInsertion sampleDrives t.catalog = some sampleInsertion ∧
    ¬BoundInAttempt t.catalog t.catalog.recovery.attemptId sampleInsertion.id ∧
    Regular sampleDrives 100 t.catalog ∧ t.catalog.verifications = [] ∧
    t.catalog.detectedDiscs = [⟨"disc", "fingerprint"⟩] := by
  decide +kernel

/-- A recovery that waits for its disc is activated when the drive shows it. -/
theorem otherResume_activated : ∃ actions s activation,
    Run (ResumeSystem.RegularStep sampleSha256) otherSystem.alone actions s ∧
    actions.getLast? = some (.activate "new" 100 (some activation)) ∧
    ResumeActivated actions s := by
  obtain ⟨t, ht, hwaits, hinsertion, hunbound, hregular, hempty, hknown⟩ := otherRun_waits
  have hinitial : ResumeSystem.Initial otherSystem.alone := by
    intro c hc
    cases List.mem_singleton.1 hc
    exact otherSystem_initial.1
  have hother : ∀ op ∈ otherRun.map Prod.snd, ∀ insertion newId,
      op ≠ .activateWaitingResume insertion newId := by
    rintro op hop insertion newId rfl
    simp [otherRun] at hop
  obtain ⟨actions, hrun⟩ :=
    RecoverySystem.alone_run sampleSha256 (RecoverySystem.run_of_performAll _ ht) hother
  have hdiscs : ∀ c ∈ t.alone.recoveries.rows, DiscsKnown sampleDrives c := by
    intro c hc row hrow _
    cases List.mem_singleton.1 hc
    cases List.mem_singleton.1 hrow
    refine ⟨⟨"disc", "fingerprint"⟩, ?_⟩
    simp [requireDetectedDisc, sampleInsertion, Catalog.findDetectedDisc, hknown]
  let shown : ResumeSystem := { t.alone with tables := sampleDrives, discs := hdiscs }
  have hshown : ResumeSystem.RegularStep sampleSha256 t.alone .drives shown :=
    ⟨nofun, .drives rfl⟩
  have hrun := hrun.append (.single hshown)
  have hfresh : ∀ c ∈ shown.recoveries.rows, ∀ other ∈ c.verifications, other.id ≠ "new" := by
    intro c hc other hother
    cases List.mem_singleton.1 hc
    rw [hempty] at hother
    cases hother
  have hregular : ∀ c ∈ shown.recoveries.rows, Regular shown.tables 100 c := by
    intro c hc
    cases List.mem_singleton.1 hc
    exact hregular
  cases (waiting_resume_activated sampleSha256 hinitial hrun).call "new" 100 hregular hfresh with
  | @activated c inspection c' hmem hdue hbound hcall =>
    have hdiscs' : ∀ d ∈ (shown.recoveries.put c').rows, DiscsKnown sampleDrives d := by
      intro d hd
      obtain ⟨rfl, -⟩ | ⟨hd, -⟩ := Recoveries.mem_put.1 hd
      · rw [hbound.others]
        exact hdiscs c hmem
      · exact hdiscs d hd
    let s : ResumeSystem := ⟨shown.recoveries.put c', shown.issued, sampleDrives, hdiscs'⟩
    have hstep : ResumeSystem.RegularStep sampleSha256 shown
        (.activate "new" 100 ((some c').bind Catalog.activation)) s := by
      refine ⟨fun newId timestamp activation he => ?_, .activate hfresh hcall rfl⟩
      cases he
      exact hregular
    rw [Option.bind_some, hbound.activation] at hstep
    have hrun := hrun.append (.single hstep)
    exact ⟨_, _, _, hrun, List.getLast?_concat, waiting_resume_activated sampleSha256 hinitial hrun⟩
  | idle hnone =>
    exact absurd ⟨hwaits, hinsertion, hunbound⟩ (hnone _ List.mem_cons_self _)

/-- A Resume is not activated by the insertion that an earlier attempt was verified on; and a
recovery that has nothing left to recover keeps another one from being activated. -/
theorem waiting_resume_missed :
    (∃ s, Run (RecoverySystem.Step sampleSha256) publishedSystem (resumedRun.map Prod.snd) s ∧
      (∃ inspection, Due sampleDrives s.catalog inspection) ∧
      ∀ r : Recoveries, r.rows = [s.catalog] → ∀ newId timestamp,
        r.activateWaitingResume sampleDrives newId timestamp = .ok (none, r)) ∧
    ∃ s t, Run (RecoverySystem.Step sampleSha256) publishedSystem
        (stoppedAtTheEndRun.map Prod.snd) s ∧
      Run (RecoverySystem.Step sampleSha256) otherSystem (otherRun.map Prod.snd) t ∧
      (∃ inspection, Due reinsertedDrives t.catalog inspection) ∧
      ∀ r : Recoveries, r.rows = [t.catalog, s.catalog] →
        ∃ error, r.activateWaitingResume reinsertedDrives "new" 100 = .error error := by
  have hskipped : ∃ s ∈ publishedSystem.performAll sampleSha256 resumedRun,
      WaitsForDisc s.catalog ∧
      currentResumeInsertion sampleDrives s.catalog = some sampleInsertion ∧
      ¬BoundInAttempt s.catalog s.catalog.recovery.attemptId sampleInsertion.id ∧
      s.catalog.latestVerification.map (·.discInspectionId) = some sampleInsertion.id := by
    decide +kernel
  have hhidden : ∃ s ∈ publishedSystem.performAll sampleSha256 stoppedAtTheEndRun,
      ∃ t ∈ otherSystem.performAll sampleSha256 otherRun, WaitsForDisc t.catalog ∧
      currentResumeInsertion reinsertedDrives t.catalog = some reinsertedInsertion ∧
      ¬BoundInAttempt t.catalog t.catalog.recovery.attemptId reinsertedInsertion.id ∧
      (activateWaiting (currentResumeInsertion reinsertedDrives) "new" 100
        (sortBy compareUpdated ([t.catalog, s.catalog].filter
          (·.recovery.status = .waitingForDisc)))).isOk = false := by
    decide +kernel
  constructor
  · obtain ⟨s, hs, hwaits, hinsertion, hunbound, hlatest⟩ := hskipped
    refine ⟨s, RecoverySystem.run_of_performAll _ hs, ⟨_, hwaits, hinsertion, hunbound⟩, ?_⟩
    intro r hrows newId timestamp
    have hwaiting : waitingForDisc r = [s.catalog] := by
      have hfilter : [s.catalog].filter (·.recovery.status = .waitingForDisc) = [s.catalog] := by
        simp [hwaits.1]
      rw [waitingForDisc, hrows, hfilter]
      rfl
    rw [Recoveries.activateWaitingResume, hwaiting, activateWaiting, hinsertion,
      activateWaitingResume_skips hlatest]
    rfl
  · obtain ⟨s, hs, t, ht, hwaits, hinsertion, hunbound, hfails⟩ := hhidden
    refine ⟨s, t, RecoverySystem.run_of_performAll _ hs, RecoverySystem.run_of_performAll _ ht,
      ⟨_, hwaits, hinsertion, hunbound⟩, ?_⟩
    intro r hrows
    rw [← hrows, ← waitingForDisc] at hfails
    rw [Recoveries.activateWaitingResume]
    cases hcall : activateWaiting (currentResumeInsertion reinsertedDrives) "new" 100
      (waitingForDisc r) with
    | error error => exact ⟨error, rfl⟩
    | ok found =>
      rw [hcall] at hfails
      cases hfails

end RipDvd
