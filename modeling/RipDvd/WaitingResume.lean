import RipDvd.RecoveryPoll
import RipDvd.WorkAgreement
import RipDvd.OpticalDrives

namespace RipDvd
set_option autoImplicit true

/-- A disc inspection, with the columns that only the choice of an insertion reads. -/
structure InspectionRow where
  inspection : DiscInspection
  opticalDriveId : String
  updatedAt : Nat
  deriving DecidableEq

/-- What the drives show. -/
structure DriveTables where
  opticalDrives : List OpticalDrive
  discInspections : List InspectionRow
  /-- the `optical_drive_id` of each detected disc -/
  discDrives : List (String × String)
  deriving DecidableEq

/-- The latest first. -/
def compareRecent (a b : InspectionRow) : Ordering :=
  compareLex (compareOn (·.updatedAt)) (compareOn (·.inspection.id)) b a

/-- A completed inspection of the disc that is in a drive to be used. -/
def DriveTables.shows (t : DriveTables) (row : InspectionRow) : Prop :=
  (∃ drive ∈ t.opticalDrives, drive.id = row.opticalDriveId ∧ drive.isPresent = true ∧
    drive.isEnabled = true) ∧
  row.inspection.isCurrent = true ∧ row.inspection.status = "completed" ∧
  row.inspection.detectedDiscId ≠ none

instance (t : DriveTables) (row : InspectionRow) : Decidable (t.shows row) :=
  inferInstanceAs (Decidable (_ ∧ _))

/-- The insertion in the drive of the original disc, else the only one there is. -/
def currentResumeInsertion (t : DriveTables) (c : Catalog) : Option DiscInspection :=
  let source := t.discDrives.lookup c.archive.detectedDiscId
  let candidates := sortBy compareRecent (t.discInspections.filter (t.shows ·))
  match candidates.find? (source = some ·.opticalDriveId) with
  | some row => some row.inspection
  | none =>
    match candidates with
    | [row] => some row.inspection
    | _ => none

theorem currentResumeInsertion_shown (h : currentResumeInsertion t c = some inspection) :
    ∃ row ∈ t.discInspections, t.shows row ∧ row.inspection = inspection := by
  unfold currentResumeInsertion at h
  dsimp only at h
  generalize hcandidates : sortBy compareRecent (t.discInspections.filter (t.shows ·)) =
    candidates at h
  have hshown : ∀ row ∈ candidates, row ∈ t.discInspections ∧ t.shows row := by
    intro row hrow
    rw [← hcandidates, mem_sortBy, List.mem_filter] at hrow
    exact ⟨hrow.1, of_decide_eq_true hrow.2⟩
  split at h
  · next row hfound =>
    cases h
    obtain ⟨hmem, hshows⟩ := hshown row (List.mem_of_find?_eq_some hfound)
    exact ⟨row, hmem, hshows, rfl⟩
  · split at h
    · next row _ =>
      cases h
      obtain ⟨hmem, hshows⟩ := hshown row List.mem_cons_self
      exact ⟨row, hmem, hshows, rfl⟩
    · cases h

/-- The first recovery whose insertion can be verified. -/
def activateWaiting (insertion : Catalog → Option DiscInspection) (newVerificationId : String)
    (timestamp : Nat) : List Catalog → Except DomainError (Option Catalog)
  | [] => .ok none
  | c :: rest =>
    match activateWaitingResume (insertion c) newVerificationId timestamp c with
    | .error error => .error error
    | .ok (true, activated) => .ok (some activated)
    | .ok (false, _) => activateWaiting insertion newVerificationId timestamp rest

/-- A poll activates as the table does. -/
theorem activateFirst_eq (w : Worker) (waiting : List Catalog) : activateFirst w waiting =
    activateWaiting w.insertion w.newVerificationId (w.clock 3) waiting := by
  induction waiting with
  | nil => rfl
  | cons c rest ih =>
    exact congrArg (fun next =>
      match RipDvd.activateWaitingResume (w.insertion c) w.newVerificationId (w.clock 3) c with
      | .error error => Except.error error
      | .ok (true, activated) => .ok (some activated)
      | .ok (false, _) => next) ih

/-- `archiveRecoveryWork.activateWaitingResume`, with the recovery it returns. -/
def Recoveries.activateWaitingResume (t : DriveTables) (newVerificationId : String)
    (timestamp : Nat) (r : Recoveries) : Except DomainError (Option Catalog × Recoveries) :=
  (activateWaiting (currentResumeInsertion t) newVerificationId timestamp (waitingForDisc r)).map
    fun found => (found, found.elim r r.put)

/-- A recovery waits for its disc, with a requested pass. -/
def WaitsForDisc (c : Catalog) : Prop :=
  c.recovery.status = .waitingForDisc ∧ c.recovery.resumeOperationId ≠ none ∧
    ∃ work ∈ c.work, work.status = .requested

instance (c : Catalog) : Decidable (WaitsForDisc c) := inferInstanceAs (Decidable (_ ∧ _))

/-- A verification of the attempt has been bound to the inspection. -/
def BoundInAttempt (c : Catalog) (attemptId inspectionId : String) : Prop :=
  ∃ verification ∈ c.verifications, verification.archiveRecoveryId = c.recovery.id ∧
    verification.archiveRecoveryAttemptId = some attemptId ∧
    verification.discInspectionId = inspectionId

instance (c : Catalog) (attemptId inspectionId : String) :
    Decidable (BoundInAttempt c attemptId inspectionId) :=
  inferInstanceAs (Decidable (∃ verification ∈ c.verifications, _))

/-- A waiting recovery has an insertion that its attempt has not been verified on. -/
structure Due (t : DriveTables) (c : Catalog) (inspection : DiscInspection) : Prop where
  waits : WaitsForDisc c
  insertion : currentResumeInsertion t c = some inspection
  unbound : ¬BoundInAttempt c c.recovery.attemptId inspection.id

/-- Nothing keeps the pass of the recovery from being verified. -/
structure Verifiable (c : Catalog) (timestamp : Nat) : Prop where
  encode : c.activeEncodeWork = false
  reconciled : ∀ latest ∈ c.latestReconciliation, latest.status = "completed"
  checkpoint : c.recovery.resumeCheckpointRevision = some c.header.currentManifestRevision ∧
    c.recovery.resumeCheckpointDigest = some c.header.currentManifestDigest
  left : ∃ current ∈ c.currentManifest, current.unrecoveredSourceRanges ≠ []
  clock : c.recovery.updatedAt ≤ timestamp

instance (c : Catalog) (timestamp : Nat) : Decidable (Verifiable c timestamp) :=
  decidable_of_iff (c.activeEncodeWork = false ∧
      (∀ latest ∈ c.latestReconciliation, latest.status = "completed") ∧
      (c.recovery.resumeCheckpointRevision = some c.header.currentManifestRevision ∧
        c.recovery.resumeCheckpointDigest = some c.header.currentManifestDigest) ∧
      (∃ current ∈ c.currentManifest, current.unrecoveredSourceRanges ≠ []) ∧
      c.recovery.updatedAt ≤ timestamp)
    ⟨fun ⟨encode, reconciled, checkpoint, left, clock⟩ =>
      ⟨encode, reconciled, checkpoint, left, clock⟩,
    fun h => ⟨h.encode, h.reconciled, h.checkpoint, h.left, h.clock⟩⟩

/-- The latest verification of a waiting recovery is of its insertion just when one of its current
attempt is; and if none is, nothing keeps the recovery from being verified. -/
def Regular (t : DriveTables) (timestamp : Nat) (c : Catalog) : Prop :=
  WaitsForDisc c → ∀ inspection ∈ currentResumeInsertion t c,
    (c.latestVerification.map (·.discInspectionId) = some inspection.id ↔
      BoundInAttempt c c.recovery.attemptId inspection.id) ∧
    (¬BoundInAttempt c c.recovery.attemptId inspection.id → Verifiable c timestamp)

instance (t : DriveTables) (timestamp : Nat) (c : Catalog) : Decidable (Regular t timestamp c) :=
  inferInstanceAs (Decidable (_ → _))

/-- A verification of the insertion is queued for the resumed attempt, against the checkpoint that
was resumed, and the recovery can go on with it. -/
structure InsertionBound (c : Catalog) (inspection : DiscInspection) (newId : String)
    (timestamp : Nat) (c' : Catalog) : Prop where
  recovery : c'.recovery = { c.recovery with
    status := .eligible
    updatedAt := timestamp }
  queued : ∃ verification, c'.verifications = c.verifications ++ [verification] ∧
    verification.id = newId ∧ verification.status = .queued ∧
    verification.discInspectionId = inspection.id ∧
    verification.archiveRecoveryId = c.recovery.id ∧
    verification.archiveRecoveryAttemptId = some c.recovery.attemptId ∧
    some verification.checkpointRevision = c.recovery.resumeCheckpointRevision ∧
    some verification.checkpointDigest = c.recovery.resumeCheckpointDigest
  row : ∃ work ∈ c.work, c'.work = some { work with
    verificationId := some newId
    discConfirmationId := none
    requestedAt := some timestamp
    updatedAt := timestamp }
  fresh : ∀ other ∈ c.verifications, other.id ≠ newId
  others : c' = { c with
    recovery := c'.recovery
    work := c'.work
    verifications := c'.verifications }

theorem activateResumeInsertion_binds
    (h : activateResumeInsertion c inspection newId timestamp = .ok c') :
    InsertionBound c inspection newId timestamp c' := by
  obtain ⟨queued, hqueued, h⟩ := bind_ok.1 h
  obtain ⟨observedDisc, -, hqueued⟩ := bind_ok.1 hqueued
  obtain ⟨_, hcheckpoint, hqueued⟩ := bind_ok.1 hqueued
  obtain ⟨-, -, hqueued⟩ := bind_ok.1 hqueued
  obtain ⟨_, hfresh, hqueued⟩ := bind_ok.1 hqueued
  cases hqueued
  rw [rejectIf_ok] at hfresh
  rw [rejectIf_ok, not_or, not_not, not_not] at hcheckpoint
  split at h
  · cases h
  · next work hwork =>
    obtain ⟨-, -, h⟩ := bind_ok.1 h
    obtain ⟨-, -, h⟩ := bind_ok.1 h
    obtain ⟨bound, hbound, h⟩ := bind_ok.1 h
    obtain ⟨-, -, -, rfl⟩ := writeWork_ok.1 hbound
    obtain ⟨-, -, -, -, -, rfl⟩ := updateArchiveRecovery_ok.1 h
    exact ⟨rfl, ⟨_, rfl, rfl, rfl, rfl, rfl, rfl, hcheckpoint.1.symm, hcheckpoint.2.symm⟩, ⟨work,
      hwork, rfl⟩, fun other hother hid => hfresh ⟨other, hother, hid⟩, rfl⟩

/-- The rows of a recovery pass the checks of their tables, as far as a waiting one needs them. -/
structure Stored (c : Catalog) : Prop where
  attempt : RowOfAttempt c
  pass : ∀ work ∈ c.work, work.toArchiveRecoveryPass.Valid
  unclaimed : ∀ work ∈ c.work, work.status = .requested →
    work.claimedBy = none ∧ work.claimToken = none ∧ work.claimedAt = none
  recovery : c.recovery.Valid

theorem ArchiveRecovery.Valid.activated {recovery : ArchiveRecovery} (h : recovery.Valid)
    (hwaiting : recovery.status = .waitingForDisc) (updatedAt : Nat) :
    ArchiveRecovery.Valid { recovery with status := .eligible, updatedAt } := by
  rw [valid_iff] at h ⊢
  simp [hwaiting] at h
  simp [h]

theorem activateResumeInsertion_succeeds (hstored : Stored c) (hwaits : WaitsForDisc c)
    (hfree : Verifiable c timestamp) (hdisc : ∃ disc, requireDetectedDisc c inspection = .ok disc)
    (hsource : SourceBound c) (hfresh : ∀ other ∈ c.verifications, other.id ≠ newId) :
    ∃ c', activateResumeInsertion c inspection newId timestamp = .ok c' := by
  obtain ⟨hwaiting, -, work, hwork, hrequested⟩ := hwaits
  obtain ⟨disc, hdisc⟩ := hdisc
  have hpass := hstored.pass work hwork
  have hids := hstored.attempt work hwork
  have hqueued : queueResumeVerification c inspection newId timestamp = .ok { c with
      verifications := c.verifications ++ [{ verificationOf c inspection disc with
        id := newId
        attemptOrdinal := nextVerificationOrdinal c
        createdAt := timestamp }] } := by
    refine bind_ok.2 ⟨disc, hdisc, bind_ok.2 ⟨(), rejectIf_ok.2 ?_, bind_ok.2 ⟨(),
      validateDvdDiscVerificationManifestBinding_ok.2 hsource, bind_ok.2 ⟨(), ?_, rfl⟩⟩⟩⟩
    · rintro (hrevision | hdigest)
      · exact hrevision hfree.checkpoint.1
      · exact hdigest hfree.checkpoint.2
    · rw [rejectIf_ok]
      rintro ⟨other, hother, hid⟩
      exact hfresh other hother hid
  have hrow : ArchiveRecoveryWork.ClaimValid { work with
      verificationId := some newId
      discConfirmationId := none
      requestedAt := some timestamp
      updatedAt := timestamp } :=
    .inl ⟨hrequested, Option.some_ne_none _, hstored.unclaimed work hwork hrequested⟩
  have hwork : c.work = some work := hwork
  rw [activateResumeInsertion, hqueued, hwork]
  exact ⟨_, bind_ok.2 ⟨_, rfl, bind_ok.2 ⟨(), rejectIf_ok.2 (not_not.2 hrequested),
    bind_ok.2 ⟨(), rejectIf_ok.2 (not_not.2 hwaiting), bind_ok.2 ⟨_,
      writeWork_ok.2 ⟨hrow, hpass, hids, rfl⟩, updateArchiveRecovery_ok.2 ⟨rfl, rfl, hfree.clock,
        .inr (.inr (.inr ⟨List.mem_cons_self, hfree.left⟩)),
        hstored.recovery.activated hwaiting timestamp, rfl⟩⟩⟩⟩⟩⟩

/-- Every inspection of a disc has the row of that disc. -/
def DiscsKnown (t : DriveTables) (c : Catalog) : Prop :=
  ∀ row ∈ t.discInspections, row.inspection.detectedDiscId ≠ none →
    ∃ disc, requireDetectedDisc c row.inspection = .ok disc

/-- What a call of `activateWaitingResume` relies on in a row. -/
structure Activatable (t : DriveTables) (newId : String) (timestamp : Nat) (c : Catalog) :
    Prop where
  regular : Regular t timestamp c
  stored : Stored c
  discs : DiscsKnown t c
  source : SourceBound c
  fresh : ∀ other ∈ c.verifications, other.id ≠ newId

/-- A recovery is activated if it is due, and is left alone if it is not. -/
theorem Activatable.activates (h : Activatable t newId timestamp c) :
    (∃ inspection c', Due t c inspection ∧ InsertionBound c inspection newId timestamp c' ∧
      activateWaitingResume (currentResumeInsertion t c) newId timestamp c = .ok (true, c')) ∨
    (∀ inspection, ¬Due t c inspection) ∧
      activateWaitingResume (currentResumeInsertion t c) newId timestamp c = .ok (false, c) := by
  unfold activateWaitingResume
  cases hinsertion : currentResumeInsertion t c with
  | none =>
    refine .inr ⟨fun inspection hdue => ?_, rfl⟩
    cases hinsertion.symm.trans hdue.insertion
  | some inspection =>
    dsimp only
    split
    · next hwaits =>
      obtain ⟨hwaiting, hresume, hwork, hlatest⟩ := hwaits
      have hwaits : WaitsForDisc c := ⟨hwaiting, hresume, hwork⟩
      obtain ⟨hsame, hverifiable⟩ := h.regular hwaits inspection hinsertion
      have hunbound : ¬BoundInAttempt c c.recovery.attemptId inspection.id :=
        fun hbound => hlatest (hsame.2 hbound)
      have hfree := hverifiable hunbound
      obtain ⟨row, hrow, hshows, hinspection⟩ := currentResumeInsertion_shown hinsertion
      have hdisc := h.discs row hrow hshows.2.2.2
      rw [hinspection] at hdisc
      obtain ⟨c', hactivated⟩ :=
        activateResumeInsertion_succeeds h.stored hwaits hfree hdisc h.source h.fresh
      refine .inl ⟨inspection, c', ⟨hwaits, hinsertion, hunbound⟩,
        activateResumeInsertion_binds hactivated, ?_⟩
      refine bind_ok.2 ⟨(), ?_, bind_ok.2 ⟨(), ?_, bind_ok.2 ⟨c', hactivated, rfl⟩⟩⟩
      · rw [requireNoActiveEncodeWork, hfree.encode]
        rfl
      · rw [requireNoPendingDvdRecoveryReconciliation]
        split
        · next latest hlatest =>
          rw [rejectIf_ok]
          exact not_not.2 (hfree.reconciled latest hlatest)
        · rfl
    · next hnot =>
      refine .inr ⟨fun other hdue => hnot ?_, rfl⟩
      cases hinsertion.symm.trans hdue.insertion
      obtain ⟨hwaiting, hresume, hwork⟩ := hdue.waits
      refine ⟨hwaiting, hresume, hwork, fun hlatest => hdue.unbound ?_⟩
      exact (h.regular hdue.waits inspection hinsertion).1.1 hlatest

/-- The first recovery that is due is activated, whatever the others before it are like. -/
theorem activateWaiting_due (h : ∀ c ∈ waiting, Activatable t newId timestamp c) :
    (∃ c ∈ waiting, ∃ inspection c', Due t c inspection ∧
      InsertionBound c inspection newId timestamp c' ∧
      activateWaiting (currentResumeInsertion t) newId timestamp waiting = .ok (some c')) ∨
    (∀ c ∈ waiting, ∀ inspection, ¬Due t c inspection) ∧
      activateWaiting (currentResumeInsertion t) newId timestamp waiting = .ok none := by
  induction waiting with
  | nil => exact .inr ⟨List.forall_mem_nil _, rfl⟩
  | cons c rest ih =>
    obtain ⟨inspection, c', hdue, hbound, hactivated⟩ | ⟨hnone, hleft⟩ :=
      (h c List.mem_cons_self).activates
    · refine .inl ⟨c, List.mem_cons_self, inspection, c', hdue, hbound, ?_⟩
      rw [activateWaiting, hactivated]
    · rw [activateWaiting, hleft]
      obtain ⟨d, hd, hrest⟩ | ⟨hnone', hrest⟩ := ih fun d hd => h d (List.mem_cons_of_mem c hd)
      · exact .inl ⟨d, List.mem_cons_of_mem c hd, hrest⟩
      · refine .inr ⟨fun d hd => ?_, hrest⟩
        obtain rfl | hd := List.mem_cons.1 hd
        · exact hnone
        · exact hnone' d hd

theorem mem_waitingForDisc {r : Recoveries} :
    c ∈ waitingForDisc r ↔ c ∈ r.rows ∧ c.recovery.status = .waitingForDisc := by
  rw [waitingForDisc, mem_sortBy, List.mem_filter, decide_eq_true_eq]

/-- A call activates a recovery that is due, if there is any, and changes nothing else. -/
inductive CallActivates (t : DriveTables) (newId : String) (timestamp : Nat) (r : Recoveries) : Prop
  | activated (hmem : c ∈ r.rows) (hdue : Due t c inspection)
      (hbound : InsertionBound c inspection newId timestamp c')
      (hcall : r.activateWaitingResume t newId timestamp = .ok (some c', r.put c'))
  | idle (hnone : ∀ c ∈ r.rows, ∀ inspection, ¬Due t c inspection)
      (hcall : r.activateWaitingResume t newId timestamp = .ok (none, r))

theorem callActivates_of_activatable {r : Recoveries}
    (h : ∀ c ∈ r.rows, Activatable t newId timestamp c) : CallActivates t newId timestamp r := by
  have hwaiting := activateWaiting_due fun c hc => h c (mem_waitingForDisc.1 hc).1
  obtain ⟨c, hc, inspection, c', hdue, hbound, hcall⟩ | ⟨hnone, hcall⟩ := hwaiting
  · refine .activated (mem_waitingForDisc.1 hc).1 hdue hbound ?_
    rw [Recoveries.activateWaitingResume, hcall]
    rfl
  · refine .idle (fun c hc inspection hdue => ?_) ?_
    · exact hnone c (mem_waitingForDisc.2 ⟨hc, hdue.waits.1⟩) inspection hdue
    · rw [Recoveries.activateWaitingResume, hcall]
      rfl

theorem InsertionBound.stored (h : InsertionBound c inspection newId timestamp c')
    (hwaiting : c.recovery.status = .waitingForDisc) (hstored : Stored c) : Stored c' := by
  obtain ⟨work, hwork, hwork'⟩ := h.row
  have hvalid := hstored.recovery.activated hwaiting timestamp
  rw [← h.recovery] at hvalid
  refine ⟨?_, ?_, ?_, hvalid⟩
  · rw [RowOfAttempt, h.recovery]
    intro row hrow
    cases hwork'.symm.trans hrow
    exact hstored.attempt work hwork
  · intro row hrow
    cases hwork'.symm.trans hrow
    exact hstored.pass work hwork
  · intro row hrow
    cases hwork'.symm.trans hrow
    exact hstored.unclaimed work hwork

theorem InsertionBound.sampled (h : InsertionBound c inspection newId timestamp c')
    (hc : SourceBound c) : SourceBound c' := by
  rw [h.others]
  exact hc

/-- An activated recovery does not wait any more, and can be passed over by the next call. -/
theorem InsertionBound.activatable (h : InsertionBound c inspection newId timestamp c')
    (hwaiting : c.recovery.status = .waitingForDisc) (hc : Activatable t nextId later c)
    (hne : newId ≠ nextId) : Activatable t nextId later c' := by
  constructor
  · intro hwaits
    have heligible := congrArg ArchiveRecovery.status h.recovery
    cases heligible.symm.trans hwaits.1
  · exact h.stored hwaiting hc.stored
  · rw [h.others]
    exact hc.discs
  · exact h.sampled hc.source
  · obtain ⟨verification, hverifications, hid, -⟩ := h.queued
    rw [hverifications]
    intro other hother
    obtain hother | hother := List.mem_append.1 hother
    · exact hc.fresh other hother
    · cases List.mem_singleton.1 hother
      rw [hid]
      exact hne

/-- The recoveries that wait for their discs. -/
def waitingCount (r : Recoveries) : Nat := r.rows.countP (·.recovery.status = .waitingForDisc)

theorem countP_lt {l : List α} {p q : α → Bool} (h : ∀ a ∈ l, p a → q a) (ha : a ∈ l)
    (hq : q a) (hp : ¬p a) : l.countP p < l.countP q := by
  obtain ⟨before, after, rfl⟩ := List.append_of_mem ha
  rw [List.countP_append, List.countP_append, List.countP_cons_of_neg hp,
    List.countP_cons_of_pos hq]
  have hbefore : before.countP p ≤ before.countP q := List.countP_mono_left fun b hb =>
    h b (List.mem_append_left _ hb)
  have hafter : after.countP p ≤ after.countP q := List.countP_mono_left fun b hb =>
    h b (List.mem_append_right _ (List.mem_cons_of_mem _ hb))
  omega

theorem waitingCount_put {r : Recoveries} (hc : c ∈ r.rows)
    (hwaiting : c.recovery.status = .waitingForDisc) (hid : c'.recovery.id = c.recovery.id)
    (hactive : c'.recovery.status ≠ .waitingForDisc) :
    waitingCount (r.put c') < waitingCount r := by
  rw [waitingCount, Recoveries.put, List.countP_map]
  apply countP_lt (a := c)
  · intro row _ hrow
    rw [Function.comp_apply, decide_eq_true_eq] at hrow
    split at hrow
    · exact absurd hrow hactive
    · exact decide_eq_true hrow
  · exact hc
  · exact decide_eq_true hwaiting
  · rw [Function.comp_apply, if_pos hid.symm, decide_eq_true_eq]
    exact hactive

/-- Call `activateWaitingResume` until it finds nothing, or so often. -/
def Recoveries.activateRepeatedly (t : DriveTables) :
    List (String × Nat) → Recoveries → Except DomainError Recoveries
  | [], r => .ok r
  | (newVerificationId, timestamp) :: calls, r => do
    let (found, r') ← r.activateWaitingResume t newVerificationId timestamp
    match found with
    | none => return r'
    | some _ => activateRepeatedly t calls r'

/-- With a call for every recovery that waits, none is due in the end. -/
theorem activateRepeatedly_drains (hids : (calls.map Prod.fst).Nodup)
    (h : ∀ call ∈ calls, ∀ c ∈ r.rows, Activatable t call.1 call.2 c)
    (hcount : waitingCount r ≤ calls.length) :
    ∃ r', r.activateRepeatedly t calls = .ok r' ∧
      ∀ c ∈ r'.rows, ∀ inspection, ¬Due t c inspection := by
  induction calls generalizing r with
  | nil =>
    refine ⟨r, rfl, fun c hc inspection hdue => ?_⟩
    have hzero : waitingCount r = 0 := Nat.le_zero.1 hcount
    rw [waitingCount, List.countP_eq_zero] at hzero
    exact hzero c hc (decide_eq_true hdue.waits.1)
  | cons call calls ih =>
    obtain ⟨hnew, hids⟩ := List.nodup_cons.1 hids
    cases callActivates_of_activatable (h call List.mem_cons_self) with
    | @activated c inspection c' hmem hdue hbound hcall =>
      have hid := congrArg ArchiveRecovery.id hbound.recovery
      have hactive : c'.recovery.status ≠ .waitingForDisc := by
        rw [hbound.recovery]
        nofun
      have hless := waitingCount_put hmem hdue.waits.1 hid hactive
      rw [List.length_cons] at hcount
      have hput : ∀ next ∈ calls, ∀ d ∈ (r.put c').rows, Activatable t next.1 next.2 d := by
        intro next hnext d hd
        have hne : call.1 ≠ next.1 := fun he => hnew (he ▸ List.mem_map_of_mem hnext)
        have hlater := h next (List.mem_cons_of_mem _ hnext)
        obtain ⟨rfl, -⟩ | ⟨hd, -⟩ := Recoveries.mem_put.1 hd
        · exact hbound.activatable hdue.waits.1 (hlater c hmem) hne
        · exact hlater d hd
      obtain ⟨r', hrest, hnone⟩ := ih hids hput (by omega)
      exact ⟨r', bind_ok.2 ⟨_, hcall, hrest⟩, hnone⟩
    | idle hnone hcall => exact ⟨r, bind_ok.2 ⟨_, hcall, rfl⟩, hnone⟩

end RipDvd
