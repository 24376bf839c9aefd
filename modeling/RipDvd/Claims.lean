import RipDvd.Confirmation

namespace RipDvd
set_option autoImplicit true

/-- The verification of a claim candidate matches, or this worker's live confirmation covers it. -/
def candidateAuthorized (c : Catalog) (claimedBy : String) (verification : DvdDiscVerification)
    (confirmation : Option DvdDiscConfirmation) : Prop :=
  verification.outcome = some .match ∨
    (verification.outcome ∈ [some .mismatch, some .inconclusive] ∧
      ∃ live ∈ confirmation, live.expiredAt = none ∧
        live.archiveRecoveryId = c.recovery.id ∧
        live.archiveRecoveryAttemptId = c.recovery.attemptId ∧
        live.originalDiscArchiveId = c.recovery.originalDiscArchiveId ∧
        live.discInspectionId = verification.discInspectionId ∧
        live.detectedDiscId = verification.detectedDiscId ∧
        live.mediaGeneration = verification.mediaGeneration ∧
        live.verificationWorkerExecutionId = claimedBy ∧
        some live.verificationOutcome = verification.outcome ∧
        live.checkpointRevision = verification.checkpointRevision ∧
        live.checkpointDigest = verification.checkpointDigest)

instance (c : Catalog) (claimedBy : String) (verification : DvdDiscVerification)
    (confirmation : Option DvdDiscConfirmation) :
    Decidable (candidateAuthorized c claimedBy verification confirmation) :=
  inferInstanceAs (Decidable (_ ∨ _))

/-- A requested pass that the verification was bound to before the checkpoint moved on. -/
def requestedUnder (c : Catalog) (verification : DvdDiscVerification)
    (confirmation : Option DvdDiscConfirmation) : Prop :=
  ∃ work ∈ c.work, work.archiveRecoveryId = c.recovery.id ∧
    work.attemptId = c.recovery.attemptId ∧ work.status = .requested ∧
    work.verificationId = some verification.id ∧
    ((verification.outcome = some .match ∧ work.discConfirmationId = none) ∨
      ∃ bound ∈ confirmation, work.discConfirmationId = some bound.id)

instance (c : Catalog) (verification : DvdDiscVerification)
    (confirmation : Option DvdDiscConfirmation) :
    Decidable (requestedUnder c verification confirmation) :=
  inferInstanceAs (Decidable (∃ work ∈ c.work, _))

/-- The verification was made at the current checkpoint, or at an ancestor its pass started from. -/
def candidateCheckpoint (c : Catalog) (verification : DvdDiscVerification)
    (confirmation : Option DvdDiscConfirmation) : Prop :=
  (c.header.currentManifestRevision = verification.checkpointRevision ∧
    c.header.currentManifestDigest = verification.checkpointDigest) ∨
  (verification.checkpointRevision < c.header.currentManifestRevision ∧
    requestedUnder c verification confirmation)

instance (c : Catalog) (verification : DvdDiscVerification)
    (confirmation : Option DvdDiscConfirmation) :
    Decidable (candidateCheckpoint c verification confirmation) :=
  inferInstanceAs (Decidable (_ ∨ _))

/-- The `where` clause of the candidate query, for one joined row. -/
def isClaimCandidate (c : Catalog) (claimedBy : String) (verification : DvdDiscVerification)
    (confirmation : Option DvdDiscConfirmation) : Prop :=
  verification.archiveRecoveryId = c.recovery.id ∧
  c.recovery.status = .eligible ∧ c.damagePreviewHolds = false ∧
  verification.archiveRecoveryAttemptId = some c.recovery.attemptId ∧
  verification.status = .completed ∧ verification.workerExecutionId ≠ none ∧
  candidateAuthorized c claimedBy verification confirmation ∧
  candidateCheckpoint c verification confirmation ∧
  (∀ later ∈ c.verifications, later.archiveRecoveryId = c.recovery.id →
    later.attemptOrdinal ≤ verification.attemptOrdinal) ∧
  (∀ work ∈ c.work, work.status ≠ .claimed) ∧
  c.activeEncodeWork = false ∧
  ∀ latest ∈ c.latestReconciliation, latest.status = "completed"

instance (c : Catalog) (claimedBy : String) (verification : DvdDiscVerification)
    (confirmation : Option DvdDiscConfirmation) :
    Decidable (isClaimCandidate c claimedBy verification confirmation) :=
  inferInstanceAs (Decidable (_ ∧ _))

/-- The verifications, each joined with its confirmations or with none. -/
def candidateRows (c : Catalog) : List (DvdDiscVerification × Option DvdDiscConfirmation) :=
  c.verifications.flatMap fun verification =>
    match c.confirmations.filter (·.verificationId = verification.id) with
    | [] => [(verification, none)]
    | confirmations => confirmations.map fun confirmation => (verification, some confirmation)

/-- `archiveRecoveryWork.claimNextVerifiedCandidate`: start or continue the pass of a recovery
whose disc has been verified or confirmed. -/
def claimNextVerifiedCandidate (workerId claimToken : String) (timestamp : Nat) (c : Catalog) :
    Except DomainError (Option ClaimedArchiveRecoveryWork × Catalog) := do
  let claimedBy ← requireNonEmpty workerId "workerId"
  let swept ← expireInvalidDvdDiscConfirmations c claimedBy none timestamp
  match (candidateRows swept).find? fun row => isClaimCandidate swept claimedBy row.1 row.2 with
  | none => return (none, swept)
  | some (verification, confirmation) => do
    requireNoActiveEncodeWork swept
    requireNoPendingDvdRecoveryReconciliation swept
    let claimed ← claimWork swept (some verification.id) (confirmation.map (·.id)) claimedBy
      claimToken timestamp
    let running ← updateArchiveRecovery claimed { swept.recovery with
      status := .running
      updatedAt := timestamp }
    return (running.work.bind (·.claim), running)

/-- A work row that nobody has claimed yet. -/
def ArchiveRecovery.requestedWork (recovery : ArchiveRecovery) (pass : ArchiveRecoveryPass)
    (timestamp : Nat) : ArchiveRecoveryWork := {
  pass with
  archiveRecoveryId := recovery.id
  originalDiscArchiveId := recovery.originalDiscArchiveId
  attemptId := recovery.attemptId
  status := .requested
  verificationId := none
  discConfirmationId := none
  requestedAt := some timestamp
  claimedBy := none
  claimToken := none
  claimedAt := none
  updatedAt := timestamp }

/-- `archiveRecoveryWork.request`. -/
def requestWork (timestamp : Nat) (c : Catalog) : Except DomainError Catalog := do
  rejectIf (c.recovery.status ≠ .eligible)
    (.invalidStatusTransition "Archive Recovery" c.recovery.status.value "requested")
  match c.work with
  | some work => do
    rejectIf (work.status = .claimed)
      (.invalidStatusTransition "Archive Recovery work" "claimed" "requested")
    return c
  | none => do
    requireNoActiveEncodeWork c
    writeWork c (c.recovery.requestedWork .initial timestamp)

/-- The row a conditional update of a claimed pass finds. -/
def heldWork (c : Catalog) (claim : ClaimedArchiveRecoveryWork) : Option ArchiveRecoveryWork :=
  c.work.filter fun work => work.archiveRecoveryId = claim.archiveRecoveryId ∧
    work.attemptId = claim.attemptId ∧ work.status = .claimed ∧
    work.claimToken = some claim.claimToken

def runningAttempt (c : Catalog) (claim : ClaimedArchiveRecoveryWork) : Prop :=
  c.recovery.id = claim.archiveRecoveryId ∧ c.recovery.attemptId = claim.attemptId ∧
    c.recovery.status = .running

instance (c : Catalog) (claim : ClaimedArchiveRecoveryWork) : Decidable (runningAttempt c claim) :=
  inferInstanceAs (Decidable (_ ∧ _))

/-- `archiveRecoveryWork.beginInterruptedTakeover`: take a running pass over once its lease has
run out. -/
def beginInterruptedTakeover (claim : ClaimedArchiveRecoveryWork) (workerId claimToken : String)
    (timestamp : Nat) (c : Catalog) :
    Except DomainError (Option ClaimedArchiveRecoveryWork × Catalog) := do
  let claimedBy ← requireNonEmpty workerId "workerId"
  match heldWork c claim with
  | none => return (none, c)
  | some work =>
    if runningAttempt c claim ∧
        ∃ claimedAt ∈ work.claimedAt,
          claimedAt < timestamp - DVD_RECOVERY_PASS_CLAIM_LEASE_MS then do
      let taken := { work with
        claimedBy := some claimedBy
        claimToken := some claimToken
        claimedAt := some timestamp
        updatedAt := timestamp }
      let next ← writeWork c taken
      return (taken.claim, next)
    else return (none, c)

/-- `archiveRecoveryWork.deferInterruptedTakeover`: let the lease of a takeover run out. -/
def deferInterruptedTakeover (claim : ClaimedArchiveRecoveryWork) (timestamp : Nat) (c : Catalog) :
    Bool × Catalog :=
  match heldWork c claim with
  | none => (false, c)
  | some work =>
    let deferred := { work with
      claimedAt := some 0
      updatedAt := timestamp }
    (true, { c with work := some deferred })

/-- `archiveRecoveryWork.renewClaim`. -/
def renewClaim (claim : ClaimedArchiveRecoveryWork) (timestamp : Nat) (c : Catalog) :
    Bool × Catalog :=
  match heldWork c claim with
  | none => (false, c)
  | some work =>
    if runningAttempt c claim then
      let renewed := { work with
        claimedAt := some timestamp
        updatedAt := timestamp }
      (true, { c with work := some renewed })
    else (false, c)

/-- The disc that a pass was bound to is in its drive, verified or confirmed. -/
def sourceReadAdmissible (c : Catalog) (work : ArchiveRecoveryWork) : Prop :=
  ∃ verification ∈ work.verificationId.bind c.findVerification,
    (match work.discConfirmationId.bind c.findConfirmation with
      | none => verification.outcome = some .match
      | some confirmation => verification.outcome ≠ some .match ∧
        (dvdConfirmedRecoveryWriteAuthority verification confirmation).isSome) ∧
    dvdDiscVerificationInsertionIsCurrent verification
      (c.findInspection verification.discInspectionId)

instance (c : Catalog) (work : ArchiveRecoveryWork) : Decidable (sourceReadAdmissible c work) := by
  unfold sourceReadAdmissible
  cases work.verificationId.bind c.findVerification with
  | none => exact isFalse fun ⟨_, hm, _⟩ => nomatch hm
  | some verification =>
    cases work.discConfirmationId.bind c.findConfirmation <;> infer_instance

/-- Expire the confirmation a pass is bound to, if it no longer stands. -/
def expireBoundConfirmation (c : Catalog) (work : ArchiveRecoveryWork) (workerExecutionId : String)
    (timestamp : Nat) : Except DomainError Catalog :=
  match work.discConfirmationId with
  | none => .ok c
  | some confirmationId =>
    expireInvalidDvdDiscConfirmations c workerExecutionId (some confirmationId) timestamp

/-- `archiveRecoveryWork.admitSourceRead`; `driveReady` is whether the drive is present, enabled
and at the expected path. -/
def admitSourceRead (claim : ClaimedArchiveRecoveryWork) (driveReady : Bool) (timestamp : Nat)
    (c : Catalog) : Except DomainError (Bool × Catalog) := do
  let work ← requireCurrentArchiveRecoveryClaim c claim
  let swept ← expireBoundConfirmation c work claim.claimedBy timestamp
  rejectIf (c.recovery.status ≠ .running)
    (.invalidStatusTransition "Archive Recovery" c.recovery.status.value "source_read")
  rejectIf c.damagePreviewHolds .previewPause
  requireNoPendingDvdRecoveryReconciliation swept
  if sourceReadAdmissible swept work ∧ driveReady then
    return (true, { swept with work := some { work with updatedAt := timestamp } })
  else return (false, swept)

theorem heldWork_some : heldWork c claim = some work ↔ c.work = some work ∧
    work.archiveRecoveryId = claim.archiveRecoveryId ∧ work.attemptId = claim.attemptId ∧
      work.status = .claimed ∧ work.claimToken = some claim.claimToken := by
  rw [heldWork, Option.filter_eq_some_iff, decide_eq_true_eq]

/-- The row of a pass that starts or goes on. -/
theorem claimWork_ok
    (h : claimWork c verificationId discConfirmationId claimedBy claimToken timestamp = .ok c') :
    ∃ pass, archiveRecoveryPassStart c timestamp = .ok pass ∧ pass.Valid ∧ c' = { c with
      work := some { pass with
        archiveRecoveryId := c.recovery.id
        originalDiscArchiveId := c.recovery.originalDiscArchiveId
        attemptId := c.recovery.attemptId
        status := .claimed
        verificationId
        discConfirmationId
        requestedAt := c.work.bind (·.requestedAt)
        claimedBy := some claimedBy
        claimToken := some claimToken
        claimedAt := some timestamp
        updatedAt := timestamp } } := by
  obtain ⟨pass, hp, hw⟩ := bind_ok.1 h
  obtain ⟨-, hvalid, -, rfl⟩ := writeWork_ok.1 hw
  exact ⟨pass, hp, hvalid, rfl⟩

/-- A claim of a candidate. -/
structure ClaimedCandidate (c : Catalog) (workerId claimToken : String) (timestamp : Nat)
    (verification : DvdDiscVerification) (confirmation : Option DvdDiscConfirmation)
    (pass : ArchiveRecoveryPass) (c' : Catalog) : Prop where
  candidate : ∃ confirmations, isClaimCandidate { c with confirmations } workerId verification
    confirmation
  row : verification ∈ c.verifications
  start : archiveRecoveryPassStart c timestamp = .ok pass
  valid : pass.Valid ∧ ArchiveRecovery.Valid { c.recovery with
    status := .running
    updatedAt := timestamp }
  claimed : ∃ confirmations, c' = { c with
    confirmations
    work := some { pass with
      archiveRecoveryId := c.recovery.id
      originalDiscArchiveId := c.recovery.originalDiscArchiveId
      attemptId := c.recovery.attemptId
      status := .claimed
      verificationId := some verification.id
      discConfirmationId := confirmation.map (·.id)
      requestedAt := c.work.bind (·.requestedAt)
      claimedBy := some workerId
      claimToken := some claimToken
      claimedAt := some timestamp
      updatedAt := timestamp }
    recovery := { c.recovery with
      status := .running
      updatedAt := timestamp } }

theorem mem_candidateRows (h : (verification, confirmation) ∈ candidateRows c) :
    verification ∈ c.verifications ∧ ∀ live ∈ confirmation, live ∈ c.confirmations ∧
      live.verificationId = verification.id := by
  obtain ⟨other, ho, hm⟩ := List.mem_flatMap.1 h
  split at hm
  · cases List.mem_singleton.1 hm
    exact ⟨ho, fun live hl => nomatch hl⟩
  · obtain ⟨live, hl, he⟩ := List.mem_map.1 hm
    cases he
    refine ⟨ho, fun found hf => ?_⟩
    cases hf
    obtain ⟨hmem, hv⟩ := List.mem_filter.1 hl
    exact ⟨hmem, by simpa using hv⟩

theorem claimNextVerifiedCandidate_ok
    (h : claimNextVerifiedCandidate workerId claimToken timestamp c = .ok (claim, c')) :
    (claim = none ∧ ∃ confirmations, c' = { c with confirmations }) ∨
      ∃ verification confirmation pass,
        ClaimedCandidate c workerId claimToken timestamp verification confirmation pass c' ∧
        claim = c'.work.bind (·.claim) := by
  simp only [claimNextVerifiedCandidate, bind_ok] at h
  obtain ⟨_, hworker, swept, hsweep, h⟩ := h
  obtain ⟨-, rfl⟩ := requireNonEmpty_ok.1 hworker
  obtain ⟨confirmations, rfl⟩ := expireInvalidDvdDiscConfirmations_ok hsweep
  split at h
  · cases h
    exact .inl ⟨rfl, confirmations, rfl⟩
  · next verification confirmation hfind =>
    simp only [bind_ok] at h
    obtain ⟨-, -, -, -, claimed, hclaim, running, hrun, he⟩ := h
    obtain ⟨pass, hpass, hvalid, rfl⟩ := claimWork_ok hclaim
    obtain ⟨-, -, -, -, hrecovery, rfl⟩ := updateArchiveRecovery_ok.1 hrun
    cases he
    refine .inr ⟨verification, confirmation, pass, {
      candidate := ⟨confirmations, by simpa using List.find?_some hfind⟩
      row := (mem_candidateRows (List.mem_of_find?_eq_some hfind)).1
      start := hpass
      valid := ⟨hvalid, hrecovery⟩
      claimed := ⟨confirmations, rfl⟩ }, rfl⟩

theorem beginInterruptedTakeover_ok
    (h : beginInterruptedTakeover claim workerId claimToken timestamp c = .ok (taken, c')) :
    (taken = none ∧ c' = c) ∨ ∃ work, heldWork c claim = some work ∧ runningAttempt c claim ∧
      c' = { c with work := some { work with
        claimedBy := some workerId
        claimToken := some claimToken
        claimedAt := some timestamp
        updatedAt := timestamp } } := by
  simp only [beginInterruptedTakeover, bind_ok] at h
  obtain ⟨_, hworker, h⟩ := h
  obtain ⟨-, rfl⟩ := requireNonEmpty_ok.1 hworker
  split at h
  · cases h
    exact .inl ⟨rfl, rfl⟩
  · next work hwork =>
    split at h
    · next hrun =>
      obtain ⟨next, hw, he⟩ := bind_ok.1 h
      obtain ⟨-, -, -, rfl⟩ := writeWork_ok.1 hw
      cases he
      exact .inr ⟨work, hwork, hrun.1, rfl⟩
    · cases h
      exact .inl ⟨rfl, rfl⟩

theorem deferInterruptedTakeover_eq (h : deferInterruptedTakeover claim timestamp c = (held, c')) :
    (held = false ∧ c' = c) ∨ ∃ work, heldWork c claim = some work ∧
      c' = { c with work := some { work with
        claimedAt := some 0
        updatedAt := timestamp } } := by
  rw [deferInterruptedTakeover] at h
  split at h
  · cases h
    exact .inl ⟨rfl, rfl⟩
  · next work hwork =>
    cases h
    exact .inr ⟨work, hwork, rfl⟩

theorem renewClaim_eq (h : renewClaim claim timestamp c = (held, c')) :
    (held = false ∧ c' = c) ∨ ∃ work, heldWork c claim = some work ∧
      c' = { c with work := some { work with
        claimedAt := some timestamp
        updatedAt := timestamp } } := by
  rw [renewClaim] at h
  split at h
  · cases h
    exact .inl ⟨rfl, rfl⟩
  · next work hwork =>
    split at h
    · cases h
      exact .inr ⟨work, hwork, rfl⟩
    · cases h
      exact .inl ⟨rfl, rfl⟩

theorem expireBoundConfirmation_ok
    (h : expireBoundConfirmation c work workerExecutionId timestamp = .ok c') :
    ∃ confirmations, c' = { c with confirmations } := by
  rw [expireBoundConfirmation] at h
  split at h
  · cases h
    exact ⟨_, rfl⟩
  · exact expireInvalidDvdDiscConfirmations_ok h

/-- An admission may expire the confirmation, and touches the claimed row. -/
theorem admitSourceRead_ok (h : admitSourceRead claim driveReady timestamp c = .ok (admitted, c')) :
    ∃ work confirmations, requireCurrentArchiveRecoveryClaim c claim = .ok work ∧
      c.recovery.status = .running ∧
      (c' = { c with confirmations } ∨ c' = { c with
        confirmations
        work := some { work with updatedAt := timestamp } }) := by
  simp only [admitSourceRead, bind_ok, rejectIf_ok, ne_eq, not_not] at h
  obtain ⟨work, hwork, swept, hsweep, -, hrunning, -, -, -, -, h⟩ := h
  obtain ⟨confirmations, rfl⟩ := expireBoundConfirmation_ok hsweep
  refine ⟨work, confirmations, hwork, hrunning, ?_⟩
  split at h
  · cases h
    exact .inr rfl
  · cases h
    exact .inl rfl

end RipDvd
