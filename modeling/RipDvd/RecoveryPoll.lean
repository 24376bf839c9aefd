import RipDvd.RecoveryQueues
import RipDvd.Alignment

namespace RipDvd
set_option autoImplicit true

/-- The work row of a recovery passes the checks of its table. -/
def WorkValid (c : Catalog) : Prop :=
  ∀ work ∈ c.work, work.ClaimValid ∧ work.toArchiveRecoveryPass.Valid ∧
    work.archiveRecoveryId = c.recovery.id ∧
    work.originalDiscArchiveId = c.recovery.originalDiscArchiveId ∧
    work.attemptId = c.recovery.attemptId

instance (c : Catalog) : Decidable (WorkValid c) :=
  inferInstanceAs (Decidable (∀ work ∈ c.work, _))

/-- How the reconciliation of a checkpoint ends. -/
inductive Reconciled where
  | converged
  | notQuiescent
  | faulted (code : String) (storageFault : Bool)
  deriving DecidableEq

/-- Rows that tell the same of a recovery and of the claim of its pass. -/
structure Undisturbed (c c' : Catalog) : Prop where
  recovery : ∃ updatedAt, c'.recovery = { c.recovery with updatedAt }
  work : c'.work = c.work ∨ ∃ work ∈ c.work, ∃ pass updatedAt, ArchiveRecoveryPass.Valid pass ∧
    c'.work = some { work with toArchiveRecoveryPass := pass, updatedAt }

/-- A recovery worker during one poll: its clock, and what its surroundings answer. -/
structure Worker where
  workerExecutionId : String
  clock : Nat → Nat
  monotone : Monotone clock
  claimToken : String
  newVerificationId : String
  storage : Option DvdRecoveryStoragePreflight
  insertion : Catalog → Option DiscInspection
  evaluate : DvdDiscVerification → EvaluatedVerification
  /-- every device that was admitted to read for the recovery is inactive -/
  deviceInactive : Catalog → Bool
  /-- `reconcileDvdRecoveryCheckpoint`, without releasing the recovery's work -/
  reconcile : Catalog → Reconciled × Catalog
  undisturbed : ∀ c, Undisturbed c (reconcile c).2
  /-- the rest of a poll that has claimed a pass -/
  runPass : ClaimedArchiveRecoveryWork → Recoveries → Bool × Recoveries

inductive PollFault where
  | domain (error : DomainError)
  | pass (code : String)
  | stop (message : String)
  deriving DecidableEq

inductive StopFailure where
  | unidentified
  | deferred
  | fault (code : String)

def reconcileAndComplete (w : Worker) (stopOperationId : String) (c : Catalog) :
    Except StopFailure Unit × Catalog :=
  match w.reconcile c with
  | (.notQuiescent, c') => (.error .deferred, c')
  | (.faulted code _, c') => (.error (.fault code), c')
  | (.converged, c') =>
    match completeStop c'.recovery.id c'.recovery.attemptId stopOperationId (w.clock 1) c' with
    | .error _ => (.error (.fault "CONSISTENCY_FAULT"), c')
    | .ok completed => (.ok (), completed)

def finalizeStop (w : Worker) (c : Catalog) : Except StopFailure Unit × Catalog :=
  match c.recovery.stopOperationId with
  | none => (.error .unidentified, c)
  | some stopOperationId =>
    match prepareStop c.recovery.id c.recovery.attemptId stopOperationId none w.evaluate
        (w.clock 0) c with
    | .error _ => (.error (.fault "CONSISTENCY_FAULT"), c)
    | .ok (false, prepared) => (.error .deferred, prepared)
    | .ok (true, prepared) =>
      if w.deviceInactive prepared then reconcileAndComplete w stopOperationId prepared
      else (.error .deferred, prepared)

inductive StopOutcome where
  | completed
  | deferred
  | faulted
  deriving DecidableEq

def finalizeStopSafely (w : Worker) (c : Catalog) (r : Recoveries) :
    Except PollFault StopOutcome × Recoveries :=
  match c.recovery.stopOperationId, finalizeStop w c with
  | some _, (.ok _, c') => (.ok .completed, r.put c')
  | some stopOperationId, (.error .deferred, c') =>
    match (r.put c').deferStop c.recovery.id c.recovery.attemptId stopOperationId (w.clock 2) with
    | .error error => (.error (.domain error), r.put c')
    | .ok r' => (.ok .deferred, r')
  | some stopOperationId, (.error (.fault code), c') =>
    match markStopFault c.recovery.id c.recovery.attemptId stopOperationId code (w.clock 2) c' with
    | .error error => (.error (.domain error), r.put c')
    | .ok faulted => (.ok .faulted, r.put faulted)
  | _, (_, c') => (.error (.stop "Archive Recovery Stop has no operation identity"), r.put c')

inductive TakeoverOutcome where
  | reclaimed
  | deferred
  | faulted
  deriving DecidableEq

inductive ReclaimFailure where
  | notQuiescent
  | fault (code : String) (storageFault : Bool)

def reconcileAndRequeue (w : Worker) (claim : ClaimedArchiveRecoveryWork) (c : Catalog) :
    Except ReclaimFailure Unit × Catalog :=
  match requireCurrentArchiveRecoveryClaim c claim with
  | .error _ => (.error (.fault "CONSISTENCY_FAULT" false), c)
  | .ok _ =>
    match w.reconcile c with
    | (.notQuiescent, c') => (.error .notQuiescent, c')
    | (.faulted code storageFault, c') => (.error (.fault code storageFault), c')
    | (.converged, c') =>
      match requeue claim (w.clock 6) c' with
      | .error _ => (.error (.fault "CONSISTENCY_FAULT" false), c')
      | .ok (_, requeued) => (.ok (), requeued)

def reclaimTakenOver (w : Worker) (claim : ClaimedArchiveRecoveryWork) (c : Catalog) :
    Except PollFault TakeoverOutcome × Catalog :=
  if w.deviceInactive c then
    match reconcileAndRequeue w claim c with
    | (.ok _, c') => (.ok .reclaimed, c')
    | (.error .notQuiescent, c') =>
      (.ok .deferred, (deferInterruptedTakeover claim (w.clock 6) c').2)
    | (.error (.fault code storageFault), c') =>
      match markFault claim code true storageFault (w.clock 6) c' with
      | .error error => (.error (.domain error), c')
      | .ok (_, faulted) => (.ok .faulted, faulted)
  else (.ok .deferred, (deferInterruptedTakeover claim (w.clock 6) c).2)

def reclaimInterruptedPass (w : Worker) (c : Catalog) :
    Except PollFault TakeoverOutcome × Catalog :=
  match (c.work.filter fun work => work.status = .claimed ∧ work.claimedAt ≠ none).bind
      (·.claim) with
  | none => (.error (.pass "SOURCE_CHANGED"), c)
  | some staleClaim =>
    match beginInterruptedTakeover staleClaim w.workerExecutionId w.claimToken (w.clock 5) c with
    | .error error => (.error (.domain error), c)
    | .ok (none, c') => (.ok .deferred, c')
    | .ok (some claim, c') => reclaimTakenOver w claim c'

/-- `archiveRecoveryWork.activateWaitingResume` on the table: the first recovery whose disc is
there. -/
def activateFirst (w : Worker) : List Catalog → Except DomainError (Option Catalog)
  | [] => .ok none
  | c :: rest =>
    match activateWaitingResume (w.insertion c) w.newVerificationId (w.clock 3) c with
    | .error error => .error error
    | .ok (true, activated) => .ok (some activated)
    | .ok (false, _) => activateFirst w rest

def waitingForDisc (r : Recoveries) : List Catalog :=
  sortBy compareUpdated (r.rows.filter (·.recovery.status = .waitingForDisc))

/-- The claim of a recovery whose confirmations have been swept. -/
def claimSwept (claimedBy claimToken : String) (timestamp : Nat) (swept : Catalog) :
    Except DomainError (Option ClaimedArchiveRecoveryWork × Catalog) :=
  match (candidateRows swept).find? fun row => isClaimCandidate swept claimedBy row.1 row.2 with
  | none => return (none, swept)
  | some (verification, confirmation) => do
    requireNoActiveEncodeWork swept
    requireNoPendingDvdRecoveryReconciliation swept
    let claimed ← claimWork swept (some verification.id) (confirmation.map (·.id)) claimedBy
      claimToken timestamp
    let running ← updateArchiveRecovery claimed { swept.recovery with
      status := .running
      updatedAt := timestamp }
    return (running.work.bind (·.claim), running)

/-- A verified recovery that may be claimed. -/
def HasCandidate (claimedBy : String) (c : Catalog) : Prop :=
  ∃ row ∈ candidateRows c, isClaimCandidate c claimedBy row.1 row.2

instance (claimedBy : String) (c : Catalog) : Decidable (HasCandidate claimedBy c) :=
  inferInstanceAs (Decidable (∃ row ∈ candidateRows c, _))

theorem sweep_ids {rows rows' : List Catalog}
    (h : rows.mapM (fun c => expireInvalidDvdDiscConfirmations c claimedBy none timestamp) =
      .ok rows') : rows'.map (·.recovery.id) = rows.map (·.recovery.id) := by
  have hresults := mapM_results.1 h
  clear h
  induction hresults with
  | nil => rfl
  | cons hrow _ ih =>
    obtain ⟨_, rfl⟩ := expireInvalidDvdDiscConfirmations_ok hrow
    rw [List.map_cons, List.map_cons, ih]

/-- Sweep the confirmations of every recovery. -/
def Recoveries.sweep (claimedBy : String) (timestamp : Nat) (r : Recoveries) :
    Except DomainError Recoveries :=
  match h : r.rows.mapM fun c => expireInvalidDvdDiscConfirmations c claimedBy none timestamp with
  | .error error => .error error
  | .ok rows => .ok ⟨rows, by
      rw [sweep_ids h]
      exact r.distinct⟩

/-- `archiveRecoveryWork.claimNextVerifiedCandidate` on the table. -/
def Recoveries.claimNextVerifiedCandidate (workerId claimToken : String) (timestamp : Nat)
    (r : Recoveries) : Except DomainError (Option ClaimedArchiveRecoveryWork × Recoveries) := do
  let claimedBy ← requireNonEmpty workerId "workerId"
  let swept ← r.sweep claimedBy timestamp
  match earliest compareUpdated (swept.rows.filter (HasCandidate claimedBy ·)) with
  | none => return (none, swept)
  | some c => do
    let (claim, running) ← claimSwept claimedBy claimToken timestamp c
    return (claim, swept.put running)

/-- What a poll takes up, in its order. -/
inductive PollStep where
  | finalizeStop (archiveRecoveryId : String)
  | activateWaitingResume
  | reclaimInterruptedPass (archiveRecoveryId : String)
  | claimNextVerifiedCandidate
  deriving DecidableEq

/-- A poll: what it took up, the rows it leaves, and whether it has done something. -/
structure Polled where
  steps : List PollStep
  rows : Recoveries
  worked : Except PollFault Bool

def Polled.after (step : PollStep) (polled : Polled) : Polled :=
  { polled with steps := step :: polled.steps }

/-- The storage is supported and its mutation protection verified. -/
def StorageSupported (w : Worker) : Prop :=
  ∃ storage ∈ w.storage, storage.status = "supported" ∧ storage.mutationProtection ≠ none

instance (w : Worker) : Decidable (StorageSupported w) :=
  inferInstanceAs (Decidable (∃ storage ∈ w.storage, _))

def pollCandidate (w : Worker) (r : Recoveries) : Polled :=
  match r.claimNextVerifiedCandidate w.workerExecutionId w.claimToken (w.clock 5) with
  | .error error => ⟨[.claimNextVerifiedCandidate], r, .error (.domain error)⟩
  | .ok (none, r') => ⟨[.claimNextVerifiedCandidate], r', .ok false⟩
  | .ok (some claim, r') =>
    let (worked, r'') := w.runPass claim r'
    ⟨[.claimNextVerifiedCandidate], r'', .ok worked⟩

def pollInterrupted (w : Worker) (r : Recoveries) : Polled :=
  match findNextInterrupted w.workerExecutionId (w.clock 4) r with
  | .error error => ⟨[], r, .error (.domain error)⟩
  | .ok (some c) =>
    match reclaimInterruptedPass w c with
    | (.error fault, c') => ⟨[.reclaimInterruptedPass c.recovery.id], r.put c', .error fault⟩
    | (.ok outcome, c') =>
      ⟨[.reclaimInterruptedPass c.recovery.id], r.put c', .ok (outcome ≠ .deferred)⟩
  | .ok none => pollCandidate w r

/-- A poll from the point where no Stop is in its way. -/
def pollPasses (w : Worker) (r : Recoveries) : Polled :=
  if StorageSupported w then
    match activateFirst w (waitingForDisc r) with
    | .error error => ⟨[.activateWaitingResume], r, .error (.domain error)⟩
    | .ok (some activated) => ⟨[.activateWaitingResume], r.put activated, .ok true⟩
    | .ok none => (pollInterrupted w r).after .activateWaitingResume
  else ⟨[], r, .ok false⟩

def pollDvdRecoveryPass (w : Worker) (r : Recoveries) : Polled :=
  match findNextStopping r with
  | none => pollPasses w r
  | some stopping =>
    match finalizeStopSafely w stopping r with
    | (.error fault, r') => ⟨[.finalizeStop stopping.recovery.id], r', .error fault⟩
    | (.ok .deferred, r') => (pollPasses w r').after (.finalizeStop stopping.recovery.id)
    | (.ok _, r') => ⟨[.finalizeStop stopping.recovery.id], r', .ok true⟩

/-- The rows a poll comes to when no Stop is left to be finalized in it. -/
inductive PastStops (w : Worker) (r : Recoveries) : Recoveries → Prop
  | idle (h : findNextStopping r = none) : PastStops w r r
  | deferred (h : findNextStopping r = some c)
      (hdeferred : finalizeStopSafely w c r = (.ok .deferred, r')) : PastStops w r r'

/-- The poll goes on to the passes: storage is supported and no disc was waited for. -/
def ReachesPasses (w : Worker) (r : Recoveries) : Prop :=
  StorageSupported w ∧ activateFirst w (waitingForDisc r) = .ok none

/-- The poll of some rows defers the takeover of a pass and leaves other rows for it. -/
structure TakeoverDeferred (w : Worker) (r r' : Recoveries) (c c' : Catalog) : Prop where
  past : PastStops w r r'
  reaches : ReachesPasses w r'
  found : findNextInterrupted w.workerExecutionId (w.clock 4) r' = .ok (some c)
  deferred : reclaimInterruptedPass w c = (.ok .deferred, c')

/-- A verified recovery waits to be claimed. -/
def CandidateWaits (w : Worker) (r : Recoveries) : Prop :=
  ∃ swept, r.sweep w.workerExecutionId (w.clock 5) = .ok swept ∧
    ∃ c ∈ swept.rows, HasCandidate w.workerExecutionId c

/-- Another recovery than one's own whose pass has been interrupted. -/
def OtherInterrupted (r : Recoveries) (archiveRecoveryId : String) (timestamp : Nat) : Prop :=
  ∃ c ∈ r.rows, InterruptedPass timestamp c ∧ c.recovery.id ≠ archiveRecoveryId

/-- What is deferred makes room for the others, in the queues and within the poll. -/
structure DeferralRotates (w : Worker) (r : Recoveries) : Prop where
  stopping : ∀ s stopOperationId timestamp r', findNextStopping r = some s →
    r.deferStop s.recovery.id s.recovery.attemptId stopOperationId timestamp = .ok r' →
    (∃ c ∈ r'.rows, c.recovery.status = .stopping ∧ c.recovery.id ≠ s.recovery.id) →
    ∃ next, findNextStopping r' = some next ∧ next.recovery.id ≠ s.recovery.id
  interrupted : ∀ r' c c' timestamp, TakeoverDeferred w r r' c c' → w.clock 6 ≤ timestamp →
    OtherInterrupted (r'.put c') c.recovery.id timestamp →
    ∃ next, findNextInterrupted w.workerExecutionId timestamp (r'.put c') = .ok (some next) ∧
      next.recovery.id ≠ c.recovery.id
  afterStop : ∀ s r', findNextStopping r = some s →
    finalizeStopSafely w s r = (.ok .deferred, r') → ReachesPasses w r' →
    (∀ c, findNextInterrupted w.workerExecutionId (w.clock 4) r' = .ok (some c) →
      .reclaimInterruptedPass c.recovery.id ∈ (pollDvdRecoveryPass w r).steps) ∧
    (findNextInterrupted w.workerExecutionId (w.clock 4) r' = .ok none →
      .claimNextVerifiedCandidate ∈ (pollDvdRecoveryPass w r).steps)
  afterTakeover : ∀ r' c c', TakeoverDeferred w r r' c c' →
    OtherInterrupted r' c.recovery.id (w.clock 4) ∨ CandidateWaits w r' →
    (∃ d ∈ r'.rows, d.recovery.id ≠ c.recovery.id ∧
      .reclaimInterruptedPass d.recovery.id ∈ (pollDvdRecoveryPass w r).steps) ∨
    .claimNextVerifiedCandidate ∈ (pollDvdRecoveryPass w r).steps

/-- The rows of a recovery whose pass the worker has just taken over. -/
def Catalog.takenOver (w : Worker) (c : Catalog) : Catalog :=
  { c with work := c.work.map fun work => { work with
      claimedBy := some w.workerExecutionId
      claimToken := some w.claimToken
      claimedAt := some (w.clock 5)
      updatedAt := w.clock 5 } }

/-- The drive and the archive's writer are at rest when the pass is taken over. -/
def Quiescent (w : Worker) (c : Catalog) : Prop :=
  w.deviceInactive (c.takenOver w) = true ∧ (w.reconcile (c.takenOver w)).1 ≠ .notQuiescent

instance (w : Worker) (c : Catalog) : Decidable (Quiescent w c) :=
  inferInstanceAs (Decidable (_ ∧ _))

/-- A pass that is not at rest is taken over only when nothing else waits. -/
def Unblocked (w : Worker) (r : Recoveries) : Prop :=
  ∀ r' c, PastStops w r r' → ReachesPasses w r' →
    findNextInterrupted w.workerExecutionId (w.clock 4) r' = .ok (some c) → ¬Quiescent w c →
    (∀ timestamp, w.clock 6 ≤ timestamp → ¬OtherInterrupted r' c.recovery.id timestamp) ∧
      ¬CandidateWaits w r'

section Takeover

variable {w : Worker} {c c' : Catalog} {claim : ClaimedArchiveRecoveryWork}

theorem Undisturbed.workValid (h : Undisturbed c c') (hvalid : WorkValid c) : WorkValid c' := by
  obtain ⟨⟨_, hrecovery⟩, hwork⟩ := h
  intro work' hwork'
  rw [hrecovery]
  rcases hwork with hsame | ⟨work, hmem, pass, _, hpass, hnext⟩
  · exact hvalid work' (hsame ▸ hwork')
  · obtain ⟨hclaim, -, hid, harchive, hattempt⟩ := hvalid work hmem
    cases hnext.symm.trans hwork'
    exact ⟨hclaim, hpass, hid, harchive, hattempt⟩

/-- A claim that still holds its row after its surroundings have changed. -/
theorem heldWork_undisturbed (h : Undisturbed c c') (hheld : heldWork c claim = some work) :
    ∃ pass updatedAt, heldWork c' claim =
      some { work with toArchiveRecoveryPass := pass, updatedAt } := by
  obtain ⟨hwork, hclaimed⟩ := heldWork_some.1 hheld
  rcases h.work with hsame | ⟨other, hmem, pass, updatedAt, -, hnext⟩
  · exact ⟨work.toArchiveRecoveryPass, work.updatedAt,
      heldWork_some.2 ⟨hsame.trans hwork, hclaimed⟩⟩
  · cases hwork.symm.trans hmem
    exact ⟨pass, updatedAt, heldWork_some.2 ⟨hnext, hclaimed⟩⟩

/-- A pass that has been taken over, in rows that keep its claim. -/
structure TakenOver (c taken : Catalog) (claim : ClaimedArchiveRecoveryWork) : Prop where
  recovery : taken.recovery.id = c.recovery.id ∧ taken.recovery.status = .running
  held : ∃ work, heldWork taken claim = some work ∧ work.archiveRecoveryId = c.recovery.id

theorem TakenOver.undisturbed (h : TakenOver c taken claim) (hu : Undisturbed taken taken') :
    TakenOver c taken' claim := by
  obtain ⟨⟨hid, hrunning⟩, work, hheld, hof⟩ := h
  obtain ⟨_, hrecovery⟩ := hu.recovery
  obtain ⟨pass, updatedAt, hheld'⟩ := heldWork_undisturbed hu hheld
  constructor
  case recovery =>
    rw [hrecovery]
    exact ⟨hid, hrunning⟩
  case held => exact ⟨_, hheld', hof⟩

/-- A deferred takeover is a claim that is as old as can be. -/
structure Deferred (c c' : Catalog) : Prop where
  id : c'.recovery.id = c.recovery.id
  claimTime : claimTime c' = 0
  interrupted : ∀ timestamp, DVD_RECOVERY_PASS_CLAIM_LEASE_MS < timestamp →
    InterruptedPass timestamp c'

theorem TakenOver.defer (h : TakenOver c taken claim) :
    Deferred c (deferInterruptedTakeover claim timestamp taken).2 := by
  obtain ⟨⟨hid, hrunning⟩, work, hheld, hof⟩ := h
  have hclaimed := (heldWork_some.1 hheld).2.2.2.1
  have hdeferred : (deferInterruptedTakeover claim timestamp taken).2 = { taken with
      work := some { work with
        claimedAt := some 0
        updatedAt := timestamp } } := by
    rw [deferInterruptedTakeover, hheld]
  rw [hdeferred]
  constructor
  case id => exact hid
  case claimTime => rfl
  case interrupted =>
    intro later hlater
    refine ⟨hrunning, _, rfl, hof.trans hid.symm, hclaimed, 0, rfl, ?_⟩
    omega

/-- A claimed row that is valid has a claim, which holds it. -/
theorem claim_current (hvalid : WorkValid c) (hwork : c.work = some work)
    (hstatus : work.status = .claimed) : ∃ claim, work.claim = some claim ∧
      requireCurrentArchiveRecoveryClaim c claim = .ok work ∧ heldWork c claim = some work ∧
      claim.archiveRecoveryId = c.recovery.id ∧ claim.attemptId = c.recovery.attemptId := by
  obtain ⟨hclaim, -, hid, harchive, hattempt⟩ := hvalid work hwork
  obtain ⟨hrequested, -⟩ | ⟨-, hby, htoken, -⟩ := hclaim
  · rw [hstatus] at hrequested
    cases hrequested
  · obtain ⟨claimedBy, hby⟩ := Option.ne_none_iff_exists'.1 hby
    obtain ⟨claimToken, htoken⟩ := Option.ne_none_iff_exists'.1 htoken
    refine ⟨⟨work.archiveRecoveryId, work.originalDiscArchiveId, work.attemptId,
      work.verificationId, work.discConfirmationId, claimedBy, claimToken⟩, ?_, ?_, ?_, hid,
      hattempt⟩
    · rw [ArchiveRecoveryWork.claim, hby, htoken]
    · exact requireCurrentArchiveRecoveryClaim_ok.2
        ⟨hwork, hid.symm, harchive.symm, hstatus, htoken, hby, rfl, hattempt.symm⟩
    · exact heldWork_some.2 ⟨hwork, rfl, rfl, hstatus, htoken⟩

theorem WorkValid.takenOver (hvalid : WorkValid c)
    (hclaimed : ∀ work ∈ c.work, work.status = .claimed) : WorkValid (c.takenOver w) := by
  intro taken htaken
  obtain ⟨work, hwork, rfl⟩ := Option.map_eq_some_iff.1 htaken
  obtain ⟨-, hrest⟩ := hvalid work hwork
  exact ⟨.inr ⟨hclaimed work hwork, nofun, nofun, nofun⟩, hrest⟩

/-- An interrupted pass whose row is valid can be taken over. -/
theorem beginInterruptedTakeover_some (hvalid : WorkValid c)
    (hworker : w.workerExecutionId.length ≠ 0) (h : InterruptedPass (w.clock 4) c) :
    ∃ staleClaim claim,
      (c.work.filter fun work => work.status = .claimed ∧ work.claimedAt ≠ none).bind (·.claim) =
        some staleClaim ∧
      beginInterruptedTakeover staleClaim w.workerExecutionId w.claimToken (w.clock 5) c =
        .ok (some claim, c.takenOver w) ∧
      TakenOver c (c.takenOver w) claim ∧
      ∃ work, requireCurrentArchiveRecoveryClaim (c.takenOver w) claim = .ok work := by
  obtain ⟨hrunning, work, hwork, -, hstatus, claimedAt, hclaimed, hexpired⟩ := h
  rw [Option.mem_def] at hwork hclaimed
  have hrow : c.work.filter (fun work => work.status = .claimed ∧ work.claimedAt ≠ none) =
      some work := by
    rw [Option.filter_eq_some_iff, decide_eq_true_eq, hclaimed]
    exact ⟨hwork, hstatus, nofun⟩
  have hvalid' : WorkValid (c.takenOver w) := by
    apply hvalid.takenOver
    intro row hmem
    cases hwork.symm.trans hmem
    exact hstatus
  obtain ⟨staleClaim, hstale, -, hheld, hid, hattempt⟩ := claim_current hvalid hwork hstatus
  have htaken : (c.takenOver w).work = some { work with
      claimedBy := some w.workerExecutionId
      claimToken := some w.claimToken
      claimedAt := some (w.clock 5)
      updatedAt := w.clock 5 } := by
    rw [Catalog.takenOver, hwork]
    rfl
  obtain ⟨hclaimValid, hpass, hfk⟩ := hvalid' _ htaken
  obtain ⟨claim, hclaim, hcurrent, hheld', -⟩ := claim_current hvalid' htaken hstatus
  refine ⟨staleClaim, claim, ?_, ?_, ⟨⟨rfl, hrunning⟩, _, hheld', hfk.1⟩, _, hcurrent⟩
  · rw [hrow]
    exact hstale
  · have hlater : w.clock 4 ≤ w.clock 5 := w.monotone (Nat.le_succ 4)
    rw [beginInterruptedTakeover, bind_ok]
    refine ⟨_, requireNonEmpty_ok.2 ⟨hworker, rfl⟩, ?_⟩
    rw [hheld]
    dsimp only
    rw [if_pos ⟨⟨hid.symm, hattempt.symm, hrunning⟩, claimedAt, hclaimed, by omega⟩, bind_ok]
    refine ⟨c.takenOver w, writeWork_ok.2 ⟨hclaimValid, hpass, hfk, ?_⟩, ?_⟩
    · rw [Catalog.takenOver, hwork]
      rfl
    · rw [hclaim]
      rfl

theorem reclaimTakenOver_deferred {taken : Catalog} (h : TakenOver c taken claim)
    (hcurrent : requireCurrentArchiveRecoveryClaim taken claim = .ok work)
    (hbusy : ¬(w.deviceInactive taken = true ∧ (w.reconcile taken).1 ≠ .notQuiescent)) :
    ∃ c', reclaimTakenOver w claim taken = (.ok .deferred, c') ∧ Deferred c c' := by
  rw [reclaimTakenOver]
  by_cases hinactive : w.deviceInactive taken = true
  · have hreconcile : (w.reconcile taken).1 = .notQuiescent := by
      by_contra hne
      exact hbusy ⟨hinactive, hne⟩
    have hundisturbed := w.undisturbed taken
    rw [if_pos hinactive, reconcileAndRequeue, hcurrent]
    dsimp only
    cases hr : w.reconcile taken with
    | mk reconciled c₂ =>
      rw [hr] at hreconcile hundisturbed
      cases hreconcile
      exact ⟨_, rfl, (h.undisturbed hundisturbed).defer⟩
  · rw [if_neg hinactive]
    exact ⟨_, rfl, h.defer⟩

theorem reclaimTakenOver_reclaimed {taken : Catalog}
    (hquiescent : w.deviceInactive taken = true ∧ (w.reconcile taken).1 ≠ .notQuiescent) :
    (reclaimTakenOver w claim taken).1 ≠ .ok .deferred := by
  obtain ⟨hinactive, hreconcile⟩ := hquiescent
  have hrequeue : ∀ c', reconcileAndRequeue w claim taken ≠ (.error .notQuiescent, c') := by
    intro c' h
    rw [reconcileAndRequeue] at h
    split at h
    · cases h
    · split at h
      · next hr => exact hreconcile (congrArg Prod.fst hr)
      · cases h
      · split at h <;> cases h
  rw [reclaimTakenOver, if_pos hinactive]
  split
  · exact nofun
  · next hr => exact absurd hr (hrequeue _)
  · split <;> exact nofun

/-- A valid interrupted pass is deferred exactly when it is not at rest. -/
theorem reclaimInterruptedPass_deferred (hvalid : WorkValid c)
    (hworker : w.workerExecutionId.length ≠ 0) (h : InterruptedPass (w.clock 4) c) :
    (reclaimInterruptedPass w c).1 = .ok .deferred ↔ ¬Quiescent w c := by
  obtain ⟨staleClaim, claim, hstale, hbegin, htaken, work, hcurrent⟩ :=
    beginInterruptedTakeover_some hvalid hworker h
  have hreclaim : reclaimInterruptedPass w c = reclaimTakenOver w claim (c.takenOver w) := by
    rw [reclaimInterruptedPass, hstale]
    dsimp only
    rw [hbegin]
  rw [hreclaim]
  constructor
  · intro hdeferred hquiescent
    exact reclaimTakenOver_reclaimed hquiescent hdeferred
  · intro hbusy
    obtain ⟨c', hdeferred, -⟩ := reclaimTakenOver_deferred htaken hcurrent hbusy
    rw [hdeferred]

theorem reclaimInterruptedPass_ahead (hvalid : WorkValid c)
    (hworker : w.workerExecutionId.length ≠ 0) (h : InterruptedPass (w.clock 4) c)
    (hdeferred : reclaimInterruptedPass w c = (.ok .deferred, c')) : Deferred c c' := by
  have hbusy := (reclaimInterruptedPass_deferred hvalid hworker h).1 (congrArg Prod.fst hdeferred)
  obtain ⟨staleClaim, claim, hstale, hbegin, htaken, work, hcurrent⟩ :=
    beginInterruptedTakeover_some hvalid hworker h
  rw [reclaimInterruptedPass, hstale] at hdeferred
  dsimp only at hdeferred
  rw [hbegin] at hdeferred
  obtain ⟨c₂, hto, hahead⟩ := reclaimTakenOver_deferred htaken hcurrent hbusy
  cases hto.symm.trans hdeferred
  exact hahead

end Takeover

section Poll

variable {w : Worker} {r r' : Recoveries} {c c' : Catalog}

theorem finalizeStop_undisturbed (h : finalizeStop w c = (.error .deferred, c')) :
    ∃ verifications, Undisturbed { c with verifications } c' := by
  have hsame (d : Catalog) : Undisturbed d d := ⟨⟨d.recovery.updatedAt, rfl⟩, .inl rfl⟩
  rw [finalizeStop] at h
  split at h
  · cases h
  · split at h
    · cases h
    · next hprepare =>
      obtain ⟨-, verifications, -, rfl⟩ := prepareStop_ok hprepare
      cases h
      exact ⟨verifications, hsame _⟩
    · next hprepare =>
      obtain ⟨-, verifications, -, rfl⟩ := prepareStop_ok hprepare
      refine ⟨verifications, ?_⟩
      split at h
      · have hundisturbed := w.undisturbed { c with verifications }
        rw [reconcileAndComplete] at h
        split at h
        · next hr =>
          cases h
          rw [hr] at hundisturbed
          exact hundisturbed
        · cases h
        · split at h <;> cases h
      · cases h
        exact hsame _

/-- A Stop that has been deferred, in the order of the queue. -/
theorem finalizeStopSafely_deferred (h : finalizeStopSafely w c r = (.ok .deferred, r')) :
    ∃ verifications prepared stopOperationId, Undisturbed { c with verifications } prepared ∧
      (r.put prepared).deferStop c.recovery.id c.recovery.attemptId stopOperationId (w.clock 2) =
        .ok r' := by
  unfold finalizeStopSafely at h
  split at h
  · cases h
  · next hfinal =>
    obtain ⟨verifications, hundisturbed⟩ := finalizeStop_undisturbed hfinal
    split at h
    · cases h
    · next hdefer =>
      cases h
      exact ⟨verifications, _, _, hundisturbed, hdefer⟩
  · split at h <;> cases h
  · cases h

theorem PastStops.workValid (h : PastStops w r r') (hvalid : ∀ c ∈ r.rows, WorkValid c) :
    ∀ c ∈ r'.rows, WorkValid c := by
  cases h with
  | idle => exact hvalid
  | @deferred s _ hfound hdeferred =>
    obtain ⟨verifications, prepared, _, hundisturbed, hdefer⟩ :=
      finalizeStopSafely_deferred hdeferred
    obtain ⟨old, hold, -, -, updatedAt, -, rfl⟩ := Recoveries.deferStop_ok hdefer
    have hs : WorkValid { s with verifications } := hvalid s (findNextStopping_some hfound).1
    have hput : ∀ d ∈ (r.put prepared).rows, WorkValid d := by
      intro d hd
      rcases Recoveries.mem_put.1 hd with ⟨rfl, -⟩ | ⟨hmem, -⟩
      · exact hundisturbed.workValid hs
      · exact hvalid d hmem
    intro d hd
    rcases Recoveries.mem_put.1 hd with ⟨rfl, -⟩ | ⟨hmem, -⟩
    · exact hput old hold
    · exact hput d hmem

theorem PastStops.steps (h : PastStops w r r') : ∃ stops, (∀ step ∈ stops, ∃ id,
    step = .finalizeStop id) ∧
      (pollDvdRecoveryPass w r).steps = stops ++ (pollPasses w r').steps := by
  cases h with
  | idle h =>
    refine ⟨[], fun _ h => (nomatch h), ?_⟩
    rw [pollDvdRecoveryPass, h]
    rfl
  | @deferred s _ hfound hdeferred =>
    refine ⟨[.finalizeStop s.recovery.id], fun _ h => ⟨_, List.mem_singleton.1 h⟩, ?_⟩
    rw [pollDvdRecoveryPass, hfound]
    dsimp only
    rw [hdeferred]
    rfl

theorem ReachesPasses.steps (h : ReachesPasses w r) :
    (pollPasses w r).steps = .activateWaitingResume :: (pollInterrupted w r).steps := by
  obtain ⟨hstorage, hwaiting⟩ := h
  rw [pollPasses, if_pos hstorage, hwaiting]
  rfl

theorem pollInterrupted_reclaims
    (h : findNextInterrupted w.workerExecutionId (w.clock 4) r = .ok (some c)) :
    (pollInterrupted w r).steps = [.reclaimInterruptedPass c.recovery.id] := by
  rw [pollInterrupted, h]
  dsimp only
  split <;> rfl

theorem pollInterrupted_claims
    (h : findNextInterrupted w.workerExecutionId (w.clock 4) r = .ok none) :
    (pollInterrupted w r).steps = [.claimNextVerifiedCandidate] := by
  rw [pollInterrupted, h]
  dsimp only
  rw [pollCandidate]
  split <;> rfl

/-- A poll that defers a takeover takes up no other pass. -/
theorem TakeoverDeferred.steps (h : TakeoverDeferred w r r' c c') :
    (∀ id, .reclaimInterruptedPass id ∈ (pollDvdRecoveryPass w r).steps → id = c.recovery.id) ∧
      .claimNextVerifiedCandidate ∉ (pollDvdRecoveryPass w r).steps := by
  obtain ⟨stops, hstops, hsteps⟩ := h.past.steps
  rw [hsteps, h.reaches.steps, pollInterrupted_reclaims h.found]
  constructor
  · intro id hid
    rcases List.mem_append.1 hid with hstop | hpass
    · obtain ⟨_, hid⟩ := hstops _ hstop
      cases hid
    · simpa using hpass
  · intro hclaim
    rcases List.mem_append.1 hclaim with hstop | hpass
    · obtain ⟨_, hid⟩ := hstops _ hstop
      cases hid
    · simp at hpass

theorem InterruptedPass.later (h : InterruptedPass timestamp c) (hle : timestamp ≤ timestamp') :
    InterruptedPass timestamp' c := by
  apply h.at_time
  have hexpired := h.claimTime_lt
  omega

theorem otherInterrupted_put (hid : c'.recovery.id = c.recovery.id) :
    OtherInterrupted (r.put c') c.recovery.id timestamp ↔
      OtherInterrupted r c.recovery.id timestamp := by
  constructor
  · rintro ⟨d, hd, hinterrupted, hne⟩
    rcases Recoveries.mem_put.1 hd with ⟨rfl, -⟩ | ⟨hmem, -⟩
    · exact absurd hid hne
    · exact ⟨d, hmem, hinterrupted, hne⟩
  · rintro ⟨d, hd, hinterrupted, hne⟩
    exact ⟨d, Recoveries.mem_put.2 (.inr ⟨hd, fun heq => hne (heq.trans hid)⟩), hinterrupted, hne⟩

/-- The pass whose takeover was deferred is next again. -/
theorem TakeoverDeferred.again (h : TakeoverDeferred w r r' c c')
    (hvalid : ∀ c ∈ r'.rows, WorkValid c) (hle : w.clock 6 ≤ timestamp) :
    c'.recovery.id = c.recovery.id ∧
      findNextInterrupted w.workerExecutionId timestamp (r'.put c') = .ok (some c') := by
  obtain ⟨hc, hinterrupted⟩ := findNextInterrupted_some h.found
  obtain ⟨_, hworker, -⟩ := bind_ok.1 h.found
  have hahead := reclaimInterruptedPass_ahead (hvalid c hc) (requireNonEmpty_ok.1 hworker).1
    hinterrupted h.deferred
  have hexpired := hinterrupted.claimTime_lt
  have hclock : w.clock 4 ≤ w.clock 6 := w.monotone (by decide)
  have hagain : InterruptedPass timestamp c' := hahead.interrupted timestamp (by omega)
  exact ⟨hahead.id, findNextInterrupted_again h.found hahead.id hahead.claimTime hagain⟩

/-- A deferred Stop always makes room for the others; a deferred takeover never does, and holds up
whatever waits beside it. -/
theorem deferralRotates_iff (hvalid : ∀ c ∈ r.rows, WorkValid c) :
    DeferralRotates w r ↔ Unblocked w r := by
  have hclock : w.clock 4 ≤ w.clock 6 := w.monotone (by decide)
  constructor
  · intro h r' c hpast hreaches hfound hbusy
    have hvalid' := hpast.workValid hvalid
    obtain ⟨hc, hinterrupted⟩ := findNextInterrupted_some hfound
    obtain ⟨_, hworker, -⟩ := bind_ok.1 hfound
    have hreclaim := (reclaimInterruptedPass_deferred (hvalid' c hc)
      (requireNonEmpty_ok.1 hworker).1 hinterrupted).2 hbusy
    have hdeferred : TakeoverDeferred w r r' c (reclaimInterruptedPass w c).2 :=
      ⟨hpast, hreaches, hfound, Prod.ext hreclaim rfl⟩
    constructor
    · intro timestamp hle hother
      obtain ⟨hid, hagain⟩ := hdeferred.again hvalid' hle
      obtain ⟨next, hnext, hne⟩ := h.interrupted r' c _ timestamp hdeferred hle
        ((otherInterrupted_put hid).2 hother)
      rw [hagain] at hnext
      cases hnext
      exact hne hid
    · intro hcandidate
      rcases h.afterTakeover r' c _ hdeferred (.inr hcandidate) with ⟨d, -, hne, hstep⟩ | hclaim
      · exact hne (hdeferred.steps.1 _ hstep)
      · exact hdeferred.steps.2 hclaim
  · intro h
    have hnothing {r' c c'} (hdeferred : TakeoverDeferred w r r' c c') :
        (∀ timestamp, w.clock 6 ≤ timestamp → ¬OtherInterrupted r' c.recovery.id timestamp) ∧
          ¬CandidateWaits w r' := by
      obtain ⟨hc, hinterrupted⟩ := findNextInterrupted_some hdeferred.found
      obtain ⟨_, hworker, -⟩ := bind_ok.1 hdeferred.found
      apply h r' c hdeferred.past hdeferred.reaches hdeferred.found
      exact (reclaimInterruptedPass_deferred (hdeferred.past.workValid hvalid c hc)
        (requireNonEmpty_ok.1 hworker).1 hinterrupted).1 (congrArg Prod.fst hdeferred.deferred)
    constructor
    case stopping =>
      rintro s stopOperationId timestamp r' - hdefer ⟨d, hd, hstopping, hother⟩
      exact Recoveries.deferStop_next hdefer hd hother hstopping
    case interrupted =>
      intro r' c c' timestamp hdeferred hle hother
      obtain ⟨hid, -⟩ := hdeferred.again (hdeferred.past.workValid hvalid) hle
      exact absurd ((otherInterrupted_put hid).1 hother) ((hnothing hdeferred).1 timestamp hle)
    case afterStop =>
      intro s r' hfound hdeferred hreaches
      obtain ⟨stops, -, hsteps⟩ := (PastStops.deferred hfound hdeferred).steps
      rw [hsteps, hreaches.steps]
      constructor
      · intro c hc
        rw [pollInterrupted_reclaims hc]
        exact List.mem_append_right _ (List.mem_cons_of_mem _ List.mem_cons_self)
      · intro hnone
        rw [pollInterrupted_claims hnone]
        exact List.mem_append_right _ (List.mem_cons_of_mem _ List.mem_cons_self)
    case afterTakeover =>
      rintro r' c c' hdeferred (⟨d, hd, hinterrupted, hother⟩ | hcandidate)
      · exact absurd ⟨d, hd, hinterrupted.later hclock, hother⟩
          ((hnothing hdeferred).1 (w.clock 6) le_rfl)
      · exact absurd hcandidate (hnothing hdeferred).2

end Poll

/-- A second recovery, whose pass was claimed a little later. -/
def sampleSecond : Catalog :=
  { sampleCatalog with
    recovery := { sampleRecovery with id := "second" }
    work := some { sampleWork with
      archiveRecoveryId := "second"
      claimedAt := some 1 } }

def sampleRecoveries : Recoveries := ⟨[sampleCatalog, sampleSecond], by decide⟩

/-- A worker that finds no drive at rest. -/
def sampleWorker : Worker where
  workerExecutionId := "execution"
  clock n := 100000 + n
  monotone := fun _ _ h => Nat.add_le_add_left h _
  claimToken := "taken"
  newVerificationId := "next"
  storage := some ⟨"supported", some sampleProtection⟩
  insertion _ := none
  evaluate _ := ⟨.inconclusive, [], 0⟩
  deviceInactive _ := false
  reconcile c := (.converged, c)
  undisturbed c := ⟨⟨c.recovery.updatedAt, rfl⟩, .inl rfl⟩
  runPass _ r := (true, r)

theorem sampleRecoveries_rotates :
    DeferralRotates sampleWorker sampleRecoveries ↔ Unblocked sampleWorker sampleRecoveries :=
  deferralRotates_iff (by decide)

/-- The pass of the drive that is never at rest is next for ever, and the other never. -/
theorem sampleRecoveries_starve : ¬DeferralRotates sampleWorker sampleRecoveries := by
  intro h
  have hdeferred : TakeoverDeferred sampleWorker sampleRecoveries sampleRecoveries sampleCatalog
      (reclaimInterruptedPass sampleWorker sampleCatalog).2 :=
    ⟨.idle (by decide +kernel), ⟨by decide, by decide⟩, by decide +kernel, by decide +kernel⟩
  have hvalid : ∀ c ∈ sampleRecoveries.rows, WorkValid c := by decide
  have hsecond : OtherInterrupted sampleRecoveries sampleCatalog.recovery.id 100006 :=
    ⟨sampleSecond, by decide, by decide, by decide⟩
  obtain ⟨hid, hagain⟩ := hdeferred.again hvalid le_rfl
  obtain ⟨next, hnext, hne⟩ := h.interrupted _ _ _ 100006 hdeferred le_rfl
    ((otherInterrupted_put hid).2 hsecond)
  cases hagain.symm.trans hnext
  exact hne hid

end RipDvd
