import RipDvd.WorkAgreement

namespace RipDvd
set_option autoImplicit true

/-- The sectors that a pass reads next: those of the map beyond its cursor, in its direction. -/
def recoveryPassSectorLbas (direction : ArchiveRecoveryPassDirection) (cursorLba : Option Nat)
    (ranges : List UnrecoveredSourceRange) : List Nat :=
  match direction with
  | .forward => ranges.flatMap fun range =>
    let firstLba := max range.startLba ((cursorLba.map (· + 1)).getD 0)
    List.range' firstLba (range.endLbaExclusive - firstLba)
  | .reverse => ranges.reverse.flatMap fun range =>
    let endLba := min range.endLbaExclusive (cursorLba.getD range.endLbaExclusive)
    (List.range' range.startLba (endLba - range.startLba)).reverse

/-- The journal and the checkpoint pointer of an archive, against the header in its catalog. -/
inductive RecoveryDisk where
  /-- no journal, and the pointer is at the header -/
  | settled
  /-- a journal is retained, and the pointer is at the header -/
  | journaled
  /-- a journal is retained, and the pointer is at a checkpoint the catalog has yet to project -/
  | published (input : DvdRecoveryCheckpointProjection)
  deriving DecidableEq

/-- The catalog has yet to project the checkpoint of the pointer. -/
def RecoveryDisk.pending : RecoveryDisk → Bool
  | .published _ => true
  | _ => false

/-- Where the worker that holds a claim has got to. -/
inductive WorkerPhase where
  | gone
  | claimed (direction : ArchiveRecoveryPassDirection) (cursorLba : Option Nat)
  | reading (todo : List Nat)
  | writing (startLba : Nat) (todo : List Nat)
  | closing (todo : List Nat)
  /-- a batch failed, or the pass was taken over -/
  | unreconciled
  | reconciled
  deriving DecidableEq

/-- An archive with its catalog and its directory, the writer that owns its image, and the workers
by their claim tokens. -/
structure RecoverySite extends RecoverySystem where
  disk : RecoveryDisk
  writer : Option String
  phase : String → WorkerPhase

/-- What workers do, apart from the transactions that any of them or an operator may commit. -/
inductive SiteAction where
  | transaction (op : RecoveryOperation)
  | claim (workerId claimToken : String)
  | takeOver (claim : ClaimedArchiveRecoveryWork) (workerId claimToken : String)
  | readCheckpoint (claimToken : String)
  | beginBatch (claim : ClaimedArchiveRecoveryWork)
  | reserveJournal (claimToken : String)
  | publish (claimToken : String) (input : DvdRecoveryCheckpointProjection)
  | project (claim : ClaimedArchiveRecoveryWork)
  | unlinkJournal (claimToken : String)
  | failBatch (claimToken : String)
  | crash (claimToken : String)
  | rollForward
  | removeJournal (reconciler : Option String)
  | requeue (claim : ClaimedArchiveRecoveryWork)
  | settlePass (claim : ClaimedArchiveRecoveryWork) (newVerificationId : String)

/-- The transactions that a worker commits at a certain point of a pass only, or that are no part of
one. -/
def RecoveryOperation.confined : RecoveryOperation → Bool
  | .claimNextVerifiedCandidate .. => true
  | .beginInterruptedTakeover .. => true
  | .projectDvdRecoveryCheckpoint .. => true
  | .settlePass .. => true
  | .requeue .. => true
  | .markFault .. => true
  | .releaseAfterReconciliation .. => true
  | _ => false

/-- The transactions that only ever run inside `withDvdCurrentCheckpoint`. An interrupted
verification is also completed after that has thrown. -/
def RecoveryOperation.readsCheckpoint : RecoveryOperation → Bool
  | .requestResume .. => true
  | .submitVerification .. => true
  | .completeVerification _ evaluated _ => .discVerificationInterrupted ∉ evaluated.reasons
  | .recordConfirmation .. => true
  | _ => false

namespace RecoverySite

variable (sha256 : Hashed → Digest)

def setPhase (s : RecoverySite) (claimToken : String) (phase : WorkerPhase) : RecoverySite :=
  { s with phase := fun token => if token = claimToken then phase else s.phase token }

def commit (s : RecoverySite) (timestamp : Nat) (op : RecoveryOperation) : Option RecoverySite :=
  (s.toRecoverySystem.perform sha256 timestamp op).map fun system =>
    { s with toRecoverySystem := system }

/-- The row is claimed with this token. -/
def heldBy (s : RecoverySite) (claimToken : String) : Option ArchiveRecoveryWork :=
  s.catalog.work.filter fun work => work.status = .claimed ∧ work.claimToken = some claimToken

/-- Carry out an action at a time, if it can be carried out. -/
def perform (s : RecoverySite) (timestamp : Nat) : SiteAction → Option RecoverySite
  | .transaction op =>
    -- the checkpoint read waits for the writer, and refuses a journal and a pointer off the header
    if op.confined ∨ (op.readsCheckpoint ∧ ¬(s.writer = none ∧ s.disk = .settled)) then none
    else s.commit sha256 timestamp op
  | .claim workerId claimToken => do
    let next ← s.commit sha256 timestamp (.claimNextVerifiedCandidate workerId claimToken)
    match next.heldBy claimToken with
    | some work => some (next.setPhase claimToken (.claimed work.passDirection work.passCursorLba))
    | none => some next
  | .takeOver claim workerId claimToken => do
    let next ← s.commit sha256 timestamp (.beginInterruptedTakeover claim workerId claimToken)
    match next.heldBy claimToken with
    | some _ => some (next.setPhase claimToken .unreconciled)
    | none => some next
  | .readCheckpoint claimToken =>
    match s.phase claimToken, s.catalog.currentManifest with
    | .claimed direction cursorLba, some current =>
      if s.writer = none ∧ s.disk = .settled then
        some (s.setPhase claimToken (.reading (recoveryPassSectorLbas direction cursorLba
          current.unrecoveredSourceRanges)))
      else none
    | _, _ => none
  | .beginBatch claim =>
    match s.phase claim.claimToken with
    | .reading (startLba :: todo) =>
      if s.writer = none ∧ s.disk = .settled ∧
          (requireCurrentArchiveRecoveryClaim s.catalog claim).isOk then
        some { s.setPhase claim.claimToken (.writing startLba todo) with
          writer := some claim.claimToken }
      else none
    | _ => none
  | .reserveJournal claimToken =>
    match s.phase claimToken with
    | .writing _ _ =>
      if s.writer = some claimToken ∧ s.disk = .settled then some { s with disk := .journaled }
      else none
    | _ => none
  | .publish claimToken input =>
    match s.phase claimToken with
    | .writing startLba _ =>
      if s.writer = some claimToken ∧ s.disk = .journaled ∧
          input.recoveryRead.startLba = startLba ∧
          input.manifest.revision = s.catalog.header.currentManifestRevision + 1 then
        some { s with disk := .published input }
      else none
    | _ => none
  | .project claim =>
    match s.phase claim.claimToken, s.disk with
    | .writing _ todo, .published input =>
      if s.writer = some claim.claimToken then do
        let next ← s.commit sha256 timestamp
          (.projectDvdRecoveryCheckpoint { input with claim := some claim })
        some { next.setPhase claim.claimToken (.closing todo) with disk := .journaled }
      else none
    | _, _ => none
  | .unlinkJournal claimToken =>
    match s.phase claimToken with
    | .closing todo =>
      if s.writer = some claimToken then
        some { s.setPhase claimToken (.reading todo) with
          writer := none
          disk := .settled }
      else none
    | _ => none
  | .failBatch claimToken =>
    if s.writer = some claimToken then
      some { s.setPhase claimToken .unreconciled with writer := none }
    else none
  | .crash claimToken =>
    some { s.setPhase claimToken .gone with
      writer := if s.writer = some claimToken then none else s.writer }
  | .rollForward =>
    match s.disk with
    | .published input =>
      if s.writer = none then do
        let next ← s.commit sha256 timestamp
          (.projectDvdRecoveryCheckpoint { input with claim := none })
        some { next with disk := .journaled }
      else none
    | _ => none
  | .removeJournal reconciler =>
    match s.disk with
    | .published _ => none
    | _ =>
      if s.writer = none then
        let cleaned := { s with disk := .settled }
        match reconciler with
        | some claimToken =>
          if s.phase claimToken = .unreconciled then some (cleaned.setPhase claimToken .reconciled)
          else none
        | none => some cleaned
      else none
  | .requeue claim =>
    match s.phase claim.claimToken with
    | .claimed _ _ | .reading _ | .reconciled => do
      let next ← s.commit sha256 timestamp (.requeue claim)
      some (next.setPhase claim.claimToken .gone)
    | _ => none
  | .settlePass claim newVerificationId =>
    match s.phase claim.claimToken with
    | .reading [] => do
      let next ← s.commit sha256 timestamp (.settlePass claim newVerificationId)
      some (next.setPhase claim.claimToken .gone)
    | _ => none

/-- Somebody carries out an action. -/
def Step (s : RecoverySite) (action : SiteAction) (s' : RecoverySite) : Prop :=
  ∃ timestamp, s.perform sha256 timestamp action = some s'

/-- Carry out actions one after the other. -/
def performAll (s : RecoverySite) : List (Nat × SiteAction) → Option RecoverySite
  | [] => some s
  | (timestamp, action) :: rest =>
    (s.perform sha256 timestamp action).bind fun next => next.performAll rest

theorem run_of_performAll (h : performAll sha256 s actions = some s') :
    Run (Step sha256) s (actions.map Prod.snd) s' := by
  induction actions generalizing s with
  | nil =>
    cases h
    exact .nil _
  | cons action rest ih =>
    obtain ⟨next, hnext, hrest⟩ := Option.bind_eq_some_iff.1 h
    exact .cons ⟨action.1, hnext⟩ (ih hrest)

/-- What an action that was carried out has found and done. -/
inductive Effect (s : RecoverySite) : SiteAction → RecoverySite → Prop where
  | transaction (hop : op.confined = false)
    (hread : op.readsCheckpoint → s.writer = none ∧ s.disk = .settled)
    (hstep : RecoverySystem.Step sha256 s.toRecoverySystem op system) :
    Effect s (.transaction op) { s with toRecoverySystem := system }
  | claim (hstep : RecoverySystem.Step sha256 s.toRecoverySystem
      (.claimNextVerifiedCandidate workerId claimToken) system)
    (hwork : system.catalog.work = some work) (hclaimed : work.status = .claimed)
    (htoken : work.claimToken = some claimToken) :
    Effect s (.claim workerId claimToken)
      (setPhase { s with toRecoverySystem := system } claimToken
        (.claimed work.passDirection work.passCursorLba))
  | notClaimed (hstep : RecoverySystem.Step sha256 s.toRecoverySystem
      (.claimNextVerifiedCandidate workerId claimToken) system)
    (hnot : ∀ work, system.catalog.work = some work → work.status = .claimed →
      work.claimToken ≠ some claimToken) :
    Effect s (.claim workerId claimToken) { s with toRecoverySystem := system }
  | takeOver (hstep : RecoverySystem.Step sha256 s.toRecoverySystem
      (.beginInterruptedTakeover claim workerId claimToken) system)
    (hwork : system.catalog.work = some work) (hclaimed : work.status = .claimed)
    (htoken : work.claimToken = some claimToken) :
    Effect s (.takeOver claim workerId claimToken)
      (setPhase { s with toRecoverySystem := system } claimToken .unreconciled)
  | notTakenOver (hstep : RecoverySystem.Step sha256 s.toRecoverySystem
      (.beginInterruptedTakeover claim workerId claimToken) system)
    (hnot : ∀ work, system.catalog.work = some work → work.status = .claimed →
      work.claimToken ≠ some claimToken) :
    Effect s (.takeOver claim workerId claimToken) { s with toRecoverySystem := system }
  | readCheckpoint (hphase : s.phase claimToken = .claimed direction cursorLba)
    (hcurrent : s.catalog.currentManifest = some current) (hwriter : s.writer = none)
    (hdisk : s.disk = .settled) :
    Effect s (.readCheckpoint claimToken) (s.setPhase claimToken (.reading
      (recoveryPassSectorLbas direction cursorLba current.unrecoveredSourceRanges)))
  | beginBatch (hphase : s.phase claim.claimToken = .reading (startLba :: todo))
    (hwriter : s.writer = none) (hdisk : s.disk = .settled)
    (hclaim : requireCurrentArchiveRecoveryClaim s.catalog claim = .ok work) :
    Effect s (.beginBatch claim) { s.setPhase claim.claimToken (.writing startLba todo) with
      writer := some claim.claimToken }
  | reserveJournal (hphase : s.phase claimToken = .writing startLba todo)
    (hwriter : s.writer = some claimToken) (hdisk : s.disk = .settled) :
    Effect s (.reserveJournal claimToken) { s with disk := .journaled }
  | publish (hphase : s.phase claimToken = .writing startLba todo)
    (hwriter : s.writer = some claimToken) (hdisk : s.disk = .journaled)
    (hstart : input.recoveryRead.startLba = startLba)
    (hnext : input.manifest.revision = s.catalog.header.currentManifestRevision + 1) :
    Effect s (.publish claimToken input) { s with disk := .published input }
  | project (hphase : s.phase claim.claimToken = .writing startLba todo)
    (hwriter : s.writer = some claim.claimToken) (hdisk : s.disk = .published input)
    (hstep : RecoverySystem.Step sha256 s.toRecoverySystem
      (.projectDvdRecoveryCheckpoint { input with claim := some claim }) system) :
    Effect s (.project claim)
      { setPhase { s with toRecoverySystem := system } claim.claimToken (.closing todo) with
        disk := .journaled }
  | unlinkJournal (hphase : s.phase claimToken = .closing todo)
    (hwriter : s.writer = some claimToken) :
    Effect s (.unlinkJournal claimToken) { s.setPhase claimToken (.reading todo) with
      writer := none
      disk := .settled }
  | failBatch (hwriter : s.writer = some claimToken) :
    Effect s (.failBatch claimToken) { s.setPhase claimToken .unreconciled with writer := none }
  | crash : Effect s (.crash claimToken) { s.setPhase claimToken .gone with
      writer := if s.writer = some claimToken then none else s.writer }
  | rollForward (hwriter : s.writer = none) (hdisk : s.disk = .published input)
    (hstep : RecoverySystem.Step sha256 s.toRecoverySystem
      (.projectDvdRecoveryCheckpoint { input with claim := none }) system) :
    Effect s .rollForward { s with
      toRecoverySystem := system
      disk := .journaled }
  | removeJournal (hwriter : s.writer = none) (hdisk : ∀ input, s.disk ≠ .published input) :
    Effect s (.removeJournal none) { s with disk := .settled }
  | reconciled (hwriter : s.writer = none) (hdisk : ∀ input, s.disk ≠ .published input)
    (hphase : s.phase claimToken = .unreconciled) :
    Effect s (.removeJournal (some claimToken))
      (setPhase { s with disk := .settled } claimToken .reconciled)
  | requeue (hphase : (∃ direction cursorLba,
        s.phase claim.claimToken = .claimed direction cursorLba) ∨
      (∃ todo, s.phase claim.claimToken = .reading todo) ∨
      s.phase claim.claimToken = .reconciled)
    (hstep : RecoverySystem.Step sha256 s.toRecoverySystem (.requeue claim) system) :
    Effect s (.requeue claim)
      (setPhase { s with toRecoverySystem := system } claim.claimToken .gone)
  | settlePass (hphase : s.phase claim.claimToken = .reading [])
    (hstep : RecoverySystem.Step sha256 s.toRecoverySystem
      (.settlePass claim newVerificationId) system) :
    Effect s (.settlePass claim newVerificationId)
      (setPhase { s with toRecoverySystem := system } claim.claimToken .gone)

variable {s : RecoverySite}

theorem commit_some : s.commit sha256 timestamp op = some next ↔
    ∃ system, s.toRecoverySystem.perform sha256 timestamp op = some system ∧
      { s with toRecoverySystem := system } = next := by
  rw [commit, Option.map_eq_some_iff]

/-- An action that begins with a transaction goes on from the system it has committed. -/
theorem commit_bind (h : (s.commit sha256 timestamp op).bind f = some s') :
    ∃ system, RecoverySystem.Step sha256 s.toRecoverySystem op system ∧
      f { s with toRecoverySystem := system } = some s' := by
  obtain ⟨next, hnext, h⟩ := Option.bind_eq_some_iff.1 h
  obtain ⟨system, hstep, rfl⟩ := (commit_some sha256).1 hnext
  exact ⟨system, ⟨timestamp, hstep⟩, h⟩

theorem heldBy_some : heldBy s claimToken = some work ↔
    s.catalog.work = some work ∧ work.status = .claimed ∧ work.claimToken = some claimToken := by
  rw [heldBy, Option.filter_eq_some_iff, decide_eq_true_eq]

theorem heldBy_none (h : heldBy s claimToken = none) : ∀ work, s.catalog.work = some work →
    work.status = .claimed → work.claimToken ≠ some claimToken := by
  intro work hwork hclaimed htoken
  cases h.symm.trans (heldBy_some.2 ⟨hwork, hclaimed, htoken⟩)

theorem perform_effect (h : s.perform sha256 timestamp action = some s') :
    Effect sha256 s action s' := by
  cases action with
  | transaction op =>
    rw [perform] at h
    split at h
    · cases h
    · next hop =>
      obtain ⟨hconfined, hread⟩ := not_or.1 hop
      obtain ⟨system, hstep, rfl⟩ := (commit_some sha256).1 h
      exact .transaction (Bool.eq_false_iff.2 hconfined)
        (fun hgated => not_not.1 fun hnot => hread ⟨hgated, hnot⟩) ⟨timestamp, hstep⟩
  | claim workerId claimToken =>
    obtain ⟨system, hstep, h⟩ := commit_bind sha256 h
    split at h
    · next work hheld =>
      obtain ⟨hwork, hclaimed, htoken⟩ := heldBy_some.1 hheld
      cases h
      exact .claim hstep hwork hclaimed htoken
    · next hheld =>
      cases h
      exact .notClaimed hstep (heldBy_none hheld)
  | takeOver claim workerId claimToken =>
    obtain ⟨system, hstep, h⟩ := commit_bind sha256 h
    split at h
    · next work hheld =>
      obtain ⟨hwork, hclaimed, htoken⟩ := heldBy_some.1 hheld
      cases h
      exact .takeOver hstep hwork hclaimed htoken
    · next hheld =>
      cases h
      exact .notTakenOver hstep (heldBy_none hheld)
  | readCheckpoint claimToken =>
    rw [perform] at h
    split at h
    · next direction cursorLba current hphase hcurrent =>
      split at h
      · next hd =>
        cases h
        exact .readCheckpoint hphase hcurrent hd.1 hd.2
      · cases h
    · cases h
  | beginBatch claim =>
    rw [perform] at h
    split at h
    · next startLba todo hphase =>
      split at h
      · next hd =>
        cases h
        obtain ⟨work, hwork⟩ := exists_ok hd.2.2
        exact .beginBatch hphase hd.1 hd.2.1 hwork
      · cases h
    · cases h
  | reserveJournal claimToken =>
    rw [perform] at h
    split at h
    · next startLba todo hphase =>
      split at h
      · next hd =>
        cases h
        exact .reserveJournal hphase hd.1 hd.2
      · cases h
    · cases h
  | publish claimToken input =>
    rw [perform] at h
    split at h
    · next startLba todo hphase =>
      split at h
      · next hd =>
        cases h
        exact .publish hphase hd.1 hd.2.1 hd.2.2.1 hd.2.2.2
      · cases h
    · cases h
  | project claim =>
    rw [perform] at h
    split at h
    · next startLba todo input hphase hdisk =>
      split at h
      · next hwriter =>
        obtain ⟨system, hstep, h⟩ := commit_bind sha256 h
        cases h
        exact .project hphase hwriter hdisk hstep
      · cases h
    · cases h
  | unlinkJournal claimToken =>
    rw [perform] at h
    split at h
    · next todo hphase =>
      split at h
      · next hwriter =>
        cases h
        exact .unlinkJournal hphase hwriter
      · cases h
    · cases h
  | failBatch claimToken =>
    rw [perform] at h
    split at h
    · next hwriter =>
      cases h
      exact .failBatch hwriter
    · cases h
  | crash claimToken =>
    cases h
    exact .crash
  | rollForward =>
    rw [perform] at h
    split at h
    · next input hdisk =>
      split at h
      · next hwriter =>
        obtain ⟨system, hstep, h⟩ := commit_bind sha256 h
        cases h
        exact .rollForward hwriter hdisk hstep
      · cases h
    · cases h
  | removeJournal reconciler =>
    rw [perform] at h
    split at h
    · cases h
    · next hdisk =>
      split at h
      · next hwriter =>
        cases reconciler with
        | none =>
          cases h
          exact .removeJournal hwriter hdisk
        | some claimToken =>
          dsimp only at h
          split at h
          · next hphase =>
            cases h
            exact .reconciled hwriter hdisk hphase
          · cases h
      · cases h
  | requeue claim =>
    rw [perform] at h
    split at h
    · next direction cursorLba hphase =>
      obtain ⟨system, hstep, h⟩ := commit_bind sha256 h
      cases h
      exact .requeue (.inl ⟨_, _, hphase⟩) hstep
    · next todo hphase =>
      obtain ⟨system, hstep, h⟩ := commit_bind sha256 h
      cases h
      exact .requeue (.inr (.inl ⟨_, hphase⟩)) hstep
    · next hphase =>
      obtain ⟨system, hstep, h⟩ := commit_bind sha256 h
      cases h
      exact .requeue (.inr (.inr hphase)) hstep
    · cases h
  | settlePass claim newVerificationId =>
    rw [perform] at h
    split at h
    · next hphase =>
      obtain ⟨system, hstep, h⟩ := commit_bind sha256 h
      cases h
      exact .settlePass hphase hstep
    · cases h

/-- A checkpoint is being written, or has yet to be projected. -/
def BatchOpen (s : RecoverySite) : Prop := s.writer ≠ none ∨ s.disk.pending

instance (s : RecoverySite) : Decidable s.BatchOpen := inferInstanceAs (Decidable (_ ∨ _))

/-- A published archive on which nobody works yet. -/
structure Initial (s : RecoverySite) : Prop where
  system : RecoverySystem.Initial s.toRecoverySystem
  disk : s.disk = .settled
  writer : s.writer = none
  phase : ∀ token, s.phase token = .gone

end RecoverySite

end RipDvd
