import RipDvd.Alignment
import RipDvd.Interventions
import RipDvd.Transition
import Mathlib.Logic.Relation

namespace RipDvd
set_option autoImplicit true

/-- What other parts of the program and the drives change under a recovery. -/
structure Surroundings where
  inspections : List DiscInspection
  detectedDiscs : List DetectedDisc
  storage : Option DvdRecoveryStoragePreflight
  activeEncodeWork : Bool
  damagePreviewHolds : Bool

/-- The transactions in which workers and operators change a recovery, with their inputs and the
identifiers they generate. -/
inductive RecoveryOperation where
  | claimNextVerifiedCandidate (workerId claimToken : String)
  | beginInterruptedTakeover (claim : ClaimedArchiveRecoveryWork) (workerId claimToken : String)
  | deferInterruptedTakeover (claim : ClaimedArchiveRecoveryWork)
  | renewClaim (claim : ClaimedArchiveRecoveryWork)
  | admitSourceRead (claim : ClaimedArchiveRecoveryWork) (driveReady : Bool)
  | projectDvdRecoveryCheckpoint (input : DvdRecoveryCheckpointProjection)
  | settlePass (claim : ClaimedArchiveRecoveryWork) (newVerificationId : String)
  | markFault (claim : ClaimedArchiveRecoveryWork) (faultCode : String)
    (retainWork storageFault : Bool)
  | releaseAfterReconciliation (attemptId : String)
  | requeue (claim : ClaimedArchiveRecoveryWork)
  | requestResume (input : RequestResumeInput) (attemptId resumeOperationId : String)
    (insertion : Option DiscInspection) (newVerificationId : String)
  | activateWaitingResume (insertion : Option DiscInspection) (newVerificationId : String)
  | requestStop (archiveRecoveryId attemptId stopOperationId : String)
  | prepareStop (archiveRecoveryId attemptId stopOperationId : String)
    (quiescedClaim : Option ClaimedArchiveRecoveryWork)
    (evaluate : DvdDiscVerification → EvaluatedVerification)
  | completeStop (archiveRecoveryId attemptId stopOperationId : String)
  | deferStop (archiveRecoveryId attemptId stopOperationId : String) (latestStopping : Nat)
  | markStopFault (archiveRecoveryId attemptId stopOperationId faultCode : String)
  | recordConfirmation (input : RecordDvdDiscConfirmationInput) (newId : String)
  | expireConfirmation (id : String)
  | expireForWorkerExecution (workerExecutionId : String) (confirmationId : Option String)
  | submitVerification (discInspectionId : String) (checkpointRevision : Nat)
    (checkpointDigest : Digest) (newId : String)
  | claimNextVerification (workerExecutionId claimToken : String)
  | renewVerificationClaim (claim : VerificationClaim)
  | completeVerification (claim : VerificationClaim) (evaluated : EvaluatedVerification)
    (newId : String)
  | failVerification (claim : VerificationClaim) (newId : String)
  | recoverExpiredVerifications (evaluate : DvdDiscVerification → EvaluatedVerification)
    (newId : String → String)
  | submitReconciliation
  | recoverExpiredReconciliations
  | claimNextReconciliation (workerExecutionId claimToken : String)
  | renewReconciliation (claim : ReconciliationClaim)
  | requeueReconciliation (claim : ReconciliationClaim)
  | completeReconciliation (claim : ReconciliationClaim) (converged : Bool)
  | failReconciliation (claim : ReconciliationClaim)
  | surroundings (next : Surroundings)

/-- A transaction that returns nothing to be refused. -/
def commits (x : Except DomainError Catalog) : Except DomainError (Bool × Catalog) :=
  x.map fun c => (true, c)

/-- A transaction that returns null when there was nothing to do. -/
def finds (x : Except DomainError (Option α × Catalog)) : Except DomainError (Bool × Catalog) :=
  x.map fun r => (r.1.isSome, r.2)

theorem commits_ok : commits x = .ok (b, c) ↔ b = true ∧ x = .ok c := by
  rw [commits, map_ok]
  exact ⟨fun ⟨_, hx, he⟩ => by cases he; exact ⟨rfl, hx⟩, fun ⟨hb, hx⟩ => ⟨c, hx, hb ▸ rfl⟩⟩

theorem finds_ok {x : Except DomainError (Option α × Catalog)} :
    finds x = .ok (b, c) ↔ ∃ r, x = .ok (r, c) ∧ r.isSome = b := by
  rw [finds, map_ok]
  exact ⟨fun ⟨r, hx, he⟩ => by cases he; exact ⟨r.1, hx, rfl⟩,
    fun ⟨r, hx, he⟩ => ⟨(r, c), hx, he ▸ rfl⟩⟩

theorem commits_snd_ok {x : Except DomainError (α × Catalog)}
    (h : commits (x.map Prod.snd) = .ok (b, c)) : ∃ a, x = .ok (a, c) := by
  obtain ⟨⟨a, d⟩, hx, he⟩ := map_ok.1 (commits_ok.1 h).2
  cases he
  exact ⟨a, hx⟩

variable (sha256 : Hashed → Digest)

/-- Run a transaction at a time: whether it returned something, and the catalog it leaves. -/
def RecoveryOperation.run (timestamp : Nat) (c : Catalog) :
    RecoveryOperation → Except DomainError (Bool × Catalog)
  | .claimNextVerifiedCandidate workerId claimToken =>
    finds (RipDvd.claimNextVerifiedCandidate workerId claimToken timestamp c)
  | .beginInterruptedTakeover claim workerId claimToken =>
    finds (RipDvd.beginInterruptedTakeover claim workerId claimToken timestamp c)
  | .deferInterruptedTakeover claim => .ok (RipDvd.deferInterruptedTakeover claim timestamp c)
  | .renewClaim claim => .ok (RipDvd.renewClaim claim timestamp c)
  | .admitSourceRead claim driveReady => RipDvd.admitSourceRead claim driveReady timestamp c
  | .projectDvdRecoveryCheckpoint input =>
    commits ((RipDvd.projectDvdRecoveryCheckpoint sha256 timestamp input c).map Prod.snd)
  | .settlePass claim newVerificationId =>
    commits ((RipDvd.settlePass claim timestamp newVerificationId c).map Prod.snd)
  | .markFault claim faultCode retainWork storageFault =>
    commits ((RipDvd.markFault claim faultCode retainWork storageFault timestamp c).map Prod.snd)
  | .releaseAfterReconciliation attemptId =>
    commits ((RipDvd.releaseAfterReconciliation attemptId timestamp c).map Prod.snd)
  | .requeue claim => commits ((RipDvd.requeue claim timestamp c).map Prod.snd)
  | .requestResume input attemptId resumeOperationId insertion newVerificationId =>
    commits (RipDvd.requestResume input attemptId resumeOperationId insertion newVerificationId
      timestamp c)
  | .activateWaitingResume insertion newVerificationId =>
    RipDvd.activateWaitingResume insertion newVerificationId timestamp c
  | .requestStop archiveRecoveryId attemptId stopOperationId =>
    commits (RipDvd.requestStop archiveRecoveryId attemptId stopOperationId timestamp c)
  | .prepareStop archiveRecoveryId attemptId stopOperationId quiescedClaim evaluate =>
    RipDvd.prepareStop archiveRecoveryId attemptId stopOperationId quiescedClaim
      evaluate timestamp c
  | .completeStop archiveRecoveryId attemptId stopOperationId =>
    commits (RipDvd.completeStop archiveRecoveryId attemptId stopOperationId timestamp c)
  | .deferStop archiveRecoveryId attemptId stopOperationId latestStopping =>
    commits (RipDvd.deferStop archiveRecoveryId attemptId stopOperationId latestStopping
      timestamp c)
  | .markStopFault archiveRecoveryId attemptId stopOperationId faultCode =>
    commits (RipDvd.markStopFault archiveRecoveryId attemptId stopOperationId faultCode timestamp c)
  | .recordConfirmation input newId =>
    commits ((RipDvd.recordConfirmation input newId timestamp c).map Prod.snd)
  | .expireConfirmation id => .ok (RipDvd.expireConfirmation id timestamp c)
  | .expireForWorkerExecution workerExecutionId confirmationId =>
    commits (RipDvd.expireForWorkerExecution workerExecutionId confirmationId timestamp c)
  | .submitVerification discInspectionId checkpointRevision checkpointDigest newId =>
    commits (RipDvd.submitVerification discInspectionId checkpointRevision checkpointDigest newId
      timestamp c)
  | .claimNextVerification workerExecutionId claimToken =>
    finds (RipDvd.claimNextVerification workerExecutionId claimToken timestamp c)
  | .renewVerificationClaim claim => .ok (RipDvd.renewVerificationClaim claim timestamp c)
  | .completeVerification claim evaluated newId =>
    commits (RipDvd.completeVerification claim evaluated newId timestamp c)
  | .failVerification claim newId => RipDvd.failVerification claim newId timestamp c
  | .recoverExpiredVerifications evaluate newId =>
    commits (RipDvd.recoverExpiredVerifications evaluate newId timestamp c)
  | .submitReconciliation => commits (RipDvd.submitReconciliation c)
  | .recoverExpiredReconciliations => .ok (true, RipDvd.recoverExpiredReconciliations timestamp c)
  | .claimNextReconciliation workerExecutionId claimToken =>
    finds (RipDvd.claimNextReconciliation workerExecutionId claimToken timestamp c)
  | .renewReconciliation claim => .ok (RipDvd.renewReconciliation claim timestamp c)
  | .requeueReconciliation claim => .ok (RipDvd.requeueReconciliation claim c)
  | .completeReconciliation claim converged =>
    commits (RipDvd.completeReconciliation claim converged c)
  | .failReconciliation claim => .ok (RipDvd.failReconciliation claim c)
  | .surroundings next => .ok (true, { c with
    inspections := next.inspections
    detectedDiscs := next.detectedDiscs
    storage := next.storage
    activeEncodeWork := next.activeEncodeWork
    damagePreviewHolds := next.damagePreviewHolds })

/-- The recovery, its work row and its evidence are as they were. -/
structure Aside (c c' : Catalog) : Prop where
  evidence : c'.archive = c.archive ∧ c'.header = c.header ∧ c'.manifests = c.manifests ∧
    c'.recoveryReads = c.recoveryReads
  source : c'.sourceManifest = c.sourceManifest
  recovery : c'.recovery = c.recovery
  work : c'.work = c.work
  verifications : VerificationsChange c c'.verifications

theorem Aside.refl (c : Catalog) : Aside c c :=
  ⟨⟨rfl, rfl, rfl, rfl⟩, rfl, rfl, rfl, .inr id⟩

/-- The claim columns of a claimed row that its holder touches. -/
structure Touched (c c' : Catalog) : Prop where
  row : ∃ work claimedAt updatedAt confirmations, c.work = some work ∧ work.status = .claimed ∧
    c' = { c with
      confirmations
      work := some { work with claimedAt, updatedAt } }

/-- What a committed transaction has done, by what it does to the recovery and its work row. -/
inductive RecoveryOperation.Effect (timestamp : Nat) (c c' : Catalog) :
    RecoveryOperation → Prop where
  | aside (op : RecoveryOperation) (h : Aside c c') : Effect timestamp c c' op
  | touched (op : RecoveryOperation) (h : Touched c c') : Effect timestamp c c' op
  | claimed {pass : ArchiveRecoveryPass}
      (h : ClaimedCandidate c workerId claimToken timestamp verification confirmation pass c') :
    Effect timestamp c c' (.claimNextVerifiedCandidate workerId claimToken)
  | takenOver (work : ArchiveRecoveryWork) (hheld : heldWork c claim = some work)
    (hrunning : runningAttempt c claim) (he : c' = { c with work := some { work with
      claimedBy := some workerId
      claimToken := some claimToken
      claimedAt := some timestamp
      updatedAt := timestamp } }) :
    Effect timestamp c c' (.beginInterruptedTakeover claim workerId claimToken)
  | projected (hclaim : ∀ claim ∈ input.claim, ∃ work,
      requireCurrentArchiveRecoveryClaim c claim = .ok work) (h : Advances input c c') :
    Effect timestamp c c' (.projectDvdRecoveryCheckpoint input)
  | settled (hclaim : requireCurrentArchiveRecoveryClaim c claim = .ok work)
    (h : PassSettled c work timestamp settlement c') :
    Effect timestamp c c' (.settlePass claim newVerificationId)
  | faulted (hclaim : requireCurrentArchiveRecoveryClaim c claim = .ok work)
    (hrunning : c.recovery.status = .running)
    (hvalid : (c.recovery.faultedWith faultCode storageFault timestamp).Valid)
    (he : c' = { c with
      work := if retainWork then c.work else none
      recovery := c.recovery.faultedWith faultCode storageFault timestamp }) :
    Effect timestamp c c' (.markFault claim faultCode retainWork storageFault)
  | released (hstatus : c.recovery.status ∉ [ArchiveRecoveryStatus.running, .stopping])
    (hwork : c.work ≠ none) (he : c' = { c with work := none }) :
    Effect timestamp c c' (.releaseAfterReconciliation attemptId)
  | abandoned (h : PassInterrupted c timestamp settlement none c') :
    Effect timestamp c c' (.releaseAfterReconciliation attemptId)
  | requeued (hclaim : requireCurrentArchiveRecoveryClaim c claim = .ok work)
    (h : PassInterrupted c timestamp settlement
      (if settlement.1 = .completed then none else some (work.requeued timestamp)) c') :
    Effect timestamp c c' (.requeue claim)
  | resumed (h : Resumed c input attemptId resumeOperationId newVerificationId timestamp c') :
    Effect timestamp c c' (.requestResume input attemptId resumeOperationId insertion
      newVerificationId)
  | activated (h : Activated c newVerificationId timestamp c') :
    Effect timestamp c c' (.activateWaitingResume insertion newVerificationId)
  | stopping (hattempt : c.recovery.attemptId = attemptId)
    (hstatus : c.recovery.status ∈
      [ArchiveRecoveryStatus.eligible, .waitingForDisc, .running, .paused])
    (hvalid : (c.recovery.stopping stopOperationId timestamp).Valid)
    (work : ArchiveRecoveryWork) (verifications : List DvdDiscVerification)
    (hwork : c.work = some work ∨ c.work = none ∧
      work = c.recovery.requestedWork .initial timestamp)
    (he : c' = { c with
      verifications
      work := some work
      recovery := c.recovery.stopping stopOperationId timestamp }) :
    Effect timestamp c c' (.requestStop archiveRecoveryId attemptId stopOperationId)
  | stopped (hstopping : c.recovery.status = .stopping) (hactive : ¬activeVerification c)
    (hvalid : ArchiveRecovery.Valid { c.recovery with
      status := .stopped
      stoppedAt := some timestamp
      updatedAt := timestamp })
    (he : c' = { c with
      work := none
      recovery := { c.recovery with
        status := .stopped
        stoppedAt := some timestamp
        updatedAt := timestamp } }) :
    Effect timestamp c c' (.completeStop archiveRecoveryId attemptId stopOperationId)
  | stopDeferred (hstopping : c.recovery.status = .stopping)
    (hvalid : ArchiveRecovery.Valid { c.recovery with updatedAt })
    (he : c' = { c with recovery := { c.recovery with updatedAt } }) :
    Effect timestamp c c' (.deferStop archiveRecoveryId attemptId stopOperationId latestStopping)
  | stopFaulted (hstopping : c.recovery.status = .stopping)
    (hvalid : ArchiveRecovery.Valid { c.recovery with
      status := .faulted
      stoppedAt := none
      faultCode := some faultCode
      updatedAt := timestamp })
    (he : c' = { c with recovery := { c.recovery with
      status := .faulted
      stoppedAt := none
      faultCode := some faultCode
      updatedAt := timestamp } }) :
    Effect timestamp c c' (.markStopFault archiveRecoveryId attemptId stopOperationId faultCode)
  | confirmed (work : ArchiveRecoveryWork) (confirmations : List DvdDiscConfirmation)
    (confirmationId : String) (hwaiting : waitingResumeConfirmation c input.verificationId)
    (hwork : c.work = some work)
    (hvalid : ArchiveRecovery.Valid { c.recovery with
      status := .eligible
      updatedAt := timestamp })
    (he : c' = { c with
      confirmations
      work := some { work with
        discConfirmationId := some confirmationId
        updatedAt := timestamp }
      recovery := { c.recovery with
        status := .eligible
        updatedAt := timestamp } }) :
    Effect timestamp c c' (.recordConfirmation input newId)
  | verified (op : RecoveryOperation)
    (h : Relation.ReflTransGen (fun d d' => VerificationSettles d timestamp d') c c') :
    Effect timestamp c c' op

theorem Touched.of_held (hheld : heldWork c claim = some work) (claimedAt : Option Nat)
    (updatedAt : Nat) : Touched c { c with work := some { work with claimedAt, updatedAt } } := by
  obtain ⟨hwork, -, -, hclaimed, -⟩ := heldWork_some.1 hheld
  exact ⟨work, claimedAt, updatedAt, c.confirmations, hwork, hclaimed, rfl⟩

theorem aside_verifications (h : ∃ verifications, VerificationsChange c verifications ∧
    c' = { c with verifications }) : Aside c c' := by
  obtain ⟨verifications, hchange, rfl⟩ := h
  exact ⟨⟨rfl, rfl, rfl, rfl⟩, rfl, rfl, rfl, hchange⟩

theorem aside_confirmations (h : ∃ confirmations, c' = { c with confirmations }) : Aside c c' := by
  obtain ⟨confirmations, rfl⟩ := h
  exact ⟨⟨rfl, rfl, rfl, rfl⟩, rfl, rfl, rfl, .inr id⟩

theorem aside_reconciliations (h : ∃ reconciliations, c' = { c with reconciliations }) :
    Aside c c' := by
  obtain ⟨reconciliations, rfl⟩ := h
  exact ⟨⟨rfl, rfl, rfl, rfl⟩, rfl, rfl, rfl, .inr id⟩

/-- Every committed transaction has its effect. -/
theorem RecoveryOperation.run_effect {op : RecoveryOperation}
    (h : op.run sha256 timestamp c = .ok (returned, c')) : op.Effect timestamp c c' := by
  cases op with
  | claimNextVerifiedCandidate workerId claimToken =>
    obtain ⟨claim, hc, -⟩ := finds_ok.1 h
    rcases claimNextVerifiedCandidate_ok hc with ⟨-, hs⟩ | ⟨_, _, _, hclaimed, -⟩
    · exact .aside _ (aside_confirmations hs)
    · exact .claimed hclaimed
  | beginInterruptedTakeover claim workerId claimToken =>
    obtain ⟨taken, ht, -⟩ := finds_ok.1 h
    rcases beginInterruptedTakeover_ok ht with ⟨-, rfl⟩ | ⟨work, hheld, hrunning, he⟩
    · exact .aside _ (.refl _)
    · exact .takenOver work hheld hrunning he
  | deferInterruptedTakeover claim =>
    rcases deferInterruptedTakeover_eq (Except.ok.inj h) with ⟨-, rfl⟩ | ⟨work, hheld, rfl⟩
    · exact .aside _ (.refl _)
    · exact .touched _ (.of_held hheld _ _)
  | renewClaim claim =>
    rcases renewClaim_eq (Except.ok.inj h) with ⟨-, rfl⟩ | ⟨work, hheld, rfl⟩
    · exact .aside _ (.refl _)
    · exact .touched _ (.of_held hheld _ _)
  | admitSourceRead claim driveReady =>
    obtain ⟨work, confirmations, hclaim, -, rfl | rfl⟩ := admitSourceRead_ok h
    · exact .aside _ (aside_confirmations ⟨confirmations, rfl⟩)
    · obtain ⟨hwork, -, -, hclaimed, -⟩ := requireCurrentArchiveRecoveryClaim_ok.1 hclaim
      exact .touched _ ⟨work, work.claimedAt, timestamp, confirmations, hwork, hclaimed, rfl⟩
  | projectDvdRecoveryCheckpoint input =>
    obtain ⟨header, hp⟩ := commits_snd_ok h
    obtain ⟨-, hclaim, ⟨rfl, -⟩ | hadvances⟩ := projectDvdRecoveryCheckpoint_ok sha256 hp
    · exact .aside _ (.refl _)
    · exact .projected hclaim hadvances
  | settlePass claim newVerificationId =>
    obtain ⟨recovery, hs⟩ := commits_snd_ok h
    obtain ⟨work, hclaim, rfl | ⟨settlement, hsettled⟩⟩ := settlePass_ok hs
    · exact .aside _ (.refl _)
    · exact .settled hclaim hsettled
  | markFault claim faultCode retainWork storageFault =>
    obtain ⟨recovery, hm⟩ := commits_snd_ok h
    obtain ⟨work, hclaim, rfl | ⟨hrunning, hvalid, he⟩⟩ := markFault_ok hm
    · exact .aside _ (.refl _)
    · exact .faulted hclaim hrunning hvalid he
  | releaseAfterReconciliation attemptId =>
    obtain ⟨recovery, hr⟩ := commits_snd_ok h
    obtain ⟨-, rfl | ⟨hstatus, hwork, he⟩ | ⟨settlement, hinterrupted⟩⟩ :=
      releaseAfterReconciliation_ok hr
    · exact .aside _ (.refl _)
    · exact .released hstatus hwork he
    · exact .abandoned hinterrupted
  | requeue claim =>
    obtain ⟨recovery, hr⟩ := commits_snd_ok h
    obtain ⟨work, hclaim, rfl | ⟨settlement, hinterrupted⟩⟩ := requeue_ok hr
    · exact .aside _ (.refl _)
    · exact .requeued hclaim hinterrupted
  | requestResume input attemptId resumeOperationId insertion newVerificationId =>
    exact .resumed (requestResume_ok (commits_ok.1 h).2)
  | activateWaitingResume insertion newVerificationId =>
    rcases activateWaitingResume_ok h with rfl | hactivated
    · exact .aside _ (.refl _)
    · exact .activated hactivated
  | requestStop archiveRecoveryId attemptId stopOperationId =>
    obtain ⟨hattempt, hstatus, hvalid, work, verifications, hwork, he⟩ :=
      requestStop_ok (commits_ok.1 h).2
    exact .stopping hattempt hstatus hvalid work verifications hwork he
  | prepareStop archiveRecoveryId attemptId stopOperationId quiescedClaim evaluate =>
    exact .aside _ (aside_verifications (prepareStop_ok h).2)
  | completeStop archiveRecoveryId attemptId stopOperationId =>
    obtain ⟨⟨-, hstopping⟩, hactive, hvalid, he⟩ := completeStop_ok (commits_ok.1 h).2
    exact .stopped hstopping hactive hvalid he
  | deferStop archiveRecoveryId attemptId stopOperationId latestStopping =>
    obtain ⟨⟨-, hstopping⟩, updatedAt, hvalid, he⟩ := deferStop_ok (commits_ok.1 h).2
    exact .stopDeferred hstopping hvalid he
  | markStopFault archiveRecoveryId attemptId stopOperationId faultCode =>
    obtain ⟨⟨-, hstopping⟩, hvalid, he⟩ := markStopFault_ok (commits_ok.1 h).2
    exact .stopFaulted hstopping hvalid he
  | recordConfirmation input newId =>
    obtain ⟨confirmation, hr⟩ := commits_snd_ok h
    obtain ⟨confirmations, ⟨-, he⟩ | ⟨work, hwaiting, hwork, hvalid, he⟩⟩ :=
      recordConfirmation_ok hr
    · exact .aside _ (aside_confirmations ⟨confirmations, he⟩)
    · exact .confirmed work confirmations _ hwaiting hwork hvalid he
  | expireConfirmation id =>
    cases h
    exact .aside _ (aside_confirmations ⟨_, rfl⟩)
  | expireForWorkerExecution workerExecutionId confirmationId =>
    exact .aside _ (aside_confirmations
      (expireInvalidDvdDiscConfirmations_ok (commits_ok.1 h).2))
  | submitVerification discInspectionId checkpointRevision checkpointDigest newId =>
    obtain ⟨heligible, row, he⟩ := submitVerification_ok (commits_ok.1 h).2
    exact .aside _ (aside_verifications ⟨_, .inl heligible, he⟩)
  | claimNextVerification workerExecutionId claimToken =>
    obtain ⟨claim, hc, -⟩ := finds_ok.1 h
    exact .aside _ (aside_verifications (claimNextVerification_ok hc))
  | renewVerificationClaim claim =>
    exact .aside _ (aside_verifications (renewVerificationClaim_eq (Except.ok.inj h)))
  | completeVerification claim evaluated newId =>
    exact .verified _ (.single (completeVerification_ok (commits_ok.1 h).2))
  | failVerification claim newId =>
    rcases failVerification_ok h with rfl | hsettles
    · exact .aside _ (.refl _)
    · exact .verified _ (.single hsettles)
  | recoverExpiredVerifications evaluate newId =>
    exact .verified _ (recoverExpiredVerifications_keeps (I := Relation.ReflTransGen _ c)
      (fun d d' hs hd => hd.tail hs) (commits_ok.1 h).2 .refl)
  | submitReconciliation =>
    exact .aside _ (aside_reconciliations (submitReconciliation_ok (commits_ok.1 h).2))
  | recoverExpiredReconciliations =>
    cases h
    exact .aside _ (aside_reconciliations ⟨_, rfl⟩)
  | claimNextReconciliation workerExecutionId claimToken =>
    obtain ⟨claim, hc, -⟩ := finds_ok.1 h
    exact .aside _ (aside_reconciliations (claimNextReconciliation_ok hc))
  | renewReconciliation claim =>
    cases h
    exact .aside _ (aside_reconciliations ⟨_, rfl⟩)
  | requeueReconciliation claim =>
    cases h
    exact .aside _ (aside_reconciliations ⟨_, rfl⟩)
  | completeReconciliation claim converged =>
    exact .aside _ (aside_reconciliations (completeReconciliation_ok (commits_ok.1 h).2))
  | failReconciliation claim =>
    cases h
    exact .aside _ (aside_reconciliations ⟨_, rfl⟩)
  | surroundings next =>
    cases h
    exact .aside _ ⟨⟨rfl, rfl, rfl, rfl⟩, rfl, rfl, rfl, .inr id⟩

/-- The identifiers a transaction generates for claims and attempts. -/
def RecoveryOperation.issues : RecoveryOperation → List String
  | .claimNextVerifiedCandidate _ claimToken => [claimToken]
  | .beginInterruptedTakeover _ _ claimToken => [claimToken]
  | .requestResume _ attemptId _ _ _ => [attemptId]
  | _ => []

/-- The catalog, and every identifier generated so far. -/
structure RecoverySystem where
  catalog : Catalog
  issued : List String

/-- Commit a transaction; an identifier is never generated twice. -/
def RecoverySystem.perform (s : RecoverySystem) (timestamp : Nat) (op : RecoveryOperation) :
    Option RecoverySystem :=
  if ∀ newId ∈ op.issues, newId ∉ s.issued then
    match op.run sha256 timestamp s.catalog with
    | .ok (_, catalog) => some ⟨catalog, op.issues ++ s.issued⟩
    | .error _ => none
  else none

/-- Some worker or operator commits a transaction. -/
def RecoverySystem.Step (s : RecoverySystem) (op : RecoveryOperation)
    (s' : RecoverySystem) : Prop :=
  ∃ timestamp, s.perform sha256 timestamp op = some s'

theorem RecoverySystem.step_iff : RecoverySystem.Step sha256 s op s' ↔
    (∀ newId ∈ op.issues, newId ∉ s.issued) ∧ s'.issued = op.issues ++ s.issued ∧
      ∃ timestamp returned, op.run sha256 timestamp s.catalog = .ok (returned, s'.catalog) := by
  constructor
  · intro ⟨timestamp, h⟩
    rw [perform] at h
    split at h
    · next hfresh =>
      split at h
      · next returned catalog hrun =>
        cases h
        exact ⟨hfresh, rfl, timestamp, returned, hrun⟩
      · cases h
    · cases h
  · intro ⟨hfresh, hissued, timestamp, returned, hrun⟩
    refine ⟨timestamp, ?_⟩
    rw [perform, if_pos hfresh, hrun, ← hissued]

/-- Commit transactions one after the other. -/
def RecoverySystem.performAll (s : RecoverySystem) :
    List (Nat × RecoveryOperation) → Option RecoverySystem
  | [] => some s
  | (timestamp, op) :: rest =>
    (s.perform sha256 timestamp op).bind fun next => next.performAll rest

theorem RecoverySystem.run_of_performAll (h : RecoverySystem.performAll sha256 s ops = some s') :
    Run (RecoverySystem.Step sha256) s (ops.map Prod.snd) s' := by
  induction ops generalizing s with
  | nil =>
    cases h
    exact .nil _
  | cons op rest ih =>
    obtain ⟨next, hnext, hrest⟩ := Option.bind_eq_some_iff.1 h
    exact .cons ⟨op.1, hnext⟩ (ih hrest)

/-- The recovery that the publication of an archive inserts. -/
def publishedRecovery (newId originalDiscArchiveId attemptId : String)
    (ranges : List UnrecoveredSourceRange) (timestamp : Nat) : ArchiveRecovery where
  id := newId
  originalDiscArchiveId
  attemptId
  attemptOrdinal := 1
  status := if ranges.length ≠ 0 then .eligible else .completed
  pauseReason := none
  passHistory := []
  resumeOperationId := none
  resumeCheckpointRevision := none
  resumeCheckpointDigest := none
  stopOperationId := none
  stopRequestedAt := none
  stoppedAt := none
  faultCode := none
  updatedAt := timestamp

/-- An archive as its publication leaves it. -/
structure JustPublished (c : Catalog) : Prop where
  aligned : Aligned c
  recovery : ∃ current, c.currentManifest = some current ∧ c.recovery = publishedRecovery
    c.recovery.id c.archive.id c.recovery.attemptId current.unrecoveredSourceRanges
    c.recovery.updatedAt
  ranges : ∀ current, c.currentManifest = some current → Canonical current.unrecoveredSourceRanges
  work : c.work = none
  evidence : c.header.currentManifestRevision = 1 ∧ c.manifests.length = 1 ∧ c.recoveryReads = []
  verifications : c.verifications = [] ∧ c.confirmations = [] ∧ c.reconciliations = []
  sampled : SourceBound c

/-- A published archive, with the identifier of its first attempt. -/
def RecoverySystem.Initial (s : RecoverySystem) : Prop :=
  JustPublished s.catalog ∧ s.issued = [s.catalog.recovery.attemptId]

def publishedCatalog : Catalog := { sampleCatalog with
  recovery := publishedRecovery "recovery" "archive" "attempt"
    sampleManifest.unrecoveredSourceRanges 0
  work := none
  verifications := [] }

def publishedSystem : RecoverySystem := ⟨publishedCatalog, ["attempt"]⟩

theorem publishedCatalog_sampled : SourceBound publishedCatalog := by
  intro manifest hmanifest
  cases hmanifest
  exact ⟨rfl, rfl⟩

theorem publishedSystem_initial : RecoverySystem.Initial publishedSystem := by
  refine ⟨⟨⟨⟨rfl, rfl⟩, ⟨_, rfl, rfl, rfl, rfl, ⟨rfl, rfl, rfl, rfl, rfl⟩⟩, by decide⟩,
    ⟨_, rfl, rfl⟩,
    fun current hc => ?_, rfl, ⟨rfl, rfl, rfl⟩, ⟨rfl, rfl, rfl⟩, publishedCatalog_sampled⟩, rfl⟩
  cases hc
  exact ⟨by decide, .singleton _⟩

/-- A disc is verified, and a worker claims the pass. -/
def firstClaimRun : List (Nat × RecoveryOperation) := [
  (1, .submitVerification "inspection" 1 1 "verification"),
  (2, .claimNextVerification "worker" "verification-token"),
  (3, .completeVerification ⟨"verification", "verification-token"⟩ ⟨.match, [], 0⟩ "unused"),
  (4, .claimNextVerifiedCandidate "worker" "token")]

end RipDvd
