import RipDvd.PassSettlement

namespace RipDvd
set_option autoImplicit true

/-- The tables of a recovery's verifications, confirmations and reconciliations. -/
inductive RecoveryTable where
  | verifications
  | confirmations
  | reconciliations
  deriving DecidableEq

/-- The table a transaction may write to. -/
def RecoveryOperation.table : RecoveryOperation → Option RecoveryTable
  | .settlePass _ _ => some .verifications
  | .requestResume _ _ _ _ _ => some .verifications
  | .activateWaitingResume _ _ => some .verifications
  | .requestStop _ _ _ => some .verifications
  | .prepareStop _ _ _ _ _ => some .verifications
  | .submitVerification _ _ _ _ => some .verifications
  | .claimNextVerification _ _ => some .verifications
  | .renewVerificationClaim _ => some .verifications
  | .completeVerification _ _ _ => some .verifications
  | .failVerification _ _ => some .verifications
  | .recoverExpiredVerifications _ _ => some .verifications
  | .claimNextVerifiedCandidate _ _ => some .confirmations
  | .admitSourceRead _ _ => some .confirmations
  | .recordConfirmation _ _ => some .confirmations
  | .expireConfirmation _ => some .confirmations
  | .expireForWorkerExecution _ _ => some .confirmations
  | .submitReconciliation => some .reconciliations
  | .recoverExpiredReconciliations => some .reconciliations
  | .claimNextReconciliation _ _ => some .reconciliations
  | .renewReconciliation _ => some .reconciliations
  | .requeueReconciliation _ => some .reconciliations
  | .completeReconciliation _ _ => some .reconciliations
  | .failReconciliation _ => some .reconciliations
  | _ => none

/-- Only the one table may have changed. -/
structure OthersKept (table : Option RecoveryTable) (c c' : Catalog) : Prop where
  verifications : table ≠ some .verifications → c'.verifications = c.verifications
  confirmations : table ≠ some .confirmations → c'.confirmations = c.confirmations
  reconciliations : table ≠ some .reconciliations → c'.reconciliations = c.reconciliations

theorem OthersKept.same {c c' : Catalog} (hverifications : c'.verifications = c.verifications)
    (hconfirmations : c'.confirmations = c.confirmations)
    (hreconciliations : c'.reconciliations = c.reconciliations) : OthersKept table c c' :=
  ⟨fun _ => hverifications, fun _ => hconfirmations, fun _ => hreconciliations⟩

theorem OthersKept.verified {c c' : Catalog} (hconfirmations : c'.confirmations = c.confirmations)
    (hreconciliations : c'.reconciliations = c.reconciliations) :
    OthersKept (some .verifications) c c' :=
  ⟨fun hnot => absurd rfl hnot, fun _ => hconfirmations, fun _ => hreconciliations⟩

theorem OthersKept.confirmed {c c' : Catalog} (hverifications : c'.verifications = c.verifications)
    (hreconciliations : c'.reconciliations = c.reconciliations) :
    OthersKept (some .confirmations) c c' :=
  ⟨fun _ => hverifications, fun hnot => absurd rfl hnot, fun _ => hreconciliations⟩

theorem OthersKept.reconciled {c c' : Catalog} (hverifications : c'.verifications = c.verifications)
    (hconfirmations : c'.confirmations = c.confirmations) :
    OthersKept (some .reconciliations) c c' :=
  ⟨fun _ => hverifications, fun _ => hconfirmations, fun hnot => absurd rfl hnot⟩

theorem VerificationSettles.othersKept (h : VerificationSettles c timestamp c') :
    c'.confirmations = c.confirmations ∧ c'.reconciliations = c.reconciliations := by
  obtain ⟨row, -, hcontinues⟩ := h
  cases hcontinues <;> exact ⟨rfl, rfl⟩

variable (sha256 : Hashed → Digest)

/-- A transaction writes to no table but its own. -/
theorem RecoveryOperation.run_others {op : RecoveryOperation}
    (h : op.run sha256 timestamp c = .ok (returned, c')) : OthersKept op.table c c' := by
  cases op with
  | claimNextVerifiedCandidate workerId claimToken =>
    obtain ⟨claim, hc, -⟩ := finds_ok.1 h
    obtain ⟨-, _, rfl⟩ | ⟨_, _, _, hclaimed, -⟩ := claimNextVerifiedCandidate_ok hc
    · exact .confirmed rfl rfl
    · obtain ⟨_, rfl⟩ := hclaimed.claimed
      exact .confirmed rfl rfl
  | admitSourceRead claim driveReady =>
    obtain ⟨work, confirmations, -, -, rfl | rfl⟩ := admitSourceRead_ok h
    · exact .confirmed rfl rfl
    · exact .confirmed rfl rfl
  | recordConfirmation input newId =>
    obtain ⟨confirmation, hr⟩ := commits_snd_ok h
    obtain ⟨confirmations, ⟨-, rfl⟩ | ⟨work, -, -, -, rfl⟩⟩ := recordConfirmation_ok hr
    · exact .confirmed rfl rfl
    · exact .confirmed rfl rfl
  | expireConfirmation id =>
    cases h
    exact .confirmed rfl rfl
  | expireForWorkerExecution workerExecutionId confirmationId =>
    obtain ⟨_, rfl⟩ := expireInvalidDvdDiscConfirmations_ok (commits_ok.1 h).2
    exact .confirmed rfl rfl
  | beginInterruptedTakeover claim workerId claimToken =>
    obtain ⟨taken, ht, -⟩ := finds_ok.1 h
    obtain ⟨-, rfl⟩ | ⟨work, -, -, rfl⟩ := beginInterruptedTakeover_ok ht
    · exact .same rfl rfl rfl
    · exact .same rfl rfl rfl
  | deferInterruptedTakeover claim =>
    obtain ⟨-, rfl⟩ | ⟨work, -, rfl⟩ := deferInterruptedTakeover_eq (Except.ok.inj h)
    · exact .same rfl rfl rfl
    · exact .same rfl rfl rfl
  | renewClaim claim =>
    obtain ⟨-, rfl⟩ | ⟨work, -, rfl⟩ := renewClaim_eq (Except.ok.inj h)
    · exact .same rfl rfl rfl
    · exact .same rfl rfl rfl
  | projectDvdRecoveryCheckpoint input =>
    obtain ⟨header, hp⟩ := commits_snd_ok h
    obtain ⟨-, -, ⟨rfl, -⟩ | hadvances⟩ := projectDvdRecoveryCheckpoint_ok sha256 hp
    · exact .same rfl rfl rfl
    · obtain ⟨_, _, _, _, -, rfl, -⟩ := hadvances.written
      exact .same rfl rfl rfl
  | settlePass claim newVerificationId =>
    obtain ⟨recovery, hs⟩ := commits_snd_ok h
    obtain ⟨work, -, rfl | ⟨settlement, hsettled⟩⟩ := settlePass_ok hs
    · exact .verified rfl rfl
    · obtain ⟨_, _, -, rfl⟩ := hsettled.rows
      exact .verified rfl rfl
  | markFault claim faultCode retainWork storageFault =>
    obtain ⟨recovery, hm⟩ := commits_snd_ok h
    obtain ⟨work, -, rfl | ⟨-, -, rfl⟩⟩ := markFault_ok hm
    · exact .same rfl rfl rfl
    · exact .same rfl rfl rfl
  | releaseAfterReconciliation attemptId =>
    obtain ⟨recovery, hr⟩ := commits_snd_ok h
    obtain ⟨-, rfl | ⟨-, -, rfl⟩ | ⟨settlement, -, -, -, rfl, -⟩⟩ :=
      releaseAfterReconciliation_ok hr
    · exact .same rfl rfl rfl
    · exact .same rfl rfl rfl
    · exact .same rfl rfl rfl
  | requeue claim =>
    obtain ⟨recovery, hr⟩ := commits_snd_ok h
    obtain ⟨work, -, rfl | ⟨settlement, -, -, -, rfl, -⟩⟩ := requeue_ok hr
    · exact .same rfl rfl rfl
    · exact .same rfl rfl rfl
  | requestResume input attemptId resumeOperationId insertion newVerificationId =>
    obtain rfl | hactivated := (requestResume_ok (commits_ok.1 h).2).result
    · exact .verified rfl rfl
    · obtain ⟨_, _, -, -, rfl⟩ := hactivated.rows
      exact .verified rfl rfl
  | activateWaitingResume insertion newVerificationId =>
    obtain rfl | hactivated := activateWaitingResume_ok h
    · exact .verified rfl rfl
    · obtain ⟨_, _, -, -, rfl⟩ := hactivated.rows
      exact .verified rfl rfl
  | requestStop archiveRecoveryId attemptId stopOperationId =>
    obtain ⟨-, -, -, _, _, -, rfl⟩ := requestStop_ok (commits_ok.1 h).2
    exact .verified rfl rfl
  | prepareStop archiveRecoveryId attemptId stopOperationId quiescedClaim evaluate =>
    obtain ⟨-, _, -, rfl⟩ := prepareStop_ok h
    exact .verified rfl rfl
  | completeStop archiveRecoveryId attemptId stopOperationId =>
    obtain ⟨-, -, -, rfl⟩ := completeStop_ok (commits_ok.1 h).2
    exact .same rfl rfl rfl
  | deferStop archiveRecoveryId attemptId stopOperationId latestStopping =>
    obtain ⟨-, updatedAt, -, rfl⟩ := deferStop_ok (commits_ok.1 h).2
    exact .same rfl rfl rfl
  | markStopFault archiveRecoveryId attemptId stopOperationId faultCode =>
    obtain ⟨-, -, rfl⟩ := markStopFault_ok (commits_ok.1 h).2
    exact .same rfl rfl rfl
  | submitVerification discInspectionId checkpointRevision checkpointDigest newId =>
    obtain ⟨-, _, rfl⟩ := submitVerification_ok (commits_ok.1 h).2
    exact .verified rfl rfl
  | claimNextVerification workerExecutionId claimToken =>
    obtain ⟨claim, hc, -⟩ := finds_ok.1 h
    obtain ⟨_, -, rfl⟩ := claimNextVerification_ok hc
    exact .verified rfl rfl
  | renewVerificationClaim claim =>
    obtain ⟨_, -, rfl⟩ := renewVerificationClaim_eq (Except.ok.inj h)
    exact .verified rfl rfl
  | completeVerification claim evaluated newId =>
    obtain ⟨hconfirmations, hreconciliations⟩ :=
      (completeVerification_ok (commits_ok.1 h).2).othersKept
    exact .verified hconfirmations hreconciliations
  | failVerification claim newId =>
    obtain rfl | hsettles := failVerification_ok h
    · exact .verified rfl rfl
    · exact .verified hsettles.othersKept.1 hsettles.othersKept.2
  | recoverExpiredVerifications evaluate newId =>
    have hkept := recoverExpiredVerifications_keeps (I := fun d =>
        d.confirmations = c.confirmations ∧ d.reconciliations = c.reconciliations)
      (fun _ _ hsettles hsame => ⟨hsettles.othersKept.1.trans hsame.1,
        hsettles.othersKept.2.trans hsame.2⟩) (commits_ok.1 h).2 ⟨rfl, rfl⟩
    exact .verified hkept.1 hkept.2
  | submitReconciliation =>
    obtain ⟨_, rfl⟩ := submitReconciliation_ok (commits_ok.1 h).2
    exact .reconciled rfl rfl
  | recoverExpiredReconciliations =>
    cases h
    exact .reconciled rfl rfl
  | claimNextReconciliation workerExecutionId claimToken =>
    obtain ⟨claim, hc, -⟩ := finds_ok.1 h
    obtain ⟨_, rfl⟩ := claimNextReconciliation_ok hc
    exact .reconciled rfl rfl
  | renewReconciliation claim =>
    cases h
    exact .reconciled rfl rfl
  | requeueReconciliation claim =>
    cases h
    exact .reconciled rfl rfl
  | completeReconciliation claim converged =>
    obtain ⟨_, rfl⟩ := completeReconciliation_ok (commits_ok.1 h).2
    exact .reconciled rfl rfl
  | failReconciliation claim =>
    cases h
    exact .reconciled rfl rfl
  | surroundings next =>
    cases h
    exact .same rfl rfl rfl

end RipDvd
