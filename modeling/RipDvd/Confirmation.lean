import RipDvd.Batch

namespace RipDvd
set_option autoImplicit true

/-- `WhiteSpace` and `LineTerminator` characters. -/
def isWhiteSpace (c : Char) : Bool :=
  c.toNat ∈ [0x09, 0x0A, 0x0B, 0x0C, 0x0D, 0x20, 0xA0, 0x1680, 0x2028, 0x2029, 0x202F, 0x205F,
    0x3000, 0xFEFF] || (0x2000 ≤ c.toNat && c.toNat ≤ 0x200A)

/-- `String.prototype.trim`. -/
def trim (s : String) : String :=
  String.ofList ((s.toList.dropWhile isWhiteSpace).reverse.dropWhile isWhiteSpace).reverse

inductive DvdDiscConfirmationExpiryReason where
  | recoveryAttemptChanged
  | discVerificationChanged
  | discVerificationResultChanged
  | workerExecutionChanged
  | discInsertionChanged
  | discCheckpointChanged
  deriving DecidableEq

def requireNonEmpty (value field : String) : Except DomainError String := do
  rejectIf (value.length = 0) (.invariant s!"{field} must not be empty")
  return value

/-- The work row writes under this confirmation. -/
def ArchiveRecoveryWork.BoundTo (work : ArchiveRecoveryWork)
    (confirmation : DvdDiscConfirmation) : Prop :=
  work.verificationId = some confirmation.verificationId ∧
    work.discConfirmationId = some confirmation.id

instance (work : ArchiveRecoveryWork) (confirmation : DvdDiscConfirmation) :
    Decidable (work.BoundTo confirmation) :=
  inferInstanceAs (Decidable (_ ∧ _))

/-- A pass in progress has moved the checkpoint on under this confirmation. -/
def boundDescendant (c : Catalog) (confirmation : DvdDiscConfirmation) : Prop :=
  (∃ work ∈ c.work, work.BoundTo confirmation) ∧
    confirmation.checkpointRevision < c.header.currentManifestRevision

instance (c : Catalog) (confirmation : DvdDiscConfirmation) :
    Decidable (boundDescendant c confirmation) :=
  inferInstanceAs (Decidable (_ ∧ _))

/-- The worker that verified the disc holds a live claim under this confirmation. -/
def liveBoundClaim (c : Catalog) (confirmation : DvdDiscConfirmation) (timestamp : Nat) : Prop :=
  ∃ work ∈ c.work, work.status = .claimed ∧ work.BoundTo confirmation ∧
    work.claimedBy = some confirmation.verificationWorkerExecutionId ∧
    ∃ claimedAt ∈ work.claimedAt, timestamp - DVD_RECOVERY_PASS_CLAIM_LEASE_MS ≤ claimedAt

instance (c : Catalog) (confirmation : DvdDiscConfirmation) (timestamp : Nat) :
    Decidable (liveBoundClaim c confirmation timestamp) :=
  inferInstanceAs (Decidable (∃ work ∈ c.work, _))

/-- The verification a confirmation was given for, as the confirmation records it. -/
def confirmedVerification (confirmation : DvdDiscConfirmation)
    (verification : DvdDiscVerification) : Prop :=
  verification.status = .completed ∧
  verification.outcome = some confirmation.verificationOutcome ∧
  verification.archiveRecoveryId = confirmation.archiveRecoveryId ∧
  verification.archiveRecoveryAttemptId = some confirmation.archiveRecoveryAttemptId ∧
  verification.originalDiscArchiveId = confirmation.originalDiscArchiveId ∧
  verification.discInspectionId = confirmation.discInspectionId ∧
  verification.detectedDiscId = confirmation.detectedDiscId ∧
  verification.mediaGeneration = confirmation.mediaGeneration ∧
  verification.workerExecutionId = some confirmation.verificationWorkerExecutionId ∧
  verification.checkpointRevision = confirmation.checkpointRevision ∧
  verification.checkpointDigest = confirmation.checkpointDigest

instance (confirmation : DvdDiscConfirmation) (verification : DvdDiscVerification) :
    Decidable (confirmedVerification confirmation verification) :=
  inferInstanceAs (Decidable (_ ∧ _))

/-- Why a confirmation no longer stands. -/
def confirmationExpiryReason (c : Catalog) (execution : String) (timestamp : Nat)
    (confirmation : DvdDiscConfirmation) : Option DvdDiscConfirmationExpiryReason :=
  if c.recovery.id ≠ confirmation.archiveRecoveryId ∨
      c.recovery.attemptId ≠ confirmation.archiveRecoveryAttemptId ∨
      c.recovery.originalDiscArchiveId ≠ confirmation.originalDiscArchiveId then
    some .recoveryAttemptChanged
  else match c.findVerification confirmation.verificationId with
  | none => some .discVerificationChanged
  | some verification =>
    if c.latestVerification.map (·.id) ≠ some verification.id ∨
        ¬confirmedVerification confirmation verification then some .discVerificationChanged
    else if verification.resultDigest ≠ confirmation.verificationResultDigest then
      some .discVerificationResultChanged
    else if confirmation.verificationWorkerExecutionId ≠ execution ∧
        ¬liveBoundClaim c confirmation timestamp then some .workerExecutionChanged
    else if ¬dvdDiscVerificationInsertionIsCurrent verification
        (c.findInspection verification.discInspectionId) then
      some .discInsertionChanged
    else if ¬boundDescendant c confirmation ∧
        (c.header.currentManifestRevision ≠ confirmation.checkpointRevision ∨
          c.header.currentManifestDigest ≠ confirmation.checkpointDigest) then
      some .discCheckpointChanged
    else none

/-- Expire every live confirmation, or the one asked for, that no longer stands. -/
def expireInvalidDvdDiscConfirmations (c : Catalog) (workerExecutionId : String)
    (confirmationId : Option String) (timestamp : Nat) : Except DomainError Catalog := do
  let execution ← requireNonEmpty (trim workerExecutionId)
    "DVD Disc Confirmation worker execution ID"
  return { c with confirmations := c.confirmations.map fun confirmation =>
    if confirmation.expiredAt = none ∧ (∀ id ∈ confirmationId, confirmation.id = id) ∧
        (confirmationExpiryReason c execution timestamp confirmation).isSome then
      { confirmation with expiredAt := some timestamp }
    else confirmation }

theorem requireNonEmpty_ok : requireNonEmpty value field = .ok v ↔ value.length ≠ 0 ∧
    value = v := by
  simp only [requireNonEmpty, bind_ok, rejectIf_ok, pure_ok]
  exact ⟨fun ⟨_, h, he⟩ => ⟨h, he⟩, fun ⟨h, he⟩ => ⟨(), h, he⟩⟩

/-- The sweep touches nothing but the confirmations. -/
theorem expireInvalidDvdDiscConfirmations_ok
    (h : expireInvalidDvdDiscConfirmations c execution confirmationId timestamp = .ok c') :
    ∃ confirmations, c' = { c with confirmations } := by
  obtain ⟨_, -, he⟩ := bind_ok.1 h
  exact ⟨_, (pure_ok.1 he).symm⟩

/-- `dvdDiscConfirmations.expireForWorkerExecution`. -/
def expireForWorkerExecution (workerExecutionId : String) (confirmationId : Option String)
    (timestamp : Nat) (c : Catalog) : Except DomainError Catalog :=
  expireInvalidDvdDiscConfirmations c workerExecutionId confirmationId timestamp

/-- `dvdDiscConfirmations.expire`: whether a live confirmation of this id was there. -/
def expireConfirmation (id : String) (timestamp : Nat) (c : Catalog) : Bool × Catalog :=
  (c.confirmations.any fun confirmation => confirmation.id = id && confirmation.expiredAt = none,
    { c with confirmations := c.confirmations.map fun confirmation =>
      if confirmation.id = id ∧ confirmation.expiredAt = none then
        { confirmation with expiredAt := some timestamp }
      else confirmation })

/-- What an operator confirms after a preview. -/
structure RecordDvdDiscConfirmationInput where
  archiveRecoveryId : String
  archiveRecoveryAttemptId : String
  originalDiscArchiveId : String
  verificationId : String
  discInspectionId : String
  detectedDiscId : String
  mediaGeneration : String
  verificationWorkerExecutionId : String
  verificationOutcome : DvdDiscVerificationOutcome
  verificationResultDigest : Digest
  checkpointRevision : Nat
  checkpointDigest : Digest
  acknowledgeMixedSource : Bool

/-- The verification the operator reviewed is still the latest one, with the result reviewed. -/
def reviewedVerification (c : Catalog) (input : RecordDvdDiscConfirmationInput)
    (verification : DvdDiscVerification) : Prop :=
  c.latestVerification.map (·.id) = some verification.id ∧
  verification.status = .completed ∧
  verification.outcome = some input.verificationOutcome ∧
  verification.archiveRecoveryId = c.recovery.id ∧
  verification.archiveRecoveryAttemptId = some c.recovery.attemptId ∧
  verification.archiveRecoveryAttemptId = some input.archiveRecoveryAttemptId ∧
  verification.originalDiscArchiveId = c.archive.id ∧
  verification.workerExecutionId = some input.verificationWorkerExecutionId ∧
  verification.resultDigest = input.verificationResultDigest ∧
  verification.checkpointRevision = input.checkpointRevision ∧
  verification.checkpointDigest = input.checkpointDigest ∧
  verification.discInspectionId = input.discInspectionId ∧
  verification.detectedDiscId = input.detectedDiscId ∧
  verification.mediaGeneration = input.mediaGeneration ∧
  dvdDiscVerificationInsertionIsCurrent verification
    (c.findInspection verification.discInspectionId)

instance (c : Catalog) (input : RecordDvdDiscConfirmationInput)
    (verification : DvdDiscVerification) : Decidable (reviewedVerification c input verification) :=
  inferInstanceAs (Decidable (_ ∧ _))

/-- Everything the operator saw in the preview is as it was. -/
def previewIsCurrent (c : Catalog) (input : RecordDvdDiscConfirmationInput) : Prop :=
  c.recovery.originalDiscArchiveId = input.originalDiscArchiveId ∧
  c.recovery.attemptId = input.archiveRecoveryAttemptId ∧
  c.header.currentManifestRevision = input.checkpointRevision ∧
  c.header.currentManifestDigest = input.checkpointDigest ∧
  ∃ verification ∈ c.findVerification input.verificationId,
    reviewedVerification c input verification

instance (c : Catalog) (input : RecordDvdDiscConfirmationInput) :
    Decidable (previewIsCurrent c input) :=
  inferInstanceAs (Decidable (_ ∧ _))

/-- The confirmation of a resumed recovery whose verification did not match. -/
def waitingResumeConfirmation (c : Catalog) (verificationId : String) : Prop :=
  c.recovery.status = .waitingForDisc ∧ c.recovery.resumeOperationId ≠ none ∧
    ∃ work ∈ c.work, work.status = .requested ∧ work.verificationId = some verificationId

instance (c : Catalog) (verificationId : String) :
    Decidable (waitingResumeConfirmation c verificationId) :=
  inferInstanceAs (Decidable (_ ∧ _))

def requireSupportedStorage (c : Catalog) : Except DomainError Unit :=
  rejectIf (∀ storage ∈ c.storage, storage.status ≠ "supported" ∨ storage.mutationProtection = none)
    .storageUnavailable

/-- The confirmation row an input asks for. -/
def RecordDvdDiscConfirmationInput.row (input : RecordDvdDiscConfirmationInput) (c : Catalog)
    (id : String) : DvdDiscConfirmation where
  id
  archiveRecoveryId := c.recovery.id
  archiveRecoveryAttemptId := c.recovery.attemptId
  originalDiscArchiveId := c.archive.id
  verificationId := input.verificationId
  discInspectionId := input.discInspectionId
  detectedDiscId := input.detectedDiscId
  mediaGeneration := input.mediaGeneration
  verificationWorkerExecutionId := input.verificationWorkerExecutionId
  verificationOutcome := input.verificationOutcome
  verificationResultDigest := input.verificationResultDigest
  checkpointRevision := input.checkpointRevision
  checkpointDigest := input.checkpointDigest
  acknowledgedMixedSource := true
  expiredAt := none

/-- The live confirmation of the verification, or a new one. -/
def recordedConfirmation (c : Catalog) (input : RecordDvdDiscConfirmationInput) (newId : String) :
    Except DomainError (DvdDiscConfirmation × Catalog) :=
  match c.confirmations.find? (·.verificationId = input.verificationId) with
  | some existing => do
    rejectIf (existing.expiredAt ≠ none)
      (.staleJobAttempt "DVD Disc Confirmation" input.verificationId)
    return (existing, c)
  | none => do
    rejectIf (∃ other ∈ c.confirmations, other.id = newId)
      (.constraint "dvd_disc_confirmations.id")
    let confirmation := input.row c newId
    return (confirmation, { c with confirmations := c.confirmations ++ [confirmation] })

/-- A confirmed resume can be claimed again. -/
def activateConfirmedResume (c : Catalog) (waiting : Prop) [Decidable waiting]
    (confirmation : DvdDiscConfirmation) (timestamp : Nat) : Except DomainError Catalog :=
  if ¬waiting then .ok c
  else match c.work with
  | none => .error (.recordNotFound "Archive Recovery work" c.recovery.id)
  | some work => do
    let bound ← writeWork c { work with
      discConfirmationId := some confirmation.id
      updatedAt := timestamp }
    updateArchiveRecovery bound { c.recovery with status := .eligible, updatedAt := timestamp }

/-- `dvdDiscConfirmations.record`. -/
def recordConfirmation (input : RecordDvdDiscConfirmationInput) (newId : String) (timestamp : Nat)
    (c : Catalog) : Except DomainError (DvdDiscConfirmation × Catalog) := do
  rejectIf (¬input.acknowledgeMixedSource)
    (.invariant "Mixed-source risk must be explicitly acknowledged")
  requireSupportedStorage c
  rejectIf (c.recovery.id ≠ input.archiveRecoveryId)
    (.recordNotFound "archive recovery" input.archiveRecoveryId)
  let waiting := waitingResumeConfirmation c input.verificationId
  rejectIf (c.recovery.status ≠ .eligible ∧ ¬waiting)
    (.invalidStatusTransition "archive recovery" c.recovery.status.value "DVD Disc Confirmation")
  rejectIf (¬previewIsCurrent c input)
    (.staleJobAttempt "DVD Disc Confirmation" input.verificationId)
  requireNoActiveEncodeWork c
  let (confirmation, recorded) ← recordedConfirmation c input newId
  let activated ← activateConfirmedResume recorded waiting confirmation timestamp
  return (confirmation, activated)

theorem recordedConfirmation_ok
    (h : recordedConfirmation c input newId = .ok (confirmation, c')) :
    ∃ confirmations, c' = { c with confirmations } := by
  rw [recordedConfirmation] at h
  split at h
  · obtain ⟨_, -, he⟩ := bind_ok.1 h
    cases he
    exact ⟨_, rfl⟩
  · obtain ⟨_, -, he⟩ := bind_ok.1 h
    cases he
    exact ⟨_, rfl⟩

theorem activateConfirmedResume_ok {waiting : Prop} [Decidable waiting]
    (h : activateConfirmedResume c waiting confirmation timestamp = .ok c') :
    (¬waiting ∧ c' = c) ∨ waiting ∧ ∃ work, c.work = some work ∧
      ArchiveRecovery.Valid { c.recovery with
        status := .eligible
        updatedAt := timestamp } ∧
      c' = { c with
        work := some { work with
          discConfirmationId := some confirmation.id
          updatedAt := timestamp }
        recovery := { c.recovery with
          status := .eligible
          updatedAt := timestamp } } := by
  rw [activateConfirmedResume] at h
  by_cases hw : waiting
  · rw [if_neg (not_not.2 hw)] at h
    split at h
    · cases h
    · next work hwork =>
      obtain ⟨bound, hb, hu⟩ := bind_ok.1 h
      obtain ⟨-, -, -, rfl⟩ := writeWork_ok.1 hb
      obtain ⟨-, -, -, -, hvalid, rfl⟩ := updateArchiveRecovery_ok.1 hu
      exact .inr ⟨hw, work, hwork, hvalid, rfl⟩
  · rw [if_pos hw] at h
    cases h
    exact .inl ⟨hw, rfl⟩

/-- A confirmation is recorded, and lets a waiting resume go on. -/
theorem recordConfirmation_ok
    (h : recordConfirmation input newId timestamp c = .ok (confirmation, c')) :
    ∃ confirmations, (c.recovery.status = .eligible ∧ c' = { c with confirmations }) ∨
      ∃ work, waitingResumeConfirmation c input.verificationId ∧ c.work = some work ∧
        ArchiveRecovery.Valid { c.recovery with
          status := .eligible
          updatedAt := timestamp } ∧
        c' = { c with
          confirmations
          work := some { work with
            discConfirmationId := some confirmation.id
            updatedAt := timestamp }
          recovery := { c.recovery with
            status := .eligible
            updatedAt := timestamp } } := by
  simp only [recordConfirmation, bind_ok, rejectIf_ok, not_and, not_not] at h
  obtain ⟨-, -, -, -, -, -, -, hstatus, -, -, -, -, ⟨recorded, d⟩, hr, activated, ha, he⟩ := h
  cases he
  obtain ⟨confirmations, rfl⟩ := recordedConfirmation_ok hr
  refine ⟨confirmations, ?_⟩
  rcases activateConfirmedResume_ok ha with ⟨hw, rfl⟩ | ⟨hw, work, hwork, hvalid, rfl⟩
  · by_cases he : c.recovery.status = .eligible
    · exact .inl ⟨he, rfl⟩
    · exact absurd (hstatus he) hw
  · exact .inr ⟨work, hw, hwork, hvalid, rfl⟩

end RipDvd
