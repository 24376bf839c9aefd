import RipDvd.InitialCopyRuns

namespace RipDvd
set_option autoImplicit true

/-- A sector that a result gives as not recovered. -/
def DvdInitialCopyResult.Unrecovered (result : DvdInitialCopyResult) (lba : Nat) : Prop :=
  ∃ range ∈ result.unrecoveredSourceRanges, range.startLba ≤ lba ∧ lba < range.endLbaExclusive

/-- A sector of a request that failed with a medium error. -/
def SkippedSector (env : CopyEnvironment) (issued : List DriveRead) (lba : Nat) : Prop :=
  ∃ failure ∈ skippedReads env issued, failure.startLba ≤ lba ∧ lba < failure.endLba

/-- A result that says of an image what the reads of the drive made it. -/
structure DvdInitialCopyResult.Exact (result : DvdInitialCopyResult) (env : CopyEnvironment)
    (declared : Nat) (issued : List DriveRead) (image : List UInt8) : Prop where
  ranges : ∀ lba, result.Unrecovered lba ↔ SkippedSector env issued lba
  length : image.length = declared
  zeros : ∀ lba < declared / DVD_SECTOR_SIZE_BYTES, SkippedSector env issued lba →
    slice image (lba * DVD_SECTOR_SIZE_BYTES) DVD_SECTOR_SIZE_BYTES = zeroSectors 1
  sectors : ∀ lba < declared / DVD_SECTOR_SIZE_BYTES, ¬SkippedSector env issued lba →
    ∃ read ∈ issued, read.Gives env lba
      (slice image (lba * DVD_SECTOR_SIZE_BYTES) DVD_SECTOR_SIZE_BYTES)
  contained : ∀ diagnostic ∈ result.diagnostics, ∃ range ∈ result.unrecoveredSourceRanges,
    range.startLba ≤ diagnostic.requestedLba ∧ diagnostic.endLba ≤ range.endLbaExclusive
  ordered : result.diagnostics.Pairwise fun a b => a.endLba ≤ b.requestedLba
  tiled : result.diagnosticsTruncated = false → ∀ lba, result.Unrecovered lba ↔
    ∃ diagnostic ∈ result.diagnostics, diagnostic.requestedLba ≤ lba ∧ lba < diagnostic.endLba

/-- The reader and the worker agree about every initial copy. -/
structure InitialCopyAgrees (env : CopyEnvironment) (declared : Nat) : Prop where
  complete : (runInitialCopy env declared).1 = .done → ∃ payload result issued,
    (initialCopyHelper env declared).code = 0 ∧
      (initialCopyHelper env declared).lines = [.initialCopyResult payload] ∧
      parseDvdInitialCopyResultProtocol payload declared declared = .ok result ∧
      (initialCopyHelper env declared).outcome declared = .ok result ∧
      GroupsRead env (declared / DVD_SECTOR_SIZE_BYTES) issued
        (declared / DVD_SECTOR_SIZE_BYTES) 0 ∧
      result.Exact env declared issued (initialCopyHelper env declared).image
  boundary : ∀ printed, (runInitialCopy env declared).1 = .readFailure printed →
    printed.failure.status = .outOfRangeError → ∃ first second failure result,
      (initialCopyHelper env declared).code = READ_FAILURE_EXIT_STATUS ∧
      (initialCopyHelper env declared).lines =
        [.readFailureResult first, .initialCopyResult second] ∧
      parseDvdReadFailureTerminalResultProtocol first declared = .ok ⟨failure, none⟩ ∧
      failure.boundary.map (·.retainedImageByteCount) =
        some (initialCopyHelper env declared).image.length ∧
      parseDvdInitialCopyResultProtocol second declared
        (initialCopyHelper env declared).image.length = .ok result ∧
      (initialCopyHelper env declared).outcome declared = .error (.boundary failure result)
  plain : ∀ printed, (runInitialCopy env declared).1 = .readFailure printed →
    printed.failure.status ≠ .outOfRangeError → ∃ payload message,
      (initialCopyHelper env declared).code = READ_FAILURE_EXIT_STATUS ∧
      (initialCopyHelper env declared).lines = [.readFailureResult payload] ∧
      (initialCopyHelper env declared).outcome declared = .error (.error message)

variable {env : CopyEnvironment} {declared : Nat}

/-- No result is about an image of no bytes. -/
theorem parse_nothing (parsed : Json) (declared : Nat) (result : DvdInitialCopyResult) :
    parseDvdInitialCopyResultProtocol parsed declared 0 ≠ .ok result := by
  intro hparse
  have hsizes : ¬ValidInitialCopySizes declared 0 := fun h => absurd h.2.2.2.1 (Nat.lt_irrefl 0)
  simp only [parseDvdInitialCopyResultProtocol, rejectIf, hsizes, not_false_eq_true, if_true,
    Bind.bind, Except.bind] at hparse
  split at hparse
  · cases hparse
  · cases hparse

/-- A copy that retains nothing is reported as a malformed result. -/
theorem NothingRead.disagrees (h : NothingRead env declared)
    (hdeclared : DeclaredByteCount declared) :
    ¬InitialCopyAgrees env declared := by
  intro hagrees
  have hpositive : 0 < declared / DVD_SECTOR_SIZE_BYTES := by
    have hp := hdeclared.positive
    have hs := hdeclared.sectors
    simp only [DVD_SECTOR_SIZE_BYTES] at *
    omega
  obtain ⟨printed, st, s, hrun, hprinted⟩ := runInitialCopy_unread h hpositive
  obtain ⟨_, second, _, result, -, -, -, -, hparse, -⟩ :=
    hagrees.boundary printed (by rw [hrun]) hprinted.status
  have hlength : (initialCopyHelper env declared).image.length = 0 := by
    rw [initialCopyHelper, hrun]
    have himage := hprinted.length
    simp only [finishInitialCopy, CopyState.rollbackBoundaryImage, hprinted.failed, if_true,
      List.length_take, himage, Nat.zero_mul, Nat.min_zero]
  rw [hlength] at hparse
  exact parse_nothing second declared result hparse

theorem noRecoveryProtocol {failure : ReadFailure} {recovery : RecoveryState}
    (hbare : recovery.includesRecoverySnapshot = false) (declared retained : Nat) :
    (emitReadFailureResult failure (some recovery) declared retained).get "recoveryProtocol" =
      none := by
  rw [emitReadFailureResult]
  split
  · simp only [hbare, Bool.false_eq_true, if_false]
    split <;> rfl
  · rfl

/-- A result without a recovery protocol is read without a recovery result. -/
theorem parseTerminal_bare {parsed : Json} {terminal : DvdReadFailureTerminalResult}
    (hnone : parsed.get "recoveryProtocol" = none)
    (hparse : parseDvdReadFailureTerminalResultProtocol parsed declared = .ok terminal) :
    terminal.recoveryResult = none := by
  rw [parseDvdReadFailureTerminalResultProtocol, hnone] at hparse
  simp only [Bind.bind, Except.bind, Pure.pure, Except.pure] at hparse
  split at hparse
  · cases hparse
  · cases hparse
    rfl

/-- The result of a complete copy is exact. -/
theorem CopyState.Follows.exact {s : CopyState} {st : InitialCopyState} {issued : List DriveRead}
    (h : s.Follows env (declared / DVD_SECTOR_SIZE_BYTES)
    (declared / DVD_SECTOR_SIZE_BYTES) 0 issued)
    (hst : st.Records (declared / DVD_SECTOR_SIZE_BYTES) (declared / DVD_SECTOR_SIZE_BYTES)
      (skippedReads env issued)) (hdeclared : DeclaredByteCount declared) (retained : Nat) :
    (st.result declared retained (skippedReads env issued)).Exact env declared issued s.image := by
  obtain ⟨hranges, -⟩ := hst.ranges le_rfl rfl
  constructor
  case ranges => exact hranges.sectors
  case length => rw [h.length, Nat.div_mul_cancel (Nat.dvd_of_mod_eq_zero hdeclared.sectors)]
  case zeros =>
    intro lba hlba hskipped
    rcases h.sectors lba hlba with ⟨-, hzeros⟩ | ⟨hnot, -⟩
    · exact hzeros
    · exact absurd hskipped hnot
  case sectors =>
    intro lba hlba hkept
    rcases h.sectors lba hlba with ⟨hskipped, -⟩ | ⟨-, hgives⟩
    · exact absurd hskipped hkept
    · exact hgives
  case contained =>
    intro diagnostic hdiagnostic
    obtain ⟨failure, hfailure, rfl⟩ := List.mem_map.1 hdiagnostic
    exact hranges.contained failure (List.mem_of_mem_take hfailure)
  case ordered =>
    apply List.pairwise_map.2
    exact List.Pairwise.sublist (List.take_sublist _ _) hst.ordered
  case tiled =>
    intro hwhole lba
    have hfits : (skippedReads env issued).length ≤ INITIAL_COPY_DIAGNOSTIC_LIMIT := by
      have hnot := of_decide_eq_false hwhole
      exact Nat.le_of_not_lt hnot
    apply (hranges.sectors lba).trans
    simp only [InitialCopyState.result, List.take_of_length_le hfits, List.mem_map,
      exists_exists_and_eq_and]
    rfl

/-- The worker takes both lines of a boundary, when it reads both of them. -/
theorem outcome_boundary {run : HelperRun} {first second : Json} {failure : DvdReadFailureResult}
    {boundary : DvdReadFailureBoundary} {result : DvdInitialCopyResult}
    (hcode : run.code = READ_FAILURE_EXIT_STATUS)
    (hlines : run.lines = [.readFailureResult first, .initialCopyResult second])
    (hfirst : parseDvdReadFailureTerminalResultProtocol first declared = .ok ⟨failure, none⟩)
    (hcategory : failure.category = .outOfRange) (hboundary : failure.boundary = some boundary)
    (hsecond : parseDvdInitialCopyResultProtocol second declared
      boundary.retainedImageByteCount = .ok result) :
    run.outcome declared = .error (.boundary failure result) := by
  have hpayloads : run.lines.foldlM TerminalPayloads.collect ⟨none, none, none⟩ =
      .ok ⟨none, some second, some first⟩ := by
    rw [hlines]
    rfl
  have hflock : ¬READ_FAILURE_EXIT_STATUS = FLOCK_CONFLICT_EXIT_CODE := by decide
  have hzero : ¬READ_FAILURE_EXIT_STATUS = 0 := by decide
  rw [HelperRun.outcome, hpayloads, hcode]
  simp only [Except.mapError, Bind.bind, Except.bind, closeInitialCopy, if_neg hflock,
    if_neg hzero, beq_self_eq_true, hfirst, hcategory, hboundary, hsecond]
  rfl

/-- A failure that comes without an initial copy is an error without a boundary. -/
theorem outcome_plain (declared : Nat) {run : HelperRun} {payload : Json}
    (hcode : run.code = READ_FAILURE_EXIT_STATUS)
    (hlines : run.lines = [.readFailureResult payload]) :
    ∃ message, run.outcome declared = .error (.error message) := by
  have hpayloads : run.lines.foldlM TerminalPayloads.collect ⟨none, none, none⟩ =
      .ok ⟨none, none, some payload⟩ := by
    rw [hlines]
    rfl
  have hflock : ¬READ_FAILURE_EXIT_STATUS = FLOCK_CONFLICT_EXIT_CODE := by decide
  have hzero : ¬READ_FAILURE_EXIT_STATUS = 0 := by decide
  rw [HelperRun.outcome, hpayloads, hcode]
  simp only [Except.mapError, Bind.bind, Except.bind, closeInitialCopy, if_neg hflock,
    if_neg hzero, beq_self_eq_true]
  cases parseDvdReadFailureTerminalResultProtocol payload declared with
  | error message => exact ⟨message, rfl⟩
  | ok terminal => exact ⟨_, rfl⟩

theorem outcome_complete {run : HelperRun} {payload : Json} {result : DvdInitialCopyResult}
    (hcode : run.code = 0) (hlines : run.lines = [.initialCopyResult payload])
    (hparse : parseDvdInitialCopyResultProtocol payload declared declared = .ok result) :
    run.outcome declared = .ok result := by
  have hpayloads : run.lines.foldlM TerminalPayloads.collect ⟨none, none, none⟩ =
      .ok ⟨none, some payload, none⟩ := by
    rw [hlines]
    rfl
  have hflock : ¬0 = FLOCK_CONFLICT_EXIT_CODE := by decide
  rw [HelperRun.outcome, hpayloads, hcode]
  simp only [Except.mapError, Bind.bind, Except.bind, closeInitialCopy, if_neg hflock, if_true,
    hparse]

/-- Reader and worker agree about an initial copy that reads something. -/
theorem initialCopy_agrees (hdeclared : DeclaredByteCount declared)
    (h : ¬NothingRead env declared) : InitialCopyAgrees env declared := by
  have hends := runInitialCopy_ends env declared
  have hsound : (runInitialCopy env declared).1.Sound declared := runInitialCopy_sound
  have hwhole : declared / DVD_SECTOR_SIZE_BYTES * DVD_SECTOR_SIZE_BYTES = declared :=
    Nat.div_mul_cancel (Nat.dvd_of_mod_eq_zero hdeclared.sectors)
  have hsome : 0 < declared / DVD_SECTOR_SIZE_BYTES := by
    have hp := hdeclared.positive
    have hs := hdeclared.sectors
    simp only [DVD_SECTOR_SIZE_BYTES] at *
    omega
  cases hrun : runInitialCopy env declared with
  | mk status rest =>
    obtain ⟨initialCopy, s⟩ := rest
    have hhelper : initialCopyHelper env declared =
        finishInitialCopy declared (status, initialCopy, s) := by
      rw [initialCopyHelper, hrun]
    rw [hrun] at hends hsound
    cases status with
    | failed =>
      refine ⟨?_, ?_, ?_⟩
      · rw [hrun]
        intro hdone
        cases hdone
      · rw [hrun]
        intro printed hprinted
        cases hprinted
      · rw [hrun]
        intro printed hprinted
        cases hprinted
    | done =>
      obtain ⟨st, issued, rfl, hfollows, hst⟩ := hends
      have hclear : s.recovery.boundaryFailure = false := by
        rw [hfollows.recovery]
        rfl
      have himage : s.rollbackBoundaryImage = s.image := by
        rw [CopyState.rollbackBoundaryImage, hclear]
        rfl
      have hlength : s.image.length = declared := hfollows.length.trans hwhole
      have hlines : (initialCopyHelper env declared).lines =
          [.initialCopyResult (emitInitialCopyResult declared declared st)] := by
        rw [hhelper]
        simp only [finishInitialCopy, himage, hlength]
        rfl
      have hcode : (initialCopyHelper env declared).code = 0 := by
        rw [hhelper]
        rfl
      have hfile : (initialCopyHelper env declared).image = s.image := by
        rw [hhelper]
        exact himage
      have hparse := hst.parse hdeclared hsome le_rfl
      rw [hwhole] at hparse
      have hexact := hfollows.exact hst hdeclared declared
      rw [← hfile] at hexact
      refine ⟨fun _ => ?_, ?_, ?_⟩
      · exact ⟨_, _, issued, hcode, hlines, hparse, outcome_complete hcode hlines hparse,
          hfollows.groups, hexact⟩
      · rw [hrun]
        intro printed hprinted
        cases hprinted
      · rw [hrun]
        intro printed hprinted
        cases hprinted
    | readFailure printed =>
      have hcode : (initialCopyHelper env declared).code = READ_FAILURE_EXIT_STATUS := by
        rw [hhelper]
        rfl
      rcases hends with ⟨hplain, hclear⟩ | ⟨st, lba, skips, rfl, hprinted, hle, hst, hnothing⟩
      · have hlines : (initialCopyHelper env declared).lines = [.readFailureResult
            (emitReadFailureResult printed.failure (some printed.recovery) declared
              printed.retainedImageByteCount)] := by
          rw [hhelper]
          simp only [finishInitialCopy, hclear]
          rfl
        obtain ⟨message, houtcome⟩ := outcome_plain declared hcode hlines
        refine ⟨?_, ?_, ?_⟩
        · rw [hrun]
          intro hdone
          cases hdone
        · rw [hrun]
          intro other hother hrange
          cases hother
          exact absurd hrange hplain
        · intro other _ _
          exact ⟨_, message, hcode, hlines, houtcome⟩
      · have hpositive : 0 < lba := Nat.pos_of_ne_zero fun hzero => h (hnothing hzero)
        have himage : s.rollbackBoundaryImage = s.image := by
          rw [CopyState.rollbackBoundaryImage, hprinted.failed, hprinted.cut, ← hprinted.length]
          exact List.take_length
        have hfile : (initialCopyHelper env declared).image = s.image := by
          rw [hhelper]
          exact himage
        have hlines : (initialCopyHelper env declared).lines = [
            .readFailureResult (emitReadFailureResult printed.failure (some printed.recovery)
              declared printed.retainedImageByteCount),
            .initialCopyResult (emitInitialCopyResult declared
              (lba * DVD_SECTOR_SIZE_BYTES) st)] := by
          rw [hhelper]
          simp only [finishInitialCopy, hprinted.failed, himage, hprinted.length]
          rfl
        obtain ⟨terminal, hfirst, hreports⟩ :=
          (hsound printed rfl).reports_boundary hdeclared hprinted.status
        have hbare := parseTerminal_bare
          (noRecoveryProtocol hprinted.bare declared printed.retainedImageByteCount) hfirst
        obtain ⟨failure, recoveryResult⟩ := terminal
        cases hbare
        have hboundary := hreports.boundary
        rw [if_pos hprinted.status] at hboundary
        have hcategory : failure.category = .outOfRange :=
          hreports.category.trans (if_pos hprinted.status)
        have hsecond := hst.parse hdeclared hpositive hle
        have houtcome := outcome_boundary hcode hlines hfirst hcategory hboundary
          (by rw [hprinted.retained]; exact hsecond)
        refine ⟨?_, ?_, ?_⟩
        · rw [hrun]
          intro hdone
          cases hdone
        · intro other _ _
          refine ⟨_, _, failure, _, hcode, hlines, hfirst, ?_, ?_, houtcome⟩
          · rw [hboundary, hfile, hprinted.length, ← hprinted.retained]
            rfl
          · rw [hfile, hprinted.length]
            exact hsecond
        · rw [hrun]
          intro other hother hplain
          cases hother
          exact absurd hprinted.status hplain

/-- Reader and worker agree about an initial copy exactly when it reads something before it finds
the end of the medium. -/
theorem initialCopy_agrees_iff (hdeclared : DeclaredByteCount declared) :
    InitialCopyAgrees env declared ↔ ¬NothingRead env declared :=
  ⟨fun hagrees hnothing => hnothing.disagrees hdeclared hagrees, initialCopy_agrees hdeclared⟩

/-- A medium of one sector that cannot be read is copied as one skipped request. -/
theorem mediumError_agrees :
    InitialCopyAgrees (answering (some (senseOf 0 0x03 0x11 0x05))) 2048 := by
  apply (initialCopy_agrees_iff ⟨by decide, by decide, by decide⟩).2
  intro hnothing
  obtain ⟨failure, hfailure, hrange, -⟩ := hnothing
  cases hfailure
  exact absurd hrange (by decide +kernel)

/-- A drive that says of its first sector that it is beyond the end of the medium. -/
theorem firstSector_outOfRange :
    ¬InitialCopyAgrees (answering (some (senseOf 0x80 0x05 0x21 0x00))) 2048 :=
  NothingRead.disagrees
    ⟨_, rfl, by decide +kernel, .inl (by decide +kernel)⟩ ⟨by decide, by decide, by decide⟩

end RipDvd
