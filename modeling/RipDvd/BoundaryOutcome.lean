import RipDvd.BoundarySoundness

namespace RipDvd
set_option autoImplicit true

/-- The ways to copy a medium. -/
inductive CopyMode where
  | copy
  | initialCopy
  | resume
  | boundaryResume
  deriving DecidableEq

/-- A copy that starts with an empty image. -/
def Prior.empty : Prior := ⟨fun _ => False, []⟩

/-- A copy that goes on behind the sectors it retained. -/
def Prior.below (bytes : Nat) (image : List UInt8) : Prior :=
  ⟨fun lba => lba < bytes / DVD_SECTOR_SIZE_BYTES, image⟩

/-- A copy that keeps the sectors its prior map does not mark. -/
def Prior.unmarked (priorMap image : List UInt8) : Prior :=
  ⟨fun lba => bitmapBit priorMap lba = false, image⟩

/-- A run of the reader that ended with a printed failure. -/
structure PrintedRun where
  printed : PrintedResult
  issued : List IssuedRead
  /-- The output file as the run leaves it. -/
  file : List UInt8
  prior : Prior
  marked : Nat → Prop

/-- The runs of each mode; all but a resume of a map cut their file at a boundary. -/
inductive PrintsRun (env : CopyEnvironment) (declared : Nat) : CopyMode → PrintedRun → Prop
  | copy (run : runCopy env declared = (.readFailure printed, s)) :
    PrintsRun env declared .copy
      ⟨printed, s.issued, s.rollbackBoundaryImage, .empty, s.Marks⟩
  | initialCopy (run : runInitialCopy env declared = (.readFailure printed, initialCopy, s)) :
    PrintsRun env declared .initialCopy
      ⟨printed, s.issued, s.rollbackBoundaryImage, .empty, groupMarks initialCopy s⟩
  | resume (run : runResume env declared priorMap priorCount image = (.readFailure printed, s)) :
    PrintsRun env declared .resume
      ⟨printed, s.issued, s.image, .unmarked priorMap image, s.Marks⟩
  | boundaryResume
      (run : runBoundaryResume env declared bytes image = (.readFailure printed, s)) :
    PrintsRun env declared .boundaryResume
      ⟨printed, s.issued, s.rollbackBoundaryImage, .below bytes image, s.Marks⟩

/-- The parent reads the printed line as a proven boundary at a sector. -/
def PrintedResult.ProvenAt (printed : PrintedResult) (declared candidate : Nat) : Prop :=
  ∃ result, parseDvdReadFailureTerminalResultProtocol
      (emitReadFailureResult printed.failure (some printed.recovery) declared
        printed.retainedImageByteCount) declared = .ok result ∧
    isProvenDvdBoundaryCandidate result.readFailure = true ∧
    ∃ boundary ∈ result.readFailure.boundary, boundary.firstFailingLba = candidate

/-- A boundary that is printed as proven at a sector is one, and the file goes with it. -/
structure PrintedRun.ProvenBoundary (run : PrintedRun) (env : CopyEnvironment) (declared : Nat)
    (mode : CopyMode) (candidate : Nat) : Prop where
  information : run.printed.failure.sense.informationLba = some candidate
  positive : 0 < candidate
  inside : candidate < declared / DVD_SECTOR_SIZE_BYTES
  retained : run.printed.retainedImageByteCount = candidate * DVD_SECTOR_SIZE_BYTES
  length : candidate * DVD_SECTOR_SIZE_BYTES ≤ run.file.length
  cut : mode ≠ .resume → run.file.length = candidate * DVD_SECTOR_SIZE_BYTES
  written : ∀ lba < candidate, Written env run.issued run.prior run.marked lba
    (slice run.file (lba * DVD_SECTOR_SIZE_BYTES) DVD_SECTOR_SIZE_BYTES)
  met : ∃ first since earlier request start count, first.candidateLba = candidate ∧
    ProbedBoundary env (declared / DVD_SECTOR_SIZE_BYTES) candidate since first run.file
      run.issued ∧
    BoundaryRequest env first since run.issued earlier request start count
  accepted : run.printed.ProvenAt declared candidate

/-- A boundary that is printed without a proof: the file ends before the sectors that were lost. -/
structure PrintedRun.UnprovenBoundary (run : PrintedRun) (env : CopyEnvironment) : Prop where
  cut : run.file.length = run.printed.retainedImageByteCount
  sectors : run.file.length % DVD_SECTOR_SIZE_BYTES = 0
  written : ∀ lba, lba * DVD_SECTOR_SIZE_BYTES < run.file.length →
    Written env run.issued run.prior run.marked lba
      (slice run.file (lba * DVD_SECTOR_SIZE_BYTES) DVD_SECTOR_SIZE_BYTES)
  clear : ∀ lba, lba * DVD_SECTOR_SIZE_BYTES < run.file.length →
    run.printed.recovery.sectorIsBad lba = false

variable {env : CopyEnvironment} {declared candidate lba : Nat} {s : CopyState}
  {printed : PrintedResult} {prior : Prior}

theorem PrintsRun.terminal {mode : CopyMode} {run : PrintedRun}
    (hdeclared : DeclaredByteCount declared) (h : PrintsRun env declared mode run) :
    TerminalResult run.printed.failure (some run.printed.recovery) declared
      run.printed.retainedImageByteCount := by
  cases h with
  | copy hrun => exact Prints.terminal hdeclared (.copy env (congrArg Prod.fst hrun))
  | initialCopy hrun => exact Prints.terminal hdeclared (.initialCopy env (congrArg Prod.fst hrun))
  | resume hrun => exact Prints.terminal hdeclared (.resume env _ _ _ (congrArg Prod.fst hrun))
  | boundaryResume hrun =>
    exact Prints.terminal hdeclared (.boundaryResume env _ _ (congrArg Prod.fst hrun))

/-- What a terminal result says of a proven boundary is what the parent takes for proven. -/
theorem TerminalResult.provenAt (hdeclared : DeclaredByteCount declared)
    (h : TerminalResult printed.failure (some printed.recovery) declared
      printed.retainedImageByteCount)
    (hstatus : printed.failure.status = .outOfRangeError)
    (hproven : printed.recovery.boundaryProven = true)
    (hinformation : printed.failure.sense.informationLba = some candidate) :
    printed.ProvenAt declared candidate := by
  obtain ⟨result, hparse, hreports⟩ := h.reports_boundary hdeclared hstatus
  obtain ⟨hpositive, hretained, hrequest, -, -⟩ :=
    h.proven hstatus printed.recovery rfl hproven candidate hinformation
  have hboundary := hreports.boundary
  rw [if_pos hstatus, if_pos ⟨printed.recovery, rfl, hproven⟩, hinformation] at hboundary
  have hcategory : result.readFailure.category = .outOfRange :=
    hreports.category.trans (if_pos hstatus)
  have hevidence : result.readFailure.toDvdReadFailureEvidence = printed.failure.evidence :=
    hreports.evidence
  have hlba : result.readFailure.requestedLba = candidate :=
    (congrArg DvdReadFailureEvidence.requestedLba hevidence).trans
      (congrArg ReadRequest.requestedLba hrequest)
  have hcount : result.readFailure.requestedBlockCount = 1 :=
    (congrArg DvdReadFailureEvidence.requestedBlockCount hevidence).trans
      (congrArg ReadRequest.requestedBlockCount hrequest)
  have hordinal : result.readFailure.retryOrdinal = 1 :=
    (congrArg DvdReadFailureEvidence.retryOrdinal hevidence).trans
      (congrArg ReadRequest.retryOrdinal hrequest)
  refine ⟨result, hparse, ?_, _, hboundary, rfl⟩
  simp [isProvenDvdBoundaryCandidate, hcategory, hboundary, hlba, hcount, hordinal, hpositive,
    hretained]

theorem slice_take {bytes : List β} (h : start + count ≤ total) :
    slice (bytes.take total) start count = slice bytes start count := by
  rw [slice, slice, List.drop_take, List.take_take, min_eq_left (by omega)]

theorem sector_inside (h : lba < candidate) :
    lba * DVD_SECTOR_SIZE_BYTES + DVD_SECTOR_SIZE_BYTES ≤ candidate * DVD_SECTOR_SIZE_BYTES := by
  rw [← Nat.succ_mul]
  exact Nat.mul_le_mul_right _ h

theorem rollbackBoundaryImage_failed (hfailed : s.recovery.boundaryFailure = true) :
    s.rollbackBoundaryImage = s.image.take s.recovery.boundaryRetainedImageByteCount := by
  rw [CopyState.rollbackBoundaryImage, if_pos hfailed]

/-- A proof still holds of an image that is cut where the boundary is. -/
theorem ProbedBoundary.take {first : ReadFailure} {image : List UInt8}
    {issued : List IssuedRead} {total since : Nat} (hpositive : 0 < candidate)
    (h : ProbedBoundary env total candidate since first image issued) :
    ProbedBoundary env total candidate since first
      (image.take (candidate * DVD_SECTOR_SIZE_BYTES)) issued := by
  refine ⟨?_, h.confirmed, h.above⟩
  rw [slice_take (sector_inside (by omega))]
  exact h.preceding

/-- What a run says of the boundary that it prints. -/
structure PrintedRun.Sound (run : PrintedRun) (env : CopyEnvironment) (declared : Nat)
    (mode : CopyMode) : Prop where
  proven : run.printed.recovery.boundaryProven = true →
    ∃ candidate, run.ProvenBoundary env declared mode candidate
  unproven : run.printed.recovery.boundaryProven = false → mode ≠ .resume →
    run.UnprovenBoundary env

/-- A proven boundary of a copy whose file is cut there. -/
theorem ProvenImage.outcome {marked : Nat → Prop} {first : ReadFailure} {since start count : Nat}
    {earlier request : List IssuedRead} {mode : CopyMode}
    (hterminal : TerminalResult printed.failure (some printed.recovery) declared
      printed.retainedImageByteCount)
    (hdeclared : DeclaredByteCount declared) (hproven : printed.recovery.boundaryProven = true)
    (h : ProvenImage env declared since prior marked first printed s)
    (hrequest : BoundaryRequest env first since s.issued earlier request start count) :
    (⟨printed, s.issued, s.rollbackBoundaryImage, prior, marked⟩ : PrintedRun).ProvenBoundary env
      declared mode first.candidateLba := by
  have hfile : s.rollbackBoundaryImage =
      s.image.take (first.candidateLba * DVD_SECTOR_SIZE_BYTES) := by
    rw [rollbackBoundaryImage_failed h.failed, h.cut, h.retained]
  have hlength : s.rollbackBoundaryImage.length = first.candidateLba * DVD_SECTOR_SIZE_BYTES := by
    rw [hfile, List.length_take, min_eq_left h.length]
  constructor
  case information => exact h.information
  case positive => exact h.positive
  case inside => exact h.inside
  case retained => exact h.retained
  case length => exact hlength.ge
  case cut => exact fun _ => hlength
  case written =>
    intro lba hlba
    rw [hfile, slice_take (sector_inside hlba)]
    exact h.written lba hlba
  case met =>
    refine ⟨first, since, earlier, request, start, count, rfl, ?_, hrequest⟩
    rw [hfile]
    exact h.probed.take h.positive
  case accepted => exact hterminal.provenAt hdeclared h.status hproven h.information

/-- A boundary without a proof of a copy whose file is cut. -/
theorem UnprovenImage.outcome {marked : Nat → Prop}
    (h : UnprovenImage env prior marked printed s) :
    (⟨printed, s.issued, s.rollbackBoundaryImage, prior, marked⟩ : PrintedRun).UnprovenBoundary
      env := by
  have hfile : s.rollbackBoundaryImage = s.image.take printed.retainedImageByteCount := by
    rw [rollbackBoundaryImage_failed h.failed, h.cut]
  have hlength : s.rollbackBoundaryImage.length = printed.retainedImageByteCount := by
    rw [hfile, List.length_take, min_eq_left h.length]
  constructor
  case cut => exact hlength
  case sectors =>
    rw [hlength]
    exact h.sectors
  case written =>
    intro lba hlba
    rw [hlength] at hlba
    have hinside : lba * DVD_SECTOR_SIZE_BYTES + DVD_SECTOR_SIZE_BYTES ≤
        printed.retainedImageByteCount := by
      have hsectors := h.sectors
      simp only [DVD_SECTOR_SIZE_BYTES] at hlba hsectors ⊢
      omega
    rw [hfile, slice_take hinside]
    exact h.written lba hlba
  case clear =>
    intro lba hlba
    rw [hlength] at hlba
    exact h.clear lba hlba

/-- A copy that stopped at a boundary is sound once its file is cut. -/
theorem BoundaryStop.outcome {marks : CopyState → Nat → Prop} {mode : CopyMode}
    (hdeclared : DeclaredByteCount declared)
    (hterminal : TerminalResult printed.failure (some printed.recovery) declared
      printed.retainedImageByteCount)
    (hstatus : printed.failure.status = .outOfRangeError)
    (h : BoundaryStop env declared prior marks (.readFailure printed, s)) :
    (⟨printed, s.issued, s.rollbackBoundaryImage, prior, marks s⟩ : PrintedRun).Sound env declared
      mode := by
  have hstop := h hstatus
  constructor
  case proven =>
    intro hproven
    rw [if_pos hproven] at hstop
    obtain ⟨first, since, earlier, request, start, count, himage, hrequest⟩ := hstop
    exact ⟨_, himage.outcome hterminal hdeclared hproven hrequest⟩
  case unproven =>
    intro hunproven _
    rw [if_neg (Bool.eq_false_iff.1 hunproven)] at hstop
    exact hstop.outcome

theorem ResumeStop.outcome {priorMap image : List UInt8} (hdeclared : DeclaredByteCount declared)
    (hterminal : TerminalResult printed.failure (some printed.recovery) declared
      printed.retainedImageByteCount)
    (hstatus : printed.failure.status = .outOfRangeError)
    (h : ResumeStop env declared (.unmarked priorMap image) (.readFailure printed, s)) :
    (⟨printed, s.issued, s.image, .unmarked priorMap image, s.Marks⟩ : PrintedRun).Sound env
      declared .resume := by
  constructor
  case proven =>
    intro hproven
    obtain ⟨first, since, earlier, request, start, count, himage, hrequest⟩ := h hstatus hproven
    refine ⟨first.candidateLba, ?_⟩
    constructor
    case information => exact himage.information
    case positive => exact himage.positive
    case inside => exact himage.inside
    case retained => exact himage.retained
    case length => exact himage.length
    case cut => exact fun hmode => absurd rfl hmode
    case written => exact himage.written
    case met => exact ⟨first, since, earlier, request, start, count, rfl, himage.probed, hrequest⟩
    case accepted =>
      exact hterminal.provenAt hdeclared himage.status hproven himage.information
  case unproven => exact fun _ hmode => absurd rfl hmode

/-- A copy that is no initial copy keeps no account of one. -/
theorem readDisc_account {remaining : Nat} {absolute : Bool} :
    (readDisc env declared remaining none absolute s).2.1 = none := by
  induction remaining using Nat.strong_induction_on generalizing absolute s with
  | _ remaining ih =>
    rw [readDisc]
    split
    · rfl
    next hmore =>
      have hpositive : 0 < min remaining READ_BLOCKS :=
        Nat.lt_min.2 ⟨Nat.pos_of_ne_zero hmore, by decide⟩
      have hle : min remaining READ_BLOCKS ≤ remaining := Nat.min_le_left _ _
      dsimp only
      generalize hread : (if s.bytesProcessed = 0 then
        readInitialContentWithDeferredRetry env s _ (min remaining READ_BLOCKS) absolute
        else _) = read
      obtain ⟨result, ordinal, s'⟩ := read
      cases result with
      | fatal => rfl
      | ended => rfl
      | success blocks => exact ih (remaining - blocks) (by omega)
      | failed failure =>
        simp only
        split
        · split
          · exact ih (remaining - min remaining READ_BLOCKS) (by omega)
          · rfl
        · rfl

/-- A copy without an account stops with the sectors that its map marks. -/
theorem CopyEnd.account {outcome : CopyStatus × Option InitialCopyState × CopyState}
    (haccount : outcome.2.1 = none) (h : CopyEnd env declared prior outcome) :
    BoundaryStop env declared prior CopyState.Marks (outcome.1, outcome.2.2) := by
  obtain ⟨status, initialCopy, s⟩ := outcome
  cases haccount
  exact h

theorem runCopy_stop : BoundaryStop env declared .empty CopyState.Marks (runCopy env declared) := by
  apply CopyEnd.account readDisc_account
  refine readDisc_stop (Nat.zero_add _).le (?_ : CopyState.Between _ env declared .empty none 0)
  constructor
  case filled => exact ⟨rfl, rfl, fun i hi => nomatch hi⟩
  case reached => exact CopyState.Reached.start rfl rfl fun _ => rfl
  case below => exact fun read hread => nomatch hread
  case mapped => exact fun _ hst => nomatch hst

theorem runInitialCopy_stop : CopyEnd env declared .empty (runInitialCopy env declared) := by
  rw [runInitialCopy]
  refine readDisc_stop (Nat.zero_add _).le (?_ : CopyState.Between _ env declared .empty _ 0)
  constructor
  case filled =>
    refine ⟨rfl, rfl, fun i hi => ?_⟩
    cases hi
  case reached => exact CopyState.Reached.start rfl rfl (by simp)
  case below =>
    intro read hread
    cases hread
  case mapped =>
    intro st hst
    cases hst
    exact List.length_replicate

theorem runBoundaryResume_stop {bytes : Nat} {image : List UInt8} :
    BoundaryStop env declared (.below bytes image) CopyState.Marks
      (runBoundaryResume env declared bytes image) := by
  rw [runBoundaryResume]
  split
  · trivial
  next hchecked =>
    simp only [not_or, not_not] at hchecked
    have hsectors := hchecked.2.1
    have hbytes : bytes = bytes / DVD_SECTOR_SIZE_BYTES * DVD_SECTOR_SIZE_BYTES :=
      (Nat.div_mul_cancel (Nat.dvd_of_mod_eq_zero hsectors)).symm
    have hremaining : bytes / DVD_SECTOR_SIZE_BYTES +
        (declared - bytes) / DVD_SECTOR_SIZE_BYTES ≤ declared / DVD_SECTOR_SIZE_BYTES := by
      simp only [DVD_SECTOR_SIZE_BYTES] at hsectors ⊢
      omega
    have hlength : bytes ≤ image.length := Nat.not_lt.1 hchecked.2.2.1
    apply CopyEnd.account readDisc_account
    apply readDisc_stop hremaining
    constructor
    case filled =>
      refine ⟨hbytes, ?_, fun i hi => .inr (.inl ⟨hi, ?_⟩)⟩
      · rw [List.length_take, min_eq_left hlength]
        exact hbytes
      · have hinside := sector_inside hi
        rw [← hbytes] at hinside
        exact slice_take hinside
    case reached => exact CopyState.Reached.start hbytes rfl fun _ => rfl
    case below =>
      intro read hread
      cases hread
    case mapped =>
      intro _ hst
      cases hst

theorem runResume_stop {priorMap image : List UInt8} {priorCount : Nat} :
    ResumeStop env declared (.unmarked priorMap image)
      (runResume env declared priorMap priorCount image) := by
  simp only [runResume]
  split
  · trivial
  next hlength =>
    rw [List.range_eq_range']
    apply resumeSectors_stop (Nat.zero_add _).le
    · have hmarked := emptyRecovery_marked (bitmapByteCount declared)
      have hsized : (emptyRecovery (bitmapByteCount declared)).badSectorBitmap.length =
          (declared / DVD_SECTOR_SIZE_BYTES + 7) / 8 := List.length_replicate
      constructor
      case length => exact not_not.1 hlength
      case marked =>
        exact ⟨rfl, ⟨hmarked.below, hmarked.sectors, hmarked.areas⟩, fun _ => hsized,
          fun _ => rfl, rfl⟩
      case written =>
        intro i hi
        cases hi
      case rest => exact fun i _ => rfl
    · intro read hread
      cases hread

/-- A media boundary is sound in every mode: what is printed as proven was proven by reads, the
file that is kept goes with it, and the parent takes it for proven. -/
theorem PrintsRun.boundarySound {mode : CopyMode} {run : PrintedRun}
    (hdeclared : DeclaredByteCount declared) (h : PrintsRun env declared mode run)
    (hstatus : run.printed.failure.status = .outOfRangeError) : run.Sound env declared mode := by
  have hterminal := h.terminal hdeclared
  cases h with
  | copy hrun =>
    apply BoundaryStop.outcome hdeclared hterminal hstatus
    rw [← hrun]
    exact runCopy_stop
  | initialCopy hrun =>
    have hstop : CopyEnd env declared .empty (runInitialCopy env declared) := runInitialCopy_stop
    rw [hrun] at hstop
    exact BoundaryStop.outcome hdeclared hterminal hstatus hstop
  | resume hrun =>
    apply ResumeStop.outcome hdeclared hterminal hstatus
    rw [← hrun]
    exact runResume_stop
  | boundaryResume hrun =>
    apply BoundaryStop.outcome hdeclared hterminal hstatus
    rw [← hrun]
    exact runBoundaryResume_stop

/-- A sector beyond the end of the medium, as a drive reports it. -/
def beyondSense (lba : UInt8) : SgIo where
  status := 0x02
  hostStatus := 0
  driverStatus := 0x08
  sbLenWr := 18
  sense := [0xf0, 0, 0x05, 0, 0, 0, lba, 10, 0, 0, 0, 0, 0x21, 0x00, 0, 0, 0, 0] ++
    List.replicate 234 0
  length_sense := by rw [List.length_append, List.length_replicate]; rfl

/-- A medium of two sectors. -/
def twoSectors : CopyEnvironment where
  transport _ request :=
    if request.requestedLba + request.requestedBlockCount ≤ 2 then givesOne 7 request
    else .failure (some (beyondSense (UInt8.ofNat (max request.requestedLba 2))))
  authorizes _ := true

/-- What a copy of two sectors prints when four of them were declared. -/
def twoSectorsPrinted : PrintedResult where
  failure := classifyReadFailure (readScopeEnd ⟨2, 1, 1⟩ (some (beyondSense 2)))
  recovery := { emptyRecovery 1 with boundaryProven := true }
  retainedImageByteCount := 4096

theorem twoSectors_sound : ∃ run, PrintsRun twoSectors 8192 .copy run ∧
    run.Sound twoSectors 8192 .copy ∧ run.printed.recovery.boundaryProven = true := by
  have hrun : runCopy twoSectors 8192 =
      (.readFailure twoSectorsPrinted, (runCopy twoSectors 8192).2) :=
    Prod.ext (by decide +kernel) rfl
  exact ⟨_, .copy hrun, PrintsRun.boundarySound ⟨by decide, by decide, by decide⟩ (.copy hrun)
    (by decide +kernel), rfl⟩

end RipDvd
