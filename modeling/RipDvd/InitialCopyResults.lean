import RipDvd.InitialCopy
import Mathlib.Algebra.BigOperators.Group.List.Basic

namespace RipDvd
set_option autoImplicit true

open Json

/-- The sectors of the request that failed. -/
def ReadFailure.startLba (failure : ReadFailure) : Nat := failure.completion.requestedLba

def ReadFailure.blockCount (failure : ReadFailure) : Nat := failure.completion.requestedBlockCount

def ReadFailure.endLba (failure : ReadFailure) : Nat := failure.startLba + failure.blockCount

/-- A request that an initial copy skips, before it has come to a sector. -/
structure ReadFailure.SkippedBelow (failure : ReadFailure) (lba : Nat) : Prop where
  classified : failure = classifyReadFailure failure.completion
  medium : failure.status = .mediumError
  positive : 0 < failure.blockCount
  bounded : failure.blockCount ≤ READ_BLOCKS
  retry : failure.completion.retryOrdinal ≤ 1
  below : failure.endLba ≤ lba

theorem ReadFailure.SkippedBelow.mono {failure : ReadFailure} (h : failure.SkippedBelow lba)
    (hle : lba ≤ lba') : failure.SkippedBelow lba' :=
  ⟨h.classified, h.medium, h.positive, h.bounded, h.retry, h.below.trans hle⟩

/-- The counters and the map of an initial copy, and the requests that it skipped. -/
structure InitialCopyState.Records (st : InitialCopyState) (total lba : Nat)
    (skips : List ReadFailure) : Prop where
  length : st.skippedSectorBitmap.length = (total + 7) / 8
  bits : ∀ i, bitmapBit st.skippedSectorBitmap i = true ↔
    ∃ failure ∈ skips, failure.startLba ≤ i ∧ i < failure.endLba
  sectors : st.skippedSectorCount = Nat.count (bitmapBit st.skippedSectorBitmap · = true) lba
  summed : st.skippedSectorCount = (skips.map ReadFailure.blockCount).sum
  regions : st.skippedRegionCount =
    Nat.count (runStart (bitmapBit st.skippedSectorBitmap) · = true) lba
  few : st.skippedRegionCount ≤ skips.length
  requests : st.skippedRequestCount = skips.length
  diagnostics : st.diagnostics = skips.take INITIAL_COPY_DIAGNOSTIC_LIMIT
  ordered : skips.Pairwise fun a b => a.endLba ≤ b.startLba
  skipped : ∀ failure ∈ skips, failure.SkippedBelow lba

variable {st : InitialCopyState} {total lba : Nat} {skips : List ReadFailure}

theorem InitialCopyState.Records.below (h : st.Records total lba skips)
    (hbit : bitmapBit st.skippedSectorBitmap i = true) : i < lba := by
  obtain ⟨failure, hf, -, hi⟩ := (h.bits i).1 hbit
  exact hi.trans_le (h.skipped failure hf).below

theorem InitialCopyState.Records.mono (h : st.Records total lba skips) (hle : lba ≤ lba') :
    st.Records total lba' skips :=
  ⟨h.length, h.bits, h.sectors.trans (count_beyond (fun _ hi => h.below hi) hle).symm, h.summed,
    h.regions.trans (count_beyond (fun _ hi => h.below (runStart_imp hi)) hle).symm, h.few,
    h.requests, h.diagnostics, h.ordered, fun failure hf => (h.skipped failure hf).mono hle⟩

/-- A skipped request, after all the others, is recorded as what it is. -/
theorem InitialCopyState.Records.skip (h : st.Records total lba skips) {failure : ReadFailure}
    (hstart : failure.startLba = lba) (hskipped : failure.SkippedBelow (lba + failure.blockCount))
    (hinside : lba + failure.blockCount ≤ total) :
    (recordInitialCopySkip st failure lba failure.blockCount).Records total
      (lba + failure.blockCount) (skips ++ [failure]) := by
  have hwidth : lba + failure.blockCount ≤ 8 * st.skippedSectorBitmap.length := by
    rw [h.length]
    omega
  have hset : (recordInitialCopySkip st failure lba failure.blockCount).skippedSectorBitmap =
      setBitmapBits st.skippedSectorBitmap lba failure.blockCount := rfl
  have hbit (i : Nat) : bitmapBit (setBitmapBits st.skippedSectorBitmap lba failure.blockCount) i =
      (decide (lba ≤ i ∧ i < lba + failure.blockCount) || bitmapBit st.skippedSectorBitmap i) :=
    bitmapBit_setBitmapBits hwidth
  obtain ⟨hsectors, hregions⟩ := count_append_bits hskipped.positive hbit
  constructor
  case length => rw [hset, length_setBitmapBits, h.length]
  case bits =>
    intro i
    rw [hset, hbit, Bool.or_eq_true, decide_eq_true_eq, h.bits]
    simp only [List.mem_append, List.mem_singleton, or_and_right, exists_or, exists_eq_left]
    rw [or_comm, ReadFailure.endLba, hstart]
  case sectors =>
    rw [hset, hsectors, ← h.sectors]
    rfl
  case summed =>
    rw [List.map_append, List.sum_append, List.map_singleton, List.sum_singleton, ← h.summed]
    rfl
  case regions =>
    rw [hset, hregions, ← h.regions, recordInitialCopySkip]
    simp only [Bool.not_eq_true]
    split <;> rfl
  case few =>
    have hfew := h.few
    rw [List.length_append, List.length_singleton, recordInitialCopySkip]
    simp only
    split <;> omega
  case requests =>
    rw [List.length_append, List.length_singleton, ← h.requests]
    rfl
  case diagnostics =>
    simp only [recordInitialCopySkip, h.diagnostics, List.length_take]
    rw [List.take_append]
    split
    · next hfew =>
      have hle : skips.length < INITIAL_COPY_DIAGNOSTIC_LIMIT := by omega
      rw [List.take_of_length_le (l := [failure])
        (by rw [List.length_singleton]; omega)]
    · next hmany =>
      have hle : INITIAL_COPY_DIAGNOSTIC_LIMIT ≤ skips.length := by omega
      rw [Nat.sub_eq_zero_of_le hle, List.take_zero, List.append_nil]
  case ordered =>
    rw [List.pairwise_append]
    refine ⟨h.ordered, List.pairwise_singleton _ _, fun earlier he later hl => ?_⟩
    rw [List.mem_singleton.1 hl, hstart]
    exact (h.skipped earlier he).below
  case skipped =>
    intro other ho
    rw [List.mem_append, List.mem_singleton] at ho
    rcases ho with ho | rfl
    · exact (h.skipped other ho).mono (Nat.le_add_right _ _)
    · exact hskipped

/-- A medium error is a check condition of the command itself, with its sense key. -/
theorem readFailureClass_medium (h : (readFailureClass c sense).1 = .mediumError) :
    hasCurrentCheckConditionSense c sense = true ∧ sense.senseKey = some 0x03 := by
  by_cases hcheck : hasCurrentCheckConditionSense c sense = true
  · refine ⟨hcheck, ?_⟩
    by_contra hkey
    have hnot : sense.isRecognizedDvdMediumReadError = false := decide_eq_false hkey
    simp only [readFailureClass, hnot, Bool.false_eq_true, if_false] at h
    split_ifs at h
  · rw [Bool.not_eq_true] at hcheck
    simp only [readFailureClass, hcheck, Bool.false_eq_true, not_false_eq_true, if_true] at h
    split_ifs at h

/-- What the worker reads in a diagnostic. -/
def ReadFailure.initialCopyDiagnostic (failure : ReadFailure) : DvdInitialCopyDiagnostic where
  requestedLba := failure.startLba
  requestedBlockCount := failure.blockCount
  retryOrdinal := failure.completion.retryOrdinal
  scsiStatus := failure.completion.scsiStatus.toNat
  driverStatus := failure.completion.driverStatus.toNat
  senseResponseCode := (failure.sense.responseCode.getD 0).toNat
  asc := (failure.sense.asc.getD 0).toNat
  ascq := (failure.sense.ascq.getD 0).toNat
  informationLba := failure.sense.informationLba

/-- What the sense data of a medium error says. -/
theorem ReadFailure.SkippedBelow.condition {failure : ReadFailure}
    (h : failure.SkippedBelow lba) :
    hasCurrentCheckConditionSense failure.completion failure.sense = true ∧
      failure.sense.senseKey = some 0x03 := by
  have hmedium := h.medium
  rw [h.classified] at hmedium ⊢
  exact readFailureClass_medium hmedium

theorem ReadFailure.SkippedBelow.accepted {failure : ReadFailure} (h : failure.SkippedBelow lba)
    (hle : lba ≤ total) (hmax : total ≤ maxSafeInteger) :
    failure.initialCopyDiagnostic.Accepted total := by
  obtain ⟨hcheck, -⟩ := h.condition
  rw [hasCurrentCheckConditionSense, Bool.and_eq_true, Bool.or_eq_true, decide_eq_true_eq,
    decide_eq_true_eq] at hcheck
  obtain ⟨hcondition, hresponse⟩ := hcheck
  simp only [hasCheckConditionSense, Bool.and_eq_true, Bool.or_eq_true, decide_eq_true_eq]
    at hcondition
  obtain ⟨⟨⟨⟨⟨⟨-, hscsi⟩, -⟩, hdriver⟩, -⟩, -⟩, -⟩ := hcondition
  have hbelow := h.below
  have hpositive := h.positive
  have hbounded := h.bounded
  have hretry := h.retry
  have hblocks : READ_BLOCKS = 31 := rfl
  have hend : failure.initialCopyDiagnostic.endLba = failure.endLba := rfl
  have hstart : failure.endLba = failure.startLba + failure.blockCount := rfl
  have hinside (l : Nat) (hl : l ∈ failure.sense.informationLba) :
      failure.startLba ≤ l ∧ l < failure.endLba := by
    rw [h.classified] at hl
    exact (decodeSense_coherent failure.completion).information l hl
  refine ⟨?_, hpositive, ?_, ?_, ?_, ?_, byte_le _, ?_, ?_, ?_, ?_, byte_le _, byte_le _, ?_⟩
  · show failure.startLba ≤ total - 1
    omega
  · show failure.blockCount ≤ _
    omega
  · omega
  · omega
  · show failure.completion.retryOrdinal ≤ _
    omega
  · show failure.completion.scsiStatus.toNat &&& 0xfe = 0x02
    rw [← UInt8.toNat_inj, UInt8.toNat_and] at hscsi
    exact hscsi
  · exact Nat.le_of_lt_succ (UInt16.toNat_lt _)
  · exact hdriver.imp (low_nibble_toNat_eq _ 0x00).2 (low_nibble_toNat_eq _ 0x08).2
  · show (failure.sense.responseCode.getD 0).toNat = _ ∨
      (failure.sense.responseCode.getD 0).toNat = _
    rcases hresponse with hresponse | hresponse <;> simp [hresponse]
  · intro l hl
    obtain ⟨hfrom, hto⟩ := hinside l hl
    refine ⟨hfrom, ?_⟩
    omega

/-- A diagnostic is read as what it was printed from. -/
theorem parseDiagnostic_skipped {failure : ReadFailure} (h : failure.SkippedBelow lba)
    (hle : lba ≤ total) (hmax : total ≤ maxSafeInteger) :
    parseDiagnostic (emitInitialCopyDiagnostic failure) total =
      .ok failure.initialCopyDiagnostic := by
  have haccepted := h.accepted hle hmax
  obtain ⟨hcheck, hkey⟩ := h.condition
  rw [hasCurrentCheckConditionSense, Bool.and_eq_true] at hcheck
  have hhost : failure.completion.hostStatus = 0 := by
    have hcondition := hcheck.1
    simp only [hasCheckConditionSense, Bool.and_eq_true, decide_eq_true_eq] at hcondition
    exact hcondition.1.1.1.1.2
  have hkeys : (emitInitialCopyDiagnostic failure).keys.insertionSort (· ≤ ·) =
      INITIAL_COPY_DIAGNOSTIC_KEYS := by
    have hfst : (emitInitialCopyDiagnostic failure).keys = ["classification", "classifierVersion",
      "requestedLba", "requestedBlockCount", "retryOrdinal", "scsiStatus", "hostStatus",
      "driverStatus", "senseResponseCode", "senseKey", "asc", "ascq", "informationLba"] := rfl
    rw [hfst]
    decide
  have hsmall (n : Nat) (hn : n ≤ 0xffffffff) : safeNonNegativeInteger (some (number n)) = some n :=
    safeNonNegativeInteger_number (hn.trans (by decide))
  have hread : readDiagnostic (emitInitialCopyDiagnostic failure) =
      some failure.initialCopyDiagnostic := by
    have hlba : failure.endLba ≤ maxSafeInteger := h.below.trans (hle.trans hmax)
    have hend : failure.endLba = failure.startLba + failure.blockCount := rfl
    have h1 := safeNonNegativeInteger_number (n := failure.startLba) (by omega)
    have h2 := hsmall failure.blockCount haccepted.2.2.1
    have h3 := hsmall failure.completion.retryOrdinal haccepted.2.2.2.2.2.1
    have h4 := hsmall failure.completion.scsiStatus.toNat ((byte_le _).trans (by decide))
    have h5 := hsmall failure.completion.driverStatus.toNat
      ((Nat.le_of_lt_succ (UInt16.toNat_lt _)).trans (by decide))
    have h6 := hsmall (failure.sense.responseCode.getD 0).toNat ((byte_le _).trans (by decide))
    have h7 := hsmall (failure.sense.asc.getD 0).toNat ((byte_le _).trans (by decide))
    have h8 := hsmall (failure.sense.ascq.getD 0).toNat ((byte_le _).trans (by decide))
    have h9 : optionalBoundedInteger (some (formatOptional failure.sense.informationLba))
        maxSafeInteger = some failure.sense.informationLba := by
      apply optionalBoundedInteger_formatOptional le_rfl
      intro l hl
      have hin := (haccepted.2.2.2.2.2.2.2.2.2.2.2.2.2 l hl).2
      have hends : failure.initialCopyDiagnostic.endLba = failure.endLba := rfl
      omega
    have hget (key : String) (value : Json)
        (hkey : (emitInitialCopyDiagnostic failure).get key = some value) :
        (emitInitialCopyDiagnostic failure).get key = some value := hkey
    simp only [readDiagnostic, hget "requestedLba" (number failure.startLba) rfl,
      hget "requestedBlockCount" (number failure.blockCount) rfl,
      hget "retryOrdinal" (number failure.completion.retryOrdinal) rfl,
      hget "scsiStatus" (number failure.completion.scsiStatus.toNat) rfl,
      hget "driverStatus" (number failure.completion.driverStatus.toNat) rfl,
      hget "senseResponseCode" (number (failure.sense.responseCode.getD 0).toNat) rfl,
      hget "asc" (number (failure.sense.asc.getD 0).toNat) rfl,
      hget "ascq" (number (failure.sense.ascq.getD 0).toNat) rfl,
      hget "informationLba" (formatOptional failure.sense.informationLba) rfl,
      h1, h2, h3, h4, h5, h6, h7, h8, h9]
    rfl
  have hkeyed : isNumber (some (number (failure.sense.senseKey.getD 0).toNat)) 0x03 = true := by
    rw [hkey]
    rfl
  have hhosted : isNumber (some (number failure.completion.hostStatus.toNat)) 0 = true := by
    rw [hhost]
    rfl
  have hconstants : ¬(¬isString ((emitInitialCopyDiagnostic failure).get "classification")
        "tolerable_medium_error" = true ∨
      ¬isString ((emitInitialCopyDiagnostic failure).get "classifierVersion")
        DVD_READ_FAILURE_CLASSIFIER_VERSION = true ∨
      ¬isNumber ((emitInitialCopyDiagnostic failure).get "hostStatus") 0 = true ∨
      ¬isNumber ((emitInitialCopyDiagnostic failure).get "senseKey") 0x03 = true) := by
    rintro (h | h | h | h)
    · exact h rfl
    · exact h rfl
    · exact h hhosted
    · exact h hkeyed
  simp only [parseDiagnostic, rejectIf, hkeys, if_neg hconstants, hread, orThrow, haccepted,
    not_true_eq_false, ne_eq, if_false, Bind.bind, Except.bind, Pure.pure, Except.pure]

/-- The loop over ranges apart from each other counts their sectors. -/
theorem countUnrecoveredRanges_runs (h : RunsApart runs n) (hle : n ≤ total)
    (hprevious : ∀ previous ∈ previousEnd, ∀ run ∈ runs, previous < run.1) :
    countUnrecoveredRanges total previousEnd counted
        (runs.map fun run => ⟨run.1, run.2, .skippedUntested⟩) =
      some (counted + (runs.map Prod.snd).sum) := by
  induction runs generalizing previousEnd counted with
  | nil => rfl
  | cons run runs ih =>
    have hpositive := h.nonempty run List.mem_cons_self
    have hbelow := h.below run List.mem_cons_self
    have happart := List.pairwise_cons.1 h.apart
    have hrest : RunsApart runs n := ⟨happart.2,
      fun other hother => h.nonempty other (List.mem_cons_of_mem _ hother),
      fun other hother => h.below other (List.mem_cons_of_mem _ hother)⟩
    have hnot : ¬(SourceClassification.skippedUntested ≠ .skippedUntested ∨
        (∃ previous ∈ previousEnd, run.1 ≤ previous) ∨ run.2 = 0 ∨ total < run.1 + run.2) := by
      rintro (hne | ⟨previous, hp, hle⟩ | hzero | hlarge)
      · exact hne rfl
      · exact absurd (hprevious previous hp run List.mem_cons_self) (Nat.not_lt.2 hle)
      · omega
      · omega
    rw [List.map_cons, countUnrecoveredRanges]
    refine (if_neg hnot).trans ?_
    rw [ih hrest, List.map_cons, List.sum_cons, Nat.add_assoc]
    intro previous hp other hother
    cases hp
    exact happart.1 other hother

/-- The loop over the diagnostics finds a range for each of them. -/
theorem coverDiagnostics_some {ranges : List UnrecoveredSourceRange}
    {diagnostics : List DvdInitialCopyDiagnostic}
    (haccepted : ∀ diagnostic ∈ diagnostics, diagnostic.Accepted total)
    (hordered : diagnostics.Pairwise fun a b => a.endLba ≤ b.requestedLba)
    (hprevious : ∀ diagnostic ∈ diagnostics, previousEnd ≤ diagnostic.requestedLba)
    (hranges : ranges.Pairwise fun a b => a.endLbaExclusive < b.startLba)
    (hcontained : ∀ diagnostic ∈ diagnostics, ∃ range ∈ ranges,
      range.startLba ≤ diagnostic.requestedLba ∧ diagnostic.endLba ≤ range.endLbaExclusive) :
    coverDiagnostics total ranges previousEnd covered diagnostics =
      some (covered + (diagnostics.map (·.requestedBlockCount)).sum) := by
  induction diagnostics generalizing ranges previousEnd covered with
  | nil => rfl
  | cons diagnostic rest ih =>
    have hown := haccepted diagnostic List.mem_cons_self
    have hfirst := hprevious diagnostic List.mem_cons_self
    obtain ⟨hlater, hordered⟩ := List.pairwise_cons.1 hordered
    obtain ⟨range, hrange, hfrom, hto⟩ := hcontained diagnostic List.mem_cons_self
    have hpositive : diagnostic.requestedLba < diagnostic.endLba :=
      Nat.lt_add_of_pos_right hown.2.1
    -- the ranges before the one it is in are passed, that one is not
    obtain ⟨before, after, rfl⟩ := List.append_of_mem hrange
    have hbefore : ∀ other ∈ before, other.endLbaExclusive ≤ diagnostic.requestedLba := by
      intro other hother
      have hapart := (List.pairwise_append.1 hranges).2.2 other hother range List.mem_cons_self
      omega
    have hdrop : ((before ++ range :: after).dropWhile fun range =>
        range.endLbaExclusive ≤ diagnostic.requestedLba) = range :: after := by
      rw [List.dropWhile_append_of_pos fun other ho => by simpa using hbefore other ho,
        List.dropWhile_cons_of_neg (by simp; omega)]
    simp only [coverDiagnostics, hdrop]
    rw [if_neg (by simp only [hown, not_true_eq_false, false_or]; omega), if_neg (by omega),
      ih (fun d hd => haccepted d (List.mem_cons_of_mem _ hd)) hordered
        (fun d hd => hlater d hd) (List.pairwise_append.1 hranges).2.1,
      List.map_cons, List.sum_cons, Nat.add_assoc]
    intro later hl
    obtain ⟨other, hother, hfrom', hto'⟩ := hcontained later (List.mem_cons_of_mem _ hl)
    have hown' := haccepted later (List.mem_cons_of_mem _ hl)
    have hafter := hlater later hl
    have hpositive' : later.requestedLba < later.endLba := Nat.lt_add_of_pos_right hown'.2.1
    rcases List.mem_append.1 hother with hother | hother
    · have hpassed := hbefore other hother
      omega
    · exact ⟨other, hother, hfrom', hto'⟩

/-- The ranges of a map, and the requests that it was made from. -/
structure RangesOf (ranges : List UnrecoveredSourceRange) (total lba : Nat)
    (skips : List ReadFailure) : Prop where
  sectors : ∀ i, (∃ range ∈ ranges, range.startLba ≤ i ∧ i < range.endLbaExclusive) ↔
    ∃ failure ∈ skips, failure.startLba ≤ i ∧ i < failure.endLba
  apart : ranges.Pairwise fun a b => a.endLbaExclusive < b.startLba
  contained : ∀ failure ∈ skips, ∃ range ∈ ranges,
    range.startLba ≤ failure.startLba ∧ failure.endLba ≤ range.endLbaExclusive
  counted : countUnrecoveredRanges lba none 0 ranges =
    some (skips.map ReadFailure.blockCount).sum

theorem InitialCopyState.Records.ranges (h : st.Records total lba skips) (hle : lba ≤ total)
    {bitmap : List UInt8} (hbitmap : bitmapBit bitmap = bitmapBit st.skippedSectorBitmap) :
    RangesOf (rangesFromBitmap bitmap total) total lba skips ∧
      (rangesFromBitmap bitmap total).length = st.skippedRegionCount := by
  have hpassed := RunScan.scanTo_passed (bitmapBit bitmap) total
  have hbelow : ∀ i, bitmapBit bitmap i = true → i < lba := fun i hi => h.below (hbitmap ▸ hi)
  have hapart := hpassed.close_apart
  have hmem (i : Nat) (hi : i < total) := RunScan.scanTo_mem (bitmapBit bitmap) hi
  have hruns : RunsApart ((RunScan.scanTo (bitmapBit bitmap) total).close total) lba :=
    ⟨hapart.apart, hapart.nonempty, fun run hrun => hpassed.close_below hbelow hrun⟩
  refine ⟨⟨fun i => ?_, ?_, fun failure hf => ?_, ?_⟩, ?_⟩
  · rw [← h.bits, ← hbitmap]
    simp only [rangesFromBitmap, List.mem_map, exists_exists_and_eq_and,
      UnrecoveredSourceRange.endLbaExclusive]
    constructor
    · rintro ⟨run, hrun, hin⟩
      exact (hmem i (hin.2.trans_le (hapart.below run hrun))).2 ⟨run, hrun, hin⟩
    · intro hbit
      exact (hmem i ((hbelow i hbit).trans_le hle)).1 hbit
  · exact List.pairwise_map.2 hapart.apart
  · have hskipped := h.skipped failure hf
    obtain ⟨run, hrun, hfrom, hto⟩ := RunScan.run_of_bits (bitmapBit bitmap) hskipped.positive
      (hskipped.below.trans hle) fun i hi hlt => by
        rw [hbitmap, h.bits]
        exact ⟨failure, hf, hi, hlt⟩
    exact ⟨_, List.mem_map_of_mem hrun, hfrom, hto⟩
  · rw [rangesFromBitmap, countUnrecoveredRanges_runs hruns le_rfl (fun _ hp => by cases hp),
      Nat.zero_add, hpassed.bits, count_beyond hbelow hle, ← h.summed, h.sectors, hbitmap]
  · rw [rangesFromBitmap, List.length_map, hpassed.count, hbitmap,
      count_beyond (fun i hi => h.below (runStart_imp hi)) hle, ← h.regions]

/-- Every digit that was read is one. -/
theorem ofHexDigits_digits (h : ofHexDigits digits = some bytes) (hdigit : digit ∈ digits) :
    hexDigitValue digit ≠ none := by
  induction digits using ofHexDigits.induct generalizing bytes with
  | case1 => cases hdigit
  | case2 => cases h
  | case3 high low rest ih =>
    rw [ofHexDigits] at h
    cases hhigh : hexDigitValue high with
    | none => simp [hhigh] at h
    | some _ =>
      cases hlow : hexDigitValue low with
      | none => simp [hhigh, hlow] at h
      | some _ =>
        cases hrest : ofHexDigits rest with
        | none => simp [hhigh, hlow, hrest] at h
        | some _ =>
          rcases List.mem_cons.1 hdigit with rfl | hdigit
          · simp [hhigh]
          · rcases List.mem_cons.1 hdigit with rfl | hdigit
            · simp [hlow]
            · exact ih hrest hdigit

theorem InitialCopyState.Records.none_skipped (h : st.Records total lba skips)
    (hzero : st.skippedSectorCount = 0) : skips = [] := by
  cases skips with
  | nil => rfl
  | cons failure skips =>
    have hpositive := (h.skipped failure List.mem_cons_self).positive
    have hsum := h.summed
    rw [List.map_cons, List.sum_cons] at hsum
    omega

/-- The map that the parser works with; a copy that skipped nothing prints none. -/
def InitialCopyState.shownBitmap (st : InitialCopyState) (total : Nat) : List UInt8 :=
  if st.skippedSectorCount = 0 then List.replicate ((total + 7) / 8) 0
  else st.skippedSectorBitmap

theorem InitialCopyState.Records.shown (h : st.Records total lba skips) :
    bitmapBit (st.shownBitmap total) = bitmapBit st.skippedSectorBitmap ∧
      (st.shownBitmap total).length = (total + 7) / 8 := by
  rw [InitialCopyState.shownBitmap]
  split
  next hzero =>
    refine ⟨funext fun i => ?_, List.length_replicate⟩
    have hnone : ¬bitmapBit st.skippedSectorBitmap i = true := by
      rw [h.bits, h.none_skipped hzero]
      simp
    rw [bitmapBit_replicate, Bool.eq_false_of_not_eq_true hnone]
  next => exact ⟨rfl, h.length⟩

/-- The set bits of the map are the sectors that the copy counted. -/
theorem InitialCopyState.Records.counted (h : st.Records total lba skips) (hle : lba ≤ total) :
    RipDvd.skippedSectorCount (st.shownBitmap total) = st.skippedSectorCount := by
  obtain ⟨hbits, hlength⟩ := h.shown
  rw [RipDvd.skippedSectorCount, sum_bitCount, hbits, hlength,
    count_beyond (fun _ hi => h.below hi) (by omega), h.sectors]

/-- What the worker reads of an initial copy. -/
def InitialCopyState.result (st : InitialCopyState) (declared retained : Nat)
    (skips : List ReadFailure) : DvdInitialCopyResult where
  declaredByteCount := declared
  recoveredByteCount := retained - st.skippedSectorCount * DVD_SECTOR_SIZE_BYTES
  skippedRequestCount := skips.length
  diagnosticsTruncated := decide (INITIAL_COPY_DIAGNOSTIC_LIMIT < skips.length)
  diagnostics := (skips.take INITIAL_COPY_DIAGNOSTIC_LIMIT).map ReadFailure.initialCopyDiagnostic
  unrecoveredSourceRanges :=
    rangesFromBitmap st.skippedSectorBitmap (declared / DVD_SECTOR_SIZE_BYTES)

/-- The number of sectors that a copy skipped is at most of those it came past. -/
theorem InitialCopyState.Records.small (h : st.Records total lba skips) :
    st.skippedSectorCount ≤ lba ∧ skips.length ≤ st.skippedSectorCount ∧
      (st.skippedSectorCount = 0 ↔ skips.length = 0) := by
  have hcount : st.skippedSectorCount ≤ lba := by
    rw [h.sectors]
    exact Nat.count_le _
  have hlength : skips.length ≤ st.skippedSectorCount := by
    rw [h.summed, ← List.length_map ReadFailure.blockCount]
    apply List.length_le_sum_of_one_le
    intro count hcount
    obtain ⟨failure, hfailure, rfl⟩ := List.mem_map.1 hcount
    exact (h.skipped failure hfailure).positive
  refine ⟨hcount, hlength, ?_, ?_⟩
  · intro hzero
    rw [h.none_skipped hzero]
    rfl
  · intro hzero
    have hsum := h.summed
    rw [List.eq_nil_of_length_eq_zero hzero] at hsum
    exact hsum

theorem DeclaredByteCount.safe (h : DeclaredByteCount declared) : declared ≤ maxSafeInteger := by
  have hbounded := h.bounded
  simp only [MAX_DVD_CONTENT_BYTES, maxSafeInteger] at *
  omega

/-- An image of whole sectors of a medium is of a size that a result may be about. -/
theorem DeclaredByteCount.sizes (h : DeclaredByteCount declared) (hpositive : 0 < lba)
    (hle : lba ≤ declared / DVD_SECTOR_SIZE_BYTES) :
    ValidInitialCopySizes declared (lba * DVD_SECTOR_SIZE_BYTES) := by
  have hbytes : lba * DVD_SECTOR_SIZE_BYTES ≤ declared :=
    (Nat.mul_le_mul_right _ hle).trans (Nat.div_mul_le_self declared _)
  refine ⟨h.safe, h.positive, h.sectors, ?_, hbytes, Nat.mul_mod_left lba _⟩
  simp only [DVD_SECTOR_SIZE_BYTES]
  omega

/-- The loop over the diagnostics of a copy counts the sectors of the requests they are about. -/
theorem InitialCopyState.Records.covered (h : st.Records total lba skips) (hle : lba ≤ total)
    (hmax : total ≤ maxSafeInteger) :
    coverDiagnostics lba (rangesFromBitmap st.skippedSectorBitmap total) 0 0
        ((skips.take INITIAL_COPY_DIAGNOSTIC_LIMIT).map ReadFailure.initialCopyDiagnostic) =
      some ((skips.take INITIAL_COPY_DIAGNOSTIC_LIMIT).map ReadFailure.blockCount).sum := by
  obtain ⟨hranges, -⟩ := h.ranges hle rfl
  have hmem (diagnostic : DvdInitialCopyDiagnostic) (hd : diagnostic ∈
      (skips.take INITIAL_COPY_DIAGNOSTIC_LIMIT).map ReadFailure.initialCopyDiagnostic) :
      ∃ failure ∈ skips, failure.initialCopyDiagnostic = diagnostic := by
    obtain ⟨failure, hfailure, heq⟩ := List.mem_map.1 hd
    exact ⟨failure, List.mem_of_mem_take hfailure, heq⟩
  rw [coverDiagnostics_some]
  · rw [List.map_map, Nat.zero_add]
    rfl
  · intro diagnostic hd
    obtain ⟨failure, hfailure, rfl⟩ := hmem diagnostic hd
    exact (h.skipped failure hfailure).accepted le_rfl (hle.trans hmax)
  · apply List.pairwise_map.2
    exact List.Pairwise.sublist (List.take_sublist _ _) h.ordered
  · intro diagnostic _
    exact Nat.zero_le _
  · exact hranges.apart
  · intro diagnostic hd
    obtain ⟨failure, hfailure, rfl⟩ := hmem diagnostic hd
    exact hranges.contained failure hfailure

/-- The worker's own check accepts what it read. -/
theorem InitialCopyState.Records.valid
    (h : st.Records (declared / DVD_SECTOR_SIZE_BYTES) lba skips)
    (hdeclared : DeclaredByteCount declared) (hpositive : 0 < lba)
    (hle : lba ≤ declared / DVD_SECTOR_SIZE_BYTES) (message : String) :
    validateDvdInitialCopyResult (st.result declared (lba * DVD_SECTOR_SIZE_BYTES) skips) declared
      message (lba * DVD_SECTOR_SIZE_BYTES) = .ok () := by
  have hsizes := hdeclared.sizes hpositive hle
  have hmax : declared / DVD_SECTOR_SIZE_BYTES ≤ maxSafeInteger :=
    (Nat.div_le_self _ _).trans hdeclared.safe
  obtain ⟨hranges, hlength⟩ := h.ranges hle rfl
  obtain ⟨hsectors, hrequests, hzero⟩ := h.small
  have hcounted := hranges.counted
  have hcovered := h.covered hle hmax
  have hfew := h.few
  have hsectorsAt : lba * DVD_SECTOR_SIZE_BYTES / DVD_SECTOR_SIZE_BYTES = lba :=
    Nat.mul_div_cancel lba (by decide)
  have hrecovered : ((lba * DVD_SECTOR_SIZE_BYTES -
      st.skippedSectorCount * DVD_SECTOR_SIZE_BYTES : Nat) : Int) =
      (lba * DVD_SECTOR_SIZE_BYTES : Nat) - st.skippedSectorCount * DVD_SECTOR_SIZE_BYTES := by
    simp only [DVD_SECTOR_SIZE_BYTES]
    omega
  rw [← h.summed] at hcounted
  generalize hresult : st.result declared (lba * DVD_SECTOR_SIZE_BYTES) skips = result
  have hrequested : result.skippedRequestCount = skips.length := by rw [← hresult]; rfl
  have hunrecovered : result.unrecoveredSourceRanges =
      rangesFromBitmap st.skippedSectorBitmap (declared / DVD_SECTOR_SIZE_BYTES) := by
    rw [← hresult]
    rfl
  have hdiagnostics : result.diagnostics =
      (skips.take INITIAL_COPY_DIAGNOSTIC_LIMIT).map ReadFailure.initialCopyDiagnostic := by
    rw [← hresult]
    rfl
  have htruncated : result.diagnosticsTruncated =
      decide (INITIAL_COPY_DIAGNOSTIC_LIMIT < skips.length) := by
    rw [← hresult]
    rfl
  have hnot : ¬(result.declaredByteCount ≠ declared ∨
      (result.recoveredByteCount : Int) ≠
        (lba * DVD_SECTOR_SIZE_BYTES : Nat) - st.skippedSectorCount * DVD_SECTOR_SIZE_BYTES ∨
      maxSafeInteger < result.skippedRequestCount ∨
      result.skippedRequestCount < result.unrecoveredSourceRanges.length ∨
      st.skippedSectorCount < result.skippedRequestCount ∨
      decide (st.skippedSectorCount = 0) ≠ decide (result.skippedRequestCount = 0) ∨
      result.diagnostics.length ≠
        min result.skippedRequestCount INITIAL_COPY_DIAGNOSTIC_LIMIT ∨
      result.diagnosticsTruncated ≠
        decide (INITIAL_COPY_DIAGNOSTIC_LIMIT < result.skippedRequestCount)) := by
    have hdeclares : result.declaredByteCount = declared := by rw [← hresult]; rfl
    have hrecovers : result.recoveredByteCount = lba * DVD_SECTOR_SIZE_BYTES -
        st.skippedSectorCount * DVD_SECTOR_SIZE_BYTES := by
      rw [← hresult]
      rfl
    simp only [ne_eq, hdeclares, hrecovers, hrecovered, hrequested, hunrecovered,
      hlength, hdiagnostics, htruncated, List.length_map, List.length_take, hzero,
      not_true_eq_false, false_or, or_false]
    omega
  have huntruncated : ¬(¬result.diagnosticsTruncated = true ∧
      ((skips.take INITIAL_COPY_DIAGNOSTIC_LIMIT).map ReadFailure.blockCount).sum ≠
        st.skippedSectorCount) := by
    rintro ⟨hfits, hne⟩
    rw [htruncated, decide_eq_true_eq, Nat.not_lt] at hfits
    rw [List.take_of_length_le hfits, h.summed] at hne
    exact hne rfl
  rw [← hunrecovered] at hcounted hcovered
  rw [← hdiagnostics] at hcovered
  simp only [validateDvdInitialCopyResult, rejectIf, hsizes, not_true_eq_false, if_false,
    hsectorsAt, hcounted, orThrow, if_neg hnot, hcovered, if_neg huntruncated, Bind.bind,
    Except.bind]

theorem mapM_parseDiagnostic (failures : List ReadFailure)
    (hskipped : ∀ failure ∈ failures, failure.SkippedBelow lba)
    (hmax : lba ≤ maxSafeInteger) :
    (failures.map emitInitialCopyDiagnostic).mapM
      (fun diagnostic => parseDiagnostic diagnostic lba) =
      .ok (failures.map ReadFailure.initialCopyDiagnostic) := by
  induction failures with
  | nil => rfl
  | cons failure failures ih =>
    rw [List.map_cons, List.mapM_cons,
      parseDiagnostic_skipped (hskipped failure List.mem_cons_self) le_rfl hmax,
      ih fun other hother => hskipped other (List.mem_cons_of_mem _ hother)]
    rfl

theorem keys_initialCopyResult (declared retained : Nat) (st : InitialCopyState) :
    (emitInitialCopyResult declared retained st).keys.insertionSort (· ≤ ·) =
      INITIAL_COPY_RESULT_KEYS := by
  have hfst : (emitInitialCopyResult declared retained st).keys = ["protocolVersion",
    "copyPolicyVersion", "declaredByteCount", "recoveredByteCount", "skippedSectorCount",
    "skippedRegionCount", "skippedSectorBitmapHex", "skippedRequestCount", "diagnosticsTruncated",
    "diagnostics"] := rfl
  rw [hfst]
  decide

/-- The parser reads the line of an initial copy as what the copy recorded. -/
theorem InitialCopyState.Records.parse
    (h : st.Records (declared / DVD_SECTOR_SIZE_BYTES) lba skips)
    (hdeclared : DeclaredByteCount declared) (hpositive : 0 < lba)
    (hle : lba ≤ declared / DVD_SECTOR_SIZE_BYTES) :
    parseDvdInitialCopyResultProtocol
        (emitInitialCopyResult declared (lba * DVD_SECTOR_SIZE_BYTES) st) declared
        (lba * DVD_SECTOR_SIZE_BYTES) =
      .ok (st.result declared (lba * DVD_SECTOR_SIZE_BYTES) skips) := by
  have hsizes := hdeclared.sizes hpositive hle
  have hsafe := hdeclared.safe
  have hmax : declared / DVD_SECTOR_SIZE_BYTES ≤ maxSafeInteger :=
    (Nat.div_le_self _ _).trans hsafe
  have hsectorsAt : lba * DVD_SECTOR_SIZE_BYTES / DVD_SECTOR_SIZE_BYTES = lba :=
    Nat.mul_div_cancel lba (by decide)
  obtain ⟨hbits, hwidth⟩ := h.shown
  have hcounted := h.counted hle
  obtain ⟨-, hlength⟩ := h.ranges hle hbits
  obtain ⟨hsectors, hrequests, hzero⟩ := h.small
  have hfew := h.few
  have hrequested := h.requests
  have hvalid := h.valid hdeclared hpositive hle INITIAL_COPY_RESULT_MALFORMED
  generalize hjson : emitInitialCopyResult declared (lba * DVD_SECTOR_SIZE_BYTES) st = parsed
  have hkeys : parsed.keys.insertionSort (· ≤ ·) = INITIAL_COPY_RESULT_KEYS := by
    rw [← hjson]
    exact keys_initialCopyResult declared _ st
  have g1 : isNumber (parsed.get "protocolVersion") 1 = true := by
    rw [← hjson]
    rfl
  have g2 : isString (parsed.get "copyPolicyVersion") DVD_INITIAL_COPY_POLICY_VERSION = true := by
    rw [← hjson]
    rfl
  have g3 : isNumber (parsed.get "declaredByteCount") declared = true := by
    rw [← hjson]
    exact (isNumber_number declared declared).trans (decide_eq_true rfl)
  have g4 : safeNonNegativeInteger (parsed.get "recoveredByteCount") =
      some (lba * DVD_SECTOR_SIZE_BYTES - st.skippedSectorCount * DVD_SECTOR_SIZE_BYTES) := by
    rw [← hjson]
    exact safeNonNegativeInteger_number ((Nat.sub_le _ _).trans (hsizes.2.2.2.2.1.trans hsafe))
  have g5 : safeNonNegativeInteger (parsed.get "skippedSectorCount") =
      some st.skippedSectorCount := by
    rw [← hjson]
    exact safeNonNegativeInteger_number (hsectors.trans (hle.trans hmax))
  have g6 : safeNonNegativeInteger (parsed.get "skippedRegionCount") =
      some st.skippedRegionCount := by
    rw [← hjson]
    exact safeNonNegativeInteger_number (by omega)
  have g7 : safeNonNegativeInteger (parsed.get "skippedRequestCount") = some skips.length := by
    rw [← hjson, ← hrequested]
    exact safeNonNegativeInteger_number (by omega)
  have g8 : booleanValue (parsed.get "diagnosticsTruncated") =
      some (decide (INITIAL_COPY_DIAGNOSTIC_LIMIT < skips.length)) := by
    have hlimit : st.diagnostics.length < st.skippedRequestCount ↔
        INITIAL_COPY_DIAGNOSTIC_LIMIT < skips.length := by
      rw [h.diagnostics, List.length_take, hrequested]
      omega
    rw [← hjson, ← decide_eq_decide.2 hlimit]
    rfl
  have g9 : arrayValue (parsed.get "diagnostics") =
      some ((skips.take INITIAL_COPY_DIAGNOSTIC_LIMIT).map emitInitialCopyDiagnostic) := by
    rw [← hjson, ← h.diagnostics]
    rfl
  have g10 : stringValue (parsed.get "skippedSectorBitmapHex") =
      some (if 0 < st.skippedSectorCount then toHex st.skippedSectorBitmap else "") := by
    rw [← hjson]
    rfl
  generalize hhex : (if 0 < st.skippedSectorCount then toHex st.skippedSectorBitmap else "") = hex
    at g10
  have hdigits : ¬∃ digit ∈ hex.toList, hexDigitValue digit = none := by
    rintro ⟨digit, hdigit, hnone⟩
    rw [← hhex] at hdigit
    split at hdigit
    · rw [toHex, String.toList_ofList] at hdigit
      exact ofHexDigits_digits (ofHexDigits_flatMap st.skippedSectorBitmap) hdigit hnone
    · cases hdigit
  have hfits : ¬(st.skippedSectorCount = 0 ∧ hex ≠ "" ∨ 0 < st.skippedSectorCount ∧
      hex.length ≠ (declared / DVD_SECTOR_SIZE_BYTES + 7) / 8 * 2) := by
    rintro (⟨hnone, hne⟩ | ⟨hsome, hne⟩)
    · rw [← hhex, hnone] at hne
      exact hne rfl
    · rw [← hhex, if_pos hsome, length_toHex, h.length] at hne
      exact hne rfl
  have hbitmap : (if st.skippedSectorCount = 0 then
        some (List.replicate ((declared / DVD_SECTOR_SIZE_BYTES + 7) / 8) 0)
      else ofHexDigits hex.toList) = some (st.shownBitmap (declared / DVD_SECTOR_SIZE_BYTES)) := by
    rw [InitialCopyState.shownBitmap]
    split
    · rfl
    next hsome =>
      rw [← hhex, if_pos (Nat.pos_of_ne_zero hsome), toHex, String.toList_ofList]
      exact ofHexDigits_flatMap _
  have hlast : ¬(declared / DVD_SECTOR_SIZE_BYTES % 8 ≠ 0 ∧
      ((st.shownBitmap (declared / DVD_SECTOR_SIZE_BYTES)).getLastD 0).toNat >>>
        (declared / DVD_SECTOR_SIZE_BYTES % 8) ≠ 0) := by
    rintro ⟨hpart, hset⟩
    apply hset
    apply last_byte_clear hwidth _ hpart
    intro i hi
    rw [hbits] at hi
    exact (h.below hi).trans_le hle
  have hbounds : ¬(declared < lba * DVD_SECTOR_SIZE_BYTES -
        st.skippedSectorCount * DVD_SECTOR_SIZE_BYTES ∨
      declared / DVD_SECTOR_SIZE_BYTES < st.skippedSectorCount ∨
      declared / DVD_SECTOR_SIZE_BYTES < st.skippedRegionCount ∨
      declared / DVD_SECTOR_SIZE_BYTES < skips.length) := by
    have hbytes := hsizes.2.2.2.2.1
    omega
  have hchecks : ¬(RipDvd.skippedSectorCount (st.shownBitmap (declared / DVD_SECTOR_SIZE_BYTES)) ≠
        st.skippedSectorCount ∨
      (rangesFromBitmap (st.shownBitmap (declared / DVD_SECTOR_SIZE_BYTES))
        (declared / DVD_SECTOR_SIZE_BYTES)).length ≠ st.skippedRegionCount ∨
      ((lba * DVD_SECTOR_SIZE_BYTES - st.skippedSectorCount * DVD_SECTOR_SIZE_BYTES : Nat) : Int) ≠
        (lba * DVD_SECTOR_SIZE_BYTES : Nat) -
          RipDvd.skippedSectorCount (st.shownBitmap (declared / DVD_SECTOR_SIZE_BYTES)) *
            DVD_SECTOR_SIZE_BYTES ∨
      decide (RipDvd.skippedSectorCount (st.shownBitmap (declared / DVD_SECTOR_SIZE_BYTES)) = 0) ≠
        decide (skips.length = 0) ∨
      skips.length < (rangesFromBitmap (st.shownBitmap (declared / DVD_SECTOR_SIZE_BYTES))
        (declared / DVD_SECTOR_SIZE_BYTES)).length) := by
    simp only [ne_eq, hcounted, hlength, hzero, not_true_eq_false, false_or]
    simp only [DVD_SECTOR_SIZE_BYTES]
    omega
  have hmapM := mapM_parseDiagnostic (skips.take INITIAL_COPY_DIAGNOSTIC_LIMIT)
    (fun failure hf => h.skipped failure (List.mem_of_mem_take hf)) (hle.trans hmax)
  have hranges : rangesFromBitmap (st.shownBitmap (declared / DVD_SECTOR_SIZE_BYTES))
        (declared / DVD_SECTOR_SIZE_BYTES) =
      rangesFromBitmap st.skippedSectorBitmap (declared / DVD_SECTOR_SIZE_BYTES) := by
    rw [rangesFromBitmap, hbits]
    rfl
  have hvalid' : validateDvdInitialCopyResult {
      declaredByteCount := declared
      recoveredByteCount := lba * DVD_SECTOR_SIZE_BYTES -
        st.skippedSectorCount * DVD_SECTOR_SIZE_BYTES
      skippedRequestCount := skips.length
      diagnosticsTruncated := decide (INITIAL_COPY_DIAGNOSTIC_LIMIT < skips.length)
      diagnostics :=
        (skips.take INITIAL_COPY_DIAGNOSTIC_LIMIT).map ReadFailure.initialCopyDiagnostic
      unrecoveredSourceRanges := rangesFromBitmap
        (st.shownBitmap (declared / DVD_SECTOR_SIZE_BYTES)) (declared / DVD_SECTOR_SIZE_BYTES) }
      declared INITIAL_COPY_RESULT_MALFORMED (lba * DVD_SECTOR_SIZE_BYTES) = .ok () := by
    rw [hranges]
    exact hvalid
  rw [parseDvdInitialCopyResultProtocol]
  refine bind_ok.2 ⟨(), rejectIf_ok.2 (not_not.2 hkeys), ?_⟩
  refine bind_ok.2 ⟨(), rejectIf_ok.2 (not_not.2 hsizes), ?_⟩
  refine bind_ok.2 ⟨(), rejectIf_ok.2 ?_, ?_⟩
  · simp only [g1, g2, g3, not_true_eq_false, or_self, not_false_eq_true]
  refine bind_ok.2 ⟨_, congrArg (orThrow _) g4, bind_ok.2 ⟨_, congrArg (orThrow _) g5, ?_⟩⟩
  refine bind_ok.2 ⟨_, congrArg (orThrow _) g6, bind_ok.2 ⟨_, congrArg (orThrow _) g7, ?_⟩⟩
  refine bind_ok.2 ⟨(), rejectIf_ok.2 hbounds, bind_ok.2 ⟨_, congrArg (orThrow _) g8, ?_⟩⟩
  refine bind_ok.2 ⟨_, congrArg (orThrow _) g9, bind_ok.2 ⟨_, congrArg (orThrow _) g10, ?_⟩⟩
  refine bind_ok.2 ⟨(), rejectIf_ok.2 hdigits, bind_ok.2 ⟨(), rejectIf_ok.2 hfits, ?_⟩⟩
  refine bind_ok.2 ⟨_, congrArg (orThrow _) hbitmap, bind_ok.2 ⟨(), rejectIf_ok.2 hlast, ?_⟩⟩
  refine bind_ok.2 ⟨(), rejectIf_ok.2 hchecks, ?_⟩
  rw [hsectorsAt]
  refine bind_ok.2 ⟨_, hmapM, bind_ok.2 ⟨(), hvalid', ?_⟩⟩
  rw [hranges]
  rfl

end RipDvd
