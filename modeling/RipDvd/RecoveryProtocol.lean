import RipDvd.FailureAgreement
import RipDvd.BitmapRuns
import RipDvd.EvidenceTransitions

namespace RipDvd
set_option autoImplicit true

open Json

/-- What the copy helper prints about the sectors it could not read. -/
@[ext] structure DvdRecoveryProtocolPayload where
  declaredByteCount : Nat
  recoveredByteCount : Nat
  badSectorCount : Nat
  badAreaCount : Nat
  badSectorBitmapHex : String
  deriving DecidableEq

def DvdRecoveryProtocolPayload.json (payload : DvdRecoveryProtocolPayload) : Json :=
  .object [
    ("protocolVersion", number 1),
    ("declaredByteCount", number payload.declaredByteCount),
    ("recoveredByteCount", number payload.recoveredByteCount),
    ("recoveryPolicyVersion", string DVD_RECOVERY_POLICY_VERSION),
    ("badSectorCount", number payload.badSectorCount),
    ("badAreaCount", number payload.badAreaCount),
    ("badSectorBitmapHex", string payload.badSectorBitmapHex)]

/-- Set the bits of the sectors of some ranges. -/
def markRanges (bitmap : List UInt8) (ranges : List UnreadableSectorRange) : List UInt8 :=
  ranges.foldl (fun bitmap range => setBitmapBits bitmap range.startLba range.sectorCount) bitmap

def formatDvdRecoveryResumeBitmap (result : DvdRecoveryResult) : String :=
  let totalSectorCount := result.declaredByteCount / DVD_SECTOR_SIZE_BYTES
  toHex (markRanges (List.replicate ((totalSectorCount + 7) / 8) 0) result.unrecoveredSectorRanges)

def createDvdRecoveryProtocolPayload (result : DvdRecoveryResult) : DvdRecoveryProtocolPayload where
  declaredByteCount := result.declaredByteCount
  recoveredByteCount := result.recoveredByteCount
  badSectorCount := result.badSectorCount
  badAreaCount := result.badAreaCount
  badSectorBitmapHex := match result.outcome with
    | .clean => ""
    | .damaged => formatDvdRecoveryResumeBitmap result

/-- A sector lies in one of the ranges. -/
def Holds (ranges : List UnreadableSectorRange) (lba : Nat) : Prop :=
  ∃ range ∈ ranges, range.startLba ≤ lba ∧ lba < range.startLba + range.sectorCount

/-- Ascending nonempty ranges with gaps between them, inside an extent. -/
structure Separated (ranges : List UnreadableSectorRange) (totalSectorCount : Nat) : Prop where
  apart : ranges.Pairwise fun a b => a.startLba + a.sectorCount < b.startLba
  nonempty : ∀ range ∈ ranges, 0 < range.sectorCount
  inside : ∀ range ∈ ranges, range.startLba + range.sectorCount ≤ totalSectorCount

/-- A damaged result whose ranges are separated and whose counts are those of its ranges. -/
structure DvdRecoveryResult.Damaged (result : DvdRecoveryResult) : Prop where
  outcome : result.outcome = .damaged
  sectors : result.declaredByteCount % DVD_SECTOR_SIZE_BYTES = 0
  some : result.unrecoveredSectorRanges ≠ []
  separated : Separated result.unrecoveredSectorRanges
    (result.declaredByteCount / DVD_SECTOR_SIZE_BYTES)
  badSectorCount : result.badSectorCount =
    (result.unrecoveredSectorRanges.map (·.sectorCount)).sum
  badAreaCount : result.badAreaCount = result.unrecoveredSectorRanges.length
  recoveredByteCount : result.recoveredByteCount =
    result.declaredByteCount - result.badSectorCount * DVD_SECTOR_SIZE_BYTES

/-- A result for a medium whose size is a safe integer, as all sizes here are. -/
structure DvdRecoveryResult.Valid (result : DvdRecoveryResult) : Prop where
  safe : result.declaredByteCount ≤ maxSafeInteger
  known : result = createCleanDvdRecoveryResult result.declaredByteCount ∨ result.Damaged

theorem Separated.tail (h : Separated (range :: ranges) total) : Separated ranges total :=
  ⟨h.apart.tail, fun r hr => h.nonempty r (List.mem_cons_of_mem _ hr),
    fun r hr => h.inside r (List.mem_cons_of_mem _ hr)⟩

/-- The ranges as runs of a map. -/
theorem Separated.runs (h : Separated ranges total) :
    RunsApart (ranges.map fun range => (range.startLba, range.sectorCount)) total :=
  ⟨List.pairwise_map.2 h.apart, List.forall_mem_map.2 h.nonempty, List.forall_mem_map.2 h.inside⟩

theorem RunsApart.separated (h : RunsApart runs total) :
    Separated (runs.map fun run => ⟨run.1, run.2⟩) total :=
  ⟨List.pairwise_map.2 h.apart, List.forall_mem_map.2 h.nonempty, List.forall_mem_map.2 h.below⟩

/-- The same ranges, all of one class. -/
def classified (ranges : List UnreadableSectorRange) : List UnrecoveredSourceRange :=
  ranges.map fun range => ⟨range.startLba, range.sectorCount, .individuallyFailed⟩

theorem lists_classified :
    Lists (classified ranges) lba c ↔
      Holds ranges lba ∧ SourceClassification.individuallyFailed = c := by
  simp only [Lists, classified, List.mem_map, exists_exists_and_eq_and,
    contains_iff, Holds]
  constructor
  · rintro ⟨range, hr, hin, rfl⟩
    exact ⟨⟨range, hr, hin⟩, rfl⟩
  · rintro ⟨⟨range, hr, hin⟩, rfl⟩
    exact ⟨range, hr, hin, rfl⟩

theorem Separated.normalized (h : Separated ranges total) : Normalized (classified ranges) := by
  constructor
  · exact List.forall_mem_map.2 h.nonempty
  · apply List.Pairwise.isChain
    apply List.pairwise_map.2
    apply h.apart.imp
    intro a b hab
    exact ⟨hab.le, fun he => absurd he hab.ne⟩

/-- Separated ranges are the only ones of their sectors. -/
theorem Separated.ext (h : Separated ranges total) (h' : Separated others total')
    (hl : ∀ lba, Holds ranges lba ↔ Holds others lba) : ranges = others := by
  have heq : classified ranges = classified others :=
    h.normalized.ext h'.normalized fun lba c => by
      rw [lists_classified, lists_classified, hl]
  refine (List.map_injective_iff.2 fun a b hab => ?_) heq
  cases a
  cases b
  simp only [UnrecoveredSourceRange.mk.injEq] at hab
  rw [hab.1, hab.2.1]

@[simp] theorem length_markRanges (bitmap : List UInt8) (ranges : List UnreadableSectorRange) :
    (markRanges bitmap ranges).length = bitmap.length := by
  induction ranges generalizing bitmap with
  | nil => rfl
  | cons range ranges ih => exact (ih _).trans (length_setBitmapBits _ _ _)

theorem bitmapBit_markRanges {bitmap : List UInt8}
    (hwidth : ∀ range ∈ ranges, range.startLba + range.sectorCount ≤ 8 * bitmap.length) :
    bitmapBit (markRanges bitmap ranges) lba = true ↔
      Holds ranges lba ∨ bitmapBit bitmap lba = true := by
  induction ranges generalizing bitmap with
  | nil => simp [markRanges, Holds]
  | cons range ranges ih =>
    have hfirst := hwidth range List.mem_cons_self
    have hrest : ∀ r ∈ ranges, r.startLba + r.sectorCount ≤
        8 * (setBitmapBits bitmap range.startLba range.sectorCount).length := fun r hr => by
      rw [length_setBitmapBits]
      exact hwidth r (List.mem_cons_of_mem _ hr)
    have hstep := ih hrest
    rw [bitmapBit_setBitmapBits hfirst, Bool.or_eq_true, decide_eq_true_eq] at hstep
    refine hstep.trans ?_
    simp only [Holds, List.exists_mem_cons_iff]
    exact or_left_comm.trans (or_assoc.symm)

/-- A map of a medium's sectors and the ranges it stands for. -/
structure BitmapOf (bitmap : List UInt8) (ranges : List UnreadableSectorRange)
    (totalSectorCount : Nat) : Prop where
  length : bitmap.length = (totalSectorCount + 7) / 8
  separated : Separated ranges totalSectorCount
  bits : ∀ lba, bitmapBit bitmap lba = true ↔ Holds ranges lba

theorem BitmapOf.below (h : BitmapOf bitmap ranges total) (hbit : bitmapBit bitmap lba = true) :
    lba < total := by
  obtain ⟨range, hr, hin⟩ := (h.bits lba).1 hbit
  have := h.separated.inside range hr
  omega

/-- The map that is formatted for separated ranges is theirs. -/
theorem Separated.bitmapOf (h : Separated ranges total) :
    BitmapOf (markRanges (List.replicate ((total + 7) / 8) 0) ranges) ranges total := by
  have hlen : (List.replicate ((total + 7) / 8) (0 : UInt8)).length = (total + 7) / 8 :=
    List.length_replicate
  refine ⟨(length_markRanges _ _).trans hlen, h, fun lba => ?_⟩
  rw [bitmapBit_markRanges fun range hr => by
    have := h.inside range hr
    omega, bitmapBit_replicate]
  simp

theorem BitmapOf.ext (h : BitmapOf a ranges total) (h' : BitmapOf b ranges total) : a = b := by
  apply bitmap_ext (h.length.trans h'.length.symm)
  intro lba
  rw [Bool.eq_iff_iff, h.bits, h'.bits]

/-- A scan finds the ranges of a map without padding bits, whether its last run is closed at the
extent or at the last bit. -/
theorem scan_bitmapOf {bitmap : List UInt8} (hlength : bitmap.length = (total + 7) / 8)
    (hbelow : ∀ lba, bitmapBit bitmap lba = true → lba < total) :
    BitmapOf bitmap (((RunScan.scanTo (bitmapBit bitmap) (bitmap.length * 8)).close total).map
      fun run => ⟨run.1, run.2⟩) total := by
  have hpassed := RunScan.scanTo_passed (bitmapBit bitmap) (bitmap.length * 8)
  have hclose : (RunScan.scanTo (bitmapBit bitmap) (bitmap.length * 8)).close total =
      (RunScan.scanTo (bitmapBit bitmap) (bitmap.length * 8)).close (bitmap.length * 8) := by
    cases hopen : (RunScan.scanTo (bitmapBit bitmap) (bitmap.length * 8)).rangeStart with
    | none => simp only [RunScan.close, hopen]
    | some start =>
      obtain ⟨-, hlast⟩ := hpassed.running hopen
      have hlt := hbelow _ hlast
      have heq : total = bitmap.length * 8 := by omega
      rw [← heq]
  rw [hclose]
  have hapart := hpassed.close_apart
  refine ⟨hlength, RunsApart.separated ⟨hapart.apart, hapart.nonempty,
    fun run hrun => hpassed.close_below hbelow hrun⟩, fun lba => ?_⟩
  simp only [Holds, List.mem_map, exists_exists_and_eq_and]
  constructor
  · intro hbit
    have hlt := hbelow lba hbit
    exact (RunScan.scanTo_mem (bitmapBit bitmap) (by omega)).1 hbit
  · rintro ⟨run, hrun, hin⟩
    have hend := hapart.below run hrun
    exact (RunScan.scanTo_mem (bitmapBit bitmap) (by omega)).2 ⟨run, hrun, hin⟩

/-- What the parser of a map accepts, and what it returns. -/
theorem parseBadSectorBitmap_ok :
    parseBadSectorBitmap bitmapHex total = .ok ranges ↔
      ∃ bitmap, toHex bitmap = bitmapHex ∧ BitmapOf bitmap ranges total := by
  simp only [parseBadSectorBitmap, bind_ok, rejectIf_ok, pure_ok, not_not, ne_eq]
  constructor
  · rintro ⟨_, hlength, bitmap, hdigits, _, hpast, rfl⟩
    cases hread : ofHexDigits bitmapHex.toList with
    | none =>
      rw [hread] at hdigits
      cases hdigits
    | some bytes =>
      rw [hread] at hdigits
      cases hdigits
      have hhex : toHex bitmap = bitmapHex := by
        rw [toHex, flatMap_ofHexDigits hread, String.ofList_toList]
      have hlen : bitmap.length = (total + 7) / 8 := by
        have := length_toHex bitmap
        rw [hhex] at this
        omega
      refine ⟨bitmap, hhex, scan_bitmapOf hlen fun lba hbit => ?_⟩
      by_contra hge
      apply hpast
      have hin : lba < bitmap.length * 8 := by
        by_contra hout
        rw [bitmapBit_of_length_le (by omega)] at hbit
        cases hbit
      exact List.any_eq_true.2 ⟨lba, List.mem_range.2 hin, by simp [hbit, Nat.le_of_not_lt hge]⟩
  · rintro ⟨bitmap, rfl, hmap⟩
    refine ⟨(), ?_, bitmap, ?_, (), ?_, ?_⟩
    · rw [length_toHex, hmap.length]
    · rw [toHex, String.toList_ofList, ofHexDigits_flatMap]
      rfl
    · rw [Bool.not_eq_true, List.any_eq_false]
      intro lba _ hlba
      rw [Bool.and_eq_true, decide_eq_true_eq] at hlba
      exact absurd (hmap.below hlba.2) (Nat.not_lt.2 hlba.1)
    · have hscan := scan_bitmapOf hmap.length fun lba => hmap.below
      apply hscan.separated.ext hmap.separated
      exact fun lba => (hscan.bits lba).symm.trans (hmap.bits lba)

theorem countNormalizedRanges_some :
    countNormalizedRanges total previousEndLba counted ranges = some n ↔
      Separated ranges total ∧ (∀ range ∈ ranges, previousEndLba < (range.startLba : Int)) ∧
        n = counted + (ranges.map (·.sectorCount)).sum := by
  induction ranges generalizing previousEndLba counted with
  | nil =>
    simp only [countNormalizedRanges, Option.some.injEq, List.map_nil, List.sum_nil, Nat.add_zero]
    constructor
    · rintro rfl
      exact ⟨⟨.nil, List.forall_mem_nil _, List.forall_mem_nil _⟩, List.forall_mem_nil _, rfl⟩
    · exact fun h => h.2.2.symm
  | cons range ranges ih =>
    simp only [countNormalizedRanges, List.map_cons, List.sum_cons, List.forall_mem_cons]
    constructor
    · intro h
      split at h
      · cases h
      · next hgood =>
        obtain ⟨hsep, hlater, hn⟩ := ih.1 h
        refine ⟨⟨List.pairwise_cons.2 ⟨fun r hr => ?_, hsep.apart⟩,
          List.forall_mem_cons.2 ⟨by omega, hsep.nonempty⟩,
          List.forall_mem_cons.2 ⟨by omega, hsep.inside⟩⟩, ⟨by omega, fun r hr => ?_⟩, by omega⟩
        · have := hlater r hr
          omega
        · have := hlater r hr
          omega
    · rintro ⟨hsep, ⟨hfirst, hlater⟩, rfl⟩
      have hpositive := hsep.nonempty range List.mem_cons_self
      have hinside := hsep.inside range List.mem_cons_self
      have hafter := (List.pairwise_cons.1 hsep.apart).1
      rw [if_neg (by omega), ih]
      refine ⟨hsep.tail, fun r hr => ?_, by omega⟩
      have := hafter r hr
      omega

theorem Separated.sum_pos (h : Separated ranges total) (hne : ranges ≠ []) :
    0 < (ranges.map (·.sectorCount)).sum := by
  cases ranges with
  | nil => exact absurd rfl hne
  | cons range ranges =>
    have := h.nonempty range List.mem_cons_self
    rw [List.map_cons, List.sum_cons]
    omega

/-- What the validation of a damaged result accepts. -/
theorem isNormalizedDamagedResult_iff :
    isNormalizedDamagedResult result expectedByteCount = true ↔
      result.declaredByteCount = expectedByteCount ∧ result.Damaged := by
  simp only [isNormalizedDamagedResult, Bool.and_eq_true, decide_eq_true_eq]
  constructor
  · rintro ⟨⟨⟨⟨⟨⟨hmod, hout⟩, rfl⟩, hbad⟩, harea⟩, hlen⟩, hcount⟩
    split at hcount
    · next n hn =>
      obtain ⟨hsep, -, rfl⟩ := countNormalizedRanges_some.1 hn
      rw [Nat.zero_add, Bool.and_eq_true, decide_eq_true_eq, decide_eq_true_eq] at hcount
      refine ⟨rfl, hout, hmod, fun he => ?_, hsep, hcount.1.symm, hlen.symm, hcount.1 ▸ hcount.2⟩
      rw [he] at hlen
      exact absurd hlen.symm (Nat.ne_of_gt harea)
    · cases hcount
  · rintro ⟨rfl, h⟩
    have hcount : countNormalizedRanges (result.declaredByteCount / DVD_SECTOR_SIZE_BYTES) (-1) 0
        result.unrecoveredSectorRanges = some result.badSectorCount :=
      countNormalizedRanges_some.2 ⟨h.separated, fun _ _ => by omega, by
        rw [h.badSectorCount, Nat.zero_add]⟩
    have hbad := h.badSectorCount ▸ h.separated.sum_pos h.some
    have harea := List.length_pos_of_ne_nil h.some
    simp only [hcount, Bool.and_eq_true, decide_eq_true_eq]
    exact ⟨⟨⟨⟨⟨⟨h.sectors, h.outcome⟩, trivial⟩, hbad⟩, h.badAreaCount ▸ harea⟩,
      h.badAreaCount.symm⟩, trivial, h.recoveredByteCount⟩

/-- The result that is made of a damaged one's ranges is that one. -/
theorem createDamagedDvdRecoveryResult_ok :
    createDamagedDvdRecoveryResult declared ranges = .ok result ↔
      result.Damaged ∧ result.declaredByteCount = declared ∧
        result.unrecoveredSectorRanges = ranges := by
  simp only [createDamagedDvdRecoveryResult, bind_ok, rejectIf_ok, not_not, pure_ok,
    isNormalizedDamagedResult_iff, true_and]
  constructor
  · rintro ⟨_, h, rfl⟩
    exact ⟨h, rfl, rfl⟩
  · rintro ⟨h, rfl, rfl⟩
    have heq : { outcome := .damaged
                 declaredByteCount := result.declaredByteCount
                 recoveredByteCount := result.declaredByteCount -
                  (result.unrecoveredSectorRanges.map (·.sectorCount)).sum * DVD_SECTOR_SIZE_BYTES
                 badSectorCount := (result.unrecoveredSectorRanges.map (·.sectorCount)).sum
                 badAreaCount := result.unrecoveredSectorRanges.length
                 unrecoveredSectorRanges := result.unrecoveredSectorRanges :
                   DvdRecoveryResult } = result := by
      rw [← h.badSectorCount, ← h.badAreaCount, ← h.recoveredByteCount, ← h.outcome]
    exact ⟨(), heq ▸ h, heq⟩

theorem isNumber_iff {value : Option Json} : isNumber value n = true ↔ value = some (number n) := by
  cases value with
  | none => simp [isNumber]
  | some value => cases value <;> simp [isNumber]

theorem isString_iff {value : Option Json} :
    isString value text = true ↔ value = some (string text) := by
  cases value with
  | none => simp [isString]
  | some value => cases value <;> simp [isString]

theorem stringValue_iff {value : Option Json} :
    stringValue value = some text ↔ value = some (string text) := by
  cases value with
  | none => simp [stringValue]
  | some value => cases value <;> simp [stringValue]

theorem safeNonNegativeInteger_some {value : Option Json}
    (h : safeNonNegativeInteger value = some n) : value = some (number n) := by
  unfold safeNonNegativeInteger at h
  split at h
  · split at h
    · next hm =>
      cases h
      rw [Int.toNat_of_nonneg hm.1]
    · cases h
  · cases h

/-- A payload's members as the parser finds them. -/
structure Carried (parsed : Json) (payload : DvdRecoveryProtocolPayload) : Prop where
  protocolVersion : isNumber (parsed.get "protocolVersion") 1 = true
  declaredByteCount :
    isNumber (parsed.get "declaredByteCount") payload.declaredByteCount = true
  recoveredByteCount : safeNonNegativeInteger (parsed.get "recoveredByteCount") =
    some payload.recoveredByteCount
  recoveryPolicyVersion :
    isString (parsed.get "recoveryPolicyVersion") DVD_RECOVERY_POLICY_VERSION = true
  badSectorCount : safeNonNegativeInteger (parsed.get "badSectorCount") =
    some payload.badSectorCount
  badAreaCount : safeNonNegativeInteger (parsed.get "badAreaCount") = some payload.badAreaCount
  badSectorBitmapHex : stringValue (parsed.get "badSectorBitmapHex") =
    some payload.badSectorBitmapHex

theorem orThrow_ok {message : String} {x : Option α} : orThrow message x = .ok a ↔ x = some a := by
  cases x with
  | none => exact ⟨fun h => (nomatch h), fun h => (nomatch h)⟩
  | some b => exact ⟨fun h => by cases h; rfl, fun h => by cases h; rfl⟩

/-- Between an accepted payload and its result: either nothing is missing, or the map stands for the
result's ranges and the counts are the result's. -/
def DecodesTo (payload : DvdRecoveryProtocolPayload) (result : DvdRecoveryResult) : Prop :=
  (payload.badSectorCount = 0 ∧ payload.badAreaCount = 0 ∧
    payload.recoveredByteCount = payload.declaredByteCount ∧ payload.badSectorBitmapHex = "" ∧
    result = createCleanDvdRecoveryResult payload.declaredByteCount) ∨
  (result.Damaged ∧ payload.declaredByteCount = result.declaredByteCount ∧
    payload.recoveredByteCount = result.recoveredByteCount ∧
    payload.badSectorCount = result.badSectorCount ∧ payload.badAreaCount = result.badAreaCount ∧
    ∃ bitmap, toHex bitmap = payload.badSectorBitmapHex ∧ BitmapOf bitmap
      result.unrecoveredSectorRanges (result.declaredByteCount / DVD_SECTOR_SIZE_BYTES))

theorem DvdRecoveryResult.Damaged.bad_pos {result : DvdRecoveryResult} (h : result.Damaged) :
    result.badSectorCount ≠ 0 :=
  h.badSectorCount ▸ Nat.ne_of_gt (h.separated.sum_pos h.some)

/-- What the parser accepts, and what it returns. -/
theorem parseDvdRecoveryResultProtocol_ok :
    parseDvdRecoveryResultProtocol parsed expectedByteCount = .ok result ↔
      ∃ payload : DvdRecoveryProtocolPayload, payload.declaredByteCount = expectedByteCount ∧
        Carried parsed payload ∧ DecodesTo payload result := by
  simp only [parseDvdRecoveryResultProtocol, bind_ok, rejectIf_ok, orThrow_ok, not_or, not_not]
  constructor
  · rintro ⟨_, ⟨hversion, hdeclared, hpolicy⟩, recovered, hrecovered, bad, hbad, area, harea, hex,
      hhex, h⟩
    refine ⟨⟨expectedByteCount, recovered, bad, area, hex⟩, rfl,
      ⟨hversion, hdeclared, hrecovered, hpolicy, hbad, harea, hhex⟩, ?_⟩
    by_cases hzero : bad = 0
    · rw [if_pos hzero] at h
      simp only [bind_ok, rejectIf_ok, pure_ok, not_or, ne_eq, not_not] at h
      obtain ⟨_, ⟨hareas, hrec, hempty⟩, rfl⟩ := h
      exact .inl ⟨hzero, hareas, hrec, hempty, rfl⟩
    · rw [if_neg hzero] at h
      simp only [bind_ok, rejectIf_ok, pure_ok, not_or, ne_eq, not_not, parseBadSectorBitmap_ok,
        createDamagedDvdRecoveryResult_ok] at h
      obtain ⟨_, -, ranges, ⟨bitmap, hbitmap, hmap⟩, result', ⟨hdam, rfl, rfl⟩, _,
        ⟨hrec, hbads, hareas⟩, rfl⟩ := h
      exact .inr ⟨hdam, rfl, hrec.symm, hbads.symm, hareas.symm, bitmap, hbitmap, hmap⟩
  · rintro ⟨payload, rfl, hc, hd⟩
    refine ⟨(), ⟨hc.protocolVersion, hc.declaredByteCount, hc.recoveryPolicyVersion⟩,
      _, hc.recoveredByteCount, _, hc.badSectorCount, _, hc.badAreaCount, _,
      hc.badSectorBitmapHex, ?_⟩
    rcases hd with ⟨hzero, hareas, hrec, hempty, rfl⟩ | ⟨hdam, hdecl, hrec, hbads, hareas, hmap⟩
    · rw [if_pos hzero]
      simp only [bind_ok, rejectIf_ok, not_or, ne_eq, not_not]
      exact ⟨(), ⟨hareas, hrec, hempty⟩, rfl⟩
    · rw [if_neg (hbads ▸ hdam.bad_pos)]
      simp only [bind_ok, rejectIf_ok, pure_ok, not_or, ne_eq, not_not, parseBadSectorBitmap_ok,
        createDamagedDvdRecoveryResult_ok, hdecl]
      exact ⟨(), hdam.sectors, _, hmap, result, ⟨hdam, rfl, rfl⟩, (),
        ⟨hrec.symm, hbads.symm, hareas.symm⟩, rfl⟩

theorem DecodesTo.of_valid (h : result.Valid) :
    DecodesTo (createDvdRecoveryProtocolPayload result) result := by
  rcases h.known with hclean | hdam
  · rw [hclean]
    exact .inl ⟨rfl, rfl, rfl, rfl, rfl⟩
  · refine .inr ⟨hdam, rfl, rfl, rfl, rfl, _, ?_, hdam.separated.bitmapOf⟩
    simp only [createDvdRecoveryProtocolPayload, hdam.outcome, formatDvdRecoveryResumeBitmap]

/-- The payload of a result is the one it was decoded from. -/
theorem DecodesTo.create (h : DecodesTo payload result) :
    createDvdRecoveryProtocolPayload result = payload := by
  rcases h with ⟨hzero, hareas, hrec, hempty, rfl⟩ |
    ⟨hdam, hdecl, hrec, hbads, hareas, bitmap, hhex, hmap⟩
  · cases payload
    simp only at hzero hareas hrec hempty
    rw [hzero, hareas, hrec, hempty]
    rfl
  · have hformat : formatDvdRecoveryResumeBitmap result = payload.badSectorBitmapHex := by
      rw [← hhex, hmap.ext hdam.separated.bitmapOf, formatDvdRecoveryResumeBitmap]
    cases payload
    simp only at hdecl hrec hbads hareas hformat
    simp only [createDvdRecoveryProtocolPayload, hdam.outcome, hformat, hdecl, hrec, hbads, hareas]

theorem DvdRecoveryResult.Damaged.areas_le {result : DvdRecoveryResult} (h : result.Damaged) :
    result.badAreaCount ≤ result.badSectorCount := by
  rw [h.badAreaCount, h.badSectorCount, ← List.length_map (·.sectorCount)]
  exact List.length_le_sum_of_one_le _ (List.forall_mem_map.2 h.separated.nonempty)

theorem Separated.sum_le (h : Separated ranges total)
    (hfrom : ∀ range ∈ ranges, start ≤ range.startLba) :
    (ranges.map (·.sectorCount)).sum ≤ total - start := by
  induction ranges generalizing start with
  | nil => exact Nat.zero_le _
  | cons range ranges ih =>
    have hinside := h.inside range List.mem_cons_self
    have hstart := hfrom range List.mem_cons_self
    have hrest := ih h.tail fun r hr => ((List.pairwise_cons.1 h.apart).1 r hr).le
    rw [List.map_cons, List.sum_cons]
    omega

theorem DvdRecoveryResult.Damaged.bad_le {result : DvdRecoveryResult} (h : result.Damaged) :
    result.badSectorCount ≤ result.declaredByteCount := by
  have hsum := h.separated.sum_le fun _ _ => Nat.zero_le _
  rw [← h.badSectorCount] at hsum
  exact hsum.trans (Nat.div_le_self _ _)

/-- The parser finds the members of a payload whose numbers are safe. -/
theorem DvdRecoveryProtocolPayload.carried {payload : DvdRecoveryProtocolPayload}
    (hrec : payload.recoveredByteCount ≤ maxSafeInteger)
    (hbad : payload.badSectorCount ≤ maxSafeInteger)
    (harea : payload.badAreaCount ≤ maxSafeInteger) : Carried payload.json payload where
  protocolVersion := rfl
  declaredByteCount := by
    exact isNumber_iff.2 rfl
  recoveredByteCount := safeNonNegativeInteger_number hrec
  recoveryPolicyVersion := rfl
  badSectorCount := safeNonNegativeInteger_number hbad
  badAreaCount := safeNonNegativeInteger_number harea
  badSectorBitmapHex := rfl

theorem DvdRecoveryResult.Valid.carried (h : result.Valid) :
    Carried (createDvdRecoveryProtocolPayload result).json
      (createDvdRecoveryProtocolPayload result) := by
  have hsafe := h.safe
  rcases h.known with hclean | hdam
  · rw [hclean]
    exact DvdRecoveryProtocolPayload.carried hsafe (Nat.zero_le _) (Nat.zero_le _)
  · have hbad := hdam.bad_le
    have harea := hdam.areas_le
    have hrec := hdam.recoveredByteCount
    apply DvdRecoveryProtocolPayload.carried
    · show result.recoveredByteCount ≤ maxSafeInteger
      omega
    · exact hbad.trans hsafe
    · exact (harea.trans hbad).trans hsafe

/-- Every member of the payload is the one that was parsed. -/
theorem Carried.get (h : Carried parsed payload) (hkey : key ∈ payload.json.keys) :
    payload.json.get key = parsed.get key := by
  have hkeys : key = "protocolVersion" ∨ key = "declaredByteCount" ∨ key = "recoveredByteCount" ∨
      key = "recoveryPolicyVersion" ∨ key = "badSectorCount" ∨ key = "badAreaCount" ∨
      key = "badSectorBitmapHex" := by
    simpa [DvdRecoveryProtocolPayload.json, Json.keys] using hkey
  rcases hkeys with rfl | rfl | rfl | rfl | rfl | rfl | rfl
  · exact (isNumber_iff.1 h.protocolVersion).symm
  · exact (isNumber_iff.1 h.declaredByteCount).symm
  · exact (safeNonNegativeInteger_some h.recoveredByteCount).symm
  · exact (isString_iff.1 h.recoveryPolicyVersion).symm
  · exact (safeNonNegativeInteger_some h.badSectorCount).symm
  · exact (safeNonNegativeInteger_some h.badAreaCount).symm
  · exact (stringValue_iff.1 h.badSectorBitmapHex).symm

theorem Carried.eq_of_json {other : DvdRecoveryProtocolPayload} (h : Carried other.json payload) :
    payload = other := by
  have hdeclared : some (number other.declaredByteCount) =
      some (number payload.declaredByteCount) := isNumber_iff.1 h.declaredByteCount
  have hrecovered : some (number other.recoveredByteCount) =
      some (number payload.recoveredByteCount) := safeNonNegativeInteger_some h.recoveredByteCount
  have hbad : some (number other.badSectorCount) = some (number payload.badSectorCount) :=
    safeNonNegativeInteger_some h.badSectorCount
  have harea : some (number other.badAreaCount) = some (number payload.badAreaCount) :=
    safeNonNegativeInteger_some h.badAreaCount
  have hhex : some (string other.badSectorBitmapHex) = some (string payload.badSectorBitmapHex) :=
    stringValue_iff.1 h.badSectorBitmapHex
  simp only [Option.some.injEq, number.injEq, string.injEq, Int.natCast_inj] at *
  exact DvdRecoveryProtocolPayload.ext hdeclared.symm hrecovered.symm hbad.symm harea.symm hhex.symm

/-- Encoding a valid result and parsing it gives the result back. Whatever the parser accepts, its
result encodes to the same members, so two payloads are never parsed to one result. -/
theorem recoveryProtocol_roundTrip :
    (∀ result : DvdRecoveryResult, result.Valid →
      parseDvdRecoveryResultProtocol (createDvdRecoveryProtocolPayload result).json
        result.declaredByteCount = .ok result) ∧
    (∀ parsed expectedByteCount result,
      parseDvdRecoveryResultProtocol parsed expectedByteCount = .ok result →
      ∀ key ∈ (createDvdRecoveryProtocolPayload result).json.keys,
        (createDvdRecoveryProtocolPayload result).json.get key = parsed.get key) ∧
    ∀ (payload other : DvdRecoveryProtocolPayload) (expectedByteCount otherByteCount : Nat)
      (result : DvdRecoveryResult),
      parseDvdRecoveryResultProtocol payload.json expectedByteCount = .ok result →
      parseDvdRecoveryResultProtocol other.json otherByteCount = .ok result → payload = other := by
  refine ⟨?_, ?_, ?_⟩
  · intro result hvalid
    exact parseDvdRecoveryResultProtocol_ok.2 ⟨_, rfl, hvalid.carried, .of_valid hvalid⟩
  · intro parsed expectedByteCount result hparse key hkey
    obtain ⟨payload, -, hcarried, hdecodes⟩ := parseDvdRecoveryResultProtocol_ok.1 hparse
    rw [hdecodes.create] at hkey ⊢
    exact hcarried.get hkey
  · intro payload other expectedByteCount otherByteCount result hparse hother
    obtain ⟨p, -, hp, hpd⟩ := parseDvdRecoveryResultProtocol_ok.1 hparse
    obtain ⟨q, -, hq, hqd⟩ := parseDvdRecoveryResultProtocol_ok.1 hother
    rw [← hp.eq_of_json, ← hq.eq_of_json, ← hpd.create, ← hqd.create]

/-- Ten sectors, three of them missing and the last one among them. -/
def sampleRecoveryResult : DvdRecoveryResult where
  outcome := .damaged
  declaredByteCount := 20480
  recoveredByteCount := 14336
  badSectorCount := 3
  badAreaCount := 2
  unrecoveredSectorRanges := [⟨1, 2⟩, ⟨9, 1⟩]

theorem sampleRecoveryResult_roundTrip :
    (createDvdRecoveryProtocolPayload sampleRecoveryResult).badSectorBitmapHex = "0602" ∧
    parseDvdRecoveryResultProtocol (createDvdRecoveryProtocolPayload sampleRecoveryResult).json
      20480 = .ok sampleRecoveryResult ∧
    ∀ other : DvdRecoveryProtocolPayload,
      parseDvdRecoveryResultProtocol other.json 20480 = .ok sampleRecoveryResult →
      createDvdRecoveryProtocolPayload sampleRecoveryResult = other := by
  obtain ⟨hencode, -, hunique⟩ := recoveryProtocol_roundTrip
  have hdamaged := isNormalizedDamagedResult_iff.1
    (show isNormalizedDamagedResult sampleRecoveryResult 20480 = true by decide)
  have hparse := hencode sampleRecoveryResult ⟨by decide, .inr hdamaged.2⟩
  exact ⟨by decide, hparse, fun other hother => hunique _ _ _ _ _ hparse hother⟩

end RipDvd
