import RipDvd.RecoveryProtocol
import Mathlib.Data.List.TakeWhile

namespace RipDvd
set_option autoImplicit true

open Json

def RECOVERY_RESULT_INVALID : String := "DVD recovery result is invalid"
def RESUMED_RECOVERY_RESULT_INVALID : String := "Resumed DVD recovery result is invalid"

structure CleanReadArchiveIntegrityEvidence where
  policyVersion : String
  badSectorCount : Nat
  badAreaCount : Nat
  badSectorRanges : List UnreadableSectorRange
  deriving DecidableEq

/-- The policy version of a recovery is one that `normalizePolicyVersion` keeps as it is. -/
def createCleanReadArchiveIntegrityEvidence (policyVersion : String) :
    CleanReadArchiveIntegrityEvidence :=
  { policyVersion, badSectorCount := 0, badAreaCount := 0, badSectorRanges := [] }

inductive DvdValidationResult where
  | publish (integrityEvidence : CleanReadArchiveIntegrityEvidence)
  | requiresValidation (recoveryResult : DvdRecoveryResult)
  deriving DecidableEq

/-- The ranges in values that are normalized one after the other. -/
def readNormalizedRanges (totalSectorCount : Nat) (previousEndLba : Int) :
    List Json → Option (List UnreadableSectorRange)
  | [] => some []
  | value :: rest => do
    let startLba ← safeNonNegativeInteger (value.get "startLba")
    let sectorCount ← safeNonNegativeInteger (value.get "sectorCount")
    let endLba := startLba + sectorCount
    if sectorCount = 0 ∨ maxSafeInteger < endLba ∨ totalSectorCount < endLba ∨
        (startLba : Int) ≤ previousEndLba then none
    else
      let ranges ← readNormalizedRanges totalSectorCount endLba rest
      return ⟨startLba, sectorCount⟩ :: ranges

/-- `isNormalizedDamagedResult` of any value, with the result that it takes it for. -/
def readNormalizedDamagedResult (result : Json) (expectedByteCount : Nat) :
    Option DvdRecoveryResult := do
  let recoveredByteCount ← safeNonNegativeInteger (result.get "recoveredByteCount")
  let badSectorCount ← safeNonNegativeInteger (result.get "badSectorCount")
  let badAreaCount ← safeNonNegativeInteger (result.get "badAreaCount")
  let values ← arrayValue (result.get "unrecoveredSectorRanges")
  if expectedByteCount % DVD_SECTOR_SIZE_BYTES ≠ 0 ∨ ¬isString (result.get "outcome") "damaged" ∨
      ¬isNumber (result.get "declaredByteCount") expectedByteCount ∨
      ¬isString (result.get "recoveryPolicyVersion") DVD_RECOVERY_POLICY_VERSION ∨
      badSectorCount = 0 ∨ badAreaCount = 0 ∨ values.length ≠ badAreaCount then none
  else
    let ranges ← readNormalizedRanges (expectedByteCount / DVD_SECTOR_SIZE_BYTES) (-1) values
    let countedBadSectors := (ranges.map (·.sectorCount)).sum
    if countedBadSectors = badSectorCount ∧
        recoveredByteCount = expectedByteCount - countedBadSectors * DVD_SECTOR_SIZE_BYTES then
      some {
        outcome := .damaged
        declaredByteCount := expectedByteCount
        recoveredByteCount, badSectorCount, badAreaCount
        unrecoveredSectorRanges := ranges }
    else none

/-- The value is a clean result for all the bytes. -/
def isCleanResult (result : Json) (expectedByteCount : Nat) : Bool :=
  isString (result.get "outcome") "clean" &&
    isNumber (result.get "declaredByteCount") expectedByteCount &&
    isNumber (result.get "recoveredByteCount") expectedByteCount &&
    isString (result.get "recoveryPolicyVersion") DVD_RECOVERY_POLICY_VERSION &&
    isNumber (result.get "badSectorCount") 0 && isNumber (result.get "badAreaCount") 0 &&
    match arrayValue (result.get "unrecoveredSectorRanges") with
    | some [] => true
    | _ => false

/-- A value that is no object has no property, and is neither kind of result. -/
def validateDvdRecoveryResult (result : Json) (expectedByteCount : Nat) :
    Except String DvdValidationResult :=
  if isCleanResult result expectedByteCount then
    .ok (.publish (createCleanReadArchiveIntegrityEvidence DVD_RECOVERY_POLICY_VERSION))
  else do
    let recoveryResult ← orThrow RECOVERY_RESULT_INVALID
      (readNormalizedDamagedResult result expectedByteCount)
    return .requiresValidation recoveryResult

/-- Move on to the first prior range that does not end before a sector. -/
def advance (prior : List UnreadableSectorRange) (priorIndex startLba : Nat) : Nat :=
  priorIndex + ((prior.drop priorIndex).takeWhile fun range =>
    range.startLba + range.sectorCount ≤ startLba).length

/-- Every range lies in the prior range that the index has moved on to. -/
def resumedWithin (prior : List UnreadableSectorRange) :
    Nat → List UnreadableSectorRange → Bool
  | _, [] => true
  | priorIndex, range :: ranges =>
    match prior[advance prior priorIndex range.startLba]? with
    | none => false
    | some priorRange =>
      priorRange.startLba ≤ range.startLba &&
        range.startLba + range.sectorCount ≤ priorRange.startLba + priorRange.sectorCount &&
        resumedWithin prior (advance prior priorIndex range.startLba) ranges

def validateResumedDvdRecoveryResult (result : Json) (prior : DvdRecoveryResult)
    (expectedByteCount : Nat) : Except String DvdValidationResult := do
  let validation ← validateDvdRecoveryResult result expectedByteCount
  match validation with
  | .requiresValidation recoveryResult =>
    rejectIf (¬resumedWithin prior.unrecoveredSectorRanges 0 recoveryResult.unrecoveredSectorRanges)
      RESUMED_RECOVERY_RESULT_INVALID
  | .publish _ => pure ()
  return validation

/-- A sector that a validated result leaves unrecovered. -/
def DvdValidationResult.Misses : DvdValidationResult → Nat → Prop
  | .publish _, _ => False
  | .requiresValidation recoveryResult, lba => Holds recoveryResult.unrecoveredSectorRanges lba

/-- Where the index stands after some ranges. -/
def priorIndexAfter (prior ranges : List UnreadableSectorRange) : Nat :=
  ranges.foldl (fun priorIndex range => advance prior priorIndex range.startLba) 0

theorem readNormalizedRanges_separated
    (h : readNormalizedRanges total previousEndLba values = some ranges) :
    Separated ranges total ∧ (∀ range ∈ ranges, previousEndLba < (range.startLba : Int)) ∧
      ranges.length = values.length := by
  induction values generalizing previousEndLba ranges with
  | nil =>
    cases h
    exact ⟨⟨.nil, fun _ hr => (nomatch hr), fun _ hr => (nomatch hr)⟩, fun _ hr => (nomatch hr),
      rfl⟩
  | cons value values ih =>
    simp only [readNormalizedRanges, Option.bind_eq_bind, Option.bind_eq_some_iff] at h
    obtain ⟨startLba, -, sectorCount, -, h⟩ := h
    split at h
    · cases h
    · next hgood =>
      obtain ⟨rest, hrest, he⟩ := Option.bind_eq_some_iff.1 h
      cases he
      obtain ⟨hsep, hlater, hlen⟩ := ih hrest
      simp only [List.forall_mem_cons, List.length_cons, hlen, and_true]
      refine ⟨⟨List.pairwise_cons.2 ⟨fun r hr => ?_, hsep.apart⟩,
        List.forall_mem_cons.2 ⟨Nat.pos_of_ne_zero fun hz => hgood (.inl hz), hsep.nonempty⟩,
        List.forall_mem_cons.2 ⟨by simp only; omega, hsep.inside⟩⟩, by omega, fun r hr => ?_⟩
      · have := hlater r hr
        simp only
        omega
      · have := hlater r hr
        omega

/-- What is taken for a damaged result is one. -/
theorem readNormalizedDamagedResult_damaged
    (h : readNormalizedDamagedResult result expectedByteCount = some recoveryResult) :
    recoveryResult.Damaged ∧ recoveryResult.declaredByteCount = expectedByteCount := by
  simp only [readNormalizedDamagedResult, Option.bind_eq_bind, Option.bind_eq_some_iff] at h
  obtain ⟨recovered, -, bad, -, area, -, values, -, h⟩ := h
  split at h
  · cases h
  · next hgood =>
    simp only [not_or, not_not, ne_eq] at hgood
    obtain ⟨hmod, -, -, -, hbad, harea, hlen⟩ := hgood
    obtain ⟨ranges, hranges, h⟩ := Option.bind_eq_some_iff.1 h
    split at h
    · next hcount =>
      cases h
      obtain ⟨hsep, -, hlength⟩ := readNormalizedRanges_separated hranges
      refine ⟨⟨rfl, hmod, fun he => ?_, hsep, hcount.1.symm, ?_, hcount.1 ▸ hcount.2⟩, rfl⟩
      · simp only at he
        rw [he] at hlength
        exact harea (hlen.symm.trans hlength.symm)
      · exact hlen.symm.trans hlength.symm
    · cases h

theorem validateDvdRecoveryResult_damaged
    (h : validateDvdRecoveryResult result expectedByteCount =
      .ok (.requiresValidation recoveryResult)) :
    recoveryResult.Damaged ∧ recoveryResult.declaredByteCount = expectedByteCount := by
  rw [validateDvdRecoveryResult] at h
  split at h
  · cases h
  · simp only [bind_ok, orThrow_ok, pure_ok, DvdValidationResult.requiresValidation.injEq] at h
    obtain ⟨_, hread, rfl⟩ := h
    exact readNormalizedDamagedResult_damaged hread

/-- Every range that the index has passed ends before a sector. -/
def PassedBefore (prior : List UnreadableSectorRange) (priorIndex lba : Nat) : Prop :=
  ∀ range ∈ prior.take priorIndex, range.startLba + range.sectorCount ≤ lba

theorem PassedBefore.mono (h : PassedBefore prior k lba) (hle : lba ≤ lba') :
    PassedBefore prior k lba' :=
  fun range hr => (h range hr).trans hle

theorem PassedBefore.advance (h : PassedBefore prior k lba) :
    PassedBefore prior (advance prior k lba) lba := by
  intro range hr
  rw [RipDvd.advance, List.take_add] at hr
  rcases List.mem_append.1 hr with hr | hr
  · exact h range hr
  · rw [← List.prefix_iff_eq_take.1 (List.takeWhile_prefix _)] at hr
    have hend := List.mem_takeWhile_imp hr
    exact of_decide_eq_true hend

/-- The range that the index stops at does not end before the sector. -/
theorem advance_stops (h : prior[advance prior k lba]? = some range) :
    lba < range.startLba + range.sectorCount := by
  have hdrop : ((prior.drop k).takeWhile (fun range =>
        range.startLba + range.sectorCount ≤ lba) ++ (prior.drop k).dropWhile (fun range =>
        range.startLba + range.sectorCount ≤ lba)).drop ((prior.drop k).takeWhile (fun range =>
        range.startLba + range.sectorCount ≤ lba)).length =
      (prior.drop k).dropWhile (fun range => range.startLba + range.sectorCount ≤ lba) :=
    List.drop_left
  rw [List.takeWhile_append_dropWhile, List.drop_drop, ← advance] at hdrop
  have hhead := List.head?_dropWhile_not (fun range : UnreadableSectorRange =>
    range.startLba + range.sectorCount ≤ lba) (prior.drop k)
  rw [← hdrop, List.head?_drop, h] at hhead
  exact Nat.lt_of_not_le (of_decide_eq_false hhead)

/-- Where a prior range begins when the index has stopped before it. -/
theorem Separated.advance_split (h : Separated prior total)
    (hstop : prior[advance prior k lba]? = some range) (hr : other ∈ prior) :
    other ∈ prior.take (advance prior k lba) ∨ other = range ∨
      range.startLba + range.sectorCount < other.startLba := by
  obtain ⟨hlt, hget⟩ := List.getElem?_eq_some_iff.1 hstop
  have hsplit : prior.take (advance prior k lba) ++ range ::
      prior.drop (advance prior k lba + 1) = prior := by
    rw [← hget, ← List.drop_eq_getElem_cons hlt, List.take_append_drop]
  have hapart := h.apart
  rw [← hsplit] at hapart hr
  rcases List.mem_append.1 hr with hr | hr
  · exact .inl hr
  · rcases List.mem_cons.1 hr with rfl | hr
    · exact .inr (.inl rfl)
    · exact .inr (.inr ((List.pairwise_cons.1 (List.pairwise_append.1 hapart).2.1).1 other hr))

/-- A range has all its sectors in the prior ranges when it lies in the one the index stops at. -/
theorem Separated.holds_range {range : UnreadableSectorRange} (h : Separated prior total)
    (hcount : 0 < range.sectorCount)
    (hpassed : PassedBefore prior (advance prior k range.startLba) range.startLba) :
    (∀ lba, range.startLba ≤ lba → lba < range.startLba + range.sectorCount → Holds prior lba) ↔
      ∃ priorRange ∈ prior[advance prior k range.startLba]?,
        priorRange.startLba ≤ range.startLba ∧ range.startLba + range.sectorCount ≤
          priorRange.startLba + priorRange.sectorCount := by
  constructor
  · intro hall
    obtain ⟨first, hfirst, hle, hlt⟩ := hall range.startLba le_rfl (by omega)
    cases hstop : prior[advance prior k range.startLba]? with
    | none =>
      have hmem : first ∈ prior.take (advance prior k range.startLba) := by
        rwa [List.take_of_length_le (List.getElem?_eq_none_iff.1 hstop)]
      have := hpassed first hmem
      omega
    | some stopped =>
      have hends := advance_stops hstop
      refine ⟨stopped, rfl, ?_, ?_⟩
      · rcases h.advance_split hstop hfirst with hp | rfl | hp
        · have := hpassed first hp
          omega
        · exact hle
        · omega
      · by_contra hout
        -- the sector right behind the range that the index stopped at is in no prior range
        obtain ⟨next, hnext, hle', hlt'⟩ := hall (stopped.startLba + stopped.sectorCount)
          (by omega) (by omega)
        rcases h.advance_split hstop hnext with hp | rfl | hp
        · have := hpassed next hp
          omega
        · omega
        · omega
  · rintro ⟨priorRange, hstop, hstart, hend⟩ lba hle hlt
    exact ⟨priorRange, List.mem_of_getElem? hstop, by omega, by omega⟩

/-- The sweep accepts the ranges exactly when the prior ranges hold all their sectors. -/
theorem resumedWithin_iff (h : Separated prior total) (hranges : Separated ranges total')
    (hpassed : ∀ range ∈ ranges, PassedBefore prior k range.startLba) :
    resumedWithin prior k ranges = true ↔ ∀ lba, Holds ranges lba → Holds prior lba := by
  induction ranges generalizing k with
  | nil => exact ⟨fun _ _ ⟨_, hr, _⟩ => (nomatch hr), fun _ => rfl⟩
  | cons range ranges ih =>
    have hcount := hranges.nonempty range List.mem_cons_self
    have hstep := (hpassed range List.mem_cons_self).advance
    have hlater : ∀ r ∈ ranges,
        PassedBefore prior (advance prior k range.startLba) r.startLba := fun r hr =>
      hstep.mono (by have := (List.pairwise_cons.1 hranges.apart).1 r hr; omega)
    have hrest := ih hranges.tail hlater
    have hfirst := h.holds_range hcount hstep
    have hsplit : (∀ lba, Holds (range :: ranges) lba → Holds prior lba) ↔
        (∀ lba, range.startLba ≤ lba → lba < range.startLba + range.sectorCount →
          Holds prior lba) ∧ ∀ lba, Holds ranges lba → Holds prior lba := by
      simp only [Holds, List.exists_mem_cons_iff, or_imp, forall_and, and_imp]
    rw [hsplit, hfirst, ← hrest, resumedWithin]
    cases prior[advance prior k range.startLba]? with
    | none => simp
    | some priorRange =>
      simp only [Bool.and_eq_true, decide_eq_true_eq, Option.mem_some_iff, exists_eq_left']

theorem priorIndexAfter_passed (hranges : Separated ranges total')
    (hsplit : ranges = before ++ range :: after) :
    ∀ later ∈ range :: after,
      PassedBefore prior (priorIndexAfter prior (before ++ [range])) later.startLba := by
  have hkeep : ∀ before range after, ranges = before ++ range :: after →
      PassedBefore prior (priorIndexAfter prior (before ++ [range])) range.startLba := by
    intro before
    induction before using List.reverseRecOn with
    | nil =>
      intro range after _
      exact PassedBefore.advance fun r hr => by simp at hr
    | append_singleton before last ih =>
      intro range after heq
      have hlast := ih last (range :: after) (by rw [heq]; simp)
      have hapart := hranges.apart
      rw [heq, List.append_assoc, List.pairwise_append] at hapart
      have hlt := (List.pairwise_cons.1 hapart.2.1).1 range List.mem_cons_self
      have hle : last.startLba ≤ range.startLba := by omega
      have hpassed := hlast.mono hle
      rw [priorIndexAfter, List.foldl_append]
      exact hpassed.advance
  intro later hl
  have hown := hkeep before range after hsplit
  rcases List.mem_cons.1 hl with rfl | hl
  · exact hown
  · have hapart := hranges.apart
    rw [hsplit, List.pairwise_append] at hapart
    have hlt := (List.pairwise_cons.1 hapart.2.1).1 later hl
    exact hown.mono (by omega)

/-- A resumed recovery is accepted exactly when its result is valid and every sector it misses was
missing before; a clean result always is. The index never passes a prior range that a later range
has a sector in. -/
theorem validateResumedDvdRecoveryResult_shrinks {prior : DvdRecoveryResult}
    (hprior : prior.Damaged) (result : Json) (expectedByteCount : Nat) :
    (∀ validation, validateResumedDvdRecoveryResult result prior expectedByteCount =
        .ok validation ↔
      validateDvdRecoveryResult result expectedByteCount = .ok validation ∧
        ∀ lba, validation.Misses lba → Holds prior.unrecoveredSectorRanges lba) ∧
    (isCleanResult result expectedByteCount = true →
      ∃ evidence, validateResumedDvdRecoveryResult result prior expectedByteCount =
        .ok (.publish evidence)) ∧
    ∀ recoveryResult, validateDvdRecoveryResult result expectedByteCount =
        .ok (.requiresValidation recoveryResult) →
      ∀ before range after,
        recoveryResult.unrecoveredSectorRanges = before ++ range :: after →
        ∀ passed ∈ prior.unrecoveredSectorRanges.take
          (priorIndexAfter prior.unrecoveredSectorRanges (before ++ [range])),
        ∀ later ∈ range :: after, passed.startLba + passed.sectorCount ≤ later.startLba := by
  have hiff (validation : DvdValidationResult) :
      validateResumedDvdRecoveryResult result prior expectedByteCount = .ok validation ↔
        validateDvdRecoveryResult result expectedByteCount = .ok validation ∧
          ∀ lba, validation.Misses lba → Holds prior.unrecoveredSectorRanges lba := by
    simp only [validateResumedDvdRecoveryResult, bind_ok]
    constructor
    · rintro ⟨validation', hvalid, h⟩
      cases validation' with
      | publish evidence =>
        cases h
        refine ⟨hvalid, fun _ hm => ?_⟩
        cases hm
      | requiresValidation recoveryResult =>
        simp only [bind_ok, pure_ok] at h
        obtain ⟨_, hwithin, rfl⟩ := h
        obtain ⟨hdamaged, -⟩ := validateDvdRecoveryResult_damaged hvalid
        refine ⟨hvalid, (resumedWithin_iff hprior.separated hdamaged.separated ?_).1
          (not_not.1 (rejectIf_ok.1 hwithin))⟩
        intro range _ passed hpassed
        simp at hpassed
    · rintro ⟨hvalid, hmisses⟩
      refine ⟨validation, hvalid, ?_⟩
      cases validation with
      | publish evidence => rfl
      | requiresValidation recoveryResult =>
        obtain ⟨hdamaged, -⟩ := validateDvdRecoveryResult_damaged hvalid
        refine bind_ok.2 ⟨(), rejectIf_ok.2 (not_not.2 ((resumedWithin_iff hprior.separated
          hdamaged.separated ?_).2 hmisses)), rfl⟩
        intro range _ passed hpassed
        simp at hpassed
  refine ⟨hiff, ?_, ?_⟩
  · intro hclean
    have hvalid : validateDvdRecoveryResult result expectedByteCount = .ok (.publish
        (createCleanReadArchiveIntegrityEvidence DVD_RECOVERY_POLICY_VERSION)) := by
      rw [validateDvdRecoveryResult, if_pos hclean]
    refine ⟨_, (hiff _).2 ⟨hvalid, fun _ hm => ?_⟩⟩
    cases hm
  · intro recoveryResult hvalid before range after hsplit passed hpassed later hl
    obtain ⟨hdamaged, -⟩ := validateDvdRecoveryResult_damaged hvalid
    exact priorIndexAfter_passed hdamaged.separated hsplit later hl passed hpassed

/-- A later result that misses one sector of the first area, and all of the second. -/
def sampleResumedResult : Json :=
  .object [
    ("outcome", string "damaged"),
    ("declaredByteCount", number 20480),
    ("recoveredByteCount", number 16384),
    ("recoveryPolicyVersion", string DVD_RECOVERY_POLICY_VERSION),
    ("badSectorCount", number 2),
    ("badAreaCount", number 2),
    ("unrecoveredSectorRanges", .array [
      .object [("startLba", number 2), ("sectorCount", number 1)],
      .object [("startLba", number 9), ("sectorCount", number 1)]])]

theorem sampleResumedResult_accepted :
    ∃ validation, validateResumedDvdRecoveryResult sampleResumedResult sampleRecoveryResult 20480 =
      .ok validation ∧ validation.Misses 9 ∧ ¬validation.Misses 1 := by
  have hprior := isNormalizedDamagedResult_iff.1
    (show isNormalizedDamagedResult sampleRecoveryResult 20480 = true by decide)
  obtain ⟨hiff, -, -⟩ :=
    validateResumedDvdRecoveryResult_shrinks hprior.2 sampleResumedResult 20480
  have hvalid : validateDvdRecoveryResult sampleResumedResult 20480 =
      .ok (.requiresValidation ⟨.damaged, 20480, 16384, 2, 2, [⟨2, 1⟩, ⟨9, 1⟩]⟩) := by
    decide +kernel
  refine ⟨_, (hiff _).2 ⟨hvalid, ?_⟩, ⟨⟨9, 1⟩, by simp⟩, ?_⟩
  · rintro lba ⟨range, hr, hin⟩
    simp only [List.mem_cons, List.not_mem_nil, or_false] at hr
    rcases hr with rfl | rfl
    · exact ⟨⟨1, 2⟩, by simp [sampleRecoveryResult], by simp only at *; omega⟩
    · exact ⟨⟨9, 1⟩, by simp [sampleRecoveryResult], hin⟩
  · rintro ⟨range, hr, hin⟩
    simp only [List.mem_cons, List.not_mem_nil, or_false] at hr
    rcases hr with rfl | rfl <;> simp at hin

end RipDvd
