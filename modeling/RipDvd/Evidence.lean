import RipDvd.Program
import Mathlib.Tactic.Common
import Mathlib.Data.List.Basic
import Mathlib.Data.List.Range

namespace RipDvd
set_option autoImplicit true

/-- What the data access layer throws. -/
inductive DomainError where
  | invariant (message : String)
  | recordNotFound (entity id : String)
  | staleJobAttempt (entity id : String)
  | constraint (message : String)
  | invalidStatusTransition (entity current target : String)
  | staleArchiveRecoveryAttempt (archiveRecoveryId attemptId : String)
  | staleArchiveRecoveryCheckpoint (archiveRecoveryId : String)
  | storageUnavailable
  | encodeWorkConflict
  | previewPause
  deriving DecidableEq

def maxSafeInteger : Nat := 9007199254740991

structure UnreadableSectorRange where
  startLba : Nat
  sectorCount : Nat
  deriving DecidableEq

inductive SourceClassification where
  | skippedUntested
  | individuallyFailed
  deriving DecidableEq

structure UnrecoveredSourceRange where
  startLba : Nat
  sectorCount : Nat
  classification : SourceClassification
  deriving DecidableEq

namespace UnrecoveredSourceRange

def endLbaExclusive (range : UnrecoveredSourceRange) : Nat := range.startLba + range.sectorCount

def contains (range : UnrecoveredSourceRange) (lba : Nat) : Bool :=
  range.startLba ≤ lba && lba < range.startLba + range.sectorCount

/-- The sectors of a range, in ascending order. -/
def lbas (range : UnrecoveredSourceRange) : List Nat :=
  List.range' range.startLba range.sectorCount

end UnrecoveredSourceRange

open UnrecoveredSourceRange

inductive RecoveryReadOutcome where
  | recovered
  | failed
  deriving DecidableEq

/-- Every sector a map still lists, range by range. -/
def sectorLbas (ranges : List UnrecoveredSourceRange) : List Nat := ranges.flatMap lbas

def unrecoveredSectorCount (ranges : List UnrecoveredSourceRange) : Nat :=
  ranges.foldl (fun total range => total + range.sectorCount) 0

/-- What is left of the containing range around one observed sector. -/
def replacementRanges (containing : UnrecoveredSourceRange) (startLba : Nat)
    (outcome : RecoveryReadOutcome) : List UnrecoveredSourceRange :=
  (if startLba > containing.startLba then
    [⟨containing.startLba, startLba - containing.startLba, containing.classification⟩] else []) ++
  (if outcome = .failed then [⟨startLba, 1, .individuallyFailed⟩] else []) ++
  (if startLba + 1 < containing.endLbaExclusive then
    [⟨startLba + 1, containing.endLbaExclusive - startLba - 1, containing.classification⟩] else [])

/-- Append a range, growing the last one where the two touch and agree. -/
def appendNormalized (normalized : List UnrecoveredSourceRange) (range : UnrecoveredSourceRange) :
    List UnrecoveredSourceRange :=
  match normalized.getLast? with
  | some previous =>
    if previous.classification = range.classification ∧
        previous.startLba + previous.sectorCount = range.startLba then
      normalized.dropLast ++
        [{ previous with sectorCount := previous.sectorCount + range.sectorCount }]
    else normalized ++ [range]
  | none => normalized ++ [range]

/-- Apply one persisted one-sector observation to the normalized current map. -/
def dvdEvidenceRangesAfterRecoveryRead (ranges : List UnrecoveredSourceRange) (startLba : Nat)
    (outcome : RecoveryReadOutcome) : Except DomainError (List UnrecoveredSourceRange) :=
  match ranges.findIdx? (·.contains startLba) with
  | none => .error (.invariant
      "Persisted DVD Archive Recovery evidence does not target Unrecovered Source")
  | some containingIndex =>
    .ok <| (ranges.take containingIndex ++
      (ranges[containingIndex]?.toList.flatMap fun containing =>
        replacementRanges containing startLba outcome) ++
      ranges.drop (containingIndex + 1)).foldl appendNormalized []

def assertDvdEvidenceRangeTransition (previous current : List UnrecoveredSourceRange)
    (startLba : Nat) (outcome : RecoveryReadOutcome) : Except DomainError Unit := do
  let expected ← dvdEvidenceRangesAfterRecoveryRead previous startLba outcome
  rejectIf (expected ≠ current)
    (.invariant "Persisted DVD Archive Evidence ranges do not match their recovery read")

variable {range : UnrecoveredSourceRange} {ranges next : List UnrecoveredSourceRange}

theorem unrecoveredSectorCount_cons (range : UnrecoveredSourceRange)
    (ranges : List UnrecoveredSourceRange) :
    unrecoveredSectorCount (range :: ranges) = range.sectorCount +
      unrecoveredSectorCount ranges := by
  have h (l : List UnrecoveredSourceRange) (n : Nat) :
      l.foldl (fun total r => total + r.sectorCount) n = n + unrecoveredSectorCount l := by
    induction l generalizing n with
    | nil => rfl
    | cons r l ih =>
      rw [unrecoveredSectorCount, List.foldl_cons, List.foldl_cons, ih, ih, Nat.add_assoc,
        Nat.zero_add]
  rw [unrecoveredSectorCount, List.foldl_cons, h, Nat.zero_add]

/-- The sector count of a map is the number of sectors it lists. -/
theorem unrecoveredSectorCount_eq (ranges : List UnrecoveredSourceRange) :
    unrecoveredSectorCount ranges = (sectorLbas ranges).length := by
  induction ranges with
  | nil => rfl
  | cons range ranges ih =>
    rw [unrecoveredSectorCount_cons, ih, sectorLbas, sectorLbas, List.flatMap_cons,
      List.length_append, lbas, List.length_range']

@[simp] theorem sectorLbas_append (a b : List UnrecoveredSourceRange) :
    sectorLbas (a ++ b) = sectorLbas a ++ sectorLbas b := List.flatMap_append

@[simp] theorem sectorLbas_singleton (range : UnrecoveredSourceRange) :
    sectorLbas [range] = range.lbas := List.append_nil _

theorem contains_iff :
    range.contains lba = true ↔
      range.startLba ≤ lba ∧ lba < range.startLba + range.sectorCount := by
  simp only [contains, Bool.and_eq_true, decide_eq_true_eq]

theorem mem_lbas :
    lba ∈ range.lbas ↔ range.contains lba = true := by
  rw [lbas, List.mem_range'_1, contains_iff]

theorem mem_sectorLbas :
    lba ∈ sectorLbas ranges ↔ ∃ range ∈ ranges, range.contains lba = true := by
  simp only [sectorLbas, List.mem_flatMap, mem_lbas]

theorem appendNormalized_nil (range : UnrecoveredSourceRange) :
    appendNormalized [] range = [range] := rfl

theorem appendNormalized_snoc (init : List UnrecoveredSourceRange)
    (previous range : UnrecoveredSourceRange) :
    appendNormalized (init ++ [previous]) range =
      if previous.classification = range.classification ∧
          previous.startLba + previous.sectorCount = range.startLba then
        init ++ [{ previous with sectorCount := previous.sectorCount + range.sectorCount }]
      else init ++ [previous, range] := by
  rw [appendNormalized, List.getLast?_append, List.dropLast_concat, List.append_assoc]
  rfl

/-- Merging touching ranges keeps the sectors they list. -/
theorem sectorLbas_appendNormalized (normalized : List UnrecoveredSourceRange)
    (range : UnrecoveredSourceRange) :
    sectorLbas (appendNormalized normalized range) = sectorLbas normalized ++ range.lbas := by
  rcases List.eq_nil_or_concat normalized with rfl | ⟨init, previous, rfl⟩
  · rw [appendNormalized_nil, sectorLbas_singleton]
    rfl
  · rw [List.concat_eq_append, appendNormalized_snoc]
    split
    · next h =>
      simp only [sectorLbas_append, sectorLbas_singleton, List.append_assoc]
      rw [lbas, lbas, lbas, ← h.2, List.range'_append_1]
    · simp only [sectorLbas, List.flatMap_append, List.flatMap_cons, List.flatMap_nil,
        List.append_nil, List.append_assoc]

theorem sectorLbas_normalize (ranges normalized : List UnrecoveredSourceRange) :
    sectorLbas (ranges.foldl appendNormalized normalized) =
      sectorLbas normalized ++ sectorLbas ranges := by
  induction ranges generalizing normalized with
  | nil => exact (List.append_nil _).symm
  | cons range ranges ih =>
    rw [List.foldl_cons, ih, sectorLbas_appendNormalized, List.append_assoc]
    rfl

theorem sectorLbas_piece [Decidable p] (h : ¬p → count = 0) (classification) :
    sectorLbas (if p then [⟨start, count, classification⟩] else []) =
      List.range' start count := by
  by_cases hp : p
  · rw [if_pos hp, sectorLbas_singleton]
    rfl
  · rw [if_neg hp, h hp]
    rfl

theorem sectorLbas_replacement (range : UnrecoveredSourceRange) (lba : Nat)
    (outcome : RecoveryReadOutcome) :
    sectorLbas (replacementRanges range lba outcome) =
      List.range' range.startLba (lba - range.startLba) ++
        (if outcome = .failed then [lba] else []) ++
        List.range' (lba + 1) (range.endLbaExclusive - lba - 1) := by
  rw [replacementRanges, sectorLbas_append, sectorLbas_append]
  congr 1
  · congr 1
    · exact sectorLbas_piece (fun hn => by omega) _
    · cases outcome <;> rfl
  · exact sectorLbas_piece (fun hn => by omega) _

theorem lbas_split (h : range.contains lba = true) :
    range.lbas = List.range' range.startLba (lba - range.startLba) ++ lba ::
      List.range' (lba + 1) (range.endLbaExclusive - lba - 1) := by
  obtain ⟨hl, hr⟩ := contains_iff.1 h
  have hs : range.sectorCount = (lba - range.startLba) + (range.endLbaExclusive - lba - 1 + 1) := by
    rw [endLbaExclusive]
    omega
  rw [lbas, hs, ← List.range'_append_1, Nat.add_sub_cancel' hl, List.range'_succ]

/-- An observation drops its sector from the map when it was recovered, and only then. -/
theorem sectorLbas_afterRecoveryRead
    (h : dvdEvidenceRangesAfterRecoveryRead ranges lba outcome = .ok next) :
    ∃ before after, sectorLbas ranges = before ++ lba :: after ∧
      sectorLbas next = before ++ (if outcome = .failed then [lba] else []) ++ after := by
  rw [dvdEvidenceRangesAfterRecoveryRead] at h
  split at h
  · cases h
  · next i hi =>
    obtain ⟨hlt, hc, -⟩ := List.findIdx?_eq_some_iff_getElem.1 hi
    rw [List.getElem?_eq_getElem hlt] at h
    simp only [Option.toList_some, List.flatMap_cons, List.flatMap_nil, List.append_nil,
      Except.ok.injEq] at h
    subst h
    refine ⟨sectorLbas (ranges.take i) ++
      List.range' ranges[i].startLba (lba - ranges[i].startLba),
      List.range' (lba + 1) (ranges[i].endLbaExclusive - lba - 1) ++
        sectorLbas (ranges.drop (i + 1)), ?_, ?_⟩
    · conv_lhs => rw [← List.take_append_drop i ranges, List.drop_eq_getElem_cons hlt]
      rw [sectorLbas_append, sectorLbas, sectorLbas, List.flatMap_cons, lbas_split hc]
      simp only [List.append_assoc, List.cons_append]
      rfl
    · rw [sectorLbas_normalize, sectorLbas_append, sectorLbas_append, sectorLbas_replacement]
      simp only [sectorLbas, List.flatMap_nil, List.nil_append, List.append_assoc]

def requireSafeInteger (value : Nat) (description : String) (minimum : Nat) :
    Except DomainError Unit :=
  rejectIf (value > maxSafeInteger ∨ value < minimum)
    (.invariant s!"{description} must be a safe integer of at least {minimum}")

def UnrecoveredSourceRange.unnormalizedAfter (range previous : UnrecoveredSourceRange) : Bool :=
  range.startLba < previous.endLbaExclusive ||
    (range.startLba == previous.endLbaExclusive && range.classification == previous.classification)

/-- The canonical tuples of a map; a map that is not normalized has none. -/
def canonicalSourceRangesPayload (previous : Option UnrecoveredSourceRange) :
    List UnrecoveredSourceRange → Except DomainError (List (Nat × Nat × SourceClassification))
  | [] => .ok []
  | range :: ranges => do
    requireSafeInteger range.startLba "Unrecovered Source start LBA" 0
    requireSafeInteger range.sectorCount "Unrecovered Source sector count" 1
    rejectIf (range.endLbaExclusive > maxSafeInteger)
      (.invariant "Unrecovered Source range exceeds the safe integer limit")
    rejectIf (previous.any (range.unnormalizedAfter ·))
      (.invariant "Unrecovered Source ranges must be canonically normalized")
    let canonical ← canonicalSourceRangesPayload (some range) ranges
    return (range.startLba, range.sectorCount, range.classification) :: canonical

/-- A range may follow another when it starts later, or touches it with another class. -/
def Follows (a b : UnrecoveredSourceRange) : Prop :=
  a.endLbaExclusive ≤ b.startLba ∧
    (a.endLbaExclusive = b.startLba → a.classification ≠ b.classification)

/-- A normalized map: ascending nonempty ranges of safe integers that cannot be merged. -/
structure Canonical (ranges : List UnrecoveredSourceRange) : Prop where
  within : ∀ range ∈ ranges, 0 < range.sectorCount ∧ range.endLbaExclusive ≤ maxSafeInteger
  chain : ranges.IsChain Follows

theorem unnormalizedAfter_iff {a b : UnrecoveredSourceRange} :
    b.unnormalizedAfter a = true ↔ ¬Follows a b := by
  simp only [unnormalizedAfter, Follows, Bool.or_eq_true, decide_eq_true_eq, Bool.and_eq_true,
    beq_iff_eq]
  constructor
  · rintro (h | ⟨he, hc⟩) ⟨hle, hne⟩
    · omega
    · exact hne he.symm hc.symm
  · intro h
    rcases Nat.lt_or_ge b.startLba a.endLbaExclusive with hlt | hge
    · exact .inl hlt
    · refine .inr (by_contra fun hn => h ⟨hge, fun he hc => hn ⟨he.symm, hc.symm⟩⟩)

theorem canonicalSourceRangesPayload_iff {previous : Option UnrecoveredSourceRange} :
    (∃ tuples, canonicalSourceRangesPayload previous ranges = .ok tuples) ↔
      Canonical ranges ∧ ∀ p ∈ previous, ∀ r ∈ ranges.head?, Follows p r := by
  induction ranges generalizing previous with
  | nil => exact ⟨fun _ => ⟨⟨by simp, .nil⟩, by simp⟩, fun _ => ⟨[], rfl⟩⟩
  | cons range ranges ih =>
    simp only [canonicalSourceRangesPayload, requireSafeInteger, bind_ok, rejectIf_ok, pure_ok]
    constructor
    · rintro ⟨-, -, hs, -, hc, -, he, -, hp, tuples, ht, -⟩
      obtain ⟨htail, hhead⟩ := ih.1 ⟨tuples, ht⟩
      refine ⟨⟨?_, ?_⟩, ?_⟩
      · intro r hr
        rcases List.mem_cons.1 hr with rfl | hr
        · exact ⟨by omega, by omega⟩
        · exact htail.within r hr
      · exact List.isChain_cons.2 ⟨fun r hr => hhead range rfl r hr, htail.chain⟩
      · intro p hpm r hr
        obtain rfl : range = r := by simpa using hr
        exact by_contra fun hn =>
          hp ((Option.any_eq_true ..).2 ⟨p, hpm, unnormalizedAfter_iff.2 hn⟩)
    · rintro ⟨hc, hp⟩
      obtain ⟨hpos, hend⟩ := hc.within range List.mem_cons_self
      obtain ⟨hhead, htail⟩ := List.isChain_cons.1 hc.chain
      obtain ⟨tuples, ht⟩ := (@ih (some range)).2
        ⟨⟨fun r hr => hc.within r (List.mem_cons_of_mem _ hr), htail⟩,
          fun p hpm r hr => by cases hpm; exact hhead r hr⟩
      rw [endLbaExclusive] at hend
      refine ⟨_, (), by omega, (), by omega, (), by rw [endLbaExclusive]; omega, (), ?_,
        tuples, ht, rfl⟩
      intro h
      obtain ⟨p, hpm, hf⟩ := (Option.any_eq_true ..).1 h
      exact unnormalizedAfter_iff.1 hf (hp p hpm range rfl)

def Precedes (a b : UnrecoveredSourceRange) : Prop := a.endLbaExclusive ≤ b.startLba

instance : Trans Precedes Precedes Precedes :=
  ⟨fun {a b c} hab hbc => by rw [Precedes, endLbaExclusive] at *; omega⟩

theorem Canonical.ordered (h : Canonical ranges) : ranges.Pairwise Precedes :=
  (h.chain.imp fun _ _ hf => hf.1 : ranges.IsChain Precedes).pairwise

/-- A canonical map lists its sectors in strictly ascending order. -/
theorem Canonical.sorted (h : Canonical ranges) : (sectorLbas ranges).Pairwise (· < ·) := by
  rw [sectorLbas, List.pairwise_flatMap]
  refine ⟨fun range _ => List.pairwise_lt_range', h.ordered.imp fun hab x hx y hy => ?_⟩
  have hx' := contains_iff.1 (mem_lbas.1 hx)
  have hy' := contains_iff.1 (mem_lbas.1 hy)
  rw [Precedes, endLbaExclusive] at hab
  omega

/-- Growing a normalized map by later ranges keeps it normalized. -/
theorem follows_normalize {init rest : List UnrecoveredSourceRange}
    {last : UnrecoveredSourceRange} (h : (init ++ [last]).IsChain Follows)
    (hrest : (last :: rest).Pairwise Precedes) :
    (rest.foldl appendNormalized (init ++ [last])).IsChain Follows := by
  induction rest generalizing init last with
  | nil => exact h
  | cons range rest ih =>
    obtain ⟨hl, hr⟩ := List.pairwise_cons.1 hrest
    obtain ⟨hr', hrr⟩ := List.pairwise_cons.1 hr
    have hlast := hl range List.mem_cons_self
    rw [List.foldl_cons, appendNormalized_snoc]
    split
    · next hm =>
      refine ih ?_ (List.pairwise_cons.2 ⟨fun b hb => ?_, hrr⟩)
      · rw [List.isChain_append] at h ⊢
        refine ⟨h.1, .singleton _, fun a ha b hb => ?_⟩
        obtain rfl : _ = b := by simpa using hb
        exact h.2.2 a ha last rfl
      · have := hr' b hb
        rw [Precedes, endLbaExclusive] at this ⊢
        simp only
        omega
    · next hm =>
      rw [show init ++ [last, range] = (init ++ [last]) ++ [range] by simp]
      refine ih ?_ hr
      rw [List.isChain_append]
      refine ⟨h, .singleton _, fun a ha b hb => ?_⟩
      obtain rfl : last = a := by simpa using ha
      obtain rfl : range = b := by simpa using hb
      exact ⟨hlast, fun he hc => hm ⟨hc, he⟩⟩

def Within (limit : Nat) (ranges : List UnrecoveredSourceRange) : Prop :=
  ∀ range ∈ ranges, 0 < range.sectorCount ∧ range.endLbaExclusive ≤ limit

theorem Within.normalize {limit : Nat} {normalized rest : List UnrecoveredSourceRange}
    (h : Within limit normalized) (hrest : Within limit rest) :
    Within limit (rest.foldl appendNormalized normalized) := by
  induction rest generalizing normalized with
  | nil => exact h
  | cons range rest ih =>
    obtain ⟨hpos, hend⟩ := hrest range List.mem_cons_self
    refine ih ?_ fun r hr => hrest r (List.mem_cons_of_mem _ hr)
    rcases List.eq_nil_or_concat normalized with rfl | ⟨init, previous, rfl⟩
    · exact fun r hr => List.mem_singleton.1 hr ▸ ⟨hpos, hend⟩
    · rw [List.concat_eq_append] at h ⊢
      rw [appendNormalized_snoc]
      split
      · next hm =>
        intro r hr
        rcases List.mem_append.1 hr with hr | hr
        · exact h r (List.mem_append_left _ hr)
        · obtain rfl := List.mem_singleton.1 hr
          rw [endLbaExclusive] at hend ⊢
          exact ⟨Nat.add_pos_right _ hpos, by simp only; omega⟩
      · intro r hr
        rw [show init ++ [previous, range] = (init ++ [previous]) ++ [range] by simp] at hr
        rcases List.mem_append.1 hr with hr | hr
        · exact h r hr
        · exact List.mem_singleton.1 hr ▸ ⟨hpos, hend⟩

theorem mem_replacement (hm : r ∈ replacementRanges range lba outcome)
    (h : range.contains lba = true) :
    0 < r.sectorCount ∧ range.startLba ≤ r.startLba ∧
      r.endLbaExclusive ≤ range.endLbaExclusive := by
  obtain ⟨hl, hu⟩ := contains_iff.1 h
  simp only [replacementRanges, List.mem_append, List.mem_ite_nil_right, List.mem_singleton] at hm
  rcases hm with (⟨ha, rfl⟩ | ⟨-, rfl⟩) | ⟨hb, rfl⟩ <;>
    simp only [endLbaExclusive] at * <;> omega

theorem pairwise_piece [Decidable p] {x : UnrecoveredSourceRange} :
    (if p then [x] else []).Pairwise Precedes := by
  by_cases hp : p
  · rw [if_pos hp]
    exact List.pairwise_singleton _ _
  · rw [if_neg hp]
    exact .nil

theorem replacement_ordered (h : range.contains lba = true) (outcome : RecoveryReadOutcome) :
    (replacementRanges range lba outcome).Pairwise Precedes := by
  obtain ⟨hl, hu⟩ := contains_iff.1 h
  rw [replacementRanges, List.pairwise_append, List.pairwise_append]
  simp only [List.mem_append, List.mem_ite_nil_right, List.mem_singleton]
  refine ⟨⟨pairwise_piece, pairwise_piece, ?_⟩, pairwise_piece, ?_⟩
  · rintro a ⟨ha, rfl⟩ b ⟨-, rfl⟩
    simp only [Precedes, endLbaExclusive]
    omega
  · rintro a (⟨ha, rfl⟩ | ⟨-, rfl⟩) b ⟨hb, rfl⟩ <;> simp only [Precedes, endLbaExclusive] <;> omega

/-- An observation inside an ordered map leaves ranges that cannot be merged. -/
theorem follows_afterRecoveryRead (hord : ranges.Pairwise Precedes)
    (h : dvdEvidenceRangesAfterRecoveryRead ranges lba outcome = .ok next) :
    next.IsChain Follows ∧ ∀ limit, Within limit ranges → Within limit next := by
  rw [dvdEvidenceRangesAfterRecoveryRead] at h
  split at h
  · cases h
  next i hi =>
    obtain ⟨hlt, hcon, -⟩ := List.findIdx?_eq_some_iff_getElem.1 hi
    rw [List.getElem?_eq_getElem hlt] at h
    simp only [Option.toList_some, List.flatMap_cons, List.flatMap_nil, List.append_nil,
      Except.ok.injEq] at h
    have hsplit : ranges = ranges.take i ++ [ranges[i]] ++ ranges.drop (i + 1) := by
      simp [List.take_append_drop]
    rw [hsplit, List.pairwise_append, List.pairwise_append] at hord
    obtain ⟨⟨hleft, -, hlm⟩, hright, hmr⟩ := hord
    -- The three parts stay in order: the replacements lie inside the range they replace.
    have hall : (ranges.take i ++ replacementRanges ranges[i] lba outcome ++
        ranges.drop (i + 1)).Pairwise Precedes := by
      rw [List.pairwise_append, List.pairwise_append]
      refine ⟨⟨hleft, replacement_ordered hcon _, fun a ha b hb => ?_⟩, hright, fun a ha b hb => ?_⟩
      · have h1 := hlm a ha _ (List.mem_singleton_self _)
        have h2 := (mem_replacement hb hcon).2.1
        rw [Precedes] at h1 ⊢
        omega
      · rcases List.mem_append.1 ha with ha | ha
        · exact hmr a (List.mem_append_left _ ha) b hb
        · have h1 := hmr _ (List.mem_append_right _ (List.mem_singleton_self _)) b hb
          have h2 := (mem_replacement ha hcon).2.2
          rw [Precedes] at h1 ⊢
          omega
    have hwithin (limit : Nat) (hw : Within limit ranges) : Within limit next := by
      subst h
      refine Within.normalize (by simp [Within]) fun r hr => ?_
      rcases List.mem_append.1 hr with hr | hr
      · rcases List.mem_append.1 hr with hr | hr
        · exact hw r (List.mem_of_mem_take hr)
        · have hm := mem_replacement hr hcon
          exact ⟨hm.1, hm.2.2.trans (hw _ (List.getElem_mem hlt)).2⟩
      · exact hw r (List.mem_of_mem_drop hr)
    refine ⟨?_, hwithin⟩
    subst h
    cases hl : ranges.take i ++ replacementRanges ranges[i] lba outcome ++ ranges.drop (i + 1) with
    | nil => exact .nil
    | cons first rest =>
      rw [hl] at hall
      exact @follows_normalize [] _ _ (.singleton first) hall

/-- An observation inside a canonical map leaves a canonical map. -/
theorem Canonical.afterRecoveryRead (hc : Canonical ranges)
    (h : dvdEvidenceRangesAfterRecoveryRead ranges lba outcome = .ok next) :
    Canonical next ∧ ∀ limit, Within limit ranges → Within limit next := by
  obtain ⟨hchain, hwithin⟩ := follows_afterRecoveryRead hc.ordered h
  exact ⟨⟨hwithin _ hc.within, hchain⟩, hwithin⟩

/-- The map accepts an observation of exactly the sectors it lists. -/
theorem afterRecoveryRead_ok :
    (∃ next, dvdEvidenceRangesAfterRecoveryRead ranges lba outcome = .ok next) ↔
      lba ∈ sectorLbas ranges := by
  rw [mem_sectorLbas, dvdEvidenceRangesAfterRecoveryRead]
  cases hi : ranges.findIdx? (·.contains lba) with
  | none =>
    rw [List.findIdx?_eq_none_iff] at hi
    exact ⟨fun ⟨_, h⟩ => (nomatch h), fun ⟨r, hr, hc⟩ => by simp [hi r hr] at hc⟩
  | some i =>
    obtain ⟨hlt, hc, -⟩ := List.findIdx?_eq_some_iff_getElem.1 hi
    exact ⟨fun _ => ⟨_, List.getElem_mem hlt, hc⟩, fun _ => ⟨_, rfl⟩⟩

theorem unrecoveredSectorCount_afterRecoveryRead
    (h : dvdEvidenceRangesAfterRecoveryRead ranges lba outcome = .ok next) :
    unrecoveredSectorCount ranges =
      unrecoveredSectorCount next + if outcome = .recovered then 1 else 0 := by
  obtain ⟨before, after, hr, hn⟩ := sectorLbas_afterRecoveryRead h
  rw [unrecoveredSectorCount_eq, unrecoveredSectorCount_eq, hr, hn]
  simp only [List.length_append, List.length_cons]
  cases outcome
  · simp only [reduceCtorEq, if_false, if_true, List.length_nil]
    omega
  · simp only [reduceCtorEq, if_false, if_true, List.length_singleton]
    omega

end RipDvd
