import RipDvd.Collections
import RipDvd.Extents
import RipDvd.Evidence

namespace RipDvd
set_option autoImplicit true

open Extent

/-- A `TypeError`, with its message. -/
structure TypeError where
  message : String
  deriving DecidableEq

instance : Extent UnreadableSectorRange where
  start range := range.startLba
  length range := range.sectorCount
  resize _ startLba sectorCount := { startLba, sectorCount }
  start_resize := rfl
  length_resize := rfl

instance : Extent UnrecoveredSourceRange where
  start range := range.startLba
  length range := range.sectorCount
  resize range startLba sectorCount := { range with startLba, sectorCount }
  start_resize := rfl
  length_resize := rfl

/-- The classification as the records spell it. -/
def SourceClassification.text : SourceClassification → String
  | skippedUntested => "skipped_untested"
  | individuallyFailed => "individually_failed"

def positiveSafeInteger (value : Nat) (label : String) : Except TypeError Nat := do
  rejectIf (value < 1 ∨ value > maxSafeInteger) ⟨s!"{label} must be a positive integer"⟩
  return value

def nonnegativeSafeInteger (value : Nat) (label : String) : Except TypeError Nat := do
  rejectIf (value > maxSafeInteger) ⟨s!"{label} must be a nonnegative integer"⟩
  return value

variable {R : Type} [Extent R] {S : Type} [Extent S]

/-- One range of a record, checked against the extent of the archive. -/
def acceptedRange (acceptedEndLbaExclusive : Nat) (label : String) (range : R) :
    Except TypeError UnreadableSectorRange := do
  let startLba ← nonnegativeSafeInteger (start range) s!"{label} start"
  let sectorCount ← positiveSafeInteger (length range) s!"{label} length"
  let endLbaExclusive := startLba + sectorCount
  rejectIf (endLbaExclusive > maxSafeInteger ∨ endLbaExclusive > acceptedEndLbaExclusive)
    ⟨s!"{label} falls outside the accepted archive extent"⟩
  return { startLba, sectorCount }

/-- Ascending by start, then by length. -/
def compareRanges : R → R → Ordering := compareLex (compareOn start) (compareOn length)

/-- Append a range, or let the last one take it in where the two touch or overlap. -/
def mergeRange (normalized : List UnreadableSectorRange) (range : UnreadableSectorRange) :
    List UnreadableSectorRange :=
  match normalized.getLast? with
  | none => normalized ++ [range]
  | some previous =>
    if start range > stop previous then normalized ++ [range]
    else normalized.dropLast ++
      [{ previous with sectorCount := max (stop previous) (stop range) - start previous }]

def normalizeRanges (ranges : List R) (acceptedEndLbaExclusive : Nat) (label : String) :
    Except TypeError (List UnreadableSectorRange) := do
  rejectIf (ranges = []) ⟨s!"{label} must contain at least one source range"⟩
  let ordered ← ranges.mapM (acceptedRange acceptedEndLbaExclusive label)
  return (sortBy compareRanges ordered).foldl mergeRange []

/-- The only range that normalizing one range leaves. -/
def normalizeRange (range : R) (acceptedEndLbaExclusive : Nat) (label : String) :
    Except TypeError UnreadableSectorRange :=
  (normalizeRanges [range] acceptedEndLbaExclusive label).map fun normalized =>
    normalized.headD ⟨start range, length range⟩

def validateUnrecoveredRanges (acceptedEndLbaExclusive : Nat) (previousEnd : Int) :
    List UnrecoveredSourceRange → Except TypeError (List UnrecoveredSourceRange)
  | [] => .ok []
  | range :: ranges => do
    let normalized ← normalizeRange range acceptedEndLbaExclusive "Unrecovered Source range"
    rejectIf ((normalized.startLba : Int) ≤ previousEnd)
      ⟨"Unrecovered Source ranges must be normalized"⟩
    let rest ← validateUnrecoveredRanges acceptedEndLbaExclusive
      (normalized.startLba + normalized.sectorCount - 1) ranges
    return { range with
      startLba := normalized.startLba, sectorCount := normalized.sectorCount } :: rest

/-- What two ranges share, as a piece of the second. -/
def intersection (source : S) (target : R) : Option R :=
  let startLba := max (start source) (start target)
  let endLbaExclusive := min (stop source) (stop target)
  if endLbaExclusive > startLba then some (resize target startLba (endLbaExclusive - startLba))
  else none

def intersections (source : List S) (target : List R) : List R :=
  source.flatMap fun sourceRange => target.filterMap (intersection sourceRange)

/-- What a range leaves of a segment: at most a piece on either side. -/
def uncoveredPieces (covered : S) (segment : R) : List R :=
  if stop covered ≤ start segment ∨ start covered ≥ stop segment then [segment]
  else
    (if start covered > start segment then
      [resize segment (start segment) (start covered - start segment)] else []) ++
    (if stop covered < stop segment then
      [resize segment (stop covered) (stop segment - stop covered)] else [])

def subtractRanges (target : List R) (known : List S) : List R :=
  target.flatMap fun targetRange =>
    known.foldl (fun segments covered => segments.flatMap (uncoveredPieces covered)) [targetRange]

def sectorCountOf (ranges : List R) : Nat := total ranges

/-- Merge one more of a sorted list of ranges with those of its classification before it. -/
def mergeUnrecovered (normalized : List UnrecoveredSourceRange) (range : UnrecoveredSourceRange) :
    List UnrecoveredSourceRange :=
  match normalized.getLast? with
  | none => normalized ++ [range]
  | some previous =>
    if previous.classification ≠ range.classification ∨ range.startLba > stop previous then
      normalized ++ [range]
    else normalized.dropLast ++
      [{ previous with sectorCount := max (stop previous) (stop range) - previous.startLba }]

def normalizeUnrecoveredSourceRanges (ranges : List UnrecoveredSourceRange) :
    List UnrecoveredSourceRange :=
  (sortBy (compareLex compareRanges
    (fun left right => compareCodeUnits left.classification.text right.classification.text))
    ranges).foldl mergeUnrecovered []

section Accepted

variable {limit : Nat} {label : String} {range : R} {ranges : List R}
  {normalized : List UnreadableSectorRange}

/-- A range of whole sectors of an archive of so many. -/
def InExtent (limit : Nat) (range : R) : Prop :=
  0 < length range ∧ stop range ≤ maxSafeInteger ∧ stop range ≤ limit

theorem acceptedRange_ok {accepted : UnreadableSectorRange} :
    acceptedRange limit label range = .ok accepted ↔
      InExtent limit range ∧ accepted = ⟨start range, length range⟩ := by
  simp only [acceptedRange, nonnegativeSafeInteger, positiveSafeInteger, bind_ok, rejectIf_ok,
    pure_ok, not_or, Nat.not_lt, InExtent, stop]
  constructor
  · rintro ⟨_, ⟨-, -, rfl⟩, _, ⟨-, ⟨hpos, -⟩, rfl⟩, -, ⟨hsafe, hlimit⟩, rfl⟩
    exact ⟨⟨hpos, hsafe, hlimit⟩, rfl⟩
  · rintro ⟨⟨hpos, hsafe, hlimit⟩, rfl⟩
    exact ⟨_, ⟨(), by omega, rfl⟩, _, ⟨(), by omega, rfl⟩, (), ⟨hsafe, hlimit⟩, rfl⟩

theorem mapM_acceptedRange {accepted : List UnreadableSectorRange} :
    ranges.mapM (acceptedRange limit label) = .ok accepted ↔
      (∀ range ∈ ranges, InExtent limit range) ∧
        accepted = ranges.map fun range => ⟨start range, length range⟩ := by
  induction ranges generalizing accepted with
  | nil =>
    constructor
    · intro h
      cases h
      exact ⟨fun _ hr => (nomatch hr), rfl⟩
    · rintro ⟨-, rfl⟩
      rfl
  | cons range ranges ih =>
    simp only [List.mapM_cons, bind_ok, pure_ok, acceptedRange_ok, ih, List.forall_mem_cons,
      List.map_cons]
    constructor
    · rintro ⟨_, ⟨hrange, rfl⟩, _, ⟨hranges, rfl⟩, rfl⟩
      exact ⟨⟨hrange, hranges⟩, rfl⟩
    · rintro ⟨⟨hrange, hranges⟩, rfl⟩
      exact ⟨_, ⟨hrange, rfl⟩, _, ⟨hranges, rfl⟩, rfl⟩

theorem normalizeRanges_ok : normalizeRanges ranges limit label = .ok normalized ↔
    ranges ≠ [] ∧ (∀ range ∈ ranges, InExtent limit range) ∧
      normalized = (sortBy compareRanges (ranges.map fun range =>
        (⟨start range, length range⟩ : UnreadableSectorRange))).foldl mergeRange [] := by
  simp only [normalizeRanges, bind_ok, rejectIf_ok, mapM_acceptedRange, pure_ok]
  constructor
  · rintro ⟨-, hne, _, ⟨hin, rfl⟩, rfl⟩
    exact ⟨hne, hin, rfl⟩
  · rintro ⟨hne, hin, rfl⟩
    exact ⟨(), hne, _, ⟨hin, rfl⟩, rfl⟩

theorem mergeRange_nil (range : UnreadableSectorRange) : mergeRange [] range = [range] := rfl

theorem mergeRange_snoc (init : List UnreadableSectorRange)
    (previous range : UnreadableSectorRange) :
    mergeRange (init ++ [previous]) range =
      if start range > stop previous then init ++ [previous] ++ [range]
      else init ++
        [{ previous with sectorCount := max (stop previous) (stop range) - start previous }] := by
  rw [mergeRange, List.getLast?_append, List.dropLast_concat]
  rfl

theorem normalizeRange_ok {accepted : UnreadableSectorRange} :
    normalizeRange range limit label = .ok accepted ↔
      InExtent limit range ∧ accepted = ⟨start range, length range⟩ := by
  simp only [normalizeRange, map_ok, normalizeRanges_ok]
  constructor
  · rintro ⟨_, ⟨-, hin, rfl⟩, rfl⟩
    exact ⟨hin range List.mem_cons_self, rfl⟩
  · rintro ⟨hin, rfl⟩
    refine ⟨_, ⟨List.cons_ne_nil _ _, fun r hr => ?_, rfl⟩, rfl⟩
    rw [List.mem_singleton.1 hr]
    exact hin

end Accepted

section Normalized

variable {init rest normalized : List UnreadableSectorRange} {last range : UnreadableSectorRange}

/-- One more range keeps a merged list merged, and adds its sectors. -/
theorem merged_mergeRange (h : Merged (init ++ [last])) (hpos : 0 < length range)
    (hle : start last ≤ start range) : ∃ init' last',
      mergeRange (init ++ [last]) range = init' ++ [last'] ∧ Merged (init' ++ [last']) ∧
      start last' ≤ start range ∧
      cover (init' ++ [last']) = cover (init ++ [last]) ∪ cover [range] := by
  obtain ⟨hpositive, hgaps⟩ := h
  obtain ⟨hinit, -, hlast⟩ := List.pairwise_append.1 hgaps
  rw [mergeRange_snoc]
  by_cases hgap : start range > stop last
  · rw [if_pos hgap]
    refine ⟨init ++ [last], range, rfl, ⟨fun r hr => ?_, ?_⟩, le_refl _, cover_append ..⟩
    · rcases List.mem_append.1 hr with hr | hr
      · exact hpositive r hr
      · rw [List.mem_singleton.1 hr]
        exact hpos
    · apply List.pairwise_append.2
      refine ⟨hgaps, List.pairwise_singleton _ _, fun a ha b hb => ?_⟩
      rw [List.mem_singleton.1 hb]
      rcases List.mem_append.1 ha with ha | ha
      · have hstop := hlast a ha last List.mem_cons_self
        rw [stop] at hgap
        omega
      · rw [List.mem_singleton.1 ha]
        exact hgap
  · rw [if_neg hgap]
    have hlength := hpositive last (List.mem_append_right _ List.mem_cons_self)
    have hstop : stop ({ last with
        sectorCount := max (stop last) (stop range) - start last } : UnreadableSectorRange) =
        max (stop last) (stop range) := by
      have hle' : start last ≤ stop last := Nat.le_add_right ..
      show start last + (max (stop last) (stop range) - start last) = _
      omega
    refine ⟨init, _, rfl, ⟨fun r hr => ?_, ?_⟩, hle, ?_⟩
    · rcases List.mem_append.1 hr with hr | hr
      · exact hpositive r (List.mem_append_left _ hr)
      · rw [List.mem_singleton.1 hr]
        show 0 < max (stop last) (stop range) - start last
        rw [stop, stop] at *
        omega
    · apply List.pairwise_append.2
      refine ⟨hinit, List.pairwise_singleton _ _, fun a ha b hb => ?_⟩
      rw [List.mem_singleton.1 hb]
      exact hlast a ha last List.mem_cons_self
    · rw [cover_append, cover_append, Finset.union_assoc]
      congr 1
      ext n
      rw [Finset.mem_union, mem_cover_singleton, mem_cover_singleton, mem_cover_singleton, hstop]
      show start last ≤ n ∧ n < max (stop last) (stop range) ↔ _
      omega

theorem merged_foldl (init : List UnreadableSectorRange) (h : Merged (init ++ [last]))
    (hrest : rest.Pairwise fun a b => start a ≤ start b)
    (hle : ∀ range ∈ rest, start last ≤ start range ∧ 0 < length range) :
    Merged (rest.foldl mergeRange (init ++ [last])) ∧
      cover (rest.foldl mergeRange (init ++ [last])) = cover (init ++ [last]) ∪ cover rest := by
  induction rest generalizing init last with
  | nil => exact ⟨h, (Finset.union_empty _).symm⟩
  | cons range rest ih =>
    obtain ⟨hfirst, hrest⟩ := List.pairwise_cons.1 hrest
    obtain ⟨hstart, hpos⟩ := hle range List.mem_cons_self
    obtain ⟨init', last', he, hmerged, hlast', hcover⟩ := merged_mergeRange h hpos hstart
    rw [List.foldl_cons, he]
    obtain ⟨hm, hc⟩ := ih init' hmerged hrest fun r hr =>
      ⟨hlast'.trans (hfirst r hr), (hle r (List.mem_cons_of_mem _ hr)).2⟩
    refine ⟨hm, ?_⟩
    rw [hc, hcover, Finset.union_assoc, ← cover_cons]

theorem isLE_compareRanges {a b : R} (h : (compareRanges a b).isLE = true) :
    start a ≤ start b := by
  simp only [compareRanges, compareLex, Ordering.isLE_then_iff_and] at h
  exact Nat.isLE_compare.1 h.1

theorem cover_plain (ranges : List R) :
    cover (ranges.map fun range => (⟨start range, length range⟩ : UnreadableSectorRange)) =
      cover ranges := by
  ext n
  simp only [mem_cover, List.mem_map, exists_exists_and_eq_and]
  rfl

instance : Std.TransCmp (compareRanges (R := R)) :=
  inferInstanceAs (Std.TransCmp (compareLex (compareOn start) (compareOn length)))

theorem compareRanges_eq {a b : R} (h : compareRanges a b = .eq) :
    start a = start b ∧ length a = length b := by
  simpa only [compareRanges, compareLex_eq_eq, compareOn, Nat.compare_eq_eq] using h

/-- A normalized list is the merged list of its sectors. -/
theorem normalizeRanges_merged {ranges : List R}
    (h : normalizeRanges ranges limit label = .ok normalized) :
    Merged normalized ∧ cover normalized = cover ranges := by
  obtain ⟨-, hin, rfl⟩ := normalizeRanges_ok.1 h
  rw [← cover_plain ranges]
  have hpos : ∀ r ∈ ranges.map fun range =>
      (⟨start range, length range⟩ : UnreadableSectorRange), 0 < length r := by
    intro r hr
    obtain ⟨range, hrange, rfl⟩ := List.mem_map.1 hr
    exact (hin range hrange).1
  generalize (ranges.map fun range =>
    (⟨start range, length range⟩ : UnreadableSectorRange)) = plain at hpos
  have hsorted : Ascending compareRanges (sortBy compareRanges plain) := ascending_sortBy plain
  rw [← cover_perm (perm_sortBy compareRanges plain)]
  have hpos : ∀ r ∈ sortBy compareRanges plain, 0 < length r :=
    fun r hr => hpos r (mem_sortBy.1 hr)
  cases hs : sortBy compareRanges plain with
  | nil => exact ⟨⟨fun _ hr => (nomatch hr), .nil⟩, rfl⟩
  | cons range rest =>
    rw [Ascending, hs] at hsorted
    rw [hs] at hpos
    obtain ⟨hfirst, hrest⟩ := List.pairwise_cons.1 hsorted
    rw [List.foldl_cons, mergeRange_nil, cover_cons]
    apply merged_foldl []
    · refine ⟨fun r hr => ?_, List.pairwise_singleton _ _⟩
      rw [List.mem_singleton.1 hr]
      exact hpos range List.mem_cons_self
    · exact hrest.imp isLE_compareRanges
    · intro r hr
      exact ⟨isLE_compareRanges (hfirst r hr), hpos r (List.mem_cons_of_mem _ hr)⟩

/-- Lists of the same sectors have the same normal form. -/
theorem normalizeRanges_congr {ranges : List R} {ranges' : List S}
    (h : normalizeRanges ranges limit label = .ok normalized)
    (hcover : cover ranges' = cover ranges) (hpos : ∀ range ∈ ranges', 0 < length range) :
    normalizeRanges ranges' limit label = .ok normalized := by
  obtain ⟨hmerged, hsectors⟩ := normalizeRanges_merged h
  obtain ⟨hne, hin, -⟩ := normalizeRanges_ok.1 h
  have hin' : ∀ range ∈ ranges', InExtent limit range := by
    intro range hr
    have hlast : stop range - 1 ∈ cover ranges := by
      rw [← hcover, mem_cover]
      have := hpos range hr
      refine ⟨range, hr, ?_, ?_⟩ <;> rw [stop] <;> omega
    obtain ⟨other, ho, -, hlt⟩ := mem_cover.1 hlast
    obtain ⟨-, hsafe, hlimit⟩ := hin other ho
    exact ⟨hpos range hr, by omega, by omega⟩
  have hne' : ranges' ≠ [] := by
    rintro rfl
    obtain ⟨range, hr⟩ := List.exists_mem_of_ne_nil _ hne
    have hstart : start range ∈ cover ranges := by
      rw [mem_cover]
      have := (hin range hr).1
      exact ⟨range, hr, le_refl _, by rw [stop]; omega⟩
    rw [← hcover] at hstart
    exact absurd hstart (Finset.notMem_empty _)
  have h' : normalizeRanges ranges' limit label = .ok _ :=
    normalizeRanges_ok.2 ⟨hne', hin', rfl⟩
  obtain ⟨hmerged', hsectors'⟩ := normalizeRanges_merged h'
  rw [h']
  congr 1
  apply hmerged'.ext hmerged
  · rintro ⟨_, _⟩ ⟨_, _⟩ rfl rfl
    rfl
  · rw [hsectors', hsectors, hcover]

end Normalized

section Pieces

variable {source : List S} {target : List R}

theorem intersection_eq {a : S} {b piece : R} (h : intersection a b = some piece) :
    max (start a) (start b) < min (stop a) (stop b) ∧
      piece = resize b (max (start a) (start b))
        (min (stop a) (stop b) - max (start a) (start b)) := by
  rw [intersection] at h
  split at h
  · next hlt => exact ⟨hlt, (Option.some.inj h).symm⟩
  · cases h

theorem intersection_inside {a : S} {b piece : R} (h : intersection a b = some piece) :
    Inside piece a ∧ Inside piece b := by
  obtain ⟨hlt, rfl⟩ := intersection_eq h
  simp only [Inside, stop, start_resize, length_resize] at hlt ⊢
  omega

theorem mem_intersections {piece : R} :
    piece ∈ intersections source target ↔
      ∃ a ∈ source, ∃ b ∈ target, intersection a b = some piece := by
  simp only [intersections, List.mem_flatMap, List.mem_filterMap]

theorem cover_intersections (source : List S) (target : List R) :
    cover (intersections source target) = cover source ∩ cover target := by
  ext n
  rw [Finset.mem_inter, mem_cover, mem_cover, mem_cover]
  constructor
  · rintro ⟨piece, hp, hle, hlt⟩
    obtain ⟨a, ha, b, hb, hpiece⟩ := mem_intersections.1 hp
    obtain ⟨⟨has, hae⟩, hbs, hbe⟩ := intersection_inside hpiece
    exact ⟨⟨a, ha, has.trans hle, hlt.trans_le hae⟩, b, hb, hbs.trans hle, hlt.trans_le hbe⟩
  · rintro ⟨⟨a, ha, has, hae⟩, b, hb, hbs, hbe⟩
    have hlt : max (start a) (start b) < min (stop a) (stop b) := by omega
    refine ⟨_, mem_intersections.2 ⟨a, ha, b, hb, if_pos hlt⟩, ?_, ?_⟩
    · rw [start_resize]
      omega
    · rw [stop, start_resize, length_resize]
      omega

theorem pairwise_intersections (hs : source.Pairwise Apart) (ht : target.Pairwise Apart) :
    (intersections source target).Pairwise Apart := by
  apply pairwise_flatMap hs
  intro a _
  constructor
  · apply List.pairwise_filterMap.2
    apply ht.imp
    intro b c hbc x hx y hy
    exact hbc.inside (intersection_inside hx).2 (intersection_inside hy).2
  · intro piece hp
    obtain ⟨b, -, hpiece⟩ := List.mem_filterMap.1 hp
    exact (intersection_inside hpiece).1

theorem cover_uncoveredPieces (covered : S) (segment : R) :
    cover (uncoveredPieces covered segment) = cover [segment] \ cover [covered] := by
  ext n
  rw [Finset.mem_sdiff, mem_cover_singleton, mem_cover_singleton, uncoveredPieces]
  have hstop : start segment ≤ stop segment := Nat.le_add_right ..
  split
  · rw [mem_cover_singleton]
    omega
  · rw [cover_append, Finset.mem_union, mem_cover_ite, mem_cover_ite]
    simp only [stop, start_resize, length_resize] at *
    omega

theorem uncoveredPieces_inside {covered : S} {segment piece : R}
    (h : piece ∈ uncoveredPieces covered segment) : Inside piece segment := by
  rw [uncoveredPieces] at h
  split at h
  · rw [List.mem_singleton.1 h]
    exact ⟨le_refl _, le_refl _⟩
  · simp only [List.mem_append, List.mem_ite_nil_right, List.mem_singleton] at h
    rcases h with ⟨hlt, rfl⟩ | ⟨hlt, rfl⟩ <;>
      simp only [Inside, stop, start_resize, length_resize] at * <;> omega

theorem pairwise_uncoveredPieces (covered : S) (segment : R) :
    (uncoveredPieces covered segment).Pairwise Apart := by
  rw [uncoveredPieces]
  split
  · exact List.pairwise_singleton _ _
  · apply List.pairwise_append.2
    refine ⟨?_, ?_, fun a ha b hb => .inl ?_⟩
    · split
      · exact List.pairwise_singleton _ _
      · exact .nil
    · split
      · exact List.pairwise_singleton _ _
      · exact .nil
    · simp only [List.mem_ite_nil_right, List.mem_singleton] at ha hb
      obtain ⟨hlt, rfl⟩ := ha
      obtain ⟨hgt, rfl⟩ := hb
      simp only [stop, start_resize, length_resize]
      omega

/-- What is left of a list of segments once every known range is taken out. -/
theorem foldl_uncoveredPieces (known : List S) {segments : List R}
    (h : segments.Pairwise Apart) :
    let left := known.foldl (fun segments covered => segments.flatMap (uncoveredPieces covered))
      segments
    cover left = cover segments \ cover known ∧ left.Pairwise Apart ∧
      ∀ piece ∈ left, ∃ segment ∈ segments, Inside piece segment := by
  induction known generalizing segments with
  | nil => exact ⟨(Finset.sdiff_empty).symm, h, fun piece hp => ⟨piece, hp, le_refl _, le_refl _⟩⟩
  | cons covered known ih =>
    have hnext : (segments.flatMap (uncoveredPieces covered)).Pairwise Apart :=
      pairwise_flatMap h fun segment _ =>
        ⟨pairwise_uncoveredPieces covered segment, fun _ => uncoveredPieces_inside⟩
    obtain ⟨hcover, hpair, hwithin⟩ := ih hnext
    refine ⟨?_, hpair, fun piece hp => ?_⟩
    · rw [List.foldl_cons, hcover]
      ext n
      rw [cover_cons covered known]
      simp only [Finset.mem_sdiff, Finset.mem_union, mem_cover_flatMap, cover_uncoveredPieces,
        not_or]
      constructor
      · rintro ⟨⟨segment, hs, hn, hc⟩, hk⟩
        obtain ⟨hle, hlt⟩ := mem_cover_singleton.1 hn
        exact ⟨mem_cover.2 ⟨segment, hs, hle, hlt⟩, hc, hk⟩
      · rintro ⟨hn, hc, hk⟩
        obtain ⟨segment, hs, hle, hlt⟩ := mem_cover.1 hn
        exact ⟨⟨segment, hs, mem_cover_singleton.2 ⟨hle, hlt⟩, hc⟩, hk⟩
    · obtain ⟨middle, hm, hpm⟩ := hwithin piece hp
      obtain ⟨segment, hs, hms⟩ := List.mem_flatMap.1 hm
      exact ⟨segment, hs, hpm.trans (uncoveredPieces_inside hms)⟩

theorem cover_subtractRanges (target : List R) (known : List S) :
    cover (subtractRanges target known) = cover target \ cover known := by
  ext n
  simp only [subtractRanges, mem_cover_flatMap, Finset.mem_sdiff,
    (foldl_uncoveredPieces known (List.pairwise_singleton _ _)).1]
  constructor
  · rintro ⟨range, hr, hn, hk⟩
    obtain ⟨hle, hlt⟩ := mem_cover_singleton.1 hn
    exact ⟨mem_cover.2 ⟨range, hr, hle, hlt⟩, hk⟩
  · rintro ⟨hn, hk⟩
    obtain ⟨range, hr, hle, hlt⟩ := mem_cover.1 hn
    exact ⟨range, hr, mem_cover_singleton.2 ⟨hle, hlt⟩, hk⟩

theorem pairwise_subtractRanges (known : List S) (ht : target.Pairwise Apart) :
    (subtractRanges target known).Pairwise Apart := by
  apply pairwise_flatMap ht
  intro range _
  obtain ⟨-, hpair, hinside⟩ :=
    foldl_uncoveredPieces known (List.pairwise_singleton Apart range)
  refine ⟨hpair, fun piece hp => ?_⟩
  obtain ⟨segment, hs, hinside⟩ := hinside piece hp
  rw [List.mem_singleton.1 hs] at hinside
  exact hinside

/-- A property of the rest of a record, whatever interval it has. -/
def Keeps (p : R → Bool) : Prop := ∀ r s n, p (resize r s n) = p r

variable {p : R → Bool}

theorem intersections_filter (hp : Keeps p) (source : List S) (target : List R) :
    (intersections source target).filter p = intersections source (target.filter p) := by
  rw [intersections, intersections, List.filter_flatMap]
  congr 1
  funext a
  rw [List.filter_filterMap, List.filterMap_filter]
  congr 1
  funext b
  cases h : intersection a b with
  | none => simp
  | some piece =>
    obtain ⟨-, rfl⟩ := intersection_eq h
    simp [Option.filter, hp b]

theorem uncoveredPieces_keeps (hp : Keeps p) {covered : S} {segment piece : R}
    (h : piece ∈ uncoveredPieces covered segment) : p piece = p segment := by
  rw [uncoveredPieces] at h
  split at h
  · rw [List.mem_singleton.1 h]
  · simp only [List.mem_append, List.mem_ite_nil_right, List.mem_singleton] at h
    rcases h with ⟨-, rfl⟩ | ⟨-, rfl⟩ <;> exact hp ..

theorem foldl_uncoveredPieces_keeps (hp : Keeps p) (known : List S) {segments : List R} {b : Bool}
    (h : ∀ segment ∈ segments, p segment = b) :
    ∀ piece ∈ known.foldl
      (fun segments covered => segments.flatMap (uncoveredPieces covered)) segments,
        p piece = b := by
  induction known generalizing segments with
  | nil => exact h
  | cons covered known ih =>
    apply ih
    intro piece hpiece
    obtain ⟨segment, hs, hpiece⟩ := List.mem_flatMap.1 hpiece
    exact (uncoveredPieces_keeps hp hpiece).trans (h segment hs)

theorem subtractRanges_filter (hp : Keeps p) (target : List R) (known : List S) :
    (subtractRanges target known).filter p = subtractRanges (target.filter p) known := by
  rw [subtractRanges, subtractRanges]
  induction target with
  | nil => rfl
  | cons range target ih =>
    have hpieces := foldl_uncoveredPieces_keeps hp known (b := p range)
      (List.forall_mem_singleton.2 (rfl : p range = p range))
    rw [List.flatMap_cons, List.filter_append, ih]
    cases hr : p range with
    | true =>
      rw [List.filter_cons_of_pos hr, List.flatMap_cons]
      congr 1
      exact List.filter_eq_self.2 fun piece hpiece => (hpieces piece hpiece).trans hr
    | false =>
      rw [List.filter_cons_of_neg (by simp [hr])]
      refine (congrArg (· ++ _) (List.filter_eq_nil_iff.2 fun piece hpiece => ?_)).trans
        (List.nil_append _)
      rw [hpieces piece hpiece, hr]
      exact Bool.false_ne_true

end Pieces

/-- A map of unrecovered source is taken as it is, and lists every sector once. -/
theorem validateUnrecoveredRanges_ok {ranges validated : List UnrecoveredSourceRange}
    (h : validateUnrecoveredRanges limit previousEnd ranges = .ok validated) :
    validated = ranges ∧ ranges.Pairwise Apart ∧
      ∀ range ∈ ranges, InExtent limit range ∧ previousEnd < start range := by
  induction ranges generalizing previousEnd validated with
  | nil =>
    cases h
    exact ⟨rfl, .nil, fun _ hr => (nomatch hr)⟩
  | cons range ranges ih =>
    simp only [validateUnrecoveredRanges, bind_ok, normalizeRange_ok, rejectIf_ok, pure_ok] at h
    obtain ⟨_, ⟨hin, rfl⟩, -, hafter, rest, hrest, rfl⟩ := h
    obtain ⟨rfl, hpair, hranges⟩ := ih hrest
    have hpos := hin.1
    simp only at hafter hranges
    refine ⟨rfl, List.pairwise_cons.2 ⟨fun other ho => .inl ?_, hpair⟩, fun other ho => ?_⟩
    · have hlater := (hranges other ho).2
      rw [stop]
      omega
    · rcases List.mem_cons.1 ho with rfl | ho
      · exact ⟨hin, not_le.1 hafter⟩
      · obtain ⟨hin', hlater⟩ := hranges other ho
        exact ⟨hin', by omega⟩

end RipDvd
