import RipDvd.DamageIdentity

namespace RipDvd
set_option autoImplicit true

open Extent

section Normalized

variable {rest ranges : List UnrecoveredSourceRange} {last range : UnrecoveredSourceRange}
  {p : UnrecoveredSourceRange → Bool}

theorem mergeUnrecovered_snoc (init : List UnrecoveredSourceRange)
    (previous range : UnrecoveredSourceRange) :
    mergeUnrecovered (init ++ [previous]) range =
      if previous.classification ≠ range.classification ∨ range.startLba > stop previous then
        init ++ [previous] ++ [range]
      else init ++
        [{ previous with
          sectorCount := max (stop previous) (stop range) - previous.startLba }] := by
  rw [mergeUnrecovered, List.getLast?_append, List.dropLast_concat]
  rfl

/-- What is kept of a record depends on its classification only. -/
theorem Keeps.classified (hp : Keeps p) {a b : UnrecoveredSourceRange}
    (h : a.classification = b.classification) : p a = p b := by
  have hb : b = resize a b.startLba b.sectorCount := by
    cases b
    cases h
    rfl
  rw [hb, hp]

/-- A record up to the end of the one behind it that it touches. -/
def UnrecoveredSourceRange.grown (last range : UnrecoveredSourceRange) : UnrecoveredSourceRange :=
  { last with sectorCount := stop range - last.startLba }

theorem stop_grown (hlast : 0 < length last) (h : stop last = start range) :
    stop (last.grown range) = stop range := by
  show start last + (stop range - start last) = stop range
  rw [stop] at h ⊢
  omega

theorem cover_grown (hp : Keeps p) (hlast : 0 < length last)
    (hsame : last.classification = range.classification) (h : stop last = start range) :
    cover ([last.grown range].filter p) = cover ([last, range].filter p) := by
  have hgrown : p (last.grown range) = p last := hp ..
  have hrange : p range = p last := hp.classified hsame.symm
  cases hlabel : p last with
  | true =>
    have hstop := stop_grown hlast h
    rw [hlabel] at hgrown hrange
    simp only [List.filter_cons_of_pos, hlabel, hgrown, hrange, List.filter_nil]
    rw [cover_cons last]
    ext n
    rw [Finset.mem_union, mem_cover_singleton, mem_cover_singleton, mem_cover_singleton, hstop]
    show start last ≤ n ∧ n < stop range ↔ _
    have hrising : start range ≤ stop range := Nat.le_add_right ..
    have hstart : start last ≤ stop last := Nat.le_add_right ..
    omega
  | false =>
    rw [hlabel] at hgrown hrange
    simp only [List.filter_cons, hlabel, hgrown, hrange, List.filter_nil, Bool.false_eq_true,
      if_false]

theorem rising_grown {init : List UnrecoveredSourceRange}
    (h : Rising (init ++ last :: range :: rest))
    (htouch : stop last = start range) : Rising (init ++ last.grown range :: rest) := by
  obtain ⟨hpositive, hascending⟩ := h
  obtain ⟨hinit, htail, hcross⟩ := List.pairwise_append.1 hascending
  obtain ⟨hlast, hbehind⟩ := List.pairwise_cons.1 htail
  obtain ⟨hrange, hrest⟩ := List.pairwise_cons.1 hbehind
  have hlength := hpositive last (by simp)
  have hstop := stop_grown hlength htouch
  constructor
  case positive =>
    intro r hr
    cases List.mem_append.1 hr with
    | inl hin => exact hpositive r (List.mem_append_left _ hin)
    | inr hin =>
      cases List.mem_cons.1 hin with
      | inl heq =>
        have hpast := hpositive range (by simp)
        rw [heq]
        show 0 < stop range - start last
        rw [stop] at htouch ⊢
        omega
      | inr hin => exact hpositive r (by simp [hin])
  case ascending =>
    apply List.pairwise_append.2
    refine ⟨hinit, List.pairwise_cons.2 ⟨?_, hrest⟩, ?_⟩
    · intro r hr
      rw [hstop]
      exact hrange r hr
    · intro a ha b hb
      cases List.mem_cons.1 hb with
      | inl heq =>
        rw [heq]
        exact hcross a ha last List.mem_cons_self
      | inr hin => exact hcross a ha b (List.mem_cons_of_mem _ (List.mem_cons_of_mem _ hin))

/-- Merging rising records keeps the sectors of every classification. -/
theorem foldl_mergeUnrecovered (hp : Keeps p) (init : List UnrecoveredSourceRange)
    (h : Rising (init ++ last :: rest)) :
    Rising (rest.foldl mergeUnrecovered (init ++ [last])) ∧
      cover ((rest.foldl mergeUnrecovered (init ++ [last])).filter p) =
        cover ((init ++ last :: rest).filter p) := by
  induction rest generalizing init last with
  | nil => exact ⟨h, rfl⟩
  | cons range rest ih =>
    have hlast := h.positive last (by simp)
    have hrange := h.positive range (by simp)
    have hnext : stop last ≤ start range := by
      obtain ⟨-, htail, -⟩ := List.pairwise_append.1 h.ascending
      exact (List.pairwise_cons.1 htail).1 range List.mem_cons_self
    rw [List.foldl_cons, mergeUnrecovered_snoc]
    by_cases hgap : last.classification ≠ range.classification ∨ range.startLba > stop last
    · rw [if_pos hgap]
      have hsplit : init ++ last :: range :: rest = init ++ [last] ++ range :: rest := by
        rw [List.append_assoc, List.singleton_append]
      rw [hsplit] at h ⊢
      exact ih (init ++ [last]) h
    · rw [if_neg hgap]
      simp only [not_or, not_not] at hgap
      obtain ⟨hsame, hle⟩ := hgap
      have htouch : stop last = start range := Nat.le_antisymm hnext (not_lt.1 hle)
      have hmax : max (stop last) (stop range) = stop range := by
        rw [htouch]
        exact max_eq_right (Nat.le_add_right ..)
      rw [hmax]
      obtain ⟨hrising, hcover⟩ := ih init (rising_grown h htouch)
      refine ⟨hrising, hcover.trans ?_⟩
      show cover ((init ++ last.grown range :: rest).filter p) = _
      have hgrown : last.grown range :: rest = [last.grown range] ++ rest := rfl
      have hpair : last :: range :: rest = [last, range] ++ rest := rfl
      rw [hgrown, hpair]
      simp only [List.filter_append, cover_append, cover_grown hp hlast hsame htouch]

def compareUnrecovered : UnrecoveredSourceRange → UnrecoveredSourceRange → Ordering :=
  compareLex compareRanges
    fun left right => compareCodeUnits left.classification.text right.classification.text

instance : Std.TransCmp compareUnrecovered :=
  inferInstanceAs (Std.TransCmp (compareLex compareRanges
    (compareOn fun range : UnrecoveredSourceRange => codeUnits range.classification.text)))

/-- Normalizing spaced records keeps the sectors of every classification. -/
theorem normalizeUnrecoveredSourceRanges_spaced (h : Spaced ranges) (hp : Keeps p) :
    Spaced (normalizeUnrecoveredSourceRanges ranges) ∧
      cover ((normalizeUnrecoveredSourceRanges ranges).filter p) = cover (ranges.filter p) := by
  rw [normalizeUnrecoveredSourceRanges]
  change Spaced ((sortBy compareUnrecovered ranges).foldl mergeUnrecovered []) ∧ cover
    (((sortBy compareUnrecovered ranges).foldl mergeUnrecovered []).filter p) = _
  have hsorted : (sortBy compareUnrecovered ranges).Pairwise fun a b => start a ≤ start b := by
    apply (ascending_sortBy ranges).imp
    intro a b hab
    simp only [compareUnrecovered, compareLex, Ordering.isLE_then_iff_and] at hab
    exact isLE_compareRanges hab.1
  have hperm := perm_sortBy compareUnrecovered ranges
  have hrising := (h.perm hperm.symm).rising hsorted
  rw [← cover_perm (hperm.filter p)]
  cases hs : sortBy compareUnrecovered ranges with
  | nil => exact ⟨⟨fun _ hr => (nomatch hr), .nil⟩, rfl⟩
  | cons range rest =>
    rw [hs] at hrising
    obtain ⟨hmerged, hcover⟩ := foldl_mergeUnrecovered hp [] hrising
    exact ⟨hmerged.spaced, hcover⟩

end Normalized

section Spacing

variable {R : Type} [Extent R] {S : Type} [Extent S] {source : List S} {target : List R}
  {piece segment : R} {covered : S}

theorem intersections_spaced (hs : source.Pairwise Apart) (ht : target.Pairwise Apart) :
    Spaced (intersections source target) := by
  refine ⟨?_, pairwise_intersections hs ht⟩
  intro piece hpiece
  obtain ⟨a, -, b, -, hshared⟩ := mem_intersections.1 hpiece
  obtain ⟨hlt, rfl⟩ := intersection_eq hshared
  rw [length_resize]
  omega

theorem uncoveredPieces_positive (hsegment : 0 < length segment)
    (h : piece ∈ uncoveredPieces covered segment) : 0 < length piece := by
  rw [uncoveredPieces] at h
  split at h
  next =>
    rw [List.mem_singleton.1 h]
    exact hsegment
  next =>
    simp only [List.mem_append, List.mem_ite_nil_right, List.mem_singleton] at h
    cases h with
    | inl h =>
      obtain ⟨hlt, rfl⟩ := h
      rw [length_resize]
      omega
    | inr h =>
      obtain ⟨hlt, rfl⟩ := h
      rw [length_resize]
      omega

theorem subtractRanges_spaced (known : List S) (ht : Spaced target) :
    Spaced (subtractRanges target known) := by
  have hpieces : ∀ segments : List R, (∀ segment ∈ segments, 0 < length segment) →
      ∀ piece ∈ known.foldl
        (fun segments covered => segments.flatMap (uncoveredPieces covered)) segments,
        0 < length piece := by
    induction known with
    | nil => exact fun _ h => h
    | cons covered known ih =>
      intro segments hsegments
      apply ih
      intro piece hpiece
      obtain ⟨segment, hsegment, hpiece⟩ := List.mem_flatMap.1 hpiece
      exact uncoveredPieces_positive (hsegments segment hsegment) hpiece
  refine ⟨?_, pairwise_subtractRanges known ht.apart⟩
  intro piece hpiece
  obtain ⟨range, hrange, hpiece⟩ := List.mem_flatMap.1 hpiece
  exact hpieces [range] (List.forall_mem_singleton.2 (ht.positive range hrange)) piece hpiece

end Spacing

section Placement

variable {known remaining left : List UnrecoveredSourceRange}
  {span : DvdTitleDamageTimingSpan} {spans : List DvdTitleDamageTimingSpan}
  {candidate : DvdTitleDamageAffectedPlaybackInterval}
  {candidates : List DvdTitleDamageAffectedPlaybackInterval} {occurrence : Nat}

/-- The first of an occurrence's spans that has a sector. -/
def placingSpan (spans : List DvdTitleDamageTimingSpan) (n : Nat) :
    Option DvdTitleDamageTimingSpan :=
  spans.find? fun span => n ∈ cover [span.sourceRange]

theorem placingSpan_covers (h : placingSpan spans n = some span) :
    n ∈ cover [span.sourceRange] := by
  have hfound := List.find?_some h
  exact of_decide_eq_true hfound

theorem placingSpan_inside (h : n ∈ cover [span.sourceRange]) :
    placingSpan (span :: spans) n = some span :=
  List.find?_cons_of_pos (decide_eq_true h)

theorem placingSpan_outside (h : n ∉ cover [span.sourceRange]) :
    placingSpan (span :: spans) n = placingSpan spans n :=
  List.find?_cons_of_neg fun hd => h (of_decide_eq_true hd)

/-- An interval with the time of a span. -/
structure OfSpan (occurrence : Nat) (span : DvdTitleDamageTimingSpan)
    (interval : DvdTitleDamageAffectedPlaybackInterval) : Prop where
  occurrence : interval.playbackOccurrence = occurrence
  startMilliseconds : interval.startMilliseconds = span.startMilliseconds
  endMilliseconds : interval.endMilliseconds = span.endMilliseconds
  coverage : interval.coverage = span.coverage

/-- A candidate has the sectors that its span is the first to have. -/
structure PlacedBy (occurrence : Nat) (known : List UnrecoveredSourceRange)
    (spans : List DvdTitleDamageTimingSpan) (candidate : DvdTitleDamageAffectedPlaybackInterval)
    (span : DvdTitleDamageTimingSpan) : Prop where
  timed : OfSpan occurrence span candidate
  sectors : ∀ n, n ∈ cover candidate.sourceRanges ↔
    n ∈ cover known ∧ placingSpan spans n = some span

/-- Where the spans of an occurrence put known damage. -/
structure Placement (occurrence : Nat) (known : List UnrecoveredSourceRange)
    (spans : List DvdTitleDamageTimingSpan)
    (candidates : List DvdTitleDamageAffectedPlaybackInterval)
    (left : List UnrecoveredSourceRange) : Prop where
  placed : ∀ candidate ∈ candidates, ∃ span, PlacedBy occurrence known spans candidate span
  nonempty : ∀ candidate ∈ candidates, (cover candidate.sourceRanges).Nonempty
  spaced : ∀ candidate ∈ candidates, Spaced candidate.sourceRanges
  distinct : candidates.Pairwise fun a b => Disjoint (cover a.sourceRanges) (cover b.sourceRanges)
  leftSpaced : Spaced left
  unplaced : ∀ n, n ∈ cover left ↔ n ∈ cover known ∧ placingSpan spans n = none
  classified : ∀ p, Keeps p →
    cover ((candidates.flatMap (·.sourceRanges) ++ left).filter p) = cover (known.filter p)

theorem Placement.skip (h : Placement occurrence known spans candidates left)
    (hnone : ∀ n ∈ cover known, n ∉ cover [span.sourceRange]) :
    Placement occurrence known (span :: spans) candidates left := by
  have hsame : ∀ n found, n ∈ cover known ∧ placingSpan spans n = found ↔
      n ∈ cover known ∧ placingSpan (span :: spans) n = found := by
    intro n found
    apply and_congr_right
    intro hn
    rw [placingSpan_outside (hnone n hn)]
  refine ⟨?_, h.nonempty, h.spaced, h.distinct, h.leftSpaced, ?_, h.classified⟩
  · intro candidate hcandidate
    obtain ⟨found, htimed, hsectors⟩ := h.placed candidate hcandidate
    exact ⟨found, htimed, fun n => (hsectors n).trans (hsame n _)⟩
  · exact fun n => (h.unplaced n).trans (hsame n _)

theorem Placement.take (hknown : Spaced known)
    (h : Placement occurrence (subtractRanges known [span.sourceRange]) spans candidates left)
    (htimed : OfSpan occurrence span candidate)
    (hmatched : candidate.sourceRanges = intersections [span.sourceRange] known)
    (hsome : candidate.sourceRanges ≠ []) :
    Placement occurrence known (span :: spans) (candidate :: candidates) left := by
  have hfirst : ∀ n, n ∈ cover candidate.sourceRanges ↔
      n ∈ cover [span.sourceRange] ∧ n ∈ cover known := by
    intro n
    rw [hmatched, cover_intersections, Finset.mem_inter]
  have hrest : ∀ n, n ∈ cover (subtractRanges known [span.sourceRange]) ↔
      n ∈ cover known ∧ n ∉ cover [span.sourceRange] := by
    intro n
    rw [cover_subtractRanges, Finset.mem_sdiff]
  have hspaced : Spaced candidate.sourceRanges := by
    rw [hmatched]
    exact intersections_spaced (List.pairwise_singleton _ _) hknown.apart
  have hlater : ∀ later ∈ candidates, ∀ n ∈ cover later.sourceRanges,
      n ∉ cover [span.sourceRange] := by
    intro later hlater n hn
    obtain ⟨found, hfound⟩ := h.placed later hlater
    exact ((hrest n).1 ((hfound.sectors n).1 hn).1).2
  constructor
  case placed =>
    intro other hother
    cases List.mem_cons.1 hother with
    | inl heq =>
      subst heq
      refine ⟨span, htimed, fun n => (hfirst n).trans ?_⟩
      constructor
      · exact fun hn => ⟨hn.2, placingSpan_inside hn.1⟩
      · exact fun hn => ⟨placingSpan_covers hn.2, hn.1⟩
    | inr hin =>
      obtain ⟨found, hfound, hsectors⟩ := h.placed other hin
      refine ⟨found, hfound, fun n => (hsectors n).trans ?_⟩
      rw [hrest]
      constructor
      · intro hn
        rw [placingSpan_outside hn.1.2]
        exact ⟨hn.1.1, hn.2⟩
      · intro hn
        by_cases hinside : n ∈ cover [span.sourceRange]
        · -- then it is the span itself, which has none of the sectors of a later candidate
          rw [placingSpan_inside hinside] at hn
          cases hn.2
          obtain ⟨m, hm⟩ := h.nonempty other hin
          exact absurd (placingSpan_covers ((hsectors m).1 hm).2) (hlater other hin m hm)
        · rw [placingSpan_outside hinside] at hn
          exact ⟨⟨hn.1, hinside⟩, hn.2⟩
  case nonempty =>
    intro other hother
    cases List.mem_cons.1 hother with
    | inl heq =>
      subst heq
      obtain ⟨range, hrange⟩ := List.exists_mem_of_ne_nil _ hsome
      have hpositive := hspaced.positive range hrange
      exact ⟨start range, mem_cover.2 ⟨range, hrange, le_rfl, Nat.lt_add_of_pos_right hpositive⟩⟩
    | inr hin => exact h.nonempty other hin
  case spaced =>
    intro other hother
    cases List.mem_cons.1 hother with
    | inl heq =>
      subst heq
      exact hspaced
    | inr hin => exact h.spaced other hin
  case distinct =>
    refine List.pairwise_cons.2 ⟨?_, h.distinct⟩
    intro later hin
    apply Finset.disjoint_left.2
    intro n hn hn'
    exact hlater later hin n hn' ((hfirst n).1 hn).1
  case leftSpaced => exact h.leftSpaced
  case unplaced =>
    intro n
    rw [h.unplaced, hrest]
    constructor
    · intro hn
      rw [placingSpan_outside hn.1.2]
      exact ⟨hn.1.1, hn.2⟩
    · intro hn
      have houtside : n ∉ cover [span.sourceRange] := by
        intro hinside
        rw [placingSpan_inside hinside] at hn
        cases hn.2
      rw [placingSpan_outside houtside] at hn
      exact ⟨⟨hn.1, houtside⟩, hn.2⟩
  case classified =>
    intro p hp
    rw [List.flatMap_cons, List.append_assoc, List.filter_append, cover_append, h.classified p hp,
      hmatched, intersections_filter hp, subtractRanges_filter hp, cover_intersections,
      cover_subtractRanges]
    ext n
    simp only [Finset.mem_union, Finset.mem_inter, Finset.mem_sdiff]
    tauto

/-- Every sector is put where the first span that has it is, or left over. -/
theorem placeDamage_placement (hknown : Spaced known) : Placement occurrence known spans
    (placeDamage occurrence known spans).1 (placeDamage occurrence known spans).2 := by
  induction spans generalizing known with
  | nil =>
    refine ⟨fun _ h => (nomatch h), fun _ h => (nomatch h), fun _ h => (nomatch h), .nil, hknown,
      fun n => ?_, fun p _ => rfl⟩
    exact ⟨fun hn => ⟨hn, rfl⟩, fun hn => hn.1⟩
  | cons span spans ih =>
    by_cases hmatched : intersections [span.sourceRange] known = []
    · have hplace : placeDamage occurrence known (span :: spans) =
          placeDamage occurrence known spans := if_pos hmatched
      rw [hplace]
      apply (ih hknown).skip
      intro n hn hinside
      have hboth : n ∈ cover (intersections [span.sourceRange] known) := by
        rw [cover_intersections, Finset.mem_inter]
        exact ⟨hinside, hn⟩
      rw [hmatched] at hboth
      exact absurd hboth (Finset.notMem_empty n)
    · have hplace : placeDamage occurrence known (span :: spans) = (_ :: _, _) :=
        if_neg hmatched
      rw [hplace]
      exact (ih (subtractRanges_spaced [span.sourceRange] hknown)).take hknown
        ⟨rfl, rfl, rfl, rfl⟩ rfl hmatched

end Placement

section Merging

variable {candidate previous : DvdTitleDamageAffectedPlaybackInterval}
  {candidates merged : List DvdTitleDamageAffectedPlaybackInterval}

/-- One candidate does not come after another. -/
def NotLater (a b : DvdTitleDamageAffectedPlaybackInterval) : Prop :=
  a.playbackOccurrence < b.playbackOccurrence ∨
    a.playbackOccurrence = b.playbackOccurrence ∧ a.startMilliseconds ≤ b.startMilliseconds

/-- One interval of an occurrence ends before another begins. -/
def EndsBefore (a b : DvdTitleDamageAffectedPlaybackInterval) : Prop :=
  a.playbackOccurrence < b.playbackOccurrence ∨
    a.playbackOccurrence = b.playbackOccurrence ∧ a.endMilliseconds ≤ b.startMilliseconds

/-- Candidates in the order in which one interval takes them in. -/
structure CandidateGroup where
  first : DvdTitleDamageAffectedPlaybackInterval
  rest : List DvdTitleDamageAffectedPlaybackInterval

namespace CandidateGroup

variable {group : CandidateGroup}

def members (group : CandidateGroup) : List DvdTitleDamageAffectedPlaybackInterval :=
  group.first :: group.rest

def interval (group : CandidateGroup) : DvdTitleDamageAffectedPlaybackInterval :=
  group.rest.foldl absorbInterval group.first

def push (group : CandidateGroup) (candidate : DvdTitleDamageAffectedPlaybackInterval) :
    CandidateGroup :=
  { group with rest := group.rest ++ [candidate] }

@[simp] theorem members_push : (group.push candidate).members = group.members ++ [candidate] := rfl

@[simp] theorem interval_push :
    (group.push candidate).interval = absorbInterval group.interval candidate :=
  List.foldl_concat ..

/-- A group is built by pushing one candidate after another. -/
theorem pushes {motive : CandidateGroup → Prop} (single : ∀ first, motive ⟨first, []⟩)
    (push : ∀ group candidate, motive group → motive (group.push candidate))
    (group : CandidateGroup) : motive group := by
  obtain ⟨first, rest⟩ := group
  induction rest using List.reverseRecOn with
  | nil => exact single first
  | append_singleton rest candidate ih => exact push ⟨first, rest⟩ candidate ih

theorem interval_first : group.interval.playbackOccurrence = group.first.playbackOccurrence ∧
    group.interval.startMilliseconds = group.first.startMilliseconds := by
  induction group using pushes with
  | single first => exact ⟨rfl, rfl⟩
  | push group candidate ih =>
    rw [interval_push]
    exact ih

theorem le_interval : ∀ candidate ∈ group.members,
    candidate.endMilliseconds ≤ group.interval.endMilliseconds := by
  induction group using pushes with
  | single first =>
    intro candidate hcandidate
    cases List.mem_singleton.1 hcandidate
    exact le_rfl
  | push group last ih =>
    intro candidate hcandidate
    rw [members_push, List.mem_append, List.mem_singleton] at hcandidate
    rw [interval_push]
    show _ ≤ max group.interval.endMilliseconds last.endMilliseconds
    cases hcandidate with
    | inl hin => exact le_max_of_le_left (ih candidate hin)
    | inr heq =>
      rw [heq]
      exact le_max_right _ _

theorem interval_ends : ∃ candidate ∈ group.members,
    candidate.endMilliseconds = group.interval.endMilliseconds := by
  induction group using pushes with
  | single first => exact ⟨first, List.mem_singleton_self _, rfl⟩
  | push group last ih =>
    obtain ⟨candidate, hcandidate, hend⟩ := ih
    rw [interval_push, members_push]
    show ∃ _, _ ∧ _ = max group.interval.endMilliseconds last.endMilliseconds
    cases Nat.le_total group.interval.endMilliseconds last.endMilliseconds with
    | inl hle => exact ⟨last, List.mem_concat_self, (max_eq_right hle).symm⟩
    | inr hle =>
      exact ⟨candidate, List.mem_append_left _ hcandidate, hend.trans (max_eq_left hle).symm⟩

theorem interval_coverage : group.interval.coverage = .wholeCell ↔
    ∃ candidate ∈ group.members, candidate.coverage = .wholeCell := by
  induction group using pushes with
  | single first =>
    rw [members, List.exists_mem_cons_iff]
    exact (or_iff_left fun h => nomatch h).symm
  | push group last ih =>
    have hpush : (group.push last).interval.coverage = .wholeCell ↔
        group.interval.coverage = .wholeCell ∨ last.coverage = .wholeCell := by
      rw [interval_push]
      show (if _ then DvdTitleDamageTimingCoverage.wholeCell else .sourceSpan) = .wholeCell ↔ _
      split
      next h => exact iff_of_true rfl h
      next h => exact iff_of_false (fun hne => nomatch hne) h
    simp only [hpush, ih, members_push, List.mem_append, List.mem_singleton, or_and_right,
      exists_or, exists_eq_left]

/-- An interval has the sectors of its candidates, each under its classification. -/
theorem interval_sourceRanges (h : Spaced (group.members.flatMap (·.sourceRanges))) :
    Spaced group.interval.sourceRanges ∧ ∀ p, Keeps p →
      cover (group.interval.sourceRanges.filter p) =
        cover ((group.members.flatMap (·.sourceRanges)).filter p) := by
  induction group using pushes with
  | single first =>
    rw [members, List.flatMap_singleton] at h ⊢
    exact ⟨h, fun p _ => rfl⟩
  | push group last ih =>
    rw [members_push, List.flatMap_append, List.flatMap_singleton] at h ⊢
    obtain ⟨hspaced, hcover⟩ := ih (h.sublist (List.sublist_append_left _ _))
    have hkeeps : Keeps fun _ : UnrecoveredSourceRange => true := fun _ _ _ => rfl
    have hall : cover group.interval.sourceRanges =
        cover (group.members.flatMap (·.sourceRanges)) := by
      have htrue := hcover _ hkeeps
      rwa [List.filter_true, List.filter_true] at htrue
    have happend : Spaced (group.interval.sourceRanges ++ last.sourceRanges) := by
      apply hspaced.append (h.sublist (List.sublist_append_right _ _))
      rw [hall]
      exact h.disjoint
    have hpush : (group.push last).interval.sourceRanges = normalizeUnrecoveredSourceRanges
        (group.interval.sourceRanges ++ last.sourceRanges) := by
      rw [interval_push]
      rfl
    rw [hpush]
    refine ⟨(normalizeUnrecoveredSourceRanges_spaced happend hkeeps).1, ?_⟩
    intro p hp
    rw [(normalizeUnrecoveredSourceRanges_spaced happend hp).2, List.filter_append, cover_append,
      hcover p hp, ← cover_append, ← List.filter_append]

end CandidateGroup

/-- Groups that have all candidates so far, with intervals that end before the next begins. -/
structure Grouped (groups : List CandidateGroup)
    (candidates : List DvdTitleDamageAffectedPlaybackInterval) : Prop where
  members : groups.flatMap (·.members) = candidates
  occurrence : ∀ group ∈ groups, ∀ candidate ∈ group.members,
    candidate.playbackOccurrence = group.interval.playbackOccurrence
  apart : groups.Pairwise fun a b => EndsBefore a.interval b.interval

theorem NotLater.trans {a b c : DvdTitleDamageAffectedPlaybackInterval} (h : NotLater a b)
    (h' : NotLater b c) : NotLater a c := by
  simp only [NotLater] at *
  omega

theorem EndsBefore.notLater {a b c : DvdTitleDamageAffectedPlaybackInterval} (h : EndsBefore a b)
    (h' : NotLater b c) : EndsBefore a c := by
  simp only [EndsBefore, NotLater] at *
  omega

theorem mergeInterval_snoc (init : List DvdTitleDamageAffectedPlaybackInterval) :
    mergeInterval (init ++ [previous]) candidate =
      if previous.playbackOccurrence ≠ candidate.playbackOccurrence ∨
          candidate.startMilliseconds ≥ previous.endMilliseconds then
        init ++ [previous] ++ [candidate]
      else init ++ [absorbInterval previous candidate] := by
  rw [mergeInterval, List.getLast?_append, List.dropLast_concat]
  rfl

theorem Grouped.step {init : List CandidateGroup} {last : CandidateGroup}
    (h : Grouped (init ++ [last]) candidates) (hlast : NotLater last.interval candidate) :
    ∃ init' last', mergeInterval ((init ++ [last]).map (·.interval)) candidate =
        (init' ++ [last']).map (·.interval) ∧
      Grouped (init' ++ [last']) (candidates ++ [candidate]) ∧
      NotLater last'.interval candidate := by
  obtain ⟨hmembers, hoccurrence, hapart⟩ := h
  obtain ⟨hinit, -, hcross⟩ := List.pairwise_append.1 hapart
  have hbefore : ∀ group ∈ init, EndsBefore group.interval last.interval :=
    fun group hgroup => hcross group hgroup last List.mem_cons_self
  rw [List.map_append, List.map_singleton, mergeInterval_snoc]
  by_cases hnew : last.interval.playbackOccurrence ≠ candidate.playbackOccurrence ∨
      candidate.startMilliseconds ≥ last.interval.endMilliseconds
  · rw [if_pos hnew]
    have hends : EndsBefore last.interval candidate := by
      simp only [EndsBefore, NotLater] at hlast ⊢
      omega
    refine ⟨init ++ [last], ⟨candidate, []⟩, ?_, ⟨?_, ?_, ?_⟩, .inr ⟨rfl, le_rfl⟩⟩
    · rw [List.map_append, List.map_append]
      rfl
    · rw [List.flatMap_append, hmembers]
      rfl
    · intro group hgroup
      cases List.mem_append.1 hgroup with
      | inl hin => exact hoccurrence group hin
      | inr heq =>
        cases List.mem_singleton.1 heq
        intro other hother
        cases List.mem_singleton.1 hother
        rfl
    · apply List.pairwise_append.2
      refine ⟨hapart, List.pairwise_singleton _ _, ?_⟩
      intro group hgroup other hother
      cases List.mem_singleton.1 hother
      cases List.mem_append.1 hgroup with
      | inl hin => exact (hbefore group hin).notLater hlast
      | inr heq =>
        cases List.mem_singleton.1 heq
        exact hends
  · rw [if_neg hnew]
    simp only [not_or, not_not] at hnew
    obtain ⟨hsame, -⟩ := hnew
    have hpush : (last.push candidate).interval = absorbInterval last.interval candidate :=
      CandidateGroup.interval_push
    refine ⟨init, last.push candidate, ?_, ⟨?_, ?_, ?_⟩, ?_⟩
    · rw [List.map_append, List.map_singleton, hpush]
    · rw [List.flatMap_append, List.flatMap_singleton, CandidateGroup.members_push,
        ← List.append_assoc, ← hmembers, List.flatMap_append, List.flatMap_singleton]
    · intro group hgroup
      cases List.mem_append.1 hgroup with
      | inl hin => exact hoccurrence group (List.mem_append_left _ hin)
      | inr heq =>
        cases List.mem_singleton.1 heq
        intro other hother
        rw [hpush]
        rw [CandidateGroup.members_push] at hother
        cases List.mem_append.1 hother with
        | inl hin => exact hoccurrence last (List.mem_append_right _ List.mem_cons_self) other hin
        | inr heq =>
          cases List.mem_singleton.1 heq
          exact hsame.symm
    · apply List.pairwise_append.2
      refine ⟨hinit, List.pairwise_singleton _ _, ?_⟩
      intro group hgroup other hother
      cases List.mem_singleton.1 hother
      rw [hpush]
      exact hbefore group hgroup
    · rw [hpush]
      exact hlast

theorem Grouped.foldl {init : List CandidateGroup} {last : CandidateGroup}
    {rest : List DvdTitleDamageAffectedPlaybackInterval}
    (h : Grouped (init ++ [last]) candidates) (hrest : rest.Pairwise NotLater)
    (hlast : ∀ candidate ∈ rest, NotLater last.interval candidate) :
    ∃ groups, rest.foldl mergeInterval ((init ++ [last]).map (·.interval)) =
        groups.map (·.interval) ∧ Grouped groups (candidates ++ rest) := by
  induction rest generalizing init last candidates with
  | nil =>
    refine ⟨init ++ [last], rfl, ?_⟩
    rw [List.append_nil]
    exact h
  | cons candidate rest ih =>
    obtain ⟨hfirst, hrest⟩ := List.pairwise_cons.1 hrest
    obtain ⟨init', last', hstep, hgrouped, hlater⟩ := h.step (hlast candidate List.mem_cons_self)
    obtain ⟨groups, hfold, hall⟩ := ih hgrouped hrest
      fun other hother => hlater.trans (hfirst other hother)
    rw [List.foldl_cons, hstep]
    refine ⟨groups, hfold, ?_⟩
    rw [List.append_assoc, List.singleton_append] at hall
    exact hall

instance : Std.TransCmp compareIntervals :=
  inferInstanceAs (Std.TransCmp (compareLex
    (compareOn fun interval : DvdTitleDamageAffectedPlaybackInterval => interval.playbackOccurrence)
    (compareLex (compareOn (·.startMilliseconds)) (compareLex (compareOn (·.endMilliseconds))
      (compareOn fun interval : DvdTitleDamageAffectedPlaybackInterval =>
        codeUnits interval.coverage.text)))))

theorem notLater_sorted (candidates) :
    (sortBy compareIntervals candidates).Pairwise NotLater := by
  apply (ascending_sortBy candidates).imp
  intro a b h
  simp only [compareIntervals, compareLex, Ordering.isLE_then_iff_and, compareOn,
    Nat.isLE_compare, Nat.compare_eq_lt] at h
  obtain ⟨hle, hlt | ⟨hstart, -⟩⟩ := h
  · exact .inl hlt
  · simp only [NotLater]
    omega

/-- Every candidate is in one interval, and the intervals of an occurrence follow one another. -/
theorem mergeAffectedPlaybackIntervals_grouped (candidates) : ∃ groups,
    mergeAffectedPlaybackIntervals candidates = groups.map (·.interval) ∧
      Grouped groups (sortBy compareIntervals candidates) := by
  have hsorted := notLater_sorted candidates
  rw [mergeAffectedPlaybackIntervals]
  cases hs : sortBy compareIntervals candidates with
  | nil => exact ⟨[], rfl, rfl, fun _ h => (nomatch h), .nil⟩
  | cons first rest =>
    rw [hs] at hsorted
    obtain ⟨hfirst, hrest⟩ := List.pairwise_cons.1 hsorted
    have hone : Grouped ([] ++ [⟨first, []⟩]) [first] := by
      refine ⟨rfl, ?_, List.pairwise_singleton _ _⟩
      intro group hgroup candidate hcandidate
      cases List.mem_singleton.1 hgroup
      cases List.mem_singleton.1 hcandidate
      rfl
    exact hone.foldl hrest hfirst

end Merging

/-- The intervals of one occurrence, in the order in which they are reported. -/
def EstimatedAffectedPlayback.intervalsOf (playback : EstimatedAffectedPlayback)
    (occurrence : Nat) : List DvdTitleDamageAffectedPlaybackInterval :=
  playback.intervals.filter (·.playbackOccurrence = occurrence)

/-- The damage of one occurrence that has no place in time. -/
def EstimatedAffectedPlayback.unknownOf (playback : EstimatedAffectedPlayback)
    (occurrence : Nat) : List UnrecoveredSourceRange :=
  (playback.unknownCoverage.filter (·.playbackOccurrence = occurrence)).flatMap
    (·.unrecoveredSourceRanges)

/-- An interval has damage that a span is the first to have. -/
def Contributes (known : List UnrecoveredSourceRange) (spans : List DvdTitleDamageTimingSpan)
    (span : DvdTitleDamageTimingSpan) (interval : DvdTitleDamageAffectedPlaybackInterval) : Prop :=
  ∃ n ∈ cover known, placingSpan spans n = some span ∧ n ∈ cover interval.sourceRanges

/-- Each damaged sector of an occurrence is in one interval, or left over. -/
structure PlacesDamage (known : List UnrecoveredSourceRange)
    (spans : List DvdTitleDamageTimingSpan)
    (intervals : List DvdTitleDamageAffectedPlaybackInterval)
    (unknown : List UnrecoveredSourceRange) : Prop where
  once : Spaced (intervals.flatMap (·.sourceRanges) ++ unknown)
  sectors : cover (intervals.flatMap (·.sourceRanges) ++ unknown) = cover known
  classified : ∀ classification : SourceClassification,
    cover ((intervals.flatMap (·.sourceRanges) ++ unknown).filter
      (·.classification = classification)) =
    cover (known.filter (·.classification = classification))
  apart : intervals.Pairwise fun a b => a.endMilliseconds ≤ b.startMilliseconds
  whole : ∀ interval ∈ intervals, ∀ span, Contributes known spans span interval →
    ∀ n ∈ cover known, placingSpan spans n = some span → n ∈ cover interval.sourceRanges
  covers : ∀ interval ∈ intervals, ∀ span, Contributes known spans span interval →
    interval.startMilliseconds ≤ span.startMilliseconds ∧
      span.endMilliseconds ≤ interval.endMilliseconds
  hull : ∀ interval ∈ intervals,
    (∃ span, Contributes known spans span interval ∧
      span.startMilliseconds = interval.startMilliseconds) ∧
    ∃ span, Contributes known spans span interval ∧
      span.endMilliseconds = interval.endMilliseconds
  coverage : ∀ interval ∈ intervals, interval.coverage = .wholeCell ↔
    ∃ span, Contributes known spans span interval ∧ span.coverage = .wholeCell

section Occurrence

variable {known left : List UnrecoveredSourceRange} {spans : List DvdTitleDamageTimingSpan}
  {candidates : List DvdTitleDamageAffectedPlaybackInterval} {occurrence : Nat}
  {groups : List CandidateGroup} {group : CandidateGroup} {span : DvdTitleDamageTimingSpan}

/-- The groups of one occurrence, and the order of their intervals and candidates. -/
structure GroupsOf (occurrence : Nat) (candidates : List DvdTitleDamageAffectedPlaybackInterval)
    (groups : List CandidateGroup) : Prop where
  members : (groups.flatMap (·.members)).Perm candidates
  apart : groups.Pairwise fun a b =>
    a.interval.endMilliseconds ≤ b.interval.startMilliseconds
  first : ∀ group ∈ groups, ∀ candidate ∈ group.members,
    group.interval.startMilliseconds ≤ candidate.startMilliseconds

theorem GroupsOf.candidate {candidate : DvdTitleDamageAffectedPlaybackInterval}
    (h : GroupsOf occurrence candidates groups) (hgroup : group ∈ groups)
    (hcandidate : candidate ∈ group.members) : candidate ∈ candidates :=
  h.members.mem_iff.1 (List.mem_flatMap.2 ⟨group, hgroup, hcandidate⟩)

theorem GroupsOf.distinct (h : GroupsOf occurrence candidates groups)
    (hplacement : Placement occurrence known spans candidates left) :
    (groups.flatMap (·.members)).Pairwise fun a b =>
      Disjoint (cover a.sourceRanges) (cover b.sourceRanges) :=
  hplacement.distinct.perm h.members.symm fun hab => hab.symm

theorem GroupsOf.spaced (h : GroupsOf occurrence candidates groups)
    (hplacement : Placement occurrence known spans candidates left) (hgroup : group ∈ groups) :
    Spaced (group.members.flatMap (·.sourceRanges)) := by
  apply Spaced.flatMap
  · intro candidate hcandidate
    exact hplacement.spaced candidate (h.candidate hgroup hcandidate)
  · exact (List.pairwise_flatMap.1 (h.distinct hplacement)).1 group hgroup

theorem GroupsOf.sectors (h : GroupsOf occurrence candidates groups)
    (hplacement : Placement occurrence known spans candidates left) (hgroup : group ∈ groups) :
    cover group.interval.sourceRanges = cover (group.members.flatMap (·.sourceRanges)) := by
  have hall := (CandidateGroup.interval_sourceRanges (h.spaced hplacement hgroup)).2
    (fun _ => true) fun _ _ _ => rfl
  rwa [List.filter_true, List.filter_true] at hall

/-- The spans that contribute to an interval are those of its candidates. -/
theorem GroupsOf.contributes (h : GroupsOf occurrence candidates groups)
    (hplacement : Placement occurrence known spans candidates left) (hgroup : group ∈ groups) :
    Contributes known spans span group.interval ↔
      ∃ candidate ∈ group.members, PlacedBy occurrence known spans candidate span := by
  have hsectors := h.sectors hplacement hgroup
  constructor
  · intro hcontributes
    obtain ⟨n, hn, hfirst, hin⟩ := hcontributes
    rw [hsectors, mem_cover_flatMap] at hin
    obtain ⟨candidate, hcandidate, hin⟩ := hin
    obtain ⟨found, hfound⟩ := hplacement.placed candidate (h.candidate hgroup hcandidate)
    have hsame := ((hfound.sectors n).1 hin).2
    rw [hfirst] at hsame
    cases hsame
    exact ⟨candidate, hcandidate, hfound⟩
  · intro hplaced
    obtain ⟨candidate, hcandidate, hplaced⟩ := hplaced
    obtain ⟨n, hn⟩ := hplacement.nonempty candidate (h.candidate hgroup hcandidate)
    obtain ⟨hknown, hfirst⟩ := (hplaced.sectors n).1 hn
    refine ⟨n, hknown, hfirst, ?_⟩
    rw [hsectors]
    exact mem_cover_flatMap.2 ⟨candidate, hcandidate, hn⟩

theorem GroupsOf.exists_contributes {ofSpan : DvdTitleDamageTimingSpan → α}
    {ofCandidate : DvdTitleDamageAffectedPlaybackInterval → α} {value : α}
    (h : GroupsOf occurrence candidates groups)
    (hplacement : Placement occurrence known spans candidates left) (hgroup : group ∈ groups)
    (hsame : ∀ span candidate, OfSpan occurrence span candidate →
      ofCandidate candidate = ofSpan span) :
    (∃ span, Contributes known spans span group.interval ∧ ofSpan span = value) ↔
      ∃ candidate ∈ group.members, ofCandidate candidate = value := by
  constructor
  · intro hspan
    obtain ⟨span, hcontributes, rfl⟩ := hspan
    obtain ⟨candidate, hcandidate, hplaced⟩ := (h.contributes hplacement hgroup).1 hcontributes
    exact ⟨candidate, hcandidate, hsame span candidate hplaced.timed⟩
  · intro hmember
    obtain ⟨candidate, hcandidate, rfl⟩ := hmember
    obtain ⟨span, hplaced⟩ := hplacement.placed candidate (h.candidate hgroup hcandidate)
    exact ⟨span, (h.contributes hplacement hgroup).2 ⟨candidate, hcandidate, hplaced⟩,
      (hsame span candidate hplaced.timed).symm⟩

/-- Merging keeps the sectors of every classification. -/
theorem GroupsOf.classified {p : UnrecoveredSourceRange → Bool}
    (h : GroupsOf occurrence candidates groups)
    (hplacement : Placement occurrence known spans candidates left) (hp : Keeps p) :
    cover (((groups.map (·.interval)).flatMap (·.sourceRanges) ++ left).filter p) =
      cover (known.filter p) := by
  rw [← hplacement.classified p hp, List.filter_append, List.filter_append, cover_append,
    cover_append, ← cover_perm ((h.members.flatMap_right _).filter p), List.filter_flatMap,
    List.filter_flatMap]
  congr 1
  ext n
  simp only [mem_cover_flatMap, List.mem_map, exists_exists_and_eq_and, List.mem_flatMap]
  have hgroup : ∀ group ∈ groups, n ∈ cover (group.interval.sourceRanges.filter p) ↔
      ∃ candidate ∈ group.members, n ∈ cover (candidate.sourceRanges.filter p) := by
    intro group hgroup
    rw [(CandidateGroup.interval_sourceRanges (h.spaced hplacement hgroup)).2 p hp,
      List.filter_flatMap, mem_cover_flatMap]
  constructor
  · intro hn
    obtain ⟨group, hin, hn⟩ := hn
    obtain ⟨candidate, hcandidate, hn⟩ := (hgroup group hin).1 hn
    exact ⟨candidate, ⟨group, hin, hcandidate⟩, hn⟩
  · intro hn
    obtain ⟨candidate, ⟨group, hin, hcandidate⟩, hn⟩ := hn
    exact ⟨group, hin, (hgroup group hin).2 ⟨candidate, hcandidate, hn⟩⟩

theorem GroupsOf.once (h : GroupsOf occurrence candidates groups)
    (hplacement : Placement occurrence known spans candidates left) :
    Spaced ((groups.map (·.interval)).flatMap (·.sourceRanges) ++ left) := by
  have hmembers : ∀ group ∈ groups, ∀ n ∈ cover group.interval.sourceRanges,
      ∃ candidate ∈ group.members, n ∈ cover candidate.sourceRanges := by
    intro group hgroup n hn
    rw [h.sectors hplacement hgroup] at hn
    exact mem_cover_flatMap.1 hn
  rw [List.flatMap_map]
  apply Spaced.append
  · apply Spaced.flatMap
    · intro group hgroup
      exact (CandidateGroup.interval_sourceRanges (h.spaced hplacement hgroup)).1
    · apply (List.pairwise_flatMap.1 (h.distinct hplacement)).2.imp_of_mem
      intro a b ha hb hdisjoint
      apply Finset.disjoint_left.2
      intro n hna hnb
      obtain ⟨x, hx, hnx⟩ := hmembers a ha n hna
      obtain ⟨y, hy, hny⟩ := hmembers b hb n hnb
      exact Finset.disjoint_left.1 (hdisjoint x hx y hy) hnx hny
  · exact hplacement.leftSpaced
  · apply Finset.disjoint_left.2
    intro n hn hleft
    obtain ⟨group, hgroup, hn⟩ := mem_cover_flatMap.1 hn
    obtain ⟨candidate, hcandidate, hn⟩ := hmembers group hgroup n hn
    obtain ⟨span, hplaced⟩ := hplacement.placed candidate (h.candidate hgroup hcandidate)
    have hsome := ((hplaced.sectors n).1 hn).2
    rw [((hplacement.unplaced n).1 hleft).2] at hsome
    cases hsome

theorem GroupsOf.placesDamage (h : GroupsOf occurrence candidates groups)
    (hplacement : Placement occurrence known spans candidates left) :
    PlacesDamage known spans (groups.map (·.interval)) left := by
  constructor
  case once => exact h.once hplacement
  case sectors =>
    have hkeeps : Keeps fun _ : UnrecoveredSourceRange => true := fun _ _ _ => rfl
    have hall := h.classified hplacement hkeeps
    rwa [List.filter_true, List.filter_true] at hall
  case classified =>
    intro classification
    exact h.classified hplacement fun _ _ _ => rfl
  case apart => exact List.pairwise_map.2 h.apart
  case whole =>
    intro interval hinterval span hcontributes n hn hfirst
    obtain ⟨group, hgroup, rfl⟩ := List.mem_map.1 hinterval
    obtain ⟨candidate, hcandidate, hplaced⟩ := (h.contributes hplacement hgroup).1 hcontributes
    rw [h.sectors hplacement hgroup]
    exact mem_cover_flatMap.2 ⟨candidate, hcandidate, (hplaced.sectors n).2 ⟨hn, hfirst⟩⟩
  case covers =>
    intro interval hinterval span hcontributes
    obtain ⟨group, hgroup, rfl⟩ := List.mem_map.1 hinterval
    obtain ⟨candidate, hcandidate, hplaced⟩ := (h.contributes hplacement hgroup).1 hcontributes
    rw [← hplaced.timed.startMilliseconds, ← hplaced.timed.endMilliseconds]
    exact ⟨h.first group hgroup candidate hcandidate,
      CandidateGroup.le_interval candidate hcandidate⟩
  case hull =>
    intro interval hinterval
    obtain ⟨group, hgroup, rfl⟩ := List.mem_map.1 hinterval
    constructor
    · apply (h.exists_contributes hplacement hgroup fun _ _ htimed => htimed.startMilliseconds).2
      exact ⟨group.first, List.mem_cons_self, CandidateGroup.interval_first.2.symm⟩
    · apply (h.exists_contributes hplacement hgroup fun _ _ htimed => htimed.endMilliseconds).2
      exact CandidateGroup.interval_ends
  case coverage =>
    intro interval hinterval
    obtain ⟨group, hgroup, rfl⟩ := List.mem_map.1 hinterval
    rw [CandidateGroup.interval_coverage]
    exact (h.exists_contributes hplacement hgroup fun _ _ htimed => htimed.coverage).symm

end Occurrence

section Estimate

variable {known : List UnrecoveredSourceRange}
  {occurrence : DvdTitleDamageTimingOccurrenceInput}
  {occurrences : List DvdTitleDamageTimingOccurrenceInput}
  {candidates : List DvdTitleDamageAffectedPlaybackInterval}
  {unknown : Option UnknownPlaybackCoverage} {groups : List CandidateGroup}
  {affected : List
    (List DvdTitleDamageAffectedPlaybackInterval × Option UnknownPlaybackCoverage)}

theorem affectedOccurrence_ok (hknown : Spaced known)
    (h : affectedOccurrence known occurrence = .ok (candidates, unknown)) :
    Placement occurrence.playbackOccurrence known occurrence.spans candidates
        (unknown.elim [] (·.unrecoveredSourceRanges)) ∧
      ∀ coverage ∈ unknown, coverage.playbackOccurrence = occurrence.playbackOccurrence := by
  have hplacement : Placement occurrence.playbackOccurrence known occurrence.spans _ _ :=
    placeDamage_placement hknown
  simp only [affectedOccurrence, bind_ok, rejectIf_ok, pure_ok, Prod.mk.injEq] at h
  obtain ⟨-, -, rfl, rfl⟩ := h
  by_cases hnone : (placeDamage occurrence.playbackOccurrence known occurrence.spans).2 = []
  · rw [if_pos hnone]
    rw [hnone] at hplacement
    exact ⟨hplacement, fun _ hin => (nomatch hin)⟩
  · rw [if_neg hnone]
    refine ⟨hplacement, ?_⟩
    intro coverage hcoverage
    cases hcoverage
    rfl

/-- What is reported is reported of some occurrence. -/
theorem affected_occurrence (hknown : Spaced known)
    (h : Results (affectedOccurrence known) occurrences affected) :
    (∀ candidate ∈ affected.flatMap Prod.fst, ∃ occurrence ∈ occurrences,
      candidate.playbackOccurrence = occurrence.playbackOccurrence) ∧
    ∀ coverage ∈ affected.filterMap Prod.snd, ∃ occurrence ∈ occurrences,
      coverage.playbackOccurrence = occurrence.playbackOccurrence := by
  constructor
  · intro candidate hcandidate
    obtain ⟨⟨candidates, unknown⟩, hin, hcandidate⟩ := List.mem_flatMap.1 hcandidate
    obtain ⟨occurrence, hoccurrence, hok⟩ := exists_left_of_mem h hin
    obtain ⟨span, hplaced⟩ := (affectedOccurrence_ok hknown hok).1.placed candidate hcandidate
    exact ⟨occurrence, hoccurrence, hplaced.timed.occurrence⟩
  · intro coverage hcoverage
    obtain ⟨⟨candidates, unknown⟩, hin, hcoverage⟩ := List.mem_filterMap.1 hcoverage
    obtain ⟨occurrence, hoccurrence, hok⟩ := exists_left_of_mem h hin
    exact ⟨occurrence, hoccurrence, (affectedOccurrence_ok hknown hok).2 coverage hcoverage⟩

/-- What is reported of the occurrences is reported of each of them. -/
theorem affected_placement (hknown : Spaced known)
    (h : Results (affectedOccurrence known) occurrences affected)
    (hdistinct : occurrences.Pairwise fun a b => a.playbackOccurrence ≠ b.playbackOccurrence)
    (hmem : occurrence ∈ occurrences) :
    Placement occurrence.playbackOccurrence known occurrence.spans
      ((affected.flatMap Prod.fst).filter
        (·.playbackOccurrence = occurrence.playbackOccurrence))
      (((affected.filterMap Prod.snd).filter
        (·.playbackOccurrence = occurrence.playbackOccurrence)).flatMap
          (·.unrecoveredSourceRanges)) := by
  induction h with
  | nil => cases hmem
  | @cons first report occurrences affected hok hrest ih =>
    obtain ⟨candidates, unknown⟩ := report
    obtain ⟨hplacement, hunknown⟩ := affectedOccurrence_ok hknown hok
    obtain ⟨hcandidates, hcoverages⟩ := affected_occurrence hknown hrest
    obtain ⟨hfirst, hdistinct⟩ := List.pairwise_cons.1 hdistinct
    have hcandidate : ∀ candidate ∈ candidates,
        candidate.playbackOccurrence = first.playbackOccurrence := by
      intro candidate hcandidate
      obtain ⟨span, hplaced⟩ := hplacement.placed candidate hcandidate
      exact hplaced.timed.occurrence
    have hcons : ((candidates, unknown) :: affected).filterMap Prod.snd =
        unknown.toList ++ affected.filterMap Prod.snd := by
      cases unknown with
      | none => rfl
      | some coverage => rfl
    have hcoverage : ∀ coverage ∈ unknown.toList,
        coverage.playbackOccurrence = first.playbackOccurrence :=
      fun coverage hin => hunknown coverage (Option.mem_toList.1 hin)
    rw [List.flatMap_cons, hcons, List.filter_append, List.filter_append]
    cases List.mem_cons.1 hmem with
    | inl heq =>
      subst heq
      have hnone : (affected.flatMap Prod.fst).filter
          (·.playbackOccurrence = occurrence.playbackOccurrence) = [] := by
        apply List.filter_eq_nil_iff.2
        intro other hother hsame
        obtain ⟨later, hlater, hnumber⟩ := hcandidates other hother
        exact hfirst later hlater ((of_decide_eq_true hsame).symm.trans hnumber)
      have hnoCoverage : (affected.filterMap Prod.snd).filter
          (·.playbackOccurrence = occurrence.playbackOccurrence) = [] := by
        apply List.filter_eq_nil_iff.2
        intro other hother hsame
        obtain ⟨later, hlater, hnumber⟩ := hcoverages other hother
        exact hfirst later hlater ((of_decide_eq_true hsame).symm.trans hnumber)
      have hall : candidates.filter (·.playbackOccurrence = occurrence.playbackOccurrence) =
          candidates := List.filter_eq_self.2 fun c hc => decide_eq_true (hcandidate c hc)
      have hallCoverage : unknown.toList.filter
          (·.playbackOccurrence = occurrence.playbackOccurrence) = unknown.toList :=
        List.filter_eq_self.2 fun c hc => decide_eq_true (hcoverage c hc)
      rw [hnone, hnoCoverage, hall, hallCoverage, List.append_nil, List.append_nil]
      cases unknown with
      | none => exact hplacement
      | some coverage =>
        rw [Option.toList_some, List.flatMap_singleton]
        exact hplacement
    | inr hin =>
      have hother := hfirst occurrence hin
      have hnone : candidates.filter
          (·.playbackOccurrence = occurrence.playbackOccurrence) = [] :=
        List.filter_eq_nil_iff.2 fun c hc hsame =>
          hother ((hcandidate c hc).symm.trans (of_decide_eq_true hsame))
      have hnoCoverage : unknown.toList.filter
          (·.playbackOccurrence = occurrence.playbackOccurrence) = [] :=
        List.filter_eq_nil_iff.2 fun c hc hsame =>
          hother ((hcoverage c hc).symm.trans (of_decide_eq_true hsame))
      rw [hnone, hnoCoverage, List.nil_append, List.nil_append]
      exact ih hdistinct hin

theorem Grouped.members_filter (h : Grouped groups candidates) (number : Nat) :
    (groups.filter (·.interval.playbackOccurrence = number)).flatMap (·.members) =
      candidates.filter (·.playbackOccurrence = number) := by
  obtain ⟨rfl, hoccurrence, -⟩ := h
  induction groups with
  | nil => rfl
  | cons group groups ih =>
    have hgroup := hoccurrence group List.mem_cons_self
    rw [List.flatMap_cons, List.filter_append,
      ← ih fun other hother => hoccurrence other (List.mem_cons_of_mem _ hother)]
    by_cases hnumber : group.interval.playbackOccurrence = number
    · have hall : group.members.filter (·.playbackOccurrence = number) = group.members :=
        List.filter_eq_self.2 fun c hc => decide_eq_true ((hgroup c hc).trans hnumber)
      rw [List.filter_cons, if_pos (decide_eq_true hnumber), List.flatMap_cons, hall]
    · have hnone : group.members.filter (·.playbackOccurrence = number) = [] :=
        List.filter_eq_nil_iff.2 fun c hc hsame =>
          hnumber ((hgroup c hc).symm.trans (of_decide_eq_true hsame))
      rw [List.filter_cons, if_neg fun hd => hnumber (of_decide_eq_true hd), hnone,
        List.nil_append]

theorem Grouped.groupsOf (h : Grouped groups (sortBy compareIntervals candidates))
    (number : Nat) : GroupsOf number (candidates.filter (·.playbackOccurrence = number))
      (groups.filter (·.interval.playbackOccurrence = number)) := by
  constructor
  case members =>
    rw [h.members_filter]
    exact (perm_sortBy compareIntervals candidates).filter _
  case apart =>
    apply (h.apart.filter _).imp_of_mem
    intro a b ha hb hends
    have hsame := of_decide_eq_true (List.mem_filter.1 ha).2
    have hsame' := of_decide_eq_true (List.mem_filter.1 hb).2
    simp only [EndsBefore] at hends
    omega
  case first =>
    intro group hgroup candidate hcandidate
    have hin := (List.mem_filter.1 hgroup).1
    have hsorted := notLater_sorted candidates
    rw [← h.members, List.pairwise_flatMap] at hsorted
    have hmembers := hsorted.1 group hin
    obtain ⟨hfirst, -⟩ := List.pairwise_cons.1 hmembers
    have hoccurrence := h.occurrence group hin
    rw [CandidateGroup.interval_first.2]
    cases List.mem_cons.1 hcandidate with
    | inl heq => rw [heq]
    | inr hlater =>
      have hnotLater := hfirst candidate hlater
      have hown := hoccurrence group.first List.mem_cons_self
      have hother := hoccurrence candidate hcandidate
      simp only [NotLater] at hnotLater
      omega

/-- An estimate places the damage of every occurrence. -/
theorem estimateAffectedPlayback_places {evidence : DvdTitleDamageTimingInput}
    {estimated : Option EstimatedAffectedPlayback} (hknown : Spaced known)
    (hdistinct : evidence.occurrences.Pairwise fun a b =>
      a.playbackOccurrence ≠ b.playbackOccurrence)
    (h : estimateAffectedPlayback (some evidence) known = .ok estimated) :
    ∃ playback, estimated = some playback ∧ ∀ occurrence ∈ evidence.occurrences,
      PlacesDamage known occurrence.spans (playback.intervalsOf occurrence.playbackOccurrence)
        (playback.unknownOf occurrence.playbackOccurrence) := by
  simp only [estimateAffectedPlayback, bind_ok, pure_ok] at h
  obtain ⟨affected, haffected, rfl⟩ := h
  refine ⟨_, rfl, ?_⟩
  intro occurrence hoccurrence
  have hplacement := affected_placement hknown (mapM_results.1 haffected) hdistinct hoccurrence
  obtain ⟨groups, hmerged, hgrouped⟩ :=
    mergeAffectedPlaybackIntervals_grouped (affected.flatMap Prod.fst)
  have hplaces := (hgrouped.groupsOf occurrence.playbackOccurrence).placesDamage hplacement
  rw [EstimatedAffectedPlayback.intervalsOf, hmerged, List.filter_map]
  exact hplaces

end Estimate

theorem normalizeTimingEvidence_distinct {input : Option DvdTitleDamageTimingInput}
    {unique : List UnreadableSectorRange} {evidence : DvdTitleDamageTimingInput}
    (h : normalizeTimingEvidence input unique limit = .ok (some evidence)) :
    evidence.occurrences.Pairwise fun a b => a.playbackOccurrence ≠ b.playbackOccurrence := by
  cases input with
  | none => cases h
  | some input =>
    simp only [normalizeTimingEvidence, bind_ok, pure_ok] at h
    obtain ⟨-, -, occurrences, hoccurrences, hsome⟩ := h
    cases hsome
    obtain ⟨hdistinct, -, hresults⟩ := mapUnseen_ok.1 hoccurrences
    have hnormalized : occurrences.Pairwise fun a b =>
        a.playbackOccurrence ≠ b.playbackOccurrence := by
      clear hoccurrences
      generalize input.occurrences = inputs at hdistinct hresults
      induction hresults with
      | nil => exact .nil
      | @cons first normalized inputs occurrences hok hrest ih =>
        obtain ⟨hfirst, hdistinct⟩ := List.pairwise_cons.1 hdistinct
        refine List.pairwise_cons.2 ⟨?_, ih hdistinct⟩
        intro other hother hsame
        obtain ⟨later, hlater, hokLater⟩ := exists_left_of_mem hrest hother
        apply hfirst later hlater
        rw [sameOccurrence, ← normalizeTimingOccurrence_number hok,
          ← normalizeTimingOccurrence_number hokLater]
        exact hsame
    exact hnormalized.perm (perm_sortBy compareOccurrences occurrences).symm
      fun hne hsame => hne hsame.symm

/-- The spans of an occurrence, each of them once, in the order in which they place damage. -/
structure PlacingOrder (given spans : List DvdTitleDamageTimingSpan) : Prop where
  mem : ∀ span, span ∈ spans ↔ span ∈ given
  nodup : spans.Nodup
  ascending : Ascending compareSpans spans

theorem normalizeTimingSpan_eq (h : normalizeTimingSpan unique limit span = .ok normalized) :
    normalized = span := by
  simp only [normalizeTimingSpan, nonnegativeSafeInteger, positiveSafeInteger, bind_ok, pure_ok,
    normalizeRange_ok] at h
  obtain ⟨_, ⟨-, rfl⟩, -, -, _, ⟨-, -, rfl⟩, _, ⟨-, -, rfl⟩, -, -, rfl⟩ := h
  rfl

theorem normalizeTimingOccurrence_order
    (h : normalizeTimingOccurrence unique limit occurrence = .ok normalized) :
    PlacingOrder occurrence.spans normalized.spans := by
  simp only [normalizeTimingOccurrence, bind_ok, pure_ok] at h
  obtain ⟨_, -, spans, hspans, _, -, rfl⟩ := h
  have hsame : spans = occurrence.spans := by
    have hresults := mapM_results.1 hspans
    clear hspans
    generalize occurrence.spans = given at hresults
    induction hresults with
    | nil => rfl
    | cons hok _ ih => rw [normalizeTimingSpan_eq hok, ih]
  have hdistinguished : ∀ a ∈ sortBy compareSpans spans, ∀ b ∈ sortBy compareSpans spans,
      id a = id b → a = b := fun _ _ _ _ he => he
  have hmap := mapOf_mapValues hdistinguished
  refine ⟨fun span => ?_, hmap.nodup, (ascending_sortBy spans).sublist hmap.sublist⟩
  rw [hmap.mem, mem_sortBy, hsame]

/-- Every occurrence of accepted evidence is kept, with all of its spans. -/
theorem normalizeTimingEvidence_kept {input evidence : DvdTitleDamageTimingInput}
    {unique : List UnreadableSectorRange}
    (h : normalizeTimingEvidence (some input) unique limit = .ok (some evidence)) :
    ∀ occurrence ∈ input.occurrences, ∃ normalized ∈ evidence.occurrences,
      normalized.playbackOccurrence = occurrence.playbackOccurrence ∧
      PlacingOrder occurrence.spans normalized.spans := by
  simp only [normalizeTimingEvidence, bind_ok, pure_ok] at h
  obtain ⟨-, -, occurrences, hoccurrences, hsome⟩ := h
  cases hsome
  intro occurrence hoccurrence
  obtain ⟨-, -, hresults⟩ := mapUnseen_ok.1 hoccurrences
  obtain ⟨normalized, hnormalized, hok⟩ := exists_right_of_mem hresults hoccurrence
  exact ⟨normalized, mem_sortBy.2 hnormalized, normalizeTimingOccurrence_number hok,
    normalizeTimingOccurrence_order hok⟩

theorem normalizeTimingEvidence_some {input : DvdTitleDamageTimingInput}
    {unique : List UnreadableSectorRange}
    (h : normalizeTimingEvidence (some input) unique limit = .ok normalized) :
    ∃ evidence, normalized = some evidence := by
  simp only [normalizeTimingEvidence, bind_ok, pure_ok] at h
  obtain ⟨-, -, occurrences, -, rfl⟩ := h
  exact ⟨_, rfl⟩

/-- An item places the damage of a title: of every occurrence of its timing evidence, by the spans
that the evidence has. -/
def PlacesTitle (evidence : DvdTitleDamageTimingInput) (item : DvdTitleDamageAssessmentItem) :
    Prop :=
  ∃ playback, item.estimatedAffectedPlayback = some playback ∧
    ∀ occurrence ∈ evidence.occurrences, ∃ spans, PlacingOrder occurrence.spans spans ∧
      PlacesDamage item.knownUnrecoveredSourceRanges spans
        (playback.intervalsOf occurrence.playbackOccurrence)
        (playback.unknownOf occurrence.playbackOccurrence)

/-- What an accepted title estimates of its playback. -/
theorem assessTitle_playback {context : AssessmentContext} {title : DvdTitleDamageMappingInput}
    {item : DvdTitleDamageAssessmentItem} {evidence : DvdTitleDamageTimingInput}
    (hunrecovered : context.unrecoveredSourceRanges.Pairwise Apart)
    (h : assessTitle context title = .ok item) (htiming : title.timingEvidence = some evidence) :
    PlacesTitle evidence item := by
  have hassessed := assessTitle_ok h
  have hunique := (normalizeRanges_merged hassessed.unique).1
  have hknown : Spaced item.knownUnrecoveredSourceRanges := by
    rw [hassessed.known]
    exact intersections_spaced hunique.pairwise hunrecovered
  simp only [assessTitle, bind_ok, pure_ok] at h
  obtain ⟨-, -, _, -, _, -, unique, -, timing, hnormalized, _, -, estimated, hestimated, rfl⟩ := h
  rw [htiming] at hnormalized
  obtain ⟨normalized, rfl⟩ := normalizeTimingEvidence_some hnormalized
  obtain ⟨playback, hplayback, hplaces⟩ := estimateAffectedPlayback_places hknown
    (normalizeTimingEvidence_distinct hnormalized) hestimated
  refine ⟨playback, hplayback, fun occurrence hoccurrence => ?_⟩
  obtain ⟨kept, hkept, hnumber, horder⟩ := normalizeTimingEvidence_kept hnormalized occurrence
    hoccurrence
  exact ⟨kept.spans, horder, hnumber ▸ hplaces kept hkept⟩

/-- An accepted assessment places every damaged sector of every playback occurrence once: of each
title that it was given timing evidence for, with the sectors it has of the damage. -/
theorem createDvdTitleDamageAssessment_places {evidenceDigest : IdentityEvidence → String}
    {input : DvdTitleDamageAssessmentInput} {assessment : DvdTitleDamageAssessment}
    (h : createDvdTitleDamageAssessment evidenceDigest input = .ok assessment) :
    ∀ title ∈ input.titles, ∀ evidence ∈ title.timingEvidence,
      ∃ item ∈ assessment.items, item.titleIdentityId = title.titleIdentityId ∧
        cover item.knownUnrecoveredSourceRanges =
          cover title.sourceReferences ∩ cover input.unrecoveredSourceRanges ∧
        PlacesTitle evidence item := by
  simp only [createDvdTitleDamageAssessment, bind_ok, pure_ok] at h
  obtain ⟨evidence, hevidence, -, -, rfl⟩ := h
  obtain ⟨context, assessed, known, ha⟩ := semanticEvidence_ok hevidence
  intro title htitle timing htiming
  obtain ⟨hsame, hapart⟩ := ha.unrecovered_eq
  obtain ⟨item, hitem, hok⟩ := exists_right_of_mem ha.results htitle
  have hassessed := assessTitle_ok hok
  have hin : item ∈ evidence.items := by
    rw [ha.items, mem_sortBy]
    exact hitem
  refine ⟨item, hin, hassessed.identity, ?_, assessTitle_playback (hsame ▸ hapart) hok htiming⟩
  rw [hassessed.known, cover_intersections, (normalizeRanges_merged hassessed.unique).2, hsame]

/-- One title with two spans that overlap in time and in source, and damage behind them. -/
def sampleTimedDamage : DvdTitleDamageAssessmentInput :=
  { sampleDamage with
    titles := [{ sampleTitle 1 "one" [⟨⟨100, 50⟩, .multiplexedContent⟩] with
      timingEvidence := some ⟨DVD_TITLE_DAMAGE_TIMING_POLICY_VERSION, [{
        playbackOccurrence := 1
        spans := [⟨⟨104, 6⟩, 500, 3000, "cell-time", .wholeCell⟩,
          ⟨⟨100, 5⟩, 0, 1000, "vobu-time", .sourceSpan⟩]
        unknownReasons := [⟨"UNTIMED_SOURCE", "No cell time is known."⟩] }]⟩ }] }

/-- The times and the sectors of the intervals of an occurrence. -/
def DvdTitleDamageAssessment.reported (assessment : DvdTitleDamageAssessment) (occurrence : Nat) :
    List (Nat × Nat × List UnrecoveredSourceRange) :=
  assessment.items.flatMap fun item => item.estimatedAffectedPlayback.elim [] fun playback =>
    (playback.intervalsOf occurrence).map fun interval =>
      (interval.startMilliseconds, interval.endMilliseconds, interval.sourceRanges)

theorem sampleTimedDamage_places : ∃ assessment,
    createDvdTitleDamageAssessment (fun _ => "digest") sampleTimedDamage = .ok assessment ∧
    assessment.reported 1 = [(0, 3000, [⟨100, 10, .individuallyFailed⟩])] ∧
    ∀ title ∈ sampleTimedDamage.titles, ∀ evidence ∈ title.timingEvidence,
      ∃ item ∈ assessment.items, item.titleIdentityId = title.titleIdentityId ∧
        cover item.knownUnrecoveredSourceRanges =
          cover title.sourceReferences ∩ cover sampleTimedDamage.unrecoveredSourceRanges ∧
        PlacesTitle evidence item := by
  have hrun : (match createDvdTitleDamageAssessment (fun _ => "digest") sampleTimedDamage with
      | .error _ => false
      | .ok assessment => decide
        (assessment.reported 1 = [(0, 3000, [⟨100, 10, .individuallyFailed⟩])])) = true := by
    decide +kernel
  cases h : createDvdTitleDamageAssessment (fun _ => "digest") sampleTimedDamage with
  | error => simp [h] at hrun
  | ok assessment =>
    simp only [h, decide_eq_true_eq] at hrun
    exact ⟨assessment, rfl, hrun, createDvdTitleDamageAssessment_places h⟩

end RipDvd
