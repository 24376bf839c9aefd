import RipDvd.Collections
import RipDvd.DamagePreviewInputs
import Mathlib.Algebra.Ring.Int.Defs

namespace RipDvd
set_option autoImplicit true

instance : Reach DamagePreviewMarker where
  start marker := marker.startMilliseconds
  stop marker := marker.endMilliseconds

instance : Reach PlaybackRange where
  start range := range.startMilliseconds
  stop range := range.endMilliseconds

def MarkerGroup.ofCluster (cluster : Cluster DamagePreviewMarker) : MarkerGroup where
  startMilliseconds := cluster.start
  endMilliseconds := cluster.stop
  markerIndexes := cluster.members.map (·.intervalIndex)

def PlaybackRange.ofCluster (cluster : Cluster PlaybackRange) : PlaybackRange where
  startMilliseconds := cluster.start
  endMilliseconds := cluster.stop

/-- The spans that are shown, with their context, in the order of their starts. -/
def shownSpans (input : DamagePreviewInput) (markers : List DamagePreviewMarker) :
    List PlaybackRange :=
  sortBy (compareOn (·.startMilliseconds)) (((selectedSpans input markers).map
    (contextSpan input)).filter fun span => span.startMilliseconds < span.endMilliseconds)

/-- The markers of an input: from positive intervals, each of another index. -/
structure ProperMarkers (markers : List DamagePreviewMarker) : Prop where
  distinct : (markers.map (·.intervalIndex)).Nodup
  positive : ∀ marker ∈ markers, marker.startMilliseconds < marker.endMilliseconds

/-- The clips of a plan: in order, apart, not empty, in the playback range, and measured in a range
where the doubles are exact. -/
structure ClipsInRange (input : DamagePreviewInput) (markers : List DamagePreviewMarker)
    (plan : DamagePreviewPlan) : Prop where
  apart : plan.clips.Pairwise fun a b => a.endMilliseconds < b.startMilliseconds
  positive : ∀ clip ∈ plan.clips, clip.startMilliseconds < clip.endMilliseconds
  inside : ∀ clip ∈ plan.clips,
    input.playbackRange.startMilliseconds ≤ clip.startMilliseconds ∧
      clip.endMilliseconds ≤ input.playbackRange.endMilliseconds
  unestimated : plan.estimatedDurationMilliseconds = none ↔
    (coarseMarkers markers ≠ [] ∧ input.samplingWindow = none ∨
      markers.length ≠ input.intervalIndexes.length) ∨ plan.clips = []
  estimated : input.playbackRange.endMilliseconds ≤ 2 ^ 52 →
    ∀ estimate ∈ plan.estimatedDurationMilliseconds, estimate =
      (plan.clips.map fun clip => clip.endMilliseconds - clip.startMilliseconds).sum

/-- The clips of a plan show what was selected, and nothing that is far from it. -/
structure SelectionCovered (input : DamagePreviewInput) (markers : List DamagePreviewMarker)
    (plan : DamagePreviewPlan) : Prop where
  precise : ∀ marker ∈ markers, marker.coverage ≠ .wholeCell → ∃ clip ∈ plan.clips,
    clip.startMilliseconds ≤
        max input.playbackRange.startMilliseconds marker.range.startMilliseconds ∧
      min input.playbackRange.endMilliseconds marker.range.endMilliseconds ≤ clip.endMilliseconds
  coarse : ∀ marker ∈ markers, marker.coverage = .wholeCell →
    ∃ window ∈ input.samplingWindow, window.overlaps marker.range ∧ ∃ clip ∈ plan.clips,
      clip.startMilliseconds ≤ window.startMilliseconds ∧
        window.endMilliseconds ≤ clip.endMilliseconds
  grouped : ∀ marker ∈ markers, ∃ group ∈ plan.groups,
    marker.intervalIndex ∈ group.markerIndexes ∧
      group.startMilliseconds ≤ marker.range.startMilliseconds ∧
      marker.range.endMilliseconds ≤ group.endMilliseconds
  once : ∀ marker ∈ markers,
    (plan.groups.countP fun group => marker.intervalIndex ∈ group.markerIndexes) = 1
  apart : plan.groups.Pairwise fun a b => a.endMilliseconds + 30000 < b.startMilliseconds
  near : ∀ clip ∈ plan.clips, ∀ t, clip.startMilliseconds ≤ t → t ≤ clip.endMilliseconds →
    ∃ span ∈ plan.groups.map (·.toPlaybackRange) ++ input.samplingWindow.toList,
      span.startMilliseconds - input.context.beforeMilliseconds ≤ t ∧
        t ≤ span.endMilliseconds + input.context.afterMilliseconds

/-- What a selection fulfils to which no reason is added. -/
structure UnblockedSelection (input : DamagePreviewInput) (markers : List DamagePreviewMarker) :
    Prop where
  windowed : coarseMarkers markers ≠ [] → input.samplingWindow ≠ none
  inside : ∀ window ∈ input.samplingWindow,
    input.playbackRange.startMilliseconds ≤ window.startMilliseconds ∧
      window.endMilliseconds ≤ input.playbackRange.endMilliseconds
  meets : ∀ window ∈ input.samplingWindow, ∀ marker ∈ coarseMarkers markers,
    window.overlaps marker.range = true
  overlapping : ∀ marker ∈ markers, marker.range.overlaps input.playbackRange = true

section Plan

variable {input : DamagePreviewInput} {markers : List DamagePreviewMarker}
  {marker : DamagePreviewMarker} {group : MarkerGroup} {span window : PlaybackRange}

theorem MarkerGroup.ofCluster_absorb (cluster : Cluster DamagePreviewMarker)
    (marker : DamagePreviewMarker) : MarkerGroup.ofCluster (cluster.absorb marker) =
      { MarkerGroup.ofCluster cluster with
        endMilliseconds := max cluster.stop marker.endMilliseconds
        markerIndexes := (MarkerGroup.ofCluster cluster).markerIndexes ++
          [marker.intervalIndex] } := by
  rw [MarkerGroup.ofCluster, Cluster.absorb, List.map_append]
  rfl

theorem groupMarkers_eq (markers : List DamagePreviewMarker) : groupMarkers markers =
    (Cluster.gathered 30000 (sortBy compareMarkers markers)).map MarkerGroup.ofCluster := by
  show (sortBy compareMarkers markers).foldl groupMarker ([].map MarkerGroup.ofCluster) =
    ((sortBy compareMarkers markers).foldl (Cluster.gather 30000) []).map MarkerGroup.ofCluster
  apply List.foldl_hom
  intro clusters marker
  unfold groupMarker Cluster.gather
  rw [List.getLast?_map]
  cases clusters.getLast? with
  | none =>
    rw [List.map_append]
    rfl
  | some last =>
    dsimp only [Option.map_some]
    by_cases hnear : Reach.start marker - last.stop ≤ 30000
    · have hsource : marker.range.startMilliseconds -
          (MarkerGroup.ofCluster last).endMilliseconds ≤ 30000 := hnear
      rw [if_pos hnear, if_pos hsource, List.map_append, List.map_dropLast, List.map_singleton,
        MarkerGroup.ofCluster_absorb]
      rfl
    · have hsource : ¬marker.range.startMilliseconds -
          (MarkerGroup.ofCluster last).endMilliseconds ≤ 30000 := hnear
      rw [if_neg hnear, if_neg hsource, List.map_append]
      rfl

theorem foldl_mergeClip (spans : List PlaybackRange) : spans.foldl mergeClip [] =
    (Cluster.gathered 0 spans).map PlaybackRange.ofCluster := by
  show spans.foldl mergeClip ([].map PlaybackRange.ofCluster) =
    (spans.foldl (Cluster.gather 0) []).map PlaybackRange.ofCluster
  apply List.foldl_hom
  intro clusters span
  unfold mergeClip Cluster.gather
  rw [List.getLast?_map]
  cases clusters.getLast? with
  | none =>
    rw [List.map_append]
    rfl
  | some last =>
    dsimp only [Option.map_some]
    have hsame : Reach.start span - last.stop ≤ 0 ↔
        span.startMilliseconds ≤ (PlaybackRange.ofCluster last).endMilliseconds := by
      show span.startMilliseconds - last.stop ≤ 0 ↔ span.startMilliseconds ≤ last.stop
      omega
    by_cases hnear : Reach.start span - last.stop ≤ 0
    · rw [if_pos hnear, if_pos (hsame.1 hnear), List.map_append, List.map_dropLast,
        List.map_singleton]
      rfl
    · rw [if_neg hnear, if_neg (mt hsame.2 hnear), List.map_append]
      rfl

instance : Std.TransCmp compareMarkers :=
  inferInstanceAs (Std.TransCmp (compareLex
    (compareOn fun marker : DamagePreviewMarker => marker.startMilliseconds)
    (compareOn fun marker : DamagePreviewMarker => marker.endMilliseconds)))

/-- The groups gather the markers. -/
theorem groups_gathered (h : ProperMarkers markers) :
    Cluster.Gathered 30000 (sortBy compareMarkers markers)
      (Cluster.gathered 30000 (sortBy compareMarkers markers)) := by
  apply Cluster.gathered_spec
  · decide
  · intro marker hmarker
    exact Int.ofNat_le.2 (h.positive marker (mem_sortBy.1 hmarker)).le
  · have hsorted : Ascending compareMarkers (sortBy compareMarkers markers) :=
      ascending_sortBy markers
    apply hsorted.imp
    intro a b hle
    simp only [compareMarkers, compareLex, Ordering.isLE_then_iff_and, compareOn,
      Nat.isLE_compare] at hle
    exact Int.ofNat_le.2 hle.1

/-- The clips gather the spans that are shown. -/
theorem clips_gathered (input : DamagePreviewInput) (markers : List DamagePreviewMarker) :
    Cluster.Gathered 0 (shownSpans input markers)
      (Cluster.gathered 0 (shownSpans input markers)) := by
  apply Cluster.gathered_spec
  · decide
  · intro span hspan
    exact (of_decide_eq_true (List.mem_filter.1 (mem_sortBy.1 hspan)).2).le
  · have hsorted : Ascending (compareOn (·.startMilliseconds)) (shownSpans input markers) :=
      ascending_sortBy _
    apply hsorted.imp
    intro a b hle
    exact Std.isLE_compare.1 hle

theorem planClips_clips : (planClips input markers reasons).1.clips =
    (Cluster.gathered 0 (shownSpans input markers)).map PlaybackRange.ofCluster :=
  foldl_mergeClip (shownSpans input markers)

theorem mem_shownSpans : span ∈ shownSpans input markers ↔
    (∃ selected ∈ selectedSpans input markers, contextSpan input selected = span) ∧
      span.startMilliseconds < span.endMilliseconds := by
  rw [shownSpans, mem_sortBy, List.mem_filter, List.mem_map, decide_eq_true_eq]

theorem contextSpan_inside (input : DamagePreviewInput) (span : PlaybackRange) :
    input.playbackRange.startMilliseconds ≤ (contextSpan input span).startMilliseconds ∧
      (contextSpan input span).endMilliseconds ≤ input.playbackRange.endMilliseconds := by
  refine ⟨le_max_left _ _, ?_⟩
  rw [contextSpan]
  dsimp only
  split <;> omega

/-- A span with its context reaches over the part of the span in the playback range. -/
theorem contextSpan_covers (h : input.Proper) (span : PlaybackRange) :
    (contextSpan input span).startMilliseconds ≤
        max input.playbackRange.startMilliseconds span.startMilliseconds ∧
      min input.playbackRange.endMilliseconds span.endMilliseconds ≤
        (contextSpan input span).endMilliseconds := by
  have hbefore := h.before
  have hafter := h.after
  rw [contextSpan]
  dsimp only
  constructor
  · omega
  · split <;> omega

theorem contextSpan_near (hstart : (contextSpan input span).startMilliseconds ≤ t)
    (hstop : t ≤ (contextSpan input span).endMilliseconds) :
    span.startMilliseconds - input.context.beforeMilliseconds ≤ t ∧
      t ≤ span.endMilliseconds + input.context.afterMilliseconds := by
  rw [contextSpan] at hstart hstop
  dsimp only at hstart hstop
  constructor
  · omega
  · split at hstop <;> omega

/-- A selected span whose part in the playback range is not empty is in one clip. -/
theorem selected_clip (reasons : List DamagePreviewReason) (h : input.Proper)
    (hspan : span ∈ selectedSpans input markers)
    (hpart : max input.playbackRange.startMilliseconds span.startMilliseconds <
      min input.playbackRange.endMilliseconds span.endMilliseconds) :
    ∃ clip ∈ (planClips input markers reasons).1.clips,
      clip.startMilliseconds ≤
          max input.playbackRange.startMilliseconds span.startMilliseconds ∧
        min input.playbackRange.endMilliseconds span.endMilliseconds ≤ clip.endMilliseconds := by
  have hcovers := contextSpan_covers h span
  have hshown : contextSpan input span ∈ shownSpans input markers :=
    mem_shownSpans.2 ⟨⟨span, hspan, rfl⟩, by omega⟩
  have hgathered := clips_gathered input markers
  obtain ⟨cluster, hcluster, hmember⟩ := hgathered.exists_cluster hshown
  have hhull := (hgathered.hulls cluster hcluster).covers _ hmember
  rw [planClips_clips]
  exact ⟨_, List.mem_map_of_mem hcluster, hhull.1.trans hcovers.1, hcovers.2.trans hhull.2⟩

/-- The running sum of clips that are apart is exact up to the end of `2 ^ 52` milliseconds. -/
theorem clipsDuration_exact {clips : List PlaybackRange} {last : Int} (hlast : last ≤ 2 ^ 52)
    (hapart : clips.Pairwise fun a b => a.endMilliseconds < b.startMilliseconds)
    (hinside : ∀ clip ∈ clips, 0 ≤ clip.startMilliseconds ∧
      clip.startMilliseconds < clip.endMilliseconds ∧ clip.endMilliseconds ≤ last) :
    clipsDuration clips =
      (clips.map fun clip => clip.endMilliseconds - clip.startMilliseconds).sum := by
  suffices hfold : ∀ total first : Int, 0 ≤ total → total ≤ first →
      (∀ clip ∈ clips, first ≤ clip.startMilliseconds) →
      clips.foldl (fun sum clip => nearestDoubleInt
        (nearestDoubleInt (sum + clip.endMilliseconds) - clip.startMilliseconds)) total =
      total + (clips.map fun clip => clip.endMilliseconds - clip.startMilliseconds).sum by
    exact (hfold 0 0 le_rfl le_rfl fun clip hc => (hinside clip hc).1).trans (Int.zero_add _)
  induction clips with
  | nil => exact fun total _ _ _ _ => (Int.add_zero total).symm
  | cons clip rest ih =>
    intro total first htotal hbefore hfirst
    obtain ⟨hnext, hrest⟩ := List.pairwise_cons.1 hapart
    obtain ⟨⟨hpositive, hlong, hstop⟩, hothers⟩ := List.forall_mem_cons.1 hinside
    have hstart := hfirst clip List.mem_cons_self
    have hsum : nearestDoubleInt (total + clip.endMilliseconds) = total + clip.endMilliseconds :=
      nearestDoubleInt_exact (by omega)
    rw [List.foldl_cons, hsum, nearestDoubleInt_exact (by omega),
      ih hrest hothers _ clip.endMilliseconds
      (by omega) (by omega) fun other ho => (hnext other ho).le, List.map_cons, List.sum_cons]
    omega

theorem planClips_inRange (h : input.Proper) (markers : List DamagePreviewMarker)
    (reasons : List DamagePreviewReason) :
    ClipsInRange input markers (planClips input markers reasons).1 := by
  have hgathered := clips_gathered input markers
  have hapart : (planClips input markers reasons).1.clips.Pairwise fun a b =>
      a.endMilliseconds < b.startMilliseconds := by
    rw [planClips_clips]
    apply List.pairwise_map.2
    apply hgathered.apart.imp
    intro a b hlt
    show a.stop < b.start
    omega
  have hpositive : ∀ clip ∈ (planClips input markers reasons).1.clips,
      clip.startMilliseconds < clip.endMilliseconds := by
    rw [planClips_clips]
    intro clip hclip
    obtain ⟨cluster, hcluster, rfl⟩ := List.mem_map.1 hclip
    have hhulls := hgathered.hulls cluster hcluster
    obtain ⟨m, hm, -⟩ := hhulls.first
    have hpositive := (mem_shownSpans.1 (hgathered.mem_done hcluster hm)).2
    have hcovers := hhulls.covers m hm
    exact lt_of_le_of_lt hcovers.1 (lt_of_lt_of_le hpositive hcovers.2)
  have hinside : ∀ clip ∈ (planClips input markers reasons).1.clips,
      input.playbackRange.startMilliseconds ≤ clip.startMilliseconds ∧
        clip.endMilliseconds ≤ input.playbackRange.endMilliseconds := by
    rw [planClips_clips]
    intro clip hclip
    obtain ⟨cluster, hcluster, rfl⟩ := List.mem_map.1 hclip
    have hhulls := hgathered.hulls cluster hcluster
    have hmember : ∀ m ∈ cluster.members,
        input.playbackRange.startMilliseconds ≤ m.startMilliseconds ∧
          m.endMilliseconds ≤ input.playbackRange.endMilliseconds := by
      intro m hm
      obtain ⟨⟨selected, -, rfl⟩, -⟩ := mem_shownSpans.1 (hgathered.mem_done hcluster hm)
      exact contextSpan_inside input selected
    obtain ⟨first, hfirst, hstart⟩ := hhulls.first
    obtain ⟨last, hlast, hstop⟩ := hhulls.last
    exact ⟨(hmember first hfirst).1.trans_eq hstart, hstop.symm.trans_le (hmember last hlast).2⟩
  have hestimate : (planClips input markers reasons).1.estimatedDurationMilliseconds =
      if (coarseMarkers markers ≠ [] ∧ input.samplingWindow = none ∨
          markers.length ≠ input.intervalIndexes.length) ∨
        (planClips input markers reasons).1.clips = [] then none
      else some (clipsDuration (planClips input markers reasons).1.clips) := rfl
  refine ⟨hapart, hpositive, hinside, ?_, fun hlast estimate he => ?_⟩
  · rw [hestimate, ite_eq_left_iff]
    constructor
    · intro hnone
      by_contra hnot
      cases hnone hnot
    · exact fun hincomplete hnot => absurd hincomplete hnot
  · rw [hestimate] at he
    obtain ⟨-, he⟩ := Option.ite_none_left_eq_some.1 he
    cases he
    exact clipsDuration_exact hlast hapart fun clip hc =>
      ⟨h.range.nonnegative.trans (hinside clip hc).1, hpositive clip hc, (hinside clip hc).2⟩

theorem planReasons_nil (h : planReasons input markers = []) :
    UnblockedSelection input markers := by
  simp only [planReasons, List.append_eq_nil_iff, ite_eq_right_iff, List.cons_ne_nil,
    imp_false] at h
  obtain ⟨⟨⟨hwindowed, hinside⟩, hmeets⟩, hoverlapping⟩ := h
  constructor
  case windowed => exact fun hcoarse hnone => hwindowed ⟨hcoarse, hnone⟩
  case inside =>
    intro window hwindow
    rw [hwindow, Option.any_some, decide_eq_true_eq, not_or, Int.not_lt, Int.not_lt] at hinside
    exact hinside
  case meets =>
    intro window hwindow marker hmarker
    rw [hwindow, Option.any_some, List.any_eq_true] at hmeets
    by_contra hmisses
    exact hmeets ⟨marker, hmarker, by rw [Bool.not_eq_true'] ; exact Bool.eq_false_iff.2 hmisses⟩
  case overlapping =>
    intro marker hmarker
    rw [List.any_eq_true] at hoverlapping
    by_contra houtside
    exact hoverlapping ⟨marker, hmarker, by
      rw [Bool.not_eq_true']; exact Bool.eq_false_iff.2 houtside⟩

theorem overlaps_iff {left right : PlaybackRange} : left.overlaps right = true ↔
    left.startMilliseconds < right.endMilliseconds ∧
      right.startMilliseconds < left.endMilliseconds := by
  rw [PlaybackRange.overlaps, decide_eq_true_eq]

theorem mem_coarseMarkers :
    marker ∈ coarseMarkers markers ↔ marker ∈ markers ∧ marker.coverage = .wholeCell := by
  rw [coarseMarkers, List.mem_filter, decide_eq_true_eq]

/-- Each marker is in a group that reaches over it. -/
theorem marker_group (h : ProperMarkers markers) (hmarker : marker ∈ markers) :
    ∃ group ∈ groupMarkers markers, marker.intervalIndex ∈ group.markerIndexes ∧
      group.startMilliseconds ≤ marker.range.startMilliseconds ∧
      marker.range.endMilliseconds ≤ group.endMilliseconds := by
  have hgathered := groups_gathered h
  obtain ⟨cluster, hcluster, hmember⟩ := hgathered.exists_cluster (mem_sortBy.2 hmarker)
  rw [groupMarkers_eq]
  exact ⟨_, List.mem_map_of_mem hcluster, List.mem_map_of_mem hmember,
    (hgathered.hulls cluster hcluster).covers marker hmember⟩

/-- A group reaches over the markers that it has. -/
theorem group_covers (h : ProperMarkers markers) (hgroup : group ∈ groupMarkers markers)
    (hmarker : marker ∈ markers) (hindex : marker.intervalIndex ∈ group.markerIndexes) :
    group.startMilliseconds ≤ marker.range.startMilliseconds ∧
      marker.range.endMilliseconds ≤ group.endMilliseconds := by
  have hgathered := groups_gathered h
  rw [groupMarkers_eq] at hgroup
  obtain ⟨cluster, hcluster, rfl⟩ := List.mem_map.1 hgroup
  obtain ⟨other, hother, hsame⟩ := List.mem_map.1 hindex
  have hin : other ∈ markers := mem_sortBy.1 (hgathered.mem_done hcluster hother)
  obtain rfl := List.inj_on_of_nodup_map h.distinct hin hmarker hsame
  exact (hgathered.hulls cluster hcluster).covers other hother

theorem countP_flatMap {f : α → List Nat} {l : List α} (h : (l.flatMap f).Nodup)
    (hx : x ∈ l.flatMap f) : (l.countP fun a => x ∈ f a) = 1 := by
  induction l with
  | nil => exact absurd hx List.not_mem_nil
  | cons a l ih =>
    rw [List.flatMap_cons] at h hx
    obtain ⟨-, hrest, hdisjoint⟩ := List.nodup_append.1 h
    by_cases hfirst : x ∈ f a
    · have hnone : (l.countP fun a => x ∈ f a) = 0 := by
        apply List.countP_eq_zero.2
        intro b hb hmem
        have hlater := List.mem_flatMap.2 ⟨b, hb, of_decide_eq_true hmem⟩
        exact hdisjoint x hfirst x hlater rfl
      rw [List.countP_cons, hnone, if_pos (decide_eq_true hfirst)]
    · have hlater := (List.mem_append.1 hx).resolve_left hfirst
      rw [List.countP_cons, if_neg (mt of_decide_eq_true hfirst)]
      exact ih hrest hlater

theorem groups_once (h : ProperMarkers markers) (hmarker : marker ∈ markers) :
    ((groupMarkers markers).countP fun group =>
      marker.intervalIndex ∈ group.markerIndexes) = 1 := by
  have hmembers := (groups_gathered h).members
  have hindexes : (groupMarkers markers).flatMap (·.markerIndexes) =
      (sortBy compareMarkers markers).map (·.intervalIndex) := by
    rw [groupMarkers_eq, List.flatMap_map]
    conv_rhs => rw [← hmembers, List.map_flatMap]
    rfl
  apply countP_flatMap
  · rw [hindexes]
    exact ((perm_sortBy _ _).map _).nodup_iff.2 h.distinct
  · rw [hindexes]
    exact List.mem_map_of_mem (mem_sortBy.2 hmarker)

/-- The selected spans of a group, when something is coarse in it or nothing is. -/
theorem groupSpans_coarse (hwindow : input.samplingWindow = some window)
    (hcoarse : marker ∈ coarseMarkers markers)
    (hindex : marker.intervalIndex ∈ group.markerIndexes) :
    groupSpans input markers group =
      [{ startMilliseconds := ((markers.filter fun marker =>
           marker.intervalIndex ∈ group.markerIndexes ∧ marker.coverage ≠ .wholeCell).map
             (·.range.startMilliseconds)).foldl min window.startMilliseconds
         endMilliseconds := ((markers.filter fun marker =>
           marker.intervalIndex ∈ group.markerIndexes ∧ marker.coverage ≠ .wholeCell).map
             (·.range.endMilliseconds)).foldl max window.endMilliseconds }] := by
  have hany : ((coarseMarkers markers).any fun marker =>
      marker.intervalIndex ∈ group.markerIndexes) = true :=
    List.any_eq_true.2 ⟨marker, hcoarse, decide_eq_true hindex⟩
  rw [groupSpans, if_pos hany, hwindow]

theorem groupSpans_precise (hnone : ∀ marker ∈ coarseMarkers markers,
    marker.intervalIndex ∉ group.markerIndexes) :
    groupSpans input markers group = [group.toPlaybackRange] := by
  have hany : ¬((coarseMarkers markers).any fun marker =>
      marker.intervalIndex ∈ group.markerIndexes) = true := by
    intro h
    obtain ⟨marker, hmarker, hindex⟩ := List.any_eq_true.1 h
    exact hnone marker hmarker (of_decide_eq_true hindex)
  rw [groupSpans, if_neg hany]

/-- A precise marker of a group is in a selected span. -/
theorem precise_span (h : UnblockedSelection input markers) (hmarkers : ProperMarkers markers)
    (hgroup : group ∈ groupMarkers markers) (hmarker : marker ∈ markers)
    (hprecise : marker.coverage ≠ .wholeCell)
    (hindex : marker.intervalIndex ∈ group.markerIndexes) :
    ∃ span ∈ groupSpans input markers group,
      span.startMilliseconds ≤ marker.range.startMilliseconds ∧
        marker.range.endMilliseconds ≤ span.endMilliseconds := by
  by_cases hcoarse : ∃ other ∈ coarseMarkers markers, other.intervalIndex ∈ group.markerIndexes
  · obtain ⟨other, hother, hotherIndex⟩ := hcoarse
    obtain ⟨window, hwindow⟩ := Option.ne_none_iff_exists'.1
      (h.windowed (List.ne_nil_of_mem hother))
    have hin : marker ∈ markers.filter fun marker =>
        marker.intervalIndex ∈ group.markerIndexes ∧ marker.coverage ≠ .wholeCell :=
      List.mem_filter.2 ⟨hmarker, decide_eq_true ⟨hindex, hprecise⟩⟩
    rw [groupSpans_coarse hwindow hother hotherIndex]
    refine ⟨_, List.mem_cons_self, ?_, ?_⟩
    · exact (foldl_min_le _ _).2 _ (List.mem_map_of_mem hin)
    · exact (le_foldl_max _ _).2 _ (List.mem_map_of_mem hin)
  · rw [groupSpans_precise fun other hother hotherIndex => hcoarse ⟨other, hother, hotherIndex⟩]
    exact ⟨_, List.mem_cons_self, group_covers hmarkers hgroup hmarker hindex⟩

/-- The window is in a selected span, when a coarse marker is selected. -/
theorem window_span (hwindow : input.samplingWindow = some window)
    (hcoarse : marker ∈ coarseMarkers markers)
    (hindex : marker.intervalIndex ∈ group.markerIndexes) :
    ∃ span ∈ groupSpans input markers group,
      span.startMilliseconds ≤ window.startMilliseconds ∧
        window.endMilliseconds ≤ span.endMilliseconds := by
  rw [groupSpans_coarse hwindow hcoarse hindex]
  exact ⟨_, List.mem_cons_self, (foldl_min_le _ _).1, (le_foldl_max _ _).1⟩

/-- What is near a selected span is near its group or near the window. -/
theorem groupSpans_near (h : UnblockedSelection input markers) (hinput : input.Proper)
    (hmarkers : ProperMarkers markers) (hgroup : group ∈ groupMarkers markers)
    (hspan : span ∈ groupSpans input markers group)
    (hnear : span.startMilliseconds - input.context.beforeMilliseconds ≤ t ∧
      t ≤ span.endMilliseconds + input.context.afterMilliseconds) :
    (group.startMilliseconds - input.context.beforeMilliseconds ≤ t ∧
        t ≤ group.endMilliseconds + input.context.afterMilliseconds) ∨
      ∃ window ∈ input.samplingWindow,
        window.startMilliseconds - input.context.beforeMilliseconds ≤ t ∧
          t ≤ window.endMilliseconds + input.context.afterMilliseconds := by
  have hbefore := hinput.before
  have hafter := hinput.after
  by_cases hcoarse : ∃ other ∈ coarseMarkers markers, other.intervalIndex ∈ group.markerIndexes
  · obtain ⟨other, hother, hotherIndex⟩ := hcoarse
    obtain ⟨window, hwindow⟩ := Option.ne_none_iff_exists'.1
      (h.windowed (List.ne_nil_of_mem hother))
    -- the window meets the group in a coarse marker, so the hull of both has no gap
    have hmeets := overlaps_iff.1 (h.meets window hwindow other hother)
    have hcovers := group_covers hmarkers hgroup (mem_coarseMarkers.1 hother).1 hotherIndex
    have hprecise : ∀ marker ∈ markers.filter fun marker =>
        marker.intervalIndex ∈ group.markerIndexes ∧ marker.coverage ≠ .wholeCell,
        group.startMilliseconds ≤ marker.range.startMilliseconds ∧
          marker.range.endMilliseconds ≤ group.endMilliseconds := by
      intro marker hmarker
      obtain ⟨hin, hindex⟩ := List.mem_filter.1 hmarker
      exact group_covers hmarkers hgroup hin (of_decide_eq_true hindex).1
    rw [groupSpans_coarse hwindow hother hotherIndex] at hspan
    obtain rfl := List.mem_singleton.1 hspan
    dsimp only at hnear
    have hstart : min window.startMilliseconds group.startMilliseconds ≤
        ((markers.filter fun marker => marker.intervalIndex ∈ group.markerIndexes ∧
          marker.coverage ≠ .wholeCell).map (·.range.startMilliseconds)).foldl min
            window.startMilliseconds := by
      apply le_foldl_min (min_le_left _ _)
      intro b hb
      obtain ⟨marker, hmarker, rfl⟩ := List.mem_map.1 hb
      exact (min_le_right _ _).trans (hprecise marker hmarker).1
    have hstop : ((markers.filter fun marker => marker.intervalIndex ∈ group.markerIndexes ∧
          marker.coverage ≠ .wholeCell).map (·.range.endMilliseconds)).foldl max
            window.endMilliseconds ≤ max window.endMilliseconds group.endMilliseconds := by
      apply foldl_max_le (le_max_left _ _)
      intro b hb
      obtain ⟨marker, hmarker, rfl⟩ := List.mem_map.1 hb
      exact (hprecise marker hmarker).2.trans (le_max_right _ _)
    by_cases hwindowed : window.startMilliseconds - input.context.beforeMilliseconds ≤ t ∧
        t ≤ window.endMilliseconds + input.context.afterMilliseconds
    · exact .inr ⟨window, hwindow, hwindowed⟩
    · apply Or.inl
      omega
  · rw [groupSpans_precise fun other hother hotherIndex => hcoarse ⟨other, hother, hotherIndex⟩]
      at hspan
    obtain rfl := List.mem_singleton.1 hspan
    exact .inl hnear

/-- A plan to which no reason is added covers a damage selection. -/
theorem planClips_covers (hinput : input.Proper) (hmarkers : ProperMarkers markers)
    (hmode : input.mode = .damage) (h : UnblockedSelection input markers) :
    SelectionCovered input markers (planClips input markers reasons).1 := by
  have hselected : selectedSpans input markers =
      (groupMarkers markers).flatMap (groupSpans input markers) := by
    rw [selectedSpans, hmode]
    rfl
  constructor
  case precise =>
    intro marker hmarker hprecise
    obtain ⟨group, hgroup, hindex, -⟩ := marker_group hmarkers hmarker
    obtain ⟨span, hspan, hcovers⟩ := precise_span h hmarkers hgroup hmarker hprecise hindex
    have hin : span ∈ selectedSpans input markers := by
      rw [hselected]
      exact List.mem_flatMap.2 ⟨group, hgroup, hspan⟩
    have hoverlap := overlaps_iff.1 (h.overlapping marker hmarker)
    have hpositive : marker.range.startMilliseconds < marker.range.endMilliseconds :=
      Int.ofNat_lt.2 (hmarkers.positive marker hmarker)
    have hrange := hinput.range.positive
    obtain ⟨clip, hclip, hclipCovers⟩ := selected_clip reasons hinput hin (by omega)
    exact ⟨clip, hclip, by omega⟩
  case coarse =>
    intro marker hmarker hcoarse
    have hin := mem_coarseMarkers.2 ⟨hmarker, hcoarse⟩
    obtain ⟨window, hwindow⟩ := Option.ne_none_iff_exists'.1 (h.windowed (List.ne_nil_of_mem hin))
    obtain ⟨group, hgroup, hindex, -⟩ := marker_group hmarkers hmarker
    obtain ⟨span, hspan, hcovers⟩ := window_span hwindow hin hindex
    have hselect : span ∈ selectedSpans input markers := by
      rw [hselected]
      exact List.mem_flatMap.2 ⟨group, hgroup, hspan⟩
    have hinside := h.inside window hwindow
    have hpositive := (hinput.window window hwindow).positive
    obtain ⟨clip, hclip, hclipCovers⟩ :=
      selected_clip reasons hinput hselect (by omega)
    exact ⟨window, hwindow, h.meets window hwindow marker hin, clip, hclip, by omega⟩
  case grouped => exact fun marker hmarker => marker_group hmarkers hmarker
  case once => exact fun marker hmarker => groups_once hmarkers hmarker
  case apart =>
    show (groupMarkers markers).Pairwise _
    rw [groupMarkers_eq]
    exact List.pairwise_map.2 (groups_gathered hmarkers).apart
  case near =>
    intro clip hclip t hstart hstop
    rw [planClips_clips] at hclip
    obtain ⟨cluster, hcluster, rfl⟩ := List.mem_map.1 hclip
    have hgathered := clips_gathered input markers
    obtain ⟨m, hm, hmstart, hmstop⟩ := (hgathered.hulls cluster hcluster).chained t hstart hstop
    obtain ⟨⟨span, hspan, rfl⟩, -⟩ := mem_shownSpans.1 (hgathered.mem_done hcluster hm)
    rw [Int.add_zero] at hmstop
    have hnear := contextSpan_near hmstart hmstop
    rw [hselected] at hspan
    obtain ⟨group, hgroup, hspan⟩ := List.mem_flatMap.1 hspan
    obtain hown | ⟨window, hwindow, hown⟩ := groupSpans_near h hinput hmarkers hgroup hspan hnear
    · exact ⟨group.toPlaybackRange, List.mem_append_left _ (List.mem_map_of_mem hgroup), hown⟩
    · exact ⟨window, List.mem_append_right _ (Option.mem_toList.2 hwindow), hown⟩

/-- The markers of some selected intervals of an assessment. -/
structure Drawn (input : DamagePreviewInput)
    (intervals : List DvdTitleDamageAffectedPlaybackInterval)
    (markers : List DamagePreviewMarker) : Prop where
  selected : (markers.map (·.intervalIndex)).Sublist input.intervalIndexes
  interval : ∀ marker ∈ markers, intervals[marker.intervalIndex]? =
    some marker.toDvdTitleDamageAffectedPlaybackInterval

theorem selectMarkers_drawn (input : DamagePreviewInput)
    (intervals : List DvdTitleDamageAffectedPlaybackInterval) :
    Drawn input intervals (selectMarkers input intervals) := by
  constructor
  case selected =>
    rw [selectMarkers]
    induction input.intervalIndexes with
    | nil => exact .slnil
    | cons index indexes ih =>
      cases hinterval : intervals[index]? with
      | none =>
        rw [List.filterMap_cons_none (by rw [hinterval]; rfl)]
        exact ih.cons index
      | some interval =>
        rw [List.filterMap_cons_some (by rw [hinterval]; rfl)]
        exact ih.cons_cons index
  case interval =>
    intro marker hmarker
    obtain ⟨index, -, hmap⟩ := List.mem_filterMap.1 hmarker
    obtain ⟨interval, hinterval, rfl⟩ := Option.map_eq_some_iff.1 hmap
    exact hinterval

theorem Drawn.proper {intervals : List DvdTitleDamageAffectedPlaybackInterval}
    (h : Drawn input intervals markers) (hinput : input.Proper)
    (hpositive : ∀ interval ∈ intervals, interval.Positive) : ProperMarkers markers where
  distinct := h.selected.nodup hinput.indexes
  positive marker hmarker := hpositive _ (List.mem_of_getElem? (h.interval marker hmarker))

/-- The clips of a plan are apart and in the playback range, and measured when the selection is
complete; a plan to which no reason is added covers the markers of a damage selection. -/
theorem planClips_selection {evidenceDigest : IdentityEvidence → String}
    (hinput : parseDamagePreviewInput value = .ok input)
    (hassessment : createDvdTitleDamageAssessment evidenceDigest assessed = .ok assessment)
    (hitem : item ∈ assessment.items)
    (hplayback : item.estimatedAffectedPlayback = some playback)
    (hmarkers : Drawn input playback.intervals markers) (reasons : List DamagePreviewReason) :
    ClipsInRange input markers (planClips input markers reasons).1 ∧
      ((planClips input markers reasons).2 = reasons → input.mode = .damage →
        SelectionCovered input markers (planClips input markers reasons).1) := by
  have hproper := parseDamagePreviewInput_proper hinput
  refine ⟨planClips_inRange hproper markers reasons, ?_⟩
  intro hreasons hmode
  have hpositive := createDvdTitleDamageAssessment_positive hassessment hitem hplayback
  have hnil : planReasons input markers = [] := List.append_right_eq_self.1 hreasons
  exact planClips_covers hproper (hmarkers.proper hproper hpositive) hmode (planReasons_nil hnil)

def sampleInterval : DvdTitleDamageAffectedPlaybackInterval where
  playbackOccurrence := 1
  startMilliseconds := 0
  endMilliseconds := 3000
  timingMethods := ["cell-time", "vobu-time"]
  coverage := .wholeCell
  sourceRanges := [⟨100, 10, .individuallyFailed⟩]

theorem sampleTimedDamage_playback : ∃ assessment,
    createDvdTitleDamageAssessment (fun _ => "digest") sampleTimedDamage = .ok assessment ∧
      ∃ item ∈ assessment.items, ∃ playback, item.estimatedAffectedPlayback = some playback ∧
        playback.intervals = [sampleInterval] := by
  have hrun : (match createDvdTitleDamageAssessment (fun _ => "digest") sampleTimedDamage with
      | .error _ => false
      | .ok assessment => assessment.items.any fun item =>
        item.estimatedAffectedPlayback.any fun playback =>
          playback.intervals = [sampleInterval]) = true := by
    decide +kernel
  cases h : createDvdTitleDamageAssessment (fun _ => "digest") sampleTimedDamage with
  | error => simp [h] at hrun
  | ok assessment =>
    rw [h] at hrun
    obtain ⟨item, hitem, hany⟩ := List.any_eq_true.1 hrun
    cases hplayback : item.estimatedAffectedPlayback with
    | none => simp [hplayback] at hany
    | some playback =>
      rw [hplayback, Option.any_some, decide_eq_true_eq] at hany
      exact ⟨assessment, rfl, item, hitem, playback, hplayback, hany⟩

/-- A damage selection with a window. -/
def samplePreviewRequest (indexes : List Nat) : Json := .object [
  ("mode", .string "damage"),
  ("titleIdentityObservationId", .string "observation-1"),
  ("playbackRange", .object [("startMilliseconds", .number 0),
    ("endMilliseconds", .number 600000)]),
  ("intervalIndexes", .array (indexes.map fun index => .number index)),
  ("assessmentIdentity", .string "digest"),
  ("samplingWindow", .object [("startMilliseconds", .number 1000),
    ("endMilliseconds", .number 2000)]),
  ("streams", .object [("audio", .array []), ("subtitles", .array [])]),
  ("encodingProfileId", .string "profile-1")]

def sampleSelection (indexes : List Nat) : DamagePreviewInput where
  mode := .damage
  titleIdentityObservationId := "observation-1"
  playbackRange := ⟨0, 600000⟩
  intervalIndexes := indexes
  assessmentIdentity := some "digest"
  samplingWindow := some ⟨1000, 2000⟩
  streams := ⟨[], []⟩
  context := ⟨5000, 5000⟩
  encodingProfileId := "profile-1"

theorem samplePreviewRequest_one :
    parseDamagePreviewInput (samplePreviewRequest [0]) = .ok (sampleSelection [0]) := by
  rfl

theorem samplePreviewRequest_two :
    parseDamagePreviewInput (samplePreviewRequest [0, 1]) = .ok (sampleSelection [0, 1]) := by
  rfl

/-- A selection with an interval that the assessment does not have has clips, but no estimate. -/
theorem planClips_unestimated : ¬∀ (value : Json) (input : DamagePreviewInput)
    (assessment : DvdTitleDamageAssessment) (item : DvdTitleDamageAssessmentItem)
    (playback : EstimatedAffectedPlayback) (markers : List DamagePreviewMarker),
    parseDamagePreviewInput value = .ok input →
    createDvdTitleDamageAssessment (fun _ => "digest") sampleTimedDamage = .ok assessment →
    item ∈ assessment.items → item.estimatedAffectedPlayback = some playback →
    Drawn input playback.intervals markers →
    (planClips input markers []).1.estimatedDurationMilliseconds =
      some ((planClips input markers []).1.clips.map fun clip =>
        clip.endMilliseconds - clip.startMilliseconds).sum := by
  intro hclaim
  obtain ⟨assessment, hassessment, item, hitem, playback, hplayback, hintervals⟩ :=
    sampleTimedDamage_playback
  have hestimated := hclaim (samplePreviewRequest [0, 1]) (sampleSelection [0, 1]) assessment item
    playback (selectMarkers (sampleSelection [0, 1]) playback.intervals)
    samplePreviewRequest_two hassessment hitem hplayback (selectMarkers_drawn _ _)
  rw [hintervals] at hestimated
  have hnone : (planClips (sampleSelection [0, 1])
      (selectMarkers (sampleSelection [0, 1]) [sampleInterval])
      []).1.estimatedDurationMilliseconds = none := by decide +kernel
  rw [hnone] at hestimated
  cases hestimated

theorem sampleSelection_covered : ∃ markers : List DamagePreviewMarker,
    ClipsInRange (sampleSelection [0]) markers (planClips (sampleSelection [0]) markers []).1 ∧
      SelectionCovered (sampleSelection [0]) markers
        (planClips (sampleSelection [0]) markers []).1 := by
  obtain ⟨assessment, hassessment, item, hitem, playback, hplayback, hintervals⟩ :=
    sampleTimedDamage_playback
  have hplanned := planClips_selection samplePreviewRequest_one hassessment hitem hplayback
    (selectMarkers_drawn (sampleSelection [0]) playback.intervals) []
  rw [hintervals] at hplanned
  exact ⟨_, hplanned.1, hplanned.2 (by decide +kernel) rfl⟩

end Plan

end RipDvd
