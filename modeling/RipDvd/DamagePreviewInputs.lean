import RipDvd.DamagePreview
import RipDvd.AffectedPlayback

namespace RipDvd
set_option autoImplicit true

/-- A range of a selection: it begins at a time and has a length. -/
structure PlaybackRange.Proper (range : PlaybackRange) : Prop where
  nonnegative : 0 ≤ range.startMilliseconds
  positive : range.startMilliseconds < range.endMilliseconds

/-- What the parser promises of the selections that it accepts. -/
structure DamagePreviewInput.Proper (input : DamagePreviewInput) : Prop where
  range : input.playbackRange.Proper
  window : ∀ window ∈ input.samplingWindow, window.Proper
  indexes : input.intervalIndexes.Nodup
  before : 0 ≤ input.context.beforeMilliseconds
  after : 0 ≤ input.context.afterMilliseconds
  ordinary : input.mode = .ordinaryPlayback → input.intervalIndexes = []

namespace DamagePreviewInput

theorem invalid_ok : (invalid : Except InvalidDamagePreviewInputError α) ≠ .ok a := nofun

theorem range_ok (h : range value = .ok result) : result.Proper := by
  simp only [range, bind_ok] at h
  obtain ⟨input, -, start, -, stop, -, h⟩ := h
  split at h
  · exact absurd h invalid_ok
  · rename_i hlt
    obtain rfl := pure_ok.1 h
    constructor
    · exact Int.natCast_nonneg start
    · show (start : Int) < stop
      omega

theorem indexes_ok (h : indexes value maximum = .ok result) : result.Nodup := by
  unfold indexes at h
  split at h
  · split at h
    · exact absurd h invalid_ok
    · obtain ⟨unsorted, -, h⟩ := bind_ok.1 h
      split at h
      · rename_i hdistinct
        obtain rfl := pure_ok.1 h
        exact (perm_sortBy _ _).nodup_iff.2 hdistinct
      · exact absurd h invalid_ok
  · exact absurd h invalid_ok

theorem optional_ok {parse : Option Json → Except InvalidDamagePreviewInputError α}
    (h : optional parse value = .ok result) :
    ∀ a ∈ result, ∃ value, parse value = .ok a := by
  intro a ha
  unfold optional at h
  split at h
  · cases h
    cases ha
  · cases h
    cases ha
  · obtain ⟨b, hb, h⟩ := bind_ok.1 h
    obtain rfl := pure_ok.1 h
    obtain rfl := Option.some.inj ha
    exact ⟨_, hb⟩

theorem parseContext_ok (h : parseContext value = .ok parsed) :
    0 ≤ parsed.beforeMilliseconds ∧ 0 ≤ parsed.afterMilliseconds := by
  unfold parseContext at h
  split at h
  · cases h
    decide
  · simp only [bind_ok, pure_ok] at h
    obtain ⟨_, -, before, -, after, -, rfl⟩ := h
    exact ⟨Int.natCast_nonneg before, Int.natCast_nonneg after⟩

end DamagePreviewInput

open DamagePreviewInput in
theorem parseDamagePreviewInput_proper (h : parseDamagePreviewInput value = .ok input) :
    input.Proper := by
  simp only [parseDamagePreviewInput, bind_ok] at h
  obtain ⟨_, -, mode, -, _, -, indexes, hindexes, window, hwindow, h⟩ := h
  split at h
  · exact absurd h invalid_ok
  · rename_i hordinary
    simp only [bind_ok, pure_ok] at h
    obtain ⟨_, -, range, hrange, _, -, _, -, _, -, context, hcontext, _, -, rfl⟩ := h
    constructor
    case range => exact range_ok hrange
    case window =>
      intro w hw
      obtain ⟨_, hrange⟩ := optional_ok hwindow w hw
      exact range_ok hrange
    case indexes =>
      cases indexes with
      | none => exact List.nodup_nil
      | some selected =>
        obtain ⟨_, hselected⟩ := optional_ok hindexes selected rfl
        exact indexes_ok hselected
    case before => exact (parseContext_ok hcontext).1
    case after => exact (parseContext_ok hcontext).2
    case ordinary =>
      intro hmode
      by_contra hsome
      exact hordinary ⟨hmode, .inl hsome⟩

/-- An interval that ends behind where it starts. -/
def DvdTitleDamageAffectedPlaybackInterval.Positive
    (interval : DvdTitleDamageAffectedPlaybackInterval) : Prop :=
  interval.startMilliseconds < interval.endMilliseconds

section Assessment

open Extent

variable {known : List UnrecoveredSourceRange}
  {candidates : List DvdTitleDamageAffectedPlaybackInterval}

theorem mergeInterval_positive {merged : List DvdTitleDamageAffectedPlaybackInterval}
    (hmerged : ∀ interval ∈ merged, interval.Positive) (hcandidate : candidate.Positive) :
    ∀ interval ∈ mergeInterval merged candidate, interval.Positive := by
  have hadded : ∀ interval ∈ merged ++ [candidate], interval.Positive := by
    intro interval hinterval
    obtain hinterval | hinterval := List.mem_append.1 hinterval
    · exact hmerged interval hinterval
    · exact List.mem_singleton.1 hinterval ▸ hcandidate
  unfold mergeInterval
  cases hlast : merged.getLast? with
  | none => exact hadded
  | some previous =>
    dsimp only
    split
    · exact hadded
    · intro interval hinterval
      obtain hinterval | hinterval := List.mem_append.1 hinterval
      · exact hmerged interval (List.mem_of_mem_dropLast hinterval)
      · have hprevious := hmerged previous (List.mem_of_getLast? hlast)
        rw [List.mem_singleton.1 hinterval]
        exact lt_of_lt_of_le hprevious (le_max_left _ _)

theorem mergeAffectedPlaybackIntervals_positive
    (h : ∀ candidate ∈ candidates, candidate.Positive) :
    ∀ interval ∈ mergeAffectedPlaybackIntervals candidates, interval.Positive := by
  have hfold : ∀ (rest merged : List DvdTitleDamageAffectedPlaybackInterval),
      (∀ interval ∈ merged, interval.Positive) → (∀ candidate ∈ rest, candidate.Positive) →
      ∀ interval ∈ rest.foldl mergeInterval merged, interval.Positive := by
    intro rest
    induction rest with
    | nil => exact fun merged hmerged _ => hmerged
    | cons candidate rest ih =>
      intro merged hmerged hrest
      apply ih
      · exact mergeInterval_positive hmerged (hrest candidate List.mem_cons_self)
      · exact fun other hother => hrest other (List.mem_cons_of_mem _ hother)
  apply hfold
  · exact List.forall_mem_nil _
  · exact fun candidate hcandidate => h candidate (mem_sortBy.1 hcandidate)

theorem placeDamage_positive {spans : List DvdTitleDamageTimingSpan}
    {remaining : List UnrecoveredSourceRange}
    (hspans : ∀ span ∈ spans, span.startMilliseconds < span.endMilliseconds) :
    ∀ candidate ∈ (placeDamage number remaining spans).1, candidate.Positive := by
  induction spans generalizing remaining with
  | nil => exact List.forall_mem_nil _
  | cons span spans ih =>
    have hrest := fun other hother => hspans other (List.mem_cons_of_mem _ hother)
    unfold placeDamage
    dsimp only
    split
    · exact ih hrest
    · intro candidate hcandidate
      cases hcandidate with
      | head => exact hspans span List.mem_cons_self
      | tail _ hcandidate => exact ih hrest candidate hcandidate

theorem normalizeTimingOccurrence_positive
    (h : normalizeTimingOccurrence unique limit occurrence = .ok normalized) :
    ∀ span ∈ normalized.spans, span.startMilliseconds < span.endMilliseconds := by
  simp only [normalizeTimingOccurrence, bind_ok, pure_ok] at h
  obtain ⟨_, -, spans, hspans, _, -, rfl⟩ := h
  intro span hspan
  have hdistinguished : Distinguished id (sortBy compareSpans spans) := fun _ _ _ _ heq => heq
  have hmem : span ∈ spans := mem_sortBy.1 (((mapOf_mapValues hdistinguished).mem span).1 hspan)
  obtain ⟨original, -, horiginal⟩ := exists_left_of_mem (mapM_results.1 hspans) hmem
  simp only [normalizeTimingSpan, bind_ok, pure_ok, rejectIf_ok] at horiginal
  obtain ⟨_, -, _, -, start, -, stop, -, _, hrejected, rfl⟩ := horiginal
  show start < stop
  omega

theorem normalizeTimingEvidence_positive {input : Option DvdTitleDamageTimingInput}
    (h : normalizeTimingEvidence input unique limit = .ok (some evidence)) :
    ∀ occurrence ∈ evidence.occurrences, ∀ span ∈ occurrence.spans,
      span.startMilliseconds < span.endMilliseconds := by
  cases input with
  | none => cases h
  | some input =>
    simp only [normalizeTimingEvidence, bind_ok, pure_ok] at h
    obtain ⟨-, -, occurrences, hoccurrences, hsome⟩ := h
    cases hsome
    intro occurrence hoccurrence
    obtain ⟨-, -, hresults⟩ := mapUnseen_ok.1 hoccurrences
    obtain ⟨original, -, hok⟩ := exists_left_of_mem hresults (mem_sortBy.1 hoccurrence)
    exact normalizeTimingOccurrence_positive hok

theorem estimateAffectedPlayback_positive {evidence : Option DvdTitleDamageTimingInput}
    (hspans : ∀ evidence' ∈ evidence, ∀ occurrence ∈ evidence'.occurrences,
      ∀ span ∈ occurrence.spans, span.startMilliseconds < span.endMilliseconds)
    (h : estimateAffectedPlayback evidence known = .ok (some playback)) :
    ∀ interval ∈ playback.intervals, interval.Positive := by
  cases evidence with
  | none => cases h
  | some evidence =>
    simp only [estimateAffectedPlayback, bind_ok, pure_ok] at h
    obtain ⟨affected, haffected, hsome⟩ := h
    cases hsome
    apply mergeAffectedPlaybackIntervals_positive
    intro candidate hcandidate
    obtain ⟨reported, hreported, hcandidate⟩ := List.mem_flatMap.1 hcandidate
    obtain ⟨occurrence, hoccurrence, hok⟩ :=
      exists_left_of_mem (mapM_results.1 haffected) hreported
    simp only [affectedOccurrence, bind_ok, pure_ok] at hok
    obtain ⟨_, -, rfl⟩ := hok
    exact placeDamage_positive (hspans evidence rfl occurrence hoccurrence) candidate hcandidate

/-- The intervals of an accepted assessment are positive. -/
theorem createDvdTitleDamageAssessment_positive {evidenceDigest : IdentityEvidence → String}
    (h : createDvdTitleDamageAssessment evidenceDigest input = .ok assessment)
    (hitem : item ∈ assessment.items)
    (hplayback : item.estimatedAffectedPlayback = some playback) :
    ∀ interval ∈ playback.intervals, interval.Positive := by
  simp only [createDvdTitleDamageAssessment, bind_ok, pure_ok] at h
  obtain ⟨evidence, hevidence, -, -, rfl⟩ := h
  obtain ⟨context, assessed, known, ha⟩ := semanticEvidence_ok hevidence
  have hin : item ∈ evidence.items := hitem
  rw [ha.items, mem_sortBy] at hin
  obtain ⟨title, -, hok⟩ := exists_left_of_mem ha.results hin
  simp only [assessTitle, bind_ok, pure_ok] at hok
  obtain ⟨-, -, _, -, _, -, unique, -, timing, hnormalized, _, -, estimated, hestimated, rfl⟩ := hok
  cases hplayback
  apply estimateAffectedPlayback_positive _ hestimated
  intro evidence' hevidence'
  obtain rfl : timing = some evidence' := hevidence'
  exact normalizeTimingEvidence_positive hnormalized

end Assessment

end RipDvd
