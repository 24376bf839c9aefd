import RipDvd.Evidence
import Mathlib.Algebra.Order.BigOperators.Group.List
import Mathlib.Algebra.Order.Group.Nat
import Mathlib.Logic.Relation

namespace RipDvd
set_option autoImplicit true

open UnrecoveredSourceRange

variable {range : UnrecoveredSourceRange} {ranges next : List UnrecoveredSourceRange}

/-- What a map says of a sector. -/
def classificationAt (ranges : List UnrecoveredSourceRange) (lba : Nat) :
    Option SourceClassification :=
  (ranges.find? (·.contains lba)).map (·.classification)

/-- Ascending nonempty ranges that cannot be merged. -/
structure Normalized (ranges : List UnrecoveredSourceRange) : Prop where
  positive : ∀ range ∈ ranges, 0 < range.sectorCount
  chain : ranges.IsChain Follows

/-- What an observation makes of the sector that it is about. -/
def RecoveryReadOutcome.classification : RecoveryReadOutcome → Option SourceClassification
  | .recovered => none
  | .failed => some .individuallyFailed

/-- A sector is listed with a class. -/
def Lists (ranges : List UnrecoveredSourceRange) (lba : Nat)
    (classification : SourceClassification) : Prop :=
  ∃ range ∈ ranges, range.contains lba = true ∧ range.classification = classification

theorem lists_nil : ¬Lists [] lba c := fun ⟨_, h, _⟩ => nomatch h

theorem lists_cons :
    Lists (range :: ranges) lba c ↔
      range.contains lba = true ∧ range.classification = c ∨ Lists ranges lba c := by
  simp only [Lists, List.exists_mem_cons_iff]

theorem lists_append :
    Lists (ranges ++ next) lba c ↔ Lists ranges lba c ∨ Lists next lba c := by
  simp only [Lists, List.mem_append, or_and_right, exists_or]

theorem Normalized.tail (h : Normalized (range :: ranges)) : Normalized ranges :=
  ⟨fun r hr => h.positive r (List.mem_cons_of_mem _ hr), (List.isChain_cons.1 h.chain).2⟩

theorem Normalized.ordered (h : Normalized ranges) : ranges.Pairwise Precedes :=
  (h.chain.imp fun _ _ hf => hf.1 : ranges.IsChain Precedes).pairwise

/-- Sectors after the first range lie behind it. -/
theorem Normalized.behind (h : Normalized (range :: ranges)) (hl : Lists ranges lba c) :
    range.endLbaExclusive ≤ lba := by
  obtain ⟨r, hr, hc, _⟩ := hl
  have hp := (List.pairwise_cons.1 h.ordered).1 r hr
  have := (contains_iff.1 hc).1
  rw [Precedes] at hp
  omega

/-- In a normalized map every sector has at most one class. -/
theorem Normalized.class_iff (h : Normalized ranges) :
    classificationAt ranges lba = some c ↔ Lists ranges lba c := by
  induction ranges with
  | nil => exact ⟨fun hn => (nomatch hn), fun hl => absurd hl lists_nil⟩
  | cons range ranges ih =>
    rw [lists_cons, ← ih h.tail]
    cases hc : range.contains lba with
    | true =>
      rw [classificationAt, List.find?_cons, hc]
      constructor
      · intro he
        exact .inl ⟨rfl, Option.some.inj he⟩
      · intro hor
        rcases hor with ⟨_, he⟩ | hl
        · exact congrArg some he
        · have hb := h.behind ((ih h.tail).1 hl)
          have := (contains_iff.1 hc).2
          rw [endLbaExclusive] at hb
          omega
    | false =>
      rw [classificationAt, List.find?_cons, hc]
      exact ⟨fun he => .inr he, fun hor => hor.elim (fun hn => (nomatch hn.1)) fun he => he⟩

/-! ## The observed map -/

theorem lists_singleton :
    Lists [range] lba c ↔ range.contains lba = true ∧ range.classification = c := by
  rw [lists_cons]
  exact or_iff_left lists_nil

theorem lists_appendNormalized :
    Lists (appendNormalized ranges range) lba c ↔
      Lists ranges lba c ∨ range.contains lba = true ∧ range.classification = c := by
  rcases List.eq_nil_or_concat ranges with rfl | ⟨init, last, rfl⟩
  · rw [appendNormalized_nil, lists_singleton]
    exact (or_iff_right lists_nil).symm
  · rw [List.concat_eq_append, appendNormalized_snoc]
    split
    · next hm =>
      obtain ⟨hclass, htouch⟩ := hm
      rw [lists_append, lists_append, lists_singleton, lists_singleton, or_assoc, ← hclass,
        ← or_and_right, contains_iff, contains_iff, contains_iff]
      apply or_congr_right
      apply and_congr_left'
      simp only
      omega
    · rw [List.append_cons, lists_append, lists_singleton]

theorem lists_normalize (normalized rest : List UnrecoveredSourceRange) :
    Lists (rest.foldl appendNormalized normalized) lba c ↔
      Lists normalized lba c ∨ Lists rest lba c := by
  induction rest generalizing normalized with
  | nil => simp only [List.foldl_nil, lists_nil, or_false]
  | cons range rest ih =>
    rw [List.foldl_cons, ih, lists_appendNormalized, lists_cons, or_assoc]

theorem lists_piece [Decidable p] :
    Lists (if p then [⟨start, count, k⟩] else []) x c ↔
      p ∧ (start ≤ x ∧ x < start + count) ∧ k = c := by
  by_cases hp : p
  · rw [if_pos hp, lists_singleton, contains_iff]
    exact (and_iff_right hp).symm
  · rw [if_neg hp]
    exact ⟨fun hn => absurd hn lists_nil, fun hn => absurd hn.1 hp⟩

theorem lists_replacement (h : range.contains lba = true) (outcome : RecoveryReadOutcome)
    (x : Nat) :
    Lists (replacementRanges range lba outcome) x c ↔
      x ≠ lba ∧ range.contains x = true ∧ range.classification = c ∨
      x = lba ∧ outcome.classification = some c := by
  rw [contains_iff] at h
  rw [replacementRanges, lists_append, lists_append, lists_piece, lists_piece, lists_piece,
    contains_iff, endLbaExclusive]
  have hobserved : outcome = .failed ∧ (lba ≤ x ∧ x < lba + 1) ∧
      SourceClassification.individuallyFailed = c ↔
      x = lba ∧ outcome.classification = some c := by
    cases outcome with
    | recovered => simp [RecoveryReadOutcome.classification]
    | failed =>
      simp only [RecoveryReadOutcome.classification, Option.some.injEq, true_and]
      exact and_congr_left' (by omega)
  rw [hobserved]
  constructor
  · intro hor
    rcases hor with (⟨hs, hx, hc⟩ | hobs) | ⟨hs, hx, hc⟩
    · exact .inl ⟨by omega, by omega, hc⟩
    · exact .inr hobs
    · exact .inl ⟨by omega, by omega, hc⟩
  · intro hor
    rcases hor with ⟨hne, hx, hc⟩ | hobs
    · rcases Nat.lt_or_ge x lba with hlt | hge
      · exact .inl (.inl ⟨by omega, by omega, hc⟩)
      · exact .inr ⟨by omega, by omega, hc⟩
    · exact .inl (.inr hobs)

/-- The range that an observation is about, and the ranges around it. -/
theorem afterRecoveryRead_split
    (h : dvdEvidenceRangesAfterRecoveryRead ranges lba outcome = .ok next) :
    ∃ before containing after, ranges = before ++ containing :: after ∧
      containing.contains lba = true ∧
      next = (before ++ replacementRanges containing lba outcome ++ after).foldl
        appendNormalized [] := by
  rw [dvdEvidenceRangesAfterRecoveryRead] at h
  split at h
  · cases h
  · next i hi =>
    obtain ⟨hlt, hcon, _⟩ := List.findIdx?_eq_some_iff_getElem.1 hi
    rw [List.getElem?_eq_getElem hlt] at h
    simp only [Option.toList_some, List.flatMap_cons, List.flatMap_nil, List.append_nil,
      Except.ok.injEq] at h
    refine ⟨ranges.take i, ranges[i], ranges.drop (i + 1), ?_, hcon, h.symm⟩
    rw [← List.drop_eq_getElem_cons hlt, List.take_append_drop]

theorem Normalized.lists_afterRecoveryRead (hn : Normalized ranges)
    (h : dvdEvidenceRangesAfterRecoveryRead ranges lba outcome = .ok next) :
    Lists next x c ↔ x ≠ lba ∧ Lists ranges x c ∨
      x = lba ∧ outcome.classification = some c := by
  obtain ⟨before, containing, after, rfl, hcon, rfl⟩ := afterRecoveryRead_split h
  have hord := hn.ordered
  rw [List.pairwise_append] at hord
  obtain ⟨_, hrest, hbefore⟩ := hord
  have hbefore' : ∀ c, ¬Lists before lba c := by
    intro c hl
    obtain ⟨r, hr, hc, _⟩ := hl
    have hp := hbefore r hr containing List.mem_cons_self
    rw [Precedes, endLbaExclusive] at hp
    have := (contains_iff.1 hcon).1
    have := (contains_iff.1 hc).2
    omega
  have hafter' : ∀ c, ¬Lists after lba c := by
    intro c hl
    obtain ⟨r, hr, hc, _⟩ := hl
    have hp := (List.pairwise_cons.1 hrest).1 r hr
    rw [Precedes, endLbaExclusive] at hp
    have := (contains_iff.1 hcon).2
    have := (contains_iff.1 hc).1
    omega
  rw [lists_normalize, lists_append, lists_append, lists_append, lists_cons,
    lists_replacement hcon]
  by_cases hx : x = lba
  · subst hx
    simp only [lists_nil, hbefore', hafter', ne_eq, not_true_eq_false, false_and,
      false_or, true_and,
      or_false]
  · simp only [lists_nil, hx, ne_eq, not_false_eq_true, true_and, false_and, false_or, or_false]
    exact or_assoc

/-- An observation inside a normalized map leaves a normalized map. -/
theorem Normalized.afterRecoveryRead (hn : Normalized ranges)
    (h : dvdEvidenceRangesAfterRecoveryRead ranges lba outcome = .ok next) : Normalized next := by
  obtain ⟨hchain, hwithin⟩ := follows_afterRecoveryRead hn.ordered h
  refine ⟨fun r hr => (hwithin (ranges.map (·.endLbaExclusive)).sum ?_ r hr).1, hchain⟩
  intro range hrange
  exact ⟨hn.positive range hrange,
    List.le_sum_of_mem (List.mem_map.2 ⟨range, hrange, rfl⟩)⟩

/-! ## One map, one list -/

theorem Normalized.lists_start (h : Normalized (range :: ranges)) :
    Lists (range :: ranges) range.startLba range.classification := by
  have := h.positive range List.mem_cons_self
  exact lists_cons.2 (.inl ⟨contains_iff.2 ⟨Nat.le_refl _, by omega⟩, rfl⟩)

theorem Normalized.start_le (h : Normalized (range :: ranges))
    (hl : Lists (range :: ranges) lba c) :
    range.startLba ≤ lba := by
  rcases lists_cons.1 hl with ⟨hc, _⟩ | hl
  · exact (contains_iff.1 hc).1
  · have hb := h.behind hl
    rw [endLbaExclusive] at hb
    omega

theorem Normalized.lists_tail (h : Normalized (range :: ranges)) :
    Lists ranges lba c ↔ Lists (range :: ranges) lba c ∧ range.endLbaExclusive ≤ lba := by
  constructor
  · intro hl
    exact ⟨lists_cons.2 (.inr hl), h.behind hl⟩
  · intro hand
    obtain ⟨hl, hle⟩ := hand
    rcases lists_cons.1 hl with ⟨hc, _⟩ | hl
    · have := (contains_iff.1 hc).2
      rw [endLbaExclusive] at hle
      omega
    · exact hl

/-- The first range is as long as its class goes on. -/
theorem Normalized.not_lists_end (h : Normalized (range :: ranges)) :
    ¬Lists (range :: ranges) range.endLbaExclusive range.classification := by
  intro hl
  obtain ⟨r, hr, hc, hclass⟩ := h.lists_tail.2 ⟨hl, Nat.le_refl _⟩
  cases ranges with
  | nil => exact nomatch hr
  | cons second rest =>
    obtain ⟨hfollows, _⟩ := List.isChain_cons_cons.1 h.chain
    have hsecond := (List.pairwise_cons.1 h.tail.ordered).1
    have hpositive := h.positive second (List.mem_cons_of_mem _ List.mem_cons_self)
    have hle := (contains_iff.1 hc).1
    rcases List.mem_cons.1 hr with rfl | hr
    · exact hfollows.2 (Nat.le_antisymm hfollows.1 hle) hclass.symm
    · have hp := hsecond r hr
      have hf := hfollows.1
      rw [Precedes, endLbaExclusive] at hp
      omega

theorem Normalized.end_le {other : UnrecoveredSourceRange} {others : List UnrecoveredSourceRange}
    (h : Normalized (range :: ranges)) (hstart : range.startLba = other.startLba)
    (hclass : range.classification = other.classification)
    (hl : ∀ x c, Lists (other :: others) x c → Lists (range :: ranges) x c) :
    other.endLbaExclusive ≤ range.endLbaExclusive := by
  by_contra hlt
  apply h.not_lists_end
  apply hl
  refine lists_cons.2 (.inl ⟨contains_iff.2 ⟨?_, ?_⟩, hclass.symm⟩)
  · rw [endLbaExclusive]
    omega
  · rw [endLbaExclusive, endLbaExclusive] at hlt
    rw [endLbaExclusive]
    omega

/-- A normalized list is the only one of its map. -/
theorem Normalized.ext {others : List UnrecoveredSourceRange} (h : Normalized ranges)
    (h' : Normalized others) (hl : ∀ x c, Lists ranges x c ↔ Lists others x c) :
    ranges = others := by
  induction ranges generalizing others with
  | nil =>
    cases others with
    | nil => rfl
    | cons other others => exact absurd ((hl _ _).2 h'.lists_start) lists_nil
  | cons range ranges ih =>
    cases others with
    | nil => exact absurd ((hl _ _).1 h.lists_start) lists_nil
    | cons other others =>
      have hstart : range.startLba = other.startLba :=
        Nat.le_antisymm (h.start_le ((hl _ _).2 h'.lists_start))
          (h'.start_le ((hl _ _).1 h.lists_start))
      have hclass : range.classification = other.classification := by
        have hother := h'.lists_start
        rw [← hstart] at hother
        have hat := h'.class_iff.2 ((hl _ _).1 h.lists_start)
        exact Option.some.inj (hat.symm.trans (h'.class_iff.2 hother))
      have hend : range.endLbaExclusive = other.endLbaExclusive :=
        Nat.le_antisymm (h'.end_le hstart.symm hclass.symm fun x c => (hl x c).1)
          (h.end_le hstart hclass fun x c => (hl x c).2)
      have hhead : range = other := by
        rw [endLbaExclusive, endLbaExclusive, hstart] at hend
        cases range
        cases other
        simp only [mk.injEq] at *
        exact ⟨hstart, by omega, hclass⟩
      subst hhead
      congr 1
      refine ih h.tail h'.tail fun x c => ?_
      rw [h.lists_tail, h'.lists_tail, hl]

/-! ## Transitions -/

/-- The map that an observation leaves. -/
def observedMap (ranges : List UnrecoveredSourceRange) (lba : Nat) (outcome : RecoveryReadOutcome)
    (x : Nat) : Option SourceClassification :=
  if x = lba then outcome.classification else classificationAt ranges x

theorem Normalized.observed (hn : Normalized ranges)
    (h : dvdEvidenceRangesAfterRecoveryRead ranges lba outcome = .ok next) (x : Nat) :
    classificationAt next x = observedMap ranges lba outcome x := by
  apply Option.ext
  intro c
  rw [(hn.afterRecoveryRead h).class_iff, hn.lists_afterRecoveryRead h, observedMap]
  by_cases hx : x = lba
  · rw [if_pos hx]
    simp only [hx, ne_eq, not_true_eq_false, false_and, false_or, true_and]
  · rw [if_neg hx, hn.class_iff]
    simp only [hx, ne_eq, not_false_eq_true, true_and, false_and, or_false]

theorem Normalized.lists_congr {others : List UnrecoveredSourceRange} (h : Normalized ranges)
    (h' : Normalized others) (hl : ∀ x, classificationAt ranges x = classificationAt others x) :
    ranges = others := by
  refine h.ext h' fun x c => ?_
  rw [← h.class_iff, ← h'.class_iff, hl]

/-- A transition is accepted exactly to the one normalized list of the observed map. -/
theorem Normalized.transition_iff {current : List UnrecoveredSourceRange} (hn : Normalized ranges)
    (hlba : lba ∈ sectorLbas ranges) :
    assertDvdEvidenceRangeTransition ranges current lba outcome = .ok () ↔
      Normalized current ∧ ∀ x, classificationAt current x = observedMap ranges lba outcome x := by
  obtain ⟨next, hnext⟩ : ∃ next, dvdEvidenceRangesAfterRecoveryRead ranges lba outcome = .ok next :=
    afterRecoveryRead_ok.2 hlba
  rw [assertDvdEvidenceRangeTransition, bind_ok]
  constructor
  · intro h
    obtain ⟨expected, hexpected, he⟩ := h
    obtain rfl : expected = current := not_not.1 (rejectIf_ok.1 he)
    exact ⟨hn.afterRecoveryRead hexpected, hn.observed hexpected⟩
  · intro h
    refine ⟨next, hnext, rejectIf_ok.2 (not_not.2 ?_)⟩
    exact (hn.afterRecoveryRead hnext).lists_congr h.1 fun x =>
      (hn.observed hnext x).trans (h.2 x).symm

/-- One persisted recovery read. -/
def Transition (previous current : List UnrecoveredSourceRange) : Prop :=
  ∃ lba outcome, assertDvdEvidenceRangeTransition previous current lba outcome = .ok ()

/-- A map that lists no more sectors than another, and none as untested that it did not. -/
structure Shrinks (earlier later : List UnrecoveredSourceRange) : Prop where
  sectors : ∀ lba, (classificationAt later lba).isSome → (classificationAt earlier lba).isSome
  untested : ∀ lba, classificationAt later lba = some .skippedUntested →
    classificationAt earlier lba = some .skippedUntested

theorem Shrinks.trans (h : Shrinks a b) (h' : Shrinks b c) : Shrinks a c :=
  ⟨fun lba hc => h.sectors lba (h'.sectors lba hc), fun lba hc =>
    h.untested lba (h'.untested lba hc)⟩

theorem Normalized.transition (hn : Normalized ranges) (h : Transition ranges next) :
    Normalized next ∧ Shrinks ranges next := by
  obtain ⟨lba, outcome, hok⟩ := h
  obtain ⟨expected, hexpected, _⟩ := bind_ok.1 hok
  have hlba : lba ∈ sectorLbas ranges := afterRecoveryRead_ok.1 ⟨expected, hexpected⟩
  obtain ⟨hnext, hmap⟩ := (hn.transition_iff hlba).1 hok
  obtain ⟨r, hr, hc⟩ := mem_sectorLbas.1 hlba
  have hlisted := hn.class_iff.2 ⟨r, hr, hc, rfl⟩
  refine ⟨hnext, ⟨fun x hx => ?_, fun x hx => ?_⟩⟩
  · rw [hmap, observedMap] at hx
    by_cases he : x = lba
    · rw [he, hlisted]
      rfl
    · rwa [if_neg he] at hx
  · rw [hmap, observedMap] at hx
    by_cases he : x = lba
    · rw [if_pos he] at hx
      cases outcome with
      | recovered => exact nomatch hx
      | failed => exact nomatch hx
    · rwa [if_neg he] at hx

theorem Normalized.transitions (hn : Normalized ranges)
    (h : Relation.ReflTransGen Transition ranges next) : Normalized next ∧ Shrinks ranges next := by
  induction h with
  | refl => exact ⟨hn, ⟨fun _ h => h, fun _ h => h⟩⟩
  | tail _ hstep ih =>
    obtain ⟨hnormalized, hshrinks⟩ := ih.1.transition hstep
    exact ⟨hnormalized, ih.2.trans hshrinks⟩

/-- A recovery read changes the map at its sector alone, the checked transitions are those to the
one normalized list of the changed map, and from the untested map of a first revision on a map only
loses sectors, and none becomes untested again. -/
theorem recoveryRead_transition_exact :
    (∀ ranges lba outcome, Normalized ranges → (∃ range ∈ ranges, range.contains lba = true) →
      (∃ next, dvdEvidenceRangesAfterRecoveryRead ranges lba outcome = .ok next ∧
        Normalized next ∧
        ((∃ tuples, canonicalSourceRangesPayload none ranges = .ok tuples) →
          ∃ tuples, canonicalSourceRangesPayload none next = .ok tuples) ∧
        ∀ x, classificationAt next x = observedMap ranges lba outcome x) ∧
      ∀ current, assertDvdEvidenceRangeTransition ranges current lba outcome = .ok () ↔
        Normalized current ∧ ∀ x, classificationAt current x = observedMap ranges lba outcome x) ∧
    ∀ first earlier later, Normalized first →
      (∀ range ∈ first, range.classification = .skippedUntested) →
      Relation.ReflTransGen Transition first earlier →
      Relation.ReflTransGen Transition earlier later → Normalized later ∧
        Shrinks earlier later := by
  constructor
  · intro ranges lba outcome hn hlba
    have hmem := mem_sectorLbas.2 hlba
    obtain ⟨next, hnext⟩ : ∃ next, dvdEvidenceRangesAfterRecoveryRead ranges lba outcome =
        .ok next := afterRecoveryRead_ok.2 hmem
    refine ⟨⟨next, hnext, hn.afterRecoveryRead hnext, fun hpayload => ?_, hn.observed hnext⟩,
      fun current => hn.transition_iff hmem⟩
    have hcanonical := (canonicalSourceRangesPayload_iff.1 hpayload).1
    exact canonicalSourceRangesPayload_iff.2 ⟨(hcanonical.afterRecoveryRead hnext).1, nofun⟩
  · intro first earlier later hn _ hearlier hlater
    exact (hn.transitions hearlier).1.transitions hlater

theorem middleSector_transition : ∃ next, dvdEvidenceRangesAfterRecoveryRead
    [⟨10, 3, .skippedUntested⟩] 11 .failed = .ok next ∧ Normalized next ∧
    classificationAt next 11 = some .individuallyFailed := by
  obtain ⟨⟨next, hnext, hn, _, hmap⟩, _⟩ := recoveryRead_transition_exact.1
    [⟨10, 3, .skippedUntested⟩] 11 .failed ⟨by decide, .singleton _⟩
    ⟨_, List.mem_singleton_self _, by decide⟩
  exact ⟨next, hnext, hn, hmap 11⟩

end RipDvd
