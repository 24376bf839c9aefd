import Mathlib.Data.List.Basic
import Mathlib.Data.List.Nodup
import Mathlib.Logic.Equiv.Basic

namespace RipDvd
set_option autoImplicit true

structure DvdTitleIdentityContinuityEvidence where
  displayTitleNumber : Nat
  contentDigest : String
  deriving DecidableEq

inductive DvdTitleIdentityContinuityResult where
  | proved
  | uncertain
  | new
  | initial
  deriving DecidableEq

structure DvdTitleIdentityContinuityPlan where
  previousIndex : Option Nat
  result : DvdTitleIdentityContinuityResult
  deriving DecidableEq

/-- The indexes, in order, of the entries that a test accepts. -/
def indexesWhere (test : Nat → α → Bool) (entries : List α) : List Nat :=
  (List.range entries.length).filter fun index => entries[index]?.any (test index)

/-- The predecessor of an observation whose content occurs once on each side. -/
def exactMatch (current previous : List DvdTitleIdentityContinuityEvidence)
    (observation : DvdTitleIdentityContinuityEvidence) : Option Nat :=
  let currentIndexes :=
    indexesWhere (fun _ other => other.contentDigest = observation.contentDigest) current
  let candidates :=
    indexesWhere (fun _ other => other.contentDigest = observation.contentDigest) previous
  match candidates with
  | [candidate] => if currentIndexes.length = 1 then some candidate else none
  | _ => none

def usedPreviousIndexes (current previous : List DvdTitleIdentityContinuityEvidence) : List Nat :=
  current.filterMap (exactMatch current previous)

/-- The unmatched observations with a display number. -/
def currentIndexesByDisplayNumber (current previous : List DvdTitleIdentityContinuityEvidence)
    (displayTitleNumber : Nat) : List Nat :=
  indexesWhere (fun _ observation => exactMatch current previous observation = none &&
    observation.displayTitleNumber = displayTitleNumber) current

def previousIndexesByDisplayNumber (current previous : List DvdTitleIdentityContinuityEvidence)
    (displayTitleNumber : Nat) : List Nat :=
  indexesWhere (fun index observation => index ∉ usedPreviousIndexes current previous &&
    observation.displayTitleNumber = displayTitleNumber) previous

/-- The pairs that only their display number makes one of. -/
def uncertainMatches (current previous : List DvdTitleIdentityContinuityEvidence) :
    List (Nat × Nat) :=
  (current.map (·.displayTitleNumber)).eraseDups.filterMap fun displayTitleNumber =>
    match currentIndexesByDisplayNumber current previous displayTitleNumber,
      previousIndexesByDisplayNumber current previous displayTitleNumber with
    | [index], [candidate] => some (index, candidate)
    | _, _ => none

def planDvdTitleIdentityContinuity (current previous : List DvdTitleIdentityContinuityEvidence)
    (hasPreviousCheckpoint : Bool) : List DvdTitleIdentityContinuityPlan :=
  current.mapIdx fun index observation =>
    match exactMatch current previous observation with
    | some previousIndex => { previousIndex, result := .proved }
    | none =>
      match (uncertainMatches current previous).find? (·.1 = index) with
      | some pair => { previousIndex := some pair.2, result := .uncertain }
      | none => {
        previousIndex := none
        result := if hasPreviousCheckpoint then .new else .initial }

/-- An index is the only one with a property. -/
def OnlyAt (P : Nat → Prop) (i : Nat) : Prop := ∀ j, P j ↔ j = i

theorem OnlyAt.unique {P : Nat → Prop} (h : OnlyAt P i) (h' : OnlyAt P j) : i = j :=
  (h' i).1 ((h i).2 rfl)

theorem OnlyAt.congr {P Q : Nat → Prop} (h : ∀ j, P j ↔ Q j) : OnlyAt P i ↔ OnlyAt Q i :=
  forall_congr' fun j => by rw [h]

/-- A property that is carried along a renaming of the indexes. -/
theorem OnlyAt.rename {P Q : Nat → Prop} (σ : Equiv.Perm Nat) (h : ∀ j, Q j ↔ P (σ j)) :
    OnlyAt Q i ↔ OnlyAt P (σ i) := by
  constructor
  · intro hq j
    have hj := hq (σ.symm j)
    rw [h, σ.apply_symm_apply] at hj
    rw [hj, σ.symm_apply_eq]
  · intro hp j
    rw [h, hp, σ.apply_eq_iff_eq]

theorem mem_indexesWhere {test : Nat → α → Bool} {entries : List α} :
    i ∈ indexesWhere test entries ↔ ∃ entry, entries[i]? = some entry ∧ test i entry = true := by
  simp only [indexesWhere, List.mem_filter, List.mem_range]
  cases h : entries[i]? with
  | none => simp
  | some entry =>
    have hlt := (List.getElem?_eq_some_iff.1 h).1
    simp [hlt]

theorem indexesWhere_singleton {test : Nat → α → Bool} {entries : List α} :
    indexesWhere test entries = [i] ↔
      OnlyAt (fun j => ∃ entry, entries[j]? = some entry ∧ test j entry = true) i := by
  have hnodup : (indexesWhere test entries).Nodup := List.nodup_range.filter _
  constructor
  · intro h j
    refine mem_indexesWhere.symm.trans ?_
    rw [h, List.mem_singleton]
  · intro h
    have hmem : ∀ j, j ∈ indexesWhere test entries ↔ j = i := fun j => mem_indexesWhere.trans (h j)
    cases hall : indexesWhere test entries with
    | nil =>
      have hin := (hmem i).2 rfl
      rw [hall] at hin
      cases hin
    | cons first rest =>
      rw [hall] at hmem hnodup
      have hfirst := (hmem first).1 List.mem_cons_self
      subst hfirst
      cases rest with
      | nil => rfl
      | cons second rest =>
        have hsecond := (hmem second).1 (List.mem_cons_of_mem _ List.mem_cons_self)
        rw [hsecond] at hnodup
        exact absurd List.mem_cons_self (List.nodup_cons.1 hnodup).1

variable {current previous current' previous' : List DvdTitleIdentityContinuityEvidence}
  {observation : DvdTitleIdentityContinuityEvidence}

/-- A list has content at an index. -/
def HasDigest (entries : List DvdTitleIdentityContinuityEvidence) (digest : String) (i : Nat) :
    Prop :=
  ∃ entry, entries[i]? = some entry ∧ entry.contentDigest = digest

/-- The content of two entries occurs nowhere else in their lists. -/
def ProvedPair (current previous : List DvdTitleIdentityContinuityEvidence) (i p : Nat) : Prop :=
  ∃ digest, OnlyAt (HasDigest current digest) i ∧ OnlyAt (HasDigest previous digest) p

/-- An entry with a display number that is in no proved pair. -/
def UnprovedCurrent (current previous : List DvdTitleIdentityContinuityEvidence)
    (displayTitleNumber i : Nat) : Prop :=
  (∃ entry, current[i]? = some entry ∧ entry.displayTitleNumber = displayTitleNumber) ∧
    ∀ p, ¬ProvedPair current previous i p

def UnprovedPrevious (current previous : List DvdTitleIdentityContinuityEvidence)
    (displayTitleNumber p : Nat) : Prop :=
  (∃ entry, previous[p]? = some entry ∧ entry.displayTitleNumber = displayTitleNumber) ∧
    ∀ i, ¬ProvedPair current previous i p

/-- Two entries share a display number that no other unproved entry of their lists has. -/
def UncertainPair (current previous : List DvdTitleIdentityContinuityEvidence) (i p : Nat) : Prop :=
  ∃ displayTitleNumber, OnlyAt (UnprovedCurrent current previous displayTitleNumber) i ∧
    OnlyAt (UnprovedPrevious current previous displayTitleNumber) p

theorem length_eq_one_iff {indexes : List Nat} (h : i ∈ indexes) :
    indexes.length = 1 ↔ indexes = [i] := by
  rw [List.length_eq_one_iff]
  constructor
  · intro hone
    obtain ⟨only, rfl⟩ := hone
    rw [List.mem_singleton.1 h]
  · exact fun hone => ⟨i, hone⟩

/-- An observation is matched with the only previous one of its content, if it is the only one. -/
theorem exactMatch_some (h : current[i]? = some observation) :
    exactMatch current previous observation = some p ↔ ProvedPair current previous i p := by
  have hown : HasDigest current observation.contentDigest i := ⟨observation, h, rfl⟩
  have hcurrent : OnlyAt (HasDigest current observation.contentDigest) i ↔
      (indexesWhere (fun _ other => decide (other.contentDigest = observation.contentDigest))
        current).length = 1 := by
    rw [length_eq_one_iff (mem_indexesWhere.2 ⟨observation, h, decide_eq_true rfl⟩),
      indexesWhere_singleton]
    apply OnlyAt.congr
    intro j
    simp only [HasDigest, decide_eq_true_eq]
  have hprevious : ∀ q, OnlyAt (HasDigest previous observation.contentDigest) q ↔
      indexesWhere (fun _ other => decide (other.contentDigest = observation.contentDigest))
        previous = [q] := by
    intro q
    rw [indexesWhere_singleton]
    apply OnlyAt.congr
    intro j
    simp only [HasDigest, decide_eq_true_eq]
  rw [exactMatch]
  constructor
  · intro hmatch
    split at hmatch
    next candidate hcandidate =>
      split at hmatch
      next hone =>
        cases hmatch
        exact ⟨_, hcurrent.2 hone, (hprevious p).2 hcandidate⟩
      next => cases hmatch
    next => cases hmatch
  · intro hpair
    obtain ⟨digest, hi, hp⟩ := hpair
    have hdigest : observation.contentDigest = digest := by
      obtain ⟨entry, hentry, hsame⟩ := (hi i).2 rfl
      rw [h] at hentry
      cases hentry
      exact hsame
    subst hdigest
    rw [(hprevious p).1 hp]
    exact if_pos (hcurrent.1 hi)

theorem exactMatch_none (h : current[i]? = some observation) :
    exactMatch current previous observation = none ↔ ∀ p, ¬ProvedPair current previous i p := by
  rw [Option.eq_none_iff_forall_ne_some]
  exact forall_congr' fun p => not_congr (exactMatch_some h)

theorem ProvedPair.observed (h : ProvedPair current previous i p) :
    ∃ observation, current[i]? = some observation := by
  obtain ⟨digest, hi, -⟩ := h
  obtain ⟨observation, hobservation, -⟩ := (hi i).2 rfl
  exact ⟨observation, hobservation⟩

theorem mem_usedPreviousIndexes :
    p ∈ usedPreviousIndexes current previous ↔ ∃ i, ProvedPair current previous i p := by
  rw [usedPreviousIndexes, List.mem_filterMap]
  constructor
  · intro h
    obtain ⟨observation, hmem, hmatch⟩ := h
    obtain ⟨i, hi⟩ := List.getElem?_of_mem hmem
    exact ⟨i, (exactMatch_some hi).1 hmatch⟩
  · intro h
    obtain ⟨i, hpair⟩ := h
    obtain ⟨observation, hi⟩ := hpair.observed
    exact ⟨observation, List.mem_of_getElem? hi, (exactMatch_some hi).2 hpair⟩

theorem currentIndexesByDisplayNumber_singleton {number : Nat} :
    currentIndexesByDisplayNumber current previous number = [i] ↔
      OnlyAt (UnprovedCurrent current previous number) i := by
  rw [currentIndexesByDisplayNumber, indexesWhere_singleton]
  apply OnlyAt.congr
  intro j
  simp only [UnprovedCurrent, Bool.and_eq_true, decide_eq_true_eq]
  constructor
  · intro h
    obtain ⟨entry, hentry, hnone, hnumber⟩ := h
    exact ⟨⟨entry, hentry, hnumber⟩, (exactMatch_none hentry).1 hnone⟩
  · intro h
    obtain ⟨⟨entry, hentry, hnumber⟩, hfree⟩ := h
    exact ⟨entry, hentry, (exactMatch_none hentry).2 hfree, hnumber⟩

theorem previousIndexesByDisplayNumber_singleton {number : Nat} :
    previousIndexesByDisplayNumber current previous number = [p] ↔
      OnlyAt (UnprovedPrevious current previous number) p := by
  rw [previousIndexesByDisplayNumber, indexesWhere_singleton]
  apply OnlyAt.congr
  intro j
  simp only [UnprovedPrevious, Bool.and_eq_true, decide_eq_true_eq, mem_usedPreviousIndexes,
    not_exists]
  constructor
  · intro h
    obtain ⟨entry, hentry, hfree, hnumber⟩ := h
    exact ⟨⟨entry, hentry, hnumber⟩, hfree⟩
  · intro h
    obtain ⟨⟨entry, hentry, hnumber⟩, hfree⟩ := h
    exact ⟨entry, hentry, hfree, hnumber⟩

theorem mem_uncertainMatches :
    (i, p) ∈ uncertainMatches current previous ↔ UncertainPair current previous i p := by
  rw [uncertainMatches, List.mem_filterMap]
  constructor
  · intro h
    obtain ⟨number, -, hmatch⟩ := h
    split at hmatch
    next index candidate hcurrent hprevious =>
      cases hmatch
      exact ⟨number, currentIndexesByDisplayNumber_singleton.1 hcurrent,
        previousIndexesByDisplayNumber_singleton.1 hprevious⟩
    next => cases hmatch
  · intro h
    obtain ⟨number, hcurrent, hprevious⟩ := h
    obtain ⟨⟨entry, hentry, hnumber⟩, -⟩ := (hcurrent i).2 rfl
    have hkey : number ∈ (current.map (·.displayTitleNumber)).eraseDups := by
      rw [List.mem_eraseDups, ← hnumber]
      exact List.mem_map_of_mem (List.mem_of_getElem? hentry)
    refine ⟨number, hkey, ?_⟩
    rw [currentIndexesByDisplayNumber_singleton.2 hcurrent,
      previousIndexesByDisplayNumber_singleton.2 hprevious]

theorem UncertainPair.unique (h : UncertainPair current previous i p)
    (h' : UncertainPair current previous i q) : p = q := by
  obtain ⟨number, hcurrent, hprevious⟩ := h
  obtain ⟨number', hcurrent', hprevious'⟩ := h'
  obtain ⟨⟨entry, hentry, rfl⟩, -⟩ := (hcurrent i).2 rfl
  obtain ⟨⟨entry', hentry', rfl⟩, -⟩ := (hcurrent' i).2 rfl
  rw [hentry] at hentry'
  cases hentry'
  exact hprevious.unique hprevious'

theorem ProvedPair.injective (h : ProvedPair current previous i p)
    (h' : ProvedPair current previous j p) : i = j := by
  obtain ⟨digest, hcurrent, hprevious⟩ := h
  obtain ⟨digest', hcurrent', hprevious'⟩ := h'
  obtain ⟨entry, hentry, rfl⟩ := (hprevious p).2 rfl
  obtain ⟨entry', hentry', rfl⟩ := (hprevious' p).2 rfl
  rw [hentry] at hentry'
  cases hentry'
  exact hcurrent.unique hcurrent'

theorem UncertainPair.injective (h : UncertainPair current previous i p)
    (h' : UncertainPair current previous j p) : i = j := by
  obtain ⟨number, hcurrent, hprevious⟩ := h
  obtain ⟨number', hcurrent', hprevious'⟩ := h'
  obtain ⟨⟨entry, hentry, rfl⟩, -⟩ := (hprevious p).2 rfl
  obtain ⟨⟨entry', hentry', rfl⟩, -⟩ := (hprevious' p).2 rfl
  rw [hentry] at hentry'
  cases hentry'
  exact hcurrent.unique hcurrent'

theorem UncertainPair.current_free (h : UncertainPair current previous i p) :
    ∀ q, ¬ProvedPair current previous i q := by
  obtain ⟨number, hcurrent, -⟩ := h
  exact ((hcurrent i).2 rfl).2

theorem UncertainPair.previous_free (h : UncertainPair current previous i p) :
    ∀ j, ¬ProvedPair current previous j p := by
  obtain ⟨number, -, hprevious⟩ := h
  exact ((hprevious p).2 rfl).2

theorem find_uncertainMatches :
    ((uncertainMatches current previous).find? (·.1 = i)).map (·.2) = some p ↔
      UncertainPair current previous i p := by
  have hfound : ∀ pair, (uncertainMatches current previous).find? (·.1 = i) = some pair →
      UncertainPair current previous i pair.2 := by
    intro pair hpair
    have hfirst := List.find?_some hpair
    have hmem := List.mem_of_find?_eq_some hpair
    rw [decide_eq_true_eq] at hfirst
    subst hfirst
    exact mem_uncertainMatches.1 hmem
  constructor
  · intro h
    obtain ⟨pair, hpair, rfl⟩ := Option.map_eq_some_iff.1 h
    exact hfound pair hpair
  · intro h
    cases hfind : (uncertainMatches current previous).find? (·.1 = i) with
    | none =>
      have hmem := mem_uncertainMatches.2 h
      have hnot := List.find?_eq_none.1 hfind _ hmem
      exact absurd (decide_eq_true rfl) hnot
    | some pair => exact congrArg some ((hfound pair hfind).unique h)

variable {hasPreviousCheckpoint : Bool}

theorem planDvdTitleIdentityContinuity_length :
    (planDvdTitleIdentityContinuity current previous hasPreviousCheckpoint).length =
      current.length :=
  List.length_mapIdx

theorem plan_none {i : Nat} :
    (planDvdTitleIdentityContinuity current previous hasPreviousCheckpoint)[i]? = none ↔
      current[i]? = none := by
  rw [List.getElem?_eq_none_iff, planDvdTitleIdentityContinuity_length, List.getElem?_eq_none_iff]

theorem plan_proved (h : ProvedPair current previous i p) :
    (planDvdTitleIdentityContinuity current previous hasPreviousCheckpoint)[i]? =
      some { previousIndex := some p, result := .proved } := by
  obtain ⟨observation, hi⟩ := h.observed
  rw [planDvdTitleIdentityContinuity, List.getElem?_mapIdx, hi, Option.map_some,
    (exactMatch_some hi).2 h]

theorem plan_uncertain (h : UncertainPair current previous i p) :
    (planDvdTitleIdentityContinuity current previous hasPreviousCheckpoint)[i]? =
      some { previousIndex := some p, result := .uncertain } := by
  have hfree := h.current_free
  have hfind := find_uncertainMatches.2 h
  obtain ⟨pair, hpair, rfl⟩ := Option.map_eq_some_iff.1 hfind
  obtain ⟨number, hcurrent, -⟩ := h
  obtain ⟨⟨observation, hi, -⟩, -⟩ := (hcurrent i).2 rfl
  rw [planDvdTitleIdentityContinuity, List.getElem?_mapIdx, hi, Option.map_some,
    (exactMatch_none hi).2 hfree]
  simp only [hpair]

theorem plan_unmatched (h : current[i]? = some observation)
    (hproved : ∀ p, ¬ProvedPair current previous i p)
    (huncertain : ∀ p, ¬UncertainPair current previous i p) :
    (planDvdTitleIdentityContinuity current previous hasPreviousCheckpoint)[i]? =
      some {
        previousIndex := none
        result := if hasPreviousCheckpoint then .new else .initial } := by
  have hfind : (uncertainMatches current previous).find? (·.1 = i) = none := by
    cases hfind : (uncertainMatches current previous).find? (·.1 = i) with
    | none => rfl
    | some pair =>
      have hpair : UncertainPair current previous i pair.2 := by
        rw [← find_uncertainMatches, hfind, Option.map_some]
      exact absurd hpair (huncertain pair.2)
  rw [planDvdTitleIdentityContinuity, List.getElem?_mapIdx, h, Option.map_some,
    (exactMatch_none h).2 hproved]
  simp only [hfind]

/-- An entry of the plan is proved, uncertain or without a predecessor. -/
theorem plan_cases {entry : DvdTitleIdentityContinuityPlan}
    (h : (planDvdTitleIdentityContinuity current previous hasPreviousCheckpoint)[i]? =
      some entry) :
    (∃ p, ProvedPair current previous i p ∧
      entry = { previousIndex := some p, result := .proved }) ∨
    (∃ p, UncertainPair current previous i p ∧
      entry = { previousIndex := some p, result := .uncertain }) ∨
    entry = {
      previousIndex := none
      result := if hasPreviousCheckpoint then .new else .initial } := by
  by_cases hproved : ∃ p, ProvedPair current previous i p
  · obtain ⟨p, hpair⟩ := hproved
    rw [plan_proved hpair] at h
    exact .inl ⟨p, hpair, (Option.some.inj h).symm⟩
  by_cases huncertain : ∃ p, UncertainPair current previous i p
  · obtain ⟨p, hpair⟩ := huncertain
    rw [plan_uncertain hpair] at h
    exact .inr (.inl ⟨p, hpair, (Option.some.inj h).symm⟩)
  · cases hi : current[i]? with
    | none =>
      rw [plan_none.2 hi] at h
      cases h
    | some observation =>
      rw [plan_unmatched hi (not_exists.1 hproved) (not_exists.1 huncertain)] at h
      exact .inr (.inr (Option.some.inj h).symm)

theorem plan_proved_iff :
    (planDvdTitleIdentityContinuity current previous hasPreviousCheckpoint)[i]? =
      some { previousIndex := some p, result := .proved } ↔ ProvedPair current previous i p := by
  constructor
  · intro h
    obtain ⟨q, hpair, heq⟩ | ⟨q, -, heq⟩ | heq := plan_cases h
    · cases heq
      exact hpair
    · cases heq
    · cases heq
  · exact plan_proved

theorem plan_uncertain_iff :
    (planDvdTitleIdentityContinuity current previous hasPreviousCheckpoint)[i]? =
      some { previousIndex := some p, result := .uncertain } ↔
        UncertainPair current previous i p := by
  constructor
  · intro h
    obtain ⟨q, -, heq⟩ | ⟨q, hpair, heq⟩ | heq := plan_cases h
    · cases heq
    · cases heq
      exact hpair
    · cases heq
  · exact plan_uncertain

/-- The plan gives an observation a previous index. -/
def Predecessor (plan : List DvdTitleIdentityContinuityPlan) (i p : Nat) : Prop :=
  ∃ entry, plan[i]? = some entry ∧ entry.previousIndex = some p

theorem predecessor_pair
    (h : Predecessor (planDvdTitleIdentityContinuity current previous hasPreviousCheckpoint) i p) :
    ProvedPair current previous i p ∨ UncertainPair current previous i p := by
  obtain ⟨entry, hentry, hindex⟩ := h
  obtain ⟨q, hpair, rfl⟩ | ⟨q, hpair, rfl⟩ | rfl := plan_cases hentry
  · cases hindex
    exact .inl hpair
  · cases hindex
    exact .inr hpair
  · cases hindex

theorem predecessor_injective
    (h : Predecessor (planDvdTitleIdentityContinuity current previous hasPreviousCheckpoint) i p)
    (h' : Predecessor (planDvdTitleIdentityContinuity current previous hasPreviousCheckpoint) j p) :
    i = j := by
  cases predecessor_pair h with
  | inl hproved =>
    cases predecessor_pair h' with
    | inl hproved' => exact hproved.injective hproved'
    | inr huncertain' => exact absurd hproved (huncertain'.previous_free i)
  | inr huncertain =>
    cases predecessor_pair h' with
    | inl hproved' => exact absurd hproved' (huncertain.previous_free j)
    | inr huncertain' => exact huncertain.injective huncertain'

/-- One list is another with its entries moved. -/
def Reorders (σ : Equiv.Perm Nat) (moved entries : List α) : Prop :=
  ∀ i : Nat, moved[i]? = entries[σ i]?

section Reordering

variable {σ τ : Equiv.Perm Nat}

theorem hasDigest_reordered {digest : String} (h : Reorders σ current' current) :
    HasDigest current' digest j ↔ HasDigest current digest (σ j) := by
  rw [HasDigest, h j, HasDigest]

theorem provedPair_reordered (hcurrent : Reorders σ current' current)
    (hprevious : Reorders τ previous' previous) :
    ProvedPair current' previous' i p ↔ ProvedPair current previous (σ i) (τ p) := by
  apply exists_congr
  intro digest
  rw [OnlyAt.rename σ fun j => hasDigest_reordered hcurrent,
    OnlyAt.rename τ fun j => hasDigest_reordered hprevious]

theorem unprovedCurrent_reordered {number : Nat} (hcurrent : Reorders σ current' current)
    (hprevious : Reorders τ previous' previous) :
    UnprovedCurrent current' previous' number j ↔
      UnprovedCurrent current previous number (σ j) := by
  rw [UnprovedCurrent, UnprovedCurrent, hcurrent j]
  apply and_congr_right'
  exact τ.forall_congr fun p => not_congr (provedPair_reordered hcurrent hprevious)

theorem unprovedPrevious_reordered {number : Nat} (hcurrent : Reorders σ current' current)
    (hprevious : Reorders τ previous' previous) :
    UnprovedPrevious current' previous' number j ↔
      UnprovedPrevious current previous number (τ j) := by
  rw [UnprovedPrevious, UnprovedPrevious, hprevious j]
  apply and_congr_right'
  exact σ.forall_congr fun i => not_congr (provedPair_reordered hcurrent hprevious)

theorem uncertainPair_reordered (hcurrent : Reorders σ current' current)
    (hprevious : Reorders τ previous' previous) :
    UncertainPair current' previous' i p ↔ UncertainPair current previous (σ i) (τ p) := by
  apply exists_congr
  intro number
  rw [OnlyAt.rename σ fun j => unprovedCurrent_reordered hcurrent hprevious,
    OnlyAt.rename τ fun j => unprovedPrevious_reordered hcurrent hprevious]

/-- An entry whose previous index is moved. -/
def DvdTitleIdentityContinuityPlan.moved (τ : Equiv.Perm Nat)
    (entry : DvdTitleIdentityContinuityPlan) : DvdTitleIdentityContinuityPlan :=
  { entry with previousIndex := entry.previousIndex.map τ.symm }

theorem plan_reordered (hcurrent : Reorders σ current' current)
    (hprevious : Reorders τ previous' previous) :
    (planDvdTitleIdentityContinuity current' previous' hasPreviousCheckpoint)[i]? =
      ((planDvdTitleIdentityContinuity current previous hasPreviousCheckpoint)[σ i]?).map
        (·.moved τ) := by
  by_cases hproved : ∃ p, ProvedPair current previous (σ i) p
  · obtain ⟨p, hpair⟩ := hproved
    have hpair' : ProvedPair current' previous' i (τ.symm p) := by
      rw [provedPair_reordered hcurrent hprevious, τ.apply_symm_apply]
      exact hpair
    rw [plan_proved hpair, plan_proved hpair']
    rfl
  by_cases huncertain : ∃ p, UncertainPair current previous (σ i) p
  · obtain ⟨p, hpair⟩ := huncertain
    have hpair' : UncertainPair current' previous' i (τ.symm p) := by
      rw [uncertainPair_reordered hcurrent hprevious, τ.apply_symm_apply]
      exact hpair
    rw [plan_uncertain hpair, plan_uncertain hpair']
    rfl
  have hproved' : ∀ p, ¬ProvedPair current' previous' i p := by
    intro p hpair
    exact hproved ⟨τ p, (provedPair_reordered hcurrent hprevious).1 hpair⟩
  have huncertain' : ∀ p, ¬UncertainPair current' previous' i p := by
    intro p hpair
    exact huncertain ⟨τ p, (uncertainPair_reordered hcurrent hprevious).1 hpair⟩
  cases hi : current[σ i]? with
  | none =>
    have hi' := (hcurrent i).trans hi
    rw [plan_none.2 hi, plan_none.2 hi']
    rfl
  | some observation =>
    have hi' := (hcurrent i).trans hi
    rw [plan_unmatched hi (not_exists.1 hproved) (not_exists.1 huncertain),
      plan_unmatched hi' hproved' huncertain']
    rfl

end Reordering

theorem hasDigest_onlyAt (hnodup : (current.map (·.contentDigest)).Nodup)
    (h : current[i]? = some observation) :
    OnlyAt (HasDigest current observation.contentDigest) i := by
  intro j
  constructor
  · intro hj
    obtain ⟨entry, hentry, hsame⟩ := hj
    obtain ⟨hi, rfl⟩ := List.getElem?_eq_some_iff.1 h
    obtain ⟨hj, rfl⟩ := List.getElem?_eq_some_iff.1 hentry
    rw [← List.length_map (·.contentDigest)] at hi hj
    have hdigests : (current.map (·.contentDigest))[j] = (current.map (·.contentDigest))[i] := by
      rw [List.getElem_map, List.getElem_map, hsame]
    exact hnodup.getElem_inj_iff.1 hdigests
  · intro hj
    subst hj
    exact ⟨observation, h, rfl⟩

/-- What a continuity plan is: a stable partial matching of the observations. -/
structure TitleIdentityContinuity (current previous : List DvdTitleIdentityContinuityEvidence)
    (hasPreviousCheckpoint : Bool) (plan : List DvdTitleIdentityContinuityPlan) : Prop where
  complete : plan.length = current.length
  injective : ∀ i j p, Predecessor plan i p → Predecessor plan j p → i = j
  proved : ∀ i p, plan[i]? = some { previousIndex := some p, result := .proved } ↔
    ProvedPair current previous i p
  uncertain : ∀ i p, plan[i]? = some { previousIndex := some p, result := .uncertain } ↔
    UncertainPair current previous i p
  unmatched : ∀ i, i < current.length → (∀ p, ¬ProvedPair current previous i p) →
    (∀ p, ¬UncertainPair current previous i p) → plan[i]? =
      some { previousIndex := none, result := if hasPreviousCheckpoint then .new else .initial }
  reordered : ∀ (σ τ : Equiv.Perm Nat) current' previous', Reorders σ current' current →
    Reorders τ previous' previous → ∀ i,
      (planDvdTitleIdentityContinuity current' previous' hasPreviousCheckpoint)[i]? =
        (plan[σ i]?).map (·.moved τ)
  itself : current = previous → (current.map (·.contentDigest)).Nodup → ∀ i, i < current.length →
    plan[i]? = some { previousIndex := some i, result := .proved }

/-- The plan of two lists is a stable partial matching of them. -/
theorem titleIdentityContinuity (current previous : List DvdTitleIdentityContinuityEvidence)
    (hasPreviousCheckpoint : Bool) :
    TitleIdentityContinuity current previous hasPreviousCheckpoint
      (planDvdTitleIdentityContinuity current previous hasPreviousCheckpoint) where
  complete := planDvdTitleIdentityContinuity_length
  injective := fun i j p h h' => predecessor_injective h h'
  proved := fun i p => plan_proved_iff
  uncertain := fun i p => plan_uncertain_iff
  unmatched := by
    intro i hlt hproved huncertain
    exact plan_unmatched (List.getElem?_eq_getElem hlt) hproved huncertain
  reordered := fun σ τ current' previous' hcurrent hprevious i => plan_reordered hcurrent hprevious
  itself := by
    intro hsame hnodup i hlt
    subst hsame
    have honly := hasDigest_onlyAt hnodup (List.getElem?_eq_getElem hlt)
    exact plan_proved ⟨_, honly, honly⟩

end RipDvd
