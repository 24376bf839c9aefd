import Mathlib.Data.List.Sort
import Mathlib.Tactic.Common

namespace RipDvd
set_option autoImplicit true

namespace Borders

variable {pattern consumed rest : List α} {x : α}

/-- A pattern is found at a position of a text. -/
def Occurs (pattern text : List α) (position : Nat) : Prop := pattern <+: text.drop position

instance [DecidableEq α] (pattern text : List α) (position : Nat) :
    Decidable (Occurs pattern text position) :=
  inferInstanceAs (Decidable (pattern <+: text.drop position))

/-- The positions of a pattern in a text, in ascending order. -/
def occurrences [DecidableEq α] (pattern text : List α) : List Nat :=
  (List.range (text.length + 1)).filter fun position => Occurs pattern text position

/-- The longest beginning of a pattern, up to a limit, that a text ends with. -/
structure Longest (pattern : List α) (limit : Nat) (text : List α) (k : Nat) : Prop where
  le : k ≤ limit
  suffix : pattern.take k <:+ text
  longest : ∀ m ≤ limit, pattern.take m <:+ text → m ≤ k

/-- For each beginning of a pattern, up to a length, the longest shorter one that it ends with. -/
def TableOf (pattern : List α) (count : Nat) (table : List Nat) : Prop :=
  ∀ q < count, ∃ k, table[q]? = some k ∧ Longest pattern q (pattern.take (q + 1)) k

theorem take_succ_suffix (hm : pattern[m]? = some y) :
    pattern.take (m + 1) <:+ consumed ++ [x] ↔ pattern.take m <:+ consumed ∧ y = x := by
  rw [List.take_add_one, hm, Option.toList_some]
  constructor
  · rintro ⟨before, hbefore⟩
    rw [← List.append_assoc] at hbefore
    obtain ⟨hbefore, heq⟩ := List.append_inj' hbefore rfl
    exact ⟨⟨before, hbefore⟩, List.singleton_inj.1 heq⟩
  · rintro ⟨⟨before, hbefore⟩, rfl⟩
    refine ⟨before, ?_⟩
    rw [← List.append_assoc, hbefore]

theorem Longest.nil (pattern : List α) (limit : Nat) (hlimit : limit < pattern.length) :
    Longest pattern limit [] 0 where
  le := Nat.zero_le _
  suffix := List.nil_suffix
  longest m hm hsuffix := by
    have hlength := hsuffix.length_le
    rw [List.length_take, List.length_nil] at hlength
    omega

/-- What is longest for a pattern is longest for a text that ends with it. -/
theorem Longest.extend (h : Longest pattern limit pattern k)
    (hsuffix : pattern <:+ consumed) : Longest pattern limit consumed k where
  le := h.le
  suffix := h.suffix.trans hsuffix
  longest := by
    intro m hm htake
    apply h.longest m hm
    apply List.suffix_of_suffix_length_le htake hsuffix
    rw [List.length_take]
    exact Nat.min_le_right _ _

/-- What a search for the longest beginning knows while it falls back. -/
structure Candidate (pattern : List α) (limit : Nat) (consumed : List α) (x : α) (k : Nat) :
    Prop where
  le : k ≤ limit
  suffix : pattern.take k <:+ consumed
  bound : ∀ m ≤ limit, pattern[m]? = some x → pattern.take m <:+ consumed → m ≤ k

theorem Longest.candidate (h : Longest pattern limit consumed k) (x : α) :
    Candidate pattern limit consumed x k where
  le := h.le
  suffix := h.suffix
  bound m hm _ hsuffix := h.longest m hm hsuffix

/-- A candidate that does not go on falls back to its longest border. -/
theorem Candidate.fallBack (h : Candidate pattern limit consumed x (k + 1))
    (hlimit : limit < pattern.length) (hne : pattern[k + 1]? ≠ some x)
    (hborder : Longest pattern k (pattern.take (k + 1)) border) :
    Candidate pattern limit consumed x border := by
  constructor
  case le => exact hborder.le.trans ((Nat.le_succ k).trans h.le)
  case suffix => exact hborder.suffix.trans h.suffix
  case bound =>
    intro m hm hx hsuffix
    have hle := h.bound m hm hx hsuffix
    have hlt : m ≤ k := by
      apply Nat.le_of_lt_succ
      apply lt_of_le_of_ne hle
      rintro rfl
      exact hne hx
    apply hborder.longest m hlt
    apply List.suffix_of_suffix_length_le hsuffix h.suffix
    simp only [List.length_take]
    omega

/-- A longer beginning goes on with the next element. -/
theorem bound_succ (hlimit : limit < pattern.length)
    (hbound : ∀ m ≤ limit, pattern[m]? = some x → pattern.take m <:+ consumed → m < k)
    (m : Nat) (hm : m ≤ limit + 1) (hsuffix : pattern.take m <:+ consumed ++ [x]) : m ≤ k := by
  cases m with
  | zero => exact Nat.zero_le _
  | succ m =>
    have hle := Nat.le_of_succ_le_succ hm
    obtain ⟨y, hy⟩ : ∃ y, pattern[m]? = some y :=
      ⟨_, List.getElem?_eq_getElem (hle.trans_lt hlimit)⟩
    obtain ⟨hbefore, rfl⟩ := (take_succ_suffix hy).1 hsuffix
    exact hbound m hle hy hbefore

/-- A candidate that goes on is the longest. -/
theorem Candidate.found (h : Candidate pattern limit consumed x k)
    (hlimit : limit < pattern.length) (hx : pattern[k]? = some x) :
    Longest pattern (limit + 1) (consumed ++ [x]) (k + 1) where
  le := Nat.succ_le_succ h.le
  suffix := (take_succ_suffix hx).2 ⟨h.suffix, rfl⟩
  longest := by
    apply bound_succ hlimit
    intro m hm hmx hsuffix
    exact Nat.lt_succ_of_le (h.bound m hm hmx hsuffix)

/-- When not even the empty beginning goes on, none is left. -/
theorem Candidate.lost (h : Candidate pattern limit consumed x 0)
    (hlimit : limit < pattern.length) (hx : pattern[0]? ≠ some x) :
    Longest pattern (limit + 1) (consumed ++ [x]) 0 where
  le := Nat.zero_le _
  suffix := List.nil_suffix
  longest := by
    apply bound_succ hlimit
    intro m hm hmx hsuffix
    cases Nat.le_zero.1 (h.bound m hm hmx hsuffix)
    exact absurd hmx hx

theorem Occurs.le {text : List α} (h : Occurs pattern text p) (hpattern : pattern ≠ []) :
    p + pattern.length ≤ text.length := by
  have hlength := h.length_le
  have hpositive := List.length_pos_iff.2 hpattern
  rw [List.length_drop] at hlength
  omega

/-- A pattern occurs where a beginning of the text ends with it. -/
theorem suffix_take_iff {text : List α} (hp : p + pattern.length ≤ text.length) :
    pattern <:+ text.take (p + pattern.length) ↔ Occurs pattern text p := by
  constructor
  · rintro ⟨before, hbefore⟩
    have hlength : before.length = p := by
      have htotal := congrArg List.length hbefore
      rw [List.length_append, List.length_take, Nat.min_eq_left hp] at htotal
      omega
    refine ⟨text.drop (p + pattern.length), ?_⟩
    have htext : text = before ++ (pattern ++ text.drop (p + pattern.length)) := by
      rw [← List.append_assoc, hbefore, List.take_append_drop]
    calc
      pattern ++ text.drop (p + pattern.length)
        = (before ++ (pattern ++ text.drop (p + pattern.length))).drop before.length :=
          List.drop_left.symm
      _ = text.drop p := by rw [← htext, hlength]
  · rintro ⟨after, hafter⟩
    refine ⟨text.take p, ?_⟩
    rw [List.take_add, ← hafter, List.take_left]

/-- The positions at which a pattern ends, after a consumed part, in the rest of a text. -/
def endings [DecidableEq α] (pattern consumed : List α) : List α → List Nat
  | [] => []
  | x :: rest =>
    (if pattern <:+ consumed ++ [x] then [consumed.length + 1 - pattern.length] else []) ++
      endings pattern (consumed ++ [x]) rest

section Endings

variable [DecidableEq α]

theorem mem_occurrences {text : List α} (hpattern : pattern ≠ []) :
    p ∈ occurrences pattern text ↔ Occurs pattern text p := by
  rw [occurrences, List.mem_filter, List.mem_range, decide_eq_true_eq]
  apply and_iff_right_of_imp
  intro hoccurs
  by_contra hlong
  have hnone : text.drop p = [] := List.drop_eq_nil_of_le (by omega)
  rw [Occurs, hnone] at hoccurs
  exact hpattern (List.prefix_nil.1 hoccurs)

theorem mem_endings (hpattern : pattern ≠ []) :
    p ∈ endings pattern consumed rest ↔
      consumed.length < p + pattern.length ∧ Occurs pattern (consumed ++ rest) p := by
  induction rest generalizing consumed with
  | nil =>
    rw [endings, List.append_nil]
    apply iff_of_false List.not_mem_nil
    rintro ⟨hlong, hoccurs⟩
    exact absurd (hoccurs.le hpattern) (not_le.2 hlong)
  | cons x rest ih =>
    have htext : consumed ++ x :: rest = consumed ++ [x] ++ rest := by
      rw [List.append_assoc, List.singleton_append]
    have htake : (consumed ++ x :: rest).take (consumed.length + 1) = consumed ++ [x] := by
      rw [htext, ← List.length_singleton (a := x), ← List.length_append]
      exact List.take_left
    have hfirst : p ∈ (if pattern <:+ consumed ++ [x] then [consumed.length + 1 - pattern.length]
        else []) ↔ p + pattern.length = consumed.length + 1 ∧
          Occurs pattern (consumed ++ x :: rest) p := by
      constructor
      · intro hp
        split at hp
        · next hsuffix =>
          have hle := hsuffix.length_le
          rw [List.length_append, List.length_singleton] at hle
          rw [List.mem_singleton] at hp
          have hend : p + pattern.length = consumed.length + 1 := by omega
          refine ⟨hend, (suffix_take_iff ?_).1 ?_⟩
          · rw [hend, List.length_append, List.length_cons]
            omega
          · rw [hend, htake]
            exact hsuffix
        · cases hp
      · rintro ⟨hend, hoccurs⟩
        have hsuffix := (suffix_take_iff (hoccurs.le hpattern)).2 hoccurs
        rw [hend, htake] at hsuffix
        rw [if_pos hsuffix, List.mem_singleton]
        omega
    rw [endings, List.mem_append, hfirst, ih, List.length_append, List.length_singleton, htext,
      ← or_and_right]
    apply and_congr_left
    intro _
    omega

theorem endings_sorted (hpattern : pattern ≠ []) :
    (endings pattern consumed rest).Pairwise (· < ·) := by
  induction rest generalizing consumed with
  | nil => exact .nil
  | cons x rest ih =>
    rw [endings]
    apply List.pairwise_append.2
    refine ⟨?_, ih, ?_⟩
    · split
      · exact List.pairwise_singleton _ _
      · exact .nil
    · intro p hp q hq
      split at hp
      · next hsuffix =>
        have hle := hsuffix.length_le
        have hlater := ((mem_endings hpattern).1 hq).1
        rw [List.mem_singleton] at hp
        rw [List.length_append, List.length_singleton] at hle hlater
        omega
      · cases hp

/-- The endings from the start are the occurrences. -/
theorem endings_nil (hpattern : pattern ≠ []) (text : List α) :
    endings pattern [] text = occurrences pattern text := by
  apply List.Pairwise.eq_of_mem_iff (r := (· < ·)) (endings_sorted hpattern)
  · exact List.Pairwise.filter _ List.pairwise_lt_range
  · intro p
    rw [mem_endings hpattern, mem_occurrences hpattern, List.nil_append]
    apply and_iff_right_of_imp
    intro _
    exact (List.length_pos_iff.2 hpattern).trans_le (Nat.le_add_left _ _)

end Endings

/-- The first two of an ascending list are one when the list has a single element. -/
theorem take_two_single {l : List Nat} (h : l.Pairwise (· < ·)) :
    (l.take 2).length = 1 ↔ ∃! a, a ∈ l := by
  match l with
  | [] =>
    apply iff_of_false Nat.zero_ne_one
    rintro ⟨a, ha, -⟩
    cases ha
  | [a] => exact iff_of_true rfl ⟨a, List.mem_cons_self, fun b hb => List.mem_singleton.1 hb⟩
  | a :: b :: rest =>
    apply iff_of_false (Nat.succ_ne_succ_iff.2 Nat.one_ne_zero)
    rintro ⟨c, -, honly⟩
    have hlt := (List.pairwise_cons.1 h).1 b List.mem_cons_self
    have ha := honly a List.mem_cons_self
    have hb := honly b (List.mem_cons_of_mem _ List.mem_cons_self)
    rw [ha, hb] at hlt
    exact lt_irrefl _ hlt

end Borders

end RipDvd
