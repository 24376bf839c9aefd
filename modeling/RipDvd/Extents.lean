import Mathlib.Data.Finset.Card
import Mathlib.Data.List.Basic
import Mathlib.Tactic.Common
import Mathlib.Algebra.GroupWithZero.Nat

namespace RipDvd
set_option autoImplicit true

/-- A record that spans a half-open interval of numbers, and can be given another one. -/
class Extent (R : Type u) where
  start : R → Nat
  length : R → Nat
  resize : R → Nat → Nat → R
  start_resize : start (resize r s n) = s
  length_resize : length (resize r s n) = n

namespace Extent

attribute [simp] start_resize length_resize

variable {R : Type u} [Extent R] {S : Type v} [Extent S] {T : Type w} [Extent T]

def stop (r : R) : Nat := start r + length r

/-- The numbers that some record of a list spans. -/
def cover (l : List R) : Finset Nat :=
  (l.flatMap fun r => List.range' (start r) (length r)).toFinset

def total (l : List R) : Nat := (l.map length).sum

theorem mem_cover {l : List R} : n ∈ cover l ↔ ∃ r ∈ l, start r ≤ n ∧ n < stop r := by
  simp only [cover, List.mem_toFinset, List.mem_flatMap, List.mem_range'_1, stop]

@[simp] theorem cover_nil : cover ([] : List R) = ∅ := rfl

@[simp] theorem mem_cover_singleton {r : R} : n ∈ cover [r] ↔ start r ≤ n ∧ n < stop r := by
  simp [mem_cover]

/-- A record that is kept on a condition. -/
theorem mem_cover_ite {p : Prop} [Decidable p] {r : R} :
    n ∈ cover (if p then [r] else []) ↔ p ∧ start r ≤ n ∧ n < stop r := by
  by_cases hp : p
  · simp [hp]
  · simp [hp]

theorem cover_append (l l' : List R) : cover (l ++ l') = cover l ∪ cover l' := by
  rw [cover, List.flatMap_append, List.toFinset_append]
  rfl

theorem cover_cons (r : R) (l : List R) : cover (r :: l) = cover [r] ∪ cover l :=
  cover_append [r] l

theorem mem_cover_flatMap {l : List α} {f : α → List R} :
    n ∈ cover (l.flatMap f) ↔ ∃ a ∈ l, n ∈ cover (f a) := by
  simp only [mem_cover, List.mem_flatMap]
  exact ⟨fun ⟨r, ⟨a, ha, hr⟩, h⟩ => ⟨a, ha, r, hr, h⟩, fun ⟨a, ha, r, hr, h⟩ => ⟨r, ⟨a, ha, hr⟩, h⟩⟩

theorem cover_perm {l l' : List R} (h : l.Perm l') : cover l = cover l' := by
  ext n
  simp only [mem_cover, h.mem_iff]

/-- Two records that span no number both. -/
def Apart (a : R) (b : S) : Prop := stop a ≤ start b ∨ stop b ≤ start a

theorem Apart.symm {a : R} {b : S} (h : Apart a b) : Apart b a := Or.symm h

/-- A record that spans nothing outside another. -/
def Inside (a : R) (b : S) : Prop := start b ≤ start a ∧ stop a ≤ stop b

theorem Inside.trans {a : R} {b : S} {c : T} (h : Inside a b) (h' : Inside b c) : Inside a c :=
  ⟨h'.1.trans h.1, h.2.trans h'.2⟩

theorem Apart.inside {a : R} {b : R} {c d : S} (h : Apart c d) (ha : Inside a c)
    (hb : Inside b d) : Apart a b := by
  obtain ⟨hac, hca⟩ := ha
  obtain ⟨hbd, hdb⟩ := hb
  cases h with
  | inl h => exact .inl (by omega)
  | inr h => exact .inr (by omega)

/-- What apart records are cut into is apart. -/
theorem pairwise_flatMap {l : List S} {f : S → List R} (h : l.Pairwise Apart)
    (hf : ∀ a ∈ l, (f a).Pairwise Apart ∧ ∀ r ∈ f a, Inside r a) :
    (l.flatMap f).Pairwise Apart := by
  apply List.pairwise_flatMap.2
  constructor
  · intro a ha
    exact (hf a ha).1
  · apply h.imp_of_mem
    intro a b ha hb hab x hx y hy
    exact hab.inside ((hf a ha).2 x hx) ((hf b hb).2 y hy)

/-- Apart records span as many numbers as their lengths add up to. -/
theorem total_eq_card {l : List R} (h : l.Pairwise Apart) : total l = (cover l).card := by
  have hnodup : (l.flatMap fun r => List.range' (start r) (length r)).Nodup := by
    apply List.pairwise_flatMap.2
    constructor
    · intro r _
      exact List.nodup_range'
    · apply h.imp
      intro a b hab x hx y hy
      rw [List.mem_range'_1] at hx hy
      simp only [Apart, stop] at hab
      omega
  rw [cover, List.toFinset_card_of_nodup hnodup, List.length_flatMap]
  simp only [List.length_range', total]

/-- Nonempty records that span no number twice. -/
structure Spaced (l : List R) : Prop where
  positive : ∀ r ∈ l, 0 < length r
  apart : l.Pairwise Apart

theorem Apart.of_disjoint {a : R} {b : S} (ha : 0 < length a) (hb : 0 < length b)
    (h : ∀ n, start a ≤ n → n < stop a → ¬(start b ≤ n ∧ n < stop b)) : Apart a b := by
  by_contra hnot
  -- the later of the two starts is in both
  have hshared := h (max (start a) (start b))
  simp only [Apart, stop, not_or, not_le] at hnot hshared
  omega

theorem Spaced.perm {l l' : List R} (h : Spaced l) (hp : l.Perm l') : Spaced l' :=
  ⟨fun r hr => h.positive r (hp.mem_iff.2 hr), h.apart.perm hp Apart.symm⟩

theorem Spaced.disjoint {l l' : List R} (h : Spaced (l ++ l')) : Disjoint (cover l) (cover l') := by
  apply Finset.disjoint_left.2
  intro n hn hn'
  obtain ⟨a, ha, hfrom, hto⟩ := mem_cover.1 hn
  obtain ⟨b, hb, hfrom', hto'⟩ := mem_cover.1 hn'
  have hapart := (List.pairwise_append.1 h.apart).2.2 a ha b hb
  rw [Apart] at hapart
  omega

theorem Spaced.flatMap {l : List α} {f : α → List R} (hf : ∀ a ∈ l, Spaced (f a))
    (h : l.Pairwise fun a b => Disjoint (cover (f a)) (cover (f b))) : Spaced (l.flatMap f) := by
  constructor
  case positive =>
    intro r hr
    obtain ⟨a, ha, hr⟩ := List.mem_flatMap.1 hr
    exact (hf a ha).positive r hr
  case apart =>
    apply List.pairwise_flatMap.2
    constructor
    · intro a ha
      exact (hf a ha).apart
    · apply h.imp_of_mem
      intro a b ha hb hdisjoint x hx y hy
      apply Apart.of_disjoint ((hf a ha).positive x hx) ((hf b hb).positive y hy)
      intro n hfrom hto hn
      exact Finset.disjoint_left.1 hdisjoint (mem_cover.2 ⟨x, hx, hfrom, hto⟩)
        (mem_cover.2 ⟨y, hy, hn⟩)

theorem Spaced.append {l l' : List R} (h : Spaced l) (h' : Spaced l')
    (hd : Disjoint (cover l) (cover l')) : Spaced (l ++ l') := by
  have hboth : Spaced ([l, l'].flatMap id) := by
    apply Spaced.flatMap
    · intro a ha
      simp only [List.mem_cons, List.not_mem_nil, or_false] at ha
      cases ha with
      | inl heq => exact heq ▸ h
      | inr heq => exact heq ▸ h'
    · exact List.pairwise_pair.2 hd
  simpa using hboth

theorem Spaced.sublist {l l' : List R} (h : Spaced l) (hs : l'.Sublist l) : Spaced l' :=
  ⟨fun r hr => h.positive r (hs.mem hr), h.apart.sublist hs⟩

/-- Nonempty records in ascending order, none of which starts before the end of another. -/
structure Rising (l : List R) : Prop where
  positive : ∀ r ∈ l, 0 < length r
  ascending : l.Pairwise fun a b => stop a ≤ start b

theorem Rising.spaced {l : List R} (h : Rising l) : Spaced l :=
  ⟨h.positive, h.ascending.imp .inl⟩

theorem Spaced.rising {l : List R} (h : Spaced l)
    (hsorted : l.Pairwise fun a b => start a ≤ start b) :
    Rising l := by
  refine ⟨h.positive, (h.apart.and hsorted).imp_of_mem ?_⟩
  intro a b ha hb hab
  obtain ⟨hapart, hle⟩ := hab
  have hpositive := h.positive b hb
  simp only [Apart, stop] at hapart ⊢
  omega

/-- Nonempty records in ascending order, with a gap before each. -/
structure Merged (l : List R) : Prop where
  positive : ∀ r ∈ l, 0 < length r
  gaps : l.Pairwise fun a b => stop a < start b

theorem Merged.pairwise {l : List R} (h : Merged l) : l.Pairwise Apart :=
  h.gaps.imp fun hab => .inl hab.le

theorem Merged.tail {r : R} {l : List R} (h : Merged (r :: l)) : Merged l :=
  ⟨fun a ha => h.positive a (List.mem_cons_of_mem _ ha), h.gaps.tail⟩

/-- The rest of a merged list is what its cover has beyond the first record. -/
theorem Merged.mem_tail {r : R} {l : List R} (h : Merged (r :: l)) :
    n ∈ cover l ↔ n ∈ cover (r :: l) ∧ stop r ≤ n := by
  obtain ⟨hfirst, -⟩ := List.pairwise_cons.1 h.gaps
  rw [cover_cons, Finset.mem_union, mem_cover_singleton]
  constructor
  · intro hn
    obtain ⟨a, ha, hle, -⟩ := mem_cover.1 hn
    exact ⟨.inr hn, (hfirst a ha).le.trans hle⟩
  · rintro ⟨⟨-, hlt⟩ | hn, hle⟩
    · omega
    · exact hn

theorem Merged.le_of_mem {r : R} {l : List R} (h : Merged (r :: l)) (hn : n ∈ cover (r :: l)) :
    start r ≤ n := by
  obtain ⟨a, ha, hle, -⟩ := mem_cover.1 hn
  rcases List.mem_cons.1 ha with rfl | ha
  · exact hle
  · have hgap := (List.pairwise_cons.1 h.gaps).1 a ha
    rw [stop] at hgap
    omega

theorem Merged.start_mem {r : R} {l : List R} (h : Merged (r :: l)) : start r ∈ cover (r :: l) :=
  mem_cover.2 ⟨r, List.mem_cons_self, le_refl _,
    Nat.lt_add_of_pos_right (h.positive r List.mem_cons_self)⟩

theorem Merged.stop_not_mem {r : R} {l : List R} (h : Merged (r :: l)) :
    stop r ∉ cover (r :: l) := by
  intro hn
  obtain ⟨a, ha, hle, hlt⟩ := mem_cover.1 hn
  rcases List.mem_cons.1 ha with rfl | ha
  · omega
  · have hgap := (List.pairwise_cons.1 h.gaps).1 a ha
    omega

/-- A first record ends where the cover first has a gap. -/
theorem Merged.stop_le {a : R} {b : S} {l : List R} {l' : List S} (h : Merged (a :: l))
    (hcover : cover (a :: l) = cover (b :: l')) (hstart : start a = start b) :
    stop b ≤ stop a := by
  by_contra hlt
  apply h.stop_not_mem
  rw [hcover, mem_cover]
  refine ⟨b, List.mem_cons_self, ?_, by omega⟩
  rw [← hstart, stop]
  omega

/-- Two merged lists with the same cover have the same intervals. -/
theorem Merged.ext {l : List R} {l' : List R} (h : Merged l) (h' : Merged l')
    (hext : ∀ a b : R, start a = start b → length a = length b → a = b)
    (hcover : cover l = cover l') : l = l' := by
  induction l generalizing l' with
  | nil =>
    cases l' with
    | nil => rfl
    | cons b l' => exact absurd h'.start_mem (by rw [← hcover]; exact Finset.notMem_empty _)
  | cons a l ih =>
    cases l' with
    | nil => exact absurd h.start_mem (by rw [hcover]; exact Finset.notMem_empty _)
    | cons b l' =>
      have hstart : start a = start b := by
        apply le_antisymm
        · exact h.le_of_mem (hcover ▸ h'.start_mem)
        · exact h'.le_of_mem (hcover ▸ h.start_mem)
      have hstop : stop a = stop b :=
        le_antisymm (h'.stop_le hcover.symm hstart.symm) (h.stop_le hcover hstart)
      have hab : a = b := hext a b hstart (by rw [stop, stop] at hstop; omega)
      subst hab
      rw [ih h.tail h'.tail]
      ext n
      rw [h.mem_tail, h'.mem_tail, hcover]

end Extent

end RipDvd
