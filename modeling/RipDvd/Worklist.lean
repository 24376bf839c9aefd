import Mathlib.Data.List.Nodup
import Mathlib.Data.List.Perm.Subperm
import Mathlib.Logic.Relation
import Mathlib.Tactic.Common

namespace RipDvd
set_option autoImplicit true

namespace Worklist

open Relation

variable [DecidableEq κ] {key : α → κ} {targets : α → List α} {seeds found xs : List α}

/-- Append an element whose key is not among those of the elements found so far. -/
def add (key : α → κ) (found : List α) (x : α) : List α :=
  if key x ∈ found.map key then found else found ++ [x]

def addAll (key : α → κ) (found xs : List α) : List α := xs.foldl (add key) found

/-- Visit the elements found from a position on, appending what each of them leads to. -/
def run (key : α → κ) (targets : α → List α) : Nat → Nat → List α → Option (List α)
  | 0, index, found => if index < found.length then none else some found
  | fuel + 1, index, found =>
    match found[index]? with
    | none => some found
    | some x => run key targets fuel (index + 1) (addAll key found (targets x))

/-- An element is led to from one of the seeds. -/
def Reached (targets : α → List α) (seeds : List α) (x : α) : Prop :=
  ∃ seed ∈ seeds, ReflTransGen (fun a b => b ∈ targets a) seed x

theorem Reached.seed (h : x ∈ seeds) : Reached targets seeds x := ⟨x, h, .refl⟩

theorem Reached.step (h : Reached targets seeds x) (hy : y ∈ targets x) :
    Reached targets seeds y := by
  obtain ⟨seed, hseed, hpath⟩ := h
  exact ⟨seed, hseed, hpath.tail hy⟩

/-- What holds of the seeds and goes over to what an element leads to holds of all reached. -/
theorem Reached.invariant {P : α → Prop} (h : Reached targets seeds x)
    (hseeds : ∀ seed ∈ seeds, P seed) (hstep : ∀ a, P a → ∀ b ∈ targets a, P b) : P x := by
  obtain ⟨seed, hseed, hpath⟩ := h
  induction hpath with
  | refl => exact hseeds seed hseed
  | tail _ hnext ih => exact hstep _ ih _ hnext

theorem add_extends (key : α → κ) (found : List α) (x : α) : found <+: add key found x := by
  unfold add
  split
  · exact List.prefix_rfl
  · exact List.prefix_append found [x]

theorem add_key (key : α → κ) (found : List α) (x : α) :
    key x ∈ (add key found x).map key := by
  unfold add
  split
  · assumption
  · rw [List.map_append]
    exact List.mem_append_right _ List.mem_cons_self

theorem mem_add (h : y ∈ add key found x) : y ∈ found ∨ y = x := by
  unfold add at h
  split at h
  · exact .inl h
  · exact (List.mem_append.1 h).imp_right List.mem_singleton.1

theorem add_nodup (h : (found.map key).Nodup) : ((add key found x).map key).Nodup := by
  unfold add
  split
  · exact h
  · rename_i hfresh
    rw [List.map_append]
    apply h.append (List.nodup_singleton _)
    intro k hk hx
    obtain rfl := List.mem_singleton.1 hx
    exact hfresh hk

theorem addAll_extends (key : α → κ) (found xs : List α) : found <+: addAll key found xs := by
  induction xs generalizing found with
  | nil => exact List.prefix_rfl
  | cons x xs ih => exact (add_extends key found x).trans (ih _)

theorem addAll_key (key : α → κ) (found : List α) (hx : x ∈ xs) :
    key x ∈ (addAll key found xs).map key := by
  induction xs generalizing found with
  | nil => exact absurd hx List.not_mem_nil
  | cons y xs ih =>
    obtain rfl | hx := List.mem_cons.1 hx
    · exact ((addAll_extends key (add key found x) xs).map key).subset (add_key key found x)
    · exact ih _ hx

theorem mem_addAll (h : y ∈ addAll key found xs) : y ∈ found ∨ y ∈ xs := by
  induction xs generalizing found with
  | nil => exact .inl h
  | cons x xs ih =>
    obtain h | h := ih h
    · obtain h | rfl := mem_add h
      · exact .inl h
      · exact .inr List.mem_cons_self
    · exact .inr (List.mem_cons_of_mem x h)

theorem addAll_nodup (h : (found.map key).Nodup) : ((addAll key found xs).map key).Nodup := by
  induction xs generalizing found with
  | nil => exact h
  | cons x xs ih => exact ih (add_nodup h)

/-- The elements before the position have been visited: what they lead to has been found. -/
structure Visited (key : α → κ) (targets : α → List α) (seeds : List α) (index : Nat)
    (found : List α) : Prop where
  le : index ≤ found.length
  nodup : (found.map key).Nodup
  reached : ∀ x ∈ found, Reached targets seeds x
  seeds : ∀ seed ∈ seeds, key seed ∈ found.map key
  closed : ∀ i < index, ∀ x, found[i]? = some x → ∀ y ∈ targets x, key y ∈ found.map key

theorem Visited.start (key : α → κ) (targets : α → List α) (seeds : List α) :
    Visited key targets seeds 0 (addAll key [] seeds) where
  le := Nat.zero_le _
  nodup := addAll_nodup List.nodup_nil
  reached _ hx := .seed ((mem_addAll hx).resolve_left List.not_mem_nil)
  seeds _ hseed := addAll_key key [] hseed
  closed i hi := absurd hi (Nat.not_lt_zero i)

/-- Visiting the element at the position keeps what has been visited. -/
theorem Visited.visit (h : Visited key targets seeds index found)
    (hx : found[index]? = some x) :
    Visited key targets seeds (index + 1) (addAll key found (targets x)) where
  le := by
    have hlt := (List.getElem?_eq_some_iff.1 hx).1
    have hle := (addAll_extends key found (targets x)).length_le
    omega
  nodup := addAll_nodup h.nodup
  reached y hy := by
    obtain hy | hy := mem_addAll hy
    · exact h.reached y hy
    · exact (h.reached x (List.mem_of_getElem? hx)).step hy
  seeds seed hseed :=
    ((addAll_extends key found (targets x)).map key).subset (h.seeds seed hseed)
  closed i hi y hy z hz := by
    have hextends := addAll_extends key found (targets x)
    have hlt := (List.getElem?_eq_some_iff.1 hx).1
    have hat : found[i]? = some y := by
      obtain ⟨rest, hrest⟩ := hextends
      rw [← hrest, List.getElem?_append_left (by omega)] at hy
      exact hy
    obtain hi | rfl := Nat.lt_succ_iff_lt_or_eq.1 hi
    · exact (hextends.map key).subset (h.closed i hi y hat z hz)
    · rw [hx] at hat
      obtain rfl := Option.some.inj hat
      exact addAll_key key found hz

/-- A run that returns has visited everything that it found. -/
theorem run_visited (h : Visited key targets seeds index found)
    (hrun : run key targets fuel index found = some result) :
    Visited key targets seeds result.length result := by
  induction fuel generalizing index found with
  | zero =>
    rw [run] at hrun
    split at hrun
    · cases hrun
    · rename_i hlt
      obtain rfl := Option.some.inj hrun
      obtain rfl : index = found.length := Nat.le_antisymm h.le (Nat.le_of_not_lt hlt)
      exact h
  | succ fuel ih =>
    rw [run] at hrun
    split at hrun
    · rename_i hnone
      obtain rfl := Option.some.inj hrun
      obtain rfl : index = found.length :=
        Nat.le_antisymm h.le (List.getElem?_eq_none_iff.1 hnone)
      exact h
    · rename_i x hx
      exact ih (h.visit hx) hrun

/-- A run returns when the keys of what can be reached are bounded in number. -/
theorem run_returns (fuel : Nat) (keys : List κ) (h : Visited key targets seeds index found)
    (hkeys : ∀ x, Reached targets seeds x → key x ∈ keys)
    (hfuel : keys.length ≤ index + fuel) :
    ∃ result, run key targets fuel index found = some result := by
  have hbound : ∀ {index found}, Visited key targets seeds index found →
      found.length ≤ keys.length := by
    intro index found h
    rw [← List.length_map key]
    apply (List.subperm_of_subset h.nodup _).length_le
    intro k hk
    obtain ⟨x, hx, rfl⟩ := List.mem_map.1 hk
    exact hkeys x (h.reached x hx)
  induction fuel generalizing index found with
  | zero =>
    have hlt : ¬index < found.length := by
      have hle := hbound h
      omega
    rw [run, if_neg hlt]
    exact ⟨found, rfl⟩
  | succ fuel ih =>
    rw [run]
    cases hx : found[index]? with
    | none => exact ⟨found, rfl⟩
    | some x => exact ih (h.visit hx) (by omega)

omit [DecidableEq κ] in
/-- What has been found, once all is visited, is what is reached. -/
theorem Visited.mem_iff (h : Visited key targets seeds found.length found)
    (hkey : ∀ x y, Reached targets seeds x → Reached targets seeds y → key x = key y → x = y) :
    x ∈ found ↔ Reached targets seeds x := by
  have hfound : ∀ y, Reached targets seeds y → key y ∈ found.map key → y ∈ found := by
    intro y hy hmem
    obtain ⟨z, hz, heq⟩ := List.mem_map.1 hmem
    obtain rfl := hkey z y (h.reached z hz) hy heq
    exact hz
  constructor
  · exact h.reached x
  · rintro ⟨seed, hseed, hpath⟩
    induction hpath with
    | refl => exact hfound seed (.seed hseed) (h.seeds seed hseed)
    | @tail y z hpath hz ih =>
      obtain ⟨i, hi, heq⟩ := List.getElem_of_mem ih
      have hy : found[i]? = some y := List.getElem?_eq_some_iff.2 ⟨hi, heq⟩
      exact hfound z ⟨seed, hseed, hpath.tail hz⟩ (h.closed i hi y hy z hz)

end Worklist

end RipDvd
