import Mathlib.Data.List.Forall2
import Mathlib.Data.List.Nodup
import Mathlib.Data.List.Perm.Basic

namespace RipDvd
set_option autoImplicit true

/-- The elements of a list whose partners in a list beside it are kept. -/
def keepAlong (keep : β → Bool) (xs : List α) (ys : List β) : List α :=
  ((xs.zip ys).filter fun pair => keep pair.2).map Prod.fst

theorem mem_keepAlong {keep : β → Bool} {xs : List α} {ys : List β} :
    x ∈ keepAlong keep xs ys ↔ ∃ y, (x, y) ∈ xs.zip ys ∧ keep y = true := by
  constructor
  · intro hx
    obtain ⟨⟨x, y⟩, hpair, rfl⟩ := List.mem_map.1 hx
    exact ⟨y, List.mem_filter.1 hpair⟩
  · rintro ⟨y, hpair⟩
    exact List.mem_map.2 ⟨(x, y), List.mem_filter.2 hpair, rfl⟩

theorem keepAlong_sublist {keep : β → Bool} {xs : List α} {ys : List β} :
    (keepAlong keep xs ys).Sublist xs := by
  induction xs generalizing ys with
  | nil => exact List.Sublist.slnil
  | cons x xs ih =>
    cases ys with
    | nil => exact List.nil_sublist _
    | cons y ys =>
      rw [keepAlong, List.zip_cons_cons, List.filter_cons]
      split
      · exact ih.cons_cons x
      · exact ih.cons x

/-- What is kept stays aligned with the partners that are kept. -/
theorem keepAlong_forall₂ {keep : β → Bool} {xs : List α} {ys : List β}
    (h : List.Forall₂ R xs ys) : List.Forall₂ R (keepAlong keep xs ys) (ys.filter keep) := by
  induction h with
  | nil => exact .nil
  | @cons x y xs ys hxy _ ih =>
    rw [keepAlong, List.zip_cons_cons, List.filter_cons, List.filter_cons]
    split
    · exact .cons hxy ih
    · exact ih

theorem forall₂_filter {p : α → Bool} {q : β → Bool} {xs : List α} {ys : List β}
    (h : List.Forall₂ R xs ys) (hpq : ∀ x y, R x y → p x = q y) :
    List.Forall₂ R (xs.filter p) (ys.filter q) := by
  induction h with
  | nil => exact .nil
  | @cons x y xs ys hxy _ ih =>
    rw [List.filter_cons, List.filter_cons, hpq x y hxy]
    split
    · exact .cons hxy ih
    · exact ih

theorem forall₂_trans {xs : List α} {ys : List β} {zs : List γ} (h : List.Forall₂ R xs ys)
    (h' : List.Forall₂ S ys zs) (hRS : ∀ x y z, R x y → S y z → T x z) :
    List.Forall₂ T xs zs := by
  induction h generalizing zs with
  | nil =>
    cases h'
    exact .nil
  | @cons x y xs ys hxy _ ih =>
    cases h' with
    | cons hyz h' => exact .cons (hRS x y _ hxy hyz) (ih h')

theorem forall₂_filterMap {f : α → Option β} {xs : List α}
    (h : ∀ x ∈ xs, ∃ y, f x = some y ∧ R x y) : List.Forall₂ R xs (xs.filterMap f) := by
  induction xs with
  | nil => exact .nil
  | cons x xs ih =>
    obtain ⟨y, hy, hxy⟩ := h x List.mem_cons_self
    rw [List.filterMap_cons_some hy]
    exact .cons hxy (ih fun x hx => h x (List.mem_cons_of_mem _ hx))

theorem exists_partner {xs : List α} {ys : List β} (h : List.Forall₂ R xs ys) (hx : x ∈ xs) :
    ∃ y, (x, y) ∈ xs.zip ys ∧ R x y := by
  induction h with
  | nil => cases hx
  | @cons x' y xs ys hxy _ ih =>
    cases hx with
    | head => exact ⟨y, List.mem_cons_self, hxy⟩
    | tail _ hx =>
      obtain ⟨y, hpair, hxy⟩ := ih hx
      exact ⟨y, List.mem_cons_of_mem _ hpair, hxy⟩

theorem countP_zip {p : α → Bool} {xs : List α} {ys : List β} (h : xs.length = ys.length) :
    (xs.zip ys).countP (fun pair => p pair.1) = xs.countP p := by
  have hcount := congrArg (List.countP p) (List.map_fst_zip (Nat.le_of_eq h))
  rw [List.countP_map] at hcount
  exact hcount

theorem eq_of_countP {p : α → Bool} {xs : List α} (h : xs.countP p ≤ 1) (ha : a ∈ xs)
    (hb : b ∈ xs) (hpa : p a = true) (hpb : p b = true) : a = b := by
  rw [List.countP_eq_length_filter] at h
  have ha' : a ∈ xs.filter p := List.mem_filter.2 ⟨ha, hpa⟩
  have hb' : b ∈ xs.filter p := List.mem_filter.2 ⟨hb, hpb⟩
  match hfilter : xs.filter p with
  | [] =>
    rw [hfilter] at ha'
    cases ha'
  | [c] =>
    rw [hfilter] at ha' hb'
    rw [List.mem_singleton.1 ha', List.mem_singleton.1 hb']
  | _ :: _ :: _ =>
    rw [hfilter] at h
    exact absurd h (by simp)

theorem lookup_mem [BEq κ] [LawfulBEq κ] {entries : List (κ × α)} {key : κ}
    (h : entries.lookup key = some a) : (key, a) ∈ entries := by
  obtain ⟨before, after, rfl, -⟩ := List.lookup_eq_some_iff.1 h
  exact List.mem_append_right _ List.mem_cons_self

theorem exists_lookup [BEq κ] [LawfulBEq κ] {entries : List (κ × α)} {key : κ}
    (h : key ∈ entries.map Prod.fst) : ∃ a, entries.lookup key = some a := by
  cases hlookup : entries.lookup key with
  | some a => exact ⟨a, rfl⟩
  | none =>
    obtain ⟨entry, hentry, rfl⟩ := List.mem_map.1 h
    have hne := List.lookup_eq_none_iff.1 hlookup entry hentry
    simp at hne

theorem filterMap_lookup [BEq κ] [LawfulBEq κ] (entries : List (κ × α))
    (h : (entries.map Prod.fst).Nodup) :
    (entries.map Prod.fst).filterMap (fun key => entries.lookup key) = entries.map Prod.snd := by
  induction entries with
  | nil => rfl
  | cons entry entries ih =>
    obtain ⟨key, a⟩ := entry
    obtain ⟨hkey, hnodup⟩ := List.nodup_cons.1 h
    rw [List.map_cons, List.filterMap_cons_some (b := a) (by simp), List.map_cons, ← ih hnodup]
    congr 1
    apply List.filterMap_congr
    intro key' hkey'
    have hne : ¬(key' == key) = true := by
      intro heq
      rw [beq_iff_eq] at heq
      exact hkey (heq ▸ hkey')
    rw [List.lookup_cons, eq_false_of_ne_true hne]

end RipDvd
