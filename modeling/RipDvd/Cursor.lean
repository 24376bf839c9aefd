import Mathlib.Tactic.Common
import Mathlib.Data.List.Basic
import Mathlib.Order.Defs.Unbundled

namespace RipDvd
set_option autoImplicit true

variable {α : Type u} (r : α → α → Prop) [DecidableRel r]

/-- What a list has beyond a cursor: all of it before the cursor is first set. -/
def beyond (cursor : Option α) (l : List α) : List α :=
  l.filter fun x => cursor.all fun last => decide (r last x)

theorem mem_beyond : x ∈ beyond r cursor l ↔ x ∈ l ∧ ∀ last ∈ cursor, r last x := by
  rw [beyond, List.mem_filter, Option.all_eq_true]
  simp only [decide_eq_true_eq, Option.mem_def]

theorem beyond_none (l : List α) : beyond r none l = l :=
  List.filter_eq_self.2 fun _ _ => rfl

theorem beyond_append (cursor : Option α) (l m : List α) :
    beyond r cursor (l ++ m) = beyond r cursor l ++ beyond r cursor m :=
  List.filter_append ..

theorem beyond_eq_self (h : ∀ x ∈ l, ∀ last ∈ cursor, r last x) : beyond r cursor l = l := by
  apply List.filter_eq_self.2
  intro x hx
  rw [Option.all_eq_true]
  exact fun last hl => decide_eq_true (h x hx last hl)

theorem beyond_eq_nil (h : ∀ x ∈ l, ¬r last x) : beyond r (some last) l = [] := by
  apply List.filter_eq_nil_iff.2
  intro x hx
  simpa using h x hx

variable {r} [IsStrictOrder α r]

/-- What follows the first element beyond a cursor is what follows it in the list. -/
theorem rest_of_beyond (hs : (before ++ x :: after).Pairwise r)
    (h : beyond r cursor (before ++ x :: after) = x :: rest) : rest = after := by
  obtain ⟨hbefore, hx, hacross⟩ := List.pairwise_append.1 hs
  have hlast : ∀ last ∈ cursor, r last x :=
    ((mem_beyond r).1 (h ▸ List.mem_cons_self)).2
  have hafter : beyond r cursor (x :: after) = x :: after := by
    apply beyond_eq_self
    intro y hy last hl
    rcases List.mem_cons.1 hy with rfl | hy
    · exact hlast last hl
    · exact IsTrans.trans _ _ _ (hlast last hl) ((List.pairwise_cons.1 hx).1 y hy)
  rw [beyond_append, hafter] at h
  -- an element found before `x` would be the first one
  cases hfirst : beyond r cursor before with
  | nil =>
    rw [hfirst] at h
    exact (List.cons.inj h).2.symm
  | cons y _ =>
    rw [hfirst] at h
    obtain ⟨rfl, -⟩ := List.cons.inj h
    have hy : y ∈ before := ((mem_beyond r).1 (hfirst ▸ List.mem_cons_self)).1
    exact absurd (hacross y hy y List.mem_cons_self) (irrefl y)

/-- A cursor that is set to an element leaves what follows it, whether or not the list keeps it. -/
theorem beyond_some (hs : (before ++ x :: after).Pairwise r) (hkept : ∀ y ∈ kept, y = x) :
    beyond r (some x) (before ++ kept ++ after) = after := by
  obtain ⟨hbefore, hx, hacross⟩ := List.pairwise_append.1 hs
  have hleft : beyond r (some x) (before ++ kept) = [] := by
    apply beyond_eq_nil
    intro y hy hr
    rcases List.mem_append.1 hy with hy | hy
    · exact asymm hr (hacross y hy x List.mem_cons_self)
    · cases hkept y hy
      exact irrefl x hr
  rw [beyond_append, hleft, List.nil_append]
  apply beyond_eq_self
  intro y hy last hl
  cases hl
  exact (List.pairwise_cons.1 hx).1 y hy

end RipDvd
