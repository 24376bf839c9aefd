import Mathlib.Data.List.Forall2

namespace RipDvd.Rows
set_option autoImplicit true

variable {α : Type u} {κ : Type v} {p : α → Prop} [DecidablePred p] {f : α → α} {rows : List α}

/-- Rewrite the rows that meet a condition. -/
def update (p : α → Prop) [DecidablePred p] (f : α → α) (rows : List α) : List α :=
  rows.map fun row => if p row then f row else row

/-- What the rewriting keeps of a row, it keeps of the table. -/
theorem map_update (g : α → κ) (h : ∀ row ∈ rows, p row → g (f row) = g row) :
    (update p f rows).map g = rows.map g := by
  rw [update, List.map_map]
  apply List.map_congr_left
  intro row hrow
  rw [Function.comp_apply]
  split
  · next hp => exact h row hrow hp
  · rfl

/-- Each row is related to the row it becomes. -/
theorem forall₂_update {R : α → α → Prop} (hp : ∀ row ∈ rows, p row → R row (f row))
    (hn : ∀ row ∈ rows, ¬p row → R row row) : List.Forall₂ R rows (update p f rows) := by
  rw [update, List.forall₂_map_right_iff, List.forall₂_same]
  intro row hrow
  split
  · next h => exact hp row hrow h
  · next h => exact hn row hrow h

end RipDvd.Rows
