import Mathlib.Tactic.Common
import Mathlib.Data.List.Basic

namespace RipDvd
set_option autoImplicit true

/-- The `count` cells of a file from `start` on. -/
def slice (cells : List β) (start count : Nat) : List β := (cells.drop start).take count

/-- Overwrite the cells from `start` on. -/
def patch (cells : List β) (start : Nat) (new : List β) : List β :=
  cells.take start ++ new ++ cells.drop (start + new.length)

theorem getElem?_slice (cells : List β) (start count i : Nat) :
    (slice cells start count)[i]? = if i < count then cells[start + i]? else none := by
  rw [slice, List.getElem?_take, List.getElem?_drop]

@[simp] theorem length_slice (cells : List β) (start count : Nat) :
    (slice cells start count).length = min count (cells.length - start) := by
  simp only [slice, List.length_take, List.length_drop]

theorem length_patch {cells new : List β} (h : start + new.length ≤ cells.length) :
    (patch cells start new).length = cells.length := by
  simp only [patch, List.length_append, List.length_take, List.length_drop]
  omega

theorem getElem?_patch {cells new : List β} (h : start + new.length ≤ cells.length) (i : Nat) :
    (patch cells start new)[i]? =
      if start ≤ i ∧ i < start + new.length then new[i - start]? else cells[i]? := by
  have ht : (cells.take start).length = start := by rw [List.length_take]; omega
  rw [patch, List.append_assoc]
  by_cases hi : i < start
  · rw [List.getElem?_append_left (by omega), List.getElem?_take, if_pos hi, if_neg (by omega)]
  by_cases hj : i < start + new.length
  · rw [List.getElem?_append_right (by omega), List.getElem?_append_left (by omega), ht,
      if_pos ⟨by omega, hj⟩]
  · rw [List.getElem?_append_right (by omega), List.getElem?_append_right (by omega), ht,
      List.getElem?_drop, if_neg (by omega)]
    congr 1
    omega

theorem slice_eq_iff {a b : List β} :
    slice a start count = slice b start count ↔
      ∀ i, start ≤ i → i < start + count → a[i]? = b[i]? := by
  refine ⟨fun h i hs hc => ?_, fun h => List.ext_getElem? fun i => ?_⟩
  · have hi := congrArg (·[i - start]?) h
    simp only [getElem?_slice, if_pos (show i - start < count by omega)] at hi
    rwa [show start + (i - start) = i by omega] at hi
  · simp only [getElem?_slice]
    by_cases hi : i < count
    · rw [if_pos hi, if_pos hi, h _ (by omega) (by omega)]
    · rw [if_neg hi, if_neg hi]

/-- Reading inside the overwritten part sees the new cells. -/
theorem slice_patch_inside {cells new : List β} (h : start + new.length ≤ cells.length)
    (hs : start ≤ from') (hc : from' + count ≤ start + new.length) :
    slice (patch cells start new) from' count = slice new (from' - start) count := by
  refine List.ext_getElem? fun i => ?_
  rw [getElem?_slice, getElem?_slice]
  by_cases hi : i < count
  · rw [if_pos hi, if_pos hi, getElem?_patch h, if_pos (by omega)]
    congr 1
    omega
  · rw [if_neg hi, if_neg hi]

theorem slice_patch_outside {cells new : List β} (h : start + new.length ≤ cells.length)
    (hd : from' + count ≤ start ∨ start + new.length ≤ from') :
    slice (patch cells start new) from' count = slice cells from' count := by
  refine slice_eq_iff.2 fun i hs hc => ?_
  rw [getElem?_patch h, if_neg (by omega)]

theorem slice_patch_self {cells new : List β} (h : start + new.length ≤ cells.length) :
    slice (patch cells start new) start new.length = new := by
  rw [slice_patch_inside h (Nat.le_refl _) (Nat.le_refl _), Nat.sub_self, slice, List.drop_zero,
    List.take_length]

/-- Overwriting part of a slice in place overwrites the file there. -/
theorem patch_slice {cells new : List β} (hs : start + count ≤ cells.length)
    (hn : offset + new.length ≤ count) :
    patch cells start (patch (slice cells start count) offset new) =
      patch cells (start + offset) new := by
  have hlen : (slice cells start count).length = count := by rw [length_slice]; omega
  have hin : offset + new.length ≤ (slice cells start count).length := by omega
  have hpatch : (patch (slice cells start count) offset new).length = count := by
    rw [length_patch hin, hlen]
  have hall : start + offset + new.length ≤ cells.length := by omega
  refine List.ext_getElem? fun i => ?_
  rw [getElem?_patch (by rw [hpatch]; exact hs), hpatch, getElem?_patch hall,
    getElem?_patch hin, getElem?_slice]
  by_cases hi : start ≤ i ∧ i < start + count
  · rw [if_pos hi]
    by_cases hj : offset ≤ i - start ∧ i - start < offset + new.length
    · rw [if_pos hj, if_pos (by omega), Nat.sub_add_eq]
    · rw [if_neg hj, if_pos (by omega), if_neg (by omega), Nat.add_sub_cancel' hi.1]
  · rw [if_neg hi, if_neg (by omega)]

theorem slice_slice (cells : List β) (h : start + count ≤ outer) :
    slice (slice cells base outer) start count = slice cells (base + start) count := by
  refine List.ext_getElem? fun i => ?_
  simp only [getElem?_slice]
  by_cases hi : i < count
  · rw [if_pos hi, if_pos hi, if_pos (by omega), Nat.add_assoc]
  · rw [if_neg hi, if_neg hi]

/-- Files that agree on every aligned unit are equal. -/
theorem eq_of_units {a b : List β} (hu : 0 < unit)
    (h : ∀ u, slice a (u * unit) unit = slice b (u * unit) unit) : a = b := by
  refine List.ext_getElem? fun i => ?_
  have hi := slice_eq_iff.1 (h (i / unit)) i (Nat.div_mul_le_self i unit)
  have hd := Nat.div_add_mod i unit
  have hm := Nat.mod_lt i hu
  rw [Nat.mul_comm] at hd
  exact hi (by omega)

theorem units_apart (unit : Nat) {u v : Nat} (h : u ≠ v) :
    u * unit + unit ≤ v * unit ∨ v * unit + unit ≤ u * unit := by
  rcases Nat.lt_or_gt_of_ne h with h | h
  · exact .inl (by simpa only [Nat.succ_mul] using Nat.mul_le_mul_right unit h)
  · exact .inr (by simpa only [Nat.succ_mul] using Nat.mul_le_mul_right unit h)

/-- A file torn between two contents: every aligned unit holds one or the other. -/
structure Torn (unit : Nat) (old new cells : List β) : Prop where
  length : cells.length = old.length
  unit_eq : ∀ u, slice cells (u * unit) unit = slice old (u * unit) unit ∨
    slice cells (u * unit) unit = slice new (u * unit) unit

theorem Torn.old (unit : Nat) (old new : List β) : Torn unit old new old :=
  ⟨rfl, fun _ => .inl rfl⟩

theorem Torn.new (unit : Nat) {old new : List β} (h : new.length = old.length) :
    Torn unit old new new :=
  ⟨h, fun _ => .inr rfl⟩

/-- An atomic unit write of either content keeps the file torn between the two. -/
theorem Torn.write {old new cells v : List β} (h : Torn unit old new cells)
    (hv : v = slice old (u * unit) unit ∨ v = slice new (u * unit) unit)
    (hl : v.length = unit) (hb : u * unit + unit ≤ cells.length) :
    Torn unit old new (patch cells (u * unit) v) := by
  have hb' : u * unit + v.length ≤ cells.length := by omega
  refine ⟨(length_patch hb').trans h.length, fun w => ?_⟩
  by_cases hw : w = u
  · subst hw
    have hs : slice (patch cells (w * unit) v) (w * unit) unit = v := by
      have h' := slice_patch_self hb'
      rwa [hl] at h'
    exact hv.imp hs.trans hs.trans
  · rw [slice_patch_outside hb' (by have := units_apart unit hw; omega)]
    exact h.unit_eq w

end RipDvd
