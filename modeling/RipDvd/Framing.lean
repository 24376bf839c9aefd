import Mathlib.Data.List.Basic
import Mathlib.Tactic.Common

namespace RipDvd
set_option autoImplicit true

namespace Framing

/-- The bytes of a text of ASCII characters. -/
def ascii (text : String) : List UInt8 := text.toList.map fun c => UInt8.ofNat c.toNat

/-- A number in decimal. -/
def decimal (n : Nat) : List UInt8 := ascii (toString n)

/-- The elements from one place up to another. -/
def excerpt (start stop : Nat) (l : List α) : List α := (l.drop start).take (stop - start)

theorem decimal_eq (n : Nat) :
    decimal n = (Nat.toDigits 10 n).map fun c => UInt8.ofNat c.toNat := by
  rw [decimal, ascii, Nat.toString_eq_ofList_toDigits, String.toList_ofList]

theorem digit_bounds {c : Char} (h : c.isDigit = true) : 48 ≤ c.toNat ∧ c.toNat ≤ 57 := by
  rw [Char.isDigit, Bool.and_eq_true, decide_eq_true_eq, decide_eq_true_eq] at h
  exact h

/-- The bytes of a number are those of digits. -/
theorem decimal_digits {byte : UInt8} (h : byte ∈ decimal n) :
    48 ≤ byte.toNat ∧ byte.toNat ≤ 57 := by
  rw [decimal_eq] at h
  obtain ⟨c, hc, rfl⟩ := List.mem_map.1 h
  have hdigit := digit_bounds (Nat.isDigit_of_mem_toDigits (by decide) (by decide) hc)
  rw [UInt8.toNat_ofNat']
  omega

/-- The digits of a number are read back from its bytes. -/
theorem digits_decimal (n : Nat) :
    (decimal n).map (fun byte => Char.ofNat byte.toNat) = Nat.toDigits 10 n := by
  rw [decimal_eq, List.map_map]
  calc (Nat.toDigits 10 n).map _
    _ = (Nat.toDigits 10 n).map id := by
      apply List.map_congr_left
      intro c hc
      have hdigit := digit_bounds (Nat.isDigit_of_mem_toDigits (by decide) (by decide) hc)
      have hbyte : (UInt8.ofNat c.toNat).toNat = c.toNat := by
        rw [UInt8.toNat_ofNat']
        omega
      rw [Function.comp_apply, hbyte, Char.ofNat_toNat, id]
    _ = Nat.toDigits 10 n := List.map_id _

theorem decimal_injective : Function.Injective decimal := by
  intro m n h
  have hdigits : Nat.toDigits 10 m = Nat.toDigits 10 n := by
    rw [← digits_decimal, ← digits_decimal, h]
  have hm : Nat.ofDigitChars 10 (Nat.toDigits 10 m) 0 = m :=
    Nat.ofDigitChars_toDigits (by decide) (by decide)
  rw [hdigits, Nat.ofDigitChars_toDigits (by decide) (by decide)] at hm
  exact hm.symm

/-- A text that ends with a delimiter it does not have can be told from what follows it. -/
theorem delimited_inj {delimiter : α} {a b x y : List α} (ha : delimiter ∉ a) (hb : delimiter ∉ b)
    (h : a ++ delimiter :: x = b ++ delimiter :: y) : a = b ∧ x = y := by
  induction a generalizing b with
  | nil =>
    cases b with
    | nil =>
      cases h
      exact ⟨rfl, rfl⟩
    | cons other b =>
      cases h
      exact absurd List.mem_cons_self hb
  | cons first a ih =>
    cases b with
    | nil =>
      cases h
      exact absurd List.mem_cons_self ha
    | cons other b =>
      rw [List.cons_append, List.cons_append, List.cons.injEq] at h
      obtain ⟨rfl, h⟩ := h
      obtain ⟨rfl, hrest⟩ := ih (fun hin => ha (List.mem_cons_of_mem _ hin))
        (fun hin => hb (List.mem_cons_of_mem _ hin)) h
      exact ⟨rfl, hrest⟩

theorem length_excerpt {l : List α} (hstop : stop ≤ l.length) :
    (excerpt start stop l).length = stop - start := by
  rw [excerpt, List.length_take, List.length_drop]
  omega

/-- Slices agree when the lists do between their ends. -/
theorem excerpt_eq_iff {l l' : List α} :
    excerpt start stop l = excerpt start stop l' ↔
      ∀ i, start ≤ i → i < stop → l[i]? = l'[i]? := by
  constructor
  · intro h i hfrom hto
    have hi := congrArg (·[i - start]?) h
    simp only [excerpt, List.getElem?_take, List.getElem?_drop] at hi
    rw [if_pos (by omega), if_pos (by omega)] at hi
    rwa [Nat.add_sub_cancel' hfrom] at hi
  · intro h
    apply List.ext_getElem?
    intro i
    simp only [excerpt, List.getElem?_take, List.getElem?_drop]
    split
    next hlt => exact h (start + i) (by omega) (by omega)
    next => rfl

/-- An excerpt is its first part and what is behind it. -/
theorem excerpt_append {l : List α} (hmiddle : start ≤ middle) (hstop : middle ≤ stop) :
    excerpt start middle l ++ excerpt middle stop l = excerpt start stop l := by
  have hsplit : stop - start = (middle - start) + (stop - middle) := by omega
  have hdrop : start + (middle - start) = middle := by omega
  rw [excerpt, excerpt, excerpt, hsplit, List.take_add, List.drop_drop, hdrop]

end Framing

end RipDvd
