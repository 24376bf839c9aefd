import RipDvd.Bitmap
import Mathlib.Data.List.Count
import Mathlib.Data.List.Pairwise

namespace RipDvd
set_option autoImplicit true

/-- A bit belongs to the run that was open when it was passed. -/
theorem RunScan.scanTo_mem (p : Nat → Bool) (hi : i < n) :
    p i = true ↔ ∃ run ∈ (scanTo p n).close n, run.1 ≤ i ∧ i < run.1 + run.2 := by
  induction n with
  | zero => cases hi
  | succ n ih =>
    have hpassed := scanTo_passed p n
    have hstep : scanTo p (n + 1) = (scanTo p n).step p n := by
      rw [scanTo, List.range_succ, List.foldl_append]
      rfl
    have hbelow : ∀ run ∈ (scanTo p n).close n, run.1 + run.2 ≤ n :=
      hpassed.close_apart.below
    rw [hstep]
    cases hopen : (scanTo p n).rangeStart with
    | none =>
      simp only [close, hopen] at ih hbelow
      cases hp : p n with
      | true =>
        simp only [RunScan.step, hopen, hp, if_true, close, List.mem_append, List.mem_singleton]
        rcases Nat.lt_succ_iff_lt_or_eq.1 hi with hlt | rfl
        · rw [ih hlt]
          constructor
          · rintro ⟨run, hrun, hin⟩
            exact ⟨run, .inl hrun, hin⟩
          · rintro ⟨run, hrun | rfl, hin⟩
            · exact ⟨run, hrun, hin⟩
            · exact absurd hin.1 (Nat.not_le.2 hlt)
        · refine iff_of_true hp ⟨(i, i + 1 - i), .inr rfl, le_rfl, ?_⟩
          simp only
          omega
      | false =>
        simp only [RunScan.step, hopen, hp, Bool.false_eq_true, if_false, close]
        rcases Nat.lt_succ_iff_lt_or_eq.1 hi with hlt | rfl
        · exact ih hlt
        · refine iff_of_false (by simp [hp]) ?_
          rintro ⟨run, hrun, -, hin⟩
          exact absurd (hbelow run hrun) (Nat.not_le.2 hin)
    | some start =>
      obtain ⟨hstart, -⟩ := hpassed.opened start hopen
      simp only [close, hopen, List.mem_append, List.mem_singleton] at ih hbelow
      cases hp : p n with
      | true =>
        simp only [RunScan.step, hopen, hp, if_true, close, List.mem_append, List.mem_singleton]
        rcases Nat.lt_succ_iff_lt_or_eq.1 hi with hlt | rfl
        · rw [ih hlt]
          constructor
          · rintro ⟨run, hrun | rfl, hin⟩
            · exact ⟨run, .inl hrun, hin⟩
            · exact ⟨_, .inr rfl, by simp only at hin ⊢; omega⟩
          · rintro ⟨run, hrun | rfl, hin⟩
            · exact ⟨run, .inl hrun, hin⟩
            · exact ⟨_, .inr rfl, by simp only at hin ⊢; omega⟩
        · refine iff_of_true hp ⟨_, .inr rfl, ?_⟩
          simp only
          omega
      | false =>
        simp only [RunScan.step, hopen, hp, Bool.false_eq_true, if_false, close, List.mem_append,
          List.mem_singleton]
        rcases Nat.lt_succ_iff_lt_or_eq.1 hi with hlt | rfl
        · exact ih hlt
        · refine iff_of_false (by simp [hp]) ?_
          rintro ⟨run, hrun, -, hin⟩
          exact absurd (hbelow run hrun) (Nat.not_le.2 hin)

/-- Two runs are the same, or one ends before the other begins. -/
theorem RunsApart.cases (h : RunsApart runs n) (ha : a ∈ runs) (hb : b ∈ runs) :
    a = b ∨ a.1 + a.2 < b.1 ∨ b.1 + b.2 < a.1 := by
  have hsymm : Std.Symm fun a b : Nat × Nat => a.1 + a.2 < b.1 ∨ b.1 + b.2 < a.1 :=
    ⟨fun _ _ h => h.symm⟩
  by_cases heq : a = b
  · exact .inl heq
  · have hapart : runs.Pairwise fun a b => a.1 + a.2 < b.1 ∨ b.1 + b.2 < a.1 :=
      h.apart.imp fun h => .inl h
    exact .inr (hapart.forall ha hb heq)

/-- Bits in a row are in one run. -/
theorem RunScan.run_of_bits (p : Nat → Bool) (hcount : 0 < count) (hn : start + count ≤ n)
    (hbits : ∀ i, start ≤ i → i < start + count → p i = true) :
    ∃ run ∈ (scanTo p n).close n, run.1 ≤ start ∧ start + count ≤ run.1 + run.2 := by
  have hfirst : start < n := by omega
  obtain ⟨run, hrun, hle, hlt⟩ :=
    (scanTo_mem p hfirst).1 (hbits start le_rfl (Nat.lt_add_of_pos_right hcount))
  refine ⟨run, hrun, hle, ?_⟩
  by_contra hshort
  -- the bit right after the run is set too, and is in a run that touches it
  have hnext : run.1 + run.2 < n := by omega
  obtain ⟨other, hother, ho, hin⟩ := (scanTo_mem p hnext).1 (hbits _ (by omega) (by omega))
  rcases (scanTo_passed p n).close_apart.cases hrun hother with rfl | h | h <;> omega

/-- Set bits of a map. -/
def setBitmapBits (bitmap : List UInt8) (start count : Nat) : List UInt8 :=
  (List.range' start count).foldl setBitmapBit bitmap

@[simp] theorem length_setBitmapBits (bitmap : List UInt8) (start count : Nat) :
    (setBitmapBits bitmap start count).length = bitmap.length := by
  induction count generalizing bitmap start with
  | zero => rfl
  | succ count ih =>
    rw [setBitmapBits, List.range'_succ, List.foldl_cons]
    exact (ih _ _).trans (length_setBitmapBit _ _)

theorem bitmapBit_setBitmapBits {bitmap : List UInt8} (hwidth : start + count ≤ 8 * bitmap.length) :
    bitmapBit (setBitmapBits bitmap start count) i =
      (decide (start ≤ i ∧ i < start + count) || bitmapBit bitmap i) := by
  induction count generalizing bitmap start with
  | zero =>
    have hempty : ¬(start ≤ i ∧ i < start + 0) := by omega
    rw [decide_eq_false hempty]
    rfl
  | succ count ih =>
    rw [setBitmapBits, List.range'_succ, List.foldl_cons, ← setBitmapBits, ih (by simp; omega),
      bitmapBit_setBitmapBit (by omega), ← Bool.or_assoc]
    congr 1
    rw [← Bool.decide_or, decide_eq_decide]
    omega

theorem countP_range (p : Nat → Bool) (n : Nat) :
    (List.range n).countP p = Nat.count (p · = true) n := by
  induction n with
  | zero => rfl
  | succ n ih => rw [List.range_succ, List.countP_append, ih, Nat.count_succ, List.countP_singleton]

/-- Bits set from an index on add to the count up to them, and a run more unless they touch one. -/
theorem count_append_bits {p q : Nat → Bool} (hcount : 0 < count)
    (hq : ∀ i, q i = (decide (lba ≤ i ∧ i < lba + count) || p i)) :
    Nat.count (q · = true) (lba + count) = Nat.count (p · = true) lba + count ∧
    Nat.count (runStart q · = true) (lba + count) = Nat.count (runStart p · = true) lba +
      if lba = 0 ∨ p (lba - 1) = false then 1 else 0 := by
  have hold (i : Nat) (hi : i < lba) : q i = p i := by
    rw [hq, decide_eq_false (by omega), Bool.false_or]
  have hnew (i : Nat) (hi : lba ≤ i) (hlt : i < lba + count) : q i = true := by
    rw [hq, decide_eq_true ⟨hi, hlt⟩, Bool.true_or]
  have hbits : Nat.count (fun i => q (lba + i) = true) count = count := by
    apply (Nat.count_eq_card_filter_range _ _).trans
    rw [Finset.filter_true_of_mem, Finset.card_range]
    exact fun i hi => hnew _ (by omega) (by have := Finset.mem_range.1 hi; omega)
  have hsame : Nat.count (q · = true) lba = Nat.count (p · = true) lba := by
    rw [Nat.count_eq_card_filter_range, Nat.count_eq_card_filter_range]
    congr 1
    apply Finset.filter_congr
    intro i hi
    rw [hold i (Finset.mem_range.1 hi)]
  have hstarts : Nat.count (runStart q · = true) lba = Nat.count (runStart p · = true) lba := by
    rw [Nat.count_eq_card_filter_range, Nat.count_eq_card_filter_range]
    congr 1
    apply Finset.filter_congr
    intro i hi
    have hi := Finset.mem_range.1 hi
    rw [runStart, runStart, hold i hi, hold (i - 1) (by omega)]
  have hrest : ∀ k, Nat.count (fun i => runStart q (lba + (i + 1)) = true) k = 0 ∨ count ≤ k := by
    intro k
    by_cases hk : count ≤ k
    · exact .inr hk
    · refine .inl ((Nat.count_eq_card_filter_range _ _).trans ?_)
      rw [Finset.card_eq_zero, Finset.filter_eq_empty_iff]
      intro i hi
      have hi := Finset.mem_range.1 hi
      simp [runStart, hnew (lba + i) (by omega) (by omega), ← Nat.add_assoc]
  refine ⟨by rw [Nat.count_add, hsame, hbits], ?_⟩
  rw [Nat.count_add, hstarts]
  congr 1
  obtain ⟨k, rfl⟩ := Nat.exists_eq_succ_of_ne_zero hcount.ne'
  have htail := (hrest k).resolve_right (by omega)
  rw [Nat.succ_eq_one_add, Nat.count_add]
  have hfirst : runStart q lba = true ↔ lba = 0 ∨ p (lba - 1) = false := by
    rw [runStart, hnew lba le_rfl (by omega), Bool.true_and, Bool.or_eq_true, decide_eq_true_eq]
    by_cases hzero : lba = 0
    · simp [hzero]
    · rw [hold (lba - 1) (by omega)]
      simp [hzero]
  simp only [Nat.add_comm 1, htail, Nat.add_zero, Nat.count_succ, Nat.count_zero, Nat.zero_add,
    hfirst]

/-- The set bits of a byte. -/
def bitCount (byte : UInt8) : Nat :=
  (List.range 8).countP fun bit => byte.toNat.testBit bit

theorem bitmapBit_cons_low (byte : UInt8) (bitmap : List UInt8) (hi : i < 8) :
    bitmapBit (byte :: bitmap) i = byte.toNat.testBit i := by
  rw [bitmapBit_eq_testBit, Nat.div_eq_of_lt hi, Nat.mod_eq_of_lt hi]
  rfl

theorem bitmapBit_cons_high (byte : UInt8) (bitmap : List UInt8) (i : Nat) :
    bitmapBit (byte :: bitmap) (8 + i) = bitmapBit bitmap i := by
  rw [bitmapBit_eq_testBit, bitmapBit_eq_testBit, Nat.add_mod_left,
    Nat.add_div_left i (by decide : 0 < 8), List.getD_cons_succ]

/-- The bits of the bytes are the bits of the map. -/
theorem sum_bitCount (bitmap : List UInt8) :
    (bitmap.map bitCount).sum = Nat.count (bitmapBit bitmap · = true) (8 * bitmap.length) := by
  induction bitmap with
  | nil => rfl
  | cons byte bitmap ih =>
    rw [List.map_cons, List.sum_cons, ih, List.length_cons, Nat.mul_succ, Nat.add_comm _ 8,
      Nat.count_add]
    simp only [bitmapBit_cons_high]
    congr 1
    rw [bitCount, countP_range, Nat.count_eq_card_filter_range, Nat.count_eq_card_filter_range]
    congr 1
    apply Finset.filter_congr
    intro i hi
    rw [bitmapBit_cons_low byte bitmap (Finset.mem_range.1 hi)]

/-- The last byte has no bit from the last index on. -/
theorem last_byte_clear {bitmap : List UInt8} (hlength : bitmap.length = (total + 7) / 8)
    (hbits : ∀ i, bitmapBit bitmap i = true → i < total) (hpart : total % 8 ≠ 0) :
    (bitmap.getLastD 0).toNat >>> (total % 8) = 0 := by
  have hlast : bitmap.getLastD 0 = bitmap.getD (total / 8) 0 := by
    rw [List.getLastD_eq_getLast?, List.getLast?_eq_getElem?, List.getD_eq_getElem?_getD]
    congr 2
    omega
  apply Nat.eq_of_testBit_eq
  intro j
  rw [Nat.testBit_shiftRight, Nat.zero_testBit, hlast]
  by_cases hj : total % 8 + j < 8
  · have hindex := hbits (total / 8 * 8 + (total % 8 + j))
    have hdiv : (total / 8 * 8 + (total % 8 + j)) / 8 = total / 8 := by omega
    have hmod : (total / 8 * 8 + (total % 8 + j)) % 8 = total % 8 + j := by omega
    rw [bitmapBit_eq_testBit, hdiv, hmod] at hindex
    by_contra hset
    have hlt := hindex (Bool.eq_true_of_not_eq_false hset)
    omega
  · apply Nat.testBit_lt_two_pow
    have hbyte : (bitmap.getD (total / 8) 0).toNat < 2 ^ 8 := UInt8.toNat_lt _
    exact hbyte.trans_le (Nat.pow_le_pow_right (by decide) (Nat.le_of_not_lt hj))

/-- A map is its bits. -/
theorem bitmap_ext {a b : List UInt8} (hlength : a.length = b.length)
    (h : ∀ i, bitmapBit a i = bitmapBit b i) : a = b := by
  apply List.ext_getElem hlength
  intro n ha hb
  apply UInt8.toNat_inj.1
  apply Nat.eq_of_testBit_eq
  intro j
  by_cases hj : j < 8
  · have hbit := h (n * 8 + j)
    have hdiv : (n * 8 + j) / 8 = n := by omega
    have hmod : (n * 8 + j) % 8 = j := by omega
    rw [bitmapBit_eq_testBit, bitmapBit_eq_testBit, hdiv, hmod] at hbit
    simpa [List.getD_eq_getElem?_getD, List.getElem?_eq_getElem ha,
      List.getElem?_eq_getElem hb] using hbit
  · have hpow : 2 ^ 8 ≤ 2 ^ j := Nat.pow_le_pow_right (by decide) (Nat.le_of_not_lt hj)
    rw [Nat.testBit_lt_two_pow (a[n].toNat_lt.trans_le hpow),
      Nat.testBit_lt_two_pow (b[n].toNat_lt.trans_le hpow)]

theorem hexDigitValue_some (h : hexDigitValue c = some n) :
    n < 16 ∧ hexDigits.getD n '0' = c := by
  obtain ⟨hn, hc, -⟩ := List.idxOf?_eq_some_iff.1 h
  exact ⟨hn, (List.getElem_eq_getD '0').symm.trans hc⟩

theorem byteHex_digits (hhigh : hexDigitValue high = some a) (hlow : hexDigitValue low = some b) :
    byteHex (UInt8.ofNat (a * 16 + b)) = [high, low] := by
  obtain ⟨ha, rfl⟩ := hexDigitValue_some hhigh
  obtain ⟨hb, rfl⟩ := hexDigitValue_some hlow
  have hbyte : (UInt8.ofNat (a * 16 + b)).toNat = a * 16 + b := by
    rw [UInt8.toNat_ofNat']
    omega
  have h1 : (UInt8.ofNat (a * 16 + b) >>> 4).toNat = a := by
    rw [UInt8.toNat_shiftRight, hbyte]
    simp [Nat.shiftRight_eq_div_pow]
    omega
  have h2 : (UInt8.ofNat (a * 16 + b) &&& 0x0f).toNat = b := by
    have h16 : (0x0f : UInt8).toNat = 2 ^ 4 - 1 := rfl
    rw [UInt8.toNat_and, hbyte, h16, Nat.and_two_pow_sub_one_eq_mod]
    omega
  rw [byteHex, h1, h2]

/-- The digits that bytes were read from are the digits of the bytes. -/
theorem flatMap_ofHexDigits (h : ofHexDigits digits = some bytes) :
    bytes.flatMap byteHex = digits := by
  induction digits using ofHexDigits.induct generalizing bytes with
  | case1 =>
    cases h
    rfl
  | case2 => cases h
  | case3 high low rest ih =>
    simp only [ofHexDigits, Option.bind_eq_bind, Option.bind_eq_some_iff] at h
    obtain ⟨a, ha, b, hb, bytes, hrest, hbytes⟩ := h
    cases hbytes
    rw [List.flatMap_cons, byteHex_digits ha hb, ih hrest]
    rfl

end RipDvd
