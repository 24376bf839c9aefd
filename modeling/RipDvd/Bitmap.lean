import Mathlib.Data.Nat.Bitwise
import Mathlib.Data.Nat.Count
import Mathlib.Data.List.Range

namespace RipDvd
set_option autoImplicit true

/-- A bit of a packed bitmap, the lowest bit of a byte first. -/
def bitmapBit (bitmap : List UInt8) (i : Nat) : Bool :=
  bitmap.getD (i / 8) 0 &&& UInt8.ofNat (1 <<< (i % 8)) ≠ 0

def setBitmapBit (bitmap : List UInt8) (i : Nat) : List UInt8 :=
  bitmap.set (i / 8) (bitmap.getD (i / 8) 0 ||| UInt8.ofNat (1 <<< (i % 8)))

theorem toNat_mask (i : Nat) : (UInt8.ofNat (1 <<< (i % 8))).toNat = 2 ^ (i % 8) := by
  have h : 2 ^ (i % 8) < 2 ^ 8 := Nat.pow_lt_pow_right (by decide) (Nat.mod_lt _ (by decide))
  rw [UInt8.toNat_ofNat', Nat.one_shiftLeft]
  exact Nat.mod_eq_of_lt h

theorem bitmapBit_eq_testBit (bitmap : List UInt8) (i : Nat) :
    bitmapBit bitmap i = (bitmap.getD (i / 8) 0).toNat.testBit (i % 8) := by
  rw [bitmapBit, Bool.eq_iff_iff, decide_eq_true_iff, ne_eq, ← UInt8.toNat_inj, UInt8.toNat_and,
    toNat_mask, Nat.and_two_pow]
  cases (bitmap.getD (i / 8) 0).toNat.testBit (i % 8) with
  | false => simp
  | true => simp

theorem bitmapBit_setBitmapBit {bitmap : List UInt8} {i j : Nat}
    (hi : i < 8 * bitmap.length) :
    bitmapBit (setBitmapBit bitmap i) j = (decide (j = i) || bitmapBit bitmap j) := by
  have hbyte : i / 8 < bitmap.length := by omega
  rw [bitmapBit_eq_testBit, bitmapBit_eq_testBit, setBitmapBit]
  by_cases hj : j / 8 = i / 8
  · have hget : (bitmap.set (i / 8) (bitmap.getD (i / 8) 0 ||| UInt8.ofNat (1 <<< (i % 8)))).getD
        (j / 8) 0 = bitmap.getD (i / 8) 0 ||| UInt8.ofNat (1 <<< (i % 8)) := by
      rw [hj, List.getD_eq_getElem?_getD, List.getElem?_set_self hbyte]
      rfl
    have hbit : i % 8 = j % 8 ↔ j = i := by omega
    rw [hget, UInt8.toNat_or, toNat_mask, Nat.testBit_or, Nat.testBit_two_pow, hj, Bool.or_comm]
    simp only [hbit]
  · have hget : (bitmap.set (i / 8) (bitmap.getD (i / 8) 0 ||| UInt8.ofNat (1 <<< (i % 8)))).getD
        (j / 8) 0 = bitmap.getD (j / 8) 0 := by
      rw [List.getD_eq_getElem?_getD, List.getElem?_set_ne (Ne.symm hj),
        List.getD_eq_getElem?_getD]
    have hne : j ≠ i := fun h => hj (by rw [h])
    rw [hget, decide_eq_false hne, Bool.false_or]

@[simp] theorem length_setBitmapBit (bitmap : List UInt8) (i : Nat) :
    (setBitmapBit bitmap i).length = bitmap.length := by
  simp [setBitmapBit]

theorem bitmapBit_of_length_le {bitmap : List UInt8} {i : Nat} (h : 8 * bitmap.length ≤ i) :
    bitmapBit bitmap i = false := by
  have hbyte : bitmap.length ≤ i / 8 := by omega
  rw [bitmapBit_eq_testBit, List.getD_eq_getElem?_getD, List.getElem?_eq_none hbyte]
  simp

@[simp] theorem bitmapBit_replicate (n i : Nat) : bitmapBit (List.replicate n 0) i = false := by
  rw [bitmapBit_eq_testBit, List.getD_eq_getElem?_getD, List.getElem?_replicate]
  split <;> simp

/-- A bit where a run of set bits starts. -/
def runStart (p : Nat → Bool) (i : Nat) : Bool := p i && (i = 0 || !p (i - 1))

/-- The runs found below some index, and the start of the run still open there. -/
structure RunScan where
  runs : List (Nat × Nat)
  rangeStart : Option Nat
  deriving DecidableEq

namespace RunScan

def step (p : Nat → Bool) (scan : RunScan) (i : Nat) : RunScan :=
  match scan.rangeStart with
  | none => if p i then { scan with rangeStart := some i } else scan
  | some start =>
    if p i then scan else { runs := scan.runs ++ [(start, i - start)], rangeStart := none }

def close (scan : RunScan) (n : Nat) : List (Nat × Nat) :=
  match scan.rangeStart with
  | none => scan.runs
  | some start => scan.runs ++ [(start, n - start)]

def scanTo (p : Nat → Bool) (n : Nat) : RunScan := (List.range n).foldl (step p) ⟨[], none⟩

end RunScan

/-- Runs apart from each other, none of them empty, all of them ending by `n`. -/
structure RunsApart (runs : List (Nat × Nat)) (n : Nat) : Prop where
  apart : runs.Pairwise fun a b => a.1 + a.2 < b.1
  nonempty : ∀ run ∈ runs, 0 < run.2
  below : ∀ run ∈ runs, run.1 + run.2 ≤ n

/-- What a scan knows about the bits it has passed. -/
structure RunScan.Passed (p : Nat → Bool) (n : Nat) (scan : RunScan) : Prop where
  opened : ∀ start ∈ scan.rangeStart, start < n ∧ ∀ run ∈ scan.runs, run.1 + run.2 < start
  live : scan.rangeStart.isSome = (decide (0 < n) && p (n - 1))
  separated : RunsApart scan.runs n
  closed : scan.rangeStart = none → ∀ run ∈ scan.runs, run.1 + run.2 < n
  lasts : ∀ run ∈ scan.runs, p (run.1 + run.2 - 1) = true
  bits : ((scan.close n).map Prod.snd).sum = Nat.count (p · = true) n
  count : (scan.close n).length = Nat.count (runStart p · = true) n

theorem RunsApart.succ (h : RunsApart runs n) : RunsApart runs (n + 1) :=
  ⟨h.apart, h.nonempty, fun run hrun => (h.below run hrun).trans (Nat.le_succ n)⟩

/-- A run more, after all the others. -/
theorem RunsApart.append (h : RunsApart runs n) (hstart : start < n)
    (hbelow : ∀ run ∈ runs, run.1 + run.2 < start) :
    RunsApart (runs ++ [(start, n - start)]) n := by
  constructor
  · rw [List.pairwise_append]
    refine ⟨h.apart, List.pairwise_singleton _ _, ?_⟩
    intro run hrun last hlast
    rw [List.mem_singleton.1 hlast]
    exact hbelow run hrun
  · intro run hrun
    cases List.mem_append.1 hrun with
    | inl hrun => exact h.nonempty run hrun
    | inr hrun =>
      rw [List.mem_singleton.1 hrun]
      exact Nat.sub_pos_of_lt hstart
  · intro run hrun
    cases List.mem_append.1 hrun with
    | inl hrun => exact h.below run hrun
    | inr hrun =>
      rw [List.mem_singleton.1 hrun]
      exact (Nat.add_sub_of_le hstart.le).le

namespace RunScan.Passed

variable {p : Nat → Bool} {scan : RunScan}

theorem idle (h : scan.Passed p n) (hopen : scan.rangeStart = none) :
    n = 0 ∨ p (n - 1) = false := by
  have hlive := h.live
  rw [hopen] at hlive
  cases n with
  | zero => exact .inl rfl
  | succ n => exact .inr (by simpa using hlive.symm)

theorem running (h : scan.Passed p n) (hopen : scan.rangeStart = some start) :
    0 < n ∧ p (n - 1) = true := by
  have hlive := h.live
  rw [hopen] at hlive
  simpa using hlive.symm

theorem opens (h : scan.Passed p n) (hopen : scan.rangeStart = none) (hp : p n = true) :
    ({ scan with rangeStart := some n } : RunScan).Passed p (n + 1) := by
  have hstart : runStart p n = true := by
    cases h.idle hopen with
    | inl hn => rw [runStart, hp, hn]; rfl
    | inr hn => simp [runStart, hp, hn]
  have hbits := h.bits
  have hcount := h.count
  simp only [close, hopen] at hbits hcount
  refine ⟨?_, by simp [hp], h.separated.succ, by simp, h.lasts, ?_, ?_⟩
  · intro start hmem
    cases hmem
    exact ⟨Nat.lt_succ_self n, h.closed hopen⟩
  · simp [close, Nat.count_succ, hp, hbits]
  · simp [close, Nat.count_succ, hstart, hcount]

theorem quiet (h : scan.Passed p n) (hopen : scan.rangeStart = none) (hp : p n = false) :
    scan.Passed p (n + 1) := by
  have hstart : runStart p n = false := by simp [runStart, hp]
  have hbits := h.bits
  have hcount := h.count
  simp only [close, hopen] at hbits hcount
  refine ⟨by simp [hopen], by simp [hopen, hp], h.separated.succ, ?_, h.lasts, ?_, ?_⟩
  · exact fun _ run hrun => (h.closed hopen run hrun).trans (Nat.lt_succ_self n)
  · simp [close, hopen, Nat.count_succ, hp, hbits]
  · simp [close, hopen, Nat.count_succ, hstart, hcount]

theorem continues (h : scan.Passed p n) (hopen : scan.rangeStart = some start)
    (hp : p n = true) : scan.Passed p (n + 1) := by
  obtain ⟨hstart, hbelow⟩ := h.opened start hopen
  obtain ⟨hn, hbefore⟩ := h.running hopen
  have hnot : runStart p n = false := by simp [runStart, hn.ne', hbefore]
  have hbits := h.bits
  have hcount := h.count
  simp only [close, hopen, List.map_append, List.sum_append, List.length_append, List.map_cons,
    List.map_nil, List.sum_cons, List.sum_nil, List.length_cons, List.length_nil] at hbits hcount
  refine ⟨?_, by simp [hopen, hp], h.separated.succ, by simp [hopen], h.lasts, ?_, ?_⟩
  · intro other hmem
    rw [hopen] at hmem
    cases hmem
    exact ⟨hstart.trans (Nat.lt_succ_self n), hbelow⟩
  · simp [close, hopen, Nat.count_succ, hp]
    omega
  · simp [close, hopen, Nat.count_succ, hnot]
    omega

theorem closes (h : scan.Passed p n) (hopen : scan.rangeStart = some start)
    (hp : p n = false) :
    ({ runs := scan.runs ++ [(start, n - start)], rangeStart := none } : RunScan).Passed p
      (n + 1) := by
  obtain ⟨hstart, hbelow⟩ := h.opened start hopen
  obtain ⟨hn, hbefore⟩ := h.running hopen
  have hnot : runStart p n = false := by simp [runStart, hp]
  have hbits := h.bits
  have hcount := h.count
  simp only [close, hopen] at hbits hcount
  have happended := h.separated.append hstart hbelow
  refine ⟨by simp, by simp [hp], happended.succ, ?_, ?_, ?_, ?_⟩
  · exact fun _ run hrun => Nat.lt_succ_of_le (happended.below run hrun)
  · intro run hrun
    cases List.mem_append.1 hrun with
    | inl hrun => exact h.lasts run hrun
    | inr hrun =>
      rw [List.mem_singleton.1 hrun]
      simpa [Nat.add_sub_of_le hstart.le] using hbefore
  · simpa [close, Nat.count_succ, hp] using hbits
  · simpa [close, Nat.count_succ, hnot] using hcount

theorem step (h : scan.Passed p n) : (scan.step p n).Passed p (n + 1) := by
  cases hopen : scan.rangeStart with
  | none =>
    cases hp : p n with
    | true => simpa [RunScan.step, hopen, hp] using h.opens hopen hp
    | false => simpa [RunScan.step, hopen, hp] using h.quiet hopen hp
  | some start =>
    cases hp : p n with
    | true => simpa [RunScan.step, hopen, hp] using h.continues hopen hp
    | false => simpa [RunScan.step, hopen, hp] using h.closes hopen hp

/-- The runs of a finished scan, its last one closed at the end. -/
theorem close_apart (h : scan.Passed p n) : RunsApart (scan.close n) n := by
  cases hopen : scan.rangeStart with
  | none => simpa [close, hopen] using h.separated
  | some start =>
    obtain ⟨hstart, hbelow⟩ := h.opened start hopen
    simpa [close, hopen] using h.separated.append hstart hbelow

theorem close_below (h : scan.Passed p n) (hbits : ∀ i, p i = true → i < bound)
    (hrun : run ∈ scan.close n) : run.1 + run.2 ≤ bound := by
  have hlast : p (run.1 + run.2 - 1) = true := by
    cases hopen : scan.rangeStart with
    | none => exact h.lasts run (by simpa [close, hopen] using hrun)
    | some start =>
      obtain ⟨hstart, _⟩ := h.opened start hopen
      simp only [close, hopen, List.mem_append, List.mem_singleton] at hrun
      cases hrun with
      | inl hrun => exact h.lasts run hrun
      | inr hrun =>
        rw [hrun]
        simpa [Nat.add_sub_of_le hstart.le] using (h.running hopen).2
  have hpos := h.close_apart.nonempty run hrun
  have hlt := hbits _ hlast
  omega

end RunScan.Passed

theorem RunScan.scanTo_passed (p : Nat → Bool) (n : Nat) : (RunScan.scanTo p n).Passed p n := by
  induction n with
  | zero => exact ⟨by simp [RunScan.scanTo], by simp [RunScan.scanTo],
      ⟨by simp [RunScan.scanTo], by simp [RunScan.scanTo], by simp [RunScan.scanTo]⟩,
      by simp [RunScan.scanTo], by simp [RunScan.scanTo],
      by simp [RunScan.scanTo, RunScan.close],
      by simp [RunScan.scanTo, RunScan.close]⟩
  | succ n ih =>
    have hstep := ih.step
    rwa [RunScan.scanTo, List.range_succ, List.foldl_append]

def hexDigits : List Char := "0123456789abcdef".toList

def hexDigitValue (c : Char) : Option Nat := hexDigits.idxOf? c

/-- A byte as two digits, the high one first. -/
def byteHex (byte : UInt8) : List Char :=
  [hexDigits.getD (byte >>> 4).toNat '0', hexDigits.getD (byte &&& 0x0f).toNat '0']

/-- `Buffer.toString("hex")`. -/
def toHex (bytes : List UInt8) : String := String.ofList (bytes.flatMap byteHex)

/-- The bytes of a string of pairs of lowercase digits. -/
def ofHexDigits : List Char → Option (List UInt8)
  | [] => some []
  | [_] => none
  | high :: low :: rest => do
    let high ← hexDigitValue high
    let low ← hexDigitValue low
    let rest ← ofHexDigits rest
    return UInt8.ofNat (high * 16 + low) :: rest

theorem hexDigitValue_digit : ∀ n < 16, hexDigitValue (hexDigits.getD n '0') = some n := by
  decide

theorem nibbles_lt (byte : UInt8) :
    (byte >>> 4).toNat < 16 ∧ (byte &&& 0x0f).toNat < 16 := by
  constructor
  · have h := byte.toNat_lt
    rw [UInt8.toNat_shiftRight]
    simp [Nat.shiftRight_eq_div_pow]
    omega
  · rw [UInt8.toNat_and]
    exact Nat.lt_succ_of_le Nat.and_le_right

theorem ofHexDigits_byteHex (byte : UInt8) (rest : List Char) :
    ofHexDigits (byteHex byte ++ rest) = (ofHexDigits rest).map (byte :: ·) := by
  obtain ⟨hhigh, hlow⟩ := nibbles_lt byte
  have hbyte : UInt8.ofNat ((byte >>> 4).toNat * 16 + (byte &&& 0x0f).toNat) = byte := by
    have h := byte.toNat_lt
    rw [← UInt8.toNat_inj, UInt8.toNat_ofNat', UInt8.toNat_shiftRight, UInt8.toNat_and]
    have h16 : (0x0f : UInt8).toNat = 2 ^ 4 - 1 := rfl
    rw [h16, Nat.and_two_pow_sub_one_eq_mod]
    simp [Nat.shiftRight_eq_div_pow]
    omega
  simp only [byteHex, List.cons_append, List.nil_append, ofHexDigits,
    hexDigitValue_digit _ hhigh, hexDigitValue_digit _ hlow]
  cases ofHexDigits rest with
  | none => rfl
  | some bytes => exact congrArg (fun b => some (b :: bytes)) hbyte

theorem ofHexDigits_flatMap (bytes : List UInt8) :
    ofHexDigits (bytes.flatMap byteHex) = some bytes := by
  induction bytes with
  | nil => rfl
  | cons byte bytes ih => rw [List.flatMap_cons, ofHexDigits_byteHex, ih]; rfl

theorem length_toHex (bytes : List UInt8) : (toHex bytes).length = bytes.length * 2 := by
  induction bytes with
  | nil => rfl
  | cons byte bytes ih =>
    simp only [toHex, String.length_ofList, List.flatMap_cons, List.length_append,
      List.length_cons] at ih ⊢
    rw [ih]
    simp only [byteHex, List.length_cons, List.length_nil]
    omega

end RipDvd
