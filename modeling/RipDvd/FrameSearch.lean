import RipDvd.Borders

namespace RipDvd
set_option autoImplicit true

open Borders

structure Frame where
  pts : Option Int
  duration : Option Int
  sha256 : String
  deriving DecidableEq

/-- The digest of a frame that is there. -/
def digestAt (frames : List Frame) (index : Nat) : Option String := frames[index]?.map (·.sha256)

/-- The `while` loop: fall back until the digest goes on or nothing is left. -/
def fallBack (source : List Frame) (table : List Nat) (digest : String) : Nat → Nat → Option Nat
  | _, 0 => some 0
  | 0, _ + 1 => none
  | fuel + 1, j + 1 => do
    let other ← digestAt source (j + 1)
    if digest = other then return j + 1
    else do
      let next ← table[j]?
      fallBack source table digest fuel next

/-- The length of the match once a digest has been read. -/
def advanceMatch (source : List Frame) (table : List Nat) (digest : String) (j : Nat) :
    Option Nat := do
  let j ← fallBack source table digest j j
  let other ← digestAt source j
  return if digest = other then j + 1 else j

def prefixStep (source : List Frame) (state : List Nat × Nat) (i : Nat) :
    Option (List Nat × Nat) := do
  let digest ← digestAt source i
  let j ← advanceMatch source state.1 digest state.2
  return (state.1.set i j, j)

def prefixTable (source : List Frame) : Option (List Nat) := do
  let state ← (List.range' 1 (source.length - 1)).foldlM (prefixStep source)
    (List.replicate source.length 0, 0)
  return state.1

def scan (source : List Frame) (table : List Nat) :
    List Frame → Nat → Nat → List Nat → Option (List Nat)
  | [], _, _, found => some found
  | frame :: rest, i, j, found => do
    let j ← advanceMatch source table frame.sha256 j
    if j = source.length then
      let found := found ++ [i + 1 - j]
      if found.length = 2 then return found
      else do
        let next ← table[j - 1]?
        scan source table rest (i + 1) next found
    else scan source table rest (i + 1) j found

/-- The positions of the source frames in the output; nothing when an access is out of range. -/
def frameMatches (source output : List Frame) : Option (List Nat) := do
  let table ← prefixTable source
  scan source table output 0 0 []

/-- The digests of frames. -/
abbrev frameDigests (frames : List Frame) : List String := frames.map (·.sha256)

section Search

variable {source output : List Frame} {table : List Nat}

theorem digestAt_eq : digestAt source i = (frameDigests source)[i]? := by
  rw [digestAt, List.getElem?_map]

theorem fallBack_candidate (htable : TableOf (frameDigests source) limit table)
    (hlimit : limit < source.length) (hfuel : k ≤ fuel)
    (h : Candidate (frameDigests source) limit consumed digest k) :
    ∃ j, fallBack source table digest fuel k = some j ∧
      Candidate (frameDigests source) limit consumed digest j ∧
        (j = 0 ∨ (frameDigests source)[j]? = some digest) := by
  have hlength : (frameDigests source).length = source.length := List.length_map _
  induction fuel generalizing k with
  | zero =>
    cases Nat.le_zero.1 hfuel
    exact ⟨0, rfl, h, .inl rfl⟩
  | succ fuel ih =>
    cases k with
    | zero => exact ⟨0, rfl, h, .inl rfl⟩
    | succ k =>
      obtain ⟨other, hother⟩ : ∃ other, (frameDigests source)[k + 1]? = some other :=
        ⟨_, List.getElem?_eq_getElem (by have := h.le; omega)⟩
      have hread : digestAt source (k + 1) = some other := digestAt_eq.trans hother
      by_cases hsame : digest = other
      · refine ⟨k + 1, ?_, h, .inr (hsame ▸ hother)⟩
        rw [fallBack, hread]
        exact if_pos hsame
      · obtain ⟨next, hnext, hborder⟩ := htable k (Nat.lt_of_succ_le h.le)
        have hne : (frameDigests source)[k + 1]? ≠ some digest := by
          rw [hother]
          exact fun heq => hsame (Option.some.inj heq).symm
        have hfell := h.fallBack (by omega) hne hborder
        obtain ⟨j, hj, hfound⟩ := ih (hborder.le.trans (Nat.le_of_succ_le_succ hfuel)) hfell
        refine ⟨j, ?_, hfound⟩
        rw [fallBack, hread, ← hj]
        simp [hsame, hnext]

/-- Reading a digest keeps the longest match. -/
theorem advanceMatch_longest (digest : String) (htable : TableOf (frameDigests source) limit table)
    (hlimit : limit < source.length) (h : Longest (frameDigests source) limit consumed k) :
    ∃ j, advanceMatch source table digest k = some j ∧
      Longest (frameDigests source) (limit + 1) (consumed ++ [digest]) j := by
  have hlength : (frameDigests source).length = source.length := List.length_map _
  have hlimit' : limit < (frameDigests source).length := hlength ▸ hlimit
  obtain ⟨j, hj, hcandidate, hend⟩ := fallBack_candidate htable hlimit le_rfl (h.candidate digest)
  obtain ⟨other, hother⟩ : ∃ other, (frameDigests source)[j]? = some other :=
    ⟨_, List.getElem?_eq_getElem (hcandidate.le.trans_lt hlimit')⟩
  have hread : digestAt source j = some other := digestAt_eq.trans hother
  by_cases hsame : digest = other
  · refine ⟨j + 1, ?_, hcandidate.found hlimit' (hsame ▸ hother)⟩
    rw [hsame] at hj
    simp [advanceMatch, hj, hread, hsame]
  · have hne : (frameDigests source)[j]? ≠ some digest := by
      rw [hother]
      exact fun heq => hsame (Option.some.inj heq).symm
    cases hend.resolve_right hne
    refine ⟨0, ?_, hcandidate.lost hlimit' hne⟩
    simp [advanceMatch, hj, hread, hsame]

/-- What the construction of the table keeps: the entries so far, and the last of them. -/
structure Building (source : List Frame) (i : Nat) (state : List Nat × Nat) : Prop where
  length : state.1.length = source.length
  table : TableOf (frameDigests source) i state.1
  last : Longest (frameDigests source) (i - 1) ((frameDigests source).take i) state.2

theorem prefixStep_building (hi : i < source.length) (hpositive : 0 < i)
    (h : Building source i state) :
    ∃ state', prefixStep source state i = some state' ∧ Building source (i + 1) state' := by
  obtain ⟨table, k⟩ := state
  have hlength : (frameDigests source).length = source.length := List.length_map _
  obtain ⟨digest, hdigest⟩ : ∃ digest, (frameDigests source)[i]? = some digest :=
    ⟨_, List.getElem?_eq_getElem (hlength ▸ hi)⟩
  have hearlier : TableOf (frameDigests source) (i - 1) table := fun q hq => h.table q (by omega)
  obtain ⟨j, hj, hlongest⟩ := advanceMatch_longest digest hearlier (by omega) h.last
  have htake : (frameDigests source).take (i + 1) = (frameDigests source).take i ++ [digest] := by
    rw [List.take_add_one, hdigest, Option.toList_some]
  have hpred : i - 1 + 1 = i := Nat.sub_add_cancel hpositive
  rw [hpred, ← htake] at hlongest
  refine ⟨(table.set i j, j), ?_, ?_⟩
  · rw [prefixStep, digestAt_eq, hdigest]
    simp [hj]
  · constructor
    case length => exact List.length_set.trans h.length
    case table =>
      intro q hq
      by_cases hlast : q = i
      · rw [hlast]
        refine ⟨j, List.getElem?_set_self ?_, hlongest⟩
        rw [h.length]
        exact hi
      · obtain ⟨border, hborder, hlongest⟩ := h.table q (by omega)
        refine ⟨border, ?_, hlongest⟩
        rw [List.getElem?_set_ne (Ne.symm hlast)]
        exact hborder
    case last => exact hlongest

theorem foldlM_building (count : Nat) (hpositive : 0 < i) (hcount : i + count ≤ source.length)
    (h : Building source i state) :
    ∃ state', (List.range' i count).foldlM (prefixStep source) state = some state' ∧
      Building source (i + count) state' := by
  induction count generalizing i state with
  | zero => exact ⟨state, rfl, h⟩
  | succ count ih =>
    obtain ⟨between, hstep, hbetween⟩ := prefixStep_building (by omega) hpositive h
    obtain ⟨state', hrest, hbuilt⟩ := ih (Nat.succ_pos i) (by omega) hbetween
    refine ⟨state', ?_, ?_⟩
    · rw [List.range'_succ, List.foldlM_cons, hstep]
      exact hrest
    · rw [Nat.add_comm count 1, ← Nat.add_assoc]
      exact hbuilt

theorem prefixTable_table (hsource : source ≠ []) :
    ∃ table, prefixTable source = some table ∧
      TableOf (frameDigests source) source.length table := by
  have hlength : 0 < source.length := List.length_pos_iff.2 hsource
  have hzero (text : List String) : Longest (frameDigests source) 0 text 0 := by
    refine ⟨le_rfl, ?_, fun m hm _ => hm⟩
    rw [List.take_zero]
    exact List.nil_suffix
  have hstart : Building source 1 (List.replicate source.length 0, 0) := by
    constructor
    case length => exact List.length_replicate
    case table =>
      intro q hq
      cases Nat.lt_one_iff.1 hq
      refine ⟨0, ?_, hzero _⟩
      rw [List.getElem?_replicate, if_pos hlength]
    case last => exact hzero _
  obtain ⟨state, hstate, hbuilt⟩ := foldlM_building (source.length - 1) Nat.one_pos (by omega)
    hstart
  rw [Nat.add_sub_cancel' hlength] at hbuilt
  refine ⟨state.1, ?_, hbuilt.table⟩
  rw [prefixTable, hstate]
  rfl

/-- Whether the consumed part ends with the whole pattern. -/
theorem longest_full {pattern consumed : List String} {limit j : Nat}
    (hlimit : pattern.length ≤ limit) (h : Longest pattern limit consumed j)
    (hj : j ≤ pattern.length) : pattern <:+ consumed ↔ j = pattern.length := by
  constructor
  · intro hsuffix
    apply Nat.le_antisymm hj
    apply h.longest pattern.length hlimit
    rw [List.take_length]
    exact hsuffix
  · rintro rfl
    have hsuffix := h.suffix
    rw [List.take_length] at hsuffix
    exact hsuffix

/-- The scan finds the endings that are left, until it has two positions. -/
theorem scan_endings (htable : TableOf (frameDigests source) source.length table)
    (hsource : source ≠ []) (hfound : found.length < 2)
    (h : Longest (frameDigests source) (source.length - 1) consumed k) :
    scan source table output consumed.length k found =
      some ((found ++ endings (frameDigests source) consumed (frameDigests output)).take 2) := by
  have hpositive : 0 < source.length := List.length_pos_iff.2 hsource
  have hlength : (frameDigests source).length = source.length := List.length_map _
  have hearlier : TableOf (frameDigests source) (source.length - 1) table :=
    fun q hq => htable q (by omega)
  have hpred : source.length - 1 + 1 = source.length := Nat.sub_add_cancel hpositive
  induction output generalizing consumed k found with
  | nil =>
    have hnil : frameDigests [] = [] := rfl
    rw [scan, hnil, endings, List.append_nil, List.take_of_length_le (by omega)]
  | cons frame output ih =>
    obtain ⟨j, hj, hlongest⟩ := advanceMatch_longest frame.sha256 hearlier (by omega) h
    rw [hpred] at hlongest
    have hnext : consumed.length + 1 = (consumed ++ [frame.sha256]).length := by
      rw [List.length_append, List.length_singleton]
    have hfull := longest_full hlength.le hlongest (hlength ▸ hlongest.le)
    rw [hlength] at hfull
    have hcons : frameDigests (frame :: output) = frame.sha256 :: frameDigests output := rfl
    rw [scan, hj, Option.bind_eq_bind, Option.bind_some, hcons, endings]
    by_cases hmatch : j = source.length
    · have hsuffix := hfull.2 hmatch
      rw [if_pos hmatch, if_pos hsuffix, hlength, ← hmatch, ← List.append_assoc]
      by_cases htwo : (found ++ [consumed.length + 1 - j]).length = 2
      · rw [if_pos htwo, ← htwo, List.take_left]
        rfl
      · obtain ⟨next, hborder, hfallen⟩ := htable (j - 1) (by omega)
        have hwhole : (frameDigests source).take (j - 1 + 1) = frameDigests source :=
          List.take_of_length_le (by omega)
        rw [hwhole] at hfallen
        rw [if_neg htwo, hborder, Option.bind_some, hnext]
        apply ih
        · rw [List.length_append, List.length_singleton] at htwo ⊢
          omega
        · rw [hmatch] at hfallen
          exact hfallen.extend hsuffix
    · have hsuffix := mt hfull.1 hmatch
      rw [if_neg hmatch, if_neg hsuffix, List.nil_append, hnext]
      apply ih hfound
      refine ⟨?_, hlongest.suffix, fun m hm => hlongest.longest m (by omega)⟩
      have hle := hlongest.le
      omega

/-- The search finds the first two occurrences, and never leaves the frames or the table. -/
theorem frameMatches_exact (hsource : source ≠ []) (output : List Frame) :
    ∃ found, frameMatches source output = some found ∧
      found = (occurrences (frameDigests source) (frameDigests output)).take 2 ∧
      (found.length = 1 ↔
        ∃! position, Occurs (frameDigests source) (frameDigests output) position) := by
  have hdigests : frameDigests source ≠ [] := mt List.map_eq_nil_iff.1 hsource
  have hpositive : 0 < source.length := List.length_pos_iff.2 hsource
  have hlength : (frameDigests source).length = source.length := List.length_map _
  obtain ⟨table, htable, hentries⟩ := prefixTable_table hsource
  have hlongest := Longest.nil (frameDigests source) (source.length - 1) (by omega)
  have hstart : ([] : List Nat).length < 2 := Nat.two_pos
  have hscan : scan source table output 0 0 [] = _ := scan_endings hentries hsource hstart hlongest
  rw [List.nil_append, endings_nil hdigests] at hscan
  refine ⟨_, ?_, rfl, ?_⟩
  · rw [frameMatches, htable]
    exact hscan
  · have hascending : (occurrences (frameDigests source) (frameDigests output)).Pairwise (· < ·) :=
      List.Pairwise.filter _ List.pairwise_lt_range
    rw [take_two_single hascending]
    simp only [mem_occurrences hdigests]

end Search

/-- A frame that only its digest tells apart. -/
abbrev sampleFrame (sha256 : String) : Frame := ⟨none, none, sha256⟩

theorem frameMatches_overlapping :
    frameMatches [sampleFrame "a", sampleFrame "a"]
        [sampleFrame "a", sampleFrame "a", sampleFrame "a", sampleFrame "a"] = some [0, 1] ∧
      ¬∃! position, Occurs ["a", "a"] ["a", "a", "a", "a"] position := by
  have hsource : [sampleFrame "a", sampleFrame "a"] ≠ [] := List.cons_ne_nil _ _
  obtain ⟨found, hfound, -, hunique⟩ := frameMatches_exact hsource
    [sampleFrame "a", sampleFrame "a", sampleFrame "a", sampleFrame "a"]
  have hrun : frameMatches [sampleFrame "a", sampleFrame "a"]
      [sampleFrame "a", sampleFrame "a", sampleFrame "a", sampleFrame "a"] = some [0, 1] := by
    decide +kernel
  rw [hrun] at hfound
  cases hfound
  exact ⟨hrun, fun h => absurd (hunique.2 h) (by decide)⟩

end RipDvd
