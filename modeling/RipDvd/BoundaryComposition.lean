import RipDvd.RecoveryProtocol
import RipDvd.SourceRanges

namespace RipDvd
set_option autoImplicit true

open Extent

/-- What a boundary leaves of a range. -/
def retainRange (retainedSectorCount : Nat) (range : UnreadableSectorRange) :
    Option UnreadableSectorRange :=
  if retainedSectorCount ≤ range.startLba then none
  else some { range with
    sectorCount := min (range.startLba + range.sectorCount) retainedSectorCount - range.startLba }

/-- The result of a copy with such ranges, clean if there is none. -/
def createDvdRecoveryResult (declaredByteCount : Nat) (ranges : List UnreadableSectorRange) :
    Except String DvdRecoveryResult :=
  if ranges = [] then .ok (createCleanDvdRecoveryResult declaredByteCount)
  else createDamagedDvdRecoveryResult declaredByteCount ranges

def trimDvdRecoveryResult (result : DvdRecoveryResult) (retainedByteCount : Nat) :
    Except String DvdRecoveryResult := do
  rejectIf (maxSafeInteger < retainedByteCount ∨ retainedByteCount = 0 ∨
      result.declaredByteCount < retainedByteCount ∨
      retainedByteCount % DVD_SECTOR_SIZE_BYTES ≠ 0) "DVD recovery boundary is invalid"
  createDvdRecoveryResult retainedByteCount
    (result.unrecoveredSectorRanges.filterMap
      (retainRange (retainedByteCount / DVD_SECTOR_SIZE_BYTES)))

/-- What a prior range has behind a boundary. -/
def priorSuffix (firstExcludedLba : Nat) (range : UnreadableSectorRange) :
    Option UnreadableSectorRange :=
  let endLba := range.startLba + range.sectorCount
  if firstExcludedLba < endLba then
    some {
      startLba := max range.startLba firstExcludedLba
      sectorCount := endLba - max range.startLba firstExcludedLba }
  else none

def composeBoundaryCandidateWithPriorSuffix (candidate : DvdRecoveryResult)
    (prior : Option DvdRecoveryResult) (declaredByteCount : Nat) :
    Except String DvdRecoveryResult :=
  let firstExcludedLba := candidate.declaredByteCount / DVD_SECTOR_SIZE_BYTES
  let ranges := candidate.unrecoveredSectorRanges ++
    (prior.elim [] (·.unrecoveredSectorRanges)).filterMap (priorSuffix firstExcludedLba)
  createDvdRecoveryResult declaredByteCount (ranges.foldl mergeRange [])

variable {ranges : List UnreadableSectorRange} {result other : DvdRecoveryResult} {limit : Nat}

theorem holds_iff_cover : Holds ranges lba ↔ lba ∈ cover ranges := by
  rw [mem_cover]
  rfl

theorem Separated.merged (h : Separated ranges limit) : Merged ranges := ⟨h.nonempty, h.apart⟩

theorem separated_of_merged (h : Merged ranges)
    (hinside : ∀ lba, Holds ranges lba → lba < limit) : Separated ranges limit := by
  refine ⟨h.gaps, h.positive, fun range hrange => ?_⟩
  have hpositive : 0 < range.sectorCount := h.positive range hrange
  have hlast := hinside (range.startLba + range.sectorCount - 1)
    ⟨range, hrange, by omega, by omega⟩
  omega

/-- Ranges in ascending order are merged from nothing. -/
theorem merged_foldl_nil (hsorted : ranges.Pairwise fun a b => a.startLba ≤ b.startLba)
    (hpositive : ∀ range ∈ ranges, 0 < range.sectorCount) :
    Merged (ranges.foldl mergeRange []) ∧ cover (ranges.foldl mergeRange []) = cover ranges := by
  cases ranges with
  | nil => exact ⟨⟨fun _ hr => (nomatch hr), .nil⟩, rfl⟩
  | cons range rest =>
    obtain ⟨hfirst, hrest⟩ := List.pairwise_cons.1 hsorted
    rw [List.foldl_cons, mergeRange_nil, cover_cons]
    apply merged_foldl []
    · refine ⟨fun r hr => ?_, List.pairwise_singleton _ _⟩
      rw [List.mem_singleton.1 hr]
      exact hpositive range List.mem_cons_self
    · exact hrest
    · intro r hr
      exact ⟨hfirst r hr, hpositive r (List.mem_cons_of_mem _ hr)⟩

/-- Separated ranges make a valid result. -/
theorem createDvdRecoveryResult_ok (hsafe : declared ≤ maxSafeInteger)
    (hsectors : ranges ≠ [] → declared % DVD_SECTOR_SIZE_BYTES = 0)
    (h : Separated ranges (declared / DVD_SECTOR_SIZE_BYTES)) :
    ∃ result, createDvdRecoveryResult declared ranges = .ok result ∧ result.Valid ∧
      result.declaredByteCount = declared ∧ result.unrecoveredSectorRanges = ranges := by
  rw [createDvdRecoveryResult]
  by_cases hnone : ranges = []
  · rw [if_pos hnone]
    exact ⟨_, rfl, ⟨hsafe, .inl rfl⟩, rfl, hnone.symm⟩
  · rw [if_neg hnone]
    have hdamaged : DvdRecoveryResult.Damaged {
        outcome := .damaged
        declaredByteCount := declared
        recoveredByteCount :=
          declared - (ranges.map (·.sectorCount)).sum * DVD_SECTOR_SIZE_BYTES
        badSectorCount := (ranges.map (·.sectorCount)).sum
        badAreaCount := ranges.length
        unrecoveredSectorRanges := ranges } :=
      ⟨rfl, hsectors hnone, hnone, h, rfl, rfl, rfl⟩
    exact ⟨_, createDamagedDvdRecoveryResult_ok.2 ⟨hdamaged, rfl, rfl⟩, ⟨hsafe, .inr hdamaged⟩,
      rfl, rfl⟩

/-- The ranges of a valid result are separated. -/
theorem DvdRecoveryResult.Valid.separated (h : result.Valid) :
    Separated result.unrecoveredSectorRanges
      (result.declaredByteCount / DVD_SECTOR_SIZE_BYTES) := by
  cases h.known with
  | inl hclean =>
    rw [hclean]
    exact ⟨.nil, fun _ hr => (nomatch hr), fun _ hr => (nomatch hr)⟩
  | inr hdamaged => exact hdamaged.separated

theorem DvdRecoveryResult.Valid.sectors (h : result.Valid)
    (hsome : result.unrecoveredSectorRanges ≠ []) :
    result.declaredByteCount % DVD_SECTOR_SIZE_BYTES = 0 := by
  cases h.known with
  | inl hclean =>
    rw [hclean] at hsome
    exact absurd rfl hsome
  | inr hdamaged => exact hdamaged.sectors

/-- A valid result is known by its size and its ranges. -/
theorem DvdRecoveryResult.Valid.ext (h : result.Valid) (h' : other.Valid)
    (hdeclared : result.declaredByteCount = other.declaredByteCount)
    (hranges : result.unrecoveredSectorRanges = other.unrecoveredSectorRanges) :
    result = other := by
  cases h.known with
  | inl hclean =>
    cases h'.known with
    | inl hclean' => rw [hclean, hclean', hdeclared]
    | inr hdamaged =>
      rw [hclean] at hranges
      exact absurd hranges.symm hdamaged.some
  | inr hdamaged =>
    cases h'.known with
    | inl hclean =>
      rw [hclean] at hranges
      exact absurd hranges hdamaged.some
    | inr hdamaged' =>
      have hmade := createDamagedDvdRecoveryResult_ok.2 ⟨hdamaged, rfl, rfl⟩
      have hmade' := createDamagedDvdRecoveryResult_ok.2 ⟨hdamaged', rfl, rfl⟩
      rw [hdeclared, hranges, hmade'] at hmade
      exact (Except.ok.inj hmade).symm

theorem retainRange_some {range retained : UnreadableSectorRange} :
    retainRange count range = some retained ↔ range.startLba < count ∧
      retained = ⟨range.startLba,
        min (range.startLba + range.sectorCount) count - range.startLba⟩ := by
  rw [retainRange]
  split
  next hle => exact ⟨fun h => (nomatch h), fun h => absurd h.1 (by omega)⟩
  next hlt => exact ⟨fun h => by cases h; exact ⟨by omega, rfl⟩, fun h => by rw [h.2]⟩

theorem priorSuffix_some {range suffix : UnreadableSectorRange} :
    priorSuffix first range = some suffix ↔ first < range.startLba + range.sectorCount ∧
      suffix = ⟨max range.startLba first,
        range.startLba + range.sectorCount - max range.startLba first⟩ := by
  simp only [priorSuffix]
  split
  next hlt => exact ⟨fun h => by cases h; exact ⟨hlt, rfl⟩, fun h => by rw [h.2]⟩
  next hle => exact ⟨fun h => (nomatch h), fun h => absurd h.1 hle⟩

/-- The ranges that a boundary leaves are the sectors below it. -/
theorem holds_retained :
    Holds (ranges.filterMap (retainRange count)) lba ↔ Holds ranges lba ∧ lba < count := by
  constructor
  · intro h
    obtain ⟨retained, hretained, hfrom, hto⟩ := h
    obtain ⟨range, hrange, hkept⟩ := List.mem_filterMap.1 hretained
    obtain ⟨hlt, rfl⟩ := retainRange_some.1 hkept
    simp only at hfrom hto
    exact ⟨⟨range, hrange, hfrom, by omega⟩, by omega⟩
  · intro h
    obtain ⟨⟨range, hrange, hfrom, hto⟩, hlt⟩ := h
    have hkept := retainRange_some.2 ⟨(by omega : range.startLba < count), rfl⟩
    refine ⟨_, List.mem_filterMap.2 ⟨range, hrange, hkept⟩, hfrom, ?_⟩
    simp only
    omega

theorem Separated.retained (h : Separated ranges limit) :
    Separated (ranges.filterMap (retainRange count)) count := by
  constructor
  case apart =>
    apply List.pairwise_filterMap.2
    apply h.apart.imp
    intro a b hab a' ha b' hb
    obtain ⟨-, rfl⟩ := retainRange_some.1 ha
    obtain ⟨-, rfl⟩ := retainRange_some.1 hb
    simp only
    omega
  case nonempty =>
    intro retained hretained
    obtain ⟨range, hrange, hkept⟩ := List.mem_filterMap.1 hretained
    obtain ⟨hlt, rfl⟩ := retainRange_some.1 hkept
    have hpositive := h.nonempty range hrange
    simp only
    omega
  case inside =>
    intro retained hretained
    obtain ⟨range, hrange, hkept⟩ := List.mem_filterMap.1 hretained
    obtain ⟨hlt, rfl⟩ := retainRange_some.1 hkept
    simp only
    omega

theorem holds_suffix :
    Holds (ranges.filterMap (priorSuffix first)) lba ↔ Holds ranges lba ∧ first ≤ lba := by
  constructor
  · intro h
    obtain ⟨suffix, hsuffix, hfrom, hto⟩ := h
    obtain ⟨range, hrange, hkept⟩ := List.mem_filterMap.1 hsuffix
    obtain ⟨hlt, rfl⟩ := priorSuffix_some.1 hkept
    simp only at hfrom hto
    exact ⟨⟨range, hrange, by omega, by omega⟩, by omega⟩
  · intro h
    obtain ⟨⟨range, hrange, hfrom, hto⟩, hle⟩ := h
    have hkept := priorSuffix_some.2
      ⟨(by omega : first < range.startLba + range.sectorCount), rfl⟩
    refine ⟨_, List.mem_filterMap.2 ⟨range, hrange, hkept⟩, ?_, ?_⟩
    · simp only
      omega
    · simp only
      omega

theorem holds_append (left right : List UnreadableSectorRange) :
    Holds (left ++ right) lba ↔ Holds left lba ∨ Holds right lba := by
  rw [holds_iff_cover, holds_iff_cover, holds_iff_cover, cover_append, Finset.mem_union]

/-- Separated ranges below a boundary, then those that others have behind it, in order. -/
theorem Separated.suffixed {others : List UnreadableSectorRange} (h : Separated ranges first)
    (h' : Separated others limit) :
    (ranges ++ others.filterMap (priorSuffix first)).Pairwise
        (fun a b => a.startLba ≤ b.startLba) ∧
      ∀ range ∈ ranges ++ others.filterMap (priorSuffix first), 0 < range.sectorCount := by
  constructor
  · apply List.pairwise_append.2
    refine ⟨h.apart.imp fun hab => by omega, ?_, ?_⟩
    · apply List.pairwise_filterMap.2
      apply h'.apart.imp
      intro a b hab a' ha b' hb
      obtain ⟨-, rfl⟩ := priorSuffix_some.1 ha
      obtain ⟨-, rfl⟩ := priorSuffix_some.1 hb
      simp only
      omega
    · intro a ha b hb
      obtain ⟨range, -, hkept⟩ := List.mem_filterMap.1 hb
      obtain ⟨-, rfl⟩ := priorSuffix_some.1 hkept
      have hinside := h.inside a ha
      simp only
      omega
  · intro range hrange
    cases List.mem_append.1 hrange with
    | inl hown => exact h.nonempty range hown
    | inr hsuffix =>
      obtain ⟨other, hother, hkept⟩ := List.mem_filterMap.1 hsuffix
      obtain ⟨hlt, rfl⟩ := priorSuffix_some.1 hkept
      have hpositive := h'.nonempty other hother
      simp only
      omega

/-- The sectors that a prior result could not recover; there may be none. -/
def PriorHolds (prior : Option DvdRecoveryResult) (lba : Nat) : Prop :=
  ∃ result ∈ prior, Holds result.unrecoveredSectorRanges lba

/-- Trimming keeps the sectors below the boundary. -/
theorem trimDvdRecoveryResult_ok (h : result.Valid) (hpositive : 0 < retained)
    (hle : retained ≤ result.declaredByteCount) (hsectors : retained % DVD_SECTOR_SIZE_BYTES = 0) :
    ∃ trimmed, trimDvdRecoveryResult result retained = .ok trimmed ∧ trimmed.Valid ∧
      trimmed.declaredByteCount = retained ∧ ∀ lba, Holds trimmed.unrecoveredSectorRanges lba ↔
        Holds result.unrecoveredSectorRanges lba ∧ lba < retained / DVD_SECTOR_SIZE_BYTES := by
  have hsafe : retained ≤ maxSafeInteger := hle.trans h.safe
  obtain ⟨trimmed, hcreate, hvalid, hdeclared, hranges⟩ :=
    createDvdRecoveryResult_ok hsafe (fun _ => hsectors) h.separated.retained
  refine ⟨trimmed, ?_, hvalid, hdeclared, fun lba => ?_⟩
  · have haccepted : ¬(maxSafeInteger < retained ∨ retained = 0 ∨
        result.declaredByteCount < retained ∨ retained % DVD_SECTOR_SIZE_BYTES ≠ 0) := by omega
    rw [trimDvdRecoveryResult, rejectIf, if_neg haccepted]
    exact hcreate
  · rw [hranges]
    exact holds_retained

/-- A candidate is composed with the sectors that the prior result has behind it. -/
theorem composeBoundaryCandidateWithPriorSuffix_ok {candidate : DvdRecoveryResult}
    {prior : Option DvdRecoveryResult} (h : candidate.Valid)
    (hprior : ∀ result ∈ prior, result.Valid ∧ result.declaredByteCount = declared)
    (hsafe : declared ≤ maxSafeInteger) (hle : candidate.declaredByteCount ≤ declared)
    (hsectors : candidate.unrecoveredSectorRanges ≠ [] →
      declared % DVD_SECTOR_SIZE_BYTES = 0) :
    ∃ composed, composeBoundaryCandidateWithPriorSuffix candidate prior declared = .ok composed ∧
      composed.Valid ∧ composed.declaredByteCount = declared ∧
      ∀ lba, Holds composed.unrecoveredSectorRanges lba ↔
        Holds candidate.unrecoveredSectorRanges lba ∨ PriorHolds prior lba ∧
          candidate.declaredByteCount / DVD_SECTOR_SIZE_BYTES ≤ lba := by
  have hpriors : Separated (prior.elim [] (·.unrecoveredSectorRanges))
      (declared / DVD_SECTOR_SIZE_BYTES) ∧ ((prior.elim [] (·.unrecoveredSectorRanges)) ≠ [] →
        declared % DVD_SECTOR_SIZE_BYTES = 0) ∧
      ∀ lba, Holds (prior.elim [] (·.unrecoveredSectorRanges)) lba ↔ PriorHolds prior lba := by
    cases prior with
    | none =>
      refine ⟨⟨.nil, fun _ hr => (nomatch hr), fun _ hr => (nomatch hr)⟩,
        fun hne => absurd rfl hne, fun lba => ?_⟩
      exact ⟨fun h => (nomatch h.choose_spec.1), fun h => (nomatch h.choose_spec.1)⟩
    | some result =>
      obtain ⟨hvalid, rfl⟩ := hprior result rfl
      refine ⟨hvalid.separated, hvalid.sectors, fun lba => ⟨fun hin => ⟨result, rfl, hin⟩, ?_⟩⟩
      intro hin
      obtain ⟨other, hother, hin⟩ := hin
      cases hother
      exact hin
  obtain ⟨hseparated, hpriorSectors, hholds⟩ := hpriors
  obtain ⟨hsorted, hpositive⟩ := h.separated.suffixed hseparated
  obtain ⟨hmerged, hcover⟩ := merged_foldl_nil hsorted hpositive
  have hsectorsOf : ∀ lba, Holds ((candidate.unrecoveredSectorRanges ++
      (prior.elim [] (·.unrecoveredSectorRanges)).filterMap (priorSuffix
        (candidate.declaredByteCount / DVD_SECTOR_SIZE_BYTES))).foldl mergeRange []) lba ↔
      Holds candidate.unrecoveredSectorRanges lba ∨ PriorHolds prior lba ∧
        candidate.declaredByteCount / DVD_SECTOR_SIZE_BYTES ≤ lba := by
    intro lba
    rw [holds_iff_cover, hcover, ← holds_iff_cover, holds_append, holds_suffix, hholds]
  have hinside : Separated ((candidate.unrecoveredSectorRanges ++
      (prior.elim [] (·.unrecoveredSectorRanges)).filterMap (priorSuffix
        (candidate.declaredByteCount / DVD_SECTOR_SIZE_BYTES))).foldl mergeRange [])
      (declared / DVD_SECTOR_SIZE_BYTES) := by
    apply separated_of_merged hmerged
    intro lba hlba
    cases (hsectorsOf lba).1 hlba with
    | inl hown =>
      obtain ⟨range, hrange, -, hto⟩ := hown
      have hbelow := h.separated.inside range hrange
      have hcounts : candidate.declaredByteCount / DVD_SECTOR_SIZE_BYTES ≤
          declared / DVD_SECTOR_SIZE_BYTES := Nat.div_le_div_right hle
      omega
    | inr hsuffix =>
      obtain ⟨range, hrange, -, hto⟩ := (hholds lba).2 hsuffix.1
      have hbelow := hseparated.inside range hrange
      omega
  have haligned : (candidate.unrecoveredSectorRanges ++
      (prior.elim [] (·.unrecoveredSectorRanges)).filterMap (priorSuffix
        (candidate.declaredByteCount / DVD_SECTOR_SIZE_BYTES))).foldl mergeRange [] ≠ [] →
      declared % DVD_SECTOR_SIZE_BYTES = 0 := by
    intro hsome
    by_cases hown : candidate.unrecoveredSectorRanges = []
    · apply hpriorSectors
      intro hnone
      apply hsome
      rw [hown, hnone]
      rfl
    · exact hsectors hown
  obtain ⟨composed, hcreate, hvalid, hdeclared, hranges⟩ :=
    createDvdRecoveryResult_ok hsafe haligned hinside
  refine ⟨composed, hcreate, hvalid, hdeclared, fun lba => ?_⟩
  rw [hranges]
  exact hsectorsOf lba

/-- A result that is trimmed and composed with itself again is the same. -/
theorem compose_trim (h : result.Valid) (hpositive : 0 < retained)
    (hle : retained ≤ result.declaredByteCount) (hsectors : retained % DVD_SECTOR_SIZE_BYTES = 0)
    (htrim : trimDvdRecoveryResult result retained = .ok trimmed) :
    composeBoundaryCandidateWithPriorSuffix trimmed (some result) result.declaredByteCount =
      .ok result := by
  obtain ⟨trimmed', htrim', hvalid, hdeclared, hholds⟩ :=
    trimDvdRecoveryResult_ok h hpositive hle hsectors
  rw [htrim'] at htrim
  cases htrim
  have haligned : trimmed.unrecoveredSectorRanges ≠ [] →
      result.declaredByteCount % DVD_SECTOR_SIZE_BYTES = 0 := by
    intro hsome
    obtain ⟨range, hrange⟩ := List.exists_mem_of_ne_nil _ hsome
    have hlost : Holds trimmed.unrecoveredSectorRanges range.startLba :=
      ⟨range, hrange, le_rfl, Nat.lt_add_of_pos_right (hvalid.separated.nonempty range hrange)⟩
    obtain ⟨other, hother, -⟩ := ((hholds _).1 hlost).1
    exact h.sectors (List.ne_nil_of_mem hother)
  have hself : ∀ other ∈ some result,
      other.Valid ∧ other.declaredByteCount = result.declaredByteCount := by
    intro other hother
    cases hother
    exact ⟨h, rfl⟩
  obtain ⟨composed, hcompose, hcomposed, hsize, hsame⟩ :=
    composeBoundaryCandidateWithPriorSuffix_ok hvalid hself h.safe (hdeclared ▸ hle) haligned
  rw [hcompose]
  congr 1
  apply hcomposed.ext h hsize
  have hseparated := hcomposed.separated
  rw [hsize] at hseparated
  apply hseparated.ext h.separated
  intro lba
  have hprior : PriorHolds (some result) lba ↔ Holds result.unrecoveredSectorRanges lba :=
    ⟨fun ⟨other, hother, hin⟩ => by cases hother; exact hin, fun hin => ⟨result, rfl, hin⟩⟩
  rw [hsame, hholds, hdeclared, hprior]
  constructor
  · intro hin
    exact hin.elim (·.1) (·.1)
  · intro hin
    exact (Nat.lt_or_ge lba _).imp (⟨hin, ·⟩) (⟨hin, ·⟩)

/-- Trimming and composition are inverse on the maps of unrecovered sectors. -/
structure BoundaryInverse (result : DvdRecoveryResult) (declared retained : Nat) : Prop where
  trims : 0 < retained → retained ≤ result.declaredByteCount →
    ∃ trimmed, trimDvdRecoveryResult result retained = .ok trimmed ∧ trimmed.Valid ∧
      trimmed.declaredByteCount = retained ∧
      (∀ lba, Holds trimmed.unrecoveredSectorRanges lba ↔
        Holds result.unrecoveredSectorRanges lba ∧ lba < retained / DVD_SECTOR_SIZE_BYTES) ∧
      composeBoundaryCandidateWithPriorSuffix trimmed (some result) result.declaredByteCount =
        .ok result
  composes : ∀ prior : Option DvdRecoveryResult,
    (∀ other ∈ prior, other.Valid ∧ other.declaredByteCount = declared) →
    result.declaredByteCount = retained → retained < declared →
    ∃ composed, composeBoundaryCandidateWithPriorSuffix result prior declared = .ok composed ∧
      composed.Valid ∧ composed.declaredByteCount = declared ∧
      ∀ lba, Holds composed.unrecoveredSectorRanges lba ↔
        Holds result.unrecoveredSectorRanges lba ∨ PriorHolds prior lba ∧
          retained / DVD_SECTOR_SIZE_BYTES ≤ lba

theorem boundaryInverse (h : result.Valid) (hsafe : declared ≤ maxSafeInteger)
    (hdeclared : declared % DVD_SECTOR_SIZE_BYTES = 0)
    (hretained : retained % DVD_SECTOR_SIZE_BYTES = 0) :
    BoundaryInverse result declared retained := by
  constructor
  case trims =>
    intro hpositive hle
    obtain ⟨trimmed, htrim, hvalid, hsize, hholds⟩ :=
      trimDvdRecoveryResult_ok h hpositive hle hretained
    exact ⟨trimmed, htrim, hvalid, hsize, hholds, compose_trim h hpositive hle hretained htrim⟩
  case composes =>
    intro prior hprior hsize hlt
    obtain ⟨composed, hcompose, hvalid, hcomposed, hholds⟩ :=
      composeBoundaryCandidateWithPriorSuffix_ok h hprior hsafe (hsize ▸ hlt.le)
        fun _ => hdeclared
    rw [hsize] at hholds
    exact ⟨composed, hcompose, hvalid, hcomposed, hholds⟩

/-- Sectors 1 to 3 of eight are lost; a boundary behind the second sector cuts their range. -/
def straddlingResult : DvdRecoveryResult where
  outcome := .damaged
  declaredByteCount := 16384
  recoveredByteCount := 10240
  badSectorCount := 3
  badAreaCount := 1
  unrecoveredSectorRanges := [⟨1, 3⟩]

theorem straddlingResult_valid : straddlingResult.Valid :=
  ⟨by decide, .inr (isNormalizedDamagedResult_iff.1 (by decide : isNormalizedDamagedResult
    straddlingResult 16384 = true)).2⟩

/-- An earlier attempt has read twice as far, and lost sectors 6 to 9. -/
def priorResult : DvdRecoveryResult where
  outcome := .damaged
  declaredByteCount := 32768
  recoveredByteCount := 24576
  badSectorCount := 4
  badAreaCount := 1
  unrecoveredSectorRanges := [⟨6, 4⟩]

theorem priorResult_valid : priorResult.Valid :=
  ⟨by decide, .inr (isNormalizedDamagedResult_iff.1 (by decide : isNormalizedDamagedResult
    priorResult 32768 = true)).2⟩

/-- A cut through the lost range is undone, and the end of the earlier attempt is put behind. -/
theorem straddlingResult_inverse : BoundaryInverse straddlingResult 32768 4096 ∧
    ∃ composed, composeBoundaryCandidateWithPriorSuffix straddlingResult (some priorResult) 32768 =
      .ok composed ∧ composed.Valid ∧ composed.unrecoveredSectorRanges = [⟨1, 3⟩, ⟨8, 2⟩] := by
  refine ⟨boundaryInverse straddlingResult_valid (by decide) (by decide) (by decide), ?_⟩
  have hinverse : BoundaryInverse straddlingResult 32768 16384 :=
    boundaryInverse straddlingResult_valid (by decide) (by decide) (by decide)
  obtain ⟨composed, hcompose, hvalid, -⟩ := hinverse.composes (some priorResult)
    (by intro other hother; cases hother; exact ⟨priorResult_valid, rfl⟩) rfl (by decide)
  refine ⟨composed, hcompose, hvalid, ?_⟩
  have hranges : (composeBoundaryCandidateWithPriorSuffix straddlingResult (some priorResult)
      32768).map (·.unrecoveredSectorRanges) = .ok [⟨1, 3⟩, ⟨8, 2⟩] := by
    decide
  rw [hcompose] at hranges
  exact Except.ok.inj hranges

end RipDvd
