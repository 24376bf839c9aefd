import RipDvd.DamageAssessment

namespace RipDvd
set_option autoImplicit true

open Extent

/-- What the assessment of one title takes from its input. -/
structure Assessed (context : AssessmentContext) (title : DvdTitleDamageMappingInput)
    (item : DvdTitleDamageAssessmentItem) : Prop where
  identity : item.titleIdentityId = title.titleIdentityId
  unique : normalizeRanges title.sourceReferences context.acceptedEndLbaExclusive
    "DVD title source reference" = .ok item.uniqueSourceRanges
  known : item.knownUnrecoveredSourceRanges =
    intersections item.uniqueSourceRanges context.unrecoveredSourceRanges
  missing : item.unrecoveredUniqueSourceSectorCount =
    sectorCountOf item.knownUnrecoveredSourceRanges
  risk : item.knownSourceContinuityRiskRanges =
    intersections item.uniqueSourceRanges context.continuityRiskRanges
  riskCount : item.sourceContinuityRiskSectorCount =
    sectorCountOf item.knownSourceContinuityRiskRanges

theorem assessTitle_ok {context : AssessmentContext}
    (h : assessTitle context title = .ok item) : Assessed context title item := by
  simp only [assessTitle, bind_ok, pure_ok] at h
  obtain ⟨-, -, _, -, _, -, unique, hunique, _, -, _, -, _, -, rfl⟩ := h
  exact ⟨rfl, hunique, rfl, rfl, rfl, rfl⟩

/-- The steps of an accepted assessment. -/
structure Assembled (input : DvdTitleDamageAssessmentInput)
    (evidence : SemanticEvidence DvdTitleDamageAssessmentItem) (context : AssessmentContext)
    (assessed : List DvdTitleDamageAssessmentItem) (known : List UnreadableSectorRange) :
    Prop where
  limit : context.acceptedEndLbaExclusive = input.checkpoint.acceptedEndLbaExclusive
  unrecovered : validateUnrecoveredRanges input.checkpoint.acceptedEndLbaExclusive (-1)
    input.unrecoveredSourceRanges = .ok context.unrecoveredSourceRanges
  continuity : normalizeSourceContinuity input.sourceContinuity
    input.checkpoint.acceptedEndLbaExclusive = .ok evidence.sourceContinuity
  risk : context.continuityRiskRanges = sourceContinuityRiskRanges evidence.sourceContinuity
  results : Results (assessTitle context) input.titles assessed
  items : evidence.items = sortBy compareItems assessed
  union : knownTitleSourceRanges evidence.items input.checkpoint.acceptedEndLbaExclusive =
    .ok known
  impact : evidence.unknownTitleImpact.unrecoveredSourceRanges =
    subtractRanges context.unrecoveredSourceRanges known
  impactCount : evidence.unknownTitleImpact.unrecoveredSourceSectorCount =
    sectorCountOf evidence.unknownTitleImpact.unrecoveredSourceRanges
  unattributed : evidence.unattributedSourceContinuityRisk = evidence.sourceContinuity.map fun _ =>
    ⟨sectorCountOf (subtractRanges context.continuityRiskRanges known),
      subtractRanges context.continuityRiskRanges known⟩
  proved : evidence.noTitleMissingSourceProved = (input.structuralFindings.mapIsValid &&
    evidence.items.all (fun item => item.mappingCoverage.state = .complete &&
      item.unrecoveredUniqueSourceSectorCount = 0) &&
    evidence.unknownTitleImpact.unrecoveredSourceSectorCount = 0)

theorem validateCheckpoint_ok (h : validateCheckpoint checkpoint = .ok validated) :
    validated = checkpoint := by
  simp only [validateCheckpoint, bind_ok, pure_ok] at h
  obtain ⟨-, -, rfl⟩ := h
  rfl

theorem semanticEvidence_ok (h : semanticEvidence input = .ok evidence) :
    ∃ context assessed known, Assembled input evidence context assessed known := by
  simp only [semanticEvidence, bind_ok, pure_ok] at h
  obtain ⟨checkpoint, hcheckpoint, -, -, unrecovered, hunrecovered, continuity, hcontinuity,
    assessed, hassessed, -, -, known, hknown, _, -, rfl⟩ := h
  obtain rfl := validateCheckpoint_ok hcheckpoint
  exact ⟨_, assessed, known, {
    limit := rfl
    unrecovered := hunrecovered
    continuity := hcontinuity
    risk := rfl
    results := (mapUnseen_ok.1 hassessed).2.2
    items := rfl
    union := hknown
    impact := rfl
    impactCount := rfl
    unattributed := rfl
    proved := rfl }⟩

section Continuity

variable {entries normalized : List DvdTitleDamageSourceContinuityProvenance}
  {ranges : List DvdTitleDamageSourceContinuityRiskRange}

/-- Ranges of confirmations that are told apart by their risk. -/
def ofConfirmations (q : String → ConfirmedVerificationOutcome → Bool)
    (range : DvdTitleDamageSourceContinuityRiskRange) : Bool :=
  q range.discConfirmationId range.verificationOutcome

theorem mem_cover_riskRanges {q : String → ConfirmedVerificationOutcome → Bool} :
    n ∈ cover ((entries.flatMap (·.riskRanges)).filter (ofConfirmations q)) ↔
      ∃ entry ∈ entries, q entry.discConfirmationId entry.verificationOutcome = true ∧
        n ∈ cover entry.recoveredSourceRanges := by
  simp only [mem_cover, List.mem_filter, List.mem_flatMap]
  constructor
  · rintro ⟨_, ⟨⟨entry, he, hr⟩, hq⟩, hn⟩
    obtain ⟨range, hrange, rfl⟩ := List.mem_map.1 hr
    exact ⟨entry, he, hq, range, hrange, hn⟩
  · rintro ⟨entry, he, hq, range, hrange, hn⟩
    exact ⟨_, ⟨⟨entry, he, List.mem_map_of_mem hrange⟩, hq⟩, hn⟩

theorem rejectOverlaps_ok (h : rejectOverlaps previousEnd ranges = .ok u) :
    ranges.Pairwise Apart ∧ ∀ range ∈ ranges, previousEnd ≤ start range := by
  induction ranges generalizing previousEnd with
  | nil => exact ⟨.nil, fun _ hr => (nomatch hr)⟩
  | cons range ranges ih =>
    simp only [rejectOverlaps, bind_ok, rejectIf_ok] at h
    obtain ⟨-, hafter, hrest⟩ := h
    obtain ⟨hpair, hranges⟩ := ih hrest
    have hstart : previousEnd ≤ start range := not_lt.1 hafter
    refine ⟨List.pairwise_cons.2 ⟨fun other ho => .inl ?_, hpair⟩, fun other ho => ?_⟩
    · exact Int.ofNat_le.1 (hranges other ho)
    · rcases List.mem_cons.1 ho with rfl | ho
      · exact hstart
      · have hlater : (start range + length range : Int) ≤ start other := hranges other ho
        omega

theorem normalizeProvenance_ok (h : normalizeProvenance limit entry = .ok entry') :
    entry'.discConfirmationId = entry.discConfirmationId ∧
      entry'.verificationOutcome = entry.verificationOutcome ∧
      cover entry'.recoveredSourceRanges = cover entry.recoveredSourceRanges := by
  simp only [normalizeProvenance, bind_ok, pure_ok] at h
  obtain ⟨-, -, ranges, hranges, rfl⟩ := h
  exact ⟨rfl, rfl, (normalizeRanges_merged hranges).2⟩

/-- The provenance an input gives, if it gives any. -/
def DvdTitleDamageAssessmentInput.provenance (input : DvdTitleDamageAssessmentInput) :
    List DvdTitleDamageSourceContinuityProvenance :=
  input.sourceContinuity.elim [] (·.provenance)

/-- Normalizing keeps the sectors of every confirmation, and no sector is at risk twice. -/
theorem normalizeSourceContinuity_ok {input : Option DvdTitleDamageSourceContinuityInput}
    (h : normalizeSourceContinuity input limit = .ok continuity) :
    (sourceContinuityRiskRanges continuity).Pairwise Apart ∧
    (continuity = none ↔ input = none) ∧
    (∀ normalized ∈ continuity, normalized.sourceContinuityRiskSectorCount =
      sectorCountOf (sourceContinuityRiskRanges continuity)) ∧
    ∀ q, cover ((sourceContinuityRiskRanges continuity).filter (ofConfirmations q)) =
      cover (((input.elim [] (·.provenance)).flatMap (·.riskRanges)).filter
        (ofConfirmations q)) := by
  cases input with
  | none =>
    cases h
    exact ⟨.nil, ⟨fun _ => rfl, fun _ => rfl⟩, fun _ hn => (nomatch hn), fun _ => rfl⟩
  | some input =>
    simp only [normalizeSourceContinuity, bind_ok, pure_ok] at h
    obtain ⟨-, -, entries, hentries, _, hoverlaps, rfl⟩ := h
    obtain ⟨-, -, hresults⟩ := mapUnseen_ok.1 hentries
    have hperm := perm_sortBy compareRiskRanges
      ((sortBy compareProvenance entries).flatMap (·.riskRanges))
    refine ⟨?_, by simp, ?_, fun q => ?_⟩
    · exact (rejectOverlaps_ok hoverlaps).1.perm hperm Apart.symm
    · rintro _ ⟨⟩
      exact (hperm.map length).sum_nat
    · ext n
      simp only [sourceContinuityRiskRanges, mem_cover_riskRanges, mem_sortBy, Option.elim_some]
      constructor
      · rintro ⟨entry', he', hq, hn⟩
        obtain ⟨entry, he, hok⟩ := exists_left_of_mem hresults he'
        obtain ⟨hid, houtcome, hcover⟩ := normalizeProvenance_ok hok
        exact ⟨entry, he, hid ▸ houtcome ▸ hq, hcover ▸ hn⟩
      · rintro ⟨entry, he, hq, hn⟩
        obtain ⟨entry', he', hok⟩ := exists_right_of_mem hresults he
        obtain ⟨hid, houtcome, hcover⟩ := normalizeProvenance_ok hok
        exact ⟨entry', he', hid.symm ▸ houtcome.symm ▸ hq, hcover.symm ▸ hn⟩

end Continuity

section Conservation

variable {items : List DvdTitleDamageAssessmentItem} {known : List UnreadableSectorRange}
  {R : Type} [Extent R] {p : R → Bool} {target : List R}

theorem cover_known (h : knownTitleSourceRanges items limit = .ok known) :
    cover known = cover (items.flatMap (·.uniqueSourceRanges)) := by
  rw [knownTitleSourceRanges] at h
  split at h
  · next hnone =>
    cases h
    rw [hnone]
  · exact (normalizeRanges_merged h).2

/-- Every sector of a map falls to some title, or to none. -/
theorem cover_attributed (hp : Keeps p) (target : List R)
    (h : knownTitleSourceRanges items limit = .ok known) :
    cover (target.filter p) =
      cover (items.flatMap fun item => (intersections item.uniqueSourceRanges target).filter p) ∪
      cover ((subtractRanges target known).filter p) := by
  ext n
  rw [subtractRanges_filter hp, cover_subtractRanges, cover_known h]
  simp only [intersections_filter hp, Finset.mem_union, Finset.mem_sdiff, mem_cover_flatMap,
    cover_intersections, Finset.mem_inter]
  constructor
  · intro hn
    by_cases hk : ∃ item ∈ items, n ∈ cover item.uniqueSourceRanges
    · obtain ⟨item, hi, hu⟩ := hk
      exact .inl ⟨item, hi, hu, hn⟩
    · exact .inr ⟨hn, hk⟩
  · rintro (⟨item, -, -, hn⟩ | ⟨hn, -⟩) <;> exact hn

end Conservation

/-- Every sector of the maps an assessment is given is in it, once for each title that uses it or
else on its own, under the label it came with. -/
structure Conserves (input : DvdTitleDamageAssessmentInput)
    (assessment : DvdTitleDamageAssessment) : Prop where
  titles : (assessment.items.map fun item =>
      (item.titleIdentityId, cover item.uniqueSourceRanges)).Perm
    (input.titles.map fun title => (title.titleIdentityId, cover title.sourceReferences))
  unrecovered : cover input.unrecoveredSourceRanges =
    cover (assessment.items.flatMap (·.knownUnrecoveredSourceRanges)) ∪
      cover assessment.unknownTitleImpact.unrecoveredSourceRanges
  classified (classification : SourceClassification) :
    cover (input.unrecoveredSourceRanges.filter (·.classification = classification)) =
      cover (assessment.items.flatMap fun item =>
        item.knownUnrecoveredSourceRanges.filter (·.classification = classification)) ∪
      cover (assessment.unknownTitleImpact.unrecoveredSourceRanges.filter
        (·.classification = classification))
  unknown : ∀ item ∈ assessment.items,
    Disjoint (cover assessment.unknownTitleImpact.unrecoveredSourceRanges)
      (cover item.uniqueSourceRanges)
  counts : ∀ item ∈ assessment.items, item.unrecoveredUniqueSourceSectorCount =
    (cover item.uniqueSourceRanges ∩ cover input.unrecoveredSourceRanges).card
  unknownCount : assessment.unknownTitleImpact.unrecoveredSourceSectorCount =
    (cover assessment.unknownTitleImpact.unrecoveredSourceRanges).card
  atRisk : cover (input.provenance.flatMap (·.riskRanges)) =
    cover (assessment.items.flatMap (·.knownSourceContinuityRiskRanges)) ∪
      cover (assessment.unattributedSourceContinuityRisk.elim [] (·.sourceRanges))
  confirmed (id : String) (outcome : ConfirmedVerificationOutcome) :
    let confirmation := ofConfirmations fun i o => i = id && o = outcome
    cover ((input.provenance.flatMap (·.riskRanges)).filter confirmation) =
      cover (assessment.items.flatMap fun item =>
        item.knownSourceContinuityRiskRanges.filter confirmation) ∪
      cover ((assessment.unattributedSourceContinuityRisk.elim [] (·.sourceRanges)).filter
        confirmation)
  unattributed : ∀ item ∈ assessment.items,
    Disjoint (cover (assessment.unattributedSourceContinuityRisk.elim [] (·.sourceRanges)))
      (cover item.uniqueSourceRanges)
  riskCounts : ∀ item ∈ assessment.items, item.sourceContinuityRiskSectorCount =
    (cover item.uniqueSourceRanges ∩ cover (input.provenance.flatMap (·.riskRanges))).card
  unattributedCount : ∀ risk ∈ assessment.unattributedSourceContinuityRisk,
    risk.sourceSectorCount = (cover risk.sourceRanges).card
  proved : assessment.noTitleMissingSourceProved = true ↔
    input.structuralFindings.dvdNavigation = .valid ∧
      input.structuralFindings.titleEnumeration = .valid ∧
      (∀ item ∈ assessment.items, item.mappingCoverage.state = .complete) ∧
      cover input.unrecoveredSourceRanges = ∅

section Assembled

variable {input : DvdTitleDamageAssessmentInput}
  {evidence : SemanticEvidence DvdTitleDamageAssessmentItem} {context : AssessmentContext}
  {assessed : List DvdTitleDamageAssessmentItem} {known : List UnreadableSectorRange}
  {item : DvdTitleDamageAssessmentItem}

theorem Assembled.of_item (h : Assembled input evidence context assessed known)
    (hi : item ∈ evidence.items) : ∃ title ∈ input.titles, Assessed context title item := by
  rw [h.items, mem_sortBy] at hi
  obtain ⟨title, ht, hok⟩ := exists_left_of_mem h.results hi
  exact ⟨title, ht, assessTitle_ok hok⟩

theorem Assembled.titles (h : Assembled input evidence context assessed known) :
    (evidence.items.map fun item =>
      (item.titleIdentityId, cover item.uniqueSourceRanges)).Perm
    (input.titles.map fun title => (title.titleIdentityId, cover title.sourceReferences)) := by
  have hsame : assessed.map (fun item =>
      (item.titleIdentityId, cover item.uniqueSourceRanges)) =
      input.titles.map fun title => (title.titleIdentityId, cover title.sourceReferences) := by
    have hresults := h.results
    clear h
    generalize input.titles = titles at hresults
    induction hresults with
    | nil => rfl
    | cons hok _ ih =>
      have ha := assessTitle_ok hok
      rw [List.map_cons, List.map_cons, ih, ha.identity, (normalizeRanges_merged ha.unique).2]
  rw [h.items, ← hsame]
  exact (perm_sortBy compareItems assessed).map _

theorem Assembled.unrecovered_eq (h : Assembled input evidence context assessed known) :
    context.unrecoveredSourceRanges = input.unrecoveredSourceRanges ∧
      input.unrecoveredSourceRanges.Pairwise Apart := by
  obtain ⟨he, hpair, -⟩ := validateUnrecoveredRanges_ok h.unrecovered
  exact ⟨he, hpair⟩

theorem Assembled.impact_eq (h : Assembled input evidence context assessed known) :
    evidence.unknownTitleImpact.unrecoveredSourceRanges =
      subtractRanges input.unrecoveredSourceRanges known := by
  rw [h.impact, h.unrecovered_eq.1]

/-- The known ranges of the titles, in terms of the map the assessment was given. -/
theorem Assembled.known_eq (h : Assembled input evidence context assessed known)
    (hi : item ∈ evidence.items) : item.knownUnrecoveredSourceRanges =
      intersections item.uniqueSourceRanges input.unrecoveredSourceRanges := by
  obtain ⟨title, -, ha⟩ := h.of_item hi
  rw [ha.known, h.unrecovered_eq.1]

theorem Assembled.missing_eq (h : Assembled input evidence context assessed known)
    (hi : item ∈ evidence.items) : item.unrecoveredUniqueSourceSectorCount =
      (cover item.uniqueSourceRanges ∩ cover input.unrecoveredSourceRanges).card := by
  obtain ⟨title, -, ha⟩ := h.of_item hi
  have hmerged := (normalizeRanges_merged ha.unique).1
  rw [ha.missing, sectorCountOf, h.known_eq hi,
    total_eq_card (pairwise_intersections hmerged.pairwise h.unrecovered_eq.2),
    cover_intersections]

/-- Without the source that titles are known to use, nothing of a title is left. -/
theorem Assembled.apart {R : Type} [Extent R]
    (h : Assembled input evidence context assessed known) (hi : item ∈ evidence.items)
    (target : List R) :
    Disjoint (cover (subtractRanges target known)) (cover item.uniqueSourceRanges) := by
  rw [cover_subtractRanges, cover_known h.union]
  apply Finset.disjoint_left.2
  intro n hn hu
  exact (Finset.mem_sdiff.1 hn).2 (mem_cover_flatMap.2 ⟨item, hi, hu⟩)

theorem Assembled.attributed {R : Type} [Extent R] {p : R → Bool}
    (h : Assembled input evidence context assessed known) (hp : Keeps p)
    {ranges : DvdTitleDamageAssessmentItem → List R} {target : List R}
    (hranges : ∀ item ∈ evidence.items,
      ranges item = intersections item.uniqueSourceRanges target) :
    cover (target.filter p) = cover (evidence.items.flatMap fun item => (ranges item).filter p) ∪
      cover ((subtractRanges target known).filter p) := by
  rw [cover_attributed hp target h.union]
  congr 2
  apply List.flatMap_congr
  intro item hi
  rw [hranges item hi]

theorem Assembled.impactCount_eq (h : Assembled input evidence context assessed known) :
    evidence.unknownTitleImpact.unrecoveredSourceSectorCount =
      (cover input.unrecoveredSourceRanges \
        cover (evidence.items.flatMap (·.uniqueSourceRanges))).card := by
  rw [h.impactCount, h.impact_eq, sectorCountOf,
    total_eq_card (pairwise_subtractRanges known h.unrecovered_eq.2), cover_subtractRanges,
    cover_known h.union]

/-- No count is left above zero exactly when there is nothing to count. -/
theorem Assembled.nothing_missing (h : Assembled input evidence context assessed known) :
    ((∀ item ∈ evidence.items, item.unrecoveredUniqueSourceSectorCount = 0) ∧
      evidence.unknownTitleImpact.unrecoveredSourceSectorCount = 0) ↔
    cover input.unrecoveredSourceRanges = ∅ := by
  rw [h.impactCount_eq, Finset.card_eq_zero]
  constructor
  · rintro ⟨hitems, hrest⟩
    apply Finset.eq_empty_of_forall_notMem
    intro n hn
    by_cases hu : n ∈ cover (evidence.items.flatMap (·.uniqueSourceRanges))
    · obtain ⟨item, hi, hitem⟩ := mem_cover_flatMap.1 hu
      have hzero := hitems item hi
      rw [h.missing_eq hi, Finset.card_eq_zero] at hzero
      exact absurd (Finset.mem_inter.2 ⟨hitem, hn⟩) (hzero ▸ Finset.notMem_empty n)
    · exact absurd (Finset.mem_sdiff.2 ⟨hn, hu⟩) (hrest ▸ Finset.notMem_empty n)
  · intro hempty
    refine ⟨fun item hi => ?_, ?_⟩
    · rw [h.missing_eq hi, hempty, Finset.inter_empty, Finset.card_empty]
    · rw [hempty, Finset.empty_sdiff]

theorem Assembled.proved_iff (h : Assembled input evidence context assessed known) :
    evidence.noTitleMissingSourceProved = true ↔
      input.structuralFindings.dvdNavigation = .valid ∧
      input.structuralFindings.titleEnumeration = .valid ∧
      (∀ item ∈ evidence.items, item.mappingCoverage.state = .complete) ∧
      cover input.unrecoveredSourceRanges = ∅ := by
  rw [h.proved, ← h.nothing_missing]
  simp only [StructuralFindings.mapIsValid, Bool.and_eq_true, List.all_eq_true,
    decide_eq_true_eq]
  constructor
  · rintro ⟨⟨⟨hnavigation, henumeration⟩, hitems⟩, hrest⟩
    exact ⟨hnavigation, henumeration, fun item hi => (hitems item hi).1,
      fun item hi => (hitems item hi).2, hrest⟩
  · rintro ⟨hnavigation, henumeration, hcomplete, hitems, hrest⟩
    exact ⟨⟨⟨hnavigation, henumeration⟩, fun item hi => ⟨hcomplete item hi, hitems item hi⟩⟩, hrest⟩

theorem Assembled.conserves {assessment : DvdTitleDamageAssessment}
    (h : Assembled input assessment.toSemanticEvidence context assessed known) :
    Conserves input assessment := by
  obtain ⟨hunrecovered, hpair⟩ := h.unrecovered_eq
  obtain ⟨hriskPair, -, -, hrisks⟩ := normalizeSourceContinuity_ok h.continuity
  have hrisks (q : String → ConfirmedVerificationOutcome → Bool) :
      cover ((sourceContinuityRiskRanges assessment.sourceContinuity).filter (ofConfirmations q)) =
        cover ((input.provenance.flatMap (·.riskRanges)).filter (ofConfirmations q)) := hrisks q
  have hall := hrisks fun _ _ => true
  rw [show ofConfirmations (fun _ _ => true) = fun _ => true from rfl, List.filter_true,
    List.filter_true] at hall
  have hrisk (item : DvdTitleDamageAssessmentItem) (hi : item ∈ assessment.items) :
      item.knownSourceContinuityRiskRanges =
        intersections item.uniqueSourceRanges context.continuityRiskRanges := by
    obtain ⟨title, -, ha⟩ := h.of_item hi
    exact ha.risk
  rw [← h.risk] at hall hrisks hriskPair
  have hrest : assessment.unattributedSourceContinuityRisk.elim [] (·.sourceRanges) =
      subtractRanges context.continuityRiskRanges known := by
    rw [h.unattributed]
    cases hc : assessment.sourceContinuity with
    | none =>
      rw [h.risk, hc]
      rfl
    | some continuity => rfl
  refine ⟨h.titles, ?_, fun classification => ?_, fun item hi => ?_, fun item hi => h.missing_eq hi,
    ?_, ?_, fun id outcome => ?_, fun item hi => ?_, fun item hi => ?_, fun risk hr => ?_, ?_⟩
  · have hc := h.attributed (p := fun _ => true) (fun _ _ _ => rfl) fun _ => h.known_eq
    simpa only [List.filter_true, h.impact_eq] using hc
  · rw [h.impact_eq]
    exact h.attributed (fun _ _ _ => rfl) fun _ => h.known_eq
  · rw [h.impact_eq]
    exact h.apart hi _
  · rw [h.impactCount, h.impact_eq]
    exact total_eq_card (pairwise_subtractRanges known hpair)
  · rw [hrest]
    have hc := h.attributed (p := fun _ => true) (fun _ _ _ => rfl) hrisk
    simp only [List.filter_true] at hc
    exact hall.symm.trans hc
  · simp only [hrest, ← hrisks]
    exact h.attributed (fun _ _ _ => rfl) hrisk
  · rw [hrest]
    exact h.apart hi _
  · obtain ⟨title, -, ha⟩ := h.of_item hi
    have hmerged := (normalizeRanges_merged ha.unique).1
    rw [ha.riskCount, ha.risk, sectorCountOf,
      total_eq_card (pairwise_intersections hmerged.pairwise hriskPair), cover_intersections, hall]
  · rw [h.unattributed] at hr
    obtain ⟨continuity, -, rfl⟩ := Option.map_eq_some_iff.1 hr
    exact total_eq_card (pairwise_subtractRanges known hriskPair)
  · exact h.proved_iff

end Assembled

/-- An accepted assessment attributes every missing sector, and every sector at risk. -/
theorem createDvdTitleDamageAssessment_conserves {evidenceDigest : IdentityEvidence → String}
    (h : createDvdTitleDamageAssessment evidenceDigest input = .ok assessment) :
    Conserves input assessment := by
  simp only [createDvdTitleDamageAssessment, bind_ok, pure_ok] at h
  obtain ⟨evidence, hevidence, -, -, rfl⟩ := h
  obtain ⟨context, assessed, known, ha⟩ := semanticEvidence_ok hevidence
  exact Assembled.conserves ha

def sampleText (c : Char) : String := String.ofList (List.replicate 64 c)

def sampleTitle (number : Nat) (suffix : String)
    (sourceReferences : List DvdTitleSourceReference) : DvdTitleDamageMappingInput where
  titleIdentityId := "title-" ++ suffix
  titleIdentityObservationId := "observation-" ++ suffix
  displayTitleNumber := number
  selection := ⟨[⟨1, 1, 1, 1⟩], 1, 1, 4⟩
  sourceReferences
  mappingCoverage := ⟨.complete, "title-map-v1", []⟩
  timingEvidence := none

/-- Two titles that share ten sectors, one of them damaged, and damage that neither uses. -/
def sampleDamage : DvdTitleDamageAssessmentInput where
  checkpoint := ⟨"archive", "archive:initial", 1, sampleText 'a', 1000⟩
  titleIdentityReviewSetIdentity := sampleText 'b'
  catalogMappingProjectionId := some (sampleText 'd')
  structuralAssessmentIdentity := "dvd-structural-assessment:" ++ sampleText 'c'
  structuralFindings := ⟨.valid, .valid⟩
  unrecoveredSourceRanges := [⟨100, 12, .individuallyFailed⟩, ⟨205, 2, .skippedUntested⟩]
  sourceContinuity := some ⟨DVD_TITLE_DAMAGE_SOURCE_CONTINUITY_POLICY_VERSION,
    [⟨"confirmation", "recovery", "attempt", "verification", .mismatch, sampleText 'e',
      ⟨1, sampleText 'f'⟩, [⟨25, 3⟩, ⟨400, 2⟩]⟩]⟩
  titles := [
    sampleTitle 2 "two" [⟨⟨100, 50⟩, .multiplexedContent⟩],
    sampleTitle 1 "one" [⟨⟨10, 100⟩, .multiplexedContent⟩, ⟨⟨0, 10⟩, .navigation⟩,
      ⟨⟨10, 100⟩, .multiplexedContent⟩]]

theorem sampleDamage_conserves : ∃ assessment,
    createDvdTitleDamageAssessment (fun _ => "digest") sampleDamage = .ok assessment ∧
    assessment.items.map (·.unrecoveredUniqueSourceSectorCount) = [10, 12] ∧
    assessment.unknownTitleImpact.unrecoveredSourceRanges = [⟨205, 2, .skippedUntested⟩] ∧
    Conserves sampleDamage assessment := by
  have hrun : (match createDvdTitleDamageAssessment (fun _ => "digest") sampleDamage with
      | .error _ => false
      | .ok assessment =>
        assessment.items.map (·.unrecoveredUniqueSourceSectorCount) = [10, 12] ∧
          assessment.unknownTitleImpact.unrecoveredSourceRanges =
            [⟨205, 2, .skippedUntested⟩]) = true := by
    decide +kernel
  cases h : createDvdTitleDamageAssessment (fun _ => "digest") sampleDamage with
  | error => simp [h] at hrun
  | ok assessment =>
    simp only [h, decide_eq_true_eq] at hrun
    exact ⟨assessment, rfl, hrun.1, hrun.2, createDvdTitleDamageAssessment_conserves h⟩

end RipDvd
