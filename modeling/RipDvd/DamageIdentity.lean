import RipDvd.DamageConservation

namespace RipDvd
set_option autoImplicit true

open Extent

/-- Ranges, each of at least one sector, of the sectors that other ranges are of. -/
def SameSectors {R : Type} [Extent R] (ranges ranges' : List R) : Prop :=
  cover ranges' = cover ranges ∧ ∀ range ∈ ranges', 0 < length range

structure RearrangedOccurrence (a b : DvdTitleDamageTimingOccurrenceInput) : Prop where
  playbackOccurrence : b.playbackOccurrence = a.playbackOccurrence
  spans : a.spans.Perm b.spans
  unknownReasons : a.unknownReasons.Perm b.unknownReasons

/-- Timing evidence with its occurrences in any order, or none on either side. -/
inductive RearrangedTiming :
    Option DvdTitleDamageTimingInput → Option DvdTitleDamageTimingInput → Prop where
  | none : RearrangedTiming none none
  | some (policyVersion : b.policyVersion = a.policyVersion)
    (occurrences : Rearranged RearrangedOccurrence a.occurrences b.occurrences) :
    RearrangedTiming (some a) (some b)

structure RearrangedTitle (a b : DvdTitleDamageMappingInput) : Prop where
  titleIdentityId : b.titleIdentityId = a.titleIdentityId
  titleIdentityObservationId : b.titleIdentityObservationId = a.titleIdentityObservationId
  displayTitleNumber : b.displayTitleNumber = a.displayTitleNumber
  selection : b.selection = a.selection
  sourceReferences : SameSectors a.sourceReferences b.sourceReferences
  state : b.mappingCoverage.state = a.mappingCoverage.state
  policyVersion : b.mappingCoverage.policyVersion = a.mappingCoverage.policyVersion
  unknownReasons : a.mappingCoverage.unknownReasons.Perm b.mappingCoverage.unknownReasons
  timingEvidence : RearrangedTiming a.timingEvidence b.timingEvidence

structure RearrangedProvenance (a b : DvdTitleDamageSourceContinuityProvenance) : Prop where
  rest : b = { a with recoveredSourceRanges := b.recoveredSourceRanges }
  recoveredSourceRanges : SameSectors a.recoveredSourceRanges b.recoveredSourceRanges

/-- Source continuity with its confirmations in any order, or none on either side. -/
inductive RearrangedContinuity : Option DvdTitleDamageSourceContinuityInput →
    Option DvdTitleDamageSourceContinuityInput → Prop where
  | none : RearrangedContinuity none none
  | some (policyVersion : b.policyVersion = a.policyVersion)
    (provenance : Rearranged RearrangedProvenance a.provenance b.provenance) :
    RearrangedContinuity (some a) (some b)

/-- The same facts in another presentation. -/
structure RearrangedInput (a b : DvdTitleDamageAssessmentInput) : Prop where
  checkpoint : b.checkpoint = a.checkpoint
  titleIdentityReviewSetIdentity :
    b.titleIdentityReviewSetIdentity = a.titleIdentityReviewSetIdentity
  catalogMappingProjectionId : b.catalogMappingProjectionId = a.catalogMappingProjectionId
  structuralAssessmentIdentity : b.structuralAssessmentIdentity = a.structuralAssessmentIdentity
  structuralFindings : b.structuralFindings = a.structuralFindings
  unrecoveredSourceRanges : b.unrecoveredSourceRanges = a.unrecoveredSourceRanges
  sourceContinuity : RearrangedContinuity a.sourceContinuity b.sourceContinuity
  titles : Rearranged RearrangedTitle a.titles b.titles

section Reasons

/-- What stands before the first separator is decided by the whole. -/
theorem append_cons_inj {x x' y y' : List α} (hx : c ∉ x) (hx' : c ∉ x')
    (h : x ++ c :: y = x' ++ c :: y') : x = x' ∧ y = y' := by
  induction x generalizing x' with
  | nil =>
    cases x' with
    | nil => exact ⟨rfl, (List.cons.inj h).2⟩
    | cons d x' => exact absurd ((List.cons.inj h).1 ▸ List.mem_cons_self) hx'
  | cons a x ih =>
    cases x' with
    | nil => exact absurd ((List.cons.inj h).1 ▸ List.mem_cons_self) hx
    | cons d x' =>
      obtain ⟨rfl, hrest⟩ := List.cons.inj h
      obtain ⟨rfl, hy⟩ := ih (fun hm => hx (List.mem_cons_of_mem _ hm))
        (fun hm => hx' (List.mem_cons_of_mem _ hm)) hrest
      exact ⟨rfl, hy⟩

theorem isToken_not_mem {first rest : Char → Bool} (h : isToken first rest value = true)
    (hfirst : first c = false) (hrest : rest c = false) : c ∉ value.toList := by
  intro hm
  rw [isToken] at h
  cases hv : value.toList with
  | nil => simp [hv] at hm
  | cons d ds =>
    simp only [hv, Bool.and_eq_true, List.all_eq_true] at h
    rw [hv] at hm
    rcases List.mem_cons.1 hm with rfl | hm
    · exact absurd h.1.1 (by simp [hfirst])
    · exact absurd (h.2 c hm) (by simp [hrest])

variable {reasons reasons' normalized : List DvdTitleDamageUnknownReason}

theorem distinguished_reasons (h : ∀ reason ∈ reasons, isReasonCode reason.code = true) :
    Distinguished DvdTitleDamageUnknownReason.key reasons := by
  intro a ha b hb he
  have hlists := congrArg String.toList he
  simp only [DvdTitleDamageUnknownReason.key, String.toList_append, List.append_assoc] at hlists
  obtain ⟨hcode, hmessage⟩ := append_cons_inj (c := '\x00')
    (isToken_not_mem (h a ha) rfl rfl) (isToken_not_mem (h b hb) rfl rfl) hlists
  cases a
  cases b
  cases String.toList_inj.1 hcode
  cases String.toList_inj.1 hmessage
  rfl

instance : Std.TransCmp compareReasons :=
  inferInstanceAs (Std.TransCmp (compareLex
    (compareOn fun reason : DvdTitleDamageUnknownReason => codeUnits reason.code)
    (compareOn fun reason : DvdTitleDamageUnknownReason => codeUnits reason.message)))

theorem compareCodeUnits_eq {a b : String} (h : compareCodeUnits a b = .eq) : a = b :=
  Std.LawfulEqCmp.eq_of_compare h

theorem untied_reasons : Untied compareReasons reasons := by
  rintro ⟨_, _⟩ - ⟨_, _⟩ - he
  obtain ⟨hcode, hmessage⟩ := compareLex_eq_eq.1 he
  cases compareCodeUnits_eq hcode
  cases compareCodeUnits_eq hmessage
  rfl

theorem validateUnknownReasons_perm (h : validateUnknownReasons reasons = .ok normalized)
    (hp : reasons.Perm reasons') : validateUnknownReasons reasons' = .ok normalized := by
  simp only [validateUnknownReasons, bind_ok, rejectIf_ok, pure_ok, not_exists, not_and] at h ⊢
  obtain ⟨-, hvalid, rfl⟩ := h
  have hcodes : ∀ reason ∈ reasons, isReasonCode reason.code = true := by
    intro reason hr
    by_contra hn
    exact hvalid reason hr (.inl hn)
  refine ⟨(), fun reason hr => hvalid reason (hp.mem_iff.2 hr), ?_⟩
  exact (sortBy_mapValues_eq (distinguished_reasons hcodes) untied_reasons
    fun reason => hp.mem_iff).symm

end Reasons

section Timing

instance : Std.TransCmp compareSpans :=
  inferInstanceAs (Std.TransCmp (compareLex
    (compareOn fun span : DvdTitleDamageTimingSpan => span.coverage.rank)
    (compareLex (compareLex
        (compareOn fun span : DvdTitleDamageTimingSpan => start span.sourceRange)
        (compareOn fun span : DvdTitleDamageTimingSpan => length span.sourceRange))
      (compareLex (compareOn (·.startMilliseconds)) (compareLex (compareOn (·.endMilliseconds))
        (compareOn fun span : DvdTitleDamageTimingSpan => codeUnits span.timingMethod))))))

theorem untied_spans {spans : List DvdTitleDamageTimingSpan} : Untied compareSpans spans := by
  rintro ⟨⟨_, _⟩, _, _, _, a⟩ - ⟨⟨_, _⟩, _, _, _, b⟩ - he
  simp only [compareSpans, compareLex_eq_eq, compareOn, Nat.compare_eq_eq] at he
  obtain ⟨hrank, hrange, rfl, rfl, hmethod⟩ := he
  obtain ⟨hstart, hlength⟩ := compareRanges_eq hrange
  cases hstart
  cases hlength
  cases compareCodeUnits_eq hmethod
  cases a <;> cases b <;> first | rfl | cases hrank

variable {unique : List UnreadableSectorRange}

theorem normalizeTimingOccurrence_rearranged
    (h : normalizeTimingOccurrence unique limit occurrence = .ok normalized)
    (hr : RearrangedOccurrence occurrence occurrence') :
    normalizeTimingOccurrence unique limit occurrence' = .ok normalized := by
  simp only [normalizeTimingOccurrence, bind_ok, pure_ok] at h ⊢
  obtain ⟨number, hnumber, spans, hspans, reasons, hreasons, rfl⟩ := h
  obtain ⟨spans', hspans', hperm⟩ := (mapM_results.1 hspans).perm hr.spans
  refine ⟨number, hr.playbackOccurrence ▸ hnumber, spans', mapM_results.2 hspans', reasons,
    validateUnknownReasons_perm hreasons hr.unknownReasons, ?_⟩
  rw [sortBy_eq_of_perm hperm untied_spans]

theorem normalizeTimingOccurrence_number
    (h : normalizeTimingOccurrence unique limit occurrence = .ok normalized) :
    normalized.playbackOccurrence = occurrence.playbackOccurrence := by
  simp only [normalizeTimingOccurrence, positiveSafeInteger, bind_ok, pure_ok] at h
  obtain ⟨_, ⟨-, -, rfl⟩, -, -, -, -, rfl⟩ := h
  rfl

instance : Std.TransCmp compareOccurrences :=
  inferInstanceAs (Std.TransCmp (compareOn fun occurrence : DvdTitleDamageTimingOccurrenceInput =>
    occurrence.playbackOccurrence))

theorem normalizeTimingEvidence_rearranged
    (h : normalizeTimingEvidence input unique limit = .ok normalized)
    (hr : RearrangedTiming input input') :
    normalizeTimingEvidence input' unique limit = .ok normalized := by
  cases hr with
  | none => exact h
  | some hpolicy hoccurrences =>
    simp only [normalizeTimingEvidence, bind_ok, rejectIf_ok, pure_ok, not_or] at h ⊢
    obtain ⟨-, ⟨hversion, hne⟩, occurrences, hok, rfl⟩ := h
    obtain ⟨occurrences', hok', hperm⟩ := mapUnseen_rearranged
      (fun _ _ hc => Eq.symm hc)
      (fun x x' y y' hx hy hc => hx.playbackOccurrence.symm.trans
        (Eq.trans hc hy.playbackOccurrence))
      (fun _ _ _ hx hf => normalizeTimingOccurrence_rearranged hf hx) hok hoccurrences
    have huntied : Untied compareOccurrences occurrences := by
      apply mapUnseen_untied _ hok
      intro x x' y y' hx hx' he
      rw [sameOccurrence, ← normalizeTimingOccurrence_number hx,
        ← normalizeTimingOccurrence_number hx']
      exact Nat.compare_eq_eq.1 he
    refine ⟨(), ⟨hpolicy ▸ hversion, fun hn => hne ?_⟩, occurrences', hok', ?_⟩
    · obtain ⟨middle, hmiddle, hp⟩ := hoccurrences
      rw [hn] at hp
      rw [hp.eq_nil] at hmiddle
      exact List.forall₂_nil_right_iff.1 hmiddle
    · rw [hpolicy, sortBy_eq_of_perm hperm huntied]

end Timing

section Titles

variable {context : AssessmentContext} {title title' : DvdTitleDamageMappingInput}
  {item : DvdTitleDamageAssessmentItem}

theorem validateMappingCoverage_perm {coverage coverage' validated : MappingCoverage}
    (h : validateMappingCoverage valid coverage = .ok validated)
    (hstate : coverage'.state = coverage.state)
    (hpolicy : coverage'.policyVersion = coverage.policyVersion)
    (hp : coverage.unknownReasons.Perm coverage'.unknownReasons) :
    validateMappingCoverage valid coverage' = .ok validated := by
  simp only [validateMappingCoverage, bind_ok, pure_ok, hstate, hpolicy] at h ⊢
  obtain ⟨_, hname, reasons, hreasons, _, hcomplete, _, hpartly, rfl⟩ := h
  exact ⟨(), hname, reasons, validateUnknownReasons_perm hreasons hp, (), hcomplete, (), hpartly,
    rfl⟩

theorem assessTitle_rearranged (h : assessTitle context title = .ok item)
    (hr : RearrangedTitle title title') : assessTitle context title' = .ok item := by
  simp only [assessTitle, bind_ok, pure_ok, hr.titleIdentityId, hr.titleIdentityObservationId,
    hr.displayTitleNumber, hr.selection] at h ⊢
  obtain ⟨_, hids, number, hnumber, selection, hselection, unique, hunique, timing, htiming,
    coverage, hcoverage, playback, hplayback, rfl⟩ := h
  exact ⟨(), hids, number, hnumber, selection, hselection, unique,
    normalizeRanges_congr hunique hr.sourceReferences.1 hr.sourceReferences.2, timing,
    normalizeTimingEvidence_rearranged htiming hr.timingEvidence, coverage,
    validateMappingCoverage_perm hcoverage hr.state hr.policyVersion hr.unknownReasons, playback,
    hplayback, rfl⟩

theorem assessTitle_observation (h : assessTitle context title = .ok item) :
    item.titleIdentityObservationId = title.titleIdentityObservationId := by
  simp only [assessTitle, bind_ok, pure_ok] at h
  obtain ⟨-, -, _, -, _, -, _, -, _, -, _, -, _, -, rfl⟩ := h
  rfl

instance : Std.TransCmp compareItems :=
  inferInstanceAs (Std.TransCmp (compareLex (compareOn (·.displayTitleNumber))
    (compareOn fun item : DvdTitleDamageAssessmentItem =>
      codeUnits item.titleIdentityObservationId)))

theorem assessTitles_rearranged {titles titles' : List DvdTitleDamageMappingInput}
    (h : mapUnseen sameTitle repeated (assessTitle context) [] titles = .ok assessed)
    (hr : Rearranged RearrangedTitle titles titles') :
    ∃ assessed', mapUnseen sameTitle repeated (assessTitle context) [] titles' = .ok assessed' ∧
      sortBy compareItems assessed = sortBy compareItems assessed' := by
  obtain ⟨assessed', hok, hperm⟩ := mapUnseen_rearranged
    (fun _ _ hc => hc.imp Eq.symm Eq.symm)
    (fun x x' y y' hx hy hc => hc.imp
      (fun he => hx.titleIdentityId.symm.trans (he.trans hy.titleIdentityId))
      fun he => hx.titleIdentityObservationId.symm.trans (he.trans hy.titleIdentityObservationId))
    (fun _ _ _ hx hf => assessTitle_rearranged hf hx) h hr
  refine ⟨assessed', hok, sortBy_eq_of_perm hperm ?_⟩
  apply mapUnseen_untied _ h
  intro x x' y y' hx hx' he
  refine .inr ?_
  rw [← assessTitle_observation hx, ← assessTitle_observation hx']
  exact compareCodeUnits_eq (compareLex_eq_eq.1 he).2

end Titles

section Provenance

variable {entry entry' normalized : DvdTitleDamageSourceContinuityProvenance}

theorem normalizeProvenance_rearranged (h : normalizeProvenance limit entry = .ok normalized)
    (hr : RearrangedProvenance entry entry') :
    normalizeProvenance limit entry' = .ok normalized := by
  have hranges := hr.recoveredSourceRanges
  rw [hr.rest]
  simp only [normalizeProvenance, bind_ok, pure_ok] at h ⊢
  obtain ⟨_, hvalid, ranges, hok, rfl⟩ := h
  exact ⟨(), hvalid, ranges, normalizeRanges_congr hok hranges.1 hranges.2, rfl⟩

instance : Std.TransCmp compareProvenance :=
  inferInstanceAs (Std.TransCmp (compareOn
    fun entry : DvdTitleDamageSourceContinuityProvenance => codeUnits entry.discConfirmationId))

theorem normalizeSourceContinuity_rearranged
    (h : normalizeSourceContinuity input limit = .ok continuity)
    (hr : RearrangedContinuity input input') :
    normalizeSourceContinuity input' limit = .ok continuity := by
  cases hr with
  | none => exact h
  | some hpolicy hprovenance =>
    simp only [normalizeSourceContinuity, bind_ok, rejectIf_ok, pure_ok] at h ⊢
    obtain ⟨-, hversion, entries, hentries, _, hoverlaps, rfl⟩ := h
    have hid {x y : DvdTitleDamageSourceContinuityProvenance} (hx : RearrangedProvenance x y) :
        y.discConfirmationId = x.discConfirmationId := by
      rw [hx.rest]
    obtain ⟨entries', hentries', hperm⟩ := mapUnseen_rearranged (r := RearrangedProvenance)
      (fun _ _ hc => Eq.symm hc)
      (fun x x' y y' hx hy hc => (hid hx).symm.trans (Eq.trans hc (hid hy)))
      (fun _ _ _ hx hf => normalizeProvenance_rearranged hf hx) hentries hprovenance
    have huntied : Untied compareProvenance entries := by
      apply mapUnseen_untied _ hentries
      intro x x' y y' hx hx' he
      rw [sameConfirmation, ← (normalizeProvenance_ok hx).1, ← (normalizeProvenance_ok hx').1]
      exact compareCodeUnits_eq he
    have hsorted := sortBy_eq_of_perm hperm huntied
    rw [hsorted] at hoverlaps
    exact ⟨(), hpolicy ▸ hversion, entries', hentries', (), hoverlaps, by rw [hpolicy, hsorted]⟩

end Provenance

variable {input input' : DvdTitleDamageAssessmentInput}

theorem semanticEvidence_rearranged (h : semanticEvidence input = .ok evidence)
    (hr : RearrangedInput input input') : semanticEvidence input' = .ok evidence := by
  simp only [semanticEvidence, bind_ok, pure_ok, hr.checkpoint, hr.titleIdentityReviewSetIdentity,
    hr.catalogMappingProjectionId, hr.structuralAssessmentIdentity, hr.structuralFindings,
    hr.unrecoveredSourceRanges] at h ⊢
  obtain ⟨checkpoint, hcheckpoint, _, hids, unrecovered, hunrecovered, continuity, hcontinuity,
    assessed, hassessed, _, hmixed, known, hknown, reasons, hreasons, rfl⟩ := h
  obtain ⟨assessed', hassessed', hsorted⟩ := assessTitles_rearranged hassessed hr.titles
  rw [hsorted] at hmixed hknown hreasons
  refine ⟨checkpoint, hcheckpoint, (), hids, unrecovered, hunrecovered, continuity,
    normalizeSourceContinuity_rearranged hcontinuity hr.sourceContinuity, assessed', hassessed', (),
    hmixed, known, hknown, reasons, hreasons, ?_⟩
  rw [hsorted]

/-- An assessment, its identity included, does not depend on how its input is presented. -/
theorem createDvdTitleDamageAssessment_rearranged {evidenceDigest : IdentityEvidence → String}
    (h : createDvdTitleDamageAssessment evidenceDigest input = .ok assessment)
    (hr : RearrangedInput input input') :
    createDvdTitleDamageAssessment evidenceDigest input' = .ok assessment := by
  simp only [createDvdTitleDamageAssessment, bind_ok, pure_ok] at h ⊢
  obtain ⟨evidence, hevidence, _, hlegacy, rfl⟩ := h
  refine ⟨evidence, semanticEvidence_rearranged hevidence hr, (), hlegacy, ?_⟩
  rw [hr.catalogMappingProjectionId]

/-- A title of the sample, as far as it is mapped, with the times of its playbacks. -/
def timedTitle (title : DvdTitleDamageMappingInput)
    (unknownReasons : List DvdTitleDamageUnknownReason)
    (occurrences : List DvdTitleDamageTimingOccurrenceInput) : DvdTitleDamageMappingInput :=
  { title with
    mappingCoverage := ⟨.partly, "title-map-v1", unknownReasons⟩
    timingEvidence := some ⟨DVD_TITLE_DAMAGE_TIMING_POLICY_VERSION, occurrences⟩ }

def untimedReason : DvdTitleDamageUnknownReason := ⟨"UNTIMED_SOURCE", "No cell time is known."⟩

def unmappedReason : DvdTitleDamageUnknownReason := ⟨"UNMAPPED_CELL", "A cell is not mapped."⟩

def firstSpan : DvdTitleDamageTimingSpan := ⟨⟨100, 5⟩, 0, 1000, "vobu-time", .sourceSpan⟩

def secondSpan : DvdTitleDamageTimingSpan := ⟨⟨104, 6⟩, 500, 3000, "cell-time", .wholeCell⟩

def firstOccurrence : DvdTitleDamageTimingOccurrenceInput :=
  ⟨1, [firstSpan, secondSpan], [untimedReason, unmappedReason]⟩

def firstOccurrenceTurned : DvdTitleDamageTimingOccurrenceInput :=
  ⟨1, [secondSpan, firstSpan], [unmappedReason, untimedReason]⟩

def secondOccurrence : DvdTitleDamageTimingOccurrenceInput := ⟨2, [secondSpan], [untimedReason]⟩

def firstTitle : DvdTitleDamageMappingInput :=
  sampleTitle 1 "one" [⟨⟨10, 100⟩, .multiplexedContent⟩, ⟨⟨0, 10⟩, .navigation⟩,
    ⟨⟨10, 100⟩, .multiplexedContent⟩]

def firstTitleMerged : DvdTitleDamageMappingInput :=
  sampleTitle 1 "one" [⟨⟨0, 110⟩, .multiplexedContent⟩]

def secondTitle : DvdTitleDamageMappingInput :=
  sampleTitle 2 "two" [⟨⟨100, 50⟩, .multiplexedContent⟩]

/-- The sample with titles that are timed. -/
def timedDamage : DvdTitleDamageAssessmentInput :=
  { sampleDamage with
    titles := [
      timedTitle secondTitle [untimedReason, unmappedReason] [firstOccurrence, secondOccurrence],
      timedTitle firstTitle [unmappedReason] [secondOccurrence]] }

/-- The same with its titles in order, the references of the first merged, the confirmed ranges
split and turned around, and the occurrences, spans and reasons of the other title the other way
around. -/
def rearrangedDamage : DvdTitleDamageAssessmentInput :=
  { timedDamage with
    sourceContinuity := some ⟨DVD_TITLE_DAMAGE_SOURCE_CONTINUITY_POLICY_VERSION,
      [⟨"confirmation", "recovery", "attempt", "verification", .mismatch, sampleText 'e',
        ⟨1, sampleText 'f'⟩, [⟨400, 2⟩, ⟨27, 1⟩, ⟨25, 2⟩]⟩]⟩
    titles := [
      timedTitle firstTitleMerged [unmappedReason] [secondOccurrence],
      timedTitle secondTitle [unmappedReason, untimedReason]
        [secondOccurrence, firstOccurrenceTurned]] }

theorem rearrangedDamage_rearranged : RearrangedInput timedDamage rearrangedDamage where
  checkpoint := rfl
  titleIdentityReviewSetIdentity := rfl
  catalogMappingProjectionId := rfl
  structuralAssessmentIdentity := rfl
  structuralFindings := rfl
  unrecoveredSourceRanges := rfl
  sourceContinuity := .some rfl ⟨_, .cons ⟨rfl, by decide +kernel, by decide +kernel⟩ .nil, .refl _⟩
  titles := by
    have hfirst : RearrangedTitle (timedTitle firstTitle [unmappedReason] [secondOccurrence])
        (timedTitle firstTitleMerged [unmappedReason] [secondOccurrence]) :=
      ⟨rfl, rfl, rfl, rfl, ⟨by decide +kernel, by decide +kernel⟩, rfl, rfl, .refl _,
        .some rfl ⟨_, .cons ⟨rfl, .refl _, .refl _⟩ .nil, .refl _⟩⟩
    have hoccurrences : Rearranged RearrangedOccurrence [firstOccurrence, secondOccurrence]
        [secondOccurrence, firstOccurrenceTurned] :=
      ⟨[firstOccurrenceTurned, secondOccurrence],
        .cons ⟨rfl, .swap _ _ _, .swap _ _ _⟩ (.cons ⟨rfl, .refl _, .refl _⟩ .nil), .swap _ _ _⟩
    have hsecond : RearrangedTitle
        (timedTitle secondTitle [untimedReason, unmappedReason]
          [firstOccurrence, secondOccurrence])
        (timedTitle secondTitle [unmappedReason, untimedReason]
          [secondOccurrence, firstOccurrenceTurned]) :=
      ⟨rfl, rfl, rfl, rfl, ⟨rfl, by decide +kernel⟩, rfl, rfl, .swap _ _ _, .some rfl hoccurrences⟩
    exact ⟨_, .cons hsecond (.cons hfirst .nil), .swap _ _ _⟩

theorem rearrangedDamage_assessment : ∃ assessment,
    createDvdTitleDamageAssessment (fun _ => "digest") timedDamage = .ok assessment ∧
    createDvdTitleDamageAssessment (fun _ => "digest") rearrangedDamage = .ok assessment := by
  obtain ⟨assessment, h⟩ := exists_ok
    (x := createDvdTitleDamageAssessment (fun _ => "digest") timedDamage) (by decide +kernel)
  exact ⟨assessment, h, createDvdTitleDamageAssessment_rearranged h rearrangedDamage_rearranged⟩

end RipDvd
