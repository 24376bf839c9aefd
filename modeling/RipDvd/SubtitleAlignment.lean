import RipDvd.Partners
import RipDvd.SubtitleStreams

namespace RipDvd
set_option autoImplicit true

variable {runtime : LanguageRuntime}

/-- A stream has the expected language and title, and both can be compared. -/
structure EncodeOutputVobSubExpectation.Meets (runtime : LanguageRuntime)
    (expectation : EncodeOutputVobSubExpectation) (stream : CompleteSubtitleStream) : Prop where
  language : ∀ code ∈ expectation.languageCode, identifiedMetadata runtime code = true ∧
    normalizedLanguageName runtime stream.language = some (expectedLanguageName runtime code)
  title : ∀ title ∈ expectation.title,
    title.all (identifiedMetadata runtime) = true ∧
      normalizedTitle runtime stream.title = normalizedTitle runtime title

/-- A stream is the output of one track: its flags are the ones the muxer derives from the
track, its language and title those of the declared source. -/
structure VobSubMatch (runtime : LanguageRuntime) (declared : List EncodeOutputVobSubExpectation)
    (track : HandBrakeVobSubProvenance) (stream : CompleteSubtitleStream) : Prop where
  default : stream.default = track.default
  forced : stream.forced = track.default
  declared : ∃ source ∈ declared, source.sourceTrackNumber = some track.sourceTrackNumber ∧
    source.Meets runtime stream

/-- The stream beside the source track of an expectation. -/
def SourceStream (provenance : List HandBrakeVobSubProvenance)
    (streams : List CompleteSubtitleStream) (source : EncodeOutputVobSubExpectation)
    (stream : CompleteSubtitleStream) : Prop :=
  ∃ track, (track, stream) ∈ provenance.zip (vobSubStreams streams) ∧
    track.isSourceOf source.sourceTrackNumber = true

/-- The three lists of a subtitle check that fit together. -/
structure SubtitlesAligned (runtime : LanguageRuntime)
    (declared expected : List EncodeOutputVobSubExpectation)
    (provenance : List HandBrakeVobSubProvenance) (streams : List CompleteSubtitleStream) :
    Prop where
  tracks : List.Forall₂ (VobSubMatch runtime declared) provenance (vobSubStreams streams)
  numbers_nodup : (declared.map fun source => source.sourceTrackNumber).Nodup
  declared : expected.Sublist declared
  numbers_safe : ∀ source ∈ expected, source.sourceTrackNumber.any isSafeTrackNumber = true
  source_once : ∀ source ∈ expected,
    provenance.countP (·.isSourceOf source.sourceTrackNumber) = 1
  source_expected : ∀ track ∈ provenance, track.kind = .source →
    ∃ source ∈ expected, source.sourceTrackNumber = some track.sourceTrackNumber
  search_once : provenance.countP (·.kind = .foreignAudioSearch) ≤ 1
  search_forced : ∀ track ∈ provenance, track.kind = .foreignAudioSearch →
    track.forcedOnly = true
  default_once : provenance.countP (·.default) ≤ 1

theorem ProvenanceOf.aligned (h : ProvenanceOf expectations provenance)
    (htracks : List.Forall₂ (VobSubMatch runtime expectations) provenance
      (vobSubStreams streams)) :
    SubtitlesAligned runtime expectations expectations provenance streams where
  tracks := htracks
  numbers_nodup := h.numbers_nodup
  declared := List.Sublist.refl _
  numbers_safe := h.numbers_safe
  source_once := h.source_once
  source_expected track htrack _ := h.expected track htrack
  search_once := h.search_once
  search_forced := h.search_forced
  default_once := h.default_once

theorem HandBrakeVobSubProvenance.isSourceOf_iff {track : HandBrakeVobSubProvenance} :
    track.isSourceOf number = true ↔
      track.kind = .source ∧ number = some track.sourceTrackNumber := by
  rw [isSourceOf, Bool.and_eq_true, decide_eq_true_eq, decide_eq_true_eq]
  exact and_congr_right fun _ => eq_comm

theorem EncodeOutputVobSubExpectation.Meets.wellFormed
    {source : EncodeOutputVobSubExpectation} (h : source.Meets runtime stream) :
    malformedExpectation runtime source = false := by
  obtain ⟨languageCode, number, title⟩ := source
  have hlanguage : languageCode.any (fun code => !identifiedMetadata runtime code) = false := by
    cases languageCode with
    | none => rfl
    | some code =>
      rw [Option.any_some, (h.language code rfl).1]
      rfl
  have htitle : (title.any fun title =>
      title.any fun title => !identifiedMetadata runtime title) = false := by
    cases title with
    | none => rfl
    | some title =>
      cases title with
      | none => rfl
      | some title =>
        have hidentified : identifiedMetadata runtime title = true := (h.title _ rfl).1
        rw [Option.any_some, Option.any_some, hidentified]
        rfl
  exact Bool.or_eq_false_iff.2 ⟨hlanguage, htitle⟩

theorem EncodeOutputVobSubExpectation.Meets.validated
    {source : EncodeOutputVobSubExpectation} (h : source.Meets runtime stream) :
    validateExpectedStream runtime position source stream = .ok () := by
  obtain ⟨languageCode, number, title⟩ := source
  apply bind_ok.2
  refine ⟨(), ?_, ?_⟩
  · cases languageCode with
    | none => rfl
    | some code => exact rejectIf_ok.2 (not_not.2 (h.language code rfl).2)
  · cases title with
    | none => rfl
    | some title => exact rejectIf_ok.2 (not_not.2 (h.title title rfl).2)

theorem validateExpectedVobSubStreams_ok
    (h : List.Forall₂ (fun source stream => source.Meets runtime stream) expected sources) :
    validateExpectedVobSubStreams runtime sources (some expected) = .ok () := by
  apply bind_ok.2
  refine ⟨(), rejectIf_ok.2 ?_, bind_ok.2 ⟨(), rejectIf_ok.2 (not_not.2 h.length_eq.symm), ?_⟩⟩
  · rintro ⟨source, hsource, hmalformed⟩
    obtain ⟨stream, -, hmeets⟩ := exists_partner h hsource
    rw [hmeets.wellFormed] at hmalformed
    cases hmalformed
  · apply forM_ok.2
    intro entry hentry
    have hpair := List.fst_mem_of_mem_zipIdx hentry
    have hmeets := (List.forall₂_iff_zip.1 h).2 hpair
    exact hmeets.validated

/-- The declared source of a track is found, and its stream meets it. -/
theorem VobSubMatch.find {declared : List EncodeOutputVobSubExpectation}
    (h : VobSubMatch runtime declared track stream)
    (hnodup : (declared.map fun source => source.sourceTrackNumber).Nodup) :
    ∃ source, (declared.find? fun source =>
        source.sourceTrackNumber = some track.sourceTrackNumber) = some source ∧
      source.Meets runtime stream := by
  obtain ⟨source, hsource, hnumber, hmeets⟩ := h.declared
  cases hfind : declared.find? fun source =>
      source.sourceTrackNumber = some track.sourceTrackNumber with
  | none => exact absurd hnumber (by simpa using List.find?_eq_none.1 hfind source hsource)
  | some found =>
    have hfound := List.find?_some hfind
    rw [decide_eq_true_eq] at hfound
    have heq := List.inj_on_of_nodup_map hnodup (List.mem_of_find?_eq_some hfind) hsource
      (hfound.trans hnumber.symm)
    exact ⟨found, rfl, heq ▸ hmeets⟩

/-- The source tracks among pairs of a track and its stream. -/
def sourcePairs (pairs : List (HandBrakeVobSubProvenance × CompleteSubtitleStream)) :
    List (Int × CompleteSubtitleStream) :=
  pairs.filterMap fun pair =>
    if pair.1.kind = .source then some (pair.1.sourceTrackNumber, pair.2) else none

theorem mem_sourcePairs : (number, stream) ∈ sourcePairs pairs ↔
    ∃ track, (track, stream) ∈ pairs ∧ track.isSourceOf (some number) = true := by
  constructor
  · intro h
    obtain ⟨⟨track, stream'⟩, hpair, hsome⟩ := List.mem_filterMap.1 h
    by_cases hkind : track.kind = .source
    · rw [if_pos hkind] at hsome
      cases hsome
      exact ⟨track, hpair, HandBrakeVobSubProvenance.isSourceOf_iff.2 ⟨hkind, rfl⟩⟩
    · rw [if_neg hkind] at hsome
      cases hsome
  · rintro ⟨track, hpair, hsource⟩
    obtain ⟨hkind, hnumber⟩ := HandBrakeVobSubProvenance.isSourceOf_iff.1 hsource
    cases hnumber
    exact List.mem_filterMap.2 ⟨(track, stream), hpair, if_pos hkind⟩

theorem pairTracks_eq {pairs : List (HandBrakeVobSubProvenance × CompleteSubtitleStream)}
    {declared : List EncodeOutputVobSubExpectation}
    (hnodup : (declared.map fun source => source.sourceTrackNumber).Nodup)
    (hmatch : ∀ pair ∈ pairs, VobSubMatch runtime declared pair.1 pair.2)
    (hforced : ∀ pair ∈ pairs, pair.1.kind = .foreignAudioSearch → pair.1.forcedOnly = true)
    (hsources : ((found ++ sourcePairs pairs).map Prod.fst).Nodup)
    (hsearch : searchCount + pairs.countP (fun pair => pair.1.kind = .foreignAudioSearch) ≤ 1) :
    pairTracks runtime declared pairs found searchCount = .ok (found ++ sourcePairs pairs) := by
  induction pairs generalizing found searchCount with
  | nil => rw [pairTracks, sourcePairs, List.filterMap_nil, List.append_nil]
  | cons pair pairs ih =>
    obtain ⟨track, stream⟩ := pair
    obtain ⟨hhead, htail⟩ := List.forall_mem_cons.1 hmatch
    obtain ⟨hhforced, htforced⟩ := List.forall_mem_cons.1 hforced
    obtain ⟨source, hfind, hmeets⟩ := hhead.find hnodup
    have hflags : ¬(stream.default ≠ track.default ∨ stream.forced ≠ track.default) :=
      not_or.2 ⟨not_not.2 hhead.default, not_not.2 hhead.forced⟩
    rw [List.countP_cons] at hsearch
    rw [pairTracks, hfind]
    apply bind_ok.2
    refine ⟨(), rejectIf_ok.2 hflags, ?_⟩
    cases hkind : track.kind with
    | source =>
      have hcons : sourcePairs ((track, stream) :: pairs) =
          [(track.sourceTrackNumber, stream)] ++ sourcePairs pairs :=
        List.filterMap_cons_some (if_pos hkind)
      rw [hcons, ← List.append_assoc] at hsources ⊢
      apply bind_ok.2
      refine ⟨(), rejectIf_ok.2 ?_, ih htail htforced hsources (by omega)⟩
      intro hmem
      rw [List.map_append, List.map_append] at hsources
      have hdisjoint := List.disjoint_of_nodup_append (List.nodup_append.1 hsources).1
      exact hdisjoint hmem List.mem_cons_self
    | foreignAudioSearch =>
      have hcons : sourcePairs ((track, stream) :: pairs) = sourcePairs pairs :=
        List.filterMap_cons_none (if_neg (by rw [hkind]; exact nofun))
      rw [hcons] at hsources ⊢
      rw [if_pos (decide_eq_true hkind)] at hsearch
      apply bind_ok.2
      refine ⟨(), rejectIf_ok.2 (not_or.2 ⟨by omega, ?_⟩), bind_ok.2 ⟨(), ?_, ?_⟩⟩
      · rw [hhforced hkind]
        exact nofun
      · exact validateExpectedVobSubStreams_ok (.cons hmeets .nil)
      · exact ih htail htforced hsources (by omega)

/-- The number of a source track. -/
def HandBrakeVobSubProvenance.sourceNumber (track : HandBrakeVobSubProvenance) : Option Int :=
  if track.kind = .source then some track.sourceTrackNumber else none

theorem map_fst_sourcePairs {provenance : List HandBrakeVobSubProvenance}
    {streams : List CompleteSubtitleStream}
    (h : provenance.length = streams.length) :
    (sourcePairs (provenance.zip streams)).map Prod.fst =
      provenance.filterMap (·.sourceNumber) := by
  have hfst : provenance.filterMap (·.sourceNumber) =
      ((provenance.zip streams).map Prod.fst).filterMap (·.sourceNumber) := by
    rw [List.map_fst_zip (Nat.le_of_eq h)]
  rw [hfst, sourcePairs, List.map_filterMap, List.filterMap_map]
  apply List.filterMap_congr
  intro pair _
  rw [Function.comp_apply, HandBrakeVobSubProvenance.sourceNumber]
  split <;> rfl

theorem count_sourceNumber {provenance : List HandBrakeVobSubProvenance} :
    (provenance.filterMap (·.sourceNumber)).count number =
      provenance.countP (·.isSourceOf (some number)) := by
  induction provenance with
  | nil => rfl
  | cons track provenance ih =>
    rw [List.countP_cons, ← ih]
    by_cases hkind : track.kind = .source
    · have hsome : track.sourceNumber = some track.sourceTrackNumber := if_pos hkind
      rw [List.filterMap_cons_some hsome, List.count_cons]
      congr 1
      apply if_congr _ rfl rfl
      rw [beq_iff_eq, HandBrakeVobSubProvenance.isSourceOf_iff, Option.some.injEq]
      exact ⟨fun h => ⟨hkind, h.symm⟩, fun h => h.2.symm⟩
    · have hnone : track.sourceNumber = none := if_neg hkind
      have hsource : ¬track.isSourceOf (some number) = true := fun h =>
        hkind (HandBrakeVobSubProvenance.isSourceOf_iff.1 h).1
      rw [List.filterMap_cons_none hnone, if_neg hsource, Nat.add_zero]

namespace SubtitlesAligned

variable {declared expected : List EncodeOutputVobSubExpectation}

theorem length_eq (h : SubtitlesAligned runtime declared expected provenance streams) :
    provenance.length = (vobSubStreams streams).length :=
  h.tracks.length_eq

theorem sourceNumbers_nodup
    (h : SubtitlesAligned runtime declared expected provenance streams) :
    (provenance.filterMap (·.sourceNumber)).Nodup := by
  apply List.nodup_iff_count_le_one.2
  intro number
  rw [count_sourceNumber]
  by_cases hsource : ∃ track ∈ provenance, track.isSourceOf (some number) = true
  · obtain ⟨track, htrack, hsource⟩ := hsource
    obtain ⟨hkind, hnumber⟩ := HandBrakeVobSubProvenance.isSourceOf_iff.1 hsource
    obtain ⟨source, hexpected, heq⟩ := h.source_expected track htrack hkind
    rw [hnumber, ← heq]
    exact (h.source_once source hexpected).le
  · have hzero : provenance.countP (·.isSourceOf (some number)) = 0 := by
      apply List.countP_eq_zero.2
      intro track htrack htrue
      exact hsource ⟨track, htrack, htrue⟩
    omega

/-- The source stream of an expectation, with its pair. -/
theorem exists_source (h : SubtitlesAligned runtime declared expected provenance streams)
    (hsource : source ∈ expected) :
    ∃ number stream, source.sourceTrackNumber = some number ∧
      (number, stream) ∈ sourcePairs (provenance.zip (vobSubStreams streams)) := by
  obtain ⟨track, htrack, hof⟩ := List.countP_pos_iff.1 (h.source_once source hsource ▸ one_pos)
  obtain ⟨stream, hpair, -⟩ := exists_partner h.tracks htrack
  have hnumber := (HandBrakeVobSubProvenance.isSourceOf_iff.1 hof).2
  refine ⟨track.sourceTrackNumber, stream, hnumber, mem_sourcePairs.2 ⟨track, hpair, ?_⟩⟩
  rw [← hnumber]
  exact hof

/-- The loop over the provenance finds the source streams. -/
theorem paired (h : SubtitlesAligned runtime declared expected provenance streams) :
    pairTracks runtime declared (provenance.zip (vobSubStreams streams)) [] 0 =
      .ok (sourcePairs (provenance.zip (vobSubStreams streams))) := by
  apply pairTracks_eq h.numbers_nodup
  · intro pair hpair
    exact (List.forall₂_iff_zip.1 h.tracks).2 hpair
  · intro pair hpair hkind
    exact h.search_forced pair.1 (List.of_mem_zip hpair).1 hkind
  · rw [List.nil_append, map_fst_sourcePairs h.length_eq]
    exact h.sourceNumbers_nodup
  · have hcount := countP_zip (p := fun track : HandBrakeVobSubProvenance =>
      decide (track.kind = .foreignAudioSearch)) h.length_eq
    rw [hcount, Nat.zero_add]
    exact h.search_once

theorem source_meets (h : SubtitlesAligned runtime declared expected provenance streams)
    (hsource : source ∈ expected) (hstream : SourceStream provenance streams source stream) :
    source.Meets runtime stream := by
  obtain ⟨track, hpair, hof⟩ := hstream
  have hmatch := (List.forall₂_iff_zip.1 h.tracks).2 hpair
  obtain ⟨source', hsource', hnumber, hmeets⟩ := hmatch.declared
  have heq := List.inj_on_of_nodup_map h.numbers_nodup hsource' (h.declared.subset hsource)
    (hnumber.trans (HandBrakeVobSubProvenance.isSourceOf_iff.1 hof).2.symm)
  exact heq ▸ hmeets

/-- The stream found for an expectation. -/
theorem lookup_source (h : SubtitlesAligned runtime declared expected provenance streams)
    (hsource : source ∈ expected) :
    ∃ stream, (source.sourceTrackNumber.bind fun number =>
        (sourcePairs (provenance.zip (vobSubStreams streams))).lookup number) = some stream ∧
      SourceStream provenance streams source stream := by
  obtain ⟨number, stream, hnumber, hmem⟩ := h.exists_source hsource
  obtain ⟨found, hfound⟩ := exists_lookup (List.mem_map_of_mem (f := Prod.fst) hmem)
  obtain ⟨track, hpair, hof⟩ := mem_sourcePairs.1 (lookup_mem hfound)
  rw [hnumber, Option.bind_some]
  exact ⟨found, hfound, track, hpair, hnumber ▸ hof⟩

/-- The expected numbers are those of the source tracks. -/
theorem numbers_perm (h : SubtitlesAligned runtime declared expected provenance streams) :
    (expected.filterMap fun source => source.sourceTrackNumber).Perm
      (provenance.filterMap (·.sourceNumber)) := by
  have hsafe : ∀ source ∈ expected, ∃ number, source.sourceTrackNumber = some number := by
    intro source hsource
    obtain ⟨number, -, hnumber, -⟩ := h.exists_source hsource
    exact ⟨number, hnumber⟩
  have hnodup : (expected.filterMap fun source => source.sourceTrackNumber).Nodup := by
    have hmap := (h.declared.map fun source => source.sourceTrackNumber).nodup h.numbers_nodup
    have hids := hmap.filterMap (f := id) (fun a a' b hb hb' => hb.trans hb'.symm)
    rw [List.filterMap_map] at hids
    exact hids
  apply (List.perm_ext_iff_of_nodup hnodup h.sourceNumbers_nodup).2
  intro number
  rw [List.mem_filterMap, List.mem_filterMap]
  constructor
  · rintro ⟨source, hsource, hnumber⟩
    have hcount := h.source_once source hsource
    obtain ⟨track, htrack, hof⟩ := List.countP_pos_iff.1 (hcount ▸ one_pos)
    obtain ⟨hkind, heq⟩ := HandBrakeVobSubProvenance.isSourceOf_iff.1 hof
    exact ⟨track, htrack, (if_pos hkind).trans (heq.symm.trans hnumber)⟩
  · rintro ⟨track, htrack, hnumber⟩
    by_cases hkind : track.kind = .source
    · obtain ⟨source, hsource, heq⟩ := h.source_expected track htrack hkind
      exact ⟨source, hsource, heq.trans ((if_pos hkind).symm.trans hnumber)⟩
    · have hnone : track.sourceNumber = none := if_neg hkind
      rw [hnone] at hnumber
      cases hnumber

/-- Exactly the source streams are returned, in the order of the expectations. -/
theorem sources (h : SubtitlesAligned runtime declared expected provenance streams) :
    ∃ sources, sourceVobSubStreams runtime streams (some expected) (some provenance)
        (some declared) = .ok sources ∧
      List.Forall₂ (SourceStream provenance streams) expected sources ∧
      sources.Perm ((sourcePairs (provenance.zip (vobSubStreams streams))).map Prod.snd) ∧
      validateExpectedVobSubStreams runtime sources (some expected) = .ok () := by
  have hfound := forall₂_filterMap (fun source hsource => h.lookup_source hsource)
  have hvalid := validateExpectedVobSubStreams_ok (List.forall₂_iff_zip.2 ⟨hfound.length_eq,
    fun hpair => h.source_meets (List.of_mem_zip hpair).1
      ((List.forall₂_iff_zip.1 hfound).2 hpair)⟩)
  refine ⟨_, ?_, hfound, ?_, hvalid⟩
  · apply bind_ok.2
    refine ⟨(), rejectIf_ok.2 (not_or.2 ⟨?_, not_not.2 ?_⟩), ?_⟩
    · rintro ⟨number, hnumber, hunsafe⟩
      obtain ⟨source, hsource, rfl⟩ := List.mem_map.1 hnumber
      rw [h.numbers_safe source hsource] at hunsafe
      cases hunsafe
    · exact (h.declared.map _).nodup h.numbers_nodup
    · apply bind_ok.2
      refine ⟨(), rejectIf_ok.2 (not_not.2 h.length_eq), bind_ok.2 ⟨(), rejectIf_ok.2 ?_, ?_⟩⟩
      · rw [← List.countP_eq_length_filter]
        exact not_lt.2 h.default_once
      · exact bind_ok.2 ⟨_, h.paired, bind_ok.2 ⟨(), hvalid, rfl⟩⟩
  · have hkeys := map_fst_sourcePairs h.length_eq
    have hsnd := filterMap_lookup (sourcePairs (provenance.zip (vobSubStreams streams)))
      (hkeys ▸ h.sourceNumbers_nodup)
    rw [hkeys] at hsnd
    have hperm := h.numbers_perm.filterMap fun number =>
      (sourcePairs (provenance.zip (vobSubStreams streams))).lookup number
    rw [hsnd, List.filterMap_filterMap] at hperm
    exact hperm

end SubtitlesAligned

/-- A stream under the index of another output. -/
def Renumbered (stream stream' : CompleteSubtitleStream) : Prop :=
  stream' = { stream with index := stream'.index }

theorem VobSubMatch.renumbered {declared : List EncodeOutputVobSubExpectation}
    (h : VobSubMatch runtime declared track stream) (hsame : Renumbered stream stream') :
    VobSubMatch runtime declared track stream' := by
  rw [hsame]
  obtain ⟨source, hsource, hnumber, hmeets⟩ := h.declared
  exact ⟨h.default, h.forced, source, hsource, hnumber, hmeets.language, hmeets.title⟩

/-- The lists still fit together when streams are removed and the others renumbered. -/
theorem SubtitlesAligned.cleaned {declared expected : List EncodeOutputVobSubExpectation}
    {keep : CompleteSubtitleStream → Bool}
    (h : SubtitlesAligned runtime declared expected provenance streams)
    (hsources : List.Forall₂ (SourceStream provenance streams) expected found)
    (hkept : List.Forall₂ Renumbered (streams.filter keep) streams') :
    SubtitlesAligned runtime declared (keepAlong keep expected found)
      (keepAlong keep provenance (vobSubStreams streams)) streams' := by
  have hprovenance : (keepAlong keep provenance (vobSubStreams streams)).Sublist provenance :=
    keepAlong_sublist
  have hexpected : (keepAlong keep expected found).Sublist expected := keepAlong_sublist
  constructor
  · have hvobSub : List.Forall₂ Renumbered ((vobSubStreams streams).filter keep)
        (vobSubStreams streams') := by
      have hfilter := forall₂_filter (p := fun stream => decide (stream.codecName = "dvd_subtitle"))
        (q := fun stream => decide (stream.codecName = "dvd_subtitle")) hkept ?_
      · rw [List.filter_comm] at hfilter
        exact hfilter
      · intro stream stream' hsame
        rw [hsame]
    exact forall₂_trans (keepAlong_forall₂ h.tracks) hvobSub fun _ _ _ hmatch hsame =>
      hmatch.renumbered hsame
  · exact h.numbers_nodup
  · exact hexpected.trans h.declared
  · intro source hsource
    exact h.numbers_safe source (hexpected.subset hsource)
  · intro source hsource
    obtain ⟨stream, hpair, hkeep⟩ := mem_keepAlong.1 hsource
    obtain ⟨track, htrack, hof⟩ := (List.forall₂_iff_zip.1 hsources).2 hpair
    have hpos : 0 < (keepAlong keep provenance (vobSubStreams streams)).countP
        (·.isSourceOf source.sourceTrackNumber) :=
      List.countP_pos_iff.2 ⟨track, mem_keepAlong.2 ⟨stream, htrack, hkeep⟩, hof⟩
    have hle := hprovenance.countP_le (p := (·.isSourceOf source.sourceTrackNumber))
    have hone := h.source_once source (hexpected.subset hsource)
    omega
  · intro track htrack hkind
    obtain ⟨stream, hpair, hkeep⟩ := mem_keepAlong.1 htrack
    obtain ⟨source, hsource, hnumber⟩ :=
      h.source_expected track (hprovenance.subset htrack) hkind
    obtain ⟨stream', hsourcePair, track', hpair', hof⟩ := exists_partner hsources hsource
    have hcount := countP_zip (p := (·.isSourceOf source.sourceTrackNumber)) h.length_eq
    have heq := eq_of_countP (hcount.trans (h.source_once source hsource)).le hpair hpair'
      (HandBrakeVobSubProvenance.isSourceOf_iff.2 ⟨hkind, hnumber⟩) hof
    cases heq
    exact ⟨source, mem_keepAlong.2 ⟨stream, hsourcePair, hkeep⟩, hnumber⟩
  · exact (hprovenance.countP_le).trans h.search_once
  · intro track htrack
    exact h.search_forced track (hprovenance.subset htrack)
  · exact (hprovenance.countP_le).trans h.default_once

end RipDvd
