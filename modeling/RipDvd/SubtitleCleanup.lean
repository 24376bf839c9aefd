import RipDvd.SubtitleAlignment

namespace RipDvd
set_option autoImplicit true

def packetError (message : String) : EncodeOutputError := .validation .subtitlePackets message

def invalidPacketProbe : EncodeOutputError :=
  packetError "subtitle packet probe returned an invalid result"

/-- The number of packets a probe gives for a stream; none is not a count. -/
def packetCount : Option Json → Option Nat
  | none => some 0
  | some (.number n) => if 0 ≤ n ∧ n ≤ maxSafeInteger then some n.toNat else none
  | some (.string s) =>
    if s.toList ≠ [] ∧ s.toList.all Char.isDigit ∧ decimalValue s.toList ≤ maxSafeInteger then
      some (decimalValue s.toList)
    else none
  | some _ => none

def isVobSub (value : Json) : Bool := Json.isString (value.get "codec_name") "dvd_subtitle"

/-- The loop over the streams of a packet probe, with the indexes observed and found empty. -/
def countPackets (expectedIndexes : List Nat) :
    List Json → List Nat → List Nat → Except EncodeOutputError (List Nat × List Nat)
  | [], observedIndexes, emptyIndexes => .ok (observedIndexes, emptyIndexes)
  | value :: values, observedIndexes, emptyIndexes => do
    rejectIf (isObject (some value) = false) invalidPacketProbe
    if isVobSub value = false then
      countPackets expectedIndexes values observedIndexes emptyIndexes
    else
      match Json.safeNonNegativeInteger (value.get "index"),
          packetCount (value.get "nb_read_packets") with
      | some index, some count => do
        rejectIf (index ∉ expectedIndexes ∨ index ∈ observedIndexes) invalidPacketProbe
        countPackets expectedIndexes values (observedIndexes ++ [index])
          (if count = 0 then emptyIndexes ++ [index] else emptyIndexes)
      | _, _ => .error invalidPacketProbe

def validateVobSubPacketCounts (result : Json) (expectedIndexes : List Nat) :
    Except EncodeOutputError (List Nat) :=
  match Json.arrayValue (result.get "streams") with
  | none => .error invalidPacketProbe
  | some streams => do
    let (observedIndexes, emptyIndexes) ← countPackets expectedIndexes streams [] []
    rejectIf (∃ index ∈ expectedIndexes, index ∉ observedIndexes) invalidPacketProbe
    return emptyIndexes

structure RetainedSubtitleDisposition where
  default : Bool
  forced : Bool
  deriving DecidableEq

/-- The standard error of a packet probe, and what its output parses to. -/
structure PacketProbe where
  stderr : String
  result : Except EncodeOutputError Json

/-- The tools a subtitle check runs on an output file; `removeEmptyVobSubStreams` leaves the file
it put in its place. -/
structure SubtitleTools (Output : Type) where
  subtitleProbe : Output → Except EncodeOutputError Json
  packetProbe : Output → Except EncodeOutputError PacketProbe
  removeEmptyVobSubStreams : Output → List Nat → List RetainedSubtitleDisposition →
    Except String Output

/-- The variables of the loop of `validateSubtitleStreams`. -/
structure SubtitleCheck (Output : Type) where
  removedEmptyStreams : Bool
  expectedVobSubStreams : Option (List EncodeOutputVobSubExpectation)
  vobSubProvenance : Option (List HandBrakeVobSubProvenance)
  output : Output

section Loop

variable (runtime : LanguageRuntime) (tools : SubtitleTools Output)

/-- The VobSub streams of an output that carry no packet. -/
def emptyVobSubIndexes (output : Output) (vobSubIndexes : List Nat) :
    Except EncodeOutputError (List Nat) := do
  let packetProbe ← tools.packetProbe output
  rejectIf (trim packetProbe.stderr ≠ "")
    (packetError "subtitle packet probe reported unreadable data")
  let result ← packetProbe.result
  validateVobSubPacketCounts result vobSubIndexes

/-- Removal of the empty streams, with the lists filtered for the next round. -/
def cleanUp (check : SubtitleCheck Output) (streams sourceStreams : List CompleteSubtitleStream)
    (emptyIndexes : List Nat) : Except EncodeOutputError (SubtitleCheck Output) := do
  rejectIf check.removedEmptyStreams
    (.validation .subtitleCleanup "subtitle cleanup left an empty VobSub stream")
  let retained (stream : CompleteSubtitleStream) : Bool := stream.index ∉ emptyIndexes
  match tools.removeEmptyVobSubStreams check.output emptyIndexes
      ((streams.filter retained).map fun stream => ⟨stream.default, stream.forced⟩) with
  | .error message =>
    .error (.validation .subtitleCleanup s!"subtitle cleanup failed: {message}")
  | .ok output =>
    .ok {
      removedEmptyStreams := true
      expectedVobSubStreams := check.expectedVobSubStreams.map fun expected =>
        keepAlong retained expected sourceStreams
      vobSubProvenance := check.vobSubProvenance.map fun provenance =>
        keepAlong retained provenance (vobSubStreams streams)
      output }

/-- One round of the loop; none returns. -/
def subtitleRound (declared : Option (List EncodeOutputVobSubExpectation))
    (check : SubtitleCheck Output) : Except EncodeOutputError (Option (SubtitleCheck Output)) := do
  let probe ← tools.subtitleProbe check.output
  let streams ← validatedSubtitleStreams runtime probe
  let sourceStreams ← sourceVobSubStreams runtime streams check.expectedVobSubStreams
    check.vobSubProvenance declared
  validateExpectedVobSubStreams runtime sourceStreams check.expectedVobSubStreams
  let vobSubIndexes := (vobSubStreams streams).map fun stream => stream.index
  if vobSubIndexes = [] then return none
  else do
    let emptyIndexes ← emptyVobSubIndexes tools check.output vobSubIndexes
    if emptyIndexes = [] then return none
    else (cleanUp tools check streams sourceStreams emptyIndexes).map some

/-- The rounds of `validateSubtitleStreams`; none has not ended in so many. -/
def subtitleRounds (declared : Option (List EncodeOutputVobSubExpectation)) :
    Nat → SubtitleCheck Output → Option (Except EncodeOutputError Unit)
  | 0, _ => none
  | fuel + 1, check =>
    match subtitleRound runtime tools declared check with
    | .error e => some (.error e)
    | .ok none => some (.ok ())
    | .ok (some next) => subtitleRounds declared fuel next

/-- `validateSubtitleStreams`, as far as so many rounds go. -/
def validateSubtitleStreams (rounds : Nat)
    (expected : Option (List EncodeOutputVobSubExpectation))
    (provenance : Option (List HandBrakeVobSubProvenance)) (output : Output) :
    Option (Except EncodeOutputError Unit) :=
  subtitleRounds runtime tools expected rounds ⟨false, expected, provenance, output⟩

end Loop

/-- A packet probe that gives every VobSub stream once, with its number of packets. -/
def PacketsReported (probe : Json) (indexes : List Nat) (packets : Nat → Nat) : Prop :=
  ∃ streams order, Json.arrayValue (probe.get "streams") = some streams ∧
    (∀ value ∈ streams, isObject (some value) = true) ∧ order.Perm indexes ∧
    List.Forall₂ (fun value index => Json.safeNonNegativeInteger (value.get "index") = some index ∧
      packetCount (value.get "nb_read_packets") = some (packets index))
      (streams.filter isVobSub) order

/-- What the two probes of an output report. -/
structure OutputReported (runtime : LanguageRuntime) (tools : SubtitleTools Output)
    (output : Output) (streams : List CompleteSubtitleStream) (packets : Nat → Nat) : Prop where
  probed : ∃ probe, tools.subtitleProbe output = .ok probe ∧
    validatedSubtitleStreams runtime probe = .ok streams
  counted : ∃ stderr probe, tools.packetProbe output = .ok ⟨stderr, .ok probe⟩ ∧
    trim stderr = "" ∧
    PacketsReported probe ((vobSubStreams streams).map fun stream => stream.index) packets

/-- A kept stream after the remux, under the disposition it was given. -/
def Remuxed (kept : CompleteSubtitleStream × RetainedSubtitleDisposition)
    (stream : CompleteSubtitleStream) : Prop :=
  stream = { kept.1 with
    index := stream.index, default := kept.2.default, forced := kept.2.forced }

/-- The repairer removes what it is asked to: the other streams stay in order. -/
def Repairs (runtime : LanguageRuntime) (tools : SubtitleTools Output) : Prop :=
  ∀ output streams packets emptyIndexes dispositions,
    OutputReported runtime tools output streams packets →
    emptyIndexes ⊆ (vobSubStreams streams).map (fun stream => stream.index) →
    emptyIndexes ≠ [] →
    dispositions.length = (streams.filter fun stream => stream.index ∉ emptyIndexes).length →
    ∃ output' streams' packets',
      tools.removeEmptyVobSubStreams output emptyIndexes dispositions = .ok output' ∧
      OutputReported runtime tools output' streams' packets' ∧
      List.Forall₂ Remuxed
        ((streams.filter fun stream => stream.index ∉ emptyIndexes).zip dispositions) streams'

theorem completeStreams_indexes {runtime : LanguageRuntime}
    (h : completeStreams runtime values indexes = .ok streams) :
    (streams.map fun stream => stream.index).Nodup ∧
      ∀ stream ∈ streams, stream.index ∉ indexes := by
  induction values generalizing indexes streams with
  | nil =>
    cases h
    exact ⟨List.nodup_nil, List.forall_mem_nil _⟩
  | cons value values ih =>
    rw [completeStreams] at h
    cases hmetadata : subtitleMetadata runtime value with
    | none =>
      rw [hmetadata] at h
      cases h
    | some stream =>
      rw [hmetadata] at h
      obtain ⟨_, hunseen, h⟩ := bind_ok.1 h
      obtain ⟨rest, hrest, h⟩ := bind_ok.1 h
      obtain rfl := pure_ok.1 h
      obtain ⟨hnodup, hindexes⟩ := ih hrest
      constructor
      · rw [List.map_cons, List.nodup_cons]
        refine ⟨?_, hnodup⟩
        intro hmem
        obtain ⟨other, hother, heq⟩ := List.mem_map.1 hmem
        exact hindexes other hother (heq ▸ List.mem_cons_self)
      · rw [List.forall_mem_cons]
        exact ⟨rejectIf_ok.1 hunseen, fun other hother hmem =>
          hindexes other hother (List.mem_cons_of_mem _ hmem)⟩

theorem validatedSubtitleStreams_nodup {runtime : LanguageRuntime}
    (h : validatedSubtitleStreams runtime probe = .ok streams) :
    (streams.map fun stream => stream.index).Nodup := by
  unfold validatedSubtitleStreams at h
  cases harray : Json.arrayValue (probe.get "streams") with
  | none =>
    rw [harray] at h
    cases h
  | some values =>
    rw [harray] at h
    exact (completeStreams_indexes h).1

theorem countPackets_eq {packets : Nat → Nat}
    (hobjects : ∀ value ∈ values, isObject (some value) = true)
    (h : List.Forall₂ (fun value index =>
      Json.safeNonNegativeInteger (value.get "index") = some index ∧
        packetCount (value.get "nb_read_packets") = some (packets index))
      (values.filter isVobSub) order)
    (hnodup : (observed ++ order).Nodup) (hexpected : ∀ index ∈ order, index ∈ expected) :
    countPackets expected values observed empties =
      .ok (observed ++ order, empties ++ order.filter fun index => packets index = 0) := by
  induction values generalizing order observed empties with
  | nil =>
    cases h
    rw [countPackets, List.append_nil, List.filter_nil, List.append_nil]
  | cons value values ih =>
    obtain ⟨hobject, hobjects⟩ := List.forall_mem_cons.1 hobjects
    have hvalid : ¬isObject (some value) = false := by
      rw [hobject]
      exact nofun
    rw [countPackets]
    apply bind_ok.2
    refine ⟨(), rejectIf_ok.2 hvalid, ?_⟩
    cases hvobSub : isVobSub value with
    | false =>
      rw [List.filter_cons, hvobSub] at h
      exact ih hobjects h hnodup hexpected
    | true =>
      rw [List.filter_cons, if_pos hvobSub] at h
      cases h with
      | @cons _ index _ order hvalue h =>
        rw [hvalue.1, hvalue.2]
        rw [List.append_cons] at hnodup
        obtain ⟨hindex, hrest⟩ := List.forall_mem_cons.1 hexpected
        have hunseen : index ∉ observed := by
          intro hmem
          rw [List.append_assoc] at hnodup
          exact List.disjoint_of_nodup_append hnodup hmem List.mem_cons_self
        apply bind_ok.2
        refine ⟨(), rejectIf_ok.2 (not_or.2 ⟨not_not.2 hindex, hunseen⟩), ?_⟩
        rw [ih hobjects h hnodup hrest, ← List.append_cons, List.filter_cons]
        by_cases hzero : packets index = 0
        · rw [if_pos hzero, if_pos (decide_eq_true hzero), ← List.append_cons]
        · rw [if_neg hzero, if_neg (by rw [decide_eq_true_eq]; exact hzero)]

/-- The empty streams that a report shows. -/
theorem OutputReported.empties {runtime : LanguageRuntime} {tools : SubtitleTools Output}
    (h : OutputReported runtime tools output streams packets) :
    ∃ emptyIndexes, emptyVobSubIndexes tools output
        ((vobSubStreams streams).map fun stream => stream.index) = .ok emptyIndexes ∧
      ∀ index, index ∈ emptyIndexes ↔
        index ∈ (vobSubStreams streams).map (fun stream => stream.index) ∧ packets index = 0 := by
  obtain ⟨probe, -, hstreams⟩ := h.probed
  obtain ⟨stderr, result, hpacket, hstderr, values, order, harray, hobjects, hperm, hcounts⟩ :=
    h.counted
  have hnodup : order.Nodup := by
    apply hperm.nodup_iff.2
    exact (List.filter_sublist.map _).nodup (validatedSubtitleStreams_nodup hstreams)
  have hexpected : ∀ index ∈ order,
      index ∈ (vobSubStreams streams).map fun stream => stream.index :=
    fun index hindex => hperm.subset hindex
  have hcount : countPackets ((vobSubStreams streams).map fun stream => stream.index) values
      [] [] = .ok ([] ++ order, [] ++ order.filter fun index => packets index = 0) :=
    countPackets_eq hobjects hcounts hnodup hexpected
  refine ⟨order.filter fun index => packets index = 0, ?_, ?_⟩
  · apply bind_ok.2
    refine ⟨_, hpacket, bind_ok.2 ⟨(), rejectIf_ok.2 (not_not.2 hstderr), ?_⟩⟩
    apply bind_ok.2
    refine ⟨result, rfl, ?_⟩
    rw [validateVobSubPacketCounts, harray]
    apply bind_ok.2
    refine ⟨_, hcount, bind_ok.2 ⟨(), rejectIf_ok.2 ?_, rfl⟩⟩
    rintro ⟨index, hindex, hunobserved⟩
    exact hunobserved (hperm.symm.subset hindex)
  · intro index
    rw [List.mem_filter, hperm.mem_iff, decide_eq_true_eq]

/-- A round over lists that fit together ends, or cleans up the streams that are empty. -/
theorem subtitleRound_aligned {runtime : LanguageRuntime} {tools : SubtitleTools Output}
    (removed : Bool) (h : SubtitlesAligned runtime declared expected provenance streams)
    (hreport : OutputReported runtime tools output streams packets) :
    ∃ sources emptyIndexes,
      sourceVobSubStreams runtime streams (some expected) (some provenance) (some declared) =
        .ok sources ∧
      List.Forall₂ (SourceStream provenance streams) expected sources ∧
      (∀ index, index ∈ emptyIndexes ↔
        index ∈ (vobSubStreams streams).map (fun stream => stream.index) ∧ packets index = 0) ∧
      subtitleRound runtime tools (some declared)
          ⟨removed, some expected, some provenance, output⟩ =
        if emptyIndexes = [] then .ok none
        else (cleanUp tools ⟨removed, some expected, some provenance, output⟩ streams sources
          emptyIndexes).map some := by
  obtain ⟨sources, hsources, hfound, -, hvalid⟩ := h.sources
  obtain ⟨probe, hprobe, hstreams⟩ := hreport.probed
  obtain ⟨emptyIndexes, hpackets, hempty⟩ := hreport.empties
  refine ⟨sources, emptyIndexes, hsources, hfound, hempty, ?_⟩
  have hround : subtitleRound runtime tools (some declared)
      ⟨removed, some expected, some provenance, output⟩ =
      if (vobSubStreams streams).map (fun stream => stream.index) = [] then .ok none
      else if emptyIndexes = [] then .ok none
      else (cleanUp tools ⟨removed, some expected, some provenance, output⟩ streams sources
        emptyIndexes).map some := by
    rw [subtitleRound, hprobe]
    show (validatedSubtitleStreams runtime probe >>= _) = _
    rw [hstreams]
    show (sourceVobSubStreams runtime streams (some expected) (some provenance)
      (some declared) >>= _) = _
    rw [hsources]
    show (validateExpectedVobSubStreams runtime sources (some expected) >>= _) = _
    rw [hvalid]
    show (if (vobSubStreams streams).map (fun stream => stream.index) = [] then pure none
      else emptyVobSubIndexes tools output
        ((vobSubStreams streams).map fun stream => stream.index) >>= _) = _
    rw [hpackets]
    rfl
  rw [hround]
  split
  · next hnone =>
    have hnil : emptyIndexes = [] := by
      apply List.eq_nil_iff_forall_not_mem.2
      intro index hindex
      have hmem := ((hempty index).1 hindex).1
      rw [hnone] at hmem
      cases hmem
    rw [if_pos hnil]
  · rfl

theorem renumbered_of_remuxed {kept : List CompleteSubtitleStream}
    (h : List.Forall₂ Remuxed
      (kept.zip (kept.map fun stream => ⟨stream.default, stream.forced⟩)) streams') :
    List.Forall₂ Renumbered kept streams' := by
  induction kept generalizing streams' with
  | nil =>
    cases h
    exact .nil
  | cons stream kept ih =>
    cases h with
    | cons hhead htail => exact .cons hhead (ih htail)

/-- How the check of an output ends: nothing is empty, or the empty streams are removed and the
lists fit what is left, which is then accepted exactly when nothing in it is empty. -/
inductive CleanupOutcome (runtime : LanguageRuntime) (tools : SubtitleTools Output)
    (expectations : List EncodeOutputVobSubExpectation)
    (provenance : List HandBrakeVobSubProvenance) (streams : List CompleteSubtitleStream)
    (packets : Nat → Nat) : Except EncodeOutputError Unit → Prop where
  | complete (full : ∀ stream ∈ vobSubStreams streams, packets stream.index ≠ 0) :
    CleanupOutcome runtime tools expectations provenance streams packets (.ok ())
  | cleaned {expected' : List EncodeOutputVobSubExpectation}
    {provenance' : List HandBrakeVobSubProvenance}
    (empty : ∀ index, index ∈ emptyIndexes ↔
      index ∈ (vobSubStreams streams).map (fun stream => stream.index) ∧ packets index = 0)
    (some_empty : emptyIndexes ≠ [])
    (sources : sourceVobSubStreams runtime streams (some expectations) (some provenance)
      (some expectations) = .ok sourceStreams)
    (expected_kept : expected' =
      keepAlong (fun stream => stream.index ∉ emptyIndexes) expectations sourceStreams)
    (provenance_kept : provenance' =
      keepAlong (fun stream => stream.index ∉ emptyIndexes) provenance (vobSubStreams streams))
    (reported : OutputReported runtime tools output' streams' packets')
    (renumbered : List.Forall₂ Renumbered
      (streams.filter fun stream => stream.index ∉ emptyIndexes) streams')
    (matched : List.Forall₂ (VobSubMatch runtime expectations) provenance'
      (vobSubStreams streams'))
    (sources_again : ∃ sourceStreams', sourceVobSubStreams runtime streams' (some expected')
        (some provenance') (some expectations) = .ok sourceStreams' ∧
      List.Forall₂ (SourceStream provenance' streams') expected' sourceStreams')
    (accepted : result = .ok () ↔ ∀ stream ∈ vobSubStreams streams', packets' stream.index ≠ 0) :
    CleanupOutcome runtime tools expectations provenance streams packets result

theorem full_of_empties {streams : List CompleteSubtitleStream} {packets : Nat → Nat}
    (h : ∀ index, index ∈ emptyIndexes ↔
      index ∈ (vobSubStreams streams).map (fun stream => stream.index) ∧ packets index = 0) :
    emptyIndexes = [] ↔ ∀ stream ∈ vobSubStreams streams, packets stream.index ≠ 0 := by
  rw [List.eq_nil_iff_forall_not_mem]
  constructor
  · intro hnil stream hstream hzero
    exact hnil stream.index ((h _).2 ⟨List.mem_map_of_mem hstream, hzero⟩)
  · intro hfull index hindex
    obtain ⟨hmem, hzero⟩ := (h index).1 hindex
    obtain ⟨stream, hstream, rfl⟩ := List.mem_map.1 hmem
    exact hfull stream hstream hzero

theorem cleanUp_ok {tools : SubtitleTools Output} {check : SubtitleCheck Output}
    (hfirst : check.removedEmptyStreams = false)
    (h : tools.removeEmptyVobSubStreams check.output emptyIndexes
      ((streams.filter fun stream => stream.index ∉ emptyIndexes).map fun stream =>
        ⟨stream.default, stream.forced⟩) = .ok output') :
    cleanUp tools check streams sourceStreams emptyIndexes = .ok {
      removedEmptyStreams := true
      expectedVobSubStreams := check.expectedVobSubStreams.map fun expected =>
        keepAlong (fun stream => stream.index ∉ emptyIndexes) expected sourceStreams
      vobSubProvenance := check.vobSubProvenance.map fun provenance =>
        keepAlong (fun stream => stream.index ∉ emptyIndexes) provenance (vobSubStreams streams)
      output := output' } := by
  apply bind_ok.2
  refine ⟨(), rejectIf_ok.2 ?_, ?_⟩
  · rw [hfirst]
    exact nofun
  · dsimp only
    rw [h]

/-- After a cleanup the check ends: what is left is accepted when nothing in it is empty. -/
theorem subtitleRounds_removed {runtime : LanguageRuntime} {tools : SubtitleTools Output}
    (h : SubtitlesAligned runtime declared expected provenance streams)
    (hreport : OutputReported runtime tools output streams packets) :
    ∃ result, subtitleRounds runtime tools (some declared) 1
        ⟨true, some expected, some provenance, output⟩ = some result ∧
      (result = .ok () ↔ ∀ stream ∈ vobSubStreams streams, packets stream.index ≠ 0) := by
  obtain ⟨sources, emptyIndexes, -, -, hempty, hround⟩ := subtitleRound_aligned true h hreport
  rw [subtitleRounds, hround]
  by_cases hnil : emptyIndexes = []
  · rw [if_pos hnil]
    exact ⟨.ok (), rfl, fun _ => (full_of_empties hempty).1 hnil, fun _ => rfl⟩
  · rw [if_neg hnil]
    refine ⟨.error (.validation .subtitleCleanup "subtitle cleanup left an empty VobSub stream"),
      rfl, fun herror => (nomatch herror), fun hfull => ?_⟩
    exact absurd ((full_of_empties hempty).2 hfull) hnil

/-- A check of lists that fit together ends after at most one cleanup. -/
theorem validateSubtitleStreams_outcome {runtime : LanguageRuntime}
    {tools : SubtitleTools Output}
    (h : SubtitlesAligned runtime expectations expectations provenance streams)
    (hreport : OutputReported runtime tools output streams packets)
    (hrepairs : Repairs runtime tools) :
    ∃ result, validateSubtitleStreams runtime tools 2 (some expectations) (some provenance)
        output = some result ∧
      CleanupOutcome runtime tools expectations provenance streams packets result := by
  obtain ⟨sources, emptyIndexes, hsources, hfound, hempty, hround⟩ :=
    subtitleRound_aligned false h hreport
  rw [validateSubtitleStreams, subtitleRounds, hround]
  by_cases hnil : emptyIndexes = []
  · rw [if_pos hnil]
    exact ⟨.ok (), rfl, .complete ((full_of_empties hempty).1 hnil)⟩
  · rw [if_neg hnil]
    obtain ⟨output', streams', packets', hremoved, hreport', hremuxed⟩ :=
      hrepairs output streams packets emptyIndexes _ hreport
        (fun index hindex => ((hempty index).1 hindex).1) hnil (List.length_map _)
    have hrenumbered := renumbered_of_remuxed hremuxed
    have haligned := h.cleaned hfound hrenumbered
    obtain ⟨sources', hsources', hfound', -⟩ := haligned.sources
    obtain ⟨result, hresult, haccepted⟩ := subtitleRounds_removed haligned hreport'
    refine ⟨result, ?_, .cleaned hempty hnil hsources rfl rfl hreport' hrenumbered
      haligned.tracks ⟨sources', hsources', hfound'⟩ haccepted⟩
    rw [cleanUp_ok rfl hremoved, ← hresult]
    rfl

/-- The provenance of an accepted log names every expected track once, and stays aligned with the
expectations and the streams of the output through its cleanup. -/
theorem subtitleProvenance_agrees (runtime : LanguageRuntime) (chunks : List String)
    (expectations : List EncodeOutputVobSubExpectation)
    (provenance : List HandBrakeVobSubProvenance)
    (h : (HandBrakeSubtitleProvenanceParser.read chunks).finish expectations = .ok provenance) :
    (∀ source ∈ expectations,
      provenance.countP (·.isSourceOf source.sourceTrackNumber) = 1) ∧
    provenance.countP (·.kind = .foreignAudioSearch) ≤ 1 ∧
    (∀ track ∈ provenance, (track.kind = .foreignAudioSearch → track.forcedOnly = true) ∧
      ∃ source ∈ expectations, source.sourceTrackNumber = some track.sourceTrackNumber) ∧
    provenance.countP (·.default) ≤ 1 ∧
    ∀ streams, List.Forall₂ (VobSubMatch runtime expectations) provenance
        (vobSubStreams streams) →
      (∃ sources, sourceVobSubStreams runtime streams (some expectations) (some provenance)
          (some expectations) = .ok sources ∧
        List.Forall₂ (SourceStream provenance streams) expectations sources ∧
        sources.Perm ((sourcePairs (provenance.zip (vobSubStreams streams))).map Prod.snd)) ∧
      ∀ {Output : Type} (tools : SubtitleTools Output) (output : Output) (packets : Nat → Nat),
        OutputReported runtime tools output streams packets → Repairs runtime tools →
        ∃ result, validateSubtitleStreams runtime tools 2 (some expectations)
            (some provenance) output = some result ∧
          CleanupOutcome runtime tools expectations provenance streams packets result := by
  have hprovenance := HandBrakeSubtitleProvenanceParser.finish_provenance h
  refine ⟨hprovenance.source_once, hprovenance.search_once, ?_, hprovenance.default_once, ?_⟩
  · intro track htrack
    exact ⟨hprovenance.search_forced track htrack, hprovenance.expected track htrack⟩
  · intro streams hmatch
    have haligned := hprovenance.aligned hmatch
    obtain ⟨sources, hsources, hfound, hperm, -⟩ := haligned.sources
    refine ⟨⟨sources, hsources, hfound, hperm⟩, ?_⟩
    intro Output tools output packets hreport hrepairs
    exact validateSubtitleStreams_outcome haligned hreport hrepairs

def sampleRuntime : LanguageRuntime where
  toLowerCase s := s
  displayName code := if code = "en" then some "english" else none

/-- A search track, its source and another source; the log comes in two chunks. -/
def sampleSubtitleLog : List String :=
  ["Starting Task: Subtitle Scan\n" ++
    "Subtitle track 0 (id 0x2) 'En': 9 hits (3 forced)\n" ++
    "Found a subtitle candidate with id 0x2\n" ++
    "[10:00:02] Starting Task: Encoding Pass\njob configu", "ration:\n" ++
    "* subtitle track 1, En (track 0, id 0x2, Picture) -> Passthru, Forced Only, Default\n" ++
    "* subtitle track 2, En (track 0, id 0x2, Picture) -> Passthru\n" ++
    "* subtitle track 3, En (track 1, id 0x3, Picture) -> Passthru\n"]

def sampleSubtitleExpectations : List EncodeOutputVobSubExpectation :=
  [⟨some "en", some 1, none⟩, ⟨some "en", some 2, none⟩]

def sampleSubtitleProvenance : List HandBrakeVobSubProvenance :=
  [⟨1, .foreignAudioSearch, true, true⟩, ⟨1, .source, false, false⟩, ⟨2, .source, false, false⟩]

/-- An English VobSub track of an output file. -/
structure SampleTrack where
  default : Bool
  forced : Bool
  packets : Fin 1024

/-- The subtitle tracks of an output file; they come after a video and an audio stream. -/
structure SampleFile where
  tracks : List SampleTrack
  few : tracks.length ≤ 32

def sampleStream (track : SampleTrack × Nat) : CompleteSubtitleStream :=
  ⟨track.2, "dvd_subtitle", track.1.default, track.1.forced, "en", none⟩

def SampleFile.streams (file : SampleFile) : List CompleteSubtitleStream :=
  (file.tracks.zipIdx 2).map sampleStream

def SampleFile.packets (file : SampleFile) (index : Nat) : Nat :=
  ((file.tracks[index - 2]?.map SampleTrack.packets).getD 0).val

theorem SampleFile.packets_le (file : SampleFile) (index : Nat) :
    file.packets index ≤ maxSafeInteger := by
  have hlt := ((file.tracks[index - 2]?.map SampleTrack.packets).getD 0).isLt
  exact hlt.le.trans (by decide)

def probedFlag (flag : Bool) : Json := .number (if flag then 1 else 0)

def probedStream (stream : CompleteSubtitleStream) : Json := .object [
  ("index", .number stream.index),
  ("codec_name", .string "dvd_subtitle"),
  ("disposition", .object [("default", probedFlag stream.default),
    ("forced", probedFlag stream.forced)]),
  ("tags", .object [("language", .string "en")])]

def probedPackets (file : SampleFile) (stream : CompleteSubtitleStream) : Json := .object [
  ("index", .number stream.index),
  ("codec_name", .string "dvd_subtitle"),
  ("nb_read_packets", .number (file.packets stream.index))]

theorem subtitleMetadata_probed {track : SampleTrack × Nat} (h : track.2 ≤ maxSafeInteger) :
    subtitleMetadata sampleRuntime (probedStream (sampleStream track)) =
      some (sampleStream track) := by
  obtain ⟨⟨isDefault, forced, packets⟩, index⟩ := track
  have hindex : Json.safeNonNegativeInteger (some (.number index)) = some index := by
    rw [Json.safeNonNegativeInteger, if_pos ⟨Int.natCast_nonneg _, by exact_mod_cast h⟩,
      Int.toNat_natCast]
  have hcodec : identifiedText sampleRuntime (some (.string "dvd_subtitle")) =
      some "dvd_subtitle" := by
    decide +kernel
  have hlanguage : (some "en").filter (fun language =>
      (normalizedLanguageName sampleRuntime language).isSome) = some "en" := by
    decide +kernel
  rw [subtitleMetadata, show (probedStream _).get "index" = some (.number index) from rfl, hindex,
    show (probedStream _).get "codec_name" = some (.string "dvd_subtitle") from rfl, hcodec]
  cases isDefault <;> cases forced <;>
    simp [probedStream, probedFlag, sampleStream, Json.get, List.lookup_cons, isObject, probeFlag,
      Json.isNumber, Json.stringValue, hlanguage]

theorem SampleFile.index_le (file : SampleFile) {track : SampleTrack × Nat}
    (h : track ∈ file.tracks.zipIdx 2) : track.2 ≤ maxSafeInteger := by
  have hlt := (List.mem_zipIdx h).2.1
  have hfew := file.few
  have hsafe : 34 ≤ maxSafeInteger := by decide
  omega

theorem completeStreams_probed {tracks : List (SampleTrack × Nat)}
    (hindex : ∀ track ∈ tracks, track.2 ≤ maxSafeInteger)
    (hnodup : (tracks.map Prod.snd).Nodup) (hseen : ∀ track ∈ tracks, track.2 ∉ seen) :
    completeStreams sampleRuntime ((tracks.map sampleStream).map probedStream) seen =
      .ok (tracks.map sampleStream) := by
  induction tracks generalizing seen with
  | nil => rfl
  | cons track rest ih =>
    obtain ⟨hhere, hnodup⟩ := List.nodup_cons.1 hnodup
    obtain ⟨hle, hrest⟩ := List.forall_mem_cons.1 hindex
    obtain ⟨hunseen, hseen⟩ := List.forall_mem_cons.1 hseen
    rw [List.map_cons, List.map_cons, completeStreams, subtitleMetadata_probed hle]
    refine bind_ok.2 ⟨(), rejectIf_ok.2 hunseen, bind_ok.2 ⟨_, ih hrest hnodup ?_, rfl⟩⟩
    intro other hother hmem
    obtain hsame | hmem := List.mem_cons.1 hmem
    · have hsame : other.2 = track.2 := hsame
      exact hhere (hsame ▸ List.mem_map_of_mem hother)
    · exact hseen other hother hmem

theorem zipIdx_nodup (l : List α) (k : Nat) : ((l.zipIdx k).map Prod.snd).Nodup := by
  rw [List.zipIdx_map_snd]
  exact List.nodup_range'

/-- A repairer that removes the streams it is given, and numbers the others anew. -/
def sampleSubtitleTools : SubtitleTools SampleFile where
  subtitleProbe file := .ok (.object [("streams", .array (file.streams.map probedStream))])
  packetProbe file := .ok ⟨"",
    .ok (.object [("streams", .array (file.streams.map (probedPackets file)))])⟩
  removeEmptyVobSubStreams file emptyIndexes dispositions := .ok {
    tracks := (((file.tracks.zipIdx 2).filter fun track => track.2 ∉ emptyIndexes).zip
      dispositions).map fun (track, disposition) =>
        { track.1 with default := disposition.default, forced := disposition.forced }
    few := by
      rw [List.length_map, List.length_zip]
      have hfilter := List.length_filter_le (fun track => decide (track.2 ∉ emptyIndexes))
        (file.tracks.zipIdx 2)
      rw [List.length_zipIdx] at hfilter
      exact (min_le_left _ _).trans (hfilter.trans file.few) }

theorem SampleFile.vobSubStreams_eq (file : SampleFile) :
    vobSubStreams file.streams = file.streams := by
  rw [vobSubStreams, List.filter_eq_self]
  intro stream hstream
  obtain ⟨track, -, rfl⟩ := List.mem_map.1 hstream
  rfl

theorem sampleSubtitleTools_reported (file : SampleFile) :
    OutputReported sampleRuntime sampleSubtitleTools file file.streams file.packets := by
  constructor
  case probed =>
    refine ⟨_, rfl, ?_⟩
    exact completeStreams_probed (fun track htrack => file.index_le htrack) (zipIdx_nodup _ _)
      fun _ _ => List.not_mem_nil
  case counted =>
    refine ⟨"", _, rfl, by decide +kernel, file.streams.map (probedPackets file),
      file.streams.map fun stream => stream.index, rfl, ?_, ?_, ?_⟩
    · intro value hvalue
      obtain ⟨stream, -, rfl⟩ := List.mem_map.1 hvalue
      rfl
    · rw [file.vobSubStreams_eq]
    · have hall : (file.streams.map (probedPackets file)).filter isVobSub =
          file.streams.map (probedPackets file) := by
        rw [List.filter_eq_self]
        intro value hvalue
        obtain ⟨stream, -, rfl⟩ := List.mem_map.1 hvalue
        rfl
      rw [hall, List.forall₂_map_left_iff, List.forall₂_map_right_iff, List.forall₂_same]
      intro stream hstream
      obtain ⟨track, htrack, rfl⟩ := List.mem_map.1 hstream
      constructor
      · show Json.safeNonNegativeInteger (some (.number track.2)) = some track.2
        rw [Json.safeNonNegativeInteger, if_pos ⟨Int.natCast_nonneg _,
          by exact_mod_cast file.index_le htrack⟩, Int.toNat_natCast]
      · show packetCount (some (.number (file.packets track.2))) = some (file.packets track.2)
        rw [packetCount, if_pos ⟨Int.natCast_nonneg _, by exact_mod_cast file.packets_le _⟩,
          Int.toNat_natCast]

/-- The streams of the repaired file are those that are kept, as they should be. -/
theorem remuxed_zipIdx (kept : List ((SampleTrack × Nat) × RetainedSubtitleDisposition)) (k : Nat) :
    List.Forall₂ Remuxed (kept.map fun (track, disposition) => (sampleStream track, disposition))
      (((kept.map fun (track, disposition) =>
        { track.1 with default := disposition.default, forced := disposition.forced }).zipIdx
          k).map sampleStream) := by
  induction kept generalizing k with
  | nil => exact .nil
  | cons next rest ih => exact .cons rfl (ih (k + 1))

theorem sampleSubtitleTools_repairs : Repairs sampleRuntime sampleSubtitleTools := by
  intro file streams packets emptyIndexes dispositions hreport _ _ _
  obtain ⟨probe, hprobe, hstreams⟩ := hreport.probed
  obtain ⟨probe', hprobe', hstreams'⟩ := (sampleSubtitleTools_reported file).probed
  rw [Except.ok.inj (hprobe.symm.trans hprobe')] at hstreams
  obtain rfl := Except.ok.inj (hstreams.symm.trans hstreams')
  refine ⟨_, _, _, rfl, sampleSubtitleTools_reported _, ?_⟩
  have hkept : file.streams.filter (fun stream => stream.index ∉ emptyIndexes) =
      ((file.tracks.zipIdx 2).filter fun track => track.2 ∉ emptyIndexes).map
        sampleStream := by
    rw [SampleFile.streams, List.filter_map]
    rfl
  rw [hkept, List.zip_map_left]
  exact remuxed_zipIdx _ 2

/-- The source of the search track is kept, and the other source has no packet. -/
def sampleFile : SampleFile where
  tracks := [⟨true, true, 3⟩, ⟨false, false, 9⟩, ⟨false, false, 0⟩]
  few := by decide

theorem sampleFile_match : List.Forall₂ (VobSubMatch sampleRuntime sampleSubtitleExpectations)
    sampleSubtitleProvenance (vobSubStreams sampleFile.streams) := by
  have hmeets (source : EncodeOutputVobSubExpectation) (hlanguage : source.languageCode = some "en")
      (htitle : source.title = none) (track : SampleTrack × Nat) :
      source.Meets sampleRuntime (sampleStream track) := by
    constructor
    · rw [hlanguage]
      rintro code ⟨⟩
      have hname : normalizedLanguageName sampleRuntime "en" =
          some (expectedLanguageName sampleRuntime "en") := by
        decide +kernel
      exact ⟨by decide +kernel, hname⟩
    · rw [htitle]
      intro title hnone
      cases hnone
  refine .cons ⟨rfl, rfl, _, List.mem_cons_self, rfl, ?_⟩
    (.cons ⟨rfl, rfl, _, List.mem_cons_self, rfl, ?_⟩
    (.cons ⟨rfl, rfl, _, List.mem_cons_of_mem _ List.mem_cons_self, rfl, ?_⟩ .nil))
  · exact hmeets ⟨some "en", some 1, none⟩ rfl rfl (_, 2)
  · exact hmeets ⟨some "en", some 1, none⟩ rfl rfl (_, 3)
  · exact hmeets ⟨some "en", some 2, none⟩ rfl rfl (_, 4)

theorem sampleSubtitles_checked :
    ∃ result, validateSubtitleStreams sampleRuntime sampleSubtitleTools 2
        (some sampleSubtitleExpectations) (some sampleSubtitleProvenance) sampleFile =
          some result ∧
      CleanupOutcome sampleRuntime sampleSubtitleTools sampleSubtitleExpectations
        sampleSubtitleProvenance sampleFile.streams sampleFile.packets result :=
  ((subtitleProvenance_agrees sampleRuntime sampleSubtitleLog sampleSubtitleExpectations
    sampleSubtitleProvenance (by decide +kernel)).2.2.2.2 sampleFile.streams
    sampleFile_match).2 sampleSubtitleTools sampleFile sampleFile.packets
    (sampleSubtitleTools_reported sampleFile) sampleSubtitleTools_repairs

end RipDvd
