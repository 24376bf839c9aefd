import RipDvd.HandBrakeLog
import RipDvd.Evidence

namespace RipDvd
set_option autoImplicit true

def MAX_DVD_SUBTITLES_PER_TITLE : Nat := 32

/-- Both closed-caption formats and one additional search result are allowed for. -/
def MAX_OUTPUT_SUBTITLE_TRACKS : Nat := MAX_DVD_SUBTITLES_PER_TITLE + 3

inductive EncodeJobFailureValidationCheck where
  | subtitleStreams
  | subtitlePackets
  | subtitleCleanup
  deriving DecidableEq

/-- What a check of an encode output throws. -/
inductive EncodeOutputError where
  | validation (check : EncodeJobFailureValidationCheck) (message : String)
  | error (message : String)
  deriving DecidableEq

inductive HandBrakeVobSubKind where
  | source
  | foreignAudioSearch
  deriving DecidableEq

structure HandBrakeVobSubProvenance where
  sourceTrackNumber : Int
  kind : HandBrakeVobSubKind
  default : Bool
  forcedOnly : Bool
  deriving DecidableEq

/-- An expected source track; the outer none is `undefined`, an inner none is `null`. -/
structure EncodeOutputVobSubExpectation where
  languageCode : Option String
  sourceTrackNumber : Option Int
  title : Option (Option String)
  deriving DecidableEq

structure SubtitleSelection where
  sourceTrackNumber : Int
  id : String
  picture : Bool
  default : Bool
  forcedOnly : Bool
  deriving DecidableEq

structure SubtitleStatistics where
  sourceTrackNumber : Int
  hits : Nat
  forced : Nat
  deriving DecidableEq

/-- The bounded evidence a HandBrake log leaves. -/
structure HandBrakeSubtitleLog where
  invalid : Bool
  task : String
  configuration : Bool
  selectedId : Option String
  statistics : List (String × SubtitleStatistics)
  selections : List SubtitleSelection
  deriving DecidableEq

namespace HandBrakeSubtitleLog

def empty : HandBrakeSubtitleLog where
  invalid := false
  task := ""
  configuration := false
  selectedId := none
  statistics := []
  selections := []

/-- The task a `Starting Task: ` line names. -/
def startedTask (value : String) : Option String :=
  literal "Starting Task: " (fun rest => some (String.ofList rest)) value.toList

/-- `^Subtitle track (\d+) \(id 0x([\da-f]+)\) '.*': (\d+) hits \((\d+) forced\)$`; the track
numbers of the log are zero-based. -/
def statisticsLine (value : String) : Option (String × SubtitleStatistics) :=
  (literal "Subtitle track " <| digits fun track =>
    literal " (id 0x" <| hexNumber fun id =>
    literal ") '" <| anything <|
    literal "': " <| digits fun hits =>
    literal " hits (" <| digits fun forced =>
    literal " forced)" <| ended (id, ⟨track + 1, hits, forced⟩)) value.toList

/-- `^Found a subtitle candidate with id 0x([\da-f]+)(?: \(contains forced subs\))?$`. -/
def candidateLine (value : String) : Option String :=
  (literal "Found a subtitle candidate with id 0x" <| hexNumber fun id =>
    optionally " (contains forced subs)" fun _ => ended id) value.toList

/-- `^\* subtitle track (\d+), .* \(track (\d+), id 0x([\da-f]+), (Picture|Text)\) -> Passthru`
`(, Forced Only)?(, Default)?$`, with the position the line gives. -/
def selectionLine (value : String) : Option (Nat × SubtitleSelection) :=
  (literal "* subtitle track " <| digits fun ordinal =>
    literal ", " <| anything <|
    literal " (track " <| digits fun track =>
    literal ", id 0x" <| hexNumber fun id =>
    literal ", " <| fun input =>
      let selected (picture : Bool) : List Char → Option (Nat × SubtitleSelection) :=
        literal ") -> Passthru" <| optionally ", Forced Only" fun forcedOnly =>
          optionally ", Default" fun isDefault =>
            ended (ordinal, ⟨track + 1, id, picture, isDefault, forcedOnly⟩)
      literal "Picture" (selected true) input <|> literal "Text" (selected false) input)
    value.toList

/-- A line of the subtitle scan; none is evidence that cannot be kept. -/
def scanLine (log : HandBrakeSubtitleLog) (value : String) : Option HandBrakeSubtitleLog :=
  let scanned : Option HandBrakeSubtitleLog :=
    match statisticsLine value with
    | none => some log
    | some (id, stats) =>
      if log.statistics.any (fun entry => entry.1 = id) ∨
          log.statistics.length ≥ MAX_DVD_SUBTITLES_PER_TITLE ∨
          stats.hits > maxSafeInteger ∨ stats.forced > maxSafeInteger ∨
          stats.forced > stats.hits then none
      else some { log with statistics := log.statistics ++ [(id, stats)] }
  scanned.map fun log =>
    match candidateLine value with
    | none => log
    | some id =>
      { log with invalid := log.invalid || log.selectedId.isSome, selectedId := some id }

/-- A line of the job configuration. -/
def configurationLine (log : HandBrakeSubtitleLog) (value : String) : HandBrakeSubtitleLog :=
  if "* subtitle track ".toList <+: value.toList then
    match selectionLine value with
    | none => { log with invalid := true }
    | some (ordinal, selection) =>
      if ordinal ≠ log.selections.length + 1 ∨
          log.selections.length ≥ MAX_OUTPUT_SUBTITLE_TRACKS then { log with invalid := true }
      else { log with selections := log.selections ++ [selection] }
  else log

def line (log : HandBrakeSubtitleLog) (value : String) : HandBrakeSubtitleLog :=
  if log.invalid then log
  else
    match startedTask value with
    | some task =>
      if task = "Subtitle Scan" then
        { log with task, configuration := false, statistics := [], selectedId := none }
      else { log with task, configuration := false }
    | none =>
      if value = "job configuration:" then
        if log.task = "Encoding Pass" ∨ log.task = "Analysis Pass" then
          { log with configuration := true, selections := [] }
        else { log with configuration := false }
      else
        let scanned := if log.task = "Subtitle Scan" then log.scanLine value else some log
        match scanned with
        | none => { log with invalid := true }
        | some scanned =>
          if scanned.configuration then scanned.configurationLine value else scanned

def overflow (log : HandBrakeSubtitleLog) : HandBrakeSubtitleLog := { log with invalid := true }

end HandBrakeSubtitleLog

/-- `createHandBrakeSubtitleProvenanceParser`. -/
abbrev HandBrakeSubtitleProvenanceParser := HandBrakeLogReader HandBrakeSubtitleLog

def createHandBrakeSubtitleProvenanceParser : HandBrakeSubtitleProvenanceParser where
  buffer := []
  state := .empty

def invalidProvenance : EncodeOutputError :=
  .validation .subtitleStreams "HandBrake subtitle provenance is incomplete or invalid"

/-- `Number.isSafeInteger(number) && number >= 1`. -/
def isSafeTrackNumber (number : Int) : Bool := 1 ≤ number && number ≤ maxSafeInteger

namespace HandBrakeSubtitleLog

/-- The kind of one selected track that the foreign-audio search may have chosen. -/
def searchedKind (log : HandBrakeSubtitleLog) (selection : SubtitleSelection)
    (searchCount : Nat) : Except EncodeOutputError HandBrakeVobSubKind :=
  match log.statistics.lookup selection.id with
  | none => .error invalidProvenance
  | some stats =>
    if searchCount > 1 ∨ some selection.id ≠ log.selectedId ∨
        stats.sourceTrackNumber ≠ selection.sourceTrackNumber ∨ stats.hits = 0 ∨
        (selection.forcedOnly ∧ stats.forced = 0) then .error invalidProvenance
    else if selection.forcedOnly ∧ stats.forced < stats.hits then .ok .foreignAudioSearch
    else .ok .source

/-- The kind of one selected track, with the searches counted so far. -/
def trackKind (log : HandBrakeSubtitleLog) (selection : SubtitleSelection) (position : Nat)
    (searchCount : Nat) : Except EncodeOutputError (HandBrakeVobSubKind × Nat) :=
  if selection.default ∨ selection.forcedOnly ∨
      (position = 0 ∧ some selection.id = log.selectedId) then
    (log.searchedKind selection (searchCount + 1)).map fun kind => (kind, searchCount + 1)
  else .ok (.source, searchCount)

/-- The tracks of the selections from one position on. -/
def tracks (log : HandBrakeSubtitleLog) (sourceNumbers : List (Option Int)) :
    List (SubtitleSelection × Nat) → Nat →
      Except EncodeOutputError (List HandBrakeVobSubProvenance)
  | [], _ => .ok []
  | (selection, position) :: rest, searchCount =>
    if selection.picture = false then log.tracks sourceNumbers rest searchCount
    else do
      rejectIf (some selection.sourceTrackNumber ∉ sourceNumbers) invalidProvenance
      let (kind, searchCount) ← log.trackKind selection position searchCount
      let result ← log.tracks sourceNumbers rest searchCount
      return ⟨selection.sourceTrackNumber, kind, selection.default, selection.forcedOnly⟩ ::
        result

end HandBrakeSubtitleLog

def HandBrakeVobSubProvenance.isSourceOf (track : HandBrakeVobSubProvenance)
    (number : Option Int) : Bool :=
  track.kind = .source && some track.sourceTrackNumber = number

def HandBrakeSubtitleProvenanceParser.finish (parser : HandBrakeSubtitleProvenanceParser)
    (expectations : List EncodeOutputVobSubExpectation) :
    Except EncodeOutputError (List HandBrakeVobSubProvenance) := do
  let log := (HandBrakeLogReader.finish HandBrakeSubtitleLog.line parser).state
  rejectIf (log.invalid ∨ log.configuration = false ∨ log.task ≠ "Encoding Pass")
    invalidProvenance
  let sourceNumbers : List (Option Int) := expectations.map fun source => source.sourceTrackNumber
  rejectIf (¬sourceNumbers.Nodup ∨ ∃ number ∈ sourceNumbers, number.any isSafeTrackNumber = false)
    invalidProvenance
  rejectIf ((log.selections.filter fun selection => selection.default).length > 1)
    invalidProvenance
  let result ← log.tracks sourceNumbers log.selections.zipIdx 0
  rejectIf (∃ number ∈ sourceNumbers, (result.filter (·.isSourceOf number)).length ≠ 1)
    invalidProvenance
  return result

/-- The parser after a log, however it was cut into chunks. -/
def HandBrakeSubtitleProvenanceParser.read (chunks : List String) :
    HandBrakeSubtitleProvenanceParser :=
  chunks.foldl (HandBrakeLogReader.push HandBrakeSubtitleLog.line HandBrakeSubtitleLog.overflow)
    createHandBrakeSubtitleProvenanceParser

/-- What a provenance says of the source tracks it was asked for. -/
structure ProvenanceOf (expectations : List EncodeOutputVobSubExpectation)
    (provenance : List HandBrakeVobSubProvenance) : Prop where
  numbers_nodup : (expectations.map fun source => source.sourceTrackNumber).Nodup
  numbers_safe : ∀ source ∈ expectations, source.sourceTrackNumber.any isSafeTrackNumber = true
  source_once : ∀ source ∈ expectations,
    provenance.countP (·.isSourceOf source.sourceTrackNumber) = 1
  search_once : provenance.countP (·.kind = .foreignAudioSearch) ≤ 1
  search_forced : ∀ track ∈ provenance, track.kind = .foreignAudioSearch →
    track.forcedOnly = true
  expected : ∀ track ∈ provenance, ∃ source ∈ expectations,
    source.sourceTrackNumber = some track.sourceTrackNumber
  default_once : provenance.countP (·.default) ≤ 1

namespace HandBrakeSubtitleLog

theorem searchedKind_search {log : HandBrakeSubtitleLog}
    (h : log.searchedKind selection searchCount = .ok .foreignAudioSearch) :
    selection.forcedOnly = true := by
  unfold searchedKind at h
  cases hstats : log.statistics.lookup selection.id with
  | none =>
    rw [hstats] at h
    cases h
  | some stats =>
    rw [hstats] at h
    dsimp only at h
    split at h
    · cases h
    · split at h
      · next hforced => exact hforced.1
      · cases h

theorem searchedKind_count {log : HandBrakeSubtitleLog}
    (h : log.searchedKind selection searchCount = .ok kind) : searchCount ≤ 1 := by
  unfold searchedKind at h
  cases hstats : log.statistics.lookup selection.id with
  | none =>
    rw [hstats] at h
    cases h
  | some stats =>
    rw [hstats] at h
    dsimp only at h
    split at h
    · cases h
    · next hvalid =>
      by_contra hcount
      exact hvalid (.inl (by omega))

theorem trackKind_cases {log : HandBrakeSubtitleLog}
    (h : log.trackKind selection position searchCount = .ok (kind, searchCount')) :
    kind = .source ∧ searchCount ≤ searchCount' ∨
      selection.forcedOnly = true ∧ searchCount' = searchCount + 1 ∧ searchCount' ≤ 1 := by
  rw [trackKind] at h
  split at h
  · obtain ⟨kind, hkind, hpair⟩ := map_ok.1 h
    cases hpair
    cases kind with
    | source => exact .inl ⟨rfl, Nat.le_succ _⟩
    | foreignAudioSearch =>
      exact .inr ⟨searchedKind_search hkind, rfl, searchedKind_count hkind⟩
  · cases h
    exact .inl ⟨rfl, le_refl _⟩

/-- The first selection, when it is a track, and the tracks of the others. -/
theorem tracks_cons {log : HandBrakeSubtitleLog} {numbers : List (Option Int)}
    (h : log.tracks numbers ((selection, position) :: rest) searchCount = .ok result) :
    selection.picture = false ∧ log.tracks numbers rest searchCount = .ok result ∨
      ∃ kind searchCount' result', some selection.sourceTrackNumber ∈ numbers ∧
        log.tracks numbers rest searchCount' = .ok result' ∧
        result = ⟨selection.sourceTrackNumber, kind, selection.default,
          selection.forcedOnly⟩ :: result' ∧
        (kind = .source ∧ searchCount ≤ searchCount' ∨
          selection.forcedOnly = true ∧ searchCount' = searchCount + 1 ∧ searchCount' ≤ 1) := by
  rw [tracks] at h
  by_cases hpicture : selection.picture = false
  · rw [if_pos hpicture] at h
    exact .inl ⟨hpicture, h⟩
  · rw [if_neg hpicture] at h
    right
    obtain ⟨_, hnumber, h⟩ := bind_ok.1 h
    obtain ⟨⟨kind, searchCount'⟩, hkind, h⟩ := bind_ok.1 h
    obtain ⟨result', hrest, h⟩ := bind_ok.1 h
    exact ⟨kind, searchCount', result', not_not.1 (rejectIf_ok.1 hnumber), hrest,
      (pure_ok.1 h).symm, trackKind_cases hkind⟩

theorem tracks_expected {log : HandBrakeSubtitleLog} {numbers : List (Option Int)}
    (h : log.tracks numbers entries searchCount = .ok result) :
    ∀ track ∈ result, some track.sourceTrackNumber ∈ numbers ∧
      (track.kind = .foreignAudioSearch → track.forcedOnly = true) := by
  induction entries generalizing searchCount result with
  | nil =>
    cases h
    exact List.forall_mem_nil _
  | cons entry rest ih =>
    obtain ⟨-, hrest⟩ | ⟨kind, searchCount', result', hnumber, hrest, rfl, hkind⟩ :=
      tracks_cons h
    · exact ih hrest
    · rw [List.forall_mem_cons]
      refine ⟨⟨hnumber, ?_⟩, ih hrest⟩
      intro hsearch
      obtain ⟨rfl, -⟩ | ⟨hforced, -⟩ := hkind
      · cases hsearch
      · exact hforced

theorem tracks_search {log : HandBrakeSubtitleLog} {numbers : List (Option Int)}
    (h : log.tracks numbers entries searchCount = .ok result) :
    result.countP (·.kind = .foreignAudioSearch) = 0 ∨
      result.countP (·.kind = .foreignAudioSearch) + searchCount ≤ 1 := by
  induction entries generalizing searchCount result with
  | nil =>
    cases h
    exact .inl rfl
  | cons entry rest ih =>
    obtain ⟨-, hrest⟩ | ⟨kind, searchCount', result', -, hrest, rfl, hkind⟩ := tracks_cons h
    · exact ih hrest
    · have hih := ih hrest
      rw [List.countP_cons]
      obtain ⟨rfl, hle⟩ | ⟨-, rfl, hle⟩ := hkind
      · rw [if_neg (by simp)]
        omega
      · split <;> omega

theorem tracks_default {log : HandBrakeSubtitleLog} {numbers : List (Option Int)}
    (h : log.tracks numbers entries searchCount = .ok result) :
    result.countP (·.default) ≤ entries.countP (·.1.default) := by
  induction entries generalizing searchCount result with
  | nil =>
    cases h
    exact le_refl _
  | cons entry rest ih =>
    obtain ⟨-, hrest⟩ | ⟨kind, searchCount', result', -, hrest, rfl, -⟩ := tracks_cons h
    · exact (ih hrest).trans (List.countP_cons ▸ Nat.le_add_right _ _)
    · rw [List.countP_cons, List.countP_cons]
      exact Nat.add_le_add_right (ih hrest) _

end HandBrakeSubtitleLog

theorem countP_zipIdx (p : α → Bool) (l : List α) (k : Nat) :
    (l.zipIdx k).countP (fun entry => p entry.1) = l.countP p := by
  have h := congrArg (List.countP p) (List.zipIdx_map_fst k l)
  rw [List.countP_map] at h
  exact h

/-- The tracks a parser accepts. -/
theorem HandBrakeSubtitleProvenanceParser.finish_provenance
    {parser : HandBrakeSubtitleProvenanceParser}
    (h : parser.finish expectations = .ok provenance) : ProvenanceOf expectations provenance := by
  obtain ⟨_, -, h⟩ := bind_ok.1 h
  obtain ⟨_, hnumbers, h⟩ := bind_ok.1 h
  obtain ⟨_, hdefault, h⟩ := bind_ok.1 h
  obtain ⟨result, htracks, h⟩ := bind_ok.1 h
  obtain ⟨_, hsources, h⟩ := bind_ok.1 h
  obtain rfl := pure_ok.1 h
  obtain ⟨hnodup, hsafe⟩ := not_or.1 (rejectIf_ok.1 hnumbers)
  have hexpected := HandBrakeSubtitleLog.tracks_expected htracks
  constructor
  · exact not_not.1 hnodup
  · intro source hsource
    by_contra hunsafe
    exact hsafe ⟨_, List.mem_map_of_mem hsource, eq_false_of_ne_true hunsafe⟩
  · intro source hsource
    rw [List.countP_eq_length_filter]
    by_contra hcount
    exact rejectIf_ok.1 hsources ⟨_, List.mem_map_of_mem hsource, hcount⟩
  · have hsearch := HandBrakeSubtitleLog.tracks_search htracks
    omega
  · intro track htrack
    exact (hexpected track htrack).2
  · intro track htrack
    obtain ⟨source, hsource, hnumber⟩ := List.mem_map.1 (hexpected track htrack).1
    exact ⟨source, hsource, hnumber⟩
  · have hle := HandBrakeSubtitleLog.tracks_default htracks
    have hone := rejectIf_ok.1 hdefault
    rw [← List.countP_eq_length_filter] at hone
    rw [countP_zipIdx fun selection : SubtitleSelection => selection.default] at hle
    omega

end RipDvd
