import RipDvd.SubtitleProvenance
import RipDvd.Json

namespace RipDvd
set_option autoImplicit true

/-- What the validator asks the language runtime: `String.prototype.toLowerCase`, and the
English name of a language, none where it knows none. -/
structure LanguageRuntime where
  toLowerCase : String → String
  displayName : String → Option String

structure CompleteSubtitleStream where
  index : Nat
  codecName : String
  default : Bool
  forced : Bool
  language : String
  title : Option String
  deriving DecidableEq

def subtitleError (message : String) : EncodeOutputError := .validation .subtitleStreams message

def languageMismatch (position : Nat) (actual expected : String) : EncodeOutputError :=
  subtitleError
    s!"source VobSub stream {position + 1} has language {actual}, expected {expected}"

def titleMismatch (position : Nat) (actual expected : Option String) : EncodeOutputError :=
  let found := actual.getD "undefined"
  let wanted := expected.getD "null"
  subtitleError
    s!"source VobSub stream {position + 1} has title {found}, expected title {wanted}"

def sourceCountMismatch (expected found : Nat) : EncodeOutputError :=
  let plural := if expected = 1 then "" else "s"
  subtitleError s!"expected {expected} source VobSub stream{plural}, found {found}"

def outputCountMismatch (expected found : Nat) : EncodeOutputError :=
  subtitleError s!"expected {expected} VobSub output streams, found {found}"

section Streams

variable (runtime : LanguageRuntime)

def identifiedMetadata (value : String) : Bool :=
  trim value ≠ "" && runtime.toLowerCase (trim value) ≠ "unknown"

/-- An identified text of a probe. -/
def identifiedText (value : Option Json) : Option String :=
  (Json.stringValue value).filter (identifiedMetadata runtime)

/-- `normalizedLanguageName` of a text. -/
def normalizedLanguageName (value : String) : Option String :=
  let code := runtime.toLowerCase (trim value)
  if code = "und" then some "und" else (runtime.displayName code).map runtime.toLowerCase

def expectedLanguageName (languageCode : String) : String :=
  (normalizedLanguageName runtime languageCode).getD "und"

/-- `isProbeFlag`, with the flag. -/
def probeFlag (value : Option Json) : Option Bool :=
  if Json.isNumber value 0 then some false
  else if Json.isNumber value 1 then some true
  else none

def isObject : Option Json → Bool
  | some (.object _) => true
  | _ => false

/-- `hasValidSubtitleMetadata`, with the stream completed by an unspecified language. -/
def subtitleMetadata (value : Json) : Option CompleteSubtitleStream := do
  let index ← Json.safeNonNegativeInteger (value.get "index")
  let codecName ← identifiedText runtime (value.get "codec_name")
  let disposition ← value.get "disposition"
  let tags := (value.get "tags").getD (.object [])
  if isObject disposition && isObject tags then do
    let isDefault ← probeFlag (disposition.get "default")
    let forced ← probeFlag (disposition.get "forced")
    let language ←
      match tags.get "language" with
      | none => some "und"
      | some language =>
        (Json.stringValue (some language)).filter fun language =>
          (normalizedLanguageName runtime language).isSome
    let title ←
      match tags.get "title" with
      | none => some none
      | some title => (identifiedText runtime (some title)).map some
    return ⟨index, codecName, isDefault, forced, language, title⟩
  else none

/-- The streams of a subtitle probe, with the indexes seen so far. -/
def completeStreams : List Json → List Nat →
    Except EncodeOutputError (List CompleteSubtitleStream)
  | [], _ => .ok []
  | value :: values, indexes =>
    match subtitleMetadata runtime value with
    | none => .error (subtitleError "subtitle stream metadata is incomplete")
    | some stream => do
      rejectIf (stream.index ∈ indexes) (subtitleError "subtitle stream metadata is incomplete")
      let streams ← completeStreams values (stream.index :: indexes)
      return stream :: streams

def validatedSubtitleStreams (result : Json) :
    Except EncodeOutputError (List CompleteSubtitleStream) :=
  match Json.arrayValue (result.get "streams") with
  | none => .error (subtitleError "subtitle probe returned an invalid result")
  | some streams => completeStreams runtime streams []

/-- An expectation whose texts cannot be compared. -/
def malformedExpectation (expectation : EncodeOutputVobSubExpectation) : Bool :=
  expectation.languageCode.any (fun code => !identifiedMetadata runtime code) ||
    expectation.title.any fun title => title.any fun title => !identifiedMetadata runtime title

/-- `title?.trim().toLowerCase() ?? null`. -/
def normalizedTitle (title : Option String) : Option String :=
  title.map fun title => runtime.toLowerCase (trim title)

def validateLanguage (position : Nat) (stream : CompleteSubtitleStream) :
    Option String → Except EncodeOutputError Unit
  | none => .ok ()
  | some code =>
    rejectIf (normalizedLanguageName runtime stream.language ≠
        some (expectedLanguageName runtime code))
      (languageMismatch position stream.language code)

def validateTitle (position : Nat) (stream : CompleteSubtitleStream) :
    Option (Option String) → Except EncodeOutputError Unit
  | none => .ok ()
  | some title =>
    rejectIf (normalizedTitle runtime stream.title ≠ normalizedTitle runtime title)
      (titleMismatch position stream.title title)

/-- One expectation against the stream at its position. -/
def validateExpectedStream (position : Nat) (expectation : EncodeOutputVobSubExpectation)
    (stream : CompleteSubtitleStream) : Except EncodeOutputError Unit := do
  validateLanguage runtime position stream expectation.languageCode
  validateTitle runtime position stream expectation.title

def validateExpectedVobSubStreams (sourceStreams : List CompleteSubtitleStream)
    (expectations : Option (List EncodeOutputVobSubExpectation)) :
    Except EncodeOutputError Unit :=
  match expectations with
  | none => .ok ()
  | some expectations => do
    rejectIf (∃ expectation ∈ expectations, malformedExpectation runtime expectation = true)
      (.error "Encode output subtitle expectation is invalid")
    rejectIf (sourceStreams.length ≠ expectations.length)
      (sourceCountMismatch expectations.length sourceStreams.length)
    (expectations.zip sourceStreams).zipIdx.forM fun entry =>
      validateExpectedStream runtime entry.2 entry.1.1 entry.1.2

def vobSubStreams (streams : List CompleteSubtitleStream) : List CompleteSubtitleStream :=
  streams.filter fun stream => stream.codecName = "dvd_subtitle"

/-- The loop over the provenance and its streams, with the source streams and the searches so
far. -/
def pairTracks (declared : List EncodeOutputVobSubExpectation) :
    List (HandBrakeVobSubProvenance × CompleteSubtitleStream) →
      List (Int × CompleteSubtitleStream) → Nat →
        Except EncodeOutputError (List (Int × CompleteSubtitleStream))
  | [], sourceStreams, _ => .ok sourceStreams
  | (track, stream) :: rest, sourceStreams, searchCount =>
    match declared.find? fun source => source.sourceTrackNumber = some track.sourceTrackNumber with
    | none => .error (subtitleError "subtitle source provenance is invalid")
    | some expectation => do
      rejectIf (stream.default ≠ track.default ∨ stream.forced ≠ track.default)
        (subtitleError
          "a VobSub stream has a disposition inconsistent with HandBrake source provenance")
      match track.kind with
      | .source => do
        rejectIf (track.sourceTrackNumber ∈ sourceStreams.map Prod.fst)
          (subtitleError "a source VobSub stream was counted more than once")
        pairTracks declared rest (sourceStreams ++ [(track.sourceTrackNumber, stream)]) searchCount
      | .foreignAudioSearch => do
        rejectIf (searchCount + 1 > 1 ∨ track.forcedOnly = false)
          (subtitleError "foreign-audio-search VobSub provenance is invalid")
        validateExpectedVobSubStreams runtime [stream] (some [expectation])
        pairTracks declared rest sourceStreams (searchCount + 1)

/-- The source streams a provenance finds. -/
def provenSourceStreams (streams : List CompleteSubtitleStream)
    (expectations : Option (List EncodeOutputVobSubExpectation))
    (provenance : List HandBrakeVobSubProvenance)
    (declared : Option (List EncodeOutputVobSubExpectation)) :
    Except EncodeOutputError (List CompleteSubtitleStream) :=
  match expectations with
  | none => .error (subtitleError "subtitle source provenance is invalid")
  | some expectations => do
    let numbers : List (Option Int) := expectations.map fun source => source.sourceTrackNumber
    rejectIf ((∃ number ∈ numbers, number.any isSafeTrackNumber = false) ∨ ¬numbers.Nodup)
      (subtitleError "subtitle source provenance is invalid")
    rejectIf (provenance.length ≠ (vobSubStreams streams).length)
      (outputCountMismatch provenance.length (vobSubStreams streams).length)
    rejectIf ((provenance.filter fun track => track.default).length > 1)
      (subtitleError "multiple default subtitles in HandBrake source provenance")
    let sourceStreams ← pairTracks runtime (declared.getD expectations)
      (provenance.zip (vobSubStreams streams)) [] 0
    let sources := expectations.filterMap fun source =>
      source.sourceTrackNumber.bind fun number => sourceStreams.lookup number
    validateExpectedVobSubStreams runtime sources (some expectations)
    return sources

def sourceVobSubStreams (streams : List CompleteSubtitleStream)
    (expectations : Option (List EncodeOutputVobSubExpectation))
    (provenance : Option (List HandBrakeVobSubProvenance))
    (declared : Option (List EncodeOutputVobSubExpectation)) :
    Except EncodeOutputError (List CompleteSubtitleStream) :=
  match provenance with
  | some provenance => provenSourceStreams runtime streams expectations provenance declared
  | none => do
    let searchStreams := (vobSubStreams streams).filter fun stream =>
      stream.default && stream.forced
    rejectIf (searchStreams.length > 1)
      (subtitleError "more than one foreign-audio-search VobSub stream was produced")
    let sourceStreams := (vobSubStreams streams).filter fun stream =>
      !(stream.default && stream.forced)
    rejectIf (∃ stream ∈ sourceStreams, stream.default = true ∨ stream.forced = true)
      (subtitleError "a source VobSub stream has an unexpected default or forced disposition")
    return sourceStreams

end Streams

end RipDvd
