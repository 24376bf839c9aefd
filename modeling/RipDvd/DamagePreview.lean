import RipDvd.Clusters
import RipDvd.Confirmation
import RipDvd.DamageAssessment
import RipDvd.Doubles
import RipDvd.Json

namespace RipDvd
set_option autoImplicit true

structure InvalidDamagePreviewInputError where
  message : String
  deriving DecidableEq

structure PlaybackRange where
  startMilliseconds : Int
  endMilliseconds : Int
  deriving DecidableEq

inductive DamagePreviewMode where
  | damage
  | ordinaryPlayback
  deriving DecidableEq

structure DamagePreviewStreams where
  audio : List Nat
  subtitles : List Nat
  deriving DecidableEq

structure DamagePreviewContext where
  beforeMilliseconds : Int
  afterMilliseconds : Int
  deriving DecidableEq

structure DamagePreviewInput where
  mode : DamagePreviewMode
  titleIdentityObservationId : String
  playbackRange : PlaybackRange
  intervalIndexes : List Nat
  assessmentIdentity : Option String
  samplingWindow : Option PlaybackRange
  streams : DamagePreviewStreams
  context : DamagePreviewContext
  encodingProfileId : String
  deriving DecidableEq

namespace DamagePreviewInput

def invalid : Except InvalidDamagePreviewInputError α :=
  .error ⟨"Invalid Damage Preview selection."⟩

def record (value : Option Json) (keys : List String) :
    Except InvalidDamagePreviewInputError Json :=
  match value with
  | some (.object fields) =>
    if fields.any fun field => field.1 ∉ keys then invalid else .ok (.object fields)
  | _ => invalid

def integer (value : Option Json) : Except InvalidDamagePreviewInputError Nat :=
  match Json.safeNonNegativeInteger value with
  | some n => .ok n
  | none => invalid

def text (value : Option Json) : Except InvalidDamagePreviewInputError String :=
  match value with
  | some (.string s) => if boundedText s 256 ∧ trim s = s then .ok s else invalid
  | _ => invalid

def indexes (value : Option Json) (maximum : Nat) :
    Except InvalidDamagePreviewInputError (List Nat) :=
  match value with
  | some (.array items) => do
    if maximum < items.length then invalid
    else
      let result ← items.mapM fun item => integer (some item)
      if result.Nodup then return sortBy (compareOn id) result else invalid
  | _ => invalid

def range (value : Option Json) : Except InvalidDamagePreviewInputError PlaybackRange := do
  let input ← record value ["startMilliseconds", "endMilliseconds"]
  let startMilliseconds ← integer (input.get "startMilliseconds")
  let endMilliseconds ← integer (input.get "endMilliseconds")
  if endMilliseconds ≤ startMilliseconds then invalid
  else return { startMilliseconds, endMilliseconds }

/-- A property that may be left out or null. -/
def optional (parse : Option Json → Except InvalidDamagePreviewInputError α) :
    Option Json → Except InvalidDamagePreviewInputError (Option α)
  | none => .ok none
  | some .null => .ok none
  | some value => do return some (← parse (some value))

def parseMode : Option Json → Except InvalidDamagePreviewInputError DamagePreviewMode
  | some (.string "damage") => .ok .damage
  | some (.string "ordinary_playback") => .ok .ordinaryPlayback
  | _ => invalid

def parseContext : Option Json → Except InvalidDamagePreviewInputError DamagePreviewContext
  | none => .ok { beforeMilliseconds := 5000, afterMilliseconds := 5000 }
  | some value => do
    let context ← record (some value) ["beforeMilliseconds", "afterMilliseconds"]
    let beforeMilliseconds ← integer (context.get "beforeMilliseconds")
    let afterMilliseconds ← integer (context.get "afterMilliseconds")
    return { beforeMilliseconds, afterMilliseconds }

end DamagePreviewInput

open DamagePreviewInput in
def parseDamagePreviewInput (value : Json) :
    Except InvalidDamagePreviewInputError DamagePreviewInput := do
  let input ← record (some value) ["mode", "titleIdentityObservationId", "playbackRange",
    "intervalIndexes", "assessmentIdentity", "samplingWindow", "streams", "context",
    "encodingProfileId"]
  let mode ← parseMode (input.get "mode")
  let streams ← record (input.get "streams") ["audio", "subtitles"]
  let intervalIndexes ← optional (indexes · 10000) (input.get "intervalIndexes")
  let intervalIndexes := intervalIndexes.getD []
  let samplingWindow ← optional range (input.get "samplingWindow")
  if mode = .ordinaryPlayback ∧ (intervalIndexes ≠ [] ∨ samplingWindow ≠ none) then invalid
  else
    let titleIdentityObservationId ← text (input.get "titleIdentityObservationId")
    let playbackRange ← range (input.get "playbackRange")
    let assessmentIdentity ← optional text (input.get "assessmentIdentity")
    let audio ← indexes (streams.get "audio") 8
    let subtitles ← indexes (streams.get "subtitles") 32
    let context ← parseContext (input.get "context")
    let encodingProfileId ← text (input.get "encodingProfileId")
    return {
      mode, titleIdentityObservationId, playbackRange, intervalIndexes, assessmentIdentity,
      samplingWindow, streams := { audio, subtitles }, context, encodingProfileId }

structure DamagePreviewReason where
  code : String
  message : String
  deriving DecidableEq

structure DamagePreviewMarker extends DvdTitleDamageAffectedPlaybackInterval where
  intervalIndex : Nat
  deriving DecidableEq

def DamagePreviewMarker.range (marker : DamagePreviewMarker) : PlaybackRange where
  startMilliseconds := marker.startMilliseconds
  endMilliseconds := marker.endMilliseconds

structure MarkerGroup extends PlaybackRange where
  markerIndexes : List Nat
  deriving DecidableEq

def PlaybackRange.overlaps (left right : PlaybackRange) : Bool :=
  left.startMilliseconds < right.endMilliseconds ∧ right.startMilliseconds < left.endMilliseconds

/-- The markers of the selected intervals that the assessment has. -/
def selectMarkers (input : DamagePreviewInput)
    (intervals : List DvdTitleDamageAffectedPlaybackInterval) : List DamagePreviewMarker :=
  input.intervalIndexes.filterMap fun index =>
    (intervals[index]?).map fun interval => { interval with intervalIndex := index }

def compareMarkers : DamagePreviewMarker → DamagePreviewMarker → Ordering :=
  compareLex (compareOn (·.startMilliseconds)) (compareOn (·.endMilliseconds))

def groupMarker (groups : List MarkerGroup) (marker : DamagePreviewMarker) : List MarkerGroup :=
  let own := { marker.range with markerIndexes := [marker.intervalIndex] }
  match groups.getLast? with
  | none => groups ++ [own]
  | some previous =>
    if marker.range.startMilliseconds - previous.endMilliseconds ≤ 30000 then
      groups.dropLast ++ [{ previous with
        endMilliseconds := max previous.endMilliseconds marker.endMilliseconds
        markerIndexes := previous.markerIndexes ++ [marker.intervalIndex] }]
    else groups ++ [own]

def groupMarkers (markers : List DamagePreviewMarker) : List MarkerGroup :=
  (sortBy compareMarkers markers).foldl groupMarker []

def coarseMarkers (markers : List DamagePreviewMarker) : List DamagePreviewMarker :=
  markers.filter (·.coverage = .wholeCell)

def planReasons (input : DamagePreviewInput) (markers : List DamagePreviewMarker) :
    List DamagePreviewReason :=
  let coarse := coarseMarkers markers
  (if coarse ≠ [] ∧ input.samplingWindow = none then
    [⟨"COARSE_SAMPLING_WINDOW_REQUIRED",
      "Choose a bounded sampling window for coarse whole-cell timing."⟩]
  else []) ++
  (if input.samplingWindow.any fun window =>
      window.startMilliseconds < input.playbackRange.startMilliseconds ∨
        input.playbackRange.endMilliseconds < window.endMilliseconds then
    [⟨"SAMPLING_WINDOW_OUTSIDE_PLAYBACK_RANGE",
      "The sampling window must stay inside the selected playback range."⟩]
  else []) ++
  (if input.samplingWindow.any fun window =>
      coarse.any fun marker => !window.overlaps marker.range then
    [⟨"SAMPLING_WINDOW_MISSES_INTERVAL",
      "The sampling window must intersect every selected coarse interval."⟩]
  else []) ++
  (if markers.any fun marker => !marker.range.overlaps input.playbackRange then
    [⟨"INTERVAL_OUTSIDE_PLAYBACK_RANGE",
      "A selected damage interval is outside the selected playback range."⟩]
  else [])

/-- The part of a group to show: around the window, when some marker of the group is coarse. -/
def groupSpans (input : DamagePreviewInput) (markers : List DamagePreviewMarker)
    (group : MarkerGroup) : List PlaybackRange :=
  let hasCoarse := (coarseMarkers markers).any fun marker =>
    marker.intervalIndex ∈ group.markerIndexes
  let precise := markers.filter fun marker =>
    marker.intervalIndex ∈ group.markerIndexes ∧ marker.coverage ≠ .wholeCell
  if hasCoarse then
    match input.samplingWindow with
    | none => []
    | some window =>
      [{ startMilliseconds := (precise.map (·.range.startMilliseconds)).foldl min
           window.startMilliseconds
         endMilliseconds := (precise.map (·.range.endMilliseconds)).foldl max
           window.endMilliseconds }]
  else [group.toPlaybackRange]

/-- What is to be shown, without its context. -/
def selectedSpans (input : DamagePreviewInput) (markers : List DamagePreviewMarker) :
    List PlaybackRange :=
  if input.mode = .ordinaryPlayback then [input.playbackRange]
  else (groupMarkers markers).flatMap (groupSpans input markers)

/-- A span with the context around it, cut off where the playback range ends. -/
def contextSpan (input : DamagePreviewInput) (span : PlaybackRange) : PlaybackRange where
  startMilliseconds := max input.playbackRange.startMilliseconds
    (span.startMilliseconds - input.context.beforeMilliseconds)
  endMilliseconds :=
    if span.endMilliseconds ≥
        input.playbackRange.endMilliseconds - input.context.afterMilliseconds then
      input.playbackRange.endMilliseconds
    else span.endMilliseconds + input.context.afterMilliseconds

def mergeClip (clips : List PlaybackRange) (span : PlaybackRange) : List PlaybackRange :=
  match clips.getLast? with
  | none => clips ++ [span]
  | some previous =>
    if span.startMilliseconds ≤ previous.endMilliseconds then
      clips.dropLast ++ [{ previous with
        endMilliseconds := max previous.endMilliseconds span.endMilliseconds }]
    else clips ++ [span]

structure DamagePreviewPlan where
  groups : List MarkerGroup
  clips : List PlaybackRange
  estimatedDurationMilliseconds : Option Int
  deriving DecidableEq

/-- The sum is computed in doubles, which do not hold every integer beyond `2 ^ 53`. -/
def clipsDuration (clips : List PlaybackRange) : Int :=
  clips.foldl (fun sum clip =>
    nearestDoubleInt (nearestDoubleInt (sum + clip.endMilliseconds) - clip.startMilliseconds)) 0

/-- The plan, and the reasons given so far with those that it adds. -/
def planClips (input : DamagePreviewInput) (markers : List DamagePreviewMarker)
    (reasons : List DamagePreviewReason) : DamagePreviewPlan × List DamagePreviewReason :=
  let spans := ((selectedSpans input markers).map (contextSpan input)).filter fun span =>
    span.startMilliseconds < span.endMilliseconds
  let clips := (sortBy (compareOn (·.startMilliseconds)) spans).foldl mergeClip []
  let incomplete := coarseMarkers markers ≠ [] ∧ input.samplingWindow = none ∨
    markers.length ≠ input.intervalIndexes.length
  ({ groups := groupMarkers markers
     clips
     estimatedDurationMilliseconds :=
       if incomplete ∨ clips = [] then none else some (clipsDuration clips) },
    reasons ++ planReasons input markers)

end RipDvd
