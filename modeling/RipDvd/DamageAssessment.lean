import RipDvd.SourceRanges

namespace RipDvd
set_option autoImplicit true

open Extent

def DVD_TITLE_DAMAGE_ASSESSMENT_POLICY_VERSION : String := "dvd-title-damage-assessment-v1"
def DVD_TITLE_DAMAGE_SOURCE_CONTINUITY_POLICY_VERSION : String := "dvd-title-source-continuity-v1"
def DVD_TITLE_DAMAGE_TIMING_POLICY_VERSION : String := "dvd-title-damage-timing-v1"

inductive DvdTitleSourceReferenceKind where
  | navigation
  | multiplexedContent
  deriving DecidableEq

structure DvdTitleSourceReference extends UnreadableSectorRange where
  kind : DvdTitleSourceReferenceKind
  deriving DecidableEq

structure DvdTitleDamageUnknownReason where
  code : String
  message : String
  deriving DecidableEq

inductive DvdTitleDamageTimingCoverage where
  | sourceSpan
  | wholeCell
  deriving DecidableEq

structure DvdTitleDamageTimingSpan where
  sourceRange : UnreadableSectorRange
  startMilliseconds : Nat
  endMilliseconds : Nat
  timingMethod : String
  coverage : DvdTitleDamageTimingCoverage
  deriving DecidableEq

structure DvdTitleDamageTimingOccurrenceInput where
  playbackOccurrence : Nat
  spans : List DvdTitleDamageTimingSpan
  unknownReasons : List DvdTitleDamageUnknownReason
  deriving DecidableEq

structure DvdTitleDamageTimingInput where
  policyVersion : String
  occurrences : List DvdTitleDamageTimingOccurrenceInput
  deriving DecidableEq

structure DvdTitleDamageAffectedPlaybackInterval where
  playbackOccurrence : Nat
  startMilliseconds : Nat
  endMilliseconds : Nat
  timingMethods : List String
  coverage : DvdTitleDamageTimingCoverage
  sourceRanges : List UnrecoveredSourceRange
  deriving DecidableEq

structure DvdTitleIdentitySelectedPathEntry where
  programNumber : Nat
  cellNumber : Nat
  vobId : Nat
  cellId : Nat
  deriving DecidableEq

structure DvdTitleSelection where
  selectedPath : List DvdTitleIdentitySelectedPathEntry
  angleNumber : Nat
  chapterStart : Nat
  chapterEnd : Nat
  deriving DecidableEq

inductive MappingCoverageState where
  | complete
  | partly
  deriving DecidableEq

structure MappingCoverage where
  state : MappingCoverageState
  policyVersion : String
  unknownReasons : List DvdTitleDamageUnknownReason
  deriving DecidableEq

/-- Timing evidence is null only in assessments written before timing tracking. -/
structure DvdTitleDamageMappingInput where
  titleIdentityId : String
  titleIdentityObservationId : String
  displayTitleNumber : Nat
  selection : DvdTitleSelection
  sourceReferences : List DvdTitleSourceReference
  mappingCoverage : MappingCoverage
  timingEvidence : Option DvdTitleDamageTimingInput
  deriving DecidableEq

/-- The outcomes of a verification that an operator may confirm. -/
inductive ConfirmedVerificationOutcome where
  | mismatch
  | inconclusive
  deriving DecidableEq

structure ConfirmationCheckpoint where
  manifestRevision : Nat
  manifestDigest : String
  deriving DecidableEq

structure DvdTitleDamageSourceContinuityProvenance where
  discConfirmationId : String
  archiveRecoveryId : String
  archiveRecoveryAttemptId : String
  verificationId : String
  verificationOutcome : ConfirmedVerificationOutcome
  verificationResultDigest : String
  confirmationCheckpoint : ConfirmationCheckpoint
  recoveredSourceRanges : List UnreadableSectorRange
  deriving DecidableEq

structure DvdTitleDamageSourceContinuityInput where
  policyVersion : String
  provenance : List DvdTitleDamageSourceContinuityProvenance
  deriving DecidableEq

structure DvdTitleDamageSourceContinuityRiskRange extends UnreadableSectorRange where
  discConfirmationId : String
  verificationOutcome : ConfirmedVerificationOutcome
  deriving DecidableEq

inductive DvdStructuralFindingOutcome where
  | valid
  | invalid
  | indeterminate
  | notRun
  deriving DecidableEq

structure DamageCheckpoint where
  originalDiscArchiveId : String
  manifestId : String
  manifestRevision : Nat
  manifestDigest : String
  acceptedEndLbaExclusive : Nat
  deriving DecidableEq

structure StructuralFindings where
  dvdNavigation : DvdStructuralFindingOutcome
  titleEnumeration : DvdStructuralFindingOutcome
  deriving DecidableEq

/-- Source continuity is null only in assessments written before continuity tracking. -/
structure DvdTitleDamageAssessmentInput where
  checkpoint : DamageCheckpoint
  titleIdentityReviewSetIdentity : String
  catalogMappingProjectionId : Option String
  structuralAssessmentIdentity : String
  structuralFindings : StructuralFindings
  unrecoveredSourceRanges : List UnrecoveredSourceRange
  sourceContinuity : Option DvdTitleDamageSourceContinuityInput
  titles : List DvdTitleDamageMappingInput

structure UnknownPlaybackCoverage where
  playbackOccurrence : Nat
  unrecoveredSourceSectorCount : Nat
  unrecoveredSourceRanges : List UnrecoveredSourceRange
  reasons : List DvdTitleDamageUnknownReason
  deriving DecidableEq

structure EstimatedAffectedPlayback where
  policyVersion : String
  intervals : List DvdTitleDamageAffectedPlaybackInterval
  unknownCoverage : List UnknownPlaybackCoverage
  deriving DecidableEq

/-- An item of an assessment without what timing tracking added. -/
structure UntimedAssessmentItem where
  titleIdentityId : String
  titleIdentityObservationId : String
  displayTitleNumber : Nat
  selection : DvdTitleSelection
  mappingCoverage : MappingCoverage
  uniqueSourceRanges : List UnreadableSectorRange
  uniqueSourceSectorCount : Option Nat
  knownUnrecoveredSourceRanges : List UnrecoveredSourceRange
  unrecoveredUniqueSourceSectorCount : Nat
  titleMissingSourcePercentage : Option Float
  knownSourceContinuityRiskRanges : List DvdTitleDamageSourceContinuityRiskRange
  sourceContinuityRiskSectorCount : Nat

structure DvdTitleDamageAssessmentItem extends UntimedAssessmentItem where
  timingEvidence : Option DvdTitleDamageTimingInput
  estimatedAffectedPlayback : Option EstimatedAffectedPlayback

structure SourceContinuity extends DvdTitleDamageSourceContinuityInput where
  sourceContinuityRiskSectorCount : Nat
  deriving DecidableEq

structure UnknownTitleImpact where
  unrecoveredSourceSectorCount : Nat
  unrecoveredSourceRanges : List UnrecoveredSourceRange
  reasons : List DvdTitleDamageUnknownReason
  deriving DecidableEq

structure UnattributedSourceContinuityRisk where
  sourceSectorCount : Nat
  sourceRanges : List DvdTitleDamageSourceContinuityRiskRange
  deriving DecidableEq

structure SemanticEvidenceBeforeContinuity (Item : Type) where
  checkpoint : DamageCheckpoint
  titleIdentityReviewSetIdentity : String
  structuralAssessmentIdentity : String
  structuralFindings : StructuralFindings
  items : List Item
  unknownTitleImpact : UnknownTitleImpact
  noTitleMissingSourceProved : Bool

structure SemanticEvidence (Item : Type) extends SemanticEvidenceBeforeContinuity Item where
  sourceContinuity : Option SourceContinuity
  unattributedSourceContinuityRisk : Option UnattributedSourceContinuityRisk

/-- What the identity of an assessment binds; older rows keep the identity they were given. -/
inductive IdentityEvidence where
  | beforeContinuity (evidence : SemanticEvidenceBeforeContinuity UntimedAssessmentItem)
    (catalogMappingProjectionId : Option String)
  | beforeTiming (evidence : SemanticEvidence UntimedAssessmentItem)
    (catalogMappingProjectionId : Option String)
  | current (evidence : SemanticEvidence DvdTitleDamageAssessmentItem)
    (catalogMappingProjectionId : Option String)

structure DvdTitleDamageAssessment extends SemanticEvidence DvdTitleDamageAssessmentItem where
  id : String
  policyVersion : String

instance : Extent DvdTitleSourceReference where
  start range := range.startLba
  length range := range.sectorCount
  resize range startLba sectorCount := { range with startLba, sectorCount }
  start_resize := rfl
  length_resize := rfl

instance : Extent DvdTitleDamageSourceContinuityRiskRange where
  start range := range.startLba
  length range := range.sectorCount
  resize range startLba sectorCount := { range with startLba, sectorCount }
  start_resize := rfl
  length_resize := rfl

def boundedText (value : String) (maximum : Nat) : Bool :=
  0 < (codeUnits value).length && (codeUnits value).length ≤ maximum

/-- One character of a class, then up to 127 of another. -/
def isToken (first rest : Char → Bool) (value : String) : Bool :=
  match value.toList with
  | [] => false
  | c :: cs => first c && cs.length ≤ 127 && cs.all rest

def isReasonCode : String → Bool :=
  isToken Char.isUpper fun c => c.isUpper || c.isDigit || c = '_'

/-- The names of policies and of timing methods. -/
def isPolicyName : String → Bool :=
  isToken (fun c => c.isLower || c.isDigit)
    fun c => c.isLower || c.isDigit || c = '.' || c = '_' || c = '-'

def isHexDigits (cs : List Char) : Bool :=
  cs.length = 64 && cs.all fun c => c.isDigit || ('a' ≤ c && c ≤ 'f')

def isDigestText (value : String) : Bool := isHexDigits value.toList

def isStructuralAssessmentIdentity (value : String) : Bool :=
  "dvd-structural-assessment:".toList.isPrefixOf value.toList &&
    isHexDigits (value.toList.drop "dvd-structural-assessment:".length)

def validateCheckpoint (checkpoint : DamageCheckpoint) : Except TypeError DamageCheckpoint := do
  rejectIf (¬boundedText checkpoint.originalDiscArchiveId 128 ∨
      ¬boundedText checkpoint.manifestId 256 ∨ checkpoint.manifestRevision > maxSafeInteger ∨
      checkpoint.manifestRevision < 1 ∨ ¬isDigestText checkpoint.manifestDigest ∨
      checkpoint.acceptedEndLbaExclusive > maxSafeInteger ∨
      checkpoint.acceptedEndLbaExclusive < 1)
    ⟨"Invalid DVD Title Damage Assessment checkpoint"⟩
  return checkpoint

def DvdTitleDamageUnknownReason.key (reason : DvdTitleDamageUnknownReason) : String :=
  reason.code ++ "\x00" ++ reason.message

def compareReasons : DvdTitleDamageUnknownReason → DvdTitleDamageUnknownReason → Ordering :=
  compareLex (fun left right => compareCodeUnits left.code right.code)
    (fun left right => compareCodeUnits left.message right.message)

def validateUnknownReasons (reasons : List DvdTitleDamageUnknownReason) :
    Except TypeError (List DvdTitleDamageUnknownReason) := do
  rejectIf (∃ reason ∈ reasons, ¬isReasonCode reason.code ∨ ¬boundedText reason.message 512)
    ⟨"Invalid DVD title source coverage reason"⟩
  return sortBy compareReasons (mapValues DvdTitleDamageUnknownReason.key reasons)

/-- Spans of a part of the source come before those of whole cells. -/
def DvdTitleDamageTimingCoverage.rank : DvdTitleDamageTimingCoverage → Nat
  | sourceSpan => 0
  | wholeCell => 1

def compareSpans : DvdTitleDamageTimingSpan → DvdTitleDamageTimingSpan → Ordering :=
  compareLex (compareOn fun span => span.coverage.rank)
    (compareLex (fun left right => compareRanges left.sourceRange right.sourceRange)
      (compareLex (compareOn (·.startMilliseconds))
        (compareLex (compareOn (·.endMilliseconds))
          fun left right => compareCodeUnits left.timingMethod right.timingMethod)))

def normalizeTimingSpan (uniqueSourceRanges : List UnreadableSectorRange)
    (acceptedEndLbaExclusive : Nat) (span : DvdTitleDamageTimingSpan) :
    Except TypeError DvdTitleDamageTimingSpan := do
  let sourceRange ← normalizeRange span.sourceRange acceptedEndLbaExclusive
    "DVD title timing source range"
  rejectIf (subtractRanges [sourceRange] uniqueSourceRanges ≠ [])
    ⟨"DVD title timing evidence falls outside the title source map"⟩
  let startMilliseconds ← nonnegativeSafeInteger span.startMilliseconds "DVD title timing start"
  let endMilliseconds ← positiveSafeInteger span.endMilliseconds "DVD title timing end"
  rejectIf (endMilliseconds ≤ startMilliseconds ∨ ¬isPolicyName span.timingMethod)
    ⟨"Invalid DVD title timing span"⟩
  return { span with sourceRange, startMilliseconds, endMilliseconds }

/-- Equal spans have equal canonical JSON, so the span is its own key. -/
def normalizeTimingOccurrence (uniqueSourceRanges : List UnreadableSectorRange)
    (acceptedEndLbaExclusive : Nat) (occurrence : DvdTitleDamageTimingOccurrenceInput) :
    Except TypeError DvdTitleDamageTimingOccurrenceInput := do
  let playbackOccurrence ← positiveSafeInteger occurrence.playbackOccurrence
    "DVD title playback occurrence"
  let spans ← occurrence.spans.mapM (normalizeTimingSpan uniqueSourceRanges acceptedEndLbaExclusive)
  let unknownReasons ← validateUnknownReasons occurrence.unknownReasons
  return { playbackOccurrence, spans := mapValues id (sortBy compareSpans spans), unknownReasons }

def sameOccurrence (a b : DvdTitleDamageTimingOccurrenceInput) : Prop :=
  a.playbackOccurrence = b.playbackOccurrence

instance : DecidableRel sameOccurrence := fun _ _ => inferInstanceAs (Decidable (_ = _))

def compareOccurrences :
    DvdTitleDamageTimingOccurrenceInput → DvdTitleDamageTimingOccurrenceInput → Ordering :=
  compareOn (·.playbackOccurrence)

def normalizeTimingEvidence (input : Option DvdTitleDamageTimingInput)
    (uniqueSourceRanges : List UnreadableSectorRange) (acceptedEndLbaExclusive : Nat) :
    Except TypeError (Option DvdTitleDamageTimingInput) :=
  match input with
  | none => .ok none
  | some input => do
    rejectIf (input.policyVersion ≠ DVD_TITLE_DAMAGE_TIMING_POLICY_VERSION ∨
      input.occurrences = []) ⟨"Invalid DVD title timing evidence"⟩
    let occurrences ← mapUnseen sameOccurrence
      ⟨"Invalid or repeated DVD title playback occurrence"⟩
      (normalizeTimingOccurrence uniqueSourceRanges acceptedEndLbaExclusive) [] input.occurrences
    return some { input with occurrences := sortBy compareOccurrences occurrences }

def DvdTitleDamageTimingCoverage.text : DvdTitleDamageTimingCoverage → String
  | sourceSpan => "source_span"
  | wholeCell => "whole_cell"

def compareIntervals :
    DvdTitleDamageAffectedPlaybackInterval → DvdTitleDamageAffectedPlaybackInterval → Ordering :=
  compareLex (compareOn (·.playbackOccurrence))
    (compareLex (compareOn (·.startMilliseconds))
      (compareLex (compareOn (·.endMilliseconds))
        fun left right => compareCodeUnits left.coverage.text right.coverage.text))

/-- Let an interval take in one that starts before its end. -/
def absorbInterval (previous candidate : DvdTitleDamageAffectedPlaybackInterval) :
    DvdTitleDamageAffectedPlaybackInterval :=
  { previous with
    endMilliseconds := max previous.endMilliseconds candidate.endMilliseconds
    coverage := if previous.coverage = .wholeCell ∨ candidate.coverage = .wholeCell then .wholeCell
      else .sourceSpan
    timingMethods := sortBy compareCodeUnits
      (mapValues id (previous.timingMethods ++ candidate.timingMethods))
    sourceRanges := normalizeUnrecoveredSourceRanges
      (previous.sourceRanges ++ candidate.sourceRanges) }

def mergeInterval (merged : List DvdTitleDamageAffectedPlaybackInterval)
    (candidate : DvdTitleDamageAffectedPlaybackInterval) :
    List DvdTitleDamageAffectedPlaybackInterval :=
  match merged.getLast? with
  | none => merged ++ [candidate]
  | some previous =>
    if previous.playbackOccurrence ≠ candidate.playbackOccurrence ∨
        candidate.startMilliseconds ≥ previous.endMilliseconds then merged ++ [candidate]
    else merged.dropLast ++ [absorbInterval previous candidate]

def mergeAffectedPlaybackIntervals (candidates : List DvdTitleDamageAffectedPlaybackInterval) :
    List DvdTitleDamageAffectedPlaybackInterval :=
  (sortBy compareIntervals candidates).foldl mergeInterval []

/-- Where the spans of an occurrence place damage, and the damage they leave over. -/
def placeDamage (playbackOccurrence : Nat) (remaining : List UnrecoveredSourceRange) :
    List DvdTitleDamageTimingSpan →
      List DvdTitleDamageAffectedPlaybackInterval × List UnrecoveredSourceRange
  | [] => ([], remaining)
  | span :: spans =>
    let matched := intersections [span.sourceRange] remaining
    if matched = [] then placeDamage playbackOccurrence remaining spans
    else
      let (candidates, left) := placeDamage playbackOccurrence
        (subtractRanges remaining [span.sourceRange]) spans
      ({ playbackOccurrence
         startMilliseconds := span.startMilliseconds
         endMilliseconds := span.endMilliseconds
         timingMethods := [span.timingMethod]
         coverage := span.coverage
         sourceRanges := matched } :: candidates, left)

def affectedOccurrence (knownUnrecoveredSourceRanges : List UnrecoveredSourceRange)
    (occurrence : DvdTitleDamageTimingOccurrenceInput) : Except TypeError
      (List DvdTitleDamageAffectedPlaybackInterval × Option UnknownPlaybackCoverage) := do
  let (candidates, remaining) := placeDamage occurrence.playbackOccurrence
    knownUnrecoveredSourceRanges occurrence.spans
  rejectIf (remaining ≠ [] ∧ occurrence.unknownReasons = [])
    ⟨"Unplaced DVD title damage requires an explicit timing reason"⟩
  return (candidates, if remaining = [] then none else some {
    playbackOccurrence := occurrence.playbackOccurrence
    unrecoveredSourceSectorCount := sectorCountOf remaining
    unrecoveredSourceRanges := remaining
    reasons := occurrence.unknownReasons })

def estimateAffectedPlayback (timingEvidence : Option DvdTitleDamageTimingInput)
    (knownUnrecoveredSourceRanges : List UnrecoveredSourceRange) :
    Except TypeError (Option EstimatedAffectedPlayback) :=
  match timingEvidence with
  | none => .ok none
  | some timingEvidence => do
    let affected ← timingEvidence.occurrences.mapM (affectedOccurrence knownUnrecoveredSourceRanges)
    return some {
      policyVersion := timingEvidence.policyVersion
      intervals := mergeAffectedPlaybackIntervals (affected.flatMap Prod.fst)
      unknownCoverage := affected.filterMap Prod.snd }

def normalizeProvenance (acceptedEndLbaExclusive : Nat)
    (entry : DvdTitleDamageSourceContinuityProvenance) :
    Except TypeError DvdTitleDamageSourceContinuityProvenance := do
  rejectIf (¬boundedText entry.discConfirmationId 128 ∨ ¬boundedText entry.archiveRecoveryId 128 ∨
      ¬boundedText entry.archiveRecoveryAttemptId 128 ∨ ¬boundedText entry.verificationId 128 ∨
      ¬isDigestText entry.verificationResultDigest ∨
      entry.confirmationCheckpoint.manifestRevision > maxSafeInteger ∨
      entry.confirmationCheckpoint.manifestRevision < 1 ∨
      ¬isDigestText entry.confirmationCheckpoint.manifestDigest)
    ⟨"Invalid DVD source-continuity provenance"⟩
  let recoveredSourceRanges ← normalizeRanges entry.recoveredSourceRanges acceptedEndLbaExclusive
    "Confirmed DVD recovery source range"
  return { entry with recoveredSourceRanges }

def sameConfirmation (a b : DvdTitleDamageSourceContinuityProvenance) : Prop :=
  a.discConfirmationId = b.discConfirmationId

instance : DecidableRel sameConfirmation := fun _ _ => inferInstanceAs (Decidable (_ = _))

def compareProvenance :
    DvdTitleDamageSourceContinuityProvenance →
      DvdTitleDamageSourceContinuityProvenance → Ordering :=
  fun left right => compareCodeUnits left.discConfirmationId right.discConfirmationId

/-- The recovered ranges of a confirmation, each with the risk it carries. -/
def DvdTitleDamageSourceContinuityProvenance.riskRanges
    (entry : DvdTitleDamageSourceContinuityProvenance) :
    List DvdTitleDamageSourceContinuityRiskRange :=
  entry.recoveredSourceRanges.map fun range => { range with
    discConfirmationId := entry.discConfirmationId
    verificationOutcome := entry.verificationOutcome }

def compareRiskRanges : DvdTitleDamageSourceContinuityRiskRange →
    DvdTitleDamageSourceContinuityRiskRange → Ordering :=
  compareLex compareRanges
    fun left right => compareCodeUnits left.discConfirmationId right.discConfirmationId

/-- Sorted ranges of which none starts before the end of the one before it. -/
def rejectOverlaps (previousEnd : Int) :
    List DvdTitleDamageSourceContinuityRiskRange → Except TypeError Unit
  | [] => .ok ()
  | range :: ranges => do
    rejectIf ((range.startLba : Int) < previousEnd)
      ⟨"Confirmed DVD recovery source ranges must not overlap"⟩
    rejectOverlaps (range.startLba + range.sectorCount) ranges

def normalizeSourceContinuity (input : Option DvdTitleDamageSourceContinuityInput)
    (acceptedEndLbaExclusive : Nat) : Except TypeError (Option SourceContinuity) :=
  match input with
  | none => .ok none
  | some input => do
    rejectIf (input.policyVersion ≠ DVD_TITLE_DAMAGE_SOURCE_CONTINUITY_POLICY_VERSION)
      ⟨"Invalid DVD source-continuity evidence"⟩
    let entries ← mapUnseen sameConfirmation ⟨"Invalid DVD source-continuity provenance"⟩
      (normalizeProvenance acceptedEndLbaExclusive) [] input.provenance
    let provenance := sortBy compareProvenance entries
    let riskRanges := sortBy compareRiskRanges (provenance.flatMap (·.riskRanges))
    rejectOverlaps (-1) riskRanges
    return some { input with
      provenance, sourceContinuityRiskSectorCount := sectorCountOf riskRanges }

def sourceContinuityRiskRanges (sourceContinuity : Option SourceContinuity) :
    List DvdTitleDamageSourceContinuityRiskRange :=
  match sourceContinuity with
  | none => []
  | some sourceContinuity => sourceContinuity.provenance.flatMap (·.riskRanges)

def StructuralFindings.mapIsValid (findings : StructuralFindings) : Bool :=
  findings.dvdNavigation = .valid && findings.titleEnumeration = .valid

def validatePathEntry (entry : DvdTitleIdentitySelectedPathEntry) :
    Except TypeError DvdTitleIdentitySelectedPathEntry := do
  let programNumber ← positiveSafeInteger entry.programNumber "DVD title program number"
  let cellNumber ← positiveSafeInteger entry.cellNumber "DVD title cell number"
  let vobId ← positiveSafeInteger entry.vobId "DVD title VOB ID"
  let cellId ← positiveSafeInteger entry.cellId "DVD title cell ID"
  return { programNumber, cellNumber, vobId, cellId }

def validateSelection (selection : DvdTitleSelection) : Except TypeError DvdTitleSelection := do
  let selectedPath ← selection.selectedPath.mapM validatePathEntry
  let angleNumber ← positiveSafeInteger selection.angleNumber "DVD title angle number"
  let chapterStart ← positiveSafeInteger selection.chapterStart "DVD title chapter start"
  let chapterEnd ← positiveSafeInteger selection.chapterEnd "DVD title chapter end"
  rejectIf (selectedPath = [] ∨ chapterEnd < chapterStart)
    ⟨"Invalid concrete DVD title playback selection"⟩
  return { selectedPath, angleNumber, chapterStart, chapterEnd }

/-- What is the same for every title of an assessment. -/
structure AssessmentContext where
  structuralMapIsValid : Bool
  acceptedEndLbaExclusive : Nat
  unrecoveredSourceRanges : List UnrecoveredSourceRange
  continuityRiskRanges : List DvdTitleDamageSourceContinuityRiskRange

def validateMappingCoverage (structuralMapIsValid : Bool) (coverage : MappingCoverage) :
    Except TypeError MappingCoverage := do
  rejectIf (¬isPolicyName coverage.policyVersion)
    ⟨"Invalid DVD title source mapping policy version"⟩
  let unknownReasons ← validateUnknownReasons coverage.unknownReasons
  rejectIf (coverage.state = .complete ∧ (¬structuralMapIsValid ∨ unknownReasons ≠ []))
    ⟨"Complete title source coverage requires valid navigation and title enumeration"⟩
  rejectIf (coverage.state = .partly ∧ unknownReasons = [])
    ⟨"Partial title source coverage requires an explicit unknown reason"⟩
  return { coverage with unknownReasons }

def missingSourcePercentage (missingSectorCount denominator : Nat) : Float :=
  missingSectorCount.toFloat / denominator.toFloat * 100

def assessTitle (context : AssessmentContext) (title : DvdTitleDamageMappingInput) :
    Except TypeError DvdTitleDamageAssessmentItem := do
  rejectIf (¬boundedText title.titleIdentityId 128 ∨
    ¬boundedText title.titleIdentityObservationId 128)
    ⟨"Invalid or repeated DVD Title Identity reference"⟩
  let displayTitleNumber ← positiveSafeInteger title.displayTitleNumber "DVD title display number"
  let selection ← validateSelection title.selection
  let uniqueSourceRanges ← normalizeRanges title.sourceReferences context.acceptedEndLbaExclusive
    "DVD title source reference"
  let timingEvidence ← normalizeTimingEvidence title.timingEvidence uniqueSourceRanges
    context.acceptedEndLbaExclusive
  let mappingCoverage ← validateMappingCoverage context.structuralMapIsValid title.mappingCoverage
  let knownUnrecoveredSourceRanges := intersections uniqueSourceRanges
    context.unrecoveredSourceRanges
  let missingSectorCount := sectorCountOf knownUnrecoveredSourceRanges
  let knownSourceContinuityRiskRanges := intersections uniqueSourceRanges
    context.continuityRiskRanges
  let denominator := if mappingCoverage.state = .complete then some
    (sectorCountOf uniqueSourceRanges)
    else none
  let estimatedAffectedPlayback ← estimateAffectedPlayback timingEvidence
    knownUnrecoveredSourceRanges
  return {
    titleIdentityId := title.titleIdentityId
    titleIdentityObservationId := title.titleIdentityObservationId
    displayTitleNumber
    selection
    mappingCoverage
    uniqueSourceRanges
    uniqueSourceSectorCount := denominator
    knownUnrecoveredSourceRanges
    unrecoveredUniqueSourceSectorCount := missingSectorCount
    titleMissingSourcePercentage := denominator.map (missingSourcePercentage missingSectorCount)
    knownSourceContinuityRiskRanges
    sourceContinuityRiskSectorCount := sectorCountOf knownSourceContinuityRiskRanges
    timingEvidence
    estimatedAffectedPlayback }

def sameTitle (a b : DvdTitleDamageMappingInput) : Prop :=
  a.titleIdentityId = b.titleIdentityId ∨
    a.titleIdentityObservationId = b.titleIdentityObservationId

instance : DecidableRel sameTitle := fun _ _ => inferInstanceAs (Decidable (_ ∨ _))

def compareItems : DvdTitleDamageAssessmentItem → DvdTitleDamageAssessmentItem → Ordering :=
  compareLex (compareOn (·.displayTitleNumber)) fun left right =>
    compareCodeUnits left.titleIdentityObservationId right.titleIdentityObservationId

/-- The union of what the titles are known to use; there may be no title. -/
def knownTitleSourceRanges (items : List DvdTitleDamageAssessmentItem)
    (acceptedEndLbaExclusive : Nat) : Except TypeError (List UnreadableSectorRange) :=
  let inputs := items.flatMap (·.uniqueSourceRanges)
  if inputs = [] then .ok []
  else normalizeRanges inputs acceptedEndLbaExclusive "Known DVD title source range"

/-- Why damage outside every known title may still belong to one. -/
def unknownImpactReasons (findings : StructuralFindings)
    (items : List DvdTitleDamageAssessmentItem) : List DvdTitleDamageUnknownReason :=
  (if findings.dvdNavigation ≠ .valid then
    [⟨"DVD_NAVIGATION_NOT_PROVED", "DVD navigation is not proved for this checkpoint."⟩]
    else []) ++
  (if findings.titleEnumeration ≠ .valid then
    [⟨"TITLE_ENUMERATION_NOT_PROVED", "Title enumeration is not proved for this checkpoint."⟩]
    else []) ++
  (if ∃ item ∈ items, item.mappingCoverage.state = .partly then
    [⟨"TITLE_SOURCE_MAP_INCOMPLETE",
      "At least one selected title path has incomplete source coverage."⟩]
    else [])

/-- The evidence an assessment is made of, with its identity left to be computed. -/
def semanticEvidence (input : DvdTitleDamageAssessmentInput) :
    Except TypeError (SemanticEvidence DvdTitleDamageAssessmentItem) := do
  let checkpoint ← validateCheckpoint input.checkpoint
  rejectIf (¬isDigestText input.titleIdentityReviewSetIdentity ∨
      (∃ id ∈ input.catalogMappingProjectionId, ¬isDigestText id) ∨
      ¬isStructuralAssessmentIdentity input.structuralAssessmentIdentity)
    ⟨"Invalid DVD Title Damage Assessment dependency identity"⟩
  let structuralFindings := input.structuralFindings
  let unrecoveredSourceRanges ← validateUnrecoveredRanges checkpoint.acceptedEndLbaExclusive (-1)
    input.unrecoveredSourceRanges
  let sourceContinuity ← normalizeSourceContinuity input.sourceContinuity
    checkpoint.acceptedEndLbaExclusive
  let continuityRiskRanges := sourceContinuityRiskRanges sourceContinuity
  let assessed ← mapUnseen sameTitle ⟨"Invalid or repeated DVD Title Identity reference"⟩
    (assessTitle {
      structuralMapIsValid := structuralFindings.mapIsValid
      acceptedEndLbaExclusive := checkpoint.acceptedEndLbaExclusive
      unrecoveredSourceRanges
      continuityRiskRanges }) [] input.titles
  let items := sortBy compareItems assessed
  rejectIf ((∃ item ∈ items, item.timingEvidence = none) ∧
      ∃ item ∈ items, item.timingEvidence ≠ none)
    ⟨"DVD Title Damage Assessment cannot mix legacy and current timing evidence"⟩
  let knownRanges ← knownTitleSourceRanges items checkpoint.acceptedEndLbaExclusive
  let unknownRanges := subtractRanges unrecoveredSourceRanges knownRanges
  let reasons ← validateUnknownReasons (unknownImpactReasons structuralFindings items)
  let unattributedContinuityRanges := subtractRanges continuityRiskRanges knownRanges
  return {
    checkpoint
    titleIdentityReviewSetIdentity := input.titleIdentityReviewSetIdentity
    structuralAssessmentIdentity := input.structuralAssessmentIdentity
    structuralFindings
    items
    unknownTitleImpact := {
      unrecoveredSourceSectorCount := sectorCountOf unknownRanges
      unrecoveredSourceRanges := unknownRanges
      reasons }
    noTitleMissingSourceProved := structuralFindings.mapIsValid &&
      items.all (fun item => item.mappingCoverage.state = .complete &&
        item.unrecoveredUniqueSourceSectorCount = 0) &&
      sectorCountOf unknownRanges = 0
    sourceContinuity
    unattributedSourceContinuityRisk := sourceContinuity.map fun _ => {
      sourceSectorCount := sectorCountOf unattributedContinuityRanges
      sourceRanges := unattributedContinuityRanges } }

def SemanticEvidence.untimed (evidence : SemanticEvidence DvdTitleDamageAssessmentItem) :
    SemanticEvidence UntimedAssessmentItem :=
  { evidence with items := evidence.items.map (·.toUntimedAssessmentItem) }

/-- What the identity binds: rows written before continuity or timing evidence was kept retain the
identity they were given. -/
def identityEvidence (evidence : SemanticEvidence DvdTitleDamageAssessmentItem)
    (catalogMappingProjectionId : Option String) : IdentityEvidence :=
  if evidence.sourceContinuity = none then
    .beforeContinuity evidence.untimed.toSemanticEvidenceBeforeContinuity catalogMappingProjectionId
  else if ∃ item ∈ evidence.items, item.timingEvidence ≠ none then
    .current evidence catalogMappingProjectionId
  else .beforeTiming evidence.untimed catalogMappingProjectionId

/-- `evidenceDigest` is the SHA-256, in hexadecimal, of the canonical JSON of the evidence in the
domain of assessment ids. -/
def createDvdTitleDamageAssessment (evidenceDigest : IdentityEvidence → String)
    (input : DvdTitleDamageAssessmentInput) : Except TypeError DvdTitleDamageAssessment := do
  let evidence ← semanticEvidence input
  rejectIf (evidence.sourceContinuity = none ∧
      ∃ item ∈ evidence.items, item.timingEvidence ≠ none)
    ⟨"Current DVD title timing evidence requires source-continuity evidence"⟩
  return { evidence with
    id := "dvd-title-damage-assessment:" ++
      evidenceDigest (identityEvidence evidence input.catalogMappingProjectionId)
    policyVersion := DVD_TITLE_DAMAGE_ASSESSMENT_POLICY_VERSION }

end RipDvd
