import RipDvd.Bitmap
import RipDvd.ReadFailure

namespace RipDvd
set_option autoImplicit true

open Json

def DVD_SECTOR_SIZE_BYTES : Nat := 2048
def DVD_RECOVERY_POLICY_VERSION : String := "dvd-recovery-v1"
def DVD_READ_FAILURE_CLASSIFIER_VERSION : String := "scsi-read-classifier-v2"
def DVD_SECTOR_BOUNDARY_PROOF_VERSION : String := "dvd-sector-boundary-proof-v1"
def BOUNDARY_CONFIRMATION_READS : Nat := 2

/-- What a copy knows about the sectors it could not read and the end it ran into. -/
structure RecoveryState where
  badSectorBitmap : List UInt8
  badSectorCount : Nat
  badAreaCount : Nat
  allowBoundaryProof : Bool
  includeBoundaryRecoverySnapshot : Bool
  boundaryFailure : Bool
  boundaryProven : Bool
  boundaryRetainedImageByteCount : Nat
  deriving DecidableEq

namespace RecoveryState

def sectorIsBad (recovery : RecoveryState) (lba : Nat) : Bool :=
  bitmapBit recovery.badSectorBitmap lba

def markBadSector (recovery : RecoveryState) (lba : Nat) : RecoveryState :=
  let marked := { recovery with
    badSectorBitmap := setBitmapBit recovery.badSectorBitmap lba
    badSectorCount := recovery.badSectorCount + 1 }
  if lba = 0 ∨ ¬marked.sectorIsBad (lba - 1) then
    { marked with badAreaCount := recovery.badAreaCount + 1 }
  else marked

/-- The state after a result that names a boundary was printed. -/
def recordBoundaryFailure (recovery : RecoveryState) (failure : ReadFailure)
    (retainedImageByteCount : Nat) : RecoveryState :=
  if failure.status = .outOfRangeError then
    { recovery with
      boundaryFailure := true
      boundaryRetainedImageByteCount := retainedImageByteCount }
  else recovery

def includesRecoverySnapshot (recovery : RecoveryState) : Bool :=
  recovery.boundaryProven &&
    (0 < recovery.badSectorCount || recovery.includeBoundaryRecoverySnapshot)

/-- The snapshot of the copy that goes with a proven boundary. -/
def snapshot (recovery : RecoveryState) (declaredByteCount : Nat) : Json :=
  .object [
    ("protocolVersion", number 1),
    ("declaredByteCount", number declaredByteCount),
    ("recoveredByteCount",
      number (declaredByteCount - recovery.badSectorCount * DVD_SECTOR_SIZE_BYTES : Nat)),
    ("recoveryPolicyVersion", string DVD_RECOVERY_POLICY_VERSION),
    ("badSectorCount", number recovery.badSectorCount),
    ("badAreaCount", number recovery.badAreaCount),
    ("badSectorBitmapHex",
      string (if 0 < recovery.badSectorCount then toHex recovery.badSectorBitmap else ""))]

end RecoveryState

/-- The image up to the first sector that could not be read. -/
def boundaryRetainedImageByteCount (recovery : Option RecoveryState) (bytesProcessed : Nat) :
    Nat :=
  match recovery with
  | none => bytesProcessed
  | some recovery =>
    if recovery.badSectorCount = 0 then bytesProcessed
    else
      match (List.range (recovery.badSectorBitmap.length * 8)).find? recovery.sectorIsBad with
      | some firstBadLba => min (firstBadLba * DVD_SECTOR_SIZE_BYTES) bytesProcessed
      | none => bytesProcessed

/-- The fields every printed failure starts with, in their order. -/
def readFailureFields (failure : ReadFailure) (protocolVersion : Nat) (category : String) :
    List (String × Json) :=
  let evidence := failure.evidence
  [("protocolVersion", number protocolVersion),
    ("classifierVersion", string DVD_READ_FAILURE_CLASSIFIER_VERSION),
    ("category", string category),
    ("scsiStatus", formatOptional evidence.scsiStatus),
    ("hostStatus", formatOptional evidence.hostStatus),
    ("driverStatus", formatOptional evidence.driverStatus),
    ("senseResponseCode", formatOptional evidence.senseResponseCode),
    ("senseKey", formatOptional evidence.senseKey),
    ("asc", formatOptional evidence.asc),
    ("ascq", formatOptional evidence.ascq),
    ("informationLba", formatOptional evidence.informationLba),
    ("requestedLba", number evidence.requestedLba),
    ("requestedBlockCount", number evidence.requestedBlockCount),
    ("retryOrdinal", number evidence.retryOrdinal)]

def boundaryProofFields (failure : ReadFailure) : List (String × Json) :=
  [("boundaryProofVersion", string DVD_SECTOR_BOUNDARY_PROOF_VERSION),
    ("candidateConfirmationCount", number BOUNDARY_CONFIRMATION_READS),
    ("precedingSectorLba", number (failure.sense.informationLba.getD 0 - 1 : Nat))]

def boundaryFields (failure : ReadFailure) (declaredByteCount retainedImageByteCount : Nat) :
    List (String × Json) :=
  [("declaredByteCount", number declaredByteCount),
    ("firstFailingLba", number (failure.sense.informationLba.getD 0)),
    ("retainedImageByteCount", number retainedImageByteCount)]

/-- The line `emit_read_failure_result` prints; `none` is a copy without recovery. -/
def emitReadFailureResult (failure : ReadFailure) (recovery : Option RecoveryState)
    (declaredByteCount retainedImageByteCount : Nat) : Json :=
  if failure.status = .outOfRangeError then
    let boundary := boundaryFields failure declaredByteCount retainedImageByteCount
    match recovery with
    | some recovery =>
      if recovery.includesRecoverySnapshot then
        .object (readFailureFields failure 2 "out_of_range" ++ boundaryProofFields failure ++
          boundary ++ [("recoveryProtocol", recovery.snapshot declaredByteCount)])
      else if recovery.boundaryProven then
        .object (readFailureFields failure 1 "out_of_range" ++ boundaryProofFields failure ++
          boundary)
      else .object (readFailureFields failure 1 "out_of_range" ++ boundary)
    | none => .object (readFailureFields failure 1 "out_of_range" ++ boundary)
  else .object (readFailureFields failure 1 failure.category.name)

structure DvdBoundaryProof where
  candidateConfirmationCount : Nat
  precedingSectorLba : Nat
  deriving DecidableEq

structure DvdReadFailureBoundary where
  declaredByteCount : Nat
  firstFailingLba : Nat
  retainedImageByteCount : Nat
  proof : Option DvdBoundaryProof
  deriving DecidableEq

structure DvdReadFailureResult extends DvdReadFailureEvidence where
  category : ArchiveReadFailureCategory
  boundary : Option DvdReadFailureBoundary
  deriving DecidableEq

def DVD_READ_FAILURE_PROTOCOL_KEYS : List String :=
  ["asc", "ascq", "category", "classifierVersion", "driverStatus", "hostStatus",
    "informationLba", "protocolVersion", "requestedBlockCount", "requestedLba", "retryOrdinal",
    "scsiStatus", "senseKey", "senseResponseCode"]

def DVD_OUT_OF_RANGE_FAILURE_PROTOCOL_KEYS : List String :=
  (DVD_READ_FAILURE_PROTOCOL_KEYS ++
    ["declaredByteCount", "firstFailingLba", "retainedImageByteCount"]).insertionSort (· ≤ ·)

def DVD_PROVEN_OUT_OF_RANGE_FAILURE_PROTOCOL_KEYS : List String :=
  (DVD_OUT_OF_RANGE_FAILURE_PROTOCOL_KEYS ++
    ["boundaryProofVersion", "candidateConfirmationCount", "precedingSectorLba"]).insertionSort
      (· ≤ ·)

def READ_FAILURE_MALFORMED : String := "DVD read failure helper result is malformed"
def RECOVERY_RESULT_MALFORMED : String := "DVD recovery helper result is malformed"

def orThrow (message : String) : Option α → Except String α
  | some a => .ok a
  | none => .error message

/-- The fields of the evidence, each within its own bounds. -/
def readEvidence (candidate : Json) : Option DvdReadFailureEvidence := do
  let scsiStatus ← optionalBoundedInteger (candidate.get "scsiStatus") 0xff
  let hostStatus ← optionalBoundedInteger (candidate.get "hostStatus") 0xffff
  let driverStatus ← optionalBoundedInteger (candidate.get "driverStatus") 0xffff
  let senseResponseCode ← optionalBoundedInteger (candidate.get "senseResponseCode") 0xff
  let senseKey ← optionalBoundedInteger (candidate.get "senseKey") 0x0f
  let asc ← optionalBoundedInteger (candidate.get "asc") 0xff
  let ascq ← optionalBoundedInteger (candidate.get "ascq") 0xff
  let informationLba ← optionalBoundedInteger (candidate.get "informationLba") maxSafeInteger
  let requestedLba ← safeNonNegativeInteger (candidate.get "requestedLba")
  let requestedBlockCount ← safeNonNegativeInteger (candidate.get "requestedBlockCount")
  let retryOrdinal ← safeNonNegativeInteger (candidate.get "retryOrdinal")
  return {
    toArchiveReadFailureScsiEvidence := ⟨scsiStatus, hostStatus, driverStatus, senseKey, asc, ascq⟩
    senseResponseCode
    informationLba
    requestedLba
    requestedBlockCount
    retryOrdinal }

/-- A status is there with the two others or not at all. -/
def ArchiveReadFailureScsiEvidence.StatusesTogether
    (evidence : ArchiveReadFailureScsiEvidence) : Prop :=
  (evidence.scsiStatus = none ∨ evidence.hostStatus = none ∨ evidence.driverStatus = none) →
    evidence.scsiStatus = none ∧ evidence.hostStatus = none ∧ evidence.driverStatus = none

/-- Nothing of the sense data without its response code, no ASC without its ASCQ. -/
def DvdReadFailureEvidence.SenseTogether (evidence : DvdReadFailureEvidence) : Prop :=
  (evidence.senseResponseCode = none → evidence.senseKey = none ∧ evidence.asc = none ∧
    evidence.ascq = none ∧ evidence.informationLba = none) ∧
  (evidence.asc = none ↔ evidence.ascq = none)

/-- The information names a sector of the request. -/
def DvdReadFailureEvidence.InformationWithin (evidence : DvdReadFailureEvidence)
    (startLba sectorCount : Nat) : Prop :=
  ∀ lba ∈ evidence.informationLba, startLba ≤ lba ∧ lba < startLba + sectorCount

instance (evidence : ArchiveReadFailureScsiEvidence) : Decidable evidence.StatusesTogether :=
  inferInstanceAs (Decidable (_ → _))

instance (evidence : DvdReadFailureEvidence) : Decidable evidence.SenseTogether :=
  inferInstanceAs (Decidable (_ ∧ _))

instance (evidence : DvdReadFailureEvidence) : Decidable (evidence.InformationWithin lba count) :=
  inferInstanceAs (Decidable (∀ _ ∈ _, _))

/-- What the fields of a copy's evidence must be to each other and to the medium. -/
def DvdReadFailureEvidence.Accepted (evidence : DvdReadFailureEvidence)
    (expectedByteCount : Nat) : Prop :=
  0 < evidence.requestedBlockCount ∧ evidence.requestedBlockCount ≤ 0xffffffff ∧
    evidence.retryOrdinal ≤ 0xffffffff ∧
    expectedByteCount % DVD_SECTOR_SIZE_BYTES = 0 ∧
    expectedByteCount / DVD_SECTOR_SIZE_BYTES ≤ maxSafeInteger ∧
    evidence.requestedLba < expectedByteCount / DVD_SECTOR_SIZE_BYTES ∧
    evidence.requestedLba + evidence.requestedBlockCount ≤
      expectedByteCount / DVD_SECTOR_SIZE_BYTES ∧
    evidence.InformationWithin evidence.requestedLba evidence.requestedBlockCount ∧
    evidence.StatusesTogether ∧ evidence.SenseTogether

instance (evidence : DvdReadFailureEvidence) : Decidable (evidence.Accepted expectedByteCount) :=
  inferInstanceAs (Decidable (_ ∧ _))

def readCategory (value : Option Json) : Option ArchiveReadFailureCategory :=
  ARCHIVE_READ_FAILURE_CATEGORIES.find? fun category => isString value category.value

def hasBoundaryProof (candidate : Json) : Bool :=
  isString (candidate.get "boundaryProofVersion") DVD_SECTOR_BOUNDARY_PROOF_VERSION

def expectedReadFailureKeys (candidate : Json) : List String :=
  if isString (candidate.get "category") "out_of_range" then
    if hasBoundaryProof candidate then DVD_PROVEN_OUT_OF_RANGE_FAILURE_PROTOCOL_KEYS
    else DVD_OUT_OF_RANGE_FAILURE_PROTOCOL_KEYS
  else DVD_READ_FAILURE_PROTOCOL_KEYS

/-- The boundary of an out-of-range result, with its proof when it claims one. -/
def readBoundary (candidate : Json) (evidence : DvdReadFailureEvidence)
    (expectedByteCount : Nat) : Except String DvdReadFailureBoundary := do
  let firstFailingLba ← orThrow READ_FAILURE_MALFORMED
    (safeNonNegativeInteger (candidate.get "firstFailingLba"))
  let retainedImageByteCount ← orThrow READ_FAILURE_MALFORMED
    (safeNonNegativeInteger (candidate.get "retainedImageByteCount"))
  rejectIf (¬isNumber (candidate.get "declaredByteCount") expectedByteCount ∨
      evidence.informationLba ≠ some firstFailingLba ∨
      expectedByteCount < retainedImageByteCount ∨
      retainedImageByteCount % DVD_SECTOR_SIZE_BYTES ≠ 0 ∨
      (retainedImageByteCount ≠ expectedByteCount ∧
        firstFailingLba * DVD_SECTOR_SIZE_BYTES < retainedImageByteCount) ∨
      ¬outOfRangeEvidence evidence) READ_FAILURE_MALFORMED
  if hasBoundaryProof candidate then
    rejectIf (¬isNumber (candidate.get "candidateConfirmationCount") 2 ∨ firstFailingLba = 0 ∨
        ¬isNumber (candidate.get "precedingSectorLba") (firstFailingLba - 1) ∨
        retainedImageByteCount ≠ firstFailingLba * DVD_SECTOR_SIZE_BYTES ∨
        evidence.requestedLba ≠ firstFailingLba ∨ evidence.requestedBlockCount ≠ 1 ∨
        evidence.retryOrdinal ≠ 1) READ_FAILURE_MALFORMED
    return {
      declaredByteCount := expectedByteCount
      firstFailingLba
      retainedImageByteCount
      proof := some ⟨2, firstFailingLba - 1⟩ }
  else return {
    declaredByteCount := expectedByteCount
    firstFailingLba
    retainedImageByteCount
    proof := none }

def parseDvdReadFailureResultProtocol (candidate : Json) (expectedByteCount : Nat) :
    Except String DvdReadFailureResult := do
  rejectIf (candidate.keys.insertionSort (· ≤ ·) ≠ expectedReadFailureKeys candidate ∨
      ¬isNumber (candidate.get "protocolVersion") 1 ∨
      ¬isString (candidate.get "classifierVersion") DVD_READ_FAILURE_CLASSIFIER_VERSION)
    READ_FAILURE_MALFORMED
  let category ← orThrow READ_FAILURE_MALFORMED (readCategory (candidate.get "category"))
  let evidence ← orThrow READ_FAILURE_MALFORMED (readEvidence candidate)
  rejectIf (¬evidence.Accepted expectedByteCount) READ_FAILURE_MALFORMED
  rejectIf (category = .unknown ∧ outOfRangeEvidence evidence ∧ evidence.informationLba ≠ none)
    READ_FAILURE_MALFORMED
  if category = .outOfRange then
    let boundary ← readBoundary candidate evidence expectedByteCount
    return { evidence with category, boundary := some boundary }
  else
    rejectIf (normalizedReadFailureCategory evidence ≠ .category category) READ_FAILURE_MALFORMED
    return { evidence with category, boundary := none }

def isProvenDvdBoundaryCandidate (result : DvdReadFailureResult) : Bool :=
  match result.category, result.boundary with
  | .outOfRange, some boundary =>
    match boundary.proof with
    | some proof =>
      proof.candidateConfirmationCount = 2 && 0 < boundary.firstFailingLba &&
        proof.precedingSectorLba = boundary.firstFailingLba - 1 &&
        boundary.retainedImageByteCount = boundary.firstFailingLba * DVD_SECTOR_SIZE_BYTES &&
        result.requestedLba = boundary.firstFailingLba && result.requestedBlockCount = 1 &&
        result.retryOrdinal = 1
    | none => false
  | _, _ => false

inductive DvdRecoveryOutcome where
  | clean
  | damaged
  deriving DecidableEq

structure DvdRecoveryResult where
  outcome : DvdRecoveryOutcome
  declaredByteCount : Nat
  recoveredByteCount : Nat
  badSectorCount : Nat
  badAreaCount : Nat
  unrecoveredSectorRanges : List UnreadableSectorRange
  deriving DecidableEq

def createCleanDvdRecoveryResult (declaredByteCount : Nat) : DvdRecoveryResult :=
  { outcome := .clean
    declaredByteCount
    recoveredByteCount := declaredByteCount
    badSectorCount := 0
    badAreaCount := 0
    unrecoveredSectorRanges := [] }

/-- The sectors of ranges that follow each other with a gap, counted on the way. -/
def countNormalizedRanges (totalSectorCount : Nat) (previousEndLba : Int) (counted : Nat) :
    List UnreadableSectorRange → Option Nat
  | [] => some counted
  | range :: rest =>
    let endLba := range.startLba + range.sectorCount
    if range.sectorCount = 0 ∨ totalSectorCount < endLba ∨ (range.startLba : Int) ≤ previousEndLba
    then none
    else countNormalizedRanges totalSectorCount endLba (counted + range.sectorCount) rest

def isNormalizedDamagedResult (result : DvdRecoveryResult) (expectedByteCount : Nat) : Bool :=
  expectedByteCount % DVD_SECTOR_SIZE_BYTES = 0 && result.outcome = .damaged &&
    result.declaredByteCount = expectedByteCount && 0 < result.badSectorCount &&
    0 < result.badAreaCount && result.unrecoveredSectorRanges.length = result.badAreaCount &&
    match countNormalizedRanges (expectedByteCount / DVD_SECTOR_SIZE_BYTES) (-1) 0
      result.unrecoveredSectorRanges with
    | some counted => counted = result.badSectorCount &&
        result.recoveredByteCount = expectedByteCount - counted * DVD_SECTOR_SIZE_BYTES
    | none => false

def createDamagedDvdRecoveryResult (declaredByteCount : Nat)
    (ranges : List UnreadableSectorRange) : Except String DvdRecoveryResult := do
  let badSectorCount := (ranges.map (·.sectorCount)).sum
  let result : DvdRecoveryResult := {
    outcome := .damaged
    declaredByteCount
    recoveredByteCount := declaredByteCount - badSectorCount * DVD_SECTOR_SIZE_BYTES
    badSectorCount
    badAreaCount := ranges.length
    unrecoveredSectorRanges := ranges }
  rejectIf (¬isNormalizedDamagedResult result declaredByteCount) "DVD recovery result is invalid"
  return result

/-- The runs of set bits; a bit past the last sector is an error. -/
def parseBadSectorBitmap (bitmapHex : String) (totalSectorCount : Nat) :
    Except String (List UnreadableSectorRange) := do
  rejectIf (bitmapHex.length ≠ (totalSectorCount + 7) / 8 * 2) RECOVERY_RESULT_MALFORMED
  let bytes ← orThrow RECOVERY_RESULT_MALFORMED (ofHexDigits bitmapHex.toList)
  rejectIf ((List.range (bytes.length * 8)).any fun lba =>
    totalSectorCount ≤ lba && bitmapBit bytes lba) RECOVERY_RESULT_MALFORMED
  let scan := RunScan.scanTo (bitmapBit bytes) (bytes.length * 8)
  return (scan.close totalSectorCount).map fun run => ⟨run.1, run.2⟩

def parseDvdRecoveryResultProtocol (parsed : Json) (expectedByteCount : Nat) :
    Except String DvdRecoveryResult := do
  rejectIf (¬isNumber (parsed.get "protocolVersion") 1 ∨
      ¬isNumber (parsed.get "declaredByteCount") expectedByteCount ∨
      ¬isString (parsed.get "recoveryPolicyVersion") DVD_RECOVERY_POLICY_VERSION)
    RECOVERY_RESULT_MALFORMED
  let recoveredByteCount ← orThrow RECOVERY_RESULT_MALFORMED
    (safeNonNegativeInteger (parsed.get "recoveredByteCount"))
  let badSectorCount ← orThrow RECOVERY_RESULT_MALFORMED
    (safeNonNegativeInteger (parsed.get "badSectorCount"))
  let badAreaCount ← orThrow RECOVERY_RESULT_MALFORMED
    (safeNonNegativeInteger (parsed.get "badAreaCount"))
  let bitmapHex ← orThrow RECOVERY_RESULT_MALFORMED (stringValue (parsed.get "badSectorBitmapHex"))
  if badSectorCount = 0 then
    rejectIf (badAreaCount ≠ 0 ∨ recoveredByteCount ≠ expectedByteCount ∨ bitmapHex ≠ "")
      RECOVERY_RESULT_MALFORMED
    return createCleanDvdRecoveryResult expectedByteCount
  else
    rejectIf (expectedByteCount % DVD_SECTOR_SIZE_BYTES ≠ 0) RECOVERY_RESULT_MALFORMED
    let ranges ← parseBadSectorBitmap bitmapHex (expectedByteCount / DVD_SECTOR_SIZE_BYTES)
    let result ← createDamagedDvdRecoveryResult expectedByteCount ranges
    rejectIf (result.recoveredByteCount ≠ recoveredByteCount ∨
        result.badSectorCount ≠ badSectorCount ∨ result.badAreaCount ≠ badAreaCount)
      RECOVERY_RESULT_MALFORMED
    return result

structure DvdReadFailureTerminalResult where
  readFailure : DvdReadFailureResult
  recoveryResult : Option DvdRecoveryResult
  deriving DecidableEq

def parseDvdReadFailureTerminalResultProtocol (parsed : Json) (expectedByteCount : Nat) :
    Except String DvdReadFailureTerminalResult :=
  match parsed.get "recoveryProtocol" with
  | none => do
    let readFailure ← parseDvdReadFailureResultProtocol parsed expectedByteCount
    return { readFailure, recoveryResult := none }
  | some recoveryProtocol => do
    rejectIf (¬isNumber (parsed.get "protocolVersion") 2) READ_FAILURE_MALFORMED
    let readFailureProtocol := (parsed.erase "recoveryProtocol").erase "protocolVersion"
    let readFailure ← parseDvdReadFailureResultProtocol
      (readFailureProtocol.insert "protocolVersion" (number 1)) expectedByteCount
    let recoveryResult ← parseDvdRecoveryResultProtocol recoveryProtocol expectedByteCount
    rejectIf (¬isProvenDvdBoundaryCandidate readFailure ∨
        ∃ boundary ∈ readFailure.boundary, ∃ range ∈ recoveryResult.unrecoveredSectorRanges,
          boundary.firstFailingLba < range.startLba + range.sectorCount) READ_FAILURE_MALFORMED
    return { readFailure, recoveryResult := some recoveryResult }

end RipDvd
