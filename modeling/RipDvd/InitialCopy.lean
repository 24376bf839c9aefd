import RipDvd.CopyRuns
import RipDvd.BitmapRuns
import Mathlib

namespace RipDvd
set_option autoImplicit true

open Json

def DVD_INITIAL_COPY_POLICY_VERSION : String := "dvd-initial-copy-v1"
def READ_FAILURE_EXIT_STATUS : Nat := 3
def FLOCK_CONFLICT_EXIT_CODE : Nat := 75

/-- One diagnostic of the line that `emit_initial_copy_result` prints. -/
def emitInitialCopyDiagnostic (failure : ReadFailure) : Json :=
  let completion := failure.completion
  let sense := failure.sense
  .object [
    ("classification", string "tolerable_medium_error"),
    ("classifierVersion", string DVD_READ_FAILURE_CLASSIFIER_VERSION),
    ("requestedLba", number completion.requestedLba),
    ("requestedBlockCount", number completion.requestedBlockCount),
    ("retryOrdinal", number completion.retryOrdinal),
    ("scsiStatus", number completion.scsiStatus.toNat),
    ("hostStatus", number completion.hostStatus.toNat),
    ("driverStatus", number completion.driverStatus.toNat),
    ("senseResponseCode", number (sense.responseCode.getD 0).toNat),
    ("senseKey", number (sense.senseKey.getD 0).toNat),
    ("asc", number (sense.asc.getD 0).toNat),
    ("ascq", number (sense.ascq.getD 0).toNat),
    ("informationLba", formatOptional sense.informationLba)]

/-- The line `emit_initial_copy_result` prints. -/
def emitInitialCopyResult (declaredByteCount retainedByteCount : Nat)
    (initialCopy : InitialCopyState) : Json :=
  .object [
    ("protocolVersion", number 1),
    ("copyPolicyVersion", string DVD_INITIAL_COPY_POLICY_VERSION),
    ("declaredByteCount", number declaredByteCount),
    ("recoveredByteCount", number (retainedByteCount -
      initialCopy.skippedSectorCount * DVD_SECTOR_SIZE_BYTES : Nat)),
    ("skippedSectorCount", number initialCopy.skippedSectorCount),
    ("skippedRegionCount", number initialCopy.skippedRegionCount),
    ("skippedSectorBitmapHex", string (if 0 < initialCopy.skippedSectorCount then
      toHex initialCopy.skippedSectorBitmap else "")),
    ("skippedRequestCount", number initialCopy.skippedRequestCount),
    ("diagnosticsTruncated",
      .boolean (initialCopy.diagnostics.length < initialCopy.skippedRequestCount)),
    ("diagnostics", .array (initialCopy.diagnostics.map emitInitialCopyDiagnostic))]

/-- A line of the helper's protocol. -/
inductive HelperLine where
  | recoveryResult (payload : Json)
  | initialCopyResult (payload : Json)
  | readFailureResult (payload : Json)

/-- What a run of the helper leaves: its exit status, its lines and the file it wrote. -/
structure HelperRun where
  code : Nat
  lines : List HelperLine
  image : List UInt8

/-- `rollback_boundary_image`. -/
def CopyState.rollbackBoundaryImage (s : CopyState) : List UInt8 :=
  if s.recovery.boundaryFailure then s.image.take s.recovery.boundaryRetainedImageByteCount
  else s.image

/-- The end of `run_initial_copy`, after `read_disc`. -/
def finishInitialCopy (sizeBytes : Nat) :
    CopyStatus × Option InitialCopyState × CopyState → HelperRun
  | (status, initialCopy, s) =>
    let image := s.rollbackBoundaryImage
    let result := initialCopy.toList.map fun initialCopy =>
      .initialCopyResult (emitInitialCopyResult sizeBytes image.length initialCopy)
    match status with
    | .done => ⟨0, result, image⟩
    | .failed => ⟨1, [], image⟩
    | .readFailure printed =>
      ⟨READ_FAILURE_EXIT_STATUS, .readFailureResult (emitReadFailureResult printed.failure
          (some printed.recovery) sizeBytes printed.retainedImageByteCount) ::
        if s.recovery.boundaryFailure then result else [], image⟩

/-- The process that copies a disc of a size from a drive. -/
def initialCopyHelper (env : CopyEnvironment) (sizeBytes : Nat) : HelperRun :=
  finishInitialCopy sizeBytes (runInitialCopy env sizeBytes)

structure DvdInitialCopyDiagnostic where
  requestedLba : Nat
  requestedBlockCount : Nat
  retryOrdinal : Nat
  scsiStatus : Nat
  driverStatus : Nat
  senseResponseCode : Nat
  asc : Nat
  ascq : Nat
  informationLba : Option Nat
  deriving DecidableEq

def DvdInitialCopyDiagnostic.endLba (diagnostic : DvdInitialCopyDiagnostic) : Nat :=
  diagnostic.requestedLba + diagnostic.requestedBlockCount

structure DvdInitialCopyResult where
  declaredByteCount : Nat
  recoveredByteCount : Nat
  skippedRequestCount : Nat
  diagnosticsTruncated : Bool
  diagnostics : List DvdInitialCopyDiagnostic
  unrecoveredSourceRanges : List UnrecoveredSourceRange
  deriving DecidableEq

def INITIAL_COPY_RESULT_KEYS : List String :=
  ["copyPolicyVersion", "declaredByteCount", "diagnostics", "diagnosticsTruncated",
    "protocolVersion", "recoveredByteCount", "skippedRegionCount", "skippedRequestCount",
    "skippedSectorBitmapHex", "skippedSectorCount"]

def INITIAL_COPY_DIAGNOSTIC_KEYS : List String :=
  ["asc", "ascq", "classification", "classifierVersion", "driverStatus", "hostStatus",
    "informationLba", "requestedBlockCount", "requestedLba", "retryOrdinal", "scsiStatus",
    "senseKey", "senseResponseCode"]

def INITIAL_COPY_RESULT_MALFORMED : String := "DVD initial-copy helper result is malformed"

/-- What the numbers of a diagnostic must be to each other and to the medium. -/
def DvdInitialCopyDiagnostic.Accepted (diagnostic : DvdInitialCopyDiagnostic)
    (totalSectorCount : Nat) : Prop :=
  diagnostic.requestedLba ≤ totalSectorCount - 1 ∧
    1 ≤ diagnostic.requestedBlockCount ∧ diagnostic.requestedBlockCount ≤ 0xffffffff ∧
    diagnostic.endLba ≤ maxSafeInteger ∧ diagnostic.endLba ≤ totalSectorCount ∧
    diagnostic.retryOrdinal ≤ 0xffffffff ∧ diagnostic.scsiStatus ≤ 0xff ∧
    diagnostic.scsiStatus &&& 0xfe = 0x02 ∧ diagnostic.driverStatus ≤ 0xffff ∧
    (diagnostic.driverStatus &&& 0x0f = 0 ∨ diagnostic.driverStatus &&& 0x0f = 8) ∧
    (diagnostic.senseResponseCode = 0x70 ∨ diagnostic.senseResponseCode = 0x72) ∧
    diagnostic.asc ≤ 0xff ∧ diagnostic.ascq ≤ 0xff ∧
    ∀ lba ∈ diagnostic.informationLba, diagnostic.requestedLba ≤ lba ∧
      lba ≤ diagnostic.endLba - 1

instance (diagnostic : DvdInitialCopyDiagnostic) : Decidable (diagnostic.Accepted total) :=
  inferInstanceAs (Decidable (_ ∧ _))

/-- The numbers of a diagnostic. -/
def readDiagnostic (value : Json) : Option DvdInitialCopyDiagnostic := do
  let requestedLba ← safeNonNegativeInteger (value.get "requestedLba")
  let requestedBlockCount ← safeNonNegativeInteger (value.get "requestedBlockCount")
  let retryOrdinal ← safeNonNegativeInteger (value.get "retryOrdinal")
  let scsiStatus ← safeNonNegativeInteger (value.get "scsiStatus")
  let driverStatus ← safeNonNegativeInteger (value.get "driverStatus")
  let senseResponseCode ← safeNonNegativeInteger (value.get "senseResponseCode")
  let asc ← safeNonNegativeInteger (value.get "asc")
  let ascq ← safeNonNegativeInteger (value.get "ascq")
  let informationLba ← optionalBoundedInteger (value.get "informationLba") maxSafeInteger
  return ⟨requestedLba, requestedBlockCount, retryOrdinal, scsiStatus, driverStatus,
    senseResponseCode, asc, ascq, informationLba⟩

def parseDiagnostic (value : Json) (totalSectorCount : Nat) :
    Except String DvdInitialCopyDiagnostic := do
  rejectIf (value.keys.insertionSort (· ≤ ·) ≠ INITIAL_COPY_DIAGNOSTIC_KEYS)
    INITIAL_COPY_RESULT_MALFORMED
  rejectIf (¬isString (value.get "classification") "tolerable_medium_error" ∨
      ¬isString (value.get "classifierVersion") DVD_READ_FAILURE_CLASSIFIER_VERSION ∨
      ¬isNumber (value.get "hostStatus") 0 ∨ ¬isNumber (value.get "senseKey") 0x03)
    INITIAL_COPY_RESULT_MALFORMED
  let diagnostic ← orThrow INITIAL_COPY_RESULT_MALFORMED (readDiagnostic value)
  rejectIf (¬diagnostic.Accepted totalSectorCount) INITIAL_COPY_RESULT_MALFORMED
  return diagnostic

def rangesFromBitmap (bitmap : List UInt8) (totalSectorCount : Nat) :
    List UnrecoveredSourceRange :=
  ((RunScan.scanTo (bitmapBit bitmap) totalSectorCount).close totalSectorCount).map fun run =>
    ⟨run.1, run.2, .skippedUntested⟩

def skippedSectorCount (bitmap : List UInt8) : Nat := (bitmap.map bitCount).sum

/-- The sizes that a result may be about. -/
def ValidInitialCopySizes (expectedByteCount acceptedByteCount : Nat) : Prop :=
  expectedByteCount ≤ maxSafeInteger ∧ 0 < expectedByteCount ∧
    expectedByteCount % DVD_SECTOR_SIZE_BYTES = 0 ∧ 0 < acceptedByteCount ∧
    acceptedByteCount ≤ expectedByteCount ∧ acceptedByteCount % DVD_SECTOR_SIZE_BYTES = 0

instance : Decidable (ValidInitialCopySizes expected accepted) :=
  inferInstanceAs (Decidable (_ ∧ _))

/-- The loop over the ranges; none is an invalid one, else the sectors they have. -/
def countUnrecoveredRanges (totalSectorCount : Nat) (previousEndLba : Option Nat) (counted : Nat) :
    List UnrecoveredSourceRange → Option Nat
  | [] => some counted
  | range :: rest =>
    if range.classification ≠ .skippedUntested ∨
        (∃ previous ∈ previousEndLba, range.startLba ≤ previous) ∨ range.sectorCount = 0 ∨
        totalSectorCount < range.endLbaExclusive then none
    else countUnrecoveredRanges totalSectorCount (some range.endLbaExclusive)
      (counted + range.sectorCount) rest

/-- The loop over the diagnostics, with the ranges that are left for them. -/
def coverDiagnostics (totalSectorCount : Nat) (ranges : List UnrecoveredSourceRange)
    (previousDiagnosticEndLba covered : Nat) : List DvdInitialCopyDiagnostic → Option Nat
  | [] => some covered
  | diagnostic :: rest =>
    if ¬diagnostic.Accepted totalSectorCount ∨
        diagnostic.requestedLba < previousDiagnosticEndLba then none
    else
      let left := ranges.dropWhile fun range => range.endLbaExclusive ≤ diagnostic.requestedLba
      match left with
      | [] => none
      | range :: _ =>
        if diagnostic.requestedLba < range.startLba ∨ range.endLbaExclusive < diagnostic.endLba then
          none
        else coverDiagnostics totalSectorCount left diagnostic.endLba
          (covered + diagnostic.requestedBlockCount) rest

def validateDvdInitialCopyResult (result : DvdInitialCopyResult) (expectedByteCount : Nat)
    (invalidResultMessage : String) (acceptedByteCount : Nat) : Except String Unit := do
  rejectIf (¬ValidInitialCopySizes expectedByteCount acceptedByteCount) invalidResultMessage
  let totalSectorCount := acceptedByteCount / DVD_SECTOR_SIZE_BYTES
  let skipped ← orThrow invalidResultMessage
    (countUnrecoveredRanges totalSectorCount none 0 result.unrecoveredSourceRanges)
  rejectIf (result.declaredByteCount ≠ expectedByteCount ∨
      (result.recoveredByteCount : Int) ≠ acceptedByteCount - skipped * DVD_SECTOR_SIZE_BYTES ∨
      maxSafeInteger < result.skippedRequestCount ∨
      result.skippedRequestCount < result.unrecoveredSourceRanges.length ∨
      skipped < result.skippedRequestCount ∨
      decide (skipped = 0) ≠ decide (result.skippedRequestCount = 0) ∨
      result.diagnostics.length ≠
        min result.skippedRequestCount INITIAL_COPY_DIAGNOSTIC_LIMIT ∨
      result.diagnosticsTruncated ≠
        decide (INITIAL_COPY_DIAGNOSTIC_LIMIT < result.skippedRequestCount)) invalidResultMessage
  let covered ← orThrow invalidResultMessage
    (coverDiagnostics totalSectorCount result.unrecoveredSourceRanges 0 0 result.diagnostics)
  rejectIf (¬result.diagnosticsTruncated ∧ covered ≠ skipped) invalidResultMessage

def parseDvdInitialCopyResultProtocol (parsed : Json)
    (expectedByteCount acceptedByteCount : Nat) : Except String DvdInitialCopyResult := do
  rejectIf (parsed.keys.insertionSort (· ≤ ·) ≠ INITIAL_COPY_RESULT_KEYS)
    INITIAL_COPY_RESULT_MALFORMED
  rejectIf (¬ValidInitialCopySizes expectedByteCount acceptedByteCount)
    "DVD initial-copy expected size is invalid"
  let totalSectorCount := expectedByteCount / DVD_SECTOR_SIZE_BYTES
  rejectIf (¬isNumber (parsed.get "protocolVersion") 1 ∨
      ¬isString (parsed.get "copyPolicyVersion") DVD_INITIAL_COPY_POLICY_VERSION ∨
      ¬isNumber (parsed.get "declaredByteCount") expectedByteCount) INITIAL_COPY_RESULT_MALFORMED
  let recoveredByteCount ← orThrow INITIAL_COPY_RESULT_MALFORMED
    (safeNonNegativeInteger (parsed.get "recoveredByteCount"))
  let reportedSectorCount ← orThrow INITIAL_COPY_RESULT_MALFORMED
    (safeNonNegativeInteger (parsed.get "skippedSectorCount"))
  let reportedRegionCount ← orThrow INITIAL_COPY_RESULT_MALFORMED
    (safeNonNegativeInteger (parsed.get "skippedRegionCount"))
  let skippedRequestCount ← orThrow INITIAL_COPY_RESULT_MALFORMED
    (safeNonNegativeInteger (parsed.get "skippedRequestCount"))
  rejectIf (expectedByteCount < recoveredByteCount ∨ totalSectorCount < reportedSectorCount ∨
      totalSectorCount < reportedRegionCount ∨ totalSectorCount < skippedRequestCount)
    INITIAL_COPY_RESULT_MALFORMED
  let diagnosticsTruncated ← orThrow INITIAL_COPY_RESULT_MALFORMED
    (booleanValue (parsed.get "diagnosticsTruncated"))
  let diagnostics ← orThrow INITIAL_COPY_RESULT_MALFORMED (arrayValue (parsed.get "diagnostics"))
  let bitmapHex ← orThrow INITIAL_COPY_RESULT_MALFORMED
    (stringValue (parsed.get "skippedSectorBitmapHex"))
  rejectIf (∃ digit ∈ bitmapHex.toList, hexDigitValue digit = none) INITIAL_COPY_RESULT_MALFORMED
  let expectedBitmapByteCount := (totalSectorCount + 7) / 8
  rejectIf (reportedSectorCount = 0 ∧ bitmapHex ≠ "" ∨
      0 < reportedSectorCount ∧ bitmapHex.length ≠ expectedBitmapByteCount * 2)
    INITIAL_COPY_RESULT_MALFORMED
  let bitmap ← orThrow INITIAL_COPY_RESULT_MALFORMED
    (if reportedSectorCount = 0 then some (List.replicate expectedBitmapByteCount 0)
    else ofHexDigits bitmapHex.toList)
  rejectIf (totalSectorCount % 8 ≠ 0 ∧
      (bitmap.getLastD 0).toNat >>> (totalSectorCount % 8) ≠ 0) INITIAL_COPY_RESULT_MALFORMED
  let ranges := rangesFromBitmap bitmap totalSectorCount
  let actualSkippedSectorCount := skippedSectorCount bitmap
  rejectIf (actualSkippedSectorCount ≠ reportedSectorCount ∨ ranges.length ≠ reportedRegionCount ∨
      (recoveredByteCount : Int) ≠
        acceptedByteCount - actualSkippedSectorCount * DVD_SECTOR_SIZE_BYTES ∨
      decide (actualSkippedSectorCount = 0) ≠ decide (skippedRequestCount = 0) ∨
      skippedRequestCount < ranges.length) INITIAL_COPY_RESULT_MALFORMED
  let diagnostics ← diagnostics.mapM fun diagnostic =>
    parseDiagnostic diagnostic (acceptedByteCount / DVD_SECTOR_SIZE_BYTES)
  let result : DvdInitialCopyResult := {
    declaredByteCount := expectedByteCount
    recoveredByteCount
    skippedRequestCount
    diagnosticsTruncated
    diagnostics
    unrecoveredSourceRanges := ranges }
  validateDvdInitialCopyResult result expectedByteCount INITIAL_COPY_RESULT_MALFORMED
    acceptedByteCount
  return result

/-- The payloads of the helper that the worker has seen. -/
structure TerminalPayloads where
  recoveryResult : Option Json
  initialCopyResult : Option Json
  readFailureResult : Option Json

/-- A line of a helper that makes an initial copy. -/
def TerminalPayloads.collect (payloads : TerminalPayloads) : HelperLine →
    Except String TerminalPayloads
  | .recoveryResult payload => do
    rejectIf (payloads.recoveryResult.isSome ∨ payloads.initialCopyResult.isSome ∨
      payloads.readFailureResult.isSome) "DVD terminal helper result is malformed"
    return { payloads with recoveryResult := some payload }
  | .initialCopyResult payload => do
    rejectIf (payloads.recoveryResult.isSome ∨ payloads.initialCopyResult.isSome)
      "DVD terminal helper result is malformed"
    return { payloads with initialCopyResult := some payload }
  | .readFailureResult payload => do
    rejectIf (payloads.recoveryResult.isSome ∨ payloads.readFailureResult.isSome)
      "DVD terminal helper result is malformed"
    return { payloads with readFailureResult := some payload }

/-- What an initial copy is rejected with. -/
inductive InitialCopyError where
  | boundary (boundaryFailure : DvdReadFailureResult) (initialCopyResult : DvdInitialCopyResult)
  | error (message : String)
  deriving DecidableEq

/-- The close handler of the helper, for an initial copy that was not cancelled. -/
def closeInitialCopy (code : Nat) (payloads : TerminalPayloads) (operationSizeBytes : Nat) :
    Except InitialCopyError DvdInitialCopyResult :=
  if code = FLOCK_CONFLICT_EXIT_CODE then .error (.error "DVD archive device is still active")
  else if code = 0 then
    match payloads with
    | ⟨none, some payload, none⟩ =>
      (parseDvdInitialCopyResultProtocol payload operationSizeBytes operationSizeBytes).mapError
        .error
    | _ => .error (.error "DVD initial-copy helper result is missing")
  else
    match code == READ_FAILURE_EXIT_STATUS, payloads with
    | true, ⟨none, initialCopyResult, some payload⟩ => do
      let terminalResult ← (parseDvdReadFailureTerminalResultProtocol payload
        operationSizeBytes).mapError .error
      match initialCopyResult, terminalResult.readFailure.category,
        terminalResult.readFailure.boundary, terminalResult.recoveryResult with
      | some initialCopyPayload, .outOfRange, some boundary, none => do
        let initialCopyResult ← (parseDvdInitialCopyResultProtocol initialCopyPayload
          operationSizeBytes boundary.retainedImageByteCount).mapError .error
        throw (.boundary terminalResult.readFailure initialCopyResult)
      | _, _, _, _ => throw (.error "DVD initial-copy boundary result is invalid")
    | false, ⟨none, none, none⟩ => .error (.error "DVD archive copy failed")
    | _, _ => .error (.error "DVD read failure helper result is invalid")

/-- What the worker makes of a run of the helper. -/
def HelperRun.outcome (run : HelperRun) (operationSizeBytes : Nat) :
    Except InitialCopyError DvdInitialCopyResult := do
  let payloads ← (run.lines.foldlM TerminalPayloads.collect ⟨none, none, none⟩).mapError .error
  closeInitialCopy run.code payloads operationSizeBytes

end RipDvd
