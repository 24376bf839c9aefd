import RipDvd.Copy
import RipDvd.FailureAgreement
import RipDvd.Verification

namespace RipDvd
set_option autoImplicit true

open Json

/-- The two commands that read a range of sectors once. -/
inductive SourceReadCommand where
  | verifySample
  | recoverSector
  deriving DecidableEq

def SourceReadCommand.requiredSectorCount : SourceReadCommand → Nat
  | verifySample => DVD_SOURCE_SAMPLE_SECTOR_COUNT
  | recoverSector => 1

structure DvdSourceReadRange where
  startLba : Nat
  sectorCount : Nat
  acceptedEndLbaExclusive : Nat
  deriving DecidableEq

/-- The range checks of the reader's command line. -/
def DvdSourceReadRange.AcceptedByReader (range : DvdSourceReadRange)
    (command : SourceReadCommand) : Prop :=
  range.startLba ≤ MAX_DVD_CONTENT_BYTES / DVD_SECTOR_SIZE_BYTES ∧
    range.sectorCount ≤ MAX_DVD_CONTENT_BYTES / DVD_SECTOR_SIZE_BYTES ∧
    range.acceptedEndLbaExclusive ≤ MAX_DVD_CONTENT_BYTES / DVD_SECTOR_SIZE_BYTES ∧
    range.sectorCount = command.requiredSectorCount ∧
    range.acceptedEndLbaExclusive ≠ 0 ∧
    range.startLba + range.sectorCount ≤ range.acceptedEndLbaExclusive ∧
    range.startLba ≤ MAX_DVD_CONTENT_BYTES / DVD_SECTOR_SIZE_BYTES - range.sectorCount

instance (range : DvdSourceReadRange) : Decidable (range.AcceptedByReader command) :=
  inferInstanceAs (Decidable (_ ∧ _))

/-- The range checks of the worker before it starts the reader. -/
def DvdSourceReadRange.AcceptedByWorker (range : DvdSourceReadRange)
    (command : SourceReadCommand) : Prop :=
  range.startLba ≤ maxSafeInteger ∧ range.sectorCount ≤ maxSafeInteger ∧
    range.sectorCount = command.requiredSectorCount ∧
    range.startLba + range.sectorCount ≤ range.acceptedEndLbaExclusive

instance (range : DvdSourceReadRange) : Decidable (range.AcceptedByWorker command) :=
  inferInstanceAs (Decidable (_ ∧ _))

/-- How the reader's process ends: with bytes, with a result line, or with neither. -/
inductive SourceReadExit where
  | success (stdout : List UInt8)
  | readFailure (line : Json)
  | failed

/-- The line for a read that came back short, or not at all, without a completion. -/
def shortReadFailure (range : DvdSourceReadRange) : Json :=
  .object [
    ("protocolVersion", number 1),
    ("classifierVersion", string DVD_READ_FAILURE_CLASSIFIER_VERSION),
    ("category", string "unknown"),
    ("scsiStatus", null),
    ("hostStatus", null),
    ("driverStatus", null),
    ("senseResponseCode", null),
    ("senseKey", null),
    ("asc", null),
    ("ascq", null),
    ("informationLba", null),
    ("requestedLba", number range.startLba),
    ("requestedBlockCount", number range.sectorCount),
    ("retryOrdinal", number 0)]

/-- The request of the one read there is. -/
def DvdSourceReadRange.request (range : DvdSourceReadRange) : ReadRequest :=
  ⟨range.startLba, range.sectorCount, 0⟩

def runSourceRead (range : DvdSourceReadRange) (read : TransportRead range.sectorCount) :
    SourceReadExit :=
  match read with
  | .success blocks bytes _ _ _ =>
    if blocks = range.sectorCount then .success bytes else .readFailure (shortReadFailure range)
  | .ended => .readFailure (shortReadFailure range)
  | .failure io =>
    let failure := classifyReadFailure (readScopeEnd range.request io)
    if failure.status = .mediumError ∨ backendReadHasTerminalFailureResult failure.status then
      .readFailure (emitReadFailureResult failure none
        (range.acceptedEndLbaExclusive * DVD_SECTOR_SIZE_BYTES) 0)
    else .failed
  | .fatal => .failed

/-- The reader's source read command: the range is checked before the drive is opened. -/
def readerExit (command : SourceReadCommand) (range : DvdSourceReadRange)
    (read : TransportRead range.sectorCount) : SourceReadExit :=
  if range.AcceptedByReader command then runSourceRead range read else .failed

def VERIFICATION_READ_FAILURE_MALFORMED : String :=
  "DVD Disc Verification read failure result is malformed"
def SOURCE_READ_INVALID : String := "is invalid"
def SHORT_SOURCE_READ : String := "helper returned a short read"
def SOURCE_READ_FAILED : String := "helper failed"

def VERIFICATION_FAILURE_KEYS : List String :=
  ["asc", "ascq", "category", "classifierVersion", "driverStatus", "hostStatus",
    "informationLba", "protocolVersion", "requestedBlockCount", "requestedLba", "retryOrdinal",
    "scsiStatus", "senseKey", "senseResponseCode"]

def parseDvdVerificationReadFailureProtocol (candidate : Json) (range : DvdSourceReadRange) :
    Except String DvdDiscVerificationDiagnostic :=
  if isString (candidate.get "category") "out_of_range" then do
    let { readFailure, .. } ← parseDvdReadFailureTerminalResultProtocol candidate
      (range.acceptedEndLbaExclusive * DVD_SECTOR_SIZE_BYTES)
    rejectIf (readFailure.requestedLba ≠ range.startLba ∨
      readFailure.requestedBlockCount ≠ range.sectorCount ∨ readFailure.retryOrdinal ≠ 0)
      VERIFICATION_READ_FAILURE_MALFORMED
    return { readFailure with
      category := .ofArchive readFailure.category
      classifierVersion := DVD_READ_FAILURE_CLASSIFIER_VERSION }
  else do
    rejectIf (candidate.keys.insertionSort (· ≤ ·) ≠ VERIFICATION_FAILURE_KEYS ∨
      ¬isNumber (candidate.get "protocolVersion") 1 ∨
      ¬isString (candidate.get "classifierVersion") DVD_READ_FAILURE_CLASSIFIER_VERSION ∨
      ¬isNumber (candidate.get "requestedLba") range.startLba ∨
      ¬isNumber (candidate.get "requestedBlockCount") range.sectorCount ∨
      ¬isNumber (candidate.get "retryOrdinal") 0) VERIFICATION_READ_FAILURE_MALFORMED
    withError (fun _ => VERIFICATION_READ_FAILURE_MALFORMED)
      (normalizeDvdDiscVerificationDiagnostic candidate range.startLba range.sectorCount
        .readFailureProtocol)

inductive DvdSourceRead where
  | readable (bytes : List UInt8)
  | unreadable (diagnostic : DvdDiscVerificationDiagnostic)
  deriving DecidableEq

/-- What the worker makes of the reader's exit. -/
def sourceReadResult (range : DvdSourceReadRange) : SourceReadExit → Except String DvdSourceRead
  | .success stdout => do
    rejectIf (stdout.length ≠ range.sectorCount * DVD_SECTOR_SIZE_BYTES) SHORT_SOURCE_READ
    return .readable stdout
  | .readFailure line => do
    let diagnostic ← parseDvdVerificationReadFailureProtocol line range
    return .unreadable diagnostic
  | .failed => .error SOURCE_READ_FAILED

/-- `createNodeDvdSourceReader`: start the reader on a range and take its result. -/
def dvdSourceRead (command : SourceReadCommand) (range : DvdSourceReadRange)
    (read : TransportRead range.sectorCount) : Except String DvdSourceRead := do
  rejectIf (¬range.AcceptedByWorker command) SOURCE_READ_INVALID
  sourceReadResult range (readerExit command range read)

/-- The category the reader's classifier gave a failure. -/
def ReadFailure.classifiedCategory (failure : ReadFailure) : DvdDiscVerificationCategory :=
  if failure.status = .mediumError then .mediumError
  else .ofArchive failure.printedCategory

/-- The diagnostic that says what the reader decoded and classified. -/
def ReadFailure.diagnostic (failure : ReadFailure) : DvdDiscVerificationDiagnostic :=
  { failure.evidence with
    category := failure.classifiedCategory
    classifierVersion := DVD_READ_FAILURE_CLASSIFIER_VERSION }

/-- The diagnostic of a read that ended without a completion. -/
def shortReadDiagnostic : DvdDiscVerificationDiagnostic where
  scsiStatus := none
  hostStatus := none
  driverStatus := none
  senseKey := none
  asc := none
  ascq := none
  category := .unknown
  classifierVersion := DVD_READ_FAILURE_CLASSIFIER_VERSION
  senseResponseCode := none
  informationLba := none

end RipDvd
