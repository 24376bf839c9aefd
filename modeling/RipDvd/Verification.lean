import RipDvd.FailureProtocol
import RipDvd.Manifest

namespace RipDvd
set_option autoImplicit true

open Json

def DVD_DISC_VERIFICATION_POLICY_VERSION : String := "dvd-disc-verification-v1"
def DVD_SOURCE_SAMPLE_BYTE_REPRESENTATION : String := "dvdcss-noflags-raw-sector-v1"
def DVD_SOURCE_SAMPLE_BAND_COUNT : Nat := 16
def DVD_SOURCE_SAMPLE_SECTOR_COUNT : Nat := 32

inductive DvdDiscVerificationCategory where
  | unknown
  | mediumError
  | notReady
  | unitAttention
  | hardwareError
  | transportError
  | protectionError
  | outOfRange
  deriving DecidableEq

namespace DvdDiscVerificationCategory

def value : DvdDiscVerificationCategory → String
  | unknown => "unknown"
  | mediumError => "medium_error"
  | notReady => "not_ready"
  | unitAttention => "unit_attention"
  | hardwareError => "hardware_error"
  | transportError => "transport_error"
  | protectionError => "protection_error"
  | outOfRange => "out_of_range"

/-- The archive's categories are categories of a diagnostic. -/
def ofArchive : ArchiveReadFailureCategory → DvdDiscVerificationCategory
  | .unknown => unknown
  | .notReady => notReady
  | .unitAttention => unitAttention
  | .hardwareError => hardwareError
  | .transportError => transportError
  | .protectionError => protectionError
  | .outOfRange => outOfRange

end DvdDiscVerificationCategory

def DVD_DISC_VERIFICATION_DIAGNOSTIC_CATEGORIES : List DvdDiscVerificationCategory :=
  [.unknown, .mediumError, .notReady, .unitAttention, .hardwareError, .transportError,
    .protectionError, .outOfRange]

structure DvdDiscVerificationDiagnostic extends ArchiveReadFailureScsiEvidence where
  category : DvdDiscVerificationCategory
  classifierVersion : String
  senseResponseCode : Option Nat
  informationLba : Option Nat
  deriving DecidableEq

def DIAGNOSTIC_INVALID : String := "DVD Disc Verification diagnostic is invalid"
def DIAGNOSTIC_CATEGORY_INVALID : String := "DVD Disc Verification diagnostic category is invalid"

namespace DvdDiscVerificationDiagnostic

/-- The diagnostic as the object it is stored as. -/
def json (diagnostic : DvdDiscVerificationDiagnostic) : Json :=
  .object [
    ("category", string diagnostic.category.value),
    ("classifierVersion", string diagnostic.classifierVersion),
    ("scsiStatus", formatOptional diagnostic.scsiStatus),
    ("hostStatus", formatOptional diagnostic.hostStatus),
    ("driverStatus", formatOptional diagnostic.driverStatus),
    ("senseResponseCode", formatOptional diagnostic.senseResponseCode),
    ("senseKey", formatOptional diagnostic.senseKey),
    ("asc", formatOptional diagnostic.asc),
    ("ascq", formatOptional diagnostic.ascq),
    ("informationLba", formatOptional diagnostic.informationLba)]

/-- The fields of a diagnostic, each within its own bounds. -/
def read (candidate : Json) : Option DvdDiscVerificationDiagnostic := do
  let category ← DVD_DISC_VERIFICATION_DIAGNOSTIC_CATEGORIES.find? fun category =>
    isString (candidate.get "category") category.value
  let classifierVersion ← stringValue (candidate.get "classifierVersion")
  if classifierVersion.length = 0 ∨ 128 < classifierVersion.length then none
  else
    let scsiStatus ← optionalBoundedInteger (candidate.get "scsiStatus") 0xff
    let hostStatus ← optionalBoundedInteger (candidate.get "hostStatus") 0xffff
    let driverStatus ← optionalBoundedInteger (candidate.get "driverStatus") 0xffff
    let senseResponseCode ← optionalBoundedInteger (candidate.get "senseResponseCode") 0xff
    let senseKey ← optionalBoundedInteger (candidate.get "senseKey") 0x0f
    let asc ← optionalBoundedInteger (candidate.get "asc") 0xff
    let ascq ← optionalBoundedInteger (candidate.get "ascq") 0xff
    let informationLba ← optionalBoundedInteger (candidate.get "informationLba") maxSafeInteger
    return {
      toArchiveReadFailureScsiEvidence :=
        ⟨scsiStatus, hostStatus, driverStatus, senseKey, asc, ascq⟩
      category
      classifierVersion
      senseResponseCode
      informationLba }

/-- What the fields must be to each other and to the sectors asked for. -/
def Coherent (diagnostic : DvdDiscVerificationDiagnostic) (startLba sectorCount : Nat) : Prop :=
  diagnostic.StatusesTogether ∧
    (diagnostic.senseResponseCode = none → diagnostic.senseKey = none ∧ diagnostic.asc = none ∧
      diagnostic.ascq = none ∧ diagnostic.informationLba = none) ∧
    (∀ code ∈ diagnostic.senseResponseCode,
      code = 0x70 ∨ code = 0x71 ∨ code = 0x72 ∨ code = 0x73) ∧
    (diagnostic.asc = none ↔ diagnostic.ascq = none) ∧
    ∀ lba ∈ diagnostic.informationLba, startLba ≤ lba ∧ lba < startLba + sectorCount

instance (diagnostic : DvdDiscVerificationDiagnostic) :
    Decidable (diagnostic.Coherent startLba sectorCount) :=
  inferInstanceAs (Decidable (_ ∧ _))

def currentSense (diagnostic : DvdDiscVerificationDiagnostic) : Bool :=
  diagnostic.senseResponseCode = some 0x70 || diagnostic.senseResponseCode = some 0x72

def normalizedCategory (diagnostic : DvdDiscVerificationDiagnostic) :
    DvdDiscVerificationCategory :=
  let classification :=
    classifyArchiveReadFailureEvidence diagnostic.toArchiveReadFailureScsiEvidence
  if diagnostic.currentSense ∧ isArchiveReadFailureEvidenceConsistent .outOfRange
      diagnostic.toArchiveReadFailureScsiEvidence then .outOfRange
  else if classification = .category .transportError then .transportError
  else if diagnostic.currentSense then
    match classification with
    | .recognizedMediumError => .mediumError
    | .category category => .ofArchive category
  else .unknown

end DvdDiscVerificationDiagnostic

inductive CategoryEncoding where
  | normalized
  | readFailureProtocol
  deriving DecidableEq

def normalizeDvdDiscVerificationDiagnostic (candidate : Json) (startLba sectorCount : Nat)
    (categoryEncoding : CategoryEncoding) : Except String DvdDiscVerificationDiagnostic := do
  let diagnostic ← orThrow DIAGNOSTIC_INVALID (DvdDiscVerificationDiagnostic.read candidate)
  rejectIf (¬diagnostic.Coherent startLba sectorCount) DIAGNOSTIC_INVALID
  let normalizedCategory := diagnostic.normalizedCategory
  let encodedCategory :=
    if categoryEncoding = .readFailureProtocol ∧ normalizedCategory = .mediumError then .unknown
    else normalizedCategory
  rejectIf (diagnostic.category ≠ encodedCategory ∨
    (categoryEncoding = .readFailureProtocol ∧ normalizedCategory = .outOfRange))
    DIAGNOSTIC_CATEGORY_INVALID
  return { diagnostic with category := normalizedCategory }

inductive DvdDiscVerificationSampleOutcome where
  | matches
  | mismatch
  | unreadable
  deriving DecidableEq

/-- A finding as it is stored. -/
structure DvdDiscVerificationSampleFinding where
  bandIndex : Nat
  startLba : Nat
  sectorCount : Nat
  outcome : DvdDiscVerificationSampleOutcome
  referenceDigest : Digest
  observedDigest : Option Digest
  diagnostic : Option Json

def FINDINGS_REQUIRE_MANIFEST : String := "DVD Disc Verification findings require a source manifest"
def FINDINGS_INVALID : String := "DVD Disc Verification findings are invalid"
def FINDING_UNMATCHED : String :=
  "DVD Disc Verification finding does not match its source reference"
def UNREADABLE_FINDING_INVALID : String := "DVD Disc Verification unreadable finding is invalid"
def READABLE_FINDING_INVALID : String := "DVD Disc Verification readable finding is invalid"
def OBSERVED_DIGEST_INVALID : String :=
  "DVD Disc Verification observed sample digest must be a lowercase SHA-256 digest"

/-- A finding against the reference in its place. -/
def validateFinding (reference : Option DvdSourceSampleReference)
    (finding : DvdDiscVerificationSampleFinding) : Except String Unit := do
  let reference ← orThrow FINDING_UNMATCHED reference
  rejectIf (finding.bandIndex ≠ reference.bandIndex ∨ finding.startLba ≠ reference.startLba ∨
    finding.sectorCount ≠ reference.sectorCount ∨ finding.referenceDigest ≠ reference.digest)
    FINDING_UNMATCHED
  if finding.outcome = .unreadable then
    rejectIf (finding.observedDigest ≠ none) UNREADABLE_FINDING_INVALID
    let diagnostic ← orThrow UNREADABLE_FINDING_INVALID finding.diagnostic
    let _ ← normalizeDvdDiscVerificationDiagnostic diagnostic finding.startLba finding.sectorCount
      .normalized
    return ()
  else
    let observedDigest ← orThrow OBSERVED_DIGEST_INVALID finding.observedDigest
    rejectIf (finding.diagnostic.isSome = true ∨
      ¬(observedDigest = finding.referenceDigest ↔ finding.outcome = .matches))
      READABLE_FINDING_INVALID

def validateDvdDiscVerificationFindings (manifest : Option DvdSourceSampleManifest)
    (findings : List DvdDiscVerificationSampleFinding) : Except String Unit :=
  match manifest with
  | none => rejectIf (findings.length ≠ 0) FINDINGS_REQUIRE_MANIFEST
  | some manifest => do
    rejectIf (manifest.samples.length < findings.length) FINDINGS_INVALID
    findings.zipIdx.forM fun (finding, index) => validateFinding manifest.samples[index]? finding

end RipDvd
