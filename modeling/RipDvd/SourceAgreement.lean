import RipDvd.CopyResults
import RipDvd.SourceRead

namespace RipDvd
set_option autoImplicit true

open Json

namespace ScsiCompletion

/-- Sense data with a response code that no sense format has. -/
def UnknownResponse (c : ScsiCompletion) : Prop :=
  c.SenseWhole ∧ ¬(c.responseByte = 0x70 ∨ c.responseByte = 0x71 ∨ c.responseByte = 0x72 ∨
    c.responseByte = 0x73)

/-- The target itself ended the command with a check condition. -/
def TargetCheckCondition (c : ScsiCompletion) : Prop :=
  c.captured = true ∧ c.scsiStatus &&& 0xfe = 0x02 ∧ c.hostStatus = 0 ∧
    (c.driverStatus &&& 0x0f = 0 ∨ c.driverStatus &&& 0x0f = 0x08)

/-- The sense data is about this command and holds this key, ASC and ASCQ. -/
def CurrentCondition (c : ScsiCompletion) (key asc ascq : UInt8) : Prop :=
  (c.responseByte = 0x70 ∧ 14 ≤ c.usableLength ∧ c.byte 2 &&& 0x0f = key ∧ c.byte 12 = asc ∧
      c.byte 13 = ascq) ∨
    (c.byte 0 = 0x72 ∧ 4 ≤ c.sense.length ∧ c.byte 1 &&& 0x0f = key ∧ c.byte 2 = asc ∧
      c.byte 3 = ascq)

/-- The requested sector that the sense data names, if it names one. -/
def namedSector (c : ScsiCompletion) : Option Nat :=
  if c.FixedFormat then
    if c.byte 0 &&& 0x80 ≠ 0 then
      informationLbaInRequest c (readBigEndian ((c.sense.drop 3).take 4)) else none
  else if c.sense.length < 8 then none
  else
    let walk := walkDescriptors c ((c.sense.take c.usableLength).drop 8) {
      seen := false
      valid := 8 + (c.byte 7).toNat ≤ c.sense.length
      informationLba := none }
    if walk.valid then walk.informationLba else none

/-- An address out of range, without the address. -/
def OutOfRangeUnlocated (c : ScsiCompletion) : Prop :=
  c.SenseWhole ∧ c.TargetCheckCondition ∧ c.CurrentCondition 0x05 0x21 0x00 ∧
    c.namedSector = none

end ScsiCompletion

theorem decodeSense_responseCode (c : ScsiCompletion) : (decodeSense c).responseCode =
    if c.SenseWhole then some c.responseByte else none := by
  rw [decodeSense]
  by_cases hwhole : c.SenseWhole
  · rw [if_neg (not_not.2 hwhole), if_pos hwhole]
    by_cases hfixed : c.FixedFormat
    · rw [if_pos hfixed, decodeFixedSense]
      split <;> rfl
    · rw [if_neg hfixed]
      by_cases hdescriptor : c.DescriptorFormat
      · rw [if_neg (not_not.2 hdescriptor), decodeDescriptorSense]
        split
        · rfl
        · simp only
          split <;> rfl
      · rw [if_pos hdescriptor]
  · rw [if_pos hwhole, if_neg hwhole]

theorem responseByte_descriptor {c : ScsiCompletion} (h : c.byte 0 = 0x72) :
    c.responseByte = 0x72 ∧ ¬c.FixedFormat := by
  have hresponse : c.responseByte = 0x72 := by
    rw [ScsiCompletion.responseByte, h]
    rfl
  rw [ScsiCompletion.FixedFormat, hresponse]
  exact ⟨rfl, by decide⟩

/-- The decoder finds a current record with this key, ASC and ASCQ. -/
def DecodedSense.Current (sense : DecodedSense) (key asc ascq : UInt8) : Prop :=
  sense.recognizedFormat = true ∧
    (sense.responseCode = some 0x70 ∨ sense.responseCode = some 0x72) ∧
    sense.senseKey = some key ∧ sense.asc = some asc ∧ sense.ascq = some ascq

theorem decodeFixedSense_current {c : ScsiCompletion} {key asc ascq : UInt8}
    (hfixed : c.FixedFormat) : (decodeFixedSense c).Current key asc ascq ↔
      c.CurrentCondition key asc ascq := by
  have hnot : ¬c.byte 0 = 0x72 := fun h => (responseByte_descriptor h).2 hfixed
  have hnot72 : c.responseByte ≠ 0x72 := by
    cases hfixed with
    | inl h => rw [h]; decide
    | inr h => rw [h]; decide
  have hlength : c.usableLength ≤ c.sense.length := Nat.min_le_left _ _
  rw [decodeFixedSense]
  split
  next hshort =>
    have hcut : ¬14 ≤ c.usableLength := by omega
    simp [DecodedSense.Current, ScsiCompletion.CurrentCondition, hnot, hcut]
  next hlong =>
    have hkey : 14 ≤ c.usableLength → 3 ≤ c.sense.length := by omega
    have hasc : 14 ≤ c.usableLength → 13 ≤ c.usableLength := by omega
    simp only [DecodedSense.Current, ScsiCompletion.CurrentCondition, hnot]
    by_cases hwhole : 14 ≤ c.usableLength
    · simp [hwhole, hkey hwhole, hasc hwhole, hnot72]
    · simp [hwhole]

theorem decodeDescriptorSense_current {c : ScsiCompletion} {key asc ascq : UInt8}
    (hfixed : ¬c.FixedFormat) (hdescriptor : c.DescriptorFormat) :
    (decodeDescriptorSense c).Current key asc ascq ↔ c.CurrentCondition key asc ascq := by
  have hnot70 : c.responseByte ≠ 0x70 := fun h => hfixed (.inl h)
  have hresponse : c.responseByte = 0x72 ↔ c.byte 0 = 0x72 := by
    cases hdescriptor with
    | inl h => simp [(responseByte_descriptor h).1, h]
    | inr h => rw [ScsiCompletion.responseByte, h]; decide
  rw [decodeDescriptorSense]
  split
  next hshort =>
    have hcut : ¬4 ≤ c.sense.length := by omega
    simp [DecodedSense.Current, ScsiCompletion.CurrentCondition, hnot70, hcut]
  next hlong =>
    have hwhole : 4 ≤ c.sense.length := by omega
    simp only
    split <;> simp [DecodedSense.Current, ScsiCompletion.CurrentCondition, hnot70,
      hresponse, hwhole]

theorem decodeSense_current {c : ScsiCompletion} {key asc ascq : UInt8} :
    (decodeSense c).Current key asc ascq ↔ c.SenseWhole ∧ c.CurrentCondition key asc ascq := by
  rw [decodeSense]
  by_cases hwhole : c.SenseWhole
  · rw [if_neg (not_not.2 hwhole)]
    by_cases hfixed : c.FixedFormat
    · rw [if_pos hfixed, decodeFixedSense_current hfixed]
      exact ⟨fun h => ⟨hwhole, h⟩, fun h => h.2⟩
    · rw [if_neg hfixed]
      by_cases hdescriptor : c.DescriptorFormat
      · rw [if_neg (not_not.2 hdescriptor), decodeDescriptorSense_current hfixed hdescriptor]
        exact ⟨fun h => ⟨hwhole, h⟩, fun h => h.2⟩
      · rw [if_pos hdescriptor]
        constructor
        · intro h
          cases h.1
        · intro h
          cases h.2 with
          | inl hcondition => exact absurd (.inl hcondition.1) hfixed
          | inr hcondition => exact absurd (.inl hcondition.1) hdescriptor
  · rw [if_pos hwhole]
    constructor
    · intro h
      cases h.1
    · intro h
      exact absurd h.1 hwhole

/-- The information of a current record is the requested sector it names. -/
theorem decodeSense_informationLba {c : ScsiCompletion} {key asc ascq : UInt8}
    (hwhole : c.SenseWhole) (h : c.CurrentCondition key asc ascq) :
    (decodeSense c).informationLba = c.namedSector := by
  rw [decodeSense, if_neg (not_not.2 hwhole), ScsiCompletion.namedSector]
  cases h with
  | inl hcondition =>
    have hfixed : c.FixedFormat := .inl hcondition.1
    have hlength : c.usableLength ≤ c.sense.length := Nat.min_le_left _ _
    have hlong : ¬c.sense.length < 8 := by
      have hbound := hcondition.2.1
      omega
    rw [if_pos hfixed, if_pos hfixed, decodeFixedSense, if_neg hlong]
  | inr hcondition =>
    have hfixed := (responseByte_descriptor hcondition.1).2
    have hdescriptor : c.DescriptorFormat := .inl hcondition.1
    have hlong : ¬c.sense.length < 4 := by
      have hbound := hcondition.2.1
      omega
    rw [if_neg hfixed, if_neg hfixed, if_neg (not_not.2 hdescriptor), decodeDescriptorSense,
      if_neg hlong]
    simp only
    split <;> rfl

/-- A check condition of the command itself, with everything the classifier asks for. -/
theorem hasCurrentCheckConditionSense_iff {c : ScsiCompletion} {key asc ascq : UInt8}
    (hcommand : c.captured = c.commandCompleted) :
    (hasCurrentCheckConditionSense c (decodeSense c) = true ∧
      (decodeSense c).senseKey = some key ∧ (decodeSense c).asc = some asc ∧
      (decodeSense c).ascq = some ascq) ↔
      c.TargetCheckCondition ∧ (decodeSense c).Current key asc ascq := by
  simp only [hasCurrentCheckConditionSense, hasCheckConditionSense, ← hcommand, Bool.and_eq_true,
    Bool.or_eq_true, decide_eq_true_eq, ScsiCompletion.TargetCheckCondition, DecodedSense.Current]
  constructor
  · rintro ⟨⟨⟨⟨⟨⟨⟨⟨⟨⟨hcaptured, _⟩, hrecognized⟩, hscsi⟩, hhost⟩, hdriver⟩, _⟩, _⟩, _⟩, hresponse⟩,
      hkey, hasc, hascq⟩
    exact ⟨⟨hcaptured, hscsi, hhost, hdriver⟩, hrecognized, hresponse, hkey, hasc, hascq⟩
  · rintro ⟨⟨hcaptured, hscsi, hhost, hdriver⟩, hrecognized, hresponse, hkey, hasc, hascq⟩
    simp [hcaptured, hscsi, hhost, hdriver, hrecognized, hresponse, hkey, hasc, hascq]

/-- The archive sees an address out of range without the address just where the record is so. -/
theorem outOfRangeUnlocated_iff {c : ScsiCompletion} (hcommand : c.captured = c.commandCompleted) :
    (outOfRangeEvidence (classifyReadFailure c).evidence = true ∧
      (decodeSense c).informationLba = none) ↔ c.OutOfRangeUnlocated := by
  rw [outOfRangeEvidence_evidence hcommand, hasCurrentCheckConditionSense_iff hcommand,
    decodeSense_current, ScsiCompletion.OutOfRangeUnlocated]
  constructor
  · rintro ⟨⟨htarget, hwhole, hcondition⟩, hnone⟩
    rw [decodeSense_informationLba hwhole hcondition] at hnone
    exact ⟨hwhole, htarget, hcondition, hnone⟩
  · rintro ⟨hwhole, htarget, hcondition, hnone⟩
    rw [← decodeSense_informationLba hwhole hcondition] at hnone
    exact ⟨⟨htarget, hwhole, hcondition⟩, hnone⟩

namespace DvdDiscVerificationDiagnostic

/-- An object with a diagnostic's fields. -/
structure ShownBy (diagnostic : DvdDiscVerificationDiagnostic) (candidate : Json) : Prop where
  category : candidate.get "category" = some (string diagnostic.category.value)
  classifierVersion :
    candidate.get "classifierVersion" = some (string diagnostic.classifierVersion)
  scsiStatus : candidate.get "scsiStatus" = some (formatOptional diagnostic.scsiStatus)
  hostStatus : candidate.get "hostStatus" = some (formatOptional diagnostic.hostStatus)
  driverStatus : candidate.get "driverStatus" = some (formatOptional diagnostic.driverStatus)
  senseResponseCode :
    candidate.get "senseResponseCode" = some (formatOptional diagnostic.senseResponseCode)
  senseKey : candidate.get "senseKey" = some (formatOptional diagnostic.senseKey)
  asc : candidate.get "asc" = some (formatOptional diagnostic.asc)
  ascq : candidate.get "ascq" = some (formatOptional diagnostic.ascq)
  informationLba :
    candidate.get "informationLba" = some (formatOptional diagnostic.informationLba)

/-- Fields within the bounds of their checks. -/
structure Bounded (diagnostic : DvdDiscVerificationDiagnostic) : Prop where
  classifierVersion : 0 < diagnostic.classifierVersion.length ∧
    diagnostic.classifierVersion.length ≤ 128
  scsiStatus : ∀ n ∈ diagnostic.scsiStatus, n ≤ 0xff
  hostStatus : ∀ n ∈ diagnostic.hostStatus, n ≤ 0xffff
  driverStatus : ∀ n ∈ diagnostic.driverStatus, n ≤ 0xffff
  senseResponseCode : ∀ n ∈ diagnostic.senseResponseCode, n ≤ 0xff
  senseKey : ∀ n ∈ diagnostic.senseKey, n ≤ 0x0f
  asc : ∀ n ∈ diagnostic.asc, n ≤ 0xff
  ascq : ∀ n ∈ diagnostic.ascq, n ≤ 0xff
  informationLba : ∀ n ∈ diagnostic.informationLba, n ≤ maxSafeInteger

variable {diagnostic : DvdDiscVerificationDiagnostic} {candidate : Json}

theorem json_shown : diagnostic.ShownBy diagnostic.json := by
  constructor <;> rfl

theorem find_category (category : DvdDiscVerificationCategory) :
    (DVD_DISC_VERIFICATION_DIAGNOSTIC_CATEGORIES.find? fun other =>
      isString (some (string category.value)) other.value) = some category := by
  cases category <;> rfl

theorem ShownBy.read (h : diagnostic.ShownBy candidate) (hb : diagnostic.Bounded) :
    read candidate = some diagnostic := by
  have hversion : ¬(diagnostic.classifierVersion.length = 0 ∨
      128 < diagnostic.classifierVersion.length) := by
    have hlength := hb.classifierVersion
    omega
  have h1 := optionalBoundedInteger_formatOptional (by decide) hb.scsiStatus
  have h2 := optionalBoundedInteger_formatOptional (by decide) hb.hostStatus
  have h3 := optionalBoundedInteger_formatOptional (by decide) hb.driverStatus
  have h4 := optionalBoundedInteger_formatOptional (by decide) hb.senseResponseCode
  have h5 := optionalBoundedInteger_formatOptional (by decide) hb.senseKey
  have h6 := optionalBoundedInteger_formatOptional (by decide) hb.asc
  have h7 := optionalBoundedInteger_formatOptional (by decide) hb.ascq
  have h8 := optionalBoundedInteger_formatOptional le_rfl hb.informationLba
  simp only [DvdDiscVerificationDiagnostic.read, h.category, find_category, h.classifierVersion,
    stringValue, h.scsiStatus, h.hostStatus, h.driverStatus, h.senseResponseCode, h.senseKey,
    h.asc, h.ascq, h.informationLba, h1, h2, h3, h4, h5, h6, h7, h8, if_neg hversion,
    Option.bind_eq_bind, Option.bind_some]
  rfl

/-- A shown diagnostic is normalised when it is coherent and names its own category. -/
theorem ShownBy.normalize_ok_iff {result : DvdDiscVerificationDiagnostic}
    (h : diagnostic.ShownBy candidate) (hb : diagnostic.Bounded) :
    normalizeDvdDiscVerificationDiagnostic candidate startLba sectorCount encoding = .ok result ↔
      diagnostic.Coherent startLba sectorCount ∧
        diagnostic.category = (if encoding = .readFailureProtocol ∧
          diagnostic.normalizedCategory = .mediumError then .unknown
          else diagnostic.normalizedCategory) ∧
        ¬(encoding = .readFailureProtocol ∧ diagnostic.normalizedCategory = .outOfRange) ∧
        result = { diagnostic with category := diagnostic.normalizedCategory } := by
  simp only [normalizeDvdDiscVerificationDiagnostic, h.read hb, orThrow, bind_ok, rejectIf_ok,
    pure_ok, not_not, not_or, ne_eq]
  constructor
  · rintro ⟨_, hread, _, hcoherent, _, ⟨hcategory, hplain⟩, hresult⟩
    cases hread
    exact ⟨hcoherent, hcategory, hplain, hresult.symm⟩
  · rintro ⟨hcoherent, hcategory, hplain, hresult⟩
    exact ⟨diagnostic, rfl, (), hcoherent, (), ⟨hcategory, hplain⟩, hresult.symm⟩

end DvdDiscVerificationDiagnostic

/-- A failure's evidence under a category. -/
def ReadFailure.diagnosticAs (failure : ReadFailure) (category : DvdDiscVerificationCategory) :
    DvdDiscVerificationDiagnostic :=
  { failure.evidence with
    category
    classifierVersion := DVD_READ_FAILURE_CLASSIFIER_VERSION }

section

variable {failure : ReadFailure} {range : DvdSourceReadRange}

theorem ofArchive_archived_value (category : ReadFailureCategory) :
    (DvdDiscVerificationCategory.ofArchive category.archived).value = category.name := by
  cases category <;> rfl

theorem line_shown : (failure.diagnosticAs (.ofArchive failure.category.archived)).ShownBy
    (.object (readFailureFields failure 1 failure.category.name)) := by
  constructor
  case category => rw [ReadFailure.diagnosticAs, ofArchive_archived_value]; rfl
  all_goals rfl

theorem diagnosticAs_bounded (h : failure.evidence.Printable) :
    (failure.diagnosticAs category).Bounded := by
  have hversion : 0 < DVD_READ_FAILURE_CLASSIFIER_VERSION.length ∧
      DVD_READ_FAILURE_CLASSIFIER_VERSION.length ≤ 128 := by decide +kernel
  exact ⟨hversion, h.scsiStatus, h.hostStatus, h.driverStatus, h.senseResponseCode, h.senseKey,
    h.asc, h.ascq, h.informationLba⟩

/-- The archive's two ways to normalise a category differ for an address out of range only. -/
theorem diagnosticAs_normalizedCategory :
    (failure.diagnosticAs category).normalizedCategory =
      if outOfRangeEvidence failure.evidence then .outOfRange
      else match normalizedReadFailureCategory failure.evidence with
        | .recognizedMediumError => .mediumError
        | .category category => .ofArchive category := by
  have hcurrent : (failure.diagnosticAs category).currentSense = failure.evidence.currentSense :=
    rfl
  have hsame : (failure.diagnosticAs category).toArchiveReadFailureScsiEvidence =
      failure.evidence.toArchiveReadFailureScsiEvidence := rfl
  simp only [DvdDiscVerificationDiagnostic.normalizedCategory, hcurrent, hsame, outOfRangeEvidence,
    Bool.and_eq_true, normalizedReadFailureCategory,
      and_comm (a := failure.evidence.currentSense = true)]
  split
  · rfl
  · split
    next htransport => rw [htransport]; rfl
    · split <;> rfl

/-- The response code is one of the four, unless the sense data has none of them. -/
theorem responseCode_known_iff {c : ScsiCompletion} :
    (∀ code ∈ (decodeSense c).responseCode.map UInt8.toNat,
      code = 0x70 ∨ code = 0x71 ∨ code = 0x72 ∨ code = 0x73) ↔ ¬c.UnknownResponse := by
  have hsame : ∀ code : UInt8, (code.toNat = 0x70 ∨ code.toNat = 0x71 ∨ code.toNat = 0x72 ∨
      code.toNat = 0x73) ↔ (code = 0x70 ∨ code = 0x71 ∨ code = 0x72 ∨ code = 0x73) := by
    intro code
    simp only [← UInt8.toNat_inj]
    rfl
  rw [decodeSense_responseCode, ScsiCompletion.UnknownResponse]
  by_cases hwhole : c.SenseWhole
  · rw [if_pos hwhole]
    simp only [hwhole, true_and, not_not, Option.map_some, Option.mem_some_iff, forall_eq', hsame]
  · simp [hwhole]

theorem diagnosticAs_coherent (c : ScsiCompletion) :
    ((classifyReadFailure c).diagnosticAs category).Coherent c.requestedLba c.requestedBlockCount ↔
      ¬c.UnknownResponse ∧ ¬c.CutAfterAsc := by
  have hstatuses := classifyReadFailure_statusesTogether c
  have hsense := classifyReadFailure_senseTogether c
  have hinformation := (decodeSense_coherent c).information
  rw [← responseCode_known_iff, ← hsense]
  constructor
  · intro h
    exact ⟨h.2.2.1, h.2.1, h.2.2.2.1⟩
  · intro h
    exact ⟨hstatuses, h.2.1, h.1, h.2.2, hinformation⟩

/-- A line without a boundary reaches the normaliser. -/
theorem parse_line {result : DvdDiscVerificationDiagnostic}
    (hrequest : failure.completion.toReadRequest = range.request) :
    parseDvdVerificationReadFailureProtocol
        (.object (readFailureFields failure 1 failure.category.name)) range = .ok result ↔
      normalizeDvdDiscVerificationDiagnostic
        (.object (readFailureFields failure 1 failure.category.name)) range.startLba
        range.sectorCount .readFailureProtocol = .ok result := by
  have hcategory : isString ((Json.object (readFailureFields failure 1 failure.category.name)).get
      "category") "out_of_range" = false := by
    cases failure.category <;> rfl
  have hkeys := keys_plain failure failure.category
  have hexpected : expectedReadFailureKeys
      (.object (readFailureFields failure 1 failure.category.name)) =
        VERIFICATION_FAILURE_KEYS := by
    rw [expectedReadFailureKeys, hcategory]
    rfl
  rw [hexpected] at hkeys
  have hcarries := carries_fields failure failure.category.name []
  rw [List.append_nil] at hcarries
  have hlba : failure.evidence.requestedLba = range.startLba :=
    congrArg ReadRequest.requestedLba hrequest
  have hcount : failure.evidence.requestedBlockCount = range.sectorCount :=
    congrArg ReadRequest.requestedBlockCount hrequest
  have hretry : failure.evidence.retryOrdinal = 0 := congrArg ReadRequest.retryOrdinal hrequest
  have hnumbers : ∀ {key value expected}, (Json.object
      (readFailureFields failure 1 failure.category.name)).get key =
        some (number (value : Nat)) → value = expected →
      isNumber ((Json.object (readFailureFields failure 1 failure.category.name)).get key)
        expected = true := by
    intro key value expected hget heq
    rw [hget, isNumber_number, heq, decide_eq_true rfl]
  simp [parseDvdVerificationReadFailureProtocol, hcategory, hkeys, hcarries.version,
    hcarries.classifier, hnumbers hcarries.requestedLba hlba,
    hnumbers hcarries.requestedBlockCount hcount, hnumbers hcarries.retryOrdinal hretry,
    bind_ok, rejectIf_ok, withError_ok]

/-- A normalised diagnostic is the failure's evidence under the category found. -/
theorem line_normalize_ok_iff {result : DvdDiscVerificationDiagnostic} {c : ScsiCompletion}
    (hprintable : (classifyReadFailure c).evidence.Printable)
    (hcategory : ((classifyReadFailure c).diagnosticAs category).normalizedCategory = normal) :
    normalizeDvdDiscVerificationDiagnostic (.object (readFailureFields (classifyReadFailure c) 1
        (classifyReadFailure c).category.name)) c.requestedLba c.requestedBlockCount
        .readFailureProtocol = .ok result ↔
      (¬c.UnknownResponse ∧ ¬c.CutAfterAsc) ∧
        .ofArchive (classifyReadFailure c).category.archived =
          (if normal = .mediumError then .unknown else normal) ∧
        normal ≠ .outOfRange ∧ result = (classifyReadFailure c).diagnosticAs normal := by
  have hnormal : ((classifyReadFailure c).diagnosticAs
      (.ofArchive (classifyReadFailure c).category.archived)).normalizedCategory = normal :=
    hcategory
  rw [line_shown.normalize_ok_iff (diagnosticAs_bounded hprintable), diagnosticAs_coherent,
    hnormal]
  simp only [true_and]
  rfl

/-- What the worker makes of a failure without a boundary. -/
theorem parse_line_ok_iff {c : ScsiCompletion} {result : DvdDiscVerificationDiagnostic}
    (hcommand : c.captured = c.commandCompleted) (hrequest : c.toReadRequest = range.request)
    (hprintable : (classifyReadFailure c).evidence.Printable)
    (hplain : (classifyReadFailure c).status ≠ .outOfRangeError) :
    parseDvdVerificationReadFailureProtocol (.object (readFailureFields (classifyReadFailure c) 1
        (classifyReadFailure c).category.name)) range = .ok result ↔
      (¬c.UnknownResponse ∧ ¬c.CutAfterAsc ∧ ¬c.OutOfRangeUnlocated) ∧
        result = (classifyReadFailure c).diagnostic := by
  have hlba : range.startLba = c.requestedLba := congrArg ReadRequest.requestedLba hrequest.symm
  have hcount : range.sectorCount = c.requestedBlockCount :=
    congrArg ReadRequest.requestedBlockCount hrequest.symm
  have hnormal := fun category => @diagnosticAs_normalizedCategory (classifyReadFailure c) category
  rw [parse_line hrequest, hlba, hcount, ← outOfRangeUnlocated_iff hcommand]
  have hclassified := classifyReadFailure_classified hcommand
  cases hclassified with
  | outOfRange hstatus => exact absurd hstatus hplain
  | medium hstatus hcategory hrecognized hrange =>
    have hdiagnostic : (classifyReadFailure c).diagnostic =
        (classifyReadFailure c).diagnosticAs .mediumError := by
      rw [ReadFailure.diagnostic, ReadFailure.classifiedCategory, if_pos hstatus]
      rfl
    simp only [hrecognized, hrange] at hnormal
    rw [line_normalize_ok_iff hprintable (hnormal .unknown), hdiagnostic, hcategory, hrange]
    constructor
    · rintro ⟨⟨hknown, hcut⟩, _, _, hresult⟩
      exact ⟨⟨hknown, hcut, nofun⟩, hresult⟩
    · rintro ⟨⟨hknown, hcut, _⟩, hresult⟩
      exact ⟨⟨hknown, hcut⟩, rfl, nofun, hresult⟩
  | terminal hstatus hcategory hrange =>
    have hmedium : ¬(classifyReadFailure c).status = .mediumError := by
      rw [hstatus]
      simp
    have hdiagnostic : (classifyReadFailure c).diagnostic =
        (classifyReadFailure c).diagnosticAs
          (.ofArchive (classifyReadFailure c).category.archived) := by
      rw [ReadFailure.diagnostic, ReadFailure.classifiedCategory, if_neg hmedium,
        ReadFailure.printedCategory, if_neg hplain]
      rfl
    simp only [hcategory] at hnormal
    rw [line_normalize_ok_iff hprintable (hnormal .unknown), hdiagnostic]
    by_cases hevidence : outOfRangeEvidence (classifyReadFailure c).evidence = true
    · simp only [hevidence, if_true]
      constructor
      · rintro ⟨_, _, hnot, _⟩
        exact absurd rfl hnot
      · rintro ⟨⟨_, _, hnot⟩, _⟩
        exact absurd ⟨trivial, hrange hevidence⟩ hnot
    · simp only [if_neg hevidence]
      have hnotMedium : DvdDiscVerificationCategory.ofArchive
          (classifyReadFailure c).category.archived ≠ .mediumError := by
        cases (classifyReadFailure c).category <;> exact nofun
      have hnotRange : DvdDiscVerificationCategory.ofArchive
          (classifyReadFailure c).category.archived ≠ .outOfRange := by
        cases (classifyReadFailure c).category <;> exact nofun
      constructor
      · rintro ⟨⟨hknown, hcut⟩, _, _, hresult⟩
        exact ⟨⟨hknown, hcut, fun h => hevidence h.1⟩, hresult⟩
      · rintro ⟨⟨hknown, hcut, _⟩, hresult⟩
        exact ⟨⟨hknown, hcut⟩, (if_neg hnotMedium).symm, hnotRange, hresult⟩

/-- A result with a boundary is always a diagnostic. -/
theorem parse_boundary {c : ScsiCompletion} {declared : Nat}
    (hterminal : TerminalResult (classifyReadFailure c) none declared 0)
    (hdeclared : DeclaredByteCount declared)
    (hend : range.acceptedEndLbaExclusive * DVD_SECTOR_SIZE_BYTES = declared)
    (hrequest : c.toReadRequest = range.request)
    (hstatus : (classifyReadFailure c).status = .outOfRangeError) :
    parseDvdVerificationReadFailureProtocol (emitReadFailureResult (classifyReadFailure c) none
      declared 0) range = .ok (classifyReadFailure c).diagnostic := by
  obtain ⟨result, hparse, hreports⟩ := hterminal.reports_boundary hdeclared hstatus
  have hcategory : isString ((emitReadFailureResult (classifyReadFailure c) none declared 0).get
      "category") "out_of_range" = true := by
    rw [emitReadFailureResult, if_pos hstatus]
    rfl
  have hmedium : ¬(classifyReadFailure c).status = .mediumError := by
    rw [hstatus]
    simp
  have hevidence := hreports.evidence
  have hprinted := hreports.category
  have hlba : (classifyReadFailure c).evidence.requestedLba = range.startLba :=
    congrArg ReadRequest.requestedLba hrequest
  have hcount : (classifyReadFailure c).evidence.requestedBlockCount = range.sectorCount :=
    congrArg ReadRequest.requestedBlockCount hrequest
  have hretry : (classifyReadFailure c).evidence.retryOrdinal = 0 :=
    congrArg ReadRequest.retryOrdinal hrequest
  rw [← hevidence] at hlba hcount hretry
  have hmatches : ¬(result.readFailure.requestedLba ≠ range.startLba ∨
      result.readFailure.requestedBlockCount ≠ range.sectorCount ∨
      result.readFailure.retryOrdinal ≠ 0) := by
    simp [hlba, hcount, hretry]
  have hdiagnostic : (classifyReadFailure c).diagnostic = { result.readFailure with
      category := .ofArchive result.readFailure.category
      classifierVersion := DVD_READ_FAILURE_CLASSIFIER_VERSION } := by
    rw [ReadFailure.diagnostic, ReadFailure.classifiedCategory, if_neg hmedium, ← hprinted,
      ← hevidence]
  rw [parseDvdVerificationReadFailureProtocol, hcategory, if_pos rfl, hend, hparse, hdiagnostic,
    bind_ok]
  refine ⟨result, rfl, ?_⟩
  simp only [bind_ok, rejectIf_ok, pure_ok]
  exact ⟨(), hmatches, trivial⟩

end

/-- The finding of a sample that could not be read. -/
def unreadableFinding (reference : DvdSourceSampleReference)
    (diagnostic : DvdDiscVerificationDiagnostic) : DvdDiscVerificationSampleFinding where
  bandIndex := reference.bandIndex
  startLba := reference.startLba
  sectorCount := reference.sectorCount
  outcome := .unreadable
  referenceDigest := reference.digest
  observedDigest := none
  diagnostic := some diagnostic.json

/-- A diagnostic that is accepted again in the finding it is stored in. -/
def Storable (range : DvdSourceReadRange) (diagnostic : DvdDiscVerificationDiagnostic) : Prop :=
  ∀ manifest findings reference, validateDvdDiscVerificationFindings
    (some manifest) findings = .ok () →
    manifest.samples[findings.length]? = some reference →
    reference.startLba = range.startLba → reference.sectorCount = range.sectorCount →
    validateDvdDiscVerificationFindings (some manifest)
      (findings ++ [unreadableFinding reference diagnostic]) = .ok ()

theorem storable_of_normalized {range : DvdSourceReadRange}
    {diagnostic : DvdDiscVerificationDiagnostic} (hb : diagnostic.Bounded)
    (hcoherent : diagnostic.Coherent range.startLba range.sectorCount)
    (hcategory : diagnostic.category = diagnostic.normalizedCategory) :
    Storable range diagnostic := by
  intro manifest findings reference hvalid hreference hstart hcount
  have hnormalized : normalizeDvdDiscVerificationDiagnostic diagnostic.json reference.startLba
      reference.sectorCount .normalized = .ok diagnostic := by
    rw [hstart, hcount, DvdDiscVerificationDiagnostic.json_shown.normalize_ok_iff hb]
    refine ⟨hcoherent, by simpa using hcategory, by simp, ?_⟩
    rw [← hcategory]
  have hfinding : validateFinding manifest.samples[findings.length]?
      (unreadableFinding reference diagnostic) = .ok () := by
    rw [hreference]
    simp [validateFinding, unreadableFinding, orThrow, rejectIf, hnormalized, Bind.bind,
      Except.bind, Pure.pure, Except.pure]
  have hlength : findings.length < manifest.samples.length :=
    (List.getElem?_eq_some_iff.1 hreference).1
  simp only [validateDvdDiscVerificationFindings, bind_ok, rejectIf_ok, forM_ok] at hvalid ⊢
  obtain ⟨_, _, hall⟩ := hvalid
  refine ⟨(), ?_, ?_⟩
  · rw [List.length_append, List.length_singleton]
    omega
  · intro entry hentry
    rw [List.zipIdx_append, List.mem_append] at hentry
    cases hentry with
    | inl hbefore => exact hall entry hbefore
    | inr hlast =>
      simp only [Nat.zero_add, List.zipIdx_singleton, List.mem_singleton] at hlast
      rw [hlast]
      exact hfinding

theorem shortReadDiagnostic_bounded : shortReadDiagnostic.Bounded := by
  constructor <;> decide +kernel

theorem shortReadDiagnostic_coherent : shortReadDiagnostic.Coherent startLba sectorCount := by
  simp [DvdDiscVerificationDiagnostic.Coherent, shortReadDiagnostic,
    ArchiveReadFailureScsiEvidence.StatusesTogether]

theorem shortReadDiagnostic_storable (range : DvdSourceReadRange) :
    Storable range shortReadDiagnostic :=
  storable_of_normalized shortReadDiagnostic_bounded shortReadDiagnostic_coherent (by decide)

/-- The line of a read without a completion is read back as it was meant. -/
theorem parse_shortReadFailure {range : DvdSourceReadRange} :
    parseDvdVerificationReadFailureProtocol (shortReadFailure range) range =
      .ok shortReadDiagnostic := by
  have hkeys : (shortReadFailure range).keys.insertionSort (· ≤ ·) = VERIFICATION_FAILURE_KEYS := by
    show ["protocolVersion", "classifierVersion", "category", "scsiStatus", "hostStatus",
      "driverStatus", "senseResponseCode", "senseKey", "asc", "ascq", "informationLba",
      "requestedLba", "requestedBlockCount", "retryOrdinal"].insertionSort (· ≤ ·) = _
    decide
  have hshown : shortReadDiagnostic.ShownBy (shortReadFailure range) := by
    constructor <;> rfl
  have hnumbers : isNumber ((shortReadFailure range).get "requestedLba") range.startLba = true ∧
      isNumber ((shortReadFailure range).get "requestedBlockCount") range.sectorCount = true :=
    ⟨decide_eq_true rfl, decide_eq_true rfl⟩
  have hchecked : isString ((shortReadFailure range).get "category") "out_of_range" = false ∧
      isNumber ((shortReadFailure range).get "protocolVersion") 1 = true ∧
      isNumber ((shortReadFailure range).get "retryOrdinal") 0 = true ∧
      isString ((shortReadFailure range).get "classifierVersion")
        DVD_READ_FAILURE_CLASSIFIER_VERSION = true := ⟨rfl, rfl, rfl, rfl⟩
  have hnormalized : normalizeDvdDiscVerificationDiagnostic (shortReadFailure range)
      range.startLba range.sectorCount .readFailureProtocol = .ok shortReadDiagnostic := by
    rw [hshown.normalize_ok_iff shortReadDiagnostic_bounded]
    exact ⟨shortReadDiagnostic_coherent, by decide, by decide, by decide⟩
  simp [parseDvdVerificationReadFailureProtocol, hchecked, hkeys, hnumbers, bind_ok, rejectIf_ok,
    withError_ok, hnormalized]

/-- What the worker should say of a read that did not fill its range. -/
def sourceReadDiagnostic (range : DvdSourceReadRange) :
    TransportRead range.sectorCount → DvdDiscVerificationDiagnostic
  | .failure io => (classifyReadFailure (readScopeEnd range.request io)).diagnostic
  | _ => shortReadDiagnostic

/-- The read filled its range with these bytes. -/
def TransportRead.Whole {requested : Nat} (read : TransportRead requested) (bytes : List UInt8) :
    Prop :=
  ∃ positive bounded length_bytes, read = .success requested bytes positive bounded length_bytes

/-- The worker says of a read what the reader saw of it, and may store what it says. -/
structure SourceReadAgrees (command : SourceReadCommand) (range : DvdSourceReadRange)
    (read : TransportRead range.sectorCount) : Prop where
  readable : ∀ bytes, dvdSourceRead command range read = .ok (.readable bytes) ↔ read.Whole bytes
  unreadable : (¬∃ bytes, read.Whole bytes) → dvdSourceRead command range read =
    .ok (.unreadable (sourceReadDiagnostic range read))
  storable : (¬∃ bytes, read.Whole bytes) → Storable range (sourceReadDiagnostic range read)

/-- Sense data the worker takes: a known format, not cut after its ASC, no lost address. -/
def ScsiCompletion.Taken (c : ScsiCompletion) : Prop :=
  ¬c.UnknownResponse ∧ ¬c.CutAfterAsc ∧ ¬c.OutOfRangeUnlocated

theorem ScsiCompletion.CurrentCondition.known {c : ScsiCompletion} {key asc ascq : UInt8}
    (h : c.CurrentCondition key asc ascq) : ¬c.UnknownResponse := by
  intro hunknown
  apply hunknown.2
  cases h with
  | inl hcondition => exact .inl hcondition.1
  | inr hcondition => exact .inr (.inr (.inl (responseByte_descriptor hcondition.1).1))

theorem ReadFailure.diagnostic_eq (failure : ReadFailure) :
    failure.diagnostic = failure.diagnosticAs failure.classifiedCategory := rfl

section

variable {c : ScsiCompletion}

/-- An address out of range with the address is taken. -/
theorem taken_of_outOfRange (hcommand : c.captured = c.commandCompleted)
    (hstatus : (classifyReadFailure c).status = .outOfRangeError)
    (hcut : ¬c.CutAfterAsc) : c.Taken := by
  have hclassified := classifyReadFailure_classified hcommand
  cases hclassified with
  | terminal hother => exact absurd (hstatus.symm.trans hother) (by simp)
  | medium hother => exact absurd (hstatus.symm.trans hother) (by simp)
  | outOfRange _ hrange hinformation =>
    have hcurrent := (outOfRangeEvidence_evidence hcommand).1 hrange
    rw [hasCurrentCheckConditionSense_iff hcommand, decodeSense_current] at hcurrent
    refine ⟨hcurrent.2.2.known, hcut, ?_⟩
    rw [← outOfRangeUnlocated_iff hcommand]
    intro h
    have hsome : (decodeSense c).informationLba.isSome = true := hinformation
    rw [h.2] at hsome
    cases hsome

/-- The category of sense data that is taken is the one the archive finds again. -/
theorem diagnostic_category (hcommand : c.captured = c.commandCompleted) (h : c.Taken) :
    (classifyReadFailure c).diagnostic.category =
      (classifyReadFailure c).diagnostic.normalizedCategory := by
  rw [ReadFailure.diagnostic_eq, diagnosticAs_normalizedCategory]
  show (classifyReadFailure c).classifiedCategory = _
  rw [ReadFailure.classifiedCategory, ReadFailure.printedCategory]
  have hclassified := classifyReadFailure_classified hcommand
  cases hclassified with
  | terminal hstatus hcategory hrange =>
    have hnot : ¬outOfRangeEvidence (classifyReadFailure c).evidence = true := by
      intro hevidence
      exact h.2.2 ((outOfRangeUnlocated_iff hcommand).1 ⟨hevidence, hrange hevidence⟩)
    rw [if_neg hnot, hcategory, hstatus]
    rfl
  | medium hstatus _ hrecognized hrange =>
    rw [hrange, hrecognized, hstatus]
    rfl
  | outOfRange hstatus hrange =>
    rw [hrange, hstatus]
    rfl

/-- Sense data that is taken may be stored. -/
theorem diagnostic_storable {range : DvdSourceReadRange}
    (hcommand : c.captured = c.commandCompleted) (hrequest : c.toReadRequest = range.request)
    (hprintable : (classifyReadFailure c).evidence.Printable) (h : c.Taken) :
    Storable range (classifyReadFailure c).diagnostic := by
  have hlba : range.startLba = c.requestedLba := congrArg ReadRequest.requestedLba hrequest.symm
  have hcount : range.sectorCount = c.requestedBlockCount :=
    congrArg ReadRequest.requestedBlockCount hrequest.symm
  apply storable_of_normalized (diagnosticAs_bounded hprintable) _ (diagnostic_category hcommand h)
  rw [hlba, hcount, diagnosticAs_coherent]
  exact ⟨h.1, h.2.1⟩

end

section

variable {command : SourceReadCommand} {range : DvdSourceReadRange}
  {read : TransportRead range.sectorCount}

/-- A read that did not fill its range must be unreadable, with a diagnostic to store. -/
theorem agrees_unreadable_iff (hunfilled : ¬∃ bytes, read.Whole bytes) :
    SourceReadAgrees command range read ↔
      dvdSourceRead command range read = .ok (.unreadable (sourceReadDiagnostic range read)) ∧
        Storable range (sourceReadDiagnostic range read) := by
  constructor
  · intro h
    exact ⟨h.unreadable hunfilled, h.storable hunfilled⟩
  · intro h
    refine ⟨?_, fun _ => h.1, fun _ => h.2⟩
    intro bytes
    rw [h.1]
    exact ⟨fun heq => (nomatch heq), fun hwhole => absurd ⟨bytes, hwhole⟩ hunfilled⟩

theorem dvdSourceRead_accepted (hreader : range.AcceptedByReader command)
    (hworker : range.AcceptedByWorker command) :
    dvdSourceRead command range read = sourceReadResult range (runSourceRead range read) := by
  rw [dvdSourceRead, readerExit, if_pos hreader, rejectIf, if_neg (not_not.2 hworker)]
  rfl

/-- A read that came back short, or not at all, is unreadable for no reason known. -/
theorem agrees_short (hreader : range.AcceptedByReader command)
    (hworker : range.AcceptedByWorker command) (hunfilled : ¬∃ bytes, read.Whole bytes)
    (hexit : runSourceRead range read = .readFailure (shortReadFailure range))
    (hdiagnostic : sourceReadDiagnostic range read = shortReadDiagnostic) :
    SourceReadAgrees command range read := by
  rw [agrees_unreadable_iff hunfilled, hdiagnostic, dvdSourceRead_accepted hreader hworker, hexit,
    sourceReadResult, parse_shortReadFailure]
  exact ⟨rfl, shortReadDiagnostic_storable range⟩

theorem agrees_whole (hreader : range.AcceptedByReader command)
    (hworker : range.AcceptedByWorker command) (hwhole : read.Whole bytes) :
    SourceReadAgrees command range read := by
  obtain ⟨positive, bounded, length_bytes, hread⟩ := hwhole
  have hresult : dvdSourceRead command range read = .ok (.readable bytes) := by
    rw [dvdSourceRead_accepted hreader hworker, hread, runSourceRead, if_pos rfl]
    simp only [sourceReadResult, rejectIf, length_bytes, ne_eq, not_true_eq_false, if_false]
    rfl
  have hsome : ∃ bytes, read.Whole bytes := ⟨bytes, positive, bounded, length_bytes, hread⟩
  refine ⟨?_, fun hunfilled => absurd hsome hunfilled, fun hunfilled => absurd hsome hunfilled⟩
  intro other
  rw [hresult]
  constructor
  · intro heq
    cases heq
    exact ⟨positive, bounded, length_bytes, hread⟩
  · rintro ⟨_, _, _, hother⟩
    rw [hread] at hother
    cases hother
    rfl

end

section

variable {command : SourceReadCommand} {range : DvdSourceReadRange}

theorem DvdSourceReadRange.AcceptedByReader.declared (h : range.AcceptedByReader command) :
    DeclaredByteCount (range.acceptedEndLbaExclusive * DVD_SECTOR_SIZE_BYTES) := by
  have hend := h.2.2.1
  have hpositive := h.2.2.2.2.1
  simp only [MAX_DVD_CONTENT_BYTES, DVD_SECTOR_SIZE_BYTES] at hend
  constructor <;> simp only [MAX_DVD_CONTENT_BYTES, DVD_SECTOR_SIZE_BYTES] <;> omega

theorem DvdSourceReadRange.AcceptedByReader.within (h : range.AcceptedByReader command) :
    range.request.Within
      (range.acceptedEndLbaExclusive * DVD_SECTOR_SIZE_BYTES / DVD_SECTOR_SIZE_BYTES) := by
  have hcount := h.2.2.2.1
  have hinside := h.2.2.2.2.2.1
  have hsectors : 0 < range.sectorCount ∧ range.sectorCount ≤ 32 := by
    rw [hcount]
    cases command <;> decide
  rw [Nat.mul_div_cancel _ (by decide)]
  refine ⟨hsectors.1, hsectors.2.trans (by decide), Nat.zero_le _, hinside⟩

/-- A failure that is no medium error is a terminal result without an image. -/
theorem DvdSourceReadRange.AcceptedByReader.terminal {c : ScsiCompletion}
    (h : range.AcceptedByReader command) (hcommand : c.captured = c.commandCompleted)
    (hrequest : c.toReadRequest = range.request)
    (hstatus : (classifyReadFailure c).status = .outOfRangeError) :
    TerminalResult (classifyReadFailure c) none
      (range.acceptedEndLbaExclusive * DVD_SECTOR_SIZE_BYTES) 0 := by
  constructor
  · rfl
  · exact hcommand
  · simp [backendReadHasTerminalFailureResult, hstatus]
  · show c.toReadRequest.Within _
    rw [hrequest]
    exact h.within
  · exact fun _ => Nat.zero_le _
  · exact fun _ => Nat.zero_mod _
  · exact fun _ _ _ => .inr (Nat.zero_le _)
  · intro _ state hstate
    cases hstate

/-- Every failure the reader classifies is printed. -/
theorem runSourceRead_failure (range : DvdSourceReadRange) (io : Option SgIo) :
    runSourceRead range (.failure io) =
      .readFailure (emitReadFailureResult (classifyReadFailure (readScopeEnd range.request io)) none
        (range.acceptedEndLbaExclusive * DVD_SECTOR_SIZE_BYTES) 0) := by
  have hclassified : (classifyReadFailure (readScopeEnd range.request io)).Classified :=
    classifyReadFailure_classified (readScopeEnd_of range.request io).command
  simp only [runSourceRead]
  apply if_pos
  cases hclassified with
  | terminal hstatus => exact .inr (by simp [backendReadHasTerminalFailureResult, hstatus])
  | medium hstatus => exact .inl hstatus
  | outOfRange hstatus => exact .inr (by simp [backendReadHasTerminalFailureResult, hstatus])

/-- What the worker makes of a failure the reader classified. -/
theorem parse_failure_ok_iff {c : ScsiCompletion} {result : DvdDiscVerificationDiagnostic}
    (h : range.AcceptedByReader command) (hcommand : c.captured = c.commandCompleted)
    (hrequest : c.toReadRequest = range.request)
    (hprintable : (classifyReadFailure c).evidence.Printable) :
    parseDvdVerificationReadFailureProtocol (emitReadFailureResult (classifyReadFailure c) none
        (range.acceptedEndLbaExclusive * DVD_SECTOR_SIZE_BYTES) 0) range = .ok result ↔
      c.Taken ∧ result = (classifyReadFailure c).diagnostic := by
  by_cases hstatus : (classifyReadFailure c).status = .outOfRangeError
  · have hterminal := h.terminal hcommand hrequest hstatus
    obtain ⟨_, _, _, hcut⟩ := hterminal.kept h.declared hstatus
    rw [parse_boundary hterminal h.declared rfl hrequest hstatus]
    constructor
    · intro heq
      cases heq
      exact ⟨taken_of_outOfRange hcommand hstatus hcut, rfl⟩
    · intro heq
      rw [heq.2]
  · rw [emitReadFailureResult, if_neg hstatus]
    exact parse_line_ok_iff hcommand hrequest hprintable hstatus

end

/-- A read that ends with a result agrees exactly when the worker takes its sense data. -/
theorem sourceRead_agrees_iff {command : SourceReadCommand} {range : DvdSourceReadRange}
    {read : TransportRead range.sectorCount} (hreader : range.AcceptedByReader command)
    (hworker : range.AcceptedByWorker command) (hread : read ≠ .fatal) :
    SourceReadAgrees command range read ↔
      ∀ io, read = .failure io → (readScopeEnd range.request io).Taken := by
  cases read with
  | fatal => exact absurd rfl hread
  | ended =>
    have hunfilled : ¬∃ bytes,
      (TransportRead.ended : TransportRead range.sectorCount).Whole bytes := by
      rintro ⟨_, _, _, _, hwhole⟩
      cases hwhole
    exact iff_of_true (agrees_short hreader hworker hunfilled rfl rfl) (fun _ hio => nomatch hio)
  | success blocks bytes positive bounded length_bytes =>
    by_cases hblocks : blocks = range.sectorCount
    · subst hblocks
      exact iff_of_true (agrees_whole hreader hworker ⟨positive, bounded, length_bytes, rfl⟩)
        (fun _ hio => nomatch hio)
    · have hunfilled : ¬∃ bytes', (TransportRead.success blocks bytes positive bounded
          length_bytes).Whole bytes' := by
        rintro ⟨_, _, _, _, hwhole⟩
        injection hwhole with heq
        exact hblocks heq
      have hexit : runSourceRead range (.success blocks bytes positive bounded length_bytes) =
          .readFailure (shortReadFailure range) := if_neg hblocks
      exact iff_of_true (agrees_short hreader hworker hunfilled hexit rfl)
        (fun _ hio => nomatch hio)
  | failure io =>
    have hof := readScopeEnd_of range.request io
    have hmax : range.acceptedEndLbaExclusive * DVD_SECTOR_SIZE_BYTES / DVD_SECTOR_SIZE_BYTES ≤
        maxSafeInteger := by
      have hbounded := hreader.declared.bounded
      simp only [MAX_DVD_CONTENT_BYTES, DVD_SECTOR_SIZE_BYTES, maxSafeInteger] at *
      omega
    have hprintable := classifyReadFailure_printable (hof.asked ▸ hreader.within) hmax
    have hunfilled : ¬∃ bytes, (TransportRead.failure io : TransportRead range.sectorCount).Whole
        bytes := by
      rintro ⟨_, _, _, _, hwhole⟩
      cases hwhole
    have hparse := fun result => @parse_failure_ok_iff command range _ result hreader hof.command
      hof.asked hprintable
    rw [agrees_unreadable_iff hunfilled, dvdSourceRead_accepted hreader hworker,
      runSourceRead_failure, sourceReadResult]
    simp only [bind_ok, pure_ok]
    constructor
    · rintro ⟨⟨diagnostic, hok, _⟩, _⟩ other hother
      cases hother
      exact ((hparse diagnostic).1 hok).1
    · intro htaken
      have h := htaken io rfl
      exact ⟨⟨_, (hparse _).2 ⟨h, rfl⟩, rfl⟩,
        diagnostic_storable hof.command hof.asked hprintable h⟩

/-- A sample at the start of a disc of a thousand sectors. -/
def firstSample : DvdSourceReadRange := ⟨0, 32, 1024⟩

/-- A drive that could not read the first sector, and says so in whole sense data. -/
theorem sourceRead_agrees_with_sense :
    (readScopeEnd firstSample.request (some (senseOf 0x80 0x03 0x11 0))).captured = true ∧
      SourceReadAgrees .verifySample firstSample (.failure (some (senseOf 0x80 0x03 0x11 0))) := by
  refine ⟨by decide +kernel, (sourceRead_agrees_iff (by decide) (by decide) ?_).2 ?_⟩
  · intro hfatal
    cases hfatal
  · intro io hio
    cases hio
    refine ⟨?_, by decide +kernel, ?_⟩
    · rintro ⟨-, hformat⟩
      exact hformat (.inl (by decide +kernel))
    · rintro ⟨-, -, hcondition, -⟩
      obtain ⟨-, -, hkey, -⟩ | ⟨hdescriptor, -⟩ := hcondition
      · exact absurd hkey (by decide +kernel)
      · exact absurd hdescriptor (by decide +kernel)

/-- A drive that knows an address is out of range and does not say which. -/
def unlocatedSense : SgIo where
  status := 0x02
  hostStatus := 0
  driverStatus := 0x08
  sbLenWr := 18
  sense := [0x70, 0, 0x05, 0, 0, 0, 0, 10, 0, 0, 0, 0, 0x21, 0] ++ List.replicate 238 0
  length_sense := by rw [List.length_append, List.length_replicate]; rfl

theorem unlocatedSense_refused :
    dvdSourceRead .verifySample firstSample (.failure (some unlocatedSense)) =
        .error VERIFICATION_READ_FAILURE_MALFORMED ∧
      ¬SourceReadAgrees .verifySample firstSample (.failure (some unlocatedSense)) := by
  have hrefused : dvdSourceRead .verifySample firstSample (.failure (some unlocatedSense)) =
      .error VERIFICATION_READ_FAILURE_MALFORMED := by
    decide +kernel
  refine ⟨hrefused, ?_⟩
  intro hagrees
  have hunfilled : ¬∃ bytes, (TransportRead.failure (some unlocatedSense) :
      TransportRead firstSample.sectorCount).Whole bytes := by
    rintro ⟨_, _, _, _, hwhole⟩
    cases hwhole
  have hread := hagrees.unreadable hunfilled
  rw [hrefused] at hread
  cases hread

end RipDvd
