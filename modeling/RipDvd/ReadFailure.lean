import RipDvd.Sense

namespace RipDvd
set_option autoImplicit true

inductive ArchiveReadFailureCategory where
  | unknown
  | notReady
  | unitAttention
  | hardwareError
  | transportError
  | protectionError
  | outOfRange
  deriving DecidableEq

namespace ArchiveReadFailureCategory

def value : ArchiveReadFailureCategory → String
  | unknown => "unknown"
  | notReady => "not_ready"
  | unitAttention => "unit_attention"
  | hardwareError => "hardware_error"
  | transportError => "transport_error"
  | protectionError => "protection_error"
  | outOfRange => "out_of_range"

end ArchiveReadFailureCategory

def ARCHIVE_READ_FAILURE_CATEGORIES : List ArchiveReadFailureCategory :=
  [.unknown, .notReady, .unitAttention, .hardwareError, .transportError, .protectionError,
    .outOfRange]

structure ArchiveReadFailureScsiEvidence where
  scsiStatus : Option Nat
  hostStatus : Option Nat
  driverStatus : Option Nat
  senseKey : Option Nat
  asc : Option Nat
  ascq : Option Nat
  deriving DecidableEq

inductive ArchiveReadFailureEvidenceClassification where
  | category (category : ArchiveReadFailureCategory)
  | recognizedMediumError
  deriving DecidableEq

def isHostTransportFailure (hostStatus : Nat) : Bool := hostStatus ≠ 0

def isDriverTransportFailure (driverStatus : Nat) : Bool :=
  let baseStatus := driverStatus &&& 0x0f
  baseStatus = 0x01 || baseStatus = 0x02 || baseStatus = 0x04 || baseStatus = 0x06

def isTargetSenseCompletion (evidence : ArchiveReadFailureScsiEvidence) : Bool :=
  (match evidence.scsiStatus, evidence.hostStatus, evidence.driverStatus with
  | some scsiStatus, some hostStatus, some driverStatus =>
    scsiStatus &&& 0xfe = 0x02 && hostStatus = 0 &&
      (driverStatus &&& 0x0f = 0 || driverStatus &&& 0x0f = 0x08)
  | _, _, _ => false) &&
  evidence.senseKey.isSome && evidence.asc.isSome && evidence.ascq.isSome

def classifyArchiveReadFailureEvidence (evidence : ArchiveReadFailureScsiEvidence) :
    ArchiveReadFailureEvidenceClassification :=
  match evidence.scsiStatus, evidence.hostStatus, evidence.driverStatus with
  | some _, some hostStatus, some driverStatus =>
    if isHostTransportFailure hostStatus ∨
        (hostStatus = 0 ∧ isDriverTransportFailure driverStatus) then .category .transportError
    else if ¬isTargetSenseCompletion evidence then .category .unknown
    else if evidence.senseKey = some 0x02 then .category .notReady
    else if evidence.senseKey = some 0x06 then .category .unitAttention
    else if evidence.senseKey = some 0x03 then .recognizedMediumError
    else if evidence.senseKey = some 0x04 then .category .hardwareError
    else if evidence.senseKey = some 0x07 ∨ (evidence.senseKey = some 0x05 ∧
        evidence.asc = some 0x6f ∧ evidence.ascq ≠ none) then .category .protectionError
    else .category .unknown
  | _, _, _ => .category .unknown

def isArchiveReadFailureEvidenceConsistent (category : ArchiveReadFailureCategory)
    (evidence : ArchiveReadFailureScsiEvidence) : Bool :=
  if category = .outOfRange then
    isTargetSenseCompletion evidence && evidence.senseKey = some 0x05 &&
      evidence.asc = some 0x21 && evidence.ascq = some 0x00
  else category = .unknown || classifyArchiveReadFailureEvidence evidence = .category category

/-- The evidence every read failure result carries. -/
structure DvdReadFailureEvidence extends ArchiveReadFailureScsiEvidence where
  senseResponseCode : Option Nat
  informationLba : Option Nat
  requestedLba : Nat
  requestedBlockCount : Nat
  retryOrdinal : Nat
  deriving DecidableEq

/-- The sense data describes the command that returned it. -/
def DvdReadFailureEvidence.currentSense (evidence : DvdReadFailureEvidence) : Bool :=
  evidence.senseResponseCode = some 0x70 || evidence.senseResponseCode = some 0x72

/-- What the reader decoded, as the numbers it prints. -/
def ReadFailure.evidence (failure : ReadFailure) : DvdReadFailureEvidence :=
  let completion := failure.completion
  { scsiStatus := if completion.captured then some completion.scsiStatus.toNat else none
    hostStatus := if completion.captured then some completion.hostStatus.toNat else none
    driverStatus := if completion.captured then some completion.driverStatus.toNat else none
    senseResponseCode := failure.sense.responseCode.map UInt8.toNat
    senseKey := failure.sense.senseKey.map UInt8.toNat
    asc := failure.sense.asc.map UInt8.toNat
    ascq := failure.sense.ascq.map UInt8.toNat
    informationLba := failure.sense.informationLba
    requestedLba := completion.requestedLba
    requestedBlockCount := completion.requestedBlockCount
    retryOrdinal := completion.retryOrdinal }

/-- The reader's categories among those of the archive. -/
def ReadFailureCategory.archived : ReadFailureCategory → ArchiveReadFailureCategory
  | unknown => .unknown
  | notReady => .notReady
  | unitAttention => .unitAttention
  | hardwareError => .hardwareError
  | transportError => .transportError
  | protectionError => .protectionError

/-- What holds of the sense data the reader decodes from a completion. -/
structure DecodedSense.Coherent (c : ScsiCompletion) (sense : DecodedSense) : Prop where
  response : sense.responseCode = none → sense.senseKey = none ∧ sense.asc = none ∧
    sense.ascq = none ∧ sense.informationLba = none
  asc : sense.asc.isSome = true → sense.recognizedFormat = true
  ascq : sense.ascq.isSome = true → sense.asc.isSome = true
  key : ∀ key ∈ sense.senseKey, key.toNat ≤ 0x0f
  information : ∀ lba ∈ sense.informationLba, c.requestedLba ≤ lba ∧
    lba < c.requestedLba + c.requestedBlockCount

theorem informationLbaInRequest_mem {c : ScsiCompletion} {lba read : Nat}
    (h : lba ∈ informationLbaInRequest c read) :
    c.requestedLba ≤ lba ∧ lba < c.requestedLba + c.requestedBlockCount := by
  simp only [informationLbaInRequest, Option.mem_def] at h
  split at h
  · cases h
    omega
  · cases h

theorem low_nibble_le (b : UInt8) : (b &&& 0x0f).toNat ≤ 0x0f := by
  rw [UInt8.toNat_and]
  exact Nat.and_le_right

theorem informationDescriptor_mem {c : ScsiCompletion}
    (h : lba ∈ (informationDescriptor c additional body walk).informationLba) :
    lba ∈ walk.informationLba ∨
      (c.requestedLba ≤ lba ∧ lba < c.requestedLba + c.requestedBlockCount) := by
  simp only [informationDescriptor] at h
  split at h
  · exact .inl h
  · split at h
    · simp only [Option.mem_def, Option.or_eq_some_iff] at h
      cases h with
      | inl h => exact .inr (informationLbaInRequest_mem h)
      | inr h => exact .inl h.2
    · exact .inl h

theorem walkDescriptors_mem {c : ScsiCompletion}
    (hwalk : ∀ lba ∈ walk.informationLba,
      c.requestedLba ≤ lba ∧ lba < c.requestedLba + c.requestedBlockCount)
    (h : lba ∈ (walkDescriptors c rest walk).informationLba) :
    c.requestedLba ≤ lba ∧ lba < c.requestedLba + c.requestedBlockCount := by
  induction rest, walk using walkDescriptors.induct c with
  | case1 walk => exact hwalk lba (by simpa [walkDescriptors] using h)
  | case2 walk last => exact hwalk lba (by simpa [walkDescriptors] using h)
  | case3 walk kind additional body hshort =>
    exact hwalk lba (by simpa [walkDescriptors, hshort] using h)
  | case4 walk kind additional body hlong ih =>
    rw [walkDescriptors, if_neg hlong] at h
    apply ih _ h
    intro found hfound
    split at hfound
    · cases informationDescriptor_mem hfound with
      | inl hold => exact hwalk found hold
      | inr hnew => exact hnew
    · exact hwalk found hfound

theorem decodeFixedSense_coherent (c : ScsiCompletion) :
    (decodeFixedSense c).Coherent c := by
  simp only [decodeFixedSense]
  split
  · refine ⟨by simp, by simp, by simp, ?_, by simp⟩
    intro key hkey
    simp only [Option.mem_def, Option.ite_none_right_eq_some, Option.some.injEq] at hkey
    rw [← hkey.2]
    exact low_nibble_le _
  · refine ⟨by simp, by simp, ?_, ?_, ?_⟩
    · simp only [Option.isSome_ite]
      omega
    · intro key hkey
      simp only [Option.mem_def, Option.ite_none_right_eq_some, Option.some.injEq] at hkey
      rw [← hkey.2]
      exact low_nibble_le _
    · intro lba hlba
      simp only [Option.mem_def, Option.ite_none_right_eq_some] at hlba
      exact informationLbaInRequest_mem hlba.2

theorem decodeDescriptorSense_coherent (c : ScsiCompletion) :
    (decodeDescriptorSense c).Coherent c := by
  simp only [decodeDescriptorSense]
  split
  · exact ⟨by simp, by simp, by simp, by simp, by simp⟩
  · split
    · exact ⟨by simp, by simp, by simp, by simp [Nat.and_le_right], by simp⟩
    · refine ⟨by simp, by simp, by simp, by simp [Nat.and_le_right], ?_⟩
      intro lba hlba
      simp only [Option.mem_def, Option.ite_none_right_eq_some] at hlba
      exact walkDescriptors_mem (by simp) hlba.2

theorem decodeSense_coherent (c : ScsiCompletion) : (decodeSense c).Coherent c := by
  simp only [decodeSense]
  split
  · exact ⟨by simp, by simp, by simp, by simp, by simp⟩
  · split
    · exact decodeFixedSense_coherent c
    · split
      · exact ⟨by simp, by simp, by simp, by simp, by simp⟩
      · exact decodeDescriptorSense_coherent c

/-- An ASC is decoded without its ASCQ from one length of a fixed record only. -/
theorem decodeSense_cutAfterAsc (c : ScsiCompletion) :
    ((decodeSense c).asc.isSome = true ∧ (decodeSense c).ascq = none) ↔ c.CutAfterAsc := by
  simp only [decodeSense, ScsiCompletion.CutAfterAsc]
  by_cases hwhole : c.SenseWhole
  · by_cases hfixed : c.FixedFormat
    · by_cases hlength : c.sense.length < 8
      · simp [hwhole, hfixed, decodeFixedSense, hlength]
      · simp [hwhole, hfixed, decodeFixedSense, hlength]
        omega
    · by_cases hdescriptor : c.DescriptorFormat
      · simp only [hwhole, hfixed, hdescriptor, decodeDescriptorSense]
        by_cases h4 : c.sense.length < 4
        · simp [h4]
        · by_cases h8 : c.sense.length < 8
          · simp [h4, h8]
          · simp [h4, h8]
      · simp [hwhole, hfixed, hdescriptor]
  · simp [hwhole]

@[simp] theorem map_toNat_eq_some {byte : Option UInt8} (value : UInt8) :
    byte.map UInt8.toNat = some value.toNat ↔ byte = some value := by
  cases byte with
  | none => simp
  | some b => simp [UInt8.toNat_inj]

theorem isHostTransportFailure_toNat (status : UInt16) :
    isHostTransportFailure status.toNat = isRecognizedHostTransportFailure status := by
  have h : status.toNat = 0 ↔ status = 0 := by rw [← UInt16.toNat_inj]; rfl
  simp [isHostTransportFailure, isRecognizedHostTransportFailure, h]

/-- The low nibble of a driver status, read as a number. -/
theorem low_nibble_toNat_eq (status value : UInt16) :
    status.toNat &&& 0x0f = value.toNat ↔ status &&& 0x0f = value := by
  rw [← UInt16.toNat_inj, UInt16.toNat_and]
  rfl

theorem isDriverTransportFailure_toNat (status : UInt16) :
    isDriverTransportFailure status.toNat = isRecognizedDriverTransportFailure status := by
  have h1 := low_nibble_toNat_eq status 0x01
  have h2 := low_nibble_toNat_eq status 0x02
  have h4 := low_nibble_toNat_eq status 0x04
  have h6 := low_nibble_toNat_eq status 0x06
  simp only [UInt16.reduceToNat] at h1 h2 h4 h6
  simp [isDriverTransportFailure, isRecognizedDriverTransportFailure, h1, h2, h4, h6]

/-- Both sides recognise the same check conditions. -/
theorem isTargetSenseCompletion_evidence {c : ScsiCompletion}
    (hcommand : c.captured = c.commandCompleted) :
    isTargetSenseCompletion (classifyReadFailure c).evidence.toArchiveReadFailureScsiEvidence =
      hasCheckConditionSense c (decodeSense c) := by
  have hrecognized := (decodeSense_coherent c).asc
  have h0 := low_nibble_toNat_eq c.driverStatus 0x00
  have h8 := low_nibble_toNat_eq c.driverStatus 0x08
  have hhost : c.hostStatus.toNat = 0 ↔ c.hostStatus = 0 := by rw [← UInt16.toNat_inj]; rfl
  have hscsi : c.scsiStatus.toNat &&& 0xfe = 0x02 ↔ c.scsiStatus &&& 0xfe = 0x02 := by
    rw [← UInt8.toNat_inj, UInt8.toNat_and]
    rfl
  simp only [UInt16.reduceToNat] at h0 h8
  cases hcaptured : c.captured with
  | false => simp [isTargetSenseCompletion, ReadFailure.evidence, classifyReadFailure,
      hasCheckConditionSense, hcaptured]
  | true =>
    rw [hcaptured] at hcommand
    cases hasc : (decodeSense c).asc with
    | none => simp [isTargetSenseCompletion, ReadFailure.evidence, classifyReadFailure,
        hasCheckConditionSense, hasc]
    | some asc =>
      have hformat := hrecognized (by rw [hasc]; rfl)
      simp [isTargetSenseCompletion, ReadFailure.evidence, classifyReadFailure,
        hasCheckConditionSense, hasc, hcaptured, ← hcommand, hformat, h0, h8, hhost, hscsi]

/-- The category a result without a boundary must name. -/
def normalizedReadFailureCategory (evidence : DvdReadFailureEvidence) :
    ArchiveReadFailureEvidenceClassification :=
  let classification :=
    classifyArchiveReadFailureEvidence evidence.toArchiveReadFailureScsiEvidence
  if classification = .category .transportError then classification
  else if evidence.currentSense then classification
  else .category .unknown

theorem currentSense_evidence (failure : ReadFailure) :
    failure.evidence.currentSense = true ↔
      failure.sense.responseCode = some 0x70 ∨ failure.sense.responseCode = some 0x72 := by
  have h0 : failure.sense.responseCode.map UInt8.toNat = some (0x70 : UInt8).toNat ↔
      failure.sense.responseCode = some 0x70 := map_toNat_eq_some 0x70
  have h2 : failure.sense.responseCode.map UInt8.toNat = some (0x72 : UInt8).toNat ↔
      failure.sense.responseCode = some 0x72 := map_toNat_eq_some 0x72
  simp only [UInt8.reduceToNat] at h0 h2
  simp [DvdReadFailureEvidence.currentSense, ReadFailure.evidence, h0, h2]

theorem senseKey_evidence (failure : ReadFailure) (key : UInt8) :
    failure.evidence.senseKey = some key.toNat ↔ failure.sense.senseKey = some key :=
  map_toNat_eq_some key

theorem asc_evidence (failure : ReadFailure) (asc : UInt8) :
    failure.evidence.asc = some asc.toNat ↔ failure.sense.asc = some asc :=
  map_toNat_eq_some asc

theorem ascq_evidence (failure : ReadFailure) (ascq : UInt8) :
    failure.evidence.ascq = some ascq.toNat ↔ failure.sense.ascq = some ascq :=
  map_toNat_eq_some ascq

/-- The evidence of an address beyond the end, as the archive reads it. -/
def outOfRangeEvidence (evidence : DvdReadFailureEvidence) : Bool :=
  isArchiveReadFailureEvidenceConsistent .outOfRange evidence.toArchiveReadFailureScsiEvidence &&
    evidence.currentSense

theorem outOfRangeEvidence_evidence {c : ScsiCompletion}
    (hcommand : c.captured = c.commandCompleted) :
    outOfRangeEvidence (classifyReadFailure c).evidence = true ↔
      hasCurrentCheckConditionSense c (decodeSense c) = true ∧
        (decodeSense c).senseKey = some 0x05 ∧ (decodeSense c).asc = some 0x21 ∧
        (decodeSense c).ascq = some 0x00 := by
  have htarget := isTargetSenseCompletion_evidence hcommand
  have hcurrent := currentSense_evidence (classifyReadFailure c)
  have hkey := senseKey_evidence (classifyReadFailure c) 0x05
  have hasc := asc_evidence (classifyReadFailure c) 0x21
  have hascq := ascq_evidence (classifyReadFailure c) 0x00
  simp only [UInt8.reduceToNat] at hkey hasc hascq
  have hsense : (classifyReadFailure c).sense = decodeSense c := rfl
  rw [hsense] at hcurrent hkey hasc hascq
  simp only [outOfRangeEvidence, isArchiveReadFailureEvidenceConsistent, if_true, htarget,
    Bool.and_eq_true, decide_eq_true_eq, hcurrent, hkey, hasc, hascq,
    hasCurrentCheckConditionSense, Bool.or_eq_true]
  constructor
  · intro h
    exact ⟨⟨h.1.1.1.1, h.2⟩, h.1.1.1.2, h.1.1.2, h.1.2⟩
  · intro h
    exact ⟨⟨⟨⟨h.1.1, h.2.1⟩, h.2.2.1⟩, h.2.2.2⟩, h.1.2⟩

/-- The archive's classification of what the reader decoded, branch by branch of the reader. -/
theorem classifyArchiveReadFailureEvidence_evidence {c : ScsiCompletion}
    (hcaptured : c.captured = true) (hcommand : c.captured = c.commandCompleted) :
    classifyArchiveReadFailureEvidence
        (classifyReadFailure c).evidence.toArchiveReadFailureScsiEvidence =
      if isRecognizedHostTransportFailure c.hostStatus = true ∨
          (c.hostStatus = 0 ∧ isRecognizedDriverTransportFailure c.driverStatus = true) then
        .category .transportError
      else if ¬hasCheckConditionSense c (decodeSense c) = true then .category .unknown
      else if (decodeSense c).senseKey = some 0x02 then .category .notReady
      else if (decodeSense c).senseKey = some 0x06 then .category .unitAttention
      else if (decodeSense c).senseKey = some 0x03 then .recognizedMediumError
      else if (decodeSense c).senseKey = some 0x04 then .category .hardwareError
      else if (decodeSense c).senseKey = some 0x07 ∨ ((decodeSense c).senseKey = some 0x05 ∧
          (decodeSense c).asc = some 0x6f ∧ (decodeSense c).ascq ≠ none) then
        .category .protectionError
      else .category .unknown := by
  have htarget := isTargetSenseCompletion_evidence hcommand
  have hkey := senseKey_evidence (classifyReadFailure c)
  have hk2 := hkey 0x02
  have hk3 := hkey 0x03
  have hk4 := hkey 0x04
  have hk5 := hkey 0x05
  have hk6 := hkey 0x06
  have hk7 := hkey 0x07
  have hasc := asc_evidence (classifyReadFailure c) 0x6f
  have hascq : (classifyReadFailure c).evidence.ascq = none ↔ (decodeSense c).ascq = none :=
    Option.map_eq_none_iff
  have hsense : (classifyReadFailure c).sense = decodeSense c := rfl
  have hhost : c.hostStatus.toNat = 0 ↔ c.hostStatus = 0 := by rw [← UInt16.toNat_inj]; rfl
  simp only [UInt8.reduceToNat, hsense] at hk2 hk3 hk4 hk5 hk6 hk7 hasc
  rw [classifyArchiveReadFailureEvidence]
  have hs : (classifyReadFailure c).evidence.scsiStatus = some c.scsiStatus.toNat := by
    simp [ReadFailure.evidence, classifyReadFailure, hcaptured]
  have hh : (classifyReadFailure c).evidence.hostStatus = some c.hostStatus.toNat := by
    simp [ReadFailure.evidence, classifyReadFailure, hcaptured]
  have hd : (classifyReadFailure c).evidence.driverStatus = some c.driverStatus.toNat := by
    simp [ReadFailure.evidence, classifyReadFailure, hcaptured]
  simp only [hs, hh, hd, isHostTransportFailure_toNat, isDriverTransportFailure_toNat, hhost,
    htarget, hk2, hk3, hk4, hk5, hk6, hk7, hasc, ne_eq, hascq]

/-- A check condition is only taken from a command whose transport worked. -/
theorem hasCheckConditionSense_transport {c : ScsiCompletion} {sense : DecodedSense}
    (h : hasCheckConditionSense c sense = true) :
    ¬(isRecognizedHostTransportFailure c.hostStatus = true ∨
      (c.hostStatus = 0 ∧ isRecognizedDriverTransportFailure c.driverStatus = true)) := by
  simp only [hasCheckConditionSense, Bool.and_eq_true, Bool.or_eq_true, decide_eq_true_eq] at h
  have hhost := h.1.1.1.1.2
  have hdriver := h.1.1.1.2
  intro htransport
  cases htransport with
  | inl hfailed => simp [isRecognizedHostTransportFailure, hhost] at hfailed
  | inr hfailed =>
    cases hdriver with
    | inl h0 => simp [isRecognizedDriverTransportFailure, h0] at hfailed
    | inr h8 => simp [isRecognizedDriverTransportFailure, h8] at hfailed

/-- What the reader's class of a failure says about the evidence it prints. -/
inductive ReadFailure.Classified (failure : ReadFailure) : Prop
  | terminal (status : failure.status = .terminalFailure)
      (category : normalizedReadFailureCategory failure.evidence =
        .category failure.category.archived)
      (range : outOfRangeEvidence failure.evidence = true → failure.sense.informationLba = none)
  | medium (status : failure.status = .mediumError) (category : failure.category = .unknown)
      (recognized : normalizedReadFailureCategory failure.evidence = .recognizedMediumError)
      (range : outOfRangeEvidence failure.evidence = false)
  | outOfRange (status : failure.status = .outOfRangeError)
      (range : outOfRangeEvidence failure.evidence = true)
      (information : failure.sense.informationLba.isSome = true)

/-- The archive's classification after a check condition of the command itself. -/
theorem normalizedReadFailureCategory_current {c : ScsiCompletion}
    (hcaptured : c.captured = true) (hcommand : c.captured = c.commandCompleted)
    (hcheck : hasCurrentCheckConditionSense c (decodeSense c) = true) :
    normalizedReadFailureCategory (classifyReadFailure c).evidence =
      if (decodeSense c).senseKey = some 0x02 then .category .notReady
      else if (decodeSense c).senseKey = some 0x06 then .category .unitAttention
      else if (decodeSense c).senseKey = some 0x03 then .recognizedMediumError
      else if (decodeSense c).senseKey = some 0x04 then .category .hardwareError
      else if (decodeSense c).senseKey = some 0x07 ∨ ((decodeSense c).senseKey = some 0x05 ∧
          (decodeSense c).asc = some 0x6f ∧ (decodeSense c).ascq ≠ none) then
        .category .protectionError
      else .category .unknown := by
  have hcondition := hcheck
  rw [hasCurrentCheckConditionSense, Bool.and_eq_true, Bool.or_eq_true, decide_eq_true_eq,
    decide_eq_true_eq] at hcondition
  have hnow := (currentSense_evidence (classifyReadFailure c)).2 hcondition.2
  have hclassify := classifyArchiveReadFailureEvidence_evidence hcaptured hcommand
  rw [if_neg (hasCheckConditionSense_transport hcondition.1),
    if_neg (not_not.2 hcondition.1)] at hclassify
  rw [normalizedReadFailureCategory, if_pos hnow, ite_self, hclassify]

/-- The archive's classification of any other completion. -/
theorem normalizedReadFailureCategory_other {c : ScsiCompletion}
    (hcommand : c.captured = c.commandCompleted)
    (hcheck : ¬hasCurrentCheckConditionSense c (decodeSense c) = true) :
    normalizedReadFailureCategory (classifyReadFailure c).evidence =
      .category (readFailureClass c (decodeSense c)).2.archived ∧
      (readFailureClass c (decodeSense c)).1 = .terminalFailure := by
  cases hcaptured : c.captured with
  | false =>
    have hunknown : classifyArchiveReadFailureEvidence
        (classifyReadFailure c).evidence.toArchiveReadFailureScsiEvidence = .category .unknown := by
      simp [classifyArchiveReadFailureEvidence, ReadFailure.evidence, classifyReadFailure,
        hcaptured]
    simp [normalizedReadFailureCategory, hunknown, readFailureClass, hcaptured,
      ReadFailureCategory.archived]
  | true =>
    have hreached : ¬(¬c.captured = true ∨ ¬c.commandCompleted = true) := by
      simp [← hcommand, hcaptured]
    have hclassify := classifyArchiveReadFailureEvidence_evidence hcaptured hcommand
    rw [readFailureClass, if_neg hreached]
    by_cases htransport : isRecognizedHostTransportFailure c.hostStatus = true ∨
        (c.hostStatus = 0 ∧ isRecognizedDriverTransportFailure c.driverStatus = true)
    · rw [if_pos htransport] at hclassify
      rw [if_pos htransport, normalizedReadFailureCategory, hclassify]
      exact ⟨rfl, rfl⟩
    · rw [if_neg htransport, if_pos hcheck]
      rw [if_neg htransport] at hclassify
      refine ⟨?_, rfl⟩
      by_cases hcondition : hasCheckConditionSense c (decodeSense c) = true
      · -- A deferred error: its sense data is about an earlier command.
        have hthen : ¬(classifyReadFailure c).evidence.currentSense = true := by
          intro hnow
          apply hcheck
          rw [hasCurrentCheckConditionSense, hcondition]
          have hcode : (decodeSense c).responseCode = some 0x70 ∨
              (decodeSense c).responseCode = some 0x72 := (currentSense_evidence _).1 hnow
          simpa using hcode
        have hnot : classifyArchiveReadFailureEvidence
            (classifyReadFailure c).evidence.toArchiveReadFailureScsiEvidence ≠
              .category .transportError := by
          rw [hclassify]
          split_ifs <;> simp
        rw [normalizedReadFailureCategory, if_neg hnot, if_neg hthen]
        rfl
      · rw [if_pos hcondition] at hclassify
        simp [normalizedReadFailureCategory, hclassify, ReadFailureCategory.archived]

theorem classifyReadFailure_classified {c : ScsiCompletion}
    (hcommand : c.captured = c.commandCompleted) : (classifyReadFailure c).Classified := by
  have hrange := outOfRangeEvidence_evidence hcommand
  have hsense : (classifyReadFailure c).sense = decodeSense c := rfl
  have hstatus : (classifyReadFailure c).status = (readFailureClass c (decodeSense c)).1 := rfl
  have hcategory : (classifyReadFailure c).category = (readFailureClass c (decodeSense c)).2 :=
    rfl
  by_cases hcheck : hasCurrentCheckConditionSense c (decodeSense c) = true
  · have hcondition := hcheck
    rw [hasCurrentCheckConditionSense, Bool.and_eq_true] at hcondition
    have hreached := hcondition.1
    simp only [hasCheckConditionSense, Bool.and_eq_true] at hreached
    have hcaptured : c.captured = true := hreached.1.1.1.1.1.1.1.1
    have hcompleted : c.commandCompleted = true := hreached.1.1.1.1.1.1.1.2
    have hascq : (decodeSense c).ascq ≠ none := Option.isSome_iff_ne_none.1 hreached.2
    have hnormalized := normalizedReadFailureCategory_current hcaptured hcommand hcheck
    have hclass : readFailureClass c (decodeSense c) =
        if (decodeSense c).senseKey = some 0x02 then (.terminalFailure, .notReady)
        else if (decodeSense c).senseKey = some 0x06 then (.terminalFailure, .unitAttention)
        else if (decodeSense c).isRecognizedDvdMediumReadError then (.mediumError, .unknown)
        else if (decodeSense c).isRecognizedDvdOutOfRangeError then (.outOfRangeError, .unknown)
        else if (decodeSense c).senseKey = some 0x04 then (.terminalFailure, .hardwareError)
        else if (decodeSense c).isRecognizedDvdProtectionError then
          (.terminalFailure, .protectionError)
        else (.terminalFailure, .unknown) := by
      rw [readFailureClass, if_neg (by simp [hcaptured, hcompleted]),
        if_neg (hasCheckConditionSense_transport hcondition.1), if_neg (not_not.2 hcheck)]
    simp only [DecodedSense.isRecognizedDvdMediumReadError, decide_eq_true_eq,
      DecodedSense.isRecognizedDvdOutOfRangeError, Bool.and_eq_true,
      DecodedSense.isRecognizedDvdProtectionError, Bool.or_eq_true] at hclass
    rw [hclass] at hstatus hcategory
    by_cases h5 : (decodeSense c).senseKey = some 0x05
    · by_cases h21 : (decodeSense c).asc = some 0x21 ∧ (decodeSense c).ascq = some 0x00
      · cases hinformation : (decodeSense c).informationLba with
        | some lba =>
          apply ReadFailure.Classified.outOfRange
          · simp [hstatus, h5, h21, hinformation]
          · exact hrange.2 ⟨hcheck, h5, h21⟩
          · rw [hsense, hinformation]
            rfl
        | none =>
          apply ReadFailure.Classified.terminal
          · simp [hstatus, h5, h21, hinformation]
          · simp [hcategory, hnormalized, h5, h21, hinformation, ReadFailureCategory.archived]
          · intro _
            rw [hsense, hinformation]
      · have hnone : ¬outOfRangeEvidence (classifyReadFailure c).evidence = true := by
          rw [hrange]
          exact fun h => h21 h.2.2
        have hfar : ¬((((decodeSense c).senseKey = some 0x05 ∧ (decodeSense c).asc = some 0x21) ∧
            (decodeSense c).ascq = some 0x00) ∧ (decodeSense c).informationLba.isSome = true) :=
          fun h => h21 ⟨h.1.1.2, h.1.2⟩
        rw [if_neg hfar] at hstatus hcategory
        apply ReadFailure.Classified.terminal
        · rw [hstatus]
          by_cases h6f : (decodeSense c).asc = some 0x6f <;> simp [h5, h6f]
        · rw [hcategory, hnormalized]
          by_cases h6f : (decodeSense c).asc = some 0x6f <;>
            simp [h5, h6f, hascq, ReadFailureCategory.archived]
        · exact fun h => absurd h hnone
    · have hnone : ¬outOfRangeEvidence (classifyReadFailure c).evidence = true := by
        rw [hrange]
        exact fun h => h5 h.2.1
      by_cases h3 : (decodeSense c).senseKey = some 0x03
      · apply ReadFailure.Classified.medium
        · simp [hstatus, h3]
        · simp [hcategory, h3]
        · simp [hnormalized, h3]
        · exact Bool.eq_false_of_not_eq_true hnone
      · apply ReadFailure.Classified.terminal
        · simp only [hstatus, h5, h3]
          split_ifs <;> simp_all
        · simp only [hcategory, hnormalized, h5, h3]
          split_ifs <;> simp_all [ReadFailureCategory.archived]
        · exact fun h => absurd h hnone
  · obtain ⟨hnormalized, hterminal⟩ := normalizedReadFailureCategory_other hcommand hcheck
    apply ReadFailure.Classified.terminal
    · rw [hstatus, hterminal]
    · rw [hcategory, hnormalized]
    · intro h
      exact absurd (hrange.1 h).1 hcheck

end RipDvd
