import RipDvd.Json

namespace RipDvd
set_option autoImplicit true

def RIP_DVD_SCSI_MAX_SENSE_BYTES : Nat := 252

/-- One read of whole sectors, as the reader asks for it. -/
structure ReadRequest where
  requestedLba : Nat
  requestedBlockCount : Nat
  retryOrdinal : Nat
  deriving DecidableEq

/-- What the kernel reports about one SG_IO command, with its sense buffer. -/
structure SgIo where
  status : UInt8
  hostStatus : UInt16
  driverStatus : UInt16
  sbLenWr : UInt8
  sense : List UInt8
  length_sense : sense.length = RIP_DVD_SCSI_MAX_SENSE_BYTES

/-- The completion of a read scope; its sense length is the length of `sense`. -/
structure ScsiCompletion extends ReadRequest where
  captured : Bool
  commandCompleted : Bool
  scsiStatus : UInt8
  hostStatus : UInt16
  driverStatus : UInt16
  senseReportedLength : Nat
  sense : List UInt8
  deriving DecidableEq

/-- `rip_dvd_scsi_read_scope_begin`: nothing is captured yet. -/
def readScopeBegin (request : ReadRequest) : ScsiCompletion :=
  { request with
    captured := false
    commandCompleted := false
    scsiStatus := 0
    hostStatus := 0
    driverStatus := 0
    senseReportedLength := 0
    sense := [] }

def captureReadCompletion (completion : ScsiCompletion) (io : SgIo) : ScsiCompletion :=
  { completion with
    captured := true
    commandCompleted := true
    scsiStatus := io.status
    hostStatus := io.hostStatus
    driverStatus := io.driverStatus
    senseReportedLength := io.sbLenWr.toNat
    sense := io.sense.take (min io.sbLenWr.toNat RIP_DVD_SCSI_MAX_SENSE_BYTES) }

/-- `rip_dvd_scsi_read_scope_end`, after a command that was captured or was not. -/
def readScopeEnd (request : ReadRequest) : Option SgIo → ScsiCompletion
  | some io => captureReadCompletion (readScopeBegin request) io
  | none => readScopeBegin request

structure DecodedSense where
  recognizedFormat : Bool := false
  responseCode : Option UInt8 := none
  senseKey : Option UInt8 := none
  asc : Option UInt8 := none
  ascq : Option UInt8 := none
  informationLba : Option Nat := none
  deriving DecidableEq

namespace ScsiCompletion

def byte (c : ScsiCompletion) (index : Nat) : UInt8 := c.sense.getD index 0

/-- The sense data is there, and all of it. -/
def SenseWhole (c : ScsiCompletion) : Prop :=
  c.captured = true ∧ c.senseReportedLength ≤ RIP_DVD_SCSI_MAX_SENSE_BYTES ∧
    c.senseReportedLength = c.sense.length ∧ c.sense.length ≠ 0

instance (c : ScsiCompletion) : Decidable c.SenseWhole := inferInstanceAs (Decidable (_ ∧ _))

def responseByte (c : ScsiCompletion) : UInt8 := c.byte 0 &&& 0x7f

def FixedFormat (c : ScsiCompletion) : Prop := c.responseByte = 0x70 ∨ c.responseByte = 0x71

def DescriptorFormat (c : ScsiCompletion) : Prop := c.byte 0 = 0x72 ∨ c.byte 0 = 0x73

instance (c : ScsiCompletion) : Decidable c.FixedFormat := inferInstanceAs (Decidable (_ ∨ _))

instance (c : ScsiCompletion) : Decidable c.DescriptorFormat := inferInstanceAs (Decidable (_ ∨ _))

/-- How far the record itself says its sense data goes, within what was received. -/
def usableLength (c : ScsiCompletion) : Nat := min c.sense.length (8 + (c.byte 7).toNat)

/-- A fixed record cut between its ASC and its ASCQ. -/
def CutAfterAsc (c : ScsiCompletion) : Prop :=
  c.SenseWhole ∧ c.FixedFormat ∧ 8 ≤ c.sense.length ∧ c.usableLength = 13

instance (c : ScsiCompletion) : Decidable c.CutAfterAsc := inferInstanceAs (Decidable (_ ∧ _))

end ScsiCompletion

/-- `read_big_endian_u32` and `read_big_endian_u64`, by the number of bytes. -/
def readBigEndian (bytes : List UInt8) : Nat :=
  bytes.foldl (fun value byte => (value <<< 8) ||| byte.toNat) 0

/-- `information_lba_matches_request`, keeping the address when it does. -/
def informationLbaInRequest (c : ScsiCompletion) (informationLba : Nat) : Option Nat :=
  if c.requestedLba ≤ informationLba ∧
      informationLba - c.requestedLba < c.requestedBlockCount then some informationLba
  else none

def decodeFixedSense (c : ScsiCompletion) : DecodedSense :=
  let senseKey := if 3 ≤ c.sense.length then some (c.byte 2 &&& 0x0f) else none
  if c.sense.length < 8 then { responseCode := some c.responseByte, senseKey }
  else {
    recognizedFormat := true
    responseCode := some c.responseByte
    senseKey
    asc := if 13 ≤ c.usableLength then some (c.byte 12) else none
    ascq := if 14 ≤ c.usableLength then some (c.byte 13) else none
    informationLba := if c.byte 0 &&& 0x80 ≠ 0 then
      informationLbaInRequest c (readBigEndian ((c.sense.drop 3).take 4)) else none }

/-- What the walk over the descriptors has found so far. -/
structure InformationWalk where
  seen : Bool
  valid : Bool
  informationLba : Option Nat
  deriving DecidableEq

/-- The step of the walk at an information descriptor, `body` following its length byte. -/
def informationDescriptor (c : ScsiCompletion) (additional : UInt8) (body : List UInt8)
    (walk : InformationWalk) : InformationWalk :=
  if additional ≠ 0x0a ∨ walk.seen ∨ body.getD 0 0 &&& 0x7f ≠ 0 ∨ body.getD 1 0 ≠ 0 then
    { walk with valid := false }
  else if body.getD 0 0 &&& 0x80 ≠ 0 then
    { walk with
      seen := true
      informationLba :=
        (informationLbaInRequest c (readBigEndian ((body.drop 2).take 8))).or walk.informationLba }
  else { walk with seen := true }

/-- The descriptors one after another; `rest` is what lies before the descriptors' end. -/
def walkDescriptors (c : ScsiCompletion) (rest : List UInt8) (walk : InformationWalk) :
    InformationWalk :=
  match rest with
  | [] => walk
  | [_] => { walk with valid := false }
  | kind :: additional :: body =>
    if body.length < additional.toNat then { walk with valid := false }
    else walkDescriptors c (body.drop additional.toNat)
      (if kind = 0 then informationDescriptor c additional body walk else walk)
  termination_by rest.length
  decreasing_by simp only [List.length_drop, List.length_cons]; omega

def decodeDescriptorSense (c : ScsiCompletion) : DecodedSense :=
  if c.sense.length < 4 then { responseCode := some c.responseByte }
  else
    let decoded : DecodedSense := {
      recognizedFormat := true
      responseCode := some c.responseByte
      senseKey := some (c.byte 1 &&& 0x0f)
      asc := some (c.byte 2)
      ascq := some (c.byte 3) }
    if c.sense.length < 8 then decoded
    else
      let walk := walkDescriptors c ((c.sense.take c.usableLength).drop 8) {
        seen := false
        valid := 8 + (c.byte 7).toNat ≤ c.sense.length
        informationLba := none }
      { decoded with informationLba := if walk.valid then walk.informationLba else none }

def decodeSense (c : ScsiCompletion) : DecodedSense :=
  if ¬c.SenseWhole then {}
  else if c.FixedFormat then decodeFixedSense c
  else if ¬c.DescriptorFormat then { responseCode := some c.responseByte }
  else decodeDescriptorSense c

inductive BackendReadStatus where
  | success
  | mediumError
  | terminalFailure
  | outOfRangeError
  | ended
  | fatal
  deriving DecidableEq

inductive ReadFailureCategory where
  | unknown
  | notReady
  | unitAttention
  | hardwareError
  | transportError
  | protectionError
  deriving DecidableEq

structure ReadFailure where
  category : ReadFailureCategory
  status : BackendReadStatus
  completion : ScsiCompletion
  sense : DecodedSense
  deriving DecidableEq

def DecodedSense.isRecognizedDvdMediumReadError (sense : DecodedSense) : Bool :=
  sense.senseKey = some 0x03

def isRecognizedHostTransportFailure (hostStatus : UInt16) : Bool := hostStatus ≠ 0

def isRecognizedDriverTransportFailure (driverStatus : UInt16) : Bool :=
  let baseStatus := driverStatus &&& 0x0f
  baseStatus = 0x01 || baseStatus = 0x02 || baseStatus = 0x04 || baseStatus = 0x06

def DecodedSense.isRecognizedDvdProtectionError (sense : DecodedSense) : Bool :=
  sense.senseKey = some 0x07 || (sense.senseKey = some 0x05 && sense.asc = some 0x6f)

def DecodedSense.isRecognizedDvdOutOfRangeError (sense : DecodedSense) : Bool :=
  sense.senseKey = some 0x05 && sense.asc = some 0x21 && sense.ascq = some 0x00 &&
    sense.informationLba.isSome

def hasCheckConditionSense (c : ScsiCompletion) (sense : DecodedSense) : Bool :=
  let driverBaseStatus := c.driverStatus &&& 0x0f
  c.captured && c.commandCompleted && sense.recognizedFormat &&
    c.scsiStatus &&& 0xfe = 0x02 && c.hostStatus = 0 &&
    (driverBaseStatus = 0x00 || driverBaseStatus = 0x08) &&
    sense.senseKey.isSome && sense.asc.isSome && sense.ascq.isSome

def hasCurrentCheckConditionSense (c : ScsiCompletion) (sense : DecodedSense) : Bool :=
  hasCheckConditionSense c sense &&
    (sense.responseCode = some 0x70 || sense.responseCode = some 0x72)

def hasDeferredMediumSense (failure : ReadFailure) : Bool :=
  hasCheckConditionSense failure.completion failure.sense &&
    (failure.sense.responseCode = some 0x71 || failure.sense.responseCode = some 0x73) &&
    failure.sense.senseKey = some 0x03

/-- The reader's class of a failed read, and its category when it is terminal. -/
def readFailureClass (c : ScsiCompletion) (sense : DecodedSense) :
    BackendReadStatus × ReadFailureCategory :=
  if ¬c.captured ∨ ¬c.commandCompleted then (.terminalFailure, .unknown)
  else if isRecognizedHostTransportFailure c.hostStatus ∨
      (c.hostStatus = 0 ∧ isRecognizedDriverTransportFailure c.driverStatus) then
    (.terminalFailure, .transportError)
  else if ¬hasCurrentCheckConditionSense c sense then (.terminalFailure, .unknown)
  else if sense.senseKey = some 0x02 then (.terminalFailure, .notReady)
  else if sense.senseKey = some 0x06 then (.terminalFailure, .unitAttention)
  else if sense.isRecognizedDvdMediumReadError then (.mediumError, .unknown)
  else if sense.isRecognizedDvdOutOfRangeError then (.outOfRangeError, .unknown)
  else if sense.senseKey = some 0x04 then (.terminalFailure, .hardwareError)
  else if sense.isRecognizedDvdProtectionError then (.terminalFailure, .protectionError)
  else (.terminalFailure, .unknown)

def classifyReadFailure (completion : ScsiCompletion) : ReadFailure :=
  let sense := decodeSense completion
  let (status, category) := readFailureClass completion sense
  { category, status, completion, sense }

def ReadFailureCategory.name : ReadFailureCategory → String
  | notReady => "not_ready"
  | unitAttention => "unit_attention"
  | hardwareError => "hardware_error"
  | transportError => "transport_error"
  | protectionError => "protection_error"
  | unknown => "unknown"

def backendReadHasTerminalFailureResult (status : BackendReadStatus) : Bool :=
  status = .terminalFailure || status = .outOfRangeError

end RipDvd
