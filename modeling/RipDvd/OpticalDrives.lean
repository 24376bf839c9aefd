import RipDvd.Confirmation
import RipDvd.Collections
import RipDvd.Transition

namespace RipDvd
set_option autoImplicit true

structure OpticalDriveReconciliationInput where
  devicePath : String
  displayName : Option String := none
  vendor : Option String := none
  product : Option String := none
  serialNumber : Option String := none
  isConfiguredDevice : Bool
  deriving DecidableEq

/-- A row of `optical_drives`. -/
structure OpticalDrive where
  id : String
  devicePath : String
  displayName : Option String
  vendor : Option String
  product : Option String
  serialNumber : Option String
  isEnabled : Bool
  configurationDefaultResolved : Bool
  isConfiguredTarget : Bool
  isPresent : Bool
  lastSeenAt : Nat
  deriving DecidableEq

structure OpticalDriveAuthorization where
  configurationDefaultResolved : Bool
  isEnabled : Bool
  deriving DecidableEq

/-- The columns of an authorization that an update sets. -/
structure OpticalDriveAuthorizationUpdate where
  configurationDefaultResolved : Option Bool := none
  isEnabled : Option Bool := none
  deriving DecidableEq

structure OpticalDriveReconciliationDecision where
  drive : OpticalDriveReconciliationInput
  existingId : Option String
  insertAuthorization : OpticalDriveAuthorization
  authorizationUpdate : OpticalDriveAuthorizationUpdate
  deriving DecidableEq

structure OpticalDriveReconciliationPlan where
  configuredTargetPath : Option String
  drives : List OpticalDriveReconciliationDecision
  deriving DecidableEq

/-- A serial number without its blanks, if there is one. -/
def serialText (serialNumber : Option String) : Option String :=
  (serialNumber.map trim).filter (· ≠ "")

abbrev OpticalDriveReconciliationInput.serial (drive : OpticalDriveReconciliationInput) :
    Option String := serialText drive.serialNumber

abbrev OpticalDrive.serial (drive : OpticalDrive) : Option String := serialText drive.serialNumber

def normalizeDiscovered (drive : OpticalDriveReconciliationInput) :
    Except DomainError OpticalDriveReconciliationInput := do
  let devicePath ← requireNonEmpty (trim drive.devicePath) "devicePath"
  return { drive with devicePath }

/-- The rows that share their serial number with another one. -/
def ambiguousSerial (existingDrives : List OpticalDrive) : Option String :=
  existingDrives.findSome? fun drive => drive.serial.filter fun serial =>
    1 < (existingDrives.filter (·.serial = some serial)).length

/-- The configured device is not the one that was configured before. -/
def ConfiguredTargetChanged (configuredTarget : Option OpticalDriveReconciliationInput)
    (previousConfiguredTarget : Option OpticalDrive) : Prop :=
  ∃ target ∈ configuredTarget, ∃ previous ∈ previousConfiguredTarget,
    target.devicePath ≠ previous.devicePath ∧
      ¬∃ serial ∈ target.serialNumber.map trim, previous.serialNumber.map trim = some serial

instance (configuredTarget : Option OpticalDriveReconciliationInput)
    (previousConfiguredTarget : Option OpticalDrive) :
    Decidable (ConfiguredTargetChanged configuredTarget previousConfiguredTarget) :=
  inferInstanceAs (Decidable (∃ target ∈ configuredTarget, _))

def serialMatch (existingDrives : List OpticalDrive) (drive : OpticalDriveReconciliationInput) :
    Option OpticalDrive :=
  drive.serial.bind fun serial => existingDrives.find? (·.serial = some serial)

/-- The row at a path that a drive without a known serial number goes on with. -/
def choosePathMatch (pathMatches : List OpticalDrive) : Option OpticalDrive :=
  match pathMatches.filter (·.isPresent) with
  | present :: _ => some present
  | [] =>
    match pathMatches with
    | [only] => some only
    | _ => none

/-- Match by path what the serial numbers have not matched, in the order of discovery. -/
def matchPaths (existingDrives : List OpticalDrive) (claimedExistingIds : List String) :
    List (OpticalDriveReconciliationInput × Option OpticalDrive) →
      Except DomainError (List (Option OpticalDrive))
  | [] => .ok []
  | (_, some serialMatch) :: rest => do
    let others ← matchPaths existingDrives claimedExistingIds rest
    return some serialMatch :: others
  | (drive, none) :: rest => do
    let pathMatches := existingDrives.filter fun candidate =>
      candidate.devicePath = drive.devicePath ∧ candidate.id ∉ claimedExistingIds
    let devicePath := drive.devicePath
    rejectIf (1 < (pathMatches.filter (·.isPresent)).length)
      (.invariant s!"Stored present Optical Drive path is ambiguous: {devicePath}")
    let pathMatch := choosePathMatch pathMatches
    let others ← matchPaths existingDrives (pathMatch.toList.map (·.id) ++ claimedExistingIds) rest
    return pathMatch :: others

/-- The stored row is not proven to be the discovered drive. -/
def IsReplacement (existing : OpticalDrive) (drive : OpticalDriveReconciliationInput) : Prop :=
  let stableIdentityMatches := existing.serial ≠ none ∧ existing.serial = drive.serial
  existing.serial ≠ drive.serial ∨
    ((existing.vendor ≠ drive.vendor ∨ existing.product ≠ drive.product) ∧
      ¬stableIdentityMatches) ∨
    (existing.isPresent = false ∧ ¬stableIdentityMatches)

instance (existing : OpticalDrive) (drive : OpticalDriveReconciliationInput) :
    Decidable (IsReplacement existing drive) :=
  inferInstanceAs (Decidable (_ ∨ _))

def authorizationUpdate (configuredTargetChanged : Prop) [Decidable configuredTargetChanged]
    (drive : OpticalDriveReconciliationInput) (existing : Option OpticalDrive) :
    OpticalDriveAuthorizationUpdate :=
  let resolved := existing.any (·.configurationDefaultResolved)
  if ∃ row ∈ existing, IsReplacement row drive then {
      configurationDefaultResolved := some (resolved || drive.isConfiguredDevice)
      isEnabled := some false }
  else if drive.isConfiguredDevice = true ∧ configuredTargetChanged then
    { configurationDefaultResolved := some true }
  else if drive.isConfiguredDevice = true ∧ ¬configuredTargetChanged ∧ resolved = false then {
      configurationDefaultResolved := some true
      isEnabled := some true }
  else {}

def decideDrive (configuredTargetChanged : Prop) [Decidable configuredTargetChanged]
    (drive : OpticalDriveReconciliationInput) (existing : Option OpticalDrive) :
    OpticalDriveReconciliationDecision where
  drive
  existingId := existing.map (·.id)
  insertAuthorization := {
    configurationDefaultResolved := drive.isConfiguredDevice
    isEnabled := drive.isConfiguredDevice && !decide configuredTargetChanged }
  authorizationUpdate := authorizationUpdate configuredTargetChanged drive existing

def planOpticalDriveReconciliation (discovered : List OpticalDriveReconciliationInput)
    (existingDrives : List OpticalDrive) : Except DomainError OpticalDriveReconciliationPlan := do
  let normalized ← discovered.mapM normalizeDiscovered
  rejectIf (¬(normalized.map (·.devicePath)).Nodup)
    (.invariant "Discovered Optical Drive paths must be unique")
  rejectIf (¬(normalized.filterMap (·.serial)).Nodup)
    (.invariant "Discovered Optical Drive serial numbers must be unique")
  rejectIf (1 < (normalized.filter (·.isConfiguredDevice)).length)
    (.invariant "A discovery snapshot can prove only one configured Optical Drive")
  match ambiguousSerial existingDrives with
  | some serial =>
    throw (.invariant s!"Stored Optical Drive serial number is ambiguous: {serial}")
  | none => do
    let configuredTarget := normalized.find? (·.isConfiguredDevice)
    let previousConfiguredTarget := existingDrives.find? (·.isConfiguredTarget)
    let serialMatches := normalized.map (serialMatch existingDrives)
    let existing ← matchPaths existingDrives ((serialMatches.filterMap id).map (·.id))
      (normalized.zip serialMatches)
    return {
      configuredTargetPath := configuredTarget.map (·.devicePath)
      drives := List.zipWith
        (decideDrive (ConfiguredTargetChanged configuredTarget previousConfiguredTarget))
        normalized existing }

/-- The row of a drive that has been discovered again. -/
def OpticalDrive.rediscovered (row : OpticalDrive) (timestamp : Nat)
    (decision : OpticalDriveReconciliationDecision) : OpticalDrive where
  id := row.id
  devicePath := decision.drive.devicePath
  displayName := decision.drive.displayName <|> row.displayName
  vendor := decision.drive.vendor
  product := decision.drive.product
  serialNumber := decision.drive.serialNumber
  isEnabled := decision.authorizationUpdate.isEnabled.getD row.isEnabled
  configurationDefaultResolved :=
    decision.authorizationUpdate.configurationDefaultResolved.getD row.configurationDefaultResolved
  isConfiguredTarget := decision.drive.isConfiguredDevice || row.isConfiguredTarget
  isPresent := true
  lastSeenAt := timestamp

/-- The row of a drive that has not been discovered before. -/
def OpticalDriveReconciliationDecision.inserted (decision : OpticalDriveReconciliationDecision)
    (id : String) (timestamp : Nat) : OpticalDrive where
  id
  devicePath := decision.drive.devicePath
  displayName := decision.drive.displayName
  vendor := decision.drive.vendor
  product := decision.drive.product
  serialNumber := decision.drive.serialNumber
  isEnabled := decision.insertAuthorization.isEnabled
  configurationDefaultResolved := decision.insertAuthorization.configurationDefaultResolved
  isConfiguredTarget := decision.drive.isConfiguredDevice
  isPresent := true
  lastSeenAt := timestamp

def applyDecision (timestamp : Nat) (rows : List OpticalDrive)
    (decision : OpticalDriveReconciliationDecision × String) : List OpticalDrive :=
  match decision.1.existingId with
  | some id => rows.map fun row =>
    if row.id = id then row.rediscovered timestamp decision.1 else row
  | none => rows ++ [decision.1.inserted decision.2 timestamp]

/-- The rows before the discovered drives are written: none is present, and none is the configured
target when another is about to be. -/
def OpticalDrive.unseen (configuredTargetPath : Option String) (row : OpticalDrive) :
    OpticalDrive :=
  { row with
    isConfiguredTarget := row.isConfiguredTarget && configuredTargetPath.isNone
    isPresent := false }

/-- `catalog.reconcileOpticalDrives`; `newIds` are the ids of the rows it may insert. -/
def reconcileOpticalDrives (newIds : List String) (timestamp : Nat)
    (discovered : List OpticalDriveReconciliationInput) (rows : List OpticalDrive) :
    Except DomainError (List OpticalDrive) := do
  let plan ← planOpticalDriveReconciliation discovered rows
  return (plan.drives.zip newIds).foldl (applyDecision timestamp)
    (rows.map (·.unseen plan.configuredTargetPath))

structure UpsertOpticalDriveInput where
  devicePath : String
  displayName : Option String := none
  vendor : Option String := none
  product : Option String := none
  serialNumber : Option String := none
  isEnabled : Option Bool := none
  isPresent : Bool
  deriving DecidableEq

/-- Present rows first, then the ones last seen. -/
def compareSeen : OpticalDrive → OpticalDrive → Ordering :=
  compareLex (fun a b => compare b.isPresent a.isPresent)
    (fun a b => compare b.lastSeenAt a.lastSeenAt)

/-- `catalog.upsertOpticalDrive`. -/
def upsertOpticalDrive (input : UpsertOpticalDriveInput) (newId : String) (timestamp : Nat)
    (rows : List OpticalDrive) : Except DomainError (List OpticalDrive) := do
  let devicePath ← requireNonEmpty (trim input.devicePath) "devicePath"
  match earliest compareSeen (rows.filter (·.devicePath = devicePath)) with
  | some existing => return rows.map fun row =>
      if row.id = existing.id then { row with
        displayName := input.displayName <|> row.displayName
        vendor := input.vendor <|> row.vendor
        product := input.product <|> row.product
        serialNumber := input.serialNumber <|> row.serialNumber
        isEnabled := input.isEnabled.getD row.isEnabled
        configurationDefaultResolved := input.isEnabled.isSome || row.configurationDefaultResolved
        isPresent := input.isPresent
        lastSeenAt := timestamp }
      else row
  | none => return rows ++ [{
      id := newId
      devicePath
      displayName := input.displayName
      vendor := input.vendor
      product := input.product
      serialNumber := input.serialNumber
      isEnabled := input.isEnabled.getD false
      configurationDefaultResolved := true
      isConfiguredTarget := false
      isPresent := input.isPresent
      lastSeenAt := timestamp }]

end RipDvd
