import RipDvd.ArchiveRequests
import RipDvd.Confirmation
import Mathlib.Logic.Function.Basic

namespace RipDvd.ArchiveQueue
set_option autoImplicit true

def ARCHIVE_JOB_LEASE_DURATION_MS : Nat := 60000
def JOB_RECOVERY_LIMIT : Nat := 100
def ARCHIVE_PROGRESS_WRITE_INTERVAL_MS : Nat := 1000
def ARCHIVE_PROGRESS_WRITE_DELTA : Nat := 5

/-- What a process remembers of the progress of a job. -/
structure ArchiveProgress where
  token : String
  lastProgressAt : Nat
  latestBytes : Int
  latestEtaSeconds : Option Int
  latestPercent : Int
  latestPhase : ArchiveProgressPhase
  persistedPercent : Int
  persistedPhase : ArchiveProgressPhase
  persistedAt : Nat

/-- What a process keeps between its calls. -/
structure ProcessMemory where
  archiveProgress : String → Option ArchiveProgress
  expiredCancellationCursor : Option (Nat × String)

namespace ProcessMemory

def empty : ProcessMemory := ⟨fun _ => none, none⟩

def forget (memory : ProcessMemory) (archiveJobId : String) : ProcessMemory :=
  { memory with archiveProgress := Function.update memory.archiveProgress archiveJobId none }

def remember (memory : ProcessMemory) (archiveJobId : String) (progress : ArchiveProgress) :
    ProcessMemory :=
  { memory with
    archiveProgress := Function.update memory.archiveProgress archiveJobId (some progress) }

/-- The progress of a claim that has not been written yet. -/
def archiveProgressPatchForClaim (memory : ProcessMemory) (archiveJobId claimToken : String)
    (job : ArchiveJob) : ArchiveJob :=
  match memory.archiveProgress archiveJobId with
  | none => job
  | some progress =>
    if progress.token ≠ claimToken then job
    else
      { job with
        progressPhase := progress.latestPhase
        progressPercent := progress.latestPercent
        progressBytes := progress.latestBytes
        progressEtaSeconds := progress.latestEtaSeconds
        lastProgressAt := progress.lastProgressAt }

def archiveTerminalProgressPatchForClaim (memory : ProcessMemory)
    (archiveJobId claimToken : String) (job : ArchiveJob) : ArchiveJob :=
  { memory.archiveProgressPatchForClaim archiveJobId claimToken job with
    progressEtaSeconds := none }

end ProcessMemory

/-- The row of a running attempt of this claim. -/
def ArchiveJob.HeldBy (claim job : ArchiveJob) : Prop :=
  job.id = claim.id ∧ job.Running ∧ job.claimToken = claim.claimToken

def ArchiveJob.Leased (timestamp : Nat) (job : ArchiveJob) : Prop :=
  timestamp < job.updatedAt + ARCHIVE_JOB_LEASE_DURATION_MS

instance (claim job : ArchiveJob) : Decidable (claim.HeldBy job) :=
  inferInstanceAs (Decidable (_ ∧ _ ∧ _))

instance (timestamp : Nat) (job : ArchiveJob) : Decidable (job.Leased timestamp) :=
  inferInstanceAs (Decidable (_ < _))

def staleJobAttempt (claim : ArchiveJob) : ArchiveQueueFault :=
  .domain (.staleJobAttempt "archive job" claim.id)

def requireLegacyArchiveJobMutation (claim : ArchiveJob) : Except ArchiveQueueFault Unit :=
  assertDvdRecoveryEvidenceAdmissionAvailable claim.evidenceFormat

/-- The job of a claim, rewritten; a claim that no longer holds it is stale. -/
def updateHeld (claim : ArchiveJob) (p : ArchiveJob → Prop) [DecidablePred p]
    (f : ArchiveJob → ArchiveJob) (t : Tables) :
      Except ArchiveQueueFault (ArchiveJob × Tables) := do
  let (updated, t') ← t.updateJob p f
  match updated with
  | none => .error (staleJobAttempt claim)
  | some job => return (job, t')

def requireNonEmptyText (value field : String) : Except ArchiveQueueFault String :=
  withError .domain (requireNonEmpty (trim value) field)

section Starting

variable (createDvdMetadataFingerprint : Nat → DvdTitleMap → Option String → String)

def compareQueued (a b : RequestCandidate) : Ordering :=
  (compare b.request.priority a.request.priority).then
    ((compare a.request.createdAt b.request.createdAt).then (compare a.request.id b.request.id))

/-- The pending requests that may be for a disc, the most urgent first. -/
def pendingCandidates (disc : DetectedDisc) (t : Tables) :
    Except ArchiveQueueFault (List RequestCandidate) := do
  let candidates := sortBy compareQueued (t.candidates fun request requested =>
    request.status = .pending && requested.discKind = disc.discKind &&
      (requested.fingerprint = disc.fingerprint || request.rearchiveSourceArchiveId.isSome))
  rejectIf (ACTIVE_ARCHIVE_REQUEST_IDENTITY_LIMIT < candidates.length)
    (invariantFault "Pending Archive Request identity lookup exceeds the safety limit")
  return candidates

def admitsPending (disc : DetectedDisc) (candidate : RequestCandidate) (t : Tables) :
    Except ArchiveQueueFault Bool :=
  if candidate.request.evidenceFormat ≠ none then .ok false
  else if candidate.disc.fingerprint = disc.fingerprint then .ok true
  else
    match candidate.request.rearchiveSourceArchiveId with
    | none => .ok false
    | some sourceArchiveId => originalArchiveMatchesFingerprintOrContentIdAlias
        createDvdMetadataFingerprint sourceArchiveId disc.fingerprint t

/-- The first candidate that passes a test, the tests stopping there. -/
def anyCandidate (test : RequestCandidate → Except ArchiveQueueFault Bool) :
    List RequestCandidate → Except ArchiveQueueFault Bool
  | [] => .ok false
  | candidate :: rest => do
    let found ← test candidate
    if found then return true else anyCandidate test rest

def hasPendingArchiveRequestForDisc (disc : DetectedDisc) (t : Tables) :
    Except ArchiveQueueFault Bool := do
  let candidates ← pendingCandidates disc t
  anyCandidate (admitsPending createDvdMetadataFingerprint disc · t) candidates

/-- The disc of a current, completed inspection. -/
def inspectedDisc (inspectionId : String) (t : Tables) : Option DetectedDisc :=
  (t.inspections.find? fun inspection =>
    inspection.id = inspectionId ∧ inspection.isCurrent ∧ inspection.isCompleted).bind
      fun inspection => inspection.detectedDiscId.bind t.findDisc

/-- What is read before the transaction of a start: it only goes on when something waits. -/
def startPreflight (inspectionId : String) (t : Tables) : Except ArchiveQueueFault Bool :=
  match inspectedDisc inspectionId t with
  | none => .ok false
  | some disc => do
    let pending ← hasPendingArchiveRequestForDisc createDvdMetadataFingerprint disc t
    if pending then do
      requireLegacyDvdArchiveIdentitiesResolved disc.discKind disc.fingerprint t
      return true
    else return false

/-- The inspection of a disc in a drive that is present and enabled. -/
def admittedInspection (inspectionId : String) (t : Tables) : Option (DiscInspection × String) :=
  (t.inspections.find? fun inspection =>
    inspection.id = inspectionId ∧ inspection.isCurrent ∧ inspection.isCompleted ∧
      (t.drives.any fun drive =>
        drive.id = inspection.opticalDriveId && drive.isPresent && drive.isEnabled)).bind
      fun inspection => inspection.detectedDiscId.map fun discId => (inspection, discId)

/-- The pending requests that are for the disc at hand. -/
def matchingPending (disc : DetectedDisc) (inspection : DiscInspection) (t : Tables) :
    Except ArchiveQueueFault (List RequestCandidate) := do
  let candidates ← pendingCandidates disc t
  match candidates.find? (·.disc.id = disc.id) with
  | none => pure ()
  | some exact =>
    rejectIf (exact.disc.status ≠ requiredArchiveRequestDiscStatus exact.request)
      (invariantFault
        s!"pending Archive Request references a {exact.disc.status.text} Detected Disc")
  matchingCandidates (fun candidate =>
    if candidate.disc.id = disc.id then .ok true
    else archiveRequestMatchesDvdContinuationIdentity createDvdMetadataFingerprint disc
      inspection.totalBytes candidate (declaredByteCountForArchiveRequest candidate.request t) t)
    candidates

/-- A running job on a disc of the same content or in the same drive. -/
def Tables.conflicting (t : Tables) (disc : DetectedDisc) : Bool :=
  t.jobs.any fun job => job.Running && t.discs.any fun other => other.id = job.detectedDiscId &&
    (other.fingerprint = disc.fingerprint || other.opticalDriveId = disc.opticalDriveId)

def Tables.lastAttempt (t : Tables) (archiveRequestId : String) : Nat :=
  ((t.jobs.filter (·.archiveRequestId = archiveRequestId)).map (·.attemptOrdinal)).foldl max 0

def startedJob (id workerId claimToken inspectionId : String) (disc : DetectedDisc)
    (request : ArchiveRequest) (attempt timestamp : Nat) : ArchiveJob where
  id := id
  archiveRequestId := request.id
  discInspectionId := inspectionId
  detectedDiscId := disc.id
  originalDiscArchiveId := none
  evidenceFormat := request.evidenceFormat
  attemptOrdinal := attempt + 1
  status := .running
  priority := request.priority
  progressPhase := .preparing
  progressPercent := 0
  progressBytes := 0
  progressEtaSeconds := none
  lastProgressAt := timestamp
  claimedBy := workerId
  claimToken := claimToken
  claimedAt := timestamp
  startedAt := timestamp
  completedAt := none
  errorMessage := none
  hasFailureDetail := false
  readFailure := none
  createdAt := timestamp
  updatedAt := timestamp

/-- Start the request of a disc, unless a running job stands in its way. -/
def startRequest (inspectionId workerId newId claimToken : String) (disc : DetectedDisc)
    (request : ArchiveRequest) (timestamp : Nat) (t : Tables) :
    Except ArchiveQueueFault (Option ArchiveJob × Tables) :=
  if t.conflicting disc then .ok (none, t)
  else do
    let (transitioned, t') ← t.updateRequest
      (fun row => row.id = request.id ∧ row.status = .pending)
      fun row => { row with status := .running, updatedAt := timestamp }
    if transitioned.isNone then return (none, t')
    let job := startedJob newId workerId claimToken inspectionId disc request
      (t.lastAttempt request.id) timestamp
    let t'' ← t'.commitJobs (t'.jobs ++ [job])
    return (some job, t'')

/-- A pending request whose content has been archived meanwhile is fulfilled instead. -/
def startPending (inspectionId workerId newId claimToken : String) (disc : DetectedDisc)
    (request : ArchiveRequest) (timestamp : Nat) (t : Tables) :
    Except ArchiveQueueFault (Option ArchiveJob × Tables) :=
  if request.evidenceFormat ≠ none then .ok (none, t)
  else if request.rearchiveSourceArchiveId ≠ none then
    startRequest inspectionId workerId newId claimToken disc request timestamp t
  else do
    let archived ← findOriginalArchiveByFingerprintOrContentIdAlias createDvdMetadataFingerprint
      disc.fingerprint t
    if archived.isSome then do
      let (_, t') ← t.updateRequest (fun row => row.id = request.id ∧ row.status = .pending)
        fun row => { row with
          status := .fulfilled
          fulfilledAt := some timestamp
          updatedAt := timestamp }
      return (none, t')
    else startRequest inspectionId workerId newId claimToken disc request timestamp t

def startInspected (inspectionId workerId newId claimToken : String) (timestamp : Nat)
    (t : Tables) :
    Except ArchiveQueueFault (Option ArchiveJob × Tables) :=
  match admittedInspection inspectionId t with
  | none => .ok (none, t)
  | some (inspection, discId) => do
    let disc ← requireRow "detected disc" discId
      ((t.findDisc discId).filter (·.opticalDriveId = inspection.opticalDriveId))
    let matching ← matchingPending createDvdMetadataFingerprint disc inspection t
    rejectIf (1 < matching.length)
      (invariantFault "Disc identity matches multiple pending Archive Requests")
    match matching.head? with
    | none => return (none, t)
    | some candidate =>
      startPending createDvdMetadataFingerprint inspectionId workerId newId claimToken disc
        candidate.request timestamp t

/-- Start the job of an inspected disc; the preflight read what the tables held before. -/
def startForInspection (seen : Tables) (inspectionId workerIdInput newId claimToken : String)
    (timestamp : Nat) (memory : ProcessMemory) (t : Tables) :
    Except ArchiveQueueFault (Option ArchiveJob × ProcessMemory × Tables) := do
  let workerId ← requireNonEmptyText workerIdInput "workerId"
  let goes ← startPreflight createDvdMetadataFingerprint inspectionId seen
  if !goes then return (none, memory, t)
  let (started, t') ← startInspected createDvdMetadataFingerprint inspectionId workerId newId
    claimToken timestamp t
  match started with
  | none => return (none, memory, t')
  | some job => return (some job, memory.forget job.id, t')

end Starting

def renewClaim (claim : ArchiveJob) (timestamp : Nat) (t : Tables) :
    Except ArchiveQueueFault (ArchiveJob × Tables) := do
  requireLegacyArchiveJobMutation claim
  updateHeld claim (fun job => claim.HeldBy job ∧ job.Leased timestamp)
    (fun job => { job with updatedAt := timestamp }) t

/-- A progress report; one that is a mere number keeps the phase of the claim. -/
structure ArchiveJobProgress where
  phase : Option ArchiveProgressPhase
  progressPercent : Int
  progressBytes : Option Int
  etaSeconds : Option Int

def requireProgress (progress : ArchiveJobProgress) : Except ArchiveQueueFault Unit := do
  rejectIf (progress.progressPercent < 0 ∨ 100 < progress.progressPercent)
    (invariantFault "progressPercent must be an integer between 0 and 100")
  rejectIf (∃ bytes ∈ progress.progressBytes, bytes < 0 ∨ (maxSafeInteger : Int) < bytes)
    (invariantFault "progressBytes must be a non-negative safe integer")
  rejectIf (∃ eta ∈ progress.etaSeconds, eta < 0 ∨ (maxSafeInteger : Int) < eta)
    (invariantFault "etaSeconds must be a non-negative safe integer or null")

/-- What a report says of a job, beside what the process or the claim knew of it. -/
structure ReportedProgress where
  phase : ArchiveProgressPhase
  percent : Int
  bytes : Int
  etaSeconds : Option Int
  lastProgressAt : Nat

def reportedProgress (claim : ArchiveJob) (progress : ArchiveJobProgress)
    (previous : Option ArchiveProgress) (timestamp : Nat) : ReportedProgress :=
  let phase := progress.phase.getD claim.progressPhase
  let previousBytes := (previous.map (·.latestBytes)).getD claim.progressBytes
  let bytes := max previousBytes (progress.progressBytes.getD previousBytes)
  let madeForwardProgress := phase ≠ (previous.map (·.latestPhase)).getD claim.progressPhase ∨
    previousBytes < bytes ∨ (progress.progressBytes = none ∧
      (previous.map (·.latestPercent)).getD claim.progressPercent < progress.progressPercent)
  { phase := phase
    percent := progress.progressPercent
    bytes := bytes
    etaSeconds := progress.etaSeconds
    lastProgressAt := if madeForwardProgress then timestamp
      else (previous.map (·.lastProgressAt)).getD claim.lastProgressAt }

def ReportedProgress.apply (reported : ReportedProgress) (job : ArchiveJob) : ArchiveJob :=
  { job with
    lastProgressAt := reported.lastProgressAt
    progressBytes := reported.bytes
    progressEtaSeconds := reported.etaSeconds
    progressPhase := reported.phase
    progressPercent := reported.percent }

def shouldPersist (claim : ArchiveJob) (reported : ReportedProgress) (timestamp : Nat)
    (previous : ArchiveProgress) : Prop :=
  previous.token ≠ claim.claimToken ∨ previous.persistedPhase ≠ reported.phase ∨
    ARCHIVE_PROGRESS_WRITE_INTERVAL_MS ≤ timestamp - previous.persistedAt ∨
    ARCHIVE_PROGRESS_WRITE_DELTA ≤ (reported.percent - previous.persistedPercent).natAbs

instance (claim : ArchiveJob) (reported : ReportedProgress) (timestamp : Nat)
    (previous : ArchiveProgress) : Decidable (shouldPersist claim reported timestamp previous) :=
  inferInstanceAs (Decidable (_ ∨ _ ∨ _ ∨ _))

/-- A report that is written down. -/
def persistProgress (claim : ArchiveJob) (reported : ReportedProgress) (timestamp : Nat)
    (memory : ProcessMemory) (t : Tables) :
    Except ArchiveQueueFault (ArchiveJob × ProcessMemory × Tables) := do
  let (updated, t') ← updateHeld claim (fun job => claim.HeldBy job ∧ job.Leased timestamp)
    (fun job => { reported.apply job with updatedAt := timestamp }) t
  return (updated, memory.remember claim.id
    { token := claim.claimToken
      lastProgressAt := reported.lastProgressAt
      latestBytes := reported.bytes
      latestEtaSeconds := reported.etaSeconds
      latestPercent := reported.percent
      latestPhase := reported.phase
      persistedPercent := reported.percent
      persistedPhase := reported.phase
      persistedAt := timestamp }, t')

/-- A report is written down when it is due, and otherwise only remembered by the process. -/
def updateProgress (claim : ArchiveJob) (progress : ArchiveJobProgress) (timestamp : Nat)
    (memory : ProcessMemory) (t : Tables) :
    Except ArchiveQueueFault (ArchiveJob × ProcessMemory × Tables) := do
  requireLegacyArchiveJobMutation claim
  requireProgress progress
  let reported := reportedProgress claim progress (memory.archiveProgress claim.id) timestamp
  match memory.archiveProgress claim.id with
  | none => persistProgress claim reported timestamp memory t
  | some previous =>
    if shouldPersist claim reported timestamp previous then
      persistProgress claim reported timestamp memory t
    else return (reported.apply claim, memory.remember claim.id { previous with
      lastProgressAt := reported.lastProgressAt
      latestBytes := reported.bytes
      latestEtaSeconds := reported.etaSeconds
      latestPercent := reported.percent
      latestPhase := reported.phase }, t)

structure ArchiveReadFailureEvidence where
  stage : ArchiveReadFailureStage
  category : ArchiveReadFailureCategory
  classifierVersion : String
  failingLba : Int
  requestedBlockCount : Int
  retryCount : Int
  scsiStatus : Option Int
  hostStatus : Option Int
  driverStatus : Option Int
  senseKey : Option Int
  asc : Option Int
  ascq : Option Int

def requireSafeIntegerInRange (value : Int) (field : String) (minimum maximum : Int) :
    Except ArchiveQueueFault Int := do
  rejectIf (value < minimum ∨ maximum < value)
    (invariantFault s!"{field} must be a safe integer between {minimum} and {maximum}")
  return value

def optionalSafeInteger (value : Option Int) (field : String) (minimum maximum : Int) :
    Except ArchiveQueueFault (Option Nat) :=
  match value with
  | none => .ok none
  | some value => do
    let accepted ← requireSafeIntegerInRange value field minimum maximum
    return some accepted.toNat

def archiveReadFailurePatch (evidence : ArchiveReadFailureEvidence) :
    Except ArchiveQueueFault ArchiveReadFailure := do
  let classifierVersion ← requireNonEmptyText evidence.classifierVersion
    "read failure classifierVersion"
  rejectIf (128 < (codeUnits classifierVersion).length)
    (invariantFault "read failure classifierVersion exceeds 128 characters")
  let scsiStatus ← optionalSafeInteger evidence.scsiStatus "read failure scsiStatus" 0 0xff
  let hostStatus ← optionalSafeInteger evidence.hostStatus "read failure hostStatus" 0 0xffff
  let driverStatus ← optionalSafeInteger evidence.driverStatus "read failure driverStatus" 0 0xffff
  rejectIf ((∃ status ∈ [scsiStatus, hostStatus, driverStatus], status = none) ∧
      ∃ status ∈ [scsiStatus, hostStatus, driverStatus], status ≠ none)
    (invariantFault "read failure transport status must be complete or unavailable")
  let asc ← optionalSafeInteger evidence.asc "read failure asc" 0 0xff
  let ascq ← optionalSafeInteger evidence.ascq "read failure ascq" 0 0xff
  rejectIf (asc.isNone ≠ ascq.isNone)
    (invariantFault "read failure ASC and ASCQ must both be present or unavailable")
  let senseKey ← optionalSafeInteger evidence.senseKey "read failure senseKey" 0 0x0f
  let scsi := ArchiveReadFailureScsiEvidence.mk scsiStatus hostStatus driverStatus senseKey asc ascq
  rejectIf (¬isArchiveReadFailureEvidenceConsistent evidence.category scsi)
    (invariantFault "read failure evidence does not match category")
  let failingLba ← requireSafeIntegerInRange evidence.failingLba "read failure failingLba" 0
    maxSafeInteger
  let requestedBlockCount ← requireSafeIntegerInRange evidence.requestedBlockCount
    "read failure requestedBlockCount" 1 0xffffffff
  let retryCount ← requireSafeIntegerInRange evidence.retryCount "read failure retryCount" 0
    0xffffffff
  return ⟨evidence.stage, evidence.category, classifierVersion, failingLba, requestedBlockCount,
    retryCount, scsi⟩

def ARCHIVE_READ_FAILURE_MESSAGES : ArchiveReadFailureCategory → String
  | .unknown => "The Optical Drive returned an unclassified read failure"
  | .notReady => "The Optical Drive was not ready to read the disc"
  | .unitAttention => "The Optical Drive reported a media change"
  | .hardwareError => "The Optical Drive reported a hardware fault"
  | .transportError => "Communication with the Optical Drive failed"
  | .protectionError => "DVD copy protection or region access failed"
  | .outOfRange => "The Optical Drive reported a readable-boundary disagreement"

def MAX_ERROR_MESSAGE_LENGTH : Nat := 500

def errorMessageOf (input : String) : Except ArchiveQueueFault String := do
  let message ← requireNonEmptyText input "errorMessage"
  return String.ofList (message.toList.take MAX_ERROR_MESSAGE_LENGTH)

/-- The request of a settled job, in one of the states it may be in. -/
def settleRequest (archiveRequestId : String) (statuses : List ArchiveRequestStatus)
    (f : ArchiveRequest → ArchiveRequest) (t : Tables) : Except ArchiveQueueFault Tables := do
  let (updated, t') ← t.updateRequest
    (fun row => row.id = archiveRequestId ∧ row.status ∈ statuses) f
  let _ ← requireRow "archive request" archiveRequestId updated
  return t'

def ArchiveRequest.endCancelled (timestamp : Nat) (request : ArchiveRequest) : ArchiveRequest :=
  { request with
    status := .cancelled
    cancelledAt := some timestamp
    updatedAt := timestamp }

def ArchiveRequest.attended (timestamp : Nat) (request : ArchiveRequest) : ArchiveRequest :=
  { request with
    status := .needsAttention
    updatedAt := timestamp }

/-- The end of a job, with the progress its process still remembers. -/
def ArchiveJob.ended (memory : ProcessMemory) (claim : ArchiveJob) (status : ArchiveJobStatus)
    (errorMessage : String) (timestamp : Nat) (job : ArchiveJob) : ArchiveJob :=
  { memory.archiveTerminalProgressPatchForClaim claim.id claim.claimToken job with
    status := status
    completedAt := some timestamp
    errorMessage := some errorMessage
    updatedAt := timestamp }

def ArchiveJob.failedAs (memory : ProcessMemory) (claim : ArchiveJob) (errorMessage : String)
    (readFailure : Option ArchiveReadFailure) (timestamp : Nat) (job : ArchiveJob) : ArchiveJob :=
  { ArchiveJob.ended memory claim .failed errorMessage timestamp job with
    hasFailureDetail := true
    readFailure := readFailure.or job.readFailure }

/-- A job fails, or is aborted when the cancellation of its request has won. -/
def settleFailed (claim : ArchiveJob) (errorMessage : String)
    (readFailure : Option ArchiveReadFailure) (timestamp : Nat) (memory : ProcessMemory)
    (t : Tables) : Except ArchiveQueueFault (ArchiveJob × Tables) := do
  let request ← (t.requests.find? fun row =>
    row.id = claim.archiveRequestId ∧ row.Active).elim (.error (staleJobAttempt claim)) .ok
  if request.status = .cancellationRequested then
    let (job, t') ← updateHeld claim (fun job => claim.HeldBy job ∧ job.Leased timestamp)
      (ArchiveJob.ended memory claim .aborted "Archive cancelled by operator" timestamp) t
    let t'' ← settleRequest job.archiveRequestId [request.status]
      (ArchiveRequest.endCancelled timestamp) t'
    return (job, t'')
  else
    let (job, t') ← updateHeld claim (fun job => claim.HeldBy job ∧ job.Leased timestamp)
      (ArchiveJob.failedAs memory claim errorMessage readFailure timestamp) t
    let t'' ← settleRequest job.archiveRequestId [request.status]
      (ArchiveRequest.attended timestamp) t'
    return (job, t'')

def failArchiveJob (claim : ArchiveJob) (errorMessageInput : String)
    (readFailure : Option ArchiveReadFailureEvidence) (timestamp : Nat) (memory : ProcessMemory)
    (t : Tables) : Except ArchiveQueueFault (ArchiveJob × ProcessMemory × Tables) := do
  requireLegacyArchiveJobMutation claim
  let errorMessage ← errorMessageOf errorMessageInput
  let readFailureValues ← readFailure.mapM archiveReadFailurePatch
  let (job, t') ← settleFailed claim errorMessage readFailureValues timestamp memory t
  return (job, memory.forget claim.id, t')

def fail (claim : ArchiveJob) (errorMessage : String) :=
  failArchiveJob claim errorMessage none

def failWithReadFailure (claim : ArchiveJob) (evidence : ArchiveReadFailureEvidence) :=
  failArchiveJob claim (ARCHIVE_READ_FAILURE_MESSAGES evidence.category) (some evidence)

/-- The claim is of a job that saves evidence, whose cancellation alone is still served. -/
def isClosedEvidenceCancellation (claim : ArchiveJob) : Prop :=
  claim.evidenceFormat = some DVD_RECOVERY_EVIDENCE_FORMAT

instance (claim : ArchiveJob) : Decidable (isClosedEvidenceCancellation claim) :=
  inferInstanceAs (Decidable (_ = _))

/-- The end of a cancelled job; one that saves evidence writes no progress. -/
def ArchiveJob.aborted (memory : ProcessMemory) (claim : ArchiveJob) (errorMessage : String)
    (timestamp : Nat) (job : ArchiveJob) : ArchiveJob :=
  if isClosedEvidenceCancellation claim then
    { job with
      status := .aborted
      completedAt := some timestamp
      errorMessage := some errorMessage
      updatedAt := timestamp }
  else ArchiveJob.ended memory claim .aborted errorMessage timestamp job

/-- A job that saves evidence is only aborted when its cancellation was requested. -/
def requireEvidenceCancellation (claim : ArchiveJob) (t : Tables) :
    Except ArchiveQueueFault Unit :=
  if isClosedEvidenceCancellation claim then
    match t.jobs.find? fun job =>
      claim.HeldBy job ∧ job.evidenceFormat = some DVD_RECOVERY_EVIDENCE_FORMAT with
    | none => .error (staleJobAttempt claim)
    | some job =>
      match t.findRequest job.archiveRequestId with
      | none => .error (staleJobAttempt claim)
      | some request => rejectIf (request.status ≠ .cancellationRequested) .evidenceAdmissionClosed
  else .ok ()

def abort (claim : ArchiveJob) (errorMessageInput : String) (timestamp : Nat)
    (memory : ProcessMemory) (t : Tables) :
    Except ArchiveQueueFault (ArchiveJob × ProcessMemory × Tables) := do
  let errorMessage ← errorMessageOf errorMessageInput
  requireEvidenceCancellation claim t
  let (job, t') ← updateHeld claim (fun job => claim.HeldBy job ∧
      (isClosedEvidenceCancellation claim →
        job.evidenceFormat = some DVD_RECOVERY_EVIDENCE_FORMAT) ∧ job.Leased timestamp)
    (ArchiveJob.aborted memory claim errorMessage timestamp) t
  let t'' ← settleRequest job.archiveRequestId
    (if isClosedEvidenceCancellation claim then [.cancellationRequested]
      else [.running, .cancellationRequested])
    (fun request =>
      if isClosedEvidenceCancellation claim then request.endCancelled timestamp
      else { request.endCancelled timestamp with cancellationRequestedAt := some timestamp }) t'
  return (job, memory.forget claim.id, t'')

/-- The job is completed by an archive of its disc; its lease is not asked for. -/
def complete (claim : ArchiveJob) (originalDiscArchiveId : String) (timestamp : Nat)
    (memory : ProcessMemory) (t : Tables) :
    Except ArchiveQueueFault (ArchiveJob × ProcessMemory × Tables) := do
  let archive ← requireRow "original disc archive" originalDiscArchiveId
    (t.findArchive originalDiscArchiveId)
  rejectIf (archive.detectedDiscId ≠ claim.detectedDiscId)
    (invariantFault "Archive Job result must belong to the job's Detected Disc")
  let (job, t') ← updateHeld claim (fun job => claim.HeldBy job)
    (fun job => { memory.archiveTerminalProgressPatchForClaim claim.id claim.claimToken job with
      originalDiscArchiveId := some originalDiscArchiveId
      status := .completed
      progressPhase := .finalizing
      progressPercent := 100
      lastProgressAt := timestamp
      completedAt := some timestamp
      updatedAt := timestamp }) t
  let (_, t'') ← t'.updateRequest (fun row => row.id = job.archiveRequestId)
    fun row => { row with
      status := .fulfilled
      fulfilledAt := some timestamp
      updatedAt := timestamp }
  return (job, memory.forget claim.id, t'')

def compareJobs (a b : ArchiveJob) : Ordering :=
  (compare a.updatedAt b.updatedAt).then (compare a.id b.id)

def ArchiveJob.ExpiredAt (timestamp : Nat) (job : ArchiveJob) : Prop :=
  job.Running ∧ job.updatedAt + ARCHIVE_JOB_LEASE_DURATION_MS ≤ timestamp

instance (timestamp : Nat) (job : ArchiveJob) : Decidable (job.ExpiredAt timestamp) :=
  inferInstanceAs (Decidable (_ ∧ _))

/-- The running jobs whose lease has expired, by the state of their request. -/
def Tables.expiredJobs (t : Tables) (timestamp : Nat) (keep : ArchiveRequestStatus → Bool) :
    List ArchiveJob :=
  sortBy compareJobs (t.jobs.filter fun job => job.ExpiredAt timestamp ∧
    ∃ request ∈ t.requests, request.id = job.archiveRequestId ∧ keep request.status)

/-- Fail one expired job, if it still is one. -/
def recoverExpired (memory : ProcessMemory) (timestamp : Nat) (candidate : ArchiveJob)
    (t : Tables) : Except ArchiveQueueFault (Option ArchiveJob × Tables) := do
  let (failed, t') ← t.updateJob (fun job => job.id = candidate.id ∧ job.ExpiredAt timestamp)
    (ArchiveJob.failedAs memory candidate "Archive worker lease expired" none timestamp)
  match failed with
  | none => return (none, t')
  | some job => do
    let t'' ← settleRequest candidate.archiveRequestId [.running]
      (ArchiveRequest.attended timestamp)
      t'
    return (some job, t'')

def recoverAll (memory : ProcessMemory) (timestamp : Nat) :
    List ArchiveJob → Tables → Except ArchiveQueueFault (List ArchiveJob × Tables)
  | [], t => .ok ([], t)
  | candidate :: rest, t => do
    let (failed, t') ← recoverExpired memory timestamp candidate t
    let (recovered, t'') ← recoverAll memory timestamp rest t'
    return (failed.toList ++ recovered, t'')

def recoverExpiredClaims (timestamp : Nat) (memory : ProcessMemory) (t : Tables) :
    Except ArchiveQueueFault (List ArchiveJob × ProcessMemory × Tables) := do
  let expired := ((t.expiredJobs timestamp (· ≠ .cancellationRequested)).filter
    (·.evidenceFormat = none)).take JOB_RECOVERY_LIMIT
  let (recovered, t') ← recoverAll memory timestamp expired t
  return (recovered, recovered.foldl (fun memory job => memory.forget job.id) memory, t')

/-- The expired cancellations behind a cursor, one page of them. -/
def listAfter (cursor : Option (Nat × String)) (timestamp : Nat) (t : Tables) : List ArchiveJob :=
  ((t.expiredJobs timestamp (· = .cancellationRequested)).filter fun job =>
    ∀ last ∈ cursor, (compare last.1 job.updatedAt).then (compare last.2 job.id) = .lt).take
      JOB_RECOVERY_LIMIT

def cursorAfter (jobs : List ArchiveJob) : Option (Nat × String) :=
  if jobs.length = JOB_RECOVERY_LIMIT then jobs.getLast?.map fun job => (job.updatedAt, job.id)
  else none

/-- The next page of the expired cancellations, from the first again when none is left. -/
def listExpiredCancellations (timestamp : Nat) (memory : ProcessMemory) (t : Tables) :
    List ArchiveJob × ProcessMemory :=
  let next := listAfter memory.expiredCancellationCursor timestamp t
  let jobs := if next = [] then listAfter none timestamp t else next
  (jobs, { memory with expiredCancellationCursor := cursorAfter jobs })

def finalizeExpiredCancellation (claim : ArchiveJob) (timestamp : Nat) (memory : ProcessMemory)
    (t : Tables) : Except ArchiveQueueFault (ArchiveJob × ProcessMemory × Tables) := do
  let (job, t') ← updateHeld claim (fun job => claim.HeldBy job ∧
      job.archiveRequestId = claim.archiveRequestId ∧ job.detectedDiscId = claim.detectedDiscId ∧
      (isClosedEvidenceCancellation claim →
        job.evidenceFormat = some DVD_RECOVERY_EVIDENCE_FORMAT) ∧ job.ExpiredAt timestamp ∧
      ∃ request ∈ t.requests, request.id = job.archiveRequestId ∧
        request.status = .cancellationRequested)
    (ArchiveJob.aborted memory claim "Archive cancelled after worker recovery" timestamp) t
  let t'' ← settleRequest job.archiveRequestId [.cancellationRequested]
    (ArchiveRequest.endCancelled timestamp) t'
  return (job, memory.forget claim.id, t'')

end RipDvd.ArchiveQueue
