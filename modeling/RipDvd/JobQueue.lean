import RipDvd.Confirmation
import Mathlib.Logic.Function.Basic

namespace RipDvd
set_option autoImplicit true

def PROGRESS_WRITE_INTERVAL_MS : Nat := 1000
def PROGRESS_WRITE_DELTA : Nat := 5
def ENCODE_JOB_LEASE_DURATION_MS : Nat := 60000

inductive EncodeJobStatus where
  | queued
  | running
  | cancellationRequested
  | completed
  | failed
  | cancelled
  deriving DecidableEq

def EncodeJobStatus.text : EncodeJobStatus → String
  | queued => "queued"
  | running => "running"
  | cancellationRequested => "cancellation_requested"
  | completed => "completed"
  | failed => "failed"
  | cancelled => "cancelled"

inductive EncodeProgressPhase where
  | scanning
  | previewing
  | encoding
  | validation
  deriving DecidableEq

structure EncodeProgressDetails where
  phase : EncodeProgressPhase
  etaSeconds : Option Nat
  deriving DecidableEq

structure EncodeJob where
  id : String
  status : EncodeJobStatus
  progressPercent : Int
  progressPhase : Option EncodeProgressPhase
  progressEtaSeconds : Option Nat
  claimToken : Option String
  claimedBy : Option String
  claimedAt : Option Nat
  startedAt : Option Nat
  completedAt : Option Nat
  errorMessage : Option String
  updatedAt : Nat
  deriving DecidableEq

/-- What an attempt writes; what it leaves out stays as it is. -/
structure AttemptUpdate where
  status : Option EncodeJobStatus
  progressPercent : Int
  completedAt : Option Nat
  errorMessage : Option (Option String)
  updatedAt : Nat

def AttemptUpdate.apply (update : AttemptUpdate) (job : EncodeJob) : EncodeJob :=
  { job with
    status := update.status.getD job.status
    progressPercent := update.progressPercent
    completedAt := update.completedAt.or job.completedAt
    errorMessage := update.errorMessage.getD job.errorMessage
    updatedAt := update.updatedAt }

/-- The row is that of a running attempt whose lease has not expired. -/
def isActiveAttempt (token : String) (timestamp : Nat) (job : EncodeJob) : Prop :=
  job.status = .running ∧ job.claimToken = some token ∧
    timestamp < job.updatedAt + ENCODE_JOB_LEASE_DURATION_MS

instance (token : String) (timestamp : Nat) (job : EncodeJob) :
    Decidable (isActiveAttempt token timestamp job) :=
  inferInstanceAs (Decidable (_ ∧ _ ∧ _))

namespace encodeJobAdapter

def recordType : String := "encode job"

/-- The archive of the job may be encoded, as the catalog has it when the row is written. -/
abbrev Available := Bool

def claim (workerId token : String) (timestamp : Nat) (eligible : Bool) (job : EncodeJob) :
    Option EncodeJob :=
  if job.status = .queued ∧ eligible then
    some { job with
      status := .running
      claimedBy := some workerId
      claimToken := some token
      claimedAt := some timestamp
      startedAt := some timestamp
      errorMessage := none
      updatedAt := timestamp }
  else none

def updateAttempt (token : String) (update : AttemptUpdate) (available : Available)
    (job : EncodeJob) : Option EncodeJob :=
  if isActiveAttempt token update.updatedAt job ∧ available then
    some { update.apply job with
      progressEtaSeconds :=
        if update.status = some .completed ∨ update.status = some .failed then none
        else job.progressEtaSeconds }
  else none

def updateProgressAttempt (token : String) (update : AttemptUpdate)
    (details : EncodeProgressDetails) (available : Available) (job : EncodeJob) :
    Option EncodeJob :=
  if isActiveAttempt token update.updatedAt job ∧ available then
    some { update.apply job with
      progressPhase := some details.phase
      progressEtaSeconds := if update.status = some .failed then none else details.etaSeconds }
  else none

def progressDetailsChanged (current previous : Option EncodeProgressDetails) : Bool :=
  current.map (·.phase) ≠ previous.map (·.phase)

def requeue (timestamp : Nat) (job : EncodeJob) : EncodeJob :=
  { job with
    status := .queued
    progressPercent := 0
    progressPhase := none
    progressEtaSeconds := none
    claimToken := none
    claimedBy := none
    claimedAt := none
    startedAt := none
    errorMessage := none
    updatedAt := timestamp }

end encodeJobAdapter

/-- What a controller remembers of the progress of a job. -/
structure JobProgress where
  token : String
  latest : Int
  lastPersisted : Int
  lastPersistedAt : Nat
  latestDetails : Option EncodeProgressDetails
  lastPersistedDetails : Option EncodeProgressDetails
  deriving DecidableEq

/-- A job as one controller sees it: the row of the database and its own memory. -/
structure JobView where
  job : EncodeJob
  progress : Option JobProgress

/-- What a call returns or throws, and what it leaves behind. -/
abbrev CallResult (α : Type) := Except DomainError α × JobView

namespace JobQueue

open encodeJobAdapter

def requireProgress (progressPercent : Int) : Except DomainError Int := do
  rejectIf (progressPercent < 0 ∨ 100 < progressPercent)
    (.invariant "progressPercent must be an integer between 0 and 100")
  return progressPercent

def requireActiveAttempt (token : String) (timestamp : Nat) (job : EncodeJob) :
    Except DomainError EncodeJob := do
  rejectIf (¬isActiveAttempt token timestamp job) (.staleJobAttempt recordType job.id)
  return job

def requireAttemptUpdate (token : String) (update : AttemptUpdate)
    (details : Option EncodeProgressDetails) (available : Available) (job : EncodeJob) :
    Except DomainError EncodeJob :=
  let updated := match details with
    | some details => updateProgressAttempt token update details available job
    | none => updateAttempt token update available job
  match updated with
  | some updated => .ok updated
  | none => .error (.staleJobAttempt recordType job.id)

def progressUpdate (progressPercent : Int) (timestamp : Nat) : AttemptUpdate where
  status := none
  progressPercent
  completedAt := none
  errorMessage := none
  updatedAt := timestamp

def completedUpdate (timestamp : Nat) : AttemptUpdate where
  status := some .completed
  progressPercent := 100
  completedAt := some timestamp
  errorMessage := some none
  updatedAt := timestamp

/-- The progress of a failure is the latest remembered one, else that of the row. -/
def failedUpdate (view : JobView) (errorMessage : String) (timestamp : Nat) : AttemptUpdate where
  status := some .failed
  progressPercent := (view.progress.map (·.latest)).getD view.job.progressPercent
  completedAt := none
  errorMessage := some (some errorMessage)
  updatedAt := timestamp

def claimNext (workerId token : String) (timestamp : Nat) (eligible : Bool) (view : JobView) :
    CallResult (Option EncodeJob) :=
  match requireNonEmpty (trim workerId) "workerId" with
  | .error e => (.error e, view)
  | .ok workerId =>
    match claim workerId token timestamp eligible view.job with
    | none => (.ok none, view)
    | some claim => (.ok (some claim), { job := claim, progress := none })

/-- A change of the progress is due to be written. -/
def writeIsDue (state : JobProgress) (requested : Int) (details : Option EncodeProgressDetails)
    (timestamp : Nat) : Prop :=
  PROGRESS_WRITE_DELTA ≤ (requested - state.lastPersisted).natAbs ∨
    state.lastPersistedAt + PROGRESS_WRITE_INTERVAL_MS ≤ timestamp ∨
    progressDetailsChanged details state.lastPersistedDetails

instance (state : JobProgress) (requested : Int) (details : Option EncodeProgressDetails)
    (timestamp : Nat) : Decidable (writeIsDue state requested details timestamp) :=
  inferInstanceAs (Decidable (_ ∨ _ ∨ _))

/-- The progress of an attempt that this controller has not reported yet. -/
def firstReport (token : String) (requested : Int) (details : Option EncodeProgressDetails)
    (timestamp : Nat) (available : Available) (view : JobView) : CallResult EncodeJob :=
  match requireAttemptUpdate token (progressUpdate requested timestamp) details available
      view.job with
  | .error e => (.error e, view)
  | .ok updated => (.ok updated, {
      job := updated
      progress := some {
        token
        latest := requested
        lastPersisted := requested
        lastPersistedAt := timestamp
        latestDetails := details
        lastPersistedDetails := details } })

/-- The memory is changed before the write, which may be refused. -/
def laterReport (state : JobProgress) (token : String) (requested : Int)
    (details : Option EncodeProgressDetails) (timestamp : Nat) (available : Available)
    (view : JobView) : CallResult EncodeJob :=
  let state' := { state with latest := requested, latestDetails := details }
  if writeIsDue state requested details timestamp then
    match requireAttemptUpdate token (progressUpdate requested timestamp) details available
        view.job with
    | .error e => (.error e, { view with progress := some state' })
    | .ok updated => (.ok updated, {
        job := updated
        progress := some { state' with
          lastPersisted := requested
          lastPersistedAt := timestamp
          lastPersistedDetails := details } })
  else (.ok view.job, { view with progress := some state' })

def updateProgress (token : String) (progressPercent : Int)
    (details : Option EncodeProgressDetails) (checkedAt writtenAt : Nat) (available : Available)
    (view : JobView) : CallResult EncodeJob :=
  match requireProgress progressPercent with
  | .error e => (.error e, view)
  | .ok requested =>
    match requireActiveAttempt token checkedAt view.job with
    | .error e => (.error e, view)
    | .ok _ =>
      match view.progress with
      | none => firstReport token requested details writtenAt available view
      | some state =>
        if state.token ≠ token then firstReport token requested details writtenAt available view
        else laterReport state token requested details writtenAt available view

def complete (token : String) (checkedAt writtenAt : Nat) (available : Available)
    (view : JobView) : CallResult EncodeJob :=
  match requireActiveAttempt token checkedAt view.job with
  | .error e => (.error e, view)
  | .ok _ =>
    match requireAttemptUpdate token (completedUpdate writtenAt) none available view.job with
    | .error e => (.error e, view)
    | .ok completed => (.ok completed, { job := completed, progress := none })

/-- The remembered progress is taken for that of the attempt, whatever its token. -/
def fail (token errorMessage : String) (checkedAt writtenAt : Nat) (available : Available)
    (view : JobView) : CallResult EncodeJob :=
  match requireActiveAttempt token checkedAt view.job with
  | .error e => (.error e, view)
  | .ok _ =>
    match requireNonEmpty (trim errorMessage) "errorMessage" with
    | .error e => (.error e, view)
    | .ok errorMessage =>
      match requireAttemptUpdate token (failedUpdate view errorMessage writtenAt)
          (view.progress.bind (·.latestDetails)) available view.job with
      | .error e => (.error e, view)
      | .ok failed => (.ok failed, { job := failed, progress := none })

/-- What the transaction of a requeue comes to: it throws, finds no row that it may write, answers
with the response of an earlier call under the same key, or writes the row. -/
inductive RequeueOutcome where
  | rejected (error : DomainError)
  | refused
  | replayed (response : EncodeJob)
  | requeued

def requeueFrom : List EncodeJobStatus := [.failed, .completed, .cancelled]

def requeue (timestamp : Nat) (outcome : RequeueOutcome) (view : JobView) :
    CallResult EncodeJob :=
  let invalid := DomainError.invalidStatusTransition recordType view.job.status.text "queued"
  if view.job.status ∉ requeueFrom then (.error invalid, view)
  else
    match outcome with
    | .rejected e => (.error e, view)
    | .refused => (.error invalid, view)
    | .replayed response => (.ok response, { view with progress := none })
    | .requeued =>
      let requeued := encodeJobAdapter.requeue timestamp view.job
      (.ok requeued, { job := requeued, progress := none })

end JobQueue

end RipDvd
