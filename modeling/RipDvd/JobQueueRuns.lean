import RipDvd.JobQueue

namespace RipDvd
set_option autoImplicit true

open JobQueue

/-- A call of `updateProgress` that the check of the active attempt has let pass. -/
structure JobReport where
  controller : Nat
  token : String
  percent : Int
  details : Option EncodeProgressDetails
  time : Nat
  returned : Bool
  deriving DecidableEq

/-- A job with the memory of each controller, the tokens that were created, the claims that were
returned with the controllers that returned them, and the reports made so far. -/
structure JobWorld where
  job : EncodeJob
  progress : Nat → Option JobProgress
  clock : Nat
  tokens : List String
  claims : List (String × Nat)
  reports : List JobReport

inductive JobCall where
  | claimNext (workerId token : String) (eligible : Bool)
  | updateProgress (token : String) (percent : Int) (details : Option EncodeProgressDetails)
      (available : Bool)
  | complete (token : String) (available : Bool)
  | fail (token errorMessage : String) (available : Bool)
  | requeue (outcome : RequeueOutcome)

/-- The token of the claim that a call is made with. -/
def JobCall.claim : JobCall → Option String
  | updateProgress token _ _ _ => some token
  | complete token _ => some token
  | fail token _ _ => some token
  | claimNext _ _ _ => none
  | requeue _ => none

/-- The token that a call creates. -/
def JobCall.created : JobCall → Option String
  | claimNext _ token _ => some token
  | _ => none

namespace JobWorld

def view (w : JobWorld) (i : Nat) : JobView := ⟨w.job, w.progress i⟩

def withJob (result : CallResult EncodeJob) : CallResult (Option EncodeJob) :=
  (result.1.map some, result.2)

/-- What a call through a controller returns or throws, and what the controller sees after it. -/
def answer (w : JobWorld) (i : Nat) (call : JobCall) (checkedAt writtenAt : Nat) :
    CallResult (Option EncodeJob) :=
  match call with
  | .claimNext workerId token eligible =>
    JobQueue.claimNext workerId token writtenAt eligible (w.view i)
  | .updateProgress token percent details available =>
    withJob (JobQueue.updateProgress token percent details checkedAt writtenAt available (w.view i))
  | .complete token available =>
    withJob (JobQueue.complete token checkedAt writtenAt available (w.view i))
  | .fail token errorMessage available =>
    withJob (JobQueue.fail token errorMessage checkedAt writtenAt available (w.view i))
  | .requeue outcome => withJob (JobQueue.requeue writtenAt outcome (w.view i))

def claimsAfter (w : JobWorld) (i : Nat) (call : JobCall)
    (returned : Except DomainError (Option EncodeJob)) : List (String × Nat) :=
  match call, returned with
  | .claimNext _ token _, .ok (some _) => w.claims ++ [(token, i)]
  | _, _ => w.claims

def reportsAfter (w : JobWorld) (i : Nat) (call : JobCall) (checkedAt writtenAt : Nat)
    (returned : Except DomainError (Option EncodeJob)) : List JobReport :=
  match call with
  | .updateProgress token percent details _ =>
    if (0 ≤ percent ∧ percent ≤ 100) ∧ isActiveAttempt token checkedAt w.job then
      w.reports ++ [{
        controller := i
        token
        percent
        details
        time := writtenAt
        returned := returned.isOk }]
    else w.reports
  | _ => w.reports

def perform (w : JobWorld) (i : Nat) (call : JobCall) (checkedAt writtenAt : Nat) : JobWorld :=
  let result := w.answer i call checkedAt writtenAt
  { job := result.2.job
    progress := Function.update w.progress i result.2.progress
    clock := writtenAt
    tokens := call.created.toList ++ w.tokens
    claims := w.claimsAfter i call result.1
    reports := w.reportsAfter i call checkedAt writtenAt result.1 }

/-- A job that has been queued for the first time. -/
def queued (id : String) (clock : Nat) : JobWorld where
  job := {
    id
    status := .queued
    progressPercent := 0
    progressPhase := none
    progressEtaSeconds := none
    claimToken := none
    claimedBy := none
    claimedAt := none
    startedAt := none
    completedAt := none
    errorMessage := none
    updatedAt := clock }
  progress := fun _ => none
  clock
  tokens := []
  claims := []
  reports := []

def reportsOf (w : JobWorld) (token : String) : List JobReport :=
  w.reports.filter (·.token = token)

/-- A controller claimed an attempt, and all reports of the attempt were made through it. -/
structure Sole (w : JobWorld) (i : Nat) (token : String) : Prop where
  claimed : (token, i) ∈ w.claims
  reported : ∀ report ∈ w.reportsOf token, report.controller = i

end JobWorld

/-- Any calls through any controllers, with a clock that does not go back and fresh tokens. -/
inductive JobRun : JobWorld → Prop
  | start (id : String) (clock : Nat) : JobRun (.queued id clock)
  | call (h : JobRun w) (i : Nat) (call : JobCall) (hclock : w.clock ≤ checkedAt)
      (htimes : checkedAt ≤ writtenAt) (hfresh : ∀ token ∈ call.created, token ∉ w.tokens) :
      JobRun (w.perform i call checkedAt writtenAt)

def lastReturned (reports : List JobReport) : Option JobReport :=
  (reports.filter (·.returned)).getLast?

/-- What a controller remembers of the reports of an attempt, next to the row. -/
structure Remembered (job : EncodeJob) (reports : List JobReport) (state : JobProgress) : Prop where
  persisted : state.lastPersisted = job.progressPercent
  persistedAt : state.lastPersistedAt = job.updatedAt
  persistedPhase : ∀ details ∈ state.lastPersistedDetails, job.progressPhase = some details.phase
  latest : ∃ last, reports.getLast? = some last ∧ state.latest = last.percent ∧
    state.latestDetails = last.details
  returned : ∃ report, lastReturned reports = some report ∧
    (report.percent - state.lastPersisted).natAbs < PROGRESS_WRITE_DELTA ∧
    (report.percent = state.lastPersisted ∨
      report.time < state.lastPersistedAt + PROGRESS_WRITE_INTERVAL_MS) ∧
    report.details.map (·.phase) = state.lastPersistedDetails.map (·.phase)

/-- The memory of a controller that has claimed an attempt follows the reports of the attempt. -/
def Remembers (job : EncodeJob) (reports : List JobReport) (token : String) :
    Option JobProgress → Prop
  | none => ∀ report ∈ reports, report.returned = false
  | some state => state.token = token ∧ Remembered job reports state

/-- What holds of a job and its reports after any calls. -/
structure JobWorld.Kept (w : JobWorld) : Prop where
  current : ∀ token, w.job.claimToken = some token → token ∈ w.tokens
  claims : ∀ claim ∈ w.claims, claim.1 ∈ w.tokens
  reports : ∀ report ∈ w.reports, report.token ∈ w.tokens
  waiting : w.job.status = .queued → w.job.progressPercent = 0 ∧ w.job.progressPhase = none
  own : ∀ token, w.job.status = .running → w.job.claimToken = some token →
    w.job.progressPercent = 0 ∨
      ∃ report ∈ w.reportsOf token, report.percent = w.job.progressPercent
  remembers : ∀ token i, w.job.status = .running → w.job.claimToken = some token →
    w.Sole i token → Remembers w.job (w.reportsOf token) token (w.progress i)

/-- What a write of an attempt leaves in the row. -/
structure Applied (token : String) (update : AttemptUpdate)
    (details : Option EncodeProgressDetails) (job updated : EncodeJob) : Prop where
  active : isActiveAttempt token update.updatedAt job
  status : updated.status = update.status.getD job.status
  claimToken : updated.claimToken = job.claimToken
  percent : updated.progressPercent = update.progressPercent
  phase : updated.progressPhase = details.elim job.progressPhase fun details => some details.phase
  eta : update.status = some .failed → updated.progressEtaSeconds = none
  updatedAt : updated.updatedAt = update.updatedAt

section Calls

theorem perform_job (w : JobWorld) (i : Nat) (call : JobCall) (checkedAt writtenAt : Nat) :
    (w.perform i call checkedAt writtenAt).job = (w.answer i call checkedAt writtenAt).2.job := rfl

theorem perform_progress (w : JobWorld) (i : Nat) (call : JobCall) (checkedAt writtenAt : Nat) :
    (w.perform i call checkedAt writtenAt).progress =
      Function.update w.progress i (w.answer i call checkedAt writtenAt).2.progress := rfl

theorem perform_claims (w : JobWorld) (i : Nat) (call : JobCall) (checkedAt writtenAt : Nat) :
    (w.perform i call checkedAt writtenAt).claims =
      w.claimsAfter i call (w.answer i call checkedAt writtenAt).1 := rfl

theorem perform_reports (w : JobWorld) (i : Nat) (call : JobCall) (checkedAt writtenAt : Nat) :
    (w.perform i call checkedAt writtenAt).reports =
      w.reportsAfter i call checkedAt writtenAt (w.answer i call checkedAt writtenAt).1 := rfl

theorem perform_tokens (w : JobWorld) (i : Nat) (call : JobCall) (checkedAt writtenAt : Nat) :
    (w.perform i call checkedAt writtenAt).tokens = call.created.toList ++ w.tokens := rfl

/-- A call that leaves everything as its controller saw it changes nothing. -/
theorem perform_same {w : JobWorld} {call : JobCall}
    (hview : (w.answer i call checkedAt writtenAt).2 = w.view i) :
    (w.perform i call checkedAt writtenAt).job = w.job ∧
      (w.perform i call checkedAt writtenAt).progress = w.progress := by
  rw [perform_job, perform_progress, hview]
  exact ⟨rfl, Function.update_eq_self i w.progress⟩

variable {w : JobWorld} {view : JobView} {job updated : EncodeJob} {token : String}
  {details : Option EncodeProgressDetails} {state : JobProgress}

theorem requireAttemptUpdate_ok
    (h : requireAttemptUpdate token update details available job = .ok updated) :
    Applied token update details job updated := by
  unfold requireAttemptUpdate at h
  cases details with
  | none =>
    dsimp only at h
    rw [encodeJobAdapter.updateAttempt] at h
    by_cases hactive : isActiveAttempt token update.updatedAt job ∧ available
    · rw [if_pos hactive] at h
      cases h
      exact ⟨hactive.1, rfl, rfl, rfl, rfl, fun hfailed => if_pos (.inr hfailed), rfl⟩
    · rw [if_neg hactive] at h
      cases h
  | some details =>
    dsimp only at h
    rw [encodeJobAdapter.updateProgressAttempt] at h
    by_cases hactive : isActiveAttempt token update.updatedAt job ∧ available
    · rw [if_pos hactive] at h
      cases h
      exact ⟨hactive.1, rfl, rfl, rfl, rfl, fun hfailed => if_pos hfailed, rfl⟩
    · rw [if_neg hactive] at h
      cases h

theorem requireActiveAttempt_ok :
    requireActiveAttempt token timestamp job = .ok current ↔
      isActiveAttempt token timestamp job ∧ job = current := by
  simp only [requireActiveAttempt, bind_ok, rejectIf_ok, pure_ok, not_not, exists_const]

theorem requireProgress_ok : requireProgress percent = .ok requested ↔
    (0 ≤ percent ∧ percent ≤ 100) ∧ percent = requested := by
  simp only [requireProgress, bind_ok, rejectIf_ok, pure_ok, not_or, Int.not_lt, exists_const]

/-- The check of the active attempt throws for another token. -/
theorem requireActiveAttempt_stale (timestamp : Nat)
    (hstale : ¬(job.status = .running ∧ job.claimToken = some token)) :
    ∃ e, requireActiveAttempt token timestamp job = .error e := by
  cases h : requireActiveAttempt token timestamp job with
  | error e => exact ⟨e, rfl⟩
  | ok current =>
    have hactive := (requireActiveAttempt_ok.1 h).1
    exact absurd ⟨hactive.1, hactive.2.1⟩ hstale

/-- A call with a claim that is not that of the running attempt throws and changes nothing. -/
theorem JobWorld.answer_stale {call : JobCall} (hclaim : call.claim = some token)
    (hstale : ¬(w.job.status = .running ∧ w.job.claimToken = some token)) :
    ∃ e, w.answer i call checkedAt writtenAt = (.error e, w.view i) := by
  obtain ⟨e, he⟩ := requireActiveAttempt_stale checkedAt hstale
  cases call with
  | claimNext => cases hclaim
  | requeue => cases hclaim
  | updateProgress t percent details available =>
    obtain rfl : t = token := Option.some.inj hclaim
    rw [answer, JobQueue.updateProgress]
    cases requireProgress percent with
    | error e => exact ⟨e, rfl⟩
    | ok requested =>
      dsimp only
      rw [show (w.view i).job = w.job from rfl, he]
      exact ⟨e, rfl⟩
  | complete t available =>
    obtain rfl : t = token := Option.some.inj hclaim
    rw [answer, JobQueue.complete, show (w.view i).job = w.job from rfl, he]
    exact ⟨e, rfl⟩
  | fail t errorMessage available =>
    obtain rfl : t = token := Option.some.inj hclaim
    rw [answer, JobQueue.fail, show (w.view i).job = w.job from rfl, he]
    exact ⟨e, rfl⟩

end Calls

end RipDvd
