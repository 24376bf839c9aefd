import RipDvd.ArchiveQueueSteps
import RipDvd.Transition

namespace RipDvd.ArchiveQueue
set_option autoImplicit true

/-- The calls of the processes on the archive requests and jobs. -/
inductive QueueCall where
  | createArchiveRequest (input : CreateArchiveRequestInput) (mutationKey : Option String)
      (newId : String)
  | submitRearchive (mutationKey sourceArchiveId newId : String)
  | cancel (id : String)
  | cancelWithReplay (mutationKey id : String)
  | retry (seen : Tables) (id : String)
  | retryWithReplay (mutationKey id : String)
  | startForInspection (seen : Tables) (inspectionId workerId newId claimToken : String)
  | renewClaim (claim : ArchiveJob)
  | updateProgress (claim : ArchiveJob) (progress : ArchiveJobProgress)
  | fail (claim : ArchiveJob) (errorMessage : String)
  | failWithReadFailure (claim : ArchiveJob) (evidence : ArchiveReadFailureEvidence)
  | abort (claim : ArchiveJob) (errorMessage : String)
  | complete (claim : ArchiveJob) (originalDiscArchiveId : String)
  | recoverExpiredClaims
  | listExpiredCancellations
  | finalizeExpiredCancellation (claim : ArchiveJob)

inductive QueueAnswer where
  | request (request : ArchiveRequest)
  | status (id : String) (status : ArchiveRequestStatus)
  | started (job : Option ArchiveJob)
  | job (job : ArchiveJob)
  | jobs (jobs : List ArchiveJob)

structure QueueState where
  tables : Tables
  processes : String → ProcessMemory

/-- A call on the requests alone. -/
def onRequests (answer : α → QueueAnswer) (memory : ProcessMemory)
    (result : Except ArchiveQueueFault (α × Tables)) :
    Except ArchiveQueueFault (QueueAnswer × ProcessMemory × Tables) := do
  let (found, t) ← result
  return (answer found, memory, t)

/-- A call that may also change what the process remembers. -/
def onJobs (answer : α → QueueAnswer)
    (result : Except ArchiveQueueFault (α × ProcessMemory × Tables)) :
    Except ArchiveQueueFault (QueueAnswer × ProcessMemory × Tables) := do
  let (found, memory, t) ← result
  return (answer found, memory, t)

section System

variable (createDvdMetadataFingerprint : Nat → DvdTitleMap → Option String → String)

def QueueCall.run (timestamp : Nat) (memory : ProcessMemory) (t : Tables) :
    QueueCall → Except ArchiveQueueFault (QueueAnswer × ProcessMemory × Tables)
  | .createArchiveRequest input mutationKey newId => onRequests .request memory
      (ArchiveQueue.createArchiveRequest createDvdMetadataFingerprint input mutationKey newId
        timestamp t)
  | .submitRearchive mutationKey sourceArchiveId newId => onRequests .request memory
      (ArchiveQueue.submitRearchive createDvdMetadataFingerprint mutationKey sourceArchiveId newId
        timestamp t)
  | .cancel id => onRequests .request memory (cancelArchiveRequest id timestamp t)
  | .cancelWithReplay mutationKey id => onRequests (fun outcome => .status outcome.1 outcome.2)
      memory (ArchiveQueue.cancelWithReplay mutationKey id timestamp t)
  | .retry seen id => onRequests .request memory (ArchiveQueue.retry seen id timestamp t)
  | .retryWithReplay mutationKey id => onRequests (fun outcome => .status outcome.1 outcome.2)
      memory (ArchiveQueue.retryWithReplay mutationKey id timestamp t)
  | .startForInspection seen inspectionId workerId newId claimToken => onJobs .started
      (ArchiveQueue.startForInspection createDvdMetadataFingerprint seen inspectionId workerId newId
        claimToken timestamp memory t)
  | .renewClaim claim => onRequests .job memory (ArchiveQueue.renewClaim claim timestamp t)
  | .updateProgress claim progress => onJobs .job
      (ArchiveQueue.updateProgress claim progress timestamp memory t)
  | .fail claim errorMessage => onJobs .job
      (ArchiveQueue.fail claim errorMessage timestamp memory t)
  | .failWithReadFailure claim evidence => onJobs .job
      (ArchiveQueue.failWithReadFailure claim evidence timestamp memory t)
  | .abort claim errorMessage => onJobs .job
      (ArchiveQueue.abort claim errorMessage timestamp memory t)
  | .complete claim originalDiscArchiveId => onJobs .job
      (ArchiveQueue.complete claim originalDiscArchiveId timestamp memory t)
  | .recoverExpiredClaims => onJobs .jobs
      (ArchiveQueue.recoverExpiredClaims timestamp memory t)
  | .listExpiredCancellations =>
      let (found, memory') := ArchiveQueue.listExpiredCancellations timestamp memory t
      .ok (.jobs found, memory', t)
  | .finalizeExpiredCancellation claim => onJobs .job
      (ArchiveQueue.finalizeExpiredCancellation claim timestamp memory t)

/-- Run a call in a process; one that throws has rolled back and remembers nothing. -/
def QueueState.perform (state : QueueState) (process : String) (timestamp : Nat)
    (call : QueueCall) : Except ArchiveQueueFault QueueAnswer × QueueState :=
  match call.run createDvdMetadataFingerprint timestamp (state.processes process) state.tables with
  | .error fault => (.error fault, state)
  | .ok (answer, memory, t) =>
    (.ok answer, ⟨t, Function.update state.processes process memory⟩)

/-- What else happens beside the requests and the jobs. -/
structure Outside where
  discs : List DetectedDisc
  drives : List OpticalDrive
  inspections : List DiscInspection
  archives : List OriginalDiscArchive
  invocations : List MutationInvocation

def Tables.beside (t : Tables) (outside : Outside) : Tables :=
  { t with
    discs := outside.discs
    drives := outside.drives
    inspections := outside.inspections
    archives := outside.archives
    invocations := outside.invocations }

inductive QueueAction where
  | call (process : String) (timestamp : Nat) (call : QueueCall)
  | archived (fingerprint : String) (rearchives : Bool) (timestamp : Nat)
  | outside (outside : Outside)
  | restart (process : String)

/-- One step of the system: a call of any process at any time, the requests an archive that is
registered fulfils, a change beside them, or a process that starts again. -/
def QueueStep (state : QueueState) (action : QueueAction) (state' : QueueState) : Prop :=
  match action with
  | .call process timestamp call =>
    state' = (state.perform createDvdMetadataFingerprint process timestamp call).2
  | .archived fingerprint rearchives timestamp =>
    ∃ t', fulfilRequests fingerprint rearchives timestamp state.tables = .ok t' ∧
      state' = { state with tables := t' }
  | .outside outside => DiscsKept state.tables.discs outside.discs ∧
    state' = { state with tables := state.tables.beside outside }
  | .restart process =>
    state' = { state with processes := Function.update state.processes process .empty }

/-- Nothing has been requested yet. -/
structure QueueState.Initial (state : QueueState) : Prop where
  requests : state.tables.requests = []
  jobs : state.tables.jobs = []
  discIds : (state.tables.discs.map (·.id)).Nodup

variable {createDvdMetadataFingerprint}

theorem onRequests_ok {result : Except ArchiveQueueFault (α × Tables)}
    (h : onRequests answer memory result = .ok (reply, memory', t')) :
    ∃ found, result = .ok (found, t') ∧ memory' = memory := by
  obtain ⟨⟨found, t₁⟩, hresult, hpure⟩ := bind_ok.1 h
  cases pure_ok.1 hpure
  exact ⟨found, hresult, rfl⟩

theorem onJobs_ok {result : Except ArchiveQueueFault (α × ProcessMemory × Tables)}
    (h : onJobs answer result = .ok (reply, memory', t')) :
    ∃ found, result = .ok (found, memory', t') := by
  obtain ⟨⟨found, memory₁, t₁⟩, hresult, hpure⟩ := bind_ok.1 h
  cases pure_ok.1 hpure
  exact ⟨found, hresult⟩

theorem QueueCall.writes {call : QueueCall} (hi : QueueInvariant t)
    (h : call.run createDvdMetadataFingerprint timestamp memory t = .ok (answer, memory', t')) :
    Writes t t' := by
  cases call with
  | createArchiveRequest input mutationKey newId =>
    obtain ⟨found, h, -⟩ := onRequests_ok h
    exact createArchiveRequest_writes hi h
  | submitRearchive mutationKey sourceArchiveId newId =>
    obtain ⟨found, h, -⟩ := onRequests_ok h
    exact submitRearchive_writes hi h
  | cancel id =>
    obtain ⟨found, h, -⟩ := onRequests_ok h
    exact cancelArchiveRequest_writes hi h
  | cancelWithReplay mutationKey id =>
    rw [QueueCall.run] at h
    obtain ⟨found, h, -⟩ := onRequests_ok h
    exact cancelWithReplay_writes hi h
  | retry seen id =>
    obtain ⟨found, h, -⟩ := onRequests_ok h
    exact retry_writes hi h
  | retryWithReplay mutationKey id =>
    rw [QueueCall.run] at h
    obtain ⟨found, h, -⟩ := onRequests_ok h
    exact retryWithReplay_writes hi h
  | startForInspection seen inspectionId workerId newId claimToken =>
    obtain ⟨found, h⟩ := onJobs_ok h
    exact startForInspection_writes hi h
  | renewClaim claim =>
    obtain ⟨found, h, -⟩ := onRequests_ok h
    exact renewClaim_writes hi h
  | updateProgress claim progress =>
    obtain ⟨found, h⟩ := onJobs_ok h
    exact updateProgress_writes hi h
  | fail claim errorMessage =>
    obtain ⟨found, h⟩ := onJobs_ok h
    exact failArchiveJob_writes hi h
  | failWithReadFailure claim evidence =>
    obtain ⟨found, h⟩ := onJobs_ok h
    exact failArchiveJob_writes hi h
  | abort claim errorMessage =>
    obtain ⟨found, h⟩ := onJobs_ok h
    exact abort_writes hi h
  | complete claim originalDiscArchiveId =>
    obtain ⟨found, h⟩ := onJobs_ok h
    exact complete_writes hi h
  | recoverExpiredClaims =>
    obtain ⟨found, h⟩ := onJobs_ok h
    exact recoverExpiredClaims_writes hi h
  | listExpiredCancellations =>
    cases h
    exact .refl
  | finalizeExpiredCancellation claim =>
    obtain ⟨found, h⟩ := onJobs_ok h
    exact finalizeExpiredCancellation_writes hi h

theorem QueueStep.writes (hi : QueueInvariant state.tables)
    (h : QueueStep createDvdMetadataFingerprint state action state') :
    Writes state.tables state'.tables := by
  cases action with
  | call process timestamp call =>
    have hstate : state' = _ := h
    subst hstate
    rw [QueueState.perform]
    split
    · exact .refl
    · next hrun => exact QueueCall.writes hi hrun
  | archived fingerprint rearchives timestamp =>
    obtain ⟨t', hfulfil, rfl⟩ := h
    exact fulfilRequests_writes hi hfulfil
  | outside outside =>
    obtain ⟨hdiscs, rfl⟩ := h
    exact hi.discs rfl rfl hdiscs
  | restart process =>
    have hstate : state' = _ := h
    subst hstate
    exact .refl

theorem QueueState.Initial.invariant (h : QueueState.Initial state) :
    QueueInvariant state.tables := by
  refine ⟨h.discIds, ?_, ?_, ?_, ?_, ?_⟩
  · rw [h.requests]
    exact ⟨List.nodup_nil, by simp, List.nodup_nil, by simp⟩
  · rw [h.jobs]
    exact ⟨List.nodup_nil, by simp, List.nodup_nil, List.nodup_nil, by simp⟩
  · rw [h.requests]
    simp
  · rw [h.jobs]
    simp
  · rw [h.jobs]
    exact fun _ => rfl

/-- Every run keeps the invariant and carries what it found along. -/
theorem QueueState.run_writes
    (hrun : Run (QueueStep createDvdMetadataFingerprint) state actions state')
    (hi : QueueInvariant state.tables) : Writes state.tables state'.tables := by
  induction hrun with
  | nil => exact .refl
  | cons hstep _ ih =>
    have hwrites := QueueStep.writes hi hstep
    exact hwrites.trans (ih (hwrites.invariant hi))

end System

end RipDvd.ArchiveQueue
