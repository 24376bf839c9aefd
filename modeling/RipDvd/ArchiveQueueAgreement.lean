import RipDvd.ArchiveQueueRuns

namespace RipDvd.ArchiveQueue
set_option autoImplicit true

/-- The attempt a call claims still runs, with the lease that call asks for. -/
def QueueCall.Held (timestamp : Nat) (t : Tables) : QueueCall → Prop
  | .renewClaim claim | .updateProgress claim _ | .fail claim _ | .failWithReadFailure claim _
  | .abort claim _ => ∃ job ∈ t.jobs, claim.HeldBy job ∧ job.Leased timestamp
  | .complete claim _ => ∃ job ∈ t.jobs, claim.HeldBy job
  | .finalizeExpiredCancellation claim => ∃ job ∈ t.jobs, claim.HeldBy job ∧
      job.ExpiredAt timestamp ∧ ∃ request ∈ t.requests, request.id = job.archiveRequestId ∧
        request.status = .cancellationRequested
  | _ => True

/-- A progress report the process only remembers. -/
def QueueCall.Coalesces (timestamp : Nat) (memory : ProcessMemory) : QueueCall → Prop
  | .updateProgress claim progress => ∃ previous,
      memory.archiveProgress claim.id = some previous ∧
        ¬shouldPersist claim (reportedProgress claim progress (some previous) timestamp) timestamp
          previous
  | _ => False

section Held

theorem renewClaim_held (h : renewClaim claim timestamp t = .ok (job, t')) :
    ∃ job ∈ t.jobs, claim.HeldBy job ∧ job.Leased timestamp := by
  obtain ⟨_, -, h⟩ := bind_ok.1 h
  obtain ⟨old, hold, hq, -⟩ := updateHeld_ok h
  exact ⟨old, hold, hq⟩

theorem persistProgress_held
    (h : persistProgress claim reported timestamp memory t = .ok (job, memory', t')) :
    ∃ job ∈ t.jobs, claim.HeldBy job ∧ job.Leased timestamp := by
  obtain ⟨⟨updated, t₁⟩, hupdate, -⟩ := bind_ok.1 h
  obtain ⟨old, hold, hq, -⟩ := updateHeld_ok hupdate
  exact ⟨old, hold, hq⟩

/-- A report of a lost claim is only remembered, and writes nothing. -/
theorem updateProgress_held
    (h : updateProgress claim progress timestamp memory t = .ok (job, memory', t')) :
    (∃ job ∈ t.jobs, claim.HeldBy job ∧ job.Leased timestamp) ∨
      (QueueCall.updateProgress claim progress).Coalesces timestamp memory ∧ t' = t := by
  obtain ⟨_, -, h⟩ := bind_ok.1 h
  obtain ⟨_, -, h⟩ := bind_ok.1 h
  split at h
  · exact .inl (persistProgress_held h)
  · next previous hprevious =>
    by_cases hdue : shouldPersist claim
        (reportedProgress claim progress (memory.archiveProgress claim.id) timestamp) timestamp
        previous
    · rw [if_pos hdue] at h
      exact .inl (persistProgress_held h)
    · rw [if_neg hdue] at h
      cases pure_ok.1 h
      rw [hprevious] at hdue
      exact .inr ⟨⟨previous, hprevious, hdue⟩, rfl⟩

theorem settleFailed_held
    (h : settleFailed claim message readFailure timestamp memory t = .ok (job, t')) :
    ∃ job ∈ t.jobs, claim.HeldBy job ∧ job.Leased timestamp := by
  obtain ⟨request, -, h⟩ := bind_ok.1 h
  split at h
  all_goals
    obtain ⟨⟨updated, t₁⟩, hupdate, -⟩ := bind_ok.1 h
    obtain ⟨old, hold, hq, -⟩ := updateHeld_ok hupdate
    exact ⟨old, hold, hq⟩

theorem failArchiveJob_held
    (h : failArchiveJob claim message readFailure timestamp memory t = .ok (job, memory', t')) :
    ∃ job ∈ t.jobs, claim.HeldBy job ∧ job.Leased timestamp := by
  obtain ⟨_, -, h⟩ := bind_ok.1 h
  obtain ⟨errorMessage, -, h⟩ := bind_ok.1 h
  obtain ⟨values, -, h⟩ := bind_ok.1 h
  obtain ⟨⟨settled, t₁⟩, hsettle, -⟩ := bind_ok.1 h
  exact settleFailed_held hsettle

theorem abort_held (h : abort claim message timestamp memory t = .ok (job, memory', t')) :
    ∃ job ∈ t.jobs, claim.HeldBy job ∧ job.Leased timestamp := by
  obtain ⟨errorMessage, -, h⟩ := bind_ok.1 h
  obtain ⟨_, -, h⟩ := bind_ok.1 h
  obtain ⟨⟨updated, t₁⟩, hupdate, -⟩ := bind_ok.1 h
  obtain ⟨old, hold, ⟨hheld, -, hleased⟩, -⟩ := updateHeld_ok hupdate
  exact ⟨old, hold, hheld, hleased⟩

theorem complete_held
    (h : complete claim originalDiscArchiveId timestamp memory t = .ok (job, memory', t')) :
    ∃ job ∈ t.jobs, claim.HeldBy job := by
  obtain ⟨archive, -, h⟩ := bind_ok.1 h
  obtain ⟨_, -, h⟩ := bind_ok.1 h
  obtain ⟨⟨updated, t₁⟩, hupdate, -⟩ := bind_ok.1 h
  obtain ⟨old, hold, hq, -⟩ := updateHeld_ok hupdate
  exact ⟨old, hold, hq⟩

theorem finalizeExpiredCancellation_held
    (h : finalizeExpiredCancellation claim timestamp memory t = .ok (job, memory', t')) :
    (QueueCall.finalizeExpiredCancellation claim).Held timestamp t := by
  obtain ⟨⟨updated, t₁⟩, hupdate, -⟩ := bind_ok.1 h
  obtain ⟨old, hold, ⟨hheld, -, -, -, hexpired, hrequest⟩, -⟩ := updateHeld_ok hupdate
  exact ⟨old, hold, hheld, hexpired, hrequest⟩

/-- A call that does not throw holds its claim, or is a report that is only remembered. -/
theorem QueueCall.held {call : QueueCall}
    (h : call.run createDvdMetadataFingerprint timestamp memory t = .ok (answer, memory', t')) :
    call.Held timestamp t ∨ call.Coalesces timestamp memory ∧ t' = t := by
  cases call with
  | renewClaim claim =>
    obtain ⟨found, h, -⟩ := onRequests_ok h
    exact .inl (renewClaim_held h)
  | updateProgress claim progress =>
    obtain ⟨found, h⟩ := onJobs_ok h
    exact updateProgress_held h
  | fail claim errorMessage =>
    obtain ⟨found, h⟩ := onJobs_ok h
    exact .inl (failArchiveJob_held h)
  | failWithReadFailure claim evidence =>
    obtain ⟨found, h⟩ := onJobs_ok h
    exact .inl (failArchiveJob_held h)
  | abort claim errorMessage =>
    obtain ⟨found, h⟩ := onJobs_ok h
    exact .inl (abort_held h)
  | complete claim originalDiscArchiveId =>
    obtain ⟨found, h⟩ := onJobs_ok h
    exact .inl (complete_held h)
  | finalizeExpiredCancellation claim =>
    obtain ⟨found, h⟩ := onJobs_ok h
    exact .inl (finalizeExpiredCancellation_held h)
  | createArchiveRequest => exact .inl trivial
  | submitRearchive => exact .inl trivial
  | cancel => exact .inl trivial
  | cancelWithReplay => exact .inl trivial
  | retry => exact .inl trivial
  | retryWithReplay => exact .inl trivial
  | startForInspection => exact .inl trivial
  | recoverExpiredClaims => exact .inl trivial
  | listExpiredCancellations => exact .inl trivial

end Held

/-- The requests and the jobs agree on what runs. -/
structure Tables.Agree (t : Tables) : Prop where
  jobIds : (t.jobs.map (·.id)).Nodup
  running : ∀ request ∈ t.requests,
    request.Active ↔ ∃! job, job ∈ t.jobs ∧ job.RunsFor request.id
  requested : ∀ job ∈ t.jobs, ∃ request ∈ t.requests, request.id = job.archiveRequestId
  apart : ∀ job ∈ t.jobs, ∀ other ∈ t.jobs, job.Running → other.Running →
    SharesSource t.discs job other → job = other
  numbered : ∀ archiveRequestId, attemptsIn t.jobs archiveRequestId =
    List.range' 1 (attemptsIn t.jobs archiveRequestId).length

theorem QueueInvariant.agree (h : QueueInvariant t) : t.Agree where
  jobIds := h.jobRows.1
  running request hrequest := by
    rw [h.active request hrequest]
    constructor
    · rintro ⟨job, hjob, hruns⟩
      exact ⟨job, ⟨hjob, hruns⟩, fun other hother => h.sole hother.1 hjob hother.2 hruns⟩
    · rintro ⟨job, hjob, -⟩
      exact ⟨job, hjob⟩
  requested job hjob := List.mem_map.1 (h.jobRows.2.2.2.2 job hjob).1
  apart := h.apart
  numbered := h.numbered

/-- A refused call: it throws and changes nothing, or is a report that is only remembered. -/
def QueueState.Refuses (createDvdMetadataFingerprint : Nat → DvdTitleMap → Option String → String)
    (state : QueueState) (process : String) (timestamp : Nat) (call : QueueCall) : Prop :=
  (∃ fault, state.perform createDvdMetadataFingerprint process timestamp call =
    (.error fault, state)) ∨
  call.Coalesces timestamp (state.processes process) ∧
    (state.perform createDvdMetadataFingerprint process timestamp call).2.tables = state.tables

theorem QueueState.refuses {state : QueueState} {call : QueueCall}
    (h : ¬call.Held timestamp state.tables) :
    state.Refuses createDvdMetadataFingerprint process timestamp call := by
  cases hrun : call.run createDvdMetadataFingerprint timestamp (state.processes process)
      state.tables with
  | error fault => exact .inl ⟨fault, by rw [QueueState.perform, hrun]⟩
  | ok result =>
    obtain ⟨answer, memory, t⟩ := result
    obtain hheld | ⟨hcoalesces, rfl⟩ := QueueCall.held hrun
    · exact absurd hheld h
    · exact .inr ⟨hcoalesces, by rw [QueueState.perform, hrun]⟩

/-- In every state the requests and the jobs agree, what has ended stays as it was, and a claim
that has been lost changes nothing. -/
theorem archiveQueue_agrees (hinitial : QueueState.Initial state)
    (hrun : Run (QueueStep createDvdMetadataFingerprint) state actions state') :
    state'.tables.Agree ∧
      (∀ later actions', Run (QueueStep createDvdMetadataFingerprint) state' actions' later →
        Continues state'.tables later.tables) ∧
      ∀ process timestamp call, ¬call.Held timestamp state'.tables →
        state'.Refuses createDvdMetadataFingerprint process timestamp call := by
  have hwrites := QueueState.run_writes hrun hinitial.invariant
  have hi := hwrites.invariant hinitial.invariant
  refine ⟨hi.agree, ?_, ?_⟩
  · intro later actions' hlater
    exact (QueueState.run_writes hlater hi).continues
  · intro process timestamp call hlost
    exact QueueState.refuses hlost

section Samples

def sampleMetadataFingerprint (_ : Nat) (_ : DvdTitleMap) (_ : Option String) : String := ""

def sampleDisc : DetectedDisc where
  id := "disc"
  opticalDriveId := "drive"
  discKind := .dvd
  fingerprint := "sha256:00"
  status := .scanned
  volumeLabel := none
  titleMap := none

def sampleTables : Tables where
  requests := []
  jobs := []
  discs := [sampleDisc]
  drives := [⟨"drive", true, true⟩]
  inspections := [⟨"inspection", "drive", some "disc", true, true, some 4096⟩]
  archives := []
  invocations := []

def sampleQueue : QueueState := ⟨sampleTables, fun _ => .empty⟩

def sampleRequest : QueueCall := .createArchiveRequest ⟨"disc", none, none⟩ none "request"

def requestedQueue : QueueState :=
  (sampleQueue.perform sampleMetadataFingerprint "web" 1000 sampleRequest).2

def sampleStart : QueueCall :=
  .startForInspection requestedQueue.tables "inspection" "worker" "job" "token"

def startedQueue : QueueState :=
  (requestedQueue.perform sampleMetadataFingerprint "worker" 2000 sampleStart).2

/-- The job as its worker got it, leased for a minute. -/
def sampleJob : ArchiveJob :=
  startedJob "job" "worker" "token" "inspection" { sampleDisc with status := .approved }
    (newRequest "request" "disc" 1000) 0 2000

def sampleActions : List QueueAction :=
  [.call "web" 1000 sampleRequest, .call "worker" 2000 sampleStart]

theorem sampleQueue_initial : QueueState.Initial sampleQueue where
  requests := rfl
  jobs := rfl
  discIds := List.nodup_singleton _

theorem sampleQueue_run :
    Run (QueueStep sampleMetadataFingerprint) sampleQueue sampleActions startedQueue := by
  have hrequested : QueueStep sampleMetadataFingerprint sampleQueue
      (.call "web" 1000 sampleRequest) requestedQueue := rfl
  have hstarted : QueueStep sampleMetadataFingerprint requestedQueue
      (.call "worker" 2000 sampleStart) startedQueue := rfl
  exact .cons hrequested (.single hstarted)

example : startedQueue.tables.jobs = [sampleJob] := by decide +kernel

/-- The job runs for its request; when its lease ends the worker's claim is refused. -/
theorem sampleQueue_agrees :
    (∃! job, job ∈ startedQueue.tables.jobs ∧ job.RunsFor "request") ∧
      ∃ fault, startedQueue.perform sampleMetadataFingerprint "worker" 62000
        (.renewClaim sampleJob) = (.error fault, startedQueue) := by
  obtain ⟨hagree, -, hrefuses⟩ := archiveQueue_agrees sampleQueue_initial sampleQueue_run
  have hrequest : ∃ request ∈ startedQueue.tables.requests, request.id = "request" ∧
      request.Active := by decide +kernel
  have hlost : ∀ job ∈ startedQueue.tables.jobs, ¬job.Leased 62000 := by decide +kernel
  constructor
  · obtain ⟨request, hmem, hid, hactive⟩ := hrequest
    rw [← hid]
    exact (hagree.running request hmem).1 hactive
  · obtain hrefused | ⟨hcoalesces, -⟩ := hrefuses "worker" 62000 (.renewClaim sampleJob) (by
      rintro ⟨job, hjob, -, hleased⟩
      exact hlost job hjob hleased)
    · exact hrefused
    · cases hcoalesces

/-- The disc has been archived beside the queue. -/
def sampleArchived : Outside where
  discs := [{ sampleDisc with status := .archived }]
  drives := sampleTables.drives
  inspections := sampleTables.inspections
  archives := [⟨"archive", "disc", .dvd, "sha256:00", [], none, some 4096, 3000⟩]
  invocations := []

def archivedQueue : QueueState :=
  { startedQueue with tables := startedQueue.tables.beside sampleArchived }

/-- The job is completed long after its lease has ended. -/
theorem lateCompletion_written :
    QueueState.Initial sampleQueue ∧
      Run (QueueStep sampleMetadataFingerprint) sampleQueue
        (sampleActions ++ [.outside sampleArchived]) archivedQueue ∧
      (∀ job ∈ archivedQueue.tables.jobs, ¬job.Leased 100000) ∧
      ¬archivedQueue.Refuses sampleMetadataFingerprint "worker" 100000
        (.complete sampleJob "archive") ∧
      (archivedQueue.perform sampleMetadataFingerprint "worker" 100000
        (.complete sampleJob "archive")).2.tables.jobs ≠ archivedQueue.tables.jobs := by
  refine ⟨sampleQueue_initial, sampleQueue_run.append (.single ⟨?_, rfl⟩), ?_, ?_, ?_⟩
  · have hdiscs : startedQueue.tables.discs.map (fun disc => (disc.id, disc.opticalDriveId,
        disc.fingerprint)) = [("disc", "drive", "sha256:00")] := by decide +kernel
    refine ⟨List.nodup_singleton _, fun disc hdisc => ⟨_, List.mem_singleton.2 rfl, ?_⟩⟩
    have hsame := List.mem_map_of_mem (f := fun disc : DetectedDisc =>
      (disc.id, disc.opticalDriveId, disc.fingerprint)) hdisc
    rw [hdiscs, List.mem_singleton, Prod.mk.injEq, Prod.mk.injEq] at hsame
    exact ⟨hsame.1.symm, hsame.2.1.symm, hsame.2.2.symm⟩
  · decide +kernel
  · rintro (⟨fault, hrefused⟩ | ⟨hcoalesces, -⟩)
    · have hanswered : (archivedQueue.perform sampleMetadataFingerprint "worker" 100000
          (.complete sampleJob "archive")).1.isOk = true := by decide +kernel
      rw [hrefused] at hanswered
      cases hanswered
    · cases hcoalesces
  · decide +kernel

end Samples

end RipDvd.ArchiveQueue
