import RipDvd.ArchiveJobs
import RipDvd.Transition
import Mathlib.Data.List.Range
import Mathlib.Logic.Relation

namespace RipDvd.ArchiveQueue
set_option autoImplicit true

section Rows

theorem commitRequests_ok : Tables.commitRequests requests t = .ok t' ↔
    RequestRows requests t.discs ∧ t' = { t with requests := requests } := by
  simp only [Tables.commitRequests, bind_ok, rejectIf_ok, not_not, pure_ok]
  constructor
  · rintro ⟨_, hrows, rfl⟩
    exact ⟨hrows, rfl⟩
  · rintro ⟨hrows, rfl⟩
    exact ⟨(), hrows, rfl⟩

theorem commitJobs_ok : Tables.commitJobs jobs t = .ok t' ↔
    JobRows jobs t ∧ t' = { t with jobs := jobs } := by
  simp only [Tables.commitJobs, bind_ok, rejectIf_ok, not_not, pure_ok]
  constructor
  · rintro ⟨_, hrows, rfl⟩
    exact ⟨hrows, rfl⟩
  · rintro ⟨hrows, rfl⟩
    exact ⟨(), hrows, rfl⟩

variable {p : ArchiveRequest → Prop} [DecidablePred p] {f : ArchiveRequest → ArchiveRequest}

theorem updateRequest_ok {t t' : Tables} (h : t.updateRequest p f = .ok (found, t')) :
    (∀ request ∈ t.requests, ¬p request) ∧ found = none ∧ t' = t ∨
    ∃ request ∈ t.requests, p request ∧ RequestRows (Rows.update p f t.requests) t.discs ∧
      found = some (f request) ∧ t' = { t with requests := Rows.update p f t.requests } := by
  rw [Tables.updateRequest] at h
  split at h
  · next hfind =>
    cases h
    refine .inl ⟨fun request hmem hp => ?_, rfl, rfl⟩
    exact List.find?_eq_none.1 hfind request hmem (decide_eq_true hp)
  · next request hfind =>
    obtain ⟨t₁, hcommit, hpure⟩ := bind_ok.1 h
    cases hpure
    obtain ⟨hrows, rfl⟩ := commitRequests_ok.1 hcommit
    have hp := List.find?_some hfind
    rw [decide_eq_true_eq] at hp
    exact .inr ⟨request, List.mem_of_find?_eq_some hfind, hp, hrows, rfl, rfl⟩

variable {q : ArchiveJob → Prop} [DecidablePred q] {g : ArchiveJob → ArchiveJob}

theorem updateJob_ok {t t' : Tables} (h : t.updateJob q g = .ok (found, t')) :
    found = none ∧ t' = t ∨
    ∃ job ∈ t.jobs, q job ∧ JobRows (Rows.update q g t.jobs) t ∧ found = some (g job) ∧
      t' = { t with jobs := Rows.update q g t.jobs } := by
  rw [Tables.updateJob] at h
  split at h
  · cases h
    exact .inl ⟨rfl, rfl⟩
  · next job hfind =>
    obtain ⟨t₁, hcommit, hpure⟩ := bind_ok.1 h
    cases hpure
    obtain ⟨hrows, rfl⟩ := commitJobs_ok.1 hcommit
    have hq := List.find?_some hfind
    rw [decide_eq_true_eq] at hq
    exact .inr ⟨job, List.mem_of_find?_eq_some hfind, hq, hrows, rfl, rfl⟩

theorem requireRow_ok {entity id : String} {found : Option α} :
    requireRow entity id found = .ok row ↔
    found = some row := by
  cases found with
  | none => exact ⟨fun h => (by cases h), fun h => (by cases h)⟩
  | some other => exact ⟨fun h => by cases h; rfl, fun h => by cases h; rfl⟩

theorem updateHeld_ok {t t' : Tables} (h : updateHeld claim q g t = .ok (updated, t')) :
    ∃ job ∈ t.jobs, q job ∧ JobRows (Rows.update q g t.jobs) t ∧ updated = g job ∧
      t' = { t with jobs := Rows.update q g t.jobs } := by
  obtain ⟨⟨found, t₁⟩, hupdate, hrest⟩ := bind_ok.1 h
  obtain ⟨rfl, -⟩ | ⟨job, hjob, hq, hrows, rfl, rfl⟩ := updateJob_ok hupdate
  · cases hrest
  · cases hrest
    exact ⟨job, hjob, hq, hrows, rfl, rfl⟩

theorem settleRequest_ok {id : String} {t t' : Tables}
    (h : settleRequest id statuses f t = .ok t') :
    ∃ request ∈ t.requests, (request.id = id ∧ request.status ∈ statuses) ∧
      RequestRows (Rows.update (fun row => row.id = id ∧ row.status ∈ statuses) f t.requests)
        t.discs ∧
      t' = { t with
        requests := Rows.update
          (fun row => row.id = id ∧ row.status ∈ statuses) f t.requests } := by
  obtain ⟨⟨found, t₁⟩, hupdate, hrest⟩ := bind_ok.1 h
  obtain ⟨row, hrow, hpure⟩ := bind_ok.1 hrest
  cases pure_ok.1 hpure
  rw [requireRow_ok] at hrow
  obtain ⟨-, rfl, -⟩ | ⟨request, hmem, hp, hrows, -, rfl⟩ := updateRequest_ok hupdate
  · cases hrow
  · exact ⟨request, hmem, hp, hrows, rfl⟩

end Rows

/-- A running attempt of a request. -/
def ArchiveJob.RunsFor (job : ArchiveJob) (archiveRequestId : String) : Prop :=
  job.Running ∧ job.archiveRequestId = archiveRequestId

/-- The discs of two jobs have the same content or lie in the same drive. -/
def SharesSource (discs : List DetectedDisc) (job other : ArchiveJob) : Prop :=
  ∃ disc ∈ discs, ∃ disc' ∈ discs, disc.id = job.detectedDiscId ∧
    disc'.id = other.detectedDiscId ∧
    (disc.fingerprint = disc'.fingerprint ∨ disc.opticalDriveId = disc'.opticalDriveId)

def attemptsIn (jobs : List ArchiveJob) (archiveRequestId : String) : List Nat :=
  (jobs.filter (·.archiveRequestId = archiveRequestId)).map (·.attemptOrdinal)

/-- What the requests and the jobs are to one another. -/
structure QueueInvariant (t : Tables) : Prop where
  discIds : (t.discs.map (·.id)).Nodup
  requestRows : RequestRows t.requests t.discs
  jobRows : JobRows t.jobs t
  active : ∀ request ∈ t.requests, request.Active ↔ ∃ job ∈ t.jobs, job.RunsFor request.id
  apart : ∀ job ∈ t.jobs, ∀ other ∈ t.jobs, job.Running → other.Running →
    SharesSource t.discs job other → job = other
  numbered : ∀ archiveRequestId, attemptsIn t.jobs archiveRequestId =
    List.range' 1 (attemptsIn t.jobs archiveRequestId).length

/-- The same request later; a cancelled or fulfilled one is as it was. -/
structure ArchiveRequest.Keeps (old new : ArchiveRequest) : Prop where
  id : new.id = old.id
  detectedDiscId : new.detectedDiscId = old.detectedDiscId
  finished : old.Terminal → new = old

/-- The same job later; one that has ended is as it was. -/
structure ArchiveJob.Keeps (old new : ArchiveJob) : Prop where
  id : new.id = old.id
  archiveRequestId : new.archiveRequestId = old.archiveRequestId
  detectedDiscId : new.detectedDiscId = old.detectedDiscId
  attemptOrdinal : new.attemptOrdinal = old.attemptOrdinal
  finished : ¬old.Running → new = old

/-- The same disc later, in its drive and with its content. -/
structure DetectedDisc.Keeps (old new : DetectedDisc) : Prop where
  id : new.id = old.id
  opticalDriveId : new.opticalDriveId = old.opticalDriveId
  fingerprint : new.fingerprint = old.fingerprint

theorem ArchiveRequest.Keeps.refl (request : ArchiveRequest) : request.Keeps request :=
  ⟨rfl, rfl, fun _ => rfl⟩

theorem ArchiveJob.Keeps.refl (job : ArchiveJob) : job.Keeps job :=
  ⟨rfl, rfl, rfl, rfl, fun _ => rfl⟩

theorem ArchiveRequest.Keeps.trans {a b c : ArchiveRequest} (h : a.Keeps b) (h' : b.Keeps c) :
    a.Keeps c where
  id := h'.id.trans h.id
  detectedDiscId := h'.detectedDiscId.trans h.detectedDiscId
  finished hterminal := by
    have hb := h.finished hterminal
    rw [hb] at h'
    exact h'.finished hterminal

theorem ArchiveJob.Keeps.trans {a b c : ArchiveJob} (h : a.Keeps b) (h' : b.Keeps c) :
    a.Keeps c where
  id := h'.id.trans h.id
  archiveRequestId := h'.archiveRequestId.trans h.archiveRequestId
  detectedDiscId := h'.detectedDiscId.trans h.detectedDiscId
  attemptOrdinal := h'.attemptOrdinal.trans h.attemptOrdinal
  finished hended := by
    have hb := h.finished hended
    rw [hb] at h'
    exact h'.finished hended

structure DiscsKept (discs discs' : List DetectedDisc) : Prop where
  distinct : (discs'.map (·.id)).Nodup
  kept : ∀ disc ∈ discs, ∃ disc' ∈ discs', disc.Keeps disc'

theorem DiscsKept.refl (h : (discs.map DetectedDisc.id).Nodup) : DiscsKept discs discs :=
  ⟨h, fun disc hdisc => ⟨disc, hdisc, rfl, rfl, rfl⟩⟩

/-- The disc with the id of a kept one is that disc. -/
theorem DiscsKept.same {id : String} {discs discs' : List DetectedDisc} (h : DiscsKept discs discs')
    (hid : id ∈ discs.map (·.id)) (hdisc' : disc' ∈ discs') (hdid : disc'.id = id) :
    ∃ disc ∈ discs, disc.Keeps disc' := by
  obtain ⟨disc, hdisc, rfl⟩ := List.mem_map.1 hid
  obtain ⟨other, hother, hkeeps⟩ := h.kept disc hdisc
  cases List.inj_on_of_nodup_map h.distinct hdisc' hother (hdid.trans hkeeps.id.symm)
  exact ⟨disc, hdisc, hkeeps⟩

theorem DiscsKept.ids {id : String} {discs discs' : List DetectedDisc} (h : DiscsKept discs discs')
    (hid : id ∈ discs.map (·.id)) : id ∈ discs'.map (·.id) := by
  obtain ⟨disc, hdisc, rfl⟩ := List.mem_map.1 hid
  obtain ⟨disc', hdisc', hkeeps⟩ := h.kept disc hdisc
  exact List.mem_map.2 ⟨disc', hdisc', hkeeps.id⟩

/-- Kept discs make no two jobs share a source that did not share it before. -/
theorem DiscsKept.sharesSource {job other : ArchiveJob} {discs discs' : List DetectedDisc}
    (h : DiscsKept discs discs')
    (hjob : job.detectedDiscId ∈ discs.map (·.id))
    (hother : other.detectedDiscId ∈ discs.map (·.id))
    (hshares : SharesSource discs' job other) : SharesSource discs job other := by
  obtain ⟨a', ha', b', hb', haid, hbid, hsame⟩ := hshares
  obtain ⟨a, ha, hka⟩ := h.same hjob ha' haid
  obtain ⟨b, hb, hkb⟩ := h.same hother hb' hbid
  refine ⟨a, ha, b, hb, hka.id.symm.trans haid, hkb.id.symm.trans hbid, ?_⟩
  rwa [← hka.fingerprint, ← hkb.fingerprint, ← hka.opticalDriveId, ← hkb.opticalDriveId]

/-- What one write does to the requests and the jobs. -/
inductive TableStep (t t' : Tables) : Prop
  | kept
      (requests : List.Forall₂ (fun old new => ArchiveRequest.Keeps old new ∧
        (new.Active ↔ old.Active)) t.requests t'.requests)
      (jobs : List.Forall₂ (fun old new => ArchiveJob.Keeps old new ∧
        (new.Running ↔ old.Running)) t.jobs t'.jobs)
      (discs : DiscsKept t.discs t'.discs)
  | requested (request : ArchiveRequest) (pending : request.status = .pending)
      (requests : t'.requests = t.requests ++ [request]) (jobs : t'.jobs = t.jobs)
      (discs : t'.discs = t.discs)
  | started (request : ArchiveRequest) (job : ArchiveJob)
      (requests : List.Forall₂ (fun old new =>
        if old.id = request.id then old.Keeps new ∧ new.Active else new = old)
        t.requests t'.requests)
      (jobs : t'.jobs = t.jobs ++ [job]) (runs : job.RunsFor request.id)
      (next : job.attemptOrdinal = t.lastAttempt request.id + 1)
      (free : ∀ other ∈ t.jobs, other.Running → ¬SharesSource t.discs job other)
      (discs : t'.discs = t.discs)
  | settled (job : ArchiveJob) (mem : job ∈ t.jobs) (running : job.Running)
      (requests : List.Forall₂ (fun old new =>
        if old.id = job.archiveRequestId then old.Keeps new ∧ ¬new.Active else new = old)
        t.requests t'.requests)
      (jobs : List.Forall₂ (fun old new =>
        if old.id = job.id then old.Keeps new ∧ ¬new.Running else new = old) t.jobs t'.jobs)
      (discs : t'.discs = t.discs)

theorem attemptsIn_kept (h : List.Forall₂ ArchiveJob.Keeps jobs jobs') :
    attemptsIn jobs' archiveRequestId = attemptsIn jobs archiveRequestId := by
  rw [attemptsIn, attemptsIn]
  induction h with
  | nil => rfl
  | @cons old new jobs jobs' hkeeps _ ih =>
    rw [List.filter_cons, List.filter_cons, hkeeps.archiveRequestId]
    split
    · rw [List.map_cons, List.map_cons, hkeeps.attemptOrdinal, ih]
    · exact ih

theorem foldl_max_range' (k : Nat) : (List.range' 1 k).foldl max 0 = k := by
  induction k with
  | zero => rfl
  | succ k ih =>
    rw [List.range'_1_concat, List.foldl_append, ih]
    rw [Nat.add_comm 1 k]
    exact max_eq_right (Nat.le_succ k)

/-- The ordinal after the last is the next one. -/
theorem attemptsIn_next {t : Tables} {job : ArchiveJob} (h : attemptsIn t.jobs archiveRequestId =
      List.range' 1 (attemptsIn t.jobs archiveRequestId).length)
    (hnext : job.attemptOrdinal = t.lastAttempt archiveRequestId + 1)
    (hfor : job.archiveRequestId = archiveRequestId) :
    attemptsIn (t.jobs ++ [job]) archiveRequestId =
      List.range' 1 (attemptsIn (t.jobs ++ [job]) archiveRequestId).length := by
  have hlast : t.lastAttempt archiveRequestId = (attemptsIn t.jobs archiveRequestId).length := by
    rw [Tables.lastAttempt, ← attemptsIn, h, foldl_max_range', List.length_range']
  have happend : attemptsIn (t.jobs ++ [job]) archiveRequestId =
      attemptsIn t.jobs archiveRequestId ++ [job.attemptOrdinal] := by
    rw [attemptsIn, List.filter_append, List.map_append, ← attemptsIn]
    rw [List.filter_cons, if_pos (decide_eq_true hfor)]
    rfl
  rw [happend, List.length_append, List.length_singleton, List.range'_1_concat, ← h, hnext, hlast]
  rw [Nat.add_comm 1]

theorem attemptsIn_other {job : ArchiveJob} (hfor : job.archiveRequestId ≠ archiveRequestId) :
    attemptsIn (jobs ++ [job]) archiveRequestId = attemptsIn jobs archiveRequestId := by
  rw [attemptsIn, List.filter_append, List.map_append, ← attemptsIn]
  rw [List.filter_cons, if_neg (by rwa [decide_eq_true_eq])]
  exact List.append_nil _

theorem QueueInvariant.same_job {t : Tables} (h : QueueInvariant t) (hjob : job ∈ t.jobs)
    (hother : other ∈ t.jobs) (hid : job.id = other.id) : job = other :=
  List.inj_on_of_nodup_map h.jobRows.1 hjob hother hid

theorem QueueInvariant.same_request {t : Tables} (h : QueueInvariant t) (ha : a ∈ t.requests)
    (hb : b ∈ t.requests) (hid : a.id = b.id) : a = b :=
  List.inj_on_of_nodup_map h.requestRows.1 ha hb hid

/-- A request has one running job at most. -/
theorem QueueInvariant.sole {archiveRequestId : String} {t : Tables} (h : QueueInvariant t)
    (hjob : job ∈ t.jobs) (hother : other ∈ t.jobs) (hruns : job.RunsFor archiveRequestId)
    (hothers : other.RunsFor archiveRequestId) : job = other :=
  List.inj_on_of_nodup_map h.jobRows.2.2.2.1
    (List.mem_filter.2 ⟨hjob, decide_eq_true hruns.1⟩)
    (List.mem_filter.2 ⟨hother, decide_eq_true hothers.1⟩) (hruns.2.trans hothers.2.symm)

theorem runsFor_kept {archiveRequestId : String} (h : List.Forall₂ (fun old new =>
      ArchiveJob.Keeps old new ∧ (new.Running ↔ old.Running)) jobs jobs') :
    (∃ job ∈ jobs', job.RunsFor archiveRequestId) ↔ ∃ job ∈ jobs, job.RunsFor archiveRequestId := by
  constructor
  · rintro ⟨new, hnew, hruns⟩
    obtain ⟨old, hold, hkeeps, hsame⟩ := exists_left_of_mem h hnew
    exact ⟨old, hold, hsame.1 hruns.1, hkeeps.archiveRequestId.symm.trans hruns.2⟩
  · rintro ⟨old, hold, hruns⟩
    obtain ⟨new, hnew, hkeeps, hsame⟩ := exists_right_of_mem h hold
    exact ⟨new, hnew, hsame.2 hruns.1, hkeeps.archiveRequestId.trans hruns.2⟩

section Invariant

variable {t t' : Tables}

theorem QueueInvariant.kept (h : QueueInvariant t)
    (requests : List.Forall₂ (fun old new => ArchiveRequest.Keeps old new ∧
      (new.Active ↔ old.Active)) t.requests t'.requests)
    (jobs : List.Forall₂ (fun old new => ArchiveJob.Keeps old new ∧
      (new.Running ↔ old.Running)) t.jobs t'.jobs)
    (discs : DiscsKept t.discs t'.discs) (hr : RequestRows t'.requests t'.discs)
    (hj : JobRows t'.jobs t') : QueueInvariant t' where
  discIds := discs.distinct
  requestRows := hr
  jobRows := hj
  active new hnew := by
    obtain ⟨old, hold, hkeeps, hsame⟩ := exists_left_of_mem requests hnew
    rw [hsame, h.active old hold, hkeeps.id]
    exact (runsFor_kept jobs).symm
  apart job' hjob' other' hother' hruns' hothers' hshares := by
    obtain ⟨job, hjob, hk, hsame⟩ := exists_left_of_mem jobs hjob'
    obtain ⟨other, hother, hko, hsameo⟩ := exists_left_of_mem jobs hother'
    have hbefore : SharesSource t'.discs job other := by
      rwa [SharesSource, ← hk.detectedDiscId, ← hko.detectedDiscId]
    have heq := h.apart job hjob other hother (hsame.1 hruns') (hsameo.1 hothers')
      (discs.sharesSource (h.jobRows.2.2.2.2 job hjob).2 (h.jobRows.2.2.2.2 other hother).2
        hbefore)
    apply List.inj_on_of_nodup_map hj.1 hjob' hother'
    rw [hk.id, hko.id, heq]
  numbered archiveRequestId := by
    rw [attemptsIn_kept (jobs.imp fun _ _ hkeeps => hkeeps.1)]
    exact h.numbered archiveRequestId

theorem QueueInvariant.requested (h : QueueInvariant t) (pending : request.status = .pending)
    (requests : t'.requests = t.requests ++ [request]) (jobs : t'.jobs = t.jobs)
    (discs : t'.discs = t.discs) (hr : RequestRows t'.requests t'.discs)
    (hj : JobRows t'.jobs t') : QueueInvariant t' where
  discIds := discs ▸ h.discIds
  requestRows := hr
  jobRows := hj
  active other hother := by
    rw [requests, List.mem_append, List.mem_singleton] at hother
    rw [jobs]
    obtain hold | rfl := hother
    · exact h.active other hold
    · constructor
      · rintro (hrunning | hcancelling)
        · cases pending.symm.trans hrunning
        · cases pending.symm.trans hcancelling
      · rintro ⟨job, hjob, hruns⟩
        have hknown := (h.jobRows.2.2.2.2 job hjob).1
        rw [hruns.2] at hknown
        have hdistinct := hr.1
        rw [requests, List.map_append, List.map_singleton] at hdistinct
        exact absurd hknown fun hmem => (List.nodup_append.1 hdistinct).2.2 _ hmem _
          (List.mem_singleton.2 rfl) rfl
  apart := by
    rw [jobs, discs]
    exact h.apart
  numbered := by
    rw [jobs]
    exact h.numbered

theorem QueueInvariant.started (h : QueueInvariant t) {request : ArchiveRequest}
    (requests : List.Forall₂ (fun old new =>
      if old.id = request.id then ArchiveRequest.Keeps old new ∧ new.Active else new = old)
      t.requests t'.requests)
    (jobs : t'.jobs = t.jobs ++ [job]) (runs : job.RunsFor request.id)
    (next : job.attemptOrdinal = t.lastAttempt request.id + 1)
    (free : ∀ other ∈ t.jobs, other.Running → ¬SharesSource t.discs job other)
    (discs : t'.discs = t.discs) (hr : RequestRows t'.requests t'.discs)
    (hj : JobRows t'.jobs t') : QueueInvariant t' where
  discIds := discs ▸ h.discIds
  requestRows := hr
  jobRows := hj
  active new hnew := by
    obtain ⟨old, hold, hrow⟩ := exists_left_of_mem requests hnew
    rw [jobs]
    split at hrow
    · next hid =>
      refine ⟨fun _ => ⟨job, List.mem_append_right _ (List.mem_singleton.2 rfl), ?_⟩,
        fun _ => hrow.2⟩
      rw [hrow.1.id, hid]
      exact runs
    · next hid =>
      subst hrow
      rw [h.active new hold]
      constructor
      · rintro ⟨other, hother, hruns⟩
        exact ⟨other, List.mem_append_left _ hother, hruns⟩
      · rintro ⟨other, hother, hruns⟩
        rw [List.mem_append, List.mem_singleton] at hother
        obtain hother | rfl := hother
        · exact ⟨other, hother, hruns⟩
        · exact absurd (hruns.2.symm.trans runs.2) hid
  apart a ha b hb hra hrb hshares := by
    rw [jobs, List.mem_append, List.mem_singleton] at ha hb
    rw [discs] at hshares
    obtain ha | rfl := ha
    · obtain hb | rfl := hb
      · exact h.apart a ha b hb hra hrb hshares
      · obtain ⟨d, hd, d', hd', hid, hid', hsame⟩ := hshares
        exact absurd ⟨d', hd', d, hd, hid', hid, hsame.imp Eq.symm Eq.symm⟩ (free a ha hra)
    · obtain hb | rfl := hb
      · exact absurd hshares (free b hb hrb)
      · rfl
  numbered archiveRequestId := by
    rw [jobs]
    by_cases hid : job.archiveRequestId = archiveRequestId
    · apply attemptsIn_next (h.numbered archiveRequestId) _ hid
      rw [← hid, runs.2]
      exact next
    · rw [attemptsIn_other hid]
      exact h.numbered archiveRequestId

theorem QueueInvariant.settled (h : QueueInvariant t) (mem : job ∈ t.jobs) (running : job.Running)
    (requests : List.Forall₂ (fun old new =>
      if old.id = job.archiveRequestId then ArchiveRequest.Keeps old new ∧ ¬new.Active
      else new = old) t.requests t'.requests)
    (jobs : List.Forall₂ (fun old new =>
      if old.id = job.id then ArchiveJob.Keeps old new ∧ ¬new.Running else new = old)
      t.jobs t'.jobs)
    (discs : t'.discs = t.discs) (hr : RequestRows t'.requests t'.discs)
    (hj : JobRows t'.jobs t') : QueueInvariant t' where
  discIds := discs ▸ h.discIds
  requestRows := hr
  jobRows := hj
  active new hnew := by
    obtain ⟨old, hold, hrow⟩ := exists_left_of_mem requests hnew
    split at hrow
    · next hid =>
      refine ⟨fun hactive => absurd hactive hrow.2, ?_⟩
      rintro ⟨other', hother', hruns⟩
      obtain ⟨other, hother, hjobrow⟩ := exists_left_of_mem jobs hother'
      split at hjobrow
      · exact absurd hruns.1 hjobrow.2
      · next hne =>
        subst hjobrow
        rw [hrow.1.id, hid] at hruns
        cases h.sole mem hother ⟨running, rfl⟩ hruns
        exact absurd rfl hne
    · next hid =>
      subst hrow
      rw [h.active new hold]
      constructor
      · rintro ⟨other, hother, hruns⟩
        obtain ⟨other', hother', hjobrow⟩ := exists_right_of_mem jobs hother
        split at hjobrow
        · next hsame =>
          cases h.same_job hother mem hsame
          exact absurd hruns.2.symm hid
        · exact ⟨other', hother', hjobrow ▸ hruns⟩
      · rintro ⟨other', hother', hruns⟩
        obtain ⟨other, hother, hjobrow⟩ := exists_left_of_mem jobs hother'
        split at hjobrow
        · exact absurd hruns.1 hjobrow.2
        · exact ⟨other, hother, hjobrow ▸ hruns⟩
  apart a' ha' b' hb' hra hrb hshares := by
    obtain ⟨a, ha, hrowa⟩ := exists_left_of_mem jobs ha'
    obtain ⟨b, hb, hrowb⟩ := exists_left_of_mem jobs hb'
    split at hrowa
    · exact absurd hra hrowa.2
    · split at hrowb
      · exact absurd hrb hrowb.2
      · subst hrowa hrowb
        exact h.apart _ ha _ hb hra hrb (discs ▸ hshares)
  numbered archiveRequestId := by
    have hkeeps : List.Forall₂ ArchiveJob.Keeps t.jobs t'.jobs := by
      apply jobs.imp
      intro old new hrow
      split at hrow
      · exact hrow.1
      · exact hrow ▸ .refl old
    rw [attemptsIn_kept hkeeps]
    exact h.numbered archiveRequestId

theorem TableStep.invariant (h : TableStep t t') (hi : QueueInvariant t)
    (hr : RequestRows t'.requests t'.discs) (hj : JobRows t'.jobs t') : QueueInvariant t' := by
  cases h with
  | kept requests jobs discs => exact hi.kept requests jobs discs hr hj
  | requested request pending requests jobs discs =>
    exact hi.requested pending requests jobs discs hr hj
  | started request job requests jobs runs next free discs =>
    exact hi.started requests jobs runs next free discs hr hj
  | settled job mem running requests jobs discs =>
    exact hi.settled mem running requests jobs discs hr hj

end Invariant

/-- The requests and the jobs go on: each is there later, and a settled one as it was. -/
structure Continues (t t' : Tables) : Prop where
  requests : ∀ request ∈ t.requests, ∃ later ∈ t'.requests, request.Keeps later
  jobs : ∀ job ∈ t.jobs, ∃ later ∈ t'.jobs, job.Keeps later

theorem Continues.refl (t : Tables) : Continues t t :=
  ⟨fun request hmem => ⟨request, hmem, .refl request⟩, fun job hmem => ⟨job, hmem, .refl job⟩⟩

theorem Continues.trans {a b c : Tables} (h : Continues a b) (h' : Continues b c) :
    Continues a c := by
  constructor
  · intro request hmem
    obtain ⟨later, hlater, hkeeps⟩ := h.requests request hmem
    obtain ⟨last, hlast, hkeeps'⟩ := h'.requests later hlater
    exact ⟨last, hlast, hkeeps.trans hkeeps'⟩
  · intro job hmem
    obtain ⟨later, hlater, hkeeps⟩ := h.jobs job hmem
    obtain ⟨last, hlast, hkeeps'⟩ := h'.jobs later hlater
    exact ⟨last, hlast, hkeeps.trans hkeeps'⟩

theorem TableStep.continues (h : TableStep t t') : Continues t t' := by
  cases h with
  | kept requests jobs discs =>
    constructor
    · intro request hmem
      obtain ⟨later, hlater, hkeeps, -⟩ := exists_right_of_mem requests hmem
      exact ⟨later, hlater, hkeeps⟩
    · intro job hmem
      obtain ⟨later, hlater, hkeeps, -⟩ := exists_right_of_mem jobs hmem
      exact ⟨later, hlater, hkeeps⟩
  | requested new pending requests jobs discs =>
    constructor
    · intro request hmem
      exact ⟨request, requests ▸ List.mem_append_left _ hmem, .refl request⟩
    · intro job hmem
      exact ⟨job, jobs ▸ hmem, .refl job⟩
  | started request' job' requests jobs runs next free discs =>
    constructor
    · intro request hmem
      obtain ⟨later, hlater, hrow⟩ := exists_right_of_mem requests hmem
      split at hrow
      · exact ⟨later, hlater, hrow.1⟩
      · exact ⟨later, hlater, hrow ▸ .refl request⟩
    · intro job hmem
      exact ⟨job, jobs ▸ List.mem_append_left _ hmem, .refl job⟩
  | settled job' mem running requests jobs discs =>
    constructor
    · intro request hmem
      obtain ⟨later, hlater, hrow⟩ := exists_right_of_mem requests hmem
      split at hrow
      · exact ⟨later, hlater, hrow.1⟩
      · exact ⟨later, hlater, hrow ▸ .refl request⟩
    · intro job hmem
      obtain ⟨later, hlater, hrow⟩ := exists_right_of_mem jobs hmem
      split at hrow
      · exact ⟨later, hlater, hrow.1⟩
      · exact ⟨later, hlater, hrow ▸ .refl job⟩

/-- A write whose rows have passed the checks. -/
def Written (t t' : Tables) : Prop :=
  TableStep t t' ∧ RequestRows t'.requests t'.discs ∧ JobRows t'.jobs t'

/-- The writes of one call. -/
abbrev Writes : Tables → Tables → Prop := Relation.ReflTransGen Written

theorem Writes.invariant (h : Writes t t') (hi : QueueInvariant t) : QueueInvariant t' := by
  induction h with
  | refl => exact hi
  | tail _ hstep ih => exact hstep.1.invariant ih hstep.2.1 hstep.2.2

theorem Writes.continues (h : Writes t t') : Continues t t' := by
  induction h with
  | refl => exact .refl t
  | tail _ hstep ih => exact ih.trans hstep.1.continues

theorem JobRows.known {t t' : Tables} (h : JobRows jobs t)
    (hr : ∀ id ∈ t.requests.map (·.id), id ∈ t'.requests.map (·.id))
    (hd : ∀ id ∈ t.discs.map (·.id), id ∈ t'.discs.map (·.id)) : JobRows jobs t' := by
  obtain ⟨hids, hvalid, hattempts, hrunning, hknown⟩ := h
  refine ⟨hids, hvalid, hattempts, hrunning, fun job hjob => ?_⟩
  exact ⟨hr _ (hknown job hjob).1, hd _ (hknown job hjob).2⟩

section Writing

variable {t t' : Tables} {p : ArchiveRequest → Prop} [DecidablePred p]
  {f : ArchiveRequest → ArchiveRequest} {q : ArchiveJob → Prop} [DecidablePred q]
  {g : ArchiveJob → ArchiveJob}

theorem kept_jobs (jobs : List ArchiveJob) : List.Forall₂ (fun old new =>
    ArchiveJob.Keeps old new ∧ (new.Running ↔ old.Running)) jobs jobs :=
  List.forall₂_same.2 fun job _ => ⟨.refl job, Iff.rfl⟩

theorem kept_requests (requests : List ArchiveRequest) : List.Forall₂ (fun old new =>
    ArchiveRequest.Keeps old new ∧ (new.Active ↔ old.Active)) requests requests :=
  List.forall₂_same.2 fun request _ => ⟨.refl request, Iff.rfl⟩

/-- Requests that change without becoming active or idle. -/
theorem QueueInvariant.updateRequest (h : QueueInvariant t)
    (hupdate : t.updateRequest p f = .ok (found, t'))
    (hf : ∀ request ∈ t.requests, p request →
      request.Keeps (f request) ∧ ((f request).Active ↔ request.Active)) : Writes t t' := by
  obtain ⟨-, -, rfl⟩ | ⟨request, hmem, hp, hrows, -, rfl⟩ := updateRequest_ok hupdate
  · exact .refl
  · have hsame : List.Forall₂ (fun old new => ArchiveRequest.Keeps old new ∧
        (new.Active ↔ old.Active)) t.requests (Rows.update p f t.requests) :=
      Rows.forall₂_update hf fun row _ _ => ⟨.refl row, Iff.rfl⟩
    refine .single ⟨.kept hsame (kept_jobs _) (.refl h.discIds), hrows, ?_⟩
    refine h.jobRows.known ?_ fun _ hid => hid
    intro id hid
    rwa [Rows.map_update _ fun row hrow hp => (hf row hrow hp).1.id]

theorem QueueInvariant.insertRequest (h : QueueInvariant t)
    (hinsert : insertRequest request t = .ok (row, t')) (hpending : request.status = .pending) :
    Writes t t' := by
  obtain ⟨t₁, hcommit, hpure⟩ := bind_ok.1 hinsert
  cases pure_ok.1 hpure
  obtain ⟨hrows, rfl⟩ := commitRequests_ok.1 hcommit
  refine .single ⟨.requested request hpending rfl rfl rfl, hrows, ?_⟩
  refine h.jobRows.known ?_ fun _ hid => hid
  intro id hid
  rw [List.map_append]
  exact List.mem_append_left _ hid

/-- A job that changes while it runs. -/
theorem QueueInvariant.updateHeld (h : QueueInvariant t)
    (hupdate : updateHeld claim q g t = .ok (updated, t'))
    (hg : ∀ job ∈ t.jobs, q job → job.Keeps (g job) ∧ ((g job).Running ↔ job.Running)) :
    Writes t t' := by
  obtain ⟨job, hmem, hq, hrows, -, rfl⟩ := updateHeld_ok hupdate
  have hsame : List.Forall₂ (fun old new => ArchiveJob.Keeps old new ∧
      (new.Running ↔ old.Running)) t.jobs (Rows.update q g t.jobs) :=
    Rows.forall₂_update hg fun row _ _ => ⟨.refl row, Iff.rfl⟩
  exact .single ⟨.kept (kept_requests _) hsame (.refl h.discIds), h.requestRows, hrows⟩

/-- A running job ends together with the activity of its request. -/
theorem QueueInvariant.settle (h : QueueInvariant t) (hmem : job ∈ t.jobs) (hrunning : job.Running)
    (hjobs : JobRows (Rows.update q g t.jobs) t)
    (hq : ∀ other ∈ t.jobs, q other ↔ other.id = job.id)
    (hg : job.Keeps (g job) ∧ ¬(g job).Running)
    (hrequests : RequestRows (Rows.update p f t.requests) t.discs)
    (hp : ∀ request ∈ t.requests, p request ↔ request.id = job.archiveRequestId)
    (hf : ∀ request, request.Active → request.Keeps (f request) ∧ ¬(f request).Active) :
    Writes t { t with jobs := Rows.update q g t.jobs, requests := Rows.update p f t.requests } := by
  have hactive : ∀ request ∈ t.requests, p request → request.Active := by
    intro request hrequest hpr
    apply (h.active request hrequest).2
    exact ⟨job, hmem, hrunning, ((hp request hrequest).1 hpr).symm⟩
  refine .single ⟨.settled job hmem hrunning ?_ ?_ rfl, hrequests, ?_⟩
  · apply Rows.forall₂_update
    · intro request hrequest hpr
      rw [if_pos ((hp request hrequest).1 hpr)]
      exact hf request (hactive request hrequest hpr)
    · intro request hrequest hpr
      rw [if_neg fun hid => hpr ((hp request hrequest).2 hid)]
  · apply Rows.forall₂_update
    · intro other hother hqo
      have hid := (hq other hother).1 hqo
      rw [if_pos hid]
      cases h.same_job hother hmem hid
      exact hg
    · intro other hother hqo
      rw [if_neg fun hid => hqo ((hq other hother).2 hid)]
  · refine hjobs.known ?_ fun _ hid => hid
    intro id hid
    rwa [Rows.map_update _ fun row hrow hpr => (hf row (hactive row hrow hpr)).1.id]

end Writing

end RipDvd.ArchiveQueue
