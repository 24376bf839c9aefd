import RipDvd.ArchiveQueueInvariant

namespace RipDvd.ArchiveQueue
set_option autoImplicit true

variable {t t' : Tables}

/-- Tables that differ in what the requests and jobs do not read. -/
theorem QueueInvariant.same (h : QueueInvariant t) (hr : t'.requests = t.requests)
    (hj : t'.jobs = t.jobs) (hd : t'.discs = t.discs) : Writes t t' := by
  refine .single ⟨.kept ?_ ?_ ?_, ?_, ?_⟩
  · rw [hr]
    exact kept_requests _
  · rw [hj]
    exact kept_jobs _
  · rw [hd]
    exact .refl h.discIds
  · rw [hr, hd]
    exact h.requestRows
  · rw [hj]
    exact h.jobRows.known (fun _ hid => hr ▸ hid) fun _ hid => hd ▸ hid

/-- Discs that stay where they are leave the requests and jobs alone. -/
theorem QueueInvariant.discs (h : QueueInvariant t) (hr : t'.requests = t.requests)
    (hj : t'.jobs = t.jobs) (hd : DiscsKept t.discs t'.discs) : Writes t t' := by
  refine .single ⟨.kept ?_ ?_ hd, ?_, ?_⟩
  · rw [hr]
    exact kept_requests _
  · rw [hj]
    exact kept_jobs _
  · rw [hr]
    obtain ⟨hids, hvalid, hdisc, hknown⟩ := h.requestRows
    exact ⟨hids, hvalid, hdisc, fun request hmem => hd.ids (hknown request hmem)⟩
  · rw [hj]
    exact h.jobRows.known (fun _ hid => hr ▸ hid) fun _ hid => hd.ids hid

/-- An idle request that stays idle. -/
theorem ArchiveRequest.Keeps.idle {old new : ArchiveRequest}
    (hold : old.status ∈ [ArchiveRequestStatus.pending, .needsAttention]) (hid : new.id = old.id)
    (hdisc : new.detectedDiscId = old.detectedDiscId) (hnew : ¬new.Active) :
    old.Keeps new ∧ (new.Active ↔ old.Active) := by
  rw [List.mem_cons, List.mem_singleton] at hold
  refine ⟨⟨hid, hdisc, ?_⟩, fun hactive => absurd hactive hnew, ?_⟩
  · rintro (hfulfilled | hcancelled)
    · rw [hfulfilled] at hold
      rcases hold with h | h <;> cases h
    · rw [hcancelled] at hold
      rcases hold with h | h <;> cases h
  · rintro (hrunning | hcancelling)
    · rw [hrunning] at hold
      rcases hold with h | h <;> cases h
    · rw [hcancelling] at hold
      rcases hold with h | h <;> cases h

theorem not_active_of_status {request : ArchiveRequest}
    (h : request.status ∈ [ArchiveRequestStatus.pending, .needsAttention, .fulfilled, .cancelled]) :
    ¬request.Active := by
  rintro (hrunning | hcancelling)
  · rw [hrunning] at h
    exact absurd h (by decide)
  · rw [hcancelling] at h
    exact absurd h (by decide)

theorem archiveRequestWithCreationPriority_writes (hi : QueueInvariant t)
    (h : archiveRequestWithCreationPriority request priority timestamp t = .ok (row, t')) :
    Writes t t' := by
  unfold archiveRequestWithCreationPriority at h
  split at h
  · cases h
    exact .refl
  · split at h
    · cases h
      exact .refl
    · obtain ⟨⟨found, t₁⟩, hupdate, hrest⟩ := bind_ok.1 h
      obtain ⟨_, -, hpure⟩ := bind_ok.1 hrest
      cases pure_ok.1 hpure
      apply hi.updateRequest hupdate
      intro other _ hp
      refine ArchiveRequest.Keeps.idle ?_ rfl rfl (not_active_of_status ?_)
      · rw [hp.2]
        decide
      · show other.status ∈ _
        rw [hp.2]
        decide

theorem reopened_keeps {request : ArchiveRequest} (h : request.status = .needsAttention) :
    request.Keeps (request.reopened priority timestamp) ∧
      ((request.reopened priority timestamp).Active ↔ request.Active) := by
  refine ArchiveRequest.Keeps.idle ?_ rfl rfl (not_active_of_status List.mem_cons_self)
  rw [h]
  decide

theorem reuseRequest_writes (hi : QueueInvariant t)
    (h : reuseRequest request priority timestamp t = .ok (row, t')) : Writes t t' := by
  rw [reuseRequest] at h
  split at h
  · obtain ⟨⟨found, t₁⟩, hupdate, hrest⟩ := bind_ok.1 h
    obtain ⟨_, -, hpure⟩ := bind_ok.1 hrest
    cases pure_ok.1 hpure
    exact hi.updateRequest hupdate fun other _ hp => reopened_keeps hp.2
  · exact archiveRequestWithCreationPriority_writes hi h

theorem requestFor_writes (hi : QueueInvariant t)
    (h : requestFor digest input disc newId timestamp t = .ok (row, t')) : Writes t t' := by
  rw [requestFor] at h
  split at h
  · obtain ⟨_, -, hrest⟩ := bind_ok.1 h
    exact archiveRequestWithCreationPriority_writes hi hrest
  · obtain ⟨reusable, -, hrest⟩ := bind_ok.1 h
    obtain ⟨_, -, hrest⟩ := bind_ok.1 hrest
    split at hrest
    · obtain ⟨_, -, hrest⟩ := bind_ok.1 hrest
      exact reuseRequest_writes hi hrest
    · exact hi.insertRequest hrest rfl

theorem approveDisc_writes {id : String} (hi : QueueInvariant t) : Writes t (t.approveDisc id) := by
  refine hi.discs rfl rfl ⟨?_, ?_⟩
  · have hids : (t.approveDisc id).discs.map (·.id) = t.discs.map (·.id) := by
      apply Rows.map_update
      exact fun _ _ _ => rfl
    rw [hids]
    exact hi.discIds
  · intro disc hdisc
    have hrows : List.Forall₂ DetectedDisc.Keeps t.discs (t.approveDisc id).discs :=
      Rows.forall₂_update (fun _ _ _ => ⟨rfl, rfl, rfl⟩) fun _ _ _ => ⟨rfl, rfl, rfl⟩
    exact exists_right_of_mem hrows hdisc

theorem submitRequest_writes (hi : QueueInvariant t)
    (h : submitRequest digest input newId timestamp t = .ok (row, t')) : Writes t t' := by
  obtain ⟨_, -, h⟩ := bind_ok.1 h
  obtain ⟨disc, -, h⟩ := bind_ok.1 h
  obtain ⟨_, -, h⟩ := bind_ok.1 h
  obtain ⟨_, -, h⟩ := bind_ok.1 h
  obtain ⟨_, -, h⟩ := bind_ok.1 h
  obtain ⟨_, -, h⟩ := bind_ok.1 h
  have happroved : Writes t (t.approveDisc disc.id) := approveDisc_writes hi
  exact happroved.trans (requestFor_writes (happroved.invariant hi) h)

theorem recordMutationInvocation_writes (hi : QueueInvariant t) :
    Writes t (recordMutationInvocation key invocation t) :=
  hi.same rfl rfl rfl

theorem createArchiveRequest_writes (hi : QueueInvariant t)
    (h : createArchiveRequest digest input mutationKey newId timestamp t = .ok (row, t')) :
    Writes t t' := by
  unfold createArchiveRequest at h
  split at h
  · exact submitRequest_writes hi h
  · obtain ⟨previous, -, h⟩ := bind_ok.1 h
    split at h
    · cases pure_ok.1 h
      exact .refl
    · obtain ⟨⟨request, t₁⟩, hsubmit, hpure⟩ := bind_ok.1 h
      cases pure_ok.1 hpure
      have hwrites := submitRequest_writes hi hsubmit
      exact hwrites.trans (recordMutationInvocation_writes (hwrites.invariant hi))

theorem submitFreshRearchive_writes (hi : QueueInvariant t)
    (h : submitFreshRearchive digest sourceArchiveId newId timestamp t = .ok (row, t')) :
    Writes t t' := by
  obtain ⟨source, -, h⟩ := bind_ok.1 h
  obtain ⟨_, -, h⟩ := bind_ok.1 h
  obtain ⟨_, -, h⟩ := bind_ok.1 h
  obtain ⟨matching, -, h⟩ := bind_ok.1 h
  obtain ⟨_, -, h⟩ := bind_ok.1 h
  split at h
  · obtain ⟨_, -, h⟩ := bind_ok.1 h
    obtain ⟨_, -, h⟩ := bind_ok.1 h
    cases pure_ok.1 h
    exact .refl
  · exact hi.insertRequest h rfl

theorem submitRearchive_writes (hi : QueueInvariant t)
    (h : submitRearchive digest mutationKey sourceArchiveId newId timestamp t = .ok (row, t')) :
    Writes t t' := by
  obtain ⟨previous, -, h⟩ := bind_ok.1 h
  split at h
  · cases pure_ok.1 h
    exact .refl
  · obtain ⟨⟨request, t₁⟩, hsubmit, hpure⟩ := bind_ok.1 h
    cases pure_ok.1 hpure
    have hwrites := submitFreshRearchive_writes hi hsubmit
    exact hwrites.trans (recordMutationInvocation_writes (hwrites.invariant hi))

theorem cancelledAs_keeps {request : ArchiveRequest}
    (h : request.status ∉ [ArchiveRequestStatus.cancelled, .fulfilled, .cancellationRequested]) :
    request.Keeps (request.cancelledAs timestamp) ∧
      ((request.cancelledAs timestamp).Active ↔ request.Active) := by
  by_cases hrunning : request.status = .running
  · refine ⟨⟨rfl, rfl, ?_⟩, fun _ => .inl hrunning, fun _ => .inr ?_⟩
    · rintro (hfulfilled | hcancelled)
      · cases hrunning.symm.trans hfulfilled
      · cases hrunning.symm.trans hcancelled
    · exact if_pos hrunning
  · have hidle : request.status ∈ [ArchiveRequestStatus.pending, .needsAttention] := by
      cases hstatus : request.status with
      | running => exact absurd hstatus hrunning
      | pending => decide
      | needsAttention => decide
      | cancellationRequested => exact absurd (by rw [hstatus]; decide) h
      | fulfilled => exact absurd (by rw [hstatus]; decide) h
      | cancelled => exact absurd (by rw [hstatus]; decide) h
    have hcancelled : (request.cancelledAs timestamp).status = .cancelled := if_neg hrunning
    refine ArchiveRequest.Keeps.idle hidle rfl rfl (not_active_of_status ?_)
    rw [hcancelled]
    decide

theorem cancelArchiveRequest_writes {id : String} (hi : QueueInvariant t)
    (h : cancelArchiveRequest id timestamp t = .ok (row, t')) : Writes t t' := by
  obtain ⟨current, -, h⟩ := bind_ok.1 h
  split at h
  · cases pure_ok.1 h
    exact .refl
  · next hstatus =>
    obtain ⟨⟨found, t₁⟩, hupdate, hrest⟩ := bind_ok.1 h
    obtain ⟨_, -, hpure⟩ := bind_ok.1 hrest
    cases pure_ok.1 hpure
    exact hi.updateRequest hupdate fun other _ hp => cancelledAs_keeps (by rwa [hp.2])

theorem retry_writes {id : String} (hi : QueueInvariant t)
    (h : retry seen id timestamp t = .ok (row, t')) : Writes t t' := by
  obtain ⟨current, -, h⟩ := bind_ok.1 h
  obtain ⟨_, -, h⟩ := bind_ok.1 h
  obtain ⟨⟨found, t₁⟩, hupdate, hrest⟩ := bind_ok.1 h
  have ht : t' = t₁ := by
    cases found with
    | none => cases hrest
    | some retried =>
      cases pure_ok.1 hrest
      rfl
  rw [ht]
  exact hi.updateRequest hupdate fun other _ hp => reopened_keeps hp.2

theorem replayRecoveryMutation_writes (hi : QueueInvariant t)
    (hmutate : ∀ {row t'}, mutate t = .ok (row, t') → Writes t t')
    (h : replayRecoveryMutation mutationKey decode record mutate t = .ok (outcome, t')) :
    Writes t t' := by
  obtain ⟨previous, -, h⟩ := bind_ok.1 h
  split at h
  · cases pure_ok.1 h
    exact .refl
  · obtain ⟨⟨request, t₁⟩, hmutated, hpure⟩ := bind_ok.1 h
    cases pure_ok.1 hpure
    have hwrites := hmutate hmutated
    exact hwrites.trans (recordMutationInvocation_writes (hwrites.invariant hi))

theorem cancelWithReplay_writes {id : String} (hi : QueueInvariant t)
    (h : cancelWithReplay mutationKey id timestamp t = .ok (outcome, t')) : Writes t t' := by
  apply replayRecoveryMutation_writes hi _ h
  intro row t₁ hmutated
  split at hmutated
  · obtain ⟨_, -, hmutated⟩ := bind_ok.1 hmutated
    exact cancelArchiveRequest_writes hi hmutated
  · exact cancelArchiveRequest_writes hi hmutated

theorem retryWithReplay_writes {id : String} (hi : QueueInvariant t)
    (h : retryWithReplay mutationKey id timestamp t = .ok (outcome, t')) : Writes t t' :=
  replayRecoveryMutation_writes hi (fun hretried => retry_writes hi hretried) h

theorem fulfilRequests_writes (hi : QueueInvariant t)
    (h : fulfilRequests fingerprint rearchives timestamp t = .ok t') : Writes t t' := by
  obtain ⟨⟨found, t₁⟩, hupdate, hpure⟩ := bind_ok.1 h
  cases pure_ok.1 hpure
  apply hi.updateRequest hupdate
  intro request _ hp
  exact ArchiveRequest.Keeps.idle hp.1 rfl rfl (not_active_of_status
    (show ArchiveRequestStatus.fulfilled ∈ _ by decide))

theorem findDisc_some {id : String} (h : t.findDisc id = some disc) :
    disc ∈ t.discs ∧ disc.id = id := by
  have hid := List.find?_some h
  rw [decide_eq_true_eq] at hid
  exact ⟨List.mem_of_find?_eq_some h, hid⟩

/-- No running job shares the source of a job on a disc that nothing conflicts with. -/
theorem not_sharesSource (hi : QueueInvariant t) (hdisc : disc ∈ t.discs)
    (hfree : t.conflicting disc = false) (hjob : job.detectedDiscId = disc.id)
    (hother : other ∈ t.jobs) (hrunning : other.Running) : ¬SharesSource t.discs job other := by
  rintro ⟨own, hown, found, hfound, hid, hfid, hsame⟩
  cases List.inj_on_of_nodup_map hi.discIds hown hdisc (hid.trans hjob)
  have hconflict : t.conflicting disc = true := by
    apply List.any_eq_true.2
    refine ⟨other, hother, ?_⟩
    rw [Bool.and_eq_true, decide_eq_true_eq, List.any_eq_true]
    refine ⟨hrunning, found, hfound, ?_⟩
    rw [Bool.and_eq_true, Bool.or_eq_true, decide_eq_true_eq, decide_eq_true_eq, decide_eq_true_eq]
    exact ⟨hfid, hsame.imp Eq.symm Eq.symm⟩
  cases hfree.symm.trans hconflict

theorem startRequest_writes (hi : QueueInvariant t) (hdisc : disc ∈ t.discs)
    (h : startRequest inspectionId workerId newId claimToken disc request timestamp t =
      .ok (started, t')) : Writes t t' := by
  unfold startRequest at h
  split at h
  · cases h
    exact .refl
  · next hfree =>
    obtain ⟨⟨found, t₁⟩, hupdate, h⟩ := bind_ok.1 h
    obtain ⟨-, rfl, rfl⟩ | ⟨row, hrow, hp, hrows, rfl, rfl⟩ := updateRequest_ok hupdate
    · cases h
      exact .refl
    · obtain ⟨t₂, hcommit, hpure⟩ := bind_ok.1 h
      cases pure_ok.1 hpure
      obtain ⟨hjobs, rfl⟩ := commitJobs_ok.1 hcommit
      refine .single ⟨.started request _ ?_ rfl ⟨rfl, rfl⟩ rfl ?_ rfl, hrows, ?_⟩
      · apply Rows.forall₂_update
        · intro old _ hold
          rw [if_pos hold.1]
          refine ⟨⟨rfl, rfl, ?_⟩, .inl rfl⟩
          rintro (hfulfilled | hcancelled)
          · cases hold.2.symm.trans hfulfilled
          · cases hold.2.symm.trans hcancelled
        · intro old hold hnot
          rw [if_neg]
          intro hid
          cases hi.same_request hold hrow (hid.trans hp.1.symm)
          exact hnot hp
      · intro other hother hrunning
        exact not_sharesSource hi hdisc (Bool.not_eq_true _ ▸ hfree) rfl hother hrunning
      · exact hjobs.known (fun _ hid => hid) fun _ hid => hid

theorem startPending_writes (hi : QueueInvariant t) (hdisc : disc ∈ t.discs)
    (h : startPending digest inspectionId workerId newId claimToken disc request timestamp t =
      .ok (started, t')) : Writes t t' := by
  unfold startPending at h
  split at h
  · cases h
    exact .refl
  · split at h
    · exact startRequest_writes hi hdisc h
    · obtain ⟨archived, -, h⟩ := bind_ok.1 h
      split at h
      · obtain ⟨⟨found, t₁⟩, hupdate, hpure⟩ := bind_ok.1 h
        cases pure_ok.1 hpure
        apply hi.updateRequest hupdate
        intro other _ hp
        refine ArchiveRequest.Keeps.idle ?_ rfl rfl (not_active_of_status
          (show ArchiveRequestStatus.fulfilled ∈ _ by decide))
        rw [hp.2]
        decide
      · exact startRequest_writes hi hdisc h

theorem startInspected_writes (hi : QueueInvariant t)
    (h : startInspected digest inspectionId workerId newId claimToken timestamp t =
      .ok (started, t')) : Writes t t' := by
  unfold startInspected at h
  split at h
  · cases h
    exact .refl
  · next inspection discId _ =>
    obtain ⟨disc, hdisc, h⟩ := bind_ok.1 h
    obtain ⟨matching, -, h⟩ := bind_ok.1 h
    obtain ⟨_, -, h⟩ := bind_ok.1 h
    rw [requireRow_ok, Option.filter_eq_some_iff] at hdisc
    split at h
    · cases pure_ok.1 h
      exact .refl
    · exact startPending_writes hi (findDisc_some hdisc.1).1 h

theorem startForInspection_writes (hi : QueueInvariant t)
    (h : startForInspection digest seen inspectionId workerId newId claimToken timestamp memory t =
      .ok (started, memory', t')) : Writes t t' := by
  obtain ⟨worker, -, h⟩ := bind_ok.1 h
  obtain ⟨goes, -, h⟩ := bind_ok.1 h
  split at h
  · cases pure_ok.1 h
    exact .refl
  · obtain ⟨⟨found, t₁⟩, hstart, h⟩ := bind_ok.1 h
    have hwrites := startInspected_writes hi hstart
    cases found with
    | none =>
      cases pure_ok.1 h
      exact hwrites
    | some job =>
      cases pure_ok.1 h
      exact hwrites

/-- What the progress of a process says of a job leaves it the job it is. -/
theorem archiveTerminalProgressPatchForClaim_keeps (memory : ProcessMemory) (id token : String)
    (job : ArchiveJob) :
    (memory.archiveTerminalProgressPatchForClaim id token job).id = job.id ∧
    (memory.archiveTerminalProgressPatchForClaim id token job).archiveRequestId =
      job.archiveRequestId ∧
    (memory.archiveTerminalProgressPatchForClaim id token job).detectedDiscId =
      job.detectedDiscId ∧
    (memory.archiveTerminalProgressPatchForClaim id token job).attemptOrdinal =
      job.attemptOrdinal := by
  unfold ProcessMemory.archiveTerminalProgressPatchForClaim
  unfold ProcessMemory.archiveProgressPatchForClaim
  split
  · exact ⟨rfl, rfl, rfl, rfl⟩
  · split
    · exact ⟨rfl, rfl, rfl, rfl⟩
    · exact ⟨rfl, rfl, rfl, rfl⟩

/-- A running job that has ended. -/
theorem ArchiveJob.Keeps.ends {job new : ArchiveJob} (hrunning : job.Running)
    (hsame : new.id = job.id ∧ new.archiveRequestId = job.archiveRequestId ∧
      new.detectedDiscId = job.detectedDiscId ∧ new.attemptOrdinal = job.attemptOrdinal)
    (hstatus : new.status ≠ .running) : job.Keeps new ∧ ¬new.Running :=
  ⟨⟨hsame.1, hsame.2.1, hsame.2.2.1, hsame.2.2.2, fun hended => absurd hrunning hended⟩, hstatus⟩

theorem ended_keeps {job : ArchiveJob} (hrunning : job.Running) (hstatus : status ≠ .running) :
    job.Keeps (ArchiveJob.ended memory claim status message timestamp job) ∧
      ¬(ArchiveJob.ended memory claim status message timestamp job).Running :=
  ArchiveJob.Keeps.ends hrunning
    (archiveTerminalProgressPatchForClaim_keeps memory claim.id claim.claimToken job) hstatus

theorem failedAs_keeps {job : ArchiveJob} (hrunning : job.Running) :
    job.Keeps (ArchiveJob.failedAs memory claim message readFailure timestamp job) ∧
      ¬(ArchiveJob.failedAs memory claim message readFailure timestamp job).Running :=
  ArchiveJob.Keeps.ends hrunning
    (archiveTerminalProgressPatchForClaim_keeps memory claim.id claim.claimToken job)
    fun h => (by cases h)

theorem aborted_keeps {job : ArchiveJob} (hrunning : job.Running) :
    job.Keeps (ArchiveJob.aborted memory claim message timestamp job) ∧
      ¬(ArchiveJob.aborted memory claim message timestamp job).Running := by
  unfold ArchiveJob.aborted
  split
  · exact ArchiveJob.Keeps.ends hrunning ⟨rfl, rfl, rfl, rfl⟩ fun h => (by cases h)
  · exact ended_keeps hrunning fun h => (by cases h)

/-- An active request that comes to a state without a running job. -/
theorem ArchiveRequest.Keeps.rests {old new : ArchiveRequest} (hactive : old.Active)
    (hid : new.id = old.id) (hdisc : new.detectedDiscId = old.detectedDiscId)
    (hstatus : new.status ∈
      [ArchiveRequestStatus.pending, .needsAttention, .fulfilled, .cancelled]) :
    old.Keeps new ∧ ¬new.Active := by
  refine ⟨⟨hid, hdisc, fun hterminal => ?_⟩, not_active_of_status hstatus⟩
  obtain hrunning | hcancelling := hactive
  · obtain hfulfilled | hcancelled := hterminal
    · cases hrunning.symm.trans hfulfilled
    · cases hrunning.symm.trans hcancelled
  · obtain hfulfilled | hcancelled := hterminal
    · cases hcancelling.symm.trans hfulfilled
    · cases hcancelling.symm.trans hcancelled

/-- A condition that picks one job by its id picks only that one. -/
theorem picks_one {q : ArchiveJob → Prop} (hi : QueueInvariant t) (hmem : job ∈ t.jobs) (hq : q job)
    (hid : ∀ other ∈ t.jobs, q other → other.id = job.id) :
    ∀ other ∈ t.jobs, q other ↔ other.id = job.id := by
  intro other hother
  refine ⟨hid other hother, fun hsame => ?_⟩
  cases hi.same_job hother hmem hsame
  exact hq

/-- A held job ends, and then its request comes to rest. -/
theorem settled_writes {q : ArchiveJob → Prop} [DecidablePred q] {g : ArchiveJob → ArchiveJob}
    (hi : QueueInvariant t) (hmem : job ∈ t.jobs) (hrunning : job.Running) (hpicked : q job)
    (hjobs : JobRows (Rows.update q g t.jobs) t)
    (hq : ∀ other ∈ t.jobs, q other → other.id = job.id)
    (hg : job.Keeps (g job) ∧ ¬(g job).Running)
    (hsettle : settleRequest (g job).archiveRequestId statuses f
      { t with jobs := Rows.update q g t.jobs } = .ok t')
    (hf : ∀ request, request.Active → request.Keeps (f request) ∧ ¬(f request).Active) :
    Writes t t' := by
  rw [hg.1.archiveRequestId] at hsettle
  obtain ⟨request, hrequest, hp, hrows, rfl⟩ := settleRequest_ok hsettle
  refine hi.settle hmem hrunning hjobs (picks_one hi hmem hpicked hq) hg hrows ?_ hf
  intro other hother
  refine ⟨fun hpo => hpo.1, fun hid => ?_⟩
  cases hi.same_request hother hrequest (hid.trans hp.1.symm)
  exact hp

theorem endCancelled_rests (request : ArchiveRequest) (hactive : request.Active) :
    request.Keeps (request.endCancelled timestamp) ∧ ¬(request.endCancelled timestamp).Active :=
  ArchiveRequest.Keeps.rests hactive rfl rfl (show ArchiveRequestStatus.cancelled ∈ _ by decide)

theorem attended_rests (request : ArchiveRequest) (hactive : request.Active) :
    request.Keeps (request.attended timestamp) ∧ ¬(request.attended timestamp).Active :=
  ArchiveRequest.Keeps.rests hactive rfl rfl
    (show ArchiveRequestStatus.needsAttention ∈ _ by decide)

theorem renewClaim_writes (hi : QueueInvariant t)
    (h : renewClaim claim timestamp t = .ok (job, t')) : Writes t t' := by
  obtain ⟨_, -, h⟩ := bind_ok.1 h
  apply hi.updateHeld h
  intro other _ hq
  exact ⟨⟨rfl, rfl, rfl, rfl, fun hended => absurd hq.1.2.1 hended⟩, Iff.rfl⟩

theorem persistProgress_writes (hi : QueueInvariant t)
    (h : persistProgress claim reported timestamp memory t = .ok (job, memory', t')) :
    Writes t t' := by
  obtain ⟨⟨updated, t₁⟩, hupdate, hpure⟩ := bind_ok.1 h
  cases pure_ok.1 hpure
  apply hi.updateHeld hupdate
  intro other _ hq
  exact ⟨⟨rfl, rfl, rfl, rfl, fun hended => absurd hq.1.2.1 hended⟩, Iff.rfl⟩

theorem updateProgress_writes (hi : QueueInvariant t)
    (h : updateProgress claim progress timestamp memory t = .ok (job, memory', t')) :
    Writes t t' := by
  obtain ⟨_, -, h⟩ := bind_ok.1 h
  obtain ⟨_, -, h⟩ := bind_ok.1 h
  split at h
  · exact persistProgress_writes hi h
  · next previous _ =>
    by_cases hdue : shouldPersist claim
        (reportedProgress claim progress (memory.archiveProgress claim.id) timestamp) timestamp
        previous
    · rw [if_pos hdue] at h
      exact persistProgress_writes hi h
    · rw [if_neg hdue] at h
      cases pure_ok.1 h
      exact .refl

theorem settleFailed_writes (hi : QueueInvariant t)
    (h : settleFailed claim message readFailure timestamp memory t = .ok (job, t')) :
    Writes t t' := by
  obtain ⟨request, -, h⟩ := bind_ok.1 h
  split at h
  · obtain ⟨⟨updated, t₁⟩, hupdate, h⟩ := bind_ok.1 h
    obtain ⟨t₂, hsettle, hpure⟩ := bind_ok.1 h
    cases pure_ok.1 hpure
    obtain ⟨old, hold, hq, hjobs, rfl, rfl⟩ := updateHeld_ok hupdate
    exact settled_writes hi hold hq.1.2.1 hq hjobs
      (fun other _ hqo => hqo.1.1.trans hq.1.1.symm)
      (ended_keeps hq.1.2.1 fun h => (by cases h)) hsettle endCancelled_rests
  · obtain ⟨⟨updated, t₁⟩, hupdate, h⟩ := bind_ok.1 h
    obtain ⟨t₂, hsettle, hpure⟩ := bind_ok.1 h
    cases pure_ok.1 hpure
    obtain ⟨old, hold, hq, hjobs, rfl, rfl⟩ := updateHeld_ok hupdate
    exact settled_writes hi hold hq.1.2.1 hq hjobs
      (fun other _ hqo => hqo.1.1.trans hq.1.1.symm) (failedAs_keeps hq.1.2.1) hsettle
      attended_rests

theorem failArchiveJob_writes (hi : QueueInvariant t)
    (h : failArchiveJob claim message readFailure timestamp memory t = .ok (job, memory', t')) :
    Writes t t' := by
  obtain ⟨_, -, h⟩ := bind_ok.1 h
  obtain ⟨errorMessage, -, h⟩ := bind_ok.1 h
  obtain ⟨values, -, h⟩ := bind_ok.1 h
  obtain ⟨⟨settled, t₁⟩, hsettle, hpure⟩ := bind_ok.1 h
  cases pure_ok.1 hpure
  exact settleFailed_writes hi hsettle

theorem abort_writes (hi : QueueInvariant t)
    (h : abort claim message timestamp memory t = .ok (job, memory', t')) : Writes t t' := by
  obtain ⟨errorMessage, -, h⟩ := bind_ok.1 h
  obtain ⟨_, -, h⟩ := bind_ok.1 h
  obtain ⟨⟨updated, t₁⟩, hupdate, h⟩ := bind_ok.1 h
  obtain ⟨t₂, hsettle, hpure⟩ := bind_ok.1 h
  cases pure_ok.1 hpure
  obtain ⟨old, hold, hq, hjobs, rfl, rfl⟩ := updateHeld_ok hupdate
  refine settled_writes hi hold hq.1.2.1 hq hjobs (fun other _ hqo => hqo.1.1.trans hq.1.1.symm)
    (aborted_keeps hq.1.2.1) hsettle ?_
  intro request hactive
  split
  · exact endCancelled_rests request hactive
  · exact ArchiveRequest.Keeps.rests hactive rfl rfl
      (show ArchiveRequestStatus.cancelled ∈ _ by decide)

theorem finalizeExpiredCancellation_writes (hi : QueueInvariant t)
    (h : finalizeExpiredCancellation claim timestamp memory t = .ok (job, memory', t')) :
    Writes t t' := by
  obtain ⟨⟨updated, t₁⟩, hupdate, h⟩ := bind_ok.1 h
  obtain ⟨t₂, hsettle, hpure⟩ := bind_ok.1 h
  cases pure_ok.1 hpure
  obtain ⟨old, hold, hq, hjobs, rfl, rfl⟩ := updateHeld_ok hupdate
  exact settled_writes hi hold hq.1.2.1 hq hjobs (fun other _ hqo => hqo.1.1.trans hq.1.1.symm)
    (aborted_keeps hq.1.2.1) hsettle endCancelled_rests

/-- The request of a running job is there and active, so that completing the job fulfils it. -/
theorem complete_writes (hi : QueueInvariant t)
    (h : complete claim originalDiscArchiveId timestamp memory t = .ok (job, memory', t')) :
    Writes t t' := by
  obtain ⟨archive, -, h⟩ := bind_ok.1 h
  obtain ⟨_, -, h⟩ := bind_ok.1 h
  obtain ⟨⟨updated, t₁⟩, hupdate, h⟩ := bind_ok.1 h
  obtain ⟨⟨found, t₂⟩, hfulfil, hpure⟩ := bind_ok.1 h
  cases pure_ok.1 hpure
  obtain ⟨old, hold, hq, hjobs, rfl, rfl⟩ := updateHeld_ok hupdate
  have hsame := archiveTerminalProgressPatchForClaim_keeps memory claim.id claim.claimToken old
  obtain ⟨request, hrequest, hid⟩ := List.mem_map.1 (hi.jobRows.2.2.2.2 old hold).1
  obtain ⟨hnone, -, -⟩ | ⟨row, hrow, hp, hrows, -, rfl⟩ := updateRequest_ok hfulfil
  · exact absurd (hid.trans hsame.2.1.symm) (hnone request hrequest)
  · refine hi.settle hold hq.2.1 hjobs (picks_one hi hold hq fun other _ hqo =>
      hqo.1.trans hq.1.symm) ?_ hrows ?_ ?_
    · exact ArchiveJob.Keeps.ends hq.2.1 hsame fun h => (by cases h)
    · intro other _
      exact ⟨fun hof => hof.trans hsame.2.1, fun hof => hof.trans hsame.2.1.symm⟩
    · intro other hactive
      exact ArchiveRequest.Keeps.rests hactive rfl rfl
        (show ArchiveRequestStatus.fulfilled ∈ _ by decide)

/-- The table holds the job a candidate was read from. -/
def StillHeld (t : Tables) (candidate : ArchiveJob) : Prop :=
  ∃ job ∈ t.jobs, job.id = candidate.id ∧ job.archiveRequestId = candidate.archiveRequestId

theorem Continues.stillHeld (h : Continues t t') (hheld : StillHeld t candidate) :
    StillHeld t' candidate := by
  obtain ⟨job, hjob, hid, hof⟩ := hheld
  obtain ⟨later, hlater, hkeeps⟩ := h.jobs job hjob
  exact ⟨later, hlater, hkeeps.id.trans hid, hkeeps.archiveRequestId.trans hof⟩

theorem recoverExpired_writes (hi : QueueInvariant t) (hheld : StillHeld t candidate)
    (h : recoverExpired memory timestamp candidate t = .ok (failed, t')) : Writes t t' := by
  obtain ⟨⟨found, t₁⟩, hupdate, hrest⟩ := bind_ok.1 h
  obtain ⟨rfl, rfl⟩ | ⟨old, hold, hq, hjobs, rfl, rfl⟩ := updateJob_ok hupdate
  · cases pure_ok.1 hrest
    exact .refl
  · obtain ⟨t₂, hsettle, hpure⟩ := bind_ok.1 hrest
    cases pure_ok.1 hpure
    obtain ⟨job, hjob, hid, hof⟩ := hheld
    cases hi.same_job hold hjob (hq.1.trans hid.symm)
    have hnew : (ArchiveJob.failedAs memory candidate "Archive worker lease expired" none timestamp
        old).archiveRequestId = candidate.archiveRequestId :=
      (failedAs_keeps hq.2.1).1.archiveRequestId.trans hof
    rw [← hnew] at hsettle
    exact settled_writes hi hold hq.2.1 hq hjobs (fun other _ hqo => hqo.1.trans hq.1.symm)
      (failedAs_keeps hq.2.1) hsettle attended_rests

theorem recoverAll_writes {candidates : List ArchiveJob} (hi : QueueInvariant t)
    (hheld : ∀ candidate ∈ candidates, StillHeld t candidate)
    (h : recoverAll memory timestamp candidates t = .ok (recovered, t')) : Writes t t' := by
  induction candidates generalizing t recovered with
  | nil =>
    cases h
    exact .refl
  | cons candidate rest ih =>
    obtain ⟨⟨failed, t₁⟩, hfirst, hrest⟩ := bind_ok.1 h
    obtain ⟨⟨others, t₂⟩, hothers, hpure⟩ := bind_ok.1 hrest
    cases pure_ok.1 hpure
    have hwrites := recoverExpired_writes hi (hheld candidate List.mem_cons_self) hfirst
    apply hwrites.trans
    apply ih (hwrites.invariant hi) _ hothers
    intro other hother
    exact hwrites.continues.stillHeld (hheld other (List.mem_cons_of_mem _ hother))

theorem recoverExpiredClaims_writes (hi : QueueInvariant t)
    (h : recoverExpiredClaims timestamp memory t = .ok (jobs, memory', t')) : Writes t t' := by
  obtain ⟨⟨recovered, t₁⟩, hrecover, hpure⟩ := bind_ok.1 h
  cases pure_ok.1 hpure
  apply recoverAll_writes hi _ hrecover
  intro candidate hcandidate
  have hexpired := (List.mem_filter.1 (List.mem_of_mem_take hcandidate)).1
  rw [Tables.expiredJobs, (perm_sortBy _ _).mem_iff] at hexpired
  exact ⟨candidate, (List.mem_filter.1 hexpired).1, rfl, rfl⟩

end RipDvd.ArchiveQueue
