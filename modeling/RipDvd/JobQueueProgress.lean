import RipDvd.JobQueueRuns

namespace RipDvd
set_option autoImplicit true

open JobQueue

/-- What a report of the active attempt comes to. -/
inductive Reported (token : String) (percent : Int) (details : Option EncodeProgressDetails)
    (time : Nat) (view : JobView) : CallResult EncodeJob → Prop
  | refusedFirst (hfirst : ∀ state ∈ view.progress, state.token ≠ token) :
      Reported token percent details time view (.error e, view)
  | first (happlied : Applied token (progressUpdate percent time) details view.job updated) :
      Reported token percent details time view (.ok updated,
        ⟨updated, some ⟨token, percent, percent, time, details, details⟩⟩)
  | refusedLater (hstate : view.progress = some state) (htoken : state.token = token) :
      Reported token percent details time view (.error e,
        { view with progress := some { state with latest := percent, latestDetails := details } })
  | written (hstate : view.progress = some state) (htoken : state.token = token)
      (happlied : Applied token (progressUpdate percent time) details view.job updated) :
      Reported token percent details time view (.ok updated, ⟨updated, some { state with
        latest := percent
        latestDetails := details
        lastPersisted := percent
        lastPersistedAt := time
        lastPersistedDetails := details }⟩)
  | coalesced (hstate : view.progress = some state) (htoken : state.token = token)
      (hdue : ¬writeIsDue state percent details time) :
      Reported token percent details time view (.ok view.job,
        { view with progress := some { state with latest := percent, latestDetails := details } })

section Reports

variable {view : JobView} {token : String} {percent : Int} {details : Option EncodeProgressDetails}
  {result : CallResult EncodeJob} {reports : List JobReport}

theorem firstReport_reported (hfirst : ∀ state ∈ view.progress, state.token ≠ token) :
    Reported token percent details time view
      (firstReport token percent details time available view) := by
  unfold firstReport
  cases h : requireAttemptUpdate token (progressUpdate percent time) details available view.job with
  | error e => exact .refusedFirst hfirst
  | ok updated => exact .first (requireAttemptUpdate_ok h)

theorem laterReport_reported (hstate : view.progress = some state) (htoken : state.token = token) :
    Reported token percent details time view
      (laterReport state token percent details time available view) := by
  unfold laterReport
  dsimp only
  by_cases hdue : writeIsDue state percent details time
  · rw [if_pos hdue]
    cases h : requireAttemptUpdate token (progressUpdate percent time) details available
        view.job with
    | error e => exact .refusedLater hstate htoken
    | ok updated => exact .written hstate htoken (requireAttemptUpdate_ok h)
  · rw [if_neg hdue]
    exact .coalesced hstate htoken hdue

theorem updateProgress_reported (details : Option EncodeProgressDetails) (time : Nat)
    (available : Bool) (hvalid : 0 ≤ percent ∧ percent ≤ 100)
    (hactive : isActiveAttempt token checkedAt view.job) :
    Reported token percent details time view
      (updateProgress token percent details checkedAt time available view) := by
  have hrequested := requireProgress_ok.2 ⟨hvalid, rfl⟩
  have hcurrent := requireActiveAttempt_ok.2 ⟨hactive, rfl⟩
  unfold updateProgress
  rw [hrequested]
  dsimp only
  rw [hcurrent]
  dsimp only
  cases hstate : view.progress with
  | none =>
    apply firstReport_reported
    intro state hmem
    rw [hstate] at hmem
    cases hmem
  | some state =>
    dsimp only
    by_cases htoken : state.token = token
    · rw [if_neg (not_not.2 htoken)]
      exact laterReport_reported hstate htoken
    · rw [if_pos htoken]
      apply firstReport_reported
      intro other hmem
      rw [hstate] at hmem
      obtain rfl := Option.some.inj hmem
      exact htoken

/-- A report that is not valid, or not of the active attempt, throws and changes nothing. -/
theorem updateProgress_rejected (details : Option EncodeProgressDetails) (time : Nat)
    (available : Bool)
    (h : ¬((0 ≤ percent ∧ percent ≤ 100) ∧ isActiveAttempt token checkedAt view.job)) :
    ∃ e, updateProgress token percent details checkedAt time available view = (.error e, view) := by
  unfold updateProgress
  cases hrequested : requireProgress percent with
  | error e => exact ⟨e, rfl⟩
  | ok requested =>
    dsimp only
    cases hcurrent : requireActiveAttempt token checkedAt view.job with
    | error e => exact ⟨e, rfl⟩
    | ok current =>
      have hvalid := (requireProgress_ok.1 hrequested).1
      have hactive := (requireActiveAttempt_ok.1 hcurrent).1
      exact absurd ⟨hvalid, hactive⟩ h

theorem Reported.same_attempt (h : Reported token percent details time view result) :
    result.2.job.status = view.job.status ∧ result.2.job.claimToken = view.job.claimToken := by
  cases h with
  | refusedFirst => exact ⟨rfl, rfl⟩
  | first happlied => exact ⟨happlied.status, happlied.claimToken⟩
  | refusedLater => exact ⟨rfl, rfl⟩
  | written _ _ happlied => exact ⟨happlied.status, happlied.claimToken⟩
  | coalesced => exact ⟨rfl, rfl⟩

theorem Reported.percent_own (h : Reported token percent details time view result) :
    result.2.job.progressPercent = view.job.progressPercent ∨
      result.2.job.progressPercent = percent := by
  cases h with
  | refusedFirst => exact .inl rfl
  | first happlied => exact .inr happlied.percent
  | refusedLater => exact .inl rfl
  | written _ _ happlied => exact .inr happlied.percent
  | coalesced => exact .inl rfl

theorem lastReturned_returned (hreturned : report.returned = true) :
    lastReturned (reports ++ [report]) = some report := by
  rw [lastReturned, List.filter_append, List.filter_cons_of_pos hreturned, List.filter_nil,
    List.getLast?_concat]

theorem lastReturned_refused (hrefused : report.returned = false) :
    lastReturned (reports ++ [report]) = lastReturned reports := by
  have hnot : ¬report.returned = true := Bool.not_eq_true _ ▸ hrefused
  rw [lastReturned, List.filter_append, List.filter_cons_of_neg hnot, List.filter_nil,
    List.append_nil, lastReturned]

/-- What a write of a report leaves is what the memory has of it. -/
theorem Applied.remembered (h : Applied token (progressUpdate percent time) details job updated) :
    Remembered updated (reports ++ [⟨controller, token, percent, details, time, true⟩])
      ⟨token, percent, percent, time, details, details⟩ where
  persisted := h.percent.symm
  persistedAt := h.updatedAt.symm
  persistedPhase d hd := by
    obtain rfl : details = some d := hd
    exact h.phase
  latest := ⟨_, List.getLast?_concat, rfl, rfl⟩
  returned := by
    refine ⟨_, lastReturned_returned rfl, ?_, .inl rfl, rfl⟩
    show (percent - percent).natAbs < PROGRESS_WRITE_DELTA
    rw [Int.sub_self]
    decide

/-- A report keeps the memory of the controller that has made all the reports of the attempt. -/
theorem Reported.remembers (h : Reported token percent details time view result)
    (hview : Remembers view.job reports token view.progress) :
    Remembers result.2.job (reports ++ [⟨controller, token, percent, details, time,
      result.1.isOk⟩]) token result.2.progress := by
  cases h with
  | refusedFirst hfirst =>
    cases hprogress : view.progress with
    | some state =>
      rw [hprogress] at hview
      exact absurd hview.1 (hfirst state hprogress)
    | none =>
      rw [hprogress] at hview
      intro report hreport
      obtain hreport | hreport := List.mem_append.1 hreport
      · exact hview report hreport
      · rw [List.mem_singleton.1 hreport]
        rfl
  | first happlied => exact ⟨rfl, happlied.remembered⟩
  | @refusedLater state e hstate htoken =>
    rw [hstate] at hview
    obtain ⟨-, hremembered⟩ := hview
    refine ⟨htoken, ⟨hremembered.persisted, hremembered.persistedAt, hremembered.persistedPhase,
      ⟨_, List.getLast?_concat, rfl, rfl⟩, ?_⟩⟩
    rw [lastReturned_refused rfl]
    exact hremembered.returned
  | @written state updated hstate htoken happlied =>
    subst htoken
    exact ⟨rfl, happlied.remembered⟩
  | @coalesced state hstate htoken hdue =>
    rw [hstate] at hview
    obtain ⟨-, hremembered⟩ := hview
    refine ⟨htoken, ⟨hremembered.persisted, hremembered.persistedAt, hremembered.persistedPhase,
      ⟨_, List.getLast?_concat, rfl, rfl⟩, _, lastReturned_returned rfl, ?_, ?_, ?_⟩⟩
    · exact Nat.lt_of_not_le fun hle => hdue (.inl hle)
    · exact .inr (Nat.lt_of_not_le fun hle => hdue (.inr (.inl hle)))
    · by_contra hchanged
      exact hdue (.inr (.inr (decide_eq_true hchanged)))

end Reports

section Steps

variable {w w' : JobWorld} {view : JobView} {token : String}

theorem claimNext_cases (workerId token : String) (timestamp : Nat) (eligible : Bool)
    (view : JobView) :
    (∃ e, claimNext workerId token timestamp eligible view = (.error e, view)) ∨
      claimNext workerId token timestamp eligible view = (.ok none, view) ∨
      ∃ job, claimNext workerId token timestamp eligible view = (.ok (some job), ⟨job, none⟩) ∧
        view.job.status = .queued ∧ job.claimToken = some token ∧
        job.progressPercent = view.job.progressPercent ∧ job.status = .running := by
  unfold claimNext
  cases requireNonEmpty (trim workerId) "workerId" with
  | error e => exact .inl ⟨e, rfl⟩
  | ok workerId =>
    dsimp only
    rw [encodeJobAdapter.claim]
    by_cases hqueued : view.job.status = .queued ∧ eligible
    · rw [if_pos hqueued]
      exact .inr (.inr ⟨_, rfl, hqueued.1, rfl, rfl, rfl⟩)
    · rw [if_neg hqueued]
      exact .inr (.inl rfl)

theorem complete_cases (token : String) (checkedAt writtenAt : Nat) (available : Bool)
    (view : JobView) :
    (∃ e, complete token checkedAt writtenAt available view = (.error e, view)) ∨
      ∃ job, complete token checkedAt writtenAt available view = (.ok job, ⟨job, none⟩) ∧
        job.status = .completed ∧ job.claimToken = view.job.claimToken := by
  unfold complete
  cases requireActiveAttempt token checkedAt view.job with
  | error e => exact .inl ⟨e, rfl⟩
  | ok current =>
    dsimp only
    cases hwrite : requireAttemptUpdate token (completedUpdate writtenAt) none available
        view.job with
    | error e => exact .inl ⟨e, rfl⟩
    | ok job =>
      have happlied := requireAttemptUpdate_ok hwrite
      exact .inr ⟨job, rfl, happlied.status, happlied.claimToken⟩

theorem fail_cases (token errorMessage : String) (checkedAt writtenAt : Nat) (available : Bool)
    (view : JobView) :
    (∃ e, fail token errorMessage checkedAt writtenAt available view = (.error e, view)) ∨
      ∃ job message, fail token errorMessage checkedAt writtenAt available view =
          (.ok job, ⟨job, none⟩) ∧
        Applied token (failedUpdate view message writtenAt)
          (view.progress.bind (·.latestDetails)) view.job job := by
  unfold fail
  cases requireActiveAttempt token checkedAt view.job with
  | error e => exact .inl ⟨e, rfl⟩
  | ok current =>
    dsimp only
    cases requireNonEmpty (trim errorMessage) "errorMessage" with
    | error e => exact .inl ⟨e, rfl⟩
    | ok message =>
      dsimp only
      cases hwrite : requireAttemptUpdate token (failedUpdate view message writtenAt)
          (view.progress.bind (·.latestDetails)) available view.job with
      | error e => exact .inl ⟨e, rfl⟩
      | ok job => exact .inr ⟨job, message, rfl, requireAttemptUpdate_ok hwrite⟩

theorem requeue_cases (timestamp : Nat) (outcome : RequeueOutcome) (view : JobView) :
    (∃ e, JobQueue.requeue timestamp outcome view = (.error e, view)) ∨
      view.job.status ∈ requeueFrom ∧ ∃ returned job,
        JobQueue.requeue timestamp outcome view = (returned, ⟨job, none⟩) ∧
          (job = view.job ∨ job = encodeJobAdapter.requeue timestamp view.job) := by
  unfold JobQueue.requeue
  dsimp only
  by_cases hfrom : view.job.status ∉ requeueFrom
  · rw [if_pos hfrom]
    exact .inl ⟨_, rfl⟩
  · rw [if_neg hfrom]
    have hmem := not_not.1 hfrom
    cases outcome with
    | rejected e => exact .inl ⟨e, rfl⟩
    | refused => exact .inl ⟨_, rfl⟩
    | replayed response => exact .inr ⟨hmem, _, _, rfl, .inl rfl⟩
    | requeued => exact .inr ⟨hmem, _, _, rfl, .inr rfl⟩

theorem JobWorld.Kept.unchanged (h : w.Kept) (hjob : w'.job = w.job)
    (hprogress : w'.progress = w.progress) (hclaims : w'.claims = w.claims)
    (hreports : w'.reports = w.reports) (htokens : w.tokens ⊆ w'.tokens) : w'.Kept := by
  have hreportsOf : ∀ token, w'.reportsOf token = w.reportsOf token := by
    intro token
    rw [JobWorld.reportsOf, hreports, JobWorld.reportsOf]
  constructor
  case current =>
    intro token htoken
    exact htokens (h.current token (hjob ▸ htoken))
  case claims =>
    intro claim hclaim
    exact htokens (h.claims claim (hclaims ▸ hclaim))
  case reports =>
    intro report hreport
    exact htokens (h.reports report (hreports ▸ hreport))
  case waiting =>
    rw [hjob]
    exact h.waiting
  case own =>
    intro token hstatus htoken
    rw [hjob] at hstatus htoken ⊢
    rw [hreportsOf]
    exact h.own token hstatus htoken
  case remembers =>
    intro token i hstatus htoken hsole
    rw [hjob] at hstatus htoken ⊢
    rw [hreportsOf, hprogress]
    apply h.remembers token i hstatus htoken
    exact ⟨hclaims ▸ hsole.claimed, hreportsOf token ▸ hsole.reported⟩

/-- What stops the running of a job keeps what holds of it. -/
theorem JobWorld.Kept.stopped (h : w.Kept) (hstatus : w'.job.status ≠ .running)
    (hwaiting : w'.job.status = .queued →
      w'.job.progressPercent = 0 ∧ w'.job.progressPhase = none)
    (hcurrent : ∀ token, w'.job.claimToken = some token → w.job.claimToken = some token)
    (hclaims : w'.claims = w.claims) (hreports : w'.reports = w.reports)
    (htokens : w.tokens ⊆ w'.tokens) : w'.Kept where
  current token htoken := htokens (h.current token (hcurrent token htoken))
  claims claim hclaim := htokens (h.claims claim (hclaims ▸ hclaim))
  reports report hreport := htokens (h.reports report (hreports ▸ hreport))
  waiting := hwaiting
  own _ hrunning := absurd hrunning hstatus
  remembers _ _ hrunning := absurd hrunning hstatus

theorem JobWorld.queued_kept (id : String) (clock : Nat) : (JobWorld.queued id clock).Kept where
  current _ htoken := nomatch htoken
  claims := List.forall_mem_nil _
  reports := List.forall_mem_nil _
  waiting _ := ⟨rfl, rfl⟩
  own _ hrunning := nomatch hrunning
  remembers _ _ hrunning := nomatch hrunning

theorem JobWorld.reportsOf_append (h : w'.reports = w.reports ++ [report]) (token : String) :
    w'.reportsOf token =
      if report.token = token then w.reportsOf token ++ [report] else w.reportsOf token := by
  rw [JobWorld.reportsOf, h, List.filter_append, JobWorld.reportsOf]
  by_cases htoken : report.token = token
  · have hown : [report].filter (·.token = token) = [report] :=
      List.filter_cons_of_pos (decide_eq_true htoken)
    rw [if_pos htoken, hown]
  · have hother : [report].filter (·.token = token) = [] :=
      List.filter_cons_of_neg (mt of_decide_eq_true htoken)
    rw [if_neg htoken, hother, List.append_nil]

theorem JobWorld.Kept.no_reports (h : w.Kept) (hfresh : token ∉ w.tokens) :
    w.reportsOf token = [] := by
  apply List.filter_eq_nil_iff.2
  intro report hreport htoken
  apply hfresh
  rw [← of_decide_eq_true htoken]
  exact h.reports report hreport

/-- A job that was waiting starts an attempt of its own, with no reports yet. -/
theorem JobWorld.Kept.claimed (h : w.Kept) (hqueued : w.job.status = .queued)
    (hfresh : token ∉ w.tokens) (htoken : w'.job.claimToken = some token)
    (hstatus : w'.job.status = .running)
    (hpercent : w'.job.progressPercent = w.job.progressPercent)
    (hclaims : w'.claims = w.claims ++ [(token, i)]) (hreports : w'.reports = w.reports)
    (hprogress : w'.progress i = none) (htokens : w'.tokens = token :: w.tokens) : w'.Kept := by
  have hreportsOf : w'.reportsOf token = [] := by
    rw [JobWorld.reportsOf, hreports]
    exact h.no_reports hfresh
  constructor
  case current =>
    intro t ht
    rw [htoken] at ht
    obtain rfl := Option.some.inj ht
    rw [htokens]
    exact List.mem_cons_self
  case claims =>
    intro claim hclaim
    rw [hclaims] at hclaim
    rw [htokens]
    obtain hclaim | hclaim := List.mem_append.1 hclaim
    · exact List.mem_cons_of_mem _ (h.claims claim hclaim)
    · rw [List.mem_singleton.1 hclaim]
      exact List.mem_cons_self
  case reports =>
    intro report hreport
    rw [htokens]
    exact List.mem_cons_of_mem _ (h.reports report (hreports ▸ hreport))
  case waiting =>
    intro hwaiting
    rw [hstatus] at hwaiting
    cases hwaiting
  case own =>
    intro t _ _
    exact .inl (hpercent.trans (h.waiting hqueued).1)
  case remembers =>
    intro t j _ ht hsole
    rw [htoken] at ht
    obtain rfl := Option.some.inj ht
    have hclaim := hsole.claimed
    rw [hclaims] at hclaim
    obtain hclaim | hclaim := List.mem_append.1 hclaim
    · exact absurd (h.claims _ hclaim) hfresh
    · obtain ⟨-, rfl⟩ := Prod.mk.inj (List.mem_singleton.1 hclaim)
      rw [hprogress, hreportsOf]
      exact List.forall_mem_nil _

/-- A call that changes nothing keeps what holds. -/
theorem JobWorld.Kept.same (h : w.Kept) {call : JobCall}
    (hview : (w.answer i call checkedAt writtenAt).2 = w.view i)
    (hclaims : (w.perform i call checkedAt writtenAt).claims = w.claims)
    (hreports : (w.perform i call checkedAt writtenAt).reports = w.reports) :
    (w.perform i call checkedAt writtenAt).Kept := by
  obtain ⟨hjob, hprogress⟩ := perform_same hview
  apply h.unchanged hjob hprogress hclaims hreports
  rw [perform_tokens]
  exact List.subset_append_right _ _

theorem claimNext_kept (h : w.Kept) (hfresh : token ∉ w.tokens) (i : Nat) (workerId : String)
    (eligible : Bool) (checkedAt writtenAt : Nat) :
    (w.perform i (.claimNext workerId token eligible) checkedAt writtenAt).Kept := by
  have hanswer : w.answer i (.claimNext workerId token eligible) checkedAt writtenAt =
      claimNext workerId token writtenAt eligible (w.view i) := rfl
  have hreports : (w.perform i (.claimNext workerId token eligible) checkedAt writtenAt).reports =
      w.reports := by
    rw [perform_reports]
    rfl
  obtain ⟨e, he⟩ | hnone | ⟨job, hjob, hqueued, htoken, hpercent, hstatus⟩ :=
    claimNext_cases workerId token writtenAt eligible (w.view i)
  · rw [he] at hanswer
    apply h.same _ _ hreports
    · rw [hanswer]
    · rw [perform_claims, hanswer]
      rfl
  · rw [hnone] at hanswer
    apply h.same _ _ hreports
    · rw [hanswer]
    · rw [perform_claims, hanswer]
      rfl
  · rw [hjob] at hanswer
    apply h.claimed hqueued hfresh _ _ _ _ hreports
    · rw [perform_progress, hanswer, Function.update_self]
    · rw [perform_tokens]
      rfl
    · rw [perform_job, hanswer]
      exact htoken
    · rw [perform_job, hanswer]
      exact hstatus
    · rw [perform_job, hanswer]
      exact hpercent
    · rw [perform_claims, hanswer]
      rfl

theorem JobWorld.Kept.perform_stopped (h : w.Kept) {call : JobCall} {job : EncodeJob}
    (hanswer : w.answer i call checkedAt writtenAt = (returned, ⟨job, none⟩))
    (hstatus : job.status ≠ .running)
    (hwaiting : job.status = .queued → job.progressPercent = 0 ∧ job.progressPhase = none)
    (hcurrent : ∀ token, job.claimToken = some token → w.job.claimToken = some token)
    (hclaims : (w.perform i call checkedAt writtenAt).claims = w.claims)
    (hreports : (w.perform i call checkedAt writtenAt).reports = w.reports) :
    (w.perform i call checkedAt writtenAt).Kept := by
  have hjob : (w.perform i call checkedAt writtenAt).job = job := by
    rw [perform_job, hanswer]
  apply h.stopped _ _ _ hclaims hreports
  · rw [perform_tokens]
    exact List.subset_append_right _ _
  · rw [hjob]
    exact hstatus
  · rw [hjob]
    exact hwaiting
  · rw [hjob]
    exact hcurrent

theorem complete_kept (h : w.Kept) (i : Nat) (token : String) (available : Bool)
    (checkedAt writtenAt : Nat) :
    (w.perform i (.complete token available) checkedAt writtenAt).Kept := by
  have hanswer : w.answer i (.complete token available) checkedAt writtenAt =
      JobWorld.withJob (complete token checkedAt writtenAt available (w.view i)) := rfl
  have hclaims : (w.perform i (.complete token available) checkedAt writtenAt).claims =
      w.claims := by
    rw [perform_claims]
    rfl
  have hreports : (w.perform i (.complete token available) checkedAt writtenAt).reports =
      w.reports := by
    rw [perform_reports]
    rfl
  obtain ⟨e, he⟩ | ⟨job, hjob, hstatus, htoken⟩ :=
    complete_cases token checkedAt writtenAt available (w.view i)
  · rw [he] at hanswer
    apply h.same _ hclaims hreports
    rw [hanswer]
    rfl
  · rw [hjob] at hanswer
    apply h.perform_stopped hanswer _ _ _ hclaims hreports
    · rw [hstatus]
      exact EncodeJobStatus.noConfusion
    · rw [hstatus]
      exact EncodeJobStatus.noConfusion
    · intro t ht
      rw [htoken] at ht
      exact ht

theorem fail_kept (h : w.Kept) (i : Nat) (token errorMessage : String) (available : Bool)
    (checkedAt writtenAt : Nat) :
    (w.perform i (.fail token errorMessage available) checkedAt writtenAt).Kept := by
  have hanswer : w.answer i (.fail token errorMessage available) checkedAt writtenAt =
      JobWorld.withJob (fail token errorMessage checkedAt writtenAt available (w.view i)) := rfl
  have hclaims : (w.perform i (.fail token errorMessage available) checkedAt writtenAt).claims =
      w.claims := by
    rw [perform_claims]
    rfl
  have hreports : (w.perform i (.fail token errorMessage available) checkedAt writtenAt).reports =
      w.reports := by
    rw [perform_reports]
    rfl
  obtain ⟨e, he⟩ | ⟨job, message, hjob, happlied⟩ :=
    fail_cases token errorMessage checkedAt writtenAt available (w.view i)
  · rw [he] at hanswer
    apply h.same _ hclaims hreports
    rw [hanswer]
    rfl
  · rw [hjob] at hanswer
    have hstatus : job.status = .failed := happlied.status
    apply h.perform_stopped hanswer _ _ _ hclaims hreports
    · rw [hstatus]
      exact EncodeJobStatus.noConfusion
    · rw [hstatus]
      exact EncodeJobStatus.noConfusion
    · intro t ht
      rw [happlied.claimToken] at ht
      exact ht

theorem requeue_kept (h : w.Kept) (i : Nat) (outcome : RequeueOutcome)
    (checkedAt writtenAt : Nat) :
    (w.perform i (.requeue outcome) checkedAt writtenAt).Kept := by
  have hanswer : w.answer i (.requeue outcome) checkedAt writtenAt =
      JobWorld.withJob (JobQueue.requeue writtenAt outcome (w.view i)) := rfl
  have hclaims : (w.perform i (.requeue outcome) checkedAt writtenAt).claims = w.claims := by
    rw [perform_claims]
    rfl
  have hreports : (w.perform i (.requeue outcome) checkedAt writtenAt).reports = w.reports := by
    rw [perform_reports]
    rfl
  obtain ⟨e, he⟩ | ⟨hfrom, returned, job, hjob, rfl | rfl⟩ :=
    requeue_cases writtenAt outcome (w.view i)
  · rw [he] at hanswer
    apply h.same _ hclaims hreports
    rw [hanswer]
    rfl
  · rw [hjob] at hanswer
    have hmem : w.job.status ∈ requeueFrom := hfrom
    apply h.perform_stopped hanswer _ h.waiting (fun _ htoken => htoken) hclaims hreports
    intro hrunning
    have hrunning : w.job.status = .running := hrunning
    rw [hrunning] at hmem
    revert hmem
    decide
  · rw [hjob] at hanswer
    apply h.perform_stopped hanswer EncodeJobStatus.noConfusion (fun _ => ⟨rfl, rfl⟩) _ hclaims
      hreports
    intro t ht
    cases ht

theorem withJob_isOk (result : CallResult EncodeJob) :
    (JobWorld.withJob result).1.isOk = result.1.isOk := by
  obtain ⟨returned, view⟩ := result
  cases returned with
  | error e => rfl
  | ok job => rfl

/-- A report of the active attempt keeps what holds. -/
theorem JobWorld.Kept.reported (h : w.Kept) {result : CallResult EncodeJob}
    (hreported : Reported token percent details time (w.view i) result)
    (hrunning : w.job.status = .running) (htoken : w.job.claimToken = some token)
    (hjob : w'.job = result.2.job)
    (hprogress : w'.progress i = result.2.progress) (hclaims : w'.claims = w.claims)
    (hreports : w'.reports = w.reports ++
      [⟨i, token, percent, details, time, result.1.isOk⟩])
    (htokens : w'.tokens = w.tokens) : w'.Kept := by
  obtain ⟨hsameStatus, hsameToken⟩ := hreported.same_attempt
  have htoken' : w'.job.claimToken = some token := by
    rw [hjob, hsameToken]
    exact htoken
  have hown : w'.reportsOf token = w.reportsOf token ++
      [⟨i, token, percent, details, time, result.1.isOk⟩] := by
    rw [JobWorld.reportsOf_append hreports, if_pos rfl]
  constructor
  case current =>
    intro t ht
    rw [htoken'] at ht
    rw [htokens]
    exact h.current t (htoken.trans ht)
  case claims =>
    rw [hclaims, htokens]
    exact h.claims
  case reports =>
    intro report hreport
    rw [hreports] at hreport
    rw [htokens]
    obtain hreport | hreport := List.mem_append.1 hreport
    · exact h.reports report hreport
    · rw [List.mem_singleton.1 hreport]
      exact h.current token htoken
  case waiting =>
    intro hqueued
    rw [hjob, hsameStatus] at hqueued
    exact absurd (hrunning.symm.trans hqueued) EncodeJobStatus.noConfusion
  case own =>
    intro t _ ht
    rw [htoken'] at ht
    obtain rfl := Option.some.inj ht
    rw [hown, hjob]
    obtain hsame | hnew := hreported.percent_own
    · rw [hsame]
      apply (h.own token hrunning htoken).imp_right
      rintro ⟨report, hreport, heq⟩
      exact ⟨report, List.mem_append_left _ hreport, heq⟩
    · exact .inr ⟨_, List.mem_append_right _ List.mem_cons_self, hnew.symm⟩
  case remembers =>
    intro t j _ ht hsole
    rw [htoken'] at ht
    obtain rfl := Option.some.inj ht
    have hcontroller := hsole.reported
    rw [hown] at hcontroller
    obtain rfl : i = j := hcontroller _ (List.mem_append_right _ List.mem_cons_self)
    have hbefore : w.Sole i token :=
      ⟨hclaims ▸ hsole.claimed, fun report hreport =>
        hcontroller report (List.mem_append_left _ hreport)⟩
    rw [hjob, hown, hprogress]
    exact hreported.remembers (h.remembers token i hrunning htoken hbefore)

theorem updateProgress_kept (h : w.Kept) (i : Nat) (token : String) (percent : Int)
    (details : Option EncodeProgressDetails) (available : Bool) (checkedAt writtenAt : Nat) :
    (w.perform i (.updateProgress token percent details available) checkedAt writtenAt).Kept := by
  have hanswer : w.answer i (.updateProgress token percent details available) checkedAt writtenAt =
      JobWorld.withJob
        (updateProgress token percent details checkedAt writtenAt available (w.view i)) := rfl
  have hclaims : (w.perform i (.updateProgress token percent details available) checkedAt
      writtenAt).claims = w.claims := by
    rw [perform_claims]
    rfl
  by_cases hpass : (0 ≤ percent ∧ percent ≤ 100) ∧ isActiveAttempt token checkedAt w.job
  · have hreported : Reported token percent details writtenAt (w.view i) _ :=
      updateProgress_reported details writtenAt available hpass.1 hpass.2
    apply h.reported hreported hpass.2.1 hpass.2.2.1 _ _ hclaims
    · rw [perform_reports, hanswer, JobWorld.reportsAfter, if_pos hpass, withJob_isOk]
    · rw [perform_tokens]
      rfl
    · rw [perform_job, hanswer]
      rfl
    · rw [perform_progress, hanswer, Function.update_self]
      rfl
  · have hrejected : ∃ e, updateProgress token percent details checkedAt writtenAt available
        (w.view i) = (.error e, w.view i) :=
      updateProgress_rejected details writtenAt available hpass
    obtain ⟨e, he⟩ := hrejected
    rw [he] at hanswer
    apply h.same _ hclaims
    · rw [perform_reports, JobWorld.reportsAfter, if_neg hpass]
    · rw [hanswer]
      rfl

/-- What holds of a job and its reports holds after any calls through any controllers. -/
theorem JobRun.kept (h : JobRun w) : w.Kept := by
  induction h with
  | start id clock => exact JobWorld.queued_kept id clock
  | @call w checkedAt writtenAt _ i call _ _ hfresh ih =>
    cases call with
    | claimNext workerId token eligible =>
      exact claimNext_kept ih (hfresh token rfl) i workerId eligible checkedAt writtenAt
    | updateProgress token percent details available =>
      exact updateProgress_kept ih i token percent details available checkedAt writtenAt
    | complete token available => exact complete_kept ih i token available checkedAt writtenAt
    | fail token errorMessage available =>
      exact fail_kept ih i token errorMessage available checkedAt writtenAt
    | requeue outcome => exact requeue_kept ih i outcome checkedAt writtenAt

end Steps

/-- What a failure stores, given the reports of its attempt and the row before it. -/
structure FailureStored (reports : List JobReport) (before row : EncodeJob) : Prop where
  reported : (∃ report ∈ reports, report.returned = true) →
    ∃ last, reports.getLast? = some last ∧ row.progressPercent = last.percent ∧
      row.progressPhase = last.details.elim before.progressPhase fun details => some details.phase
  unreported : (∀ report ∈ reports, report.returned = false) →
    row.progressPercent = before.progressPercent ∧ row.progressPhase = before.progressPhase
  own : row.progressPercent = 0 ∨ ∃ report ∈ reports, report.percent = row.progressPercent
  eta : row.progressEtaSeconds = none

/-- The progress of the attempts of a job is neither lost nor that of another attempt. -/
structure JobWorld.ProgressKept (w : JobWorld) : Prop where
  stale : ∀ i call token checkedAt writtenAt, call.claim = some token →
    ¬(w.job.status = .running ∧ w.job.claimToken = some token) →
    (∃ e, (w.answer i call checkedAt writtenAt).1 = .error e) ∧
      (w.perform i call checkedAt writtenAt).job = w.job
  failed : ∀ i token message available checkedAt writtenAt row,
    (w.answer i (.fail token message available) checkedAt writtenAt).1 = .ok (some row) →
    (w.perform i (.fail token message available) checkedAt writtenAt).job = row ∧
      (w.Sole i token → FailureStored (w.reportsOf token) w.job row)
  running : ∀ i token, w.job.status = .running → w.job.claimToken = some token →
    w.Sole i token → ∀ report, lastReturned (w.reportsOf token) = some report →
      (w.job.progressPercent - report.percent).natAbs < PROGRESS_WRITE_DELTA ∧
      (w.job.progressPercent = report.percent ∨
        report.time < w.job.updatedAt + PROGRESS_WRITE_INTERVAL_MS) ∧
      ∀ details ∈ report.details, w.job.progressPhase = some details.phase

section Guarantees

variable {w : JobWorld} {token : String} {reports : List JobReport} {job row : EncodeJob}
  {progress : Option JobProgress}

theorem lastReturned_mem (h : lastReturned reports = some report) :
    report ∈ reports ∧ report.returned = true :=
  List.mem_filter.1 (List.mem_of_getLast? h)

/-- What is written for a failure is what the memory has of its attempt. -/
theorem Remembers.stored (h : Remembers job reports token progress)
    (hown : job.progressPercent = 0 ∨ ∃ report ∈ reports, report.percent = job.progressPercent)
    (happlied : Applied token (failedUpdate ⟨job, progress⟩ message time)
      (progress.bind (·.latestDetails)) job row) : FailureStored reports job row := by
  cases progress with
  | none =>
    have hpercent : row.progressPercent = job.progressPercent := happlied.percent
    constructor
    case reported =>
      rintro ⟨report, hreport, hreturned⟩
      exact absurd hreturned (by rw [h report hreport]; exact Bool.false_ne_true)
    case unreported => exact fun _ => ⟨hpercent, happlied.phase⟩
    case own =>
      rw [hpercent]
      exact hown
    case eta => exact happlied.eta rfl
  | some state =>
    have hpercent : row.progressPercent = state.latest := happlied.percent
    obtain ⟨-, hremembered⟩ := h
    obtain ⟨last, hlast, hlatest, hdetails⟩ := hremembered.latest
    constructor
    case reported =>
      intro _
      refine ⟨last, hlast, hpercent.trans hlatest, ?_⟩
      rw [← hdetails]
      exact happlied.phase
    case unreported =>
      intro hnone
      obtain ⟨report, hreport, -⟩ := hremembered.returned
      obtain ⟨hmem, hreturned⟩ := lastReturned_mem hreport
      rw [hnone report hmem] at hreturned
      cases hreturned
    case own =>
      exact .inr ⟨last, List.mem_of_getLast? hlast, (hpercent.trans hlatest).symm⟩
    case eta => exact happlied.eta rfl

/-- The row of a running attempt follows the last report that returned. -/
theorem Remembers.follows (h : Remembers job reports token progress)
    (hreport : lastReturned reports = some report) :
    (job.progressPercent - report.percent).natAbs < PROGRESS_WRITE_DELTA ∧
      (job.progressPercent = report.percent ∨
        report.time < job.updatedAt + PROGRESS_WRITE_INTERVAL_MS) ∧
      ∀ details ∈ report.details, job.progressPhase = some details.phase := by
  obtain ⟨hmem, hreturned⟩ := lastReturned_mem hreport
  cases progress with
  | none =>
    rw [h report hmem] at hreturned
    cases hreturned
  | some state =>
    obtain ⟨-, hremembered⟩ := h
    obtain ⟨other, hother, hdelta, htime, hphase⟩ := hremembered.returned
    obtain rfl := Option.some.inj (hreport.symm.trans hother)
    rw [hremembered.persisted] at hdelta htime
    rw [hremembered.persistedAt] at htime
    refine ⟨by omega, htime.imp_left Eq.symm, ?_⟩
    intro details hdetails
    rw [Option.mem_def.1 hdetails, Option.map_some] at hphase
    obtain ⟨persisted, hpersisted, heq⟩ := Option.map_eq_some_iff.1 hphase.symm
    rw [hremembered.persistedPhase persisted hpersisted, heq]

/-- After any calls through any controllers: a call with another claim than that of the running
attempt throws and changes no row; a failure through the controller that claimed the attempt and
made its reports stores the last of them; and the row of a running attempt follows them. -/
theorem jobProgress_kept (h : JobRun w) : w.ProgressKept := by
  have hkept := h.kept
  constructor
  case stale =>
    intro i call token checkedAt writtenAt hclaim hstale
    have hanswer : ∃ e, w.answer i call checkedAt writtenAt = (.error e, w.view i) :=
      JobWorld.answer_stale hclaim hstale
    obtain ⟨e, he⟩ := hanswer
    rw [perform_job, he]
    exact ⟨⟨e, rfl⟩, rfl⟩
  case failed =>
    intro i token message available checkedAt writtenAt row hrow
    have hanswer : w.answer i (.fail token message available) checkedAt writtenAt =
        JobWorld.withJob (fail token message checkedAt writtenAt available (w.view i)) := rfl
    obtain ⟨e, he⟩ | ⟨job, text, hjob, happlied⟩ :=
      fail_cases token message checkedAt writtenAt available (w.view i)
    · rw [hanswer, he] at hrow
      cases hrow
    · rw [hjob] at hanswer
      rw [hanswer] at hrow
      obtain rfl : job = row := Option.some.inj (Except.ok.inj hrow)
      refine ⟨by rw [perform_job, hanswer]; rfl, ?_⟩
      intro hsole
      have hactive := happlied.active
      apply Remembers.stored _ _ happlied
      · exact hkept.remembers token i hactive.1 hactive.2.1 hsole
      · exact hkept.own token hactive.1 hactive.2.1
  case running =>
    intro i token hrunning htoken hsole report hreport
    exact (hkept.remembers token i hrunning htoken hsole).follows hreport

/-- A job claimed through the first controller, its progress stored once and then remembered. -/
def sampleJob : JobWorld :=
  let encoding := some ⟨EncodeProgressPhase.encoding, some 100⟩
  let claimed := (JobWorld.queued "job-1" 0).perform 0 (.claimNext "worker" "attempt-1" true) 0 0
  let stored := claimed.perform 0 (.updateProgress "attempt-1" 40 encoding true) 0 0
  stored.perform 0 (.updateProgress "attempt-1" 42 encoding true) 10 10

theorem sampleJob_run : JobRun sampleJob := by
  apply JobRun.call _ 0 (.updateProgress "attempt-1" 42 _ true)
  · decide
  · decide
  · exact fun _ htoken => nomatch htoken
  · apply JobRun.call _ 0 (.updateProgress "attempt-1" 40 _ true)
    · decide
    · decide
    · exact fun _ htoken => nomatch htoken
    · apply JobRun.call (.start "job-1" 0) 0 (.claimNext "worker" "attempt-1" true)
      · decide
      · decide
      · exact fun _ _ => List.not_mem_nil

/-- A failure through another controller than the one that reported loses the latest progress. -/
theorem jobProgress_lost : ¬∀ (w : JobWorld), JobRun w →
    ∀ (i : Nat) (token message : String) (available : Bool) (checkedAt writtenAt : Nat)
      (row : EncodeJob) (report : JobReport), w.clock ≤ checkedAt → checkedAt ≤ writtenAt →
      (w.answer i (.fail token message available) checkedAt writtenAt).1 = .ok (some row) →
      lastReturned (w.reportsOf token) = some report →
      row.progressPercent = report.percent := by
  intro hclaim
  have hrow : (sampleJob.answer 1 (.fail "attempt-1" "encode failed" true) 20 20).1.map
      (fun row => row.map (·.progressPercent)) = .ok (some 40) := by decide +kernel
  have hreport : (lastReturned (sampleJob.reportsOf "attempt-1")).map (·.percent) = some 42 := by
    decide +kernel
  obtain ⟨found, hanswer, hfound⟩ := map_ok.1 hrow
  obtain ⟨row, rfl, hpercent⟩ := Option.map_eq_some_iff.1 hfound
  obtain ⟨report, hlast, hlatest⟩ := Option.map_eq_some_iff.1 hreport
  have hsame := hclaim sampleJob sampleJob_run 1 "attempt-1" "encode failed" true 20 20 row report
    (by decide) le_rfl hanswer hlast
  omega

theorem sampleJob_kept : sampleJob.job.status = .running ∧ sampleJob.ProgressKept :=
  ⟨by decide +kernel, jobProgress_kept sampleJob_run⟩

end Guarantees

end RipDvd
