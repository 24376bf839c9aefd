import RipDvd.NotificationAccounting

namespace RipDvd
set_option autoImplicit true

/-- The recording is of an input's source event, and its payload has the digest of the input's. -/
def EventRecording.Answers (payloadDigest : NotificationPayload → String)
    (recording : EventRecording) (input : NotificationEventInput) : Prop :=
  recording.sourceEventId = input.sourceEventId ∧
    payloadDigest recording.payload = payloadDigest input.payload

/-- The tests that were submitted are answered by recordings. -/
def TestsReported (payloadDigest : NotificationPayload → String) (s : NotificationState) : Prop :=
  ∀ invocation ∈ s.invocations, ∀ event, invocation.semanticInput = .test event →
    ∃ recording ∈ s.recorded, recording.Answers payloadDigest event ∧
      invocation.outcome = .recorded recording.summary

section Reports

variable {payloadDigest : NotificationPayload → String} {s s' t : NotificationState}
  {operation : NotificationOperation} {recording : EventRecording}
  {input : NotificationEventInput}

theorem EventRecording.Answers.same (h : recording.Answers payloadDigest input)
    (hdigest : ∀ other, payloadDigest other = payloadDigest recording.payload →
      other = recording.payload) : input = recording.input := by
  obtain ⟨sourceEventId, payload⟩ := input
  obtain ⟨hsource, hpayload⟩ := h
  cases hsource
  cases hdigest payload hpayload.symm
  rfl

/-- A test that replays an older one is of the same source event. -/
theorem legacy_source {previous : NotificationMutation}
    (h : isLegacyTestReplay previous (.test input) = true) :
    ∃ old, previous = .test old ∧ old.sourceEventId = input.sourceEventId := by
  cases previous with
  | register => cases h
  | disable => cases h
  | test old =>
    obtain ⟨-, hsame⟩ := of_decide_eq_true h
    have hsource := congrArg NotificationEventInput.sourceEventId hsame
    exact ⟨old, rfl, hsource⟩

/-- No event is recorded where no row of one appears. -/
theorem observe_recorded (s : NotificationState) (now : Nat) {store : NotificationStore}
    (hevents : ∀ event ∈ store.tables.events, event ∈ s.tables.events) :
    (s.observe now store).recorded = s.recorded := by
  have hnone : store.tables.events.filter (·.id ∉ s.tables.events.map (·.id)) = [] := by
    apply List.filter_eq_nil_iff.2
    intro event hevent
    rw [decide_eq_true_eq, not_not]
    exact List.mem_map_of_mem (hevents event hevent)
  rw [NotificationState.observe, hnone, List.map_nil, List.append_nil]

theorem settle_events {tables tables' : NotificationTables}
    (h : tables.settle claim result now = (status, tables')) :
    ∀ event ∈ tables'.events, event ∈ tables.events := by
  intro event hevent
  rcases settle_cases tables claim result now with hnone | ⟨row, -, -, hsettle⟩
  · rw [hnone] at h
    cases h
    exact hevent
  · rw [hsettle] at h
    cases h
    split at hevent
    · exact hevent
    · exact hevent

theorem claim_events {tables tables' : NotificationTables}
    (h : tables.claim token now leaseMs = .ok (claim, tables')) :
    ∀ event ∈ tables'.events, event ∈ tables.events := by
  intro event hevent
  rcases claim_cases h with ⟨-, rfl⟩ | ⟨row, -, subscription, leased, -, -, -, rfl⟩
  · exact hevent
  · exact hevent

/-- What recording a source event returns is the summary of the recording that answers it, which is
an earlier one or is made now. -/
theorem recordEvent_recorded (invocations : List NotificationInvocation)
    (hs : NotificationInvariant payloadDigest s) (hfresh : FreshEvent s eventId deliveryId)
    (h : s.tables.recordEvent payloadDigest eventId deliveryId now input =
      .ok (recorded, tables)) :
    let s' := s.observe now ⟨tables, invocations⟩
    ∃ recording ∈ s'.recorded, recording.Answers payloadDigest input ∧
      recorded = recording.summary ∧
        (recording ∈ s.recorded ∧ s'.recorded = s.recorded ∨
          recording = firstRecording s.tables eventId input ∧
            s'.recorded = s.recorded ++ [recording]) := by
  dsimp only
  rcases recordEvent_cases hs.recorded h with
    ⟨rfl, recording, hrecording, hsource, hpayload, rfl⟩ | ⟨-, rfl, rfl⟩
  · have hsame : (s.observe now ⟨s.tables, invocations⟩).recorded = s.recorded :=
      observe_recorded s _ fun _ hevent => hevent
    refine ⟨recording, ?_, ⟨hsource, hpayload⟩, rfl, .inl ⟨hrecording, hsame⟩⟩
    rw [hsame]
    exact hrecording
  · rw [firstTables_observe hs hfresh]
    exact ⟨firstRecording s.tables eventId input, List.mem_append_right _ List.mem_cons_self,
      ⟨rfl, rfl⟩, rfl, .inr ⟨rfl, rfl⟩⟩

/-- A step records nothing, or the source event it reports. -/
theorem NotificationStep.recorded_cases (hs : NotificationInvariant payloadDigest s)
    (h : NotificationStep payloadDigest s operation s') :
    s'.recorded = s.recorded ∨ ∃ eventId input, operation.event = some input ∧
      s'.recorded = s.recorded ++ [firstRecording s.tables eventId input] := by
  have hreported {eventId : String} {input : NotificationEventInput}
      {deliveryId : String → String} {now : Nat} {recorded : RecordedEvent}
      {tables : NotificationTables} (invocations : List NotificationInvocation)
      (hfresh : FreshEvent s eventId deliveryId)
      (h : s.tables.recordEvent payloadDigest eventId deliveryId now input =
        .ok (recorded, tables)) : (s.observe now ⟨tables, invocations⟩).recorded = s.recorded ∨
      (s.observe now ⟨tables, invocations⟩).recorded =
        s.recorded ++ [firstRecording s.tables eventId input] := by
    obtain ⟨recording, -, -, -, ⟨-, hsame⟩ | ⟨rfl, hnew⟩⟩ :=
      recordEvent_recorded invocations hs hfresh h
    · exact .inl hsame
    · exact .inr hnew
  cases h with
  | recordEvent hclock hfresh h =>
    apply (hreported _ hfresh h).imp_right
    intro hnew
    exact ⟨_, _, rfl, hnew⟩
  | submitTest hclock hfresh h =>
    rcases mutation_cases h with ⟨rfl, -⟩ | ⟨tables, hwrite, rfl⟩
    · exact .inl (observe_recorded s _ fun _ hevent => hevent)
    · obtain ⟨⟨recorded, tables⟩, hrecord, h⟩ := bind_ok.1 hwrite
      cases h
      apply (hreported _ hfresh hrecord).imp_right
      intro hnew
      exact ⟨_, _, rfl, hnew⟩
  | register hclock hfresh h =>
    left
    rcases mutation_cases h with ⟨rfl, -⟩ | ⟨tables, hwrite, rfl⟩
    · exact observe_recorded s _ fun _ hevent => hevent
    · cases hwrite
      exact observe_recorded s _ (register_upkeep hs hfresh).events
  | disable hclock h =>
    left
    rcases mutation_cases h with ⟨rfl, -⟩ | ⟨tables, hwrite, rfl⟩
    · exact observe_recorded s _ fun _ hevent => hevent
    · obtain ⟨⟨summary, tables⟩, hdisable, h⟩ := bind_ok.1 hwrite
      cases h
      exact observe_recorded s _ (disable_upkeep hs hdisable).events
  | @claim now _ _ _ _ _ hclock hfresh h => exact .inl (observe_recorded s now (claim_events h))
  | isDispatchable hclock => exact .inl (observe_recorded s _ fun _ hevent => hevent)
  | @settle now _ _ _ _ _ hclock h => exact .inl (observe_recorded s now (settle_events h))
  | maintain hclock h => exact .inl (observe_recorded s _ (maintain_upkeep hs h).events)

/-- What was recorded stays recorded. -/
theorem NotificationStep.recorded_mem (hs : NotificationInvariant payloadDigest s)
    (h : NotificationStep payloadDigest s operation s') (hr : recording ∈ s.recorded) :
    recording ∈ s'.recorded := by
  rcases h.recorded_cases hs with hsame | ⟨_, _, -, hnew⟩
  · rw [hsame]
    exact hr
  · rw [hnew]
    exact List.mem_append_left _ hr

/-- Steps keep the tests answered. -/
theorem NotificationStep.tests (hs : NotificationInvariant payloadDigest s)
    (ht : TestsReported payloadDigest s) (h : NotificationStep payloadDigest s operation s') :
    TestsReported payloadDigest s' := by
  have hkept : ∀ invocation ∈ s.invocations, ∀ event, invocation.semanticInput = .test event →
      ∃ recording ∈ s'.recorded, recording.Answers payloadDigest event ∧
        invocation.outcome = .recorded recording.summary := by
    intro invocation hinvocation event hevent
    obtain ⟨recording, hrecording, hanswers⟩ := ht invocation hinvocation event hevent
    exact ⟨recording, h.recorded_mem hs hrecording, hanswers⟩
  have hadded {invocation : NotificationInvocation}
      (hnew : ∀ event, invocation.semanticInput = .test event →
        ∃ recording ∈ s'.recorded, recording.Answers payloadDigest event ∧
          invocation.outcome = .recorded recording.summary) :
      ∀ found ∈ s.invocations ++ [invocation], ∀ event, found.semanticInput = .test event →
        ∃ recording ∈ s'.recorded, recording.Answers payloadDigest event ∧
          found.outcome = .recorded recording.summary := by
    intro found hfound
    rcases List.mem_append.1 hfound with hfound | hfound
    · exact hkept found hfound
    · cases List.mem_singleton.1 hfound
      exact hnew
  cases h with
  | recordEvent => exact hkept
  | submitTest hclock hfresh h =>
    rcases mutation_cases h with ⟨rfl, -⟩ | ⟨tables, hwrite, rfl⟩
    · exact hkept
    · refine hadded fun event hevent => ?_
      cases hevent
      obtain ⟨⟨recorded, tables⟩, hrecord, h⟩ := bind_ok.1 hwrite
      cases h
      obtain ⟨recording, hrecording, hanswers, rfl, -⟩ :=
        recordEvent_recorded s.invocations hs hfresh hrecord
      exact ⟨recording, hrecording, hanswers, rfl⟩
  | register hclock hfresh h =>
    rcases mutation_cases h with ⟨rfl, -⟩ | ⟨tables, -, rfl⟩
    · exact hkept
    · exact hadded fun event hevent => by cases hevent
  | disable hclock h =>
    rcases mutation_cases h with ⟨rfl, -⟩ | ⟨tables, -, rfl⟩
    · exact hkept
    · exact hadded fun event hevent => by cases hevent
  | claim => exact hkept
  | isDispatchable => exact hkept
  | settle => exact hkept
  | maintain => exact hkept

/-- Every operation that reports a source event is answered by a recording, which is an earlier one
or is made of it then and there. -/
theorem NotificationStep.reports (hs : NotificationInvariant payloadDigest s)
    (ht : TestsReported payloadDigest s) (h : NotificationStep payloadDigest s operation s')
    (hevent : operation.event = some input)
    (hdigest : ∀ recording ∈ s'.recorded, ∀ other,
      payloadDigest other = payloadDigest recording.payload → other = recording.payload) :
    ∃ recording ∈ s'.recorded, operation.Reports recording ∧
      recording.sourceEventId = input.sourceEventId ∧
        (recording ∈ s.recorded ∨
          recording.recipients = s.tables.eligible ∧ recording.input = input) := by
  cases h with
  | recordEvent hclock hfresh h =>
    cases hevent
    obtain ⟨recording, hrecording, hanswers, rfl, hfrom⟩ :=
      recordEvent_recorded s.invocations hs hfresh h
    have hsame := hanswers.same (hdigest recording hrecording)
    refine ⟨recording, hrecording, ⟨hsame, rfl⟩, hanswers.1, ?_⟩
    rcases hfrom with ⟨hknown, -⟩ | ⟨rfl, -⟩
    · exact .inl hknown
    · exact .inr ⟨rfl, rfl⟩
  | @submitTest now _ _ _ _ _ _ _ hclock hfresh h =>
    cases hevent
    rcases mutation_cases h with ⟨rfl, previous, hprevious, rfl, hreplay⟩ | ⟨tables, hwrite, rfl⟩
    · have hsame : (s.observe now s.store).recorded = s.recorded :=
        observe_recorded s now fun _ hevent => hevent
      rcases hreplay with hreplay | hreplay
      · obtain ⟨recording, hrecording, hanswers, houtcome⟩ := ht previous hprevious input hreplay
        rw [← hsame] at hrecording
        have hfacts := hanswers.same (hdigest recording hrecording)
        exact ⟨recording, hrecording, ⟨.inl hfacts, houtcome⟩, hanswers.1,
          .inl (hsame ▸ hrecording)⟩
      · obtain ⟨old, htest, hsource⟩ := legacy_source hreplay
        obtain ⟨recording, hrecording, hanswers, houtcome⟩ := ht previous hprevious old htest
        rw [← hsame] at hrecording
        have hfacts := hanswers.same (hdigest recording hrecording)
        rw [htest, hfacts] at hreplay
        exact ⟨recording, hrecording, ⟨.inr hreplay, houtcome⟩, hanswers.1.trans hsource,
          .inl (hsame ▸ hrecording)⟩
    · obtain ⟨⟨recorded, tables⟩, hrecord, h⟩ := bind_ok.1 hwrite
      cases h
      obtain ⟨recording, hrecording, hanswers, rfl, hfrom⟩ :=
        recordEvent_recorded s.invocations hs hfresh hrecord
      have hsame := hanswers.same (hdigest recording hrecording)
      refine ⟨recording, hrecording, ⟨.inl hsame, rfl⟩, hanswers.1, ?_⟩
      rcases hfrom with ⟨hknown, -⟩ | ⟨rfl, -⟩
      · exact .inl hknown
      · exact .inr ⟨rfl, rfl⟩
  | register => cases hevent
  | disable => cases hevent
  | claim => cases hevent
  | isDispatchable => cases hevent
  | settle => cases hevent
  | maintain => cases hevent

/-- A run keeps what was recorded, and records only what its operations report. -/
theorem notificationRun_recorded (hs : NotificationInvariant payloadDigest s)
    (ht : TestsReported payloadDigest s)
    (hrun : Run (NotificationStep payloadDigest) s operations t) :
    NotificationInvariant payloadDigest t ∧ TestsReported payloadDigest t ∧
      (∀ recording ∈ s.recorded, recording ∈ t.recorded) ∧
      ∀ recording ∈ t.recorded, recording ∈ s.recorded ∨ ∃ operation ∈ operations, ∃ input,
        operation.event = some input ∧ input.sourceEventId = recording.sourceEventId := by
  induction hrun with
  | nil => exact ⟨hs, ht, fun _ hr => hr, fun _ hr => .inl hr⟩
  | @cons s operation s' operations t hstep _ ih =>
    obtain ⟨hs', -⟩ := hstep.kept hs
    obtain ⟨hinvariant, htests, hkept, horigin⟩ := ih hs' (hstep.tests hs ht)
    refine ⟨hinvariant, htests, fun r hr => hkept r (hstep.recorded_mem hs hr), ?_⟩
    intro recording hrecording
    rcases horigin recording hrecording with hr | ⟨later, hlater, hreported⟩
    · rcases hstep.recorded_cases hs with hsame | ⟨eventId, input, hevent, hnew⟩
      · rw [hsame] at hr
        exact .inl hr
      · rw [hnew] at hr
        rcases List.mem_append.1 hr with hr | hr
        · exact .inl hr
        · rw [List.mem_singleton.1 hr]
          exact .inr ⟨operation, List.mem_cons_self, input, hevent, rfl⟩
    · exact .inr ⟨later, List.mem_cons_of_mem _ hlater, hreported⟩

end Reports

end RipDvd
