import RipDvd.NotificationReports

namespace RipDvd
set_option autoImplicit true

/-- The lease is not over: it has not expired, and its delivery is neither settled nor ended. -/
def LeaseGrant.Unexpired (s : NotificationState) (grant : LeaseGrant) : Prop :=
  s.clock < grant.leaseUntil ∧ grant.token ∉ s.settled ∧
    ∃ row ∈ s.tables.deliveries, row.id = grant.deliveryId ∧ row.Pending

/-- The claim is that of a lease which goes beyond a time. -/
def NotificationState.Leases (s : NotificationState) (claim : NotificationDeliveryClaim)
    (now : Nat) : Prop :=
  ∃ grant ∈ s.grants, grant.deliveryId = claim.id ∧ grant.token = claim.token ∧
    grant.Unexpired s ∧ now < grant.leaseUntil

/-- The accounts of a state: a source event is recorded once, with one delivery to each recipient
of its recording, whose attempts and leases keep their limits. -/
structure DeliveryAccounts (payloadDigest : NotificationPayload → String) (s : NotificationState) :
    Prop where
  sources : (s.recorded.map (·.sourceEventId)).Nodup
  events : (s.recorded.map (·.eventId)).Nodup
  deliveries : (s.delivered.map (·.id)).Nodup
  recipients : ∀ recording ∈ s.recorded,
    ((s.delivered.filter (·.eventId = recording.eventId)).map fun delivery =>
      (delivery.subscriptionId, delivery.generation)) = recording.recipients ∧
    (recording.recipients.map Prod.fst).Nodup
  addressed : ∀ delivery ∈ s.delivered, ∃ recording ∈ s.recorded,
    recording.eventId = delivery.eventId
  rows : ∀ row ∈ s.tables.deliveries, ∃ delivery ∈ s.delivered, delivery.identity = row.identity
  replay : ∀ recording ∈ s.recorded, ∀ input eventId deliveryId now,
    input.sourceEventId = recording.sourceEventId →
      s.tables.recordEvent payloadDigest eventId deliveryId now input =
        if input.payload = recording.payload then
          .ok (⟨recording.eventId, recording.recipients.length⟩, s.tables)
        else .error (.invariant "Notification source event identity has conflicting facts")
  attempts : ∀ id, claims s.grants id ≤ NOTIFICATION_MAX_ATTEMPTS
  lifetime : ∀ grant ∈ s.grants, ∃ delivery ∈ s.delivered, delivery.id = grant.deliveryId ∧
    grant.grantedAt < delivery.expiresAt
  exclusive : ∀ grant ∈ s.grants, ∀ other ∈ s.grants, grant.deliveryId = other.deliveryId →
    grant.Unexpired s → other.Unexpired s → grant = other
  settle : ∀ claim result now, s.clock ≤ now → ¬s.Leases claim now →
    s.tables.settle claim result now = (none, s.tables)
  dispatch : ∀ claim now, s.clock ≤ now → s.tables.isDispatchable claim now = true →
    s.Leases claim now

/-- What stays true of a state in a later one: a delivery that has ended, and the deliveries of a
generation that has. -/
structure KeptAccounts (s t : NotificationState) : Prop where
  terminal : ∀ row ∈ s.tables.deliveries, ¬row.Pending →
    (∀ row' ∈ t.tables.deliveries, row'.id = row.id → row' = row) ∧
      claims t.grants row.id = claims s.grants row.id
  obsolete : ∀ subscription ∈ s.tables.subscriptions, subscription.active = false →
    ∀ subscription' ∈ t.tables.subscriptions, subscription'.id = subscription.id →
      subscription'.active = true → ∀ delivery ∈ s.delivered,
        delivery.subscriptionId = subscription.id →
          delivery.generation < subscription'.generation ∧
            ∀ claim result now, claim.id = delivery.id →
              t.tables.settle claim result now = (none, t.tables)

/-- Every operation of a run that reports a source event is answered by one recording of it, which
the first of them made for the subscriptions that were active then. -/
def EventsReported (payloadDigest : NotificationPayload → String) (s : NotificationState) : Prop :=
  ∀ before operation after s₁ s₂ input, Run (NotificationStep payloadDigest) .empty before s₁ →
    NotificationStep payloadDigest s₁ operation s₂ →
      Run (NotificationStep payloadDigest) s₂ after s →
      operation.event = some input → ∃ recording ∈ s.recorded, operation.Reports recording ∧
        recording.sourceEventId = input.sourceEventId ∧
          ((∀ earlier ∈ before, ∀ other, earlier.event = some other →
            other.sourceEventId ≠ input.sourceEventId) →
              recording.recipients = s₁.tables.eligible ∧ recording.input = input)

section Accounts

variable {payloadDigest : NotificationPayload → String} {s t : NotificationState}

theorem empty_invariant : NotificationInvariant payloadDigest .empty where
  recorded := ⟨List.nodup_nil, List.nodup_nil, List.forall_mem_nil _, List.nodup_nil,
    List.forall_mem_nil _, List.forall_mem_nil _, List.forall_mem_nil _, List.forall_mem_nil _,
    List.forall_mem_nil _⟩
  current := ⟨List.nodup_nil, List.nodup_nil, List.nodup_nil, List.forall_mem_nil _,
    List.forall_mem_nil _, List.forall_mem_nil _⟩
  leased := ⟨List.forall_mem_nil _, fun _ => Nat.zero_le _, List.forall_mem_nil _, List.nodup_nil,
    List.forall_mem_nil _, List.forall_mem_nil _, List.forall_mem_nil _⟩

/-- Runs keep the invariant, and go on with what was there. -/
theorem notificationRun_kept (hs : NotificationInvariant payloadDigest s)
    (hrun : Run (NotificationStep payloadDigest) s operations t) :
    NotificationInvariant payloadDigest t ∧ Continued s t := by
  induction hrun with
  | nil => exact ⟨hs, .refl _⟩
  | cons hstep _ ih =>
    obtain ⟨hs', hcontinued⟩ := hstep.kept hs
    obtain ⟨ht, hcontinued'⟩ := ih hs'
    exact ⟨ht, hcontinued.trans hcontinued'⟩

/-- The receipt that is found is that of the recording. -/
theorem RecordedEvents.find_receipt {tables : NotificationTables}
    (h : RecordedEvents payloadDigest tables recorded delivered) (hr : recording ∈ recorded) :
    tables.receipts.find? (·.sourceEventId = recording.sourceEventId) =
      some (recording.receipt payloadDigest) := by
  have hmem := h.receipts recording hr
  cases hfind : tables.receipts.find? (·.sourceEventId = recording.sourceEventId) with
  | none =>
    have hnone := List.find?_eq_none.1 hfind _ hmem
    exact absurd (decide_eq_true rfl) hnone
  | some receipt =>
    have hsource := List.find?_some hfind
    rw [decide_eq_true_eq] at hsource
    have hfound := List.mem_of_find?_eq_some hfind
    rw [List.inj_on_of_nodup_map h.receiptKey hfound hmem hsource]

theorem recordEvent_replay (hs : NotificationInvariant payloadDigest s)
    (hr : recording ∈ s.recorded)
    (hdigest : ∀ other, payloadDigest other = payloadDigest recording.payload →
      other = recording.payload)
    (hsource : input.sourceEventId = recording.sourceEventId) :
    s.tables.recordEvent payloadDigest eventId deliveryId now input =
      if input.payload = recording.payload then
        .ok (⟨recording.eventId, recording.recipients.length⟩, s.tables)
      else .error (.invariant "Notification source event identity has conflicting facts") := by
  unfold NotificationTables.recordEvent
  rw [hsource, hs.recorded.find_receipt hr]
  dsimp only [EventRecording.receipt]
  by_cases hpayload : input.payload = recording.payload
  · rw [if_pos hpayload, hpayload, if_neg (not_not.2 rfl)]
  · have hdiffers : payloadDigest recording.payload ≠ payloadDigest input.payload :=
      fun heq => hpayload (hdigest _ heq.symm)
    rw [if_neg hpayload, if_pos hdiffers]

/-- An unexpired lease is the one its delivery is under. -/
theorem unexpired_holds (hs : NotificationInvariant payloadDigest s) (hg : grant ∈ s.grants)
    (h : grant.Unexpired s) :
    ∃ row ∈ s.tables.deliveries, row.id = grant.deliveryId ∧ grant.Holds row := by
  obtain ⟨hlive, hunsettled, row, hrow, hid, hpending⟩ := h
  rcases hs.leased.leased grant hg with hexpired | hsettled | hholds
  · exact absurd hexpired (not_le.2 hlive)
  · exact absurd hsettled hunsettled
  · exact ⟨row, hrow, hid, hholds row hrow hid hpending⟩

theorem unexpired_unique (hs : NotificationInvariant payloadDigest s) (hg : grant ∈ s.grants)
    (hg' : other ∈ s.grants) (hid : grant.deliveryId = other.deliveryId)
    (h : grant.Unexpired s) (h' : other.Unexpired s) : grant = other := by
  obtain ⟨row, hrow, hrowId, hholds⟩ := unexpired_holds hs hg h
  obtain ⟨row', hrow', hrowId', hholds'⟩ := unexpired_holds hs hg' h'
  cases eq_of_id hs.current.deliveryKey hrow hrow' (hrowId.trans (hid.trans hrowId'.symm))
  have htoken : grant.token = other.token := Option.some.inj (hholds.1.symm.trans hholds'.1)
  exact List.inj_on_of_nodup_map hs.leased.tokens hg hg' htoken

/-- A delivery is leased to a claim only while the claim's lease lasts. -/
theorem leasedTo_leases (hs : NotificationInvariant payloadDigest s) (hclock : s.clock ≤ now)
    (hrow : row ∈ s.tables.deliveries) (h : row.LeasedTo claim now) : s.Leases claim now := by
  obtain ⟨hid, htoken, hpending, leaseUntil, hlease, hlive⟩ := h
  obtain ⟨hunsettled, grant, hgrant, hgrantId, hholds, hgrantToken⟩ :=
    hs.leased.lease row hrow claim.token htoken
  have huntil : grant.leaseUntil = leaseUntil := Option.some.inj (hholds.2.symm.trans hlease)
  rw [← huntil] at hlive
  refine ⟨grant, hgrant, hgrantId.trans hid, hgrantToken, ?_, hlive⟩
  exact ⟨hclock.trans_lt hlive, hgrantToken ▸ hunsettled, row, hrow, hgrantId.symm, hpending⟩

theorem NotificationInvariant.accounts (hs : NotificationInvariant payloadDigest s)
    (hdigest : ∀ recording ∈ s.recorded, ∀ other,
      payloadDigest other = payloadDigest recording.payload → other = recording.payload) :
    DeliveryAccounts payloadDigest s where
  sources := hs.recorded.sources
  events := hs.recorded.events
  deliveries := hs.current.deliveredKey
  recipients recording hr :=
    ⟨hs.recorded.recipients recording hr, hs.recorded.recipientKey recording hr⟩
  addressed := hs.recorded.addressed
  rows := hs.current.origin
  replay recording hr _ _ _ _ hsource := recordEvent_replay hs hr (hdigest recording hr) hsource
  attempts := hs.leased.limit
  lifetime := hs.leased.granted
  exclusive _ hg _ hg' hid h h' := unexpired_unique hs hg hg' hid h h'
  settle := by
    intro claim result now hclock hnot
    rcases settle_cases s.tables claim result now with hnone | ⟨row, hrow, hleased, -⟩
    · exact hnone
    · exact absurd (leasedTo_leases hs hclock hrow hleased) hnot
  dispatch := by
    intro claim now hclock h
    obtain ⟨row, hrow, hdispatchable⟩ := List.any_eq_true.1 h
    rw [decide_eq_true_eq] at hdispatchable
    exact leasedTo_leases hs hclock hrow hdispatchable.1

/-- No delivery of a generation that is over can still be settled. -/
theorem obsolete_settle (ht : NotificationInvariant payloadDigest t)
    (hsubscription : subscription ∈ t.tables.subscriptions)
    (hdelivery : delivery ∈ t.delivered) (hid : subscription.id = delivery.subscriptionId)
    (hlt : delivery.generation < subscription.generation) (hclaim : claim.id = delivery.id) :
    t.tables.settle claim result now = (none, t.tables) := by
  rcases settle_cases t.tables claim result now with hnone | ⟨row, hrow, hleased, -⟩
  · exact hnone
  · obtain ⟨origin, horigin, hidentity⟩ := ht.current.origin row hrow
    have hsame : origin.id = delivery.id :=
      (congrArg Prod.fst hidentity).trans (hleased.1.trans hclaim)
    cases List.inj_on_of_nodup_map ht.current.deliveredKey horigin hdelivery hsame
    obtain ⟨current, hcurrent, hcurrentId, -, hgeneration⟩ :=
      ht.current.current row hrow hleased.2.2.1
    have hrowSubscription : delivery.subscriptionId = row.subscriptionId :=
      congrArg (fun identity => identity.2.2.1) hidentity
    have hrowGeneration : delivery.generation = row.generation :=
      congrArg (fun identity => identity.2.2.2.1) hidentity
    have hsameSubscription : current.id = subscription.id := by
      rw [hcurrentId, hid, hrowSubscription]
    cases List.inj_on_of_nodup_map ht.current.subscriptionKey hcurrent hsubscription
      hsameSubscription
    rw [hrowGeneration, hgeneration] at hlt
    exact absurd hlt (lt_irrefl _)

theorem Continued.accounts (hs : NotificationInvariant payloadDigest s)
    (ht : NotificationInvariant payloadDigest t) (h : Continued s t) : KeptAccounts s t where
  terminal := by
    intro row hrow hended
    obtain ⟨delivery, hdelivery, hidentity⟩ := hs.current.origin row hrow
    have hid : delivery.id = row.id := congrArg Prod.fst hidentity
    have hfinished : Finished s.tables.deliveries delivery.id := by
      intro other hother hotherId
      cases eq_of_id hs.current.deliveryKey hother hrow (hotherId.trans hid)
      exact hended
    obtain ⟨hrows, hclaims⟩ := h.finished delivery hdelivery hfinished
    rw [hid] at hrows hclaims
    refine ⟨?_, hclaims⟩
    intro row' hrow' hid'
    exact eq_of_id hs.current.deliveryKey (hrows row' hrow' hid') hrow hid'
  obsolete := by
    intro subscription hsubscription hinactive subscription' hsubscription' hid hactive delivery
      hdelivery hfor
    obtain ⟨later, hlater, hlaterId, -, hgrows⟩ := h.later subscription hsubscription
    cases List.inj_on_of_nodup_map ht.current.subscriptionKey hlater hsubscription'
      (hlaterId.trans hid.symm)
    obtain ⟨known, hknown, hknownId, hle⟩ := hs.current.generation delivery hdelivery
    cases List.inj_on_of_nodup_map hs.current.subscriptionKey hknown hsubscription
      (hknownId.trans hfor)
    have hlt := hle.trans_lt (hgrows hinactive hactive)
    refine ⟨hlt, fun claim result now hclaim => ?_⟩
    exact obsolete_settle ht hsubscription' (h.delivered delivery hdelivery) (hid.trans hfor.symm)
      hlt hclaim

theorem events_reported
    (hdigest : ∀ recording ∈ s.recorded, ∀ other,
      payloadDigest other = payloadDigest recording.payload → other = recording.payload) :
    EventsReported payloadDigest s := by
  intro before operation after s₁ s₂ input hbefore hstep hafter hevent
  have hnone : TestsReported payloadDigest .empty := List.forall_mem_nil _
  obtain ⟨hs₁, htests, -, horigin⟩ := notificationRun_recorded empty_invariant hnone hbefore
  obtain ⟨-, -, hkept, -⟩ :=
    notificationRun_recorded (hstep.kept hs₁).1 (hstep.tests hs₁ htests) hafter
  obtain ⟨recording, hrecording, hreports, hsource, hfrom⟩ :=
    hstep.reports hs₁ htests hevent fun recording hr => hdigest recording (hkept recording hr)
  refine ⟨recording, hkept recording hrecording, hreports, hsource, fun hfirst => ?_⟩
  rcases hfrom with hknown | hnew
  · rcases horigin recording hknown with hnil | ⟨earlier, hearlier, other, hother, hsame⟩
    · exact absurd hnil List.not_mem_nil
    · exact absurd (hsame.trans hsource) (hfirst earlier hearlier other hother)
  · exact hnew

/-- Notification deliveries are accounted for in every run. -/
theorem notificationDeliveries_accounted
    (hrun : Run (NotificationStep payloadDigest) .empty operations s)
    (hdigest : ∀ recording ∈ s.recorded, ∀ other,
      payloadDigest other = payloadDigest recording.payload → other = recording.payload) :
    DeliveryAccounts payloadDigest s ∧ EventsReported payloadDigest s ∧
      ∀ later t, Run (NotificationStep payloadDigest) s later t → KeptAccounts s t := by
  obtain ⟨hs, -⟩ := notificationRun_kept empty_invariant hrun
  refine ⟨hs.accounts hdigest, events_reported hdigest, fun later t hlater => ?_⟩
  obtain ⟨ht, hcontinued⟩ := notificationRun_kept hs hlater
  exact hcontinued.accounts hs ht

end Accounts

def samplePayload : NotificationPayload where
  title := "Sample disc"
  label := "Sample disc"
  body := "Archive Recovery completed. All remaining source recovered."
  tag := "rip-dvd-08b3c780e7f73ea67313c3ebf95eb748"
  destination := "/notifications/target?kind=original-disc-archives&id=a"

/-- The digest of the sample payload, and another for any other. -/
def sampleDigest (payload : NotificationPayload) : String :=
  if payload = samplePayload then
    "5fe83c5d954cf390494bb86d57039e1b0ae514addb60cbd186ba3d6d82265344"
  else ""

def sampleSubscription : NotificationSubscriptionInput where
  endpoint := "https://push.example/1"
  expirationTime := none
  keys := ⟨"p256dh", "auth"⟩

def sampleDeliveryClaim : NotificationDeliveryClaim where
  id := "s"
  token := "token"
  subscription := sampleSubscription
  payload := samplePayload
  attemptCount := 1
  expiresAt := 86400001

/-- A subscription is registered, receives an event, and the event's rows are deleted. -/
def sampleOperations : List NotificationOperation :=
  [.register "key" sampleSubscription true,
    .recordEvent ⟨"recovery:1", samplePayload⟩ ⟨"event", 1⟩, .claim 1000,
      .settle sampleDeliveryClaim .accepted,
    .maintain 100]

def sampleRegistered : NotificationState :=
  { NotificationState.empty with
    tables := ⟨[⟨"s", "https://push.example/1", sampleSubscription, true, 1, 1, 1⟩], [], [], []⟩
    invocations := [⟨"key", .register sampleSubscription true, .subscription ⟨"s", true, 1, 1, 1⟩⟩]
    clock := 1 }

def sampleDelivery : NotificationDelivery where
  id := "s"
  eventId := "event"
  subscriptionId := "s"
  generation := 1
  status := .queued
  createdAt := 1

def sampleRecorded : NotificationState :=
  { sampleRegistered with
    tables := { sampleRegistered.tables with
      events := [⟨"event", "recovery:1", samplePayload, 1⟩]
      receipts := [⟨"recovery:1", "event", sampleDigest samplePayload, 1⟩]
      deliveries := [sampleDelivery] }
    recorded := [⟨"recovery:1", "event", samplePayload, [("s", 1)]⟩]
    delivered := [sampleDelivery] }

def sampleClaimed : NotificationState :=
  { sampleRecorded with
    tables := { sampleRecorded.tables with deliveries := [sampleDelivery.claimed "token" 1002] }
    clock := 2
    grants := [⟨"s", "token", 2, 1002⟩] }

def sampleSettled : NotificationState :=
  { sampleClaimed with
    tables := { sampleClaimed.tables with
      deliveries := [(sampleDelivery.claimed "token" 1002).complete .accepted none 3] }
    clock := 3
    settled := ["token"] }

def sampleMaintained : NotificationState :=
  { sampleSettled with
    tables := { sampleSettled.tables with events := [], deliveries := [] }
    clock := 604800003 }

theorem sampleFresh : FreshEvent sampleRegistered "event" id where
  event _ hrecording := absurd hrecording List.not_mem_nil
  distinct := Function.injective_id
  delivery _ hdelivery := absurd hdelivery List.not_mem_nil

theorem sampleRegistered_step :
    NotificationStep sampleDigest .empty (.register "key" sampleSubscription true)
      sampleRegistered := by
  have hseen : NotificationState.empty.observe 1 sampleRegistered.store = sampleRegistered := rfl
  rw [← hseen]
  exact @NotificationStep.register sampleDigest 1 "s" .empty "key" sampleSubscription true _
    (.subscription ⟨"s", true, 1, 1, 1⟩) (by decide) nofun rfl

theorem sampleRecorded_step :
    NotificationStep sampleDigest sampleRegistered
      (.recordEvent ⟨"recovery:1", samplePayload⟩ ⟨"event", 1⟩) sampleRecorded := by
  have hseen : sampleRegistered.observe 1 ⟨sampleRecorded.tables, sampleRegistered.invocations⟩ =
      sampleRecorded := rfl
  rw [← hseen]
  exact @NotificationStep.recordEvent sampleDigest 1 sampleRegistered "event" id _ ⟨"event", 1⟩ _
    (by decide) sampleFresh rfl

theorem sampleClaimed_step :
    NotificationStep sampleDigest sampleRecorded (.claim 1000) sampleClaimed := by
  have hseen : { sampleRecorded.observe 2 ⟨sampleClaimed.tables, sampleRecorded.invocations⟩ with
      grants := [⟨"s", "token", 2, 1002⟩] } = sampleClaimed := rfl
  rw [← hseen]
  exact @NotificationStep.claim sampleDigest 2 "token" sampleRecorded 1000 _
    (some sampleDeliveryClaim)
    (by decide) nofun rfl

theorem sampleSettled_step :
    NotificationStep sampleDigest sampleClaimed
      (.settle sampleDeliveryClaim .accepted) sampleSettled := by
  have hseen : { sampleClaimed.observe 3 ⟨sampleSettled.tables, sampleClaimed.invocations⟩ with
      settled := ["token"] } = sampleSettled := rfl
  rw [← hseen]
  exact @NotificationStep.settle sampleDigest 3 (some .accepted) _ sampleClaimed sampleDeliveryClaim
    .accepted (by decide) (by decide +kernel)

theorem sampleMaintained_step :
    NotificationStep sampleDigest sampleSettled (.maintain 100) sampleMaintained := by
  have hseen : sampleSettled.observe 604800003
      ⟨sampleMaintained.tables, sampleSettled.invocations⟩ = sampleMaintained := rfl
  rw [← hseen]
  exact @NotificationStep.maintain sampleDigest 604800003 sampleSettled 100 _ (by decide)
    rfl

/-- The event is known although its rows are gone, and was for the subscription active then. -/
theorem sampleNotification_accounted :
    sampleMaintained.tables.recordEvent sampleDigest "other" id 604800003
        ⟨"recovery:1", samplePayload⟩ = .ok (⟨"event", 1⟩, sampleMaintained.tables) ∧
      DeliveryAccounts sampleDigest sampleMaintained ∧
      ∃ recording ∈ sampleMaintained.recorded, recording.summary = ⟨"event", 1⟩ ∧
        recording.recipients = [("s", 1)] := by
  have hafter : Run (NotificationStep sampleDigest) sampleRecorded [.claim 1000,
      .settle sampleDeliveryClaim .accepted, .maintain 100] sampleMaintained :=
    .cons sampleClaimed_step (.cons sampleSettled_step (.single sampleMaintained_step))
  have hrun : Run (NotificationStep sampleDigest) .empty sampleOperations sampleMaintained :=
    .cons sampleRegistered_step (.cons sampleRecorded_step hafter)
  have hdigest : ∀ recording ∈ sampleMaintained.recorded, ∀ other,
      sampleDigest other = sampleDigest recording.payload → other = recording.payload := by
    intro recording hrecording other hsame
    cases List.mem_singleton.1 hrecording
    by_contra hother
    have hempty : sampleDigest other = "" := if_neg hother
    have hsample : sampleDigest samplePayload ≠ "" := by
      rw [sampleDigest, if_pos rfl]
      simp
    exact hsample (hsame.symm.trans hempty)
  obtain ⟨haccounts, hreported, -⟩ := notificationDeliveries_accounted hrun hdigest
  obtain ⟨recording, hrecording, hreports, -, hfirst⟩ :=
    hreported _ _ _ _ _ _ (.single sampleRegistered_step) sampleRecorded_step hafter rfl
  have hnone : ∀ earlier ∈ [NotificationOperation.register "key" sampleSubscription true], ∀ other,
      earlier.event = some other → other.sourceEventId ≠ "recovery:1" := by
    intro earlier hearlier other hevent
    cases List.mem_singleton.1 hearlier
    cases hevent
  refine ⟨?_, haccounts, recording, hrecording, hreports.2.symm, (hfirst hnone).1⟩
  rw [haccounts.replay _ List.mem_cons_self _ _ _ _ rfl]
  rfl

end RipDvd
