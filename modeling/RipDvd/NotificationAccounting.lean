import RipDvd.NotificationInvariants

namespace RipDvd
set_option autoImplicit true

structure NotificationInvariant (payloadDigest : NotificationPayload → String)
    (s : NotificationState) : Prop where
  recorded : RecordedEvents payloadDigest s.tables s.recorded s.delivered
  current : CurrentDeliveries s.tables.subscriptions s.tables.deliveries s.delivered
  leased : LeasedDeliveries s.tables.deliveries s.delivered s.grants s.settled s.clock

/-- Nothing is left to be done for a delivery. -/
def Finished (deliveries : List NotificationDelivery) (id : String) : Prop :=
  ∀ row ∈ deliveries, row.id = id → ¬row.Pending

/-- What a later state owes to an earlier one. -/
structure Continued (s s' : NotificationState) : Prop where
  later : Later s.tables.subscriptions s'.tables.subscriptions
  delivered : ∀ delivery ∈ s.delivered, delivery ∈ s'.delivered
  finished : ∀ delivery ∈ s.delivered, Finished s.tables.deliveries delivery.id →
    (∀ row ∈ s'.tables.deliveries, row.id = delivery.id → row ∈ s.tables.deliveries) ∧
      claims s'.grants delivery.id = claims s.grants delivery.id

theorem Continued.refl (s : NotificationState) : Continued s s where
  later := .refl _
  delivered _ hdelivery := hdelivery
  finished _ _ _ := ⟨fun _ hrow _ => hrow, rfl⟩

theorem Continued.trans (h : Continued s s') (h' : Continued s' s'') : Continued s s'' where
  later := h.later.trans h'.later
  delivered delivery hdelivery := h'.delivered delivery (h.delivered delivery hdelivery)
  finished := by
    intro delivery hdelivery hfinished
    obtain ⟨hrows, hclaims⟩ := h.finished delivery hdelivery hfinished
    have hfinished' : Finished s'.tables.deliveries delivery.id :=
      fun row hrow hid => hfinished row (hrows row hrow hid) hid
    obtain ⟨hrows', hclaims'⟩ := h'.finished delivery (h.delivered delivery hdelivery) hfinished'
    exact ⟨fun row hrow hid => hrows row (hrows' row hrow hid) hid, hclaims'.trans hclaims⟩

section Upkeep

variable {payloadDigest : NotificationPayload → String} {s s' : NotificationState}
  {tables tables' : NotificationTables}

/-- Tables after an operation that neither records an event nor leases a delivery. -/
structure Upkeep (s : NotificationState) (tables : NotificationTables) : Prop where
  receipts : tables.receipts = s.tables.receipts
  events : ∀ event ∈ tables.events, event ∈ s.tables.events
  deliveries : Completes s.tables.deliveries tables.deliveries
  current : CurrentDeliveries tables.subscriptions tables.deliveries s.delivered
  later : Later s.tables.subscriptions tables.subscriptions

theorem Upkeep.refl (hs : NotificationInvariant payloadDigest s) : Upkeep s s.tables where
  receipts := rfl
  events _ hevent := hevent
  deliveries := .refl _
  current := hs.current
  later := .refl _

/-- When nothing new is seen. -/
theorem observe_same {store : NotificationStore}
    (hevents : ∀ event ∈ store.tables.events, event.id ∈ s.tables.events.map (·.id))
    (hdeliveries : ∀ row ∈ store.tables.deliveries, row.id ∈ s.tables.deliveries.map (·.id)) :
    s.observe now store =
      { s with tables := store.tables, invocations := store.invocations, clock := now } := by
  have hnoEvents : store.tables.events.filter (·.id ∉ s.tables.events.map (·.id)) = [] := by
    apply List.filter_eq_nil_iff.2
    intro event hevent
    rw [decide_eq_true_eq, not_not]
    exact hevents event hevent
  have hnoDeliveries : store.tables.deliveries.filter
      (·.id ∉ s.tables.deliveries.map (·.id)) = [] := by
    apply List.filter_eq_nil_iff.2
    intro row hrow
    rw [decide_eq_true_eq, not_not]
    exact hdeliveries row hrow
  rw [NotificationState.observe, hnoEvents, hnoDeliveries, List.map_nil, List.append_nil,
    List.append_nil]

theorem Upkeep.observe (h : Upkeep s tables) (now : Nat)
    (invocations : List NotificationInvocation) :
    s.observe now ⟨tables, invocations⟩ = { s with tables, invocations, clock := now } := by
  apply observe_same
  · intro event hevent
    exact List.mem_map_of_mem (h.events event hevent)
  · intro row hrow
    exact h.deliveries.ids.subset (List.mem_map_of_mem hrow)

theorem RecordedEvents.kept (h : RecordedEvents payloadDigest tables recorded delivered)
    (hreceipts : tables'.receipts = tables.receipts)
    (hevents : ∀ event ∈ tables'.events, event ∈ tables.events) :
    RecordedEvents payloadDigest tables' recorded delivered where
  sources := h.sources
  events := h.events
  receipts := hreceipts ▸ h.receipts
  receiptKey := hreceipts ▸ h.receiptKey
  origin := hreceipts ▸ h.origin
  rows event hevent := h.rows event (hevents event hevent)
  recipients := h.recipients
  recipientKey := h.recipientKey
  addressed := h.addressed

theorem Upkeep.invariant (h : Upkeep s tables) (hs : NotificationInvariant payloadDigest s)
    (hclock : s.clock ≤ now) (invocations : List NotificationInvocation) :
    NotificationInvariant payloadDigest { s with tables, invocations, clock := now } where
  recorded := hs.recorded.kept h.receipts h.events
  current := h.current
  leased := (hs.leased.completed h.deliveries).later hclock

theorem Upkeep.continued (h : Upkeep s tables) (invocations : List NotificationInvocation)
    (now : Nat) : Continued s { s with tables, invocations, clock := now } where
  later := h.later
  delivered _ hdelivery := hdelivery
  finished := by
    intro delivery _ hfinished
    refine ⟨?_, rfl⟩
    intro row' hrow' hid
    obtain ⟨row, hrow, rfl | ⟨hpending, -, status, failureCode, completedAt, rfl⟩⟩ :=
      h.deliveries.rows row' hrow'
    · exact hrow
    · exact absurd hpending (hfinished row hrow hid)

end Upkeep

section Operations

variable {payloadDigest : NotificationPayload → String} {s : NotificationState}
  {tables tables' tables'' : NotificationTables} {subscriptions : List NotificationSubscription}
  {deliveries delivered : List NotificationDelivery}

theorem registered_generation (subscription : NotificationSubscriptionInput) (enable : Bool)
    (now : Nat) (existing : NotificationSubscription) :
    existing.generation ≤ (existing.registered subscription enable now).generation ∧
      (existing.active = true → (existing.registered subscription enable now).active = true ∧
        (existing.registered subscription enable now).generation = existing.generation) ∧
      (existing.active = false → (existing.registered subscription enable now).active = true →
        existing.generation < (existing.registered subscription enable now).generation) := by
  simp only [NotificationSubscription.registered]
  refine ⟨Nat.le_add_right _ _, ?_, ?_⟩
  · intro hactive
    simp [hactive]
  · intro hinactive henabled
    rw [if_pos ⟨hinactive, henabled⟩]
    exact Nat.lt_succ_self _

/-- Subscriptions among which every active one stays as it is. -/
theorem CurrentDeliveries.resubscribed {subscriptions' : List NotificationSubscription}
    (h : CurrentDeliveries subscriptions deliveries delivered)
    (hkey : (subscriptions'.map (·.id)).Nodup) (hlater : Later subscriptions subscriptions')
    (hactive : ∀ subscription ∈ subscriptions, subscription.active = true →
      ∃ subscription' ∈ subscriptions', subscription'.id = subscription.id ∧
        subscription'.active = true ∧ subscription'.generation = subscription.generation) :
    CurrentDeliveries subscriptions' deliveries delivered where
  subscriptionKey := hkey
  deliveryKey := h.deliveryKey
  deliveredKey := h.deliveredKey
  origin := h.origin
  generation delivery hdelivery := hlater.generation (h.generation delivery hdelivery)
  current := by
    intro row hrow hpending
    obtain ⟨subscription, hsubscription, hid, his, hgeneration⟩ := h.current row hrow hpending
    obtain ⟨subscription', hsubscription', hid', his', hgeneration'⟩ :=
      hactive subscription hsubscription his
    exact ⟨subscription', hsubscription', hid'.trans hid, his', hgeneration'.trans hgeneration⟩

theorem register_upkeep (hs : NotificationInvariant payloadDigest s)
    (hfresh : ∀ row ∈ s.tables.subscriptions, row.id ≠ newId) :
    Upkeep s (s.tables.register newId now subscription enable).2 := by
  have hkey := hs.current.subscriptionKey
  unfold NotificationTables.register
  split
  · next existing hfind =>
    have hexisting := List.mem_of_find?_eq_some hfind
    obtain ⟨hle, hstays, hgrows⟩ :=
      registered_generation subscription enable now existing
    have hlater : Later s.tables.subscriptions (s.tables.subscriptions.map fun row =>
        if row.id = existing.id then existing.registered subscription enable now else row) := by
      intro row hrow
      refine ⟨_, List.mem_map_of_mem hrow, ?_⟩
      by_cases hid : row.id = existing.id
      · cases List.inj_on_of_nodup_map hkey hrow hexisting hid
        rw [if_pos rfl]
        exact ⟨rfl, hle, hgrows⟩
      · rw [if_neg hid]
        refine ⟨rfl, le_rfl, ?_⟩
        intro hinactive hactive
        rw [hinactive] at hactive
        cases hactive
    refine ⟨rfl, fun _ hevent => hevent, .refl _, hs.current.resubscribed ?_ hlater ?_, hlater⟩
    · have hids : (s.tables.subscriptions.map fun row =>
          if row.id = existing.id then existing.registered subscription enable now else row).map
            (·.id) = s.tables.subscriptions.map (·.id) := by
        rw [List.map_map]
        apply List.map_congr_left
        intro row _
        rw [Function.comp_apply]
        split
        · next hid => exact hid.symm
        · rfl
      rw [hids]
      exact hkey
    · intro row hrow hactive
      refine ⟨_, List.mem_map_of_mem hrow, ?_⟩
      by_cases hid : row.id = existing.id
      · cases List.inj_on_of_nodup_map hkey hrow hexisting hid
        rw [if_pos rfl]
        exact ⟨rfl, hstays hactive⟩
      · rw [if_neg hid]
        exact ⟨rfl, hactive, rfl⟩
  · have hlater (inserted : NotificationSubscription) :
        Later s.tables.subscriptions (s.tables.subscriptions ++ [inserted]) := by
      intro row hrow
      obtain ⟨row', hrow', hsame⟩ := Later.refl _ row hrow
      exact ⟨row', List.mem_append_left _ hrow', hsame⟩
    refine ⟨rfl, fun _ hevent => hevent, .refl _,
      hs.current.resubscribed ?_ (hlater _) ?_, hlater _⟩
    · rw [List.map_append, List.map_singleton]
      apply List.nodup_append.2
      refine ⟨hkey, List.nodup_singleton _, ?_⟩
      intro id hid other hother
      obtain ⟨row, hrow, rfl⟩ := List.mem_map.1 hid
      rw [List.mem_singleton.1 hother]
      exact hfresh row hrow
    · intro row hrow hactive
      exact ⟨row, List.mem_append_left _ hrow, rfl, hactive, rfl⟩

theorem failed_final : NotificationDeliveryStatus.failed.Final := ⟨nofun, nofun⟩

theorem expired_final : NotificationDeliveryStatus.expired.Final := ⟨nofun, nofun⟩

theorem disable_upkeep (hs : NotificationInvariant payloadDigest s)
    (h : s.tables.disable now subscriptionId = .ok (summary, tables)) : Upkeep s tables := by
  unfold NotificationTables.disable at h
  split at h
  · cases h
  · cases h
    have hcompletes : Completes s.tables.deliveries (s.tables.deliveries.map fun delivery =>
        if delivery.subscriptionId = subscriptionId ∧ delivery.Pending then
          delivery.complete .failed (some .subscriptionDisabled) now
        else delivery) := by
      apply Completes.map
      intro row _
      by_cases hchosen : row.subscriptionId = subscriptionId ∧ row.Pending
      · rw [if_pos hchosen]
        exact .inr ⟨hchosen.2, _, _, _, failed_final, rfl⟩
      · exact .inl (if_neg hchosen)
    refine ⟨rfl, fun _ hevent => hevent, hcompletes, ?_, later_deactivated⟩
    apply (hs.current.completed hcompletes).deactivated
    intro row' hrow' hpending subscription _ hid _ hchosen
    obtain ⟨row, hrow, rfl⟩ := List.mem_map.1 hrow'
    by_cases hended : row.subscriptionId = subscriptionId ∧ row.Pending
    · rw [if_pos hended] at hpending
      exact complete_final failed_final hpending
    · rw [if_neg hended] at hpending hid
      exact hended ⟨hid.symm.trans hchosen, hpending⟩

/-- Tables after a part of the maintenance. -/
structure Maintained (tables tables' : NotificationTables) : Prop where
  subscriptions : tables'.subscriptions = tables.subscriptions
  receipts : tables'.receipts = tables.receipts
  events : ∀ event ∈ tables'.events, event ∈ tables.events
  deliveries : Completes tables.deliveries tables'.deliveries

theorem Maintained.refl (tables : NotificationTables) : Maintained tables tables :=
  ⟨rfl, rfl, fun _ hevent => hevent, .refl _⟩

theorem Maintained.trans (h : Maintained tables tables') (h' : Maintained tables' tables'') :
    Maintained tables tables'' where
  subscriptions := h'.subscriptions.trans h.subscriptions
  receipts := h'.receipts.trans h.receipts
  events event hevent := h.events event (h'.events event hevent)
  deliveries := h.deliveries.trans h'.deliveries

/-- The source of every event has a receipt. -/
def Receipted (tables : NotificationTables) : Prop :=
  ∀ event ∈ tables.events, ∃ receipt ∈ tables.receipts, receipt.sourceEventId = event.sourceEventId

theorem Maintained.receipted (h : Maintained tables tables') (hr : Receipted tables) :
    Receipted tables' := by
  intro event hevent
  rw [h.receipts]
  exact hr event (h.events event hevent)

theorem RecordedEvents.receipted (h : RecordedEvents payloadDigest tables recorded delivered) :
    Receipted tables := by
  intro event hevent
  obtain ⟨recording, hrecording, hsource, -⟩ := h.rows event hevent
  exact ⟨_, h.receipts recording hrecording, hsource⟩

/-- Where every event has a receipt, there is none to add. -/
theorem retainReceipt_same (hr : Receipted tables)
    (h : tables.retainReceipt payloadDigest eventId = .ok tables') : tables' = tables := by
  unfold NotificationTables.retainReceipt at h
  split at h
  · cases h
  · next event hfind =>
    obtain ⟨receipt, hreceipt, hsource⟩ := hr event (List.mem_of_find?_eq_some hfind)
    have hany : tables.receipts.any (·.sourceEventId = event.sourceEventId) = true :=
      List.any_eq_true.2 ⟨receipt, hreceipt, decide_eq_true hsource⟩
    rw [if_pos hany] at h
    cases h
    rfl

/-- A loop of maintenance steps. -/
theorem foldlM_maintained
    {step : NotificationTables → α → Except NotificationFault NotificationTables}
    {rows : List α} (hstep : ∀ tables tables', ∀ row ∈ rows, Receipted tables →
      step tables row = .ok tables' → Maintained tables tables')
    (hr : Receipted tables) (h : rows.foldlM step tables = .ok tables') :
    Maintained tables tables' := by
  induction rows generalizing tables with
  | nil =>
    cases h
    exact .refl _
  | cons row rows ih =>
    rw [List.foldlM_cons] at h
    obtain ⟨between, hbetween, h⟩ := bind_ok.1 h
    have hfirst := hstep tables between row List.mem_cons_self hr hbetween
    have hrest := ih (fun _ _ row hrow => hstep _ _ row (List.mem_cons_of_mem _ hrow))
      (hfirst.receipted hr) h
    exact hfirst.trans hrest

theorem mem_limited {order : α → Nat} {rows : List α} (h : row ∈ limited limit order rows) :
    row ∈ rows :=
  mem_sortBy.1 (List.mem_of_mem_take h)

theorem expireStale_maintained (hkey : (tables.deliveries.map (·.id)).Nodup) :
    Maintained tables (tables.expireStale now limit) := by
  refine ⟨rfl, rfl, fun _ hevent => hevent, Completes.map ?_⟩
  intro delivery hdelivery
  split
  · next row hfind =>
    have hid := List.find?_some hfind
    rw [decide_eq_true_eq] at hid
    obtain ⟨hrow, hstale⟩ := List.mem_filter.1 (mem_limited (List.mem_of_find?_eq_some hfind))
    have hstale : Stale now row := of_decide_eq_true hstale
    cases eq_of_id hkey hrow hdelivery hid
    right
    refine ⟨hstale.1, ?_⟩
    unfold NotificationDelivery.expire
    split
    · exact ⟨_, _, _, expired_final, rfl⟩
    · exact ⟨_, _, _, failed_final, rfl⟩
  · exact .inl rfl

theorem deleteDeliveries_maintained (hr : Receipted tables)
    (h : tables.deleteDeliveries payloadDigest now limit = .ok tables') :
    Maintained tables tables' := by
  simp only [NotificationTables.deleteDeliveries, bind_ok, pure_ok] at h
  obtain ⟨between, hbetween, rfl⟩ := h
  have hkept : Maintained tables between := by
    apply foldlM_maintained _ hr hbetween
    intro before after id _ hbefore hafter
    rw [retainReceipt_same hbefore hafter]
    exact .refl _
  apply hkept.trans
  exact ⟨rfl, rfl, fun _ hevent => hevent, .filter _ _⟩

theorem deleteEvents_maintained (hr : Receipted tables)
    (h : tables.deleteEvents payloadDigest now limit = .ok tables') :
      Maintained tables tables' := by
  apply foldlM_maintained _ hr h
  intro before after row _ hbefore hafter
  simp only [bind_ok, pure_ok] at hafter
  obtain ⟨between, hbetween, rfl⟩ := hafter
  rw [retainReceipt_same hbefore hbetween]
  exact ⟨rfl, rfl, fun event hevent => (List.mem_filter.1 hevent).1, .refl _⟩

theorem maintain_upkeep (hs : NotificationInvariant payloadDigest s)
    (h : s.tables.maintain payloadDigest now limit = .ok tables) : Upkeep s tables := by
  unfold NotificationTables.maintain at h
  split at h
  · cases h
  · obtain ⟨between, hbetween, h⟩ := bind_ok.1 h
    have hexpired : Maintained s.tables (s.tables.expireStale now limit) :=
      expireStale_maintained hs.current.deliveryKey
    have hreceipted := hexpired.receipted hs.recorded.receipted
    have hdeleted := deleteDeliveries_maintained hreceipted hbetween
    have hmaintained := (hexpired.trans hdeleted).trans
      (deleteEvents_maintained (hdeleted.receipted hreceipted) h)
    refine ⟨hmaintained.receipts, hmaintained.events, hmaintained.deliveries, ?_, ?_⟩
    · rw [hmaintained.subscriptions]
      exact hs.current.completed hmaintained.deliveries
    · rw [hmaintained.subscriptions]
      exact .refl _

theorem settled_identity (row : NotificationDelivery) (result : NotificationDeliveryResult)
    (now : Nat) : (row.settled result now).id = row.id ∧
      (row.settled result now).identity = row.identity ∧
      (row.settled result now).attemptCount = row.attemptCount ∧
      (row.settled result now).claimToken = none := by
  unfold NotificationDelivery.settled
  split
  · exact ⟨rfl, rfl, rfl, rfl⟩
  · cases result with
    | accepted => exact ⟨rfl, rfl, rfl, rfl⟩
    | failed => exact ⟨rfl, rfl, rfl, rfl⟩
    | retrying =>
      dsimp only
      split
      · exact ⟨rfl, rfl, rfl, rfl⟩
      · exact ⟨rfl, rfl, rfl, rfl⟩

/-- What settling a leased delivery writes before a subscription is given up. -/
def settledTables (row : NotificationDelivery) (result : NotificationDeliveryResult) (now : Nat)
    (tables : NotificationTables) : NotificationTables :=
  { tables with
    deliveries := tables.deliveries.map fun delivery =>
      if delivery.id = row.id then row.settled result now else delivery }

/-- A settlement either changes nothing or is of a delivery leased to its claim. -/
theorem settle_cases (tables : NotificationTables) (claim : NotificationDeliveryClaim)
    (result : NotificationDeliveryResult) (now : Nat) :
    tables.settle claim result now = (none, tables) ∨
      ∃ row ∈ tables.deliveries, row.LeasedTo claim now ∧
        tables.settle claim result now = (some (row.settled result now).status,
          if result = .failed .subscriptionExpired then
            (settledTables row result now tables).deactivate row now
          else settledTables row result now tables) := by
  unfold NotificationTables.settle
  split
  · exact .inl rfl
  · next row hfind =>
    have hleased := List.find?_some hfind
    rw [decide_eq_true_eq] at hleased
    right
    refine ⟨row, List.mem_of_find?_eq_some hfind, hleased, ?_⟩
    rw [← hleased.1]
    rfl

theorem deactivate_upkeep (row : NotificationDelivery) (now : Nat)
    (hs : NotificationInvariant payloadDigest s) : Upkeep s (s.tables.deactivate row now) := by
  have hcompletes : Completes s.tables.deliveries (s.tables.deactivate row now).deliveries := by
    apply Completes.map
    intro delivery _
    by_cases hchosen : delivery.subscriptionId = row.subscriptionId ∧
        delivery.generation = row.generation ∧ delivery.Pending
    · rw [if_pos hchosen]
      exact .inr ⟨hchosen.2.2, _, _, _, failed_final, rfl⟩
    · exact .inl (if_neg hchosen)
  refine ⟨rfl, fun _ hevent => hevent, hcompletes, ?_, later_deactivated⟩
  apply (hs.current.completed hcompletes).deactivated
  intro row' hrow' hpending subscription _ hid hgeneration hchosen
  obtain ⟨delivery, hdelivery, rfl⟩ := List.mem_map.1 hrow'
  by_cases hended : delivery.subscriptionId = row.subscriptionId ∧
      delivery.generation = row.generation ∧ delivery.Pending
  · rw [if_pos hended] at hpending
    exact complete_final failed_final hpending
  · rw [if_neg hended] at hpending hid hgeneration
    exact hended ⟨hid.symm.trans hchosen.1, hgeneration.symm.trans hchosen.2, hpending⟩

/-- The state in which a leased delivery is settled. -/
def NotificationState.settleRow (s : NotificationState) (row : NotificationDelivery)
    (result : NotificationDeliveryResult) (token : String) (now : Nat) : NotificationState :=
  { s with
    tables := settledTables row result now s.tables
    clock := now
    settled := s.settled ++ [token] }

theorem settleRow_invariant {row : NotificationDelivery} (result : NotificationDeliveryResult)
    (hs : NotificationInvariant payloadDigest s) (hclock : s.clock ≤ now)
    (hrow : row ∈ s.tables.deliveries) (hleased : row.LeasedTo claim now) :
    NotificationInvariant payloadDigest (s.settleRow row result claim.token now) := by
  obtain ⟨-, hsame, hattempts, htoken⟩ := settled_identity row result now
  constructor
  case recorded => exact hs.recorded.kept rfl fun _ hevent => hevent
  case current => exact hs.current.written hrow hsame hleased.2.2.1
  case leased =>
    exact (hs.leased.later hclock).redeem hrow hleased.2.2.1 hleased.2.1 hsame hattempts htoken

theorem settleRow_continued {row : NotificationDelivery} (result : NotificationDeliveryResult)
    (token : String) (now : Nat) (hrow : row ∈ s.tables.deliveries)
    (hpending : row.Pending) : Continued s (s.settleRow row result token now) where
  later := .refl _
  delivered _ hdelivery := hdelivery
  finished := by
    intro delivery _ hfinished
    refine ⟨?_, rfl⟩
    intro row' hrow' hid
    obtain ⟨old, hold, rfl⟩ := List.mem_map.1 hrow'
    by_cases hwritten : old.id = row.id
    · rw [if_pos hwritten, (settled_identity row result now).1] at hid
      exact absurd hpending (hfinished row hrow hid)
    · rw [if_neg hwritten]
      exact hold

theorem mem_joined {row : NotificationDelivery × NotificationSubscription × NotificationEvent}
    (h : row ∈ tables.joined) : row.1 ∈ tables.deliveries := by
  obtain ⟨delivery, hdelivery, h⟩ := List.mem_flatMap.1 h
  obtain ⟨subscription, -, h⟩ := List.mem_flatMap.1 h
  obtain ⟨event, -, rfl⟩ := List.mem_map.1 h
  exact hdelivery

/-- A claim either finds nothing or leases a delivery that may be claimed. -/
theorem claim_cases (h : tables.claim token now leaseMs = .ok (claim, tables')) :
    (claim = none ∧ tables' = tables) ∨ ∃ row ∈ tables.deliveries, ∃ subscription leased,
      Claimable now row subscription ∧ claim = some leased ∧ leased.id = row.id ∧
        tables' = { tables with
          deliveries := tables.deliveries.map fun other =>
            if other.id = row.id then row.claimed token (now + leaseMs) else other } := by
  unfold NotificationTables.claim at h
  split at h
  · cases h
  · split at h
    · cases h
      exact .inl ⟨rfl, rfl⟩
    · next row subscription event hfind =>
      cases h
      obtain ⟨hjoined, hclaimable⟩ := List.mem_filter.1 (earliest_mem hfind)
      rw [decide_eq_true_eq] at hclaimable
      exact .inr ⟨row, mem_joined hjoined, subscription, _, hclaimable, rfl, rfl, rfl⟩

/-- The state in which a delivery is claimed. -/
def NotificationState.claimRow (s : NotificationState) (row : NotificationDelivery)
    (token : String) (now leaseMs : Nat) : NotificationState :=
  { s with
    tables := { s.tables with
      deliveries := s.tables.deliveries.map fun other =>
        if other.id = row.id then row.claimed token (now + leaseMs) else other }
    clock := now
    grants := s.grants ++ [⟨row.id, token, now, now + leaseMs⟩] }

theorem claimRow_invariant {row : NotificationDelivery} {subscription : NotificationSubscription}
    (hs : NotificationInvariant payloadDigest s) (hclock : s.clock ≤ now)
    (hrow : row ∈ s.tables.deliveries) (hclaimable : Claimable now row subscription)
    (hfresh : ∀ grant ∈ s.grants, grant.token ≠ token) :
    NotificationInvariant payloadDigest (s.claimRow row token now leaseMs) := by
  obtain ⟨hpending, -, -, hlive, hattempts, -, hunleased⟩ := hclaimable
  constructor
  case recorded => exact hs.recorded.kept rfl fun _ hevent => hevent
  case current => exact hs.current.written hrow rfl hpending
  case leased =>
    exact (hs.leased.later hclock).claimed hrow hpending (hs.current.origin row hrow) hlive
      hunleased hattempts hfresh rfl rfl ⟨rfl, rfl⟩ rfl

theorem claimRow_continued {row : NotificationDelivery} (hrow : row ∈ s.tables.deliveries)
    (hpending : row.Pending) : Continued s (s.claimRow row token now leaseMs) where
  later := .refl _
  delivered _ hdelivery := hdelivery
  finished := by
    intro delivery _ hfinished
    have hother : row.id ≠ delivery.id := fun hid => hfinished row hrow hid hpending
    constructor
    · intro row' hrow' hid
      obtain ⟨old, hold, rfl⟩ := List.mem_map.1 hrow'
      by_cases hwritten : old.id = row.id
      · rw [if_pos hwritten] at hid
        exact absurd hid hother
      · rw [if_neg hwritten]
        exact hold
    · rw [NotificationState.claimRow, claims_append, claims_single, if_neg hother, Nat.add_zero]

/-- What is new in a list with other keys at its end. -/
theorem filter_new [DecidableEq κ] {key : α → κ} {old added : List α}
    (hfresh : ∀ a ∈ added, key a ∉ old.map key) :
    (old ++ added).filter (fun a => decide (key a ∉ old.map key)) = added := by
  have hold : old.filter (fun a => decide (key a ∉ old.map key)) = [] := by
    apply List.filter_eq_nil_iff.2
    intro a ha
    rw [decide_eq_true_eq, not_not]
    exact List.mem_map_of_mem ha
  have hadded : added.filter (fun a => decide (key a ∉ old.map key)) = added := by
    apply List.filter_eq_self.2
    intro a ha
    exact decide_eq_true (hfresh a ha)
  rw [List.filter_append, hold, hadded, List.nil_append]

/-- The deliveries that an event is recorded with. -/
def addedDeliveries (eventId : String) (deliveryId : String → String) (timestamp : Nat)
    (subscriptions : List NotificationSubscription) : List NotificationDelivery :=
  (subscriptions.filter (·.active)).map fun recipient => {
    id := deliveryId recipient.id
    eventId
    subscriptionId := recipient.id
    generation := recipient.generation
    status := .queued
    createdAt := timestamp }

theorem addedDeliveries_added (eventId : String) (timestamp : Nat)
    (hkey : (subscriptions.map (·.id)).Nodup)
    (hdistinct : Function.Injective deliveryId)
    (hfresh : ∀ delivery ∈ delivered, ∀ subscriptionId, delivery.id ≠ deliveryId subscriptionId) :
    AddedDeliveries subscriptions delivered
      (addedDeliveries eventId deliveryId timestamp subscriptions) := by
  constructor
  case key =>
    have hids : (addedDeliveries eventId deliveryId timestamp subscriptions).map (·.id) =
        ((subscriptions.filter (·.active)).map (·.id)).map deliveryId := by
      rw [addedDeliveries, List.map_map, List.map_map]
      rfl
    rw [hids]
    apply List.Nodup.map hdistinct
    exact (List.filter_sublist.map _).nodup hkey
  case fresh =>
    intro row hrow delivery hdelivery
    obtain ⟨recipient, -, rfl⟩ := List.mem_map.1 hrow
    exact hfresh delivery hdelivery recipient.id
  case unclaimed =>
    intro row hrow
    obtain ⟨recipient, -, rfl⟩ := List.mem_map.1 hrow
    exact ⟨rfl, rfl⟩
  case current =>
    intro row hrow
    obtain ⟨recipient, hrecipient, rfl⟩ := List.mem_map.1 hrow
    obtain ⟨hmem, hactive⟩ := List.mem_filter.1 hrecipient
    exact ⟨recipient, hmem, rfl, hactive, rfl⟩

/-- The recording of a source event that is not known. -/
def firstRecording (tables : NotificationTables) (eventId : String)
    (input : NotificationEventInput) : EventRecording where
  sourceEventId := input.sourceEventId
  eventId
  payload := input.payload
  recipients := tables.eligible

/-- The tables with a source event that was not known. -/
def firstTables (payloadDigest : NotificationPayload → String) (eventId : String)
    (deliveryId : String → String) (now : Nat) (input : NotificationEventInput)
    (tables : NotificationTables) : NotificationTables :=
  { tables with
    events := tables.events ++ [⟨eventId, input.sourceEventId, input.payload, now⟩]
    receipts := tables.receipts ++ [(firstRecording tables eventId input).receipt payloadDigest]
    deliveries := tables.deliveries ++
      addedDeliveries eventId deliveryId now tables.subscriptions }

theorem eligible_length (tables : NotificationTables) :
    tables.eligible.length = (tables.subscriptions.filter (·.active)).length :=
  List.length_map _

/-- A source event either is known or is recorded for the first time, and is answered by its
recording. -/
theorem recordEvent_cases (hr : RecordedEvents payloadDigest tables known delivered)
    (h : tables.recordEvent payloadDigest eventId deliveryId now input = .ok (recorded, tables')) :
    (tables' = tables ∧ ∃ recording ∈ known, recording.sourceEventId = input.sourceEventId ∧
      payloadDigest recording.payload = payloadDigest input.payload ∧
        recorded = recording.summary) ∨
    (∀ receipt ∈ tables.receipts, receipt.sourceEventId ≠ input.sourceEventId) ∧
      tables' = firstTables payloadDigest eventId deliveryId now input tables ∧
        recorded = (firstRecording tables eventId input).summary := by
  unfold NotificationTables.recordEvent at h
  split at h
  · next receipt hfind =>
    have hsource := List.find?_some hfind
    rw [decide_eq_true_eq] at hsource
    obtain ⟨recording, hrecording, rfl⟩ := hr.origin receipt (List.mem_of_find?_eq_some hfind)
    split at h
    · cases h
    · next hdigest =>
      cases h
      exact .inl ⟨rfl, recording, hrecording, hsource, not_not.1 hdigest, rfl⟩
  · next hfind =>
    have hunknown : ∀ receipt ∈ tables.receipts, receipt.sourceEventId ≠ input.sourceEventId :=
      fun receipt hreceipt hsource =>
        List.find?_eq_none.1 hfind receipt hreceipt (decide_eq_true hsource)
    split at h
    · next event hevent =>
      have hsource := List.find?_some hevent
      rw [decide_eq_true_eq] at hsource
      obtain ⟨recording, hrecording, hsame, -⟩ := hr.rows event (List.mem_of_find?_eq_some hevent)
      exact absurd (hsame.trans hsource) (hunknown _ (hr.receipts recording hrecording))
    · cases h
      refine .inr ⟨hunknown, ?_⟩
      rw [firstTables, EventRecording.receipt, EventRecording.summary, firstRecording,
        eligible_length]
      exact ⟨rfl, rfl⟩

theorem firstTables_observe (hs : NotificationInvariant payloadDigest s)
    (hfresh : FreshEvent s eventId deliveryId) (invocations : List NotificationInvocation) :
    s.observe now ⟨firstTables payloadDigest eventId deliveryId now input s.tables, invocations⟩ =
      { s with
        tables := firstTables payloadDigest eventId deliveryId now input s.tables
        invocations
        clock := now
        recorded := s.recorded ++ [firstRecording s.tables eventId input]
        delivered := s.delivered ++
          addedDeliveries eventId deliveryId now s.tables.subscriptions } := by
  have hadded := addedDeliveries_added eventId now hs.current.subscriptionKey
    hfresh.distinct hfresh.delivery
  have hevents : (firstTables payloadDigest eventId deliveryId now input s.tables).events.filter
      (·.id ∉ s.tables.events.map (·.id)) =
        [⟨eventId, input.sourceEventId, input.payload, now⟩] := by
    apply filter_new
    intro event hevent hmem
    rw [List.mem_singleton.1 hevent] at hmem
    obtain ⟨old, hold, hid⟩ := List.mem_map.1 hmem
    obtain ⟨recording, hrecording, -, hrow⟩ := hs.recorded.rows old hold
    exact hfresh.event recording hrecording (hrow.trans hid)
  have hdeliveries : (firstTables payloadDigest eventId deliveryId now input
      s.tables).deliveries.filter (·.id ∉ s.tables.deliveries.map (·.id)) =
        addedDeliveries eventId deliveryId now s.tables.subscriptions := by
    apply filter_new
    intro row hrow hmem
    obtain ⟨old, hold, hid⟩ := List.mem_map.1 hmem
    obtain ⟨delivery, hdelivery, hidentity⟩ := hs.current.origin old hold
    exact hadded.fresh row hrow delivery hdelivery ((congrArg Prod.fst hidentity).trans hid)
  rw [NotificationState.observe, hevents, hdeliveries]
  rfl

theorem firstTables_invariant (hs : NotificationInvariant payloadDigest s)
    (hclock : s.clock ≤ now) (hfresh : FreshEvent s eventId deliveryId)
    (hsource : ∀ receipt ∈ s.tables.receipts, receipt.sourceEventId ≠ input.sourceEventId)
    (invocations : List NotificationInvocation) :
    NotificationInvariant payloadDigest (s.observe now
      ⟨firstTables payloadDigest eventId deliveryId now input s.tables, invocations⟩) := by
  have hadded := addedDeliveries_added eventId now hs.current.subscriptionKey
    hfresh.distinct hfresh.delivery
  rw [firstTables_observe hs hfresh]
  constructor
  case recorded =>
    apply hs.recorded.added hsource hfresh.event ⟨rfl, rfl⟩
    · intro row hrow
      obtain ⟨recipient, -, rfl⟩ := List.mem_map.1 hrow
      rfl
    · rw [addedDeliveries, List.map_map]
      rfl
    · have hids : (firstRecording s.tables eventId input).recipients.map Prod.fst =
          (s.tables.subscriptions.filter (·.active)).map (·.id) := List.map_map
      rw [hids]
      exact (List.filter_sublist.map _).nodup hs.current.subscriptionKey
  case current => exact hs.current.added hadded
  case leased => exact (hs.leased.later hclock).added hadded

theorem firstTables_continued (hs : NotificationInvariant payloadDigest s)
    (hfresh : FreshEvent s eventId deliveryId) (invocations : List NotificationInvocation) :
    Continued s (s.observe now
      ⟨firstTables payloadDigest eventId deliveryId now input s.tables, invocations⟩) := by
  have hadded := addedDeliveries_added eventId now hs.current.subscriptionKey
    hfresh.distinct hfresh.delivery
  rw [firstTables_observe hs hfresh]
  constructor
  case later => exact .refl _
  case delivered =>
    intro delivery hdelivery
    exact List.mem_append_left _ hdelivery
  case finished =>
    intro delivery hdelivery _
    refine ⟨?_, rfl⟩
    intro row hrow hid
    rcases List.mem_append.1 hrow with hrow | hrow
    · exact hrow
    · exact absurd hid.symm (hadded.fresh row hrow delivery hdelivery)

end Operations

section Steps

variable {payloadDigest : NotificationPayload → String} {s s' : NotificationState}

/-- A mutation either is a replay of an earlier one or writes. -/
theorem mutation_cases {store store' : NotificationStore}
    (h : store.mutation key input write = .ok (outcome, store')) :
    (store' = store ∧ ∃ previous ∈ store.invocations, previous.outcome = outcome ∧
      (previous.semanticInput = input ∨ isLegacyTestReplay previous.semanticInput input = true)) ∨
    ∃ tables, write store.tables = .ok (outcome, tables) ∧
      store' = ⟨tables, store.invocations ++ [⟨key, input, outcome⟩]⟩ := by
  unfold NotificationStore.mutation at h
  split at h
  · next previous hfind =>
    split at h
    · next hreplay =>
      cases h
      exact .inl ⟨rfl, previous, List.mem_of_find?_eq_some hfind, rfl, hreplay⟩
    · cases h
  · obtain ⟨⟨_, tables⟩, hwrite, h⟩ := bind_ok.1 h
    cases h
    exact .inr ⟨tables, hwrite, rfl⟩

/-- An operation that only keeps the tables up. -/
theorem Upkeep.step {store : NotificationStore} (h : Upkeep s store.tables)
    (hs : NotificationInvariant payloadDigest s) (hclock : s.clock ≤ now) :
    NotificationInvariant payloadDigest (s.observe now store) ∧
      Continued s (s.observe now store) := by
  have hsame := h.observe now store.invocations
  constructor
  · exact hsame ▸ h.invariant hs hclock store.invocations
  · exact hsame ▸ h.continued store.invocations now

theorem recordEvent_step {store : NotificationStore} (hs : NotificationInvariant payloadDigest s)
    (hclock : s.clock ≤ now) (hfresh : FreshEvent s eventId deliveryId)
    (h : s.tables.recordEvent payloadDigest eventId deliveryId now input =
      .ok (recorded, store.tables)) :
    NotificationInvariant payloadDigest (s.observe now store) ∧
      Continued s (s.observe now store) := by
  obtain ⟨tables, invocations⟩ := store
  rcases recordEvent_cases hs.recorded h with ⟨rfl, -⟩ | ⟨hsource, rfl, -⟩
  · exact (Upkeep.refl hs).step hs hclock
  · exact ⟨firstTables_invariant hs hclock hfresh hsource invocations,
      firstTables_continued hs hfresh invocations⟩

theorem unchanged_step (store : NotificationStore) (hs : NotificationInvariant payloadDigest s)
    (hclock : s.clock ≤ now) (hsame : store.tables = s.tables) :
    NotificationInvariant payloadDigest (s.observe now store) ∧
      Continued s (s.observe now store) := by
  have h : Upkeep s store.tables := by
    rw [hsame]
    exact .refl hs
  exact h.step hs hclock

theorem settle_step {tables : NotificationTables} (hs : NotificationInvariant payloadDigest s)
    (hclock : s.clock ≤ now) (h : s.tables.settle claim result now = (status, tables)) :
    let s' := { s.observe now ⟨tables, s.invocations⟩ with
      settled := s.settled ++ status.toList.map fun _ => claim.token }
    NotificationInvariant payloadDigest s' ∧ Continued s s' := by
  dsimp only
  rcases settle_cases s.tables claim result now with hnone | ⟨row, hrow, hleased, hsettle⟩
  · rw [hnone] at h
    cases h
    rw [Option.toList_none, List.map_nil, List.append_nil]
    exact unchanged_step s.store hs hclock rfl
  · rw [hsettle] at h
    obtain ⟨hid, -⟩ := settled_identity row result now
    have hids := written_ids hid s.tables.deliveries
    have hinvariant := settleRow_invariant result hs hclock hrow hleased
    have hcontinued := settleRow_continued result claim.token now hrow hleased.2.2.1
    by_cases hexpired : result = .failed .subscriptionExpired
    · rw [if_pos hexpired] at h
      cases h
      have hupkeep := deactivate_upkeep row now hinvariant
      rw [observe_same (fun _ hevent => List.mem_map_of_mem hevent) fun other hother =>
        hids ▸ hupkeep.deliveries.ids.subset (List.mem_map_of_mem hother)]
      exact ⟨hupkeep.invariant hinvariant le_rfl s.invocations,
        hcontinued.trans (hupkeep.continued s.invocations now)⟩
    · rw [if_neg hexpired] at h
      cases h
      rw [observe_same (fun _ hevent => List.mem_map_of_mem hevent) fun other hother =>
        hids ▸ List.mem_map_of_mem hother]
      exact ⟨hinvariant, hcontinued⟩

theorem claim_step {tables : NotificationTables} (hs : NotificationInvariant payloadDigest s)
    (hclock : s.clock ≤ now) (hfresh : ∀ grant ∈ s.grants, grant.token ≠ token)
    (h : s.tables.claim token now leaseMs = .ok (claim, tables)) :
    let s' := { s.observe now ⟨tables, s.invocations⟩ with
      grants := s.grants ++ claim.toList.map fun claim => ⟨claim.id, token, now, now + leaseMs⟩ }
    NotificationInvariant payloadDigest s' ∧ Continued s s' := by
  dsimp only
  rcases claim_cases h with ⟨rfl, rfl⟩ |
    ⟨row, hrow, subscription, leased, hclaimable, rfl, hid, rfl⟩
  · rw [Option.toList_none, List.map_nil, List.append_nil]
    exact unchanged_step s.store hs hclock rfl
  · have hsame : (row.claimed token (now + leaseMs)).id = row.id := rfl
    have hids := written_ids hsame s.tables.deliveries
    rw [observe_same (fun _ hevent => List.mem_map_of_mem hevent) fun other hother =>
      hids ▸ List.mem_map_of_mem hother, Option.toList_some, List.map_singleton, hid]
    exact ⟨claimRow_invariant hs hclock hrow hclaimable hfresh,
      claimRow_continued hrow hclaimable.1⟩

/-- Every step keeps the invariant, and goes on with what was there. -/
theorem NotificationStep.kept (hs : NotificationInvariant payloadDigest s)
    (h : NotificationStep payloadDigest s operation s') :
    NotificationInvariant payloadDigest s' ∧ Continued s s' := by
  cases h with
  | recordEvent hclock hfresh h => exact recordEvent_step hs hclock hfresh h
  | submitTest hclock hfresh h =>
    rcases mutation_cases h with ⟨rfl, -⟩ | ⟨tables, hwrite, rfl⟩
    · exact unchanged_step _ hs hclock rfl
    · obtain ⟨⟨recorded, tables⟩, hrecord, h⟩ := bind_ok.1 hwrite
      cases h
      exact recordEvent_step hs hclock hfresh hrecord
  | register hclock hfresh h =>
    rcases mutation_cases h with ⟨rfl, -⟩ | ⟨tables, hwrite, rfl⟩
    · exact unchanged_step _ hs hclock rfl
    · cases hwrite
      exact (register_upkeep hs hfresh).step hs hclock
  | disable hclock h =>
    rcases mutation_cases h with ⟨rfl, -⟩ | ⟨tables, hwrite, rfl⟩
    · exact unchanged_step _ hs hclock rfl
    · obtain ⟨⟨summary, tables⟩, hdisable, h⟩ := bind_ok.1 hwrite
      cases h
      exact (disable_upkeep hs hdisable).step hs hclock
  | claim hclock hfresh h => exact claim_step hs hclock hfresh h
  | isDispatchable hclock => exact (Upkeep.refl hs).step hs hclock
  | settle hclock h => exact settle_step hs hclock h
  | maintain hclock h => exact (maintain_upkeep hs h).step hs hclock

end Steps

end RipDvd
