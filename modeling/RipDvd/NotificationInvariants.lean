import RipDvd.NotificationRuns

namespace RipDvd
set_option autoImplicit true

/-- What never changes about a delivery. -/
abbrev NotificationDelivery.identity (delivery : NotificationDelivery) :
    String × String × String × Nat × Nat :=
  (delivery.id, delivery.eventId, delivery.subscriptionId, delivery.generation, delivery.createdAt)

/-- The status ends a delivery. -/
def NotificationDeliveryStatus.Final (status : NotificationDeliveryStatus) : Prop :=
  status ≠ .queued ∧ status ≠ .retrying

theorem complete_final {delivery : NotificationDelivery} (h : status.Final) :
    ¬(delivery.complete status failureCode completedAt).Pending := by
  rintro (hqueued | hretrying)
  · exact h.1 hqueued
  · exact h.2 hretrying

/-- Some pending deliveries are completed, others deleted. -/
structure Completes (deliveries deliveries' : List NotificationDelivery) : Prop where
  ids : (deliveries'.map (·.id)).Sublist (deliveries.map (·.id))
  rows : ∀ row' ∈ deliveries', ∃ row ∈ deliveries, row' = row ∨
    row.Pending ∧ ¬row'.Pending ∧ ∃ status failureCode completedAt,
      row' = row.complete status failureCode completedAt

section Completes

variable {deliveries deliveries' deliveries'' : List NotificationDelivery}
  {row row' : NotificationDelivery}

theorem Completes.refl (deliveries : List NotificationDelivery) :
    Completes deliveries deliveries where
  ids := List.Sublist.refl _
  rows row hrow := ⟨row, hrow, .inl rfl⟩

theorem Completes.trans (h : Completes deliveries deliveries')
    (h' : Completes deliveries' deliveries'') : Completes deliveries deliveries'' where
  ids := h'.ids.trans h.ids
  rows := by
    intro row'' hrow''
    obtain ⟨row', hrow', rfl | ⟨hpending, hfinal, hcomplete⟩⟩ := h'.rows row'' hrow''
    · exact h.rows row'' hrow'
    · obtain ⟨row, hrow, rfl | ⟨-, hended, -⟩⟩ := h.rows row' hrow'
      · exact ⟨row', hrow, .inr ⟨hpending, hfinal, hcomplete⟩⟩
      · exact absurd hpending hended

theorem Completes.filter (keep : NotificationDelivery → Bool)
    (deliveries : List NotificationDelivery) : Completes deliveries (deliveries.filter keep) where
  ids := List.filter_sublist.map _
  rows row hrow := ⟨row, (List.mem_filter.1 hrow).1, .inl rfl⟩

/-- A rewriting of rows that completes pending ones. -/
theorem Completes.map {f : NotificationDelivery → NotificationDelivery}
    (h : ∀ row ∈ deliveries, f row = row ∨ row.Pending ∧ ∃ status failureCode completedAt,
      status.Final ∧ f row = row.complete status failureCode completedAt) :
    Completes deliveries (deliveries.map f) where
  ids := by
    have hids : (deliveries.map f).map (·.id) = deliveries.map (·.id) := by
      rw [List.map_map]
      apply List.map_congr_left
      intro row hrow
      rcases h row hrow with hsame | ⟨-, status, failureCode, completedAt, -, hcomplete⟩
      · exact congrArg NotificationDelivery.id hsame
      · rw [Function.comp_apply, hcomplete]
        rfl
    rw [hids]
  rows := by
    intro row' hrow'
    obtain ⟨row, hrow, rfl⟩ := List.mem_map.1 hrow'
    refine ⟨row, hrow, ?_⟩
    rcases h row hrow with hsame | ⟨hpending, status, failureCode, completedAt, hfinal, hcomplete⟩
    · exact .inl hsame
    · right
      rw [hcomplete]
      exact ⟨hpending, complete_final hfinal, status, failureCode, completedAt, rfl⟩

/-- The row that a row comes from. -/
theorem Completes.origin (h : Completes deliveries deliveries') (hrow' : row' ∈ deliveries') :
    ∃ row ∈ deliveries, row.identity = row'.identity ∧ row.attemptCount = row'.attemptCount ∧
      (row'.Pending → row' = row) ∧ (∀ token ∈ row'.claimToken, row' = row) := by
  obtain ⟨row, hrow, rfl | ⟨-, hfinal, status, failureCode, completedAt, rfl⟩⟩ := h.rows row' hrow'
  · exact ⟨row', hrow, rfl, rfl, fun _ => rfl, fun _ _ => rfl⟩
  · exact ⟨row, hrow, rfl, rfl, fun hpending => absurd hpending hfinal, nofun⟩

/-- A row that was complete stays as it is while it is there. -/
theorem Completes.complete (h : Completes deliveries deliveries')
    (hkey : (deliveries.map (·.id)).Nodup) (hrow : row ∈ deliveries) (hcomplete : ¬row.Pending)
    (hrow' : row' ∈ deliveries') (hid : row'.id = row.id) : row' = row := by
  obtain ⟨old, hold, rfl | ⟨hpending, -, status, failureCode, completedAt, rfl⟩⟩ :=
    h.rows row' hrow'
  · exact List.inj_on_of_nodup_map hkey hold hrow hid
  · cases List.inj_on_of_nodup_map hkey hold hrow hid
    exact absurd hpending hcomplete

end Completes

/-- The receipt of a recording. -/
def EventRecording.receipt (payloadDigest : NotificationPayload → String)
    (recording : EventRecording) : NotificationEventReceipt where
  sourceEventId := recording.sourceEventId
  eventId := recording.eventId
  payloadDigest := payloadDigest recording.payload
  recipientCount := recording.recipients.length

/-- The recordings are kept by their receipts, and were delivered to their recipients. -/
structure RecordedEvents (payloadDigest : NotificationPayload → String)
    (tables : NotificationTables) (recorded : List EventRecording)
    (delivered : List NotificationDelivery) : Prop where
  sources : (recorded.map (·.sourceEventId)).Nodup
  events : (recorded.map (·.eventId)).Nodup
  receipts : ∀ recording ∈ recorded, recording.receipt payloadDigest ∈ tables.receipts
  receiptKey : (tables.receipts.map (·.sourceEventId)).Nodup
  origin : ∀ receipt ∈ tables.receipts, ∃ recording ∈ recorded,
    recording.receipt payloadDigest = receipt
  rows : ∀ event ∈ tables.events, ∃ recording ∈ recorded,
    recording.sourceEventId = event.sourceEventId ∧ recording.eventId = event.id
  recipients : ∀ recording ∈ recorded,
    ((delivered.filter (·.eventId = recording.eventId)).map fun delivery =>
      (delivery.subscriptionId, delivery.generation)) = recording.recipients
  recipientKey : ∀ recording ∈ recorded, (recording.recipients.map Prod.fst).Nodup
  addressed : ∀ delivery ∈ delivered, ∃ recording ∈ recorded, recording.eventId = delivery.eventId

/-- Every pending delivery is for the current generation of an active subscription. -/
structure CurrentDeliveries (subscriptions : List NotificationSubscription)
    (deliveries delivered : List NotificationDelivery) : Prop where
  subscriptionKey : (subscriptions.map (·.id)).Nodup
  deliveryKey : (deliveries.map (·.id)).Nodup
  deliveredKey : (delivered.map (·.id)).Nodup
  origin : ∀ row ∈ deliveries, ∃ delivery ∈ delivered, delivery.identity = row.identity
  generation : ∀ delivery ∈ delivered, ∃ subscription ∈ subscriptions,
    subscription.id = delivery.subscriptionId ∧ delivery.generation ≤ subscription.generation
  current : ∀ row ∈ deliveries, row.Pending → ∃ subscription ∈ subscriptions,
    subscription.id = row.subscriptionId ∧ subscription.active = true ∧
      subscription.generation = row.generation

/-- How often a delivery has been claimed. -/
def claims (grants : List LeaseGrant) (deliveryId : String) : Nat :=
  (grants.filter (·.deliveryId = deliveryId)).length

/-- The delivery is leased under the grant. -/
def LeaseGrant.Holds (grant : LeaseGrant) (row : NotificationDelivery) : Prop :=
  row.claimToken = some grant.token ∧ row.leaseUntil = some grant.leaseUntil

/-- Every lease was granted, within the limits; and a grant holds its delivery until it ends. -/
structure LeasedDeliveries (deliveries delivered : List NotificationDelivery)
    (grants : List LeaseGrant) (settled : List String) (clock : Nat) : Prop where
  attempts : ∀ row ∈ deliveries, claims grants row.id = row.attemptCount
  limit : ∀ id, claims grants id ≤ NOTIFICATION_MAX_ATTEMPTS
  granted : ∀ grant ∈ grants, ∃ delivery ∈ delivered, delivery.id = grant.deliveryId ∧
    grant.grantedAt < delivery.expiresAt
  tokens : (grants.map (·.token)).Nodup
  redeemed : ∀ token ∈ settled, ∃ grant ∈ grants, grant.token = token
  lease : ∀ row ∈ deliveries, ∀ token ∈ row.claimToken, token ∉ settled ∧
    ∃ grant ∈ grants, grant.deliveryId = row.id ∧ grant.Holds row ∧ grant.token = token
  leased : ∀ grant ∈ grants, grant.leaseUntil ≤ clock ∨ grant.token ∈ settled ∨
    ∀ row ∈ deliveries, row.id = grant.deliveryId → row.Pending → grant.Holds row

section Kept

variable {payloadDigest : NotificationPayload → String} {tables tables' : NotificationTables}
  {recorded : List EventRecording} {subscriptions subscriptions' : List NotificationSubscription}
  {deliveries deliveries' delivered : List NotificationDelivery} {grants : List LeaseGrant}
  {settled : List String}

theorem CurrentDeliveries.completed (h : CurrentDeliveries subscriptions deliveries delivered)
    (hc : Completes deliveries deliveries') :
    CurrentDeliveries subscriptions deliveries' delivered where
  subscriptionKey := h.subscriptionKey
  deliveryKey := hc.ids.nodup h.deliveryKey
  deliveredKey := h.deliveredKey
  origin := by
    intro row' hrow'
    obtain ⟨row, hrow, hsame, -⟩ := hc.origin hrow'
    obtain ⟨delivery, hdelivery, hidentity⟩ := h.origin row hrow
    exact ⟨delivery, hdelivery, hidentity.trans hsame⟩
  generation := h.generation
  current := by
    intro row' hrow' hpending
    obtain ⟨row, hrow, -, -, hsame, -⟩ := hc.origin hrow'
    cases hsame hpending
    exact h.current row' hrow hpending

theorem LeasedDeliveries.completed (h : LeasedDeliveries deliveries delivered grants settled clock)
    (hc : Completes deliveries deliveries') :
    LeasedDeliveries deliveries' delivered grants settled clock where
  attempts := by
    intro row' hrow'
    obtain ⟨row, hrow, hsame, hattempts, -⟩ := hc.origin hrow'
    have hid : row.id = row'.id := congrArg Prod.fst hsame
    rw [← hid, ← hattempts]
    exact h.attempts row hrow
  limit := h.limit
  granted := h.granted
  tokens := h.tokens
  redeemed := h.redeemed
  lease := by
    intro row' hrow' token htoken
    obtain ⟨row, hrow, -, -, -, hsame⟩ := hc.origin hrow'
    cases hsame token htoken
    exact h.lease row' hrow token htoken
  leased := by
    intro grant hgrant
    apply (h.leased grant hgrant).imp_right
    apply Or.imp_right
    intro hholds row' hrow' hid hpending
    obtain ⟨row, hrow, -, -, hsame, -⟩ := hc.origin hrow'
    cases hsame hpending
    exact hholds row' hrow hid hpending

theorem LeasedDeliveries.later (h : LeasedDeliveries deliveries delivered grants settled clock)
    (hclock : clock ≤ now) : LeasedDeliveries deliveries delivered grants settled now where
  attempts := h.attempts
  limit := h.limit
  granted := h.granted
  tokens := h.tokens
  redeemed := h.redeemed
  lease := h.lease
  leased grant hgrant := (h.leased grant hgrant).imp_left fun hexpired => hexpired.trans hclock

/-- Generations only grow, and grow when a subscription is active again. -/
def Later (subscriptions subscriptions' : List NotificationSubscription) : Prop :=
  ∀ subscription ∈ subscriptions, ∃ subscription' ∈ subscriptions',
    subscription'.id = subscription.id ∧ subscription.generation ≤ subscription'.generation ∧
      (subscription.active = false → subscription'.active = true →
        subscription.generation < subscription'.generation)

theorem Later.refl (subscriptions : List NotificationSubscription) :
    Later subscriptions subscriptions := by
  intro subscription hsubscription
  refine ⟨subscription, hsubscription, rfl, le_rfl, ?_⟩
  intro hinactive hactive
  rw [hinactive] at hactive
  cases hactive

theorem Later.trans {subscriptions'' : List NotificationSubscription}
    (h : Later subscriptions subscriptions') (h' : Later subscriptions' subscriptions'') :
    Later subscriptions subscriptions'' := by
  intro first hfirst
  obtain ⟨second, hsecond, hid, hle, hgrows⟩ := h first hfirst
  obtain ⟨third, hthird, hid', hle', hgrows'⟩ := h' second hsecond
  refine ⟨third, hthird, hid'.trans hid, hle.trans hle', ?_⟩
  intro hinactive hactive
  by_cases hmiddle : second.active = true
  · exact (hgrows hinactive hmiddle).trans_le hle'
  · exact hle.trans_lt (hgrows' (Bool.eq_false_of_not_eq_true hmiddle) hactive)

theorem Later.generation {delivery : NotificationDelivery}
    (h : Later subscriptions subscriptions')
    (hold : ∃ subscription ∈ subscriptions, subscription.id = delivery.subscriptionId ∧
      delivery.generation ≤ subscription.generation) :
    ∃ subscription ∈ subscriptions', subscription.id = delivery.subscriptionId ∧
      delivery.generation ≤ subscription.generation := by
  obtain ⟨subscription, hsubscription, hid, hle⟩ := hold
  obtain ⟨subscription', hsubscription', hid', hle', -⟩ := h subscription hsubscription
  exact ⟨subscription', hsubscription', hid'.trans hid, hle.trans hle'⟩

/-- Subscriptions that no pending delivery is for may be deactivated. -/
def deactivated (timestamp : Nat) (chosen : NotificationSubscription → Prop) [DecidablePred chosen]
    (subscriptions : List NotificationSubscription) : List NotificationSubscription :=
  subscriptions.map fun subscription =>
    if chosen subscription then { subscription with active := false, updatedAt := timestamp }
    else subscription

section Deactivated

variable {chosen : NotificationSubscription → Prop} [DecidablePred chosen]

theorem later_deactivated : Later subscriptions (deactivated timestamp chosen subscriptions) := by
  intro subscription hsubscription
  refine ⟨_, List.mem_map_of_mem hsubscription, ?_⟩
  by_cases hchosen : chosen subscription
  · rw [if_pos hchosen]
    exact ⟨rfl, le_rfl, nofun⟩
  · rw [if_neg hchosen]
    refine ⟨rfl, le_rfl, ?_⟩
    intro hinactive hactive
    rw [hinactive] at hactive
    cases hactive

theorem deactivated_ids :
    (deactivated timestamp chosen subscriptions).map (·.id) = subscriptions.map (·.id) := by
  rw [deactivated, List.map_map]
  apply List.map_congr_left
  intro subscription _
  rw [Function.comp_apply]
  split <;> rfl

theorem CurrentDeliveries.deactivated (h : CurrentDeliveries subscriptions deliveries delivered)
    (hidle : ∀ row ∈ deliveries, row.Pending → ∀ subscription ∈ subscriptions,
      subscription.id = row.subscriptionId → subscription.generation = row.generation →
        ¬chosen subscription) :
    CurrentDeliveries (deactivated timestamp chosen subscriptions) deliveries delivered where
  subscriptionKey := by
    rw [deactivated_ids]
    exact h.subscriptionKey
  deliveryKey := h.deliveryKey
  deliveredKey := h.deliveredKey
  origin := h.origin
  generation delivery hdelivery := later_deactivated.generation (h.generation delivery hdelivery)
  current := by
    intro row hrow hpending
    obtain ⟨subscription, hsubscription, hid, hactive, hgeneration⟩ := h.current row hrow hpending
    have hkept := hidle row hrow hpending subscription hsubscription hid hgeneration
    refine ⟨subscription, List.mem_map.2 ⟨subscription, hsubscription, if_neg hkept⟩, ?_⟩
    exact ⟨hid, hactive, hgeneration⟩

end Deactivated

/-- Rewriting one delivery shows no new one. -/
theorem written_ids {old new : NotificationDelivery} (hid : new.id = old.id)
    (deliveries : List NotificationDelivery) :
    (deliveries.map fun row => if row.id = old.id then new else row).map (·.id) =
      deliveries.map (·.id) := by
  rw [List.map_map]
  apply List.map_congr_left
  intro row _
  rw [Function.comp_apply]
  split
  · next hrow => exact hid.trans hrow.symm
  · rfl

/-- One row is written, and keeps its identity. -/
theorem CurrentDeliveries.written {old new : NotificationDelivery}
    (h : CurrentDeliveries subscriptions deliveries delivered) (hold : old ∈ deliveries)
    (hsame : new.identity = old.identity) (hpending : old.Pending) :
    CurrentDeliveries subscriptions
      (deliveries.map fun row => if row.id = old.id then new else row) delivered where
  subscriptionKey := h.subscriptionKey
  deliveryKey := by
    have hid : new.id = old.id := congrArg Prod.fst hsame
    rw [written_ids hid]
    exact h.deliveryKey
  deliveredKey := h.deliveredKey
  origin := by
    intro row' hrow'
    obtain ⟨row, hrow, rfl⟩ := List.mem_map.1 hrow'
    by_cases hid : row.id = old.id
    · rw [if_pos hid, hsame]
      exact h.origin old hold
    · rw [if_neg hid]
      exact h.origin row hrow
  generation := h.generation
  current := by
    intro row' hrow' hpending'
    obtain ⟨row, hrow, rfl⟩ := List.mem_map.1 hrow'
    by_cases hid : row.id = old.id
    · rw [if_pos hid]
      have hsubscription : new.subscriptionId = old.subscriptionId :=
        congrArg (fun identity => identity.2.2.1) hsame
      have hgeneration : new.generation = old.generation :=
        congrArg (fun identity => identity.2.2.2.1) hsame
      rw [hsubscription, hgeneration]
      exact h.current old hold hpending
    · rw [if_neg hid] at hpending' ⊢
      exact h.current row hrow hpending'

theorem eq_of_id (hkey : (deliveries.map (·.id)).Nodup) {a b : NotificationDelivery}
    (ha : a ∈ deliveries) (hb : b ∈ deliveries) (hid : a.id = b.id) : a = b :=
  List.inj_on_of_nodup_map hkey ha hb hid

theorem claims_append (grants added : List LeaseGrant) (id : String) :
    claims (grants ++ added) id = claims grants id + claims added id := by
  rw [claims, List.filter_append, List.length_append]
  rfl

theorem claims_single (grant : LeaseGrant) (id : String) :
    claims [grant] id = if grant.deliveryId = id then 1 else 0 := by
  rw [claims, List.filter_singleton]
  by_cases h : grant.deliveryId = id
  · simp [h]
  · simp [h]

/-- A delivery that nobody holds is leased under a new token. -/
theorem LeasedDeliveries.claimed {old new : NotificationDelivery} {grant : LeaseGrant}
    (h : LeasedDeliveries deliveries delivered grants settled now)
    (hold : old ∈ deliveries) (hpending : old.Pending)
    (horigin : ∃ delivery ∈ delivered, delivery.identity = old.identity)
    (hlive : grant.grantedAt < old.expiresAt) (hunleased : old.Unleased now)
    (hattempts : old.attemptCount < NOTIFICATION_MAX_ATTEMPTS)
    (hfresh : ∀ other ∈ grants, other.token ≠ grant.token) (hid : grant.deliveryId = old.id)
    (hsame : new.identity = old.identity) (hnew : grant.Holds new)
    (hcount : new.attemptCount = old.attemptCount + 1) :
    LeasedDeliveries (deliveries.map fun row => if row.id = old.id then new else row) delivered
      (grants ++ [grant]) settled now := by
  have hnewId : new.id = old.id := congrArg Prod.fst hsame
  constructor
  case attempts =>
    intro row' hrow'
    obtain ⟨row, hrow, rfl⟩ := List.mem_map.1 hrow'
    rw [claims_append, claims_single]
    by_cases hsameId : row.id = old.id
    · rw [if_pos hsameId, if_pos (hid.trans hnewId.symm), hnewId, h.attempts old hold, hcount]
    · rw [if_neg hsameId, if_neg fun heq => hsameId (heq.symm.trans hid), Nat.add_zero]
      exact h.attempts row hrow
  case limit =>
    intro id
    rw [claims_append, claims_single]
    by_cases hsameId : grant.deliveryId = id
    · rw [if_pos hsameId, ← hsameId, hid, h.attempts old hold]
      exact hattempts
    · rw [if_neg hsameId]
      exact h.limit id
  case granted =>
    intro other hother
    rcases List.mem_append.1 hother with hother | hother
    · exact h.granted other hother
    · cases List.mem_singleton.1 hother
      obtain ⟨delivery, hdelivery, hidentity⟩ := horigin
      have hcreated : delivery.createdAt = old.createdAt :=
        congrArg (fun identity => identity.2.2.2.2) hidentity
      refine ⟨delivery, hdelivery, (congrArg Prod.fst hidentity).trans hid.symm, ?_⟩
      rw [NotificationDelivery.expiresAt, hcreated]
      exact hlive
  case tokens =>
    rw [List.map_append, List.map_singleton]
    apply List.nodup_append.2
    refine ⟨h.tokens, List.nodup_singleton _, ?_⟩
    intro token htoken other hother
    obtain ⟨holder, hholder, rfl⟩ := List.mem_map.1 htoken
    rw [List.mem_singleton.1 hother]
    exact hfresh holder hholder
  case redeemed =>
    intro token htoken
    obtain ⟨holder, hholder, hsameToken⟩ := h.redeemed token htoken
    exact ⟨holder, List.mem_append_left _ hholder, hsameToken⟩
  case lease =>
    intro row' hrow' token htoken
    obtain ⟨row, hrow, rfl⟩ := List.mem_map.1 hrow'
    by_cases hsameId : row.id = old.id
    · rw [if_pos hsameId] at htoken ⊢
      have hgrant : grant.token = token := Option.some.inj (hnew.1.symm.trans htoken)
      constructor
      · intro hsettled
        obtain ⟨holder, hholder, hsameToken⟩ := h.redeemed token hsettled
        exact hfresh holder hholder (hsameToken.trans hgrant.symm)
      · exact ⟨grant, List.mem_append_right _ List.mem_cons_self, hid.trans hnewId.symm, hnew,
          hgrant⟩
    · rw [if_neg hsameId] at htoken ⊢
      obtain ⟨hunsettled, holder, hholder, hholds⟩ := h.lease row hrow token htoken
      exact ⟨hunsettled, holder, List.mem_append_left _ hholder, hholds⟩
  case leased =>
    intro other hother
    rcases List.mem_append.1 hother with hother | hother
    · rcases h.leased other hother with hexpired | hsettled | hholds
      · exact .inl hexpired
      · exact .inr (.inl hsettled)
      · by_cases hsameId : other.deliveryId = old.id
        · left
          exact hunleased _ (hholds old hold hsameId.symm hpending).2
        · right
          right
          intro row' hrow' hrowId hrowPending
          obtain ⟨row, hrow, rfl⟩ := List.mem_map.1 hrow'
          by_cases hwritten : row.id = old.id
          · rw [if_pos hwritten] at hrowId
            exact absurd (hrowId.symm.trans hnewId) hsameId
          · rw [if_neg hwritten] at hrowId hrowPending ⊢
            exact hholds row hrow hrowId hrowPending
    · cases List.mem_singleton.1 hother
      right
      right
      intro row' hrow' hrowId _
      obtain ⟨row, hrow, rfl⟩ := List.mem_map.1 hrow'
      by_cases hwritten : row.id = old.id
      · rw [if_pos hwritten]
        exact hnew
      · rw [if_neg hwritten] at hrowId
        exact absurd (hrowId.trans hid) hwritten

/-- A settled delivery gives its token up. -/
theorem LeasedDeliveries.redeem {old new : NotificationDelivery}
    (h : LeasedDeliveries deliveries delivered grants settled now) (hold : old ∈ deliveries)
    (hpending : old.Pending) (htoken : old.claimToken = some token)
    (hsame : new.identity = old.identity) (hcount : new.attemptCount = old.attemptCount)
    (hnew : new.claimToken = none) :
    LeasedDeliveries (deliveries.map fun row => if row.id = old.id then new else row) delivered
      grants (settled ++ [token]) now := by
  have hnewId : new.id = old.id := congrArg Prod.fst hsame
  obtain ⟨-, holder, hholder, holdId, -, hholderToken⟩ := h.lease old hold token htoken
  constructor
  case attempts =>
    intro row' hrow'
    obtain ⟨row, hrow, rfl⟩ := List.mem_map.1 hrow'
    by_cases hsameId : row.id = old.id
    · rw [if_pos hsameId, hnewId, hcount]
      exact h.attempts old hold
    · rw [if_neg hsameId]
      exact h.attempts row hrow
  case limit => exact h.limit
  case granted => exact h.granted
  case tokens => exact h.tokens
  case redeemed =>
    intro other hother
    rcases List.mem_append.1 hother with hother | hother
    · exact h.redeemed other hother
    · rw [List.mem_singleton.1 hother]
      exact ⟨holder, hholder, hholderToken⟩
  case lease =>
    intro row' hrow' other hother
    obtain ⟨row, hrow, rfl⟩ := List.mem_map.1 hrow'
    by_cases hsameId : row.id = old.id
    · rw [if_pos hsameId, hnew] at hother
      cases hother
    · rw [if_neg hsameId] at hother ⊢
      obtain ⟨hunsettled, grant, hgrant, hid, hholds, hgrantToken⟩ := h.lease row hrow other hother
      refine ⟨?_, grant, hgrant, hid, hholds, hgrantToken⟩
      intro hsettled
      rcases List.mem_append.1 hsettled with hsettled | hsettled
      · exact hunsettled hsettled
      · have hsameToken : grant.token = holder.token := by
          rw [hgrantToken, hholderToken]
          exact List.mem_singleton.1 hsettled
        cases List.inj_on_of_nodup_map h.tokens hgrant hholder hsameToken
        exact hsameId (hid.symm.trans holdId)
  case leased =>
    intro grant hgrant
    rcases h.leased grant hgrant with hexpired | hsettled | hholds
    · exact .inl hexpired
    · exact .inr (.inl (List.mem_append_left _ hsettled))
    · right
      by_cases hsameId : grant.deliveryId = old.id
      · left
        have hgrantToken := (hholds old hold hsameId.symm hpending).1
        rw [htoken] at hgrantToken
        rw [← Option.some.inj hgrantToken]
        exact List.mem_append_right _ List.mem_cons_self
      · right
        intro row' hrow' hrowId hrowPending
        obtain ⟨row, hrow, rfl⟩ := List.mem_map.1 hrow'
        by_cases hwritten : row.id = old.id
        · rw [if_pos hwritten] at hrowId
          exact absurd (hrowId.symm.trans hnewId) hsameId
        · rw [if_neg hwritten] at hrowId hrowPending ⊢
          exact hholds row hrow hrowId hrowPending

/-- Rows that no delivery has ever had the id of, for active subscriptions. -/
structure AddedDeliveries (subscriptions : List NotificationSubscription)
    (delivered added : List NotificationDelivery) : Prop where
  key : (added.map (·.id)).Nodup
  fresh : ∀ row ∈ added, ∀ delivery ∈ delivered, delivery.id ≠ row.id
  unclaimed : ∀ row ∈ added, row.attemptCount = 0 ∧ row.claimToken = none
  current : ∀ row ∈ added, ∃ subscription ∈ subscriptions, subscription.id = row.subscriptionId ∧
    subscription.active = true ∧ subscription.generation = row.generation

theorem nodup_append_ids {old added : List NotificationDelivery} (hold : (old.map (·.id)).Nodup)
    (hadded : (added.map (·.id)).Nodup) (hfresh : ∀ row ∈ added, ∀ other ∈ old, other.id ≠ row.id) :
    ((old ++ added).map (·.id)).Nodup := by
  rw [List.map_append]
  apply List.nodup_append.2
  refine ⟨hold, hadded, ?_⟩
  intro id hid other hother
  obtain ⟨row, hrow, rfl⟩ := List.mem_map.1 hid
  obtain ⟨row', hrow', rfl⟩ := List.mem_map.1 hother
  exact hfresh row' hrow' row hrow

theorem CurrentDeliveries.added {added : List NotificationDelivery}
    (h : CurrentDeliveries subscriptions deliveries delivered)
    (hadded : AddedDeliveries subscriptions delivered added) :
    CurrentDeliveries subscriptions (deliveries ++ added) (delivered ++ added) where
  subscriptionKey := h.subscriptionKey
  deliveryKey := by
    apply nodup_append_ids h.deliveryKey hadded.key
    intro row hrow other hother hid
    obtain ⟨delivery, hdelivery, hidentity⟩ := h.origin other hother
    exact hadded.fresh row hrow delivery hdelivery ((congrArg Prod.fst hidentity).trans hid)
  deliveredKey := nodup_append_ids h.deliveredKey hadded.key hadded.fresh
  origin := by
    intro row hrow
    rcases List.mem_append.1 hrow with hrow | hrow
    · obtain ⟨delivery, hdelivery, hidentity⟩ := h.origin row hrow
      exact ⟨delivery, List.mem_append_left _ hdelivery, hidentity⟩
    · exact ⟨row, List.mem_append_right _ hrow, rfl⟩
  generation := by
    intro row hrow
    rcases List.mem_append.1 hrow with hrow | hrow
    · exact h.generation row hrow
    · obtain ⟨subscription, hsubscription, hid, -, hgeneration⟩ := hadded.current row hrow
      exact ⟨subscription, hsubscription, hid, hgeneration.ge⟩
  current := by
    intro row hrow hpending
    rcases List.mem_append.1 hrow with hrow | hrow
    · exact h.current row hrow hpending
    · exact hadded.current row hrow

theorem LeasedDeliveries.added {added : List NotificationDelivery}
    (h : LeasedDeliveries deliveries delivered grants settled now)
    (hadded : AddedDeliveries subscriptions delivered added) :
    LeasedDeliveries (deliveries ++ added) (delivered ++ added) grants settled now := by
  have hungranted {row : NotificationDelivery} (hrow : row ∈ added) :
      ∀ grant ∈ grants, grant.deliveryId ≠ row.id := by
    intro grant hgrant hid
    obtain ⟨delivery, hdelivery, hsame, -⟩ := h.granted grant hgrant
    exact hadded.fresh row hrow delivery hdelivery (hsame.trans hid)
  constructor
  case attempts =>
    intro row hrow
    rcases List.mem_append.1 hrow with hrow | hrow
    · exact h.attempts row hrow
    · have hnone : grants.filter (·.deliveryId = row.id) = [] := by
        apply List.filter_eq_nil_iff.2
        intro grant hgrant
        rw [decide_eq_true_eq]
        exact hungranted hrow grant hgrant
      rw [claims, hnone, (hadded.unclaimed row hrow).1]
      rfl
  case limit => exact h.limit
  case granted =>
    intro grant hgrant
    obtain ⟨delivery, hdelivery, hgranted⟩ := h.granted grant hgrant
    exact ⟨delivery, List.mem_append_left _ hdelivery, hgranted⟩
  case tokens => exact h.tokens
  case redeemed => exact h.redeemed
  case lease =>
    intro row hrow token htoken
    rcases List.mem_append.1 hrow with hrow | hrow
    · exact h.lease row hrow token htoken
    · rw [(hadded.unclaimed row hrow).2] at htoken
      cases htoken
  case leased =>
    intro grant hgrant
    apply (h.leased grant hgrant).imp_right
    apply Or.imp_right
    intro hholds row hrow hid hpending
    rcases List.mem_append.1 hrow with hrow | hrow
    · exact hholds row hrow hid hpending
    · exact absurd hid.symm (hungranted hrow grant hgrant)

/-- A first recording is kept by its receipt and delivered to its recipients. -/
theorem RecordedEvents.added {added : List NotificationDelivery} {recording : EventRecording}
    {event : NotificationEvent}
    (h : RecordedEvents payloadDigest tables recorded delivered)
    (hsource : ∀ receipt ∈ tables.receipts, receipt.sourceEventId ≠ recording.sourceEventId)
    (hevent : ∀ other ∈ recorded, other.eventId ≠ recording.eventId)
    (hrow : event.sourceEventId = recording.sourceEventId ∧ event.id = recording.eventId)
    (haddressed : ∀ row ∈ added, row.eventId = recording.eventId)
    (hrecipients : (added.map fun row => (row.subscriptionId, row.generation)) =
      recording.recipients)
    (hkey : (recording.recipients.map Prod.fst).Nodup) :
    RecordedEvents payloadDigest { tables with
      events := tables.events ++ [event]
      receipts := tables.receipts ++ [recording.receipt payloadDigest]
      deliveries := deliveries } (recorded ++ [recording]) (delivered ++ added) := by
  have hlast {β : Type} {f : EventRecording → β} {l : List EventRecording} (hl : (l.map f).Nodup)
      (hne : ∀ other ∈ l, f other ≠ f recording) : ((l ++ [recording]).map f).Nodup := by
    rw [List.map_append, List.map_singleton]
    apply List.nodup_append.2
    refine ⟨hl, List.nodup_singleton _, ?_⟩
    intro a ha b hb
    obtain ⟨other, hother, rfl⟩ := List.mem_map.1 ha
    rw [List.mem_singleton.1 hb]
    exact hne other hother
  constructor
  case sources =>
    apply hlast h.sources
    intro other hother
    exact hsource _ (h.receipts other hother)
  case events => exact hlast h.events hevent
  case receipts =>
    intro other hother
    rcases List.mem_append.1 hother with hother | hother
    · exact List.mem_append_left _ (h.receipts other hother)
    · cases List.mem_singleton.1 hother
      exact List.mem_append_right _ List.mem_cons_self
  case receiptKey =>
    rw [List.map_append, List.map_singleton]
    apply List.nodup_append.2
    refine ⟨h.receiptKey, List.nodup_singleton _, ?_⟩
    intro a ha b hb
    obtain ⟨receipt, hreceipt, rfl⟩ := List.mem_map.1 ha
    rw [List.mem_singleton.1 hb]
    exact hsource receipt hreceipt
  case origin =>
    intro receipt hreceipt
    rcases List.mem_append.1 hreceipt with hreceipt | hreceipt
    · obtain ⟨known, hknown, hsame⟩ := h.origin receipt hreceipt
      exact ⟨known, List.mem_append_left _ hknown, hsame⟩
    · exact ⟨recording, List.mem_append_right _ List.mem_cons_self,
        (List.mem_singleton.1 hreceipt).symm⟩
  case rows =>
    intro other hother
    rcases List.mem_append.1 hother with hother | hother
    · obtain ⟨known, hknown, hsame⟩ := h.rows other hother
      exact ⟨known, List.mem_append_left _ hknown, hsame⟩
    · cases List.mem_singleton.1 hother
      exact ⟨recording, List.mem_append_right _ List.mem_cons_self, hrow.1.symm, hrow.2.symm⟩
  case recipients =>
    intro other hother
    rw [List.filter_append, List.map_append]
    rcases List.mem_append.1 hother with hother | hother
    · have hnone : added.filter (·.eventId = other.eventId) = [] := by
        apply List.filter_eq_nil_iff.2
        intro row hadded
        rw [decide_eq_true_eq, haddressed row hadded]
        exact fun heq => hevent other hother heq.symm
      rw [hnone, List.map_nil, List.append_nil]
      exact h.recipients other hother
    · cases List.mem_singleton.1 hother
      have hnone : delivered.filter (·.eventId = recording.eventId) = [] := by
        apply List.filter_eq_nil_iff.2
        intro delivery hdelivery
        rw [decide_eq_true_eq]
        obtain ⟨known, hknown, hsame⟩ := h.addressed delivery hdelivery
        exact fun heq => hevent known hknown (hsame.trans heq)
      have hall : added.filter (·.eventId = recording.eventId) = added := by
        apply List.filter_eq_self.2
        intro row hadded
        exact decide_eq_true (haddressed row hadded)
      rw [hnone, hall, List.map_nil, List.nil_append]
      exact hrecipients
  case recipientKey =>
    intro other hother
    rcases List.mem_append.1 hother with hother | hother
    · exact h.recipientKey other hother
    · cases List.mem_singleton.1 hother
      exact hkey
  case addressed =>
    intro delivery hdelivery
    rcases List.mem_append.1 hdelivery with hdelivery | hdelivery
    · obtain ⟨known, hknown, hsame⟩ := h.addressed delivery hdelivery
      exact ⟨known, List.mem_append_left _ hknown, hsame⟩
    · exact ⟨recording, List.mem_append_right _ List.mem_cons_self,
        (haddressed delivery hdelivery).symm⟩

end Kept

end RipDvd
