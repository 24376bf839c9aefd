import RipDvd.Collections

namespace RipDvd
set_option autoImplicit true

def NOTIFICATION_LIFETIME_MS : Nat := 24 * 60 * 60 * 1000
def NOTIFICATION_MAX_ATTEMPTS : Nat := 8
def NOTIFICATION_HISTORY_MS : Nat := 7 * 24 * 60 * 60 * 1000

inductive NotificationFault where
  | invariant (message : String)
  | recordNotFound (entity id : String)
  | mutationKeyConflict
  | range (message : String)
  | eventMissing
  deriving DecidableEq

structure NotificationKeys where
  p256dh : String
  auth : String
  deriving DecidableEq

structure NotificationSubscriptionInput where
  endpoint : String
  expirationTime : Option Nat
  keys : NotificationKeys
  deriving DecidableEq

structure NotificationPayload where
  title : String
  label : String
  body : String
  tag : String
  destination : String
  deriving DecidableEq

structure NotificationEventInput where
  sourceEventId : String
  payload : NotificationPayload
  deriving DecidableEq

inductive NotificationDeliveryStatus where
  | queued
  | retrying
  | accepted
  | expired
  | failed
  deriving DecidableEq

inductive NotificationFailureCode where
  | subscriptionDisabled
  | subscriptionExpired
  | senderRejected
  | networkError
  | timeout
  | throttled
  | providerUnavailable
  | attemptLimit
  | messageExpired
  deriving DecidableEq

inductive NotificationDeliveryResult where
  | accepted
  | failed (failureCode : NotificationFailureCode)
  | retrying (failureCode : NotificationFailureCode) (nextAttemptAt : Nat)
  deriving DecidableEq

/-- A row of `notification_subscriptions`. -/
structure NotificationSubscription where
  id : String
  endpoint : String
  subscription : NotificationSubscriptionInput
  active : Bool
  generation : Nat
  createdAt : Nat
  updatedAt : Nat
  deriving DecidableEq

/-- A row of `notification_events`. -/
structure NotificationEvent where
  id : String
  sourceEventId : String
  payload : NotificationPayload
  createdAt : Nat
  deriving DecidableEq

/-- A row of `notification_event_receipts`. -/
structure NotificationEventReceipt where
  sourceEventId : String
  eventId : String
  payloadDigest : String
  recipientCount : Nat
  deriving DecidableEq

/-- A row of `notification_deliveries`. -/
structure NotificationDelivery where
  id : String
  eventId : String
  subscriptionId : String
  generation : Nat
  status : NotificationDeliveryStatus
  failureCode : Option NotificationFailureCode := none
  attemptCount : Nat := 0
  nextAttemptAt : Option Nat := none
  claimToken : Option String := none
  leaseUntil : Option Nat := none
  createdAt : Nat
  completedAt : Option Nat := none
  deriving DecidableEq

structure NotificationTables where
  subscriptions : List NotificationSubscription
  events : List NotificationEvent
  receipts : List NotificationEventReceipt
  deliveries : List NotificationDelivery
  deriving DecidableEq

structure RecordedEvent where
  eventId : String
  recipientCount : Nat
  deriving DecidableEq

structure NotificationSubscriptionSummary where
  id : String
  active : Bool
  generation : Nat
  createdAt : Nat
  updatedAt : Nat
  deriving DecidableEq

structure NotificationDeliveryClaim where
  id : String
  token : String
  subscription : NotificationSubscriptionInput
  payload : NotificationPayload
  attemptCount : Nat
  expiresAt : Nat
  deriving DecidableEq

/-- The statuses of a delivery that is still to be made. -/
def NotificationDelivery.Pending (delivery : NotificationDelivery) : Prop :=
  delivery.status = .queued ∨ delivery.status = .retrying

instance (delivery : NotificationDelivery) : Decidable delivery.Pending :=
  inferInstanceAs (Decidable (_ ∨ _))

/-- The end of a delivery's life. -/
abbrev NotificationDelivery.expiresAt (delivery : NotificationDelivery) : Nat :=
  delivery.createdAt + NOTIFICATION_LIFETIME_MS

/-- Nobody holds a lease on the delivery. -/
def NotificationDelivery.Unleased (delivery : NotificationDelivery) (now : Nat) : Prop :=
  ∀ leaseUntil ∈ delivery.leaseUntil, leaseUntil ≤ now

instance (delivery : NotificationDelivery) (now : Nat) : Decidable (delivery.Unleased now) :=
  inferInstanceAs (Decidable (∀ leaseUntil ∈ delivery.leaseUntil, leaseUntil ≤ now))

/-- The columns that every end of a delivery sets. -/
def NotificationDelivery.complete (status : NotificationDeliveryStatus)
    (failureCode : Option NotificationFailureCode) (completedAt : Nat)
    (delivery : NotificationDelivery) : NotificationDelivery :=
  { delivery with
    status
    failureCode
    completedAt := some completedAt
    nextAttemptAt := none
    claimToken := none
    leaseUntil := none }

def NotificationSubscription.summary (row : NotificationSubscription) :
    NotificationSubscriptionSummary where
  id := row.id
  active := row.active
  generation := row.generation
  createdAt := row.createdAt
  updatedAt := row.updatedAt

/-- `recordEvent`: the recipients are chosen once, when no row knows the source event. -/
def NotificationTables.recordEvent (payloadDigest : NotificationPayload → String)
    (eventId : String) (deliveryId : String → String) (timestamp : Nat)
    (input : NotificationEventInput) (tables : NotificationTables) :
    Except NotificationFault (RecordedEvent × NotificationTables) :=
  match tables.receipts.find? (·.sourceEventId = input.sourceEventId) with
  | some receipt =>
    if receipt.payloadDigest ≠ payloadDigest input.payload then
      .error (.invariant "Notification source event identity has conflicting facts")
    else .ok (⟨receipt.eventId, receipt.recipientCount⟩, tables)
  | none =>
    match tables.events.find? (·.sourceEventId = input.sourceEventId) with
    | some existing =>
      if existing.payload ≠ input.payload then
        .error (.invariant "Notification source event identity has conflicting facts")
      else
        let recipients := tables.deliveries.filter (·.eventId = existing.id)
        .ok (⟨existing.id, recipients.length⟩, tables)
    | none =>
      let recipients := tables.subscriptions.filter (·.active)
      .ok (⟨eventId, recipients.length⟩, { tables with
        events := tables.events ++ [{
          id := eventId
          sourceEventId := input.sourceEventId
          payload := input.payload
          createdAt := timestamp }]
        deliveries := tables.deliveries ++ recipients.map fun recipient => {
          id := deliveryId recipient.id
          eventId
          subscriptionId := recipient.id
          generation := recipient.generation
          status := .queued
          createdAt := timestamp }
        receipts := tables.receipts ++ [{
          sourceEventId := input.sourceEventId
          eventId
          payloadDigest := payloadDigest input.payload
          recipientCount := recipients.length }] })

/-- A subscription that is registered again; it starts a generation when it becomes active. -/
def NotificationSubscription.registered (subscription : NotificationSubscriptionInput)
    (enable : Bool) (timestamp : Nat) (existing : NotificationSubscription) :
    NotificationSubscription :=
  let active := enable || existing.active
  { existing with
    subscription
    active
    generation := existing.generation + (if existing.active = false ∧ active = true then 1 else 0)
    updatedAt := timestamp }

/-- What `register` writes for a new mutation. -/
def NotificationTables.register (newId : String) (timestamp : Nat)
    (subscription : NotificationSubscriptionInput) (enable : Bool) (tables : NotificationTables) :
    NotificationSubscriptionSummary × NotificationTables :=
  match tables.subscriptions.find? (·.endpoint = subscription.endpoint) with
  | some existing =>
    let updated := existing.registered subscription enable timestamp
    (updated.summary, { tables with
      subscriptions := tables.subscriptions.map fun row =>
        if row.id = existing.id then updated else row })
  | none =>
    let inserted := {
      id := newId
      endpoint := subscription.endpoint
      subscription
      active := enable
      generation := 1
      createdAt := timestamp
      updatedAt := timestamp }
    (inserted.summary, { tables with subscriptions := tables.subscriptions ++ [inserted] })

/-- What `disable` writes for a new mutation. -/
def NotificationTables.disable (timestamp : Nat) (subscriptionId : String)
    (tables : NotificationTables) :
    Except NotificationFault (NotificationSubscriptionSummary × NotificationTables) :=
  match tables.subscriptions.find? (·.id = subscriptionId) with
  | none => .error (.recordNotFound "notification subscription" subscriptionId)
  | some row =>
    .ok ({ row with active := false, updatedAt := timestamp }.summary, { tables with
      subscriptions := tables.subscriptions.map fun row =>
        if row.id = subscriptionId then { row with
          active := false, updatedAt := timestamp } else row
      deliveries := tables.deliveries.map fun delivery =>
        if delivery.subscriptionId = subscriptionId ∧ delivery.Pending then
          delivery.complete .failed (some .subscriptionDisabled) timestamp
        else delivery })

/-- A delivery with its subscription and its event. -/
def NotificationTables.joined (tables : NotificationTables) :
    List (NotificationDelivery × NotificationSubscription × NotificationEvent) :=
  tables.deliveries.flatMap fun delivery =>
    (tables.subscriptions.filter (·.id = delivery.subscriptionId)).flatMap fun subscription =>
      (tables.events.filter (·.id = delivery.eventId)).map fun event =>
        (delivery, subscription, event)

def Claimable (now : Nat) (delivery : NotificationDelivery)
    (subscription : NotificationSubscription) : Prop :=
  delivery.Pending ∧ subscription.active = true ∧
    subscription.generation = delivery.generation ∧ now < delivery.expiresAt ∧
    delivery.attemptCount < NOTIFICATION_MAX_ATTEMPTS ∧
    (∀ nextAttemptAt ∈ delivery.nextAttemptAt, nextAttemptAt ≤ now) ∧ delivery.Unleased now

instance (now : Nat) (delivery : NotificationDelivery) (subscription : NotificationSubscription) :
    Decidable (Claimable now delivery subscription) :=
  inferInstanceAs (Decidable (_ ∧ _ ∧ _ ∧ _ ∧ _ ∧
    (∀ nextAttemptAt ∈ delivery.nextAttemptAt, nextAttemptAt ≤ now) ∧ _))

/-- The oldest delivery first. -/
def compareQueued : NotificationDelivery → NotificationDelivery → Ordering :=
  compareLex (compareOn (·.createdAt)) (compareOn (·.id))

/-- A delivery that is leased once more. -/
def NotificationDelivery.claimed (token : String) (leaseUntil : Nat)
    (delivery : NotificationDelivery) : NotificationDelivery :=
  { delivery with
    claimToken := some token
    leaseUntil := some leaseUntil
    attemptCount := delivery.attemptCount + 1 }

def NotificationTables.claim (token : String) (now leaseMs : Nat) (tables : NotificationTables) :
    Except NotificationFault (Option NotificationDeliveryClaim × NotificationTables) :=
  if leaseMs < 1 ∨ 60000 < leaseMs then .error (.range "Invalid notification lease")
  else
    match earliest (fun a b => compareQueued a.1 b.1)
      (tables.joined.filter fun row => Claimable now row.1 row.2.1) with
    | none => .ok (none, tables)
    | some (delivery, subscription, event) =>
      .ok (some {
          id := delivery.id
          token
          subscription := subscription.subscription
          payload := event.payload
          attemptCount := delivery.attemptCount + 1
          expiresAt := delivery.expiresAt },
        { tables with
          deliveries := tables.deliveries.map fun row =>
            if row.id = delivery.id then delivery.claimed token (now + leaseMs) else row })

/-- The claim is the one that the delivery is leased to. -/
def NotificationDelivery.LeasedTo (delivery : NotificationDelivery)
    (claim : NotificationDeliveryClaim) (timestamp : Nat) : Prop :=
  delivery.id = claim.id ∧ delivery.claimToken = some claim.token ∧ delivery.Pending ∧
    ∃ leaseUntil ∈ delivery.leaseUntil, timestamp < leaseUntil

instance (delivery : NotificationDelivery) (claim : NotificationDeliveryClaim) (timestamp : Nat) :
    Decidable (delivery.LeasedTo claim timestamp) :=
  inferInstanceAs (Decidable (_ ∧ _ ∧ _ ∧
    ∃ leaseUntil ∈ delivery.leaseUntil, timestamp < leaseUntil))

def NotificationTables.isDispatchable (claim : NotificationDeliveryClaim) (timestamp : Nat)
    (tables : NotificationTables) : Bool :=
  tables.deliveries.any fun delivery => delivery.LeasedTo claim timestamp ∧
    timestamp < delivery.expiresAt ∧ tables.subscriptions.any fun subscription =>
      delivery.subscriptionId = subscription.id ∧ subscription.active = true ∧
        subscription.generation = delivery.generation

/-- The next attempt that a result asks for. -/
def NotificationDeliveryResult.retryAt : NotificationDeliveryResult → Option Nat
  | .retrying _ nextAttemptAt => some nextAttemptAt
  | _ => none

/-- The row that a result leaves. -/
def NotificationDelivery.settled (result : NotificationDeliveryResult) (timestamp : Nat)
    (row : NotificationDelivery) : NotificationDelivery :=
  if row.expiresAt ≤ timestamp ∨ ∃ nextAttemptAt ∈ result.retryAt,
    row.expiresAt ≤ nextAttemptAt then
    row.complete .expired (some .messageExpired) timestamp
  else match result with
    | .retrying failureCode nextAttemptAt =>
      if NOTIFICATION_MAX_ATTEMPTS ≤ row.attemptCount then
        row.complete .failed (some .attemptLimit) timestamp
      else { row with
        status := .retrying
        failureCode := some failureCode
        nextAttemptAt := some nextAttemptAt
        completedAt := none
        claimToken := none
        leaseUntil := none }
    | .failed failureCode => row.complete .failed (some failureCode) timestamp
    | .accepted => row.complete .accepted none timestamp

/-- The push service knows the subscription no more: the generation that was told so is over. -/
def NotificationTables.deactivate (row : NotificationDelivery) (timestamp : Nat)
    (tables : NotificationTables) : NotificationTables :=
  { tables with
    subscriptions := tables.subscriptions.map fun subscription =>
      if subscription.id = row.subscriptionId ∧ subscription.generation = row.generation then
        { subscription with active := false, updatedAt := timestamp }
      else subscription
    deliveries := tables.deliveries.map fun delivery =>
      if delivery.subscriptionId = row.subscriptionId ∧ delivery.generation = row.generation ∧
          delivery.Pending then
        delivery.complete .failed (some .subscriptionExpired) timestamp
      else delivery }

def NotificationTables.settle (claim : NotificationDeliveryClaim)
    (result : NotificationDeliveryResult) (timestamp : Nat) (tables : NotificationTables) :
    Option NotificationDeliveryStatus × NotificationTables :=
  match tables.deliveries.find? (·.LeasedTo claim timestamp) with
  | none => (none, tables)
  | some row =>
    let settled := row.settled result timestamp
    let written := { tables with
      deliveries := tables.deliveries.map fun delivery =>
        if delivery.id = claim.id then settled else delivery }
    (some settled.status, if result = .failed .subscriptionExpired then
      written.deactivate row timestamp else written)

/-- A delivery that nobody is making and nobody may make any more. -/
def Stale (now : Nat) (delivery : NotificationDelivery) : Prop :=
  delivery.Pending ∧ delivery.Unleased now ∧
    (delivery.expiresAt ≤ now ∨ delivery.attemptCount = NOTIFICATION_MAX_ATTEMPTS)

instance (now : Nat) (delivery : NotificationDelivery) : Decidable (Stale now delivery) :=
  inferInstanceAs (Decidable (_ ∧ _ ∧ _))

/-- The row of a stale delivery afterwards. -/
def NotificationDelivery.expire (now : Nat) (row : NotificationDelivery) : NotificationDelivery :=
  if row.expiresAt ≤ now then row.complete .expired (some .messageExpired) now
  else row.complete .failed (some .attemptLimit) now

/-- Keep the receipt of an event, unless its source event has one. -/
def NotificationTables.retainReceipt (payloadDigest : NotificationPayload → String)
    (tables : NotificationTables) (eventId : String) :
      Except NotificationFault NotificationTables :=
  match tables.events.find? (·.id = eventId) with
  | none => .error .eventMissing
  | some event =>
    if tables.receipts.any (·.sourceEventId = event.sourceEventId) then .ok tables
    else .ok { tables with
      receipts := tables.receipts ++ [{
        sourceEventId := event.sourceEventId
        eventId
        payloadDigest := payloadDigest event.payload
        recipientCount := (tables.deliveries.filter (·.eventId = eventId)).length }] }

/-- The first rows of a query with a limit. -/
def limited (limit : Nat) (order : α → Nat) (rows : List α) : List α :=
  (sortBy (compareOn order) rows).take limit

/-- End the stale deliveries. -/
def NotificationTables.expireStale (now limit : Nat) (tables : NotificationTables) :
    NotificationTables :=
  let expired := limited limit (·.createdAt) (tables.deliveries.filter (Stale now ·))
  { tables with
    deliveries := tables.deliveries.map fun delivery =>
      match expired.find? (·.id = delivery.id) with
      | some row => row.expire now
      | none => delivery }

/-- A row whose time has been over for the whole history. -/
abbrev Historical (now time : Nat) : Prop := time + NOTIFICATION_HISTORY_MS ≤ now

/-- Delete deliveries that have been complete for long. -/
def NotificationTables.deleteDeliveries (payloadDigest : NotificationPayload → String)
    (now limit : Nat) (tables : NotificationTables) :
      Except NotificationFault NotificationTables := do
  let old := limited limit (·.completedAt.getD 0)
    (tables.deliveries.filter fun delivery => ∃ time ∈ delivery.completedAt, Historical now time)
  let tables ← (old.map (·.eventId)).eraseDups.foldlM (·.retainReceipt payloadDigest ·) tables
  return { tables with
    deliveries := tables.deliveries.filter fun delivery => delivery.id ∉ old.map (·.id) }

/-- Delete old events that no delivery is left of. -/
def NotificationTables.deleteEvents (payloadDigest : NotificationPayload → String)
    (now limit : Nat) (tables : NotificationTables) : Except NotificationFault NotificationTables :=
  let empty := limited limit (·.createdAt) (tables.events.filter fun event =>
    Historical now event.createdAt ∧ ¬tables.deliveries.any (·.eventId = event.id))
  empty.foldlM (fun tables row => do
    let tables ← tables.retainReceipt payloadDigest row.id
    return { tables with events := tables.events.filter (·.id ≠ row.id) }) tables

def NotificationTables.maintain (payloadDigest : NotificationPayload → String) (now limit : Nat)
    (tables : NotificationTables) : Except NotificationFault NotificationTables :=
  if limit < 1 ∨ 100 < limit then .error (.range "Invalid notification maintenance limit")
  else do
    let tables ← (tables.expireStale now limit).deleteDeliveries payloadDigest now limit
    tables.deleteEvents payloadDigest now limit

/-- The input of a mutation. -/
inductive NotificationMutation where
  | register (subscription : NotificationSubscriptionInput) (enable : Bool)
  | disable (subscriptionId : String)
  | test (event : NotificationEventInput)
  deriving DecidableEq

inductive NotificationOutcome where
  | subscription (summary : NotificationSubscriptionSummary)
  | recorded (event : RecordedEvent)
  deriving DecidableEq

/-- A row of `mutation_invocations`. -/
structure NotificationInvocation where
  key : String
  semanticInput : NotificationMutation
  outcome : NotificationOutcome
  deriving DecidableEq

/-- Only the Settings destination changed; every other committed test fact must still match. -/
def isLegacyTestReplay : NotificationMutation → NotificationMutation → Bool
  | .test previous, .test current => previous.payload.destination = "/notifications" ∧
      { previous with
        payload := { previous.payload with destination := "/settings#notifications" } } = current
  | _, _ => false

structure NotificationStore where
  tables : NotificationTables
  invocations : List NotificationInvocation
  deriving DecidableEq

/-- A mutation writes once for each key: its replays return the outcome of the first. -/
def NotificationStore.mutation (key : String) (input : NotificationMutation)
    (write : NotificationTables →
      Except NotificationFault (NotificationOutcome × NotificationTables))
    (store : NotificationStore) :
    Except NotificationFault (NotificationOutcome × NotificationStore) :=
  match store.invocations.find? (·.key = key) with
  | some previous =>
    if previous.semanticInput = input ∨ isLegacyTestReplay previous.semanticInput input then
      .ok (previous.outcome, store)
    else .error .mutationKeyConflict
  | none => do
    let (outcome, tables) ← write store.tables
    return (outcome, ⟨tables, store.invocations ++ [⟨key, input, outcome⟩]⟩)

section Mutations

variable (timestamp : Nat) (key : String) (store : NotificationStore)

def NotificationStore.submitTest (payloadDigest : NotificationPayload → String) (eventId : String)
    (deliveryId : String → String) (event : NotificationEventInput) :
    Except NotificationFault (NotificationOutcome × NotificationStore) :=
  store.mutation key (.test event) fun tables => do
    let (recorded, tables) ← tables.recordEvent payloadDigest eventId deliveryId timestamp event
    return (.recorded recorded, tables)

def NotificationStore.register (newId : String) (subscription : NotificationSubscriptionInput)
    (enable : Bool) : Except NotificationFault (NotificationOutcome × NotificationStore) :=
  store.mutation key (.register subscription enable) fun tables =>
    let (summary, tables) := tables.register newId timestamp subscription enable
    .ok (.subscription summary, tables)

def NotificationStore.disable (subscriptionId : String) :
    Except NotificationFault (NotificationOutcome × NotificationStore) :=
  store.mutation key (.disable subscriptionId) fun tables => do
    let (summary, tables) ← tables.disable timestamp subscriptionId
    return (.subscription summary, tables)

end Mutations

end RipDvd
