import RipDvd.Notifications
import RipDvd.Transition

namespace RipDvd
set_option autoImplicit true

/-- A source event as it was first recorded, with the subscriptions active then. -/
structure EventRecording where
  sourceEventId : String
  eventId : String
  payload : NotificationPayload
  recipients : List (String × Nat)
  deriving DecidableEq

/-- What is returned for the source event of a recording. -/
def EventRecording.summary (recording : EventRecording) : RecordedEvent :=
  ⟨recording.eventId, recording.recipients.length⟩

/-- The input that a recording was made of. -/
def EventRecording.input (recording : EventRecording) : NotificationEventInput :=
  ⟨recording.sourceEventId, recording.payload⟩

/-- A lease that a claim was given. -/
structure LeaseGrant where
  deliveryId : String
  token : String
  grantedAt : Nat
  leaseUntil : Nat
  deriving DecidableEq

/-- The tables and the mutations, with what was ever seen of them: the events recorded, the rows of
the deliveries when they appeared, the leases granted and the tokens that settled. -/
structure NotificationState where
  tables : NotificationTables
  invocations : List NotificationInvocation
  clock : Nat
  recorded : List EventRecording
  delivered : List NotificationDelivery
  grants : List LeaseGrant
  settled : List String
  deriving DecidableEq

def NotificationState.empty : NotificationState := ⟨⟨[], [], [], []⟩, [], 0, [], [], [], []⟩

abbrev NotificationState.store (s : NotificationState) : NotificationStore :=
  ⟨s.tables, s.invocations⟩

/-- The active subscriptions, with their generations. -/
def NotificationTables.eligible (tables : NotificationTables) : List (String × Nat) :=
  (tables.subscriptions.filter (·.active)).map fun row => (row.id, row.generation)

/-- The state once the store has been written: what is new in it is seen. -/
def NotificationState.observe (s : NotificationState) (now : Nat) (store : NotificationStore) :
    NotificationState :=
  { s with
    tables := store.tables
    invocations := store.invocations
    clock := now
    recorded := s.recorded ++ (store.tables.events.filter
      (·.id ∉ s.tables.events.map (·.id))).map fun event => {
        sourceEventId := event.sourceEventId
        eventId := event.id
        payload := event.payload
        recipients := s.tables.eligible }
    delivered := s.delivered ++
      store.tables.deliveries.filter (·.id ∉ s.tables.deliveries.map (·.id)) }

/-- Ids that no event and no delivery has ever had. -/
structure FreshEvent (s : NotificationState) (eventId : String) (deliveryId : String → String) :
    Prop where
  event : ∀ recording ∈ s.recorded, recording.eventId ≠ eventId
  distinct : Function.Injective deliveryId
  delivery : ∀ delivery ∈ s.delivered, ∀ subscriptionId, delivery.id ≠ deliveryId subscriptionId

/-- The operations, those that report a source event with what they return. -/
inductive NotificationOperation where
  | recordEvent (input : NotificationEventInput) (recorded : RecordedEvent)
  | submitTest (key : String) (event : NotificationEventInput) (outcome : NotificationOutcome)
  | register (key : String) (subscription : NotificationSubscriptionInput) (enable : Bool)
  | disable (key subscriptionId : String)
  | claim (leaseMs : Nat)
  | isDispatchable (claim : NotificationDeliveryClaim)
  | settle (claim : NotificationDeliveryClaim) (result : NotificationDeliveryResult)
  | maintain (limit : Nat)

/-- The source event that an operation reports. -/
def NotificationOperation.event : NotificationOperation → Option NotificationEventInput
  | .recordEvent input _ | .submitTest _ input _ => some input
  | _ => none

/-- The operation reports the source event of a recording, with its facts, and is answered by it. A
test that was submitted when the destination was another is still the same test. -/
def NotificationOperation.Reports (recording : EventRecording) : NotificationOperation → Prop
  | .recordEvent input recorded => input = recording.input ∧ recorded = recording.summary
  | .submitTest _ event outcome =>
    (event = recording.input ∨ isLegacyTestReplay (.test recording.input) (.test event)) ∧
      outcome = .recorded recording.summary
  | _ => False

/-- One committed operation, of any caller or dispatcher, no earlier than the one before. -/
inductive NotificationStep (payloadDigest : NotificationPayload → String) :
    NotificationState → NotificationOperation → NotificationState → Prop
  | recordEvent (hclock : s.clock ≤ now) (hfresh : FreshEvent s eventId deliveryId)
      (h : s.tables.recordEvent payloadDigest eventId deliveryId now input =
        .ok (recorded, tables)) :
      NotificationStep payloadDigest s (.recordEvent input recorded)
        (s.observe now ⟨tables, s.invocations⟩)
  | submitTest (hclock : s.clock ≤ now) (hfresh : FreshEvent s eventId deliveryId)
      (h : s.store.submitTest now key payloadDigest eventId deliveryId event =
        .ok (outcome, store)) :
      NotificationStep payloadDigest s (.submitTest key event outcome) (s.observe now store)
  | register (hclock : s.clock ≤ now) (hfresh : ∀ row ∈ s.tables.subscriptions, row.id ≠ newId)
      (h : s.store.register now key newId subscription enable = .ok (outcome, store)) :
      NotificationStep payloadDigest s (.register key subscription enable) (s.observe now store)
  | disable (hclock : s.clock ≤ now)
      (h : s.store.disable now key subscriptionId = .ok (outcome, store)) :
      NotificationStep payloadDigest s (.disable key subscriptionId) (s.observe now store)
  | claim (hclock : s.clock ≤ now) (hfresh : ∀ grant ∈ s.grants, grant.token ≠ token)
      (h : s.tables.claim token now leaseMs = .ok (claim, tables)) :
      NotificationStep payloadDigest s (.claim leaseMs)
        { s.observe now ⟨tables, s.invocations⟩ with
          grants := s.grants ++ claim.toList.map fun claim =>
            ⟨claim.id, token, now, now + leaseMs⟩ }
  | isDispatchable (hclock : s.clock ≤ now) :
      NotificationStep payloadDigest s (.isDispatchable claim) (s.observe now s.store)
  | settle (hclock : s.clock ≤ now) (h : s.tables.settle claim result now = (status, tables)) :
      NotificationStep payloadDigest s (.settle claim result)
        { s.observe now ⟨tables, s.invocations⟩ with
          settled := s.settled ++ status.toList.map fun _ => claim.token }
  | maintain (hclock : s.clock ≤ now)
      (h : s.tables.maintain payloadDigest now limit = .ok tables) :
      NotificationStep payloadDigest s (.maintain limit) (s.observe now ⟨tables, s.invocations⟩)

end RipDvd
