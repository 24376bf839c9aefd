import RipDvd.Transition
import Mathlib.Logic.Function.Basic
import Mathlib.Data.List.Basic

namespace RipDvd
set_option autoImplicit true

/-- An entry of the queue of an archive's image. -/
structure Ticket where
  id : String
  preview : Bool
  waiting : Bool
  urgent : Bool
  deriving DecidableEq

/-- Ordinary tickets that register behind such an entry have to wait. -/
def Ticket.blocks (ticket : Ticket) : Bool := ticket.preview || ticket.waiting

/-- Why the queue is edited: to enter the archive, to watch for contention, or to leave. -/
inductive QueueEdit where
  | contend
  | watch
  | remove
  deriving DecidableEq

/-- Where `editQueue` has got to, from when it locked the guard. -/
inductive EditStage where
  | locked
  | inspecting (kept rest : List Ticket)
  | edited (queue : List Ticket)
  | written (queue : List Ticket)
  | renamed (localQueue : List Ticket)
  /-- the edit has thrown, and the guard is yet to be unlocked -/
  | failed
  deriving DecidableEq

/-- Where a call of `enterArchiveImageAdmission`, or its `release`, has got to. -/
inductive ContenderPhase where
  | absent
  /-- the ticket file is created and not yet locked -/
  | opened
  | contending
  | editing (edit : QueueEdit) (stage : EditStage)
  | admitted
  | releasing
  | closing (removed : Bool)
  /-- the ticket lock is released, and the ticket file not yet unlinked -/
  | unlocked (removed : Bool)
  | finished
  | crashed
  deriving DecidableEq

structure Contender where
  ticket : Ticket
  registered : Bool
  /-- what `onContention` was last called with -/
  reported : Option (Bool × Bool)
  phase : ContenderPhase

/-- The registration of a ticket, with the entries that it was put behind. -/
structure Registration where
  id : String
  found : List Ticket

/-- The admission directory of an archive, its contenders by ticket, and the registrations so
far. -/
structure AdmissionState where
  guard : Option String
  queue : List Ticket
  ticketFile : String → Bool
  temporary : String → Option (List Ticket)
  contender : String → Contender
  registrations : List Registration

/-- What contenders do, and what happens to them. -/
inductive AdmissionAction where
  | enter (id : String) (preview urgent : Bool)
  | step (id : String)
  | watch (id : String)
  /-- the contender is aborted, or releases its admission -/
  | leave (id : String)
  | crash (id : String)
  deriving DecidableEq

/-- The process of the contender has its ticket file locked. -/
def ContenderPhase.locked : ContenderPhase → Bool
  | .contending => true
  | .editing _ _ => true
  | .admitted => true
  | .releasing => true
  | .closing _ => true
  | _ => false

inductive LockState where
  | held
  | inactive
  | unknown
  deriving DecidableEq

namespace AdmissionState

/-- No contender has come yet. -/
def empty : AdmissionState where
  guard := none
  queue := []
  ticketFile _ := false
  temporary _ := none
  contender id := ⟨⟨id, false, false, false⟩, false, none, .absent⟩
  registrations := []

def setContender (s : AdmissionState) (id : String) (self : Contender) : AdmissionState :=
  { s with contender := Function.update s.contender id self }

def goto (s : AdmissionState) (id : String) (phase : ContenderPhase) : AdmissionState :=
  s.setContender id { s.contender id with phase }

def inspectKernelProcessLock (s : AdmissionState) (id : String) : LockState :=
  if s.ticketFile id = false then .unknown
  else if (s.contender id).phase.locked then .held
  else .inactive

/-- Try to lock the guard, and begin to edit. -/
def lockGuard (s : AdmissionState) (id : String) (edit : QueueEdit) : AdmissionState :=
  match s.guard with
  | none => { s.goto id (.editing edit .locked) with guard := some id }
  | some _ => s

/-- The callback of the edit, on the entries that are live. -/
def applyEdit (s : AdmissionState) (id : String) (edit : QueueEdit) (queue : List Ticket) :
    AdmissionState :=
  let self := s.contender id
  match edit with
  | .contend =>
    if self.registered then s.goto id (.editing edit (.edited queue))
    else
      let ticket := { self.ticket with waiting := queue.any Ticket.blocks }
      s.setContender id { self with
        ticket, registered := true, phase := .editing edit (.edited (queue ++ [ticket])) }
  | .watch => s.goto id (.editing edit (.edited queue))
  | .remove => s.goto id (.editing edit (.edited (queue.eraseP fun entry => entry.id = id)))

/-- A ticket registers when a queue with it is first renamed into place. -/
def recordRegistration (registrations : List Registration) (id : String) (queue : List Ticket) :
    List Registration :=
  if registrations.any fun registration => registration.id = id then registrations
  else registrations ++ [⟨id, queue.filter fun entry => entry.id ≠ id⟩]

/-- What follows an edit that was renamed into place. -/
def conclude (s : AdmissionState) (id : String) (localQueue : List Ticket) :
    QueueEdit → AdmissionState
  | .contend =>
    let ticket := (s.contender id).ticket
    match localQueue.findIdx? fun entry => entry.id = id with
    | none => s.goto id .releasing
    | some index =>
      if index = 0 ∨ ¬ticket.preview ∧ ¬ticket.waiting then s.goto id .admitted
      else s.goto id .contending
  | .watch =>
    let others := localQueue.filter fun entry => entry.id ≠ id
    s.setContender id { s.contender id with
      phase := .admitted, reported := some (others.any Ticket.urgent, 0 < others.length) }
  | .remove => s.goto id (.closing true)

/-- What follows an edit that has thrown. -/
def abandon (s : AdmissionState) (id : String) : QueueEdit → AdmissionState
  | .contend => s.goto id .releasing
  | .watch => s.setContender id { s.contender id with
      phase := .admitted, reported := some (true, true) }
  | .remove => s.goto id (.closing false)

def editQueue (s : AdmissionState) (id : String) (edit : QueueEdit) : EditStage → AdmissionState
  | .locked => s.goto id (.editing edit (.inspecting [] s.queue))
  | .inspecting kept (entry :: rest) =>
    match if entry.id = id then .held else s.inspectKernelProcessLock entry.id with
    | .held => s.goto id (.editing edit (.inspecting (kept ++ [entry]) rest))
    | .inactive => s.goto id (.editing edit (.inspecting kept rest))
    | .unknown => s.goto id (.editing edit .failed)
  | .inspecting kept [] => s.applyEdit id edit kept
  | .edited queue =>
    match s.temporary id with
    | some _ => s.goto id (.editing edit .failed)
    | none => { s.goto id (.editing edit (.written queue)) with
        temporary := Function.update s.temporary id (some queue) }
  | .written queue =>
    match s.temporary id with
    | none => s.goto id (.editing edit .failed)
    | some file => { s.goto id (.editing edit (.renamed queue)) with
        queue := file
        temporary := Function.update s.temporary id none
        registrations := recordRegistration s.registrations id file }
  | .renamed localQueue => { s.conclude id localQueue edit with guard := none }
  | .failed => { s.abandon id edit with guard := none }

/-- The next thing that a contender does by itself. -/
def step (s : AdmissionState) (id : String) : Option AdmissionState :=
  match (s.contender id).phase with
  | .opened => some (s.goto id .contending)
  | .contending => some (s.lockGuard id .contend)
  | .editing edit stage => some (s.editQueue id edit stage)
  | .releasing =>
    if (s.contender id).registered then some (s.lockGuard id .remove)
    else some (s.goto id (.closing true))
  | .closing removed => some (s.goto id (.unlocked removed))
  | .unlocked removed => some { s.goto id .finished with
      ticketFile := if removed then Function.update s.ticketFile id false else s.ticketFile }
  | _ => none

def perform (s : AdmissionState) : AdmissionAction → Option AdmissionState
  | .enter id preview urgent =>
    if (s.contender id).phase = .absent then
      some { s.setContender id ⟨⟨id, preview, false, urgent⟩, false, none, .opened⟩ with
        ticketFile := Function.update s.ticketFile id true }
    else none
  | .step id => s.step id
  | .watch id =>
    if (s.contender id).phase = .admitted ∧ (s.contender id).ticket.preview then
      some (s.lockGuard id .watch)
    else none
  | .leave id =>
    if (s.contender id).phase = .contending ∨ (s.contender id).phase = .admitted then
      some (s.goto id .releasing)
    else none
  | .crash id =>
    match (s.contender id).phase with
    | .absent | .finished | .crashed => none
    | _ => some { s.goto id .crashed with
        guard := if s.guard = some id then none else s.guard }

/-- A contender does something, or something happens to it. -/
def Step (s : AdmissionState) (action : AdmissionAction) (s' : AdmissionState) : Prop :=
  s.perform action = some s'

/-- Carry out actions one after the other. -/
def performAll (s : AdmissionState) : List AdmissionAction → Option AdmissionState
  | [] => some s
  | action :: rest => (s.perform action).bind fun next => next.performAll rest

theorem admissionRun_of_performAll (h : performAll s actions = some s') :
    Run Step s actions s' := by
  induction actions generalizing s with
  | nil =>
    cases h
    exact .nil _
  | cons action rest ih =>
    obtain ⟨next, hperform, hrest⟩ := Option.bind_eq_some_iff.1 h
    exact .cons hperform (ih hrest)

end AdmissionState

end RipDvd
