import RipDvd.AdmissionQueue
import Mathlib.Data.List.Nodup

namespace RipDvd
set_option autoImplicit true

/-- A contender whose ticket has to stay in the queue once it is there. -/
def ContenderPhase.live : ContenderPhase → Bool
  | .editing .remove (.renamed _) => false
  | .closing _ => false
  | phase => phase.locked

/-- The contender has the guard locked. -/
def ContenderPhase.guarding : ContenderPhase → Bool
  | .editing _ _ => true
  | _ => false

/-- The ticket file is there, and nobody else may unlink it. -/
def ContenderPhase.filed : ContenderPhase → Bool
  | .opened => true
  | .unlocked _ => true
  | phase => phase.locked

/-- The edit has yet to write the temporary queue file. -/
def EditStage.early : EditStage → Bool
  | .locked => true
  | .inspecting _ _ => true
  | .edited _ => true
  | _ => false

/-- The contender has no temporary queue file. -/
def ContenderPhase.tidy : ContenderPhase → Bool
  | .editing _ (.written _) => false
  | .crashed => false
  | _ => true

namespace AdmissionState

def Recorded (s : AdmissionState) (id : String) : Prop := ∃ r ∈ s.registrations, r.id = id

def Live (s : AdmissionState) (id : String) : Prop := (s.contender id).phase.live = true

def Crashed (s : AdmissionState) (id : String) : Prop := (s.contender id).phase = .crashed

def Queued (s : AdmissionState) (id : String) : Prop := ∃ entry ∈ s.queue, entry.id = id

/-- The ticket is ordinary and found none to wait for, or it is at the head of the queue. -/
def HasTurn (s : AdmissionState) (id : String) : Prop :=
  (s.contender id).ticket.blocks = false ∨ ∃ entry rest, s.queue = entry :: rest ∧ entry.id = id

/-- Entries of the queue, in its order, with none that is live left out. -/
structure Covers (s : AdmissionState) (entries : List Ticket) : Prop where
  sublist : entries.Sublist s.queue
  live : ∀ entry ∈ s.queue, s.Live entry.id → entry ∈ entries

/-- A queue that the holder of the guard may rename into place. -/
structure Succeeds (s : AdmissionState) (id : String) (edit : QueueEdit) (next : List Ticket) :
    Prop where
  parts : ∃ kept own, next = kept ++ own ∧ kept.Sublist s.queue ∧
    (∀ entry ∈ s.queue, s.Live entry.id → entry.id ≠ id → entry ∈ kept) ∧
    (own = [] ∨ own = [(s.contender id).ticket] ∧ ¬s.Recorded id ∧
      (s.contender id).ticket.waiting = kept.any Ticket.blocks)
  own : edit ≠ .remove → ∃ entry ∈ next, entry.id = id
  gone : edit = .remove → ∀ entry ∈ next, entry.id ≠ id

def Staged (s : AdmissionState) (id : String) (edit : QueueEdit) : EditStage → Prop
  | .locked => (s.contender id).registered = true ↔ s.Recorded id
  | .inspecting kept rest =>
    ((s.contender id).registered = true ↔ s.Recorded id) ∧ s.Covers (kept ++ rest)
  | .edited queue => (s.contender id).registered = true ∧ s.Succeeds id edit queue
  | .written queue => (s.contender id).registered = true ∧ s.Succeeds id edit queue ∧
    s.temporary id = some queue
  | .renamed localQueue => (s.contender id).registered = true ∧ s.Recorded id ∧
    localQueue = s.queue ∧ (edit ≠ .remove → s.Queued id) ∧ (edit = .remove → ¬s.Queued id)
  | .failed => False

/-- What holds of a contender at its phase. -/
def Placed (s : AdmissionState) (id : String) : ContenderPhase → Prop
  | .absent => ¬s.Recorded id
  | .opened => ¬s.Recorded id ∧ (s.contender id).registered = false
  | .contending => (s.contender id).registered = true ↔ s.Recorded id
  | .editing edit stage => (edit ≠ .contend → s.Recorded id) ∧ (edit = .watch → s.HasTurn id) ∧
    s.Staged id edit stage
  | .admitted => (s.contender id).registered = true ∧ s.Recorded id ∧ s.HasTurn id
  | .releasing => (s.contender id).registered = true ↔ s.Recorded id
  | .closing removed => removed = true ∧ ¬s.Queued id
  | .unlocked removed => removed = true ∧ ¬s.Queued id
  | .finished => s.ticketFile id = false ∧ ¬s.Queued id
  | .crashed => True

structure Fits (s : AdmissionState) (id : String) : Prop where
  name : (s.contender id).ticket.id = id
  guard : s.guard = some id ↔ (s.contender id).phase.guarding = true
  file : (s.contender id).phase.filed = true → s.ticketFile id = true
  temporary : (s.contender id).phase.tidy = true → s.temporary id = none
  place : s.Placed id (s.contender id).phase

/-- The invariant of the admission queue. -/
structure Orderly (s : AdmissionState) : Prop where
  fits : ∀ id, s.Fits id
  ticket : ∀ entry ∈ s.queue, entry = (s.contender entry.id).ticket
  filed : ∀ entry ∈ s.queue, s.ticketFile entry.id = true
  accounted : ∀ entry ∈ s.queue, s.Live entry.id ∨ s.Crashed entry.id
  order : s.queue.Pairwise fun earlier later => later.blocks = false → earlier.blocks = false
  recorded : (s.queue.map Ticket.id).Sublist (s.registrations.map Registration.id)
  distinct : (s.registrations.map Registration.id).Nodup
  present : ∀ id, s.Recorded id → s.Live id → s.Queued id
  found : ∀ r ∈ s.registrations, (s.contender r.id).ticket.waiting = r.found.any Ticket.blocks

variable {s s' : AdmissionState} {id x : String}

theorem Orderly.recorded_of_queued (h : s.Orderly) (hq : s.Queued id) : s.Recorded id := by
  obtain ⟨entry, he, rfl⟩ := hq
  obtain ⟨r, hr, hid⟩ := List.mem_map.1 (h.recorded.subset (List.mem_map_of_mem he))
  exact ⟨r, hr, hid⟩

theorem Orderly.nodup (h : s.Orderly) : (s.queue.map Ticket.id).Nodup :=
  h.distinct.sublist h.recorded

theorem Orderly.entry_eq (h : s.Orderly) (ha : a ∈ s.queue) (hb : b ∈ s.queue) (hid : a.id = b.id) :
    a = b := by
  rw [h.ticket a ha, h.ticket b hb, hid]

theorem empty_orderly : empty.Orderly where
  fits id := ⟨rfl, by simp [empty, ContenderPhase.guarding], by
    simp [empty, ContenderPhase.filed, ContenderPhase.locked], fun _ => rfl, by
    simp [empty, Placed, Recorded]⟩
  ticket := by simp [empty]
  filed := by simp [empty]
  accounted := by simp [empty]
  order := by simp [empty]
  recorded := by simp [empty]
  distinct := by simp [empty]
  present := by simp [empty, Recorded]
  found := by simp [empty]

/-- Nobody but this contender changes, and the queue stays. -/
structure Moves (s s' : AdmissionState) (id : String) : Prop where
  queue : s'.queue = s.queue
  registrations : s'.registrations = s.registrations
  contender : ∀ x, x ≠ id → s'.contender x = s.contender x
  temporary : ∀ x, x ≠ id → s'.temporary x = s.temporary x
  ticketFile : ∀ x, x ≠ id → s'.ticketFile x = s.ticketFile x
  guard : ∀ x, x ≠ id → (s'.guard = some x ↔ s.guard = some x)

theorem Moves.recorded (h : Moves s s' id) : s'.Recorded x ↔ s.Recorded x := by
  rw [Recorded, Recorded, h.registrations]

theorem Moves.queued (h : Moves s s' id) : s'.Queued x ↔ s.Queued x := by
  rw [Queued, Queued, h.queue]

theorem Moves.live (h : Moves s s' id) (hx : x ≠ id) : s'.Live x ↔ s.Live x := by
  rw [Live, Live, h.contender x hx]

/-- A contender moves on without entering the queue anew. -/
structure Keeps (s s' : AdmissionState) (id : String) : Prop extends Moves s s' id where
  ticket : s.Recorded id → (s'.contender id).ticket = (s.contender id).ticket
  alive : s.Recorded id → s'.Live id → s.Live id

theorem Keeps.queuedLive (h : Keeps s s' id) (hs : s.Orderly) :
    ∀ entry ∈ s.queue, s'.Live entry.id → s.Live entry.id := by
  intro entry he hlive
  by_cases hid : entry.id = id
  · subst hid
    exact h.alive (hs.recorded_of_queued ⟨entry, he, rfl⟩) hlive
  · exact (h.live hid).1 hlive

theorem Keeps.covers (h : Keeps s s' id) (hs : s.Orderly) (hc : s.Covers entries) :
    s'.Covers entries where
  sublist := h.queue ▸ hc.sublist
  live entry he hlive := by
    rw [h.queue] at he
    exact hc.live entry he (h.queuedLive hs entry he hlive)

theorem Keeps.succeeds (h : Keeps s s' id) (hs : s.Orderly)
    (hx : (s'.contender x).ticket = (s.contender x).ticket) (hn : s.Succeeds x edit next) :
    s'.Succeeds x edit next := by
  obtain ⟨kept, own, hparts, hsub, hlive, hown⟩ := hn.parts
  refine ⟨⟨kept, own, hparts, h.queue ▸ hsub, fun entry he hl hid => ?_, ?_⟩, hn.own, hn.gone⟩
  · rw [h.queue] at he
    exact hlive entry he (h.queuedLive hs entry he hl) hid
  · rw [hx, h.recorded]
    exact hown

theorem HasTurn.congr (ht : s.HasTurn id)
    (hticket : (s'.contender id).ticket = (s.contender id).ticket) (hqueue : s'.queue = s.queue) :
    s'.HasTurn id := by
  rw [HasTurn, hticket, hqueue]
  exact ht

theorem live_of_early (edit : QueueEdit) (h : stage.early = true) :
    (ContenderPhase.editing edit stage).live = true := by
  cases stage with
  | renamed queue => cases h
  | _ => cases edit <;> rfl

theorem Keeps.staged (h : Keeps s s' id) (hs : s.Orderly) (hx : x ≠ id)
    (hstage : s.Staged x edit stage) : s'.Staged x edit stage := by
  have heq := h.contender x hx
  cases stage with
  | locked =>
    rw [Staged, heq, h.recorded]
    exact hstage
  | inspecting kept rest =>
    rw [Staged, heq, h.recorded]
    exact ⟨hstage.1, h.covers hs hstage.2⟩
  | edited queue =>
    rw [Staged, heq]
    exact ⟨hstage.1, h.succeeds hs (congrArg _ heq) hstage.2⟩
  | written queue =>
    rw [Staged, heq, h.temporary x hx]
    exact ⟨hstage.1, h.succeeds hs (congrArg _ heq) hstage.2.1, hstage.2.2⟩
  | renamed localQueue =>
    rw [Staged, heq, h.recorded, h.queued, h.queue]
    exact hstage
  | failed => exact hstage

theorem Keeps.placed (h : Keeps s s' id) (hs : s.Orderly) (hx : x ≠ id)
    (hplace : s.Placed x phase) : s'.Placed x phase := by
  have heq := h.contender x hx
  cases phase with
  | editing edit stage =>
    rw [Placed, h.recorded]
    exact ⟨hplace.1, fun he => (hplace.2.1 he).congr (congrArg _ heq) h.queue,
      h.staged hs hx hplace.2.2⟩
  | admitted =>
    rw [Placed, heq, h.recorded]
    exact ⟨hplace.1, hplace.2.1, hplace.2.2.congr (congrArg _ heq) h.queue⟩
  | _ =>
    simp only [Placed, heq, h.recorded, h.queued, h.ticketFile x hx] at hplace ⊢
    try exact hplace

theorem Keeps.fits (h : Keeps s s' id) (hs : s.Orderly) (hx : x ≠ id) : s'.Fits x := by
  obtain ⟨hname, hguard, hfile, htemporary, hplace⟩ := hs.fits x
  rw [← h.contender x hx] at hname hguard hfile htemporary hplace
  exact ⟨hname, (h.guard x hx).trans hguard, h.ticketFile x hx ▸ hfile,
    h.temporary x hx ▸ htemporary, h.placed hs hx hplace⟩

/-- The invariant is kept by a contender that moves to a place that fits it. -/
theorem Orderly.keeps (hs : s.Orderly) (h : Keeps s s' id) (hfits : s'.Fits id)
    (hqueued : s.Queued id → s'.ticketFile id = true ∧ (s'.Live id ∨ s'.Crashed id)) :
    s'.Orderly := by
  constructor
  case fits =>
    intro x
    by_cases hx : x = id
    · exact hx ▸ hfits
    · exact h.fits hs hx
  case ticket =>
    intro entry he
    rw [h.queue] at he
    by_cases hx : entry.id = id
    · rw [hx, h.ticket (hs.recorded_of_queued ⟨entry, he, hx⟩), ← hx]
      exact hs.ticket entry he
    · rw [h.contender _ hx]
      exact hs.ticket entry he
  case filed =>
    intro entry he
    rw [h.queue] at he
    by_cases hx : entry.id = id
    · exact hx ▸ (hqueued ⟨entry, he, hx⟩).1
    · rw [h.ticketFile _ hx]
      exact hs.filed entry he
  case accounted =>
    intro entry he
    rw [h.queue] at he
    by_cases hx : entry.id = id
    · exact hx ▸ (hqueued ⟨entry, he, hx⟩).2
    · rw [Live, Crashed, h.contender _ hx]
      exact hs.accounted entry he
  case order => exact h.queue ▸ hs.order
  case recorded => exact h.queue ▸ h.registrations ▸ hs.recorded
  case distinct => exact h.registrations ▸ hs.distinct
  case present =>
    intro x hx hlive
    rw [h.recorded] at hx
    rw [h.queued]
    by_cases hid : x = id
    · subst hid
      exact hs.present x hx (h.alive hx hlive)
    · exact hs.present x hx ((h.live hid).1 hlive)
  case found =>
    intro r hr
    rw [h.registrations] at hr
    by_cases hid : r.id = id
    · rw [hid, h.ticket ⟨r, hr, hid⟩, ← hid]
      exact hs.found r hr
    · rw [h.contender _ hid]
      exact hs.found r hr

@[simp] theorem setContender_self (self : Contender) :
    (s.setContender id self).contender id = self := Function.update_self ..

@[simp] theorem setContender_ne (self : Contender) (hx : x ≠ id) :
    (s.setContender id self).contender x = s.contender x := Function.update_of_ne hx ..

/-- A change of a contender's own record, and of what only it may change. -/
theorem Keeps.of_update (self : Contender)
    (hcontender : s'.contender = Function.update s.contender id self)
    (hqueue : s'.queue = s.queue) (hregistrations : s'.registrations = s.registrations)
    (htemporary : ∀ x, x ≠ id → s'.temporary x = s.temporary x)
    (hfile : ∀ x, x ≠ id → s'.ticketFile x = s.ticketFile x)
    (hguard : ∀ x, x ≠ id → (s'.guard = some x ↔ s.guard = some x))
    (hticket : s.Recorded id → self.ticket = (s.contender id).ticket)
    (halive : s.Recorded id → self.phase.live = true → s.Live id) : Keeps s s' id where
  queue := hqueue
  registrations := hregistrations
  contender _ hx := hcontender ▸ Function.update_of_ne hx ..
  temporary := htemporary
  ticketFile := hfile
  guard := hguard
  ticket hr := by
    rw [hcontender, Function.update_self]
    exact hticket hr
  alive hr hlive := by
    rw [Live, hcontender, Function.update_self] at hlive
    exact halive hr hlive

theorem Keeps.set (self : Contender) (guard : Option String)
    (hticket : s.Recorded id → self.ticket = (s.contender id).ticket)
    (halive : s.Recorded id → self.phase.live = true → s.Live id)
    (hguard : ∀ x, x ≠ id → (guard = some x ↔ s.guard = some x)) :
    Keeps s { s.setContender id self with guard } id :=
  .of_update self rfl rfl rfl (fun _ _ => rfl) (fun _ _ => rfl) hguard hticket halive

theorem Orderly.set (hs : s.Orderly) (self : Contender) (guard : Option String)
    (hk : Keeps s { s.setContender id self with guard } id) (hname : self.ticket.id = id)
    (hguard : guard = some id ↔ self.phase.guarding = true)
    (hfile : self.phase.filed = true → s.ticketFile id = true)
    (htidy : self.phase.tidy = true → s.temporary id = none)
    (hplace : Placed { s.setContender id self with guard } id self.phase)
    (hqueued : s.Queued id → self.phase.live = true ∨ self.phase = .crashed) :
    Orderly { s.setContender id self with guard } := by
  have heq : (s.setContender id self).contender id = self := setContender_self self
  apply hs.keeps hk
  · constructor
    case name => exact heq.symm ▸ hname
    case guard => exact heq.symm ▸ hguard
    case file => exact heq.symm ▸ hfile
    case temporary => exact heq.symm ▸ htidy
    case place => exact heq.symm ▸ hplace
  · intro hq
    have hlive := hqueued hq
    obtain ⟨entry, he, rfl⟩ := hq
    refine ⟨hs.filed entry he, ?_⟩
    rw [Live, Crashed]
    exact heq.symm ▸ hlive

/-- A contender goes on, with the guard as it had it. -/
theorem Orderly.goto (hs : s.Orderly) (phase : ContenderPhase)
    (hguarding : phase.guarding = (s.contender id).phase.guarding)
    (hfiled : phase.filed = true → (s.contender id).phase.filed = true)
    (htidy : phase.tidy = true → s.temporary id = none)
    (halive : s.Recorded id → phase.live = true → s.Live id)
    (hplace : Keeps s (s.goto id phase) id → (s.goto id phase).Placed id phase)
    (hqueued : s.Queued id → phase.live = true ∨ phase = .crashed) : (s.goto id phase).Orderly := by
  have hfits := hs.fits id
  have hk : Keeps s (s.goto id phase) id :=
    .set { s.contender id with phase } s.guard (fun _ => rfl) halive fun _ _ => Iff.rfl
  apply hs.set { s.contender id with phase } s.guard hk hfits.name
  · rw [hfits.guard, hguarding]
  · exact fun h => hfits.file (hfiled h)
  · exact htidy
  · exact hplace hk
  · exact hqueued

@[simp] theorem goto_self (phase : ContenderPhase) :
    (s.goto id phase).contender id = { s.contender id with phase } := setContender_self _

theorem goto_ticket (phase : ContenderPhase) :
    ((s.goto id phase).contender id).ticket = (s.contender id).ticket := by
  rw [goto_self]

/-- A contender that has not locked the guard tries to. -/
theorem Orderly.lockGuard (hs : s.Orderly) (edit : QueueEdit)
    (hlive : (s.contender id).phase.live = true)
    (hplace : (s.contender id).registered = true ↔ s.Recorded id)
    (hrecorded : edit ≠ .contend → s.Recorded id) (hturn : edit = .watch → s.HasTurn id)
    (hfiled : (s.contender id).phase.filed = true) (htidy : (s.contender id).phase.tidy = true) :
    (s.lockGuard id edit).Orderly := by
  rw [AdmissionState.lockGuard]
  split
  · next hfree =>
    have hfits := hs.fits id
    have hk : Keeps s { s.goto id (.editing edit .locked) with guard := some id } id := by
      apply Keeps.set { s.contender id with phase := .editing edit .locked } (some id)
      · exact fun _ => rfl
      · exact fun _ _ => hlive
      intro x hx
      simp only [hfree, reduceCtorEq, iff_false, Option.some.injEq]
      exact fun h => hx h.symm
    apply hs.set { s.contender id with phase := .editing edit .locked } (some id) hk hfits.name
    · simp only [ContenderPhase.guarding]
    · exact fun _ => hfits.file hfiled
    · exact fun _ => hfits.temporary htidy
    · refine ⟨hrecorded, fun he => (hturn he).congr (goto_ticket (.editing edit .locked)) rfl, ?_⟩
      simp only [Staged, setContender_self]
      exact hplace
    · exact fun _ => .inl (live_of_early edit rfl)
  · exact hs

theorem locked_of_live (h : s.Live id) : (s.contender id).phase.locked = true := by
  rw [Live] at h
  revert h
  cases (s.contender id).phase with
  | _ => simp [ContenderPhase.live, ContenderPhase.locked]

theorem Covers.drop (h : s.Covers (kept ++ entry :: rest)) (hentry : ¬s.Live entry.id) :
    s.Covers (kept ++ rest) where
  sublist := ((List.sublist_cons_self entry rest).append_left kept).trans h.sublist
  live other ho hlive := by
    have hmem := h.live other ho hlive
    rw [List.mem_append, List.mem_cons] at hmem
    rw [List.mem_append]
    rcases hmem with hmem | rfl | hmem
    · exact .inl hmem
    · exact absurd hlive hentry
    · exact .inr hmem

/-- What a contender with the guard knows at its stage, when only its stage has changed. -/
theorem Orderly.goto_stage (hs : s.Orderly) (hphase : (s.contender id).phase = .editing edit stage)
    (hstage : stage.early = true) (stage' : EditStage) (hstage' : stage'.early = true)
    (hplace : Keeps s (s.goto id (.editing edit stage')) id →
      (s.goto id (.editing edit stage')).Staged id edit stage') :
    (s.goto id (.editing edit stage')).Orderly := by
  have hfits := hs.fits id
  have hplaced := hphase ▸ hfits.place
  apply hs.goto
  · rw [hphase]
    rfl
  · rw [hphase]
    exact fun _ => rfl
  · intro _
    apply hfits.temporary
    rw [hphase]
    cases stage with
    | written queue => cases hstage
    | _ => rfl
  · intro _ _
    rw [Live, hphase]
    exact live_of_early edit hstage
  · intro hk
    exact ⟨hplaced.1, fun he => (hplaced.2.1 he).congr (goto_ticket _) rfl, hplace hk⟩
  · exact fun _ => .inl (live_of_early edit hstage')

theorem Orderly.inspects (hs : s.Orderly)
    (hphase : (s.contender id).phase = .editing edit (.inspecting kept (entry :: rest))) :
    (s.editQueue id edit (.inspecting kept (entry :: rest))).Orderly := by
  obtain ⟨-, -, hregistered, hcovers⟩ := hphase ▸ (hs.fits id).place
  have hentry : entry ∈ s.queue := hcovers.sublist.subset (by simp)
  rw [editQueue]
  split
  · refine hs.goto_stage hphase rfl _ rfl fun hk => ?_
    rw [Staged, goto_self, hk.recorded, List.append_assoc]
    exact ⟨hregistered, hk.covers hs hcovers⟩
  · next hinactive =>
    refine hs.goto_stage hphase rfl _ rfl fun hk => ?_
    rw [Staged, goto_self, hk.recorded]
    refine ⟨hregistered, hk.covers hs (hcovers.drop fun hlive => ?_)⟩
    simp [inspectKernelProcessLock, hs.filed entry hentry, locked_of_live hlive] at hinactive
  · next hunknown =>
    simp only [inspectKernelProcessLock, hs.filed entry hentry, Bool.true_eq_false,
      if_false] at hunknown
    split at hunknown
    · cases hunknown
    · split at hunknown <;> cases hunknown

theorem Covers.parts (h : s.Covers kept) : ∃ kept' own, kept = kept' ++ own ∧
    kept'.Sublist s.queue ∧
    (∀ entry ∈ s.queue, s.Live entry.id → entry.id ≠ id → entry ∈ kept') ∧
    (own = [] ∨ own = [(s.contender id).ticket] ∧ ¬s.Recorded id ∧
      (s.contender id).ticket.waiting = kept'.any Ticket.blocks) :=
  ⟨kept, [], (List.append_nil kept).symm, h.sublist, fun entry he hl _ =>
    h.live entry he hl, .inl rfl⟩

theorem Covers.own (h : s.Covers kept) (hs : s.Orderly) (hr : s.Recorded id) (hlive : s.Live id) :
    ∃ entry ∈ kept, entry.id = id := by
  obtain ⟨entry, he, rfl⟩ := hs.present id hr hlive
  exact ⟨entry, h.live entry he hlive, rfl⟩

/-- The queue with the contender's own ticket taken out. -/
theorem Covers.removed (h : s.Covers kept) (hs : s.Orderly) :
    s.Succeeds id .remove (kept.eraseP fun entry => entry.id = id) where
  parts := by
    refine ⟨_, [], (List.append_nil _).symm, List.eraseP_sublist.trans h.sublist, ?_, .inl rfl⟩
    intro entry he hlive hid
    exact (List.mem_eraseP_of_neg (p := fun entry => entry.id = id) (by simpa using hid)).2
      (h.live entry he hlive)
  own := fun hne => absurd rfl hne
  gone _ entry he hid := by
    have hnodup : kept.Pairwise fun a b => a.id ≠ b.id :=
      List.pairwise_map.1 (hs.nodup.sublist (h.sublist.map _))
    obtain ⟨other, before, after, hbefore, hother, rfl, heq⟩ :=
      List.exists_of_eraseP (p := fun entry => entry.id = id) (List.mem_of_mem_eraseP he)
        (by simpa using hid)
    rw [heq, List.mem_append] at he
    rw [List.pairwise_append, List.pairwise_cons] at hnodup
    rcases he with he | he
    · exact hbefore entry he (by simpa using hid)
    · exact hnodup.2.1.1 entry he ((of_decide_eq_true hother).trans hid.symm)

theorem Orderly.applies (hs : s.Orderly)
    (hphase : (s.contender id).phase = .editing edit (.inspecting kept [])) :
    (s.editQueue id edit (.inspecting kept [])).Orderly := by
  have hfits := hs.fits id
  obtain ⟨hrecorded, hturn, hregistered, hcovers⟩ := hphase ▸ hfits.place
  rw [List.append_nil] at hcovers
  have hlive : s.Live id := by
    rw [Live, hphase]
    exact live_of_early edit rfl
  simp only [editQueue, applyEdit]
  cases edit with
  | contend =>
    simp only
    split
    · next hown =>
      refine hs.goto_stage hphase rfl _ rfl fun hk => ?_
      rw [Staged, goto_self]
      refine ⟨hown, hk.covers hs hcovers |>.parts, fun _ => ?_, nofun⟩
      exact hcovers.own hs (hregistered.1 hown) hlive
    · next hnew =>
      have hnot : ¬s.Recorded id := fun hr => hnew (hregistered.2 hr)
      set ticket : Ticket := { (s.contender id).ticket with waiting := kept.any Ticket.blocks }
      have hk : Keeps s { s.setContender id { s.contender id with
          ticket := ticket, registered := true,
          phase := .editing .contend (.edited (kept ++ [ticket])) } with guard := s.guard } id :=
        .set _ _ (fun hr => absurd hr hnot) (fun hr => absurd hr hnot) fun _ _ => Iff.rfl
      apply hs.set _ s.guard hk hfits.name
      · rw [hfits.guard, hphase]
        exact Iff.rfl
      · exact fun _ => hfits.file (hphase ▸ rfl)
      · exact fun _ => hfits.temporary (hphase ▸ rfl)
      · refine ⟨hrecorded, nofun, ?_⟩
        simp only [Staged, setContender_self]
        refine ⟨trivial, ⟨kept, [ticket], rfl, hcovers.sublist, ?_, .inr ⟨?_, hnot, ?_⟩⟩,
          fun _ => ?_, nofun⟩
        · intro entry he hl hid
          exact hcovers.live entry he (hk.queuedLive hs entry he hl)
        · simp only [setContender_self]
        · simp only [setContender_self, ticket]
        · exact ⟨ticket, by simp, hfits.name⟩
      · exact fun _ => .inl rfl
  | watch =>
    refine hs.goto_stage hphase rfl _ rfl fun hk => ?_
    rw [Staged, goto_self]
    refine ⟨hregistered.2 (hrecorded nofun), hk.covers hs hcovers |>.parts, fun _ => ?_, nofun⟩
    exact hcovers.own hs (hrecorded nofun) hlive
  | remove =>
    refine hs.goto_stage hphase rfl _ rfl fun hk => ?_
    rw [Staged, goto_self]
    exact ⟨hregistered.2 (hrecorded nofun), hk.succeeds hs (goto_ticket _) (hcovers.removed hs)⟩

theorem Orderly.writes (hs : s.Orderly)
    (hphase : (s.contender id).phase = .editing edit (.edited next)) :
    (s.editQueue id edit (.edited next)).Orderly := by
  have hfits := hs.fits id
  obtain ⟨hrecorded, hturn, hregistered, hsucceeds⟩ := hphase ▸ hfits.place
  have htemporary : s.temporary id = none := hfits.temporary (hphase ▸ rfl)
  simp only [editQueue, htemporary]
  have hk : Keeps s { s.goto id (.editing edit (.written next)) with
      temporary := Function.update s.temporary id (some next) } id := by
    refine .of_update _ rfl rfl rfl (fun x hx => Function.update_of_ne hx ..) (fun _ _ => rfl)
      (fun _ _ => Iff.rfl) (fun _ => rfl) fun _ _ => ?_
    rw [Live, hphase]
    exact live_of_early edit rfl
  have hticket : ((s.goto id (.editing edit (.written next))).contender id).ticket =
      (s.contender id).ticket := goto_ticket _
  apply hs.keeps hk
  · constructor
    case name => exact hticket ▸ hfits.name
    case guard =>
      rw [goto_self]
      exact hfits.guard.trans (by rw [hphase]; exact Iff.rfl)
    case file => exact fun _ => hfits.file (hphase ▸ rfl)
    case temporary =>
      rw [goto_self]
      exact nofun
    case place =>
      rw [goto_self]
      refine ⟨hrecorded, fun he => (hturn he).congr hticket rfl, ?_,
        hk.succeeds hs hticket hsucceeds, ?_⟩
      · rw [goto_self]
        exact hregistered
      · exact Function.update_self ..
  · rintro ⟨entry, he, rfl⟩
    refine ⟨hs.filed entry he, .inl ?_⟩
    rw [Live, goto_self]
    cases edit <;> rfl

theorem recordRegistration_recorded (hr : s.Recorded id) (queue : List Ticket) :
    recordRegistration s.registrations id queue = s.registrations := by
  obtain ⟨r, hr, hid⟩ := hr
  exact if_pos (List.any_eq_true.2 ⟨r, hr, by simpa using hid⟩)

theorem recordRegistration_new (hr : ¬s.Recorded id) (queue : List Ticket) :
    recordRegistration s.registrations id queue =
      s.registrations ++ [⟨id, queue.filter fun entry => entry.id ≠ id⟩] := by
  refine if_neg fun hany => hr ?_
  obtain ⟨r, hr, hid⟩ := List.any_eq_true.1 hany
  exact ⟨r, hr, by simpa using hid⟩

/-- A queue that is renamed into place drops entries, or registers its contender at the end. -/
inductive Replaces (s : AdmissionState) (id : String) (edit : QueueEdit) (next : List Ticket) : Prop
  | drops (hrecorded : s.Recorded id) (hsub : next.Sublist s.queue)
  | registers (kept : List Ticket) (hrecorded : ¬s.Recorded id) (hedit : edit = .contend)
    (hnext : next = kept ++ [(s.contender id).ticket]) (hsub : kept.Sublist s.queue)
    (hwaiting : (s.contender id).ticket.waiting = kept.any Ticket.blocks)

theorem Succeeds.replaces (h : s.Succeeds id edit next) (hs : s.Orderly)
    (hedit : edit ≠ .contend → s.Recorded id) : s.Replaces id edit next := by
  obtain ⟨kept, own, rfl, hsub, -, hown⟩ := h.parts
  rcases hown with rfl | ⟨rfl, hnew, hwaiting⟩
  · rw [List.append_nil]
    by_cases hr : s.Recorded id
    · exact .drops hr hsub
    · have hcontend : edit = .contend := by
        by_contra hne
        exact hr (hedit hne)
      obtain ⟨entry, he, hid⟩ := h.own (by simp [hcontend])
      rw [List.append_nil] at he
      exact absurd (hs.recorded_of_queued ⟨entry, hsub.subset he, hid⟩) hr
  · refine .registers kept hnew ?_ rfl hsub hwaiting
    by_contra hne
    exact hnew (hedit hne)

theorem Succeeds.mem (h : s.Succeeds id edit next) (he : entry ∈ next) :
    entry ∈ s.queue ∨ entry = (s.contender id).ticket := by
  obtain ⟨kept, own, rfl, hsub, -, hown⟩ := h.parts
  rw [List.mem_append] at he
  rcases he with he | he
  · exact .inl (hsub.subset he)
  · rcases hown with rfl | ⟨rfl, -⟩
    · cases he
    · exact .inr (List.mem_singleton.1 he)

theorem Succeeds.live (h : s.Succeeds id edit next) (he : entry ∈ s.queue)
    (hlive : s.Live entry.id) (hid : entry.id ≠ id) : entry ∈ next := by
  obtain ⟨kept, own, rfl, -, hkept, -⟩ := h.parts
  exact List.mem_append_left _ (hkept entry he hlive hid)

/-- The head of a list is the head of its sublists that have it. -/
theorem head_of_sublist {l rest : List α} (h : l.Sublist (a :: rest)) (hmem : a ∈ l)
    (hnodup : (a :: rest).Nodup) : ∃ after, l = a :: after := by
  cases h with
  | cons _ h => exact absurd (h.subset hmem) (List.nodup_cons.1 hnodup).1
  | cons_cons _ _ => exact ⟨_, rfl⟩

theorem Succeeds.head (h : s.Succeeds id edit next) (hs : s.Orderly) (hq : s.queue = entry :: rest)
    (hlive : s.Live entry.id) (hid : entry.id ≠ id) : ∃ after, next = entry :: after := by
  obtain ⟨kept, own, rfl, hsub, hkept, -⟩ := h.parts
  obtain ⟨after, rfl⟩ := head_of_sublist (hq ▸ hsub)
    (hkept entry (hq ▸ List.mem_cons_self) hlive hid) (hq ▸ hs.nodup.of_map)
  exact ⟨after ++ own, rfl⟩

/-- A contender at the head of the queue stays there. -/
theorem Succeeds.own_head (h : s.Succeeds id edit next) (hs : s.Orderly) (hr : s.Recorded id)
    (hedit : edit ≠ .remove) (hq : s.queue = entry :: rest) (hid : entry.id = id) :
    ∃ after, next = entry :: after := by
  obtain ⟨other, hmem, ho⟩ := h.own hedit
  cases h.replaces hs (fun _ => hr) with
  | registers _ hnew => exact absurd hr hnew
  | drops _ hsub =>
    cases hs.entry_eq (hsub.subset hmem) (hq ▸ List.mem_cons_self) (ho.trans hid.symm)
    exact head_of_sublist (hq ▸ hsub) hmem (hq ▸ hs.nodup.of_map)

/-- The queue that the holder of the guard has written is renamed into place. -/
structure Renamed (s s' : AdmissionState) (id : String) (edit : QueueEdit) (next : List Ticket) :
    Prop where
  queue : s'.queue = next
  registrations : s'.registrations = recordRegistration s.registrations id next
  contender : s'.contender =
    Function.update s.contender id { s.contender id with phase := .editing edit (.renamed next) }
  temporary : s'.temporary = Function.update s.temporary id none
  ticketFile : s'.ticketFile = s.ticketFile
  guard : s'.guard = s.guard

namespace Renamed

variable {edit : QueueEdit} {next : List Ticket}

theorem contender_self (h : Renamed s s' id edit next) :
    s'.contender id = { s.contender id with phase := .editing edit (.renamed next) } := by
  rw [h.contender, Function.update_self]

theorem contender_ne (h : Renamed s s' id edit next) (hx : x ≠ id) :
    s'.contender x = s.contender x := by
  rw [h.contender, Function.update_of_ne hx]

theorem ticket (h : Renamed s s' id edit next) (x : String) :
    (s'.contender x).ticket = (s.contender x).ticket := by
  by_cases hx : x = id
  · rw [hx, h.contender_self]
  · rw [h.contender_ne hx]

theorem recorded (h : Renamed s s' id edit next) : s'.Recorded x ↔ s.Recorded x ∨ x = id := by
  rw [Recorded, h.registrations]
  by_cases hr : s.Recorded id
  · rw [recordRegistration_recorded hr]
    refine ⟨.inl, fun hx => ?_⟩
    rcases hx with hx | rfl
    · exact hx
    · exact hr
  · simp only [recordRegistration_new hr, List.mem_append, List.mem_singleton, or_and_right,
      exists_or, exists_eq_left, Recorded, eq_comm]

theorem queued (h : Renamed s s' id edit next) (hs : s.Orderly) (hn : s.Succeeds id edit next)
    (hx : x ≠ id) (hq : s'.Queued x) : s.Queued x := by
  obtain ⟨entry, he, rfl⟩ := hq
  rw [h.queue] at he
  rcases hn.mem he with he | rfl
  · exact ⟨entry, he, rfl⟩
  · exact absurd (hs.fits id).name hx

theorem placed (h : Renamed s s' id edit next) (hs : s.Orderly) (hn : s.Succeeds id edit next)
    (hguard : s.guard = some id) (hx : x ≠ id) : s'.Placed x (s.contender x).phase := by
  have hfits := hs.fits x
  have hplace := hfits.place
  have hrecorded : s'.Recorded x ↔ s.Recorded x := by simp only [h.recorded, hx, or_false]
  have hcontender := h.contender_ne hx
  have hqueued := h.queued hs hn hx
  cases hphase : (s.contender x).phase with
  | editing edit stage =>
    have hheld := hfits.guard.2 (hphase ▸ rfl)
    exact absurd (Option.some.inj (hheld.symm.trans hguard)) hx
  | admitted =>
    rw [hphase] at hplace
    obtain ⟨hregistered, hr, hturn⟩ := hplace
    rw [Placed, hcontender, hrecorded, HasTurn, hcontender, h.queue]
    refine ⟨hregistered, hr, hturn.imp_right fun ⟨entry, rest, hq, hid⟩ => ?_⟩
    subst hid
    obtain ⟨after, hnext⟩ := hn.head hs hq (by rw [Live, hphase]; rfl) hx
    exact ⟨entry, after, hnext, rfl⟩
  | absent =>
    rw [hphase] at hplace
    exact fun hr => hplace (hrecorded.1 hr)
  | opened =>
    rw [hphase] at hplace
    exact ⟨fun hr => hplace.1 (hrecorded.1 hr), hcontender ▸ hplace.2⟩
  | contending =>
    rw [hphase] at hplace
    rw [Placed, hcontender, hrecorded]
    exact hplace
  | releasing =>
    rw [hphase] at hplace
    rw [Placed, hcontender, hrecorded]
    exact hplace
  | closing removed =>
    rw [hphase] at hplace
    exact ⟨hplace.1, fun hq => hplace.2 (hqueued hq)⟩
  | unlocked removed =>
    rw [hphase] at hplace
    exact ⟨hplace.1, fun hq => hplace.2 (hqueued hq)⟩
  | finished =>
    rw [hphase] at hplace
    exact ⟨h.ticketFile ▸ hplace.1, fun hq => hplace.2 (hqueued hq)⟩
  | crashed => trivial

theorem order (h : Renamed s s' id edit next) (hs : s.Orderly) (hr : s.Replaces id edit next) :
    s'.queue.Pairwise fun earlier later => later.blocks = false → earlier.blocks = false := by
  rw [h.queue]
  cases hr with
  | drops _ hsub => exact hs.order.sublist hsub
  | registers kept _ _ hnext hsub hwaiting =>
    rw [hnext, List.pairwise_append]
    refine ⟨hs.order.sublist hsub, List.pairwise_singleton _ _, fun earlier he later hl hfree => ?_⟩
    rw [List.mem_singleton.1 hl, Ticket.blocks, hwaiting, Bool.or_eq_false_iff] at hfree
    exact Bool.eq_false_iff.2 (List.any_eq_false.1 hfree.2 earlier he)

theorem distinct (h : Renamed s s' id edit next) (hs : s.Orderly) :
    (s'.registrations.map Registration.id).Nodup := by
  rw [h.registrations]
  by_cases hr : s.Recorded id
  · rw [recordRegistration_recorded hr]
    exact hs.distinct
  · rw [recordRegistration_new hr, List.map_append, List.nodup_append]
    refine ⟨hs.distinct, List.nodup_singleton _, fun a ha b hb hab => hr ?_⟩
    obtain ⟨r, hr, rfl⟩ := List.mem_map.1 ha
    exact ⟨r, hr, hab.trans (List.mem_singleton.1 hb)⟩

theorem sublist (h : Renamed s s' id edit next) (hs : s.Orderly) (hr : s.Replaces id edit next) :
    (s'.queue.map Ticket.id).Sublist (s'.registrations.map Registration.id) := by
  rw [h.queue, h.registrations]
  cases hr with
  | drops hr hsub =>
    rw [recordRegistration_recorded hr]
    exact (hsub.map _).trans hs.recorded
  | registers kept hr _ hnext hsub =>
    rw [recordRegistration_new hr, hnext, List.map_append, List.map_append, List.map_singleton,
      List.map_singleton, (hs.fits id).name]
    exact ((hsub.map _).trans hs.recorded).append (.refl _)

theorem found (h : Renamed s s' id edit next) (hs : s.Orderly) (hr : s.Replaces id edit next) :
    ∀ r ∈ s'.registrations, (s'.contender r.id).ticket.waiting = r.found.any Ticket.blocks := by
  intro r hmem
  rw [h.ticket]
  rw [h.registrations] at hmem
  cases hr with
  | drops hr _ =>
    rw [recordRegistration_recorded hr] at hmem
    exact hs.found r hmem
  | registers kept hr _ hnext hsub hwaiting =>
    rw [recordRegistration_new hr, List.mem_append, List.mem_singleton] at hmem
    rcases hmem with hmem | rfl
    · exact hs.found r hmem
    · have hkept : ∀ entry ∈ kept, entry.id ≠ id := fun entry he hid =>
        hr (hs.recorded_of_queued ⟨entry, hsub.subset he, hid⟩)
      have hfilter : (next.filter fun entry => entry.id ≠ id) = kept := by
        rw [hnext, List.filter_append, List.filter_singleton, (hs.fits id).name,
          List.filter_eq_self.2 fun entry he => by simpa using hkept entry he]
        simp
      rw [hfilter]
      exact hwaiting

theorem live (h : Renamed s s' id edit next) (hx : x ≠ id) : s'.Live x ↔ s.Live x := by
  rw [Live, h.contender_ne hx, Live]

theorem live_self (h : Renamed s s' id edit next) : s'.Live id ↔ edit ≠ .remove := by
  rw [Live, h.contender_self]
  cases edit <;> simp [ContenderPhase.live, ContenderPhase.locked]

theorem fits_self (h : Renamed s s' id edit next) (hs : s.Orderly)
    (hphase : (s.contender id).phase = .editing edit (.written next)) : s'.Fits id := by
  have hfits := hs.fits id
  obtain ⟨hrecorded, hturn, hregistered, hn, -⟩ := hphase ▸ hfits.place
  constructor
  case name => exact (h.ticket id).symm ▸ hfits.name
  case guard =>
    rw [h.guard, hfits.guard, hphase, h.contender_self]
    exact Iff.rfl
  case file => exact fun _ => h.ticketFile ▸ hfits.file (hphase ▸ rfl)
  case temporary => exact fun _ => h.temporary ▸ Function.update_self ..
  case place =>
    rw [h.contender_self]
    refine ⟨fun _ => h.recorded.2 (.inr rfl), fun he => ?_, ?_⟩
    · rw [HasTurn, h.ticket, h.queue]
      refine (hturn he).imp_right fun ⟨entry, rest, hq, hid⟩ => ?_
      obtain ⟨after, hnext⟩ := hn.own_head hs (hrecorded (by simp [he])) (by simp [he]) hq hid
      exact ⟨entry, after, hnext, hid⟩
    · rw [Staged, h.contender_self]
      refine ⟨hregistered, h.recorded.2 (.inr rfl), h.queue.symm, fun he => ?_, fun he hq => ?_⟩
      · rw [Queued, h.queue]
        exact hn.own he
      · obtain ⟨entry, hmem, hid⟩ := hq
        exact hn.gone he entry (h.queue ▸ hmem) hid

theorem orderly (h : Renamed s s' id edit next) (hs : s.Orderly)
    (hphase : (s.contender id).phase = .editing edit (.written next)) : s'.Orderly := by
  have hfits := hs.fits id
  obtain ⟨hrecorded, hturn, hregistered, hn, -⟩ := hphase ▸ hfits.place
  have hguard : s.guard = some id := hfits.guard.2 (hphase ▸ rfl)
  have hr := hn.replaces hs hrecorded
  constructor
  case fits =>
    intro x
    by_cases hx : x = id
    · exact hx ▸ h.fits_self hs hphase
    · have hother := hs.fits x
      have hplaced := h.placed hs hn hguard hx
      rw [← h.contender_ne hx] at hplaced
      obtain ⟨hname, hguarding, hfile, htemporary, -⟩ := hother
      rw [← h.contender_ne hx] at hname hguarding hfile htemporary
      exact ⟨hname, h.guard ▸ hguarding, h.ticketFile ▸ hfile,
        h.temporary ▸ (Function.update_of_ne hx ..).trans ∘ htemporary, hplaced⟩
  case ticket =>
    intro entry he
    rw [h.queue] at he
    rw [h.ticket]
    rcases hn.mem he with he | rfl
    · exact hs.ticket entry he
    · rw [hfits.name]
  case filed =>
    intro entry he
    rw [h.queue] at he
    rw [h.ticketFile]
    rcases hn.mem he with he | rfl
    · exact hs.filed entry he
    · rw [hfits.name]
      exact hfits.file (hphase ▸ rfl)
  case accounted =>
    intro entry he
    rw [h.queue] at he
    by_cases hx : entry.id = id
    · refine .inl (hx ▸ h.live_self.2 fun he' => hn.gone he' entry he hx)
    · rw [h.live hx, Crashed, h.contender_ne hx]
      rcases hn.mem he with he | rfl
      · exact hs.accounted entry he
      · exact absurd hfits.name hx
  case order => exact h.order hs hr
  case recorded => exact h.sublist hs hr
  case distinct => exact h.distinct hs
  case present =>
    intro x hx hlive
    rw [Queued, h.queue]
    by_cases hid : x = id
    · subst hid
      exact hn.own (h.live_self.1 hlive)
    · rw [h.live hid] at hlive
      have hx : s.Recorded x := by simpa only [h.recorded, hid, or_false] using hx
      obtain ⟨entry, he, rfl⟩ := hs.present x hx hlive
      exact ⟨entry, hn.live he hlive hid, rfl⟩
  case found => exact h.found hs hr

end Renamed

theorem Orderly.renames (hs : s.Orderly)
    (hphase : (s.contender id).phase = .editing edit (.written next)) :
    (s.editQueue id edit (.written next)).Orderly := by
  obtain ⟨-, -, -, -, htemporary⟩ := hphase ▸ (hs.fits id).place
  simp only [editQueue, htemporary]
  exact Renamed.orderly ⟨rfl, rfl, rfl, rfl, rfl, rfl⟩ hs hphase

/-- The holder of the guard unlocks it. -/
theorem Orderly.unlocks (hs : s.Orderly)
    (hphase : (s.contender id).phase = .editing edit (.renamed localQueue)) (self : Contender)
    (hticket : self.ticket = (s.contender id).ticket) (hguarding : self.phase.guarding = false)
    (halive : self.phase.live = true → edit ≠ .remove)
    (hplace : Placed { s.setContender id self with guard := none } id self.phase)
    (hqueued : s.Queued id → self.phase.live = true) :
    Orderly { s.setContender id self with guard := none } := by
  have hfits := hs.fits id
  have hguard : s.guard = some id := hfits.guard.2 (hphase ▸ rfl)
  have hk : Keeps s { s.setContender id self with guard := none } id := by
    apply Keeps.set self none (fun _ => hticket)
    · intro _ hlive
      have hne := halive hlive
      rw [Live, hphase]
      cases edit with
      | remove => exact absurd rfl hne
      | _ => rfl
    · intro x hx
      simp only [hguard, reduceCtorEq, false_iff, Option.some.injEq]
      exact fun h => hx h.symm
  apply hs.set self none hk (hticket ▸ hfits.name)
  · simp [hguarding]
  · exact fun _ => hfits.file (hphase ▸ rfl)
  · exact fun _ => hfits.temporary (hphase ▸ rfl)
  · exact hplace
  · exact fun hq => .inl (hqueued hq)

theorem findIdx_zero {queue : List Ticket}
    (h : queue.findIdx? (fun entry => entry.id = id) = some 0) :
    ∃ entry rest, queue = entry :: rest ∧ entry.id = id := by
  cases queue with
  | nil => cases h
  | cons entry rest =>
    obtain ⟨_, hid, -⟩ := List.findIdx?_eq_some_iff_getElem.1 h
    exact ⟨entry, rest, rfl, of_decide_eq_true hid⟩

theorem Orderly.concludes (hs : s.Orderly)
    (hphase : (s.contender id).phase = .editing edit (.renamed localQueue)) :
    (s.editQueue id edit (.renamed localQueue)).Orderly := by
  obtain ⟨-, hturn, hregistered, hrecorded, rfl, hqueued, hgone⟩ := hphase ▸ (hs.fits id).place
  rw [editQueue]
  cases edit with
  | contend =>
    simp only [conclude]
    split
    · next hnone =>
      obtain ⟨entry, he, hid⟩ := hqueued nofun
      have hother := List.findIdx?_eq_none_iff.1 hnone entry he
      simp [hid] at hother
    · next index hindex =>
      split
      · next hfirst =>
        apply hs.unlocks hphase { s.contender id with phase := .admitted } rfl rfl (fun _ => nofun)
        · simp only [Placed, setContender_self]
          refine ⟨hregistered, hrecorded, ?_⟩
          rw [HasTurn, setContender_self]
          rcases hfirst with rfl | ⟨hpreview, hwaiting⟩
          · exact .inr (findIdx_zero hindex)
          · exact .inl (by simp [Ticket.blocks, hpreview, hwaiting])
        · exact fun _ => rfl
      · apply hs.unlocks hphase { s.contender id with
          phase := .contending } rfl rfl (fun _ => nofun)
        · simp only [Placed, setContender_self]
          exact iff_of_true hregistered hrecorded
        · exact fun _ => rfl
  | watch =>
    simp only [conclude]
    apply hs.unlocks hphase { s.contender id with phase := .admitted, reported := _ } rfl rfl
      (fun _ => nofun)
    · simp only [Placed, setContender_self]
      refine ⟨hregistered, hrecorded, ?_⟩
      rw [HasTurn, setContender_self]
      exact hturn rfl
    · exact fun _ => rfl
  | remove =>
    apply hs.unlocks hphase { s.contender id with phase := .closing true } rfl rfl nofun
    · exact ⟨rfl, hgone rfl⟩
    · exact fun hq => absurd hq (hgone rfl)

/-- The holder of the guard keeps the invariant, and its inspections never fail. -/
theorem Orderly.edits (hs : s.Orderly) (hphase : (s.contender id).phase = .editing edit stage) :
    (s.editQueue id edit stage).Orderly := by
  cases stage with
  | locked =>
    obtain ⟨-, -, hregistered⟩ := hphase ▸ (hs.fits id).place
    refine hs.goto_stage hphase rfl _ rfl fun hk => ?_
    rw [Staged, goto_self, hk.recorded]
    exact ⟨hregistered, hk.covers hs ⟨.refl _, fun _ he _ => he⟩⟩
  | inspecting kept rest =>
    cases rest with
    | nil => exact hs.applies hphase
    | cons entry rest => exact hs.inspects hphase
  | edited next => exact hs.writes hphase
  | written next => exact hs.renames hphase
  | renamed localQueue => exact hs.concludes hphase
  | failed =>
    obtain ⟨-, -, hfalse⟩ := hphase ▸ (hs.fits id).place
    exact hfalse.elim

theorem Orderly.unlinks (hs : s.Orderly) (hphase : (s.contender id).phase = .unlocked removed) :
    Orderly { s.goto id .finished with
      ticketFile := if removed then Function.update s.ticketFile id false else s.ticketFile } := by
  have hfits := hs.fits id
  obtain ⟨rfl, hgone⟩ := hphase ▸ hfits.place
  have hk : Keeps s { s.goto id .finished with
      ticketFile := Function.update s.ticketFile id false } id :=
    .of_update _ rfl rfl rfl (fun _ _ => rfl) (fun x hx => Function.update_of_ne hx ..)
      (fun _ _ => Iff.rfl) (fun _ => rfl) fun _ => nofun
  rw [if_pos rfl]
  apply hs.keeps hk
  · constructor
    case name => exact (congrArg Ticket.id (goto_ticket .finished)).trans hfits.name
    case guard =>
      rw [goto_self]
      exact hfits.guard.trans (by rw [hphase]; exact Iff.rfl)
    case file =>
      rw [goto_self]
      exact nofun
    case temporary => exact fun _ => hfits.temporary (hphase ▸ rfl)
    case place =>
      rw [goto_self]
      exact ⟨Function.update_self .., hgone⟩
  · exact fun hq => absurd hq hgone

theorem Orderly.steps (hs : s.Orderly) (h : s.step id = some s') : s'.Orderly := by
  have hfits := hs.fits id
  have hplace := hfits.place
  rw [step] at h
  cases hphase : (s.contender id).phase with
  | opened =>
    rw [hphase] at h hplace
    cases h
    apply hs.goto
    · rw [hphase]
      rfl
    · rw [hphase]
      exact fun _ => rfl
    · exact fun _ => hfits.temporary (hphase ▸ rfl)
    · exact fun hr => absurd hr hplace.1
    · intro hk
      rw [Placed, goto_self, hk.recorded]
      exact iff_of_false (by simp [hplace.2]) hplace.1
    · exact fun hq => absurd (hs.recorded_of_queued hq) hplace.1
  | contending =>
    rw [hphase] at h hplace
    cases h
    exact hs.lockGuard .contend (hphase ▸ rfl) hplace nofun nofun (hphase ▸ rfl) (hphase ▸ rfl)
  | editing edit stage =>
    rw [hphase] at h
    cases h
    exact hs.edits hphase
  | releasing =>
    rw [hphase] at h hplace
    simp only at h
    split at h
    · next hregistered =>
      cases h
      exact hs.lockGuard .remove (hphase ▸ rfl) hplace (fun _ => hplace.1 hregistered) nofun
        (hphase ▸ rfl) (hphase ▸ rfl)
    · next hregistered =>
      cases h
      have hgone : ¬s.Queued id := fun hq => hregistered (hplace.2 (hs.recorded_of_queued hq))
      apply hs.goto
      · rw [hphase]
        rfl
      · rw [hphase]
        exact fun _ => rfl
      · exact fun _ => hfits.temporary (hphase ▸ rfl)
      · exact fun _ => nofun
      · exact fun _ => ⟨rfl, hgone⟩
      · exact fun hq => absurd hq hgone
  | closing removed =>
    rw [hphase] at h hplace
    cases h
    apply hs.goto
    · rw [hphase]
      rfl
    · rw [hphase]
      exact fun _ => rfl
    · exact fun _ => hfits.temporary (hphase ▸ rfl)
    · exact fun _ => nofun
    · exact fun _ => hplace
    · exact fun hq => absurd hq hplace.2
  | unlocked removed =>
    rw [hphase] at h
    cases h
    exact hs.unlinks hphase
  | _ =>
    rw [hphase] at h
    cases h

theorem Orderly.enters (hs : s.Orderly) (hphase : (s.contender id).phase = .absent)
    (preview urgent : Bool) :
    Orderly { s.setContender id ⟨⟨id, preview, false, urgent⟩, false, none, .opened⟩ with
      ticketFile := Function.update s.ticketFile id true } := by
  have hfits := hs.fits id
  have hnew : ¬s.Recorded id := by
    have hplace := hfits.place
    rw [hphase] at hplace
    exact hplace
  have heq : (s.setContender id ⟨⟨id, preview, false, urgent⟩, false, none, .opened⟩).contender id =
      ⟨⟨id, preview, false, urgent⟩, false, none, .opened⟩ := setContender_self _
  have hk : Keeps s { s.setContender id ⟨⟨id, preview, false, urgent⟩, false, none, .opened⟩ with
      ticketFile := Function.update s.ticketFile id true } id :=
    .of_update _ rfl rfl rfl (fun _ _ => rfl) (fun x hx => Function.update_of_ne hx ..)
      (fun _ _ => Iff.rfl) (fun hr => absurd hr hnew) fun hr => absurd hr hnew
  apply hs.keeps hk
  · constructor
    case name => exact heq.symm ▸ rfl
    case guard =>
      rw [heq]
      exact hfits.guard.trans (by rw [hphase]; exact Iff.rfl)
    case file => exact fun _ => Function.update_self ..
    case temporary => exact fun _ => hfits.temporary (hphase ▸ rfl)
    case place =>
      rw [heq]
      exact ⟨hnew, by rw [heq]⟩
  · exact fun hq => absurd (hs.recorded_of_queued hq) hnew

theorem Orderly.leaves (hs : s.Orderly)
    (hphase : (s.contender id).phase = .contending ∨ (s.contender id).phase = .admitted) :
    (s.goto id .releasing).Orderly := by
  have hfits := hs.fits id
  have hplace := hfits.place
  have hlive : s.Live id := by rcases hphase with hphase | hphase <;> rw [Live, hphase] <;> rfl
  apply hs.goto
  · rcases hphase with hphase | hphase <;> rw [hphase] <;> rfl
  · intro _
    rcases hphase with hphase | hphase <;> rw [hphase] <;> rfl
  · intro _
    apply hfits.temporary
    rcases hphase with hphase | hphase <;> rw [hphase] <;> rfl
  · exact fun _ _ => hlive
  · intro hk
    rw [Placed, goto_self, hk.recorded]
    rcases hphase with hphase | hphase <;> rw [hphase] at hplace
    · exact hplace
    · exact iff_of_true hplace.1 hplace.2.1
  · exact fun _ => .inl rfl

theorem Orderly.crashes (hs : s.Orderly) :
    Orderly { s.goto id .crashed with guard := if s.guard = some id then none else s.guard } := by
  have hfits := hs.fits id
  have hk : Keeps s { s.goto id .crashed with
      guard := if s.guard = some id then none else s.guard } id := by
    apply Keeps.set { s.contender id with phase := .crashed } _ (fun _ => rfl) fun _ => nofun
    intro x hx
    split
    · next hguard =>
      simp only [hguard, reduceCtorEq, false_iff, Option.some.injEq]
      exact fun h => hx h.symm
    · exact Iff.rfl
  apply hs.set { s.contender id with phase := .crashed } _ hk hfits.name
  · simp only [ContenderPhase.guarding, Bool.false_eq_true, iff_false]
    split
    · nofun
    · next hguard => exact hguard
  · exact nofun
  · exact nofun
  · trivial
  · exact fun _ => .inr rfl

/-- Every action keeps the invariant. -/
theorem Orderly.step (hs : s.Orderly) (h : Step s action s') : s'.Orderly := by
  rw [Step] at h
  cases action with
  | enter id preview urgent =>
    simp only [perform] at h
    split at h
    · next hphase =>
      cases h
      exact hs.enters hphase preview urgent
    · cases h
  | step id => exact hs.steps h
  | watch id =>
    simp only [perform] at h
    split at h
    · next hphase =>
      cases h
      have hplace := hphase.1 ▸ (hs.fits id).place
      have hrecorded := hplace.2.1
      exact hs.lockGuard .watch (hphase.1 ▸ rfl) (iff_of_true hplace.1 hrecorded)
        (fun _ => hrecorded) (fun _ => hplace.2.2) (hphase.1 ▸ rfl) (hphase.1 ▸ rfl)
    · cases h
  | leave id =>
    simp only [perform] at h
    split at h
    · next hphase =>
      cases h
      exact hs.leaves hphase
    · cases h
  | crash id =>
    simp only [perform] at h
    split at h
    · cases h
    · cases h
    · cases h
    · cases h
      exact hs.crashes

end AdmissionState

end RipDvd
