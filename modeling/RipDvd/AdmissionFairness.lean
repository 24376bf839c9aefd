import RipDvd.AdmissionOrder
import Mathlib.Data.List.TakeWhile

namespace RipDvd
set_option autoImplicit true

namespace AdmissionState

variable {s s' : AdmissionState} {id x : String}

/-- A contender goes on by itself, and nothing else happens. -/
def ByItself (id : String) (s s' : AdmissionState) : Prop :=
  ∃ actions, (∀ action ∈ actions, action = .step id) ∧ Run Step s actions s'

theorem ByItself.refl (id : String) (s : AdmissionState) : ByItself id s s :=
  ⟨[], fun _ h => (List.not_mem_nil h).elim, .nil s⟩

theorem ByItself.next (h : s.step id = some t) (ht : ByItself id t s') : ByItself id s s' := by
  obtain ⟨actions, hactions, hrun⟩ := ht
  refine ⟨.step id :: actions, fun action ha => ?_, .cons h hrun⟩
  rcases List.mem_cons.1 ha with rfl | ha
  · rfl
  · exact hactions action ha

theorem ByItself.trans (h : ByItself id s t) (ht : ByItself id t s') : ByItself id s s' := by
  obtain ⟨actions, hactions, hrun⟩ := h
  obtain ⟨rest, hrest, hrun'⟩ := ht
  refine ⟨actions ++ rest, fun action ha => ?_, hrun.append hrun'⟩
  rcases List.mem_append.1 ha with ha | ha
  · exact hactions action ha
  · exact hrest action ha

theorem ByItself.orderly (h : ByItself id s s') (hs : s.Orderly) : s'.Orderly := by
  obtain ⟨_, _, hrun⟩ := h
  exact hrun.inv (fun _ _ _ hs h => hs.step h) hs

theorem step_editing (hphase : (s.contender id).phase = .editing edit stage) :
    s.step id = some (s.editQueue id edit stage) := by
  rw [step, hphase]

theorem goto_goto (first second : ContenderPhase) :
    (s.goto id first).goto id second = s.goto id second := by
  rw [goto, goto_self, goto, setContender, goto, setContender, Function.update_idem, setContender]

/-- The contender counts this entry as live. -/
def survives (s : AdmissionState) (id : String) (entry : Ticket) : Bool :=
  entry.id = id || (s.contender entry.id).phase.locked

theorem survives_goto (phase : ContenderPhase) :
    (s.goto id phase).survives id = s.survives id := by
  funext entry
  by_cases hid : entry.id = id
  · simp [survives, hid]
  · simp [survives, hid, goto]

/-- The inspections of the entries that are left, one after the other. -/
theorem inspects_rest (hfile : ∀ entry ∈ rest, s.ticketFile entry.id = true)
    (hphase : (s.contender id).phase = .editing edit (.inspecting kept rest)) :
    ByItself id s (s.goto id
      (.editing edit (.inspecting (kept ++ rest.filter (s.survives id)) []))) := by
  induction rest generalizing s kept with
  | nil =>
    have heq : s.goto id (.editing edit (.inspecting kept [])) = s := by
      rw [goto, ← hphase, setContender, Function.update_eq_self]
    rw [List.filter_nil, List.append_nil, heq]
    exact .refl id s
  | cons entry rest ih =>
    have hstep := step_editing hphase
    have hrest : ∀ other ∈ rest, s.ticketFile other.id = true :=
      fun other ho => hfile other (List.mem_cons_of_mem _ ho)
    have hentry : s.ticketFile entry.id = true := hfile entry List.mem_cons_self
    rw [editQueue] at hstep
    by_cases hlive : s.survives id entry = true
    · have hheld : (if entry.id = id then LockState.held
          else s.inspectKernelProcessLock entry.id) = .held := by
        by_cases hid : entry.id = id
        · exact if_pos hid
        · rw [if_neg hid]
          simp only [survives, hid, decide_false, Bool.false_or] at hlive
          simp [inspectKernelProcessLock, hentry, hlive]
      rw [hheld] at hstep
      have hgo := ih (s := s.goto id (.editing edit (.inspecting (kept ++ [entry]) rest))) hrest
        (by rw [goto_self])
      rw [goto_goto, survives_goto, List.append_assoc] at hgo
      rw [List.filter_cons_of_pos hlive]
      exact .next hstep hgo
    · have hinactive : (if entry.id = id then LockState.held
          else s.inspectKernelProcessLock entry.id) = .inactive := by
        simp only [survives, Bool.or_eq_true, decide_eq_true_eq, not_or] at hlive
        rw [if_neg hlive.1]
        simp [inspectKernelProcessLock, hentry, hlive.2]
      rw [hinactive] at hstep
      have hgo := ih (s := s.goto id (.editing edit (.inspecting kept rest))) hrest
        (by rw [goto_self])
      rw [goto_goto, survives_goto] at hgo
      rw [List.filter_cons_of_neg hlive]
      exact .next hstep hgo

/-- The queue is renamed into place. -/
theorem renames_written (hphase : (s.contender id).phase = .editing edit (.written next))
    (htemporary : s.temporary id = some next) :
    ∃ t, s.step id = some t ∧ Renamed s t id edit next := by
  have hstep := step_editing hphase
  simp only [editQueue, htemporary] at hstep
  exact ⟨_, hstep, rfl, rfl, rfl, rfl, rfl, rfl⟩

/-- The queue is written and renamed into place. -/
theorem publishes (hphase : (s.contender id).phase = .editing edit (.edited next))
    (htemporary : s.temporary id = none) :
    ∃ t, ByItself id s t ∧ t.queue = next ∧
      t.contender = (s.goto id (.editing edit (.renamed next))).contender := by
  have hwrite := step_editing hphase
  simp only [editQueue, htemporary] at hwrite
  obtain ⟨t, hrename, ht⟩ := renames_written (s := { s.goto id (.editing edit (.written next)) with
    temporary := Function.update s.temporary id (some next) }) (by rw [goto_self])
    (Function.update_self ..)
  refine ⟨t, .next hwrite (.next hrename (.refl id t)), ht.queue, ?_⟩
  rw [ht.contender]
  exact congrArg contender (goto_goto (s := s) (.editing edit (.written next))
    (.editing edit (.renamed next)))

/-- The holder of the guard unlocks it. -/
theorem unlocks_renamed (hphase : (s.contender id).phase = .editing edit (.renamed localQueue)) :
    ∃ t, ByItself id s t ∧ t.guard = none :=
  ⟨_, .next (step_editing hphase) (.refl _ _), rfl⟩

theorem unlocks_edited (hphase : (s.contender id).phase = .editing edit (.edited next))
    (htemporary : s.temporary id = none) : ∃ t, ByItself id s t ∧ t.guard = none := by
  obtain ⟨t, hby, -, ht⟩ := publishes hphase htemporary
  obtain ⟨t', hby', ht'⟩ := unlocks_renamed (s := t) (by rw [ht, goto_self])
  exact ⟨t', hby.trans hby', ht'⟩

theorem applyEdit_phase (s : AdmissionState) (id : String) (edit : QueueEdit) (kept : List Ticket) :
    ∃ next, ((s.applyEdit id edit kept).contender id).phase = .editing edit (.edited next) := by
  cases edit with
  | contend =>
    simp only [applyEdit]
    split
    · exact ⟨_, by rw [goto_self]⟩
    · exact ⟨_, by rw [setContender_self]⟩
  | watch => exact ⟨_, by rw [applyEdit, goto_self]⟩
  | remove => exact ⟨_, by rw [applyEdit, goto_self]⟩

theorem unlocks_inspecting (hs : s.Orderly)
    (hphase : (s.contender id).phase = .editing edit (.inspecting kept rest)) :
    ∃ t, ByItself id s t ∧ t.guard = none := by
  obtain ⟨-, -, -, hcovers⟩ := hphase ▸ (hs.fits id).place
  have hby := inspects_rest (fun entry he =>
    hs.filed entry (hcovers.sublist.subset (List.mem_append_right kept he))) hphase
  have hr := hby.orderly hs
  set r := s.goto id (.editing edit (.inspecting (kept ++ rest.filter (s.survives id)) []))
  have hstep := step_editing (s := r) (by rw [goto_self])
  have ht := (ByItself.next hstep (.refl id _)).orderly hr
  obtain ⟨next, hnext⟩ := applyEdit_phase r id edit (kept ++ rest.filter (s.survives id))
  obtain ⟨t, hlast, hguard⟩ := unlocks_edited hnext ((ht.fits id).temporary (by
    rw [editQueue, hnext]
    rfl))
  exact ⟨t, hby.trans (.next hstep hlast), hguard⟩

/-- The holder of the guard can always go on until it unlocks it. -/
theorem Orderly.unlocksGuard (hs : s.Orderly) (hguard : s.guard = some id) :
    ∃ t, ByItself id s t ∧ t.guard = none := by
  have hfits := hs.fits id
  have hguarding := hfits.guard.1 hguard
  cases hphase : (s.contender id).phase with
  | editing edit stage =>
    obtain ⟨-, -, hstage⟩ := hphase ▸ hfits.place
    cases stage with
    | locked =>
      have hstep := step_editing hphase
      have ht := (ByItself.next hstep (.refl id _)).orderly hs
      obtain ⟨t, hlast, hguard⟩ := unlocks_inspecting ht (by rw [editQueue, goto_self])
      exact ⟨t, .next hstep hlast, hguard⟩
    | inspecting kept rest => exact unlocks_inspecting hs hphase
    | edited next => exact unlocks_edited hphase (hfits.temporary (hphase ▸ rfl))
    | written next =>
      obtain ⟨t, hstep, ht⟩ := renames_written hphase hstage.2.2
      obtain ⟨t', hlast, hguard⟩ := unlocks_renamed (s := t) (by rw [ht.contender_self])
      exact ⟨t', .next hstep hlast, hguard⟩
    | renamed localQueue => exact unlocks_renamed hphase
    | failed => exact hstage.elim
  | _ =>
    rw [hphase] at hguarding
    cases hguarding

theorem applyEdit_contend (s : AdmissionState) (id : String) (kept : List Ticket) :
    ∃ own, ((s.applyEdit id .contend kept).contender id).phase =
        .editing .contend (.edited (kept ++ own)) ∧
      (∀ entry ∈ own, entry.id = (s.contender id).ticket.id) ∧
      ((s.contender id).registered = false → own ≠ []) := by
  simp only [applyEdit]
  split
  · next hregistered =>
    exact ⟨[], by rw [goto_self, List.append_nil], by simp, by simp [hregistered]⟩
  · exact ⟨[_], by rw [setContender_self], by simp, by simp⟩

/-- The holder of the guard reads the queue and drops the entries that are not live. -/
theorem reads_locked (hfile : ∀ entry ∈ s.queue, s.ticketFile entry.id = true)
    (hphase : (s.contender id).phase = .editing edit .locked) :
    ByItself id s (s.goto id
      (.editing edit (.inspecting (s.queue.filter (s.survives id)) []))) := by
  have hread := step_editing hphase
  rw [editQueue] at hread
  have hread' : ((s.goto id (.editing edit (.inspecting [] s.queue))).contender id).phase =
      .editing edit (.inspecting [] s.queue) := by rw [goto_self]
  have hinspect := inspects_rest (s := s.goto id (.editing edit (.inspecting [] s.queue)))
    hfile hread'
  rw [goto_goto, List.nil_append, survives_goto] at hinspect
  exact .next hread hinspect

theorem conclude_queue (localQueue : List Ticket) (edit : QueueEdit) :
    (s.conclude id localQueue edit).queue = s.queue := by
  cases edit with
  | contend =>
    simp only [conclude]
    split
    · rfl
    · split <;> rfl
  | _ => rfl

/-- The head of the queue is admitted. -/
theorem conclude_head (hid : entry.id = id) :
    ((s.conclude id (entry :: rest) .contend).contender id).phase = .admitted := by
  have hindex : ((entry :: rest).findIdx? fun entry => entry.id = id) = some 0 := by
    rw [List.findIdx?_cons, if_pos (by simpa using hid)]
  simp only [conclude, hindex, true_or, if_true, goto_self]

/-- A contender that finds the guard unlocked edits the queue, and is admitted if it is then at its
head. -/
theorem Orderly.contends (hs : s.Orderly) (hphase : (s.contender id).phase = .contending)
    (hfree : s.guard = none) :
    ∃ t own, ByItself id s t ∧ t.queue = s.queue.filter (s.survives id) ++ own ∧
      (∀ entry ∈ own, entry.id = id) ∧ ((s.contender id).registered = false → own ≠ []) ∧
      ∀ entry rest, t.queue = entry :: rest → entry.id = id →
        (t.contender id).phase = .admitted := by
  have hlock : s.step id = some { s.goto id (.editing .contend .locked) with
    guard := some id } := by
    rw [AdmissionState.step, hphase]
    simp only [AdmissionState.lockGuard, hfree]
  set r : AdmissionState := { s.goto id (.editing .contend .locked) with guard := some id } with hr
  have hsurvives : r.survives id = s.survives id := survives_goto _
  have hread := reads_locked (s := r) (fun entry he => hs.filed entry he) (by rw [hr, goto_self])
  set kept := r.queue.filter (r.survives id) with hkept
  set q := r.goto id (.editing .contend (.inspecting kept [])) with hq
  have hqself : q.contender id = { s.contender id with
      phase := .editing .contend (.inspecting kept []) } := by
    rw [hq, goto_self, hr, goto_self]
  have happly : q.step id = some (q.applyEdit id .contend kept) := step_editing (by rw [hqself])
  obtain ⟨own, hedited, hown, hnew⟩ := applyEdit_contend q id kept
  rw [hqself] at hown hnew
  have hby := (ByItself.next hlock hread).trans (.next happly (.refl id _))
  obtain ⟨t, hpublish, hqueue, ht⟩ := publishes hedited
    (((hby.orderly hs).fits id).temporary (by rw [hedited]; rfl))
  have htphase : (t.contender id).phase = .editing .contend (.renamed (kept ++ own)) := by
    rw [ht, goto_self]
  refine ⟨_, own, (hby.trans hpublish).trans (.next (step_editing htphase) (.refl id _)), ?_,
    fun entry he => (hown entry he).trans (hs.fits id).name, hnew, fun entry rest hhead hid => ?_⟩
  · rw [← hsurvives]
    exact (conclude_queue _ _).trans hqueue
  · have hlast : kept ++ own = entry :: rest :=
      hqueue.symm.trans ((conclude_queue _ _).symm.trans hhead)
    rw [hlast]
    exact conclude_head hid

/-- The contender is in the archive, and may be watching the queue. -/
def Admitted (s : AdmissionState) (id : String) : Prop :=
  (s.contender id).phase = .admitted ∨ ∃ stage, (s.contender id).phase = .editing .watch stage

/-- The ticket of the first registered before that of the second. -/
def Earlier (s : AdmissionState) (first second : String) : Prop :=
  [first, second].Sublist (s.registrations.map Registration.id)

/-- A ticket at the head of the queue has the archive for itself, or ordinary tickets that found
nobody to wait for share it. -/
def Exclusive (s : AdmissionState) : Prop :=
  (∃ head rest, s.queue = head :: rest ∧ s.Admitted head.id ∧
    ∀ id, s.Admitted id → id = head.id) ∨
  ∀ id, s.Admitted id → (s.contender id).ticket.preview = false ∧
    ∃ r ∈ s.registrations, r.id = id ∧
      ∀ entry ∈ r.found, entry.preview = false ∧ entry.waiting = false

/-- What the queue of an archive promises its contenders. -/
structure Fair (s : AdmissionState) : Prop where
  exclusive : s.Exclusive
  preview : ∀ id other, s.Admitted id → (s.contender id).ticket.preview = true →
    s.Admitted other → other = id
  turn : ∀ id earlier, s.Admitted id → s.Earlier earlier id → s.Live earlier →
    (s.contender earlier).ticket.preview = false ∧ (s.contender earlier).ticket.waiting = false
  kept : ∀ id, s.Recorded id → s.Live id → (s.contender id).ticket ∈ s.queue
  inspected : ∀ id edit kept entry rest,
    (s.contender id).phase = .editing edit (.inspecting kept (entry :: rest)) →
    s.inspectKernelProcessLock entry.id ≠ .unknown
  unfailed : ∀ id edit, (s.contender id).phase ≠ .editing edit .failed
  guarded : ∀ id, s.guard = some id → ¬s.Crashed id ∧ ∃ t, ByItself id s t ∧ t.guard = none
  unblocked : ∀ id, (s.contender id).phase = .contending → s.guard = none →
    ∃ t, ByItself id s t ∧
      (∀ entry, entry.id ≠ id → (entry ∈ t.queue ↔ entry ∈ s.queue ∧ ¬s.Crashed entry.id)) ∧
      ((∀ entry ∈ s.queue.takeWhile (fun entry => entry.id ≠ id), s.Crashed entry.id) →
        t.Admitted id)
  removed : ∀ id next t, (s.contender id).phase = .editing .remove (.written next) →
    s.step id = some t → t.queue.Sublist s.queue ∧ ¬t.Queued id ∧
      ∀ entry ∈ s.queue, entry.id ≠ id → s.Live entry.id → entry ∈ t.queue
  released : ∀ id, (s.contender id).phase = .finished →
    ¬s.Queued id ∧ s.ticketFile id = false
  unlinked : ∀ id x t, s.step id = some t → x ≠ id → t.ticketFile x = s.ticketFile x

theorem Orderly.admitted (hs : s.Orderly) (h : s.Admitted id) :
    s.Recorded id ∧ s.HasTurn id ∧ s.Live id := by
  have hplace := (hs.fits id).place
  rcases h with hphase | ⟨stage, hphase⟩
  · rw [hphase] at hplace
    exact ⟨hplace.2.1, hplace.2.2, by rw [Live, hphase]; rfl⟩
  · rw [hphase] at hplace
    exact ⟨hplace.1 (by simp), hplace.2.1 rfl, by rw [Live, hphase]; rfl⟩

theorem Orderly.ticket_mem (hs : s.Orderly) (hr : s.Recorded id) (hlive : s.Live id) :
    (s.contender id).ticket ∈ s.queue := by
  obtain ⟨entry, he, rfl⟩ := hs.present id hr hlive
  exact hs.ticket entry he ▸ he

/-- A ticket that others have to wait for is admitted alone, at the head. -/
theorem Orderly.alone (hs : s.Orderly) (h : s.Admitted id)
    (hblocks : (s.contender id).ticket.blocks = true) :
    (∃ head rest, s.queue = head :: rest ∧ head.id = id) ∧
      ∀ other, s.Admitted other → other = id := by
  obtain ⟨hr, hturn, -⟩ := hs.admitted h
  rcases hturn with hfree | ⟨head, rest, hq, hid⟩
  · rw [hfree] at hblocks
    cases hblocks
  · refine ⟨⟨head, rest, hq, hid⟩, fun other ho => ?_⟩
    obtain ⟨hro, hturn, hlive⟩ := hs.admitted ho
    rcases hturn with hfree | ⟨head', rest', hq', hid'⟩
    · have hmem := hs.ticket_mem hro hlive
      have hname := (hs.fits other).name
      have horder := hs.order
      rw [hq] at hmem horder
      rcases List.mem_cons.1 hmem with heq | hmem
      · rw [← hname, heq, hid]
      · have hhead := (List.pairwise_cons.1 horder).1 _ hmem hfree
        rw [hs.ticket head (hq ▸ List.mem_cons_self), hid, hblocks] at hhead
        cases hhead
    · rw [hq] at hq'
      cases hq'
      exact hid'.symm.trans hid

theorem Orderly.exclusive (hs : s.Orderly) : s.Exclusive := by
  by_cases hblocks : ∃ id, s.Admitted id ∧ (s.contender id).ticket.blocks = true
  · obtain ⟨id, h, hb⟩ := hblocks
    obtain ⟨⟨head, rest, hq, rfl⟩, hothers⟩ := hs.alone h hb
    exact .inl ⟨head, rest, hq, h, hothers⟩
  · refine .inr fun id h => ?_
    have hfree : (s.contender id).ticket.blocks = false :=
      Bool.eq_false_iff.2 fun hb => hblocks ⟨id, h, hb⟩
    rw [Ticket.blocks, Bool.or_eq_false_iff] at hfree
    obtain ⟨⟨r, hr, rfl⟩, -⟩ := hs.admitted h
    refine ⟨hfree.1, r, hr, rfl, fun entry he => ?_⟩
    have hfound := List.any_eq_false.1 ((hs.found r hr).symm.trans hfree.2) entry he
    simpa [Ticket.blocks] using hfound

/-- A pair of a list without duplicates is a pair of each sublist that has both. -/
theorem pair_sublist {l m : List α} (h : l.Sublist m) (hnodup : m.Nodup) (hpair : [b, a].Sublist m)
    (hb : b ∈ l) (ha : a ∈ l) : [b, a].Sublist l := by
  induction h with
  | slnil => cases hb
  | cons x h ih =>
    obtain ⟨hx, hnodup⟩ := List.nodup_cons.1 hnodup
    cases hpair with
    | cons _ hpair => exact ih hnodup hpair hb ha
    | cons_cons _ _ => exact absurd (h.subset hb) hx
  | cons_cons x h ih =>
    obtain ⟨hx, hnodup⟩ := List.nodup_cons.1 hnodup
    have hne (y : α) (hy : y ∈ _) : y ≠ x := fun heq => hx (heq ▸ hy)
    cases hpair with
    | cons _ hpair =>
      have hb := List.mem_of_ne_of_mem (hne b (hpair.subset (by simp))) hb
      have ha := List.mem_of_ne_of_mem (hne a (hpair.subset (by simp))) ha
      exact (ih hnodup hpair hb ha).cons x
    | cons_cons _ hpair =>
      have ha := List.mem_of_ne_of_mem (hne a (hpair.subset (by simp))) ha
      exact (List.singleton_sublist.2 ha).cons_cons b

theorem Orderly.turn (hs : s.Orderly) (h : s.Admitted id) (hearlier : s.Earlier earlier id)
    (hlive : s.Live earlier) : (s.contender earlier).ticket.blocks = false := by
  obtain ⟨hr, hturn, hown⟩ := hs.admitted h
  have hre : s.Recorded earlier := by
    obtain ⟨r, hr, hid⟩ := List.mem_map.1 (hearlier.subset List.mem_cons_self)
    exact ⟨r, hr, hid⟩
  have hmem (x : String) (hr : s.Recorded x) (hlive : s.Live x) : x ∈ s.queue.map Ticket.id :=
    List.mem_map.2 ⟨_, hs.ticket_mem hr hlive, (hs.fits x).name⟩
  have hpair := pair_sublist hs.recorded hs.distinct hearlier (hmem _ hre hlive) (hmem _ hr hown)
  rcases hturn with hfree | ⟨head, rest, hq, rfl⟩
  · have horder : (s.queue.map Ticket.id).Pairwise fun x y =>
        (s.contender y).ticket.blocks = false → (s.contender x).ticket.blocks = false := by
      apply List.pairwise_map.2
      apply List.Pairwise.imp_of_mem _ hs.order
      intro x y hx hy hxy
      rw [← hs.ticket x hx, ← hs.ticket y hy]
      exact hxy
    exact List.rel_of_pairwise_cons (horder.sublist hpair) (List.mem_singleton.2 rfl) hfree
  · have hnodup := hs.nodup
    rw [hq, List.map_cons] at hpair hnodup
    cases hpair with
    | cons _ hpair => exact absurd (hpair.subset (by simp)) (List.nodup_cons.1 hnodup).1
    | cons_cons _ hpair => exact absurd (hpair.subset (by simp)) (List.nodup_cons.1 hnodup).1

theorem Orderly.inspected (hs : s.Orderly)
    (hphase : (s.contender id).phase = .editing edit (.inspecting kept (entry :: rest))) :
    s.inspectKernelProcessLock entry.id ≠ .unknown := by
  obtain ⟨-, -, -, hcovers⟩ := hphase ▸ (hs.fits id).place
  have hfile := hs.filed entry (hcovers.sublist.subset (by simp))
  rw [inspectKernelProcessLock, hfile]
  simp only [Bool.true_eq_false, if_false]
  split <;> simp

/-- Of the other contenders, those that survive an edit are those that have not crashed. -/
theorem Orderly.survives_iff (hs : s.Orderly) (he : entry ∈ s.queue) (hid : entry.id ≠ id) :
    s.survives id entry = true ↔ ¬s.Crashed entry.id := by
  simp only [survives, hid, decide_false, Bool.false_or, Crashed]
  constructor
  · intro hlocked hcrashed
    rw [hcrashed] at hlocked
    cases hlocked
  · intro hnot
    exact locked_of_live ((hs.accounted entry he).resolve_right hnot)

/-- Crashed contenders hold nobody up. -/
theorem Orderly.unblocked (hs : s.Orderly) (hphase : (s.contender id).phase = .contending)
    (hfree : s.guard = none) :
    ∃ t, ByItself id s t ∧
      (∀ entry, entry.id ≠ id → (entry ∈ t.queue ↔ entry ∈ s.queue ∧ ¬s.Crashed entry.id)) ∧
      ((∀ entry ∈ s.queue.takeWhile (fun entry => entry.id ≠ id), s.Crashed entry.id) →
        t.Admitted id) := by
  obtain ⟨t, own, hby, hq, hown, hnew, hadmitted⟩ := hs.contends hphase hfree
  refine ⟨t, hby, fun entry hid => ?_, fun hahead => .inl ?_⟩
  · rw [hq, List.mem_append, List.mem_filter]
    constructor
    · rintro (⟨he, hsurvives⟩ | he)
      · exact ⟨he, (hs.survives_iff he hid).1 hsurvives⟩
      · exact absurd (hown entry he) hid
    · rintro ⟨he, hnot⟩
      exact .inl ⟨he, (hs.survives_iff he hid).2 hnot⟩
  · have hdropped : (s.queue.takeWhile fun entry => entry.id ≠ id).filter (s.survives id) = [] := by
      apply List.filter_eq_nil_iff.2
      intro entry he
      have hid : entry.id ≠ id := by simpa using List.mem_takeWhile_imp he
      rw [hs.survives_iff ((List.takeWhile_sublist _).subset he) hid, not_not]
      exact hahead entry he
    have hsplit := List.takeWhile_append_dropWhile (p := fun entry : Ticket => entry.id ≠ id)
      (l := s.queue)
    rw [← hsplit, List.filter_append, hdropped, List.nil_append] at hq
    cases hrest : s.queue.dropWhile fun entry => entry.id ≠ id with
    | cons entry rest =>
      have hid : entry.id = id := by
        have hhead := List.head_dropWhile_not (fun entry : Ticket => entry.id ≠ id)
          (l := s.queue) (by rw [hrest]; exact List.cons_ne_nil _ _)
        simp only [hrest, List.head_cons] at hhead
        simpa using hhead
      rw [hrest, List.filter_cons_of_pos (by simp [survives, hid])] at hq
      exact hadmitted entry _ hq hid
    | nil =>
      have hgone : ¬s.Queued id := by
        rintro ⟨entry, he, hid⟩
        rw [← hsplit, hrest, List.append_nil] at he
        simpa [hid] using List.mem_takeWhile_imp he
      have hlive : s.Live id := by rw [Live, hphase]; rfl
      have hplace := hphase ▸ (hs.fits id).place
      have hregistered : (s.contender id).registered = false :=
        Bool.eq_false_iff.2 fun hr => hgone (hs.present id (hplace.1 hr) hlive)
      rw [hrest, List.filter_nil, List.nil_append] at hq
      obtain ⟨entry, rest, rfl⟩ := List.exists_cons_of_ne_nil (hnew hregistered)
      exact hadmitted entry rest hq (hown entry List.mem_cons_self)

/-- A contender that leaves takes its own ticket out, and crashed ones. -/
theorem Orderly.removed (hs : s.Orderly)
    (hphase : (s.contender id).phase = .editing .remove (.written next))
    (hstep : s.step id = some t) :
    t.queue.Sublist s.queue ∧ ¬t.Queued id ∧
      ∀ entry ∈ s.queue, entry.id ≠ id → s.Live entry.id → entry ∈ t.queue := by
  obtain ⟨hrecorded, -, -, hn, htemporary⟩ := hphase ▸ (hs.fits id).place
  obtain ⟨t', hstep', ht⟩ := renames_written hphase htemporary
  cases Option.some.inj (hstep.symm.trans hstep')
  cases hn.replaces hs hrecorded with
  | registers _ _ hedit => cases hedit
  | drops _ hsub =>
    refine ⟨ht.queue ▸ hsub, ?_, fun entry he hid hlive => ht.queue ▸ hn.live he hlive hid⟩
    rintro ⟨entry, he, hid⟩
    exact hn.gone rfl entry (ht.queue ▸ he) hid

theorem editQueue_ticketFile (edit : QueueEdit) (stage : EditStage) :
    (s.editQueue id edit stage).ticketFile = s.ticketFile := by
  cases stage with
  | inspecting kept rest =>
    cases rest with
    | nil =>
      cases edit with
      | contend =>
        simp only [editQueue, applyEdit]
        split <;> rfl
      | _ => rfl
    | cons entry rest =>
      simp only [editQueue]
      split <;> rfl
  | edited queue =>
    simp only [editQueue]
    split <;> rfl
  | written queue =>
    simp only [editQueue]
    split <;> rfl
  | renamed localQueue =>
    cases edit with
    | contend =>
      simp only [editQueue, conclude]
      split
      · rfl
      · split <;> rfl
    | _ => rfl
  | failed => cases edit <;> rfl
  | locked => rfl

theorem lockGuard_ticketFile (edit : QueueEdit) :
    (s.lockGuard id edit).ticketFile = s.ticketFile := by
  rw [lockGuard]
  split <;> rfl

/-- Nobody unlinks the ticket file of another. -/
theorem step_ticketFile (h : s.step id = some t) (hx : x ≠ id) :
    t.ticketFile x = s.ticketFile x := by
  rw [step] at h
  split at h
  · cases h
    rfl
  · cases h
    rw [lockGuard_ticketFile]
  · cases h
    rw [editQueue_ticketFile]
  · split at h
    · cases h
      rw [lockGuard_ticketFile]
    · cases h
      rfl
  · cases h
    rfl
  · next removed _ =>
    cases h
    cases removed with
    | true => exact Function.update_of_ne hx ..
    | false => rfl
  · cases h

/-- Whatever its contenders do and wherever they crash, the queue of an archive is fair. -/
theorem admission_fair (hrun : Run Step empty actions s) : s.Fair := by
  have hs : s.Orderly := hrun.inv (fun _ _ _ hs h => hs.step h) empty_orderly
  constructor
  case exclusive => exact hs.exclusive
  case preview =>
    intro id other h hpreview ho
    exact (hs.alone h (by simp [Ticket.blocks, hpreview])).2 other ho
  case turn =>
    intro id earlier h hearlier hlive
    have hfree := hs.turn h hearlier hlive
    rwa [Ticket.blocks, Bool.or_eq_false_iff] at hfree
  case kept => exact fun id hr hlive => hs.ticket_mem hr hlive
  case inspected => exact fun id edit kept entry rest hphase => hs.inspected hphase
  case unfailed =>
    intro id edit hphase
    obtain ⟨-, -, hfalse⟩ := hphase ▸ (hs.fits id).place
    exact hfalse
  case guarded =>
    intro id hguard
    refine ⟨fun hcrashed => ?_, hs.unlocksGuard hguard⟩
    have hguarding := (hs.fits id).guard.1 hguard
    rw [hcrashed] at hguarding
    cases hguarding
  case unblocked => exact fun id hphase hfree => hs.unblocked hphase hfree
  case removed => exact fun id next t hphase hstep => hs.removed hphase hstep
  case released =>
    intro id hphase
    have hplace := hphase ▸ (hs.fits id).place
    exact ⟨hplace.2, hplace.1⟩
  case unlinked => exact fun id x t hstep hx => step_ticketFile hstep hx

/-- An ordinary contender is admitted, a preview waits behind it, and the former crashes. -/
def sampleContention : List AdmissionAction :=
  [.enter "a" false false] ++ List.replicate 7 (.step "a") ++ [.enter "b" true true] ++
    List.replicate 8 (.step "b") ++ [.crash "a"] ++ List.replicate 8 (.step "b")

theorem sampleContention_fair :
    ∃ s, Run Step empty sampleContention s ∧ s.Fair ∧ s.Admitted "b" ∧
      (s.contender "b").ticket.preview = true ∧ s.Earlier "a" "b" := by
  have hperform : (match performAll empty sampleContention with
      | none => false
      | some s => (s.contender "b").phase = .admitted ∧ (s.contender "b").ticket.preview = true ∧
        s.registrations.map Registration.id = ["a", "b"]) = true := by
    decide +kernel
  cases hs : performAll empty sampleContention with
  | none => simp [hs] at hperform
  | some s =>
    simp only [hs, decide_eq_true_eq] at hperform
    obtain ⟨hphase, hpreview, hregistrations⟩ := hperform
    have hrun := admissionRun_of_performAll hs
    exact ⟨s, hrun, admission_fair hrun, .inl hphase, hpreview, by
      rw [Earlier, hregistrations]⟩

end AdmissionState

end RipDvd
