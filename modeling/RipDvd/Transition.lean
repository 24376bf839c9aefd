namespace RipDvd
set_option autoImplicit true

/-- A run of a labelled transition system, with the labels of its steps in order. -/
inductive Run {σ : Type u} {α : Type v} (step : σ → α → σ → Prop) : σ → List α → σ → Prop
  | nil (s : σ) : Run step s [] s
  | cons (h : step s a t) (hr : Run step t as u) : Run step s (a :: as) u

variable {σ : Type u} {α : Type v} {step : σ → α → σ → Prop} {s t u : σ} {as bs : List α}

/-- What every step keeps holds after every run. -/
theorem Run.inv {I : σ → Prop} (hr : Run step s as t)
    (hstep : ∀ s a t, I s → step s a t → I t) (hs : I s) : I t := by
  induction hr with
  | nil => exact hs
  | cons h _ ih => exact ih (hstep _ _ _ hs h)

theorem Run.append (hr : Run step s as t) (ht : Run step t bs u) : Run step s (as ++ bs) u := by
  induction hr with
  | nil => exact ht
  | cons h _ ih => exact .cons h (ih ht)

theorem Run.single (h : step s a t) : Run step s [a] t := .cons h (.nil t)

/-- A run whose steps are all steps of another system is a run of that. -/
theorem Run.mono {step' : σ → α → σ → Prop} (hr : Run step s as t)
    (h : ∀ a ∈ as, ∀ s t, step s a t → step' s a t) : Run step' s as t := by
  induction hr with
  | nil => exact .nil _
  | cons hs _ ih =>
    exact .cons (h _ List.mem_cons_self _ _ hs) (ih fun a ha => h a (List.mem_cons_of_mem _ ha))

/-- Whatever holds of the last state and not of the first came about in some step. -/
theorem Run.enters {Q : σ → Prop} (hr : Run step s as t) (ht : Q t) (hs : ¬Q s) :
    ∃ r a r', step r a r' ∧ a ∈ as ∧ ¬Q r ∧ Q r' := by
  induction hr with
  | nil => exact absurd ht hs
  | @cons s a t as u h _ ih =>
    by_cases hq : Q t
    · exact ⟨s, a, t, h, List.mem_cons_self, hs, hq⟩
    · obtain ⟨r, b, r', hstep, hb, hr⟩ := ih ht hq
      exact ⟨r, b, r', hstep, List.mem_cons_of_mem a hb, hr⟩

/-- Two conditions that agree on the steps from states with an invariant agree on runs. -/
theorem Run.guarded {I : σ → Prop} {P Q : σ → α → σ → Prop} (hs : I s)
    (hstep : ∀ s a t, I s → step s a t → I t)
    (h : ∀ s a t, I s → step s a t → (P s a t ↔ Q s a t)) :
    Run (fun s a t => step s a t ∧ P s a t) s as t ↔
      Run (fun s a t => step s a t ∧ Q s a t) s as t := by
  have hone {P Q : σ → α → σ → Prop} (h : ∀ s a t, I s → step s a t → P s a t → Q s a t)
      (hr : Run (fun s a t => step s a t ∧ P s a t) s as t) :
      Run (fun s a t => step s a t ∧ Q s a t) s as t := by
    induction hr with
    | nil => exact .nil _
    | cons hstepped _ ih =>
      apply Run.cons ⟨hstepped.1, h _ _ _ hs hstepped.1 hstepped.2⟩
      exact ih (hstep _ _ _ hs hstepped.1)
  constructor
  · exact hone fun s a t hi hstepped => (h s a t hi hstepped).1
  · exact hone fun s a t hi hstepped => (h s a t hi hstepped).2

/-- An event that brings about what rules it out, for good, happens once. -/
theorem Run.once {I : σ → Prop} {event : α → Option β} {Q : σ → β → Prop}
    (hr : Run step s as t) (hs : I s) (hinv : ∀ s a t, I s → step s a t → I t)
    (hkeep : ∀ s a t b, I s → step s a t → Q s b → Q t b)
    (hnew : ∀ s a t b, I s → step s a t → event a = some b → ¬Q s b ∧ Q t b) :
    (as.filterMap event).Nodup ∧ ∀ b ∈ as.filterMap event, ¬Q s b := by
  induction hr with
  | nil => exact ⟨List.nodup_nil, List.forall_mem_nil _⟩
  | @cons s a t as u h _ ih =>
    obtain ⟨hnodup, hnone⟩ := ih (hinv _ _ _ hs h)
    have hrest : ∀ b ∈ as.filterMap event, ¬Q s b := fun b hb hq =>
      hnone b hb (hkeep _ _ _ _ hs h hq)
    cases hevent : event a with
    | none =>
      rw [List.filterMap_cons_none hevent]
      exact ⟨hnodup, hrest⟩
    | some b =>
      obtain ⟨hbefore, hafter⟩ := hnew _ _ _ _ hs h hevent
      rw [List.filterMap_cons_some hevent]
      refine ⟨List.nodup_cons.2 ⟨fun hb => hnone b hb hafter, hnodup⟩, ?_⟩
      intro other hother
      obtain rfl | hother := List.mem_cons.1 hother
      · exact hbefore
      · exact hrest other hother

end RipDvd
