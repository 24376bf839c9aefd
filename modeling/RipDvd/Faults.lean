import RipDvd.Program

namespace RipDvd
namespace Program
set_option autoImplicit true

/-- No undisturbed execution of a program ends with one of some faults. -/
def Avoids (F : ε → Prop) (p : Program σ ε α) : Prop :=
  ∀ s e, (p.run s).1 = .error e → ¬F e

variable {F : ε → Prop}

theorem Avoids.pure (a : α) : (pure a : Program σ ε α).Avoids F := fun _ _ h => nomatch h

theorem Avoids.fail (h : ¬F e) : (Program.fail e : Program σ ε α).Avoids F :=
  fun _ _ he => by cases he; exact h

theorem Avoids.read {f : σ → Except ε α} (h : ∀ s e, f s = .error e → ¬F e) :
    (Program.read f).Avoids F :=
  fun s e he => h s e he

theorem Avoids.modify (f : σ → σ) : (Program.modify f : Program σ ε Unit).Avoids F :=
  fun _ _ h => nomatch h

theorem Avoids.transaction {f : σ → Except ε (α × σ)} (h : ∀ s e, f s = .error e → ¬F e) :
    (Program.transaction f).Avoids F := by
  intro s e he
  cases hf : f s with
  | ok r =>
    simp only [Program.transaction, run, hf, Except.map] at he
    exact nomatch he
  | error e' =>
    simp only [Program.transaction, run, hf, Except.map, Except.error.injEq] at he
    exact he ▸ h s e' hf

theorem Avoids.bind {p : Program σ ε α} {f : α → Program σ ε β} (hp : p.Avoids F)
    (hf : ∀ a, (f a).Avoids F) : (p >>= f).Avoids F := by
  intro s e he
  rw [run_bind] at he
  have hps := hp s
  cases hr : p.run s with
  | mk r t =>
    rw [hr] at he hps
    cases r with
    | ok a => exact hf a t e he
    | error e' => exact hps e (by simpa using he)

theorem Avoids.each {f : β → Program σ ε Unit} {l : List β} (h : ∀ b ∈ l, (f b).Avoids F) :
    (Program.each l f).Avoids F := by
  induction l with
  | nil => exact .pure ()
  | cons b l ih =>
    exact .bind (h b List.mem_cons_self) fun _ => ih fun c hc => h c (List.mem_cons_of_mem _ hc)

theorem run_mapError (g : ε → ε') (p : Program σ ε α) (s : σ) :
    (p.mapError g).run s = (withError g (p.run s).1, (p.run s).2) := by
  induction p generalizing s with
  | done r => cases r <;> rfl
  | step act next ih => exact ih s (act s)

theorem Avoids.mapError {F : ε' → Prop} {g : ε → ε'} {p : Program σ ε α}
    (h : p.Avoids fun e => F (g e)) : (p.mapError g).Avoids F := by
  intro s e he
  rw [run_mapError] at he
  have hs := h s
  cases hr : (p.run s).1 with
  | ok a =>
    rw [hr] at he
    exact nomatch he
  | error e' =>
    rw [hr] at he
    cases he
    exact hs e' hr

theorem run_ensure (p : Program σ ε α) (cleanup : Program σ ε Unit) (s : σ) :
    (p.ensure cleanup).run s = (cleanup.bind fun _ => .done (p.run s).1).run (p.run s).2 := by
  induction p generalizing s with
  | done r => rfl
  | step act next ih => exact ih s (act s)

theorem Avoids.ensure {p : Program σ ε α} {cleanup : Program σ ε Unit} (hp : p.Avoids F)
    (hc : cleanup.Avoids F) : (p.ensure cleanup).Avoids F := by
  intro s e he
  rw [run_ensure] at he
  exact Avoids.bind (f := fun _ => .done (p.run s).1) hc
    (fun _ t e' he' => hp s e' he') _ e he

end Program
end RipDvd
