import Mathlib.Logic.Basic
import Mathlib.Data.List.Forall2

namespace RipDvd
set_option autoImplicit true

/-- Throw when a check fails. -/
def rejectIf (bad : Prop) [Decidable bad] (e : ε) : Except ε Unit :=
  if bad then .error e else .ok ()

theorem rejectIf_ok {bad : Prop} [Decidable bad] {e : ε} {u : Unit} :
    rejectIf bad e = .ok u ↔ ¬bad := by
  rw [rejectIf]
  by_cases h : bad
  · rw [if_pos h]
    exact ⟨fun h' => (nomatch h'), fun hn => absurd h hn⟩
  · rw [if_neg h]
    exact ⟨fun _ => h, fun _ => rfl⟩

theorem bind_ok {x : Except ε α} {f : α → Except ε β} :
    x >>= f = .ok b ↔ ∃ a, x = .ok a ∧ f a = .ok b := by
  cases x with
  | error e => exact ⟨fun h => (nomatch h), fun ⟨_, h, _⟩ => (nomatch h)⟩
  | ok a => exact ⟨fun h => ⟨a, rfl, h⟩, fun ⟨_, h, hf⟩ => by cases h; exact hf⟩

theorem pure_ok {a b : α} : (pure a : Except ε α) = .ok b ↔ a = b :=
  ⟨fun h => by cases h; rfl, fun h => by cases h; rfl⟩

/-- Translate the fault of a check. -/
def withError (g : ε → ε') : Except ε α → Except ε' α
  | .ok a => .ok a
  | .error e => .error (g e)

theorem withError_ok {g : ε → ε'} {x : Except ε α} :
    withError g x = .ok a ↔ x = .ok a := by
  cases x with
  | ok => exact ⟨fun h => by cases h; rfl, fun h => by cases h; rfl⟩
  | error => exact ⟨fun h => (nomatch h), fun h => (nomatch h)⟩

theorem map_ok {f : α → β} {x : Except ε α} :
    x.map f = .ok b ↔ ∃ a, x = .ok a ∧ f a = b := by
  cases x with
  | error e => exact ⟨fun h => (nomatch h), fun ⟨_, h, _⟩ => (nomatch h)⟩
  | ok a => exact ⟨fun h => ⟨a, rfl, Except.ok.inj h⟩,
    fun ⟨_, h, hf⟩ => by cases h; exact congrArg _ hf⟩

theorem exists_ok {x : Except ε α} (h : x.isOk = true) : ∃ a, x = .ok a := by
  cases x with
  | ok a => exact ⟨a, rfl⟩
  | error e => cases h

/-- Checks that all pass yield their results in order. -/
theorem forM_ok {f : α → Except ε Unit} {xs : List α} :
    xs.forM f = .ok () ↔ ∀ x ∈ xs, f x = .ok () := by
  induction xs with
  | nil => exact ⟨fun _ x hx => (nomatch hx), fun _ => rfl⟩
  | cons x xs ih =>
    show (f x >>= fun _ => xs.forM f) = .ok () ↔ _
    rw [bind_ok, List.forall_mem_cons, ← ih]
    exact ⟨fun ⟨_, hx, hxs⟩ => ⟨hx, hxs⟩, fun ⟨hx, hxs⟩ => ⟨(), hx, hxs⟩⟩

theorem mapM_ok {f : α → Except ε β} {l : List α} (h : ∀ a ∈ l, ∃ b, f a = .ok b) :
    ∃ bs, l.mapM f = .ok bs ∧ List.Forall₂ (fun a b => f a = .ok b) l bs := by
  induction l with
  | nil => exact ⟨[], rfl, .nil⟩
  | cons a l ih =>
    obtain ⟨b, hb⟩ := h a List.mem_cons_self
    obtain ⟨bs, hbs, hf⟩ := ih fun a ha => h a (List.mem_cons_of_mem _ ha)
    exact ⟨b :: bs, by rw [List.mapM_cons, hb, hbs]; rfl, .cons hb hf⟩

/-- A sequential program over a durable state. Every `step` is atomic and chooses its
continuation from the state it found; a crash can fall before any of them. -/
inductive Program (σ ε α : Type) : Type where
  | done (result : Except ε α)
  | step (act : σ → σ) (next : σ → Program σ ε α)

namespace Program

def bind : Program σ ε α → (α → Program σ ε β) → Program σ ε β
  | .done (.ok a), f => f a
  | .done (.error e), _ => .done (.error e)
  | .step act next, f => .step act fun s => (next s).bind f

instance : Monad (Program σ ε) where
  pure a := .done (.ok a)
  bind := Program.bind

/-- Stop with a fault, leaving the state as it is. -/
def fail (e : ε) : Program σ ε α := .done (.error e)

/-- A transaction: it commits the state it computes, or faults and changes nothing. -/
def transaction (f : σ → Except ε (α × σ)) : Program σ ε α :=
  .step (fun s => match f s with
    | .ok (_, t) => t
    | .error _ => s) fun s => .done ((f s).map Prod.fst)

def read (f : σ → Except ε α) : Program σ ε α :=
  .step id fun s => .done (f s)

def modify (f : σ → σ) : Program σ ε Unit :=
  .step f fun _ => .done (.ok ())

/-- Translate a fault on its way out. -/
def mapError (g : ε → ε') : Program σ ε α → Program σ ε' α
  | .done (.ok a) => .done (.ok a)
  | .done (.error e) => .done (.error (g e))
  | .step act next => .step act fun s => (next s).mapError g

/-- Run `cleanup` whether or not `p` faults, and keep the outcome of `p`. -/
def ensure (p : Program σ ε α) (cleanup : Program σ ε Unit) : Program σ ε α :=
  match p with
  | .done r => cleanup.bind fun _ => .done r
  | .step act next => .step act fun s => (next s).ensure cleanup

/-- Run a program for every element of a list, in order. -/
def each : List β → (β → Program σ ε Unit) → Program σ ε Unit
  | [], _ => pure ()
  | b :: bs, f => f b >>= fun _ => each bs f

/-- The undisturbed execution. -/
def run : Program σ ε α → σ → Except ε α × σ
  | .done r, s => (r, s)
  | .step act next, s => (next s).run (act s)

/-- Every state in which a crash can leave an undisturbed execution, the last one included. -/
def crashes : Program σ ε α → σ → List σ
  | .done _, s => [s]
  | .step act next, s => s :: (next s).crashes (act s)

@[simp] theorem run_pure (a : α) (s : σ) :
    (pure a : Program σ ε α).run s = (.ok a, s) := rfl

@[simp] theorem run_fail (e : ε) (s : σ) :
    (fail e : Program σ ε α).run s = (.error e, s) := rfl

theorem run_bind (p : Program σ ε α) (f : α → Program σ ε β) (s : σ) :
    (p >>= f).run s = match p.run s with
      | (.ok a, t) => (f a).run t
      | (.error e, t) => (.error e, t) := by
  induction p generalizing s with
  | done r => cases r <;> rfl
  | step act next ih => exact ih s (act s)

theorem run_mem_crashes (p : Program σ ε α) (s : σ) : (p.run s).2 ∈ p.crashes s := by
  induction p generalizing s with
  | done => exact List.mem_singleton.2 rfl
  | step act next ih => exact List.mem_cons_of_mem _ (ih s (act s))

theorem bind_pure (p : Program σ ε α) : p >>= pure = p := by
  induction p with
  | done r => cases r <;> rfl
  | step act next ih => exact congrArg _ (funext ih)

theorem bind_assoc (p : Program σ ε α) (f : α → Program σ ε β) (g : β → Program σ ε γ) :
    p >>= f >>= g = p >>= fun a => f a >>= g := by
  induction p with
  | done r => cases r <;> rfl
  | step act next ih => exact congrArg _ (funext ih)

instance : LawfulMonad (Program σ ε) :=
  LawfulMonad.mk' _ bind_pure (fun _ _ => rfl) bind_assoc

/-- While others move the state within `R` between its steps, `p` keeps `I` wherever it can be
cut off and returns only with `Q`. -/
def Safe (R : σ → σ → Prop) (I : σ → Prop) (Q : Except ε α → σ → Prop) :
    Program σ ε α → σ → Prop
  | .done r, s => I s ∧ ∀ s', R s s' → Q r s'
  | .step act next, s => I s ∧ ∀ s', R s s' → (next s').Safe R I Q (act s')

variable {R : σ → σ → Prop} {I : σ → Prop} {Q : Except ε α → σ → Prop}

theorem Safe.now {p : Program σ ε α} (h : p.Safe R I Q s) : I s := by
  cases p with
  | done => exact h.1
  | step => exact h.1

theorem Safe.weaken {J : σ → Prop} {Q' : Except ε α → σ → Prop} {p : Program σ ε α}
    (h : p.Safe R I Q s) (hI : ∀ s, I s → J s) (hQ : ∀ r s, Q r s → Q' r s) :
    p.Safe R J Q' s := by
  induction p generalizing s with
  | done r => exact ⟨hI _ h.1, fun s' hr => hQ _ _ (h.2 s' hr)⟩
  | step act next ih => exact ⟨hI _ h.1, fun s' hr => ih s' (h.2 s' hr)⟩

/-- Others may move the state before the program goes on. -/
theorem Safe.move {p : Program σ ε α} (h : p.Safe R I Q s)
    (trans : ∀ a b c, R a b → R b c → R a c) (stable : ∀ a b, I a → R a b → I b)
    (hr : R s t) : p.Safe R I Q t := by
  cases p with
  | done => exact ⟨stable _ _ h.1 hr, fun s' hs => h.2 s' (trans _ _ _ hr hs)⟩
  | step => exact ⟨stable _ _ h.1 hr, fun s' hs => h.2 s' (trans _ _ _ hr hs)⟩

theorem Safe.bind {p : Program σ ε α} {f : α → Program σ ε β} {M : Except ε α → σ → Prop}
    {Q : Except ε β → σ → Prop} (h : p.Safe R I M s)
    (ok : ∀ a t, I t → (∀ t', R t t' → M (.ok a) t') → (f a).Safe R I Q t)
    (error : ∀ e t, M (.error e) t → Q (.error e) t) :
    (p >>= f).Safe R I Q s := by
  induction p generalizing s with
  | done r =>
    cases r with
    | ok a => exact ok a s h.1 h.2
    | error e => exact ⟨h.1, fun s' hr => error e s' (h.2 s' hr)⟩
  | step act next ih => exact ⟨h.1, fun s' hr => ih s' (h.2 s' hr)⟩

theorem Safe.mapError {p : Program σ ε α} {g : ε → ε'} {Q : Except ε' α → σ → Prop}
    (h : p.Safe R I (fun r s => Q (match r with
      | .ok a => .ok a
      | .error e => .error (g e)) s) s) :
    (p.mapError g).Safe R I Q s := by
  induction p generalizing s with
  | done r => cases r <;> exact h
  | step act next ih => exact ⟨h.1, fun s' hr => ih s' (h.2 s' hr)⟩

theorem Safe.run {p : Program σ ε α} (h : p.Safe R I Q s) (refl : ∀ s, R s s) :
    Q (p.run s).1 (p.run s).2 := by
  induction p generalizing s with
  | done => exact h.2 _ (refl _)
  | step act next ih => exact ih s (h.2 s (refl s))

theorem Safe.crashes {p : Program σ ε α} (h : p.Safe R I Q s) (refl : ∀ s, R s s)
    (ht : t ∈ p.crashes s) : I t := by
  induction p generalizing s with
  | done => exact List.mem_singleton.1 ht ▸ h.1
  | step act next ih =>
    rcases List.mem_cons.1 ht with rfl | ht
    · exact h.1
    · exact ih s (h.2 s (refl s)) ht

/-! Rules for a program that nobody disturbs. -/

/-- What a program returns is what its undisturbed execution returns. -/
theorem Safe.with_run {p : Program σ ε α} (h : p.Safe Eq I Q s) :
    p.Safe Eq I (fun r t => Q r t ∧ p.run s = (r, t)) s := by
  induction p generalizing s with
  | done r => exact ⟨h.1, fun t he => he ▸ ⟨h.2 s rfl, rfl⟩⟩
  | step act next ih =>
    refine ⟨h.1, fun t he => ?_⟩
    subst he
    exact ih s (h.2 s rfl)

/-- A program ends where its invariant holds. -/
theorem Safe.with_now {p : Program σ ε α} (h : p.Safe Eq I Q s) :
    p.Safe Eq I (fun r t => Q r t ∧ I t) s := by
  induction p generalizing s with
  | done r => exact ⟨h.1, fun t he => ⟨h.2 t he, he ▸ h.1⟩⟩
  | step act next ih => exact ⟨h.1, fun t he => ih t (h.2 t he)⟩

theorem Safe.finish {r : Except ε α} (hI : I s) (hQ : Q r s) :
    (Program.done r : Program σ ε α).Safe Eq I Q s :=
  ⟨hI, fun _ he => he ▸ hQ⟩

theorem Safe.seq {p : Program σ ε α} {f : α → Program σ ε β} {M : Except ε α → σ → Prop}
    {Q : Except ε β → σ → Prop} (h : p.Safe Eq I M s)
    (ok : ∀ a t, I t → M (.ok a) t → (f a).Safe Eq I Q t)
    (error : ∀ e t, M (.error e) t → Q (.error e) t) :
    (p >>= f).Safe Eq I Q s :=
  h.bind (fun a t hI hM => ok a t hI (hM t rfl)) error

theorem Safe.read_only {f : σ → Except ε α} (hI : I s) (hQ : Q (f s) s) :
    (read f).Safe Eq I Q s :=
  ⟨hI, fun _ he => he ▸ .finish hI hQ⟩

theorem Safe.modify_only {f : σ → σ} {Q : Except ε Unit → σ → Prop} (hI : I s) (ht : I (f s))
    (hQ : Q (.ok ()) (f s)) : (modify f : Program σ ε Unit).Safe Eq I Q s :=
  ⟨hI, fun _ he => he ▸ .finish ht hQ⟩

theorem Safe.transaction_only {f : σ → Except ε (α × σ)} (hI : I s)
    (ok : ∀ a t, f s = .ok (a, t) → I t ∧ Q (.ok a) t)
    (error : ∀ e, f s = .error e → Q (.error e) s) : (transaction f).Safe Eq I Q s := by
  refine ⟨hI, fun s' he => ?_⟩
  subst he
  cases hf : f s with
  | ok r =>
    simp only [hf, Except.map]
    exact .finish (ok r.1 r.2 hf).1 (ok r.1 r.2 hf).2
  | error e =>
    simp only [hf, Except.map]
    exact .finish hI (error e hf)

theorem Safe.read_bind {f : σ → Except ε α} {g : α → Program σ ε β}
    {Q : Except ε β → σ → Prop} (hI : I s)
    (ok : ∀ a, f s = .ok a → (g a).Safe Eq I Q s)
    (error : ∀ e, f s = .error e → Q (.error e) s) :
    (read f >>= g).Safe Eq I Q s := by
  refine ⟨hI, fun s' he => ?_⟩
  subst he
  cases hf : f s with
  | ok a =>
    simp only [id, hf]
    exact ok a hf
  | error e =>
    simp only [id, hf]
    exact ⟨hI, fun _ he => he ▸ error e hf⟩

/-- A read that is known to succeed. -/
theorem Safe.read_ok {f : σ → Except ε α} {g : α → Program σ ε β}
    {Q : Except ε β → σ → Prop} (hI : I s) (hf : f s = .ok a)
    (h : (g a).Safe Eq I Q s) : (read f >>= g).Safe Eq I Q s :=
  .read_bind hI (fun _ he => Except.ok.inj (hf.symm.trans he) ▸ h)
    fun _ he => nomatch hf.symm.trans he

theorem Safe.modify_bind {f : σ → σ} {g : Unit → Program σ ε β}
    {Q : Except ε β → σ → Prop} (hI : I s) (h : (g ()).Safe Eq I Q (f s)) :
    (modify f >>= g).Safe Eq I Q s :=
  ⟨hI, fun _ he => he ▸ h⟩

theorem Safe.transaction_bind {f : σ → Except ε (α × σ)} {g : α → Program σ ε β}
    {Q : Except ε β → σ → Prop} (hI : I s)
    (ok : ∀ a t, f s = .ok (a, t) → (g a).Safe Eq I Q t)
    (error : ∀ e, f s = .error e → Q (.error e) s) :
    (transaction f >>= g).Safe Eq I Q s := by
  refine ⟨hI, fun s' he => ?_⟩
  subst he
  cases hf : f s with
  | ok r =>
    simp only [hf, Except.map]
    exact ok r.1 r.2 hf
  | error e =>
    simp only [hf, Except.map]
    exact ⟨hI, fun _ he => he ▸ error e hf⟩

/-- A loop whose every round keeps an invariant of the elements still to come. -/
theorem Safe.each {f : β → Program σ ε Unit} {J : List β → σ → Prop} {l : List β}
    (hI : ∀ s, J [] s → I s)
    (step : ∀ b rest s, J (b :: rest) s →
      (f b).Safe Eq I (fun r t => r = .ok () ∧ J rest t) s) (hs : J l s) :
    (Program.each l f).Safe Eq I (fun r t => r = .ok () ∧ J [] t) s := by
  induction l generalizing s with
  | nil => exact .finish (hI s hs) ⟨rfl, hs⟩
  | cons b rest ih => exact .seq (step b rest s hs) (fun _ t _ hm => ih hm.2) fun e t hm =>
    nomatch hm.1

/-- The cleanup of a program runs after it, whatever came of it. -/
theorem Safe.ensure {p : Program σ ε α} {cleanup : Program σ ε Unit}
    {M Q : Except ε α → σ → Prop} (h : p.Safe Eq I M s)
    (hc : ∀ r t, I t → M r t → cleanup.Safe Eq I (fun c t' => match c with
      | .ok _ => Q r t'
      | .error e => Q (.error e) t') t) :
    (p.ensure cleanup).Safe Eq I Q s := by
  induction p generalizing s with
  | done r =>
    refine Safe.seq (f := fun _ => .done r) (hc r s h.1 (h.2 s rfl)) (fun _ t hI hQ => ?_)
      fun e t hQ => hQ
    exact .finish hI hQ
  | step act next ih => exact ⟨h.1, fun s' hr => ih s' (h.2 s' hr)⟩

end Program

/-- Where one of the programs `q i`, and another of them after each crash or fault, can leave the
state. -/
inductive Attempts (q : ι → Program σ ε α) : σ → σ → Prop where
  | none : Attempts q s s
  | crashed (i : ι) (h : s' ∈ (q i).crashes s) (rest : Attempts q s' t) : Attempts q s t

/-- An invariant of every attempt, established before the first, is there for the next. -/
theorem Attempts.safe {q : ι → Program σ ε α} {I : σ → Prop} {Q : ι → Except ε α → σ → Prop}
    (hq : ∀ i s, I s → (q i).Safe Eq I (Q i) s) (h : Attempts q s t) (hs : I s) : I t := by
  induction h with
  | none => exact hs
  | crashed i h rest ih => exact ih ((hq i _ hs).crashes (fun _ => rfl) h)

end RipDvd
