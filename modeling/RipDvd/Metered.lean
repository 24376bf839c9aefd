import Mathlib.Logic.Basic

namespace RipDvd
set_option autoImplicit true

/-- A computation that counts its reads and may fail. -/
abbrev Metered (ε α : Type) := StateT Nat (Except ε) α

namespace Metered

def fail (error : ε) : Metered ε α := fun _ => .error error

/-- Fail when a check does. -/
def reject (refused : Prop) [Decidable refused] (error : ε) : Metered ε Unit :=
  fun reads => if refused then .error error else .ok ((), reads)

/-- One read, unless all that are allowed were made. -/
def read (limit : Nat) (error : ε) (value : α) : Metered ε α :=
  fun reads => if limit ≤ reads then .error error else .ok (value, reads + 1)

/-- Fail in another way where the computation fails. -/
def rethrow (change : ε → ε') (p : Metered ε α) : Metered ε' α :=
  fun reads => (p.run reads).mapError change

theorem run_bind {p : Metered ε α} {f : α → Metered ε β} : (p >>= f).run reads =
    match p.run reads with
    | .ok (a, after) => (f a).run after
    | .error error => .error error := by
  show (p reads >>= fun x => f x.1 x.2) = _
  cases hp : p reads with
  | error e =>
    simp only [StateT.run, hp]
    rfl
  | ok x =>
    simp only [StateT.run, hp]
    rfl

theorem run_pure {a : α} : (pure a : Metered ε α).run reads = .ok (a, reads) := rfl

/-- Where a sequence did not fail, neither of its parts did. -/
theorem bind_ok {p : Metered ε α} {f : α → Metered ε β} :
    (p >>= f).run reads = .ok (b, after) ↔
      ∃ a between, p.run reads = .ok (a, between) ∧ (f a).run between = .ok (b, after) := by
  rw [run_bind]
  cases hp : p.run reads with
  | error error => exact ⟨fun h => (nomatch h), fun ⟨_, _, h, _⟩ => (nomatch h)⟩
  | ok result =>
    constructor
    · exact fun h => ⟨result.1, result.2, rfl, h⟩
    · intro h
      obtain ⟨a, between, hresult, hrest⟩ := h
      cases hresult
      exact hrest

theorem rethrow_ok {change : ε → ε'} {p : Metered ε α} :
    (rethrow change p).run reads = .ok result ↔ p.run reads = .ok result := by
  simp only [StateT.run, rethrow]
  cases p reads with
  | ok other => exact ⟨fun h => by cases h; rfl, fun h => by cases h; rfl⟩
  | error error => exact ⟨fun h => (nomatch h), fun h => (nomatch h)⟩

/-- A computation whose result has a property makes so many reads at most, and it does not fail
in a way that is excluded while the limit leaves it that many. -/
structure Spends (limit : Nat) (excluded : ε → Prop) (cost : Nat) (p : Metered ε α)
    (Q : α → Prop) : Prop where
  ok : ∀ {reads a after}, p.run reads = .ok (a, after) → after ≤ reads + cost ∧ Q a
  error : ∀ {reads error}, p.run reads = .error error → reads + cost ≤ limit → ¬excluded error

section

variable {limit cost : Nat} {excluded : ε → Prop} {p : Metered ε α} {Q : α → Prop}

theorem Spends.weaken (h : Spends limit excluded cost p Q) (hcost : cost ≤ more)
    (hQ : ∀ a, Q a → R a) : Spends limit excluded more p R := by
  constructor
  case ok =>
    intro reads a after hrun
    obtain ⟨hafter, hresult⟩ := h.ok hrun
    exact ⟨by omega, hQ a hresult⟩
  case error =>
    intro reads error hrun hleft
    exact h.error hrun (by omega)

theorem Spends.pure {a : α} (h : Q a) : Spends limit excluded cost (pure a) Q := by
  constructor
  case ok =>
    intro reads b after hrun
    cases hrun
    exact ⟨Nat.le_add_right reads cost, h⟩
  case error => exact fun hrun => nomatch hrun

theorem Spends.fail {error : ε} (h : ¬excluded error) :
    Spends limit excluded cost (fail error) Q := by
  constructor
  case ok => exact fun hrun => nomatch hrun
  case error =>
    intro reads error hrun
    cases hrun
    exact fun _ => h

theorem reject_ok {refused : Prop} [Decidable refused] {error : ε} {u : Unit} :
    (reject refused error).run reads = .ok (u, after) ↔ ¬refused ∧ after = reads := by
  by_cases h : refused
  · simp only [StateT.run, reject, if_pos h]
    exact ⟨fun h' => (nomatch h'), fun h' => absurd h h'.1⟩
  · simp only [StateT.run, reject, if_neg h]
    constructor
    · intro heq
      cases heq
      exact ⟨h, rfl⟩
    · intro hsame
      rw [hsame.2]

theorem Spends.reject {refused : Prop} [Decidable refused] {error : ε} (h : ¬excluded error) :
    Spends limit excluded cost (reject refused error) fun _ => ¬refused := by
  constructor
  case ok =>
    intro reads u after hrun
    obtain ⟨hrefused, rfl⟩ := reject_ok.1 hrun
    exact ⟨Nat.le_add_right after cost, hrefused⟩
  case error =>
    intro reads error' hrun hleft
    simp only [StateT.run, Metered.reject] at hrun
    split at hrun
    · cases hrun
      exact h
    · cases hrun

theorem Spends.read {error : ε} {value : α} (h : Q value) :
    Spends limit excluded 1 (read limit error value) Q := by
  constructor
  case ok =>
    intro reads a after hrun
    simp only [StateT.run, Metered.read] at hrun
    split at hrun
    · cases hrun
    · cases hrun
      exact ⟨Nat.le_refl _, h⟩
  case error =>
    intro reads error' hrun hleft
    simp only [StateT.run, Metered.read] at hrun
    rw [if_neg (by omega)] at hrun
    cases hrun

/-- A check that is known to pass. -/
theorem Spends.passed {refused : Prop} [Decidable refused] {error : ε} (h : ¬refused) :
    Spends limit excluded cost (Metered.reject refused error) fun _ => True := by
  constructor
  case ok =>
    intro reads u after hrun
    obtain ⟨-, rfl⟩ := reject_ok.1 hrun
    exact ⟨Nat.le_add_right after cost, trivial⟩
  case error =>
    intro reads error' hrun hleft
    simp only [StateT.run, Metered.reject, if_neg h] at hrun
    cases hrun

/-- What a computation leaves of the cost is left to the one behind it. -/
theorem Spends.bind {f : α → Metered ε β} {R : β → Prop} (hp : Spends limit excluded cost p Q)
    (hcost : cost ≤ total) (hf : ∀ a, Q a → Spends limit excluded (total - cost) (f a) R) :
    Spends limit excluded total (p >>= f) R := by
  constructor
  case ok =>
    intro reads b after hrun
    obtain ⟨a, between, hfirst, hrest⟩ := bind_ok.1 hrun
    obtain ⟨hbetween, ha⟩ := hp.ok hfirst
    obtain ⟨hafter, hb⟩ := (hf a ha).ok hrest
    exact ⟨by omega, hb⟩
  case error =>
    intro reads error hrun hleft
    rw [run_bind] at hrun
    cases hfirst : p.run reads with
    | error error' =>
      rw [hfirst] at hrun
      cases hrun
      exact hp.error hfirst (by omega)
    | ok result =>
      rw [hfirst] at hrun
      obtain ⟨hbetween, ha⟩ := hp.ok hfirst
      exact (hf _ ha).error hrun (by omega)

/-- A computation that does not read leaves all of the cost. -/
theorem Spends.check {f : α → Metered ε β} {R : β → Prop} (hp : Spends limit excluded 0 p Q)
    (hf : ∀ a, Q a → Spends limit excluded total (f a) R) :
    Spends limit excluded total (p >>= f) R :=
  hp.bind (Nat.zero_le total) hf

theorem Spends.rethrow {excluded' : ε' → Prop} {change : ε → ε'}
    (hp : Spends limit excluded cost p Q)
    (hchange : ∀ error, excluded' (change error) → excluded error) :
    Spends limit excluded' cost (rethrow change p) Q := by
  constructor
  case ok => exact fun hrun => hp.ok (rethrow_ok.1 hrun)
  case error =>
    intro reads error hrun hleft
    simp only [StateT.run, Metered.rethrow] at hrun
    cases hfirst : p.run reads with
    | ok result =>
      rw [StateT.run] at hfirst
      rw [hfirst] at hrun
      cases hrun
    | error error' =>
      have hgiven := hfirst
      rw [StateT.run] at hfirst
      rw [hfirst] at hrun
      cases hrun
      exact fun hbad => hp.error hgiven hleft (hchange error' hbad)

end

/-- Two computations have the same result where neither fails. -/
def Agree (p : Metered ε α) (q : Metered ε' α) : Prop :=
  ∀ reads reads' a b after after',
    p.run reads = .ok (a, after) → q.run reads' = .ok (b, after') → a = b

theorem Agree.pure (a : α) : Agree (pure a : Metered ε α) (pure a : Metered ε' α) := by
  intro reads reads' b c after after' hb hc
  cases hb
  cases hc
  rfl

theorem Agree.fail {error : ε} {q : Metered ε' α} : Agree (fail error) q :=
  fun _ _ _ _ _ _ hleft => nomatch hleft

/-- What is known of the results makes them the same. -/
theorem Agree.of_spends {p : Metered ε α} {q : Metered ε' α} {Q R : α → Prop}
    (hp : Spends limit excluded cost p Q) (hq : Spends limit' excluded' cost' q R)
    (h : ∀ a b, Q a → R b → a = b) : Agree p q :=
  fun _ _ a b _ _ hleft hright => h a b (hp.ok hleft).2 (hq.ok hright).2

theorem Agree.ite [Decidable c] {p p' : Metered ε α} {q q' : Metered ε' α} (h : Agree p q)
    (h' : Agree p' q') : Agree (if c then p else p') (if c then q else q') := by
  split
  · exact h
  · exact h'

theorem Agree.unit {p : Metered ε Unit} {q : Metered ε' Unit} : Agree p q :=
  fun _ _ _ _ _ _ _ _ => rfl

theorem Agree.read {error : ε} {error' : ε'} (value : α) :
    Agree (read limit error value) (read limit' error' value) := by
  intro reads reads' a b after after' ha hb
  simp only [StateT.run, Metered.read] at ha hb
  split at ha
  · cases ha
  · split at hb
    · cases hb
    · cases ha
      cases hb
      rfl

theorem Agree.bind {p : Metered ε α} {q : Metered ε' α} {f : α → Metered ε β}
    {g : α → Metered ε' β} (hpq : Agree p q) (hfg : ∀ a, Agree (f a) (g a)) :
    Agree (p >>= f) (q >>= g) := by
  intro reads reads' b b' after after' hleft hright
  obtain ⟨a, between, hp, hf⟩ := bind_ok.1 hleft
  obtain ⟨a', between', hq, hg⟩ := bind_ok.1 hright
  have hsame := hpq _ _ _ _ _ _ hp hq
  subst hsame
  exact hfg a _ _ _ _ _ _ hf hg

end Metered

end RipDvd
