import RipDvd.Interventions
import RipDvd.Collections

namespace RipDvd
set_option autoImplicit true

/-- The archive recoveries, each with the rows of its archive; the id is their primary key. -/
structure Recoveries where
  rows : List Catalog
  distinct : (rows.map (·.recovery.id)).Nodup

namespace Recoveries

theorem put_distinct (rows : List Catalog) (c : Catalog) :
    (rows.map fun row => if row.recovery.id = c.recovery.id then c else row).map
      (·.recovery.id) = rows.map (·.recovery.id) := by
  rw [List.map_map]
  apply List.map_congr_left
  intro row _
  simp only [Function.comp_apply]
  split
  · next hid => exact hid.symm
  · rfl

/-- Write the rows of a recovery back. -/
def put (r : Recoveries) (c : Catalog) : Recoveries where
  rows := r.rows.map fun row => if row.recovery.id = c.recovery.id then c else row
  distinct := by
    rw [put_distinct]
    exact r.distinct

def find (r : Recoveries) (archiveRecoveryId : String) : Except DomainError Catalog :=
  match r.rows.find? (·.recovery.id = archiveRecoveryId) with
  | none => .error (.recordNotFound "Archive Recovery" archiveRecoveryId)
  | some c => .ok c

theorem eq_of_id {r : Recoveries} (ha : a ∈ r.rows) (hb : b ∈ r.rows)
    (hid : a.recovery.id = b.recovery.id) : a = b :=
  List.inj_on_of_nodup_map r.distinct ha hb hid

theorem find_mem {r : Recoveries} (h : r.find archiveRecoveryId = .ok c) :
    c ∈ r.rows ∧ c.recovery.id = archiveRecoveryId := by
  rw [find] at h
  split at h
  · cases h
  · next hfind =>
    cases h
    have hid := List.find?_some hfind
    rw [decide_eq_true_eq] at hid
    exact ⟨List.mem_of_find?_eq_some hfind, hid⟩

theorem mem_put {r : Recoveries} : a ∈ (r.put c).rows ↔
    (a = c ∧ ∃ row ∈ r.rows, row.recovery.id = c.recovery.id) ∨
      (a ∈ r.rows ∧ a.recovery.id ≠ c.recovery.id) := by
  rw [put, List.mem_map]
  constructor
  · rintro ⟨row, hrow, rfl⟩
    split
    · next hid => exact .inl ⟨rfl, row, hrow, hid⟩
    · next hid => exact .inr ⟨hrow, hid⟩
  · rintro (⟨rfl, row, hrow, hid⟩ | ⟨ha, hid⟩)
    · exact ⟨row, hrow, if_pos hid⟩
    · exact ⟨a, ha, if_neg hid⟩

end Recoveries

/-- In the order in which they were updated. -/
def compareUpdated : Catalog → Catalog → Ordering :=
  compareLex (compareOn (·.recovery.updatedAt)) (compareOn (·.recovery.id))

/-- In the order in which their passes were claimed. -/
def compareClaimed : Catalog → Catalog → Ordering :=
  compareLex (compareOn fun c => (c.work.bind (·.claimedAt)).getD 0) (compareOn (·.recovery.id))

instance : Std.TransCmp compareUpdated :=
  inferInstanceAs (Std.TransCmp (compareLex (compareOn fun c : Catalog => c.recovery.updatedAt)
    (compareOn fun c : Catalog => c.recovery.id)))

instance : Std.TransCmp compareClaimed :=
  inferInstanceAs (Std.TransCmp (compareLex
    (compareOn fun c : Catalog => (c.work.bind (·.claimedAt)).getD 0)
    (compareOn fun c : Catalog => c.recovery.id)))

/-- `archiveRecoveryWork.findNextStopping`. -/
def findNextStopping (r : Recoveries) : Option Catalog :=
  earliest compareUpdated (r.rows.filter (·.recovery.status = .stopping))

/-- A running pass whose claim has run out. -/
def InterruptedPass (timestamp : Nat) (c : Catalog) : Prop :=
  c.recovery.status = .running ∧ ∃ work ∈ c.work, work.archiveRecoveryId = c.recovery.id ∧
    work.status = .claimed ∧
    ∃ claimedAt ∈ work.claimedAt, claimedAt < timestamp - DVD_RECOVERY_PASS_CLAIM_LEASE_MS

instance (timestamp : Nat) (c : Catalog) : Decidable (InterruptedPass timestamp c) :=
  inferInstanceAs (Decidable (_ ∧ _))

/-- `archiveRecoveryWork.findNextInterrupted`. -/
def findNextInterrupted (workerId : String) (timestamp : Nat) (r : Recoveries) :
    Except DomainError (Option Catalog) := do
  let _ ← requireNonEmpty workerId "workerId"
  return earliest compareClaimed (r.rows.filter (InterruptedPass timestamp ·))

/-- When a stopping recovery was last updated. -/
def latestStopping (r : Recoveries) : Nat :=
  (r.rows.filter (·.recovery.status = .stopping)).foldr (max ·.recovery.updatedAt) 0

/-- `archiveRecoveryWork.deferStop` on the table. -/
def Recoveries.deferStop (archiveRecoveryId attemptId stopOperationId : String) (timestamp : Nat)
    (r : Recoveries) : Except DomainError Recoveries := do
  let c ← r.find archiveRecoveryId
  let deferred ← RipDvd.deferStop archiveRecoveryId attemptId stopOperationId (latestStopping r)
    timestamp c
  return r.put deferred

theorem compareUpdated_isLE (h : (compareUpdated a b).isLE = true) :
    a.recovery.updatedAt ≤ b.recovery.updatedAt := by
  simp only [compareUpdated, compareLex, Ordering.isLE_then_iff_and, compareOn,
    Nat.isLE_compare] at h
  exact h.1

theorem findNextStopping_some (h : findNextStopping r = some c) :
    c ∈ r.rows ∧ c.recovery.status = .stopping := by
  have hmem := List.mem_filter.1 (earliest_mem h)
  exact ⟨hmem.1, of_decide_eq_true hmem.2⟩

theorem findNextStopping_le (h : findNextStopping r = some c) (hd : d ∈ r.rows)
    (hstopping : d.recovery.status = .stopping) :
    c.recovery.updatedAt ≤ d.recovery.updatedAt := by
  apply compareUpdated_isLE
  apply earliest_isLE h
  exact List.mem_filter.2 ⟨hd, decide_eq_true hstopping⟩

theorem exists_findNextStopping (hd : d ∈ r.rows) (hstopping : d.recovery.status = .stopping) :
    ∃ c, findNextStopping r = some c :=
  earliest_isSome (List.mem_filter.2 ⟨hd, decide_eq_true hstopping⟩)

theorem le_latestStopping {r : Recoveries} (hd : d ∈ r.rows)
    (hstopping : d.recovery.status = .stopping) :
    d.recovery.updatedAt ≤ latestStopping r := by
  have hmem : d ∈ r.rows.filter (·.recovery.status = .stopping) :=
    List.mem_filter.2 ⟨hd, decide_eq_true hstopping⟩
  rw [latestStopping]
  generalize r.rows.filter (·.recovery.status = .stopping) = stopping at hmem
  induction stopping with
  | nil => cases hmem
  | cons first rest ih =>
    rw [List.foldr_cons]
    rcases List.mem_cons.1 hmem with rfl | hrest
    · exact le_max_left _ _
    · exact (ih hrest).trans (le_max_right _ _)

theorem Recoveries.deferStop_ok {r : Recoveries}
    (h : r.deferStop archiveRecoveryId attemptId stopOperationId timestamp = .ok r') :
    ∃ c ∈ r.rows, c.recovery.id = archiveRecoveryId ∧ c.recovery.status = .stopping ∧
      ∃ updatedAt, latestStopping r < updatedAt ∧
        r' = r.put { c with recovery := { c.recovery with updatedAt } } := by
  simp only [Recoveries.deferStop, bind_ok] at h
  obtain ⟨c, hfind, deferred, hdefer, he⟩ := h
  obtain ⟨hmem, hid⟩ := find_mem hfind
  have hstopping := (RipDvd.deferStop_ok hdefer).1.2
  simp only [RipDvd.deferStop, bind_ok] at hdefer
  obtain ⟨-, -, hupdate⟩ := hdefer
  obtain ⟨-, -, -, -, -, rfl⟩ := updateArchiveRecovery_ok.1 hupdate
  refine ⟨c, hmem, hid, hstopping, _, ?_, (pure_ok.1 he).symm⟩
  omega

/-- A Stop that was deferred is behind every other Stop. -/
theorem Recoveries.deferStop_last {r : Recoveries}
    (h : r.deferStop archiveRecoveryId attemptId stopOperationId timestamp = .ok r')
    (hc : c ∈ r'.rows) (hid : c.recovery.id = archiveRecoveryId) (hd : d ∈ r'.rows)
    (hother : d.recovery.id ≠ archiveRecoveryId) (hstopping : d.recovery.status = .stopping) :
    d.recovery.updatedAt < c.recovery.updatedAt := by
  obtain ⟨old, -, rfl, -, updatedAt, hlast, rfl⟩ := deferStop_ok h
  have hbefore : d ∈ r.rows := by
    rcases mem_put.1 hd with ⟨rfl, -⟩ | ⟨hmem, -⟩
    · exact absurd rfl hother
    · exact hmem
  have hnew : c.recovery.updatedAt = updatedAt := by
    rcases mem_put.1 hc with ⟨rfl, -⟩ | ⟨-, hne⟩
    · rfl
    · exact absurd hid hne
  rw [hnew]
  exact (le_latestStopping hbefore hstopping).trans_lt hlast

/-- After a Stop was deferred another one is next, if there is one. -/
theorem Recoveries.deferStop_next {r : Recoveries}
    (h : r.deferStop archiveRecoveryId attemptId stopOperationId timestamp = .ok r')
    (hd : d ∈ r'.rows) (hother : d.recovery.id ≠ archiveRecoveryId)
    (hstopping : d.recovery.status = .stopping) :
    ∃ next, findNextStopping r' = some next ∧ next.recovery.id ≠ archiveRecoveryId := by
  obtain ⟨next, hnext⟩ := exists_findNextStopping hd hstopping
  refine ⟨next, hnext, ?_⟩
  intro hid
  have hle := findNextStopping_le hnext hd hstopping
  have hlast := deferStop_last h (findNextStopping_some hnext).1 hid hd hother hstopping
  omega

theorem compareClaimed_isLE (h : (compareClaimed a b).isLE = true) :
    (a.work.bind (·.claimedAt)).getD 0 ≤ (b.work.bind (·.claimedAt)).getD 0 := by
  simp only [compareClaimed, compareLex, Ordering.isLE_then_iff_and, compareOn,
    Nat.isLE_compare] at h
  exact h.1

/-- When the pass of a recovery was claimed. -/
abbrev claimTime (c : Catalog) : Nat := (c.work.bind (·.claimedAt)).getD 0

/-- A pass whose claim is as old as can be goes ahead of all that it was not behind before. -/
theorem compareClaimed_deferred (hid : p'.recovery.id = p.recovery.id) (hzero : claimTime p' = 0)
    (hahead : (compareClaimed p d).isLE = true ∨ 0 < claimTime d)
    (hother : d.recovery.id ≠ p.recovery.id) : compareClaimed p' d = .lt := by
  simp only [claimTime] at hzero hahead
  rcases Nat.eq_zero_or_pos ((d.work.bind (·.claimedAt)).getD 0) with hd | hd
  · have hle : (compareClaimed p d).isLE = true := hahead.resolve_right (by omega)
    have hp := compareClaimed_isLE hle
    rw [hd, Nat.le_zero] at hp
    simp only [compareClaimed, compareLex, compareOn, hp, hd] at hle
    simp only [compareClaimed, compareLex, compareOn, hzero, hd, hid]
    rw [Nat.compare_eq_eq.2 rfl, Ordering.eq_then] at hle ⊢
    cases hcompare : compare p.recovery.id d.recovery.id with
    | lt => rfl
    | eq => exact absurd (Std.LawfulEqOrd.eq_of_compare hcompare).symm hother
    | gt => rw [hcompare] at hle; cases hle
  · simp only [compareClaimed, compareLex, compareOn, hzero]
    rw [Nat.compare_eq_lt.2 hd]
    rfl

theorem InterruptedPass.claimTime_lt (h : InterruptedPass timestamp c) :
    claimTime c < timestamp - DVD_RECOVERY_PASS_CLAIM_LEASE_MS := by
  obtain ⟨-, work, hwork, -, -, claimedAt, hclaimed, hexpired⟩ := h
  rw [Option.mem_def] at hwork hclaimed
  simp only [claimTime, hwork, Option.bind_some, hclaimed, Option.getD_some]
  exact hexpired

theorem InterruptedPass.at_time (h : InterruptedPass timestamp c)
    (hexpired : claimTime c < timestamp' - DVD_RECOVERY_PASS_CLAIM_LEASE_MS) :
    InterruptedPass timestamp' c := by
  obtain ⟨hrunning, work, hwork, hid, hstatus, claimedAt, hclaimed, -⟩ := h
  refine ⟨hrunning, work, hwork, hid, hstatus, claimedAt, hclaimed, ?_⟩
  rw [Option.mem_def] at hwork hclaimed
  simp only [claimTime, hwork, Option.bind_some, hclaimed, Option.getD_some] at hexpired
  exact hexpired

theorem findNextInterrupted_ok (h : findNextInterrupted workerId timestamp r = .ok found) :
    found = earliest compareClaimed (r.rows.filter (InterruptedPass timestamp ·)) := by
  obtain ⟨_, -, hfound⟩ := bind_ok.1 h
  exact (pure_ok.1 hfound).symm

theorem findNextInterrupted_some (h : findNextInterrupted workerId timestamp r = .ok (some c)) :
    c ∈ r.rows ∧ InterruptedPass timestamp c := by
  have hmem := List.mem_filter.1 (earliest_mem (findNextInterrupted_ok h).symm)
  exact ⟨hmem.1, of_decide_eq_true hmem.2⟩

/-- A pass that was next is next again once its claim is made as old as can be. -/
theorem findNextInterrupted_again {r : Recoveries}
    (h : findNextInterrupted workerId timestamp r = .ok (some p))
    (hid : p'.recovery.id = p.recovery.id) (hzero : claimTime p' = 0)
    (hinterrupted : InterruptedPass timestamp' p') :
    findNextInterrupted workerId timestamp' (r.put p') = .ok (some p') := by
  obtain ⟨_, hworker, hfound⟩ := bind_ok.1 h
  rw [findNextInterrupted, bind_ok]
  refine ⟨_, hworker, pure_ok.2 ?_⟩
  obtain ⟨hp, hexpired⟩ := findNextInterrupted_some h
  apply earliest_eq_some
  · apply List.mem_filter.2
    exact ⟨Recoveries.mem_put.2 (.inl ⟨rfl, p, hp, hid.symm⟩), decide_eq_true hinterrupted⟩
  · intro d hd
    obtain ⟨hmem, hd⟩ := List.mem_filter.1 hd
    rcases Recoveries.mem_put.1 hmem with ⟨rfl, -⟩ | ⟨hrow, hne⟩
    · exact .inl rfl
    · right
      apply compareClaimed_deferred hid hzero _ (hid ▸ hne)
      by_cases hbefore : InterruptedPass timestamp d
      · left
        apply earliest_isLE (pure_ok.1 hfound)
        exact List.mem_filter.2 ⟨hrow, decide_eq_true hbefore⟩
      · right
        by_contra hzero
        apply hbefore
        apply (of_decide_eq_true hd).at_time
        have hpositive := hexpired.claimTime_lt
        omega

end RipDvd
