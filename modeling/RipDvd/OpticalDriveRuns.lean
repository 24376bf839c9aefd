import RipDvd.OpticalDriveAuthority

namespace RipDvd
set_option autoImplicit true

section Upsert

variable {rows rows' : List OpticalDrive} {input : UpsertOpticalDriveInput} {new : OpticalDrive}

/-- What an upsert does: it goes on with a row, which stays the same target, or adds one that is
none; and it enables only what its input enables. -/
structure Upserted (input : UpsertOpticalDriveInput) (newId : String)
    (rows rows' : List OpticalDrive) : Prop where
  ids : rows'.map (·.id) = rows.map (·.id) ∨ rows'.map (·.id) = rows.map (·.id) ++ [newId]
  target : ∀ new ∈ rows', new.isConfiguredTarget = true →
    ∃ old ∈ rows, old.id = new.id ∧ old.isConfiguredTarget = true
  enabled : ∀ new ∈ rows', new.isEnabled = true →
    input.isEnabled = some true ∨ ∃ old ∈ rows, old.id = new.id ∧ old.isEnabled = true

theorem getD_enabled {enabled : Option Bool} (h : enabled.getD before = true) :
    enabled = some true ∨ before = true := by
  cases enabled with
  | none => exact .inr h
  | some => exact .inl (congrArg some h)

theorem upsertOpticalDrive_ok (h : upsertOpticalDrive input newId timestamp rows = .ok rows') :
    Upserted input newId rows rows' := by
  simp only [upsertOpticalDrive, bind_ok] at h
  obtain ⟨devicePath, -, h⟩ := h
  split at h
  · next existing _ =>
    cases h
    constructor
    case ids =>
      left
      apply map_id_eq
      intro row
      split <;> rfl
    case target =>
      intro new hnew htarget
      obtain ⟨old, hold, rfl⟩ := List.mem_map.1 hnew
      refine ⟨old, hold, ?_⟩
      by_cases hid : old.id = existing.id
      · rw [if_pos hid] at htarget ⊢
        exact ⟨rfl, htarget⟩
      · rw [if_neg hid] at htarget ⊢
        exact ⟨rfl, htarget⟩
    case enabled =>
      intro new hnew henabled
      obtain ⟨old, hold, rfl⟩ := List.mem_map.1 hnew
      by_cases hid : old.id = existing.id
      · rw [if_pos hid] at henabled ⊢
        apply (getD_enabled henabled).imp_right
        exact fun hwas => ⟨old, hold, rfl, hwas⟩
      · rw [if_neg hid] at henabled ⊢
        exact .inr ⟨old, hold, rfl, henabled⟩
  · cases h
    constructor
    case ids => exact .inr List.map_append
    case target =>
      intro new hnew htarget
      rcases List.mem_append.1 hnew with hold | hadded
      · exact ⟨new, hold, rfl, htarget⟩
      · cases List.mem_singleton.1 hadded
        cases htarget
    case enabled =>
      intro new hnew henabled
      rcases List.mem_append.1 hnew with hold | hadded
      · exact .inr ⟨new, hold, rfl, henabled⟩
      · cases List.mem_singleton.1 hadded
        exact .inl ((getD_enabled henabled).resolve_right Bool.false_ne_true)

theorem StoredDrives.upserted (hrows : StoredDrives rows) (h : Upserted input newId rows rows')
    (hnew : ∀ row ∈ rows, row.id ≠ newId) : StoredDrives rows' := by
  constructor
  case key =>
    rcases h.ids with hids | hids
    · rw [hids]
      exact hrows.key
    · rw [hids]
      apply List.nodup_append.2
      refine ⟨hrows.key, List.nodup_singleton _, ?_⟩
      intro id hid other hother
      obtain ⟨row, hrow, rfl⟩ := List.mem_map.1 hid
      rw [List.mem_singleton.1 hother]
      exact hnew row hrow
  case target =>
    intro a ha b hb hta htb
    obtain ⟨a', ha', hida, hta'⟩ := h.target a ha hta
    obtain ⟨b', hb', hidb, htb'⟩ := h.target b hb htb
    rw [← hida, ← hidb]
    exact hrows.target a' ha' b' hb' hta' htb'

end Upsert

/-- The paths of the rows whose default is resolved. -/
def resolvedPaths (rows : List OpticalDrive) : List String :=
  (rows.filter (·.configurationDefaultResolved)).map (·.devicePath)

/-- The stored drives, and the paths at which any was ever recorded with its default resolved. -/
structure DriveState where
  rows : List OpticalDrive
  spent : List String
  deriving DecidableEq

def DriveState.start (rows : List OpticalDrive) : DriveState := ⟨rows, resolvedPaths rows⟩

def DriveState.record (s : DriveState) (rows : List OpticalDrive) : DriveState :=
  ⟨rows, s.spent ++ resolvedPaths rows⟩

inductive DriveOperation where
  | reconcile (discovered : List OpticalDriveReconciliationInput)
  | upsert (input : UpsertOpticalDriveInput)

/-- A snapshot or an upsert that succeeds, at any time and with fresh ids. -/
inductive DriveStep : DriveState → DriveOperation → DriveState → Prop
  | reconcile (hfresh : FreshIds newIds s.rows discovered.length)
      (h : reconcileOpticalDrives newIds timestamp discovered s.rows = .ok rows) :
      DriveStep s (.reconcile discovered) (s.record rows)
  | upsert (hfresh : ∀ row ∈ s.rows, row.id ≠ newId)
      (h : upsertOpticalDrive input newId timestamp s.rows = .ok rows) :
      DriveStep s (.upsert input) (s.record rows)

/-- A reconciliation in its parts. -/
theorem reconcileOpticalDrives_ok (hrows : StoredDrives rows)
    (h : reconcileOpticalDrives newIds timestamp discovered rows = .ok rows') :
    ∃ drives, discovered.mapM normalizeDiscovered = .ok drives ∧ Snapshot drives ∧
      SerialsDistinct rows ∧ PathsClear rows drives ∧
      planOpticalDriveReconciliation discovered rows = .ok (planOf rows drives) ∧
      rows' = (entriesOf rows drives newIds).foldl (applyDecision timestamp)
        (rows.map (·.unseen (planOf rows drives).configuredTargetPath)) := by
  simp only [reconcileOpticalDrives, bind_ok, pure_ok] at h
  obtain ⟨plan, hplan, rfl⟩ := h
  obtain ⟨drives, hnormal, hs, hdistinct, hclear, rfl⟩ :=
    (planOpticalDriveReconciliation_ok hrows.key).1 hplan
  exact ⟨drives, hnormal, hs, hdistinct, hclear, hplan, rfl⟩

theorem FreshIds.normalized {discovered drives : List OpticalDriveReconciliationInput}
    (h : FreshIds newIds rows discovered.length)
    (hnormal : discovered.mapM normalizeDiscovered = .ok drives) :
    FreshIds newIds rows drives.length where
  distinct := h.distinct
  unused := h.unused
  enough := by rw [h.enough, (mapM_results.1 hnormal).length_eq]

/-- Every step leaves stored drives. -/
theorem DriveStep.stored (hstored : StoredDrives s.rows) (h : DriveStep s operation s') :
    StoredDrives s'.rows := by
  cases h with
  | reconcile hfresh h =>
    obtain ⟨drives, hnormal, hs, -, -, -, rfl⟩ := reconcileOpticalDrives_ok hstored h
    exact hstored.reconciled hs (hfresh.normalized hnormal)
  | upsert hfresh h => exact hstored.upserted (upsertOpticalDrive_ok h) hfresh

/-- A reconciliation follows a sound plan and authorizes nothing unproven; an upsert enables only
what it is told to. -/
def DriveState.Sound (s : DriveState) (operation : DriveOperation) (s' : DriveState) : Prop :=
  match operation with
  | .reconcile discovered => ∃ plan drives,
    planOpticalDriveReconciliation discovered s.rows = .ok plan ∧
      PlanSound discovered s.rows plan ∧ discovered.mapM normalizeDiscovered = .ok drives ∧
      Authorized s.spent s.rows drives s'.rows
  | .upsert input => ∀ new ∈ s'.rows, new.isEnabled = true →
    input.isEnabled = some true ∨ ∃ old ∈ s.rows, old.id = new.id ∧ old.isEnabled = true

/-- The configured drive of a snapshot keeps the default that its path has used up. -/
def DriveState.Kept (s : DriveState) (operation : DriveOperation) : Prop :=
  match operation with
  | .reconcile discovered => ∀ drives, discovered.mapM normalizeDiscovered = .ok drives →
    DefaultKept s.spent s.rows drives
  | .upsert _ => True

theorem DriveStep.sound_iff (hstored : StoredDrives s.rows) (h : DriveStep s operation s') :
    s.Sound operation s' ↔ s.Kept operation := by
  cases h with
  | @reconcile _ timestamp _ _ _ hfresh h =>
    obtain ⟨drives, hnormal, hs, hdistinct, hclear, hplan, rfl⟩ :=
      reconcileOpticalDrives_ok hstored h
    have hiff := authorized_iff s.spent timestamp hstored hs hdistinct hclear
      (hfresh.normalized hnormal)
    constructor
    · rintro ⟨-, other, -, -, hother, hauthorized⟩ drives' hnormal'
      cases hnormal.symm.trans hnormal'
      cases hnormal.symm.trans hother
      exact hiff.1 hauthorized
    · intro hkept
      exact ⟨planOf s.rows drives, drives, hplan,
        planOpticalDriveReconciliation_sound hstored hplan, hnormal, hiff.2 (hkept drives hnormal)⟩
  | upsert hfresh h => exact iff_of_true (upsertOpticalDrive_ok h).enabled trivial

/-- The runs that never authorize unproven hardware are those in which every snapshot keeps the
default. -/
theorem reconcileOpticalDrives_authorized (hstored : StoredDrives rows) :
    Run (fun s operation s' => DriveStep s operation s' ∧ s.Sound operation s') (.start rows)
        operations s ↔
      Run (fun s operation s' => DriveStep s operation s' ∧ s.Kept operation) (.start rows)
        operations s := by
  have hstored' : StoredDrives (DriveState.start rows).rows := hstored
  apply Run.guarded (I := fun s => StoredDrives s.rows) hstored'
  · intro s operation s' hs h
    exact h.stored hs
  · intro s operation s' hs h
    exact h.sound_iff hs

/-- The configured drive, and the same one after it has moved and another has taken its path. -/
def provenDrive : OpticalDriveReconciliationInput :=
  { devicePath := "/dev/sr0", serialNumber := some "A", isConfiguredDevice := true }

def movedDrive : OpticalDriveReconciliationInput :=
  { devicePath := "/dev/sr1", serialNumber := some "A", isConfiguredDevice := false }

def unprovenDrive : OpticalDriveReconciliationInput :=
  { devicePath := "/dev/sr0", serialNumber := some "B", isConfiguredDevice := true }

/-- A drive as it is recorded. -/
def recordedDrive (id devicePath serialNumber : String) : OpticalDrive where
  id
  devicePath
  displayName := none
  vendor := none
  product := none
  serialNumber := some serialNumber
  isEnabled := true
  configurationDefaultResolved := true
  isConfiguredTarget := devicePath = "/dev/sr0"
  isPresent := true
  lastSeenAt := 0

def provenState : DriveState where
  rows := [recordedDrive "a" "/dev/sr0" "A"]
  spent := ["/dev/sr0"]

def unprovenState : DriveState where
  rows := [recordedDrive "a" "/dev/sr1" "A", recordedDrive "b" "/dev/sr0" "B"]
  spent := ["/dev/sr0", "/dev/sr1", "/dev/sr0"]

theorem provenState_step : DriveStep (.start []) (.reconcile [provenDrive]) provenState :=
  @DriveStep.reconcile ["a"] 0 _ _ _ ⟨by decide, nofun, rfl⟩ (by decide +kernel)

theorem unprovenState_step :
    DriveStep provenState (.reconcile [movedDrive, unprovenDrive]) unprovenState :=
  @DriveStep.reconcile ["c", "b"] 0 _ _ _ ⟨by decide, by decide, rfl⟩ (by decide +kernel)

theorem emptyDrives_stored : StoredDrives [] where
  key := List.nodup_nil
  target := nofun

theorem firstSnapshot_kept : (DriveState.start []).Kept (.reconcile [provenDrive]) := by
  intro drives hnormal drive hdrive _ hspent
  cases hspent

/-- The first snapshot enables the configured drive. -/
theorem firstSnapshot_authorized : provenState.rows.all (·.isEnabled) = true ∧
    Run (fun s operation s' => DriveStep s operation s' ∧ s.Sound operation s') (.start [])
      [.reconcile [provenDrive]] provenState := by
  constructor
  · rfl
  · apply (reconcileOpticalDrives_authorized emptyDrives_stored).2
    exact .single ⟨provenState_step, firstSnapshot_kept⟩

/-- The second enables a drive that nothing proves, at a path whose default the first used up. -/
theorem secondSnapshot_unproven : DriveStep (.start []) (.reconcile [provenDrive]) provenState ∧
    DriveStep provenState (.reconcile [movedDrive, unprovenDrive]) unprovenState ∧
    ¬provenState.Sound (.reconcile [movedDrive, unprovenDrive]) unprovenState := by
  refine ⟨provenState_step, unprovenState_step, ?_⟩
  rintro ⟨-, drives, -, -, hnormal, hauthorized⟩
  have hdrives : Except.ok [movedDrive, unprovenDrive] = Except.ok drives :=
    Eq.trans (by decide +kernel) hnormal
  cases hdrives
  obtain ⟨drive, hdrive, hpath, ⟨-, hspent⟩ | ⟨old, hold, hid, -⟩⟩ :=
    hauthorized.discovered (recordedDrive "b" "/dev/sr0" "B") (by decide) rfl rfl
  · rw [hpath] at hspent
    exact hspent (by decide)
  · cases List.mem_singleton.1 hold
    exact absurd hid (by decide)

end RipDvd
