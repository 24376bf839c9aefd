import RipDvd.OpticalDriveMatching

namespace RipDvd
set_option autoImplicit true

/-- The discovered drive is the stored one: its serial number says so, or it never left. -/
def Continues (row : OpticalDrive) (drive : OpticalDriveReconciliationInput) : Prop :=
  (∃ serial, row.serial = some serial ∧ drive.serial = some serial) ∨
    (row.serial = none ∧ drive.serial = none ∧ row.devicePath = drive.devicePath ∧
      row.isPresent = true ∧ row.vendor = drive.vendor ∧ row.product = drive.product)

/-- No discovered drive has the serial number of a row. -/
def Unclaimed (rows : List OpticalDrive) (drives : List OpticalDriveReconciliationInput)
    (row : OpticalDrive) : Prop :=
  ¬∃ drive ∈ drives, SerialRow rows drive row

/-- A row is a drive's own: it has its serial number; or nothing has, and it is the one that is
present at the drive's path, or the only one there that is no other drive's. -/
def OwnRow (rows : List OpticalDrive) (drives : List OpticalDriveReconciliationInput)
    (drive : OpticalDriveReconciliationInput) (row : OpticalDrive) : Prop :=
  SerialRow rows drive row ∨
    (¬∃ other, SerialRow rows drive other) ∧
      (row ∈ rows ∧ row.devicePath = drive.devicePath ∧ Unclaimed rows drives row) ∧
      (row.isPresent = true ∨ ∀ other ∈ rows, other.devicePath = drive.devicePath →
        Unclaimed rows drives other → other = row)

section Own

variable {rows : List OpticalDrive} {drives : List OpticalDriveReconciliationInput}
  {drive : OpticalDriveReconciliationInput} {row : OpticalDrive}

theorem mem_pathMatches (hrows : StoredDrives rows) (hdistinct : SerialsDistinct rows) :
    row ∈ pathMatches rows drives devicePath ↔
      row ∈ rows ∧ row.devicePath = devicePath ∧ Unclaimed rows drives row := by
  rw [pathMatches, List.mem_filter, decide_eq_true_eq]
  apply and_congr_right
  intro hrow
  apply and_congr_right
  intro _
  apply not_congr
  constructor
  · intro hid
    obtain ⟨other, hother, hid⟩ := List.mem_map.1 hid
    obtain ⟨claimer, hclaimer, hserial⟩ := List.mem_filterMap.1 hother
    have hmatch := serialMatch_some hserial
    cases hrows.ext hmatch.1 hrow hid
    exact ⟨claimer, hclaimer, hmatch⟩
  · rintro ⟨claimer, hclaimer, hserial⟩
    apply List.mem_map_of_mem
    exact List.mem_filterMap.2 ⟨claimer, hclaimer, (serialMatch_eq hdistinct).2 hserial⟩

/-- The matching finds a drive's own row. -/
theorem ownRow_eq (hrows : StoredDrives rows) (hdistinct : SerialsDistinct rows)
    (hclear : PathsClear rows drives) (hd : drive ∈ drives) :
    ownRow rows drives drive = some row ↔ OwnRow rows drives drive row := by
  have hnone : serialMatch rows drive = none ↔ ¬∃ other, SerialRow rows drive other := by
    rw [← not_iff_not, not_not, ← ne_eq, Option.ne_none_iff_exists']
    exact exists_congr fun _ => serialMatch_eq hdistinct
  rw [ownRow, Option.or_eq_some_iff, serialMatch_eq hdistinct, hnone, OwnRow]
  apply or_congr_right
  apply and_congr_right
  intro hserial
  have hnodup : (pathMatches rows drives drive.devicePath).Nodup :=
    (List.Nodup.of_map _ hrows.key).filter _
  rw [choosePathMatch_eq (hclear drive hd (hnone.2 hserial)) hnodup]
  simp only [mem_pathMatches hrows hdistinct, and_imp]

/-- An own row is replaced unless the drive goes on with it. -/
theorem isReplacement_iff (hown : OwnRow rows drives drive row) :
    IsReplacement row drive ↔ ¬Continues row drive := by
  by_cases hserial : row.serial = drive.serial
  · cases hdrive : drive.serial with
    | some serial =>
      have hcontinues : Continues row drive := .inl ⟨serial, hserial.trans hdrive, hdrive⟩
      have hstable : row.serial ≠ none ∧ row.serial = drive.serial :=
        ⟨by rw [hserial, hdrive]; exact nofun, hserial⟩
      apply iff_of_false _ (not_not.2 hcontinues)
      rintro (hne | ⟨-, hunstable⟩ | ⟨-, hunstable⟩)
      · exact hne hserial
      · exact hunstable hstable
      · exact hunstable hstable
    | none =>
      have hrow := hserial.trans hdrive
      have hpath : row.devicePath = drive.devicePath := by
        rcases hown with ⟨-, serial, -, hsome⟩ | ⟨-, ⟨-, hpath, -⟩, -⟩
        · rw [hdrive] at hsome
          cases hsome
        · exact hpath
      simp only [IsReplacement, Continues, hrow, hdrive, hpath]
      cases row.isPresent with
      | false => simp
      | true => simp [imp_iff_not_or]
  · have hreplaced : IsReplacement row drive := .inl hserial
    apply iff_of_true hreplaced
    rintro (⟨serial, hrow, hdrive⟩ | ⟨hrow, hdrive, -⟩)
    · exact hserial (hrow.trans hdrive.symm)
    · exact hserial (hrow.trans hdrive.symm)

end Own

/-- Which rows a decision writes. -/
def WrittenRow (timestamp : Nat) (rows : List OpticalDrive)
    (entry : OpticalDriveReconciliationDecision × String) (row : OpticalDrive) : Prop :=
  match entry.1.existingId with
  | some id => ∃ old ∈ rows, old.id = id ∧ row = old.rediscovered timestamp entry.1
  | none => row = entry.1.inserted entry.2 timestamp

/-- The id of the row that a decision writes. -/
def targetId (entry : OpticalDriveReconciliationDecision × String) : String :=
  entry.1.existingId.getD entry.2

/-- A decision that inserts has an id for it that no row has. -/
def FreshEntry (rows : List OpticalDrive) (entry : OpticalDriveReconciliationDecision × String) :
    Prop :=
  entry.1.existingId = none → ∀ row ∈ rows, row.id ≠ entry.2

section Apply

variable {rows : List OpticalDrive} {entry : OpticalDriveReconciliationDecision × String}
  {entries : List (OpticalDriveReconciliationDecision × String)} {row : OpticalDrive}

theorem WrittenRow.id (h : WrittenRow timestamp rows entry row) : row.id = targetId entry := by
  unfold WrittenRow at h
  rw [targetId]
  split at h
  · next hexisting =>
    obtain ⟨old, -, hid, rfl⟩ := h
    rw [hexisting]
    exact hid
  · next hexisting =>
    rw [h, hexisting]
    rfl

theorem mem_applyDecision (hfresh : FreshEntry rows entry) :
    row ∈ applyDecision timestamp rows entry ↔
      (row ∈ rows ∧ row.id ≠ targetId entry) ∨ WrittenRow timestamp rows entry row := by
  unfold applyDecision WrittenRow targetId
  cases hexisting : entry.1.existingId with
  | some id =>
    dsimp only
    rw [List.mem_map, Option.getD_some]
    constructor
    · rintro ⟨old, hold, rfl⟩
      split
      · next hid => exact .inr ⟨old, hold, hid, rfl⟩
      · next hid => exact .inl ⟨hold, hid⟩
    · rintro (⟨hrow, hid⟩ | ⟨old, hold, hid, rfl⟩)
      · exact ⟨row, hrow, if_neg hid⟩
      · exact ⟨old, hold, if_pos hid⟩
  | none =>
    dsimp only
    rw [List.mem_append, List.mem_singleton, Option.getD_none]
    apply or_congr_left
    exact (and_iff_left_of_imp fun hrow => hfresh hexisting row hrow).symm

/-- A decision about another row writes the same before and after. -/
theorem written_applyDecision {first : OpticalDriveReconciliationDecision × String}
    (hfresh : FreshEntry rows first) (hne : targetId entry ≠ targetId first) :
    WrittenRow timestamp (applyDecision timestamp rows first) entry row ↔
      WrittenRow timestamp rows entry row := by
  unfold WrittenRow
  cases hexisting : entry.1.existingId with
  | none => exact Iff.rfl
  | some id =>
    have htarget : targetId entry = id := by rw [targetId, hexisting]; rfl
    dsimp only
    apply exists_congr
    intro old
    rw [← and_assoc, ← and_assoc]
    apply and_congr_left
    intro _
    apply and_congr_left
    intro hid
    have hold' : targetId entry = old.id := htarget.trans hid.symm
    rw [mem_applyDecision hfresh]
    constructor
    · rintro (⟨hold, -⟩ | hwritten)
      · exact hold
      · exact absurd (hold'.trans hwritten.id) hne
    · intro hold
      exact .inl ⟨hold, fun heq => hne (hold'.trans heq)⟩

theorem FreshEntry.apply {first : OpticalDriveReconciliationDecision × String}
    (h : FreshEntry rows entry) (hfirst : FreshEntry rows first)
    (hne : targetId entry ≠ targetId first) :
    FreshEntry (applyDecision timestamp rows first) entry := by
  intro hnone row hrow hid
  rcases (mem_applyDecision hfirst).1 hrow with ⟨hmem, -⟩ | hwritten
  · exact h hnone row hmem hid
  · apply hne
    rw [← hwritten.id, hid, targetId, hnone]
    rfl

/-- Decisions about different rows do not disturb each other. -/
theorem mem_foldl_applyDecision (htargets : (entries.map targetId).Nodup)
    (hfresh : ∀ entry ∈ entries, FreshEntry rows entry) :
    row ∈ entries.foldl (applyDecision timestamp) rows ↔
      (row ∈ rows ∧ row.id ∉ entries.map targetId) ∨
        ∃ entry ∈ entries, WrittenRow timestamp rows entry row := by
  induction entries generalizing rows with
  | nil => simp
  | cons first entries ih =>
    obtain ⟨hfirst, hrest⟩ := List.nodup_cons.1 htargets
    have hne : ∀ entry ∈ entries, targetId entry ≠ targetId first :=
      fun entry hentry heq => hfirst (heq ▸ List.mem_map_of_mem hentry)
    have hnew := hfresh first List.mem_cons_self
    have hlater : ∀ entry ∈ entries, FreshEntry (applyDecision timestamp rows first) entry :=
      fun entry hentry => (hfresh entry (List.mem_cons_of_mem _ hentry)).apply hnew
        (hne entry hentry)
    have hsame : (∃ entry ∈ entries, WrittenRow timestamp (applyDecision timestamp rows first) entry
        row) ↔ ∃ entry ∈ entries, WrittenRow timestamp rows entry row := by
      apply exists_congr
      intro entry
      apply and_congr_right
      intro hentry
      exact written_applyDecision hnew (hne entry hentry)
    rw [List.foldl_cons, ih hrest hlater, mem_applyDecision hnew, hsame, List.map_cons,
      List.mem_cons, List.exists_mem_cons_iff]
    constructor
    · rintro (⟨⟨hrow, hid⟩ | hwritten, hnot⟩ | hwritten)
      · exact .inl ⟨hrow, not_or.2 ⟨hid, hnot⟩⟩
      · exact .inr (.inl hwritten)
      · exact .inr (.inr hwritten)
    · rintro (⟨hrow, hid⟩ | hwritten | hwritten)
      · obtain ⟨hid, hnot⟩ := not_or.1 hid
        exact .inl ⟨.inl ⟨hrow, hid⟩, hnot⟩
      · exact .inl ⟨.inr hwritten, hwritten.id ▸ hfirst⟩
      · exact .inr hwritten

end Apply

/-- Ids for the rows that a reconciliation may insert. -/
structure FreshIds (newIds : List String) (rows : List OpticalDrive) (count : Nat) : Prop where
  distinct : newIds.Nodup
  unused : ∀ id ∈ newIds, ∀ row ∈ rows, row.id ≠ id
  enough : newIds.length = count

/-- The row that a discovered drive ends up with. -/
def drivenRow (rows : List OpticalDrive) (drives : List OpticalDriveReconciliationInput)
    (timestamp : Nat) (drive : OpticalDriveReconciliationInput) (newId : String) : OpticalDrive :=
  let decision := decideDrive (TargetChanged rows drives) drive (ownRow rows drives drive)
  match ownRow rows drives drive with
  | some row => (row.unseen (planOf rows drives).configuredTargetPath).rediscovered
    timestamp decision
  | none => decision.inserted newId timestamp

section Reconciled

variable {rows : List OpticalDrive} {drives : List OpticalDriveReconciliationInput}
  {drive : OpticalDriveReconciliationInput} {row new : OpticalDrive} {newIds : List String}

/-- The decisions with the ids they may insert under. -/
abbrev entriesOf (rows : List OpticalDrive) (drives : List OpticalDriveReconciliationInput)
    (newIds : List String) : List (OpticalDriveReconciliationDecision × String) :=
  (planOf rows drives).drives.zip newIds

theorem mem_entriesOf {entry : OpticalDriveReconciliationDecision × String} :
    entry ∈ entriesOf rows drives newIds ↔ ∃ pair ∈ drives.zip newIds,
      entry = (decideDrive (TargetChanged rows drives) pair.1 (ownRow rows drives pair.1),
        pair.2) := by
  rw [entriesOf, planOf, List.zip_map_left, List.mem_map]
  exact exists_congr fun _ => and_congr_right fun _ => eq_comm

theorem exists_mem_zip (hfresh : FreshIds newIds rows drives.length) (hd : drive ∈ drives) :
    ∃ newId, (drive, newId) ∈ drives.zip newIds := by
  have hmap : (drives.zip newIds).map Prod.fst = drives :=
    List.map_fst_zip (by rw [hfresh.enough])
  rw [← hmap] at hd
  obtain ⟨⟨_, newId⟩, hpair, rfl⟩ := List.mem_map.1 hd
  exact ⟨newId, hpair⟩

theorem entriesOf_targets (hrows : StoredDrives rows) (hs : Snapshot drives)
    (hfresh : FreshIds newIds rows drives.length) :
    ((entriesOf rows drives newIds).map targetId).Nodup := by
  rw [entriesOf, planOf, List.zip_map_left, List.map_map]
  have hfst : (drives.zip newIds).Pairwise fun a b => a.1 ≠ b.1 := by
    have hmap : (drives.zip newIds).map Prod.fst = drives :=
      List.map_fst_zip (by rw [hfresh.enough])
    apply List.pairwise_map.1
    rw [hmap]
    exact List.Nodup.of_map _ hs.paths
  have hsnd : (drives.zip newIds).Pairwise fun a b => a.2 ≠ b.2 := by
    have hmap : (drives.zip newIds).map Prod.snd = newIds :=
      List.map_snd_zip (by rw [hfresh.enough])
    apply List.pairwise_map.1
    rw [hmap]
    exact hfresh.distinct
  apply List.pairwise_map.2
  apply (hfst.and hsnd).imp_of_mem
  rintro ⟨a, i⟩ ⟨b, j⟩ ha hb ⟨hab, hij⟩
  have hai := List.of_mem_zip ha
  have hbj := List.of_mem_zip hb
  have hunused {c : OpticalDriveReconciliationInput} {k : String} {r : OpticalDrive}
      (hk : k ∈ newIds) (hr : ownRow rows drives c = some r) : r.id ≠ k :=
    hfresh.unused k hk r (ownRow_mem hr)
  simp only [Function.comp_apply, Prod.map_apply, targetId, decideDrive, id_eq]
  cases hra : ownRow rows drives a with
  | none =>
    cases hrb : ownRow rows drives b with
    | none => exact hij
    | some r => exact fun heq => hunused hai.2 hrb heq.symm
  | some r =>
    cases hrb : ownRow rows drives b with
    | none => exact fun heq => hunused hbj.2 hra heq
    | some r' =>
      intro heq
      cases hrows.ext (ownRow_mem hra) (ownRow_mem hrb) heq
      exact hab (ownRow_inj hs hai.1 hbj.1 hra hrb)

theorem written_drivenRow (hrows : StoredDrives rows)
    (pair : OpticalDriveReconciliationInput × String) :
    WrittenRow timestamp (rows.map (·.unseen (planOf rows drives).configuredTargetPath))
      (decideDrive (TargetChanged rows drives) pair.1 (ownRow rows drives pair.1), pair.2) new ↔
      new = drivenRow rows drives timestamp pair.1 pair.2 := by
  unfold WrittenRow drivenRow
  cases hown : ownRow rows drives pair.1 with
  | none => exact Iff.rfl
  | some row =>
    simp only [decideDrive, Option.map_some]
    constructor
    · rintro ⟨old, hold, hid, rfl⟩
      obtain ⟨before, hbefore, rfl⟩ := List.mem_map.1 hold
      rw [hrows.ext hbefore (ownRow_mem hown) hid]
    · rintro rfl
      exact ⟨_, List.mem_map_of_mem (ownRow_mem hown), rfl, rfl⟩

theorem entriesOf_fresh (hfresh : FreshIds newIds rows drives.length) :
    ∀ entry ∈ entriesOf rows drives newIds,
      FreshEntry (rows.map (·.unseen (planOf rows drives).configuredTargetPath)) entry := by
  intro entry hentry _ row hrow
  obtain ⟨pair, hpair, rfl⟩ := mem_entriesOf.1 hentry
  obtain ⟨old, hold, rfl⟩ := List.mem_map.1 hrow
  exact hfresh.unused pair.2 (List.of_mem_zip hpair).2 old hold

/-- The rows after a reconciliation. -/
theorem mem_reconciled (timestamp : Nat) (hrows : StoredDrives rows) (hs : Snapshot drives)
    (hfresh : FreshIds newIds rows drives.length) :
    new ∈ (entriesOf rows drives newIds).foldl (applyDecision timestamp)
      (rows.map (·.unseen (planOf rows drives).configuredTargetPath)) ↔
      (∃ old ∈ rows, (∀ drive ∈ drives, ownRow rows drives drive ≠ some old) ∧
        new = old.unseen (planOf rows drives).configuredTargetPath) ∨
      ∃ pair ∈ drives.zip newIds, new = drivenRow rows drives timestamp pair.1 pair.2 := by
  rw [mem_foldl_applyDecision (entriesOf_targets hrows hs hfresh) (entriesOf_fresh hfresh)]
  apply or_congr
  · constructor
    · rintro ⟨hnew, hid⟩
      obtain ⟨old, hold, rfl⟩ := List.mem_map.1 hnew
      refine ⟨old, hold, fun drive hdrive hown => ?_, rfl⟩
      obtain ⟨newId, hpair⟩ := exists_mem_zip hfresh hdrive
      apply hid
      apply List.mem_map.2
      refine ⟨_, mem_entriesOf.2 ⟨(drive, newId), hpair, rfl⟩, ?_⟩
      rw [targetId, decideDrive, hown]
      rfl
    · rintro ⟨old, hold, hnone, rfl⟩
      refine ⟨List.mem_map_of_mem hold, fun hid => ?_⟩
      obtain ⟨entry, hentry, htarget⟩ := List.mem_map.1 hid
      obtain ⟨pair, hpair, rfl⟩ := mem_entriesOf.1 hentry
      rw [targetId, decideDrive] at htarget
      cases hown : ownRow rows drives pair.1 with
      | none =>
        rw [hown] at htarget
        exact hfresh.unused pair.2 (List.of_mem_zip hpair).2 old hold htarget.symm
      | some row =>
        rw [hown] at htarget
        cases hrows.ext (ownRow_mem hown) hold htarget
        exact hnone pair.1 (List.of_mem_zip hpair).1 hown
  · constructor
    · rintro ⟨entry, hentry, hwritten⟩
      obtain ⟨pair, hpair, rfl⟩ := mem_entriesOf.1 hentry
      exact ⟨pair, hpair, (written_drivenRow hrows pair).1 hwritten⟩
    · rintro ⟨pair, hpair, hnew⟩
      exact ⟨_, mem_entriesOf.2 ⟨pair, hpair, rfl⟩, (written_drivenRow hrows pair).2 hnew⟩

end Reconciled

/-- The authorizations after a snapshot: a discovered drive is enabled by the default of a path
that nothing has used up, or goes on with a row that was; a missing drive only as it was. -/
structure Authorized (spent : List String) (rows : List OpticalDrive)
    (drives : List OpticalDriveReconciliationInput) (rows' : List OpticalDrive) : Prop where
  discovered : ∀ new ∈ rows', new.isPresent = true → new.isEnabled = true →
    ∃ drive ∈ drives, drive.devicePath = new.devicePath ∧
      ((drive.isConfiguredDevice = true ∧ drive.devicePath ∉ spent) ∨
        ∃ old ∈ rows, old.id = new.id ∧ old.isEnabled = true ∧ Continues old drive)
  missing : ∀ new ∈ rows', new.isPresent = false → new.isEnabled = true →
    ∃ old ∈ rows, old.id = new.id ∧ old.isEnabled = true

/-- A configured drive at a path whose default has been used up is retargeted, or has a row of its
own that is resolved, or enabled, or not proven to be it. -/
def DefaultKept (spent : List String) (rows : List OpticalDrive)
    (drives : List OpticalDriveReconciliationInput) : Prop :=
  ∀ drive ∈ drives, drive.isConfiguredDevice = true → drive.devicePath ∈ spent →
    ¬TargetChanged rows drives → ∃ row, OwnRow rows drives drive row ∧
      (row.configurationDefaultResolved = true ∨ row.isEnabled = true ∨ ¬Continues row drive)

section Authorized

variable {rows : List OpticalDrive} {drives : List OpticalDriveReconciliationInput}
  {drive : OpticalDriveReconciliationInput} {row new : OpticalDrive} {newIds : List String}

@[simp] theorem drivenRow_path : (drivenRow rows drives timestamp drive newId).devicePath =
    drive.devicePath := by
  unfold drivenRow
  split <;> rfl

theorem drivenRow_id : (drivenRow rows drives timestamp drive newId).id =
    ((ownRow rows drives drive).map (·.id)).getD newId := by
  unfold drivenRow
  cases ownRow rows drives drive <;> rfl

@[simp] theorem drivenRow_present :
    (drivenRow rows drives timestamp drive newId).isPresent = true := by
  unfold drivenRow
  split <;> rfl

/-- When the reconciliation enables the row it writes for a drive. -/
theorem drivenRow_enabled_some (hown : ownRow rows drives drive = some row) :
    (drivenRow rows drives timestamp drive newId).isEnabled = true ↔
      ¬IsReplacement row drive ∧ (row.isEnabled = true ∨
        (drive.isConfiguredDevice = true ∧ ¬TargetChanged rows drives ∧
          row.configurationDefaultResolved = false)) := by
  rw [drivenRow, hown]
  simp only [OpticalDrive.rediscovered, OpticalDrive.unseen, decideDrive, authorizationUpdate,
    Option.any_some, Option.mem_def, Option.some.injEq, exists_eq_left']
  by_cases hreplaced : IsReplacement row drive
  · simp [hreplaced]
  · by_cases hconfigured : drive.isConfiguredDevice = true
    · by_cases hchanged : TargetChanged rows drives
      · simp [hreplaced, hconfigured, hchanged]
      · by_cases hresolved : row.configurationDefaultResolved = true
        · simp [hreplaced, hconfigured, hchanged, hresolved]
        · simp [hreplaced, hconfigured, hchanged, hresolved]
    · simp [hreplaced, hconfigured]

theorem drivenRow_enabled_none (hown : ownRow rows drives drive = none) :
    (drivenRow rows drives timestamp drive newId).isEnabled = true ↔
      drive.isConfiguredDevice = true ∧ ¬TargetChanged rows drives := by
  rw [drivenRow, hown]
  simp [OpticalDriveReconciliationDecision.inserted, decideDrive]

/-- The default enables unproven hardware exactly when it is not kept. -/
theorem authorized_iff (spent : List String) (timestamp : Nat) (hrows : StoredDrives rows)
    (hs : Snapshot drives) (hdistinct : SerialsDistinct rows) (hclear : PathsClear rows drives)
    (hfresh : FreshIds newIds rows drives.length) :
    Authorized spent rows drives ((entriesOf rows drives newIds).foldl (applyDecision timestamp)
      (rows.map (·.unseen (planOf rows drives).configuredTargetPath))) ↔
      DefaultKept spent rows drives := by
  constructor
  · intro h drive hdrive hconfigured hspent hkept
    obtain ⟨newId, hpair⟩ := exists_mem_zip hfresh hdrive
    have hnew := (mem_reconciled timestamp hrows hs hfresh).2 (.inr ⟨(drive, newId), hpair, rfl⟩)
    have hauthority := h.discovered _ hnew drivenRow_present
    have hold : (drivenRow rows drives timestamp drive newId).isEnabled = true →
        ∃ old ∈ rows, old.id = (drivenRow rows drives timestamp drive newId).id ∧
          old.isEnabled = true := by
      intro henabled
      obtain ⟨other, hother, hpath, ⟨-, hunspent⟩ | ⟨old, hold, hid, hwas, -⟩⟩ :=
        hauthority henabled
      · rw [drivenRow_path] at hpath
        exact absurd (hpath ▸ hspent) hunspent
      · exact ⟨old, hold, hid, hwas⟩
    cases hown : ownRow rows drives drive with
    | none =>
      obtain ⟨old, hold, hid, -⟩ := hold ((drivenRow_enabled_none hown).2 ⟨hconfigured, hkept⟩)
      rw [drivenRow_id, hown] at hid
      exact absurd hid (hfresh.unused newId (List.of_mem_zip hpair).2 old hold)
    | some row =>
      have hrow : OwnRow rows drives drive row := (ownRow_eq hrows hdistinct hclear hdrive).1 hown
      refine ⟨row, hrow, ?_⟩
      by_contra hno
      obtain ⟨hresolved, hdisabled, hcontinues⟩ := not_or.1 hno |>.imp_right not_or.1
      obtain ⟨old, hold, hid, hwas⟩ := hold ((drivenRow_enabled_some hown).2
        ⟨mt (isReplacement_iff hrow).1 hcontinues,
          .inr ⟨hconfigured, hkept, Bool.eq_false_of_not_eq_true hresolved⟩⟩)
      rw [drivenRow_id, hown] at hid
      cases hrows.ext hold (ownRow_mem hown) hid
      exact hdisabled hwas
  · intro h
    constructor
    case discovered =>
      intro new hnew hpresent henabled
      rcases (mem_reconciled timestamp hrows hs hfresh).1 hnew with
        ⟨old, -, -, rfl⟩ | ⟨⟨drive, newId⟩, hpair, rfl⟩
      · cases hpresent
      · have hdrive := (List.of_mem_zip hpair).1
        refine ⟨drive, hdrive, drivenRow_path.symm, ?_⟩
        cases hown : ownRow rows drives drive with
        | none =>
          obtain ⟨hconfigured, hkept⟩ := (drivenRow_enabled_none hown).1 henabled
          by_cases hspent : drive.devicePath ∈ spent
          · obtain ⟨row, hrow, -⟩ := h drive hdrive hconfigured hspent hkept
            rw [(ownRow_eq hrows hdistinct hclear hdrive).2 hrow] at hown
            cases hown
          · exact .inl ⟨hconfigured, hspent⟩
        | some row =>
          have hrow := (ownRow_eq hrows hdistinct hclear hdrive).1 hown
          obtain ⟨hsame, hauthority⟩ := (drivenRow_enabled_some hown).1 henabled
          have hcontinues : Continues row drive := by
            by_contra hnot
            exact hsame ((isReplacement_iff hrow).2 hnot)
          have hid : row.id = (drivenRow rows drives timestamp drive newId).id := by
            rw [drivenRow_id, hown]
            rfl
          have hcontinued (hwas : row.isEnabled = true) : ∃ old ∈ rows,
              old.id = (drivenRow rows drives timestamp drive newId).id ∧ old.isEnabled = true ∧
                Continues old drive := ⟨row, ownRow_mem hown, hid, hwas, hcontinues⟩
          rcases hauthority with hwas | ⟨hconfigured, hkept, hunresolved⟩
          · exact .inr (hcontinued hwas)
          · by_cases hspent : drive.devicePath ∈ spent
            · obtain ⟨other, hother, hkeeps⟩ := h drive hdrive hconfigured hspent hkept
              rw [(ownRow_eq hrows hdistinct hclear hdrive).2 hother] at hown
              cases hown
              rcases hkeeps with hresolved | hwas | hnot
              · rw [hunresolved] at hresolved
                cases hresolved
              · exact .inr (hcontinued hwas)
              · exact absurd hcontinues hnot
            · exact .inl ⟨hconfigured, hspent⟩
    case missing =>
      intro new hnew hmissing henabled
      rcases (mem_reconciled timestamp hrows hs hfresh).1 hnew with
        ⟨old, hold, -, rfl⟩ | ⟨⟨drive, newId⟩, hpair, rfl⟩
      · exact ⟨old, hold, rfl, henabled⟩
      · rw [drivenRow_present] at hmissing
        cases hmissing

end Authorized

section Stored

variable {rows : List OpticalDrive} {drives : List OpticalDriveReconciliationInput}
  {drive : OpticalDriveReconciliationInput} {row new : OpticalDrive} {newIds : List String}

theorem map_id_eq {f : OpticalDrive → OpticalDrive} (h : ∀ row, (f row).id = row.id)
    (rows : List OpticalDrive) : (rows.map f).map (·.id) = rows.map (·.id) := by
  rw [List.map_map]
  exact List.map_congr_left fun row _ => h row

theorem applyDecision_key {entry : OpticalDriveReconciliationDecision × String}
    (hfresh : FreshEntry rows entry) (hkey : (rows.map (·.id)).Nodup) :
    ((applyDecision timestamp rows entry).map (·.id)).Nodup := by
  unfold applyDecision
  split
  · rw [map_id_eq]
    · exact hkey
    · intro row
      split <;> rfl
  · next hnone =>
    rw [List.map_append, List.map_singleton]
    apply List.nodup_append.2
    refine ⟨hkey, List.nodup_singleton _, ?_⟩
    intro id hid other hother
    obtain ⟨row, hrow, rfl⟩ := List.mem_map.1 hid
    rw [List.mem_singleton.1 hother]
    exact hfresh hnone row hrow

theorem foldl_applyDecision_key {entries : List (OpticalDriveReconciliationDecision × String)}
    (htargets : (entries.map targetId).Nodup)
    (hfresh : ∀ entry ∈ entries, FreshEntry rows entry) (hkey : (rows.map (·.id)).Nodup) :
    ((entries.foldl (applyDecision timestamp) rows).map (·.id)).Nodup := by
  induction entries generalizing rows with
  | nil => exact hkey
  | cons first entries ih =>
    obtain ⟨hfirst, hrest⟩ := List.nodup_cons.1 htargets
    have hnew := hfresh first List.mem_cons_self
    rw [List.foldl_cons]
    apply ih hrest
    · intro entry hentry
      apply (hfresh entry (List.mem_cons_of_mem _ hentry)).apply hnew
      exact fun heq => hfirst (heq ▸ List.mem_map_of_mem hentry)
    · exact applyDecision_key hnew hkey

theorem zip_functional (hs : Snapshot drives) (hfresh : FreshIds newIds rows drives.length)
    (h : (drive, i) ∈ drives.zip newIds) (h' : (drive, j) ∈ drives.zip newIds) : i = j := by
  have hmap : (drives.zip newIds).map Prod.fst = drives :=
    List.map_fst_zip (by rw [hfresh.enough])
  have hnodup : ((drives.zip newIds).map Prod.fst).Nodup := by
    rw [hmap]
    exact List.Nodup.of_map _ hs.paths
  exact congrArg Prod.snd (List.inj_on_of_nodup_map hnodup h h' rfl)

/-- What makes a row the configured target. -/
theorem reconciled_target (hrows : StoredDrives rows) (hs : Snapshot drives)
    (hfresh : FreshIds newIds rows drives.length)
    (hnew : new ∈ (entriesOf rows drives newIds).foldl (applyDecision timestamp)
      (rows.map (·.unseen (planOf rows drives).configuredTargetPath)))
    (htarget : new.isConfiguredTarget = true) :
    (∃ pair ∈ drives.zip newIds, pair.1.isConfiguredDevice = true ∧
      new = drivenRow rows drives timestamp pair.1 pair.2) ∨
    ((∀ drive ∈ drives, drive.isConfiguredDevice ≠ true) ∧
      ∃ old ∈ rows, old.isConfiguredTarget = true ∧ old.id = new.id) := by
  have hnone (h : (planOf rows drives).configuredTargetPath.isNone = true) :
      ∀ drive ∈ drives, drive.isConfiguredDevice ≠ true := by
    rw [planOf, Option.isNone_map, Option.isNone_iff_eq_none, List.find?_eq_none] at h
    exact h
  rcases (mem_reconciled timestamp hrows hs hfresh).1 hnew with
    ⟨old, hold, -, rfl⟩ | ⟨pair, hpair, rfl⟩
  · simp only [OpticalDrive.unseen, Bool.and_eq_true] at htarget
    exact .inr ⟨hnone htarget.2, old, hold, htarget.1, rfl⟩
  · by_cases hconfigured : pair.1.isConfiguredDevice = true
    · exact .inl ⟨pair, hpair, hconfigured, rfl⟩
    · cases hown : ownRow rows drives pair.1 with
      | none =>
        rw [drivenRow, hown] at htarget
        exact absurd htarget hconfigured
      | some row =>
        rw [drivenRow, hown] at htarget
        simp only [OpticalDrive.rediscovered, OpticalDrive.unseen, decideDrive, Bool.or_eq_true,
          Bool.and_eq_true] at htarget
        obtain ⟨htarget, hpath⟩ := htarget.resolve_left hconfigured
        refine .inr ⟨hnone hpath, row, ownRow_mem hown, htarget, ?_⟩
        rw [drivenRow_id, hown]
        rfl

/-- The rows after a reconciliation are stored drives again. -/
theorem StoredDrives.reconciled (hrows : StoredDrives rows) (hs : Snapshot drives)
    (hfresh : FreshIds newIds rows drives.length) :
    StoredDrives ((entriesOf rows drives newIds).foldl (applyDecision timestamp)
      (rows.map (·.unseen (planOf rows drives).configuredTargetPath))) := by
  constructor
  case key =>
    apply foldl_applyDecision_key (entriesOf_targets hrows hs hfresh) (entriesOf_fresh hfresh)
    have hids := map_id_eq (f := (·.unseen (planOf rows drives).configuredTargetPath))
      (fun _ => rfl) rows
    rw [hids]
    exact hrows.key
  case target =>
    intro a ha b hb hta htb
    rcases reconciled_target hrows hs hfresh ha hta with
      ⟨pair, hpair, hconfigured, rfl⟩ | ⟨hnone, old, hold, hwas, hid⟩
    · rcases reconciled_target hrows hs hfresh hb htb with
        ⟨pair', hpair', hconfigured', rfl⟩ | ⟨hnone, -⟩
      · have hsame : pair.1 = pair'.1 := by
          apply eq_of_length_le_one hs.configured
          · exact List.mem_filter.2 ⟨(List.of_mem_zip hpair).1, hconfigured⟩
          · exact List.mem_filter.2 ⟨(List.of_mem_zip hpair').1, hconfigured'⟩
        have hid : pair.2 = pair'.2 := by
          apply zip_functional hs hfresh hpair
          rw [hsame]
          exact hpair'
        rw [hsame, hid]
      · exact absurd hconfigured (hnone pair.1 (List.of_mem_zip hpair).1)
    · rcases reconciled_target hrows hs hfresh hb htb with
        ⟨pair', hpair', hconfigured', -⟩ | ⟨-, old', hold', hwas', hid'⟩
      · exact absurd hconfigured' (hnone pair'.1 (List.of_mem_zip hpair').1)
      · rw [← hid, ← hid', hrows.target old hold old' hold' hwas hwas']

end Stored

end RipDvd
