import RipDvd.OpticalDrives

namespace RipDvd
set_option autoImplicit true

/-- What is asked of stored drives: their ids are a key, and one is the configured target at
most. -/
structure StoredDrives (rows : List OpticalDrive) : Prop where
  key : (rows.map (·.id)).Nodup
  target : ∀ a ∈ rows, ∀ b ∈ rows, a.isConfiguredTarget = true → b.isConfiguredTarget = true →
    a.id = b.id

theorem StoredDrives.ext (h : StoredDrives rows) (ha : a ∈ rows) (hb : b ∈ rows)
    (hid : a.id = b.id) : a = b :=
  List.inj_on_of_nodup_map h.key ha hb hid

theorem StoredDrives.perm (h : StoredDrives rows) (hp : rows.Perm rows') : StoredDrives rows' where
  key := (hp.map _).nodup_iff.1 h.key
  target a ha b hb := h.target a (hp.mem_iff.2 ha) b (hp.mem_iff.2 hb)

/-- What is asked of a snapshot. -/
structure Snapshot (drives : List OpticalDriveReconciliationInput) : Prop where
  paths : (drives.map (·.devicePath)).Nodup
  serials : (drives.filterMap (·.serial)).Nodup
  configured : (drives.filter (·.isConfiguredDevice)).length ≤ 1

theorem Snapshot.perm (h : Snapshot drives) (hp : drives.Perm drives') : Snapshot drives' where
  paths := (hp.map _).nodup_iff.1 h.paths
  serials := (hp.filterMap _).nodup_iff.1 h.serials
  configured := (hp.filter _).length_eq ▸ h.configured

/-- A serial number is that of one stored row. -/
def SerialsDistinct (rows : List OpticalDrive) : Prop :=
  ∀ a ∈ rows, ∀ b ∈ rows, ∀ serial, a.serial = some serial → b.serial = some serial → a = b

/-- The row that has the serial number of a drive. -/
def SerialRow (rows : List OpticalDrive) (drive : OpticalDriveReconciliationInput)
    (row : OpticalDrive) : Prop :=
  row ∈ rows ∧ ∃ serial, row.serial = some serial ∧ drive.serial = some serial

/-- The rows at a path that are not another drive's by their serial number. -/
def pathMatches (rows : List OpticalDrive) (drives : List OpticalDriveReconciliationInput)
    (devicePath : String) : List OpticalDrive :=
  rows.filter fun row => row.devicePath = devicePath ∧
    row.id ∉ (drives.filterMap (serialMatch rows)).map (·.id)

/-- The row of a drive: by its serial number, else by its path. -/
def ownRow (rows : List OpticalDrive) (drives : List OpticalDriveReconciliationInput)
    (drive : OpticalDriveReconciliationInput) : Option OpticalDrive :=
  (serialMatch rows drive).or (choosePathMatch (pathMatches rows drives drive.devicePath))

/-- No path has two present rows for a drive to go on with. -/
def PathsClear (rows : List OpticalDrive) (drives : List OpticalDriveReconciliationInput) : Prop :=
  ∀ drive ∈ drives, serialMatch rows drive = none →
    ((pathMatches rows drives drive.devicePath).filter (·.isPresent)).length ≤ 1

theorem eq_of_length_le_one {l : List α} (h : l.length ≤ 1) (ha : a ∈ l) (hb : b ∈ l) :
    a = b := by
  match l with
  | [] => cases ha
  | [c] => rw [List.mem_singleton.1 ha, List.mem_singleton.1 hb]
  | _ :: _ :: _ => simp only [List.length_cons] at h; omega

theorem length_le_one_of_eq {l : List α} (hl : l.Nodup) (h : ∀ a ∈ l, ∀ b ∈ l, a = b) :
    l.length ≤ 1 := by
  match l with
  | [] => exact Nat.zero_le 1
  | [_] => exact le_rfl
  | a :: b :: _ =>
    have heq := h a List.mem_cons_self b (List.mem_cons_of_mem _ List.mem_cons_self)
    exact absurd (heq ▸ List.mem_cons_self) (List.nodup_cons.1 hl).1

section Serials

variable {rows rows' : List OpticalDrive} {drives drives' : List OpticalDriveReconciliationInput}
  {drive : OpticalDriveReconciliationInput} {row : OpticalDrive}

theorem serialMatch_some (h : serialMatch rows drive = some row) : SerialRow rows drive row := by
  obtain ⟨serial, hserial, hfind⟩ := Option.bind_eq_some_iff.1 h
  have hrow := List.find?_some hfind
  exact ⟨List.mem_of_find?_eq_some hfind, serial, of_decide_eq_true hrow, hserial⟩

theorem serialMatch_eq (hrows : SerialsDistinct rows) :
    serialMatch rows drive = some row ↔ SerialRow rows drive row := by
  constructor
  · exact serialMatch_some
  · rintro ⟨hmem, serial, hrow, hdrive⟩
    obtain ⟨found, hfound⟩ : ∃ found, serialMatch rows drive = some found := by
      rw [serialMatch, hdrive, Option.bind_some, ← Option.isSome_iff_exists, List.find?_isSome]
      exact ⟨row, hmem, decide_eq_true hrow⟩
    obtain ⟨hmem', serial', hfound', hdrive'⟩ := serialMatch_some hfound
    cases hdrive.symm.trans hdrive'
    rw [hfound, hrows found hmem' row hmem serial hfound' hrow]

theorem ambiguousSerial_none (hkey : (rows.map (·.id)).Nodup) :
    ambiguousSerial rows = none ↔ SerialsDistinct rows := by
  have hnodup : rows.Nodup := List.Nodup.of_map _ hkey
  rw [ambiguousSerial, List.findSome?_eq_none_iff]
  simp only [Option.filter_eq_none_iff, decide_eq_true_eq, not_lt]
  constructor
  · intro h a ha b hb serial hserial hserial'
    apply eq_of_length_le_one (h a ha serial hserial)
    · exact List.mem_filter.2 ⟨ha, decide_eq_true hserial⟩
    · exact List.mem_filter.2 ⟨hb, decide_eq_true hserial'⟩
  · intro h row _ serial _
    apply length_le_one_of_eq (hnodup.filter _)
    intro a ha b hb
    obtain ⟨ha, hserial⟩ := List.mem_filter.1 ha
    obtain ⟨hb, hserial'⟩ := List.mem_filter.1 hb
    exact h a ha b hb serial (of_decide_eq_true hserial) (of_decide_eq_true hserial')

theorem SerialsDistinct.perm (h : SerialsDistinct rows) (hp : rows.Perm rows') :
    SerialsDistinct rows' :=
  fun a ha b hb => h a (hp.mem_iff.2 ha) b (hp.mem_iff.2 hb)

theorem serialMatch_perm (hrows : SerialsDistinct rows) (hp : rows.Perm rows') :
    serialMatch rows drive = serialMatch rows' drive := by
  apply Option.ext
  intro row
  rw [serialMatch_eq hrows, serialMatch_eq (hrows.perm hp), SerialRow, SerialRow, hp.mem_iff]

end Serials

section Paths

variable {rows rows' : List OpticalDrive} {drives drives' : List OpticalDriveReconciliationInput}
  {drive : OpticalDriveReconciliationInput} {row : OpticalDrive}

theorem choosePathMatch_mem {l : List OpticalDrive} (h : choosePathMatch l = some row) :
    row ∈ l := by
  unfold choosePathMatch at h
  split at h
  · next present _ hpresent =>
    cases h
    exact (List.mem_filter.1 (hpresent ▸ List.mem_cons_self)).1
  · split at h
    · cases h
      exact List.mem_cons_self
    · cases h

/-- Which row is chosen: the only present one, or the only one. -/
theorem choosePathMatch_eq {l : List OpticalDrive} (hclear : (l.filter (·.isPresent)).length ≤ 1)
    (hl : l.Nodup) : choosePathMatch l = some row ↔
      row ∈ l ∧ (row.isPresent = true ∨ ∀ other ∈ l, other = row) := by
  unfold choosePathMatch
  cases hpresent : l.filter (·.isPresent) with
  | cons present rest =>
    obtain ⟨hmem, his⟩ := List.mem_filter.1 (hpresent ▸ List.mem_cons_self)
    dsimp only
    rw [Option.some.injEq]
    constructor
    · rintro rfl
      exact ⟨hmem, .inl his⟩
    · rintro ⟨hrow, hnow | hall⟩
      · apply eq_of_length_le_one hclear
        · exact List.mem_filter.2 ⟨hmem, his⟩
        · exact List.mem_filter.2 ⟨hrow, hnow⟩
      · exact hall present hmem
  | nil =>
    have habsent : ∀ other ∈ l, other.isPresent ≠ true := List.filter_eq_nil_iff.1 hpresent
    match l with
    | [] => exact iff_of_false nofun fun h => (nomatch h.1)
    | [only] =>
      dsimp only
      rw [Option.some.injEq]
      constructor
      · rintro rfl
        exact ⟨List.mem_cons_self, .inr fun other hother => List.mem_singleton.1 hother⟩
      · rintro ⟨hrow, -⟩
        exact (List.mem_singleton.1 hrow).symm
    | first :: second :: _ =>
      apply iff_of_false nofun
      rintro ⟨hrow, hnow | hall⟩
      · exact habsent row hrow hnow
      · have hsecond := hall second (List.mem_cons_of_mem _ List.mem_cons_self)
        rw [← hall first List.mem_cons_self] at hsecond
        exact (List.nodup_cons.1 hl).1 (hsecond ▸ List.mem_cons_self)

/-- Whether a path is clear, and the row chosen at it, do not depend on the order of the rows. -/
theorem choosePathMatch_perm {l l' : List OpticalDrive}
    (hclear : (l.filter (·.isPresent)).length ≤ 1) (hl : l.Nodup) (hp : l.Perm l') :
    choosePathMatch l = choosePathMatch l' := by
  have hclear' : (l'.filter (·.isPresent)).length ≤ 1 := (hp.filter _).length_eq ▸ hclear
  apply Option.ext
  intro row
  rw [choosePathMatch_eq hclear hl, choosePathMatch_eq hclear' (hp.nodup_iff.1 hl)]
  simp only [hp.mem_iff]

theorem pathMatches_perm (hrows : SerialsDistinct rows) (hp : rows.Perm rows')
    (hd : drives.Perm drives') (devicePath : String) :
    (pathMatches rows drives devicePath).Perm (pathMatches rows' drives' devicePath) := by
  have hclaimed (id : String) : id ∉ (drives.filterMap (serialMatch rows)).map (·.id) ↔
      id ∉ (drives'.filterMap (serialMatch rows')).map (·.id) := by
    have hsame : drives'.filterMap (serialMatch rows') = drives'.filterMap (serialMatch rows) :=
      List.filterMap_congr fun _ _ => (serialMatch_perm hrows hp).symm
    rw [hsame, ((hd.filterMap _).map _).mem_iff]
  rw [pathMatches, pathMatches]
  simp only [hclaimed]
  exact hp.filter _

theorem ownRow_perm (hkey : (rows.map (·.id)).Nodup) (hrows : SerialsDistinct rows)
    (hclear : PathsClear rows drives) (hp : rows.Perm rows') (hd : drives.Perm drives')
    (h : drive ∈ drives) : ownRow rows drives drive = ownRow rows' drives' drive := by
  rw [ownRow, ownRow, serialMatch_perm hrows hp]
  cases hserial : serialMatch rows' drive with
  | some => rfl
  | none =>
    rw [Option.none_or, Option.none_or]
    apply choosePathMatch_perm _ _ (pathMatches_perm hrows hp hd _)
    · exact hclear drive h ((serialMatch_perm hrows hp).trans hserial)
    · exact (List.Nodup.of_map _ hkey).filter _

theorem PathsClear.perm (h : PathsClear rows drives) (hrows : SerialsDistinct rows)
    (hp : rows.Perm rows') (hd : drives.Perm drives') : PathsClear rows' drives' := by
  intro drive hdrive hserial
  rw [← ((pathMatches_perm hrows hp hd _).filter _).length_eq]
  exact h drive (hd.mem_iff.2 hdrive) ((serialMatch_perm hrows hp).trans hserial)

end Paths

section Plan

variable {rows rows' : List OpticalDrive}
  {drives drives' all : List OpticalDriveReconciliationInput}

/-- Claiming a row at one path leaves what the other paths can be matched with. -/
theorem matchPaths_ok (hkey : (rows.map (·.id)).Nodup) (hpaths : (drives.map (·.devicePath)).Nodup)
    (hclaimed : ∀ row ∈ rows, row.devicePath ∈ drives.map (·.devicePath) →
      (row.id ∈ claimed ↔ row.id ∈ (all.filterMap (serialMatch rows)).map (·.id))) :
    matchPaths rows claimed (drives.zip (drives.map (serialMatch rows))) = .ok existing ↔
      (∀ drive ∈ drives, serialMatch rows drive = none →
        ((pathMatches rows all drive.devicePath).filter (·.isPresent)).length ≤ 1) ∧
      existing = drives.map (ownRow rows all) := by
  induction drives generalizing claimed existing with
  | nil =>
    rw [List.zip_nil_left, matchPaths]
    constructor
    · intro h
      cases h
      exact ⟨fun _ h => (nomatch h), rfl⟩
    · rintro ⟨-, rfl⟩
      rfl
  | cons drive drives ih =>
    obtain ⟨hfirst, hrest⟩ := List.nodup_cons.1 hpaths
    rw [List.map_cons, List.zip_cons_cons]
    have hlater : ∀ row ∈ rows, row.devicePath ∈ drives.map (·.devicePath) →
        (row.id ∈ claimed ↔ row.id ∈ (all.filterMap (serialMatch rows)).map (·.id)) :=
      fun row hrow hpath => hclaimed row hrow (List.mem_cons_of_mem _ hpath)
    cases hserial : serialMatch rows drive with
    | some row =>
      have hown : ownRow rows all drive = some row := by rw [ownRow, hserial, Option.some_or]
      rw [matchPaths, List.map_cons, hown]
      simp only [bind_ok, pure_ok, ih hrest hlater, List.forall_mem_cons, hserial]
      constructor
      · rintro ⟨others, ⟨hclear, rfl⟩, rfl⟩
        exact ⟨⟨fun h => (nomatch h), hclear⟩, rfl⟩
      · rintro ⟨⟨-, hclear⟩, rfl⟩
        exact ⟨_, ⟨hclear, rfl⟩, rfl⟩
    | none =>
      have hmatches : (rows.filter fun candidate =>
          candidate.devicePath = drive.devicePath ∧ candidate.id ∉ claimed) =
          pathMatches rows all drive.devicePath := by
        apply List.filter_congr
        intro row hrow
        apply decide_eq_decide.2
        apply and_congr_right
        intro hpath
        rw [hclaimed row hrow (hpath ▸ List.mem_cons_self)]
      have hown : ownRow rows all drive =
          choosePathMatch (pathMatches rows all drive.devicePath) := by
        rw [ownRow, hserial, Option.none_or]
      have hothers : ∀ row ∈ rows, row.devicePath ∈ drives.map (·.devicePath) →
          (row.id ∈ (ownRow rows all drive).toList.map (·.id) ++ claimed ↔
            row.id ∈ (all.filterMap (serialMatch rows)).map (·.id)) := by
        intro row hrow hpath
        rw [List.mem_append, hlater row hrow hpath, or_iff_right]
        rw [hown]
        intro hid
        obtain ⟨other, hother, hid⟩ := List.mem_map.1 hid
        have hmem := choosePathMatch_mem (Option.mem_toList.1 hother)
        obtain ⟨hmem, hat⟩ := List.mem_filter.1 hmem
        rw [decide_eq_true_eq] at hat
        cases List.inj_on_of_nodup_map hkey hmem hrow hid
        have hagain : drive.devicePath ∈ drives.map (·.devicePath) := hat.1 ▸ hpath
        exact hfirst hagain
      rw [matchPaths, hmatches, ← hown, List.map_cons]
      simp only [bind_ok, pure_ok, rejectIf_ok, not_lt, ih hrest hothers, List.forall_mem_cons,
        hserial, forall_true_left]
      constructor
      · rintro ⟨-, hone, others, ⟨hclear, rfl⟩, rfl⟩
        exact ⟨⟨hone, hclear⟩, rfl⟩
      · rintro ⟨⟨hone, hclear⟩, rfl⟩
        exact ⟨(), hone, _, ⟨hclear, rfl⟩, rfl⟩

/-- The configured target of a snapshot differs from the stored one. -/
def TargetChanged (rows : List OpticalDrive) (drives : List OpticalDriveReconciliationInput) :
    Prop :=
  ConfiguredTargetChanged (drives.find? (·.isConfiguredDevice)) (rows.find? (·.isConfiguredTarget))

instance (rows : List OpticalDrive) (drives : List OpticalDriveReconciliationInput) :
    Decidable (TargetChanged rows drives) :=
  inferInstanceAs (Decidable (ConfiguredTargetChanged _ _))

/-- The plan for an accepted snapshot. -/
def planOf (rows : List OpticalDrive) (drives : List OpticalDriveReconciliationInput) :
    OpticalDriveReconciliationPlan where
  configuredTargetPath := (drives.find? (·.isConfiguredDevice)).map (·.devicePath)
  drives := drives.map fun drive =>
    decideDrive (TargetChanged rows drives) drive (ownRow rows drives drive)

/-- The snapshots that are accepted, and their plans. -/
theorem planOpticalDriveReconciliation_ok (hkey : (rows.map (·.id)).Nodup) :
    planOpticalDriveReconciliation discovered rows = .ok plan ↔
      ∃ drives, discovered.mapM normalizeDiscovered = .ok drives ∧ Snapshot drives ∧
        SerialsDistinct rows ∧ PathsClear rows drives ∧ plan = planOf rows drives := by
  simp only [planOpticalDriveReconciliation, bind_ok, rejectIf_ok, not_not, not_lt]
  apply exists_congr
  intro drives
  apply and_congr_right
  intro _
  have hclaimed : ((drives.map (serialMatch rows)).filterMap id).map (·.id) =
      (drives.filterMap (serialMatch rows)).map (·.id) := by
    rw [List.filterMap_map]
    rfl
  have hmatch (hpaths : (drives.map (·.devicePath)).Nodup) (existing) :
      matchPaths rows ((drives.filterMap (serialMatch rows)).map (·.id))
        (drives.zip (drives.map (serialMatch rows))) = .ok existing ↔
      PathsClear rows drives ∧ existing = drives.map (ownRow rows drives) :=
    matchPaths_ok hkey hpaths fun _ _ _ => Iff.rfl
  have hdecisions : List.zipWith (decideDrive (TargetChanged rows drives)) drives
      (drives.map (ownRow rows drives)) = (planOf rows drives).drives := by
    rw [List.zipWith_map_right, List.zipWith_self]
    rfl
  rw [hclaimed]
  constructor
  · rintro ⟨-, hpaths, -, hserials, -, hconfigured, h⟩
    split at h
    · cases h
    · next hnone =>
      obtain ⟨existing, hexisting, he⟩ := bind_ok.1 h
      obtain ⟨hclear, rfl⟩ := (hmatch hpaths existing).1 hexisting
      refine ⟨⟨hpaths, hserials, hconfigured⟩, (ambiguousSerial_none hkey).1 hnone, hclear, ?_⟩
      rw [← pure_ok.1 he]
      exact congrArg _ hdecisions
  · rintro ⟨⟨hpaths, hserials, hconfigured⟩, hdistinct, hclear, rfl⟩
    refine ⟨(), hpaths, (), hserials, (), hconfigured, ?_⟩
    rw [(ambiguousSerial_none hkey).2 hdistinct]
    exact bind_ok.2 ⟨_, (hmatch hpaths _).2 ⟨hclear, rfl⟩, pure_ok.2 (congrArg _ hdecisions)⟩

end Plan

section Properties

variable {rows rows' : List OpticalDrive} {drives drives' : List OpticalDriveReconciliationInput}
  {drive drive' : OpticalDriveReconciliationInput} {row : OpticalDrive}

theorem Snapshot.eq_of_serial (h : Snapshot drives) (hd : drive ∈ drives) (hd' : drive' ∈ drives)
    (hserial : drive.serial = some serial) (hserial' : drive'.serial = some serial) :
    drive = drive' := by
  have hpairs : drives.Pairwise fun a b => ∀ s ∈ a.serial, ∀ s' ∈ b.serial, s ≠ s' :=
    List.pairwise_filterMap.1 h.serials
  by_contra hne
  have hsymm : Std.Symm fun a b : OpticalDriveReconciliationInput =>
      ∀ s ∈ a.serial, ∀ s' ∈ b.serial, s ≠ s' :=
    ⟨fun _ _ h s hs s' hs' heq => h s' hs' s hs heq.symm⟩
  exact hpairs.forall hd hd' hne serial hserial serial hserial' rfl

theorem Snapshot.eq_of_path (h : Snapshot drives) (hd : drive ∈ drives) (hd' : drive' ∈ drives)
    (hpath : drive.devicePath = drive'.devicePath) : drive = drive' :=
  List.inj_on_of_nodup_map h.paths hd hd' hpath

theorem ownRow_mem (h : ownRow rows drives drive = some row) : row ∈ rows := by
  rcases Option.or_eq_some_iff.1 h with hserial | ⟨-, hpath⟩
  · exact (serialMatch_some hserial).1
  · exact (List.mem_filter.1 (choosePathMatch_mem hpath)).1

/-- Two drives do not go on with one row. -/
theorem ownRow_inj (hs : Snapshot drives) (hd : drive ∈ drives) (hd' : drive' ∈ drives)
    (h : ownRow rows drives drive = some row) (h' : ownRow rows drives drive' = some row) :
    drive = drive' := by
  have hclaimed {a : OpticalDriveReconciliationInput} (ha : a ∈ drives)
      (hserial : serialMatch rows a = some row) :
      row.id ∈ (drives.filterMap (serialMatch rows)).map (·.id) :=
    List.mem_map_of_mem (List.mem_filterMap.2 ⟨a, ha, hserial⟩)
  have hat {a : OpticalDriveReconciliationInput}
      (hpath : choosePathMatch (pathMatches rows drives a.devicePath) = some row) :
      row.devicePath = a.devicePath ∧
        row.id ∉ (drives.filterMap (serialMatch rows)).map (·.id) :=
    of_decide_eq_true (List.mem_filter.1 (choosePathMatch_mem hpath)).2
  rcases Option.or_eq_some_iff.1 h with hserial | ⟨-, hpath⟩
  · rcases Option.or_eq_some_iff.1 h' with hserial' | ⟨-, hpath'⟩
    · obtain ⟨-, serial, hrow, hdrive⟩ := serialMatch_some hserial
      obtain ⟨-, serial', hrow', hdrive'⟩ := serialMatch_some hserial'
      cases hrow.symm.trans hrow'
      exact hs.eq_of_serial hd hd' hdrive hdrive'
    · exact absurd (hclaimed hd hserial) (hat hpath').2
  · rcases Option.or_eq_some_iff.1 h' with hserial' | ⟨-, hpath'⟩
    · exact absurd (hclaimed hd' hserial') (hat hpath).2
    · exact hs.eq_of_path hd hd' ((hat hpath).1.symm.trans (hat hpath').1)

/-- What a plan owes to the stored drives and the snapshot it is for. -/
structure PlanSound (discovered : List OpticalDriveReconciliationInput) (rows : List OpticalDrive)
    (plan : OpticalDriveReconciliationPlan) : Prop where
  distinct : (plan.drives.filterMap (·.existingId)).Nodup
  serial : ∀ decision ∈ plan.drives, ∀ row ∈ rows, ∀ serial, row.serial = some serial →
    decision.drive.serial = some serial → decision.existingId = some row.id
  permuted : ∀ discovered' rows', discovered.Perm discovered' → rows.Perm rows' →
    ∃ plan', planOpticalDriveReconciliation discovered' rows' = .ok plan' ∧
      plan'.configuredTargetPath = plan.configuredTargetPath ∧ plan.drives.Perm plan'.drives

/-- What only one element has is found in any order. -/
theorem find?_perm {l l' : List α} {p : α → Bool}
    (h : ∀ a ∈ l, ∀ b ∈ l, p a = true → p b = true → a = b) (hp : l.Perm l') :
    l.find? p = l'.find? p := by
  cases hfind : l.find? p with
  | none =>
    have hnone := List.find?_eq_none.1 hfind
    exact (List.find?_eq_none.2 fun a ha => hnone a (hp.mem_iff.2 ha)).symm
  | some a =>
    have ha := List.mem_of_find?_eq_some hfind
    have hpa := List.find?_some hfind
    cases hfind' : l'.find? p with
    | none => exact absurd hpa (List.find?_eq_none.1 hfind' a (hp.mem_iff.1 ha))
    | some b =>
      have hb := hp.mem_iff.2 (List.mem_of_find?_eq_some hfind')
      rw [h a ha b hb hpa (List.find?_some hfind')]

theorem configured_perm (hs : Snapshot drives) (hd : drives.Perm drives') :
    drives.find? (·.isConfiguredDevice) = drives'.find? (·.isConfiguredDevice) := by
  apply find?_perm _ hd
  intro a ha b hb hca hcb
  apply eq_of_length_le_one hs.configured
  · exact List.mem_filter.2 ⟨ha, hca⟩
  · exact List.mem_filter.2 ⟨hb, hcb⟩

theorem targetChanged_perm (hrows : StoredDrives rows) (hs : Snapshot drives)
    (hp : rows.Perm rows') (hd : drives.Perm drives') :
    TargetChanged rows drives ↔ TargetChanged rows' drives' := by
  have hfind : rows.find? (·.isConfiguredTarget) = rows'.find? (·.isConfiguredTarget) :=
    find?_perm (fun a ha b hb hta htb => hrows.ext ha hb (hrows.target a ha b hb hta htb)) hp
  rw [TargetChanged, TargetChanged, configured_perm hs hd, hfind]

theorem decideDrive_congr {p q : Prop} [Decidable p] [Decidable q] (h : p ↔ q)
    (drive : OpticalDriveReconciliationInput) (existing : Option OpticalDrive) :
    decideDrive p drive existing = decideDrive q drive existing := by
  simp only [decideDrive, authorizationUpdate, h]

theorem planOf_perm (hrows : StoredDrives rows) (hdistinct : SerialsDistinct rows)
    (hs : Snapshot drives) (hclear : PathsClear rows drives) (hp : rows.Perm rows')
    (hd : drives.Perm drives') :
    (planOf rows' drives').configuredTargetPath = (planOf rows drives).configuredTargetPath ∧
      (planOf rows drives).drives.Perm (planOf rows' drives').drives := by
  constructor
  · rw [planOf, planOf, configured_perm hs hd]
  · have hsame : (planOf rows drives).drives = drives.map fun drive =>
        decideDrive (TargetChanged rows' drives') drive (ownRow rows' drives' drive) := by
      apply List.map_congr_left
      intro drive hdrive
      rw [decideDrive_congr (targetChanged_perm hrows hs hp hd),
        ownRow_perm hrows.key hdistinct hclear hp hd hdrive]
    rw [hsame]
    exact hd.map _

/-- Every accepted plan is sound. -/
theorem planOpticalDriveReconciliation_sound (hrows : StoredDrives rows)
    (h : planOpticalDriveReconciliation discovered rows = .ok plan) :
    PlanSound discovered rows plan := by
  obtain ⟨drives, hnormal, hs, hdistinct, hclear, rfl⟩ :=
    (planOpticalDriveReconciliation_ok hrows.key).1 h
  constructor
  case distinct =>
    rw [planOf, List.filterMap_map]
    apply List.pairwise_filterMap.2
    apply (List.Nodup.of_map _ hs.paths).imp_of_mem
    intro a b ha hb hne i hi j hj heq
    obtain ⟨row, hrow, rfl⟩ := Option.map_eq_some_iff.1 hi
    obtain ⟨row', hrow', hid⟩ := Option.map_eq_some_iff.1 hj
    cases hrows.ext (ownRow_mem hrow) (ownRow_mem hrow') (heq.trans hid.symm)
    exact hne (ownRow_inj hs ha hb hrow hrow')
  case serial =>
    intro decision hdecision row hrow serial hserial hdrive
    obtain ⟨drive, -, rfl⟩ := List.mem_map.1 hdecision
    have hmatch : serialMatch rows drive = some row :=
      (serialMatch_eq hdistinct).2 ⟨hrow, serial, hserial, hdrive⟩
    have hown : ownRow rows drives drive = some row := by rw [ownRow, hmatch, Option.some_or]
    rw [decideDrive, hown]
    rfl
  case permuted =>
    intro discovered' rows' hdiscovered hp
    obtain ⟨drives', hnormal', hd⟩ := (mapM_results.1 hnormal).perm hdiscovered
    refine ⟨planOf rows' drives', ?_, planOf_perm hrows hdistinct hs hclear hp hd⟩
    exact (planOpticalDriveReconciliation_ok (hrows.perm hp).key).2 ⟨drives',
      mapM_results.2 hnormal', hs.perm hd, hdistinct.perm hp, hclear.perm hdistinct hp hd, rfl⟩

end Properties

end RipDvd
