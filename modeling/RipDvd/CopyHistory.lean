import RipDvd.InitialCopyRuns

namespace RipDvd
set_option autoImplicit true

/-- The reads of a copy, with their numbers. -/
def driveReads (issued : List IssuedRead) : List DriveRead :=
  issued.mapIdx fun number read => ⟨number, read.request⟩

/-- Where the drive stands after a read: behind what the read gave, else nowhere that is known. -/
def IssuedRead.moves (env : CopyEnvironment) (read : IssuedRead) (number : Nat)
    (position : Option Nat) : Option Nat :=
  match env.transport number read.request with
  | .success blocks _ _ _ _ =>
    (if read.absolute then some read.request.requestedLba else position).map (· + blocks)
  | _ => none

/-- Where the drive stands after the reads of a copy; it was opened at its first sector. -/
def devicePosition (env : CopyEnvironment) (issued : List IssuedRead) : Option Nat :=
  issued.zipIdx.foldl (fun position read => read.1.moves env read.2 position) (some 0)

/-- Every read without a seek is for the sector that the drive stands at. -/
def InPlace (env : CopyEnvironment) (issued : List IssuedRead) : Prop :=
  ∀ before read, before ++ [read] <+: issued → read.absolute = false →
    devicePosition env before = some read.request.requestedLba

/-- A read gave a sector. -/
def Delivered (env : CopyEnvironment) (issued : List IssuedRead) (lba : Nat)
    (sector : List UInt8) : Prop :=
  ∃ read ∈ driveReads issued, read.Gives env lba sector

/-- A request for one sector that met a medium error. -/
def DriveRead.FailsAt (env : CopyEnvironment) (lba : Nat) (read : DriveRead) : Prop :=
  read.request.requestedLba = lba ∧ read.request.requestedBlockCount = 1 ∧
    (read.mediumFailure env).isSome = true

instance (read : DriveRead) : Decidable (read.FailsAt env lba) :=
  inferInstanceAs (Decidable (_ ∧ _))

/-- How often a request for a sector alone met a medium error. -/
def failuresAt (env : CopyEnvironment) (issued : List IssuedRead) (lba : Nat) : Nat :=
  (driveReads issued).countP (·.FailsAt env lba)

variable {env : CopyEnvironment} {s s' : CopyState} {issued : List IssuedRead} {read : IssuedRead}

theorem driveReads_append (issued : List IssuedRead) (read : IssuedRead) :
    driveReads (issued ++ [read]) = driveReads issued ++ [⟨issued.length, read.request⟩] :=
  List.mapIdx_concat

theorem devicePosition_append (env : CopyEnvironment) (issued : List IssuedRead)
    (read : IssuedRead) : devicePosition env (issued ++ [read]) =
      read.moves env issued.length (devicePosition env issued) := by
  rw [devicePosition, List.zipIdx_append, List.foldl_append, Nat.zero_add]
  rfl

theorem InPlace.append (h : InPlace env issued)
    (hread : read.absolute = false → devicePosition env issued = some read.request.requestedLba) :
    InPlace env (issued ++ [read]) := by
  intro before other hbefore habsolute
  cases List.prefix_concat_iff.1 hbefore with
  | inl heq =>
    obtain ⟨rfl, hlast⟩ := List.append_inj' heq rfl
    cases hlast
    exact hread habsolute
  | inr hbefore => exact h before other hbefore habsolute

theorem delivered_append : Delivered env (issued ++ [read]) lba sector ↔
    Delivered env issued lba sector ∨
      DriveRead.Gives env ⟨issued.length, read.request⟩ lba sector := by
  simp only [Delivered, driveReads_append, List.mem_append, or_and_right, exists_or,
    List.mem_singleton, exists_eq_left]

theorem failuresAt_append (env : CopyEnvironment) (issued : List IssuedRead) (read : IssuedRead)
    (lba : Nat) : failuresAt env (issued ++ [read]) lba = failuresAt env issued lba +
      if DriveRead.FailsAt env lba ⟨issued.length, read.request⟩ then 1 else 0 := by
  rw [failuresAt, driveReads_append, List.countP_append, List.countP_singleton]
  simp only [decide_eq_true_eq]
  rfl

theorem failuresAt_le (env : CopyEnvironment) (issued : List IssuedRead) (read : IssuedRead)
    (lba : Nat) : failuresAt env issued lba ≤ failuresAt env (issued ++ [read]) lba := by
  rw [failuresAt_append]
  exact Nat.le_add_right _ _

/-- A read that failed gave nothing. -/
theorem DriveRead.bytes_of_failure {read : DriveRead} {failure : ReadFailure}
    (h : read.failure env = some failure) :
    read.bytes env = [] := by
  simp only [DriveRead.failure] at h
  simp only [DriveRead.bytes]
  cases ht : env.transport read.number read.request with
  | success => rw [ht] at h; cases h
  | failure => rfl
  | ended => rfl
  | fatal => rfl

theorem DriveRead.not_gives_of_failure {read : DriveRead} {failure : ReadFailure}
    (h : read.failure env = some failure) :
    ¬read.Gives env lba sector := by
  intro hgives
  obtain ⟨offset, -, hlength, -⟩ := hgives
  rw [DriveRead.bytes_of_failure h, List.length_nil] at hlength
  exact absurd hlength (by simp [DVD_SECTOR_SIZE_BYTES])

/-- A read gives the sectors of its bytes, from the one it asked for on. -/
theorem DriveRead.gives_iff {read : DriveRead}
    (hlength : (read.bytes env).length = blocks * DVD_SECTOR_SIZE_BYTES) :
    read.Gives env lba sector ↔ ∃ offset < blocks, lba = read.request.requestedLba + offset ∧
      sector = slice (read.bytes env) (offset * DVD_SECTOR_SIZE_BYTES) DVD_SECTOR_SIZE_BYTES := by
  have hinside (offset : Nat) : (offset + 1) * DVD_SECTOR_SIZE_BYTES ≤ (read.bytes env).length ↔
      offset < blocks := by
    rw [hlength]
    exact Nat.mul_le_mul_right_iff (by decide)
  constructor
  · intro h
    obtain ⟨offset, hlba, hle, hsector⟩ := h
    exact ⟨offset, (hinside offset).1 hle, hlba, hsector⟩
  · intro h
    obtain ⟨offset, hlt, hlba, hsector⟩ := h
    exact ⟨offset, hlba, (hinside offset).2 hlt, hsector⟩

/-- Behind a read that gave sectors the drive stands behind them. -/
theorem backendRead_position {request : ReadRequest} {blocks : Nat} {bytes : List UInt8}
    {positive : 0 < blocks} {bounded : blocks ≤ request.requestedBlockCount}
    {length : bytes.length = blocks * DVD_SECTOR_SIZE_BYTES}
    (hread : backendRead env s request absolute =
      (.success blocks bytes positive bounded length, s'))
    (habsolute : absolute = false → devicePosition env s.issued = some request.requestedLba) :
    devicePosition env s'.issued = some (request.requestedLba + blocks) := by
  rw [backendRead_state hread, devicePosition_append, IssuedRead.moves]
  simp only [backendRead] at hread
  split at hread
  next htransport =>
    cases hread
    rw [← CopyState.reads, htransport]
    cases absolute with
    | true => rfl
    | false =>
      rw [habsolute rfl]
      rfl
  all_goals cases hread

theorem driveReads_append_all (issued more : List IssuedRead) :
    driveReads (issued ++ more) = driveReads issued ++
      more.mapIdx fun number read => ⟨number + issued.length, read.request⟩ :=
  List.mapIdx_append

/-- The reads of a copy stay among its reads. -/
theorem driveReads_mono {later : List IssuedRead} {read : DriveRead} (h : issued <+: later)
    (hread : read ∈ driveReads issued) : read ∈ driveReads later := by
  obtain ⟨more, rfl⟩ := h
  rw [driveReads_append_all]
  exact List.mem_append_left _ hread

theorem Delivered.mono {later : List IssuedRead} (hdelivered : Delivered env issued lba sector)
    (h : issued <+: later) : Delivered env later lba sector := by
  obtain ⟨read, hread, hgives⟩ := hdelivered
  exact ⟨read, driveReads_mono h hread, hgives⟩

theorem mem_driveReads {read : DriveRead} : read ∈ driveReads issued ↔
    ∃ last, issued[read.number]? = some last ∧ last.request = read.request := by
  rw [driveReads, List.mem_mapIdx]
  constructor
  · intro h
    obtain ⟨i, hi, rfl⟩ := h
    exact ⟨issued[i], List.getElem?_eq_getElem hi, rfl⟩
  · intro h
    obtain ⟨last, hlast, hrequest⟩ := h
    obtain ⟨hi, heq⟩ := List.getElem?_eq_some_iff.1 hlast
    refine ⟨read.number, hi, ?_⟩
    rw [heq, hrequest]

end RipDvd
