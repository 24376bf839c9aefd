import RipDvd.InitialCopyResults

namespace RipDvd
set_option autoImplicit true

/-- A read of the drive, with its number. -/
structure DriveRead where
  number : Nat
  request : ReadRequest

namespace DriveRead

variable (env : CopyEnvironment) (read : DriveRead)

/-- The bytes that a read gave, none if it failed. -/
def bytes : List UInt8 :=
  match env.transport read.number read.request with
  | .success _ bytes _ _ _ => bytes
  | _ => []

def failure : Option ReadFailure :=
  match env.transport read.number read.request with
  | .failure io => some (classifyReadFailure (readScopeEnd read.request io))
  | _ => none

/-- The medium error that a read failed with. -/
def mediumFailure : Option ReadFailure :=
  (read.failure env).filter (·.status = .mediumError)

/-- A sector is one of those that a read gave. -/
def Gives (lba : Nat) (sector : List UInt8) : Prop :=
  ∃ offset, lba = read.request.requestedLba + offset ∧
    (offset + 1) * DVD_SECTOR_SIZE_BYTES ≤ (read.bytes env).length ∧
    sector = slice (read.bytes env) (offset * DVD_SECTOR_SIZE_BYTES) DVD_SECTOR_SIZE_BYTES

end DriveRead

/-- The failures of the reads that an initial copy skips. -/
def skippedReads (env : CopyEnvironment) (reads : List DriveRead) : List ReadFailure :=
  reads.filterMap (·.mediumFailure env)

/-- The reads of an initial copy, group after group, the sector they reach and the ordinal of the
next one. -/
inductive GroupsRead (env : CopyEnvironment) (total : Nat) : List DriveRead → Nat → Nat → Prop where
  | start : GroupsRead env total [] 0 0
  | deferred {read : DriveRead} {failure : ReadFailure}
      (hread : read = ⟨0, 0, min total READ_BLOCKS, 0⟩)
      (hfailure : read.failure env = some failure) (hterminal : failure.status = .terminalFailure)
      (hmedium : hasDeferredMediumSense failure = true) :
      GroupsRead env total [read] 0 1
  | sectors {read : DriveRead} (h : GroupsRead env total reads lba ordinal)
      (hread : read = ⟨reads.length, lba, min (total - lba) READ_BLOCKS, ordinal⟩)
      (hbytes : (read.bytes env).length = blocks * DVD_SECTOR_SIZE_BYTES) (hblocks : 0 < blocks) :
      GroupsRead env total (reads ++ [read]) (lba + blocks) 0
  | skip {read : DriveRead} (h : GroupsRead env total reads lba ordinal)
      (hread : read = ⟨reads.length, lba, min (total - lba) READ_BLOCKS, ordinal⟩)
      (hcount : 0 < read.request.requestedBlockCount)
      (hmedium : (read.mediumFailure env).isSome = true) :
      GroupsRead env total (reads ++ [read]) (lba + read.request.requestedBlockCount) 0

theorem GroupsRead.first (h : GroupsRead env total reads lba ordinal) :
    lba = 0 → ordinal = 0 → reads = [] := by
  intro hlba hordinal
  cases h with
  | start => rfl
  | deferred => cases hordinal
  | sectors => omega
  | skip => omega

/-- A sector of an image is of zeros where a read was skipped, else it is as a read gave it. -/
def SectorIs (env : CopyEnvironment) (reads : List DriveRead) (lba : Nat) (sector : List UInt8) :
    Prop :=
  ((∃ failure ∈ skippedReads env reads, failure.startLba ≤ lba ∧ lba < failure.endLba) ∧
      sector = zeroSectors 1) ∨
    (¬∃ failure ∈ skippedReads env reads, failure.startLba ≤ lba ∧ lba < failure.endLba) ∧
      ∃ read ∈ reads, read.Gives env lba sector

/-- An image without a gap up to a sector, in a copy that has no map. -/
structure CopyState.Whole (s : CopyState) (lba : Nat) : Prop where
  bytes : s.bytesProcessed = lba * DVD_SECTOR_SIZE_BYTES
  length : s.image.length = lba * DVD_SECTOR_SIZE_BYTES
  recovery : s.recovery = emptyRecovery 0

variable {env : CopyEnvironment} {s s' : CopyState}

theorem CopyState.Whole.read (h : s.Whole lba) (issued : List IssuedRead) :
    ({ s with issued } : CopyState).Whole lba :=
  ⟨h.bytes, h.length, h.recovery⟩

theorem CopyState.Whole.consume (h : s.Whole lba) {bytes : List UInt8}
    (hbytes : bytes.length = blocks * DVD_SECTOR_SIZE_BYTES) :
    (s.consumeBlocks blocks bytes).Whole (lba + blocks) := by
  constructor
  · rw [CopyState.consumeBlocks, h.bytes, Nat.add_mul]
  · rw [CopyState.consumeBlocks, List.length_append, h.length, hbytes, Nat.add_mul]
  · exact h.recovery

theorem CopyState.Whole.atLba (h : s.Whole lba) :
    s.bytesProcessed / DVD_SECTOR_SIZE_BYTES = lba := by
  rw [h.bytes]
  exact Nat.mul_div_cancel lba (by decide)

/-- An initial copy before a read, and the reads that it has made. -/
structure CopyState.Follows (s : CopyState) (env : CopyEnvironment) (total lba ordinal : Nat)
    (issued : List DriveRead) : Prop extends s.Whole lba where
  groups : GroupsRead env total issued lba ordinal
  count : s.reads = issued.length
  sectors : ∀ i < lba, SectorIs env issued i
    (slice s.image (i * DVD_SECTOR_SIZE_BYTES) DVD_SECTOR_SIZE_BYTES)
  below : ∀ failure ∈ skippedReads env issued, failure.endLba ≤ lba

theorem slice_append_left {a b : List β} (h : start + count ≤ a.length) :
    slice (a ++ b) start count = slice a start count := by
  apply List.ext_getElem?
  intro i
  rw [getElem?_slice, getElem?_slice]
  split
  · exact List.getElem?_append_left (by omega)
  · rfl

theorem slice_append_right {a b : List β} (h : a.length ≤ start) :
    slice (a ++ b) start count = slice b (start - a.length) count := by
  apply List.ext_getElem?
  intro i
  rw [getElem?_slice, getElem?_slice, List.getElem?_append_right (h.trans (Nat.le_add_right _ _)),
    Nat.sub_add_comm h]

theorem slice_zeroSectors (h : offset < blocks) :
    slice (zeroSectors blocks) (offset * DVD_SECTOR_SIZE_BYTES) DVD_SECTOR_SIZE_BYTES =
      zeroSectors 1 := by
  rw [slice, zeroSectors, zeroSectors, List.drop_replicate, List.take_replicate, Nat.one_mul,
    ← Nat.sub_mul]
  have hpositive : 1 ≤ blocks - offset := by omega
  congr 1
  exact Nat.min_eq_left (Nat.le_mul_of_pos_left _ hpositive)

theorem skippedReads_append (env : CopyEnvironment) (reads : List DriveRead) (read : DriveRead) :
    skippedReads env (reads ++ [read]) =
      skippedReads env reads ++ (read.mediumFailure env).toList := by
  rw [skippedReads, List.filterMap_append]
  cases h : read.mediumFailure env with
  | none => rw [List.filterMap_cons_none h]; rfl
  | some failure => rw [List.filterMap_cons_some h]; rfl

variable {issued : List DriveRead} {read : DriveRead} {ordinal : Nat}

/-- The sectors that the image had before stay what they are. -/
theorem CopyState.Follows.kept (h : s.Follows env total lba ordinal issued) (hi : i < lba)
    {more : List ReadFailure} (hmore : skippedReads env (issued ++ [read]) =
      skippedReads env issued ++ more)
    (hafter : ∀ failure ∈ more, lba ≤ failure.startLba) (bytes : List UInt8) :
    SectorIs env (issued ++ [read]) i
      (slice (s.image ++ bytes) (i * DVD_SECTOR_SIZE_BYTES) DVD_SECTOR_SIZE_BYTES) := by
  have hinside : i * DVD_SECTOR_SIZE_BYTES + DVD_SECTOR_SIZE_BYTES ≤ s.image.length := by
    rw [h.length, ← Nat.succ_mul]
    exact Nat.mul_le_mul_right _ hi
  have hsame : (∃ failure ∈ skippedReads env issued ++ more,
      failure.startLba ≤ i ∧ i < failure.endLba) ↔
      ∃ failure ∈ skippedReads env issued, failure.startLba ≤ i ∧ i < failure.endLba := by
    simp only [List.mem_append, or_and_right, exists_or]
    apply or_iff_left
    intro hskip
    obtain ⟨failure, hfailure, hfrom, -⟩ := hskip
    have hstart := hafter failure hfailure
    omega
  rw [SectorIs, hmore, hsame, slice_append_left hinside]
  apply (h.sectors i hi).imp_right
  intro hgiven
  obtain ⟨hnot, other, hother, hgives⟩ := hgiven
  exact ⟨hnot, other, List.mem_append_left _ hother, hgives⟩

/-- The sectors that go on the image are those after it. -/
theorem CopyState.Follows.added (h : s.Follows env total lba ordinal issued) (offset : Nat)
    (bytes : List UInt8) :
    slice (s.image ++ bytes) ((lba + offset) * DVD_SECTOR_SIZE_BYTES) DVD_SECTOR_SIZE_BYTES =
      slice bytes (offset * DVD_SECTOR_SIZE_BYTES) DVD_SECTOR_SIZE_BYTES := by
  have hafter : s.image.length ≤ (lba + offset) * DVD_SECTOR_SIZE_BYTES := by
    rw [h.length]
    exact Nat.mul_le_mul_right _ (Nat.le_add_right _ _)
  rw [slice_append_right hafter, h.length, ← Nat.sub_mul, Nat.add_sub_cancel_left]

/-- A read that gave sectors: they go on the image. -/
theorem CopyState.Follows.consume (h : s.Follows env total lba ordinal issued)
    (hread : read = ⟨issued.length, lba, min (total - lba) READ_BLOCKS, ordinal⟩)
    {bytes : List UInt8} (hbytes : read.bytes env = bytes)
    (hnone : read.mediumFailure env = none)
    (hlength : bytes.length = blocks * DVD_SECTOR_SIZE_BYTES) (hblocks : 0 < blocks)
    (last : IssuedRead) :
    (({ s with issued := s.issued ++ [last] } : CopyState).consumeBlocks blocks bytes).Follows env
      total (lba + blocks) 0 (issued ++ [read]) := by
  have hsame : skippedReads env (issued ++ [read]) = skippedReads env issued ++ [] := by
    rw [skippedReads_append, hnone]
    rfl
  constructor
  case toWhole => exact (h.toWhole.read _).consume hlength
  case groups => exact h.groups.sectors hread (hbytes ▸ hlength) hblocks
  case count =>
    rw [List.length_append, ← h.count]
    exact List.length_append
  case below =>
    rw [hsame, List.append_nil]
    intro failure hfailure
    exact (h.below failure hfailure).trans (Nat.le_add_right _ _)
  case sectors =>
    intro i hi
    by_cases hold : i < lba
    · exact h.kept hold hsame (by simp) bytes
    · obtain ⟨offset, rfl⟩ := Nat.exists_eq_add_of_le (Nat.le_of_not_lt hold)
      rw [SectorIs, hsame, List.append_nil]
      refine .inr ⟨?_, read, by simp, offset, by rw [hread], ?_, ?_⟩
      · intro hskip
        obtain ⟨failure, hfailure, -, hin⟩ := hskip
        have hbelow := h.below failure hfailure
        omega
      · rw [hbytes, hlength]
        exact Nat.mul_le_mul_right _ (by omega)
      · rw [hbytes]
        exact h.added offset bytes

/-- A read that met a medium error: zeros go on the image for all of its sectors. -/
theorem CopyState.Follows.skip {count : Nat} (h : s.Follows env total lba ordinal issued)
    (hread : read = ⟨issued.length, lba, count, ordinal⟩)
    (hcount : count = min (total - lba) READ_BLOCKS)
    {failure : ReadFailure} (hfailure : read.mediumFailure env = some failure)
    (hof : failure.Of read.request) (hblocks : 0 < count) (last : IssuedRead) :
    (({ s with issued := s.issued ++ [last] } : CopyState).consumeBlocks count
      (zeroSectors count)).Follows env total (lba + count) 0 (issued ++ [read]) := by
  have hmore : skippedReads env (issued ++ [read]) = skippedReads env issued ++ [failure] := by
    rw [skippedReads_append, hfailure]
    rfl
  have hstart : failure.startLba = lba := by
    rw [ReadFailure.startLba, hof.asked, hread]
  have hend : failure.endLba = lba + count := by
    rw [ReadFailure.endLba, hstart, ReadFailure.blockCount, hof.asked, hread]
  constructor
  case toWhole => exact (h.toWhole.read _).consume List.length_replicate
  case groups =>
    have hgroups := h.groups.skip (hcount ▸ hread) (by rwa [hread]) (by rw [hfailure]; rfl)
    rwa [hread] at hgroups ⊢
  case count =>
    rw [List.length_append, ← h.count]
    exact List.length_append
  case below =>
    rw [hmore]
    intro other hother
    rcases List.mem_append.1 hother with hother | hother
    · exact (h.below other hother).trans (Nat.le_add_right _ _)
    · rw [List.mem_singleton.1 hother, hend]
  case sectors =>
    intro i hi
    by_cases hold : i < lba
    · apply h.kept hold hmore
      intro other hother
      rw [List.mem_singleton.1 hother, hstart]
    · obtain ⟨offset, rfl⟩ := Nat.exists_eq_add_of_le (Nat.le_of_not_lt hold)
      rw [SectorIs, hmore]
      refine .inl ⟨⟨failure, by simp, by omega, by omega⟩, ?_⟩
      exact (h.added offset _).trans (slice_zeroSectors (by omega))

/-- The outcome of a read is what the drive answered it with. -/
def BackendRead.IsOf (env : CopyEnvironment) (read : DriveRead) : BackendRead requested → Prop
  | .success _ bytes _ _ _ => read.bytes env = bytes ∧ read.failure env = none
  | .failed failure => read.failure env = some failure
  | .ended => read.failure env = none
  | .fatal => read.failure env = none

theorem backendRead_isOf {request : ReadRequest}
    {result : BackendRead request.requestedBlockCount}
    (hread : backendRead env s request absolute = (result, s')) :
    result.IsOf env ⟨s.reads, request⟩ := by
  simp only [backendRead] at hread
  split at hread
  all_goals
    next htransport =>
      cases hread
      simp only [BackendRead.IsOf, DriveRead.bytes, DriveRead.failure, htransport, and_self]

theorem mediumFailure_of_failure {failure : ReadFailure} (h : read.failure env = some failure) :
    read.mediumFailure env = if failure.status = .mediumError then some failure else none := by
  rw [DriveRead.mediumFailure, h, Option.filter_some]
  simp only [decide_eq_true_eq]

theorem mediumFailure_none (env : CopyEnvironment) (read : DriveRead)
    (h : ∀ failure ∈ read.failure env, failure.status ≠ .mediumError) :
    read.mediumFailure env = none := by
  cases hfailure : read.failure env with
  | none =>
    rw [DriveRead.mediumFailure, hfailure]
    rfl
  | some failure => rw [mediumFailure_of_failure hfailure, if_neg (h failure hfailure)]

/-- The first read of an initial copy that is not put off. -/
def firstRead (env : CopyEnvironment) (total : Nat) : DriveRead :=
  match DriveRead.failure env ⟨0, 0, min total READ_BLOCKS, 0⟩ with
  | some failure =>
    if failure.status = .terminalFailure ∧ hasDeferredMediumSense failure = true then
      ⟨1, 0, min total READ_BLOCKS, 1⟩
    else ⟨0, 0, min total READ_BLOCKS, 0⟩
  | none => ⟨0, 0, min total READ_BLOCKS, 0⟩

/-- The read of a group, in `read_disc`. -/
def readGroup (env : CopyEnvironment) (s : CopyState) (startLba blockCount : Nat)
    (absolute : Bool) : BackendRead blockCount × Nat × CopyState :=
  if s.bytesProcessed = 0 then
    readInitialContentWithDeferredRetry env s startLba blockCount absolute
  else
    let (result, s) := backendRead env s ⟨startLba, blockCount, 0⟩ absolute
    (result, 0, s)

/-- The read of a group is one more read of the copy, after one that was put off, if any. -/
theorem CopyState.Follows.group {count : Nat} (h : s.Follows env total lba 0 issued)
    (hcount : count = min (total - lba) READ_BLOCKS) {result : BackendRead count}
    (hread : readGroup env s lba count absolute = (result, ordinal, s')) :
    ∃ issued' s₁ absolute', s₁.Follows env total lba ordinal issued' ∧
      skippedReads env issued' = skippedReads env issued ∧ ordinal ≤ 1 ∧
      backendRead env s₁ ⟨lba, count, ordinal⟩ absolute' = (result, s') ∧
      (lba = 0 → ⟨issued'.length, lba, count, ordinal⟩ = firstRead env total) := by
  rw [readGroup] at hread
  by_cases hlba : lba = 0
  · have hempty := h.groups.first hlba rfl
    subst hlba hempty
    have hreads : s.reads = 0 := h.count
    rw [if_pos (by rw [h.bytes, Nat.zero_mul]), readInitialContentWithDeferredRetry] at hread
    rw [Nat.sub_zero] at hcount
    cases hone : backendRead env s ⟨0, count, 0⟩ absolute with
    | mk first s1 =>
      have hisOf := backendRead_isOf hone
      rw [hreads] at hisOf
      rw [hone] at hread
      have hplain (hnone : DriveRead.failure env ⟨0, 0, count, 0⟩ = none)
          (heq : (first, (0 : Nat), s1) = (result, ordinal, s')) :
          ∃ issued' s₁ absolute', s₁.Follows env total 0 ordinal issued' ∧
            skippedReads env issued' = skippedReads env [] ∧ ordinal ≤ 1 ∧
            backendRead env s₁ ⟨0, count, ordinal⟩ absolute' = (result, s') ∧
            (0 = 0 → ⟨issued'.length, 0, count, ordinal⟩ = firstRead env total) := by
        cases heq
        refine ⟨[], s, absolute, h, rfl, Nat.zero_le 1, hone, fun _ => ?_⟩
        rw [firstRead, ← hcount, hnone]
        rfl
      cases first with
      | success => exact hplain hisOf.2 hread
      | ended => exact hplain hisOf hread
      | fatal => exact hplain hisOf hread
      | failed failure =>
        have hfailure : DriveRead.failure env ⟨0, 0, count, 0⟩ = some failure := hisOf
        simp only at hread
        split at hread
        next hdeferred =>
          have hreaden : DriveRead.mediumFailure env ⟨0, 0, count, 0⟩ = none := by
            rw [mediumFailure_of_failure hfailure, if_neg]
            rw [hdeferred.1]
            exact fun heq => by cases heq
          have hskipped : skippedReads env [⟨0, 0, count, 0⟩] = skippedReads env [] :=
            List.filterMap_cons_none hreaden
          have hs1 := backendRead_state hone
          have hfollows : s1.Follows env total 0 1 [⟨0, 0, count, 0⟩] := by
            rw [hs1]
            constructor
            case toWhole => exact h.toWhole.read _
            case groups => exact .deferred (by rw [hcount]) hfailure hdeferred.1 hdeferred.2
            case count => exact List.length_append.trans (congrArg (· + 1) hreads)
            case sectors => exact fun i hi => absurd hi (Nat.not_lt_zero i)
            case below =>
              rw [hskipped]
              exact h.below
          cases htwo : backendRead env s1 ⟨0, count, 1⟩ true with
          | mk second s2 =>
            rw [htwo] at hread
            cases hread
            refine ⟨_, s1, true, hfollows, hskipped, le_rfl, htwo, fun _ => ?_⟩
            rw [firstRead, ← hcount, hfailure]
            exact (if_pos hdeferred).symm
        next hnot =>
          cases hread
          refine ⟨[], s, absolute, h, rfl, Nat.zero_le 1, hone, fun _ => ?_⟩
          rw [firstRead, ← hcount, hfailure]
          exact (if_neg hnot).symm
  · have hbytes : s.bytesProcessed ≠ 0 := by
      rw [h.bytes]
      exact Nat.mul_ne_zero hlba (by decide)
    rw [if_neg hbytes] at hread
    cases hread
    exact ⟨issued, s, absolute, h, rfl, Nat.zero_le 1, rfl, fun hzero => absurd hzero hlba⟩

theorem CopyState.Whole.reached (h : s.Whole lba) (declared : Nat) :
    s.Reached False declared lba := by
  have hclear (i : Nat) : bitmapBit (emptyRecovery 0).badSectorBitmap i = false :=
    bitmapBit_replicate 0 i
  constructor
  case bytes => exact h.bytes
  case marked =>
    rw [h.recovery]
    constructor
    · intro i hi
      rw [RecoveryState.sectorIsBad, hclear] at hi
      cases hi
    · simp only [RecoveryState.sectorIsBad, hclear, Bool.false_eq_true]
      exact (Nat.count_false lba).symm
    · simp only [runStart, RecoveryState.sectorIsBad, hclear, Bool.false_and, Bool.false_eq_true]
      exact (Nat.count_false lba).symm
  case sized => exact fun hfalse => hfalse.elim
  case unmapped =>
    intro _
    rw [h.recovery]
    rfl
  case unproven =>
    rw [h.recovery]
    rfl

/-- A step that only reads. -/
def CopyState.OnlyReads (s s' : CopyState) : Prop :=
  ∃ more, s' = { s with issued := s.issued ++ more }

theorem CopyState.OnlyReads.refl (s : CopyState) : s.OnlyReads s :=
  ⟨[], by rw [List.append_nil]⟩

theorem CopyState.OnlyReads.trans (h : s.OnlyReads s') (h' : s'.OnlyReads s'') :
    s.OnlyReads s'' := by
  obtain ⟨more, rfl⟩ := h
  obtain ⟨more', rfl⟩ := h'
  exact ⟨more ++ more', by rw [List.append_assoc]⟩

theorem CopyState.OnlyReads.whole (h : s.OnlyReads s') (hwhole : s.Whole lba) : s'.Whole lba := by
  obtain ⟨more, rfl⟩ := h
  exact hwhole.read _

theorem boundaryProbeRead_onlyReads (env : CopyEnvironment) (s : CopyState)
    (request : ReadRequest) : s.OnlyReads (boundaryProbeRead env s request).2 := by
  simp only [boundaryProbeRead]
  split
  · exact .refl s
  · have hread : s.OnlyReads (backendRead env s request true).2 :=
      ⟨_, backendRead_state (Prod.mk.eta (p := backendRead env s request true)).symm⟩
    split <;> exact hread

theorem precedingAgrees_onlyReads (env : CopyEnvironment) (candidate : Nat) (s : CopyState) :
    s.OnlyReads (precedingAgrees env candidate s).2 := by
  have hprobe := boundaryProbeRead_onlyReads env s ⟨candidate - 1, 1, 0⟩
  simp only [precedingAgrees]
  split
  · exact .refl s
  · cases hread : boundaryProbeRead env s ⟨candidate - 1, 1, 0⟩ with
    | mk result s' =>
      rw [hread] at hprobe
      cases result <;> exact hprobe

theorem confirmCandidate_onlyReads (env : CopyEnvironment) (initial : ReadFailure)
    (candidate : Nat) (ordinals : List Nat) (confirmation : Option ReadFailure) (s : CopyState) :
    s.OnlyReads (confirmCandidate env initial candidate ordinals confirmation s).2 := by
  induction ordinals generalizing confirmation s with
  | nil => exact .refl s
  | cons ordinal ordinals ih =>
    have hprobe := boundaryProbeRead_onlyReads env s ⟨candidate, 1, ordinal⟩
    cases hread : boundaryProbeRead env s ⟨candidate, 1, ordinal⟩ with
    | mk result s' =>
      rw [hread] at hprobe
      simp only [confirmCandidate, hread]
      split
      · next heq =>
        cases heq
        exact hprobe
      · next heq =>
        cases heq
        split
        · exact hprobe
        · split
          · exact hprobe.trans (ih _ s')
          · exact hprobe

theorem probeUpper_onlyReads (env : CopyEnvironment) (total : Nat) (probes : List Nat)
    (previous : Nat) (s : CopyState) :
    s.OnlyReads (probeUpper env total probes previous s).2 := by
  induction probes generalizing previous s with
  | nil => exact .refl s
  | cons probe probes ih =>
    simp only [probeUpper]
    split
    · exact ih previous s
    · have hprobe := boundaryProbeRead_onlyReads env s ⟨probe, 1, 0⟩
      cases hread : boundaryProbeRead env s ⟨probe, 1, 0⟩ with
      | mk result s' =>
        rw [hread] at hprobe
        split
        · next heq =>
          cases heq
          exact hprobe
        · next heq =>
          cases heq
          split
          · exact hprobe
          · exact hprobe.trans (ih probe s')

theorem probeCandidate_onlyReads (env : CopyEnvironment) (initial : ReadFailure)
    (candidate total : Nat) (s : CopyState) :
    s.OnlyReads (probeCandidate env initial candidate total s).2 := by
  have hpreceding := precedingAgrees_onlyReads env candidate s
  simp only [probeCandidate]
  cases hp : precedingAgrees env candidate s with
  | mk outcome s1 =>
    rw [hp] at hpreceding
    cases outcome with
    | fatal => exact hpreceding
    | disagreed => exact hpreceding
    | agreed =>
      have hconfirm := confirmCandidate_onlyReads env initial candidate
        (List.range BOUNDARY_CONFIRMATION_READS) none s1
      simp only
      cases hc : confirmCandidate env initial candidate (List.range BOUNDARY_CONFIRMATION_READS)
          none s1 with
      | mk outcome s2 =>
        rw [hc] at hconfirm
        have hconfirmed := hpreceding.trans hconfirm
        cases outcome with
        | fatal => exact hconfirmed
        | disagreed => exact hconfirmed
        | agreed confirmation =>
          cases confirmation with
          | none => exact hconfirmed
          | some confirmation =>
            have hupper := probeUpper_onlyReads env total [candidate + 1, total - 1] candidate s2
            simp only
            cases hu : probeUpper env total [candidate + 1, total - 1] candidate s2 with
            | mk outcome s3 =>
              rw [hu] at hupper
              cases outcome <;> exact hconfirmed.trans hupper

/-- A read that gave nothing, without stopping the copy. -/
def TransportRead.refused : TransportRead requested → Bool
  | .failure _ => true
  | .ended => true
  | _ => false

/-- A probe that the parent agreed to and that gave nothing. -/
def ProbeRefused (env : CopyEnvironment) (read : DriveRead) : Prop :=
  env.authorizes (2 * read.number) = true ∧ env.authorizes (2 * read.number + 1) = true ∧
    (env.transport read.number read.request).refused = true

instance : Decidable (ProbeRefused env read) := inferInstanceAs (Decidable (_ ∧ _))

/-- A probe stops the copy, gives sectors, or is refused. -/
theorem boundaryProbeRead_cases {request : ReadRequest}
    {result : BackendRead request.requestedBlockCount}
    (hread : boundaryProbeRead env s request = (result, s')) :
    result = .fatal ∨
      (∃ blocks bytes positive bounded length,
        result = .success blocks bytes positive bounded length) ∨
      ProbeRefused env ⟨s.reads, request⟩ := by
  simp only [boundaryProbeRead] at hread
  split at hread
  · cases hread
    exact .inl rfl
  next hbefore =>
    split at hread
    · cases hread
      exact .inl rfl
    next hafter =>
      rw [not_not] at hbefore hafter
      simp only [backendRead] at hread
      split at hread
      · cases hread
        exact .inr (.inl ⟨_, _, _, _, _, rfl⟩)
      next htransport =>
        exact .inr (.inr ⟨hbefore, hafter, by rw [htransport]; rfl⟩)
      next htransport =>
        exact .inr (.inr ⟨hbefore, hafter, by rw [htransport]; rfl⟩)
      · cases hread
        exact .inl rfl

/-- How far the image reaches after the prefix was read, or was not. -/
def PrefixRead.Whole (env : CopyEnvironment) (n lba candidate : Nat) : PrefixRead → Prop
  | .reached s => s.Whole candidate
  | .refused s => ∃ lba', lba ≤ lba' ∧ lba' ≤ candidate ∧ s.Whole lba' ∧
      (lba' = lba → ProbeRefused env ⟨n, lba, min (candidate - lba) READ_BLOCKS, 0⟩)
  | .fatal _ => True

theorem readPrefix_whole (env : CopyEnvironment) (h : s.Whole lba) (hle : lba ≤ candidate) :
    (readPrefix env candidate lba s).Whole env s.reads lba candidate := by
  induction lba, s using readPrefix.induct env candidate with
  | case1 lba s hlt s' hread =>
    rw [readPrefix, if_pos hlt, hread]
    trivial
  | case2 lba s hlt blocks bytes positive bounded length s' hread ih =>
    have hblocks : lba + blocks ≤ candidate := by
      have hb := bounded
      simp only at hb
      omega
    have honly := boundaryProbeRead_onlyReads env s
      ⟨lba, min (candidate - lba) READ_BLOCKS, 0⟩
    rw [hread] at honly
    have hrest := ih ((honly.whole h).consume length) hblocks
    rw [readPrefix, if_pos hlt, hread]
    simp only
    cases hp : readPrefix env candidate (lba + blocks) (s'.consumeBlocks blocks bytes) with
    | reached _ => rw [hp] at hrest; exact hrest
    | fatal _ => trivial
    | refused _ =>
      rw [hp] at hrest
      obtain ⟨lba', hfrom, hto, hwhole, -⟩ := hrest
      exact ⟨lba', (Nat.le_add_right lba blocks).trans hfrom, hto, hwhole, fun heq => by omega⟩
  | case3 lba s hlt result s' hfatal hsuccess hread =>
    have honly := boundaryProbeRead_onlyReads env s
      ⟨lba, min (candidate - lba) READ_BLOCKS, 0⟩
    rw [hread] at honly
    have hrefused : ProbeRefused env ⟨s.reads, lba, min (candidate - lba) READ_BLOCKS, 0⟩ := by
      rcases boundaryProbeRead_cases hread with hf | ⟨_, _, _, _, _, hs⟩ | hrefused
      · exact absurd hf hfatal
      · exact absurd hs (hsuccess _ _ _ _ _)
      · exact hrefused
    have hkept : (PrefixRead.refused s').Whole env s.reads lba candidate :=
      ⟨lba, le_rfl, hle, honly.whole h, fun _ => hrefused⟩
    rw [readPrefix, if_pos hlt, hread]
    cases result with
    | fatal => exact absurd rfl hfatal
    | success => exact absurd rfl (hsuccess _ _ _ _ _)
    | failed => exact hkept
    | ended => exact hkept
  | case4 lba s hge =>
    have heq : lba = candidate := by omega
    rw [readPrefix, if_neg hge]
    exact heq ▸ h

/-- A printed boundary, with the image that ends where it says. -/
structure BoundaryPrinted (printed : PrintedResult) (s : CopyState) (lba : Nat) : Prop where
  status : printed.failure.status = .outOfRangeError
  retained : printed.retainedImageByteCount = lba * DVD_SECTOR_SIZE_BYTES
  length : s.image.length = lba * DVD_SECTOR_SIZE_BYTES
  failed : s.recovery.boundaryFailure = true
  cut : s.recovery.boundaryRetainedImageByteCount = lba * DVD_SECTOR_SIZE_BYTES
  bare : printed.recovery.includesRecoverySnapshot = false

/-- How a boundary proof ends: the copy fails, or a boundary is printed. -/
def BoundaryEnd (P : Nat → Prop) : CopyStatus × CopyState → Prop
  | (.done, _) => False
  | (.failed, _) => True
  | (.readFailure printed, s) => ∃ lba, BoundaryPrinted printed s lba ∧ P lba

theorem CopyState.Whole.emit (h : s.Whole lba) {failure : ReadFailure}
    (hstatus : failure.status = .outOfRangeError) (proven : Bool) {P : Nat → Prop} (hP : P lba) :
    BoundaryEnd P (CopyState.emit
      { s with recovery := { s.recovery with boundaryProven := proven } } failure
      (lba * DVD_SECTOR_SIZE_BYTES)) := by
  refine ⟨lba, ?_, hP⟩
  constructor
  case status => exact hstatus
  case retained => rfl
  case length => exact h.length
  case failed => simp only [RecoveryState.recordBoundaryFailure, hstatus, if_true]
  case cut => simp only [RecoveryState.recordBoundaryFailure, hstatus, if_true]
  case bare =>
    simp only [RecoveryState.includesRecoverySnapshot, h.recovery, emptyRecovery]
    exact Bool.and_false proven

theorem CopyState.Whole.emitUnproven (h : s.Whole lba) {failure : ReadFailure}
    (hstatus : failure.status = .outOfRangeError) {P : Nat → Prop} (hP : P lba) :
    BoundaryEnd P (emitUnprovenBoundaryFailure s failure s.bytesProcessed) := by
  have hbytes : boundaryRetainedImageByteCount
      (some { s.recovery with boundaryProven := false }) s.bytesProcessed =
        lba * DVD_SECTOR_SIZE_BYTES := by
    rw [h.recovery, h.bytes]
    rfl
  rw [emitUnprovenBoundaryFailure]
  simp only [hbytes]
  exact h.emit hstatus false hP

/-- A boundary proof of an initial copy ends where the image does. -/
theorem proveBoundaryCandidate_whole (env : CopyEnvironment) {failure : ReadFailure}
    {request : ReadRequest}
    (h : s.Whole lba) (hof : failure.Of request) (hstatus : failure.status = .outOfRangeError)
    (hlba : request.requestedLba = lba)
    (hinside : lba + request.requestedBlockCount ≤ declared / DVD_SECTOR_SIZE_BYTES) :
    BoundaryEnd (fun lba' => lba ≤ lba' ∧ lba' ≤ declared / DVD_SECTOR_SIZE_BYTES ∧
        (lba' = 0 → failure.sense.informationLba = some 0 ∨
          ProbeRefused env ⟨s.reads, 0, min (failure.sense.informationLba.getD 0) READ_BLOCKS, 0⟩))
      (proveBoundaryCandidate env failure (·.bytesProcessed) declared s) := by
  have hmedium : failure.status ≠ .mediumError := by
    rw [hstatus]
    simp
  obtain ⟨candidate, hcandidate⟩ := Option.isSome_iff_exists.1 ((hof.status hmedium).2 hstatus)
  have hin := hof.information hcandidate
  rw [hlba] at hin
  have hsome : failure.sense.informationLba.getD 0 = candidate := by rw [hcandidate]; rfl
  simp only [proveBoundaryCandidate, hsome, h.atLba]
  split
  next hchecked =>
    apply h.emitUnproven hstatus
    refine ⟨le_rfl, by omega, fun hzero => .inl ?_⟩
    have hallow : s.recovery.allowBoundaryProof = true := by
      rw [h.recovery]
      rfl
    have hrequest := hof.asked
    simp only [hallow, hrequest, hlba, ne_eq, not_true_eq_false, false_or] at hchecked
    rw [hcandidate]
    congr 1
    omega
  next hchecked =>
    have hwhole := readPrefix_whole env h hin.1
    cases hr : readPrefix env candidate lba s with
    | fatal => trivial
    | refused s1 =>
      rw [hr] at hwhole
      obtain ⟨lba', hfrom, hto, hs1, hrefused⟩ := hwhole
      apply hs1.emitUnproven hstatus
      refine ⟨hfrom, by omega, fun hzero => .inr ?_⟩
      have hstart : lba = 0 := by omega
      subst hstart
      exact hrefused hzero
    | reached s1 =>
      rw [hr] at hwhole
      have hpositive : candidate ≠ 0 := by
        intro hzero
        exact hchecked (.inr (.inl hzero))
      have hend : lba ≤ candidate ∧ candidate ≤ declared / DVD_SECTOR_SIZE_BYTES ∧
          (candidate = 0 → failure.sense.informationLba = some 0 ∨
            ProbeRefused env ⟨s.reads, 0, min candidate READ_BLOCKS, 0⟩) :=
        ⟨hin.1, by omega, fun hzero => absurd hzero hpositive⟩
      have honly := probeCandidate_onlyReads env failure candidate
        (declared / DVD_SECTOR_SIZE_BYTES) s1
      simp only
      cases hp : probeCandidate env failure candidate (declared / DVD_SECTOR_SIZE_BYTES) s1 with
      | mk outcome s2 =>
        rw [hp] at honly
        have hs2 := honly.whole hwhole
        cases outcome with
        | fatal => trivial
        | disagreed => exact hs2.emitUnproven hstatus hend
        | agreed confirmation =>
          have hconfirms := probeCandidate_leaves (hwhole.reached declared) hp
          exact hs2.emit hconfirms.1.status true hend

/-- The first read finds the end of the medium, and not one sector is read before it. -/
def NothingRead (env : CopyEnvironment) (declared : Nat) : Prop :=
  let read := firstRead env (declared / DVD_SECTOR_SIZE_BYTES)
  ∃ failure ∈ read.failure env, failure.status = .outOfRangeError ∧
    (failure.sense.informationLba = some 0 ∨ ProbeRefused env
      ⟨read.number + 1, 0, min (failure.sense.informationLba.getD 0) READ_BLOCKS, 0⟩)

/-- How an initial copy ends: with the whole medium, or with a result that says where. -/
def InitialCopyEnd (env : CopyEnvironment) (declared : Nat) :
    CopyStatus × Option InitialCopyState × CopyState → Prop
  | (.done, initialCopy, s) => ∃ st issued, initialCopy = some st ∧
      s.Follows env (declared / DVD_SECTOR_SIZE_BYTES) (declared / DVD_SECTOR_SIZE_BYTES) 0 issued ∧
      st.Records (declared / DVD_SECTOR_SIZE_BYTES) (declared / DVD_SECTOR_SIZE_BYTES)
        (skippedReads env issued)
  | (.failed, _, _) => True
  | (.readFailure printed, initialCopy, s) =>
    printed.failure.status ≠ .outOfRangeError ∧ s.recovery.boundaryFailure = false ∨
      ∃ st lba skips, initialCopy = some st ∧ BoundaryPrinted printed s lba ∧
        lba ≤ declared / DVD_SECTOR_SIZE_BYTES ∧
        InitialCopyState.Records st (declared / DVD_SECTOR_SIZE_BYTES) lba skips ∧
        (lba = 0 → NothingRead env declared)

/-- The failure of a group is skipped as the medium error that it is. -/
theorem ReadFailure.Of.skippedBelow {failure : ReadFailure}
    (hof : failure.Of ⟨lba, count, ordinal⟩) (hmedium : failure.status = .mediumError)
    (hcount : 0 < count) (hbounded : count ≤ READ_BLOCKS) (hretry : ordinal ≤ 1) :
    failure.startLba = lba ∧ failure.blockCount = count ∧
      failure.SkippedBelow (lba + failure.blockCount) := by
  have hstart : failure.startLba = lba := by rw [ReadFailure.startLba, hof.asked]
  have hblocks : failure.blockCount = count := by rw [ReadFailure.blockCount, hof.asked]
  refine ⟨hstart, hblocks, hof.classified, hmedium, ?_, ?_, ?_, ?_⟩
  · rwa [hblocks]
  · rwa [hblocks]
  · rwa [hof.asked]
  · rw [ReadFailure.endLba, hstart]

/-- An initial copy follows its reads to the end. -/
theorem readDisc_ends (issued : List DriveRead) {st : InitialCopyState}
    (hremaining : lba + remaining = declared / DVD_SECTOR_SIZE_BYTES)
    (h : s.Follows env (declared / DVD_SECTOR_SIZE_BYTES) lba 0 issued)
    (hst : st.Records (declared / DVD_SECTOR_SIZE_BYTES) lba (skippedReads env issued)) :
    InitialCopyEnd env declared (readDisc env declared remaining (some st) absolute s) := by
  induction remaining using Nat.strong_induction_on generalizing lba st absolute s issued with
  | _ remaining ih =>
    rw [readDisc]
    split
    next hzero =>
      have hend : lba = declared / DVD_SECTOR_SIZE_BYTES := by omega
      subst hend
      exact ⟨st, issued, rfl, h, hst⟩
    next hmore =>
      have hcount : min remaining READ_BLOCKS =
          min (declared / DVD_SECTOR_SIZE_BYTES - lba) READ_BLOCKS := by
        rw [← hremaining, Nat.add_sub_cancel_left]
      have hpositive : 0 < min remaining READ_BLOCKS :=
        Nat.lt_min.2 ⟨Nat.pos_of_ne_zero hmore, by decide⟩
      have hle : min remaining READ_BLOCKS ≤ remaining := Nat.min_le_left _ _
      have hinside : lba + min remaining READ_BLOCKS ≤ declared / DVD_SECTOR_SIZE_BYTES := by omega
      dsimp only
      rw [h.atLba]
      generalize hread : (if s.bytesProcessed = 0 then
        readInitialContentWithDeferredRetry env s lba (min remaining READ_BLOCKS) absolute
        else _) = read
      obtain ⟨result, ordinal, s'⟩ := read
      obtain ⟨issued', s₁, absolute', hfollows, hsame, hretry, hone, hfirst⟩ := h.group hcount hread
      have hstate := backendRead_state hone
      have hisOf := backendRead_isOf hone
      rw [hfollows.count] at hisOf
      rw [← hsame] at hst
      cases result with
      | fatal => trivial
      | ended => trivial
      | success blocks bytes positive bounded length =>
        have hnone := mediumFailure_none env
          ⟨issued'.length, lba, min remaining READ_BLOCKS, ordinal⟩
          (fun failure hfailure => by rw [hisOf.2] at hfailure; cases hfailure)
        have hnext := hfollows.consume (by rw [hcount]) hisOf.1 hnone length positive
          ⟨⟨lba, min remaining READ_BLOCKS, ordinal⟩, absolute'⟩
        rw [← hstate] at hnext
        apply ih (remaining - blocks) (by omega) _ (by omega) hnext
        rw [skippedReads_append, hnone]
        exact (List.append_nil (skippedReads env issued')).symm ▸ hst.mono (Nat.le_add_right _ _)
      | failed failure =>
        have hof := backendRead_failed hone
        by_cases hmedium : failure.status = .mediumError
        · simp only [if_pos hmedium]
          obtain ⟨hstart, hblocks, hskipped⟩ :=
            hof.skippedBelow hmedium hpositive (Nat.min_le_right _ _) hretry
          have hfailure : DriveRead.mediumFailure env
              ⟨issued'.length, lba, min remaining READ_BLOCKS, ordinal⟩ = some failure := by
            rw [mediumFailure_of_failure hisOf, if_pos hmedium]
          have hnext := hfollows.skip rfl hcount hfailure hof hpositive
            ⟨⟨lba, min remaining READ_BLOCKS, ordinal⟩, absolute'⟩
          rw [← hstate] at hnext
          apply ih (remaining - min remaining READ_BLOCKS) (by omega) _ (by omega) hnext
          have hrecorded := hst.skip hstart hskipped (by rwa [hblocks])
          rw [hblocks] at hrecorded
          rwa [skippedReads_append, hfailure]
        · simp only [if_neg hmedium]
          have hwhole : s'.Whole lba := by
            rw [hstate]
            exact hfollows.toWhole.read _
          by_cases hrange : failure.status = .outOfRangeError
          · simp only [if_pos hrange]
            have hend := proveBoundaryCandidate_whole env hwhole hof hrange rfl hinside
            cases hprove : proveBoundaryCandidate env failure (·.bytesProcessed) declared s' with
            | mk status s'' =>
              rw [hprove] at hend
              cases status with
              | done => exact hend.elim
              | failed => trivial
              | readFailure printed =>
                obtain ⟨lba', hprinted, hfrom, hto, hnothing⟩ := hend
                refine .inr ⟨st, lba', _, rfl, hprinted, hto, hst.mono hfrom, fun hzero => ?_⟩
                have hstart : lba = 0 := by omega
                rw [NothingRead, ← hfirst hstart]
                refine ⟨failure, hisOf, hrange, ?_⟩
                have hreads : s'.reads = issued'.length + 1 := by
                  rw [hstate, ← hfollows.count]
                  exact List.length_append
                rw [← hreads]
                exact hnothing hzero
          · simp only [if_neg hrange]
            refine .inl ⟨hrange, ?_⟩
            simp only [CopyState.emit, RecoveryState.recordBoundaryFailure, if_neg hrange,
              hwhole.recovery]
            rfl

/-- An initial copy ends with the whole medium, or with a result that says where. -/
theorem runInitialCopy_ends (env : CopyEnvironment) (declared : Nat) :
    InitialCopyEnd env declared (runInitialCopy env declared) := by
  have hempty : skippedReads env [] = [] := rfl
  apply readDisc_ends [] (Nat.zero_add _)
  · constructor
    case toWhole => exact ⟨by rw [Nat.zero_mul], by rw [Nat.zero_mul]; rfl, rfl⟩
    case groups => exact .start
    case count => rfl
    case sectors => exact fun i hi => absurd hi (Nat.not_lt_zero i)
    case below => exact fun _ hfailure => absurd hfailure List.not_mem_nil
  · rw [hempty]
    constructor
    case length => exact List.length_replicate
    case bits => simp
    case sectors => rfl
    case summed => rfl
    case regions => rfl
    case few => exact le_rfl
    case requests => rfl
    case diagnostics => rfl
    case ordered => exact List.Pairwise.nil
    case skipped => exact fun _ hfailure => absurd hfailure List.not_mem_nil

theorem CopyState.Whole.printed (h : s.Whole lba) {failure : ReadFailure}
    (hstatus : failure.status = .outOfRangeError) :
    ∃ printed s', emitUnprovenBoundaryFailure s failure s.bytesProcessed =
      (.readFailure printed, s') ∧ BoundaryPrinted printed s' lba := by
  obtain ⟨lba', hprinted, heq⟩ := h.emitUnproven hstatus (P := (· = lba)) rfl
  subst heq
  exact ⟨_, _, rfl, hprinted⟩

theorem boundaryProbeRead_refused {request : ReadRequest}
    (h : ProbeRefused env ⟨s.reads, request⟩) : ∃ s', s.OnlyReads s' ∧
      (boundaryProbeRead env s request = (.ended, s') ∨
        ∃ failure, boundaryProbeRead env s request = (.failed failure, s')) := by
  obtain ⟨hbefore, hafter, htransport⟩ := h
  simp only at hbefore hafter htransport
  refine ⟨{ s with issued := s.issued ++ [⟨request, true⟩] }, ⟨_, rfl⟩, ?_⟩
  simp only [boundaryProbeRead, backendRead, hbefore, hafter, not_true_eq_false, if_false]
  cases hanswer : env.transport s.reads request with
  | success =>
    rw [hanswer] at htransport
    cases htransport
  | fatal =>
    rw [hanswer] at htransport
    cases htransport
  | failure io => exact .inr ⟨_, rfl⟩
  | ended => exact .inl rfl

theorem readPrefix_refused (h : s.Whole 0) (hpositive : 0 < candidate)
    (hrefused : ProbeRefused env ⟨s.reads, 0, min candidate READ_BLOCKS, 0⟩) :
    ∃ s', s'.Whole 0 ∧ readPrefix env candidate 0 s = .refused s' := by
  have hrequest : ProbeRefused env ⟨s.reads, 0, min (candidate - 0) READ_BLOCKS, 0⟩ := hrefused
  obtain ⟨s', honly, hprobe⟩ := boundaryProbeRead_refused hrequest
  refine ⟨s', honly.whole h, ?_⟩
  rw [readPrefix, if_pos hpositive]
  rcases hprobe with hended | ⟨failure, hfailed⟩
  · rw [hended]
  · rw [hfailed]

/-- A group that fails beyond the end of the medium is the last one. -/
theorem readDisc_outOfRange {st : InitialCopyState} {failure : ReadFailure} {status : CopyStatus}
    (hmore : remaining ≠ 0) (hlba : s.bytesProcessed / DVD_SECTOR_SIZE_BYTES = lba)
    (hgroup : readGroup env s lba (min remaining READ_BLOCKS) absolute =
      (.failed failure, ordinal, s'))
    (hrange : failure.status = .outOfRangeError)
    (hprove : proveBoundaryCandidate env failure (·.bytesProcessed) declared s' = (status, s'')) :
    readDisc env declared remaining (some st) absolute s = (status, some st, s'') := by
  have hmedium : failure.status ≠ .mediumError := by
    rw [hrange]
    simp
  subst hlba
  rw [readDisc, dif_neg hmore]
  dsimp only
  generalize hread : (if s.bytesProcessed = 0 then
    readInitialContentWithDeferredRetry env s (s.bytesProcessed / DVD_SECTOR_SIZE_BYTES)
      (min remaining READ_BLOCKS) absolute
    else _) = read
  have heq : read = (.failed failure, ordinal, s') := hread.symm.trans hgroup
  subst heq
  simp only [if_neg hmedium, if_pos hrange, hprove]

/-- A run that reads nothing before the end of the medium retains nothing. -/
theorem runInitialCopy_unread (h : NothingRead env declared)
    (hpositive : 0 < declared / DVD_SECTOR_SIZE_BYTES) :
    ∃ printed st s, runInitialCopy env declared = (.readFailure printed, some st, s) ∧
      BoundaryPrinted printed s 0 := by
  obtain ⟨failure, hfailure, hrange, hunread⟩ := h
  let s : CopyState := {
    issued := []
    image := []
    bytesProcessed := 0
    recovery := emptyRecovery 0 }
  have hs : s.Follows env (declared / DVD_SECTOR_SIZE_BYTES) 0 0 [] := by
    constructor
    case toWhole => exact ⟨rfl, rfl, rfl⟩
    case groups => exact .start
    case count => rfl
    case sectors => exact fun i hi => absurd hi (Nat.not_lt_zero i)
    case below => exact fun _ hfailure => absurd hfailure List.not_mem_nil
  have hmore : declared / DVD_SECTOR_SIZE_BYTES ≠ 0 := hpositive.ne'
  obtain ⟨result, ordinal, s', hread⟩ : ∃ result ordinal s', readGroup env s 0
      (min (declared / DVD_SECTOR_SIZE_BYTES) READ_BLOCKS) false = (result, ordinal, s') :=
    ⟨_, _, _, rfl⟩
  obtain ⟨issued, s₁, absolute', hfollows, -, -, hone, hfirst⟩ := hs.group rfl hread
  have hisOf := backendRead_isOf hone
  have hstate := backendRead_state hone
  rw [hfollows.count, hfirst rfl] at hisOf
  have hreads : s'.reads = (firstRead env (declared / DVD_SECTOR_SIZE_BYTES)).number + 1 := by
    rw [hstate, ← hfirst rfl, ← hfollows.count]
    exact List.length_append
  have hwhole : s'.Whole 0 := by
    rw [hstate]
    exact hfollows.toWhole.read _
  -- the read failed, as the first read did
  have hfailed : result = .failed failure := by
    cases result with
    | success => rw [hisOf.2] at hfailure; cases hfailure
    | ended => rw [hisOf] at hfailure; cases hfailure
    | fatal => rw [hisOf] at hfailure; cases hfailure
    | failed other => rw [hisOf] at hfailure; cases hfailure; rfl
  have hproved : ∃ printed s'', proveBoundaryCandidate env failure (·.bytesProcessed) declared s' =
      (.readFailure printed, s'') ∧ BoundaryPrinted printed s'' 0 := by
    simp only [proveBoundaryCandidate, hwhole.atLba]
    split
    · exact hwhole.printed hrange
    next hchecked =>
      have hcandidate : 0 < failure.sense.informationLba.getD 0 := by
        apply Nat.pos_of_ne_zero
        intro hzero
        exact hchecked (.inr (.inl hzero))
      rcases hunread with hzero | hrefused
      · rw [hzero] at hcandidate
        cases hcandidate
      · rw [← hreads] at hrefused
        obtain ⟨s'', hwhole', hread⟩ := readPrefix_refused hwhole hcandidate hrefused
        rw [hread]
        exact hwhole'.printed hrange
  obtain ⟨printed, s'', hprove, hprinted⟩ := hproved
  rw [hfailed] at hread
  exact ⟨printed, _, s'', readDisc_outOfRange hmore rfl hread hrange hprove, hprinted⟩

end RipDvd
