import RipDvd.CopyHistory
import RipDvd.InitialCopyAgreement
import RipDvd.RecoveryProtocol

namespace RipDvd
set_option autoImplicit true

/-- A copy from one sector up to another: what its image and its map say, and which reads they
have it from. -/
structure CopyState.Exact (s : CopyState) (env : CopyEnvironment) (declared start : Nat)
    (retained : List UInt8) (lba : Nat) : Prop extends s.Reached True declared lba where
  length : s.image.length = lba * DVD_SECTOR_SIZE_BYTES
  kept : retained <+: s.image
  later : ∀ i, s.recovery.sectorIsBad i = true → start ≤ i
  read : ∀ i, start ≤ i → i < lba → s.recovery.sectorIsBad i = false →
    Delivered env s.issued i (slice s.image (i * DVD_SECTOR_SIZE_BYTES) DVD_SECTOR_SIZE_BYTES)
  zeros : ∀ i, s.recovery.sectorIsBad i = true →
    slice s.image (i * DVD_SECTOR_SIZE_BYTES) DVD_SECTOR_SIZE_BYTES = zeroSectors 1
  failed : ∀ i, s.recovery.sectorIsBad i = true →
    RECOVERY_READ_ATTEMPTS ≤ failuresAt env s.issued i
  delivered : ∀ i sector, Delivered env s.issued i sector →
    i < lba ∧ s.recovery.sectorIsBad i = false
  inPlace : InPlace env s.issued

variable {env : CopyEnvironment} {s s' : CopyState} {declared start : Nat}
  {retained : List UInt8}

/-- The sectors that an image has stay what they are when more go on it. -/
theorem slice_sector_append {image : List UInt8}
    (hlength : image.length = lba * DVD_SECTOR_SIZE_BYTES)
    (hi : i < lba) (bytes : List UInt8) :
    slice (image ++ bytes) (i * DVD_SECTOR_SIZE_BYTES) DVD_SECTOR_SIZE_BYTES =
      slice image (i * DVD_SECTOR_SIZE_BYTES) DVD_SECTOR_SIZE_BYTES := by
  apply slice_append_left
  rw [hlength, ← Nat.succ_mul]
  exact Nat.mul_le_mul_right _ hi

/-- The sectors that go on an image are those behind it. -/
theorem slice_sector_behind {image : List UInt8}
    (hlength : image.length = lba * DVD_SECTOR_SIZE_BYTES)
    (offset : Nat) (bytes : List UInt8) :
    slice (image ++ bytes) ((lba + offset) * DVD_SECTOR_SIZE_BYTES) DVD_SECTOR_SIZE_BYTES =
      slice bytes (offset * DVD_SECTOR_SIZE_BYTES) DVD_SECTOR_SIZE_BYTES := by
  have hbehind : image.length ≤ (lba + offset) * DVD_SECTOR_SIZE_BYTES := by
    rw [hlength]
    exact Nat.mul_le_mul_right _ (Nat.le_add_right _ _)
  rw [slice_append_right hbehind, hlength, ← Nat.sub_mul, Nat.add_sub_cancel_left]

namespace CopyState.Exact

variable {lba : Nat} {request : ReadRequest} {absolute : Bool}

theorem fits (h : s.Exact env declared start retained lba) (hi : i < lba) (bytes : List UInt8) :
    slice (s.image ++ bytes) (i * DVD_SECTOR_SIZE_BYTES) DVD_SECTOR_SIZE_BYTES =
      slice s.image (i * DVD_SECTOR_SIZE_BYTES) DVD_SECTOR_SIZE_BYTES :=
  slice_sector_append h.length hi bytes

/-- A read that gave nothing leaves the copy where it was. -/
theorem issue (h : s.Exact env declared start retained lba)
    (hnothing : ∀ i sector, ¬DriveRead.Gives env ⟨s.reads, request⟩ i sector)
    (habsolute : absolute = false → devicePosition env s.issued = some request.requestedLba) :
    ({ s with issued := s.issued ++ [⟨request, absolute⟩] } : CopyState).Exact env declared start
      retained lba := by
  constructor
  case toReached => exact h.toReached.read _
  case length => exact h.length
  case kept => exact h.kept
  case later => exact h.later
  case zeros => exact h.zeros
  case read =>
    intro i hfrom hto hgood
    exact delivered_append.2 (.inl (h.read i hfrom hto hgood))
  case failed =>
    intro i hbad
    exact (h.failed i hbad).trans (failuresAt_le env _ _ i)
  case delivered =>
    intro i sector hdelivered
    cases delivered_append.1 hdelivered with
    | inl hold => exact h.delivered i sector hold
    | inr hgives => exact absurd hgives (hnothing i sector)
  case inPlace => exact h.inPlace.append habsolute

/-- The sectors of a read go on the image. -/
theorem consume (h : s.Exact env declared start retained lba) (hlba : request.requestedLba = lba)
    {bytes : List UInt8} (hbytes : DriveRead.bytes env ⟨s.reads, request⟩ = bytes)
    (hlength : bytes.length = blocks * DVD_SECTOR_SIZE_BYTES)
    (habsolute : absolute = false → devicePosition env s.issued = some request.requestedLba) :
    (({ s with issued := s.issued ++ [⟨request, absolute⟩] } : CopyState).consumeBlocks blocks
      bytes).Exact env declared start retained (lba + blocks) := by
  have hgives (i : Nat) (sector : List UInt8) :
      DriveRead.Gives env ⟨s.reads, request⟩ i sector ↔ ∃ offset < blocks, i = lba + offset ∧
        sector = slice bytes (offset * DVD_SECTOR_SIZE_BYTES) DVD_SECTOR_SIZE_BYTES := by
    rw [DriveRead.gives_iff (by rw [hbytes]; exact hlength), hbytes, ← hlba]
  constructor
  case toReached => exact (h.toReached.read _).consume blocks bytes
  case length => rw [CopyState.consumeBlocks, List.length_append, h.length, hlength, Nat.add_mul]
  case kept => exact h.kept.trans (List.prefix_append _ _)
  case later => exact h.later
  case zeros =>
    intro i hbad
    exact (h.fits (h.marked.below i hbad) bytes).trans (h.zeros i hbad)
  case read =>
    intro i hfrom hto hgood
    apply delivered_append.2
    by_cases hi : i < lba
    · left
      rw [CopyState.consumeBlocks, h.fits hi bytes]
      exact h.read i hfrom hi hgood
    · right
      obtain ⟨offset, rfl⟩ := Nat.exists_eq_add_of_le (Nat.le_of_not_lt hi)
      apply (hgives _ _).2
      exact ⟨offset, by omega, rfl, slice_sector_behind h.length offset bytes⟩
  case failed =>
    intro i hbad
    exact (h.failed i hbad).trans (failuresAt_le env _ _ i)
  case delivered =>
    intro i sector hdelivered
    cases delivered_append.1 hdelivered with
    | inl hold =>
      have hi := h.delivered i sector hold
      exact ⟨hi.1.trans_le (Nat.le_add_right _ _), hi.2⟩
    | inr hread =>
      obtain ⟨offset, hlt, rfl, -⟩ := (hgives _ _).1 hread
      refine ⟨Nat.add_lt_add_left hlt lba, ?_⟩
      rw [← Bool.not_eq_true]
      intro hbad
      exact absurd (h.marked.below _ hbad) (Nat.not_lt.2 (Nat.le_add_right _ _))
  case inPlace => exact h.inPlace.append habsolute

/-- A sector that was asked for alone and stays unreadable is zeros, and marked. -/
theorem mark (h : s.Exact env declared start retained lba)
    (hinside : lba < declared / DVD_SECTOR_SIZE_BYTES) (hstart : start ≤ lba)
    (hfailed : RECOVERY_READ_ATTEMPTS ≤ failuresAt env s.issued lba) :
    ({ s.consumeBlocks 1 (zeroSectors 1) with
      recovery := s.recovery.markBadSector lba } : CopyState).Exact env declared start retained
      (lba + 1) := by
  have hwidth : lba < 8 * s.recovery.badSectorBitmap.length := by
    have hsized := h.sized trivial
    omega
  have hbit (i : Nat) : (s.recovery.markBadSector lba).sectorIsBad i =
      (decide (i = lba) || s.recovery.sectorIsBad i) := by
    simp only [RecoveryState.markBadSector]
    split <;> exact bitmapBit_setBitmapBit hwidth
  have hcases (i : Nat) (hbad : (s.recovery.markBadSector lba).sectorIsBad i = true) :
      i = lba ∨ s.recovery.sectorIsBad i = true := by
    rwa [hbit, Bool.or_eq_true, decide_eq_true_eq] at hbad
  constructor
  case toReached =>
    have hmarked := h.toReached.mark hinside (s.image ++ zeroSectors 1)
    rwa [Nat.add_mul, ← h.bytes] at hmarked
  case length =>
    rw [CopyState.consumeBlocks, List.length_append, h.length, zeroSectors, List.length_replicate,
      Nat.add_mul]
  case kept => exact h.kept.trans (List.prefix_append _ _)
  case later =>
    intro i hbad
    cases hcases i hbad with
    | inl heq => rwa [heq]
    | inr hold => exact h.later i hold
  case read =>
    intro i hfrom hto hgood
    have hnot : i ≠ lba ∧ s.recovery.sectorIsBad i = false := by
      rwa [hbit, Bool.or_eq_false_iff, decide_eq_false_iff_not] at hgood
    have hi : i < lba := Nat.lt_of_le_of_ne (Nat.le_of_lt_succ hto) hnot.1
    rw [CopyState.consumeBlocks, h.fits hi]
    exact h.read i hfrom hi hnot.2
  case zeros =>
    intro i hbad
    cases hcases i hbad with
    | inl heq =>
      rw [heq]
      exact (slice_sector_behind h.length 0 _).trans (slice_zeroSectors Nat.one_pos)
    | inr hold => exact (h.fits (h.marked.below i hold) _).trans (h.zeros i hold)
  case failed =>
    intro i hbad
    cases hcases i hbad with
    | inl heq => rwa [heq]
    | inr hold => exact h.failed i hold
  case delivered =>
    intro i sector hdelivered
    have hi := h.delivered i sector hdelivered
    refine ⟨hi.1.trans (Nat.lt_succ_self lba), ?_⟩
    rw [hbit, hi.2, Bool.or_false, decide_eq_false_iff_not]
    exact hi.1.ne
  case inPlace => exact h.inPlace

end CopyState.Exact

variable {lba : Nat} {request : ReadRequest} {absolute : Bool}

/-- A read that succeeds puts its sectors on the image. -/
theorem backendRead_consumed {blocks : Nat} {bytes : List UInt8} {positive : 0 < blocks}
    {bounded : blocks ≤ request.requestedBlockCount}
    {length : bytes.length = blocks * DVD_SECTOR_SIZE_BYTES}
    (hread : backendRead env s request absolute =
      (.success blocks bytes positive bounded length, s'))
    (hlba : request.requestedLba = lba)
    (habsolute : absolute = false → devicePosition env s.issued = some request.requestedLba)
    (h : s.Exact env declared start retained lba) :
    (s'.consumeBlocks blocks bytes).Exact env declared start retained (lba + blocks) := by
  have hbytes := (backendRead_isOf hread).1
  rw [backendRead_state hread]
  exact h.consume hlba hbytes length habsolute

/-- A read that fails leaves the copy where it was. -/
theorem backendRead_refused {failure : ReadFailure}
    (hread : backendRead env s request absolute = (.failed failure, s'))
    (habsolute : absolute = false → devicePosition env s.issued = some request.requestedLba)
    (h : s.Exact env declared start retained lba) :
    s'.Exact env declared start retained lba := by
  rw [backendRead_state hread]
  exact h.issue (fun _ _ => DriveRead.not_gives_of_failure (backendRead_isOf hread)) habsolute

/-- A request for one sector that meets a medium error counts. -/
theorem backendRead_counted {failure : ReadFailure}
    (hread : backendRead env s ⟨lba, 1, ordinal⟩ absolute = (.failed failure, s'))
    (hmedium : failure.status = .mediumError) :
    failuresAt env s'.issued lba = failuresAt env s.issued lba + 1 := by
  have hfailure : DriveRead.failure env ⟨s.reads, ⟨lba, 1, ordinal⟩⟩ = some failure :=
    backendRead_isOf hread
  have hfails : DriveRead.FailsAt env lba ⟨s.issued.length, ⟨lba, 1, ordinal⟩⟩ := by
    refine ⟨rfl, rfl, ?_⟩
    have hsome := mediumFailure_of_failure hfailure
    rw [if_pos hmedium] at hsome
    exact Option.isSome_iff_exists.2 ⟨failure, hsome⟩
  rw [backendRead_state hread, failuresAt_append, if_pos hfails]

/-- What the attempts at a range leave of an exact copy. -/
def RangeRead.Exact (env : CopyEnvironment) (declared start : Nat) (retained : List UInt8)
    (lba failures : Nat) : RangeRead requested → Prop
  | .success blocks _ _ _ s => s.Exact env declared start retained (lba + blocks)
  | .unreadable _ s => s.Exact env declared start retained lba ∧
    (requested = 1 → failures ≤ failuresAt env s.issued lba)
  | .stopped status _ => status ≠ .done

theorem attemptRange_exact {evidence : BoundaryConflictEvidence} {ordinals : List Nat}
    (h : s.Exact env declared start retained lba)
    (hcount : count = 1 → failures ≤ failuresAt env s.issued lba) :
    (attemptRange env declared lba count ordinals evidence s).Exact env declared start retained
      lba (failures + ordinals.length) := by
  induction ordinals generalizing evidence failures s with
  | nil => exact ⟨h, hcount⟩
  | cons ordinal ordinals ih =>
    cases hread : backendRead env s ⟨lba, count, ordinal⟩ true with
    | mk result s' =>
      simp only [attemptRange, hread]
      cases result with
      | fatal =>
        intro hdone
        cases hdone
      | ended =>
        intro hdone
        cases hdone
      | success blocks bytes => exact backendRead_consumed hread rfl (by simp) h
      | failed failure =>
        have hexact := backendRead_refused hread (by simp) h
        simp only
        by_cases hmedium : failure.status = .mediumError
        · rw [if_pos hmedium, List.length_cons, Nat.add_comm ordinals.length, ← Nat.add_assoc]
          apply ih hexact
          intro hone
          subst hone
          rw [backendRead_counted hread hmedium]
          exact Nat.succ_le_succ (hcount rfl)
        · rw [if_neg hmedium]
          by_cases hrange : failure.status = .outOfRangeError
          · rw [if_pos hrange]
            split
            · intro hdone
              cases hdone
            · exact proveBoundaryCandidate_stops
          · rw [if_neg hrange]
            intro hdone
            cases hdone

/-- The attempts that a range is given. -/
theorem attemptRange_attempts {evidence : BoundaryConflictEvidence} {outcome : RangeRead count}
    (h : s.Exact env declared start retained lba)
    (hattempt : attemptRange env declared lba count
      ((List.range RECOVERY_READ_ATTEMPTS).map (first + ·)) evidence s = outcome) :
    outcome.Exact env declared start retained lba RECOVERY_READ_ATTEMPTS := by
  have hexact : outcome.Exact env declared start retained lba
      (0 + ((List.range RECOVERY_READ_ATTEMPTS).map (first + ·)).length) := by
    rw [← hattempt]
    exact attemptRange_exact h fun _ => Nat.zero_le _
  rwa [List.length_map, List.length_range, Nat.zero_add] at hexact

/-- A range read by halves and short reads is read exactly. -/
theorem recoverRange_exact {evidence : BoundaryConflictEvidence}
    {rest : BoundaryConflictEvidence × CopyState} (hpositive : 0 < count) (hstart : start ≤ lba)
    (hinside : lba + count ≤ declared / DVD_SECTOR_SIZE_BYTES)
    (h : s.Exact env declared start retained lba)
    (hrun : recoverRange env declared lba count first evidence s = (.done, rest)) :
    rest.2.Exact env declared start retained (lba + count) := by
  induction lba, count, first, evidence, s using recoverRange.induct env declared generalizing
    rest with
  | case1 lba count first evidence s status s' hattempt =>
    have hstopped := attemptRange_attempts h hattempt
    rw [recoverRange, hattempt] at hrun
    cases hrun
    exact absurd rfl hstopped
  | case2 lba first evidence s blocks positive evidence' s' bounded hattempt =>
    have hread := attemptRange_attempts h hattempt
    rw [recoverRange, hattempt] at hrun
    simp only [if_pos] at hrun
    cases hrun
    exact hread
  | case3 lba count first evidence s blocks positive bounded evidence' s' hattempt hpart ih =>
    -- a short success: the rest of the range is read as a range of its own
    have hread := attemptRange_attempts h hattempt
    rw [recoverRange, hattempt] at hrun
    simp only [if_neg hpart] at hrun
    have hnext := ih (by omega) (hstart.trans (Nat.le_add_right _ _)) (by omega) hread hrun
    rwa [Nat.add_assoc, Nat.add_sub_cancel' bounded] at hnext
  | case4 lba count first evidence s evidence' s' hattempt hone =>
    have hcount : count = 1 := Nat.le_antisymm hone hpositive
    subst hcount
    obtain ⟨hexact, hfailed⟩ := attemptRange_attempts h hattempt
    rw [recoverRange, hattempt] at hrun
    simp only [if_pos hone] at hrun
    cases hrun
    exact hexact.mark hinside hstart (hfailed rfl)
  | case5 lba count first evidence s evidence' s' hattempt hmany evidence'' s'' hleft ihleft
      ihright =>
    have hexact := (attemptRange_attempts h hattempt).1
    rw [recoverRange, hattempt] at hrun
    simp only [if_neg hmany, hleft] at hrun
    have hhalf := ihleft (by omega) hstart (by omega) hexact hleft
    have hnext := ihright (by omega) (hstart.trans (Nat.le_add_right _ _)) (by omega) hhalf hrun
    rwa [Nat.add_assoc, Nat.add_sub_cancel' (Nat.div_le_self count 2)] at hnext
  | case6 lba count first evidence s evidence' s' hattempt hmany hstopped ihleft =>
    rw [recoverRange, hattempt] at hrun
    simp only [if_neg hmany] at hrun
    cases hleft : recoverRange env declared lba (count / 2) 0 evidence' s' with
    | mk status rest' =>
      cases status with
      | done => exact absurd hleft (hstopped rest'.1 rest'.2)
      | failed =>
        rw [hleft] at hrun
        cases hrun
      | readFailure =>
        rw [hleft] at hrun
        cases hrun

/-- The read of a group comes from an exact copy, after one that was put off, if any. -/
theorem readGroup_exact {result : BackendRead count}
    (hread : readGroup env s lba count absolute = (result, ordinal, s'))
    (habsolute : absolute = false → devicePosition env s.issued = some lba)
    (h : s.Exact env declared start retained lba) :
    ∃ s₁ absolute', s₁.Exact env declared start retained lba ∧
      (absolute' = false → devicePosition env s₁.issued = some lba) ∧
      backendRead env s₁ ⟨lba, count, ordinal⟩ absolute' = (result, s') := by
  rw [readGroup] at hread
  split at hread
  · rw [readInitialContentWithDeferredRetry] at hread
    cases hone : backendRead env s ⟨lba, count, 0⟩ absolute with
    | mk first s₁ =>
      rw [hone] at hread
      cases first with
      | success =>
        cases hread
        exact ⟨s, absolute, h, habsolute, hone⟩
      | ended =>
        cases hread
        exact ⟨s, absolute, h, habsolute, hone⟩
      | fatal =>
        cases hread
        exact ⟨s, absolute, h, habsolute, hone⟩
      | failed failure =>
        simp only at hread
        split at hread
        · cases htwo : backendRead env s₁ ⟨lba, count, 1⟩ true with
          | mk second s₂ =>
            rw [htwo] at hread
            cases hread
            exact ⟨s₁, true, backendRead_refused hone habsolute h, by simp, htwo⟩
        · cases hread
          exact ⟨s, absolute, h, habsolute, hone⟩
  · cases hread
    exact ⟨s, absolute, h, habsolute, rfl⟩

/-- A recovery copy that is done is exact. -/
theorem readDisc_exact {rest : Option InitialCopyState × CopyState}
    (hremaining : lba + remaining = declared / DVD_SECTOR_SIZE_BYTES) (hstart : start ≤ lba)
    (habsolute : remaining ≠ 0 → absolute = false → devicePosition env s.issued = some lba)
    (h : s.Exact env declared start retained lba)
    (hrun : readDisc env declared remaining none absolute s = (.done, rest)) :
    rest.2.Exact env declared start retained (declared / DVD_SECTOR_SIZE_BYTES) := by
  induction remaining using Nat.strong_induction_on generalizing lba absolute s with
  | _ remaining ih =>
    rw [readDisc] at hrun
    split at hrun
    next hzero =>
      have hend : lba = declared / DVD_SECTOR_SIZE_BYTES := by omega
      cases hrun
      exact hend ▸ h
    next hmore =>
      have hlba : s.bytesProcessed / DVD_SECTOR_SIZE_BYTES = lba := by
        rw [h.bytes]
        exact Nat.mul_div_cancel lba (by decide)
      have hpositive : 0 < min remaining READ_BLOCKS :=
        Nat.lt_min.2 ⟨Nat.pos_of_ne_zero hmore, by decide⟩
      have hle : min remaining READ_BLOCKS ≤ remaining := Nat.min_le_left _ _
      dsimp only at hrun
      rw [hlba] at hrun
      generalize hread : (if s.bytesProcessed = 0 then
        readInitialContentWithDeferredRetry env s lba (min remaining READ_BLOCKS) absolute
        else _) = read at hrun
      obtain ⟨result, ordinal, s'⟩ := read
      obtain ⟨s₁, absolute', hs₁, hplace, hone⟩ := readGroup_exact hread (habsolute hmore) h
      cases result with
      | fatal => cases hrun
      | ended => cases hrun
      | success blocks bytes positive bounded length =>
        have hblocks : blocks ≤ min remaining READ_BLOCKS := bounded
        have hnext := backendRead_consumed hone rfl hplace hs₁
        have hposition : devicePosition env (s'.consumeBlocks blocks bytes).issued =
            some (lba + blocks) := backendRead_position hone hplace
        exact ih (remaining - blocks) (by omega) (by omega)
          (hstart.trans (Nat.le_add_right _ _)) (fun _ _ => hposition) hnext hrun
      | failed failure =>
        have hexact := backendRead_refused hone hplace hs₁
        by_cases hmedium : failure.status = .mediumError
        · simp only [if_pos hmedium] at hrun
          cases hr : recoverRange env declared lba (min remaining READ_BLOCKS) (ordinal + 1)
              (recordBoundaryMediumError ⟨[], false⟩ failure) s' with
          | mk status rest' =>
            rw [hr] at hrun
            cases status with
            | done =>
              have hrecovered := recoverRange_exact hpositive hstart (by omega) hexact hr
              apply ih (remaining - min remaining READ_BLOCKS) (by omega) (by omega)
                (hstart.trans (Nat.le_add_right _ _)) ?_ hrecovered hrun
              -- the next read seeks, if there is one
              intro hnonzero hfalse
              exact absurd (Nat.pos_of_ne_zero hnonzero) (of_decide_eq_false hfalse)
            | failed => cases hrun
            | readFailure => cases hrun
        · simp only [if_neg hmedium] at hrun
          by_cases hrange : failure.status = .outOfRangeError
          · simp only [if_pos hrange] at hrun
            exact absurd (congrArg Prod.fst hrun) proveBoundaryCandidate_stops
          · simp only [if_neg hrange] at hrun
            cases hrun

/-- The state that a recovery copy starts with, behind what is retained. -/
def startRecoveryCopy (sizeBytes : Nat) (retained : List UInt8) : CopyState where
  issued := []
  image := retained
  bytesProcessed := retained.length
  recovery := emptyRecovery (bitmapByteCount sizeBytes)

theorem startRecoveryCopy_exact (hlength : retained.length = start * DVD_SECTOR_SIZE_BYTES) :
    (startRecoveryCopy declared retained).Exact env declared start retained start := by
  have hclear (i : Nat) : (startRecoveryCopy declared retained).recovery.sectorIsBad i = false :=
    bitmapBit_replicate _ i
  constructor
  case toReached => exact CopyState.Reached.start hlength rfl fun _ => rfl
  case length => exact hlength
  case kept => exact List.prefix_rfl
  case later =>
    intro i hbad
    rw [hclear] at hbad
    cases hbad
  case read => exact fun i hfrom hto => absurd hto (Nat.not_lt.2 hfrom)
  case zeros =>
    intro i hbad
    rw [hclear] at hbad
    cases hbad
  case failed =>
    intro i hbad
    rw [hclear] at hbad
    cases hbad
  case delivered =>
    intro i sector hdelivered
    obtain ⟨read, hread, -⟩ := hdelivered
    cases hread
  case inPlace =>
    intro before read hbefore
    have hlength := hbefore.length_le
    rw [List.length_append] at hlength
    exact absurd hlength (Nat.not_succ_le_zero _)

theorem toHex_injective (h : toHex a = toHex b) : a = b := by
  have hdigits := congrArg (fun text => ofHexDigits text.toList) h
  simpa only [toHex, String.toList_ofList, ofHexDigits_flatMap, Option.some.injEq] using hdigits

/-- The line `emit_recovery_result` prints. -/
def emitRecoveryResult (sizeBytes : Nat) (recovery : RecoveryState) : Json :=
  recovery.snapshot sizeBytes

/-- The parser takes the line of a copy for the sectors that its map marks. -/
theorem RecoveryState.Marked.accepted {recovery : RecoveryState}
    (hdeclared : DeclaredByteCount declared)
    (h : recovery.Marked (declared / DVD_SECTOR_SIZE_BYTES))
    (hsized : recovery.badSectorBitmap.length = (declared / DVD_SECTOR_SIZE_BYTES + 7) / 8) :
    ∃ result, parseDvdRecoveryResultProtocol (emitRecoveryResult declared recovery) declared =
        .ok result ∧ recovery.ShownBy declared result ∧
      Separated result.unrecoveredSectorRanges (declared / DVD_SECTOR_SIZE_BYTES) ∧
      ∀ lba, Holds result.unrecoveredSectorRanges lba ↔ recovery.sectorIsBad lba = true := by
  obtain ⟨result, hparse, hshown, -⟩ := parse_snapshot hdeclared h le_rfl fun _ => hsized
  refine ⟨result, hparse, hshown, ?_⟩
  obtain ⟨payload, -, hcarried, hdecodes⟩ := parseDvdRecoveryResultProtocol_ok.1 hparse
  have hcount : payload.badSectorCount = recovery.badSectorCount := by
    have hnumber : some (Json.number recovery.badSectorCount) =
        some (Json.number payload.badSectorCount) :=
      safeNonNegativeInteger_some hcarried.badSectorCount
    exact (Int.ofNat.inj (Json.number.inj (Option.some.inj hnumber))).symm
  cases hdecodes with
  | inl hclean =>
    obtain ⟨hzero, -, -, -, rfl⟩ := hclean
    have hnone : ∀ lba, recovery.sectorIsBad lba = true → False := by
      intro lba hbad
      have hcounted := h.sectors
      rw [← hcount, hzero] at hcounted
      exact Nat.count_iff_forall_not.1 hcounted.symm lba (h.below lba hbad) hbad
    refine ⟨⟨.nil, fun _ hr => (nomatch hr), fun _ hr => (nomatch hr)⟩, fun lba => ?_⟩
    constructor
    · intro hholds
      obtain ⟨range, hr, -⟩ := hholds
      cases hr
    · exact fun hbad => (hnone lba hbad).elim
  | inr hdamaged =>
    obtain ⟨hdam, -, -, hbad, -, bitmap, hhex, hbitmap⟩ := hdamaged
    have hpositive : 0 < recovery.badSectorCount := by
      rw [← hcount, hbad]
      exact Nat.pos_of_ne_zero hdam.bad_pos
    have htext : payload.badSectorBitmapHex = toHex recovery.badSectorBitmap := by
      have hstring : some (Json.string (if 0 < recovery.badSectorCount then
          toHex recovery.badSectorBitmap else "")) = some (.string payload.badSectorBitmapHex) :=
        stringValue_iff.1 hcarried.badSectorBitmapHex
      rw [if_pos hpositive] at hstring
      exact (Json.string.inj (Option.some.inj hstring)).symm
    have hsame := toHex_injective (hhex.trans htext)
    have hdecl := hshown.1
    rw [hdecl, hsame] at hbitmap
    exact ⟨hbitmap.separated, fun lba => (hbitmap.bits lba).symm⟩

/-- The counts of an accepted result are those of its ranges. -/
theorem parseDvdRecoveryResultProtocol_counts {parsed : Json} {result : DvdRecoveryResult}
    (h : parseDvdRecoveryResultProtocol parsed expectedByteCount = .ok result) :
    result.badSectorCount = (result.unrecoveredSectorRanges.map (·.sectorCount)).sum ∧
      result.badAreaCount = result.unrecoveredSectorRanges.length := by
  obtain ⟨payload, -, -, hdecodes⟩ := parseDvdRecoveryResultProtocol_ok.1 h
  cases hdecodes with
  | inl hclean =>
    obtain ⟨-, -, -, -, rfl⟩ := hclean
    exact ⟨rfl, rfl⟩
  | inr hdamaged => exact ⟨hdamaged.1.badSectorCount, hdamaged.1.badAreaCount⟩

/-- What a recovery copy of a size leaves behind the sectors that were retained. -/
structure CopyState.Recovered (s : CopyState) (env : CopyEnvironment) (sizeBytes : Nat)
    (retained : List UInt8) : Prop where
  length : s.image.length = sizeBytes
  kept : retained <+: s.image
  sectors : ∀ lba, retained.length / DVD_SECTOR_SIZE_BYTES ≤ lba →
    lba < sizeBytes / DVD_SECTOR_SIZE_BYTES →
    if s.recovery.sectorIsBad lba then
      slice s.image (lba * DVD_SECTOR_SIZE_BYTES) DVD_SECTOR_SIZE_BYTES = zeroSectors 1
    else Delivered env s.issued lba
      (slice s.image (lba * DVD_SECTOR_SIZE_BYTES) DVD_SECTOR_SIZE_BYTES)
  inside : ∀ lba, s.recovery.sectorIsBad lba = true →
    retained.length / DVD_SECTOR_SIZE_BYTES ≤ lba ∧ lba < sizeBytes / DVD_SECTOR_SIZE_BYTES
  marked : ∀ lba, retained.length / DVD_SECTOR_SIZE_BYTES ≤ lba →
    lba < sizeBytes / DVD_SECTOR_SIZE_BYTES →
    (s.recovery.sectorIsBad lba = true ↔
      RECOVERY_READ_ATTEMPTS ≤ failuresAt env s.issued lba ∧
        ∀ sector, ¬Delivered env s.issued lba sector)
  inPlace : InPlace env s.issued
  accepted : ∃ result,
    parseDvdRecoveryResultProtocol (emitRecoveryResult sizeBytes s.recovery) sizeBytes =
      .ok result ∧ s.recovery.ShownBy sizeBytes result ∧
    Separated result.unrecoveredSectorRanges (sizeBytes / DVD_SECTOR_SIZE_BYTES) ∧
    (∀ lba, Holds result.unrecoveredSectorRanges lba ↔ s.recovery.sectorIsBad lba = true) ∧
    s.recovery.badSectorCount = (result.unrecoveredSectorRanges.map (·.sectorCount)).sum ∧
    s.recovery.badAreaCount = result.unrecoveredSectorRanges.length

/-- A recovery copy that ends well is exact: it puts every sector where it belongs, marks those that
nothing was read of and seeks wherever it has to. -/
theorem readDisc_recovers {rest : Option InitialCopyState × CopyState}
    (hdeclared : DeclaredByteCount sizeBytes)
    (hretained : retained.length % DVD_SECTOR_SIZE_BYTES = 0)
    (hle : retained.length ≤ sizeBytes)
    (hrun : readDisc env sizeBytes ((sizeBytes - retained.length) / DVD_SECTOR_SIZE_BYTES) none
      (0 < retained.length) (startRecoveryCopy sizeBytes retained) = (.done, rest)) :
    rest.2.Recovered env sizeBytes retained := by
  have hstart : retained.length =
      retained.length / DVD_SECTOR_SIZE_BYTES * DVD_SECTOR_SIZE_BYTES :=
    (Nat.div_mul_cancel (Nat.dvd_of_mod_eq_zero hretained)).symm
  have hsize : sizeBytes = sizeBytes / DVD_SECTOR_SIZE_BYTES * DVD_SECTOR_SIZE_BYTES :=
    (Nat.div_mul_cancel (Nat.dvd_of_mod_eq_zero hdeclared.sectors)).symm
  have hremaining : retained.length / DVD_SECTOR_SIZE_BYTES +
      (sizeBytes - retained.length) / DVD_SECTOR_SIZE_BYTES =
        sizeBytes / DVD_SECTOR_SIZE_BYTES := by
    simp only [DVD_SECTOR_SIZE_BYTES] at hstart hsize ⊢
    omega
  have hplace : (sizeBytes - retained.length) / DVD_SECTOR_SIZE_BYTES ≠ 0 →
      decide (0 < retained.length) = false →
      devicePosition env (startRecoveryCopy sizeBytes retained).issued =
        some (retained.length / DVD_SECTOR_SIZE_BYTES) := by
    intro _ hfalse
    have hempty : retained.length = 0 := Nat.eq_zero_of_not_pos (of_decide_eq_false hfalse)
    rw [hempty]
    rfl
  have h := readDisc_exact hremaining le_rfl hplace (startRecoveryCopy_exact hstart) hrun
  obtain ⟨result, hparse, hshown, hseparated, hholds⟩ :=
    h.marked.accepted hdeclared (h.sized trivial)
  have hcounts := parseDvdRecoveryResultProtocol_counts hparse
  constructor
  case length => rw [h.length, ← hsize]
  case kept => exact h.kept
  case inside => exact fun lba hbad => ⟨h.later lba hbad, h.marked.below lba hbad⟩
  case inPlace => exact h.inPlace
  case sectors =>
    intro lba hfrom hto
    split
    next hbad => exact h.zeros lba hbad
    next hgood => exact h.read lba hfrom hto (Bool.eq_false_iff.2 hgood)
  case marked =>
    intro lba hfrom hto
    constructor
    · intro hbad
      refine ⟨h.failed lba hbad, fun sector hdelivered => ?_⟩
      rw [(h.delivered lba sector hdelivered).2] at hbad
      cases hbad
    · intro hunread
      by_contra hgood
      exact hunread.2 _ (h.read lba hfrom hto (Bool.eq_false_iff.2 hgood))
  case accepted =>
    refine ⟨result, hparse, hshown, hseparated, hholds, ?_, ?_⟩
    · rw [← hshown.2.2.1, hcounts.1]
    · rw [← hshown.2.2.2, hcounts.2]

/-- A read that gives the first of the sectors it was asked for. -/
def givesOne (byte : UInt8) (request : ReadRequest) : TransportRead request.requestedBlockCount :=
  if h : 0 < request.requestedBlockCount then
    .success 1 (List.replicate DVD_SECTOR_SIZE_BYTES byte) Nat.one_pos h
      (by rw [List.length_replicate, Nat.one_mul])
  else .ended

/-- A drive that cannot read its second sector. -/
def secondSectorBad : CopyEnvironment where
  transport _ request :=
    if request.requestedLba = 1 then .failure (some (senseOf 0 0x03 0x11 0x05))
    else givesOne 7 request
  authorizes _ := true

theorem secondSectorBad_recovers :
    (readDisc secondSectorBad 6144 3 none false (startRecoveryCopy 6144 [])).2.2.Recovered
        secondSectorBad 6144 [] ∧
      (readDisc secondSectorBad 6144 3 none false
        (startRecoveryCopy 6144 [])).2.2.recovery.badSectorCount = 1 :=
  ⟨readDisc_recovers ⟨by decide, by decide, by decide⟩ rfl (Nat.zero_le _)
    (Prod.ext (by decide +kernel) rfl), by decide +kernel⟩

/-- A drive of one sector that is read the third time. -/
def thirdTimeRead : CopyEnvironment where
  transport number request :=
    if number < 2 then .failure (some (senseOf 0 0x03 0x11 0x05)) else givesOne 7 request
  authorizes _ := true

/-- A sector may fail as often as recovery tries it and be read after all: the read that recovery
was called for failed too. -/
theorem thirdTimeRead_unmarked :
    (readDisc thirdTimeRead 2048 1 none false (startRecoveryCopy 2048 [])).1 = .done ∧
      ¬((readDisc thirdTimeRead 2048 1 none false
          (startRecoveryCopy 2048 [])).2.2.recovery.sectorIsBad 0 = true ↔
        RECOVERY_READ_ATTEMPTS ≤ failuresAt thirdTimeRead (readDisc thirdTimeRead 2048 1 none false
          (startRecoveryCopy 2048 [])).2.2.issued 0) := by
  constructor
  · decide +kernel
  · decide +kernel

end RipDvd
