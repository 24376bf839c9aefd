import RipDvd.CopyResults

namespace RipDvd
set_option autoImplicit true

variable {env : CopyEnvironment} {s s' : CopyState} {mapped : Prop} {declared : Nat}

/-- The image ends where the failed read began. -/
theorem ImageEnd.start {failure : ReadFailure} {request : ReadRequest} (hof : failure.Of request)
    (hwithin : request.Within (declared / DVD_SECTOR_SIZE_BYTES))
    (hlba : request.requestedLba = lba) :
    ImageEnd failure declared (lba * DVD_SECTOR_SIZE_BYTES) := by
  rw [← hlba]
  have hinside := (Nat.le_add_right request.requestedLba _).trans hwithin.inside
  refine ⟨?_, Nat.mul_mod_left _ _, ?_⟩
  · exact (Nat.mul_le_mul_right _ hinside).trans (Nat.div_mul_le_self declared _)
  · intro info hinfo
    exact .inr (Nat.mul_le_mul_right _ (hof.information hinfo).1)

/-- The image ends where the reads reached, when that is no further than the boundary. -/
theorem ImageEnd.reached {failure : ReadFailure} {request : ReadRequest} (hof : failure.Of request)
    (hwithin : request.Within (declared / DVD_SECTOR_SIZE_BYTES))
    (hstatus : failure.status = .outOfRangeError)
    (hbelow : ∀ info ∈ failure.sense.informationLba, lba ≤ info) :
    ImageEnd failure declared (lba * DVD_SECTOR_SIZE_BYTES) := by
  have hmedium : failure.status ≠ .mediumError := by
    rw [hstatus]
    simp
  obtain ⟨info, hinfo⟩ := Option.isSome_iff_exists.1 ((hof.status hmedium).2 hstatus)
  have hinside := (hbelow info hinfo).trans ((hof.information hinfo).2.le.trans hwithin.inside)
  refine ⟨?_, Nat.mul_mod_left _ _, ?_⟩
  · exact (Nat.mul_le_mul_right _ hinside).trans (Nat.div_mul_le_self declared _)
  · intro other hother
    exact .inr (Nat.mul_le_mul_right _ (hbelow other hother))

/-- The image is whole: a copy that reads again what it could not read before. -/
theorem ImageEnd.whole {failure : ReadFailure} (hdeclared : DeclaredByteCount declared) :
    ImageEnd failure declared declared :=
  ⟨le_rfl, hdeclared.sectors, fun _ _ => .inl rfl⟩

/-- What the attempts at a range leave, whichever way they ended. -/
def RangeRead.Leaves (mapped : Prop) (declared lba : Nat) : RangeRead requested → Prop
  | .success blocks _ _ _ s => s.Reached mapped declared (lba + blocks)
  | .unreadable _ s => s.Reached mapped declared lba
  | .stopped status _ => status ≠ .done ∧ status.Sound declared

theorem proveBoundaryCandidate_stops {failure : ReadFailure} {unproven : CopyState → Nat} :
    (proveBoundaryCandidate env failure unproven declared s).1 ≠ .done := by
  simp only [proveBoundaryCandidate]
  intro hdone
  split at hdone
  · cases hdone
  · split at hdone
    · cases hdone
    · cases hdone
    · split at hdone <;> cases hdone

theorem attemptRange_leaves {evidence : BoundaryConflictEvidence} {ordinals : List Nat}
    (hordinals : ∀ ordinal ∈ ordinals,
      ReadRequest.Within ⟨lba, count, ordinal⟩ (declared / DVD_SECTOR_SIZE_BYTES))
    (h : s.Reached mapped declared lba) :
    (attemptRange env declared lba count ordinals evidence s).Leaves mapped declared lba := by
  induction ordinals generalizing evidence s with
  | nil => exact h
  | cons ordinal ordinals ih =>
    have hwithin := hordinals ordinal List.mem_cons_self
    have hrest := fun o ho => hordinals o (List.mem_cons_of_mem ordinal ho)
    cases hread : backendRead env s ⟨lba, count, ordinal⟩ true with
    | mk result s' =>
      have hreached := backendRead_reached hread h
      simp only [attemptRange, hread]
      cases result with
      | fatal => exact ⟨nofun, CopyStatus.failed_sound⟩
      | ended => exact ⟨nofun, CopyStatus.failed_sound⟩
      | success blocks bytes => exact hreached.consume blocks bytes
      | failed failure =>
        have hof := backendRead_failed hread
        simp only
        by_cases hmedium : failure.status = .mediumError
        · rw [if_pos hmedium]
          exact ih hrest hreached
        · rw [if_neg hmedium]
          by_cases hrange : failure.status = .outOfRangeError
          · rw [if_pos hrange]
            have hend : ImageEnd failure declared s'.bytesProcessed := by
              rw [hreached.bytes]
              exact ImageEnd.start hof hwithin rfl
            have hfrom : ∀ info ∈ failure.sense.informationLba, lba ≤ info :=
              fun info hinfo => (hof.information hinfo).1
            split
            · exact ⟨nofun, emitUnproven_sound hof hwithin hmedium hreached hfrom hend⟩
            · apply And.intro proveBoundaryCandidate_stops
              exact proveBoundaryCandidate_sound hof hwithin hrange hreached rfl
                fun _ _ _ _ _ => hend
          · rw [if_neg hrange]
            exact ⟨nofun, emit_plain_sound hof hwithin hmedium hrange⟩

/-- What a copy leaves: done, it reaches a sector; else nothing unsound is printed. -/
def CopyStatus.Leaves (mapped : Prop) (declared lba : Nat) (s : CopyState) :
    CopyStatus → Prop
  | .done => s.Reached mapped declared lba
  | status => status.Sound declared

theorem CopyStatus.Leaves.sound {status : CopyStatus}
    (h : status.Leaves mapped declared lba s) : status.Sound declared := by
  cases status with
  | done => exact CopyStatus.done_sound
  | failed => exact h
  | readFailure => exact h

theorem CopyStatus.Sound.leaves {status : CopyStatus} (h : status.Sound declared)
    (hdone : status ≠ .done) : status.Leaves mapped declared lba s := by
  cases status with
  | done => exact absurd rfl hdone
  | failed => exact h
  | readFailure => exact h

/-- A sector that stays unreadable is zeros in the image and a mark in the map. -/
theorem CopyState.Reached.mark (h : s.Reached True declared lba)
    (hinside : lba < declared / DVD_SECTOR_SIZE_BYTES) (image : List UInt8) :
    ({ s with
      image
      bytesProcessed := (lba + 1) * DVD_SECTOR_SIZE_BYTES
      recovery := s.recovery.markBadSector lba } : CopyState).Reached True declared (lba + 1) := by
  have hsized := h.sized trivial
  have hwidth : lba < 8 * s.recovery.badSectorBitmap.length := by omega
  have hlength : (s.recovery.markBadSector lba).badSectorBitmap.length =
      s.recovery.badSectorBitmap.length := by
    simp only [RecoveryState.markBadSector]
    split <;> exact List.length_set
  have hproven : (s.recovery.markBadSector lba).boundaryProven = s.recovery.boundaryProven := by
    simp only [RecoveryState.markBadSector]
    split <;> rfl
  constructor
  · rfl
  · exact markBadSector_marked h.marked hwidth
  · intro _
    rw [hlength, hsized]
  · intro hnot
    exact absurd trivial hnot
  · rw [hproven, h.unproven]

/-- The ranges of a copy lie inside the declared medium. -/
structure RangeWithin (declared lba count : Nat) : Prop where
  positive : 0 < count
  bounded : count ≤ READ_BLOCKS
  inside : lba + count ≤ declared / DVD_SECTOR_SIZE_BYTES

theorem RangeWithin.request (h : RangeWithin declared lba count) (hretry : ordinal ≤ 0xffffffff) :
    ReadRequest.Within ⟨lba, count, ordinal⟩ (declared / DVD_SECTOR_SIZE_BYTES) :=
  ⟨h.positive, h.bounded.trans (by decide), hretry, h.inside⟩

/-- Every attempt of a range is a read of the range. -/
theorem RangeWithin.attempts {evidence : BoundaryConflictEvidence} {outcome : RangeRead count}
    (h : RangeWithin declared lba count) (hfirst : first ≤ 2)
    (hreached : s.Reached mapped declared lba)
    (hattempt : attemptRange env declared lba count
      ((List.range RECOVERY_READ_ATTEMPTS).map (first + ·)) evidence s = outcome) :
    outcome.Leaves mapped declared lba := by
  rw [← hattempt]
  apply attemptRange_leaves ?_ hreached
  intro ordinal hordinal
  obtain ⟨i, hi, rfl⟩ := List.mem_map.1 hordinal
  have hlt := List.mem_range.1 hi
  apply h.request
  simp only [RECOVERY_READ_ATTEMPTS] at hlt
  omega

/-- A range read by halves ends with the image behind it, or with a sound result. -/
theorem recoverRange_leaves {evidence : BoundaryConflictEvidence} {status : CopyStatus}
    {rest : BoundaryConflictEvidence × CopyState}
    (hrange : RangeWithin declared lba count) (hfirst : first ≤ 2)
    (h : s.Reached True declared lba)
    (hrun : recoverRange env declared lba count first evidence s = (status, rest)) :
    status.Leaves True declared (lba + count) rest.2 := by
  have hstatus := congrArg Prod.fst hrun
  have hrest := congrArg Prod.snd hrun
  subst hstatus hrest
  clear hrun
  induction lba, count, first, evidence, s using recoverRange.induct env declared with
  | case1 lba count first evidence s status s' hattempt =>
    have hleaves := hrange.attempts hfirst h hattempt
    rw [recoverRange, hattempt]
    exact hleaves.2.leaves hleaves.1
  | case2 lba first evidence s blocks positive evidence' s' bounded hattempt =>
    rw [recoverRange, hattempt]
    simp only [if_pos]
    exact hrange.attempts hfirst h hattempt
  | case3 lba count first evidence s blocks positive bounded evidence' s' hattempt hpart ih =>
    -- a short success: the rest of the range is read as a range of its own
    have hrest : RangeWithin declared (lba + blocks) (count - blocks) := by
      have hinside := hrange.inside
      have hbounded := hrange.bounded
      constructor <;> omega
    have hnext := ih hrest (Nat.zero_le 2) (hrange.attempts hfirst h hattempt)
    rw [Nat.add_assoc, Nat.add_sub_cancel' bounded] at hnext
    rw [recoverRange, hattempt]
    simp only [if_neg hpart]
    exact hnext
  | case4 lba count first evidence s evidence' s' hattempt hone =>
    have hcount : count = 1 := Nat.le_antisymm hone hrange.positive
    have hreached : s'.Reached True declared lba := hrange.attempts hfirst h hattempt
    have hinside : lba < declared / DVD_SECTOR_SIZE_BYTES := by
      have hbound := hrange.inside
      omega
    have hmarked := hreached.mark hinside (s'.image ++ zeroSectors 1)
    rw [recoverRange, hattempt]
    simp only [CopyState.consumeBlocks, hreached.bytes, hcount, ← Nat.add_mul]
    exact hmarked
  | case5 lba count first evidence s evidence' s' hattempt hmany evidence'' s'' hleft
    ihleft ihright =>
    have hreached : s'.Reached True declared lba := hrange.attempts hfirst h hattempt
    have hhalf : RangeWithin declared lba (count / 2) := by
      have hinside := hrange.inside
      have hbounded := hrange.bounded
      constructor <;> omega
    have hother : RangeWithin declared (lba + count / 2) (count - count / 2) := by
      have hinside := hrange.inside
      have hbounded := hrange.bounded
      constructor <;> omega
    have hdone := ihleft hhalf (Nat.zero_le 2) hreached
    rw [hleft] at hdone
    have hnext := ihright hother (Nat.zero_le 2) hdone
    rw [Nat.add_assoc, Nat.add_sub_cancel' (Nat.div_le_self count 2)] at hnext
    rw [recoverRange, hattempt]
    simp only [if_neg hmany, hleft]
    exact hnext
  | case6 lba count first evidence s evidence' s' hattempt hmany hstopped ihleft =>
    have hreached : s'.Reached True declared lba := hrange.attempts hfirst h hattempt
    have hhalf : RangeWithin declared lba (count / 2) := by
      have hinside := hrange.inside
      have hbounded := hrange.bounded
      constructor <;> omega
    have hleaves := (ihleft hhalf (Nat.zero_le 2) hreached).sound
    rw [recoverRange, hattempt]
    simp only [if_neg hmany]
    cases hleft : recoverRange env declared lba (count / 2) 0 evidence' s' with
    | mk status rest =>
      rw [hleft] at hleaves
      cases status with
      | done => exact absurd hleft (hstopped rest.1 rest.2)
      | failed => exact hleaves
      | readFailure => exact hleaves

/-- What the first read of a group leaves, with its deferred retry. -/
structure FirstRead (mapped : Prop) (declared lba count : Nat) (result : BackendRead count)
    (ordinal : Nat) (s : CopyState) : Prop where
  reached : s.Reached mapped declared lba
  retry : ordinal ≤ 1
  failed : ∀ failure, result = .failed failure → failure.Of ⟨lba, count, ordinal⟩

theorem backendRead_first {result : BackendRead count}
    (hread : backendRead env s ⟨lba, count, ordinal⟩ absolute = (result, s')) (hretry : ordinal ≤ 1)
    (h : s.Reached mapped declared lba) :
    FirstRead mapped declared lba count result ordinal s' := by
  refine ⟨backendRead_reached hread h, hretry, ?_⟩
  intro failure hfailure
  rw [hfailure] at hread
  exact backendRead_failed hread

theorem readInitialContentWithDeferredRetry_first {result : BackendRead count}
    (hread : readInitialContentWithDeferredRetry env s lba count absolute = (result, ordinal, s'))
    (h : s.Reached mapped declared lba) :
    FirstRead mapped declared lba count result ordinal s' := by
  simp only [readInitialContentWithDeferredRetry] at hread
  cases hone : backendRead env s ⟨lba, count, 0⟩ absolute with
  | mk first s1 =>
    have hfirst := backendRead_first hone (Nat.zero_le 1) h
    rw [hone] at hread
    cases first with
    | success =>
      cases hread
      exact hfirst
    | ended =>
      cases hread
      exact hfirst
    | fatal =>
      cases hread
      exact hfirst
    | failed failure =>
      simp only at hread
      split at hread
      · cases htwo : backendRead env s1 ⟨lba, count, 1⟩ true with
        | mk second s2 =>
          rw [htwo] at hread
          cases hread
          exact backendRead_first htwo le_rfl hfirst.reached
      · cases hread
        exact hfirst

theorem CopyState.Reached.congr {other : Prop} (h : s.Reached mapped declared lba)
    (hiff : mapped ↔ other) : s.Reached other declared lba :=
  ⟨h.bytes, h.marked, fun hother => h.sized (hiff.2 hother),
    fun hother => h.unmapped fun hmapped => hother (hiff.1 hmapped), h.unproven⟩

/-- A copy, initial or not, prints what the parser is meant to accept. -/
theorem readDisc_sound {initialCopy : Option InitialCopyState}
    (hremaining : lba + remaining ≤ declared / DVD_SECTOR_SIZE_BYTES)
    (h : s.Reached (initialCopy = none) declared lba) :
    (readDisc env declared remaining initialCopy requireAbsoluteRead s).1.Sound declared := by
  induction remaining using Nat.strong_induction_on
    generalizing lba initialCopy requireAbsoluteRead s with
  | _ remaining ih =>
    rw [readDisc]
    split
    · exact CopyStatus.done_sound
    next hmore =>
      have hlba : s.bytesProcessed / DVD_SECTOR_SIZE_BYTES = lba := by
        rw [h.bytes]
        exact Nat.mul_div_cancel lba (by decide)
      subst hlba
      have hrange : RangeWithin declared (s.bytesProcessed / DVD_SECTOR_SIZE_BYTES)
          (min remaining READ_BLOCKS) := by
        constructor
        · exact Nat.lt_min.2 ⟨Nat.pos_of_ne_zero hmore, by decide⟩
        · exact Nat.min_le_right _ _
        · exact (Nat.add_le_add_left (Nat.min_le_left _ _) _).trans hremaining
      dsimp only
      generalize hread : (if s.bytesProcessed = 0 then
        readInitialContentWithDeferredRetry env s (s.bytesProcessed / DVD_SECTOR_SIZE_BYTES)
          (min remaining READ_BLOCKS) requireAbsoluteRead
        else _) = read
      obtain ⟨result, ordinal, s'⟩ := read
      have hfirst : FirstRead (initialCopy = none) declared
          (s.bytesProcessed / DVD_SECTOR_SIZE_BYTES) (min remaining READ_BLOCKS) result ordinal
          s' := by
        split at hread
        · exact readInitialContentWithDeferredRetry_first hread h
        · cases hread
          exact backendRead_first rfl (Nat.zero_le 1) h
      have hskip : ∀ {next : Option InitialCopyState} {absolute : Bool} {s'' : CopyState}
          {blocks : Nat},
          0 < blocks → blocks ≤ min remaining READ_BLOCKS →
          s''.Reached (next = none) declared (s.bytesProcessed / DVD_SECTOR_SIZE_BYTES + blocks) →
          (readDisc env declared (remaining - blocks) next absolute s'').1.Sound declared := by
        intro next absolute s'' blocks hpositive hbounded hreached
        have hle := hbounded.trans (Nat.min_le_left _ _)
        apply ih (remaining - blocks) (by omega) _ hreached
        omega
      cases result with
      | fatal => exact CopyStatus.failed_sound
      | ended => exact CopyStatus.failed_sound
      | success blocks bytes positive bounded length_bytes =>
        exact hskip positive bounded (hfirst.reached.consume blocks bytes)
      | failed failure =>
        have hof := hfirst.failed failure rfl
        have hwithin := hrange.request (hfirst.retry.trans (by decide))
        by_cases hmedium : failure.status = .mediumError
        · simp only [if_pos hmedium]
          cases initialCopy with
          | some initialCopy =>
            apply hskip hrange.positive le_rfl
            exact (hfirst.reached.consume _ _).congr (by simp)
          | none =>
            simp only
            cases hr : recoverRange env declared (s.bytesProcessed / DVD_SECTOR_SIZE_BYTES)
                (min remaining READ_BLOCKS) (ordinal + 1)
                (recordBoundaryMediumError ⟨[], false⟩ failure) s' with
            | mk status rest =>
              have hrecovered := recoverRange_leaves hrange (Nat.add_le_add_right hfirst.retry 1)
                (hfirst.reached.congr (by simp)) hr
              cases status with
              | done => exact hskip hrange.positive le_rfl (hrecovered.congr (by simp))
              | failed => exact hrecovered
              | readFailure => exact hrecovered
        · simp only [if_neg hmedium]
          by_cases hout : failure.status = .outOfRangeError
          · simp only [if_pos hout]
            apply proveBoundaryCandidate_sound hof hwithin hout hfirst.reached rfl
            intro s'' lba' hreached _ hbelow
            rw [hreached.bytes]
            exact ImageEnd.reached hof hwithin hout hbelow
          · simp only [if_neg hout]
            exact emit_plain_sound hof hwithin hmedium hout

/-- A resume's map is right up to a sector, however many bytes it counted. -/
def CopyState.MarkedTo (s : CopyState) (declared lba : Nat) : Prop :=
  ({ s with bytesProcessed := lba * DVD_SECTOR_SIZE_BYTES } : CopyState).Reached True declared lba

theorem CopyState.MarkedTo.next (h : s.MarkedTo declared lba) : s.MarkedTo declared (lba + 1) :=
  ⟨rfl, h.marked.mono (Nat.le_succ lba), h.sized, h.unmapped, h.unproven⟩

/-- Only the map of a resume matters, not its image. -/
theorem CopyState.MarkedTo.patch (h : s.MarkedTo declared lba)
    (issued : List IssuedRead) (bytes : Nat) (image : List UInt8) : ({ s with
      issued
      image
      bytesProcessed := bytes } : CopyState).MarkedTo declared lba :=
  ⟨rfl, h.marked, h.sized, h.unmapped, h.unproven⟩

/-- What the attempts at a sector leave, whichever way they ended. -/
def SectorRead.Leaves (declared lba : Nat) : SectorRead → Prop
  | .recovered s => s.MarkedTo declared lba
  | .unreadable s => s.MarkedTo declared lba
  | .stopped status _ => status.Sound declared

theorem attemptSector_leaves {evidence : BoundaryConflictEvidence} {ordinals : List Nat}
    (hdeclared : DeclaredByteCount declared)
    (hordinals : ∀ ordinal ∈ ordinals,
      ReadRequest.Within ⟨lba, 1, ordinal⟩ (declared / DVD_SECTOR_SIZE_BYTES))
    (h : s.MarkedTo declared lba) {outcome : SectorRead}
    (hattempt : attemptSector env declared lba ordinals evidence s = outcome) :
    outcome.Leaves declared lba := by
  subst hattempt
  induction ordinals generalizing evidence s with
  | nil => exact h
  | cons ordinal ordinals ih =>
    have hwithin := hordinals ordinal List.mem_cons_self
    have hrest := fun o ho => hordinals o (List.mem_cons_of_mem ordinal ho)
    cases hread : backendRead env s ⟨lba, 1, ordinal⟩ true with
    | mk result s' =>
      have hmarked : s'.MarkedTo declared lba := by
        rw [backendRead_state hread]
        exact h.patch _ _ _
      simp only [attemptSector, hread]
      cases result with
      | fatal => exact CopyStatus.failed_sound
      | ended => exact CopyStatus.failed_sound
      | success blocks bytes => exact hmarked.patch _ _ _
      | failed failure =>
        have hof := backendRead_failed hread
        have hend : ImageEnd failure declared declared := ImageEnd.whole hdeclared
        simp only
        by_cases hmedium : failure.status = .mediumError
        · rw [if_pos hmedium]
          exact ih hrest hmarked
        · rw [if_neg hmedium]
          by_cases hrange : failure.status = .outOfRangeError
          · rw [if_pos hrange]
            have hfrom : ∀ info ∈ failure.sense.informationLba, lba ≤ info :=
              fun info hinfo => (hof.information hinfo).1
            have hunproven : (emitUnprovenBoundaryFailure
                { s' with bytesProcessed := lba * DVD_SECTOR_SIZE_BYTES } failure
                declared).1.Sound declared :=
              emitUnproven_sound hof hwithin hmedium hmarked hfrom hend
            split
            · exact hunproven
            · exact proveBoundaryCandidate_sound hof hwithin hrange hmarked rfl
                fun _ _ _ _ _ => hend
          · rw [if_neg hrange]
            exact emit_plain_sound hof hwithin hmedium hrange

theorem resumeSectors_sound {prior : List UInt8} (hdeclared : DeclaredByteCount declared)
    (hinside : lba + count ≤ declared / DVD_SECTOR_SIZE_BYTES) (h : s.MarkedTo declared lba) :
    (resumeSectors env declared prior (List.range' lba count) s).1.Sound declared := by
  induction count generalizing lba s with
  | zero => exact CopyStatus.done_sound
  | succ count ih =>
    have hnext : lba + 1 + count ≤ declared / DVD_SECTOR_SIZE_BYTES := by omega
    rw [List.range'_succ, resumeSectors]
    split
    · exact ih hnext h.next
    · have hattempts : ∀ ordinal ∈ List.range RECOVERY_READ_ATTEMPTS,
          ReadRequest.Within ⟨lba, 1, ordinal⟩ (declared / DVD_SECTOR_SIZE_BYTES) := by
        intro ordinal hordinal
        have hlt := List.mem_range.1 hordinal
        simp only [RECOVERY_READ_ATTEMPTS] at hlt
        constructor <;> simp only <;> omega
      split
      next status s' hattempt => exact attemptSector_leaves hdeclared hattempts h hattempt
      next s' hattempt =>
        have hmarked : s'.MarkedTo declared lba :=
          attemptSector_leaves hdeclared hattempts h hattempt
        exact ih hnext (hmarked.patch _ _ _).next
      next s' hattempt =>
        have hmarked : s'.MarkedTo declared lba :=
          attemptSector_leaves hdeclared hattempts h hattempt
        apply ih hnext
        exact CopyState.Reached.mark hmarked (by omega) _

/-- Nothing is marked yet at the start of a copy. -/
theorem emptyRecovery_marked (n : Nat) : (emptyRecovery n).Marked 0 := by
  constructor
  · intro i hi
    rw [RecoveryState.sectorIsBad, emptyRecovery, bitmapBit_replicate] at hi
    cases hi
  · rfl
  · rfl

theorem CopyState.Reached.start (hbytes : s.bytesProcessed = lba * DVD_SECTOR_SIZE_BYTES)
    (hrecovery : s.recovery = emptyRecovery n) (hmapped : mapped → n = bitmapByteCount declared) :
    s.Reached mapped declared lba := by
  refine ⟨hbytes, ?_, ?_, ?_, ?_⟩ <;> rw [hrecovery]
  · exact (emptyRecovery_marked n).mono (Nat.zero_le lba)
  · intro h
    rw [emptyRecovery, List.length_replicate, hmapped h, bitmapByteCount]
  · intro _
    rfl
  · rfl

theorem runInitialCopy_sound : (runInitialCopy env declared).1.Sound declared := by
  rw [runInitialCopy]
  apply readDisc_sound (Nat.zero_add _).le
  exact CopyState.Reached.start rfl rfl nofun

theorem runCopy_sound : (runCopy env declared).1.Sound declared := by
  rw [runCopy]
  apply readDisc_sound (Nat.zero_add _).le
  exact CopyState.Reached.start rfl rfl fun _ => rfl

theorem runBoundaryResume_sound {image : List UInt8} :
    (runBoundaryResume env declared imageByteCount image).1.Sound declared := by
  rw [runBoundaryResume]
  split
  · exact CopyStatus.failed_sound
  next hchecked =>
    simp only [not_or, not_not] at hchecked
    have hsectors := hchecked.2.1
    have hbytes : imageByteCount =
        imageByteCount / DVD_SECTOR_SIZE_BYTES * DVD_SECTOR_SIZE_BYTES :=
      (Nat.div_mul_cancel (Nat.dvd_of_mod_eq_zero hsectors)).symm
    have hremaining : imageByteCount / DVD_SECTOR_SIZE_BYTES +
        (declared - imageByteCount) / DVD_SECTOR_SIZE_BYTES ≤ declared / DVD_SECTOR_SIZE_BYTES := by
      simp only [DVD_SECTOR_SIZE_BYTES] at hsectors ⊢
      omega
    apply readDisc_sound hremaining
    exact CopyState.Reached.start hbytes rfl fun _ => rfl

theorem runResume_sound {prior image : List UInt8} (hdeclared : DeclaredByteCount declared) :
    (runResume env declared prior count image).1.Sound declared := by
  simp only [runResume]
  split
  · exact CopyStatus.failed_sound
  · rw [List.range_eq_range']
    apply resumeSectors_sound hdeclared (Nat.zero_add _).le
    have hmarked := emptyRecovery_marked (bitmapByteCount declared)
    have hsized : (emptyRecovery (bitmapByteCount declared)).badSectorBitmap.length =
        (declared / DVD_SECTOR_SIZE_BYTES + 7) / 8 := List.length_replicate
    exact ⟨rfl, ⟨hmarked.below, hmarked.sectors, hmarked.areas⟩, fun _ => hsized,
      fun _ => rfl, rfl⟩

/-- A run of the reader on a medium, and the terminal result it ends with. -/
inductive Prints (declared : Nat) (printed : PrintedResult) : Prop
  | initialCopy (env : CopyEnvironment)
      (run : (runInitialCopy env declared).1 = .readFailure printed)
  | copy (env : CopyEnvironment) (run : (runCopy env declared).1 = .readFailure printed)
  | resume (env : CopyEnvironment) (priorBadSectorBitmap : List UInt8) (priorBadSectorCount : Nat)
      (image : List UInt8)
      (run : (runResume env declared priorBadSectorBitmap priorBadSectorCount image).1 =
        .readFailure printed)
  | boundaryResume (env : CopyEnvironment) (imageByteCount : Nat) (image : List UInt8)
      (run : (runBoundaryResume env declared imageByteCount image).1 = .readFailure printed)

theorem Prints.terminal {printed : PrintedResult} (hdeclared : DeclaredByteCount declared)
    (h : Prints declared printed) : TerminalResult printed.failure (some printed.recovery) declared
      printed.retainedImageByteCount := by
  cases h with
  | initialCopy env run => exact runInitialCopy_sound printed run
  | copy env run => exact runCopy_sound printed run
  | resume env prior count image run => exact runResume_sound hdeclared printed run
  | boundaryResume env imageByteCount image run => exact runBoundaryResume_sound printed run

/-- The parser accepts the printed line and says what the reader said; and what the archive
makes of its evidence is no medium error. -/
structure PrintedResult.Agrees (printed : PrintedResult) (declared : Nat) : Prop where
  reported : ∃ result, parseDvdReadFailureTerminalResultProtocol
      (emitReadFailureResult printed.failure (some printed.recovery) declared
        printed.retainedImageByteCount) declared = .ok result ∧
    result.Reports printed.failure (some printed.recovery) declared printed.retainedImageByteCount
  notMedium : classifyArchiveReadFailureEvidence
      printed.failure.evidence.toArchiveReadFailureScsiEvidence = .recognizedMediumError →
    printed.failure.sense.responseCode ≠ some 0x70 ∧ printed.failure.sense.responseCode ≠ some 0x72

theorem outOfRange_not_recognized {evidence : ArchiveReadFailureScsiEvidence}
    (h : isArchiveReadFailureEvidenceConsistent .outOfRange evidence = true) :
    classifyArchiveReadFailureEvidence evidence ≠ .recognizedMediumError := by
  simp only [isArchiveReadFailureEvidenceConsistent, if_true, Bool.and_eq_true,
    decide_eq_true_eq] at h
  have hkey : evidence.senseKey = some 0x05 := h.1.1.2
  rw [classifyArchiveReadFailureEvidence]
  split
  · split_ifs <;> simp_all
  · simp

/-- A terminal result never has the evidence of a medium error of its own command. -/
theorem TerminalResult.notMedium {failure : ReadFailure} {recovery : Option RecoveryState}
    (h : TerminalResult failure recovery declared retained)
    (hmedium : classifyArchiveReadFailureEvidence
      failure.evidence.toArchiveReadFailureScsiEvidence =
      .recognizedMediumError) :
    failure.sense.responseCode ≠ some 0x70 ∧ failure.sense.responseCode ≠ some 0x72 := by
  rw [← not_or, ← currentSense_evidence failure]
  intro hcurrent
  have hnormalized : normalizedReadFailureCategory failure.evidence = .recognizedMediumError := by
    rw [normalizedReadFailureCategory, if_pos hcurrent, ite_self, hmedium]
  have hclassified := classifyReadFailure_classified h.command
  rw [← h.classified] at hclassified
  have hterminal := h.terminal
  cases hclassified with
  | terminal _ hcategory =>
    rw [hnormalized] at hcategory
    cases hcategory
  | medium hstatus =>
    rw [hstatus] at hterminal
    cases hterminal
  | outOfRange _ hrange =>
    rw [outOfRangeEvidence, Bool.and_eq_true] at hrange
    exact outOfRange_not_recognized hrange.1 hmedium

/-- A terminal result without a boundary ends the copy. -/
theorem TerminalResult.plain {failure : ReadFailure} {recovery : Option RecoveryState}
    (h : TerminalResult failure recovery declared retained)
    (hstatus : failure.status ≠ .outOfRangeError) : failure.status = .terminalFailure := by
  have hterminal := h.terminal
  rw [backendReadHasTerminalFailureResult, Bool.or_eq_true, decide_eq_true_eq,
    decide_eq_true_eq] at hterminal
  exact hterminal.resolve_right hstatus

/-- Reader and parser agree on all that is printed, but on a fixed record cut after its ASC. -/
theorem prints_agrees_iff {printed : PrintedResult} (hdeclared : DeclaredByteCount declared)
    (h : Prints declared printed) :
    printed.Agrees declared ↔ ¬printed.failure.completion.CutAfterAsc := by
  have hterminal := h.terminal hdeclared
  constructor
  · intro hagrees hcut
    obtain ⟨result, hparse, _⟩ := hagrees.reported
    have hstatus : printed.failure.status ≠ .outOfRangeError := by
      intro hrange
      obtain ⟨lba, _, _, hkept⟩ := hterminal.kept hdeclared hrange
      exact hkept hcut
    rw [hterminal.parse_plain hdeclared (hterminal.plain hstatus), if_pos hcut] at hparse
    cases hparse
  · intro hcut
    refine ⟨?_, hterminal.notMedium⟩
    by_cases hstatus : printed.failure.status = .outOfRangeError
    · exact hterminal.reports_boundary hdeclared hstatus
    · exact hterminal.reports_plain hdeclared (hterminal.plain hstatus) hcut

/-- A drive that answers every read with one completion. -/
def answering (io : Option SgIo) : CopyEnvironment where
  transport _ _ := .failure io
  authorizes _ := false

/-- What is printed when the first read of an initial copy of one sector fails for good. -/
def firstReadResult (io : Option SgIo) : PrintedResult where
  failure := classifyReadFailure (readScopeEnd ⟨0, 1, 0⟩ io)
  recovery := emptyRecovery 0
  retainedImageByteCount := 0

/-- A drive that becomes ready, and says so in whole sense data. -/
theorem prints_agrees_with_sense :
    (firstReadResult (some (senseOf 0 0x02 0x04 0x01))).failure.completion.captured = true ∧
      (firstReadResult (some (senseOf 0 0x02 0x04 0x01))).Agrees 2048 := by
  refine ⟨by decide +kernel, (prints_agrees_iff ⟨by decide, by decide, by decide⟩ ?_).2 ?_⟩
  · exact .initialCopy (answering (some (senseOf 0 0x02 0x04 0x01))) (by decide +kernel)
  · decide +kernel

/-- A drive that is not ready and stops its sense data right after the ASC. -/
def notReadySense : SgIo where
  status := 0x02
  hostStatus := 0
  driverStatus := 0x08
  sbLenWr := 13
  sense := [0x70, 0, 0x02, 0, 0, 0, 0, 5, 0, 0, 0, 0, 0x04] ++ List.replicate 239 0
  length_sense := by rw [List.length_append, List.length_replicate]; rfl

theorem notReadySense_refused : Prints 2048 (firstReadResult (some notReadySense)) ∧
    ¬(firstReadResult (some notReadySense)).Agrees 2048 := by
  refine ⟨.initialCopy (answering (some notReadySense)) (by decide +kernel), ?_⟩
  intro hagrees
  obtain ⟨result, hparse, _⟩ := hagrees.reported
  have hrefused : parseDvdReadFailureTerminalResultProtocol
      (emitReadFailureResult (firstReadResult (some notReadySense)).failure
        (some (firstReadResult (some notReadySense)).recovery) 2048
        (firstReadResult (some notReadySense)).retainedImageByteCount) 2048 =
      .error READ_FAILURE_MALFORMED := by
    decide +kernel
  rw [hrefused] at hparse
  cases hparse

end RipDvd
