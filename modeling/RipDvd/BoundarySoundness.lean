import RipDvd.BoundaryRuns

namespace RipDvd
set_option autoImplicit true

variable {env : CopyEnvironment} {s s' : CopyState} {declared lba : Nat} {failure : ReadFailure}

/-- A resume before a sector: the sectors below it were tried again, the others are as before. -/
structure CopyState.Resumed (s : CopyState) (env : CopyEnvironment) (declared : Nat)
    (priorMap image : List UInt8) (lba : Nat) : Prop where
  length : s.image.length = declared
  marked : s.MarkedTo declared lba
  written : ∀ i < lba, Written env s.issued ⟨fun lba => bitmapBit priorMap lba = false, image⟩
    s.Marks i (slice s.image (i * DVD_SECTOR_SIZE_BYTES) DVD_SECTOR_SIZE_BYTES)
  rest : ∀ i, lba ≤ i → slice s.image (i * DVD_SECTOR_SIZE_BYTES) DVD_SECTOR_SIZE_BYTES =
    slice image (i * DVD_SECTOR_SIZE_BYTES) DVD_SECTOR_SIZE_BYTES

/-- How a resume may stop at a boundary that it says is proven. -/
def ResumeStop (env : CopyEnvironment) (declared : Nat) (prior : Prior) :
    CopyStatus × CopyState → Prop
  | (.readFailure printed, s) => printed.failure.status = .outOfRangeError →
    printed.recovery.boundaryProven = true → ∃ first since earlier request start count,
      ProvenImage env declared since prior s.Marks first printed s ∧
      BoundaryRequest env first since s.issued earlier request start count
  | _ => True

variable {priorMap image : List UInt8} {evidence evidence' : BoundaryConflictEvidence}
  {earlier request : List IssuedRead} {ordinal : Nat} {absolute : Bool}

/-- The attempts at one sector are one request. -/
theorem Requested.attempt (hbelow : ∀ read ∈ earlier, read.request.requestedLba < lba)
    (h : request = [] ∨ Requested env lba 1 evidence earlier request)
    (hkeeps : ∀ other, evidence.Notes other → evidence'.Notes other)
    (hnoted : ∀ other ∈ DriveRead.mediumFailure env
      ⟨(earlier ++ request).length, ⟨lba, 1, ordinal⟩⟩, evidence'.Notes other) :
    Requested env lba 1 evidence' earlier (request ++ [⟨⟨lba, 1, ordinal⟩, absolute⟩]) := by
  cases h with
  | inl hempty =>
    subst hempty
    rw [List.append_nil] at hnoted
    exact Requested.first hbelow Nat.one_pos hnoted
  | inr hrequested => exact hrequested.append le_rfl (Nat.lt_succ_self lba) hkeeps hnoted

/-- A resume whose reads change nothing else. -/
theorem CopyState.Resumed.written_probes (h : s.Resumed env declared priorMap image lba)
    (honly : s.OnlyReads s') (hi : i < lba) :
    Written env s'.issued ⟨fun lba => bitmapBit priorMap lba = false, image⟩ s'.Marks i
      (slice s'.image (i * DVD_SECTOR_SIZE_BYTES) DVD_SECTOR_SIZE_BYTES) := by
  obtain ⟨more, rfl⟩ := honly
  exact (h.written i hi).mono (List.prefix_append _ _) id

/-- A candidate that is the sector at hand is proven by its probes alone. -/
theorem proveBoundaryCandidate_here {unproven : CopyState → Nat} {printed : PrintedResult}
    (hcandidate : failure.candidateLba = lba)
    (hbytes : s.bytesProcessed = lba * DVD_SECTOR_SIZE_BYTES)
    (hrun : proveBoundaryCandidate env failure unproven declared s = (.readFailure printed, s'))
    (hproven : printed.recovery.boundaryProven = true) :
    0 < lba ∧ lba < declared / DVD_SECTOR_SIZE_BYTES ∧ ∃ s₂ confirmation,
      probeCandidate env failure lba (declared / DVD_SECTOR_SIZE_BYTES) s =
        (.agreed confirmation, s₂) ∧
      (CopyStatus.readFailure printed, s') = CopyState.emit
        { s₂ with recovery := { s₂.recovery with boundaryProven := true } } confirmation
        (lba * DVD_SECTOR_SIZE_BYTES) := by
  have hend := proveBoundaryCandidate_end env failure unproven declared s
  have hat : s.bytesProcessed / DVD_SECTOR_SIZE_BYTES = lba := by
    rw [hbytes]
    exact Nat.mul_div_cancel lba (by decide)
  rw [hrun] at hend
  generalize houtcome : (CopyStatus.readFailure printed, s') = outcome at hend ⊢
  cases hend with
  | failed s₁ => cases houtcome
  | unproven s₁ hstate =>
    cases houtcome
    cases hproven
  | proven s₁ s₂ confirmation hpositive hinside hread hprobe =>
    rw [hcandidate] at hpositive hinside hread hprobe
    rw [hat, readPrefix, if_neg (Nat.lt_irrefl lba)] at hread
    cases hread
    rw [hcandidate]
    exact ⟨hpositive, hinside, s₂, confirmation, hprobe, rfl⟩

/-- A boundary that a resume proves lies at the sector it tried. -/
theorem CopyState.Resumed.stop {unproven : CopyState → Nat}
    (h : s.Resumed env declared priorMap image lba) {s₁ : CopyState} (honly : s.OnlyReads s₁)
    (hmeets : MeetsBoundary env declared lba 1 lba earlier request failure s₁)
    (hrequested : Requested env lba 1 evidence earlier request)
    (helsewhere : ∀ other, evidence.Notes other →
      ∃ lba ∈ other.sense.informationLba, lba ≠ failure.candidateLba) :
    ResumeStop env declared ⟨fun lba => bitmapBit priorMap lba = false, image⟩
      (proveBoundaryCandidate env failure unproven declared
        { s₁ with bytesProcessed := lba * DVD_SECTOR_SIZE_BYTES }) := by
  have hcandidate : failure.candidateLba = lba := by
    have hrange := hmeets.range
    omega
  cases hrun : proveBoundaryCandidate env failure unproven declared
      { s₁ with bytesProcessed := lba * DVD_SECTOR_SIZE_BYTES } with
  | mk status s' =>
    cases status with
    | done => trivial
    | failed => trivial
    | readFailure printed =>
      intro _ hproven
      obtain ⟨hpositive, hinside, s₂, confirmation, hprobe, hemit⟩ :=
        proveBoundaryCandidate_here hcandidate rfl hrun hproven
      obtain ⟨hprobes, hprobed, hconfirmed, hinformation⟩ := probeCandidate_agreed hprobe
      cases hemit
      have hissued : s₁.issued <+: s₂.issued := hprobes.issued
      have himage : s₂.image = s.image := hprobes.image.trans honly.image
      have hmap : ((({ s₂.recovery with
        boundaryProven := true } : RecoveryState).recordBoundaryFailure
          confirmation (lba * DVD_SECTOR_SIZE_BYTES))).badSectorBitmap =
            s₁.recovery.badSectorBitmap := by
        have hsame : s₂.recovery.badSectorBitmap = s₁.recovery.badSectorBitmap :=
          congrArg RecoveryState.badSectorBitmap hprobes.recovery
        rw [recordBoundaryFailure_map]
        exact hsame
      refine ⟨failure, s₁.reads, earlier, request, lba, 1, ?_, hmeets.met hrequested helsewhere
        hissued⟩
      constructor
      case status => exact hconfirmed
      case information => exact hcandidate.symm ▸ hinformation
      case positive => exact hcandidate.symm ▸ hpositive
      case inside => exact hcandidate.symm ▸ hinside
      case retained => rw [hcandidate]
      case failed => simp only [RecoveryState.recordBoundaryFailure, if_pos hconfirmed]
      case cut => simp only [RecoveryState.recordBoundaryFailure, if_pos hconfirmed]
      case length =>
        rw [hcandidate]
        show lba * DVD_SECTOR_SIZE_BYTES ≤ s₂.image.length
        rw [himage, h.length]
        exact (Nat.mul_le_mul_right _ hinside.le).trans (Nat.div_mul_le_self declared _)
      case written =>
        intro i hi
        have hwritten := h.written_probes honly (hcandidate ▸ hi)
        have hsame : s₂.image = s₁.image := hprobes.image
        show Written env s₂.issued _ _ i (slice s₂.image _ _)
        rw [hsame]
        exact hwritten.mono hissued fun hi => hi.of_map hmap
      case probed =>
        have hsame : s₂.image = s₁.image := hprobes.image
        rw [hcandidate]
        show ProbedBoundary env _ lba s₁.reads failure s₂.image s₂.issued
        rw [hsame]
        exact hprobed

theorem CopyState.Resumed.probes (h : s.Resumed env declared priorMap image lba)
    (honly : s.OnlyReads s') : s'.Resumed env declared priorMap image lba := by
  have hwritten : ∀ i < lba, _ := fun i hi => h.written_probes honly hi
  obtain ⟨more, rfl⟩ := honly
  exact ⟨h.length, h.marked.patch _ _ _, hwritten, h.rest⟩

/-- A sector that the map does not mark stays as it was. -/
theorem CopyState.Resumed.pass (h : s.Resumed env declared priorMap image lba)
    (hclear : bitmapBit priorMap lba = false) :
    s.Resumed env declared priorMap image (lba + 1) := by
  refine ⟨h.length, h.marked.next, fun i hi => ?_, fun i hi => h.rest i (by omega)⟩
  by_cases heq : i = lba
  · subst heq
    exact .inr (.inl ⟨hclear, h.rest i le_rfl⟩)
  · exact h.written i (by omega)

/-- One sector of an image is overwritten. -/
theorem slice_sector_patch {image sector : List UInt8}
    (hsector : sector.length = DVD_SECTOR_SIZE_BYTES)
    (hinside : (lba + 1) * DVD_SECTOR_SIZE_BYTES ≤ image.length) (i : Nat) :
    slice (patch image (lba * DVD_SECTOR_SIZE_BYTES) sector) (i * DVD_SECTOR_SIZE_BYTES)
      DVD_SECTOR_SIZE_BYTES = if i = lba then sector
        else slice image (i * DVD_SECTOR_SIZE_BYTES) DVD_SECTOR_SIZE_BYTES := by
  have hfits : lba * DVD_SECTOR_SIZE_BYTES + sector.length ≤ image.length := by
    rw [hsector, ← Nat.succ_mul]
    exact hinside
  split
  next heq =>
    subst heq
    have hself := slice_patch_self hfits
    rwa [hsector] at hself
  next hne =>
    apply slice_patch_outside hfits
    rw [hsector, ← Nat.succ_mul, ← Nat.succ_mul]
    cases Nat.lt_or_gt_of_ne hne with
    | inl hlt => exact .inl (Nat.mul_le_mul_right _ hlt)
    | inr hgt => exact .inr (Nat.mul_le_mul_right _ hgt)

/-- A sector of the map is written again, as it was read or as a mark. -/
theorem CopyState.Resumed.overwrite {recovery : RecoveryState} {sector : List UInt8}
    (h : s.Resumed env declared priorMap image lba)
    (hinside : lba < declared / DVD_SECTOR_SIZE_BYTES)
    (hsector : sector.length = DVD_SECTOR_SIZE_BYTES)
    (hmarked : ({ s with recovery } : CopyState).MarkedTo declared (lba + 1))
    (hmarks : ∀ i, s.Marks i → recovery.sectorIsBad i = true)
    (hwritten : Written env s.issued ⟨fun lba => bitmapBit priorMap lba = false, image⟩
      (fun i => recovery.sectorIsBad i = true) lba sector) (bytes : Nat) :
    ({ s with
      image := patch s.image (lba * DVD_SECTOR_SIZE_BYTES) sector
      bytesProcessed := bytes
      recovery } : CopyState).Resumed env declared priorMap image (lba + 1) := by
  have hend : (lba + 1) * DVD_SECTOR_SIZE_BYTES ≤ s.image.length := by
    rw [h.length]
    exact (Nat.mul_le_mul_right _ hinside).trans (Nat.div_mul_le_self declared _)
  constructor
  case length =>
    have hfits : lba * DVD_SECTOR_SIZE_BYTES + sector.length ≤ s.image.length := by
      rw [hsector, ← Nat.succ_mul]
      exact hend
    exact (length_patch hfits).trans h.length
  case marked => exact hmarked.patch _ _ _
  case written =>
    intro i hi
    simp only [slice_sector_patch hsector hend]
    split
    next heq => exact heq ▸ hwritten
    next hne =>
      have hlt : i < lba := by omega
      exact (h.written i hlt).mono List.prefix_rfl (hmarks i)
  case rest =>
    intro i hi
    have hne : i ≠ lba := by omega
    simp only [slice_sector_patch hsector hend, if_neg hne]
    exact h.rest i (by omega)

/-- What the attempts at a sector of the map leave. -/
def SectorRead.Resumed (env : CopyEnvironment) (declared : Nat) (priorMap image : List UInt8)
    (lba : Nat) : SectorRead → Prop
  | .recovered s => s.Resumed env declared priorMap image (lba + 1) ∧
    ∀ read ∈ s.issued, read.request.requestedLba < lba + 1
  | .unreadable s => s.Resumed env declared priorMap image lba ∧
    ∀ read ∈ s.issued, read.request.requestedLba < lba + 1
  | .stopped status s =>
    ResumeStop env declared ⟨fun lba => bitmapBit priorMap lba = false, image⟩ (status, s)

theorem attemptSector_resumed {ordinals : List Nat} {outcome : SectorRead}
    (h : s.Resumed env declared priorMap image lba)
    (hinside : lba < declared / DVD_SECTOR_SIZE_BYTES)
    (hissued : s.issued = earlier ++ request)
    (hbelow : ∀ read ∈ earlier, read.request.requestedLba < lba)
    (hrequest : request = [] ∨ Requested env lba 1 evidence earlier request)
    (hattempt : attemptSector env declared lba ordinals evidence s = outcome) :
    outcome.Resumed env declared priorMap image lba := by
  subst hattempt
  induction ordinals generalizing evidence request s with
  | nil =>
    refine ⟨h, fun read hread => ?_⟩
    rw [hissued] at hread
    cases List.mem_append.1 hread with
    | inl hold => exact (hbelow read hold).trans (Nat.lt_succ_self lba)
    | inr hin =>
      cases hrequest with
      | inl hempty => rw [hempty] at hin; cases hin
      | inr hrequested => exact (hrequested.within read hin).2
  | cons ordinal ordinals ih =>
    cases hread : backendRead env s ⟨lba, 1, ordinal⟩ true with
    | mk result s' =>
      have hstate := backendRead_state hread
      have honly : s.OnlyReads s' := ⟨_, hstate⟩
      have hresumed := h.probes honly
      have hissued' : s'.issued = earlier ++ (request ++ [⟨⟨lba, 1, ordinal⟩, true⟩]) := by
        rw [hstate, hissued, List.append_assoc]
      have hnumber : (earlier ++ request).length = s.reads := by rw [← hissued]; rfl
      simp only [attemptSector, hread]
      cases result with
      | fatal => trivial
      | ended => trivial
      | success blocks bytes positive bounded length =>
        have hone : blocks = 1 := by
          simp only at bounded
          omega
        subst hone
        have hdelivered : Delivered env s'.issued lba bytes := by
          have hgiven := (backendRead_isOf hread).delivered (mem_driveReads_last hread).1
            Nat.one_pos
          have hwhole : slice bytes (0 * DVD_SECTOR_SIZE_BYTES) DVD_SECTOR_SIZE_BYTES = bytes := by
            rw [Nat.zero_mul, slice, List.drop_zero]
            exact List.take_of_length_le (by rw [length, Nat.one_mul])
          rw [hwhole] at hgiven
          exact hgiven
        refine ⟨?_, fun read hr => ?_⟩
        · exact hresumed.overwrite hinside (by rw [length, Nat.one_mul]) hresumed.marked.next
            (fun i hi => hi) (.inl hdelivered) _
        · have hin : read ∈ s'.issued := hr
          rw [hissued'] at hin
          rcases List.mem_append.1 hin with hold | hin
          · exact (hbelow read hold).trans (Nat.lt_succ_self lba)
          · rcases List.mem_append.1 hin with hin | hlast
            · cases hrequest with
              | inl hempty => rw [hempty] at hin; cases hin
              | inr hrequested => exact (hrequested.within read hin).2
            · rw [List.mem_singleton.1 hlast]
              exact Nat.lt_succ_self lba
      | failed failure =>
        have hisOf : DriveRead.failure env ⟨s.reads, ⟨lba, 1, ordinal⟩⟩ = some failure :=
          backendRead_isOf hread
        simp only
        by_cases hmedium : failure.status = .mediumError
        · rw [if_pos hmedium]
          apply ih hresumed hissued' (.inr ?_)
          apply Requested.attempt hbelow hrequest fun other hother => hother.record failure
          rw [hnumber, mediumFailure_of_failure hisOf, if_pos hmedium]
          intro other hother
          cases hother
          exact recordBoundaryMediumError_notes evidence failure
        · rw [if_neg hmedium]
          by_cases hrange : failure.status = .outOfRangeError
          · rw [if_pos hrange]
            split
            · intro _ hproven
              cases hproven
            next hclear =>
              have hrequested : Requested env lba 1 evidence earlier
                  (request ++ [⟨⟨lba, 1, ordinal⟩, true⟩]) := by
                apply Requested.attempt hbelow hrequest fun other hother => hother
                rw [hnumber, mediumFailure_of_status hisOf hmedium]
                intro other hother
                cases hother
              have hcandidate := (backendRead_failed hread).candidate hrange
              obtain ⟨hmem, hreads⟩ := mem_driveReads_last hread
              have hmeets : MeetsBoundary env declared lba 1 lba earlier
                  (request ++ [⟨⟨lba, 1, ordinal⟩, true⟩]) failure s' :=
                ⟨hissued', hcandidate, hcandidate.1, ⟨_, hmem, hreads.symm, hisOf⟩, hrange⟩
              exact h.stop honly hmeets hrequested fun other hother => hother.elsewhere hclear
          · rw [if_neg hrange]
            exact fun hstatus => absurd hstatus hrange

theorem CopyState.Resumed.mark (h : s.Resumed env declared priorMap image lba)
    (hinside : lba < declared / DVD_SECTOR_SIZE_BYTES) (bytes : Nat) :
    ({ s with
      image := patch s.image (lba * DVD_SECTOR_SIZE_BYTES) (zeroSectors 1)
      bytesProcessed := bytes
      recovery := s.recovery.markBadSector lba } : CopyState).Resumed env declared priorMap image
      (lba + 1) := by
  have hsized : s.recovery.badSectorBitmap.length = (declared / DVD_SECTOR_SIZE_BYTES + 7) / 8 :=
    h.marked.sized trivial
  have hwidth : lba < 8 * s.recovery.badSectorBitmap.length := by omega
  have hself : (s.recovery.markBadSector lba).sectorIsBad lba = true := by
    rw [markBadSector_bit hwidth, decide_eq_true rfl, Bool.true_or]
  have hmarked : ({ s with recovery := s.recovery.markBadSector lba } : CopyState).MarkedTo declared
      (lba + 1) := CopyState.Reached.mark h.marked hinside s.image
  apply h.overwrite hinside List.length_replicate hmarked
  · intro i hi
    rw [markBadSector_bit hwidth, hi, Bool.or_true]
  · exact .inr (.inr ⟨hself, rfl⟩)

/-- A resume that stops at a boundary as proven has tried every sector of its map below it. -/
theorem resumeSectors_stop (hinside : lba + count ≤ declared / DVD_SECTOR_SIZE_BYTES)
    (h : s.Resumed env declared priorMap image lba)
    (hbelow : ∀ read ∈ s.issued, read.request.requestedLba < lba) :
    ResumeStop env declared ⟨fun lba => bitmapBit priorMap lba = false, image⟩
      (resumeSectors env declared priorMap (List.range' lba count) s) := by
  induction count generalizing lba s with
  | zero => trivial
  | succ count ih =>
    have hnext : lba + 1 + count ≤ declared / DVD_SECTOR_SIZE_BYTES := by omega
    have hlba : lba < declared / DVD_SECTOR_SIZE_BYTES := by omega
    rw [List.range'_succ, resumeSectors]
    split
    next hclear =>
      rw [Bool.not_eq_true] at hclear
      exact ih hnext (h.pass hclear) fun read hr => (hbelow read hr).trans (Nat.lt_succ_self lba)
    next =>
      have hattempted : (attemptSector env declared lba (List.range RECOVERY_READ_ATTEMPTS)
          ⟨[], false⟩ s).Resumed env declared priorMap image lba :=
        attemptSector_resumed h hlba (List.append_nil _).symm hbelow (.inl rfl) rfl
      split
      next status s' hattempt =>
        rw [hattempt] at hattempted
        exact hattempted
      next s' hattempt =>
        rw [hattempt] at hattempted
        obtain ⟨hresumed, hissued⟩ := hattempted
        have hcounted : ({ s' with
            bytesProcessed := s'.bytesProcessed + DVD_SECTOR_SIZE_BYTES } : CopyState).Resumed env
            declared priorMap image (lba + 1) :=
          ⟨hresumed.length, hresumed.marked.patch _ _ _, hresumed.written, hresumed.rest⟩
        exact ih hnext hcounted hissued
      next s' hattempt =>
        rw [hattempt] at hattempted
        obtain ⟨hresumed, hissued⟩ := hattempted
        exact ih hnext (hresumed.mark hlba _) hissued

end RipDvd
