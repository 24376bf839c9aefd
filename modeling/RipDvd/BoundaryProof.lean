import RipDvd.CopyExactness

namespace RipDvd
set_option autoImplicit true

/-- A read of one sector that failed because the sector lies beyond the end of the medium. -/
structure DriveRead.Beyond (env : CopyEnvironment) (lba : Nat) (failure : ReadFailure)
    (read : DriveRead) : Prop where
  asked : read.request.requestedLba = lba
  count : read.request.requestedBlockCount = 1
  failed : read.failure env = some failure
  status : failure.status = .outOfRangeError
  information : failure.sense.informationLba = some lba

/-- The reads that prove a boundary, all of them after the reads of the copy. -/
structure ProbedBoundary (env : CopyEnvironment) (total candidate since : Nat)
    (first : ReadFailure) (image : List UInt8) (issued : List IssuedRead) : Prop where
  preceding : ∃ read ∈ driveReads issued, since ≤ read.number ∧
    read.request = ⟨candidate - 1, 1, 0⟩ ∧
    read.bytes env = slice image ((candidate - 1) * DVD_SECTOR_SIZE_BYTES) DVD_SECTOR_SIZE_BYTES
  confirmed : ∀ ordinal < BOUNDARY_CONFIRMATION_READS, ∃ read ∈ driveReads issued,
    since ≤ read.number ∧ read.request.retryOrdinal = ordinal ∧
    ∃ failure, read.Beyond env candidate failure ∧
      normalizedFailureEvidenceMatches first failure = true
  above : ∀ probe ∈ [candidate + 1, total - 1], probe < total → probe ≠ candidate →
    ∃ read ∈ driveReads issued, since ≤ read.number ∧ ∃ failure, read.Beyond env probe failure

/-- The sector that a failure says it met the end of the medium at. -/
def ReadFailure.candidateLba (failure : ReadFailure) : Nat := failure.sense.informationLba.getD 0

variable {env : CopyEnvironment} {s s' : CopyState} {candidate total : Nat}

theorem CopyState.OnlyReads.issued (h : s.OnlyReads s') : s.issued <+: s'.issued := by
  obtain ⟨probes, rfl⟩ := h
  exact List.prefix_append _ _

theorem CopyState.OnlyReads.image (h : s.OnlyReads s') : s'.image = s.image := by
  obtain ⟨probes, rfl⟩ := h
  rfl

theorem CopyState.OnlyReads.recovery (h : s.OnlyReads s') : s'.recovery = s.recovery := by
  obtain ⟨probes, rfl⟩ := h
  rfl

theorem CopyState.OnlyReads.reads (h : s.OnlyReads s') : s.reads ≤ s'.reads :=
  h.issued.length_le

/-- A probe that the parent agreed to is one more read. -/
theorem boundaryProbeRead_issued {request : ReadRequest}
    {result : BackendRead request.requestedBlockCount}
    (hread : boundaryProbeRead env s request = (result, s')) (hfatal : result ≠ .fatal) :
    s.OnlyReads s' ∧ result.IsOf env ⟨s.reads, request⟩ ∧
      ⟨s.reads, request⟩ ∈ driveReads s'.issued := by
  simp only [boundaryProbeRead] at hread
  split at hread
  · cases hread
    exact absurd rfl hfatal
  · split at hread
    · cases hread
      exact absurd rfl hfatal
    · have hstate := backendRead_state hread
      refine ⟨⟨_, hstate⟩, backendRead_isOf hread, ?_⟩
      rw [hstate, driveReads_append]
      exact List.mem_append_right _ List.mem_cons_self

theorem precedingAgrees_agreed (h : precedingAgrees env candidate s = (.agreed (), s')) :
    s.OnlyReads s' ∧ ∃ read ∈ driveReads s'.issued, s.reads ≤ read.number ∧
      read.request = ⟨candidate - 1, 1, 0⟩ ∧ read.bytes env =
        slice s.image ((candidate - 1) * DVD_SECTOR_SIZE_BYTES) DVD_SECTOR_SIZE_BYTES := by
  simp only [precedingAgrees] at h
  split at h
  · cases h
  · cases hread : boundaryProbeRead env s ⟨candidate - 1, 1, 0⟩ with
    | mk result s1 =>
      rw [hread] at h
      cases result with
      | fatal => cases h
      | failed => cases h
      | ended => cases h
      | success blocks bytes =>
        obtain ⟨hprobes, hisOf, hmem⟩ := boundaryProbeRead_issued hread (by simp)
        simp only at h
        split at h
        next hsame =>
          cases h
          exact ⟨hprobes, _, hmem, le_rfl, rfl, hisOf.1.trans hsame⟩
        next => cases h

/-- A probe that is out of range at its sector, as a read of the copy. -/
theorem outOfRangeAt_beyond {result : BackendRead 1} {failure : ReadFailure}
    (hread : boundaryProbeRead env s ⟨lba, 1, ordinal⟩ = (result, s'))
    (hat : outOfRangeAt lba result = some failure) :
    s.OnlyReads s' ∧ ⟨s.reads, ⟨lba, 1, ordinal⟩⟩ ∈ driveReads s'.issued ∧
      DriveRead.Beyond env lba failure ⟨s.reads, ⟨lba, 1, ordinal⟩⟩ := by
  obtain ⟨hresult, hstatus, hinformation⟩ := outOfRangeAt_some hat
  subst hresult
  obtain ⟨hprobes, hisOf, hmem⟩ := boundaryProbeRead_issued hread nofun
  exact ⟨hprobes, hmem, rfl, rfl, hisOf, hstatus, hinformation⟩

theorem confirmCandidate_agreed {initial : ReadFailure} {ordinals : List Nat}
    {confirmation last : Option ReadFailure}
    (h : confirmCandidate env initial candidate ordinals confirmation s = (.agreed last, s')) :
    s.OnlyReads s' ∧ ∀ ordinal ∈ ordinals, ∃ read ∈ driveReads s'.issued, s.reads ≤ read.number ∧
      read.request.retryOrdinal = ordinal ∧ ∃ failure, read.Beyond env candidate failure ∧
        normalizedFailureEvidenceMatches initial failure = true := by
  induction ordinals generalizing confirmation s with
  | nil =>
    cases h
    exact ⟨.refl _, fun ordinal ho => (nomatch ho)⟩
  | cons ordinal ordinals ih =>
    cases hread : boundaryProbeRead env s ⟨candidate, 1, ordinal⟩ with
    | mk result s1 =>
      simp only [confirmCandidate, hread] at h
      cases result with
      | fatal => cases h
      | ended => cases h
      | success => cases h
      | failed failure =>
        simp only at h
        split at h
        · cases h
        next other hat =>
          split at h
          next hmatches =>
            obtain ⟨hprobe, hmem, hbeyond⟩ := outOfRangeAt_beyond hread hat
            obtain ⟨hprobes, hrest⟩ := ih h
            refine ⟨hprobe.trans hprobes, fun o ho => ?_⟩
            cases List.mem_cons.1 ho with
            | inl heq =>
              subst heq
              exact ⟨_, driveReads_mono hprobes.issued hmem, le_rfl, rfl, other, hbeyond, hmatches⟩
            | inr ho =>
              obtain ⟨read, hread', hnumber, hrest'⟩ := hrest o ho
              exact ⟨read, hread', hprobe.reads.trans hnumber, hrest'⟩
          next => cases h

/-- The confirmation of a candidate is out of range at it. -/
theorem confirmCandidate_confirmation {initial : ReadFailure} {ordinals : List Nat}
    {confirmation last : Option ReadFailure}
    (h : confirmCandidate env initial candidate ordinals confirmation s = (.agreed last, s'))
    (hconfirmation : ∀ failure ∈ confirmation, failure.status = .outOfRangeError ∧
      failure.sense.informationLba = some candidate) :
    ∀ failure ∈ last, failure.status = .outOfRangeError ∧
      failure.sense.informationLba = some candidate := by
  induction ordinals generalizing confirmation s with
  | nil =>
    cases h
    exact hconfirmation
  | cons ordinal ordinals ih =>
    cases hread : boundaryProbeRead env s ⟨candidate, 1, ordinal⟩ with
    | mk result s1 =>
      simp only [confirmCandidate, hread] at h
      cases result with
      | fatal => cases h
      | ended => cases h
      | success => cases h
      | failed failure =>
        simp only at h
        split at h
        · cases h
        next other hat =>
          split at h
          · apply ih h
            intro failure hfailure
            cases hfailure
            exact (outOfRangeAt_some hat).2
          · cases h

theorem probeUpper_agreed {probes : List Nat} {previous : Nat}
    (h : probeUpper env total probes previous s = (.agreed (), s')) :
    s.OnlyReads s' ∧ ∀ probe ∈ probes, probe < total → probe ≠ previous →
      ∃ read ∈ driveReads s'.issued, s.reads ≤ read.number ∧
        ∃ failure, read.Beyond env probe failure := by
  induction probes generalizing previous s with
  | nil =>
    cases h
    exact ⟨.refl _, fun probe hp => (nomatch hp)⟩
  | cons probe probes ih =>
    simp only [probeUpper] at h
    split at h
    next hskip =>
      obtain ⟨hprobes, hrest⟩ := ih h
      refine ⟨hprobes, fun other ho hlt hne => ?_⟩
      cases List.mem_cons.1 ho with
      | inl heq =>
        subst heq
        exact absurd (hskip.resolve_left (Nat.not_le.2 hlt)) hne
      | inr ho => exact hrest other ho hlt hne
    next =>
      cases hread : boundaryProbeRead env s ⟨probe, 1, 0⟩ with
      | mk result s1 =>
        rw [hread] at h
        cases result with
        | fatal => cases h
        | ended => cases h
        | success => cases h
        | failed failure =>
          simp only at h
          split at h
          · cases h
          next other hat =>
            obtain ⟨hprobe, hmem, hbeyond⟩ := outOfRangeAt_beyond hread hat
            obtain ⟨hprobes, hrest⟩ := ih h
            have hself : ∃ read ∈ driveReads s'.issued, s.reads ≤ read.number ∧
                ∃ failure, read.Beyond env probe failure :=
              ⟨_, driveReads_mono hprobes.issued hmem, le_rfl, other, hbeyond⟩
            refine ⟨hprobe.trans hprobes, fun next hn hlt hne => ?_⟩
            -- a later probe of the same sector is left out: it was made already
            by_cases heq : next = probe
            · exact heq ▸ hself
            · have hin := (List.mem_cons.1 hn).resolve_left heq
              obtain ⟨read, hread', hnumber, hbeyond'⟩ := hrest next hin hlt heq
              exact ⟨read, hread', hprobe.reads.trans hnumber, hbeyond'⟩

/-- Probes that agree are the reads that prove the boundary. -/
theorem probeCandidate_agreed {initial confirmation : ReadFailure}
    (h : probeCandidate env initial candidate total s = (.agreed confirmation, s')) :
    s.OnlyReads s' ∧
      ProbedBoundary env total candidate s.reads initial s.image s'.issued ∧
      confirmation.status = .outOfRangeError ∧
      confirmation.sense.informationLba = some candidate := by
  simp only [probeCandidate] at h
  cases hp : precedingAgrees env candidate s with
  | mk outcome s1 =>
    rw [hp] at h
    cases outcome with
    | fatal => cases h
    | disagreed => cases h
    | agreed =>
      obtain ⟨h1, read, hmem, hnumber, hrequest, hbytes⟩ := precedingAgrees_agreed hp
      have hnone : ∀ failure ∈ (none : Option ReadFailure), failure.status = .outOfRangeError ∧
          failure.sense.informationLba = some candidate := by
        intro failure hfailure
        cases hfailure
      simp only at h
      cases hc : confirmCandidate env initial candidate (List.range BOUNDARY_CONFIRMATION_READS)
          none s1 with
      | mk outcome s2 =>
        rw [hc] at h
        cases outcome with
        | fatal => cases h
        | disagreed => cases h
        | agreed last =>
          obtain ⟨h2, hconfirmed⟩ := confirmCandidate_agreed hc
          have hlast := confirmCandidate_confirmation hc hnone
          cases last with
          | none => cases h
          | some last =>
            simp only at h
            cases hu : probeUpper env total [candidate + 1, total - 1] candidate s2 with
            | mk outcome s3 =>
              rw [hu] at h
              cases outcome with
              | fatal => cases h
              | disagreed => cases h
              | agreed =>
                cases h
                obtain ⟨h3, habove⟩ := probeUpper_agreed hu
                refine ⟨h1.trans (h2.trans h3), ⟨?_, ?_, ?_⟩, hlast _ rfl⟩
                · exact ⟨read, driveReads_mono (h2.trans h3).issued hmem, hnumber, hrequest, hbytes⟩
                · intro ordinal ho
                  obtain ⟨read, hr, hn, hrest⟩ := hconfirmed ordinal (List.mem_range.2 ho)
                  exact ⟨read, driveReads_mono h3.issued hr, h1.reads.trans hn, hrest⟩
                · intro probe hprobe hlt hne
                  obtain ⟨read, hr, hn, hrest⟩ := habove probe hprobe hlt hne
                  exact ⟨read, hr, (h1.trans h2).reads.trans hn, hrest⟩

/-- What a copy started from: the sectors that it kept, and what they were. -/
structure Prior where
  kept : Nat → Prop
  image : List UInt8

/-- A sector of an image was read, was kept from before, or is marked and zeros. -/
def Written (env : CopyEnvironment) (issued : List IssuedRead) (prior : Prior)
    (marked : Nat → Prop) (lba : Nat) (sector : List UInt8) : Prop :=
  Delivered env issued lba sector ∨
    (prior.kept lba ∧
      sector = slice prior.image (lba * DVD_SECTOR_SIZE_BYTES) DVD_SECTOR_SIZE_BYTES) ∨
    (marked lba ∧ sector = zeroSectors 1)

theorem Written.mono {issued later : List IssuedRead} {marked marked' : Nat → Prop}
    (h : Written env issued prior marked lba sector) (hissued : issued <+: later)
    (hmarked : marked lba → marked' lba) : Written env later prior marked' lba sector := by
  cases h with
  | inl hdelivered => exact .inl (hdelivered.mono hissued)
  | inr hrest =>
    cases hrest with
    | inl hkept => exact .inr (.inl hkept)
    | inr hzeros => exact .inr (.inr ⟨hmarked hzeros.1, hzeros.2⟩)

/-- An image without a gap up to a sector, and where its sectors come from. -/
structure CopyState.Filled (s : CopyState) (env : CopyEnvironment) (prior : Prior)
    (marked : Nat → Prop) (lba : Nat) : Prop where
  bytes : s.bytesProcessed = lba * DVD_SECTOR_SIZE_BYTES
  length : s.image.length = lba * DVD_SECTOR_SIZE_BYTES
  written : ∀ i < lba, Written env s.issued prior marked i
    (slice s.image (i * DVD_SECTOR_SIZE_BYTES) DVD_SECTOR_SIZE_BYTES)

variable {prior : Prior} {marked marked' : Nat → Prop} {lba : Nat}

theorem CopyState.Filled.probes (h : s.Filled env prior marked lba) (hprobes : s.OnlyReads s') :
    s'.Filled env prior marked lba := by
  obtain ⟨probes, rfl⟩ := hprobes
  refine ⟨h.bytes, h.length, fun i hi => ?_⟩
  exact (h.written i hi).mono (List.prefix_append _ _) id

theorem CopyState.Filled.marks (h : s.Filled env prior marked lba)
    (hmarked : ∀ i, marked i → marked' i) : s.Filled env prior marked' lba :=
  ⟨h.bytes, h.length, fun i hi => (h.written i hi).mono List.prefix_rfl (hmarked i)⟩

theorem CopyState.Filled.atLba (h : s.Filled env prior marked lba) :
    s.bytesProcessed / DVD_SECTOR_SIZE_BYTES = lba := by
  rw [h.bytes]
  exact Nat.mul_div_cancel lba (by decide)

/-- Sectors go on a filled image when each of them was written. -/
theorem CopyState.Filled.consume (h : s.Filled env prior marked lba) {bytes : List UInt8}
    (hlength : bytes.length = blocks * DVD_SECTOR_SIZE_BYTES)
    (hwritten : ∀ offset < blocks, Written env s.issued prior marked (lba + offset)
      (slice bytes (offset * DVD_SECTOR_SIZE_BYTES) DVD_SECTOR_SIZE_BYTES)) :
    (s.consumeBlocks blocks bytes).Filled env prior marked (lba + blocks) := by
  constructor
  case bytes => rw [CopyState.consumeBlocks, h.bytes, Nat.add_mul]
  case length => rw [CopyState.consumeBlocks, List.length_append, h.length, hlength, Nat.add_mul]
  case written =>
    intro i hi
    by_cases hold : i < lba
    · rw [CopyState.consumeBlocks, slice_sector_append h.length hold]
      exact h.written i hold
    · obtain ⟨offset, rfl⟩ := Nat.exists_eq_add_of_le (Nat.le_of_not_lt hold)
      rw [CopyState.consumeBlocks, slice_sector_behind h.length]
      exact hwritten offset (by omega)

/-- The sectors of a read that succeeds are written. -/
theorem BackendRead.IsOf.delivered {request : ReadRequest} {number blocks : Nat}
    {bytes : List UInt8} {positive : 0 < blocks}
    {bounded : blocks ≤ request.requestedBlockCount}
    {length : bytes.length = blocks * DVD_SECTOR_SIZE_BYTES} {issued : List IssuedRead}
    (hisOf : BackendRead.IsOf env ⟨number, request⟩
      (.success blocks bytes positive bounded length : BackendRead request.requestedBlockCount))
    (hmem : ⟨number, request⟩ ∈ driveReads issued) (hoffset : offset < blocks) :
    Delivered env issued (request.requestedLba + offset)
      (slice bytes (offset * DVD_SECTOR_SIZE_BYTES) DVD_SECTOR_SIZE_BYTES) := by
  have hbytes := hisOf.1
  refine ⟨_, hmem, (DriveRead.gives_iff (by rw [hbytes]; exact length)).2 ?_⟩
  rw [hbytes]
  exact ⟨offset, hoffset, rfl, rfl⟩

/-- How the image grew while sectors before a candidate were read on. -/
def PrefixRead.Fills (env : CopyEnvironment) (prior : Prior) (marked : Nat → Prop)
    (s : CopyState) (lba candidate : Nat) : PrefixRead → Prop
  | .reached s' => s'.Filled env prior marked candidate ∧ s.issued <+: s'.issued ∧
    s'.recovery = s.recovery
  | .refused s' => ∃ lba', lba ≤ lba' ∧ s'.Filled env prior marked lba' ∧
    s.issued <+: s'.issued ∧ s'.recovery = s.recovery
  | .fatal _ => True

theorem readPrefix_fills (h : s.Filled env prior marked lba) (hle : lba ≤ candidate) :
    (readPrefix env candidate lba s).Fills env prior marked s lba candidate := by
  induction lba, s using readPrefix.induct env candidate with
  | case1 lba s hlt s' hread =>
    rw [readPrefix, if_pos hlt, hread]
    trivial
  | case2 lba s hlt blocks bytes positive bounded length s' hread ih =>
    have hblocks : lba + blocks ≤ candidate := by
      have hb := bounded
      simp only at hb
      omega
    obtain ⟨hprobes, hisOf, hmem⟩ := boundaryProbeRead_issued hread (by simp)
    have hnext := (h.probes hprobes).consume length fun offset ho =>
      .inl (hisOf.delivered hmem ho)
    have hrest := ih hnext hblocks
    rw [readPrefix, if_pos hlt, hread]
    simp only
    cases hp : readPrefix env candidate (lba + blocks) (s'.consumeBlocks blocks bytes) with
    | fatal => trivial
    | reached s'' =>
      rw [hp] at hrest
      obtain ⟨hfilled, hissued, hsame⟩ := hrest
      exact ⟨hfilled, hprobes.issued.trans hissued, hsame.trans hprobes.recovery⟩
    | refused s'' =>
      rw [hp] at hrest
      obtain ⟨lba', hfrom, hfilled, hissued, hsame⟩ := hrest
      exact ⟨lba', (Nat.le_add_right lba blocks).trans hfrom, hfilled,
        hprobes.issued.trans hissued, hsame.trans hprobes.recovery⟩
  | case3 lba s hlt result s' hfatal hsuccess hread =>
    obtain ⟨hprobes, -, -⟩ := boundaryProbeRead_issued hread hfatal
    have hkept : (PrefixRead.refused s').Fills env prior marked s lba candidate :=
      ⟨lba, le_rfl, h.probes hprobes, hprobes.issued, hprobes.recovery⟩
    rw [readPrefix, if_pos hlt, hread]
    cases result with
    | fatal => exact absurd rfl hfatal
    | success => exact absurd rfl (hsuccess _ _ _ _ _)
    | failed => exact hkept
    | ended => exact hkept
  | case4 lba s hge =>
    have heq : lba = candidate := by omega
    rw [readPrefix, if_neg hge]
    exact ⟨heq ▸ h, List.prefix_rfl, rfl⟩

/-- How a boundary proof ends, and what it went through. -/
inductive BoundaryProofEnd (env : CopyEnvironment) (failure : ReadFailure)
    (unproven : CopyState → Nat) (declared : Nat) (s : CopyState) : CopyStatus × CopyState → Prop
  | failed (s' : CopyState) : BoundaryProofEnd env failure unproven declared s (.failed, s')
  | unproven (s₁ : CopyState) (hstate : s₁ = s ∨
      readPrefix env failure.candidateLba (s.bytesProcessed / DVD_SECTOR_SIZE_BYTES) s =
        .refused s₁ ∨
      ∃ s₀, readPrefix env failure.candidateLba (s.bytesProcessed / DVD_SECTOR_SIZE_BYTES) s =
        .reached s₀ ∧ s₀.OnlyReads s₁) :
      BoundaryProofEnd env failure unproven declared s
        (emitUnprovenBoundaryFailure s₁ failure (unproven s₁))
  | proven (s₁ s₂ : CopyState) (confirmation : ReadFailure)
      (hpositive : 0 < failure.candidateLba)
      (hinside : failure.candidateLba < declared / DVD_SECTOR_SIZE_BYTES)
      (hread : readPrefix env failure.candidateLba (s.bytesProcessed / DVD_SECTOR_SIZE_BYTES) s =
        .reached s₁)
      (hprobe : probeCandidate env failure failure.candidateLba
        (declared / DVD_SECTOR_SIZE_BYTES) s₁ =
        (.agreed confirmation, s₂)) :
      BoundaryProofEnd env failure unproven declared s (CopyState.emit
        { s₂ with recovery := { s₂.recovery with boundaryProven := true } } confirmation
        (failure.candidateLba * DVD_SECTOR_SIZE_BYTES))

theorem proveBoundaryCandidate_end (env : CopyEnvironment) (failure : ReadFailure)
    (unproven : CopyState → Nat) (declared : Nat) (s : CopyState) :
    BoundaryProofEnd env failure unproven declared s
      (proveBoundaryCandidate env failure unproven declared s) := by
  simp only [proveBoundaryCandidate]
  split
  · exact .unproven s (.inl rfl)
  next hchecked =>
    simp only [not_or] at hchecked
    have hpositive : 0 < failure.candidateLba := Nat.pos_of_ne_zero hchecked.2.1
    have hinside : failure.candidateLba < declared / DVD_SECTOR_SIZE_BYTES :=
      Nat.lt_of_not_le hchecked.2.2.1
    split
    next s₁ hread => exact .failed s₁
    next s₁ hread => exact .unproven s₁ (.inr (.inl hread))
    next s₁ hread =>
      have honly := probeCandidate_onlyReads env failure failure.candidateLba
        (declared / DVD_SECTOR_SIZE_BYTES) s₁
      split
      next s₂ hprobe => exact .failed s₂
      next s₂ hprobe =>
        have hsame : (probeCandidate env failure failure.candidateLba
            (declared / DVD_SECTOR_SIZE_BYTES) s₁).2 = s₂ := congrArg Prod.snd hprobe
        rw [hsame] at honly
        exact .unproven s₂ (.inr (.inr ⟨s₁, hread, honly⟩))
      next confirmation s₂ hprobe => exact .proven s₁ s₂ confirmation hpositive hinside hread hprobe

/-- A map without a count has no marks. -/
def RecoveryState.Counted (recovery : RecoveryState) : Prop :=
  recovery.badSectorCount = 0 → ∀ lba, recovery.sectorIsBad lba = false

theorem RecoveryState.Marked.isCounted {recovery : RecoveryState} (h : recovery.Marked bound) :
    recovery.Counted := by
  intro hzero lba
  rw [← Bool.not_eq_true]
  intro hbad
  have hnone := Nat.count_iff_forall_not.1 (h.sectors.symm.trans hzero)
  exact hnone lba (h.below lba hbad) hbad

theorem sectorIsBad_lt {recovery : RecoveryState} (h : recovery.sectorIsBad lba = true) :
    lba < recovery.badSectorBitmap.length * 8 := by
  by_contra hout
  rw [RecoveryState.sectorIsBad, bitmapBit_of_length_le (by omega)] at h
  cases h

/-- What is retained of an image ends before its first marked sector. -/
theorem boundaryRetainedImageByteCount_clear {recovery : RecoveryState} (h : recovery.Counted)
    (hbytes : bytes % DVD_SECTOR_SIZE_BYTES = 0) :
    boundaryRetainedImageByteCount (some recovery) bytes ≤ bytes ∧
      boundaryRetainedImageByteCount (some recovery) bytes % DVD_SECTOR_SIZE_BYTES = 0 ∧
      ∀ lba, lba * DVD_SECTOR_SIZE_BYTES < boundaryRetainedImageByteCount (some recovery) bytes →
        recovery.sectorIsBad lba = false := by
  simp only [boundaryRetainedImageByteCount]
  split
  next hzero => exact ⟨le_rfl, hbytes, fun lba _ => h hzero lba⟩
  next hcount =>
    split
    next first hfirst =>
      refine ⟨Nat.min_le_right _ _, ?_, fun lba hlba => ?_⟩
      · cases Nat.le_total (first * DVD_SECTOR_SIZE_BYTES) bytes with
        | inl hle => rw [Nat.min_eq_left hle, Nat.mul_mod_left]
        | inr hle => rw [Nat.min_eq_right hle, hbytes]
      · rw [← Bool.not_eq_true]
        intro hbad
        have hlt : lba < first :=
          Nat.lt_of_mul_lt_mul_right (hlba.trans_le (Nat.min_le_left _ _))
        have hnot := (List.find?_range_eq_some.1 hfirst).2.2 lba hlt
        rw [hbad] at hnot
        cases hnot
    next hnone =>
      refine ⟨le_rfl, hbytes, fun lba _ => ?_⟩
      rw [← Bool.not_eq_true]
      intro hbad
      exact List.find?_eq_none.1 hnone lba (List.mem_range.2 (sectorIsBad_lt hbad)) hbad

end RipDvd
