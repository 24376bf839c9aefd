import RipDvd.Batch

namespace RipDvd
set_option autoImplicit true

/-- Evidence a reader has accepted: what every checkpoint of a chain shares with its root. -/
structure SoundEvidence (sha256 : Hashed → Digest) (initial : CommittedDvdInitialEvidence)
    (evidence : CommittedDvdCheckpointEvidence) : Prop where
  archiveId : evidence.manifest.originalDiscArchiveId = initial.originalDiscArchiveId
  immutable : ¬changedImmutableEvidence evidence.manifest initial.toEvidenceManifest
  boundary : evidence.boundaryEvidence = initial.boundaryEvidence
  job : evidence.sourceArchiveJobId = initial.sourceArchiveJobId
  root : evidence.rootPublicationDigest = initial.publicationDigest
  revision : 1 ≤ evidence.manifest.revision
  id_length : evidence.manifest.id.length ≠ 0 ∧ evidence.manifest.id.length ≤ 256
  digests : assertDvdArchiveEvidenceManifestDigests sha256 evidence.manifest = .ok ()

variable {sha256 : Hashed → Digest}

theorem isArchivePathId_length {id : String} (h : isArchivePathId id = true) :
    1 ≤ id.length ∧ id.length ≤ 128 := by
  rw [isArchivePathId] at h
  have hl : id.length = id.toList.length := String.length_toList.symm
  cases ht : id.toList with
  | nil => simp [ht] at h
  | cons first rest =>
    simp only [ht, Bool.and_eq_true, decide_eq_true_eq] at h
    rw [hl, ht, List.length_cons]
    omega

theorem changedImmutableEvidence_refl (a : EvidenceManifest) : ¬changedImmutableEvidence a a := by
  simp [changedImmutableEvidence]

theorem assertInitialManifest_ok (h : assertInitialManifest sha256 manifest archive jobs = .ok u) :
    assertDvdArchiveEvidenceManifestDigests sha256 manifest.toEvidenceManifest = .ok () ∧
      manifest.originalDiscArchiveId = archive.id ∧ manifest.revision = 1 ∧
      manifest.id = s!"{archive.id}:initial" := by
  simp only [assertInitialManifest, bind_ok, rejectIf_ok, not_or, ne_eq, not_not] at h
  obtain ⟨_, -, _, hd, _, -, _, -, ha, -, -, hr, hi, -⟩ := h
  exact ⟨hd, ha, hr, hi⟩

theorem SoundEvidence.of_initial (hp : isArchivePathId archive.id = true)
    (h : assertInitialManifest sha256 manifest archive jobs = .ok u) :
    SoundEvidence sha256 manifest (.initial manifest) := by
  obtain ⟨hd, -, hr, hi⟩ := assertInitialManifest_ok h
  have hl := isArchivePathId_length hp
  have hil : manifest.id.length = archive.id.length + 8 := by
    rw [hi, String.length_append]
    rfl
  exact {
    archiveId := rfl
    immutable := changedImmutableEvidence_refl _
    boundary := rfl
    job := rfl
    root := rfl
    revision := le_of_eq hr.symm
    id_length := by simp only [CommittedDvdCheckpointEvidence.manifest]; omega
    digests := hd }

theorem SoundEvidence.of_record {manifest : CommittedDvdRecoveryEvidence}
    (h : assertRecoveryManifestRecord sha256 manifest initial = .ok ()) :
    SoundEvidence sha256 initial (.recovery manifest) := by
  obtain ⟨-, hs, hd, -, hp⟩ := assertRecoveryManifestRecord_ok.1 h
  obtain ⟨ha, hi, hb, hj, hr⟩ := assertRecoveryManifestStaticProvenance_ok.1 hp
  obtain ⟨-, hl, hu, hrev, -⟩ := hs
  exact {
    archiveId := ha
    immutable := hi
    boundary := hb
    job := hj
    root := hr
    revision := (show 1 ≤ 2 by decide).trans hrev
    id_length := ⟨Nat.pos_iff_ne_zero.1 hl, hu⟩
    digests := hd }

/-- The checkpoint the pointer names: what a reader has established about it. -/
structure Authoritative (sha256 : Hashed → Digest) (disk : Disk) (c : Catalog)
    (current : CommittedDvdCheckpointEvidence) : Prop where
  pathId : isArchivePathId c.archive.id = true
  initial : assertInitialManifest sha256 disk.initialManifest c.archive c.archiveJobs = .ok ()
  archive : disk.initialManifest.originalDiscArchiveId = c.archive.id
  pointerOk : assertCheckpointPointer disk.pointer disk.initialManifest c.archive = .ok ()
  pointer : disk.pointer = pointerTo current
  sound : SoundEvidence sha256 disk.initialManifest current
  reads : ∃ previous, ReadsCurrent sha256 disk current previous
  header : assertHeaderMatches c.header disk.pointer disk.initialManifest current.manifest = .ok ()

theorem Authoritative.of_read
    (h : readDvdCheckpointForReconciliation sha256 disk c = .ok ⟨current, previous⟩) :
    Authoritative sha256 disk c current := by
  obtain ⟨hp, hi, hptr, hc, hh⟩ := readDvdCheckpointForReconciliation_ok.1 h
  have hr := readCurrentEvidence_ok.1 hc
  obtain ⟨-, ha, hone, -⟩ := assertInitialManifest_ok hi
  have hsound : SoundEvidence sha256 disk.initialManifest current := by
    cases hr with
    | initial => exact .of_initial hp hi
    | recovery _ _ hrec => exact .of_record hrec
  refine ⟨hp, hi, ha, hptr, ?_, hsound, ⟨previous, hr⟩, hh⟩
  -- The pointer repeats the identity of the evidence it names, field by field.
  simp only [assertCheckpointPointer, rejectIf_ok, not_or, not_and, ne_eq, not_not,
    Nat.not_lt] at hptr
  obtain ⟨hpa, -, -, -, hge, hfirst⟩ := hptr
  cases hr with
  | initial hn =>
    have h1 : disk.pointer.currentManifestRevision = 1 := Nat.le_antisymm (Nat.not_lt.1 hn) hge
    obtain ⟨hid, hdig, hpub⟩ := hfirst h1
    exact DvdCheckpointPointer.ext (hpa.trans ha.symm) hid (h1.trans hone.symm) hdig hpub
  | recovery _ _ _ _ _ hm =>
    obtain ⟨hid, hrev, hdig, hpub⟩ := hm
    exact DvdCheckpointPointer.ext (hpa.trans (ha.symm.trans hsound.archiveId.symm)) hid.symm
      hrev.symm hdig.symm hpub.symm

/-- The storage units a batch protects, inside the image it read them from. -/
structure UnitsOf (image : Bytes) (startLba : Nat) (units : ProtectedUnits) : Prop where
  unit_pos : 0 < units.unitBytes
  start : units.startByte = unitStart (startLba * 2048) units.unitBytes
  stop : unitEnd (startLba * 2048) units.unitBytes = units.startByte + units.before.length
  whole : units.before.length = units.count * units.unitBytes
  count_pos : 0 < units.count
  before : units.before = slice image units.startByte units.before.length
  fits : units.startByte + units.before.length ≤ image.length
  after_length : units.after.length = units.before.length
  capacity : units.before.length ≤ DVD_RECOVERY_JOURNAL_PAYLOAD_BYTES

/-- A sector lies inside whole units, at least one of them. -/
theorem unitEnd_eq (sectorStart : Nat) (hu : 0 < unit) :
    ∃ count, 0 < count ∧ unitEnd sectorStart unit = unitStart sectorStart unit + count * unit ∧
      unitStart sectorStart unit ≤ sectorStart ∧
      sectorStart + 2048 ≤ unitEnd sectorStart unit := by
  have hlo := Nat.div_mul_le_self sectorStart unit
  have hmod := Nat.div_add_mod (sectorStart + 2048 + unit - 1) unit
  have hlt := Nat.mod_lt (sectorStart + 2048 + unit - 1) hu
  have hend : sectorStart + 2048 ≤ unitEnd sectorStart unit := by
    rw [unitEnd, Nat.mul_comm]
    omega
  have hq : sectorStart / unit < (sectorStart + 2048 + unit - 1) / unit := by
    refine Nat.lt_of_mul_lt_mul_right (a := unit) ?_
    rw [unitEnd] at hend
    omega
  refine ⟨(sectorStart + 2048 + unit - 1) / unit - sectorStart / unit, by omega, ?_, hlo, hend⟩
  rw [unitEnd, unitStart, ← Nat.add_mul]
  congr 1
  omega

theorem protectUnits_ok (h : protectUnits o admitted w = .ok units)
    (hb : o.observation.bytes.length = 2048) :
    UnitsOf w.disk.image.bytes o.observation.startLba units ∧
      units.unitBytes = admitted.protection.unitBytes ∧
      o.inspected = some admitted.protection ∧
      w.disk.image.version = admitted.current.image ∧
      w.disk.image.bytes.length = admitted.current.manifest.boundaryPublishedSizeBytes := by
  simp only [protectUnits, bind_ok, rejectIf_ok, pure_ok, not_or, ne_eq, not_not, Nat.not_lt] at h
  obtain ⟨_, hins, _, ⟨-, hend, hcap⟩, _, ⟨hlen, hver⟩, rfl⟩ := h
  obtain ⟨count, hpos, hstop, hlo, hhi⟩ :=
    unitEnd_eq (o.observation.startLba * 2048) admitted.protection.unitBytes_pos
  have hbytes : unitEnd (o.observation.startLba * 2048) admitted.protection.unitBytes -
      unitStart (o.observation.startLba * 2048) admitted.protection.unitBytes =
      count * admitted.protection.unitBytes := by omega
  have hslice : (slice w.disk.image.bytes
      (unitStart (o.observation.startLba * 2048) admitted.protection.unitBytes)
      (count * admitted.protection.unitBytes)).length = count * admitted.protection.unitBytes := by
    rw [length_slice]
    omega
  refine ⟨?_, rfl, hins, hver, hlen⟩
  simp only [hbytes] at hcap ⊢
  exact {
    unit_pos := admitted.protection.unitBytes_pos
    start := rfl
    stop := by simp only [hslice]; exact hstop
    whole := by
      simp only [ProtectedUnits.count, hslice]
      rw [Nat.mul_div_cancel _ admitted.protection.unitBytes_pos]
    count_pos := by
      simp only [ProtectedUnits.count, hslice]
      rwa [Nat.mul_div_cancel _ admitted.protection.unitBytes_pos]
    before := by simp only [hslice]
    fits := by simp only [hslice]; omega
    after_length := length_patch (by rw [hslice, hb]; omega)
    capacity := by simp only [hslice]; exact hcap }

/-- Writing the units puts the sector in its place and nothing else. -/
theorem written_sector (h : protectUnits o admitted w = .ok units)
    (hb : o.observation.bytes.length = 2048) :
    patch w.disk.image.bytes units.startByte units.after =
      patch w.disk.image.bytes (o.observation.startLba * 2048) o.observation.bytes := by
  simp only [protectUnits, bind_ok, rejectIf_ok, pure_ok, not_or, ne_eq, not_not, Nat.not_lt] at h
  obtain ⟨_, -, _, ⟨-, hend, -⟩, _, ⟨hlen, -⟩, rfl⟩ := h
  obtain ⟨count, hpos, hstop, hlo, hhi⟩ :=
    unitEnd_eq (o.observation.startLba * 2048) admitted.protection.unitBytes_pos
  simp only
  rw [patch_slice (by omega) (by omega)]
  congr 1
  omega

namespace UnitsOf

variable {image : Bytes} {units : ProtectedUnits}

/-- The protected units are the aligned units of the image from this one on. -/
def first (startLba : Nat) (units : ProtectedUnits) : Nat := startLba * 2048 / units.unitBytes

theorem startByte_eq (h : UnitsOf image startLba units) :
    units.startByte = first startLba units * units.unitBytes := h.start

/-- The image once every protected unit holds its new content. -/
def written (image : Bytes) (units : ProtectedUnits) : Bytes :=
  patch image units.startByte units.after

theorem length_written (h : UnitsOf image startLba units) :
    (written image units).length = image.length :=
  length_patch (by rw [h.after_length]; exact h.fits)

theorem offset_lt (h : UnitsOf image startLba units) (hi : index < units.count) :
    index * units.unitBytes + units.unitBytes ≤ units.before.length := by
  rw [h.whole, ← Nat.succ_mul]
  exact Nat.mul_le_mul_right _ hi

theorem unit_before (h : UnitsOf image startLba units) (hi : index < units.count) :
    units.unit units.before index =
      slice image ((first startLba units + index) * units.unitBytes) units.unitBytes := by
  rw [ProtectedUnits.unit, h.before, slice_slice _ (h.offset_lt hi), Nat.add_mul, h.startByte_eq]

theorem unit_after (h : UnitsOf image startLba units) (hi : index < units.count) :
    units.unit units.after index =
      slice (written image units) ((first startLba units + index) * units.unitBytes)
        units.unitBytes := by
  have ho := h.offset_lt hi
  rw [ProtectedUnits.unit, written, Nat.add_mul, ← h.startByte_eq,
    slice_patch_inside (by rw [h.after_length]; exact h.fits) (by omega)
      (by rw [h.after_length]; omega), Nat.add_sub_cancel_left]

theorem length_unit_after (h : UnitsOf image startLba units) (hi : index < units.count) :
    (units.unit units.after index).length = units.unitBytes := by
  have := h.offset_lt hi
  rw [ProtectedUnits.unit, length_slice, h.after_length]
  omega

/-- Outside the protected units the two images agree. -/
theorem written_outside (h : UnitsOf image startLba units)
    (hu : ∀ index < units.count, u ≠ first startLba units + index) :
    slice (written image units) (u * units.unitBytes) units.unitBytes =
      slice image (u * units.unitBytes) units.unitBytes := by
  refine slice_patch_outside (by rw [h.after_length]; exact h.fits) ?_
  rw [h.after_length, h.whole, h.startByte_eq, ← Nat.add_mul]
  rcases Nat.lt_or_ge u (first startLba units) with hlt | hge
  · exact .inl (by rw [← Nat.succ_mul]; exact Nat.mul_le_mul_right _ hlt)
  · refine .inr (Nat.mul_le_mul_right _ (Nat.le_of_not_lt fun hlt => ?_))
    exact hu (u - first startLba units) (by omega) (by omega)

theorem unit_fits (h : UnitsOf image startLba units) (hi : index < units.count) :
    (first startLba units + index) * units.unitBytes + units.unitBytes ≤ image.length := by
  have := h.offset_lt hi
  have := h.fits
  rw [Nat.add_mul, ← h.startByte_eq]
  omega

end UnitsOf

@[simp] theorem ProtectedUnits.length_ranges (units : ProtectedUnits) :
    (units.ranges sha256).length = units.count := by
  simp [ProtectedUnits.ranges]

theorem ProtectedUnits.getElem?_ranges (units : ProtectedUnits) (index : Nat) :
    (units.ranges sha256)[index]? = if index < units.count then some {
      startByte := units.startByte + index * units.unitBytes
      byteCount := units.unitBytes
      unitBytes := units.unitBytes
      beforeDigest := sha256 (.bytes (units.unit units.before index))
      afterDigest := sha256 (.bytes (units.unit units.after index)) } else none := by
  rw [ProtectedUnits.ranges, List.getElem?_map]
  by_cases hi : index < units.count
  · rw [List.getElem?_range hi, if_pos hi]
    rfl
  · rw [List.getElem?_eq_none (by simpa using hi), if_neg hi]
    rfl

theorem ProtectedUnits.mem_ranges (units : ProtectedUnits) :
    range ∈ units.ranges sha256 ↔ ∃ index < units.count,
      (units.ranges sha256)[index]? = some range := by
  rw [List.mem_iff_getElem?]
  constructor
  · rintro ⟨index, h⟩
    refine ⟨index, ?_, h⟩
    rw [getElem?_ranges] at h
    by_contra hn
    rw [if_neg hn] at h
    cases h
  · rintro ⟨index, -, h⟩
    exact ⟨index, h⟩

theorem UnitsOf.protectedByteCount (h : UnitsOf image startLba units) :
    protectedByteCount (units.ranges sha256) = units.before.length := by
  rw [RipDvd.protectedByteCount, ProtectedUnits.ranges, List.map_map, h.whole]
  simp [Function.comp_def]

/-- What a batch records about its mutation: the units of a recovered sector and their journal, or
nothing at all. -/
inductive Performs (sha256 : Hashed → Digest) (current : CommittedDvdCheckpointEvidence)
    (observation : DvdRecoveryReadObservation) (mutation : BatchMutation) : Prop where
  | recovered (outcome : observation.outcome = .recovered)
    (units : UnitsOf image observation.startLba protectedUnits)
    (length : image.length = current.manifest.boundaryPublishedSizeBytes)
    (journal : mutation.journalDigest ≠ none)
    (ranges : mutation.protectedRanges = protectedUnits.ranges sha256)
  | failed (outcome : observation.outcome = .failed) (journal : mutation.journalDigest = none)
    (ranges : mutation.protectedRanges = [])

theorem length_repr_le (h : n ≤ 10000) : (toString n).length ≤ 5 :=
  (Nat.length_repr_le_iff (by decide)).2 (by omega)

theorem UnitsOf.wellFormed (h : UnitsOf image startLba units) (hlimit : image.length = limit)
    (hsafe : limit ≤ maxSafeInteger) (hr : range ∈ units.ranges sha256) :
    range.wellFormed limit := by
  obtain ⟨index, hi, hg⟩ := units.mem_ranges.1 hr
  rw [units.getElem?_ranges, if_pos hi] at hg
  cases hg
  have hf := h.unit_fits hi
  have hp := h.unit_pos
  simp only [DvdRecoveryProtectedRange.wellFormed, h.startByte_eq, ← Nat.add_mul,
    Nat.mul_mod_left, Nat.mod_self, true_and]
  omega

theorem UnitsOf.covers (h : UnitsOf image manifest.recoveryRead.startLba units)
    (hs : manifest.sectorSizeBytes = 2048)
    (hr : manifest.protectedRanges = units.ranges sha256) :
    coversRecoveredSector manifest := by
  refine ⟨_, by rw [hr, List.head?_eq_getElem?, units.getElem?_ranges, if_pos h.count_pos]; rfl,
    fun entry he => ?_, ?_⟩
  · obtain ⟨range, index⟩ := entry
    rw [List.mk_mem_zipIdx_iff_getElem?, hr, units.getElem?_ranges] at he
    by_cases hi : index < units.count
    · rw [if_pos hi] at he
      cases he
      exact ⟨rfl, rfl, by rw [hs, h.start]⟩
    · rw [if_neg hi] at he
      cases he
  · rw [hs, hr, h.protectedByteCount, h.stop, h.start]

/-- The manifest a batch writes passes the checks its readers make. -/
theorem recoveryManifestFor_record {initial : CommittedDvdInitialEvidence}
    {manifest : CommittedDvdRecoveryEvidence} {mutation : BatchMutation}
    (hs : SoundEvidence sha256 initial current)
    (hp : isArchivePathId initial.originalDiscArchiveId = true)
    (hrev : current.manifest.revision < DVD_RECOVERY_MAX_CHECKPOINT_REVISION)
    (hread : recoveryReadFor sha256 initial.originalDiscArchiveId current observation authority =
      .ok recoveryRead)
    (hmut : Performs sha256 current observation mutation)
    (hm : recoveryManifestFor sha256 current recoveryRead mutation nextRanges = .ok manifest) :
    assertRecoveryManifestRecord sha256 manifest initial = .ok () := by
  simp only [recoveryReadFor, bind_ok, pure_ok] at hread
  obtain ⟨evidenceDigest, hdig, rfl⟩ := hread
  simp only [recoveryManifestFor, bind_ok, pure_ok] at hm
  obtain ⟨digests, hd, rfl⟩ := hm
  obtain ⟨hhash, -⟩ := createDvdArchiveEvidenceManifestDigests_ok.1 hd
  have hl := isArchivePathId_length hp
  have hrl := length_repr_le (n := current.manifest.revision + 1) hrev
  have hr := hs.revision
  have hid (n : Nat) : s!"{current.manifest.originalDiscArchiveId}:recovery:{n}".length =
      initial.originalDiscArchiveId.length + 10 + (toString n).length := by
    rw [String.length_append, String.length_append, hs.archiveId]
    rfl
  refine assertRecoveryManifestRecord_ok.2 ⟨rfl, ?_, ?_, ?_, ?_⟩
  · refine ⟨rfl, by simp only [hid]; omega, by simp only [hid]; omega,
      show 2 ≤ _ + 1 by omega, hrev, by simp only [successorDigestInput, hs.archiveId],
      Option.some_ne_none _, Option.some_ne_none _, rfl, rfl, rfl, ?_⟩
    cases hmut with
    | recovered ho hu hlen hj hrg =>
      refine ⟨?_, (if_pos ho).mpr ⟨hj, ?_⟩, fun range hrange => ?_⟩
      · simp only [hrg, hu.protectedByteCount]
        exact hu.capacity
      · exact hu.covers hhash.sectorSize hrg
      · rw [show _ = ProtectedUnits.ranges sha256 _ from hrg] at hrange
        exact hu.wellFormed hlen hhash.published.2 hrange
    | failed ho hj hrg =>
      have hne : observation.outcome ≠ .recovered := by simp [ho]
      refine ⟨?_, (if_neg hne).mpr ⟨hj, hrg⟩, fun range hrange => ?_⟩
      · simp only [hrg]
        decide
      · rw [show _ = [] from hrg] at hrange
        cases hrange
  · exact assertDvdArchiveEvidenceManifestDigests_ok.2 hd
  · exact assertDvdArchiveRecoveryReadEvidenceDigest_ok.2 hdig
  · exact assertRecoveryManifestStaticProvenance_ok.2
      ⟨hs.archiveId, hs.immutable, hs.boundary, hs.job, hs.root⟩

/-- The manifest a batch writes is the successor of the one it started from. -/
theorem recoveryManifestFor_transition {manifest : CommittedDvdRecoveryEvidence}
    {mutation : BatchMutation}
    (hread : recoveryReadFor sha256 archiveId current observation authority = .ok recoveryRead)
    (hnext : dvdEvidenceRangesAfterRecoveryRead current.manifest.unrecoveredSourceRanges
      observation.startLba observation.outcome = .ok nextRanges)
    (hm : recoveryManifestFor sha256 current recoveryRead mutation nextRanges = .ok manifest) :
    assertRecoveryManifestTransition manifest current = .ok () := by
  simp only [recoveryReadFor, bind_ok, pure_ok] at hread
  obtain ⟨evidenceDigest, -, rfl⟩ := hread
  simp only [recoveryManifestFor, bind_ok, pure_ok] at hm
  obtain ⟨digests, -, rfl⟩ := hm
  exact assertRecoveryManifestTransition_ok.2 ⟨⟨rfl, rfl, rfl, rfl, rfl, rfl, rfl⟩, by
    simp only [assertDvdEvidenceRangeTransition, bind_ok, rejectIf_ok, ne_eq, not_not]
    exact ⟨_, hnext, rfl⟩⟩

end RipDvd
