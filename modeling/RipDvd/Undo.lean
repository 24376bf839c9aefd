import RipDvd.Succession
import RipDvd.Reconciliation

namespace RipDvd
set_option autoImplicit true

variable {sha256 : Hashed → Digest} {metadataLength : DvdRecoveryJournalMetadata → Nat}

/-- What a batch knows once it is admitted. -/
structure Begun (sha256 : Hashed → Digest) (o : DvdRecoveryBatchOptions) (w : World)
    (admitted : AdmittedBatch) : Prop where
  mayMutate : assertMayMutate o true w = .ok ()
  isOf : w.catalog.isOf o.originalDiscArchiveId
  status : w.catalog.recovery.status ∈ [ArchiveRecoveryStatus.running, .stopping]
  reconciled : ∀ latest ∈ w.catalog.latestReconciliation, latest.status = "completed"
  capacity : w.catalog.header.currentManifestRevision < DVD_RECOVERY_MAX_CHECKPOINT_REVISION
  storage : requireMutationProtection w.catalog = .ok admitted.protection
  committed : readCommittedDvdCheckpoint sha256 w.disk w.catalog = .ok admitted.current
  verified : o.writeAuthority.checkpointRevision ≤ admitted.current.manifest.revision ∧
    (admitted.current.manifest.revision = o.writeAuthority.checkpointRevision →
      admitted.current.manifest.manifestDigest = o.writeAuthority.checkpointDigest)
  startLba : o.observation.startLba ≤ maxSafeInteger
  bytes : o.observation.outcome = .recovered → o.observation.bytes.length = 2048
  target : ∃ range ∈ admitted.current.manifest.unrecoveredSourceRanges,
    range.contains o.observation.startLba
  read : recoveryReadFor sha256 o.originalDiscArchiveId admitted.current o.observation
    o.writeAuthority = .ok admitted.recoveryRead

theorem Authoritative.of_committed
    (h : readCommittedDvdCheckpoint sha256 disk c = .ok current) :
    Authoritative sha256 disk c current ∧ disk.journal = none ∧
      verifyDvdCheckpointImage sha256 disk.image current = .ok () ∧
      projectedIdentity c.header = checkpointIdentity current := by
  obtain ⟨hj, ⟨previous, hr⟩, hv, hid, hrev, hdig⟩ := readCommittedDvdCheckpoint_ok.1 h
  have ha := Authoritative.of_read hr
  refine ⟨ha, hj, hv, ?_⟩
  rw [projectedIdentity, checkpointIdentity, hid, hrev, hdig, ha.pointer]
  rfl

theorem admitBatch_ok : admitBatch sha256 o w = .ok admitted ↔ Begun sha256 o w admitted := by
  simp only [admitBatch, bind_ok, rejectIf_ok, withError_ok, pure_ok, not_or, ne_eq, not_not,
    Nat.not_lt, ge_iff_le, Nat.not_le]
  constructor
  · rintro ⟨_, hm, _, ⟨hi, hs⟩, _, hr, _, hc, protection, hp, current, hcur, _, -, _, ⟨hv, hd⟩, _,
      ⟨hl, hb⟩, _, ht, read, hread, rfl⟩
    exact ⟨hm, hi, hs, fun l hl => by_contra fun hn => hr ⟨l, hl, hn⟩, hc, hp, hcur,
      ⟨hv, fun he => by_contra fun hn => hd ⟨he, hn⟩⟩, hl,
      fun ho => by_contra fun hn => hb ⟨ho, hn⟩, ht, hread⟩
  · rintro ⟨hm, hi, hs, hr, hc, hp, hcur, ⟨hv, hd⟩, hl, hb, ht, hread⟩
    obtain ⟨-, -, -, hid⟩ := Authoritative.of_committed hcur
    simp only [projectedIdentity, checkpointIdentity, CheckpointIdentity.mk.injEq] at hid
    exact ⟨(), hm, (), ⟨hi, hs⟩, (), fun ⟨l, hl, hn⟩ => hn (hr l hl), (), hc, _, hp, _, hcur, (),
      ⟨hid.1.symm, hid.2.2.symm⟩, (), ⟨hv, fun ⟨he, hn⟩ => hn (hd he)⟩, (),
      ⟨hl, fun ⟨ho, hn⟩ => hn (hb ho)⟩, (), ht, _, hread, rfl⟩

theorem Begun.archiveId (h : Begun sha256 o w admitted) :
    w.disk.initialManifest.originalDiscArchiveId = o.originalDiscArchiveId :=
  (Authoritative.of_committed h.committed).1.archive.trans h.isOf.1

/-- A batch that protects storage units for a recovered sector. -/
structure Recovering (sha256 : Hashed → Digest) (o : DvdRecoveryBatchOptions) (w : World)
    (admitted : AdmittedBatch) (units : ProtectedUnits) : Prop where
  begun : Begun sha256 o w admitted
  outcome : o.observation.outcome = .recovered
  protect : protectUnits o admitted w = .ok units

namespace Recovering

theorem unitsOf (h : Recovering sha256 o w admitted units) :
    UnitsOf w.disk.image.bytes o.observation.startLba units ∧
      units.unitBytes = admitted.protection.unitBytes ∧
      o.inspected = some admitted.protection ∧
      w.disk.image.version = admitted.current.image ∧
      w.disk.image.bytes.length = admitted.current.manifest.boundaryPublishedSizeBytes :=
  protectUnits_ok h.protect (h.begun.bytes h.outcome)

end Recovering

/-- A walk over units of one size, laid out back to back. -/
theorem assertJournalRanges_ok (unit : Nat) {ranges : List DvdRecoveryJournalRange}
    (h : ∀ (index : Nat) (range : DvdRecoveryJournalRange), ranges[index]? = some range →
      range.unitBytes = unit ∧ range.wellFormed (offset + index * unit) limit none)
    (hu : ∀ u ∈ unitBytes, u = unit) :
    assertJournalRanges limit offset unitBytes ranges = .ok (offset + ranges.length * unit) := by
  induction ranges generalizing offset unitBytes with
  | nil => simp [assertJournalRanges]
  | cons range ranges ih =>
    obtain ⟨hru, h1, h2, h3, h4, h5, h6, h7, h8, h9, -⟩ := h 0 range rfl
    have hwell : range.wellFormed offset limit unitBytes :=
      ⟨h1, h2, h3, h4, h5, h6, h7, by simpa using h8, h9, fun u hm => (hu u hm).trans hru.symm⟩
    rw [assertJournalRanges, bind_ok]
    refine ⟨(), rejectIf_ok.2 (not_not.2 hwell), ?_⟩
    rw [h6, hru]
    refine (ih (fun index r hr => ?_) fun u hm => (Option.some.inj hm).symm).trans ?_
    · obtain ⟨hr1, hr2⟩ := h (index + 1) r hr
      exact ⟨hr1, by rwa [Nat.add_assoc, Nat.add_comm unit, ← Nat.succ_mul]⟩
    · rw [List.length_cons, Nat.succ_mul]
      congr 1
      omega

/-- The undo journal of a batch, as a reader finds it. -/
def undoJournal (sha256 : Hashed → Digest) (o : DvdRecoveryBatchOptions) (admitted : AdmittedBatch)
    (units : ProtectedUnits) : ReadJournal :=
  ⟨completeJournal sha256 (journalFor sha256 o admitted units) units.before, units.before⟩

/-- `recovery-journal.bin` once the journal step has completed. -/
def undoFile (sha256 : Hashed → Digest) (o : DvdRecoveryBatchOptions) (admitted : AdmittedBatch)
    (units : ProtectedUnits) : JournalFile :=
  ⟨true, some (undoJournal sha256 o admitted units).metadata, some units.before⟩

theorem getElem?_journalRanges (sha256 : Hashed → Digest) (o : DvdRecoveryBatchOptions)
    (admitted : AdmittedBatch)
    (units : ProtectedUnits) (index : Nat) :
    (journalFor sha256 o admitted units).protectedRanges[index]? =
      if index < units.count then some {
        startByte := units.startByte + index * units.unitBytes
        byteCount := units.unitBytes
        unitBytes := units.unitBytes
        beforeDigest := sha256 (.bytes (units.unit units.before index))
        afterDigest := sha256 (.bytes (units.unit units.after index))
        payloadOffset := index * units.unitBytes } else none := by
  rw [journalFor, List.getElem?_mapIdx, units.getElem?_ranges]
  split <;> rfl

theorem journalRanges_base (o : DvdRecoveryBatchOptions) (admitted : AdmittedBatch)
    (units : ProtectedUnits) :
    (journalFor sha256 o admitted units).protectedRanges.map (·.toDvdRecoveryProtectedRange) =
      units.ranges sha256 := by
  refine List.ext_getElem? fun index => ?_
  rw [List.getElem?_map, getElem?_journalRanges, units.getElem?_ranges]
  split <;> rfl

theorem payloadByteCount_eq (h : UnitsOf image startLba units) (o : DvdRecoveryBatchOptions)
    (admitted : AdmittedBatch) :
    (journalFor sha256 o admitted units).payloadByteCount = units.before.length := by
  rw [← h.protectedByteCount, protectedByteCount, ← journalRanges_base o admitted units,
    DvdRecoveryJournalDigestInput.payloadByteCount, List.map_map]
  rfl

theorem Begun.hashable (h : Begun sha256 o w admitted) :
    Hashable admitted.current.manifest.toDvdArchiveEvidenceManifestDigestInput :=
  (createDvdArchiveEvidenceManifestDigests_ok.1 (assertDvdArchiveEvidenceManifestDigests_ok.1
    (Authoritative.of_committed h.committed).1.sound.digests)).1

/-- The journal of protected units is one that a reader takes. -/
theorem Begun.assertJournalMetadata_ok (h : Begun sha256 o w admitted)
    (hu : UnitsOf image o.observation.startLba units)
    (hlen : image.length = admitted.current.manifest.boundaryPublishedSizeBytes) :
    assertJournalMetadata (undoJournal sha256 o admitted units).metadata = .ok () := by
  obtain ⟨ha, -, -, -⟩ := Authoritative.of_committed h.committed
  have hp := isArchivePathId_length (h.isOf.1 ▸ ha.pathId)
  have hcap : admitted.current.manifest.revision < DVD_RECOVERY_MAX_CHECKPOINT_REVISION := by
    have hid := (Authoritative.of_committed h.committed).2.2.2
    simp only [projectedIdentity, checkpointIdentity, CheckpointIdentity.mk.injEq] at hid
    exact hid.1 ▸ h.capacity
  have hrl := length_repr_le (n := admitted.current.manifest.revision + 1) hcap
  have hrev := ha.sound.revision
  have hpub := h.hashable.published
  have hcan := canonical_of_digests ha.sound.digests
  have hreadId : admitted.recoveryRead.id.length =
      o.originalDiscArchiveId.length + 15 +
        (toString (admitted.current.manifest.revision + 1)).length := by
    have hread := h.read
    simp only [recoveryReadFor, bind_ok, pure_ok] at hread
    obtain ⟨_, -, he⟩ := hread
    rw [← he, String.length_append, String.length_append]
    rfl
  have hlba : admitted.recoveryRead.startLba = o.observation.startLba := by
    have hread := h.read
    simp only [recoveryReadFor, bind_ok, pure_ok] at hread
    obtain ⟨_, -, he⟩ := hread
    rw [← he]
  simp only [assertJournalMetadata, bind_ok, rejectIf_ok]
  refine ⟨(), ?_, (), ?_, _, assertJournalRanges_ok units.unitBytes
    (fun index range hg => ?_) (by simp), ?_⟩
  · simp only [undoJournal, completeJournal, journalFor, not_or]
    refine ⟨by omega, by omega, by omega, by omega, ha.sound.id_length.1,
      by have := ha.sound.id_length.2; omega, by omega, ?_, by omega, by omega, ?_, by simp,
      by simp, ?_⟩
    · exact Nat.not_lt.2 ((Nat.le_of_lt hcap).trans (by decide))
    · rw [hlba]
      exact Nat.not_lt.2 h.startLba
    · intro he
      have hl := congrArg List.length he
      rw [List.length_mapIdx, units.length_ranges] at hl
      exact absurd hl (Nat.pos_iff_ne_zero.1 hu.count_pos)
  · rintro ⟨range, hr, hbad⟩
    obtain ⟨hpos, hend⟩ := hcan.within range hr
    rw [UnrecoveredSourceRange.endLbaExclusive] at hend
    omega
  · simp only [undoJournal, completeJournal] at hg
    rw [getElem?_journalRanges] at hg
    by_cases hi : index < units.count
    · rw [if_pos hi] at hg
      cases hg
      have hf := hu.unit_fits hi
      have hpos := hu.unit_pos
      refine ⟨rfl, ?_⟩
      simp only [DvdRecoveryJournalRange.wellFormed, hu.startByte_eq, ← Nat.add_mul,
        Nat.mul_mod_left, Nat.zero_add, Option.not_mem_none, false_implies, implies_true, and_true,
        true_and]
      have hsize : (undoJournal sha256 o admitted units).metadata.imageSizeBytes =
        admitted.current.manifest.boundaryPublishedSizeBytes := rfl
      omega
    · rw [if_neg hi] at hg
      cases hg
  · have hl : (undoJournal sha256 o admitted units).metadata.protectedRanges.length =
      units.count := by
      simp [undoJournal, completeJournal, journalFor]
    rw [hl, Nat.zero_add, ← hu.whole]
    exact Nat.not_lt.2 hu.capacity

/-- A completed journal can be read back. -/
theorem Begun.readJournal (h : Begun sha256 o w admitted)
    (hu : UnitsOf image o.observation.startLba units)
    (hlen : image.length = admitted.current.manifest.boundaryPublishedSizeBytes)
    (hfits : fitsJournalHeader metadataLength (undoJournal sha256 o admitted units).metadata) :
    readDvdRecoveryJournal sha256 metadataLength (undoFile sha256 o admitted units) =
      .ok (undoJournal sha256 o admitted units) := by
  have hpayload : (undoFile sha256 o admitted units).payload
      (undoJournal sha256 o admitted units).metadata.payloadByteCount = units.before := by
    rw [undoFile, JournalFile.payload, undoJournal, completeJournal,
      payloadByteCount_eq hu]
    exact List.take_length
  simp only [readDvdRecoveryJournal, bind_ok, rejectIf_ok, pure_ok]
  refine ⟨(), by simp [undoFile], _, rfl, (), not_not.2 hfits, (),
    h.assertJournalMetadata_ok hu hlen, (), ?_, ?_⟩
  · rw [hpayload]
    simp [undoJournal, completeJournal]
  · rw [hpayload]
    rfl

/-- The world with other bytes in the image. -/
def World.setImage (w : World) (bytes : Bytes) (mtimeNs : Nat) : World :=
  { w with disk := { w.disk with image := { w.disk.image with bytes, mtimeNs } } }

/-- The journal can put the unit of a range back as it was. -/
def Restores (unit : Nat) (old originalBytes : Bytes) (range : DvdRecoveryJournalRange) : Prop :=
  ∃ u, range.startByte = u * unit ∧ range.byteCount = unit ∧
    slice originalBytes range.payloadOffset unit = slice old (u * unit) unit ∧
    u * unit + unit ≤ old.length

/-- Restoring the overwritten units of a torn image, one by one, leaves the old image; a crash on
the way leaves a torn one. -/
theorem restoreUnits_safe {w : World} {I : World → Prop} (hu : 0 < unit)
    (hI : ∀ cells mtimeNs, Torn unit old new cells → I (w.setImage cells mtimeNs))
    (hr : ∀ p ∈ rest, Restores unit old originalBytes p.1)
    (hp : ∀ u, slice cells (u * unit) unit = slice old (u * unit) unit ∨
      ∃ p ∈ rest, p.2 = .after ∧ p.1.startByte = u * unit)
    (ht : Torn unit old new cells) :
    (restoreUnits o originalBytes rest).Safe Eq I
      (fun r t => r = .ok () ∧ ∃ mtimeNs, t = w.setImage old mtimeNs)
      (w.setImage cells mtimeNs) := by
  induction rest generalizing cells mtimeNs with
  | nil =>
    have he : cells = old := eq_of_units hu fun u => (hp u).resolve_right (by simp)
    subst he
    exact .finish (hI _ _ ht) ⟨rfl, mtimeNs, rfl⟩
  | cons p rest ih =>
    obtain ⟨range, state⟩ := p
    have hrest : ∀ p ∈ rest, Restores unit old originalBytes p.1 :=
      fun p hm => hr p (List.mem_cons_of_mem _ hm)
    cases state with
    | before =>
      refine ih hrest (fun u => (hp u).imp_right ?_) ht
      rintro ⟨p, hm, ha, hs⟩
      rcases List.mem_cons.1 hm with rfl | hm
      · cases ha
      · exact ⟨p, hm, ha, hs⟩
    | after =>
      obtain ⟨u, hs, hc, hb, hf⟩ := hr _ List.mem_cons_self
      simp only at hs hc hb
      have hlen : (slice old (u * unit) unit).length = unit := by rw [length_slice]; omega
      have hfit : u * unit + (slice old (u * unit) unit).length ≤ cells.length := by
        rw [hlen, ht.length]
        exact hf
      have hnext := ht.write (.inl rfl) hlen (by rw [ht.length]; exact hf)
      have hpend (v : Nat) : slice (patch cells (u * unit) (slice old (u * unit) unit)) (v * unit)
          unit = slice old (v * unit) unit ∨
            ∃ p ∈ rest, p.2 = .after ∧ p.1.startByte = v * unit := by
        by_cases hv : v = u
        · subst hv
          have hself := slice_patch_self hfit
          rw [hlen] at hself
          exact .inl hself
        · rw [slice_patch_outside hfit (by rw [hlen]; have := units_apart unit hv; omega)]
          refine (hp v).imp_right ?_
          rintro ⟨p, hm, ha, hsv⟩
          rcases List.mem_cons.1 hm with rfl | hm
          · exact absurd (Nat.eq_of_mul_eq_mul_right hu (hsv.symm.trans hs)) hv
          · exact ⟨p, hm, ha, hsv⟩
      refine .modify_bind (hI _ _ ht) ?_
      rw [hc, hs, hb]
      exact ih hrest hpend hnext

/-- The digests of a unit's two contents differ unless the contents are the same. -/
def UnitsDistinct (sha256 : Hashed → Digest) (units : ProtectedUnits) : Prop :=
  ∀ index < units.count, sha256 (.bytes (units.unit units.before index)) =
    sha256 (.bytes (units.unit units.after index)) →
    units.unit units.before index = units.unit units.after index

theorem journalRange_eq {index : Nat}
    (hr : (journalFor sha256 o admitted units).protectedRanges[index]? = some range) :
    index < units.count ∧ range = {
      startByte := units.startByte + index * units.unitBytes
      byteCount := units.unitBytes
      unitBytes := units.unitBytes
      beforeDigest := sha256 (.bytes (units.unit units.before index))
      afterDigest := sha256 (.bytes (units.unit units.after index))
      payloadOffset := index * units.unitBytes } := by
  rw [getElem?_journalRanges] at hr
  by_cases hi : index < units.count
  · rw [if_pos hi] at hr
    exact ⟨hi, (Option.some.inj hr).symm⟩
  · rw [if_neg hi] at hr
    cases hr

theorem UnitsOf.restores {index : Nat} (h : UnitsOf image startLba units)
    (hr : (journalFor sha256 o admitted units).protectedRanges[index]? = some range) :
    Restores units.unitBytes image units.before range := by
  obtain ⟨hi, rfl⟩ := journalRange_eq hr
  refine ⟨UnitsOf.first startLba units + index, ?_, rfl, h.unit_before hi, h.unit_fits hi⟩
  rw [Nat.add_mul, ← h.startByte_eq]

/-- In a torn image every protected unit is recognised. -/
theorem UnitsOf.unitState {index : Nat} (h : UnitsOf image startLba units)
    (ht : Torn units.unitBytes image (UnitsOf.written image units) cells)
    (hr : (journalFor sha256 o admitted units).protectedRanges[index]? = some range) :
    ∃ state, protectedUnitState sha256 cells range = .ok state := by
  obtain ⟨hi, rfl⟩ := journalRange_eq hr
  have hf := h.unit_fits hi
  have hstart : units.startByte + index * units.unitBytes =
      (UnitsOf.first startLba units + index) * units.unitBytes := by
    rw [Nat.add_mul, ← h.startByte_eq]
  simp only [protectedUnitState, hstart]
  rw [if_neg (by rw [not_not, length_slice, ht.length]; omega)]
  rcases ht.unit_eq (UnitsOf.first startLba units + index) with he | he
  · rw [he, ← h.unit_before hi, if_pos rfl]
    exact ⟨_, rfl⟩
  · rw [he, ← h.unit_after hi]
    split
    · exact ⟨_, rfl⟩
    · rw [if_pos rfl]
      exact ⟨_, rfl⟩

/-- A unit taken for an old one is an old one. -/
theorem UnitsOf.unit_eq_old {index : Nat} (h : UnitsOf image startLba units)
    (hd : UnitsDistinct sha256 units)
    (ht : Torn units.unitBytes image (UnitsOf.written image units) cells)
    (hr : (journalFor sha256 o admitted units).protectedRanges[index]? = some range)
    (hs : protectedUnitState sha256 cells range = .ok .before) :
    slice cells ((UnitsOf.first startLba units + index) * units.unitBytes) units.unitBytes =
      slice image ((UnitsOf.first startLba units + index) * units.unitBytes) units.unitBytes := by
  obtain ⟨hi, rfl⟩ := journalRange_eq hr
  have hstart : units.startByte + index * units.unitBytes =
      (UnitsOf.first startLba units + index) * units.unitBytes := by
    rw [Nat.add_mul, ← h.startByte_eq]
  rcases ht.unit_eq (UnitsOf.first startLba units + index) with he | he
  · exact he
  rw [he]
  simp only [protectedUnitState, hstart, he, ← h.unit_after hi] at hs
  by_cases hdig : sha256 (.bytes (units.unit units.after index)) =
      sha256 (.bytes (units.unit units.before index))
  · rw [← h.unit_after hi, ← h.unit_before hi]
    exact (hd index hi hdig.symm).symm
  · simp only [if_neg hdig, if_true] at hs
    split at hs <;> cases hs

/-- The units that were not taken for old ones are all there is to restore. -/
theorem UnitsOf.pending (h : UnitsOf image startLba units) (hd : UnitsDistinct sha256 units)
    (ht : Torn units.unitBytes image (UnitsOf.written image units) cells)
    (hs : List.Forall₂ (fun range state => protectedUnitState sha256 cells range = .ok state)
      (journalFor sha256 o admitted units).protectedRanges states) (u : Nat) :
    slice cells (u * units.unitBytes) units.unitBytes =
        slice image (u * units.unitBytes) units.unitBytes ∨
      ∃ p ∈ (journalFor sha256 o admitted units).protectedRanges.zip states,
        p.2 = .after ∧ p.1.startByte = u * units.unitBytes := by
  by_cases hu : ∃ index < units.count, u = UnitsOf.first startLba units + index
  · obtain ⟨index, hi, rfl⟩ := hu
    have hr := getElem?_journalRanges sha256 o admitted units index
    rw [if_pos hi] at hr
    obtain ⟨hlt, hget⟩ := List.getElem?_eq_some_iff.1 hr
    have hlt' : index < states.length := hs.length_eq ▸ hlt
    have hst := hs.get hlt hlt'
    simp only [List.get_eq_getElem, hget] at hst
    cases hstate : states[index] with
    | before =>
      rw [hstate] at hst
      exact .inl (h.unit_eq_old hd ht hr hst)
    | after =>
      refine .inr ⟨((journalFor sha256 o admitted units).protectedRanges[index], states[index]),
        ?_, hstate, ?_⟩
      · exact List.mem_iff_getElem.2 ⟨index, by simp [List.length_zip]; omega, List.getElem_zip⟩
      · rw [hget, Nat.add_mul, ← h.startByte_eq]
  · refine .inl ((ht.unit_eq u).elim id fun he => he.trans ?_)
    exact h.written_outside fun index hi he => hu ⟨index, hi, he⟩

end RipDvd
