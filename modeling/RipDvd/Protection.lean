import RipDvd.Acceptance

namespace RipDvd
set_option autoImplicit true

/-- Ranges that are one aligned unit each, laid back to back from one byte to another. -/
inductive Tiles (unit : Nat) : Nat → Nat → List DvdRecoveryProtectedRange → Prop where
  | nil : Tiles unit stop stop []
  | cons (startByte : range.startByte = start) (byteCount : range.byteCount = unit)
    (unitBytes : range.unitBytes = unit) (aligned : start % unit = 0)
    (rest : Tiles unit (start + unit) stop ranges) : Tiles unit start stop (range :: ranges)

/-- Ranges found at the multiples of a unit from an aligned byte on tile what they cover. -/
theorem Tiles.of_getElem {ranges : List DvdRecoveryProtectedRange} (hs : start % unit = 0)
    (h : ∀ (index : Nat) (range : DvdRecoveryProtectedRange), ranges[index]? = some range →
      range.startByte = start + index * unit ∧ range.byteCount = unit ∧ range.unitBytes = unit) :
    Tiles unit start (start + ranges.length * unit) ranges := by
  induction ranges generalizing start with
  | nil => simpa using Tiles.nil
  | cons range ranges ih =>
    obtain ⟨hb, hc, hu⟩ := h 0 range rfl
    have hnext : (start + unit) % unit = 0 := by rw [Nat.add_mod_right, hs]
    have hrest := ih hnext fun index range hr => by
      have := h (index + 1) range hr
      rwa [Nat.succ_mul, Nat.add_comm (index * unit), ← Nat.add_assoc] at this
    rw [List.length_cons, Nat.succ_mul, Nat.add_comm (ranges.length * unit), ← Nat.add_assoc]
    exact .cons (by simpa using hb) hc hu hs hrest

/-- The whole units of a file, one after the other, are the file. -/
theorem flatMap_units {cells : List β} (h : cells.length = count * unit) :
    (List.range count).flatMap (fun index => slice cells (index * unit) unit) = cells := by
  have hread (n : Nat) :
      (List.range n).flatMap (fun index => slice cells (index * unit) unit) =
        cells.take (n * unit) := by
    induction n with
    | zero => simp
    | succ n ih =>
      rw [List.range_succ, List.flatMap_append, ih, Nat.succ_mul, List.take_add]
      simp [slice]
  rw [hread, ← h, List.take_length]

/-- The protected units of an image: they are the aligned units that hold the sector, and the sector
is all that is new in them. -/
structure ExactUnits (sha256 : Hashed → Digest) (image : Bytes) (sectorStart : Nat)
    (sector : Bytes) (units : ProtectedUnits) : Prop where
  tiles : Tiles units.unitBytes (unitStart sectorStart units.unitBytes)
    (unitEnd sectorStart units.unitBytes) (units.ranges sha256)
  starts : unitStart sectorStart units.unitBytes ≤ sectorStart
  ends : sectorStart + 2048 ≤ unitEnd sectorStart units.unitBytes
  inside : unitEnd sectorStart units.unitBytes ≤ image.length
  before : (List.range units.count).flatMap (units.unit units.before) =
    slice image (unitStart sectorStart units.unitBytes)
      (unitEnd sectorStart units.unitBytes - unitStart sectorStart units.unitBytes)
  after_length : ((List.range units.count).flatMap (units.unit units.after)).length =
    ((List.range units.count).flatMap (units.unit units.before)).length
  observed : slice ((List.range units.count).flatMap (units.unit units.after))
    (sectorStart - unitStart sectorStart units.unitBytes) 2048 = sector
  unchanged : ∀ i, i < sectorStart - unitStart sectorStart units.unitBytes ∨
      sectorStart - unitStart sectorStart units.unitBytes + 2048 ≤ i →
    ((List.range units.count).flatMap (units.unit units.after))[i]? =
      ((List.range units.count).flatMap (units.unit units.before))[i]?

variable {sha256 : Hashed → Digest} {metadataLength : DvdRecoveryJournalMetadata → Nat}

namespace UnitsOf

theorem flatMap_before (h : UnitsOf image startLba units) :
    (List.range units.count).flatMap (units.unit units.before) = units.before :=
  flatMap_units h.whole

theorem flatMap_after (h : UnitsOf image startLba units) :
    (List.range units.count).flatMap (units.unit units.after) = units.after :=
  flatMap_units (h.after_length.trans h.whole)

theorem tiles (h : UnitsOf image startLba units) :
    Tiles units.unitBytes (unitStart (startLba * 2048) units.unitBytes)
      (unitEnd (startLba * 2048) units.unitBytes) (units.ranges sha256) := by
  have hcount : (units.ranges sha256).length = units.count := units.length_ranges
  rw [h.stop, ← h.start, h.whole, ← hcount]
  apply Tiles.of_getElem
  · rw [h.startByte_eq, Nat.mul_mod_left]
  · intro index range hr
    rw [units.getElem?_ranges] at hr
    split at hr
    · cases hr
      exact ⟨rfl, rfl, rfl⟩
    · cases hr

end UnitsOf

/-- The new content of the units is the old one with the observed sector in its place. -/
theorem protectUnits_after (h : protectUnits o admitted w = .ok units) :
    units.after = patch units.before
      (o.observation.startLba * 2048 - unitStart (o.observation.startLba * 2048) units.unitBytes)
      o.observation.bytes := by
  simp only [protectUnits, bind_ok, pure_ok] at h
  obtain ⟨_, -, _, -, _, -, rfl⟩ := h
  rfl

theorem protectUnits_exact (h : protectUnits o admitted w = .ok units)
    (hb : o.observation.bytes.length = 2048) :
    ExactUnits sha256 w.disk.image.bytes (o.observation.startLba * 2048) o.observation.bytes
      units := by
  obtain ⟨hu, -⟩ := protectUnits_ok h hb
  obtain ⟨count, -, hstop, hlo, hhi⟩ := unitEnd_eq (o.observation.startLba * 2048) hu.unit_pos
  have hcount : unitEnd (o.observation.startLba * 2048) units.unitBytes -
      unitStart (o.observation.startLba * 2048) units.unitBytes = units.before.length := by
    rw [hu.stop, hu.start, Nat.add_sub_cancel_left]
  have hinside : o.observation.startLba * 2048 -
      unitStart (o.observation.startLba * 2048) units.unitBytes + o.observation.bytes.length ≤
        units.before.length := by omega
  constructor
  · exact hu.tiles
  · exact hlo
  · exact hhi
  · rw [hu.stop]
    exact hu.fits
  · rw [hu.flatMap_before, hcount, ← hu.start]
    exact hu.before
  · rw [hu.flatMap_before, hu.flatMap_after, hu.after_length]
  · have hself := slice_patch_self hinside
    rw [hb] at hself
    rw [hu.flatMap_after, protectUnits_after h, hself]
  · intro i hi
    rw [hu.flatMap_before, hu.flatMap_after, protectUnits_after h, getElem?_patch hinside,
      if_neg (by omega)]

/-- The image once some of the protected units have been overwritten, in whatever order. -/
def overwrite (units : ProtectedUnits) (written : List Nat) (image : Bytes) : Bytes :=
  written.foldl (fun cells index =>
    patch cells (units.startByte + index * units.unitBytes) (units.unit units.after index)) image

namespace UnitsOf

/-- Overwriting a unit leaves a torn image, the other units as they were. -/
theorem overwrite_unit {index : Nat} (h : UnitsOf image startLba units) (hi : index < units.count)
    (ht : Torn units.unitBytes image (written image units) cells) :
    Torn units.unitBytes image (written image units)
      (patch cells (units.startByte + index * units.unitBytes) (units.unit units.after index)) ∧
    ∀ u ≠ first startLba units + index,
      slice (patch cells (units.startByte + index * units.unitBytes) (units.unit units.after index))
        (u * units.unitBytes) units.unitBytes =
      slice cells (u * units.unitBytes) units.unitBytes := by
  have hlen := h.length_unit_after hi
  have hfits := ht.length ▸ h.unit_fits hi
  rw [h.startByte_eq, ← Nat.add_mul]
  constructor
  · exact ht.write (.inr (h.unit_after hi)) hlen hfits
  · intro u hu
    have := units_apart units.unitBytes hu
    exact slice_patch_outside (by omega) (by omega)

theorem overwrite_torn (h : UnitsOf image startLba units) (hw : ∀ index ∈ list, index < units.count)
    (ht : Torn units.unitBytes image (written image units) cells) :
    Torn units.unitBytes image (written image units) (overwrite units list cells) ∧
    ∀ u, (∀ index ∈ list, u ≠ first startLba units + index) →
      slice (overwrite units list cells) (u * units.unitBytes) units.unitBytes =
        slice cells (u * units.unitBytes) units.unitBytes := by
  induction list generalizing cells with
  | nil => exact ⟨ht, fun _ _ => rfl⟩
  | cons index list ih =>
    obtain ⟨ht', hother⟩ := h.overwrite_unit (hw index List.mem_cons_self) ht
    obtain ⟨htorn, hrest⟩ := ih (fun i hi => hw i (List.mem_cons_of_mem _ hi)) ht'
    refine ⟨htorn, fun u hu => ?_⟩
    have hu' := hrest u fun i hi => hu i (List.mem_cons_of_mem _ hi)
    exact hu'.trans (hother u (hu index List.mem_cons_self))

/-- The units that were overwritten have their new content. -/
theorem overwrite_written (h : UnitsOf image startLba units)
    (hw : ∀ index ∈ list, index < units.count)
    (ht : Torn units.unitBytes image (written image units) cells) (hi : index ∈ list) :
    slice (overwrite units list cells) ((first startLba units + index) * units.unitBytes)
        units.unitBytes =
      slice (written image units) ((first startLba units + index) * units.unitBytes)
        units.unitBytes := by
  induction list generalizing cells with
  | nil => cases hi
  | cons next list ih =>
    have hnext := hw next List.mem_cons_self
    have hrest : ∀ index ∈ list, index < units.count :=
      fun index hm => hw index (List.mem_cons_of_mem _ hm)
    obtain ⟨ht', -⟩ := h.overwrite_unit hnext ht
    by_cases hm : index ∈ list
    · exact ih hrest ht' hm
    · obtain rfl := (List.mem_cons.1 hi).resolve_right hm
      obtain ⟨-, hkept⟩ := h.overwrite_torn hrest ht'
      have hlen := h.length_unit_after hnext
      have hfits := ht.length ▸ h.unit_fits hnext
      have hself := slice_patch_self
        (hlen ▸ hfits : _ + (units.unit units.after index).length ≤ cells.length)
      rw [hlen] at hself
      have hlater := hkept (first startLba units + index) fun other hother he =>
        hm (Nat.add_left_cancel he ▸ hother)
      rw [Nat.add_mul, ← h.startByte_eq] at hself hlater
      have hafter := h.unit_after hnext
      rw [Nat.add_mul, ← h.startByte_eq] at hafter ⊢
      exact (hlater.trans hself).trans hafter

/-- An image torn between the old and the new one is the old one with some units overwritten. -/
theorem torn_overwrite (h : UnitsOf image startLba units)
    (ht : Torn units.unitBytes image (written image units) cells) :
    ∃ list, (∀ index ∈ list, index < units.count) ∧ cells = overwrite units list image := by
  obtain ⟨list, hlist⟩ : ∃ list : List Nat, ∀ index, index ∈ list ↔ index < units.count ∧
      slice cells ((first startLba units + index) * units.unitBytes) units.unitBytes =
        slice (written image units) ((first startLba units + index) * units.unitBytes)
          units.unitBytes := by
    refine ⟨(List.range units.count).filter fun index =>
      slice cells ((first startLba units + index) * units.unitBytes) units.unitBytes =
        slice (written image units) ((first startLba units + index) * units.unitBytes)
          units.unitBytes, fun index => ?_⟩
    rw [List.mem_filter, List.mem_range, decide_eq_true_eq]
  have hw : ∀ index ∈ list, index < units.count := fun index hm => ((hlist index).1 hm).1
  refine ⟨list, hw, ?_⟩
  have hold := Torn.old units.unitBytes image (written image units)
  obtain ⟨-, hkept⟩ := h.overwrite_torn hw hold
  apply eq_of_units h.unit_pos
  intro u
  by_cases hu : ∃ index < units.count, u = first startLba units + index ∧
      slice cells (u * units.unitBytes) units.unitBytes =
        slice (written image units) (u * units.unitBytes) units.unitBytes
  · obtain ⟨index, hi, rfl, hnew⟩ := hu
    exact hnew.trans (h.overwrite_written hw hold ((hlist index).2 ⟨hi, hnew⟩)).symm
  · have hunwritten := hkept u fun index hm he => by
      obtain ⟨hi, hnew⟩ := (hlist index).1 hm
      rw [← he] at hnew
      exact hu ⟨index, hi, he, hnew⟩
    rw [hunwritten]
    rcases ht.unit_eq u with hsame | hnew
    · exact hsame
    · have houtside : ∀ index < units.count, u ≠ first startLba units + index :=
        fun index hi he => hu ⟨index, hi, he, hnew⟩
      exact hnew.trans (h.written_outside houtside)

/-- Whatever units were overwritten, putting those back from their place in the payload leaves the
image as it was. -/
theorem rollback (h : UnitsOf image startLba units) (hw : ∀ index ∈ list, index < units.count)
    (hs : ∀ index ∈ list, states[index]? = some .after)
    (hv : v.disk.image.bytes = overwrite units list image) :
    ∃ mtimeNs, (restoreUnits ro units.before
      ((journalFor sha256 o admitted units).protectedRanges.zip states)).run v =
        (.ok (), v.setImage image mtimeNs) := by
  have hlength : (journalFor sha256 o admitted units).protectedRanges.length = units.count := by
    simp [journalFor]
  obtain ⟨ht, hrest⟩ := h.overwrite_torn hw (Torn.old units.unitBytes image (written image units))
  have hsafe : (restoreUnits ro units.before
      ((journalFor sha256 o admitted units).protectedRanges.zip states)).Safe Eq (fun _ => True)
      (fun r t => r = .ok () ∧ ∃ mtimeNs, t = v.setImage image mtimeNs)
      (v.setImage (overwrite units list image) v.disk.image.mtimeNs) :=
    restoreUnits_safe h.unit_pos (fun _ _ _ => trivial) (fun p hp => ?_) (fun u => ?_) ht
  · rw [← hv] at hsafe
    obtain ⟨hok, mtimeNs, ht⟩ := hsafe.run fun _ => rfl
    exact ⟨mtimeNs, Prod.ext hok ht⟩
  · obtain ⟨index, hi⟩ := List.mem_iff_getElem?.1 (List.of_mem_zip hp).1
    exact h.restores hi
  · by_cases hu : ∃ index ∈ list, u = first startLba units + index
    · obtain ⟨index, hm, rfl⟩ := hu
      have hi := hw index hm
      have hr := getElem?_journalRanges sha256 o admitted units index
      rw [if_pos hi] at hr
      refine .inr ⟨⟨_, .after⟩, List.mem_iff_getElem?.2 ⟨index,
        List.getElem?_zip_eq_some.2 ⟨hr, hs index hm⟩⟩, rfl, ?_⟩
      simp only [h.startByte_eq, Nat.add_mul]
    · exact .inl (hrest u fun index hm he => hu ⟨index, hm, he⟩)

end UnitsOf

/-- A journal that fits can be reserved where there is none. -/
theorem reserveJournal_ok {v : World} (hfits : fitsJournalHeader metadataLength metadata)
    (hcapacity : originalBytes.length ≤ 983040) (hnone : v.disk.journal = none) :
    (reserveJournal metadataLength metadata originalBytes).run v =
      (.ok (), { v with disk := { v.disk with
        journal := some ⟨true, some metadata, some originalBytes⟩ } }) := by
  rw [reserveJournal, if_neg (by
    rw [not_or, not_not]
    exact ⟨hfits, Nat.not_lt.2 hcapacity⟩)]
  simp only [createExclusively, Program.run_bind, Program.transaction, Program.run, updateDisk,
    Program.modify, hnone]
  rfl

/-- A journal that was reserved holds its header and the whole payload. -/
theorem reserveJournal_run {v : World}
    (h : ((reserveJournal metadataLength metadata originalBytes).run v) = (.ok (), v')) :
    fitsJournalHeader metadataLength metadata ∧
      v'.disk.journal = some ⟨true, some metadata, some originalBytes⟩ := by
  rw [reserveJournal] at h
  split at h
  · cases h
  · rename_i hfits
    simp only [not_or, not_not] at hfits
    refine ⟨hfits.1, ?_⟩
    simp only [createExclusively, Program.run_bind, Program.transaction, Program.run] at h
    by_cases hj : v.disk.journal.isSome = true
    · simp [hj, Except.map] at h
    · simp only [hj, Except.map, updateDisk, Program.modify, Program.run] at h
      cases h
      rfl

/-- Where a run has come to: its image is the one it began with, or the journal is complete and some
of its units are overwritten, or the checkpoint is committed and all of them are. -/
structure ProtectedWrites (sha256 : Hashed → Digest) (o : DvdRecoveryBatchOptions)
    (admitted : AdmittedBatch) (units : ProtectedUnits) (w t : World) : Prop where
  journal : ∀ file, t.disk.journal = some file → file.Complete →
    file = undoFile sha256 o admitted units
  image : t.disk.image.bytes = w.disk.image.bytes ∨
    (t.disk.journal = some (undoFile sha256 o admitted units) ∧ ∃ written,
      (∀ index ∈ written, index < units.count) ∧
        t.disk.image.bytes = overwrite units written w.disk.image.bytes) ∨
    (t.disk.journal = none ∧ (∃ manifest, Installs sha256 o admitted units manifest ∧
      t.disk.pointer = pointerTo (.recovery manifest)) ∧
        t.disk.image.bytes = UnitsOf.written w.disk.image.bytes units)

/-- Wherever a batch of a recovered sector is cut off, its writes are protected. -/
theorem Cut.protected (h : Cut sha256 metadataLength o w t)
    (ha : admitBatch sha256 o w = .ok admitted) (hp : protectUnits o admitted w = .ok units) :
    ProtectedWrites sha256 o admitted units w t := by
  have hbase (hb : AtBase w t) : ProtectedWrites sha256 o admitted units w t := by
    refine ⟨?_, .inl (congrArg ImageFile.bytes hb.image)⟩
    intro file hfile
    rw [hb.journal] at hfile
    cases hfile
  have hkept (hfile : t.disk.journal = some (undoFile sha256 o admitted units)) :
      ∀ file, t.disk.journal = some file → file.Complete →
        file = undoFile sha256 o admitted units := by
    intro file hother _
    exact Option.some.inj (hother.symm.trans hfile)
  cases h with
  | journaling hj =>
    obtain ⟨file, hincomplete, rfl⟩ := hj
    refine ⟨?_, .inl rfl⟩
    intro other hother hcomplete
    cases hother
    exact absurd hcomplete hincomplete
  | base hb => exact hbase hb
  | interrupted hr hi =>
    cases Except.ok.inj ((admitBatch_ok.2 hr.begun).symm.trans ha)
    cases Except.ok.inj (hr.protect.symm.trans hp)
    obtain ⟨hu, -⟩ := hr.unitsOf
    cases hi with
    | base hb => exact hbase hb
    | journaled hj =>
      exact ⟨hkept hj.journal, .inr (.inl ⟨hj.journal, hu.torn_overwrite hj.torn⟩)⟩
    | published fits journal installs published =>
      have hnew := hu.torn_overwrite (Torn.new units.unitBytes hu.length_written)
      rw [← published.bytes] at hnew
      exact ⟨hkept journal, .inr (.inl ⟨journal, hnew⟩)⟩
    | next installs hn =>
      refine ⟨?_, .inr (.inr ⟨hn.journal, ⟨_, installs, hn.published.pointer⟩, hn.published.bytes⟩)⟩
      intro file hfile
      rw [hn.journal] at hfile
      cases hfile

/-- A batch protects the aligned units that hold its sector, changes nothing in them but the sector,
and keeps all of them in a journal that readers accept; whichever of them were overwritten, putting
those back from the journal's payload restores the image. A run from a consistent state writes no
unit before that journal is complete, and nothing but those units. -/
theorem runOwnedBatch_protects (metadataLength : DvdRecoveryJournalMetadata → Nat)
    (ha : admitBatch sha256 o w = .ok admitted)
    (ho : o.observation.outcome = .recovered) (hp : protectUnits o admitted w' = .ok units) :
    units.unitBytes = admitted.protection.unitBytes ∧
    w'.disk.image.bytes.length = admitted.current.manifest.boundaryPublishedSizeBytes ∧
    ExactUnits sha256 w'.disk.image.bytes (o.observation.startLba * 2048) o.observation.bytes
      units ∧
    units.before = (List.range units.count).flatMap (units.unit units.before) ∧
    units.before.length ≤ 983040 ∧
    (∀ v v' : World, (reserveJournal metadataLength (undoJournal sha256 o admitted units).metadata
        units.before).run v = (.ok (), v') →
      v'.disk.journal = some (undoFile sha256 o admitted units) ∧
      readDvdRecoveryJournal sha256 metadataLength (undoFile sha256 o admitted units) =
        .ok ⟨(undoJournal sha256 o admitted units).metadata, units.before⟩) ∧
    (undoJournal sha256 o admitted units).metadata.protectedRanges.map
      (·.toDvdRecoveryProtectedRange) = units.ranges sha256 ∧
    (∀ (ro : DvdRecoveryReconciliationOptions) (v : World) (written : List Nat)
      (states : List UnitState), (∀ index ∈ written, index < units.count) →
      (∀ index ∈ written, states[index]? = some .after) →
      v.disk.image.bytes = overwrite units written w'.disk.image.bytes →
      ∃ mtimeNs, (restoreUnits ro units.before
        ((undoJournal sha256 o admitted units).metadata.protectedRanges.zip states)).run v =
          (.ok (), v.setImage w'.disk.image.bytes mtimeNs)) ∧
    (protectUnits o admitted w = .ok units → Consistent sha256 w admitted.current →
      BoundTo o.recoveryWorkClaim w.catalog →
        ∀ t ∈ (runOwnedBatch sha256 metadataLength o).crashes w,
          ProtectedWrites sha256 o admitted units w t) := by
  have hbegun := admitBatch_ok.1 ha
  have hb := hbegun.bytes ho
  obtain ⟨hu, hunit, -, -, hlen⟩ := protectUnits_ok hp hb
  refine ⟨hunit, hlen, protectUnits_exact hp hb, hu.flatMap_before.symm, hu.capacity, ?_, ?_, ?_,
    ?_⟩
  · intro v v' hrun
    obtain ⟨hfits, hfile⟩ := reserveJournal_run hrun
    exact ⟨hfile, hbegun.readJournal hu hlen hfits⟩
  · exact journalRanges_base o admitted units
  · intro ro v written states hw hs hv
    exact hu.rollback hw hs hv
  · intro hunits hc hbound t ht
    have hsafe := @runOwnedBatch_recovered sha256 metadataLength o w admitted.current hc hbound ho
    exact (hsafe.crashes (fun _ => rfl) ht).protected ha hunits

/-- The sample batch after a crash between its two unit writes, its first unit put back. -/
theorem sampleBatch_protects : ∃ admitted units,
    admitBatch sampleSha256 sampleBatch sampleWorld = .ok admitted ∧
    protectUnits sampleBatch admitted sampleWorld = .ok units ∧ units.count = 2 ∧
    ExactUnits sampleSha256 sampleImage.bytes (sampleBatch.observation.startLba * 2048)
      sampleBatch.observation.bytes units ∧
    readDvdRecoveryJournal sampleSha256 sampleMetadataLength
        (undoFile sampleSha256 sampleBatch admitted units) =
      .ok ⟨(undoJournal sampleSha256 sampleBatch admitted units).metadata, units.before⟩ ∧
    (∃ mtimeNs, (restoreUnits sampleReconciliation units.before
        ((undoJournal sampleSha256 sampleBatch admitted units).metadata.protectedRanges.zip
          [.after, .before])).run
        (sampleWorld.setImage (overwrite units [0] sampleImage.bytes) 1) =
      (.ok (), sampleWorld.setImage sampleImage.bytes mtimeNs)) ∧
    ∀ t ∈ (runOwnedBatch sampleSha256 sampleMetadataLength sampleBatch).crashes sampleWorld,
      ProtectedWrites sampleSha256 sampleBatch admitted units sampleWorld t := by
  have hrun : (match admitBatch sampleSha256 sampleBatch sampleWorld with
      | .error _ => false
      | .ok admitted => match protectUnits sampleBatch admitted sampleWorld with
        | .error _ => false
        | .ok units => units.count = 2) = true := by
    decide +kernel
  cases hbatch : admitBatch sampleSha256 sampleBatch sampleWorld with
  | error => simp [hbatch] at hrun
  | ok admitted =>
    cases hunits : protectUnits sampleBatch admitted sampleWorld with
    | error => simp [hbatch, hunits] at hrun
    | ok units =>
      simp only [hbatch, hunits, decide_eq_true_eq] at hrun
      obtain ⟨-, -, hexact, -, hcapacity, hjournal, -, hrestore, hwrites⟩ :=
        runOwnedBatch_protects sampleMetadataLength hbatch rfl hunits
      obtain ⟨mtimeNs, hback⟩ := hrestore sampleReconciliation
        (sampleWorld.setImage (overwrite units [0] sampleImage.bytes) 1) [0] [.after, .before]
        (by simp [hrun]) (by simp) rfl
      have hfits : fitsJournalHeader sampleMetadataLength
          (undoJournal sampleSha256 sampleBatch admitted units).metadata :=
        show 64 + 4096 ≤ 65536 by decide
      obtain ⟨-, hread⟩ := hjournal sampleWorld _ (reserveJournal_ok hfits hcapacity rfl)
      obtain ⟨hc, hbound⟩ := sampleBatch_admitted hbatch
      exact ⟨admitted, units, rfl, hunits, hrun, hexact, hread, ⟨mtimeNs, hback⟩,
        hwrites hunits hc hbound⟩

end RipDvd
