import RipDvd.Collections
import RipDvd.GeometryReads

namespace RipDvd
set_option autoImplicit true

open Metered

section Agreement

theorem readSector_agree (image : DvdImage) (sectorCount lba : Nat) :
    Agree (image.readSector lba) ((image.cut sectorCount).readSector lba) :=
  .bind .unit fun _ => .read (image.sector lba)

theorem readIsoView_agree (image : DvdImage) (sectorCount : Nat) (descriptor : DvdSector) :
    Agree (readIsoView image descriptor) (readIsoView (image.cut sectorCount) descriptor) := by
  have h16 (offset : Nat) (description : String) :
      Agree (readBothEndian16 descriptor offset description)
        (readBothEndian16 descriptor offset description) :=
    .of_spends (readBothEndian16_spends _ _ _) (readBothEndian16_spends _ _ _)
      fun _ _ ha hb => ha.trans hb.symm
  have h32 : Agree (readBothEndian32 descriptor 80 "ISO volume-space declaration")
      (readBothEndian32 descriptor 80 "ISO volume-space declaration") :=
    .of_spends (readBothEndian32_spends _ _ _) (readBothEndian32_spends _ _ _)
      fun _ _ ha hb => ha.trans hb.symm
  refine .bind h32 fun volumeSpaceSize => .bind (h16 _ _) fun volumeSetSize => ?_
  refine .bind (h16 _ _) fun volumeSequenceNumber => .bind (h16 _ _) fun logicalBlockSize => ?_
  exact .bind .unit fun _ => .bind .unit fun _ => .pure _

/-- The descriptors of an image and of its cut prefix are the same as far as both are read. -/
theorem readIsoDescriptors_agree (image : DvdImage) (sectorCount : Nat)
    (firstDescriptor : DvdSector) (remaining index : Nat) (volumes : IsoVolumes) :
    Agree (readIsoDescriptors image firstDescriptor remaining index volumes)
      (readIsoDescriptors (image.cut sectorCount) firstDescriptor remaining index volumes) := by
  induction remaining generalizing index volumes with
  | zero => exact .fail
  | succ remaining ih =>
    refine .bind .unit fun _ => ?_
    refine .bind (.ite (.pure _) (readSector_agree _ _ _)) fun descriptor => ?_
    refine .bind .unit fun _ => .ite (.pure _) (.ite (ih _ _) ?_)
    refine .bind .unit fun _ => .bind .unit fun _ => ?_
    exact .bind (readIsoView_agree _ _ _) fun view => ih _ _

theorem validateUdfTag_agree (buffer : DvdSector) (identifiers : List Nat) (location : Nat) :
    Agree (validateUdfTag buffer identifiers location)
      (validateUdfTag buffer identifiers location) :=
  .of_spends (validateUdfTag_spends _ _ _) (validateUdfTag_spends _ _ _)
    fun _ _ ha hb => ha.trans hb.symm

theorem readUdfExtents_agree (buffer : DvdSector) (count count' : Nat) (description : String)
    (allowEmpty : Bool) (offsets : List Nat) :
    Agree (readUdfExtents buffer count description allowEmpty offsets)
      (readUdfExtents buffer count' description allowEmpty offsets) :=
  .of_spends (readUdfExtents_spends _ _ _ _ _) (readUdfExtents_spends _ _ _ _ _)
    fun _ _ ha hb => ha.1.trans hb.1.symm

theorem readUdfExtentOf_agree (buffer : DvdSector) (offset count count' : Nat)
    (description : String) :
    Agree (readUdfExtentOf buffer offset count description)
      (readUdfExtentOf buffer offset count' description) :=
  .of_spends (readUdfExtentOf_spends _ _ _ _) (readUdfExtentOf_spends _ _ _ _)
    fun _ _ ha hb => Option.some.inj (ha.1.symm.trans hb.1)

theorem readPartitionMaps_agree (descriptor : DvdSector) (mapEnd remaining mapOffset : Nat) :
    Agree (readPartitionMaps descriptor mapEnd remaining mapOffset)
      (readPartitionMaps descriptor mapEnd remaining mapOffset) := by
  induction remaining generalizing mapOffset with
  | zero => exact .pure _
  | succ remaining ih =>
    exact .ite (.pure _) (.bind .unit fun _ => .bind (ih _) fun numbers => .pure _)

theorem readLogicalVolume_agree (image : DvdImage) (sectorCount : Nat) (descriptor : DvdSector) :
    Agree (readLogicalVolume image descriptor)
      (readLogicalVolume (image.cut sectorCount) descriptor) := by
  refine .bind .unit fun _ => .bind (readPartitionMaps_agree _ _ _ _) fun numbers => ?_
  exact .bind .unit fun _ => .bind (readUdfExtentOf_agree _ _ _ _ _) fun integrity => .pure _

theorem parseUdfDescriptor_agree (image : DvdImage) (sectorCount : Nat) (descriptor : DvdSector)
    (identifier : Nat) (s : UdfSequenceState) :
    Agree (parseUdfDescriptor image descriptor identifier s)
      (parseUdfDescriptor (image.cut sectorCount) descriptor identifier s) := by
  refine .ite .fail (.ite ?_ (.ite ?_ (.ite ?_ (.ite ?_ (.pure _)))))
  · exact .bind .unit fun _ => .bind (readUdfExtents_agree _ _ _ _ _ _) fun extents => .pure _
  · exact .bind .unit fun _ => .bind .unit fun _ => .bind .unit fun _ => .pure _
  · exact .bind .unit fun _ => .bind (readLogicalVolume_agree _ _ _) fun volume => .pure _
  · exact .bind .unit fun _ => .bind (readUdfExtents_agree _ _ _ _ _ _) fun extents => .pure _

theorem parseUdfDescriptors_agree (image : DvdImage) (sectorCount remaining lba : Nat)
    (s : UdfSequenceState) :
    Agree (parseUdfDescriptors image remaining lba s)
      (parseUdfDescriptors (image.cut sectorCount) remaining lba s) := by
  induction remaining generalizing lba s with
  | zero => exact .pure _
  | succ remaining ih =>
    refine .bind (readSector_agree _ _ _) fun descriptor => ?_
    refine .bind (validateUdfTag_agree _ _ _) fun identifier => .ite (.pure _) ?_
    exact .bind (parseUdfDescriptor_agree _ _ _ _ _) fun next => ih _ _

theorem parseUdfDescriptorSequence_agree (image : DvdImage) (sectorCount : Nat)
    (sequence : UdfExtent) :
    Agree (parseUdfDescriptorSequence image sequence)
      (parseUdfDescriptorSequence (image.cut sectorCount) sequence) := by
  refine .bind .unit fun _ => .bind (parseUdfDescriptors_agree _ _ _ _ _) fun result => ?_
  obtain ⟨sawTerminator, s⟩ := result
  dsimp only
  cases s.logicalVolume with
  | none => exact .fail
  | some volume => exact .bind .unit fun _ => .bind .unit fun _ => .pure _

theorem readAnchoredSequences_agree (image : DvdImage) (sectorCount : Nat) :
    Agree (readAnchoredSequences image) (readAnchoredSequences (image.cut sectorCount)) := by
  refine .bind .unit fun _ => .bind (readSector_agree _ _ _) fun anchor => ?_
  refine .bind (validateUdfTag_agree _ _ _) fun _ => ?_
  refine .bind (readUdfExtentOf_agree _ _ _ _ _) fun mainSequence => ?_
  refine .bind (readUdfExtentOf_agree _ _ _ _ _) fun reserveSequence => .bind .unit fun _ => ?_
  refine .bind (parseUdfDescriptorSequence_agree _ _ _) fun mainGeometry => ?_
  refine .bind (parseUdfDescriptorSequence_agree _ _ _) fun reserveGeometry => ?_
  exact .bind .unit fun _ => .pure _

end Agreement

section Views

theorem readIsoVolumes_some {image : DvdImage}
    (h : (readIsoVolumes image).run reads = .ok (some volumes, after)) :
    ∃ between, (readIsoDescriptors image (image.sector 16) MAX_ISO_DESCRIPTOR_SECTORS 0
      ⟨0, []⟩).run between = .ok (volumes, after) := by
  rw [readIsoVolumes] at h
  split at h
  · cases h
  · next hcount =>
    obtain ⟨first, between, hread, h⟩ := Metered.bind_ok.1 h
    have hfirst := ((readSector_spends (Nat.lt_of_not_le hcount)).ok hread).2
    subst hfirst
    split at h
    · cases h
    · obtain ⟨found, between', hloop, hpure⟩ := Metered.bind_ok.1 h
      cases hpure
      exact ⟨between, hloop⟩

theorem readUdfSequences_some {image : DvdImage}
    (h : (readUdfSequences image).run reads = .ok (some sequences, after)) :
    ∃ start, (readAnchoredSequences image).run start = .ok (sequences, after) := by
  obtain ⟨descriptors, between, -, h⟩ := Metered.bind_ok.1 h
  split at h
  · obtain ⟨anchored, _, -, h⟩ := Metered.bind_ok.1 h
    obtain ⟨_, _, -, hpure⟩ := Metered.bind_ok.1 h
    cases hpure
  · obtain ⟨_, _, -, h⟩ := Metered.bind_ok.1 h
    obtain ⟨found, start, hread, hpure⟩ := Metered.bind_ok.1 h
    cases hpure
    exact ⟨_, hread⟩

/-- What the validator reads of an image that it accepts, with the geometry that it returns. -/
structure ValidatedImage (image : DvdImage) (geometry : DvdImageGeometry)
    (volumes : Option IsoVolumes) (sequences : Option UdfSequences) : Prop where
  read : ∃ isoReads reads, (readIsoVolumes image).run 0 = .ok (volumes, isoReads) ∧
    (readUdfSequences image).run isoReads = .ok (sequences, reads)
  recognized : volumes.isSome ∨ sequences.isSome
  imageSize : geometry.imageSectorCount = image.sectorCount
  isoRecognized : volumes.isSome ↔ image.RecognizesIso
  isoDeclared : ∀ iso ∈ volumes, iso.DeclaredBy image
  isoSize : geometry.isoVolumeSectorCount.isSome = volumes.isSome
  isoViews : ∀ iso ∈ volumes, iso.views ≠ [] ∧ ∀ view ∈ iso.views,
    geometry.isoVolumeSectorCount = some view.volumeSpaceSize ∧
      view.volumeSpaceSize ≤ image.sectorCount
  udfRecognized : sequences.isSome ↔ image.RecognizesUdf
  udfDeclared : ∀ udf ∈ sequences, udf.DeclaredBy image
  udfSize : geometry.udfMaximumDeclaredSectorCount.isSome = sequences.isSome
  udfExtents : ∀ udf ∈ sequences, ∀ extent ∈ udf.extents, extent.endLba ≤ image.sectorCount ∧
    ∃ maximum ∈ geometry.udfMaximumDeclaredSectorCount, extent.endLba ≤ maximum
  fileSets : ∀ udf ∈ sequences, udf.mainGeometry.fileSetExtent.isSome ∧
    udf.reserveGeometry.fileSetExtent.isSome
  agree : ∀ udf ∈ sequences,
    canonicalUdfGeometry udf.mainGeometry = canonicalUdfGeometry udf.reserveGeometry
  contained : ∀ size ∈ geometry.isoVolumeSectorCount,
    ∀ maximum ∈ geometry.udfMaximumDeclaredSectorCount, maximum ≤ size

theorem validateIsoGeometry_ok {image : DvdImage}
    (h : (validateIsoGeometry image).run reads = .ok (result, after)) :
    ∃ volumes, (readIsoVolumes image).run reads = .ok (volumes, after) ∧
      result.isSome = volumes.isSome ∧
      ∀ iso ∈ volumes, iso.views ≠ [] ∧ ∀ view ∈ iso.views,
        result.map (·.volumeSpaceSize) = some view.volumeSpaceSize := by
  obtain ⟨volumes, between, hread, h⟩ := Metered.bind_ok.1 h
  cases volumes with
  | none =>
    cases h
    refine ⟨none, hread, rfl, fun iso hiso => ?_⟩
    cases hiso
  | some volumes =>
    dsimp only at h
    split at h
    · cases h
    · next view views hviews =>
      obtain ⟨_, _, hprimary, hrest⟩ := Metered.bind_ok.1 h
      obtain ⟨-, rfl⟩ := reject_ok.1 hprimary
      obtain ⟨_, _, hagree, hpure⟩ := Metered.bind_ok.1 hrest
      obtain ⟨hall, rfl⟩ := reject_ok.1 hagree
      cases hpure
      refine ⟨some volumes, hread, rfl, fun iso hiso => ?_⟩
      cases hiso
      rw [hviews]
      refine ⟨List.cons_ne_nil _ _, fun other hother => ?_⟩
      have hsame : isoViewsAgree other view = true := by
        by_contra hnot
        exact hall ⟨other, hother, hnot⟩
      simp only [isoViewsAgree, Bool.and_eq_true, decide_eq_true_eq] at hsame
      rw [Option.map_some, hsame.2]

/-- Both sequences declare the same extents. -/
theorem UdfSequences.Checked.bounded {sequences : UdfSequences} {maximum : Nat}
    (h : sequences.Checked image)
    (hmain : ∀ extent ∈ [sequences.mainSequence, sequences.reserveSequence] ++
      sequences.mainGeometry.extents, extent.endLba ≤ maximum) :
    ∀ extent ∈ sequences.extents, extent.endLba ≤ maximum := by
  have hsame := h.agree
  simp only [canonicalUdfGeometry, UdfSequenceGeometry.mk.injEq] at hsame
  obtain ⟨hvolume, hpartitions, hprimary, hunallocated⟩ := hsame
  have hmem {α : Type} {cmp : α → α → Bool} {l l' : List α}
      (hsorted : l.mergeSort cmp = l'.mergeSort cmp) (a : α) (ha : a ∈ l') : a ∈ l := by
    have hin := (List.mergeSort_perm l' cmp).mem_iff.2 ha
    rw [← hsorted] at hin
    exact (List.mergeSort_perm l cmp).mem_iff.1 hin
  have hdeclared (extent : UdfExtent) (h : extent ∈ sequences.mainGeometry.extents) :
      extent.endLba ≤ maximum := hmain extent (List.mem_append_right _ h)
  have hpartition (partition_ : UdfPartition)
      (h : partition_ ∈ sequences.reserveGeometry.partitions) : partition_.endLba ≤ maximum := by
    apply hdeclared partition_.toUdfExtent
    simp only [UdfSequenceGeometry.extents, List.mem_append, List.mem_map]
    exact .inl (.inl (.inl (.inl ⟨partition_, hmem hpartitions partition_ h, rfl⟩)))
  intro extent hextent
  obtain hextent | hextent := List.mem_append.1 hextent
  · exact hmain extent hextent
  simp only [UdfSequenceGeometry.extents, List.mem_append, List.mem_singleton, List.mem_map]
    at hextent hdeclared
  obtain (((⟨partition_, hin, rfl⟩ | hin) | hin) | rfl) | hset := hextent
  · exact hpartition partition_ hin
  · exact hdeclared extent (.inl (.inl (.inl (.inr (hmem hprimary extent hin)))))
  · exact hdeclared extent (.inl (.inl (.inr (hmem hunallocated extent hin))))
  · exact hdeclared _ (.inl (.inr (by rw [hvolume])))
  · obtain ⟨declared, hfound, partition_, hin, hbelow⟩ := h.reserveFileSet
    cases hfound.symm.trans (Option.mem_toList.1 hset)
    exact hbelow.trans (hpartition partition_ hin)

theorem validateUdfGeometry_ok {image : DvdImage}
    (h : (validateUdfGeometry image).run reads = .ok (result, after)) :
    ∃ sequences between, (readUdfSequences image).run reads = .ok (sequences, between) ∧
      result.isSome = sequences.isSome ∧
      ∀ udf ∈ sequences, udf.Checked image ∧ ∀ extent ∈ udf.extents,
        ∃ maximum ∈ result.map (·.maximumDeclaredSectorCount), extent.endLba ≤ maximum := by
  obtain ⟨sequences, between, hread, hrest⟩ := Metered.bind_ok.1 h
  have hchecked := ((readUdfSequences_spends image).ok hread).2.2
  cases sequences with
  | none =>
    cases hrest
    refine ⟨none, _, hread, rfl, fun udf hudf => ?_⟩
    cases hudf
  | some udf =>
    obtain ⟨anchors, _, -, hpure⟩ := Metered.bind_ok.1 hrest
    cases hpure
    refine ⟨some udf, between, hread, rfl, fun other hother => ?_⟩
    cases hother
    refine ⟨hchecked udf rfl, fun extent hextent => ⟨_, rfl, ?_⟩⟩
    revert extent
    apply (hchecked udf rfl).bounded
    intro extent hextent
    apply (le_foldl_max _ 0).2
    apply List.mem_map_of_mem
    simp only [List.mem_append] at hextent ⊢
    exact hextent.imp .inl id

theorem validateOpenedImage_ok {image : DvdImage}
    (h : (validateOpenedImage image).run 0 = .ok (geometry, after)) :
    ∃ volumes sequences, ValidatedImage image geometry volumes sequences := by
  obtain ⟨isoGeometry, isoReads, hiso, hrest⟩ := Metered.bind_ok.1 h
  obtain ⟨udfGeometry, udfReads, hudf, hrest'⟩ := Metered.bind_ok.1 hrest
  obtain ⟨_, _, hsupported, hrest''⟩ := Metered.bind_ok.1 hrest'
  obtain ⟨_, _, hagree, hpure⟩ := Metered.bind_ok.1 hrest''
  cases hpure
  obtain ⟨hsupported, -⟩ := reject_ok.1 hsupported
  obtain ⟨hagree, -⟩ := reject_ok.1 hagree
  obtain ⟨volumes, hvolumes, hisoSome, hviews⟩ := validateIsoGeometry_ok hiso
  obtain ⟨sequences, reads, hsequences, hudfSome, hextents⟩ :=
    validateUdfGeometry_ok (rethrow_ok.1 hudf)
  obtain ⟨-, hisoRecognized, hdeclared⟩ := (readIsoVolumes_spends image).ok hvolumes
  have hudfRecognized := ((readUdfSequences_spends image).ok hsequences).2.1
  refine ⟨volumes, sequences, ?_⟩
  constructor
  case read => exact ⟨isoReads, reads, hvolumes, hsequences⟩
  case recognized =>
    rw [← hisoSome, ← hudfSome]
    cases isoGeometry with
    | some view => exact .inl rfl
    | none =>
      cases udfGeometry with
      | some view => exact .inr rfl
      | none => exact absurd ⟨rfl, rfl⟩ hsupported
  case imageSize => rfl
  case isoRecognized => exact hisoRecognized
  case isoDeclared => exact fun iso hmem => (hdeclared iso hmem).2
  case isoSize => rw [Option.isSome_map, hisoSome]
  case isoViews =>
    intro iso hmem
    refine ⟨(hviews iso hmem).1, fun view hview => ?_⟩
    exact ⟨(hviews iso hmem).2 view hview, (hdeclared iso hmem).1 view hview⟩
  case udfRecognized => exact hudfRecognized
  case udfDeclared => exact fun udf hmem => (hextents udf hmem).1.declared
  case udfSize => rw [Option.isSome_map, hudfSome]
  case udfExtents =>
    intro udf hmem extent hextent
    exact ⟨(hextents udf hmem).1.inside extent hextent, (hextents udf hmem).2 extent hextent⟩
  case fileSets =>
    intro udf hmem
    obtain ⟨main, hmain, -⟩ := (hextents udf hmem).1.mainFileSet
    obtain ⟨reserve, hreserve, -⟩ := (hextents udf hmem).1.reserveFileSet
    exact ⟨Option.isSome_of_mem hmain, Option.isSome_of_mem hreserve⟩
  case agree => exact fun udf hmem => (hextents udf hmem).1.agree
  case contained =>
    intro size hsize maximum hmaximum
    obtain ⟨iso, hmem, rfl⟩ := Option.map_eq_some_iff.1 hsize
    obtain ⟨udf, hmem', rfl⟩ := Option.map_eq_some_iff.1 hmaximum
    by_contra hlarger
    exact hagree ⟨iso, hmem, udf, hmem', Nat.lt_of_not_le hlarger⟩

end Views

section Truncation

variable {image : DvdImage} {sectorCount : Nat} {volumes volumes' : Option IsoVolumes}
  {sequences sequences' : Option UdfSequences}

theorem ValidatedImage.anchored (h : ValidatedImage image geometry volumes sequences)
    (hudf : udf ∈ sequences) : 256 < image.sectorCount := by
  obtain ⟨isoReads, reads, -, hsequences⟩ := h.read
  exact (((readUdfSequences_spends image).ok hsequences).2.2 udf hudf).anchored

/-- Some view has the size that the validator returned. -/
theorem ValidatedImage.sized (h : ValidatedImage image geometry (some iso) sequences) :
    ∃ view ∈ iso.views, geometry.isoVolumeSectorCount = some view.volumeSpaceSize := by
  obtain ⟨hviews, hsame⟩ := h.isoViews iso rfl
  obtain ⟨view, hview⟩ := List.exists_mem_of_ne_nil iso.views hviews
  exact ⟨view, hview, (hsame view hview).1⟩

/-- The ISO volume of an image lies inside each prefix of it that is accepted. -/
theorem ValidatedImage.cut_iso (h : ValidatedImage image geometry (some iso) sequences)
    (hcut : ValidatedImage (image.cut sectorCount) geometry' volumes' sequences') :
    ∀ view ∈ iso.views, view.volumeSpaceSize ≤ sectorCount := by
  obtain ⟨isoReads, reads, hvolumes, -⟩ := h.read
  obtain ⟨isoReads', reads', hvolumes', -⟩ := hcut.read
  obtain ⟨between, hloop⟩ := readIsoVolumes_some hvolumes
  cases volumes' with
  | none =>
    obtain hnone | hsome := hcut.recognized
    · cases hnone
    · obtain ⟨udf, hudf⟩ := Option.isSome_iff_exists.1 hsome
      have hcount : 16 < sectorCount := Nat.lt_trans (by decide) (hcut.anchored hudf)
      cases hcut.isoRecognized.2 ⟨hcount, (h.isoRecognized.1 rfl).2⟩
  | some iso' =>
    obtain ⟨between', hloop'⟩ := readIsoVolumes_some hvolumes'
    have hsame := readIsoDescriptors_agree image sectorCount _ _ _ _ _ _ _ _ _ _ hloop hloop'
    intro view hview
    exact ((hcut.isoViews iso' rfl).2 view (hsame ▸ hview)).2

/-- So do the extents of its UDF filesystem. -/
theorem ValidatedImage.cut_udf (h : ValidatedImage image geometry volumes (some udf))
    (hcut : ValidatedImage (image.cut sectorCount) geometry' volumes' sequences') :
    ∀ extent ∈ udf.extents, extent.endLba ≤ sectorCount := by
  intro extent hextent
  cases volumes with
  | some iso =>
    obtain ⟨view, hview, hsize⟩ := h.sized
    obtain ⟨-, maximum, hmaximum, hbelow⟩ := h.udfExtents udf rfl extent hextent
    have hcontained := h.contained _ hsize maximum hmaximum
    exact hbelow.trans (hcontained.trans (h.cut_iso hcut view hview))
  | none =>
    obtain ⟨isoReads, reads, -, hsequences⟩ := h.read
    obtain ⟨isoReads', reads', -, hsequences'⟩ := hcut.read
    have hcount : 16 < image.sectorCount := Nat.lt_trans (by decide) (h.anchored rfl)
    cases volumes' with
    | some iso' => cases h.isoRecognized.2 ⟨hcount, (hcut.isoRecognized.1 rfl).2⟩
    | none =>
      obtain hnone | hsome := hcut.recognized
      · cases hnone
      · obtain ⟨udf', rfl⟩ := Option.isSome_iff_exists.1 hsome
        obtain ⟨start, hread⟩ := readUdfSequences_some hsequences
        obtain ⟨start', hread'⟩ := readUdfSequences_some hsequences'
        have hsame := readAnchoredSequences_agree image sectorCount _ _ _ _ _ _ hread hread'
        exact (hcut.udfExtents udf' rfl extent (hsame ▸ hextent)).1

theorem inspectDvdImageGeometry_ok
    (h : inspectDvdImageGeometry expectedByteCount image = .ok geometry) :
    ∃ volumes sequences, ValidatedImage image geometry volumes sequences := by
  rw [inspectDvdImageGeometry] at h
  split at h
  · cases h
  split at h
  · cases h
  split at h
  · cases h
  · cases hrun : (validateOpenedImage image).run 0 with
    | error error =>
      rw [hrun] at h
      cases h
    | ok result =>
      rw [hrun] at h
      cases h
      exact validateOpenedImage_ok hrun

theorem inspectDvdImageGeometry_error
    (h : inspectDvdImageGeometry expectedByteCount image = .error error) : ¬error.ReadBound := by
  rw [inspectDvdImageGeometry] at h
  split at h
  · cases h
    simp
  split at h
  · cases h
    simp
  split at h
  · cases h
    simp
  · cases hrun : (validateOpenedImage image).run 0 with
    | error error' =>
      rw [hrun] at h
      cases h
      exact (validateOpenedImage_spends image).error hrun (Nat.le_of_eq (Nat.zero_add _))
    | ok result =>
      rw [hrun] at h
      cases h

/-- What the validator accepts holds all that its filesystems declare, each prefix that lacks a
part of it is rejected, and the bound on the reads rejects nothing. -/
theorem inspectDvdImageGeometry_detects :
    (∀ expectedByteCount image geometry,
      inspectDvdImageGeometry expectedByteCount image = .ok geometry →
        ∃ volumes sequences, ValidatedImage image geometry volumes sequences ∧
          ∀ sectorCount < image.sectorCount,
            ((∃ size ∈ geometry.isoVolumeSectorCount, sectorCount < size) ∨
              ∃ udf ∈ sequences, ∃ extent ∈ udf.extents, sectorCount < extent.endLba) →
            ∀ byteCount, ∃ error,
              inspectDvdImageGeometry byteCount (image.cut sectorCount) = .error error) ∧
      ∀ expectedByteCount image error,
        inspectDvdImageGeometry expectedByteCount image = .error error → ¬error.ReadBound := by
  refine ⟨fun expectedByteCount image geometry haccepted => ?_,
    fun _ _ _ h => inspectDvdImageGeometry_error h⟩
  obtain ⟨volumes, sequences, hvalid⟩ := inspectDvdImageGeometry_ok haccepted
  refine ⟨volumes, sequences, hvalid, fun sectorCount _ hlost byteCount => ?_⟩
  cases hinspect : inspectDvdImageGeometry byteCount (image.cut sectorCount) with
  | error error => exact ⟨error, rfl⟩
  | ok geometry' =>
    obtain ⟨volumes', sequences', hcut⟩ := inspectDvdImageGeometry_ok hinspect
    exfalso
    obtain ⟨size, hsize, hlost⟩ | ⟨udf, rfl, extent, hextent, hlost⟩ := hlost
    · have hsome : volumes.isSome := by rw [← hvalid.isoSize, hsize]; rfl
      obtain ⟨iso, rfl⟩ := Option.isSome_iff_exists.1 hsome
      obtain ⟨view, hview, hsame⟩ := hvalid.sized
      cases hsize.symm.trans hsame
      exact absurd (hvalid.cut_iso hcut view hview) (Nat.not_le_of_lt hlost)
    · exact absurd (hvalid.cut_udf hcut extent hextent) (Nat.not_le_of_lt hlost)

end Truncation

section Samples

/-- A sector that starts with these bytes. -/
def sectorOf (bytes : List UInt8) : DvdSector where
  bytes := (bytes ++ List.replicate DVD_SECTOR_SIZE_BYTES 0).take DVD_SECTOR_SIZE_BYTES
  length_bytes := by
    rw [List.length_take, List.length_append, List.length_replicate]
    omega

def littleEndian16 (n : Nat) : List UInt8 := [UInt8.ofNat n, UInt8.ofNat (n / 0x100)]

def littleEndian32 (n : Nat) : List UInt8 := littleEndian16 n ++ littleEndian16 (n / 0x10000)

/-- A descriptor with its tag. -/
def sampleDescriptor (identifier crc crcLength location : Nat) (body : List UInt8) : List UInt8 :=
  let version := littleEndian16 identifier ++ [2, 0]
  let rest := [0, 0, 0] ++ littleEndian16 crc ++ littleEndian16 crcLength ++
    littleEndian32 location
  version ++ [(version ++ rest).foldl (· + ·) 0] ++ rest ++ body

/-- A primary volume of 290 sectors. -/
def sampleIsoVolume : List UInt8 :=
  1 :: isoIdentifier ++ [1] ++ List.replicate 73 0 ++ [34, 1, 0, 0, 0, 0, 1, 34] ++
    List.replicate 32 0 ++ [1, 0, 0, 1, 1, 0, 0, 1, 0, 8, 8, 0]

/-- The anchor of two sequences of five sectors. -/
def sampleAnchor : List UInt8 :=
  sampleDescriptor 2 0xa5b0 496 256
    (littleEndian32 10240 ++ littleEndian32 257 ++ littleEndian32 10240 ++ littleEndian32 262)

/-- A partition of ten sectors. -/
def samplePartition : List UInt8 :=
  List.replicate 172 0 ++ littleEndian32 267 ++ littleEndian32 10

def sampleLogicalVolume : List UInt8 :=
  List.replicate 196 0 ++ littleEndian32 2048 ++ List.replicate 32 0 ++ littleEndian32 2048 ++
    littleEndian32 1 ++ List.replicate 8 0 ++ littleEndian32 6 ++ littleEndian32 1 ++
    List.replicate 160 0 ++ littleEndian32 2048 ++ littleEndian32 277 ++ [1, 6, 1, 0, 0, 0]

def sampleUnallocated : List UInt8 :=
  littleEndian32 0 ++ littleEndian32 1 ++ littleEndian32 2048 ++ littleEndian32 280

/-- The descriptors of a sequence that begins at an address. -/
def sampleSequence (lba : Nat) : List (List UInt8) :=
  [sampleDescriptor 1 0 496 lba [], sampleDescriptor 5 0xb100 496 (lba + 1) samplePartition,
    sampleDescriptor 6 0x1ec8 430 (lba + 2) sampleLogicalVolume,
    sampleDescriptor 7 0x398c 16 (lba + 3) sampleUnallocated, sampleDescriptor 8 0 496 (lba + 4) []]

def sampleVolumeBytes (lba : Nat) : List UInt8 :=
  if lba = 16 then sampleIsoVolume
  else if lba = 17 then 255 :: isoIdentifier ++ [1]
  else if lba = 18 then 0 :: beginningIdentifier ++ [1]
  else if lba = 19 then 0 :: nsrIdentifiers.headD [] ++ [1]
  else if lba = 20 then 0 :: terminatorIdentifier ++ [1]
  else if lba = 256 then sampleAnchor
  else if lba < 257 then []
  else if lba < 262 then (sampleSequence 257).getD (lba - 257) []
  else (sampleSequence 262).getD (lba - 262) []

def sampleVolume : DvdImage := ⟨300, fun lba => sectorOf (sampleVolumeBytes lba)⟩

/-- A volume with both filesystems is accepted whole; each prefix that ends inside its first UDF
sequence is rejected. -/
theorem sampleVolume_detects :
    (∃ volumes sequences, ValidatedImage sampleVolume ⟨300, some 290, some 281⟩ volumes
        sequences) ∧
      ∀ sectorCount < 262, ∀ byteCount, ∃ error,
        inspectDvdImageGeometry byteCount (sampleVolume.cut sectorCount) = .error error := by
  have haccepted : inspectDvdImageGeometry (300 * DVD_SECTOR_SIZE_BYTES) sampleVolume =
      .ok ⟨300, some 290, some 281⟩ := by decide +kernel
  obtain ⟨volumes, sequences, hvalid, hcut⟩ :=
    inspectDvdImageGeometry_detects.1 _ _ _ haccepted
  refine ⟨⟨volumes, sequences, hvalid⟩, fun sectorCount hcount byteCount => ?_⟩
  obtain ⟨udf, hudf⟩ := Option.isSome_iff_exists.1 (hvalid.udfSize.symm.trans rfl)
  have hmain : udfExtentAt (sampleVolume.sector 256) 16 = some ⟨5, 257⟩ := by decide +kernel
  have hsequence := Option.some.inj (hmain.symm.trans (hvalid.udfDeclared udf hudf).mainSequence)
  have hend : udf.mainSequence.endLba = 262 := by
    rw [← hsequence]
    rfl
  refine hcut sectorCount (Nat.lt_trans hcount (by decide)) (.inr ⟨udf, hudf, udf.mainSequence,
    ?_, hend ▸ hcount⟩) byteCount
  simp [UdfSequences.extents]

end Samples

end RipDvd
