import RipDvd.UdfGeometry

namespace RipDvd
set_option autoImplicit true

/-- The sectors of an image from an address on. -/
def DvdImage.sectors (image : DvdImage) (lba count : Nat) : List DvdSector :=
  (List.range' lba count).map image.sector

theorem DvdImage.sectors_zero (image : DvdImage) (lba : Nat) : image.sectors lba 0 = [] := rfl

theorem DvdImage.sectors_succ (image : DvdImage) (lba count : Nat) :
    image.sectors lba (count + 1) = image.sector lba :: image.sectors (lba + 1) count := by
  rw [sectors, List.range'_succ, List.map_cons, sectors]

/-- The sizes that the primary and supplementary volume descriptors among some declare. -/
def isoVolumeSizes (descriptors : List DvdSector) : List Nat :=
  (descriptors.filter fun descriptor => byteAt descriptor 0 = 1 ∨ byteAt descriptor 0 = 2).map
    fun descriptor => readUInt32LE descriptor 80

theorem isoVolumeSizes_cons {descriptor : DvdSector} {descriptors : List DvdSector}
    (h : ¬(byteAt descriptor 0 ≠ 1 ∧ byteAt descriptor 0 ≠ 2)) :
    isoVolumeSizes (descriptor :: descriptors) =
      readUInt32LE descriptor 80 :: isoVolumeSizes descriptors := by
  have htype : byteAt descriptor 0 = 1 ∨ byteAt descriptor 0 = 2 := by omega
  simp only [isoVolumeSizes, List.filter_cons, htype, decide_true, if_true, List.map_cons]

theorem isoVolumeSizes_skip {descriptor : DvdSector} {descriptors : List DvdSector}
    (h : byteAt descriptor 0 ≠ 1 ∧ byteAt descriptor 0 ≠ 2) :
    isoVolumeSizes (descriptor :: descriptors) = isoVolumeSizes descriptors := by
  have htype : ¬(byteAt descriptor 0 = 1 ∨ byteAt descriptor 0 = 2) := by omega
  simp only [isoVolumeSizes, List.filter_cons, htype, decide_false, Bool.false_eq_true, if_false]

/-- The views of a filesystem are those that its descriptors up to the terminator declare. -/
def IsoVolumes.DeclaredBy (image : DvdImage) (volumes : IsoVolumes) : Prop :=
  ∃ count < MAX_ISO_DESCRIPTOR_SECTORS, byteAt (image.sector (16 + count)) 0 = 255 ∧
    volumes.views.map (·.volumeSpaceSize) = isoVolumeSizes (image.sectors 16 count)

/-- The extent at an offset of a descriptor. -/
def udfExtentAt (buffer : DvdSector) (offset : Nat) : Option UdfExtent :=
  if readUInt32LE buffer offset = 0 then none
  else some {
    sectorCount := sectorsOf (readUInt32LE buffer offset)
    startLba := readUInt32LE buffer (offset + 4) }

/-- The partition that a partition descriptor declares. -/
def udfPartitionOf (descriptor : DvdSector) : UdfPartition where
  startLba := readUInt32LE descriptor 188
  sectorCount := readUInt32LE descriptor 192
  number := readUInt16LE descriptor 22

/-- The extents of a primary volume descriptor. -/
def primaryVolumeExtentsOf (descriptor : DvdSector) : List UdfExtent :=
  [328, 336].filterMap (udfExtentAt descriptor)

/-- The extents of an unallocated-space descriptor. -/
def unallocatedExtentsOf (descriptor : DvdSector) : List UdfExtent :=
  (List.range (readUInt32LE descriptor 20)).filterMap fun allocation =>
    udfExtentAt descriptor (24 + allocation * 8)

/-- The partitions that a number of maps of six bytes refer to. -/
def partitionNumbersAt (descriptor : DvdSector) (mapOffset count : Nat) : List Nat :=
  (List.range count).map fun index => readUInt16LE descriptor (mapOffset + index * 6 + 4)

theorem partitionNumbersAt_succ (descriptor : DvdSector) (mapOffset count : Nat) :
    partitionNumbersAt descriptor mapOffset (count + 1) =
      readUInt16LE descriptor (mapOffset + 4) ::
        partitionNumbersAt descriptor (mapOffset + 6) count := by
  rw [partitionNumbersAt, List.range_succ_eq_map, List.map_cons, List.map_map, partitionNumbersAt]
  congr 1
  refine List.map_congr_left fun index _ => ?_
  show readUInt16LE descriptor (mapOffset + (index + 1) * 6 + 4) = _
  congr 1
  omega

/-- A logical-volume descriptor declares a geometry. -/
structure UdfLogicalVolumeGeometry.DeclaredBy (descriptor : DvdSector)
    (volume : UdfLogicalVolumeGeometry) : Prop where
  fileSet : volume.fileSetDescriptor = readUdfLongAllocationDescriptor descriptor 248
  integrity : udfExtentAt descriptor 432 = some volume.integritySequence
  partitions : volume.partitionNumbersByReference =
    partitionNumbersAt descriptor 440 (readUInt32LE descriptor 268)

/-- The descriptors of a type. -/
def ofType (identifier : Nat) (descriptors : List DvdSector) : List DvdSector :=
  descriptors.filter (readUInt16LE · 0 = identifier)

theorem ofType_snoc (identifier : Nat) (descriptors : List DvdSector)
    (descriptor : DvdSector) :
    ofType identifier (descriptors ++ [descriptor]) = ofType identifier descriptors ++
      if readUInt16LE descriptor 0 = identifier then [descriptor] else [] := by
  simp only [ofType, List.filter_append, List.filter_singleton, Bool.cond_decide]

/-- What some descriptors declare together. -/
structure UdfDeclarations (descriptors : List DvdSector)
    (logicalVolumes : List UdfLogicalVolumeGeometry) (partitions : List UdfPartition)
    (primaryVolumeExtents unallocatedExtents : List UdfExtent) : Prop where
  logicalVolumes : List.Forall₂ UdfLogicalVolumeGeometry.DeclaredBy (ofType 6 descriptors)
    logicalVolumes
  partitions : partitions = (ofType 5 descriptors).map udfPartitionOf
  primaryVolume : primaryVolumeExtents = (ofType 1 descriptors).flatMap primaryVolumeExtentsOf
  unallocated : unallocatedExtents = (ofType 7 descriptors).flatMap unallocatedExtentsOf

/-- A geometry is what the descriptors of a sequence up to its terminator declare. -/
def UdfSequenceGeometry.DeclaredBy (image : DvdImage) (sequence : UdfExtent)
    (geometry : UdfSequenceGeometry) : Prop :=
  ∃ count < sequence.sectorCount,
    readUInt16LE (image.sector (sequence.startLba + count)) 0 = 8 ∧
      UdfDeclarations (image.sectors sequence.startLba count) [geometry.logicalVolume]
        geometry.partitions geometry.primaryVolumeExtents geometry.unallocatedExtents

/-- The anchor of a filesystem points to its sequences, and they declare their geometries. -/
structure UdfSequences.DeclaredBy (image : DvdImage) (sequences : UdfSequences) : Prop where
  mainSequence : udfExtentAt (image.sector 256) 16 = some sequences.mainSequence
  reserveSequence : udfExtentAt (image.sector 256) 24 = some sequences.reserveSequence
  mainGeometry : sequences.mainGeometry.DeclaredBy image sequences.mainSequence
  reserveGeometry : sequences.reserveGeometry.DeclaredBy image sequences.reserveSequence

/-- An ISO filesystem is recognized by its first volume descriptor. -/
def DvdImage.RecognizesIso (image : DvdImage) : Prop :=
  16 < image.sectorCount ∧ standardIdentifier (image.sector 16) = isoIdentifier

/-- A UDF filesystem is recognized by an NSR descriptor of the recognition area. -/
def DvdImage.RecognizesUdf (image : DvdImage) : Prop :=
  ∃ lba, 16 ≤ lba ∧ lba < min image.sectorCount (16 + UDF_RECOGNITION_SECTORS) ∧
    standardIdentifier (image.sector lba) ∈ nsrIdentifiers

end RipDvd
