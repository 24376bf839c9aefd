import RipDvd.FailureAgreement
import RipDvd.Geometry

namespace RipDvd
set_option autoImplicit true

open Metered

def udfDescriptorCrcLength (buffer : DvdSector) (identifier : Nat) : GeometryRead Nat :=
  if identifier ∈ [1, 2, 3, 4, 5, 8] then return 496
  else if identifier = 6 then do
    let crcLength := 424 + readUInt32LE buffer 264
    reject (maxSafeInteger < crcLength) { fault := .malformed "UDF descriptor CRC length" }
    return crcLength
  else if identifier = 7 then do
    let crcLength := 8 + readUInt32LE buffer 20 * 8
    reject (maxSafeInteger < crcLength) { fault := .malformed "UDF descriptor CRC length" }
    return crcLength
  else
    fail { fault := .unsupported "UDF descriptor type", issue := .unsupportedLayout }

/-- The checksum of a descriptor tag, over all its bytes but the checksum. -/
def udfTagChecksum (buffer : DvdSector) : UInt8 :=
  ((List.range 16).filter (· ≠ 4)).foldl
    (fun checksum index => checksum + buffer.bytes.getD index 0) 0

/-- The bits that are left of a byte, and the bytes behind it. -/
def udfCrcBits (next : Nat → Nat) : Nat → Nat → Nat
  | 0, crc => next crc
  | bits + 1, crc =>
    if crc &&& 0x8000 ≠ 0 then udfCrcBits next bits (((crc <<< 1) ^^^ 0x1021) &&& 0xffff)
    else udfCrcBits next bits ((crc <<< 1) &&& 0xffff)

/-- The CRC of a descriptor, bit by bit. -/
def udfDescriptorCrc : List UInt8 → Nat → Nat
  | [], crc => crc
  | byte :: bytes, crc => udfCrcBits (udfDescriptorCrc bytes) 8 (crc ^^^ (byte.toNat <<< 8))

def validateUdfTag (buffer : DvdSector) (expectedIdentifiers : List Nat)
    (expectedLocation : Nat) : GeometryRead Nat := do
  reject (buffer.byteLength ≠ DVD_SECTOR_SIZE_BYTES) { fault := .truncated "UDF descriptor" }
  let identifier := readUInt16LE buffer 0
  reject (identifier ∉ expectedIdentifiers) { fault := .unexpectedDescriptorType }
  reject (readUInt16LE buffer 2 ∉ [2, 3] ∨ byteAt buffer 5 ≠ 0 ∨
      readUInt32LE buffer 12 ≠ expectedLocation) { fault := .malformed "UDF descriptor tag" }
  reject (udfTagChecksum buffer ≠ buffer.bytes.getD 4 0)
    { fault := .malformed "UDF descriptor tag checksum" }
  let crcLength := readUInt16LE buffer 10
  let expectedCrcLength ← udfDescriptorCrcLength buffer identifier
  reject (crcLength ≠ expectedCrcLength ∨ buffer.byteLength - 16 < expectedCrcLength)
    { fault := .malformed "UDF descriptor CRC length" }
  reject (udfDescriptorCrc (slice buffer.bytes 16 crcLength) 0 ≠ readUInt16LE buffer 8)
    { fault := .malformed "UDF descriptor CRC" }
  return identifier

def readUdfExtent (buffer : DvdSector) (offset totalSectorCount : Nat) (description : String)
    (allowEmpty : Bool) : GeometryRead (Option UdfExtent) := do
  let byteCount := readUInt32LE buffer offset
  let startLba := readUInt32LE buffer (offset + 4)
  if byteCount = 0 then
    reject (¬allowEmpty ∨ startLba ≠ 0) { fault := .malformed description }
    return none
  else
    let sectorCount ← sectorCountForBytes byteCount description
    requireExtentInsideImage { sectorCount, startLba } totalSectorCount description
    return some { sectorCount, startLba }

/-- An extent that must not be empty. -/
def readUdfExtentOf (buffer : DvdSector) (offset totalSectorCount : Nat)
    (description : String) : GeometryRead UdfExtent := do
  match ← readUdfExtent buffer offset totalSectorCount description false with
  | some extent => return extent
  | none => fail { fault := .malformed description }

/-- The extents at some offsets of a descriptor. -/
def readUdfExtents (buffer : DvdSector) (totalSectorCount : Nat) (description : String)
    (allowEmpty : Bool) : List Nat → GeometryRead (List UdfExtent)
  | [] => return []
  | offset :: offsets => do
    let extent ← readUdfExtent buffer offset totalSectorCount description allowEmpty
    let extents ← readUdfExtents buffer totalSectorCount description allowEmpty offsets
    return extent.toList ++ extents

def maskUdfExtentLength (rawLength : Nat) : Nat :=
  (BitVec.ofNat 32 rawLength &&& UDF_EXTENT_LENGTH_MASK).toNat

/-- The type bits of an extent, as a signed number. -/
def maskUdfExtentType (rawLength : Nat) : Int :=
  (BitVec.ofNat 32 rawLength &&& UDF_EXTENT_TYPE_MASK).toInt

def readUdfLongAllocationDescriptor (buffer : DvdSector) (offset : Nat) :
    UdfLongAllocationDescriptor where
  extentLength := maskUdfExtentLength (readUInt32LE buffer offset)
  extentType := maskUdfExtentType (readUInt32LE buffer offset)
  logicalBlockNumber := readUInt32LE buffer (offset + 4)
  partitionReferenceNumber := readUInt16LE buffer (offset + 8)

def comparePartitions (left right : UdfPartition) : Bool :=
  left.number < right.number || left.number = right.number &&
    (left.startLba < right.startLba || left.startLba = right.startLba &&
      left.sectorCount ≤ right.sectorCount)

def compareExtents (left right : UdfExtent) : Bool :=
  left.startLba < right.startLba || left.startLba = right.startLba &&
    left.sectorCount ≤ right.sectorCount

/-- What the views of a geometry are compared by, its extents in order. -/
def canonicalUdfGeometry (geometry : UdfSequenceGeometry) : UdfSequenceGeometry where
  logicalVolume := geometry.logicalVolume
  partitions := geometry.partitions.mergeSort comparePartitions
  primaryVolumeExtents := geometry.primaryVolumeExtents.mergeSort compareExtents
  unallocatedExtents := geometry.unallocatedExtents.mergeSort compareExtents

/-- The partitions that the map of a logical volume refers to. -/
def partitionsByReference (partitions : List UdfPartition) :
    List Nat → GeometryRead (List UdfPartition)
  | [] => return []
  | number :: numbers =>
    match partitions.find? (·.number = number) with
    | none => fail { fault := .undeclaredPartition }
    | some partition_ => do
      let others ← partitionsByReference partitions numbers
      return partition_ :: others

def validateUdfPartitionReferences (geometry : UdfSequenceGeometry) (totalSectorCount : Nat) :
    GeometryRead Unit := do
  let partitions ← partitionsByReference geometry.partitions
    geometry.logicalVolume.partitionNumbersByReference
  let fileSet := geometry.logicalVolume.fileSetDescriptor
  let fileSetSectorCount ← sectorCountForBytes fileSet.extentLength "UDF file-set descriptor extent"
  let relativeEndLba := fileSet.logicalBlockNumber + fileSetSectorCount
  match partitions[fileSet.partitionReferenceNumber]? with
  | none => fail { fault := .exceedsPartition "UDF file-set descriptor extent" }
  | some partition_ =>
    reject (fileSet.extentType ≠ 0 ∨ maxSafeInteger < relativeEndLba ∨
        partition_.sectorCount < relativeEndLba)
      { fault := .exceedsPartition "UDF file-set descriptor extent" }
    requireExtentInsideImage {
      sectorCount := fileSetSectorCount
      startLba := partition_.startLba + fileSet.logicalBlockNumber } totalSectorCount
      "UDF file-set descriptor extent"

/-- What is known of a descriptor sequence so far. -/
structure UdfSequenceState where
  logicalVolume : Option UdfLogicalVolumeGeometry
  partitions : List UdfPartition
  primaryVolumeExtents : List UdfExtent
  unallocatedExtents : List UdfExtent
  sawPrimaryVolume : Bool
  deriving DecidableEq

/-- The metadata extents of a partition, which lie inside it. -/
def checkPartitionMetadata (descriptor : DvdSector) (partition_ : UdfPartition) :
    List Nat → GeometryRead Unit
  | [] => return ()
  | offset :: offsets => do
    let rawLength := readUInt32LE descriptor offset
    let relativeLba := readUInt32LE descriptor (offset + 4)
    let extentLength := maskUdfExtentLength rawLength
    if extentLength = 0 then
      reject (relativeLba ≠ 0) { fault := .malformed "UDF partition metadata extent" }
      checkPartitionMetadata descriptor partition_ offsets
    else
      let relativeSectorCount ← sectorCountForBytes extentLength "UDF partition metadata extent"
      reject (maskUdfExtentType rawLength ≠ 0 ∨
          maxSafeInteger < relativeLba + relativeSectorCount ∨
          partition_.sectorCount < relativeLba + relativeSectorCount)
        { fault := .exceedsPartition "UDF partition metadata extent" }
      checkPartitionMetadata descriptor partition_ offsets

/-- The partition maps of a logical volume, six bytes each; a map for each byte is enough. -/
def readPartitionMaps (descriptor : DvdSector) (mapEnd : Nat) :
    Nat → Nat → GeometryRead (List Nat)
  | 0, _ => return []
  | remaining + 1, mapOffset =>
    if mapEnd ≤ mapOffset then return []
    else do
      let mapLength := byteAt descriptor (mapOffset + 1)
      reject (byteAt descriptor mapOffset ≠ 1 ∨ mapLength ≠ 6 ∨ mapEnd < mapOffset + mapLength)
        { fault := .unsupported "UDF partition map", issue := .unsupportedLayout }
      let numbers ← readPartitionMaps descriptor mapEnd remaining (mapOffset + mapLength)
      return readUInt16LE descriptor (mapOffset + 4) :: numbers

def readLogicalVolume (image : DvdImage) (descriptor : DvdSector) :
    GeometryRead UdfLogicalVolumeGeometry := do
  let logicalBlockSize := readUInt32LE descriptor 212
  let mapTableLength := readUInt32LE descriptor 264
  let partitionMapCount := readUInt32LE descriptor 268
  let mapEnd := 440 + mapTableLength
  reject (logicalBlockSize ≠ DVD_SECTOR_SIZE_BYTES ∨ mapTableLength = 0 ∨ partitionMapCount = 0 ∨
      16 < partitionMapCount ∨ maxSafeInteger < mapEnd ∨ descriptor.byteLength < mapEnd)
    { fault := .malformed "UDF logical-volume geometry" }
  let partitionNumbersByReference ← readPartitionMaps descriptor mapEnd mapTableLength 440
  reject (partitionNumbersByReference.length ≠ partitionMapCount)
    { fault := .malformed "UDF partition map count" }
  let integritySequence ← readUdfExtentOf descriptor 432 image.sectorCount
    "UDF integrity-sequence declaration"
  return {
    fileSetDescriptor := readUdfLongAllocationDescriptor descriptor 248
    integritySequence
    logicalBlockSize
    partitionNumbersByReference }

/-- One descriptor of a sequence, by its type. -/
def parseUdfDescriptor (image : DvdImage) (descriptor : DvdSector) (identifier : Nat)
    (s : UdfSequenceState) : GeometryRead UdfSequenceState :=
  if identifier = 3 then
    fail { fault := .unsupported "UDF volume descriptor continuation", issue := .unsupportedLayout }
  else if identifier = 1 then do
    reject s.sawPrimaryVolume { fault := .duplicated "UDF primary volume geometry" }
    let extents ← readUdfExtents descriptor image.sectorCount "UDF primary-volume extent" true
      [328, 336]
    return { s with
      sawPrimaryVolume := true
      primaryVolumeExtents := s.primaryVolumeExtents ++ extents }
  else if identifier = 5 then do
    let partition_ : UdfPartition := {
      number := readUInt16LE descriptor 22
      sectorCount := readUInt32LE descriptor 192
      startLba := readUInt32LE descriptor 188 }
    requireExtentInsideImage partition_.toUdfExtent image.sectorCount "UDF partition declaration"
    reject (∃ other ∈ s.partitions, other.number = partition_.number)
      { fault := .duplicated "UDF partition geometry" }
    checkPartitionMetadata descriptor partition_ [56, 64, 72, 80, 88]
    return { s with partitions := s.partitions ++ [partition_] }
  else if identifier = 6 then do
    reject s.logicalVolume.isSome { fault := .duplicated "UDF logical-volume geometry" }
    let logicalVolume ← readLogicalVolume image descriptor
    return { s with logicalVolume := some logicalVolume }
  else if identifier = 7 then do
    let allocationCount := readUInt32LE descriptor 20
    let allocationEnd := 24 + allocationCount * 8
    reject (61 < allocationCount ∨ maxSafeInteger < allocationEnd ∨
        descriptor.byteLength < allocationEnd)
      { fault := .malformed "UDF unallocated-space geometry" }
    let extents ← readUdfExtents descriptor image.sectorCount "UDF unallocated-space declaration"
      false ((List.range allocationCount).map fun allocation => 24 + allocation * 8)
    return { s with unallocatedExtents := s.unallocatedExtents ++ extents }
  else return s

/-- The loop over the descriptors of a sequence, and whether it met the terminator. -/
def parseUdfDescriptors (image : DvdImage) :
    Nat → Nat → UdfSequenceState → GeometryRead (Bool × UdfSequenceState)
  | 0, _, s => return (false, s)
  | remaining + 1, lba, s => do
    let descriptor ← image.readSector lba
    let identifier ← validateUdfTag descriptor [1, 3, 4, 5, 6, 7, 8] lba
    if identifier = 8 then return (true, s)
    else
      let s ← parseUdfDescriptor image descriptor identifier s
      parseUdfDescriptors image remaining (lba + 1) s

def parseUdfDescriptorSequence (image : DvdImage) (sequence : UdfExtent) :
    GeometryRead UdfSequenceGeometry := do
  reject (MAX_UDF_DESCRIPTOR_SECTORS < sequence.sectorCount)
    { fault := .exceedsReadBound "UDF volume descriptor sequence" }
  let (sawTerminator, s) ← parseUdfDescriptors image sequence.sectorCount sequence.startLba
    ⟨none, [], [], [], false⟩
  match s.logicalVolume with
  | none => fail { fault := .incomplete "UDF volume geometry" }
  | some logicalVolume =>
    reject (¬sawTerminator ∨ ¬s.sawPrimaryVolume ∨ s.partitions = [])
      { fault := .incomplete "UDF volume geometry" }
    let geometry : UdfSequenceGeometry := {
      logicalVolume
      partitions := s.partitions
      primaryVolumeExtents := s.primaryVolumeExtents
      unallocatedExtents := s.unallocatedExtents }
    validateUdfPartitionReferences geometry image.sectorCount
    return geometry

/-- `BEA01`, `NSR02`, `NSR03` and `TEA01`. -/
def beginningIdentifier : List UInt8 := [0x42, 0x45, 0x41, 0x30, 0x31]
def nsrIdentifiers : List (List UInt8) :=
  [[0x4e, 0x53, 0x52, 0x30, 0x32], [0x4e, 0x53, 0x52, 0x30, 0x33]]
def terminatorIdentifier : List UInt8 := [0x54, 0x45, 0x41, 0x30, 0x31]

def udfIdentifiers : List (List UInt8) :=
  beginningIdentifier :: nsrIdentifiers ++ [terminatorIdentifier]

def hasUdfRecognitionSignature (descriptor : DvdSector) : Bool :=
  standardIdentifier descriptor ∈ udfIdentifiers ||
    (standardIdentifier descriptor).map (· &&& 0x7f) ∈ udfIdentifiers

def hasValidUdfAnchor (image : DvdImage) (lba : Int) : GeometryRead Bool :=
  if lba < 0 ∨ image.sectorCount ≤ lba then return false
  else do
    let descriptor ← image.readSector lba.toNat
    if readUInt16LE descriptor 0 ≠ 2 then return false
    else
      let _ ← validateUdfTag descriptor [2] lba.toNat
      return true

/-- Whether an anchor is at one of some places, up to the first. -/
def hasAnchorEvidence (image : DvdImage) : List Int → GeometryRead Bool
  | [] => return false
  | lba :: lbas => do
    if ← hasValidUdfAnchor image lba then return true
    else hasAnchorEvidence image lbas

/-- The sectors of the recognition area. -/
def readRecognition (image : DvdImage) : List Nat → GeometryRead (List DvdSector)
  | [] => return []
  | lba :: lbas => do
    let descriptor ← image.readSector lba
    let descriptors ← readRecognition image lbas
    return descriptor :: descriptors

/-- Where a list has what a test accepts. -/
def indexesOf (test : α → Bool) (xs : List α) : List Nat :=
  (xs.zipIdx.filter fun entry => test entry.1).map (·.2)

def recognitionDescriptorIsPlain (descriptor : DvdSector) : Bool :=
  byteAt descriptor 0 = 0 && byteAt descriptor 6 = 1 && (descriptor.bytes.drop 7).all (· = 0)

/-- The recognition sequence: begin, NSR and end, one behind the other. -/
def checkRecognition (descriptors : List DvdSector) : GeometryRead Unit := do
  let beginningIndexes := indexesOf (standardIdentifier · = beginningIdentifier) descriptors
  let nsrIndexes := indexesOf (standardIdentifier · ∈ nsrIdentifiers) descriptors
  let terminatorIndexes := indexesOf (standardIdentifier · = terminatorIdentifier) descriptors
  let beginningIndex := beginningIndexes.headD 0
  let nsrIndex := nsrIndexes.headD 0
  let terminatorIndex := terminatorIndexes.headD 0
  reject (beginningIndexes.length ≠ 1 ∨ nsrIndexes.length ≠ 1 ∨ terminatorIndexes.length ≠ 1 ∨
      nsrIndex ≤ beginningIndex ∨ terminatorIndex ≤ nsrIndex)
    { fault := .incomplete "UDF recognition sequence" }
  reject (∃ index ∈ [beginningIndex, nsrIndex, terminatorIndex],
      ¬descriptors[index]?.any recognitionDescriptorIsPlain)
    { fault := .malformed "UDF recognition descriptor" }
  reject ((List.range' (beginningIndex + 1) (terminatorIndex - (beginningIndex + 1))).any
      (· ≠ nsrIndex))
    { fault := .unsupported "UDF recognition sequence", issue := .unsupportedLayout }

/-- The anchors behind the first one that have a tag; they have to agree with it. -/
def readAlternateAnchors (image : DvdImage) (anchor : DvdSector) :
    List Int → GeometryRead (List Nat)
  | [] => return []
  | alternateLba :: alternateLbas =>
    if alternateLba = 256 ∨ alternateLba < 0 then readAlternateAnchors image anchor alternateLbas
    else do
      let alternate ← image.readSector alternateLba.toNat
      if alternate.bytes.all (· = 0) then readAlternateAnchors image anchor alternateLbas
      else if readUInt16LE alternate 0 ≠ 2 then readAlternateAnchors image anchor alternateLbas
      else
        let _ ← validateUdfTag alternate [2] alternateLba.toNat
        reject (slice alternate.bytes 16 16 ≠ slice anchor.bytes 16 16)
          { fault := .disagree "UDF anchor geometry" }
        let others ← readAlternateAnchors image anchor alternateLbas
        return alternateLba.toNat :: others

/-- The descriptor sequences that an anchor points to, and what they declare. -/
structure UdfSequences where
  anchor : DvdSector
  mainSequence : UdfExtent
  reserveSequence : UdfExtent
  mainGeometry : UdfSequenceGeometry
  reserveGeometry : UdfSequenceGeometry

/-- The descriptor sequences that the anchor of a recognized filesystem points to. -/
def readAnchoredSequences (image : DvdImage) : GeometryRead UdfSequences := do
  reject (image.sectorCount ≤ 256) { fault := .truncated "UDF volume geometry" }
  let anchor ← image.readSector 256
  let _ ← validateUdfTag anchor [2] 256
  let mainSequence ← readUdfExtentOf anchor 16 image.sectorCount
    "UDF main volume-descriptor sequence"
  let reserveSequence ← readUdfExtentOf anchor 24 image.sectorCount
    "UDF reserve volume-descriptor sequence"
  reject (mainSequence.startLba < reserveSequence.endLba ∧
    reserveSequence.startLba < mainSequence.endLba) { fault := .overlappingSequences }
  let mainGeometry ← parseUdfDescriptorSequence image mainSequence
  let reserveGeometry ← parseUdfDescriptorSequence image reserveSequence
  reject (canonicalUdfGeometry mainGeometry ≠ canonicalUdfGeometry reserveGeometry)
    { fault := .disagree "UDF geometry" }
  return { anchor, mainSequence, reserveSequence, mainGeometry, reserveGeometry }

/-- The descriptor sequences of a UDF filesystem, if the image has one. -/
def readUdfSequences (image : DvdImage) : GeometryRead (Option UdfSequences) := do
  let recognitionEnd := min image.sectorCount (16 + UDF_RECOGNITION_SECTORS)
  let descriptors ← readRecognition image (List.range' 16 (recognitionEnd - 16))
  if indexesOf (standardIdentifier · ∈ nsrIdentifiers) descriptors = [] then
    let hasRecognitionFragment := descriptors.any hasUdfRecognitionSignature
    let anchored ← hasAnchorEvidence image
      [256, (image.sectorCount : Int) - 257, (image.sectorCount : Int) - 1]
    reject (hasRecognitionFragment ∨ anchored) { fault := .incomplete "UDF recognition sequence" }
    return none
  else
    checkRecognition descriptors
    let sequences ← readAnchoredSequences image
    return some sequences

/-- The extent of the file-set descriptor, in its partition. -/
def UdfSequenceGeometry.fileSetExtent (geometry : UdfSequenceGeometry) : Option UdfExtent := do
  let fileSet := geometry.logicalVolume.fileSetDescriptor
  let number ← geometry.logicalVolume.partitionNumbersByReference[fileSet.partitionReferenceNumber]?
  let partition_ ← geometry.partitions.find? (·.number = number)
  return {
    sectorCount := sectorsOf fileSet.extentLength
    startLba := partition_.startLba + fileSet.logicalBlockNumber }

/-- The extents that a descriptor sequence declares. -/
def UdfSequenceGeometry.extents (geometry : UdfSequenceGeometry) : List UdfExtent :=
  geometry.partitions.map (·.toUdfExtent) ++ geometry.primaryVolumeExtents ++
    geometry.unallocatedExtents ++ [geometry.logicalVolume.integritySequence] ++
    geometry.fileSetExtent.toList

/-- The extents of both sequences. -/
def UdfSequences.extents (sequences : UdfSequences) : List UdfExtent :=
  [sequences.mainSequence, sequences.reserveSequence] ++ sequences.mainGeometry.extents ++
    sequences.reserveGeometry.extents

def validateUdfGeometry (image : DvdImage) : GeometryRead (Option UdfGeometryView) := do
  match ← readUdfSequences image with
  | none => return none
  | some sequences =>
    let validAnchorLbas ← readAlternateAnchors image sequences.anchor
      [(image.sectorCount : Int) - 257, (image.sectorCount : Int) - 1]
    let declaredExtents := [sequences.mainSequence, sequences.reserveSequence] ++
      (256 :: validAnchorLbas).map (fun startLba => { sectorCount := 1, startLba }) ++
      sequences.mainGeometry.extents
    return some {
      maximumDeclaredSectorCount := (declaredExtents.map UdfExtent.endLba).foldl max 0 }

def enrichGeometryError (geometry : DvdImageGeometry) (error : DvdGeometryValidationError) :
    DvdGeometryValidationError :=
  { error with geometry := some {
      imageSectorCount := geometry.imageSectorCount
      isoVolumeSectorCount :=
        (error.geometry.bind (·.isoVolumeSectorCount)).or geometry.isoVolumeSectorCount
      udfMaximumDeclaredSectorCount :=
        (error.geometry.bind (·.udfMaximumDeclaredSectorCount)).or
          geometry.udfMaximumDeclaredSectorCount } }

def validateOpenedImage (image : DvdImage) : GeometryRead DvdImageGeometry := do
  let isoGeometry ← validateIsoGeometry image
  let udfGeometry ← rethrow (enrichGeometryError {
    imageSectorCount := image.sectorCount
    isoVolumeSectorCount := isoGeometry.map (·.volumeSpaceSize)
    udfMaximumDeclaredSectorCount := none }) (validateUdfGeometry image)
  reject (isoGeometry = none ∧ udfGeometry = none) {
    fault := .noSupportedView
    issue := .unsupportedLayout
    geometry := some {
      imageSectorCount := image.sectorCount
      isoVolumeSectorCount := none
      udfMaximumDeclaredSectorCount := none } }
  reject (∃ iso ∈ isoGeometry, ∃ udf ∈ udfGeometry,
      iso.volumeSpaceSize < udf.maximumDeclaredSectorCount) {
    fault := .disagree "ISO and UDF geometry"
    geometry := some {
      imageSectorCount := image.sectorCount
      isoVolumeSectorCount := isoGeometry.map (·.volumeSpaceSize)
      udfMaximumDeclaredSectorCount := udfGeometry.map (·.maximumDeclaredSectorCount) } }
  return {
    imageSectorCount := image.sectorCount
    isoVolumeSectorCount := isoGeometry.map (·.volumeSpaceSize)
    udfMaximumDeclaredSectorCount := udfGeometry.map (·.maximumDeclaredSectorCount) }

def inspectDvdImageGeometry (expectedByteCount : Nat) (image : DvdImage) :
    Except DvdGeometryValidationError DvdImageGeometry :=
  if expectedByteCount = 0 ∨ MAX_DVD_CONTENT_BYTES < expectedByteCount then .error
    { fault := .invalidSize }
  else if expectedByteCount % DVD_SECTOR_SIZE_BYTES ≠ 0 then .error { fault := .unalignedSize }
  else if image.sectorCount * DVD_SECTOR_SIZE_BYTES ≠ expectedByteCount then
    .error { fault := .unexpectedFile }
  else ((validateOpenedImage image).run 0).map (·.1)

end RipDvd
