import RipDvd.FailureProtocol
import RipDvd.Blocks
import RipDvd.Metered

namespace RipDvd
set_option autoImplicit true

open Metered

def MAX_ISO_DESCRIPTOR_SECTORS : Nat := 256
def MAX_UDF_DESCRIPTOR_SECTORS : Nat := 256
def UDF_RECOGNITION_SECTORS : Nat := 32
def UDF_EXTENT_LENGTH_MASK : BitVec 32 := 0x3fffffff
def UDF_EXTENT_TYPE_MASK : BitVec 32 := 0xc0000000

inductive DvdGeometryIssue where
  | definiteTruncation
  | malformedMetadata
  | unsupportedLayout
  deriving DecidableEq

structure DvdImageGeometry where
  imageSectorCount : Nat
  isoVolumeSectorCount : Option Nat
  udfMaximumDeclaredSectorCount : Option Nat
  deriving DecidableEq

/-- What a geometry error says. -/
inductive GeometryFault where
  | malformed (subject : String)
  | exceedsImage (subject : String)
  | exceedsPartition (subject : String)
  | exceedsReadBound (subject : String)
  | truncated (subject : String)
  | unsupported (subject : String)
  | duplicated (subject : String)
  | incomplete (subject : String)
  | disagree (subject : String)
  | missing (subject : String)
  | conflictingPrimaryViews
  | unexpectedDescriptorType
  | undeclaredPartition
  | overlappingSequences
  | readExceededBound
  | noSupportedView
  | invalidSize
  | unalignedSize
  | unexpectedFile
  deriving DecidableEq

def GeometryFault.message : GeometryFault → String
  | malformed subject => "DVD " ++ subject ++ " is malformed"
  | exceedsImage subject => "DVD " ++ subject ++ " exceeds the image"
  | exceedsPartition subject => "DVD " ++ subject ++ " exceeds its partition"
  | exceedsReadBound subject => "DVD " ++ subject ++ " exceeds its read bound"
  | truncated subject => "DVD " ++ subject ++ " is truncated"
  | unsupported subject => "DVD " ++ subject ++ " is unsupported"
  | duplicated subject => "DVD " ++ subject ++ " is duplicated"
  | incomplete subject => "DVD " ++ subject ++ " is incomplete"
  | disagree subject => "DVD " ++ subject ++ " views disagree"
  | missing subject => "DVD " ++ subject ++ " is missing"
  | conflictingPrimaryViews => "DVD ISO has conflicting primary volume views"
  | unexpectedDescriptorType => "DVD UDF descriptor has an unexpected type"
  | undeclaredPartition => "DVD UDF partition map has no declaration"
  | overlappingSequences => "DVD UDF volume-descriptor sequences overlap"
  | readExceededBound => "DVD volume geometry read exceeded its bound"
  | noSupportedView => "DVD image has no supported filesystem geometry view"
  | invalidSize => "DVD volume geometry image size is invalid"
  | unalignedSize => "DVD volume geometry image size is not sector aligned"
  | unexpectedFile => "DVD volume geometry image is not the expected regular file"

structure DvdGeometryValidationError where
  fault : GeometryFault
  issue : DvdGeometryIssue := .malformedMetadata
  geometry : Option DvdImageGeometry := none
  deriving DecidableEq

abbrev GeometryRead := Metered DvdGeometryValidationError

/-- A buffer of the size of a sector. -/
structure DvdSector where
  bytes : List UInt8
  length_bytes : bytes.length = DVD_SECTOR_SIZE_BYTES

/-- The length that every buffer is allocated in. -/
def DvdSector.byteLength (_ : DvdSector) : Nat := DVD_SECTOR_SIZE_BYTES

/-- The sectors of an image, and how many of them the file has. -/
structure DvdImage where
  sectorCount : Nat
  sector : Nat → DvdSector

/-- The same content in a file of another length. -/
def DvdImage.cut (image : DvdImage) (sectorCount : Nat) : DvdImage := { image with sectorCount }

structure IsoGeometryView where
  logicalBlockSize : Nat
  volumeSequenceNumber : Nat
  volumeSetSize : Nat
  volumeSpaceSize : Nat
  deriving DecidableEq

structure UdfExtent where
  sectorCount : Nat
  startLba : Nat
  deriving DecidableEq

def UdfExtent.endLba (extent : UdfExtent) : Nat := extent.startLba + extent.sectorCount

structure UdfPartition extends UdfExtent where
  number : Nat
  deriving DecidableEq

structure UdfLongAllocationDescriptor where
  extentLength : Nat
  extentType : Int
  logicalBlockNumber : Nat
  partitionReferenceNumber : Nat
  deriving DecidableEq

structure UdfLogicalVolumeGeometry where
  fileSetDescriptor : UdfLongAllocationDescriptor
  integritySequence : UdfExtent
  logicalBlockSize : Nat
  partitionNumbersByReference : List Nat
  deriving DecidableEq

structure UdfSequenceGeometry where
  logicalVolume : UdfLogicalVolumeGeometry
  partitions : List UdfPartition
  primaryVolumeExtents : List UdfExtent
  unallocatedExtents : List UdfExtent
  deriving DecidableEq

structure UdfGeometryView where
  maximumDeclaredSectorCount : Nat
  deriving DecidableEq

def byteAt (buffer : DvdSector) (offset : Nat) : Nat :=
  (buffer.bytes.getD offset 0).toNat

def readUInt16LE (buffer : DvdSector) (offset : Nat) : Nat :=
  byteAt buffer offset + byteAt buffer (offset + 1) * 0x100

def readUInt16BE (buffer : DvdSector) (offset : Nat) : Nat :=
  byteAt buffer offset * 0x100 + byteAt buffer (offset + 1)

def readUInt32LE (buffer : DvdSector) (offset : Nat) : Nat :=
  readUInt16LE buffer offset + readUInt16LE buffer (offset + 2) * 0x10000

def readUInt32BE (buffer : DvdSector) (offset : Nat) : Nat :=
  readUInt16BE buffer offset * 0x10000 + readUInt16BE buffer (offset + 2)

def maximumSectorReads : Nat :=
  MAX_ISO_DESCRIPTOR_SECTORS + UDF_RECOGNITION_SECTORS + MAX_UDF_DESCRIPTOR_SECTORS * 2 + 8

def DvdImage.readSector (image : DvdImage) (lba : Nat) : GeometryRead DvdSector := do
  reject (image.sectorCount ≤ lba) { fault := .readExceededBound }
  read maximumSectorReads { fault := .readExceededBound } (image.sector lba)

def requireExtentInsideImage (extent : UdfExtent) (totalSectorCount : Nat) (description : String) :
    GeometryRead Unit := do
  reject (maxSafeInteger < extent.startLba ∨ extent.sectorCount = 0 ∨
      maxSafeInteger < extent.sectorCount ∨ maxSafeInteger < extent.endLba)
    { fault := .malformed description }
  reject (totalSectorCount < extent.endLba) {
    fault := .exceedsImage description
    issue := .definiteTruncation
    geometry := some {
      imageSectorCount := totalSectorCount
      isoVolumeSectorCount := none
      udfMaximumDeclaredSectorCount := some extent.endLba } }

/-- `Math.ceil` of bytes in sectors. -/
def sectorsOf (byteCount : Nat) : Nat :=
  (byteCount + (DVD_SECTOR_SIZE_BYTES - 1)) / DVD_SECTOR_SIZE_BYTES

def sectorCountForBytes (byteCount : Nat) (description : String) : GeometryRead Nat := do
  reject (maxSafeInteger < byteCount ∨ byteCount = 0) { fault := .malformed description }
  reject (maxSafeInteger < sectorsOf byteCount ∨ sectorsOf byteCount = 0)
    { fault := .malformed description }
  return sectorsOf byteCount

def readBothEndian16 (buffer : DvdSector) (offset : Nat) (description : String) :
    GeometryRead Nat := do
  reject (readUInt16LE buffer offset ≠ readUInt16BE buffer (offset + 2))
    { fault := .malformed description }
  return readUInt16LE buffer offset

def readBothEndian32 (buffer : DvdSector) (offset : Nat) (description : String) :
    GeometryRead Nat := do
  reject (readUInt32LE buffer offset ≠ readUInt32BE buffer (offset + 4))
    { fault := .malformed description }
  return readUInt32LE buffer offset

def isoViewsAgree (left right : IsoGeometryView) : Bool :=
  left.logicalBlockSize = right.logicalBlockSize &&
    left.volumeSequenceNumber = right.volumeSequenceNumber &&
    left.volumeSetSize = right.volumeSetSize && left.volumeSpaceSize = right.volumeSpaceSize

/-- `toString("latin1", 1, 6)`, the identifier of a volume structure descriptor. -/
def standardIdentifier (descriptor : DvdSector) : List UInt8 :=
  slice descriptor.bytes 1 5

/-- `CD001`. -/
def isoIdentifier : List UInt8 := [0x43, 0x44, 0x30, 0x30, 0x31]

/-- `%/@`, `%/C` and `%/E`. -/
def supplementaryEscapes : List (List UInt8) :=
  [[0x25, 0x2f, 0x40], [0x25, 0x2f, 0x43], [0x25, 0x2f, 0x45]]

/-- The geometry of a primary or supplementary volume descriptor. -/
def readIsoView (image : DvdImage) (descriptor : DvdSector) : GeometryRead IsoGeometryView := do
  let volumeSpaceSize ← readBothEndian32 descriptor 80 "ISO volume-space declaration"
  let volumeSetSize ← readBothEndian16 descriptor 120 "ISO volume-set size"
  let volumeSequenceNumber ← readBothEndian16 descriptor 124 "ISO volume-sequence number"
  let logicalBlockSize ← readBothEndian16 descriptor 128 "ISO logical-block size"
  reject (volumeSpaceSize = 0 ∨ volumeSetSize = 0 ∨ volumeSequenceNumber = 0 ∨
      volumeSetSize < volumeSequenceNumber ∨ logicalBlockSize ≠ DVD_SECTOR_SIZE_BYTES)
    { fault := .malformed "ISO volume geometry" }
  reject (image.sectorCount < volumeSpaceSize) {
    fault := .exceedsImage "ISO volume-space declaration"
    issue := .definiteTruncation
    geometry := some {
      imageSectorCount := image.sectorCount
      isoVolumeSectorCount := some volumeSpaceSize
      udfMaximumDeclaredSectorCount := none } }
  return { logicalBlockSize, volumeSequenceNumber, volumeSetSize, volumeSpaceSize }

/-- The volume views that an image declares. -/
structure IsoVolumes where
  primaryViewCount : Nat
  views : List IsoGeometryView
  deriving DecidableEq

instance bytesLawful : LawfulBEq (List UInt8) := inferInstance

/-- The first volume descriptor has been read already. -/
def readIsoDescriptor (image : DvdImage) (firstDescriptor : DvdSector) (index : Nat) :
    GeometryRead DvdSector :=
  if index = 0 then pure firstDescriptor else image.readSector (16 + index)

/-- The loop over the volume descriptors, up to the terminator. -/
def readIsoDescriptors (image : DvdImage) (firstDescriptor : DvdSector) :
    Nat → Nat → IsoVolumes → GeometryRead IsoVolumes
  | 0, _, _ => fail { fault := .exceedsReadBound "ISO volume descriptor sequence" }
  | remaining + 1, index, volumes => do
    reject (image.sectorCount ≤ 16 + index)
      { fault := .truncated "ISO volume descriptor sequence" }
    let descriptor ← readIsoDescriptor image firstDescriptor index
    reject (standardIdentifier descriptor ≠ isoIdentifier ∨ byteAt descriptor 6 ≠ 1)
      { fault := .malformed "ISO volume descriptor sequence" }
    let type := byteAt descriptor 0
    if type = 255 then return volumes
    else if type ≠ 1 ∧ type ≠ 2 then
      readIsoDescriptors image firstDescriptor remaining (index + 1) volumes
    else
      reject (type = 2 ∧ slice descriptor.bytes 88 3 ∉ supplementaryEscapes)
        { fault := .unsupported "ISO supplementary volume", issue := .unsupportedLayout }
      let primaryViewCount := volumes.primaryViewCount + if type = 1 then 1 else 0
      reject (type = 1 ∧ 1 < primaryViewCount) { fault := .conflictingPrimaryViews }
      let view ← readIsoView image descriptor
      readIsoDescriptors image firstDescriptor remaining (index + 1)
        { primaryViewCount, views := volumes.views ++ [view] }

/-- The views of an ISO filesystem, if the image has one. -/
def readIsoVolumes (image : DvdImage) : GeometryRead (Option IsoVolumes) :=
  if image.sectorCount ≤ 16 then return none
  else do
    let firstDescriptor ← image.readSector 16
    if standardIdentifier firstDescriptor ≠ isoIdentifier then return none
    else
      let volumes ← readIsoDescriptors image firstDescriptor MAX_ISO_DESCRIPTOR_SECTORS 0 ⟨0, []⟩
      return some volumes

def validateIsoGeometry (image : DvdImage) : GeometryRead (Option IsoGeometryView) := do
  match ← readIsoVolumes image with
  | none => return none
  | some volumes =>
    match volumes.views with
    | [] => fail { fault := .missing "ISO primary volume geometry" }
    | view :: views =>
      reject (volumes.primaryViewCount ≠ 1) { fault := .missing "ISO primary volume geometry" }
      reject (∃ other ∈ view :: views, ¬isoViewsAgree other view)
        { fault := .disagree "ISO filesystem geometry" }
      return some view

end RipDvd
