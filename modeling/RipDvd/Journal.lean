import RipDvd.Checkpoint

namespace RipDvd
set_option autoImplicit true

/-- The one fault of a journal that cannot be read: `DvdRecoveryJournalFault`. -/
inductive DvdRecoveryJournalFault where
  | malformed
  deriving DecidableEq

/-- The magic, the metadata length and the metadata digest that precede the metadata. -/
def DVD_RECOVERY_JOURNAL_HEADER_PREFIX_BYTES : Nat := 64

def DvdRecoveryJournalRange.wellFormed (range : DvdRecoveryJournalRange)
    (expectedPayloadOffset limit : Nat) (unitBytes : Option Nat) : Prop :=
  range.startByte ≤ maxSafeInteger ∧ 0 < range.byteCount ∧ range.byteCount ≤ maxSafeInteger ∧
    0 < range.unitBytes ∧ range.unitBytes ≤ maxSafeInteger ∧ range.byteCount = range.unitBytes ∧
    range.startByte % range.unitBytes = 0 ∧ range.payloadOffset = expectedPayloadOffset ∧
    range.startByte + range.byteCount ≤ limit ∧ ∀ unit ∈ unitBytes, unit = range.unitBytes

instance (range : DvdRecoveryJournalRange) (expectedPayloadOffset limit : Nat)
    (unitBytes : Option Nat) :
    Decidable (range.wellFormed expectedPayloadOffset limit unitBytes) :=
  inferInstanceAs (Decidable (_ ∧ _))

/-- Walk the protected ranges; returns the offset their payload ends at. -/
def assertJournalRanges (limit : Nat) :
    Nat → Option Nat → List DvdRecoveryJournalRange → Except DvdRecoveryJournalFault Nat
  | expectedPayloadOffset, _, [] => .ok expectedPayloadOffset
  | expectedPayloadOffset, unitBytes, range :: ranges => do
    rejectIf (¬range.wellFormed expectedPayloadOffset limit unitBytes) .malformed
    assertJournalRanges limit (expectedPayloadOffset + range.byteCount)
      (some range.unitBytes) ranges

def assertJournalMetadata (metadata : DvdRecoveryJournalMetadata) :
    Except DvdRecoveryJournalFault Unit := do
  rejectIf (metadata.originalDiscArchiveId.length = 0 ∨
      metadata.originalDiscArchiveId.length > 128 ∨
      metadata.imageSizeBytes = 0 ∨ metadata.imageSizeBytes > maxSafeInteger ∨
      metadata.base.manifestId.length = 0 ∨ metadata.base.manifestId.length > 256 ∨
      metadata.base.revision = 0 ∨ metadata.base.revision > maxSafeInteger ∨
      metadata.recoveryRead.id.length = 0 ∨ metadata.recoveryRead.id.length > 256 ∨
      metadata.recoveryRead.startLba > maxSafeInteger ∨ metadata.recoveryRead.sectorCount ≠ 1 ∨
      metadata.recoveryRead.outcome ≠ .recovered ∨ metadata.protectedRanges = [])
    .malformed
  rejectIf (∃ range ∈ metadata.base.unrecoveredSourceRanges,
      range.startLba > maxSafeInteger ∨ range.sectorCount = 0 ∨
        range.sectorCount > maxSafeInteger)
    .malformed
  let payloadEnd ← assertJournalRanges metadata.imageSizeBytes 0 none metadata.protectedRanges
  rejectIf (payloadEnd > DVD_RECOVERY_JOURNAL_PAYLOAD_BYTES) .malformed

def DvdRecoveryJournalDigestInput.payloadByteCount (metadata : DvdRecoveryJournalDigestInput) :
    Nat :=
  (metadata.protectedRanges.map (·.byteCount)).sum

/-- The first bytes of the payload; they are zeros until it is written. -/
def JournalFile.payload (file : JournalFile) (count : Nat) : Bytes :=
  match file.originalBytes with
  | some originalBytes => originalBytes.take count
  | none => List.replicate count 0

variable (sha256 : Hashed → Digest) (metadataLength : DvdRecoveryJournalMetadata → Nat)

/-- `metadataLength` is the length of the metadata's canonical JSON; the reader's lower bound of two
is met by any JSON object. -/
def fitsJournalHeader (metadata : DvdRecoveryJournalMetadata) : Prop :=
  DVD_RECOVERY_JOURNAL_HEADER_PREFIX_BYTES + metadataLength metadata ≤
    DVD_RECOVERY_JOURNAL_METADATA_BYTES

instance (metadata : DvdRecoveryJournalMetadata) :
    Decidable (fitsJournalHeader metadataLength metadata) :=
  inferInstanceAs (Decidable (_ ≤ _))

/-- A readable journal: its metadata and the bytes it would restore. -/
structure ReadJournal where
  metadata : DvdRecoveryJournalMetadata
  originalBytes : Bytes
  deriving DecidableEq

def readJournalMetadata (file : JournalFile) :
    Except DvdRecoveryJournalFault DvdRecoveryJournalMetadata :=
  match file.metadata with
  | none => .error .malformed
  | some metadata => .ok metadata

def readDvdRecoveryJournal (file : JournalFile) : Except DvdRecoveryJournalFault ReadJournal := do
  rejectIf (¬file.reserved) .malformed
  let metadata ← readJournalMetadata file
  rejectIf (¬fitsJournalHeader metadataLength metadata) .malformed
  assertJournalMetadata metadata
  let originalBytes := file.payload metadata.payloadByteCount
  rejectIf (metadata.journalDigest ≠ createDvdRecoveryJournalDigest sha256
    metadata.toDvdRecoveryJournalDigestInput originalBytes) .malformed
  return { metadata, originalBytes }

end RipDvd
