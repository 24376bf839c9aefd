import RipDvd.Batch

namespace RipDvd
set_option autoImplicit true

inductive DvdRecoveryReconciliationFaultCode where
  | consistencyFault
  | storageUnsupported
  deriving DecidableEq

structure DvdRecoveryReconciliationFault where
  code : DvdRecoveryReconciliationFaultCode
  storageFault : Bool
  deriving DecidableEq

def reconciliationConflict : DvdRecoveryReconciliationFault := ⟨.consistencyFault, false⟩

def reconciliationUnsupported : DvdRecoveryReconciliationFault := ⟨.storageUnsupported, true⟩

/-- `assertClaim` is whether the caller's claim still stands, `inspected` what the atomic writer
reports, `restoredAt` the modification times its unit writes leave. -/
structure DvdRecoveryReconciliationOptions where
  originalDiscArchiveId : String
  releaseRecoveryWork : Bool
  assertClaim : Catalog → Bool
  inspected : Option DvdRecoveryMutationProtection
  now : Nat
  restoredAt : Nat → Nat

inductive DvdRecoveryReconciliationOutcome where
  | rolledBack
  | rolledForward
  | cleanedUp
  | alreadyConsistent
  deriving DecidableEq

structure CheckpointIdentity where
  revision : Nat
  manifestId : String
  manifestDigest : Digest
  deriving DecidableEq

def checkpointIdentity (checkpoint : CommittedDvdCheckpointEvidence) : CheckpointIdentity :=
  ⟨checkpoint.manifest.revision, checkpoint.manifest.id, checkpoint.manifest.manifestDigest⟩

def projectedIdentity (header : DvdArchiveEvidenceHeader) : CheckpointIdentity :=
  ⟨header.currentManifestRevision, header.currentManifestId, header.currentManifestDigest⟩

inductive RemovedFile where
  | absent
  | removed
  deriving DecidableEq

structure DvdRecoveryReconciliationResult where
  outcome : DvdRecoveryReconciliationOutcome
  authoritativeCheckpoint : CheckpointIdentity
  databaseProjectionBefore : CheckpointIdentity
  databaseProjectionAfter : CheckpointIdentity
  journal : RemovedFile
  uncommittedManifest : RemovedFile
  deriving DecidableEq

abbrev ReconciliationProgram := Program World DvdRecoveryReconciliationFault

def assertReconciliationClaim (o : DvdRecoveryReconciliationOptions) : ReconciliationProgram Unit :=
  Program.read fun w => rejectIf (¬o.assertClaim w.catalog) reconciliationConflict

/-- Assert the claim twice before the work and twice after it. -/
def boundary (o : DvdRecoveryReconciliationOptions) (work : ReconciliationProgram α) :
    ReconciliationProgram α := do
  assertReconciliationClaim o
  assertReconciliationClaim o
  let result ← work
  assertReconciliationClaim o
  assertReconciliationClaim o
  return result

def assertJournalBase (journal : DvdRecoveryJournalMetadata)
    (current : CommittedDvdCheckpointEvidence) (archiveId : String) :
    Except DvdRecoveryReconciliationFault Unit :=
  rejectIf (journal.originalDiscArchiveId ≠ archiveId ∨ journal.image ≠ current.image ∨
      journal.imageSizeBytes ≠ current.manifest.boundaryPublishedSizeBytes ∨
      journal.base.manifestId ≠ current.manifest.id ∨
      journal.base.revision ≠ current.manifest.revision ∨
      journal.base.manifestDigest ≠ current.manifest.manifestDigest ∨
      journal.base.publicationDigest ≠ current.publicationDigest ∨
      journal.base.unrecoveredSourceRanges ≠ current.manifest.unrecoveredSourceRanges ∨
      journal.recoveryRead.id ≠ s!"{archiveId}:recovery-read:{current.manifest.revision + 1}")
    reconciliationConflict

def assertJournalCommit (journal : DvdRecoveryJournalMetadata)
    (manifest : CommittedDvdRecoveryEvidence) : Except DvdRecoveryReconciliationFault Unit :=
  rejectIf (manifest.revision ≠ journal.base.revision + 1 ∨
      manifest.previousManifestId ≠ some journal.base.manifestId ∨
      manifest.previousManifestDigest ≠ some journal.base.manifestDigest ∨
      manifest.previousPublicationDigest ≠ journal.base.publicationDigest ∨
      manifest.recoveryRead.id ≠ journal.recoveryRead.id ∨
      manifest.recoveryRead.startLba ≠ journal.recoveryRead.startLba ∨
      manifest.recoveryRead.sectorCount ≠ journal.recoveryRead.sectorCount ∨
      manifest.recoveryRead.outcome ≠ .recovered ∨
      manifest.journalDigest ≠ some journal.journalDigest ∨
      manifest.protectedRanges ≠ journal.protectedRanges.map (·.toDvdRecoveryProtectedRange))
    reconciliationConflict

/-- Which of its two contents a protected unit holds. -/
inductive UnitState where
  | before
  | after
  deriving DecidableEq

variable (sha256 : Hashed → Digest) (metadataLength : DvdRecoveryJournalMetadata → Nat)

/-- Tell the two contents of a unit apart by digest; the old one is tried first. -/
def protectedUnitState (image : Bytes) (range : DvdRecoveryJournalRange) :
    Except DvdRecoveryReconciliationFault UnitState :=
  let bytes := slice image range.startByte range.byteCount
  if bytes.length ≠ range.byteCount then .error reconciliationConflict
  else if sha256 (.bytes bytes) = range.beforeDigest then .ok .before
  else if sha256 (.bytes bytes) = range.afterDigest then .ok .after
  else .error reconciliationConflict

def verifyProtectedBytes (current : CommittedDvdCheckpointEvidence)
    (journal : DvdRecoveryJournalMetadata) (w : World) :
    Except DvdRecoveryReconciliationFault (List UnitState) := do
  rejectIf (w.disk.image.filesystemIdentity ≠ current.image.filesystemIdentity ∨
      w.disk.image.bytes.length ≠ current.manifest.boundaryPublishedSizeBytes)
    reconciliationConflict
  journal.protectedRanges.mapM (protectedUnitState sha256 w.disk.image.bytes)

def recoveryStorageProtection (w : World) :
    Except DvdRecoveryReconciliationFault DvdRecoveryMutationProtection :=
  withError (fun _ => reconciliationUnsupported) (requireMutationProtection w.catalog)

def reconcileDisk (f : Disk → Disk) : ReconciliationProgram Unit :=
  Program.modify fun w => { w with disk := f w.disk }

/-- Put the original bytes of every unit that was overwritten back. -/
def restoreUnits (o : DvdRecoveryReconciliationOptions) (originalBytes : Bytes) :
    List (DvdRecoveryJournalRange × UnitState) → ReconciliationProgram Unit
  | [] => pure ()
  | (_, .before) :: rest => do restoreUnits o originalBytes rest
  | (range, .after) :: rest => do
    reconcileDisk fun d => writeUnit d range.startByte
      (slice originalBytes range.payloadOffset range.byteCount) (o.restoredAt rest.length)
    restoreUnits o originalBytes rest

/-- Restore the modification time the base checkpoint vouches for, and verify the image. -/
def restoreVersion (current : CommittedDvdCheckpointEvidence) : ReconciliationProgram Unit := do
  reconcileDisk fun d => { d with image := { d.image with mtimeNs := current.image.mtimeNs } }
  Program.read fun w => withError (fun _ => reconciliationConflict)
    (verifyDvdCheckpointImage sha256 w.disk.image current)

/-- Unlink a file that must be there. -/
def removeFile (present : Disk → Bool) (remove : Disk → Disk) : ReconciliationProgram Unit :=
  Program.transaction fun w =>
    if present w.disk then .ok ((), { w with disk := remove w.disk })
    else .error reconciliationConflict

def removeManifest (revision : Nat) : ReconciliationProgram Unit :=
  removeFile (fun d => (d.manifests revision).isSome) (·.setManifest revision none)

def removeJournal : ReconciliationProgram Unit :=
  removeFile (·.journal.isSome) fun d => { d with journal := none }

/-- What a reconciliation has read before it changes anything. -/
structure Examined where
  records : DvdCheckpointRecords
  journal : Option ReadJournal
  uncommittedManifest : Option CommittedDvdRecoveryEvidence

def rollbackUncommittedBatch (o : DvdRecoveryReconciliationOptions)
    (current : CommittedDvdCheckpointEvidence) (journal : ReadJournal)
    (nextManifest : Option CommittedDvdRecoveryEvidence) : ReconciliationProgram RemovedFile := do
  let states ← Program.read (verifyProtectedBytes sha256 current journal.metadata)
  let protection ← Program.read recoveryStorageProtection
  Program.read fun _ => rejectIf (o.inspected ≠ some protection ∨
    ∃ range ∈ journal.metadata.protectedRanges, range.unitBytes ≠ protection.unitBytes)
    reconciliationUnsupported
  boundary o (restoreUnits o journal.originalBytes (journal.metadata.protectedRanges.zip states))
  boundary o (restoreVersion sha256 current)
  boundary o do
    match nextManifest with
    | some _ => removeManifest (current.manifest.revision + 1)
    | none => pure ()
    removeJournal
  return if nextManifest.isSome then .removed else .absent

def readRetainedJournal (w : World) :
    Except DvdRecoveryReconciliationFault (Option ReadJournal) :=
  match w.disk.journal with
  | none => .ok none
  | some file => withError (fun _ => reconciliationConflict)
    ((readDvdRecoveryJournal sha256 metadataLength file).map some)

/-- A journal belongs to the authoritative checkpoint or to the one before it. -/
def assertJournalRevision (authoritative : CommittedDvdCheckpointEvidence)
    (journal : Option ReadJournal) : Except DvdRecoveryReconciliationFault Unit :=
  rejectIf (∃ retained ∈ journal,
      authoritative.manifest.revision ≠ retained.metadata.base.revision ∧
      authoritative.manifest.revision ≠ retained.metadata.base.revision + 1)
    reconciliationConflict

/-- Look for a manifest past the authoritative one, unless the journal says it was committed. -/
def readUncommittedManifest (authoritative : CommittedDvdCheckpointEvidence)
    (journal : Option ReadJournal) (w : World) :
    Except DvdRecoveryReconciliationFault (Option CommittedDvdRecoveryEvidence) :=
  if ∀ retained ∈ journal, authoritative.manifest.revision = retained.metadata.base.revision then
    withError (fun _ => reconciliationConflict) (readDvdRecoveryManifestForReconciliation sha256
      w.disk authoritative (authoritative.manifest.revision + 1))
  else .ok none

def unprojectedResult (outcome : DvdRecoveryReconciliationOutcome)
    (authoritative : CommittedDvdCheckpointEvidence) (header : DvdArchiveEvidenceHeader)
    (journal uncommittedManifest : RemovedFile) : DvdRecoveryReconciliationResult where
  outcome
  authoritativeCheckpoint := checkpointIdentity authoritative
  databaseProjectionBefore := projectedIdentity header
  databaseProjectionAfter := projectedIdentity header
  journal
  uncommittedManifest

/-- The pointer still names the journal's base: undo the batch. -/
def rollBack (o : DvdRecoveryReconciliationOptions) (header : DvdArchiveEvidenceHeader)
    (authoritative : CommittedDvdCheckpointEvidence) (journal : ReadJournal)
    (uncommittedManifest : Option CommittedDvdRecoveryEvidence) :
    ReconciliationProgram DvdRecoveryReconciliationResult := do
  Program.read fun _ => do
    rejectIf (checkpointIdentity authoritative ≠ projectedIdentity header) reconciliationConflict
    assertJournalBase journal.metadata authoritative o.originalDiscArchiveId
    match uncommittedManifest with
    | some manifest => assertJournalCommit journal.metadata manifest
    | none => .ok ()
  let manifestFile ← rollbackUncommittedBatch sha256 o authoritative journal uncommittedManifest
  return unprojectedResult .rolledBack authoritative header .removed manifestFile

/-- A failed read leaves no journal: only its manifest has to go. -/
def removeUncommittedManifest (o : DvdRecoveryReconciliationOptions)
    (header : DvdArchiveEvidenceHeader) (authoritative : CommittedDvdCheckpointEvidence)
    (manifest : CommittedDvdRecoveryEvidence) :
    ReconciliationProgram DvdRecoveryReconciliationResult := do
  Program.read fun w => do
    rejectIf (checkpointIdentity authoritative ≠ projectedIdentity header ∨
      manifest.recoveryRead.outcome ≠ .failed) reconciliationConflict
    withError (fun _ => reconciliationConflict)
      (verifyDvdCheckpointImage sha256 w.disk.image authoritative)
  boundary o (removeManifest manifest.revision)
  return unprojectedResult .rolledBack authoritative header .absent .removed

/-- A retained journal must be the one the authoritative checkpoint was committed under. -/
def assertCommittedJournal (o : DvdRecoveryReconciliationOptions) (records : DvdCheckpointRecords)
    (header : DvdArchiveEvidenceHeader) (journal : Option ReadJournal) :
    Except DvdRecoveryReconciliationFault Unit :=
  match journal, records.currentEvidence, records.previousEvidence with
  | some retained, .recovery authoritative, some previous => do
    assertJournalBase retained.metadata previous o.originalDiscArchiveId
    assertJournalCommit retained.metadata authoritative
  | some _, _, _ => .error reconciliationConflict
  | none, .recovery authoritative, _ =>
    rejectIf (authoritative.journalDigest ≠ none ∧
      checkpointIdentity records.currentEvidence ≠ projectedIdentity header) reconciliationConflict
  | none, .initial _, _ => .ok ()

/-- The header must be exactly one checkpoint behind. -/
def requireProjectableCheckpoint (authoritative : CommittedDvdCheckpointEvidence)
    (header : DvdArchiveEvidenceHeader) :
    Except DvdRecoveryReconciliationFault CommittedDvdRecoveryEvidence :=
  match authoritative with
  | .initial _ => .error reconciliationConflict
  | .recovery manifest => do
    rejectIf (manifest.revision ≠ header.currentManifestRevision + 1 ∨
        manifest.previousManifestId ≠ some header.currentManifestId ∨
        manifest.previousManifestDigest ≠ some header.currentManifestDigest)
      reconciliationConflict
    return manifest

/-- `dvdRecovery.reconcileCheckpoint`. -/
def reconcileCheckpoint (now : Nat) (manifest : CommittedDvdRecoveryEvidence) :
    ReconciliationProgram DvdArchiveEvidenceHeader :=
  Program.transaction fun w =>
    (withError (fun _ => reconciliationConflict) (projectDvdRecoveryCheckpoint sha256 now {
      claim := none
      recoveryRead := manifest.recoveryRead
      manifest := manifest.toEvidenceManifest } w.catalog)).map fun (header, c) =>
        (header, { w with catalog := c })

/-- Project the authoritative checkpoint unless the header names it already. -/
def projectAuthoritative (o : DvdRecoveryReconciliationOptions) (header : DvdArchiveEvidenceHeader)
    (authoritative : CommittedDvdCheckpointEvidence) :
    ReconciliationProgram (Option DvdArchiveEvidenceHeader) :=
  if checkpointIdentity authoritative = projectedIdentity header then pure none
  else do
    let manifest ← Program.read fun _ => requireProjectableCheckpoint authoritative header
    let projected ← boundary o (reconcileCheckpoint sha256 o.now manifest)
    Program.read fun _ => rejectIf
      (checkpointIdentity authoritative ≠ projectedIdentity projected) reconciliationConflict
    return some projected

/-- The pointer names the batch's own checkpoint: finish the batch. -/
def rollForward (o : DvdRecoveryReconciliationOptions) (header : DvdArchiveEvidenceHeader)
    (examined : Examined) : ReconciliationProgram DvdRecoveryReconciliationResult := do
  let authoritative := examined.records.currentEvidence
  Program.read fun w => do
    assertCommittedJournal o examined.records header examined.journal
    withError (fun _ => reconciliationConflict)
      (verifyDvdCheckpointImage sha256 w.disk.image authoritative)
  let projected ← projectAuthoritative sha256 o header authoritative
  match examined.journal with
  | some _ => boundary o removeJournal
  | none => pure ()
  return {
    outcome := if projected.isSome then .rolledForward
      else if examined.journal.isSome then .cleanedUp else .alreadyConsistent
    authoritativeCheckpoint := checkpointIdentity authoritative
    databaseProjectionBefore := projectedIdentity header
    databaseProjectionAfter := projectedIdentity (projected.getD header)
    journal := if examined.journal.isSome then .removed else .absent
    uncommittedManifest := .absent }

/-- Tell from pointer, journal, next manifest and header what the interrupted batch had done. -/
def repair (o : DvdRecoveryReconciliationOptions) (header : DvdArchiveEvidenceHeader)
    (examined : Examined) : ReconciliationProgram DvdRecoveryReconciliationResult :=
  let authoritative := examined.records.currentEvidence
  match examined.journal, examined.uncommittedManifest with
  | some journal, uncommittedManifest =>
    if authoritative.manifest.revision = journal.metadata.base.revision then
      rollBack sha256 o header authoritative journal uncommittedManifest
    else rollForward sha256 o header examined
  | none, some manifest => removeUncommittedManifest sha256 o header authoritative manifest
  | none, none => rollForward sha256 o header examined

def runOwnedReconciliation (o : DvdRecoveryReconciliationOptions) :
    ReconciliationProgram DvdRecoveryReconciliationResult := do
  let header ← Program.read fun w => do
    rejectIf (¬w.catalog.isOf o.originalDiscArchiveId) reconciliationConflict
    return w.catalog.header
  let records ← boundary o (Program.read fun w => withError (fun _ => reconciliationConflict)
    (readDvdCheckpointForReconciliation sha256 w.disk w.catalog))
  let journal ← Program.read (readRetainedJournal sha256 metadataLength)
  Program.read fun _ => assertJournalRevision records.currentEvidence journal
  let uncommittedManifest ← Program.read
    (readUncommittedManifest sha256 records.currentEvidence journal)
  repair sha256 o header { records, journal, uncommittedManifest }

/-- Give the work of the recovery back, unless the caller goes on with it. -/
def releaseReconciledWork (o : DvdRecoveryReconciliationOptions) : ReconciliationProgram Unit :=
  Program.transaction fun w =>
    if o.releaseRecoveryWork then
      match w.catalog.work with
      | none => .ok ((), w)
      | some work => (withError (fun _ => reconciliationConflict)
          (releaseAfterReconciliation work.attemptId o.now w.catalog)).map fun (_, c) =>
            ((), { w with catalog := c })
    else .ok ((), w)

def reconcileDvdRecoveryCheckpoint (o : DvdRecoveryReconciliationOptions) :
    ReconciliationProgram DvdRecoveryReconciliationResult := do
  assertReconciliationClaim o
  Program.read fun w => rejectIf (w.catalog.archive.id ≠ o.originalDiscArchiveId)
    reconciliationConflict
  let result ← runOwnedReconciliation sha256 metadataLength o
  releaseReconciledWork o
  return result

end RipDvd
