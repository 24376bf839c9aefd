import RipDvd.Catalog

namespace RipDvd
set_option autoImplicit true

/-- The input of a projection; a reconciliation projects without a claim. -/
structure DvdRecoveryCheckpointProjection where
  claim : Option ClaimedArchiveRecoveryWork
  recoveryRead : RecoveryRead
  manifest : EvidenceManifest
  deriving DecidableEq

variable (sha256 : Hashed → Digest)

/-- The digests and the identities that need no row. -/
def requireMatchingRecoveryRead (input : DvdRecoveryCheckpointProjection) :
    Except DomainError Unit := do
  let { claim, recoveryRead, manifest } := input
  assertDvdArchiveRecoveryReadEvidenceDigest sha256
    recoveryRead.toDvdArchiveRecoveryReadEvidenceDigestInput recoveryRead.evidenceDigest
  assertDvdArchiveEvidenceManifestDigests sha256 manifest
  rejectIf (manifest.originalDiscArchiveId ≠ recoveryRead.originalDiscArchiveId ∨
      (∃ held ∈ claim, held.originalDiscArchiveId ≠ manifest.originalDiscArchiveId) ∨
      manifest.revision ≠ recoveryRead.fromManifestRevision + 1 ∨
      manifest.previousManifestId ≠ some recoveryRead.fromManifestId ∨
      manifest.recoveryReadId ≠ some recoveryRead.id ∨
      manifest.recoveryReadEvidenceDigest ≠ some recoveryRead.evidenceDigest ∨
      ∃ held ∈ claim, held.verificationId = none ∨
        recoveryRead.verificationId ≠ held.verificationId ∨
        recoveryRead.discConfirmationId.join ≠ held.discConfirmationId)
    (.invariant "DVD recovery checkpoint does not match its recovery read")

/-- A match needs no confirmation; anything else needs one of this very result. -/
def readSourceAuthorized (verification : DvdDiscVerification) :
    Option DvdDiscConfirmation → Bool
  | none => verification.status = .completed && verification.outcome = some .match
  | some confirmation => dvdDiscConfirmationMatchesVerification verification confirmation

/-- The disc the sector was read from must have been verified, or confirmed by an operator. -/
def requireReadAuthorization (input : DvdRecoveryCheckpointProjection) (c : Catalog) :
    Except DomainError Unit :=
  match input.recoveryRead.verificationId with
  | none => .ok ()
  | some verificationId =>
    let confirmation := input.recoveryRead.discConfirmationId.join.bind c.findConfirmation
    match c.findVerification verificationId with
    | none => .error (.invariant "DVD recovery read source authorization is invalid")
    | some verification =>
      rejectIf (verification.originalDiscArchiveId ≠ input.manifest.originalDiscArchiveId ∨
          (input.recoveryRead.discConfirmationId.join ≠ none ∧ confirmation = none) ∨
          (input.claim ≠ none ∧ ∃ found ∈ confirmation, found.expiredAt ≠ none) ∨
          ¬readSourceAuthorized verification confirmation)
        (.invariant "DVD recovery read source authorization is invalid")

/-- Why the checkpoint is not the successor of the projected one. -/
def projectionStaleReasons (input : DvdRecoveryCheckpointProjection) (c : Catalog)
    (currentManifest : DvdArchiveEvidenceManifestRow) : List String :=
  (if c.header.currentManifestId ≠ input.recoveryRead.fromManifestId then
    ["manifest identity"] else []) ++
  (if c.header.currentManifestRevision ≠ input.recoveryRead.fromManifestRevision then
    ["manifest revision"] else []) ++
  (if some c.header.currentManifestDigest ≠ input.manifest.previousManifestDigest then
    ["previous digest"] else []) ++
  (if currentManifest.manifestDigest ≠ c.header.currentManifestDigest then
    ["projected digest"] else []) ++
  (if currentManifest.originalDiscArchiveId ≠ input.manifest.originalDiscArchiveId then
    ["archive identity"] else []) ++
  (if c.recovery.status ∉ [ArchiveRecoveryStatus.eligible, .running, .stopping, .faulted] ∧
      ¬(c.recovery.status = .paused ∧ c.recovery.pauseReason = some .storageFault) then
    ["recovery status"] else []) ++
  (if c.archive.integrityEvidenceRevision ≠ some c.header.currentManifestRevision then
    ["integrity revision"] else [])

/-- The unique id of `dvd_archive_recovery_reads` and its insert guard. -/
def insertRecoveryRead (c : Catalog) (row : DvdArchiveRecoveryReadRow) :
    Except DomainError Catalog := do
  rejectIf (∃ other ∈ c.recoveryReads, other.id = row.id)
    (.constraint "dvd_archive_recovery_reads.id")
  rejectIf (c.header.originalDiscArchiveId ≠ row.originalDiscArchiveId ∨
      c.header.currentManifestId ≠ row.fromManifestId ∨
      c.header.currentManifestRevision ≠ row.fromManifestRevision ∨
      ¬∃ current ∈ c.currentManifest, ∃ range ∈ current.unrecoveredSourceRanges,
        range.contains row.startLba)
    (.constraint "DVD recovery read must be a one-sector read of the current unrecovered manifest")
  return { c with recoveryReads := c.recoveryReads ++ [row] }

/-- The unique indexes of `dvd_archive_evidence_manifests`. -/
def insertEvidenceManifest (c : Catalog) (row : DvdArchiveEvidenceManifestRow) :
    Except DomainError Catalog := do
  rejectIf (∃ other ∈ c.manifests, other.id = row.id)
    (.constraint "dvd_archive_evidence_manifests.id")
  rejectIf (∃ other ∈ c.manifests, other.originalDiscArchiveId = row.originalDiscArchiveId ∧
      (other.revision = row.revision ∨ other.manifestDigest = row.manifestDigest))
    (.constraint "dvd_archive_evidence_manifests_archive_revision_unique")
  rejectIf (∃ other ∈ c.manifests, other.recoveryReadId = row.recoveryReadId)
    (.constraint "dvd_archive_evidence_manifests_recovery_read_unique")
  return { c with manifests := c.manifests ++ [row] }

/-- The header may only advance to its next committed manifest. -/
def updateEvidenceHeader (c : Catalog) (manifest : EvidenceManifest) (timestamp : Nat) :
    Except DomainError Catalog := do
  rejectIf (timestamp < c.header.updatedAt ∨
      manifest.revision ≠ c.header.currentManifestRevision + 1 ∨
      ¬∃ row ∈ c.manifests, row.id = manifest.id ∧
        row.originalDiscArchiveId = c.header.originalDiscArchiveId ∧
        row.revision = manifest.revision ∧
        row.previousManifestId = some c.header.currentManifestId ∧
        row.manifestDigest = manifest.manifestDigest)
    (.constraint "DVD evidence header may only advance to its next committed manifest")
  return { c with header := { c.header with
    currentManifestId := manifest.id
    currentManifestRevision := manifest.revision
    currentManifestDigest := manifest.manifestDigest
    updatedAt := timestamp } }

/-- The archive's integrity columns for a map. -/
def updateArchiveIntegrity (archive : OriginalDiscArchive) (revision : Nat)
    (ranges : List UnrecoveredSourceRange) (timestamp : Nat) : OriginalDiscArchive :=
  { archive with
    integrity := if unrecoveredSectorCount ranges = 0 then .cleanRead else .incompleteRead
    integrityEvidenceRevision := some revision
    integrityPolicyVersion := "dvd-recovery-evidence-v1"
    badSectorCount := unrecoveredSectorCount ranges
    badAreaCount := ranges.length
    badSectorRanges := ranges.map fun range => (range.startLba, range.sectorCount)
    updatedAt := timestamp }

/-- Which statuses agree with the current map and the work row. -/
def archiveRecoveryStatusMatches (c : Catalog) (recovery : ArchiveRecovery) : Prop :=
  recovery.status ∈ [ArchiveRecoveryStatus.waitingForDisc, .stopping, .stopped, .faulted] ∨
  (recovery.status = .running ∧ ∃ work ∈ c.work, work.archiveRecoveryId = recovery.id ∧
    work.attemptId = recovery.attemptId ∧ work.status = .claimed) ∨
  (recovery.status = .completed ∧
    ∃ current ∈ c.currentManifest, current.unrecoveredSourceRanges = []) ∨
  (recovery.status ∈ [ArchiveRecoveryStatus.eligible, .paused] ∧
    ∃ current ∈ c.currentManifest, current.unrecoveredSourceRanges ≠ [])

instance (c : Catalog) (recovery : ArchiveRecovery) :
    Decidable (archiveRecoveryStatusMatches c recovery) :=
  inferInstanceAs (Decidable (_ ∨ _))

/-- Every update of the recovery row passes this guard and the column checks. -/
def updateArchiveRecovery (c : Catalog) (recovery : ArchiveRecovery) :
    Except DomainError Catalog := do
  rejectIf (c.recovery.id ≠ recovery.id ∨
      c.recovery.originalDiscArchiveId ≠ recovery.originalDiscArchiveId ∨
      recovery.updatedAt < c.recovery.updatedAt ∨ ¬archiveRecoveryStatusMatches c recovery)
    (.constraint "Archive Recovery identity is immutable and status must match authoritative
      DVD evidence")
  rejectIf (¬recovery.Valid) (.constraint "archive_recoveries")
  return { c with recovery }

/-- `archive_recovery_work_pass_check`. -/
def ArchiveRecoveryPass.Valid (pass : ArchiveRecoveryPass) : Prop :=
  0 < pass.passNumber ∧
    ((pass.passStartedAt = none ∧ pass.passInitialUnrecoveredSectorCount = none ∧
        pass.passRecoveredSectorCount = 0 ∧ pass.passCursorLba = none) ∨
      (pass.passStartedAt ≠ none ∧ ∃ initial ∈ pass.passInitialUnrecoveredSectorCount,
        0 < initial ∧ pass.passRecoveredSectorCount ≤ initial))

instance (pass : ArchiveRecoveryPass) : Decidable pass.Valid :=
  inferInstanceAs (Decidable (_ ∧ _))

/-- Count the observation and its distance in time from the one before it. -/
def observePass (pass : ArchiveRecoveryPass) (recoveryRead : RecoveryRead) (timestamp : Nat) :
    Except DomainError ArchiveRecoveryPass := do
  match pass.passStartedAt, pass.passStartedManifestRevision with
  | some passStartedAt, some passStartedManifestRevision =>
    match pass.passObservationCount, pass.passPositiveIntervalCount with
    | some observationCount, some positiveIntervalCount =>
      rejectIf (recoveryRead.fromManifestRevision < passStartedManifestRevision)
        (.invariant "Archive Recovery pass observation state is inconsistent")
      let intervalMs := timestamp - pass.passLastObservedAt.getD passStartedAt
      return { pass with
        passObservationCount := some (observationCount + 1)
        passPositiveIntervalCount :=
          some (positiveIntervalCount + if 0 < intervalMs then 1 else 0)
        passMinimumIntervalMs := if 0 < intervalMs then
          some (min (pass.passMinimumIntervalMs.getD intervalMs) intervalMs)
          else pass.passMinimumIntervalMs
        passMaximumIntervalMs := if 0 < intervalMs then
          some (max (pass.passMaximumIntervalMs.getD intervalMs) intervalMs)
          else pass.passMaximumIntervalMs
        passLastObservedAt := some timestamp }
    | _, _ => throw (.invariant "Archive Recovery pass observation state is inconsistent")
  | _, _ =>
    rejectIf (pass.passObservationCount ≠ none ∨ pass.passPositiveIntervalCount ≠ none ∨
        pass.passMinimumIntervalMs ≠ none ∨ pass.passMaximumIntervalMs ≠ none ∨
        pass.passLastObservedAt ≠ none)
      (.invariant "Archive Recovery pass observation state has no checkpoint boundary")
    return pass

/-- Move the pass on by one observation. -/
def advancePass (work : ArchiveRecoveryWork) (recoveryRead : RecoveryRead) (timestamp : Nat) :
    Except DomainError ArchiveRecoveryWork := do
  let observed ← observePass work.toArchiveRecoveryPass recoveryRead timestamp
  let pass := { observed with
    passCursorLba := some recoveryRead.startLba
    passRecoveredSectorCount := work.passRecoveredSectorCount +
      if recoveryRead.outcome = .recovered then 1 else 0 }
  rejectIf (¬pass.Valid) (.constraint "archive_recovery_work_pass_check")
  return { work with toArchiveRecoveryPass := pass, updatedAt := timestamp }

/-- The claimed work row of the current attempt; a live writer also needs its own token there. -/
def projectionWork (input : DvdRecoveryCheckpointProjection) (c : Catalog) :
    Option ArchiveRecoveryWork :=
  c.work.filter fun work =>
    work.archiveRecoveryId = c.recovery.id ∧ work.attemptId = c.recovery.attemptId ∧
      work.status = .claimed ∧ ∀ claim ∈ input.claim, work.claimToken = some claim.claimToken

/-- The work row after the observation; without a claim recorded there it stays as it is. -/
def projectWork (input : DvdRecoveryCheckpointProjection) (c : Catalog) (timestamp : Nat) :
    Except DomainError (Option ArchiveRecoveryWork) :=
  match projectionWork input c with
  | none => .ok c.work
  | some work => (advancePass work input.recoveryRead timestamp).map some

def projectedRecoveryStatus (input : DvdRecoveryCheckpointProjection) (c : Catalog) :
    ArchiveRecoveryStatus :=
  if c.recovery.status ∈ [ArchiveRecoveryStatus.stopping, .faulted, .paused] then c.recovery.status
  else if (projectionWork input c).isSome then .running
  else if unrecoveredSectorCount input.manifest.unrecoveredSourceRanges = 0 then .completed
  else .eligible

/-- The rows the projection adds and moves once the checkpoint is known to be the successor. -/
def installProjection (now : Nat) (input : DvdRecoveryCheckpointProjection)
    (sourceRange : UnrecoveredSourceRange) (c : Catalog) : Except DomainError Catalog := do
  let { recoveryRead, manifest, .. } := input
  let timestamp := max now (max (c.header.updatedAt + 1)
    (max (c.archive.updatedAt + 1) (c.recovery.updatedAt + 1)))
  let withRead ← insertRecoveryRead c { recoveryRead with
    fromClassification := sourceRange.classification
    meaningfulTransition := recoveryRead.outcome = .recovered ||
      sourceRange.classification = .skippedUntested
    createdAt := timestamp }
  let withManifest ← insertEvidenceManifest withRead { manifest with createdAt := timestamp }
  let withHeader ← updateEvidenceHeader withManifest manifest timestamp
  let withArchive := { withHeader with
    archive := updateArchiveIntegrity c.archive manifest.revision
      manifest.unrecoveredSourceRanges timestamp }
  let withRecovery ← updateArchiveRecovery withArchive { c.recovery with
    status := projectedRecoveryStatus input c
    updatedAt := timestamp }
  let work ← projectWork input c timestamp
  return { withRecovery with work }

def requireProjectionClaim (input : DvdRecoveryCheckpointProjection) (c : Catalog) :
    Except DomainError Unit :=
  match input.claim with
  | none => .ok ()
  | some claim => (requireCurrentArchiveRecoveryClaim c claim).map fun _ => ()

/-- The joined rows of the archive the checkpoint is about. -/
def requireCurrentManifest (input : DvdRecoveryCheckpointProjection) (c : Catalog) :
    Except DomainError DvdArchiveEvidenceManifestRow :=
  match c.currentManifest with
  | some current =>
    if c.header.originalDiscArchiveId = input.manifest.originalDiscArchiveId ∧
        c.archive.id = input.manifest.originalDiscArchiveId ∧
        c.recovery.originalDiscArchiveId = input.manifest.originalDiscArchiveId then .ok current
    else .error (.recordNotFound "DVD Archive Evidence" input.manifest.originalDiscArchiveId)
  | none => .error (.recordNotFound "DVD Archive Evidence" input.manifest.originalDiscArchiveId)

/-- The checkpoint must be the successor of the projected one; returns the range it reads. -/
def requireProjectionSuccessor (input : DvdRecoveryCheckpointProjection) (c : Catalog)
    (current : DvdArchiveEvidenceManifestRow) : Except DomainError UnrecoveredSourceRange := do
  let staleReasons := projectionStaleReasons input c current
  let reasons := ", ".intercalate staleReasons
  rejectIf (staleReasons ≠ []) (.invariant
    s!"DVD recovery checkpoint base revision is stale or inconsistent ({reasons})")
  rejectIf (changedImmutableEvidence input.manifest current.toEvidenceManifest)
    (.invariant "DVD recovery checkpoint changed immutable archive evidence")
  assertDvdEvidenceRangeTransition current.unrecoveredSourceRanges
    input.manifest.unrecoveredSourceRanges input.recoveryRead.startLba input.recoveryRead.outcome
  match current.unrecoveredSourceRanges.find? (·.contains input.recoveryRead.startLba) with
  | none => throw (.invariant "DVD recovery read has no predecessor source range")
  | some sourceRange => return sourceRange

/-- Project a filesystem-committed checkpoint into the catalog, in one transaction. -/
def projectDvdRecoveryCheckpoint (now : Nat) (input : DvdRecoveryCheckpointProjection)
    (c : Catalog) : Except DomainError (DvdArchiveEvidenceHeader × Catalog) := do
  requireMatchingRecoveryRead sha256 input
  requireProjectionClaim input c
  requireReadAuthorization input c
  let current ← requireCurrentManifest input c
  if c.header.currentManifestRevision = input.manifest.revision ∧
      c.header.currentManifestId = input.manifest.id ∧
      c.header.currentManifestDigest = input.manifest.manifestDigest then
    return (c.header, c)
  else
    let sourceRange ← requireProjectionSuccessor input c current
    let projected ← installProjection now input sourceRange c
    return (projected.header, projected)

/-- The catalog a projection writes, apart from the work row. -/
def projectedCatalog (input : DvdRecoveryCheckpointProjection) (c : Catalog) (timestamp : Nat)
    (fromClassification : SourceClassification) (meaningfulTransition : Bool) : Catalog :=
  { c with
    recoveryReads := c.recoveryReads ++ [{ input.recoveryRead with
      fromClassification, meaningfulTransition, createdAt := timestamp }]
    manifests := c.manifests ++ [{ input.manifest with createdAt := timestamp }]
    header := { c.header with
      currentManifestId := input.manifest.id
      currentManifestRevision := input.manifest.revision
      currentManifestDigest := input.manifest.manifestDigest
      updatedAt := timestamp }
    archive := updateArchiveIntegrity c.archive input.manifest.revision
      input.manifest.unrecoveredSourceRanges timestamp
    recovery := { c.recovery with
      status := projectedRecoveryStatus input c
      updatedAt := timestamp } }

/-- Everything a projection that moves the header on has checked and written. -/
structure Advances (input : DvdRecoveryCheckpointProjection) (c c' : Catalog) : Prop where
  fromHeader : c.header.currentManifestId = input.recoveryRead.fromManifestId ∧
    c.header.currentManifestRevision = input.recoveryRead.fromManifestRevision ∧
    some c.header.currentManifestDigest = input.manifest.previousManifestDigest
  successor : input.manifest.revision = c.header.currentManifestRevision + 1 ∧
    input.manifest.previousManifestId = some c.header.currentManifestId
  archiveId : c.header.originalDiscArchiveId = input.manifest.originalDiscArchiveId
  status : c.recovery.status ∈ [ArchiveRecoveryStatus.eligible, .running, .stopping, .faulted] ∨
    (c.recovery.status = .paused ∧ c.recovery.pauseReason = some .storageFault)
  ranges : ∃ current, c.currentManifest = some current ∧
    ¬changedImmutableEvidence input.manifest current.toEvidenceManifest ∧
    dvdEvidenceRangesAfterRecoveryRead current.unrecoveredSourceRanges input.recoveryRead.startLba
      input.recoveryRead.outcome = .ok input.manifest.unrecoveredSourceRanges
  fresh : (∀ other ∈ c.recoveryReads, other.id ≠ input.recoveryRead.id) ∧
    ∀ other ∈ c.manifests, other.id ≠ input.manifest.id
  written : ∃ timestamp classification meaningful work,
    projectWork input c timestamp = .ok work ∧
    c' = { projectedCatalog input c timestamp classification meaningful with work } ∧
    archiveRecoveryStatusMatches (projectedCatalog input c timestamp classification meaningful)
      (projectedCatalog input c timestamp classification meaningful).recovery

theorem advancePass_row (h : advancePass work recoveryRead timestamp = .ok next) :
    ∃ pass, next = { work with toArchiveRecoveryPass := pass, updatedAt := timestamp } := by
  simp only [advancePass, bind_ok, pure_ok] at h
  obtain ⟨_, -, _, -, rfl⟩ := h
  exact ⟨_, rfl⟩

theorem requireMatchingRecoveryRead_ok :
    requireMatchingRecoveryRead sha256 input = .ok u ↔
      (assertDvdArchiveRecoveryReadEvidenceDigest sha256
        input.recoveryRead.toDvdArchiveRecoveryReadEvidenceDigestInput
        input.recoveryRead.evidenceDigest = .ok () ∧
        assertDvdArchiveEvidenceManifestDigests sha256 input.manifest = .ok ()) ∧
      input.manifest.originalDiscArchiveId = input.recoveryRead.originalDiscArchiveId ∧
      (∀ held ∈ input.claim, held.originalDiscArchiveId = input.manifest.originalDiscArchiveId) ∧
      input.manifest.revision = input.recoveryRead.fromManifestRevision + 1 ∧
      input.manifest.previousManifestId = some input.recoveryRead.fromManifestId ∧
      input.manifest.recoveryReadId = some input.recoveryRead.id ∧
      input.manifest.recoveryReadEvidenceDigest = some input.recoveryRead.evidenceDigest ∧
      ∀ held ∈ input.claim, held.verificationId ≠ none ∧
        input.recoveryRead.verificationId = held.verificationId ∧
        input.recoveryRead.discConfirmationId.join = held.discConfirmationId := by
  simp only [requireMatchingRecoveryRead, bind_ok, rejectIf_ok, not_or, ne_eq, not_not,
    not_exists, not_and]
  constructor
  · rintro ⟨_, hd, _, hm, h⟩
    exact ⟨⟨hd, hm⟩, h⟩
  · rintro ⟨⟨hd, hm⟩, h⟩
    exact ⟨(), hd, (), hm, h⟩

theorem projectionStaleReasons_nil {input : DvdRecoveryCheckpointProjection} :
    projectionStaleReasons input c current = [] ↔
      c.header.currentManifestId = input.recoveryRead.fromManifestId ∧
      c.header.currentManifestRevision = input.recoveryRead.fromManifestRevision ∧
      some c.header.currentManifestDigest = input.manifest.previousManifestDigest ∧
      current.manifestDigest = c.header.currentManifestDigest ∧
      current.originalDiscArchiveId = input.manifest.originalDiscArchiveId ∧
      (c.recovery.status ∈ [ArchiveRecoveryStatus.eligible, .running, .stopping, .faulted] ∨
        (c.recovery.status = .paused ∧ c.recovery.pauseReason = some .storageFault)) ∧
      c.archive.integrityEvidenceRevision = some c.header.currentManifestRevision := by
  simp only [projectionStaleReasons, List.append_eq_nil_iff, ite_eq_right_iff,
    List.cons_ne_self, imp_false, ne_eq, not_not, not_and_or, not_or,
    and_assoc]

theorem assertDvdEvidenceRangeTransition_ok :
    assertDvdEvidenceRangeTransition previous current lba outcome = .ok u ↔
      dvdEvidenceRangesAfterRecoveryRead previous lba outcome = .ok current := by
  simp only [assertDvdEvidenceRangeTransition, bind_ok, rejectIf_ok, ne_eq, not_not]
  constructor
  · rintro ⟨_, h, he⟩
    exact he ▸ h
  · intro h
    exact ⟨_, h, rfl⟩

theorem insertRecoveryRead_ok :
    insertRecoveryRead c row = .ok c' ↔
      (∀ other ∈ c.recoveryReads, other.id ≠ row.id) ∧
      (c.header.originalDiscArchiveId = row.originalDiscArchiveId ∧
        c.header.currentManifestId = row.fromManifestId ∧
        c.header.currentManifestRevision = row.fromManifestRevision ∧
        ∃ current ∈ c.currentManifest, ∃ range ∈ current.unrecoveredSourceRanges,
          range.contains row.startLba) ∧
      { c with recoveryReads := c.recoveryReads ++ [row] } = c' := by
  simp only [insertRecoveryRead, bind_ok, rejectIf_ok, pure_ok, not_or, ne_eq, not_not]
  constructor
  · rintro ⟨_, h1, _, h2, h⟩
    exact ⟨fun o ho he => h1 ⟨o, ho, he⟩, h2, h⟩
  · rintro ⟨h1, h2, h⟩
    refine ⟨(), ?_, (), h2, h⟩
    rintro ⟨o, ho, he⟩
    exact h1 o ho he

theorem insertEvidenceManifest_ok :
    insertEvidenceManifest c row = .ok c' ↔
      (∀ other ∈ c.manifests, other.id ≠ row.id) ∧
      (∀ other ∈ c.manifests, other.originalDiscArchiveId = row.originalDiscArchiveId →
        other.revision ≠ row.revision ∧ other.manifestDigest ≠ row.manifestDigest) ∧
      (∀ other ∈ c.manifests, other.recoveryReadId ≠ row.recoveryReadId) ∧
      { c with manifests := c.manifests ++ [row] } = c' := by
  simp only [insertEvidenceManifest, bind_ok, rejectIf_ok, pure_ok, not_or, ne_eq,
    not_exists, not_and]
  constructor
  · rintro ⟨_, h1, _, h2, _, h3, h⟩
    exact ⟨h1, h2, h3, h⟩
  · rintro ⟨h1, h2, h3, h⟩
    exact ⟨(), h1, (), h2, (), h3, h⟩

theorem updateEvidenceHeader_ok :
    updateEvidenceHeader c manifest timestamp = .ok c' ↔
      c.header.updatedAt ≤ timestamp ∧
      manifest.revision = c.header.currentManifestRevision + 1 ∧
      (∃ row ∈ c.manifests, row.id = manifest.id ∧
        row.originalDiscArchiveId = c.header.originalDiscArchiveId ∧
        row.revision = manifest.revision ∧
        row.previousManifestId = some c.header.currentManifestId ∧
        row.manifestDigest = manifest.manifestDigest) ∧
      { c with header := { c.header with
        currentManifestId := manifest.id
        currentManifestRevision := manifest.revision
        currentManifestDigest := manifest.manifestDigest
        updatedAt := timestamp } } = c' := by
  simp only [updateEvidenceHeader, bind_ok, rejectIf_ok, pure_ok, not_or, ne_eq, not_not,
    Nat.not_lt]
  constructor
  · rintro ⟨_, ⟨ht, hr, hw⟩, h⟩
    exact ⟨ht, hr, hw, h⟩
  · rintro ⟨ht, hr, hw, h⟩
    exact ⟨(), ⟨ht, hr, hw⟩, h⟩

theorem updateArchiveRecovery_ok :
    updateArchiveRecovery c recovery = .ok c' ↔
      c.recovery.id = recovery.id ∧
      c.recovery.originalDiscArchiveId = recovery.originalDiscArchiveId ∧
      c.recovery.updatedAt ≤ recovery.updatedAt ∧ archiveRecoveryStatusMatches c recovery ∧
      recovery.Valid ∧ { c with recovery } = c' := by
  simp only [updateArchiveRecovery, bind_ok, rejectIf_ok, pure_ok, not_or, ne_eq, not_not,
    Nat.not_lt]
  constructor
  · rintro ⟨_, ⟨hi, ho, hu, hm⟩, _, hv, h⟩
    exact ⟨hi, ho, hu, hm, hv, h⟩
  · rintro ⟨hi, ho, hu, hm, hv, h⟩
    exact ⟨(), ⟨hi, ho, hu, hm⟩, (), hv, h⟩

theorem requireProjectionClaim_ok :
    requireProjectionClaim input c = .ok u ↔ ∀ claim ∈ input.claim, ∃ work,
      requireCurrentArchiveRecoveryClaim c claim = .ok work := by
  rw [requireProjectionClaim]
  cases input.claim with
  | none => simp
  | some claim =>
    cases hw : requireCurrentArchiveRecoveryClaim c claim <;> simp [Except.map, hw]

theorem requireCurrentManifest_ok :
    requireCurrentManifest input c = .ok current ↔ c.currentManifest = some current ∧
      c.header.originalDiscArchiveId = input.manifest.originalDiscArchiveId ∧
      c.archive.id = input.manifest.originalDiscArchiveId ∧
      c.recovery.originalDiscArchiveId = input.manifest.originalDiscArchiveId := by
  rw [requireCurrentManifest]
  cases c.currentManifest with
  | none => simp
  | some row =>
    by_cases hid : c.header.originalDiscArchiveId = input.manifest.originalDiscArchiveId ∧
        c.archive.id = input.manifest.originalDiscArchiveId ∧
        c.recovery.originalDiscArchiveId = input.manifest.originalDiscArchiveId
    · simp [hid]
    · simp only [if_neg hid, reduceCtorEq, false_iff]
      exact fun h => hid h.2

theorem requireProjectionSuccessor_ok :
    requireProjectionSuccessor input c current = .ok sourceRange ↔
      projectionStaleReasons input c current = [] ∧
      ¬changedImmutableEvidence input.manifest current.toEvidenceManifest ∧
      dvdEvidenceRangesAfterRecoveryRead current.unrecoveredSourceRanges input.recoveryRead.startLba
        input.recoveryRead.outcome = .ok input.manifest.unrecoveredSourceRanges ∧
      current.unrecoveredSourceRanges.find? (·.contains input.recoveryRead.startLba) =
        some sourceRange := by
  simp only [requireProjectionSuccessor, bind_ok, rejectIf_ok, ne_eq, not_not]
  constructor
  · rintro ⟨_, hs, _, hi, _, ht, h⟩
    refine ⟨hs, hi, assertDvdEvidenceRangeTransition_ok.1 ht, ?_⟩
    split at h
    · cases h
    · next hf => rw [hf, pure_ok.1 h]
  · rintro ⟨hs, hi, ht, h⟩
    exact ⟨(), hs, (), hi, (), assertDvdEvidenceRangeTransition_ok.2 ht, by rw [h]; rfl⟩

theorem installProjection_ok (h : installProjection now input sourceRange c = .ok c') :
    (∀ other ∈ c.recoveryReads, other.id ≠ input.recoveryRead.id) ∧
      (∀ other ∈ c.manifests, other.id ≠ input.manifest.id) ∧
      ∃ timestamp classification meaningful work,
        projectWork input c timestamp = .ok work ∧
        c' = { projectedCatalog input c timestamp classification meaningful with work } ∧
        archiveRecoveryStatusMatches (projectedCatalog input c timestamp classification meaningful)
          (projectedCatalog input c timestamp classification meaningful).recovery := by
  simp only [installProjection, bind_ok, pure_ok] at h
  obtain ⟨withRead, hr, withManifest, hm, withHeader, hh, withRecovery, hc, work, hw, rfl⟩ := h
  obtain ⟨hfresh, -, rfl⟩ := insertRecoveryRead_ok.1 hr
  obtain ⟨hfresh', -, -, rfl⟩ := insertEvidenceManifest_ok.1 hm
  obtain ⟨-, -, -, rfl⟩ := updateEvidenceHeader_ok.1 hh
  obtain ⟨-, -, -, hst, -, rfl⟩ := updateArchiveRecovery_ok.1 hc
  exact ⟨hfresh, hfresh', _, _, _, work, hw, rfl, hst⟩

/-- A committed projection either found the checkpoint projected already or moved to it. -/
theorem projectDvdRecoveryCheckpoint_ok
    (h : projectDvdRecoveryCheckpoint sha256 now input c = .ok (header, c')) :
    header = c'.header ∧ (∀ claim ∈ input.claim, ∃ work,
        requireCurrentArchiveRecoveryClaim c claim = .ok work) ∧
      ((c' = c ∧ c.header.currentManifestRevision = input.manifest.revision ∧
          c.header.currentManifestId = input.manifest.id ∧
          c.header.currentManifestDigest = input.manifest.manifestDigest) ∨
        Advances input c c') := by
  simp only [projectDvdRecoveryCheckpoint, bind_ok] at h
  obtain ⟨_, hread, _, hclaim, _, -, current, hcur, h⟩ := h
  obtain ⟨-, -, -, hrev, hprev, -⟩ := (requireMatchingRecoveryRead_ok sha256).1 hread
  obtain ⟨hcur, hid, -, -⟩ := requireCurrentManifest_ok.1 hcur
  split at h
  · next hsame =>
    obtain ⟨rfl, rfl⟩ := Prod.mk.inj (pure_ok.1 h)
    exact ⟨rfl, requireProjectionClaim_ok.1 hclaim, .inl ⟨rfl, hsame⟩⟩
  · simp only [bind_ok, pure_ok, Prod.mk.injEq] at h
    obtain ⟨sourceRange, hsucc, projected, hinst, rfl, rfl⟩ := h
    obtain ⟨hstale, himm, htrans, -⟩ := requireProjectionSuccessor_ok.1 hsucc
    obtain ⟨hfid, hfrev, hfdig, -, -, hstatus, -⟩ := projectionStaleReasons_nil.1 hstale
    obtain ⟨hfr, hfm, hwritten⟩ := installProjection_ok hinst
    exact ⟨rfl, requireProjectionClaim_ok.1 hclaim, .inr {
      fromHeader := ⟨hfid, hfrev, hfdig⟩
      successor := ⟨hfrev ▸ hrev, hfid ▸ hprev⟩
      archiveId := hid
      status := hstatus
      ranges := ⟨current, hcur, himm, htrans⟩
      fresh := ⟨hfr, hfm⟩
      written := hwritten }⟩

end RipDvd
