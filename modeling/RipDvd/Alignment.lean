import RipDvd.Projection

namespace RipDvd
set_option autoImplicit true

/-- The integrity columns that a checkpoint's map calls for. -/
structure IntegrityMatches (archive : OriginalDiscArchive) (revision : Nat)
    (ranges : List UnrecoveredSourceRange) : Prop where
  integrity : archive.integrity =
    if unrecoveredSectorCount ranges = 0 then .cleanRead else .incompleteRead
  evidenceRevision : archive.integrityEvidenceRevision = some revision
  badSectorCount : archive.badSectorCount = unrecoveredSectorCount ranges
  badAreaCount : archive.badAreaCount = ranges.length
  badSectorRanges : archive.badSectorRanges =
    ranges.map fun range => (range.startLba, range.sectorCount)

/-- The header, its manifest row, the archive and the recovery tell one story. -/
structure Aligned (c : Catalog) : Prop where
  ids : c.archive.id = c.header.originalDiscArchiveId ∧
    c.recovery.originalDiscArchiveId = c.header.originalDiscArchiveId
  current : ∃ row, c.currentManifest = some row ∧
    row.revision = c.header.currentManifestRevision ∧
    row.manifestDigest = c.header.currentManifestDigest ∧
    row.originalDiscArchiveId = c.header.originalDiscArchiveId ∧
    IntegrityMatches c.archive c.header.currentManifestRevision row.unrecoveredSourceRanges
  status : archiveRecoveryStatusMatches c c.recovery

theorem updateArchiveIntegrity_matches (archive : OriginalDiscArchive) (revision : Nat)
    (ranges : List UnrecoveredSourceRange) (timestamp : Nat) :
    IntegrityMatches (updateArchiveIntegrity archive revision ranges timestamp) revision ranges :=
  ⟨rfl, rfl, rfl, rfl, rfl⟩

/-- The row a projection inserts is the one its header names. -/
theorem projectedCatalog_current (h : ∀ other ∈ c.manifests, other.id ≠ input.manifest.id)
    (timestamp : Nat) (classification : SourceClassification) (meaningful : Bool) :
    (projectedCatalog input c timestamp classification meaningful).currentManifest =
      some { input.manifest with createdAt := timestamp } := by
  rw [Catalog.currentManifest, projectedCatalog, List.find?_append,
    List.find?_eq_none.2 fun other ho => by simpa using h other ho]
  simp

theorem projectWork_ok (h : projectWork input c timestamp = .ok work) :
    (projectionWork input c = none ∧ work = c.work) ∨
      ∃ claimed next, projectionWork input c = some claimed ∧ c.work = some claimed ∧
        advancePass claimed input.recoveryRead timestamp = .ok next ∧ work = some next := by
  rw [projectWork] at h
  cases hw : projectionWork input c with
  | none =>
    rw [hw] at h
    exact .inl ⟨rfl, (Except.ok.inj h).symm⟩
  | some claimed =>
    rw [hw] at h
    have hc := (Option.filter_eq_some_iff.1 hw).1
    cases ha : advancePass claimed input.recoveryRead timestamp with
    | error => simp [ha, Except.map] at h
    | ok next =>
      simp only [ha, Except.map, Except.ok.injEq] at h
      exact .inr ⟨claimed, next, rfl, hc, ha, h.symm⟩

/-- An advanced pass keeps the work row's identity, so the status guard sees no difference. -/
theorem statusMatches_projectWork (h : projectWork input c timestamp = .ok work)
    (hw : d.work = c.work) (hm : archiveRecoveryStatusMatches d recovery) :
    archiveRecoveryStatusMatches { d with work } recovery := by
  rcases projectWork_ok h with ⟨-, rfl⟩ | ⟨claimed, next, -, hc, ha, rfl⟩
  · rw [← hw]
    exact hm
  · obtain ⟨pass, rfl⟩ := advancePass_row ha
    refine hm.imp_right (.imp_left ?_)
    rintro ⟨hr, w, hmem, hid⟩
    rw [hw, hc] at hmem
    cases hmem
    exact ⟨hr, _, rfl, hid⟩

theorem Advances.aligned (h : Advances input c c') (ha : Aligned c) : Aligned c' := by
  obtain ⟨timestamp, classification, meaningful, work, hwork, rfl, hst⟩ := h.written
  refine ⟨ha.ids, ⟨_, projectedCatalog_current h.fresh.2 _ classification meaningful, rfl, rfl,
    h.archiveId.symm, ?_⟩, ?_⟩
  · exact updateArchiveIntegrity_matches _ _ _ _
  · exact statusMatches_projectWork hwork rfl hst

theorem Advances.header (h : Advances input c c') :
    c'.header.currentManifestId = input.manifest.id ∧
      c'.header.currentManifestRevision = input.manifest.revision ∧
      c'.header.currentManifestDigest = input.manifest.manifestDigest := by
  obtain ⟨_, _, _, _, -, rfl, -⟩ := h.written
  exact ⟨rfl, rfl, rfl⟩

/-- The one read and the one manifest a projection adds. -/
theorem Advances.rows (h : Advances input c c') :
    (∃ row, row.toRecoveryRead = input.recoveryRead ∧
      c'.recoveryReads = c.recoveryReads ++ [row]) ∧
      ∃ row, row.toEvidenceManifest = input.manifest ∧ c'.manifests = c.manifests ++ [row] := by
  obtain ⟨_, _, _, _, -, rfl, -⟩ := h.written
  exact ⟨⟨_, rfl, rfl⟩, _, rfl, rfl⟩

/-- `projectCheckpoint` with a claim, `reconcileCheckpoint` without one. -/
def projectCheckpoint (sha256 : Hashed → Digest) (now : Nat)
    (input : DvdRecoveryCheckpointProjection) :
    Program Catalog DomainError DvdArchiveEvidenceHeader :=
  .transaction (projectDvdRecoveryCheckpoint sha256 now input)

theorem projectCheckpoint_run (sha256 : Hashed → Digest) (now : Nat)
    (input : DvdRecoveryCheckpointProjection) (c : Catalog) :
    (∃ e, (projectCheckpoint sha256 now input).run c = (.error e, c)) ∨
      ∃ header c', projectDvdRecoveryCheckpoint sha256 now input c = .ok (header, c') ∧
        (projectCheckpoint sha256 now input).run c = (.ok header, c') := by
  cases hp : projectDvdRecoveryCheckpoint sha256 now input c with
  | error e => exact .inl ⟨e, by simp [projectCheckpoint, Program.transaction, Program.run, hp,
      Except.map]⟩
  | ok result => exact .inr ⟨result.1, result.2, rfl, by
      simp [projectCheckpoint, Program.transaction, Program.run, hp, Except.map]⟩

/-- A projection throws and changes nothing, finds its checkpoint projected already, or moves an
aligned catalog by exactly one revision to its successor. -/
theorem projectCheckpoint_aligned (sha256 : Hashed → Digest) (now : Nat)
    (input : DvdRecoveryCheckpointProjection) (h : Aligned c)
    (hr : (projectCheckpoint sha256 now input).run c = (result, c')) :
    (∀ e, result = .error e → c' = c) ∧
      (∀ header, result = .ok header → header = c'.header ∧ Aligned c' ∧
        c'.header.currentManifestId = input.manifest.id ∧
        c'.header.currentManifestRevision = input.manifest.revision ∧
        c'.header.currentManifestDigest = input.manifest.manifestDigest) ∧
      (c' = c ∨
        (c'.header.currentManifestRevision = c.header.currentManifestRevision + 1 ∧
          input.manifest.previousManifestId = some c.header.currentManifestId ∧
          input.manifest.previousManifestDigest = some c.header.currentManifestDigest ∧
          (∃ row, row.toRecoveryRead = input.recoveryRead ∧
            c'.recoveryReads = c.recoveryReads ++ [row]) ∧
          ∃ row, row.toEvidenceManifest = input.manifest ∧ c'.manifests = c.manifests ++ [row])) ∧
      (c.header.currentManifestRevision = input.manifest.revision → c' = c) ∧
      ∀ claim ∈ input.claim, (∀ work, requireCurrentArchiveRecoveryClaim c claim ≠ .ok work) →
        c' = c := by
  rcases projectCheckpoint_run sha256 now input c with ⟨e, he⟩ | ⟨header, d, hp, hd⟩
  · obtain ⟨rfl, rfl⟩ := Prod.mk.inj (he.symm.trans hr)
    exact ⟨fun _ _ => rfl, fun _ hok => (nomatch hok), .inl rfl, fun _ => rfl, fun _ _ _ => rfl⟩
  · obtain ⟨rfl, rfl⟩ := Prod.mk.inj (hd.symm.trans hr)
    obtain ⟨rfl, hclaim, hcase⟩ := projectDvdRecoveryCheckpoint_ok sha256 hp
    refine ⟨fun _ he => (nomatch he), fun _ hok => ?_, ?_, ?_, fun claim hm hn => ?_⟩
    · obtain rfl := Except.ok.inj hok
      rcases hcase with ⟨rfl, hrev, hid, hdig⟩ | hadv
      · exact ⟨rfl, h, hid, hrev, hdig⟩
      · exact ⟨rfl, hadv.aligned h, hadv.header⟩
    · rcases hcase with ⟨rfl, -⟩ | hadv
      · exact .inl rfl
      · exact .inr ⟨hadv.header.2.1.trans hadv.successor.1, hadv.successor.2,
          hadv.fromHeader.2.2.symm, hadv.rows⟩
    · intro hsame
      rcases hcase with ⟨rfl, -⟩ | hadv
      · rfl
      · have := hadv.successor.1
        omega
    · obtain ⟨work, hw⟩ := hclaim claim hm
      exact absurd hw (hn work)

/-! An archive of two sectors, both skipped when it was made. -/

def sampleSha256 : Hashed → Digest
  | .bytes bytes => if bytes.all (· = 0) then 0 else 1
  | .evidenceManifest input _ => BitVec.ofNat 256 input.revision
  | _ => 0

def sampleBoundary : ArchiveBoundaryEvidence := ⟨"boundary-v1", 4096, 4096, 0, "endpoint"⟩

def sampleManifest : EvidenceManifest where
  originalDiscArchiveId := "archive"
  revision := 1
  previousManifestId := none
  previousManifestDigest := none
  recoveryReadId := none
  recoveryReadEvidenceDigest := none
  evidenceFormat := "dvd-recovery-evidence-v1"
  imageFingerprint := "fingerprint"
  sectorSizeBytes := 2048
  acceptedEndLbaExclusive := 2
  boundaryPolicyVersion := "boundary-v1"
  boundaryReportedSizeBytes := 4096
  boundaryPublishedSizeBytes := 4096
  boundaryEvidenceDigest := 0
  unrecoveredSourceRanges := [⟨0, 2, .skippedUntested⟩]
  unrecoveredSourceRangesDigest := 0
  manifestDigest := 1
  id := "archive:initial"

def sampleArchive : OriginalDiscArchive where
  id := "archive"
  discKind := "dvd"
  detectedDiscId := "disc"
  fingerprint := "fingerprint"
  sizeBytes := 4096
  boundaryEvidence := sampleBoundary
  integrity := .incompleteRead
  integrityEvidenceRevision := some 1
  integrityPolicyVersion := "dvd-recovery-evidence-v1"
  badSectorCount := 2
  badAreaCount := 1
  badSectorRanges := [(0, 2)]
  updatedAt := 0

def sampleHeader : DvdArchiveEvidenceHeader where
  originalDiscArchiveId := "archive"
  sourceArchiveJobId := "job"
  boundaryEvidenceDigest := 0
  acceptedEndLbaExclusive := 2
  currentManifestId := "archive:initial"
  currentManifestRevision := 1
  currentManifestDigest := 1
  updatedAt := 0

def sampleRecovery : ArchiveRecovery where
  id := "recovery"
  originalDiscArchiveId := "archive"
  attemptId := "attempt"
  attemptOrdinal := 1
  status := .running
  pauseReason := none
  passHistory := []
  resumeOperationId := none
  resumeCheckpointRevision := none
  resumeCheckpointDigest := none
  stopOperationId := none
  stopRequestedAt := none
  stoppedAt := none
  faultCode := none
  updatedAt := 0

def sampleWork : ArchiveRecoveryWork where
  passNumber := 1
  passDirection := .forward
  passStartedAt := some 0
  passStartedManifestRevision := some 1
  passInitialUnrecoveredSectorCount := some 2
  passRecoveredSectorCount := 0
  passObservationCount := some 0
  passPositiveIntervalCount := some 0
  passMinimumIntervalMs := none
  passMaximumIntervalMs := none
  passLastObservedAt := none
  passCursorLba := none
  archiveRecoveryId := "recovery"
  originalDiscArchiveId := "archive"
  attemptId := "attempt"
  status := .claimed
  verificationId := some "verification"
  discConfirmationId := none
  requestedAt := some 0
  claimedBy := some "worker"
  claimToken := some "token"
  claimedAt := some 0
  updatedAt := 0

def sampleVerification : DvdDiscVerification where
  id := "verification"
  archiveRecoveryId := "recovery"
  archiveRecoveryAttemptId := some "attempt"
  attemptOrdinal := 1
  originalDiscArchiveId := "archive"
  discInspectionId := "inspection"
  detectedDiscId := "disc"
  mediaGeneration := "generation"
  sourceMetadataFingerprint := "fingerprint"
  observedMetadataFingerprint := "fingerprint"
  checkpointRevision := 1
  checkpointDigest := 1
  status := .completed
  outcome := some .match
  workerExecutionId := some "execution"
  claimedAt := some 0
  resultDigest := 0
  startedAt := some 0
  completedAt := some 0
  createdAt := 0

def sampleProtection : DvdRecoveryMutationProtection := ⟨"atomic", 1024, 512, by decide⟩

def sampleCatalog : Catalog where
  archive := sampleArchive
  archiveJobs := [⟨"job", "dvd-recovery-evidence-v1", "archive", "disc", "completed"⟩]
  header := sampleHeader
  manifests := [{ sampleManifest with createdAt := 0 }]
  recoveryReads := []
  recovery := sampleRecovery
  work := some sampleWork
  verifications := [sampleVerification]
  confirmations := []
  inspections := [⟨"inspection", true, "completed", some "disc", "generation"⟩]
  detectedDiscs := [⟨"disc", "fingerprint"⟩]
  reconciliations := []
  sourceManifest := some ⟨sampleArchive.fingerprint, sampleHeader.acceptedEndLbaExclusive⟩
  storage := some ⟨"supported", some sampleProtection⟩
  activeEncodeWork := false
  damagePreviewHolds := false

def sampleClaim : ClaimedArchiveRecoveryWork :=
  ⟨"recovery", "archive", "attempt", some "verification", none, "worker", "token"⟩

/-- The projection of a checkpoint that has recovered the first sector. -/
def sampleProjection : DvdRecoveryCheckpointProjection where
  claim := some sampleClaim
  recoveryRead := {
    originalDiscArchiveId := "archive"
    fromManifestId := "archive:initial"
    fromManifestRevision := 1
    startLba := 0
    sectorCount := 1
    outcome := .recovered
    verificationId := some "verification"
    discConfirmationId := some none
    id := "archive:recovery-read:2"
    evidenceDigest := 0 }
  manifest := { sampleManifest with
    revision := 2
    previousManifestId := some "archive:initial"
    previousManifestDigest := some 1
    recoveryReadId := some "archive:recovery-read:2"
    recoveryReadEvidenceDigest := some 0
    unrecoveredSourceRanges := [⟨1, 1, .skippedUntested⟩]
    manifestDigest := 2
    id := "archive:recovery:2" }

theorem sampleCatalog_aligned : Aligned sampleCatalog :=
  ⟨⟨rfl, rfl⟩, ⟨_, rfl, rfl, rfl, rfl, ⟨rfl, rfl, rfl, rfl, rfl⟩⟩, by decide⟩

theorem sampleProjection_advances :
    ∃ header, ((projectCheckpoint sampleSha256 1 sampleProjection).run sampleCatalog).1 =
        .ok header ∧
      Aligned ((projectCheckpoint sampleSha256 1 sampleProjection).run sampleCatalog).2 ∧
      ((projectCheckpoint sampleSha256 1 sampleProjection).run
        sampleCatalog).2.header.currentManifestRevision = 2 := by
  obtain ⟨header, hok⟩ := exists_ok
    (x := ((projectCheckpoint sampleSha256 1 sampleProjection).run sampleCatalog).1)
    (by decide +kernel)
  have h := projectCheckpoint_aligned sampleSha256 1 sampleProjection sampleCatalog_aligned rfl
  obtain ⟨-, hal, -, hrev, -⟩ := h.2.1 header hok
  exact ⟨header, hok, hal, hrev⟩

end RipDvd
