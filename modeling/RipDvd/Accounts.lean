import RipDvd.Undo
import RipDvd.Alignment

namespace RipDvd
set_option autoImplicit true

/-- A started pass whose counters and the current map add up. -/
structure PassAccounts (pass : ArchiveRecoveryPass) (revision : Nat)
    (ranges : List UnrecoveredSourceRange) : Prop where
  number : 0 < pass.passNumber
  startedAt : ∃ startedAt, pass.passStartedAt = some startedAt
  startedRevision : ∃ started ≤ revision, pass.passStartedManifestRevision = some started
  initial : ∃ initial, 0 < initial ∧ pass.passInitialUnrecoveredSectorCount = some initial ∧
    initial = unrecoveredSectorCount ranges + pass.passRecoveredSectorCount
  observed : ∃ observations intervals, pass.passObservationCount = some observations ∧
    pass.passPositiveIntervalCount = some intervals

/-- An observation of a pass that counts them. -/
theorem PassAccounts.observe {pass : ArchiveRecoveryPass} (h : PassAccounts pass revision ranges)
    {recoveryRead : RecoveryRead} (hr : recoveryRead.fromManifestRevision = revision)
    (timestamp : Nat) :
    ∃ observations intervals least greatest, observePass pass recoveryRead timestamp =
      .ok { pass with
      passObservationCount := some observations
      passPositiveIntervalCount := some intervals
      passMinimumIntervalMs := least
      passMaximumIntervalMs := greatest
      passLastObservedAt := some timestamp } := by
  obtain ⟨startedAt, hst⟩ := h.startedAt
  obtain ⟨started, hle, hrev⟩ := h.startedRevision
  obtain ⟨observations, intervals, hobs, hint⟩ := h.observed
  have hlt : ¬recoveryRead.fromManifestRevision < started := by omega
  simp only [observePass, hst, hrev, hobs, hint, rejectIf, if_neg hlt]
  exact ⟨_, _, _, _, rfl⟩

/-- An observation of a sector the map still lists moves a pass and its map on together. -/
theorem PassAccounts.advance {work : ArchiveRecoveryWork} {recoveryRead : RecoveryRead}
    (h : PassAccounts work.toArchiveRecoveryPass revision ranges)
    (hr : recoveryRead.fromManifestRevision = revision)
    (hn : dvdEvidenceRangesAfterRecoveryRead ranges recoveryRead.startLba recoveryRead.outcome =
      .ok next) (timestamp : Nat) :
    ∃ pass, advancePass work recoveryRead timestamp =
        .ok { work with toArchiveRecoveryPass := pass, updatedAt := timestamp } ∧
      PassAccounts pass (revision + 1) next := by
  obtain ⟨observations, intervals, least, greatest, hobserve⟩ := h.observe hr timestamp
  obtain ⟨initial, hpos, hinit, hsum⟩ := h.initial
  obtain ⟨startedAt, hst⟩ := h.startedAt
  obtain ⟨started, hle, hrev⟩ := h.startedRevision
  rw [unrecoveredSectorCount_afterRecoveryRead hn, Nat.add_right_comm, Nat.add_assoc] at hsum
  refine ⟨_, bind_ok.2 ⟨_, hobserve, bind_ok.2 ⟨(), rejectIf_ok.2 (not_not.2 ?_), rfl⟩⟩, ?_⟩
  · refine ⟨h.number, .inr ⟨?_, initial, hinit, hpos, ?_⟩⟩
    · exact fun he => nomatch hst.symm.trans he
    · exact hsum ▸ Nat.le_add_left _ _
  · exact ⟨h.number, ⟨startedAt, hst⟩, ⟨started, Nat.le_succ_of_le hle, hrev⟩,
      ⟨initial, hpos, hinit, hsum⟩, _, _, rfl, rfl⟩

def manifestId (archiveId : String) (revision : Nat) : String :=
  s!"{archiveId}:recovery:{revision}"

def recoveryReadId (archiveId : String) (revision : Nat) : String :=
  s!"{archiveId}:recovery-read:{revision}"

theorem toString_inj {n m : Nat} (h : toString n = toString m) : n = m := by
  have hd := congrArg (fun s : String => Nat.ofDigitChars 10 s.toList 0) h
  simpa using hd

theorem manifestId_inj (h : manifestId a n = manifestId a m) : n = m :=
  toString_inj ((String.append_right_inj _).1 h)

theorem recoveryReadId_inj (h : recoveryReadId a n = recoveryReadId a m) : n = m :=
  toString_inj ((String.append_right_inj _).1 h)

theorem manifestId_ne_initial (a : String) (n : Nat) : manifestId a n ≠ s!"{a}:initial" := by
  intro h
  have hl := congrArg (fun s => s.toList[1]?) ((String.append_right_inj _).1
    ((String.append_assoc ..).symm.trans h))
  rw [String.toList_append, List.getElem?_append_left (by decide)] at hl
  exact absurd hl (by decide)

/-- The rows of a catalog whose header names the checkpoint `current`. -/
structure Recorded (c : Catalog) (current : EvidenceManifest) : Prop where
  row : ∃ row, c.currentManifest = some row ∧ row.toEvidenceManifest = current
  integrity : c.archive.integrityEvidenceRevision = some current.revision
  manifests : ∀ row ∈ c.manifests, row.revision ≤ current.revision ∧
    (row.id = s!"{c.archive.id}:initial" ∨
      ∃ n ≤ current.revision, row.id = manifestId c.archive.id n) ∧
    ∀ id ∈ row.recoveryReadId, ∃ n ≤ current.revision, id = recoveryReadId c.archive.id n
  reads : ∀ row ∈ c.recoveryReads, ∃ n ≤ current.revision, row.id = recoveryReadId c.archive.id n
  recovery : c.recovery.Valid
  work : ∀ work ∈ c.work, work.status = .claimed → work.archiveRecoveryId = c.recovery.id ∧
    PassAccounts work.toArchiveRecoveryPass current.revision current.unrecoveredSourceRanges

theorem assertMayMutate_ok :
    assertMayMutate o requireBase w = .ok u ↔
      o.recoveryWorkClaim.originalDiscArchiveId = o.originalDiscArchiveId ∧
      ∃ work, requireCurrentArchiveRecoveryClaim w.catalog o.recoveryWorkClaim = .ok work ∧
        writeAuthorityCurrent o work w.catalog requireBase := by
  simp only [assertMayMutate, assertRecoveryWorkClaim, assertRecoveryWriteAuthority, bind_ok,
    rejectIf_ok, withError_ok, ne_eq, not_not]
  exact ⟨fun ⟨_, ⟨_, hid, _⟩, work, hw, ha⟩ => ⟨hid, work, hw, ha⟩,
    fun ⟨hid, work, hw, ha⟩ => ⟨work, ⟨(), hid, hw⟩, work, hw, ha⟩⟩

/-- What a batch records about the sector it read. -/
structure Observes (sha256 : Hashed → Digest) (o : DvdRecoveryBatchOptions)
    (current : CommittedDvdCheckpointEvidence) (recoveryRead : RecoveryRead) : Prop where
  archiveId : recoveryRead.originalDiscArchiveId = o.originalDiscArchiveId
  source : recoveryRead.fromManifestId = current.manifest.id ∧
    recoveryRead.fromManifestRevision = current.manifest.revision
  sector : recoveryRead.startLba = o.observation.startLba ∧ recoveryRead.sectorCount = 1 ∧
    recoveryRead.outcome = o.observation.outcome
  authority : recoveryRead.verificationId = some o.writeAuthority.verificationId ∧
    recoveryRead.discConfirmationId = some o.writeAuthority.discConfirmationId
  id : recoveryRead.id = recoveryReadId o.originalDiscArchiveId (current.manifest.revision + 1)
  digest : assertDvdArchiveRecoveryReadEvidenceDigest sha256
    recoveryRead.toDvdArchiveRecoveryReadEvidenceDigestInput recoveryRead.evidenceDigest = .ok ()

theorem Begun.observes (h : Begun sha256 o w admitted) :
    Observes sha256 o admitted.current admitted.recoveryRead := by
  have hread := h.read
  simp only [recoveryReadFor, bind_ok, pure_ok] at hread
  obtain ⟨evidenceDigest, hd, he⟩ := hread
  rw [← he]
  exact ⟨rfl, ⟨rfl, rfl⟩, ⟨rfl, rfl, rfl⟩, ⟨rfl, rfl⟩, rfl,
    assertDvdArchiveRecoveryReadEvidenceDigest_ok.2 hd⟩

/-- The manifest a batch commits for its observation. -/
def Succeeds (sha256 : Hashed → Digest) (o : DvdRecoveryBatchOptions) (admitted : AdmittedBatch)
    (mutation : BatchMutation) (manifest : CommittedDvdRecoveryEvidence) : Prop :=
  ∃ nextRanges, dvdEvidenceRangesAfterRecoveryRead
      admitted.current.manifest.unrecoveredSourceRanges o.observation.startLba
      o.observation.outcome = .ok nextRanges ∧
    recoveryManifestFor sha256 admitted.current admitted.recoveryRead mutation nextRanges =
      .ok manifest

/-- The fields of a committed manifest. -/
structure SuccessorOf (sha256 : Hashed → Digest) (o : DvdRecoveryBatchOptions)
    (admitted : AdmittedBatch) (mutation : BatchMutation)
    (manifest : CommittedDvdRecoveryEvidence) : Prop where
  archiveId : manifest.originalDiscArchiveId = admitted.current.manifest.originalDiscArchiveId
  revision : manifest.revision = admitted.current.manifest.revision + 1
  id : manifest.id = manifestId admitted.current.manifest.originalDiscArchiveId
    (admitted.current.manifest.revision + 1)
  previous : manifest.previousManifestId = some admitted.current.manifest.id ∧
    manifest.previousManifestDigest = some admitted.current.manifest.manifestDigest ∧
    manifest.previousPublicationDigest = admitted.current.publicationDigest
  read : manifest.recoveryRead = admitted.recoveryRead ∧
    manifest.recoveryReadId = some admitted.recoveryRead.id ∧
    manifest.recoveryReadEvidenceDigest = some admitted.recoveryRead.evidenceDigest
  mutation : manifest.image = mutation.image ∧ manifest.journalDigest = mutation.journalDigest ∧
    manifest.protectedRanges = mutation.protectedRanges
  immutable : ¬changedImmutableEvidence manifest.toEvidenceManifest admitted.current.manifest
  ranges : dvdEvidenceRangesAfterRecoveryRead admitted.current.manifest.unrecoveredSourceRanges
    o.observation.startLba o.observation.outcome = .ok manifest.unrecoveredSourceRanges
  digests : assertDvdArchiveEvidenceManifestDigests sha256 manifest.toEvidenceManifest = .ok ()

theorem Succeeds.fields (h : Succeeds sha256 o admitted mutation manifest) :
    SuccessorOf sha256 o admitted mutation manifest := by
  obtain ⟨nextRanges, hn, hm⟩ := h
  simp only [recoveryManifestFor, bind_ok, pure_ok] at hm
  obtain ⟨digests, hd, rfl⟩ := hm
  exact ⟨rfl, rfl, rfl, ⟨rfl, rfl, rfl⟩, ⟨rfl, rfl, rfl⟩, ⟨rfl, rfl, rfl⟩,
    by simp [changedImmutableEvidence, successorDigestInput], hn,
    assertDvdArchiveEvidenceManifestDigests_ok.2 hd⟩

/-- Every admitted observation has a manifest. -/
theorem Begun.succeeds (h : Begun sha256 o w admitted) (mutation : BatchMutation) :
    ∃ manifest, Succeeds sha256 o admitted mutation manifest := by
  have ha := (Authoritative.of_committed h.committed).1
  have hd := ha.sound.digests
  have hcap := h.capacity
  have hid := (Authoritative.of_committed h.committed).2.2.2
  simp only [projectedIdentity, checkpointIdentity, CheckpointIdentity.mk.injEq] at hid
  have hh := (createDvdArchiveEvidenceManifestDigests_ok.1
    (assertDvdArchiveEvidenceManifestDigests_ok.1 hd)).1
  have hcan := canonical_of_digests hd
  obtain ⟨next, hn⟩ : ∃ next, dvdEvidenceRangesAfterRecoveryRead
      admitted.current.manifest.unrecoveredSourceRanges o.observation.startLba
      o.observation.outcome = .ok next := afterRecoveryRead_ok.2 (mem_sectorLbas.2 h.target)
  obtain ⟨hcan', hwithin⟩ := hcan.afterRecoveryRead hn
  obtain ⟨tuples, ht⟩ := (@canonicalSourceRangesPayload_iff next none).2 ⟨hcan', by simp⟩
  have hextent := hh.extent
  simp only [requireManifestExtent, bind_ok, rejectIf_ok, not_or, not_exists, not_and, ne_eq,
    not_not, Nat.not_lt] at hextent
  obtain ⟨-, hsize, -, hrange, -⟩ := hextent
  have hrev := hh.revision
  have hl : admitted.recoveryRead.id.length ≠ 0 := by
    rw [h.observes.id, recoveryReadId, String.length_append, String.length_append]
    simp
  have hnew : Hashable (successorDigestInput admitted.current admitted.recoveryRead next) := {
    archiveId := hh.archiveId
    revision := by
      simp only [successorDigestInput]
      have : DVD_RECOVERY_MAX_CHECKPOINT_REVISION ≤ maxSafeInteger := by decide
      omega
    fingerprint := hh.fingerprint
    format := hh.format
    sectorSize := hh.sectorSize
    acceptedEnd := hh.acceptedEnd
    policy := hh.policy
    reported := hh.reported
    published := hh.published
    extent := by
      simp only [requireManifestExtent, bind_ok, rejectIf_ok, not_or, not_exists, not_and, ne_eq,
        not_not, Nat.not_lt]
      refine ⟨(), hsize, (), fun range hm => (hwithin _ (fun r hr => ?_) range hm).2,
        fun range _ hone => ?_⟩
      · exact ⟨(hcan.within r hr).1, hrange r hr⟩
      · simp only [successorDigestInput] at hone
        omega
    predecessor := by
      rw [requireManifestPredecessor, if_neg (by simp only [successorDigestInput]; omega)]
      simp only [successorDigestInput, bind_ok, requireNonEmptyString_ok, Option.getD_some]
      exact ⟨(), if_neg (by simp), (), ha.sound.id_length.1, hl⟩ }
  refine ⟨_, next, hn, bind_ok.2 ⟨_, createDvdArchiveEvidenceManifestDigests_ok.2
    ⟨hnew, _, createDvdUnrecoveredSourceRangesDigest_ok.2 ⟨tuples, ht, rfl⟩, rfl⟩, rfl⟩⟩

/-- A claim that repeats what its work row is bound to. -/
def BoundTo (held : ClaimedArchiveRecoveryWork) (c : Catalog) : Prop :=
  ∀ work ∈ c.work, held.verificationId = work.verificationId ∧
    held.discConfirmationId = work.discConfirmationId

/-- The claims a committed checkpoint is projected under: the batch's own, or none. -/
def ProjectsUnder (o : DvdRecoveryBatchOptions) (c : Catalog)
    (claim : Option ClaimedArchiveRecoveryWork) : Prop :=
  ∀ held ∈ claim, held = o.recoveryWorkClaim ∧ BoundTo held c

section Projection

variable {sha256 : Hashed → Digest} {o : DvdRecoveryBatchOptions} {w : World}
  {admitted : AdmittedBatch} {mutation : BatchMutation} {manifest : CommittedDvdRecoveryEvidence}
  {claim : Option ClaimedArchiveRecoveryWork}

/-- What the projection of a batch's checkpoint is given. -/
def AdmittedBatch.projection (admitted : AdmittedBatch) (manifest : CommittedDvdRecoveryEvidence)
    (claim : Option ClaimedArchiveRecoveryWork) : DvdRecoveryCheckpointProjection where
  claim
  recoveryRead := admitted.recoveryRead
  manifest := manifest.toEvidenceManifest

theorem Begun.header (h : Begun sha256 o w admitted) :
    w.catalog.header.currentManifestRevision = admitted.current.manifest.revision ∧
      w.catalog.header.currentManifestId = admitted.current.manifest.id ∧
      w.catalog.header.currentManifestDigest = admitted.current.manifest.manifestDigest := by
  have hid := (Authoritative.of_committed h.committed).2.2.2
  simpa only [projectedIdentity, checkpointIdentity, CheckpointIdentity.mk.injEq] using hid

theorem Begun.currentArchiveId (h : Begun sha256 o w admitted) :
    admitted.current.manifest.originalDiscArchiveId = o.originalDiscArchiveId :=
  (Authoritative.of_committed h.committed).1.sound.archiveId.trans h.archiveId

theorem Begun.matches (h : Begun sha256 o w admitted)
    (hs : SuccessorOf sha256 o admitted mutation manifest)
    (hc : ProjectsUnder o w.catalog claim) :
    requireMatchingRecoveryRead sha256 (admitted.projection manifest claim) = .ok () := by
  have ho := h.observes
  obtain ⟨hclaim, work, hw, hauth⟩ := assertMayMutate_ok.1 h.mayMutate
  refine (requireMatchingRecoveryRead_ok sha256).2 ⟨⟨ho.digest, hs.digests⟩,
    hs.archiveId.trans (h.currentArchiveId.trans ho.archiveId.symm), fun held hm => ?_,
    hs.revision.trans (congrArg (· + 1) ho.source.2.symm),
    hs.previous.1.trans (congrArg some ho.source.1.symm), hs.read.2.1, hs.read.2.2,
    fun held hm => ?_⟩
  · rw [(hc held hm).1, hclaim]
    exact (hs.archiveId.trans h.currentArchiveId).symm
  · obtain ⟨rfl, hbound⟩ := hc held hm
    obtain ⟨hwork, -⟩ := requireCurrentArchiveRecoveryClaim_ok.1 hw
    obtain ⟨hv, hd⟩ := hbound work hwork
    obtain ⟨-, -, -, -, -, verification, hfind, -, -, hwv, hsame, ⟨disc, -, hsrc⟩, -⟩ := hauth
    have hvid : o.recoveryWorkClaim.verificationId = some o.writeAuthority.verificationId := by
      rw [hv, hwv, hsame.1]
    have hdid : o.recoveryWorkClaim.discConfirmationId = o.writeAuthority.discConfirmationId := by
      rw [hd]
      rw [sourceAuthorized] at hsrc
      cases hcid : o.writeAuthority.discConfirmationId with
      | none => simp only [hcid] at hsrc; exact hsrc.2.1
      | some id =>
        simp only [hcid] at hsrc
        obtain ⟨confirmation, -, -, hw, -⟩ := hsrc
        exact hw
    rw [hvid, hdid]
    exact ⟨Option.some_ne_none _, ho.authority.1, congrArg Option.join ho.authority.2⟩

theorem dvdConfirmed_matches {verification : DvdDiscVerification}
    (h : dvdConfirmedRecoveryWriteAuthority verification confirmation = some authority) :
    confirmation.expiredAt = none ∧
      dvdDiscConfirmationMatchesVerification verification confirmation = true := by
  rw [dvdConfirmedRecoveryWriteAuthority] at h
  split at h
  · split at h
    · cases h
    · next hn =>
      simp only [Bool.or_eq_true, decide_eq_true_eq, Bool.not_eq_true', not_or, ne_eq, not_not,
        Bool.not_eq_false] at hn
      exact hn
  · cases h

theorem Begun.authorized (h : Begun sha256 o w admitted)
    (hs : SuccessorOf sha256 o admitted mutation manifest) :
    requireReadAuthorization (admitted.projection manifest claim) w.catalog = .ok () := by
  have ho := h.observes
  obtain ⟨-, work, -, haid, -, -, -, -, verification, hfind, -, hcomp, -, hsame,
    ⟨disc, -, hsrc⟩, -⟩ :=
    assertMayMutate_ok.1 h.mayMutate
  have harch : verification.originalDiscArchiveId = manifest.originalDiscArchiveId := by
    rw [hsame.2.2.2.1, haid, hs.archiveId, h.currentArchiveId]
  simp only [requireReadAuthorization, AdmittedBatch.projection, ho.authority.1, ho.authority.2,
    Option.join_some, show w.catalog.findVerification _ = some verification from hfind,
    rejectIf_ok]
  rw [sourceAuthorized] at hsrc
  cases hcid : o.writeAuthority.discConfirmationId with
  | none =>
    simp only [hcid] at hsrc
    simp [harch, hcomp, hsrc.1, readSourceAuthorized]
  | some id =>
    simp only [hcid] at hsrc
    obtain ⟨confirmation, hconf, ⟨confirmed, hca, -⟩, -⟩ := hsrc
    obtain ⟨hexp, hm⟩ := dvdConfirmed_matches hca
    simp [harch, readSourceAuthorized, hexp, hm,
      show w.catalog.findConfirmation id = some confirmation from hconf]

theorem Begun.successor (h : Begun sha256 o w admitted)
    (claim : Option ClaimedArchiveRecoveryWork)
    (hr : Recorded w.catalog admitted.current.manifest)
    (hs : SuccessorOf sha256 o admitted mutation manifest)
    {row : DvdArchiveEvidenceManifestRow}
    (he : row.toEvidenceManifest = admitted.current.manifest) :
    ∃ sourceRange, requireProjectionSuccessor (admitted.projection manifest claim) w.catalog row =
      .ok sourceRange := by
  have ho := h.observes
  obtain ⟨hrev, hid, hdig⟩ := h.header
  have hmem : o.observation.startLba ∈ sectorLbas row.unrecoveredSourceRanges := by
    rw [he]
    exact mem_sectorLbas.2 h.target
  obtain ⟨range, hrange, hcon⟩ := mem_sectorLbas.1 hmem
  have hsome : (row.unrecoveredSourceRanges.find? (·.contains o.observation.startLba)).isSome :=
    List.find?_isSome.2 ⟨range, hrange, hcon⟩
  obtain ⟨sourceRange, hfind⟩ := Option.isSome_iff_exists.1 hsome
  refine ⟨sourceRange, requireProjectionSuccessor_ok.2 ⟨projectionStaleReasons_nil.2
    ⟨hid.trans ho.source.1.symm, hrev.trans ho.source.2.symm, ?_, ?_, ?_, .inl ?_, ?_⟩, ?_, ?_, ?_⟩⟩
  · rw [hdig]
    exact hs.previous.2.1.symm
  · rw [hdig, he]
  · rw [he]
    exact hs.archiveId.symm
  · have := h.status
    simp only [List.mem_cons, List.not_mem_nil, or_false] at this ⊢
    rcases this with hst | hst <;> simp [hst]
  · rw [hrev]
    exact hr.integrity
  · rw [he]
    exact hs.immutable
  · rw [he]
    simpa only [AdmittedBatch.projection, ho.sector.1, ho.sector.2.2] using hs.ranges
  · simpa only [AdmittedBatch.projection, ho.sector.1] using hfind

/-- The claimed row that the projection of a batch's checkpoint moves on. -/
theorem Begun.projectionWork (h : Begun sha256 o w admitted)
    (manifest : CommittedDvdRecoveryEvidence) (hr : Recorded w.catalog admitted.current.manifest)
    (hc : ProjectsUnder o w.catalog claim) :
    ∃ work, w.catalog.work = some work ∧ work.status = .claimed ∧
      work.attemptId = w.catalog.recovery.attemptId ∧
      projectionWork (admitted.projection manifest claim) w.catalog = some work := by
  obtain ⟨-, work, hw, -⟩ := assertMayMutate_ok.1 h.mayMutate
  obtain ⟨hwork, -, -, hst, htok, -, hatt, hatt'⟩ := requireCurrentArchiveRecoveryClaim_ok.1 hw
  have hatt := hatt.trans hatt'.symm
  refine ⟨work, hwork, hst, hatt, ?_⟩
  rw [RipDvd.projectionWork, hwork, Option.filter_some, if_pos]
  simp only [decide_eq_true_eq]
  exact ⟨(hr.work work hwork hst).1, hatt, hst, fun held hm => (hc held hm).1 ▸ htok⟩

theorem Begun.projectWork (h : Begun sha256 o w admitted)
    (hr : Recorded w.catalog admitted.current.manifest)
    (hs : SuccessorOf sha256 o admitted mutation manifest)
    (hc : ProjectsUnder o w.catalog claim) (timestamp : Nat) :
    ∃ work pass, w.catalog.work = some work ∧
      projectWork (admitted.projection manifest claim) w.catalog timestamp =
        .ok (some { work with toArchiveRecoveryPass := pass, updatedAt := timestamp }) ∧
      PassAccounts pass manifest.revision manifest.unrecoveredSourceRanges := by
  have ho := h.observes
  obtain ⟨work, hwork, hst, -, hpw⟩ := h.projectionWork manifest hr hc
  obtain ⟨pass, hadv, hacc⟩ := (hr.work work hwork hst).2.advance ho.source.2
    (by rw [ho.sector.1, ho.sector.2.2]; exact hs.ranges) timestamp
  refine ⟨work, pass, hwork, ?_, hs.revision ▸ hacc⟩
  rw [RipDvd.projectWork, hpw]
  simp only [AdmittedBatch.projection, hadv, Except.map]

theorem Begun.projectedStatus (h : Begun sha256 o w admitted)
    (hr : Recorded w.catalog admitted.current.manifest) (hc : ProjectsUnder o w.catalog claim) :
    projectedRecoveryStatus (admitted.projection manifest claim) w.catalog =
      w.catalog.recovery.status := by
  obtain ⟨work, -, -, -, hpw⟩ := h.projectionWork manifest hr hc
  have hst := h.status
  simp only [List.mem_cons, List.not_mem_nil, or_false] at hst
  rw [projectedRecoveryStatus, hpw]
  rcases hst with hst | hst <;> simp [hst]

theorem Recorded.fresh {c : Catalog} {current : EvidenceManifest} (hr : Recorded c current) :
    (∀ row ∈ c.recoveryReads, row.id ≠ recoveryReadId c.archive.id (current.revision + 1)) ∧
    ∀ row ∈ c.manifests, row.revision ≠ current.revision + 1 ∧
      row.id ≠ manifestId c.archive.id (current.revision + 1) ∧
      row.recoveryReadId ≠ some (recoveryReadId c.archive.id (current.revision + 1)) := by
  refine ⟨fun row hm he => ?_, fun row hm => ⟨fun he => ?_, fun he => ?_, fun he => ?_⟩⟩
  · obtain ⟨n, hn, hid⟩ := hr.reads row hm
    have := recoveryReadId_inj (hid.symm.trans he)
    omega
  · have := (hr.manifests row hm).1
    omega
  · rcases (hr.manifests row hm).2.1 with hid | ⟨n, hn, hid⟩
    · exact manifestId_ne_initial _ _ (he.symm.trans hid)
    · have := manifestId_inj (hid.symm.trans he)
      omega
  · obtain ⟨n, hn, hid⟩ := (hr.manifests row hm).2.2 _ he
    have := recoveryReadId_inj hid
    omega

theorem ArchiveRecovery.Valid.touch {recovery : ArchiveRecovery} (h : recovery.Valid)
    (updatedAt : Nat) : ArchiveRecovery.Valid { recovery with updatedAt } :=
  ⟨h.attempt, h.pause, h.history, h.stopping, h.stopped, h.faulted, h.active, h.fault⟩

theorem Begun.install (h : Begun sha256 o w admitted)
    (hr : Recorded w.catalog admitted.current.manifest)
    (hs : SuccessorOf sha256 o admitted mutation manifest)
    (hf : ∀ row ∈ w.catalog.manifests, row.manifestDigest ≠ manifest.manifestDigest)
    (hc : ProjectsUnder o w.catalog claim) (now : Nat) (sourceRange : UnrecoveredSourceRange) :
    ∃ c', installProjection now (admitted.projection manifest claim) sourceRange w.catalog =
      .ok c' := by
  have ho := h.observes
  obtain ⟨hrev, hid, hdig⟩ := h.header
  obtain ⟨hfr, hfm⟩ := hr.fresh
  obtain ⟨row, hrow, he⟩ := hr.row
  have harch := h.isOf.1
  have hcur := h.currentArchiveId
  have hst := h.status
  simp only [List.mem_cons, List.not_mem_nil, or_false] at hst
  have hreadId : admitted.recoveryRead.id = recoveryReadId w.catalog.archive.id
      (admitted.current.manifest.revision + 1) := by rw [ho.id, harch]
  have hmanifestId : manifest.id = manifestId w.catalog.archive.id
      (admitted.current.manifest.revision + 1) := by rw [hs.id, hcur, harch]
  obtain ⟨work, hwork, hclaimed, hattempt, -⟩ := h.projectionWork manifest hr hc
  obtain ⟨_, pass, -, hproj, -⟩ := h.projectWork hr hs hc
    (max now (max (w.catalog.header.updatedAt + 1)
      (max (w.catalog.archive.updatedAt + 1) (w.catalog.recovery.updatedAt + 1))))
  have htime : w.catalog.header.updatedAt ≤ max now (max (w.catalog.header.updatedAt + 1)
        (max (w.catalog.archive.updatedAt + 1) (w.catalog.recovery.updatedAt + 1))) ∧
      w.catalog.recovery.updatedAt ≤ max now (max (w.catalog.header.updatedAt + 1)
        (max (w.catalog.archive.updatedAt + 1) (w.catalog.recovery.updatedAt + 1))) := by omega
  simp only [installProjection, bind_ok, pure_ok]
  refine ⟨_, _, insertRecoveryRead_ok.2 ⟨?_, ⟨?_, ?_, ?_, row, hrow, ?_⟩, rfl⟩, _,
    insertEvidenceManifest_ok.2 ⟨?_, ?_, ?_, rfl⟩, _,
    updateEvidenceHeader_ok.2 ⟨?_, ?_, ⟨_, List.mem_append_right _ (List.mem_singleton_self _),
      rfl, ?_, rfl, ?_, rfl⟩, rfl⟩, _, updateArchiveRecovery_ok.2 ⟨rfl, rfl, ?_, ?_, ?_, rfl⟩, _,
    hproj, rfl⟩
  · exact fun other hm he => hfr other hm (he.trans hreadId)
  · exact h.isOf.2.1.trans ho.archiveId.symm
  · exact hid.trans ho.source.1.symm
  · exact hrev.trans ho.source.2.symm
  · obtain ⟨range, hrange, hcon⟩ := h.target
    exact ⟨range, he ▸ hrange, (congrArg range.contains ho.sector.1).trans hcon⟩
  · exact fun other hm he => (hfm other hm).2.1 (he.trans hmanifestId)
  · exact fun other hm _ => ⟨fun he => (hfm other hm).1 (he.trans hs.revision), hf other hm⟩
  · exact fun other hm he => (hfm other hm).2.2
      (he.trans (hs.read.2.1.trans (congrArg some hreadId)))
  · exact htime.1
  · exact hs.revision.trans (congrArg (· + 1) hrev.symm)
  · exact hs.archiveId.trans (hcur.trans h.isOf.2.1.symm)
  · exact hs.previous.1.trans (congrArg some hid.symm)
  · exact htime.2
  · simp only [archiveRecoveryStatusMatches, h.projectedStatus hr hc, List.mem_cons,
      List.not_mem_nil, or_false]
    rcases hst with hst | hst
    · exact .inr (.inl ⟨hst, work, hwork, (hr.work work hwork hclaimed).1, hattempt, hclaimed⟩)
    · exact .inl (.inr (.inl hst))
  · rw [h.projectedStatus hr hc]
    exact hr.recovery.touch _

/-- A batch's checkpoint can be projected, by the batch and by a reconciliation. -/
theorem Begun.projects (h : Begun sha256 o w admitted)
    (hr : Recorded w.catalog admitted.current.manifest)
    (hs : SuccessorOf sha256 o admitted mutation manifest)
    (hf : ∀ row ∈ w.catalog.manifests, row.manifestDigest ≠ manifest.manifestDigest)
    (hc : ProjectsUnder o w.catalog claim) (now : Nat) :
    ∃ c', projectDvdRecoveryCheckpoint sha256 now (admitted.projection manifest claim) w.catalog =
      .ok (c'.header, c') := by
  obtain ⟨row, hrow, he⟩ := hr.row
  obtain ⟨hrev, -⟩ := h.header
  obtain ⟨-, work, hw, -⟩ := assertMayMutate_ok.1 h.mayMutate
  obtain ⟨sourceRange, hsucc⟩ := h.successor claim hr hs he
  obtain ⟨c', hinst⟩ := h.install hr hs hf hc now sourceRange
  have harch := hs.archiveId.trans h.currentArchiveId
  have hnew : ¬(w.catalog.header.currentManifestRevision =
        (admitted.projection manifest claim).manifest.revision ∧
      w.catalog.header.currentManifestId = (admitted.projection manifest claim).manifest.id ∧
      w.catalog.header.currentManifestDigest =
        (admitted.projection manifest claim).manifest.manifestDigest) := by
    rintro ⟨hsame, -⟩
    have := hsame.symm.trans hrev
    have := hs.revision.symm.trans this
    omega
  refine ⟨c', ?_⟩
  simp only [projectDvdRecoveryCheckpoint, bind_ok]
  refine ⟨(), h.matches hs hc, (), requireProjectionClaim_ok.2 fun held hm => ⟨work, ?_⟩, (),
    h.authorized hs, row, requireCurrentManifest_ok.2 ⟨hrow, h.isOf.2.1.trans harch.symm,
      h.isOf.1.trans harch.symm, h.isOf.2.2.trans harch.symm⟩, ?_⟩
  · rw [(hc held hm).1]
    exact hw
  · rw [if_neg hnew]
    simp only [bind_ok, pure_ok]
    exact ⟨sourceRange, hsucc, c', hinst, rfl⟩

/-- The rows after a projection are those of the checkpoint it projected. -/
theorem Begun.recorded (h : Begun sha256 o w admitted)
    (hr : Recorded w.catalog admitted.current.manifest)
    (hs : SuccessorOf sha256 o admitted mutation manifest) (hc : ProjectsUnder o w.catalog claim)
    (ha : Advances (admitted.projection manifest claim) w.catalog c') :
    Recorded c' manifest.toEvidenceManifest := by
  obtain ⟨timestamp, classification, meaningful, work, hwork, rfl, -⟩ := ha.written
  obtain ⟨before, pass, hbefore, hproj, hacc⟩ := h.projectWork hr hs hc timestamp
  obtain rfl := Except.ok.inj (hproj.symm.trans hwork)
  have hle : admitted.current.manifest.revision ≤ manifest.revision := by
    rw [hs.revision]
    omega
  refine {
    row := ⟨_, projectedCatalog_current ha.fresh.2 timestamp classification meaningful, rfl⟩
    integrity := rfl
    manifests := fun row hm => ?_
    reads := fun row hm => ?_
    recovery := ?_
    work := fun work hm hst => ?_ }
  · rcases List.mem_append.1 hm with hm | hm
    · obtain ⟨hrev, hid, hread⟩ := hr.manifests row hm
      refine ⟨hrev.trans hle, hid.imp_right ?_, fun id hid => ?_⟩
      · rintro ⟨n, hn, he⟩
        exact ⟨n, hn.trans hle, he⟩
      · obtain ⟨n, hn, he⟩ := hread id hid
        exact ⟨n, hn.trans hle, he⟩
    · obtain rfl := List.mem_singleton.1 hm
      refine ⟨Nat.le_refl _, .inr ⟨manifest.revision, Nat.le_refl _, ?_⟩, fun id hid => ?_⟩
      · rw [hs.revision]
        exact hs.id.trans (by rw [h.currentArchiveId, ← h.isOf.1]; rfl)
      · refine ⟨manifest.revision, Nat.le_refl _, ?_⟩
        rw [show id = _ from Option.some.inj (hid.symm.trans hs.read.2.1), h.observes.id,
          hs.revision,
          ← h.isOf.1]
        rfl
  · rcases List.mem_append.1 hm with hm | hm
    · obtain ⟨n, hn, he⟩ := hr.reads row hm
      exact ⟨n, hn.trans hle, he⟩
    · obtain rfl := List.mem_singleton.1 hm
      refine ⟨manifest.revision, Nat.le_refl _, ?_⟩
      rw [hs.revision]
      exact h.observes.id.trans (by rw [← h.isOf.1]; rfl)
  · simp only [projectedCatalog, h.projectedStatus hr hc]
    exact hr.recovery.touch _
  · obtain rfl := Option.some.inj hm
    exact ⟨(hr.work before hbefore hst).1, hacc⟩

end Projection

end RipDvd
