import RipDvd.Accounts

namespace RipDvd
set_option autoImplicit true

/-- What no projection changes of the rows a checkpoint is read against. -/
structure SameRoot (c c' : Catalog) : Prop where
  archive : c'.archive.id = c.archive.id ∧ c'.archive.discKind = c.archive.discKind ∧
    c'.archive.detectedDiscId = c.archive.detectedDiscId ∧
    c'.archive.fingerprint = c.archive.fingerprint ∧ c'.archive.sizeBytes = c.archive.sizeBytes ∧
    c'.archive.boundaryEvidence = c.archive.boundaryEvidence
  archiveJobs : c'.archiveJobs = c.archiveJobs
  header : c'.header.originalDiscArchiveId = c.header.originalDiscArchiveId ∧
    c'.header.sourceArchiveJobId = c.header.sourceArchiveJobId ∧
    c'.header.boundaryEvidenceDigest = c.header.boundaryEvidenceDigest ∧
    c'.header.acceptedEndLbaExclusive = c.header.acceptedEndLbaExclusive
  recovery : c'.recovery.originalDiscArchiveId = c.recovery.originalDiscArchiveId

/-- The rows a checkpoint speaks about are the same; the work and its status may differ. -/
structure SameEvidence (c c' : Catalog) : Prop where
  archive : c'.archive = c.archive
  archiveJobs : c'.archiveJobs = c.archiveJobs
  header : c'.header = c.header
  manifests : c'.manifests = c.manifests
  recoveryReads : c'.recoveryReads = c.recoveryReads
  recovery : c'.recovery.id = c.recovery.id ∧
    c'.recovery.originalDiscArchiveId = c.recovery.originalDiscArchiveId

theorem SameEvidence.refl (c : Catalog) : SameEvidence c c :=
  ⟨rfl, rfl, rfl, rfl, rfl, rfl, rfl⟩

theorem SameEvidence.trans (h : SameEvidence a b) (h' : SameEvidence b c) : SameEvidence a c :=
  ⟨h'.archive.trans h.archive, h'.archiveJobs.trans h.archiveJobs, h'.header.trans h.header,
    h'.manifests.trans h.manifests, h'.recoveryReads.trans h.recoveryReads,
    h'.recovery.1.trans h.recovery.1, h'.recovery.2.trans h.recovery.2⟩

theorem SameEvidence.root (h : SameEvidence c c') : SameRoot c c' := by
  refine ⟨?_, h.archiveJobs, ?_, h.recovery.2⟩
  · simp [h.archive]
  · simp [h.header]

theorem SameRoot.trans (h : SameRoot a b) (h' : SameRoot b c) : SameRoot a c := by
  obtain ⟨⟨a1, a2, a3, a4, a5, a6⟩, j, ⟨h1, h2, h3, h4⟩, r⟩ := h
  obtain ⟨⟨b1, b2, b3, b4, b5, b6⟩, k, ⟨g1, g2, g3, g4⟩, s⟩ := h'
  exact ⟨⟨b1.trans a1, b2.trans a2, b3.trans a3, b4.trans a4, b5.trans a5, b6.trans a6⟩, k.trans j,
    ⟨g1.trans h1, g2.trans h2, g3.trans h3, g4.trans h4⟩, s.trans r⟩

theorem SameRoot.isOf (h : SameRoot c c') : c'.isOf archiveId ↔ c.isOf archiveId := by
  rw [Catalog.isOf, Catalog.isOf, h.archive.1, h.header.1, h.recovery]

theorem Advances.root (h : Advances input c c') : SameRoot c c' := by
  obtain ⟨_, _, _, _, -, rfl, -⟩ := h.written
  exact ⟨⟨rfl, rfl, rfl, rfl, rfl, rfl⟩, rfl, ⟨rfl, rfl, rfl, rfl⟩, rfl⟩

/-- Pointer and header name one checkpoint, the image is the one it vouches for, and there is
neither a journal nor a later manifest. -/
structure Consistent (sha256 : Hashed → Digest) (w : World)
    (current : CommittedDvdCheckpointEvidence) : Prop where
  isOf : w.catalog.isOf w.catalog.archive.id
  committed : readCommittedDvdCheckpoint sha256 w.disk w.catalog = .ok current
  latest : ∀ revision, current.manifest.revision < revision → w.disk.manifests revision = none

/-- Everything is as it was before the batch, byte for byte; temporaries aside. -/
structure AtBase (w₀ w : World) : Prop where
  image : w.disk.image = w₀.disk.image
  journal : w.disk.journal = none
  manifests : w.disk.manifests = w₀.disk.manifests
  pointer : w.disk.pointer = w₀.disk.pointer
  initialManifest : w.disk.initialManifest = w₀.disk.initialManifest
  catalog : SameEvidence w₀.catalog w.catalog

/-- What a recovered batch has done to an image it left in this version. -/
def recoveredMutation (sha256 : Hashed → Digest) (o : DvdRecoveryBatchOptions)
    (admitted : AdmittedBatch) (units : ProtectedUnits) (image : ImageVersion) : BatchMutation where
  image
  journalDigest := some (undoJournal sha256 o admitted units).metadata.journalDigest
  protectedRanges := units.ranges sha256

/-- The manifest a recovered batch installs; its image version depends on the clock. -/
def Installs (sha256 : Hashed → Digest) (o : DvdRecoveryBatchOptions) (admitted : AdmittedBatch)
    (units : ProtectedUnits) (manifest : CommittedDvdRecoveryEvidence) : Prop :=
  ∃ image, Succeeds sha256 o admitted (recoveredMutation sha256 o admitted units image) manifest

/-- The projection of a batch's checkpoint, whoever made it. -/
def Projects (o : DvdRecoveryBatchOptions) (admitted : AdmittedBatch)
    (manifest : CommittedDvdRecoveryEvidence) (c c' : Catalog) : Prop :=
  ∃ claim, ProjectsUnder o c claim ∧ Advances (admitted.projection manifest claim) c c'

/-- The files of a batch whose pointer is in place. -/
structure Published (units : ProtectedUnits) (manifest : CommittedDvdRecoveryEvidence)
    (w₀ w : World) : Prop where
  bytes : w.disk.image.bytes = UnitsOf.written w₀.disk.image.bytes units
  version : w.disk.image.version = manifest.image
  manifests : w.disk.manifests = (w₀.disk.setManifest manifest.revision (some manifest)).manifests
  pointer : w.disk.pointer = pointerTo (.recovery manifest)
  initialManifest : w.disk.initialManifest = w₀.disk.initialManifest

/-- The batch is committed: files and rows are those of its checkpoint. -/
structure AtNext (o : DvdRecoveryBatchOptions) (admitted : AdmittedBatch) (units : ProtectedUnits)
    (manifest : CommittedDvdRecoveryEvidence) (w₀ w : World) : Prop where
  published : Published units manifest w₀ w
  journal : w.disk.journal = none
  catalog : ∃ c, Projects o admitted manifest w₀.catalog c ∧ SameEvidence c w.catalog

/-- The journal is complete and the pointer still names the base: any of the units may have been
written, and the next manifest may be there. -/
structure Journaled (sha256 : Hashed → Digest)
    (metadataLength : DvdRecoveryJournalMetadata → Nat) (o : DvdRecoveryBatchOptions)
    (admitted : AdmittedBatch) (units : ProtectedUnits)
    (next : Option CommittedDvdRecoveryEvidence) (w₀ w : World) : Prop where
  fits : fitsJournalHeader metadataLength (undoJournal sha256 o admitted units).metadata
  journal : w.disk.journal = some (undoFile sha256 o admitted units)
  torn : Torn units.unitBytes w₀.disk.image.bytes (UnitsOf.written w₀.disk.image.bytes units)
    w.disk.image.bytes
  identity : w.disk.image.filesystemIdentity = w₀.disk.image.filesystemIdentity
  uncommitted : ∀ manifest ∈ next, Installs sha256 o admitted units manifest
  manifests : w.disk.manifests =
    (w₀.disk.setManifest (admitted.current.manifest.revision + 1) next).manifests
  pointer : w.disk.pointer = w₀.disk.pointer
  initialManifest : w.disk.initialManifest = w₀.disk.initialManifest
  catalog : w.catalog = w₀.catalog

/-- Every state a crash can leave once the journal is complete. `w₀` is the state the batch was
admitted in. -/
inductive Interrupted (sha256 : Hashed → Digest)
    (metadataLength : DvdRecoveryJournalMetadata → Nat) (o : DvdRecoveryBatchOptions)
    (admitted : AdmittedBatch) (units : ProtectedUnits) (w₀ : World) : World → Prop where
  | base (h : AtBase w₀ w) : Interrupted sha256 metadataLength o admitted units w₀ w
  | journaled (h : Journaled sha256 metadataLength o admitted units next w₀ w) :
    Interrupted sha256 metadataLength o admitted units w₀ w
  | published
    (fits : fitsJournalHeader metadataLength (undoJournal sha256 o admitted units).metadata)
    (journal : w.disk.journal = some (undoFile sha256 o admitted units))
    (installs : Installs sha256 o admitted units manifest)
    (published : Published units manifest w₀ w)
    (catalog : w.catalog = w₀.catalog ∨ Projects o admitted manifest w₀.catalog w.catalog) :
    Interrupted sha256 metadataLength o admitted units w₀ w
  | next (installs : Installs sha256 o admitted units manifest)
    (h : AtNext o admitted units manifest w₀ w) :
    Interrupted sha256 metadataLength o admitted units w₀ w

variable {sha256 : Hashed → Digest} {metadataLength : DvdRecoveryJournalMetadata → Nat}

theorem readCurrentEvidence_congr (hi : d'.initialManifest = d.initialManifest)
    (hp : d'.pointer = d.pointer)
    (hm : ∀ r ≤ d.pointer.currentManifestRevision, d'.manifests r = d.manifests r) :
    readCurrentEvidence sha256 d' = readCurrentEvidence sha256 d := by
  simp only [readCurrentEvidence, readPreviousEvidence, readRecoveryManifest, hi, hp,
    hm _ (Nat.le_refl _), hm _ (Nat.sub_le _ 1)]

theorem SameRoot.assertInitialManifest (h : SameRoot c c')
    (manifest : CommittedDvdInitialEvidence) :
    assertInitialManifest sha256 manifest c'.archive c'.archiveJobs =
      assertInitialManifest sha256 manifest c.archive c.archiveJobs := by
  obtain ⟨⟨a1, a2, a3, a4, a5, a6⟩, j, -, -⟩ := h
  simp only [RipDvd.assertInitialManifest, a1, a2, a3, a4, a5, a6, j]

theorem SameRoot.assertCheckpointPointer (h : SameRoot c c') (pointer : DvdCheckpointPointer)
    (initial : CommittedDvdInitialEvidence) :
    assertCheckpointPointer pointer initial c'.archive =
      assertCheckpointPointer pointer initial c.archive := by
  simp only [RipDvd.assertCheckpointPointer, h.archive.1]

theorem Consistent.journal (h : Consistent sha256 w current) : w.disk.journal = none :=
  (Authoritative.of_committed h.committed).2.1

theorem Begun.current_eq (h : Begun sha256 o w admitted) (hc : Consistent sha256 w current) :
    admitted.current = current :=
  Except.ok.inj (h.committed.symm.trans hc.committed)

/-- The records read the same as long as nothing up to the pointer has changed. -/
theorem read_congr (hi : d'.initialManifest = d.initialManifest) (hp : d'.pointer = d.pointer)
    (hm : ∀ r ≤ d.pointer.currentManifestRevision, d'.manifests r = d.manifests r)
    (hc : SameEvidence c c') :
    readDvdCheckpointForReconciliation sha256 d' c' =
      readDvdCheckpointForReconciliation sha256 d c := by
  simp only [readDvdCheckpointForReconciliation, readCurrentEvidence_congr hi hp hm, hi, hp,
    hc.archive, hc.archiveJobs, hc.header]

/-- At the base a reader finds what it found before. -/
theorem AtBase.read (hc : Consistent sha256 w₀ current) (hb : AtBase w₀ w) :
    ∃ previous, readDvdCheckpointForReconciliation sha256 w.disk w.catalog =
      .ok ⟨current, previous⟩ := by
  obtain ⟨-, ⟨previous, hr⟩, -⟩ := readCommittedDvdCheckpoint_ok.1 hc.committed
  refine ⟨previous, (read_congr hb.initialManifest hb.pointer (fun r _ => ?_) hb.catalog).trans hr⟩
  rw [hb.manifests]

section Successor

variable {o : DvdRecoveryBatchOptions} {admitted : AdmittedBatch} {units : ProtectedUnits}
  {manifest : CommittedDvdRecoveryEvidence} {w₀ w : World}

theorem Recovering.authoritative (h : Recovering sha256 o w₀ admitted units) :
    Authoritative sha256 w₀.disk w₀.catalog admitted.current :=
  (Authoritative.of_committed h.begun.committed).1

theorem Recovering.performs (h : Recovering sha256 o w₀ admitted units) (image : ImageVersion) :
    Performs sha256 admitted.current o.observation
      (recoveredMutation sha256 o admitted units image) :=
  .recovered h.outcome h.unitsOf.1 h.unitsOf.2.2.2.2 (Option.some_ne_none _) rfl

theorem Recovering.capacity (h : Recovering sha256 o w₀ admitted units) :
    admitted.current.manifest.revision < DVD_RECOVERY_MAX_CHECKPOINT_REVISION :=
  h.begun.header.1 ▸ h.begun.capacity

theorem Recovering.record (h : Recovering sha256 o w₀ admitted units)
    (hi : Installs sha256 o admitted units manifest) :
    assertRecoveryManifestRecord sha256 manifest w₀.disk.initialManifest = .ok () := by
  obtain ⟨image, nextRanges, -, hm⟩ := hi
  have ha := h.authoritative
  have hread := h.begun.read
  rw [← h.begun.archiveId] at hread
  exact recoveryManifestFor_record ha.sound (ha.archive ▸ ha.pathId) h.capacity hread
    (h.performs image) hm

theorem Recovering.transition (h : Recovering sha256 o w₀ admitted units)
    (hi : Installs sha256 o admitted units manifest) :
    assertRecoveryManifestTransition manifest admitted.current = .ok () := by
  obtain ⟨image, nextRanges, hn, hm⟩ := hi
  exact recoveryManifestFor_transition h.begun.read hn hm

theorem Installs.fields (hi : Installs sha256 o admitted units manifest) :
    SuccessorOf sha256 o admitted
      (recoveredMutation sha256 o admitted units manifest.image) manifest := by
  obtain ⟨image, hs⟩ := hi
  have hf := hs.fields
  rw [hf.mutation.1]
  exact hf

theorem assertHeaderMatches_ok {current : EvidenceManifest} :
    assertHeaderMatches header pointer initial current = .ok u ↔
      header.currentManifestRevision ≤ pointer.currentManifestRevision ∧
      header.sourceArchiveJobId = initial.sourceArchiveJobId ∧
      header.acceptedEndLbaExclusive = current.acceptedEndLbaExclusive ∧
      header.boundaryEvidenceDigest = current.boundaryEvidenceDigest ∧
      (header.currentManifestRevision = pointer.currentManifestRevision →
        header.currentManifestId = pointer.currentManifestId ∧
        header.currentManifestDigest = pointer.currentManifestDigest) := by
  simp only [assertHeaderMatches, bind_ok, rejectIf_ok, not_or, not_and, ne_eq, not_not,
    Nat.not_lt]
  exact ⟨fun ⟨_, hr, hj, he, hb, hp⟩ => ⟨hr, hj, he, hb, hp⟩,
    fun ⟨hr, hj, he, hb, hp⟩ => ⟨(), hr, hj, he, hb, hp⟩⟩

/-- The checkpoint a batch started from is what a reader finds before its successor. -/
theorem Authoritative.previous {current : CommittedDvdCheckpointEvidence} {disk d : Disk}
    (ha : Authoritative sha256 disk c current)
    (hi : d.initialManifest = disk.initialManifest)
    (hm : d.manifests current.manifest.revision = disk.manifests current.manifest.revision) :
    readPreviousEvidence sha256 d (current.manifest.revision + 1) = .ok current := by
  obtain ⟨previous, hr⟩ := ha.reads
  cases hr with
  | initial hn =>
    obtain ⟨-, -, hone, -⟩ := assertInitialManifest_ok ha.initial
    rw [readPreviousEvidence, if_pos (by
      rw [CommittedDvdCheckpointEvidence.manifest, hone]), hi]
  | @recovery current _ hgt hst hrec _ _ hptr =>
    have hrev : current.revision = disk.pointer.currentManifestRevision := hptr.2.1
    have hne : ¬(CommittedDvdCheckpointEvidence.recovery current).manifest.revision + 1 = 2 := by
      simp only [CommittedDvdCheckpointEvidence.manifest]
      omega
    rw [readPreviousEvidence, if_neg hne, Nat.add_sub_cancel, bind_ok]
    refine ⟨current, readRecoveryManifest_ok.2 ?_, bind_ok.2 ⟨(), hi ▸ hrec, rfl⟩⟩
    rw [hm]
    simpa only [CommittedDvdCheckpointEvidence.manifest, hrev] using hst

/-- Once the pointer names it, a reader accepts the manifest the batch installed, before and after
its projection. -/
theorem Recovering.next_read (h : Recovering sha256 o w₀ admitted units)
    (hi : Installs sha256 o admitted units manifest) (hp : Published units manifest w₀ w)
    (hroot : SameRoot w₀.catalog w.catalog)
    (hheader : projectedIdentity w.catalog.header = checkpointIdentity admitted.current ∨
      projectedIdentity w.catalog.header = checkpointIdentity (.recovery manifest)) :
    readDvdCheckpointForReconciliation sha256 w.disk w.catalog =
      .ok ⟨.recovery manifest, some admitted.current⟩ := by
  have ha := h.authoritative
  have hf := hi.fields
  have hrev := hf.revision
  have hcap := h.capacity
  have hpos := ha.sound.revision
  obtain ⟨hid, hl, hu, -⟩ := (assertRecoveryManifestRecord_ok.1 (h.record hi)).2.1
  refine readDvdCheckpointForReconciliation_ok.2 ⟨?_, ?_, ?_, ?_, ?_⟩
  · rw [hroot.archive.1]
    exact ha.pathId
  · rw [hp.initialManifest, hroot.assertInitialManifest]
    exact ha.initial
  · rw [hp.initialManifest, hroot.assertCheckpointPointer, hp.pointer]
    simp only [assertCheckpointPointer, rejectIf_ok, pointerTo, not_or, not_and, ne_eq, not_not,
      Nat.not_lt, CommittedDvdCheckpointEvidence.manifest_recovery, hrev]
    refine ⟨?_, by omega, by omega, hcap.trans_le (by decide), by omega, fun he =>
      absurd he (by omega)⟩
    rw [hf.archiveId, h.begun.currentArchiveId, h.begun.isOf.1]
  · refine readCurrentEvidence_ok.2 (.recovery ?_ ?_ ?_ ?_ (h.transition hi) ?_)
    · rw [hp.pointer]
      simp only [pointerTo, CommittedDvdCheckpointEvidence.manifest_recovery]
      omega
    · rw [hp.pointer, hp.manifests]
      exact if_pos rfl
    · rw [hp.initialManifest]
      exact h.record hi
    · rw [hp.pointer]
      simp only [pointerTo, CommittedDvdCheckpointEvidence.manifest_recovery, hrev]
      refine ha.previous hp.initialManifest ?_
      rw [hp.manifests]
      exact if_neg (by omega)
    · rw [hp.pointer]
      exact ⟨rfl, rfl, rfl, rfl⟩
  · obtain ⟨-, hjob, hend, hdig, -⟩ := assertHeaderMatches_ok.1 ha.header
    obtain ⟨-, hj, hb, he⟩ := hroot.header
    have himm := hf.immutable
    simp only [changedImmutableEvidence, not_or, ne_eq, not_not] at himm
    simp only [projectedIdentity, checkpointIdentity, CheckpointIdentity.mk.injEq,
      CommittedDvdCheckpointEvidence.manifest_recovery] at hheader
    rw [assertHeaderMatches_ok, hp.pointer, hp.initialManifest]
    simp only [pointerTo, CommittedDvdCheckpointEvidence.manifest_recovery, hj, hb, he]
    refine ⟨?_, hjob, hend.trans himm.2.2.2.1.symm, hdig.trans himm.2.2.2.2.2.2.2.symm,
      fun hsame => ?_⟩
    · rcases hheader with hh | hh <;> omega
    · rcases hheader with hh | hh
      · omega
      · exact hh.2

/-- The image a batch leaves behind is the one its manifest vouches for. -/
theorem Recovering.next_image (h : Recovering sha256 o w₀ admitted units)
    (hi : Installs sha256 o admitted units manifest) (hp : Published units manifest w₀ w) :
    verifyDvdCheckpointImage sha256 w.disk.image (.recovery manifest) = .ok () := by
  obtain ⟨hu, -, -, -, hlen⟩ := h.unitsOf
  have hf := hi.fields
  have himm := hf.immutable
  simp only [changedImmutableEvidence, not_or, ne_eq, not_not] at himm
  refine verifyDvdCheckpointImage_ok.2 ⟨hp.version, ?_, fun range hr => ?_⟩
  · rw [hp.bytes, hu.length_written, hlen]
    exact himm.2.2.2.2.2.2.1.symm
  · have hranges : manifest.protectedRanges = units.ranges sha256 := hf.mutation.2.2
    change range ∈ manifest.protectedRanges at hr
    rw [hranges] at hr
    obtain ⟨index, hi, hg⟩ := units.mem_ranges.1 hr
    rw [units.getElem?_ranges, if_pos hi] at hg
    obtain rfl := (Option.some.inj hg).symm
    have hafter := hu.unit_after hi
    rw [Nat.add_mul, ← hu.startByte_eq] at hafter
    simp only [hp.bytes, ← hafter]
    exact ⟨hu.length_unit_after hi, trivial⟩


end Successor

end RipDvd
