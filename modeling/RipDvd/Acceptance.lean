import RipDvd.Atomicity

namespace RipDvd
set_option autoImplicit true

/-- A manifest that the readers of an archive accept as the successor of `current`. -/
structure Readable (sha256 : Hashed → Digest) (disk : Disk)
    (current : CommittedDvdCheckpointEvidence) (manifest : CommittedDvdRecoveryEvidence) :
    Prop where
  record : assertRecoveryManifestRecord sha256 manifest disk.initialManifest = .ok ()
  transition : assertRecoveryManifestTransition manifest current = .ok ()

variable {sha256 : Hashed → Digest} {metadataLength : DvdRecoveryJournalMetadata → Nat}
  {o : DvdRecoveryBatchOptions} {admitted : AdmittedBatch} {mutation : BatchMutation}
  {manifest : CommittedDvdRecoveryEvidence} {units : ProtectedUnits}
  {current : CommittedDvdCheckpointEvidence} {w t : World}

theorem Begun.readable (h : Begun sha256 o w admitted)
    (hmut : Performs sha256 admitted.current o.observation mutation)
    (hs : Succeeds sha256 o admitted mutation manifest) :
    Readable sha256 w.disk admitted.current manifest := by
  obtain ⟨nextRanges, hn, hm⟩ := hs
  have ha := (Authoritative.of_committed h.committed).1
  have hcap := h.header.1 ▸ h.capacity
  have hread := h.read
  rw [← h.archiveId] at hread
  constructor
  · exact recoveryManifestFor_record ha.sound (ha.archive ▸ ha.pathId) hcap hread hmut hm
  · exact recoveryManifestFor_transition h.read hn hm

/-- What a batch that failed to read its sector writes. -/
def failedMutation (admitted : AdmittedBatch) : BatchMutation where
  image := admitted.current.image
  journalDigest := none
  protectedRanges := []

/-- The journal, once it is complete, and the next manifest, once it is there, are accepted. -/
structure AcceptedFiles (sha256 : Hashed → Digest) (o : DvdRecoveryBatchOptions)
    (current : CommittedDvdCheckpointEvidence) (w t : World) : Prop where
  manifest : ∀ manifest, t.disk.manifests (current.manifest.revision + 1) = some manifest →
    Readable sha256 w.disk current manifest
  journal : ∀ file, t.disk.journal = some file → file.Complete → ∃ metadata,
    file.metadata = some metadata ∧ assertJournalMetadata metadata = .ok () ∧
      assertJournalBase metadata current o.originalDiscArchiveId = .ok () ∧
      ∀ manifest, t.disk.manifests (current.manifest.revision + 1) = some manifest →
        assertJournalCommit metadata manifest = .ok ()

/-- Without a manifest after the current one or a complete journal there is nothing to accept. -/
theorem AcceptedFiles.untouched (hc : Consistent sha256 w current)
    (hmanifests : t.disk.manifests = w.disk.manifests)
    (hjournal : ∀ file, t.disk.journal = some file → ¬file.Complete) :
    AcceptedFiles sha256 o current w t where
  manifest manifest hm := by
    rw [hmanifests, hc.latest _ (Nat.lt_succ_self _)] at hm
    cases hm
  journal file hfile hcomplete := absurd hcomplete (hjournal file hfile)

theorem AcceptedFiles.installed (h : Recovering sha256 o w admitted units)
    (hmanifests : ∀ manifest, t.disk.manifests (admitted.current.manifest.revision + 1) =
      some manifest → Installs sha256 o admitted units manifest)
    (hjournal : ∀ file, t.disk.journal = some file → file = undoFile sha256 o admitted units) :
    AcceptedFiles sha256 o admitted.current w t where
  manifest manifest hm := by
    obtain ⟨image, hs⟩ := hmanifests manifest hm
    exact h.begun.readable (h.performs image) hs
  journal file hfile _ := by
    rw [hjournal file hfile]
    refine ⟨(undoJournal sha256 o admitted units).metadata, rfl, ?_, h.journalBase, ?_⟩
    · exact h.begun.assertJournalMetadata_ok h.unitsOf.1 h.unitsOf.2.2.2.2
    · intro manifest hm
      exact h.journalCommit (hmanifests manifest hm)

theorem setManifest_self (d : Disk) (revision : Nat)
    (manifest : Option CommittedDvdRecoveryEvidence) :
    (d.setManifest revision manifest).manifests revision = manifest := if_pos rfl

/-- Wherever a batch of a recovered sector is cut off, its files are accepted. -/
theorem Cut.accepted (hc : Consistent sha256 w current)
    (h : Cut sha256 metadataLength o w t) : AcceptedFiles sha256 o current w t := by
  cases h with
  | journaling hj =>
    obtain ⟨file, hincomplete, rfl⟩ := hj
    refine AcceptedFiles.untouched hc ?_ ?_
    · rfl
    · intro other hother
      cases hother
      exact hincomplete
  | base hb =>
    apply AcceptedFiles.untouched hc hb.manifests
    intro file hfile
    rw [hb.journal] at hfile
    cases hfile
  | @interrupted admitted units hr hi =>
    cases hr.begun.current_eq hc
    cases hi with
    | base hb =>
      apply AcceptedFiles.untouched hc hb.manifests
      intro file hfile
      rw [hb.journal] at hfile
      cases hfile
    | journaled hj =>
      apply AcceptedFiles.installed hr
      · intro manifest hm
        rw [hj.manifests, setManifest_self] at hm
        exact hj.uncommitted manifest hm
      · intro file hfile
        rw [hj.journal] at hfile
        exact (Option.some.inj hfile).symm
    | published fits journal installs published =>
      apply AcceptedFiles.installed hr
      · intro manifest hm
        rw [published.manifests, installs.fields.revision, setManifest_self] at hm
        exact Option.some.inj hm ▸ installs
      · intro file hfile
        rw [journal] at hfile
        exact (Option.some.inj hfile).symm
    | next installs hn =>
      apply AcceptedFiles.installed hr
      · intro manifest hm
        rw [hn.published.manifests, installs.fields.revision, setManifest_self] at hm
        exact Option.some.inj hm ▸ installs
      · intro file hfile
        rw [hn.journal] at hfile
        cases hfile

/-- So are those of a batch that failed to read its sector, which has no journal. -/
theorem Committing.accepted (hc : Consistent sha256 w admitted.current)
    (hb : Begun sha256 o w admitted) (ho : o.observation.outcome = .failed)
    (h : Committing sha256 o admitted (failedMutation admitted) w t) :
    AcceptedFiles sha256 o admitted.current w t := by
  have haccepted (hmanifests : ∀ manifest, t.disk.manifests
        (admitted.current.manifest.revision + 1) = some manifest →
          Succeeds sha256 o admitted (failedMutation admitted) manifest)
      (hjournal : t.disk.journal = w.disk.journal) :
      AcceptedFiles sha256 o admitted.current w t := by
    constructor
    · intro manifest hm
      exact hb.readable (.failed ho rfl rfl) (hmanifests manifest hm)
    · intro file hfile
      rw [hjournal, hc.journal] at hfile
      cases hfile
  cases h with
  | manifest next uncommitted disk catalog =>
    obtain ⟨-, hjournal, hmanifests, -⟩ := Disk.settled_fields disk
    apply haccepted _ hjournal
    intro manifest hm
    rw [hmanifests, setManifest_self] at hm
    exact uncommitted manifest hm
  | pointer manifest succeeds disk catalog =>
    obtain ⟨-, hjournal, hmanifests, -⟩ := Disk.settled_fields disk
    apply haccepted _ hjournal
    intro other hm
    have hrevision := succeeds.fields.revision
    rw [hmanifests, ← hrevision] at hm
    exact Option.some.inj ((setManifest_self _ _ _).symm.trans hm) ▸ succeeds

/-- A batch keeps its files acceptable, and returns only with the next manifest in place. -/
theorem runOwnedBatch_accepted (hc : Consistent sha256 w current)
    (hbound : BoundTo o.recoveryWorkClaim w.catalog) :
    (runOwnedBatch sha256 metadataLength o).Safe Eq (AcceptedFiles sha256 o current w)
      (Ends False fun t => ∃ manifest,
        t.disk.manifests (current.manifest.revision + 1) = some manifest) w := by
  cases ho : o.observation.outcome with
  | recovered =>
    have hown := @runOwnedBatch_recovered sha256 metadataLength o w current hc hbound ho
    refine hown.weaken (fun t ht => ht.accepted hc) ?_
    intro result t ht
    cases result with
    | ok =>
      obtain ⟨⟨admitted, units, manifest, hr, hi, hn⟩, -⟩ := ht
      refine ⟨manifest, ?_⟩
      rw [hn.published.manifests, hi.fields.revision, hr.begun.current_eq hc]
      exact setManifest_self _ _ _
    | error => exact id
  | failed =>
    have hnone : ∀ file, w.disk.journal = some file → ¬file.Complete := by
      intro file hfile
      rw [hc.journal] at hfile
      cases hfile
    refine .read_bind (.untouched hc rfl hnone) ?_ fun _ _ => id
    intro admitted hbatch
    have hb := admitBatch_ok.1 hbatch
    cases hb.current_eq hc
    simp only [ho]
    have hcommit := @commitManifest_safe sha256 o False _ admitted (failedMutation admitted) w w
      hb rfl rfl (hc.latest _ (Nat.lt_succ_self _)) hbound False.elim
      (fun t ht => Committing.accepted hc hb ho ht)
    refine hcommit.weaken (fun _ h => h) ?_
    intro result t ht
    cases result with
    | ok =>
      obtain ⟨⟨manifest, hs, hdisk, -⟩, -⟩ := ht
      obtain ⟨-, -, hmanifests, -⟩ := Disk.settled_fields hdisk
      refine ⟨manifest, ?_⟩
      rw [hmanifests, ← hs.fields.revision]
      exact setManifest_self _ _ _
    | error => exact id

/-- Whatever an admitted batch writes, every reader accepts: the manifest of a failed read, and the
journal and the manifest of a recovered sector, whatever version its writes leave the image in. In
a run from a consistent state these are the files at every point, and a batch that returns has
installed the manifest. -/
theorem runOwnedBatch_readable (h : admitBatch sha256 o w = .ok admitted) :
    (o.observation.outcome = .failed →
      ∃ manifest, Succeeds sha256 o admitted (failedMutation admitted) manifest ∧
        Readable sha256 w.disk admitted.current manifest) ∧
    (∀ units, o.observation.outcome = .recovered → protectUnits o admitted w = .ok units →
      assertJournalMetadata (undoJournal sha256 o admitted units).metadata = .ok () ∧
      assertJournalBase (undoJournal sha256 o admitted units).metadata admitted.current
        o.originalDiscArchiveId = .ok () ∧
      ∀ image, ∃ manifest,
        Succeeds sha256 o admitted (recoveredMutation sha256 o admitted units image) manifest ∧
        Readable sha256 w.disk admitted.current manifest ∧
        assertJournalCommit (undoJournal sha256 o admitted units).metadata manifest = .ok ()) ∧
    ∀ metadataLength, Consistent sha256 w admitted.current →
      BoundTo o.recoveryWorkClaim w.catalog →
      (∀ t ∈ (runOwnedBatch sha256 metadataLength o).crashes w,
        AcceptedFiles sha256 o admitted.current w t) ∧
      ∀ committed t, (runOwnedBatch sha256 metadataLength o).run w = (.ok committed, t) →
        ∃ manifest, t.disk.manifests (admitted.current.manifest.revision + 1) = some manifest ∧
          Readable sha256 w.disk admitted.current manifest := by
  have hb := admitBatch_ok.1 h
  refine ⟨?_, ?_, ?_⟩
  · intro hfailed
    obtain ⟨manifest, hs⟩ := hb.succeeds (failedMutation admitted)
    exact ⟨manifest, hs, hb.readable (.failed hfailed rfl rfl) hs⟩
  · intro units hrecovered hunits
    have hr : Recovering sha256 o w admitted units := ⟨hb, hrecovered, hunits⟩
    refine ⟨hb.assertJournalMetadata_ok hr.unitsOf.1 hr.unitsOf.2.2.2.2, hr.journalBase,
      fun image => ?_⟩
    obtain ⟨manifest, hs⟩ := hb.succeeds (recoveredMutation sha256 o admitted units image)
    exact ⟨manifest, hs, hb.readable (hr.performs image) hs, hr.journalCommit ⟨image, hs⟩⟩
  · intro metadataLength hc hbound
    have hsafe := @runOwnedBatch_accepted sha256 metadataLength o admitted.current w hc hbound
    refine ⟨fun t ht => hsafe.crashes (fun _ => rfl) ht, fun committed t hrun => ?_⟩
    have hends := hsafe.run fun _ => rfl
    have haccepted := hsafe.crashes (fun _ => rfl) (Program.run_mem_crashes _ w)
    rw [hrun] at hends haccepted
    obtain ⟨manifest, hm⟩ := hends
    exact ⟨manifest, hm, haccepted.manifest manifest hm⟩

theorem sampleBatch_admitted (h : admitBatch sampleSha256 sampleBatch sampleWorld = .ok admitted) :
    Consistent sampleSha256 sampleWorld admitted.current ∧
      BoundTo sampleBatch.recoveryWorkClaim sampleWorld.catalog := by
  refine ⟨?_, fun work hwork => ?_⟩
  · rw [(admitBatch_ok.1 h).current_eq sampleWorld_consistent]
    exact sampleWorld_consistent
  · cases hwork
    exact ⟨rfl, rfl⟩

/-- The sample batch protects two units of its sector, and leaves a manifest that is accepted. -/
theorem sampleBatch_readable : ∃ admitted units,
    admitBatch sampleSha256 sampleBatch sampleWorld = .ok admitted ∧
    protectUnits sampleBatch admitted sampleWorld = .ok units ∧ units.count = 2 ∧
    assertJournalMetadata (undoJournal sampleSha256 sampleBatch admitted units).metadata =
      .ok () ∧
    (∀ image, ∃ manifest, Succeeds sampleSha256 sampleBatch admitted
        (recoveredMutation sampleSha256 sampleBatch admitted units image) manifest ∧
      Readable sampleSha256 sampleWorld.disk admitted.current manifest ∧
      assertJournalCommit (undoJournal sampleSha256 sampleBatch admitted units).metadata manifest =
        .ok ()) ∧
    (∀ t ∈ (runOwnedBatch sampleSha256 sampleMetadataLength sampleBatch).crashes sampleWorld,
      AcceptedFiles sampleSha256 sampleBatch admitted.current sampleWorld t) ∧
    ∃ committed t manifest,
      (runOwnedBatch sampleSha256 sampleMetadataLength sampleBatch).run sampleWorld =
        (.ok committed, t) ∧ t.disk.manifests (admitted.current.manifest.revision + 1) =
          some manifest ∧ Readable sampleSha256 sampleWorld.disk admitted.current manifest := by
  have hunits : (match admitBatch sampleSha256 sampleBatch sampleWorld with
      | .error _ => false
      | .ok admitted => match protectUnits sampleBatch admitted sampleWorld with
        | .error _ => false
        | .ok units => units.count = 2) = true := by
    decide +kernel
  have hrun : ((runOwnedBatch sampleSha256 sampleMetadataLength sampleBatch).run
      sampleWorld).1.isOk = true := by
    decide +kernel
  cases hbatch : admitBatch sampleSha256 sampleBatch sampleWorld with
  | error => simp [hbatch] at hunits
  | ok admitted =>
    cases hprotect : protectUnits sampleBatch admitted sampleWorld with
    | error => simp [hbatch, hprotect] at hunits
    | ok units =>
      simp only [hbatch, hprotect, decide_eq_true_eq] at hunits
      obtain ⟨-, hjournal, hfiles⟩ := runOwnedBatch_readable hbatch
      obtain ⟨hmetadata, -, hmanifest⟩ := hjournal units rfl hprotect
      obtain ⟨hc, hbound⟩ := sampleBatch_admitted hbatch
      obtain ⟨hcrashes, hreturns⟩ := hfiles sampleMetadataLength hc hbound
      cases hr : (runOwnedBatch sampleSha256 sampleMetadataLength sampleBatch).run sampleWorld with
      | mk result t =>
        rw [hr] at hrun
        obtain ⟨committed, rfl⟩ := exists_ok hrun
        obtain ⟨manifest, hm, hreadable⟩ := hreturns committed t hr
        exact ⟨admitted, units, rfl, hprotect, hunits, hmetadata, hmanifest, hcrashes, committed, t,
          manifest, rfl, hm, hreadable⟩

end RipDvd
