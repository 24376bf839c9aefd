import RipDvd.InitialSaveRuns

namespace RipDvd
set_option autoImplicit true

variable {jobId archivePath : String} {o other : SaveOptions} {s : SaveWorld}
variable {sha256 : Hashed → Digest}

theorem publicationOptions_ok {w : SaveStore} {options : String × Option DvdArchiveEvidenceHeader} :
    w.publicationOptions o = .ok options ↔ w.rows.OwnedBy o.claim ∧
      options = (w.rows.fingerprint, w.rows.findHeader o.originalDiscArchiveId) := by
  rw [SaveStore.publicationOptions, bind_ok]
  constructor
  · intro h
    obtain ⟨_, hjob, he⟩ := h
    exact ⟨not_not.1 (rejectIf_ok.1 hjob), (pure_ok.1 he).symm⟩
  · intro h
    exact ⟨(), rejectIf_ok.2 (not_not.2 h.1), pure_ok.2 h.2.symm⟩

/-- What a save that returned leaves: the archive of its intent is published, the link to the staged
image is gone, and all that a save of the same publication checks still holds. -/
structure SaveStore.Settled (sha256 : Hashed → Digest) (o : SaveOptions)
    (intent : PublicationIntent) (w : SaveStore) : Prop where
  published : w.Published o.claim.id o.archivePath intent
  unlinked : w.names (.image intent.stagingPath) = none
  accepted : intent.Of sha256 o w.rows.fingerprint
  provenance : requireInitialProvenance sha256 o.claim intent.manifest = .ok ()
  owned : w.rows.OwnedBy o.claim
  pathId : isArchivePathId o.originalDiscArchiveId = true

variable {v w : SaveStore}

theorem Kept.rows_owned (claim : InitialSaveClaim) (h : Kept jobId archivePath v w) :
    w.rows.fingerprint = v.rows.fingerprint ∧
      (v.rows.OwnedBy claim → w.rows.OwnedBy claim) := by
  have of_job (rows : InitialSaveRows) (hid : rows.job.id = v.rows.job.id)
      (hformat : rows.job.evidenceFormat = v.rows.job.evidenceFormat)
      (hrequest : rows.job.archiveRequestId = v.rows.job.archiveRequestId)
      (hdisc : rows.job.detectedDiscId = v.rows.job.detectedDiscId)
      (hd : rows.discId = v.rows.discId) : v.rows.OwnedBy claim → rows.OwnedBy claim := by
    intro h
    obtain ⟨job, hj, h⟩ := h
    obtain ⟨hclaim, rfl⟩ := InitialSaveRows.mem_findJob.1 hj
    refine ⟨rows.job, InitialSaveRows.mem_findJob.2 ⟨hid.trans hclaim, rfl⟩, ?_⟩
    rw [hformat, hrequest, hdisc, hd]
    exact h
  rcases h.rows with ⟨token, hw⟩ | ⟨_, _, _, _, before, _, _, _, ⟨token, rfl⟩, hw⟩
  · rw [hw]
    exact ⟨rfl, of_job _ rfl rfl rfl rfl rfl⟩
  · rw [hw]
    exact ⟨rfl, of_job _ rfl rfl rfl rfl rfl⟩

theorem PublicationIntent.Of.continues {intent : PublicationIntent}
    (h : intent.Of sha256 other imageFingerprint) (hc : o.Continues other) :
    intent.Of sha256 o imageFingerprint := by
  unfold PublicationIntent.Of verifyIntent at h ⊢
  rw [hc.sameArchive, hc.sameJob, hc.samePath] at h
  exact h

theorem SaveOptions.Continues.symm (h : o.Continues other) : other.Continues o := by
  obtain ⟨token, he⟩ := h.claim
  refine ⟨⟨o.claim.claimToken, ?_⟩, h.library.symm⟩
  rw [he]

theorem SaveStore.Settled.continues (h : w.Settled sha256 other intent) (hc : o.Continues other) :
    w.Settled sha256 o intent where
  published := by
    rw [← hc.sameJob, ← hc.samePath]
    exact h.published
  unlinked := h.unlinked
  accepted := h.accepted.continues hc
  provenance := by
    obtain ⟨token, he⟩ := hc.claim
    have hp := h.provenance
    rw [he] at hp
    exact hp
  owned := by
    obtain ⟨token, he⟩ := hc.claim
    have ho := h.owned
    rw [he] at ho
    exact ho
  pathId := hc.sameArchive ▸ h.pathId

/-- A publication and the save of its rows, from the options that they begin with. -/
theorem settled_publishes {publication : SaveProgram PublicationIntent}
    (howned : s.rows.OwnedBy o.claim)
    (h : Publishes o.claim.id o.archivePath (fun intent _ => intent.Of sha256 o s.rows.fingerprint ∧
      isArchivePathId o.originalDiscArchiveId = true) publication s) :
    Publishes o.claim.id o.archivePath (fun _ w => ∃ intent, w.Settled sha256 o intent)
      (publication >>= commitSave sha256 o) s := by
  refine .bind h.with_kept fun intent t ht => ?_
  obtain ⟨⟨haccepted, hid⟩, hk⟩ := ht
  refine (commitSave_publishes haccepted.stagingPath_ne t).with_kept.weaken fun _ w hw => ?_
  obtain ⟨⟨⟨hp, hnone⟩, hprovenance⟩, hk'⟩ := hw
  obtain ⟨hfingerprint, hrows⟩ := (hk.trans hk').rows_owned o.claim
  rw [← hfingerprint] at haccepted
  exact ⟨intent, hp, hnone, haccepted, hprovenance, hrows howned, hid⟩

theorem saveDvdInitialArchiveForArchiveJob_publishes (s : SaveWorld) :
    Publishes o.claim.id o.archivePath (fun _ w => ∃ intent, w.Settled sha256 o intent)
      (saveDvdInitialArchiveForArchiveJob sha256 o stagingPath proven) s := by
  refine .bind .look fun _ t _ => withOwnedClaim_publishes (fun owned hc t => ?_) t
  rw [← hc.sameJob, ← hc.samePath]
  refine .bind .look fun options t hoptions => ?_
  obtain ⟨howned, rfl⟩ := publicationOptions_ok.1 hoptions.2
  apply Publishes.weaken
    (settled_publishes howned (publishDvdInitialArchive_publishes t))
  intro _ w h
  obtain ⟨intent, h⟩ := h
  exact ⟨intent, h.continues hc⟩

theorem reconcileDvdInitialArchiveForArchiveJob_publishes (s : SaveWorld) :
    Publishes o.claim.id o.archivePath (fun _ w => ∃ intent, w.Settled sha256 o intent)
      (reconcileDvdInitialArchiveForArchiveJob sha256 o) s := by
  refine .bind .look fun options t _ => .bind .done fun _ t _ => ?_
  refine .bind (readIntent_publishes t) fun expected t _ => ?_
  refine withOwnedClaim_publishes (fun owned hc t => ?_) t
  rw [← hc.sameJob, ← hc.samePath]
  refine .bind .look fun options t hoptions => ?_
  obtain ⟨howned, rfl⟩ := publicationOptions_ok.1 hoptions.2
  apply Publishes.weaken
    (settled_publishes howned (reconcileDvdInitialArchivePublication_publishes t))
  intro _ w h
  obtain ⟨intent, h⟩ := h
  exact ⟨intent, h.continues hc⟩

/-! ## Saving again -/

/-- Where `w` is stored, a program leaves it as it is, and returns `a` when nothing disturbs it. -/
def Passes (o : SaveOptions) (w : SaveStore) (a : α) (p : SaveProgram α) : Prop :=
  ∀ s, s.toSaveStore = w → p.Safe Eq (fun t => t.toSaveStore = w)
    (fun r _ => r = .ok a ∨ ¬o.Undisturbed ∧ ∃ e, r = .error e) s

section Passes

variable {w : SaveStore} {a : α} {p : SaveProgram α}

theorem Passes.bind {f : α → SaveProgram β} (hp : Passes o w a p) (hf : Passes o w b (f a)) :
    Passes o w b (p >>= f) := by
  intro s hs
  apply Program.Safe.seq (hp s hs)
  · intro a' t ht hr
    rcases hr with hr | ⟨_, e, hr⟩
    · cases hr
      exact hf t ht
    · exact nomatch hr
  · intro e t hr
    rcases hr with hr | ⟨hu, e', hr⟩
    · exact nomatch hr
    · exact .inr ⟨hu, e, rfl⟩

theorem Passes.done {r : Except InitialSaveError α} (h : r = .ok a) : Passes o w a (.done r) :=
  fun _ hs => .finish hs (.inl h)

theorem Passes.check {bad : Prop} [Decidable bad] {e : InitialSaveError} (h : ¬bad) :
    Passes o w () (.done (rejectIf bad e)) :=
  .done (rejectIf_ok.2 h)

theorem Passes.look {f : SaveStore → Except InitialSaveError α} (h : f w = .ok a) :
    Passes o w a (look f) :=
  fun _ hs => .read_only hs (.inl (hs ▸ h))

theorem Looks.passes {sure learned : SaveStore → Prop} {p : SaveProgram Unit}
    (hp : Looks o sure learned p) (hsure : sure w) : Passes o w () p := by
  intro s hs
  apply (hp s).weaken (fun _ h => h.trans hs)
  intro r _ hr
  by_cases hu : o.Undisturbed
  · exact .inl (hr.2.2 (hs ▸ hsure) hu)
  · cases r with
    | ok => exact .inl rfl
    | error e => exact .inr ⟨hu, e, rfl⟩

theorem installRecord_passes (h : w.RecordAt path record) :
    Passes o w () (installRecord o path record code) :=
  .bind (.look (readRecord_some.2 h)) (.bind (.check (not_not.2 rfl))
    (.bind (synchronize_looks.passes trivial) (synchronize_looks.passes trivial)))

theorem publicationStep_passes {work : SaveProgram Unit}
    (hc : w.rows.jobCompleted o.claim.id = true) (hw : Passes o w () work) :
    Passes o w () (publicationStep o work) :=
  .bind (authorize_looks.passes hc) (.bind (throwIfAborted_looks.passes trivial)
    (.bind (authorize_looks.passes hc) (.bind hw
      (.bind (throwIfAborted_looks.passes trivial) (authorize_looks.passes hc)))))

end Passes

theorem checkProjection_settled {header : DvdArchiveEvidenceHeader}
    (hid : header.currentManifestId = manifest.id) (hr : header.currentManifestRevision = 1)
    (hd : header.currentManifestDigest = manifest.manifestDigest) :
    checkProjection (some (.checkpoint (checkpointFor manifest))) (some header) = .ok () := by
  refine bind_ok.2 ⟨(), rejectIf_ok.2 ?_, bind_ok.2 ⟨(), rejectIf_ok.2 ?_, rejectIf_ok.2 ?_⟩⟩
  · rintro ⟨record, hrecord, hnone⟩
    cases hrecord
    cases hnone
  · rw [hr]
    rintro (h | h | h | ⟨fields, hfields, revision, hrevision, hlt⟩)
    · exact absurd h (by decide)
    · exact absurd h (by decide)
    · cases h
    · cases hfields
      cases hrevision
      exact absurd hlt (lt_irrefl _)
  · rintro ⟨fields, hfields, -, hne⟩
    cases hfields
    rw [hid, hd] at hne
    exact hne.elim (fun h => h rfl) fun h => h rfl

theorem publishDvdInitial_settled (expired : Bool) (timestamp : Nat)
    (h : w.rows.Saved o.claim.id archivePath manifest)
    (hp : requireInitialProvenance sha256 o.claim manifest = .ok ()) :
    publishDvdInitial sha256 o.claim archivePath manifest expired timestamp w.rows =
      .ok w.rows := by
  apply bind_ok.2
  refine ⟨(), hp, ?_⟩
  rw [if_pos h.completed]
  apply bind_ok.2
  refine ⟨(), rejectIf_ok.2 ?_, rfl⟩
  obtain ⟨job, hj, _, harchive⟩ := h.job
  obtain ⟨_, rfl⟩ := InitialSaveRows.mem_findJob.1 hj
  obtain ⟨archive, hpath, hfilter⟩ := h.archive
  have hfound := congrArg List.head? hfilter
  rw [List.head?_filter] at hfound
  simp only [not_or, not_not]
  exact ⟨harchive, h.header, ⟨archive, hfound, hpath⟩, h.request, h.recovery⟩

theorem SaveStore.Settled.projection (h : w.Settled sha256 o intent) :
    checkProjection (some (.checkpoint (checkpointFor intent.manifest)))
      (w.rows.findHeader o.originalDiscArchiveId) = .ok () := by
  obtain ⟨header, hfound, _, hid, hr, hd⟩ := h.published.saved.header
  rw [h.accepted.archive] at hfound
  rw [hfound]
  exact checkProjection_settled hid hr hd

theorem completePublication_passes (h : w.Settled sha256 o intent) :
    Passes o w () (completePublication o (w.rows.findHeader o.originalDiscArchiveId) intent) := by
  have hp := h.published
  have hc := hp.saved.completed
  have hpublished : (w.names (.image o.archivePath)).isSome = true :=
    Option.isSome_of_mem hp.image.1
  refine .bind (.look (readRecord_some.2 hp.pointerRecord)) (.bind (.done h.projection) ?_)
  refine .bind (.look (readRecord_some.2 hp.manifestRecord)) (.bind (.check ?_) ?_)
  · exact fun hn => hn.2 rfl
  refine .bind (.check ?_) (.bind (.look (congrArg _ hpublished)) (.bind (.check ?_) ?_))
  · exact fun hn => hn.2.elim (fun hn => hn rfl) nofun
  · exact fun hn => nomatch hn.2
  refine .bind (publicationStep_passes hc (verifyImageSynchronized_looks.passes hp.image)) ?_
  refine .bind (publicationStep_passes hc (installRecord_passes hp.manifestRecord)) ?_
  refine .bind (publicationStep_passes hc ?_) (.bind (publicationStep_passes hc ?_) ?_)
  · exact .bind (verifyImageSynchronized_looks.passes hp.image)
      (.bind (synchronize_looks.passes trivial) (verifyImage_looks.passes hp.image))
  · exact .bind (verifyImage_looks.passes hp.image)
      (.bind (verifyEvidence_looks.passes ⟨hp.intentRecord, hp.manifestRecord⟩)
      (.bind (authorize_looks.passes hc) (installRecord_passes hp.pointerRecord)))
  · exact .bind (verifyEvidence_looks.passes ⟨hp.intentRecord, hp.manifestRecord⟩)
      (.bind (verifyCheckpoint_looks.passes hp.pointerRecord) (verifyImage_looks.passes hp.image))

theorem finalizePublication_passes (h : w.Settled sha256 o intent) :
    Passes o w () (finalizePublication o intent) := by
  have hp := h.published
  refine .bind (throwIfAborted_looks.passes trivial) ?_
  refine .bind (verifyCheckpoint_looks.passes hp.pointerRecord) ?_
  refine .bind (verifyEvidence_looks.passes ⟨hp.intentRecord, hp.manifestRecord⟩) ?_
  refine .bind (verifyImage_looks.passes hp.image) ?_
  have hstaged : (w.names (.image intent.stagingPath)).isSome = false := by
    rw [h.unlinked]
    rfl
  exact .bind (.look (congrArg _ hstaged)) (.done rfl)

theorem commitSave_passes (h : w.Settled sha256 o intent) :
    Passes o w () (commitSave sha256 o intent) := by
  have hp := h.published
  have hevidence : w.EvidenceAt intent := ⟨hp.intentRecord, hp.manifestRecord⟩
  refine .bind (throwIfAborted_looks.passes trivial)
    (.bind (throwIfAborted_looks.passes trivial) ?_)
  refine .bind (.look (publicationOptions_ok.2 ⟨h.owned, rfl⟩)) ?_
  refine .bind (authorizeMutation_looks.passes hp.saved.completed) ?_
  refine .bind (throwIfAborted_looks.passes trivial) ?_
  refine .bind (verifyPublication_looks.passes ⟨hevidence, hp.pointerRecord, hp.image⟩) ?_
  refine .bind (throwIfAborted_looks.passes trivial)
    (.bind (throwIfAborted_looks.passes trivial) ?_)
  refine .bind (a := ()) ?_ ?_
  · intro s hs
    have hrows := publishDvdInitial_settled (o.expired s.clock) s.clock hp.saved h.provenance
    subst hs
    refine .transaction_only rfl (fun _ t ht => ?_) fun e he => ?_
    · rw [hrows] at ht
      cases ht
      exact ⟨rfl, .inl rfl⟩
    · rw [hrows] at he
      exact nomatch he
  refine .bind (throwIfAborted_looks.passes trivial)
    (.bind (throwIfAborted_looks.passes trivial) ?_)
  exact .bind (finalizePublication_passes h) (throwIfAborted_looks.passes trivial)

/-- Once a publication is saved, reconciling it again changes nothing. -/
theorem reconcileDvdInitialArchiveForArchiveJob_passes (h : w.Settled sha256 o intent) :
    Passes o w () (reconcileDvdInitialArchiveForArchiveJob sha256 o) := by
  have hp := h.published
  have hc := hp.saved.completed
  have hoptions := publicationOptions_ok.2 ⟨h.owned, rfl⟩
  have hread : Passes o w intent (readIntent sha256 o w.rows.fingerprint) := by
    refine .look (bind_ok.2 ⟨some (.intent intent), readRecord_some.2 hp.intentRecord, h.accepted⟩)
  refine .bind (.look hoptions) (.bind (.check (not_not.2 h.pathId)) (.bind hread ?_))
  refine .bind (.look hoptions) (.bind (throwIfAborted_looks.passes trivial) ?_)
  refine .bind (.look (congrArg _ hc)) (.bind (.look hoptions) (.bind (a := intent) ?_ ?_))
  · refine .bind (authorize_looks.passes hc) (.bind (.check (not_not.2 h.pathId)) (.bind hread ?_))
    refine .bind (.check (not_not.2 rfl)) ?_
    refine .bind (publicationStep_passes hc (installRecord_passes hp.intentRecord)) ?_
    exact .bind (completePublication_passes h) (.done rfl)
  · exact commitSave_passes h

/-! ## Runs -/

/-- A save of an archive, or a reconciliation. -/
inductive InitialSaveAttempt where
  | save (o : SaveOptions) (stagingPath : String) (proven : ProvenDvdInitialArchiveBoundary)
  | reconcile (o : SaveOptions)

def InitialSaveAttempt.options : InitialSaveAttempt → SaveOptions
  | .save o _ _ => o
  | .reconcile o => o

def InitialSaveAttempt.program (sha256 : Hashed → Digest) : InitialSaveAttempt → SaveProgram Unit
  | .save o stagingPath proven => saveDvdInitialArchiveForArchiveJob sha256 o stagingPath proven
  | .reconcile o => reconcileDvdInitialArchiveForArchiveJob sha256 o

theorem InitialSaveAttempt.publishes (sha256 : Hashed → Digest) {attempt : InitialSaveAttempt}
    (h : o.Continues attempt.options) (s : SaveWorld) :
    Publishes o.claim.id o.archivePath (fun _ w => ∃ intent, w.Settled sha256 o intent)
      (attempt.program sha256) s := by
  rw [← h.sameJob, ← h.samePath]
  cases attempt with
  | save =>
    apply (saveDvdInitialArchiveForArchiveJob_publishes s).weaken
    intro _ w hs
    obtain ⟨intent, hs⟩ := hs
    exact ⟨intent, hs.continues h⟩
  | reconcile =>
    apply (reconcileDvdInitialArchiveForArchiveJob_publishes s).weaken
    intro _ w hs
    obtain ⟨intent, hs⟩ := hs
    exact ⟨intent, hs.continues h⟩

/-- Under whatever name it was staged, an image that a save unlinked is the published one. -/
theorem Kept.published_image (h : Kept jobId archivePath v w)
    (hv : v.names (.image stagingPath) = some identity)
    (hw : w.names (.image stagingPath) = none) :
    w.names (.image archivePath) = some identity := by
  rcases h.names _ _ hv with hkept | ⟨path, he, _, intent, _, hi, hp⟩
  · exact nomatch hw.symm.trans hkept
  · rw [← hi]
    exact hp.image.1

/-- An attempt that ends in a fault has published, or it has left all names as they were. -/
theorem Kept.published_or_kept (h : Kept jobId archivePath v w) :
    (∃ intent, w.Published jobId archivePath intent) ∨
      ∀ path identity, v.names path = some identity → w.names path = some identity := by
  by_cases hp : ∃ intent, w.Published jobId archivePath intent
  · exact .inl hp
  · right
    intro path identity hv
    rcases h.names path identity hv with hw | ⟨_, _, _, intent, _, _, hpublished⟩
    · exact hw
    · exact absurd ⟨intent, hpublished⟩ hp

/-- Saves and reconciliations of one publication, cut short anywhere, change what is stored only as
a publication may; the next of them publishes the archive or keeps its intent and staged image; and
a reconciliation of an archive that is published changes nothing. -/
theorem initialPublication_crashSafe {start t t' : SaveWorld} {attempt : InitialSaveAttempt}
    (h : Attempts (fun a : {a : InitialSaveAttempt // o.Continues a.options} => a.1.program sha256)
      start t)
    (ha : o.Continues attempt.options) (hr : (attempt.program sha256).run t = (r, t')) :
    Kept o.claim.id o.archivePath start.toSaveStore t.toSaveStore ∧
      Kept o.claim.id o.archivePath start.toSaveStore t'.toSaveStore ∧
      (r = .ok () → ∃ intent, t'.Settled sha256 o intent ∧
        (∀ identity, start.names (.image intent.stagingPath) = some identity →
          t'.names (.image o.archivePath) = some identity) ∧
        ∀ again, o.Continues again →
          (∀ u ∈ (reconcileDvdInitialArchiveForArchiveJob sha256 again).crashes t',
            u.toSaveStore = t'.toSaveStore) ∧
          (again.Undisturbed →
            ((reconcileDvdInitialArchiveForArchiveJob sha256 again).run t').1 = .ok ())) ∧
      (∀ e, r = .error e →
        (∃ intent, t'.Published o.claim.id o.archivePath intent) ∨
          ∀ path identity, start.names path = some identity → t'.names path = some identity) := by
  have hk : Kept o.claim.id o.archivePath start.toSaveStore t.toSaveStore := by
    refine Attempts.safe (I := fun w => Kept _ _ start.toSaveStore w.toSaveStore)
      (Q := fun _ _ _ => True) (fun a s hs => ?_) h (.refl _)
    exact Program.Safe.weaken (a.1.publishes sha256 a.2 s) (fun _ h => hs.trans h)
      fun _ _ _ => trivial
  have hpublishes := attempt.publishes sha256 ha t
  have hend := Program.Safe.crashes hpublishes (fun _ => rfl) (Program.run_mem_crashes _ t)
  have hresult := Program.Safe.run hpublishes (fun _ => rfl)
  rw [hr] at hend hresult
  refine ⟨hk, hk.trans hend, fun hok => ?_, fun _ _ => (hk.trans hend).published_or_kept⟩
  obtain ⟨intent, hsettled⟩ := hresult () hok
  refine ⟨intent, hsettled, fun identity hv => (hk.trans hend).published_image hv hsettled.unlinked,
    fun again hagain => ?_⟩
  have hpasses := reconcileDvdInitialArchiveForArchiveJob_passes
    (hsettled.continues (o := again) hagain.symm) t' rfl
  refine ⟨fun u => Program.Safe.crashes (I := fun u : SaveWorld => u.toSaveStore = t'.toSaveStore)
    hpasses fun _ => rfl, fun hu => ?_⟩
  rcases Program.Safe.run hpasses (fun _ => rfl) with hok | ⟨hd, _⟩
  · exact hok
  · exact absurd hu hd

/-- A disc of one sector, read without a fault. -/
def oneSectorBoundary : ProvenDvdInitialArchiveBoundary where
  boundaryEvidence := ⟨"p", 2048, 2048, 0, ""⟩
  initialCopy := ⟨2048, 2048, 0, false, [], []⟩
  imageFilesystemIdentity := ⟨1, 7⟩
  imageMtimeNs := 5
  metadataDecision := some ⟨"dvd-full-extent-metadata-v1", "publishable", [], []⟩

/-- A hash that tells the kinds of documents apart. -/
def kindHash : Hashed → Digest
  | .boundaryEvidence _ => 1
  | .sourceRanges _ => 2
  | .evidenceManifest _ _ => 3
  | .initialPublication _ => 4
  | _ => 5

/-- A save of that disc, cut short where `interrupt` says. -/
def oneSectorSave (interrupt : Nat → Bool) : SaveOptions where
  claim := ⟨"job", "request", "disc", some "dvd-recovery-evidence-v1", "token"⟩
  originalsLibraryPath := "/originals"
  interrupt
  newFile n := (n, ⟨2, n⟩)
  newToken _ := "taken"
  expired _ := false
  writerIsActive := none
  readSamples manifest := .ok {
    policyVersion := DVD_DISC_VERIFICATION_POLICY_VERSION
    byteRepresentation := DVD_SOURCE_SAMPLE_BYTE_REPRESENTATION
    sourceMetadataFingerprint := manifest.imageFingerprint
    acceptedEndLbaExclusive := manifest.acceptedEndLbaExclusive
    checkpointRevision := manifest.revision
    checkpointDigest := manifest.manifestDigest
    samples := []
    manifestDigest := 5 }

/-- Where its copy is staged, and nothing is published yet. -/
def stagedWorld : SaveWorld where
  names path := if path = .image "/work/copy.iso" then some ⟨1, 7⟩ else none
  inodes identity := if identity = ⟨1, 7⟩ then some ⟨true, none, 2048, 5⟩ else none
  rows := {
    job := ⟨"job", "request", "disc", some "dvd-recovery-evidence-v1", .running, some "token", none⟩
    request := ⟨"request", .running, some "dvd-recovery-evidence-v1", none⟩
    discId := "disc"
    discKind := "dvd"
    fingerprint := "f"
    sourceInspectionTotalBytes := some 2048
    archives := []
    archiveKeys := .nil
    headers := []
    manifests := []
    sourceSamples := []
    recoveries := [] }
  clock := 0

/-- A save that is cut short before it installs the pointer. -/
def interruptedSave : InitialSaveAttempt :=
  .save (oneSectorSave fun n => n = 60) "/work/copy.iso" oneSectorBoundary

def oneSectorReconciliation : InitialSaveAttempt := .reconcile (oneSectorSave fun _ => false)

theorem interruptedSave_reconciled : ∃ intent,
    ((oneSectorReconciliation.program kindHash).run
      ((interruptedSave.program kindHash).run stagedWorld).2).2.Settled kindHash
      (oneSectorSave fun _ => false) intent := by
  have hsame (interrupt : Nat → Bool) :
      (oneSectorSave fun _ => false).Continues (oneSectorSave interrupt) :=
    ⟨⟨"token", rfl⟩, rfl⟩
  have hok : ((oneSectorReconciliation.program kindHash).run
      ((interruptedSave.program kindHash).run stagedWorld).2).1 = .ok () := by decide +kernel
  have hrun : Attempts (fun a : {a : InitialSaveAttempt //
      (oneSectorSave fun _ => false).Continues a.options} => a.1.program kindHash) stagedWorld
      ((interruptedSave.program kindHash).run stagedWorld).2 :=
    .crashed ⟨interruptedSave, hsame _⟩ (Program.run_mem_crashes _ stagedWorld) .none
  have hreconcile : (oneSectorSave fun _ => false).Continues oneSectorReconciliation.options :=
    hsame _
  have h := initialPublication_crashSafe hrun hreconcile Prod.mk.eta.symm
  obtain ⟨intent, hsettled, _⟩ := h.2.2.1 hok
  exact ⟨intent, hsettled⟩

end RipDvd
