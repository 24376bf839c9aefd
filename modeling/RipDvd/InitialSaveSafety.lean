import RipDvd.InitialSave

namespace RipDvd
set_option autoImplicit true

theorem readRecord_some {w : SaveStore} :
    readRecord path code w = .ok (some record) ↔
      ∃ identity ∈ w.names path, ∃ inode ∈ w.inodes identity,
        inode.isFile = true ∧ inode.record = some record := by
  unfold readRecord
  cases hn : w.names path with
  | none => exact ⟨nofun, fun ⟨_, h, _⟩ => (nomatch h)⟩
  | some identity =>
    cases hi : w.inodes identity with
    | none =>
      simp only [hi]
      refine ⟨nofun, fun ⟨i, h, f, hf, _⟩ => ?_⟩
      cases h
      exact nomatch hi.symm.trans hf
    | some inode =>
      simp only [hi]
      by_cases hfile : inode.isFile = true
      · cases hr : inode.record with
        | none =>
          simp only [hfile, if_true]
          refine ⟨nofun, fun ⟨i, h, f, hf, _, hrec⟩ => ?_⟩
          cases h
          cases hi.symm.trans hf
          exact nomatch hr.symm.trans hrec
        | some found =>
          simp only [hfile, if_true]
          refine ⟨fun h => ⟨_, rfl, inode, hi, hfile, ?_⟩, fun ⟨i, h, f, hf, _, hrec⟩ => ?_⟩
          · cases h
            exact hr
          · cases h
            cases hi.symm.trans hf
            rw [← hrec, hr]
      · simp only [if_neg hfile]
        refine ⟨nofun, fun ⟨i, h, f, hf, hfile', _⟩ => ?_⟩
        cases h
        cases hi.symm.trans hf
        exact absurd hfile' hfile

/-- A record can be read under a name. -/
def SaveStore.RecordAt (w : SaveStore) (path : PublicationPath) (record : EvidenceRecord) : Prop :=
  ∃ identity ∈ w.names path, ∃ inode ∈ w.inodes identity,
    inode.isFile = true ∧ inode.record = some record

/-- The rows say that a job saved one archive, the one that a manifest describes. -/
structure InitialSaveRows.Saved (jobId archivePath : String) (manifest : DvdInitialManifest)
    (rows : InitialSaveRows) : Prop where
  job : ∃ job ∈ rows.findJob jobId, job.status = .completed ∧
    job.originalDiscArchiveId = some manifest.originalDiscArchiveId
  request : ∃ request ∈ rows.findRequest rows.job.archiveRequestId, request.status = .fulfilled
  header : ∃ header ∈ rows.findHeader manifest.originalDiscArchiveId,
    header.sourceArchiveJobId = jobId ∧ header.currentManifestId = manifest.id ∧
    header.currentManifestRevision = 1 ∧ header.currentManifestDigest = manifest.manifestDigest
  archive : ∃ archive : PublishedArchive, archive.archivePath = archivePath ∧
    rows.archives.filter (·.id = manifest.originalDiscArchiveId) = [archive]
  recovery : manifest.originalDiscArchiveId ∈ rows.recoveries

/-- The archive of an intent is published: its image under its final name, its records, its rows. -/
structure SaveStore.Published (jobId archivePath : String) (intent : PublicationIntent)
    (w : SaveStore) : Prop where
  intentRecord : w.RecordAt .intent (.intent intent)
  manifestRecord : w.RecordAt .manifest (.manifest intent.manifest)
  pointerRecord : w.RecordAt .pointer (.checkpoint (checkpointFor intent.manifest))
  image : w.ImageAt (.image archivePath) intent.manifest
  saved : w.rows.Saved jobId archivePath intent.manifest

/-- The link to a staged image is gone, and the archive of its intent is published. -/
def SaveStore.Unlinked (jobId archivePath stagingPath : String) (identity : FilesystemIdentity)
    (w : SaveStore) : Prop :=
  w.names (.image stagingPath) = none ∧
    ∃ intent : PublicationIntent, intent.stagingPath = stagingPath ∧
      intent.manifest.image.filesystemIdentity = identity ∧ w.Published jobId archivePath intent

def InitialSaveRows.withToken (rows : InitialSaveRows) (claimToken : Option String) :
    InitialSaveRows :=
  { rows with job := { rows.job with claimToken } }

/-- How a publication may change what is stored: what exists is neither overwritten nor unlinked,
but for the link to the image of a published archive; no image appears, but for the archive; and
the rows are saved once, when all the files are there. -/
structure Kept (jobId archivePath : String) (v w : SaveStore) : Prop where
  inodes : ∀ identity inode, v.inodes identity = some inode → w.inodes identity = some inode
  names : ∀ path identity, v.names path = some identity → w.names path = some identity ∨
    ∃ stagingPath, path = .image stagingPath ∧ w.Unlinked jobId archivePath stagingPath identity
  images : ∀ path, path ≠ archivePath → v.names (.image path) = none → w.names (.image path) = none
  rows : (∃ token, w.rows = v.rows.withToken token) ∨
    v.rows.jobCompleted jobId = false ∧ (∃ intent, w.Published jobId archivePath intent) ∧
    ∃ claim manifest before timestamp fresh, claim.id = jobId ∧
      (∃ token, before = v.rows.withToken token) ∧
      w.rows = savedRows claim archivePath manifest before timestamp fresh

theorem InitialSaveRows.mem_findJob {rows : InitialSaveRows} {job : InitialSaveJob} :
    job ∈ rows.findJob jobId ↔ rows.job.id = jobId ∧ job = rows.job := by
  rw [findJob]
  by_cases h : rows.job.id = jobId
  · rw [if_pos h]
    exact ⟨fun hj => ⟨h, (Option.some.inj hj).symm⟩, fun hj => congrArg some hj.2.symm⟩
  · rw [if_neg h]
    exact ⟨nofun, fun hj => absurd hj.1 h⟩

theorem InitialSaveRows.jobCompleted_iff {rows : InitialSaveRows} :
    rows.jobCompleted jobId = true ↔ rows.job.id = jobId ∧ rows.job.status = .completed := by
  rw [jobCompleted, findJob]
  by_cases h : rows.job.id = jobId
  · rw [if_pos h, Option.any_some, decide_eq_true_iff]
    exact ⟨fun hs => ⟨h, hs⟩, And.right⟩
  · rw [if_neg h]
    exact ⟨nofun, fun hs => absurd hs.1 h⟩

theorem InitialSaveRows.jobCompleted_withToken (rows : InitialSaveRows) :
    (rows.withToken token).jobCompleted jobId = rows.jobCompleted jobId := by
  rw [Bool.eq_iff_iff, jobCompleted_iff, jobCompleted_iff]
  exact Iff.rfl

variable {jobId archivePath : String} {u v w : SaveStore}

theorem SaveStore.RecordAt.kept (h : v.RecordAt path record) (hk : Kept jobId archivePath v w)
    (hp : ∀ image, path ≠ .image image) : w.RecordAt path record := by
  obtain ⟨identity, hn, inode, hi, hr⟩ := h
  rcases hk.names path identity hn with hw | ⟨stagingPath, he, _⟩
  · exact ⟨identity, hw, inode, hk.inodes identity inode hi, hr⟩
  · exact absurd he (hp stagingPath)

theorem InitialSaveRows.Saved.completed {rows : InitialSaveRows}
    (h : rows.Saved jobId archivePath manifest) : rows.jobCompleted jobId = true := by
  obtain ⟨job, hj, hs, _⟩ := h.job
  obtain ⟨hid, rfl⟩ := mem_findJob.1 hj
  exact jobCompleted_iff.2 ⟨hid, hs⟩

theorem InitialSaveRows.Saved.withToken {rows : InitialSaveRows}
    (h : rows.Saved jobId archivePath manifest) (token : Option String) :
    (rows.withToken token).Saved jobId archivePath manifest where
  job := by
    obtain ⟨job, hj, hs⟩ := h.job
    obtain ⟨hid, rfl⟩ := mem_findJob.1 hj
    exact ⟨_, mem_findJob.2 ⟨hid, rfl⟩, hs⟩
  request := h.request
  header := h.header
  archive := h.archive
  recovery := h.recovery

/-- Rows that are saved stay saved. -/
theorem InitialSaveRows.Saved.kept (h : v.rows.Saved jobId archivePath manifest)
    (hk : Kept jobId archivePath v w) : w.rows.Saved jobId archivePath manifest := by
  rcases hk.rows with ⟨token, hw⟩ | ⟨hv, _⟩
  · rw [hw]
    exact h.withToken token
  · exact nomatch h.completed.symm.trans hv

theorem SaveStore.Published.kept (h : v.Published jobId archivePath intent)
    (hk : Kept jobId archivePath v w) : w.Published jobId archivePath intent := by
  obtain ⟨hname, inode, hi, hf⟩ := h.image
  refine ⟨h.intentRecord.kept hk nofun, h.manifestRecord.kept hk nofun,
    h.pointerRecord.kept hk nofun, ?_, h.saved.kept hk⟩
  rcases hk.names _ _ hname with hw | ⟨stagingPath, he, hnone, other, _, _, hp⟩
  · exact ⟨hw, inode, hk.inodes _ _ hi, hf⟩
  · cases he
    exact nomatch hnone.symm.trans hp.image.1

theorem SaveStore.Unlinked.kept (h : v.Unlinked jobId archivePath stagingPath identity)
    (hk : Kept jobId archivePath v w) : w.Unlinked jobId archivePath stagingPath identity := by
  obtain ⟨hnone, intent, hs, hi, hp⟩ := h
  refine ⟨hk.images stagingPath (fun he => ?_) hnone, intent, hs, hi, hp.kept hk⟩
  rw [he] at hnone
  exact nomatch hnone.symm.trans hp.image.1

theorem Kept.refl (w : SaveStore) : Kept jobId archivePath w w where
  inodes := fun _ _ h => h
  names := fun _ _ h => .inl h
  images := fun _ _ h => h
  rows := .inl ⟨w.rows.job.claimToken, rfl⟩

theorem Kept.trans (h : Kept jobId archivePath u v) (h' : Kept jobId archivePath v w) :
    Kept jobId archivePath u w where
  inodes := fun identity inode hi => h'.inodes identity inode (h.inodes identity inode hi)
  names := by
    intro path identity hn
    rcases h.names path identity hn with hv | ⟨stagingPath, he, hu⟩
    · exact h'.names path identity hv
    · exact .inr ⟨stagingPath, he, hu.kept h'⟩
  images := fun path hp hn => h'.images path hp (h.images path hp hn)
  rows := by
    rcases h.rows with ⟨token, hv⟩ | ⟨hu, ⟨intent, hp⟩, claim, manifest, before, timestamp, fresh,
      hid, ⟨token, hb⟩, hv⟩
    · rcases h'.rows with ⟨token', hw⟩ | ⟨hc, hp, claim, manifest, before, timestamp, fresh, hid,
        ⟨token', hb⟩, hw⟩
      · left
        exact ⟨token', hw.trans (congrArg (·.withToken token') hv)⟩
      · right
        rw [hv, InitialSaveRows.jobCompleted_withToken] at hc
        rw [hv] at hb
        exact ⟨hc, hp, claim, manifest, before, timestamp, fresh, hid, ⟨token', hb⟩, hw⟩
    · rcases h'.rows with ⟨token', hw⟩ | ⟨hc, _⟩
      · right
        refine ⟨hu, ⟨intent, hp.kept h'⟩, claim, manifest, before.withToken token',
          timestamp, fresh,
          hid, ⟨token', congrArg (·.withToken token') hb⟩, ?_⟩
        rw [hw, hv]
        rfl
      · exact nomatch hp.saved.completed.symm.trans hc

/-- No point of a save is one where it is cut short. -/
def SaveOptions.Undisturbed (o : SaveOptions) : Prop := ∀ n, o.interrupt n = false

/-- A program that only looks at what is stored. It passes when it found `learned`, and it does pass
when it finds `sure` and nothing disturbs it. -/
def Looks (o : SaveOptions) (sure learned : SaveStore → Prop) (p : SaveProgram Unit) : Prop :=
  ∀ s, p.Safe Eq (fun t => t.toSaveStore = s.toSaveStore) (fun r t =>
    t.toSaveStore = s.toSaveStore ∧ (r = .ok () → learned s.toSaveStore) ∧
    (sure s.toSaveStore → o.Undisturbed → r = .ok ())) s

variable {o : SaveOptions}

theorem Looks.weaken {sure learned sure' learned' : SaveStore → Prop} {p : SaveProgram Unit}
    (h : Looks o sure learned p) (hs : ∀ w, sure' w → sure w) (hl : ∀ w, learned w → learned' w) :
    Looks o sure' learned' p := by
  intro s
  exact (h s).weaken (fun _ h => h) fun r t hr =>
    ⟨hr.1, fun hok => hl _ (hr.2.1 hok), fun hsure => hr.2.2 (hs _ hsure)⟩

theorem Looks.seq {sure learned sure' learned' : SaveStore → Prop} {p q : SaveProgram Unit}
    (hp : Looks o sure learned p) (hq : Looks o sure' learned' q) :
    Looks o (fun w => sure w ∧ sure' w) (fun w => learned w ∧ learned' w) (p >>= fun _ => q) := by
  intro s
  refine Program.Safe.seq (hp s) (fun _ t ht hl => ?_) fun e t he =>
    ⟨he.1, nofun, fun hs hu => (nomatch he.2.2 hs.1 hu)⟩
  refine (hq t).weaken (fun _ h => h.trans ht) fun r t' hr => ?_
  rw [ht] at hr
  exact ⟨hr.1, fun hok => ⟨hl.2.1 rfl, hr.2.1 hok⟩, fun hs => hr.2.2 hs.2⟩

/-- A program goes on where another has looked. -/
theorem Looks.bind {sure learned : SaveStore → Prop} {p : SaveProgram Unit}
    {f : Unit → SaveProgram α} {I : SaveStore → Prop}
      {Q : Except InitialSaveError α → SaveWorld → Prop}
    (hp : Looks o sure learned p) (hI : I s.toSaveStore)
    (ok : learned s.toSaveStore → ∀ t, t.toSaveStore = s.toSaveStore →
      (f ()).Safe Eq (fun t => I t.toSaveStore) Q t)
    (error : ¬(sure s.toSaveStore ∧ o.Undisturbed) → ∀ e t, t.toSaveStore = s.toSaveStore →
      Q (.error e) t) :
    (p >>= f).Safe Eq (fun t => I t.toSaveStore) Q s := by
  refine Program.Safe.seq (((hp s).with_run).weaken (fun t ht => ?_) fun r t hr => hr.1)
    (fun _ t _ hl => ok (hl.2.1 rfl) t hl.1) fun e t he => ?_
  · rw [ht]
    exact hI
  · exact error (fun hs => nomatch he.2.2 hs.1 hs.2) e t he.1

theorem Looks.check (bad : Prop) [Decidable bad] (e : InitialSaveError) :
    Looks o (fun _ => ¬bad) (fun _ => ¬bad) (.done (rejectIf bad e)) :=
  fun _ => .finish rfl ⟨rfl, fun h => rejectIf_ok.1 h, fun h _ => rejectIf_ok.2 h⟩

theorem Looks.look {f : SaveStore → Except InitialSaveError Unit} :
    Looks o (fun w => f w = .ok ()) (fun w => f w = .ok ()) (look f) :=
  fun _ => .read_only rfl ⟨rfl, fun h => h, fun h _ => h⟩

theorem throwIfAborted_looks : Looks o (fun _ => True) (fun _ => True) (throwIfAborted o) := by
  intro s
  refine .transaction_only rfl (fun _ t h => ?_) fun e h => ?_
  · by_cases hi : o.interrupt s.clock = true
    · simp only [hi, if_true] at h
      exact nomatch h
    · simp only [hi] at h
      cases h
      exact ⟨rfl, rfl, fun _ => trivial, fun _ _ => rfl⟩
  · by_cases hi : o.interrupt s.clock = true
    · exact ⟨rfl, nofun, fun _ hu => nomatch (hu s.clock).symm.trans hi⟩
    · simp only [hi] at h
      exact nomatch h

theorem authorizeMutation_looks :
    Looks o (fun w => w.rows.jobCompleted o.claim.id = true) (fun _ => True)
      (authorizeMutation o) := by
  apply Looks.weaken (throwIfAborted_looks.seq
    (throwIfAborted_looks.seq (?_ : Looks o _ (fun _ => True) _)))
    (fun _ h => ⟨trivial, trivial, h⟩) fun _ _ => trivial
  intro s
  refine .read_bind rfl (fun completed h => ?_) fun e h => ?_
  · obtain ⟨_, _, hc⟩ := bind_ok.1 h
    cases pure_ok.1 hc
    cases hj : s.rows.jobCompleted o.claim.id with
    | true => exact .finish rfl ⟨rfl, fun _ => trivial, fun _ _ => rfl⟩
    | false =>
      refine (throwIfAborted_looks s).weaken (fun _ h => h) fun _ _ hr =>
        ⟨hr.1, hr.2.1, fun hs => ?_⟩
      cases hj.symm.trans hs
  · refine ⟨rfl, by simp, fun hs => ?_⟩
    have hn : ¬(¬s.rows.jobCompleted o.claim.id = true ∧ ¬o.claim.Holds o s) := fun hn => hn.1 hs
    simp only [rejectIf, if_neg hn] at h
    cases h

theorem authorize_looks :
    Looks o (fun w => w.rows.jobCompleted o.claim.id = true) (fun _ => True) (authorize o) :=
  (throwIfAborted_looks.seq (authorizeMutation_looks.seq throwIfAborted_looks)).weaken
    (fun _ h => ⟨trivial, h, trivial⟩) fun _ _ => trivial

theorem synchronize_looks : Looks o (fun _ => True) (fun _ => True) synchronize :=
  fun _ => .modify_only rfl rfl ⟨rfl, fun _ => trivial, fun _ _ => rfl⟩

theorem verifyImage_looks :
    Looks o (·.ImageAt path manifest) (·.ImageAt path manifest) (verifyImage path manifest) :=
  Looks.look.weaken (fun _ h => rejectIf_ok.2 (not_not.2 h)) fun _ h => not_not.1 (rejectIf_ok.1 h)

theorem verifyImageSynchronized_looks :
    Looks o (·.ImageAt path manifest) (·.ImageAt path manifest)
      (verifyImageSynchronized path manifest) :=
  (verifyImage_looks.seq (synchronize_looks.seq verifyImage_looks)).weaken
    (fun _ h => ⟨h, trivial, h⟩) fun _ h => h.1

theorem verifyRecord_looks :
    Looks o (·.RecordAt path record) (·.RecordAt path record) (verifyRecord path record code) := by
  refine Looks.look.weaken (fun w h => ?_) fun w h => ?_
  · rw [readRecord_some.2 h]
    exact rejectIf_ok.2 (not_not.2 rfl)
  · obtain ⟨current, hc, hr⟩ := bind_ok.1 h
    rw [not_not.1 (rejectIf_ok.1 hr)] at hc
    exact readRecord_some.1 hc

/-- The records of an intent can be read. -/
def SaveStore.EvidenceAt (w : SaveStore) (intent : PublicationIntent) : Prop :=
  w.RecordAt .intent (.intent intent) ∧ w.RecordAt .manifest (.manifest intent.manifest)

theorem verifyEvidence_looks :
    Looks o (·.EvidenceAt intent) (·.EvidenceAt intent) (verifyEvidence intent) :=
  verifyRecord_looks.seq verifyRecord_looks

theorem verifyCheckpoint_looks :
    Looks o (·.RecordAt .pointer (.checkpoint (checkpointFor intent.manifest)))
      (·.RecordAt .pointer (.checkpoint (checkpointFor intent.manifest)))
      (verifyCheckpoint intent) :=
  verifyRecord_looks

/-- The files of a publication are all there. -/
def SaveStore.FilesAt (w : SaveStore) (archivePath : String) (intent : PublicationIntent) : Prop :=
  w.EvidenceAt intent ∧ w.RecordAt .pointer (.checkpoint (checkpointFor intent.manifest)) ∧
    w.ImageAt (.image archivePath) intent.manifest

theorem verifyPublication_looks :
    Looks o (·.FilesAt o.archivePath intent) (·.FilesAt o.archivePath intent)
      (verifyPublication o intent) :=
  verifyEvidence_looks.seq (verifyCheckpoint_looks.seq verifyImage_looks)

/-- A program changes what is stored as a publication may, and returns only with `Q`. -/
def Publishes (jobId archivePath : String) (Q : α → SaveStore → Prop) (p : SaveProgram α)
    (s : SaveWorld) : Prop :=
  p.Safe Eq (fun t => Kept jobId archivePath s.toSaveStore t.toSaveStore)
    (fun r t => ∀ a, r = .ok a → Q a t.toSaveStore) s

section Publishes

variable {s : SaveWorld} {M : α → SaveStore → Prop} {p : SaveProgram α}

theorem Publishes.weaken {Q : α → SaveStore → Prop} (h : Publishes jobId archivePath M p s)
    (hQ : ∀ a w, M a w → Q a w) : Publishes jobId archivePath Q p s :=
  Program.Safe.weaken h (fun _ h => h) fun _ _ hM a ha => hQ a _ (hM a ha)

theorem Publishes.bind {f : α → SaveProgram β} {Q : β → SaveStore → Prop}
    (h : Publishes jobId archivePath M p s)
    (ok : ∀ a t, M a t.toSaveStore → Publishes jobId archivePath Q (f a) t) :
    Publishes jobId archivePath Q (p >>= f) s := by
  refine Program.Safe.seq h (fun a t hk hM => ?_) fun e t _ => nofun
  exact Program.Safe.weaken (ok a t (hM a rfl)) (fun _ ht => hk.trans ht) fun _ _ hQ => hQ

theorem Publishes.with_kept (h : Publishes jobId archivePath M p s) :
    Publishes jobId archivePath (fun a w => M a w ∧ Kept jobId archivePath s.toSaveStore w) p s :=
  Program.Safe.weaken (Program.Safe.with_now h) (fun _ h => h) fun _ _ hM a ha => ⟨hM.1 a ha, hM.2⟩

theorem Publishes.done {r : Except InitialSaveError α} :
    Publishes jobId archivePath (fun a w => w = s.toSaveStore ∧ r = .ok a) (.done r) s :=
  .finish (.refl _) fun _ h => ⟨rfl, h⟩

theorem Publishes.look {f : SaveStore → Except InitialSaveError α} :
    Publishes jobId archivePath (fun a w => w = s.toSaveStore ∧ f w = .ok a) (look f) s :=
  .read_only (.refl _) fun _ h => ⟨rfl, h⟩

theorem Publishes.read {f : SaveWorld → Except InitialSaveError α} :
    Publishes jobId archivePath (fun a w => w = s.toSaveStore ∧ f s = .ok a) (.read f) s :=
  .read_only (.refl _) fun _ h => ⟨rfl, h⟩

theorem Looks.publishes {sure learned : SaveStore → Prop} {p : SaveProgram Unit}
    (h : Looks o sure learned p) :
    Publishes jobId archivePath (fun _ w => w = s.toSaveStore ∧ learned w) p s := by
  refine ((h s).with_run).weaken (fun t ht => ?_) fun r t hr a ha => ?_
  · rw [ht]
    exact .refl _
  · rw [hr.1.1]
    exact ⟨rfl, hr.1.2.1 ha⟩

end Publishes

/-- A store that has more files and names than another, but no other images. -/
structure Added (v w : SaveStore) : Prop where
  inodes : ∀ identity inode, v.inodes identity = some inode → w.inodes identity = some inode
  names : ∀ path identity, v.names path = some identity → w.names path = some identity
  images : ∀ image, w.names (.image image) = v.names (.image image)
  rows : w.rows = v.rows

theorem Added.refl (w : SaveStore) : Added w w :=
  ⟨fun _ _ h => h, fun _ _ h => h, fun _ => rfl, rfl⟩

theorem Added.kept (h : Added v w) : Kept jobId archivePath v w where
  inodes := h.inodes
  names := fun path identity hn => .inl (h.names path identity hn)
  images := fun path _ hn => (h.images path).trans hn
  rows := .inl ⟨v.rows.job.claimToken, h.rows⟩

theorem Added.setName (h : Added v w) (hv : v.names path = none)
    (hp : ∀ image, path ≠ .image image) : Added v (w.setName path identity) where
  inodes := h.inodes
  names := by
    intro p i hn
    refine (if_neg fun he => ?_).trans (h.names p i hn)
    rw [he] at hn
    exact nomatch hv.symm.trans hn
  images := fun image => (if_neg fun he => hp image he.symm).trans (h.images image)
  rows := h.rows

theorem Added.setInode (h : Added v w) (hv : v.inodes identity = none) :
    Added v (w.setInode identity inode) where
  inodes := by
    intro i f hi
    refine (if_neg fun he => ?_).trans (h.inodes i f hi)
    rw [he] at hi
    exact nomatch hv.symm.trans hi
  names := h.names
  images := h.images
  rows := h.rows

theorem Added.free (h : Added v w) (hw : w.names path = none) : v.names path = none := by
  cases hv : v.names path with
  | none => rfl
  | some identity => exact nomatch hw.symm.trans (h.names path identity hv)

/-- The names of records. -/
def PublicationPath.IsRecord (path : PublicationPath) : Prop :=
  path = .intent ∨ path = .manifest ∨ path = .pointer

theorem PublicationPath.IsRecord.not_image {path : PublicationPath} (h : path.IsRecord)
    (image : String) : path ≠ .image image := by
  rcases h with rfl | rfl | rfl <;> exact nofun

theorem createTemporary_added (s : SaveWorld) :
    (createTemporary o).Safe Eq (fun t => Added s.toSaveStore t.toSaveStore)
      (fun r _ => ∀ path identity, r = .ok (path, identity) →
        (∀ image, path ≠ .image image) ∧ s.names path = none ∧ s.inodes identity = none) s := by
  refine .transaction_only (.refl _) (fun _ _ h => ?_) fun _ _ => nofun
  by_cases hf : (s.names (.temporary (o.newFile s.clock).1)).isSome ∨
      (s.inodes (o.newFile s.clock).2).isSome
  · simp only [if_pos hf] at h
    exact nomatch h
  · simp only [if_neg hf] at h
    cases h
    obtain ⟨hn, hi⟩ := not_or.1 hf
    simp only [Option.not_isSome_iff_eq_none] at hn hi
    refine ⟨((Added.refl _).setName hn nofun).setInode hi, fun path identity h => ?_⟩
    cases h
    exact ⟨nofun, hn, hi⟩

theorem change_safe {I : SaveStore → Prop} {f : SaveStore → SaveStore} (h : I s.toSaveStore)
    (hf : I (f s.toSaveStore)) :
    (change f).Safe Eq (fun t => I t.toSaveStore) (fun _ _ => True) s :=
  .modify_only h hf trivial

theorem synchronize_safe {I : SaveStore → Prop} (h : I s.toSaveStore) :
    synchronize.Safe Eq (fun t => I t.toSaveStore) (fun _ _ => True) s :=
  .modify_only h h trivial

theorem linkFile_added (hp : path.IsRecord) (h : Added v s.toSaveStore) :
    (linkFile temporary path).Safe Eq (fun t => Added v t.toSaveStore) (fun _ _ => True) s := by
  refine .transaction_only h (fun _ t ht => ⟨?_, trivial⟩) fun _ _ => trivial
  cases hn : s.names temporary with
  | none =>
    simp only [hn] at ht
    exact nomatch ht
  | some identity =>
    simp only [hn] at ht
    cases hpath : s.names path with
    | some =>
      simp only [hpath, Option.isSome_some, if_true] at ht
      cases ht
      exact h
    | none =>
      simp only [hpath, Option.isSome_none] at ht
      cases ht
      exact h.setName (h.free hpath) hp.not_image

/-- Installing a record keeps what was there before. -/
theorem installRecord_added (hp : path.IsRecord) (s : SaveWorld) :
    (installRecord o path value code).Safe Eq (fun t => Added s.toSaveStore t.toSaveStore)
      (fun _ _ => True) s := by
  refine .read_bind (.refl _) (fun found _ => ?_) fun _ _ => trivial
  cases found with
  | some existing =>
    apply Looks.bind (Looks.check (o := o) _ _) (.refl _) _ fun _ _ _ _ => trivial
    intro _ t ht
    apply Program.Safe.seq (synchronize_safe (ht ▸ .refl _)) _ fun _ _ _ => trivial
    exact fun _ t' ht' _ => synchronize_safe ht'
  | none =>
    apply Program.Safe.seq (createTemporary_added s) _ fun _ _ _ => trivial
    intro created t ht hfresh
    obtain ⟨temporary, identity⟩ := created
    obtain ⟨himage, hname, hinode⟩ := hfresh temporary identity rfl
    apply Program.Safe.seq (change_safe ht (ht.setInode hinode)) _ fun _ _ _ => trivial
    intro _ t₀ ht₀ _
    apply Program.Safe.seq (synchronize_safe ht₀) _ fun _ _ _ => trivial
    intro _ t₁ ht₁ _
    apply Program.Safe.ensure (M := fun _ _ => True)
    · apply Program.Safe.seq (linkFile_added hp ht₁) _ fun _ _ _ => trivial
      intro linked t₂ ht₂ _
      cases linked with
      | true => exact synchronize_safe ht₂
      | false =>
        refine .read_bind ht₂ (fun existing _ => ?_) fun _ _ => trivial
        apply Looks.bind (Looks.check (o := o) _ _) ht₂ _ fun _ _ _ _ => trivial
        intro _ t₃ ht₃
        exact synchronize_safe (ht₃ ▸ ht₂)
    · intro _ t₂ ht₂ _
      apply Program.Safe.seq (change_safe ht₂ (ht₂.setName hname himage)) _ fun _ _ _ => trivial
      intro _ t₃ ht₃ _
      refine (synchronize_safe ht₃).weaken (fun _ h => h) fun r _ _ => ?_
      cases r <;> trivial

theorem installRecord_publishes (hp : path.IsRecord) (s : SaveWorld) :
    Publishes jobId archivePath (fun _ _ => True) (installRecord o path value code) s :=
  (installRecord_added hp s).weaken (fun _ h => h.kept) fun _ _ _ _ _ => trivial

end RipDvd
