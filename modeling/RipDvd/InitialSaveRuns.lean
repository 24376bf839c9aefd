import RipDvd.InitialSaveSafety

namespace RipDvd
set_option autoImplicit true

variable {jobId archivePath : String} {o : SaveOptions} {s : SaveWorld}

/-- A program that changes what is stored as a publication may, wherever it begins. -/
def Steady (jobId archivePath : String) (p : SaveProgram α) : Prop :=
  ∀ s, Publishes jobId archivePath (fun _ _ => True) p s

theorem Steady.bind {p : SaveProgram α} {f : α → SaveProgram β} (hp : Steady jobId archivePath p)
    (hf : ∀ a, Steady jobId archivePath (f a)) : Steady jobId archivePath (p >>= f) :=
  fun s => (hp s).bind fun a t _ => hf a t

theorem Steady.done {r : Except InitialSaveError α} : Steady jobId archivePath (.done r) :=
  fun _ => Publishes.done.weaken fun _ _ _ => trivial

theorem Steady.look {f : SaveStore → Except InitialSaveError α} :
    Steady jobId archivePath (look f) :=
  fun _ => Publishes.look.weaken fun _ _ _ => trivial

theorem Looks.steady (o : SaveOptions) {sure learned : SaveStore → Prop} {p : SaveProgram Unit}
    (h : Looks o sure learned p) : Steady jobId archivePath p :=
  fun _ => h.publishes.weaken fun _ _ _ => trivial

theorem installRecord_steady (hp : path.IsRecord) :
    Steady jobId archivePath (installRecord o path value code) :=
  installRecord_publishes hp

theorem publicationStep_steady {work : SaveProgram Unit} (h : Steady jobId archivePath work) :
    Steady jobId archivePath (publicationStep o work) :=
  .bind (authorize_looks.steady o) fun _ => .bind (throwIfAborted_looks.steady o) fun _ =>
    .bind (authorize_looks.steady o) fun _ => .bind h fun _ =>
    .bind (throwIfAborted_looks.steady o) fun _ => authorize_looks.steady o

/-- The final link is made only where there is none. -/
theorem linkFile_steady : Steady jobId archivePath (linkFile staging (.image archivePath)) := by
  intro s
  refine .transaction_only (.refl _) (fun _ t ht => ⟨?_, fun _ _ => trivial⟩)
    fun _ _ _ _ => trivial
  cases hn : s.names staging with
  | none =>
    simp only [hn] at ht
    exact nomatch ht
  | some identity =>
    simp only [hn] at ht
    cases harchive : s.names (.image archivePath) with
    | some =>
      simp only [harchive, Option.isSome_some, if_true] at ht
      cases ht
      exact .refl _
    | none =>
      simp only [harchive, Option.isSome_none] at ht
      cases ht
      refine ⟨fun _ _ h => h, fun p i hp => .inl ((if_neg fun he => ?_).trans hp),
        fun p hp hnone => (if_neg fun he => ?_).trans hnone, .inl ⟨_, rfl⟩⟩
      · rw [he] at hp
        exact nomatch harchive.symm.trans hp
      · cases he
        exact hp rfl

theorem completePublication_steady :
    Steady jobId o.archivePath (completePublication o projection intent) := by
  refine .bind .look fun pointer => .bind .done fun _ => .bind .look fun savedManifest =>
    .bind .done fun _ => .bind .done fun _ => .bind .look fun published => .bind .done fun _ => ?_
  refine .bind (publicationStep_steady (verifyImageSynchronized_looks.steady o)) fun _ => ?_
  refine .bind (publicationStep_steady (installRecord_steady (.inr (.inl rfl)))) fun _ => ?_
  have hlinked : Steady jobId o.archivePath (do
      verifyImageSynchronized (.image o.archivePath) intent.manifest
      synchronize
      verifyImage (.image o.archivePath) intent.manifest) :=
    .bind (verifyImageSynchronized_looks.steady o) fun _ =>
      .bind (synchronize_looks.steady o) fun _ => verifyImage_looks.steady o
  refine .bind (publicationStep_steady ?_) fun _ => .bind (publicationStep_steady ?_) fun _ =>
    .bind (verifyEvidence_looks.steady o) fun _ => .bind (verifyCheckpoint_looks.steady o) fun _ =>
    verifyImage_looks.steady o
  · cases published with
    | true => exact hlinked
    | false =>
      exact .bind (verifyImage_looks.steady o) fun _ => .bind (authorize_looks.steady o) fun _ =>
        .bind linkFile_steady fun _ => hlinked
  · exact .bind (verifyImage_looks.steady o) fun _ => .bind (verifyEvidence_looks.steady o) fun _ =>
      .bind (authorize_looks.steady o) fun _ => installRecord_steady (.inr (.inr rfl))

/-! ## The save of the rows and the cleanup -/

/-- Where keys are distinct, the first row of a key is its only row. -/
theorem filter_eq_singleton [DecidableEq κ] {f : α → κ} {l : List α} (h : (l.map f).Nodup)
    (hx : l.find? (fun a => f a = k) = some x) : l.filter (fun a => f a = k) = [x] := by
  induction l with
  | nil => exact nomatch hx
  | cons a l ih =>
    obtain ⟨ha, hl⟩ := List.nodup_cons.1 h
    by_cases hk : f a = k
    · rw [List.find?_cons_of_pos (by simpa using hk)] at hx
      cases hx
      rw [List.filter_cons_of_pos (by simpa using hk), List.filter_eq_nil_iff.2]
      intro b hb hbk
      exact ha (List.mem_map.2 ⟨b, hb, (of_decide_eq_true hbk).trans hk.symm⟩)
    · rw [List.find?_cons_of_neg (by simpa using hk)] at hx
      rw [List.filter_cons_of_neg (by simpa using hk)]
      exact ih hl hx

theorem requireCompletedSave_ok {rows : InitialSaveRows}
    (h : requireCompletedSave claim archivePath manifest rows = .ok ())
    (hc : rows.jobCompleted claim.id = true) : rows.Saved claim.id archivePath manifest := by
  obtain ⟨hid, hs⟩ := InitialSaveRows.jobCompleted_iff.1 hc
  have hn := rejectIf_ok.1 h
  simp only [not_or, not_not] at hn
  obtain ⟨harchive, hheader, ⟨archive, hfound, hpath⟩, hrequest, hrecovery⟩ := hn
  refine ⟨⟨_, InitialSaveRows.mem_findJob.2 ⟨hid, rfl⟩, hs, harchive⟩, hrequest, hheader,
    ⟨archive, hpath, filter_eq_singleton rows.archiveKeys hfound⟩, hrecovery⟩

theorem savedRows_saved {rows : InitialSaveRows} {claim : InitialSaveClaim}
    (hid : rows.job.id = claim.id) (hr : rows.request.id = rows.job.archiveRequestId)
    (hh : ¬∃ header ∈ rows.headers,
      header.originalDiscArchiveId = manifest.originalDiscArchiveId)
    (fresh : ¬∃ archive ∈ rows.archives, archive.id = manifest.originalDiscArchiveId) :
    (savedRows claim archivePath manifest rows timestamp fresh).Saved claim.id archivePath
      manifest where
  job := ⟨_, InitialSaveRows.mem_findJob.2 ⟨hid, rfl⟩, rfl, rfl⟩
  request := ⟨_, if_pos hr, rfl⟩
  header := by
    refine ⟨headerOf claim manifest timestamp, ?_, rfl, rfl, rfl, rfl⟩
    refine List.find?_append.trans ?_
    rw [List.find?_eq_none.2 fun header hheader he => hh ⟨header, hheader, of_decide_eq_true he⟩]
    simp [headerOf]
  archive := by
    refine ⟨archiveOf archivePath manifest rows timestamp, rfl, ?_⟩
    refine (List.filter_append _ _).trans ?_
    rw [List.filter_eq_nil_iff.2 fun archive harchive he =>
      fresh ⟨archive, harchive, of_decide_eq_true he⟩]
    simp [archiveOf]
  recovery := List.mem_append_right _ (List.mem_singleton.2 rfl)

theorem publishDvdInitial_ok {rows rows' : InitialSaveRows}
    (h : publishDvdInitial sha256 claim archivePath manifest expired timestamp rows = .ok rows') :
    requireInitialProvenance sha256 claim manifest = .ok () ∧
      rows'.Saved claim.id archivePath manifest ∧ (rows' = rows ∨
        rows.jobCompleted claim.id = false ∧
        ∃ fresh, rows' = savedRows claim archivePath manifest rows timestamp fresh) := by
  obtain ⟨_, hprovenance, h⟩ := bind_ok.1 h
  refine ⟨hprovenance, ?_⟩
  cases hc : rows.jobCompleted claim.id with
  | true =>
    rw [if_pos hc] at h
    obtain ⟨_, hsaved, h⟩ := bind_ok.1 h
    cases pure_ok.1 h
    exact ⟨requireCompletedSave_ok hsaved hc, .inl rfl⟩
  | false =>
    rw [if_neg (Bool.eq_false_iff.1 hc)] at h
    obtain ⟨_, _, h⟩ := bind_ok.1 h
    obtain ⟨_, hcurrent, h⟩ := bind_ok.1 h
    obtain ⟨_, _, h⟩ := bind_ok.1 h
    split at h
    · exact nomatch h
    · next fresh =>
      obtain ⟨_, _, h⟩ := bind_ok.1 h
      obtain ⟨_, hheaders, h⟩ := bind_ok.1 h
      obtain ⟨_, _, h⟩ := bind_ok.1 h
      cases pure_ok.1 h
      obtain ⟨_, hjob, _⟩ := bind_ok.1 hcurrent
      have hn := rejectIf_ok.1 hjob
      simp only [not_or, not_not] at hn
      exact ⟨savedRows_saved hn.1 hn.2.2.2.2.1 (rejectIf_ok.1 hheaders) fresh,
        .inr ⟨rfl, fresh, rfl⟩⟩

theorem Looks.keeps (o : SaveOptions) {sure learned P : SaveStore → Prop} {p : SaveProgram Unit}
    (hp : Looks o sure learned p) (h : P s.toSaveStore) :
    Publishes jobId archivePath (fun _ w => P w ∧ learned w) p s :=
  hp.publishes.weaken fun _ _ hw => ⟨hw.1 ▸ h, hw.2⟩

/-- The rows are saved where the files of the publication are. -/
theorem commit_publishes (h : s.FilesAt o.archivePath intent) :
    Publishes o.claim.id o.archivePath (fun _ w => w.Published o.claim.id o.archivePath intent ∧
        requireInitialProvenance sha256 o.claim intent.manifest = .ok ())
      (.transaction fun w => do
        let rows ← publishDvdInitial sha256 o.claim o.archivePath intent.manifest
          (o.expired w.clock) w.clock w.rows
        return ((), { w with rows })) s := by
  refine .transaction_only (.refl _) (fun _ t ht => ?_) fun _ _ _ => nofun
  obtain ⟨rows, hrows, ht⟩ := bind_ok.1 ht
  cases pure_ok.1 ht
  obtain ⟨hprovenance, hsaved, hchange⟩ := publishDvdInitial_ok hrows
  obtain ⟨⟨hintent, hmanifest⟩, hpointer, himage⟩ := h
  have hp : SaveStore.Published o.claim.id o.archivePath intent { s.toSaveStore with rows } :=
    ⟨hintent, hmanifest, hpointer, himage, hsaved⟩
  refine ⟨⟨fun _ _ h => h, fun _ _ h => .inl h, fun _ _ h => h, ?_⟩, fun _ _ => ⟨hp, hprovenance⟩⟩
  rcases hchange with rfl | ⟨hc, fresh, rfl⟩
  · exact .inl ⟨_, rfl⟩
  · exact .inr ⟨hc, ⟨intent, hp⟩, o.claim, intent.manifest, s.rows, s.clock, fresh, rfl,
      ⟨_, rfl⟩, rfl⟩

theorem SaveStore.RecordAt.setName {w : SaveStore} (h : w.RecordAt path record)
    (hp : path.IsRecord) : (w.setName (.image image) identity).RecordAt path record := by
  obtain ⟨i, hi, hr⟩ := h
  exact ⟨i, (if_neg (hp.not_image image)).trans hi, hr⟩

/-- Without the link to its staged image, an archive is still published. -/
theorem SaveStore.Published.unlink {w : SaveStore} (h : w.Published jobId archivePath intent)
    (hne : stagingPath ≠ archivePath) :
    (w.setName (.image stagingPath) none).Published jobId archivePath intent where
  intentRecord := h.intentRecord.setName (.inl rfl)
  manifestRecord := h.manifestRecord.setName (.inr (.inl rfl))
  pointerRecord := h.pointerRecord.setName (.inr (.inr rfl))
  image := ⟨(if_neg fun he => hne (by cases he; rfl)).trans h.image.1, h.image.2⟩
  saved := h.saved

theorem unlinkFile_publishes (h : s.Published jobId archivePath intent)
    (hi : s.ImageAt (.image intent.stagingPath) intent.manifest)
    (hne : intent.stagingPath ≠ archivePath) :
    Publishes jobId archivePath (fun _ w => w.Published jobId archivePath intent ∧
      w.names (.image intent.stagingPath) = none) (unlinkFile (.image intent.stagingPath)) s := by
  have hnone : (s.setName (.image intent.stagingPath) none).names (.image intent.stagingPath) =
      none := if_pos rfl
  have hp := h.unlink hne
  refine .modify_only (.refl _) ⟨fun _ _ h => h, fun path identity hn => ?_,
    fun path _ hn => ?_, .inl ⟨_, rfl⟩⟩ fun _ _ => ⟨hp, hnone⟩
  · by_cases he : path = .image intent.stagingPath
    · subst he
      exact .inr ⟨_, rfl, hnone, intent, rfl, Option.some.inj (hi.1.symm.trans hn), hp⟩
    · exact .inl ((if_neg he).trans hn)
  · by_cases he : PublicationPath.image path = .image intent.stagingPath
    · exact if_pos he
    · exact (if_neg he).trans hn

theorem finalizePublication_publishes (h : s.Published jobId o.archivePath intent)
    (hne : intent.stagingPath ≠ o.archivePath) :
    Publishes jobId o.archivePath (fun _ w => w.Published jobId o.archivePath intent ∧
      w.names (.image intent.stagingPath) = none) (finalizePublication o intent) s := by
  refine .bind (throwIfAborted_looks.keeps o h) fun _ t ht => ?_
  refine .bind (verifyCheckpoint_looks.keeps o ht.1) fun _ t ht => ?_
  refine .bind (verifyEvidence_looks.keeps o ht.1) fun _ t ht => ?_
  refine .bind (verifyImage_looks.keeps o ht.1) fun _ t ht => ?_
  refine .bind Publishes.look fun staged t' hstaged => ?_
  obtain ⟨hsame, hstaged⟩ := hstaged
  have hp : t'.Published jobId o.archivePath intent := by
    rw [hsame]
    exact ht.1
  cases hn : t'.names (.image intent.stagingPath) with
  | none =>
    rw [hn] at hstaged
    cases hstaged
    exact .finish (.refl _) fun _ _ => ⟨hp, hn⟩
  | some identity =>
    rw [hn] at hstaged
    cases hstaged
    refine .bind (verifyImage_looks.keeps o hp) fun _ t ht => ?_
    refine .bind throwIfAborted_looks.publishes fun _ t' hsame => ?_
    rw [← hsame.1] at ht
    refine .bind (unlinkFile_publishes ht.1 ht.2 hne) fun _ t ht => ?_
    exact (synchronize_looks.keeps o ht).weaken fun _ _ h => h.1

theorem commitSave_publishes (hne : intent.stagingPath ≠ o.archivePath) (s : SaveWorld) :
    Publishes o.claim.id o.archivePath
      (fun _ w => (w.Published o.claim.id o.archivePath intent ∧
        w.names (.image intent.stagingPath) = none) ∧
        requireInitialProvenance sha256 o.claim intent.manifest = .ok ())
      (commitSave sha256 o intent) s := by
  refine .bind throwIfAborted_looks.publishes fun _ t _ => ?_
  refine .bind throwIfAborted_looks.publishes fun _ t _ => ?_
  refine .bind Publishes.look fun _ t _ => ?_
  refine .bind authorizeMutation_looks.publishes fun _ t _ => ?_
  refine .bind throwIfAborted_looks.publishes fun _ t _ => ?_
  refine .bind (verifyPublication_looks (o := o)).publishes fun _ t ht => ?_
  refine .bind throwIfAborted_looks.publishes fun _ t₁ ht₁ => ?_
  refine .bind throwIfAborted_looks.publishes fun _ t₂ ht₂ => ?_
  refine .bind (commit_publishes (ht₂.1 ▸ ht₁.1 ▸ ht.2)) fun _ t ht => ?_
  obtain ⟨hp, hprovenance⟩ := ht
  refine .bind (throwIfAborted_looks.keeps o hp) fun _ t ht => ?_
  refine .bind (throwIfAborted_looks.keeps o ht.1) fun _ t ht => ?_
  refine .bind (finalizePublication_publishes ht.1 hne) fun _ t ht => ?_
  exact (throwIfAborted_looks.keeps o ht).weaken fun _ _ h => ⟨h.1, hprovenance⟩

theorem verifyIntent_ok (h : verifyIntent sha256 o imageFingerprint value = .ok intent) :
    value = .intent intent ∧ intent.stagingPath ≠ o.archivePath ∧
      intent.manifest.originalDiscArchiveId = o.originalDiscArchiveId := by
  have h := withError_ok.1 h
  cases value with
  | intent recorded =>
    simp only [bind_ok, pure_ok, rejectIf_ok, not_not, ne_eq] at h
    obtain ⟨_, _, manifest, hmanifest, _, howner, _, hpath, _, hsame, rfl⟩ := h
    cases validateDvdInitialManifest_ok hmanifest
    exact ⟨rfl, hpath, not_not.1 fun hn => howner (.inl hn)⟩
  | manifest => exact nomatch h
  | checkpoint => exact nomatch h
  | other => exact nomatch h

/-- An intent that this publication accepts. -/
def PublicationIntent.Of (sha256 : Hashed → Digest) (o : SaveOptions) (imageFingerprint : String)
    (intent : PublicationIntent) : Prop :=
  verifyIntent sha256 o imageFingerprint (.intent intent) = .ok intent

theorem PublicationIntent.Of.stagingPath_ne {intent : PublicationIntent}
    (h : intent.Of sha256 o imageFingerprint) : intent.stagingPath ≠ o.archivePath :=
  (verifyIntent_ok h).2.1

theorem PublicationIntent.Of.archive {intent : PublicationIntent}
    (h : intent.Of sha256 o imageFingerprint) :
    intent.manifest.originalDiscArchiveId = o.originalDiscArchiveId :=
  (verifyIntent_ok h).2.2

/-- The intent of a manifest that was made for this publication is accepted. -/
theorem PublicationIntent.Of.created {manifest : DvdInitialManifest} {stagingPath : String}
    (h : createDvdInitialManifest sha256 o.originalDiscArchiveId o.claim.id imageFingerprint proven
      samples = .ok manifest) (hpath : stagingPath ≠ o.archivePath) :
    (PublicationIntent.mk "dvd-initial-publication-v1" stagingPath manifest).Of sha256 o
      imageFingerprint := by
  obtain ⟨harchive, hjob, hfingerprint, _⟩ := createDvdInitialManifest_fields h
  apply withError_ok.2
  have howner : ¬(manifest.originalDiscArchiveId ≠ o.originalDiscArchiveId ∨
      manifest.sourceArchiveJobId ≠ o.claim.id ∨ manifest.imageFingerprint ≠ imageFingerprint) :=
    fun hn => hn.elim (· harchive) (·.elim (· hjob) (· hfingerprint))
  simp only [validateDvdInitialManifest_created h, bind_ok, pure_ok, rejectIf_ok]
  exact ⟨(), not_not.2 rfl, manifest, rfl, (), howner, (), hpath, (), not_not.2 rfl, rfl⟩

theorem readIntent_publishes (s : SaveWorld) :
    Publishes jobId archivePath (fun intent w => w.RecordAt .intent (.intent intent) ∧
      intent.Of sha256 o imageFingerprint) (readIntent sha256 o imageFingerprint) s := by
  refine Publishes.look.weaken fun intent w h => ?_
  obtain ⟨value, hvalue, hintent⟩ := bind_ok.1 h.2
  cases value with
  | none => exact nomatch hintent
  | some value =>
    obtain ⟨rfl, _⟩ := verifyIntent_ok hintent
    exact ⟨readRecord_some.1 hvalue, hintent⟩

theorem publishDvdInitialArchive_publishes (s : SaveWorld) :
    Publishes jobId o.archivePath (fun intent _ => intent.Of sha256 o imageFingerprint ∧
        isArchivePathId o.originalDiscArchiveId = true)
      (publishDvdInitialArchive sha256 o projection imageFingerprint stagingPath proven) s := by
  refine .bind authorize_looks.publishes fun _ t _ => .bind .done fun _ t hid => ?_
  refine .bind .done fun _ t hpath => ?_
  refine .bind .done fun baseManifest t _ => .bind authorize_looks.publishes fun _ t _ => ?_
  refine .bind .done fun samples t _ => .bind .done fun manifest t hmanifest => ?_
  refine .bind .look fun foreign t _ => .bind .done fun _ t _ => ?_
  refine .bind .look fun pointer t _ => .bind .done fun _ t _ => ?_
  refine .bind (verifyImage_looks (o := o)).publishes fun _ t _ => ?_
  refine .bind (publicationStep_steady (installRecord_steady (.inl rfl)) t) fun _ t _ => ?_
  refine .bind (completePublication_steady t) fun _ t _ => ?_
  refine .finish (.refl _) fun _ h => ?_
  cases h
  exact ⟨.created hmanifest.2 (rejectIf_ok.1 hpath.2), not_not.1 (rejectIf_ok.1 hid.2)⟩

theorem reconcileDvdInitialArchivePublication_publishes (s : SaveWorld) :
    Publishes jobId o.archivePath (fun intent _ => intent.Of sha256 o imageFingerprint ∧
        isArchivePathId o.originalDiscArchiveId = true)
      (reconcileDvdInitialArchivePublication sha256 o projection imageFingerprint
        expectedStagingPath) s := by
  refine .bind authorize_looks.publishes fun _ t _ => .bind .done fun _ t hid => ?_
  refine .bind (readIntent_publishes t) fun intent t hintent => .bind .done fun _ t _ => ?_
  refine .bind (publicationStep_steady (installRecord_steady (.inl rfl)) t) fun _ t _ => ?_
  refine .bind (completePublication_steady t) fun _ t _ => ?_
  refine .finish (.refl _) fun _ h => ?_
  cases h
  exact ⟨hintent.2, not_not.1 (rejectIf_ok.1 hid.2)⟩

theorem updateDvdInitialClaim_publishes (s : SaveWorld) :
    Publishes jobId archivePath (fun claim _ => ∃ token, claim = { o.claim with
      claimToken := token })
      (updateDvdInitialClaim o reclaims) s := by
  refine .transaction_only (.refl _) (fun claim t h => ?_) fun _ _ _ => nofun
  obtain ⟨_, _, h⟩ := bind_ok.1 h
  cases pure_ok.1 h
  exact ⟨⟨fun _ _ h => h, fun _ _ h => .inl h, fun _ _ h => h, .inl ⟨_, rfl⟩⟩, fun _ h => by
    cases h; exact ⟨_, rfl⟩⟩

/-- Another save of the same publication, whatever it is given on its way. -/
structure SaveOptions.Continues (o other : SaveOptions) : Prop where
  claim : ∃ token, other.claim = { o.claim with claimToken := token }
  library : other.originalsLibraryPath = o.originalsLibraryPath

theorem SaveOptions.Continues.sameJob {other : SaveOptions} (h : o.Continues other) :
    other.claim.id = o.claim.id := by
  obtain ⟨token, he⟩ := h.claim
  rw [he]

theorem SaveOptions.Continues.sameArchive {other : SaveOptions} (h : o.Continues other) :
    other.originalDiscArchiveId = o.originalDiscArchiveId := by
  rw [SaveOptions.originalDiscArchiveId, SaveOptions.originalDiscArchiveId, h.sameJob]

theorem SaveOptions.Continues.samePath {other : SaveOptions} (h : o.Continues other) :
    other.archivePath = o.archivePath := by
  rw [SaveOptions.archivePath, SaveOptions.archivePath, h.library, h.sameArchive]

/-- A task of a claim is one of the same publication. -/
theorem withOwnedClaim_publishes {Q : α → SaveStore → Prop} {task : SaveOptions → SaveProgram α}
    (h : ∀ owned, o.Continues owned → ∀ t, Publishes jobId archivePath Q (task owned) t)
    (s : SaveWorld) :
    Publishes jobId archivePath Q (withOwnedClaim o task) s := by
  refine .bind .look fun _ t _ => .bind throwIfAborted_looks.publishes fun _ t _ => ?_
  refine .bind .look fun completed t _ => ?_
  cases completed with
  | true => exact h o ⟨⟨_, rfl⟩, rfl⟩ t
  | false =>
    refine .bind throwIfAborted_looks.publishes fun _ t _ => .bind .read fun expired t _ => ?_
    cases expired with
    | true =>
      refine .bind .done fun _ t _ => .bind throwIfAborted_looks.publishes fun _ t _ => ?_
      refine .bind (updateDvdInitialClaim_publishes t) fun claim t hclaim => ?_
      obtain ⟨token, rfl⟩ := hclaim
      exact h { o with claim := { o.claim with claimToken := token } } ⟨⟨token, rfl⟩, rfl⟩ t
    | false =>
      refine .bind (updateDvdInitialClaim_publishes t) fun claim t hclaim => ?_
      obtain ⟨token, rfl⟩ := hclaim
      exact h { o with claim := { o.claim with claimToken := token } } ⟨⟨token, rfl⟩, rfl⟩ t


end RipDvd
