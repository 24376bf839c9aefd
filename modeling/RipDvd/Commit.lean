import RipDvd.Repair

namespace RipDvd
set_option autoImplicit true

/-- A disk without its temporaries. -/
def Disk.settled (d : Disk) : Disk :=
  { d with
    manifestTemporaries := fun _ _ => none
    pointerTemporaries := fun _ => none }

theorem Disk.settled_fields {d d' : Disk} (h : d.settled = d'.settled) :
    d.image = d'.image ∧ d.journal = d'.journal ∧ d.manifests = d'.manifests ∧
      d.pointer = d'.pointer ∧ d.initialManifest = d'.initialManifest := by
  rw [settled, settled, Disk.mk.injEq] at h
  exact ⟨h.1, h.2.2.2.2.1, h.2.2.2.1, h.2.2.1, h.2.1⟩

variable {sha256 : Hashed → Digest} {metadataLength : DvdRecoveryJournalMetadata → Nat}
  {o : DvdRecoveryBatchOptions} {able : Prop} {I Q : World → Prop}

theorem Ends.check {bad : Prop} [Decidable bad] {e : ε} (h : ¬bad) (hQ : Q t) :
    Ends able Q (rejectIf bad e) t := by
  rw [rejectIf, if_neg h]
  exact hQ

/-- A durable step between the checks of its claim and its authority. -/
theorem batchStep_bind {work : BatchProgram α} {f : α → BatchProgram β}
    {M : Except DvdRecoveryBatchFault α → World → Prop} (hI : I s)
    (hmay : able → assertMayMutate o requireBase s = .ok ()) (h : work.Safe Eq I M s)
    (claimed : ∀ a t, M (.ok a) t → able → assertClaimed o t = .ok ())
    (ok : ∀ a t, I t → M (.ok a) t → (f a).Safe Eq I (Ends able Q) t)
    (error : ∀ e t, M (.error e) t → ¬able) :
    (batchStep o requireBase work >>= f).Safe Eq I (Ends able Q) s := by
  have hdenied {e} (he : assertMayMutate o requireBase s = .error e) : ¬able :=
    fun ha => nomatch (hmay ha).symm.trans he
  simp only [batchStep, bind_assoc]
  refine .read_bind hI (fun _ _ => .read_bind hI (fun _ _ => ?_) fun e he => hdenied he)
    fun e he => hdenied he
  refine .seq (M := fun result t => match result with
    | .ok a => M (.ok a) t
    | .error _ => ¬able) (.mapError (.seq h ?_ error)) (fun a t ht hm => ok a t ht hm)
    fun e t he => he
  intro a t ht hm
  have hlost {e} (he : assertClaimed o t = .error e) : ¬able :=
    fun ha => nomatch (claimed a t hm ha).symm.trans he
  exact .read_bind ht (fun _ _ => .read_bind ht (fun _ _ => .finish ht hm) fun e he => hlost he)
    fun e he => hlost he

/-- Creating a file fails only when it is there. -/
theorem createExclusively_bind {present : Disk → Bool} {create : Disk → Disk}
    {f : Unit → BatchProgram α} {M : Except DvdRecoveryBatchFault α → World → Prop} (hI : I s)
    (absent : present s.disk = false →
      (f ()).Safe Eq I M { s with disk := create s.disk })
    (there : present s.disk = true → ∀ e, M (.error e) s) :
    (createExclusively present create >>= f).Safe Eq I M s := by
  refine .transaction_bind hI (fun a t ht => ?_) fun e he => ?_
  · split at ht
    · cases ht
    · next hp =>
      cases ht
      exact absent (by simpa using hp)
  · split at he
    · next hp => exact there hp e
    · cases he

theorem installImmutableRecord_safe {manifest : CommittedDvdRecoveryEvidence}
    (hnone : w.disk.manifests manifest.revision = none)
    (hI : ∀ t next, (∀ m ∈ next, m = manifest) →
      t.disk.settled = (w.disk.setManifest manifest.revision next).settled →
      t.catalog = w.catalog → I t) :
    (installImmutableRecord pid manifest).Safe Eq I
      (Ends (w.disk.manifestTemporaries manifest.revision pid = none) fun t =>
        w.disk.manifestTemporaries manifest.revision pid = none ∧ t.catalog = w.catalog ∧
        t.disk.settled = (w.disk.setManifest manifest.revision (some manifest)).settled ∧
        t.disk.pointerTemporaries = w.disk.pointerTemporaries) w := by
  have hbefore : w.disk.settled = (w.disk.setManifest manifest.revision none).settled := by
    have hm : w.disk.manifests = fun r => if r = manifest.revision then none
        else w.disk.manifests r := by
      funext r
      split
      · next he => rw [he, hnone]
      · rfl
    simp only [Disk.settled, Disk.setManifest, ← hm]
  have hunlinked (t : World) (hd : t.disk.settled = w.disk.settled) (hc : t.catalog = w.catalog) :
      I t := hI t none (by simp) (hd.trans hbefore) hc
  refine .read_ok (hunlinked w rfl rfl) rfl ?_
  rw [hnone]
  refine createExclusively_bind (hunlinked w rfl rfl) (fun habsent => ?_) fun hthere e => ?_
  · have hfree : w.disk.manifestTemporaries manifest.revision pid = none := by
      simpa using habsent
    refine .modify_bind (hunlinked _ rfl rfl) (.ensure (M := fun result t => result = .ok () ∧
      t.catalog = w.catalog ∧
      t.disk.settled = (w.disk.setManifest manifest.revision (some manifest)).settled ∧
      t.disk.pointerTemporaries = w.disk.pointerTemporaries) ?_ ?_)
    · refine .transaction_only (hunlinked _ rfl rfl) (fun _ t ht => ?_) fun e he => ?_
      · simp only [Disk.setManifestTemporary, hnone, Option.isSome_none, Bool.false_eq_true,
          if_false, Except.ok.injEq, Prod.mk.injEq] at ht
        obtain ⟨-, rfl⟩ := ht
        exact ⟨hI _ (some manifest) (fun _ hm => (Option.some.inj hm).symm) rfl rfl, rfl, rfl, rfl,
          rfl⟩
      · simp [Disk.setManifestTemporary, hnone] at he
    · rintro _ t ht ⟨rfl, hc, hd, hp⟩
      refine .modify_only ht (hI _ (some manifest) (fun _ hm => (Option.some.inj hm).symm) hd hc) ?_
      exact ⟨hfree, hc, hd, hp⟩
  · exact fun hfree => by simp [hfree] at hthere

theorem replacePointer_safe {pointer : DvdCheckpointPointer}
    (hbefore : ∀ t, t.disk.settled = w.disk.settled → t.catalog = w.catalog → I t)
    (hafter : ∀ t, t.disk.settled = { w.disk with pointer }.settled → t.catalog = w.catalog → I t) :
    (replacePointer pid pointer).Safe Eq I
      (Ends (w.disk.pointerTemporaries pid = none) fun t =>
        w.disk.pointerTemporaries pid = none ∧ t.catalog = w.catalog ∧
        t.disk.settled = { w.disk with pointer }.settled) w := by
  refine createExclusively_bind (hbefore w rfl rfl) (fun habsent => ?_) fun hthere e => ?_
  · have hfree : w.disk.pointerTemporaries pid = none := by simpa using habsent
    refine .modify_bind (hbefore _ rfl rfl) (.modify_bind (hbefore _ rfl rfl) ?_)
    -- The temporary now holds the new pointer, so the rename installs it.
    have hrename (d : Disk) : ((d.setPointerTemporary pid (some (some pointer))).renamePointer
        pid).settled = { d with pointer }.settled ∧
        ((d.setPointerTemporary pid (some (some pointer))).renamePointer pid).pointer =
          pointer := by
      rw [Disk.renamePointer,
        show (d.setPointerTemporary pid (some (some pointer))).pointerTemporaries
        pid = some (some pointer) from if_pos rfl]
      exact ⟨rfl, rfl⟩
    obtain ⟨hsettled, hpointer⟩ := hrename (w.disk.setPointerTemporary pid (some none))
    refine .modify_bind (hafter _ hsettled rfl)
      (.read_only (hafter _ hsettled rfl) (.check (not_not.2 hpointer) ⟨hfree, rfl, hsettled⟩))
  · exact fun hfree => by simp [hfree] at hthere

theorem assertMayMutate_congr (h : t.catalog = w.catalog) (requireBase : Bool) :
    assertMayMutate o requireBase t = assertMayMutate o requireBase w := by
  simp only [assertMayMutate, h]

theorem assertClaimed_of_mayMutate (h : assertMayMutate o requireBase w = .ok u) :
    assertClaimed o w = .ok () := by
  obtain ⟨hid, work, hw, -⟩ := assertMayMutate_ok.1 h
  simp only [assertClaimed, assertRecoveryWorkClaim, bind_ok, rejectIf_ok, withError_ok, ne_eq,
    not_not]
  exact ⟨work, ⟨(), hid, hw⟩, rfl⟩

/-- A projection moves the pass on and leaves the claim and the authority as they were. -/
theorem Advances.mayMutate (ha : Advances input w.catalog t.catalog)
    (h : assertMayMutate o requireBase w = .ok u) : assertMayMutate o false t = .ok () := by
  obtain ⟨hid, work, hw, hauth⟩ := assertMayMutate_ok.1 h
  obtain ⟨timestamp, classification, meaningful, next, hnext, hc, -⟩ := ha.written
  obtain ⟨hwork, hclaim⟩ := requireCurrentArchiveRecoveryClaim_ok.1 hw
  obtain ⟨pass, updatedAt, hrow⟩ : ∃ pass updatedAt,
      next = some { work with toArchiveRecoveryPass := pass, updatedAt } := by
    rcases projectWork_ok hnext with ⟨-, rfl⟩ | ⟨claimed, row, -, hclaimed, hadv, rfl⟩
    · exact ⟨work.toArchiveRecoveryPass, work.updatedAt, hwork⟩
    · obtain rfl := Option.some.inj (hwork.symm.trans hclaimed)
      obtain ⟨pass, rfl⟩ := advancePass_row hadv
      exact ⟨pass, timestamp, rfl⟩
  refine assertMayMutate_ok.2 ⟨hid, { work with toArchiveRecoveryPass := pass, updatedAt },
    requireCurrentArchiveRecoveryClaim_ok.2 ⟨?_, ?_⟩, ?_⟩
  · rw [hc, hrow]
  · rw [hc]
    exact hclaim
  · obtain ⟨ha, hr, hatt, hcur, harch, verification, hv, hlatest, hcomp, hwv, hsame,
      hsrc, hins, -⟩ :=
      hauth
    rw [hc]
    refine ⟨ha, hr, hatt, hcur, harch, verification, hv, hlatest, hcomp, hwv, hsame, hsrc, hins,
      fun hf => nomatch hf⟩

/-- The disk with a checkpoint's manifest in place, and its pointer too. -/
def Disk.publish (d : Disk) (manifest : CommittedDvdRecoveryEvidence) : Disk :=
  { d.setManifest manifest.revision (some manifest) with pointer := pointerTo (.recovery manifest) }

/-- Where the manifest, pointer and database steps can be cut off; `w` is where they start. -/
inductive Committing (sha256 : Hashed → Digest) (o : DvdRecoveryBatchOptions)
    (admitted : AdmittedBatch) (mutation : BatchMutation) (w t : World) : Prop where
  | manifest (next : Option CommittedDvdRecoveryEvidence)
    (uncommitted : ∀ manifest ∈ next, Succeeds sha256 o admitted mutation manifest)
    (disk : t.disk.settled =
      (w.disk.setManifest (admitted.current.manifest.revision + 1) next).settled)
    (catalog : t.catalog = w.catalog)
  | pointer (manifest : CommittedDvdRecoveryEvidence)
    (succeeds : Succeeds sha256 o admitted mutation manifest)
    (disk : t.disk.settled = (w.disk.publish manifest).settled)
    (catalog : t.catalog = w.catalog ∨ Projects o admitted manifest w.catalog t.catalog)

/-- Where a batch ends when its checkpoint is committed. -/
def Committed (sha256 : Hashed → Digest) (o : DvdRecoveryBatchOptions) (admitted : AdmittedBatch)
    (mutation : BatchMutation) (w t : World) : Prop :=
  ∃ manifest, Succeeds sha256 o admitted mutation manifest ∧
    t.disk.settled = (w.disk.publish manifest).settled ∧
    Projects o admitted manifest w.catalog t.catalog

/-- No temporary of this process is in the way of the next checkpoint. -/
def Unobstructed (pid revision : Nat) (d : Disk) : Prop :=
  d.manifestTemporaries revision pid = none ∧ d.pointerTemporaries pid = none

/-- What a batch needs besides its admission. -/
structure Committable (sha256 : Hashed → Digest) (o : DvdRecoveryBatchOptions)
    (admitted : AdmittedBatch) (w : World) : Prop where
  recorded : Recorded w.catalog admitted.current.manifest
  fresh : ∀ mutation manifest, Succeeds sha256 o admitted mutation manifest →
    ∀ row ∈ w.catalog.manifests, row.manifestDigest ≠ manifest.manifestDigest
  bound : BoundTo o.recoveryWorkClaim w.catalog
  unobstructed : Unobstructed o.pid (admitted.current.manifest.revision + 1) w.disk

section Commit

variable {admitted : AdmittedBatch} {mutation : BatchMutation} {w₀ w : World}

/-- The projection a batch makes of its own checkpoint. -/
theorem Begun.commits (h : Begun sha256 o w admitted)
    (hs : Succeeds sha256 o admitted mutation manifest)
    (hbound : BoundTo o.recoveryWorkClaim w.catalog)
    (hp : projectDvdRecoveryCheckpoint sha256 now
      (admitted.projection manifest (some o.recoveryWorkClaim)) w.catalog = .ok (written, c')) :
    Projects o admitted manifest w.catalog c' := by
  obtain ⟨-, -, ⟨-, hrev, -⟩ | ha⟩ := projectDvdRecoveryCheckpoint_ok sha256 hp
  · have hnext : w.catalog.header.currentManifestRevision = manifest.revision := hrev
    have := h.header.1.symm.trans (hnext.trans hs.fields.revision)
    omega
  · exact ⟨_, fun held hm => by cases hm; exact ⟨rfl, hbound⟩, ha⟩

theorem commitManifest_safe (h : Begun sha256 o w₀ admitted) (hcatalog : w.catalog = w₀.catalog)
    (hpointer : w.disk.pointer = w₀.disk.pointer)
    (hnone : w.disk.manifests (admitted.current.manifest.revision + 1) = none)
    (hbound : BoundTo o.recoveryWorkClaim w₀.catalog)
    (hable : able → Recorded w₀.catalog admitted.current.manifest ∧
      (∀ manifest, Succeeds sha256 o admitted mutation manifest →
        ∀ row ∈ w₀.catalog.manifests, row.manifestDigest ≠ manifest.manifestDigest) ∧
      Unobstructed o.pid (admitted.current.manifest.revision + 1) w.disk)
    (hI : ∀ t, Committing sha256 o admitted mutation w t → I t) :
    (commitManifest sha256 o admitted mutation).Safe Eq I
      (Ends able fun t => Committed sha256 o admitted mutation w t ∧
        Unobstructed o.pid (admitted.current.manifest.revision + 1) w.disk) w := by
  have hstart : I w := hI w (.manifest none (by simp) (by
    have hm : w.disk.manifests = fun r => if r = admitted.current.manifest.revision + 1 then none
        else w.disk.manifests r := by
      funext r
      split
      · next he => rw [he, hnone]
      · rfl
    simp only [Disk.settled, Disk.setManifest, ← hm]) rfl)
  have hmay {t : World} (ht : t.catalog = w.catalog) : assertMayMutate o true t = .ok () :=
    (assertMayMutate_congr (ht.trans hcatalog) true).trans h.mayMutate
  obtain ⟨manifest, hs⟩ := h.succeeds mutation
  have hrev := hs.fields.revision
  refine .read_ok hstart (a := manifest) ?_ ?_
  · obtain ⟨nextRanges, hn, hm⟩ := hs
    exact withError_ok.2 (bind_ok.2 ⟨nextRanges, hn, hm⟩)
  refine batchStep_bind hstart (fun _ => hmay rfl)
    (installImmutableRecord_safe (hrev ▸ hnone) fun t next hnext hd hc => ?_)
    (fun _ t ht _ => assertClaimed_of_mayMutate (hmay ht.2.1)) ?_ ?_
  · exact hI t (.manifest next (fun m hm => hnext m hm ▸ hs) (hrev ▸ hd) hc)
  · rintro - t₁ ht₁ ⟨hfree, hc₁, hd₁, htemps⟩
    have hstage (t : World) (hd : t.disk.settled = t₁.disk.settled) (hc : t.catalog = t₁.catalog) :
        I t := hI t (.manifest (some manifest) (fun _ hm => Option.some.inj hm ▸ hs)
      (hd.trans (hrev ▸ hd₁)) (hc.trans hc₁))
    have hpublish (p : DvdCheckpointPointer) : { t₁.disk with pointer := p }.settled =
        { w.disk.setManifest manifest.revision (some manifest) with pointer := p }.settled :=
      congrArg (fun d : Disk => { d with pointer := p }) hd₁
    have hat : t₁.disk.pointer = pointerTo admitted.current :=
      (congrArg Disk.pointer hd₁).trans (hpointer.trans
        (Authoritative.of_committed h.committed).1.pointer)
    refine batchStep_bind ht₁ (fun _ => hmay hc₁) (.read_ok ht₁ (a := ())
      (rejectIf_ok.2 (not_not.2 hat))
      (replacePointer_safe hstage fun t hd hc => ?_))
      (fun _ t ht _ => assertClaimed_of_mayMutate (hmay (ht.2.1.trans hc₁))) ?_ ?_
    · exact hI t (.pointer manifest hs (hd.trans (hpublish _)) (.inl (hc.trans hc₁)))
    · rintro - t₂ ht₂ ⟨hfree', hc₂, hd₂⟩
      have hcat : t₂.catalog = w₀.catalog := (hc₂.trans hc₁).trans hcatalog
      have hdisk : t₂.disk.settled = (w.disk.publish manifest).settled := hd₂.trans (hpublish _)
      refine batchStep_bind ht₂ (fun _ => hmay (hc₂.trans hc₁)) (M := Ends able fun t =>
        t.disk = t₂.disk ∧ Projects o admitted manifest w.catalog t.catalog)
        (.transaction_only ht₂ ?_ ?_) ?_ ?_ fun e t he => he
      · intro written t ht
        obtain ⟨⟨_, c'⟩, hp, he⟩ := map_ok.1 ht
        obtain ⟨-, rfl⟩ := Prod.mk.inj he
        have hproj : Projects o admitted manifest w.catalog c' := by
          rw [hcatalog]
          exact h.commits hs hbound (hcat ▸ withError_ok.1 hp)
        exact ⟨hI _ (.pointer manifest hs hdisk (.inr hproj)), rfl, hproj⟩
      · intro e he ha
        obtain ⟨hrec, hfresh, -⟩ := hable ha
        obtain ⟨c', hok⟩ := h.projects hrec hs.fields (hfresh manifest hs)
          (fun held hm => by cases hm; exact ⟨rfl, hbound⟩ :
            ProjectsUnder o w₀.catalog (some o.recoveryWorkClaim)) o.now
        rw [AdmittedBatch.projection, ← hcat] at hok
        simp only [hok, withError, Except.map] at he
        cases he
      · rintro _ t ⟨-, claim, -, ha⟩ -
        exact assertClaimed_of_mayMutate (ha.mayMutate (hmay rfl))
      · rintro _ t ht ⟨hd, hproj⟩
        exact .finish ht ⟨⟨manifest, hs, hd ▸ hdisk, hproj⟩, hrev ▸ hfree, htemps ▸ hfree'⟩
    · intro e t he ha
      exact he (htemps ▸ (hable ha).2.2.2)
  · intro e t he ha
    exact he (hrev ▸ (hable ha).2.2.1)

end Commit

end RipDvd
