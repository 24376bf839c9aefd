import RipDvd.Crash

namespace RipDvd
set_option autoImplicit true

/-- A run that returns in `Q`, and does return when it is able to. -/
def Ends (able : Prop) (Q : World → Prop) : Except ε α → World → Prop
  | .ok _, t => Q t
  | .error _, _ => ¬able

/-- A run that returns with its result in `Q`, and does return when it is able to. -/
def EndsWith (able : Prop) (Q : α → World → Prop) : Except ε α → World → Prop
  | .ok a, t => Q a t
  | .error _, _ => ¬able

variable {sha256 : Hashed → Digest} {metadataLength : DvdRecoveryJournalMetadata → Nat}
  {r : DvdRecoveryReconciliationOptions} {able : Prop} {I Q : World → Prop}

theorem claim_bind {p : ReconciliationProgram α} (hI : I s)
    (hclaim : able → ∀ c, r.assertClaim c = true) (h : p.Safe Eq I (Ends able Q) s) :
    (assertReconciliationClaim r >>= fun _ => p).Safe Eq I (Ends able Q) s := by
  refine .read_bind hI (fun _ _ => h) fun e he ha => ?_
  simp only [hclaim ha, not_true, rejectIf, if_neg not_false] at he
  cases he

/-- A step between its assertions of the claim. -/
theorem boundary_bind {work : ReconciliationProgram α} {f : α → ReconciliationProgram β}
    {M : Except DvdRecoveryReconciliationFault α → World → Prop} (hI : I s)
    (hclaim : able → ∀ c, r.assertClaim c = true) (h : work.Safe Eq I M s)
    (ok : ∀ a t, I t → M (.ok a) t → (f a).Safe Eq I (Ends able Q) t)
    (error : ∀ e t, M (.error e) t → ¬able) :
    (boundary r work >>= f).Safe Eq I (Ends able Q) s := by
  simp only [boundary, bind_assoc, pure_bind]
  refine claim_bind hI hclaim (claim_bind hI hclaim (.seq h (fun a t ht hm => ?_) error))
  exact claim_bind ht hclaim (claim_bind ht hclaim (ok a t ht hm))

/-- The opening of a reconciliation: the rows, the records and the retained journal. -/
theorem opening_safe {records : DvdCheckpointRecords} (journal : Option ReadJournal)
    (uncommitted : Option CommittedDvdRecoveryEvidence) (hI : I w)
    (hclaim : able → ∀ c, r.assertClaim c = true)
    (hid : able → w.catalog.isOf r.originalDiscArchiveId)
    (hread : readDvdCheckpointForReconciliation sha256 w.disk w.catalog = .ok records)
    (hjournal : readRetainedJournal sha256 metadataLength w = .ok journal)
    (hrevision : assertJournalRevision records.currentEvidence journal = .ok ())
    (hnext : readUncommittedManifest sha256 records.currentEvidence journal w = .ok uncommitted)
    (h : w.catalog.isOf r.originalDiscArchiveId →
      (repair sha256 r w.catalog.header ⟨records, journal, uncommitted⟩).Safe Eq I
        (Ends able Q) w) :
    (runOwnedReconciliation sha256 metadataLength r).Safe Eq I (Ends able Q) w := by
  refine .read_bind hI (fun header he => ?_) fun e he ha => ?_
  · simp only [bind_ok, pure_ok, rejectIf_ok, not_not] at he
    obtain ⟨-, hisOf, rfl⟩ := he
    refine boundary_bind (M := fun result t => t = w ∧ result = .ok records) hI hclaim
      (.read_only hI ⟨rfl, by rw [hread]; rfl⟩) ?_ fun e t hm => (nomatch hm.2)
    rintro _ _ - ⟨rfl, hr⟩
    obtain rfl := Except.ok.inj hr
    exact .read_ok hI hjournal (.read_ok hI hrevision (.read_ok hI hnext (h hisOf)))
  · simp only [rejectIf, if_neg (not_not.2 (hid ha))] at he
    cases he

/-- Nothing to repair: the records are read and found to agree, and nothing is changed. -/
theorem settled_safe (hI : I w) (hQ : Q w) (hclaim : able → ∀ c, r.assertClaim c = true)
    (hid : able → w.catalog.isOf r.originalDiscArchiveId)
    (hread : readDvdCheckpointForReconciliation sha256 w.disk w.catalog = .ok records)
    (hjournal : w.disk.journal = none)
    (hnext : w.disk.manifests (records.currentEvidence.manifest.revision + 1) = none)
    (himage : verifyDvdCheckpointImage sha256 w.disk.image records.currentEvidence = .ok ())
    (hheader : projectedIdentity w.catalog.header = checkpointIdentity records.currentEvidence) :
    (runOwnedReconciliation sha256 metadataLength r).Safe Eq I (Ends able Q) w := by
  have hcommitted : assertCommittedJournal r records w.catalog.header none = .ok () := by
    cases hc : records.currentEvidence with
    | initial => simp [assertCommittedJournal, hc]
    | recovery => simp [assertCommittedJournal, hc, rejectIf, hheader]
  refine opening_safe none none hI hclaim hid hread ?_ ?_ ?_ fun _ => ?_
  · rw [readRetainedJournal, hjournal]
  · simp [assertJournalRevision, rejectIf]
  · simp [readUncommittedManifest, readDvdRecoveryManifestForReconciliation, hnext, withError]
  · refine .read_ok hI (a := ()) ?_ ?_
    · simp [hcommitted, himage, withError, bind, Except.bind]
    · simp only [projectAuthoritative, if_pos hheader.symm]
      exact .finish hI hQ

theorem AtBase.owned (hc : Consistent sha256 w₀ current) (hb : AtBase w₀ w) (hI : I w) (hQ : Q w)
    (hclaim : able → ∀ c, r.assertClaim c = true)
    (hid : able → r.originalDiscArchiveId = w₀.catalog.archive.id) :
    (runOwnedReconciliation sha256 metadataLength r).Safe Eq I (Ends able Q) w := by
  obtain ⟨previous, hread⟩ := hb.read hc
  obtain ⟨-, -, himage, hheader⟩ := Authoritative.of_committed hc.committed
  refine settled_safe hI hQ hclaim (fun ha => ?_) hread hb.journal ?_ ?_ ?_
  · exact hb.catalog.root.isOf.2 (hid ha ▸ hc.isOf)
  · rw [hb.manifests]
    exact hc.latest _ (Nat.lt_succ_self _)
  · rw [hb.image]
    exact himage
  · rw [hb.catalog.header]
    exact hheader

theorem releaseWork_evidence (h : releaseWork c timestamp = .ok c') : SameEvidence c c' := by
  rw [releaseWork] at h
  split at h
  · obtain ⟨settlement, -, hu⟩ := bind_ok.1 h
    obtain ⟨-, -, -, -, -, rfl⟩ := updateArchiveRecovery_ok.1 hu
    exact ⟨rfl, rfl, rfl, rfl, rfl, rfl, rfl⟩
  · cases h
    exact ⟨rfl, rfl, rfl, rfl, rfl, rfl, rfl⟩

theorem releaseAfterReconciliation_evidence
    (h : releaseAfterReconciliation attemptId timestamp c = .ok (recovery, c')) :
    SameEvidence c c' := by
  obtain ⟨-, -, h⟩ := bind_ok.1 h
  split at h
  · cases h
    exact .refl _
  · obtain ⟨released, hr, he⟩ := bind_ok.1 h
    cases he
    exact releaseWork_evidence hr

/-- A repair that giving the work row back does not disturb. -/
theorem reconcile_safe (hI : I w) (hclaim : able → ∀ c, r.assertClaim c = true)
    (hrelease : able → r.releaseRecoveryWork = false)
    (hid : able → r.originalDiscArchiveId = w.catalog.archive.id)
    (howned : (runOwnedReconciliation sha256 metadataLength r).Safe Eq I (Ends able Q) w)
    (hfinal : ∀ t c, Q t → SameEvidence t.catalog c →
      I { t with catalog := c } ∧ Q { t with catalog := c }) :
    (reconcileDvdRecoveryCheckpoint sha256 metadataLength r).Safe Eq I (Ends able Q) w := by
  refine claim_bind hI hclaim (.read_bind hI (fun _ _ => .seq howned ?_ fun e t he => he) ?_)
  · intro result t ht hq
    have hnow := hfinal t t.catalog hq (.refl _)
    refine .seq (M := Ends able Q) (.transaction_only ht (fun _ v hv => ?_) fun e he ha => ?_)
      (fun _ v hv hq => .finish hv hq) fun e v he => he
    · split at hv
      · split at hv
        · cases hv
          exact hnow
        · obtain ⟨⟨_, c⟩, hr, hc⟩ := map_ok.1 hv
          cases hc
          exact hfinal t c hq (releaseAfterReconciliation_evidence (withError_ok.1 hr))
      · cases hv
        exact hnow
    · rw [if_neg (by simp [hrelease ha])] at he
      cases he
  · intro e he ha
    rw [hid ha] at he
    simp [rejectIf] at he

theorem AtBase.evidence (hb : AtBase w₀ w) (he : SameEvidence w.catalog c) :
    AtBase w₀ { w with catalog := c } :=
  ⟨hb.image, hb.journal, hb.manifests, hb.pointer, hb.initialManifest, hb.catalog.trans he⟩

/-- What a reconciliation is given when nothing hinders it. -/
structure Unhindered (r : DvdRecoveryReconciliationOptions) (w : World) : Prop where
  claim : ∀ c, r.assertClaim c = true
  archiveId : r.originalDiscArchiveId = w.catalog.archive.id
  inspected : ∀ protection, requireMutationProtection w.catalog = .ok protection →
    r.inspected = some protection
  release : r.releaseRecoveryWork = false

/-- A reconciliation of an archive that is at its base leaves it there. -/
theorem AtBase.safe (hc : Consistent sha256 w₀ current) (r : DvdRecoveryReconciliationOptions)
    (hb : AtBase w₀ w) :
    (reconcileDvdRecoveryCheckpoint sha256 metadataLength r).Safe Eq (AtBase w₀)
      (Ends (Unhindered r w₀) (AtBase w₀)) w := by
  refine reconcile_safe hb Unhindered.claim Unhindered.release (fun ha => ?_)
    (hb.owned hc hb hb Unhindered.claim Unhindered.archiveId)
    fun t c ht he => ⟨ht.evidence he, ht.evidence he⟩
  rw [ha.archiveId, hb.catalog.archive]

section Interrupted

variable {o : DvdRecoveryBatchOptions} {admitted : AdmittedBatch} {units : ProtectedUnits}
  {manifest : CommittedDvdRecoveryEvidence} {next : Option CommittedDvdRecoveryEvidence}
  {w₀ w : World}

/-- Nothing but the batch and its repair has touched the archive: the two outcomes. -/
def Repaired (sha256 : Hashed → Digest) (o : DvdRecoveryBatchOptions) (admitted : AdmittedBatch)
    (units : ProtectedUnits) (w₀ w : World) : Prop :=
  AtBase w₀ w ∨ ∃ manifest, Installs sha256 o admitted units manifest ∧
    AtNext o admitted units manifest w₀ w

theorem Journaled.setImage (h : Journaled sha256 metadataLength o admitted units next w₀ w)
    (ht : Torn units.unitBytes w₀.disk.image.bytes (UnitsOf.written w₀.disk.image.bytes units)
      cells) (mtimeNs : Nat) :
    Journaled sha256 metadataLength o admitted units next w₀ (w.setImage cells mtimeNs) :=
  ⟨h.fits, h.journal, ht, h.identity, h.uncommitted, h.manifests, h.pointer, h.initialManifest,
    h.catalog⟩

/-- A retained journal names the checkpoint it would roll back to. -/
theorem Recovering.journalBase (h : Recovering sha256 o w₀ admitted units) :
    assertJournalBase (undoJournal sha256 o admitted units).metadata admitted.current
      o.originalDiscArchiveId = .ok () := by
  refine rejectIf_ok.2 ?_
  simp only [not_or, ne_eq, not_not]
  exact ⟨rfl, rfl, rfl, rfl, rfl, rfl, rfl, rfl, h.begun.observes.id⟩

theorem Recovering.journalCommit (h : Recovering sha256 o w₀ admitted units)
    (hi : Installs sha256 o admitted units manifest) :
    assertJournalCommit (undoJournal sha256 o admitted units).metadata manifest = .ok () := by
  have hf := hi.fields
  have ho := h.begun.observes
  refine rejectIf_ok.2 ?_
  simp only [not_or, ne_eq, not_not, hf.read.1]
  refine ⟨hf.revision, hf.previous.1, hf.previous.2.1, hf.previous.2.2, rfl, rfl, ho.sector.2.1,
    ho.sector.2.2.trans h.outcome, hf.mutation.2.1, ?_⟩
  exact hf.mutation.2.2.trans (journalRanges_base o admitted units).symm

theorem Recovering.isOf (h : Recovering sha256 o w₀ admitted units)
    (hroot : SameRoot w₀.catalog c) (hid : c.isOf archiveId) :
    archiveId = o.originalDiscArchiveId :=
  (hroot.isOf.1 hid).1.symm.trans h.begun.isOf.1

theorem Journaled.uncommittedManifest (h : Recovering sha256 o w₀ admitted units)
    (hj : Journaled sha256 metadataLength o admitted units next w₀ w) :
    readDvdRecoveryManifestForReconciliation sha256 w.disk admitted.current
      (admitted.current.manifest.revision + 1) = .ok next := by
  have hm : w.disk.manifests (admitted.current.manifest.revision + 1) = next := by
    rw [hj.manifests]
    exact if_pos rfl
  rw [readDvdRecoveryManifestForReconciliation, hm]
  cases next with
  | none => rfl
  | some manifest =>
    have hi := hj.uncommitted manifest rfl
    refine withError_ok.2 ?_
    simp only [bind_ok, rejectIf_ok, ne_eq, not_not, pure_ok]
    refine ⟨(), ?_, (), h.transition hi, (), hi.fields.revision, trivial⟩
    rw [hj.initialManifest]
    exact h.record hi

theorem Journaled.verifyProtectedBytes (h : Recovering sha256 o w₀ admitted units)
    (hj : Journaled sha256 metadataLength o admitted units next w₀ w) :
    ∃ states, verifyProtectedBytes sha256 admitted.current
        (undoJournal sha256 o admitted units).metadata w = .ok states ∧
      List.Forall₂ (fun range state =>
        protectedUnitState sha256 w.disk.image.bytes range = .ok state)
        (journalFor sha256 o admitted units).protectedRanges states := by
  obtain ⟨hu, -, -, hversion, hlen⟩ := h.unitsOf
  obtain ⟨states, hs, hf⟩ := mapM_ok
    (f := protectedUnitState sha256 w.disk.image.bytes)
    (l := (journalFor sha256 o admitted units).protectedRanges) fun range hr => by
      obtain ⟨index, hi⟩ := List.mem_iff_getElem?.1 hr
      exact hu.unitState hj.torn hi
  refine ⟨states, bind_ok.2 ⟨(), rejectIf_ok.2 ?_, hs⟩, hf⟩
  rw [not_or, ne_eq, not_not, ne_eq, not_not, hj.identity, hj.torn.length, hlen]
  exact ⟨(ImageFile.version_eq.1 hversion).1, rfl⟩

/-- A reconciliation that is given what it needs to project as well. -/
structure Able (sha256 : Hashed → Digest) (r : DvdRecoveryReconciliationOptions)
    (o : DvdRecoveryBatchOptions) (admitted : AdmittedBatch) (units : ProtectedUnits)
    (w₀ : World) : Prop extends Unhindered r w₀ where
  recorded : Recorded w₀.catalog admitted.current.manifest
  fresh : ∀ manifest, Installs sha256 o admitted units manifest →
    ∀ row ∈ w₀.catalog.manifests, row.manifestDigest ≠ manifest.manifestDigest

theorem Able.owner (ha : Able sha256 r o admitted units w₀)
    (h : Recovering sha256 o w₀ admitted units) :
    r.originalDiscArchiveId = o.originalDiscArchiveId :=
  ha.archiveId.trans h.begun.isOf.1

/-- The writes that put the old units back, under a complete journal. -/
theorem Journaled.restore (h : Recovering sha256 o w₀ admitted units)
    (hd : UnitsDistinct sha256 units)
    (hj : Journaled sha256 metadataLength o admitted units next w₀ w)
    (hs : List.Forall₂ (fun range state =>
        protectedUnitState sha256 w.disk.image.bytes range = .ok state)
      (journalFor sha256 o admitted units).protectedRanges states) :
    (restoreUnits r (undoJournal sha256 o admitted units).originalBytes
      ((undoJournal sha256 o admitted units).metadata.protectedRanges.zip states)).Safe Eq
      (Interrupted sha256 metadataLength o admitted units w₀)
      (fun result t => result = .ok () ∧ ∃ mtimeNs, t = w.setImage w₀.disk.image.bytes mtimeNs)
      w := by
  obtain ⟨hu, -⟩ := h.unitsOf
  change (restoreUnits r _ _).Safe Eq _ _ (w.setImage w.disk.image.bytes w.disk.image.mtimeNs)
  refine restoreUnits_safe hu.unit_pos (fun cells mtimeNs ht => .journaled (hj.setImage ht mtimeNs))
    (fun p hp => ?_)
    (hu.pending hd hj.torn hs) hj.torn
  obtain ⟨index, hi⟩ := List.mem_iff_getElem?.1 (List.of_mem_zip hp).1
  exact hu.restores hi

/-- The old bytes under the old modification time are the old image. -/
theorem Journaled.image_eq (h : Recovering sha256 o w₀ admitted units)
    (hj : Journaled sha256 metadataLength o admitted units next w₀ w)
    (hb : w.disk.image.bytes = w₀.disk.image.bytes)
    (hm : w.disk.image.mtimeNs = admitted.current.image.mtimeNs) :
    w.disk.image = w₀.disk.image := by
  obtain ⟨-, -, -, hversion, -⟩ := h.unitsOf
  have ht := (ImageFile.version_eq.1 hversion).2
  have hi := hj.identity
  cases hw : w.disk.image
  cases hw₀ : w₀.disk.image
  simp only [hw, hw₀] at hb hm hi ht
  rw [hb, hm, hi, ht]

/-- With the image restored, the next manifest and the journal are all that is left to remove. -/
theorem Journaled.remove
    (hnone : ∀ revision, admitted.current.manifest.revision < revision →
      w₀.disk.manifests revision = none)
    (hj : Journaled sha256 metadataLength o admitted units next w₀ w)
    (himage : w.disk.image = w₀.disk.image) :
    (do
      match next with
      | some _ => removeManifest (admitted.current.manifest.revision + 1)
      | none => pure ()
      removeJournal : ReconciliationProgram Unit).Safe Eq
      (Interrupted sha256 metadataLength o admitted units w₀)
      (fun result t => result = .ok () ∧ AtBase w₀ t) w := by
  have hjournal {w : World}
      (hj : Journaled sha256 metadataLength o admitted units none w₀ w)
      (himage : w.disk.image = w₀.disk.image) :
      removeJournal.Safe Eq (Interrupted sha256 metadataLength o admitted units w₀)
        (fun result t => result = .ok () ∧ AtBase w₀ t) w := by
    have hbase : AtBase w₀ { w with disk := { w.disk with journal := none } } := by
      refine ⟨himage, rfl, ?_, hj.pointer, hj.initialManifest, hj.catalog ▸ .refl _⟩
      refine hj.manifests.trans (funext fun revision => ?_)
      simp only [Disk.setManifest]
      split
      · next he => exact (hnone revision (by omega)).symm
      · rfl
    refine .transaction_only (.journaled hj) (fun _ t ht => ?_) fun e he => ?_
    · simp only [hj.journal, Option.isSome_some, if_true, Except.ok.injEq, Prod.mk.injEq] at ht
      obtain ⟨-, rfl⟩ := ht
      exact ⟨.base hbase, rfl, hbase⟩
    · simp [hj.journal] at he
  cases next with
  | none => exact hjournal hj himage
  | some manifest =>
    have hm : w.disk.manifests (admitted.current.manifest.revision + 1) = some manifest := by
      rw [hj.manifests]
      exact if_pos rfl
    refine .transaction_bind (.journaled hj) (fun _ t ht => ?_) fun e he => ?_
    · simp only [hm, Option.isSome_some, if_true, Except.ok.injEq, Prod.mk.injEq] at ht
      obtain ⟨-, rfl⟩ := ht
      refine hjournal ⟨hj.fits, hj.journal, hj.torn, hj.identity, fun _ he => (nomatch he), ?_,
        hj.pointer, hj.initialManifest, hj.catalog⟩ himage
      simp only [Disk.setManifest, hj.manifests]
      funext revision
      split <;> rfl
    · simp [hm] at he

/-- The pointer still names the base: the batch is undone. -/
theorem rollback_safe (h : Recovering sha256 o w₀ admitted units)
    (hnone : ∀ revision, admitted.current.manifest.revision < revision →
      w₀.disk.manifests revision = none)
    (hd : UnitsDistinct sha256 units)
    (hj : Journaled sha256 metadataLength o admitted units next w₀ w) :
    (rollbackUncommittedBatch sha256 r admitted.current (undoJournal sha256 o admitted units)
      next).Safe Eq (Interrupted sha256 metadataLength o admitted units w₀)
      (Ends (Able sha256 r o admitted units w₀) (AtBase w₀)) w := by
  obtain ⟨hu, hunit, hins, hversion, hlen⟩ := h.unitsOf
  obtain ⟨states, hverify, hstates⟩ := hj.verifyProtectedBytes h
  have hI := Interrupted.journaled hj
  have hclaim : Able sha256 r o admitted units w₀ → ∀ c, r.assertClaim c = true := (·.claim)
  refine .read_ok hI hverify (.read_ok hI (a := admitted.protection) ?_ ?_)
  · rw [recoveryStorageProtection, hj.catalog, h.begun.storage]
    rfl
  refine .read_bind hI (fun _ _ => ?_) fun e he ha => ?_
  · refine boundary_bind hI hclaim (hj.restore h hd hstates) ?_ fun e t hm => by cases hm.1
    rintro - _ - ⟨-, mtimeNs, rfl⟩
    have hrestored (mtimeNs : Nat) := hj.setImage (Torn.old ..) mtimeNs
    have himage := (hrestored admitted.current.image.mtimeNs).image_eq h rfl rfl
    refine boundary_bind (.journaled (hrestored mtimeNs)) hclaim
      (M := fun result t => result = .ok () ∧
        t = w.setImage w₀.disk.image.bytes admitted.current.image.mtimeNs) ?_ ?_
      fun e t hm => by cases hm.1
    · refine .modify_bind (.journaled (hrestored mtimeNs))
        (.read_only (.journaled (hrestored admitted.current.image.mtimeNs)) ⟨?_, rfl⟩)
      exact withError_ok.2 (himage ▸ (Authoritative.of_committed h.begun.committed).2.2.1)
    rintro - _ - ⟨-, rfl⟩
    refine boundary_bind (.journaled (hrestored _)) hclaim
      (M := fun result t => result = .ok () ∧ AtBase w₀ t) ?_ ?_ fun e t hm => by cases hm.1
    · exact (hrestored _).remove hnone himage
    · rintro - t - ⟨-, ht⟩
      exact .finish (.base ht) ht
  · refine absurd he ?_
    rw [rejectIf, if_neg]
    · intro he
      cases he
    · rw [not_or, not_not]
      refine ⟨ha.inspected _ h.begun.storage, ?_⟩
      rintro ⟨range, hr, hne⟩
      obtain ⟨index, hi⟩ := List.mem_iff_getElem?.1 hr
      exact hne ((journalRange_eq hi).2 ▸ hunit)

theorem Journaled.read (h : Recovering sha256 o w₀ admitted units)
    (hj : Journaled sha256 metadataLength o admitted units next w₀ w) :
    ∃ previous, readDvdCheckpointForReconciliation sha256 w.disk w.catalog =
      .ok ⟨admitted.current, previous⟩ := by
  obtain ⟨-, ⟨previous, hr⟩, -⟩ := readCommittedDvdCheckpoint_ok.1 h.begun.committed
  refine ⟨previous, (read_congr hj.initialManifest hj.pointer (fun revision hle => ?_)
    (hj.catalog ▸ .refl _)).trans hr⟩
  rw [h.authoritative.pointer] at hle
  rw [hj.manifests]
  exact if_neg (by simp only [pointerTo] at hle; omega)

theorem Journaled.safe (h : Recovering sha256 o w₀ admitted units)
    (hnone : ∀ revision, admitted.current.manifest.revision < revision →
      w₀.disk.manifests revision = none)
    (hd : UnitsDistinct sha256 units)
    (hj : Journaled sha256 metadataLength o admitted units next w₀ w) :
    (runOwnedReconciliation sha256 metadataLength r).Safe Eq
      (Interrupted sha256 metadataLength o admitted units w₀)
      (Ends (Able sha256 r o admitted units w₀) (Repaired sha256 o admitted units w₀)) w := by
  have hI := Interrupted.journaled hj
  obtain ⟨previous, hread⟩ := hj.read h
  have hjournal : readRetainedJournal sha256 metadataLength w =
      .ok (some (undoJournal sha256 o admitted units)) := by
    rw [readRetainedJournal, hj.journal]
    simp only [h.begun.readJournal h.unitsOf.1 h.unitsOf.2.2.2.2 hj.fits, Except.map, withError]
  have hsame : (undoJournal sha256 o admitted units).metadata.base.revision =
      admitted.current.manifest.revision := rfl
  refine opening_safe _ next hI (·.claim) (fun ha => ?_) hread hjournal
    (rejectIf_ok.2 (by rintro ⟨_, ⟨⟩, hne, -⟩; exact hne hsame.symm)) ?_ fun hisOf => ?_
  · exact hj.catalog ▸ ha.owner h ▸ h.begun.isOf
  · rw [readUncommittedManifest, if_pos (by rintro _ ⟨⟩; exact hsame.symm),
      hj.uncommittedManifest h]
    rfl
  rw [repair]
  simp only [hsame, if_true]
  refine .read_ok hI (a := ()) ?_ ?_
  · have harch := h.isOf (hj.catalog ▸ SameEvidence.refl _ : SameEvidence _ _).root hisOf
    simp only [bind_ok, rejectIf_ok, ne_eq, not_not]
    refine ⟨(), ?_, (), harch ▸ h.journalBase, ?_⟩
    · rw [hj.catalog]
      exact (Authoritative.of_committed h.begun.committed).2.2.2.symm
    · cases next with
      | none => rfl
      | some manifest => exact h.journalCommit (hj.uncommitted _ rfl)
  · refine .seq (rollback_safe h hnone hd hj) (fun _ t ht hb => ?_) fun e t he => he
    exact .finish ht (.inl hb)

theorem Projects.root (h : Projects o admitted manifest c c') : SameRoot c c' := by
  obtain ⟨claim, -, ha⟩ := h
  exact ha.root

theorem Projects.header (h : Projects o admitted manifest c c') :
    projectedIdentity c'.header = checkpointIdentity (.recovery manifest) := by
  obtain ⟨claim, -, ha⟩ := h
  obtain ⟨hid, hrev, hdig⟩ := ha.header
  rw [projectedIdentity, hid, hrev, hdig]
  rfl

theorem AtNext.safe (h : Recovering sha256 o w₀ admitted units)
    (hnone : ∀ revision, admitted.current.manifest.revision < revision →
      w₀.disk.manifests revision = none)
    (hi : Installs sha256 o admitted units manifest)
    (hn : AtNext o admitted units manifest w₀ w) :
    (runOwnedReconciliation sha256 metadataLength r).Safe Eq
      (Interrupted sha256 metadataLength o admitted units w₀)
      (Ends (Able sha256 r o admitted units w₀) (Repaired sha256 o admitted units w₀)) w := by
  obtain ⟨c, hproj, hsame⟩ := hn.catalog
  have hroot := hproj.root.trans hsame.root
  have hheader : projectedIdentity w.catalog.header = checkpointIdentity (.recovery manifest) := by
    rw [hsame.header]
    exact hproj.header
  have hrev := hi.fields.revision
  refine settled_safe (.next hi hn) (.inr ⟨manifest, hi, hn⟩) (·.claim) (fun ha => ?_)
    (h.next_read hi hn.published hroot (.inr hheader)) hn.journal ?_ (h.next_image hi hn.published)
    hheader
  · exact hroot.isOf.2 (ha.owner h ▸ h.begun.isOf)
  · rw [hn.published.manifests]
    simp only [Disk.setManifest, CommittedDvdCheckpointEvidence.manifest_recovery]
    rw [if_neg (by omega)]
    exact hnone _ (by omega)

/-- A projected checkpoint has its journal unlinked. -/
theorem Published.unlink
    (fits : fitsJournalHeader metadataLength (undoJournal sha256 o admitted units).metadata)
    (hjournal : w.disk.journal = some (undoFile sha256 o admitted units))
    (hi : Installs sha256 o admitted units manifest) (hp : Published units manifest w₀ w)
    (hproj : Projects o admitted manifest w₀.catalog w.catalog) :
    removeJournal.Safe Eq (Interrupted sha256 metadataLength o admitted units w₀)
      (fun result t => result = .ok () ∧ Repaired sha256 o admitted units w₀ t) w := by
  have hn : AtNext o admitted units manifest w₀
      { w with disk := { w.disk with journal := none } } :=
    ⟨⟨hp.bytes, hp.version, hp.manifests, hp.pointer, hp.initialManifest⟩, rfl, _, hproj, .refl _⟩
  refine .transaction_only (.published fits hjournal hi hp (.inr hproj)) (fun _ t ht => ?_)
    fun e he => ?_
  · simp only [hjournal, Option.isSome_some, if_true, Except.ok.injEq, Prod.mk.injEq] at ht
    obtain ⟨-, rfl⟩ := ht
    exact ⟨.next hi hn, rfl, .inr ⟨manifest, hi, hn⟩⟩
  · simp [hjournal] at he

/-- The projection a reconciliation makes of a checkpoint that the header lags behind. -/
theorem Recovering.reconcile (h : Recovering sha256 o w₀ admitted units)
    (hi : Installs sha256 o admitted units manifest)
    (hp : projectDvdRecoveryCheckpoint sha256 now {
      claim := none
      recoveryRead := manifest.recoveryRead
      manifest := manifest.toEvidenceManifest } w₀.catalog = .ok (header, c')) :
    header = c'.header ∧ Projects o admitted manifest w₀.catalog c' := by
  have hf := hi.fields
  rw [hf.read.1] at hp
  obtain ⟨he, -, ⟨-, hrev, -⟩ | ha⟩ := projectDvdRecoveryCheckpoint_ok sha256 hp
  · have := h.begun.header.1.symm.trans (hrev.trans hf.revision)
    omega
  · exact ⟨he, none, fun _ hm => (nomatch hm), ha⟩

/-- The authoritative checkpoint ends up projected, now or by an earlier attempt. -/
theorem Published.project (h : Recovering sha256 o w₀ admitted units)
    (fits : fitsJournalHeader metadataLength (undoJournal sha256 o admitted units).metadata)
    (hjournal : w.disk.journal = some (undoFile sha256 o admitted units))
    (hi : Installs sha256 o admitted units manifest) (hp : Published units manifest w₀ w)
    (hc : w.catalog = w₀.catalog ∨ Projects o admitted manifest w₀.catalog w.catalog) :
    (projectAuthoritative sha256 r w.catalog.header (.recovery manifest)).Safe Eq
      (Interrupted sha256 metadataLength o admitted units w₀)
      (Ends (Able sha256 r o admitted units w₀) fun t => t.disk = w.disk ∧
        Projects o admitted manifest w₀.catalog t.catalog) w := by
  have hI := Interrupted.published fits hjournal hi hp hc
  have hf := hi.fields
  rw [projectAuthoritative]
  rcases hc with hc | hc
  · have hbase := h.begun.header
    have hne : ¬checkpointIdentity (.recovery manifest) = projectedIdentity w.catalog.header := by
      rw [hc, projectedIdentity, hbase.1]
      intro he
      have hr : manifest.revision = admitted.current.manifest.revision :=
        congrArg CheckpointIdentity.revision he
      have := hf.revision
      omega
    rw [if_neg hne]
    refine .read_ok hI (a := manifest) ?_ (boundary_bind hI (·.claim) (M := EndsWith
      (Able sha256 r o admitted units w₀) fun header t => header = t.catalog.header ∧
        t.disk = w.disk ∧ Projects o admitted manifest w₀.catalog t.catalog)
      (.transaction_only hI ?_ ?_) ?_ ?_)
    · simp only [requireProjectableCheckpoint, bind_ok, rejectIf_ok, not_or, ne_eq, not_not, hc,
        hbase.1, hbase.2.1, hbase.2.2]
      exact ⟨(), ⟨hf.revision, hf.previous.1, hf.previous.2.1⟩, rfl⟩
    · intro header t ht
      obtain ⟨⟨header', c'⟩, hp', he⟩ := map_ok.1 ht
      obtain ⟨rfl, rfl⟩ := Prod.mk.inj he
      obtain ⟨rfl, hproj⟩ := h.reconcile hi (hc ▸ withError_ok.1 hp')
      exact ⟨.published fits hjournal hi
        ⟨hp.bytes, hp.version, hp.manifests, hp.pointer, hp.initialManifest⟩ (.inr hproj),
        rfl, rfl, hproj⟩
    · intro e he ha
      have hnobody : ProjectsUnder o w₀.catalog none := by
        intro held hm
        cases hm
      obtain ⟨c', hok⟩ := h.begun.projects ha.recorded hf (ha.fresh _ hi) hnobody r.now
      rw [AdmittedBatch.projection, ← hf.read.1, ← hc] at hok
      simp only [hok, withError, Except.map] at he
      cases he
    · rintro header t ht ⟨rfl, hdisk, hproj⟩
      refine .read_ok ht (a := ()) ?_ (.finish ht ⟨hdisk, hproj⟩)
      exact rejectIf_ok.2 (not_not.2 hproj.header.symm)
    · exact fun e t he => he
  · rw [if_pos hc.header.symm]
    exact .finish hI ⟨rfl, hc⟩

theorem Published.safe (h : Recovering sha256 o w₀ admitted units)
    (fits : fitsJournalHeader metadataLength (undoJournal sha256 o admitted units).metadata)
    (hjournal : w.disk.journal = some (undoFile sha256 o admitted units))
    (hi : Installs sha256 o admitted units manifest) (hp : Published units manifest w₀ w)
    (hc : w.catalog = w₀.catalog ∨ Projects o admitted manifest w₀.catalog w.catalog) :
    (runOwnedReconciliation sha256 metadataLength r).Safe Eq
      (Interrupted sha256 metadataLength o admitted units w₀)
      (Ends (Able sha256 r o admitted units w₀) (Repaired sha256 o admitted units w₀)) w := by
  have hI := Interrupted.published fits hjournal hi hp hc
  have hf := hi.fields
  have hroot : SameRoot w₀.catalog w.catalog := by
    rcases hc with he | hp
    · rw [he]
      exact (SameEvidence.refl _).root
    · exact hp.root
  have hbase := (Authoritative.of_committed h.begun.committed).2.2.2
  have hheader : projectedIdentity w.catalog.header = checkpointIdentity admitted.current ∨
      projectedIdentity w.catalog.header = checkpointIdentity (.recovery manifest) := by
    refine hc.imp (fun he => ?_) Projects.header
    rw [he]
    exact hbase
  have hbaseRevision : (undoJournal sha256 o admitted units).metadata.base.revision =
      admitted.current.manifest.revision := rfl
  have hrev : (CommittedDvdCheckpointEvidence.recovery manifest).manifest.revision =
      (undoJournal sha256 o admitted units).metadata.base.revision + 1 := hf.revision
  have hread : readRetainedJournal sha256 metadataLength w =
      .ok (some (undoJournal sha256 o admitted units)) := by
    rw [readRetainedJournal, hjournal]
    simp only [h.begun.readJournal h.unitsOf.1 h.unitsOf.2.2.2.2 fits, Except.map, withError]
  refine opening_safe _ none hI (·.claim) (fun ha => ?_) (h.next_read hi hp hroot hheader) hread
    (rejectIf_ok.2 (by rintro ⟨_, ⟨⟩, -, hne⟩; exact hne hrev)) ?_ fun hisOf => ?_
  · exact hroot.isOf.2 (ha.owner h ▸ h.begun.isOf)
  · rw [readUncommittedManifest, if_neg]
    intro hall
    have hsame : (CommittedDvdCheckpointEvidence.recovery manifest).manifest.revision =
      (undoJournal sha256 o admitted units).metadata.base.revision := hall _ rfl
    omega
  rw [repair]
  simp only [if_neg (show ¬(CommittedDvdCheckpointEvidence.recovery manifest).manifest.revision =
    (undoJournal sha256 o admitted units).metadata.base.revision by omega)]
  have harch := h.isOf hroot hisOf
  refine .read_ok hI (a := ()) ?_ (.seq (hp.project h fits hjournal hi hc) ?_ fun e t he => he)
  · simp only [bind_ok, assertCommittedJournal]
    exact ⟨(), ⟨(), harch ▸ h.journalBase, h.journalCommit hi⟩,
      withError_ok.2 (h.next_image hi hp)⟩
  · rintro projected t ht ⟨hdisk, hproj⟩
    have hpub : Published units manifest w₀ t :=
      ⟨hdisk ▸ hp.bytes, hdisk ▸ hp.version, hdisk ▸ hp.manifests, hdisk ▸ hp.pointer,
        hdisk ▸ hp.initialManifest⟩
    refine boundary_bind ht (·.claim) (hpub.unlink fits (hdisk ▸ hjournal) hi hproj) ?_
      fun e t hm => by cases hm.1
    exact fun _ t ht hm => .finish ht hm.2

theorem Repaired.interrupted (h : Repaired sha256 o admitted units w₀ w) :
    Interrupted sha256 metadataLength o admitted units w₀ w := by
  rcases h with hb | ⟨manifest, hi, hn⟩
  · exact .base hb
  · exact .next hi hn

/-- Giving the work row back is no repair and undoes none. -/
theorem Repaired.release (h : Repaired sha256 o admitted units w₀ w)
    (he : SameEvidence w.catalog c) : Repaired sha256 o admitted units w₀ { w with
      catalog := c } := by
  rcases h with hb | ⟨manifest, hi, ⟨hp, hj, c₁, hproj, hs⟩⟩
  · exact .inl ⟨hb.image, hb.journal, hb.manifests, hb.pointer, hb.initialManifest,
      hb.catalog.trans he⟩
  · exact .inr ⟨manifest, hi, ⟨hp.bytes, hp.version, hp.manifests, hp.pointer, hp.initialManifest⟩,
      hj, c₁, hproj, hs.trans he⟩

/-- A reconciliation of an interrupted batch repairs it, and can be cut off and run again. -/
theorem Interrupted.safe (h : Recovering sha256 o w₀ admitted units)
    (hc : Consistent sha256 w₀ admitted.current) (hd : UnitsDistinct sha256 units)
    (r : DvdRecoveryReconciliationOptions)
    (hI : Interrupted sha256 metadataLength o admitted units w₀ w) :
    (reconcileDvdRecoveryCheckpoint sha256 metadataLength r).Safe Eq
      (Interrupted sha256 metadataLength o admitted units w₀)
      (Ends (Able sha256 r o admitted units w₀) (Repaired sha256 o admitted units w₀)) w := by
  have hroot : SameRoot w₀.catalog w.catalog := by
    cases hI with
    | base hb => exact hb.catalog.root
    | journaled hj => exact hj.catalog ▸ (SameEvidence.refl _).root
    | published _ _ _ _ hc =>
      rcases hc with he | hp
      · rw [he]
        exact (SameEvidence.refl _).root
      · exact hp.root
    | next _ hn =>
      obtain ⟨c, hp, hs⟩ := hn.catalog
      exact hp.root.trans hs.root
  have hclaim (ha : Able sha256 r o admitted units w₀) := ha.claim
  refine reconcile_safe hI hclaim (fun ha => ha.release) (fun ha => ?_) ?_ fun t c ht he =>
    ⟨(ht.release he).interrupted, ht.release he⟩
  · rw [ha.archiveId, hroot.archive.1]
  · cases hI with
    | base hb => exact hb.owned hc (.base hb) (.inl hb) hclaim fun ha => ha.archiveId
    | journaled hj => exact hj.safe h hc.latest hd
    | published fits hjournal hi hp hc => exact hp.safe h fits hjournal hi hc
    | next hi hn => exact hn.safe h hc.latest hi

end Interrupted

end RipDvd
