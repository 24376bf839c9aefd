import RipDvd.Mutation

namespace RipDvd
set_option autoImplicit true

/-- Where a batch of a recovered sector can be cut off; `w₀` is where it was admitted. -/
inductive Cut (sha256 : Hashed → Digest) (metadataLength : DvdRecoveryJournalMetadata → Nat)
    (o : DvdRecoveryBatchOptions) (w₀ w : World) : Prop where
  | journaling (h : Journaling w₀ w)
  | base (h : AtBase w₀ w)
  | interrupted (recovering : Recovering sha256 o w₀ admitted units)
    (h : Interrupted sha256 metadataLength o admitted units w₀ w)

variable {sha256 : Hashed → Digest} {metadataLength : DvdRecoveryJournalMetadata → Nat}
  {o : DvdRecoveryBatchOptions} {admitted : AdmittedBatch} {units : ProtectedUnits}
  {I : World → Prop} {w₀ w t : World}

/-- The files while the manifest and the pointer are put in place. -/
theorem Committing.interrupted
    (hu : UnitsOf w₀.disk.image.bytes o.observation.startLba units)
    (fits : fitsJournalHeader metadataLength (undoJournal sha256 o admitted units).metadata)
    (hw : w = (w₀.journal (undoFile sha256 o admitted units)).setImage
      (UnitsOf.written w₀.disk.image.bytes units) mtimeNs)
    (hc : Committing sha256 o admitted (recoveredMutation sha256 o admitted units
      ⟨w₀.disk.image.filesystemIdentity, mtimeNs⟩) w t) :
    Interrupted sha256 metadataLength o admitted units w₀ t := by
  subst hw
  cases hc with
  | manifest next uncommitted disk catalog =>
    obtain ⟨himage, hjournal, hmanifests, hpointer, hinitial⟩ := Disk.settled_fields disk
    have htorn : Torn units.unitBytes w₀.disk.image.bytes
        (UnitsOf.written w₀.disk.image.bytes units) t.disk.image.bytes := by
      rw [himage]
      exact Torn.new _ hu.length_written
    have hidentity : t.disk.image.filesystemIdentity = w₀.disk.image.filesystemIdentity := by
      rw [himage]
      rfl
    exact .journaled ⟨fits, hjournal, htorn, hidentity, fun m hm => ⟨_, uncommitted m hm⟩,
      hmanifests, hpointer, hinitial, catalog⟩
  | pointer manifest succeeds disk catalog =>
    obtain ⟨himage, hjournal, hmanifests, hpointer, hinitial⟩ := Disk.settled_fields disk
    refine .published fits hjournal ⟨_, succeeds⟩ ⟨?_, ?_, hmanifests, hpointer, hinitial⟩ catalog
    · rw [himage]
      rfl
    · rw [himage]
      exact succeeds.fields.mutation.1.symm

/-- The cleanup step of a committed batch. -/
theorem unlinkJournal_safe (h : Recovering sha256 o w₀ admitted units)
    (fits : fitsJournalHeader metadataLength (undoJournal sha256 o admitted units).metadata)
    (hw : w = (w₀.journal (undoFile sha256 o admitted units)).setImage
      (UnitsOf.written w₀.disk.image.bytes units) mtimeNs)
    (hc : Committed sha256 o admitted (recoveredMutation sha256 o admitted units
      ⟨w₀.disk.image.filesystemIdentity, mtimeNs⟩) w t) :
    unlinkJournal.Safe Eq (Interrupted sha256 metadataLength o admitted units w₀)
      (fun result v => result = .ok () ∧ v.catalog = t.catalog ∧ ∃ manifest,
        Installs sha256 o admitted units manifest ∧ AtNext o admitted units manifest w₀ v) t := by
  obtain ⟨manifest, hs, hdisk, hproj⟩ := hc
  have hI := Committing.interrupted h.unitsOf.1 fits hw (.pointer manifest hs hdisk (.inr hproj))
  subst hw
  obtain ⟨himage, hjournal, hmanifests, hpointer, hinitial⟩ := Disk.settled_fields hdisk
  have hjournal : t.disk.journal = some (undoFile sha256 o admitted units) := hjournal
  have hpublished : Published units manifest w₀ { t with
    disk := { t.disk with journal := none } } := by
    refine ⟨?_, ?_, hmanifests, hpointer, hinitial⟩
    · simp only [himage]
      rfl
    · simp only [himage]
      exact hs.fields.mutation.1.symm
  have hnext : AtNext o admitted units manifest w₀
      { t with disk := { t.disk with journal := none } } :=
    ⟨hpublished, rfl, t.catalog, hproj, .refl _⟩
  refine .transaction_only hI (fun _ v hv => ?_) fun e he => ?_
  · simp only [hjournal, Option.isNone_some, Bool.false_eq_true, if_false, Except.ok.injEq,
      Prod.mk.injEq] at hv
    obtain ⟨-, rfl⟩ := hv
    exact ⟨.next ⟨_, hs⟩ hnext, rfl, rfl, manifest, ⟨_, hs⟩, hnext⟩
  · simp [hjournal] at he

/-- What a batch of a recovered sector needs to go through. -/
structure Admissible (sha256 : Hashed → Digest) (metadataLength : DvdRecoveryJournalMetadata → Nat)
    (o : DvdRecoveryBatchOptions) (w : World) : Prop where
  admitted : ∃ admitted, Begun sha256 o w admitted
  recorded : ∀ admitted, Begun sha256 o w admitted → Recorded w.catalog admitted.current.manifest
  fresh : ∀ admitted mutation manifest, Begun sha256 o w admitted →
    Succeeds sha256 o admitted mutation manifest →
    ∀ row ∈ w.catalog.manifests, row.manifestDigest ≠ manifest.manifestDigest
  units : ∀ admitted, Begun sha256 o w admitted → o.observation.outcome = .recovered →
    ∃ units, protectUnits o admitted w = .ok units ∧
      fitsJournalHeader metadataLength (undoJournal sha256 o admitted units).metadata

/-- A batch for a recovered sector, from a consistent state whose claim is bound. -/
theorem runOwnedBatch_recovered (hc : Consistent sha256 w₀ current)
    (hbound : BoundTo o.recoveryWorkClaim w₀.catalog)
    (ho : o.observation.outcome = .recovered) :
    (runOwnedBatch sha256 metadataLength o).Safe Eq (Cut sha256 metadataLength o w₀)
      (Ends (Admissible sha256 metadataLength o w₀ ∧
        Unobstructed o.pid (current.manifest.revision + 1) w₀.disk) fun t =>
        (∃ admitted units manifest, Recovering sha256 o w₀ admitted units ∧
          Installs sha256 o admitted units manifest ∧ AtNext o admitted units manifest w₀ t) ∧
        Unobstructed o.pid (current.manifest.revision + 1) w₀.disk) w₀ := by
  have hstart : Cut sha256 metadataLength o w₀ w₀ :=
    .base ⟨rfl, hc.journal, rfl, rfl, rfl, .refl _⟩
  refine .read_bind hstart (fun admitted hbatch => ?_) fun e he ha => ?_
  swap
  · obtain ⟨admitted, hb⟩ := ha.1.admitted
    exact nomatch (admitBatch_ok.2 hb).symm.trans he
  have hb := admitBatch_ok.1 hbatch
  have hcur := hb.current_eq hc
  have hnone := hc.latest _ (Nat.lt_succ_self _)
  rw [← hcur] at hnone
  simp only [ho]
  refine .read_bind hstart (fun units hunits => ?_) fun e he ha => ?_
  swap
  · obtain ⟨units, hok, -⟩ := ha.1.units admitted hb ho
    exact nomatch hok.symm.trans he
  have h : Recovering sha256 o w₀ admitted units := ⟨hb, ho, hunits⟩
  have hI (t : World) (ht : Interrupted sha256 metadataLength o admitted units w₀ t) :
      Cut sha256 metadataLength o w₀ t := .interrupted h ht
  refine mutateImage_bind h (fun ha => ?_) (fun t => .journaling) hI hnone fun mtimeNs fits => ?_
  · obtain ⟨units', hok, hfits⟩ := ha.1.units admitted hb ho
    exact Except.ok.inj (hok.symm.trans hunits) ▸ hfits
  refine .seq (commitManifest_safe hb rfl rfl hnone hbound
    (fun ha => ⟨ha.1.recorded _ hb, fun manifest => ha.1.fresh _ _ manifest hb, hcur ▸ ha.2⟩)
    fun t ht => hI t (ht.interrupted h.unitsOf.1 fits rfl)) ?_ fun e t he => he
  rintro committed t ht ⟨hcommitted, hfree⟩
  have hproj := hcommitted
  obtain ⟨manifest, -, -, claim, -, hadvance⟩ := hproj
  have hmay : assertMayMutate o false t = .ok () := hadvance.mayMutate hb.mayMutate
  refine batchStep_bind ht (fun _ => hmay) ((unlinkJournal_safe h fits rfl hcommitted).weaken hI
    fun _ _ hm => hm) ?_ ?_ fun e v hm => nomatch hm.1
  · rintro _ v ⟨-, hv, -⟩ -
    exact assertClaimed_of_mayMutate ((assertMayMutate_congr hv false).trans hmay)
  · rintro _ v hv ⟨-, -, manifest, hi, hn⟩
    exact .finish hv ⟨⟨admitted, units, manifest, h, hi, hn⟩, hcur ▸ hfree⟩

/-- What binding its claim does before a batch is admitted. -/
structure Binds (s : World) (claim : ClaimedArchiveRecoveryWork) (w₀ : World) : Prop where
  disk : w₀.disk = s.disk
  evidence : SameEvidence s.catalog w₀.catalog
  storage : w₀.catalog.storage = s.catalog.storage
  bound : BoundTo claim w₀.catalog
  recorded : ∀ current, Recorded s.catalog current → Recorded w₀.catalog current

/-- The options a batch goes on with under a bound claim. -/
def DvdRecoveryBatchOptions.under (o : DvdRecoveryBatchOptions)
    (claim : ClaimedArchiveRecoveryWork) : DvdRecoveryBatchOptions :=
  { o with recoveryWorkClaim := claim }

theorem bindVerification_binds {s : World}
    (h : bindVerification claim authority timestamp s.catalog = .ok (claim', c)) :
    Binds s claim' { s with catalog := c } := by
  simp only [bindVerification, bind_ok] at h
  obtain ⟨work, hw, h⟩ := h
  obtain ⟨hwork, -⟩ := requireCurrentArchiveRecoveryClaim_ok.1 hw
  split at h
  · cases h
  · simp only [bind_ok, pure_ok] at h
    obtain ⟨-, -, -, -, written, hwritten, bound, hbound, he⟩ := h
    obtain ⟨-, -, -, rfl⟩ := writeWork_ok.1 hwritten
    obtain ⟨-, -, -, -, hvalid, rfl⟩ := updateArchiveRecovery_ok.1 hbound
    obtain ⟨rfl, rfl⟩ := Prod.mk.inj he
    refine ⟨rfl, ⟨rfl, rfl, rfl, rfl, rfl, rfl, rfl⟩, rfl, fun row hr => ?_, fun current hr => ?_⟩
    · cases hr
      exact ⟨rfl, rfl⟩
    · refine ⟨hr.row, hr.integrity, hr.manifests, hr.reads, hvalid, fun row hm hst => ?_⟩
      cases hm
      exact hr.work work hwork hst

theorem bindRecoveryWorkClaim_safe {s : World} (hstart : I s)
    (hI : ∀ claim t, Binds s claim t → I t) :
    (bindRecoveryWorkClaim o).Safe Eq I (fun result t => match result with
      | .ok claim => Binds s claim t
      | .error _ => t = s) s := by
  refine .read_bind hstart (fun work hw => ?_) fun e _ => rfl
  obtain ⟨hwork, -⟩ := requireCurrentArchiveRecoveryClaim_ok.1 (withError_ok.1 hw)
  split
  · refine .transaction_only hstart (fun claim t ht => ?_) fun e _ => rfl
    obtain ⟨⟨_, c⟩, hb, he⟩ := map_ok.1 ht
    cases he
    have hbinds := bindVerification_binds (withError_ok.1 hb)
    exact ⟨hI claim _ hbinds, hbinds⟩
  · refine .finish hstart ⟨rfl, .refl _, rfl, fun row hr => ?_, fun _ hr => hr⟩
    cases hwork.symm.trans hr
    exact ⟨rfl, rfl⟩

/-- Where the whole of a batch can be cut off; `s` is where it was called. -/
inductive Stopped (sha256 : Hashed → Digest) (metadataLength : DvdRecoveryJournalMetadata → Nat)
    (o : DvdRecoveryBatchOptions) (s w : World) : Prop where
  | base (h : AtBase s w)
  | cut (claim : ClaimedArchiveRecoveryWork) (bound : World) (binds : Binds s claim bound)
    (h : Cut sha256 metadataLength (o.under claim) bound w)

theorem Binds.consistent {s : World} (hb : Binds s claim w₀) (hc : Consistent sha256 s current) :
    Consistent sha256 w₀ current := by
  obtain ⟨hj, ⟨previous, hr⟩, hv, hh⟩ := readCommittedDvdCheckpoint_ok.1 hc.committed
  refine ⟨?_, readCommittedDvdCheckpoint_ok.2 ⟨hb.disk ▸ hj, ⟨previous, ?_⟩, hb.disk ▸ hv, ?_⟩,
    hb.disk ▸ hc.latest⟩
  · rw [hb.evidence.archive]
    exact hb.evidence.root.isOf.2 hc.isOf
  · exact (read_congr (by rw [hb.disk]) (by rw [hb.disk]) (fun _ _ => by rw [hb.disk])
      hb.evidence).trans hr
  · rw [hb.disk, hb.evidence.header]
    exact hh

theorem Binds.base {s : World} (hb : Binds s claim w₀) (h : AtBase w₀ w) : AtBase s w :=
  ⟨hb.disk ▸ h.image, h.journal, hb.disk ▸ h.manifests, hb.disk ▸ h.pointer,
    hb.disk ▸ h.initialManifest, hb.evidence.trans h.catalog⟩

/-- What a batch needs from the state it is called in: to be admitted once its claim is bound. -/
def Called (sha256 : Hashed → Digest) (metadataLength : DvdRecoveryJournalMetadata → Nat)
    (o : DvdRecoveryBatchOptions) (s : World) : Prop :=
  ∃ claim w₀, (bindRecoveryWorkClaim o).run s = (.ok claim, w₀) ∧
    Admissible sha256 metadataLength (o.under claim) w₀

/-- A batch is its own work, under the claim it binds first. -/
theorem commitDvdRecoveryBatch_bound {s : World} {able : Prop} {Q : World → Prop} (hstart : I s)
    (hI : ∀ claim t, Binds s claim t → I t) (hcalled : able → Called sha256 metadataLength o s)
    (own : ∀ claim w₀, Binds s claim w₀ →
      (able → Admissible sha256 metadataLength (o.under claim) w₀) →
      (runOwnedBatch sha256 metadataLength (o.under claim)).Safe Eq I (Ends able Q) w₀) :
    (commitDvdRecoveryBatch sha256 metadataLength o).Safe Eq I (Ends able Q) s := by
  refine .seq (bindRecoveryWorkClaim_safe hstart hI).with_run ?_ ?_
  · intro claim w₀ hI₀ hbound
    obtain ⟨hb, hrun⟩ := hbound
    have hadm (ha : able) : Admissible sha256 metadataLength (o.under claim) w₀ := by
      obtain ⟨claim', w', hrun', hadm⟩ := hcalled ha
      obtain ⟨he, rfl⟩ := Prod.mk.inj (hrun'.symm.trans hrun)
      exact Except.ok.inj he ▸ hadm
    refine .read_bind hI₀ (fun _ _ => .read_bind hI₀ (fun _ _ => own claim w₀ hb hadm) ?_) ?_
    · intro e he ha
      obtain ⟨admitted, hbegun⟩ := (hadm ha).admitted
      rw [(Authoritative.of_committed hbegun.committed).1.pathId] at he
      simp [rejectIf] at he
    · intro e he ha
      obtain ⟨admitted, hbegun⟩ := (hadm ha).admitted
      obtain ⟨-, work, hw, hauth⟩ := assertMayMutate_ok.1 hbegun.mayMutate
      have hok : assertRecoveryWriteAuthority (o.under claim) true w₀.catalog = .ok () :=
        bind_ok.2 ⟨work, withError_ok.2 hw, rejectIf_ok.2 (not_not.2 hauth)⟩
      cases hok.symm.trans he
  · intro e t hm ha
    obtain ⟨claim, w₀, hrun, -⟩ := hcalled ha
    cases hm.2.symm.trans hrun

theorem commitDvdRecoveryBatch_safe {s : World} (hc : Consistent sha256 s current)
    (ho : o.observation.outcome = .recovered) :
    (commitDvdRecoveryBatch sha256 metadataLength o).Safe Eq (Stopped sha256 metadataLength o s)
      (Ends (Called sha256 metadataLength o s ∧
        Unobstructed o.pid (current.manifest.revision + 1) s.disk) fun t =>
        Unobstructed o.pid (current.manifest.revision + 1) s.disk ∧
        ∃ claim w₀ admitted units manifest, Binds s claim w₀ ∧
          Recovering sha256 (o.under claim) w₀ admitted units ∧
          Installs sha256 (o.under claim) admitted units manifest ∧
          AtNext (o.under claim) admitted units manifest w₀ t) s := by
  have hbase : AtBase s s := ⟨rfl, hc.journal, rfl, rfl, rfl, .refl _⟩
  refine commitDvdRecoveryBatch_bound (.base hbase) ?_ And.left ?_
  · intro claim t hb
    exact .base (hb.base ⟨rfl, (hb.consistent hc).journal, rfl, rfl, rfl, .refl _⟩)
  · intro claim w₀ hb hadm
    have hown := @runOwnedBatch_recovered sha256 metadataLength (o.under claim) w₀ current
      (hb.consistent hc) hb.bound ho
    refine hown.weaken (fun w hw => .cut claim w₀ hb hw) ?_
    intro result t ht
    cases result with
    | ok =>
      obtain ⟨⟨admitted, units, manifest, hr, hi, hn⟩, hfree⟩ := ht
      exact ⟨hb.disk ▸ hfree, claim, w₀, admitted, units, manifest, hb, hr, hi, hn⟩
    | error => exact fun ha => ht ⟨hadm ha, hb.disk ▸ ha.2⟩

/-- Equal digests of corresponding parts of two files mean equal parts. -/
def Distinguishes (sha256 : Hashed → Digest) (a b : Bytes) : Prop :=
  ∀ start count, sha256 (.bytes (slice a start count)) = sha256 (.bytes (slice b start count)) →
    slice a start count = slice b start count

theorem Recovering.distinct (h : Recovering sha256 o w₀ admitted units)
    (hash : Distinguishes sha256 w₀.disk.image.bytes
      (patch w₀.disk.image.bytes (o.observation.startLba * 2048) o.observation.bytes)) :
    UnitsDistinct sha256 units := by
  have hu := h.unitsOf.1
  intro index hi he
  rw [← written_sector h.protect (h.begun.bytes h.outcome)] at hash
  rw [hu.unit_before hi, hu.unit_after hi] at he ⊢
  exact hash _ _ he

/-- The batch of a recovered sector is committed: the sector is in the image, the next manifest is
current everywhere, and one read and one manifest have been recorded for it. -/
structure AtSuccessor (sha256 : Hashed → Digest) (o : DvdRecoveryBatchOptions)
    (current : CommittedDvdCheckpointEvidence) (manifest : CommittedDvdRecoveryEvidence)
    (s t : World) : Prop where
  bytes : t.disk.image.bytes =
    patch s.disk.image.bytes (o.observation.startLba * 2048) o.observation.bytes
  version : t.disk.image.version = manifest.image
  journal : t.disk.journal = none
  manifests : t.disk.manifests =
    (s.disk.setManifest (current.manifest.revision + 1) (some manifest)).manifests
  pointer : t.disk.pointer = pointerTo (.recovery manifest)
  initialManifest : t.disk.initialManifest = s.disk.initialManifest
  revision : manifest.revision = current.manifest.revision + 1
  predecessor : manifest.previousManifestId = some current.manifest.id ∧
    manifest.previousManifestDigest = some current.manifest.manifestDigest
  ranges : dvdEvidenceRangesAfterRecoveryRead current.manifest.unrecoveredSourceRanges
    o.observation.startLba .recovered = .ok manifest.unrecoveredSourceRanges
  root : SameRoot s.catalog t.catalog
  header : projectedIdentity t.catalog.header = checkpointIdentity (.recovery manifest)
  rows : (∃ row, row.toRecoveryRead = manifest.recoveryRead ∧
      t.catalog.recoveryReads = s.catalog.recoveryReads ++ [row]) ∧
    ∃ row, row.toEvidenceManifest = manifest.toEvidenceManifest ∧
      t.catalog.manifests = s.catalog.manifests ++ [row]
  committed : readCommittedDvdCheckpoint sha256 t.disk t.catalog = .ok (.recovery manifest)

theorem AtNext.successor {s : World} (hb : Binds s claim w₀) (hc : Consistent sha256 s current)
    (h : Recovering sha256 (o.under claim) w₀ admitted units)
    (hi : Installs sha256 (o.under claim) admitted units manifest)
    (hn : AtNext (o.under claim) admitted units manifest w₀ w) :
    AtSuccessor sha256 o current manifest s w := by
  obtain rfl : admitted.current = current := h.begun.current_eq (hb.consistent hc)
  have hf := hi.fields
  obtain ⟨c, hproj, hsame⟩ := hn.catalog
  have hheader : projectedIdentity w.catalog.header = checkpointIdentity (.recovery manifest) := by
    rw [hsame.header]
    exact hproj.header
  have hroot := hproj.root.trans hsame.root
  obtain ⟨held, -, hadv⟩ := hproj
  obtain ⟨⟨read, hread, hreads⟩, row, hrow, hrows⟩ := hadv.rows
  have hp := hn.published
  refine ⟨?_, hp.version, hn.journal, ?_, hp.pointer, hb.disk ▸ hp.initialManifest, hf.revision,
    ⟨hf.previous.1, hf.previous.2.1⟩, h.outcome ▸ hf.ranges, hb.evidence.root.trans hroot, hheader,
    ⟨⟨read, hread.trans hf.read.1.symm, ?_⟩, row, hrow, ?_⟩, ?_⟩
  · rw [hp.bytes, UnitsOf.written, written_sector h.protect (h.begun.bytes h.outcome), hb.disk]
    rfl
  · rw [hp.manifests, hf.revision, hb.disk]
  · rw [hsame.recoveryReads, hreads, hb.evidence.recoveryReads]
  · rw [hsame.manifests, hrows, hb.evidence.manifests]
  · refine readCommittedDvdCheckpoint_ok.2 ⟨hn.journal,
      ⟨_, h.next_read hi hp hroot (.inr hheader)⟩, h.next_image hi hp, ?_⟩
    simp only [projectedIdentity, checkpointIdentity, CheckpointIdentity.mk.injEq] at hheader
    rw [hp.pointer]
    exact ⟨hheader.2.1, hheader.1, hheader.2.2⟩

/-- A reconciliation that nothing hinders, of an archive whose rows are in order. -/
structure Repairable (sha256 : Hashed → Digest) (o : DvdRecoveryBatchOptions)
    (current : CommittedDvdCheckpointEvidence) (s : World)
    (r : DvdRecoveryReconciliationOptions) : Prop extends Unhindered r s where
  recorded : Recorded s.catalog current.manifest
  fresh : ∀ claim w₀ admitted mutation manifest, Binds s claim w₀ →
    Begun sha256 (o.under claim) w₀ admitted →
    Succeeds sha256 (o.under claim) admitted mutation manifest →
    ∀ row ∈ s.catalog.manifests, row.manifestDigest ≠ manifest.manifestDigest

theorem Repairable.able {s : World} {r : DvdRecoveryReconciliationOptions}
    (ha : Repairable sha256 o current s r) (hb : Binds s claim w₀)
    (hc : Consistent sha256 s current) (h : Recovering sha256 (o.under claim) w₀ admitted units) :
    Able sha256 r (o.under claim) admitted units w₀ where
  claim := ha.claim
  archiveId := ha.archiveId.trans (congrArg (·.id) hb.evidence.archive.symm)
  inspected protection hp := ha.inspected protection (by
    rw [← hp, requireMutationProtection, requireMutationProtection, hb.storage])
  release := ha.release
  recorded := by
    rw [h.begun.current_eq (hb.consistent hc)]
    exact hb.recorded _ ha.recorded
  fresh manifest hi row hr := by
    obtain ⟨image, hs⟩ := hi
    exact ha.fresh claim w₀ admitted _ manifest hb h.begun hs row (hb.evidence.manifests ▸ hr)

/-- The two states a reconciled batch can be in are different ones. -/
theorem AtBase.not_successor {s : World} (hc : Consistent sha256 s current) (h : AtBase s w) :
    ¬AtSuccessor sha256 o current manifest s w := by
  intro hn
  have hrev := congrArg DvdCheckpointPointer.currentManifestRevision
    (h.pointer.symm.trans hn.pointer)
  rw [(Authoritative.of_committed hc.committed).1.pointer] at hrev
  have := hn.revision
  simp only [pointerTo, CommittedDvdCheckpointEvidence.manifest_recovery] at hrev
  omega

/-- What reconciling a batch that was cut off ends in. -/
theorem Stopped.reconciles {s : World} (hc : Consistent sha256 s current)
    (hash : Distinguishes sha256 s.disk.image.bytes
      (patch s.disk.image.bytes (o.observation.startLba * 2048) o.observation.bytes))
    (hstop : Stopped sha256 metadataLength o s w)
    (complete : ∀ journal ∈ w.disk.journal, journal.Complete)
    (attempts : Attempts (reconcileDvdRecoveryCheckpoint sha256 metadataLength) w t)
    (r : DvdRecoveryReconciliationOptions) :
    ∃ I, (reconcileDvdRecoveryCheckpoint sha256 metadataLength r).Safe Eq I
      (Ends (Repairable sha256 o current s r) fun v => AtBase s v ∨
        ∃ manifest, AtSuccessor sha256 o current manifest s v) t := by
  have hbase (hb : AtBase s w) : ∃ I, (reconcileDvdRecoveryCheckpoint sha256 metadataLength r).Safe
      Eq I (Ends (Repairable sha256 o current s r) fun v => AtBase s v ∨
        ∃ manifest, AtSuccessor sha256 o current manifest s v) t := by
    have ht := attempts.safe (fun r _ hb => AtBase.safe hc r hb) hb
    refine ⟨_, (ht.safe hc r).weaken (fun _ hI => hI) fun result v hv => ?_⟩
    cases result with
    | ok => exact .inl hv
    | error => exact fun ha => hv ha.toUnhindered
  cases hstop with
  | base hb => exact hbase hb
  | cut claim w₀ hb hcut =>
    cases hcut with
    | journaling hj =>
      obtain ⟨file, hn, rfl⟩ := hj
      exact absurd (complete file rfl) hn
    | base h => exact hbase (hb.base h)
    | interrupted h hI =>
      have hc₀ := h.begun.current_eq (hb.consistent hc) ▸ hb.consistent hc
      have hd := h.distinct (hb.disk ▸ hash)
      have ht := attempts.safe (fun r _ hI => Interrupted.safe h hc₀ hd r hI) hI
      refine ⟨_, (ht.safe h hc₀ hd r).weaken (fun _ hI => hI) fun result v hv => ?_⟩
      cases result with
      | ok =>
        rcases hv with hv | ⟨manifest, hi, hn⟩
        · exact .inl (hb.base hv)
        · exact .inr ⟨manifest, hn.successor hb hc h hi⟩
      | error => exact fun ha => hv (ha.able hb hc h)

/-- However a batch of a recovered sector is cut off once its journal is complete, and however
often its reconciliation is, a reconciliation that returns leaves the base or its successor; one
that nothing hinders returns. -/
theorem commitDvdRecoveryBatch_atomic {s : World} (hc : Consistent sha256 s current)
    (ho : o.observation.outcome = .recovered)
    (hash : Distinguishes sha256 s.disk.image.bytes
      (patch s.disk.image.bytes (o.observation.startLba * 2048) o.observation.bytes))
    (crash : w ∈ (commitDvdRecoveryBatch sha256 metadataLength o).crashes s)
    (complete : ∀ journal ∈ w.disk.journal, journal.Complete)
    (attempts : Attempts (reconcileDvdRecoveryCheckpoint sha256 metadataLength) w t)
    (r : DvdRecoveryReconciliationOptions) :
    (∀ result v, (reconcileDvdRecoveryCheckpoint sha256 metadataLength r).run t = (.ok result, v) →
      Xor (AtBase s v) (∃ manifest, AtSuccessor sha256 o current manifest s v)) ∧
    (Repairable sha256 o current s r → ∃ result v,
      (reconcileDvdRecoveryCheckpoint sha256 metadataLength r).run t = (.ok result, v)) := by
  have hstop := (commitDvdRecoveryBatch_safe hc ho).crashes (fun _ => rfl) crash
  obtain ⟨I, hsafe⟩ := hstop.reconciles hc hash complete attempts r
  have hrun := hsafe.run fun _ => rfl
  cases hr : (reconcileDvdRecoveryCheckpoint sha256 metadataLength r).run t with
  | mk result v =>
    rw [hr] at hrun
    cases result with
    | ok a =>
      refine ⟨fun result v' he => ?_, fun _ => ⟨a, v, rfl⟩⟩
      obtain ⟨-, rfl⟩ := Prod.mk.inj he
      rcases hrun with hb | hn
      · exact .inl ⟨hb, fun ⟨_, hn⟩ => hb.not_successor hc hn⟩
      · exact .inr ⟨hn, fun hb => hn.elim fun _ h => hb.not_successor hc h⟩
    | error e => exact ⟨fun _ _ he => (nomatch he), fun ha => absurd ha hrun⟩

/-! A batch for the first sector of the sample archive, in two storage units. -/

def sampleImage : ImageFile := ⟨⟨1, 1⟩, List.replicate 4096 0, 0⟩

def sampleInitial : CommittedDvdInitialEvidence where
  toEvidenceManifest := sampleManifest
  sourceArchiveJobId := "job"
  image := sampleImage.version
  boundaryEvidence := sampleBoundary
  declaredByteCount := 4096
  recoveredByteCount := 0
  publicationDigest := 0

def sampleWorld : World where
  disk := {
    image := sampleImage
    initialManifest := sampleInitial
    pointer := pointerTo (.initial sampleInitial)
    manifests := fun _ => none
    journal := none
    manifestTemporaries := fun _ _ => none
    pointerTemporaries := fun _ => none }
  catalog := sampleCatalog

def sampleBatch : DvdRecoveryBatchOptions where
  originalDiscArchiveId := "archive"
  recoveryWorkClaim := sampleClaim
  writeAuthority := ⟨"verification", "recovery", "attempt", "archive", "inspection", "disc",
    "generation", "execution", 1, 1, none⟩
  observation := ⟨0, .recovered, List.replicate 2048 1⟩
  inspected := some sampleProtection
  pid := 1
  now := 1
  writtenAt := fun index => index + 1

def sampleMetadataLength : DvdRecoveryJournalMetadata → Nat := fun _ => 4096

def sampleReconciliation : DvdRecoveryReconciliationOptions where
  originalDiscArchiveId := "archive"
  releaseRecoveryWork := false
  assertClaim := fun _ => true
  inspected := some sampleProtection
  now := 2
  restoredAt := fun index => index + 3

theorem sampleWorld_consistent :
    Consistent sampleSha256 sampleWorld (.initial sampleInitial) :=
  ⟨⟨rfl, rfl, rfl⟩, by decide +kernel, fun _ _ => rfl⟩

theorem slice_zeros {a : Bytes} (h : (slice a start count).all (· = 0) = true) :
    slice a start count = List.replicate (min count (a.length - start)) 0 :=
  List.eq_replicate_iff.2 ⟨length_slice .., by simpa using h⟩

theorem sampleWorld_distinguishes : Distinguishes sampleSha256 sampleWorld.disk.image.bytes
    (patch sampleWorld.disk.image.bytes (sampleBatch.observation.startLba * 2048)
      sampleBatch.observation.bytes) := by
  intro start count h
  have ha : (slice sampleWorld.disk.image.bytes start count).all (· = 0) = true := by
    refine List.all_eq_true.2 fun b hb => ?_
    have hb := List.mem_of_mem_drop (List.mem_of_mem_take hb)
    exact decide_eq_true (List.eq_of_mem_replicate hb)
  have hb : (slice (patch sampleWorld.disk.image.bytes (sampleBatch.observation.startLba * 2048)
      sampleBatch.observation.bytes) start count).all (· = 0) = true := by
    by_contra hn
    simp only [sampleSha256, if_pos ha, if_neg hn] at h
    exact absurd h (by decide)
  have hlen : sampleBatch.observation.startLba * 2048 + sampleBatch.observation.bytes.length ≤
      sampleWorld.disk.image.bytes.length := by
    decide +kernel
  rw [slice_zeros ha, slice_zeros hb, length_patch hlen]

theorem sampleWorld_repairable : Repairable sampleSha256 sampleBatch (.initial sampleInitial)
    sampleWorld sampleReconciliation where
  claim _ := rfl
  archiveId := rfl
  inspected _ h := by
    obtain rfl := Except.ok.inj h
    rfl
  release := rfl
  recorded :=
    { row := ⟨_, rfl, rfl⟩
      integrity := rfl
      manifests := by
        rintro row hr
        obtain rfl := List.mem_singleton.1 hr
        exact ⟨Nat.le_refl _, .inl rfl, fun _ hid => nomatch hid⟩
      reads _ hr := nomatch hr
      recovery := by decide
      work := by
        rintro row hr -
        cases hr
        exact ⟨rfl, by decide, ⟨0, rfl⟩, ⟨1, Nat.le_refl _, rfl⟩, ⟨2, by decide, rfl, rfl⟩,
          0, 0, rfl, rfl⟩ }
  fresh := by
    rintro claim w₀ admitted mutation manifest hb hbegun hs row hr
    obtain rfl := List.mem_singleton.1 hr
    have hf := hs.fields
    obtain ⟨-, _, -, hdigests⟩ := createDvdArchiveEvidenceManifestDigests_ok.1
      (assertDvdArchiveEvidenceManifestDigests_ok.1 hf.digests)
    rw [← (Prod.mk.inj hdigests).2, sampleSha256]
    simp only [hf.revision, hbegun.current_eq (hb.consistent sampleWorld_consistent)]
    decide

/-- Cut off between the two unit writes, the batch is repaired. -/
theorem sampleBatch_atomic : ∃ cut ∈
    (commitDvdRecoveryBatch sampleSha256 sampleMetadataLength sampleBatch).crashes sampleWorld,
    cut.disk.image.bytes.count 1 = 1024 ∧ ∃ result v,
      (reconcileDvdRecoveryCheckpoint sampleSha256 sampleMetadataLength sampleReconciliation).run
        cut = (.ok result, v) ∧
      Xor (AtBase sampleWorld v)
        (∃ manifest, AtSuccessor sampleSha256 sampleBatch (.initial sampleInitial) manifest
          sampleWorld v) := by
  have hcut : ((commitDvdRecoveryBatch sampleSha256 sampleMetadataLength sampleBatch).crashes
      sampleWorld)[16]?.any (fun cut => cut.disk.image.bytes.count 1 = 1024 ∧
        cut.disk.journal.all (·.Complete)) = true := by decide +kernel
  obtain ⟨cut, hget, hcut⟩ := (Option.any_eq_true ..).1 hcut
  obtain ⟨htorn, hjournal⟩ := of_decide_eq_true hcut
  have hmem := List.mem_of_getElem? hget
  obtain ⟨hstate, hreturns⟩ := commitDvdRecoveryBatch_atomic sampleWorld_consistent rfl
    sampleWorld_distinguishes hmem (fun file hf =>
      of_decide_eq_true ((Option.all_eq_true ..).1 hjournal file hf)) .none
    sampleReconciliation
  obtain ⟨result, v, hrun⟩ := hreturns sampleWorld_repairable
  exact ⟨cut, hmem, htorn, result, v, hrun, hstate result v hrun⟩

end RipDvd
