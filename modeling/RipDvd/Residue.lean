import RipDvd.Atomicity

namespace RipDvd
set_option autoImplicit true

variable {sha256 : Hashed → Digest} {metadataLength : DvdRecoveryJournalMetadata → Nat}
  {o : DvdRecoveryBatchOptions} {current : CommittedDvdCheckpointEvidence}
  {manifest : CommittedDvdRecoveryEvidence} {s t v w w₀ : World}

/-- A batch for a failed read writes no journal and leaves the image alone. -/
theorem runOwnedBatch_failed (hc : Consistent sha256 w₀ current)
    (hbound : BoundTo o.recoveryWorkClaim w₀.catalog) (ho : o.observation.outcome = .failed) :
    (runOwnedBatch sha256 metadataLength o).Safe Eq (fun _ => True)
      (Ends (Admissible sha256 metadataLength o w₀ ∧
        Unobstructed o.pid (current.manifest.revision + 1) w₀.disk) fun _ =>
        Unobstructed o.pid (current.manifest.revision + 1) w₀.disk) w₀ := by
  refine .read_bind trivial ?_ ?_
  · intro admitted hbatch
    have hb := admitBatch_ok.1 hbatch
    have hcur := hb.current_eq hc
    simp only [ho]
    have hcommit := @commitManifest_safe sha256 o (Admissible sha256 metadataLength o w₀ ∧
      Unobstructed o.pid (current.manifest.revision + 1) w₀.disk) (fun _ => True) admitted
      ⟨admitted.current.image, none, []⟩ w₀ w₀ hb rfl rfl
      (hcur ▸ hc.latest _ (Nat.lt_succ_self _)) hbound
      (fun ha => ⟨ha.1.recorded _ hb, fun manifest => ha.1.fresh _ _ manifest hb, hcur ▸ ha.2⟩)
      (fun _ _ => trivial)
    refine hcommit.weaken (fun _ h => h) ?_
    intro result t ht
    cases result with
    | ok => exact hcur ▸ ht.2
    | error => exact ht
  · intro e he ha
    obtain ⟨admitted, hb⟩ := ha.1.admitted
    exact nomatch (admitBatch_ok.2 hb).symm.trans he

/-- A batch that is called as it should be completes exactly when no temporary of its process is
in its way. -/
theorem commitDvdRecoveryBatch_completes (hc : Consistent sha256 s current)
    (called : Called sha256 metadataLength o s) :
    (∃ committed t, (commitDvdRecoveryBatch sha256 metadataLength o).run s = (.ok committed, t)) ↔
      Unobstructed o.pid (current.manifest.revision + 1) s.disk := by
  have hends : Ends (Called sha256 metadataLength o s ∧
      Unobstructed o.pid (current.manifest.revision + 1) s.disk)
      (fun _ => Unobstructed o.pid (current.manifest.revision + 1) s.disk)
      ((commitDvdRecoveryBatch sha256 metadataLength o).run s).1
      ((commitDvdRecoveryBatch sha256 metadataLength o).run s).2 := by
    cases ho : o.observation.outcome with
    | recovered =>
      have hrun := (@commitDvdRecoveryBatch_safe sha256 metadataLength o current s hc ho).run
        fun _ => rfl
      revert hrun
      cases ((commitDvdRecoveryBatch sha256 metadataLength o).run s).1 with
      | ok => exact fun h => h.1
      | error => exact fun h => h
    | failed =>
      refine Program.Safe.run (I := fun _ => True) ?_ fun _ => rfl
      refine commitDvdRecoveryBatch_bound trivial (fun _ _ _ => trivial) And.left ?_
      intro claim w₀ hb hadm
      have hown := @runOwnedBatch_failed sha256 metadataLength (o.under claim) current w₀
        (hb.consistent hc) hb.bound ho
      refine hown.weaken (fun _ h => h) ?_
      intro result t ht
      cases result with
      | ok => exact hb.disk ▸ ht
      | error => exact fun ha => ht ⟨hadm ha, hb.disk ▸ ha.2⟩
  constructor
  · intro h
    obtain ⟨committed, t, hrun⟩ := h
    rw [hrun] at hends
    exact hends
  · intro hfree
    cases hrun : (commitDvdRecoveryBatch sha256 metadataLength o).run s with
    | mk result t =>
      rw [hrun] at hends
      cases result with
      | ok committed => exact ⟨committed, t, rfl⟩
      | error => exact absurd ⟨called, hfree⟩ hends

/-- The base of a batch is as consistent as it was. -/
theorem AtBase.consistent (hc : Consistent sha256 s current) (h : AtBase s w) :
    Consistent sha256 w current := by
  obtain ⟨-, -, hv, hh⟩ := readCommittedDvdCheckpoint_ok.1 hc.committed
  refine ⟨?_, readCommittedDvdCheckpoint_ok.2 ⟨h.journal, h.read hc, h.image ▸ hv, ?_⟩, ?_⟩
  · rw [h.catalog.archive]
    exact h.catalog.root.isOf.2 hc.isOf
  · rw [h.catalog.header, h.pointer]
    exact hh
  · rw [h.manifests]
    exact hc.latest

/-- So is its successor. -/
theorem AtSuccessor.consistent (hc : Consistent sha256 s current)
    (h : AtSuccessor sha256 o current manifest s w) : Consistent sha256 w (.recovery manifest) := by
  refine ⟨?_, h.committed, ?_⟩
  · rw [h.root.archive.1]
    exact h.root.isOf.2 hc.isOf
  · intro revision hr
    simp only [CommittedDvdCheckpointEvidence.manifest_recovery, h.revision] at hr
    rw [h.manifests]
    simp only [Disk.setManifest, if_neg (Nat.ne_of_gt hr)]
    exact hc.latest revision (by omega)

/-- Later work on the rows of an archive does not move its checkpoint. -/
theorem Consistent.later (hc : Consistent sha256 s current) (hd : t.disk = s.disk)
    (he : SameEvidence s.catalog t.catalog) : Consistent sha256 t current :=
  AtBase.consistent hc ⟨congrArg _ hd, hd ▸ hc.journal, congrArg _ hd, congrArg _ hd,
    congrArg _ hd, he⟩

/-- After a crash and a reconciliation that returned, a batch completes exactly when the crash has
left no temporary in the name of the process that runs it. -/
theorem commitDvdRecoveryBatch_after_crash (hc : Consistent sha256 s current)
    (ho : o.observation.outcome = .recovered)
    (hash : Distinguishes sha256 s.disk.image.bytes
      (patch s.disk.image.bytes (o.observation.startLba * 2048) o.observation.bytes))
    (crash : w ∈ (commitDvdRecoveryBatch sha256 metadataLength o).crashes s)
    (complete : ∀ journal ∈ w.disk.journal, journal.Complete)
    (attempts : Attempts (reconcileDvdRecoveryCheckpoint sha256 metadataLength) w t)
    (returned : (reconcileDvdRecoveryCheckpoint sha256 metadataLength r).run t = (.ok result, v))
    (disk : v'.disk = v.disk) (rows : SameEvidence v.catalog v'.catalog)
    (called : Called sha256 metadataLength next v') :
    ∃ base, Consistent sha256 v' base ∧
      (base = current ∨ base.manifest.revision = current.manifest.revision + 1) ∧
      ((∃ committed u, (commitDvdRecoveryBatch sha256 metadataLength next).run v' =
          (.ok committed, u)) ↔
        Unobstructed next.pid (base.manifest.revision + 1) v'.disk) := by
  have hstop := (commitDvdRecoveryBatch_safe hc ho).crashes (fun _ => rfl) crash
  obtain ⟨I, hsafe⟩ := hstop.reconciles hc hash complete attempts r
  have hrun := hsafe.run fun _ => rfl
  rw [returned] at hrun
  cases hrun with
  | inl hb =>
    have hlater := (hb.consistent hc).later disk rows
    exact ⟨current, hlater, .inl rfl, commitDvdRecoveryBatch_completes hlater called⟩
  | inr hn =>
    obtain ⟨manifest, hn⟩ := hn
    have hlater := (hn.consistent hc).later disk rows
    exact ⟨.recovery manifest, hlater, .inr hn.revision,
      commitDvdRecoveryBatch_completes hlater called⟩

/-! The sample batch, cut off while the temporary of its manifest is there. -/

@[irreducible] def sampleCut : World :=
  (((commitDvdRecoveryBatch sampleSha256 sampleMetadataLength sampleBatch).crashes
    sampleWorld)[29]?).getD sampleWorld

@[irreducible] def sampleReconciled : World :=
  ((reconcileDvdRecoveryCheckpoint sampleSha256 sampleMetadataLength sampleReconciliation).run
    sampleCut).2

theorem sampleReconciled_facts :
    ((commitDvdRecoveryBatch sampleSha256 sampleMetadataLength sampleBatch).crashes
      sampleWorld)[29]?.isSome = true ∧
    sampleCut.disk.journal.all (·.Complete) = true ∧
    ((reconcileDvdRecoveryCheckpoint sampleSha256 sampleMetadataLength sampleReconciliation).run
      sampleCut).1.isOk = true ∧
    sampleReconciled.catalog = sampleCatalog ∧
    (do
      let admitted ← admitBatch sampleSha256 sampleBatch sampleReconciled
      protectUnits sampleBatch admitted sampleReconciled).isOk = true := by
  decide +kernel

theorem mem_of_isSome {l : List α} {i : Nat} (h : l[i]?.isSome = true) (a : α) :
    l[i]?.getD a ∈ l := by
  obtain ⟨b, hb⟩ := Option.isSome_iff_exists.1 h
  rw [hb]
  exact List.mem_of_getElem? hb

theorem sampleCut_mem : sampleCut ∈
    (commitDvdRecoveryBatch sampleSha256 sampleMetadataLength sampleBatch).crashes sampleWorld := by
  unfold sampleCut
  exact mem_of_isSome sampleReconciled_facts.1 sampleWorld

theorem sampleCut_complete : ∀ journal ∈ sampleCut.disk.journal, journal.Complete := by
  intro journal hj
  exact of_decide_eq_true ((Option.all_eq_true ..).1 sampleReconciled_facts.2.1 journal hj)

theorem sampleReconciled_run : ∃ result,
    (reconcileDvdRecoveryCheckpoint sampleSha256 sampleMetadataLength sampleReconciliation).run
      sampleCut = (.ok result, sampleReconciled) := by
  obtain ⟨result, hr⟩ := exists_ok sampleReconciled_facts.2.2.1
  refine ⟨result, Prod.ext hr ?_⟩
  rw [sampleReconciled]

/-- The cut-off batch has been rolled back. -/
theorem sampleReconciled_consistent :
    Consistent sampleSha256 sampleReconciled (.initial sampleInitial) := by
  obtain ⟨result, hrun⟩ := sampleReconciled_run
  have hstate := (@commitDvdRecoveryBatch_safe sampleSha256 sampleMetadataLength sampleBatch
    (.initial sampleInitial) sampleWorld sampleWorld_consistent rfl).crashes (fun _ => rfl)
    sampleCut_mem
  obtain ⟨I, hsafe⟩ := hstate.reconciles sampleWorld_consistent sampleWorld_distinguishes
    sampleCut_complete .none sampleReconciliation
  have hends := hsafe.run fun _ => rfl
  rw [hrun] at hends
  cases hends with
  | inl hb => exact hb.consistent sampleWorld_consistent
  | inr hn =>
    obtain ⟨manifest, hn⟩ := hn
    have hheader := congrArg CheckpointIdentity.revision hn.header
    have hrev : manifest.revision = 1 + 1 := hn.revision
    rw [sampleReconciled_facts.2.2.2.1] at hheader
    exact absurd (hheader.trans hrev) (by decide)

theorem sampleBatch_called (pid : Nat) :
    Called sampleSha256 sampleMetadataLength { sampleBatch with pid } sampleReconciled := by
  obtain ⟨units, hunits⟩ := exists_ok sampleReconciled_facts.2.2.2.2
  obtain ⟨admitted, hbatch, hprotect⟩ := bind_ok.1 hunits
  have hc := sampleReconciled_facts.2.2.2.1
  have hcurrent {o admitted} (hb : Begun sampleSha256 o sampleReconciled admitted) :
      admitted.current = .initial sampleInitial := hb.current_eq sampleReconciled_consistent
  refine ⟨sampleClaim, sampleReconciled, ?_, ?_⟩
  · generalize sampleReconciled = w at hc
    cases w with
    | mk disk catalog =>
      cases hc
      rfl
  · exact
      { admitted := ⟨admitted, admitBatch_ok.1 hbatch⟩
        recorded := by
          intro admitted hb
          rw [hc, hcurrent hb]
          exact sampleWorld_repairable.recorded
        fresh := by
          intro admitted mutation manifest hb hs row hr
          rw [hc] at hr
          obtain rfl := List.mem_singleton.1 hr
          obtain ⟨-, _, -, hdigests⟩ := createDvdArchiveEvidenceManifestDigests_ok.1
            (assertDvdArchiveEvidenceManifestDigests_ok.1 hs.fields.digests)
          rw [← (Prod.mk.inj hdigests).2, sampleSha256]
          simp only [hs.fields.revision, hcurrent hb]
          decide
        units := by
          intro admitted' hb _
          have he := Except.ok.inj ((admitBatch_ok.2 hb).symm.trans hbatch)
          exact ⟨units, he ▸ hprotect, (by decide : 64 + 4096 ≤ 65536)⟩ }

theorem sampleBatch_completes : ∃ base, Consistent sampleSha256 sampleReconciled base ∧
    (base = .initial sampleInitial ∨ base.manifest.revision = 1 + 1) ∧
    ((∃ committed u, (commitDvdRecoveryBatch sampleSha256 sampleMetadataLength
        { sampleBatch with pid := 2 }).run sampleReconciled = (.ok committed, u)) ↔
      Unobstructed 2 (base.manifest.revision + 1) sampleReconciled.disk) := by
  obtain ⟨result, hrun⟩ := sampleReconciled_run
  exact commitDvdRecoveryBatch_after_crash sampleWorld_consistent rfl sampleWorld_distinguishes
    sampleCut_mem sampleCut_complete .none hrun rfl (.refl _) (sampleBatch_called 2)

/-- The fault that a run has ended with. -/
def faultOf : Except ε α → Option ε
  | .ok _ => none
  | .error fault => some fault

/-- A second batch of the process that was cut off finds its own temporary in the way. -/
theorem sampleBatch_obstructed :
    sampleCut ∈ (commitDvdRecoveryBatch sampleSha256 sampleMetadataLength sampleBatch).crashes
      sampleWorld ∧
    sampleCut.disk.journal.any (·.Complete) = true ∧
    (∃ result, (reconcileDvdRecoveryCheckpoint sampleSha256 sampleMetadataLength
      sampleReconciliation).run sampleCut = (.ok result, sampleReconciled)) ∧
    Called sampleSha256 sampleMetadataLength sampleBatch sampleReconciled ∧
    ∃ fault u, (commitDvdRecoveryBatch sampleSha256 sampleMetadataLength sampleBatch).run
      sampleReconciled = (.error fault, u) ∧ fault.code = .consistencyFault := by
  have hfault : sampleCut.disk.journal.any (·.Complete) = true ∧
      (faultOf ((commitDvdRecoveryBatch sampleSha256 sampleMetadataLength sampleBatch).run
        sampleReconciled).1).any (·.code = .consistencyFault) = true := by
    decide +kernel
  obtain ⟨hjournal, hfault⟩ := hfault
  refine ⟨sampleCut_mem, hjournal, sampleReconciled_run, sampleBatch_called 1, ?_⟩
  cases hrun : (commitDvdRecoveryBatch sampleSha256 sampleMetadataLength sampleBatch).run
      sampleReconciled with
  | mk result u =>
    rw [hrun] at hfault
    cases result with
    | ok => cases hfault
    | error fault => exact ⟨fault, u, rfl, of_decide_eq_true hfault⟩

end RipDvd
