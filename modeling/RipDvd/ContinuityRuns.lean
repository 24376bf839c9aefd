import RipDvd.ConfirmationHistory
import RipDvd.PassOrder
import RipDvd.SourceContinuity

namespace RipDvd
set_option autoImplicit true

open Extent

/-- What a projection has checked of its read beside the checkpoint it advances. -/
structure ReadChecked (input : DvdRecoveryCheckpointProjection) (c : Catalog) : Prop where
  hashable : Hashable input.manifest.toDvdArchiveEvidenceManifestDigestInput
  archive : input.recoveryRead.originalDiscArchiveId = input.manifest.originalDiscArchiveId
  confirmed : ∀ id, input.recoveryRead.discConfirmationId.join = some id →
    ∃ confirmation, c.findConfirmation id = some confirmation ∧
      confirmation.originalDiscArchiveId = input.manifest.originalDiscArchiveId ∧
      confirmation.verificationOutcome ≠ .match

variable {sha256 : Hashed → Digest}

theorem requireReadConfirmation_none (h : requireReadConfirmation input = .ok u)
    (hnone : input.verificationId = none) : input.discConfirmationId.join = none := by
  rw [requireReadConfirmation, hnone] at h
  have habsent : input.discConfirmationId = none := not_not.1 (rejectIf_ok.1 h)
  rw [habsent]
  rfl

/-- A confirmation that is read under has been given for a verification that did not match. -/
theorem dvdDiscConfirmationMatchesVerification_outcome
    (h : dvdDiscConfirmationMatchesVerification verification confirmation = true) :
    confirmation.verificationOutcome ≠ .match ∧
      confirmation.originalDiscArchiveId = verification.originalDiscArchiveId := by
  simp only [dvdDiscConfirmationMatchesVerification, Bool.and_eq_true, decide_eq_true_eq] at h
  refine ⟨fun hmatch => ?_, by tauto⟩
  have houtcome : some confirmation.verificationOutcome = verification.outcome := by tauto
  have hother : verification.outcome ≠ some .match := by tauto
  exact hother (houtcome.symm.trans (congrArg some hmatch))

theorem projectDvdRecoveryCheckpoint_checked
    (h : projectDvdRecoveryCheckpoint sha256 now input c = .ok result) : ReadChecked input c := by
  obtain ⟨_, hmatching, h⟩ := bind_ok.1 h
  obtain ⟨_, -, h⟩ := bind_ok.1 h
  obtain ⟨_, hauthorized, -⟩ := bind_ok.1 h
  obtain ⟨⟨hread, hmanifest⟩, harchive, -⟩ := (requireMatchingRecoveryRead_ok sha256).1 hmatching
  rw [assertDvdArchiveEvidenceManifestDigests_ok] at hmanifest
  obtain ⟨hhashable, -⟩ := createDvdArchiveEvidenceManifestDigests_ok.1 hmanifest
  refine ⟨hhashable, harchive.symm, fun id hid => ?_⟩
  rw [requireReadAuthorization] at hauthorized
  split at hauthorized
  · next hnone =>
    rw [assertDvdArchiveRecoveryReadEvidenceDigest_ok] at hread
    simp only [createDvdArchiveRecoveryReadEvidenceDigest, bind_ok] at hread
    obtain ⟨-, -, -, -, -, -, -, -, -, -, _, hconfirmation, -⟩ := hread
    cases hid.symm.trans (requireReadConfirmation_none hconfirmation hnone)
  · split at hauthorized
    · cases hauthorized
    · next verification hverification =>
      simp only [rejectIf_ok, not_or, not_and, not_not] at hauthorized
      obtain ⟨howner, hfound, -, hsource⟩ := hauthorized
      rw [hid, Option.bind_some] at hfound hsource
      cases hfind : c.findConfirmation id with
      | none => exact absurd hfind (hfound (Option.some_ne_none id))
      | some confirmation =>
        rw [hfind] at hsource
        obtain ⟨hmatch, hsame⟩ := dvdDiscConfirmationMatchesVerification_outcome hsource
        exact ⟨confirmation, rfl, hsame.trans howner, hmatch⟩

/-- What the manifests and the reads of an archive are to one another. -/
structure EvidenceChain (c : Catalog) : Prop where
  history : History c
  owner : c.archive.id = c.header.originalDiscArchiveId
  hashable : ∀ manifest ∈ c.manifests, Hashable manifest.toDvdArchiveEvidenceManifestDigestInput
  extent : ∀ manifest ∈ c.manifests, ∀ other ∈ c.manifests,
    manifest.acceptedEndLbaExclusive = other.acceptedEndLbaExclusive
  sectors : ∀ read ∈ c.recoveryReads, ∀ manifest ∈ c.manifests,
    read.startLba < manifest.acceptedEndLbaExclusive
  once : (c.recoveryReads.filter (·.outcome = .recovered)).Pairwise
    fun a b => a.startLba ≠ b.startLba
  outside : ∀ manifest ∈ c.manifests, ∀ read ∈ c.recoveryReads, read.outcome = .recovered →
    read.fromManifestRevision < manifest.revision →
      read.startLba ∉ sectorLbas manifest.unrecoveredSourceRanges
  archive : ∀ read ∈ c.recoveryReads, read.originalDiscArchiveId = c.archive.id
  confirmed : ∀ read ∈ c.recoveryReads, ∀ id, read.discConfirmationId.join = some id →
    ∃ confirmation ∈ c.confirmations, confirmation.id = id ∧
      confirmation.originalDiscArchiveId = c.archive.id ∧
      confirmation.checkpointRevision ≤ read.fromManifestRevision ∧
      confirmation.verificationOutcome ≠ .match

variable {c c' : Catalog} {manifest : DvdArchiveEvidenceManifestRow}
  {read : DvdArchiveRecoveryReadRow} {id : String}

/-- A confirmation in a later catalog that says the same. -/
theorem ConfirmationsContinue.mem (h : ConfirmationsContinue c c')
    (hmem : confirmation ∈ c.confirmations) :
    ∃ later ∈ c'.confirmations, later.standing = confirmation.standing := by
  obtain ⟨i, hi⟩ := List.mem_iff_getElem?.1 hmem
  obtain ⟨later, hlater, hstanding, -⟩ := h i confirmation hi
  exact ⟨later, List.mem_of_getElem? hlater, hstanding⟩

theorem EvidenceChain.confirmation_kept (h : EvidenceChain c)
    (hcontinue : ConfirmationsContinue c c')
    (harchive : c'.archive.id = c.archive.id) : ∀ read ∈ c.recoveryReads, ∀ id,
      read.discConfirmationId.join = some id → ∃ confirmation ∈ c'.confirmations,
        confirmation.id = id ∧ confirmation.originalDiscArchiveId = c'.archive.id ∧
        confirmation.checkpointRevision ≤ read.fromManifestRevision ∧
        confirmation.verificationOutcome ≠ .match := by
  intro read hread id hid
  obtain ⟨confirmation, hmem, hsame, howner, hcheckpoint, houtcome⟩ := h.confirmed read hread id hid
  obtain ⟨later, hlater, hstanding⟩ := hcontinue.mem hmem
  refine ⟨later, hlater, (congrArg (·.id) hstanding).trans hsame, ?_, ?_, ?_⟩
  · rw [harchive]
    exact (congrArg (·.originalDiscArchiveId) hstanding).trans howner
  · have hrevision := congrArg (·.checkpointRevision) hstanding
    exact hrevision.trans_le hcheckpoint
  · have hkept := congrArg (·.verificationOutcome) hstanding
    exact hkept.trans_ne houtcome

/-- Whatever leaves the evidence as it is keeps the chain. -/
theorem EvidenceChain.same (h : EvidenceChain c) (hevidence : c'.header = c.header ∧
      c'.manifests = c.manifests ∧ c'.recoveryReads = c.recoveryReads)
    (harchive : c'.archive.id = c.archive.id) (hcontinue : ConfirmationsContinue c c') :
    EvidenceChain c' := by
  have hconfirmed := h.confirmation_kept hcontinue harchive
  refine ⟨h.history.congr hevidence, ?_, ?_, ?_, ?_, ?_, ?_, ?_, ?_⟩
  · rw [harchive, hevidence.1]
    exact h.owner
  · rw [hevidence.2.1]
    exact h.hashable
  · rw [hevidence.2.1]
    exact h.extent
  · rw [hevidence.2.1, hevidence.2.2]
    exact h.sectors
  · rw [hevidence.2.2]
    exact h.once
  · rw [hevidence.2.1, hevidence.2.2]
    exact h.outside
  · rw [hevidence.2.2, harchive]
    exact h.archive
  · rw [hevidence.2.2]
    exact hconfirmed

/-- The read that a projection adds, and the manifest. -/
structure Extends (input : DvdRecoveryCheckpointProjection) (c c' : Catalog) : Prop where
  reads : ∃ read, c'.recoveryReads = c.recoveryReads ++ [read] ∧
    read.toRecoveryRead = input.recoveryRead
  manifests : ∃ manifest, c'.manifests = c.manifests ++ [manifest] ∧
    manifest.toEvidenceManifest = input.manifest
  header : c'.header.originalDiscArchiveId = c.header.originalDiscArchiveId

theorem Advances.extends (h : Advances input c c') : Extends input c c' := by
  obtain ⟨timestamp, classification, meaningful, work', -, rfl, -⟩ := h.written
  exact ⟨⟨_, rfl, rfl⟩, ⟨_, rfl, rfl⟩, rfl⟩

/-- Every sector of a manifest's map lies before the end of the archive. -/
theorem Hashable.sector_lt (h : Hashable input)
    (hlba : lba ∈ sectorLbas input.unrecoveredSourceRanges) :
    lba < input.acceptedEndLbaExclusive := by
  obtain ⟨range, hrange, hcontains⟩ := mem_sectorLbas.1 hlba
  have hextent := h.extent
  simp only [requireManifestExtent, bind_ok, rejectIf_ok, not_exists, not_and] at hextent
  obtain ⟨-, -, -, hends, -⟩ := hextent
  obtain ⟨-, hlt⟩ := contains_iff.1 hcontains
  exact hlt.trans_le (not_lt.1 (hends range hrange))

/-- A projection in a chain: a read of a sector of the current map, and the map it leaves. -/
structure ChainStep (c : Catalog) (current manifest : DvdArchiveEvidenceManifestRow)
    (read : DvdArchiveRecoveryReadRow) : Prop where
  base : current ∈ c.manifests ∧ current.revision = c.header.currentManifestRevision
  source : read.fromManifestRevision = c.header.currentManifestRevision
  listed : read.startLba ∈ sectorLbas current.unrecoveredSourceRanges
  kept : ∀ lba ∈ sectorLbas manifest.unrecoveredSourceRanges,
    lba ∈ sectorLbas current.unrecoveredSourceRanges
  removed : read.outcome = .recovered →
    read.startLba ∉ sectorLbas manifest.unrecoveredSourceRanges
  extent : manifest.acceptedEndLbaExclusive = current.acceptedEndLbaExclusive

theorem Advances.chainStep (ha : Advances input c c') (hhistory : History c)
    (hcurrent : CurrentCheckpoint c) (hread : read.toRecoveryRead = input.recoveryRead)
    (hmanifest : manifest.toEvidenceManifest = input.manifest) :
    ∃ current, ChainStep c current manifest read := by
  obtain ⟨current, hfound, hunchanged, htransition⟩ := ha.ranges
  have hrevision : current.revision = c.header.currentManifestRevision := by
    obtain ⟨other, hother, hsame, -⟩ := hcurrent
    cases hfound.symm.trans hother
    exact hsame
  have hranges : manifest.unrecoveredSourceRanges = input.manifest.unrecoveredSourceRanges :=
    congrArg (·.unrecoveredSourceRanges) hmanifest
  have hlba : read.startLba = input.recoveryRead.startLba := congrArg (·.startLba) hread
  obtain ⟨before, after, hbefore, hafter⟩ := sectorLbas_afterRecoveryRead htransition
  have hsorted := (hhistory.canonical current hfound).sorted
  rw [hbefore] at hsorted
  rw [← hranges] at hafter
  refine ⟨current, ⟨List.mem_of_find?_eq_some hfound, hrevision⟩, ?_, ?_, ?_, ?_, ?_⟩
  · exact (congrArg (·.fromManifestRevision) hread).trans ha.fromHeader.2.1.symm
  · rw [hbefore, hlba]
    exact List.mem_append_right _ List.mem_cons_self
  · intro lba hkept
    rw [hafter, List.append_assoc] at hkept
    rw [hbefore]
    obtain hkept | hkept := List.mem_append.1 hkept
    · exact List.mem_append_left _ hkept
    · refine List.mem_append_right _ (List.mem_cons.2 ?_)
      obtain hkept | hkept := List.mem_append.1 hkept
      · left
        split at hkept
        · exact List.mem_singleton.1 hkept
        · cases hkept
      · exact .inr hkept
  · intro hrecovered
    have houtcome : input.recoveryRead.outcome = .recovered :=
      (congrArg (·.outcome) hread).symm.trans hrecovered
    obtain ⟨-, hrest, hbetween⟩ := List.pairwise_append.1 hsorted
    rw [hafter, houtcome, if_neg (by decide), List.append_nil, hlba, List.mem_append]
    rintro (hmem | hmem)
    · exact lt_irrefl _ (hbetween _ hmem _ List.mem_cons_self)
    · exact lt_irrefl _ ((List.pairwise_cons.1 hrest).1 _ hmem)
  · rw [hmanifest]
    exact not_not.1 fun hne => hunchanged (.inr (.inr (.inr (.inl hne))))

/-- The confirmation of a new read was given at a checkpoint no later than the one it is read
from. -/
theorem ReadChecked.confirmation (h : ReadChecked input c) (htable : ConfirmationTable c)
    (hhistory : History c) (harchive : input.manifest.originalDiscArchiveId = c.archive.id)
    (hid : input.recoveryRead.discConfirmationId.join = some id) :
    ∃ confirmation ∈ c.confirmations, confirmation.id = id ∧
      confirmation.originalDiscArchiveId = c.archive.id ∧
      confirmation.checkpointRevision ≤ c.header.currentManifestRevision ∧
      confirmation.verificationOutcome ≠ .match := by
  obtain ⟨confirmation, hfound, howner, houtcome⟩ := h.confirmed id hid
  obtain ⟨hsame, hmem⟩ := findConfirmation_id hfound
  obtain ⟨manifest, hmanifest, hrevision, -⟩ := htable.checkpoint confirmation hmem
  refine ⟨confirmation, hmem, hsame, howner.trans harchive, ?_, houtcome⟩
  rw [← hrevision]
  exact hhistory.manifests manifest hmanifest

/-- A projection goes on with the chain. -/
theorem EvidenceChain.advance (h : EvidenceChain c) (ha : Advances input c c')
    (hchecked : ReadChecked input c) (htable : ConfirmationTable c)
    (hcurrent : CurrentCheckpoint c) (harchive : c'.archive.id = c.archive.id)
    (hcontinue : ConfirmationsContinue c c') : EvidenceChain c' := by
  have hkept := h.confirmation_kept hcontinue harchive
  obtain ⟨⟨read, hreads, hread⟩, ⟨manifest, hmanifests, hmanifest⟩, hheader⟩ := ha.extends
  obtain ⟨current, hstep⟩ := ha.chainStep h.history hcurrent hread hmanifest
  obtain ⟨hmem, hrevision⟩ := hstep.base
  have howner : input.manifest.originalDiscArchiveId = c.archive.id :=
    ha.archiveId.symm.trans h.owner.symm
  have hnew : Hashable manifest.toDvdArchiveEvidenceManifestDigestInput := by
    rw [hmanifest]
    exact hchecked.hashable
  have hlt : read.startLba < current.acceptedEndLbaExclusive :=
    (h.hashable current hmem).sector_lt hstep.listed
  have hearlier : ∀ row ∈ c.recoveryReads, row.outcome = .recovered →
      row.startLba ∉ sectorLbas current.unrecoveredSourceRanges := by
    intro row hrow hrecovered
    refine h.outside current hmem row hrow hrecovered ?_
    rw [hrevision]
    exact h.history.reads row hrow
  refine ⟨ha.history h.history, ?_, ?_, ?_, ?_, ?_, ?_, ?_, ?_⟩
  · rw [harchive, hheader]
    exact h.owner
  · rw [hmanifests]
    exact List.forall_mem_append.2 ⟨h.hashable, List.forall_mem_singleton.2 hnew⟩
  · have hend : ∀ other ∈ c'.manifests,
        other.acceptedEndLbaExclusive = current.acceptedEndLbaExclusive := by
      rw [hmanifests]
      refine List.forall_mem_append.2 ⟨fun other ho => h.extent other ho current hmem, ?_⟩
      exact List.forall_mem_singleton.2 hstep.extent
    exact fun a ha b hb => (hend a ha).trans (hend b hb).symm
  · rw [hreads, hmanifests]
    refine List.forall_mem_append.2 ⟨fun row hrow => ?_, List.forall_mem_singleton.2 ?_⟩
    · refine List.forall_mem_append.2 ⟨h.sectors row hrow, List.forall_mem_singleton.2 ?_⟩
      rw [hstep.extent]
      exact h.sectors row hrow current hmem
    · refine List.forall_mem_append.2 ⟨fun other ho => ?_, List.forall_mem_singleton.2 ?_⟩
      · rw [h.extent other ho current hmem]
        exact hlt
      · rw [hstep.extent]
        exact hlt
  · rw [hreads, List.filter_append, List.pairwise_append]
    refine ⟨h.once, (List.pairwise_singleton _ read).filter _, fun row hrow new hn heq => ?_⟩
    obtain ⟨hrow, hrecovered⟩ := List.mem_filter.1 hrow
    rw [List.mem_singleton.1 (List.mem_filter.1 hn).1] at heq
    apply hearlier row hrow (of_decide_eq_true hrecovered)
    rw [heq]
    exact hstep.listed
  · rw [hreads, hmanifests]
    refine List.forall_mem_append.2 ⟨fun other ho => ?_, List.forall_mem_singleton.2 ?_⟩
    · refine List.forall_mem_append.2 ⟨h.outside other ho, List.forall_mem_singleton.2 ?_⟩
      intro _ hbehind
      rw [hstep.source] at hbehind
      exact absurd hbehind (Nat.not_lt_of_le (h.history.manifests other ho))
    · refine List.forall_mem_append.2 ⟨fun row hrow hrecovered _ hlisted => ?_,
        List.forall_mem_singleton.2 fun hrecovered _ => hstep.removed hrecovered⟩
      exact hearlier row hrow hrecovered (hstep.kept _ hlisted)
  · rw [hreads, harchive]
    refine List.forall_mem_append.2 ⟨h.archive, List.forall_mem_singleton.2 ?_⟩
    rw [hread]
    exact hchecked.archive.trans howner
  · rw [hreads]
    refine List.forall_mem_append.2 ⟨hkept, List.forall_mem_singleton.2 fun id hid => ?_⟩
    rw [hread] at hid
    obtain ⟨confirmation, hmem, hsame, hother, hcheckpoint, houtcome⟩ :=
      hchecked.confirmation htable h.history howner hid
    obtain ⟨later, hlater, hstanding⟩ := hcontinue.mem hmem
    refine ⟨later, hlater, (congrArg (·.id) hstanding).trans hsame, ?_, ?_, ?_⟩
    · rw [harchive]
      exact (congrArg (·.originalDiscArchiveId) hstanding).trans hother
    · rw [hstep.source]
      exact (congrArg (·.checkpointRevision) hstanding).trans_le hcheckpoint
    · exact (congrArg (·.verificationOutcome) hstanding).trans_ne houtcome

/-- What a recovery keeps about its evidence and its confirmations in every run. -/
structure RecoverySystem.KeepsChain (s : RecoverySystem) : Prop where
  confirmations : s.KeepsConfirmations
  chain : EvidenceChain s.catalog

/-- A publication has one manifest, and its digests were computed. -/
theorem RecoverySystem.Initial.keepsChain {s : RecoverySystem} (h : s.Initial)
    (hpublished : ∀ manifest ∈ s.catalog.manifests,
      Hashable manifest.toDvdArchiveEvidenceManifestDigestInput) : s.KeepsChain := by
  obtain ⟨-, hone, hnone⟩ := h.1.evidence
  obtain ⟨only, honly⟩ := List.length_eq_one_iff.1 hone
  refine ⟨h.keepsConfirmations, h.1.history, h.1.aligned.ids.1, hpublished, ?_, ?_, ?_, ?_, ?_, ?_⟩
  · rw [honly]
    exact List.forall_mem_singleton.2 (List.forall_mem_singleton.2 rfl)
  · rw [hnone]
    exact List.forall_mem_nil _
  · rw [hnone]
    exact .nil
  · rw [hnone]
    exact fun _ _ => List.forall_mem_nil _
  · rw [hnone]
    exact List.forall_mem_nil _
  · rw [hnone]
    exact List.forall_mem_nil _

variable {s₀ s s' : RecoverySystem}

theorem RecoverySystem.Step.chain (h : s.Step sha256 op s') (hs : s.KeepsChain) :
    s'.KeepsChain := by
  obtain ⟨hconfirmations, hcontinue⟩ := RecoverySystem.Step.confirmations sha256 h hs.confirmations
  obtain ⟨-, -, timestamp, returned, hop⟩ := (RecoverySystem.step_iff sha256).1 h
  have heffect := RecoveryOperation.run_effect sha256 hop
  refine ⟨hconfirmations, ?_⟩
  obtain hsame | ⟨input, rfl, hadvances⟩ := heffect.evidence
  · exact hs.chain.same hsame heffect.archiveId hcontinue
  · obtain ⟨result, hproject⟩ := commits_snd_ok hop
    exact hs.chain.advance hadvances (projectDvdRecoveryCheckpoint_checked hproject)
      hs.confirmations.confirmations hs.confirmations.current heffect.archiveId hcontinue

theorem RecoverySystem.run_chain (hrun : Run (RecoverySystem.Step sha256) s ops s')
    (hs : s.KeepsChain) : s'.KeepsChain := by
  induction hrun with
  | nil s => exact hs
  | cons h _ ih => exact ih (RecoverySystem.Step.chain h hs)

/-- The chain of an archive is what reading its continuity rests on. -/
theorem RecoverySystem.KeepsChain.table (h : s.KeepsChain) : ContinuityTable s.catalog := by
  refine ⟨h.chain.once, h.chain.archive, fun read hread id hid => ?_⟩
  obtain ⟨confirmation, hmem, hsame, hfacts⟩ := h.chain.confirmed read hread id hid
  refine ⟨confirmation, ?_, hfacts⟩
  cases hfind : s.catalog.findConfirmation id with
  | none => exact absurd hsame (by simpa using List.find?_eq_none.1 hfind confirmation hmem)
  | some found =>
    obtain ⟨hid, hfound⟩ := findConfirmation_id hfind
    by_contra hne
    have hsymm : Std.Symm fun a b : DvdDiscConfirmation =>
        a.id ≠ b.id ∧ a.verificationId ≠ b.verificationId :=
      ⟨fun _ _ hne => ⟨hne.1.symm, hne.2.symm⟩⟩
    have hunique := h.confirmations.confirmations.unique.forall hfound hmem
      fun hequal => hne (congrArg some hequal)
    exact hunique.1 (hid.trans hsame.symm)

theorem RecoverySystem.KeepsChain.within (h : s.KeepsChain)
    (hmem : manifest ∈ s.catalog.manifests) :
    WithinArchive s.catalog manifest.acceptedEndLbaExclusive := by
  refine ⟨(h.chain.hashable manifest hmem).acceptedEnd.2, fun read hread => ?_,
    fun confirmation hc => ?_⟩
  · exact h.chain.sectors read hread manifest hmem
  · obtain ⟨checkpoint, hcheckpoint, hrevision, -⟩ :=
      h.confirmations.confirmations.checkpoint confirmation hc
    rw [← hrevision]
    exact (h.chain.hashable checkpoint hcheckpoint).revision

/-- In every run, reading the source continuity of the archive at any revision gives each
confirmation the sectors that were recovered under it before the revision, once each, outside the
map of the revision, as ranges that the damage assessment accepts. -/
theorem sourceContinuity_exact (hstart : s₀.Initial)
    (hpublished : ∀ manifest ∈ s₀.catalog.manifests,
      Hashable manifest.toDvdArchiveEvidenceManifestDigestInput)
    (hrun : Run (RecoverySystem.Step sha256) s₀ ops s) (manifestRevision : Nat) :
    ∃ provenance, readDvdTitleDamageSourceContinuity s.catalog.archive.id manifestRevision
        s.catalog = .ok ⟨DVD_TITLE_DAMAGE_SOURCE_CONTINUITY_POLICY_VERSION, provenance⟩ ∧
      ExactProvenance s.catalog manifestRevision provenance ∧
      provenance.Pairwise (fun a b =>
        Disjoint (cover a.recoveredSourceRanges) (cover b.recoveredSourceRanges)) ∧
      (∀ manifest ∈ s.catalog.manifests, manifest.revision = manifestRevision →
        ∀ entry ∈ provenance, ∀ n ∈ cover entry.recoveredSourceRanges,
          n ∉ sectorLbas manifest.unrecoveredSourceRanges) ∧
      ((∀ confirmation ∈ s.catalog.confirmations, confirmation.ShortlyNamed) →
        ∀ manifest ∈ s.catalog.manifests, ∃ continuity, normalizeSourceContinuity
          (some ⟨DVD_TITLE_DAMAGE_SOURCE_CONTINUITY_POLICY_VERSION, provenance⟩)
            manifest.acceptedEndLbaExclusive = .ok (some continuity) ∧
          continuity.provenance.Perm provenance) := by
  have hkept := RecoverySystem.run_chain hrun (hstart.keepsChain hpublished)
  have htable := hkept.table
  obtain ⟨provenance, hread, hexact⟩ :=
    readDvdTitleDamageSourceContinuity_exact htable manifestRevision
  refine ⟨provenance, hread, hexact, ?_, ?_, fun hnamed manifest hmem => ?_⟩
  · refine hexact.distinct.imp_of_mem fun {a b} ha hb hne => ?_
    rw [Finset.disjoint_left]
    intro n hna hnb
    exact hne (htable.apart (((hexact.entries a ha).sectors n).1 hna)
      (((hexact.entries b hb).sectors n).1 hnb))
  · intro manifest hmem hrevision entry he n hn
    obtain ⟨read, hmemRead, hbefore, houtcome, -, hlba⟩ :=
      ((hexact.entries entry he).sectors n).1 hn
    rw [← hlba]
    refine hkept.chain.outside manifest hmem read hmemRead houtcome ?_
    rw [hrevision]
    exact hbefore
  · exact normalizeSourceContinuity_accepts hexact htable (hkept.within hmem) hnamed

/-- A sector is read from the confirmed disc, and recovered. -/
def confirmedReadRun : List (Nat × RecoveryOperation) :=
  confirmedDiscRun ++ [(5, .claimNextVerifiedCandidate "worker" "token"),
    (6, .projectDvdRecoveryCheckpoint { sampleProjection with
      claim := some confirmedClaim
      recoveryRead := { sampleProjection.recoveryRead with
        discConfirmationId := some (some "confirmation") } })]

theorem sourceContinuity_exact_confirmed : ∃ s provenance,
    Run (RecoverySystem.Step sampleSha256) publishedSystem (confirmedReadRun.map Prod.snd) s ∧
      readDvdTitleDamageSourceContinuity s.catalog.archive.id 2 s.catalog =
        .ok ⟨DVD_TITLE_DAMAGE_SOURCE_CONTINUITY_POLICY_VERSION, provenance⟩ ∧
      ExactProvenance s.catalog 2 provenance ∧ RecoveredUnder s.catalog 2 "confirmation" 0 := by
  have h : ∃ s ∈ publishedSystem.performAll sampleSha256 confirmedReadRun,
      ∃ read ∈ s.catalog.recoveryReads, read.fromManifestRevision < 2 ∧
        read.outcome = .recovered ∧ read.discConfirmationId.join = some "confirmation" ∧
        read.startLba = 0 := by
    decide +kernel
  obtain ⟨s, hs, hread⟩ := h
  have hrun := RecoverySystem.run_of_performAll sampleSha256 hs
  have hpublished : ∀ manifest ∈ publishedSystem.catalog.manifests,
      Hashable manifest.toDvdArchiveEvidenceManifestDigestInput := by
    refine List.forall_mem_singleton.2 ⟨?_, ?_, ?_, rfl, rfl, ?_, ?_, ?_, ?_, rfl, rfl⟩
    all_goals decide
  obtain ⟨provenance, hok, hexact, -⟩ :=
    sourceContinuity_exact publishedSystem_initial hpublished hrun 2
  exact ⟨s, provenance, hrun, hok, hexact, hread⟩

end RipDvd
