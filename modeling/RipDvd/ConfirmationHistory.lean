import RipDvd.VerificationHistory

namespace RipDvd
set_option autoImplicit true

/-- What a confirmation says, whether it has expired or not. -/
def DvdDiscConfirmation.standing (confirmation : DvdDiscConfirmation) : DvdDiscConfirmation :=
  { confirmation with expiredAt := none }

/-- A confirmation stays, or a live one expires. -/
def DvdDiscConfirmation.Expires (old new : DvdDiscConfirmation) : Prop :=
  new = old ∨ old.expiredAt = none ∧ ∃ timestamp, new = { old with expiredAt := some timestamp }

/-- A row that an operator's confirmation has just added. -/
structure JustConfirmed (c : Catalog) (input : RecordDvdDiscConfirmationInput)
    (row : DvdDiscConfirmation) : Prop where
  fresh : ∀ other ∈ c.confirmations, other.id ≠ row.id ∧ other.verificationId ≠ row.verificationId
  preview : previewIsCurrent c input
  archive : c.recovery.id = input.archiveRecoveryId
  asked : row = input.row c row.id

/-- What a transaction can do to the confirmations. -/
inductive ConfirmationStep (c c' : Catalog) : RecoveryOperation → Prop where
  | swept {f : DvdDiscConfirmation → DvdDiscConfirmation}
    (hf : ∀ confirmation : DvdDiscConfirmation, confirmation.Expires (f confirmation))
    (hrows : c'.confirmations = c.confirmations.map f) : ConfirmationStep c c' op
  | recorded (hrow : JustConfirmed c input row)
    (hrows : c'.confirmations = c.confirmations ++ [row]) :
    ConfirmationStep c c' (.recordConfirmation input newId)

theorem ConfirmationStep.same {c c' : Catalog} (h : c'.confirmations = c.confirmations) :
    ConfirmationStep c c' op :=
  .swept (f := id) (fun _ => .inl rfl) (h.trans (List.map_id _).symm)

theorem expireInvalidDvdDiscConfirmations_sweeps
    (h : expireInvalidDvdDiscConfirmations c execution confirmationId timestamp = .ok c') :
    ConfirmationStep c c' op := by
  obtain ⟨execution, -, he⟩ := bind_ok.1 h
  cases he
  refine .swept (fun confirmation => ?_) rfl
  split
  · next hlive => exact .inr ⟨hlive.1, timestamp, rfl⟩
  · exact .inl rfl

theorem expireConfirmation_sweeps (id : String) (timestamp : Nat) (c : Catalog) :
    ConfirmationStep c (expireConfirmation id timestamp c).2 op := by
  refine .swept (fun confirmation => ?_) rfl
  split
  · next hlive => exact .inr ⟨hlive.2, timestamp, rfl⟩
  · exact .inl rfl

/-- What a transaction does to the confirmations, whatever else it does. -/
theorem ConfirmationStep.then {c' : Catalog} (h : ConfirmationStep c d op)
    (hrows : c'.confirmations = d.confirmations) : ConfirmationStep c c' op := by
  cases h with
  | swept hf hd => exact .swept hf (hrows.trans hd)
  | recorded hrow hd => exact .recorded hrow (hrows.trans hd)

theorem claimNextVerifiedCandidate_sweeps
    (h : claimNextVerifiedCandidate workerId claimToken timestamp c = .ok (claim, c')) :
    ConfirmationStep c c' op := by
  obtain ⟨_, -, h⟩ := bind_ok.1 h
  obtain ⟨swept, hsweep, h⟩ := bind_ok.1 h
  have hstep : ConfirmationStep c swept op := expireInvalidDvdDiscConfirmations_sweeps hsweep
  split at h
  · cases h
    exact hstep
  · simp only [bind_ok] at h
    obtain ⟨-, -, -, -, claimed, hclaim, running, hrun, he⟩ := h
    obtain ⟨pass, -, -, rfl⟩ := claimWork_ok hclaim
    obtain ⟨-, -, -, -, -, rfl⟩ := updateArchiveRecovery_ok.1 hrun
    cases he
    exact hstep.then rfl

theorem admitSourceRead_sweeps
    (h : admitSourceRead claim driveReady timestamp c = .ok (admitted, c')) :
    ConfirmationStep c c' op := by
  simp only [admitSourceRead, bind_ok] at h
  obtain ⟨work, -, swept, hsweep, -, -, -, -, -, -, h⟩ := h
  have hstep : ConfirmationStep c swept op := by
    rw [expireBoundConfirmation] at hsweep
    split at hsweep
    · cases hsweep
      exact .same rfl
    · exact expireInvalidDvdDiscConfirmations_sweeps hsweep
  split at h
  · cases h
    exact hstep.then rfl
  · cases h
    exact hstep

theorem recordConfirmation_records
    (h : recordConfirmation input newId timestamp c = .ok (confirmation, c')) :
    ConfirmationStep c c' (.recordConfirmation input newId) := by
  simp only [recordConfirmation, bind_ok, rejectIf_ok, not_not] at h
  obtain ⟨-, -, -, -, -, harchive, -, -, -, hpreview, -, -, ⟨recorded, d⟩, hr, activated,
    ha, he⟩ := h
  cases he
  have hsame : c'.confirmations = d.confirmations := by
    obtain ⟨-, rfl⟩ | ⟨-, work, -, -, rfl⟩ := activateConfirmedResume_ok ha
    · rfl
    · rfl
  rw [recordedConfirmation] at hr
  split at hr
  · obtain ⟨_, -, he⟩ := bind_ok.1 hr
    cases he
    exact .same hsame
  · next hnone =>
    obtain ⟨_, hfresh, he⟩ := bind_ok.1 hr
    cases he
    rw [rejectIf_ok] at hfresh
    refine .recorded ⟨fun other hother => ⟨fun hid => hfresh ⟨other, hother, hid⟩, fun hv => ?_⟩,
      hpreview, harchive, rfl⟩ hsame
    have hnot := List.find?_eq_none.1 hnone other hother
    exact hnot (decide_eq_true hv)

variable (sha256 : Hashed → Digest)

/-- Confirmations are swept, or one is recorded; nothing else happens to them. -/
theorem RecoveryOperation.run_confirmations {op : RecoveryOperation}
    (h : op.run sha256 timestamp c = .ok (returned, c')) : ConfirmationStep c c' op := by
  have hothers := RecoveryOperation.run_others sha256 h
  cases op with
  | claimNextVerifiedCandidate workerId claimToken =>
    obtain ⟨claim, hc, -⟩ := finds_ok.1 h
    exact claimNextVerifiedCandidate_sweeps hc
  | admitSourceRead claim driveReady => exact admitSourceRead_sweeps h
  | recordConfirmation input newId =>
    obtain ⟨confirmation, hr⟩ := commits_snd_ok h
    exact recordConfirmation_records hr
  | expireConfirmation id =>
    cases h
    exact expireConfirmation_sweeps id timestamp c
  | expireForWorkerExecution workerExecutionId confirmationId =>
    exact expireInvalidDvdDiscConfirmations_sweeps (commits_ok.1 h).2
  | _ => exact .same (hothers.confirmations (by simp [table]))

/-- A confirmation stays in its place, says the same, and stays expired once it is. -/
def ConfirmationsContinue (c c' : Catalog) : Prop :=
  ∀ (i : Nat) confirmation, c.confirmations[i]? = some confirmation →
    ∃ later, c'.confirmations[i]? = some later ∧ later.standing = confirmation.standing ∧
      (confirmation.expiredAt ≠ none → later = confirmation)

theorem ConfirmationsContinue.refl (c : Catalog) : ConfirmationsContinue c c :=
  fun _ confirmation hrow => ⟨confirmation, hrow, rfl, fun _ => rfl⟩

theorem ConfirmationsContinue.trans (h : ConfirmationsContinue a b)
    (h' : ConfirmationsContinue b c) : ConfirmationsContinue a c := by
  intro i confirmation hrow
  obtain ⟨later, hlater, hstanding, hexpired⟩ := h i confirmation hrow
  obtain ⟨last, hlast, hstanding', hexpired'⟩ := h' i later hlater
  refine ⟨last, hlast, hstanding'.trans hstanding, fun hsome => ?_⟩
  have hsame := hexpired hsome
  rw [hsame] at hexpired'
  exact hexpired' hsome

theorem DvdDiscConfirmation.Expires.standing {old new : DvdDiscConfirmation} (h : old.Expires new) :
    new.standing = old.standing := by
  obtain rfl | ⟨-, timestamp, rfl⟩ := h
  · rfl
  · rfl

theorem ConfirmationStep.continues (h : ConfirmationStep c c' op) : ConfirmationsContinue c c' := by
  intro i confirmation hrow
  cases h with
  | @swept _ f hf hrows =>
    refine ⟨f confirmation, ?_, (hf confirmation).standing, fun hsome => ?_⟩
    · rw [hrows, List.getElem?_map, hrow]
      rfl
    · obtain hsame | ⟨hlive, -⟩ := hf confirmation
      · exact hsame
      · exact absurd hlive hsome
  | recorded _ hrows =>
    refine ⟨confirmation, ?_, rfl, fun _ => rfl⟩
    rw [hrows, List.getElem?_append_left (List.getElem?_eq_some_iff.1 hrow).1, hrow]

/-- The header names a manifest that is there. -/
def CurrentCheckpoint (c : Catalog) : Prop :=
  ∃ current, c.currentManifest = some current ∧
    current.revision = c.header.currentManifestRevision ∧
    current.manifestDigest = c.header.currentManifestDigest

theorem Advances.currentCheckpoint (h : Advances input c c') : CurrentCheckpoint c' := by
  obtain ⟨timestamp, classification, meaningful, work', -, rfl, -⟩ := h.written
  exact ⟨_, projectedCatalog_current h.fresh.2 timestamp classification meaningful, rfl, rfl⟩

/-- What a transaction leaves of the evidence: nothing changes, or a projection goes one on. -/
theorem RecoveryOperation.Effect.evidence {op : RecoveryOperation} (h : op.Effect timestamp c c') :
    (c'.header = c.header ∧ c'.manifests = c.manifests ∧ c'.recoveryReads = c.recoveryReads) ∨
      ∃ input, op = .projectDvdRecoveryCheckpoint input ∧ Advances input c c' := by
  obtain hkeeps | ⟨_, _, _, _, _, -, hclaimed⟩ | hprojected := h.cases_pass
  · exact .inl hkeeps.evidence
  · obtain ⟨_, rfl⟩ := hclaimed.claimed
    exact .inl ⟨rfl, rfl, rfl⟩
  · exact .inr hprojected

theorem RecoveryOperation.Effect.currentCheckpoint {op : RecoveryOperation}
    (h : op.Effect timestamp c c') (hc : CurrentCheckpoint c) : CurrentCheckpoint c' := by
  obtain hsame | ⟨input, -, hadvances⟩ := h.evidence
  · obtain ⟨current, hcurrent, hrevision, hdigest⟩ := hc
    refine ⟨current, (currentManifest_congr hsame).trans hcurrent, ?_, ?_⟩
    · rw [hsame.1, hrevision]
    · rw [hsame.1, hdigest]
  · exact hadvances.currentCheckpoint

theorem RecoveryOperation.Effect.manifests {op : RecoveryOperation} (h : op.Effect timestamp c c')
    (hmem : manifest ∈ c.manifests) : manifest ∈ c'.manifests := by
  obtain ⟨-, hsame, -⟩ | ⟨input, -, hadvances⟩ := h.evidence
  · exact hsame ▸ hmem
  · obtain ⟨-, row, -, hrows⟩ := hadvances.rows
    rw [hrows]
    exact List.mem_append_left _ hmem

/-- What the confirmations of a recovery are to one another, to its verifications and to its
checkpoints. -/
structure ConfirmationTable (c : Catalog) : Prop where
  unique : c.confirmations.Pairwise fun a b => a.id ≠ b.id ∧ a.verificationId ≠ b.verificationId
  owner : ∀ confirmation ∈ c.confirmations, confirmation.archiveRecoveryId = c.recovery.id ∧
    confirmation.originalDiscArchiveId = c.archive.id ∧ confirmation.acknowledgedMixedSource = true
  confirmed : ∀ confirmation ∈ c.confirmations, ∃ verification ∈ c.verifications,
    verification.id = confirmation.verificationId ∧
      confirmedVerification confirmation verification ∧
      verification.resultDigest = confirmation.verificationResultDigest
  checkpoint : ∀ confirmation ∈ c.confirmations, ∃ manifest ∈ c.manifests,
    manifest.revision = confirmation.checkpointRevision ∧
      manifest.manifestDigest = confirmation.checkpointDigest

/-- The catalog goes on around its confirmations. -/
structure Around (c c' : Catalog) : Prop where
  recovery : c'.recovery.id = c.recovery.id
  archive : c'.archive.id = c.archive.id
  manifests : ∀ manifest ∈ c.manifests, manifest ∈ c'.manifests
  verifications : VerificationsContinue c c'

/-- A verification that has settled stays. -/
theorem VerificationsContinue.mem (h : VerificationsContinue c c')
    (hmem : verification ∈ c.verifications) (hsettled : ¬verification.Active) :
    verification ∈ c'.verifications := by
  obtain ⟨i, hi⟩ := List.mem_iff_getElem?.1 hmem
  obtain ⟨later, hlater, hgoes⟩ := h i verification hi
  rw [hgoes.settled hsettled] at hlater
  exact List.mem_of_getElem? hlater

/-- What a confirmation stands for is still there. -/
theorem ConfirmationTable.around (hc : ConfirmationTable c) (h : Around c c')
    (hrows : c'.confirmations = c.confirmations) : ConfirmationTable c' := by
  refine ⟨hrows ▸ hc.unique, ?_, ?_, ?_⟩
  · rw [hrows, h.recovery, h.archive]
    exact hc.owner
  · rw [hrows]
    intro confirmation hmem
    obtain ⟨verification, hv, hid, hconfirmed, hdigest⟩ := hc.confirmed confirmation hmem
    refine ⟨verification, h.verifications.mem hv ?_, hid, hconfirmed, hdigest⟩
    rintro (hqueued | hrunning)
    · cases hconfirmed.1.symm.trans hqueued
    · cases hconfirmed.1.symm.trans hrunning
  · rw [hrows]
    intro confirmation hmem
    obtain ⟨manifest, hmanifest, hsame⟩ := hc.checkpoint confirmation hmem
    exact ⟨manifest, h.manifests manifest hmanifest, hsame⟩

/-- Confirmations that expire go on standing for the same. -/
theorem ConfirmationTable.sweep {f : DvdDiscConfirmation → DvdDiscConfirmation}
    (hc : ConfirmationTable c)
    (hf : ∀ confirmation : DvdDiscConfirmation, confirmation.Expires (f confirmation)) :
    ConfirmationTable { c with confirmations := c.confirmations.map f } := by
  refine ⟨?_, ?_, ?_, ?_⟩
  · rw [List.pairwise_map]
    refine hc.unique.imp fun {a b} hne => ?_
    have ha := (hf a).standing
    have hb := (hf b).standing
    have hids : (f a).id = a.id ∧ (f b).id = b.id :=
      ⟨congrArg (·.id) ha, congrArg (·.id) hb⟩
    have hverifications : (f a).verificationId = a.verificationId ∧
        (f b).verificationId = b.verificationId :=
      ⟨congrArg (·.verificationId) ha, congrArg (·.verificationId) hb⟩
    rw [hids.1, hids.2, hverifications.1, hverifications.2]
    exact hne
  all_goals
    intro confirmation hmem
    obtain ⟨before, hbefore, rfl⟩ := List.mem_map.1 hmem
    obtain hsame | ⟨-, timestamp, hsame⟩ := hf before
    all_goals rw [hsame]
  · exact hc.owner before hbefore
  · exact hc.owner before hbefore
  · exact hc.confirmed before hbefore
  · exact hc.confirmed before hbefore
  · exact hc.checkpoint before hbefore
  · exact hc.checkpoint before hbefore

/-- A confirmation is recorded for what the operator has reviewed. -/
theorem ConfirmationTable.record (hc : ConfirmationTable c) (hcurrent : CurrentCheckpoint c)
    (hrow : JustConfirmed c input row) :
    ConfirmationTable { c with confirmations := c.confirmations ++ [row] } := by
  obtain ⟨-, -, hrevision, hdigest, verification, hfound, hreviewed⟩ := hrow.preview
  obtain ⟨-, hcompleted, houtcome, hrecovery, hattempt, -, harchive, hexecution, hresult,
    hrevision', hdigest', hinspection, hdisc, hgeneration, -⟩ := hreviewed
  have hasked := hrow.asked
  refine ⟨?_, ?_, ?_, ?_⟩
  · rw [List.pairwise_append]
    refine ⟨hc.unique, List.pairwise_singleton _ _, fun earlier he later hl => ?_⟩
    cases List.mem_singleton.1 hl
    exact hrow.fresh earlier he
  all_goals
    intro confirmation hmem
    obtain hmem | hmem := List.mem_append.1 hmem
  · exact hc.owner confirmation hmem
  · cases List.mem_singleton.1 hmem
    rw [hasked]
    exact ⟨rfl, rfl, rfl⟩
  · exact hc.confirmed confirmation hmem
  · cases List.mem_singleton.1 hmem
    have hid := List.find?_some hfound
    rw [decide_eq_true_eq] at hid
    rw [hasked]
    exact ⟨verification, List.mem_of_find?_eq_some hfound, hid, ⟨hcompleted, houtcome, hrecovery,
      hattempt, harchive, hinspection, hdisc, hgeneration, hexecution, hrevision', hdigest'⟩,
      hresult⟩
  · exact hc.checkpoint confirmation hmem
  · cases List.mem_singleton.1 hmem
    obtain ⟨current, hfind, hsame, hsame'⟩ := hcurrent
    rw [hasked]
    exact ⟨current, List.mem_of_find?_eq_some hfind, hsame.trans hrevision, hsame'.trans hdigest⟩

theorem ConfirmationStep.table (h : ConfirmationStep c c' op) (hc : ConfirmationTable c)
    (hcurrent : CurrentCheckpoint c) (haround : Around c c') : ConfirmationTable c' := by
  cases h with
  | @swept _ f hf hrows =>
    have hbetween : Around { c with confirmations := c.confirmations.map f } c' :=
      ⟨haround.recovery, haround.archive, haround.manifests, haround.verifications⟩
    exact (hc.sweep hf).around hbetween hrows
  | @recorded _ row _ hrow hrows =>
    have hbetween : Around { c with confirmations := c.confirmations ++ [row] } c' :=
      ⟨haround.recovery, haround.archive, haround.manifests, haround.verifications⟩
    exact (hc.record hcurrent hrow).around hbetween hrows

/-- What a recovery keeps about its verifications and confirmations in every run. -/
structure RecoverySystem.KeepsConfirmations (s : RecoverySystem) : Prop where
  verifications : s.KeepsTable
  current : CurrentCheckpoint s.catalog
  confirmations : ConfirmationTable s.catalog

theorem RecoverySystem.Initial.keepsConfirmations {s : RecoverySystem} (h : s.Initial) :
    s.KeepsConfirmations := by
  obtain ⟨current, hcurrent, hrevision, hdigest, -⟩ := h.1.aligned.current
  obtain ⟨-, hnone, -⟩ := h.1.verifications
  refine ⟨h.keepsTable, ⟨current, hcurrent, hrevision, hdigest⟩, ?_⟩
  refine ⟨?_, ?_, ?_, ?_⟩
  all_goals rw [hnone]
  · exact .nil
  · exact List.forall_mem_nil _
  · exact List.forall_mem_nil _
  · exact List.forall_mem_nil _

theorem RecoverySystem.Step.confirmations {s s' : RecoverySystem} (h : s.Step sha256 op s')
    (hs : s.KeepsConfirmations) :
    s'.KeepsConfirmations ∧ ConfirmationsContinue s.catalog s'.catalog := by
  obtain ⟨htable, hcontinue⟩ := RecoverySystem.Step.table sha256 h hs.verifications
  obtain ⟨-, -, timestamp, returned, hop⟩ := (RecoverySystem.step_iff sha256).1 h
  have heffect := RecoveryOperation.run_effect sha256 hop
  have hstep := RecoveryOperation.run_confirmations sha256 hop
  have haround : Around s.catalog s'.catalog :=
    ⟨heffect.recoveryId, heffect.archiveId, fun _ hmem => heffect.manifests hmem, hcontinue⟩
  exact ⟨⟨htable, heffect.currentCheckpoint hs.current,
    hstep.table hs.confirmations hs.current haround⟩, hstep.continues⟩

theorem RecoverySystem.run_confirmations {s s' : RecoverySystem}
    (hrun : Run (RecoverySystem.Step sha256) s ops s') (hs : s.KeepsConfirmations) :
    s'.KeepsConfirmations ∧ ConfirmationsContinue s.catalog s'.catalog := by
  induction hrun with
  | nil s => exact ⟨hs, .refl s.catalog⟩
  | cons h _ ih =>
    obtain ⟨hnext, hcontinue⟩ := RecoverySystem.Step.confirmations sha256 h hs
    obtain ⟨hlast, hrest⟩ := ih hnext
    exact ⟨hlast, hcontinue.trans hrest⟩

/-- In every run each confirmation stays what it was given for: one settled verification with its
result, and one checkpoint. Once it has expired it never stands again. -/
theorem confirmations_kept {s₀ s s' : RecoverySystem} (hstart : s₀.Initial)
    (hbefore : Run (RecoverySystem.Step sha256) s₀ before s)
    (hafter : Run (RecoverySystem.Step sha256) s after s') :
    ConfirmationTable s'.catalog ∧ ConfirmationsContinue s.catalog s'.catalog := by
  obtain ⟨hkept, -⟩ := RecoverySystem.run_confirmations sha256 hbefore hstart.keepsConfirmations
  obtain ⟨hlast, hcontinue⟩ := RecoverySystem.run_confirmations sha256 hafter hkept
  exact ⟨hlast.confirmations, hcontinue⟩

/-- The disc does not match, and an operator confirms it. -/
def confirmedDiscRun : List (Nat × RecoveryOperation) := [
  (1, .submitVerification "inspection" 1 1 "verification"),
  (2, .claimNextVerification "worker" "verification-token"),
  (3, .completeVerification ⟨"verification", "verification-token"⟩ ⟨.mismatch, [], 0⟩ "unused"),
  (4, .recordConfirmation ⟨"recovery", "attempt", "archive", "verification", "inspection", "disc",
    "generation", "worker", .mismatch, 0, 1, 1, true⟩ "confirmation")]

theorem confirmations_kept_expired : ∃ s s',
    Run (RecoverySystem.Step sampleSha256) publishedSystem (confirmedDiscRun.map Prod.snd) s ∧
      Run (RecoverySystem.Step sampleSha256) s [.expireConfirmation "confirmation"] s' ∧
      ConfirmationTable s'.catalog ∧ ConfirmationsContinue s.catalog s'.catalog := by
  have hdone : ((publishedSystem.performAll sampleSha256 confirmedDiscRun).bind fun s =>
      s.performAll sampleSha256 [(5, .expireConfirmation "confirmation")]).isSome = true := by
    decide +kernel
  obtain ⟨s, s', hbefore, hafter⟩ := RecoverySystem.runs_of_performAll sampleSha256 hdone
  exact ⟨s, s', hbefore, hafter,
    confirmations_kept sampleSha256 publishedSystem_initial hbefore hafter⟩

end RipDvd
