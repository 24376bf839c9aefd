import RipDvd.Cursor
import RipDvd.PassProgress

namespace RipDvd
set_option autoImplicit true

/-- Which of two sectors a pass comes to first. -/
def ArchiveRecoveryPassDirection.Before : ArchiveRecoveryPassDirection → Nat → Nat → Prop
  | .forward, a, b => a < b
  | .reverse, a, b => b < a

instance (direction : ArchiveRecoveryPassDirection) : DecidableRel direction.Before :=
  fun a b => match direction with
    | .forward => inferInstanceAs (Decidable (a < b))
    | .reverse => inferInstanceAs (Decidable (b < a))

instance (direction : ArchiveRecoveryPassDirection) : IsStrictOrder Nat direction.Before where
  irrefl a := by
    cases direction with
    | forward => exact Nat.lt_irrefl a
    | reverse => exact Nat.lt_irrefl a
  trans a b c hab hbc := by
    cases direction with
    | forward => exact Nat.lt_trans hab hbc
    | reverse => exact Nat.lt_trans hbc hab

/-- The sectors of a map in the order in which a pass reads them. -/
def ArchiveRecoveryPassDirection.order (direction : ArchiveRecoveryPassDirection)
    (ranges : List UnrecoveredSourceRange) : List Nat :=
  match direction with
  | .forward => sectorLbas ranges
  | .reverse => (sectorLbas ranges).reverse

theorem ArchiveRecoveryPassDirection.order_sorted {direction : ArchiveRecoveryPassDirection}
    (h : (sectorLbas ranges).Pairwise (· < ·)) :
      (direction.order ranges).Pairwise direction.Before := by
  cases direction with
  | forward => exact h
  | reverse => exact List.pairwise_reverse.2 h

theorem ArchiveRecoveryPassDirection.mem_order {direction : ArchiveRecoveryPassDirection} :
    lba ∈ direction.order ranges ↔ lba ∈ sectorLbas ranges := by
  cases direction with
  | forward => exact Iff.rfl
  | reverse => exact List.mem_reverse

theorem filter_range'_from (first start count : Nat) :
    (List.range' start count).filter (fun lba => first ≤ lba) =
      List.range' (max start first) (start + count - max start first) := by
  induction count generalizing start with
  | zero =>
    have hnone : start + 0 - max start first = 0 := by
      omega
    rw [hnone]
    rfl
  | succ count ih =>
    rw [List.range'_succ, List.filter_cons, ih]
    by_cases h : first ≤ start
    · rw [if_pos (decide_eq_true h), Nat.max_eq_left h, Nat.max_eq_left (Nat.le_succ_of_le h),
        Nat.add_sub_cancel_left, Nat.add_sub_cancel_left, List.range'_succ]
    · have hlt : start < first := Nat.lt_of_not_le h
      rw [if_neg (by simpa using h), Nat.max_eq_right (Nat.le_of_lt hlt), Nat.max_eq_right hlt,
        Nat.add_right_comm, Nat.add_assoc]

theorem filter_range'_to (last start count : Nat) :
    (List.range' start count).filter (fun lba => lba < last) =
      List.range' start (min (start + count) last - start) := by
  induction count generalizing start with
  | zero =>
    have hnone : min (start + 0) last - start = 0 := by
      omega
    rw [hnone]
    rfl
  | succ count ih =>
    rw [List.range'_succ, List.filter_cons, ih]
    by_cases h : start < last
    · have hcount : min (start + (count + 1)) last - start =
          min (start + 1 + count) last - (start + 1) + 1 := by
        omega
      rw [if_pos (decide_eq_true h), hcount, List.range'_succ]
    · have hnone : min (start + (count + 1)) last - start = 0 := by
        omega
      have hrest : min (start + 1 + count) last - (start + 1) = 0 := by
        omega
      rw [if_neg (by simpa using h), hnone, hrest, List.range'_zero, List.range'_zero]

/-- A pass has before it what the map lists beyond its cursor. -/
theorem recoveryPassSectorLbas_eq (direction : ArchiveRecoveryPassDirection)
    (cursorLba : Option Nat) (ranges : List UnrecoveredSourceRange) :
    recoveryPassSectorLbas direction cursorLba ranges =
      beyond direction.Before cursorLba (direction.order ranges) := by
  cases direction with
  | forward =>
    rw [recoveryPassSectorLbas, beyond, ArchiveRecoveryPassDirection.order, sectorLbas,
      List.filter_flatMap]
    congr 1
    funext range
    cases cursorLba with
    | none => simp [UnrecoveredSourceRange.lbas, UnrecoveredSourceRange.endLbaExclusive]
    | some last => exact (filter_range'_from (last + 1) range.startLba range.sectorCount).symm
  | reverse =>
    rw [recoveryPassSectorLbas, beyond, ArchiveRecoveryPassDirection.order, sectorLbas,
      List.filter_reverse, List.filter_flatMap, List.reverse_flatMap]
    congr 1
    funext range
    cases cursorLba with
    | none => simp [UnrecoveredSourceRange.lbas, UnrecoveredSourceRange.endLbaExclusive]
    | some last =>
      exact congrArg List.reverse (filter_range'_to last range.startLba range.sectorCount).symm

/-- The sector that was read was the next one, and the others are still before the pass. -/
theorem recoveryPassSectorLbas_next (hs : (sectorLbas ranges).Pairwise (· < ·))
    (hread : dvdEvidenceRangesAfterRecoveryRead ranges lba outcome = .ok next)
    (h : recoveryPassSectorLbas direction cursorLba ranges = lba :: todo) :
    recoveryPassSectorLbas direction (some lba) next = todo := by
  obtain ⟨before, after, hranges, hnext⟩ := sectorLbas_afterRecoveryRead hread
  have hkept : ∀ y ∈ (if outcome = .failed then [lba] else []), y = lba := by
    intro y hy
    split at hy
    · exact List.mem_singleton.1 hy
    · cases hy
  have hsorted : (direction.order ranges).Pairwise direction.Before := direction.order_sorted hs
  rw [recoveryPassSectorLbas_eq] at h ⊢
  cases direction with
  | forward =>
    simp only [ArchiveRecoveryPassDirection.order, hranges, hnext] at h hsorted ⊢
    rw [beyond_some hsorted hkept]
    exact (rest_of_beyond hsorted h).symm
  | reverse =>
    simp only [ArchiveRecoveryPassDirection.order, hranges, hnext, List.reverse_append,
      List.reverse_cons, List.append_assoc, List.singleton_append] at h hsorted ⊢
    rw [← List.append_assoc, beyond_some hsorted fun y hy => hkept y (List.mem_reverse.1 hy)]
    exact (rest_of_beyond hsorted h).symm

namespace Catalog

/-- The manifest row of a revision. -/
def manifestAt (c : Catalog) (revision : Nat) : Option DvdArchiveEvidenceManifestRow :=
  c.manifests.find? (·.revision = revision)

/-- The sectors read from a revision on, in the order in which their reads were committed. -/
def readsSince (c : Catalog) (revision : Nat) : List Nat :=
  (c.recoveryReads.filter fun row => revision ≤ row.fromManifestRevision).map (·.startLba)

/-- The checkpoint that the pass of the row has started at. -/
def passStart (c : Catalog) : Option DvdArchiveEvidenceManifestRow :=
  c.pass.passStartedManifestRevision.bind c.manifestAt

/-- The sectors whose reads have been committed under the pass of the row. -/
def passReads (c : Catalog) : List Nat :=
  (c.pass.passStartedManifestRevision.map c.readsSince).getD []

/-- The sectors that the pass of the row has before it. -/
def passRest (c : Catalog) : List Nat :=
  (c.currentManifest.map fun current => recoveryPassSectorLbas c.pass.passDirection
    c.pass.passCursorLba current.unrecoveredSourceRanges).getD []

end Catalog

variable {c c' : Catalog}

theorem passRest_of_current (h : c.currentManifest = some current) :
    c.passRest = recoveryPassSectorLbas c.pass.passDirection c.pass.passCursorLba
      current.unrecoveredSourceRanges := by
  rw [Catalog.passRest, h]
  rfl

/-- Manifests and reads go up to the revision of the header. -/
structure History (c : Catalog) : Prop where
  manifests : ∀ row ∈ c.manifests, row.revision ≤ c.header.currentManifestRevision
  current : c.manifestAt c.header.currentManifestRevision = c.currentManifest
  reads : ∀ row ∈ c.recoveryReads, row.fromManifestRevision < c.header.currentManifestRevision
  canonical : ∀ current, c.currentManifest = some current →
    Canonical current.unrecoveredSourceRanges

/-- The map a started pass has begun with, in its order, is what it has read and what it has before
it. -/
def InOrder (c : Catalog) : Prop :=
  c.pass.passStartedAt ≠ none → ∃ revision started,
    c.pass.passStartedManifestRevision = some revision ∧ c.manifestAt revision = some started ∧
    (sectorLbas started.unrecoveredSourceRanges).Pairwise (· < ·) ∧
    c.pass.passDirection.order started.unrecoveredSourceRanges =
      c.readsSince revision ++ c.passRest

theorem JustPublished.history (h : JustPublished c) : History c := by
  obtain ⟨current, hcurrent, hrevision, -⟩ := h.aligned.current
  obtain ⟨-, hlength, hreads⟩ := h.evidence
  obtain ⟨row, hrow⟩ := List.length_eq_one_iff.1 hlength
  have hsame : current = row := by
    have hmem := List.mem_of_find?_eq_some hcurrent
    rwa [hrow, List.mem_singleton] at hmem
  subst hsame
  refine ⟨fun other ho => ?_, ?_, fun read hr => ?_, h.ranges⟩
  · rw [hrow, List.mem_singleton] at ho
    exact ho ▸ Nat.le_of_eq hrevision
  · rw [hcurrent, Catalog.manifestAt, hrow]
    simp [hrevision]
  · rw [hreads] at hr
    cases hr

theorem currentManifest_congr (h : c'.header = c.header ∧ c'.manifests = c.manifests ∧
    c'.recoveryReads = c.recoveryReads) : c'.currentManifest = c.currentManifest := by
  rw [Catalog.currentManifest, Catalog.currentManifest, h.1, h.2.1]

theorem History.congr (h : History c) (hevidence : c'.header = c.header ∧
    c'.manifests = c.manifests ∧ c'.recoveryReads = c.recoveryReads) : History c' := by
  have hcurrent := currentManifest_congr hevidence
  obtain ⟨hheader, hmanifests, hreads⟩ := hevidence
  refine ⟨?_, ?_, ?_, ?_⟩
  · rw [hmanifests, hheader]
    exact h.manifests
  · rw [Catalog.manifestAt, hmanifests, hheader, hcurrent]
    exact h.current
  · rw [hreads, hheader]
    exact h.reads
  · rw [hcurrent]
    exact h.canonical

theorem KeepsPass.history (h : KeepsPass c c') (hc : History c) : History c' :=
  hc.congr h.evidence

theorem pass_of_work (h : c.work = some work) : c.pass = work.toArchiveRecoveryPass := by
  rw [Catalog.pass, h]
  rfl

theorem KeepsPass.pass (h : KeepsPass c c') : c'.pass = c.pass ∨ c'.pass.passStartedAt = none := by
  cases hw : c'.work with
  | none =>
    refine .inr ?_
    rw [Catalog.pass, hw]
    rfl
  | some work' =>
    rw [pass_of_work hw]
    rcases h.row work' hw with ⟨work, hwork, hpass, -⟩ | ⟨-, hunstarted⟩
    · exact .inl (hpass.trans (pass_of_work hwork).symm)
    · exact .inr hunstarted.startedAt

theorem KeepsPass.pass_of_claimed (h : KeepsPass c c') (hc : ClaimedWith c' token) :
    c.work ≠ none ∧ c'.pass = c.pass := by
  obtain ⟨work', hw, hclaimed, -⟩ := hc
  rw [pass_of_work hw]
  rcases h.row work' hw with ⟨work, hwork, hpass, -⟩ | ⟨hrequested, -⟩
  · exact ⟨by simp [hwork], hpass.trans (pass_of_work hwork).symm⟩
  · cases hrequested.symm.trans hclaimed

theorem passRest_congr (hpass : c'.pass = c.pass) (h : c'.currentManifest = c.currentManifest) :
    c'.passRest = c.passRest := by
  rw [Catalog.passRest, Catalog.passRest, hpass, h]

theorem InOrder.congr (h : InOrder c) (hpass : c'.pass = c.pass)
    (hevidence : c'.header = c.header ∧ c'.manifests = c.manifests ∧
      c'.recoveryReads = c.recoveryReads) : InOrder c' := by
  have hcurrent := currentManifest_congr hevidence
  obtain ⟨-, hmanifests, hreads⟩ := hevidence
  intro hstarted
  rw [hpass] at hstarted
  obtain ⟨revision, started, hrevision, hat, hsorted, horder⟩ := h hstarted
  refine ⟨revision, started, hpass ▸ hrevision, ?_, hsorted, ?_⟩
  · rw [Catalog.manifestAt, hmanifests]
    exact hat
  · rw [passRest_congr hpass hcurrent, hpass, Catalog.readsSince, hreads]
    exact horder

theorem KeepsPass.inOrder (h : KeepsPass c c') (hc : InOrder c) : InOrder c' := by
  rcases h.pass with hsame | hnone
  · exact hc.congr hsame h.evidence
  · exact fun hstarted => absurd hnone hstarted

/-- A pass that starts has read nothing and has the whole map before it. -/
theorem ClaimedCandidate.inOrder {pass : ArchiveRecoveryPass}
    (h : ClaimedCandidate c workerId claimToken timestamp verification confirmation pass c')
    (hhistory : History c) (hcounted : Counted c) (hc : InOrder c) :
    History c' ∧ InOrder c' := by
  have hclaimed : (c'.header = c.header ∧ c'.manifests = c.manifests ∧
      c'.recoveryReads = c.recoveryReads) ∧ c'.pass = pass := by
    obtain ⟨confirmations, rfl⟩ := h.claimed
    exact ⟨⟨rfl, rfl, rfl⟩, rfl⟩
  obtain ⟨hevidence, hpass⟩ := hclaimed
  have hhistory' := hhistory.congr hevidence
  refine ⟨hhistory', ?_⟩
  rcases archiveRecoveryPassStart_ok h.start with ⟨hsame, -⟩ | ⟨hnone, current, hcurrent, hnew⟩
  · exact hc.congr (hpass.trans hsame) hevidence
  · obtain ⟨number, direction, hunstarted⟩ := hcounted.pass_unstarted hnone
    rw [hunstarted] at hnew
    subst hnew
    have hcurrent' := (currentManifest_congr hevidence).trans hcurrent
    intro _
    refine ⟨c'.header.currentManifestRevision, current, ?_, hhistory'.current.trans hcurrent',
      (hhistory'.canonical current hcurrent').sorted, ?_⟩
    · rw [hpass, hevidence.1]
    · have hreads : c'.readsSince c'.header.currentManifestRevision = [] := by
        rw [Catalog.readsSince, List.map_eq_nil_iff, List.filter_eq_nil_iff]
        intro row hrow hle
        exact Nat.not_le_of_lt (hhistory'.reads row hrow) (of_decide_eq_true hle)
      rw [hreads, passRest_of_current hcurrent', recoveryPassSectorLbas_eq, hpass]
      exact (beyond_none _ _).symm

theorem advancePass_moves (h : advancePass work recoveryRead timestamp = .ok next) :
    next.passDirection = work.passDirection ∧ next.passStartedAt = work.passStartedAt ∧
      next.passStartedManifestRevision = work.passStartedManifestRevision ∧
      next.passCursorLba = some recoveryRead.startLba := by
  obtain ⟨observed, hobserved, h⟩ := bind_ok.1 h
  obtain ⟨-, -, h⟩ := bind_ok.1 h
  cases h
  rw [observePass] at hobserved
  split at hobserved
  · split at hobserved
    · obtain ⟨-, -, he⟩ := bind_ok.1 hobserved
      cases he
      exact ⟨rfl, rfl, rfl, rfl⟩
    · cases hobserved
  · obtain ⟨-, -, he⟩ := bind_ok.1 hobserved
    cases he
    exact ⟨rfl, rfl, rfl, rfl⟩

theorem Advances.history (ha : Advances input c c') (hc : History c) : History c' := by
  obtain ⟨hfresh, hunused⟩ := ha.fresh
  obtain ⟨current, hcurrent, -, hranges⟩ := ha.ranges
  obtain ⟨hrevision, -⟩ := ha.successor
  obtain ⟨-, hfrom, -⟩ := ha.fromHeader
  obtain ⟨timestamp, classification, meaningful, work', -, rfl, -⟩ := ha.written
  have hnext := projectedCatalog_current hunused timestamp classification meaningful
  refine ⟨fun row hr => ?_, ?_, fun row hr => ?_, fun found hf => ?_⟩
  · show row.revision ≤ input.manifest.revision
    rcases List.mem_append.1 hr with hr | hr
    · have hle := hc.manifests row hr
      omega
    · cases List.mem_singleton.1 hr
      exact Nat.le_refl _
  · refine Eq.trans ?_ hnext.symm
    have hnone : c.manifests.find? (·.revision = input.manifest.revision) = none := by
      apply List.find?_eq_none.2
      intro other ho he
      have hle := hc.manifests other ho
      have := of_decide_eq_true he
      omega
    rw [Catalog.manifestAt, projectedCatalog, List.find?_append, hnone]
    simp
  · show row.fromManifestRevision < input.manifest.revision
    rcases List.mem_append.1 hr with hr | hr
    · have hlt := hc.reads row hr
      omega
    · cases List.mem_singleton.1 hr
      show input.recoveryRead.fromManifestRevision < _
      omega
  · cases hnext.symm.trans hf
    exact ((hc.canonical current hcurrent).afterRecoveryRead hranges).1

/-- A projection onto the claimed row of a pass writes its read, its manifest and its cursor. -/
theorem Advances.moves (ha : Advances input c c') (hwork : c.work = some work)
    (hheld : projectionWork input c = some work) :
    c'.pass.passDirection = c.pass.passDirection ∧
      c'.pass.passStartedManifestRevision = c.pass.passStartedManifestRevision ∧
      c'.pass.passCursorLba = some input.recoveryRead.startLba ∧
      ∃ current read, c'.currentManifest = some current ∧
        current.unrecoveredSourceRanges = input.manifest.unrecoveredSourceRanges ∧
        c'.manifests = c.manifests ++ [current] ∧
        c'.recoveryReads = c.recoveryReads ++ [read] ∧
        read.startLba = input.recoveryRead.startLba ∧
        read.fromManifestRevision = c.header.currentManifestRevision := by
  obtain ⟨-, hunused⟩ := ha.fresh
  obtain ⟨-, hfrom, -⟩ := ha.fromHeader
  obtain ⟨timestamp, classification, meaningful, work', hwork', rfl, -⟩ := ha.written
  rw [projectWork, hheld] at hwork'
  obtain ⟨next, hadvance, rfl⟩ := map_ok.1 hwork'
  obtain ⟨hdirection, -, hstartRevision, hcursor⟩ := advancePass_moves hadvance
  rw [pass_of_work hwork]
  exact ⟨hdirection, hstartRevision, hcursor, _, _,
    projectedCatalog_current hunused timestamp classification meaningful, rfl, rfl, rfl, rfl,
    hfrom.symm⟩

/-- It moves the next sector of the pass behind the pass. -/
theorem Advances.inOrder (ha : Advances input c c') (hhistory : History c) (hcounted : Counted c)
    (hc : InOrder c) (hwork : c.work = some work) (hheld : projectionWork input c = some work)
    (hrest : c.passRest = input.recoveryRead.startLba :: todo) :
    InOrder c' ∧ c'.passRest = todo := by
  obtain ⟨hdirection, hstartRevision, hcursor, next, read, hnext, hmap, hmanifests, hreads, hlba,
    hread⟩ := ha.moves hwork hheld
  obtain ⟨current, hcurrent, -, hranges⟩ := ha.ranges
  rw [passRest_of_current hcurrent] at hrest
  have hafter : c'.passRest = todo := by
    rw [passRest_of_current hnext, hdirection, hcursor, hmap]
    exact recoveryPassSectorLbas_next (hhistory.canonical current hcurrent).sorted hranges hrest
  refine ⟨fun _ => ?_, hafter⟩
  have hclaimed : work.status = .claimed :=
    (decide_eq_true_iff.1 (Option.filter_eq_some_iff.1 hheld).2).2.2.1
  obtain ⟨revision, started, hrevision, hat, hsorted, horder⟩ :=
    hc (pass_of_work hwork ▸ hcounted.started work hwork hclaimed)
  have hle : revision ≤ c.header.currentManifestRevision := by
    have hrow := hhistory.manifests started (List.mem_of_find?_eq_some hat)
    have hsame : started.revision = revision := by
      simpa using List.find?_some hat
    omega
  refine ⟨revision, started, hstartRevision.trans hrevision, ?_, hsorted, ?_⟩
  · rw [Catalog.manifestAt] at hat ⊢
    rw [hmanifests, List.find?_append, hat]
    rfl
  · have hsince : c'.readsSince revision =
        c.readsSince revision ++ [input.recoveryRead.startLba] := by
      rw [Catalog.readsSince, Catalog.readsSince, hreads, List.filter_append, List.map_append]
      simp [hread, hle, hlba]
    rw [hdirection, hsince, hafter, horder, passRest_of_current hcurrent, hrest,
      List.append_assoc, List.singleton_append]

/-- A row that is claimed was so before, or the transaction has generated its token. -/
theorem RecoveryOperation.Effect.claimedWith_before {op : RecoveryOperation}
    (he : op.Effect timestamp c c') (h : ClaimedWith c' token) :
    ClaimedWith c token ∨ op.takesClaim = true ∧ op.issues = [token] := by
  obtain ⟨work', hw', hclaimed', htoken'⟩ := h
  rcases he.cases_claim with hretains | ⟨other, row, hissues, hrow, hother, -, -, -, htakes⟩ |
    ⟨-, -, hnone⟩
  · obtain ⟨work, hwork, htoken, -⟩ := hretains.token work' hw' token htoken'
    rcases he.cases_pass with hkeeps | ⟨_, claimToken, _, _, _, rfl, hc⟩ | ⟨input, -, ha⟩
    · rcases hkeeps.row work' hw' with ⟨before, hbefore, -, hclaimed⟩ | ⟨hrequested, -⟩
      · cases hbefore.symm.trans hwork
        exact .inl ⟨work, hwork, hclaimed hclaimed', htoken⟩
      · cases hrequested.symm.trans hclaimed'
    · obtain ⟨_, rfl⟩ := hc.claimed
      cases hw'
      cases htoken'
      exact .inr ⟨rfl, rfl⟩
    · obtain ⟨_, _, _, row, hrow, rfl, -⟩ := ha.written
      refine .inl ⟨work, hwork, ?_, htoken⟩
      rcases projectWork_row hrow with rfl | ⟨before, _, hbefore, hclaimed, -⟩
      · cases hwork.symm.trans hw'
        exact hclaimed'
      · cases hbefore.symm.trans hwork
        exact hclaimed
  · cases hrow.symm.trans hw'
    cases hother.symm.trans htoken'
    exact .inr ⟨htakes, hissues⟩
  · cases (hnone work' hw').symm.trans htoken'

/-- What the holder of a claim is about agrees with the pass of the row. -/
def WorkerPhase.Pursues (pass : ArchiveRecoveryPass) (rest : List Nat) : WorkerPhase → Prop
  | .claimed direction cursorLba => direction = pass.passDirection ∧ cursorLba = pass.passCursorLba
  | .reading todo => rest = todo
  | .writing startLba todo => rest = startLba :: todo
  | .closing todo => rest = todo
  | _ => True

/-- The worker has a batch open. -/
def WorkerPhase.Writes : WorkerPhase → Prop
  | .writing _ _ => True
  | .closing _ => True
  | _ => False

/-- Every batch is of the next sector of the pass, whoever has opened it; a batch may outlive its
pass. -/
structure Ordered (s : RecoverySite) : Prop where
  progressing : Progressing s
  history : History s.catalog
  inOrder : InOrder s.catalog
  writer : ∀ token, s.writer = some token → token ∈ s.issued ∧
    ((∃ startLba todo, s.phase token = .writing startLba todo ∧
      (s.catalog.work ≠ none → s.catalog.passRest = startLba :: todo)) ∨
      ∃ todo, s.phase token = .closing todo)
  writes : ∀ token, (s.phase token).Writes → s.writer = some token
  pending : ∀ input, s.disk = .published input →
    input.manifest.revision = s.catalog.header.currentManifestRevision + 1 ∧
      (s.catalog.work ≠ none → ∃ todo, s.catalog.passRest = input.recoveryRead.startLba :: todo)
  holder : ∀ token, ClaimedWith s.catalog token →
    (s.phase token).Pursues s.catalog.pass s.catalog.passRest

theorem RecoverySite.Initial.ordered (h : RecoverySite.Initial s) : Ordered s := by
  have hprogressing := h.progressing
  obtain ⟨⟨hpublished, -⟩, hdisk, hwriter, hphase⟩ := h
  have hpass : s.catalog.pass = .initial := by
    rw [Catalog.pass, hpublished.work]
    rfl
  refine ⟨hprogressing, hpublished.history, fun hstarted => ?_, fun token hw => ?_,
    fun token hw => ?_, fun input hd => ?_, fun token hclaimed => ?_⟩
  · rw [hpass] at hstarted
    exact absurd rfl hstarted
  · cases hwriter.symm.trans hw
  · rw [hphase] at hw
    exact hw.elim
  · cases hdisk.symm.trans hd
  · obtain ⟨work, hwork, -⟩ := hclaimed
    cases hpublished.work.symm.trans hwork

@[simp] theorem setPhase_self (s : RecoverySite) (token : String) (phase : WorkerPhase) :
    (s.setPhase token phase).phase token = phase := if_pos rfl

theorem setPhase_ne (s : RecoverySite) (phase : WorkerPhase) (h : token ≠ claimToken) :
    (s.setPhase claimToken phase).phase token = s.phase token := if_neg h

/-- What neither starts a pass nor opens, moves or closes a batch keeps the order. -/
theorem Ordered.frame {s s' : RecoverySite} (h : Ordered s) (hprogressing : Progressing s')
    (hkeeps : KeepsPass s.catalog s'.catalog) (hissued : ∀ newId ∈ s.issued, newId ∈ s'.issued)
    (hwriter : s'.writer = s.writer) (hdisk : s'.disk = s.disk)
    (hphase : ∀ token, s'.phase token = s.phase token ∨
      ¬(s'.phase token).Writes ∧ s.writer ≠ some token)
    (hholder : ∀ token, ClaimedWith s'.catalog token →
      ClaimedWith s.catalog token ∧ s'.phase token = s.phase token ∨
      (s'.phase token).Pursues s'.catalog.pass s'.catalog.passRest) : Ordered s' := by
  have hrest : s'.BatchOpen → s'.catalog.work ≠ none →
      s.catalog.work ≠ none ∧ s'.catalog.passRest = s.catalog.passRest := by
    intro hopen hwork
    rcases hprogressing.holds hopen with ⟨token, hclaimed⟩ | hidle
    · obtain ⟨hbefore, hpass⟩ := hkeeps.pass_of_claimed hclaimed
      exact ⟨hbefore, passRest_congr hpass hkeeps.currentManifest⟩
    · exact absurd hidle.2 hwork
  refine ⟨hprogressing, hkeeps.history h.history, hkeeps.inOrder h.inOrder, fun token hw => ?_,
    fun token hw => ?_, fun input hd => ?_, fun token hclaimed => ?_⟩
  · obtain ⟨hold, hbatch⟩ := h.writer token (hwriter ▸ hw)
    have hsame : s'.phase token = s.phase token := by
      rcases hphase token with hsame | ⟨-, hnot⟩
      · exact hsame
      · exact absurd (hwriter ▸ hw) hnot
    rw [hsame]
    refine ⟨hissued token hold, ?_⟩
    rcases hbatch with ⟨startLba, todo, hwriting, hnext⟩ | hclosing
    · refine .inl ⟨startLba, todo, hwriting, fun hwork => ?_⟩
      obtain ⟨hbefore, hkept⟩ := hrest (.inl (by simp [hw])) hwork
      exact hkept.trans (hnext hbefore)
    · exact .inr hclosing
  · rcases hphase token with hsame | ⟨hnot, -⟩
    · exact hwriter.trans (h.writes token (hsame ▸ hw))
    · exact absurd hw hnot
  · have hopen : s'.BatchOpen := .inr (by rw [hd]; rfl)
    obtain ⟨hrevision, hnext⟩ := h.pending input (hdisk ▸ hd)
    refine ⟨hkeeps.evidence.1 ▸ hrevision, fun hwork => ?_⟩
    obtain ⟨hbefore, hkept⟩ := hrest hopen hwork
    exact hkept ▸ hnext hbefore
  · rcases hholder token hclaimed with ⟨hbefore, hsame⟩ | hpursues
    · obtain ⟨-, hpass⟩ := hkeeps.pass_of_claimed hclaimed
      rw [hsame, hpass, passRest_congr hpass hkeeps.currentManifest]
      exact h.holder token hbefore
    · exact hpursues

variable (sha256 : Hashed → Digest)

/-- A transaction other than a claim or a projection starts no pass. -/
theorem RecoverySystem.Step.keepsPass (h : RecoverySystem.Step sha256 s op s')
    (hclaim : ∀ workerId claimToken, op ≠ .claimNextVerifiedCandidate workerId claimToken)
    (hproject : ∀ input, op ≠ .projectDvdRecoveryCheckpoint input) :
    KeepsPass s.catalog s'.catalog := by
  obtain ⟨_, he⟩ := h.effect sha256
  rcases he.cases_pass with hkeeps | ⟨_, _, _, _, _, rfl, -⟩ | ⟨_, rfl, -⟩
  · exact hkeeps
  · exact absurd rfl (hclaim _ _)
  · exact absurd rfl (hproject _)

/-- A claim that takes no row starts no pass either. -/
theorem RecoverySystem.Step.keepsPass_of_not
    (h : RecoverySystem.Step sha256 s (.claimNextVerifiedCandidate workerId claimToken) s')
    (hnot : ∀ work, s'.catalog.work = some work → work.status = .claimed →
      work.claimToken ≠ some claimToken) : KeepsPass s.catalog s'.catalog := by
  obtain ⟨_, he⟩ := h.effect sha256
  rcases he.cases_pass with hkeeps | ⟨_, _, _, _, _, hop, hc⟩ | ⟨_, hop, -⟩
  · exact hkeeps
  · cases hop
    obtain ⟨_, hclaimed⟩ := hc.claimed
    rw [hclaimed] at hnot
    exact absurd rfl (hnot _ rfl rfl)
  · cases hop

/-- A row that is still claimed after a transaction without a claim was claimed before it. -/
theorem RecoverySystem.Step.claimedWith_before (h : RecoverySystem.Step sha256 s op s')
    (hop : op.takesClaim = false) (hclaimed : ClaimedWith s'.catalog token) :
    ClaimedWith s.catalog token := by
  obtain ⟨_, he⟩ := h.effect sha256
  rcases he.claimedWith_before hclaimed with hbefore | ⟨htakes, -⟩
  · exact hbefore
  · cases hop.symm.trans htakes

/-- The same of a claim or takeover that has not got the row. -/
theorem RecoverySystem.Step.claimedWith_of_not (h : RecoverySystem.Step sha256 s op s')
    (hissues : op.issues = [claimToken])
    (hnot : ∀ work, s'.catalog.work = some work → work.status = .claimed →
      work.claimToken ≠ some claimToken) (hclaimed : ClaimedWith s'.catalog token) :
    ClaimedWith s.catalog token := by
  obtain ⟨_, he⟩ := h.effect sha256
  rcases he.claimedWith_before hclaimed with hbefore | ⟨-, hnew⟩
  · exact hbefore
  · obtain ⟨work, hwork, hstatus, htoken⟩ := hclaimed
    cases hissues.symm.trans hnew
    exact absurd htoken (hnot work hwork hstatus)

/-- The projection of a pending checkpoint moves the next sector behind the pass. -/
theorem Ordered.projected (h : Ordered s) (hdisk : s.disk = .published input)
    (hstep : RecoverySystem.Step sha256 s.toRecoverySystem
      (.projectDvdRecoveryCheckpoint { input with claim }) system) :
    History system.catalog ∧ InOrder system.catalog ∧
      s.catalog.passRest = input.recoveryRead.startLba :: system.catalog.passRest := by
  obtain ⟨hrevision, hnext⟩ := h.pending input hdisk
  obtain ⟨-, -, timestamp, returned, hrun⟩ := (RecoverySystem.step_iff sha256).1 hstep
  obtain ⟨header, hp⟩ := commits_snd_ok hrun
  obtain ⟨-, hclaim, ⟨-, hsame, -⟩ | ha⟩ := projectDvdRecoveryCheckpoint_ok sha256 hp
  · -- the header is still behind the checkpoint
    rw [hrevision] at hsame
    omega
  · obtain ⟨token, work, hwork, hstatus, -⟩ :=
      (h.progressing.holds (.inr (by rw [hdisk]; rfl))).resolve_right ha.not_idle
    obtain ⟨todo, hrest⟩ := hnext (by simp [hwork])
    have hheld := projectionWork_some hclaim h.progressing.coherent.row hwork hstatus
    obtain ⟨hinOrder, hafter⟩ :=
      ha.inOrder h.history h.progressing.counted h.inOrder hwork hheld hrest
    exact ⟨ha.history h.history, hinOrder, hafter ▸ hrest⟩

theorem Ordered.writes_of_setPhase (h : Ordered s) (hphase : ¬phase.Writes)
    (hw : ((s.setPhase claimToken phase).phase token).Writes) :
    s.writer = some token ∧ token ≠ claimToken := by
  by_cases hsame : token = claimToken
  · subst hsame
    rw [setPhase_self] at hw
    exact absurd hw hphase
  · rw [setPhase_ne _ _ hsame] at hw
    exact ⟨h.writes token hw, hsame⟩

theorem Ordered.holder_of_setPhase (h : Ordered s)
    (hphase : ClaimedWith s.catalog claimToken →
      phase.Pursues s.catalog.pass s.catalog.passRest) (hclaimed : ClaimedWith s.catalog token) :
    ((s.setPhase claimToken phase).phase token).Pursues s.catalog.pass s.catalog.passRest := by
  by_cases hsame : token = claimToken
  · subst hsame
    rw [setPhase_self]
    exact hphase hclaimed
  · rw [setPhase_ne _ _ hsame]
    exact h.holder token hclaimed

/-- The holder of the row gives it back between batches. -/
theorem Ordered.given_up (h : Ordered s)
    (hprogressing : Progressing (RecoverySite.setPhase { s with toRecoverySystem := system }
      claimToken .gone))
    (hstep : RecoverySystem.Step sha256 s.toRecoverySystem op system)
    (hop : op.takesClaim = false)
    (hclaim : ∀ workerId claimToken, op ≠ .claimNextVerifiedCandidate workerId claimToken)
    (hproject : ∀ input, op ≠ .projectDvdRecoveryCheckpoint input)
    (hclaimed : ClaimedWith s.catalog claimToken) (hphase : ¬(s.phase claimToken).Waits) :
    Ordered (RecoverySite.setPhase { s with toRecoverySystem := system } claimToken .gone) := by
  have hclosed := h.progressing.not_open hclaimed hphase
  refine h.frame hprogressing (hstep.keepsPass sha256 hclaim hproject)
    (fun _ hm => issued_step sha256 hstep hm) rfl rfl (fun token => ?_) fun token hheld => ?_
  · by_cases hsame : token = claimToken
    · subst hsame
      refine .inr ⟨by rw [setPhase_self]; exact id, fun hw => hclosed (.inl (by simp [hw]))⟩
    · exact .inl (setPhase_ne _ _ hsame)
  · cases (hstep.claimedWith_before sha256 hop hheld).unique hclaimed
    refine .inr ?_
    rw [setPhase_self]
    trivial

theorem Ordered.step (h : Ordered s) (hstep : RecoverySite.Step sha256 s action s') :
    Ordered s' := by
  have hprogressing := h.progressing.step sha256 hstep
  obtain ⟨timestamp, hperform⟩ := hstep
  cases RecoverySite.perform_effect sha256 hperform with
  | @transaction op system hop hread hstep =>
    have hkeeps : KeepsPass s.catalog system.catalog := by
      refine hstep.keepsPass sha256 (fun _ _ he => ?_) (fun _ he => ?_)
      · subst he
        cases hop
      · subst he
        cases hop
    refine h.frame hprogressing hkeeps (fun _ hm => issued_step sha256 hstep hm) rfl rfl
      (fun _ => .inl rfl) fun token hclaimed => .inl ⟨?_, rfl⟩
    refine hstep.claimedWith_before sha256 ?_ hclaimed
    cases op with
    | claimNextVerifiedCandidate => cases hop
    | beginInterruptedTakeover => cases hop
    | _ => rfl
  | @claim workerId claimToken system work hstep hwork hclaimed htoken =>
    have hclosed := h.progressing.closed_of_claim sha256 hstep ⟨work, hwork, hclaimed, htoken⟩
    have horder : History system.catalog ∧ InOrder system.catalog := by
      obtain ⟨_, he⟩ := hstep.effect sha256
      rcases he.cases_pass with hkeeps | ⟨_, _, _, _, _, hop, hc⟩ | ⟨_, hop, -⟩
      · exact ⟨hkeeps.history h.history, hkeeps.inOrder h.inOrder⟩
      · exact hc.inOrder h.history h.progressing.counted h.inOrder
      · cases hop
    refine ⟨hprogressing, horder.1, horder.2, fun token hw => ?_, fun token hw => ?_,
      fun input hd => ?_, fun token hheld => ?_⟩
    · exact absurd (.inl (by simp [show s.writer = some token from hw])) hclosed
    · exact (h.writes_of_setPhase id hw).1
    · exact absurd (.inr (by rw [show s.disk = .published input from hd]; rfl)) hclosed
    · cases hheld.unique ⟨work, hwork, hclaimed, htoken⟩
      rw [setPhase_self]
      have hpass : system.catalog.pass = work.toArchiveRecoveryPass := pass_of_work hwork
      exact ⟨congrArg ArchiveRecoveryPass.passDirection hpass.symm,
        congrArg ArchiveRecoveryPass.passCursorLba hpass.symm⟩
  | @notClaimed workerId claimToken system hstep hnot =>
    exact h.frame hprogressing (hstep.keepsPass_of_not sha256 hnot)
      (fun _ hm => issued_step sha256 hstep hm) rfl rfl (fun _ => .inl rfl)
      fun token hclaimed => .inl ⟨hstep.claimedWith_of_not sha256 rfl hnot hclaimed, rfl⟩
  | @takeOver claim workerId claimToken system work hstep hwork hclaimed htoken =>
    refine h.frame hprogressing
      (hstep.keepsPass sha256 (fun _ _ he => by cases he) (fun _ he => by cases he))
      (fun _ hm => issued_step sha256 hstep hm) rfl rfl (fun token => ?_) fun token hheld => ?_
    · by_cases hsame : token = claimToken
      · subst hsame
        refine .inr ⟨by rw [setPhase_self]; exact id, fun hw => ?_⟩
        exact hstep.fresh sha256 (List.mem_singleton_self _) (h.writer token hw).1
      · exact .inl (setPhase_ne _ _ hsame)
    · cases hheld.unique ⟨work, hwork, hclaimed, htoken⟩
      refine .inr ?_
      rw [setPhase_self]
      trivial
  | @notTakenOver claim workerId claimToken system hstep hnot =>
    exact h.frame hprogressing
      (hstep.keepsPass sha256 (fun _ _ he => by cases he) (fun _ he => by cases he))
      (fun _ hm => issued_step sha256 hstep hm) rfl rfl (fun _ => .inl rfl)
      fun token hclaimed => .inl ⟨hstep.claimedWith_of_not sha256 rfl hnot hclaimed, rfl⟩
  | @readCheckpoint claimToken direction cursorLba current hphase hcurrent hwriter hdisk =>
    refine ⟨hprogressing, h.history, h.inOrder, fun token hw => ?_, fun token hw => ?_,
      fun input hd => ?_, fun token hclaimed => ?_⟩
    · cases hwriter.symm.trans hw
    · exact (h.writes_of_setPhase id hw).1
    · cases hdisk.symm.trans hd
    · refine h.holder_of_setPhase (fun hheld => ?_) hclaimed
      have hpursues := h.holder claimToken hheld
      rw [hphase] at hpursues
      obtain ⟨rfl, rfl⟩ := hpursues
      exact passRest_of_current hcurrent
  | @beginBatch startLba todo claim work hphase hwriter hdisk hclaim =>
    have hrest : s.catalog.passRest = startLba :: todo := by
      have hpursues := h.holder _ (claimedWith_of_current hclaim)
      rwa [hphase] at hpursues
    refine ⟨hprogressing, h.history, h.inOrder, fun token hw => ?_, fun token hw => ?_,
      fun input hd => ?_, fun token hclaimed => ?_⟩
    · cases hw
      obtain ⟨hwork, -, -, -, htoken, -⟩ := requireCurrentArchiveRecoveryClaim_ok.1 hclaim
      exact ⟨h.progressing.issued.token work hwork _ htoken,
        .inl ⟨startLba, todo, setPhase_self _ _ _, fun _ => hrest⟩⟩
    · by_cases hsame : token = claim.claimToken
      · exact congrArg some hsame.symm
      · have hold := h.writes token (setPhase_ne s _ hsame ▸ hw)
        cases hwriter.symm.trans hold
    · cases hdisk.symm.trans hd
    · exact h.holder_of_setPhase (fun _ => hrest) hclaimed
  | reserveJournal hphase hwriter hdisk =>
    exact ⟨hprogressing, h.history, h.inOrder, h.writer, h.writes,
      fun _ hd => (nomatch hd), h.holder⟩
  | @publish claimToken startLba todo input hphase hwriter hdisk hstart hnext =>
    refine ⟨hprogressing, h.history, h.inOrder, h.writer, h.writes, fun found hd => ?_, h.holder⟩
    cases hd
    refine ⟨hnext, fun hwork => ?_⟩
    rcases (h.writer claimToken hwriter).2 with ⟨lba, rest, hwriting, hrest⟩ | ⟨rest, hclosing⟩
    · cases hphase.symm.trans hwriting
      exact ⟨todo, hstart ▸ hrest hwork⟩
    · cases hphase.symm.trans hclosing
  | @project startLba todo input claim system hphase hwriter hdisk hstep =>
    obtain ⟨hhistory, hinOrder, hrest⟩ := h.projected sha256 hdisk hstep
    obtain ⟨work, hwork, -⟩ := claimedWith_of_projection sha256 hstep rfl
    obtain ⟨hold, hbatch⟩ := h.writer _ hwriter
    have htodo : system.catalog.passRest = todo := by
      rcases hbatch with ⟨lba, rest, hwriting, hbefore⟩ | ⟨rest, hclosing⟩
      · cases hphase.symm.trans hwriting
        exact (List.cons.inj (hrest.symm.trans (hbefore (by simp [hwork])))).2
      · cases hphase.symm.trans hclosing
    refine ⟨hprogressing, hhistory, hinOrder, fun token hw => ?_, fun token hw => ?_,
      fun _ hd => (nomatch hd), fun token hclaimed => ?_⟩
    · cases hwriter.symm.trans hw
      exact ⟨issued_step sha256 hstep hold, .inr ⟨todo, setPhase_self _ _ _⟩⟩
    · by_cases hsame : token = claim.claimToken
      · exact hsame ▸ hwriter
      · exact h.writes token (setPhase_ne _ _ hsame ▸ hw)
    · -- the holder of the row is the writer that has projected
      have hcurrent := claimedWith_of_projection sha256 hstep rfl
      cases (hstep.claimedWith_before sha256 rfl hclaimed).unique hcurrent
      show (RecoverySite.phase (RecoverySite.setPhase _ _ _) _).Pursues _ _
      rw [setPhase_self]
      exact htodo
  | @unlinkJournal claimToken todo hphase hwriter =>
    refine ⟨hprogressing, h.history, h.inOrder, fun token hw => (nomatch hw), fun token hw => ?_,
      fun _ hd => (nomatch hd), fun token hclaimed => ?_⟩
    · obtain ⟨hold, hne⟩ := h.writes_of_setPhase id hw
      exact absurd (Option.some.inj (hold.symm.trans hwriter)) hne
    · refine h.holder_of_setPhase (fun hheld => ?_) hclaimed
      have hpursues := h.holder claimToken hheld
      rwa [hphase] at hpursues
  | @failBatch claimToken hwriter =>
    refine ⟨hprogressing, h.history, h.inOrder, fun token hw => (nomatch hw), fun token hw => ?_,
      h.pending, fun token hclaimed => ?_⟩
    · obtain ⟨hold, hne⟩ := h.writes_of_setPhase id hw
      exact absurd (Option.some.inj (hold.symm.trans hwriter)) hne
    · exact h.holder_of_setPhase (fun _ => trivial) hclaimed
  | @crash claimToken =>
    refine ⟨hprogressing, h.history, h.inOrder, fun token hw => ?_, fun token hw => ?_,
      h.pending, fun token hclaimed => ?_⟩
    · by_cases hwriter : s.writer = some claimToken
      · cases (if_pos hwriter).symm.trans hw
      · have hold : s.writer = some token := (if_neg hwriter).symm.trans hw
        have hne : token ≠ claimToken := fun he => hwriter (he ▸ hold)
        show _ ∧ ((∃ _ _, (s.setPhase claimToken _).phase token = _ ∧ _) ∨
          ∃ _, (s.setPhase claimToken _).phase token = _)
        rw [setPhase_ne _ _ hne]
        exact h.writer token hold
    · obtain ⟨hold, hother⟩ := h.writes_of_setPhase id hw
      have hne : s.writer ≠ some claimToken := fun he =>
        hother (Option.some.inj (hold.symm.trans he))
      exact (if_neg hne).trans hold
    · exact h.holder_of_setPhase (fun _ => trivial) hclaimed
  | @rollForward input system hwriter hdisk hstep =>
    obtain ⟨hhistory, hinOrder, hrest⟩ := h.projected sha256 hdisk hstep
    refine ⟨hprogressing, hhistory, hinOrder, fun token hw => ?_, h.writes,
      fun _ hd => (nomatch hd), fun token hclaimed => ?_⟩
    · cases hwriter.symm.trans hw
    · -- nobody writes, so that the holder of the row waits for nothing
      have hwaits := h.progressing.waits (.inr (by rw [hdisk]; rfl))
        (hstep.claimedWith_before sha256 rfl hclaimed)
      have hidle : ¬(s.phase token).Writes := by
        intro hw
        cases hwriter.symm.trans (h.writes token hw)
      show (s.phase token).Pursues _ _
      cases hphase : s.phase token with
      | claimed => exact (hphase ▸ hwaits : WorkerPhase.Waits (.claimed _ _)).elim
      | reading => exact (hphase ▸ hwaits : WorkerPhase.Waits (.reading _)).elim
      | writing => exact (hidle (by rw [hphase]; trivial)).elim
      | closing => exact (hidle (by rw [hphase]; trivial)).elim
      | _ => trivial
  | removeJournal hwriter hdisk =>
    exact ⟨hprogressing, h.history, h.inOrder, h.writer, h.writes, fun _ hd => (nomatch hd),
      h.holder⟩
  | @reconciled claimToken hwriter hdisk hphase =>
    refine ⟨hprogressing, h.history, h.inOrder, fun token hw => ?_, fun token hw => ?_,
      fun _ hd => (nomatch hd),
      fun token hclaimed => h.holder_of_setPhase (fun _ => trivial) hclaimed⟩
    · cases hwriter.symm.trans hw
    · exact (h.writes_of_setPhase id hw).1
  | @requeue claim system hphase hstep =>
    obtain ⟨work, hclaim⟩ := current_of_requeue sha256 hstep
    refine h.given_up sha256 hprogressing hstep rfl (fun _ _ he => by cases he)
      (fun _ he => by cases he) (claimedWith_of_current hclaim) ?_
    rcases hphase with ⟨_, _, hp⟩ | ⟨_, hp⟩ | hp
    all_goals simp [hp, WorkerPhase.Waits]
  | @settlePass claim newVerificationId system hphase hstep =>
    obtain ⟨work, hclaim⟩ := current_of_settlePass sha256 hstep
    exact h.given_up sha256 hprogressing hstep rfl (fun _ _ he => by cases he)
      (fun _ he => by cases he) (claimedWith_of_current hclaim)
      (by simp [hphase, WorkerPhase.Waits])

theorem ordered_of_run (hstart : RecoverySite.Initial s₀)
    (hrun : Run (RecoverySite.Step sha256) s₀ actions s) : Ordered s :=
  hrun.inv (I := Ordered) (fun _ _ _ h hstep => h.step sha256 hstep) hstart.ordered

/-- The reads committed under the pass of the row follow the map it has started with. -/
structure PassInOrder (s : RecoverySite) (started : DvdArchiveEvidenceManifestRow) : Prop where
  ordered : s.catalog.passReads.Pairwise s.catalog.pass.passDirection.Before
  within : ∀ lba ∈ s.catalog.passReads, lba ∈ sectorLbas started.unrecoveredSourceRanges
  once : s.catalog.passReads.Nodup
  /-- whoever begins a batch is at the first sector that has not been read -/
  next : ∀ claim s', RecoverySite.Step sha256 s (.beginBatch claim) s' →
    ∃ startLba todo, s.phase claim.claimToken = .reading (startLba :: todo) ∧
      s.catalog.pass.passDirection.order started.unrecoveredSourceRanges =
        s.catalog.passReads ++ startLba :: todo
  /-- whoever has come to the end of its sectors has read them all, whether its settlement commits
  or not -/
  settled : ∀ claim work, requireCurrentArchiveRecoveryClaim s.catalog claim = .ok work →
    s.phase claim.claimToken = .reading [] →
    s.catalog.passReads = s.catalog.pass.passDirection.order started.unrecoveredSourceRanges

/-- A pass reads the map it has started with sector by sector in its direction, whatever interrupts
it between. -/
theorem pass_reads_in_order (hstart : RecoverySite.Initial s₀)
    (hrun : Run (RecoverySite.Step sha256) s₀ actions s)
    (hstarted : s.catalog.pass.passStartedAt ≠ none) :
    ∃ started, s.catalog.passStart = some started ∧ PassInOrder sha256 s started := by
  have h := ordered_of_run sha256 hstart hrun
  obtain ⟨revision, started, hrevision, hat, hsorted, horder⟩ := h.inOrder hstarted
  have hreads : s.catalog.passReads = s.catalog.readsSince revision := by
    rw [Catalog.passReads, hrevision]
    rfl
  rw [← hreads] at horder
  have hall : (s.catalog.pass.passDirection.order started.unrecoveredSourceRanges).Pairwise
      s.catalog.pass.passDirection.Before := ArchiveRecoveryPassDirection.order_sorted hsorted
  rw [horder] at hall
  have hordered := (List.pairwise_append.1 hall).1
  refine ⟨started, by rw [Catalog.passStart, hrevision]; exact hat, hordered, fun lba hm => ?_,
    hordered.imp fun hbefore he => ?_, fun claim s' hstep => ?_,
    fun claim work hclaim hphase => ?_⟩
  · apply ArchiveRecoveryPassDirection.mem_order.1
    rw [horder]
    exact List.mem_append_left _ hm
  · subst he
    exact irrefl _ hbefore
  · obtain ⟨timestamp, hperform⟩ := hstep
    cases RecoverySite.perform_effect sha256 hperform with
    | @beginBatch startLba todo claim work hphase hwriter hdisk hclaim =>
      have hpursues := h.holder _ (claimedWith_of_current hclaim)
      rw [hphase] at hpursues
      exact ⟨startLba, todo, hphase, horder.trans (congrArg _ hpursues)⟩
  · have hpursues := h.holder _ (claimedWith_of_current hclaim)
    rw [hphase] at hpursues
    rw [horder, show s.catalog.passRest = [] from hpursues, List.append_nil]

/-- The second sector of the sample cannot be read. -/
def secondProjection : DvdRecoveryCheckpointProjection where
  claim := none
  recoveryRead := { sampleProjection.recoveryRead with
    fromManifestId := "archive:recovery:2"
    fromManifestRevision := 2
    startLba := 1
    outcome := .failed
    id := "archive:recovery-read:3" }
  manifest := { sampleManifest with
    revision := 3
    previousManifestId := some "archive:recovery:2"
    previousManifestDigest := some 2
    recoveryReadId := some "archive:recovery-read:3"
    recoveryReadEvidenceDigest := some 0
    unrecoveredSourceRanges := [⟨1, 1, .individuallyFailed⟩]
    manifestDigest := 3
    id := "archive:recovery:3" }

/-- The worker publishes its second sector and crashes. The pass is taken over, rolled forward,
requeued and claimed once more. -/
def interruptedPassRun : List (Nat × SiteAction) := [
  (11, .beginBatch sampleClaim),
  (12, .reserveJournal "token"),
  (13, .publish "token" secondProjection),
  (14, .crash "token"),
  (70000, .takeOver sampleClaim "other" "taken"),
  (70001, .rollForward),
  (70002, .removeJournal (some "taken")),
  (70003, .requeue { sampleClaim with
    claimedBy := "other"
    claimToken := "taken" }),
  (70004, .claim "worker" "again"),
  (70005, .readCheckpoint "again")]

/-- The forward pass over two sectors comes to its end with each of them read once. -/
theorem interruptedPass_in_order : ∃ s started,
    Run (RecoverySite.Step sampleSha256) publishedSite
      ((firstPassRun ++ firstBatchRun ++ interruptedPassRun).map Prod.snd) s ∧
    s.phase "again" = .reading [] ∧ s.catalog.passReads = [0, 1] ∧
    s.catalog.passStart = some started ∧ PassInOrder sampleSha256 s started := by
  have h : ∃ s ∈ publishedSite.performAll sampleSha256
        (firstPassRun ++ firstBatchRun ++ interruptedPassRun),
      s.phase "again" = .reading [] ∧ s.catalog.passReads = [0, 1] ∧
        s.catalog.pass.passStartedAt ≠ none := by
    decide +kernel
  obtain ⟨s, hs, hphase, hreads, hstarted⟩ := h
  have hrun := RecoverySite.run_of_performAll _ hs
  obtain ⟨started, hstart, horder⟩ :=
    pass_reads_in_order sampleSha256 publishedSite_initial hrun hstarted
  exact ⟨s, started, hrun, hphase, hreads, hstart, horder⟩

end RipDvd
