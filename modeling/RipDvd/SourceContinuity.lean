import RipDvd.Bitmap
import RipDvd.Consecutive
import RipDvd.DamageIdentity
import RipDvd.Projection

namespace RipDvd
set_option autoImplicit true

open Extent

/-- A digest as every record spells it. -/
def Digest.text (digest : Digest) : String :=
  toHex ((List.range 32).map fun i => UInt8.ofNat (digest.toNat / 256 ^ (31 - i)))

/-- Sectors in a row that were recovered under one confirmation. -/
structure RecoveredRange where
  discConfirmationId : String
  startLba : Nat
  sectorCount : Nat
  deriving DecidableEq

instance : Extent RecoveredRange where
  start range := range.startLba
  length range := range.sectorCount
  resize range startLba sectorCount := { range with startLba, sectorCount }
  start_resize := rfl
  length_resize := rfl

/-- Text in the order of its code points, then ascending by start. -/
def compareRecoveredRanges : RecoveredRange → RecoveredRange → Ordering :=
  compareLex (compareOn fun range => range.discConfirmationId.toList) (compareOn (·.startLba))

/-- The recovered sectors that a revision has behind it, each with its confirmation. -/
def confirmedReads (originalDiscArchiveId : String) (manifestRevision : Nat) (c : Catalog) :
    List (String × Nat) :=
  c.recoveryReads.filterMap fun read =>
    if read.originalDiscArchiveId = originalDiscArchiveId ∧
        read.fromManifestRevision < manifestRevision ∧ read.outcome = .recovered then
      read.discConfirmationId.join.map fun discConfirmationId => (discConfirmationId, read.startLba)
    else none

/-- The rows of one confirmation, grouped by what their row numbers leave of their sectors. -/
def partitionRanges (reads : List (String × Nat)) (discConfirmationId : String) :
    List RecoveredRange :=
  let startLbas := (reads.filter fun read => read.1 = discConfirmationId).map Prod.snd
  (Stretch.runsFrom 0 (sortBy compare startLbas)).map fun run =>
    ⟨discConfirmationId, run.start, run.length⟩

/-- The query over `dvd_archive_recovery_reads`. -/
def recoveredRanges (reads : List (String × Nat)) : List RecoveredRange :=
  sortBy compareRecoveredRanges
    ((reads.map Prod.fst).eraseDups.flatMap (partitionRanges reads))

/-- An entry of the map that gathers the ranges of each confirmation. -/
structure ConfirmedRanges where
  confirmation : DvdDiscConfirmation
  recoveredSourceRanges : List UnreadableSectorRange
  deriving DecidableEq

def continuityFault : DomainError :=
  .invariant "Title Damage Assessment source-continuity provenance is inconsistent"

/-- The confirmation of a range must be one of the archive from before the revision. -/
def continuityConfirmation (originalDiscArchiveId : String) (manifestRevision : Nat) (c : Catalog)
    (discConfirmationId : String) : Except DomainError DvdDiscConfirmation :=
  match c.findConfirmation discConfirmationId with
  | none => .error continuityFault
  | some confirmation => do
    rejectIf (confirmation.originalDiscArchiveId ≠ originalDiscArchiveId ∨
        confirmation.checkpointRevision ≥ manifestRevision)
      continuityFault
    return confirmation

/-- Push a range to the entry of its confirmation; a new entry goes last. -/
def pushRange (byConfirmation : List ConfirmedRanges) (confirmation : DvdDiscConfirmation)
    (range : UnreadableSectorRange) : List ConfirmedRanges :=
  if ∃ entry ∈ byConfirmation, entry.confirmation.id = confirmation.id then
    byConfirmation.map fun entry =>
      if entry.confirmation.id = confirmation.id then
        { entry with recoveredSourceRanges := entry.recoveredSourceRanges ++ [range] }
      else entry
  else byConfirmation ++ [⟨confirmation, [range]⟩]

def gatherRange (originalDiscArchiveId : String) (manifestRevision : Nat) (c : Catalog)
    (byConfirmation : List ConfirmedRanges) (range : RecoveredRange) :
    Except DomainError (List ConfirmedRanges) := do
  let confirmation ← continuityConfirmation originalDiscArchiveId manifestRevision c
    range.discConfirmationId
  return pushRange byConfirmation confirmation ⟨range.startLba, range.sectorCount⟩

/-- The table admits no confirmation of a match. -/
def confirmedOutcome : DvdDiscVerificationOutcome →
    Except DomainError ConfirmedVerificationOutcome
  | .match => .error (.constraint "dvd_disc_confirmations_result_check")
  | .mismatch => .ok .mismatch
  | .inconclusive => .ok .inconclusive

def ConfirmedRanges.provenance (entry : ConfirmedRanges) :
    Except DomainError DvdTitleDamageSourceContinuityProvenance := do
  let verificationOutcome ← confirmedOutcome entry.confirmation.verificationOutcome
  return {
    discConfirmationId := entry.confirmation.id
    archiveRecoveryId := entry.confirmation.archiveRecoveryId
    archiveRecoveryAttemptId := entry.confirmation.archiveRecoveryAttemptId
    verificationId := entry.confirmation.verificationId
    verificationOutcome
    verificationResultDigest := entry.confirmation.verificationResultDigest.text
    confirmationCheckpoint := ⟨entry.confirmation.checkpointRevision,
      entry.confirmation.checkpointDigest.text⟩
    recoveredSourceRanges := entry.recoveredSourceRanges }

/-- The confirmations that a revision rests on, with the sectors recovered under each. -/
def readDvdTitleDamageSourceContinuity (originalDiscArchiveId : String) (manifestRevision : Nat)
    (c : Catalog) : Except DomainError DvdTitleDamageSourceContinuityInput := do
  let byConfirmation ← (recoveredRanges
    (confirmedReads originalDiscArchiveId manifestRevision c)).foldlM
    (gatherRange originalDiscArchiveId manifestRevision c) []
  let provenance ← byConfirmation.mapM ConfirmedRanges.provenance
  return ⟨DVD_TITLE_DAMAGE_SOURCE_CONTINUITY_POLICY_VERSION, provenance⟩

section Ranges

variable {reads : List (String × Nat)} {id : String}

theorem partitionRanges_id (h : range ∈ partitionRanges reads id) :
    range.discConfirmationId = id := by
  obtain ⟨run, -, rfl⟩ := List.mem_map.1 h
  rfl

/-- A confirmation under which no sector is recovered twice has its sectors in runs. -/
theorem partitionRanges_merged (id : String) (honce : reads.Pairwise fun a b => a.2 ≠ b.2) :
    Merged (partitionRanges reads id) ∧
      ∀ n, n ∈ cover (partitionRanges reads id) ↔ (id, n) ∈ reads := by
  have hstretch : ∀ run : Stretch,
    start (⟨id, run.start, run.length⟩ : RecoveredRange) = start run ∧
      length (⟨id, run.start, run.length⟩ : RecoveredRange) = length run := fun _ => ⟨rfl, rfl⟩
  generalize hlbas : (reads.filter fun read => read.1 = id).map Prod.snd = startLbas
  have hnodup : startLbas.Pairwise (· ≠ ·) := by
    rw [← hlbas, List.pairwise_map]
    exact honce.filter _
  have hperm := perm_sortBy compare startLbas
  have hsorted : (sortBy compare startLbas).Pairwise (· < ·) := by
    have hdistinct : (sortBy compare startLbas).Pairwise (· ≠ ·) :=
      hnodup.perm hperm.symm fun hne => hne.symm
    refine ((ascending_sortBy startLbas).and hdistinct).imp fun {a b} hboth => ?_
    have hle : a ≤ b := Nat.isLE_compare.1 hboth.1
    exact lt_of_le_of_ne hle hboth.2
  obtain ⟨hmerged, hcover⟩ := @Stretch.runsFrom_merged 0 _ hsorted
  rw [partitionRanges, hlbas]
  refine ⟨hmerged.map hstretch, fun n => ?_⟩
  rw [cover_map hstretch, hcover, mem_sortBy, ← hlbas, List.mem_map]
  constructor
  · rintro ⟨read, hread, rfl⟩
    obtain ⟨hmem, hid⟩ := List.mem_filter.1 hread
    rw [decide_eq_true_eq] at hid
    rw [← hid]
    exact hmem
  · intro hmem
    exact ⟨(id, n), List.mem_filter.2 ⟨hmem, decide_eq_true rfl⟩, rfl⟩

theorem filter_flatMap_partition {ids : List String} (h : ids.Nodup) :
    (ids.flatMap (partitionRanges reads)).filter (fun range => range.discConfirmationId = id) =
      if id ∈ ids then partitionRanges reads id else [] := by
  have hown : ∀ other, (partitionRanges reads other).filter
      (fun range => range.discConfirmationId = id) =
        if other = id then partitionRanges reads id else [] := by
    intro other
    split
    · next hsame =>
      subst hsame
      exact List.filter_eq_self.2 fun range hr => decide_eq_true (partitionRanges_id hr)
    · next hother =>
      refine List.filter_eq_nil_iff.2 fun range hr heq => ?_
      exact hother ((partitionRanges_id hr).symm.trans (of_decide_eq_true heq))
  induction ids with
  | nil => rfl
  | cons other ids ih =>
    obtain ⟨hnot, hrest⟩ := List.nodup_cons.1 h
    rw [List.flatMap_cons, List.filter_append, ih hrest, hown]
    by_cases hsame : other = id
    · subst hsame
      simp [hnot]
    · simp [hsame, Ne.symm hsame]

theorem partitionRanges_nil (h : id ∉ reads.map Prod.fst) : partitionRanges reads id = [] := by
  have hnone : (reads.filter fun read => read.1 = id) = [] := by
    refine List.filter_eq_nil_iff.2 fun read hr heq => h ?_
    rw [← of_decide_eq_true heq]
    exact List.mem_map_of_mem hr
  rw [partitionRanges, hnone]
  rfl

/-- The ranges of a confirmation, as the query gives them. -/
def rangesUnder (id : String) (ranges : List RecoveredRange) : List RecoveredRange :=
  ranges.filter fun range => range.discConfirmationId = id

theorem recoveredRanges_under (id : String) :
    (rangesUnder id (recoveredRanges reads)).Perm (partitionRanges reads id) := by
  have hperm := (perm_sortBy compareRecoveredRanges
    ((reads.map Prod.fst).eraseDups.flatMap (partitionRanges reads))).filter
      fun range => range.discConfirmationId = id
  rw [filter_flatMap_partition (Stretch.nodup_eraseDups _)] at hperm
  by_cases hmem : id ∈ reads.map Prod.fst
  · rwa [if_pos (List.mem_eraseDups.2 hmem)] at hperm
  · rw [if_neg fun h => hmem (List.mem_eraseDups.1 h)] at hperm
    rwa [partitionRanges_nil hmem]

instance : Std.TransCmp compareRecoveredRanges :=
  inferInstanceAs (Std.TransCmp (compareLex _ _))

/-- The query gives each confirmation canonical ranges of just the sectors it has recovered. -/
theorem recoveredRanges_merged (id : String) (honce : reads.Pairwise fun a b => a.2 ≠ b.2) :
    Merged (rangesUnder id (recoveredRanges reads)) ∧
      ∀ n, n ∈ cover (rangesUnder id (recoveredRanges reads)) ↔ (id, n) ∈ reads := by
  obtain ⟨hmerged, hcover⟩ := partitionRanges_merged id honce
  have hperm : (rangesUnder id (recoveredRanges reads)).Perm (partitionRanges reads id) :=
    recoveredRanges_under id
  have hsorted : (rangesUnder id (recoveredRanges reads)).Pairwise fun a b =>
    start a ≤ start b := by
    have hascending : Ascending compareRecoveredRanges (recoveredRanges reads) :=
      ascending_sortBy _
    refine (hascending.filter _).imp_of_mem fun {a b} ha hb hle => ?_
    have hids : a.discConfirmationId = b.discConfirmationId :=
      (of_decide_eq_true (List.mem_filter.1 ha).2).trans
        (of_decide_eq_true (List.mem_filter.1 hb).2).symm
    have hsame : compareOn (fun range : RecoveredRange => range.discConfirmationId.toList) a b =
        .eq := by
      rw [compareOn, hids]
      exact Std.ReflCmp.compare_self
    rw [compareRecoveredRanges, compareLex, hsame] at hle
    exact Nat.isLE_compare.1 hle
  refine ⟨hmerged.sorted hperm hsorted, fun n => ?_⟩
  rw [cover_perm hperm]
  exact hcover n

end Ranges

section Gathering

variable {c : Catalog} {ranges : List RecoveredRange} {entries : List ConfirmedRanges}
  {id : String} {range : RecoveredRange}

/-- A range without the confirmation it belongs to. -/
def RecoveredRange.sectors (range : RecoveredRange) : UnreadableSectorRange :=
  ⟨range.startLba, range.sectorCount⟩

/-- Every confirmation of some ranges has one entry, and the entry has its ranges in order. -/
structure Gathered (c : Catalog) (ranges : List RecoveredRange) (entries : List ConfirmedRanges) :
    Prop where
  distinct : entries.Pairwise fun a b => a.confirmation.id ≠ b.confirmation.id
  found : ∀ entry ∈ entries, c.findConfirmation entry.confirmation.id = some entry.confirmation
  own : ∀ entry ∈ entries, entry.recoveredSourceRanges =
    (rangesUnder entry.confirmation.id ranges).map RecoveredRange.sectors
  inhabited : ∀ entry ∈ entries, ∃ range ∈ ranges, range.discConfirmationId = entry.confirmation.id
  complete : ∀ range ∈ ranges, ∃ entry ∈ entries, entry.confirmation.id = range.discConfirmationId

theorem Gathered.nil (c : Catalog) : Gathered c [] [] :=
  ⟨.nil, List.forall_mem_nil _, List.forall_mem_nil _, List.forall_mem_nil _,
    List.forall_mem_nil _⟩

theorem findConfirmation_id (h : c.findConfirmation id = some confirmation) :
    confirmation.id = id ∧ confirmation ∈ c.confirmations := by
  rw [Catalog.findConfirmation] at h
  have hid := List.find?_some h
  rw [decide_eq_true_eq] at hid
  exact ⟨hid, List.mem_of_find?_eq_some h⟩

theorem rangesUnder_snoc (id : String) (ranges : List RecoveredRange) (range : RecoveredRange) :
    rangesUnder id (ranges ++ [range]) =
      rangesUnder id ranges ++ if range.discConfirmationId = id then [range] else [] := by
  rw [rangesUnder, rangesUnder, List.filter_append, List.filter_singleton]
  by_cases hid : range.discConfirmationId = id
  · rw [if_pos hid, decide_eq_true hid, cond_true]
  · rw [if_neg hid, decide_eq_false hid, cond_false]

/-- A confirmation without an entry has no range yet. -/
theorem Gathered.none_under (h : Gathered c ranges entries)
    (hnone : ¬∃ entry ∈ entries, entry.confirmation.id = id) : rangesUnder id ranges = [] := by
  refine List.filter_eq_nil_iff.2 fun range hr heq => hnone ?_
  obtain ⟨entry, he, hid⟩ := h.complete range hr
  exact ⟨entry, he, hid.trans (of_decide_eq_true heq)⟩

theorem Gathered.push (h : Gathered c ranges entries)
    (hfound : c.findConfirmation range.discConfirmationId = some confirmation) :
    Gathered c (ranges ++ [range]) (pushRange entries confirmation range.sectors) := by
  obtain ⟨hid, -⟩ := findConfirmation_id hfound
  rw [pushRange]
  split
  · next hentry =>
    obtain ⟨present, hpresent, hpid⟩ := hentry
    -- an entry keeps its confirmation, and those of the confirmation take the range in
    have hkeeps : ∀ entry : ConfirmedRanges,
        (if entry.confirmation.id = confirmation.id then
          { entry with recoveredSourceRanges := entry.recoveredSourceRanges ++ [range.sectors] }
        else entry).confirmation = entry.confirmation := by
      intro entry
      split <;> rfl
    refine ⟨?_, ?_, ?_, ?_, ?_⟩
    · rw [List.pairwise_map]
      simp only [hkeeps]
      exact h.distinct
    · intro later hl
      obtain ⟨entry, he, rfl⟩ := List.mem_map.1 hl
      rw [hkeeps]
      exact h.found entry he
    · intro later hl
      obtain ⟨entry, he, rfl⟩ := List.mem_map.1 hl
      rw [hkeeps, rangesUnder_snoc, List.map_append, ← h.own entry he]
      by_cases hsame : entry.confirmation.id = confirmation.id
      · rw [if_pos hsame, if_pos (hid.symm.trans hsame.symm)]
        rfl
      · rw [if_neg hsame, if_neg fun heq => hsame (heq.symm.trans hid.symm), List.map_nil,
          List.append_nil]
    · intro later hl
      obtain ⟨entry, he, rfl⟩ := List.mem_map.1 hl
      obtain ⟨earlier, hearlier, hsame⟩ := h.inhabited entry he
      rw [hkeeps]
      exact ⟨earlier, List.mem_append_left _ hearlier, hsame⟩
    · intro other ho
      obtain ⟨entry, he, hsame⟩ : ∃ entry ∈ entries,
          entry.confirmation.id = other.discConfirmationId := by
        obtain ho | ho := List.mem_append.1 ho
        · exact h.complete other ho
        · rw [List.mem_singleton.1 ho]
          exact ⟨present, hpresent, hpid.trans hid⟩
      exact ⟨_, List.mem_map_of_mem he, by rw [hkeeps]; exact hsame⟩
  · next hentry =>
    have hnone : rangesUnder confirmation.id ranges = [] := h.none_under hentry
    refine ⟨?_, ?_, ?_, ?_, ?_⟩
    · rw [List.pairwise_append]
      refine ⟨h.distinct, List.pairwise_singleton _ _, fun entry he new hn heq => ?_⟩
      rw [List.mem_singleton.1 hn] at heq
      exact hentry ⟨entry, he, heq⟩
    · intro entry he
      obtain he | he := List.mem_append.1 he
      · exact h.found entry he
      · rw [List.mem_singleton.1 he, hid]
        exact hfound
    · intro entry he
      rw [rangesUnder_snoc, List.map_append]
      obtain he | he := List.mem_append.1 he
      · rw [if_neg fun heq => hentry ⟨entry, he, heq.symm.trans hid.symm⟩, List.map_nil,
          List.append_nil]
        exact h.own entry he
      · rw [List.mem_singleton.1 he, hnone, if_pos hid.symm]
        rfl
    · intro entry he
      obtain he | he := List.mem_append.1 he
      · obtain ⟨earlier, hearlier, hsame⟩ := h.inhabited entry he
        exact ⟨earlier, List.mem_append_left _ hearlier, hsame⟩
      · rw [List.mem_singleton.1 he]
        exact ⟨range, List.mem_append_right _ List.mem_cons_self, hid.symm⟩
    · intro other ho
      obtain ho | ho := List.mem_append.1 ho
      · obtain ⟨entry, he, hsame⟩ := h.complete other ho
        exact ⟨entry, List.mem_append_left _ he, hsame⟩
      · rw [List.mem_singleton.1 ho]
        exact ⟨_, List.mem_append_right _ List.mem_cons_self, hid⟩

/-- The loop over ranges whose confirmations are all in order. -/
theorem gatherRange_all (h : ∀ range ∈ ranges, ∃ confirmation,
      continuityConfirmation originalDiscArchiveId manifestRevision c range.discConfirmationId =
        .ok confirmation) :
    ∃ entries, ranges.foldlM (gatherRange originalDiscArchiveId manifestRevision c) [] =
      .ok entries ∧ Gathered c ranges entries := by
  induction ranges using List.reverseRecOn with
  | nil => exact ⟨[], rfl, .nil c⟩
  | append_singleton earlier range ih =>
    obtain ⟨entries, hentries, hgathered⟩ := ih fun other ho => h other (List.mem_append_left _ ho)
    obtain ⟨confirmation, hconfirmation⟩ :=
      h range (List.mem_append_right _ List.mem_cons_self)
    have hfound : c.findConfirmation range.discConfirmationId = some confirmation := by
      rw [continuityConfirmation] at hconfirmation
      split at hconfirmation
      · cases hconfirmation
      · next found hfind =>
        obtain ⟨_, -, he⟩ := bind_ok.1 hconfirmation
        cases he
        exact hfind
    refine ⟨pushRange entries confirmation range.sectors, ?_, hgathered.push hfound⟩
    rw [List.foldlM_append, hentries]
    show (gatherRange _ _ c entries range).bind _ = _
    rw [gatherRange, hconfirmation]
    rfl

end Gathering

/-- A sector that a confirmation's reads have recovered before a revision. -/
def RecoveredUnder (c : Catalog) (manifestRevision : Nat) (discConfirmationId : String)
    (n : Nat) : Prop :=
  ∃ read ∈ c.recoveryReads, read.fromManifestRevision < manifestRevision ∧
    read.outcome = .recovered ∧ read.discConfirmationId.join = some discConfirmationId ∧
    read.startLba = n

/-- What the reads and the confirmations of an archive must be for its continuity to be read. -/
structure ContinuityTable (c : Catalog) : Prop where
  once : (c.recoveryReads.filter (·.outcome = .recovered)).Pairwise
    fun a b => a.startLba ≠ b.startLba
  archive : ∀ read ∈ c.recoveryReads, read.originalDiscArchiveId = c.archive.id
  confirmed : ∀ read ∈ c.recoveryReads, ∀ id, read.discConfirmationId.join = some id →
    ∃ confirmation, c.findConfirmation id = some confirmation ∧
      confirmation.originalDiscArchiveId = c.archive.id ∧
      confirmation.checkpointRevision ≤ read.fromManifestRevision ∧
      confirmation.verificationOutcome ≠ .match

/-- What an entry of the provenance says of its confirmation. -/
structure EntryOf (c : Catalog) (manifestRevision : Nat)
    (entry : DvdTitleDamageSourceContinuityProvenance) : Prop where
  confirmation : ∃ confirmation ∈ c.confirmations,
    confirmation.checkpointRevision < manifestRevision ∧
    (⟨confirmation, entry.recoveredSourceRanges⟩ : ConfirmedRanges).provenance = .ok entry
  ranges : entry.recoveredSourceRanges ≠ [] ∧ Merged entry.recoveredSourceRanges
  sectors : ∀ n, n ∈ cover entry.recoveredSourceRanges ↔
    RecoveredUnder c manifestRevision entry.discConfirmationId n

/-- The provenance has one entry for each confirmation that a revision rests on, and the entry has
just the sectors recovered under it. -/
structure ExactProvenance (c : Catalog) (manifestRevision : Nat)
    (provenance : List DvdTitleDamageSourceContinuityProvenance) : Prop where
  distinct : provenance.Pairwise fun a b => a.discConfirmationId ≠ b.discConfirmationId
  entries : ∀ entry ∈ provenance, EntryOf c manifestRevision entry
  complete : ∀ id n, RecoveredUnder c manifestRevision id n →
    ∃ entry ∈ provenance, entry.discConfirmationId = id

section Reading

variable {c : Catalog} {id : String}

theorem mem_confirmedReads (h : ContinuityTable c) :
    (id, n) ∈ confirmedReads c.archive.id manifestRevision c ↔
      RecoveredUnder c manifestRevision id n := by
  rw [confirmedReads, List.mem_filterMap]
  refine exists_congr fun read => and_congr_right fun hread => ?_
  rw [h.archive read hread]
  constructor
  · intro hsome
    split at hsome
    · next hkept =>
      obtain ⟨other, hother, he⟩ := Option.map_eq_some_iff.1 hsome
      obtain ⟨rfl, rfl⟩ := Prod.mk.inj he
      exact ⟨hkept.2.1, hkept.2.2, hother, rfl⟩
    · cases hsome
  · rintro ⟨hrevision, houtcome, hid, rfl⟩
    rw [if_pos ⟨rfl, hrevision, houtcome⟩, hid]
    rfl

theorem confirmedReads_once (h : ContinuityTable c) :
    (confirmedReads c.archive.id manifestRevision c).Pairwise fun a b => a.2 ≠ b.2 := by
  rw [confirmedReads, List.pairwise_filterMap]
  refine (List.pairwise_filter.1 h.once).imp fun {a b} hne => ?_
  intro x hx y hy
  rw [Option.ite_none_right_eq_some] at hx hy
  obtain ⟨⟨-, -, ha⟩, hx⟩ := hx
  obtain ⟨⟨-, -, hb⟩, hy⟩ := hy
  obtain ⟨_, -, rfl⟩ := Option.map_eq_some_iff.1 hx
  obtain ⟨_, -, rfl⟩ := Option.map_eq_some_iff.1 hy
  exact hne (decide_eq_true ha) (decide_eq_true hb)

theorem Results.exists {f : α → Except ε β} {l : List α} (h : ∀ a ∈ l, ∃ b, f a = .ok b) :
    ∃ bs, Results f l bs := by
  induction l with
  | nil => exact ⟨[], .nil⟩
  | cons a l ih =>
    obtain ⟨hfirst, hrest⟩ := List.forall_mem_cons.1 h
    obtain ⟨b, hb⟩ := hfirst
    obtain ⟨bs, hbs⟩ := ih hrest
    exact ⟨b :: bs, .cons hb hbs⟩

theorem Results.map_eq {f : α → Except ε β} {g : α → γ} {g' : β → γ} (h : Results f l bs)
    (hf : ∀ a ∈ l, ∀ b, f a = .ok b → g' b = g a) : bs.map g' = l.map g := by
  induction h with
  | nil => rfl
  | cons hb _ ih =>
    obtain ⟨hfirst, hrest⟩ := List.forall_mem_cons.1 hf
    rw [List.map_cons, List.map_cons, hfirst _ hb, ih hrest]

theorem provenance_ok {entry : ConfirmedRanges}
    (h : entry.confirmation.verificationOutcome ≠ .match) :
    ∃ read, entry.provenance = .ok read ∧ read.discConfirmationId = entry.confirmation.id ∧
      read.recoveredSourceRanges = entry.recoveredSourceRanges := by
  rw [ConfirmedRanges.provenance]
  cases houtcome : entry.confirmation.verificationOutcome with
  | «match» => exact absurd houtcome h
  | mismatch => exact ⟨_, rfl, rfl, rfl⟩
  | inconclusive => exact ⟨_, rfl, rfl, rfl⟩

theorem continuityConfirmation_ok (h : ContinuityTable c)
    (hunder : RecoveredUnder c manifestRevision id n) : ∃ confirmation,
      continuityConfirmation c.archive.id manifestRevision c id = .ok confirmation ∧
      c.findConfirmation id = some confirmation ∧
      confirmation.checkpointRevision < manifestRevision ∧
      confirmation.verificationOutcome ≠ .match := by
  obtain ⟨read, hread, hrevision, -, hid, -⟩ := hunder
  obtain ⟨confirmation, hfound, harchive, hcheckpoint, houtcome⟩ := h.confirmed read hread id hid
  have hearlier : confirmation.checkpointRevision < manifestRevision :=
    lt_of_le_of_lt hcheckpoint hrevision
  refine ⟨confirmation, ?_, hfound, hearlier, houtcome⟩
  rw [continuityConfirmation, hfound]
  refine bind_ok.2 ⟨(), rejectIf_ok.2 ?_, rfl⟩
  rintro (hother | hlater)
  · exact hother harchive
  · exact Nat.not_le_of_lt hearlier hlater

/-- Reading the continuity of an archive at a revision gives exactly what the reads before the
revision have recovered, under the confirmations they were made with. -/
theorem readDvdTitleDamageSourceContinuity_exact (h : ContinuityTable c) (manifestRevision : Nat) :
    ∃ provenance, readDvdTitleDamageSourceContinuity c.archive.id manifestRevision c =
      .ok ⟨DVD_TITLE_DAMAGE_SOURCE_CONTINUITY_POLICY_VERSION, provenance⟩ ∧
      ExactProvenance c manifestRevision provenance := by
  have honce : (confirmedReads c.archive.id manifestRevision c).Pairwise fun a b => a.2 ≠ b.2 :=
    confirmedReads_once h
  generalize hranges : recoveredRanges (confirmedReads c.archive.id manifestRevision c) = ranges
  have hunder : ∀ id, Merged (rangesUnder id ranges) ∧
      ∀ n, n ∈ cover (rangesUnder id ranges) ↔ RecoveredUnder c manifestRevision id n := by
    intro id
    obtain ⟨hmerged, hcover⟩ := recoveredRanges_merged id honce
    rw [hranges] at hmerged hcover
    exact ⟨hmerged, fun n => (hcover n).trans (mem_confirmedReads h)⟩
  have hrange : ∀ range ∈ ranges,
      RecoveredUnder c manifestRevision range.discConfirmationId range.startLba := by
    intro range hr
    obtain ⟨hmerged, hcover⟩ := hunder range.discConfirmationId
    have hown : range ∈ rangesUnder range.discConfirmationId ranges :=
      List.mem_filter.2 ⟨hr, decide_eq_true rfl⟩
    have hpositive := hmerged.positive range hown
    rw [← hcover, mem_cover]
    exact ⟨range, hown, le_rfl, Nat.lt_add_of_pos_right hpositive⟩
  obtain ⟨entries, hentries, hgathered⟩ := gatherRange_all fun range hr => by
    obtain ⟨confirmation, hok, -⟩ := continuityConfirmation_ok h (hrange range hr)
    exact ⟨confirmation, hok⟩
  have hentry : ∀ entry ∈ entries, entry.confirmation.checkpointRevision < manifestRevision ∧
      entry.confirmation.verificationOutcome ≠ .match := by
    intro entry he
    obtain ⟨range, hr, hid⟩ := hgathered.inhabited entry he
    obtain ⟨confirmation, -, hfound, hfacts⟩ := continuityConfirmation_ok h (hrange range hr)
    rw [hid, hgathered.found entry he] at hfound
    cases hfound
    exact hfacts
  obtain ⟨provenance, hprovenance⟩ := Results.exists fun entry he => by
    obtain ⟨read, hread, -⟩ := provenance_ok (hentry entry he).2
    exact ⟨read, hread⟩
  have hread : ∀ entry ∈ entries, ∀ read, entry.provenance = .ok read →
      read.discConfirmationId = entry.confirmation.id ∧
      read.recoveredSourceRanges = entry.recoveredSourceRanges := by
    intro entry he read hok
    obtain ⟨other, hother, hsame⟩ := provenance_ok (hentry entry he).2
    cases hok.symm.trans hother
    exact hsame
  have hsectors : ∀ range : RecoveredRange, start range.sectors = start range ∧
      length range.sectors = length range := fun _ => ⟨rfl, rfl⟩
  refine ⟨provenance, ?_, ?_, ?_, ?_⟩
  · rw [readDvdTitleDamageSourceContinuity, hranges]
    exact bind_ok.2 ⟨entries, hentries, bind_ok.2 ⟨provenance, mapM_results.2 hprovenance, rfl⟩⟩
  · have hids : provenance.map (·.discConfirmationId) = entries.map (·.confirmation.id) :=
      hprovenance.map_eq fun entry he read hok => (hread entry he read hok).1
    have hdistinct := List.pairwise_map.2 hgathered.distinct
    rw [← hids] at hdistinct
    exact List.pairwise_map.1 hdistinct
  · intro read hr
    obtain ⟨entry, he, hok⟩ := exists_left_of_mem hprovenance hr
    obtain ⟨hid, hsame⟩ := hread entry he read hok
    obtain ⟨range, hmem, hconfirmation⟩ := hgathered.inhabited entry he
    obtain ⟨hmerged, hcover⟩ := hunder entry.confirmation.id
    have hown := hsame.trans (hgathered.own entry he)
    refine ⟨⟨entry.confirmation, ?_, (hentry entry he).1, ?_⟩, ?_, fun n => ?_⟩
    · exact (findConfirmation_id (hgathered.found entry he)).2
    · rw [hsame]
      exact hok
    · rw [hown]
      refine ⟨fun hnil => ?_, hmerged.map hsectors⟩
      have hrange : range ∈ rangesUnder entry.confirmation.id ranges :=
        List.mem_filter.2 ⟨hmem, decide_eq_true hconfirmation⟩
      rw [List.map_eq_nil_iff.1 hnil] at hrange
      cases hrange
    · rw [hown, cover_map hsectors, hid]
      exact hcover n
  · intro id n hrecovered
    rw [← (hunder id).2, mem_cover] at hrecovered
    obtain ⟨range, hr, -⟩ := hrecovered
    obtain ⟨hmem, hid⟩ := List.mem_filter.1 hr
    obtain ⟨entry, he, hconfirmation⟩ := hgathered.complete range hmem
    obtain ⟨read, hr, hok⟩ := exists_right_of_mem hprovenance he
    refine ⟨read, hr, (hread entry he read hok).1.trans ?_⟩
    exact hconfirmation.trans (of_decide_eq_true hid)

end Reading

section Accepting

theorem isHexDigits_byteHex (bytes : List UInt8) :
    (bytes.flatMap byteHex).all fun c => c.isDigit || ('a' ≤ c && c ≤ 'f') := by
  have hdigit : ∀ n < 16, (fun c : Char => c.isDigit || ('a' ≤ c && c ≤ 'f'))
      (hexDigits.getD n '0') = true := by
    decide
  rw [List.all_flatMap, List.all_eq_true]
  intro byte _
  obtain ⟨hhigh, hlow⟩ := nibbles_lt byte
  simp only [byteHex, List.all_cons, List.all_nil, Bool.and_true]
  exact Bool.and_eq_true_iff.2 ⟨hdigit _ hhigh, hdigit _ hlow⟩

theorem isDigestText_text (digest : Digest) : isDigestText digest.text = true := by
  have hlength : digest.text.length = 64 := by
    rw [Digest.text, length_toHex, List.length_map, List.length_range]
  rw [isDigestText, isHexDigits, Bool.and_eq_true, decide_eq_true_eq, String.length_toList]
  refine ⟨hlength, ?_⟩
  rw [Digest.text, toHex, String.toList_ofList]
  exact isHexDigits_byteHex _

/-- Canonical ranges within the archive normalize to themselves. -/
theorem normalizeRanges_self {ranges : List UnreadableSectorRange} (hsome : ranges ≠ [])
    (hmerged : Merged ranges) (hin : ∀ range ∈ ranges, InExtent limit range) :
    normalizeRanges ranges limit label = .ok ranges := by
  obtain ⟨normalized, hok⟩ : ∃ normalized, normalizeRanges ranges limit label = .ok normalized :=
    ⟨_, normalizeRanges_ok.2 ⟨hsome, hin, rfl⟩⟩
  obtain ⟨hnormalized, hcover⟩ := normalizeRanges_merged hok
  have hsame : normalized = ranges := by
    refine hnormalized.ext hmerged (fun a b hstart hlength => ?_) hcover
    cases a
    cases b
    cases hstart
    cases hlength
    rfl
  rw [hok, hsame]

instance : Std.TransCmp compareRiskRanges :=
  inferInstanceAs (Std.TransCmp (compareLex (compareLex (compareOn start) (compareOn length))
    (compareOn fun range : DvdTitleDamageSourceContinuityRiskRange =>
      codeUnits range.discConfirmationId)))

/-- Sorted ranges that share no sector do not overlap. -/
theorem rejectOverlaps_apart {ranges : List DvdTitleDamageSourceContinuityRiskRange}
    (hsorted : ranges.Pairwise fun a b => start a ≤ start b) (hapart : ranges.Pairwise Apart)
    (hpositive : ∀ range ∈ ranges, 0 < length range)
    (hafter : ∀ range ∈ ranges, previousEnd ≤ (start range : Int)) :
    rejectOverlaps previousEnd ranges = .ok () := by
  induction ranges generalizing previousEnd with
  | nil => rfl
  | cons range ranges ih =>
    obtain ⟨hfirst, hsorted⟩ := List.pairwise_cons.1 hsorted
    obtain ⟨hapartFirst, hapart⟩ := List.pairwise_cons.1 hapart
    obtain ⟨hpositiveFirst, hpositive⟩ := List.forall_mem_cons.1 hpositive
    obtain ⟨hafterFirst, -⟩ := List.forall_mem_cons.1 hafter
    have hstop : ∀ other ∈ ranges, (stop range : Int) ≤ start other := by
      intro other ho
      have hle := hfirst other ho
      have hlength := hpositive other ho
      obtain hbefore | hbehind := hapartFirst other ho
      · exact Int.ofNat_le.2 hbefore
      · rw [stop] at hbehind
        omega
    exact bind_ok.2 ⟨(), rejectIf_ok.2 (not_lt.2 hafterFirst), ih hsorted hapart hpositive hstop⟩

theorem start_le_of_compareRiskRanges {a b : DvdTitleDamageSourceContinuityRiskRange}
    (h : (compareRiskRanges a b).isLE = true) : start a ≤ start b := by
  rw [compareRiskRanges, compareLex, Ordering.isLE_then_iff_and] at h
  exact isLE_compareRanges h.1

/-- The ids of a confirmation are as short as generated ones. -/
def DvdDiscConfirmation.ShortlyNamed (confirmation : DvdDiscConfirmation) : Prop :=
  boundedText confirmation.id 128 ∧ boundedText confirmation.archiveRecoveryId 128 ∧
    boundedText confirmation.archiveRecoveryAttemptId 128 ∧
    boundedText confirmation.verificationId 128

/-- What an assessment of the archive accepts: safe revisions, and sectors before its end. -/
structure WithinArchive (c : Catalog) (acceptedEndLbaExclusive : Nat) : Prop where
  accepted : acceptedEndLbaExclusive ≤ maxSafeInteger
  sectors : ∀ read ∈ c.recoveryReads, read.startLba < acceptedEndLbaExclusive
  checkpoints : ∀ confirmation ∈ c.confirmations,
    1 ≤ confirmation.checkpointRevision ∧ confirmation.checkpointRevision ≤ maxSafeInteger

variable {c : Catalog} {provenance : List DvdTitleDamageSourceContinuityProvenance}
  {id id' : String}

theorem EntryOf.inExtent (h : EntryOf c manifestRevision entry) (hwithin : WithinArchive c limit) :
    ∀ range ∈ entry.recoveredSourceRanges, InExtent limit range := by
  intro range hr
  have hpositive := h.ranges.2.positive range hr
  have hlast : stop range - 1 ∈ cover entry.recoveredSourceRanges := by
    rw [mem_cover]
    refine ⟨range, hr, ?_, ?_⟩
    all_goals
      rw [stop]
      omega
  obtain ⟨read, hread, -, -, -, hlba⟩ := (h.sectors _).1 hlast
  have hlt := hwithin.sectors read hread
  have hsafe := hwithin.accepted
  rw [hlba] at hlt
  exact ⟨hpositive, by omega, by omega⟩

/-- An entry is its own normal form. -/
theorem EntryOf.normalized (h : EntryOf c manifestRevision entry) (hwithin : WithinArchive c limit)
    (hnamed : ∀ confirmation ∈ c.confirmations, confirmation.ShortlyNamed) :
    normalizeProvenance limit entry = .ok entry := by
  obtain ⟨confirmation, hmem, -, hentry⟩ := h.confirmation
  obtain ⟨outcome, -, he⟩ := bind_ok.1 hentry
  obtain ⟨hid, hrecovery, hattempt, hverification⟩ := hnamed confirmation hmem
  obtain ⟨hpositive, hsafe⟩ := hwithin.checkpoints confirmation hmem
  have hranges : normalizeRanges entry.recoveredSourceRanges limit
      "Confirmed DVD recovery source range" = .ok entry.recoveredSourceRanges :=
    normalizeRanges_self h.ranges.1 h.ranges.2 (h.inExtent hwithin)
  refine bind_ok.2 ⟨(), rejectIf_ok.2 ?_, bind_ok.2 ⟨_, hranges, rfl⟩⟩
  rw [← Except.ok.inj he]
  simp only [hid, hrecovery, hattempt, hverification, isDigestText_text, not_true_eq_false,
    false_or, or_false, not_or, not_lt]
  exact ⟨hsafe, hpositive⟩

/-- No sector is recovered under two confirmations. -/
theorem ContinuityTable.apart (h : ContinuityTable c)
    (ha : RecoveredUnder c manifestRevision id n) (hb : RecoveredUnder c manifestRevision id' n) :
    id = id' := by
  obtain ⟨read, hread, -, houtcome, hid, hlba⟩ := ha
  obtain ⟨read', hread', -, houtcome', hid', hlba'⟩ := hb
  have hsame : read = read' := by
    by_contra hne
    have hsymm : Std.Symm fun a b : DvdArchiveRecoveryReadRow => a.startLba ≠ b.startLba :=
      ⟨fun _ _ hne => hne.symm⟩
    refine h.once.forall ?_ ?_ hne (hlba.trans hlba'.symm)
    · exact List.mem_filter.2 ⟨hread, decide_eq_true houtcome⟩
    · exact List.mem_filter.2 ⟨hread', decide_eq_true houtcome'⟩
  rw [hsame, hid'] at hid
  exact (Option.some.inj hid).symm

/-- The risk ranges of all confirmations share no sector. -/
theorem ExactProvenance.apart (h : ExactProvenance c manifestRevision provenance)
    (htable : ContinuityTable c) : (provenance.flatMap (·.riskRanges)).Pairwise Apart := by
  have hrange : ∀ {entry : DvdTitleDamageSourceContinuityProvenance} {risk},
      risk ∈ entry.riskRanges → ∃ range ∈ entry.recoveredSourceRanges,
        start risk = start range ∧ length risk = length range := by
    intro entry risk hr
    obtain ⟨range, hrange, rfl⟩ := List.mem_map.1 hr
    exact ⟨range, hrange, rfl, rfl⟩
  rw [List.pairwise_flatMap]
  refine ⟨fun entry he => ?_, h.distinct.imp_of_mem fun {a b} ha hb hne x hx y hy => ?_⟩
  · exact List.pairwise_map.2 (h.entries entry he).ranges.2.pairwise
  · by_contra hshared
    obtain ⟨range, hr, hstart, hlength⟩ := hrange hx
    obtain ⟨range', hr', hstart', hlength'⟩ := hrange hy
    have hpositive := (h.entries a ha).ranges.2.positive range hr
    have hpositive' := (h.entries b hb).ranges.2.positive range' hr'
    rw [Apart, stop, stop, hstart, hlength, hstart', hlength'] at hshared
    have hboth : max (start range) (start range') ∈ cover a.recoveredSourceRanges ∧
        max (start range) (start range') ∈ cover b.recoveredSourceRanges := by
      rw [mem_cover, mem_cover]
      refine ⟨⟨range, hr, ?_, ?_⟩, range', hr', ?_, ?_⟩
      all_goals
        try rw [stop]
        omega
    exact hne (htable.apart (((h.entries a ha).sectors _).1 hboth.1)
      (((h.entries b hb).sectors _).1 hboth.2))

/-- The assessment accepts what the catalog reads, and keeps every entry as it is. -/
theorem normalizeSourceContinuity_accepts (h : ExactProvenance c manifestRevision provenance)
    (htable : ContinuityTable c) (hwithin : WithinArchive c limit)
    (hnamed : ∀ confirmation ∈ c.confirmations, confirmation.ShortlyNamed) :
    ∃ continuity, normalizeSourceContinuity
        (some ⟨DVD_TITLE_DAMAGE_SOURCE_CONTINUITY_POLICY_VERSION, provenance⟩) limit =
      .ok (some continuity) ∧ continuity.provenance.Perm provenance := by
  have hentries : mapUnseen sameConfirmation ⟨"Invalid DVD source-continuity provenance"⟩
      (normalizeProvenance limit) [] provenance = .ok provenance := by
    refine mapUnseen_ok.2 ⟨h.distinct, fun _ _ _ hnone => absurd hnone List.not_mem_nil, ?_⟩
    refine List.forall₂_same.2 fun entry he => ?_
    exact (h.entries entry he).normalized hwithin hnamed
  have hperm := perm_sortBy compareProvenance provenance
  have hriskPerm := perm_sortBy compareRiskRanges
    ((sortBy compareProvenance provenance).flatMap (·.riskRanges))
  have hall := hriskPerm.trans (hperm.flatMap_right _)
  have hsorted : Ascending compareRiskRanges (sortBy compareRiskRanges
    ((sortBy compareProvenance provenance).flatMap (·.riskRanges))) := ascending_sortBy _
  have hoverlaps : rejectOverlaps (-1) (sortBy compareRiskRanges
      ((sortBy compareProvenance provenance).flatMap (·.riskRanges))) = .ok () := by
    refine rejectOverlaps_apart (hsorted.imp start_le_of_compareRiskRanges)
      ((h.apart htable).perm hall.symm Apart.symm) (fun risk hr => ?_) fun risk _ => by omega
    obtain ⟨entry, he, hr⟩ := List.mem_flatMap.1 (hall.mem_iff.1 hr)
    obtain ⟨range, hrange, rfl⟩ := List.mem_map.1 hr
    exact (h.entries entry he).ranges.2.positive range hrange
  refine ⟨⟨⟨DVD_TITLE_DAMAGE_SOURCE_CONTINUITY_POLICY_VERSION,
    sortBy compareProvenance provenance⟩, sectorCountOf (sortBy compareRiskRanges
      ((sortBy compareProvenance provenance).flatMap (·.riskRanges)))⟩, ?_, hperm⟩
  exact bind_ok.2 ⟨(), rejectIf_ok.2 (by simp), bind_ok.2 ⟨provenance, hentries,
    bind_ok.2 ⟨(), hoverlaps, rfl⟩⟩⟩

end Accepting

end RipDvd
