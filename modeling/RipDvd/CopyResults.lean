import RipDvd.Copy
import RipDvd.FailureAgreement

namespace RipDvd
set_option autoImplicit true

/-- A read that failed is classified from the completion of its own request. -/
structure ReadFailure.Of (failure : ReadFailure) (request : ReadRequest) : Prop where
  classified : failure = classifyReadFailure failure.completion
  command : failure.completion.captured = failure.completion.commandCompleted
  asked : failure.completion.toReadRequest = request

theorem readScopeEnd_of (request : ReadRequest) (io : Option SgIo) :
    (classifyReadFailure (readScopeEnd request io)).Of request := by
  cases io with
  | none => exact ⟨rfl, rfl, rfl⟩
  | some io => exact ⟨rfl, rfl, rfl⟩

theorem ReadFailure.Of.information {failure : ReadFailure} {request : ReadRequest}
    (h : failure.Of request)
    (hlba : lba ∈ failure.sense.informationLba) :
    request.requestedLba ≤ lba ∧ lba < request.requestedLba + request.requestedBlockCount := by
  rw [h.classified] at hlba
  have hinside := (decodeSense_coherent failure.completion).information lba hlba
  rwa [← h.asked]

theorem ReadFailure.Of.status {failure : ReadFailure} {request : ReadRequest}
    (h : failure.Of request)
    (hmedium : failure.status ≠ .mediumError) :
    backendReadHasTerminalFailureResult failure.status = true ∧
      (failure.status = .outOfRangeError → failure.sense.informationLba.isSome = true) := by
  have hclassified := classifyReadFailure_classified h.command
  rw [← h.classified] at hclassified
  cases hclassified with
  | terminal hstatus => simp [backendReadHasTerminalFailureResult, hstatus]
  | medium hstatus => exact absurd hstatus hmedium
  | outOfRange hstatus _ hinformation =>
    exact ⟨by simp [backendReadHasTerminalFailureResult, hstatus], fun _ => hinformation⟩

/-- A copy whose image reaches up to a sector, with the map of what is missing below it. -/
structure CopyState.Reached (s : CopyState) (mapped : Prop) (declared lba : Nat) : Prop where
  bytes : s.bytesProcessed = lba * DVD_SECTOR_SIZE_BYTES
  marked : s.recovery.Marked lba
  sized : mapped →
    s.recovery.badSectorBitmap.length = (declared / DVD_SECTOR_SIZE_BYTES + 7) / 8
  unmapped : ¬mapped → s.recovery.badSectorCount = 0
  unproven : s.recovery.boundaryProven = false

/-- Nothing is printed but what the parser is meant to accept. -/
def CopyStatus.Sound (declared : Nat) (status : CopyStatus) : Prop :=
  ∀ printed, status = .readFailure printed → TerminalResult printed.failure
    (some printed.recovery) declared printed.retainedImageByteCount

theorem CopyStatus.done_sound : CopyStatus.done.Sound declared := fun _ h => (nomatch h)

theorem CopyStatus.failed_sound : CopyStatus.failed.Sound declared := fun _ h => (nomatch h)

variable {env : CopyEnvironment} {s s' : CopyState} {mapped : Prop} {declared : Nat}

theorem backendRead_state {request : ReadRequest}
    {result : BackendRead request.requestedBlockCount}
    (h : backendRead env s request absolute = (result, s')) :
    s' = { s with issued := s.issued ++ [⟨request, absolute⟩] } := by
  simp only [backendRead] at h
  split at h <;> exact (congrArg Prod.snd h).symm

theorem backendRead_failed {request : ReadRequest} {failure : ReadFailure}
    (h : backendRead env s request absolute = (.failed failure, s')) : failure.Of request := by
  simp only [backendRead] at h
  split at h
  · cases h
  · injection h with hresult _
    injection hresult with hfailure
    rw [← hfailure]
    exact readScopeEnd_of request _
  · cases h
  · cases h

theorem CopyState.Reached.read (h : s.Reached mapped declared lba) (issued : List IssuedRead) :
    ({ s with issued } : CopyState).Reached mapped declared lba :=
  ⟨h.bytes, h.marked, h.sized, h.unmapped, h.unproven⟩

theorem backendRead_reached {request : ReadRequest}
    {result : BackendRead request.requestedBlockCount}
    (hread : backendRead env s request absolute = (result, s'))
    (h : s.Reached mapped declared lba) :
    s'.Reached mapped declared lba := by
  rw [backendRead_state hread]
  exact h.read _

theorem RecoveryState.Marked.mono {recovery : RecoveryState} (h : recovery.Marked lba)
    (hle : lba ≤ lba') : recovery.Marked lba' :=
  ⟨fun i hi => (h.below i hi).trans_le hle,
    h.sectors.trans (count_beyond h.below hle).symm,
    h.areas.trans (count_beyond (fun i hi => h.below i (runStart_imp hi)) hle).symm⟩

theorem CopyState.Reached.consume (h : s.Reached mapped declared lba) (blocks : Nat)
    (bytes : List UInt8) : (s.consumeBlocks blocks bytes).Reached mapped declared (lba + blocks) :=
  ⟨by rw [CopyState.consumeBlocks, h.bytes, Nat.add_mul],
    h.marked.mono (Nat.le_add_right lba blocks), h.sized, h.unmapped, h.unproven⟩

theorem count_congr {p q : Nat → Prop} [DecidablePred p] [DecidablePred q]
    (h : ∀ i < n, p i ↔ q i) : Nat.count p n = Nat.count q n := by
  induction n with
  | zero => rfl
  | succ n ih =>
    have hn := h n (Nat.lt_succ_self n)
    rw [Nat.count_succ, Nat.count_succ, ih fun i hi => h i (hi.trans (Nat.lt_succ_self n))]
    simp only [hn]

/-- Marking the sector that follows all the marked ones keeps both counts right. -/
theorem markBadSector_marked {recovery : RecoveryState} (h : recovery.Marked lba)
    (hwidth : lba < 8 * recovery.badSectorBitmap.length) :
    (recovery.markBadSector lba).Marked (lba + 1) := by
  have hbit : ∀ i, (recovery.markBadSector lba).sectorIsBad i =
      (decide (i = lba) || recovery.sectorIsBad i) := by
    intro i
    simp only [RecoveryState.markBadSector]
    split <;> exact bitmapBit_setBitmapBit hwidth
  have hself : (recovery.markBadSector lba).sectorIsBad lba = true := by rw [hbit]; simp
  have hold : ∀ i < lba, (recovery.markBadSector lba).sectorIsBad i = recovery.sectorIsBad i := by
    intro i hi
    rw [hbit, decide_eq_false hi.ne, Bool.false_or]
  have hstarts : ∀ i < lba, runStart (recovery.markBadSector lba).sectorIsBad i =
      runStart recovery.sectorIsBad i := by
    intro i hi
    rw [runStart, runStart, hold i hi, hold (i - 1) ((Nat.sub_le i 1).trans_lt hi)]
  have hcount : (recovery.markBadSector lba).badSectorCount = recovery.badSectorCount + 1 := by
    simp only [RecoveryState.markBadSector]
    split <;> rfl
  constructor
  · intro i hi
    rw [hbit, Bool.or_eq_true, decide_eq_true_eq] at hi
    cases hi with
    | inl heq => rw [heq]; exact Nat.lt_succ_self lba
    | inr hbad => exact (h.below i hbad).trans (Nat.lt_succ_self lba)
  · have hsame : Nat.count ((recovery.markBadSector lba).sectorIsBad · = true) lba =
        Nat.count (recovery.sectorIsBad · = true) lba :=
      count_congr fun i hi => by rw [hold i hi]
    rw [hcount, Nat.count_succ, if_pos hself, h.sectors, hsame]
  · have hsame : Nat.count (runStart (recovery.markBadSector lba).sectorIsBad · = true) lba =
        Nat.count (runStart recovery.sectorIsBad · = true) lba :=
      count_congr fun i hi => by rw [hstarts i hi]
    have hmarked : ({ recovery with
        badSectorBitmap := setBitmapBit recovery.badSectorBitmap lba
        badSectorCount := recovery.badSectorCount + 1 } : RecoveryState).sectorIsBad (lba - 1) =
          (recovery.markBadSector lba).sectorIsBad (lba - 1) := by
      rw [hbit]
      exact bitmapBit_setBitmapBit hwidth
    have hstart : runStart (recovery.markBadSector lba).sectorIsBad lba = true ↔
        lba = 0 ∨ ¬(recovery.markBadSector lba).sectorIsBad (lba - 1) = true := by
      rw [runStart, hself]
      simp
    have hareas : (recovery.markBadSector lba).badAreaCount =
        if lba = 0 ∨ ¬(recovery.markBadSector lba).sectorIsBad (lba - 1) = true then
          recovery.badAreaCount + 1 else recovery.badAreaCount := by
      conv_lhs => rw [RecoveryState.markBadSector]
      simp only [hmarked]
      split <;> rfl
    rw [Nat.count_succ, hsame, ← h.areas, hareas]
    by_cases hnew : lba = 0 ∨ ¬(recovery.markBadSector lba).sectorIsBad (lba - 1) = true
    · rw [if_pos hnew, if_pos (hstart.2 hnew)]
    · rw [if_neg hnew, if_neg fun h => hnew (hstart.1 h), Nat.add_zero]

/-- Where the image is cut: at the end of what was read, or at a sector marked below. -/
theorem boundaryRetainedImageByteCount_cases {recovery : RecoveryState}
    (h : recovery.Marked lba) (bytes : Nat) :
    boundaryRetainedImageByteCount (some recovery) bytes = bytes ∨
      ∃ bad < lba, boundaryRetainedImageByteCount (some recovery) bytes =
        bad * DVD_SECTOR_SIZE_BYTES ∧ bad * DVD_SECTOR_SIZE_BYTES ≤ bytes := by
  simp only [boundaryRetainedImageByteCount]
  split
  · exact .inl rfl
  · split
    next bad hfind =>
      by_cases hle : bad * DVD_SECTOR_SIZE_BYTES ≤ bytes
      · have hbad := List.find?_some hfind
        exact .inr ⟨bad, h.below bad hbad, Nat.min_eq_left hle, hle⟩
      · exact .inl (Nat.min_eq_right (by omega))
    next => exact .inl rfl

/-- An image end that may go with an out-of-range failure. -/
structure ImageEnd (failure : ReadFailure) (declared bytes : Nat) : Prop where
  bounded : bytes ≤ declared
  sectors : bytes % DVD_SECTOR_SIZE_BYTES = 0
  before : ∀ info ∈ failure.sense.informationLba,
    bytes = declared ∨ bytes ≤ info * DVD_SECTOR_SIZE_BYTES

theorem ImageEnd.cut {failure : ReadFailure} {recovery : RecoveryState}
    (h : ImageEnd failure declared bytes) (hmarked : recovery.Marked lba)
    (hlba : ∀ info ∈ failure.sense.informationLba, lba ≤ info) :
    ImageEnd failure declared (boundaryRetainedImageByteCount (some recovery) bytes) := by
  cases boundaryRetainedImageByteCount_cases hmarked bytes with
  | inl heq => rwa [heq]
  | inr hcut =>
    obtain ⟨bad, hbad, heq, hle⟩ := hcut
    rw [heq]
    refine ⟨hle.trans h.bounded, Nat.mul_mod_left bad _, ?_⟩
    intro info hinfo
    exact .inr (Nat.mul_le_mul_right _ (hbad.le.trans (hlba info hinfo)))

theorem emitUnproven_sound {failure : ReadFailure} {request : ReadRequest}
    (hof : failure.Of request) (hwithin : request.Within (declared / DVD_SECTOR_SIZE_BYTES))
    (hmedium : failure.status ≠ .mediumError) (h : s.Reached mapped declared lba)
    (hlba : ∀ info ∈ failure.sense.informationLba, lba ≤ info)
    (hend : ImageEnd failure declared bytes) :
    (emitUnprovenBoundaryFailure s failure bytes).1.Sound declared := by
  intro printed hprinted
  cases hprinted
  have hmarked : ({ s.recovery with boundaryProven := false } : RecoveryState).Marked lba :=
    ⟨h.marked.below, h.marked.sectors, h.marked.areas⟩
  have hcut := hend.cut hmarked hlba
  exact {
    classified := hof.classified
    command := hof.command
    terminal := (hof.status hmedium).1
    request := hof.asked ▸ hwithin
    bounded := fun _ => hcut.bounded
    sectors := fun _ => hcut.sectors
    before := fun _ => hcut.before
    proven := by
      intro _ state hstate hproven
      cases hstate
      cases hproven }

/-- A failure without a boundary is printed with whatever image there is. -/
theorem emit_plain_sound {failure : ReadFailure} {request : ReadRequest}
    (hof : failure.Of request) (hwithin : request.Within (declared / DVD_SECTOR_SIZE_BYTES))
    (hmedium : failure.status ≠ .mediumError) (hrange : failure.status ≠ .outOfRangeError) :
    (s.emit failure bytes).1.Sound declared := by
  intro printed hprinted
  cases hprinted
  exact {
    classified := hof.classified
    command := hof.command
    terminal := (hof.status hmedium).1
    request := hof.asked ▸ hwithin
    bounded := fun hstatus => absurd hstatus hrange
    sectors := fun hstatus => absurd hstatus hrange
    before := fun hstatus => absurd hstatus hrange
    proven := fun hstatus => absurd hstatus hrange }

/-- The confirmation of a candidate is printed with the image that ends right before it. -/
theorem emit_proven_sound {failure : ReadFailure} (hof : failure.Of ⟨lba, 1, 1⟩)
    (hinside : lba < declared / DVD_SECTOR_SIZE_BYTES) (hpositive : 0 < lba)
    (hstatus : failure.status = .outOfRangeError)
    (hinformation : failure.sense.informationLba = some lba)
    (h : s.Reached mapped declared lba) :
    (CopyState.emit { s with recovery := { s.recovery with boundaryProven := true } } failure
      (lba * DVD_SECTOR_SIZE_BYTES)).1.Sound declared := by
  intro printed hprinted
  cases hprinted
  have hmarked : ({ s.recovery with boundaryProven := true } : RecoveryState).Marked lba :=
    ⟨h.marked.below, h.marked.sectors, h.marked.areas⟩
  have hle : lba * DVD_SECTOR_SIZE_BYTES ≤ declared :=
    (Nat.mul_le_mul_right _ hinside.le).trans (Nat.div_mul_le_self declared _)
  exact {
    classified := hof.classified
    command := hof.command
    terminal := by simp [backendReadHasTerminalFailureResult, hstatus]
    request := by
      rw [hof.asked]
      exact ⟨Nat.one_pos, by simp, by simp, hinside⟩
    bounded := fun _ => hle
    sectors := fun _ => Nat.mul_mod_left lba _
    before := by
      intro _ info hinfo
      rw [hinformation] at hinfo
      cases hinfo
      exact .inr le_rfl
    proven := by
      intro _ state hstate _ info hinfo
      rw [hinformation] at hinfo
      cases hinfo
      cases hstate
      refine ⟨hpositive, rfl, hof.asked, hmarked, ?_⟩
      intro hbad
      by_cases hmapped : mapped
      · exact h.sized hmapped
      · exact absurd (h.unmapped hmapped) hbad.ne' }

theorem boundaryProbeRead_reached {request : ReadRequest}
    {result : BackendRead request.requestedBlockCount}
    (hread : boundaryProbeRead env s request = (result, s')) (h : s.Reached mapped declared lba) :
    s'.Reached mapped declared lba := by
  simp only [boundaryProbeRead] at hread
  split at hread
  · cases hread
    exact h
  · split at hread
    · cases hread
      exact backendRead_reached rfl h
    · exact backendRead_reached hread h

theorem boundaryProbeRead_failed {request : ReadRequest} {failure : ReadFailure}
    (h : boundaryProbeRead env s request = (.failed failure, s')) : failure.Of request := by
  simp only [boundaryProbeRead] at h
  split at h
  · cases h
  · split at h
    · cases h
    · exact backendRead_failed h

theorem outOfRangeAt_some {result : BackendRead count} {failure : ReadFailure}
    (h : outOfRangeAt lba result = some failure) : result = .failed failure ∧
      failure.status = .outOfRangeError ∧ failure.sense.informationLba = some lba := by
  cases result with
  | failed other =>
    simp only [outOfRangeAt] at h
    split at h
    next hstatus =>
      cases h
      exact ⟨rfl, hstatus.1, hstatus.2⟩
    next => cases h
  | success => cases h
  | ended => cases h
  | fatal => cases h

/-- How far the image reaches after the prefix was read, or was not. -/
def PrefixRead.Reached (mapped : Prop) (declared lba candidate : Nat) : PrefixRead → Prop
  | .reached s => s.Reached mapped declared candidate
  | .refused s => ∃ lba', lba ≤ lba' ∧ lba' ≤ candidate ∧ s.Reached mapped declared lba'
  | .fatal _ => True

theorem readPrefix_reached {left : PrefixRead} (h : s.Reached mapped declared lba)
    (hle : lba ≤ candidate) (hread : readPrefix env candidate lba s = left) :
    left.Reached mapped declared lba candidate := by
  subst hread
  induction lba, s using readPrefix.induct env candidate with
  | case1 lba s hlt s' hread =>
    rw [readPrefix, if_pos hlt, hread]
    trivial
  | case2 lba s hlt blocks bytes positive bounded length s' hread ih =>
    have hblocks : lba + blocks ≤ candidate := by
      have hb := bounded
      simp only at hb
      omega
    have hnext := (boundaryProbeRead_reached hread h).consume blocks bytes
    have hrest := ih hnext hblocks
    rw [readPrefix, if_pos hlt, hread]
    simp only
    cases hp : readPrefix env candidate (lba + blocks) (s'.consumeBlocks blocks bytes) with
    | reached _ => rw [hp] at hrest; exact hrest
    | fatal _ => trivial
    | refused _ =>
      rw [hp] at hrest
      obtain ⟨lba', hfrom, hto, hreached⟩ := hrest
      exact ⟨lba', (Nat.le_add_right lba blocks).trans hfrom, hto, hreached⟩
  | case3 lba s hlt result s' hfatal hsuccess hread =>
    have hkept : ∃ lba', lba ≤ lba' ∧ lba' ≤ candidate ∧ s'.Reached mapped declared lba' :=
      ⟨lba, le_rfl, hle, boundaryProbeRead_reached hread h⟩
    rw [readPrefix, if_pos hlt, hread]
    cases result with
    | fatal => exact absurd rfl hfatal
    | success => exact absurd rfl (hsuccess _ _ _ _ _)
    | failed => exact hkept
    | ended => exact hkept
  | case4 lba s hge =>
    have heq : lba = candidate := by omega
    rw [readPrefix, if_neg hge]
    exact heq ▸ h

/-- What a probe leaves, whichever way it ended; an agreed value satisfies `P`. -/
def ProbeLeaves (mapped : Prop) (declared lba : Nat) (P : α → Prop) :
    ProbeOutcome α × CopyState → Prop
  | (.agreed value, s) => P value ∧ s.Reached mapped declared lba
  | (.disagreed, s) => s.Reached mapped declared lba
  | (.fatal, _) => True

theorem precedingAgrees_leaves {left : ProbeOutcome Unit × CopyState}
    (h : s.Reached mapped declared lba) (hprobe : precedingAgrees env candidate s = left) :
    ProbeLeaves mapped declared lba (fun _ => True) left := by
  subst hprobe
  simp only [precedingAgrees]
  split
  · trivial
  · cases hread : boundaryProbeRead env s ⟨candidate - 1, 1, 0⟩ with
    | mk result s' =>
      have hreached := boundaryProbeRead_reached hread h
      cases result with
      | fatal => trivial
      | failed => exact hreached
      | ended => exact hreached
      | success blocks bytes =>
        simp only
        split
        · exact ⟨trivial, hreached⟩
        · exact hreached

/-- A failure that confirms the candidate at a given ordinal. -/
structure Confirms (failure : ReadFailure) (candidate ordinal : Nat) : Prop where
  of : failure.Of ⟨candidate, 1, ordinal⟩
  status : failure.status = .outOfRangeError
  information : failure.sense.informationLba = some candidate

theorem confirmCandidate_leaves {initial : ReadFailure} {ordinals : List Nat}
    {confirmation : Option ReadFailure} {left : ProbeOutcome (Option ReadFailure) × CopyState}
    (h : s.Reached mapped declared lba)
    (hlast : ∀ failure ∈ confirmation, Confirms failure candidate last)
    (hprobe : confirmCandidate env initial candidate ordinals confirmation s = left) :
    ProbeLeaves mapped declared lba
      (fun confirmation => ∀ failure ∈ confirmation,
        Confirms failure candidate (ordinals.getLastD last)) left := by
  subst hprobe
  induction ordinals generalizing last confirmation s with
  | nil => exact ⟨hlast, h⟩
  | cons ordinal ordinals ih =>
    cases hread : boundaryProbeRead env s ⟨candidate, 1, ordinal⟩ with
    | mk result s' =>
      have hreached := boundaryProbeRead_reached hread h
      have hrest : ∀ failure, outOfRangeAt candidate result = some failure →
          ProbeLeaves mapped declared lba (fun confirmation => ∀ failure ∈ confirmation,
              Confirms failure candidate (ordinals.getLastD ordinal))
            (confirmCandidate env initial candidate ordinals (some failure) s') := by
        intro failure hfailure
        obtain ⟨hresult, hstatus, hinformation⟩ := outOfRangeAt_some hfailure
        rw [hresult] at hread
        apply ih hreached
        intro other hother
        cases hother
        exact ⟨boundaryProbeRead_failed hread, hstatus, hinformation⟩
      simp only [confirmCandidate, hread, List.getLastD_cons]
      cases result with
      | fatal => trivial
      | ended => exact hreached
      | success => exact hreached
      | failed failure =>
        cases hat : outOfRangeAt candidate (.failed failure : BackendRead 1) with
        | none =>
          simp only [hat]
          exact hreached
        | some other =>
          simp only [hat]
          split
          · exact hrest other hat
          · exact hreached

theorem probeUpper_leaves {probes : List Nat} {left : ProbeOutcome Unit × CopyState}
    (h : s.Reached mapped declared lba)
    (hprobe : probeUpper env total probes previous s = left) :
    ProbeLeaves mapped declared lba (fun _ => True) left := by
  subst hprobe
  induction probes generalizing previous s with
  | nil => exact ⟨trivial, h⟩
  | cons probe probes ih =>
    simp only [probeUpper]
    split
    · exact ih h
    · cases hread : boundaryProbeRead env s ⟨probe, 1, 0⟩ with
      | mk result s' =>
        have hreached := boundaryProbeRead_reached hread h
        cases result with
        | fatal => trivial
        | ended => exact hreached
        | success => exact hreached
        | failed failure =>
          cases hat : outOfRangeAt probe (.failed failure : BackendRead 1) with
          | none =>
            simp only [hat]
            exact hreached
          | some other =>
            simp only [hat]
            exact ih hreached

/-- Probes that agree leave the last confirmation of the candidate. -/
theorem probeCandidate_leaves {initial : ReadFailure} {left : ProbeOutcome ReadFailure × CopyState}
    (h : s.Reached mapped declared lba)
    (hprobe : probeCandidate env initial candidate total s = left) :
    ProbeLeaves mapped declared lba (fun confirmation => Confirms confirmation candidate 1)
      left := by
  subst hprobe
  simp only [probeCandidate]
  cases hp : precedingAgrees env candidate s with
  | mk outcome s1 =>
    have hpreceding := precedingAgrees_leaves h hp
    cases outcome with
    | fatal => trivial
    | disagreed => exact hpreceding
    | agreed =>
      have hnone : ∀ failure ∈ (none : Option ReadFailure), Confirms failure candidate 0 := by
        intro failure hfailure
        cases hfailure
      simp only
      cases hc : confirmCandidate env initial candidate (List.range BOUNDARY_CONFIRMATION_READS)
          none s1 with
      | mk outcome s2 =>
        have hconfirm := confirmCandidate_leaves hpreceding.2 hnone hc
        cases outcome with
        | fatal => trivial
        | disagreed => exact hconfirm
        | agreed confirmation =>
          cases confirmation with
          | none => exact hconfirm.2
          | some confirmation =>
            simp only
            cases hu : probeUpper env total [candidate + 1, total - 1] candidate s2 with
            | mk outcome s3 =>
              have hupper := probeUpper_leaves hconfirm.2 hu
              cases outcome with
              | fatal => trivial
              | disagreed => exact hupper
              | agreed => exact ⟨hconfirm.1 confirmation rfl, hupper.2⟩

/-- A boundary proof prints what the parser accepts, however it turns out. -/
theorem proveBoundaryCandidate_sound {failure : ReadFailure} {request : ReadRequest}
    {unproven : CopyState → Nat} (hof : failure.Of request)
    (hwithin : request.Within (declared / DVD_SECTOR_SIZE_BYTES))
    (hstatus : failure.status = .outOfRangeError) (h : s.Reached mapped declared lba)
    (hlba : request.requestedLba = lba)
    (hunproven : ∀ s' lba', s'.Reached mapped declared lba' → lba ≤ lba' →
      (∀ info ∈ failure.sense.informationLba, lba' ≤ info) →
        ImageEnd failure declared (unproven s')) :
    (proveBoundaryCandidate env failure unproven declared s).1.Sound declared := by
  have hmedium : failure.status ≠ .mediumError := by
    rw [hstatus]
    simp
  obtain ⟨candidate, hcandidate⟩ := Option.isSome_iff_exists.1 ((hof.status hmedium).2 hstatus)
  have hinside := hof.information hcandidate
  have hfrom : ∀ info ∈ failure.sense.informationLba, lba ≤ info := by
    intro info hinfo
    rw [← hlba]
    exact (hof.information hinfo).1
  have hemit : ∀ s' lba', s'.Reached mapped declared lba' → lba ≤ lba' → lba' ≤ candidate →
      (emitUnprovenBoundaryFailure s' failure (unproven s')).1.Sound declared := by
    intro s' lba' hreached hge hle
    have hbelow : ∀ info ∈ failure.sense.informationLba, lba' ≤ info := by
      intro info hinfo
      rw [hcandidate] at hinfo
      cases hinfo
      exact hle
    exact emitUnproven_sound hof hwithin hmedium hreached hbelow
      (hunproven s' lba' hreached hge hbelow)
  have hretained : s.bytesProcessed / DVD_SECTOR_SIZE_BYTES = lba := by
    rw [h.bytes]
    exact Nat.mul_div_cancel lba (by decide)
  have hsome : failure.sense.informationLba.getD 0 = candidate := by rw [hcandidate]; rfl
  simp only [proveBoundaryCandidate, hsome, hretained]
  split
  · exact hemit s lba h le_rfl (hfrom candidate hcandidate)
  next hchecked =>
    simp only [not_or] at hchecked
    have hcandidate_pos := Nat.pos_of_ne_zero hchecked.2.1
    have hcandidate_lt : candidate < declared / DVD_SECTOR_SIZE_BYTES := by
      have hnot := hchecked.2.2.1
      omega
    cases hr : readPrefix env candidate lba s with
    | fatal s1 => exact CopyStatus.failed_sound
    | refused s1 =>
      obtain ⟨lba', hge, hle, hreached⟩ := readPrefix_reached h (hfrom candidate hcandidate) hr
      exact hemit s1 lba' hreached hge hle
    | reached s1 =>
      have hprefix : s1.Reached mapped declared candidate :=
        readPrefix_reached h (hfrom candidate hcandidate) hr
      simp only
      cases hp : probeCandidate env failure candidate (declared / DVD_SECTOR_SIZE_BYTES) s1 with
      | mk outcome s2 =>
        have hprobes := probeCandidate_leaves hprefix hp
        cases outcome with
        | fatal => exact CopyStatus.failed_sound
        | disagreed => exact hemit s2 candidate hprobes (hfrom candidate hcandidate) le_rfl
        | agreed confirmation =>
          obtain ⟨hconfirms, hreached⟩ := hprobes
          exact emit_proven_sound hconfirms.of hcandidate_lt hcandidate_pos hconfirms.status
            hconfirms.information hreached

/-- Whole sense data in the fixed format. -/
def senseOf (valid senseKey asc ascq : UInt8) : SgIo where
  status := 0x02
  hostStatus := 0
  driverStatus := 0x08
  sbLenWr := 18
  sense := [0x70 ||| valid, 0, senseKey, 0, 0, 0, 0, 10, 0, 0, 0, 0, asc, ascq, 0, 0, 0, 0] ++
    List.replicate 234 0
  length_sense := by rw [List.length_append, List.length_replicate]; rfl

end RipDvd
