import RipDvd.FailureProtocol

namespace RipDvd
set_option autoImplicit true

open Json

def MAX_DVD_CONTENT_BYTES : Nat := 9000000000

/-- A medium size `parse_size` accepts. -/
structure DeclaredByteCount (byteCount : Nat) : Prop where
  positive : 0 < byteCount
  bounded : byteCount ≤ MAX_DVD_CONTENT_BYTES
  sectors : byteCount % DVD_SECTOR_SIZE_BYTES = 0

/-- A read of at least one sector of a medium of so many. -/
structure ReadRequest.Within (request : ReadRequest) (totalSectorCount : Nat) : Prop where
  positive : 0 < request.requestedBlockCount
  bounded : request.requestedBlockCount ≤ 0xffffffff
  retry : request.retryOrdinal ≤ 0xffffffff
  inside : request.requestedLba + request.requestedBlockCount ≤ totalSectorCount

/-- Evidence that survives being printed and read. -/
structure DvdReadFailureEvidence.Printable (evidence : DvdReadFailureEvidence) : Prop where
  scsiStatus : ∀ n ∈ evidence.scsiStatus, n ≤ 0xff
  hostStatus : ∀ n ∈ evidence.hostStatus, n ≤ 0xffff
  driverStatus : ∀ n ∈ evidence.driverStatus, n ≤ 0xffff
  senseResponseCode : ∀ n ∈ evidence.senseResponseCode, n ≤ 0xff
  senseKey : ∀ n ∈ evidence.senseKey, n ≤ 0x0f
  asc : ∀ n ∈ evidence.asc, n ≤ 0xff
  ascq : ∀ n ∈ evidence.ascq, n ≤ 0xff
  informationLba : ∀ n ∈ evidence.informationLba, n ≤ maxSafeInteger
  requestedLba : evidence.requestedLba ≤ maxSafeInteger
  requestedBlockCount : evidence.requestedBlockCount ≤ maxSafeInteger
  retryOrdinal : evidence.retryOrdinal ≤ maxSafeInteger

theorem byte_le (b : UInt8) : b.toNat ≤ 0xff := Nat.le_of_lt_succ b.toNat_lt

theorem mem_map_byte {byte : Option UInt8} (h : n ∈ byte.map UInt8.toNat) : n ≤ 0xff := by
  obtain ⟨b, _, rfl⟩ := Option.mem_map.1 h
  exact byte_le b

theorem mem_ite_some {p : Prop} [Decidable p] {a n : Nat}
    (h : n ∈ if p then some a else none) : n = a := by
  split at h
  · cases h
    rfl
  · cases h

theorem classifyReadFailure_printable {c : ScsiCompletion}
    (hrequest : c.toReadRequest.Within total) (htotal : total ≤ maxSafeInteger) :
    (classifyReadFailure c).evidence.Printable := by
  have hcoherent := decodeSense_coherent c
  have hinside := hrequest.inside
  have hpositive := hrequest.positive
  have hmax : (0xffffffff : Nat) ≤ maxSafeInteger := by decide
  constructor
  · intro n hn
    rw [mem_ite_some hn]
    exact byte_le _
  · intro n hn
    rw [mem_ite_some hn]
    exact Nat.le_of_lt_succ (UInt16.toNat_lt _)
  · intro n hn
    rw [mem_ite_some hn]
    exact Nat.le_of_lt_succ (UInt16.toNat_lt _)
  · exact fun n hn => mem_map_byte hn
  · intro n hn
    obtain ⟨key, hkey, rfl⟩ := Option.mem_map.1 hn
    exact hcoherent.key key hkey
  · exact fun n hn => mem_map_byte hn
  · exact fun n hn => mem_map_byte hn
  · intro n hn
    have h := hcoherent.information n hn
    omega
  · show c.requestedLba ≤ maxSafeInteger
    omega
  · exact hrequest.bounded.trans hmax
  · exact hrequest.retry.trans hmax

/-- A printed object that carries a piece of evidence field by field. -/
structure Carries (candidate : Json) (evidence : DvdReadFailureEvidence) : Prop where
  version : isNumber (candidate.get "protocolVersion") 1 = true
  classifier :
    isString (candidate.get "classifierVersion") DVD_READ_FAILURE_CLASSIFIER_VERSION = true
  scsiStatus : candidate.get "scsiStatus" = some (formatOptional evidence.scsiStatus)
  hostStatus : candidate.get "hostStatus" = some (formatOptional evidence.hostStatus)
  driverStatus : candidate.get "driverStatus" = some (formatOptional evidence.driverStatus)
  senseResponseCode :
    candidate.get "senseResponseCode" = some (formatOptional evidence.senseResponseCode)
  senseKey : candidate.get "senseKey" = some (formatOptional evidence.senseKey)
  asc : candidate.get "asc" = some (formatOptional evidence.asc)
  ascq : candidate.get "ascq" = some (formatOptional evidence.ascq)
  informationLba : candidate.get "informationLba" = some (formatOptional evidence.informationLba)
  requestedLba : candidate.get "requestedLba" = some (number evidence.requestedLba)
  requestedBlockCount :
    candidate.get "requestedBlockCount" = some (number evidence.requestedBlockCount)
  retryOrdinal : candidate.get "retryOrdinal" = some (number evidence.retryOrdinal)

theorem Carries.readEvidence {candidate : Json} (hc : Carries candidate evidence)
    (h : evidence.Printable) : readEvidence candidate = some evidence := by
  have h1 := optionalBoundedInteger_formatOptional (by decide) h.scsiStatus
  have h2 := optionalBoundedInteger_formatOptional (by decide) h.hostStatus
  have h3 := optionalBoundedInteger_formatOptional (by decide) h.driverStatus
  have h4 := optionalBoundedInteger_formatOptional (by decide) h.senseResponseCode
  have h5 := optionalBoundedInteger_formatOptional (by decide) h.senseKey
  have h6 := optionalBoundedInteger_formatOptional (by decide) h.asc
  have h7 := optionalBoundedInteger_formatOptional (by decide) h.ascq
  have h8 := optionalBoundedInteger_formatOptional le_rfl h.informationLba
  have h9 := safeNonNegativeInteger_number h.requestedLba
  have h10 := safeNonNegativeInteger_number h.requestedBlockCount
  have h11 := safeNonNegativeInteger_number h.retryOrdinal
  simp [RipDvd.readEvidence, hc.scsiStatus, hc.hostStatus, hc.driverStatus, hc.senseResponseCode,
    hc.senseKey, hc.asc, hc.ascq, hc.informationLba, hc.requestedLba, hc.requestedBlockCount,
    hc.retryOrdinal, h1, h2, h3, h4, h5, h6, h7, h8, h9, h10, h11]

theorem carries_fields (failure : ReadFailure) (category : String)
    (rest : List (String × Json)) :
    Carries (.object (readFailureFields failure 1 category ++ rest)) failure.evidence := by
  constructor <;> rfl

theorem classifyReadFailure_statusesTogether (c : ScsiCompletion) :
    (classifyReadFailure c).evidence.StatusesTogether := by
  cases hcaptured : c.captured <;>
    simp [ArchiveReadFailureScsiEvidence.StatusesTogether, ReadFailure.evidence,
      classifyReadFailure, hcaptured]

/-- An ASC comes without its ASCQ only from a record that is cut between them. -/
theorem classifyReadFailure_senseTogether (c : ScsiCompletion) :
    (classifyReadFailure c).evidence.SenseTogether ↔ ¬c.CutAfterAsc := by
  have hcoherent := decodeSense_coherent c
  have hresponse := hcoherent.response
  have hascq := hcoherent.ascq
  rw [← decodeSense_cutAfterAsc c]
  simp only [DvdReadFailureEvidence.SenseTogether, ReadFailure.evidence, classifyReadFailure,
    Option.map_eq_none_iff]
  constructor
  · intro h hcut
    have hasc := h.2.2 hcut.2
    rw [hasc] at hcut
    cases hcut.1
  · intro h
    refine ⟨hresponse, ?_, ?_⟩
    · intro hasc
      cases hq : (decodeSense c).ascq with
      | none => rfl
      | some ascq =>
        have hsome := hascq (by rw [hq]; rfl)
        rw [hasc] at hsome
        cases hsome
    · intro hq
      cases hasc : (decodeSense c).asc with
      | none => rfl
      | some asc => exact absurd ⟨by rw [hasc]; rfl, hq⟩ h

theorem accepted_iff {c : ScsiCompletion} (hdeclared : DeclaredByteCount declared)
    (hrequest : c.toReadRequest.Within (declared / DVD_SECTOR_SIZE_BYTES)) :
    (classifyReadFailure c).evidence.Accepted declared ↔ ¬c.CutAfterAsc := by
  have hcoherent := decodeSense_coherent c
  have hstatuses := classifyReadFailure_statusesTogether c
  have hsense := classifyReadFailure_senseTogether c
  have hinformation : (classifyReadFailure c).evidence.InformationWithin
      c.requestedLba c.requestedBlockCount := hcoherent.information
  have hmax : declared / DVD_SECTOR_SIZE_BYTES ≤ maxSafeInteger := by
    have hbounded := hdeclared.bounded
    simp only [MAX_DVD_CONTENT_BYTES, DVD_SECTOR_SIZE_BYTES, maxSafeInteger] at *
    omega
  have hpositive := hrequest.positive
  have hinside := hrequest.inside
  rw [← hsense]
  constructor
  · intro h
    exact h.2.2.2.2.2.2.2.2.2
  · intro h
    refine ⟨hrequest.positive, hrequest.bounded, hrequest.retry, hdeclared.sectors, hmax, ?_,
      hrequest.inside, hinformation, hstatuses, h⟩
    show c.requestedLba < declared / DVD_SECTOR_SIZE_BYTES
    omega

/-- A result of a category without a boundary is read for what it is, or not at all. -/
theorem parseProtocol_plain {candidate : Json} (hc : Carries candidate evidence)
    (hprintable : evidence.Printable)
    (hkeys : candidate.keys.insertionSort (· ≤ ·) = expectedReadFailureKeys candidate)
    (hcategory : readCategory (candidate.get "category") = some category)
    (hplain : category ≠ .outOfRange)
    (hnormalized : normalizedReadFailureCategory evidence = .category category)
    (hrange : outOfRangeEvidence evidence = true → evidence.informationLba = none) :
    parseDvdReadFailureResultProtocol candidate declared =
      if evidence.Accepted declared then .ok { evidence with category, boundary := none }
      else .error READ_FAILURE_MALFORMED := by
  have hrange' : ¬(category = .unknown ∧ outOfRangeEvidence evidence = true ∧
      evidence.informationLba ≠ none) := fun h => h.2.2 (hrange h.2.1)
  simp only [parseDvdReadFailureResultProtocol, rejectIf, hkeys, hc.version, hc.classifier,
    hcategory, hc.readEvidence hprintable, orThrow]
  by_cases haccepted : evidence.Accepted declared
  · rw [ne_eq] at hrange'
    simp [haccepted, hrange', hplain, hnormalized, Bind.bind, Except.bind, Pure.pure, Except.pure]
  · simp [haccepted, Bind.bind, Except.bind]

/-- A result with a boundary is read up to what its boundary says. -/
theorem parseProtocol_boundary {candidate : Json} (hc : Carries candidate evidence)
    (hprintable : evidence.Printable)
    (hkeys : candidate.keys.insertionSort (· ≤ ·) = expectedReadFailureKeys candidate)
    (hcategory : readCategory (candidate.get "category") = some .outOfRange)
    (haccepted : evidence.Accepted declared)
    (hboundary : readBoundary candidate evidence declared = .ok boundary) :
    parseDvdReadFailureResultProtocol candidate declared =
      .ok { evidence with category := .outOfRange, boundary := some boundary } := by
  simp [parseDvdReadFailureResultProtocol, rejectIf, hkeys, hc.version, hc.classifier,
    hcategory, hc.readEvidence hprintable, orThrow, haccepted, hboundary, Bind.bind, Except.bind,
    Pure.pure, Except.pure]

theorem readCategory_name (category : ReadFailureCategory) :
    readCategory (some (string category.name)) = some category.archived := by
  cases category <;> rfl

theorem keys_plain (failure : ReadFailure) (category : ReadFailureCategory) :
    (Json.object (readFailureFields failure 1 category.name)).keys.insertionSort (· ≤ ·) =
      expectedReadFailureKeys (.object (readFailureFields failure 1 category.name)) := by
  have hkeys : expectedReadFailureKeys (.object (readFailureFields failure 1 category.name)) =
      DVD_READ_FAILURE_PROTOCOL_KEYS := by
    cases category <;> rfl
  rw [hkeys]
  show (List.map Prod.fst (readFailureFields failure 1 category.name)).insertionSort (· ≤ ·) = _
  have hfst : (readFailureFields failure 1 category.name).map Prod.fst = ["protocolVersion",
      "classifierVersion", "category", "scsiStatus", "hostStatus", "driverStatus",
      "senseResponseCode", "senseKey", "asc", "ascq", "informationLba", "requestedLba",
      "requestedBlockCount", "retryOrdinal"] := rfl
  rw [hfst]
  decide

/-- The map, counted and with its areas counted, of sectors below a bound. -/
structure RecoveryState.Marked (recovery : RecoveryState) (bound : Nat) : Prop where
  below : ∀ i, recovery.sectorIsBad i = true → i < bound
  sectors : recovery.badSectorCount = Nat.count (recovery.sectorIsBad · = true) bound
  areas : recovery.badAreaCount = Nat.count (runStart recovery.sectorIsBad · = true) bound

theorem count_beyond {p : Nat → Prop} [DecidablePred p] (h : ∀ i, p i → i < bound)
    (hle : bound ≤ n) : Nat.count p n = Nat.count p bound := by
  induction n with
  | zero => rw [Nat.le_zero.1 hle]
  | succ n ih =>
    by_cases heq : bound = n + 1
    · rw [heq]
    · have hn : bound ≤ n := by omega
      have hp : ¬p n := fun hp => absurd (h n hp) (by omega)
      rw [Nat.count_succ, if_neg hp, Nat.add_zero, ih hn]

theorem runStart_imp {p : Nat → Bool} (h : runStart p i = true) : p i = true := by
  rw [runStart, Bool.and_eq_true] at h
  exact h.1

/-- Without a marked sector there is no area. -/
theorem RecoveryState.Marked.areas_zero {recovery : RecoveryState} (h : recovery.Marked bound)
    (hzero : recovery.badSectorCount = 0) : recovery.badAreaCount = 0 := by
  have hle : Nat.count (runStart recovery.sectorIsBad · = true) bound ≤
      Nat.count (recovery.sectorIsBad · = true) bound :=
    Nat.count_mono_left fun _ _ hi => runStart_imp hi
  have hsectors := h.sectors
  have hareas := h.areas
  omega

theorem countNormalizedRanges_runs (h : RunsApart runs n) (hle : n ≤ total)
    (hprevious : ∀ run ∈ runs, previousEndLba < (run.1 : Int)) :
    countNormalizedRanges total previousEndLba counted
        (runs.map fun run => UnreadableSectorRange.mk run.1 run.2) =
      some (counted + (runs.map Prod.snd).sum) := by
  induction runs generalizing previousEndLba counted with
  | nil => simp [countNormalizedRanges]
  | cons run runs ih =>
    have hpositive := h.nonempty run (List.mem_cons_self ..)
    have hbelow := h.below run (List.mem_cons_self ..)
    have hafter := hprevious run (List.mem_cons_self ..)
    have happart := List.pairwise_cons.1 h.apart
    have hrest : RunsApart runs n := ⟨happart.2,
      fun other hother => h.nonempty other (List.mem_cons_of_mem _ hother),
      fun other hother => h.below other (List.mem_cons_of_mem _ hother)⟩
    have hnot : ¬(run.2 = 0 ∨ total < run.1 + run.2 ∨ (run.1 : Int) ≤ previousEndLba) := by
      omega
    simp only [List.map_cons, countNormalizedRanges, if_neg hnot, List.sum_cons]
    rw [ih hrest]
    · rw [Nat.add_assoc]
    · intro other hother
      have hlt := happart.1 other hother
      omega

/-- The ranges the parser finds in a map are the ones the reader counted. -/
theorem parseBadSectorBitmap_marked {recovery : RecoveryState} (h : recovery.Marked bound)
    (hsized : recovery.badSectorBitmap.length = (total + 7) / 8) (hbound : bound ≤ total) :
    ∃ runs, parseBadSectorBitmap (toHex recovery.badSectorBitmap) total =
        .ok (runs.map fun run => UnreadableSectorRange.mk run.1 run.2) ∧
      RunsApart runs total ∧ (∀ run ∈ runs, run.1 + run.2 ≤ bound) ∧
      (runs.map Prod.snd).sum = recovery.badSectorCount ∧
      runs.length = recovery.badAreaCount := by
  have hwidth : total ≤ recovery.badSectorBitmap.length * 8 := by omega
  have hpast : ((List.range (recovery.badSectorBitmap.length * 8)).any fun lba =>
      total ≤ lba && bitmapBit recovery.badSectorBitmap lba) = false := by
    rw [List.any_eq_false]
    intro lba _ hlba
    rw [Bool.and_eq_true, decide_eq_true_eq] at hlba
    exact absurd (h.below lba hlba.2) (by omega)
  have hpassed := RunScan.scanTo_passed recovery.sectorIsBad (recovery.badSectorBitmap.length * 8)
  have hclose : (RunScan.scanTo recovery.sectorIsBad
      (recovery.badSectorBitmap.length * 8)).close total =
        (RunScan.scanTo recovery.sectorIsBad
          (recovery.badSectorBitmap.length * 8)).close (recovery.badSectorBitmap.length * 8) := by
    cases hopen : (RunScan.scanTo recovery.sectorIsBad
        (recovery.badSectorBitmap.length * 8)).rangeStart with
    | none => simp only [RunScan.close, hopen]
    | some start =>
      obtain ⟨hpos, hlast⟩ := hpassed.running hopen
      have hlt := h.below _ hlast
      have heq : total = recovery.badSectorBitmap.length * 8 := by omega
      rw [← heq]
  refine ⟨(RunScan.scanTo recovery.sectorIsBad (recovery.badSectorBitmap.length * 8)).close
    (recovery.badSectorBitmap.length * 8), ?_, ?_, ?_, ?_, ?_⟩
  · have hlength : (toHex recovery.badSectorBitmap).length = (total + 7) / 8 * 2 := by
      rw [length_toHex, hsized]
    have hdigits : ofHexDigits (toHex recovery.badSectorBitmap).toList =
        some recovery.badSectorBitmap := by
      rw [toHex, String.toList_ofList, ofHexDigits_flatMap]
    simp only [parseBadSectorBitmap, rejectIf, hlength, hdigits, orThrow, hpast, ne_eq,
      not_true_eq_false, if_false, Bool.false_eq_true, Bind.bind, Except.bind, Pure.pure,
      Except.pure]
    rw [← hclose]
    rfl
  · have hapart := hpassed.close_apart
    exact ⟨hapart.apart, hapart.nonempty,
      fun run hrun => (hpassed.close_below h.below hrun).trans hbound⟩
  · exact fun run hrun => hpassed.close_below h.below hrun
  · rw [hpassed.bits, count_beyond h.below (hbound.trans hwidth), h.sectors]
  · rw [hpassed.count, count_beyond (fun i hi => h.below i (runStart_imp hi))
      (hbound.trans hwidth), h.areas]

/-- The recovery result a snapshot stands for. -/
def RecoveryState.ShownBy (recovery : RecoveryState) (declaredByteCount : Nat)
    (result : DvdRecoveryResult) : Prop :=
  result.declaredByteCount = declaredByteCount ∧
    result.recoveredByteCount =
      declaredByteCount - recovery.badSectorCount * DVD_SECTOR_SIZE_BYTES ∧
    result.badSectorCount = recovery.badSectorCount ∧
    result.badAreaCount = recovery.badAreaCount

theorem RecoveryState.Marked.small {recovery : RecoveryState} (h : recovery.Marked bound) :
    recovery.badSectorCount ≤ bound ∧ recovery.badAreaCount ≤ bound := by
  rw [h.sectors, h.areas]
  exact ⟨Nat.count_le _, Nat.count_le _⟩

theorem createDamagedDvdRecoveryResult_runs (hdeclared : DeclaredByteCount declared)
    (hapart : RunsApart runs (declared / DVD_SECTOR_SIZE_BYTES)) (hruns : runs ≠ []) :
    createDamagedDvdRecoveryResult declared
        (runs.map fun run => UnreadableSectorRange.mk run.1 run.2) = .ok {
      outcome := .damaged
      declaredByteCount := declared
      recoveredByteCount := declared - (runs.map Prod.snd).sum * DVD_SECTOR_SIZE_BYTES
      badSectorCount := (runs.map Prod.snd).sum
      badAreaCount := runs.length
      unrecoveredSectorRanges := runs.map fun run => UnreadableSectorRange.mk run.1 run.2 } := by
  have hcounted : countNormalizedRanges (declared / DVD_SECTOR_SIZE_BYTES) (-1) 0
      (runs.map fun run => UnreadableSectorRange.mk run.1 run.2) =
        some (0 + (runs.map Prod.snd).sum) :=
    countNormalizedRanges_runs hapart le_rfl fun run _ => by omega
  have hsum : ((runs.map fun run => UnreadableSectorRange.mk run.1 run.2).map
      (·.sectorCount)).sum = (runs.map Prod.snd).sum := by
    rw [List.map_map]
    rfl
  have hareas : 0 < runs.length := List.length_pos_of_ne_nil hruns
  have hsectors : 0 < (runs.map Prod.snd).sum := by
    cases runs with
    | nil => exact absurd rfl hruns
    | cons run runs =>
      have hpositive := hapart.nonempty run (List.mem_cons_self ..)
      rw [List.map_cons, List.sum_cons]
      omega
  have hnormalized : isNormalizedDamagedResult {
      outcome := .damaged
      declaredByteCount := declared
      recoveredByteCount := declared - (runs.map Prod.snd).sum * DVD_SECTOR_SIZE_BYTES
      badSectorCount := (runs.map Prod.snd).sum
      badAreaCount := runs.length
      unrecoveredSectorRanges := runs.map fun run => UnreadableSectorRange.mk run.1 run.2 }
      declared = true := by
    simp [isNormalizedDamagedResult, hcounted, hdeclared.sectors, hareas, hsectors]
  simp only [createDamagedDvdRecoveryResult, hsum, List.length_map, rejectIf, hnormalized,
    not_true_eq_false, if_false]
  rfl

/-- The parser accepts every snapshot of a marked map, with the counts it was printed with. -/
theorem parse_snapshot {recovery : RecoveryState} (hdeclared : DeclaredByteCount declared)
    (h : recovery.Marked bound) (hbound : bound ≤ declared / DVD_SECTOR_SIZE_BYTES)
    (hsized : 0 < recovery.badSectorCount →
      recovery.badSectorBitmap.length = (declared / DVD_SECTOR_SIZE_BYTES + 7) / 8) :
    ∃ result, parseDvdRecoveryResultProtocol (recovery.snapshot declared) declared = .ok result ∧
      recovery.ShownBy declared result ∧
      ∀ range ∈ result.unrecoveredSectorRanges, range.startLba + range.sectorCount ≤ bound := by
  have hmax : declared ≤ maxSafeInteger := by
    have hbounded := hdeclared.bounded
    simp only [MAX_DVD_CONTENT_BYTES, maxSafeInteger] at *
    omega
  have hsmall := h.small
  have hsectors : declared / DVD_SECTOR_SIZE_BYTES ≤ declared := Nat.div_le_self _ _
  have h1 := safeNonNegativeInteger_number
    (n := declared - recovery.badSectorCount * DVD_SECTOR_SIZE_BYTES) (by omega)
  have h2 := safeNonNegativeInteger_number (n := recovery.badSectorCount) (by omega)
  have h3 := safeNonNegativeInteger_number (n := recovery.badAreaCount) (by omega)
  have hnumber : isNumber (some (number declared)) declared = true := by simp
  have hprotocol : parseDvdRecoveryResultProtocol (recovery.snapshot declared) declared =
      if recovery.badSectorCount = 0 then do
        rejectIf (recovery.badAreaCount ≠ 0 ∨
            declared - recovery.badSectorCount * DVD_SECTOR_SIZE_BYTES ≠ declared ∨
            (if 0 < recovery.badSectorCount then toHex recovery.badSectorBitmap else "") ≠ "")
          RECOVERY_RESULT_MALFORMED
        return createCleanDvdRecoveryResult declared
      else do
        rejectIf (declared % DVD_SECTOR_SIZE_BYTES ≠ 0) RECOVERY_RESULT_MALFORMED
        let ranges ← parseBadSectorBitmap
          (if 0 < recovery.badSectorCount then toHex recovery.badSectorBitmap else "")
          (declared / DVD_SECTOR_SIZE_BYTES)
        let result ← createDamagedDvdRecoveryResult declared ranges
        rejectIf (result.recoveredByteCount ≠
              declared - recovery.badSectorCount * DVD_SECTOR_SIZE_BYTES ∨
            result.badSectorCount ≠ recovery.badSectorCount ∨
            result.badAreaCount ≠ recovery.badAreaCount) RECOVERY_RESULT_MALFORMED
        return result := by
    have g1 : (recovery.snapshot declared).get "protocolVersion" = some (number 1) := rfl
    have g2 : (recovery.snapshot declared).get "declaredByteCount" = some (number declared) := rfl
    have g3 : (recovery.snapshot declared).get "recoveredByteCount" = some (number
        (declared - recovery.badSectorCount * DVD_SECTOR_SIZE_BYTES : Nat)) := rfl
    have g4 : (recovery.snapshot declared).get "recoveryPolicyVersion" =
        some (string DVD_RECOVERY_POLICY_VERSION) := rfl
    have g5 : (recovery.snapshot declared).get "badSectorCount" =
        some (number recovery.badSectorCount) := rfl
    have g6 : (recovery.snapshot declared).get "badAreaCount" =
        some (number recovery.badAreaCount) := rfl
    have g7 : (recovery.snapshot declared).get "badSectorBitmapHex" = some (string
        (if 0 < recovery.badSectorCount then toHex recovery.badSectorBitmap else "")) := rfl
    have hone : isNumber (some (number 1)) 1 = true := rfl
    rw [parseDvdRecoveryResultProtocol, g1, g2, g3, g4, g5, g6, g7, h1, h2, h3, hone, hnumber,
      isString_string]
    rfl
  rw [hprotocol]
  by_cases hzero : recovery.badSectorCount = 0
  · have hareas := h.areas_zero hzero
    refine ⟨createCleanDvdRecoveryResult declared, ?_, ?_, by simp [createCleanDvdRecoveryResult]⟩
    · simp [hzero, hareas, rejectIf, Bind.bind, Except.bind, Pure.pure, Except.pure]
    · simp [RecoveryState.ShownBy, createCleanDvdRecoveryResult, hzero, hareas]
  · have hpositive := Nat.pos_of_ne_zero hzero
    obtain ⟨runs, hparse, hapart, hbelow, hsum, hcount⟩ :=
      parseBadSectorBitmap_marked h (hsized hpositive) hbound
    have hruns : runs ≠ [] := by
      intro hnil
      rw [hnil] at hsum
      exact hzero hsum.symm
    have hcreate := createDamagedDvdRecoveryResult_runs hdeclared hapart hruns
    rw [hsum, hcount] at hcreate
    refine ⟨{
      outcome := .damaged
      declaredByteCount := declared
      recoveredByteCount := declared - recovery.badSectorCount * DVD_SECTOR_SIZE_BYTES
      badSectorCount := recovery.badSectorCount
      badAreaCount := recovery.badAreaCount
      unrecoveredSectorRanges := runs.map fun run => UnreadableSectorRange.mk run.1 run.2 },
      ?_, ⟨rfl, rfl, rfl, rfl⟩, ?_⟩
    · rw [if_neg hzero, if_pos hpositive, hparse]
      simp [hdeclared.sectors, hcreate, rejectIf, Bind.bind, Except.bind, Pure.pure, Except.pure]
    · intro range hrange
      obtain ⟨run, hrun, rfl⟩ := List.mem_map.1 hrange
      exact hbelow run hrun

/-- What holds of a failure and its boundary whenever a copy prints a terminal result. -/
structure TerminalResult (failure : ReadFailure) (recovery : Option RecoveryState)
    (declared retained : Nat) : Prop where
  classified : failure = classifyReadFailure failure.completion
  command : failure.completion.captured = failure.completion.commandCompleted
  terminal : backendReadHasTerminalFailureResult failure.status = true
  request : failure.completion.toReadRequest.Within (declared / DVD_SECTOR_SIZE_BYTES)
  bounded : failure.status = .outOfRangeError → retained ≤ declared
  sectors : failure.status = .outOfRangeError → retained % DVD_SECTOR_SIZE_BYTES = 0
  before : failure.status = .outOfRangeError → ∀ lba ∈ failure.sense.informationLba,
    retained = declared ∨ retained ≤ lba * DVD_SECTOR_SIZE_BYTES
  proven : failure.status = .outOfRangeError → ∀ state ∈ recovery, state.boundaryProven = true →
    ∀ lba ∈ failure.sense.informationLba, 0 < lba ∧ retained = lba * DVD_SECTOR_SIZE_BYTES ∧
      failure.completion.toReadRequest = ⟨lba, 1, 1⟩ ∧ state.Marked lba ∧
      (0 < state.badSectorCount →
        state.badSectorBitmap.length = (declared / DVD_SECTOR_SIZE_BYTES + 7) / 8)

/-- The category a result is printed with. -/
def ReadFailure.printedCategory (failure : ReadFailure) : ArchiveReadFailureCategory :=
  if failure.status = .outOfRangeError then .outOfRange else failure.category.archived

/-- A parsed result says what the reader decoded, classified and knew about its copy. -/
structure DvdReadFailureTerminalResult.Reports (result : DvdReadFailureTerminalResult)
    (failure : ReadFailure) (recovery : Option RecoveryState) (declared retained : Nat) : Prop where
  evidence : result.readFailure.toDvdReadFailureEvidence = failure.evidence
  category : result.readFailure.category = failure.printedCategory
  consistent : isArchiveReadFailureEvidenceConsistent result.readFailure.category
    result.readFailure.toArchiveReadFailureScsiEvidence = true
  boundary : result.readFailure.boundary = if failure.status = .outOfRangeError then some {
      declaredByteCount := declared
      firstFailingLba := failure.sense.informationLba.getD 0
      retainedImageByteCount := retained
      proof := if ∃ state ∈ recovery, state.boundaryProven = true then
        some ⟨2, failure.sense.informationLba.getD 0 - 1⟩ else none }
    else none
  snapshot : ∀ state ∈ recovery, failure.status = .outOfRangeError →
    state.includesRecoverySnapshot = true →
      ∃ recoveryResult ∈ result.recoveryResult, state.ShownBy declared recoveryResult

theorem consistent_of_normalized {evidence : DvdReadFailureEvidence}
    (h : normalizedReadFailureCategory evidence = .category category)
    (hplain : category ≠ .outOfRange) :
    isArchiveReadFailureEvidenceConsistent category evidence.toArchiveReadFailureScsiEvidence =
      true := by
  rw [isArchiveReadFailureEvidenceConsistent, if_neg hplain, Bool.or_eq_true,
    decide_eq_true_eq, decide_eq_true_eq]
  simp only [normalizedReadFailureCategory] at h
  split at h
  · exact .inr h
  · split at h
    · exact .inr h
    · cases h
      exact .inl rfl

theorem archived_ne_outOfRange (category : ReadFailureCategory) :
    category.archived ≠ .outOfRange := by
  cases category <;> simp [ReadFailureCategory.archived]

section

variable {failure : ReadFailure} {recovery : Option RecoveryState} {declared retained : Nat}

theorem TerminalResult.printable (h : TerminalResult failure recovery declared retained)
    (hdeclared : DeclaredByteCount declared) : failure.evidence.Printable := by
  have hmax : declared / DVD_SECTOR_SIZE_BYTES ≤ maxSafeInteger := by
    have hbounded := hdeclared.bounded
    simp only [MAX_DVD_CONTENT_BYTES, DVD_SECTOR_SIZE_BYTES, maxSafeInteger] at *
    omega
  rw [h.classified]
  exact classifyReadFailure_printable h.request hmax

theorem TerminalResult.accepted (h : TerminalResult failure recovery declared retained)
    (hdeclared : DeclaredByteCount declared) :
    failure.evidence.Accepted declared ↔ ¬failure.completion.CutAfterAsc := by
  have haccepted := accepted_iff hdeclared h.request
  rwa [← h.classified] at haccepted

/-- The parser on the line of a failure without a boundary. -/
theorem TerminalResult.parse_plain (h : TerminalResult failure recovery declared retained)
    (hdeclared : DeclaredByteCount declared) (hstatus : failure.status = .terminalFailure) :
    parseDvdReadFailureTerminalResultProtocol
        (emitReadFailureResult failure recovery declared retained) declared =
      if failure.completion.CutAfterAsc then .error READ_FAILURE_MALFORMED
      else .ok {
        readFailure := { failure.evidence with
          category := failure.category.archived
          boundary := none }
        recoveryResult := none } := by
  have hemit : emitReadFailureResult failure recovery declared retained =
      .object (readFailureFields failure 1 failure.category.name) := by
    rw [emitReadFailureResult, hstatus]
    rfl
  have hclassified := classifyReadFailure_classified h.command
  rw [← h.classified] at hclassified
  have hcarries := carries_fields failure failure.category.name []
  rw [List.append_nil] at hcarries
  have hnone : (Json.object (readFailureFields failure 1 failure.category.name)).get
      "recoveryProtocol" = none := rfl
  rw [hemit, parseDvdReadFailureTerminalResultProtocol, hnone]
  cases hclassified with
  | medium hother => rw [hstatus] at hother; cases hother
  | outOfRange hother => rw [hstatus] at hother; cases hother
  | terminal _ hnormalized hrange =>
    have hparse : parseDvdReadFailureResultProtocol
        (.object (readFailureFields failure 1 failure.category.name)) declared = _ :=
      parseProtocol_plain hcarries (h.printable hdeclared)
        (keys_plain failure failure.category) (readCategory_name failure.category)
        (archived_ne_outOfRange failure.category) hnormalized hrange
    simp only [h.accepted hdeclared] at hparse
    by_cases hcut : failure.completion.CutAfterAsc
    · simp [hparse, hcut, Bind.bind, Except.bind]
    · simp [hparse, hcut, Bind.bind, Except.bind, Pure.pure, Except.pure]

theorem sorted_outOfRange_keys :
    ["protocolVersion", "classifierVersion", "category", "scsiStatus", "hostStatus",
      "driverStatus", "senseResponseCode", "senseKey", "asc", "ascq", "informationLba",
      "requestedLba", "requestedBlockCount", "retryOrdinal", "declaredByteCount",
      "firstFailingLba", "retainedImageByteCount"].insertionSort (· ≤ ·) =
      DVD_OUT_OF_RANGE_FAILURE_PROTOCOL_KEYS := by
  decide

theorem sorted_proven_keys :
    ["protocolVersion", "classifierVersion", "category", "scsiStatus", "hostStatus",
      "driverStatus", "senseResponseCode", "senseKey", "asc", "ascq", "informationLba",
      "requestedLba", "requestedBlockCount", "retryOrdinal", "boundaryProofVersion",
      "candidateConfirmationCount", "precedingSectorLba", "declaredByteCount",
      "firstFailingLba", "retainedImageByteCount"].insertionSort (· ≤ ·) =
      DVD_PROVEN_OUT_OF_RANGE_FAILURE_PROTOCOL_KEYS := by
  decide

theorem sorted_moved_keys :
    ["classifierVersion", "category", "scsiStatus", "hostStatus",
      "driverStatus", "senseResponseCode", "senseKey", "asc", "ascq", "informationLba",
      "requestedLba", "requestedBlockCount", "retryOrdinal", "boundaryProofVersion",
      "candidateConfirmationCount", "precedingSectorLba", "declaredByteCount",
      "firstFailingLba", "retainedImageByteCount", "protocolVersion"].insertionSort (· ≤ ·) =
      DVD_PROVEN_OUT_OF_RANGE_FAILURE_PROTOCOL_KEYS := by
  decide

/-- A printed object that carries a boundary. -/
structure CarriesBoundary (candidate : Json) (declared lba retained : Nat) : Prop where
  declaredByteCount : candidate.get "declaredByteCount" = some (number declared)
  firstFailingLba : candidate.get "firstFailingLba" = some (number lba)
  retainedImageByteCount : candidate.get "retainedImageByteCount" = some (number retained)

/-- What an out-of-range failure and the image kept before it are to each other. -/
structure BoundaryKept (evidence : DvdReadFailureEvidence)
    (declared lba retained : Nat) : Prop where
  information : evidence.informationLba = some lba
  range : outOfRangeEvidence evidence = true
  safe : lba ≤ maxSafeInteger ∧ declared ≤ maxSafeInteger
  bounded : retained ≤ declared
  sectors : retained % DVD_SECTOR_SIZE_BYTES = 0
  before : retained = declared ∨ retained ≤ lba * DVD_SECTOR_SIZE_BYTES

theorem readBoundary_unproven {candidate : Json} {evidence : DvdReadFailureEvidence}
    (hc : CarriesBoundary candidate declared lba retained)
    (hk : BoundaryKept evidence declared lba retained)
    (hproof : hasBoundaryProof candidate = false) :
    readBoundary candidate evidence declared = .ok {
      declaredByteCount := declared
      firstFailingLba := lba
      retainedImageByteCount := retained
      proof := none } := by
  have h1 := safeNonNegativeInteger_number hk.safe.1
  have h2 := safeNonNegativeInteger_number (hk.bounded.trans hk.safe.2)
  have hbounded := hk.bounded
  have hbefore := hk.before
  have hkept : ¬(retained ≠ declared ∧ lba * DVD_SECTOR_SIZE_BYTES < retained) := by omega
  rw [ne_eq] at hkept
  simp [readBoundary, hc.declaredByteCount, hc.firstFailingLba, hc.retainedImageByteCount, h1, h2,
    hk.information, hk.range, hk.sectors, hkept, hproof, orThrow, rejectIf, Bind.bind, Except.bind,
    Pure.pure, Except.pure, Nat.not_lt.2 hbounded]

theorem readBoundary_proven {candidate : Json} {evidence : DvdReadFailureEvidence}
    (hc : CarriesBoundary candidate declared lba (lba * DVD_SECTOR_SIZE_BYTES))
    (hk : BoundaryKept evidence declared lba (lba * DVD_SECTOR_SIZE_BYTES))
    (hproof : hasBoundaryProof candidate = true)
    (hconfirmations : candidate.get "candidateConfirmationCount" = some (number 2))
    (hpreceding : candidate.get "precedingSectorLba" = some (number (lba - 1 : Nat)))
    (hpositive : 0 < lba) (hlba : evidence.requestedLba = lba)
    (hcount : evidence.requestedBlockCount = 1) (hretry : evidence.retryOrdinal = 1) :
    readBoundary candidate evidence declared = .ok {
      declaredByteCount := declared
      firstFailingLba := lba
      retainedImageByteCount := lba * DVD_SECTOR_SIZE_BYTES
      proof := some ⟨2, lba - 1⟩ } := by
  have h1 := safeNonNegativeInteger_number hk.safe.1
  have h2 := safeNonNegativeInteger_number (hk.bounded.trans hk.safe.2)
  have htwo : isNumber (some (number 2)) 2 = true := rfl
  simp only [readBoundary, hc.declaredByteCount, hc.firstFailingLba, hc.retainedImageByteCount, h1,
    h2, hconfirmations, hpreceding, htwo, isNumber_number]
  simp [hk.information, hk.range, hk.sectors, hproof, orThrow, rejectIf, Bind.bind, Except.bind,
    Pure.pure, Except.pure, Nat.not_lt.2 hk.bounded, hpositive.ne', hlba, hcount, hretry]

/-- What a terminal result with a boundary says about its evidence. -/
theorem TerminalResult.kept (h : TerminalResult failure recovery declared retained)
    (hdeclared : DeclaredByteCount declared) (hstatus : failure.status = .outOfRangeError) :
    ∃ lba, failure.sense.informationLba = some lba ∧
      BoundaryKept failure.evidence declared lba retained ∧ ¬failure.completion.CutAfterAsc := by
  have hclassified := classifyReadFailure_classified h.command
  rw [← h.classified] at hclassified
  have hmax : declared ≤ maxSafeInteger := by
    have hbounded := hdeclared.bounded
    simp only [MAX_DVD_CONTENT_BYTES, maxSafeInteger] at *
    omega
  cases hclassified with
  | terminal hother => rw [hstatus] at hother; cases hother
  | medium hother => rw [hstatus] at hother; cases hother
  | outOfRange _ hrange hinformation =>
    obtain ⟨lba, hlba⟩ := Option.isSome_iff_exists.1 hinformation
    refine ⟨lba, hlba, ?_, ?_⟩
    · exact ⟨hlba, hrange, ⟨(h.printable hdeclared).informationLba lba hlba, hmax⟩,
        h.bounded hstatus, h.sectors hstatus, h.before hstatus lba hlba⟩
    · rw [← decodeSense_cutAfterAsc]
      intro hcut
      have hsense : failure.sense = decodeSense failure.completion := by
        conv_lhs => rw [h.classified]
        rfl
      rw [h.classified, outOfRangeEvidence_evidence h.command] at hrange
      have hascq := hrange.2.2.2
      rw [hcut.2] at hascq
      cases hascq

/-- The read failure a boundary without a proof is parsed to. -/
def unprovenReadFailure (failure : ReadFailure) (declared lba retained : Nat) :
    DvdReadFailureResult :=
  { failure.evidence with
    category := .outOfRange
    boundary := some {
      declaredByteCount := declared
      firstFailingLba := lba
      retainedImageByteCount := retained
      proof := none } }

/-- The parser on the line of a boundary that was not proven. -/
theorem TerminalResult.parse_unproven (h : TerminalResult failure recovery declared retained)
    (hdeclared : DeclaredByteCount declared)
    (hk : BoundaryKept failure.evidence declared lba retained)
    (hcut : ¬failure.completion.CutAfterAsc) :
    parseDvdReadFailureTerminalResultProtocol
      (.object (readFailureFields failure 1 "out_of_range" ++
        boundaryFields failure declared retained)) declared = .ok {
      readFailure := unprovenReadFailure failure declared lba retained
      recoveryResult := none } := by
  have hlba : failure.sense.informationLba = some lba := hk.information
  have hcarries := carries_fields failure "out_of_range" (boundaryFields failure declared retained)
  have hnone : (Json.object (readFailureFields failure 1 "out_of_range" ++
      boundaryFields failure declared retained)).get "recoveryProtocol" = none := rfl
  have hboundary : CarriesBoundary (.object (readFailureFields failure 1 "out_of_range" ++
      boundaryFields failure declared retained)) declared lba retained := by
    constructor
    · rfl
    · show some (number (failure.sense.informationLba.getD 0)) = _
      rw [hlba]
      rfl
    · rfl
  have hparse := parseProtocol_boundary hcarries (h.printable hdeclared) sorted_outOfRange_keys rfl
    ((h.accepted hdeclared).2 hcut) (readBoundary_unproven hboundary hk rfl)
  rw [parseDvdReadFailureTerminalResultProtocol, hnone]
  simp only [hparse]
  rfl

/-- What is printed of a boundary that was proven, by the reader's side of the proof. -/
structure ProvenBoundary (failure : ReadFailure) (recovery : RecoveryState)
    (declared lba : Nat) : Prop where
  information : failure.sense.informationLba = some lba
  positive : 0 < lba
  request : failure.completion.toReadRequest = ⟨lba, 1, 1⟩
  marked : recovery.Marked lba
  within : lba ≤ declared / DVD_SECTOR_SIZE_BYTES
  sized : 0 < recovery.badSectorCount →
    recovery.badSectorBitmap.length = (declared / DVD_SECTOR_SIZE_BYTES + 7) / 8

/-- The read failure a proven boundary is parsed to. -/
def provenReadFailure (failure : ReadFailure) (declared lba : Nat) : DvdReadFailureResult :=
  { failure.evidence with
    category := .outOfRange
    boundary := some {
      declaredByteCount := declared
      firstFailingLba := lba
      retainedImageByteCount := lba * DVD_SECTOR_SIZE_BYTES
      proof := some ⟨2, lba - 1⟩ } }

theorem ProvenBoundary.readBoundary {state : RecoveryState} {candidate : Json}
    (h : ProvenBoundary failure state declared lba)
    (hk : BoundaryKept failure.evidence declared lba (lba * DVD_SECTOR_SIZE_BYTES))
    (hc : CarriesBoundary candidate declared lba (lba * DVD_SECTOR_SIZE_BYTES))
    (hproof : hasBoundaryProof candidate = true)
    (hconfirmations : candidate.get "candidateConfirmationCount" = some (number 2))
    (hpreceding : candidate.get "precedingSectorLba" = some (number (lba - 1 : Nat))) :
    readBoundary candidate failure.evidence declared = .ok {
      declaredByteCount := declared
      firstFailingLba := lba
      retainedImageByteCount := lba * DVD_SECTOR_SIZE_BYTES
      proof := some ⟨2, lba - 1⟩ } :=
  readBoundary_proven hc hk hproof hconfirmations hpreceding h.positive
    (congrArg ReadRequest.requestedLba h.request)
    (congrArg ReadRequest.requestedBlockCount h.request)
    (congrArg ReadRequest.retryOrdinal h.request)

theorem ProvenBoundary.isProven {state : RecoveryState}
    (h : ProvenBoundary failure state declared lba) :
    isProvenDvdBoundaryCandidate (provenReadFailure failure declared lba) = true := by
  have h1 : failure.evidence.requestedLba = lba := congrArg ReadRequest.requestedLba h.request
  have h2 : failure.evidence.requestedBlockCount = 1 :=
    congrArg ReadRequest.requestedBlockCount h.request
  have h3 : failure.evidence.retryOrdinal = 1 := congrArg ReadRequest.retryOrdinal h.request
  simp [isProvenDvdBoundaryCandidate, provenReadFailure, h1, h2, h3, h.positive]

/-- The parser on the line of a proven boundary without a snapshot. -/
theorem TerminalResult.parse_proven {state : RecoveryState}
    (h : TerminalResult failure recovery declared (lba * DVD_SECTOR_SIZE_BYTES))
    (hdeclared : DeclaredByteCount declared)
    (hk : BoundaryKept failure.evidence declared lba (lba * DVD_SECTOR_SIZE_BYTES))
    (hcut : ¬failure.completion.CutAfterAsc) (hp : ProvenBoundary failure state declared lba) :
    parseDvdReadFailureTerminalResultProtocol
      (.object (readFailureFields failure 1 "out_of_range" ++
        boundaryProofFields failure ++
        boundaryFields failure declared (lba * DVD_SECTOR_SIZE_BYTES))) declared = .ok {
      readFailure := provenReadFailure failure declared lba
      recoveryResult := none } := by
  have hcarries := carries_fields failure "out_of_range" (boundaryProofFields failure ++
    boundaryFields failure declared (lba * DVD_SECTOR_SIZE_BYTES))
  rw [← List.append_assoc] at hcarries
  have hnone : (Json.object (readFailureFields failure 1 "out_of_range" ++
      boundaryProofFields failure ++
      boundaryFields failure declared (lba * DVD_SECTOR_SIZE_BYTES))).get "recoveryProtocol" =
        none := rfl
  have hboundary : CarriesBoundary (.object (readFailureFields failure 1 "out_of_range" ++
      boundaryProofFields failure ++
      boundaryFields failure declared (lba * DVD_SECTOR_SIZE_BYTES))) declared lba
        (lba * DVD_SECTOR_SIZE_BYTES) := by
    constructor
    · rfl
    · show some (number (failure.sense.informationLba.getD 0)) = _
      rw [hp.information]
      rfl
    · rfl
  have hpreceding : (Json.object (readFailureFields failure 1 "out_of_range" ++
      boundaryProofFields failure ++
      boundaryFields failure declared (lba * DVD_SECTOR_SIZE_BYTES))).get "precedingSectorLba" =
        some (number (lba - 1 : Nat)) := by
    show some (number (failure.sense.informationLba.getD 0 - 1 : Nat)) = _
    rw [hp.information]
    rfl
  have hparse := parseProtocol_boundary hcarries (h.printable hdeclared) sorted_proven_keys rfl
    ((h.accepted hdeclared).2 hcut) (hp.readBoundary hk hboundary rfl rfl hpreceding)
  rw [parseDvdReadFailureTerminalResultProtocol, hnone]
  simp only [hparse]
  rfl

/-- The read failure inside a line with a snapshot, as the parser writes it out again. -/
def movedProtocol (failure : ReadFailure) (declared retained : Nat) : Json :=
  .object ((readFailureFields failure 1 "out_of_range").drop 1 ++ boundaryProofFields failure ++
    boundaryFields failure declared retained ++ [("protocolVersion", number 1)])

theorem carries_moved (failure : ReadFailure) (declared retained : Nat) :
    Carries (movedProtocol failure declared retained) failure.evidence := by
  constructor <;> rfl

/-- The parser on the line of a proven boundary with a snapshot of the copy. -/
theorem TerminalResult.parse_snapshot {state : RecoveryState}
    (h : TerminalResult failure recovery declared (lba * DVD_SECTOR_SIZE_BYTES))
    (hdeclared : DeclaredByteCount declared)
    (hk : BoundaryKept failure.evidence declared lba (lba * DVD_SECTOR_SIZE_BYTES))
    (hcut : ¬failure.completion.CutAfterAsc) (hp : ProvenBoundary failure state declared lba) :
    ∃ recoveryResult, parseDvdReadFailureTerminalResultProtocol
        (.object (readFailureFields failure 2 "out_of_range" ++ boundaryProofFields failure ++
          boundaryFields failure declared (lba * DVD_SECTOR_SIZE_BYTES) ++
          [("recoveryProtocol", state.snapshot declared)])) declared = .ok {
        readFailure := provenReadFailure failure declared lba
        recoveryResult := some recoveryResult } ∧
      state.ShownBy declared recoveryResult := by
  obtain ⟨recoveryResult, hrecovery, hshown, hranges⟩ :=
    RipDvd.parse_snapshot hdeclared hp.marked hp.within hp.sized
  refine ⟨recoveryResult, ?_, hshown⟩
  have hboundary : CarriesBoundary (movedProtocol failure declared (lba * DVD_SECTOR_SIZE_BYTES))
      declared lba (lba * DVD_SECTOR_SIZE_BYTES) := by
    constructor
    · rfl
    · show some (number (failure.sense.informationLba.getD 0)) = _
      rw [hp.information]
      rfl
    · rfl
  have hpreceding : (movedProtocol failure declared (lba * DVD_SECTOR_SIZE_BYTES)).get
      "precedingSectorLba" = some (number (lba - 1 : Nat)) := by
    show some (number (failure.sense.informationLba.getD 0 - 1 : Nat)) = _
    rw [hp.information]
    rfl
  have hparse := parseProtocol_boundary (carries_moved failure declared _)
    (h.printable hdeclared) sorted_moved_keys rfl ((h.accepted hdeclared).2 hcut)
    (hp.readBoundary hk hboundary rfl rfl hpreceding)
  have hsome : (Json.object (readFailureFields failure 2 "out_of_range" ++
      boundaryProofFields failure ++ boundaryFields failure declared
        (lba * DVD_SECTOR_SIZE_BYTES) ++
      [("recoveryProtocol", state.snapshot declared)])).get "recoveryProtocol" =
        some (state.snapshot declared) := rfl
  have hversion : isNumber ((Json.object (readFailureFields failure 2 "out_of_range" ++
      boundaryProofFields failure ++ boundaryFields failure declared
        (lba * DVD_SECTOR_SIZE_BYTES) ++
      [("recoveryProtocol", state.snapshot declared)])).get "protocolVersion") 2 = true := rfl
  have hmoved : (((Json.object (readFailureFields failure 2 "out_of_range" ++
      boundaryProofFields failure ++ boundaryFields failure declared
        (lba * DVD_SECTOR_SIZE_BYTES) ++
      [("recoveryProtocol", state.snapshot declared)])).erase "recoveryProtocol").erase
        "protocolVersion").insert "protocolVersion" (number 1) =
      movedProtocol failure declared (lba * DVD_SECTOR_SIZE_BYTES) := rfl
  have hfine : ¬(¬isProvenDvdBoundaryCandidate (provenReadFailure failure declared lba) = true ∨
      ∃ boundary ∈ (provenReadFailure failure declared lba).boundary,
        ∃ range ∈ recoveryResult.unrecoveredSectorRanges,
          boundary.firstFailingLba < range.startLba + range.sectorCount) := by
    intro hbad
    cases hbad with
    | inl hnot => exact hnot hp.isProven
    | inr hover =>
      obtain ⟨boundary, hboundary, range, hrange, hlt⟩ := hover
      cases hboundary
      exact absurd (hranges range hrange) (Nat.not_le.2 hlt)
  have hparse' : parseDvdReadFailureResultProtocol
      (movedProtocol failure declared (lba * DVD_SECTOR_SIZE_BYTES)) declared =
        .ok (provenReadFailure failure declared lba) := hparse
  rw [parseDvdReadFailureTerminalResultProtocol, hsome]
  simp only [hmoved, hparse', hrecovery, hversion, rejectIf, not_true_eq_false, if_false,
    Bind.bind, Except.bind, if_neg hfine]
  rfl

theorem outOfRange_consistent {evidence : DvdReadFailureEvidence}
    (h : outOfRangeEvidence evidence = true) :
    isArchiveReadFailureEvidenceConsistent .outOfRange
      evidence.toArchiveReadFailureScsiEvidence = true := by
  rw [outOfRangeEvidence, Bool.and_eq_true] at h
  exact h.1

/-- A result without a boundary is reported unless its sense data is cut after its ASC. -/
theorem TerminalResult.reports_plain (h : TerminalResult failure recovery declared retained)
    (hdeclared : DeclaredByteCount declared) (hstatus : failure.status = .terminalFailure)
    (hcut : ¬failure.completion.CutAfterAsc) :
    ∃ result, parseDvdReadFailureTerminalResultProtocol
        (emitReadFailureResult failure recovery declared retained) declared = .ok result ∧
      result.Reports failure recovery declared retained := by
  have hclassified := classifyReadFailure_classified h.command
  rw [← h.classified] at hclassified
  have hnot : failure.status ≠ .outOfRangeError := by
    rw [hstatus]
    simp
  have hprinted : failure.printedCategory = failure.category.archived := if_neg hnot
  rw [h.parse_plain hdeclared hstatus, if_neg hcut]
  refine ⟨_, rfl, rfl, hprinted.symm, ?_, (if_neg hnot).symm, fun _ _ hother => absurd hother hnot⟩
  cases hclassified with
  | medium hother => exact absurd (hstatus.symm.trans hother) (by simp)
  | outOfRange hother => exact absurd hother hnot
  | terminal _ hnormalized _ =>
    exact consistent_of_normalized hnormalized (archived_ne_outOfRange _)

/-- A result with a boundary is always reported. -/
theorem TerminalResult.reports_boundary (h : TerminalResult failure recovery declared retained)
    (hdeclared : DeclaredByteCount declared) (hstatus : failure.status = .outOfRangeError) :
    ∃ result, parseDvdReadFailureTerminalResultProtocol
        (emitReadFailureResult failure recovery declared retained) declared = .ok result ∧
      result.Reports failure recovery declared retained := by
  obtain ⟨lba, hlba, hk, hcut⟩ := h.kept hdeclared hstatus
  have hprinted : failure.printedCategory = .outOfRange := if_pos hstatus
  have hconsistent := outOfRange_consistent hk.range
  rw [emitReadFailureResult, if_pos hstatus]
  cases recovery with
  | none =>
    refine ⟨_, h.parse_unproven hdeclared hk hcut, rfl, hprinted.symm, hconsistent, ?_, by simp⟩
    rw [if_pos hstatus, hlba]
    simp [unprovenReadFailure]
  | some state =>
    have hinside := h.request.inside
    by_cases hproven : state.boundaryProven = true
    · obtain ⟨hpositive, hretained, hrequest, hmarked, hsized⟩ :=
        h.proven hstatus state rfl hproven lba hlba
      have hwithin : lba ≤ declared / DVD_SECTOR_SIZE_BYTES := by
        rw [hrequest] at hinside
        simp only at hinside
        omega
      have hp : ProvenBoundary failure state declared lba :=
        ⟨hlba, hpositive, hrequest, hmarked, hwithin, hsized⟩
      have hboundary : (provenReadFailure failure declared lba).boundary =
          if failure.status = .outOfRangeError then some {
            declaredByteCount := declared
            firstFailingLba := failure.sense.informationLba.getD 0
            retainedImageByteCount := retained
            proof := if ∃ other ∈ some state, other.boundaryProven = true then
              some ⟨2, failure.sense.informationLba.getD 0 - 1⟩ else none }
          else none := by
        rw [if_pos hstatus, hlba, if_pos ⟨state, rfl, hproven⟩, hretained]
        rfl
      rw [hretained] at h hk
      by_cases hsnapshot : state.includesRecoverySnapshot = true
      · obtain ⟨recoveryResult, hparse, hshown⟩ := h.parse_snapshot hdeclared hk hcut hp
        refine ⟨{
          readFailure := provenReadFailure failure declared lba
          recoveryResult := some recoveryResult }, ?_, rfl, hprinted.symm, hconsistent,
            hboundary, ?_⟩
        · rw [hretained]
          simpa [hsnapshot] using hparse
        · intro other hother _ _
          cases hother
          exact ⟨recoveryResult, rfl, hshown⟩
      · refine ⟨{
          readFailure := provenReadFailure failure declared lba
          recoveryResult := none }, ?_, rfl, hprinted.symm, hconsistent, hboundary, ?_⟩
        · rw [hretained]
          simpa [hsnapshot, hproven] using h.parse_proven hdeclared hk hcut hp
        · intro other hother _ hother'
          cases hother
          exact absurd hother' hsnapshot
    · have hplain : ¬state.includesRecoverySnapshot = true := by
        simp [RecoveryState.includesRecoverySnapshot, hproven]
      refine ⟨{
        readFailure := unprovenReadFailure failure declared lba retained
        recoveryResult := none }, ?_, rfl, hprinted.symm, hconsistent, ?_, ?_⟩
      · simpa [hplain, hproven] using h.parse_unproven hdeclared hk hcut
      · rw [if_pos hstatus, hlba]
        simp [hproven, unprovenReadFailure]
      · intro other hother _ hother'
        cases hother
        exact absurd hother' hplain

end

end RipDvd
