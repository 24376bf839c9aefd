import RipDvd.Bitmap
import RipDvd.CanonicalJson
import RipDvd.Faults
import RipDvd.Protection
import RipDvd.SourceRanges

namespace RipDvd
set_option autoImplicit true

open Json

def DVD_RECOVERY_STORAGE_PREFLIGHT_VERSION : String := "dvd-recovery-storage-preflight-v1"
def DVD_RECOVERY_ATOMIC_WRITE_CONTRACT : String := "linux-rwf-atomic-v1"

inductive DvdRecoveryStoragePreflightStatus where
  | supported
  | unsupported
  | failedPrerequisite
  deriving DecidableEq

def DvdRecoveryStoragePreflightStatus.value : DvdRecoveryStoragePreflightStatus → String
  | .supported => "supported"
  | .unsupported => "unsupported"
  | .failedPrerequisite => "failed_prerequisite"

inductive DvdRecoveryStorageReasonCode where
  | storageUnsupported
  | storageInspectionFailed
  | journalCapacityInsufficient
  | journalReservationFailed
  | journalSyncFailed
  | imageSyncFailed
  | checkpointSyncFailed
  | checkpointReplacementFailed
  | directorySyncFailed
  | writerExclusionFailed
  | preflightCleanupFailed
  deriving DecidableEq

inductive DvdRecoveryStorageClass where
  | localStorage
  | network
  | unknown
  deriving DecidableEq

inductive DvdRecoveryStorageCapabilityState where
  | verified
  | failed
  | notTested
  deriving DecidableEq

inductive DvdRecoveryNetworkCapabilityState where
  | verified
  | notApplicable
  | unproven
  deriving DecidableEq

/-- What a preflight found; no mutation protection when it is unproven. -/
structure DvdRecoveryStoragePreflightFacts where
  filesystemType : String
  storageClass : DvdRecoveryStorageClass
  mutationProtection : Option DvdRecoveryMutationProtection
  journalReservationBytes : Nat
  journalPayloadBytes : Nat
  journalReservation : DvdRecoveryStorageCapabilityState
  journalSynchronization : DvdRecoveryStorageCapabilityState
  imageSynchronization : DvdRecoveryStorageCapabilityState
  checkpointSynchronization : DvdRecoveryStorageCapabilityState
  checkpointReplacement : DvdRecoveryStorageCapabilityState
  directorySynchronization : DvdRecoveryStorageCapabilityState
  crossProcessWriterExclusion : DvdRecoveryStorageCapabilityState
  crossHostWriterExclusion : DvdRecoveryNetworkCapabilityState
  disconnectionBehavior : DvdRecoveryNetworkCapabilityState

structure DvdRecoveryStoragePreflightInput where
  contractVersion : String
  status : DvdRecoveryStoragePreflightStatus
  reasonCode : Option DvdRecoveryStorageReasonCode
  facts : DvdRecoveryStoragePreflightFacts

/-- The row that the catalog keeps of a preflight. -/
def DvdRecoveryStoragePreflightInput.row (input : DvdRecoveryStoragePreflightInput) :
    DvdRecoveryStoragePreflight where
  status := input.status.value
  mutationProtection := input.facts.mutationProtection

/-- `Math.log2` is rounded, but not to an integer for any number near the bounds it is used with. -/
def isPowerOfTwo (value : Nat) : Bool :=
  value ≤ maxSafeInteger && 0 < value && 2 ^ Nat.log2 value = value

def DvdRecoveryStoragePreflightFacts.requiredCapabilities
    (facts : DvdRecoveryStoragePreflightFacts) : List DvdRecoveryStorageCapabilityState :=
  [facts.journalReservation, facts.journalSynchronization, facts.imageSynchronization,
    facts.checkpointSynchronization, facts.checkpointReplacement,
    facts.directorySynchronization, facts.crossProcessWriterExclusion]

def DvdRecoveryStoragePreflightFacts.networkProofIsValid
    (facts : DvdRecoveryStoragePreflightFacts) : Bool :=
  facts.storageClass = .localStorage ||
    (facts.storageClass = .network && facts.crossHostWriterExclusion = .verified &&
      facts.disconnectionBehavior = .verified)

/-- The checks that the types of the facts do not make themselves. -/
def assertDvdRecoveryStoragePreflightInput (input : DvdRecoveryStoragePreflightInput) :
    Except String Unit := do
  let facts := input.facts
  rejectIf (input.contractVersion ≠ DVD_RECOVERY_STORAGE_PREFLIGHT_VERSION)
    "DVD recovery storage preflight identity is invalid"
  rejectIf (facts.filesystemType.length < 1 ∨ facts.filesystemType.length > 128 ∨
      facts.journalReservationBytes ≠ DVD_RECOVERY_JOURNAL_RESERVATION_BYTES ∨
      facts.journalPayloadBytes ≠ DVD_RECOVERY_JOURNAL_PAYLOAD_BYTES)
    "DVD recovery storage preflight facts are invalid"
  rejectIf ((facts.storageClass = .localStorage ∧
        (facts.crossHostWriterExclusion ≠ .notApplicable ∨
          facts.disconnectionBehavior ≠ .notApplicable)) ∨
      (facts.storageClass = .network ∧ (facts.crossHostWriterExclusion = .notApplicable ∨
        facts.disconnectionBehavior = .notApplicable)))
    "DVD recovery storage network facts are invalid"
  rejectIf (∃ protection ∈ facts.mutationProtection,
      protection.contract ≠ DVD_RECOVERY_ATOMIC_WRITE_CONTRACT ∨
        ¬isPowerOfTwo protection.unitBytes ∨ ¬isPowerOfTwo protection.memoryAlignmentBytes ∨
        protection.memoryAlignmentBytes > DVD_RECOVERY_JOURNAL_RESERVATION_BYTES)
    "DVD recovery storage mutation protection is invalid"
  match input.status with
  | .supported =>
    rejectIf (input.reasonCode ≠ none ∨ facts.storageClass = .unknown ∨
        facts.mutationProtection = none ∨
        (∃ protection ∈ facts.mutationProtection,
          protection.unitBytes > DVD_RECOVERY_JOURNAL_PAYLOAD_BYTES) ∨
        (∃ state ∈ facts.requiredCapabilities, state ≠ .verified) ∨ ¬facts.networkProofIsValid)
      "Supported DVD recovery storage preflight is incomplete"
  | .unsupported =>
    rejectIf (input.reasonCode ≠ some .storageUnsupported)
      "Unsupported DVD recovery storage reason is invalid"
  | .failedPrerequisite =>
    rejectIf (input.reasonCode = none ∨ input.reasonCode = some .storageUnsupported)
      "Failed DVD recovery storage prerequisite reason is invalid"

/-- A storage unit that one journal can protect. -/
structure SupportedUnit (unit : Nat) : Prop where
  power : ∃ k, unit = 2 ^ k
  bounded : unit ≤ DVD_RECOVERY_JOURNAL_PAYLOAD_BYTES

theorem supported_protection (h : assertDvdRecoveryStoragePreflightInput input = .ok ())
    (hs : input.status = .supported) :
    ∃ protection, input.facts.mutationProtection = some protection ∧
      SupportedUnit protection.unitBytes := by
  simp only [assertDvdRecoveryStoragePreflightInput, hs, bind_ok, rejectIf_ok, not_or] at h
  obtain ⟨_, -, _, -, _, -, _, hvalid, -, -, hsome, hbound, -⟩ := h
  obtain ⟨protection, hp⟩ := Option.ne_none_iff_exists'.1 hsome
  have hpow : isPowerOfTwo protection.unitBytes = true := by
    by_contra hn
    exact hvalid ⟨protection, hp, .inr (.inl hn)⟩
  simp only [isPowerOfTwo, Bool.and_eq_true, decide_eq_true_eq] at hpow
  exact ⟨protection, hp, ⟨_, hpow.2.symm⟩,
    Nat.le_of_not_lt fun hlt => hbound ⟨protection, hp, hlt⟩⟩

/-- The sector's units are inside the image exactly when whole units of the image hold it. -/
theorem unitEnd_le_iff (hu : 0 < unit) :
    unitEnd sectorStart unit ≤ published ↔ sectorStart + 2048 ≤ published / unit * unit := by
  obtain ⟨count, -, -, -, hhi⟩ := unitEnd_eq sectorStart hu
  constructor
  · intro h
    refine hhi.trans (Nat.mul_le_mul_right unit ?_)
    exact (Nat.le_div_iff_mul_le hu).2 h
  · intro h
    refine le_trans (Nat.mul_le_mul_right unit ?_) (Nat.div_mul_le_self published unit)
    exact Nat.le_of_lt_succ ((Nat.div_lt_iff_lt_mul hu).2 (by rw [Nat.succ_mul]; omega))

/-- The units of a sector never fill the journal, whatever their size. -/
theorem SupportedUnit.protected_le (h : SupportedUnit unit) (lba : Nat) :
    unitEnd (lba * 2048) unit - unitStart (lba * 2048) unit ≤
      DVD_RECOVERY_JOURNAL_PAYLOAD_BYTES := by
  obtain ⟨k, rfl⟩ := h.power
  have hbound := h.bounded
  rcases Nat.le_total k 11 with hk | hk
  · -- the sector is made of whole units
    have hdvd : 2 ^ k ∣ 2048 := Nat.pow_dvd_pow 2 hk
    have hstart : unitStart (lba * 2048) (2 ^ k) = lba * 2048 :=
      Nat.div_mul_cancel (Dvd.dvd.mul_left hdvd lba)
    have hend : unitEnd (lba * 2048) (2 ^ k) ≤ (lba + 1) * 2048 := by
      rw [unitEnd_le_iff (Nat.two_pow_pos k), Nat.div_mul_cancel (Dvd.dvd.mul_left hdvd _)]
      omega
    have hsector : 2048 ≤ DVD_RECOVERY_JOURNAL_PAYLOAD_BYTES := by decide
    omega
  · -- the unit is made of whole sectors, one of them the sector
    obtain ⟨m, hm⟩ : 2048 ∣ 2 ^ k := Nat.pow_dvd_pow 2 hk
    have hpos : 0 < m := Nat.pos_of_ne_zero fun hz => by
      rw [hz] at hm
      exact absurd hm (Nat.two_pow_pos k).ne'
    have hinside : lba * 2048 + 2048 ≤ (lba / m + 1) * m * 2048 := by
      rw [← Nat.succ_mul]
      exact Nat.mul_le_mul_right 2048 (Nat.lt_div_mul_add hpos |>.trans_eq (Nat.succ_mul _ _).symm)
    have hstart : unitStart (lba * 2048) (2 ^ k) = lba / m * m * 2048 := by
      rw [unitStart, hm, Nat.mul_comm 2048 m, Nat.mul_div_mul_right _ _ (by decide), Nat.mul_assoc]
    have hend : unitEnd (lba * 2048) (2 ^ k) ≤ (lba / m + 1) * 2 ^ k := by
      rw [unitEnd_le_iff (Nat.two_pow_pos k), Nat.mul_div_cancel _ (Nat.two_pow_pos k), hm,
        Nat.mul_comm 2048 m, ← Nat.mul_assoc]
      exact hinside
    have hunit : (lba / m + 1) * 2 ^ k = lba / m * m * 2048 + 2 ^ k := by
      rw [Nat.succ_mul, hm, Nat.mul_comm 2048 m, Nat.mul_assoc]
    omega

/-- The sixty-four digits of a digest. -/
def digestText (digest : Digest) : String :=
  String.ofList ((List.range 64).map fun i =>
    hexDigits.getD (digest.toNat / 16 ^ (63 - i) % 16) '0')

def UnrecoveredSourceRange.json (range : UnrecoveredSourceRange) : Json :=
  .object [
    ("startLba", number range.startLba),
    ("sectorCount", number range.sectorCount),
    ("classification", string range.classification.text)]

def DvdRecoveryJournalRange.json (range : DvdRecoveryJournalRange) : Json :=
  .object [
    ("startByte", number range.startByte),
    ("byteCount", number range.byteCount),
    ("unitBytes", number range.unitBytes),
    ("beforeDigest", string (digestText range.beforeDigest)),
    ("afterDigest", string (digestText range.afterDigest)),
    ("payloadOffset", number range.payloadOffset)]

def DvdRecoveryJournalBase.json (base : DvdRecoveryJournalBase) : Json :=
  .object [
    ("manifestId", string base.manifestId),
    ("revision", number base.revision),
    ("manifestDigest", string (digestText base.manifestDigest)),
    ("publicationDigest", string (digestText base.publicationDigest)),
    ("unrecoveredSourceRanges", .array (base.unrecoveredSourceRanges.map (·.json)))]

def DvdRecoveryJournalMetadata.json (metadata : DvdRecoveryJournalMetadata) : Json :=
  .object [
    ("version", string "dvd-recovery-journal-v1"),
    ("originalDiscArchiveId", string metadata.originalDiscArchiveId),
    ("image", .object [
      ("filesystemIdentity", string (toString metadata.image.filesystemIdentity.dev ++ ":" ++
        toString metadata.image.filesystemIdentity.ino)),
      ("mtimeNs", string (toString metadata.image.mtimeNs)),
      ("sizeBytes", number metadata.imageSizeBytes)]),
    ("base", metadata.base.json),
    ("recoveryRead", .object [
      ("id", string metadata.recoveryRead.id),
      ("startLba", number metadata.recoveryRead.startLba),
      ("sectorCount", number metadata.recoveryRead.sectorCount),
      ("outcome", string "recovered"),
      ("sourceBytesDigest", string (digestText metadata.recoveryRead.sourceBytesDigest))]),
    ("protectedRanges", .array (metadata.protectedRanges.map (·.json))),
    ("journalDigest", string (digestText metadata.journalDigest))]

/-- The bytes that the journal's metadata take. -/
def journalMetadataLength (metadata : DvdRecoveryJournalMetadata) : Nat :=
  metadata.json.canonicalSize

theorem UnrecoveredSourceRange.json_size (range : UnrecoveredSourceRange) :
    60 ≤ range.json.canonicalSize := by
  have hobject := canonicalSize_object [("startLba", number range.startLba),
    ("sectorCount", number range.sectorCount),
    ("classification", string range.classification.text)]
  have hstart : (quote "startLba").utf8ByteSize = 10 := by decide
  have hcount : (quote "sectorCount").utf8ByteSize = 13 := by decide
  have hkey : (quote "classification").utf8ByteSize = 16 := by decide
  have hclass : 18 ≤ (string range.classification.text).canonicalSize := by
    cases range.classification <;> decide
  simp only [List.map_cons, List.map_nil, List.sum_cons, List.sum_nil, hstart, hcount, hkey]
    at hobject
  rw [UnrecoveredSourceRange.json]
  omega

/-- A map of a thousand and a hundred ranges leaves no room for the rest of the metadata. -/
theorem journalMetadataLength_ranges (metadata : DvdRecoveryJournalMetadata) :
    60 * metadata.base.unrecoveredSourceRanges.length ≤ journalMetadataLength metadata := by
  have hranges : metadata.base.unrecoveredSourceRanges.length * 60 ≤
      ((metadata.base.unrecoveredSourceRanges.map (·.json)).map canonicalSize).sum := by
    have := List.card_nsmul_le_sum
      ((metadata.base.unrecoveredSourceRanges.map (·.json)).map canonicalSize) 60 fun size hs => by
        obtain ⟨_, hj, rfl⟩ := List.mem_map.1 hs
        obtain ⟨range, -, rfl⟩ := List.mem_map.1 hj
        exact range.json_size
    simpa using this
  have harray := canonicalSize_array (metadata.base.unrecoveredSourceRanges.map (·.json))
  have hbase : (Json.array (metadata.base.unrecoveredSourceRanges.map (·.json))).canonicalSize ≤
      metadata.base.json.canonicalSize :=
    canonicalSize_field (List.mem_of_getElem? (i := 4) rfl)
  have hmetadata : metadata.base.json.canonicalSize ≤ journalMetadataLength metadata :=
    canonicalSize_field (List.mem_of_getElem? (i := 3) rfl)
  omega

/-! Faults that are not about the journal's capacity. -/

def CapacityFault (fault : DvdRecoveryBatchFault) : Prop :=
  fault.code = .journalCapacityInsufficient

variable {sha256 : Hashed → Digest} {metadataLength : DvdRecoveryJournalMetadata → Nat}

theorem consistencyFault_spares : ¬CapacityFault consistencyFault := by
  simp [CapacityFault, consistencyFault, batchFault]

theorem withConsistencyFault_spares {x : Except ε α}
    (h : withError (fun _ => consistencyFault) x = .error fault) : ¬CapacityFault fault := by
  cases x with
  | ok => exact nomatch h
  | error e =>
    cases h
    exact consistencyFault_spares

theorem rejectIf_error {bad : Prop} [Decidable bad] (h : rejectIf bad e = .error e') : e' = e := by
  rw [rejectIf] at h
  split at h
  · exact (Except.error.inj h).symm
  · cases h

theorem bind_error {x : Except ε α} {f : α → Except ε β} :
    x >>= f = .error e ↔ x = .error e ∨ ∃ a, x = .ok a ∧ f a = .error e := by
  cases x with
  | error e' => exact ⟨fun h => .inl (Except.error.inj h ▸ rfl), fun h => by
      rcases h with h | ⟨_, h, _⟩
      · exact Except.error.inj h ▸ rfl
      · exact nomatch h⟩
  | ok a => exact ⟨fun h => .inr ⟨a, rfl, h⟩, fun h => by
      rcases h with h | ⟨_, h, hf⟩
      · exact nomatch h
      · cases h
        exact hf⟩

theorem assertRecoveryWorkClaim_spares (h : assertRecoveryWorkClaim o c = .error fault) :
    ¬CapacityFault fault := by
  rcases bind_error.1 h with h | ⟨_, _, h⟩
  · exact rejectIf_error h ▸ consistencyFault_spares
  · exact withConsistencyFault_spares h

theorem assertMayMutate_spares (h : assertMayMutate o requireBase w = .error fault) :
    ¬CapacityFault fault := by
  rcases bind_error.1 h with h | ⟨_, _, h⟩
  · exact assertRecoveryWorkClaim_spares h
  · rcases bind_error.1 h with h | ⟨_, _, h⟩
    · exact withConsistencyFault_spares h
    · rw [rejectIf_error h]
      simp [CapacityFault, batchFault]

theorem assertClaimed_spares (h : assertClaimed o w = .error fault) : ¬CapacityFault fault := by
  rcases bind_error.1 h with h | ⟨_, _, h⟩
  · exact assertRecoveryWorkClaim_spares h
  · exact nomatch h

theorem batchStep_spares {work : BatchProgram α} (h : work.Avoids CapacityFault) :
    (batchStep o requireBase work).Avoids CapacityFault := by
  have hmay : (Program.read (assertMayMutate o requireBase)).Avoids CapacityFault :=
    .read fun _ _ => assertMayMutate_spares
  have hclaimed : (Program.read (assertClaimed o)).Avoids CapacityFault :=
    .read fun _ _ => assertClaimed_spares
  refine hmay.bind fun _ => hmay.bind fun _ => .mapError ?_
  exact h.bind fun result => hclaimed.bind fun _ => hclaimed.bind fun _ => .pure result

theorem createExclusively_spares :
    (createExclusively present create).Avoids CapacityFault := by
  apply Program.Avoids.transaction
  intro w e h
  split at h
  · cases h
    exact consistencyFault_spares
  · exact nomatch h

theorem installImmutableRecord_spares :
    (installImmutableRecord pid manifest).Avoids CapacityFault := by
  have hread : (Program.read fun w : World => Except.ok (w.disk.manifests manifest.revision) :
      BatchProgram _).Avoids CapacityFault := .read fun _ _ h => nomatch h
  refine hread.bind fun existing => ?_
  cases existing with
  | some record =>
    simp only
    split
    · exact .fail consistencyFault_spares
    · exact .pure ()
  | none =>
    exact createExclusively_spares.bind fun _ => (Program.Avoids.modify _).bind fun _ =>
      createExclusively_spares.ensure (.modify _)

theorem replacePointer_spares : (replacePointer pid pointer).Avoids CapacityFault := by
  refine createExclusively_spares.bind fun _ => (Program.Avoids.modify _).bind fun _ =>
    (Program.Avoids.modify _).bind fun _ => (Program.Avoids.modify _).bind fun _ => .read ?_
  intro w e h
  exact rejectIf_error h ▸ consistencyFault_spares

theorem catalogTransaction_spares {f : Catalog → Except DomainError (α × Catalog)} :
    (catalogTransaction f).Avoids CapacityFault := by
  apply Program.Avoids.transaction
  intro w e h
  cases hf : f w.catalog with
  | ok r =>
    rw [hf] at h
    exact nomatch h
  | error e' =>
    rw [hf] at h
    cases h
    exact consistencyFault_spares

theorem commitManifest_spares :
    (commitManifest sha256 o admitted mutation).Avoids CapacityFault := by
  have hmanifest := Program.Avoids.read (F := CapacityFault) (f := fun _ : World =>
    withError (fun _ => consistencyFault) do
      let nextRanges ← dvdEvidenceRangesAfterRecoveryRead
        admitted.current.manifest.unrecoveredSourceRanges o.observation.startLba
        o.observation.outcome
      recoveryManifestFor sha256 admitted.current admitted.recoveryRead mutation nextRanges)
    fun _ _ h => withConsistencyFault_spares h
  refine hmanifest.bind fun manifest => ?_
  refine (batchStep_spares installImmutableRecord_spares).bind fun _ => ?_
  refine (batchStep_spares ?_).bind fun _ => ?_
  · exact (Program.Avoids.read fun w e h =>
      rejectIf_error h ▸ consistencyFault_spares).bind fun _ => replacePointer_spares
  · exact (batchStep_spares catalogTransaction_spares).bind fun header => .pure _

theorem unlinkJournal_spares : unlinkJournal.Avoids CapacityFault := by
  apply Program.Avoids.transaction
  intro w e h
  split at h
  · cases h
    exact consistencyFault_spares
  · exact nomatch h

theorem verifyWrittenImage_spares (h : verifyWrittenImage current units w = .error fault) :
    ¬CapacityFault fault := by
  rcases bind_error.1 h with h | ⟨_, _, h⟩
  · exact rejectIf_error h ▸ consistencyFault_spares
  · rcases bind_error.1 h with h | ⟨_, _, h⟩
    · exact rejectIf_error h ▸ consistencyFault_spares
    · exact nomatch h

theorem reserveJournal_spares (hfits : fitsJournalHeader metadataLength metadata)
    (hcapacity : originalBytes.length ≤ DVD_RECOVERY_JOURNAL_PAYLOAD_BYTES) :
    (reserveJournal metadataLength metadata originalBytes).Avoids CapacityFault := by
  rw [reserveJournal, if_neg (by
    rw [not_or, not_not]
    exact ⟨hfits, Nat.not_lt.2 hcapacity⟩)]
  exact createExclusively_spares.bind fun _ => (Program.Avoids.modify _).bind fun _ =>
    (Program.Avoids.modify _).bind fun _ => .modify _

theorem mutateImage_spares
    (hfits : fitsJournalHeader metadataLength (undoJournal sha256 o admitted units).metadata)
    (hcapacity : units.before.length ≤ DVD_RECOVERY_JOURNAL_PAYLOAD_BYTES) :
    (mutateImage sha256 metadataLength o admitted units).Avoids CapacityFault := by
  refine (batchStep_spares (reserveJournal_spares hfits hcapacity)).bind fun _ => ?_
  refine (batchStep_spares (.each fun _ _ => .modify _)).bind fun _ => ?_
  refine (batchStep_spares (.read fun _ _ => verifyWrittenImage_spares)).bind fun _ => ?_
  exact .pure _

/-- A batch is stopped for its journal's capacity. -/
def ExceedsCapacity (r : Except DvdRecoveryBatchFault α) : Prop :=
  ∃ fault, r = .error fault ∧ CapacityFault fault

theorem exceeds_error :
    ExceedsCapacity (.error fault : Except DvdRecoveryBatchFault α) ↔ CapacityFault fault :=
  ⟨fun ⟨_, he, hf⟩ => Except.error.inj he ▸ hf, fun hf => ⟨fault, rfl, hf⟩⟩

theorem Program.Avoids.not_exceeds {p : BatchProgram α} (h : p.Avoids CapacityFault) (w : World) :
    ¬ExceedsCapacity (p.run w).1 :=
  fun ⟨fault, he, hf⟩ => h w fault he hf

/-- Where the protection of the sector's units stops for the journal's capacity. -/
theorem protectUnits_exceeds (hunit : SupportedUnit admitted.protection.unitBytes)
    (hsafe : o.observation.startLba * 2048 ≤ maxSafeInteger) :
    ExceedsCapacity (protectUnits o admitted w) ↔ o.inspected = some admitted.protection ∧
      admitted.current.manifest.boundaryPublishedSizeBytes <
        unitEnd (o.observation.startLba * 2048) admitted.protection.unitBytes := by
  have hcapacity := hunit.protected_le o.observation.startLba
  constructor
  · rintro ⟨fault, he, hf⟩
    rcases bind_error.1 he with he | ⟨_, hinspected, he⟩
    · rw [rejectIf_error he] at hf
      simp [CapacityFault, storageUnsupported] at hf
    · refine ⟨by simpa using rejectIf_ok.1 hinspected, ?_⟩
      by_contra hinside
      rcases bind_error.1 he with he | ⟨_, _, he⟩
      · have hpass : ¬(o.observation.startLba * 2048 > maxSafeInteger ∨
            unitEnd (o.observation.startLba * 2048) admitted.protection.unitBytes >
              admitted.current.manifest.boundaryPublishedSizeBytes ∨
            unitEnd (o.observation.startLba * 2048) admitted.protection.unitBytes -
              unitStart (o.observation.startLba * 2048) admitted.protection.unitBytes >
              DVD_RECOVERY_JOURNAL_PAYLOAD_BYTES) := by omega
        rw [rejectIf, if_neg hpass] at he
        cases he
      · rcases bind_error.1 he with he | ⟨_, _, he⟩
        · rw [rejectIf_error he] at hf
          exact consistencyFault_spares hf
        · cases he
  · rintro ⟨hinspected, htail⟩
    refine ⟨batchFault .journalCapacityInsufficient, ?_, rfl⟩
    refine bind_error.2 (.inr ⟨(), rejectIf_ok.2 (not_not.2 hinspected), bind_error.2 (.inl ?_)⟩)
    exact if_pos (.inr (.inl htail))

/-- What is known of a listed sector of a committed checkpoint. -/
theorem Begun.sector (h : Begun sha256 o w admitted) :
    admitted.current.manifest.boundaryPublishedSizeBytes % 2048 = 0 ∧
      admitted.current.manifest.boundaryPublishedSizeBytes ≤ maxSafeInteger ∧
      o.observation.startLba * 2048 + 2048 ≤
        admitted.current.manifest.boundaryPublishedSizeBytes := by
  have hextent := h.hashable.extent
  have hsize := h.hashable.sectorSize
  simp only [requireManifestExtent, bind_ok, rejectIf_ok, not_or, ne_eq, not_not, not_exists,
    not_and, Nat.not_lt] at hextent
  obtain ⟨_, ⟨hpublished, -⟩, _, hranges, -⟩ := hextent
  obtain ⟨range, hr, hin⟩ := h.target
  have hend := hranges range hr
  have hlba := (contains_iff.1 hin).2
  have hsafe := h.hashable.published.2
  rw [hsize] at hpublished
  omega

theorem batchStep_error {work : BatchProgram α} (hmay : assertMayMutate o requireBase w = .ok ())
    (hwork : (work.run w).1 = .error fault) :
    ((batchStep o requireBase work).run w).1 =
      .error { fault with retainRecoveryWork := true } := by
  have hread : (Program.read (assertMayMutate o requireBase) : BatchProgram Unit).run w =
      (.ok (), w) := by rw [Program.read, Program.run, Program.run, hmay]; rfl
  rw [batchStep, Program.run_bind, hread]
  simp only
  rw [Program.run_bind, hread]
  simp only [Program.run_mapError, Program.run_bind]
  cases hr : work.run w with
  | mk r t =>
    rw [hr] at hwork
    simp only at hwork
    simp only [hwork, withError]

theorem bind_exceeds {p : BatchProgram α} {f : α → BatchProgram β}
    (h : ExceedsCapacity (p.run w).1) : ExceedsCapacity ((p >>= f).run w).1 := by
  obtain ⟨fault, he, hf⟩ := h
  refine ⟨fault, ?_, hf⟩
  rw [Program.run_bind]
  cases hr : p.run w with
  | mk r t =>
    rw [hr] at he
    simp only at he
    simp only [he]

theorem mutateImage_exceeds (h : Begun sha256 o w admitted)
    (hfits : ¬fitsJournalHeader metadataLength (undoJournal sha256 o admitted units).metadata) :
    ExceedsCapacity ((mutateImage sha256 metadataLength o admitted units).run w).1 := by
  apply bind_exceeds
  have hreserve : ((reserveJournal metadataLength (undoJournal sha256 o admitted units).metadata
      units.before).run w).1 = .error (batchFault .journalCapacityInsufficient) := by
    rw [reserveJournal, if_pos (.inl hfits)]
    rfl
  exact ⟨_, batchStep_error h.mayMutate hreserve, rfl⟩

theorem runOwnedBatch_run (ha : admitBatch sha256 o w = .ok admitted)
    (ho : o.observation.outcome = .recovered) :
    (runOwnedBatch sha256 metadataLength o).run w =
      (Program.read (protectUnits o admitted) >>= fun units =>
        mutateImage sha256 metadataLength o admitted units >>= fun mutation =>
          commitManifest sha256 o admitted mutation >>= fun committed =>
            batchStep o false unlinkJournal >>= fun _ => pure committed).run w := by
  rw [runOwnedBatch, Program.run_bind]
  simp only [Program.read, Program.run, ha, ho, id]

/-- The bytes of the image up to the end of its last whole storage unit. -/
def AdmittedBatch.wholeUnitBytes (admitted : AdmittedBatch) : Nat :=
  admitted.current.manifest.boundaryPublishedSizeBytes / admitted.protection.unitBytes *
    admitted.protection.unitBytes

/-- On supported storage a recovered observation of a listed sector is refused for the journal's
capacity exactly when no whole units of the image hold the sector, or the metadata do not fit. The
payload always fits; units that divide the image, or that are no larger than a sector, hold every
sector; and a map of more than a thousand ranges or so never fits. -/
theorem runOwnedBatch_capacity {input : DvdRecoveryStoragePreflightInput}
    (hvalid : assertDvdRecoveryStoragePreflightInput input = .ok ())
    (hsupported : input.status = .supported) (hstorage : w.catalog.storage = some input.row)
    (ha : admitBatch sha256 o w = .ok admitted) (ho : o.observation.outcome = .recovered) :
    (ExceedsCapacity ((runOwnedBatch sha256 journalMetadataLength o).run w).1 ↔
      o.inspected = some admitted.protection ∧
        (admitted.wholeUnitBytes < o.observation.startLba * 2048 + 2048 ∨
        ∃ units, protectUnits o admitted w = .ok units ∧
          65536 < 64 + journalMetadataLength (undoJournal sha256 o admitted units).metadata)) ∧
    unitEnd (o.observation.startLba * 2048) admitted.protection.unitBytes -
      unitStart (o.observation.startLba * 2048) admitted.protection.unitBytes ≤ 983040 ∧
    (admitted.protection.unitBytes ∣ admitted.current.manifest.boundaryPublishedSizeBytes ∨
        admitted.protection.unitBytes ≤ 2048 →
      o.observation.startLba * 2048 + 2048 ≤ admitted.wholeUnitBytes) ∧
    ∀ units, 1092 ≤ admitted.current.manifest.unrecoveredSourceRanges.length →
      65536 < 64 + journalMetadataLength (undoJournal sha256 o admitted units).metadata := by
  have h := admitBatch_ok.1 ha
  obtain ⟨hsectors, hsafe, hinside⟩ := h.sector
  have hunit : SupportedUnit admitted.protection.unitBytes := by
    obtain ⟨protection, hp, hunit⟩ := supported_protection hvalid hsupported
    have hrequired := h.storage
    rw [requireMutationProtection, hstorage] at hrequired
    simp only [DvdRecoveryStoragePreflightInput.row, hsupported, hp,
      DvdRecoveryStoragePreflightStatus.value, Except.ok.injEq] at hrequired
    exact hrequired ▸ hunit
  have htail : unitEnd (o.observation.startLba * 2048) admitted.protection.unitBytes ≤
      admitted.current.manifest.boundaryPublishedSizeBytes ↔
        o.observation.startLba * 2048 + 2048 ≤ admitted.wholeUnitBytes :=
    unitEnd_le_iff admitted.protection.unitBytes_pos
  have hlba : o.observation.startLba * 2048 ≤ maxSafeInteger :=
    (Nat.le_add_right _ 2048).trans (hinside.trans hsafe)
  have hprotect := protectUnits_exceeds (w := w) hunit hlba
  rw [← Nat.not_le, htail, Nat.not_le] at hprotect
  refine ⟨?_, (hunit.protected_le _).trans_eq (by
    simp [DVD_RECOVERY_JOURNAL_PAYLOAD_BYTES, DVD_RECOVERY_JOURNAL_RESERVATION_BYTES,
      DVD_RECOVERY_JOURNAL_METADATA_BYTES]), ?_, ?_⟩
  · rw [runOwnedBatch_run ha ho, Program.run_bind]
    cases hp : protectUnits o admitted w with
    | error fault =>
      rw [hp] at hprotect
      rw [exceeds_error] at hprotect
      simp only [Program.read, Program.run, id, hp, exceeds_error, reduceCtorEq, false_and,
        exists_false, or_false]
      exact hprotect
    | ok units =>
      rw [hp] at hprotect
      obtain ⟨hu, -, hinspected, -, -⟩ := protectUnits_ok hp (h.bytes ho)
      have hnot : ¬ExceedsCapacity (Except.ok units : Except DvdRecoveryBatchFault _) := by
        rintro ⟨_, he, _⟩
        cases he
      have hend : ¬admitted.wholeUnitBytes < o.observation.startLba * 2048 + 2048 :=
        fun hlt => hnot (hprotect.2 ⟨hinspected, hlt⟩)
      simp only [Program.read, Program.run, id, hp, hinspected, hend, true_and, false_or,
        Except.ok.injEq, exists_eq_left']
      by_cases hfits : fitsJournalHeader journalMetadataLength
          (undoJournal sha256 o admitted units).metadata
      · refine iff_of_false ?_ (Nat.not_lt.2 hfits)
        refine Program.Avoids.not_exceeds ?_ w
        refine (mutateImage_spares hfits hu.capacity).bind fun mutation => ?_
        refine commitManifest_spares.bind fun committed => ?_
        exact (batchStep_spares unlinkJournal_spares).bind fun _ => .pure _
      · exact iff_of_true (bind_exceeds (mutateImage_exceeds h hfits)) (Nat.lt_of_not_le hfits)
  · rintro (hdvd | hle)
    · rw [AdmittedBatch.wholeUnitBytes, Nat.div_mul_cancel hdvd]
      exact hinside
    · obtain ⟨k, hk⟩ := hunit.power
      have hdvd : admitted.protection.unitBytes ∣ 2048 := by
        rw [hk] at hle ⊢
        exact Nat.pow_dvd_pow 2 ((Nat.pow_le_pow_iff_right (by decide)).1
          (hle.trans_eq (show 2048 = 2 ^ 11 by decide)))
      rw [AdmittedBatch.wholeUnitBytes,
        Nat.div_mul_cancel (hdvd.trans (Nat.dvd_of_mod_eq_zero hsectors))]
      exact hinside
  · intro units hmany
    have hranges := journalMetadataLength_ranges (undoJournal sha256 o admitted units).metadata
    have hbase : (undoJournal sha256 o admitted units).metadata.base.unrecoveredSourceRanges =
      admitted.current.manifest.unrecoveredSourceRanges := rfl
    rw [hbase] at hranges
    omega

/-! An image of three sectors on storage with units of two, all the sectors unread. -/

def tailProtection : DvdRecoveryMutationProtection :=
  ⟨DVD_RECOVERY_ATOMIC_WRITE_CONTRACT, 4096, 512, by decide⟩

def tailPreflight : DvdRecoveryStoragePreflightInput where
  contractVersion := DVD_RECOVERY_STORAGE_PREFLIGHT_VERSION
  status := .supported
  reasonCode := none
  facts := {
    filesystemType := "ext4"
    storageClass := .localStorage
    mutationProtection := some tailProtection
    journalReservationBytes := DVD_RECOVERY_JOURNAL_RESERVATION_BYTES
    journalPayloadBytes := DVD_RECOVERY_JOURNAL_PAYLOAD_BYTES
    journalReservation := .verified
    journalSynchronization := .verified
    imageSynchronization := .verified
    checkpointSynchronization := .verified
    checkpointReplacement := .verified
    directorySynchronization := .verified
    crossProcessWriterExclusion := .verified
    crossHostWriterExclusion := .notApplicable
    disconnectionBehavior := .notApplicable }

def tailBoundary : ArchiveBoundaryEvidence := ⟨"boundary-v1", 6144, 6144, 0, "endpoint"⟩

def tailManifest : EvidenceManifest :=
  { sampleManifest with
    acceptedEndLbaExclusive := 3
    boundaryReportedSizeBytes := 6144
    boundaryPublishedSizeBytes := 6144
    unrecoveredSourceRanges := [⟨0, 3, .skippedUntested⟩] }

def tailImage : ImageFile := ⟨⟨1, 1⟩, List.replicate 6144 0, 0⟩

def tailInitial : CommittedDvdInitialEvidence :=
  { tailManifest with
    sourceArchiveJobId := "job"
    image := tailImage.version
    boundaryEvidence := tailBoundary
    declaredByteCount := 6144
    recoveredByteCount := 0
    publicationDigest := 0 }

def tailWorld : World where
  disk := { sampleWorld.disk with
    image := tailImage
    initialManifest := tailInitial
    pointer := pointerTo (.initial tailInitial) }
  catalog := { sampleCatalog with
    archive := { sampleArchive with
      sizeBytes := 6144
      boundaryEvidence := tailBoundary
      badSectorCount := 3
      badSectorRanges := [(0, 3)] }
    header := { sampleHeader with acceptedEndLbaExclusive := 3 }
    manifests := [{ tailManifest with createdAt := 0 }]
    storage := some tailPreflight.row }

/-- A batch for a sector of the image. -/
def tailBatch (startLba : Nat) : DvdRecoveryBatchOptions :=
  { sampleBatch with
    observation := ⟨startLba, .recovered, List.replicate 2048 1⟩
    inspected := some tailProtection }

/-- The storage is supported, the checkpoint committed and its map canonical, and yet the last
sector of the image cannot be recovered: no whole unit of the image holds it. -/
theorem tailSector_unavailable :
    assertDvdRecoveryStoragePreflightInput tailPreflight = .ok () ∧
    tailPreflight.status = .supported ∧ tailWorld.catalog.storage = some tailPreflight.row ∧
    readCommittedDvdCheckpoint sampleSha256 tailWorld.disk tailWorld.catalog =
      .ok (.initial tailInitial) ∧
    tailInitial.boundaryPublishedSizeBytes = 3 * 2048 ∧
    tailInitial.unrecoveredSourceRanges = [⟨0, 3, .skippedUntested⟩] ∧
    (tailBatch 2).observation.outcome = .recovered ∧
    (tailBatch 2).observation.bytes.length = 2048 ∧
    (match ((runOwnedBatch sampleSha256 journalMetadataLength (tailBatch 2)).run tailWorld).1 with
      | .ok _ => false
      | .error fault => fault.code = .journalCapacityInsufficient) = true := by
  decide +kernel

/-- The first sector of the same image is not refused, and its journal has room to spare. -/
theorem firstSector_available :
    ¬ExceedsCapacity
      ((runOwnedBatch sampleSha256 journalMetadataLength (tailBatch 0)).run tailWorld).1 := by
  have hrun : (match admitBatch sampleSha256 (tailBatch 0) tailWorld with
      | .error _ => false
      | .ok admitted => match protectUnits (tailBatch 0) admitted tailWorld with
        | .error _ => false
        | .ok units => 2048 ≤ admitted.wholeUnitBytes ∧ journalMetadataLength
          (undoJournal sampleSha256 (tailBatch 0) admitted units).metadata ≤ 1000) = true := by
    decide +kernel
  cases hbatch : admitBatch sampleSha256 (tailBatch 0) tailWorld with
  | error => simp [hbatch] at hrun
  | ok admitted =>
    cases hunits : protectUnits (tailBatch 0) admitted tailWorld with
    | error => simp [hbatch, hunits] at hrun
    | ok units =>
      simp only [hbatch, hunits, decide_eq_true_eq] at hrun
      obtain ⟨hwhole, hlength⟩ := hrun
      obtain ⟨hiff, -⟩ := runOwnedBatch_capacity (by decide +kernel) rfl rfl hbatch rfl
      rw [hiff]
      rintro ⟨-, htail | ⟨_, hsame, hlong⟩⟩
      · exact Nat.not_lt.2 hwhole htail
      · rw [hunits] at hsame
        cases hsame
        omega

end RipDvd
