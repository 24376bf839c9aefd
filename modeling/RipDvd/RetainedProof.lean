import RipDvd.Framing
import RipDvd.Manifest
import RipDvd.RecoveryProtocol

namespace RipDvd
set_option autoImplicit true

open Framing

def RETAINED_SECTOR_PROOF_CHUNK_BYTES : Nat := 1048576
def CORRECTED_RETRY_RETAINED_SECTOR_PROOF_VERSION : String := "dvd-corrected-retry-retained-v1"

structure ImageProofIdentity where
  ctimeNs : Nat
  mtimeNs : Nat
  deriving DecidableEq

/-- What a `stat` of the open image says. -/
structure ImageStat extends ImageProofIdentity where
  isFile : Bool
  nlink : Nat
  size : Nat
  filesystemIdentity : String
  deriving DecidableEq

structure RescueWorkspaceImage where
  imageByteCount : Nat
  imageFilesystemIdentity : String
  deriving DecidableEq

structure DvdRetainedSectorProof (D : Type) where
  digest : D
  imageProofIdentity : ImageProofIdentity
  deriving DecidableEq

inductive DvdRetainedSectorProofMismatchError where
  | mismatch
  deriving DecidableEq

/-- The size of the read buffer is positive. -/
abbrev ChunkSize := { n : Nat // 0 < n }

/-- Read so many bytes from a position on, a buffer at a time; no read may be short. -/
def readChunks (chunk : ChunkSize) (image : Bytes) (position remaining : Nat) :
    Except DvdRetainedSectorProofMismatchError Bytes :=
  if remaining = 0 then .ok []
  else do
    let requested := min chunk.1 remaining
    let bytes := (image.drop position).take requested
    rejectIf (bytes.length ≠ requested) .mismatch
    let rest ← readChunks chunk image (position + requested) (remaining - requested)
    return bytes ++ rest
termination_by remaining
decreasing_by
  have := chunk.2
  omega

/-- What the digest takes in of the sectors from one up to another. -/
def digestReadableRange (chunk : ChunkSize) (image : Bytes) (startLba endLba : Nat) :
    Except DvdRetainedSectorProofMismatchError Bytes :=
  if startLba = endLba then .ok []
  else do
    let bytes ← readChunks chunk image (startLba * DVD_SECTOR_SIZE_BYTES)
      ((endLba - startLba) * DVD_SECTOR_SIZE_BYTES)
    return ascii (toString startLba ++ ":" ++ toString endLba ++ "\x00") ++ bytes

/-- What the digest takes in of the sectors outside some ranges, from one sector on. -/
def digestReadableRanges (chunk : ChunkSize) (image : Bytes) (totalSectorCount : Nat)
    (nextReadableLba : Nat) :
    List UnreadableSectorRange → Except DvdRetainedSectorProofMismatchError Bytes
  | [] => digestReadableRange chunk image nextReadableLba totalSectorCount
  | range :: ranges => do
    let bytes ← digestReadableRange chunk image nextReadableLba range.startLba
    let rest ← digestReadableRanges chunk image totalSectorCount
      (range.startLba + range.sectorCount) ranges
    return bytes ++ rest

/-- One reading of a proof: what it is asked, and what the open file answers. -/
structure RetainedSectorReading (D : Type) where
  chunk : ChunkSize
  expectedDigest : Option D
  expectedImageProofIdentity : Option ImageProofIdentity
  recoveryResult : DvdRecoveryResult
  workspace : RescueWorkspaceImage
  before : ImageStat
  after : ImageStat
  image : Bytes

/-- The open file is the workspace's image. -/
def ImageStat.Identifies (workspace : RescueWorkspaceImage) (stat : ImageStat) : Prop :=
  stat.isFile = true ∧ 0 < stat.nlink ∧ stat.size = workspace.imageByteCount ∧
    stat.filesystemIdentity = workspace.imageFilesystemIdentity

instance (workspace : RescueWorkspaceImage) (stat : ImageStat) :
    Decidable (stat.Identifies workspace) :=
  inferInstanceAs (Decidable (_ ∧ _ ∧ _ ∧ _))

variable {D : Type} [DecidableEq D]

def readDvdRetainedSectorProof (sha256 : Bytes → D) (reading : RetainedSectorReading D) :
    Except DvdRetainedSectorProofMismatchError (DvdRetainedSectorProof D) := do
  let result := reading.recoveryResult
  let beforeProof := reading.before.toImageProofIdentity
  rejectIf (¬reading.before.Identifies reading.workspace ∨
    ∃ expected ∈ reading.expectedImageProofIdentity, beforeProof ≠ expected) .mismatch
  let version := ascii (CORRECTED_RETRY_RETAINED_SECTOR_PROOF_VERSION ++ "\x00")
  let declared := ascii (toString result.declaredByteCount ++ "\x00")
  let totalSectorCount := result.declaredByteCount / DVD_SECTOR_SIZE_BYTES
  let readable ← digestReadableRanges reading.chunk reading.image totalSectorCount 0
    result.unrecoveredSectorRanges
  let afterProof := reading.after.toImageProofIdentity
  let digest := sha256 (version ++ declared ++ readable)
  rejectIf (¬reading.after.Identifies reading.workspace ∨ afterProof ≠ beforeProof ∨
    ∃ expected ∈ reading.expectedDigest, digest ≠ expected) .mismatch
  return { digest, imageProofIdentity := afterProof }

section Stream

variable {image image' : Bytes} {ranges ranges' : List UnreadableSectorRange}
  {result result' : DvdRecoveryResult}

/-- The bytes of the sectors from one up to another. -/
def sectorBytes (image : Bytes) (startLba endLba : Nat) : Bytes :=
  excerpt (startLba * DVD_SECTOR_SIZE_BYTES) (endLba * DVD_SECTOR_SIZE_BYTES) image

/-- The sectors from one up to another, if there are any. -/
def readableRange (startLba endLba : Nat) : List (Nat × Nat) :=
  if startLba = endLba then [] else [(startLba, endLba)]

/-- The sectors outside some ranges, from one sector on. -/
def readableRanges (totalSectorCount nextReadableLba : Nat) :
    List UnreadableSectorRange → List (Nat × Nat)
  | [] => readableRange nextReadableLba totalSectorCount
  | range :: ranges => readableRange nextReadableLba range.startLba ++
      readableRanges totalSectorCount (range.startLba + range.sectorCount) ranges

/-- Readable sectors behind a header that says which they are. -/
def frame (image : Bytes) (range : Nat × Nat) : Bytes :=
  decimal range.1 ++ 58 :: (decimal range.2 ++ 0 :: sectorBytes image range.1 range.2)

/-- The bytes that the digest is of. -/
def retainedSectorStream (result : DvdRecoveryResult) (image : Bytes) : Bytes :=
  ascii CORRECTED_RETRY_RETAINED_SECTOR_PROOF_VERSION ++ 0 ::
    (decimal result.declaredByteCount ++ 0 ::
      (readableRanges (result.declaredByteCount / DVD_SECTOR_SIZE_BYTES) 0
        result.unrecoveredSectorRanges).flatMap (frame image))

theorem ascii_append (a b : String) : ascii (a ++ b) = ascii a ++ ascii b := by
  rw [ascii, String.toList_append, List.map_append]
  rfl

theorem ascii_zero : ascii "\x00" = [0] := by decide

theorem ascii_colon : ascii ":" = [58] := by decide

/-- Reading in pieces reads the same bytes, whatever the size of the buffer. -/
theorem readChunks_ok (chunk : ChunkSize) (hinside : position + remaining ≤ image.length) :
    readChunks chunk image position remaining =
      .ok (excerpt position (position + remaining) image) := by
  induction remaining using Nat.strongRecOn generalizing position with
  | ind remaining ih =>
    rw [readChunks]
    by_cases hdone : remaining = 0
    · subst hdone
      rw [if_pos rfl, excerpt, Nat.add_zero, Nat.sub_self, List.take_zero]
    · have hchunk := chunk.2
      have hbytes : (image.drop position).take (min chunk.1 remaining) =
          excerpt position (position + min chunk.1 remaining) image := by
        rw [excerpt, Nat.add_sub_cancel_left]
      have hlength : (excerpt position (position + min chunk.1 remaining) image).length =
          min chunk.1 remaining := by
        rw [length_excerpt (by omega)]
        omega
      have hend : position + min chunk.1 remaining + (remaining - min chunk.1 remaining) =
          position + remaining := by omega
      have hinside' : position + min chunk.1 remaining + (remaining - min chunk.1 remaining) ≤
          image.length := hend.trans_le hinside
      have hrest := ih (remaining - min chunk.1 remaining) (by omega) hinside'
      rw [hend] at hrest
      rw [if_neg hdone]
      dsimp only
      rw [hbytes, bind_ok]
      refine ⟨(), rejectIf_ok.2 (not_not.2 hlength), ?_⟩
      rw [hrest, bind_ok]
      refine ⟨_, rfl, ?_⟩
      rw [excerpt_append (by omega) (by omega)]
      rfl

theorem digestReadableRange_ok (chunk : ChunkSize) (hle : startLba ≤ endLba)
    (hinside : endLba * DVD_SECTOR_SIZE_BYTES ≤ image.length) :
    digestReadableRange chunk image startLba endLba =
      .ok ((readableRange startLba endLba).flatMap (frame image)) := by
  rw [digestReadableRange, readableRange]
  by_cases hempty : startLba = endLba
  · rw [if_pos hempty, if_pos hempty]
    rfl
  · have hend : startLba * DVD_SECTOR_SIZE_BYTES + (endLba - startLba) * DVD_SECTOR_SIZE_BYTES =
        endLba * DVD_SECTOR_SIZE_BYTES := by
      rw [← Nat.add_mul, Nat.add_sub_cancel' hle]
    have hread := readChunks_ok chunk (hend.trans_le hinside)
    rw [hend] at hread
    rw [if_neg hempty, if_neg hempty, hread, bind_ok]
    refine ⟨_, rfl, ?_⟩
    rw [List.flatMap_singleton, frame, ascii_append, ascii_append, ascii_append, ascii_zero,
      ascii_colon]
    simp only [List.append_assoc, List.singleton_append]
    rfl

theorem digestReadableRanges_ok (chunk : ChunkSize) (hranges : Separated ranges total)
    (hnext : ∀ range ∈ ranges, next ≤ range.startLba) (htotal : next ≤ total)
    (hinside : total * DVD_SECTOR_SIZE_BYTES ≤ image.length) :
    digestReadableRanges chunk image total next ranges =
      .ok ((readableRanges total next ranges).flatMap (frame image)) := by
  induction ranges generalizing next with
  | nil => exact digestReadableRange_ok chunk htotal hinside
  | cons range ranges ih =>
    obtain ⟨hfirst, -⟩ := List.pairwise_cons.1 hranges.apart
    have hend := hranges.inside range List.mem_cons_self
    have hstart : range.startLba * DVD_SECTOR_SIZE_BYTES ≤ image.length :=
      (Nat.mul_le_mul_right _ (by omega)).trans hinside
    have hrest := ih hranges.tail (fun other hother => (hfirst other hother).le) hend
    rw [digestReadableRanges, digestReadableRange_ok chunk (hnext range List.mem_cons_self) hstart,
      bind_ok]
    refine ⟨_, rfl, ?_⟩
    rw [hrest, bind_ok]
    refine ⟨_, rfl, ?_⟩
    rw [readableRanges, List.flatMap_append]
    rfl

theorem decimal_delimited {delimiter : UInt8} (h : delimiter.toNat < 48 ∨ 57 < delimiter.toNat)
    (n : Nat) : delimiter ∉ decimal n := by
  intro hin
  have hdigit := decimal_digits hin
  omega

/-- Frames are decoded in one way only, whatever bytes they carry. -/
theorem frames_inj {l l' : List (Nat × Nat)}
    (hl : ∀ range ∈ l, range.2 * DVD_SECTOR_SIZE_BYTES ≤ image.length)
    (hl' : ∀ range ∈ l', range.2 * DVD_SECTOR_SIZE_BYTES ≤ image'.length)
    (h : l.flatMap (frame image) = l'.flatMap (frame image')) :
    l = l' ∧ ∀ range ∈ l,
      sectorBytes image range.1 range.2 = sectorBytes image' range.1 range.2 := by
  induction l generalizing l' with
  | nil =>
    cases l' with
    | nil => exact ⟨rfl, fun _ hr => nomatch hr⟩
    | cons range l' =>
      rw [List.flatMap_cons, frame, List.append_assoc] at h
      exact absurd h.symm (List.append_ne_nil_of_right_ne_nil _ (List.cons_ne_nil _ _))
  | cons range l ih =>
    cases l' with
    | nil =>
      rw [List.flatMap_cons, frame, List.append_assoc] at h
      exact absurd h (List.append_ne_nil_of_right_ne_nil _ (List.cons_ne_nil _ _))
    | cons other l' =>
      rw [List.flatMap_cons, List.flatMap_cons, frame, frame, List.append_assoc, List.append_assoc,
        List.cons_append, List.cons_append, List.append_assoc, List.append_assoc,
        List.cons_append, List.cons_append] at h
      obtain ⟨hstart, hrest⟩ := delimited_inj (decimal_delimited (by decide) _)
        (decimal_delimited (by decide) _) h
      obtain ⟨hend, hrest⟩ := delimited_inj (decimal_delimited (by decide) _)
        (decimal_delimited (by decide) _) hrest
      have hsame : range = other := Prod.ext (decimal_injective hstart) (decimal_injective hend)
      subst hsame
      have hlength : (sectorBytes image range.1 range.2).length =
          (sectorBytes image' range.1 range.2).length := by
        rw [sectorBytes, sectorBytes, length_excerpt (hl range List.mem_cons_self),
          length_excerpt (hl' range List.mem_cons_self)]
      obtain ⟨hbytes, hrest⟩ := List.append_inj hrest hlength
      obtain ⟨rfl, hall⟩ := ih (fun r hr => hl r (List.mem_cons_of_mem _ hr))
        (fun r hr => hl' r (List.mem_cons_of_mem _ hr)) hrest
      refine ⟨rfl, ?_⟩
      intro r hr
      cases List.mem_cons.1 hr with
      | inl heq =>
        rw [heq]
        exact hbytes
      | inr hin => exact hall r hin

theorem exists_readableRange {lba : Nat} :
    (∃ range ∈ readableRange startLba endLba, range.1 ≤ lba ∧ lba < range.2) ↔
      startLba ≤ lba ∧ lba < endLba := by
  rw [readableRange]
  split
  next hempty =>
    refine iff_of_false (fun h => ?_) (by omega)
    obtain ⟨range, hrange, -⟩ := h
    cases hrange
  next => simp

/-- The readable sectors are those that no range holds. -/
theorem exists_readableRanges (lba : Nat) (hranges : Separated ranges total)
    (hnext : ∀ range ∈ ranges, next ≤ range.startLba) :
    (∃ range ∈ readableRanges total next ranges, range.1 ≤ lba ∧ lba < range.2) ↔
      (next ≤ lba ∧ lba < total) ∧ ¬Holds ranges lba := by
  induction ranges generalizing next with
  | nil =>
    rw [readableRanges, exists_readableRange]
    refine (and_iff_left fun h => ?_).symm
    obtain ⟨range, hrange, -⟩ := h
    cases hrange
  | cons range ranges ih =>
    obtain ⟨hfirst, -⟩ := List.pairwise_cons.1 hranges.apart
    have hstart := hnext range List.mem_cons_self
    have hend := hranges.inside range List.mem_cons_self
    have hholds : Holds (range :: ranges) lba ↔
        (range.startLba ≤ lba ∧ lba < range.startLba + range.sectorCount) ∨ Holds ranges lba :=
      List.exists_mem_cons_iff ..
    have hbehind : Holds ranges lba → range.startLba + range.sectorCount < lba := by
      intro h
      obtain ⟨other, hother, hle, -⟩ := h
      exact (hfirst other hother).trans_le hle
    have hrest := ih hranges.tail fun other hother => (hfirst other hother).le
    have hsplit : (∃ readable ∈ readableRanges total next (range :: ranges),
        readable.1 ≤ lba ∧ lba < readable.2) ↔ (next ≤ lba ∧ lba < range.startLba) ∨
          (range.startLba + range.sectorCount ≤ lba ∧ lba < total) ∧ ¬Holds ranges lba := by
      rw [← exists_readableRange, ← hrest, readableRanges]
      simp only [List.mem_append, or_and_right, exists_or]
    rw [hsplit, hholds]
    clear hsplit hholds hrest ih
    by_cases hlater : Holds ranges lba
    · have hlt := hbehind hlater
      refine iff_of_false ?_ fun h => h.2 (.inr hlater)
      intro h
      cases h with
      | inl hbefore => omega
      | inr hin => exact hin.2 hlater
    · simp only [hlater, not_false_iff, and_true, or_false]
      omega

theorem readableRanges_le (hranges : Separated ranges total) (htotal : next ≤ total) :
    ∀ range ∈ readableRanges total next ranges, range.2 ≤ total := by
  have hone : ∀ {startLba endLba : Nat}, endLba ≤ total →
      ∀ range ∈ readableRange startLba endLba, range.2 ≤ total := by
    intro startLba endLba hle range hrange
    rw [readableRange] at hrange
    split at hrange
    next => cases hrange
    next =>
      cases List.mem_singleton.1 hrange
      exact hle
  induction ranges generalizing next with
  | nil => exact hone le_rfl
  | cons first ranges ih =>
    have hend := hranges.inside first List.mem_cons_self
    intro range hrange
    cases List.mem_append.1 hrange with
    | inl hin => exact hone (by omega) range hin
    | inr hin => exact ih hranges.tail hend range hin

/-- A damaged result and an image of its declared size. -/
structure RetainedImage (result : DvdRecoveryResult) (image : Bytes) : Prop where
  damaged : result.Damaged
  size : image.length = result.declaredByteCount

/-- Two retained images agree on their size, on what was not recovered and on all other bytes. -/
structure SameRetained (result result' : DvdRecoveryResult) (image image' : Bytes) : Prop where
  declared : result.declaredByteCount = result'.declaredByteCount
  unrecovered : ∀ lba, Holds result.unrecoveredSectorRanges lba ↔
    Holds result'.unrecoveredSectorRanges lba
  bytes : ∀ i < result.declaredByteCount,
    ¬Holds result.unrecoveredSectorRanges (i / DVD_SECTOR_SIZE_BYTES) → image[i]? = image'[i]?

theorem RetainedImage.sectors (h : RetainedImage result image) :
    result.declaredByteCount / DVD_SECTOR_SIZE_BYTES * DVD_SECTOR_SIZE_BYTES = image.length := by
  rw [h.size]
  exact Nat.div_mul_cancel (Nat.dvd_of_mod_eq_zero h.damaged.sectors)

theorem RetainedImage.readable_le (h : RetainedImage result image) :
    ∀ range ∈ readableRanges (result.declaredByteCount / DVD_SECTOR_SIZE_BYTES) 0
      result.unrecoveredSectorRanges, range.2 * DVD_SECTOR_SIZE_BYTES ≤ image.length := by
  intro range hrange
  have hle := readableRanges_le h.damaged.separated (Nat.zero_le _) range hrange
  exact (Nat.mul_le_mul_right _ hle).trans h.sectors.le

/-- The digest's bytes are the same exactly when all that was recovered is. -/
theorem retainedSectorStream_inj (h : RetainedImage result image)
    (h' : RetainedImage result' image') :
    retainedSectorStream result image = retainedSectorStream result' image' ↔
      SameRetained result result' image image' := by
  have hreadable (lba : Nat) := exists_readableRanges lba h.damaged.separated
    fun _ _ => Nat.zero_le _
  have hreadable' (lba : Nat) := exists_readableRanges lba h'.damaged.separated
    fun _ _ => Nat.zero_le _
  constructor
  · intro hstream
    rw [retainedSectorStream, retainedSectorStream] at hstream
    have hheader := (List.cons.inj (List.append_cancel_left hstream)).2
    obtain ⟨hdeclared, hframes⟩ := delimited_inj (decimal_delimited (by decide) _)
      (decimal_delimited (by decide) _) hheader
    have hsize := decimal_injective hdeclared
    obtain ⟨hsame, hbytes⟩ := frames_inj h.readable_le h'.readable_le hframes
    rw [← hsize] at hsame hreadable'
    have hholds : ∀ lba, lba < result.declaredByteCount / DVD_SECTOR_SIZE_BYTES →
        (Holds result.unrecoveredSectorRanges lba ↔
          Holds result'.unrecoveredSectorRanges lba) := by
      intro lba hlt
      have hboth := hreadable lba
      rw [hsame, hreadable'] at hboth
      simp only [Nat.zero_le, hlt, and_self, true_and] at hboth
      exact (not_iff_not.1 hboth).symm
    constructor
    case declared => exact hsize
    case unrecovered =>
      intro lba
      by_cases hlt : lba < result.declaredByteCount / DVD_SECTOR_SIZE_BYTES
      · exact hholds lba hlt
      · have hnone : ∀ {ranges : List UnreadableSectorRange},
            Separated ranges (result.declaredByteCount / DVD_SECTOR_SIZE_BYTES) →
              ¬Holds ranges lba := by
          intro ranges hranges hin
          obtain ⟨range, hrange, -, hto⟩ := hin
          have hinside := hranges.inside range hrange
          omega
        have hseparated' := h'.damaged.separated
        rw [← hsize] at hseparated'
        exact iff_of_false (hnone h.damaged.separated) (hnone hseparated')
    case bytes =>
      intro i hi hnot
      have hlba : i / DVD_SECTOR_SIZE_BYTES < result.declaredByteCount / DVD_SECTOR_SIZE_BYTES := by
        rw [← h.size, ← h.sectors] at hi
        exact Nat.div_lt_of_lt_mul (by rwa [Nat.mul_comm])
      obtain ⟨range, hrange, hfrom, hto⟩ := (hreadable _).2 ⟨⟨Nat.zero_le _, hlba⟩, hnot⟩
      apply excerpt_eq_iff.1 (hbytes range hrange) i
      · exact (Nat.le_div_iff_mul_le (by decide)).1 hfrom
      · exact (Nat.div_lt_iff_lt_mul (by decide)).1 hto
  · intro hsame
    obtain ⟨hsize, hholds, hbytes⟩ := hsame
    have hranges : result.unrecoveredSectorRanges = result'.unrecoveredSectorRanges :=
      h.damaged.separated.ext h'.damaged.separated hholds
    rw [retainedSectorStream, retainedSectorStream, ← hsize, ← hranges]
    congr 4
    apply List.flatMap_congr
    intro range hrange
    rw [frame, frame]
    congr 4
    apply excerpt_eq_iff.2
    intro i hfrom hto
    have hin : range.1 ≤ i / DVD_SECTOR_SIZE_BYTES ∧ i / DVD_SECTOR_SIZE_BYTES < range.2 :=
      ⟨(Nat.le_div_iff_mul_le (by decide)).2 hfrom, (Nat.div_lt_iff_lt_mul (by decide)).2 hto⟩
    obtain ⟨-, hnot⟩ := (hreadable _).1 ⟨range, hrange, hin⟩
    apply hbytes i _ hnot
    rw [← h.size]
    exact hto.trans_le (h.readable_le range hrange)

end Stream

section Proof

variable {sha256 : Bytes → D} {reading reading' : RetainedSectorReading D}
  {proof proof' : DvdRetainedSectorProof D}

/-- The open file was the workspace's image before and after, and did not change in between. -/
structure RetainedSectorReading.Undisturbed (reading : RetainedSectorReading D) : Prop where
  before : reading.before.Identifies reading.workspace
  expected : ∀ expected ∈ reading.expectedImageProofIdentity,
    reading.before.toImageProofIdentity = expected
  after : reading.after.Identifies reading.workspace
  same : reading.after.toImageProofIdentity = reading.before.toImageProofIdentity

/-- An undisturbed reading gives the digest of the stream, if it is the one expected. -/
theorem readDvdRetainedSectorProof_ok
    (h : RetainedImage reading.recoveryResult reading.image) :
    readDvdRetainedSectorProof sha256 reading = .ok proof ↔
      reading.Undisturbed ∧
        (∀ expected ∈ reading.expectedDigest,
          sha256 (retainedSectorStream reading.recoveryResult reading.image) = expected) ∧
        proof = ⟨sha256 (retainedSectorStream reading.recoveryResult reading.image),
          reading.after.toImageProofIdentity⟩ := by
  have hranges := digestReadableRanges_ok reading.chunk h.damaged.separated
    (fun _ _ => Nat.zero_le _) (Nat.zero_le _) h.sectors.le
  have hstream (readable : Bytes) :
      ascii (CORRECTED_RETRY_RETAINED_SECTOR_PROOF_VERSION ++ "\x00") ++
        ascii (toString reading.recoveryResult.declaredByteCount ++ "\x00") ++ readable =
      ascii CORRECTED_RETRY_RETAINED_SECTOR_PROOF_VERSION ++ 0 ::
        (decimal reading.recoveryResult.declaredByteCount ++ 0 :: readable) := by
    rw [ascii_append, ascii_append, ascii_zero, decimal]
    simp only [List.append_assoc, List.cons_append, List.nil_append]
  simp only [readDvdRetainedSectorProof, hranges, bind_ok, rejectIf_ok, pure_ok, hstream,
    not_or, not_not, not_exists, not_and]
  constructor
  · intro hread
    obtain ⟨-, ⟨hbefore, hexpected⟩, _, hreadable, -, ⟨hafter, hsame, hdigest⟩, rfl⟩ := hread
    cases hreadable
    exact ⟨⟨hbefore, hexpected, hafter, hsame⟩, hdigest, rfl⟩
  · intro hread
    obtain ⟨⟨hbefore, hexpected, hafter, hsame⟩, hdigest, rfl⟩ := hread
    exact ⟨(), ⟨hbefore, hexpected⟩, _, rfl, (), ⟨hafter, hsame, hdigest⟩, rfl⟩

/-- What two proofs say of the images they are of, under a digest without collisions. -/
structure ProofBinds (sha256 : Bytes → D) (reading reading' : RetainedSectorReading D) : Prop where
  given : reading.Undisturbed → reading.expectedDigest = none →
    ∃ proof, readDvdRetainedSectorProof sha256 reading = .ok proof
  digest : ∀ proof proof', readDvdRetainedSectorProof sha256 reading = .ok proof →
    readDvdRetainedSectorProof sha256 reading' = .ok proof' →
      (proof.digest = proof'.digest ↔
        SameRetained reading.recoveryResult reading'.recoveryResult reading.image reading'.image)
  decoded : retainedSectorStream reading.recoveryResult reading.image =
      retainedSectorStream reading'.recoveryResult reading'.image ↔
    SameRetained reading.recoveryResult reading'.recoveryResult reading.image reading'.image

/-- The proof of the retained sectors binds what was recovered and nothing else. -/
theorem readDvdRetainedSectorProof_binds (hsha256 : Function.Injective sha256)
    (h : RetainedImage reading.recoveryResult reading.image)
    (h' : RetainedImage reading'.recoveryResult reading'.image) :
    ProofBinds sha256 reading reading' := by
  have hdecoded := retainedSectorStream_inj h h'
  constructor
  case given =>
    intro hundisturbed hnone
    refine ⟨_, (readDvdRetainedSectorProof_ok h).2 ⟨hundisturbed, ?_, rfl⟩⟩
    intro expected hexpected
    rw [hnone] at hexpected
    cases hexpected
  case digest =>
    intro proof proof' hread hread'
    obtain ⟨-, -, rfl⟩ := (readDvdRetainedSectorProof_ok h).1 hread
    obtain ⟨-, -, rfl⟩ := (readDvdRetainedSectorProof_ok h').1 hread'
    exact hsha256.eq_iff.trans hdecoded
  case decoded => exact hdecoded

end Proof

/-- Three sectors of which the middle one was not recovered. -/
def sampleRetained : DvdRecoveryResult where
  outcome := .damaged
  declaredByteCount := 6144
  recoveredByteCount := 4096
  badSectorCount := 1
  badAreaCount := 1
  unrecoveredSectorRanges := [⟨1, 1⟩]

/-- A reading of three sectors with what `stat` and `read` answer. -/
def sampleReading (chunk : ChunkSize) (unread : UInt8) : RetainedSectorReading Bytes where
  chunk
  expectedDigest := none
  expectedImageProofIdentity := none
  recoveryResult := sampleRetained
  workspace := ⟨6144, "8:1"⟩
  before := ⟨⟨5, 5⟩, true, 1, 6144, "8:1"⟩
  after := ⟨⟨5, 5⟩, true, 1, 6144, "8:1"⟩
  image := List.replicate 2048 48 ++ List.replicate 2048 unread ++ List.replicate 2048 58

theorem sampleRetained_image (chunk : ChunkSize) (unread : UInt8) :
    RetainedImage (sampleReading chunk unread).recoveryResult
      (sampleReading chunk unread).image := by
  have hdamaged : sampleRetained.Damaged :=
    ⟨rfl, rfl, by decide, ⟨by decide, by decide, by decide⟩, rfl, rfl, rfl⟩
  refine ⟨hdamaged, ?_⟩
  show (List.replicate 2048 48 ++ List.replicate 2048 unread ++
    List.replicate 2048 58).length = 6144
  rw [List.length_append, List.length_append, List.length_replicate, List.length_replicate,
    List.length_replicate]

theorem sampleReading_binds :
    ProofBinds id (sampleReading ⟨1, by decide⟩ 0) (sampleReading ⟨1048576, by decide⟩ 255) :=
  readDvdRetainedSectorProof_binds Function.injective_id (sampleRetained_image _ _)
    (sampleRetained_image _ _)

end RipDvd
