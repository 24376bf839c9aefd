import RipDvd.Blocks
import RipDvd.FailureProtocol

namespace RipDvd
set_option autoImplicit true

def READ_BLOCKS : Nat := 31
def RECOVERY_READ_ATTEMPTS : Nat := 2

/-- What the drive library returns for one read; it never returns more than it was asked for. -/
inductive TransportRead (requested : Nat) where
  | success (blocks : Nat) (bytes : List UInt8) (positive : 0 < blocks)
      (bounded : blocks ≤ requested)
      (length_bytes : bytes.length = blocks * DVD_SECTOR_SIZE_BYTES)
  | failure (io : Option SgIo)
  | ended
  | fatal

/-- The drive, and the parent process that authorises boundary probes, read by read. -/
structure CopyEnvironment where
  transport : Nat → (request : ReadRequest) → TransportRead request.requestedBlockCount
  authorizes : Nat → Bool

inductive BackendRead (requested : Nat) where
  | success (blocks : Nat) (bytes : List UInt8) (positive : 0 < blocks)
      (bounded : blocks ≤ requested)
      (length_bytes : bytes.length = blocks * DVD_SECTOR_SIZE_BYTES)
  | failed (failure : ReadFailure)
  | ended
  | fatal

/-- The medium errors met on the way to a possible boundary. -/
structure BoundaryConflictEvidence where
  mediumErrorLbas : List Nat
  hasUnlocatedMediumError : Bool
  deriving DecidableEq

structure InitialCopyState where
  skippedSectorBitmap : List UInt8
  skippedSectorCount : Nat
  skippedRegionCount : Nat
  skippedRequestCount : Nat
  diagnostics : List ReadFailure
  deriving DecidableEq

def INITIAL_COPY_DIAGNOSTIC_LIMIT : Nat := 64

/-- A read of the drive, which is sent to the sector first when the read is absolute. -/
structure IssuedRead where
  request : ReadRequest
  absolute : Bool
  deriving DecidableEq

structure CopyState where
  issued : List IssuedRead
  image : List UInt8
  bytesProcessed : Nat
  recovery : RecoveryState
  deriving DecidableEq

def CopyState.reads (s : CopyState) : Nat := s.issued.length

/-- A result the reader prints, with what it is printed from. -/
structure PrintedResult where
  failure : ReadFailure
  recovery : RecoveryState
  retainedImageByteCount : Nat
  deriving DecidableEq

/-- How a step of a copy ends: it goes on, it fails, or it printed a terminal result. -/
inductive CopyStatus where
  | done
  | failed
  | readFailure (printed : PrintedResult)
  deriving DecidableEq

def backendRead (env : CopyEnvironment) (s : CopyState) (request : ReadRequest)
    (absolute : Bool) : BackendRead request.requestedBlockCount × CopyState :=
  let after := { s with issued := s.issued ++ [⟨request, absolute⟩] }
  match env.transport s.reads request with
  | .success blocks bytes positive bounded length_bytes =>
    (.success blocks bytes positive bounded length_bytes, after)
  | .failure io => (.failed (classifyReadFailure (readScopeEnd request io)), after)
  | .ended => (.ended, after)
  | .fatal => (.fatal, after)

/-- `read_initial_content_with_deferred_retry`: the read, and the retry ordinal it ended with. -/
def readInitialContentWithDeferredRetry (env : CopyEnvironment) (s : CopyState)
    (startLba blockCount : Nat) (absolute : Bool) : BackendRead blockCount × Nat × CopyState :=
  match backendRead env s ⟨startLba, blockCount, 0⟩ absolute with
  | (.failed failure, s) =>
    if failure.status = .terminalFailure ∧ hasDeferredMediumSense failure = true then
      let (result, s) := backendRead env s ⟨startLba, blockCount, 1⟩ true
      (result, 1, s)
    else (.failed failure, 0, s)
  | (result, s) => (result, 0, s)

/-- `consume_blocks`: sectors go to the end of the image. -/
def CopyState.consumeBlocks (s : CopyState) (blockCount : Nat) (bytes : List UInt8) : CopyState :=
  { s with
    image := s.image ++ bytes
    bytesProcessed := s.bytesProcessed + blockCount * DVD_SECTOR_SIZE_BYTES }

def zeroSectors (blockCount : Nat) : List UInt8 :=
  List.replicate (blockCount * DVD_SECTOR_SIZE_BYTES) 0

def recordBoundaryMediumError (evidence : BoundaryConflictEvidence) (failure : ReadFailure) :
    BoundaryConflictEvidence :=
  match failure.sense.informationLba with
  | none => { evidence with hasUnlocatedMediumError := true }
  | some lba =>
    if lba ∈ evidence.mediumErrorLbas then evidence
    else if READ_BLOCKS ≤ evidence.mediumErrorLbas.length then
      { evidence with hasUnlocatedMediumError := true }
    else { evidence with mediumErrorLbas := evidence.mediumErrorLbas ++ [lba] }

def boundaryConflictsWithMediumError (evidence : BoundaryConflictEvidence)
    (boundaryFailure : ReadFailure) : Bool :=
  evidence.hasUnlocatedMediumError ||
    match boundaryFailure.sense.informationLba with
    | none => true
    | some lba => lba ∈ evidence.mediumErrorLbas

def normalizedFailureEvidenceMatches (left right : ReadFailure) : Bool :=
  left.category = right.category && left.status = right.status &&
    left.completion.scsiStatus = right.completion.scsiStatus &&
    left.completion.hostStatus = right.completion.hostStatus &&
    left.completion.driverStatus = right.completion.driverStatus &&
    left.sense.responseCode.getD 0 = right.sense.responseCode.getD 0 &&
    left.sense.senseKey.getD 0 = right.sense.senseKey.getD 0 &&
    left.sense.asc.getD 0 = right.sense.asc.getD 0 &&
    left.sense.ascq.getD 0 = right.sense.ascq.getD 0 &&
    left.sense.informationLba = right.sense.informationLba

/-- Print a failure; a result with a boundary is remembered in the recovery state. -/
def CopyState.emit (s : CopyState) (failure : ReadFailure) (retainedImageByteCount : Nat) :
    CopyStatus × CopyState :=
  (.readFailure { failure, recovery := s.recovery, retainedImageByteCount },
    { s with recovery := s.recovery.recordBoundaryFailure failure retainedImageByteCount })

def emitUnprovenBoundaryFailure (s : CopyState) (failure : ReadFailure) (bytesProcessed : Nat) :
    CopyStatus × CopyState :=
  let s := { s with recovery := { s.recovery with boundaryProven := false } }
  s.emit failure (boundaryRetainedImageByteCount (some s.recovery) bytesProcessed)

/-- `boundary_probe_read`: the parent must agree before the read and again after it. -/
def boundaryProbeRead (env : CopyEnvironment) (s : CopyState) (request : ReadRequest) :
    BackendRead request.requestedBlockCount × CopyState :=
  if ¬env.authorizes (2 * s.reads) then (.fatal, s)
  else
    let (result, after) := backendRead env s request true
    if ¬env.authorizes (2 * s.reads + 1) then (.fatal, after) else (result, after)

inductive PrefixRead where
  | reached (s : CopyState)
  | refused (s : CopyState)
  | fatal (s : CopyState)

/-- Read on to the candidate, sector groups at a time. -/
def readPrefix (env : CopyEnvironment) (candidateLba retainedLba : Nat) (s : CopyState) :
    PrefixRead :=
  if retainedLba < candidateLba then
    match boundaryProbeRead env s
      ⟨retainedLba, min (candidateLba - retainedLba) READ_BLOCKS, 0⟩ with
    | (.fatal, s) => .fatal s
    | (.success blocks bytes _ _ _, s) =>
      readPrefix env candidateLba (retainedLba + blocks) (s.consumeBlocks blocks bytes)
    | (_, s) => .refused s
  else .reached s
  termination_by candidateLba - retainedLba

/-- A probe that failed beyond the end of the medium, at the very sector it asked for. -/
def outOfRangeAt (lba : Nat) {count : Nat} (result : BackendRead count) : Option ReadFailure :=
  match result with
  | .failed failure =>
    if failure.status = .outOfRangeError ∧ failure.sense.informationLba = some lba then some failure
    else none
  | _ => none

inductive ProbeOutcome (α : Type) where
  | agreed (value : α)
  | disagreed
  | fatal

/-- The candidate itself, read again and again; the last failure stands for the boundary. -/
def confirmCandidate (env : CopyEnvironment) (initialFailure : ReadFailure) (candidateLba : Nat) :
    List Nat → Option ReadFailure → CopyState → ProbeOutcome (Option ReadFailure) × CopyState
  | [], confirmation, s => (.agreed confirmation, s)
  | ordinal :: ordinals, _, s =>
    match boundaryProbeRead env s ⟨candidateLba, 1, ordinal⟩ with
    | (.fatal, s) => (.fatal, s)
    | (result, s) =>
      match outOfRangeAt candidateLba result with
      | none => (.disagreed, s)
      | some failure =>
        if normalizedFailureEvidenceMatches initialFailure failure then
          confirmCandidate env initialFailure candidateLba ordinals (some failure) s
        else (.disagreed, s)

/-- Sectors above the candidate must be beyond the end too. -/
def probeUpper (env : CopyEnvironment) (totalSectorCount : Nat) :
    List Nat → Nat → CopyState → ProbeOutcome Unit × CopyState
  | [], _, s => (.agreed (), s)
  | probeLba :: probes, previousProbeLba, s =>
    if totalSectorCount ≤ probeLba ∨ probeLba = previousProbeLba then
      probeUpper env totalSectorCount probes previousProbeLba s
    else
      match boundaryProbeRead env s ⟨probeLba, 1, 0⟩ with
      | (.fatal, s) => (.fatal, s)
      | (result, s) =>
        match outOfRangeAt probeLba result with
        | none => (.disagreed, s)
        | some _ => probeUpper env totalSectorCount probes probeLba s

/-- The sector before the candidate still reads as the image has it. -/
def precedingAgrees (env : CopyEnvironment) (candidateLba : Nat) (s : CopyState) :
    ProbeOutcome Unit × CopyState :=
  let retainedSector := slice s.image ((candidateLba - 1) * DVD_SECTOR_SIZE_BYTES)
    DVD_SECTOR_SIZE_BYTES
  if retainedSector.length ≠ DVD_SECTOR_SIZE_BYTES then (.fatal, s)
  else
    match boundaryProbeRead env s ⟨candidateLba - 1, 1, 0⟩ with
    | (.fatal, s) => (.fatal, s)
    | (.success _ bytes _ _ _, s) => (if bytes = retainedSector then .agreed () else .disagreed, s)
    | (_, s) => (.disagreed, s)

/-- The probes around a candidate, once the image reaches up to it. -/
def probeCandidate (env : CopyEnvironment) (initialFailure : ReadFailure)
    (candidateLba totalSectorCount : Nat) (s : CopyState) :
    ProbeOutcome ReadFailure × CopyState :=
  match precedingAgrees env candidateLba s with
  | (.fatal, s) => (.fatal, s)
  | (.disagreed, s) => (.disagreed, s)
  | (.agreed (), s) =>
    match confirmCandidate env initialFailure candidateLba
      (List.range BOUNDARY_CONFIRMATION_READS) none s with
    | (.fatal, s) => (.fatal, s)
    | (.disagreed, s) => (.disagreed, s)
    | (.agreed none, s) => (.disagreed, s)
    | (.agreed (some confirmation), s) =>
      match probeUpper env totalSectorCount [candidateLba + 1, totalSectorCount - 1]
        candidateLba s with
      | (.fatal, s) => (.fatal, s)
      | (.disagreed, s) => (.disagreed, s)
      | (.agreed (), s) => (.agreed confirmation, s)

/-- `prove_boundary_candidate`; `unproven` is where the image ends if the proof fails. -/
def proveBoundaryCandidate (env : CopyEnvironment) (initialFailure : ReadFailure)
    (unproven : CopyState → Nat) (declaredByteCount : Nat) (s : CopyState) :
    CopyStatus × CopyState :=
  let totalSectorCount := declaredByteCount / DVD_SECTOR_SIZE_BYTES
  let candidateLba := initialFailure.sense.informationLba.getD 0
  let retainedLba := s.bytesProcessed / DVD_SECTOR_SIZE_BYTES
  if ¬s.recovery.allowBoundaryProof ∨ candidateLba = 0 ∨ totalSectorCount ≤ candidateLba ∨
      initialFailure.completion.requestedLba ≠ retainedLba ∨ candidateLba < retainedLba ∨
      initialFailure.completion.requestedBlockCount ≤ candidateLba - retainedLba then
    emitUnprovenBoundaryFailure s initialFailure (unproven s)
  else
    match readPrefix env candidateLba retainedLba s with
    | .fatal s => (.failed, s)
    | .refused s => emitUnprovenBoundaryFailure s initialFailure (unproven s)
    | .reached s =>
      match probeCandidate env initialFailure candidateLba totalSectorCount s with
      | (.fatal, s) => (.failed, s)
      | (.disagreed, s) => emitUnprovenBoundaryFailure s initialFailure (unproven s)
      | (.agreed confirmation, s) =>
        let s := { s with recovery := { s.recovery with boundaryProven := true } }
        s.emit confirmation (candidateLba * DVD_SECTOR_SIZE_BYTES)

inductive RangeRead (requested : Nat) where
  | success (blocks : Nat) (positive : 0 < blocks) (bounded : blocks ≤ requested)
      (evidence : BoundaryConflictEvidence) (s : CopyState)
  | unreadable (evidence : BoundaryConflictEvidence) (s : CopyState)
  | stopped (status : CopyStatus) (s : CopyState)

/-- The attempts at one range, until one of them is anything but a medium error. -/
def attemptRange (env : CopyEnvironment) (declaredByteCount startLba blockCount : Nat) :
    List Nat → BoundaryConflictEvidence → CopyState → RangeRead blockCount
  | [], evidence, s => .unreadable evidence s
  | ordinal :: ordinals, evidence, s =>
    match backendRead env s ⟨startLba, blockCount, ordinal⟩ true with
    | (.fatal, s) => .stopped .failed s
    | (.ended, s) => .stopped .failed s
    | (.success blocks bytes positive bounded _, s) =>
      .success blocks positive bounded evidence (s.consumeBlocks blocks bytes)
    | (.failed failure, s) =>
      if failure.status = .mediumError then
        attemptRange env declaredByteCount startLba blockCount ordinals
          (recordBoundaryMediumError evidence failure) s
      else if failure.status = .outOfRangeError then
        let unprovenBytesProcessed := s.bytesProcessed
        let (status, s) := if boundaryConflictsWithMediumError evidence failure then
            emitUnprovenBoundaryFailure s failure unprovenBytesProcessed
          else proveBoundaryCandidate env failure (fun _ => unprovenBytesProcessed)
            declaredByteCount s
        .stopped status s
      else
        let (status, s) := s.emit failure
          (boundaryRetainedImageByteCount (some s.recovery) s.bytesProcessed)
        .stopped status s

/-- `recover_range`: read a range by halves, down to the sectors that stay unreadable. -/
def recoverRange (env : CopyEnvironment) (declaredByteCount startLba blockCount firstRetryOrdinal :
    Nat) (evidence : BoundaryConflictEvidence) (s : CopyState) :
    CopyStatus × BoundaryConflictEvidence × CopyState :=
  match attemptRange env declaredByteCount startLba blockCount
    ((List.range RECOVERY_READ_ATTEMPTS).map (firstRetryOrdinal + ·)) evidence s with
  | .stopped status s => (status, evidence, s)
  | .success blocks _ _ evidence s =>
    if blocks = blockCount then (.done, evidence, s)
    else recoverRange env declaredByteCount (startLba + blocks) (blockCount - blocks) 0 evidence s
  | .unreadable evidence s =>
    if blockCount ≤ 1 then
      let s := s.consumeBlocks 1 (zeroSectors 1)
      (.done, evidence, { s with recovery := s.recovery.markBadSector startLba })
    else
      match recoverRange env declaredByteCount startLba (blockCount / 2) 0 evidence s with
      | (.done, evidence, s) =>
        recoverRange env declaredByteCount (startLba + blockCount / 2)
          (blockCount - blockCount / 2) 0 evidence s
      | stopped => stopped
  termination_by blockCount

/-- `record_initial_copy_skip`. -/
def recordInitialCopySkip (initialCopy : InitialCopyState) (failure : ReadFailure)
    (startLba blockCount : Nat) : InitialCopyState :=
  { skippedSectorBitmap :=
      (List.range' startLba blockCount).foldl setBitmapBit initialCopy.skippedSectorBitmap
    skippedSectorCount := initialCopy.skippedSectorCount + blockCount
    skippedRegionCount := if startLba = 0 ∨
        ¬bitmapBit initialCopy.skippedSectorBitmap (startLba - 1) then
      initialCopy.skippedRegionCount + 1 else initialCopy.skippedRegionCount
    skippedRequestCount := initialCopy.skippedRequestCount + 1
    diagnostics := if initialCopy.diagnostics.length < INITIAL_COPY_DIAGNOSTIC_LIMIT then
      initialCopy.diagnostics ++ [failure] else initialCopy.diagnostics }

/-- `read_disc` with a recovery state; an initial copy skips what cannot be read. -/
def readDisc (env : CopyEnvironment) (sizeBytes blocksRemaining : Nat)
    (initialCopy : Option InitialCopyState) (requireAbsoluteRead : Bool) (s : CopyState) :
    CopyStatus × Option InitialCopyState × CopyState :=
  if _hremaining : blocksRemaining = 0 then (.done, initialCopy, s)
  else
    let requested := min blocksRemaining READ_BLOCKS
    let startLba := s.bytesProcessed / DVD_SECTOR_SIZE_BYTES
    let (result, retryOrdinal, s) := if s.bytesProcessed = 0 then
        readInitialContentWithDeferredRetry env s startLba requested requireAbsoluteRead
      else
        let (result, s) := backendRead env s ⟨startLba, requested, 0⟩ requireAbsoluteRead
        (result, 0, s)
    match result with
    | .fatal => (.failed, initialCopy, s)
    | .ended => (.failed, initialCopy, s)
    | .success blocks bytes _ _ _ =>
      readDisc env sizeBytes (blocksRemaining - blocks) initialCopy false
        (s.consumeBlocks blocks bytes)
    | .failed failure =>
      if failure.status = .mediumError then
        match initialCopy with
        | some initialCopy =>
          readDisc env sizeBytes (blocksRemaining - requested)
            (some (recordInitialCopySkip initialCopy failure startLba requested))
            (0 < blocksRemaining - requested) (s.consumeBlocks requested (zeroSectors requested))
        | none =>
          let evidence := recordBoundaryMediumError ⟨[], false⟩ failure
          match recoverRange env sizeBytes startLba requested (retryOrdinal + 1) evidence s with
          | (.done, _, s) =>
            readDisc env sizeBytes (blocksRemaining - requested) none
              (0 < blocksRemaining - requested) s
          | (status, _, s) => (status, none, s)
      else
        let (status, s) := if failure.status = .outOfRangeError then
            proveBoundaryCandidate env failure (·.bytesProcessed) sizeBytes s
          else s.emit failure (boundaryRetainedImageByteCount (some s.recovery) s.bytesProcessed)
        (status, initialCopy, s)
  termination_by blocksRemaining
  decreasing_by
    all_goals
      have hblocks : 0 < READ_BLOCKS := by decide
      omega

def emptyRecovery (bitmapByteCount : Nat) : RecoveryState :=
  { badSectorBitmap := List.replicate bitmapByteCount 0
    badSectorCount := 0
    badAreaCount := 0
    allowBoundaryProof := true
    includeBoundaryRecoverySnapshot := false
    boundaryFailure := false
    boundaryProven := false
    boundaryRetainedImageByteCount := 0 }

def bitmapByteCount (sizeBytes : Nat) : Nat := (sizeBytes / DVD_SECTOR_SIZE_BYTES + 7) / 8

/-- `run_copy`: how the copy ends, and what it leaves. -/
def runCopy (env : CopyEnvironment) (sizeBytes : Nat) : CopyStatus × CopyState :=
  let (status, _, s) := readDisc env sizeBytes (sizeBytes / DVD_SECTOR_SIZE_BYTES) none false {
    issued := []
    image := []
    bytesProcessed := 0
    recovery := emptyRecovery (bitmapByteCount sizeBytes) }
  (status, s)

/-- `run_initial_copy`: its own recovery state has no map. -/
def runInitialCopy (env : CopyEnvironment) (sizeBytes : Nat) :
    CopyStatus × Option InitialCopyState × CopyState :=
  readDisc env sizeBytes (sizeBytes / DVD_SECTOR_SIZE_BYTES)
    (some {
      skippedSectorBitmap := List.replicate (bitmapByteCount sizeBytes) 0
      skippedSectorCount := 0
      skippedRegionCount := 0
      skippedRequestCount := 0
      diagnostics := [] }) false {
    issued := []
    image := []
    bytesProcessed := 0
    recovery := emptyRecovery 0 }

/-- `run_boundary_resume`: the copy goes on where the retained image ends. -/
def runBoundaryResume (env : CopyEnvironment) (sizeBytes imageByteCount : Nat)
    (image : List UInt8) : CopyStatus × CopyState :=
  if sizeBytes ≤ imageByteCount ∨ imageByteCount % DVD_SECTOR_SIZE_BYTES ≠ 0 ∨
      image.length < imageByteCount ∨ sizeBytes < image.length ∨
      image.length % DVD_SECTOR_SIZE_BYTES ≠ 0 then
    (.failed, { issued := [], image, bytesProcessed := 0, recovery := emptyRecovery 0 })
  else
    let (status, _, s) := readDisc env sizeBytes
      ((sizeBytes - imageByteCount) / DVD_SECTOR_SIZE_BYTES) none (0 < imageByteCount) {
        issued := []
        image := image.take imageByteCount
        bytesProcessed := imageByteCount
        recovery := emptyRecovery (bitmapByteCount sizeBytes) }
    (status, s)

inductive SectorRead where
  | recovered (s : CopyState)
  | unreadable (s : CopyState)
  | stopped (status : CopyStatus) (s : CopyState)

/-- The attempts of a resume at one sector of its map. -/
def attemptSector (env : CopyEnvironment) (sizeBytes lba : Nat) :
    List Nat → BoundaryConflictEvidence → CopyState → SectorRead
  | [], _, s => .unreadable s
  | ordinal :: ordinals, evidence, s =>
    match backendRead env s ⟨lba, 1, ordinal⟩ true with
    | (.fatal, s) => .stopped .failed s
    | (.ended, s) => .stopped .failed s
    | (.success _ bytes _ _ _, s) =>
      .recovered { s with image := patch s.image (lba * DVD_SECTOR_SIZE_BYTES) bytes }
    | (.failed failure, s) =>
      if failure.status = .mediumError then
        attemptSector env sizeBytes lba ordinals (recordBoundaryMediumError evidence failure) s
      else if failure.status = .outOfRangeError then
        let (status, s) := if boundaryConflictsWithMediumError evidence failure then
            emitUnprovenBoundaryFailure s failure sizeBytes
          else proveBoundaryCandidate env failure (fun _ => sizeBytes) sizeBytes
            { s with bytesProcessed := lba * DVD_SECTOR_SIZE_BYTES }
        .stopped status s
      else
        let (status, s) := s.emit failure sizeBytes
        .stopped status s

/-- The loop of `run_resume` over the sectors of the medium. -/
def resumeSectors (env : CopyEnvironment) (sizeBytes : Nat) (priorBadSectorBitmap : List UInt8) :
    List Nat → CopyState → CopyStatus × CopyState
  | [], s => (.done, s)
  | lba :: lbas, s =>
    if ¬bitmapBit priorBadSectorBitmap lba then
      resumeSectors env sizeBytes priorBadSectorBitmap lbas s
    else
      match attemptSector env sizeBytes lba (List.range RECOVERY_READ_ATTEMPTS) ⟨[], false⟩ s with
      | .stopped status s => (status, s)
      | .recovered s =>
        resumeSectors env sizeBytes priorBadSectorBitmap lbas
          { s with bytesProcessed := s.bytesProcessed + DVD_SECTOR_SIZE_BYTES }
      | .unreadable s =>
        resumeSectors env sizeBytes priorBadSectorBitmap lbas { s with
          image := patch s.image (lba * DVD_SECTOR_SIZE_BYTES) (zeroSectors 1)
          bytesProcessed := s.bytesProcessed + DVD_SECTOR_SIZE_BYTES
          recovery := s.recovery.markBadSector lba }

/-- `run_resume`: read the sectors of the prior map again; its proof carries the new map. -/
def runResume (env : CopyEnvironment) (sizeBytes : Nat) (priorBadSectorBitmap : List UInt8)
    (priorBadSectorCount : Nat) (image : List UInt8) : CopyStatus × CopyState :=
  let s : CopyState := {
    issued := []
    image
    bytesProcessed := sizeBytes - priorBadSectorCount * DVD_SECTOR_SIZE_BYTES
    recovery := { emptyRecovery (bitmapByteCount sizeBytes) with
      includeBoundaryRecoverySnapshot := true } }
  if image.length ≠ sizeBytes then (.failed, s)
  else resumeSectors env sizeBytes priorBadSectorBitmap
    (List.range (sizeBytes / DVD_SECTOR_SIZE_BYTES)) s

end RipDvd
