import RipDvd.BoundaryProof

namespace RipDvd
set_option autoImplicit true

/-- A boundary printed as proven, the image before it and the reads that prove it. -/
structure ProvenImage (env : CopyEnvironment) (declared since : Nat) (prior : Prior)
    (marked : Nat → Prop) (first : ReadFailure) (printed : PrintedResult) (s : CopyState) :
    Prop where
  status : printed.failure.status = .outOfRangeError
  information : printed.failure.sense.informationLba = some first.candidateLba
  positive : 0 < first.candidateLba
  inside : first.candidateLba < declared / DVD_SECTOR_SIZE_BYTES
  retained : printed.retainedImageByteCount = first.candidateLba * DVD_SECTOR_SIZE_BYTES
  failed : s.recovery.boundaryFailure = true
  cut : s.recovery.boundaryRetainedImageByteCount = printed.retainedImageByteCount
  length : first.candidateLba * DVD_SECTOR_SIZE_BYTES ≤ s.image.length
  written : ∀ i < first.candidateLba, Written env s.issued prior marked i
    (slice s.image (i * DVD_SECTOR_SIZE_BYTES) DVD_SECTOR_SIZE_BYTES)
  probed : ProbedBoundary env (declared / DVD_SECTOR_SIZE_BYTES) first.candidateLba since first
    s.image s.issued

/-- A boundary printed without a proof, and the image that is retained. -/
structure UnprovenImage (env : CopyEnvironment) (prior : Prior) (marked : Nat → Prop)
    (printed : PrintedResult) (s : CopyState) : Prop where
  failed : s.recovery.boundaryFailure = true
  cut : s.recovery.boundaryRetainedImageByteCount = printed.retainedImageByteCount
  sectors : printed.retainedImageByteCount % DVD_SECTOR_SIZE_BYTES = 0
  length : printed.retainedImageByteCount ≤ s.image.length
  written : ∀ i, i * DVD_SECTOR_SIZE_BYTES < printed.retainedImageByteCount →
    Written env s.issued prior marked i
      (slice s.image (i * DVD_SECTOR_SIZE_BYTES) DVD_SECTOR_SIZE_BYTES)
  clear : ∀ i, i * DVD_SECTOR_SIZE_BYTES < printed.retainedImageByteCount →
    printed.recovery.sectorIsBad i = false

/-- What a boundary that was printed says of the image. -/
def BoundaryImage (env : CopyEnvironment) (declared since : Nat) (prior : Prior)
    (marked : Nat → Prop) (first : ReadFailure) : CopyStatus × CopyState → Prop
  | (.readFailure printed, s) =>
    if printed.recovery.boundaryProven = true then
      ProvenImage env declared since prior marked first printed s
    else UnprovenImage env prior marked printed s
  | _ => True

variable {env : CopyEnvironment} {s s' : CopyState} {prior : Prior} {marked : Nat → Prop}
  {lba declared since : Nat} {failure : ReadFailure}

theorem CopyState.Filled.printed_unproven {bytes : Nat} (h : s.Filled env prior marked lba)
    (hstatus : failure.status = .outOfRangeError) (hcounted : s.recovery.Counted)
    (hle : bytes ≤ lba * DVD_SECTOR_SIZE_BYTES) (hsectors : bytes % DVD_SECTOR_SIZE_BYTES = 0) :
    BoundaryImage env declared since prior marked first
      (emitUnprovenBoundaryFailure s failure bytes) := by
  have hclear : ({ s.recovery with boundaryProven := false } : RecoveryState).Counted := hcounted
  obtain ⟨hbound, hmod, hbad⟩ := boundaryRetainedImageByteCount_clear hclear hsectors
  rw [emitUnprovenBoundaryFailure]
  simp only [CopyState.emit, BoundaryImage, Bool.false_eq_true, if_false]
  constructor
  case failed => simp only [RecoveryState.recordBoundaryFailure, if_pos hstatus]
  case cut => simp only [RecoveryState.recordBoundaryFailure, if_pos hstatus]
  case sectors => exact hmod
  case length =>
    rw [h.length]
    exact hbound.trans hle
  case written =>
    intro i hi
    exact h.written i (Nat.lt_of_mul_lt_mul_right (hi.trans_le (hbound.trans hle)))
  case clear => exact hbad

/-- A boundary proof of a copy without gaps ends with the image that it prints. -/
theorem proveBoundaryCandidate_image {unproven : CopyState → Nat}
    (h : s.Filled env prior marked lba) (hcandidate : lba ≤ failure.candidateLba)
    (hcounted : s.recovery.Counted) (hstatus : failure.status = .outOfRangeError)
    (hunproven : ∀ s₁ lba', lba ≤ lba' → s₁.Filled env prior marked lba' →
      unproven s₁ ≤ lba' * DVD_SECTOR_SIZE_BYTES ∧ unproven s₁ % DVD_SECTOR_SIZE_BYTES = 0) :
    BoundaryImage env declared s.reads prior marked failure
      (proveBoundaryCandidate env failure unproven declared s) := by
  have hfills := readPrefix_fills h hcandidate
  have hend := proveBoundaryCandidate_end env failure unproven declared s
  rw [← h.atLba] at hfills
  generalize proveBoundaryCandidate env failure unproven declared s = outcome at hend ⊢
  cases hend with
  | failed s₁ => trivial
  | unproven s₁ hstate =>
    have hrefused : ∃ lba', lba ≤ lba' ∧ s₁.Filled env prior marked lba' ∧
        s₁.recovery = s.recovery := by
      rcases hstate with rfl | hread | ⟨s₀, hread, honly⟩
      · exact ⟨lba, le_rfl, h, rfl⟩
      · rw [hread] at hfills
        obtain ⟨lba', hfrom, hfilled, -, hsame⟩ := hfills
        exact ⟨lba', h.atLba ▸ hfrom, hfilled, hsame⟩
      · rw [hread] at hfills
        obtain ⟨hfilled, -, hsame⟩ := hfills
        exact ⟨failure.candidateLba, hcandidate, hfilled.probes honly,
          honly.recovery.trans hsame⟩
    obtain ⟨lba', hfrom, hfilled, hsame⟩ := hrefused
    obtain ⟨hle, hsectors⟩ := hunproven s₁ lba' hfrom hfilled
    have hcounted' : s₁.recovery.Counted := by rwa [hsame]
    exact hfilled.printed_unproven hstatus hcounted' hle hsectors
  | proven s₁ s₂ confirmation hpositive hinside hread hprobe =>
    rw [hread] at hfills
    obtain ⟨hfilled, hissued, -⟩ := hfills
    obtain ⟨honly, hprobed, hconfirmed, hinformation⟩ := probeCandidate_agreed hprobe
    have hfilled' := hfilled.probes honly
    simp only [CopyState.emit, BoundaryImage, if_true]
    constructor
    case status => exact hconfirmed
    case information => exact hinformation
    case positive => exact hpositive
    case inside => exact hinside
    case retained => rfl
    case failed => simp only [RecoveryState.recordBoundaryFailure, if_pos hconfirmed]
    case cut => simp only [RecoveryState.recordBoundaryFailure, if_pos hconfirmed]
    case length => exact hfilled'.length.ge
    case written => exact hfilled'.written
    case probed =>
      have hsince : s.reads ≤ s₁.reads := hissued.length_le
      obtain ⟨⟨read, hmem, hnumber, hrequest, hbytes⟩, hconf, habove⟩ := hprobed
      refine ⟨⟨read, hmem, hsince.trans hnumber, hrequest, ?_⟩, ?_, ?_⟩
      · rw [hbytes]
        exact congrArg (slice · _ _) honly.image.symm
      · intro ordinal ho
        obtain ⟨read, hmem, hnumber, hrest⟩ := hconf ordinal ho
        exact ⟨read, hmem, hsince.trans hnumber, hrest⟩
      · intro probe hp hlt hne
        obtain ⟨read, hmem, hnumber, hrest⟩ := habove probe hp hlt hne
        exact ⟨read, hmem, hsince.trans hnumber, hrest⟩

/-- The evidence keeps where a medium error was, or that this is not known. -/
def BoundaryConflictEvidence.Notes (evidence : BoundaryConflictEvidence) (failure : ReadFailure) :
    Prop :=
  evidence.hasUnlocatedMediumError = true ∨
    ∃ lba ∈ failure.sense.informationLba, lba ∈ evidence.mediumErrorLbas

theorem recordBoundaryMediumError_notes (evidence : BoundaryConflictEvidence)
    (failure : ReadFailure) : (recordBoundaryMediumError evidence failure).Notes failure := by
  rw [recordBoundaryMediumError]
  split
  · exact .inl rfl
  next lba hlba =>
    split
    next hold => exact .inr ⟨lba, hlba, hold⟩
    next =>
      split
      · exact .inl rfl
      · exact .inr ⟨lba, hlba, List.mem_append_right _ List.mem_cons_self⟩

theorem BoundaryConflictEvidence.Notes.record {evidence : BoundaryConflictEvidence}
    {other : ReadFailure} (h : evidence.Notes other) (failure : ReadFailure) :
    (recordBoundaryMediumError evidence failure).Notes other := by
  rw [recordBoundaryMediumError]
  split
  · exact .inl rfl
  · split
    · exact h
    · split
      · exact .inl rfl
      · apply h.imp_right
        intro hlocated
        obtain ⟨lba, hlba, hin⟩ := hlocated
        exact ⟨lba, hlba, List.mem_append_left _ hin⟩

/-- A boundary that does not conflict with the evidence lies elsewhere. -/
theorem BoundaryConflictEvidence.Notes.elsewhere {evidence : BoundaryConflictEvidence}
    {other : ReadFailure} (h : evidence.Notes other)
    (hclear : ¬boundaryConflictsWithMediumError evidence failure = true) :
    ∃ lba ∈ other.sense.informationLba, lba ≠ failure.candidateLba := by
  simp only [boundaryConflictsWithMediumError, Bool.or_eq_true, not_or] at hclear
  obtain ⟨lba, hlba, hin⟩ := h.resolve_left hclear.1
  refine ⟨lba, hlba, fun heq => hclear.2 ?_⟩
  cases hfailure : failure.sense.informationLba with
  | none => rfl
  | some candidate =>
    have hsame : failure.candidateLba = candidate := by
      rw [ReadFailure.candidateLba, hfailure]
      rfl
    simp only [decide_eq_true_eq]
    rwa [← hsame, ← heq]

/-- The reads of one request of a copy, behind the earlier ones, with the medium errors they met. -/
structure Requested (env : CopyEnvironment) (start count : Nat)
    (evidence : BoundaryConflictEvidence) (earlier request : List IssuedRead) : Prop where
  head : ∃ read rest, request = read :: rest ∧ read.request.requestedLba = start ∧
    read.request.requestedBlockCount = count
  before : ∀ read ∈ earlier, read.request.requestedLba < start
  within : ∀ read ∈ request,
    start ≤ read.request.requestedLba ∧ read.request.requestedLba < start + count
  noted : ∀ read ∈ driveReads (earlier ++ request), earlier.length ≤ read.number →
    ∀ failure ∈ read.mediumFailure env, evidence.Notes failure

variable {start count : Nat} {evidence evidence' : BoundaryConflictEvidence}
  {earlier request : List IssuedRead}

theorem Requested.append {read : IssuedRead}
    (h : Requested env start count evidence earlier request)
    (hfrom : start ≤ read.request.requestedLba)
    (hto : read.request.requestedLba < start + count)
    (hkeeps : ∀ failure, evidence.Notes failure → evidence'.Notes failure)
    (hnoted : ∀ failure ∈ DriveRead.mediumFailure env
      ⟨(earlier ++ request).length, read.request⟩, evidence'.Notes failure) :
    Requested env start count evidence' earlier (request ++ [read]) := by
  constructor
  case head =>
    obtain ⟨first, rest, rfl, hstart, hcount⟩ := h.head
    exact ⟨first, rest ++ [read], rfl, hstart, hcount⟩
  case before => exact h.before
  case within =>
    intro other hother
    cases List.mem_append.1 hother with
    | inl hold => exact h.within other hold
    | inr hlast =>
      rw [List.mem_singleton.1 hlast]
      exact ⟨hfrom, hto⟩
  case noted =>
    intro other hother hnumber failure hfailure
    rw [← List.append_assoc, driveReads_append] at hother
    cases List.mem_append.1 hother with
    | inl hold => exact hkeeps failure (h.noted other hold hnumber failure hfailure)
    | inr hlast =>
      rw [List.mem_singleton.1 hlast] at hfailure
      exact hnoted failure hfailure

/-- The request that met a boundary: its reads are those of the copy from a sector on, the last of
them failed at the boundary and no medium error before it was there, or at a place unknown. -/
structure BoundaryRequest (env : CopyEnvironment) (first : ReadFailure) (since : Nat)
    (issued earlier request : List IssuedRead) (start count : Nat) : Prop where
  among : earlier ++ request <+: issued
  counted : (earlier ++ request).length = since
  head : ∃ read rest, request = read :: rest ∧ read.request.requestedLba = start ∧
    read.request.requestedBlockCount = count
  before : ∀ read ∈ earlier, read.request.requestedLba < start
  within : ∀ read ∈ request,
    start ≤ read.request.requestedLba ∧ read.request.requestedLba < start + count
  candidate : start ≤ first.candidateLba ∧ first.candidateLba < start + count
  last : ∃ read ∈ driveReads (earlier ++ request), read.number + 1 = since ∧
    read.failure env = some first
  status : first.status = .outOfRangeError
  elsewhere : ∀ read ∈ driveReads (earlier ++ request), earlier.length ≤ read.number →
    ∀ failure ∈ read.mediumFailure env,
      ∃ lba ∈ failure.sense.informationLba, lba ≠ first.candidateLba

/-- How a copy may stop at a boundary: with the image that it prints and, when it says that the
boundary is proven, with the request that met it. -/
def BoundaryStop (env : CopyEnvironment) (declared : Nat) (prior : Prior)
    (marks : CopyState → Nat → Prop) : CopyStatus × CopyState → Prop
  | (.readFailure printed, s) => printed.failure.status = .outOfRangeError →
    if printed.recovery.boundaryProven = true then
      ∃ first since earlier request start count,
        ProvenImage env declared since prior (marks s) first printed s ∧
        BoundaryRequest env first since s.issued earlier request start count
    else UnprovenImage env prior (marks s) printed s
  | _ => True

theorem ProvenImage.marks {marked' : Nat → Prop} {printed : PrintedResult}
    (h : ProvenImage env declared since prior marked first printed s)
    (hmarked : ∀ i, marked i → marked' i) :
    ProvenImage env declared since prior marked' first printed s :=
  { h with written := fun i hi => (h.written i hi).mono List.prefix_rfl (hmarked i) }

theorem UnprovenImage.marks {marked' : Nat → Prop} {printed : PrintedResult}
    (h : UnprovenImage env prior marked printed s) (hmarked : ∀ i, marked i → marked' i) :
    UnprovenImage env prior marked' printed s :=
  { h with written := fun i hi => (h.written i hi).mono List.prefix_rfl (hmarked i) }

theorem recordBoundaryFailure_map (recovery : RecoveryState) (failure : ReadFailure) (n : Nat) :
    (recovery.recordBoundaryFailure failure n).badSectorBitmap = recovery.badSectorBitmap := by
  rw [RecoveryState.recordBoundaryFailure]
  split <;> rfl

theorem emitUnproven_map (s : CopyState) (failure : ReadFailure) (bytes : Nat) :
    (emitUnprovenBoundaryFailure s failure bytes).2.recovery.badSectorBitmap =
      s.recovery.badSectorBitmap :=
  recordBoundaryFailure_map _ _ _

/-- What a boundary proof leaves of the copy: its reads stay, and its map. -/
theorem proveBoundaryCandidate_keeps {unproven : CopyState → Nat} {printed : PrintedResult}
    (h : s.Filled env prior marked lba) (hcandidate : lba ≤ failure.candidateLba)
    (hrun : proveBoundaryCandidate env failure unproven declared s = (.readFailure printed, s')) :
    s.issued <+: s'.issued ∧ s'.recovery.badSectorBitmap = s.recovery.badSectorBitmap := by
  have hfills := readPrefix_fills h hcandidate
  have hend := proveBoundaryCandidate_end env failure unproven declared s
  rw [← h.atLba] at hfills
  rw [hrun] at hend
  generalize houtcome : (CopyStatus.readFailure printed, s') = outcome at hend
  have hsame : outcome.2 = s' := by rw [← houtcome]
  rw [← hsame]
  clear hsame
  cases hend with
  | failed s₁ => cases houtcome
  | unproven s₁ hstate =>
    rw [emitUnproven_map]
    rcases hstate with rfl | hread | ⟨s₀, hread, honly⟩
    · exact ⟨List.prefix_rfl, rfl⟩
    · rw [hread] at hfills
      obtain ⟨-, -, -, hissued, hsame⟩ := hfills
      exact ⟨hissued, congrArg _ hsame⟩
    · rw [hread] at hfills
      obtain ⟨-, hissued, hsame⟩ := hfills
      exact ⟨hissued.trans honly.issued, congrArg _ (honly.recovery.trans hsame)⟩
  | proven s₁ s₂ confirmation hpositive hinside hread hprobe =>
    rw [hread] at hfills
    obtain ⟨-, hissued, hsame⟩ := hfills
    have honly := (probeCandidate_agreed hprobe).1
    refine ⟨hissued.trans honly.issued, ?_⟩
    have hmap := congrArg RecoveryState.badSectorBitmap (honly.recovery.trans hsame)
    exact (recordBoundaryFailure_map _ _ _).trans hmap

/-- A read that met the end of the medium, the last one of its request. -/
structure MeetsBoundary (env : CopyEnvironment) (declared start count lba : Nat)
    (earlier request : List IssuedRead) (failure : ReadFailure) (s : CopyState) : Prop where
  issued : s.issued = earlier ++ request
  range : start ≤ failure.candidateLba ∧ failure.candidateLba < start + count
  from_lba : lba ≤ failure.candidateLba
  last : ∃ read ∈ driveReads s.issued, read.number + 1 = s.reads ∧
    read.failure env = some failure
  status : failure.status = .outOfRangeError

theorem MeetsBoundary.met {issued : List IssuedRead}
    (hmeets : MeetsBoundary env declared start count lba earlier request failure s)
    (hrequested : Requested env start count evidence earlier request)
    (helsewhere : ∀ other, evidence.Notes other →
      ∃ lba ∈ other.sense.informationLba, lba ≠ failure.candidateLba)
    (hissued : s.issued <+: issued) :
    BoundaryRequest env failure s.reads issued earlier request start count := by
  constructor
  case among => exact hmeets.issued ▸ hissued
  case counted => exact congrArg List.length hmeets.issued.symm
  case head => exact hrequested.head
  case before => exact hrequested.before
  case within => exact hrequested.within
  case candidate => exact hmeets.range
  case last => exact hmeets.issued ▸ hmeets.last
  case status => exact hmeets.status
  case elsewhere =>
    intro read hread hnumber other hother
    exact helsewhere other (hrequested.noted read hread hnumber other hother)

/-- A boundary that conflicts with no medium error of its request is where the copy stops. -/
theorem MeetsBoundary.stop {unproven : CopyState → Nat} {marks : CopyState → Nat → Prop}
    (hmeets : MeetsBoundary env declared start count lba earlier request failure s)
    (hrequested : Requested env start count evidence earlier request)
    (h : s.Filled env prior marked lba) (hcounted : s.recovery.Counted)
    (helsewhere : ∀ other, evidence.Notes other →
      ∃ lba ∈ other.sense.informationLba, lba ≠ failure.candidateLba)
    (hmarks : ∀ s' : CopyState, s'.recovery.badSectorBitmap = s.recovery.badSectorBitmap →
      ∀ i, marked i → marks s' i)
    (hunproven : ∀ s₁ lba', lba ≤ lba' → s₁.Filled env prior marked lba' →
      unproven s₁ ≤ lba' * DVD_SECTOR_SIZE_BYTES ∧ unproven s₁ % DVD_SECTOR_SIZE_BYTES = 0) :
    BoundaryStop env declared prior marks
      (proveBoundaryCandidate env failure unproven declared s) := by
  have himage : BoundaryImage env declared s.reads prior marked failure
      (proveBoundaryCandidate env failure unproven declared s) :=
    proveBoundaryCandidate_image h hmeets.from_lba hcounted hmeets.status hunproven
  cases hrun : proveBoundaryCandidate env failure unproven declared s with
  | mk status s' =>
    cases status with
    | done => trivial
    | failed => trivial
    | readFailure printed =>
      obtain ⟨hissued, hmap⟩ := proveBoundaryCandidate_keeps h hmeets.from_lba hrun
      rw [hrun] at himage
      simp only [BoundaryImage] at himage
      simp only [BoundaryStop]
      intro _
      split at himage
      next hproven =>
        rw [if_pos hproven]
        exact ⟨failure, s.reads, earlier, request, start, count, himage.marks (hmarks s' hmap),
          hmeets.met hrequested helsewhere hissued⟩
      next hunproven' =>
        rw [if_neg hunproven']
        exact himage.marks (hmarks s' hmap)

theorem ReadFailure.Of.candidate {failure : ReadFailure} {request : ReadRequest}
    (hof : failure.Of request) (hstatus : failure.status = .outOfRangeError) :
    request.requestedLba ≤ failure.candidateLba ∧
      failure.candidateLba < request.requestedLba + request.requestedBlockCount := by
  have hmedium : failure.status ≠ .mediumError := by
    rw [hstatus]
    simp
  obtain ⟨lba, hlba⟩ := Option.isSome_iff_exists.1 ((hof.status hmedium).2 hstatus)
  have hsame : failure.candidateLba = lba := by
    rw [ReadFailure.candidateLba, hlba]
    rfl
  rw [hsame]
  exact hof.information hlba

/-- The sectors that a copy marked. -/
def CopyState.Marks (s : CopyState) (lba : Nat) : Prop := s.recovery.sectorIsBad lba = true

theorem CopyState.Marks.of_map (h : s.Marks lba)
    (hmap : s'.recovery.badSectorBitmap = s.recovery.badSectorBitmap) : s'.Marks lba := by
  rw [CopyState.Marks, RecoveryState.sectorIsBad, hmap]
  exact h

/-- A copy in the middle of a request, whose image reaches a sector. -/
structure CopyState.During (s : CopyState) (env : CopyEnvironment) (declared : Nat)
    (prior : Prior) (start count : Nat) (earlier : List IssuedRead)
    (evidence : BoundaryConflictEvidence) (lba : Nat) : Prop where
  filled : s.Filled env prior s.Marks lba
  reached : s.Reached True declared lba
  requested : ∃ request, s.issued = earlier ++ request ∧
    Requested env start count evidence earlier request

variable {failure : ReadFailure} {blocks ordinal : Nat}

/-- A read of a request that met a medium error is kept in the evidence. -/
theorem CopyState.During.note {first : Nat}
    (h : s.During env declared prior start count earlier evidence lba)
    (hread : backendRead env s ⟨first, blocks, ordinal⟩ absolute = (.failed failure, s'))
    (hfrom : start ≤ first) (hto : first < start + count) :
    s'.During env declared prior start count earlier
      (recordBoundaryMediumError evidence failure) lba := by
  obtain ⟨request, hissued, hrequested⟩ := h.requested
  have hstate := backendRead_state hread
  have hisOf : DriveRead.failure env ⟨s.reads, ⟨first, blocks, ordinal⟩⟩ = some failure :=
    backendRead_isOf hread
  constructor
  case filled =>
    have hfilled := h.filled.probes ⟨_, hstate⟩
    rw [hstate] at hfilled ⊢
    exact hfilled
  case reached => exact backendRead_reached hread h.reached
  case requested =>
    refine ⟨request ++ [⟨⟨first, blocks, ordinal⟩, absolute⟩], ?_, ?_⟩
    · rw [hstate, hissued, List.append_assoc]
    · apply hrequested.append hfrom hto fun other hother => hother.record failure
      intro other hother
      rw [← hissued, ← CopyState.reads, mediumFailure_of_failure hisOf] at hother
      split at hother
      · cases hother
        exact recordBoundaryMediumError_notes evidence failure
      · cases hother

/-- A read of a request that met no medium error. -/
theorem CopyState.During.issue {first : Nat}
    {result : BackendRead (ReadRequest.mk first blocks ordinal).requestedBlockCount}
    (h : s.During env declared prior start count earlier evidence lba)
    (hread : backendRead env s ⟨first, blocks, ordinal⟩ absolute = (result, s'))
    (hfrom : start ≤ first) (hto : first < start + count)
    (hmedium : DriveRead.mediumFailure env ⟨s.reads, ⟨first, blocks, ordinal⟩⟩ = none) :
    s'.During env declared prior start count earlier evidence lba := by
  obtain ⟨request, hissued, hrequested⟩ := h.requested
  have hstate := backendRead_state hread
  constructor
  case filled =>
    have hfilled := h.filled.probes ⟨_, hstate⟩
    rw [hstate] at hfilled ⊢
    exact hfilled
  case reached => exact backendRead_reached hread h.reached
  case requested =>
    refine ⟨request ++ [⟨⟨first, blocks, ordinal⟩, absolute⟩], ?_, ?_⟩
    · rw [hstate, hissued, List.append_assoc]
    · apply hrequested.append hfrom hto fun other hother => hother
      intro other hother
      rw [← hissued, ← CopyState.reads, hmedium] at hother
      cases hother

theorem mem_driveReads_last {request : ReadRequest}
    {result : BackendRead request.requestedBlockCount}
    (hread : backendRead env s request absolute = (result, s')) :
    ⟨s.reads, request⟩ ∈ driveReads s'.issued ∧ s'.reads = s.reads + 1 := by
  rw [backendRead_state hread]
  refine ⟨?_, List.length_append⟩
  rw [driveReads_append]
  exact List.mem_append_right _ List.mem_cons_self

/-- The sectors of a read go on the image of a request. -/
theorem CopyState.During.consume {request : ReadRequest} {bytes : List UInt8}
    {positive : 0 < blocks} {bounded : blocks ≤ request.requestedBlockCount}
    {length : bytes.length = blocks * DVD_SECTOR_SIZE_BYTES}
    (h : s'.During env declared prior start count earlier evidence lba)
    (hread : backendRead env s request absolute =
      (.success blocks bytes positive bounded length, s'))
    (hlba : request.requestedLba = lba) :
    (s'.consumeBlocks blocks bytes).During env declared prior start count earlier evidence
      (lba + blocks) := by
  refine ⟨?_, h.reached.consume blocks bytes, h.requested⟩
  apply h.filled.consume length
  intro offset ho
  rw [← hlba]
  exact .inl ((backendRead_isOf hread).delivered (mem_driveReads_last hread).1 ho)

/-- A failure that is no medium error is none in the reads. -/
theorem mediumFailure_of_status {read : DriveRead} (hfailure : read.failure env = some failure)
    (hmedium : failure.status ≠ .mediumError) : read.mediumFailure env = none := by
  rw [mediumFailure_of_failure hfailure, if_neg hmedium]

/-- A read in the middle of a request that met the end of the medium. -/
theorem CopyState.During.meets
    (h : s.During env declared prior start count earlier evidence lba)
    (hread : backendRead env s ⟨lba, blocks, ordinal⟩ absolute = (.failed failure, s'))
    (hfrom : start ≤ lba) (hto : lba + blocks ≤ start + count) (hblocks : 0 < blocks)
    (hstatus : failure.status = .outOfRangeError) :
    s'.During env declared prior start count earlier evidence lba ∧ ∃ request,
      Requested env start count evidence earlier request ∧
      MeetsBoundary env declared start count lba earlier request failure s' := by
  have hmedium : failure.status ≠ .mediumError := by
    rw [hstatus]
    simp
  have hisOf : DriveRead.failure env ⟨s.reads, ⟨lba, blocks, ordinal⟩⟩ = some failure :=
    backendRead_isOf hread
  have hduring := h.issue hread hfrom (by omega) (mediumFailure_of_status hisOf hmedium)
  obtain ⟨hmem, hreads⟩ := mem_driveReads_last hread
  have hcandidate := (backendRead_failed hread).candidate hstatus
  simp only at hcandidate
  obtain ⟨request, hissued, hrequested⟩ := hduring.requested
  refine ⟨hduring, request, hrequested, hissued, ⟨hfrom.trans hcandidate.1, by omega⟩,
    hcandidate.1, ⟨_, hmem, hreads.symm, hisOf⟩, hstatus⟩

/-- A boundary printed without a proof where the copy stands. -/
theorem CopyState.Filled.stop {marks : CopyState → Nat → Prop} {bytes : Nat}
    (h : s.Filled env prior marked lba)
    (hstatus : failure.status = .outOfRangeError) (hcounted : s.recovery.Counted)
    (hmarks : ∀ s' : CopyState, s'.recovery.badSectorBitmap = s.recovery.badSectorBitmap →
      ∀ i, marked i → marks s' i)
    (hle : bytes ≤ lba * DVD_SECTOR_SIZE_BYTES) (hsectors : bytes % DVD_SECTOR_SIZE_BYTES = 0) :
    BoundaryStop env declared prior marks (emitUnprovenBoundaryFailure s failure bytes) := by
  have himage : BoundaryImage env declared 0 prior marked failure
      (emitUnprovenBoundaryFailure s failure bytes) :=
    h.printed_unproven hstatus hcounted hle hsectors
  have hmap := emitUnproven_map s failure bytes
  simp only [emitUnprovenBoundaryFailure, CopyState.emit, BoundaryImage, BoundaryStop,
    Bool.false_eq_true, if_false] at himage hmap ⊢
  intro _
  exact himage.marks (hmarks _ hmap)

/-- What the attempts at a range leave in the middle of a request. -/
def RangeRead.During (env : CopyEnvironment) (declared : Nat) (prior : Prior) (start count : Nat)
    (earlier : List IssuedRead) (lba : Nat) : RangeRead requested → Prop
  | .success blocks _ _ evidence s =>
    s.During env declared prior start count earlier evidence (lba + blocks)
  | .unreadable evidence s => s.During env declared prior start count earlier evidence lba
  | .stopped status s => BoundaryStop env declared prior CopyState.Marks (status, s)

theorem attemptRange_during {ordinals : List Nat} {outcome : RangeRead blocks}
    (h : s.During env declared prior start count earlier evidence lba)
    (hfrom : start ≤ lba) (hto : lba + blocks ≤ start + count) (hblocks : 0 < blocks)
    (hattempt : attemptRange env declared lba blocks ordinals evidence s = outcome) :
    outcome.During env declared prior start count earlier lba := by
  subst hattempt
  induction ordinals generalizing evidence s with
  | nil => exact h
  | cons ordinal ordinals ih =>
    cases hread : backendRead env s ⟨lba, blocks, ordinal⟩ true with
    | mk result s' =>
      simp only [attemptRange, hread]
      cases result with
      | fatal => trivial
      | ended => trivial
      | success given bytes =>
        have hnone : DriveRead.mediumFailure env ⟨s.reads, ⟨lba, blocks, ordinal⟩⟩ = none := by
          apply mediumFailure_none
          intro failure hfailure
          rw [(backendRead_isOf hread).2] at hfailure
          cases hfailure
        exact (h.issue hread hfrom (by omega) hnone).consume hread rfl
      | failed failure =>
        simp only
        by_cases hmedium : failure.status = .mediumError
        · rw [if_pos hmedium]
          exact ih (h.note hread hfrom (by omega))
        · rw [if_neg hmedium]
          by_cases hrange : failure.status = .outOfRangeError
          · rw [if_pos hrange]
            obtain ⟨hduring, request, hrequested, hmeets⟩ :=
              h.meets hread hfrom hto hblocks hrange
            have hcounted := hduring.reached.marked.isCounted
            have hbytes := hduring.filled.bytes
            have hmarks : ∀ s'' : CopyState,
                s''.recovery.badSectorBitmap = s'.recovery.badSectorBitmap →
                ∀ i, s'.Marks i → s''.Marks i := fun s'' hmap i hi => hi.of_map hmap
            split
            · exact hduring.filled.stop hrange hcounted hmarks hbytes.le
                (hbytes ▸ Nat.mul_mod_left _ _)
            next hclear =>
              apply hmeets.stop hrequested hduring.filled hcounted
                (fun other hother => hother.elsewhere hclear) hmarks
              intro s₁ lba' hle hfilled
              rw [hbytes]
              exact ⟨Nat.mul_le_mul_right _ hle, Nat.mul_mod_left _ _⟩
          · rw [if_neg hrange]
            exact fun hstatus => absurd hstatus hrange

theorem markBadSector_bit {recovery : RecoveryState}
    (hwidth : lba < 8 * recovery.badSectorBitmap.length) (i : Nat) :
    (recovery.markBadSector lba).sectorIsBad i = (decide (i = lba) || recovery.sectorIsBad i) := by
  simp only [RecoveryState.markBadSector]
  split <;> exact bitmapBit_setBitmapBit hwidth

/-- A sector that stays unreadable is marked in the middle of a request. -/
theorem CopyState.During.mark (h : s.During env declared prior start count earlier evidence lba)
    (hinside : lba < declared / DVD_SECTOR_SIZE_BYTES) :
    ({ s.consumeBlocks 1 (zeroSectors 1) with
      recovery := s.recovery.markBadSector lba } : CopyState).During env declared prior start count
      earlier evidence (lba + 1) := by
  have hwidth : lba < 8 * s.recovery.badSectorBitmap.length := by
    have hsized := h.reached.sized trivial
    omega
  refine ⟨?_, ?_, h.requested⟩
  · have hmarked (i : Nat) (hi : s.Marks i) :
        (s.recovery.markBadSector lba).sectorIsBad i = true := by
      rw [markBadSector_bit hwidth, hi, Bool.or_true]
    have hself : (s.recovery.markBadSector lba).sectorIsBad lba = true := by
      rw [markBadSector_bit hwidth, decide_eq_true rfl, Bool.true_or]
    have hzeros : ∀ offset < 1, Written env s.issued prior
        (fun i => (s.recovery.markBadSector lba).sectorIsBad i = true) (lba + offset)
        (slice (zeroSectors 1) (offset * DVD_SECTOR_SIZE_BYTES) DVD_SECTOR_SIZE_BYTES) := by
      intro offset ho
      have hzero : offset = 0 := by omega
      subst hzero
      exact .inr (.inr ⟨hself, slice_zeroSectors Nat.one_pos⟩)
    have hfilled := (h.filled.marks hmarked).consume List.length_replicate hzeros
    exact ⟨hfilled.bytes, hfilled.length, hfilled.written⟩
  · have hmarked := h.reached.mark hinside (s.image ++ zeroSectors 1)
    rwa [Nat.add_mul, ← h.reached.bytes] at hmarked

/-- How a range leaves a request: its image reaches the end of the range, or the copy stopped. -/
def RecoveredDuring (env : CopyEnvironment) (declared : Nat) (prior : Prior) (start count : Nat)
    (earlier : List IssuedRead) (lba : Nat) :
    CopyStatus × BoundaryConflictEvidence × CopyState → Prop
  | (.done, evidence, s) => s.During env declared prior start count earlier evidence lba
  | (status, _, s) => BoundaryStop env declared prior CopyState.Marks (status, s)

theorem BoundaryStop.recovered {status : CopyStatus} (hdone : status ≠ .done)
    (h : BoundaryStop env declared prior CopyState.Marks (status, s)) :
    RecoveredDuring env declared prior start count earlier lba (status, evidence, s) := by
  cases status with
  | done => exact absurd rfl hdone
  | failed => exact h
  | readFailure => exact h

theorem attemptRange_stops {ordinals : List Nat} {status : CopyStatus}
    (h : attemptRange env declared lba blocks ordinals evidence s = .stopped status s') :
    status ≠ .done := by
  induction ordinals generalizing evidence s with
  | nil => cases h
  | cons ordinal ordinals ih =>
    cases hread : backendRead env s ⟨lba, blocks, ordinal⟩ true with
    | mk result s₁ =>
      simp only [attemptRange, hread] at h
      cases result with
      | fatal =>
        cases h
        simp
      | ended =>
        cases h
        simp
      | success => cases h
      | failed failure =>
        simp only at h
        split at h
        · exact ih h
        · split at h
          · split at h
            · cases h
              intro hdone
              cases hdone
            · cases h
              exact proveBoundaryCandidate_stops
          · cases h
            intro hdone
            cases hdone

/-- A range read by halves stays in its request. -/
theorem recoverRange_during {first : Nat}
    {outcome : CopyStatus × BoundaryConflictEvidence × CopyState}
    (h : s.During env declared prior start count earlier evidence lba)
    (hfrom : start ≤ lba) (hto : lba + blocks ≤ start + count) (hblocks : 0 < blocks)
    (hinside : start + count ≤ declared / DVD_SECTOR_SIZE_BYTES)
    (hrun : recoverRange env declared lba blocks first evidence s = outcome) :
    RecoveredDuring env declared prior start count earlier (lba + blocks) outcome := by
  subst hrun
  induction lba, blocks, first, evidence, s using recoverRange.induct env declared with
  | case1 lba blocks first evidence s status s' hattempt =>
    have hrange := attemptRange_during h hfrom hto hblocks hattempt
    rw [recoverRange, hattempt]
    exact hrange.recovered (attemptRange_stops hattempt)
  | case2 lba first evidence s blocks positive evidence' s' bounded hattempt =>
    have hrange := attemptRange_during h hfrom hto hblocks hattempt
    rw [recoverRange, hattempt]
    simp only [if_pos]
    exact hrange
  | case3 lba total first evidence s blocks positive bounded evidence' s' hattempt hpart ih =>
    have hrange := attemptRange_during h hfrom hto hblocks hattempt
    have hnext := ih hrange (hfrom.trans (Nat.le_add_right _ _)) (by omega) (by omega)
    rw [Nat.add_assoc, Nat.add_sub_cancel' bounded] at hnext
    rw [recoverRange, hattempt]
    simp only [if_neg hpart]
    exact hnext
  | case4 lba blocks first evidence s evidence' s' hattempt hone =>
    have hrange := attemptRange_during h hfrom hto hblocks hattempt
    have hcount : blocks = 1 := Nat.le_antisymm hone hblocks
    subst hcount
    rw [recoverRange, hattempt]
    exact CopyState.During.mark hrange (by omega)
  | case5 lba blocks first evidence s evidence' s' hattempt hmany evidence'' s'' hleft ihleft
      ihright =>
    have hrange := attemptRange_during h hfrom hto hblocks hattempt
    have hhalf := ihleft hrange hfrom (by omega) (by omega)
    rw [hleft] at hhalf
    have hnext := ihright hhalf (hfrom.trans (Nat.le_add_right _ _)) (by omega) (by omega)
    rw [Nat.add_assoc, Nat.add_sub_cancel' (Nat.div_le_self blocks 2)] at hnext
    rw [recoverRange, hattempt]
    simp only [if_neg hmany, hleft]
    exact hnext
  | case6 lba blocks first evidence s evidence' s' hattempt hmany hstopped ihleft =>
    have hrange := attemptRange_during h hfrom hto hblocks hattempt
    have hhalf := ihleft hrange hfrom (by omega) (by omega)
    rw [recoverRange, hattempt]
    simp only [if_neg hmany]
    cases hleft : recoverRange env declared lba (blocks / 2) 0 evidence' s' with
    | mk status rest =>
      rw [hleft] at hhalf
      cases status with
      | done => exact absurd hleft (hstopped rest.1 rest.2)
      | failed => exact hhalf
      | readFailure => exact hhalf

/-- The sectors that are marked between the requests of a copy, initial or not. -/
def groupMarks (initialCopy : Option InitialCopyState) (s : CopyState) : Nat → Prop :=
  match initialCopy with
  | some st => fun lba => bitmapBit st.skippedSectorBitmap lba = true
  | none => s.Marks

/-- A copy between two requests. -/
structure CopyState.Between (s : CopyState) (env : CopyEnvironment) (declared : Nat)
    (prior : Prior) (initialCopy : Option InitialCopyState) (lba : Nat) : Prop where
  filled : s.Filled env prior (groupMarks initialCopy s) lba
  reached : s.Reached (initialCopy = none) declared lba
  below : ∀ read ∈ s.issued, read.request.requestedLba < lba
  mapped : ∀ st ∈ initialCopy,
    st.skippedSectorBitmap.length = (declared / DVD_SECTOR_SIZE_BYTES + 7) / 8

variable {initialCopy : Option InitialCopyState}

theorem groupMarks_of_map (hmap : s'.recovery.badSectorBitmap = s.recovery.badSectorBitmap)
    (h : groupMarks initialCopy s lba) : groupMarks initialCopy s' lba := by
  cases initialCopy with
  | some st => exact h
  | none => exact h.of_map hmap

/-- The first read of a request, behind the earlier ones. -/
theorem Requested.first (hbelow : ∀ read ∈ earlier, read.request.requestedLba < lba)
    (hblocks : 0 < blocks)
    (hnoted : ∀ failure ∈ DriveRead.mediumFailure env ⟨earlier.length, ⟨lba, blocks, ordinal⟩⟩,
      evidence.Notes failure) :
    Requested env lba blocks evidence earlier [⟨⟨lba, blocks, ordinal⟩, absolute⟩] := by
  constructor
  case head => exact ⟨_, [], rfl, rfl, rfl⟩
  case before => exact hbelow
  case within =>
    intro other hother
    rw [List.mem_singleton.1 hother]
    exact ⟨le_rfl, Nat.lt_add_of_pos_right hblocks⟩
  case noted =>
    intro other hother hnumber failure hfailure
    rw [driveReads_append] at hother
    cases List.mem_append.1 hother with
    | inl hold =>
      obtain ⟨last, hlast, -⟩ := mem_driveReads.1 hold
      rw [List.getElem?_eq_none hnumber] at hlast
      cases hlast
    | inr hlast =>
      rw [List.mem_singleton.1 hlast] at hfailure
      exact hnoted failure hfailure

/-- The read of a group begins a request, with the read that was put off, if there was one. -/
theorem readGroup_request {result : BackendRead blocks}
    (hread : readGroup env s lba blocks absolute = (result, ordinal, s'))
    (hbelow : ∀ read ∈ s.issued, read.request.requestedLba < lba) (hblocks : 0 < blocks) :
    ∃ s₁ absolute', s.OnlyReads s₁ ∧
      backendRead env s₁ ⟨lba, blocks, ordinal⟩ absolute' = (result, s') ∧
      ∀ evidence : BoundaryConflictEvidence,
        (∀ failure ∈ DriveRead.mediumFailure env ⟨s₁.reads, ⟨lba, blocks, ordinal⟩⟩,
          evidence.Notes failure) →
        ∃ request, s'.issued = s.issued ++ request ∧
          Requested env lba blocks evidence s.issued request := by
  have hplain : ∀ absolute', backendRead env s ⟨lba, blocks, ordinal⟩ absolute' = (result, s') →
      ∀ evidence : BoundaryConflictEvidence,
        (∀ failure ∈ DriveRead.mediumFailure env ⟨s.reads, ⟨lba, blocks, ordinal⟩⟩,
          evidence.Notes failure) →
        ∃ request, s'.issued = s.issued ++ request ∧
          Requested env lba blocks evidence s.issued request := by
    intro absolute' hone evidence hnoted
    refine ⟨[⟨⟨lba, blocks, ordinal⟩, absolute'⟩], ?_, Requested.first hbelow hblocks hnoted⟩
    rw [backendRead_state hone]
  rw [readGroup] at hread
  split at hread
  · rw [readInitialContentWithDeferredRetry] at hread
    cases hone : backendRead env s ⟨lba, blocks, 0⟩ absolute with
    | mk first s₁ =>
      rw [hone] at hread
      cases first with
      | success =>
        cases hread
        exact ⟨s, absolute, .refl s, hone, hplain _ hone⟩
      | ended =>
        cases hread
        exact ⟨s, absolute, .refl s, hone, hplain _ hone⟩
      | fatal =>
        cases hread
        exact ⟨s, absolute, .refl s, hone, hplain _ hone⟩
      | failed failure =>
        simp only at hread
        split at hread
        next hdeferred =>
          cases htwo : backendRead env s₁ ⟨lba, blocks, 1⟩ true with
          | mk second s₂ =>
            rw [htwo] at hread
            cases hread
            have hstate := backendRead_state hone
            have hisOf : DriveRead.failure env ⟨s.reads, ⟨lba, blocks, 0⟩⟩ = some failure :=
              backendRead_isOf hone
            have hmedium : failure.status ≠ .mediumError := by
              rw [hdeferred.1]
              simp
            refine ⟨s₁, true, ⟨_, hstate⟩, htwo, fun evidence hnoted => ?_⟩
            have hfirst : Requested env lba blocks evidence s.issued
                [⟨⟨lba, blocks, 0⟩, absolute⟩] := by
              apply Requested.first hbelow hblocks
              rw [← CopyState.reads, mediumFailure_of_status hisOf hmedium]
              intro other hother
              cases hother
            refine ⟨[⟨⟨lba, blocks, 0⟩, absolute⟩] ++ [⟨⟨lba, blocks, 1⟩, true⟩], ?_, ?_⟩
            · rw [backendRead_state htwo, hstate, List.append_assoc]
            · apply hfirst.append le_rfl (Nat.lt_add_of_pos_right hblocks) fun _ hother => hother
              have hreads : s₁.reads =
                  (s.issued ++ [(⟨⟨lba, blocks, 0⟩, absolute⟩ : IssuedRead)]).length := by
                rw [hstate]
                rfl
              rw [← hreads]
              exact hnoted
        next =>
          cases hread
          exact ⟨s, absolute, .refl s, hone, hplain _ hone⟩
  · cases hread
    exact ⟨s, absolute, .refl s, rfl, hplain _ rfl⟩

/-- The read of a group keeps what was there before it. -/
theorem CopyState.Between.read {result : BackendRead blocks} {s₁ : CopyState}
    (h : s.Between env declared prior initialCopy lba) (honly : s.OnlyReads s₁)
    (hread : backendRead env s₁ ⟨lba, blocks, ordinal⟩ absolute = (result, s')) :
    s'.Filled env prior (groupMarks initialCopy s') lba ∧
      s'.Reached (initialCopy = none) declared lba := by
  have hstate := backendRead_state hread
  have hall : s.OnlyReads s' := honly.trans ⟨_, hstate⟩
  refine ⟨?_, ?_⟩
  · apply (h.filled.probes hall).marks
    intro i hi
    exact groupMarks_of_map (congrArg _ hall.recovery) hi
  · obtain ⟨more, rfl⟩ := hall
    exact h.reached.read _

/-- The reads of a request that its image has passed. -/
theorem Requested.passed (h : Requested env lba count evidence earlier request)
    (hissued : s.issued = earlier ++ request) (hpassed : lba + count ≤ next) :
    ∀ read ∈ s.issued, read.request.requestedLba < next := by
  intro read hread
  rw [hissued] at hread
  cases List.mem_append.1 hread with
  | inl hold =>
    have hlt := h.before read hold
    omega
  | inr hin =>
    have hlt := (h.within read hin).2
    omega

/-- A request that is one read of sectors keeps to its first sector. -/
theorem readGroup_at {result : BackendRead blocks}
    (hread : readGroup env s lba blocks absolute = (result, ordinal, s'))
    (hbelow : ∀ read ∈ s.issued, read.request.requestedLba < lba) :
    ∀ read ∈ s'.issued, read.request.requestedLba ≤ lba := by
  have hstep : ∀ {t t' : CopyState} {o : Nat} {absolute : Bool} {r : BackendRead blocks},
      backendRead env t ⟨lba, blocks, o⟩ absolute = (r, t') →
      (∀ read ∈ t.issued, read.request.requestedLba ≤ lba) →
      ∀ read ∈ t'.issued, read.request.requestedLba ≤ lba := by
    intro t t' o absolute r hone ht read hr
    rw [backendRead_state hone] at hr
    cases List.mem_append.1 hr with
    | inl hold => exact ht read hold
    | inr hlast =>
      rw [List.mem_singleton.1 hlast]
  have hle : ∀ read ∈ s.issued, read.request.requestedLba ≤ lba :=
    fun read hr => (hbelow read hr).le
  rw [readGroup] at hread
  split at hread
  · rw [readInitialContentWithDeferredRetry] at hread
    cases hone : backendRead env s ⟨lba, blocks, 0⟩ absolute with
    | mk first s₁ =>
      have hs₁ := hstep hone hle
      rw [hone] at hread
      cases first with
      | success =>
        cases hread
        exact hs₁
      | ended =>
        cases hread
        exact hs₁
      | fatal =>
        cases hread
        exact hs₁
      | failed failure =>
        simp only at hread
        split at hread
        · cases htwo : backendRead env s₁ ⟨lba, blocks, 1⟩ true with
          | mk second s₂ =>
            rw [htwo] at hread
            cases hread
            exact hstep htwo hs₁
        · cases hread
          exact hs₁
  · cases hread
    exact hstep rfl hle

theorem groupMarks_skip {st : InitialCopyState}
    (hwidth : lba + blocks ≤ 8 * st.skippedSectorBitmap.length) :
    groupMarks (some (recordInitialCopySkip st failure lba blocks)) s i ↔
      (lba ≤ i ∧ i < lba + blocks) ∨ groupMarks (some st) s i := by
  have hbit : bitmapBit (recordInitialCopySkip st failure lba blocks).skippedSectorBitmap i =
      (decide (lba ≤ i ∧ i < lba + blocks) || bitmapBit st.skippedSectorBitmap i) :=
    bitmapBit_setBitmapBits hwidth
  simp only [groupMarks, hbit, Bool.or_eq_true, decide_eq_true_eq]

/-- A request that an initial copy skips is zeros and marks. -/
theorem CopyState.Between.skip {st : InitialCopyState} (failure : ReadFailure)
    (hfilled : s.Filled env prior (groupMarks (some st) s) lba)
    (hreached : s.Reached False declared lba)
    (hbelow : ∀ read ∈ s.issued, read.request.requestedLba < lba + blocks)
    (hwidth : st.skippedSectorBitmap.length = (declared / DVD_SECTOR_SIZE_BYTES + 7) / 8)
    (hinside : lba + blocks ≤ declared / DVD_SECTOR_SIZE_BYTES) :
    (s.consumeBlocks blocks (zeroSectors blocks)).Between env declared prior
      (some (recordInitialCopySkip st failure lba blocks)) (lba + blocks) := by
  have hfits : lba + blocks ≤ 8 * st.skippedSectorBitmap.length := by omega
  constructor
  case filled =>
    apply (hfilled.marks fun i hi => (groupMarks_skip hfits).2 (.inr hi)).consume
      List.length_replicate
    intro offset ho
    refine .inr (.inr ⟨(groupMarks_skip hfits).2 (.inl ?_), slice_zeroSectors ho⟩)
    exact ⟨Nat.le_add_right _ _, Nat.add_lt_add_left ho lba⟩
  case reached => exact (hreached.consume _ _).congr (by simp)
  case below => exact hbelow
  case mapped =>
    intro st' hst'
    cases hst'
    exact (length_setBitmapBits _ _ _).trans hwidth

/-- How a copy, initial or not, ends at a boundary. -/
def CopyEnd (env : CopyEnvironment) (declared : Nat) (prior : Prior) :
    CopyStatus × Option InitialCopyState × CopyState → Prop
  | (status, initialCopy, s) =>
    BoundaryStop env declared prior (groupMarks initialCopy) (status, s)

/-- A copy, initial or not, stops at a boundary with the image that it prints. -/
theorem readDisc_stop (hremaining : lba + remaining ≤ declared / DVD_SECTOR_SIZE_BYTES)
    (h : s.Between env declared prior initialCopy lba) :
    CopyEnd env declared prior (readDisc env declared remaining initialCopy absolute s) := by
  induction remaining using Nat.strong_induction_on generalizing lba initialCopy absolute s with
  | _ remaining ih =>
    rw [readDisc]
    split
    · trivial
    next hmore =>
      have hpositive : 0 < min remaining READ_BLOCKS :=
        Nat.lt_min.2 ⟨Nat.pos_of_ne_zero hmore, by decide⟩
      have hle : min remaining READ_BLOCKS ≤ remaining := Nat.min_le_left _ _
      dsimp only
      rw [h.filled.atLba]
      generalize hread : (if s.bytesProcessed = 0 then
        readInitialContentWithDeferredRetry env s lba (min remaining READ_BLOCKS) absolute
        else _) = read
      obtain ⟨result, ordinal, s'⟩ := read
      obtain ⟨s₁, absolute', honly, hone, hrequest⟩ := readGroup_request hread h.below hpositive
      obtain ⟨hfilled, hreached⟩ := h.read honly hone
      cases result with
      | fatal => trivial
      | ended => trivial
      | success blocks bytes positive bounded length =>
        have hblocks : blocks ≤ min remaining READ_BLOCKS := bounded
        have hat := readGroup_at hread h.below
        have hnext : (s'.consumeBlocks blocks bytes).Between env declared prior initialCopy
            (lba + blocks) := by
          refine ⟨?_, hreached.consume blocks bytes, ?_, h.mapped⟩
          · apply hfilled.consume length
            intro offset ho
            exact .inl ((backendRead_isOf hone).delivered (mem_driveReads_last hone).1 ho)
          · intro read hr
            have hlt := hat read hr
            omega
        exact ih (remaining - blocks) (by omega) (by omega) hnext
      | failed failure =>
        have hof := backendRead_failed hone
        have hisOf : DriveRead.failure env
            ⟨s₁.reads, ⟨lba, min remaining READ_BLOCKS, ordinal⟩⟩ = some failure :=
          backendRead_isOf hone
        by_cases hmedium : failure.status = .mediumError
        · simp only [if_pos hmedium]
          obtain ⟨request, hissued, hrequested⟩ := hrequest
            (recordBoundaryMediumError ⟨[], false⟩ failure) (by
              rw [mediumFailure_of_failure hisOf, if_pos hmedium]
              intro other hother
              cases hother
              exact recordBoundaryMediumError_notes _ failure)
          cases initialCopy with
          | some st =>
            have hnext := CopyState.Between.skip failure hfilled
              (hreached.congr (by simp)) (hrequested.passed hissued le_rfl) (h.mapped st rfl)
              (by omega)
            exact ih (remaining - min remaining READ_BLOCKS) (by omega) (by omega) hnext
          | none =>
            simp only
            have hduring : s'.During env declared prior lba (min remaining READ_BLOCKS) s.issued
                (recordBoundaryMediumError ⟨[], false⟩ failure) lba :=
              ⟨hfilled, hreached.congr (by simp), request, hissued, hrequested⟩
            cases hr : recoverRange env declared lba (min remaining READ_BLOCKS) (ordinal + 1)
                (recordBoundaryMediumError ⟨[], false⟩ failure) s' with
            | mk status rest =>
              have hrecovered := recoverRange_during hduring le_rfl le_rfl hpositive (by omega) hr
              cases status with
              | failed => trivial
              | readFailure => exact hrecovered
              | done =>
                obtain ⟨request', hissued', hrequested'⟩ := hrecovered.requested
                have hnext : rest.2.Between env declared prior none
                    (lba + min remaining READ_BLOCKS) :=
                  ⟨hrecovered.filled, hrecovered.reached.congr (by simp),
                    hrequested'.passed hissued' le_rfl, by simp⟩
                exact ih (remaining - min remaining READ_BLOCKS) (by omega) (by omega) hnext
        · simp only [if_neg hmedium]
          by_cases hrange : failure.status = .outOfRangeError
          · simp only [if_pos hrange]
            obtain ⟨request, hissued, hrequested⟩ := hrequest ⟨[], false⟩ (by
              rw [mediumFailure_of_status hisOf hmedium]
              intro other hother
              cases hother)
            have hcandidate := hof.candidate hrange
            simp only at hcandidate
            obtain ⟨hmem, hreads⟩ := mem_driveReads_last hone
            have hmeets : MeetsBoundary env declared lba (min remaining READ_BLOCKS) lba s.issued
                request failure s' :=
              ⟨hissued, hcandidate, hcandidate.1, ⟨_, hmem, hreads.symm, hisOf⟩, hrange⟩
            apply hmeets.stop hrequested hfilled hreached.marked.isCounted
            · intro other hother
              obtain hfalse | hnone := hother
              · cases hfalse
              · obtain ⟨_, -, hin⟩ := hnone
                cases hin
            · intro s'' hmap i hi
              exact groupMarks_of_map hmap hi
            · intro s'' lba' _ hfilled''
              rw [hfilled''.bytes]
              exact ⟨le_rfl, Nat.mul_mod_left _ _⟩
          · simp only [if_neg hrange]
            exact fun hstatus => absurd hstatus hrange

end RipDvd
