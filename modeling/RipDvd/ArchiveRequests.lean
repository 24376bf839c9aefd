import RipDvd.Rows
import RipDvd.Collections
import RipDvd.ReadFailure
import RipDvd.DamageAssessment

namespace RipDvd.ArchiveQueue
set_option autoImplicit true

def ACTIVE_ARCHIVE_REQUEST_IDENTITY_LIMIT : Nat := 256
def DVD_METADATA_FINGERPRINT_RECONCILIATION_LIMIT : Nat := 4096

inductive DiscKind where
  | dvd
  | bluRay
  | audioCd
  deriving DecidableEq

inductive DetectedDiscStatus where
  | detected
  | scanned
  | approved
  | archived
  | rejected
  deriving DecidableEq

def DetectedDiscStatus.text : DetectedDiscStatus → String
  | detected => "detected"
  | scanned => "scanned"
  | approved => "approved"
  | archived => "archived"
  | rejected => "rejected"

inductive ArchiveRequestStatus where
  | pending
  | running
  | needsAttention
  | cancellationRequested
  | fulfilled
  | cancelled
  deriving DecidableEq

def ArchiveRequestStatus.text : ArchiveRequestStatus → String
  | pending => "pending"
  | running => "running"
  | needsAttention => "needs_attention"
  | cancellationRequested => "cancellation_requested"
  | fulfilled => "fulfilled"
  | cancelled => "cancelled"

def ArchiveRequestStatus.nonterminal : List ArchiveRequestStatus :=
  [pending, running, needsAttention, cancellationRequested]

inductive ArchiveJobStatus where
  | running
  | completed
  | failed
  | aborted
  deriving DecidableEq

inductive ArchiveProgressPhase where
  | preparing
  | copying
  | verifying
  | finalizing
  deriving DecidableEq

inductive DvdArchiveEvidenceFormat where
  | dvdRecoveryEvidenceV1
  deriving DecidableEq

def DVD_RECOVERY_EVIDENCE_FORMAT : DvdArchiveEvidenceFormat := .dvdRecoveryEvidenceV1

inductive ArchiveReadFailureStage where
  | initialCopy
  | rescueResume
  deriving DecidableEq

/-- What the scan of a disc decodes to. -/
structure DvdTitleMap where
  contentId : String
  titles : List Json

structure DetectedDisc where
  id : String
  opticalDriveId : String
  discKind : DiscKind
  fingerprint : String
  status : DetectedDiscStatus
  volumeLabel : Option String
  titleMap : Option DvdTitleMap

structure OpticalDrive where
  id : String
  isPresent : Bool
  isEnabled : Bool

structure DiscInspection where
  id : String
  opticalDriveId : String
  detectedDiscId : Option String
  isCurrent : Bool
  isCompleted : Bool
  totalBytes : Option Nat

/-- An original disc archive with its content id aliases. -/
structure OriginalDiscArchive where
  id : String
  detectedDiscId : String
  discKind : DiscKind
  fingerprint : String
  contentIds : List String
  boundaryReportedSizeBytes : Option Nat
  sizeBytes : Option Nat
  archivedAt : Nat

structure ArchiveRequest where
  id : String
  detectedDiscId : String
  rearchiveSourceArchiveId : Option String
  evidenceFormat : Option DvdArchiveEvidenceFormat
  status : ArchiveRequestStatus
  priority : Int
  cancellationRequestedAt : Option Nat
  fulfilledAt : Option Nat
  cancelledAt : Option Nat
  createdAt : Nat
  updatedAt : Nat
  deriving DecidableEq

/-- What a job keeps of the read that failed it. -/
structure ArchiveReadFailure where
  stage : ArchiveReadFailureStage
  category : ArchiveReadFailureCategory
  classifierVersion : String
  failingLba : Int
  requestedBlockCount : Int
  retryCount : Int
  evidence : ArchiveReadFailureScsiEvidence
  deriving DecidableEq

structure ArchiveJob where
  id : String
  archiveRequestId : String
  discInspectionId : String
  detectedDiscId : String
  originalDiscArchiveId : Option String
  evidenceFormat : Option DvdArchiveEvidenceFormat
  attemptOrdinal : Nat
  status : ArchiveJobStatus
  priority : Int
  progressPhase : ArchiveProgressPhase
  progressPercent : Int
  progressBytes : Int
  progressEtaSeconds : Option Int
  lastProgressAt : Nat
  claimedBy : String
  claimToken : String
  claimedAt : Nat
  startedAt : Nat
  completedAt : Option Nat
  errorMessage : Option String
  hasFailureDetail : Bool
  readFailure : Option ArchiveReadFailure
  createdAt : Nat
  updatedAt : Nat
  deriving DecidableEq

/-- A mutation that has run, with what it returned. -/
inductive Invocation where
  | submit (detectedDiscId : String) (evidenceFormat : Option DvdArchiveEvidenceFormat)
      (outcome : ArchiveRequest)
  | submitRearchive (sourceArchiveId : String) (outcome : ArchiveRequest)
  | cancel (targetId : String) (outcome : String × ArchiveRequestStatus)
  | retry (targetId : String) (outcome : String × ArchiveRequestStatus)
  | other

structure MutationInvocation where
  key : String
  invocation : Invocation

structure Tables where
  requests : List ArchiveRequest
  jobs : List ArchiveJob
  discs : List DetectedDisc
  drives : List OpticalDrive
  inspections : List DiscInspection
  archives : List OriginalDiscArchive
  invocations : List MutationInvocation

inductive ArchiveQueueFault where
  | domain (error : DomainError)
  | mutationKeyConflict
  | evidenceAdmissionClosed
  deriving DecidableEq

def invariantFault (message : String) : ArchiveQueueFault := .domain (.invariant message)

/-- A nonterminal request of a running job. -/
def ArchiveRequest.Active (request : ArchiveRequest) : Prop :=
  request.status = .running ∨ request.status = .cancellationRequested

def ArchiveRequest.Terminal (request : ArchiveRequest) : Prop :=
  request.status = .fulfilled ∨ request.status = .cancelled

instance (request : ArchiveRequest) : Decidable request.Active :=
  inferInstanceAs (Decidable (_ ∨ _))

instance (request : ArchiveRequest) : Decidable request.Terminal :=
  inferInstanceAs (Decidable (_ ∨ _))

/-- The checks of the table on a row. -/
def ArchiveRequest.Valid (request : ArchiveRequest) : Prop :=
  (request.fulfilledAt.isSome ↔ request.status = .fulfilled) ∧
    (request.cancelledAt.isSome ↔ request.status = .cancelled) ∧
    (request.cancellationRequestedAt.isSome ↔
      request.status = .cancellationRequested ∨ request.status = .cancelled)

instance (request : ArchiveRequest) : Decidable request.Valid :=
  inferInstanceAs (Decidable (_ ∧ _ ∧ _))

def ArchiveJob.Running (job : ArchiveJob) : Prop := job.status = .running

instance (job : ArchiveJob) : Decidable job.Running := inferInstanceAs (Decidable (_ = _))

/-- The checks of the table on a row. -/
def ArchiveJob.Valid (job : ArchiveJob) : Prop :=
  (0 ≤ job.progressPercent ∧ job.progressPercent ≤ 100) ∧ 0 ≤ job.progressBytes ∧
    (∀ eta ∈ job.progressEtaSeconds, 0 ≤ eta) ∧ 0 < job.attemptOrdinal ∧
    (job.Running ↔ job.completedAt = none) ∧
    (job.hasFailureDetail = true → job.status = .failed) ∧
    (job.readFailure.isSome → job.status = .failed)

instance (job : ArchiveJob) : Decidable job.Valid :=
  inferInstanceAs (Decidable (_ ∧ _ ∧ _ ∧ _ ∧ _ ∧ _ ∧ _))

/-- The keys and checks of the request table. -/
def RequestRows (requests : List ArchiveRequest) (discs : List DetectedDisc) : Prop :=
  (requests.map (·.id)).Nodup ∧ (∀ request ∈ requests, request.Valid) ∧
    ((requests.filter (·.status ∈ ArchiveRequestStatus.nonterminal)).map
      (·.detectedDiscId)).Nodup ∧
    ∀ request ∈ requests, request.detectedDiscId ∈ discs.map (·.id)

/-- The keys and checks of the job table. -/
def JobRows (jobs : List ArchiveJob) (t : Tables) : Prop :=
  (jobs.map (·.id)).Nodup ∧ (∀ job ∈ jobs, job.Valid) ∧
    (jobs.map fun job => (job.archiveRequestId, job.attemptOrdinal)).Nodup ∧
    ((jobs.filter (·.Running)).map (·.archiveRequestId)).Nodup ∧
    ∀ job ∈ jobs, job.archiveRequestId ∈ t.requests.map (·.id) ∧
      job.detectedDiscId ∈ t.discs.map (·.id)

instance (requests : List ArchiveRequest) (discs : List DetectedDisc) :
    Decidable (RequestRows requests discs) :=
  inferInstanceAs (Decidable (_ ∧ _ ∧ _ ∧ _))

instance (jobs : List ArchiveJob) (t : Tables) : Decidable (JobRows jobs t) :=
  inferInstanceAs (Decidable (_ ∧ _ ∧ _ ∧ _ ∧ _))

namespace Tables

def commitRequests (requests : List ArchiveRequest) (t : Tables) :
    Except ArchiveQueueFault Tables := do
  rejectIf (¬RequestRows requests t.discs) (.domain (.constraint "archive_requests"))
  return { t with requests := requests }

def commitJobs (jobs : List ArchiveJob) (t : Tables) : Except ArchiveQueueFault Tables := do
  rejectIf (¬JobRows jobs t) (.domain (.constraint "archive_jobs"))
  return { t with jobs := jobs }

/-- Rewrite the requests that meet a condition, and return the first of them. -/
def updateRequest (p : ArchiveRequest → Prop) [DecidablePred p]
    (f : ArchiveRequest → ArchiveRequest) (t : Tables) :
    Except ArchiveQueueFault (Option ArchiveRequest × Tables) :=
  match t.requests.find? p with
  | none => .ok (none, t)
  | some request => do
    let t' ← t.commitRequests (Rows.update p f t.requests)
    return (some (f request), t')

/-- Rewrite the jobs that meet a condition, and return the first of them. -/
def updateJob (p : ArchiveJob → Prop) [DecidablePred p] (f : ArchiveJob → ArchiveJob)
    (t : Tables) : Except ArchiveQueueFault (Option ArchiveJob × Tables) :=
  match t.jobs.find? p with
  | none => .ok (none, t)
  | some job => do
    let t' ← t.commitJobs (Rows.update p f t.jobs)
    return (some (f job), t')

def findDisc (t : Tables) (id : String) : Option DetectedDisc := t.discs.find? (·.id = id)

def findArchive (t : Tables) (id : String) : Option OriginalDiscArchive :=
  t.archives.find? (·.id = id)

end Tables

def requireRow (entity id : String) : Option α → Except ArchiveQueueFault α
  | some row => .ok row
  | none => .error (.domain (.recordNotFound entity id))

def assertDvdRecoveryEvidenceAdmissionAvailable
    (evidenceFormat : Option DvdArchiveEvidenceFormat) : Except ArchiveQueueFault Unit :=
  rejectIf (evidenceFormat = some DVD_RECOVERY_EVIDENCE_FORMAT) .evidenceAdmissionClosed

def isDvdContentId (value : String) : Bool :=
  "sha256:".toList.isPrefixOf value.toList && isHexDigits (value.toList.drop "sha256:".length)

def isDvdMetadataFingerprint (value : String) : Bool :=
  "dvdmeta-sha256:".toList.isPrefixOf value.toList &&
    isHexDigits (value.toList.drop "dvdmeta-sha256:".length)

def compareArchived (a b : OriginalDiscArchive) : Ordering :=
  (compare a.archivedAt b.archivedAt).then (compare a.id b.id)

def OriginalDiscArchive.reportedSizeBytes (archive : OriginalDiscArchive) : Option Nat :=
  archive.boundaryReportedSizeBytes.or archive.sizeBytes

section Identity

-- the digest over what a disc's scan and size say of it
variable (createDvdMetadataFingerprint : Nat → DvdTitleMap → Option String → String)

/-- The archive's disc, as it was reported, has this metadata fingerprint. -/
def matchesMetadata (archive : OriginalDiscArchive) (fingerprint : String) (t : Tables) : Bool :=
  match t.findDisc archive.detectedDiscId with
  | none => false
  | some disc =>
    match disc.titleMap, archive.reportedSizeBytes with
    | some scan, some sizeBytes =>
      createDvdMetadataFingerprint sizeBytes scan disc.volumeLabel = fingerprint
    | _, _ => false

def findOriginalArchiveByFingerprintOrContentIdAlias (identity : String) (t : Tables) :
    Except ArchiveQueueFault (Option OriginalDiscArchive) :=
  match earliest compareArchived
    (t.archives.filter fun archive => archive.fingerprint = identity ∨
      identity ∈ archive.contentIds) with
  | some archive => .ok (some archive)
  | none =>
    if isDvdMetadataFingerprint identity then do
      let candidates := t.archives.filter fun archive =>
        archive.discKind = .dvd ∧ archive.reportedSizeBytes.isSome
      rejectIf (DVD_METADATA_FINGERPRINT_RECONCILIATION_LIMIT < candidates.length)
        (invariantFault "DVD metadata fingerprint reconciliation exceeds its safety limit")
      let found := candidates.filter fun archive =>
        matchesMetadata createDvdMetadataFingerprint archive identity t
      rejectIf (1 < found.length)
        (invariantFault "DVD metadata fingerprint matches multiple Original Disc Archives")
      return found.head?
    else .ok none

def originalArchiveMatchesFingerprintOrContentIdAlias (archiveId identity : String) (t : Tables) :
    Except ArchiveQueueFault Bool :=
  match t.findArchive archiveId with
  | none => .ok false
  | some archive => do
    rejectIf (DVD_METADATA_FINGERPRINT_RECONCILIATION_LIMIT < archive.contentIds.length)
      (invariantFault "Original Disc Archive content identity aliases exceed the safety limit")
    return archive.fingerprint = identity || identity ∈ archive.contentIds ||
      (isDvdMetadataFingerprint identity &&
        matchesMetadata createDvdMetadataFingerprint archive identity t)

def originalArchivesShareDiscIdentity (firstArchiveId secondArchiveId : String) (t : Tables) :
    Except ArchiveQueueFault Bool :=
  if firstArchiveId = secondArchiveId then .ok true
  else
    match t.findArchive firstArchiveId, t.findArchive secondArchiveId with
    | some first, some second => do
      let shared ← originalArchiveMatchesFingerprintOrContentIdAlias createDvdMetadataFingerprint
        firstArchiveId second.fingerprint t
      if shared then return true
      originalArchiveMatchesFingerprintOrContentIdAlias createDvdMetadataFingerprint
        secondArchiveId first.fingerprint t
    | _, _ => .ok false

def hasUnresolvedLegacyDvdArchiveIdentity (t : Tables) : Bool :=
  t.archives.any fun archive => archive.discKind = .dvd && !isDvdContentId archive.fingerprint &&
    archive.contentIds.isEmpty

def requireLegacyDvdArchiveIdentitiesResolved (discKind : DiscKind) (fingerprint : String)
    (t : Tables) : Except ArchiveQueueFault Unit :=
  rejectIf (discKind = .dvd ∧ isDvdContentId fingerprint ∧ hasUnresolvedLegacyDvdArchiveIdentity t)
    (invariantFault ("Legacy DVD archive content identities must be reconciled before " ++
      "Archive Jobs can advance"))

def uniqueDeclaredByteCount (byteCounts : List Nat) : Option Nat :=
  match byteCounts with
  | [] => none
  | first :: rest => if rest.all (· = first) then some first else none

def currentDeclaredByteCountForDetectedDisc (detectedDiscId : String) (t : Tables) : Option Nat :=
  uniqueDeclaredByteCount ((t.inspections.filter fun inspection =>
    inspection.detectedDiscId = some detectedDiscId ∧ inspection.isCurrent ∧
      inspection.isCompleted).filterMap (·.totalBytes))

def attemptedDeclaredByteCountsForArchiveRequest (archiveRequestId : String) (t : Tables) :
    List Nat :=
  (t.jobs.filter (·.archiveRequestId = archiveRequestId)).flatMap fun job =>
    (t.inspections.filter (·.id = job.discInspectionId)).filterMap (·.totalBytes)

def attemptedDeclaredByteCountForArchiveRequest (archiveRequestId : String) (t : Tables) :
    Option Nat :=
  uniqueDeclaredByteCount (attemptedDeclaredByteCountsForArchiveRequest archiveRequestId t)

def declaredByteCountForArchiveRequest (request : ArchiveRequest) (t : Tables) : Option Nat :=
  let attemptedByteCounts := attemptedDeclaredByteCountsForArchiveRequest request.id t
  if attemptedByteCounts ≠ [] then uniqueDeclaredByteCount attemptedByteCounts
  else
    match request.rearchiveSourceArchiveId with
    | some sourceArchiveId => (t.findArchive sourceArchiveId).bind (·.reportedSizeBytes)
    | none => uniqueDeclaredByteCount ((t.inspections.filter fun inspection =>
        inspection.detectedDiscId = some request.detectedDiscId ∧
          inspection.isCompleted).filterMap (·.totalBytes))

def requiredArchiveRequestDiscStatus (request : ArchiveRequest) : DetectedDiscStatus :=
  if request.rearchiveSourceArchiveId = none then .approved else .archived

/-- A request beside the disc it was made for. -/
structure RequestCandidate where
  request : ArchiveRequest
  disc : DetectedDisc

def Tables.candidates (t : Tables) (keep : ArchiveRequest → DetectedDisc → Bool) :
    List RequestCandidate :=
  t.requests.filterMap fun request => (t.findDisc request.detectedDiscId).bind fun disc =>
    if keep request disc then some ⟨request, disc⟩ else none

/-- The disc of a request has the content of the disc at hand. -/
def requestedIdentityMatches (currentDisc : DetectedDisc) (candidate : RequestCandidate)
    (t : Tables) : Except ArchiveQueueFault Bool :=
  match candidate.request.rearchiveSourceArchiveId with
  | none => .ok (candidate.disc.titleMap.map (·.contentId) = some currentDisc.fingerprint)
  | some sourceArchiveId =>
    originalArchiveMatchesFingerprintOrContentIdAlias createDvdMetadataFingerprint sourceArchiveId
      currentDisc.fingerprint t

def archiveRequestMatchesDvdContinuationDiscIdentity (currentDisc : DetectedDisc)
    (candidate : RequestCandidate) (t : Tables) : Except ArchiveQueueFault Bool :=
  if currentDisc.discKind ≠ .dvd ∨
      candidate.disc.status ≠ requiredArchiveRequestDiscStatus candidate.request then .ok false
  else do
    let requested ← requestedIdentityMatches createDvdMetadataFingerprint currentDisc candidate t
    return currentDisc.titleMap.map (·.contentId) = some currentDisc.fingerprint && requested

def archiveRequestMatchesDvdContinuationIdentity (currentDisc : DetectedDisc)
    (currentDeclaredByteCount : Option Nat) (candidate : RequestCandidate)
    (requestDeclaredByteCount : Option Nat) (t : Tables) : Except ArchiveQueueFault Bool :=
  match currentDeclaredByteCount, requestDeclaredByteCount with
  | some current, some requested => do
    let identityMatches ← archiveRequestMatchesDvdContinuationDiscIdentity
      createDvdMetadataFingerprint currentDisc candidate t
    return identityMatches && requested = current
  | _, _ => .ok false

/-- The candidates that pass a test, the first fault of a test stopping them all. -/
def matchingCandidates (test : RequestCandidate → Except ArchiveQueueFault Bool)
    (candidates : List RequestCandidate) : Except ArchiveQueueFault (List RequestCandidate) := do
  let judged ← candidates.mapM fun candidate => do
    let keep ← test candidate
    return (candidate, keep)
  return (judged.filter (·.2)).map (·.1)

structure CreateArchiveRequestInput where
  detectedDiscId : String
  evidenceFormat : Option DvdArchiveEvidenceFormat
  priority : Option Int

/-- What a mutation that has run under this key returned, if it was this one. -/
def readMutationInvocation (key : String) (decode : Invocation → Option α) (t : Tables) :
    Except ArchiveQueueFault (Option α) :=
  match t.invocations.find? (·.key = key) with
  | none => .ok none
  | some previous =>
    match decode previous.invocation with
    | none => .error .mutationKeyConflict
    | some outcome => .ok (some outcome)

def recordMutationInvocation (key : String) (invocation : Invocation) (t : Tables) : Tables :=
  { t with invocations := t.invocations ++ [⟨key, invocation⟩] }

def CreateArchiveRequestInput.decode (input : CreateArchiveRequestInput) :
    Invocation → Option ArchiveRequest
  | .submit detectedDiscId evidenceFormat outcome =>
    if detectedDiscId = input.detectedDiscId ∧ evidenceFormat = input.evidenceFormat then
      some outcome
    else none
  | _ => none

def archiveRequestWithCreationPriority (request : ArchiveRequest) (priority : Option Int)
    (timestamp : Nat) (t : Tables) : Except ArchiveQueueFault (ArchiveRequest × Tables) :=
  match priority with
  | none => .ok (request, t)
  | some requested =>
    if request.status ≠ .pending ∨ requested = request.priority then .ok (request, t)
    else do
      let (updated, t') ← t.updateRequest (fun row => row.id = request.id ∧ row.status = .pending)
        fun row => { row with priority := requested, updatedAt := timestamp }
      let row ← requireRow "archive request" request.id updated
      return (row, t')

/-- The nonterminal requests that already ask for the content of a disc. -/
def reusableRequests (disc : DetectedDisc) (t : Tables) :
    Except ArchiveQueueFault (List RequestCandidate) :=
  match if disc.discKind = .dvd then currentDeclaredByteCountForDetectedDisc disc.id t
    else none with
  | none => .ok []
  | some declaredByteCount =>
    matchingCandidates
      (fun candidate => archiveRequestMatchesDvdContinuationIdentity createDvdMetadataFingerprint
        disc (some declaredByteCount) candidate
        (attemptedDeclaredByteCountForArchiveRequest candidate.request.id t) t)
      (t.candidates fun request requested =>
        request.status ∈ ArchiveRequestStatus.nonterminal && requested.discKind = .dvd &&
          requested.fingerprint = disc.fingerprint && requested.id ≠ disc.id)

def ArchiveRequest.reopened (priority : Option Int) (timestamp : Nat) (request : ArchiveRequest) :
    ArchiveRequest :=
  { request with
    status := .pending
    priority := priority.getD request.priority
    cancellationRequestedAt := none
    fulfilledAt := none
    cancelledAt := none
    updatedAt := timestamp }

/-- A request that already asks for the content: one that needs attention is pending again. -/
def reuseRequest (request : ArchiveRequest) (priority : Option Int) (timestamp : Nat) (t : Tables) :
    Except ArchiveQueueFault (ArchiveRequest × Tables) :=
  if request.status = .needsAttention then do
    let (updated, t') ← t.updateRequest
      (fun row => row.id = request.id ∧ row.status = .needsAttention)
      (ArchiveRequest.reopened priority timestamp)
    let row ← requireRow "archive request" request.id updated
    return (row, t')
  else archiveRequestWithCreationPriority request priority timestamp t

def insertRequest (request : ArchiveRequest) (t : Tables) :
    Except ArchiveQueueFault (ArchiveRequest × Tables) := do
  let t' ← t.commitRequests (t.requests ++ [request])
  return (request, t')

def newRequest (id detectedDiscId : String) (timestamp : Nat) : ArchiveRequest where
  id := id
  detectedDiscId := detectedDiscId
  rearchiveSourceArchiveId := none
  evidenceFormat := none
  status := .pending
  priority := 0
  cancellationRequestedAt := none
  fulfilledAt := none
  cancelledAt := none
  createdAt := timestamp
  updatedAt := timestamp

/-- The request a submission stands for: the disc's own, one for its content, or a new one. -/
def requestFor (input : CreateArchiveRequestInput) (disc : DetectedDisc) (newId : String)
    (timestamp : Nat) (t : Tables) : Except ArchiveQueueFault (ArchiveRequest × Tables) :=
  match t.requests.find? fun request =>
      request.detectedDiscId = disc.id ∧ request.status ∈ ArchiveRequestStatus.nonterminal with
  | some existing => do
    assertDvdRecoveryEvidenceAdmissionAvailable existing.evidenceFormat
    archiveRequestWithCreationPriority existing input.priority timestamp t
  | none => do
    let reusable ← reusableRequests createDvdMetadataFingerprint disc t
    rejectIf (1 < reusable.length)
      (invariantFault "Disc identity matches multiple reusable Archive Requests")
    match reusable.head? with
    | some candidate => do
      assertDvdRecoveryEvidenceAdmissionAvailable candidate.request.evidenceFormat
      reuseRequest candidate.request input.priority timestamp t
    | none => insertRequest { newRequest newId disc.id timestamp with
        evidenceFormat := input.evidenceFormat
        priority := input.priority.getD 0 } t

def Tables.approveDisc (t : Tables) (id : String) : Tables :=
  { t with
    discs := Rows.update (fun disc => disc.id = id ∧ disc.status = .scanned)
      (fun disc => { disc with status := .approved }) t.discs }

/-- Submit a request for a disc that has no archive yet. -/
def submitRequest (input : CreateArchiveRequestInput) (newId : String) (timestamp : Nat)
    (t : Tables) : Except ArchiveQueueFault (ArchiveRequest × Tables) := do
  assertDvdRecoveryEvidenceAdmissionAvailable input.evidenceFormat
  let disc ← requireRow "detected disc" input.detectedDiscId (t.findDisc input.detectedDiscId)
  let archived ← findOriginalArchiveByFingerprintOrContentIdAlias createDvdMetadataFingerprint
    disc.fingerprint t
  rejectIf archived.isSome
    (invariantFault "A Detected Disc with existing archive provenance cannot be requested")
  rejectIf (disc.status ≠ .scanned ∧ disc.status ≠ .approved)
    (.domain (.invalidStatusTransition "detected disc" disc.status.text "approved"))
  requireLegacyDvdArchiveIdentitiesResolved disc.discKind disc.fingerprint t
  requestFor createDvdMetadataFingerprint input disc newId timestamp (t.approveDisc disc.id)

def createArchiveRequest (input : CreateArchiveRequestInput) (mutationKey : Option String)
    (newId : String) (timestamp : Nat) (t : Tables) :
    Except ArchiveQueueFault (ArchiveRequest × Tables) :=
  match mutationKey with
  | none => submitRequest createDvdMetadataFingerprint input newId timestamp t
  | some key => do
    let previous ← readMutationInvocation key input.decode t
    match previous with
    | some outcome => return (outcome, t)
    | none => do
      let (request, t') ← submitRequest createDvdMetadataFingerprint input newId timestamp t
      return (request, recordMutationInvocation key
        (.submit input.detectedDiscId input.evidenceFormat request) t')

def compareCreated (a b : RequestCandidate) : Ordering :=
  (compare a.request.createdAt b.request.createdAt).then (compare a.request.id b.request.id)

/-- The request asks for the archive's content, by its disc or by the archive it stems from. -/
def requestsContentOf (sourceArchiveId : String) (candidate : RequestCandidate) (t : Tables) :
    Except ArchiveQueueFault Bool := do
  let shared ← originalArchiveMatchesFingerprintOrContentIdAlias createDvdMetadataFingerprint
    sourceArchiveId candidate.disc.fingerprint t
  if shared then return true
  match candidate.request.rearchiveSourceArchiveId with
  | none => return false
  | some otherArchiveId =>
    originalArchivesShareDiscIdentity createDvdMetadataFingerprint sourceArchiveId otherArchiveId t

def submitFreshRearchive (sourceArchiveId newId : String) (timestamp : Nat) (t : Tables) :
    Except ArchiveQueueFault (ArchiveRequest × Tables) := do
  let source ← requireRow "original disc archive" sourceArchiveId (t.findArchive sourceArchiveId)
  rejectIf (source.discKind ≠ .dvd)
    (invariantFault "Fresh re-archive requests are supported only for DVD archives")
  let active := sortBy compareCreated (t.candidates fun request disc =>
    disc.discKind = .dvd && request.status ∈ ArchiveRequestStatus.nonterminal)
  rejectIf (ACTIVE_ARCHIVE_REQUEST_IDENTITY_LIMIT < active.length)
    (invariantFault "Active Archive Request identity lookup exceeds the safety limit")
  let matching ← matchingCandidates
    (requestsContentOf createDvdMetadataFingerprint sourceArchiveId · t) active
  rejectIf (1 < matching.length)
    (invariantFault "Disc identity matches multiple active Archive Requests")
  match matching.head? with
  | some candidate => do
    assertDvdRecoveryEvidenceAdmissionAvailable candidate.request.evidenceFormat
    rejectIf (candidate.request.rearchiveSourceArchiveId ≠ some sourceArchiveId)
      (invariantFault "Matching archive work is already active for this disc")
    return (candidate.request, t)
  | none => insertRequest { newRequest newId source.detectedDiscId timestamp with
      rearchiveSourceArchiveId := some sourceArchiveId } t

def decodeRearchive (sourceArchiveId : String) : Invocation → Option ArchiveRequest
  | .submitRearchive source outcome => if source = sourceArchiveId then some outcome else none
  | _ => none

def submitRearchive (mutationKey sourceArchiveId newId : String) (timestamp : Nat) (t : Tables) :
    Except ArchiveQueueFault (ArchiveRequest × Tables) := do
  let previous ← readMutationInvocation mutationKey (decodeRearchive sourceArchiveId) t
  match previous with
  | some outcome => return (outcome, t)
  | none => do
    let (request, t') ← submitFreshRearchive createDvdMetadataFingerprint sourceArchiveId newId
      timestamp t
    return (request, recordMutationInvocation mutationKey (.submitRearchive sourceArchiveId request)
      t')

end Identity

def Tables.findRequest (t : Tables) (id : String) : Option ArchiveRequest :=
  t.requests.find? (·.id = id)

def ArchiveRequest.cancelledAs (timestamp : Nat) (request : ArchiveRequest) : ArchiveRequest :=
  { request with
    status := if request.status = .running then .cancellationRequested else .cancelled
    cancellationRequestedAt := some timestamp
    cancelledAt := if request.status = .running then none else some timestamp
    updatedAt := timestamp }

def cancelArchiveRequest (id : String) (timestamp : Nat) (t : Tables) :
    Except ArchiveQueueFault (ArchiveRequest × Tables) := do
  let current ← requireRow "archive request" id (t.findRequest id)
  if current.status ∈ [ArchiveRequestStatus.cancelled, .fulfilled, .cancellationRequested] then
    return (current, t)
  else do
    let (updated, t') ← t.updateRequest (fun row => row.id = id ∧ row.status = current.status)
      (ArchiveRequest.cancelledAs timestamp)
    let row ← requireRow "archive request" id updated
    return (row, t')

/-- A request that needs attention is pending again; the first read, of what the tables held
then, decides what a refusal says. -/
def retry (seen : Tables) (id : String) (timestamp : Nat) (t : Tables) :
    Except ArchiveQueueFault (ArchiveRequest × Tables) := do
  let current ← requireRow "archive request" id (seen.findRequest id)
  assertDvdRecoveryEvidenceAdmissionAvailable current.evidenceFormat
  let (retried, t') ← t.updateRequest (fun row => row.id = id ∧ row.status = .needsAttention)
    (ArchiveRequest.reopened none timestamp)
  match retried with
  | none =>
    .error (.domain (.invalidStatusTransition "archive request" current.status.text "pending"))
  | some row => return (row, t')

def decodeCancel (id : String) : Invocation → Option (String × ArchiveRequestStatus)
  | .cancel targetId outcome => if targetId = id then some outcome else none
  | _ => none

def decodeRetry (id : String) : Invocation → Option (String × ArchiveRequestStatus)
  | .retry targetId outcome => if targetId = id then some outcome else none
  | _ => none

/-- Run a mutation once for its key. -/
def replayRecoveryMutation (mutationKey : String)
    (decode : Invocation → Option (String × ArchiveRequestStatus))
    (record : String × ArchiveRequestStatus → Invocation)
    (mutate : Tables → Except ArchiveQueueFault (ArchiveRequest × Tables)) (t : Tables) :
    Except ArchiveQueueFault ((String × ArchiveRequestStatus) × Tables) := do
  let previous ← readMutationInvocation mutationKey decode t
  match previous with
  | some outcome => return (outcome, t)
  | none => do
    let (request, t') ← mutate t
    return ((request.id, request.status), recordMutationInvocation mutationKey
      (record (request.id, request.status)) t')

def cancelWithReplay (mutationKey id : String) (timestamp : Nat) (t : Tables) :
    Except ArchiveQueueFault ((String × ArchiveRequestStatus) × Tables) :=
  replayRecoveryMutation mutationKey (decodeCancel id) (.cancel id)
    (fun t => do
      match t.findRequest id with
      | some current =>
        rejectIf (current.status ∉ [ArchiveRequestStatus.pending, .running, .needsAttention])
          (.domain (.invalidStatusTransition "archive request" current.status.text "cancelled"))
      | none => pure ()
      cancelArchiveRequest id timestamp t) t

def retryWithReplay (mutationKey id : String) (timestamp : Nat) (t : Tables) :
    Except ArchiveQueueFault ((String × ArchiveRequestStatus) × Tables) :=
  replayRecoveryMutation mutationKey (decodeRetry id) (.retry id)
    (fun t => retry t id timestamp t) t

/-- An archive of the content of a disc fulfils the requests that wait for it. -/
def fulfilRequests (fingerprint : String) (rearchives : Bool) (timestamp : Nat) (t : Tables) :
    Except ArchiveQueueFault Tables := do
  let (_, t') ← t.updateRequest
    (fun row => row.status ∈ [ArchiveRequestStatus.pending, .needsAttention] ∧
      (rearchives ∨ row.rearchiveSourceArchiveId = none) ∧
      ∃ disc ∈ t.discs, disc.id = row.detectedDiscId ∧ disc.fingerprint = fingerprint)
    fun row => { row with
      status := .fulfilled
      fulfilledAt := some timestamp
      updatedAt := timestamp }
  return t'

end RipDvd.ArchiveQueue
