import RipDvd.Transition
import RipDvd.Program
import RipDvd.Faults
import RipDvd.Blocks
import RipDvd.Evidence
import RipDvd.EvidenceTransitions
import RipDvd.Manifest
import RipDvd.Catalog
import RipDvd.Projection
import RipDvd.Alignment
import RipDvd.Work
import RipDvd.Checkpoint
import RipDvd.Journal
import RipDvd.Batch
import RipDvd.Succession
import RipDvd.Reconciliation
import RipDvd.Undo
import RipDvd.Accounts
import RipDvd.Crash
import RipDvd.Repair
import RipDvd.Commit
import RipDvd.Mutation
import RipDvd.Atomicity
import RipDvd.Acceptance
import RipDvd.Protection
import RipDvd.Residue
import RipDvd.Json
import RipDvd.CanonicalJson
import RipDvd.Sense
import RipDvd.Bitmap
import RipDvd.JournalCapacity
import RipDvd.BitmapRuns
import RipDvd.ReadFailure
import RipDvd.FailureProtocol
import RipDvd.FailureAgreement
import RipDvd.RecoveryProtocol
import RipDvd.ResumedRecovery
import RipDvd.Copy
import RipDvd.CopyResults
import RipDvd.CopyRuns
import RipDvd.InitialCopy
import RipDvd.InitialCopyResults
import RipDvd.InitialCopyAgreement
import RipDvd.InitialCopyRuns
import RipDvd.CopyHistory
import RipDvd.CopyExactness
import RipDvd.BoundaryProof
import RipDvd.BoundaryRuns
import RipDvd.BoundarySoundness
import RipDvd.BoundaryOutcome
import RipDvd.InitialManifest
import RipDvd.InitialSave
import RipDvd.InitialSaveSafety
import RipDvd.InitialSaveRuns
import RipDvd.InitialPublication
import RipDvd.Verification
import RipDvd.SourceRead
import RipDvd.SourceAgreement
import RipDvd.Confirmation
import RipDvd.Claims
import RipDvd.VerificationQueue
import RipDvd.Interventions
import RipDvd.Lifecycle
import RipDvd.Fencing
import RipDvd.WorkAgreement
import RipDvd.PassProtocol
import RipDvd.PassProgress
import RipDvd.Cursor
import RipDvd.PassOrder
import RipDvd.PassSettlement
import RipDvd.AdmissionQueue
import RipDvd.AdmissionOrder
import RipDvd.AdmissionFairness
import RipDvd.Collections
import RipDvd.Extents
import RipDvd.Doubles
import RipDvd.SourceRanges
import RipDvd.DamageAssessment
import RipDvd.DamageConservation
import RipDvd.DamageIdentity
import RipDvd.Metered
import RipDvd.Geometry
import RipDvd.UdfGeometry
import RipDvd.GeometryDeclarations
import RipDvd.GeometryReads
import RipDvd.GeometryTruncation
import RipDvd.BoundaryComposition
import RipDvd.SourceSamples
import RipDvd.TitleContinuity
import RipDvd.AffectedPlayback
import RipDvd.CatalogCoverage
import RipDvd.RetainedProof
import RipDvd.RecoveryQueues
import RipDvd.RecoveryPoll
import RipDvd.OpticalDrives
import RipDvd.OpticalDriveMatching
import RipDvd.OpticalDriveAuthority
import RipDvd.OpticalDriveRuns
import RipDvd.Notifications
import RipDvd.NotificationRuns
import RipDvd.NotificationInvariants
import RipDvd.NotificationAccounting
import RipDvd.NotificationGuarantees
import RipDvd.Borders
import RipDvd.FrameSearch
import RipDvd.Worklist
import RipDvd.ExecutableTitles
import RipDvd.TitleReachability
import RipDvd.Clusters
import RipDvd.DamagePreview
import RipDvd.DamagePreviewInputs
import RipDvd.DamagePreviewClips
import RipDvd.JobQueue
import RipDvd.JobQueueRuns
import RipDvd.JobQueueProgress
import RipDvd.HandBrakeLog
import RipDvd.SubtitleProvenance
import RipDvd.SubtitleStreams
import RipDvd.SubtitleCleanup
import RipDvd.PassSequence
import RipDvd.WaitingResume
import RipDvd.RecoveryTables
import RipDvd.VerificationIdentity
import RipDvd.ResumeRuns
import RipDvd.VerificationHistory
import RipDvd.ConfirmationHistory
import RipDvd.ReconciliationHistory
import RipDvd.Consecutive
import RipDvd.SourceContinuity
import RipDvd.ContinuityRuns
import RipDvd.Rows
import RipDvd.ArchiveRequests
import RipDvd.ArchiveJobs
import RipDvd.ArchiveQueueInvariant
import RipDvd.ArchiveQueueSteps
import RipDvd.ArchiveQueueRuns
import RipDvd.ArchiveQueueAgreement
