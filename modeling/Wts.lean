import Wts.Proofs.AgentObservationReads
import Wts.Proofs.AgentRunRetention
import Wts.Proofs.AgentSessionLedger
import Wts.Proofs.BoundaryLeases
import Wts.Proofs.BoundaryRevision
import Wts.Proofs.BranchPublication
import Wts.Proofs.Calendars
import Wts.Proofs.CodeWorkspaceImport
import Wts.Proofs.CollaborationSchedule
import Wts.Proofs.CompatibilityOrder
import Wts.Proofs.ConversationFrames
import Wts.Proofs.ExecutionGate
import Wts.Proofs.GeneratedSession
import Wts.Proofs.GitlabDiscussionRuns
import Wts.Proofs.IntegrationHistory
import Wts.Proofs.JourneyOrigin
import Wts.Proofs.OriginUrl
import Wts.Proofs.PatchCompleteness
import Wts.Proofs.PlanAssignment
import Wts.Proofs.PreviewClaims
import Wts.Proofs.RepositorySetRuns
import Wts.Proofs.RepositorySlug
import Wts.Proofs.ReviewSize
import Wts.Proofs.ReviewTrace
import Wts.Proofs.RuntimeAnalysis
import Wts.Proofs.RuntimeOrder
import Wts.Proofs.StaleInbox
import Wts.Proofs.StoreConfirmations
import Wts.Proofs.StoreHistory
import Wts.Proofs.StoreThreads
import Wts.Proofs.TestRetention
import Wts.Proofs.TimeReviewDraft
import Wts.Proofs.TimeReviewPrompt
import Wts.Proofs.TurnChecks
import Wts.Proofs.TurnReceipts
import Wts.Proofs.TurnRestoreHistory
import Wts.Proofs.VerificationHistory
import Wts.Proofs.WorkSetMerge
import Wts.Proofs.WorkSetValidation
