import TiktokOutreach.Cooldown
import TiktokOutreach.Pacing
import TiktokOutreach.PermitCapacity
import TiktokOutreach.Accounting
import TiktokOutreach.AtMostOnce
import TiktokOutreach.ReservationLeaks
import TiktokOutreach.CancelIsFinal
import TiktokOutreach.SentIsFinal
import TiktokOutreach.Rediscovery
import TiktokOutreach.Footprints
import TiktokOutreach.Completion
import TiktokOutreach.UnknownDeliveries
import TiktokOutreach.QueuedWork
import TiktokOutreach.ExactlyOnce
import TiktokOutreach.FollowerTiling
import TiktokOutreach.SplitBounds
import TiktokOutreach.QueuePositions
import TiktokOutreach.CreatorConformance
import TiktokOutreach.RareProbes
import TiktokOutreach.PageAccounting
import TiktokOutreach.SentText
import TiktokOutreach.VerifiedIdentities
import TiktokOutreach.IdentityMerge
import TiktokOutreach.AuthorizationStates
import TiktokOutreach.RefreshReplays
import TiktokOutreach.ReadLeases
import TiktokOutreach.LocalPreview
import TiktokOutreach.OutboundReports
import TiktokOutreach.RefreshOutcomes
import TiktokOutreach.Reconciliations
import TiktokOutreach.FreezeRuns
import TiktokOutreach.FreezeAccounts
import TiktokOutreach.FreshPreviews
import TiktokOutreach.FreezeRules
import TiktokOutreach.Lib.Replacements
import TiktokOutreach.RenderMessage
import TiktokOutreach.ReadCooldowns
import TiktokOutreach.ReadFlights
import TiktokOutreach.CreatorSheet
import TiktokOutreach.SheetFailures
import TiktokOutreach.SheetReconciliation
import TiktokOutreach.HistoricalIdentity
import TiktokOutreach.HistoryImport
import TiktokOutreach.ContactFacts
import TiktokOutreach.LiveRecords
import TiktokOutreach.ImportRetries
import TiktokOutreach.ImportAccounts
import TiktokOutreach.CompleteImports
import TiktokOutreach.CampaignCreation
import TiktokOutreach.FreezeRendering
import TiktokOutreach.FollowerEvidence
import TiktokOutreach.Lib.Choices
import TiktokOutreach.SchedulerSelection
import TiktokOutreach.CategoryCoverage
import TiktokOutreach.CategoryHierarchy
import TiktokOutreach.SeedRows
import TiktokOutreach.SeedFamilies
import TiktokOutreach.PartitionPointers
import TiktokOutreach.Lib.JsonValues
import TiktokOutreach.Lib.UrlPaths
import TiktokOutreach.CanonicalBodies
import TiktokOutreach.HandoffSignatures
import TiktokOutreach.ReadBoundary
import TiktokOutreach.Lib.Histories
import TiktokOutreach.ClientRequests
import TiktokOutreach.ClientLife
import TiktokOutreach.SeedFrames
import TiktokOutreach.SiblingGating
import TiktokOutreach.Lib.Calendar
import TiktokOutreach.NextLocalDay
import TiktokOutreach.BranchDecisions
import TiktokOutreach.Lib.Pages
import TiktokOutreach.DatabasePreview
import TiktokOutreach.RequestChecks
import TiktokOutreach.HistoryAccounts
import TiktokOutreach.ContactStates
import TiktokOutreach.ProbeWalks
import TiktokOutreach.LockOrder
