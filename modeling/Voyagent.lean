import Voyagent.GeneratorTraces
import Voyagent.TransitionRuns
import Voyagent.SessionTranscript
import Voyagent.AuditTrail
import Voyagent.ApprovalScope
import Voyagent.AgentLoop
import Voyagent.StreamedText
import Voyagent.ApprovalResume
import Voyagent.TranscriptPairing
import Voyagent.ConcurrentTurns
import Voyagent.ApprovalStores
import Voyagent.ApprovalResolution
import Voyagent.SseReconnect
import Voyagent.ReplayRequests
import Voyagent.TokenAccounting
import Voyagent.PasswordReset
import Voyagent.SecondFactor
import Voyagent.EmailVerification
import Voyagent.InviteRaces
import Voyagent.InviteCreation
import Voyagent.HafControlTotals
import Voyagent.HafEncoding
import Voyagent.TicketReconciliation
import Voyagent.JournalPosting
import Voyagent.TrialBalance
import Voyagent.AgingReport
import Voyagent.GeneratorRelations
import Voyagent.TurnRequests
import Voyagent.ChatSends
import Voyagent.RequestedApprovals
import Voyagent.BrowserJobs
import Voyagent.JobWorker
import Voyagent.JobFleet
import Voyagent.JobConservation
import Voyagent.PortalHandlers
import Voyagent.PortalSubmissions
import Voyagent.LruCache
import Voyagent.TenantCredentials
import Voyagent.TenantDrivers
import Voyagent.Enquiries
import Voyagent.EnquiryRaces
import Voyagent.EnquiryLinks
import Voyagent.TenantListings
import Voyagent.TenantReads
import Voyagent.InvoiceDrafts
import Voyagent.SettingsPatches
import Voyagent.SettingsResolver
import Voyagent.TallyVouchers
import Voyagent.TallyResponses
import Voyagent.TallyPosting
import Voyagent.PausedReplies
import Voyagent.ExecutedCalls
import Voyagent.CanonicalFields
import Voyagent.CanonicalFinance
import Voyagent.RecordTenants
import Voyagent.RuntimeLimits
import Voyagent.SendableTranscripts
import Voyagent.AuditActors
import Voyagent.AmadeusClient
import Voyagent.AmadeusMapping
import Voyagent.AmadeusBookings
import Voyagent.BookedOrders
import Voyagent.KeptFirsts
import Voyagent.BookingRuns
import Voyagent.OfferBookings
import Voyagent.OfferCollection
import Voyagent.BookingCancellation
import Voyagent.DriverWiring
import Voyagent.SessionStores
import Voyagent.SessionStoreAgreement
import Voyagent.BrowserPool
import Voyagent.HandlerExecutions
import Voyagent.JobDeadlines
import Voyagent.RegistryEviction
import Voyagent.BspReports
import Voyagent.LedgerAccounts
import Voyagent.HalfEvenRounding
import Voyagent.DecimalValues
import Voyagent.DecimalTexts
import Voyagent.DraftTotals
import Voyagent.SessionPlaces
import Voyagent.CooperativePrograms
import Voyagent.AuthClients
import Voyagent.SessionLosses
import Voyagent.DesktopClient
import Voyagent.DesktopSignOut
import Voyagent.DesktopLosses
import Voyagent.MobileClient
import Voyagent.MobileSignOut
import Voyagent.FinalSignOut
import Voyagent.MobileLosses
import Voyagent.WebClient
import Voyagent.WebLosses
import Voyagent.LostSessions
import Voyagent.ReconciledRows
import Voyagent.ReconciliationDeltas
import Voyagent.AgingOrder
import Voyagent.OfferCache
import Voyagent.RateWindows
import Voyagent.RegistryRecency
import Voyagent.JournalSummary
import Voyagent.HafReports
import Voyagent.HafExceptions
import Voyagent.AuthFailures
import Voyagent.WebSessions
import Voyagent.TurnBubbles
import Voyagent.StoredPasswords
import Voyagent.AppointmentSlots
import Voyagent.OneShotTokens
import Voyagent.EnquirySearch
import Voyagent.AuditLog
import Voyagent.CutPages
import Voyagent.PagedListings
import Voyagent.AuditExport
import Voyagent.PassportMrz
import Voyagent.WeightedChecks
import Voyagent.MrzMisreads
import Voyagent.MrzValidity
import Voyagent.DelimitedFeeds
import Voyagent.SseFrames
import Voyagent.ConcurrentAppends
import Voyagent.CanonicalJson
import Voyagent.CredentialEnvelopes
import Voyagent.CredentialRepository
import Voyagent.EnquiryPatches
import Voyagent.ToolReports
import Voyagent.VoucherAmounts
import Voyagent.JournalVouchers
import Voyagent.SalesVouchers
import Voyagent.CutGroups
import Voyagent.LedgerCharts
import Voyagent.OfferFares
import Voyagent.WholeOffers
import Voyagent.OfferShapes
import Voyagent.HotelParsers
import Voyagent.HotelAgreement
import Voyagent.TurnBudgets
import Voyagent.NextPaths
import Voyagent.ContactLimits
import Voyagent.PoolExclusivity
import Voyagent.TokenCache
import Voyagent.ApiKeys
import Voyagent.ScrubbedTexts
import Voyagent.SendSerialization
import Voyagent.ErrorReports
import Voyagent.AccessRevocation
import Voyagent.ResultPolling
import Voyagent.HostZones
