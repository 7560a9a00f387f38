import SamaServer.OrderedMap
import SamaServer.PropertyOrder
import SamaServer.JoinedLists
import SamaServer.Async
import SamaServer.Runs
import SamaServer.PendingWork
import SamaServer.StringDecoder
import SamaServer.SessionStore
import SamaServer.DeviceConnections
import SamaServer.SessionService
import SamaServer.UserOperations
import SamaServer.SessionFrames
import SamaServer.Requests
import SamaServer.PacketManager
import SamaServer.TableAgreement
import SamaServer.Registration
import SamaServer.RegistrationRuns
import SamaServer.ExplicitRemoval
import SamaServer.HeldRegistration
import SamaServer.TakeOver
import SamaServer.KeyRemoval
import SamaServer.LoginRace
import SamaServer.LoginRacePhases
import SamaServer.LoginRaceRuns
import SamaServer.JsonPackets
import SamaServer.AuthGuard
import SamaServer.JsonRoutes
import SamaServer.RouteHandlers
import SamaServer.PacketProcessor
import SamaServer.SessionlessPackets
import SamaServer.DecodedPackages
import SamaServer.DestinationSorting
import SamaServer.PacketDelivery
import SamaServer.PacketPartition
import SamaServer.Documents
import SamaServer.MessageReads
import SamaServer.NodeCleanUp
import SamaServer.RelyGuarantee
import SamaServer.Repairs
import SamaServer.Pages
import SamaServer.CleanUpRaces
import SamaServer.CleanUpRuns
import SamaServer.ClusterManager
import SamaServer.ReconnectLinks
import SamaServer.Reconnecting
import SamaServer.DuplicateConnections
import SamaServer.Fallible
import SamaServer.ConversationStore
import SamaServer.ConversationService
import SamaServer.ConversationOperations
import SamaServer.ConversationReads
import SamaServer.ParticipantRows
import SamaServer.Membership
import SamaServer.ConversationSteps
import SamaServer.MembershipRuns
import SamaServer.PrivateRequests
import SamaServer.CreateErrors
import SamaServer.ParticipantMoves
import SamaServer.UpdateErrors
import SamaServer.SharedRequests
import SamaServer.PrivatePairs
import SamaServer.PrivateOpponents
import SamaServer.PrivateConversations
import SamaServer.Ledger
import SamaServer.ChannelCount
import SamaServer.ConcurrentSubscriptions
import SamaServer.EditAccess
import SamaServer.BlockList
import SamaServer.UserTokens
import SamaServer.OneTimeCodes
import SamaServer.TokenRuns
import SamaServer.TokenOrigins
import SamaServer.ChatStore
import SamaServer.MessageOperations
import SamaServer.MessageAccess
import SamaServer.MessageIdAccess
import SamaServer.BlockedDelivery
import SamaServer.ReadNotifications
import SamaServer.UnreadMessages
import SamaServer.ParticipantBatches
import SamaServer.StableParticipants
import SamaServer.ActivityManager
import SamaServer.ActivitySubscriptions
import SamaServer.ActivityRaces
import SamaServer.EncryptedDevices
import SamaServer.OneTimeKeys
import SamaServer.OneTimeKeyRuns
import SamaServer.DeviceRegistrations
import SamaServer.EncryptedMessages
import SamaServer.ListedMessages
import SamaServer.LastConnections
import SamaServer.MessageControllers
import SamaServer.ControllerAgreement
import SamaServer.ContactStore
import SamaServer.ContactOperations
import SamaServer.ContactUpdates
import SamaServer.ContactSteps
import SamaServer.FoundUsers
import SamaServer.StaleMatches
import SamaServer.MissedMatches
import SamaServer.StatusReports
import SamaServer.FixedParticipants
import SamaServer.MessageDeletions
import SamaServer.StatsService
import SamaServer.ParticipantsLimit
import SamaServer.MessageReactions
import SamaServer.ReactionRaces
import SamaServer.ConversationHandler
import SamaServer.HandledMessages
import SamaServer.IdentitySets
import SamaServer.Triples
import SamaServer.AdminLists
import SamaServer.AdminRows
import SamaServer.ListedAdmins
import SamaServer.OnlineLists
import SamaServer.OnlineUsers
import SamaServer.TableRuns
import SamaServer.OnlinePages
import SamaServer.ScanReplies
import SamaServer.DatedConversations
import SamaServer.ListedConversations
import SamaServer.PromiseQueue
import SamaServer.QueueRuns
import SamaServer.ListLimits
import SamaServer.DeliverPackages
import SamaServer.NotifyingRequests
import SamaServer.Audiences
import SamaServer.ConversationNotifications
import SamaServer.ReceivedEvents
import SamaServer.Refinements
import SamaServer.EventRefinement
import SamaServer.ServerRequests
import SamaServer.MessageEffects
import SamaServer.Histories
import SamaServer.MessageHistory
import SamaServer.ServerMembership
import SamaServer.MessageInterleavings
import SamaServer.ServiceLocator
import SamaServer.Providers
import SamaServer.ClusterNodes
import SamaServer.NodeLiveness
import SamaServer.SyncRuns
