/-
The providers of the server: what each service, repository and operation is
made of, in the order of registration.  All of them can be resolved, so the
server boots, and every operation can be used afterwards.
-/
import SamaServer.ServiceLocator

namespace SamaServer

/-- The names that providers are registered under. -/
inductive ProviderName
  | config
  | logger
  | redisClient
  | mongoConnection
  | optSender
  | helpers
  | baseMapper
  | userMapper
  | conversationMapper
  | messageMapper
  | storageDriverClient
  | clusterNodeRepository
  | userRepository
  | userTokenRepository
  | blockedUserRepository
  | fileRepository
  | conversationRepository
  | conversationHandlerRepository
  | conversationParticipantRepository
  | encryptionRepository
  | encryptedMessageStatusRepository
  | messageRepository
  | messageStatusRepository
  | messageReactionRepository
  | contactRepository
  | operationLogRepository
  | operationsLogRepository
  | pushEventRepository
  | pushSubscriptionsRepository
  | organizationRepository
  | clusterNodeService
  | sessionService
  | statsService
  | userService
  | blockListService
  | storageService
  | operationLogsService
  | activityManagerStandaloneService
  | activityManagerClusterService
  | activityManagerService
  | conversationService
  | conversationHandlerService
  | messageService
  | conversationNotificationService
  | encryptionService
  | encryptedMessageStatusService
  | contactService
  | pushNotificationService
  | pushQueueService
  | organizationService
  | userAuthOperation
  | userLogoutOperation
  | userCreateOperation
  | userEditOperation
  | userDeleteOperation
  | userSearchOperation
  | userListOperation
  | userConnectSocketOperation
  | userSendOTPOperation
  | userResetPasswordOperation
  | blockListBlockOperation
  | blockListUnblockOperation
  | blockListEnableOperation
  | blockListRetrieveOperation
  | fileCreateOperation
  | fileDownloadOperation
  | activityUserRetrieveOperation
  | activityUserSubscribeOperation
  | activityUserUnsubscribeOperation
  | activityMarkActiveInactiveOperation
  | onlineListOperation
  | conversationCreateOperation
  | conversationEditOperation
  | conversationListOperation
  | conversationListParticipantsOperation
  | conversationListAdminsOperation
  | conversationDeleteOperation
  | conversationSearchOperation
  | conversationSubscribeUnsubscribeOperation
  | conversationHandlerCreateOperation
  | conversationHandlerGetOperation
  | conversationHandlerDeleteOperation
  | messageCreateOperation
  | messageEditOperation
  | messageReadOperation
  | messageDecryptionFailedOperation
  | messageDeleteOperation
  | messageListOperation
  | messageReactionsUpdateOperation
  | messageReactionsListOperation
  | messageSendSystemOperation
  | messageSummaryOperation
  | messageToneOperation
  | opLogsListOperation
  | statusTypingOperation
  | encryptionRegisterOperation
  | encryptionListOperation
  | encryptionRequestKeysOperation
  | encryptionDeleteOperation
  | contactAddOperation
  | contactEditOperation
  | contactListOperation
  | contactDeleteOperation
  | pushEventCreateOperation
  | pushSubscriptionCreateOperation
  | pushSubscriptionDeleteOperation
  | pushSubscriptionListOperation
  | httpStatsCollectOperation
  | httpUserAuthOperation
  | httpUserLogoutOperation
  | httpMessageCreateOperation
  | httpMessageSendSystemOperation
  | httpMessageReadOperation
  | httpMessageEditOperation
  | httpMessageReactionOperation
  | httpMessageDeleteOperation
  | httpActivityOnlineListOperation
  | httpOrganizationCreateOperation
deriving DecidableEq

namespace Providers

open ServiceLocator

def singleton (uses : List ProviderName) : RegisterProvider ProviderName :=
  ⟨.singleton, uses, false⟩

def transient (uses : List ProviderName) : RegisterProvider ProviderName :=
  ⟨.transient, uses, false⟩

/-- What the server registers before the providers: objects that are there
already. -/
def base : List (ProviderName × RegisterProvider ProviderName) :=
  [.config, .logger, .redisClient, .mongoConnection, .optSender].map
    (fun name => (name, singleton []))

/-- The activity manager is the one of a node on its own or of a node in a
cluster. -/
def activityManager (isStandAloneNode : Bool) :
    RegisterProvider ProviderName where
  scope := .singleton
  uses := [.config, if isStandAloneNode then .activityManagerStandaloneService
    else .activityManagerClusterService]
  handsOn := true

def providers (isStandAloneNode : Bool) :
    List (ProviderName × RegisterProvider ProviderName) :=
  [(.helpers, singleton []),
   (.baseMapper, singleton []),
   (.userMapper, singleton []),
   (.conversationMapper, singleton []),
   (.messageMapper, singleton []),
   (.storageDriverClient, singleton [.config, .helpers]),
   (.clusterNodeRepository, singleton [.mongoConnection, .baseMapper]),
   (.userRepository, singleton [.mongoConnection, .userMapper]),
   (.userTokenRepository, singleton [.mongoConnection, .baseMapper]),
   (.blockedUserRepository, singleton [.mongoConnection, .baseMapper]),
   (.fileRepository, singleton [.mongoConnection, .baseMapper]),
   (.conversationRepository, singleton
     [.mongoConnection, .conversationMapper]),
   (.conversationHandlerRepository, singleton [.mongoConnection, .baseMapper]),
   (.conversationParticipantRepository, singleton
     [.mongoConnection, .baseMapper]),
   (.encryptionRepository, singleton [.mongoConnection, .baseMapper]),
   (.encryptedMessageStatusRepository, singleton
     [.mongoConnection, .baseMapper]),
   (.messageRepository, singleton [.mongoConnection, .messageMapper]),
   (.messageStatusRepository, singleton [.mongoConnection, .baseMapper]),
   (.messageReactionRepository, singleton [.mongoConnection, .baseMapper]),
   (.contactRepository, singleton [.mongoConnection, .baseMapper]),
   (.operationLogRepository, singleton [.mongoConnection, .baseMapper]),
   (.operationsLogRepository, singleton [.mongoConnection, .baseMapper]),
   (.pushEventRepository, singleton [.mongoConnection, .baseMapper]),
   (.pushSubscriptionsRepository, singleton [.mongoConnection, .baseMapper]),
   (.organizationRepository, singleton [.mongoConnection, .baseMapper]),
   (.clusterNodeService, singleton [.config, .redisClient]),
   (.sessionService, singleton [.config, .logger, .redisClient]),
   (.statsService, singleton
     [.config, .sessionService, .mongoConnection, .redisClient]),
   (.userService, singleton [.userRepository, .storageService]),
   (.blockListService, singleton [.helpers, .blockedUserRepository]),
   (.storageService, singleton
     [.redisClient, .storageDriverClient, .fileRepository]),
   (.operationLogsService, singleton [.operationsLogRepository]),
   (.activityManagerStandaloneService, singleton [.userService]),
   (.activityManagerClusterService, singleton [.redisClient, .userService]),
   (.activityManagerService, activityManager isStandAloneNode),
   (.conversationService, singleton
     [.config, .helpers, .storageService, .conversationRepository,
      .conversationParticipantRepository]),
   (.conversationHandlerService, singleton
     [.logger, .conversationHandlerRepository]),
   (.messageService, singleton
     [.config, .helpers, .userRepository, .messageRepository,
      .messageStatusRepository, .messageReactionRepository,
      .encryptionRepository, .encryptedMessageStatusRepository]),
   (.conversationNotificationService, singleton
     [.config, .helpers, .messageService]),
   (.encryptionService, singleton [.encryptionRepository]),
   (.encryptedMessageStatusService, singleton
     [.encryptionRepository, .encryptedMessageStatusRepository]),
   (.contactService, singleton [.contactRepository, .userRepository]),
   (.pushNotificationService, singleton
     [.pushEventRepository, .pushSubscriptionsRepository, .pushQueueService]),
   (.pushQueueService, singleton
     [.config, .pushEventRepository, .pushSubscriptionsRepository]),
   (.organizationService, singleton [.organizationRepository]),
   (.userAuthOperation, transient
     [.config, .sessionService, .userService, .userTokenRepository,
      .organizationService]),
   (.userLogoutOperation, transient
     [.sessionService, .userTokenRepository, .encryptionRepository]),
   (.userCreateOperation, transient
     [.organizationService, .userService, .contactService]),
   (.userEditOperation, transient
     [.sessionService, .userService, .contactService]),
   (.userDeleteOperation, transient
     [.sessionService, .userService, .activityManagerService,
      .blockListService, .contactService]),
   (.userSearchOperation, transient [.config, .sessionService, .userService]),
   (.userListOperation, transient [.sessionService, .userService]),
   (.userConnectSocketOperation, transient
     [.config, .sessionService, .userService, .userTokenRepository]),
   (.userSendOTPOperation, singleton
     [.userService, .userTokenRepository, .optSender]),
   (.userResetPasswordOperation, singleton
     [.userService, .userTokenRepository]),
   (.blockListBlockOperation, transient
     [.sessionService, .userService, .blockListService]),
   (.blockListUnblockOperation, transient
     [.sessionService, .blockListService]),
   (.blockListEnableOperation, transient [.sessionService, .blockListService]),
   (.blockListRetrieveOperation, transient
     [.sessionService, .blockListService]),
   (.fileCreateOperation, transient [.sessionService, .storageService]),
   (.fileDownloadOperation, transient [.sessionService, .storageService]),
   (.activityUserRetrieveOperation, transient [.sessionService, .userService]),
   (.activityUserSubscribeOperation, transient
     [.helpers, .sessionService, .activityManagerService, .userService]),
   (.activityUserUnsubscribeOperation, transient
     [.sessionService, .activityManagerService]),
   (.activityMarkActiveInactiveOperation, transient [.sessionService]),
   (.onlineListOperation, transient [.sessionService, .userService]),
   (.conversationCreateOperation, transient
     [.helpers, .sessionService, .userService, .conversationService,
      .conversationNotificationService]),
   (.conversationEditOperation, transient
     [.helpers, .sessionService, .userService, .conversationService,
      .messageService, .conversationNotificationService]),
   (.conversationListOperation, transient
     [.config, .sessionService, .userService, .conversationService,
      .messageService]),
   (.conversationListParticipantsOperation, transient
     [.sessionService, .userService, .conversationService]),
   (.conversationListAdminsOperation, transient
     [.sessionService, .userService, .conversationService]),
   (.conversationDeleteOperation, transient
     [.helpers, .sessionService, .userService, .conversationService,
      .conversationNotificationService]),
   (.conversationSearchOperation, transient
     [.config, .sessionService, .conversationService]),
   (.conversationSubscribeUnsubscribeOperation, transient
     [.helpers, .sessionService, .userService, .conversationService]),
   (.conversationHandlerCreateOperation, transient
     [.sessionService, .conversationService, .conversationHandlerService]),
   (.conversationHandlerGetOperation, transient
     [.sessionService, .conversationService, .conversationHandlerService]),
   (.conversationHandlerDeleteOperation, transient
     [.sessionService, .conversationService, .conversationHandlerService]),
   (.messageCreateOperation, transient
     [.config, .sessionService, .storageDriverClient, .blockListService,
      .userService, .conversationService, .conversationHandlerService,
      .conversationNotificationService, .messageService]),
   (.messageEditOperation, transient
     [.sessionService, .messageService, .conversationService]),
   (.messageReadOperation, transient
     [.config, .sessionService, .userService, .messageService,
      .conversationService]),
   (.messageDecryptionFailedOperation, singleton
     [.sessionService, .userService, .messageService, .conversationService]),
   (.messageDeleteOperation, transient
     [.sessionService, .conversationService, .messageService]),
   (.messageListOperation, transient
     [.config, .helpers, .sessionService, .userService, .messageService,
      .conversationService]),
   (.messageReactionsUpdateOperation, transient
     [.config, .sessionService, .messageService, .conversationService]),
   (.messageReactionsListOperation, transient
     [.sessionService, .messageService]),
   (.messageSendSystemOperation, transient
     [.helpers, .sessionService, .userService, .conversationService,
      .messageService]),
   (.messageSummaryOperation, singleton
     [.config, .logger, .helpers, .sessionService, .userService,
      .messageService, .conversationService]),
   (.messageToneOperation, singleton [.config, .logger, .messageService]),
   (.opLogsListOperation, transient [.sessionService, .operationLogsService]),
   (.statusTypingOperation, transient
     [.config, .sessionService, .blockListService, .conversationService]),
   (.encryptionRegisterOperation, singleton
     [.encryptionService, .sessionService]),
   (.encryptionListOperation, singleton [.encryptionService, .sessionService]),
   (.encryptionRequestKeysOperation, singleton
     [.sessionService, .userRepository, .encryptionService]),
   (.encryptionDeleteOperation, singleton
     [.encryptionService, .sessionService, .helpers]),
   (.contactAddOperation, transient [.sessionService, .contactService]),
   (.contactEditOperation, transient [.sessionService, .contactService]),
   (.contactListOperation, transient [.sessionService, .contactService]),
   (.contactDeleteOperation, transient [.sessionService, .contactService]),
   (.pushEventCreateOperation, transient
     [.sessionService, .userService, .pushNotificationService]),
   (.pushSubscriptionCreateOperation, transient
     [.sessionService, .pushNotificationService]),
   (.pushSubscriptionDeleteOperation, transient
     [.sessionService, .pushNotificationService]),
   (.pushSubscriptionListOperation, transient
     [.sessionService, .pushNotificationService]),
   (.httpStatsCollectOperation, transient [.statsService]),
   (.httpUserAuthOperation, transient [.config, .helpers, .userAuthOperation]),
   (.httpUserLogoutOperation, transient
     [.helpers, .sessionService, .userTokenRepository, .userLogoutOperation]),
   (.httpMessageCreateOperation, transient
     [.sessionService, .messageCreateOperation]),
   (.httpMessageSendSystemOperation, transient
     [.sessionService, .messageSendSystemOperation]),
   (.httpMessageReadOperation, transient
     [.sessionService, .messageReadOperation]),
   (.httpMessageEditOperation, transient
     [.sessionService, .messageEditOperation]),
   (.httpMessageReactionOperation, transient
     [.sessionService, .messageReactionsUpdateOperation]),
   (.httpMessageDeleteOperation, transient
     [.sessionService, .messageDeleteOperation]),
   (.httpActivityOnlineListOperation, transient
     [.sessionService, .onlineListOperation]),
   (.httpOrganizationCreateOperation, transient [.organizationService])]

/-- The providers as they are registered, one after the other. -/
def registry (isStandAloneNode : Bool) :
    OrderedMap ProviderName (RegisterProvider ProviderName) :=
  (base ++ providers isStandAloneNode).foldl
    (fun registry (name, provider) => registry.set name provider) .empty

theorem mem_registered (isStandAloneNode : Bool) (name : ProviderName) :
    name ∈ (base ++ providers isStandAloneNode).map Prod.fst := by
  cases name <;> decide +kernel +revert

/-- No provider needs itself, and none needs a name that is not there. -/
theorem resolvable (isStandAloneNode : Bool) (name : ProviderName) :
    Resolvable (registry isStandAloneNode) name := by
  have hall : ∀ name ∈ (base ++ providers isStandAloneNode).map Prod.fst,
      name ∈ resolvedIn (registry isStandAloneNode) 7 := by
    decide +kernel +revert
  exact resolvable_of_mem (hall name (mem_registered isStandAloneNode name))

/-- The server starts, and after whatever it was asked for each of its names
can be used. -/
theorem server_starts (isStandAloneNode : Bool) :
    (∃ bound ids s, (∀ depth, bound ≤ depth →
      createAllSingletonInstances depth (fresh (registry isStandAloneNode)) =
        (.ok ids, s)) ∧
      List.Forall₂ (fun id name => Serves s name id) ids
        (fresh (registry isStandAloneNode)).singletons) ∧
    ∀ calls name, ∃ bound id t, ∀ depth, bound ≤ depth →
      createProviderInstance depth (run (registry isStandAloneNode) calls)
        name = (.ok id, t) :=
  ⟨createAllSingletonInstances_ok (fun name _ => resolvable _ name),
    fun calls name => (resolvable isStandAloneNode name).use calls⟩

end Providers

end SamaServer
