/-
The routes of the JSON API.  The packet processor takes the route from the
first key of the request, be it the packet or its envelope.
-/
import SamaServer.JsonPackets

namespace SamaServer

/-- The routes of `routes.js`, in their order. -/
inductive Route
  | ping | typing | message | messageEdit | messageReactionsUpdate
  | messageList | messageReactionsList | messageRead
  | messageDecryptionFailed | messageDelete | messageSummary | messageTone
  | systemMessage | connect | userCreate | userEdit | userLogin | userLogout
  | userDelete | userSendOtp | userResetPassword | userSearch
  | getUsersByIds | contactAdd | contactBatchAdd | contactUpdate
  | contactDelete | contactList | createFiles | getFileUrls | opLogList
  | blockUser | unblockUser | listBlockedUsers | blockListEnable
  | userLastActivitySubscribe | userLastActivityUnsubscribe
  | userLastActivity | onlineList | activityStatus | getParticipantsByCids
  | getAdminsByCids | conversationCreate | conversationDelete
  | conversationUpdate | conversationList | conversationSearch
  | conversationSubscribe | conversationUnsubscribe
  | conversationHandlerCreate | getConversationHandler
  | conversationHandlerDelete | pushSubscriptionCreate
  | pushSubscriptionList | pushSubscriptionDelete | pushEventCreate
  | deviceRegister | deviceList | requestKeys | deviceDelete
deriving DecidableEq

namespace Route

/-- The keys of the table `routes`. -/
def name : Route → String
  | .ping => "ping"
  | .typing => "typing"
  | .message => "message"
  | .messageEdit => "message_edit"
  | .messageReactionsUpdate => "message_reactions_update"
  | .messageList => "message_list"
  | .messageReactionsList => "message_reactions_list"
  | .messageRead => "message_read"
  | .messageDecryptionFailed => "message_decryption_failed"
  | .messageDelete => "message_delete"
  | .messageSummary => "message_summary"
  | .messageTone => "message_tone"
  | .systemMessage => "system_message"
  | .connect => "connect"
  | .userCreate => "user_create"
  | .userEdit => "user_edit"
  | .userLogin => "user_login"
  | .userLogout => "user_logout"
  | .userDelete => "user_delete"
  | .userSendOtp => "user_send_otp"
  | .userResetPassword => "user_reset_password"
  | .userSearch => "user_search"
  | .getUsersByIds => "get_users_by_ids"
  | .contactAdd => "contact_add"
  | .contactBatchAdd => "contact_batch_add"
  | .contactUpdate => "contact_update"
  | .contactDelete => "contact_delete"
  | .contactList => "contact_list"
  | .createFiles => "create_files"
  | .getFileUrls => "get_file_urls"
  | .opLogList => "op_log_list"
  | .blockUser => "block_user"
  | .unblockUser => "unblock_user"
  | .listBlockedUsers => "list_blocked_users"
  | .blockListEnable => "block_list_enable"
  | .userLastActivitySubscribe => "user_last_activity_subscribe"
  | .userLastActivityUnsubscribe => "user_last_activity_unsubscribe"
  | .userLastActivity => "user_last_activity"
  | .onlineList => "online_list"
  | .activityStatus => "activity_status"
  | .getParticipantsByCids => "get_participants_by_cids"
  | .getAdminsByCids => "get_admins_by_cids"
  | .conversationCreate => "conversation_create"
  | .conversationDelete => "conversation_delete"
  | .conversationUpdate => "conversation_update"
  | .conversationList => "conversation_list"
  | .conversationSearch => "conversation_search"
  | .conversationSubscribe => "conversation_subscribe"
  | .conversationUnsubscribe => "conversation_unsubscribe"
  | .conversationHandlerCreate => "conversation_handler_create"
  | .getConversationHandler => "get_conversation_handler"
  | .conversationHandlerDelete => "conversation_handler_delete"
  | .pushSubscriptionCreate => "push_subscription_create"
  | .pushSubscriptionList => "push_subscription_list"
  | .pushSubscriptionDelete => "push_subscription_delete"
  | .pushEventCreate => "push_event_create"
  | .deviceRegister => "device_register"
  | .deviceList => "device_list"
  | .requestKeys => "request_keys"
  | .deviceDelete => "device_delete"

def routes : List Route :=
  [.ping, .typing, .message, .messageEdit, .messageReactionsUpdate,
    .messageList, .messageReactionsList, .messageRead,
    .messageDecryptionFailed, .messageDelete, .messageSummary, .messageTone,
    .systemMessage, .connect, .userCreate, .userEdit, .userLogin,
    .userLogout, .userDelete, .userSendOtp, .userResetPassword, .userSearch,
    .getUsersByIds, .contactAdd, .contactBatchAdd, .contactUpdate,
    .contactDelete, .contactList, .createFiles, .getFileUrls, .opLogList,
    .blockUser, .unblockUser, .listBlockedUsers, .blockListEnable,
    .userLastActivitySubscribe, .userLastActivityUnsubscribe,
    .userLastActivity, .onlineList, .activityStatus, .getParticipantsByCids,
    .getAdminsByCids, .conversationCreate, .conversationDelete,
    .conversationUpdate, .conversationList, .conversationSearch,
    .conversationSubscribe, .conversationUnsubscribe,
    .conversationHandlerCreate, .getConversationHandler,
    .conversationHandlerDelete, .pushSubscriptionCreate,
    .pushSubscriptionList, .pushSubscriptionDelete, .pushEventCreate,
    .deviceRegister, .deviceList, .requestKeys, .deviceDelete]

/-- The routes without `authGuardMiddleware`. -/
def isPublic : Route → Bool
  | .ping | .connect | .userCreate | .userLogin | .userSendOtp
  | .userResetPassword => true
  | _ => false

/-- The routes with `statsMessagesMiddleWare`. -/
def countsMessages : Route → Bool
  | .message | .messageEdit | .messageReactionsUpdate | .systemMessage => true
  | _ => false

/-- `this.router[reqFirstParams]`, for the names the table itself has. -/
def ofName? (name : String) : Option Route :=
  routes.find? (fun route => route.name = name)

theorem name_of_ofName? {name : String} {route : Route}
    (hroute : ofName? name = some route) : route.name = name := by
  have hfound := List.find?_some hroute
  simpa using hfound

theorem name_ne_index (route : Route) : route.name ≠ "0" := by
  cases route <;> decide

end Route

/-- The route and the request data that a packet is dispatched with.  Without
a route, calling the handler is a `TypeError`, except for the functions that
the table inherits; they are no handlers. -/
def dispatch (json : Json) : Option (Route × Json) :=
  json.request?.bind (fun request =>
    (Route.ofName? request.1).map (fun route => (route, request.2)))

theorem property?_of_dispatch {json reqData : Json} {route : Route}
    (hdispatch : dispatch json = some (route, reqData)) :
    ∃ params, reqData.property? route.name = some params := by
  obtain ⟨request, hrequest, hmap⟩ := Option.bind_eq_some_iff.1 hdispatch
  obtain ⟨found, hfound, heq⟩ := Option.map_eq_some_iff.1 hmap
  cases heq
  have hname := Route.name_of_ofName? hfound
  have hindex : request.1 ≠ "0" := hname ▸ route.name_ne_index
  rw [hname]
  exact Option.isSome_iff_exists.1
    (Json.property?_of_request? hrequest hindex)

end SamaServer
