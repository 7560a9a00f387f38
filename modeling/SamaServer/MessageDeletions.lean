/-
What `message_delete` removes and hides.  All requested messages are checked
before the first write, so the filter of the write finds exactly the messages
that were checked, and a request that fails leaves every message as it was.
-/
import SamaServer.MessageAccess

namespace SamaServer

namespace ChatMessage

/-- A message without the list of those who hid it, as it is sent to users. -/
def shown (message : ChatMessage) : ChatMessage :=
  { message with deletedFor := [] }

end ChatMessage

/-- The period of a filter is about dates, not about who hid a message. -/
def ListFilter.IsOnDates (filter : ListFilter) : Prop :=
  ∀ message deletedFor,
    filter.inPeriod { message with deletedFor } = filter.inPeriod message

namespace MessageOperations

open Fallible ConversationService

variable {config : ChatConfig} {session : ConversationSession}
  {cid : TextId} {ids : List IdParam} {isDeleteAll : Bool}
  {chat after : ChatStore}

/-- One of the ids names the message. -/
def Requested (ids : List IdParam) (message : ChatMessage) : Prop :=
  ∃ param ∈ ids, param.namedId? = some message.id

instance (ids : List IdParam) (message : ChatMessage) :
    Decidable (Requested ids message) :=
  inferInstanceAs (Decidable (∃ param ∈ ids, _))

theorem mem_namedIds_iff {mids : List ObjectId}
    (hmids : ChatStore.namedIds ids = .ok mids) (message : ChatMessage) :
    message.id ∈ mids ↔ Requested ids message := by
  unfold ChatStore.namedIds at hmids
  split at hmids
  · cases hmids
  · cases hmids
    simp [Requested, List.mem_filterMap]

theorem findAllByIds_ok {messages : List ChatMessage}
    (hfound : chat.findAllByIds ids = .ok messages) :
    messages = chat.messages.filter (fun message =>
      Requested ids message) := by
  unfold ChatStore.findAllByIds at hfound
  cases hmids : ChatStore.namedIds ids with
  | error error =>
      rw [hmids] at hfound
      cases hfound
  | ok mids =>
      rw [hmids] at hfound
      cases hfound
      exact List.filter_congr (fun message _ => by
        simp [mem_namedIds_iff hmids])

/-- The limit of the query is the number of ids, and cuts nothing off. -/
theorem length_findAllByIds_le {messages : List ChatMessage}
    (hfound : chat.findAllByIds ids = .ok messages) :
    messages.length ≤ ids.length := by
  have hnodup : (messages.map (fun message => message.id)).Nodup := by
    rw [findAllByIds_ok hfound, List.Nodup, List.pairwise_map]
    exact (chat.messages_sorted.sublist List.filter_sublist).imp
      (fun hlt => Nat.ne_of_lt hlt)
  have hsubset : messages.map (fun message => message.id) ⊆
      ids.filterMap IdParam.namedId? := by
    intro id hid
    obtain ⟨message, hmessage, rfl⟩ := List.mem_map.1 hid
    rw [findAllByIds_ok hfound] at hmessage
    exact List.mem_filterMap.2 (of_decide_eq_true
      (List.mem_filter.1 hmessage).2)
  calc messages.length
      = (messages.map (fun message => message.id)).length := by
        rw [List.length_map]
    _ ≤ (ids.filterMap IdParam.namedId?).length :=
        (List.subperm_of_subset hnodup hsubset).length_le
    _ ≤ ids.length := List.length_filterMap_le _ _

/-- What is checked for every message before the first write. -/
structure Deletable (session : ConversationSession)
    (access : ConversationAccess) (isDeleteAll : Bool)
    (message : ChatMessage) : Prop where
  cid : message.cid = access.conversation.id
  organizationId : message.organizationId = session.organizationId
  sender : isDeleteAll = true → message.sender = session.userId ∨
    (access.conversation.params.type ≠ .u ∧
      (access.asOwner = true ∨ access.asAdmin = true))

/-- The check of the requested messages ends the request, or lets through
messages that may all be deleted. -/
theorem exec_validateMessagesForDelete_cases (session : ConversationSession)
    (access : ConversationAccess) (isDeleteAll : Bool)
    (messages : List ChatMessage) (chat : ChatStore) :
    (∃ error, (validateMessagesForDelete session access.conversation
        (isDeleteAll ∧ ¬ (access.conversation.params.type ≠ .u ∧
          (access.asOwner ∨ access.asAdmin))) messages).exec chat =
      (.error error, chat)) ∨
    ((validateMessagesForDelete session access.conversation
        (isDeleteAll ∧ ¬ (access.conversation.params.type ≠ .u ∧
          (access.asOwner ∨ access.asAdmin))) messages).exec chat =
      (.ok (), chat) ∧
    ∀ message ∈ messages, Deletable session access isDeleteAll message) := by
  unfold validateMessagesForDelete
  split
  · exact Or.inl ⟨_, rfl⟩
  · next hvalid =>
      refine Or.inr ⟨rfl, ?_⟩
      intro message hmessage
      simp only [List.any_eq_true, not_exists, not_and] at hvalid
      have hmessage := hvalid message hmessage
      simp only [decide_eq_true_eq, not_or, not_and, not_not] at hmessage
      refine ⟨hmessage.1, hmessage.2.1, fun hall => ?_⟩
      by_cases hmoderates : access.conversation.params.type ≠ .u ∧
          (access.asOwner ∨ access.asAdmin)
      · exact Or.inr hmoderates
      · exact Or.inl (hmessage.2.2 ⟨hall, fun htype =>
          not_or.1 (fun hright => hmoderates ⟨htype, hright⟩)⟩)

/-- The messages after a request that passed the checks. -/
def messagesAfter (session : ConversationSession) (ids : List IdParam)
    (isDeleteAll : Bool) (messages : List ChatMessage) : List ChatMessage :=
  if isDeleteAll then
    messages.filter (fun message => ¬ Requested ids message)
  else messages.map (fun message =>
    if Requested ids message then hide session.userId message else message)

/-- A message matches the filter of a write when it was requested. -/
theorem isInConversation_iff {access : ConversationAccess}
    (hchecked : ∀ message ∈ chat.messages, Requested ids message →
      Deletable session access isDeleteAll message)
    {message : ChatMessage} (hmessage : message ∈ chat.messages) :
    isInConversation session ((chat.messages.filter (fun message =>
        Requested ids message)).map (fun message => message.id))
      access.conversation.id message = true ↔ Requested ids message := by
  simp only [isInConversation, decide_eq_true_eq]
  constructor
  · rintro ⟨hid, -, -⟩
    obtain ⟨found, hfound, hsame⟩ := List.mem_map.1 hid
    have hrequested := of_decide_eq_true (List.mem_filter.1 hfound).2
    rw [Requested, hsame] at hrequested
    exact hrequested
  · intro hrequested
    have hdeletable := hchecked message hmessage hrequested
    refine ⟨?_, hdeletable.cid, hdeletable.organizationId⟩
    exact List.mem_map_of_mem
      (List.mem_filter.2 ⟨hmessage, decide_eq_true hrequested⟩)

theorem messages_deleteMessagesForEveryone {access : ConversationAccess}
    (hchecked : ∀ message ∈ chat.messages, Requested ids message →
      Deletable session access true message) :
    (deleteMessagesForEveryone session ((chat.messages.filter
        (fun message => Requested ids message)).map
          (fun message => message.id)) access.conversation.id
      (if access.conversation.params.type ≠ .u ∧
        (access.asOwner ∨ access.asAdmin) then none
      else some session.userId) chat).messages =
    messagesAfter session ids true chat.messages := by
  refine List.filter_congr (fun message hmessage => ?_)
  have hfilter := isInConversation_iff hchecked hmessage
  by_cases hrequested : Requested ids message
  · have hauthor : (if access.conversation.params.type ≠ .u ∧
        (access.asOwner ∨ access.asAdmin) then none
      else some session.userId).all
        (fun authorId => decide (message.sender = authorId)) = true := by
      split
      · rfl
      · next hnot =>
          have hsender := (hchecked message hmessage hrequested).sender rfl
          simpa using hsender.resolve_right hnot
    simp [hfilter.2 hrequested, hauthor, hrequested]
  · have hnot : isInConversation session _ access.conversation.id message =
        false := Bool.eq_false_iff.2 (mt hfilter.1 hrequested)
    simp [hnot, hrequested]

theorem messages_hideMessagesForUser {access : ConversationAccess}
    (hchecked : ∀ message ∈ chat.messages, Requested ids message →
      Deletable session access false message) :
    (hideMessagesForUser session ((chat.messages.filter
        (fun message => Requested ids message)).map
          (fun message => message.id)) access.conversation.id
      chat).messages = messagesAfter session ids false chat.messages := by
  refine List.map_congr_left (fun message hmessage => ?_)
  have hfilter := isInConversation_iff hchecked hmessage
  by_cases hrequested : Requested ids message
  · rw [if_pos (hfilter.2 hrequested), if_pos hrequested]
  · rw [if_neg (mt hfilter.1 hrequested), if_neg hrequested]

/-- No requested message is there. -/
theorem messagesAfter_of_none {messages : List ChatMessage}
    (hnone : messages.filter (fun message => Requested ids message) = []) :
    messagesAfter session ids isDeleteAll messages = messages := by
  have hnot : ∀ message ∈ messages, ¬ Requested ids message := by
    simpa using List.filter_eq_nil_iff.1 hnone
  unfold messagesAfter
  split
  · exact List.filter_eq_self.2 (by simpa using hnot)
  · refine (List.map_congr_left (fun message hmessage => ?_)).trans
      (List.map_id messages)
    rw [if_neg (hnot message hmessage)]
    rfl

/-- The write of a request that passed the checks. -/
def storeAfter (session : ConversationSession) (access : ConversationAccess)
    (messageIds : List ObjectId) (isDeleteAll : Bool) (chat : ChatStore) :
    ChatStore :=
  if messageIds = [] then chat
  else if isDeleteAll then
    deleteMessagesForEveryone session messageIds access.conversation.id
      (if access.conversation.params.type ≠ .u ∧
        (access.asOwner ∨ access.asAdmin) then none
      else some session.userId) chat
  else hideMessagesForUser session messageIds access.conversation.id chat

/-- Nothing but messages was written. -/
structure OnlyMessages (chat after : ChatStore) : Prop where
  conversations : after.conversations = chat.conversations
  statuses : after.statuses = chat.statuses
  strayStatuses : after.strayStatuses = chat.strayStatuses
  reactions : after.reactions = chat.reactions
  blocks : after.blocks = chat.blocks

theorem onlyMessages_storeAfter (session : ConversationSession)
    (access : ConversationAccess) (messageIds : List ObjectId)
    (isDeleteAll : Bool) (chat : ChatStore) :
    OnlyMessages chat
      (storeAfter session access messageIds isDeleteAll chat) := by
  unfold storeAfter
  split
  · exact ⟨rfl, rfl, rfl, rfl, rfl⟩
  · split
    · exact ⟨rfl, rfl, rfl, rfl, rfl⟩
    · exact ⟨rfl, rfl, rfl, rfl, rfl⟩

theorem messages_storeAfter {access : ConversationAccess}
    (hchecked : ∀ message ∈ chat.messages, Requested ids message →
      Deletable session access isDeleteAll message) :
    (storeAfter session access ((chat.messages.filter (fun message =>
        Requested ids message)).map (fun message => message.id))
      isDeleteAll chat).messages =
    messagesAfter session ids isDeleteAll chat.messages := by
  unfold storeAfter
  split
  · next hnone =>
      rw [messagesAfter_of_none (List.map_eq_nil_iff.1 hnone)]
  · cases isDeleteAll with
    | true => exact messages_deleteMessagesForEveryone hchecked
    | false => exact messages_hideMessagesForUser hchecked

/-- The request fails before it writes, or all requested messages may be
deleted and are. -/
theorem exec_delete_cases (config : ChatConfig)
    (session : ConversationSession) (cid : TextId) (ids : List IdParam)
    (isDeleteAll : Bool) (chat : ChatStore) :
    (∃ error, (delete config session cid ids isDeleteAll).exec chat =
      (.error error, chat)) ∨
    ∃ access deliveries after,
      HasAccess config session (fun _ => false) cid chat access ∧
      (∀ message ∈ chat.messages, Requested ids message →
        Deletable session access isDeleteAll message) ∧
      (delete config session cid ids isDeleteAll).exec chat =
        (.ok deliveries, after) ∧
      after.messages = messagesAfter session ids isDeleteAll
        chat.messages ∧
      OnlyMessages chat after := by
  unfold delete
  rcases exec_hasAccess_cases config session (fun _ => false) cid chat with
    ⟨access, haccess, hexec⟩ | ⟨-, status, -, hexec⟩
  · rw [hasAccessToList, exec_bind_ok hexec]
    simp only [query, exec_command_bind]
    cases hfound : chat.findAllByIds ids with
    | error error => exact Or.inl ⟨error, rfl⟩
    | ok messages =>
        have hmessages := findAllByIds_ok hfound
        subst hmessages
        rcases exec_validateMessagesForDelete_cases session access
            isDeleteAll (chat.messages.filter (fun message =>
              Requested ids message)) chat with
          ⟨error, hinvalid⟩ | ⟨hvalid, hdeletable⟩
        · exact Or.inl ⟨error, exec_bind_error hinvalid _⟩
        · have hchecked : ∀ message ∈ chat.messages,
              Requested ids message →
                Deletable session access isDeleteAll message := by
            intro message hmessage hrequested
            exact hdeletable message (List.mem_filter.2
              ⟨hmessage, decide_eq_true hrequested⟩)
          have hframe := onlyMessages_storeAfter session access
            ((chat.messages.filter (fun message =>
              Requested ids message)).map (fun message => message.id))
            isDeleteAll chat
          refine Or.inr ⟨access, if isDeleteAll then [⟨recipientsOf
              access.conversation chat, .deleted ids⟩] else [], _, haccess,
            hchecked, ?_, messages_storeAfter hchecked, hframe⟩
          dsimp only
          rw [exec_bind_ok hvalid, write, exec_command_bind]
          cases isDeleteAll with
          | true =>
              simp only [↓reduceIte, deliver, query, exec_command]
              rw [recipientsOf, recipientsOf, ← hframe.conversations]
              rfl
          | false => rfl
  · exact Or.inl ⟨_, exec_bind_error hexec _⟩

/-! ### What other users see -/

theorem hide_eq (userId : ObjectId) (message : ChatMessage) :
    ∃ deletedFor, hide userId message = { message with deletedFor } ∧
      ∀ user, user ∈ deletedFor ↔
        user ∈ message.deletedFor ∨ user = .id userId := by
  unfold hide
  split
  · refine ⟨message.deletedFor ++ [.id userId], rfl, ?_⟩
    simp
  · next hhidden =>
      refine ⟨message.deletedFor, rfl, fun user => ⟨Or.inl, ?_⟩⟩
      intro hmember
      rcases hmember with hold | hcaller
      · exact hold
      · rw [hcaller]
        simpa [ChatMessage.isVisibleTo] using hhidden

/-- The check depends on the conversations alone. -/
theorem exec_hasAccess_same (config : ChatConfig)
    (session : ConversationSession) (refuses : ConversationAccess → Bool)
    (cid : TextId) (hsame : after.conversations = chat.conversations) :
    (hasAccess config session refuses cid).exec after =
      (((hasAccess config session refuses cid).exec chat).1, after) := by
  have hcheck : ((hasAccess config session refuses cid).exec after).1 =
      ((hasAccess config session refuses cid).exec chat).1 := by
    simp only [hasAccess, onConversations, exec_command_bind, hsame]
    cases ((hasAccessToConversation config.conversations session cid.param
      false).exec chat.conversations).1 with
    | error error => rfl
    | ok found =>
        cases found with
        | none => rfl
        | some access =>
            dsimp only
            split
            · rfl
            · split <;> rfl
  have hstate : ((hasAccess config session refuses cid).exec after).2 =
      after := by
    rcases exec_hasAccess_cases config session refuses cid after with
      ⟨access, -, hexec⟩ | ⟨-, status, -, hexec⟩
    · rw [hexec]
    · rw [hexec]
  exact Prod.ext hcheck hstate

/-- What hiding does to a message, requested or not. -/
theorem hidden_eq (session : ConversationSession) (ids : List IdParam)
    (message : ChatMessage) :
    ∃ deletedFor, (if Requested ids message then
        hide session.userId message else message) =
        { message with deletedFor } ∧
      ∀ user, user ∈ deletedFor ↔ user ∈ message.deletedFor ∨
        (user = .id session.userId ∧ Requested ids message) := by
  by_cases hrequested : Requested ids message
  · obtain ⟨deletedFor, heq, hmem⟩ := hide_eq session.userId message
    refine ⟨deletedFor, by rw [if_pos hrequested, heq], ?_⟩
    simpa [hrequested] using hmem
  · refine ⟨message.deletedFor, by rw [if_neg hrequested], ?_⟩
    simp [hrequested]

/-- An entry of a list as it is sent. -/
def sent (entry : ChatMessage × Option ShownStatus) :
    ChatMessage × Option ShownStatus :=
  (entry.1.shown, entry.2)

/-- The answer to a list as it is sent. -/
def sentList
    (answer : Except ConversationError
      (List (ChatMessage × Option ShownStatus))) :
    Except ConversationError (List (ChatMessage × Option ShownStatus)) :=
  answer.map (List.map sent)

section Hidden

variable {hidden : ChatMessage → ChatMessage}

/-- Messages are changed in nothing but who hid them. -/
def OnlyHides (hidden : ChatMessage → ChatMessage) : Prop :=
  ∀ message, ∃ deletedFor, hidden message = { message with deletedFor }

/-- A filter that hiding does not matter to finds the same messages. -/
theorem shown_filter_map (hhides : OnlyHides hidden)
    (found : ChatMessage → Bool)
    (hfound : ∀ message, found (hidden message) = found message)
    (messages : List ChatMessage) :
    ((messages.map hidden).filter found).map ChatMessage.shown =
      (messages.filter found).map ChatMessage.shown := by
  have hsame : found ∘ hidden = found := funext hfound
  have hshown : ChatMessage.shown ∘ hidden = ChatMessage.shown := by
    funext message
    obtain ⟨deletedFor, heq⟩ := hhides message
    rw [Function.comp_apply, heq]
    rfl
  rw [List.filter_map, List.map_map, hsame, hshown]

/-- The statuses are added to what is shown of the messages. -/
theorem sent_assignMessageVirtualFields (session : ConversationSession)
    (hframe : OnlyMessages chat after) {messages same : List ChatMessage}
    (hshown : same.map ChatMessage.shown =
      messages.map ChatMessage.shown) :
    (assignMessageVirtualFields session same after).map sent =
      (assignMessageVirtualFields session messages chat).map sent := by
  have hstatus : ∀ mid, shownStatus after mid = shownStatus chat mid := by
    intro mid
    rw [shownStatus, shownStatus, ChatStore.hasStatus, ChatStore.hasStatus,
      hframe.statuses, hframe.strayStatuses]
  have hentries : ∀ (store : ChatStore) (list : List ChatMessage),
      (assignMessageVirtualFields session list store).map sent =
        assignMessageVirtualFields session (list.map ChatMessage.shown)
          store := by
    intro store list
    simp only [assignMessageVirtualFields, List.map_map]
    rfl
  rw [hentries, hentries, hshown]
  simp only [assignMessageVirtualFields, hstatus]

/-- A user for whom nothing was hidden finds the same messages. -/
theorem list_hidden (hhides : OnlyHides hidden) {filter : ListFilter}
    (hdates : filter.IsOnDates) {userId : ObjectId}
    (hvisible : ∀ message, (hidden message).isVisibleTo userId =
      message.isVisibleTo userId)
    (hmessages : after.messages = chat.messages.map hidden)
    (cid : ObjectId) (limit : Nat) :
    (after.list cid userId filter limit).map (List.map ChatMessage.shown) =
      (chat.list cid userId filter limit).map
        (List.map ChatMessage.shown) := by
  have hfind : ∀ mids : Option (List ObjectId), (after.messages.filter
        (fun message => message.cid = cid ∧ message.isVisibleTo userId ∧
          mids.all (fun mids => message.id ∈ mids) ∧
          filter.inPeriod message ∧
          (filter.bodyNotEmpty → message.hasText))).map ChatMessage.shown =
      (chat.messages.filter
        (fun message => message.cid = cid ∧ message.isVisibleTo userId ∧
          mids.all (fun mids => message.id ∈ mids) ∧
          filter.inPeriod message ∧
          (filter.bodyNotEmpty → message.hasText))).map
        ChatMessage.shown := by
    intro mids
    rw [hmessages]
    refine shown_filter_map hhides _ (fun message => ?_) chat.messages
    obtain ⟨deletedFor, heq⟩ := hhides message
    rw [hvisible, heq, hdates]
    rfl
  have hpage : ∀ mids : Option (List ObjectId), _ := fun mids =>
    congrArg (fun found => (if filter.fromOldest then found
      else found.reverse).take limit) (hfind mids)
  simp only [← List.map_reverse, ← apply_ite (List.map ChatMessage.shown),
    ← List.map_take] at hpage
  unfold ChatStore.list
  cases filter.ids with
  | none => exact congrArg Except.ok (hpage none)
  | some ids =>
      cases hmids : ChatStore.namedIds ids with
      | error error =>
          simp only [hmids]
          rfl
      | ok mids =>
          simp only [hmids]
          exact congrArg Except.ok (hpage (some mids))

/-- The list of an encrypted conversation does not look at who hid a
message. -/
theorem exec_encryptedList_hidden (config : ChatConfig)
    (session : ConversationSession) (hhides : OnlyHides hidden)
    {filter : ListFilter} (hdates : filter.IsOnDates)
    (hframe : OnlyMessages chat after)
    (hmessages : after.messages = chat.messages.map hidden)
    (conversation : ConversationModel) (limit : Nat) :
    sentList ((encryptedList config session conversation filter
        limit).exec after).1 =
      sentList ((encryptedList config session conversation filter
        limit).exec chat).1 := by
  unfold encryptedList
  cases hmids : config.encryptedMids session.userId conversation.id with
  | error error =>
      rw [exec_bind_error (exec_ofExcept _ after),
        exec_bind_error (exec_ofExcept _ chat)]
  | ok mids =>
      rw [exec_bind_ok (exec_ofExcept _ after),
        exec_bind_ok (exec_ofExcept _ chat)]
      have hfind := shown_filter_map hhides (fun message =>
          decide (message.id ∈ mids.1 ∧ filter.inPeriod message = true))
        (fun message => by
          obtain ⟨deletedFor, heq⟩ := hhides message
          rw [heq, hdates]) chat.messages
      rw [← hmessages] at hfind
      have hpage := congrArg (fun found => found.reverse.take limit) hfind
      simp only [← List.map_reverse, ← List.map_take] at hpage
      exact congrArg Except.ok
        (sent_assignMessageVirtualFields session hframe hpage)

/-- Lists that show the same both fail, or both hold what shows the same. -/
theorem outcomes_of_shown
    {same found : Except ConversationError (List ChatMessage)}
    (hlist : same.map (List.map ChatMessage.shown) =
      found.map (List.map ChatMessage.shown)) :
    (∃ error, same = .error error ∧ found = .error error) ∨
      ∃ others messages, same = .ok others ∧ found = .ok messages ∧
        others.map ChatMessage.shown = messages.map ChatMessage.shown := by
  cases same with
  | error error =>
      cases found with
      | error other =>
          exact .inl ⟨error, rfl,
            congrArg Except.error (Except.error.inj hlist).symm⟩
      | ok messages => cases hlist
  | ok others =>
      cases found with
      | error other => cases hlist
      | ok messages =>
          exact .inr ⟨others, messages, rfl, rfl, Except.ok.inj hlist⟩

/-- Every list of a user for whom nothing was hidden is answered as
before. -/
theorem exec_list_hidden (config : ChatConfig)
    {session : ConversationSession} (hhides : OnlyHides hidden)
    {filter : ListFilter} (hdates : filter.IsOnDates)
    (hvisible : ∀ message, (hidden message).isVisibleTo session.userId =
      message.isVisibleTo session.userId)
    (hframe : OnlyMessages chat after)
    (hmessages : after.messages = chat.messages.map hidden)
    (cid : TextId) (limit : Option Nat) :
    sentList ((list config session cid filter limit).exec after).1 =
      sentList ((list config session cid filter limit).exec chat).1 := by
  have hsame := exec_hasAccess_same config session (fun _ => false) cid
    hframe.conversations
  simp only [list, query, exec_command_bind, hframe.conversations]
  rcases exec_hasAccess_cases config session (fun _ => false) cid chat with
    ⟨access, -, hexec⟩ | ⟨-, status, -, hexec⟩
  · rw [hexec] at hsame
    rw [hasAccessToList, exec_bind_ok hexec, exec_bind_ok hsame]
    cases huser : chat.conversations.findUserById session.userId with
    | none => rfl
    | some user =>
        have hid : user.id = session.userId := by
          obtain ⟨stored, -, rfl⟩ := Option.map_eq_some_iff.1 huser
          rfl
        rw [requireUser, exec_bind_ok (exec_pure user after),
          exec_bind_ok (exec_pure user chat)]
        split
        · exact exec_encryptedList_hidden config session hhides hdates
            hframe hmessages _ _
        · have hlist := list_hidden hhides hdates (hid ▸ hvisible) hmessages
            access.conversation.id (normalizeLimitParam config limit)
          simp only [exec_command_bind]
          rcases outcomes_of_shown hlist with
            ⟨error, hafter, hchat⟩ | ⟨same, messages, hafter, hchat, hshown⟩
          · rw [hafter, hchat]
          · rw [hafter, hchat]
            exact congrArg Except.ok (sent_assignMessageVirtualFields
              session hframe hshown)
  · rw [hexec] at hsame
    rw [hasAccessToList, exec_bind_error hexec, exec_bind_error hsame]

end Hidden

/-! ### Deletions -/

/-- The requested messages are gone.  All of them were in the conversation
and the organization of the caller, and by the caller unless the caller is
the owner or an admin of a conversation that is not private. -/
def DeletedForEveryone (session : ConversationSession) (cid : TextId)
    (ids : List IdParam) (chat after : ChatStore) : Prop :=
  after.messages = chat.messages.filter (fun message =>
    ¬ Requested ids message) ∧
  ∃ c isLowerCase stored, cid = .hex c isLowerCase ∧
    chat.conversations.conversations.get? c = some stored ∧
    ∀ message ∈ chat.messages, Requested ids message →
      message.cid = c ∧
      message.organizationId = session.organizationId ∧
      (message.sender = session.userId ∨
        stored.type ≠ .u ∧ (stored.ownerId = .id session.userId ∨
          ∃ row ∈ chat.conversations.rowsOf c,
            row.userId = .id session.userId ∧ row.role = some .admin))

/-- No message is gone, and the caller hid the requested ones and no others.
The lists of all other users are answered as before. -/
def HiddenForCaller (config : ChatConfig) (session : ConversationSession)
    (ids : List IdParam) (chat after : ChatStore) : Prop :=
  List.Forall₂ (fun message later =>
    ∃ deletedFor, later = { message with deletedFor } ∧
      ∀ user, user ∈ deletedFor ↔ user ∈ message.deletedFor ∨
        (user = .id session.userId ∧ Requested ids message))
    chat.messages after.messages ∧
  ∀ other : ConversationSession, other.userId ≠ session.userId →
    ∀ cid filter limit, filter.IsOnDates →
      sentList ((list config other cid filter limit).exec after).1 =
        sentList ((list config other cid filter limit).exec chat).1

/-- What a `message_delete` request comes to. -/
def DeletesRequested (config : ChatConfig) (session : ConversationSession)
    (cid : TextId) (ids : List IdParam) (isDeleteAll : Bool)
    (chat : ChatStore) : Prop :=
  match (delete config session cid ids isDeleteAll).exec chat with
  | (.error _, after) => after = chat
  | (.ok _, after) =>
      if isDeleteAll then DeletedForEveryone session cid ids chat after
      else HiddenForCaller config session ids chat after

theorem deletedForEveryone_of_checked {access : ConversationAccess}
    (haccess : HasAccess config session (fun _ => false) cid chat access)
    (hchecked : ∀ message ∈ chat.messages, Requested ids message →
      Deletable session access true message)
    (hmessages : after.messages =
      messagesAfter session ids true chat.messages) :
    DeletedForEveryone session cid ids chat after := by
  obtain ⟨c, isLowerCase, stored, hcid, hget, -, rfl, -, -⟩ := haccess
  refine ⟨hmessages, c, isLowerCase, stored, hcid, hget, ?_⟩
  intro message hmessage hrequested
  have hdeletable := hchecked message hmessage hrequested
  refine ⟨hdeletable.cid, hdeletable.organizationId, ?_⟩
  rcases hdeletable.sender rfl with hauthor | ⟨htype, howner | hadmin⟩
  · exact Or.inl hauthor
  · exact Or.inr ⟨htype, Or.inl (of_decide_eq_true howner)⟩
  · exact Or.inr ⟨htype, Or.inr (ConversationStore.admin_row hadmin)⟩

theorem hiddenForCaller_of_messages (config : ChatConfig)
    (hframe : OnlyMessages chat after)
    (hmessages : after.messages =
      messagesAfter session ids false chat.messages) :
    HiddenForCaller config session ids chat after := by
  have hmap : after.messages = chat.messages.map (fun message =>
      if Requested ids message then hide session.userId message
      else message) := hmessages
  constructor
  · rw [hmap, List.forall₂_map_right_iff, List.forall₂_same]
    intro message _
    exact hidden_eq session ids message
  · intro other hother otherCid filter limit hdates
    refine exec_list_hidden config ?_ hdates ?_ hframe hmap otherCid limit
    · intro message
      obtain ⟨deletedFor, heq, -⟩ := hidden_eq session ids message
      exact ⟨deletedFor, heq⟩
    · intro message
      obtain ⟨deletedFor, heq, hmem⟩ := hidden_eq session ids message
      rw [heq]
      simp [ChatMessage.isVisibleTo, hmem, hother]

/-- A deletion does exactly what was requested, or nothing. -/
theorem delete_requested (config : ChatConfig)
    (session : ConversationSession) (cid : TextId) (ids : List IdParam)
    (isDeleteAll : Bool) (chat : ChatStore) :
    DeletesRequested config session cid ids isDeleteAll chat := by
  unfold DeletesRequested
  rcases exec_delete_cases config session cid ids isDeleteAll chat with
    ⟨error, hexec⟩ | ⟨access, deliveries, after, haccess, hchecked, hexec,
      hmessages, hframe⟩
  · rw [hexec]
  · rw [hexec]
    cases isDeleteAll with
    | true => exact deletedForEveryone_of_checked haccess hchecked hmessages
    | false => exact hiddenForCaller_of_messages config hframe hmessages

example : ((delete .plain ⟨0, 9⟩ (.hex 4 true) [.hex 0 true, .hex 7 true,
    .hex 0 false] true).exec .oneMessage).2.messages = [] := by
  decide

example : ((delete .plain ⟨1, 9⟩ (.hex 4 true) [.hex 0 true] true).exec
    .oneMessage).1 = .error (.cause .forbidden) := by
  decide

end MessageOperations

end SamaServer
