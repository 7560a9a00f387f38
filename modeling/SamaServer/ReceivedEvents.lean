/-
What each user receives after an update of a group or a channel.  Those who
were added get the conversation, those who were removed are told so, and every
participant who is left gets one message for each of them.
-/
import SamaServer.Audiences
import SamaServer.ConversationNotifications
import SamaServer.SharedRequests

namespace SamaServer

namespace DeliverPackage

variable {s : ConversationStore} {package : DeliverPackage}

/-- How many times the processor calls for a user with a package. -/
def timesSentTo (s : ConversationStore) (package : DeliverPackage)
    (userId : StoredId) : Nat :=
  (package.destinationUserIds s).flatten.count (some userId)

theorem count_map_some (userIds : List StoredId) (userId : StoredId) :
    (userIds.map some).count (some userId) = userIds.count userId := by
  induction userIds with
  | nil => rfl
  | cons first rest ih => simp [List.count_cons, ih]

/-- A list of users gets the package as it is written. -/
theorem timesSentTo_users {userIds : List StoredId}
    (husers : package.userIds = some (userIds.map some))
    (hne : userIds ≠ []) (userId : StoredId) :
    package.timesSentTo s userId = userIds.count userId := by
  obtain ⟨first, rest, rfl⟩ := List.exists_cons_of_ne_nil hne
  have hdestination : package.destinationUserIds s =
      [(first :: rest).map some] := by
    rw [destinationUserIds, husers]
    rfl
  rw [timesSentTo, hdestination, List.flatten_singleton, count_map_some]

/-- The batches of a conversation are put together again. -/
theorem flatten_processDeliverConversationMessage (s : ConversationStore)
    (cId : TextId) (exceptUserIds : List StoredId) :
    (processDeliverConversationMessage s cId exceptUserIds).flatten =
      ((s.conversationParticipantIdsIterator cId exceptUserIds
        participantsBatchSize).flatten).map some := by
  rw [processDeliverConversationMessage, ← List.map_flatten]
  exact congrArg (List.map some) List.flatten_filter_ne_nil

/-- The users whose rows are not excepted. -/
theorem map_participantsExcept (s : ConversationStore) (id : ObjectId)
    (isLowerCase : Bool) (exceptUserIds : List StoredId) :
    (s.participantsExcept (.hex id isLowerCase) exceptUserIds).map
        (fun (row, _) => row.userId) =
      (s.userIdsOf id).filter (fun userId => userId ∉ exceptUserIds) := by
  have hrows : (s.participantsExcept (.hex id isLowerCase)
      exceptUserIds).map Prod.fst = s.participants.filter (fun row =>
        row.conversationId = id ∧ row.userId ∉ exceptUserIds) := by
    conv_rhs => rw [← List.zipIdx_map_fst 0 s.participants]
    rw [List.filter_map]
    rfl
  have hmap : (s.participantsExcept (.hex id isLowerCase)
      exceptUserIds).map (fun (row, _) => row.userId) =
      ((s.participantsExcept (.hex id isLowerCase) exceptUserIds).map
        Prod.fst).map Participant.userId := by
    rw [List.map_map]
    rfl
  rw [hmap, hrows, ConversationStore.userIdsOf, ConversationStore.rowsOf,
    List.filter_map, List.filter_filter]
  congr 1
  apply List.filter_congr
  intro row _
  simp only [Function.comp, Bool.decide_and, Bool.and_comm]

/-- Without a list of users each participant who is not excepted gets the
package once for each row. -/
theorem timesSentTo_conversation {id : ObjectId} {isLowerCase : Bool}
    (husers : package.userIds = none)
    (hcid : package.cId = some (.hex id isLowerCase)) (userId : StoredId) :
    package.timesSentTo s userId = ((s.userIdsOf id).filter
      (fun other => other ∉ package.exceptUserIds)).count userId := by
  have hdestination : package.destinationUserIds s =
      processDeliverConversationMessage s (.hex id isLowerCase)
        package.exceptUserIds := by
    rw [destinationUserIds, husers, hcid]
    rfl
  have hperm := s.flatten_iterator_perm (.hex id isLowerCase)
    package.exceptUserIds (show 0 < participantsBatchSize by decide)
  rw [timesSentTo, hdestination, flatten_processDeliverConversationMessage,
    count_map_some, hperm.count_eq, map_participantsExcept]

end DeliverPackage

namespace ConversationResults

open Fallible MessageOperations

/-! ### The events of an update -/

/-- The event about one participant, with its message. -/
def participantNotice (displayName : User → String) (c : ObjectId)
    (creator : User) (eventType : ParticipantEvent) (mid : ObjectId)
    (user : User) : ConversationNotice :=
  ⟨.message ⟨⟨mid, c, creator.id⟩, creator.organizationId,
      some (displayName user ++ " " ++ eventType.text), []⟩,
    .participant eventType user.id, none, none, false⟩

/-- The events about participants, in the order of their messages. -/
def participantNotices (displayName : User → String) (c : ObjectId)
    (creator : User) (eventType : ParticipantEvent) :
    ObjectId → List User → List ConversationNotice
  | _, [] => []
  | mid, user :: users =>
      participantNotice displayName c creator eventType mid user ::
        participantNotices displayName c creator eventType (mid + 1) users

/-- The conversation for those who were added. -/
def updateNotice (conversation : ConversationModel) (creator : User)
    (added : List StoredId) : ConversationNotice :=
  { actionEvent .update conversation creator with
    participantIds := some added }

/-- The news for those who were removed. -/
def deleteNotice (conversation : ConversationModel) (creator : User)
    (removed : List StoredId) : ConversationNotice :=
  { actionEvent .delete conversation creator with
    participantIds := some removed }

/-- New details for all but those who were added. -/
def detailsNotice (conversation : ConversationModel) (creator : User)
    (added : List StoredId) : ConversationNotice :=
  { actionEvent .updateDetails conversation creator with
    exceptUserIds := some added
    ignoreSelf := true }

def imageNotice (c : ObjectId) (creator : User) (mid : ObjectId) :
    ConversationNotice :=
  ⟨.message ⟨⟨mid, c, creator.id⟩, creator.organizationId,
    some updateImageBody, []⟩, .image, none, none, false⟩

def storedIds (users : List User) : List StoredId :=
  users.map (fun user => .id user.id)

/-- The events for those who were added and about them. -/
def addedNotices (displayName : User → String)
    (conversation : ConversationModel) (creator : User) (added : List User)
    (mid : ObjectId) : List ConversationNotice :=
  if added = [] then []
  else updateNotice conversation creator (storedIds added) ::
    participantNotices displayName conversation.id creator .added mid added

/-- The events about those who were removed and for them. -/
def removedNotices (displayName : User → String)
    (conversation : ConversationModel) (creator : User) (removed : List User)
    (mid : ObjectId) : List ConversationNotice :=
  if removed = [] then []
  else participantNotices displayName conversation.id creator .removed mid
      removed ++ [deleteNotice conversation creator (storedIds removed)]

/-- All events of an update whose first message gets the id `mid`. -/
def updateNotices (displayName : User → String)
    (conversation : ConversationModel) (creator : User)
    (fields : ConversationFields) (added removed : List User)
    (mid : ObjectId) : List ConversationNotice :=
  addedNotices displayName conversation creator added mid ++
  removedNotices displayName conversation creator removed
    (mid + added.length) ++
  (if isUpdateConversationFields fields then
    [detailsNotice conversation creator (storedIds added)] else []) ++
  (if fields.imageObject.isSome then
    [imageNotice conversation.id creator
      (mid + added.length + removed.length)] else [])

/-- The message of an event that is stored. -/
def storedMessage (notice : ConversationNotice) : Option ChatMessage :=
  match notice.message with
  | .message message => some message
  | _ => none

/-- The messages of events were stored, and nothing else happened. -/
structure Posts (notices : List ConversationNotice)
    (before after : ChatStore) : Prop where
  messages : after.messages =
    before.messages ++ notices.filterMap storedMessage
  nextMessageId : after.nextMessageId =
    before.nextMessageId + (notices.filterMap storedMessage).length
  conversations : after.conversations = before.conversations
  statuses : after.statuses = before.statuses
  strayStatuses : after.strayStatuses = before.strayStatuses
  reactions : after.reactions = before.reactions
  blocks : after.blocks = before.blocks

variable {displayName : User → String} {conversation : ConversationModel}
  {creator : User} {chat middle after : ChatStore}

theorem Posts.of_none {notices : List ConversationNotice}
    (hnone : notices.filterMap storedMessage = []) (chat : ChatStore) :
    Posts notices chat chat := by
  constructor <;> simp [hnone]

theorem Posts.trans {first second : List ConversationNotice}
    (hfirst : Posts first chat middle) (hsecond : Posts second middle after) :
    Posts (first ++ second) chat after where
  messages := by
    rw [hsecond.messages, hfirst.messages, List.filterMap_append,
      List.append_assoc]
  nextMessageId := by
    rw [hsecond.nextMessageId, hfirst.nextMessageId, List.filterMap_append,
      List.length_append, Nat.add_assoc]
  conversations := hsecond.conversations.trans hfirst.conversations
  statuses := hsecond.statuses.trans hfirst.statuses
  strayStatuses := hsecond.strayStatuses.trans hfirst.strayStatuses
  reactions := hsecond.reactions.trans hfirst.reactions
  blocks := hsecond.blocks.trans hfirst.blocks

/-- A message that is stored for one event. -/
theorem Posts.createMessage {notice : ConversationNotice} {c : ObjectId}
    {user : User} {body : Option String}
    (hmessage : notice.message = .message ⟨⟨chat.nextMessageId, c, user.id⟩,
      user.organizationId, body, []⟩) :
    Posts [notice] chat
      (chat.createMessage c user.id user.organizationId body []) := by
  have hstored : [notice].filterMap storedMessage =
      [⟨⟨chat.nextMessageId, c, user.id⟩, user.organizationId, body, []⟩] := by
    simp [storedMessage, hmessage]
  constructor <;> simp [hstored, ChatStore.createMessage]

theorem filterMap_participantNotices (c : ObjectId)
    (eventType : ParticipantEvent) (mid : ObjectId) (users : List User) :
    ((participantNotices displayName c creator eventType mid
      users).filterMap storedMessage).length = users.length := by
  induction users generalizing mid with
  | nil => rfl
  | cons user users ih =>
      have hrest := ih (mid + 1)
      simpa [participantNotices, participantNotice, storedMessage]
        using hrest

theorem length_addedNotices (added : List User) (mid : ObjectId) :
    ((addedNotices displayName conversation creator added mid).filterMap
      storedMessage).length = added.length := by
  rw [addedNotices]
  split
  · next hnone => rw [hnone]; rfl
  · rw [List.filterMap_cons_none rfl, filterMap_participantNotices]

theorem length_removedNotices (removed : List User) (mid : ObjectId) :
    ((removedNotices displayName conversation creator removed mid).filterMap
      storedMessage).length = removed.length := by
  rw [removedNotices]
  split
  · next hnone => rw [hnone]; rfl
  · rw [List.filterMap_append, List.length_append,
      filterMap_participantNotices]
    rfl

/-- The loop makes one event for each participant. -/
theorem exec_participantEvents (displayName : User → String)
    (conversation : ConversationModel) (creator : User)
    (eventType : ParticipantEvent) {users : List User} (chat : ChatStore)
    (hfound : ∀ user ∈ users,
      chat.conversations.findUserById user.id = some user) :
    ∃ after, (participantEvents displayName conversation (some creator)
        eventType (storedIds users)).exec chat =
      (.ok (participantNotices displayName conversation.id creator eventType
        chat.nextMessageId users), after) ∧
      Posts (participantNotices displayName conversation.id creator eventType
        chat.nextMessageId users) chat after := by
  induction users generalizing chat with
  | nil => exact ⟨chat, rfl, .of_none rfl chat⟩
  | cons user users ih =>
      have huser := hfound user List.mem_cons_self
      obtain ⟨after, hexec, hposts⟩ := ih (chat.createMessage
        conversation.id creator.id creator.organizationId
        (some (displayName user ++ " " ++ eventType.text)) [])
        (fun other hother => hfound other (List.mem_cons_of_mem _ hother))
      have hevent : (editParticipantsActionEvent displayName conversation
          (some creator) eventType (.id user.id)).exec chat =
          (.ok (participantNotice displayName conversation.id creator
            eventType chat.nextMessageId user),
          chat.createMessage conversation.id creator.id
            creator.organizationId
            (some (displayName user ++ " " ++ eventType.text)) []) := by
        rw [editParticipantsActionEvent, query, exec_command_bind]
        dsimp only [findUser]
        rw [huser]
        rfl
      refine ⟨after, ?_, ?_⟩
      · rw [storedIds, List.map_cons, participantEvents, exec_bind_ok hevent]
        change (participantEvents displayName conversation (some creator)
          eventType (storedIds users) >>= _).exec _ = _
        rw [exec_bind_ok hexec]
        rfl
      · have hcreated : Posts [participantNotice displayName conversation.id
            creator eventType chat.nextMessageId user] chat _ :=
          .createMessage rfl
        exact hcreated.trans hposts

theorem storedIds_eq_nil {users : List User} :
    storedIds users = [] ↔ users = [] := List.map_eq_nil_iff

theorem exec_addedEvents (displayName : User → String)
    (conversation : ConversationModel) (creator : User) {added : List User}
    (hfound : ∀ user ∈ added,
      chat.conversations.findUserById user.id = some user) :
    ∃ after, (addedEvents displayName conversation (some creator)
        (storedIds added)).exec chat =
      (.ok (addedNotices displayName conversation creator added
        chat.nextMessageId), after) ∧
      Posts (addedNotices displayName conversation creator added
        chat.nextMessageId) chat after := by
  rw [addedEvents, addedNotices]
  by_cases hnone : added = []
  · rw [if_pos hnone, if_pos (storedIds_eq_nil.2 hnone)]
    exact ⟨chat, rfl, .of_none rfl chat⟩
  · rw [if_neg hnone, if_neg (fun heq => hnone (storedIds_eq_nil.1 heq))]
    obtain ⟨after, hexec, hposts⟩ := exec_participantEvents
      displayName conversation creator .added chat hfound
    refine ⟨after, ?_, ?_⟩
    · change (participantEvents displayName conversation (some creator) .added
        (storedIds added) >>= _).exec chat = _
      rw [exec_bind_ok hexec]
      rfl
    · have hupdate : Posts [updateNotice conversation creator
          (storedIds added)] chat chat := .of_none rfl chat
      exact hupdate.trans hposts

theorem exec_removedEvents (displayName : User → String)
    (conversation : ConversationModel) (creator : User) {removed : List User}
    (hfound : ∀ user ∈ removed,
      chat.conversations.findUserById user.id = some user) :
    ∃ after, (removedEvents displayName conversation (some creator)
        (removed.map User.id)).exec chat =
      (.ok (removedNotices displayName conversation creator removed
        chat.nextMessageId), after) ∧
      Posts (removedNotices displayName conversation creator removed
        chat.nextMessageId) chat after := by
  have hids : (removed.map User.id).map StoredId.id = storedIds removed := by
    rw [List.map_map]
    rfl
  rw [removedEvents, removedNotices, hids]
  by_cases hnone : removed = []
  · rw [if_pos hnone, if_pos (by simp [hnone])]
    exact ⟨chat, rfl, .of_none rfl chat⟩
  · rw [if_neg hnone, if_neg (by simpa using hnone)]
    obtain ⟨after, hexec, hposts⟩ := exec_participantEvents
      displayName conversation creator .removed chat hfound
    refine ⟨after, ?_, ?_⟩
    · rw [exec_bind_ok hexec]
      rfl
    · exact hposts.trans (.of_none rfl after)

theorem exec_imageEvents (conversation : ConversationModel) (creator : User)
    (chat : ChatStore) (isUpdateConversationImage : Bool) :
    ∃ after, (imageEvents conversation (some creator)
        isUpdateConversationImage).exec chat =
      (.ok (if isUpdateConversationImage then
        [imageNotice conversation.id creator chat.nextMessageId] else []),
        after) ∧
      Posts (if isUpdateConversationImage then
        [imageNotice conversation.id creator chat.nextMessageId] else [])
        chat after := by
  cases isUpdateConversationImage with
  | false => exact ⟨chat, rfl, .of_none rfl chat⟩
  | true => exact ⟨_, rfl, .createMessage rfl⟩

/-- The events of an update by a user who is stored, about users who are. -/
theorem exec_editActionEvents (displayName : User → String)
    (conversation : ConversationModel) (chat : ChatStore)
    {session : ApiSession} {added removed : List User}
    (fields : ConversationFields)
    (hcreator : chat.conversations.findUserById session.userId =
      some creator)
    (hadded : ∀ user ∈ added,
      chat.conversations.findUserById user.id = some user)
    (hremoved : ∀ user ∈ removed,
      chat.conversations.findUserById user.id = some user) :
    ∃ after, (editActionEvents displayName session conversation fields
        (storedIds added) (removed.map User.id)).exec chat =
      (.ok (updateNotices displayName conversation creator fields added
        removed chat.nextMessageId), after) ∧
      Posts (updateNotices displayName conversation creator fields added
        removed chat.nextMessageId) chat after := by
  obtain ⟨between, hexecAdded, hpostsAdded⟩ := exec_addedEvents
    displayName conversation creator hadded
  have hfound : ∀ user ∈ removed,
      between.conversations.findUserById user.id = some user := by
    intro user huser
    rw [hpostsAdded.conversations]
    exact hremoved user huser
  obtain ⟨left, hexecRemoved, hpostsRemoved⟩ := exec_removedEvents
    displayName conversation creator hfound
  have hbetween : between.nextMessageId =
      chat.nextMessageId + added.length := by
    rw [hpostsAdded.nextMessageId, length_addedNotices]
  have hleft : left.nextMessageId =
      chat.nextMessageId + added.length + removed.length := by
    rw [hpostsRemoved.nextMessageId, length_removedNotices, hbetween]
  have hdetails : (detailsEvents conversation (some creator)
      (storedIds added) (isUpdateConversationFields fields)).exec left =
      (.ok (if isUpdateConversationFields fields then
        [detailsNotice conversation creator (storedIds added)] else []),
        left) := by
    rw [detailsEvents]
    split <;> rfl
  obtain ⟨after, hexecImage, hpostsImage⟩ := exec_imageEvents
    conversation creator left fields.imageObject.isSome
  rw [hbetween] at hexecRemoved hpostsRemoved
  rw [hleft] at hexecImage hpostsImage
  refine ⟨after, ?_, ?_⟩
  · rw [editActionEvents, query, exec_command_bind, hcreator]
    dsimp only
    rw [exec_bind_ok hexecAdded, exec_bind_ok hexecRemoved,
      exec_bind_ok hdetails, exec_bind_ok hexecImage]
    rfl
  · refine ((hpostsAdded.trans hpostsRemoved).trans ?_).trans hpostsImage
    refine .of_none ?_ left
    split <;> rfl

/-! ### The participants of an update -/

/-- Users came to a conversation and users went; all of them are stored. -/
structure MembersMove (c : ObjectId) (added removed : List User)
    (before after : ConversationStore) : Prop where
  users : after.users = before.users
  added_found : ∀ user ∈ added, before.findUserById user.id = some user
  removed_found : ∀ user ∈ removed, before.findUserById user.id = some user
  added_nodup : (storedIds added).Nodup
  removed_nodup : (storedIds removed).Nodup
  added_new : ∀ userId ∈ storedIds added, userId ∉ before.userIdsOf c
  removed_there : ∀ userId ∈ storedIds removed,
    userId ∈ before.userIdsOf c ∨ userId ∈ storedIds added
  userIds : after.userIdsOf c = (before.userIdsOf c ++
    storedIds added).filter (fun userId => userId ∉ storedIds removed)

section MembersMove

variable {c : ObjectId} {added removed : List User}
  {s t r : ConversationStore}

theorem MembersMove.mem_userIds (hmove : MembersMove c added removed s t)
    (userId : StoredId) :
    userId ∈ t.userIdsOf c ↔ (userId ∈ s.userIdsOf c ∨
      userId ∈ storedIds added) ∧ userId ∉ storedIds removed := by
  rw [hmove.userIds, List.mem_filter, List.mem_append, decide_eq_true_eq]

/-- No row is there twice afterwards. -/
theorem MembersMove.nodup (hmove : MembersMove c added removed s t)
    (hrows : (s.userIdsOf c).Nodup) : (t.userIdsOf c).Nodup := by
  rw [hmove.userIds]
  refine List.Nodup.filter _ (List.nodup_append.2
    ⟨hrows, hmove.added_nodup, ?_⟩)
  rintro userId hold _ hnew rfl
  exact hmove.added_new userId hnew hold

/-- Nobody comes and nobody goes. -/
theorem MembersMove.refl (c : ObjectId) (s : ConversationStore) :
    MembersMove c [] [] s s := by
  constructor <;> simp [storedIds]

/-- The roles have no part in it. -/
theorem MembersMove.sameMembers (hmove : MembersMove c added removed s t)
    (hsame : ConversationStore.SameMembers t r) :
    MembersMove c added removed s r :=
  { hmove with
    users := hsame.users.trans hmove.users
    userIds := (hsame.userIds c).trans hmove.userIds }

/-- The same from a store with other fields in its conversations. -/
theorem MembersMove.of_withFields {fields : ConversationFields}
    (hmove : MembersMove c added removed (s.withFields c fields) t) :
    MembersMove c added removed s t where
  users := hmove.users
  added_found := hmove.added_found
  removed_found := hmove.removed_found
  added_nodup := hmove.added_nodup
  removed_nodup := hmove.removed_nodup
  added_new := hmove.added_new
  removed_there := hmove.removed_there
  userIds := hmove.userIds

/-- Ids of users who are stored are ids of users. -/
theorem exists_users {s : ConversationStore} {ids : List ObjectId}
    (hids : ∀ id ∈ ids, id ∈ s.users.keys) :
    ∃ users : List User, users.map User.id = ids ∧
      ∀ user ∈ users, s.findUserById user.id = some user := by
  induction ids with
  | nil => exact ⟨[], rfl, by simp⟩
  | cons id ids ih =>
      obtain ⟨users, hmap, hfound⟩ := ih (fun other hother =>
        hids other (List.mem_cons_of_mem id hother))
      obtain ⟨organizationId, hget⟩ :=
        (s.users.mem_keys_iff id).1 (hids id List.mem_cons_self)
      refine ⟨⟨id, organizationId⟩ :: users, by rw [List.map_cons, hmap],
        ?_⟩
      intro user huser
      rcases List.mem_cons.1 huser with rfl | hrest
      · rw [ConversationStore.findUserById, hget]
        rfl
      · exact hfound user hrest

theorem storedIds_of_map {users : List User} {ids : List ObjectId}
    (hmap : users.map User.id = ids) :
    storedIds users = ids.map StoredId.id := by
  rw [← hmap, List.map_map]
  rfl

/-- Two loops over users who are stored. -/
theorem membersMove_of_moves {addIds removeIds removedIds : List ObjectId}
    {addedIds : List StoredId}
    (hmoves : ConversationStore.Moves c addIds removeIds addedIds removedIds
      s t) (hadd : ∀ id ∈ addIds, id ∈ s.users.keys)
    (hremove : ∀ id ∈ removeIds, id ∈ s.users.keys) :
    ∃ added removed : List User, storedIds added = addedIds ∧
      removed.map User.id = removedIds ∧ MembersMove c added removed s t := by
  have hids : ∃ ids : List ObjectId, ids.map StoredId.id = addedIds ∧
      ∀ id ∈ ids, id ∈ s.users.keys := by
    have hall : ∀ userId ∈ addedIds, ∃ id ∈ s.users.keys,
        StoredId.id id = userId := by
      intro userId huser
      obtain ⟨id, hid, rfl⟩ :=
        List.mem_map.1 ((hmoves.mem_added userId).1 huser).1
      exact ⟨id, hadd id hid, rfl⟩
    clear hmoves
    induction addedIds with
    | nil => exact ⟨[], rfl, by simp⟩
    | cons userId userIds ih =>
        obtain ⟨id, hid, rfl⟩ := hall userId List.mem_cons_self
        obtain ⟨ids, rfl, hkeys⟩ := ih (fun other hother =>
          hall other (List.mem_cons_of_mem _ hother))
        exact ⟨id :: ids, rfl, by simpa [hid] using hkeys⟩
  obtain ⟨ids, rfl, hkeys⟩ := hids
  obtain ⟨added, hadded, haddedFound⟩ := exists_users hkeys
  obtain ⟨removed, hremoved, hremovedFound⟩ := exists_users
    (fun id (hid : id ∈ removedIds) =>
      hremove id ((hmoves.mem_removed id).1 hid).1)
  have haddedIds := storedIds_of_map hadded
  have hremovedIds := storedIds_of_map hremoved
  have hmem := hmoves.mem_map_removed
  refine ⟨added, removed, haddedIds, hremoved, hmoves.users, haddedFound,
    hremovedFound, ?_, ?_, ?_, ?_, ?_⟩
  · rw [haddedIds]
    exact hmoves.nodup_added
  · rw [hremovedIds]
    exact hmoves.nodup_removed.map (fun first second heq => by cases heq; rfl)
  · rw [haddedIds]
    exact fun userId huser => ((hmoves.mem_added userId).1 huser).2
  · rw [haddedIds, hremovedIds]
    exact fun userId huser => ((hmem userId).1 huser).2
  · rw [haddedIds, hremovedIds]
    exact hmoves.userIds

end MembersMove

/-! ### Who receives an event -/

/-- The events that the processor of a packet delivers to a user, in their
order and as often as it calls for the user. -/
def received (s : ConversationStore) (organizationId conversationId : ObjectId)
    (notices : List ConversationNotice) (userId : StoredId) :
    List ConversationNotice :=
  notices.flatMap (fun notice => List.replicate
    ((ConversationsController.updateMessage organizationId conversationId
      notice).timesSentTo s userId) notice)

section Received

variable {s : ConversationStore} {organizationId c : ObjectId}

theorem received_append (first second : List ConversationNotice)
    (userId : StoredId) :
    received s organizationId c (first ++ second) userId =
      received s organizationId c first userId ++
        received s organizationId c second userId := List.flatMap_append

theorem received_singleton (notice : ConversationNotice)
    (userId : StoredId) :
    received s organizationId c [notice] userId = List.replicate
      ((ConversationsController.updateMessage organizationId c
        notice).timesSentTo s userId) notice := by
  simp [received]

/-- An event for a list of users, each of them once. -/
theorem received_users {notice : ConversationNotice} {users : List User}
    (hparticipants : notice.participantIds = some (storedIds users))
    (hne : users ≠ []) (hnodup : (storedIds users).Nodup)
    (userId : StoredId) :
    received s organizationId c [notice] userId =
      if userId ∈ storedIds users then [notice] else [] := by
  have husers : (ConversationsController.updateMessage organizationId c
      notice).userIds = some ((storedIds users).map some) := by
    rw [ConversationsController.updateMessage]
    exact congrArg (Option.map (List.map some)) hparticipants
  have htimes := DeliverPackage.timesSentTo_users (s := s) husers
    (fun heq => hne (storedIds_eq_nil.1 heq)) userId
  rw [received_singleton, htimes, hnodup.count]
  split <;> rfl

/-- An event for the participants of the conversation, with exceptions. -/
theorem received_participants (organizationId : ObjectId)
    (notice : ConversationNotice)
    (hparticipants : notice.participantIds = none)
    (hrows : (s.userIdsOf c).Nodup) (userId : StoredId) :
    received s organizationId c [notice] userId =
      if userId ∈ s.userIdsOf c ∧ userId ∉ notice.exceptUserIds.getD [] then
        [notice] else [] := by
  have hexcept : (ConversationsController.updateMessage organizationId c
      notice).exceptUserIds = notice.exceptUserIds.getD [] := by
    rw [ConversationsController.updateMessage]
    cases hids : notice.exceptUserIds with
    | none =>
        simp [DeliverPackage.setConversationDestination,
          DeliverPackage.setUsersDestination, DeliverPackage.new]
    | some exceptUserIds =>
        simp [DeliverPackage.setConversationDestination,
          DeliverPackage.setUsersDestination]
  have husers : (ConversationsController.updateMessage organizationId c
      notice).userIds = none := by
    rw [ConversationsController.updateMessage]
    exact congrArg (Option.map (List.map some)) hparticipants
  have hcid : (ConversationsController.updateMessage organizationId c
      notice).cId = some (.hex c true) := rfl
  have htimes := DeliverPackage.timesSentTo_conversation (s := s) husers hcid
    userId
  rw [received_singleton, htimes, hexcept, (hrows.filter _).count]
  simp only [List.mem_filter, decide_eq_true_eq]
  split <;> rfl

theorem received_participantNotices (displayName : User → String)
    (creator : User) (eventType : ParticipantEvent) (mid : ObjectId)
    (users : List User) (hrows : (s.userIdsOf c).Nodup) (userId : StoredId) :
    received s organizationId c (participantNotices displayName c creator
        eventType mid users) userId =
      if userId ∈ s.userIdsOf c then
        participantNotices displayName c creator eventType mid users
      else [] := by
  induction users generalizing mid with
  | nil =>
      rw [participantNotices]
      split <;> rfl
  | cons user users ih =>
      have hfirst := received_participants organizationId
        (participantNotice displayName c creator eventType mid user) rfl hrows
        userId
      rw [participantNotices, ← List.singleton_append, received_append, ih,
        hfirst]
      by_cases hmember : userId ∈ s.userIdsOf c
      · simp [hmember, participantNotice]
      · simp [hmember]

theorem received_addedNotices {conversation : ConversationModel}
    (organizationId : ObjectId) (displayName : User → String)
    (creator : User) {added : List User} (mid : ObjectId)
    (hrows : (s.userIdsOf conversation.id).Nodup)
    (hadded : (storedIds added).Nodup) (userId : StoredId) :
    received s organizationId conversation.id (addedNotices displayName
        conversation creator added mid) userId =
      (if userId ∈ storedIds added then
        [updateNotice conversation creator (storedIds added)] else []) ++
      (if userId ∈ s.userIdsOf conversation.id then
        participantNotices displayName conversation.id creator .added mid
          added else []) := by
  rw [addedNotices]
  by_cases hnone : added = []
  · rw [if_pos hnone, hnone]
    simp [received, storedIds, participantNotices]
  · rw [if_neg hnone, ← List.singleton_append, received_append,
      received_users rfl hnone hadded, received_participantNotices _ _ _ _ _
        hrows]

theorem received_removedNotices {conversation : ConversationModel}
    (organizationId : ObjectId) (displayName : User → String)
    (creator : User) {removed : List User} (mid : ObjectId)
    (hrows : (s.userIdsOf conversation.id).Nodup)
    (hremoved : (storedIds removed).Nodup) (userId : StoredId) :
    received s organizationId conversation.id (removedNotices displayName
        conversation creator removed mid) userId =
      (if userId ∈ s.userIdsOf conversation.id then
        participantNotices displayName conversation.id creator .removed mid
          removed else []) ++
      (if userId ∈ storedIds removed then
        [deleteNotice conversation creator (storedIds removed)] else []) := by
  rw [removedNotices]
  by_cases hnone : removed = []
  · rw [if_pos hnone, hnone]
    simp [received, storedIds, participantNotices]
  · rw [if_neg hnone, received_append, received_users rfl hnone hremoved,
      received_participantNotices _ _ _ _ _ hrows]

/-- What a user receives of the events of an update. -/
theorem received_updateNotices (displayName : User → String)
    (conversation : ConversationModel) (creator : User)
    (fields : ConversationFields) {added removed : List User}
    (mid : ObjectId) (hrows : (s.userIdsOf conversation.id).Nodup)
    (hadded : (storedIds added).Nodup) (hremoved : (storedIds removed).Nodup)
    (userId : StoredId) :
    received s organizationId conversation.id (updateNotices displayName
        conversation creator fields added removed mid) userId =
      (if userId ∈ storedIds added then
        [updateNotice conversation creator (storedIds added)] else []) ++
      (if userId ∈ s.userIdsOf conversation.id then
        participantNotices displayName conversation.id creator .added mid
            added ++
          participantNotices displayName conversation.id creator .removed
            (mid + added.length) removed else []) ++
      (if userId ∈ storedIds removed then
        [deleteNotice conversation creator (storedIds removed)] else []) ++
      (if isUpdateConversationFields fields ∧
          userId ∈ s.userIdsOf conversation.id ∧ userId ∉ storedIds added then
        [detailsNotice conversation creator (storedIds added)] else []) ++
      (if fields.imageObject.isSome ∧
          userId ∈ s.userIdsOf conversation.id then
        [imageNotice conversation.id creator
          (mid + added.length + removed.length)] else []) := by
  have hcame := received_addedNotices organizationId displayName creator mid
    hrows hadded userId
  have hwent := received_removedNotices organizationId displayName creator
    (mid + added.length) hrows hremoved userId
  have hdetails : received s organizationId conversation.id
      (if isUpdateConversationFields fields then
        [detailsNotice conversation creator (storedIds added)] else [])
        userId = if isUpdateConversationFields fields ∧
          userId ∈ s.userIdsOf conversation.id ∧ userId ∉ storedIds added then
        [detailsNotice conversation creator (storedIds added)] else [] := by
    cases isUpdateConversationFields fields with
    | false => rfl
    | true =>
        have hsent := received_participants organizationId
          (detailsNotice conversation creator (storedIds added)) rfl hrows
          userId
        simp only [if_true, true_and]
        rw [hsent]
        rfl
  have himage : received s organizationId conversation.id
      (if fields.imageObject.isSome then
        [imageNotice conversation.id creator
          (mid + added.length + removed.length)] else []) userId =
      if fields.imageObject.isSome ∧
          userId ∈ s.userIdsOf conversation.id then
        [imageNotice conversation.id creator
          (mid + added.length + removed.length)] else [] := by
    cases fields.imageObject.isSome with
    | false => rfl
    | true =>
        have hsent := received_participants organizationId
          (imageNotice conversation.id creator
            (mid + added.length + removed.length)) rfl hrows userId
        simpa [imageNotice] using hsent
  rw [updateNotices, received_append, received_append, received_append,
    hcame, hwent, hdetails, himage]
  by_cases hmember : userId ∈ s.userIdsOf conversation.id
  · simp only [hmember, if_true, List.append_assoc]
  · simp only [hmember, if_false, List.append_nil, List.append_assoc,
      List.nil_append]

end Received

section Edit

open ConversationService

variable {config : ChatConfig} {session : ApiSession} {params : UpdateParams}
  {s t : ConversationStore}

/-- The participants of a group or a channel after an update that goes on. -/
theorem of_exec_editMembers {addedIds : List StoredId}
    {removedIds : List ObjectId}
    (hget : s.conversations.get? conversation.id = some conversation.params)
    (htype : conversation.params.type ≠ .u)
    (hexec : (editMembers config conversation params).exec s =
      (.ok (some (addedIds, removedIds)), t)) :
    ∃ added removed : List User, storedIds added = addedIds ∧
      removed.map User.id = removedIds ∧
      MembersMove conversation.id added removed s t := by
  obtain ⟨adminsToAdd, _, hadmins, hrest⟩ := of_exec_bind_ok hexec
  rw [ConversationStore.exec_existedIds] at hadmins
  obtain ⟨-, rfl⟩ := Prod.mk.inj hadmins
  obtain ⟨⟨addedIds', removeResult⟩, moved, hmembers, hrest⟩ :=
    of_exec_bind_ok hrest
  dsimp only at hrest
  by_cases hdeleted : removeResult.isEmptyAndDeleted = true
  · rw [if_pos hdeleted] at hrest
    cases hrest
  · rw [if_neg hdeleted] at hrest
    obtain ⟨_, last, hroles, hrest⟩ := of_exec_bind_ok hrest
    cases hrest
    have hsame := ConversationStore.sameMembers_updateAdmins moved
      conversation.id (params.admins.getD ⟨none, none⟩)
    rw [hroles] at hsame
    rw [ConversationOperations.editParticipants] at hmembers
    split at hmembers
    · obtain ⟨addIds, _, hadd, hmembers⟩ := of_exec_bind_ok hmembers
      obtain ⟨removeIds, _, hremove, hmembers⟩ := of_exec_bind_ok hmembers
      rw [ConversationStore.exec_existedIds] at hadd hremove
      obtain ⟨haddFound, rfl⟩ := Prod.mk.inj hadd
      obtain ⟨hremoveFound, rfl⟩ := Prod.mk.inj hremove
      cases hlimit : ((countBefore conversation false
          s).plus addIds.length).exceeds
          config.conversations.maxParticipants with
      | true =>
          have hover := exec_addParticipants_limit
            config.conversations conversation
            (addIds.map (fun id => IdParam.hex id true)) false s
            (by simpa using hlimit)
          rw [updateParticipants, exec_bind_error hover] at hmembers
          cases hmembers
      | false =>
          obtain ⟨added, removed, newOwnerId, after, hmoves, hcases⟩ :=
            ConversationStore.exec_updateParticipants config.conversations
              hget htype addIds removeIds hlimit
          rcases hcases with ⟨-, hgone⟩ | ⟨userId, -, -, hkept⟩
          · rw [hgone] at hmembers
            cases hmembers
            exact absurd rfl hdeleted
          · rw [hkept] at hmembers
            cases hmembers
            obtain ⟨addedUsers, removedUsers, hadded, hremoved, hmove⟩ :=
              membersMove_of_moves hmoves
                (ConversationStore.of_foundIds_ok haddFound).1
                (ConversationStore.of_foundIds_ok hremoveFound).1
            exact ⟨addedUsers, removedUsers, hadded, hremoved,
              hmove.sameMembers hsame⟩
    · cases hmembers
      exact ⟨[], [], rfl, rfl, (MembersMove.refl _ s).sameMembers hsame⟩

/-- What the part after the write of the fields has gone through. -/
theorem of_exec_editShared {result : ConversationEditResult} {c : ObjectId}
    {stored : Conversation}
    (hstored : (chat.conversations.withFields c
      params.fields).conversations.get? c = some stored)
    (htype : stored.type ≠ .u)
    (hexec : (editShared config displayName session ⟨c, stored⟩ params).exec
      { chat with
        conversations := chat.conversations.withFields c params.fields } =
      (.ok (some result), after)) :
    ∃ added removed left, result = ⟨session.organizationId, ⟨c, stored⟩,
        result.conversationEvents⟩ ∧
      MembersMove c added removed chat.conversations left ∧
      (editEvents config displayName session ⟨c, stored⟩ params.fields
        (storedIds added) (removed.map User.id)).exec
          { chat with conversations := left } =
        (.ok result.conversationEvents, after) := by
  obtain ⟨members, _, hmembers, hrest⟩ := of_exec_bind_ok hexec
  rcases hmoved : (editMembers config ⟨c, stored⟩ params).exec
    (chat.conversations.withFields c params.fields) with ⟨outcome, left⟩
  have hlifted : (onConversations (editMembers config ⟨c, stored⟩
      params)).exec { chat with
        conversations := chat.conversations.withFields c params.fields } =
      (outcome, { chat with conversations := left }) :=
    exec_onConversations hmoved
  rw [hlifted] at hmembers
  cases hmembers
  cases members with
  | none => cases hrest
  | some lists =>
      obtain ⟨addedIds, removedIds⟩ := lists
      obtain ⟨added, removed, rfl, rfl, hmove⟩ :=
        of_exec_editMembers hstored htype hmoved
      obtain ⟨conversationEvents, _, hevents, hrest⟩ := of_exec_bind_ok hrest
      cases hrest
      exact ⟨added, removed, left, rfl, hmove.of_withFields, hevents⟩

/-- What an update of a group or a channel has gone through. -/
theorem of_exec_edit {result : ConversationEditResult}
    (hexec : (edit config displayName session params).exec chat =
      (.ok (some result), after))
    (htype : result.conversation.params.type ≠ .u) :
    result.organizationId = session.organizationId ∧
      ∃ added removed left,
        MembersMove result.conversation.id added removed chat.conversations
          left ∧
        (editEvents config displayName session result.conversation
          params.fields (storedIds added) (removed.map User.id)).exec
            { chat with conversations := left } =
          (.ok result.conversationEvents, after) := by
  obtain ⟨found, _, haccess, hrest⟩ := of_exec_bind_ok hexec
  rcases hchecked : (hasAccessToConversation config.conversations
    session.toConversationSession params.id false).exec
      chat.conversations with ⟨outcome, checked⟩
  rw [exec_onConversations hchecked] at haccess
  cases haccess
  have hsame := (readOnly_hasAccessToConversation config.conversations
    session.toConversationSession params.id false).eq_of_exec hchecked
  subst hsame
  cases found with
  | none => cases hrest
  | some access =>
      dsimp only at hrest
      split at hrest
      · cases hrest
      · obtain ⟨updated, _, hupdate, hrest⟩ := of_exec_bind_ok hrest
        rcases chat.conversations.updateFields_cases
          config.conversations.server params.id params.fields with
          hnone | ⟨c, hfields⟩
        · rw [onConversations, exec_command, exec_command, hnone] at hupdate
          cases hupdate
          cases hrest
        · rw [onConversations, exec_command, exec_command, hfields]
            at hupdate
          obtain ⟨hfound, rfl⟩ := Prod.mk.inj hupdate
          cases hstored : (chat.conversations.withFields c
              params.fields).conversations.get? c with
          | none =>
              rw [hstored] at hfound
              cases hfound
              cases hrest
          | some stored =>
              rw [hstored] at hfound
              cases hfound
              dsimp only [Option.map_some] at hrest
              by_cases hprivate : stored.type = .u
              · rw [if_pos hprivate] at hrest
                cases hrest
                exact absurd hprivate htype
              · rw [if_neg hprivate] at hrest
                obtain ⟨added, removed, left, hresult, hmove, hevents⟩ :=
                  of_exec_editShared hstored hprivate hrest
                rw [hresult]
                exact ⟨rfl, added, removed, left, hmove, hevents⟩

/-- A group of two users; a third one is stored. -/
def teamOfTwo : ChatStore :=
  { ChatStore.oneMessage with
    conversations := ConversationStore.run
      NotifyingRequest.withEvents.conversations
      [.userCreated 9, .userCreated 9, .userCreated 9, .requested ⟨0, 9⟩
        (.create ⟨.g, some "team", none, none, none,
          some [.hex 1 true], none⟩)] }

end Edit

end ConversationResults

end SamaServer
