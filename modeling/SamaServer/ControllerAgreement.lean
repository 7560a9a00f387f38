/-
Which requests the two controllers of the message operations answer with the
same deliver messages.
-/
import SamaServer.MessageControllers
import SamaServer.MessageIdAccess

namespace SamaServer

open Fallible

/-- The messages of an answer that are sent somewhere. -/
def delivered
    (outcome : Except ConversationError (List DeliverMessage) × ChatStore) :
    Except ConversationError (List (Destination × ResponsePacket)) ×
      ChatStore :=
  (outcome.1.map (fun messages => messages.filterMap (fun message =>
    message.destination.map (fun destination =>
      (destination, message.packet)))), outcome.2)

/-! ### The operations behind the results -/

/-- Two programs write the same and fail with the same errors. -/
def SameEffect {A B : Type} (program : ChatProgram A)
    (other : ChatProgram B) : Prop :=
  ∀ chat, (program.exec chat).2 = (other.exec chat).2 ∧
    (program.exec chat).1.map (fun _ => ()) =
      (other.exec chat).1.map (fun _ => ())

namespace SameEffect

variable {A B C D : Type}

theorem refl (program : ChatProgram A) : SameEffect program program :=
  fun _ => ⟨rfl, rfl⟩

/-- Programs that end at once. -/
theorem of_pure (result : A) (other : B) :
    SameEffect (pure result) (pure other) := fun _ => ⟨rfl, rfl⟩

/-- A program that ends at once and one that asks and cannot fail. -/
theorem of_query (result : A) (answer : ChatStore → B) :
    SameEffect (pure result)
      (MessageOperations.query (fun chat => .ok (answer chat))) :=
  fun _ => ⟨rfl, rfl⟩

theorem bind {program : ChatProgram A} {other : ChatProgram B}
    {rest : A → ChatProgram C} {last : B → ChatProgram D}
    (hfirst : SameEffect program other)
    (hrest : ∀ result again, SameEffect (rest result) (last again)) :
    SameEffect (program >>= rest) (other >>= last) := by
  intro chat
  obtain ⟨hstate, hresult⟩ := hfirst chat
  rw [exec_bind, exec_bind]
  cases hprogram : (program.exec chat).1 with
  | ok result =>
      cases hother : (other.exec chat).1 with
      | ok again =>
          dsimp only
          rw [hstate]
          exact hrest result again _
      | error error =>
          rw [hprogram, hother] at hresult
          cases hresult
  | error error =>
      cases hother : (other.exec chat).1 with
      | ok again =>
          rw [hprogram, hother] at hresult
          cases hresult
      | error thrown =>
          rw [hprogram, hother] at hresult
          cases hresult
          exact ⟨hstate, rfl⟩

/-- A result that is only rewritten. -/
theorem map {program : ChatProgram A} {other : ChatProgram B}
    (hsame : SameEffect program other) (f : A → C) :
    SameEffect (program >>= fun result => pure (f result)) other := by
  intro chat
  obtain ⟨hstate, hresult⟩ := hsame chat
  rw [exec_bind]
  cases hprogram : (program.exec chat).1 with
  | ok result =>
      rw [hprogram] at hresult
      exact ⟨hstate, hresult⟩
  | error error =>
      rw [hprogram] at hresult
      exact ⟨hstate, hresult⟩

/-- Programs that begin with the same one and use its result alike. -/
theorem bind_same (program : ChatProgram A) {rest : A → ChatProgram C}
    {last : A → ChatProgram D}
    (hrest : ∀ result, SameEffect (rest result) (last result)) :
    SameEffect (program >>= rest) (program >>= last) := by
  intro chat
  rw [exec_bind, exec_bind]
  cases (program.exec chat).1 with
  | ok result => exact hrest result _
  | error error => exact ⟨rfl, rfl⟩

end SameEffect

namespace MessageResults

variable (config : ChatConfig) (session : ApiSession)

theorem sameEffect_createMessage (conversation : ConversationModel)
    (user : User) (body : Option String) (deletedFor : List IdParam) :
    SameEffect (createMessage conversation user body deletedFor)
      (MessageOperations.createMessage conversation user body
        deletedFor) := by
  refine .bind_same _ (fun mid => .bind_same _ (fun _ => ?_))
  exact .of_query _ _

theorem sameEffect_restoreMembers (conversation : ConversationModel) :
    SameEffect (restoreMembers config session conversation)
      (MessageOperations.restoreMembers config conversation) := by
  rw [restoreMembers, MessageOperations.restoreMembers]
  split
  · refine .bind_same _ (fun missed => ?_)
    split
    · exact .of_pure _ _
    · exact .of_pure _ _
  · exact .of_pure _ _

theorem sameEffect_createBotMessage (conversation : ConversationModel)
    (botMessage : Option (User × Option String))
    (deletedFor : List IdParam) :
    SameEffect (createBotMessage conversation botMessage deletedFor)
      (MessageOperations.createBotMessage conversation botMessage
        deletedFor) := by
  cases botMessage with
  | none => exact .of_pure _ _
  | some bot =>
      exact (sameEffect_createMessage conversation bot.1 bot.2
        deletedFor).map _

/-- The results are those of the operations on messages: what is written and
which errors are thrown is the same. -/
theorem sameEffect_create (params : MessageParams) :
    SameEffect (create config session params)
      (MessageOperations.create config session.toConversationSession
        params) := by
  refine .bind_same _ (fun currentUser => .bind_same _ (fun access =>
    .bind_same _ (fun _ => .bind_same _ (fun _ => .bind_same _
      (fun user => .bind_same _ (fun response => ?_))))))
  refine .bind (sameEffect_createMessage _ _ _ _) (fun _ _ => ?_)
  refine .bind (sameEffect_restoreMembers config session _) (fun _ _ => ?_)
  refine .bind (sameEffect_createBotMessage _ _ _) (fun _ _ => ?_)
  exact .of_pure _ _

theorem sameEffect_edit (messageId : IdParam) (newBody : String) :
    SameEffect (edit config session messageId newBody)
      (MessageOperations.edit config session.toConversationSession messageId
        newBody) := by
  refine .bind_same _ (fun message => .bind_same _ (fun _ =>
    .bind_same _ (fun conversation => ?_)))
  exact .of_query _ _

theorem sameEffect_reactionsUpdate (messageId : IdParam)
    (add remove : Option String) :
    SameEffect (reactionsUpdate config session messageId add remove)
      (MessageOperations.updateReactions config session.toConversationSession
        messageId add remove) := by
  refine .bind_same _ (fun message => ?_)
  intro chat
  rw [applyReactions, exec_command_bind, exec_command_bind]
  simp only [ChatStore.updateReactions, MessageOperations.deliverReactions]
  by_cases hchanged :
      ((chat.addReaction message.id session.userId add).1 ||
        ((chat.addReaction message.id session.userId add).2.removeReaction
          message.id session.userId remove).1) = true
  · simp only [hchanged, ↓reduceIte]
    refine SameEffect.bind_same _ (fun conversation => ?_) _
    by_cases hchannel : ¬config.disableChannelsLogic = true ∧
        conversation.params.type = .c
    · rw [if_pos hchannel]
      exact .of_pure _ _
    · rw [if_neg hchannel]
      exact .of_query _ _
  · simp only [hchanged]
    exact ⟨rfl, rfl⟩

theorem sameEffect_read (cid : TextId) (ids : Option (List IdParam)) :
    SameEffect (read config session cid ids)
      (MessageOperations.read config session.toConversationSession cid
        ids) := by
  refine .bind_same _ (fun access => .bind_same _ (fun mids =>
    .bind_same _ (fun unread => ?_)))
  exact .of_pure _ _

theorem sameEffect_delete (cid : TextId) (ids : List IdParam)
    (isDeleteAll : Bool) :
    SameEffect (delete config session cid ids isDeleteAll)
      (MessageOperations.delete config session.toConversationSession cid ids
        isDeleteAll) := by
  refine .bind_same _ (fun access => .bind_same _ (fun messages =>
    .bind_same _ (fun _ => .bind_same _ (fun _ => ?_))))
  split
  · exact .of_query _ _
  · exact .of_pure _ _

end MessageResults

namespace SharedRequest

variable (config : ChatConfig) (session : ConversationSession)
  (chat : ChatStore)

/-- The message is in a channel, and the rules of channels are in force. -/
def InChannel (message : ChatMessage) : Prop :=
  config.disableChannelsLogic = false ∧
    ∃ stored, chat.conversations.conversations.get? message.cid =
      some stored ∧ stored.type = .c

/-- A system message without a conversation names no user of the
organization. -/
def NamesNobody (params : SystemParams) : Prop :=
  presentCid params.cid = none → ∀ uids found, params.uids = some uids →
    chat.conversations.retrieveExistedIds session.organizationId uids =
      .ok found → found = []

/-- The reaction to add is not there, or the reaction to remove is. -/
def ChangesReactions (mid userId : ObjectId) (add remove : Option String) :
    Prop :=
  (∃ reaction, add = some reaction ∧ reaction ≠ "" ∧
      ⟨mid, userId, reaction⟩ ∉ chat.reactions) ∨
    ∃ reaction, remove = some reaction ∧ reaction ≠ "" ∧
      ⟨mid, userId, reaction⟩ ∈ chat.reactions

/-- An update of reactions changes something, in no channel with rules; a
system message goes to a conversation or to nobody. -/
def Agrees : SharedRequest → Prop
  | .reactionsUpdate mid add remove =>
      ∀ message, chat.findMessage config.conversations.server
          config.pickMessage mid = .ok (some message) →
        ChangesReactions chat message.id session.userId add remove ∧
          ¬InChannel config chat message
  | .systemMessage params => NamesNobody session chat params
  | _ => True

/-- The same without the updates that change nothing, whose message has no
destination. -/
def AgreesInEffect : SharedRequest → Prop
  | .reactionsUpdate mid add remove =>
      ∀ message, chat.findMessage config.conversations.server
          config.pickMessage mid = .ok (some message) →
        ChangesReactions chat message.id session.userId add remove →
          ¬InChannel config chat message
  | .systemMessage params => NamesNobody session chat params
  | _ => True

variable {config session chat}

/-! ### Updates of reactions -/

theorem addReaction_fst (chat : ChatStore) (mid userId : ObjectId)
    (add : Option String) :
    (chat.addReaction mid userId add).1 = true ↔
      ∃ reaction, add = some reaction ∧ reaction ≠ "" ∧
        ⟨mid, userId, reaction⟩ ∉ chat.reactions := by
  rw [ChatStore.addReaction]
  split
  case h_1 hnone =>
      simpa using fun reaction hadd hreaction =>
        absurd hreaction (by simpa [hadd] using hnone)
  case h_2 reaction hsome =>
      obtain ⟨hadd, hreaction⟩ := Option.filter_eq_some_iff.1 hsome
      split <;> simp_all

theorem addReaction_of_fst_eq_false {chat : ChatStore}
    {mid userId : ObjectId} {add : Option String}
    (hadded : (chat.addReaction mid userId add).1 = false) :
    (chat.addReaction mid userId add).2 = chat := by
  rw [ChatStore.addReaction] at hadded ⊢
  split at hadded
  · rfl
  · split at hadded <;> simp_all

theorem removeReaction_fst (chat : ChatStore) (mid userId : ObjectId)
    (remove : Option String) :
    (chat.removeReaction mid userId remove).1 = true ↔
      ∃ reaction, remove = some reaction ∧ reaction ≠ "" ∧
        ⟨mid, userId, reaction⟩ ∈ chat.reactions := by
  rw [ChatStore.removeReaction]
  split
  case h_1 hnone =>
      simpa using fun reaction hremove hreaction =>
        absurd hreaction (by simpa [hremove] using hnone)
  case h_2 reaction hsome =>
      obtain ⟨hremove, hreaction⟩ := Option.filter_eq_some_iff.1 hsome
      split <;> simp_all

theorem changesReactions_iff (mid userId : ObjectId)
    (add remove : Option String) :
    ChangesReactions chat mid userId add remove ↔
      (chat.updateReactions mid userId add remove).1 = true := by
  have hfst : (chat.updateReactions mid userId add remove).1 =
      ((chat.addReaction mid userId add).1 ||
        ((chat.addReaction mid userId add).2.removeReaction mid userId
          remove).1) := rfl
  rw [hfst, ChangesReactions, ← addReaction_fst, ← removeReaction_fst,
    Bool.or_eq_true]
  cases hadded : (chat.addReaction mid userId add).1 with
  | true => simp
  | false => rw [addReaction_of_fst_eq_false hadded]

theorem conversations_updateReactions (chat : ChatStore)
    (mid userId : ObjectId) (add remove : Option String) :
    (chat.updateReactions mid userId add remove).2.conversations =
      chat.conversations := by
  have hadded : (chat.addReaction mid userId add).2.conversations =
      chat.conversations := by
    rw [ChatStore.addReaction]
    split
    · rfl
    · split <;> rfl
  have hremoved : ((chat.addReaction mid userId add).2.removeReaction mid
      userId remove).2.conversations =
      (chat.addReaction mid userId add).2.conversations := by
    rw [ChatStore.removeReaction]
    split
    · rfl
    · split <;> rfl
  exact hremoved.trans hadded

theorem exec_applyReactions (session : ConversationSession)
    (chat : ChatStore) (mid : ObjectId) (isNative : Bool)
    (add remove : Option String) :
    ∃ isAdded isRemoved, (isAdded || isRemoved) =
        (chat.updateReactions mid session.userId add remove).1 ∧
      (MessageResults.applyReactions ⟨session, isNative⟩ mid add
          remove).exec chat = (.ok (isAdded, isRemoved),
        (chat.updateReactions mid session.userId add remove).2) :=
  ⟨_, _, rfl, rfl⟩

/-- An update of the reactions of a message that is found. -/
theorem exec_reactionsUpdate (session : ConversationSession)
    {mid : IdParam} {message : ChatMessage}
    (hfound : chat.findMessage config.conversations.server
      config.pickMessage mid = .ok (some message))
    (isNative : Bool) (add remove : Option String) :
    let after := (chat.updateReactions message.id session.userId add remove).2
    let outcome := (MessageResults.reactionsUpdate config
      ⟨session, isNative⟩ mid add remove).exec chat
    (chat.updateReactions message.id session.userId add remove).1 = false ∧
        outcome = (.ok ⟨none, none, none, none, false⟩, after) ∨
      (chat.updateReactions message.id session.userId add remove).1 = true ∧
        (chat.conversations.conversations.get? message.cid = none ∧
            outcome = (.error .typeError, after) ∨
          ∃ stored update,
            chat.conversations.conversations.get? message.cid =
                some stored ∧
              outcome = (.ok ⟨some session.organizationId,
                some (.hex message.cid true),
                MessageResults.participantsIds ⟨message.cid, stored⟩,
                some update, ¬(¬config.disableChannelsLogic ∧
                  stored.type = .c)⟩, after)) := by
  rcases @MessageRequest.exec_hasAccessToReactions config session chat mid with
    ⟨other, hother, haccess⟩ | ⟨hnobody, _⟩
  · rw [hfound] at hother
    cases hother
    have hconversations := conversations_updateReactions chat message.id
      session.userId add remove
    obtain ⟨isAdded, isRemoved, hany, happly⟩ :=
      exec_applyReactions session chat message.id isNative add remove
    simp only [MessageResults.reactionsUpdate, exec_bind_ok haccess,
      exec_bind_ok happly, ← hany]
    by_cases hchanged : (isAdded || isRemoved) = true
    · rw [if_pos hchanged]
      refine .inr ⟨hchanged, ?_⟩
      cases hget : chat.conversations.conversations.get? message.cid with
      | none =>
          refine .inl ⟨rfl, exec_bind_error ?_ _⟩
          simp [MessageOperations.conversationOf, MessageOperations.query,
            hconversations, hget]
      | some stored =>
          have hconversation : (MessageOperations.conversationOf
              message).exec (chat.updateReactions message.id session.userId
                add remove).2 = (.ok ⟨message.cid, stored⟩,
              (chat.updateReactions message.id session.userId add
                remove).2) := by
            simp [MessageOperations.conversationOf, MessageOperations.query,
              hconversations, hget]
          rw [exec_bind_ok hconversation]
          exact .inr ⟨stored, _, rfl, rfl⟩
    · rw [if_neg hchanged]
      exact .inl ⟨by simpa using hchanged, rfl⟩
  · exact absurd hfound (hnobody message)

/-- A result that is only rewritten. -/
theorem exec_bind_pure {A B : Type} (program : ChatProgram A) (f : A → B)
    (chat : ChatStore) :
    (program >>= fun result => pure (f result)).exec chat =
      ((program.exec chat).1.map f, (program.exec chat).2) := by
  rw [exec_bind]
  cases (program.exec chat).1 with
  | ok result => rfl
  | error error => rfl

/-- What the two controllers answer to an update of reactions. -/
theorem exec_reactions (config : ChatConfig) (session : ConversationSession)
    (chat : ChatStore) (mid : IdParam) (add remove : Option String) :
    let socket := (MessagesController.reactionsUpdate config ⟨session, true⟩
      mid add remove).exec chat
    let http := (HttpMessageController.reaction config
      ⟨session.userId, session.organizationId⟩ mid add remove).exec chat
    (∀ message, chat.findMessage config.conversations.server
        config.pickMessage mid ≠ .ok (some message)) ∧ socket = http ∨
    ∃ message, chat.findMessage config.conversations.server
        config.pickMessage mid = .ok (some message) ∧
      ((chat.updateReactions message.id session.userId add remove).1 =
            false ∧
          (∃ after deliver, deliver.destination = none ∧
            socket = (.ok [], after) ∧ http = (.ok [deliver], after)) ∨
        (chat.updateReactions message.id session.userId add remove).1 =
            true ∧
          (¬InChannel config chat message ∧ socket = http ∨
            InChannel config chat message ∧
              ∃ after deliver, deliver.destination ≠ none ∧
                socket = (.ok [], after) ∧
                http = (.ok [deliver], after))) := by
  have hsession : (HttpPayload.mk session.userId
      session.organizationId).session = ⟨session, false⟩ := rfl
  simp only [MessagesController.reactionsUpdate,
    HttpMessageController.reaction, exec_bind_pure, hsession]
  rcases @MessageRequest.exec_hasAccessToReactions config session chat mid with
    ⟨message, hfound, _⟩ | ⟨hnobody, error, haccess⟩
  · refine .inr ⟨message, hfound, ?_⟩
    have hoperation : MessageResults.reactionsUpdate config ⟨session, true⟩
        mid add remove = MessageResults.reactionsUpdate config
          ⟨session, false⟩ mid add remove := rfl
    rw [hoperation]
    rcases exec_reactionsUpdate session hfound false add remove with
      ⟨hchanged, hexec⟩ | ⟨hchanged, hrest⟩
    · rw [hexec]
      exact .inl ⟨hchanged, _, _, rfl, rfl, rfl⟩
    · refine .inr ⟨hchanged, ?_⟩
      rcases hrest with ⟨hget, hexec⟩ | ⟨stored, update, hget, hexec⟩
      · rw [hexec]
        refine .inl ⟨?_, rfl⟩
        rintro ⟨-, stored, hstored, -⟩
        rw [hget] at hstored
        cases hstored
      · rw [hexec]
        by_cases hchannel : config.disableChannelsLogic = false ∧
            stored.type = .c
        · obtain ⟨hrules, htype⟩ := hchannel
          refine .inr ⟨⟨hrules, stored, hget, htype⟩, _, _, ?_, ?_, rfl⟩
          · simp [DeliverMessage.destination, ReactionsResult.message,
              MessageResults.participantsIds, htype, presentCid]
          · simp [Except.map, hrules, htype]
        · refine .inl ⟨?_, ?_⟩
          · rintro ⟨hrules, again, hagain, htype⟩
            rw [hget] at hagain
            cases hagain
            exact hchannel ⟨hrules, htype⟩
          · simpa [Except.map] using hchannel
  · have herror : ∀ isNative, (MessageResults.reactionsUpdate config
        ⟨session, isNative⟩ mid add remove).exec chat =
          (.error error, chat) :=
      fun _ => exec_bind_error haccess _
    rw [herror, herror]
    exact .inl ⟨hnobody, rfl⟩

theorem reactions_agree (mid : IdParam) (add remove : Option String) :
    ((MessagesController.reactionsUpdate config ⟨session, true⟩ mid add
          remove).exec chat =
        (HttpMessageController.reaction config
          ⟨session.userId, session.organizationId⟩ mid add remove).exec
            chat ↔
      Agrees config session chat (.reactionsUpdate mid add remove)) ∧
    (delivered ((MessagesController.reactionsUpdate config ⟨session, true⟩
          mid add remove).exec chat) =
        delivered ((HttpMessageController.reaction config
          ⟨session.userId, session.organizationId⟩ mid add remove).exec
            chat) ↔
      AgreesInEffect config session chat
        (.reactionsUpdate mid add remove)) := by
  rcases exec_reactions config session chat mid add remove with
    ⟨hnobody, hsame⟩ | ⟨message, hfound, hcases⟩
  · rw [hsame]
    exact ⟨iff_of_true rfl (fun message hfound =>
      absurd hfound (hnobody message)), iff_of_true rfl
        (fun message hfound => absurd hfound (hnobody message))⟩
  · simp only [Agrees, AgreesInEffect, hfound, Except.ok.injEq,
      Option.some.injEq, forall_eq', changesReactions_iff]
    rcases hcases with ⟨hchanged, after, deliver, hnowhere, hsocket, hhttp⟩ |
      ⟨hchanged, ⟨houtside, hsame⟩ |
        ⟨hinside, after, deliver, hsomewhere, hsocket, hhttp⟩⟩
    · rw [hsocket, hhttp, hchanged]
      refine ⟨iff_of_false (by simp) (by simp), iff_of_true ?_ (by simp)⟩
      simp [delivered, Except.map, hnowhere]
    · rw [hsame]
      exact ⟨iff_of_true rfl ⟨hchanged, houtside⟩,
        iff_of_true rfl (fun _ => houtside)⟩
    · rw [hsocket, hhttp]
      refine ⟨iff_of_false (by simp) (fun hagrees => hagrees.2 hinside),
        iff_of_false ?_ (fun hagrees => hagrees hchanged hinside)⟩
      obtain ⟨destination, hdestination⟩ :=
        Option.ne_none_iff_exists'.1 hsomewhere
      simp [delivered, Except.map, hdestination]

/-! ### System messages -/

/-- A system message to users, of whom a request by text finds none. -/
theorem exec_sendSystem_users {params : SystemParams} {uids : List IdParam}
    {found : List ObjectId} (hcid : presentCid params.cid = none)
    (huids : params.uids = some uids)
    (hfound : chat.conversations.retrieveExistedIds session.organizationId
      uids = .ok found) (isNative : Bool) :
    (MessageResults.sendSystem config ⟨session, isNative⟩ params).exec chat =
      (.ok ⟨session.organizationId, params.cid,
        some ((if isNative then found else []).map StoredId.id),
        some (.systemMessage params.id session.userId none)⟩, chat) := by
  have hretrieve : (MessageResults.retrieveExistedIds ⟨session, isNative⟩
      params.uids).exec chat =
      (.ok (if isNative then found else []), chat) := by
    simp [MessageResults.retrieveExistedIds, huids, MessageOperations.query,
      hfound, Except.map]
  simp only [MessageResults.sendSystem, hcid]
  rw [exec_bind_ok hretrieve]
  rfl

theorem exec_sendSystem_error {params : SystemParams}
    (hcid : presentCid params.cid = none)
    (hnone : ∀ uids found, params.uids = some uids →
      chat.conversations.retrieveExistedIds session.organizationId uids ≠
        .ok found) :
    ∃ error, ∀ isNative, (MessageResults.sendSystem config
      ⟨session, isNative⟩ params).exec chat = (.error error, chat) := by
  simp only [MessageResults.sendSystem, hcid]
  cases huids : params.uids with
  | none =>
      exact ⟨.typeError, fun _ => exec_bind_error rfl _⟩
  | some uids =>
      cases hfound : chat.conversations.retrieveExistedIds
          session.organizationId uids with
      | ok found => exact absurd hfound (hnone uids found huids)
      | error error =>
          refine ⟨error, fun isNative => exec_bind_error ?_ _⟩
          simp [MessageResults.retrieveExistedIds, MessageOperations.query,
            hfound, Except.map]

theorem system_agree (params : SystemParams) :
    ((MessagesController.sendSystem config ⟨session, true⟩ params).exec
          chat =
        (HttpMessageController.systemMessage config
          ⟨session.userId, session.organizationId⟩ params).exec chat ↔
      NamesNobody session chat params) ∧
    (delivered ((MessagesController.sendSystem config ⟨session, true⟩
          params).exec chat) =
        delivered ((HttpMessageController.systemMessage config
          ⟨session.userId, session.organizationId⟩ params).exec chat) ↔
      NamesNobody session chat params) := by
  have hsession : (HttpPayload.mk session.userId
      session.organizationId).session = ⟨session, false⟩ := rfl
  simp only [MessagesController.sendSystem,
    HttpMessageController.systemMessage, exec_bind_pure, hsession]
  cases hcid : presentCid params.cid with
  | some cid =>
      have hsame : MessageResults.sendSystem config ⟨session, true⟩ params =
          MessageResults.sendSystem config ⟨session, false⟩ params := by
        simp only [MessageResults.sendSystem, hcid]
      rw [hsame]
      have hnobody : NamesNobody session chat params := by
        intro hnone
        rw [hcid] at hnone
        cases hnone
      exact ⟨iff_of_true rfl hnobody, iff_of_true rfl hnobody⟩
  | none =>
      by_cases hexisted : ∃ uids found, params.uids = some uids ∧
          chat.conversations.retrieveExistedIds session.organizationId uids =
            .ok found
      · obtain ⟨uids, found, huids, hfound⟩ := hexisted
        have hnobody : NamesNobody session chat params ↔ found = [] := by
          constructor
          · intro hnobody
            exact hnobody hcid uids found huids hfound
          · intro hempty _ others again hothers hagain
            rw [huids] at hothers
            cases hothers
            rw [hfound] at hagain
            cases hagain
            exact hempty
        rw [exec_sendSystem_users hcid huids hfound,
          exec_sendSystem_users hcid huids hfound, hnobody]
        cases found with
        | nil => exact ⟨iff_of_true rfl rfl, iff_of_true rfl rfl⟩
        | cons first rest =>
            refine ⟨iff_of_false ?_ (by simp), iff_of_false ?_ (by simp)⟩
            · simp [Except.map, PacketResult.messages]
            · simp [Except.map, PacketResult.messages, delivered,
                DeliverMessage.destination, hcid]
      · obtain ⟨error, herror⟩ := exec_sendSystem_error hcid
          (fun uids found huids hfound =>
            hexisted ⟨uids, found, huids, hfound⟩)
        have hnobody : NamesNobody session chat params := by
          intro _ uids found huids hfound
          exact absurd ⟨uids, found, huids, hfound⟩ hexisted
        rw [herror, herror]
        exact ⟨iff_of_true rfl hnobody, iff_of_true rfl hnobody⟩

/-- For every state, sender and request, the controllers produce the same
deliver messages and errors exactly when the request is no update of reactions
that changes nothing or is in a channel with rules, and no system message to
users of the organization by their ids; what is sent somewhere is the same
also for updates that change nothing. -/
theorem controllers_agree (config : ChatConfig)
    (session : ConversationSession) (chat : ChatStore)
    (request : SharedRequest) :
    ((MessagesController.handle config ⟨session, true⟩ request).exec chat =
        (HttpMessageController.handle config
          ⟨session.userId, session.organizationId⟩ request).exec chat ↔
      Agrees config session chat request) ∧
    (delivered ((MessagesController.handle config ⟨session, true⟩
          request).exec chat) =
        delivered ((HttpMessageController.handle config
          ⟨session.userId, session.organizationId⟩ request).exec chat) ↔
      AgreesInEffect config session chat request) := by
  cases request with
  | message params =>
      exact ⟨iff_of_true rfl trivial, iff_of_true rfl trivial⟩
  | messageEdit id body =>
      exact ⟨iff_of_true rfl trivial, iff_of_true rfl trivial⟩
  | messageDelete cid ids isDeleteAll =>
      exact ⟨iff_of_true rfl trivial, iff_of_true rfl trivial⟩
  | messageRead cid ids =>
      exact ⟨iff_of_true rfl trivial, iff_of_true rfl trivial⟩
  | reactionsUpdate mid add remove => exact reactions_agree mid add remove
  | systemMessage params => exact system_agree params


/-- The private conversation of the sample made a channel. -/
def channelMessage : ChatStore :=
  { ChatStore.oneMessage with
    conversations :=
      { ConversationStore.threeUsers with
        conversations := OrderedMap.empty.set 4 ⟨9, .c, .id 0, none, none,
          ⟨none, none, none, none⟩, .undefined⟩
        conversations_below := by decide } }

/-- A reaction in a channel is delivered by the one controller only. -/
theorem channel_reaction_delivered :
    ¬∀ (config : ChatConfig) (session : ConversationSession)
        (chat : ChatStore) (request : SharedRequest),
      delivered ((MessagesController.handle config ⟨session, true⟩
          request).exec chat) =
        delivered ((HttpMessageController.handle config
          ⟨session.userId, session.organizationId⟩ request).exec chat) := by
  intro hagree
  have hsame := congrArg Prod.fst (hagree .plain ⟨0, 9⟩ channelMessage
    (.reactionsUpdate (.hex 0 true) (some "+") none))
  have hsocket : (delivered ((MessagesController.handle .plain ⟨⟨0, 9⟩, true⟩
      (.reactionsUpdate (.hex 0 true) (some "+") none)).exec
        channelMessage)).1 = .ok [] := rfl
  have hhttp : (delivered ((HttpMessageController.handle .plain ⟨0, 9⟩
      (.reactionsUpdate (.hex 0 true) (some "+") none)).exec
        channelMessage)).1 = .ok [(.conversation (.hex 4 true),
          .messageReactionsUpdate (some ⟨.hex 0 true, 4, .c, 0, some "+",
            none⟩))] := rfl
  rw [hsocket, hhttp] at hsame
  cases hsame

end SharedRequest

end SamaServer
