/-
Who may use the operations that are addressed by a conversation.  All of them
ask for the access of the caller before they do anything else, except the
report of messages that could not be decrypted.
-/
import SamaServer.MessageOperations
import SamaServer.UpdateErrors

namespace SamaServer

open Fallible ConversationService

/-- A request that is addressed by a conversation. -/
inductive ChatRequest
  | message (params : MessageParams)
  | messageList (cid : TextId) (filter : ListFilter) (limit : Option Nat)
  | messageRead (cid : TextId) (ids : Option (List IdParam))
  | messageDelete (cid : TextId) (ids : List IdParam) (isDeleteAll : Bool)
  | messageSummary (cid : TextId) (filter : SummaryFilter)
  | systemMessage (cid : TextId)
  | typing (cid : TextId)
  | decryptionFailed (cid : TextId) (mids : List ObjectId)

namespace ChatRequest

def cid : ChatRequest → TextId
  | message params => params.cid
  | messageList cid _ _ => cid
  | messageRead cid _ => cid
  | messageDelete cid _ _ => cid
  | messageSummary cid _ => cid
  | systemMessage cid => cid
  | typing cid => cid
  | decryptionFailed cid _ => cid

/-- The operation of a request.  The schema asks for an id in a report. -/
def perform (config : ChatConfig) (session : ConversationSession) :
    ChatRequest → ChatProgram Unit
  | message params =>
      MessageOperations.create config session params >>= fun _ => pure ()
  | messageList cid filter limit =>
      MessageOperations.list config session cid filter limit >>= fun _ =>
        pure ()
  | messageRead cid ids =>
      MessageOperations.read config session cid ids >>= fun _ => pure ()
  | messageDelete cid ids isDeleteAll =>
      MessageOperations.delete config session cid ids isDeleteAll >>=
        fun _ => pure ()
  | messageSummary cid filter =>
      MessageOperations.summary config session cid filter >>= fun _ => pure ()
  | systemMessage cid =>
      MessageOperations.sendSystem config session cid >>= fun _ => pure ()
  | typing cid =>
      MessageOperations.typing config session cid >>= fun _ => pure ()
  | decryptionFailed cid mids =>
      if mids = [] then throw .validation
      else MessageOperations.decryptionFailed session cid mids >>= fun _ =>
        pure ()

/-- The conversation is in the organization of the caller and the caller is a
participant of it; a message in a channel also asks for the owner or an
admin. -/
def IsAllowed (config : ChatConfig) (session : ConversationSession)
    (request : ChatRequest) (chat : ChatStore) : Prop :=
  ∃ c isLowerCase stored, request.cid = .hex c isLowerCase ∧
    chat.conversations.conversations.get? c = some stored ∧
    stored.organizationId = session.organizationId ∧
    (∃ row ∈ chat.conversations.rowsOf c,
      row.userId = .id session.userId) ∧
    match request with
    | message _ =>
        config.disableChannelsLogic = false → stored.type = .c →
          stored.ownerId = .id session.userId ∨
            ∃ row ∈ chat.conversations.rowsOf c,
              row.userId = .id session.userId ∧ row.role = some .admin
    | _ => True

/-- A request that succeeds is allowed; any other fails and changes
nothing. -/
def IsGuarded (config : ChatConfig) (session : ConversationSession)
    (request : ChatRequest) (chat : ChatStore) : Prop :=
  ((∃ after, (request.perform config session).exec chat = (.ok (), after)) →
    request.IsAllowed config session chat) ∧
  (¬ request.IsAllowed config session chat →
    ∃ error, (request.perform config session).exec chat = (.error error, chat))

end ChatRequest

namespace MessageOperations

variable {config : ChatConfig} {session : ConversationSession}
  {chat : ChatStore}

/-- The caller is a participant of a conversation of the organization, and
the operation does not refuse the access. -/
def HasAccess (config : ChatConfig) (session : ConversationSession)
    (refuses : ConversationAccess → Bool) (cid : TextId) (chat : ChatStore)
    (access : ConversationAccess) : Prop :=
  ∃ c isLowerCase stored, cid = .hex c isLowerCase ∧
    chat.conversations.conversations.get? c = some stored ∧
    stored.organizationId = session.organizationId ∧
    access = ConversationStore.accessTo config.conversations session
      chat.conversations c stored ∧
    refuses access = false ∧ access.asParticipant = true

/-- The check of an access that was found. -/
theorem exec_hasAccess_of_found {refuses : ConversationAccess → Bool}
    {cid : TextId} {found : Option ConversationAccess}
    (hfound : (hasAccessToConversation config.conversations session cid.param
      false).exec chat.conversations = (.ok found, chat.conversations)) :
    (hasAccess config session refuses cid).exec chat =
      match found with
      | none => (.error (.cause .conversationNotFound), chat)
      | some access =>
          if refuses access then (.error (.cause .forbidden), chat)
          else if access.asParticipant then (.ok access, chat)
          else (.error (.cause .forbidden), chat) := by
  have hlifted : (onConversations (hasAccessToConversation
      config.conversations session cid.param false)).exec chat =
      (.ok found, chat) := by
    rw [onConversations, exec_command, hfound]
  rw [hasAccess, exec_bind_ok hlifted]
  cases found with
  | none => rfl
  | some access =>
      dsimp only
      split
      · rfl
      · split <;> rfl

theorem exec_hasAccess_not_found {cid : TextId}
    (hnone : chat.conversations.findByIdWithOrgScope
      config.conversations.server session.organizationId cid.param =
        .ok none) (refuses : ConversationAccess → Bool) :
    (hasAccess config session refuses cid).exec chat =
      (.error (.cause .conversationNotFound), chat) :=
  exec_hasAccess_of_found
    (ConversationStore.exec_hasAccessToConversation_none hnone false)

/-- The check of a conversation of the organization. -/
theorem exec_hasAccess_hex (config : ChatConfig) {c : ObjectId}
    {stored : Conversation}
    (hget : chat.conversations.conversations.get? c = some stored)
    (horganization : stored.organizationId = session.organizationId)
    (isLowerCase : Bool) (refuses : ConversationAccess → Bool) :
    (hasAccess config session refuses (.hex c isLowerCase)).exec chat =
      let access := ConversationStore.accessTo config.conversations session
        chat.conversations c stored
      if refuses access then (.error (.cause .forbidden), chat)
      else if access.asParticipant then (.ok access, chat)
      else (.error (.cause .forbidden), chat) :=
  @exec_hasAccess_of_found config session chat refuses (.hex c isLowerCase)
    _ (ConversationStore.exec_hasAccessToConversation config.conversations
      hget horganization isLowerCase false)

/-- The check succeeds exactly with an access, and otherwise refuses the
request. -/
theorem exec_hasAccess_cases (config : ChatConfig)
    (session : ConversationSession) (refuses : ConversationAccess → Bool)
    (cid : TextId) (chat : ChatStore) :
    (∃ access, HasAccess config session refuses cid chat access ∧
      (hasAccess config session refuses cid).exec chat =
        (.ok access, chat)) ∨
    ((∀ access, ¬ HasAccess config session refuses cid chat access) ∧
      ∃ status, (status = .conversationNotFound ∨ status = .forbidden) ∧
        (hasAccess config session refuses cid).exec chat =
          (.error (.cause status), chat)) := by
  cases cid with
  | other value =>
      refine Or.inr ⟨?_, .conversationNotFound, Or.inl rfl,
        exec_hasAccess_not_found
          (ConversationStore.findByIdWithOrgScope_text _ _ _ value) refuses⟩
      rintro access ⟨c, isLowerCase, stored, hcid, _⟩
      cases hcid
  | hex c isLowerCase =>
      have hfind := ConversationStore.findByIdWithOrgScope_hex
        config.conversations.server chat.conversations session.organizationId
        c isLowerCase
      cases hget : chat.conversations.conversations.get? c with
      | none =>
          rw [hget] at hfind
          refine Or.inr ⟨?_, .conversationNotFound, Or.inl rfl,
            exec_hasAccess_not_found hfind refuses⟩
          rintro access ⟨_, _, stored, ⟨⟩, hstored, _⟩
          rw [hget] at hstored
          cases hstored
      | some stored =>
          by_cases horganization :
              stored.organizationId = session.organizationId
          · have hexec := exec_hasAccess_hex config hget
              horganization isLowerCase refuses
            dsimp only at hexec
            split at hexec
            · next hrefused =>
                refine Or.inr ⟨?_, .forbidden, Or.inr rfl, hexec⟩
                rintro access ⟨_, _, other, ⟨⟩, hother, _, rfl, hnot, _⟩
                rw [hget] at hother
                cases hother
                rw [hrefused] at hnot
                cases hnot
            · next hrefused =>
                split at hexec
                · next hparticipant =>
                    exact Or.inl ⟨_, ⟨c, isLowerCase, stored, rfl, hget,
                      horganization, rfl, by simpa using hrefused,
                      hparticipant⟩, hexec⟩
                · next hparticipant =>
                    refine Or.inr ⟨?_, .forbidden, Or.inr rfl, hexec⟩
                    rintro access ⟨_, _, other, ⟨⟩, hother, _, rfl, _, hin⟩
                    rw [hget] at hother
                    cases hother
                    exact hparticipant hin
          · rw [hget] at hfind
            dsimp only at hfind
            rw [if_neg horganization] at hfind
            refine Or.inr ⟨?_, .conversationNotFound, Or.inl rfl,
              exec_hasAccess_not_found hfind refuses⟩
            rintro access ⟨_, _, other, ⟨⟩, hother, hsame, _⟩
            rw [hget] at hother
            cases hother
            exact horganization hsame

/-- The caller is a participant with a row in the conversation. -/
theorem asParticipant_iff (config : ConversationConfig)
    (session : ConversationSession) (s : ConversationStore) (c : ObjectId)
    (stored : Conversation) :
    (ConversationStore.accessTo config session s c stored).asParticipant =
        true ↔
      ∃ row ∈ s.rowsOf c, row.userId = .id session.userId := by
  constructor
  · intro hparticipant
    obtain ⟨row, hrow⟩ := Option.isSome_iff_exists.1 hparticipant
    exact ⟨row, ConversationStore.row_of_findFirst hrow⟩
  · rintro ⟨row, hrow, huser⟩
    refine config.server.pickParticipant.isSome _ (List.ne_nil_of_mem
      (List.mem_filter.2 ⟨hrow, ?_⟩))
    simpa using huser

theorem hasAccess_demands (config : ChatConfig)
    (session : ConversationSession) (refuses : ConversationAccess → Bool)
    (cid : TextId) (chat : ChatStore) :
    (hasAccess config session refuses cid).Demands
      (∃ access, HasAccess config session refuses cid chat access) chat := by
  rcases exec_hasAccess_cases config session refuses cid chat with
    ⟨access, haccess, _⟩ | ⟨_, status, _, hexec⟩
  · exact Or.inl ⟨access, haccess⟩
  · exact Or.inr ⟨_, hexec⟩

/-- A program that only asks. -/
theorem readOnly_query {A : Type}
    (answer : ChatStore → Except ConversationError A) :
    (query answer).ReadOnly := fun _ => rfl

/-- What a report of a user who is stored leaves. -/
theorem exec_decryptionFailed {user : User}
    (huser : chat.conversations.findUserById session.userId = some user)
    (cid : TextId) (mids : List ObjectId) :
    ((decryptionFailed session cid mids).exec chat).2 =
      chat.upsertMessageStatus cid mids user.id .decryptionFailed := by
  have hfind : (findOpponentId session cid).ReadOnly := by
    refine readOnly_bind (readOnly_query _) ?_
    intro conversation
    split
    · exact readOnly_throw _
    · split
      · exact readOnly_pure _
      · exact readOnly_pure _
  rw [decryptionFailed, query, exec_command_bind, huser]
  exact hfind _

theorem exec_decryptionFailed_none
    (hnone : chat.conversations.findUserById session.userId = none)
    (cid : TextId) (mids : List ObjectId) :
    (decryptionFailed session cid mids).exec chat =
      (.error .typeError, chat) := by
  rw [decryptionFailed, query, exec_command_bind, hnone]
  rfl

end MessageOperations

namespace ChatRequest

open MessageOperations

variable {config : ChatConfig} {session : ConversationSession}
  {chat : ChatStore}

/-- What the check of an operation on a conversation asks for is allowed. -/
theorem isAllowed_of_hasAccess {refuses : ConversationAccess → Bool}
    {request : ChatRequest} {access : ConversationAccess}
    (haccess : HasAccess config session refuses request.cid chat access)
    (hmessage : ∀ params, request = message params → ∀ access,
      refuses access = false → config.disableChannelsLogic = false →
        access.conversation.params.type = .c →
        access.asOwner = true ∨ access.asAdmin = true) :
    request.IsAllowed config session chat := by
  obtain ⟨c, isLowerCase, stored, hcid, hget, horganization, rfl, hrefuses,
    hparticipant⟩ := haccess
  refine ⟨c, isLowerCase, stored, hcid, hget, horganization,
    (asParticipant_iff _ _ _ _ _).1 hparticipant, ?_⟩
  split
  · next params =>
      intro hchannels htype
      rcases hmessage params rfl _ hrefuses hchannels htype with
        howner | hadmin
      · exact Or.inl (by simpa [ConversationStore.accessTo] using howner)
      · exact Or.inr (ConversationStore.admin_row hadmin)
  · trivial

/-- Every other operation fails without a change unless it is allowed. -/
theorem perform_demands (config : ChatConfig) (session : ConversationSession)
    (request : ChatRequest) (chat : ChatStore)
    (hother : ∀ cid mids, request ≠ decryptionFailed cid mids) :
    (request.perform config session).Demands
      (request.IsAllowed config session chat) chat := by
  have hdemands : ∀ refuses, (∀ params, request = message params →
      ∀ access, refuses access = false →
        config.disableChannelsLogic = false →
        access.conversation.params.type = .c →
        access.asOwner = true ∨ access.asAdmin = true) →
      (hasAccess config session refuses request.cid).Demands
        (request.IsAllowed config session chat) chat := by
    intro refuses hmessage
    rcases hasAccess_demands config session refuses request.cid chat with
      ⟨access, haccess⟩ | hrefused
    · exact Or.inl (isAllowed_of_hasAccess haccess hmessage)
    · exact Or.inr hrefused
  cases request with
  | message params =>
      refine Demands.bind ?_ _
      refine (MessageOperations.readOnly_query _).demands_bind (fun _ => ?_)
      refine Demands.bind (hdemands _ ?_) _
      intro _ _ access hrefuses hchannels htype
      simp only [hchannels, htype, Bool.false_eq_true, not_false_eq_true,
        true_and, decide_eq_false_iff_not, not_not] at hrefuses
      exact hrefuses
  | messageList cid filter limit =>
      refine Demands.bind ?_ _
      refine (MessageOperations.readOnly_query _).demands_bind (fun _ => ?_)
      exact Demands.bind (hdemands _ (by simp)) _
  | messageRead cid ids =>
      exact Demands.bind (Demands.bind (hdemands _ (by simp)) _) _
  | messageDelete cid ids isDeleteAll =>
      exact Demands.bind (Demands.bind (hdemands _ (by simp)) _) _
  | messageSummary cid filter =>
      exact Demands.bind (Demands.bind (hdemands _ (by simp)) _) _
  | systemMessage cid =>
      exact Demands.bind (Demands.bind (hdemands _ (by simp)) _) _
  | typing cid =>
      exact Demands.bind (Demands.bind (hdemands _ (by simp)) _) _
  | decryptionFailed cid mids => exact absurd rfl (hother cid mids)

/-- A report by a user who is stored always writes. -/
theorem writes_decryptionFailed {user : User}
    (huser : chat.conversations.findUserById session.userId = some user)
    (cid : TextId) (mids : List ObjectId) :
    ((MessageOperations.decryptionFailed session cid mids >>= fun _ =>
      (pure () : ChatProgram Unit)).exec chat).2.writes =
        chat.writes + mids.length := by
  rw [exec_bind_snd_of_readOnly (fun _ => readOnly_pure ()),
    exec_decryptionFailed huser]
  cases cid with
  | hex c isLowerCase => rfl
  | other value => rfl

end ChatRequest

end SamaServer
