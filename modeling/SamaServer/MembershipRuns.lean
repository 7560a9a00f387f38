/-
Runs of requests that succeed.  Each request works on one conversation by way
of the service functions that keep groups and channels populated; private
conversations and roles concern no row of theirs.
-/
import SamaServer.Membership

namespace SamaServer

namespace ConversationStore

open Fallible ConversationService

variable {s t : ConversationStore} {c : ObjectId} {limit : Nat}

theorem createSharedConversation_populated {config : ConversationConfig}
    (hpopulated : Populated config.maxParticipants s)
    {session : ConversationSession} {user : Option User}
    {params : CreateParams} {ids : List ObjectId}
    {conversation : ConversationModel}
    (huser : ∀ found, user = some found → found.id = session.userId)
    (hexec : (ConversationOperations.createSharedConversation config session
      user params ids).exec s = (.ok conversation, t)) :
    Populated config.maxParticipants t := by
  have howner : session.userId ∈
      ConversationOperations.membersWithOwner session ids := by
    rw [ConversationOperations.membersWithOwner]
    split
    · assumption
    · simp
  unfold ConversationOperations.createSharedConversation at hexec
  dsimp only at hexec
  split at hexec
  · cases hexec
  · cases user with
    | none => cases hexec
    | some found =>
        obtain ⟨created, between, hcreate, hrest⟩ := of_exec_bind_ok hexec
        obtain ⟨_, after, himage, hlast⟩ := of_exec_bind_ok hrest
        cases hlast
        rw [(readOnly_addImageUrl config _).eq_of_exec himage]
        refine create_populated hpopulated ?_ hcreate
        rw [huser found rfl]
        exact howner

/-- Rows added to a private conversation concern no other. -/
theorem Populated.of_extends_private {added : List StoredId}
    {conversation : Conversation} (hpopulated : Populated limit s)
    (hget : s.conversations.get? c = some conversation)
    (htype : conversation.type = .u) (hextends : Extends c added s t) :
    Populated limit t := by
  refine hpopulated.of_onlyAt (.of_extends hextends)
    (Nat.lt_of_lt_of_le (s.lt_nextId hget) hextends.nextId) ?_
  intro stored hstored hother
  rw [hextends.conversations, hget, Option.some_inj] at hstored
  rw [← hstored] at hother
  exact absurd htype hother

/-- The insert of a private conversation. -/
theorem Populated.insertConversation_private (hpopulated : Populated limit s)
    (params : Conversation) (htype : params.type = .u) :
    Populated limit (s.insertConversation params) := by
  refine hpopulated.of_onlyAt (onlyAt_insertConversation s params)
    (Nat.lt_succ_self _) ?_
  intro stored hstored hother
  rw [get?_insertConversation, Option.some_inj] at hstored
  rw [← hstored] at hother
  exact absurd htype hother

theorem create_private_populated (config : ConversationConfig)
    (hpopulated : Populated limit s) (user : User)
    (fields : ConversationFields) (opponentId : Option IdParam)
    (isEncrypted : Option EncryptedFlag) (participantIds : List IdParam) :
    Populated limit ((ConversationService.create config user .u fields
      opponentId isEncrypted participantIds).exec s).2 := by
  rw [ConversationService.create, exec_command_bind]
  dsimp only
  generalize hparams : preparedParams s user .u fields opponentId
    isEncrypted = params
  have htype : params.type = .u := by
    rw [← hparams]
    rfl
  have hinserted := hpopulated.insertConversation_private params htype
  split
  · rw [exec_bind_pure_snd (addParticipants config _ _ _) Prod.snd]
    obtain ⟨added, hextends⟩ := extends_addParticipants_private config
      ⟨s.conversationId params, params⟩ htype
      participantIds true (s.insertConversation params)
    exact hinserted.of_extends_private (get?_insertConversation s params)
      htype hextends
  · exact hinserted

theorem createPrivateConversation_populated (config : ConversationConfig)
    (hpopulated : Populated limit s) (session : ConversationSession)
    (user : Option User) (params : CreateParams) (ids : List ObjectId) :
    Populated limit ((ConversationOperations.createPrivateConversation config
      session user params ids).exec s).2 := by
  rw [ConversationOperations.createPrivateConversation, exec_bind]
  have hvalidated := readOnly_validatePrivateConversationParticipant config
    session params.opponentId ids s
  rw [hvalidated]
  split
  · next opponentId _ =>
      cases user with
      | none => exact hpopulated
      | some user =>
          dsimp only
          rw [ConversationOperations.findOrCreatePrivateConversation,
            exec_query_bind]
          split
          · next existed hexisted =>
              cases existed with
              | none =>
                  exact create_private_populated config hpopulated _ _ _ _ _
              | some conversation =>
                  obtain ⟨hget, htype⟩ :=
                    get?_of_findExistedPrivateConversation hexisted
                  dsimp only
                  rw [exec_bind_pure_snd _ (fun _ => conversation),
                    restorePrivateConversation,
                    exec_bind_pure_snd _ Prod.fst]
                  obtain ⟨added, hextends⟩ :=
                    extends_addParticipants_private config conversation htype
                      _ false s
                  exact hpopulated.of_extends_private hget htype hextends
          · exact hpopulated
  · exact hpopulated

theorem create_request_populated {config : ConversationConfig}
    (hpopulated : Populated config.maxParticipants s)
    {session : ConversationSession} {params : CreateParams}
    {conversation : ConversationModel}
    (hexec : (ConversationOperations.create config session params).exec s =
      (.ok conversation, t)) : Populated config.maxParticipants t := by
  rw [ConversationOperations.create, exec_query_bind] at hexec
  dsimp only at hexec
  obtain ⟨ids, afterIds, hids, hrest⟩ := of_exec_bind_ok hexec
  obtain ⟨created, afterCreate, hcreate, hevent⟩ := of_exec_bind_ok hrest
  obtain ⟨_, afterEvent, hevent, hlast⟩ := of_exec_bind_ok hevent
  cases hlast
  rw [(readOnly_createUserEvent config session).eq_of_exec hevent]
  rw [(readOnly_existedIds none _ _).eq_of_exec hids,
    ConversationOperations.createOfType] at hcreate
  split at hcreate
  · have hprivate := createPrivateConversation_populated config hpopulated
      session (s.findUserById session.userId) params ids
    rw [hcreate] at hprivate
    exact hprivate
  · exact createSharedConversation_populated hpopulated
      (fun _ => id_of_findUserById) hcreate

/-! ### Updates -/

/-- The fields of a request are written into a document that stays healthy. -/
theorem Populated.updateFields (hpopulated : Populated limit s) (c : ObjectId)
    (fields : ConversationFields) :
    Populated limit (s.updateConversation c (fun params =>
      { params with fields := params.fields.set fields })) := by
  constructor
  · intro id conversation hget htype
    rw [get?_updateConversation, Option.map_eq_some_iff] at hget
    obtain ⟨stored, hstored, hupdated⟩ := hget
    have hsame : conversation.ownerId = stored.ownerId ∧
        conversation.type = stored.type ∧
        conversation.subscribersCount = stored.subscribersCount := by
      rw [← hupdated]
      split <;> exact ⟨rfl, rfl, rfl⟩
    rw [hsame.2.1] at htype
    have hold := hpopulated.healthy id stored hstored htype
    exact Healthy.congr (s := s.updateConversation c _)
      ⟨hold.nodup, hold.limit, hold.owner, hold.count⟩
      hsame.1 hsame.2.1 hsame.2.2
  · exact hpopulated.unused

theorem editParticipants_populated {config : ConversationConfig}
    (hpopulated : Populated config.maxParticipants s)
    {conversation : ConversationModel} {params : UpdateParams}
    {adminsToAdd : List ObjectId} {added : List StoredId}
    {result : RemoveResult}
    (hget : s.conversations.get? conversation.id = some conversation.params)
    (hexec : (ConversationOperations.editParticipants config conversation
      params adminsToAdd).exec s = (.ok (added, result), t)) :
    Populated config.maxParticipants t := by
  rw [ConversationOperations.editParticipants] at hexec
  split at hexec
  · obtain ⟨addIds, afterAdd, haddIds, hremoves⟩ := of_exec_bind_ok hexec
    obtain ⟨removeIds, afterRemove, hremoveIds, hupdate⟩ :=
      of_exec_bind_ok hremoves
    rw [(readOnly_existedIds _ _ _).eq_of_exec hremoveIds,
      (readOnly_existedIds _ _ _).eq_of_exec haddIds] at hupdate
    unfold updateParticipants at hupdate
    obtain ⟨⟨addedIds, updated⟩, between, hadd, hrest⟩ :=
      of_exec_bind_ok hupdate
    obtain ⟨removeResult, after, hremove, hlast⟩ := of_exec_bind_ok hrest
    cases hlast
    obtain ⟨hbetween, _, hupdated⟩ := addParticipants_populated hpopulated
      hget hadd
    exact (removeParticipants_populated hbetween hupdated hremove).1
  · cases hexec
    exact hpopulated

/-- Conversations and rows that read the same. -/
theorem Populated.congr (hpopulated : Populated limit s)
    (hconversations : t.conversations = s.conversations)
    (hnext : s.nextId ≤ t.nextId)
    (hrows : ∀ id, t.userIdsOf id = s.userIdsOf id) :
    Populated limit t where
  healthy := by
    intro id conversation hget htype
    rw [hconversations] at hget
    have hold := hpopulated.healthy id conversation hget htype
    constructor
    · rw [hrows]
      exact hold.nodup
    · rw [hrows]
      exact hold.limit
    · rw [hrows]
      exact hold.owner
    · rw [hrows]
      exact hold.count
  unused := by
    intro id hid
    rw [hrows]
    exact hpopulated.unused id (Nat.le_trans hnext hid)

theorem updateRoles_populated (hpopulated : Populated limit s)
    {ids : Option (List IdParam)} {role : Option ParticipantRole}
    {result : Except ConversationError Unit}
    (hexec : (ConversationOperations.updateRoles c ids role).exec s =
      (result, t)) : Populated limit t := by
  rw [ConversationOperations.updateRoles] at hexec
  split at hexec
  · rw [exec_command] at hexec
    obtain rfl := congrArg Prod.snd hexec
    rw [setRole]
    split
    · exact hpopulated
    · exact hpopulated.congr rfl (Nat.le_refl _)
        (fun id => userIdsOf_assignRole s c id _ role)
  · cases hexec
    exact hpopulated

theorem editShared_populated {config : ConversationConfig}
    (hpopulated : Populated config.maxParticipants s)
    {session : ConversationSession} {conversation : ConversationModel}
    {params : UpdateParams}
    (hget : s.conversations.get? conversation.id = some conversation.params)
    (hexec : (ConversationOperations.editShared config session conversation
      params).exec s = (.ok (), t)) : Populated config.maxParticipants t := by
  unfold ConversationOperations.editShared at hexec
  obtain ⟨adminsToAdd, afterIds, hids, hrest⟩ := of_exec_bind_ok hexec
  obtain ⟨⟨added, result⟩, between, hedit, hrest⟩ := of_exec_bind_ok hrest
  rw [(readOnly_existedIds _ _ _).eq_of_exec hids] at hedit
  have hbetween := editParticipants_populated hpopulated hget hedit
  dsimp only at hrest
  split at hrest
  · cases hrest
    exact hbetween
  · obtain ⟨_, afterAdmins, hadmins, hevents⟩ := of_exec_bind_ok hrest
    rw [(readOnly_editEvents config session _ _ _ _).eq_of_exec hevents]
    rw [ConversationOperations.updateAdmins] at hadmins
    obtain ⟨_, afterAdd, hadd, hremove⟩ := of_exec_bind_ok hadmins
    exact updateRoles_populated (updateRoles_populated hbetween hadd) hremove

/-- The write of the fields returns what is stored afterwards. -/
theorem updateFields_populated {server : MongoServer}
    (hpopulated : Populated limit s) {conversationId : IdParam}
    {fields : ConversationFields} {updated : Option ConversationModel}
    (hupdate : s.updateFields server conversationId fields = (updated, t)) :
    Populated limit t ∧ ∀ model, updated = some model →
      t.conversations.get? model.id = some model.params := by
  rw [ConversationStore.updateFields] at hupdate
  split at hupdate
  · next id _ =>
      split at hupdate
      · cases hupdate
        exact ⟨hpopulated, by simp⟩
      · cases hupdate
        refine ⟨hpopulated.updateFields id fields, ?_⟩
        intro model hmodel
        obtain ⟨params, hparams, rfl⟩ := Option.map_eq_some_iff.1 hmodel
        exact hparams
  · cases hupdate
    exact ⟨hpopulated, by simp⟩

theorem edit_populated {config : ConversationConfig}
    (hpopulated : Populated config.maxParticipants s)
    {session : ConversationSession} {params : UpdateParams}
    (hexec : (ConversationOperations.edit config session params).exec s =
      (.ok (), t)) : Populated config.maxParticipants t := by
  rw [ConversationOperations.edit] at hexec
  obtain ⟨access, between, haccess, hrest⟩ := of_exec_bind_ok hexec
  rw [(readOnly_hasAccessToConversation config session _ _).eq_of_exec
    haccess] at hrest
  cases access with
  | none => cases hrest
  | some access =>
      dsimp only at hrest
      split at hrest
      · cases hrest
      · rw [ConversationOperations.editFields, exec_command_bind] at hrest
        rcases hupdate : s.updateFields config.server params.id
          params.fields with ⟨updated, after⟩
        obtain ⟨hafter, hstored⟩ := updateFields_populated hpopulated hupdate
        simp only [hupdate] at hrest
        cases updated with
        | none => cases hrest
        | some conversation =>
            dsimp only at hrest
            split at hrest
            · cases hrest
              exact hafter
            · exact editShared_populated hafter (hstored conversation rfl)
                hrest

/-! ### Leave, subscribe and unsubscribe -/

theorem delete_populated {config : ConversationConfig}
    (hpopulated : Populated config.maxParticipants s)
    {session : ConversationSession} {conversationId : IdParam}
    (hexec : (ConversationOperations.delete config session
      conversationId).exec s = (.ok (), t)) :
    Populated config.maxParticipants t := by
  rw [ConversationOperations.delete] at hexec
  obtain ⟨access, between, haccess, hrest⟩ := of_exec_bind_ok hexec
  cases access with
  | none => cases hrest
  | some access =>
      have hget := get?_of_hasAccessToConversation haccess
      rw [(readOnly_hasAccessToConversation config session _ _).eq_of_exec
        haccess] at hrest
      dsimp only at hrest
      split at hrest
      · obtain ⟨result, after, hremove, hevent⟩ := of_exec_bind_ok hrest
        rw [(readOnly_createUserEvent config session).eq_of_exec hevent]
        exact (removeParticipants_populated hpopulated hget hremove).1
      · cases hrest

theorem subscribe_populated {config : ConversationConfig}
    (hpopulated : Populated config.maxParticipants s)
    {session : ConversationSession} {conversationId : Option IdParam}
    (hexec : (ConversationOperations.subscribe config session
      conversationId).exec s = (.ok (), t)) :
    Populated config.maxParticipants t := by
  rw [ConversationOperations.subscribe] at hexec
  obtain ⟨conversation, between, hretrieve, hrest⟩ := of_exec_bind_ok hexec
  have hget := (get?_of_retrieveConversation hretrieve).1
  rw [(readOnly_retrieveConversation config session _).eq_of_exec hretrieve]
    at hrest
  obtain ⟨⟨added, updated⟩, after, hadd, hlast⟩ := of_exec_bind_ok hrest
  cases hlast
  have hids : [session.user] =
      [session.userId].map (fun id => IdParam.hex id true) := rfl
  rw [hids] at hadd
  exact (addParticipants_populated hpopulated hget hadd).1

theorem unsubscribe_populated {config : ConversationConfig}
    (hpopulated : Populated config.maxParticipants s)
    {session : ConversationSession} {conversationId : Option IdParam}
    (hexec : (ConversationOperations.unsubscribe config session
      conversationId).exec s = (.ok (), t)) :
    Populated config.maxParticipants t := by
  rw [ConversationOperations.unsubscribe] at hexec
  obtain ⟨conversation, between, hretrieve, hrest⟩ := of_exec_bind_ok hexec
  have hget := (get?_of_retrieveConversation hretrieve).1
  rw [(readOnly_retrieveConversation config session _).eq_of_exec hretrieve]
    at hrest
  obtain ⟨result, after, hremove, hlast⟩ := of_exec_bind_ok hrest
  cases hlast
  exact (removeParticipants_populated hpopulated hget hremove).1

/-! ### Runs -/

theorem perform_populated {config : ConversationConfig}
    (hpopulated : Populated config.maxParticipants s)
    {session : ConversationSession} {request : ConversationRequest}
    (hexec : (request.perform config session).exec s = (.ok (), t)) :
    Populated config.maxParticipants t := by
  unfold ConversationRequest.perform at hexec
  split at hexec
  · cases request with
    | create params =>
        obtain ⟨conversation, after, hcreate, hlast⟩ := of_exec_bind_ok hexec
        cases hlast
        exact create_request_populated hpopulated hcreate
    | update params => exact edit_populated hpopulated hexec
    | delete id => exact delete_populated hpopulated hexec
    | subscribe cid => exact subscribe_populated hpopulated hexec
    | unsubscribe cid => exact unsubscribe_populated hpopulated hexec
  · cases hexec

theorem step_populated {config : ConversationConfig}
    (hpopulated : Populated config.maxParticipants s)
    {event : ConversationEvent} (hsucceeds : s.succeeds config event = true) :
    Populated config.maxParticipants (s.step config event) := by
  cases event with
  | userCreated organizationId =>
      exact hpopulated.congr rfl (Nat.le_succ _) (fun _ => rfl)
  | userDeleted id =>
      exact hpopulated.congr rfl (Nat.le_refl _) (fun _ => rfl)
  | requested session request =>
      rw [succeeds] at hsucceeds
      rw [step]
      rcases hexec : (request.perform config session).exec s with
        ⟨result, after⟩
      rw [hexec] at hsucceeds
      cases result with
      | error error => cases hsucceeds
      | ok result => exact perform_populated hpopulated hexec

/-- Whether all events succeed, each in the store that the earlier ones
leave. -/
def allSucceed (config : ConversationConfig) :
    ConversationStore → List ConversationEvent → Bool
  | _, [] => true
  | s, event :: events =>
      s.succeeds config event && allSucceed config (s.step config event)
        events

theorem foldl_populated {config : ConversationConfig}
    (events : List ConversationEvent) (s : ConversationStore)
    (hpopulated : Populated config.maxParticipants s)
    (hsucceed : allSucceed config s events = true) :
    Populated config.maxParticipants (events.foldl (step config) s) := by
  induction events generalizing s with
  | nil => exact hpopulated
  | cons event events ih =>
      rw [allSucceed, Bool.and_eq_true] at hsucceed
      exact ih (s.step config event) (step_populated hpopulated hsucceed.1)
        hsucceed.2

/-- After a run of requests that succeed, every group and every channel has
one row for each participant, at least one and at most as many as the limit,
an owner among them, and a channel counts its rows. -/
theorem run_membership (config : ConversationConfig)
    (events : List ConversationEvent)
    (hsucceed : allSucceed config empty events = true) (id : ObjectId)
    (conversation : Conversation)
    (hget : (run config events).conversations.get? id = some conversation)
    (htype : conversation.type ≠ .u) :
    ((run config events).userIdsOf id).Nodup ∧
      1 ≤ ((run config events).rowsOf id).length ∧
      ((run config events).rowsOf id).length ≤ config.maxParticipants ∧
      conversation.ownerId ∈ (run config events).userIdsOf id ∧
      (conversation.type = .c → conversation.subscribersCount =
        .int ((run config events).rowsOf id).length) := by
  have hhealthy := (foldl_populated events empty populated_empty
    hsucceed).healthy id conversation hget htype
  have hlength : ((run config events).userIdsOf id).length =
      ((run config events).rowsOf id).length := by
    rw [userIdsOf, List.length_map]
  rw [← hlength]
  exact ⟨hhealthy.nodup, List.length_pos_of_mem hhealthy.owner,
    hhealthy.limit, hhealthy.owner, hhealthy.count⟩

/-- A channel of three users, whose owner leaves and comes back. -/
def channelRun : List ConversationEvent :=
  [.userCreated 9, .userCreated 9, .userCreated 9,
    .requested ⟨0, 9⟩ (.create ⟨.c, some "news", none, none, none,
      some [.hex 1 true, .hex 1 false, .text "bob"], none⟩),
    .requested ⟨2, 9⟩ (.subscribe (some (.hex 4 true))),
    .requested ⟨0, 9⟩ (.unsubscribe (some (.hex 4 true))),
    .requested ⟨0, 9⟩ (.subscribe (some (.hex 4 true)))]

theorem channelRun_membership :
    ∃ conversation, (run ⟨3, true, fun _ _ => true, .oldestFirst⟩
        channelRun).conversations.get? 4 = some conversation ∧
      conversation.ownerId ∈ (run ⟨3, true, fun _ _ => true, .oldestFirst⟩
        channelRun).userIdsOf 4 ∧
      conversation.subscribersCount = .int ((run ⟨3, true, fun _ _ => true,
        .oldestFirst⟩ channelRun).rowsOf 4).length := by
  have hsome : ∃ conversation, (run ⟨3, true, fun _ _ => true, .oldestFirst⟩
      channelRun).conversations.get? 4 = some conversation ∧
      conversation.type = .c :=
    ⟨_, by rfl, by decide +kernel⟩
  obtain ⟨conversation, hget, htype⟩ := hsome
  have hall := run_membership ⟨3, true, fun _ _ => true, .oldestFirst⟩
    channelRun (by decide +kernel) 4 conversation hget (by simp [htype])
  exact ⟨conversation, hget, hall.2.2.2.1, hall.2.2.2.2 htype⟩

end ConversationStore

end SamaServer
