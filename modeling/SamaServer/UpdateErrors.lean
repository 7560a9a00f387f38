/-
Errors of update requests.  The fields are written first, then the
participants, then the roles of the admins; an error on the way leaves what
was written before it, unless all of that was in the store already.
-/
import SamaServer.CreateErrors
import SamaServer.ParticipantMoves

namespace SamaServer

namespace ConversationStore

open Fallible ConversationService

variable {s t r : ConversationStore} {config : ConversationConfig}
  {session : ConversationSession} {c : ObjectId}

/-! ### What an update asks for -/

/-- The users to add and to remove, when an update goes on to the
participants. -/
def editLists (s : ConversationStore) (organizationId : ObjectId)
    (params : UpdateParams) :
    Except ConversationError (Option (List ObjectId × List ObjectId)) :=
  match s.foundIds organizationId (params.admins.bind IdLists.add) with
  | .error error => .error error
  | .ok adminsToAdd =>
      if ConversationOperations.updatesParticipants params adminsToAdd then
        match s.foundIds organizationId
            (ConversationOperations.participantsToAdd params adminsToAdd),
          s.foundIds organizationId
            (params.fields.participants.bind IdLists.remove) with
        | .ok addIds, .ok removeIds => .ok (some (addIds, removeIds))
        | .ok _, .error error => .error error
        | .error error, _ => .error error
      else .ok none

/-- An update of a group or a channel that gets to its first write. -/
structure EditRequest (config : ConversationConfig)
    (session : ConversationSession) (s : ConversationStore)
    (params : UpdateParams) (c : ObjectId) (stored : Conversation) :
    Prop where
  accepted : params.isAccepted = true
  named : ∃ isLowerCase, params.id = .hex c isLowerCase
  found : s.conversations.get? c = some stored
  organization : stored.organizationId = session.organizationId
  allowed : stored.ownerId = .id session.userId ∨
    (s.findFirstConversationParticipant config.server c
      (some session.userId)).any (fun row => row.role = some .admin) = true
  written : config.server.rejectsFields params.fields = false
  type : stored.type ≠ .u

/-- Whether the participants to add are too many. -/
def reachesLimit (config : ConversationConfig) (s : ConversationStore)
    (c : ObjectId) (stored : Conversation)
    (lists : Option (List ObjectId × List ObjectId)) : Bool :=
  lists.any (fun (addIds, _) =>
    ((countBefore ⟨c, stored⟩ false s).plus addIds.length).exceeds
      config.maxParticipants)

/-- The participants are already as the lists want them.  The last two parts
say that the document needs no repair: the count of a channel is defined, and
an owner is not added only to be removed. -/
structure KeepsMembers (s : ConversationStore) (c : ObjectId)
    (stored : Conversation) (addIds removeIds : List ObjectId) : Prop where
  removed : ∀ id ∈ removeIds, StoredId.id id ∉ s.userIdsOf c
  added : ∀ id ∈ addIds, StoredId.id id ∈ s.userIdsOf c ∨ id ∈ removeIds
  owner : ∀ id ∈ addIds, StoredId.id id = stored.ownerId →
    StoredId.id id ∈ s.userIdsOf c
  count : stored.type = .c → stored.subscribersCount ≠ .undefined

/-- The role of a row after the two lists of admins. -/
def roleAfter (adds removes : List IdParam) (row : Participant) :
    Option ParticipantRole :=
  if row.userId ∈ removes.filterMap IdParam.queryId? then none
  else if row.userId ∈ adds.filterMap IdParam.queryId? then some .admin
  else row.role

/-- All that an update writes is in the store already; `removes` are the
admins that it gets to remove. -/
structure KeepsCollections (s : ConversationStore) (c : ObjectId)
    (stored : Conversation) (params : UpdateParams)
    (lists : Option (List ObjectId × List ObjectId))
    (removes : List IdParam) : Prop where
  fields : stored.fields.set params.fields = stored.fields
  members : ∀ addIds removeIds, lists = some (addIds, removeIds) →
    KeepsMembers s c stored addIds removeIds
  roles : ∀ row ∈ s.rowsOf c,
    roleAfter ((params.admins.bind IdLists.add).getD []) removes row =
      row.role

/-- The events of an update cannot be made: the file of the image is missing,
or the current user is and there is an event about the user. -/
def EventsFail (config : ConversationConfig) (session : ConversationSession)
    (s : ConversationStore) (c : ObjectId) (stored : Conversation)
    (params : UpdateParams)
    (lists : Option (List ObjectId × List ObjectId)) : Prop :=
  config.isEventsEnabled = true ∧
    ((stored.fields.set params.fields).imageObject.any (fun image =>
        ¬ config.hasFile stored.organizationId image.fileId) = true ∨
      s.findUserById session.userId = none ∧
        (ConversationOperations.needsCurrentUser params.fields [] [] = true ∨
          ∃ addIds removeIds, lists = some (addIds, removeIds) ∧
            ∃ id ∈ addIds, StoredId.id id ∉ s.userIdsOf c))

def hasOperator (ids : List IdParam) : Bool :=
  ids.any (fun param => param.operator?.isSome)

/-- An error after the write of the fields. -/
def EditFailsLate (config : ConversationConfig)
    (session : ConversationSession) (s : ConversationStore)
    (params : UpdateParams) (c : ObjectId) (stored : Conversation) : Prop :=
  let removes := (params.admins.bind IdLists.remove).getD []
  match s.editLists stored.organizationId params with
  | .error _ => stored.fields.set params.fields ≠ stored.fields
  | .ok lists =>
      if reachesLimit config s c stored lists then
        stored.fields.set params.fields ≠ stored.fields
      else
        ¬ Emptied s c lists ∧
          (hasOperator removes = true ∧
              ¬ KeepsCollections s c stored params lists [] ∨
            hasOperator removes = false ∧
              EventsFail config session s c stored params lists ∧
              ¬ KeepsCollections s c stored params lists removes)

/-- An update request whose error comes after a write that matters. -/
def UpdateFailsLate (config : ConversationConfig)
    (session : ConversationSession) (s : ConversationStore)
    (params : UpdateParams) : Prop :=
  ∃ c stored, EditRequest config session s params c stored ∧
    EditFailsLate config session s params c stored

/-! ### The request up to the first write -/

/-- The fields of a request in the document. -/
def withFields (s : ConversationStore) (c : ObjectId)
    (fields : ConversationFields) : ConversationStore :=
  s.updateConversation c (fun params =>
    { params with fields := params.fields.set fields })

/-- The document that the update goes on with. -/
def edited (c : ObjectId) (stored : Conversation)
    (fields : ConversationFields) : ConversationModel :=
  ⟨c, { stored with fields := stored.fields.set fields }⟩

theorem rewrites_withFields {stored : Conversation}
    (hget : s.conversations.get? c = some stored)
    (fields : ConversationFields) :
    Rewrites c stored (edited c stored fields).params s
      (s.withFields c fields) :=
  Rewrites.updateConversation hget (fun params =>
    { params with fields := params.fields.set fields })

/-- A conversation that is asked for by its id. -/
theorem findByIdWithOrgScope_hex (server : MongoServer)
    (s : ConversationStore) (organizationId c : ObjectId)
    (isLowerCase : Bool) :
    s.findByIdWithOrgScope server organizationId (.hex c isLowerCase) =
      .ok (match s.conversations.get? c with
        | some stored =>
            if stored.organizationId = organizationId then
              some ⟨c, stored⟩ else none
        | none => none) := by
  have hfind : s.findByIdWithOrgScope server organizationId
      (.hex c isLowerCase) = .ok (server.pickConversation.pick
        (s.models.filter (fun model =>
          model.params.organizationId = organizationId ∧
            server.matchesId (.id c) (.id model.id)))) := rfl
  rw [hfind]
  congr 1
  cases hpick : server.pickConversation.pick (s.models.filter (fun model =>
      model.params.organizationId = organizationId ∧
        server.matchesId (.id c) (.id model.id))) with
  | some model =>
      obtain ⟨hget, hmatch⟩ := get?_of_pick hpick
      rw [MongoServer.matchesId_id, decide_eq_true_eq, decide_eq_true_eq,
        StoredId.id.injEq] at hmatch
      obtain ⟨horganization, rfl⟩ := hmatch
      rw [hget]
      dsimp only
      rw [if_pos horganization]
  | none =>
      rw [Documents.Choice.pick_eq_none_iff] at hpick
      cases hget : s.conversations.get? c with
      | none => rfl
      | some stored =>
          dsimp only
          rw [if_neg]
          intro horganization
          have hmem : (⟨c, stored⟩ : ConversationModel) ∈
              s.models.filter (fun model =>
                model.params.organizationId = organizationId ∧
                  server.matchesId (.id c) (.id model.id)) := by
            rw [List.mem_filter, mem_models]
            exact ⟨hget, by simp [horganization]⟩
          rw [hpick] at hmem
          cases hmem

/-- A text that is no id names no conversation. -/
theorem findByIdWithOrgScope_text (server : MongoServer)
    (s : ConversationStore) (organizationId : ObjectId) (value : String) :
    s.findByIdWithOrgScope server organizationId (.text value) =
      .ok none := by
  have hempty : s.models.filter (fun model =>
      model.params.organizationId = organizationId ∧
        server.matchesId (.raw (.text value)) (.id model.id)) = [] := by
    rw [List.filter_eq_nil_iff]
    intro model _
    simp [MongoServer.matchesId, RawId.operator?]
  change Except.ok (server.pickConversation.pick
    (s.models.filter (fun model =>
      model.params.organizationId = organizationId ∧
        server.matchesId (.raw (.text value)) (.id model.id)))) = _
  rw [hempty, Documents.Choice.pick_nil]

/-- The access to a conversation that is stored in the organization. -/
def accessTo (config : ConversationConfig) (session : ConversationSession)
    (s : ConversationStore) (c : ObjectId) (stored : Conversation) :
    ConversationAccess :=
  let row := s.findFirstConversationParticipant config.server c
    (some session.userId)
  ⟨⟨c, stored⟩, row.isSome, stored.ownerId = .id session.userId,
    row.any (fun row => row.role = some .admin)⟩

theorem exec_hasAccessToConversation (config : ConversationConfig)
    {stored : Conversation} (hget : s.conversations.get? c = some stored)
    (horganization : stored.organizationId = session.organizationId)
    (isLowerCase isHeld : Bool) :
    (hasAccessToConversation config session (.hex c isLowerCase)
      isHeld).exec s = (.ok (some (accessTo config session s c stored)),
        s) := by
  rw [hasAccessToConversation, exec_query_bind, findByIdWithOrgScope_hex,
    hget]
  dsimp only
  rw [if_pos horganization]
  dsimp only
  rw [exec_query_bind]
  rfl

/-- The row that is found for the caller is one of the conversation. -/
theorem row_of_findFirst {server : MongoServer} {userId : ObjectId}
    {row : Participant} (hfound : s.findFirstConversationParticipant server c
      (some userId) = some row) :
    row ∈ s.rowsOf c ∧ row.userId = .id userId := by
  obtain ⟨hrow, huser⟩ :=
    List.mem_filter.1 (server.pickParticipant.mem _ _ hfound)
  exact ⟨hrow, by simpa using huser⟩

theorem admin_row {server : MongoServer} {userId : ObjectId}
    (hadmin : (s.findFirstConversationParticipant server c
      (some userId)).any (fun row => row.role = some .admin) = true) :
    ∃ row ∈ s.rowsOf c, row.userId = .id userId ∧
      row.role = some .admin := by
  obtain ⟨row, hfound, hrole⟩ := (Option.any_eq_true _ _).1 hadmin
  obtain ⟨hrow, huser⟩ := row_of_findFirst hfound
  exact ⟨row, hrow, huser, by simpa using hrole⟩

theorem exec_hasAccessToConversation_none {conversationId : IdParam}
    (hnone : s.findByIdWithOrgScope config.server session.organizationId
      conversationId = .ok none) (isHeld : Bool) :
    (hasAccessToConversation config session conversationId isHeld).exec s =
      (.ok none, s) := by
  rw [hasAccessToConversation, exec_query_bind, hnone]
  rfl

/-- The fields are written into a document that is stored. -/
theorem exec_editFields {params : UpdateParams} {stored : Conversation}
    {isLowerCase : Bool} (hid : params.id = .hex c isLowerCase)
    (hget : s.conversations.get? c = some stored) :
    (ConversationOperations.editFields config session params).exec s =
      if config.server.rejectsFields params.fields then (.error .typeError, s)
      else if stored.type = .u then (.ok (), s.withFields c params.fields)
      else (ConversationOperations.editShared config session
        (edited c stored params.fields) params).exec
          (s.withFields c params.fields) := by
  have hupdate : s.updateFields config.server params.id params.fields =
      if config.server.rejectsFields params.fields then (none, s)
      else (some (edited c stored params.fields),
        s.withFields c params.fields) := by
    rw [hid]
    change (if config.server.rejectsFields params.fields then (none, s)
      else (((s.withFields c params.fields).conversations.get? c).map
        (ConversationModel.mk c), s.withFields c params.fields)) = _
    rw [(rewrites_withFields hget params.fields).after]
    rfl
  rw [ConversationOperations.editFields, exec_command_bind]
  dsimp only
  rw [hupdate]
  by_cases hrejects : config.server.rejectsFields params.fields = true
  · rw [if_pos hrejects, if_pos hrejects]
    rfl
  · rw [if_neg hrejects, if_neg hrejects]
    dsimp only
    by_cases htype : stored.type = .u
    · rw [if_pos htype, if_pos (show (edited c stored
        params.fields).params.type = .u from htype)]
      rfl
    · rw [if_neg htype, if_neg (show ¬ (edited c stored
        params.fields).params.type = .u from htype)]

/-- Whether the access allows an update. -/
theorem exec_edit_of_found {params : UpdateParams} {stored : Conversation}
    {isLowerCase : Bool} (hid : params.id = .hex c isLowerCase)
    (hget : s.conversations.get? c = some stored)
    (horganization : stored.organizationId = session.organizationId) :
    (ConversationOperations.edit config session params).exec s =
      if stored.type ≠ .u ∧ ¬ (stored.ownerId = .id session.userId ∨
          (s.findFirstConversationParticipant config.server c
            (some session.userId)).any
              (fun row => row.role = some .admin) = true) then
        (.error (.cause .forbidden), s)
      else (ConversationOperations.editFields config session
        params).exec s := by
  have haccess := exec_hasAccessToConversation config hget
    horganization isLowerCase false
  rw [← hid] at haccess
  rw [ConversationOperations.edit, exec_bind_ok haccess]
  dsimp only
  have hasOwner : (accessTo config session s c stored).asOwner = true ↔
      stored.ownerId = .id session.userId := by
    simp [accessTo]
  have hasAdmin : (accessTo config session s c stored).asAdmin =
      (s.findFirstConversationParticipant config.server c
        (some session.userId)).any (fun row => row.role = some .admin) := rfl
  have htype : (accessTo config session s c stored).conversation.params.type
      = stored.type := rfl
  rw [htype, hasAdmin]
  simp only [hasOwner]
  split
  · rfl
  · rfl

/-- An update that gets to its first write goes on with the document it
wrote. -/
theorem EditRequest.exec_edit {params : UpdateParams} {stored : Conversation}
    (hrequest : EditRequest config session s params c stored) :
    (ConversationOperations.edit config session params).exec s =
      (ConversationOperations.editShared config session
        (edited c stored params.fields) params).exec
          (s.withFields c params.fields) := by
  obtain ⟨isLowerCase, hid⟩ := hrequest.named
  rw [exec_edit_of_found hid hrequest.found hrequest.organization,
    if_neg (fun hnot => hnot.2 hrequest.allowed),
    exec_editFields hid hrequest.found, hrequest.written, if_neg (by simp),
    if_neg hrequest.type]

/-- An update of a conversation that is not found. -/
theorem exec_edit_of_not_found {params : UpdateParams}
    (hnone : s.findByIdWithOrgScope config.server session.organizationId
      params.id = .ok none) :
    (ConversationOperations.edit config session params).exec s =
      (.error (.cause .badRequest), s) := by
  have haccess := exec_hasAccessToConversation_none hnone false
  rw [ConversationOperations.edit, exec_bind_ok haccess]
  rfl

/-- An update is refused without a write, or it is about a conversation of
the organization that is stored, and writes its fields. -/
theorem exec_edit_cases (config : ConversationConfig)
    (session : ConversationSession) (s : ConversationStore)
    {params : UpdateParams} (haccepted : params.isAccepted = true) :
    (∃ error, (ConversationOperations.edit config session params).exec s =
      (.error error, s)) ∨
    ∃ c stored isLowerCase, params.id = .hex c isLowerCase ∧
      s.conversations.get? c = some stored ∧
      stored.organizationId = session.organizationId ∧
      config.server.rejectsFields params.fields = false ∧
      (stored.type ≠ .u → stored.ownerId = .id session.userId ∨
        (s.findFirstConversationParticipant config.server c
          (some session.userId)).any
            (fun row => row.role = some .admin) = true) ∧
      (ConversationOperations.edit config session params).exec s =
        if stored.type = .u then (.ok (), s.withFields c params.fields)
        else (ConversationOperations.editShared config session
          (edited c stored params.fields) params).exec
            (s.withFields c params.fields) := by
  cases hid : params.id with
  | number isZero =>
      simp [UpdateParams.isAccepted, hid, IdParam.isText] at haccepted
  | object value =>
      simp [UpdateParams.isAccepted, hid, IdParam.isText] at haccepted
  | text value =>
      refine Or.inl ⟨_, exec_edit_of_not_found ?_⟩
      rw [hid]
      exact findByIdWithOrgScope_text config.server s _ value
  | hex c isLowerCase =>
      have hfind := findByIdWithOrgScope_hex config.server s
        session.organizationId c isLowerCase
      rw [← hid] at hfind
      cases hget : s.conversations.get? c with
      | none =>
          rw [hget] at hfind
          exact Or.inl ⟨_, exec_edit_of_not_found hfind⟩
      | some stored =>
          by_cases horganization :
              stored.organizationId = session.organizationId
          · rw [exec_edit_of_found hid hget horganization]
            split
            · exact Or.inl ⟨_, rfl⟩
            · next hallowed =>
                rw [exec_editFields hid hget]
                split
                · exact Or.inl ⟨_, rfl⟩
                · next hwritten =>
                    refine Or.inr ⟨c, stored, isLowerCase, rfl, hget,
                      horganization, by simpa using hwritten, ?_, rfl⟩
                    intro htype
                    by_contra hno
                    exact hallowed ⟨htype, hno⟩
          · rw [hget] at hfind
            dsimp only at hfind
            rw [if_neg horganization] at hfind
            exact Or.inl ⟨_, exec_edit_of_not_found hfind⟩

/-- Any other update ends well or before its first write. -/
theorem exec_edit_early {params : UpdateParams}
    (haccepted : params.isAccepted = true)
    (hnot : ∀ c stored, ¬ EditRequest config session s params c stored) :
    ∃ result after,
      (ConversationOperations.edit config session params).exec s =
        (result, after) ∧ (result = .ok () ∨ after = s) := by
  rcases exec_edit_cases config session s haccepted with
    ⟨error, hexec⟩ | ⟨c, stored, isLowerCase, hid, hget, horganization,
      hwritten, hallowed, hexec⟩
  · exact ⟨_, _, hexec, Or.inr rfl⟩
  · by_cases htype : stored.type = .u
    · rw [if_pos htype] at hexec
      exact ⟨_, _, hexec, Or.inl rfl⟩
    · exact absurd ⟨haccepted, ⟨isLowerCase, hid⟩, hget, horganization,
        hallowed htype, hwritten, htype⟩ (hnot c stored)

/-! ### Roles -/

/-- The rows after the two lists of admins. -/
def withRoles (s : ConversationStore) (c : ObjectId)
    (adds removes : List IdParam) : ConversationStore :=
  (s.assignRole c adds (some .admin)).assignRole c removes none

theorem exec_updateRoles (c : ObjectId) (ids : Option (List IdParam))
    (role : Option ParticipantRole) (s : ConversationStore) :
    (ConversationOperations.updateRoles c ids role).exec s =
      if hasOperator (ids.getD []) then (.error .databaseError, s)
      else (.ok (), s.assignRole c (ids.getD []) role) := by
  rw [ConversationOperations.updateRoles]
  split
  · rfl
  · next hfilled =>
      have hnil : ids.getD [] = [] := by
        cases ids with
        | none => rfl
        | some list => simpa [isFilled] using hfilled
      rw [hnil]
      simp [hasOperator, assignRole]

theorem exec_updateAdmins (c : ObjectId) (admins : IdLists)
    (hadds : hasOperator (admins.add.getD []) = false)
    (s : ConversationStore) :
    (ConversationOperations.updateAdmins c admins).exec s =
      if hasOperator (admins.remove.getD []) then
        (.error .databaseError, s.withRoles c (admins.add.getD []) [])
      else
        (.ok (), s.withRoles c (admins.add.getD [])
          (admins.remove.getD [])) := by
  have hadd := exec_updateRoles c admins.add (some .admin) s
  rw [hadds, if_neg (by simp)] at hadd
  rw [ConversationOperations.updateAdmins, exec_bind_ok hadd,
    exec_updateRoles]
  split
  · simp [withRoles, assignRole]
  · rfl

theorem participants_withRoles (s : ConversationStore) (c : ObjectId)
    (adds removes : List IdParam) :
    (s.withRoles c adds removes).participants =
      s.participants.map (fun row =>
        if row.conversationId = c then
          { row with role := roleAfter adds removes row }
        else row) := by
  simp only [withRoles, assignRole, List.map_map]
  apply List.map_congr_left
  intro row _
  by_cases hrow : row.conversationId = c
  · by_cases hadd : row.userId ∈ adds.filterMap IdParam.queryId?
    · by_cases hremove : row.userId ∈ removes.filterMap IdParam.queryId?
      · simp [Function.comp, roleAfter, hrow, hadd, hremove]
      · simp [Function.comp, roleAfter, hrow, hadd, hremove]
    · by_cases hremove : row.userId ∈ removes.filterMap IdParam.queryId?
      · simp [Function.comp, roleAfter, hrow, hadd, hremove]
      · simp [Function.comp, roleAfter, hadd, hremove]
  · simp [Function.comp, hrow]

theorem userIdsOf_withRoles (s : ConversationStore) (c : ObjectId)
    (adds removes : List IdParam) (other : ObjectId) :
    (s.withRoles c adds removes).userIdsOf other = s.userIdsOf other := by
  rw [withRoles, userIdsOf_assignRole, userIdsOf_assignRole]

/-- Roles that the rows have already change nothing. -/
theorem participants_withRoles_iff (s : ConversationStore) (c : ObjectId)
    (adds removes : List IdParam) :
    (s.withRoles c adds removes).participants = s.participants ↔
      ∀ row ∈ s.rowsOf c, roleAfter adds removes row = row.role := by
  rw [participants_withRoles]
  nth_rewrite 2 [← List.map_id s.participants]
  rw [List.map_inj_left]
  constructor
  · intro hall row hrow
    rw [rowsOf, List.mem_filter, decide_eq_true_eq] at hrow
    have hsame := hall row hrow.1
    rw [if_pos hrow.2] at hsame
    exact congrArg Participant.role hsame
  · intro hall row hrow
    split
    · next hown =>
        rw [hall row (List.mem_filter.2 ⟨hrow, decide_eq_true hown⟩)]
        rfl
    · rfl

/-! ### What the writes of an update leave -/

/-- The document after an update is as before exactly when its parts are. -/
theorem afterMoves_edited_eq_iff (stored : Conversation)
    (fields : ConversationFields) (added : List StoredId)
    (removed : List ObjectId) (userId : StoredId) :
    afterMoves (edited c stored fields).params added removed userId =
        stored ↔
      stored.fields.set fields = stored.fields ∧
      (if removed.any (fun id => StoredId.id id = stored.ownerId) then userId
        else stored.ownerId) = stored.ownerId ∧
      (if stored.type = .c then
        (stored.subscribersCount.plus added.length).minus removed.length
        else stored.subscribersCount) = stored.subscribersCount := by
  obtain ⟨organizationId, type, ownerId, opponentId, isEncrypted, old,
    count⟩ := stored
  simp only [afterMoves, edited, Conversation.mk.injEq, true_and]
  exact ⟨fun h => ⟨h.2.1, h.1, h.2.2⟩, fun h => ⟨h.2.1, h.1, h.2.2⟩⟩

/-- An update that stops right after its fields were written. -/
theorem sameCollections_fields_iff {stored : Conversation}
    (hget : s.conversations.get? c = some stored)
    (fields : ConversationFields) :
    SameCollections s (s.withFields c fields) ↔
      stored.fields.set fields = stored.fields := by
  have hdocument := (rewrites_withFields hget fields).conversations_eq_iff
  have hfields : (edited c stored fields).params = stored ↔
      stored.fields.set fields = stored.fields := by
    obtain ⟨organizationId, type, ownerId, opponentId, isEncrypted, old,
      count⟩ := stored
    simp [edited]
  constructor
  · exact fun hsame => hfields.1 (hdocument.1 hsame.conversations)
  · exact fun hsame => ⟨hdocument.2 (hfields.2 hsame), rfl⟩

/-- The store after the fields and the roles. -/
theorem sameCollections_withFields_iff {stored : Conversation}
    (hget : s.conversations.get? c = some stored) (params : UpdateParams)
    (removes : List IdParam) :
    SameCollections s ((s.withFields c params.fields).withRoles c
        ((params.admins.bind IdLists.add).getD []) removes) ↔
      KeepsCollections s c stored params none removes := by
  have hroles := participants_withRoles_iff (s.withFields c params.fields) c
    ((params.admins.bind IdLists.add).getD []) removes
  have hdocument := sameCollections_fields_iff hget params.fields
  constructor
  · rintro ⟨hconversations, hparticipants⟩
    exact ⟨hdocument.1 ⟨hconversations, rfl⟩, by simp,
      hroles.1 hparticipants⟩
  · rintro ⟨hsame, _, hkept⟩
    exact ⟨(hdocument.2 hsame).conversations, hroles.2 hkept⟩

/-- The store after the fields, the participants and the roles. -/
theorem sameCollections_moves_iff {stored : Conversation}
    (hget : s.conversations.get? c = some stored) (params : UpdateParams)
    (removes : List IdParam) {addIds removeIds removed : List ObjectId}
    {added : List StoredId} {userId : StoredId}
    (hmoves : Moves c addIds removeIds added removed
      (s.withFields c params.fields) t)
    (hrewrites : Rewrites c (edited c stored params.fields).params
      (afterMoves (edited c stored params.fields).params added removed userId)
      (s.withFields c params.fields) t)
    (huser : userId ∈ t.userIdsOf c) :
    SameCollections s (t.withRoles c
        ((params.admins.bind IdLists.add).getD []) removes) ↔
      KeepsCollections s c stored params (some (addIds, removeIds))
        removes := by
  have hroles := participants_withRoles_iff t c
    ((params.admins.bind IdLists.add).getD []) removes
  have hdocument := ((rewrites_withFields hget
    params.fields).trans hrewrites).conversations_eq_iff
  rw [afterMoves_edited_eq_iff] at hdocument
  constructor
  · rintro ⟨hconversations, hparticipants⟩
    have huserIds : t.userIdsOf c = s.userIdsOf c := by
      rw [← userIdsOf_withRoles t c
        ((params.admins.bind IdLists.add).getD []) removes, userIdsOf,
        rowsOf, hparticipants]
      rfl
    obtain ⟨hremoved, hadded⟩ := hmoves.of_userIds_eq huserIds
    have hrows := hmoves.participants_eq hremoved hadded
    obtain ⟨hfields, howner, hcount⟩ := hdocument.1 hconversations
    refine ⟨hfields, ?_, ?_⟩
    · intro _ _ hlists
      cases hlists
      refine ⟨hremoved, hadded,
        (hmoves.owner_eq_iff hremoved hadded stored.ownerId huser).1 howner,
        fun hchannel => ?_⟩
      rw [if_pos hchannel, hmoves.length_eq hremoved hadded,
        plus_minus_eq_iff] at hcount
      exact hcount
    · have hsame := hroles.1 (hparticipants.trans hrows.symm)
      rw [rowsOf, hrows] at hsame
      exact hsame
  · rintro ⟨hfields, hmembers, hkept⟩
    obtain ⟨hremoved, hadded, howner, hcount⟩ := hmembers addIds removeIds rfl
    have hrows := hmoves.participants_eq hremoved hadded
    constructor
    · refine hdocument.2 ⟨hfields,
        (hmoves.owner_eq_iff hremoved hadded stored.ownerId huser).2 howner,
        ?_⟩
      split
      · next hchannel =>
          rw [hmoves.length_eq hremoved hadded, plus_minus_eq_iff]
          exact hcount hchannel
      · rfl
    · have hsame : ∀ row ∈ t.rowsOf c, roleAfter
          ((params.admins.bind IdLists.add).getD []) removes row =
          row.role := by
        rw [rowsOf, hrows]
        exact hkept
      exact (hroles.2 hsame).trans hrows

/-! ### The lists and the events -/

theorem foundIds_congr (husers : t.users = s.users) :
    t.foundIds = s.foundIds := by
  funext organizationId ids
  simp only [foundIds, retrieveExistedIds, husers]

/-- The users of a list exist, and the list holds no operator. -/
theorem of_foundIds_ok {organizationId : ObjectId}
    {ids : Option (List IdParam)} {found : List ObjectId}
    (hfound : s.foundIds organizationId ids = .ok found) :
    (∀ id ∈ found, id ∈ s.users.keys) ∧ hasOperator (ids.getD []) = false := by
  rw [foundIds] at hfound
  split at hfound
  · rw [retrieveExistedIds] at hfound
    split at hfound
    · cases hfound
    · next hnone =>
        cases hfound
        constructor
        · intro id hid
          obtain ⟨entry, hentry, rfl⟩ := List.mem_map.1 hid
          exact List.mem_map_of_mem (List.mem_filter.1 hentry).1
        · simpa [hasOperator] using hnone
  · next hfilled =>
      cases hfound
      refine ⟨by simp, ?_⟩
      cases ids with
      | none => rfl
      | some list =>
          have hnil : list = [] := by simpa [isFilled] using hfilled
          rw [hnil]
          rfl

/-- What the lists of an update say about their users. -/
theorem of_editLists_some {organizationId : ObjectId}
    {params : UpdateParams} {addIds removeIds : List ObjectId}
    (hlists : s.editLists organizationId params =
      .ok (some (addIds, removeIds))) :
    (∀ id ∈ addIds, id ∈ s.users.keys) ∧
      (∀ id ∈ removeIds, id ∈ s.users.keys) ∧
      (removeIds ≠ [] → params.fields.participants.isSome = true) := by
  rw [editLists] at hlists
  split at hlists
  · cases hlists
  · split at hlists
    · split at hlists
      · next hadd hremove =>
          cases hlists
          refine ⟨(of_foundIds_ok hadd).1, (of_foundIds_ok hremove).1, ?_⟩
          intro hfilled
          cases hparticipants : params.fields.participants with
          | some lists => rfl
          | none =>
              rw [hparticipants] at hremove
              cases hremove
              exact absurd rfl hfilled
      · cases hlists
      · cases hlists
    · cases hlists

theorem hasOperator_of_editLists {organizationId : ObjectId}
    {params : UpdateParams} {lists : Option (List ObjectId × List ObjectId)}
    (hlists : s.editLists organizationId params = .ok lists) :
    hasOperator ((params.admins.bind IdLists.add).getD []) = false := by
  rw [editLists] at hlists
  split at hlists
  · cases hlists
  · next hadmins => exact (of_foundIds_ok hadmins).2

/-- The users of the events of an update are found, up to the current one. -/
theorem findsActionUsers_iff (session : ConversationSession)
    (fields : ConversationFields)
    {added : List StoredId} {removed : List ObjectId}
    (hadded : ∀ addedId ∈ added, ∃ id ∈ t.users.keys, addedId = .id id)
    (hremoved : ∀ id ∈ removed, id ∈ t.users.keys) :
    ConversationOperations.findsActionUsers session fields added removed t =
        true ↔
      ¬ (t.findUserById session.userId = none ∧
        ConversationOperations.needsCurrentUser fields added removed =
          true) := by
  have hfound : ∀ id ∈ removed, (t.findUserById id).isSome = true := by
    intro id hid
    obtain ⟨organization, hget⟩ :=
      (t.users.mem_keys_iff id).1 (hremoved id hid)
    simp [findUserById, hget]
  rw [ConversationOperations.findsActionUsers, decide_eq_true_eq]
  constructor
  · rintro ⟨huser, _⟩ ⟨hnone, hneeds⟩
    have hsome := huser hneeds
    rw [hnone] at hsome
    cases hsome
  · intro hnot
    refine ⟨fun hneeds => ?_, hadded, hfound⟩
    rw [Option.isSome_iff_ne_none]
    exact fun hnone => hnot ⟨hnone, hneeds⟩

/-- The events of an update fail when the file of the image is missing, or the
current user where an event is about the user. -/
theorem exec_editEvents (config : ConversationConfig)
    (session : ConversationSession) (conversation : ConversationModel)
    (params : UpdateParams) {added : List StoredId} {removed : List ObjectId}
    (hadded : ∀ addedId ∈ added, ∃ id ∈ t.users.keys, addedId = .id id)
    (hremoved : ∀ id ∈ removed, id ∈ t.users.keys) :
    ∃ result, (ConversationOperations.editEvents config session conversation
        params added removed).exec t = (result, t) ∧
      ((∃ error, result = .error error) ↔
        config.isEventsEnabled = true ∧
          (conversation.params.fields.imageObject.any (fun image =>
              ¬ config.hasFile conversation.params.organizationId
                image.fileId) = true ∨
            t.findUserById session.userId = none ∧
              ConversationOperations.needsCurrentUser params.fields added
                removed = true)) := by
  have hfinds := findsActionUsers_iff session params.fields hadded
    hremoved
  have himage := exec_addImageUrl config conversation t
  rw [ConversationOperations.editEvents]
  split
  · next henabled =>
      by_cases hmissing : conversation.params.fields.imageObject.any
          (fun image => ¬ config.hasFile conversation.params.organizationId
            image.fileId) = true
      · rw [if_pos hmissing] at himage
        rw [exec_bind_error himage]
        exact ⟨_, rfl, fun _ => ⟨henabled, Or.inl hmissing⟩,
          fun _ => ⟨_, rfl⟩⟩
      · rw [if_neg hmissing] at himage
        rw [exec_bind_ok himage, ConversationOperations.createActionEvents,
          exec_query]
        split
        · next hfound =>
            refine ⟨_, rfl, ?_, ?_⟩
            · rintro ⟨_, herror⟩
              cases herror
            · rintro ⟨_, hgone | huser⟩
              · exact absurd hgone hmissing
              · exact absurd huser (hfinds.1 hfound)
        · next hfound =>
            refine ⟨_, rfl, fun _ => ⟨henabled, Or.inr ?_⟩,
              fun _ => ⟨_, rfl⟩⟩
            by_contra hnot
            exact hfound (hfinds.2 hnot)
  · next henabled =>
      refine ⟨_, rfl, ?_, fun hfails => absurd hfails.1 henabled⟩
      rintro ⟨_, herror⟩
      cases herror

/-! ### The part after the fields -/

/-- The roles and the events, in the store that the participants leave. -/
theorem exec_admins_events (config : ConversationConfig)
    (session : ConversationSession) (conversation : ConversationModel)
    (params : UpdateParams) {added : List StoredId} {removed : List ObjectId}
    (hoperator : hasOperator
      ((params.admins.bind IdLists.add).getD []) = false)
    (hadded : ∀ addedId ∈ added, ∃ id ∈ t.users.keys, addedId = .id id)
    (hremoved : ∀ id ∈ removed, id ∈ t.users.keys) :
    ∃ result after,
      (do
        ConversationOperations.updateAdmins conversation.id
          (params.admins.getD ⟨none, none⟩)
        ConversationOperations.editEvents config session conversation params
          added removed : ConversationProgram Unit).exec t =
        (result, after) ∧
      (hasOperator ((params.admins.bind IdLists.remove).getD []) = true ∧
          (∃ error, result = .error error) ∧
          after = t.withRoles conversation.id
            ((params.admins.bind IdLists.add).getD []) [] ∨
        hasOperator ((params.admins.bind IdLists.remove).getD []) = false ∧
          after = t.withRoles conversation.id
            ((params.admins.bind IdLists.add).getD [])
            ((params.admins.bind IdLists.remove).getD []) ∧
          ((∃ error, result = .error error) ↔
            config.isEventsEnabled = true ∧
              (conversation.params.fields.imageObject.any (fun image =>
                  ¬ config.hasFile conversation.params.organizationId
                    image.fileId) = true ∨
                t.findUserById session.userId = none ∧
                  ConversationOperations.needsCurrentUser params.fields added
                    removed = true))) := by
  have hadds : (params.admins.getD ⟨none, none⟩).add.getD [] =
      (params.admins.bind IdLists.add).getD [] := by
    cases params.admins <;> rfl
  have hremoves : (params.admins.getD ⟨none, none⟩).remove.getD [] =
      (params.admins.bind IdLists.remove).getD [] := by
    cases params.admins <;> rfl
  have hexec := exec_updateAdmins conversation.id
    (params.admins.getD ⟨none, none⟩) (by rw [hadds]; exact hoperator) t
  rw [hadds, hremoves] at hexec
  cases hrefused : hasOperator
      ((params.admins.bind IdLists.remove).getD []) with
  | true =>
      rw [if_pos hrefused] at hexec
      rw [exec_bind_error hexec]
      exact ⟨_, _, rfl, Or.inl ⟨rfl, ⟨_, rfl⟩, rfl⟩⟩
  | false =>
      rw [hrefused, if_neg (by simp)] at hexec
      rw [exec_bind_ok hexec]
      obtain ⟨result, hevents, hiff⟩ := exec_editEvents config session
        conversation params (t := t.withRoles conversation.id
          ((params.admins.bind IdLists.add).getD [])
          ((params.admins.bind IdLists.remove).getD [])) hadded hremoved
      exact ⟨result, _, hevents, Or.inr ⟨rfl, rfl, hiff⟩⟩

theorem needsCurrentUser_iff (fields : ConversationFields)
    (added : List StoredId) (removed : List ObjectId) :
    ConversationOperations.needsCurrentUser fields added removed = true ↔
      ConversationOperations.needsCurrentUser fields [] [] = true ∨
        added ≠ [] ∨ removed ≠ [] := by
  simp only [ConversationOperations.needsCurrentUser, decide_eq_true_eq,
    ne_eq, not_true_eq_false, false_or]
  tauto

/-- The events after users came and went. -/
theorem eventsFail_moves_iff {stored : Conversation} {params : UpdateParams}
    {addIds removeIds removed : List ObjectId} {added : List StoredId}
    (hlists : s.editLists stored.organizationId params =
      .ok (some (addIds, removeIds)))
    (hmoves : Moves c addIds removeIds added removed
      (s.withFields c params.fields) t) :
    (config.isEventsEnabled = true ∧
      ((edited c stored params.fields).params.fields.imageObject.any
          (fun image => ¬ config.hasFile
            (edited c stored params.fields).params.organizationId
            image.fileId) = true ∨
        t.findUserById session.userId = none ∧
          ConversationOperations.needsCurrentUser params.fields added
            removed = true)) ↔
      EventsFail config session s c stored params
        (some (addIds, removeIds)) := by
  have husers : t.findUserById session.userId =
      s.findUserById session.userId := by
    rw [findUserById, hmoves.users]
    rfl
  have hadded : added ≠ [] ↔ ∃ addIds' removeIds',
      some (addIds, removeIds) = some (addIds', removeIds') ∧
        ∃ id ∈ addIds', StoredId.id id ∉ s.userIdsOf c := by
    constructor
    · intro hne
      obtain ⟨userId, huser⟩ := List.exists_mem_of_ne_nil added hne
      obtain ⟨hlisted, hnew⟩ := (hmoves.mem_added userId).1 huser
      obtain ⟨id, hid, rfl⟩ := List.mem_map.1 hlisted
      exact ⟨addIds, removeIds, rfl, id, hid, hnew⟩
    · rintro ⟨_, _, hsame, id, hid, hnew⟩
      cases hsame
      exact List.ne_nil_of_mem ((hmoves.mem_added (.id id)).2
        ⟨List.mem_map_of_mem hid, hnew⟩)
  have hremoved : removed ≠ [] →
      ConversationOperations.needsCurrentUser params.fields [] [] = true := by
    intro hne
    obtain ⟨id, hid⟩ := List.exists_mem_of_ne_nil removed hne
    have hlisted := ((hmoves.mem_removed id).1 hid).1
    have hsome := (of_editLists_some hlists).2.2 (List.ne_nil_of_mem hlisted)
    simp [ConversationOperations.needsCurrentUser, hsome]
  rw [EventsFail, husers, needsCurrentUser_iff, hadded]
  constructor
  · rintro ⟨henabled, himage | ⟨hnone, hneeds | hadd | hremove⟩⟩
    · exact ⟨henabled, Or.inl himage⟩
    · exact ⟨henabled, Or.inr ⟨hnone, Or.inl hneeds⟩⟩
    · exact ⟨henabled, Or.inr ⟨hnone, Or.inr hadd⟩⟩
    · exact ⟨henabled, Or.inr ⟨hnone, Or.inl (hremoved hremove)⟩⟩
  · rintro ⟨henabled, himage | ⟨hnone, hneeds | hadd⟩⟩
    · exact ⟨henabled, Or.inl himage⟩
    · exact ⟨henabled, Or.inr ⟨hnone, Or.inl hneeds⟩⟩
    · exact ⟨henabled, Or.inr ⟨hnone, Or.inr (Or.inl hadd)⟩⟩

theorem eventsFail_none_iff {stored : Conversation} {params : UpdateParams} :
    (config.isEventsEnabled = true ∧
      ((edited c stored params.fields).params.fields.imageObject.any
          (fun image => ¬ config.hasFile
            (edited c stored params.fields).params.organizationId
            image.fileId) = true ∨
        (s.withFields c params.fields).findUserById session.userId = none ∧
          ConversationOperations.needsCurrentUser params.fields [] [] =
            true)) ↔
      EventsFail config session s c stored params none := by
  have hnone : ¬ ∃ addIds removeIds : List ObjectId,
      (none : Option (List ObjectId × List ObjectId)) =
        some (addIds, removeIds) ∧
        ∃ id ∈ addIds, StoredId.id id ∉ s.userIdsOf c := by
    rintro ⟨_, _, hnone, _⟩
    cases hnone
  rw [EventsFail, or_iff_left hnone]
  rfl

/-- What follows the participants, when somebody stays. -/
theorem exec_editShared_rest (config : ConversationConfig)
    (session : ConversationSession) {stored : Conversation}
    {params : UpdateParams} {lists : Option (List ObjectId × List ObjectId)}
    (hoperator : hasOperator
      ((params.admins.bind IdLists.add).getD []) = false)
    (added : List StoredId) (removed : List ObjectId)
    (hadded : ∀ addedId ∈ added, ∃ id ∈ t.users.keys, addedId = .id id)
    (hremoved : ∀ id ∈ removed, id ∈ t.users.keys)
    (hevents : (config.isEventsEnabled = true ∧
      ((edited c stored params.fields).params.fields.imageObject.any
          (fun image => ¬ config.hasFile
            (edited c stored params.fields).params.organizationId
            image.fileId) = true ∨
        t.findUserById session.userId = none ∧
          ConversationOperations.needsCurrentUser params.fields added
            removed = true)) ↔
      EventsFail config session s c stored params lists)
    (hsame : ∀ removes, SameCollections s (t.withRoles c
        ((params.admins.bind IdLists.add).getD []) removes) ↔
      KeepsCollections s c stored params lists removes) :
    ∃ result after,
      (do
        ConversationOperations.updateAdmins (edited c stored
          params.fields).id (params.admins.getD ⟨none, none⟩)
        ConversationOperations.editEvents config session
          (edited c stored params.fields) params added
          removed : ConversationProgram Unit).exec t = (result, after) ∧
      (((∃ error, result = .error error) ∧ ¬ SameCollections s after) ↔
        hasOperator ((params.admins.bind IdLists.remove).getD []) = true ∧
            ¬ KeepsCollections s c stored params lists [] ∨
          hasOperator ((params.admins.bind IdLists.remove).getD []) = false ∧
            EventsFail config session s c stored params lists ∧
            ¬ KeepsCollections s c stored params lists
              ((params.admins.bind IdLists.remove).getD [])) := by
  obtain ⟨result, after, hexec, hcases⟩ := exec_admins_events
    config session (edited c stored params.fields) params hoperator hadded
    hremoved
  refine ⟨result, after, hexec, ?_⟩
  rcases hcases with ⟨hrefused, herror, rfl⟩ | ⟨haccepted, rfl, hiff⟩
  · have hkeeps := hsame []
    rw [show (edited c stored params.fields).id = c from rfl, hkeeps]
    simp [hrefused, herror]
  · have hkeeps := hsame ((params.admins.bind IdLists.remove).getD [])
    rw [show (edited c stored params.fields).id = c from rfl, hkeeps, hiff,
      hevents]
    simp [haccepted]

/-- The lists are read before the participants are touched. -/
theorem exec_editParticipants (config : ConversationConfig)
    {conversation : ConversationModel} {params : UpdateParams}
    {adminsToAdd : List ObjectId}
    (hadmins : s.foundIds conversation.params.organizationId
      (params.admins.bind IdLists.add) = .ok adminsToAdd) :
    (ConversationOperations.editParticipants config conversation params
      adminsToAdd).exec s =
      match s.editLists conversation.params.organizationId params with
      | .error error => (.error error, s)
      | .ok none => (.ok ([], ⟨[], none, false⟩), s)
      | .ok (some (addIds, removeIds)) =>
          (updateParticipants config conversation
            (addIds.map (fun id => IdParam.hex id true)) removeIds).exec
              s := by
  rw [ConversationOperations.editParticipants, editLists, hadmins]
  dsimp only
  split
  · rw [exec_bind, exec_existedIds]
    cases s.foundIds conversation.params.organizationId
      (ConversationOperations.participantsToAdd params adminsToAdd) with
    | error error => rfl
    | ok addIds =>
        dsimp only
        rw [exec_bind, exec_existedIds]
        cases s.foundIds conversation.params.organizationId
          (params.fields.participants.bind IdLists.remove) with
        | error error => rfl
        | ok removeIds => rfl
  · rfl

/-- The outcome of an update whose lists are within the limit. -/
theorem exec_editShared_moved {stored : Conversation}
    {params : UpdateParams} (hget : s.conversations.get? c = some stored)
    (htype : stored.type ≠ .u) {adminsToAdd addIds removeIds : List ObjectId}
    (hlists : s.editLists stored.organizationId params =
      .ok (some (addIds, removeIds)))
    (hparticipants : (ConversationOperations.editParticipants config
      (edited c stored params.fields) params adminsToAdd).exec
        (s.withFields c params.fields) =
      (updateParticipants config (edited c stored params.fields)
        (addIds.map (fun id => IdParam.hex id true)) removeIds).exec
          (s.withFields c params.fields))
    (hlimit : ((countBefore (edited c stored params.fields) false
      (s.withFields c params.fields)).plus addIds.length).exceeds
        config.maxParticipants = false) :
    ∃ result after,
      (do
        let (addedIds, removeResult) ←
          ConversationOperations.editParticipants config
            (edited c stored params.fields) params adminsToAdd
        if removeResult.isEmptyAndDeleted then pure ()
        else do
          ConversationOperations.updateAdmins (edited c stored
            params.fields).id (params.admins.getD ⟨none, none⟩)
          ConversationOperations.editEvents config session
            (edited c stored params.fields) params addedIds
            removeResult.removedIds : ConversationProgram Unit).exec
              (s.withFields c params.fields) = (result, after) ∧
      (((∃ error, result = .error error) ∧ ¬ SameCollections s after) ↔
        ¬ Emptied s c (some (addIds, removeIds)) ∧
          (hasOperator ((params.admins.bind IdLists.remove).getD []) = true ∧
              ¬ KeepsCollections s c stored params
                (some (addIds, removeIds)) [] ∨
            hasOperator ((params.admins.bind IdLists.remove).getD []) =
                false ∧
              EventsFail config session s c stored params
                (some (addIds, removeIds)) ∧
              ¬ KeepsCollections s c stored params (some (addIds, removeIds))
                ((params.admins.bind IdLists.remove).getD []))) := by
  obtain ⟨added, removed, newOwnerId, after, hmoves, hcases⟩ :=
    exec_updateParticipants config
      (rewrites_withFields hget params.fields).after
      (show (edited c stored params.fields).params.type ≠ .u from htype)
      addIds removeIds hlimit
  rw [show (edited c stored params.fields).id = c from rfl] at hmoves hcases
  have hempty : after.userIdsOf c = [] ↔
      Emptied s c (some (addIds, removeIds)) := hmoves.userIds_eq_nil_iff
  rcases hcases with ⟨hnobody, hdeleted⟩ | ⟨userId, huser, hrewrites, hkept⟩
  · rw [exec_bind_ok (hparticipants.trans hdeleted)]
    refine ⟨_, _, rfl, ?_⟩
    have hemptied := hempty.1 hnobody
    simp [hemptied]
  · rw [exec_bind_ok (hparticipants.trans hkept)]
    have hstays : ¬ Emptied s c (some (addIds, removeIds)) := by
      rw [← hempty]
      exact List.ne_nil_of_mem huser
    obtain ⟨haddIds, hremoveIds, _⟩ := of_editLists_some hlists
    have husers : after.users = s.users := hmoves.users
    obtain ⟨result, last, hexec, hiff⟩ := exec_editShared_rest
      config session (hasOperator_of_editLists hlists) added removed (by
        intro addedId hadded
        obtain ⟨id, hid, rfl⟩ :=
          List.mem_map.1 ((hmoves.mem_added addedId).1 hadded).1
        rw [husers]
        exact ⟨id, haddIds id hid, rfl⟩) (by
        intro id hid
        rw [husers]
        exact hremoveIds id ((hmoves.mem_removed id).1 hid).1)
      (eventsFail_moves_iff hlists hmoves)
      (fun removes => sameCollections_moves_iff hget params removes hmoves
        hrewrites huser)
    refine ⟨result, last, hexec, ?_⟩
    rw [hiff]
    simp only [hstays, not_false_eq_true, true_and]

/-- The outcome of an update after its fields were written. -/
theorem exec_editShared_outcome (config : ConversationConfig)
    (session : ConversationSession) (params : UpdateParams)
    {stored : Conversation} (hget : s.conversations.get? c = some stored)
    (htype : stored.type ≠ .u) :
    ∃ result after,
      (ConversationOperations.editShared config session
        (edited c stored params.fields) params).exec
          (s.withFields c params.fields) = (result, after) ∧
      (((∃ error, result = .error error) ∧ ¬ SameCollections s after) ↔
        EditFailsLate config session s params c stored) := by
  have hfields := sameCollections_fields_iff hget params.fields
  have husers : (s.withFields c params.fields).foundIds = s.foundIds :=
    foundIds_congr rfl
  have hlistsSame : (s.withFields c params.fields).editLists
      stored.organizationId params =
      s.editLists stored.organizationId params := by
    rw [editLists, editLists, husers]
  unfold ConversationOperations.editShared EditFailsLate
  rw [exec_bind, exec_existedIds, husers]
  cases hadmins : s.foundIds stored.organizationId
      (params.admins.bind IdLists.add) with
  | error error =>
      have hlists : s.editLists stored.organizationId params =
          .error error := by
        rw [editLists, hadmins]
      have hadmins' : s.foundIds (edited c stored
          params.fields).params.organizationId
          (params.admins.bind IdLists.add) = .error error := hadmins
      rw [hadmins', hlists]
      refine ⟨_, _, rfl, ?_⟩
      rw [hfields]
      simp
  | ok adminsToAdd =>
      have hadmins' : (s.withFields c params.fields).foundIds (edited c stored
          params.fields).params.organizationId
          (params.admins.bind IdLists.add) = .ok adminsToAdd := by
        rw [husers]
        exact hadmins
      have hparticipants := exec_editParticipants config hadmins'
      rw [show (s.withFields c params.fields).editLists (edited c stored
        params.fields).params.organizationId params =
        s.editLists stored.organizationId params from hlistsSame]
        at hparticipants
      rw [← husers, hadmins']
      dsimp only
      cases hlists : s.editLists stored.organizationId params with
      | error error =>
          rw [hlists] at hparticipants
          rw [exec_bind_error hparticipants]
          refine ⟨_, _, rfl, ?_⟩
          rw [hfields]
          simp
      | ok lists =>
          have hoperator := hasOperator_of_editLists hlists
          rw [hlists] at hparticipants
          cases lists with
          | none =>
              rw [exec_bind_ok hparticipants]
              have hnot : ¬ Emptied s c none := by
                rintro ⟨_, _, hnone, _⟩
                cases hnone
              obtain ⟨result, after, hexec, hiff⟩ :=
                exec_editShared_rest config session hoperator [] []
                  (by simp) (by simp) eventsFail_none_iff
                  (sameCollections_withFields_iff hget params)
              refine ⟨result, after, hexec, ?_⟩
              rw [hiff]
              change _ ↔ ¬ Emptied s c none ∧ _
              simp only [hnot, not_false_eq_true, true_and]
          | some lists =>
              obtain ⟨addIds, removeIds⟩ := lists
              have hcount : countBefore (edited c stored params.fields) false
                  (s.withFields c params.fields) =
                  countBefore ⟨c, stored⟩ false s := rfl
              have hreaches : reachesLimit config s c stored
                  (some (addIds, removeIds)) =
                  ((countBefore ⟨c, stored⟩ false s).plus
                    addIds.length).exceeds config.maxParticipants := rfl
              dsimp only at hparticipants ⊢
              cases hlimit : ((countBefore ⟨c, stored⟩ false s).plus
                  addIds.length).exceeds config.maxParticipants with
              | true =>
                  rw [hreaches, hlimit, if_pos rfl]
                  have hover := exec_addParticipants_limit config
                    (edited c stored params.fields)
                    (addIds.map (fun id => IdParam.hex id true)) false
                    (s.withFields c params.fields) (by
                      rw [hcount, List.length_map]
                      exact hlimit)
                  unfold updateParticipants at hparticipants
                  rw [exec_bind_error hover] at hparticipants
                  rw [exec_bind_error hparticipants]
                  refine ⟨_, _, rfl, ?_⟩
                  rw [hfields]
                  simp
              | false =>
                  rw [hreaches, hlimit, if_neg (by simp)]
                  exact exec_editShared_moved hget htype hlists hparticipants
                    (by rw [hcount]; exact hlimit)

/-! ### The requests -/

theorem errorsKeep_update_of_exec {params : UpdateParams}
    (haccepted : params.isAccepted = true)
    {result : Except ConversationError Unit}
    (hexec : (ConversationOperations.edit config session params).exec s =
      (result, t)) :
    ErrorsKeep config session s (.update params) ↔
      ¬ ((∃ error, result = .error error) ∧ ¬ SameCollections s t) := by
  have hperform : (ConversationRequest.perform config session
      (.update params)).exec s = (result, t) := by
    unfold ConversationRequest.perform
    rw [if_pos (show ConversationRequest.isAccepted config (.update params) =
      true from haccepted)]
    exact hexec
  rw [ErrorsKeep, hperform]
  cases result with
  | ok result => simp
  | error error => simp

/-- The errors of an update request leave the collections as they were exactly
when none of them comes after a write that changes something. -/
theorem errorsKeep_update_iff (config : ConversationConfig)
    (session : ConversationSession) (s : ConversationStore)
    (params : UpdateParams) :
    ErrorsKeep config session s (.update params) ↔
      ¬ UpdateFailsLate config session s params := by
  have hrequest : ∀ c stored,
      EditRequest config session s params c stored →
      (ErrorsKeep config session s (.update params) ↔
        ¬ EditFailsLate config session s params c stored) := by
    intro c stored hrequest
    obtain ⟨result, after, hexec, hiff⟩ := exec_editShared_outcome
      config session params hrequest.found hrequest.type
    rw [errorsKeep_update_of_exec hrequest.accepted
      (hrequest.exec_edit.trans hexec), hiff]
  constructor
  · rintro hkeep ⟨c, stored, hedit, hlate⟩
    exact (hrequest c stored hedit).1 hkeep hlate
  · intro hnot
    by_cases haccepted : params.isAccepted = true
    · by_cases hedit : ∃ c stored,
          EditRequest config session s params c stored
      · obtain ⟨c, stored, hedit⟩ := hedit
        rw [hrequest c stored hedit]
        exact fun hlate => hnot ⟨c, stored, hedit, hlate⟩
      · obtain ⟨result, after, hexec, hearly⟩ := exec_edit_early haccepted
          (fun c stored hfound => hedit ⟨c, stored, hfound⟩)
        rw [errorsKeep_update_of_exec haccepted hexec]
        rintro ⟨⟨error, rfl⟩, hchanged⟩
        rcases hearly with hok | rfl
        · cases hok
        · exact hchanged (.refl _)
    · exact errorsKeep_of_not_accepted haccepted

/-- In every state, the errors of create and of update requests leave the
collections as they were exactly when none of them comes after a write that
changes something. -/
theorem errorsKeep_iff (config : ConversationConfig)
    (session : ConversationSession) (s : ConversationStore) :
    (∀ params, ErrorsKeep config session s (.create params) ↔
        ¬ CreateFailsLate config session s params) ∧
      ∀ params, ErrorsKeep config session s (.update params) ↔
        ¬ UpdateFailsLate config session s params :=
  ⟨errorsKeep_create_iff config session s,
    errorsKeep_update_iff config session s⟩

/-- The request for a group of as many participants as the schema allows, made
by a user who is not among them. -/
def fullGroup : ConversationRequest :=
  .create ⟨.g, some "team", none, none, none,
    some [.hex 1 true, .hex 2 true], none⟩

/-- The limit is noticed after the insert: the group stays, without
participants. -/
theorem fullGroup_stays :
    fullGroup.isAccepted ⟨2, false, fun _ _ => true, .oldestFirst⟩ = true ∧
      ¬ ErrorsKeep ⟨2, false, fun _ _ => true, .oldestFirst⟩ ⟨0, 9⟩
        (run ⟨2, false, fun _ _ => true, .oldestFirst⟩
          [.userCreated 9, .userCreated 9, .userCreated 9])
        fullGroup := by
  refine ⟨by decide, fun hkeep => ?_⟩
  have hsame := (hkeep (.cause .participantsLimit) _ rfl).conversations
  have hget := congrArg (fun conversations => conversations.keys) hsame
  exact absurd hget (by decide)

end ConversationStore

end SamaServer
