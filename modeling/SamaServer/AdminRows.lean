/-
The rows of participants along every run, with requests that fail on the way.
No user id has two rows in a conversation, a value that is no id only gets
into a private conversation, and therefore owners and admins are user ids.
-/
import SamaServer.Membership
import SamaServer.Triples

namespace SamaServer

def StoredId.isId : StoredId → Bool
  | .id _ => true
  | .raw _ => false

namespace ConversationStore

open Fallible ConversationService

variable {s : ConversationStore} {c : ObjectId} {type : ConversationType}

/-- The conversation is a private one, or was one before it was deleted. -/
def PrivateAt (c : ObjectId) (s : ConversationStore) : Prop :=
  c < s.nextId ∧
    ∀ stored, s.conversations.get? c = some stored → stored.type = .u

/-- All participants of the conversation are user ids. -/
def HasIds (c : ObjectId) (s : ConversationStore) : Prop :=
  ∀ row ∈ s.participants, row.conversationId = c → row.userId.isId = true

structure Regular (s : ConversationStore) : Prop where
  once : s.participants.Pairwise (fun first second =>
    first.conversationId = second.conversationId →
      first.userId = second.userId → first.userId.isId = false)
  admins : ∀ row ∈ s.participants, row.role = some .admin →
    row.userId.isId = true
  raw : ∀ row ∈ s.participants, row.userId.isId = false →
    PrivateAt row.conversationId s
  owners : ∀ c stored, s.conversations.get? c = some stored →
    stored.ownerId.isId = true

/-- What a request may count on while it works on a conversation. -/
def Fits (type : ConversationType) (c : ObjectId) (s : ConversationStore) :
    Prop :=
  if type = .u then PrivateAt c s else HasIds c s

def Kept (type : ConversationType) (c : ObjectId) (s : ConversationStore) :
    Prop :=
  Regular s ∧ Fits type c s

theorem regular_empty : Regular empty where
  once := List.Pairwise.nil
  admins := by simp [empty]
  raw := by simp [empty]
  owners := by simp [empty]

/-- A conversation that is stored fits its type. -/
theorem Regular.kept {stored : Conversation} (hs : Regular s)
    (hget : s.conversations.get? c = some stored) :
    Kept stored.type c s := by
  refine ⟨hs, ?_⟩
  rw [Fits]
  split
  · next htype =>
      refine ⟨s.lt_nextId hget, ?_⟩
      intro other hother
      rw [hget, Option.some_inj] at hother
      rw [← hother]
      exact htype
  · next htype =>
      intro row hrow hc
      by_contra hraw
      have hprivate := hs.raw row hrow (by simpa using hraw)
      rw [hc] at hprivate
      exact htype (hprivate.2 stored hget)

/-! ### Writes -/

theorem PrivateAt.mono {t : ConversationStore} (hs : PrivateAt c s)
    (hnext : s.nextId ≤ t.nextId)
    (hget : ∀ stored, t.conversations.get? c = some stored →
      stored.type ≠ .u → ∃ old, s.conversations.get? c = some old ∧
        old.type ≠ .u) : PrivateAt c t := by
  refine ⟨Nat.lt_of_lt_of_le hs.1 hnext, ?_⟩
  intro stored hstored
  by_contra htype
  obtain ⟨old, hold, hnot⟩ := hget stored hstored htype
  exact hnot (hs.2 old hold)

theorem PrivateAt.addRow (hs : PrivateAt c s) (row : Participant) :
    PrivateAt c (s.addRow row) := by
  refine hs.mono (Nat.le_trans (Nat.le_succ _) (Nat.le_max_left _ _)) ?_
  intro stored hstored htype
  exact ⟨stored, hstored, htype⟩

theorem Regular.addRow (hs : Regular s) {row : Participant}
    (hnew : ∀ other ∈ s.participants,
      other.conversationId = row.conversationId →
        other.userId = row.userId → other.userId.isId = false)
    (hrole : row.role ≠ some .admin)
    (hraw : row.userId.isId = false → PrivateAt row.conversationId s) :
    Regular (s.addRow row) := by
  refine ⟨?_, ?_, ?_, hs.owners⟩
  · refine List.pairwise_append.2 ⟨hs.once, List.pairwise_singleton _ _, ?_⟩
    intro other hother last hlast
    rw [List.mem_singleton.1 hlast]
    exact hnew other hother
  · intro other hother hadmin
    rcases List.mem_append.1 hother with hold | hlast
    · exact hs.admins other hold hadmin
    · rw [List.mem_singleton.1 hlast] at hadmin
      exact absurd hadmin hrole
  · intro other hother hnot
    rcases List.mem_append.1 hother with hold | hlast
    · exact (hs.raw other hold hnot).addRow row
    · rw [List.mem_singleton.1 hlast] at hnot ⊢
      exact (hraw hnot).addRow row

/-- A row that is added to a conversation that it fits. -/
theorem Fits.addRow (hs : Fits type c s) {row : Participant}
    (hid : type ≠ .u → row.userId.isId = true) :
    Fits type c (s.addRow row) := by
  rw [Fits] at hs ⊢
  split at hs
  · next htype =>
      rw [if_pos htype]
      exact hs.addRow row
  · next htype =>
      rw [if_neg htype]
      intro other hother hc
      rcases List.mem_append.1 hother with hold | hlast
      · exact hs other hold hc
      · rw [List.mem_singleton.1 hlast]
        exact hid htype

theorem Kept.upsertParticipant (hs : Kept type c s) (server : MongoServer)
    {participantId : IdParam} {role : Option ParticipantRole}
    (hrole : role ≠ some .admin)
    (hid : type ≠ .u → ∃ id isLowerCase,
      participantId = .hex id isLowerCase) :
    Kept type c (s.upsertParticipant server c participantId role).2 := by
  have hcast : type ≠ .u →
      (participantId.castObjectId s.nextId).isId = true := by
    intro htype
    obtain ⟨id, isLowerCase, rfl⟩ := hid htype
    rfl
  rw [ConversationStore.upsertParticipant]
  split
  · exact hs
  · split
    · exact hs
    · next hnone =>
        refine ⟨hs.1.addRow ?_ hrole ?_, hs.2.addRow hcast⟩
        · intro other hother hsame huser
          cases hcasted : participantId.castObjectId s.nextId with
          | id id =>
              refine absurd (List.any_eq_true.2 ⟨other, hother, ?_⟩) hnone
              simpa [hcasted] using And.intro hsame (huser.trans hcasted).symm
          | raw value =>
              rw [huser, hcasted]
              rfl
        · intro hraw
          by_cases htype : type = .u
          · have hfits := hs.2
            rw [Fits, if_pos htype] at hfits
            exact hfits
          · rw [hcast htype] at hraw
            cases hraw

/-- Rows are dropped or get a role, and no conversation is touched.  In a
conversation with other values than ids no admin is made. -/
theorem Kept.rows (hs : Kept type c s) {rows : List Participant}
    (honce : rows.Pairwise (fun first second =>
      first.conversationId = second.conversationId →
        first.userId = second.userId → first.userId.isId = false))
    (hrows : ∀ row ∈ rows, ∃ old ∈ s.participants,
      row.conversationId = old.conversationId ∧ row.userId = old.userId ∧
        (row.role = some .admin → old.role = some .admin ∨
          old.userId.isId = true)) :
    Kept type c { s with participants := rows } := by
  refine ⟨⟨honce, ?_, ?_, hs.1.owners⟩, ?_⟩
  · intro row hrow hadmin
    obtain ⟨old, hold, _, huser, hrole⟩ := hrows row hrow
    rw [huser]
    rcases hrole hadmin with hrole | hid
    · exact hs.1.admins old hold hrole
    · exact hid
  · intro row hrow hraw
    obtain ⟨old, hold, hc, huser, _⟩ := hrows row hrow
    rw [huser] at hraw
    rw [hc]
    exact hs.1.raw old hold hraw
  · have hfits := hs.2
    rw [Fits] at hfits ⊢
    split at hfits
    · next htype =>
        rw [if_pos htype]
        exact hfits
    · next htype =>
        rw [if_neg htype]
        intro row hrow hc
        obtain ⟨old, hold, hsame, huser, _⟩ := hrows row hrow
        rw [huser]
        exact hfits old hold (hsame.symm.trans hc)

theorem Kept.dropRows (hs : Kept type c s) (id : ObjectId)
    (userId : StoredId) : Kept type c (s.dropRows id userId) := by
  refine hs.rows (hs.1.once.sublist List.filter_sublist) ?_
  intro row hrow
  exact ⟨row, (List.mem_filter.1 hrow).1, rfl, rfl, Or.inl⟩

theorem Kept.assignRole (hs : Kept type c s) (htype : type ≠ .u)
    (participantIds : List IdParam) (role : Option ParticipantRole) :
    Kept type c (s.assignRole c participantIds role) := by
  have hids := hs.2
  rw [Fits, if_neg htype] at hids
  refine hs.rows ?_ ?_
  · rw [List.pairwise_map]
    refine hs.1.once.imp ?_
    intro first second hfirst
    split
    · split
      · exact hfirst
      · exact hfirst
    · split
      · exact hfirst
      · exact hfirst
  · intro row hrow
    obtain ⟨old, hold, rfl⟩ := List.mem_map.1 hrow
    refine ⟨old, hold, ?_⟩
    split
    · next hmatched =>
        exact ⟨rfl, rfl, fun _ => Or.inr (hids old hold hmatched.1)⟩
    · exact ⟨rfl, rfl, Or.inl⟩

/-- Conversations are rewritten or deleted, with users as owners. -/
structure KeepsTypes (s : ConversationStore)
    (conversations : OrderedMap ObjectId Conversation) : Prop where
  below : ∀ id ∈ conversations.keys, id < s.nextId
  stored : ∀ id stored, conversations.get? id = some stored →
    stored.ownerId.isId = true ∧
      ∃ old, s.conversations.get? id = some old ∧ stored.type = old.type

section KeepsTypes

variable {conversations : OrderedMap ObjectId Conversation}
  (hkeeps : KeepsTypes s conversations)

include hkeeps

theorem PrivateAt.rewrite (hs : PrivateAt c s) :
    PrivateAt c { s with
      conversations := conversations
      conversations_below := hkeeps.below } := by
  refine hs.mono (Nat.le_refl _) ?_
  intro stored hget htype
  obtain ⟨_, old, hold, hsame⟩ := hkeeps.stored c stored hget
  exact ⟨old, hold, hsame ▸ htype⟩

theorem Regular.rewrite (hs : Regular s) :
    Regular { s with
      conversations := conversations
      conversations_below := hkeeps.below } where
  once := hs.once
  admins := hs.admins
  raw := fun row hrow hraw => (hs.raw row hrow hraw).rewrite hkeeps
  owners := fun id stored hget => (hkeeps.stored id stored hget).1

theorem Kept.rewrite (hs : Kept type c s) :
    Kept type c { s with
      conversations := conversations
      conversations_below := hkeeps.below } := by
  refine ⟨hs.1.rewrite hkeeps, ?_⟩
  have hfits := hs.2
  rw [Fits] at hfits ⊢
  split at hfits
  · next htype =>
      rw [if_pos htype]
      exact hfits.rewrite hkeeps
  · next htype =>
      rw [if_neg htype]
      exact hfits

end KeepsTypes

theorem Regular.keepsTypes_erase (hs : Regular s) (id : ObjectId) :
    KeepsTypes s (s.conversations.erase id) where
  below := (s.deleteConversation id).conversations_below
  stored := by
    intro other stored hget
    rw [OrderedMap.get?_erase] at hget
    split at hget
    · cases hget
    · exact ⟨hs.owners other stored hget, stored, hget, rfl⟩

theorem Regular.keepsTypes_modify (hs : Regular s) (id : ObjectId)
    {update : Conversation → Conversation}
    (htype : ∀ stored, (update stored).type = stored.type)
    (howner : ∀ stored, stored.ownerId.isId = true →
      (update stored).ownerId.isId = true) :
    KeepsTypes s (s.conversations.modify id update) where
  below := (s.updateConversation id update).conversations_below
  stored := by
    intro other stored hget
    rw [OrderedMap.get?_modify] at hget
    obtain ⟨old, hold, rfl⟩ := Option.map_eq_some_iff.1 hget
    have howned := hs.owners other old hold
    split
    · exact ⟨howner old howned, old, hold, htype old⟩
    · exact ⟨howned, old, hold, rfl⟩

theorem Kept.deleteConversation (hs : Kept type c s) (id : ObjectId) :
    Kept type c (s.deleteConversation id) :=
  hs.rewrite (hs.1.keepsTypes_erase id)

theorem Kept.updateConversation (hs : Kept type c s) (id : ObjectId)
    {update : Conversation → Conversation}
    (htype : ∀ stored, (update stored).type = stored.type)
    (howner : ∀ stored, stored.ownerId.isId = true →
      (update stored).ownerId.isId = true) :
    Kept type c (s.updateConversation id update) :=
  hs.rewrite (hs.1.keepsTypes_modify id htype howner)

/-- A new conversation fits its type, and no other is touched. -/
theorem Regular.insertConversation (hs : Regular s) {params : Conversation}
    (howner : params.ownerId.isId = true) :
    Kept params.type (s.conversationId params)
      (s.insertConversation params) := by
  have hlater : s.nextId ≤ s.conversationId params :=
    Nat.le_trans (Nat.le_succ s.nextId) (Nat.le_max_left _ _)
  have hget : (s.insertConversation params).conversations.get?
      (s.conversationId params) = some params := by
    simp [ConversationStore.insertConversation]
  refine Regular.kept ⟨hs.once, hs.admins, ?_, ?_⟩ hget
  · intro row hrow hraw
    have hold := hs.raw row hrow hraw
    have hne : row.conversationId ≠ s.conversationId params :=
      Nat.ne_of_lt (Nat.lt_of_lt_of_le hold.1 hlater)
    refine hold.mono (Nat.le_succ_of_le hlater) ?_
    intro stored hstored htype
    rw [ConversationStore.insertConversation, OrderedMap.get?_set,
      if_neg hne] at hstored
    exact ⟨stored, hstored, htype⟩
  · intro id stored hstored
    rw [ConversationStore.insertConversation, OrderedMap.get?_set] at hstored
    split at hstored
    · cases hstored
      exact howner
    · exact hs.owners id stored hstored

/-! ### The service -/

variable {config : ConversationConfig} {session : ConversationSession}

/-- A program that only reads keeps everything. -/
theorem kept_readOnly {A : Type} {program : ConversationProgram A}
    (hprogram : program.ReadOnly) :
    Triple (Kept type c) program (fun _ => Kept type c) Regular :=
  triple_readOnly hprogram (fun _ _ hs _ => hs) (fun _ hs => hs.1)

theorem regular_readOnly {A : Type} {program : ConversationProgram A}
    (hprogram : program.ReadOnly) :
    Triple Regular program (fun _ => Regular) Regular :=
  triple_readOnly hprogram (fun _ _ hs _ => hs) (fun _ hs => hs)

theorem kept_write (held : HeldConversation)
    {update : ConversationStore → ConversationStore}
    (hupdate : ∀ s, Kept type c s → Kept type c (update s)) :
    Triple (Kept type c) (write held update) (fun _ => Kept type c)
      Regular :=
  triple_command hupdate

theorem kept_addNoExistedParticipants (held : HeldConversation)
    {participantsParams : List (IdParam × Option ParticipantRole)}
    (hparams : ∀ participant ∈ participantsParams,
      participant.2 ≠ some .admin ∧ (type ≠ .u → ∃ id isLowerCase,
        participant.1 = .hex id isLowerCase)) :
    Triple (Kept type c)
      (addNoExistedParticipants config held c participantsParams)
      (fun _ => Kept type c) Regular := by
  induction participantsParams with
  | nil => exact triple_pure (fun _ hs => hs)
  | cons participant participantsParams ih =>
      obtain ⟨hfirst, hrest⟩ := List.forall_mem_cons.1 hparams
      refine triple_bind (Q := fun _ => Kept type c) ?_ (fun _ => ?_)
      · refine triple_command ?_
        intro s hs
        have hafter := hs.upsertParticipant config.server hfirst.1 hfirst.2
        split
        · exact hafter
        · exact hafter.1
      · exact triple_bind (ih hrest) (fun _ => triple_pure (fun _ hs => hs))

theorem kept_removeExistedParticipants (held : HeldConversation)
    (participantIds : List ObjectId) :
    Triple (Kept type c)
      (removeExistedParticipants held c participantIds)
      (fun _ => Kept type c) Regular := by
  induction participantIds with
  | nil => exact triple_pure (fun _ hs => hs)
  | cons participantId participantIds ih =>
      refine triple_bind (Q := fun _ => Kept type c) ?_ (fun _ => ?_)
      · exact triple_command (fun s hs => hs.dropRows c (.id participantId))
      · exact triple_bind ih (fun _ => triple_pure (fun _ hs => hs))

theorem kept_updateSubscribersCount (held : HeldConversation)
    (count : SubscribersCount) :
    Triple (Kept type c) (updateSubscribersCount held c count)
      (fun _ => Kept type c) Regular :=
  kept_write held (fun _ hs => hs.updateConversation c (fun _ => rfl)
    (fun _ howner => howner))

/-- The rows to write are for the users of the list, and no admins. -/
theorem createParticipantsParams_mem {conversation : ConversationModel}
    {participantIds : List IdParam}
    {participantsParams : List (IdParam × Option ParticipantRole)}
    (hparams : createParticipantsParams conversation participantIds =
      .ok participantsParams) :
    ∀ participant ∈ participantsParams,
      participant.1 ∈ participantIds ∧ participant.2 ≠ some .admin := by
  induction participantIds generalizing participantsParams with
  | nil =>
      cases hparams
      simp
  | cons participantId participantIds ih =>
      rw [createParticipantsParams, List.mapM_cons] at hparams
      cases hequals : participantId.isEqualsNativeIds
          conversation.params.ownerId.param with
      | error error =>
          rw [hequals] at hparams
          cases hparams
      | ok isOwner =>
          cases hrest : createParticipantsParams conversation
              participantIds with
          | error error =>
              rw [hequals, ← createParticipantsParams, hrest] at hparams
              cases hparams
          | ok rest =>
              rw [hequals, ← createParticipantsParams, hrest] at hparams
              cases hparams
              refine List.forall_mem_cons.2 ⟨⟨List.mem_cons_self, ?_⟩, ?_⟩
              · cases isOwner <;> simp
              · intro participant hparticipant
                obtain ⟨hmem, hrole⟩ := ih hrest participant hparticipant
                exact ⟨List.mem_cons_of_mem _ hmem, hrole⟩

theorem kept_currentParticipantsCount (conversation : ConversationModel)
    (isEmpty : Bool) :
    Triple (Kept type c) (currentParticipantsCount conversation isEmpty)
      (fun _ => Kept type c) Regular := by
  rw [currentParticipantsCount]
  split
  · exact triple_pure (fun _ hs => hs)
  · split
    · exact triple_pure (fun _ hs => hs)
    · exact kept_readOnly (readOnly_query _ _)

/-- An addition; a group or a channel only gets users. -/
theorem kept_addParticipants {conversation : ConversationModel}
    {participantIds : List IdParam}
    (hids : conversation.params.type ≠ .u → ∀ participantId ∈ participantIds,
      ∃ id isLowerCase, participantId = .hex id isLowerCase)
    (isEmpty : Bool) :
    Triple (Kept conversation.params.type conversation.id)
      (addParticipants config conversation participantIds isEmpty)
      (fun result s => Kept conversation.params.type conversation.id s ∧
        result.2.id = conversation.id ∧
        result.2.params.type = conversation.params.type) Regular := by
  refine triple_bind (kept_currentParticipantsCount conversation isEmpty)
    (fun currentCount => ?_)
  split
  · exact triple_throw (fun _ hs => hs.1)
  · refine triple_bind (triple_ofExcept (Q := fun participantsParams s =>
      (createParticipantsParams conversation participantIds =
        .ok participantsParams) ∧
          Kept conversation.params.type conversation.id s)
      (fun _ _ hs hparams => ⟨hparams, hs⟩) (fun _ hs => hs.1))
      (fun participantsParams => triple_and_pure (fun hparams => ?_))
    have hmem := createParticipantsParams_mem hparams
    refine triple_bind (kept_addNoExistedParticipants _ ?_) (fun _ => ?_)
    · intro participant hparticipant
      exact ⟨(hmem participant hparticipant).2, fun htype =>
        hids htype participant.1 (hmem participant hparticipant).1⟩
    · split
      · exact triple_bind (kept_updateSubscribersCount _ _)
          (fun _ => triple_pure (fun _ hs => ⟨hs, rfl, rfl⟩))
      · exact triple_pure (fun _ hs => ⟨hs, rfl, rfl⟩)

theorem kept_updateRemovedOwner {conversation : ConversationModel}
    (removedIds : List ObjectId) {userId : StoredId}
    (huser : conversation.params.type ≠ .u → userId.isId = true) :
    Triple (Kept conversation.params.type conversation.id)
      (updateRemovedOwner conversation removedIds userId)
      (fun _ => Kept conversation.params.type conversation.id) Regular := by
  rw [updateRemovedOwner]
  split
  · next hremoved =>
      refine triple_bind (kept_write _ ?_) (fun _ =>
        triple_pure (fun _ hs => hs))
      intro s hs
      exact hs.updateConversation conversation.id (fun _ => rfl)
        (fun _ _ => huser hremoved.2)
  · exact triple_pure (fun _ hs => hs)

theorem kept_removeParticipants (conversation : ConversationModel)
    (participantIds : List ObjectId) :
    Triple (Kept conversation.params.type conversation.id)
      (removeParticipants config conversation participantIds)
      (fun _ => Kept conversation.params.type conversation.id) Regular := by
  refine triple_bind (kept_removeExistedParticipants _ _)
    (fun removedIds => ?_)
  -- the participant that follows the owner is a row of the conversation
  refine triple_bind (Q := fun first s =>
    (∀ row, first = some row → conversation.params.type ≠ .u →
      row.userId.isId = true) ∧
    Kept conversation.params.type conversation.id s) ?_
    (fun first => triple_and_pure (fun hfirst => ?_))
  · refine triple_query ?_ (fun _ hs => hs.1)
    intro s first hs hanswer
    refine ⟨?_, hs⟩
    intro row hrow htype
    cases hanswer
    have hmem := config.server.pickParticipant.mem _ _ hrow
    have hids := hs.2
    rw [Fits, if_neg htype] at hids
    have hrowOf := List.mem_filter.1 (List.mem_filter.1 hmem).1
    exact hids row hrowOf.1 (of_decide_eq_true hrowOf.2)
  · cases first with
    | none =>
        exact triple_bind (kept_write _ (fun s hs =>
          hs.deleteConversation conversation.id)) (fun _ =>
            triple_pure (fun _ hs => hs))
    | some row =>
        refine triple_bind (kept_updateRemovedOwner removedIds
          (hfirst row rfl)) (fun _ => triple_bind ?_ (fun _ =>
            triple_pure (fun _ hs => hs)))
        rw [updateRemovedCount]
        split
        · exact kept_updateSubscribersCount _ _
        · exact triple_pure (fun _ hs => hs)

/-! ### Requests -/

theorem hex_of_mem {ids : List ObjectId} :
    ∀ participantId ∈ ids.map (fun id => IdParam.hex id true),
      ∃ id isLowerCase, participantId = IdParam.hex id isLowerCase := by
  intro participantId hmem
  obtain ⟨id, _, rfl⟩ := List.mem_map.1 hmem
  exact ⟨id, true, rfl⟩

theorem kept_updateParticipants (conversation : ConversationModel)
    (addIds removeIds : List ObjectId) :
    Triple (Kept conversation.params.type conversation.id)
      (updateParticipants config conversation
        (addIds.map (fun id => IdParam.hex id true)) removeIds)
      (fun _ => Kept conversation.params.type conversation.id) Regular := by
  refine triple_bind (kept_addParticipants (fun _ => hex_of_mem) false) ?_
  rintro ⟨addedIds, updated⟩
  refine Triple.weaken (P := fun s => (updated.id = conversation.id ∧
    updated.params.type = conversation.params.type) ∧
      Kept conversation.params.type conversation.id s)
    (triple_and_pure ?_) (fun _ hs => ⟨hs.2, hs.1⟩) (fun _ _ hs => hs)
  rintro ⟨hid, htype⟩
  rw [← hid, ← htype]
  exact triple_bind (kept_removeParticipants updated removeIds)
    (fun _ => triple_pure (fun _ hs => hs))

theorem kept_editParticipants (conversation : ConversationModel)
    (params : UpdateParams) (adminsToAdd : List ObjectId) :
    Triple (Kept conversation.params.type conversation.id)
      (ConversationOperations.editParticipants config conversation params
        adminsToAdd)
      (fun _ => Kept conversation.params.type conversation.id) Regular := by
  rw [ConversationOperations.editParticipants]
  split
  · refine triple_bind (kept_readOnly (readOnly_existedIds _ _ _))
      (fun addIds => ?_)
    refine triple_bind (kept_readOnly (readOnly_existedIds _ _ _))
      (fun removeIds => ?_)
    exact kept_updateParticipants conversation addIds removeIds
  · exact triple_pure (fun _ hs => hs)

theorem kept_updateRoles (htype : type ≠ .u) (ids : Option (List IdParam))
    (role : Option ParticipantRole) :
    Triple (Kept type c) (ConversationOperations.updateRoles c ids role)
      (fun _ => Kept type c) Regular := by
  rw [ConversationOperations.updateRoles]
  split
  · refine triple_command ?_
    intro s hs
    rw [setRole]
    by_cases hoperator : (ids.getD []).any
        (fun param => param.operator?.isSome) = true
    · rw [if_pos hoperator]
      exact hs.1
    · rw [if_neg hoperator]
      exact hs.assignRole htype _ role
  · exact triple_pure (fun _ hs => hs)

theorem kept_editShared {conversation : ConversationModel}
    (htype : conversation.params.type ≠ .u) (params : UpdateParams) :
    Triple (Kept conversation.params.type conversation.id)
      (ConversationOperations.editShared config session conversation params)
      (fun _ => Regular) Regular := by
  refine triple_bind (kept_readOnly (readOnly_existedIds _ _ _))
    (fun adminsToAdd => ?_)
  refine triple_bind (kept_editParticipants conversation params adminsToAdd)
    ?_
  rintro ⟨addedIds, removeResult⟩
  dsimp only
  split
  · exact triple_pure (fun _ hs => hs.1)
  · refine triple_bind (Q := fun _ => Kept conversation.params.type
      conversation.id) ?_ (fun _ => ?_)
    · exact triple_bind (kept_updateRoles htype _ _)
        (fun _ => kept_updateRoles htype _ _)
    · exact triple_readOnly (readOnly_editEvents _ _ _ _ _ _)
        (fun _ _ hs _ => hs.1) (fun _ hs => hs.1)

theorem Regular.updateFields (hs : Regular s) (server : MongoServer)
    (conversationId : IdParam) (fields : ConversationFields) :
    Regular (s.updateFields server conversationId fields).2 ∧
      ∀ conversation,
        (s.updateFields server conversationId fields).1 =
          some conversation →
        Kept conversation.params.type conversation.id
          (s.updateFields server conversationId fields).2 := by
  rw [ConversationStore.updateFields]
  split
  · next id _ =>
      split
      · exact ⟨hs, by simp⟩
      · have hafter := hs.rewrite (@keepsTypes_modify s hs id
          (fun stored => { stored with fields := stored.fields.set fields })
          (fun _ => rfl) (fun _ howner => howner))
        refine ⟨hafter, ?_⟩
        intro conversation hfound
        obtain ⟨stored, hget, rfl⟩ := Option.map_eq_some_iff.1 hfound
        exact hafter.kept hget
  · exact ⟨hs, by simp⟩

theorem regular_editFields (params : UpdateParams) :
    Triple Regular (ConversationOperations.editFields config session params)
      (fun _ => Regular) Regular := by
  refine triple_bind (Q := fun updated s => Regular s ∧
    ∀ conversation, updated = some conversation →
      Kept conversation.params.type conversation.id s) ?_ ?_
  · exact triple_command (fun s hs =>
      hs.updateFields config.server params.id params.fields)
  · intro updated
    cases updated with
    | none => exact triple_throw (fun _ hs => hs.1)
    | some conversation =>
        dsimp only
        split
        · exact triple_pure (fun _ hs => hs.1)
        · next htype =>
            exact (kept_editShared htype params).weaken
              (fun _ hs => hs.2 conversation rfl) (fun _ _ hs => hs)

/-- An access comes with a conversation that fits its type. -/
theorem regular_hasAccessToConversation (conversationId : IdParam)
    (isHeld : Bool) :
    Triple Regular
      (hasAccessToConversation config session conversationId isHeld)
      (fun access s => Regular s ∧ ∀ found, access = some found →
        Kept found.conversation.params.type found.conversation.id s)
      Regular := by
  refine triple_readOnly (readOnly_hasAccessToConversation _ _ _ _) ?_
    (fun _ hs => hs)
  intro s access hs hexec
  refine ⟨hs, ?_⟩
  intro found hfound
  rw [hfound] at hexec
  exact hs.kept (get?_of_hasAccessToConversation hexec)

theorem regular_edit (params : UpdateParams) :
    Triple Regular (ConversationOperations.edit config session params)
      (fun _ => Regular) Regular := by
  refine triple_bind (regular_hasAccessToConversation params.id false)
    (fun access => ?_)
  cases access with
  | none => exact triple_throw (fun _ hs => hs.1)
  | some found =>
      dsimp only
      split
      · exact triple_throw (fun _ hs => hs.1)
      · exact (regular_editFields params).weaken (fun _ hs => hs.1)
          (fun _ _ hs => hs)

theorem regular_delete (conversationId : IdParam) :
    Triple Regular
      (ConversationOperations.delete config session conversationId)
      (fun _ => Regular) Regular := by
  refine triple_bind (regular_hasAccessToConversation conversationId true)
    (fun access => ?_)
  cases access with
  | none => exact triple_throw (fun _ hs => hs.1)
  | some found =>
      dsimp only
      split
      · refine triple_bind ((kept_removeParticipants found.conversation
          [session.userId]).weaken (fun _ hs => hs.2 found rfl)
            (fun _ _ hs => hs.1)) (fun _ => ?_)
        exact regular_readOnly (readOnly_createUserEvent _ _)
      · exact triple_throw (fun _ hs => hs.1)

/-- A channel that is asked for. -/
theorem regular_retrieveConversation (conversationId : Option IdParam) :
    Triple Regular
      (ConversationOperations.retrieveConversation config session
        conversationId)
      (fun conversation s =>
        Kept conversation.params.type conversation.id s) Regular := by
  refine triple_readOnly (readOnly_retrieveConversation _ _ _) ?_
    (fun _ hs => hs)
  intro s conversation hs hexec
  exact hs.kept (get?_of_retrieveConversation hexec).1

theorem regular_subscribe (conversationId : Option IdParam) :
    Triple Regular
      (ConversationOperations.subscribe config session conversationId)
      (fun _ => Regular) Regular := by
  refine triple_bind (regular_retrieveConversation conversationId)
    (fun conversation => ?_)
  refine triple_bind (kept_addParticipants ?_ false) (fun _ =>
    triple_pure (fun _ hs => hs.1.1))
  intro _ participantId hparticipant
  exact ⟨session.userId, true, List.mem_singleton.1 hparticipant⟩

theorem regular_unsubscribe (conversationId : Option IdParam) :
    Triple Regular
      (ConversationOperations.unsubscribe config session conversationId)
      (fun _ => Regular) Regular := by
  refine triple_bind (regular_retrieveConversation conversationId)
    (fun conversation => ?_)
  exact triple_bind (kept_removeParticipants conversation [session.userId])
    (fun _ => triple_pure (fun _ hs => hs.1))

/-- The insert of a conversation, and then its participants. -/
theorem regular_create (user : User) {type : ConversationType}
    (fields : ConversationFields) (opponentId : Option IdParam)
    (isEncrypted : Option EncryptedFlag) {participantIds : List IdParam}
    (hids : type ≠ .u → ∀ participantId ∈ participantIds,
      ∃ id isLowerCase, participantId = .hex id isLowerCase) :
    Triple Regular
      (ConversationService.create config user type fields opponentId
        isEncrypted participantIds)
      (fun _ => Regular) Regular := by
  refine triple_bind (Q := fun conversation s =>
    conversation.params.type = type ∧
      Kept conversation.params.type conversation.id s) ?_
    (fun conversation => triple_and_pure (fun htype => ?_))
  · refine triple_command ?_
    intro s hs
    exact ⟨rfl, hs.insertConversation rfl⟩
  · split
    · refine triple_bind (kept_addParticipants ?_ true) (fun _ =>
        triple_pure (fun _ hs => hs.1.1))
      rw [htype]
      exact hids
    · exact triple_pure (fun _ hs => hs.1)

theorem regular_findOrCreatePrivateConversation (user : User)
    (params : CreateParams) (opponentId : IdParam) :
    Triple Regular
      (ConversationOperations.findOrCreatePrivateConversation config session
        user params opponentId)
      (fun _ => Regular) Regular := by
  refine triple_bind (Q := fun existed s => Regular s ∧
    ∀ conversation, existed = some conversation →
      conversation.params.type = .u ∧
        Kept conversation.params.type conversation.id s) ?_
    (fun existed => ?_)
  · refine triple_query ?_ (fun _ hs => hs)
    intro s existed hs hanswer
    refine ⟨hs, ?_⟩
    intro conversation hfound
    rw [hfound] at hanswer
    obtain ⟨hget, htype⟩ := get?_of_findExistedPrivateConversation hanswer
    exact ⟨htype, hs.kept hget⟩
  · cases existed with
    | none =>
        exact (regular_create user params.fields (some opponentId)
          params.isEncrypted (fun htype => absurd rfl htype)).weaken
            (fun _ hs => hs.1) (fun _ _ hs => hs)
    | some conversation =>
        refine Triple.weaken (P := fun s => conversation.params.type = .u ∧
          Kept conversation.params.type conversation.id s)
          (triple_and_pure (fun htype => ?_))
          (fun _ hs => hs.2 conversation rfl) (fun _ _ hs => hs)
        refine triple_bind (Q := fun _ => Regular) ?_ (fun _ =>
          triple_pure (fun _ hs => hs))
        exact triple_bind (kept_addParticipants
          (fun hnot => absurd htype hnot) false) (fun _ =>
            triple_pure (fun _ hs => hs.1.1))

theorem regular_createOfType (user : Option User) (params : CreateParams)
    (participantIds : List ObjectId) :
    Triple Regular
      (ConversationOperations.createOfType config session user params
        participantIds)
      (fun _ => Regular) Regular := by
  rw [ConversationOperations.createOfType]
  split
  · refine triple_bind (regular_readOnly
      (readOnly_validatePrivateConversationParticipant _ _ _ _))
      (fun opponentId => ?_)
    cases user with
    | none => exact triple_throw (fun _ hs => hs)
    | some user =>
        exact regular_findOrCreatePrivateConversation user params opponentId
  · rw [ConversationOperations.createSharedConversation.eq_def]
    dsimp only
    split
    · exact triple_throw (fun _ hs => hs)
    · cases user with
      | none => exact triple_throw (fun _ hs => hs)
      | some user =>
          refine triple_bind (regular_create user params.fields none
            params.isEncrypted (fun _ => hex_of_mem)) (fun _ => ?_)
          exact triple_bind (regular_readOnly (readOnly_addImageUrl _ _))
            (fun _ => triple_pure (fun _ hs => hs))

theorem regular_createRequest (params : CreateParams) :
    Triple Regular (ConversationOperations.create config session params)
      (fun _ => Regular) Regular := by
  refine triple_bind (regular_readOnly (readOnly_query _ _))
    (fun currentUser => ?_)
  refine triple_bind (regular_readOnly (readOnly_existedIds _ _ _))
    (fun participantIds => ?_)
  refine triple_bind (regular_createOfType currentUser params participantIds)
    (fun _ => ?_)
  exact triple_bind (regular_readOnly (readOnly_createUserEvent _ _))
    (fun _ => triple_pure (fun _ hs => hs))

theorem regular_perform (config : ConversationConfig)
    (session : ConversationSession) (request : ConversationRequest) :
    Triple Regular (request.perform config session) (fun _ => Regular)
      Regular := by
  rw [ConversationRequest.perform.eq_def]
  split
  · cases request with
    | create params =>
        exact triple_bind (regular_createRequest params) (fun _ =>
          triple_pure (fun _ hs => hs))
    | update params => exact regular_edit params
    | delete id => exact regular_delete id
    | subscribe cid => exact regular_subscribe cid
    | unsubscribe cid => exact regular_unsubscribe cid
  · exact triple_throw (fun _ hs => hs)

theorem Regular.step (hs : Regular s) (config : ConversationConfig)
    (event : ConversationEvent) : Regular (s.step config event) := by
  cases event with
  | userCreated organizationId =>
      refine ⟨hs.once, hs.admins, ?_, hs.owners⟩
      intro row hrow hraw
      refine (hs.raw row hrow hraw).mono (Nat.le_succ _) ?_
      intro stored hget htype
      exact ⟨stored, hget, htype⟩
  | userDeleted id => exact ⟨hs.once, hs.admins, hs.raw, hs.owners⟩
  | requested session request =>
      exact (regular_perform config session request).exec hs

/-- After every run rows and owners are regular. -/
theorem regular_run (config : ConversationConfig)
    (events : List ConversationEvent) : Regular (run config events) :=
  List.foldlRecOn events (step config) regular_empty
    (fun _ hs event _ => hs.step config event)

end ConversationStore

end SamaServer
