/-
Requests on a channel that overlap.  Every request computes the count it
writes from the one it has read, so the count is right in the end when no
request changes the channel while another one is between its read and its
write; two subscriptions that overlap lose an update.
-/
import SamaServer.ChannelCount

namespace SamaServer

/-- The requests on a channel that is there. -/
inductive ChannelRequest
  | update (params : UpdateParams)
  | leave (id : IdParam)
  | subscribe (cid : Option IdParam)
  | unsubscribe (cid : Option IdParam)
deriving DecidableEq

def ChannelRequest.request : ChannelRequest → ConversationRequest
  | update params => .update params
  | leave id => .delete id
  | subscribe cid => .subscribe cid
  | unsubscribe cid => .unsubscribe cid

abbrev ChannelTask := Task (ConversationSession × ChannelRequest)
  HeldConversation ConversationStore

/-- A request in flight; its result goes back to the client. -/
def ChannelRequest.task (config : ConversationConfig)
    (session : ConversationSession) (request : ChannelRequest) :
    ChannelTask :=
  ⟨(session, request),
    Async.bind (request.request.perform config session)
      (fun _ => .done ())⟩

/-- A request comes in, or one of the requests in flight takes its next
step. -/
inductive ChannelEvent
  | received (session : ConversationSession) (request : ChannelRequest)
  | resumed (index : Nat)
deriving DecidableEq

def ChannelEvent.event (config : ConversationConfig) : ChannelEvent →
    Event (ConversationSession × ChannelRequest) HeldConversation
      ConversationStore
  | received session request => .spawn (request.task config session)
  | resumed index => .tick index

namespace ConversationStore

open Fallible ConversationService

variable {s t : ConversationStore} {config : ConversationConfig}
  {session : ConversationSession} {c : ObjectId} {limit : Nat}

/-- The service after a run of events. -/
def interleave (config : ConversationConfig) (s : ConversationStore)
    (events : List ChannelEvent) :
    System (ConversationSession × ChannelRequest) HeldConversation
      ConversationStore :=
  (System.start s).run (events.map (ChannelEvent.event config))

/-- No step of the run changes the count or the number of rows of the channel
while another request works on it. -/
def Undisturbed (config : ConversationConfig) (c : ObjectId)
    (s : ConversationStore) (events : List ChannelEvent) : Prop :=
  System.Along (channelLedger config.maxParticipants c).Exclusive
    (System.start s) (events.map (ChannelEvent.event config))

instance (limit : Nat) (c : ObjectId) :
    DecidablePred (channelLedger limit c).inside :=
  fun held => inferInstanceAs (Decidable (held = some c))

instance (events : List ChannelEvent) :
    Decidable (Undisturbed config c s events) :=
  inferInstanceAs (Decidable (System.Along _ _ _))

/-! ### Reads -/

/-- A request that works on the channel has read it. -/
def ReadIf (c : ObjectId) (conversation : ConversationModel)
    (seen : Tally) : Prop :=
  conversation.id = c → IsRead c conversation seen

theorem readIf_of_get? (hchannel : IsChannel c s)
    {conversation : ConversationModel}
    (hget : s.conversations.get? conversation.id =
      some conversation.params) :
    ReadIf c conversation (tally c s) := by
  intro hid
  rw [hid] at hget
  refine ⟨hid, hchannel.type _ hget, ?_⟩
  rw [tally, hget]
  rfl

/-- A query of a request that works on a conversation. -/
theorem settles_query {A : Type} {conversation : ConversationModel}
    {seen : Tally} (hread : ReadIf c conversation seen)
    (answer : ConversationStore → Except ConversationError A) :
    (channelLedger limit c).SettlesOr
      (fun owes seen _ => ¬ owes ∧ ReadIf c conversation seen)
      (query (some conversation.id) answer) False seen := by
  by_cases hid : conversation.id = c
  · refine Ledger.settlesOr_inside (by rw [hid]; rfl) ?_
    intro state hchannel hseen
    refine ⟨hchannel, rfl, ?_⟩
    dsimp only
    cases answer state with
    | ok result => exact ⟨not_false, hread⟩
    | error error => exact not_false
  · refine Ledger.settlesOr_quiet ?_
    intro state hchannel
    exact ⟨hchannel, rfl, fun _ _ => ⟨not_false, fun hsame =>
      absurd hsame hid⟩⟩

theorem settles_existedIds {conversation : ConversationModel} {seen : Tally}
    (hread : ReadIf c conversation seen) (organizationId : ObjectId)
    (ids : Option (List IdParam)) :
    (channelLedger limit c).SettlesOr
      (fun owes seen _ => ¬ owes ∧ ReadIf c conversation seen)
      (ConversationOperations.existedIds (some conversation.id)
        organizationId ids) False seen := by
  rw [ConversationOperations.existedIds]
  split
  · exact settles_query hread _
  · exact Ledger.settlesOr_pure ⟨not_false, hread⟩

theorem settles_retrieveConversation (conversationId : Option IdParam)
    (seen : Tally) :
    (channelLedger limit c).SettlesOr
      (fun owes seen conversation => ¬ owes ∧ ReadIf c conversation seen)
      (ConversationOperations.retrieveConversation config session
        conversationId) False seen := by
  refine Ledger.settlesOr_bind
    (Q := fun owes seen found => ¬ owes ∧ ∀ conversation,
      found = some conversation → ReadIf c conversation seen) ?_ ?_
  · refine Ledger.settlesOr_quiet ?_
    intro state hchannel
    refine ⟨hchannel, rfl, fun result hresult => ⟨not_false, ?_⟩⟩
    rintro conversation rfl
    cases conversationId with
    | none => cases hresult
    | some id =>
        exact readIf_of_get? hchannel (get?_of_findByIdWithOrgScope hresult)
  · rintro owes seen found ⟨hsettled, hfound⟩
    rw [eq_false hsettled]
    cases found with
    | none => exact Ledger.settlesOr_throw _
    | some conversation =>
        dsimp only
        split
        · exact Ledger.settlesOr_throw _
        · exact Ledger.settlesOr_pure
            ⟨not_false, hfound conversation rfl⟩

theorem settles_hasAccessToConversation (conversationId : IdParam)
    (seen : Tally) :
    (channelLedger limit c).SettlesOr
      (fun owes seen access => ¬ owes ∧ ∀ found, access = some found →
        ReadIf c found.conversation seen)
      (hasAccessToConversation config session conversationId true) False
      seen := by
  refine Ledger.settlesOr_bind
    (Q := fun owes seen found => ¬ owes ∧ ∀ conversation,
      found = some conversation → ReadIf c conversation seen) ?_ ?_
  · refine Ledger.settlesOr_quiet ?_
    intro state hchannel
    refine ⟨hchannel, rfl, fun result hresult => ⟨not_false, ?_⟩⟩
    rintro conversation rfl
    exact readIf_of_get? hchannel (get?_of_findByIdWithOrgScope hresult)
  · rintro owes seen found ⟨hsettled, hfound⟩
    rw [eq_false hsettled]
    cases found with
    | none => exact Ledger.settlesOr_pure ⟨not_false, by simp⟩
    | some conversation =>
        refine Ledger.settlesOr_bind
          (settles_query (hfound conversation rfl) _) ?_
        rintro owes seen row ⟨hsettled, hread⟩
        refine Ledger.settlesOr_pure ⟨hsettled, ?_⟩
        rintro access haccess
        cases haccess
        exact hread

/-! ### Requests -/

/-- A program that works on another conversation. -/
theorem settles_elsewhere {A : Type} {program : ConversationProgram A}
    {other : ObjectId} (hprogram : program.Guarantees (OnlyAt other))
    (hother : other ≠ c) (seen : Tally) :
    (channelLedger limit c).SettlesOr (fun owes _ _ => ¬ owes) program False
      seen :=
  settles_of_leavesChannel (hprogram.mono
    (fun _ _ honly => honly.leavesChannel (Ne.symm hother))) seen

theorem settles_add {conversation : ConversationModel} {seen : Tally}
    (hread : ReadIf c conversation seen) (ids : List ObjectId) :
    (channelLedger config.maxParticipants c).SettlesOr
      (fun owes seen result => ¬ owes ∧ ReadIf c result.2 seen)
      (addParticipants config conversation
        (ids.map (fun id => IdParam.hex id true)) false) False seen := by
  by_cases hid : conversation.id = c
  · refine (settles_addParticipants (hread hid) ids).mono ?_
    rintro owes seen result ⟨hsettled, hread⟩
    exact ⟨hsettled, fun _ => hread⟩
  · refine Ledger.SettlesOr.returns (settles_elsewhere
      (guarantees_addParticipants (writesAt_onlyAt conversation.id) _ false)
      hid seen) (returns_addParticipants conversation _ false) ?_
    intro owes seen result hsettled hresult
    refine ⟨hsettled, fun hsame => ?_⟩
    rw [hresult] at hsame
    exact absurd hsame hid

theorem settles_remove {conversation : ConversationModel} {seen : Tally}
    (hread : ReadIf c conversation seen) (ids : List ObjectId) :
    (channelLedger config.maxParticipants c).SettlesOr
      (fun owes _ _ => ¬ owes)
      (removeParticipants config conversation ids) False seen := by
  by_cases hid : conversation.id = c
  · exact settles_removeParticipants (hread hid) ids
  · exact settles_elsewhere (guarantees_removeParticipants
      (writesAt_onlyAt conversation.id) ids) hid seen

theorem settles_subscribe (conversationId : Option IdParam) (seen : Tally) :
    (channelLedger config.maxParticipants c).SettlesOr
      (fun owes _ _ => ¬ owes)
      (ConversationOperations.subscribe config session conversationId) False
      seen := by
  refine Ledger.settlesOr_bind
    (settles_retrieveConversation conversationId seen) ?_
  rintro owes seen conversation ⟨hsettled, hread⟩
  rw [eq_false hsettled]
  refine Ledger.settlesOr_bind (settles_add hread [session.userId]) ?_
  rintro owes seen _ ⟨hsettled, _⟩
  exact Ledger.settlesOr_pure hsettled

theorem settles_unsubscribe (conversationId : Option IdParam)
    (seen : Tally) :
    (channelLedger config.maxParticipants c).SettlesOr
      (fun owes _ _ => ¬ owes)
      (ConversationOperations.unsubscribe config session conversationId)
      False seen := by
  refine Ledger.settlesOr_bind
    (settles_retrieveConversation conversationId seen) ?_
  rintro owes seen conversation ⟨hsettled, hread⟩
  rw [eq_false hsettled]
  refine Ledger.settlesOr_bind (settles_remove hread [session.userId]) ?_
  intro owes seen _ hsettled
  exact Ledger.settlesOr_pure hsettled

theorem guarantees_createUserEvent :
    (ConversationOperations.createUserEvent config session).Guarantees
      (LeavesChannel c) := by
  rw [ConversationOperations.createUserEvent]
  split
  · exact guarantees_query (.refl c) _ _
  · exact guarantees_pure _

theorem settles_delete (conversationId : IdParam) (seen : Tally) :
    (channelLedger config.maxParticipants c).SettlesOr
      (fun owes _ _ => ¬ owes)
      (ConversationOperations.delete config session conversationId) False
      seen := by
  refine Ledger.settlesOr_bind
    (settles_hasAccessToConversation conversationId seen) ?_
  rintro owes seen access ⟨hsettled, haccess⟩
  rw [eq_false hsettled]
  cases access with
  | none => exact Ledger.settlesOr_throw _
  | some access =>
      dsimp only
      split
      · refine Ledger.settlesOr_bind
          (settles_remove (haccess access rfl) [session.userId]) ?_
        intro owes seen _ hsettled
        rw [eq_false hsettled]
        exact settles_of_leavesChannel guarantees_createUserEvent seen
      · exact Ledger.settlesOr_throw _

/-! ### Update -/

theorem settles_editParticipants {conversation : ConversationModel}
    {seen : Tally} (hread : ReadIf c conversation seen)
    (params : UpdateParams) (adminsToAdd : List ObjectId) :
    (channelLedger config.maxParticipants c).SettlesOr
      (fun owes _ _ => ¬ owes)
      (ConversationOperations.editParticipants config conversation params
        adminsToAdd) False seen := by
  rw [ConversationOperations.editParticipants]
  split
  · refine Ledger.settlesOr_bind (settles_existedIds hread _ _) ?_
    rintro owes seen addIds ⟨hsettled, hread⟩
    rw [eq_false hsettled]
    refine Ledger.settlesOr_bind (settles_existedIds hread _ _) ?_
    rintro owes seen removeIds ⟨hsettled, hread⟩
    rw [eq_false hsettled, updateParticipants]
    refine Ledger.settlesOr_bind (settles_add hread addIds) ?_
    rintro owes seen ⟨addedIds, updated⟩ ⟨hsettled, hread⟩
    rw [eq_false hsettled]
    refine Ledger.settlesOr_bind (settles_remove hread removeIds) ?_
    intro owes seen _ hsettled
    exact Ledger.settlesOr_pure hsettled
  · exact Ledger.settlesOr_pure not_false

theorem settles_editShared {conversation : ConversationModel} {seen : Tally}
    (hread : ReadIf c conversation seen) (params : UpdateParams) :
    (channelLedger config.maxParticipants c).SettlesOr
      (fun owes _ _ => ¬ owes)
      (ConversationOperations.editShared config session conversation params)
      False seen := by
  refine Ledger.settlesOr_bind (settles_existedIds hread _ _) ?_
  rintro owes seen adminsToAdd ⟨hsettled, hread⟩
  rw [eq_false hsettled]
  refine Ledger.settlesOr_bind
    (settles_editParticipants hread params adminsToAdd) ?_
  rintro owes seen ⟨addedIds, removeResult⟩ hsettled
  rw [eq_false hsettled]
  dsimp only
  split
  · exact Ledger.settlesOr_pure not_false
  · have hroles : ∀ ids role, (ConversationOperations.updateRoles
        conversation.id ids role).Guarantees (LeavesChannel c) :=
      fun ids role => guarantees_updateRoles (.refl c)
        (fun s participantIds role => .of_eq rfl
          (userIdsOf_assignRole s conversation.id c participantIds role))
        ids role
    refine settles_of_leavesChannel (guarantees_bind (guarantees_bind
      (hroles _ _) (fun _ => hroles _ _)) (fun _ => ?_)) seen
    exact guarantees_editEvents (.refl c) conversation params addedIds _

theorem leavesChannel_withFields (s : ConversationStore)
    (c other : ObjectId) (fields : ConversationFields) :
    LeavesChannel c s (s.withFields other fields) :=
  leavesChannel_updateConversation s c other _ (fun _ => rfl) (fun _ => rfl)

theorem settles_editFields (params : UpdateParams) (seen : Tally) :
    (channelLedger config.maxParticipants c).SettlesOr
      (fun owes _ _ => ¬ owes)
      (ConversationOperations.editFields config session params) False
      seen := by
  refine Ledger.settlesOr_bind
    (Q := fun owes seen updated => ¬ owes ∧ ∀ conversation,
      updated = some conversation → ReadIf c conversation seen) ?_ ?_
  · refine Ledger.settlesOr_quiet ?_
    intro state hchannel
    rcases updateFields_cases config.server state params.id params.fields with
      hresult | ⟨other, hresult⟩
    · rw [hresult]
      refine ⟨hchannel, rfl, fun updated hupdated => ?_⟩
      cases hupdated
      exact ⟨not_false, by simp⟩
    · have hleaves := leavesChannel_withFields state c other params.fields
      rw [hresult]
      refine ⟨hleaves.isChannel hchannel, hleaves.tally,
        fun updated hupdated => ⟨not_false, ?_⟩⟩
      rintro conversation rfl
      obtain ⟨stored, hget, rfl⟩ :=
        Option.map_eq_some_iff.1 (Except.ok.inj hupdated)
      rw [view_channelLedger, ← hleaves.tally]
      exact readIf_of_get? (hleaves.isChannel hchannel) hget
  · rintro owes seen updated ⟨hsettled, hread⟩
    rw [eq_false hsettled]
    cases updated with
    | none => exact Ledger.settlesOr_throw _
    | some conversation =>
        dsimp only
        split
        · exact Ledger.settlesOr_pure not_false
        · exact settles_editShared (hread conversation rfl) params

theorem settles_edit (params : UpdateParams) (seen : Tally) :
    (channelLedger config.maxParticipants c).SettlesOr
      (fun owes _ _ => ¬ owes)
      (ConversationOperations.edit config session params) False seen := by
  refine Ledger.settlesOr_bind (settles_of_leavesChannel
    (guarantees_hasAccessToConversation (.refl c) params.id false) seen) ?_
  intro owes seen access hsettled
  rw [eq_false hsettled]
  cases access with
  | none => exact Ledger.settlesOr_throw _
  | some access =>
      dsimp only
      split
      · exact Ledger.settlesOr_throw _
      · exact settles_editFields params seen

theorem settles_perform (session : ConversationSession)
    (request : ChannelRequest) (seen : Tally) :
    (channelLedger config.maxParticipants c).SettlesOr
      (fun owes _ _ => ¬ owes) (request.request.perform config session) False
      seen := by
  unfold ConversationRequest.perform
  split
  · cases request with
    | update params => exact settles_edit params seen
    | leave id => exact settles_delete id seen
    | subscribe cid => exact settles_subscribe cid seen
    | unsubscribe cid => exact settles_unsubscribe cid seen
  · exact Ledger.settlesOr_throw _

/-- A request settles what it owes before it ends, with a result or with an
error. -/
theorem settlesUp_task (session : ConversationSession)
    (request : ChannelRequest) (seen : Tally) :
    (channelLedger config.maxParticipants c).SettlesUp
      (request.task config session).body False seen := by
  refine Ledger.settles_bind (settles_perform session request seen) ?_
  intro owes seen result hresult
  cases result <;> exact hresult

/-! ### Runs -/

/-- Once the requests of an undisturbed run have finished, the channel counts
its rows, and they are within the limit. -/
theorem count_of_undisturbed (config : ConversationConfig) (c : ObjectId)
    (s : ConversationStore) (channel : Conversation)
    (hget : s.conversations.get? c = some channel)
    (htype : channel.type = .c) (hnodup : (s.userIdsOf c).Nodup)
    (hcount : channel.subscribersCount = .int (s.rowsOf c).length)
    (hlimit : (s.rowsOf c).length ≤ config.maxParticipants)
    (events : List ChannelEvent)
    (hundisturbed : Undisturbed config c s events)
    (hquiescent : (interleave config s events).Quiescent) :
    (∀ stored,
      (interleave config s events).state.conversations.get? c =
        some stored →
      stored.subscribersCount =
        .int ((interleave config s events).state.rowsOf c).length) ∧
      ((interleave config s events).state.rowsOf c).length ≤
        config.maxParticipants := by
  have hlength : ∀ state : ConversationStore,
      (state.userIdsOf c).length = (state.rowsOf c).length :=
    fun state => by rw [userIdsOf, List.length_map]
  have hchannel : IsChannel c s := by
    refine ⟨hnodup, fun stored hstored => ?_⟩
    rw [hget, Option.some_inj] at hstored
    rw [← hstored]
    exact htype
  have hright : (tally c s).IsRight config.maxParticipants := by
    rw [Tally.IsRight, tally, hget]
    simp only [Option.map_some, hlength]
    exact ⟨hcount, by omega⟩
  have hbalanced : (tally c (interleave config s events).state).IsRight
      config.maxParticipants := by
    refine @Ledger.balanced_of_exclusive _ _ _
      (channelLedger config.maxParticipants c) _ _ hchannel hright _ ?_
      hundisturbed hquiescent
    intro event hevent
    obtain ⟨channelEvent, _, rfl⟩ := List.mem_map.1 hevent
    cases channelEvent with
    | received session request => exact settlesUp_task session request
    | resumed index => trivial
  generalize (interleave config s events).state = last at *
  rw [Tally.IsRight, tally] at hbalanced
  dsimp only at hbalanced
  rw [hlength] at hbalanced
  cases hlast : last.conversations.get? c with
  | none =>
      rw [hlast] at hbalanced
      dsimp only [Option.map_none] at hbalanced
      exact ⟨by simp, by omega⟩
  | some stored =>
      rw [hlast] at hbalanced
      dsimp only [Option.map_some] at hbalanced
      refine ⟨?_, by omega⟩
      intro other hother
      cases hother
      exact hbalanced.1

/-- A channel of one user, and two more users. -/
def newsChannel : ConversationStore :=
  run ⟨50, false, fun _ _ => true, .oldestFirst⟩
    [.userCreated 9, .userCreated 9, .userCreated 9,
      .requested ⟨0, 9⟩ (.create ⟨.c, some "news", none, none, none, none,
        none⟩)]

/-- Two users subscribe one after the other. -/
def oneByOne : List ChannelEvent :=
  [.received ⟨1, 9⟩ (.subscribe (some (.hex 4 true))),
    .received ⟨2, 9⟩ (.subscribe (some (.hex 4 true))),
    .resumed 0, .resumed 0, .resumed 0, .resumed 1, .resumed 1, .resumed 1]

theorem oneByOne_count :
    (interleave ⟨50, false, fun _ _ => true, .oldestFirst⟩ newsChannel
      oneByOne).Quiescent ∧
    ∀ stored, (interleave ⟨50, false, fun _ _ => true, .oldestFirst⟩
        newsChannel oneByOne).state.conversations.get? 4 = some stored →
      stored.subscribersCount =
        .int ((interleave ⟨50, false, fun _ _ => true, .oldestFirst⟩
          newsChannel oneByOne).state.rowsOf 4).length :=
  ⟨by decide +kernel, (count_of_undisturbed _ 4 newsChannel _ rfl
    (by decide +kernel) (by decide +kernel) (by decide +kernel)
    (by decide +kernel) oneByOne (by decide +kernel)
    (by decide +kernel)).1⟩

/-- Two users subscribe, and the second has read the channel before the first
writes its count. -/
def overlapping : List ChannelEvent :=
  [.received ⟨1, 9⟩ (.subscribe (some (.hex 4 true))),
    .received ⟨2, 9⟩ (.subscribe (some (.hex 4 true))),
    .resumed 0, .resumed 1, .resumed 0, .resumed 0, .resumed 1, .resumed 1]

/-- One of the two is not counted. -/
theorem overlapping_count :
    (interleave ⟨50, false, fun _ _ => true, .oldestFirst⟩ newsChannel
      overlapping).Quiescent ∧
    ¬ ∀ stored, (interleave ⟨50, false, fun _ _ => true, .oldestFirst⟩
        newsChannel overlapping).state.conversations.get? 4 = some stored →
      stored.subscribersCount =
        .int ((interleave ⟨50, false, fun _ _ => true, .oldestFirst⟩
          newsChannel overlapping).state.rowsOf 4).length := by
  refine ⟨by decide +kernel, fun hcount => ?_⟩
  have hlost := hcount _ rfl
  revert hlost
  decide +kernel

end ConversationStore

end SamaServer
