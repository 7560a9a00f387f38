/-
The limit of participants.  The check of an addition is made with the length
of the list before anybody knows which of the listed users are members, so a
member who is listed counts twice.
-/
import Mathlib.Data.Finset.Card
import SamaServer.Membership

namespace SamaServer

namespace ParticipantsLimit

open Fallible ConversationService ConversationStore

/-- The listed users without a row in the conversation. -/
def newcomers (s : ConversationStore) (c : ObjectId)
    (ids : List ObjectId) : List ObjectId :=
  ids.filter (fun id => StoredId.id id ∉ s.userIdsOf c)

/-- The users with a row in the conversation. -/
def members (s : ConversationStore) (c : ObjectId) : Finset StoredId :=
  (s.userIdsOf c).toFinset

section Addition

variable (config : ConversationConfig) (conversation : ConversationModel)
  (ids : List ObjectId) (s : ConversationStore)

/-- `addParticipants` of users to a conversation that exists. -/
def addition : ConversationProgram (List StoredId × ConversationModel) :=
  addParticipants config conversation
    (ids.map (fun id => IdParam.hex id true)) false

/-- The addition fails at the limit when there would be too many different
participants, and only then; when it succeeds it returns the users who were
no members. -/
def MeetsLimit : Prop :=
  (((addition config conversation ids).exec s).1 =
      .error (.cause .participantsLimit) ↔
    config.maxParticipants < (members s conversation.id ∪
      (ids.map StoredId.id).toFinset).card) ∧
  ∀ added changed after,
    (addition config conversation ids).exec s =
      (.ok (added, changed), after) →
    added.Nodup ∧ ∀ userId, userId ∈ added ↔
      userId ∈ ids.map StoredId.id ∧
        userId ∉ members s conversation.id

/-- The number that is stored for a channel, and the number of rows of a
group.  A stored count may be no number. -/
def baseCount : Option Int :=
  match countBefore conversation false s with
  | .undefined => some 0
  | .nan => none
  | .int value => some value

/-- The list and the users who would come in fit both, or neither does. -/
def CountsAlike : Prop :=
  match baseCount conversation s with
  | some counted =>
      counted + ids.length ≤ config.maxParticipants ↔
        (members s conversation.id).card +
          (newcomers s conversation.id ids).length ≤ config.maxParticipants
  | none =>
      (members s conversation.id).card +
        (newcomers s conversation.id ids).length ≤ config.maxParticipants

end Addition

variable {config : ConversationConfig} {conversation : ConversationModel}
  {ids : List ObjectId} {s : ConversationStore}

/-- Those who would be participants are the members and the newcomers. -/
theorem card_union (c : ObjectId) (hdistinct : ids.Nodup) :
    (members s c ∪ (ids.map StoredId.id).toFinset).card =
      (members s c).card + (newcomers s c ids).length := by
  have hinjective : Function.Injective StoredId.id := by
    intro first second heq
    cases heq
    rfl
  have hnew : (ids.map StoredId.id).toFinset \ members s c =
      ((newcomers s c ids).map StoredId.id).toFinset := by
    ext userId
    simp only [members, newcomers, Finset.mem_sdiff, List.mem_toFinset,
      List.mem_map, List.mem_filter, decide_eq_true_eq]
    constructor
    · rintro ⟨⟨id, hid, rfl⟩, habsent⟩
      exact ⟨id, ⟨hid, habsent⟩, rfl⟩
    · rintro ⟨id, ⟨hid, habsent⟩, rfl⟩
      exact ⟨⟨id, hid, rfl⟩, habsent⟩
  rw [← Finset.union_sdiff_self_eq_union, hnew,
    Finset.card_union_of_disjoint, List.toFinset_card_of_nodup,
    List.length_map]
  · exact (hdistinct.filter _).map hinjective
  · rw [← hnew]
    exact Finset.disjoint_sdiff

/-- What the check compares with the limit. -/
theorem exceeds_iff (config : ConversationConfig)
    (conversation : ConversationModel) (ids : List ObjectId)
    (s : ConversationStore) :
    ((countBefore conversation false s).plus ids.length).exceeds
        config.maxParticipants = true ↔
      ∃ counted, baseCount conversation s = some counted ∧
        (config.maxParticipants : Int) < counted + ids.length := by
  unfold baseCount
  cases countBefore conversation false s with
  | undefined => simp [SubscribersCount.plus, SubscribersCount.exceeds]
  | nan => simp [SubscribersCount.plus, SubscribersCount.exceeds]
  | int value =>
      simp [SubscribersCount.plus, SubscribersCount.exceeds, Int.add_comm]

/-- The addition fails at the limit exactly when the check does, and else it
returns the newcomers. -/
theorem exec_addition_cases (config : ConversationConfig)
    (conversation : ConversationModel) (ids : List ObjectId)
    (s : ConversationStore) :
    (((countBefore conversation false s).plus ids.length).exceeds
        config.maxParticipants = true ∧
      (addition config conversation ids).exec s =
        (.error (.cause .participantsLimit), s)) ∨
    (((countBefore conversation false s).plus ids.length).exceeds
        config.maxParticipants = false ∧
      ∃ added grown changed after, Adds conversation.id ids added s grown ∧
        (addition config conversation ids).exec s =
          (.ok (added, changed), after)) := by
  cases hlimit : ((countBefore conversation false s).plus
      ids.length).exceeds config.maxParticipants with
  | true =>
      refine Or.inl ⟨rfl, exec_addParticipants_limit config _ _ _ _ ?_⟩
      rw [List.length_map, hlimit]
  | false =>
      obtain ⟨added, grown, hadds, hexec⟩ :=
        exec_addParticipants config conversation ids false s hlimit
      exact Or.inr ⟨rfl, added, grown, _, _, hadds, hexec⟩

/-- The addition respects the limit exactly when its check and the users who
would come in are on one side of the limit. -/
theorem meetsLimit_iff_countsAlike (hdistinct : ids.Nodup) :
    MeetsLimit config conversation ids s ↔
      CountsAlike config conversation ids s := by
  have hcard := card_union (s := s) conversation.id hdistinct
  have hexceeds := exceeds_iff config conversation ids s
  have hreturns : ∀ added changed after,
      (addition config conversation ids).exec s =
        (.ok (added, changed), after) →
      added.Nodup ∧ ∀ userId, userId ∈ added ↔
        userId ∈ ids.map StoredId.id ∧
          userId ∉ members s conversation.id := by
    intro added changed after hexec
    rcases exec_addition_cases config conversation ids s with
      ⟨-, hfails⟩ | ⟨-, found, grown, _, _, hadds, hsucceeds⟩
    · rw [hfails] at hexec
      cases hexec
    · rw [hsucceeds] at hexec
      cases hexec
      refine ⟨hadds.nodup_added, fun userId => ?_⟩
      rw [hadds.mem_added, members, List.mem_toFinset]
  have hfails : ((addition config conversation ids).exec s).1 =
      .error (.cause .participantsLimit) ↔
        ((countBefore conversation false s).plus ids.length).exceeds
          config.maxParticipants = true := by
    rcases exec_addition_cases config conversation ids s with
      ⟨hlimit, hexec⟩ | ⟨hlimit, found, grown, _, _, -, hexec⟩
    · rw [hexec, hlimit]
      exact iff_of_true rfl rfl
    · rw [hexec, hlimit]
      exact iff_of_false (fun herror => nomatch herror) Bool.false_ne_true
  unfold MeetsLimit CountsAlike
  rw [hfails, hexceeds, hcard, and_iff_left hreturns]
  cases baseCount conversation s with
  | none => simp
  | some counted =>
      simp only [Option.some.injEq, exists_eq_left']
      omega

/-- A group or a channel that the requests of a run left has the right
count. -/
theorem baseCount_of_healthy {limit : Nat}
    (hhealthy : Healthy limit s conversation.id conversation.params) :
    baseCount conversation s =
      some ((members s conversation.id).card : Int) := by
  rw [baseCount, hhealthy.countBefore, members,
    List.toFinset_card_of_nodup hhealthy.nodup]

theorem length_newcomers_le (s : ConversationStore) (c : ObjectId)
    (ids : List ObjectId) :
    (newcomers s c ids).length ≤ ids.length :=
  List.length_filter_le _ _

theorem length_newcomers_eq_iff (c : ObjectId) :
    (newcomers s c ids).length = ids.length ↔
      ∀ id ∈ ids, StoredId.id id ∉ members s c := by
  rw [newcomers, List.length_filter_eq_length_iff]
  simp [members]

/-- With a right count the two sides differ when members are listed and the
room that is left is enough for the newcomers but not for the list. -/
theorem countsAlike_iff_of_right
    (hright : baseCount conversation s =
      some ((members s conversation.id).card : Int)) :
    CountsAlike config conversation ids s ↔
      (∀ id ∈ ids, StoredId.id id ∉ members s conversation.id) ∨
      (members s conversation.id).card + ids.length ≤
        config.maxParticipants ∨
      config.maxParticipants < (members s conversation.id).card +
        (newcomers s conversation.id ids).length := by
  have hle := length_newcomers_le s conversation.id ids
  rw [← length_newcomers_eq_iff, CountsAlike, hright]
  dsimp only
  omega

/-- `addParticipants` respects the limit exactly when its check and the
participants that there would be are on one side of it.  With a right count
that is so unless members are listed, the newcomers have room and the list
has not. -/
theorem addParticipants_limit_iff (config : ConversationConfig)
    (conversation : ConversationModel) (ids : List ObjectId)
    (hdistinct : ids.Nodup) (s : ConversationStore) :
    (MeetsLimit config conversation ids s ↔
      CountsAlike config conversation ids s) ∧
    (baseCount conversation s =
        some ((members s conversation.id).card : Int) →
      (CountsAlike config conversation ids s ↔
        (∀ id ∈ ids, StoredId.id id ∉ members s conversation.id) ∨
        (members s conversation.id).card + ids.length ≤
          config.maxParticipants ∨
        config.maxParticipants < (members s conversation.id).card +
          (newcomers s conversation.id ids).length)) :=
  ⟨meetsLimit_iff_countsAlike hdistinct, countsAlike_iff_of_right⟩

/-- Two users, and the group that the first makes with the second. -/
def groupOfTwo : ConversationStore :=
  run ⟨2, false, fun _ _ => true, .oldestFirst⟩
    [.userCreated 9, .userCreated 9, .requested ⟨0, 9⟩
      (.create ⟨.g, some "team", none, none, none,
        some [.hex 1 true], none⟩)]

/-- The group as the repository returns it. -/
def groupModel : ConversationModel :=
  ⟨3, ⟨9, .g, .id 0, none, none, ⟨some "team", none, none, none⟩,
    .undefined⟩⟩

/-- Adding the second user again to the full group fails, although nobody
would come in. -/
theorem groupOfTwo_member_again :
    groupOfTwo.conversations.get? 3 = some groupModel.params ∧
      ¬ MeetsLimit ⟨2, false, fun _ _ => true, .oldestFirst⟩ groupModel [1]
        groupOfTwo := by
  refine ⟨by decide +kernel, fun hmeets => ?_⟩
  have hfails : ((addition ⟨2, false, fun _ _ => true, .oldestFirst⟩
      groupModel [1]).exec groupOfTwo).1 =
        .error (.cause .participantsLimit) := by decide +kernel
  exact absurd (hmeets.1.1 hfails) (by decide +kernel)

/-- There is room for one more user. -/
theorem groupOfTwo_third :
    [2].Nodup ∧ MeetsLimit ⟨3, false, fun _ _ => true, .oldestFirst⟩
      groupModel [2] groupOfTwo := by
  have hboth := addParticipants_limit_iff
    ⟨3, false, fun _ _ => true, .oldestFirst⟩ groupModel [2] (by decide)
    groupOfTwo
  exact ⟨by decide, hboth.1.2 ((hboth.2 (by decide +kernel)).2
    (Or.inl (by decide +kernel)))⟩

end ParticipantsLimit

end SamaServer
