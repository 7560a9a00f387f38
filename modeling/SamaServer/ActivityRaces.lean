/-
Subscriptions that overlap in a cluster.  A call reads the target of its
observer and the lists of its targets, and writes them back in later commands.
As long as no command writes over what another call has changed since, the two
hashes are inverse to each other whenever no call is in flight.
-/
import SamaServer.ActivitySubscriptions
import SamaServer.Repairs

namespace SamaServer

namespace ActivityRedis

/-- The hashes hold ids only. -/
structure WellFormed (redis : ActivityRedis) : Prop where
  targets : ∀ observerId targetId,
    redis.subscribedTo.get? observerId = some targetId → IsHexId targetId
  lists : ∀ targetId, ∃ observersIds : List String,
    (∀ observerId ∈ observersIds, IsHexId observerId) ∧
      redis.subscribersOf.get? targetId = storedList observersIds

theorem wellFormed_empty : WellFormed empty where
  targets _ _ htarget := by cases htarget
  lists _ := ⟨[], by simp, rfl⟩

/-- The observer is on the list of the target exactly when it is subscribed
to it. -/
def Agrees (pair : String × String) (redis : ActivityRedis) : Prop :=
  pair.1 ∈ redis.listOf pair.2 ↔ redis.target pair.1 = some pair.2

/-- No other observer has come or gone since the list was read. -/
def SameOthers (observerId : String) (read current : List String) : Prop :=
  (∀ other ∈ read, other ≠ observerId → other ∈ current) ∧
    ∀ other ∈ current, other ≠ observerId → other ∈ read

instance (observerId : String) (read current : List String) :
    Decidable (SameOthers observerId read current) :=
  inferInstanceAs (Decidable (_ ∧ _))

/-- The command writes over nothing that another call has changed: the target
of the observer is the one that was read, or none, when it is deleted, and
none, or the same one, when it is set; a list is written while the other
observers on it are those that were read, without the observer while the
observer is not subscribed to its target, and with it while it is. -/
def OnTime : ActivityCommand → ActivityRedis → Prop
  | .getTarget _, _ => True
  | .getSubscribers _, _ => True
  | .deleteTarget observerId read, redis =>
      redis.target observerId = none ∨ redis.target observerId = read
  | .setTarget observerId targetId, redis =>
      redis.target observerId = none ∨
        redis.target observerId = some targetId
  | .removeSubscriber targetId observerId read, redis =>
      redis.target observerId ≠ some targetId ∧
        SameOthers observerId read (redis.listOf targetId)
  | .addSubscriber targetId observerId read, redis =>
      redis.target observerId = some targetId ∧
        SameOthers observerId read (redis.listOf targetId)

instance (command : ActivityCommand) (redis : ActivityRedis) :
    Decidable (OnTime command redis) :=
  match command with
  | .getTarget _ => inferInstanceAs (Decidable True)
  | .getSubscribers _ => inferInstanceAs (Decidable True)
  | .deleteTarget _ _ => inferInstanceAs (Decidable (_ ∨ _))
  | .setTarget _ _ => inferInstanceAs (Decidable (_ ∨ _))
  | .removeSubscriber _ _ _ => inferInstanceAs (Decidable (_ ∧ _))
  | .addSubscriber _ _ _ => inferInstanceAs (Decidable (_ ∧ _))

/-! ### Reads after writes -/

variable {redis : ActivityRedis}

theorem target_set {targetId : String} (hhex : IsHexId targetId)
    (redis : ActivityRedis) (observerId other : String) :
    target { redis with
        subscribedTo := redis.subscribedTo.set observerId targetId } other =
      if other = observerId then some targetId else redis.target other := by
  simp only [target, OrderedMap.get?_set]
  split
  · simp [present, hhex.ne_empty]
  · rfl

theorem target_erase (redis : ActivityRedis) (observerId other : String) :
    target { redis with
        subscribedTo := redis.subscribedTo.erase observerId } other =
      if other = observerId then none else redis.target other := by
  simp only [target, OrderedMap.get?_erase]
  split
  · rfl
  · rfl

theorem WellFormed.hex_of_mem (hwell : redis.WellFormed)
    {targetId observerId : String} (hmem : observerId ∈ redis.listOf targetId) :
    IsHexId observerId := by
  obtain ⟨observersIds, hhex, hstored⟩ := hwell.lists targetId
  rw [listOf_of_stored hhex hstored] at hmem
  exact hhex observerId hmem

/-- A state in which one list has been written. -/
structure Writes (redis : ActivityRedis) (targetId : String)
    (observersIds : List String) (after : ActivityRedis) : Prop where
  targets : after.subscribedTo = redis.subscribedTo
  list : after.subscribersOf.get? targetId = storedList observersIds
  others : ∀ other, other ≠ targetId →
    after.subscribersOf.get? other = redis.subscribersOf.get? other

section Writes

variable {after : ActivityRedis} {targetId : String}
  {observersIds : List String}
  (hwrites : redis.Writes targetId observersIds after)
  (hhex : ∀ observerId ∈ observersIds, IsHexId observerId)
include hwrites

theorem Writes.target (observerId : String) :
    after.target observerId = redis.target observerId := by
  rw [ActivityRedis.target, hwrites.targets]
  rfl

theorem Writes.listOf_ne {other : String} (hother : other ≠ targetId) :
    after.listOf other = redis.listOf other := by
  rw [listOf, hwrites.others other hother]
  rfl

include hhex

theorem Writes.listOf_eq : after.listOf targetId = observersIds :=
  listOf_of_stored hhex hwrites.list

theorem Writes.wellFormed (hwell : redis.WellFormed) : after.WellFormed := by
  refine ⟨fun observerId target htarget => ?_, fun other => ?_⟩
  · rw [hwrites.targets] at htarget
    exact hwell.targets observerId target htarget
  · by_cases hother : other = targetId
    · subst hother
      exact ⟨observersIds, hhex, hwrites.list⟩
    · rw [hwrites.others other hother]
      exact hwell.lists other

/-- A list that is written with the other observers as they are breaks
nothing if it has the observer on it exactly when the observer is subscribed
to its target. -/
theorem Writes.agrees {observerId : String}
    (hothers : ∀ other, other ≠ observerId →
      (other ∈ observersIds ↔ other ∈ redis.listOf targetId))
    (hown : observerId ∈ observersIds ↔
      redis.target observerId = some targetId) :
    Agrees (observerId, targetId) after ∧
      ∀ pair, Agrees pair redis → Agrees pair after := by
  have hself : Agrees (observerId, targetId) after := by
    simp only [Agrees]
    rw [hwrites.listOf_eq hhex, hwrites.target]
    exact hown
  refine ⟨hself, ?_⟩
  rintro ⟨other, otherTarget⟩ hpair
  by_cases htarget : otherTarget = targetId
  · subst htarget
    by_cases hother : other = observerId
    · rw [hother]
      exact hself
    · simp only [Agrees] at hpair ⊢
      rw [hwrites.listOf_eq hhex, hwrites.target, hothers other hother]
      exact hpair
  · simp only [Agrees] at hpair ⊢
    rw [hwrites.listOf_ne htarget, hwrites.target]
    exact hpair

end Writes

end ActivityRedis

namespace ActivityCluster

open ActivityRedis

variable {observerId targetId : String}

/-! ### One list -/

theorem deleteSubscriber_step {read after : ActivityRedis}
    (hread : read.WellFormed)
    (hontime : OnTime (.removeSubscriber targetId observerId
      (read.listOf targetId)) after) :
    let observersIds := InsertionSet.delete
      (InsertionSet.ofList (read.listOf targetId)) observerId
    let written : ActivityRedis := { after with
      subscribersOf :=
        if observersIds.length = 0 then after.subscribersOf.erase targetId
        else after.subscribersOf.set targetId
          (JoinedLists.join ',' observersIds) }
    (after.WellFormed → written.WellFormed) ∧
      Agrees (observerId, targetId) written ∧
      ∀ pair, Agrees pair after → Agrees pair written := by
  intro observersIds written
  have hhex : ∀ other ∈ observersIds, IsHexId other := by
    intro other hother
    rw [InsertionSet.mem_delete, InsertionSet.mem_ofList] at hother
    exact hread.hex_of_mem hother.1
  have hwrites : after.Writes targetId observersIds written := by
    refine ⟨rfl, ?_, fun other hother => ?_⟩
    · simp only [written, storedList]
      split
      · simp
      · simp
    · simp only [written]
      split
      · simp [hother]
      · simp [hother]
  refine ⟨hwrites.wellFormed hhex, hwrites.agrees hhex ?_ ?_⟩
  · intro other hother
    rw [InsertionSet.mem_delete, InsertionSet.mem_ofList]
    exact ⟨fun hmem => hontime.2.1 other hmem.1 hother,
      fun hmem => ⟨hontime.2.2 other hmem hother, hother⟩⟩
  · have hleft : observerId ∉ observersIds := by
      simp [observersIds]
    exact ⟨fun hmem => absurd hmem hleft,
      fun htarget => absurd htarget hontime.1⟩

theorem addSubscriber_step (hobserver : IsHexId observerId)
    {read after : ActivityRedis} (hread : read.WellFormed)
    (hontime : OnTime (.addSubscriber targetId observerId
      (read.listOf targetId)) after) :
    let written : ActivityRedis := { after with
      subscribersOf := after.subscribersOf.set targetId
        (JoinedLists.join ',' (InsertionSet.add
          (InsertionSet.ofList (read.listOf targetId)) observerId)) }
    (after.WellFormed → written.WellFormed) ∧
      Agrees (observerId, targetId) written ∧
      ∀ pair, Agrees pair after → Agrees pair written := by
  intro written
  have hhex : ∀ other ∈ InsertionSet.add
      (InsertionSet.ofList (read.listOf targetId)) observerId,
      IsHexId other := by
    intro other hother
    rw [InsertionSet.mem_add, InsertionSet.mem_ofList] at hother
    rcases hother with hself | hold
    · rw [hself]
      exact hobserver
    · exact hread.hex_of_mem hold
  have hwrites : after.Writes targetId (InsertionSet.add
      (InsertionSet.ofList (read.listOf targetId)) observerId) written := by
    refine ⟨rfl, ?_, fun other hother => ?_⟩
    · simp [written, storedList, InsertionSet.add_ne_nil]
    · simp [written, hother]
  refine ⟨hwrites.wellFormed hhex, hwrites.agrees hhex ?_ ?_⟩
  · intro other hother
    rw [InsertionSet.mem_add, InsertionSet.mem_ofList]
    exact ⟨fun hmem => hontime.2.1 other
      (hmem.resolve_left hother) hother,
      fun hmem => .inr (hontime.2.2 other hmem hother)⟩
  · exact ⟨fun _ => hontime.1, fun _ => by simp⟩

theorem answers_deleteSubscriber (targetId observerId : String) :
    (deleteSubscriber targetId observerId).Answers OnTime WellFormed
      Agrees := by
  apply Async.answers_read
  intro read hread
  refine Async.answers_write ?_ ?_
  · intro after hafter hontime
    exact (deleteSubscriber_step hread hontime).1 hafter
  · intro after _ hontime
    exact (deleteSubscriber_step hread hontime).2.2

theorem repairs_deleteSubscriber (targetId observerId : String) :
    (deleteSubscriber targetId observerId).Repairs OnTime WellFormed
      (Agrees (observerId, targetId)) := by
  apply Async.repairs_read
  intro read hread after _ hontime
  exact .inl (deleteSubscriber_step hread hontime).2.1

theorem answers_addSubscriber (targetId : String)
    (hobserver : IsHexId observerId) :
    (addSubscriber targetId observerId).Answers OnTime WellFormed
      Agrees := by
  apply Async.answers_read
  intro read hread
  refine Async.answers_write ?_ ?_
  · intro after hafter hontime
    exact (addSubscriber_step hobserver hread hontime).1 hafter
  · intro after _ hontime
    exact (addSubscriber_step hobserver hread hontime).2.2

theorem repairs_addSubscriber (targetId : String)
    (hobserver : IsHexId observerId) :
    (addSubscriber targetId observerId).Repairs OnTime WellFormed
      (Agrees (observerId, targetId)) := by
  apply Async.repairs_read
  intro read hread after _ hontime
  exact .inl (addSubscriber_step hobserver hread hontime).2.1

/-! ### The target of an observer -/

theorem wellFormed_erase {redis : ActivityRedis} (hwell : redis.WellFormed)
    (observerId : String) :
    WellFormed { redis with
      subscribedTo := redis.subscribedTo.erase observerId } := by
  refine ⟨fun other target htarget => ?_, hwell.lists⟩
  simp only [OrderedMap.get?_erase] at htarget
  split at htarget
  · cases htarget
  · exact hwell.targets other target htarget

theorem wellFormed_set {redis : ActivityRedis} (hwell : redis.WellFormed)
    (observerId : String) (htarget : IsHexId targetId) :
    WellFormed { redis with
      subscribedTo := redis.subscribedTo.set observerId targetId } := by
  refine ⟨fun other target hother => ?_, hwell.lists⟩
  simp only [OrderedMap.get?_set] at hother
  split at hother
  · cases hother
    exact htarget
  · exact hwell.targets other target hother

/-- Deleting the target of an observer leaves it on the list of that target
only. -/
theorem agrees_erase {redis : ActivityRedis} {pair : String × String}
    (hpair : Agrees pair redis)
    (hkept : pair.1 = observerId → redis.target observerId ≠ some pair.2) :
    Agrees pair { redis with
      subscribedTo := redis.subscribedTo.erase observerId } := by
  have hlist : ActivityRedis.listOf { redis with
      subscribedTo := redis.subscribedTo.erase observerId } pair.2 =
        redis.listOf pair.2 := rfl
  rw [Agrees, hlist, target_erase]
  split
  · rename_i hown
    rw [Agrees, hown] at hpair
    rw [hown, hpair]
    exact ⟨fun htarget => absurd htarget (hkept hown),
      fun hnone => by cases hnone⟩
  · exact hpair

/-- Setting it leaves the observer off the list of the new target only. -/
theorem agrees_set {redis : ActivityRedis} (htarget : IsHexId targetId)
    {pair : String × String} (hpair : Agrees pair redis)
    (hontime : OnTime (.setTarget observerId targetId) redis)
    (hother : pair ≠ (observerId, targetId)) :
    Agrees pair { redis with
      subscribedTo := redis.subscribedTo.set observerId targetId } := by
  have hlist : ActivityRedis.listOf { redis with
      subscribedTo := redis.subscribedTo.set observerId targetId } pair.2 =
        redis.listOf pair.2 := rfl
  rw [Agrees, hlist, target_set htarget]
  split
  · rename_i hown
    have hne : targetId ≠ pair.2 := fun heq =>
      hother (Prod.ext hown heq.symm)
    rw [Agrees, hown] at hpair
    rw [hown, hpair]
    rcases hontime with hnone | hsame
    · simp [hnone, hne]
    · simp [hsame, hne]
  · exact hpair

theorem answers_unsubscribeObserver (observerId : String) :
    (unsubscribeObserver observerId).Answers OnTime WellFormed Agrees := by
  apply Async.answers_read
  intro read _ redis hredis hontime
  refine ⟨wellFormed_erase hredis observerId, ?_, ?_⟩
  · intro pair hpair
    by_cases hbroken : pair.1 = observerId ∧
        redis.target observerId = some pair.2
    · -- the rest of the call takes the observer off that list
      right
      have hread : read.target observerId = some pair.2 := by
        rcases hontime with hnone | hsame
        · rw [hbroken.2] at hnone
          cases hnone
        · rw [← hsame]
          exact hbroken.2
      simp only [hread]
      have hpaired : pair = (observerId, pair.2) :=
        Prod.ext hbroken.1 rfl
      rw [hpaired]
      exact repairs_deleteSubscriber pair.2 observerId
    · exact .inl (agrees_erase hpair (fun hown htarget =>
        hbroken ⟨hown, htarget⟩))
  · cases hread : read.target observerId with
    | none => trivial
    | some targetId => exact answers_deleteSubscriber targetId observerId

theorem answers_subscribeObserverToTarget (hobserver : IsHexId observerId)
    (htarget : IsHexId targetId) :
    (subscribeObserverToTarget observerId targetId).Answers OnTime
      WellFormed Agrees := by
  refine Async.answers_bind (answers_unsubscribeObserver observerId) ?_
  intro _ redis hredis hontime
  refine ⟨wellFormed_set hredis observerId htarget, ?_,
    answers_addSubscriber targetId hobserver⟩
  intro pair hpair
  by_cases hown : pair = (observerId, targetId)
  · right
    rw [hown]
    exact repairs_addSubscriber targetId hobserver
  · exact .inl (agrees_set htarget hpair hontime hown)

end ActivityCluster

/-! ### Runs -/

/-- The calls that change subscriptions. -/
inductive SubscriptionCall
  | subscribeObserverToTarget (observerId targetId : HexId)
  | unsubscribeObserver (observerId : HexId)
deriving DecidableEq

def SubscriptionCall.program : SubscriptionCall → ActivityService Unit
  | subscribeObserverToTarget observerId targetId =>
      ActivityCluster.subscribeObserverToTarget observerId.value
        targetId.value
  | unsubscribeObserver observerId =>
      ActivityCluster.unsubscribeObserver observerId.value

/-- A call is made on some node, or one of the calls in flight sends its next
command. -/
inductive SubscriptionEvent
  | made (call : SubscriptionCall)
  | resumed (index : Nat)
deriving DecidableEq

def SubscriptionEvent.event : SubscriptionEvent →
    Event SubscriptionCall ActivityCommand ActivityRedis
  | made call => .spawn ⟨call, call.program⟩
  | resumed index => .tick index

namespace ActivityRedis

def interleave (events : List SubscriptionEvent) :
    System SubscriptionCall ActivityCommand ActivityRedis :=
  (System.start empty).run (events.map SubscriptionEvent.event)

/-- All commands of the run are on time. -/
def AllOnTime (events : List SubscriptionEvent) : Prop :=
  System.Along (System.Allowed OnTime) (System.start empty)
    (events.map SubscriptionEvent.event)

instance (events : List SubscriptionEvent) :
    Decidable (AllOnTime events) :=
  inferInstanceAs (Decidable (System.Along _ _ _))

theorem AllOnTime.of_prefix {done events : List SubscriptionEvent}
    (hontime : AllOnTime events) (hdone : done <+: events) :
    AllOnTime done := by
  obtain ⟨rest, rfl⟩ := hdone
  rw [AllOnTime, List.map_append] at hontime
  exact hontime.of_append

theorem startsAnswering_event (event : SubscriptionEvent) :
    System.StartsAnswering OnTime WellFormed Agrees event.event := by
  cases event with
  | resumed index => trivial
  | made call =>
      cases call with
      | subscribeObserverToTarget observerId targetId =>
          exact ActivityCluster.answers_subscribeObserverToTarget
            observerId.hex targetId.hex
      | unsubscribeObserver observerId =>
          exact ActivityCluster.answers_unsubscribeObserver observerId.value

theorem interleave_answered (events : List SubscriptionEvent)
    (hontime : AllOnTime events) :
    System.Answered OnTime WellFormed Agrees (interleave events) := by
  refine System.answered_run (System.answered_start wellFormed_empty ?_) ?_
    hontime
  · intro pair
    have hnobody : empty.listOf pair.2 = [] := rfl
    have hnone : empty.target pair.1 = none := rfl
    simp [Agrees, hnobody, hnone]
  · intro event hevent
    obtain ⟨own, -, rfl⟩ := List.mem_map.1 hevent
    exact startsAnswering_event own

/-- Whatever calls overlap on whatever nodes, as long as all commands are on
time the two hashes are inverse to each other whenever all calls have
finished. -/
theorem hashes_inverse_of_onTime (events : List SubscriptionEvent)
    (hontime : AllOnTime events) :
    ∀ done, done <+: events → (interleave done).Quiescent →
      InverseMaps
        (fun observerId => (interleave done).state.target observerId.value)
        (fun targetId => (interleave done).state.listOf targetId.value) := by
  intro done hdone hquiescent
  have hanswered := interleave_answered done (hontime.of_prefix hdone)
  apply inverseMaps_of_inverse
  intro observerId targetId
  exact hanswered.settled hquiescent (observerId.value, targetId.value)

def observerA : HexId := ⟨"aaaaaaaaaaaaaaaaaaaaaaaa", by decide⟩

def observerB : HexId := ⟨"bbbbbbbbbbbbbbbbbbbbbbbb", by decide⟩

def targetC : HexId := ⟨"cccccccccccccccccccccccc", by decide⟩

/-- Two observers subscribe to one target.  Both read its list before either
writes it. -/
def lostSubscription : List SubscriptionEvent :=
  [.made (.subscribeObserverToTarget observerA targetC),
    .made (.subscribeObserverToTarget observerB targetC),
    .resumed 0, .resumed 0, .resumed 0, .resumed 0,
    .resumed 1, .resumed 1, .resumed 1, .resumed 1,
    .resumed 0, .resumed 1]

/-- The same two calls, the second of which reads the list after the first
has written it. -/
def keptSubscription : List SubscriptionEvent :=
  [.made (.subscribeObserverToTarget observerA targetC),
    .made (.subscribeObserverToTarget observerB targetC),
    .resumed 0, .resumed 0, .resumed 0, .resumed 1, .resumed 0, .resumed 1,
    .resumed 0, .resumed 1, .resumed 1, .resumed 1]

theorem hashes_inverse_of_onTime_kept :
    (interleave keptSubscription).Quiescent ∧
      InverseMaps
        (fun observerId =>
          (interleave keptSubscription).state.target observerId.value)
        (fun targetId =>
          (interleave keptSubscription).state.listOf targetId.value) :=
  have hquiescent : (interleave keptSubscription).Quiescent := by decide
  ⟨hquiescent, hashes_inverse_of_onTime keptSubscription (by decide)
    keptSubscription (List.prefix_refl _) hquiescent⟩

/-- Subscriptions of two observers to one target that overlap: one of them is
lost from the list of the target. -/
theorem overlapping_subscription_lost :
    ¬ ∀ events : List SubscriptionEvent, (interleave events).Quiescent →
      InverseMaps
        (fun observerId => (interleave events).state.target observerId.value)
        (fun targetId =>
          (interleave events).state.listOf targetId.value) := by
  intro hall
  have hinverse := (hall lostSubscription (by decide)).1 observerA targetC
  have htarget : (interleave lostSubscription).state.target
      observerA.value = some targetC.value := by decide
  have hlist : observerA.value ∉
      (interleave lostSubscription).state.listOf targetC.value := by decide
  exact hlist (hinverse.2 htarget)

end ActivityRedis

end SamaServer
