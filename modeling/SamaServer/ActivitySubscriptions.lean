/-
The two activity managers keep the same subscriptions: what an observer is
subscribed to and who observes a target, each the inverse of the other.  Both
managers carry out every call on them alike.
-/
import Mathlib.Data.List.Induction
import SamaServer.ActivityManager

namespace SamaServer

/-- The subscriptions that a manager stands for. -/
structure Subscriptions where
  target : String → Option String
  observers : String → List String
  inverse : ∀ observerId targetId,
    observerId ∈ observers targetId ↔ target observerId = some targetId
  nodup : ∀ targetId, (observers targetId).Nodup
  hex : ∀ observerId targetId, target observerId = some targetId →
    IsHexId observerId ∧ IsHexId targetId

namespace Subscriptions

def empty : Subscriptions where
  target _ := none
  observers _ := []
  inverse _ _ := by simp
  nodup _ := List.nodup_nil
  hex _ _ htarget := by cases htarget

def unsubscribe (s : Subscriptions) (observerId : String) :
    Subscriptions where
  target other := if other = observerId then none else s.target other
  observers targetId := InsertionSet.delete (s.observers targetId) observerId
  inverse other targetId := by
    by_cases hother : other = observerId
    · simp [hother]
    · simp [hother, s.inverse]
  nodup targetId := InsertionSet.nodup_delete (s.nodup targetId) observerId
  hex other targetId htarget := by
    split at htarget
    · cases htarget
    · exact s.hex other targetId htarget

/-- A new observer comes last. -/
def subscribe (s : Subscriptions) (observerId targetId : HexId) :
    Subscriptions where
  target other :=
    if other = observerId.value then some targetId.value else s.target other
  observers other :=
    let rest := InsertionSet.delete (s.observers other) observerId.value
    if other = targetId.value then rest ++ [observerId.value] else rest
  inverse other target := by
    by_cases htarget : target = targetId.value
    · by_cases hother : other = observerId.value
      · simp [htarget, hother]
      · simp [htarget, hother, s.inverse]
    · by_cases hother : other = observerId.value
      · simp [htarget, hother, Ne.symm htarget]
      · simp [htarget, hother, s.inverse]
  nodup target := by
    have hrest := InsertionSet.nodup_delete (s.nodup target) observerId.value
    by_cases htarget : target = targetId.value
    · simp only [htarget, ↓reduceIte] at hrest ⊢
      refine List.nodup_append.2 ⟨hrest, List.nodup_singleton _, ?_⟩
      intro other hother single hsingle heq
      rw [heq, List.mem_singleton.1 hsingle] at hother
      simp at hother
    · simpa [htarget] using hrest
  hex other target htarget := by
    split at htarget
    · rename_i hother
      cases htarget
      rw [hother]
      exact ⟨observerId.hex, targetId.hex⟩
    · exact s.hex other target htarget

theorem hex_of_mem (s : Subscriptions) {observerId targetId : String}
    (hmem : observerId ∈ s.observers targetId) : IsHexId observerId :=
  (s.hex observerId targetId ((s.inverse _ _).1 hmem)).1

/-- What is told when a user's status changes. -/
def update (s : Subscriptions) (userId status : String) (currentTime : Nat) :
    Option ActivityUpdate :=
  if (s.observers userId).length = 0 then none
  else some ⟨s.observers userId, userId, currentTime, status⟩

end Subscriptions

/-! ### One node -/

namespace Activity

/-- The two objects hold the subscriptions; an object without properties is
as good as none. -/
structure Represents (activity : Activity) (s : Subscriptions) : Prop where
  target : ∀ observerId,
    activity.subscribedTo.get? observerId = s.target observerId
  observers : ∀ targetId,
    (activity.observers targetId).keys = s.observers targetId

theorem represents_empty : Represents empty .empty :=
  ⟨fun _ => rfl, fun _ => rfl⟩

variable {activity : Activity} {s : Subscriptions}

theorem Represents.subscribers (hrep : Represents activity s)
    (targetId : String) :
    activity.subscribers targetId = s.observers targetId := by
  rw [Activity.subscribers, hrep.observers]
  apply propertyOrder_of_no_index
  intro observerId hmem
  exact (s.hex_of_mem hmem).not_isArrayIndex

theorem observers_deleteSubscriber (activity : Activity)
    (targetId : Option String) (observerId other : String) :
    ((activity.deleteSubscriber targetId observerId).observers other).keys =
      if other = targetId.getD "undefined" then
        InsertionSet.delete (activity.observers other).keys observerId
      else (activity.observers other).keys := by
  simp only [deleteSubscriber, observers, OrderedMap.get?_modify]
  by_cases hother : other = targetId.getD "undefined"
  · cases hfound : activity.subscribersOf.get? (targetId.getD "undefined") with
    | none => simp [hother, hfound, OrderedMap.empty, OrderedMap.keys,
        InsertionSet.delete]
    | some found =>
        simp [hother, hfound, OrderedMap.keys_erase, InsertionSet.delete]
  · simp [hother]

theorem Represents.unsubscribe (hrep : Represents activity s)
    (observerId : String) :
    Represents (activity.unsubscribeObserver observerId)
      (s.unsubscribe observerId) := by
  refine ⟨fun other => ?_, fun targetId => ?_⟩
  · simp [unsubscribeObserver, deleteSubscriber, deleteSubscribeTarget,
      Subscriptions.unsubscribe, hrep.target]
  · rw [unsubscribeObserver, observers_deleteSubscriber]
    change (if targetId = (activity.subscribeTarget observerId).getD
      "undefined" then InsertionSet.delete (activity.observers targetId).keys
        observerId else (activity.observers targetId).keys) =
      InsertionSet.delete (s.observers targetId) observerId
    rw [hrep.observers, subscribeTarget, hrep.target]
    split
    · rfl
    · rename_i hother
      -- the observer was on no other list
      rw [InsertionSet.delete_of_not_mem]
      intro hmem
      rw [s.inverse] at hmem
      exact hother (by simp [hmem])

theorem Represents.subscribe (hrep : Represents activity s)
    (observerId targetId : HexId) :
    Represents
      (activity.subscribeObserverToTarget observerId.value targetId.value)
      (s.subscribe observerId targetId) := by
  have hunsubscribed := hrep.unsubscribe observerId.value
  refine ⟨fun other => ?_, fun other => ?_⟩
  · have hother := hunsubscribed.target other
    simp only [subscribeObserverToTarget, addSubscriber, addSubscribeTarget,
      OrderedMap.get?_set, hother, Subscriptions.subscribe,
      Subscriptions.unsubscribe]
    by_cases hsame : other = observerId.value
    · simp [hsame]
    · simp [hsame]
  · have hbefore := hunsubscribed.observers
    have hgone : observerId.value ∉
        ((activity.unsubscribeObserver observerId.value).observers
          targetId.value).keys := by
      rw [hbefore]
      simp [Subscriptions.unsubscribe]
    change (((((activity.unsubscribeObserver
      observerId.value).subscribersOf.set targetId.value
        (((activity.unsubscribeObserver observerId.value).observers
          targetId.value).set observerId.value true)).get? other).getD
            .empty)).keys = _
    rw [OrderedMap.get?_set]
    by_cases hother : other = targetId.value
    · subst hother
      simp only [↓reduceIte, Option.getD_some, OrderedMap.keys_set, hgone,
        Subscriptions.subscribe]
      rw [hbefore]
      rfl
    · have hkept := hbefore other
      simp only [hother, ↓reduceIte, Subscriptions.subscribe]
      exact hkept

end Activity

/-! ### A cluster -/

/-- A list as it is stored; the field of an empty one is deleted. -/
def storedList (observersIds : List String) : Option String :=
  if observersIds.length = 0 then none
  else some (JoinedLists.join ',' observersIds)

namespace ActivityRedis

/-- A stored list of ids is read back. -/
theorem listOf_of_stored {redis : ActivityRedis} {targetId : String}
    {observersIds : List String}
    (hhex : ∀ observerId ∈ observersIds, IsHexId observerId)
    (hstored : redis.subscribersOf.get? targetId =
      storedList observersIds) : redis.listOf targetId = observersIds := by
  rw [listOf, hstored, storedList]
  by_cases hempty : observersIds.length = 0
  · rw [if_pos hempty, List.length_eq_zero_iff.1 hempty]
    rfl
  · rw [if_neg hempty]
    have hne : observersIds ≠ [] := fun hnil => hempty (by simp [hnil])
    have hjoined : JoinedLists.join ',' observersIds ≠ "" :=
      JoinedLists.join_ne_empty hne (fun observerId hmem =>
        (hhex observerId hmem).ne_empty)
    simp only [present, Option.filter_some, hjoined, ne_eq,
      not_false_eq_true, decide_true, ↓reduceIte]
    exact JoinedLists.split_join hne (fun observerId hmem =>
      (hhex observerId hmem).no_comma)

/-- The two hashes hold the subscriptions. -/
structure Represents (redis : ActivityRedis) (s : Subscriptions) :
    Prop where
  target : ∀ observerId,
    redis.subscribedTo.get? observerId = s.target observerId
  observers : ∀ targetId,
    redis.subscribersOf.get? targetId = storedList (s.observers targetId)

theorem represents_empty : Represents empty .empty :=
  ⟨fun _ => rfl, fun _ => rfl⟩

variable {redis : ActivityRedis} {s : Subscriptions}

theorem Represents.listOf (hrep : Represents redis s) (targetId : String) :
    redis.listOf targetId = s.observers targetId :=
  listOf_of_stored (fun _ => s.hex_of_mem) (hrep.observers targetId)

theorem Represents.target_eq (hrep : Represents redis s)
    (observerId : String) :
    redis.target observerId = s.target observerId := by
  rw [ActivityRedis.target, hrep.target]
  cases htarget : s.target observerId with
  | none => rfl
  | some targetId =>
      have hne := (s.hex observerId targetId htarget).2.ne_empty
      simp [present, hne]

end ActivityRedis

namespace ActivityCluster

open ActivityRedis

variable {redis : ActivityRedis} {s : Subscriptions}

/-- One list after its new value is written. -/
theorem get?_deleteSubscriber (redis : ActivityRedis)
    (targetId observerId other : String) :
    ((deleteSubscriber targetId observerId).run
        redis).2.subscribersOf.get? other =
      if other = targetId then
        storedList (InsertionSet.delete
          (InsertionSet.ofList (redis.listOf targetId)) observerId)
      else redis.subscribersOf.get? other := by
  simp only [deleteSubscriber, subscribers, Async.run_bind, Async.atomic,
    Async.run, storedList]
  by_cases hempty : (InsertionSet.delete
      (InsertionSet.ofList (redis.listOf targetId)) observerId).length = 0
  · simp [hempty]
  · simp [hempty]

theorem get?_addSubscriber (redis : ActivityRedis)
    (targetId observerId other : String) :
    ((addSubscriber targetId observerId).run
        redis).2.subscribersOf.get? other =
      if other = targetId then
        storedList (InsertionSet.add
          (InsertionSet.ofList (redis.listOf targetId)) observerId)
      else redis.subscribersOf.get? other := by
  have hne := InsertionSet.add_ne_nil
    (InsertionSet.ofList (redis.listOf targetId)) observerId
  simp [addSubscriber, subscribers, Async.atomic, Async.run, storedList, hne]

theorem represents_unsubscribe (hrep : redis.Represents s)
    (observerId : String) :
    ((unsubscribeObserver observerId).run redis).2.Represents
      (s.unsubscribe observerId) := by
  cases htarget : s.target observerId with
  | none =>
      have hread : redis.target observerId = none := by
        rw [hrep.target_eq, htarget]
      simp only [unsubscribeObserver, subscribeTarget, deleteSubscribeTarget,
        Async.run_bind, Async.atomic, Async.run, hread]
      refine ⟨fun other => ?_, fun targetId => ?_⟩
      · simp [Subscriptions.unsubscribe, hrep.target]
      · have hgone : observerId ∉ s.observers targetId := by
          rw [s.inverse, htarget]
          exact Option.some_ne_none targetId ∘ Eq.symm
        simp only [Subscriptions.unsubscribe,
          InsertionSet.delete_of_not_mem hgone]
        exact hrep.observers targetId
  | some targetId =>
      have hread : redis.target observerId = some targetId := by
        rw [hrep.target_eq, htarget]
      simp only [unsubscribeObserver, subscribeTarget, deleteSubscribeTarget,
        Async.run_bind, Async.atomic, Async.run, hread]
      refine ⟨fun other => ?_, fun other => ?_⟩
      · change (redis.subscribedTo.erase observerId).get? other = _
        simp [Subscriptions.unsubscribe, hrep.target]
      · rw [get?_deleteSubscriber]
        change (if other = targetId then storedList (InsertionSet.delete
          (InsertionSet.ofList (redis.listOf targetId)) observerId)
          else redis.subscribersOf.get? other) = _
        rw [hrep.listOf, InsertionSet.ofList_of_nodup (s.nodup targetId),
          hrep.observers]
        by_cases hother : other = targetId
        · rw [if_pos hother, hother]
          rfl
        · have hgone : observerId ∉ s.observers other := by
            rw [s.inverse, htarget, Option.some.injEq]
            exact Ne.symm hother
          rw [if_neg hother]
          simp only [Subscriptions.unsubscribe,
            InsertionSet.delete_of_not_mem hgone]

theorem represents_subscribe (hrep : redis.Represents s)
    (observerId targetId : HexId) :
    ((subscribeObserverToTarget observerId.value
      targetId.value).run redis).2.Represents
      (s.subscribe observerId targetId) := by
  have hunsubscribed := represents_unsubscribe hrep observerId.value
  simp only [subscribeObserverToTarget, Async.run_bind]
  generalize ((unsubscribeObserver observerId.value).run redis).2 =
    unsubscribed at hunsubscribed ⊢
  refine ⟨fun other => ?_, fun other => ?_⟩
  · change (unsubscribed.subscribedTo.set observerId.value
      targetId.value).get? other = _
    rw [OrderedMap.get?_set, hunsubscribed.target]
    by_cases hother : other = observerId.value
    · simp [Subscriptions.subscribe, hother]
    · simp [Subscriptions.subscribe, Subscriptions.unsubscribe, hother]
  · rw [get?_addSubscriber]
    change (if other = targetId.value then storedList (InsertionSet.add
      (InsertionSet.ofList (unsubscribed.listOf targetId.value))
        observerId.value) else unsubscribed.subscribersOf.get? other) = _
    rw [hunsubscribed.listOf, hunsubscribed.observers,
      InsertionSet.ofList_of_nodup
        ((s.unsubscribe observerId.value).nodup targetId.value)]
    by_cases hother : other = targetId.value
    · subst hother
      simp [Subscriptions.subscribe, Subscriptions.unsubscribe,
        InsertionSet.add]
    · simp [Subscriptions.subscribe, Subscriptions.unsubscribe, hother]

end ActivityCluster

/-! ### Both managers -/

namespace Subscriptions

/-- What a call does to the subscriptions. -/
def perform (s : Subscriptions) :
    ActivityCall → Option ActivityUpdate × Subscriptions
  | .subscribeObserverToTarget observerId targetId =>
      (none, s.subscribe observerId targetId)
  | .unsubscribeObserver observerId =>
      (none, s.unsubscribe observerId.value)
  | .updateUserActivity userId status currentTime =>
      let after :=
        if status ≠ onlineStatus then s.unsubscribe userId.value else s
      (after.update userId.value status currentTime, after)

end Subscriptions

theorem Activity.Represents.perform {activity : Activity}
    {s : Subscriptions} (hrep : activity.Represents s) (call : ActivityCall) :
    (activity.perform call).1 = (s.perform call).1 ∧
      (activity.perform call).2.Represents (s.perform call).2 := by
  cases call with
  | subscribeObserverToTarget observerId targetId =>
      exact ⟨rfl, hrep.subscribe observerId targetId⟩
  | unsubscribeObserver observerId =>
      exact ⟨rfl, hrep.unsubscribe observerId.value⟩
  | updateUserActivity userId status currentTime =>
      have hafter : (if status ≠ onlineStatus then
          activity.unsubscribeObserver userId.value else activity).Represents
          (if status ≠ onlineStatus then s.unsubscribe userId.value
            else s) := by
        split
        · exact hrep.unsubscribe userId.value
        · exact hrep
      simp only [Activity.perform, updateUserActivity, Subscriptions.perform,
        Subscriptions.update]
      generalize (if status ≠ onlineStatus then
        activity.unsubscribeObserver userId.value else activity) = after
        at hafter ⊢
      generalize (if status ≠ onlineStatus then s.unsubscribe userId.value
        else s) = told at hafter ⊢
      rw [hafter.subscribers]
      split
      · exact ⟨rfl, hafter⟩
      · exact ⟨rfl, hafter⟩

theorem ActivityCluster.run_activityUpdate {redis : ActivityRedis}
    {s : Subscriptions} (hrep : redis.Represents s) (userId status : String)
    (currentTime : Nat) :
    (activityUpdate userId status currentTime).run redis =
      (s.update userId status currentTime, redis) := by
  simp only [activityUpdate, subscribers, Async.run_bind, Async.atomic,
    Async.run, hrep.listOf, Subscriptions.update]
  split
  · rfl
  · rfl

theorem ActivityCluster.represents_perform {redis : ActivityRedis}
    {s : Subscriptions} (hrep : redis.Represents s) (call : ActivityCall) :
    ((perform call).run redis).1 = (s.perform call).1 ∧
      ((perform call).run redis).2.Represents (s.perform call).2 := by
  cases call with
  | subscribeObserverToTarget observerId targetId =>
      simp only [perform, Async.run_bind]
      exact ⟨rfl, represents_subscribe hrep observerId targetId⟩
  | unsubscribeObserver observerId =>
      simp only [perform, Async.run_bind]
      exact ⟨rfl, represents_unsubscribe hrep observerId.value⟩
  | updateUserActivity userId status currentTime =>
      by_cases hstatus : status = onlineStatus
      · have hrun : (perform (.updateUserActivity userId status
            currentTime)).run redis =
            (activityUpdate userId.value status currentTime).run redis := by
          simp [perform, updateUserActivity, hstatus]
        rw [hrun, run_activityUpdate hrep]
        simpa [Subscriptions.perform, hstatus] using hrep
      · have hafter := represents_unsubscribe hrep userId.value
        have hrun : (perform (.updateUserActivity userId status
            currentTime)).run redis =
            (activityUpdate userId.value status currentTime).run
              ((unsubscribeObserver userId.value).run redis).2 := by
          simp [perform, updateUserActivity, hstatus]
        rw [hrun, run_activityUpdate hafter]
        simpa [Subscriptions.perform, hstatus] using hafter

/-- After the same calls both managers hold the same subscriptions. -/
theorem performAll_represents (calls : List ActivityCall) :
    ∃ s : Subscriptions, (Activity.performAll calls).Represents s ∧
      (ActivityCluster.performAll calls).Represents s := by
  induction calls using List.reverseRecOn with
  | nil =>
      exact ⟨.empty, Activity.represents_empty,
        ActivityRedis.represents_empty⟩
  | append_singleton calls call ih =>
      obtain ⟨s, hnode, hredis⟩ := ih
      refine ⟨(s.perform call).2, ?_, ?_⟩
      · rw [Activity.performAll, List.foldl_append]
        exact (hnode.perform call).2
      · rw [ActivityCluster.performAll, List.foldl_append]
        exact (ActivityCluster.represents_perform hredis call).2

/-- What a caller sees of a manager: the target of an observer and the
subscribers of a target are inverse to each other, so an observer has one
target. -/
def InverseMaps (subscribeTarget : HexId → Option String)
    (subscribers : HexId → List String) : Prop :=
  (∀ observerId targetId : HexId,
    observerId.value ∈ subscribers targetId ↔
      subscribeTarget observerId = some targetId.value) ∧
  ∀ observerId targetId otherId : HexId,
    observerId.value ∈ subscribers targetId →
    observerId.value ∈ subscribers otherId → targetId = otherId

theorem inverseMaps_of_inverse {subscribeTarget : HexId → Option String}
    {subscribers : HexId → List String}
    (hinverse : ∀ observerId targetId : HexId,
      observerId.value ∈ subscribers targetId ↔
        subscribeTarget observerId = some targetId.value) :
    InverseMaps subscribeTarget subscribers := by
  refine ⟨hinverse, ?_⟩
  intro observerId targetId otherId htarget hother
  rw [hinverse] at htarget hother
  rw [htarget, Option.some.injEq] at hother
  cases targetId
  cases otherId
  simpa using hother

theorem Subscriptions.inverseMaps (s : Subscriptions) :
    InverseMaps (fun observerId => s.target observerId.value)
      (fun targetId => s.observers targetId.value) :=
  inverseMaps_of_inverse (fun _ _ => s.inverse _ _)

/-- After any calls without overlap the node that runs alone and the cluster
answer alike, to questions and to every next call, and in both the two maps
are inverse to each other. -/
theorem activity_managers_agree (calls : List ActivityCall) :
    let node := Activity.performAll calls
    let redis := ActivityCluster.performAll calls
    (∀ observerId : HexId, node.subscribeTarget observerId.value =
      ((ActivityCluster.subscribeTarget observerId.value).run redis).1) ∧
    (∀ targetId : HexId, node.subscribers targetId.value =
      ((ActivityCluster.subscribers targetId.value).run redis).1) ∧
    (∀ call, (node.perform call).1 =
      ((ActivityCluster.perform call).run redis).1) ∧
    InverseMaps (fun observerId => node.subscribeTarget observerId.value)
      (fun targetId => node.subscribers targetId.value) ∧
    InverseMaps
      (fun observerId =>
        ((ActivityCluster.subscribeTarget observerId.value).run redis).1)
      (fun targetId =>
        ((ActivityCluster.subscribers targetId.value).run redis).1) := by
  obtain ⟨s, hnode, hredis⟩ := performAll_represents calls
  have htarget : ∀ observerId : HexId,
      ((ActivityCluster.subscribeTarget observerId.value).run
        (ActivityCluster.performAll calls)).1 = s.target observerId.value :=
    fun observerId => hredis.target_eq observerId.value
  have hlist : ∀ targetId : HexId,
      ((ActivityCluster.subscribers targetId.value).run
        (ActivityCluster.performAll calls)).1 = s.observers targetId.value :=
    fun targetId => hredis.listOf targetId.value
  have hnodeTarget := fun observerId : HexId =>
    hnode.target observerId.value
  have hnodeList := fun targetId : HexId => hnode.subscribers targetId.value
  refine ⟨?_, ?_, ?_, ?_, ?_⟩
  · intro observerId
    exact (hnodeTarget observerId).trans (htarget observerId).symm
  · intro targetId
    exact (hnodeList targetId).trans (hlist targetId).symm
  · intro call
    exact (hnode.perform call).1.trans
      (ActivityCluster.represents_perform hredis call).1.symm
  · simp only [Activity.subscribeTarget, hnodeTarget, hnodeList]
    exact s.inverseMaps
  · simp only [htarget, hlist]
    exact s.inverseMaps

end SamaServer
