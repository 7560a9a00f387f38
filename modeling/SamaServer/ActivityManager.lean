/-
Who is told of whose activity.  An observer is subscribed to at most one
target.  A node that runs alone keeps the subscriptions in two objects; in a
cluster they are in two Redis hashes, with the observers of a target joined to
one text.
-/
import SamaServer.Async
import SamaServer.JoinedLists
import SamaServer.OrderedMap
import SamaServer.PropertyOrder

namespace SamaServer

/-- 24 hexadecimal digits. -/
def IsHexId (text : String) : Prop :=
  text.toList.length = 24 ∧
    ∀ digit ∈ text.toList, digit ∈ "0123456789abcdefABCDEF".toList

instance (text : String) : Decidable (IsHexId text) :=
  decidable_of_iff (text.toList.length = 24 ∧
    text.toList.all (fun digit =>
      digit ∈ "0123456789abcdefABCDEF".toList)) (by simp [IsHexId])

/-- The id of a user, as it is written. -/
structure HexId where
  value : String
  hex : IsHexId value
deriving DecidableEq

section HexIds

variable {text : String} (hhex : IsHexId text)
include hhex

theorem IsHexId.ne_empty : text ≠ "" := by
  rintro rfl
  cases hhex.1

theorem IsHexId.no_comma : ',' ∉ text.toList := by
  intro hcomma
  have hdigit := hhex.2 ',' hcomma
  revert hdigit
  decide

end HexIds

/-- An object lists ids in the order of their insertion. -/
theorem IsHexId.not_isArrayIndex {text : String} (hhex : IsHexId text) :
    isArrayIndex text = false := by
  rw [Bool.eq_false_iff]
  intro hindex
  simp only [isArrayIndex, Bool.and_eq_true, Bool.or_eq_true,
    decide_eq_true_eq, beq_iff_eq, hhex.1] at hindex
  obtain ⟨⟨⟨-, hdigits⟩, hhead⟩, hsmall⟩ := hindex
  cases hchars : text.toList with
  | nil =>
      have hlength := hhex.1
      rw [hchars] at hlength
      cases hlength
  | cons first rest =>
      have hlength := hhex.1
      rw [hchars] at hdigits hhead hsmall hlength
      have hrest : rest.length = 23 := by simpa using hlength
      have hfirst : 1 ≤ first.toNat - 48 := by
        have hdigit : first.isDigit := by
          simp only [List.all_cons, Bool.and_eq_true] at hdigits
          exact hdigits.1
        have hzero : first ≠ '0' := by simpa using hhead
        have hge : '0'.toNat ≤ first.toNat := by
          simp only [Char.isDigit, Bool.and_eq_true, decide_eq_true_eq] at hdigit
          exact hdigit.1
        have hne : first.toNat ≠ '0'.toNat :=
          fun heq => hzero (Char.toNat_inj.1 heq)
        have hvalue : '0'.toNat = 48 := rfl
        omega
      have hlarge := le_foldl_digits rest (0 * 10 + (first.toNat - 48))
      rw [digitsValue, List.foldl_cons] at hsmall
      rw [hrest] at hlarge
      omega

/-- What `updateUserActivity` answers with when somebody is subscribed. -/
structure ActivityUpdate where
  subscribers : List String
  targetUserId : String
  timestamp : Nat
  status : String
deriving DecidableEq

/-- `LAST_ACTIVITY_STATUS.ONLINE` -/
def onlineStatus : String := "online"

/-! ### One node -/

/-- The objects `SUBSCRIBED_TO` and `SUBSCRIBERS`. -/
structure Activity where
  subscribedTo : OrderedMap String String
  subscribersOf : OrderedMap String (OrderedMap String Bool)

namespace Activity

def empty : Activity := ⟨.empty, .empty⟩

def subscribeTarget (s : Activity) (observerId : String) : Option String :=
  s.subscribedTo.get? observerId

def addSubscribeTarget (s : Activity) (observerId targetId : String) :
    Activity :=
  { s with subscribedTo := s.subscribedTo.set observerId targetId }

def deleteSubscribeTarget (s : Activity) (observerId : String) : Activity :=
  { s with subscribedTo := s.subscribedTo.erase observerId }

/-- The properties of `SUBSCRIBERS[targetId] || {}`. -/
def observers (s : Activity) (targetId : String) : OrderedMap String Bool :=
  (s.subscribersOf.get? targetId).getD .empty

def subscribers (s : Activity) (targetId : String) : List String :=
  propertyOrder id (s.observers targetId).keys

def addSubscriber (s : Activity) (targetId observerId : String) : Activity :=
  { s with
    subscribersOf := s.subscribersOf.set targetId
      ((s.observers targetId).set observerId true) }

/-- Without a target the property that is looked for is `undefined`. -/
def deleteSubscriber (s : Activity) (targetId : Option String)
    (observerId : String) : Activity :=
  { s with
    subscribersOf := s.subscribersOf.modify (targetId.getD "undefined")
      (fun observers => observers.erase observerId) }

def unsubscribeObserver (s : Activity) (observerId : String) : Activity :=
  let targetId := s.subscribeTarget observerId
  (s.deleteSubscribeTarget observerId).deleteSubscriber targetId observerId

def subscribeObserverToTarget (s : Activity) (observerId targetId : String) :
    Activity :=
  ((s.unsubscribeObserver observerId).addSubscribeTarget observerId
    targetId).addSubscriber targetId observerId

def updateUserActivity (s : Activity) (userId status : String)
    (currentTime : Nat) : Option ActivityUpdate × Activity :=
  let s := if status ≠ onlineStatus then s.unsubscribeObserver userId else s
  let activitySubscribers := s.subscribers userId
  if activitySubscribers.length = 0 then (none, s)
  else (some ⟨activitySubscribers, userId, currentTime, status⟩, s)

end Activity

/-! ### A cluster -/

/-- The hashes `sama:subscribed_to` and `sama:subscribers`. -/
structure ActivityRedis where
  subscribedTo : OrderedMap String String
  subscribersOf : OrderedMap String String

def ActivityRedis.empty : ActivityRedis := ⟨.empty, .empty⟩

/-- The Redis commands of the manager.  A command that writes carries what
the call has read before. -/
inductive ActivityCommand
  | getTarget (observerId : String)
  | deleteTarget (observerId : String) (read : Option String)
  | setTarget (observerId targetId : String)
  | getSubscribers (targetId : String)
  | removeSubscriber (targetId observerId : String) (read : List String)
  | addSubscriber (targetId observerId : String) (read : List String)
deriving DecidableEq

abbrev ActivityService := Async ActivityCommand ActivityRedis

namespace ActivityRedis

/-- A value that is tested for its truth. -/
def present (value : Option String) : Option String :=
  value.filter (fun text => text ≠ "")

def target (s : ActivityRedis) (observerId : String) : Option String :=
  present (s.subscribedTo.get? observerId)

def listOf (s : ActivityRedis) (targetId : String) : List String :=
  match present (s.subscribersOf.get? targetId) with
  | some observersIds => JoinedLists.split ',' observersIds
  | none => []

end ActivityRedis

namespace ActivityCluster

def subscribeTarget (observerId : String) : ActivityService (Option String) :=
  Async.atomic (.getTarget observerId) (fun s => (s.target observerId, s))

def addSubscribeTarget (observerId targetId : String) :
    ActivityService Unit :=
  Async.atomic (.setTarget observerId targetId) (fun s =>
    ((), { s with subscribedTo := s.subscribedTo.set observerId targetId }))

def deleteSubscribeTarget (observerId : String) (read : Option String) :
    ActivityService Unit :=
  Async.atomic (.deleteTarget observerId read) (fun s =>
    ((), { s with subscribedTo := s.subscribedTo.erase observerId }))

def subscribers (targetId : String) : ActivityService (List String) :=
  Async.atomic (.getSubscribers targetId) (fun s => (s.listOf targetId, s))

def addSubscriber (targetId observerId : String) : ActivityService Unit := do
  let observersIdsArr ← subscribers targetId
  let observersIds := InsertionSet.add (InsertionSet.ofList observersIdsArr)
    observerId
  Async.atomic (.addSubscriber targetId observerId observersIdsArr) (fun s =>
    ((), { s with
      subscribersOf := s.subscribersOf.set targetId
        (JoinedLists.join ',' observersIds) }))

/-- The hash field is deleted when nobody is left. -/
def deleteSubscriber (targetId observerId : String) :
    ActivityService Unit := do
  let observersIdsArr ← subscribers targetId
  let observersIds := InsertionSet.delete
    (InsertionSet.ofList observersIdsArr) observerId
  Async.atomic (.removeSubscriber targetId observerId observersIdsArr)
    (fun s => ((), { s with
      subscribersOf :=
        if observersIds.length = 0 then s.subscribersOf.erase targetId
        else s.subscribersOf.set targetId
          (JoinedLists.join ',' observersIds) }))

def unsubscribeObserver (observerId : String) : ActivityService Unit := do
  let targetId ← subscribeTarget observerId
  deleteSubscribeTarget observerId targetId
  match targetId with
  | some targetId => deleteSubscriber targetId observerId
  | none => pure ()

def subscribeObserverToTarget (observerId targetId : String) :
    ActivityService Unit := do
  unsubscribeObserver observerId
  addSubscribeTarget observerId targetId
  addSubscriber targetId observerId

/-- The end of `updateUserActivity`: what there is to tell. -/
def activityUpdate (userId status : String) (currentTime : Nat) :
    ActivityService (Option ActivityUpdate) := do
  let activitySubscribers ← subscribers userId
  if activitySubscribers.length = 0 then pure none
  else pure (some ⟨activitySubscribers, userId, currentTime, status⟩)

def updateUserActivity (userId status : String) (currentTime : Nat) :
    ActivityService (Option ActivityUpdate) := do
  if status ≠ onlineStatus then unsubscribeObserver userId
  activityUpdate userId status currentTime

end ActivityCluster

/-! ### Calls without overlap -/

inductive ActivityCall
  | subscribeObserverToTarget (observerId targetId : HexId)
  | unsubscribeObserver (observerId : HexId)
  | updateUserActivity (userId : HexId) (status : String)
      (currentTime : Nat)
deriving DecidableEq

def Activity.perform (s : Activity) :
    ActivityCall → Option ActivityUpdate × Activity
  | .subscribeObserverToTarget observerId targetId =>
      (none, s.subscribeObserverToTarget observerId.value targetId.value)
  | .unsubscribeObserver observerId =>
      (none, s.unsubscribeObserver observerId.value)
  | .updateUserActivity userId status currentTime =>
      s.updateUserActivity userId.value status currentTime

def Activity.performAll (calls : List ActivityCall) : Activity :=
  calls.foldl (fun s call => (s.perform call).2) .empty

namespace ActivityCluster

def perform : ActivityCall → ActivityService (Option ActivityUpdate)
  | .subscribeObserverToTarget observerId targetId => do
      subscribeObserverToTarget observerId.value targetId.value
      pure none
  | .unsubscribeObserver observerId => do
      unsubscribeObserver observerId.value
      pure none
  | .updateUserActivity userId status currentTime =>
      updateUserActivity userId.value status currentTime

def performAll (calls : List ActivityCall) : ActivityRedis :=
  calls.foldl (fun s call => ((perform call).run s).2) .empty

end ActivityCluster

end SamaServer
