/-
What the Redis programs of the session service can touch: never the tables of
a node, and in Redis only the keys of the one user they are about.
-/
import SamaServer.UserOperations

namespace SamaServer

namespace Redis

/-- What Redis stores about one device of a user, in all organizations and on
all nodes, is the same in both states. -/
structure SameDevice (userId : UserId) (deviceId : DeviceId)
    (before after : Redis) : Prop where
  devices : ∀ organizationId,
    deviceId ∈ after.userDevices.members (organizationId, userId) ↔
      deviceId ∈ before.userDevices.members (organizationId, userId)
  data : after.userData.get? (userId, deviceId) =
    before.userData.get? (userId, deviceId)
  onNode : ∀ endpoint organizationId,
    (organizationId, userId, deviceId) ∈ after.nodeUsers.members endpoint ↔
      (organizationId, userId, deviceId) ∈ before.nodeUsers.members endpoint

/-- Two states that differ at most in one device of one user. -/
def SameOtherDevices (userId : UserId) (deviceId : DeviceId)
    (before after : Redis) : Prop :=
  ∀ otherUser otherDevice, (otherUser, otherDevice) ≠ (userId, deviceId) →
    SameDevice otherUser otherDevice before after

/-- Two states that differ at most in the keys of one user. -/
def SameOthers (userId : UserId) (before after : Redis) : Prop :=
  ∀ otherUser deviceId, otherUser ≠ userId →
    SameDevice otherUser deviceId before after

section Relations

variable {userId : UserId} {deviceId : DeviceId}
  {first second third before after : Redis}

theorem SameDevice.refl (redis : Redis) :
    SameDevice userId deviceId redis redis :=
  ⟨fun _ => Iff.rfl, rfl, fun _ _ => Iff.rfl⟩

theorem SameDevice.trans (hfirst : SameDevice userId deviceId first second)
    (hsecond : SameDevice userId deviceId second third) :
    SameDevice userId deviceId first third :=
  ⟨fun organizationId => (hsecond.devices organizationId).trans
      (hfirst.devices organizationId),
    hsecond.data.trans hfirst.data,
    fun endpoint organizationId => (hsecond.onNode endpoint
      organizationId).trans (hfirst.onNode endpoint organizationId)⟩

theorem SameDevice.extraParams
    (hsame : SameDevice userId deviceId before after) :
    after.retrieveUserExtraParams userId deviceId =
      before.retrieveUserExtraParams userId deviceId := by
  rw [retrieveUserExtraParams, hsame.data, retrieveUserExtraParams]

theorem SameOtherDevices.trans
    (hfirst : SameOtherDevices userId deviceId first second)
    (hsecond : SameOtherDevices userId deviceId second third) :
    SameOtherDevices userId deviceId first third :=
  fun otherUser otherDevice hother =>
    (hfirst otherUser otherDevice hother).trans
      (hsecond otherUser otherDevice hother)

theorem SameOtherDevices.sameOthers
    (hsame : SameOtherDevices userId deviceId before after) :
    SameOthers userId before after := by
  intro otherUser otherDevice hother
  apply hsame otherUser otherDevice
  intro heq
  exact hother (Prod.mk.injEq .. ▸ heq).1

theorem SameOthers.refl (redis : Redis) : SameOthers userId redis redis :=
  fun _ _ _ => .refl redis

theorem SameOthers.trans (hfirst : SameOthers userId first second)
    (hsecond : SameOthers userId second third) :
    SameOthers userId first third :=
  fun otherUser deviceId hother => (hfirst otherUser deviceId hother).trans
    (hsecond otherUser deviceId hother)

end Relations

section Commands

variable (redis : Redis) (endpoint : Endpoint)
  (organizationId : OrganizationId) (userId : UserId) (deviceId : DeviceId)

theorem sameOtherDevices_addUserDeviceToNode :
    SameOtherDevices userId deviceId redis
      (redis.addUserDeviceToNode endpoint organizationId userId
        deviceId) := by
  intro otherUser otherDevice hother
  refine ⟨fun _ => Iff.rfl, rfl, fun _ _ => ?_⟩
  rw [addUserDeviceToNode, OrderedMap.mem_members_addMember,
    or_iff_right]
  rintro ⟨-, heq⟩
  exact hother (Prod.mk.inj heq).2

theorem sameOtherDevices_removeUserDeviceFromNode :
    SameOtherDevices userId deviceId redis
      (redis.removeUserDeviceFromNode endpoint organizationId userId
        deviceId) := by
  intro otherUser otherDevice hother
  refine ⟨fun _ => Iff.rfl, rfl, fun _ _ => ?_⟩
  rw [removeUserDeviceFromNode, OrderedMap.mem_members_removeMember,
    and_iff_left]
  rintro ⟨-, heq⟩
  exact hother (Prod.mk.inj heq).2

theorem sameOtherDevices_addUserDevice :
    SameOtherDevices userId deviceId redis
      (redis.addUserDevice organizationId userId deviceId) := by
  intro otherUser otherDevice hother
  refine ⟨fun _ => ?_, rfl, fun _ _ => Iff.rfl⟩
  rw [addUserDevice, OrderedMap.mem_members_addMember, or_iff_right]
  rintro ⟨hkey, rfl⟩
  exact hother (by rw [(Prod.mk.inj hkey).2])

theorem sameOtherDevices_removeUserDevice :
    SameOtherDevices userId deviceId redis
      (redis.removeUserDevice organizationId userId deviceId) := by
  intro otherUser otherDevice hother
  refine ⟨fun _ => ?_, rfl, fun _ _ => Iff.rfl⟩
  rw [removeUserDevice, OrderedMap.mem_members_removeMember, and_iff_left]
  rintro ⟨hkey, rfl⟩
  exact hother (by rw [(Prod.mk.inj hkey).2])

theorem sameOtherDevices_deleteUserExtraParams :
    SameOtherDevices userId deviceId redis
      (redis.deleteUserExtraParams userId deviceId) :=
  fun _ _ hother => ⟨fun _ => Iff.rfl,
    by rw [deleteUserExtraParams, OrderedMap.get?_erase, if_neg hother],
    fun _ _ => Iff.rfl⟩

theorem sameOtherDevices_setUserNode :
    SameOtherDevices userId deviceId redis
      (redis.setUserNode userId deviceId endpoint) :=
  fun _ _ hother => ⟨fun _ => Iff.rfl,
    by rw [setUserNode, OrderedMap.get?_set, if_neg hother],
    fun _ _ => Iff.rfl⟩

theorem sameOtherDevices_setUserInactive (isInactive : Bool) :
    SameOtherDevices userId deviceId redis
      (redis.setUserInactive userId deviceId isInactive) := by
  intro otherUser otherDevice hother
  refine ⟨fun _ => Iff.rfl, ?_, fun _ _ => Iff.rfl⟩
  simp only [setUserInactive]
  split
  · rw [OrderedMap.get?_erase, if_neg hother]
  · rw [OrderedMap.get?_set, if_neg hother]

theorem sameOtherDevices_addUserDeviceDataTransaction :
    SameOtherDevices userId deviceId redis
      (redis.addUserDeviceDataTransaction endpoint organizationId userId
        deviceId) :=
  ((sameOtherDevices_addUserDevice redis organizationId userId
    deviceId).trans (sameOtherDevices_setUserNode _ endpoint userId
      deviceId)).trans (sameOtherDevices_addUserDeviceToNode _ endpoint
        organizationId userId deviceId)

theorem sameOtherDevices_removeAllUserDeviceDataTransaction :
    SameOtherDevices userId deviceId redis
      (redis.removeAllUserDeviceDataTransaction endpoint organizationId
        userId deviceId) :=
  ((sameOtherDevices_removeUserDevice redis organizationId userId
    deviceId).trans (sameOtherDevices_deleteUserExtraParams _ userId
      deviceId)).trans (sameOtherDevices_removeUserDeviceFromNode _ endpoint
        organizationId userId deviceId)

theorem sameOthers_deleteUserDevices :
    SameOthers userId redis
      (redis.deleteUserDevices organizationId userId) := by
  intro otherUser otherDevice hother
  refine ⟨fun _ => ?_, rfl, fun _ _ => Iff.rfl⟩
  rw [deleteUserDevices, OrderedMap.members_erase, if_neg]
  intro hkey
  exact hother (Prod.mk.inj hkey).2

end Commands

end Redis

/-- A step on behalf of one user that leaves the tables of all nodes, and the
Redis keys of everybody else, as they are. -/
structure OnlyRedisOf (userId : UserId) (before after : Cluster) : Prop where
  node : after.node = before.node
  redis : Redis.SameOthers userId before.redis after.redis

namespace OnlyRedisOf

variable {userId : UserId}

theorem refl (cluster : Cluster) : OnlyRedisOf userId cluster cluster :=
  ⟨rfl, .refl cluster.redis⟩

theorem trans (first second third : Cluster)
    (hfirst : OnlyRedisOf userId first second)
    (hsecond : OnlyRedisOf userId second third) :
    OnlyRedisOf userId first third :=
  ⟨hsecond.node.trans hfirst.node, hfirst.redis.trans hsecond.redis⟩

end OnlyRedisOf

/-- A program all of whose steps are of this kind, none of them being a block
that changes the tables of a node. -/
def StaysWith {A : Type} (userId : UserId) (program : Service A) : Prop :=
  program.Guarantees (fun label before after =>
    label.isBlock = false ∧ OnlyRedisOf userId before after)

namespace StaysWith

variable {A B : Type} {userId : UserId} {label : Label}

theorem pure (result : A) : StaysWith userId (Pure.pure result : Service A) :=
  trivial

theorem bind {program : Service A} {rest : A → Service B}
    (hprogram : StaysWith userId program)
    (hrest : ∀ result, StaysWith userId (rest result)) :
    StaysWith userId (program >>= rest) :=
  Async.guarantees_bind hprogram hrest

theorem redisUpdate {update : Redis → Redis}
    (hlabel : label.isBlock = false)
    (hupdate : ∀ redis, Redis.SameOthers userId redis (update redis)) :
    StaysWith userId (redisUpdate label update) :=
  Async.guarantees_atomic (fun cluster =>
    ⟨hlabel, rfl, hupdate cluster.redis⟩)

theorem redisQuery {query : Redis → A} (hlabel : label.isBlock = false) :
    StaysWith userId (redisQuery label query) :=
  Async.guarantees_atomic (fun cluster => ⟨hlabel, .refl cluster⟩)

theorem awaitAnswer {answer : A} : StaysWith userId (awaitAnswer answer) :=
  Async.guarantees_atomic (fun cluster => ⟨rfl, .refl cluster⟩)

/-- Reading the tables of a node changes nothing. -/
theorem nodeQuery {endpoint : Endpoint} {query : ActiveSessions → A}
    (hlabel : label.isBlock = false) :
    StaysWith userId (nodeBlock label endpoint (fun active =>
      (query active, active))) :=
  Async.guarantees_atomic (fun cluster => by
    refine ⟨hlabel, ?_, .refl cluster.redis⟩
    funext other
    by_cases hother : other = endpoint <;> simp [hother])

end StaysWith

namespace SessionService

variable (deployment : Deployment) (endpoint : Endpoint)
  (organizationId : OrganizationId) (userId : UserId) (deviceId : DeviceId)

theorem staysWith_filterActualDeviceIds (deviceIds : List DeviceId) :
    StaysWith userId
      (filterActualDeviceIds endpoint organizationId userId deviceIds) := by
  induction deviceIds with
  | nil => exact .pure _
  | cons deviceId deviceIds ih =>
      refine .bind (.redisQuery rfl) (fun deviceExt => ?_)
      refine .bind (.nodeQuery rfl) (fun notActual => ?_)
      cases notActual with
      | true =>
          exact .bind (.redisUpdate rfl (fun redis =>
            (redis.sameOtherDevices_removeAllUserDeviceDataTransaction
              endpoint organizationId userId deviceId).sameOthers))
            (fun _ => ih)
      | false => exact .bind ih (fun _ => .pure _)

theorem staysWith_listUserDevice (filterActualDevices : Bool) :
    StaysWith userId (listUserDevice deployment endpoint organizationId
      userId filterActualDevices) := by
  unfold listUserDevice
  split
  · exact .nodeQuery rfl
  · refine .bind (.redisQuery rfl) (fun deviceIds => ?_)
    split
    · exact staysWith_filterActualDeviceIds endpoint organizationId userId
        deviceIds
    · exact .pure _

theorem staysWith_removeDeviceKeys :
    StaysWith userId
      (removeDeviceKeys endpoint organizationId userId deviceId) := by
  refine .bind (.redisUpdate rfl (fun redis =>
    (redis.sameOtherDevices_removeUserDevice organizationId userId
      deviceId).sameOthers)) (fun _ => ?_)
  refine .bind (.redisQuery rfl) (fun extraParams => ?_)
  refine .bind (.redisUpdate rfl (fun redis =>
    (redis.sameOtherDevices_deleteUserExtraParams userId
      deviceId).sameOthers)) (fun _ => ?_)
  exact .redisUpdate rfl (fun redis =>
    (redis.sameOtherDevices_removeUserDeviceFromNode _ organizationId
      userId deviceId).sameOthers)

theorem staysWith_removeAllUserDeviceData :
    StaysWith userId (removeAllUserDeviceData deployment endpoint
      organizationId userId deviceId) := by
  refine .bind (staysWith_removeDeviceKeys endpoint organizationId userId
    deviceId) (fun _ => ?_)
  exact .bind (staysWith_listUserDevice deployment endpoint organizationId
    userId true) (fun _ => .pure _)

theorem staysWith_storeUserNodeData :
    StaysWith userId (storeUserNodeData deployment endpoint organizationId
      userId deviceId) := by
  unfold storeUserNodeData
  split
  · exact .pure _
  · refine .bind (staysWith_listUserDevice deployment endpoint
      organizationId userId false) (fun userDeviceIds => ?_)
    split
    · refine .bind (staysWith_removeAllUserDeviceData deployment endpoint
        organizationId userId deviceId) (fun _ => ?_)
      exact .redisUpdate rfl (fun redis =>
        (redis.sameOtherDevices_addUserDeviceDataTransaction endpoint
          organizationId userId deviceId).sameOthers)
    · exact .redisUpdate rfl (fun redis =>
        (redis.sameOtherDevices_addUserDeviceDataTransaction endpoint
          organizationId userId deviceId).sameOthers)

theorem staysWith_finishRemoval
    (removed : ActiveSessions.RemovedConnection) :
    StaysWith userId (finishRemoval deployment endpoint userId removed) := by
  unfold finishRemoval
  split
  · exact .pure _
  · split
    · exact .pure _
    · exact staysWith_removeAllUserDeviceData deployment endpoint _ userId _

theorem staysWith_readUserData (deviceIds : List DeviceId)
    (userData : OrderedMap DeviceId ExtraParams) :
    StaysWith userId (readUserData userId deviceIds userData) := by
  induction deviceIds generalizing userData with
  | nil => exact .pure _
  | cons deviceId deviceIds ih =>
      exact .bind (.redisQuery rfl) (fun extraParams => ih _)

theorem staysWith_removeFromNodes
    (userData : List (DeviceId × ExtraParams)) :
    StaysWith userId (removeFromNodes organizationId userId userData) := by
  induction userData with
  | nil => exact .pure _
  | cons entry userData ih =>
      obtain ⟨deviceId, extraParams⟩ := entry
      rw [removeFromNodes]
      split
      · exact ih
      · exact .bind (.redisUpdate rfl (fun redis =>
          (redis.sameOtherDevices_removeUserDeviceFromNode _ organizationId
            userId deviceId).sameOthers)) (fun _ => ih)

theorem staysWith_deleteAllExtraParams (deviceIds : List DeviceId) :
    StaysWith userId (deleteAllExtraParams userId deviceIds) := by
  induction deviceIds with
  | nil => exact .pure _
  | cons deviceId deviceIds ih =>
      exact .bind (.redisUpdate rfl (fun redis =>
        (redis.sameOtherDevices_deleteUserExtraParams userId
          deviceId).sameOthers)) (fun _ => ih)

theorem staysWith_deleteUserData :
    StaysWith userId
      (deleteUserData deployment endpoint organizationId userId) := by
  refine .bind (staysWith_listUserDevice deployment endpoint organizationId
    userId false) (fun userDevices => ?_)
  refine .bind (staysWith_deleteAllExtraParams userId userDevices)
    (fun _ => ?_)
  exact .redisUpdate rfl (fun redis =>
    redis.sameOthers_deleteUserDevices organizationId userId)

theorem staysWith_forgetUser :
    StaysWith userId
      (forgetUser deployment endpoint organizationId userId) := by
  refine .bind ?_ (fun userData => ?_)
  · unfold listUserData
    split
    · exact .nodeQuery rfl
    · exact .bind (staysWith_listUserDevice deployment endpoint
        organizationId userId false)
        (fun userDevices => staysWith_readUserData userId userDevices _)
  · refine .bind (staysWith_removeFromNodes organizationId userId _)
      (fun _ => ?_)
    exact staysWith_deleteUserData deployment endpoint organizationId userId

end SessionService

theorem StaysWith.run_only {A : Type} {userId : UserId}
    {program : Service A} (hprogram : StaysWith userId program)
    (cluster : Cluster) :
    OnlyRedisOf userId cluster (program.run cluster).2 :=
  Async.Guarantees.run (fun _ _ _ hstep => hstep.2) OnlyRedisOf.refl
    OnlyRedisOf.trans hprogram cluster

/-- Such a program leaves the tables of every node as they were. -/
theorem StaysWith.run_node {A : Type} {userId : UserId}
    {program : Service A} (hprogram : StaysWith userId program)
    (cluster : Cluster) : (program.run cluster).2.node = cluster.node :=
  hprogram.run_only cluster |>.node

end SamaServer
