/-
Registrations in Redis when requests do not overlap.  The invariant is that a
registration found in a node's set is complete: its device is in the user's
set and its hash names that very node.  Logging in then registers exactly the
new connection, unless the socket was already connected with the same device.
-/
import SamaServer.Requests
import SamaServer.TableAgreement

namespace SamaServer

namespace Redis

/-- None of the three structures knows the device. -/
structure Gone (redis : Redis) (organizationId : OrganizationId)
    (userId : UserId) (deviceId : DeviceId) : Prop where
  devices : deviceId ∉ redis.userDevices.members (organizationId, userId)
  data : redis.userData.get? (userId, deviceId) = none
  onNode : ∀ endpoint, (organizationId, userId, deviceId) ∉
    redis.nodeUsers.members endpoint

/-- All three structures register the device on the node. -/
structure RegisteredAt (redis : Redis) (endpoint : Endpoint)
    (organizationId : OrganizationId) (userId : UserId)
    (deviceId : DeviceId) : Prop where
  devices : deviceId ∈ redis.userDevices.members (organizationId, userId)
  node : (redis.retrieveUserExtraParams userId deviceId).nodeEndpoint =
    some endpoint
  onNode : (organizationId, userId, deviceId) ∈
    redis.nodeUsers.members endpoint

/-- Every member of a node's set is registered on that node, under the
organization of its user. -/
def Consistent (deployment : Deployment) (redis : Redis) : Prop :=
  ∀ endpoint organizationId userId deviceId,
    (organizationId, userId, deviceId) ∈ redis.nodeUsers.members endpoint →
    organizationId = deployment.organizationOf userId ∧
      redis.RegisteredAt endpoint organizationId userId deviceId

section Transfer

variable {deployment : Deployment} {before after : Redis}
  {endpoint : Endpoint} {organizationId : OrganizationId} {userId : UserId}
  {deviceId : DeviceId}

theorem Gone.of_same (hgone : before.Gone organizationId userId deviceId)
    (hsame : SameDevice userId deviceId before after) :
    after.Gone organizationId userId deviceId :=
  ⟨fun hmem => hgone.devices ((hsame.devices organizationId).1 hmem),
    hsame.data.trans hgone.data,
    fun endpoint hmem => hgone.onNode endpoint
      ((hsame.onNode endpoint organizationId).1 hmem)⟩

theorem RegisteredAt.of_same
    (hregistered : before.RegisteredAt endpoint organizationId userId
      deviceId)
    (hsame : SameDevice userId deviceId before after) :
    after.RegisteredAt endpoint organizationId userId deviceId :=
  ⟨(hsame.devices organizationId).2 hregistered.devices,
    by rw [hsame.extraParams]; exact hregistered.node,
    (hsame.onNode endpoint organizationId).2 hregistered.onNode⟩

theorem consistent_empty : Consistent deployment empty := by
  intro endpoint organizationId userId deviceId hmem
  simp [empty] at hmem

/-- A change at one device only has to be checked there. -/
theorem Consistent.of_sameOtherDevices
    (hconsistent : before.Consistent deployment)
    (hsame : SameOtherDevices userId deviceId before after)
    (hdevice : ∀ endpoint organizationId,
      (organizationId, userId, deviceId) ∈ after.nodeUsers.members endpoint →
      organizationId = deployment.organizationOf userId ∧
        after.RegisteredAt endpoint organizationId userId deviceId) :
    after.Consistent deployment := by
  intro endpoint organizationId otherUser otherDevice hmem
  by_cases hother : (otherUser, otherDevice) = (userId, deviceId)
  · obtain ⟨rfl, rfl⟩ := Prod.mk.inj hother
    exact hdevice endpoint organizationId hmem
  · have hold := hsame otherUser otherDevice hother
    obtain ⟨horganization, hregistered⟩ := hconsistent endpoint
      organizationId otherUser otherDevice
      ((hold.onNode endpoint organizationId).1 hmem)
    exact ⟨horganization, hregistered.of_same hold⟩

theorem Consistent.node_eq (hconsistent : before.Consistent deployment)
    (hmem : (organizationId, userId, deviceId) ∈
      before.nodeUsers.members endpoint) :
    (before.retrieveUserExtraParams userId deviceId).nodeEndpoint =
      some endpoint :=
  (hconsistent endpoint organizationId userId deviceId hmem).2.node

/-- A device that its user's set does not list is on no node. -/
theorem Consistent.not_onNode (hconsistent : before.Consistent deployment)
    (hdevices : deviceId ∉ before.userDevices.members
      (deployment.organizationOf userId, userId)) (endpoint : Endpoint)
    (organizationId : OrganizationId) :
    (organizationId, userId, deviceId) ∉
      before.nodeUsers.members endpoint := by
  intro hmem
  obtain ⟨rfl, hregistered⟩ := hconsistent endpoint organizationId userId
    deviceId hmem
  exact hdevices hregistered.devices

end Transfer

section Commands

variable {deployment : Deployment} (redis : Redis) (endpoint : Endpoint)
  (userId : UserId) (deviceId : DeviceId)

/-- The effect of the commands of `removeAllUserDeviceData` when nothing runs
in between. -/
def removeKeys (organizationId : OrganizationId) : Redis :=
  ((redis.removeUserDevice organizationId userId
    deviceId).deleteUserExtraParams userId
      deviceId).removeUserDeviceFromNode
        ((redis.retrieveUserExtraParams userId
          deviceId).nodeEndpoint.getD endpoint) organizationId userId deviceId

theorem sameOtherDevices_removeKeys (organizationId : OrganizationId) :
    SameOtherDevices userId deviceId redis
      (redis.removeKeys endpoint userId deviceId organizationId) :=
  ((sameOtherDevices_removeUserDevice redis organizationId userId
    deviceId).trans (sameOtherDevices_deleteUserExtraParams _ userId
      deviceId)).trans (sameOtherDevices_removeUserDeviceFromNode _ _
        organizationId userId deviceId)

theorem mem_nodeUsers_removeAll (target other : Endpoint)
    (organizationId organization : OrganizationId) :
    (organization, userId, deviceId) ∈
        (((redis.removeUserDevice organizationId userId
          deviceId).deleteUserExtraParams userId
            deviceId).removeUserDeviceFromNode target organizationId userId
              deviceId).nodeUsers.members other ↔
      (organization, userId, deviceId) ∈ redis.nodeUsers.members other ∧
        ¬ (other = target ∧ organization = organizationId) := by
  rw [removeUserDeviceFromNode, OrderedMap.mem_members_removeMember]
  simp [removeUserDevice, deleteUserExtraParams]

/-- Removing a device from the node that its hash names, or from any node
when its hash names none, leaves nothing of it. -/
theorem Consistent.gone_removeAll {redis : Redis}
    (hconsistent : redis.Consistent deployment) (target : Endpoint)
    (htarget : ∀ other,
      (redis.retrieveUserExtraParams userId deviceId).nodeEndpoint =
        some other → other = target) :
    (((redis.removeUserDevice (deployment.organizationOf userId) userId
      deviceId).deleteUserExtraParams userId
        deviceId).removeUserDeviceFromNode target
          (deployment.organizationOf userId) userId deviceId).Gone
      (deployment.organizationOf userId) userId deviceId where
  devices := by
    simp [removeUserDeviceFromNode, deleteUserExtraParams, removeUserDevice]
  data := by
    simp [removeUserDeviceFromNode, deleteUserExtraParams]
  onNode := by
    intro other hmem
    rw [mem_nodeUsers_removeAll] at hmem
    obtain ⟨hold, hother⟩ := hmem
    exact hother ⟨htarget other (hconsistent.node_eq hold), rfl⟩

theorem Consistent.of_gone {before after : Redis}
    (hconsistent : before.Consistent deployment)
    (hsame : SameOtherDevices userId deviceId before after)
    (hgone : after.Gone (deployment.organizationOf userId) userId deviceId)
    (hfewer : ∀ endpoint organizationId,
      (organizationId, userId, deviceId) ∈ after.nodeUsers.members endpoint →
      (organizationId, userId, deviceId) ∈
        before.nodeUsers.members endpoint) :
    after.Consistent deployment := by
  refine hconsistent.of_sameOtherDevices hsame ?_
  intro endpoint organizationId hmem
  obtain ⟨rfl, -⟩ := hconsistent endpoint organizationId userId deviceId
    (hfewer endpoint organizationId hmem)
  exact absurd hmem (hgone.onNode endpoint)

theorem Consistent.gone_removeKeys {redis : Redis}
    (hconsistent : redis.Consistent deployment) :
    (redis.removeKeys endpoint userId deviceId
      (deployment.organizationOf userId)).Gone
      (deployment.organizationOf userId) userId deviceId := by
  apply hconsistent.gone_removeAll
  intro other hother
  rw [hother]
  rfl

theorem Consistent.removeKeys {redis : Redis}
    (hconsistent : redis.Consistent deployment) :
    (redis.removeKeys endpoint userId deviceId
      (deployment.organizationOf userId)).Consistent deployment := by
  apply hconsistent.of_gone userId deviceId
    (sameOtherDevices_removeKeys redis endpoint userId deviceId _)
    (hconsistent.gone_removeKeys endpoint userId deviceId)
  intro other organization hmem
  exact ((mem_nodeUsers_removeAll redis userId deviceId _ other _
    organization).1 hmem).1

theorem registeredAt_addUserDeviceDataTransaction
    (organizationId : OrganizationId) :
    (redis.addUserDeviceDataTransaction endpoint organizationId userId
      deviceId).RegisteredAt endpoint organizationId userId deviceId where
  devices := by
    simp [addUserDeviceDataTransaction, addUserDeviceToNode, setUserNode,
      addUserDevice]
  node := by
    simp [addUserDeviceDataTransaction, addUserDeviceToNode, setUserNode,
      retrieveUserExtraParams]
  onNode := by
    simp [addUserDeviceDataTransaction, addUserDeviceToNode]

theorem mem_nodeUsers_addUserDeviceDataTransaction
    (organizationId organization : OrganizationId) (other : Endpoint) :
    (organization, userId, deviceId) ∈
        (redis.addUserDeviceDataTransaction endpoint organizationId userId
          deviceId).nodeUsers.members other ↔
      (other = endpoint ∧ organization = organizationId) ∨
        (organization, userId, deviceId) ∈
          redis.nodeUsers.members other := by
  simp [addUserDeviceDataTransaction, addUserDeviceToNode, setUserNode,
    addUserDevice]

theorem Consistent.addUserDeviceDataTransaction {redis : Redis}
    (hconsistent : redis.Consistent deployment)
    (habsent : ∀ other organization, (organization, userId, deviceId) ∉
      redis.nodeUsers.members other) :
    (redis.addUserDeviceDataTransaction endpoint
      (deployment.organizationOf userId) userId deviceId).Consistent
      deployment := by
  apply hconsistent.of_sameOtherDevices
    (sameOtherDevices_addUserDeviceDataTransaction redis endpoint _ userId
      deviceId)
  intro other organization hmem
  rw [mem_nodeUsers_addUserDeviceDataTransaction] at hmem
  rcases hmem with ⟨rfl, rfl⟩ | hold
  · exact ⟨rfl, registeredAt_addUserDeviceDataTransaction redis other userId
      deviceId _⟩
  · exact absurd hold (habsent other organization)

theorem nodeEndpoint_setUserInactive (isInactive : Bool) :
    ((redis.setUserInactive userId deviceId
      isInactive).retrieveUserExtraParams userId deviceId).nodeEndpoint =
      (redis.retrieveUserExtraParams userId deviceId).nodeEndpoint := by
  rw [retrieveUserExtraParams, Redis.setUserInactive]
  split
  · next hempty =>
      have hnone := congrArg ExtraParams.nodeEndpoint hempty
      simp only at hnone
      rw [OrderedMap.get?_erase, if_pos rfl, hnone]
      rfl
  · rw [OrderedMap.get?_set, if_pos rfl]
    rfl

theorem Consistent.setUserInactive {redis : Redis}
    (hconsistent : redis.Consistent deployment) (isInactive : Bool) :
    (redis.setUserInactive userId deviceId isInactive).Consistent
      deployment := by
  apply hconsistent.of_sameOtherDevices
    (sameOtherDevices_setUserInactive redis userId deviceId isInactive)
  intro other organization hmem
  obtain ⟨horganization, hregistered⟩ := hconsistent other organization
    userId deviceId hmem
  refine ⟨horganization, hregistered.devices, ?_, hmem⟩
  rw [nodeEndpoint_setUserInactive]
  exact hregistered.node

end Commands

end Redis

/-- The test that keeps a device in `filterActualDeviceIds`, in the current
state. -/
def Cluster.Actual (cluster : Cluster) (endpoint : Endpoint)
    (userId : UserId) (deviceId : DeviceId) : Prop :=
  SessionService.isNotActual endpoint userId deviceId
    (cluster.redis.retrieveUserExtraParams userId deviceId)
    (cluster.node endpoint) = false

/-- What a sweep over a user's devices does when nothing runs in between: it
keeps the invariant, it does not touch an actual device, and it brings no
device back. -/
structure Sweeps (deployment : Deployment) (endpoint : Endpoint)
    (userId : UserId) (before after : Cluster) : Prop where
  node : after.node = before.node
  consistent : after.redis.Consistent deployment
  actual : ∀ deviceId, before.Actual endpoint userId deviceId →
    Redis.SameDevice userId deviceId before.redis after.redis
  gone : ∀ deviceId, before.redis.Gone (deployment.organizationOf userId)
      userId deviceId →
    after.redis.Gone (deployment.organizationOf userId) userId deviceId

namespace SessionService

variable {deployment : Deployment} {endpoint : Endpoint} {userId : UserId}

theorem isNotActual_node {deviceId : DeviceId} {deviceExt : ExtraParams}
    {active : ActiveSessions}
    (hnot : isNotActual endpoint userId deviceId deviceExt active = true)
    (other : Endpoint) (hother : deviceExt.nodeEndpoint = some other) :
    other = endpoint := by
  simp only [isNotActual, hother, Option.isNone_some, Bool.false_or,
    Bool.and_eq_true, decide_eq_true_eq, Option.some.injEq] at hnot
  exact hnot.1

/-- Dropping one device that is not actual. -/
theorem sweeps_drop {cluster : Cluster}
    (hconsistent : cluster.redis.Consistent deployment) {deviceId : DeviceId}
    (hnot : isNotActual endpoint userId deviceId
      (cluster.redis.retrieveUserExtraParams userId deviceId)
      (cluster.node endpoint) = true) :
    Sweeps deployment endpoint userId cluster (cluster.setRedis
      (cluster.redis.removeAllUserDeviceDataTransaction endpoint
        (deployment.organizationOf userId) userId deviceId)) := by
  have hsame := Redis.sameOtherDevices_removeAllUserDeviceDataTransaction
    cluster.redis endpoint (deployment.organizationOf userId) userId deviceId
  have hgone := hconsistent.gone_removeAll userId deviceId endpoint
    (isNotActual_node hnot)
  refine ⟨rfl, hconsistent.of_gone userId deviceId hsame hgone ?_, ?_, ?_⟩
  · intro other organization hmem
    exact ((Redis.mem_nodeUsers_removeAll cluster.redis userId deviceId
      endpoint other _ organization).1 hmem).1
  · intro other hactual
    apply hsame userId other
    intro heq
    obtain ⟨-, rfl⟩ := Prod.mk.inj heq
    rw [Cluster.Actual, hnot] at hactual
    cases hactual
  · intro other hothergone
    by_cases hother : other = deviceId
    · subst other
      exact hgone
    · exact hothergone.of_same (hsame userId other
        (fun heq => hother (Prod.mk.inj heq).2))

theorem Sweeps.refl {cluster : Cluster}
    (hconsistent : cluster.redis.Consistent deployment) :
    Sweeps deployment endpoint userId cluster cluster :=
  ⟨rfl, hconsistent, fun _ _ => .refl _, fun _ hgone => hgone⟩

theorem Sweeps.trans {first second third : Cluster}
    (hfirst : Sweeps deployment endpoint userId first second)
    (hsecond : Sweeps deployment endpoint userId second third) :
    Sweeps deployment endpoint userId first third where
  node := hsecond.node.trans hfirst.node
  consistent := hsecond.consistent
  actual := by
    intro deviceId hactual
    have hsame := hfirst.actual deviceId hactual
    refine hsame.trans (hsecond.actual deviceId ?_)
    rw [Cluster.Actual, hfirst.node, hsame.extraParams]
    exact hactual
  gone := fun deviceId hgone =>
    hsecond.gone deviceId (hfirst.gone deviceId hgone)

theorem sweeps_filterActualDeviceIds (deviceIds : List DeviceId)
    (cluster : Cluster)
    (hconsistent : cluster.redis.Consistent deployment) :
    Sweeps deployment endpoint userId cluster
      ((filterActualDeviceIds endpoint (deployment.organizationOf userId)
        userId deviceIds).run cluster).2 := by
  induction deviceIds generalizing cluster with
  | nil => exact Sweeps.refl hconsistent
  | cons deviceId deviceIds ih =>
      simp only [filterActualDeviceIds, Async.run_bind, run_redisQuery,
        run_nodeBlock, setNode_self]
      cases hnot : isNotActual endpoint userId deviceId
          (cluster.redis.retrieveUserExtraParams userId deviceId)
          (cluster.node endpoint) with
      | true =>
          have hdrop := sweeps_drop hconsistent hnot
          exact Sweeps.trans hdrop (ih _ hdrop.consistent)
      | false => simpa using ih cluster hconsistent

variable (endpoint) (userId)
  (hcluster : deployment.isStandAloneNode = false)
  {cluster : Cluster} (hconsistent : cluster.redis.Consistent deployment)
  (deviceId : DeviceId)
include hcluster hconsistent

theorem sweeps_listUserDevice :
    Sweeps deployment endpoint userId cluster
      ((listUserDevice deployment endpoint (deployment.organizationOf userId)
        userId true).run cluster).2 := by
  simp only [listUserDevice, hcluster, Bool.false_eq_true, if_false, if_true,
    Async.run_bind, run_redisQuery]
  exact sweeps_filterActualDeviceIds _ cluster hconsistent

theorem run_removeAllUserDeviceData :
    Sweeps deployment endpoint userId
      (cluster.setRedis (cluster.redis.removeKeys endpoint userId deviceId
        (deployment.organizationOf userId)))
      ((removeAllUserDeviceData deployment endpoint
        (deployment.organizationOf userId) userId deviceId).run
          cluster).2 := by
  have hkeys : (removeDeviceKeys endpoint (deployment.organizationOf userId)
      userId deviceId).run cluster = ((), cluster.setRedis
        (cluster.redis.removeKeys endpoint userId deviceId
          (deployment.organizationOf userId))) := rfl
  rw [removeAllUserDeviceData, Async.run_bind, hkeys, Async.run_bind]
  exact sweeps_listUserDevice endpoint userId hcluster
    (hconsistent.removeKeys endpoint userId deviceId)

/-- Nothing of the device is left. -/
theorem run_removeAllUserDeviceData_gone :
    ((removeAllUserDeviceData deployment endpoint
      (deployment.organizationOf userId) userId deviceId).run
        cluster).2.redis.Gone (deployment.organizationOf userId) userId
          deviceId :=
  (run_removeAllUserDeviceData endpoint userId hcluster hconsistent
    deviceId).gone deviceId
      (hconsistent.gone_removeKeys endpoint userId deviceId)

/-- Every other actual device of the user stays as it was. -/
theorem run_removeAllUserDeviceData_actual {other : DeviceId}
    (hother : other ≠ deviceId)
    (hactual : cluster.Actual endpoint userId other) :
    Redis.SameDevice userId other cluster.redis
      ((removeAllUserDeviceData deployment endpoint
        (deployment.organizationOf userId) userId deviceId).run
          cluster).2.redis := by
  have hkeys := cluster.redis.sameOtherDevices_removeKeys endpoint userId
    deviceId (deployment.organizationOf userId) userId other
    (fun heq => hother (Prod.mk.inj heq).2)
  refine hkeys.trans ((run_removeAllUserDeviceData endpoint userId hcluster
    hconsistent deviceId).actual other ?_)
  rw [Cluster.Actual, Cluster.redis_setRedis, hkeys.extraParams]
  exact hactual

theorem run_storeUserNodeData :
    ((storeUserNodeData deployment endpoint
        (deployment.organizationOf userId) userId deviceId).run
          cluster).2.redis.Consistent deployment ∧
      ((storeUserNodeData deployment endpoint
        (deployment.organizationOf userId) userId deviceId).run
          cluster).2.redis.RegisteredAt endpoint
            (deployment.organizationOf userId) userId deviceId := by
  simp only [storeUserNodeData, listUserDevice, hcluster,
    Bool.false_eq_true, if_false, Async.run_bind, run_redisQuery,
    Async.pure_eq_done, Async.run_done]
  split
  · next hlisted =>
      have hswept := run_removeAllUserDeviceData endpoint userId hcluster
        hconsistent deviceId
      have hgone := run_removeAllUserDeviceData_gone endpoint userId hcluster
        hconsistent deviceId
      rw [Async.run_bind, run_redisUpdate]
      refine ⟨hswept.consistent.addUserDeviceDataTransaction endpoint userId
        deviceId ?_, Redis.registeredAt_addUserDeviceDataTransaction ..⟩
      exact hswept.consistent.not_onNode hgone.devices
  · next hunlisted =>
      rw [run_redisUpdate]
      exact ⟨hconsistent.addUserDeviceDataTransaction endpoint userId
        deviceId (hconsistent.not_onNode hunlisted),
        Redis.registeredAt_addUserDeviceDataTransaction ..⟩

end SessionService

/-- After a login exactly the new connection is registered, and nothing is
left of another device that the socket was connected with before. -/
structure RegisteredExactly (deployment : Deployment)
    (before after : Cluster) (endpoint : Endpoint) (socket : Socket)
    (userId : UserId) (deviceId : DeviceId) : Prop where
  registered : after.redis.RegisteredAt endpoint
    (deployment.organizationOf userId) userId deviceId
  nowhereElse : ∀ other, other ≠ endpoint →
    (deployment.organizationOf userId, userId, deviceId) ∉
      after.redis.nodeUsers.members other
  replaced : ∀ earlier,
    (before.node endpoint).getDeviceId socket userId = some earlier →
    earlier ≠ deviceId →
    after.redis.Gone (deployment.organizationOf userId) userId earlier

namespace SessionService

variable {deployment : Deployment} (endpoint : Endpoint) (socket : Socket)
  (userId : UserId) (deviceId : DeviceId)

/-- The device just attached counts as actual on its node. -/
theorem actual_of_attach {before after : Cluster}
    (hnode : after.node endpoint = (before.node endpoint).attach deployment
      endpoint socket userId deviceId)
    {organizationId : OrganizationId}
    (hregistered : after.redis.RegisteredAt endpoint organizationId userId
      deviceId) : after.Actual endpoint userId deviceId := by
  simp only [Cluster.Actual, isNotActual, hregistered.node, hnode,
    ActiveSessions.getUserDevices_attach]
  simp

variable (hcluster : deployment.isStandAloneNode = false)
  {cluster : Cluster} (hconsistent : cluster.redis.Consistent deployment)
include hcluster hconsistent

omit hcluster hconsistent in
/-- A login stores the new registration and then clears the device that the
socket was connected with. -/
theorem connectDevice_run_eq :
    ((connectDevice deployment endpoint socket userId deviceId).run
        cluster).2 =
      (let stored := ((storeUserNodeData deployment endpoint
          (deployment.organizationOf userId) userId deviceId).run
          (cluster.setNode endpoint ((cluster.node endpoint).attach
            deployment endpoint socket userId deviceId))).2
      match (cluster.node endpoint).getDeviceId socket userId with
      | none => stored
      | some earlier => ((removeAllUserDeviceData deployment endpoint
          (deployment.organizationOf userId) userId earlier).run
          stored).2) := by
  simp only [connectDevice, Async.run_bind, run_nodeBlock,
    ActiveSessions.addUserDeviceConnection, ActiveSessions.getDeviceId]
  cases ((cluster.node endpoint).getUserDevices userId).find?
      (fun connection => connection.socket = socket) with
  | none => rfl
  | some connection =>
      simp only [Async.run_bind, Async.pure_eq_done, Async.run_done]
      rfl

/-- Redis after the session lines of a successful login, by the device that
the socket was connected with before. -/
theorem run_connectDevice :
    ((connectDevice deployment endpoint socket userId deviceId).run
        cluster).2.redis.Consistent deployment ∧
      ((cluster.node endpoint).getDeviceId socket userId ≠ some deviceId →
        ((connectDevice deployment endpoint socket userId deviceId).run
          cluster).2.redis.RegisteredAt endpoint
            (deployment.organizationOf userId) userId deviceId) ∧
      ∀ earlier,
        (cluster.node endpoint).getDeviceId socket userId = some earlier →
        ((connectDevice deployment endpoint socket userId deviceId).run
          cluster).2.redis.Gone (deployment.organizationOf userId) userId
            earlier := by
  have hattached : (cluster.setNode endpoint ((cluster.node endpoint).attach
      deployment endpoint socket userId deviceId)).redis.Consistent
      deployment := hconsistent
  obtain ⟨hstored, hregistered⟩ := run_storeUserNodeData endpoint userId
    hcluster hattached deviceId
  have hnode := (staysWith_storeUserNodeData deployment endpoint
    (deployment.organizationOf userId) userId deviceId).run_node
    (cluster.setNode endpoint ((cluster.node endpoint).attach deployment
      endpoint socket userId deviceId))
  rw [connectDevice_run_eq]
  simp only
  generalize ((storeUserNodeData deployment endpoint
    (deployment.organizationOf userId) userId deviceId).run
    (cluster.setNode endpoint ((cluster.node endpoint).attach deployment
      endpoint socket userId deviceId))).2 = stored at *
  cases (cluster.node endpoint).getDeviceId socket userId with
  | none => exact ⟨hstored, fun _ => hregistered, fun _ hsome => by cases hsome⟩
  | some earlier =>
      refine ⟨(run_removeAllUserDeviceData endpoint userId hcluster hstored
        earlier).consistent, ?_, ?_⟩
      · intro hne
        have hown : stored.node endpoint = (cluster.node endpoint).attach
            deployment endpoint socket userId deviceId := by
          rw [hnode, Cluster.node_setNode, if_pos rfl]
        exact hregistered.of_same (run_removeAllUserDeviceData_actual
          endpoint userId hcluster hstored earlier
          (fun heq => hne (congrArg some heq.symm))
          (actual_of_attach endpoint socket userId deviceId hown
            hregistered))
      · intro other hother
        cases hother
        exact run_removeAllUserDeviceData_gone endpoint userId hcluster
          hstored earlier

/-- A login registers exactly the new connection unless its socket was already
connected with the very same device. -/
theorem connectDevice_registeredExactly_iff :
    RegisteredExactly deployment cluster
        ((connectDevice deployment endpoint socket userId deviceId).run
          cluster).2 endpoint socket userId deviceId ↔
      (cluster.node endpoint).getDeviceId socket userId ≠
        some deviceId := by
  obtain ⟨hafter, hregistered, hgone⟩ := run_connectDevice endpoint socket
    userId deviceId hcluster hconsistent
  constructor
  · intro hexactly hsame
    exact (hgone deviceId hsame).devices hexactly.registered.devices
  · intro hne
    refine ⟨hregistered hne, ?_, fun earlier hearlier _ =>
      hgone earlier hearlier⟩
    intro other hother hmem
    have hnode := hafter.node_eq hmem
    rw [(hregistered hne).node, Option.some.injEq] at hnode
    exact hother hnode.symm

end SessionService

end SamaServer
