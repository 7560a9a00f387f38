/-
Programs that only take registrations of one device away.  Once the last
registration is stored, the commands of a removal and the drops of a sweep
each take something away and nothing brings it back, so it is enough that one
program in flight is still bound to take each part away.
-/
import SamaServer.PendingWork
import SamaServer.HeldRegistration

namespace SamaServer

/-- The device whose registration a step stores. -/
def Label.stores : Label → Option (UserId × DeviceId)
  | .stored _ userId deviceId => some (userId, deviceId)
  | _ => none

theorem unstored_none {stored : UserId × DeviceId} : none ≠ some stored :=
  (Option.some_ne_none stored).symm

/-- Nothing in Redis registers the device on the node. -/
structure Redis.NotRegistered (redis : Redis) (endpoint : Endpoint)
    (organizationId : OrganizationId) (userId : UserId)
    (deviceId : DeviceId) : Prop where
  devices : deviceId ∉ redis.userDevices.members (organizationId, userId)
  data : redis.userData.get? (userId, deviceId) = none
  onNode : (organizationId, userId, deviceId) ∉
    redis.nodeUsers.members endpoint

/-- Nothing of the device comes back that has been taken away. -/
structure ShrinksKeys (endpoint : Endpoint) (organizationId : OrganizationId)
    (userId : UserId) (deviceId : DeviceId) (before after : Cluster) :
    Prop where
  devices : deviceId ∈ after.redis.userDevices.members
      (organizationId, userId) →
    deviceId ∈ before.redis.userDevices.members (organizationId, userId)
  data : after.redis.userData.get? (userId, deviceId) =
      before.redis.userData.get? (userId, deviceId) ∨
    after.redis.userData.get? (userId, deviceId) = none
  onNode : (organizationId, userId, deviceId) ∈
      after.redis.nodeUsers.members endpoint →
    (organizationId, userId, deviceId) ∈
      before.redis.nodeUsers.members endpoint

/-- Such a step that moreover leaves the tables alone. -/
structure Shrinks (endpoint : Endpoint) (organizationId : OrganizationId)
    (userId : UserId) (deviceId : DeviceId) (label : Label)
    (before after : Cluster) : Prop
    extends ShrinksKeys endpoint organizationId userId deviceId before
      after where
  block : label.isBlock = false
  unstored : label.stores ≠ some (userId, deviceId)
  node : after.node = before.node

/-- A step that leaves the tables alone and brings nothing back at all. -/
structure Removing (label : Label) (before after : Cluster) : Prop where
  block : label.isBlock = false
  unstored : label.stores = none
  node : after.node = before.node
  keys : ∀ endpoint organizationId userId deviceId,
    ShrinksKeys endpoint organizationId userId deviceId before after

/-- A step that moreover takes the device off the user's list only together
with everything else. -/
structure Sweeping (endpoint : Endpoint) (organizationId : OrganizationId)
    (userId : UserId) (deviceId : DeviceId) (label : Label)
    (before after : Cluster) : Prop
    extends Shrinks endpoint organizationId userId deviceId label before
      after where
  listed : deviceId ∈ before.redis.userDevices.members
      (organizationId, userId) →
    deviceId ∈ after.redis.userDevices.members (organizationId, userId) ∨
      after.redis.NotRegistered endpoint organizationId userId deviceId

/-- A step that changes nothing. -/
structure Idle (label : Label) (before after : Cluster) : Prop where
  block : label.isBlock = false
  unstored : label.stores = none
  same : after = before

section Steps

variable {endpoint : Endpoint} {organizationId : OrganizationId}
  {userId : UserId} {deviceId : DeviceId} {label : Label}
  {before after : Cluster}

theorem ShrinksKeys.trans {first second third : Cluster}
    (hfirst : ShrinksKeys endpoint organizationId userId deviceId first
      second)
    (hsecond : ShrinksKeys endpoint organizationId userId deviceId second
      third) :
    ShrinksKeys endpoint organizationId userId deviceId first third := by
  refine ⟨fun hmem => hfirst.devices (hsecond.devices hmem), ?_,
    fun hmem => hfirst.onNode (hsecond.onNode hmem)⟩
  rcases hsecond.data with hsame | hnone
  · rw [hsame]
    exact hfirst.data
  · exact .inr hnone

theorem shrinksKeys_of_same
    (hsame : Redis.SameDevice userId deviceId before.redis after.redis) :
    ShrinksKeys endpoint organizationId userId deviceId before after :=
  ⟨(hsame.devices organizationId).1, .inl hsame.data,
    (hsame.onNode endpoint organizationId).1⟩

theorem sweeping_of_same (hblock : label.isBlock = false)
    (hunstored : label.stores ≠ some (userId, deviceId))
    (hnode : after.node = before.node)
    (hsame : Redis.SameDevice userId deviceId before.redis after.redis) :
    Sweeping endpoint organizationId userId deviceId label before after :=
  ⟨⟨shrinksKeys_of_same hsame, hblock, hunstored, hnode⟩,
    fun hlisted => .inl ((hsame.devices organizationId).2 hlisted)⟩

theorem Removing.shrinks (hremoving : Removing label before after) :
    Shrinks endpoint organizationId userId deviceId label before after := by
  refine ⟨hremoving.keys endpoint organizationId userId deviceId,
    hremoving.block, ?_, hremoving.node⟩
  rw [hremoving.unstored]
  exact unstored_none

theorem Idle.removing (hidle : Idle label before after) :
    Removing label before after := by
  rw [hidle.same]
  exact ⟨hidle.block, hidle.unstored, rfl,
    fun _ _ _ _ => shrinksKeys_of_same (.refl before.redis)⟩

theorem Idle.sweeping (hidle : Idle label before after) :
    Sweeping endpoint organizationId userId deviceId label before after := by
  rw [hidle.same]
  refine sweeping_of_same hidle.block ?_ rfl (.refl before.redis)
  rw [hidle.unstored]
  exact unstored_none

/-- While the node's set has the device, its hash names that node or none. -/
def OwnHash (endpoint : Endpoint) (organizationId : OrganizationId)
    (userId : UserId) (deviceId : DeviceId) (cluster : Cluster) : Prop :=
  (organizationId, userId, deviceId) ∈
      cluster.redis.nodeUsers.members endpoint →
    ∀ registered, (cluster.redis.retrieveUserExtraParams userId
      deviceId).nodeEndpoint = some registered → registered = endpoint

theorem ShrinksKeys.extraParams
    (hshrinks : ShrinksKeys endpoint organizationId userId deviceId before
      after) {registered : Endpoint}
    (hregistered : (after.redis.retrieveUserExtraParams userId
      deviceId).nodeEndpoint = some registered) :
    (before.redis.retrieveUserExtraParams userId deviceId).nodeEndpoint =
      some registered := by
  unfold Redis.retrieveUserExtraParams at hregistered ⊢
  rcases hshrinks.data with hsame | hnone
  · rw [← hsame]
    exact hregistered
  · rw [hnone] at hregistered
    cases hregistered

theorem OwnHash.of_shrinks
    (hown : OwnHash endpoint organizationId userId deviceId before)
    (hshrinks : ShrinksKeys endpoint organizationId userId deviceId before
      after) :
    OwnHash endpoint organizationId userId deviceId after :=
  fun hmem registered hregistered => hown (hshrinks.onNode hmem) registered
    (hshrinks.extraParams hregistered)

theorem Redis.NotRegistered.of_shrinks
    (hclean : before.redis.NotRegistered endpoint organizationId userId
      deviceId)
    (hshrinks : ShrinksKeys endpoint organizationId userId deviceId before
      after) :
    after.redis.NotRegistered endpoint organizationId userId deviceId := by
  refine ⟨fun hmem => hclean.devices (hshrinks.devices hmem), ?_,
    fun hmem => hclean.onNode (hshrinks.onNode hmem)⟩
  rcases hshrinks.data with hsame | hnone
  · rw [hsame]
    exact hclean.data
  · exact hnone

theorem guarantees_keys {A : Type} {program : Service A}
    (hprogram : program.Guarantees
      (Shrinks endpoint organizationId userId deviceId)) :
    program.Guarantees (fun _ =>
      ShrinksKeys endpoint organizationId userId deviceId) :=
  hprogram.mono (fun _ _ _ hshrinks => hshrinks.toShrinksKeys)

/-- What a sweep on the node needs to find the device: it is not connected
there, its hash names no other node, and it is listed unless it is gone. -/
structure Doomed (endpoint : Endpoint) (organizationId : OrganizationId)
    (userId : UserId) (deviceId : DeviceId) (cluster : Cluster) : Prop where
  unconnected : ∀ connection ∈
    (cluster.node endpoint).getUserDevices userId,
    connection.deviceId ≠ deviceId
  hash : ∀ registered, (cluster.redis.retrieveUserExtraParams userId
    deviceId).nodeEndpoint = some registered → registered = endpoint
  listed : deviceId ∈ cluster.redis.userDevices.members
      (organizationId, userId) ∨
    cluster.redis.NotRegistered endpoint organizationId userId deviceId

theorem Doomed.of_sweeping
    (hdoomed : Doomed endpoint organizationId userId deviceId before)
    (hsweeping : Sweeping endpoint organizationId userId deviceId label
      before after) :
    Doomed endpoint organizationId userId deviceId after := by
  refine ⟨?_, fun registered hregistered => hdoomed.hash registered
    (hsweeping.extraParams hregistered), ?_⟩
  · rw [hsweeping.node]
    exact hdoomed.unconnected
  · rcases hdoomed.listed with hlisted | hclean
    · exact hsweeping.listed hlisted
    · exact .inr (hclean.of_shrinks hsweeping.toShrinksKeys)

end Steps

namespace SessionService

variable (endpoint : Endpoint) (organizationId : OrganizationId)
  (userId : UserId) {deviceId : DeviceId}

theorem idle_redisQuery {A : Type} {label : Label}
    (hlabel : label.isBlock = false)
    (hunstored : label.stores = none) (query : Redis → A) :
    (redisQuery label query).Guarantees Idle :=
  Async.guarantees_atomic (fun _ => ⟨hlabel, hunstored, rfl⟩)

theorem idle_awaitAnswer {A : Type} (answer : A) :
    (awaitAnswer answer).Guarantees Idle :=
  Async.guarantees_atomic (fun _ => ⟨rfl, rfl, rfl⟩)

/-- A step about another device. -/
theorem sweeping_redisUpdate {otherDevice : DeviceId}
    (hother : otherDevice ≠ deviceId) {label : Label}
    (hlabel : label.isBlock = false)
    (hunstored : label.stores ≠ some (userId, deviceId))
    {update : Redis → Redis}
    (hupdate : ∀ redis, Redis.SameOtherDevices userId otherDevice redis
      (update redis)) :
    (redisUpdate label update).Guarantees
      (Sweeping endpoint organizationId userId deviceId) := by
  apply Async.guarantees_atomic
  intro cluster
  refine sweeping_of_same hlabel hunstored rfl
    (hupdate cluster.redis userId deviceId ?_)
  intro heq
  exact hother (Prod.mk.inj heq).2.symm

theorem notRegistered_removeAllUserDeviceDataTransaction (redis : Redis)
    (deviceId : DeviceId) :
    (redis.removeAllUserDeviceDataTransaction endpoint organizationId userId
      deviceId).NotRegistered endpoint organizationId userId deviceId where
  devices := by
    simp [Redis.removeAllUserDeviceDataTransaction,
      Redis.removeUserDeviceFromNode, Redis.deleteUserExtraParams,
      Redis.removeUserDevice]
  data := by
    simp [Redis.removeAllUserDeviceDataTransaction,
      Redis.removeUserDeviceFromNode, Redis.deleteUserExtraParams]
  onNode := by
    simp [Redis.removeAllUserDeviceDataTransaction,
      Redis.removeUserDeviceFromNode]

/-- The drop of a sweep, of this device or another. -/
theorem sweeping_drop (otherDevice : DeviceId) :
    (removeAllUserDeviceDataTransaction endpoint organizationId userId
      otherDevice).Guarantees
        (Sweeping endpoint organizationId userId deviceId) := by
  by_cases hother : otherDevice = deviceId
  · subst hother
    apply Async.guarantees_atomic
    intro cluster
    have hclean := notRegistered_removeAllUserDeviceDataTransaction endpoint
      organizationId userId cluster.redis otherDevice
    exact ⟨⟨⟨fun hmem => absurd hmem hclean.devices, .inr hclean.data,
      fun hmem => absurd hmem hclean.onNode⟩, rfl, unstored_none, rfl⟩,
      fun _ => .inr hclean⟩
  · refine sweeping_redisUpdate endpoint organizationId userId hother rfl
      ?_ (fun redis =>
        redis.sameOtherDevices_removeAllUserDeviceDataTransaction endpoint
          organizationId userId otherDevice)
    exact unstored_none

theorem idle_judge (otherDevice : DeviceId) (deviceExt : ExtraParams) :
    (nodeBlock (.judged userId otherDevice) endpoint (fun active =>
      (isNotActual endpoint userId otherDevice deviceExt active,
        active))).Guarantees Idle := by
  apply Async.guarantees_atomic
  intro cluster
  exact ⟨rfl, rfl, setNode_self endpoint cluster⟩

theorem sweeping_filterActualDeviceIds (deviceIds : List DeviceId) :
    (filterActualDeviceIds endpoint organizationId userId
      deviceIds).Guarantees
        (Sweeping endpoint organizationId userId deviceId) := by
  induction deviceIds with
  | nil => trivial
  | cons otherDevice deviceIds ih =>
      apply Async.guarantees_bind
        ((idle_redisQuery rfl rfl _).mono (fun _ _ _ hidle => hidle.sweeping))
      intro deviceExt
      apply Async.guarantees_bind ((idle_judge endpoint userId otherDevice
        deviceExt).mono (fun _ _ _ hidle => hidle.sweeping))
      intro notActual
      cases notActual with
      | true =>
          exact Async.guarantees_bind (sweeping_drop endpoint organizationId
            userId otherDevice) (fun _ => ih)
      | false => exact Async.guarantees_bind ih (fun _ => trivial)

/-- A sweep of a list with the device in it takes the device away. -/
theorem establishes_filterActualDeviceIds {deviceIds : List DeviceId}
    (hmem : deviceId ∈ deviceIds) :
    (filterActualDeviceIds endpoint organizationId userId
      deviceIds).Establishes
        (Doomed endpoint organizationId userId deviceId)
        (fun cluster => cluster.redis.NotRegistered endpoint organizationId
          userId deviceId) := by
  induction deviceIds with
  | nil => cases hmem
  | cons otherDevice deviceIds ih =>
      by_cases hother : otherDevice = deviceId
      · subst hother
        -- what is read of the hash names this node or none
        refine Async.establishes_bind
          (R := fun deviceExt : ExtraParams => ∀ registered,
            deviceExt.nodeEndpoint = some registered →
              registered = endpoint)
          (Async.ensures_atomic (fun cluster hdoomed =>
            ⟨hdoomed, hdoomed.hash⟩))
          (fun deviceExt hhash => ?_)
        refine Async.establishes_bind (R := fun notActual =>
          notActual = true) (fun cluster hdoomed => ⟨?_, ?_⟩)
          (fun notActual hnot => ?_)
        · simp only [setNode_self]
          exact hdoomed
        · have hconnection : ((cluster.node endpoint).getUserDevices
              userId).any (fun connection =>
                connection.deviceId = otherDevice) = false := by
            rw [List.any_eq_false]
            intro connection hconnection
            simpa using hdoomed.unconnected connection hconnection
          change isNotActual endpoint userId otherDevice deviceExt
            (cluster.node endpoint) = true
          cases hnode : deviceExt.nodeEndpoint with
          | none => simp [isNotActual, hnode]
          | some registered =>
              rw [hhash registered hnode] at hnode
              simp [isNotActual, hnode, hconnection]
        · rw [hnot, if_pos rfl]
          apply Async.Establishes.bind
          apply Async.establishes_atomic
          intro cluster _
          exact notRegistered_removeAllUserDeviceDataTransaction endpoint
            organizationId userId cluster.redis otherDevice
      · have hrest := ih (List.mem_of_ne_of_mem (Ne.symm hother) hmem)
        apply Async.establishes_bind_rest
        intro deviceExt
        apply Async.establishes_bind_rest
        intro notActual
        cases notActual with
        | true => exact Async.establishes_bind_rest (fun _ => hrest)
        | false => exact hrest.bind _

theorem removing_redisUpdate {label : Label}
    (hblock : label.isBlock = false) (hunstored : label.stores = none)
    {update : Redis → Redis}
    (hupdate : ∀ cluster endpoint organizationId userId deviceId,
      ShrinksKeys endpoint organizationId userId deviceId cluster
        (cluster.setRedis (update cluster.redis))) :
    (redisUpdate label update).Guarantees Removing :=
  Async.guarantees_atomic (fun cluster =>
    ⟨hblock, hunstored, rfl, hupdate cluster⟩)

theorem shrinksKeys_removeUserDevice (cluster : Cluster)
    (owner : OrganizationId) (user : UserId) (device : DeviceId) :
    ShrinksKeys endpoint organizationId userId deviceId cluster
      (cluster.setRedis (cluster.redis.removeUserDevice owner user
        device)) :=
  ⟨fun hmem => ((OrderedMap.mem_members_removeMember ..).1 hmem).1,
    .inl rfl, id⟩

theorem shrinksKeys_deleteUserExtraParams (cluster : Cluster)
    (user : UserId) (device : DeviceId) :
    ShrinksKeys endpoint organizationId userId deviceId cluster
      (cluster.setRedis (cluster.redis.deleteUserExtraParams user
        device)) := by
  refine ⟨id, ?_, id⟩
  simp only [Cluster.redis_setRedis, Redis.deleteUserExtraParams,
    OrderedMap.get?_erase]
  split
  · exact .inr rfl
  · exact .inl rfl

theorem shrinksKeys_removeUserDeviceFromNode (cluster : Cluster)
    (node : Endpoint) (owner : OrganizationId) (user : UserId)
    (device : DeviceId) :
    ShrinksKeys endpoint organizationId userId deviceId cluster
      (cluster.setRedis (cluster.redis.removeUserDeviceFromNode node owner
        user device)) :=
  ⟨id, .inl rfl,
    fun hmem => ((OrderedMap.mem_members_removeMember ..).1 hmem).1⟩

/-- The commands of a removal. -/
theorem removing_removeDeviceKeys (deviceId : DeviceId) :
    (removeDeviceKeys endpoint organizationId userId deviceId).Guarantees
      Removing := by
  apply Async.guarantees_bind (removing_redisUpdate rfl rfl
    (fun cluster endpoint owner user device =>
      shrinksKeys_removeUserDevice endpoint owner user cluster _ _ _))
  intro _
  apply Async.guarantees_bind ((idle_redisQuery rfl rfl _).mono
    (fun _ _ _ hidle => hidle.removing))
  intro extraParams
  apply Async.guarantees_bind (removing_redisUpdate rfl rfl
    (fun cluster endpoint owner user device =>
      shrinksKeys_deleteUserExtraParams endpoint owner user cluster _ _))
  intro _
  exact removing_redisUpdate rfl rfl
    (fun cluster endpoint owner user device =>
      shrinksKeys_removeUserDeviceFromNode endpoint owner user cluster _ _ _
        _)

theorem removing_drop (deviceId : DeviceId) :
    (removeAllUserDeviceDataTransaction endpoint organizationId userId
      deviceId).Guarantees Removing := by
  apply removing_redisUpdate rfl rfl
  intro cluster node owner user device
  have hset : ShrinksKeys node owner user device _ _ :=
    shrinksKeys_removeUserDevice node owner user cluster organizationId
      userId deviceId
  have hhash : ShrinksKeys node owner user device _ _ :=
    shrinksKeys_deleteUserExtraParams node owner user (cluster.setRedis
      (cluster.redis.removeUserDevice organizationId userId deviceId)) userId
        deviceId
  have hnode : ShrinksKeys node owner user device _ _ :=
    shrinksKeys_removeUserDeviceFromNode node owner user (cluster.setRedis
      ((cluster.redis.removeUserDevice organizationId userId
        deviceId).deleteUserExtraParams userId deviceId)) endpoint
          organizationId userId deviceId
  exact (hset.trans hhash).trans hnode

theorem removing_filterActualDeviceIds (deviceIds : List DeviceId) :
    (filterActualDeviceIds endpoint organizationId userId
      deviceIds).Guarantees Removing := by
  induction deviceIds with
  | nil => trivial
  | cons deviceId deviceIds ih =>
      apply Async.guarantees_bind ((idle_redisQuery rfl rfl _).mono
        (fun _ _ _ hidle => hidle.removing))
      intro deviceExt
      apply Async.guarantees_bind ((idle_judge endpoint userId deviceId
        deviceExt).mono (fun _ _ _ hidle => hidle.removing))
      intro notActual
      cases notActual with
      | true =>
          exact Async.guarantees_bind (removing_drop endpoint organizationId
            userId deviceId) (fun _ => ih)
      | false => exact Async.guarantees_bind ih (fun _ => trivial)

theorem removing_listUserDevice (deployment : Deployment)
    (filterActualDevices : Bool) :
    (listUserDevice deployment endpoint organizationId userId
      filterActualDevices).Guarantees Removing := by
  unfold listUserDevice
  split
  · apply Async.guarantees_atomic
    intro cluster
    exact Idle.removing ⟨rfl, rfl, setNode_self endpoint cluster⟩
  · apply Async.guarantees_bind ((idle_redisQuery rfl rfl _).mono
      (fun _ _ _ hidle => hidle.removing))
    intro deviceIds
    split
    · exact removing_filterActualDeviceIds endpoint organizationId userId
        deviceIds
    · trivial

theorem removing_removeAllUserDeviceData (deployment : Deployment)
    (deviceId : DeviceId) :
    (removeAllUserDeviceData deployment endpoint organizationId userId
      deviceId).Guarantees Removing := by
  apply Async.guarantees_bind (removing_removeDeviceKeys endpoint
    organizationId userId deviceId)
  intro _
  exact Async.guarantees_bind (removing_listUserDevice endpoint
    organizationId userId deployment true) (fun _ => trivial)

theorem removing_finishRemoval (deployment : Deployment)
    (removed : ActiveSessions.RemovedConnection) :
    (finishRemoval deployment endpoint userId removed).Guarantees
      Removing := by
  unfold finishRemoval
  split
  · trivial
  · split
    · trivial
    · exact removing_removeAllUserDeviceData endpoint _ userId deployment _

theorem sweeping_removeDeviceKeys {otherDevice : DeviceId}
    (hother : otherDevice ≠ deviceId) :
    (removeDeviceKeys endpoint organizationId userId
      otherDevice).Guarantees
        (Sweeping endpoint organizationId userId deviceId) := by
  apply Async.Guarantees.mono (guarantees_removeDeviceKeys endpoint
    organizationId userId otherDevice)
  rintro label before after ⟨rfl, hnode, hsame⟩
  refine sweeping_of_same rfl unstored_none hnode
    (hsame userId deviceId ?_)
  intro heq
  exact hother (Prod.mk.inj heq).2.symm

/-- The commands of a removal after its first one, which takes the device off
the user's list. -/
def removeOtherKeys (deviceId : DeviceId) : Service Unit := do
  let extraParams ← redisQuery (.removing userId deviceId) (fun redis =>
    redis.retrieveUserExtraParams userId deviceId)
  redisUpdate (.removing userId deviceId) (fun redis =>
    redis.deleteUserExtraParams userId deviceId)
  redisUpdate (.removing userId deviceId) (fun redis =>
    redis.removeUserDeviceFromNode (extraParams.nodeEndpoint.getD endpoint)
      organizationId userId deviceId)

theorem removeDeviceKeys_eq (deviceId : DeviceId) :
    removeDeviceKeys endpoint organizationId userId deviceId =
      (redisUpdate (.removing userId deviceId) (fun redis =>
        redis.removeUserDevice organizationId userId deviceId) >>= fun _ =>
          removeOtherKeys endpoint organizationId userId deviceId) := rfl

theorem sweeping_removeOtherKeys (deviceId : DeviceId) :
    (removeOtherKeys endpoint organizationId userId deviceId).Guarantees
      (Sweeping endpoint organizationId userId deviceId) := by
  apply Async.guarantees_bind ((idle_redisQuery rfl rfl _).mono
    (fun _ _ _ hidle => hidle.sweeping))
  intro extraParams
  apply Async.guarantees_bind (Async.guarantees_atomic (fun cluster => ?_))
  · intro _
    apply Async.guarantees_atomic
    intro cluster
    refine ⟨⟨⟨id, .inl rfl, fun hmem => ?_⟩, rfl, unstored_none, rfl⟩, .inl⟩
    exact ((OrderedMap.mem_members_removeMember ..).1 hmem).1
  · refine ⟨⟨⟨id, .inr ?_, id⟩, rfl, unstored_none, rfl⟩, .inl⟩
    simp [Redis.deleteUserExtraParams]

/-- A program that is bound to remove each key of the device. -/
structure RemovesKeys (endpoint : Endpoint) (organizationId : OrganizationId)
    (userId : UserId) (deviceId : DeviceId) {A : Type}
    (program : Service A) : Prop where
  devices : program.Establishes
    (OwnHash endpoint organizationId userId deviceId)
    (fun cluster => deviceId ∉ cluster.redis.userDevices.members
      (organizationId, userId))
  data : program.Establishes
    (OwnHash endpoint organizationId userId deviceId)
    (fun cluster => cluster.redis.userData.get? (userId, deviceId) = none)
  onNode : program.Establishes
    (OwnHash endpoint organizationId userId deviceId)
    (fun cluster => (organizationId, userId, deviceId) ∉
      cluster.redis.nodeUsers.members endpoint)

theorem RemovesKeys.bind {endpoint : Endpoint}
    {organizationId : OrganizationId} {userId : UserId} {A B : Type}
    {program : Service A}
    (hprogram : RemovesKeys endpoint organizationId userId deviceId program)
    (rest : A → Service B) :
    RemovesKeys endpoint organizationId userId deviceId
      (program >>= rest) :=
  ⟨hprogram.devices.bind rest, hprogram.data.bind rest,
    hprogram.onNode.bind rest⟩

theorem removesKeys_bind_rest {A B : Type} {program : Service A}
    {rest : A → Service B}
    (hrest : ∀ result, RemovesKeys endpoint organizationId userId deviceId
      (rest result)) :
    RemovesKeys endpoint organizationId userId deviceId
      (program >>= rest) :=
  ⟨Async.establishes_bind_rest (fun result => (hrest result).devices),
    Async.establishes_bind_rest (fun result => (hrest result).data),
    Async.establishes_bind_rest (fun result => (hrest result).onNode)⟩

theorem removesKeys_removeDeviceKeys (deviceId : DeviceId) :
    RemovesKeys endpoint organizationId userId deviceId
      (removeDeviceKeys endpoint organizationId userId deviceId) where
  devices := by
    apply Async.Establishes.bind
    apply Async.establishes_atomic
    intro cluster _
    simp [Redis.removeUserDevice]
  data := by
    apply Async.establishes_bind_rest
    intro _
    apply Async.establishes_bind_rest
    intro extraParams
    apply Async.Establishes.bind
    apply Async.establishes_atomic
    intro cluster _
    simp [Redis.deleteUserExtraParams]
  onNode := by
    apply Async.establishes_bind_rest
    intro _ cluster hown
    by_cases hmem : (organizationId, userId, deviceId) ∈
        cluster.redis.nodeUsers.members endpoint
    · -- the removal reads a hash that names this node or none
      right
      have hnode : (cluster.redis.retrieveUserExtraParams userId
          deviceId).nodeEndpoint.getD endpoint = endpoint := by
        cases hhash : (cluster.redis.retrieveUserExtraParams userId
            deviceId).nodeEndpoint with
        | none => rfl
        | some registered => exact hown hmem registered hhash
      have hlast : ∀ target, target = endpoint →
          (redisUpdate (.removing userId deviceId) (fun redis =>
            redis.deleteUserExtraParams userId deviceId) >>= fun _ =>
              redisUpdate (.removing userId deviceId) (fun redis =>
                redis.removeUserDeviceFromNode target organizationId userId
                  deviceId)).Establishes
            (OwnHash endpoint organizationId userId deviceId)
            (fun cluster => (organizationId, userId, deviceId) ∉
              cluster.redis.nodeUsers.members endpoint) := by
        rintro target rfl
        apply Async.establishes_bind_rest
        intro _
        apply Async.establishes_atomic
        intro later _
        simp [Redis.removeUserDeviceFromNode]
      exact hlast _ hnode
    · exact .inl hmem

theorem removesKeys_removeAllUserDeviceData (deployment : Deployment)
    (deviceId : DeviceId) :
    RemovesKeys endpoint organizationId userId deviceId
      (removeAllUserDeviceData deployment endpoint organizationId userId
        deviceId) :=
  (removesKeys_removeDeviceKeys endpoint organizationId userId
    deviceId).bind _

variable {deployment : Deployment}
  (hcluster : deployment.isStandAloneNode = false)
include hcluster

theorem sweeping_listUserDevice (filterActualDevices : Bool) :
    (listUserDevice deployment endpoint organizationId userId
      filterActualDevices).Guarantees
        (Sweeping endpoint organizationId userId deviceId) := by
  simp only [listUserDevice, hcluster, Bool.false_eq_true, if_false]
  apply Async.guarantees_bind ((idle_redisQuery rfl rfl _).mono
    (fun _ _ _ hidle => hidle.sweeping))
  intro deviceIds
  split
  · exact sweeping_filterActualDeviceIds endpoint organizationId userId
      deviceIds
  · trivial

/-- Listing the devices of the user and sweeping the list. -/
theorem establishes_listUserDevice :
    (listUserDevice deployment endpoint organizationId userId
      true).Establishes (Doomed endpoint organizationId userId deviceId)
        (fun cluster => cluster.redis.NotRegistered endpoint organizationId
          userId deviceId) := by
  simp only [listUserDevice, hcluster, Bool.false_eq_true, if_false, if_true]
  intro cluster hdoomed
  rcases hdoomed.listed with hlisted | hclean
  · exact .inr (establishes_filterActualDeviceIds endpoint organizationId
      userId hlisted)
  · exact .inl hclean

theorem sweeping_removeAllUserDeviceData {otherDevice : DeviceId}
    (hother : otherDevice ≠ deviceId) :
    (removeAllUserDeviceData deployment endpoint organizationId userId
      otherDevice).Guarantees
        (Sweeping endpoint organizationId userId deviceId) := by
  apply Async.guarantees_bind (sweeping_removeDeviceKeys endpoint
    organizationId userId hother)
  intro _
  exact Async.guarantees_bind (sweeping_listUserDevice endpoint
    organizationId userId hcluster true) (fun _ => trivial)

/-- Storing another device of the user. -/
theorem sweeping_storeUserNodeData {otherDevice : DeviceId}
    (hother : otherDevice ≠ deviceId) :
    (storeUserNodeData deployment endpoint organizationId userId
      otherDevice).Guarantees
        (Sweeping endpoint organizationId userId deviceId) := by
  have hstored : (redisUpdate (.stored endpoint userId otherDevice)
      (fun redis => redis.addUserDeviceDataTransaction endpoint
        organizationId userId otherDevice)).Guarantees
        (Sweeping endpoint organizationId userId deviceId) := by
    refine sweeping_redisUpdate endpoint organizationId userId hother rfl ?_
      (fun redis => redis.sameOtherDevices_addUserDeviceDataTransaction
        endpoint organizationId userId otherDevice)
    intro heq
    exact hother (Prod.mk.inj (Option.some.inj heq)).2
  simp only [storeUserNodeData, hcluster, Bool.false_eq_true, if_false]
  apply Async.guarantees_bind (sweeping_listUserDevice endpoint
    organizationId userId hcluster false)
  intro userDeviceIds
  split
  · exact Async.guarantees_bind (sweeping_removeAllUserDeviceData endpoint
      organizationId userId hcluster hother) (fun _ => hstored)
  · exact hstored

end SessionService

section Promises

variable {T : Type} {P : System T Label Cluster →
    Event T Label Cluster → Prop}
  {system : System T Label Cluster} {endpoint : Endpoint}
  {organizationId : OrganizationId} {userId : UserId} {deviceId : DeviceId}

/-- One program in flight still has all commands of the removal before it. -/
theorem promises_of_removesKeys
    (hown : OwnHash endpoint organizationId userId deviceId system.state)
    (htasks : ∀ task ∈ system.tasks, task.body.Guarantees (fun _ =>
      ShrinksKeys endpoint organizationId userId deviceId))
    {task : Task T Label Cluster} (htask : task ∈ system.tasks)
    (hkeys : SessionService.RemovesKeys endpoint organizationId userId
      deviceId task.body) :
    System.Promises P (fun cluster => cluster.redis.NotRegistered endpoint
      organizationId userId deviceId) system := by
  have hsettling : ∀ Q : Cluster → Prop,
      (∀ before after, ShrinksKeys endpoint organizationId userId deviceId
        before after → Q before → Q after) →
      task.body.Establishes
        (OwnHash endpoint organizationId userId deviceId) Q →
      System.Promises P Q system := by
    intro Q hstable hestablishes
    refine System.Settling.promises ⟨hown, fun other hother =>
      (htasks other hother).mono ?_, .inr ⟨task, htask, hestablishes⟩⟩
    intro label before after hshrinks hbefore
    exact ⟨hbefore.of_shrinks hshrinks, hstable before after hshrinks⟩
  have hdevices := hsettling _ (fun _ _ hshrinks hnone hmem =>
    hnone (hshrinks.devices hmem)) hkeys.devices
  have hdata := hsettling _ (fun before after hshrinks hnone => by
    rcases hshrinks.data with hsame | hgone
    · exact hsame.trans hnone
    · exact hgone) hkeys.data
  have honNode := hsettling _ (fun _ _ hshrinks hnone hmem =>
    hnone (hshrinks.onNode hmem)) hkeys.onNode
  exact ((hdevices.and hdata).and honNode).mono (fun _ hall =>
    ⟨hall.1.1, hall.1.2, hall.2⟩)

/-- One program in flight still has to list the devices and sweep the list. -/
theorem promises_of_sweep
    (hdoomed : Doomed endpoint organizationId userId deviceId system.state)
    (htasks : ∀ task ∈ system.tasks, task.body.Guarantees
      (Sweeping endpoint organizationId userId deviceId))
    {task : Task T Label Cluster} (htask : task ∈ system.tasks)
    (hsweep : task.body.Establishes
      (Doomed endpoint organizationId userId deviceId)
      (fun cluster => cluster.redis.NotRegistered endpoint organizationId
        userId deviceId)) :
    System.Promises P (fun cluster => cluster.redis.NotRegistered endpoint
      organizationId userId deviceId) system := by
  refine System.Settling.promises ⟨hdoomed, fun other hother =>
    (htasks other hother).mono ?_, .inr ⟨task, htask, hsweep⟩⟩
  intro label before after hsweeping hbefore
  exact ⟨hbefore.of_sweeping hsweeping,
    fun hclean => hclean.of_shrinks hsweeping.toShrinksKeys⟩

end Promises

end SamaServer
