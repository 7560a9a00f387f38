/-
A clean-up of a dead node among the connects of the other nodes.  The clean-up
works through a list it has read once, so what it removes later may have been
registered elsewhere by then.  Each program counts on the devices it has in
hand being given up at most, and guarantees the same to all others.
-/
import SamaServer.RelyGuarantee
import SamaServer.KeyRemoval
import SamaServer.NodeCleanUp
import SamaServer.TakeOver

namespace SamaServer

/-- As far as Redis knows the device at all, it is registered on the node. -/
def Redis.BelongsTo (redis : Redis) (nodeEndpoint : Endpoint)
    (organizationId : OrganizationId) (userId : UserId)
    (deviceId : DeviceId) : Prop :=
  deviceId ∈ redis.userDevices.members (organizationId, userId) ∨
      (redis.userData.get? (userId, deviceId)).isSome = true →
    (redis.retrieveUserExtraParams userId deviceId).nodeEndpoint =
      some nodeEndpoint

instance (redis : Redis) (nodeEndpoint : Endpoint)
    (organizationId : OrganizationId) (userId : UserId)
    (deviceId : DeviceId) :
    Decidable (redis.BelongsTo nodeEndpoint organizationId userId
      deviceId) :=
  inferInstanceAs (Decidable (_ → _))

/-- Every device that leaves its user's set, and every hash that is deleted,
was registered on the node. -/
structure Redis.RemovesOwn (nodeEndpoint : Endpoint) (before after : Redis) :
    Prop where
  devices : ∀ organizationId userId deviceId,
    deviceId ∈ before.userDevices.members (organizationId, userId) →
    deviceId ∉ after.userDevices.members (organizationId, userId) →
    (before.retrieveUserExtraParams userId deviceId).nodeEndpoint =
      some nodeEndpoint
  data : ∀ userId deviceId,
    (before.userData.get? (userId, deviceId)).isSome = true →
    after.userData.get? (userId, deviceId) = none →
    (before.retrieveUserExtraParams userId deviceId).nodeEndpoint =
      some nodeEndpoint

namespace NodeLabel

/-- The first steps of the programs. -/
def begins : NodeLabel → Bool
  | .session (.connected ..) | .members _ => true
  | _ => false

def stores : NodeLabel → Option (UserId × DeviceId)
  | .session label => label.stores
  | _ => none

/-- What a clean-up has still to remove. -/
def removals : NodeLabel → List NodeUser
  | .removing _ userData later _ | .counting _ userData later _ =>
      userData :: later
  | _ => []

/-- What a clean-up has still to report, as far as it is decided before the
step: the devices of the user it works on are counted between its two
removals. -/
def reports : NodeLabel → List NodeUser
  | .removing _ userData _ reported => userData :: reported
  | .counting _ _ _ reported | .forgetting _ reported => reported
  | .reporting _ userData later => userData :: later
  | _ => []

/-- The program in front of the step may remove the device or report its user
without asking again. -/
def Endangers (userId : UserId) (deviceId : DeviceId) : NodeLabel → Prop
  | .session label => label.Endangers userId deviceId
  | label => (∃ userData ∈ label.removals,
      userData.device? = some (userId, deviceId)) ∨
    ∃ userData ∈ label.reports, userData.userId = userId.value

instance (userId : UserId) (deviceId : DeviceId) :
    (label : NodeLabel) → Decidable (label.Endangers userId deviceId)
  | .session label =>
      inferInstanceAs (Decidable (_ ∨ label = .judged userId deviceId ∨ _))
  | .members _ | .removing .. | .counting .. | .forgetting ..
  | .reporting .. => inferInstanceAs (Decidable (_ ∨ _))

end NodeLabel

inductive CleanUpTask
  | connect (endpoint : Endpoint) (socket : Socket) (userId : UserId)
      (deviceId : DeviceId)
  | cleanUp (nodeEndpoint : Endpoint)
deriving DecidableEq

namespace CleanUpTask

def program (deployment : Deployment) : CleanUpTask → NodeService Unit
  | .connect endpoint socket userId deviceId =>
      (SessionService.connectDevice deployment endpoint socket userId
        deviceId).mapLabel .session
  | .cleanUp nodeEndpoint =>
      SessionService.cleanDestroyedNodeData deployment nodeEndpoint

/-- The device a connect is for. -/
def device? : CleanUpTask → Option (UserId × DeviceId)
  | .connect _ _ userId deviceId => some (userId, deviceId)
  | .cleanUp _ => none

end CleanUpTask

section Relations

variable (deployment : Deployment)

/-- Redis has given up the device or parts of it, and has put nothing else in
their place. -/
structure Recedes (userId : UserId) (deviceId : DeviceId)
    (before after : Redis) : Prop where
  devices : deviceId ∈ after.userDevices.members
      (deployment.organizationOf userId, userId) →
    deviceId ∈ before.userDevices.members
      (deployment.organizationOf userId, userId)
  belongs : ∀ nodeEndpoint,
    before.BelongsTo nodeEndpoint (deployment.organizationOf userId) userId
      deviceId →
    after.BelongsTo nodeEndpoint (deployment.organizationOf userId) userId
      deviceId

/-- What a program counts on in front of a step: the device it connects, and
those that it has in hand, recede. -/
def Relies (task : CleanUpTask) (label : NodeLabel) (before after : Cluster) :
    Prop :=
  ∀ userId deviceId,
    task.device? = some (userId, deviceId) ∨
      label.Endangers userId deviceId →
    Recedes deployment userId deviceId before.redis after.redis

/-- An entry that a clean-up may work on: it names a device under the
organization of its user, which is registered on the node if at all. -/
def Due (nodeEndpoint : Endpoint) (redis : Redis) (userData : NodeUser) :
    Prop :=
  ∃ userId deviceId,
    userData = .of (deployment.organizationOf userId) userId deviceId ∧
    redis.BelongsTo nodeEndpoint (deployment.organizationOf userId) userId
      deviceId

/-- An entry that a clean-up may report: its user has no device. -/
def Offline (redis : Redis) (userData : NodeUser) : Prop :=
  ∃ userId deviceId,
    userData = .of (deployment.organizationOf userId) userId deviceId ∧
    redis.listUserDevice (deployment.organizationOf userId) userId = []

/-- A clean-up removes only what is registered on its node, and reports only
users without devices. -/
def Rightful (before after : Redis) : NodeLabel → Prop
  | .removing nodeEndpoint _ _ _ => before.RemovesOwn nodeEndpoint after
  | .reporting _ userData _ => Offline deployment before userData
  | _ => True

/-- What every step after the first does: all devices recede except one that
it stores, and it is rightful. -/
structure Orderly (label : NodeLabel) (before after : Cluster) : Prop where
  later : label.begins = false
  node : after.node = before.node
  owners : ∀ nodeEndpoint organizationId userId deviceId,
    (organizationId, userId, deviceId) ∈
      after.redis.nodeUsers.members nodeEndpoint →
    organizationId = deployment.organizationOf userId ∨
      (organizationId, userId, deviceId) ∈
        before.redis.nodeUsers.members nodeEndpoint
  recedes : ∀ userId deviceId, label.stores ≠ some (userId, deviceId) →
    Recedes deployment userId deviceId before.redis after.redis
  rightful : Rightful deployment before.redis after.redis label

end Relations

section Recede

variable {deployment : Deployment} {userId : UserId} {deviceId : DeviceId}
  {before after : Redis}

theorem Recedes.refl (redis : Redis) :
    Recedes deployment userId deviceId redis redis :=
  ⟨id, fun _ => id⟩

theorem Recedes.trans {first second third : Redis}
    (hfirst : Recedes deployment userId deviceId first second)
    (hsecond : Recedes deployment userId deviceId second third) :
    Recedes deployment userId deviceId first third :=
  ⟨fun hmem => hfirst.devices (hsecond.devices hmem),
    fun nodeEndpoint hbelongs => hsecond.belongs nodeEndpoint
      (hfirst.belongs nodeEndpoint hbelongs)⟩

/-- The hash stays. -/
theorem recedes_of_data
    (hdevices : deviceId ∈ after.userDevices.members
        (deployment.organizationOf userId, userId) →
      deviceId ∈ before.userDevices.members
        (deployment.organizationOf userId, userId))
    (hdata : after.userData.get? (userId, deviceId) =
      before.userData.get? (userId, deviceId)) :
    Recedes deployment userId deviceId before after := by
  refine ⟨hdevices, fun nodeEndpoint hbelongs hknown => ?_⟩
  rw [hdata] at hknown
  rw [Redis.retrieveUserExtraParams, hdata]
  exact hbelongs (hknown.imp hdevices id)

theorem Redis.SameDevice.recedes
    (hsame : Redis.SameDevice userId deviceId before after) :
    Recedes deployment userId deviceId before after :=
  recedes_of_data (hsame.devices _).1 hsame.data

/-- Nothing is left of the device. -/
theorem recedes_of_gone
    (hdevices : deviceId ∉ after.userDevices.members
      (deployment.organizationOf userId, userId))
    (hdata : after.userData.get? (userId, deviceId) = none) :
    Recedes deployment userId deviceId before after := by
  refine ⟨fun hmem => absurd hmem hdevices, fun nodeEndpoint _ hknown => ?_⟩
  rcases hknown with hmem | hsome
  · exact absurd hmem hdevices
  · rw [hdata] at hsome
    cases hsome

variable (deployment userId deviceId)

theorem recedes_removeUserDevice (redis : Redis)
    (organizationId : OrganizationId) (otherUser : UserId)
    (otherDevice : DeviceId) :
    Recedes deployment userId deviceId redis
      (redis.removeUserDevice organizationId otherUser otherDevice) :=
  recedes_of_data
    (fun hmem => ((OrderedMap.mem_members_removeMember ..).1 hmem).1) rfl

/-- A hash is deleted when its device has left the set. -/
theorem recedes_deleteUserExtraParams {redis : Redis} {otherUser : UserId}
    {otherDevice : DeviceId}
    (hleft : otherDevice ∉ redis.userDevices.members
      (deployment.organizationOf otherUser, otherUser)) :
    Recedes deployment userId deviceId redis
      (redis.deleteUserExtraParams otherUser otherDevice) := by
  by_cases hother : (userId, deviceId) = (otherUser, otherDevice)
  · obtain ⟨rfl, rfl⟩ := Prod.mk.inj hother
    exact recedes_of_gone hleft (by simp [Redis.deleteUserExtraParams])
  · exact (redis.sameOtherDevices_deleteUserExtraParams otherUser otherDevice
      userId deviceId hother).recedes

theorem recedes_drop (redis : Redis) (endpoint : Endpoint)
    (otherUser : UserId) (otherDevice : DeviceId) :
    Recedes deployment userId deviceId redis
      (redis.removeAllUserDeviceDataTransaction endpoint
        (deployment.organizationOf otherUser) otherUser otherDevice) := by
  by_cases hother : (userId, deviceId) = (otherUser, otherDevice)
  · obtain ⟨rfl, rfl⟩ := Prod.mk.inj hother
    have hclean :=
      SessionService.notRegistered_removeAllUserDeviceDataTransaction
        endpoint (deployment.organizationOf userId) userId redis deviceId
    exact recedes_of_gone hclean.devices hclean.data
  · exact (redis.sameOtherDevices_removeAllUserDeviceDataTransaction
      endpoint _ otherUser otherDevice userId deviceId hother).recedes

end Recede

section Orderliness

variable {deployment : Deployment} {label : NodeLabel}

/-- A command that takes nothing on, for whatever is said of the rest. -/
theorem orderly_setRedis {cluster : Cluster} {redis : Redis}
    (hlater : label.begins = false)
    (hnodeUsers : ∀ nodeEndpoint entry,
      entry ∈ redis.nodeUsers.members nodeEndpoint →
      entry ∈ cluster.redis.nodeUsers.members nodeEndpoint)
    (hrecedes : ∀ userId deviceId,
      Recedes deployment userId deviceId cluster.redis redis)
    (hrightful : Rightful deployment cluster.redis redis label) :
    Orderly deployment label cluster (cluster.setRedis redis) :=
  ⟨hlater, rfl, fun nodeEndpoint _ _ _ hmem =>
      .inr (hnodeUsers nodeEndpoint _ hmem),
    fun userId deviceId _ => hrecedes userId deviceId, hrightful⟩

theorem orderly_refl {cluster : Cluster} (hlater : label.begins = false)
    (hrightful : Rightful deployment cluster.redis cluster.redis label) :
    Orderly deployment label cluster cluster :=
  orderly_setRedis hlater (fun _ _ hmem => hmem) (fun _ _ => .refl _)
    hrightful

end Orderliness

namespace SessionService

variable {deployment : Deployment} (endpoint : Endpoint) (userId : UserId)

theorem orderly_redisQuery {A : Type} {label : Label}
    (hlater : (NodeLabel.session label).begins = false)
    (query : Redis → A) :
    (redisQuery label query).Guarantees
      (fun label => Orderly deployment (.session label)) :=
  Async.guarantees_atomic (fun _ => orderly_refl hlater trivial)

theorem orderly_filterActualDeviceIds (deviceIds : List DeviceId) :
    (filterActualDeviceIds endpoint (deployment.organizationOf userId)
      userId deviceIds).Guarantees
        (fun label => Orderly deployment (.session label)) := by
  induction deviceIds with
  | nil => trivial
  | cons deviceId deviceIds ih =>
      apply Async.guarantees_bind (orderly_redisQuery rfl _)
      intro deviceExt
      apply Async.guarantees_bind
      · apply Async.guarantees_atomic
        intro cluster
        simp only [setNode_self]
        exact orderly_refl rfl trivial
      intro notActual
      cases notActual with
      | true =>
          apply Async.guarantees_bind
          · apply Async.guarantees_atomic
            intro cluster
            exact orderly_setRedis rfl (fun nodeEndpoint entry hmem =>
                ((OrderedMap.mem_members_removeMember ..).1 hmem).1)
              (fun other device => recedes_drop deployment other device
                cluster.redis endpoint userId deviceId) trivial
          · exact fun _ => ih
      | false => exact Async.guarantees_bind ih (fun _ => trivial)

theorem orderly_listUserDevice
    (hcluster : deployment.isStandAloneNode = false)
    (filterActualDevices : Bool) :
    (listUserDevice deployment endpoint (deployment.organizationOf userId)
      userId filterActualDevices).Guarantees
        (fun label => Orderly deployment (.session label)) := by
  simp only [listUserDevice, hcluster, Bool.false_eq_true, if_false]
  apply Async.guarantees_bind (orderly_redisQuery rfl _)
  intro deviceIds
  cases filterActualDevices with
  | true => exact orderly_filterActualDeviceIds endpoint userId deviceIds
  | false => trivial

variable {deviceId : DeviceId} {task : CleanUpTask}
  (htask : task.device? = some (userId, deviceId))
include htask

/-- Between the removal of the device from the set and the deletion of its
hash the program counts on the device not coming back. -/
theorem tracks_removeDeviceKeys (now : Cluster) :
    (removeDeviceKeys endpoint (deployment.organizationOf userId) userId
      deviceId).Tracks (fun label => Relies deployment task (.session label))
        (fun label => Orderly deployment (.session label))
        (fun _ _ => True) now := by
  intro first _
  refine ⟨orderly_setRedis rfl (fun _ _ hmem => hmem) (fun other device =>
    recedes_removeUserDevice deployment other device first.redis _ _ _)
    trivial, ?_⟩
  intro second hsecond
  refine ⟨orderly_refl rfl trivial, ?_⟩
  intro third hthird
  have hleft : deviceId ∉ third.redis.userDevices.members
      (deployment.organizationOf userId, userId) := by
    intro hmem
    have hbefore := (hsecond userId deviceId (.inl htask)).devices
      ((hthird userId deviceId (.inl htask)).devices hmem)
    exact ((OrderedMap.mem_members_removeMember ..).1 hbefore).2 ⟨rfl, rfl⟩
  refine ⟨orderly_setRedis rfl (fun _ _ hmem => hmem) (fun other device =>
    recedes_deleteUserExtraParams deployment other device hleft) trivial, ?_⟩
  intro fourth _
  exact ⟨orderly_setRedis rfl (fun _ _ hmem =>
    ((OrderedMap.mem_members_removeMember ..).1 hmem).1)
    (fun _ _ => recedes_of_data id rfl) trivial, trivial⟩

theorem tracks_removeAllUserDeviceData
    (hcluster : deployment.isStandAloneNode = false) (now : Cluster) :
    (removeAllUserDeviceData deployment endpoint
      (deployment.organizationOf userId) userId deviceId).Tracks
        (fun label => Relies deployment task (.session label))
        (fun label => Orderly deployment (.session label))
        (fun _ _ => True) now := by
  refine Async.tracks_bind (tracks_removeDeviceKeys endpoint userId htask
    now) (fun _ state _ => ?_)
  exact Async.tracks_bind (orderly_listUserDevice endpoint userId hcluster
    true).tracks (fun _ _ _ => trivial)

theorem tracks_storeUserNodeData
    (hcluster : deployment.isStandAloneNode = false) (now : Cluster) :
    (storeUserNodeData deployment endpoint
      (deployment.organizationOf userId) userId deviceId).Tracks
        (fun label => Relies deployment task (.session label))
        (fun label => Orderly deployment (.session label))
        (fun _ _ => True) now := by
  have hstore : (redisUpdate (.stored endpoint userId deviceId)
      (fun redis => redis.addUserDeviceDataTransaction endpoint
        (deployment.organizationOf userId) userId deviceId)).Guarantees
        (fun label => Orderly deployment (.session label)) := by
    apply Async.guarantees_atomic
    intro cluster
    refine ⟨rfl, rfl, fun nodeEndpoint organization user device hmem => ?_,
      fun other device hother => ?_, trivial⟩
    · rcases (OrderedMap.mem_members_addMember ..).1 hmem with
        ⟨-, heq⟩ | hold
      · cases heq
        exact .inl rfl
      · exact .inr hold
    · refine (cluster.redis.sameOtherDevices_addUserDeviceDataTransaction
        endpoint _ userId deviceId other device ?_).recedes
      intro heq
      exact hother (congrArg some heq.symm)
  simp only [storeUserNodeData, hcluster, Bool.false_eq_true, if_false]
  refine Async.tracks_bind (orderly_listUserDevice endpoint userId hcluster
    false).tracks (fun userDeviceIds state _ => ?_)
  split
  · exact Async.tracks_bind (tracks_removeAllUserDeviceData endpoint userId
      htask hcluster state) (fun _ _ _ => hstore.tracks)
  · exact hstore.tracks

end SessionService

section CleanUp

variable {deployment : Deployment} {nodeEndpoint : Endpoint}
  {userData : NodeUser}

theorem Due.belongsTo {redis : Redis} {userId : UserId} {deviceId : DeviceId}
    (hdue : Due deployment nodeEndpoint redis
      (.of (deployment.organizationOf userId) userId deviceId)) :
    redis.BelongsTo nodeEndpoint (deployment.organizationOf userId) userId
      deviceId := by
  obtain ⟨user, device, heq, hbelongs⟩ := hdue
  simp only [NodeUser.of, NodeUser.mk.injEq] at heq
  obtain rfl := Redis.eq_of_value heq.2.1
  obtain rfl := Redis.eq_of_value heq.2.2
  exact hbelongs

theorem Due.of_recedes {before after : Redis}
    (hdue : Due deployment nodeEndpoint before userData)
    (hrecedes : ∀ userId deviceId,
      userData.device? = some (userId, deviceId) →
      Recedes deployment userId deviceId before after) :
    Due deployment nodeEndpoint after userData := by
  obtain ⟨userId, deviceId, rfl, hbelongs⟩ := hdue
  exact ⟨userId, deviceId, rfl,
    (hrecedes userId deviceId Redis.device?_of).belongs _ hbelongs⟩

theorem Offline.of_recedes {before after : Redis}
    (hoffline : Offline deployment before userData)
    (hrecedes : ∀ userId, userData.userId = userId.value → ∀ deviceId,
      Recedes deployment userId deviceId before after) :
    Offline deployment after userData := by
  obtain ⟨userId, deviceId, rfl, hnone⟩ := hoffline
  refine ⟨userId, deviceId, rfl, List.eq_nil_iff_forall_not_mem.2 ?_⟩
  intro device hmem
  have hbefore := (hrecedes userId rfl device).devices hmem
  rw [Redis.listUserDevice] at hnone
  rw [hnone] at hbefore
  cases hbefore

theorem Relies.due {task : CleanUpTask} {label : NodeLabel}
    {before after : Cluster}
    (hrelies : Relies deployment task label before after)
    (hlabel : ∀ own, label ≠ .session own)
    (hmem : userData ∈ label.removals)
    (hdue : Due deployment nodeEndpoint before.redis userData) :
    Due deployment nodeEndpoint after.redis userData := by
  refine hdue.of_recedes (fun userId deviceId hdevice =>
    hrelies userId deviceId (.inr ?_))
  cases label with
  | session own => exact absurd rfl (hlabel own)
  | _ => exact .inl ⟨userData, hmem, hdevice⟩

theorem Relies.offline {task : CleanUpTask} {label : NodeLabel}
    {before after : Cluster}
    (hrelies : Relies deployment task label before after)
    (hlabel : ∀ own, label ≠ .session own)
    (hmem : userData ∈ label.reports)
    (hoffline : Offline deployment before.redis userData) :
    Offline deployment after.redis userData := by
  refine hoffline.of_recedes (fun userId huser deviceId =>
    hrelies userId deviceId (.inr ?_))
  cases label with
  | session own => exact absurd rfl (hlabel own)
  | _ => exact .inr ⟨userData, hmem, huser⟩

variable (deployment) in
/-- What a clean-up has to remove and to report is in order. -/
structure InHand (nodeEndpoint : Endpoint) (entries reported : List NodeUser)
    (cluster : Cluster) : Prop where
  due : ∀ userData ∈ entries,
    Due deployment nodeEndpoint cluster.redis userData
  offline : ∀ userData ∈ reported, Offline deployment cluster.redis userData

variable {entries later reported : List NodeUser}

theorem Relies.inHand {task : CleanUpTask} {label : NodeLabel}
    {before after : Cluster}
    (hrelies : Relies deployment task label before after)
    (hlabel : ∀ own, label ≠ .session own)
    (hentries : ∀ userData ∈ entries, userData ∈ label.removals)
    (hreported : ∀ userData ∈ reported, userData ∈ label.reports)
    (hinHand : InHand deployment nodeEndpoint entries reported before) :
    InHand deployment nodeEndpoint entries reported after :=
  ⟨fun userData hmem => hrelies.due hlabel (hentries userData hmem)
      (hinHand.due userData hmem),
    fun userData hmem => hrelies.offline hlabel (hreported userData hmem)
      (hinHand.offline userData hmem)⟩

theorem InHand.of_recedes {before after : Cluster}
    (hinHand : InHand deployment nodeEndpoint entries reported before)
    (hrecedes : ∀ userId deviceId,
      Recedes deployment userId deviceId before.redis after.redis) :
    InHand deployment nodeEndpoint entries reported after :=
  ⟨fun userData hmem => (hinHand.due userData hmem).of_recedes
      (fun userId deviceId _ => hrecedes userId deviceId),
    fun userData hmem => (hinHand.offline userData hmem).of_recedes
      (fun userId _ deviceId => hrecedes userId deviceId)⟩

/-- One entry is done; its user is to be reported if no device is left. -/
theorem InHand.next {cluster : Cluster} {isLastUserSession : Bool}
    (hinHand : InHand deployment nodeEndpoint (userData :: later) reported
      cluster)
    (hlast : isLastUserSession = true →
      Offline deployment cluster.redis userData) :
    InHand deployment nodeEndpoint later
      (if isLastUserSession then reported ++ [userData] else reported)
      cluster := by
  have hdue : ∀ other ∈ later,
      Due deployment nodeEndpoint cluster.redis other :=
    fun other hmem => hinHand.due other (List.mem_cons_of_mem userData hmem)
  cases isLastUserSession with
  | false => exact ⟨hdue, hinHand.offline⟩
  | true =>
      refine ⟨hdue, fun other hmem => ?_⟩
      rcases List.mem_append.1 hmem with hold | hnew
      · exact hinHand.offline other hold
      · rw [List.mem_singleton.1 hnew]
        exact hlast rfl

end CleanUp

namespace Redis

variable (redis : Redis) (organizationId : OrganizationId) (userId : UserId)
  (deviceId : DeviceId)

theorem removeNamedDevice_of :
    redis.removeNamedDevice (.of organizationId userId deviceId) =
      redis.removeUserDevice organizationId userId deviceId := by
  rw [removeNamedDevice, user?_of, NodeUser.of, ofText?_value]

theorem deleteNamedExtraParams_of :
    redis.deleteNamedExtraParams (.of organizationId userId deviceId) =
      redis.deleteUserExtraParams userId deviceId := by
  rw [deleteNamedExtraParams, device?_of]

theorem listNamedUserDevice_of :
    redis.listNamedUserDevice (.of organizationId userId deviceId) =
      redis.listUserDevice organizationId userId := by
  rw [listNamedUserDevice, user?_of]

variable {redis organizationId userId deviceId} {nodeEndpoint : Endpoint}

theorem removesOwn_removeUserDevice
    (hbelongs : redis.BelongsTo nodeEndpoint organizationId userId
      deviceId) :
    redis.RemovesOwn nodeEndpoint
      (redis.removeUserDevice organizationId userId deviceId) := by
  constructor
  · intro organization user device hmem hleft
    by_cases hkey : (organization, user) = (organizationId, userId) ∧
        device = deviceId
    · obtain ⟨hkey, rfl⟩ := hkey
      cases hkey
      exact hbelongs (.inl hmem)
    · exact absurd ((OrderedMap.mem_members_removeMember ..).2
        ⟨hmem, hkey⟩) hleft
  · intro user device hsome hnone
    rw [removeUserDevice] at hnone
    rw [hnone] at hsome
    cases hsome

theorem removesOwn_deleteUserExtraParams
    (hbelongs : redis.BelongsTo nodeEndpoint organizationId userId
      deviceId) :
    redis.RemovesOwn nodeEndpoint
      (redis.deleteUserExtraParams userId deviceId) := by
  constructor
  · intro organization user device hmem hleft
    exact absurd hmem hleft
  · intro user device hsome hnone
    rw [deleteUserExtraParams, OrderedMap.get?_erase] at hnone
    split at hnone
    · next hkey =>
        cases hkey
        exact hbelongs (.inr hsome)
    · rw [hnone] at hsome
      cases hsome

end Redis

namespace SessionService

variable {deployment : Deployment} {nodeEndpoint : Endpoint}
  {task : CleanUpTask} {userData : NodeUser} {later reported : List NodeUser}
  {now : Cluster}

theorem tracks_removeUserData
    (hinHand : InHand deployment nodeEndpoint (userData :: later) reported
      now) :
    (removeUserData nodeEndpoint userData later reported).Tracks
      (Relies deployment task) (Orderly deployment)
      (fun isLastUserSession => InHand deployment nodeEndpoint later
        (if isLastUserSession then reported ++ [userData] else reported))
      now := by
  obtain ⟨userId, deviceId, rfl, -⟩ := hinHand.due userData
    List.mem_cons_self
  intro first hfirst
  have hbefore := hfirst.inHand (by simp) (by simp [NodeLabel.removals])
    (by simp +contextual [NodeLabel.reports]) hinHand
  have hremove : ∀ other device, Recedes deployment other device first.redis
      (first.redis.removeUserDevice (deployment.organizationOf userId) userId
        deviceId) := fun other device =>
    recedes_removeUserDevice deployment other device first.redis _ _ _
  simp only [Redis.removeNamedDevice_of]
  refine ⟨orderly_setRedis rfl (fun _ _ hmem => hmem) hremove
    (Redis.removesOwn_removeUserDevice
      (hbefore.due _ List.mem_cons_self).belongsTo), ?_⟩
  -- the device is out of the set from here on
  intro second hsecond
  have hcounted := hsecond.inHand (by simp) (by simp [NodeLabel.removals])
    (by simp [NodeLabel.reports]) (hbefore.of_recedes hremove)
  refine ⟨orderly_refl rfl trivial, ?_⟩
  intro third hthird
  have hinHand := hthird.inHand (by simp) (by simp [NodeLabel.removals])
    (by simp +contextual [NodeLabel.reports]) hcounted
  have hleft : deviceId ∉ third.redis.userDevices.members
      (deployment.organizationOf userId, userId) := by
    intro hmem
    have hgone := (hsecond userId deviceId (.inr (.inl ⟨_,
      List.mem_cons_self, Redis.device?_of⟩))).devices ((hthird userId
        deviceId (.inr (.inl ⟨_, List.mem_cons_self,
          Redis.device?_of⟩))).devices hmem)
    exact ((OrderedMap.mem_members_removeMember ..).1 hgone).2 ⟨rfl, rfl⟩
  have hdelete : ∀ other device, Recedes deployment other device third.redis
      (third.redis.deleteUserExtraParams userId deviceId) :=
    fun other device => recedes_deleteUserExtraParams deployment other device
      hleft
  simp only [Redis.deleteNamedExtraParams_of]
  refine ⟨orderly_setRedis rfl (fun _ _ hmem => hmem) hdelete
    (Redis.removesOwn_deleteUserExtraParams
      (hinHand.due _ List.mem_cons_self).belongsTo), ?_⟩
  refine (hinHand.next (fun hempty => ?_)).of_recedes hdelete
  rw [Redis.listNamedUserDevice_of, List.isEmpty_iff] at hempty
  exact hthird.offline (by simp) List.mem_cons_self
    ⟨userId, deviceId, rfl, hempty⟩

theorem tracks_removeNodeUsers
    (hinHand : InHand deployment nodeEndpoint later reported now) :
    (removeNodeUsers nodeEndpoint later reported).Tracks
      (Relies deployment task) (Orderly deployment)
      (fun lastUserSessions => InHand deployment nodeEndpoint []
        lastUserSessions) now := by
  induction later generalizing reported now with
  | nil => exact hinHand
  | cons userData later ih =>
      exact Async.tracks_bind (tracks_removeUserData hinHand)
        (fun _ _ hnext => ih hnext)

theorem tracks_reportOffline
    (hoffline : ∀ userData ∈ reported,
      Offline deployment now.redis userData) :
    (reportOffline nodeEndpoint reported).Tracks (Relies deployment task)
      (Orderly deployment) (fun _ _ => True) now := by
  induction reported generalizing now with
  | nil => trivial
  | cons userData reported ih =>
      intro state hstate
      have hstill : ∀ other ∈ userData :: reported,
          Offline deployment state.redis other :=
        fun other hmem => hstate.offline (by simp) hmem (hoffline other hmem)
      exact ⟨orderly_refl rfl (hstill userData List.mem_cons_self),
        ih (fun other hmem => hstill other
          (List.mem_cons_of_mem userData hmem))⟩

/-- A clean-up after it has read the members of the node. -/
def cleanRest (nodeEndpoint : Endpoint) (userConnections : List NodeUser) :
    NodeService Unit := do
  let lastUserSessions ← removeNodeUsers nodeEndpoint userConnections []
  nodeUpdate (.forgetting nodeEndpoint lastUserSessions)
    (fun redis => redis.deleteNodeConnections nodeEndpoint)
  reportOffline nodeEndpoint lastUserSessions

theorem cleanDestroyedNodeData_eq_step
    (hcluster : deployment.isStandAloneNode = false)
    (nodeEndpoint : Endpoint) :
    cleanDestroyedNodeData deployment nodeEndpoint =
      .step (.members nodeEndpoint) (fun cluster => cluster)
        (fun cluster => cleanRest nodeEndpoint
          (cluster.redis.listNodeUserDevices nodeEndpoint)) := by
  simp only [cleanDestroyedNodeData, clearNodeUsersSession, hcluster,
    Bool.false_eq_true, if_false, Async.bind_assoc]
  rfl

theorem tracks_cleanRest
    (hinHand : InHand deployment nodeEndpoint later [] now) :
    (cleanRest nodeEndpoint later).Tracks (Relies deployment task)
      (Orderly deployment) (fun _ _ => True) now := by
  apply Async.tracks_bind (tracks_removeNodeUsers hinHand)
  intro lastUserSessions state hlast forgetting hforgetting
  have hstill := hforgetting.inHand (by simp) (by simp)
    (by simp [NodeLabel.reports]) hlast
  have hforget : ∀ userId deviceId, Recedes deployment userId deviceId
      forgetting.redis
      (forgetting.redis.deleteNodeConnections nodeEndpoint) :=
    fun _ _ => recedes_of_data id rfl
  refine ⟨orderly_setRedis rfl (fun other entry hmem => ?_) hforget trivial,
    tracks_reportOffline (hstill.of_recedes hforget).offline⟩
  change entry ∈ (forgetting.redis.nodeUsers.erase nodeEndpoint).members
    other at hmem
  rw [OrderedMap.members_erase] at hmem
  split at hmem
  · cases hmem
  · exact hmem

end SessionService

section Keeping

variable {deployment : Deployment} {endpoint nodeEndpoint : Endpoint}
  {socket : Socket} {userId : UserId} {deviceId : DeviceId}

theorem Redis.device?_of_user? {userData : NodeUser}
    {organizationId : OrganizationId} {user : UserId} {device : DeviceId}
    (huser : userData.user? = some (organizationId, user))
    (hdevice : Identifier.ofText? userData.deviceId = some device) :
    userData.device? = some (user, device) := by
  rw [NodeUser.device?, (user?_eq_some huser).2, ofText?_value, hdevice]
  rfl

/-- The commands for one entry leave all other devices alone. -/
theorem Redis.sameDevice_removeNamedDevice (redis : Redis)
    {userData : NodeUser}
    (hother : userData.device? ≠ some (userId, deviceId)) :
    SameDevice userId deviceId redis (redis.removeNamedDevice userData) := by
  unfold removeNamedDevice
  split
  · next organization user device huser hdevice =>
      apply sameOtherDevices_removeUserDevice
      rintro ⟨rfl, rfl⟩
      exact hother (device?_of_user? huser hdevice)
  · exact .refl redis

theorem Redis.sameDevice_deleteNamedExtraParams (redis : Redis)
    {userData : NodeUser}
    (hother : userData.device? ≠ some (userId, deviceId)) :
    SameDevice userId deviceId redis
      (redis.deleteNamedExtraParams userData) := by
  unfold deleteNamedExtraParams
  split
  · next user device hdevice =>
      apply sameOtherDevices_deleteUserExtraParams
      rintro ⟨rfl, rfl⟩
      exact hother hdevice
  · exact .refl redis

namespace SessionService

variable {userData : NodeUser} {later reported : List NodeUser}
  {rest : List NodeUser → NodeService Unit}

/-- Entries about other devices. -/
theorem keeps_removeNodeUsers
    (hothers : ∀ userData ∈ later,
      userData.device? ≠ some (userId, deviceId)) :
    (removeNodeUsers nodeEndpoint later reported).Keeps
      (Held deployment endpoint socket userId deviceId) := by
  induction later generalizing reported with
  | nil => trivial
  | cons userData later ih =>
      have hother := hothers userData List.mem_cons_self
      intro first hfirst
      refine ⟨hfirst.of_same rfl
        (first.redis.sameDevice_removeNamedDevice hother), ?_⟩
      intro second hsecond
      refine ⟨hsecond, ?_⟩
      intro third hthird
      exact ⟨hthird.of_same rfl
        (third.redis.sameDevice_deleteNamedExtraParams hother),
        ih (fun other hmem => hothers other
          (List.mem_cons_of_mem userData hmem))⟩

/-- The label of each step lists all entries to come, so a step that does not
endanger the device is followed by none that does. -/
theorem keepsOutside_removeNodeUsers
    (hkeeps : ∀ reported, (rest reported).Keeps
      (Held deployment endpoint socket userId deviceId))
    (hrest : ∀ reported, (rest reported).KeepsOutside
      (NodeLabel.Endangers userId deviceId)
      (Held deployment endpoint socket userId deviceId)) :
    (removeNodeUsers nodeEndpoint later reported >>= rest).KeepsOutside
      (NodeLabel.Endangers userId deviceId)
      (Held deployment endpoint socket userId deviceId) := by
  induction later generalizing reported with
  | nil => exact hrest reported
  | cons userData later ih =>
      have hothers : ∀ {removals : List NodeUser} {danger : Prop},
          ¬ ((∃ other ∈ removals,
            other.device? = some (userId, deviceId)) ∨ danger) →
          ∀ other ∈ removals, other.device? ≠ some (userId, deviceId) :=
        fun hsafe other hmem hdevice => hsafe (.inl ⟨other, hmem, hdevice⟩)
      have hlater : ∀ offline : List NodeUser,
          (∀ other ∈ userData :: later,
            other.device? ≠ some (userId, deviceId)) →
          (removeNodeUsers nodeEndpoint later offline >>= rest).Keeps
            (Held deployment endpoint socket userId deviceId) :=
        fun _ hnone => Async.keeps_bind (keeps_removeNodeUsers
          (fun other hmem => hnone other
            (List.mem_cons_of_mem userData hmem))) hkeeps
      refine ⟨fun hsafe => ?_, fun first => ⟨fun hsafe => ?_,
        fun second => ⟨fun hsafe => ?_, fun third => ih⟩⟩⟩
      · exact Async.keeps_bind (keeps_removeNodeUsers (hothers hsafe)) hkeeps
      · have hnone := hothers hsafe
        refine fun counting hcounting => ⟨hcounting, fun third hthird => ?_⟩
        exact ⟨hthird.of_same rfl
          (third.redis.sameDevice_deleteNamedExtraParams
            (hnone userData List.mem_cons_self)), hlater _ hnone⟩
      · have hnone := hothers hsafe
        exact fun third hthird => ⟨hthird.of_same rfl
          (third.redis.sameDevice_deleteNamedExtraParams
            (hnone userData List.mem_cons_self)), hlater _ hnone⟩

theorem keeps_reportOffline :
    (reportOffline nodeEndpoint reported).Keeps
      (Held deployment endpoint socket userId deviceId) := by
  induction reported with
  | nil => trivial
  | cons userData reported ih => exact fun _ hheld => ⟨hheld, ih⟩

theorem keepsOutside_reportOffline :
    (reportOffline nodeEndpoint reported).KeepsOutside
      (NodeLabel.Endangers userId deviceId)
      (Held deployment endpoint socket userId deviceId) := by
  induction reported with
  | nil => trivial
  | cons userData reported ih =>
      exact ⟨fun _ _ hheld => ⟨hheld, keeps_reportOffline⟩, fun _ => ih⟩

/-- Deleting the set of another node. -/
theorem held_deleteNodeConnections {cluster : Cluster}
    (hother : endpoint ≠ nodeEndpoint)
    (hheld : Held deployment endpoint socket userId deviceId cluster) :
    Held deployment endpoint socket userId deviceId (cluster.setRedis
      (cluster.redis.deleteNodeConnections nodeEndpoint)) := by
  refine ⟨⟨hheld.registered.devices, hheld.registered.node, ?_⟩,
    hheld.connected⟩
  change _ ∈ (cluster.redis.nodeUsers.erase nodeEndpoint).members endpoint
  rw [OrderedMap.members_erase, if_neg hother]
  exact hheld.registered.onNode

/-- A clean-up of another node that has read its members. -/
theorem holds_cleanRest (hother : endpoint ≠ nodeEndpoint)
    (userConnections : List NodeUser) :
    (cleanRest nodeEndpoint userConnections).KeepsOutside
        (NodeLabel.Endangers userId deviceId)
        (Held deployment endpoint socket userId deviceId) ∧
      ((∀ userData ∈ userConnections,
          userData.device? ≠ some (userId, deviceId)) →
        (cleanRest nodeEndpoint userConnections).Keeps
          (Held deployment endpoint socket userId deviceId)) := by
  have hkeeps : ∀ reported, Async.Keeps
      (Held deployment endpoint socket userId deviceId) (do
        nodeUpdate (.forgetting nodeEndpoint reported)
          (fun redis => redis.deleteNodeConnections nodeEndpoint)
        reportOffline nodeEndpoint reported) :=
    fun _ _ hheld => ⟨held_deleteNodeConnections hother hheld,
      keeps_reportOffline⟩
  constructor
  · exact keepsOutside_removeNodeUsers hkeeps (fun reported =>
      ⟨fun _ => hkeeps reported, fun _ => keepsOutside_reportOffline⟩)
  · exact fun hothers => Async.keeps_bind (keeps_removeNodeUsers hothers)
      hkeeps

end SessionService

end Keeping

end SamaServer
