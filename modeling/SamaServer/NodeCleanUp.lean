/-
Clearing the registrations of a node that is gone.  The members of its set are
texts of three ids joined by colons; the clean-up splits them again, removes
the keys of each device it reads, deletes the set, and reports the users it
found without devices.
-/
import Mathlib.Data.List.TakeWhile
import SamaServer.RegistrationRuns

namespace SamaServer

/-- A member of `sama-node-users:{node}`, with nothing escaped. -/
def userConnectionMember (organizationId : OrganizationId) (userId : UserId)
    (deviceId : DeviceId) : String :=
  organizationId.value ++ ":" ++ userId.value ++ ":" ++ deviceId.value

/-- What `listNodeUserDevices` reads off a member. -/
structure NodeUser where
  organizationId : String
  userId : String
  deviceId : String
deriving DecidableEq

/-- A missing part is `undefined`, and parts after the third are dropped. -/
def NodeUser.ofMember (userConnection : String) : NodeUser :=
  let parts := (userConnection.toList.splitOn ':').map String.ofList
  ⟨parts[0]?.getD undefinedText.value, parts[1]?.getD undefinedText.value,
    parts[2]?.getD undefinedText.value⟩

/-- Texts name keys; no key was ever written with an empty id. -/
def Identifier.ofText? (text : String) : Option Identifier :=
  if htext : text ≠ "" then some ⟨text, htext⟩ else none

namespace NodeUser

def user? (userData : NodeUser) : Option (OrganizationId × UserId) := do
  let organizationId ← Identifier.ofText? userData.organizationId
  let userId ← Identifier.ofText? userData.userId
  pure (organizationId, userId)

def device? (userData : NodeUser) : Option (UserId × DeviceId) := do
  let userId ← Identifier.ofText? userData.userId
  let deviceId ← Identifier.ofText? userData.deviceId
  pure (userId, deviceId)

/-- The member that reads as these ids. -/
def of (organizationId : OrganizationId) (userId : UserId)
    (deviceId : DeviceId) : NodeUser :=
  ⟨organizationId.value, userId.value, deviceId.value⟩

end NodeUser

namespace Redis

def listNodeUserDevices (redis : Redis) (nodeEndpoint : Endpoint) :
    List NodeUser :=
  (redis.nodeUsers.members nodeEndpoint).map
    (fun (organizationId, userId, deviceId) =>
      NodeUser.ofMember (userConnectionMember organizationId userId deviceId))

/-- `removeUserDevice` for ids that were read as texts. -/
def removeNamedDevice (redis : Redis) (userData : NodeUser) : Redis :=
  match userData.user?, Identifier.ofText? userData.deviceId with
  | some (organizationId, userId), some deviceId =>
      redis.removeUserDevice organizationId userId deviceId
  | _, _ => redis

def listNamedUserDevice (redis : Redis) (userData : NodeUser) :
    List DeviceId :=
  match userData.user? with
  | some (organizationId, userId) =>
      redis.listUserDevice organizationId userId
  | none => []

def deleteNamedExtraParams (redis : Redis) (userData : NodeUser) : Redis :=
  match userData.device? with
  | some (userId, deviceId) => redis.deleteUserExtraParams userId deviceId
  | none => redis

def deleteNodeConnections (redis : Redis) (nodeEndpoint : Endpoint) : Redis :=
  { redis with nodeUsers := redis.nodeUsers.erase nodeEndpoint }

end Redis

/-- The steps of all programs about a cluster: those of the session service,
and those of a clean-up, with the devices it still has to remove and the
users it still has to report. -/
inductive NodeLabel
  | session (label : Label)
  | members (nodeEndpoint : Endpoint)
  | removing (nodeEndpoint : Endpoint) (userData : NodeUser)
      (later reported : List NodeUser)
  | counting (nodeEndpoint : Endpoint) (userData : NodeUser)
      (later reported : List NodeUser)
  | forgetting (nodeEndpoint : Endpoint) (reported : List NodeUser)
  | reporting (nodeEndpoint : Endpoint) (userData : NodeUser)
      (later : List NodeUser)
deriving DecidableEq

abbrev NodeService := Async NodeLabel Cluster

/-- One Redis command of a clean-up. -/
def nodeCommand {A : Type} (label : NodeLabel) (command : Redis → A × Redis) :
    NodeService A :=
  .atomic label (fun cluster =>
    ((command cluster.redis).1, cluster.setRedis (command cluster.redis).2))

def nodeUpdate (label : NodeLabel) (update : Redis → Redis) :
    NodeService Unit :=
  nodeCommand label (fun redis => ((), update redis))

def nodeQuery {A : Type} (label : NodeLabel) (query : Redis → A) :
    NodeService A :=
  nodeCommand label (fun redis => (query redis, redis))

namespace SessionService

/-- Nothing asks for the node that the device is registered on by now. -/
def removeUserData (nodeEndpoint : Endpoint) (userData : NodeUser)
    (later reported : List NodeUser) : NodeService Bool := do
  nodeUpdate (.removing nodeEndpoint userData later reported)
    (fun redis => redis.removeNamedDevice userData)
  let leftUserDevices ← nodeQuery
    (.counting nodeEndpoint userData later reported)
    (fun redis => redis.listNamedUserDevice userData)
  nodeUpdate (.removing nodeEndpoint userData later reported)
    (fun redis => redis.deleteNamedExtraParams userData)
  pure leftUserDevices.isEmpty

/-- The loop of `clearNodeUsersSession` over the members it has read. -/
def removeNodeUsers (nodeEndpoint : Endpoint) :
    List NodeUser → List NodeUser → NodeService (List NodeUser)
  | [], lastUserSessions => pure lastUserSessions
  | userData :: userConnections, lastUserSessions => do
      let isLastUserSession ← removeUserData nodeEndpoint userData
        userConnections lastUserSessions
      removeNodeUsers nodeEndpoint userConnections
        (if isLastUserSession then lastUserSessions ++ [userData]
          else lastUserSessions)

/-- A node that runs alone has nothing to clear. -/
def clearNodeUsersSession (deployment : Deployment)
    (nodeEndpoint : Endpoint) : NodeService (List NodeUser) :=
  if deployment.isStandAloneNode then
    pure []
  else do
    let userConnections ← nodeQuery (.members nodeEndpoint)
      (fun redis => redis.listNodeUserDevices nodeEndpoint)
    let lastUserSessions ← removeNodeUsers nodeEndpoint userConnections []
    nodeUpdate (.forgetting nodeEndpoint lastUserSessions)
      (fun redis => redis.deleteNodeConnections nodeEndpoint)
    pure lastUserSessions

/-- Telling the subscribers of each reported user that it is offline. -/
def reportOffline (nodeEndpoint : Endpoint) :
    List NodeUser → NodeService Unit
  | [] => pure ()
  | userData :: offlineUsers => do
      nodeQuery (.reporting nodeEndpoint userData offlineUsers) (fun _ => ())
      reportOffline nodeEndpoint offlineUsers

/-- `cleanDestroyedNodeData` after it has dropped the connection to the
node. -/
def cleanDestroyedNodeData (deployment : Deployment)
    (nodeEndpoint : Endpoint) : NodeService Unit := do
  let lastUserSessions ← clearNodeUsersSession deployment nodeEndpoint
  reportOffline nodeEndpoint lastUserSessions

end SessionService

section Members

variable (organizationId : OrganizationId) (userId : UserId)
  (deviceId : DeviceId)

/-- The id of a stored document, as it is printed. -/
def Identifier.IsObjectId (id : Identifier) : Prop :=
  id.value.toList.length = 24 ∧
    ∀ digit ∈ id.value.toList, digit ∈ "0123456789abcdef".toList

instance (id : Identifier) : Decidable id.IsObjectId :=
  decidable_of_iff (id.value.toList.length = 24 ∧
    id.value.toList.all (fun digit =>
      digit ∈ "0123456789abcdef".toList)) (by
    simp [Identifier.IsObjectId])

theorem Identifier.IsObjectId.no_colon {id : Identifier}
    (hid : id.IsObjectId) : ':' ∉ id.value.toList := by
  intro hcolon
  have hdigit := hid.2 ':' hcolon
  revert hdigit
  decide

/-- The part of a device id in front of its first colon. -/
def DeviceId.beforeColon (deviceId : DeviceId) : String :=
  String.ofList (deviceId.value.toList.takeWhile (fun char => char ≠ ':'))

theorem splitOn_head? (text : List Char) :
    (text.splitOn ':')[0]? = some (text.takeWhile (fun char =>
      char ≠ ':')) := by
  by_cases hcolon : ':' ∈ text
  · obtain ⟨first, rest, rfl, hfirst⟩ := List.eq_append_cons_of_mem hcolon
    have htake : (first ++ ':' :: rest).takeWhile (fun char =>
        char ≠ ':') = first := by
      rw [List.takeWhile_append_of_pos]
      · simp
      · intro char hchar
        simp only [decide_eq_true_eq]
        rintro rfl
        exact hfirst hchar
    rw [List.splitOn_append_cons_self_of_not_mem hfirst, htake]
    rfl
  · rw [List.splitOn_eq_singleton hcolon, List.takeWhile_eq_self_iff.2]
    · rfl
    · intro char hchar
      simp only [decide_eq_true_eq]
      rintro rfl
      exact hcolon hchar

variable {organizationId userId deviceId}

/-- A member of stored ids is read back with its device id cut off at the
first colon. -/
theorem ofMember_userConnectionMember
    (horganization : organizationId.IsObjectId) (huser : userId.IsObjectId) :
    NodeUser.ofMember (userConnectionMember organizationId userId deviceId) =
      ⟨organizationId.value, userId.value, deviceId.beforeColon⟩ := by
  have hsplit : (userConnectionMember organizationId userId
      deviceId).toList.splitOn ':' = organizationId.value.toList ::
        userId.value.toList :: deviceId.value.toList.splitOn ':' := by
    simp only [userConnectionMember, String.toList_append, List.append_assoc]
    rw [← List.splitOn_append_cons_self_of_not_mem huser.no_colon,
      ← List.splitOn_append_cons_self_of_not_mem horganization.no_colon]
    rfl
  simp only [NodeUser.ofMember, hsplit, List.map_cons,
    List.getElem?_cons_zero, List.getElem?_cons_succ, List.getElem?_map,
    splitOn_head?, Option.map_some, Option.getD_some, String.ofList_toList,
    DeviceId.beforeColon]

theorem beforeColon_eq_iff :
    deviceId.beforeColon = deviceId.value ↔ ':' ∉ deviceId.value.toList := by
  rw [DeviceId.beforeColon, ← String.toList_inj, String.toList_ofList,
    List.takeWhile_eq_self_iff]
  constructor
  · intro hall hcolon
    simpa using hall ':' hcolon
  · intro hcolon char hchar
    simp only [decide_eq_true_eq]
    rintro rfl
    exact hcolon hchar

theorem colon_not_mem_beforeColon :
    ':' ∉ deviceId.beforeColon.toList := by
  rw [DeviceId.beforeColon, String.toList_ofList]
  intro hcolon
  simpa using List.mem_takeWhile_imp hcolon

end Members

namespace Redis

variable {organizationId : OrganizationId} {userId : UserId}
  {deviceId : DeviceId}

/-- Both removals of `removeUserData`. -/
def removeNamed (redis : Redis) (userData : NodeUser) : Redis :=
  (redis.removeNamedDevice userData).deleteNamedExtraParams userData

theorem eq_of_value {first second : Identifier}
    (hvalue : first.value = second.value) : first = second := by
  obtain ⟨value, _⟩ := first
  obtain ⟨other, _⟩ := second
  cases hvalue
  rfl

theorem ofText?_value (id : Identifier) :
    Identifier.ofText? id.value = some id := by
  simp [Identifier.ofText?, id.nonempty]

theorem ofText?_eq_some {text : String} {id : Identifier}
    (htext : Identifier.ofText? text = some id) : text = id.value := by
  unfold Identifier.ofText? at htext
  split at htext
  · cases htext
    rfl
  · cases htext

theorem user?_eq_some {userData : NodeUser}
    (huser : userData.user? = some (organizationId, userId)) :
    userData.organizationId = organizationId.value ∧
      userData.userId = userId.value := by
  simp only [NodeUser.user?, Option.bind_eq_bind,
    Option.bind_eq_some_iff, Option.pure_def, Option.some.injEq,
    Prod.mk.injEq] at huser
  obtain ⟨_, horganization, _, huser, rfl, rfl⟩ := huser
  exact ⟨ofText?_eq_some horganization, ofText?_eq_some huser⟩

theorem device?_of :
    (NodeUser.of organizationId userId deviceId).device? =
      some (userId, deviceId) := by
  simp [NodeUser.device?, NodeUser.of, ofText?_value]

theorem user?_of :
    (NodeUser.of organizationId userId deviceId).user? =
      some (organizationId, userId) := by
  simp [NodeUser.user?, NodeUser.of, ofText?_value]

/-- A clean-up takes out of the sets exactly the devices it names. -/
theorem mem_userDevices_removeNamed (redis : Redis) (userData : NodeUser) :
    deviceId ∈ (redis.removeNamed userData).userDevices.members
        (organizationId, userId) ↔
      deviceId ∈ redis.userDevices.members (organizationId, userId) ∧
        userData ≠ .of organizationId userId deviceId := by
  have hdata : (redis.removeNamed userData).userDevices =
      (redis.removeNamedDevice userData).userDevices := by
    unfold removeNamed deleteNamedExtraParams
    split <;> rfl
  rw [hdata, removeNamedDevice]
  split
  · next organization user device huser hdevice =>
      have hids := user?_eq_some huser
      have hname := ofText?_eq_some hdevice
      rw [removeUserDevice, OrderedMap.mem_members_removeMember]
      refine and_congr_right (fun _ => not_congr ?_)
      obtain ⟨first, second, third⟩ := userData
      obtain ⟨rfl, rfl⟩ := hids
      subst hname
      constructor
      · rintro ⟨hkey, rfl⟩
        obtain ⟨rfl, rfl⟩ := Prod.mk.inj hkey
        rfl
      · intro hof
        simp only [NodeUser.of, NodeUser.mk.injEq] at hof
        exact ⟨Prod.ext (eq_of_value hof.1.symm) (eq_of_value hof.2.1.symm),
          eq_of_value hof.2.2.symm⟩
  · next hnone =>
      refine (and_iff_left ?_).symm
      rintro rfl
      exact hnone organizationId userId deviceId user?_of
        (ofText?_value deviceId)

theorem get?_userData_removeNamed (redis : Redis) (userData : NodeUser)
    (organizationId : OrganizationId)
    (hgone : redis.userData.get? (userId, deviceId) = none ∨
      userData = .of organizationId userId deviceId) :
    (redis.removeNamed userData).userData.get? (userId, deviceId) =
      none := by
  have hdevice : (redis.removeNamedDevice userData).userData =
      redis.userData := by
    unfold removeNamedDevice
    split <;> rfl
  unfold removeNamed deleteNamedExtraParams
  rcases hgone with hnone | rfl
  · split
    · rw [deleteUserExtraParams, OrderedMap.get?_erase, hdevice, hnone,
        ite_self]
    · rw [hdevice, hnone]
  · rw [device?_of]
    simp [deleteUserExtraParams]

theorem mem_userDevices_foldl (redis : Redis) (entries : List NodeUser) :
    deviceId ∈ (entries.foldl removeNamed redis).userDevices.members
        (organizationId, userId) ↔
      deviceId ∈ redis.userDevices.members (organizationId, userId) ∧
        .of organizationId userId deviceId ∉ entries := by
  induction entries generalizing redis with
  | nil => simp
  | cons userData entries ih =>
      rw [List.foldl_cons, ih, mem_userDevices_removeNamed, List.mem_cons,
        not_or, and_assoc]
      exact and_congr_right (fun _ => and_congr_left' ne_comm)

theorem get?_userData_foldl (redis : Redis) (entries : List NodeUser)
    (hgone : redis.userData.get? (userId, deviceId) = none ∨
      .of organizationId userId deviceId ∈ entries) :
    (entries.foldl removeNamed redis).userData.get? (userId, deviceId) =
      none := by
  induction entries generalizing redis with
  | nil => simpa using hgone
  | cons userData entries ih =>
      apply ih
      rcases hgone with hnone | hmem
      · exact .inl (get?_userData_removeNamed redis userData organizationId
          (.inl hnone))
      · rcases List.mem_cons.1 hmem with heq | hlater
        · exact .inl (get?_userData_removeNamed redis userData
            organizationId (.inr heq.symm))
        · exact .inr hlater

end Redis

namespace SessionService

theorem run_removeNodeUsers (nodeEndpoint : Endpoint)
    (entries reported : List NodeUser) (cluster : Cluster) :
    ((removeNodeUsers nodeEndpoint entries reported).run cluster).2 =
      cluster.setRedis (entries.foldl Redis.removeNamed cluster.redis) := by
  induction entries generalizing reported cluster with
  | nil => rfl
  | cons userData entries ih =>
      rw [removeNodeUsers, Async.run_bind, ih]
      rfl

/-- The stores after a clean-up that nothing interrupts. -/
theorem run_clearNodeUsersSession (deployment : Deployment)
    (hcluster : deployment.isStandAloneNode = false)
    (nodeEndpoint : Endpoint) (cluster : Cluster) :
    ((clearNodeUsersSession deployment nodeEndpoint).run cluster).2 =
      cluster.setRedis (((cluster.redis.listNodeUserDevices
        nodeEndpoint).foldl Redis.removeNamed
          cluster.redis).deleteNodeConnections nodeEndpoint) := by
  simp only [clearNodeUsersSession, hcluster, Bool.false_eq_true, if_false,
    Async.run_bind, run_removeNodeUsers]
  rfl

end SessionService

namespace Redis

/-- What was read off the set of a node names a device exactly when the set
lists the device and its id has no colon. -/
theorem mem_listNodeUserDevices_iff {redis : Redis} {nodeEndpoint : Endpoint}
    (hids : ∀ organizationId userId deviceId,
      (organizationId, userId, deviceId) ∈
        redis.nodeUsers.members nodeEndpoint →
      organizationId.IsObjectId ∧ userId.IsObjectId)
    {organizationId : OrganizationId} {userId : UserId} {deviceId : DeviceId}
    (hmem : (organizationId, userId, deviceId) ∈
      redis.nodeUsers.members nodeEndpoint) :
    .of organizationId userId deviceId ∈
        redis.listNodeUserDevices nodeEndpoint ↔
      ':' ∉ deviceId.value.toList := by
  simp only [listNodeUserDevices, List.mem_map, Prod.exists]
  constructor
  · rintro ⟨organization, user, device, hother, heq⟩
    obtain ⟨horganization, huser⟩ := hids organization user device hother
    rw [ofMember_userConnectionMember horganization huser, NodeUser.of,
      NodeUser.mk.injEq] at heq
    rw [← heq.2.2]
    exact colon_not_mem_beforeColon
  · intro hcolon
    obtain ⟨horganization, huser⟩ := hids organizationId userId deviceId hmem
    refine ⟨organizationId, userId, deviceId, hmem, ?_⟩
    rw [ofMember_userConnectionMember horganization huser,
      beforeColon_eq_iff.2 hcolon]
    rfl

end Redis

/-- Members are read back exactly for device ids without a colon, and a
clean-up clears a node exactly when all devices registered there have such
ids. -/
theorem roundTrip_and_cleared_iff {deployment : Deployment}
    (hcluster : deployment.isStandAloneNode = false)
    (nodeEndpoint : Endpoint) (cluster : Cluster)
    (hids : ∀ organizationId userId deviceId,
      (organizationId, userId, deviceId) ∈
        cluster.redis.nodeUsers.members nodeEndpoint →
      organizationId.IsObjectId ∧ userId.IsObjectId) :
    (∀ (organizationId : OrganizationId) (userId : UserId)
        (deviceId : DeviceId),
      organizationId.IsObjectId → userId.IsObjectId →
      (NodeUser.ofMember (userConnectionMember organizationId userId
          deviceId) = .of organizationId userId deviceId ↔
        ':' ∉ deviceId.value.toList)) ∧
    ((∀ organizationId userId deviceId,
        cluster.redis.RegisteredAt nodeEndpoint organizationId userId
          deviceId →
        deviceId ∉ ((SessionService.clearNodeUsersSession deployment
          nodeEndpoint).run cluster).2.redis.userDevices.members
            (organizationId, userId) ∧
        ((SessionService.clearNodeUsersSession deployment
          nodeEndpoint).run cluster).2.redis.userData.get?
            (userId, deviceId) = none) ↔
      ∀ organizationId userId deviceId,
        cluster.redis.RegisteredAt nodeEndpoint organizationId userId
          deviceId →
        ':' ∉ deviceId.value.toList) := by
  constructor
  · intro organizationId userId deviceId horganization huser
    rw [ofMember_userConnectionMember horganization huser, NodeUser.of,
      NodeUser.mk.injEq]
    simp [beforeColon_eq_iff]
  · rw [SessionService.run_clearNodeUsersSession deployment hcluster]
    refine forall_congr' (fun organizationId => forall_congr' (fun userId =>
      forall_congr' (fun deviceId => forall_congr' (fun hregistered => ?_))))
    have hlisted := Redis.mem_listNodeUserDevices_iff hids
      hregistered.onNode
    constructor
    · rintro ⟨hdevices, -⟩
      by_contra hcolon
      apply hdevices
      exact (Redis.mem_userDevices_foldl cluster.redis _).2
        ⟨hregistered.devices, fun hmem => hlisted.1 hmem hcolon⟩
    · intro hcolon
      have hmem := hlisted.2 hcolon
      constructor
      · intro hleft
        exact ((Redis.mem_userDevices_foldl cluster.redis _).1 hleft).2 hmem
      · exact Redis.get?_userData_foldl cluster.redis _ (.inr hmem)

namespace Sample

def hexOrganization : OrganizationId :=
  ⟨"67a1c0de0000000000000001", by decide⟩

def hexUser : UserId := ⟨"67a1c0de00000000000000a1", by decide⟩

def colonDevice : DeviceId := ⟨"web:1", by decide⟩

/-- One device of one user, registered on node A. -/
def registered (deviceId : DeviceId) : Cluster :=
  Cluster.empty.setRedis (Redis.empty.addUserDeviceDataTransaction nodeA
    hexOrganization hexUser deviceId)

theorem isObjectId_hex :
    hexOrganization.IsObjectId ∧ hexUser.IsObjectId := by
  decide

end Sample

open Sample in
theorem ids_of_registered {deviceId : DeviceId}
    (organizationId : OrganizationId) (userId : UserId) (other : DeviceId)
    (hmem : (organizationId, userId, other) ∈
      (registered deviceId).redis.nodeUsers.members nodeA) :
    organizationId.IsObjectId ∧ userId.IsObjectId := by
  change _ ∈ [(hexOrganization, hexUser, deviceId)] at hmem
  rw [List.mem_singleton, Prod.mk.injEq, Prod.mk.injEq] at hmem
  rw [hmem.1, hmem.2.1]
  exact isObjectId_hex

open Sample in
/-- The phone of a user is read back and cleared. -/
theorem roundTrip_and_cleared_phone :
    NodeUser.ofMember (userConnectionMember hexOrganization hexUser phone) =
        .of hexOrganization hexUser phone ∧
      phone ∉ ((SessionService.clearNodeUsersSession
        ⟨false, fun _ => hexOrganization⟩ nodeA).run
          (registered phone)).2.redis.userDevices.members
            (hexOrganization, hexUser) := by
  have hphone : ':' ∉ phone.value.toList := by decide
  have hcluster : (⟨false, fun _ => hexOrganization⟩ :
      Deployment).isStandAloneNode = false := rfl
  obtain ⟨hroundTrip, hcleared⟩ := roundTrip_and_cleared_iff hcluster nodeA
    (registered phone) ids_of_registered
  refine ⟨(hroundTrip hexOrganization hexUser phone isObjectId_hex.1
    isObjectId_hex.2).2 hphone, ?_⟩
  refine (hcleared.2 ?_ hexOrganization hexUser phone
    ⟨by decide, by decide, by decide⟩).1
  intro organizationId userId deviceId hregistered
  have hmem := hregistered.onNode
  change _ ∈ [(hexOrganization, hexUser, phone)] at hmem
  rw [List.mem_singleton, Prod.mk.injEq, Prod.mk.injEq] at hmem
  rw [hmem.2.2]
  exact hphone

open Sample in
/-- A device id with a colon is read back as its first half, and the device
stays registered for good. -/
theorem colonDevice_stays :
    NodeUser.ofMember (userConnectionMember hexOrganization hexUser
        colonDevice) ≠ .of hexOrganization hexUser colonDevice ∧
      (registered colonDevice).redis.RegisteredAt nodeA hexOrganization
        hexUser colonDevice ∧
      colonDevice ∈ ((SessionService.clearNodeUsersSession
        ⟨false, fun _ => hexOrganization⟩ nodeA).run
          (registered colonDevice)).2.redis.userDevices.members
            (hexOrganization, hexUser) ∧
      (((SessionService.clearNodeUsersSession
        ⟨false, fun _ => hexOrganization⟩ nodeA).run
          (registered colonDevice)).2.redis.userData.get?
            (hexUser, colonDevice)).isSome = true :=
  ⟨by decide, ⟨by decide, by decide, by decide⟩, by decide, by decide⟩

end SamaServer
