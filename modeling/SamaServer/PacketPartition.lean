/-
When the packet manager partitions the destinations as specified.  On a node
that runs alone a user with connections must have a session on one of them; in
a cluster no user may be registered under the device id of the HTTP requests
only; and everywhere the device id of the sender must not be one of another
user.
-/
import SamaServer.PacketDelivery

namespace SamaServer

/-- The session tables as the service leaves them: a socket connected with a
device has, if any, a session that names its node.  Only the sessions of HTTP
responses do without. -/
structure SessionState where
  cluster : Cluster
  namesNode : ∀ endpoint userId, ∀ connection ∈
    (cluster.node endpoint).getUserDevices userId,
    connection.deviceId ≠ httpDeviceId →
    ∀ session, (cluster.node endpoint).getSession connection.socket =
      some session → session.extraParams.nodeEndpoint.isSome

/-- Every state that visits lead to is such a state. -/
def SessionState.receiveAll (deployment : Deployment) (visits : List Visit) :
    SessionState where
  cluster := .receiveAll deployment visits
  namesNode := by
    have hnamed : (Cluster.receiveAll deployment visits).EverySession
        (fun session => session.extraParams.nodeEndpoint.isSome) :=
      Cluster.everySession_receiveAll (fun _ _ _ => rfl)
        (fun _ _ hnamed => hnamed) visits
    exact fun endpoint _ connection _ _ session =>
      hnamed endpoint connection.socket session

/-- Redis and the tables of all nodes agree about a user: a registered device
is connected on the node that its hash names, and a device that a node has
connected is registered there.  The connections of HTTP requests are not
registered anywhere. -/
structure Cluster.AgreesOn (cluster : Cluster)
    (organizationId : OrganizationId) (userId : UserId) : Prop where
  held : ∀ deviceId ∈ cluster.redis.listUserDevice organizationId userId,
    ∃ node, (cluster.redis.retrieveUserExtraParams userId
        deviceId).nodeEndpoint = some node ∧
      ∃ connection ∈ (cluster.node node).getUserDevices userId,
        connection.deviceId = deviceId
  registered : ∀ node, ∀ connection ∈
    PacketManager.userSockets (cluster.node node) userId,
    connection.deviceId ∈ cluster.redis.listUserDevice organizationId
        userId ∧
      (cluster.redis.retrieveUserExtraParams userId
        connection.deviceId).nodeEndpoint = some node

/-- A user with a single connection, where Redis says. -/
theorem Cluster.agreesOn_of_single {cluster : Cluster}
    {organizationId : OrganizationId} {userId : UserId} (node : Endpoint)
    (connection : Connection)
    (hlisted : cluster.redis.listUserDevice organizationId userId =
      [connection.deviceId])
    (hnode : (cluster.redis.retrieveUserExtraParams userId
      connection.deviceId).nodeEndpoint = some node)
    (hown : (cluster.node node).getUserDevices userId = [connection])
    (hothers : ∀ other, other ≠ node →
      (cluster.node other).getUserDevices userId = []) :
    cluster.AgreesOn organizationId userId := by
  constructor
  · intro deviceId hdevice
    rw [hlisted, List.mem_singleton] at hdevice
    subst hdevice
    refine ⟨node, hnode, connection, ?_, rfl⟩
    rw [hown]
    exact List.mem_singleton_self connection
  · intro other found hfound
    have hmem := (List.mem_filter.1 hfound).1
    by_cases hother : other = node
    · rw [hother, hown, List.mem_singleton] at hmem
      rw [hmem, hother, hlisted]
      exact ⟨List.mem_singleton_self _, hnode⟩
    · rw [hothers other hother] at hmem
      cases hmem

namespace SessionService

section Local

variable (active : ActiveSessions)

/-- A socket with a session is connected, not an HTTP request bound. -/
def IsLive (connection : Connection) : Prop :=
  connection.deviceId ≠ httpDeviceId ∧
    (active.getSession connection.socket).isSome

instance (connection : Connection) : Decidable (IsLive active connection) :=
  inferInstanceAs (Decidable (_ ∧ _))

/-- One turn of the loop of `listUserData` on a node that runs alone. -/
def addUserData (userData : OrderedMap DeviceId ExtraParams)
    (connection : Connection) : OrderedMap DeviceId ExtraParams :=
  if connection.deviceId = httpDeviceId then userData
  else match active.getSession connection.socket with
    | none => userData
    | some session => userData.set connection.deviceId session.extraParams

theorem listUserDataLocal_eq (userId : UserId) :
    listUserDataLocal active userId =
      (active.getUserDevices userId).foldl (addUserData active) .empty := rfl

theorem get?_addUserData (userData : OrderedMap DeviceId ExtraParams)
    (connection : Connection) (deviceId : DeviceId) :
    ((addUserData active userData connection).get? deviceId).isSome ↔
      (userData.get? deviceId).isSome ∨
        connection.deviceId = deviceId ∧ IsLive active connection := by
  unfold addUserData IsLive
  by_cases hhttp : connection.deviceId = httpDeviceId
  · simp [hhttp]
  · cases active.getSession connection.socket with
    | none => simp [hhttp]
    | some session =>
        by_cases hdevice : deviceId = connection.deviceId
        · simp [hhttp, hdevice]
        · simp [hhttp, hdevice, Ne.symm hdevice]

/-- The devices listed are those of the live connections. -/
theorem isSome_listUserDataLocal (userId : UserId) (deviceId : DeviceId) :
    ((listUserDataLocal active userId).get? deviceId).isSome ↔
      ∃ connection ∈ active.getUserDevices userId,
        connection.deviceId = deviceId ∧ IsLive active connection := by
  have hloop : ∀ (connections : List Connection)
      (userData : OrderedMap DeviceId ExtraParams),
      ((connections.foldl (addUserData active) userData).get?
        deviceId).isSome ↔
        (userData.get? deviceId).isSome ∨ ∃ connection ∈ connections,
          connection.deviceId = deviceId ∧ IsLive active connection := by
    intro connections
    induction connections with
    | nil => simp
    | cons first connections ih =>
        intro userData
        rw [List.foldl_cons, ih, get?_addUserData, or_assoc]
        simp
  rw [listUserDataLocal_eq, hloop]
  simp

/-- What is listed of a device is taken from the session of a connection. -/
def FromSessions (userId : UserId)
    (userData : OrderedMap DeviceId ExtraParams) : Prop :=
  ∀ deviceId extraParams, userData.get? deviceId = some extraParams →
    ∃ connection ∈ active.getUserDevices userId,
      connection.deviceId ≠ httpDeviceId ∧
      ∃ session, active.getSession connection.socket = some session ∧
        session.extraParams = extraParams

theorem fromSessions_addUserData {userId : UserId}
    {userData : OrderedMap DeviceId ExtraParams}
    (hold : FromSessions active userId userData) {connection : Connection}
    (hmem : connection ∈ active.getUserDevices userId) :
    FromSessions active userId (addUserData active userData connection) := by
  intro deviceId extraParams hfound
  unfold addUserData at hfound
  split at hfound
  · exact hold deviceId extraParams hfound
  · next hhttp =>
      split at hfound
      · exact hold deviceId extraParams hfound
      · next session hsession =>
          rw [OrderedMap.get?_set] at hfound
          split at hfound
          · exact ⟨connection, hmem, hhttp, session, hsession,
              Option.some.inj hfound⟩
          · exact hold deviceId extraParams hfound

theorem fromSessions_listUserDataLocal (userId : UserId) :
    FromSessions active userId (listUserDataLocal active userId) :=
  List.foldlRecOn (motive := FromSessions active userId)
    (active.getUserDevices userId) (addUserData active)
    (fun _ _ hnone => by cases hnone)
    (fun _ hold _ hmem => fromSessions_addUserData active hold hmem)

end Local

end SessionService

namespace PacketManager.Order

variable {Packet Message Push : Type} (order : Order Packet Message Push)

section StandAlone

variable (cluster : Cluster)
  (hstandalone : order.deployment.isStandAloneNode = true)

include hstandalone

theorem userData_standAlone (userId : UserId) :
    order.userData cluster userId =
      SessionService.listUserDataLocal (order.active cluster) userId := by
  rw [userData, userDataOf, SessionService.listUserData, if_pos hstandalone]
  rfl

theorem registered_standAlone (userId : UserId) :
    order.Registered cluster userId ↔
      userSockets (order.active cluster) userId ≠ [] := by
  constructor
  · rintro ⟨node, hnode, hsockets⟩
    rw [hnode hstandalone] at hsockets
    exact hsockets
  · exact fun hsockets => ⟨order.endpoint, fun _ => rfl, hsockets⟩

/-- A node that runs alone takes a user for connected if a connection of the
user is live. -/
theorem isOffline_standAlone (userId : UserId) :
    isOffline (order.userData cluster userId) = true ↔
      ¬ ∃ connection ∈ (order.active cluster).getUserDevices userId,
        SessionService.IsLive (order.active cluster) connection := by
  rw [isOffline_iff, order.userData_standAlone cluster hstandalone]
  constructor
  · rintro hnone ⟨connection, hmem, hlive⟩
    have hsome := (SessionService.isSome_listUserDataLocal
      (order.active cluster) userId connection.deviceId).2
      ⟨connection, hmem, rfl, hlive⟩
    rw [hnone] at hsome
    cases hsome
  · intro hnone deviceId
    rw [← Option.not_isSome_iff_eq_none,
      SessionService.isSome_listUserDataLocal]
    rintro ⟨connection, hmem, _, hlive⟩
    exact hnone ⟨connection, hmem, hlive⟩

end StandAlone

/-- The connection that a sender leaves out is live. -/
theorem exists_live_of_isSelf (cluster : Cluster) {userId : UserId}
    {connection : Connection} (hhttp : connection.deviceId ≠ httpDeviceId)
    (hself : order.isSelf cluster userId connection = true) :
    ∃ own ∈ (order.active cluster).getUserDevices userId,
      SessionService.IsLive (order.active cluster) own := by
  simp only [isSelf, Bool.and_eq_true, decide_eq_true_eq] at hself
  obtain ⟨⟨_, huser⟩, hdevice⟩ := hself
  obtain ⟨socket, hsocket, hsession⟩ := Option.bind_eq_some_iff.1 huser
  obtain ⟨session, hfound, hown⟩ := Option.map_eq_some_iff.1 hsession
  simp only [senderInfo, senderInfoOf, hsocket, hfound, Option.map_some,
    Option.getD_some, hown] at hdevice
  obtain ⟨own, hmem, hsame, hid⟩ :=
    ActiveSessions.exists_of_getDeviceId _ _ _ _ hdevice
  refine ⟨own, hmem, ?_, ?_⟩
  · rw [hid]
    exact hhttp
  · rw [hsame, hfound]
    rfl

/-- Without a live connection a user is due a send on each connection. -/
theorem dueSockets_eq_nil_iff (cluster : Cluster) {userId : UserId}
    (hdead : ¬ ∃ connection ∈ (order.active cluster).getUserDevices userId,
      SessionService.IsLive (order.active cluster) connection) :
    order.dueSockets cluster userId = [] ↔
      userSockets (order.active cluster) userId = [] := by
  rw [dueSockets, List.filter_eq_nil_iff, List.eq_nil_iff_forall_not_mem]
  apply forall_congr'
  intro connection
  constructor
  · intro hself hmem
    have hhttp := (List.mem_filter.1 hmem).2
    rw [decide_eq_true_iff] at hhttp
    have hown := hself hmem
    rw [Bool.not_eq_true', Bool.not_eq_false] at hown
    exact hdead (order.exists_live_of_isSelf cluster hhttp hown)
  · exact fun hnone hmem => absurd hmem hnone

/-- In a state of the service the users on a node that runs alone are those
with a live connection. -/
theorem isOnThisNode_standAlone (state : SessionState)
    (hstandalone : order.deployment.isStandAloneNode = true)
    (userId : UserId) :
    order.IsOnThisNode state.cluster userId ↔
      ∃ connection ∈ (order.active state.cluster).getUserDevices userId,
        SessionService.IsLive (order.active state.cluster) connection := by
  unfold IsOnThisNode
  rw [order.userData_standAlone state.cluster hstandalone]
  constructor
  · rintro ⟨node, ⟨deviceId, extraParams, hfound, _⟩, _⟩
    obtain ⟨connection, hmem, _, hlive⟩ :=
      (SessionService.isSome_listUserDataLocal (order.active state.cluster)
        userId deviceId).1 (by rw [hfound]; rfl)
    exact ⟨connection, hmem, hlive⟩
  · rintro ⟨connection, hmem, hlive⟩
    have hlisted := (SessionService.isSome_listUserDataLocal
      (order.active state.cluster) userId connection.deviceId).2
      ⟨connection, hmem, rfl, hlive⟩
    obtain ⟨extraParams, hfound⟩ := Option.isSome_iff_exists.1 hlisted
    obtain ⟨source, hsource, hhttp, session, hsession, heq⟩ :=
      SessionService.fromSessions_listUserDataLocal
        (order.active state.cluster) userId _ _ hfound
    have hnamed := state.namesNode order.endpoint userId source hsource hhttp
      session hsession
    rw [heq] at hnamed
    obtain ⟨node, hnode⟩ := Option.isSome_iff_exists.1 hnamed
    exact ⟨node, ⟨connection.deviceId, extraParams, hfound, hnode⟩,
      .inr hstandalone⟩

/-- The user is registered, but only under the device id of the HTTP
requests, which a client is free to choose for itself. -/
def HttpOnly (cluster : Cluster) (userId : UserId) : Prop :=
  cluster.redis.listUserDevice order.sourceOptions.organizationId userId ≠
      [] ∧
    ∀ deviceId ∈ cluster.redis.listUserDevice
      order.sourceOptions.organizationId userId, deviceId = httpDeviceId

instance (cluster : Cluster) (userId : UserId) :
    Decidable (order.HttpOnly cluster userId) :=
  inferInstanceAs (Decidable (_ ∧ _))

/-- What a destination user must meet for the delivery to be as specified. -/
structure Deliverable (cluster : Cluster) (userId : UserId) : Prop where
  noCollision : ¬ order.Collides cluster userId
  live : order.deployment.isStandAloneNode = true →
    userSockets (order.active cluster) userId ≠ [] →
    ∃ connection ∈ (order.active cluster).getUserDevices userId,
      SessionService.IsLive (order.active cluster) connection
  reachable : order.deployment.isStandAloneNode = false →
    order.HttpOnly cluster userId →
    order.payloadOptions.notSaveInOfflineStorage = true ∧
      (order.payloadOptions.pushQueueMessage = none ∨
        (cluster.redis.retrieveUserExtraParams userId
          httpDeviceId).mobileInactive = true)

instance (cluster : Cluster) (userId : UserId) :
    Decidable (order.Deliverable cluster userId) :=
  decidable_of_iff
    (¬ order.Collides cluster userId ∧
      (order.deployment.isStandAloneNode = true →
        userSockets (order.active cluster) userId ≠ [] →
        ∃ connection ∈ (order.active cluster).getUserDevices userId,
          SessionService.IsLive (order.active cluster) connection) ∧
      (order.deployment.isStandAloneNode = false →
        order.HttpOnly cluster userId →
        order.payloadOptions.notSaveInOfflineStorage = true ∧
          (order.payloadOptions.pushQueueMessage = none ∨
            (cluster.redis.retrieveUserExtraParams userId
              httpDeviceId).mobileInactive = true)))
    ⟨fun hall => ⟨hall.1, hall.2.1, hall.2.2⟩,
      fun hall => ⟨hall.noCollision, hall.live, hall.reachable⟩⟩

/-- On a node that runs alone. -/
theorem wellSorted_standAlone_iff (state : SessionState)
    (hstandalone : order.deployment.isStandAloneNode = true)
    (userId : UserId) :
    order.WellSorted state.cluster userId ↔
      order.Deliverable state.cluster userId := by
  have hhere := order.isOnThisNode_standAlone state hstandalone userId
  have hregistered := order.registered_standAlone state.cluster hstandalone
    userId
  have hoffline := order.isOffline_standAlone state.cluster hstandalone
    userId
  have hnotCluster : ¬ order.deployment.isStandAloneNode = false := by
    rw [hstandalone]
    exact Bool.noConfusion
  by_cases hlive : ∃ connection ∈
      (order.active state.cluster).getUserDevices userId,
      SessionService.IsLive (order.active state.cluster) connection
  · have hsockets : order.Registered state.cluster userId := by
      obtain ⟨connection, hmem, hconnection⟩ := hlive
      rw [hregistered]
      exact List.ne_nil_of_mem (List.mem_filter.2
        ⟨hmem, decide_eq_true hconnection.1⟩)
    constructor
    · intro hsorted
      exact ⟨hsorted.onThisNode (hhere.2 hlive), fun _ _ => hlive,
        fun hcluster => absurd hcluster hnotCluster⟩
    · intro hdeliverable
      exact {
        offline := fun _ => ⟨fun hnone => absurd hlive (hoffline.1 hnone),
          fun hnot => absurd hsockets hnot⟩
        pushed := fun _ _ hnot => absurd hsockets hnot
        onThisNode := fun _ => hdeliverable.noCollision
        notOnThisNode := fun hnot => absurd (hhere.2 hlive) hnot
        forwarded := fun _ _ hcluster => absurd hcluster hnotCluster
        forwarded_only := fun _ _ hother =>
          absurd (.inr hstandalone) hother }
  · have hdue := order.dueSockets_eq_nil_iff state.cluster hlive
    have haway : ¬ order.IsOnThisNode state.cluster userId :=
      fun hon => hlive (hhere.1 hon)
    constructor
    · intro hsorted
      have hnone := hdue.1 (hsorted.notOnThisNode haway)
      refine ⟨?_, fun _ hsome => absurd hnone hsome,
        fun hcluster => absurd hcluster hnotCluster⟩
      rintro ⟨_, connection, hconnection, _⟩
      rw [hnone] at hconnection
      cases hconnection
    · intro hdeliverable
      have hnone : userSockets (order.active state.cluster) userId = [] := by
        by_contra hsome
        exact hlive (hdeliverable.live hstandalone hsome)
      exact {
        offline := fun _ => ⟨fun _ hsome => hregistered.1 hsome hnone,
          fun _ => hoffline.2 hlive⟩
        pushed := fun _ _ _ => .inl (hoffline.2 hlive)
        onThisNode := fun hon => absurd hon haway
        notOnThisNode := fun _ => hdue.2 hnone
        forwarded := fun _ _ hcluster => absurd hcluster hnotCluster
        forwarded_only := fun _ _ hother =>
          absurd (.inr hstandalone) hother }

section Clustered

variable {cluster : Cluster}
  (hcluster : order.deployment.isStandAloneNode = false)

include hcluster

/-- In a cluster the connections of a user are what Redis lists. -/
theorem get?_userData_cluster (userId : UserId) (deviceId : DeviceId) :
    (order.userData cluster userId).get? deviceId =
      if deviceId ∈ cluster.redis.listUserDevice
          order.sourceOptions.organizationId userId then
        some (cluster.redis.retrieveUserExtraParams userId deviceId)
      else none := by
  have hread := (SessionService.run_readUserData userId
    (cluster.redis.listUserDevice order.sourceOptions.organizationId userId)
    .empty cluster).2 deviceId
  rw [userData, userDataOf, SessionService.listUserData,
    if_neg (by simp [hcluster]), SessionService.listUserDevice,
    if_neg (by simp [hcluster])]
  exact hread

theorem names_cluster_iff (userId : UserId) (node : Endpoint) :
    Names (order.userData cluster userId) node ↔
      ∃ deviceId ∈ cluster.redis.listUserDevice
          order.sourceOptions.organizationId userId,
        (cluster.redis.retrieveUserExtraParams userId
          deviceId).nodeEndpoint = some node := by
  unfold Names
  constructor
  · rintro ⟨deviceId, extraParams, hfound, hnode⟩
    rw [order.get?_userData_cluster hcluster] at hfound
    split at hfound
    · next hlisted =>
        cases hfound
        exact ⟨deviceId, hlisted, hnode⟩
    · cases hfound
  · rintro ⟨deviceId, hlisted, hnode⟩
    exact ⟨deviceId, _, by rw [order.get?_userData_cluster hcluster,
      if_pos hlisted], hnode⟩

theorem isOffline_cluster_iff (userId : UserId) :
    isOffline (order.userData cluster userId) = true ↔
      cluster.redis.listUserDevice order.sourceOptions.organizationId
        userId = [] := by
  rw [isOffline_iff, List.eq_nil_iff_forall_not_mem]
  apply forall_congr'
  intro deviceId
  rw [order.get?_userData_cluster hcluster]
  split
  · next hlisted => simp [hlisted]
  · next hnot => simp [hnot]

theorem isInactive_of_httpOnly {userId : UserId}
    (hhttp : order.HttpOnly cluster userId) :
    isInactive (order.userData cluster userId) = true ↔
      (cluster.redis.retrieveUserExtraParams userId
        httpDeviceId).mobileInactive = true := by
  obtain ⟨hsome, hall⟩ := hhttp
  obtain ⟨first, hfirst⟩ := List.exists_mem_of_ne_nil _ hsome
  rw [hall first hfirst] at hfirst
  simp only [isInactive, List.any_eq_true]
  constructor
  · rintro ⟨⟨deviceId, extraParams⟩, hentry, hinactive⟩
    rw [OrderedMap.mem_entries_iff,
      order.get?_userData_cluster hcluster] at hentry
    split at hentry
    · next hlisted =>
        cases hentry
        rw [hall deviceId hlisted] at hinactive
        exact hinactive
    · cases hentry
  · intro hinactive
    refine ⟨(httpDeviceId, cluster.redis.retrieveUserExtraParams userId
      httpDeviceId), ?_, hinactive⟩
    rw [OrderedMap.mem_entries_iff, order.get?_userData_cluster hcluster,
      if_pos hfirst]

section Agreement

variable {userId : UserId}
  (hagree : cluster.AgreesOn order.sourceOptions.organizationId userId)

include hagree

/-- Where Redis agrees with the tables, who is connected is in Redis. -/
theorem registered_iff_of_agreesOn :
    order.Registered cluster userId ↔
      ∃ deviceId ∈ cluster.redis.listUserDevice
        order.sourceOptions.organizationId userId,
        deviceId ≠ httpDeviceId := by
  constructor
  · rintro ⟨node, _, hsockets⟩
    obtain ⟨connection, hmem⟩ := List.exists_mem_of_ne_nil _ hsockets
    have hhttp := (List.mem_filter.1 hmem).2
    rw [decide_eq_true_iff] at hhttp
    exact ⟨connection.deviceId, (hagree.registered node connection hmem).1,
      hhttp⟩
  · rintro ⟨deviceId, hlisted, hhttp⟩
    obtain ⟨node, _, connection, hmem, hdevice⟩ := hagree.held deviceId
      hlisted
    refine ⟨node, fun hstandalone => ?_, ?_⟩
    · rw [hcluster] at hstandalone
      cases hstandalone
    · apply List.ne_nil_of_mem (a := connection)
      apply List.mem_filter.2
      refine ⟨hmem, ?_⟩
      rw [decide_eq_true_iff, hdevice]
      exact hhttp

/-- A user is offline, connected, or registered for HTTP requests only. -/
theorem httpOnly_iff_of_agreesOn :
    order.HttpOnly cluster userId ↔
      ¬ order.Registered cluster userId ∧
        ¬ isOffline (order.userData cluster userId) = true := by
  rw [order.registered_iff_of_agreesOn hcluster hagree,
    order.isOffline_cluster_iff hcluster, HttpOnly, and_comm]
  apply and_congr_left
  intro _
  simp

theorem isOnThisNode_of_agreesOn
    (hsockets : userSockets (order.active cluster) userId ≠ []) :
    order.IsOnThisNode cluster userId := by
  obtain ⟨connection, hmem⟩ := List.exists_mem_of_ne_nil _ hsockets
  obtain ⟨hlisted, hnode⟩ := hagree.registered order.endpoint connection hmem
  exact ⟨order.endpoint, (order.names_cluster_iff hcluster userId _).2
    ⟨connection.deviceId, hlisted, hnode⟩, .inl rfl⟩

/-- In a cluster whose Redis agrees with the tables. -/
theorem wellSorted_cluster_iff :
    order.WellSorted cluster userId ↔ order.Deliverable cluster userId := by
  have hhttpOnly := order.httpOnly_iff_of_agreesOn hcluster hagree
  have hhere := order.isOnThisNode_of_agreesOn hcluster hagree
  constructor
  · intro hsorted
    constructor
    · rintro ⟨huser, connection, hmem, hdevice⟩
      exact hsorted.onThisNode (hhere (List.ne_nil_of_mem hmem))
        ⟨huser, connection, hmem, hdevice⟩
    · intro hstandalone
      rw [hcluster] at hstandalone
      cases hstandalone
    · intro _ honly
      obtain ⟨hnot, hlisted⟩ := hhttpOnly.1 honly
      constructor
      · by_contra hsave
        rw [Bool.not_eq_true] at hsave
        exact hlisted ((hsorted.offline hsave).2 hnot)
      · cases hpush : order.payloadOptions.pushQueueMessage with
        | none => exact .inl rfl
        | some push =>
            rcases hsorted.pushed push hpush hnot with hoffline | hinactive
            · exact absurd hoffline hlisted
            · exact .inr
                ((order.isInactive_of_httpOnly hcluster honly).1 hinactive)
  · intro hdeliverable
    have hreach := hdeliverable.reachable hcluster
    constructor
    · intro hsave
      constructor
      · intro hoffline hsome
        rw [order.isOffline_cluster_iff hcluster] at hoffline
        rw [order.registered_iff_of_agreesOn hcluster hagree, hoffline]
          at hsome
        obtain ⟨_, hmem, _⟩ := hsome
        cases hmem
      · intro hnot
        by_contra hlisted
        have hflag := (hreach (hhttpOnly.2 ⟨hnot, hlisted⟩)).1
        rw [hsave] at hflag
        cases hflag
    · intro push hpush hnot
      by_cases hoffline : isOffline (order.userData cluster userId) = true
      · exact .inl hoffline
      · have honly := hhttpOnly.2 ⟨hnot, hoffline⟩
        rcases (hreach honly).2 with hnone | hinactive
        · rw [hpush] at hnone
          cases hnone
        · exact .inr
            ((order.isInactive_of_httpOnly hcluster honly).2 hinactive)
    · exact fun _ => hdeliverable.noCollision
    · intro haway
      have hnone : userSockets (order.active cluster) userId = [] := by
        by_contra hsockets
        exact haway (hhere hsockets)
      rw [dueSockets, hnone, List.filter_nil]
    · intro node _ _ hsockets
      obtain ⟨connection, hmem⟩ := List.exists_mem_of_ne_nil _ hsockets
      obtain ⟨hlisted, hnode⟩ := hagree.registered node connection hmem
      exact (order.names_cluster_iff hcluster userId node).2
        ⟨connection.deviceId, hlisted, hnode⟩
    · intro node hnames _
      obtain ⟨deviceId, hlisted, hnode⟩ :=
        (order.names_cluster_iff hcluster userId node).1 hnames
      obtain ⟨found, hfound, connection, hmem, _⟩ := hagree.held deviceId
        hlisted
      rw [hnode, Option.some.injEq] at hfound
      rw [hfound]
      exact List.ne_nil_of_mem hmem

end Agreement

end Clustered

section TwoUsers

open Sample

/-- `alice` with her phone on one node, `bob` with some device on another or
on the same. -/
def twoUsers (isStandAloneNode : Bool) (node : Endpoint)
    (deviceId : DeviceId) : SessionState :=
  .receiveAll ⟨isStandAloneNode, fun _ => organization⟩
    [.request ⟨nodeA, 1, .connect .trusting "alice" phone⟩,
      .request ⟨node, 2, .connect .trusting "bob" deviceId⟩]

/-- From the phone of `alice` to both users, but not back to the phone. -/
def toBoth (isStandAloneNode : Bool) : Order String String Unit where
  deployment := ⟨isStandAloneNode, fun _ => organization⟩
  endpoint := nodeA
  sourceOptions := ⟨organization, some 1⟩
  destinationUserIds := [alice, bob]
  payloadOptions := ⟨"hello", false, true, some ()⟩
  message := fun _ _ packet => packet

theorem agreesOn_twoUsers (userId : UserId) (hmem : userId ∈ [alice, bob]) :
    (twoUsers false nodeB laptop).cluster.AgreesOn organization userId := by
  have hnode : ∀ other, other ≠ nodeA → other ≠ nodeB →
      (twoUsers false nodeB laptop).cluster.node other = .empty := by
    intro other hA hB
    exact (if_neg hB).trans (if_neg hA)
  have hcases : userId = alice ∨ userId = bob := by simpa using hmem
  rcases hcases with rfl | rfl
  · apply Cluster.agreesOn_of_single nodeA ⟨1, phone, organization⟩
    · decide
    · decide
    · decide
    · intro other hother
      by_cases hB : other = nodeB
      · rw [hB]
        decide
      · rw [hnode other hother hB]
        rfl
  · apply Cluster.agreesOn_of_single nodeB ⟨2, laptop, organization⟩
    · decide
    · decide
    · decide
    · intro other hother
      by_cases hA : other = nodeA
      · rw [hA]
        decide
      · rw [hnode other hA hother]
        rfl

end TwoUsers

end PacketManager.Order

end SamaServer
