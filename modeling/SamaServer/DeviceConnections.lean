/-
The connection lists of one node.  A list names each socket and each device at
most once, adding a connection replaces exactly the connections of its socket
and of its device, and closing a socket removes exactly its own connection.
-/
import SamaServer.SessionStore
import Mathlib.Tactic.ByContra

namespace SamaServer

/-- No socket and no device occurs twice. -/
structure DistinctConnections (connections : List Connection) : Prop where
  sockets : (connections.map Connection.socket).Nodup
  devices : (connections.map Connection.deviceId).Nodup

namespace DistinctConnections

variable {connections : List Connection}

theorem nil : DistinctConnections [] := ⟨List.nodup_nil, List.nodup_nil⟩

theorem filter (hdistinct : DistinctConnections connections)
    (keep : Connection → Bool) :
    DistinctConnections (connections.filter keep) :=
  ⟨hdistinct.sockets.sublist (List.filter_sublist.map _),
    hdistinct.devices.sublist (List.filter_sublist.map _)⟩

theorem eq_of_socket (hdistinct : DistinctConnections connections)
    {left right : Connection} (hleft : left ∈ connections)
    (hright : right ∈ connections) (hsocket : left.socket = right.socket) :
    left = right :=
  List.inj_on_of_nodup_map hdistinct.sockets hleft hright hsocket

theorem eq_of_device (hdistinct : DistinctConnections connections)
    {left right : Connection} (hleft : left ∈ connections)
    (hright : right ∈ connections) (hdevice : left.deviceId = right.deviceId) :
    left = right :=
  List.inj_on_of_nodup_map hdistinct.devices hleft hright hdevice

end DistinctConnections

namespace ActiveSessions

section Lists

variable {connections : List Connection} {socket : Socket}
  {deviceId : DeviceId}

/-- When at most one element satisfies `p`, being that element and satisfying
`p` are the same. -/
theorem ne_findIdx?_iff {p : Connection → Bool}
    (hunique : ∀ i j (hi : i < connections.length)
      (hj : j < connections.length), p connections[i] → p connections[j] →
        i = j) {index : Nat} (hindex : index < connections.length) :
    some index ≠ connections.findIdx? p ↔ p connections[index] = false := by
  cases hfind : connections.findIdx? p with
  | none =>
      have hnone := List.findIdx?_eq_none_iff.1 hfind connections[index]
        (List.getElem_mem hindex)
      simpa using hnone
  | some first =>
      obtain ⟨hfirst, hp, -⟩ :=
        List.findIdx?_eq_some_iff_getElem.1 hfind
      constructor
      · intro hne
        by_contra hpindex
        exact hne (congrArg some
          (hunique index first hindex hfirst (by simpa using hpindex) hp))
      · intro hpindex heq
        cases heq
        rw [hp] at hpindex
        cases hpindex

theorem nodup_index_unique {A : Type} [DecidableEq A] (f : Connection → A)
    (hnodup : (connections.map f).Nodup) (key : A) (i j : Nat)
    (hi : i < connections.length) (hj : j < connections.length)
    (hleft : decide (f connections[i] = key) = true)
    (hright : decide (f connections[j] = key) = true) : i = j := by
  have hkeys : f (connections.get ⟨i, hi⟩) = f (connections.get ⟨j, hj⟩) :=
    (of_decide_eq_true hleft).trans (of_decide_eq_true hright).symm
  have hget := List.inj_on_of_nodup_map hnodup
    (List.get_mem connections ⟨i, hi⟩) (List.get_mem connections ⟨j, hj⟩)
    hkeys
  exact (List.Nodup.getElem_inj_iff hnodup.of_map).1 hget

theorem otherDeviceConnections_eq_filter
    (hdistinct : DistinctConnections connections) :
    otherDeviceConnections connections socket deviceId =
      connections.filter (fun connection =>
        connection.socket ≠ socket ∧ connection.deviceId ≠ deviceId) := by
  have hkeep : ∀ entry ∈ connections.zipIdx,
      decide (some entry.2 ≠ connections.findIdx?
          (fun connection => connection.socket = socket) ∧
        some entry.2 ≠ connections.findIdx?
          (fun connection => connection.deviceId = deviceId)) =
      decide (entry.1.socket ≠ socket ∧ entry.1.deviceId ≠ deviceId) := by
    rintro ⟨connection, index⟩ hentry
    have hindex := (List.mem_zipIdx' hentry).1
    have hconnection : connection = connections[index] :=
      (List.mem_zipIdx' hentry).2
    clear hentry
    subst hconnection
    rw [decide_eq_decide,
      ne_findIdx?_iff (nodup_index_unique _ hdistinct.sockets socket) hindex,
      ne_findIdx?_iff (nodup_index_unique _ hdistinct.devices deviceId)
        hindex]
    simp
  rw [otherDeviceConnections, List.filter_congr hkeep]
  conv_rhs => rw [← List.zipIdx_map_fst 0 connections, List.filter_map]
  rfl

theorem mem_otherDeviceConnections
    (hdistinct : DistinctConnections connections) (socket : Socket)
    (deviceId : DeviceId) (connection : Connection) :
    connection ∈ otherDeviceConnections connections socket deviceId ↔
      connection ∈ connections ∧ connection.socket ≠ socket ∧
        connection.deviceId ≠ deviceId := by
  rw [otherDeviceConnections_eq_filter hdistinct]
  simp

/-- The list after `addUserDeviceConnection` is distinct again. -/
theorem distinct_otherDeviceConnections
    (hdistinct : DistinctConnections connections)
    (organizationId : OrganizationId) :
    DistinctConnections
      (otherDeviceConnections connections socket deviceId ++
        [⟨socket, deviceId, organizationId⟩]) := by
  have hfilter : DistinctConnections
      (otherDeviceConnections connections socket deviceId) := by
    rw [otherDeviceConnections_eq_filter hdistinct]
    exact hdistinct.filter _
  have hmem := mem_otherDeviceConnections hdistinct socket deviceId
  constructor
  · rw [List.map_append, List.nodup_append']
    refine ⟨hfilter.sockets, List.nodup_singleton _, ?_⟩
    simp only [List.map_cons, List.map_nil, List.disjoint_singleton,
      List.mem_map, not_exists, not_and]
    intro connection hconnection
    exact ((hmem connection).1 hconnection).2.1
  · rw [List.map_append, List.nodup_append']
    refine ⟨hfilter.devices, List.nodup_singleton _, ?_⟩
    simp only [List.map_cons, List.map_nil, List.disjoint_singleton,
      List.mem_map, not_exists, not_and]
    intro connection hconnection
    exact ((hmem connection).1 hconnection).2.2

end Lists

section Tables

variable (active : ActiveSessions) (socket : Socket)
  (organizationId : OrganizationId) (userId : UserId) (deviceId : DeviceId)

@[simp] theorem getUserDevices_setSessionUserId (extraParams : ExtraParams)
    (other : UserId) :
    (active.setSessionUserId socket organizationId userId
      extraParams).getUserDevices other = active.getUserDevices other := by
  unfold setSessionUserId
  split <;> rfl

@[simp] theorem getSession_setSessionUserId (extraParams : ExtraParams)
    (other : Socket) :
    (active.setSessionUserId socket organizationId userId
      extraParams).getSession other =
      if other = socket then some ⟨organizationId, userId, extraParams⟩
      else active.getSession other := by
  by_cases hother : other = socket
  · simp [setSessionUserId, setSession, getSession, hother]
  · unfold setSessionUserId
    split
    · simp [setSession, deleteSession, getSession, hother]
    · simp [setSession, getSession, hother]

theorem getUserDevices_addUserDeviceConnection (other : UserId) :
    (active.addUserDeviceConnection socket organizationId userId
      deviceId).2.getUserDevices other =
      if other = userId then
        otherDeviceConnections (active.getUserDevices userId) socket
          deviceId ++ [⟨socket, deviceId, organizationId⟩]
      else active.getUserDevices other := by
  simp only [addUserDeviceConnection, getUserDevices_setSessionUserId]
  simp only [getUserDevices, OrderedMap.members_set]

theorem getSession_addUserDeviceConnection (other : Socket) :
    (active.addUserDeviceConnection socket organizationId userId
      deviceId).2.getSession other =
      if other = socket then
        some ⟨organizationId, userId, { deviceId := some deviceId }⟩
      else active.getSession other := by
  simp only [addUserDeviceConnection, getSession_setSessionUserId]
  rfl

@[simp] theorem getUserDevices_setSessionNode (endpoint : Endpoint)
    (other : UserId) :
    (active.setSessionNode socket endpoint).getUserDevices other =
      active.getUserDevices other := by
  unfold setSessionNode
  split <;> rfl

/-- Naming the node in a session changes neither its user nor its
organization. -/
theorem getSession_setSessionNode (endpoint : Endpoint) (other : Socket) :
    (active.setSessionNode socket endpoint).getSession other =
      (active.getSession other).map (fun session =>
        if other = socket then
          { session with extraParams :=
            { session.extraParams with nodeEndpoint := some endpoint } }
        else session) := by
  unfold setSessionNode
  cases hsession : active.getSession socket with
  | none =>
      by_cases hother : other = socket
      · simp [hother, hsession]
      · simp [hother]
  | some session =>
      by_cases hother : other = socket
      · subst other
        rw [hsession]
        simp [getSession]
      · simp [getSession, hother]

theorem getSession_setInactive (session : Session) (isInactive : Bool)
    (other : Socket) :
    (active.setInactive socket session isInactive).getSession other =
      if other = socket then
        some { session with extraParams :=
          { session.extraParams with mobileInactive := isInactive } }
      else active.getSession other :=
  OrderedMap.get?_set ..

theorem getUserDevices_removeConnection (explicit : Option DeviceId)
    (other : UserId) :
    (active.removeConnection socket userId explicit).2.getUserDevices other =
      if other = userId then
        (active.getUserDevices userId).filter (fun connection =>
          some connection.deviceId ≠
            explicit.or (active.getDeviceId socket userId))
      else active.getUserDevices other :=
  OrderedMap.members_setOrErase active.devices userId other _

theorem getSession_removeConnection (explicit : Option DeviceId)
    (other : Socket) :
    (active.removeConnection socket userId explicit).2.getSession other =
      if other = socket then none else active.getSession other := by
  simp [removeConnection, deleteSession, getSession]

theorem getUserDevices_removeAllConnections (other : UserId) :
    (active.removeAllConnections socket userId).getUserDevices other =
      if other = userId then [] else active.getUserDevices other := by
  simp [removeAllConnections, deleteSession, getUserDevices]

theorem getSession_removeAllConnections (other : Socket) :
    (active.removeAllConnections socket userId).getSession other =
      if other = socket then none else active.getSession other := by
  simp [removeAllConnections, deleteSession, getSession]

theorem getDeviceId_eq_none_iff :
    active.getDeviceId socket userId = none ↔
      ∀ connection ∈ active.getUserDevices userId,
        connection.socket ≠ socket := by
  simp [getDeviceId]

theorem exists_of_getDeviceId
    (hdevice : active.getDeviceId socket userId = some deviceId) :
    ∃ connection ∈ active.getUserDevices userId,
      connection.socket = socket ∧ connection.deviceId = deviceId := by
  rw [getDeviceId, Option.map_eq_some_iff] at hdevice
  obtain ⟨connection, hfind, hdeviceId⟩ := hdevice
  exact ⟨connection, List.mem_of_find?_eq_some hfind,
    by simpa using List.find?_some hfind, hdeviceId⟩

end Tables

/-- No user's list names a socket or a device twice. -/
def Distinct (active : ActiveSessions) : Prop :=
  ∀ userId, DistinctConnections (active.getUserDevices userId)

section Distinct

variable {active : ActiveSessions}

theorem distinct_empty : empty.Distinct := fun _ => .nil

theorem distinct_addUserDeviceConnection (hdistinct : active.Distinct)
    (socket : Socket) (organizationId : OrganizationId) (userId : UserId)
    (deviceId : DeviceId) :
    (active.addUserDeviceConnection socket organizationId userId
      deviceId).2.Distinct := by
  intro other
  rw [getUserDevices_addUserDeviceConnection]
  split
  · exact distinct_otherDeviceConnections (hdistinct userId) organizationId
  · exact hdistinct other

theorem distinct_removeConnection (hdistinct : active.Distinct)
    (socket : Socket) (userId : UserId) (explicit : Option DeviceId) :
    (active.removeConnection socket userId explicit).2.Distinct := by
  intro other
  rw [getUserDevices_removeConnection]
  split
  · exact (hdistinct userId).filter _
  · exact hdistinct other

theorem distinct_setSessionNode (hdistinct : active.Distinct)
    (socket : Socket) (endpoint : Endpoint) :
    (active.setSessionNode socket endpoint).Distinct := by
  intro other
  rw [getUserDevices_setSessionNode]
  exact hdistinct other

theorem distinct_removeAllConnections (hdistinct : active.Distinct)
    (socket : Socket) (userId : UserId) :
    (active.removeAllConnections socket userId).Distinct := by
  intro other
  rw [getUserDevices_removeAllConnections]
  split
  · exact .nil
  · exact hdistinct other

theorem distinct_closeConnection (hdistinct : active.Distinct)
    (socket : Socket) : (active.closeConnection socket).2.Distinct := by
  unfold closeConnection
  split
  · exact hdistinct
  · exact distinct_removeConnection hdistinct socket _ none

theorem getDeviceId_eq_some_iff (hdistinct : active.Distinct)
    (socket : Socket) (userId : UserId) (deviceId : DeviceId) :
    active.getDeviceId socket userId = some deviceId ↔
      ∃ connection ∈ active.getUserDevices userId,
        connection.socket = socket ∧ connection.deviceId = deviceId := by
  constructor
  · exact exists_of_getDeviceId active socket userId deviceId
  · rintro ⟨connection, hmem, hsocket, hdevice⟩
    cases hfound : active.getDeviceId socket userId with
    | none =>
        exact absurd hsocket ((getDeviceId_eq_none_iff active socket
          userId).1 hfound connection hmem)
    | some found =>
        obtain ⟨first, hfirst, hfirstSocket, hfirstDevice⟩ :=
          exists_of_getDeviceId active socket userId found hfound
        have heq := (hdistinct userId).eq_of_socket hfirst hmem
          (hfirstSocket.trans hsocket.symm)
        rw [← hfirstDevice, heq, hdevice]

/-- Without an explicit device id, exactly the connections of the socket
itself go. -/
theorem mem_removeConnection_implicit (hdistinct : active.Distinct)
    (socket : Socket) (userId : UserId) (connection : Connection) :
    connection ∈ (active.removeConnection socket userId
        none).2.getUserDevices userId ↔
      connection ∈ active.getUserDevices userId ∧
        connection.socket ≠ socket := by
  rw [getUserDevices_removeConnection, if_pos rfl]
  rw [List.mem_filter, decide_eq_true_iff, Option.none_or]
  refine and_congr_right (fun hmem => ?_)
  constructor
  · intro hkept hsocket
    exact hkept ((getDeviceId_eq_some_iff hdistinct socket userId _).2
      ⟨connection, hmem, hsocket, rfl⟩).symm
  · intro hsocket hdevice
    obtain ⟨own, hown, hownSocket, hownDevice⟩ :=
      exists_of_getDeviceId active socket userId _ hdevice.symm
    have heq := (hdistinct userId).eq_of_device hown hmem hownDevice
    exact hsocket (heq ▸ hownSocket)

/-- Closing a socket leaves every connection of another socket alone. -/
theorem mem_closeConnection_of_ne (hdistinct : active.Distinct)
    {socket : Socket} {userId : UserId} {connection : Connection}
    (hmem : connection ∈ active.getUserDevices userId)
    (hsocket : connection.socket ≠ socket) :
    connection ∈ (active.closeConnection socket).2.getUserDevices
      userId := by
  unfold closeConnection
  split
  · exact hmem
  · next session _ =>
      by_cases huser : userId = session.userId
      · subst huser
        exact (mem_removeConnection_implicit hdistinct socket _ _).2
          ⟨hmem, hsocket⟩
      · simp only [getUserDevices_removeConnection, huser, if_false]
        exact hmem

end Distinct

/-- The two ways in which connections come and go on a node. -/
inductive TableStep
  | connect (socket : Socket) (organizationId : OrganizationId)
      (userId : UserId) (deviceId : DeviceId)
  | close (socket : Socket)

def tableStep (active : ActiveSessions) : TableStep → ActiveSessions
  | .connect socket organizationId userId deviceId =>
      (active.addUserDeviceConnection socket organizationId userId
        deviceId).2
  | .close socket => (active.closeConnection socket).2

def runTable (steps : List TableStep) : ActiveSessions :=
  steps.foldl tableStep empty

theorem distinct_tableStep {active : ActiveSessions}
    (hdistinct : active.Distinct) (step : TableStep) :
    (active.tableStep step).Distinct := by
  cases step with
  | connect socket organizationId userId deviceId =>
      exact distinct_addUserDeviceConnection hdistinct socket organizationId
        userId deviceId
  | close socket => exact distinct_closeConnection hdistinct socket

theorem distinct_runTable (steps : List TableStep) :
    (runTable steps).Distinct :=
  List.foldlRecOn steps tableStep distinct_empty
    (fun _ hdistinct step _ => distinct_tableStep hdistinct step)

/-- In every state reached by connects and closes the connection lists are
distinct, a close removes only connections of its own socket, and the
connection of a device that has moved on to a newer socket survives the close
of the older one. -/
theorem runTable_distinct_and_close_own (steps : List TableStep) :
    (∀ userId,
      (((runTable steps).getUserDevices userId).map
        Connection.deviceId).Nodup ∧
      (((runTable steps).getUserDevices userId).map
        Connection.socket).Nodup) ∧
    (∀ socket userId connection,
      connection ∈ (runTable steps).getUserDevices userId →
      connection ∉ (runTable (steps ++ [.close socket])).getUserDevices
        userId →
      connection.socket = socket) ∧
    (∀ older newer organizationId userId deviceId, older ≠ newer →
      (⟨newer, deviceId, organizationId⟩ : Connection) ∈
        (runTable steps).getUserDevices userId →
      (⟨newer, deviceId, organizationId⟩ : Connection) ∈
        (runTable (steps ++ [.close older])).getUserDevices userId) ∧
    (∀ older newer organizationId userId deviceId, older ≠ newer →
      (⟨newer, deviceId, organizationId⟩ : Connection) ∈
        (runTable (steps ++ [.connect newer organizationId userId deviceId,
          .close older])).getUserDevices userId) := by
  have hdistinct := distinct_runTable steps
  have hclose : ∀ socket, runTable (steps ++ [.close socket]) =
      ((runTable steps).closeConnection socket).2 := fun socket =>
    List.foldl_concat tableStep empty (.close socket) steps
  refine ⟨fun userId => ⟨(hdistinct userId).devices,
    (hdistinct userId).sockets⟩, ?_, ?_, ?_⟩
  · intro socket userId connection hmem hgone
    rw [hclose] at hgone
    by_contra hsocket
    exact hgone (mem_closeConnection_of_ne hdistinct hmem hsocket)
  · intro older newer organizationId userId deviceId hne hmem
    rw [hclose]
    exact mem_closeConnection_of_ne hdistinct hmem hne.symm
  · intro older newer organizationId userId deviceId hne
    rw [runTable, List.foldl_append]
    refine mem_closeConnection_of_ne (distinct_addUserDeviceConnection
      hdistinct newer organizationId userId deviceId) ?_ hne.symm
    rw [getUserDevices_addUserDeviceConnection, if_pos rfl]
    simp

end ActiveSessions

end SamaServer
