/-
Do the two tables of a node agree?  An entry of a user's connection list
should name a socket whose session belongs to that user.  A request keeps the
agreement exactly when it does not log a socket in as one user while another
user's list still names it.
-/
import SamaServer.PacketManager
import SamaServer.Requests
import SamaServer.Runs

namespace SamaServer

namespace ActiveSessions

/-- Every connection of a user is on a socket with a session of that user. -/
def Agree (active : ActiveSessions) : Prop :=
  ∀ userId, ∀ connection ∈ active.getUserDevices userId,
    ∃ session, active.getSession connection.socket = some session ∧
      session.userId = userId

/-- No packet for a user is sent on a socket whose session belongs to another
user, whatever the packet and its mapper. -/
def DeliversToOwner (active : ActiveSessions) : Prop :=
  ∀ (Packet Message : Type) (mapper : PacketMapper Packet Message)
    (userId : UserId) (exceptDeviceId : Option DeviceId) (packet : Packet)
    (senderInfo : SenderInfo),
    ∀ send ∈ PacketManager.deliverToUserOnThisNode mapper active userId
      exceptDeviceId packet senderInfo,
    ∀ session, active.getSession send.1 = some session →
      session.userId = userId

/-- No other user's list names the socket. -/
def NotForeign (active : ActiveSessions) (socket : Socket)
    (userId : UserId) : Prop :=
  ∀ other, other ≠ userId → ∀ connection ∈ active.getUserDevices other,
    connection.socket ≠ socket

variable {active : ActiveSessions}

theorem agree_empty : empty.Agree := by
  intro userId connection hmem
  simp [empty, getUserDevices] at hmem

theorem Agree.deliversToOwner (hagree : active.Agree) :
    active.DeliversToOwner := by
  intro Packet Message mapper userId exceptDeviceId packet senderInfo send
    hsend session hsession
  simp only [PacketManager.deliverToUserOnThisNode,
    PacketManager.activeDevices, List.mem_flatMap, List.mem_filter,
    List.mem_map] at hsend
  obtain ⟨recipient, ⟨⟨hmem, -⟩, -⟩, message, -, rfl⟩ := hsend
  obtain ⟨owner, howner, huser⟩ := hagree userId recipient hmem
  rw [howner, Option.some.injEq] at hsession
  rw [← hsession, huser]

/-- A socket that is in one user's list is in nobody else's. -/
theorem Agree.notForeign (hagree : active.Agree) {socket : Socket}
    {session : Session} (hsession : active.getSession socket = some session) :
    active.NotForeign socket session.userId := by
  intro other hother connection hmem hsocket
  obtain ⟨owner, howner, huser⟩ := hagree other connection hmem
  rw [hsocket, hsession, Option.some.injEq] at howner
  exact hother (by rw [← huser, ← howner])

section Updates

variable (deployment : Deployment) (endpoint : Endpoint) (socket : Socket)

theorem agree_attach_iff (hagree : active.Agree)
    (hdistinct : active.Distinct) (userId : UserId) (deviceId : DeviceId) :
    (active.attach deployment endpoint socket userId deviceId).Agree ↔
      active.NotForeign socket userId := by
  constructor
  · intro hafter other hother connection hmem hsocket
    have hkept : connection ∈ (active.attach deployment endpoint socket
        userId deviceId).getUserDevices other := by
      rw [getUserDevices_attach, if_neg hother]
      exact hmem
    obtain ⟨session, hsession, huser⟩ := hafter other connection hkept
    rw [getSession_attach, if_pos hsocket, Option.some.injEq] at hsession
    exact hother (by rw [← huser, ← hsession])
  · intro hforeign other connection hmem
    rw [getUserDevices_attach] at hmem
    rw [getSession_attach]
    by_cases hother : other = userId
    · subst other
      rw [if_pos rfl, List.mem_append, List.mem_singleton,
        mem_otherDeviceConnections (hdistinct userId)] at hmem
      rcases hmem with ⟨hold, hsocket, -⟩ | rfl
      · rw [if_neg hsocket]
        exact hagree userId connection hold
      · exact ⟨_, if_pos rfl, rfl⟩
    · rw [if_neg hother] at hmem
      rw [if_neg (hforeign other hother connection hmem)]
      exact hagree other connection hmem

theorem agree_removeConnection (hagree : active.Agree)
    (hdistinct : active.Distinct) {session : Session}
    (hsession : active.getSession socket = some session) :
    (active.removeConnection socket session.userId none).2.Agree := by
  intro other connection hmem
  rw [getSession_removeConnection]
  by_cases hother : other = session.userId
  · subst other
    obtain ⟨hold, hsocket⟩ := (mem_removeConnection_implicit hdistinct
      socket session.userId connection).1 hmem
    rw [if_neg hsocket]
    exact hagree _ connection hold
  · rw [getUserDevices_removeConnection, if_neg hother] at hmem
    rw [if_neg (hagree.notForeign hsession other hother connection hmem)]
    exact hagree other connection hmem

theorem agree_removeAllConnections (hagree : active.Agree)
    {session : Session}
    (hsession : active.getSession socket = some session) :
    (active.removeAllConnections socket session.userId).Agree := by
  intro other connection hmem
  rw [getUserDevices_removeAllConnections] at hmem
  rw [getSession_removeAllConnections]
  by_cases hother : other = session.userId
  · rw [if_pos hother] at hmem
    cases hmem
  · rw [if_neg hother] at hmem
    rw [if_neg (hagree.notForeign hsession other hother connection hmem)]
    exact hagree other connection hmem

end Updates

end ActiveSessions

namespace Cluster

/-- The property on all nodes. -/
def Agree (cluster : Cluster) : Prop :=
  ∀ endpoint, (cluster.node endpoint).Agree

/-- If the request logs its socket in, no other user's list on that node
names the socket. -/
def NotForeign (cluster : Cluster) (arrival : Arrival) : Prop :=
  ∀ userId deviceId, arrival.establishes = some (userId, deviceId) →
    (cluster.node arrival.endpoint).NotForeign arrival.socket userId

/-- One request keeps the agreement exactly under the condition. -/
theorem agree_serve_iff {deployment : Deployment} {cluster : Cluster}
    (hagree : cluster.Agree) (hdistinct : cluster.Distinct)
    (arrival : Arrival) :
    (cluster.serve deployment arrival).Agree ↔ cluster.NotForeign arrival := by
  obtain ⟨after, hupdate, hnode⟩ := cluster.serve_node deployment arrival
  have hserve : (cluster.serve deployment arrival).Agree ↔ after.Agree := by
    unfold Agree
    rw [hnode]
    constructor
    · intro hall
      have hown := hall arrival.endpoint
      rwa [node_setNode, if_pos rfl] at hown
    · intro hafter endpoint
      rw [node_setNode]
      split
      · exact hafter
      · exact hagree endpoint
  have hidle : arrival.establishes = none → cluster.NotForeign arrival := by
    intro hnone userId deviceId hsome
    rw [hnone] at hsome
    cases hsome
  rw [hserve]
  cases hupdate with
  | attach userId deviceId hestablishes =>
      rw [ActiveSessions.agree_attach_iff deployment _ _ (hagree _)
        (hdistinct _)]
      constructor
      · intro hforeign userId' deviceId' hestablishes'
        rw [hestablishes, Option.some.injEq, Prod.mk.injEq] at hestablishes'
        rw [← hestablishes'.1]
        exact hforeign
      · exact fun hforeign => hforeign userId deviceId hestablishes
  | remove session hestablishes hsession =>
      exact ⟨fun _ => hidle hestablishes, fun _ =>
        ActiveSessions.agree_removeConnection _ (hagree _) (hdistinct _)
          hsession⟩
  | dropUser session hestablishes hsession =>
      exact ⟨fun _ => hidle hestablishes, fun _ =>
        ActiveSessions.agree_removeAllConnections _ (hagree _) hsession⟩
  | nothing hestablishes =>
      exact ⟨fun _ => hidle hestablishes, fun _ => hagree _⟩

/-- In all states reached by a sequence of requests the tables of every node
agree, and no packet goes to a socket of another user, exactly when no request
of the sequence logs a socket in while another user's list names it. -/
theorem serveAll_agree_iff (deployment : Deployment)
    (arrivals : List Arrival) :
    (∀ served, served <+: arrivals → ∀ endpoint,
      ((serveAll deployment served).node endpoint).Agree ∧
      ((serveAll deployment served).node endpoint).DeliversToOwner) ↔
      ∀ served arrival, served ++ [arrival] <+: arrivals →
        (serveAll deployment served).NotForeign arrival := by
  have hruns := throughout_iff
    (fun _ => ActiveSessions.agree_empty : Cluster.empty.Agree)
    (fun served arrival hagree => by
      rw [List.foldl_concat]
      exact agree_serve_iff hagree (distinct_serveAll deployment served)
        arrival) arrivals
  refine Iff.trans ?_ hruns
  constructor
  · intro hboth served hserved endpoint
    exact (hboth served hserved endpoint).1
  · intro hagree served hserved endpoint
    have hown := hagree served hserved endpoint
    exact ⟨hown, hown.deliversToOwner⟩

section Relogin

open Sample

/-- A node on which socket 1 logs in as `alice` and then, without logging out,
as `bob`. -/
def reloginNode : ActiveSessions :=
  (serveAll ⟨true, fun _ => organization⟩
    [⟨nodeA, 1, .connect .trusting "alice" phone⟩,
      ⟨nodeA, 1, .connect .trusting "bob" phone⟩]).node nodeA

/-- The list of `alice` still names socket 1, whose session is now one of
`bob`, and packets for `alice` are sent on it. -/
theorem reloginNode_disagrees :
    ¬ reloginNode.Agree ∧ ¬ reloginNode.DeliversToOwner := by
  have hdevices : reloginNode.getUserDevices alice =
      [⟨1, phone, organization⟩] := by decide
  have hsession : reloginNode.getSession 1 =
      some ⟨organization, bob,
        { nodeEndpoint := some nodeA, deviceId := some phone }⟩ := by decide
  constructor
  · intro hagree
    obtain ⟨session, hfound, huser⟩ := hagree alice
      ⟨1, phone, organization⟩
      (by rw [hdevices]; exact List.mem_singleton_self _)
    rw [hsession, Option.some.injEq] at hfound
    subst hfound
    exact absurd huser (by decide)
  · intro hdelivers
    have howner := hdelivers Unit Unit (fun _ _ _ => [()]) alice none ()
      ⟨organization, none, none, nodeA, none⟩ (1, ()) (by decide) _ hsession
    exact absurd howner (by decide)

end Relogin

end Cluster

end SamaServer
