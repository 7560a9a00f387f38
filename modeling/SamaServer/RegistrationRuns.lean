/-
The registration invariant over whole runs.  Requests of sockets, HTTP requests
on behalf of a user and activity marks arrive on any node in any order, each
served before the next; the invariant holds after all of them, so the effect
of a login depends only on what its own socket was connected with.
-/
import SamaServer.Registration

namespace SamaServer

/-- Everything that reaches the session registry of a running node.  The
organization an HTTP request names is the one of its user. -/
inductive Visit
  | request (arrival : Arrival)
  | http (endpoint : Endpoint) (response : Socket) (userId : UserId)
      (readAwaits handlerAwaits : Nat)
  | activity (endpoint : Endpoint) (socket : Socket) (isInactive : Bool)

namespace Visit

open SessionService

def program (deployment : Deployment) : Visit → Service Unit
  | .request arrival => arrival.program deployment
  | .http endpoint response userId readAwaits handlerAwaits =>
      httpRequest deployment endpoint response
        (deployment.organizationOf userId) userId readAwaits handlerAwaits
  | .activity endpoint socket isInactive =>
      discard (setSessionInactiveState deployment endpoint socket isInactive)

end Visit

namespace Cluster

def receive (deployment : Deployment) (cluster : Cluster) (visit : Visit) :
    Cluster :=
  ((visit.program deployment).run cluster).2

def receiveAll (deployment : Deployment) (visits : List Visit) : Cluster :=
  visits.foldl (receive deployment) .empty

/-- The invariant: registrations are complete, and every session is under the
organization of its user. -/
structure Settled (deployment : Deployment) (cluster : Cluster) : Prop where
  consistent : cluster.redis.Consistent deployment
  sessions : ∀ endpoint socket session,
    (cluster.node endpoint).getSession socket = some session →
    session.organizationId = deployment.organizationOf session.userId

theorem settled_empty (deployment : Deployment) :
    empty.Settled deployment :=
  ⟨Redis.consistent_empty, fun _ _ _ hsession => by cases hsession⟩

end Cluster

/-- The node that a visit reaches. -/
def Visit.endpoint : Visit → Endpoint
  | .request arrival => arrival.endpoint
  | .http endpoint .. => endpoint
  | .activity endpoint .. => endpoint

/-- All that a visit can do to the tables of its node. -/
inductive VisitUpdate (deployment : Deployment) (before : ActiveSessions) :
    Visit → ActiveSessions → Prop
  | request (arrival : Arrival) (after : ActiveSessions)
      (hupdate : TableUpdate deployment arrival before after) :
      VisitUpdate deployment before (.request arrival) after
  | http (endpoint : Endpoint) (response : Socket) (userId : UserId)
      (readAwaits handlerAwaits : Nat) :
      VisitUpdate deployment before
        (.http endpoint response userId readAwaits handlerAwaits)
        ((before.addUserDeviceConnection response
          (deployment.organizationOf userId) userId
            httpDeviceId).2.removeConnection response userId
              (some httpDeviceId)).2
  | marked (endpoint : Endpoint) (socket : Socket) (isInactive : Bool)
      (session : Session) (hsession : before.getSession socket = some session) :
      VisitUpdate deployment before (.activity endpoint socket isInactive)
        (before.setInactive socket session isInactive)
  | unmarked (endpoint : Endpoint) (socket : Socket) (isInactive : Bool) :
      VisitUpdate deployment before (.activity endpoint socket isInactive)
        before

namespace Cluster

variable {deployment : Deployment}

open SessionService in
/-- One visit, seen from the tables of any node. -/
theorem receive_node (cluster : Cluster) (visit : Visit) :
    ∃ after, VisitUpdate deployment (cluster.node visit.endpoint) visit
        after ∧
      (cluster.receive deployment visit).node =
        (cluster.setNode visit.endpoint after).node := by
  cases visit with
  | request arrival =>
      obtain ⟨after, hupdate, hnode⟩ := cluster.serve_node deployment arrival
      exact ⟨after, .request arrival after hupdate, hnode⟩
  | http endpoint response userId readAwaits handlerAwaits =>
      refine ⟨_, .http endpoint response userId readAwaits handlerAwaits, ?_⟩
      -- the response object has the session it was just bound with
      simp only [receive, Visit.program, httpRequest, Async.run_bind,
        run_awaitAnswers, run_nodeBlock, unbindSession,
        ActiveSessions.unbindConnection, node_setNode, if_true,
        ActiveSessions.getSession_addUserDeviceConnection,
        Async.pure_eq_done, Async.run_done, run_finishRemoval_node]
      funext other
      by_cases hother : other = endpoint
      · simp [Visit.endpoint, hother]
      · simp [Visit.endpoint, hother]
  | activity endpoint socket isInactive =>
      simp only [receive, Visit.program, run_discard,
        setSessionInactiveState, Async.run_bind, run_nodeBlock]
      cases hsession : (cluster.node endpoint).getSession socket with
      | none => exact ⟨_, .unmarked endpoint socket isInactive, rfl⟩
      | some session =>
          refine ⟨_, .marked endpoint socket isInactive session hsession, ?_⟩
          cases deployment.isStandAloneNode with
          | true => rfl
          | false => rfl

/-- A property of all sessions of all nodes. -/
def EverySession (holds : Session → Prop) (cluster : Cluster) : Prop :=
  ∀ endpoint socket session,
    (cluster.node endpoint).getSession socket = some session → holds session

/-- What holds of the session that a login writes, and is not changed by an
activity mark, holds of every session.  The session of an HTTP request is gone
when the request is. -/
theorem everySession_receive {holds : Session → Prop}
    (hlogin : ∀ endpoint userId deviceId,
      holds ⟨deployment.organizationOf userId, userId,
        { nodeEndpoint := some endpoint, deviceId := some deviceId }⟩)
    (hmark : ∀ session isInactive, holds session →
      holds { session with extraParams :=
        { session.extraParams with mobileInactive := isInactive } })
    {cluster : Cluster} (hbefore : cluster.EverySession holds)
    (visit : Visit) :
    (cluster.receive deployment visit).EverySession holds := by
  obtain ⟨after, hupdate, hnode⟩ := cluster.receive_node visit
  intro endpoint socket session hsession
  rw [hnode, node_setNode] at hsession
  by_cases hendpoint : endpoint = visit.endpoint
  · rw [if_pos hendpoint] at hsession
    have hold := hbefore visit.endpoint socket session
    cases hupdate with
    | request arrival _ htable =>
        cases htable with
        | attach userId deviceId _ =>
            rw [ActiveSessions.getSession_attach] at hsession
            split at hsession
            · cases hsession
              exact hlogin arrival.endpoint userId deviceId
            · exact hold hsession
        | remove _ _ _ =>
            rw [ActiveSessions.getSession_removeConnection] at hsession
            split at hsession
            · cases hsession
            · exact hold hsession
        | dropUser _ _ _ =>
            rw [ActiveSessions.getSession_removeAllConnections] at hsession
            split at hsession
            · cases hsession
            · exact hold hsession
        | nothing _ => exact hold hsession
    | http _ response userId _ _ =>
        rw [ActiveSessions.getSession_removeConnection,
          ActiveSessions.getSession_addUserDeviceConnection] at hsession
        by_cases hresponse : socket = response
        · rw [if_pos hresponse] at hsession
          cases hsession
        · rw [if_neg hresponse, if_neg hresponse] at hsession
          exact hold hsession
    | marked _ marked isInactive found hfound =>
        rw [ActiveSessions.getSession_setInactive] at hsession
        split at hsession
        · cases hsession
          exact hmark found isInactive
            (hbefore _ marked found hfound)
        · exact hold hsession
    | unmarked _ _ _ => exact hold hsession
  · rw [if_neg hendpoint] at hsession
    exact hbefore endpoint socket session hsession

end Cluster

namespace SessionService

variable {deployment : Deployment} (endpoint : Endpoint) (socket : Socket)
  (userId : UserId)

section Forget

theorem run_readUserData (deviceIds : List DeviceId)
    (userData : OrderedMap DeviceId ExtraParams) (cluster : Cluster) :
    ((readUserData userId deviceIds userData).run cluster).2 = cluster ∧
      ∀ deviceId,
        ((readUserData userId deviceIds userData).run cluster).1.get?
            deviceId =
          if deviceId ∈ deviceIds then
            some (cluster.redis.retrieveUserExtraParams userId deviceId)
          else userData.get? deviceId := by
  induction deviceIds generalizing userData with
  | nil => exact ⟨rfl, fun _ => rfl⟩
  | cons first deviceIds ih =>
      simp only [readUserData, Async.run_bind, run_redisQuery]
      obtain ⟨hstate, hdata⟩ := ih (userData.set first
        (cluster.redis.retrieveUserExtraParams userId first))
      refine ⟨hstate, fun deviceId => ?_⟩
      rw [hdata, OrderedMap.get?_set]
      by_cases hfirst : deviceId = first
      · subst hfirst
        simp
      · simp [hfirst]

/-- The loop removes exactly the members it goes through. -/
theorem run_removeFromNodes (organizationId organization : OrganizationId)
    (userData : List (DeviceId × ExtraParams)) (cluster : Cluster)
    (target : Endpoint) (deviceId : DeviceId) :
    (organization, userId, deviceId) ∈ ((removeFromNodes organizationId
        userId userData).run cluster).2.redis.nodeUsers.members target ↔
      (organization, userId, deviceId) ∈
          cluster.redis.nodeUsers.members target ∧
        ∀ extraParams, (deviceId, extraParams) ∈ userData →
          extraParams.nodeEndpoint = some target →
          organization ≠ organizationId := by
  induction userData generalizing cluster with
  | nil => simp [removeFromNodes]
  | cons entry userData ih =>
      obtain ⟨first, firstParams⟩ := entry
      rw [removeFromNodes]
      split
      · next hnode =>
          rw [ih]
          refine and_congr_right (fun _ => ?_)
          constructor
          · intro hrest extraParams hmem htarget
            rcases List.mem_cons.1 hmem with heq | hmem
            · rw [(Prod.mk.inj heq).2, hnode] at htarget
              cases htarget
            · exact hrest extraParams hmem htarget
          · exact fun hall extraParams hmem =>
              hall extraParams (List.mem_cons_of_mem _ hmem)
      · next nodeEndpoint hnode =>
          rw [Async.run_bind, run_redisUpdate, ih, Cluster.redis_setRedis,
            Redis.removeUserDeviceFromNode,
            OrderedMap.mem_members_removeMember, and_assoc]
          refine and_congr_right (fun _ => ?_)
          constructor
          · rintro ⟨hfirst, hrest⟩ extraParams hmem htarget horganization
            rcases List.mem_cons.1 hmem with heq | hmem
            · obtain ⟨rfl, rfl⟩ := Prod.mk.inj heq
              rw [hnode, Option.some.injEq] at htarget
              exact hfirst ⟨htarget.symm, by rw [horganization]⟩
            · exact hrest extraParams hmem htarget horganization
          · intro hall
            refine ⟨?_, fun extraParams hmem =>
              hall extraParams (List.mem_cons_of_mem _ hmem)⟩
            rintro ⟨rfl, hmember⟩
            obtain ⟨rfl, hdevice⟩ := Prod.mk.inj hmember
            rw [(Prod.mk.inj hdevice).2] at hall
            exact hall firstParams (List.mem_cons_self ..) hnode rfl

variable {cluster : Cluster}

theorem run_deleteAllExtraParams_nodeUsers (deviceIds : List DeviceId)
    (cluster : Cluster) :
    ((deleteAllExtraParams userId deviceIds).run
      cluster).2.redis.nodeUsers = cluster.redis.nodeUsers := by
  induction deviceIds generalizing cluster with
  | nil => rfl
  | cons deviceId deviceIds ih =>
      rw [deleteAllExtraParams, Async.run_bind, run_redisUpdate, ih]
      rfl

theorem run_listUserDevice (hcluster : deployment.isStandAloneNode = false)
    (organizationId : OrganizationId) (cluster : Cluster) :
    (listUserDevice deployment endpoint organizationId userId false).run
        cluster =
      (cluster.redis.listUserDevice organizationId userId, cluster) := by
  simp [listUserDevice, hcluster]

/-- Forgetting a user takes all of the user's registrations off the nodes. -/
theorem run_forgetUser_onNode (hcluster : deployment.isStandAloneNode = false)
    (hconsistent : cluster.redis.Consistent deployment)
    (target : Endpoint) (organization : OrganizationId)
    (deviceId : DeviceId) :
    (organization, userId, deviceId) ∉ ((forgetUser deployment endpoint
      (deployment.organizationOf userId) userId).run
        cluster).2.redis.nodeUsers.members target := by
  obtain ⟨hread, hdata⟩ := run_readUserData userId
    (cluster.redis.listUserDevice (deployment.organizationOf userId) userId)
    .empty cluster
  intro hmem
  simp only [forgetUser, listUserData, hcluster, Bool.false_eq_true,
    if_false, Async.run_bind, run_listUserDevice endpoint userId hcluster,
    hread, deleteUserData, run_redisUpdate, Cluster.redis_setRedis,
    Redis.deleteUserDevices, run_deleteAllExtraParams_nodeUsers,
    run_removeFromNodes] at hmem
  obtain ⟨hbefore, hkept⟩ := hmem
  obtain ⟨rfl, hregistered⟩ := hconsistent target organization userId
    deviceId hbefore
  refine hkept (cluster.redis.retrieveUserExtraParams userId deviceId) ?_
    hregistered.node rfl
  rw [mem_propertyOrder, OrderedMap.mem_entries_iff, hdata]
  exact if_pos hregistered.devices

theorem run_forgetUser_consistent
    (hcluster : deployment.isStandAloneNode = false)
    (hconsistent : cluster.redis.Consistent deployment) :
    ((forgetUser deployment endpoint (deployment.organizationOf userId)
      userId).run cluster).2.redis.Consistent deployment := by
  have hothers := ((staysWith_forgetUser deployment endpoint
    (deployment.organizationOf userId) userId).run_only cluster).redis
  intro target organization otherUser deviceId hmem
  by_cases huser : otherUser = userId
  · subst huser
    exact absurd hmem (run_forgetUser_onNode endpoint otherUser hcluster
      hconsistent target organization deviceId)
  · have hsame := hothers otherUser deviceId huser
    obtain ⟨horganization, hregistered⟩ := hconsistent target organization
      otherUser deviceId ((hsame.onNode target organization).1 hmem)
    exact ⟨horganization, hregistered.of_same hsame⟩

end Forget

section Removal

variable (hcluster : deployment.isStandAloneNode = false)
  {cluster : Cluster} (hconsistent : cluster.redis.Consistent deployment)
include hcluster hconsistent

theorem run_finishRemoval_consistent
    (removed : ActiveSessions.RemovedConnection)
    (horganization : removed.organizationId =
      some (deployment.organizationOf userId)) :
    ((finishRemoval deployment endpoint userId removed).run
      cluster).2.redis.Consistent deployment := by
  unfold finishRemoval
  split
  · exact hconsistent
  · next deviceId _ =>
      rw [hcluster, if_neg Bool.false_ne_true, horganization]
      exact (run_removeAllUserDeviceData endpoint userId hcluster hconsistent
        deviceId).consistent

end Removal

section Requests

variable (hcluster : deployment.isStandAloneNode = false)
  {cluster : Cluster} (hsettled : cluster.Settled deployment)
include hcluster hsettled

/-- Removing the connection of a socket with a session, with any explicit
device id. -/
theorem consistent_removal {session : Session}
    (hsession : (cluster.node endpoint).getSession socket = some session)
    (explicit : Option DeviceId) (active : ActiveSessions) :
    ((finishRemoval deployment endpoint session.userId
      ((cluster.node endpoint).removeConnection socket session.userId
        explicit).1).run
      (cluster.setNode endpoint active)).2.redis.Consistent deployment := by
  have hconsistent : (cluster.setNode endpoint active).redis.Consistent
      deployment := hsettled.consistent
  apply run_finishRemoval_consistent endpoint session.userId hcluster
    hconsistent
  simp only [ActiveSessions.removeConnection, hsession, Option.map_some,
    hsettled.sessions endpoint socket session hsession]

theorem consistent_serve (arrival : Arrival) :
    (cluster.serve deployment arrival).redis.Consistent deployment := by
  obtain ⟨endpoint, socket, request⟩ := arrival
  simp only [Cluster.serve, Arrival.program]
  cases request with
  | login directory userInfo =>
      rw [run_discard, run_userAuth]
      cases directory.authenticate userInfo with
      | error cause => exact hsettled.consistent
      | ok userId =>
          exact (run_connectDevice endpoint socket userId userInfo.deviceId
            hcluster hsettled.consistent).1
  | connect directory token deviceId =>
      rw [run_discard, run_userConnectSocket]
      cases directory.authenticateToken token deviceId with
      | error cause => exact hsettled.consistent
      | ok userId =>
          exact (run_connectDevice endpoint socket userId deviceId hcluster
            hsettled.consistent).1
  | logout =>
      simp only [run_discard, userLogout, Async.run_bind, run_nodeBlock,
        setNode_self]
      cases hsession : (cluster.node endpoint).getSession socket with
      | none => exact hsettled.consistent
      | some session =>
          simp only [Option.map_some, Async.run_bind, run_awaitAnswer,
            removeUserSession, run_nodeBlock, Async.pure_eq_done,
            Async.run_done]
          exact consistent_removal endpoint socket hcluster hsettled hsession
            _ _
  | close =>
      simp only [onClose, Async.run_bind, run_nodeBlock,
        ActiveSessions.closeConnection]
      cases hsession : (cluster.node endpoint).getSession socket with
      | none => exact hsettled.consistent
      | some session =>
          have hremoval := consistent_removal endpoint socket hcluster
            hsettled hsession none ((cluster.node endpoint).removeConnection
              socket session.userId none).2
          simp only [Async.run_bind]
          split
          · exact hremoval
          · exact hremoval
  | delete directory =>
      have hremove : ((removeAllUserSessions deployment endpoint socket).run
          cluster).2.redis.Consistent deployment := by
        simp only [removeAllUserSessions, Async.run_bind, run_nodeBlock]
        cases hsession : (cluster.node endpoint).getSession socket with
        | none => exact hsettled.consistent
        | some session =>
            simp only [hcluster, Bool.false_eq_true, if_false,
              hsettled.sessions endpoint socket session hsession]
            exact run_forgetUser_consistent endpoint session.userId hcluster
              hsettled.consistent
      simp only [run_discard, userDelete, Async.run_bind, run_nodeBlock,
        setNode_self]
      cases (cluster.node endpoint).getSessionUserId socket with
      | none => exact hsettled.consistent
      | some userId =>
          simp only [Async.run_bind, run_awaitAnswer]
          cases directory.findById userId with
          | none => exact hremove
          | some user => exact hremove

theorem consistent_httpRequest (readAwaits handlerAwaits : Nat) :
    ((httpRequest deployment endpoint socket
      (deployment.organizationOf userId) userId readAwaits handlerAwaits).run
        cluster).2.redis.Consistent deployment := by
  simp only [httpRequest, Async.run_bind, run_awaitAnswers, run_nodeBlock,
    unbindSession, ActiveSessions.unbindConnection, Cluster.node_setNode,
    if_true, ActiveSessions.getSession_addUserDeviceConnection,
    Async.pure_eq_done, Async.run_done]
  apply run_finishRemoval_consistent endpoint userId hcluster
  · exact hsettled.consistent
  · simp only [ActiveSessions.removeConnection, Option.map_some, if_true,
      ActiveSessions.getSession_addUserDeviceConnection]

theorem consistent_setSessionInactiveState (isInactive : Bool) :
    ((setSessionInactiveState deployment endpoint socket isInactive).run
      cluster).2.redis.Consistent deployment := by
  simp only [setSessionInactiveState, Async.run_bind, run_nodeBlock]
  cases (cluster.node endpoint).getSession socket with
  | none => exact hsettled.consistent
  | some session =>
      simp only [hcluster, Bool.false_eq_true, if_false, Async.run_bind,
        run_redisUpdate, Async.pure_eq_done, Async.run_done]
      exact hsettled.consistent.setUserInactive _ _ isInactive

theorem settled_receive (visit : Visit) :
    (cluster.receive deployment visit).Settled deployment := by
  constructor
  · cases visit with
    | request arrival => exact consistent_serve hcluster hsettled arrival
    | http endpoint response userId readAwaits handlerAwaits =>
        exact consistent_httpRequest endpoint response userId hcluster
          hsettled readAwaits handlerAwaits
    | activity endpoint socket isInactive =>
        rw [Cluster.receive, Visit.program, run_discard]
        exact consistent_setSessionInactiveState endpoint socket hcluster
          hsettled isInactive
  · exact Cluster.everySession_receive (fun _ _ _ => rfl)
      (fun _ _ horganization => horganization) hsettled.sessions visit

end Requests

end SessionService

namespace Cluster

variable {deployment : Deployment}

/-- Connection lists stay distinct, also through HTTP requests. -/
theorem distinct_receive {cluster : Cluster} (hdistinct : cluster.Distinct)
    (visit : Visit) : (cluster.receive deployment visit).Distinct := by
  obtain ⟨after, hupdate, hnode⟩ := cluster.receive_node visit
  have hafter : after.Distinct := by
    cases hupdate with
    | request arrival _ htable => exact htable.distinct (hdistinct _)
    | http _ response userId _ _ =>
        apply ActiveSessions.distinct_removeConnection
        exact ActiveSessions.distinct_addUserDeviceConnection (hdistinct _)
          response _ userId httpDeviceId
    | marked _ _ _ _ _ => exact hdistinct _
    | unmarked _ _ _ => exact hdistinct _
  exact distinct_of_node hdistinct hafter hnode

theorem distinct_receiveAll (visits : List Visit) :
    (receiveAll deployment visits).Distinct :=
  List.foldlRecOn visits (receive deployment)
    (fun _ => ActiveSessions.distinct_empty)
    (fun _ hdistinct visit _ => distinct_receive hdistinct visit)

theorem everySession_receiveAll {holds : Session → Prop}
    (hlogin : ∀ endpoint userId deviceId,
      holds ⟨deployment.organizationOf userId, userId,
        { nodeEndpoint := some endpoint, deviceId := some deviceId }⟩)
    (hmark : ∀ session isInactive, holds session →
      holds { session with extraParams :=
        { session.extraParams with mobileInactive := isInactive } })
    (visits : List Visit) :
    (receiveAll deployment visits).EverySession holds :=
  List.foldlRecOn (motive := EverySession holds) visits (receive deployment)
    (fun _ _ _ hsession => by cases hsession)
    (fun _ hbefore visit _ =>
      everySession_receive hlogin hmark hbefore visit)

theorem settled_receiveAll (hcluster : deployment.isStandAloneNode = false)
    (visits : List Visit) : (receiveAll deployment visits).Settled
      deployment :=
  List.foldlRecOn visits (receive deployment) (settled_empty deployment)
    (fun _ hsettled visit _ =>
      SessionService.settled_receive hcluster hsettled visit)

/-- In every reachable state, a login or connect that succeeds registers
exactly the new connection if and only if its socket was not already connected
with the very same device. -/
theorem serve_registeredExactly_iff
    (hcluster : deployment.isStandAloneNode = false) (visits : List Visit)
    (arrival : Arrival) (userId : UserId) (deviceId : DeviceId)
    (hestablishes : arrival.establishes = some (userId, deviceId)) :
    RegisteredExactly deployment (receiveAll deployment visits)
        ((receiveAll deployment visits).serve deployment arrival)
        arrival.endpoint arrival.socket userId deviceId ↔
      ((receiveAll deployment visits).node arrival.endpoint).getDeviceId
        arrival.socket userId ≠ some deviceId := by
  have hconsistent := (settled_receiveAll hcluster visits).consistent
  rw [← SessionService.connectDevice_registeredExactly_iff arrival.endpoint
    arrival.socket userId deviceId hcluster hconsistent]
  have hserve : (receiveAll deployment visits).serve deployment arrival =
      ((SessionService.connectDevice deployment arrival.endpoint
        arrival.socket userId deviceId).run
          (receiveAll deployment visits)).2 :=
    serve_eq_connectDevice deployment _ arrival userId deviceId hestablishes
  rw [hserve]

section Reconnect

open Sample

/-- A device that reconnects on another node is registered there. -/
theorem serve_registeredExactly_otherNode :
    RegisteredExactly ⟨false, fun _ => organization⟩
      (receiveAll ⟨false, fun _ => organization⟩
        [.request ⟨nodeA, 1, .connect .trusting "alice" phone⟩])
      ((receiveAll ⟨false, fun _ => organization⟩
        [.request ⟨nodeA, 1, .connect .trusting "alice" phone⟩]).serve
          ⟨false, fun _ => organization⟩
          ⟨nodeB, 2, .connect .trusting "alice" phone⟩)
      nodeB 2 alice phone :=
  (serve_registeredExactly_iff rfl _
    ⟨nodeB, 2, .connect .trusting "alice" phone⟩ alice phone rfl).2
    (by decide)

/-- A socket that connects twice with the same device ends up with no
registration at all. -/
theorem serve_sameDeviceTwice_not_registered :
    ¬ RegisteredExactly ⟨false, fun _ => organization⟩
      (receiveAll ⟨false, fun _ => organization⟩
        [.request ⟨nodeA, 1, .connect .trusting "alice" phone⟩])
      ((receiveAll ⟨false, fun _ => organization⟩
        [.request ⟨nodeA, 1, .connect .trusting "alice" phone⟩]).serve
          ⟨false, fun _ => organization⟩
          ⟨nodeA, 1, .connect .trusting "alice" phone⟩)
      nodeA 1 alice phone := by
  intro hexactly
  exact absurd hexactly.registered.devices (by decide)

end Reconnect

end Cluster

end SamaServer
