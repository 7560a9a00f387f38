/-
The guard before the routes of the JSON API, and the sockets of a deleted user.
A user may be connected on any number of sockets of a node; deleting the user
takes away the session of the socket that asked for it and of no other one.
-/
import SamaServer.JsonPackets
import SamaServer.RegistrationRuns

namespace SamaServer

namespace AuthGuard

/-- `AuthGuardMiddleware.handle`.  Without a session the guard lets through
what names one of five requests, anywhere in the data. -/
def handle (active : ActiveSessions) (socket : Socket) (json : Json) :
    Except RequestError Unit :=
  if (active.getSession socket).isNone &&
      !json.carries "user_create" &&
      !json.carries "user_login" &&
      !json.carries "connect" &&
      !json.carries "user_send_otp" &&
      !json.carries "user_reset_password" then
    .error .unauthorized
  else .ok ()

/-- The data names one of the five requests. -/
def namesPublicRequest (json : Json) : Bool :=
  json.carries "user_create" || json.carries "user_login" ||
    json.carries "connect" || json.carries "user_send_otp" ||
    json.carries "user_reset_password"

theorem handle_eq (active : ActiveSessions) (socket : Socket) (json : Json) :
    handle active socket json =
      if (active.getSession socket).isNone ∧ namesPublicRequest json = false
      then .error .unauthorized else .ok () := by
  simp only [handle, namesPublicRequest, Bool.and_eq_true,
    Bool.not_eq_true', Bool.or_eq_false_iff, and_assoc]

theorem handle_eq_unauthorized_iff {active : ActiveSessions}
    {socket : Socket} {json : Json} :
    handle active socket json = .error .unauthorized ↔
      active.getSession socket = none ∧ namesPublicRequest json = false := by
  rw [handle_eq, ← Option.isNone_iff_eq_none]
  split
  · next hrejected => exact ⟨fun _ => hrejected, fun _ => rfl⟩
  · next hpassed =>
      constructor
      · intro hok
        cases hok
      · exact fun hrejected => absurd hrejected hpassed

end AuthGuard

/-- The visit logs a socket of the node in. -/
def Visit.LogsIn (visit : Visit) (endpoint : Endpoint) (socket : Socket) :
    Prop :=
  match visit with
  | .request arrival => arrival.endpoint = endpoint ∧
      arrival.socket = socket ∧ arrival.establishes.isSome
  | _ => False

namespace Cluster

variable {deployment : Deployment} {endpoint : Endpoint} {socket : Socket}

/-- The node has no session for the socket. -/
def NoSession (cluster : Cluster) (endpoint : Endpoint) (socket : Socket) :
    Prop :=
  (cluster.node endpoint).getSession socket = none

/-- Only a login gives a socket a session that outlives the visit: an HTTP
request leaves none behind, not even for its own response object. -/
theorem noSession_receive {cluster : Cluster}
    (hnone : cluster.NoSession endpoint socket) (visit : Visit)
    (hout : ¬ visit.LogsIn endpoint socket) :
    (cluster.receive deployment visit).NoSession endpoint socket := by
  obtain ⟨after, hupdate, hnode⟩ := cluster.receive_node visit
  unfold NoSession at hnone ⊢
  rw [hnode, node_setNode]
  by_cases hendpoint : endpoint = visit.endpoint
  · rw [if_pos hendpoint]
    rw [hendpoint] at hnone
    cases hupdate with
    | request arrival _ htable =>
        cases htable with
        | attach userId deviceId hestablishes =>
            rw [ActiveSessions.getSession_attach]
            split
            · next hsocket =>
                exact absurd ⟨hendpoint.symm, hsocket.symm,
                  by rw [hestablishes]; rfl⟩ hout
            · exact hnone
        | remove session _ _ =>
            rw [ActiveSessions.getSession_removeConnection, hnone, ite_self]
        | dropUser session _ _ =>
            rw [ActiveSessions.getSession_removeAllConnections, hnone,
              ite_self]
        | nothing _ => exact hnone
    | http _ response userId _ _ =>
        rw [ActiveSessions.getSession_removeConnection,
          ActiveSessions.getSession_addUserDeviceConnection, hnone]
        by_cases hresponse : socket = response
        · rw [if_pos hresponse]
        · rw [if_neg hresponse, if_neg hresponse]
    | marked _ marked isInactive session hsession =>
        rw [ActiveSessions.getSession_setInactive]
        split
        · next hsocket =>
            rw [hsocket, hsession] at hnone
            cases hnone
        · exact hnone
    | unmarked _ _ _ => exact hnone
  · rw [if_neg hendpoint]
    exact hnone

theorem noSession_foldl_receive {cluster : Cluster}
    (hnone : cluster.NoSession endpoint socket) (visits : List Visit)
    (hout : ∀ visit ∈ visits, ¬ visit.LogsIn endpoint socket) :
    (visits.foldl (receive deployment) cluster).NoSession endpoint socket :=
  List.foldlRecOn (motive := fun reached => reached.NoSession endpoint socket)
    visits (receive deployment) hnone (fun _ hbefore visit hvisit =>
      noSession_receive hbefore visit (hout visit hvisit))

end Cluster

namespace ActiveSessions

/-- The socket is logged in as the user. -/
def LoggedIn (active : ActiveSessions) (userId : UserId) (socket : Socket) :
    Prop :=
  active.getSessionUserId socket = some userId

instance (active : ActiveSessions) (userId : UserId) (socket : Socket) :
    Decidable (active.LoggedIn userId socket) :=
  inferInstanceAs (Decidable (active.getSessionUserId socket = some userId))

/-- Dropping the user leaves exactly the sessions of the other sockets. -/
theorem loggedIn_removeAllConnections (active : ActiveSessions)
    (socket : Socket) (userId : UserId) (other : Socket) :
    (active.removeAllConnections socket userId).LoggedIn userId other ↔
      active.LoggedIn userId other ∧ other ≠ socket := by
  rw [LoggedIn, LoggedIn, getSessionUserId, getSessionUserId,
    getSession_removeAllConnections]
  by_cases hother : other = socket
  · simp [hother]
  · simp [hother]

end ActiveSessions

/-- The user is gone: right after the deletion no session is one of the user,
and later on the guard rejects the request on every socket that was logged in
as the user. -/
structure ShutOut (before after later : ActiveSessions) (userId : UserId)
    (reqData : Json) : Prop where
  noSession : ∀ socket, ¬ after.LoggedIn userId socket
  rejected : ∀ socket, before.LoggedIn userId socket →
    AuthGuard.handle later socket reqData = .error .unauthorized

namespace SessionService

variable (deployment : Deployment) (endpoint : Endpoint) (socket : Socket)
  (directory : Directory) {cluster : Cluster} {userId : UserId}

/-- A user is deleted by one of its own sockets. -/
theorem loggedIn_of_userDelete
    (hdeleted : ((userDelete deployment endpoint socket directory).run
      cluster).1 = .ok userId) :
    (cluster.node endpoint).LoggedIn userId socket := by
  simp only [userDelete, Async.run_bind, run_nodeBlock, setNode_self]
    at hdeleted
  cases huser : (cluster.node endpoint).getSessionUserId socket with
  | none =>
      rw [huser] at hdeleted
      cases hdeleted
  | some caller =>
      simp only [huser, Async.run_bind, run_awaitAnswer] at hdeleted
      cases hfound : directory.findById caller with
      | none =>
          rw [hfound] at hdeleted
          cases hdeleted
      | some user =>
          rw [hfound] at hdeleted
          cases hdeleted
          exact huser

theorem loggedIn_after_userDelete
    (hcaller : (cluster.node endpoint).LoggedIn userId socket)
    (other : Socket) :
    ((((userDelete deployment endpoint socket directory).run
        cluster).2.node endpoint).LoggedIn userId other) ↔
      (cluster.node endpoint).LoggedIn userId other ∧ other ≠ socket := by
  obtain ⟨session, hsession, huser⟩ := Option.map_eq_some_iff.1 hcaller
  rw [run_userDelete_node]
  simp only [hsession, Cluster.node_setNode, if_true]
  rw [← huser]
  exact (cluster.node endpoint).loggedIn_removeAllConnections socket
    session.userId other

/-- After a deletion that succeeds the user is shut out if and only if no
other socket of the node was logged in as the user, and the request names none
of the five requests that the guard lets through. -/
theorem userDelete_shutOut_iff
    (hdeleted : ((userDelete deployment endpoint socket directory).run
      cluster).1 = .ok userId) (later : List Visit)
    (hlater : ∀ visit ∈ later, ∀ other,
      (cluster.node endpoint).LoggedIn userId other →
      ¬ visit.LogsIn endpoint other) (reqData : Json) :
    ShutOut (cluster.node endpoint)
        (((userDelete deployment endpoint socket directory).run
          cluster).2.node endpoint)
        ((later.foldl (Cluster.receive deployment) ((userDelete deployment
          endpoint socket directory).run cluster).2).node endpoint)
        userId reqData ↔
      (∀ other, (cluster.node endpoint).LoggedIn userId other →
        other = socket) ∧
      AuthGuard.namesPublicRequest reqData = false := by
  have hcaller := loggedIn_of_userDelete deployment endpoint socket directory
    hdeleted
  have hafter := loggedIn_after_userDelete deployment endpoint socket
    directory hcaller
  constructor
  · intro hshut
    constructor
    · intro other hother
      by_contra hne
      exact hshut.noSession other ((hafter other).2 ⟨hother, hne⟩)
    · exact (AuthGuard.handle_eq_unauthorized_iff.1
        (hshut.rejected socket hcaller)).2
  · rintro ⟨honly, hnames⟩
    constructor
    · intro other hother
      exact ((hafter other).1 hother).2 (honly other
        ((hafter other).1 hother).1)
    · intro other hother
      apply AuthGuard.handle_eq_unauthorized_iff.2
      refine ⟨Cluster.noSession_foldl_receive ?_ later
        (fun visit hvisit => hlater visit hvisit other hother), hnames⟩
      rw [honly other hother]
      obtain ⟨session, hsession, _⟩ := Option.map_eq_some_iff.1 hcaller
      rw [Cluster.NoSession, run_userDelete_node]
      simp only [hsession, Cluster.node_setNode, if_true,
        ActiveSessions.getSession_removeAllConnections]

section Deletion

open Sample

def userSearch : Json := .object [("user_search", .object [])]

/-- `alice` on her phone only. -/
def onePhone : Cluster :=
  .serveAll ⟨true, fun _ => organization⟩
    [⟨nodeA, 1, .connect .trusting "alice" phone⟩]

/-- `alice` on her phone and on her laptop. -/
def phoneAndLaptop : Cluster :=
  .serveAll ⟨true, fun _ => organization⟩
    [⟨nodeA, 1, .connect .trusting "alice" phone⟩,
      ⟨nodeA, 2, .connect .trusting "alice" laptop⟩]

/-- With a single socket the deleted user is shut out, also after the socket
has closed. -/
theorem userDelete_shutOut_onePhone :
    ShutOut (onePhone.node nodeA)
      (((userDelete ⟨true, fun _ => organization⟩ nodeA 1 .trusting).run
        onePhone).2.node nodeA)
      (([Visit.request ⟨nodeA, 1, .close⟩].foldl
        (Cluster.receive ⟨true, fun _ => organization⟩)
        ((userDelete ⟨true, fun _ => organization⟩ nodeA 1 .trusting).run
          onePhone).2).node nodeA) alice userSearch := by
  apply (userDelete_shutOut_iff ⟨true, fun _ => organization⟩ nodeA 1
    .trusting rfl [.request ⟨nodeA, 1, .close⟩] ?_ userSearch).2
  · refine ⟨?_, rfl⟩
    intro other hother
    by_contra hne
    have hempty : Cluster.empty.NoSession nodeA other := rfl
    have hnone : (onePhone.node nodeA).getSession other = none :=
      Cluster.noSession_receive hempty
        (.request ⟨nodeA, 1, .connect .trusting "alice" phone⟩)
        (fun hlogs => hne hlogs.2.1.symm)
    rw [ActiveSessions.LoggedIn, ActiveSessions.getSessionUserId, hnone]
      at hother
    cases hother
  · intro visit hvisit other _ hlogs
    rw [List.mem_singleton.1 hvisit] at hlogs
    exact absurd hlogs.2.2 (by decide)

/-- The laptop of a user deleted from the phone keeps its session, and the
guard lets its requests through. -/
theorem userDelete_leaves_laptop :
    ((userDelete ⟨true, fun _ => organization⟩ nodeA 1 .trusting).run
      phoneAndLaptop).1 = .ok alice ∧
    (phoneAndLaptop.node nodeA).LoggedIn alice 2 ∧
    (((userDelete ⟨true, fun _ => organization⟩ nodeA 1 .trusting).run
      phoneAndLaptop).2.node nodeA).LoggedIn alice 2 ∧
    AuthGuard.handle (((userDelete ⟨true, fun _ => organization⟩ nodeA 1
      .trusting).run phoneAndLaptop).2.node nodeA) 2 userSearch = .ok () := by
  refine ⟨rfl, ?_, ?_, ?_⟩
  · decide
  · decide
  · rfl

end Deletion

end SessionService

end SamaServer
