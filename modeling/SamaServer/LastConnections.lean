/-
The close of the last connection of a user on a node that stands alone.  The
requests that the administrator makes over HTTP for the user are listed with
the user's connections under a device id of their own, and their end is not
looked at for being the last.
-/
import Mathlib.Data.List.TakeWhile
import SamaServer.DeviceConnections
import SamaServer.Requests

namespace SamaServer

/-- A node that stands alone, as one user sees it: the tables of the node, the
sockets of the user that are open, the HTTP requests that are answered now,
and the sockets and requests that are over. -/
structure LoneNode where
  active : ActiveSessions
  sockets : List Socket
  requests : List Socket
  past : List Socket

/-- What happens to the user: a socket logs in or connects, a socket is
closed, an HTTP request is bound to the user, and its end. -/
inductive LoneEvent
  | connected (socket : Socket) (deviceId : DeviceId)
  | closed (socket : Socket)
  | requested (response : Socket)
  | answered (response : Socket)
deriving DecidableEq

namespace LoneNode

def empty : LoneNode := ⟨.empty, [], [], []⟩

variable (isResponse : Socket → Bool) (endpoint : Endpoint)
  (organizationId : OrganizationId) (userId : UserId)

/-- One event, and whether the offline activity of the user is sent.  A socket
is closed once, and no response object is used for two requests; events that
do not occur change nothing. -/
def step (s : LoneNode) : LoneEvent → LoneNode × Bool
  | .connected socket deviceId =>
      if isResponse socket ∨ socket ∈ s.past then (s, false)
      else
        ({ s with
          active := (s.active.addUserDeviceConnection socket organizationId
            userId deviceId).2.setSessionNode socket endpoint
          sockets := s.sockets.insert socket }, false)
  | .closed socket =>
      if isResponse socket ∨ socket ∈ s.past then (s, false)
      else
        let (closing, active) := s.active.closeConnection socket
        ({ s with
          active := active
          sockets := s.sockets.filter (fun other => other ≠ socket)
          past := socket :: s.past },
        closing.any (fun closed => closed.2.isLastConnection))
  | .requested response =>
      if ¬isResponse response ∨ response ∈ s.past ∨
          response ∈ s.requests then (s, false)
      else
        ({ s with
          active := (s.active.addUserDeviceConnection response organizationId
            userId httpDeviceId).2
          requests := response :: s.requests }, false)
  | .answered response =>
      if response ∈ s.requests then
        ({ s with
          active := (s.active.unbindConnection response).2
          requests := s.requests.filter (fun other => other ≠ response)
          past := response :: s.past }, false)
      else (s, false)

/-- The node after events. -/
def run (s : LoneNode) (events : List LoneEvent) : LoneNode :=
  events.foldl (fun s event =>
    (step isResponse endpoint organizationId userId s event).1) s

/-- The event makes the node send the offline activity. -/
def issues (s : LoneNode) (event : LoneEvent) : Bool :=
  (step isResponse endpoint organizationId userId s event).2

/-- How often the offline activity is sent. -/
def issuesIn (s : LoneNode) : List LoneEvent → Nat
  | [] => 0
  | event :: events =>
      (issues isResponse endpoint organizationId userId s event).toNat +
        issuesIn (step isResponse endpoint organizationId userId s event).1
          events

/-- The event closes the last open socket of the user. -/
def ClosesLast (s : LoneNode) (event : LoneEvent) : Prop :=
  ∃ socket ∈ s.sockets, event = .closed socket ∧
    ∀ other ∈ s.sockets, other = socket

def isConnect : LoneEvent → Bool
  | .connected _ _ => true
  | _ => false

/-- The offline activity is sent only when no socket of the user is open, by
a close or at the end of a request.  For each close of the last socket it is
sent once before the user connects again, or a request that was answered at
the close is still answered. -/
def OfflineOnce (s : LoneNode) (events : List LoneEvent) : Prop :=
  ∀ before event rest, events = before ++ event :: rest →
    let t := run isResponse endpoint organizationId userId s before
    let quiet := event :: rest.takeWhile (fun later => ¬isConnect later)
    (issues isResponse endpoint organizationId userId t event →
      (step isResponse endpoint organizationId userId t event).1.sockets =
          [] ∧
        ∃ socket, event = .closed socket ∨ event = .answered socket) ∧
    (ClosesLast t event →
      issuesIn isResponse endpoint organizationId userId t quiet = 1 ∨
        issuesIn isResponse endpoint organizationId userId t quiet = 0 ∧
          ∃ response ∈ t.requests, response ∈
            (run isResponse endpoint organizationId userId t quiet).requests)

/-- When the last open socket is closed, no HTTP request is listed with the
connections of the user; and when another socket stays open, some other
connection is listed, so that not all others have lost their places to logins
with the same device id. -/
def Timely (s : LoneNode) (event : LoneEvent) : Prop :=
  ∀ socket ∈ s.sockets, event = .closed socket →
    ((∀ other ∈ s.sockets, other = socket) →
      ∀ connection ∈ s.active.getUserDevices userId,
        connection.socket ∉ s.requests) ∧
    ((∃ other ∈ s.sockets, other ≠ socket) →
      ∃ connection ∈ s.active.getUserDevices userId,
        connection.socket ≠ socket)

theorem finishRemoval_standAlone {deployment : Deployment}
    (halone : deployment.isStandAloneNode) (endpoint : Endpoint)
    (userId : UserId) (removed : ActiveSessions.RemovedConnection) :
    SessionService.finishRemoval deployment endpoint userId removed =
      pure removed.isLastConnection := by
  rw [SessionService.finishRemoval]
  split
  · rfl
  · exact if_pos halone

/-- On a node that stands alone a close and the end of a request are one step
on the tables, and what the removal of a connection answers is whether it was
the last. -/
theorem run_standAlone {deployment : Deployment}
    (halone : deployment.isStandAloneNode) (socket : Socket)
    (cluster : Cluster) :
    (Async.run (SessionService.onClose deployment endpoint socket)
        cluster).2.node endpoint =
      ((cluster.node endpoint).closeConnection socket).2 ∧
    (Async.run (SessionService.unbindSession deployment endpoint socket)
        cluster).2.node endpoint =
      ((cluster.node endpoint).unbindConnection socket).2 ∧
    (Async.run (SessionService.removeUserSession deployment endpoint socket
        userId none) cluster).1 =
      ((cluster.node endpoint).removeConnection socket userId
        none).1.isLastConnection := by
  refine ⟨?_, ?_, ?_⟩
  · simp only [SessionService.onClose, Async.run_bind,
      SessionService.run_nodeBlock,
      finishRemoval_standAlone halone]
    cases ((cluster.node endpoint).closeConnection socket).1 with
    | none => simp
    | some closed =>
        by_cases hlast : closed.2.isLastConnection
        · simp [hlast]
        · simp [hlast]
  · simp only [SessionService.unbindSession, Async.run_bind,
      SessionService.run_nodeBlock,
      finishRemoval_standAlone halone]
    cases ((cluster.node endpoint).unbindConnection socket).1 with
    | none => simp
    | some unbound => simp
  · simp only [SessionService.removeUserSession, Async.run_bind,
      SessionService.run_nodeBlock,
      finishRemoval_standAlone halone]
    rfl

/-! ### What is listed -/

/-- The tables and the sockets of the user agree. -/
structure Orderly (s : LoneNode) : Prop where
  distinct : s.active.Distinct
  listed : ∀ connection ∈ s.active.getUserDevices userId,
    connection.socket ∈ s.sockets ∨
      connection.socket ∈ s.requests ∧ connection.deviceId = httpDeviceId
  session : ∀ socket, socket ∈ s.sockets ∨ socket ∈ s.requests →
    ∃ session, s.active.getSession socket = some session ∧
      session.userId = userId
  known : ∀ socket session, s.active.getSession socket = some session →
    socket ∈ s.sockets ∨ socket ∈ s.requests
  real : ∀ socket ∈ s.sockets, isResponse socket = false ∧ socket ∉ s.past
  responses : ∀ response ∈ s.requests, isResponse response = true

variable {isResponse endpoint organizationId userId}
variable {s : LoneNode}

theorem orderly_empty : Orderly isResponse userId empty where
  distinct := ActiveSessions.distinct_empty
  listed connection hmem := absurd hmem List.not_mem_nil
  session socket hmem := by rcases hmem with hmem | hmem <;> cases hmem
  known socket session hsession := by cases hsession
  real socket hmem := absurd hmem List.not_mem_nil
  responses response hmem := absurd hmem List.not_mem_nil

/-- A connection that is added is the only new one. -/
theorem listed_of_added (hs : Orderly isResponse userId s)
    {socket : Socket} {deviceId : DeviceId} {connection : Connection}
    (hmem : connection ∈ (s.active.addUserDeviceConnection socket
      organizationId userId deviceId).2.getUserDevices userId) :
    connection ∈ s.active.getUserDevices userId ∨
      connection = ⟨socket, deviceId, organizationId⟩ := by
  rw [ActiveSessions.getUserDevices_addUserDeviceConnection, if_pos rfl,
    List.mem_append, ActiveSessions.mem_otherDeviceConnections
      (hs.distinct userId), List.mem_singleton] at hmem
  rcases hmem with hold | hnew
  · exact .inl hold.1
  · exact .inr hnew

theorem Orderly.connected (hs : Orderly isResponse userId s)
    {socket : Socket} (hreal : isResponse socket = false)
    (hnew : socket ∉ s.past) (deviceId : DeviceId) :
    Orderly isResponse userId
      { s with
        active := (s.active.addUserDeviceConnection socket organizationId
          userId deviceId).2.setSessionNode socket endpoint
        sockets := s.sockets.insert socket } where
  distinct := ActiveSessions.distinct_setSessionNode
    (ActiveSessions.distinct_addUserDeviceConnection hs.distinct _ _ _ _) _ _
  listed connection hmem := by
    rw [ActiveSessions.getUserDevices_setSessionNode] at hmem
    rw [List.mem_insert_iff]
    rcases listed_of_added hs hmem with hold | rfl
    · rcases hs.listed connection hold with hsocket | hresponse
      · exact .inl (.inr hsocket)
      · exact .inr hresponse
    · exact .inl (.inl rfl)
  session other hother := by
    rw [ActiveSessions.getSession_setSessionNode,
      ActiveSessions.getSession_addUserDeviceConnection]
    by_cases hsame : other = socket
    · rw [if_pos hsame, Option.map_some, if_pos hsame]
      exact ⟨_, rfl, rfl⟩
    · rw [List.mem_insert_iff, or_iff_right hsame] at hother
      obtain ⟨session, hsession, huser⟩ := hs.session other hother
      rw [if_neg hsame, hsession, Option.map_some, if_neg hsame]
      exact ⟨session, rfl, huser⟩
  known other session hsession := by
    rw [ActiveSessions.getSession_setSessionNode, Option.map_eq_some_iff]
      at hsession
    obtain ⟨old, hold, -⟩ := hsession
    rw [ActiveSessions.getSession_addUserDeviceConnection] at hold
    rw [List.mem_insert_iff]
    by_cases hsame : other = socket
    · exact .inl (.inl hsame)
    · rw [if_neg hsame] at hold
      rcases hs.known other old hold with hsocket | hresponse
      · exact .inl (.inr hsocket)
      · exact .inr hresponse
  real other hother := by
    rcases List.mem_insert_iff.1 hother with rfl | hold
    · exact ⟨hreal, hnew⟩
    · exact hs.real other hold
  responses := hs.responses

theorem Orderly.requested (hs : Orderly isResponse userId s)
    {response : Socket} (hresponse : isResponse response = true) :
    Orderly isResponse userId
      { s with
        active := (s.active.addUserDeviceConnection response organizationId
          userId httpDeviceId).2
        requests := response :: s.requests } where
  distinct :=
    ActiveSessions.distinct_addUserDeviceConnection hs.distinct _ _ _ _
  listed connection hmem := by
    rcases listed_of_added hs hmem with hold | rfl
    · rcases hs.listed connection hold with hsocket | ⟨hold, hdevice⟩
      · exact .inl hsocket
      · exact .inr ⟨List.mem_cons_of_mem _ hold, hdevice⟩
    · exact .inr ⟨List.mem_cons_self, rfl⟩
  session other hother := by
    rw [ActiveSessions.getSession_addUserDeviceConnection]
    by_cases hsame : other = response
    · rw [if_pos hsame]
      exact ⟨_, rfl, rfl⟩
    · rw [List.mem_cons, or_iff_right hsame] at hother
      rw [if_neg hsame]
      exact hs.session other hother
  known other session hsession := by
    rw [ActiveSessions.getSession_addUserDeviceConnection] at hsession
    by_cases hsame : other = response
    · rw [hsame]
      exact .inr List.mem_cons_self
    · rw [if_neg hsame] at hsession
      rcases hs.known other session hsession with hsocket | hold
      · exact .inl hsocket
      · exact .inr (List.mem_cons_of_mem _ hold)
  real := hs.real
  responses other hother := by
    rcases List.mem_cons.1 hother with rfl | hold
    · exact hresponse
    · exact hs.responses other hold

/-- A socket that is open is none of the response objects. -/
theorem Orderly.not_request (hs : Orderly isResponse userId s)
    {socket : Socket} (hreal : isResponse socket = false) :
    socket ∉ s.requests := by
  intro hrequest
  rw [hs.responses socket hrequest] at hreal
  cases hreal

/-- The sessions of the other sockets stay when a connection is removed. -/
theorem Orderly.session_removed (hs : Orderly isResponse userId s)
    (removed : Socket) (deviceId : Option DeviceId) {other : Socket}
    (hne : other ≠ removed) (hother : other ∈ s.sockets ∨ other ∈ s.requests) :
    ∃ session, (s.active.removeConnection removed userId
        deviceId).2.getSession other = some session ∧
      session.userId = userId := by
  rw [ActiveSessions.getSession_removeConnection, if_neg hne]
  exact hs.session other hother

theorem Orderly.known_removed (hs : Orderly isResponse userId s)
    {removed other : Socket} {deviceId : Option DeviceId} {session : Session}
    (hsession : (s.active.removeConnection removed userId
      deviceId).2.getSession other = some session) :
    other ≠ removed ∧ (other ∈ s.sockets ∨ other ∈ s.requests) := by
  rw [ActiveSessions.getSession_removeConnection] at hsession
  by_cases hsame : other = removed
  · rw [if_pos hsame] at hsession
    cases hsession
  · rw [if_neg hsame] at hsession
    exact ⟨hsame, hs.known other session hsession⟩

/-- A socket without a session is not open. -/
theorem Orderly.filter_of_no_session (hs : Orderly isResponse userId s)
    {socket : Socket} (hsession : s.active.getSession socket = none) :
    s.sockets.filter (fun other => other ≠ socket) = s.sockets := by
  refine List.filter_eq_self.2 ?_
  intro other hother
  obtain ⟨session, hfound, -⟩ := hs.session other (.inl hother)
  rw [decide_eq_true_iff]
  rintro rfl
  rw [hsession] at hfound
  cases hfound

theorem Orderly.closed (hs : Orderly isResponse userId s) {socket : Socket}
    (hreal : isResponse socket = false) :
    Orderly isResponse userId
      { s with
        active := (s.active.closeConnection socket).2
        sockets := s.sockets.filter (fun other => other ≠ socket)
        past := socket :: s.past } := by
  have hreal_left : ∀ other ∈ s.sockets.filter (fun other => other ≠ socket),
      isResponse other = false ∧ other ∉ socket :: s.past := by
    intro other hother
    rw [List.mem_filter, decide_eq_true_iff] at hother
    refine ⟨(hs.real other hother.1).1, ?_⟩
    rw [List.mem_cons, not_or]
    exact ⟨hother.2, (hs.real other hother.1).2⟩
  cases hsession : s.active.getSession socket with
  | none =>
      have hclosed : (s.active.closeConnection socket).2 = s.active := by
        rw [ActiveSessions.closeConnection, hsession]
      have hsockets := hs.filter_of_no_session hsession
      rw [hsockets] at hreal_left
      rw [hclosed, hsockets]
      exact ⟨hs.distinct, hs.listed, hs.session, hs.known, hreal_left,
        hs.responses⟩
  | some session =>
      have hknown := hs.known socket session hsession
      rw [or_iff_left (hs.not_request hreal)] at hknown
      obtain ⟨again, hagain, huser⟩ := hs.session socket (.inl hknown)
      rw [hsession] at hagain
      cases hagain
      have hclosed : (s.active.closeConnection socket).2 =
          (s.active.removeConnection socket userId none).2 := by
        rw [ActiveSessions.closeConnection, hsession, ← huser]
      rw [hclosed]
      refine ⟨ActiveSessions.distinct_removeConnection hs.distinct _ _ _, ?_,
        ?_, ?_, hreal_left, hs.responses⟩
      · intro connection hmem
        rw [ActiveSessions.mem_removeConnection_implicit hs.distinct] at hmem
        rcases hs.listed connection hmem.1 with hopen | hresponse
        · exact .inl (List.mem_filter.2 ⟨hopen, by simpa using hmem.2⟩)
        · exact .inr hresponse
      · intro other hother
        rw [List.mem_filter, decide_eq_true_iff] at hother
        have hne : other ≠ socket := by
          rintro rfl
          rcases hother with hopen | hrequest
          · exact hopen.2 rfl
          · exact hs.not_request hreal hrequest
        exact hs.session_removed socket none hne
          (hother.imp_left And.left)
      · intro other found hfound
        obtain ⟨hne, hopen | hrequest⟩ := hs.known_removed hfound
        · exact .inl (List.mem_filter.2 ⟨hopen, by simpa using hne⟩)
        · exact .inr hrequest

theorem Orderly.answered (hs : Orderly isResponse userId s)
    {response : Socket} (hmem : response ∈ s.requests) :
    Orderly isResponse userId
      { s with
        active := (s.active.unbindConnection response).2
        requests := s.requests.filter (fun other => other ≠ response)
        past := response :: s.past } := by
  obtain ⟨session, hsession, huser⟩ := hs.session response (.inr hmem)
  have hunbound : (s.active.unbindConnection response).2 =
      (s.active.removeConnection response userId (some httpDeviceId)).2 := by
    rw [ActiveSessions.unbindConnection, hsession, ← huser]
  have hreal : response ∉ s.sockets := by
    intro hopen
    have hboth := (hs.real response hopen).1
    rw [hs.responses response hmem] at hboth
    cases hboth
  rw [hunbound]
  refine ⟨ActiveSessions.distinct_removeConnection hs.distinct _ _ _, ?_, ?_,
    ?_, ?_, ?_⟩
  · intro connection hlisted
    rw [ActiveSessions.getUserDevices_removeConnection, if_pos rfl,
      List.mem_filter, decide_eq_true_iff] at hlisted
    rcases hs.listed connection hlisted.1 with hopen | ⟨-, hdevice⟩
    · exact .inl hopen
    · exact absurd (congrArg some hdevice) hlisted.2
  · intro other hother
    rw [List.mem_filter, decide_eq_true_iff] at hother
    have hne : other ≠ response := by
      rintro rfl
      rcases hother with hopen | hrequest
      · exact hreal hopen
      · exact hrequest.2 rfl
    exact hs.session_removed response (some httpDeviceId) hne
      (hother.imp_right And.left)
  · intro other found hfound
    obtain ⟨hne, hopen | hrequest⟩ := hs.known_removed hfound
    · exact .inl hopen
    · exact .inr (List.mem_filter.2 ⟨hrequest, by simpa using hne⟩)
  · intro other hother
    refine ⟨(hs.real other hother).1, ?_⟩
    rw [List.mem_cons, not_or]
    refine ⟨?_, (hs.real other hother).2⟩
    rintro rfl
    exact hreal hother
  · intro other hother
    exact hs.responses other (List.mem_of_mem_filter hother)

theorem Orderly.step (hs : Orderly isResponse userId s) (event : LoneEvent) :
    Orderly isResponse userId
      (step isResponse endpoint organizationId userId s event).1 := by
  cases event with
  | connected socket deviceId =>
      simp only [LoneNode.step]
      split
      · exact hs
      · next hnew =>
          rw [not_or, Bool.not_eq_true] at hnew
          exact hs.connected hnew.1 hnew.2 deviceId
  | closed socket =>
      simp only [LoneNode.step]
      split
      · exact hs
      · next hnew =>
          rw [not_or, Bool.not_eq_true] at hnew
          exact hs.closed hnew.1
  | requested response =>
      simp only [LoneNode.step]
      split
      · exact hs
      · next hnew =>
          rw [not_or, not_not] at hnew
          exact hs.requested hnew.1
  | answered response =>
      simp only [LoneNode.step]
      split
      · next hmem => exact hs.answered hmem
      · exact hs

theorem Orderly.run (hs : Orderly isResponse userId s)
    (events : List LoneEvent) :
    Orderly isResponse userId
      (run isResponse endpoint organizationId userId s events) := by
  induction events generalizing s with
  | nil => exact hs
  | cons event events ih => exact ih (hs.step event)

/-! ### When the offline activity is sent -/

theorem isLastConnection_iff (hdistinct : s.active.Distinct)
    (socket : Socket) :
    (s.active.removeConnection socket userId none).1.isLastConnection ↔
      ∀ connection ∈ s.active.getUserDevices userId,
        connection.socket = socket := by
  have hleft : (s.active.removeConnection socket userId
      none).1.isLastConnection =
      ((s.active.removeConnection socket userId none).2.getUserDevices
        userId).isEmpty := by
    rw [ActiveSessions.getUserDevices_removeConnection, if_pos rfl]
    rfl
  rw [hleft, List.isEmpty_iff, List.eq_nil_iff_forall_not_mem]
  simp only [ActiveSessions.mem_removeConnection_implicit hdistinct, not_and,
    not_not]

/-- The close of an open socket sends the offline activity when nothing else
is listed. -/
theorem issues_iff (hs : Orderly isResponse userId s)
    (event : LoneEvent) :
    issues isResponse endpoint organizationId userId s event ↔
      ∃ socket ∈ s.sockets, event = .closed socket ∧
        ∀ connection ∈ s.active.getUserDevices userId,
          connection.socket = socket := by
  cases event with
  | connected socket deviceId =>
      simp only [issues, step]
      split <;> simp
  | requested response =>
      simp only [issues, step]
      split <;> simp
  | answered response =>
      simp only [issues, step]
      split <;> simp
  | closed socket =>
      simp only [issues, step, LoneEvent.closed.injEq]
      by_cases hopen : socket ∈ s.sockets
      · obtain ⟨hreal, hpast⟩ := hs.real socket hopen
        obtain ⟨session, hsession, rfl⟩ := hs.session socket (.inl hopen)
        have hclosing : (s.active.closeConnection socket).1 =
            some (session, (s.active.removeConnection socket session.userId
              none).1) := by
          rw [ActiveSessions.closeConnection, hsession]
        rw [if_neg (by simp [hreal, hpast])]
        simp only [hclosing, Option.any_some]
        rw [isLastConnection_iff hs.distinct]
        constructor
        · intro hlast
          exact ⟨socket, hopen, rfl, hlast⟩
        · rintro ⟨_, _, rfl, hlast⟩
          exact hlast
      · refine iff_of_false ?_ ?_
        · split
          · simp
          · next hnew =>
              rw [not_or, Bool.not_eq_true] at hnew
              cases hsession : s.active.getSession socket with
              | none => simp [ActiveSessions.closeConnection, hsession]
              | some session =>
                  rcases hs.known socket session hsession with hyes | hrequest
                  · exact absurd hyes hopen
                  · exact absurd hrequest (hs.not_request hnew.1)
        · rintro ⟨_, hyes, rfl, _⟩
          exact hopen hyes

/-- A timely event sends the offline activity exactly when it closes the last
open socket. -/
theorem issues_iff_closesLast (hs : Orderly isResponse userId s)
    {event : LoneEvent} :
    (issues isResponse endpoint organizationId userId s event ↔
      ClosesLast s event) ↔ Timely userId s event := by
  rw [issues_iff hs]
  constructor
  · rintro hiff socket hopen rfl
    refine ⟨?_, ?_⟩
    · intro hlast connection hmem
      obtain ⟨_, -, ⟨⟩, halone⟩ := hiff.2 ⟨socket, hopen, rfl, hlast⟩
      rw [halone connection hmem]
      exact hs.not_request (hs.real socket hopen).1
    · rintro ⟨other, hother, hne⟩
      by_contra hnone
      obtain ⟨_, -, ⟨⟩, hlast⟩ := hiff.1 ⟨socket, hopen, rfl, by
        intro connection hmem
        by_contra hsocket
        exact hnone ⟨connection, hmem, hsocket⟩⟩
      exact hne (hlast other hother)
  · intro htimely
    constructor
    · rintro ⟨socket, hopen, rfl, halone⟩
      refine ⟨socket, hopen, rfl, ?_⟩
      intro other hother
      by_contra hne
      obtain ⟨connection, hmem, hsocket⟩ :=
        (htimely socket hopen rfl).2 ⟨other, hother, hne⟩
      exact hsocket (halone connection hmem)
    · rintro ⟨socket, hopen, rfl, hlast⟩
      refine ⟨socket, hopen, rfl, ?_⟩
      intro connection hmem
      rcases hs.listed connection hmem with hsocket | ⟨hrequest, -⟩
      · exact hlast _ hsocket
      · exact absurd hrequest
          ((htimely socket hopen rfl).1 hlast connection hmem)

/-- While no socket is open and none connects, nothing is sent. -/
theorem issuesIn_eq_zero (hs : Orderly isResponse userId s)
    (hnone : s.sockets = []) {events : List LoneEvent}
    (hquiet : ∀ event ∈ events, isConnect event = false) :
    issuesIn isResponse endpoint organizationId userId s events = 0 := by
  induction events generalizing s with
  | nil => rfl
  | cons event events ih =>
      have hissues : issues isResponse endpoint organizationId userId s
          event = false := by
        rw [← Bool.not_eq_true, issues_iff hs, hnone]
        rintro ⟨socket, hopen, -⟩
        cases hopen
      have hsockets : (step isResponse endpoint organizationId userId s
          event).1.sockets = [] := by
        cases event with
        | connected socket deviceId =>
            have hconnect := hquiet _ List.mem_cons_self
            cases hconnect
        | closed socket =>
            simp only [step]
            split
            · exact hnone
            · simp [hnone]
        | requested response =>
            simp only [step]
            split <;> exact hnone
        | answered response =>
            simp only [step]
            split <;> exact hnone
      rw [issuesIn, hissues, ih (hs.step event) hsockets
        (fun later hlater => hquiet later (List.mem_cons_of_mem _ hlater))]
      rfl

theorem sockets_closesLast (hs : Orderly isResponse userId s)
    {event : LoneEvent} (hlast : ClosesLast s event) :
    (step isResponse endpoint organizationId userId s event).1.sockets =
      [] := by
  obtain ⟨socket, hopen, rfl, hall⟩ := hlast
  obtain ⟨hreal, hpast⟩ := hs.real socket hopen
  simp only [step]
  rw [if_neg (by simp [hreal, hpast])]
  refine List.filter_eq_nil_iff.2 ?_
  intro other hother
  simpa using hall other hother

/-- Response objects have odd numbers. -/
def isOdd (socket : Socket) : Bool := socket % 2 = 1

/-- A request that is over before the socket is closed. -/
def shortRequest : List LoneEvent :=
  [.connected 0 Sample.phone, .requested 1, .answered 1, .closed 0]

/-- A request that outlives the socket. -/
def longRequest : List LoneEvent :=
  [.connected 0 Sample.phone, .requested 1, .closed 0, .answered 1]

end LoneNode

end SamaServer
