/-
A socket closes while its login or connect is in flight.  The two programs
interleave at their suspensions.  When the close comes after the login has
installed the connection, and lists the user's devices after the registration
is stored, nothing that refers to the socket is left.
-/
import SamaServer.KeyRemoval
import SamaServer.RegistrationRuns
import SamaServer.TakeOver

namespace SamaServer

/-- A login or a connect of a socket. -/
inductive Entry
  | login (directory : Directory) (userInfo : UserInfo)
  | connect (directory : Directory) (token : String) (deviceId : DeviceId)

def Entry.arrival (endpoint : Endpoint) (socket : Socket) : Entry → Arrival
  | .login directory userInfo =>
      ⟨endpoint, socket, .login directory userInfo⟩
  | .connect directory token deviceId =>
      ⟨endpoint, socket, .connect directory token deviceId⟩

/-- The user and device it connects when its lookups succeed. -/
def Entry.establishes (entry : Entry) : Option (UserId × DeviceId) :=
  match entry with
  | .login directory userInfo =>
      match directory.authenticate userInfo with
      | .ok userId => some (userId, userInfo.deviceId)
      | .error _ => none
  | .connect directory token deviceId =>
      match directory.authenticateToken token deviceId with
      | .ok userId => some (userId, deviceId)
      | .error _ => none

inductive RaceTask
  | enter
  | close

abbrev RaceSystem := System RaceTask Label Cluster

/-- Task 0 is the login, task 1 the close. -/
def racing (cluster : Cluster) (entering closing : Service Unit)
    (trace : List (Nat × Label)) : RaceSystem :=
  ⟨cluster, [⟨.enter, entering⟩, ⟨.close, closing⟩], trace⟩

section Race

variable (deployment : Deployment) (endpoint : Endpoint) (socket : Socket)
  (entry : Entry) (before : Cluster)

def race : RaceSystem :=
  racing before ((entry.arrival endpoint socket).program deployment)
    (SessionService.onClose deployment endpoint socket) []

/-- The tables of the node do not know the socket. -/
structure ActiveSessions.SocketFree (active : ActiveSessions)
    (socket : Socket) : Prop where
  session : active.getSession socket = none
  connections : ∀ userId, ∀ connection ∈ active.getUserDevices userId,
    connection.socket ≠ socket

/-- The devices that Redis may have registered for the socket: the one the
login connects, and those the socket was connected with before. -/
def RegisteredFor (userId : UserId) (deviceId : DeviceId) : Prop :=
  entry.establishes = some (userId, deviceId) ∨
    (before.node endpoint).Holds socket userId deviceId

/-- No structure refers to the socket. -/
structure Forgotten (cluster : Cluster) : Prop where
  tables : (cluster.node endpoint).SocketFree socket
  redis : deployment.isStandAloneNode = false → ∀ userId deviceId,
    RegisteredFor endpoint socket entry before userId deviceId →
    cluster.redis.NotRegistered endpoint (deployment.organizationOf userId)
      userId deviceId

/-- The socket is listed only for the user that the login connects or, when
the login fails, for the user of its session. -/
def OnlyUserListed : Prop :=
  ∀ userId, ∀ connection ∈ (before.node endpoint).getUserDevices userId,
    connection.socket = socket →
    match entry.establishes with
    | some (entrant, _) => userId = entrant
    | none => (before.node endpoint).getSessionUserId socket = some userId

/-- The condition on one step, for a login that succeeds: the close looks for
the session after the login has installed it, and lists the user's devices
after the login has stored the registration, unless the socket was connected
for the user before. -/
def StepInTime (system : RaceSystem) (index : Nat) (userId : UserId)
    (deviceId : DeviceId) : Label → Prop
  | .closed .. =>
      (0, .connected endpoint socket userId deviceId) ∈ system.trace
  | .listed _ => index = 1 →
      (0, .stored endpoint userId deviceId) ∈ system.trace ∨
        (before.node endpoint).getDeviceId socket userId ≠ none
  | _ => True

def InTime (system : RaceSystem) : Event RaceTask Label Cluster → Prop
  | .spawn _ => True
  | .tick index => ∀ label, system.nextLabel? index = some label →
      ∀ userId deviceId, entry.establishes = some (userId, deviceId) →
        StepInTime endpoint socket before system index userId deviceId label

variable {deployment endpoint socket entry before} in
theorem inTime_tick {system : RaceSystem} {index : Nat} {userId : UserId}
    {deviceId : DeviceId}
    (hestablishes : entry.establishes = some (userId, deviceId))
    (label : Label) (hlabel : system.nextLabel? index = some label)
    (hstep : StepInTime endpoint socket before system index userId deviceId
      label) :
    InTime endpoint socket entry before system (.tick index) := by
  intro other hother user device hother'
  rw [hlabel, Option.some.injEq] at hother
  rw [hestablishes, Option.some.injEq, Prod.mk.injEq] at hother'
  rw [← hother, ← hother'.1, ← hother'.2]
  exact hstep

end Race

section Ticks

variable (cluster : Cluster) (entering closing : Service Unit)
  (trace : List (Nat × Label))

/-- A tick does nothing, or one of the two programs takes a step. -/
theorem racing_tick_cases (index : Nat) :
    (racing cluster entering closing trace).tick index =
        racing cluster entering closing trace ∨
      (index = 0 ∧ ∃ label effect next,
        entering = .step label effect next ∧
        (racing cluster entering closing trace).tick index =
          racing (effect cluster) (next cluster) closing
            (trace ++ [(0, label)])) ∨
      (index = 1 ∧ ∃ label effect next,
        closing = .step label effect next ∧
        (racing cluster entering closing trace).tick index =
          racing (effect cluster) entering (next cluster)
            (trace ++ [(1, label)])) := by
  match index with
  | 0 =>
      cases entering with
      | done result => exact .inl rfl
      | step label effect next =>
          exact .inr (.inl ⟨rfl, label, effect, next, rfl, rfl⟩)
  | 1 =>
      cases closing with
      | done result => exact .inl rfl
      | step label effect next =>
          exact .inr (.inr ⟨rfl, label, effect, next, rfl, rfl⟩)
  | other + 2 => exact .inl rfl

variable {cluster entering closing trace}

theorem racing_not_quiescent_entering {label : Label}
    {effect : Cluster → Cluster} {next : Cluster → Service Unit}
    (hentering : entering = .step label effect next) :
    ¬ (racing cluster entering closing trace).Quiescent := by
  intro hquiescent
  have hfinished := hquiescent ⟨.enter, entering⟩ List.mem_cons_self
  rw [hentering] at hfinished
  cases hfinished

theorem racing_not_quiescent_closing {label : Label}
    {effect : Cluster → Cluster} {next : Cluster → Service Unit}
    (hclosing : closing = .step label effect next) :
    ¬ (racing cluster entering closing trace).Quiescent := by
  intro hquiescent
  have hfinished := hquiescent ⟨.close, closing⟩
    (List.mem_cons_of_mem _ List.mem_cons_self)
  rw [hclosing] at hfinished
  cases hfinished

theorem racing_tasks {G : Label → Cluster → Cluster → Prop}
    (hentering : entering.Guarantees G) (hclosing : closing.Guarantees G) :
    ∀ task ∈ (racing cluster entering closing trace).tasks,
      task.body.Guarantees G := by
  intro task htask
  rcases List.mem_cons.1 htask with rfl | hlast
  · exact hentering
  · rw [List.mem_singleton.1 hlast]
    exact hclosing

end Ticks

namespace ActiveSessions

variable {active : ActiveSessions} {socket : Socket} {userId : UserId}

/-- The socket has a session of the user and is listed for no other. -/
structure SocketOf (active : ActiveSessions) (socket : Socket)
    (userId : UserId) : Prop where
  session : active.getSessionUserId socket = some userId
  distinct : active.Distinct
  listed : ∀ other, ∀ connection ∈ active.getUserDevices other,
    connection.socket = socket → other = userId

theorem SocketOf.close (hsocket : active.SocketOf socket userId) :
    (active.closeConnection socket).2.SocketFree socket := by
  have hsession := hsocket.session
  rw [getSessionUserId, Option.map_eq_some_iff] at hsession
  obtain ⟨session, hsession, rfl⟩ := hsession
  simp only [closeConnection, hsession]
  constructor
  · rw [getSession_removeConnection, if_pos rfl]
  · intro other connection hmem heq
    by_cases hother : other = session.userId
    · subst hother
      exact ((mem_removeConnection_implicit hsocket.distinct socket
        session.userId connection).1 hmem).2 heq
    · rw [getUserDevices_removeConnection, if_neg hother] at hmem
      exact hother (hsocket.listed other connection hmem heq)

theorem SocketFree.close (hfree : active.SocketFree socket) :
    (active.closeConnection socket).2 = active := by
  simp only [closeConnection, hfree.session]

end ActiveSessions

section Tables

variable {deployment : Deployment} {endpoint : Endpoint} {socket : Socket}
  {P : RaceSystem → Event RaceTask Label Cluster → Prop}
  {cluster : Cluster} {trace : List (Nat × Label)}

/-- Once the login has installed the session, or if there is nothing to
close, the tables are free of the socket in the end. -/
theorem promises_socketFree (userId : UserId) {entering : Service Unit}
    (hentering : entering.Guarantees (fun _ before after =>
      after.node = before.node))
    (hsocket : (cluster.node endpoint).SocketOf socket userId ∨
      (cluster.node endpoint).SocketFree socket) :
    System.Promises P (fun cluster =>
        (cluster.node endpoint).SocketFree socket)
      (racing cluster entering
        (SessionService.onClose deployment endpoint socket) trace) := by
  have hsame : ∀ (before after : Cluster), after.node = before.node →
      ((before.node endpoint).SocketOf socket userId ∨
        (before.node endpoint).SocketFree socket) →
      ((after.node endpoint).SocketOf socket userId ∨
        (after.node endpoint).SocketFree socket) ∧
      ((before.node endpoint).SocketFree socket →
        (after.node endpoint).SocketFree socket) := by
    intro before after hnode hbefore
    rw [hnode]
    exact ⟨hbefore, id⟩
  have hclosed : ∀ before : Cluster,
      ((before.node endpoint).SocketOf socket userId ∨
        (before.node endpoint).SocketFree socket) →
      ((before.node endpoint).closeConnection socket).2.SocketFree
        socket := by
    rintro before (hof | hfree)
    · exact hof.close
    · rw [hfree.close]
      exact hfree
  refine System.Settling.promises (I := fun cluster =>
    (cluster.node endpoint).SocketOf socket userId ∨
      (cluster.node endpoint).SocketFree socket)
    ⟨hsocket, racing_tasks (hentering.mono (fun _ => hsame)) ?_, .inr
      ⟨⟨.close, _⟩, List.mem_cons_of_mem _ List.mem_cons_self, ?_⟩⟩
  · rw [SessionService.onClose_eq_step]
    intro before
    constructor
    · intro hbefore
      rw [Cluster.node_setNode, if_pos rfl]
      exact ⟨.inr (hclosed before hbefore), fun _ => hclosed before hbefore⟩
    · apply SessionService.guarantees_closeRest deployment endpoint
      · intro session removed _
        exact (SessionService.staysWith_finishRemoval deployment endpoint
          session.userId removed).mono
            (fun _ first second hstep => hsame first second hstep.2.node)
      · exact fun first => hsame first first rfl
  · rw [SessionService.onClose_eq_step]
    intro before hbefore
    left
    dsimp only
    rw [Cluster.node_setNode, if_pos rfl]
    exact hclosed before hbefore

end Tables

end SamaServer
