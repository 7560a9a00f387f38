/-
The tables of a node in any interleaving of what reaches it.  Requests of
sockets, HTTP requests, activity marks and the watchdog run side by side, and
whatever they do to the tables of a node is a sequence of the same few blocks.
-/
import SamaServer.OnlineUsers
import SamaServer.RegistrationRuns

namespace SamaServer

/-- The programs of a running node. -/
inductive TableTask
  | serve (visit : Visit)
  | watchdog (endpoint : Endpoint) (pings : Pings)

def TableTask.program (deployment : Deployment) : TableTask → Service Unit
  | .serve visit => visit.program deployment
  | .watchdog endpoint pings =>
      SessionService.watchdogPingSocket deployment endpoint pings

/-- A scheduler starts a program or lets a started one take its next step. -/
inductive TableMove
  | start (task : TableTask)
  | tick (index : Nat)

def TableMove.event (deployment : Deployment) :
    TableMove → Event TableTask Label Cluster
  | .start task => .spawn ⟨task, task.program deployment⟩
  | .tick index => .tick index

/-- A step leaves the tables of all nodes, or is one block of one node. -/
def TableStep (deployment : Deployment) (_ : Label)
    (before after : Cluster) : Prop :=
  after.node = before.node ∨
    ∃ endpoint event, after.node = (before.setNode endpoint
      ((before.node endpoint).apply deployment endpoint event)).node

namespace SessionService

variable (deployment : Deployment) (endpoint : Endpoint) (socket : Socket)

theorem StaysWith.tableStep {A : Type} {userId : UserId}
    {program : Service A} (hprogram : StaysWith userId program) :
    program.Guarantees (TableStep deployment) :=
  hprogram.mono (fun _ _ _ hstays => .inl hstays.2.node)

theorem tableStep_nodeBlock {A : Type} {label : Label}
    {block : ActiveSessions → A × ActiveSessions}
    (hblock : ∀ active, (block active).2 = active ∨
      ∃ event, (block active).2 = active.apply deployment endpoint event) :
    (nodeBlock label endpoint block).Guarantees (TableStep deployment) := by
  refine Async.guarantees_atomic (fun cluster => ?_)
  rcases hblock (cluster.node endpoint) with hsame | ⟨event, hevent⟩
  · left
    change (cluster.setNode endpoint (block (cluster.node endpoint)).2).node =
      cluster.node
    rw [hsame, setNode_self]
  · right
    refine ⟨endpoint, event, ?_⟩
    rw [← hevent]

theorem tableStep_awaitAnswer {A : Type} (answer : A) :
    (awaitAnswer answer).Guarantees (TableStep deployment) :=
  Async.guarantees_atomic (fun _ => .inl rfl)

theorem tableStep_awaitAnswer_bind {A B : Type} (answer : A)
    {rest : A → Service B}
    (hrest : ∀ result, (rest result).Guarantees (TableStep deployment)) :
    (awaitAnswer answer >>= rest).Guarantees (TableStep deployment) :=
  Async.guarantees_bind (tableStep_awaitAnswer deployment answer) hrest

theorem tableStep_awaitAnswers (count : Nat) :
    (awaitAnswers count).Guarantees (TableStep deployment) := by
  induction count with
  | zero => trivial
  | succ count ih =>
      exact tableStep_awaitAnswer_bind deployment _ (fun _ => ih)

theorem tableStep_query {A : Type} {label : Label}
    (query : ActiveSessions → A) :
    (nodeBlock label endpoint (fun active =>
      (query active, active))).Guarantees (TableStep deployment) :=
  tableStep_nodeBlock deployment endpoint (fun _ => .inl rfl)

theorem tableStep_finishRemoval (userId : UserId)
    (removed : ActiveSessions.RemovedConnection) :
    (finishRemoval deployment endpoint userId removed).Guarantees
      (TableStep deployment) :=
  StaysWith.tableStep deployment
    (staysWith_finishRemoval deployment endpoint userId removed)

theorem tableStep_connectDevice (userId : UserId) (deviceId : DeviceId) :
    (connectDevice deployment endpoint socket userId deviceId).Guarantees
      (TableStep deployment) := by
  refine Async.guarantees_bind (tableStep_nodeBlock deployment endpoint
    (fun active => .inr ⟨.connected socket userId deviceId, rfl⟩))
    (fun replaced => ?_)
  refine Async.guarantees_bind (StaysWith.tableStep deployment
    (staysWith_storeUserNodeData deployment endpoint _ userId deviceId))
    (fun _ => ?_)
  split
  · trivial
  · exact Async.guarantees_bind (StaysWith.tableStep deployment
      (staysWith_removeAllUserDeviceData deployment endpoint _ userId _))
      (fun _ => trivial)

theorem tableStep_onClose :
    (onClose deployment endpoint socket).Guarantees
      (TableStep deployment) := by
  refine Async.guarantees_bind (tableStep_nodeBlock deployment endpoint
    (fun active => .inr ⟨.closed socket, rfl⟩)) (fun closing => ?_)
  split
  · trivial
  · next session removed =>
      refine Async.guarantees_bind (tableStep_finishRemoval deployment
        endpoint session.userId removed) (fun isLast => ?_)
      split
      · exact tableStep_awaitAnswer deployment ()
      · trivial

theorem tableStep_removeUserSession (userId : UserId)
    (deviceId : Option DeviceId) :
    (removeUserSession deployment endpoint socket userId
      deviceId).Guarantees (TableStep deployment) :=
  Async.guarantees_bind (tableStep_nodeBlock deployment endpoint
    (fun _ => .inr ⟨.removed socket userId deviceId, rfl⟩))
    (fun removed => tableStep_finishRemoval deployment endpoint userId
      removed)

theorem tableStep_unbindSession :
    (unbindSession deployment endpoint socket).Guarantees
      (TableStep deployment) := by
  refine Async.guarantees_bind (tableStep_nodeBlock deployment endpoint
    (fun active => .inr ⟨.unbound socket, rfl⟩)) (fun unbinding => ?_)
  split
  · trivial
  · next userId removed =>
      exact Async.guarantees_bind (tableStep_finishRemoval deployment
        endpoint userId removed) (fun _ => trivial)

theorem tableStep_httpRequest (organizationId : OrganizationId)
    (userId : UserId) (readAwaits handlerAwaits : Nat) :
    (httpRequest deployment endpoint socket organizationId userId readAwaits
      handlerAwaits).Guarantees (TableStep deployment) := by
  refine Async.guarantees_bind (tableStep_awaitAnswers deployment
    readAwaits) (fun _ => ?_)
  refine Async.guarantees_bind (tableStep_nodeBlock deployment endpoint
    (fun active => .inr ⟨.requested socket organizationId userId, rfl⟩))
    (fun _ => ?_)
  exact Async.guarantees_bind (tableStep_awaitAnswers deployment
    handlerAwaits) (fun _ => tableStep_unbindSession deployment endpoint
      socket)

theorem tableStep_setSessionInactiveState (isInactive : Bool) :
    (setSessionInactiveState deployment endpoint socket
      isInactive).Guarantees (TableStep deployment) := by
  refine Async.guarantees_bind (tableStep_nodeBlock deployment endpoint
    (fun active => .inr ⟨.marked socket isInactive, ?_⟩)) (fun target => ?_)
  · rw [ActiveSessions.apply]
    cases active.getSession socket <;> rfl
  · split
    · trivial
    · split
      · trivial
      · exact Async.guarantees_bind (Async.guarantees_atomic
          (fun _ => .inl rfl)) (fun _ => trivial)

theorem tableStep_removeAllUserSessions :
    (removeAllUserSessions deployment endpoint socket).Guarantees
      (TableStep deployment) := by
  refine Async.guarantees_bind (tableStep_nodeBlock deployment endpoint
    (fun active => .inr ⟨.deleted socket, ?_⟩)) (fun caller => ?_)
  · rw [ActiveSessions.apply]
    cases active.getSession socket <;> rfl
  · split
    · trivial
    · split
      · trivial
      · exact StaysWith.tableStep deployment
          (staysWith_forgetUser deployment endpoint _ _)

theorem tableStep_pingConnections (pings : Pings) (userId : UserId)
    (connections : List Connection) :
    (pingConnections deployment endpoint pings userId
      connections).Guarantees (TableStep deployment) := by
  induction connections with
  | nil => trivial
  | cons connection connections ih =>
      rw [pingConnections]
      split
      · exact ih
      · refine Async.guarantees_bind (tableStep_awaitAnswers deployment _)
          (fun _ => ?_)
        split
        · refine Async.guarantees_bind (tableStep_onClose deployment
            endpoint connection.socket) (fun _ => ?_)
          exact Async.guarantees_bind (tableStep_removeUserSession deployment
            endpoint connection.socket userId _) (fun _ => ih)
        · exact ih

theorem tableStep_watchdogPingSocket (pings : Pings) :
    (watchdogPingSocket deployment endpoint pings).Guarantees
      (TableStep deployment) := by
  refine Async.guarantees_bind (tableStep_query deployment endpoint _)
    (fun users => ?_)
  induction users with
  | nil => trivial
  | cons userId users ih =>
      refine Async.guarantees_bind (tableStep_query deployment endpoint _)
        (fun connections => ?_)
      exact Async.guarantees_bind (tableStep_pingConnections deployment
        endpoint pings userId connections) (fun _ => ih)

theorem tableStep_authByToken (directory : Directory) (token : String)
    (deviceId : DeviceId) :
    (authByToken directory token deviceId).Guarantees
      (TableStep deployment) := by
  refine tableStep_awaitAnswer_bind deployment _ (fun record => ?_)
  split
  · trivial
  · exact tableStep_awaitAnswer_bind deployment _ (fun _ => trivial)

theorem tableStep_authUser (directory : Directory) (userInfo : UserInfo) :
    (authUser directory userInfo).Guarantees (TableStep deployment) := by
  rw [authUser]
  split
  · exact tableStep_authByToken deployment directory _ _
  · refine tableStep_awaitAnswer_bind deployment _ (fun user => ?_)
    split
    · trivial
    · refine tableStep_awaitAnswer_bind deployment _ (fun isValid => ?_)
      split
      · exact tableStep_awaitAnswer_bind deployment _ (fun _ => trivial)
      · trivial

theorem tableStep_userAuth (directory : Directory) (userInfo : UserInfo) :
    (userAuth deployment endpoint socket directory userInfo
      false).Guarantees (TableStep deployment) := by
  refine Async.guarantees_bind (tableStep_authUser deployment directory
    userInfo) (fun user => ?_)
  split
  · trivial
  · refine tableStep_awaitAnswer_bind deployment _ (fun isBlocked => ?_)
    split
    · trivial
    · refine Async.guarantees_bind (tableStep_connectDevice deployment
        endpoint socket _ _) (fun _ => ?_)
      refine tableStep_awaitAnswer_bind deployment _ (fun _ => ?_)
      exact tableStep_awaitAnswer_bind deployment _ (fun _ => trivial)

theorem tableStep_userConnectSocket (directory : Directory)
    (token : String) (deviceId : DeviceId) :
    (userConnectSocket deployment endpoint socket directory token
      deviceId).Guarantees (TableStep deployment) := by
  refine Async.guarantees_bind (tableStep_authByToken deployment directory
    token deviceId) (fun user => ?_)
  split
  · trivial
  · exact Async.guarantees_bind (tableStep_connectDevice deployment endpoint
      socket _ deviceId) (fun _ => trivial)

theorem tableStep_userLogout :
    (userLogout deployment endpoint socket).Guarantees
      (TableStep deployment) := by
  refine Async.guarantees_bind (tableStep_query deployment endpoint _)
    (fun caller => ?_)
  split
  · trivial
  · refine tableStep_awaitAnswer_bind deployment _ (fun _ => ?_)
    refine Async.guarantees_bind (tableStep_removeUserSession deployment
      endpoint socket _ _) (fun _ => ?_)
    exact tableStep_awaitAnswer_bind deployment _ (fun _ => trivial)

theorem tableStep_userDelete (directory : Directory) :
    (userDelete deployment endpoint socket directory).Guarantees
      (TableStep deployment) := by
  refine Async.guarantees_bind (tableStep_query deployment endpoint _)
    (fun caller => ?_)
  split
  · trivial
  · refine tableStep_awaitAnswer_bind deployment _ (fun _ => ?_)
    refine Async.guarantees_bind (tableStep_removeAllUserSessions deployment
      endpoint socket) (fun _ => ?_)
    refine tableStep_awaitAnswer_bind deployment _ (fun user => ?_)
    split
    · trivial
    · refine tableStep_awaitAnswer_bind deployment _ (fun _ => ?_)
      refine tableStep_awaitAnswer_bind deployment _ (fun _ => ?_)
      exact tableStep_awaitAnswer_bind deployment _ (fun _ => trivial)

theorem tableStep_discard {A : Type} {program : Service A}
    (hprogram : program.Guarantees (TableStep deployment)) :
    (discard program).Guarantees (TableStep deployment) :=
  Async.guarantees_bind hprogram (fun _ => trivial)

theorem tableStep_program (task : TableTask) :
    (task.program deployment).Guarantees (TableStep deployment) := by
  cases task with
  | watchdog endpoint pings =>
      exact tableStep_watchdogPingSocket deployment endpoint pings
  | serve visit =>
      cases visit with
      | http endpoint response userId readAwaits handlerAwaits =>
          exact tableStep_httpRequest deployment endpoint response _ userId
            readAwaits handlerAwaits
      | activity endpoint socket isInactive =>
          exact tableStep_discard deployment
            (tableStep_setSessionInactiveState deployment endpoint socket
              isInactive)
      | request arrival =>
          obtain ⟨endpoint, socket, request⟩ := arrival
          cases request with
          | login directory userInfo =>
              exact tableStep_discard deployment (tableStep_userAuth
                deployment endpoint socket directory userInfo)
          | connect directory token deviceId =>
              exact tableStep_discard deployment
                (tableStep_userConnectSocket deployment endpoint socket
                  directory token deviceId)
          | logout =>
              exact tableStep_discard deployment
                (tableStep_userLogout deployment endpoint socket)
          | close => exact tableStep_onClose deployment endpoint socket
          | delete directory =>
              exact tableStep_discard deployment
                (tableStep_userDelete deployment endpoint socket directory)

end SessionService

/-- The invariant of the runs: what has happened to the tables of every node
is a sequence of blocks. -/
structure TableInvariant (deployment : Deployment)
    (system : System TableTask Label Cluster) : Prop where
  tables : ∀ endpoint, ∃ events : List TableEvent,
    system.state.node endpoint =
      events.foldl (ActiveSessions.apply deployment endpoint) .empty
  tasks : ∀ task ∈ system.tasks,
    task.body.Guarantees (TableStep deployment)

theorem tableInvariant_start (deployment : Deployment) :
    TableInvariant deployment (System.start .empty) :=
  ⟨fun _ => ⟨[], rfl⟩, fun _ htask => by cases htask⟩

theorem tableInvariant_exec {deployment : Deployment}
    {system : System TableTask Label Cluster}
    (hinvariant : TableInvariant deployment system) (move : TableMove) :
    TableInvariant deployment (system.exec (move.event deployment)) := by
  cases move with
  | start task =>
      refine ⟨hinvariant.tables, fun started hstarted => ?_⟩
      rcases List.mem_append.1 hstarted with hold | hnew
      · exact hinvariant.tasks started hold
      · rw [List.mem_singleton.1 hnew]
        exact SessionService.tableStep_program deployment task
  | tick index =>
      change TableInvariant deployment (system.tick index)
      cases hlabel : system.nextLabel? index with
      | none =>
          rw [System.tick_of_nextLabel?_none hlabel]
          exact hinvariant
      | some label =>
          obtain ⟨hstep, htasks⟩ := System.tick_guarantees hlabel
            hinvariant.tasks
          refine ⟨fun other => ?_, htasks⟩
          obtain ⟨events, hevents⟩ := hinvariant.tables other
          rcases hstep with hsame | ⟨endpoint, event, hnode⟩
          · rw [hsame]
            exact ⟨events, hevents⟩
          · rw [hnode, Cluster.node_setNode]
            split
            · next hother =>
                refine ⟨events ++ [event], ?_⟩
                rw [List.foldl_append, ← hevents, hother]
                rfl
            · exact ⟨events, hevents⟩

/-- In every interleaving the tables of a node are what some sequence of
blocks makes of empty ones. -/
theorem exists_events_of_run (deployment : Deployment)
    (moves : List TableMove) (endpoint : Endpoint) :
    ∃ events : List TableEvent,
      ((System.start .empty).run (moves.map
          (TableMove.event deployment))).state.node endpoint =
        events.foldl (ActiveSessions.apply deployment endpoint) .empty := by
  have hinvariant : TableInvariant deployment ((System.start .empty).run
      (moves.map (TableMove.event deployment))) := by
    rw [System.run, List.foldl_map]
    exact List.foldlRecOn moves _ (tableInvariant_start deployment)
      (fun system hsystem move _ => tableInvariant_exec hsystem move)
  exact hinvariant.tables endpoint

end SamaServer
