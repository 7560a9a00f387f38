/-
Whose connection does a removal take away?  Connects, closes, the watchdog and
HTTP requests interleave at their suspensions.  A removal that looks the device
up from its socket only ever takes the socket's own connection; one that is
given the device explicitly takes whatever connection holds that device.
-/
import SamaServer.Requests

namespace SamaServer

/-- The programs that add and remove connections of a node. -/
inductive NodeTask
  | connect (endpoint : Endpoint) (socket : Socket) (userId : UserId)
      (deviceId : DeviceId)
  | close (endpoint : Endpoint) (socket : Socket)
  | watchdog (endpoint : Endpoint) (pings : Pings)
  | http (endpoint : Endpoint) (response : Socket)
      (organizationId : OrganizationId) (userId : UserId)
      (readAwaits handlerAwaits : Nat)

namespace NodeTask

open SessionService

def program (deployment : Deployment) : NodeTask → Service Unit
  | .connect endpoint socket userId deviceId =>
      connectDevice deployment endpoint socket userId deviceId
  | .close endpoint socket => onClose deployment endpoint socket
  | .watchdog endpoint pings =>
      watchdogPingSocket deployment endpoint pings
  | .http endpoint response organizationId userId readAwaits
      handlerAwaits =>
      httpRequest deployment endpoint response organizationId userId
        readAwaits handlerAwaits

end NodeTask

/-- A scheduler starts a program or lets a started one take its next step. -/
inductive Move
  | start (task : NodeTask)
  | tick (index : Nat)

def Move.event (deployment : Deployment) :
    Move → Event NodeTask Label Cluster
  | .start task => .spawn ⟨task, task.program deployment⟩
  | .tick index => .tick index

namespace Label

/-- What the blocks that change the tables do, and that no other step does. -/
def BlockSpec (deployment : Deployment) (label : Label)
    (before after : Cluster) : Prop :=
  match label with
  | .connected endpoint socket userId deviceId =>
      ∃ active, (active = (before.node endpoint).attach deployment endpoint
          socket userId deviceId ∨
        ∃ organizationId, active = ((before.node
          endpoint).addUserDeviceConnection socket organizationId userId
            deviceId).2) ∧
        after.node = (before.setNode endpoint active).node
  | .closed endpoint socket =>
      after.node = (before.setNode endpoint
        ((before.node endpoint).closeConnection socket).2).node
  | .removed endpoint socket userId deviceId =>
      after.node = (before.setNode endpoint
        ((before.node endpoint).removeConnection socket userId
          deviceId).2).node
  | .unbound endpoint socket =>
      after.node = (before.setNode endpoint
        ((before.node endpoint).unbindConnection socket).2).node
  | .deleted .. | .marked .. => False
  | _ => after.node = before.node

/-- The node and the socket on whose behalf a step calls
`removeUserSession`. -/
def removesFor : Label → Option (Endpoint × Socket)
  | .closed endpoint socket => some (endpoint, socket)
  | .removed endpoint socket _ _ => some (endpoint, socket)
  | .unbound endpoint socket => some (endpoint, socket)
  | _ => none

/-- A removal on behalf of a socket leaves the connections of every other
socket in place. -/
def RemovesOnlyOwn (label : Label) (before after : Cluster) : Prop :=
  ∀ endpoint socket, label.removesFor = some (endpoint, socket) →
    ∀ node userId, ∀ connection ∈ (before.node node).getUserDevices userId,
      connection.socket ≠ socket →
      connection ∈ (after.node node).getUserDevices userId

/-- A removal that is given the device explicitly comes at a time when no
other socket holds that device. -/
def NotTakenOver (label : Label) (before : Cluster) : Prop :=
  match label with
  | .removed endpoint socket userId (some deviceId) =>
      ∀ connection ∈ (before.node endpoint).getUserDevices userId,
        connection.deviceId = deviceId → connection.socket = socket
  | .unbound endpoint socket =>
      ∀ session, (before.node endpoint).getSession socket = some session →
        ∀ connection ∈
          (before.node endpoint).getUserDevices session.userId,
          connection.deviceId = httpDeviceId → connection.socket = socket
  | _ => True

end Label

namespace SessionService

variable (deployment : Deployment) (endpoint : Endpoint) (socket : Socket)

theorem StaysWith.blockSpec {A : Type} {userId : UserId}
    {program : Service A} (hprogram : StaysWith userId program) :
    program.Guarantees (Label.BlockSpec deployment) := by
  apply hprogram.mono
  rintro label before after ⟨hlabel, honly⟩
  cases label with
  | connected => cases hlabel
  | closed => cases hlabel
  | removed => cases hlabel
  | unbound => cases hlabel
  | deleted => cases hlabel
  | marked => cases hlabel
  | _ => exact honly.node

theorem blockSpec_connectDevice (userId : UserId) (deviceId : DeviceId) :
    (connectDevice deployment endpoint socket userId deviceId).Guarantees
      (Label.BlockSpec deployment) := by
  refine Async.guarantees_bind (Async.guarantees_atomic (fun cluster => ?_))
    (fun replaced => ?_)
  · exact ⟨_, .inl rfl, rfl⟩
  · refine Async.guarantees_bind (StaysWith.blockSpec deployment
      (staysWith_storeUserNodeData deployment endpoint _ userId deviceId))
      (fun _ => ?_)
    split
    · trivial
    · exact Async.guarantees_bind (StaysWith.blockSpec deployment
        (staysWith_removeAllUserDeviceData deployment endpoint _ userId _))
        (fun _ => trivial)

theorem blockSpec_onClose :
    (onClose deployment endpoint socket).Guarantees
      (Label.BlockSpec deployment) := by
  refine Async.guarantees_bind (Async.guarantees_atomic (fun cluster => rfl))
    (fun closing => ?_)
  split
  · trivial
  · next session removed =>
      refine Async.guarantees_bind (StaysWith.blockSpec deployment
        (staysWith_finishRemoval deployment endpoint session.userId removed))
        (fun isLast => ?_)
      split
      · exact fun cluster => ⟨rfl, trivial⟩
      · trivial

theorem blockSpec_removeUserSession (userId : UserId)
    (deviceId : Option DeviceId) :
    (removeUserSession deployment endpoint socket userId
      deviceId).Guarantees (Label.BlockSpec deployment) :=
  Async.guarantees_bind (Async.guarantees_atomic (fun _ => rfl))
    (fun removed => StaysWith.blockSpec deployment
      (staysWith_finishRemoval deployment endpoint userId removed))

theorem blockSpec_awaitAnswers (count : Nat) :
    (awaitAnswers count).Guarantees (Label.BlockSpec deployment) := by
  induction count with
  | zero => trivial
  | succ count ih =>
      exact Async.guarantees_bind (Async.guarantees_atomic (fun _ => rfl))
        (fun _ => ih)

theorem blockSpec_httpRequest (organizationId : OrganizationId)
    (userId : UserId) (readAwaits handlerAwaits : Nat) :
    (httpRequest deployment endpoint socket organizationId userId readAwaits
      handlerAwaits).Guarantees (Label.BlockSpec deployment) := by
  refine Async.guarantees_bind (blockSpec_awaitAnswers deployment
    readAwaits) (fun _ => ?_)
  refine Async.guarantees_bind (Async.guarantees_atomic (fun cluster =>
    ⟨_, .inr ⟨organizationId, rfl⟩, rfl⟩)) (fun _ => ?_)
  refine Async.guarantees_bind (blockSpec_awaitAnswers deployment
    handlerAwaits) (fun _ => ?_)
  refine Async.guarantees_bind (Async.guarantees_atomic (fun _ => rfl))
    (fun unbinding => ?_)
  split
  · trivial
  · next userId removed =>
      exact Async.guarantees_bind (StaysWith.blockSpec deployment
        (staysWith_finishRemoval deployment endpoint userId removed))
        (fun _ => trivial)

theorem blockSpec_pingConnections (pings : Pings) (userId : UserId)
    (connections : List Connection) :
    (pingConnections deployment endpoint pings userId
      connections).Guarantees (Label.BlockSpec deployment) := by
  induction connections with
  | nil => trivial
  | cons connection connections ih =>
      rw [pingConnections]
      split
      · exact ih
      · refine Async.guarantees_bind (blockSpec_awaitAnswers deployment _)
          (fun _ => ?_)
        split
        · refine Async.guarantees_bind (blockSpec_onClose deployment endpoint
            connection.socket) (fun _ => ?_)
          exact Async.guarantees_bind (blockSpec_removeUserSession deployment
            endpoint connection.socket userId _) (fun _ => ih)
        · exact ih

theorem blockSpec_nodeQuery {A : Type} (query : ActiveSessions → A) :
    (nodeBlock .lookup endpoint (fun active =>
      (query active, active))).Guarantees (Label.BlockSpec deployment) :=
  Async.guarantees_atomic (fun cluster =>
    congrArg Cluster.node (setNode_self endpoint cluster))

theorem blockSpec_watchdogPingSocket (pings : Pings) :
    (watchdogPingSocket deployment endpoint pings).Guarantees
      (Label.BlockSpec deployment) := by
  refine Async.guarantees_bind (blockSpec_nodeQuery deployment endpoint _)
    (fun users => ?_)
  induction users with
  | nil => trivial
  | cons userId users ih =>
      refine Async.guarantees_bind (blockSpec_nodeQuery deployment endpoint
        _) (fun connections => ?_)
      exact Async.guarantees_bind (blockSpec_pingConnections deployment
        endpoint pings userId connections) (fun _ => ih)

theorem blockSpec_program (task : NodeTask) :
    (task.program deployment).Guarantees (Label.BlockSpec deployment) := by
  cases task with
  | connect endpoint socket userId deviceId =>
      exact blockSpec_connectDevice deployment endpoint socket userId
        deviceId
  | close endpoint socket =>
      exact blockSpec_onClose deployment endpoint socket
  | watchdog endpoint pings =>
      exact blockSpec_watchdogPingSocket deployment endpoint pings
  | http endpoint response organizationId userId readAwaits handlerAwaits =>
      exact blockSpec_httpRequest deployment endpoint response
        organizationId userId readAwaits handlerAwaits

end SessionService

namespace ActiveSessions

variable {active : ActiveSessions}

/-- A removal with an explicit device takes only connections of its own socket
exactly when no other socket holds the device. -/
theorem removeConnection_explicit_iff (socket : Socket) (userId : UserId)
    (deviceId : DeviceId) :
    (∀ other, ∀ connection ∈ active.getUserDevices other,
      connection.socket ≠ socket →
      connection ∈ (active.removeConnection socket userId
        (some deviceId)).2.getUserDevices other) ↔
      ∀ connection ∈ active.getUserDevices userId,
        connection.deviceId = deviceId → connection.socket = socket := by
  constructor
  · intro hkeeps connection hmem hdevice
    by_contra hsocket
    have hkept := hkeeps userId connection hmem hsocket
    rw [getUserDevices_removeConnection, if_pos rfl, List.mem_filter,
      decide_eq_true_iff, Option.some_or] at hkept
    exact hkept.2 (congrArg some hdevice)
  · intro hown other connection hmem hsocket
    rw [getUserDevices_removeConnection]
    split
    · next hother =>
        subst hother
        rw [List.mem_filter, decide_eq_true_iff, Option.some_or]
        exact ⟨hmem, fun heq => hsocket (hown connection hmem
          (Option.some.inj heq))⟩
    · exact hmem

theorem removeConnection_implicit_keeps (hdistinct : active.Distinct)
    (socket : Socket) (userId other : UserId) {connection : Connection}
    (hmem : connection ∈ active.getUserDevices other)
    (hsocket : connection.socket ≠ socket) :
    connection ∈ (active.removeConnection socket userId
      none).2.getUserDevices other := by
  by_cases hother : other = userId
  · subst hother
    exact (mem_removeConnection_implicit hdistinct socket other
      connection).2 ⟨hmem, hsocket⟩
  · rw [getUserDevices_removeConnection, if_neg hother]
    exact hmem

end ActiveSessions

namespace Label

variable {deployment : Deployment} {label : Label} {before after : Cluster}

/-- One step keeps all connection lists distinct. -/
theorem distinct_of_blockSpec (hdistinct : before.Distinct)
    (hspec : label.BlockSpec deployment before after) : after.Distinct := by
  have hset : ∀ endpoint active, active.Distinct →
      after.node = (before.setNode endpoint active).node →
      after.Distinct := by
    intro endpoint active hactive hnode other
    rw [hnode, Cluster.node_setNode]
    split
    · exact hactive
    · exact hdistinct other
  have hsame : after.node = before.node → after.Distinct := by
    intro hnode other
    rw [hnode]
    exact hdistinct other
  cases label with
  | connected endpoint socket userId deviceId =>
      obtain ⟨active, hactive, hnode⟩ := hspec
      refine hset endpoint active ?_ hnode
      rcases hactive with rfl | ⟨organizationId, rfl⟩
      · exact ActiveSessions.distinct_attach (hdistinct endpoint) deployment
          endpoint socket userId deviceId
      · exact ActiveSessions.distinct_addUserDeviceConnection
          (hdistinct endpoint) socket organizationId userId deviceId
  | closed endpoint socket =>
      exact hset endpoint _ (ActiveSessions.distinct_closeConnection
        (hdistinct endpoint) socket) hspec
  | removed endpoint socket userId deviceId =>
      exact hset endpoint _ (ActiveSessions.distinct_removeConnection
        (hdistinct endpoint) socket userId deviceId) hspec
  | unbound endpoint socket =>
      refine hset endpoint _ ?_ hspec
      unfold ActiveSessions.unbindConnection
      split
      · exact hdistinct endpoint
      · exact ActiveSessions.distinct_removeConnection (hdistinct endpoint)
          socket _ _
  | deleted => exact hspec.elim
  | marked => exact hspec.elim
  | _ => exact hsame hspec

/-- What a removal does on its own node decides the matter. -/
theorem removesOnlyOwn_iff {endpoint : Endpoint} {socket : Socket}
    {active : ActiveSessions}
    (hlabel : label.removesFor = some (endpoint, socket))
    (hnode : after.node = (before.setNode endpoint active).node) :
    label.RemovesOnlyOwn before after ↔
      ∀ userId, ∀ connection ∈
        (before.node endpoint).getUserDevices userId,
        connection.socket ≠ socket →
        connection ∈ active.getUserDevices userId := by
  constructor
  · intro hown userId connection hmem hsocket
    have hkept := hown endpoint socket hlabel endpoint userId connection hmem
      hsocket
    rw [hnode, Cluster.node_setNode, if_pos rfl] at hkept
    exact hkept
  · intro hkeeps other otherSocket hother node userId connection hmem hsocket
    rw [hlabel, Option.some.injEq] at hother
    obtain ⟨rfl, rfl⟩ := Prod.mk.inj hother
    rw [hnode, Cluster.node_setNode]
    split
    · next hendpoint =>
        subst hendpoint
        exact hkeeps userId connection hmem hsocket
    · exact hmem

/-- One step removes only connections of the socket it acts for exactly when
the device it is explicitly given has not been taken over. -/
theorem removesOnlyOwn_iff_notTakenOver (hdistinct : before.Distinct)
    (hspec : label.BlockSpec deployment before after) :
    label.RemovesOnlyOwn before after ↔ label.NotTakenOver before := by
  have hidle : label.removesFor = none →
      label.RemovesOnlyOwn before after := by
    intro hnone endpoint socket hsome
    rw [hnone] at hsome
    cases hsome
  cases label with
  | closed endpoint socket =>
      rw [removesOnlyOwn_iff rfl hspec]
      refine iff_of_true ?_ trivial
      intro userId connection hmem hsocket
      exact ActiveSessions.mem_closeConnection_of_ne (hdistinct endpoint)
        hmem hsocket
  | removed endpoint socket userId deviceId =>
      rw [removesOnlyOwn_iff rfl hspec]
      cases deviceId with
      | none =>
          refine iff_of_true ?_ trivial
          intro other connection hmem hsocket
          exact ActiveSessions.removeConnection_implicit_keeps
            (hdistinct endpoint) socket userId other hmem hsocket
      | some deviceId =>
          exact ActiveSessions.removeConnection_explicit_iff socket userId
            deviceId
  | unbound endpoint socket =>
      rw [removesOnlyOwn_iff rfl hspec]
      simp only [ActiveSessions.unbindConnection, NotTakenOver]
      cases (before.node endpoint).getSession socket with
      | none =>
          exact iff_of_true (fun _ _ hmem _ => hmem)
            (fun _ hsession => by cases hsession)
      | some session =>
          simp only [Option.some.injEq, forall_eq']
          exact ActiveSessions.removeConnection_explicit_iff socket
            session.userId httpDeviceId
  | _ => exact iff_of_true (hidle rfl) trivial

end Label

/-- The property of a move: if it is a removal on behalf of a socket, it
leaves the connections of every other socket in place. -/
def MoveRemovesOnlyOwn (system : System NodeTask Label Cluster) :
    Event NodeTask Label Cluster → Prop
  | .spawn _ => True
  | .tick index => ∀ label, system.nextLabel? index = some label →
      label.RemovesOnlyOwn system.state (system.tick index).state

/-- The condition on a move: if it is a removal with an explicit device, no
other socket holds the device. -/
def MoveNotTakenOver (system : System NodeTask Label Cluster) :
    Event NodeTask Label Cluster → Prop
  | .spawn _ => True
  | .tick index => ∀ label, system.nextLabel? index = some label →
      label.NotTakenOver system.state

/-- The invariant of the runs: distinct connection lists, and programs that do
what their labels say. -/
structure NodeInvariant (deployment : Deployment)
    (system : System NodeTask Label Cluster) : Prop where
  distinct : system.state.Distinct
  tasks : ∀ task ∈ system.tasks,
    task.body.Guarantees (Label.BlockSpec deployment)

theorem nodeInvariant_start (deployment : Deployment) :
    NodeInvariant deployment (System.start .empty) :=
  ⟨fun _ => ActiveSessions.distinct_empty, fun _ htask => by cases htask⟩

theorem nodeInvariant_exec {deployment : Deployment}
    {system : System NodeTask Label Cluster}
    (hinvariant : NodeInvariant deployment system) (move : Move) :
    NodeInvariant deployment (system.exec (move.event deployment)) := by
  cases move with
  | start task =>
      refine ⟨hinvariant.distinct, fun started hstarted => ?_⟩
      rcases List.mem_append.1 hstarted with hold | hnew
      · exact hinvariant.tasks started hold
      · rw [List.mem_singleton.1 hnew]
        exact SessionService.blockSpec_program deployment task
  | tick index =>
      change NodeInvariant deployment (system.tick index)
      cases hlabel : system.nextLabel? index with
      | none =>
          rw [System.tick_of_nextLabel?_none hlabel]
          exact hinvariant
      | some label =>
          obtain ⟨hspec, htasks⟩ := System.tick_guarantees hlabel
            hinvariant.tasks
          exact ⟨Label.distinct_of_blockSpec hinvariant.distinct hspec,
            htasks⟩

/-- In every interleaving, all removals take away only connections of the
socket they act for, if and only if no removal that is given its device
explicitly comes after another socket has taken the device over. -/
theorem along_removesOnlyOwn_iff (deployment : Deployment)
    (moves : List Move) :
    System.Along MoveRemovesOnlyOwn (System.start .empty)
        (moves.map (Move.event deployment)) ↔
      System.Along MoveNotTakenOver (System.start .empty)
        (moves.map (Move.event deployment)) := by
  have hmoves : System.Along
      (fun _ event => ∃ move, event = Move.event deployment move)
      (System.start .empty) (moves.map (Move.event deployment)) := by
    refine System.along_of_forall (fun event hevent _ => ?_) _
    obtain ⟨move, -, hmove⟩ := List.mem_map.1 hevent
    exact ⟨move, hmove.symm⟩
  refine System.along_congr (I := NodeInvariant deployment) ?_ ?_
    (nodeInvariant_start deployment) hmoves
  · rintro system event hinvariant ⟨move, rfl⟩
    exact nodeInvariant_exec hinvariant move
  · rintro system event hinvariant ⟨move, rfl⟩
    cases move with
    | start task => exact Iff.rfl
    | tick index =>
        refine forall_congr' (fun label => ?_)
        refine forall_congr' (fun hlabel => ?_)
        exact Label.removesOnlyOwn_iff_notTakenOver hinvariant.distinct
          (System.tick_guarantees hlabel hinvariant.tasks).1

section TakenOver

open Sample

/-- The watchdog finds socket 1 dead and closes it; before it goes on to
remove the connection, the device reconnects on socket 2. -/
def reconnectDuringWatchdog : List Move :=
  [.start (.connect nodeA 1 alice phone), .tick 0,
    .start (.watchdog nodeA ⟨fun _ => false, fun _ _ => true⟩),
    .tick 1, .tick 1, .tick 1, .tick 1,
    .start (.connect nodeA 2 alice phone), .tick 2, .tick 1]

/-- Two HTTP requests of one user overlap, and the first one ends. -/
def overlappingHttpRequests : List Move :=
  [.start (.http nodeA 1 organization alice 0 0), .tick 0,
    .start (.http nodeA 2 organization alice 0 0), .tick 1, .tick 0]

/-- In both runs the last move removes the connection of socket 2 on behalf of
socket 1. -/
theorem removal_takes_other_connection :
    ¬ System.Along MoveRemovesOnlyOwn (System.start .empty)
        (reconnectDuringWatchdog.map
          (Move.event ⟨true, fun _ => organization⟩)) ∧
      ¬ System.Along MoveRemovesOnlyOwn (System.start .empty)
        (overlappingHttpRequests.map
          (Move.event ⟨true, fun _ => organization⟩)) := by
  constructor
  · intro hown
    have hlast := hown.2.2.2.2.2.2.2.2.2.1
      (.removed nodeA 1 alice (some phone)) (by decide)
      nodeA 1 rfl nodeA alice ⟨2, phone, organization⟩ (by decide)
      (by decide)
    exact absurd hlast (by decide)
  · intro hown
    have hlast := hown.2.2.2.2.1 (.unbound nodeA 1) (by decide)
      nodeA 1 rfl nodeA alice ⟨2, httpDeviceId, organization⟩ (by decide)
      (by decide)
    exact absurd hlast (by decide)

end TakenOver

end SamaServer
