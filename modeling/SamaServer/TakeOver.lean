/-
A device moves from node to node.  Connects and closes of all nodes interleave
at their suspensions over one Redis.  Under a condition on the moves of the
scheduler, the registration of the latest connect of a device survives until
its socket closes.
-/
import SamaServer.HeldRegistration

namespace SamaServer

inductive DeviceTask
  | connect (endpoint : Endpoint) (socket : Socket) (userId : UserId)
      (deviceId : DeviceId)
  | close (endpoint : Endpoint) (socket : Socket)

namespace DeviceTask

def program (deployment : Deployment) : DeviceTask → Service Unit
  | .connect endpoint socket userId deviceId =>
      SessionService.connectDevice deployment endpoint socket userId deviceId
  | .close endpoint socket =>
      SessionService.onClose deployment endpoint socket

/-- The task is a connect of the device. -/
def Connects (task : DeviceTask) (userId : UserId) (deviceId : DeviceId) :
    Prop :=
  ∃ endpoint socket, task = .connect endpoint socket userId deviceId

end DeviceTask

inductive DeviceMove
  | start (task : DeviceTask)
  | tick (index : Nat)

def DeviceMove.event (deployment : Deployment) :
    DeviceMove → Event DeviceTask Label Cluster
  | .start task => .spawn ⟨task, task.program deployment⟩
  | .tick index => .tick index

abbrev DeviceSystem := System DeviceTask Label Cluster

/-- The system after the moves, from empty stores. -/
def runDevices (deployment : Deployment) (moves : List DeviceMove) :
    DeviceSystem :=
  System.run (System.start .empty) (moves.map (DeviceMove.event deployment))

/-- The task, node and socket of a connect of the device. -/
def connectOf (userId : UserId) (deviceId : DeviceId) :
    Nat × Label → Option (Nat × Endpoint × Socket)
  | (index, .connected endpoint socket user device) =>
      if (user, device) = (userId, deviceId) then
        some (index, endpoint, socket)
      else none
  | _ => none

/-- The last connect of the device in a trace. -/
def latestConnect (trace : List (Nat × Label)) (userId : UserId)
    (deviceId : DeviceId) : Option (Nat × Endpoint × Socket) :=
  trace.reverse.findSome? (connectOf userId deviceId)

/-- No other connect of the device is unfinished, and no other program is
about to remove the device's keys or to decide on it with what it has read. -/
def Undisturbed (system : DeviceSystem) (index : Nat) (userId : UserId)
    (deviceId : DeviceId) : Prop :=
  ∀ other task, other ≠ index → system.tasks[other]? = some task →
    ∀ label, task.body.head? = some label →
      ¬ label.Endangers userId deviceId ∧
        (task.tag.Connects userId deviceId →
          ∀ taken, (other, taken) ∉ system.trace)

/-- The condition on one step: a connect is made on a socket that has no
connection of the user, a close does not come while the device is registered
on another node that has it connected, and the latest connect of a device
stores its registration undisturbed. -/
def StepUndisturbed (system : DeviceSystem) (index : Nat) : Label → Prop
  | .connected endpoint socket userId _ =>
      (system.state.node endpoint).getDeviceId socket userId = none
  | .closed endpoint socket => ∀ session deviceId registered,
      (system.state.node endpoint).getSession socket = some session →
      (system.state.node endpoint).getDeviceId socket session.userId =
        some deviceId →
      (system.state.redis.retrieveUserExtraParams session.userId
        deviceId).nodeEndpoint = some registered →
      registered ≠ endpoint →
      ∀ connection ∈ (system.state.node registered).getUserDevices
        session.userId, connection.deviceId ≠ deviceId
  | .stored _ userId deviceId => ∀ endpoint socket,
      latestConnect system.trace userId deviceId =
        some (index, endpoint, socket) →
      Undisturbed system index userId deviceId
  | _ => True

def MoveUndisturbed (system : DeviceSystem) :
    Event DeviceTask Label Cluster → Prop
  | .spawn _ => True
  | .tick index => ∀ label, system.nextLabel? index = some label →
      StepUndisturbed system index label

theorem moveUndisturbed_tick {system : DeviceSystem} {index : Nat}
    (label : Label) (hlabel : system.nextLabel? index = some label)
    (hstep : StepUndisturbed system index label) :
    MoveUndisturbed system (.tick index) := by
  intro other hother
  rw [hlabel, Option.some.injEq] at hother
  rw [← hother]
  exact hstep

section Trace

variable {trace : List (Nat × Label)} {userId : UserId}
  {deviceId : DeviceId}

theorem latestConnect_concat (entry : Nat × Label) :
    latestConnect (trace ++ [entry]) userId deviceId =
      (connectOf userId deviceId entry).or
        (latestConnect trace userId deviceId) := by
  rw [latestConnect, List.reverse_append, List.reverse_singleton,
    List.singleton_append, List.findSome?_cons]
  cases connectOf userId deviceId entry <;> rfl

theorem connectOf_eq_some {entry : Nat × Label} {index : Nat}
    {endpoint : Endpoint} {socket : Socket}
    (hentry : connectOf userId deviceId entry =
      some (index, endpoint, socket)) :
    entry = (index, .connected endpoint socket userId deviceId) := by
  obtain ⟨number, label⟩ := entry
  cases label with
  | connected node socket' user device =>
      simp only [connectOf] at hentry
      split at hentry
      · next heq =>
          obtain ⟨rfl, rfl⟩ := Prod.mk.inj heq
          cases hentry
          rfl
      · cases hentry
  | _ => cases hentry

theorem mem_of_latestConnect {index : Nat} {endpoint : Endpoint}
    {socket : Socket}
    (hlatest : latestConnect trace userId deviceId =
      some (index, endpoint, socket)) :
    (index, .connected endpoint socket userId deviceId) ∈ trace := by
  obtain ⟨entry, hmem, hentry⟩ := List.exists_of_findSome?_eq_some hlatest
  rw [← connectOf_eq_some hentry]
  exact List.mem_reverse.1 hmem

theorem connectOf_of_not_block {index : Nat} {label : Label}
    (hlabel : label.isBlock = false) :
    connectOf userId deviceId (index, label) = none := by
  cases label with
  | connected => cases hlabel
  | _ => rfl

end Trace

section Invariant

variable (deployment : Deployment)

/-- A program that has not taken its first step. -/
def AtStart (system : DeviceSystem) (index : Nat)
    (task : Task DeviceTask Label Cluster) : Prop :=
  task.body = task.tag.program deployment ∧
    ∀ label, (index, label) ∉ system.trace

/-- A program past its first step: it is about Redis only, and unless it is a
connect of the device itself it leaves every held registration alone from any
safe point on. -/
structure UnderWay (system : DeviceSystem) (index : Nat)
    (task : Task DeviceTask Label Cluster) : Prop where
  started : ∃ label, (index, label) ∈ system.trace
  stays : ∃ owner, StaysWith owner task.body
  outside : ∀ endpoint socket userId deviceId,
    task.tag.Connects userId deviceId ∨
      task.body.KeepsOutside (Label.Endangers userId deviceId)
        (Held deployment endpoint socket userId deviceId)

/-- The step that registers the device. -/
def Stores (endpoint : Endpoint) (userId : UserId) (deviceId : DeviceId)
    (label : Label) (effect : Cluster → Cluster) : Prop :=
  label = .stored endpoint userId deviceId ∧
    ∀ cluster, effect cluster = cluster.setRedis
      (cluster.redis.addUserDeviceDataTransaction endpoint
        (deployment.organizationOf userId) userId deviceId)

/-- The registration is stored and nothing under way will touch it. -/
structure Secured (system : DeviceSystem) (endpoint : Endpoint)
    (socket : Socket) (userId : UserId) (deviceId : DeviceId) : Prop where
  registered : system.state.redis.RegisteredAt endpoint
    (deployment.organizationOf userId) userId deviceId
  tasks : ∀ index task, system.tasks[index]? = some task →
    AtStart deployment system index task ∨
      task.body.Keeps (Held deployment endpoint socket userId deviceId)

/-- Where the latest connect of a device on an open socket stands. -/
structure Upheld (system : DeviceSystem) (index : Nat) (endpoint : Endpoint)
    (socket : Socket) (userId : UserId) (deviceId : DeviceId) : Prop where
  connected : (system.state.node endpoint).Holds socket userId deviceId
  stored : (∃ task, system.tasks[index]? = some task ∧
      task.body.EndsWith (Stores deployment endpoint userId deviceId)) ∨
    Secured deployment system endpoint socket userId deviceId

structure DeviceInvariant (system : DeviceSystem) : Prop where
  distinct : system.state.Distinct
  indices : ∀ entry ∈ system.trace, entry.1 < system.tasks.length
  tasks : ∀ index task, system.tasks[index]? = some task →
    AtStart deployment system index task ∨
      UnderWay deployment system index task
  latest : ∀ userId deviceId index endpoint socket,
    latestConnect system.trace userId deviceId =
      some (index, endpoint, socket) →
    (∀ other, (other, .closed endpoint socket) ∉ system.trace) →
    Upheld deployment system index endpoint socket userId deviceId

theorem deviceInvariant_start :
    DeviceInvariant deployment (System.start .empty) where
  distinct := fun _ => ActiveSessions.distinct_empty
  indices := fun entry hentry => by cases hentry
  tasks := fun index task htask => by
    simp [System.start] at htask
  latest := fun userId deviceId index endpoint socket hlatest => by
    cases hlatest

end Invariant

namespace ActiveSessions

variable {active : ActiveSessions} (deployment : Deployment)
  (endpoint : Endpoint) (socket : Socket) (userId : UserId)
  (deviceId : DeviceId)

theorem holds_attach :
    (active.attach deployment endpoint socket userId deviceId).Holds socket
      userId deviceId := by
  refine ⟨⟨socket, deviceId, deployment.organizationOf userId⟩, ?_, rfl, rfl⟩
  rw [getUserDevices_attach, if_pos rfl]
  simp

/-- A socket that is new to the user takes over the device of the same name
and nothing else. -/
theorem Holds.attach_of_ne {otherSocket : Socket} {otherUser : UserId}
    {otherDevice : DeviceId} (hdistinct : active.Distinct)
    (hnew : active.getDeviceId socket userId = none)
    (hother : (otherUser, otherDevice) ≠ (userId, deviceId))
    (hholds : active.Holds otherSocket otherUser otherDevice) :
    (active.attach deployment endpoint socket userId deviceId).Holds
      otherSocket otherUser otherDevice := by
  obtain ⟨connection, hmem, hsocket, hdevice⟩ := hholds
  refine ⟨connection, ?_, hsocket, hdevice⟩
  rw [getUserDevices_attach]
  split
  · next huser =>
      subst huser
      have hforeign : connection.socket ≠ socket :=
        (getDeviceId_eq_none_iff active socket otherUser).1 hnew connection
          hmem
      have hdifferent : connection.deviceId ≠ deviceId := by
        rintro rfl
        exact hother (by rw [hdevice])
      rw [List.mem_append]
      exact .inl ((mem_otherDeviceConnections (hdistinct otherUser) socket
        deviceId connection).2 ⟨hmem, hforeign, hdifferent⟩)
  · exact hmem

end ActiveSessions

namespace SessionService

variable (deployment : Deployment) (endpoint : Endpoint) (socket : Socket)

/-- The first step of a connect is its block on the node. -/
theorem connectDevice_eq_step (userId : UserId) (deviceId : DeviceId) :
    connectDevice deployment endpoint socket userId deviceId =
      .step (.connected endpoint socket userId deviceId)
        (fun cluster => cluster.setNode endpoint ((cluster.node
          endpoint).attach deployment endpoint socket userId deviceId))
        (fun cluster => do
          storeUserNodeData deployment endpoint
            (deployment.organizationOf userId) userId deviceId
          match (((cluster.node endpoint).addUserDeviceConnection socket
            (deployment.organizationOf userId) userId
            deviceId).1).sameSocketConnection with
          | none => pure ()
          | some connection => do
              let _ ← removeAllUserDeviceData deployment endpoint
                (deployment.organizationOf userId) userId
                connection.deviceId
              pure ()) := rfl

/-- A close after its block on the node. -/
def closeRest
    (closing : Option (Session × ActiveSessions.RemovedConnection)) :
    Service Unit :=
  match closing with
  | none => pure ()
  | some (session, removed) => do
      let isWasLastUserSession ← finishRemoval deployment endpoint
        session.userId removed
      if isWasLastUserSession then awaitAnswer () else pure ()

theorem onClose_eq_step :
    onClose deployment endpoint socket =
      .step (.closed endpoint socket)
        (fun cluster => cluster.setNode endpoint
          ((cluster.node endpoint).closeConnection socket).2)
        (fun cluster => closeRest deployment endpoint
          ((cluster.node endpoint).closeConnection socket).1) := rfl

/-- What holds of every step of the removal and of a step that only waits. -/
theorem guarantees_closeRest {G : Label → Cluster → Cluster → Prop}
    {closing : Option (Session × ActiveSessions.RemovedConnection)}
    (hremoval : ∀ session removed, closing = some (session, removed) →
      (finishRemoval deployment endpoint session.userId
        removed).Guarantees G)
    (hwait : ∀ cluster, G .lookup cluster cluster) :
    (closeRest deployment endpoint closing).Guarantees G := by
  rcases closing with _ | ⟨session, removed⟩
  · trivial
  · apply Async.guarantees_bind (hremoval session removed rfl)
    intro isLast
    cases isLast with
    | true => exact Async.guarantees_atomic hwait
    | false => trivial

/-- Whatever it reads, `storeUserNodeData` ends by storing. -/
theorem endsWith_storeUserNodeData
    (hcluster : deployment.isStandAloneNode = false) (userId : UserId)
    (deviceId : DeviceId) :
    (storeUserNodeData deployment endpoint
      (deployment.organizationOf userId) userId deviceId).EndsWith
        (Stores deployment endpoint userId deviceId) := by
  have hstore : (redisUpdate (.stored endpoint userId deviceId)
      (fun redis => redis.addUserDeviceDataTransaction endpoint
        (deployment.organizationOf userId) userId deviceId)).EndsWith
        (Stores deployment endpoint userId deviceId) :=
    .inl ⟨⟨rfl, fun _ => rfl⟩, fun _ => ⟨(), rfl⟩⟩
  simp only [storeUserNodeData, hcluster, Bool.false_eq_true, if_false]
  apply Async.endsWith_bind
  intro userDeviceIds
  split
  · exact Async.endsWith_bind (fun _ => hstore)
  · exact hstore

end SessionService

section Steps

variable {deployment : Deployment} {system after : DeviceSystem}
  {index : Nat} {label : Label} {moved : Task DeviceTask Label Cluster}

/-- One task has taken a step; what the step did to the stores is left
open. -/
structure Advances (system after : DeviceSystem) (index : Nat) (label : Label)
    (moved : Task DeviceTask Label Cluster) : Prop where
  tasks : after.tasks = system.tasks.set index moved
  trace : after.trace = system.trace ++ [(index, label)]

theorem Advances.mem_trace (hadvance : Advances system after index label moved)
    {entry : Nat × Label} :
    entry ∈ after.trace ↔ entry ∈ system.trace ∨ entry = (index, label) := by
  rw [hadvance.trace, List.mem_append, List.mem_singleton]

theorem Advances.task_cases
    (hadvance : Advances system after index label moved) {other : Nat}
    {task : Task DeviceTask Label Cluster}
    (htask : after.tasks[other]? = some task) :
    (other = index ∧ task = moved) ∨
      (other ≠ index ∧ system.tasks[other]? = some task) := by
  rw [hadvance.tasks] at htask
  exact System.getElem?_set_cases htask

theorem Advances.task_of_ne
    (hadvance : Advances system after index label moved) {other : Nat}
    {task : Task DeviceTask Label Cluster} (hother : other ≠ index)
    (htask : system.tasks[other]? = some task) :
    after.tasks[other]? = some task := by
  rw [hadvance.tasks, List.getElem?_set_ne (Ne.symm hother)]
  exact htask

theorem Advances.atStart (hadvance : Advances system after index label moved)
    {other : Nat} (hother : other ≠ index)
    {task : Task DeviceTask Label Cluster}
    (hstart : AtStart deployment system other task) :
    AtStart deployment after other task := by
  refine ⟨hstart.1, fun taken htaken => ?_⟩
  rcases hadvance.mem_trace.1 htaken with hold | heq
  · exact hstart.2 taken hold
  · exact hother (Prod.mk.inj heq).1

theorem Advances.underWay (hadvance : Advances system after index label moved)
    {other : Nat} {task : Task DeviceTask Label Cluster}
    (hunder : UnderWay deployment system other task) :
    UnderWay deployment after other task := by
  obtain ⟨taken, htaken⟩ := hunder.started
  exact ⟨⟨taken, hadvance.mem_trace.2 (.inl htaken)⟩, hunder.stays,
    hunder.outside⟩

theorem Advances.not_closed
    (hadvance : Advances system after index label moved)
    {endpoint : Endpoint} {socket : Socket}
    (hopen : ∀ other, (other, .closed endpoint socket) ∉ after.trace) :
    (∀ other, (other, .closed endpoint socket) ∉ system.trace) ∧
      label ≠ .closed endpoint socket := by
  refine ⟨fun other hold => hopen other (hadvance.mem_trace.2 (.inl hold)),
    ?_⟩
  rintro rfl
  exact hopen index (hadvance.mem_trace.2 (.inr rfl))

/-- The parts of the invariant that every step keeps. -/
theorem Advances.indices (hadvance : Advances system after index label moved)
    (hfound : ∃ task, system.tasks[index]? = some task)
    (hindices : ∀ entry ∈ system.trace, entry.1 < system.tasks.length) :
    ∀ entry ∈ after.trace, entry.1 < after.tasks.length := by
  intro entry hentry
  rw [hadvance.tasks, List.length_set]
  rcases hadvance.mem_trace.1 hentry with hold | rfl
  · exact hindices entry hold
  · obtain ⟨task, htask⟩ := hfound
    exact (List.getElem?_eq_some_iff.1 htask).1

theorem Advances.all_tasks
    (hadvance : Advances system after index label moved)
    (htasks : ∀ index task, system.tasks[index]? = some task →
      AtStart deployment system index task ∨
        UnderWay deployment system index task)
    (hmoved : UnderWay deployment after index moved) :
    ∀ index task, after.tasks[index]? = some task →
      AtStart deployment after index task ∨
        UnderWay deployment after index task := by
  intro other task htask
  rcases hadvance.task_cases htask with ⟨rfl, rfl⟩ | ⟨hother, hold⟩
  · exact .inr hmoved
  · rcases htasks other task hold with hstart | hunder
    · exact .inl (hadvance.atStart hother hstart)
    · exact .inr (hadvance.underWay hunder)

variable {latest : Nat} {endpoint : Endpoint} {socket : Socket}
  {userId : UserId} {deviceId : DeviceId}

/-- A first step of another task, which leaves Redis alone. -/
theorem Upheld.block_of_other
    (hadvance : Advances system after index label moved)
    (hupheld : Upheld deployment system latest endpoint socket userId
      deviceId)
    (hother : latest ≠ index)
    (hredis : after.state.redis = system.state.redis)
    (hholds : (after.state.node endpoint).Holds socket userId deviceId)
    (hkeeps : Held deployment endpoint socket userId deviceId system.state →
      moved.body.Keeps (Held deployment endpoint socket userId deviceId)) :
    Upheld deployment after latest endpoint socket userId deviceId := by
  refine ⟨hholds, ?_⟩
  rcases hupheld.stored with ⟨task, htask, hends⟩ | hsecured
  · exact .inl ⟨task, hadvance.task_of_ne hother htask, hends⟩
  · refine .inr ⟨by rw [hredis]; exact hsecured.registered, ?_⟩
    intro other task htask
    rcases hadvance.task_cases htask with ⟨rfl, rfl⟩ | ⟨hne, hold⟩
    · exact .inr (hkeeps ⟨hsecured.registered, hupheld.connected⟩)
    · rcases hsecured.tasks other task hold with hstart | hkept
      · exact .inl (hadvance.atStart hne hstart)
      · exact .inr hkept

/-- Storing the registration secures it, when nothing disturbs it. -/
theorem secured_of_stored
    (hadvance : Advances system after index label moved)
    (htasks : ∀ index task, system.tasks[index]? = some task →
      AtStart deployment system index task ∨
        UnderWay deployment system index task)
    (hundisturbed : Undisturbed system index userId deviceId)
    (hregistered : after.state.redis.RegisteredAt endpoint
      (deployment.organizationOf userId) userId deviceId)
    (hdone : ∃ result, moved.body = .done result) :
    Secured deployment after endpoint socket userId deviceId := by
  refine ⟨hregistered, fun other task htask => ?_⟩
  rcases hadvance.task_cases htask with ⟨rfl, rfl⟩ | ⟨hother, hold⟩
  · obtain ⟨result, hresult⟩ := hdone
    rw [hresult]
    exact .inr trivial
  · rcases htasks other task hold with hstart | hunder
    · exact .inl (hadvance.atStart hother hstart)
    · have hhead := hundisturbed other task hother hold
      refine .inr ?_
      rcases hunder.outside endpoint socket userId deviceId with
        hconnects | houtside
      · -- a started connect of the device has no step left
        obtain ⟨taken, htaken⟩ := hunder.started
        cases hbody : task.body with
        | done result => trivial
        | step next effect rest =>
            rw [hbody] at hhead
            exact absurd htaken ((hhead next rfl).2 hconnects taken)
      · exact houtside.keeps (fun next hnext => (hhead next hnext).1)

/-- A later step of some task: the tables stay, and the registration is
stored, kept, or still to be stored. -/
theorem Upheld.underWay
    (hinvariant : DeviceInvariant deployment system) {tag : DeviceTask}
    {effect : Cluster → Cluster} {next : Cluster → Service Unit}
    (hfound : system.tasks[index]? = some ⟨tag, .step label effect next⟩)
    (hadvance : Advances system after index label
      ⟨tag, next system.state⟩)
    (hstate : after.state = effect system.state)
    (hstarted : ∃ taken, (index, taken) ∈ system.trace)
    (hnode : after.state.node = system.state.node)
    (hlatest : latestConnect system.trace userId deviceId =
      some (latest, endpoint, socket))
    (hcondition : MoveUndisturbed system (.tick index))
    (hupheld : Upheld deployment system latest endpoint socket userId
      deviceId) :
    Upheld deployment after latest endpoint socket userId deviceId := by
  refine ⟨by rw [hnode]; exact hupheld.connected, ?_⟩
  rcases hupheld.stored with ⟨task, htask, hends⟩ | hsecured
  · by_cases hindex : latest = index
    · subst hindex
      rw [hfound, Option.some.injEq] at htask
      subst htask
      rcases hends with ⟨⟨hlabel, heffect⟩, hdone⟩ | hlater
      · have hnext : system.nextLabel? latest = some label := by
          rw [System.nextLabel?, hfound]
          rfl
        have hundisturbed : Undisturbed system latest userId deviceId := by
          have hmove := hcondition label hnext
          rw [hlabel] at hmove
          exact hmove endpoint socket hlatest
        refine .inr (secured_of_stored hadvance hinvariant.tasks hundisturbed
          ?_ (hdone system.state))
        rw [hstate, heffect]
        exact Redis.registeredAt_addUserDeviceDataTransaction ..
      · refine .inl ⟨⟨tag, next system.state⟩, ?_, hlater system.state⟩
        rw [hadvance.tasks, List.getElem?_set_self
          (List.getElem?_eq_some_iff.1 hfound).1]
    · exact .inl ⟨task, hadvance.task_of_ne hindex htask, hends⟩
  · have hheld : Held deployment endpoint socket userId deviceId
        system.state := ⟨hsecured.registered, hupheld.connected⟩
    have hkeeps := (hsecured.tasks index _ hfound).resolve_left (fun hstart =>
      hstarted.elim (fun taken htaken => hstart.2 taken htaken))
    obtain ⟨hafter, hrest⟩ := hkeeps system.state hheld
    refine .inr ⟨by rw [hstate]; exact hafter.registered, ?_⟩
    intro other task htask
    rcases hadvance.task_cases htask with ⟨rfl, rfl⟩ | ⟨hother, hold⟩
    · exact .inr hrest
    · rcases hsecured.tasks other task hold with hstart | hkept
      · exact .inl (hadvance.atStart hother hstart)
      · exact .inr hkept

end Steps

section Preservation

variable {deployment : Deployment} {system : DeviceSystem}

theorem deviceInvariant_spawn (task : DeviceTask)
    (hinvariant : DeviceInvariant deployment system) :
    DeviceInvariant deployment
      (system.spawn ⟨task, task.program deployment⟩) where
  distinct := hinvariant.distinct
  indices := fun entry hentry => by
    have hold := hinvariant.indices entry hentry
    simp only [System.spawn, List.length_append, List.length_singleton]
    omega
  tasks := fun index started hstarted => by
    rcases System.getElem?_spawn_cases hstarted with hold | ⟨rfl, rfl⟩
    · rcases hinvariant.tasks index started hold with hstart | hunder
      · exact .inl hstart
      · exact .inr ⟨hunder.started, hunder.stays, hunder.outside⟩
    · refine .inl ⟨rfl, fun label hlabel => ?_⟩
      have hlength := hinvariant.indices _ hlabel
      exact absurd hlength (Nat.lt_irrefl _)
  latest := fun userId deviceId index endpoint socket hlatest hopen => by
    have hupheld := hinvariant.latest userId deviceId index endpoint socket
      hlatest hopen
    refine ⟨hupheld.connected, ?_⟩
    rcases hupheld.stored with ⟨running, hrunning, hends⟩ | hsecured
    · refine .inl ⟨running, ?_, hends⟩
      simp only [System.spawn]
      rw [List.getElem?_append_left
        (List.getElem?_eq_some_iff.1 hrunning).1]
      exact hrunning
    · refine .inr ⟨hsecured.registered, fun other started hstarted => ?_⟩
      rcases System.getElem?_spawn_cases hstarted with hold | ⟨rfl, rfl⟩
      · exact hsecured.tasks other started hold
      · refine .inl ⟨rfl, fun label hlabel => ?_⟩
        have hlength := hinvariant.indices _ hlabel
        exact absurd hlength (Nat.lt_irrefl _)

variable {after : DeviceSystem} {index : Nat}

/-- A step of a program under way. -/
theorem deviceInvariant_underWay
    (hinvariant : DeviceInvariant deployment system) {tag : DeviceTask}
    {label : Label} {effect : Cluster → Cluster}
    {next : Cluster → Service Unit}
    (hfound : system.tasks[index]? = some ⟨tag, .step label effect next⟩)
    (hadvance : Advances system after index label ⟨tag, next system.state⟩)
    (hstate : after.state = effect system.state)
    (hcondition : MoveUndisturbed system (.tick index))
    (hunder : UnderWay deployment system index
      ⟨tag, .step label effect next⟩) :
    DeviceInvariant deployment after := by
  obtain ⟨owner, hstays⟩ := hunder.stays
  obtain ⟨⟨hlabel, honly⟩, hrest⟩ := hstays system.state
  have hnode : after.state.node = system.state.node := by
    rw [hstate]
    exact honly.node
  have hmoved : UnderWay deployment after index ⟨tag, next system.state⟩ := by
    refine ⟨⟨label, hadvance.mem_trace.2 (.inr rfl)⟩, ⟨owner, hrest⟩, ?_⟩
    intro endpoint socket userId deviceId
    rcases hunder.outside endpoint socket userId deviceId with
      hconnects | houtside
    · exact .inl hconnects
    · exact .inr (houtside.2 system.state)
  refine ⟨fun endpoint => ?_, hadvance.indices ⟨_, hfound⟩
    hinvariant.indices, hadvance.all_tasks hinvariant.tasks hmoved, ?_⟩
  · rw [hnode]
    exact hinvariant.distinct endpoint
  · intro userId deviceId latest endpoint socket hlatest hopen
    rw [hadvance.trace, latestConnect_concat, connectOf_of_not_block hlabel,
      Option.none_or] at hlatest
    have hupheld := hinvariant.latest userId deviceId latest endpoint socket
      hlatest (hadvance.not_closed hopen).1
    exact hupheld.underWay hinvariant hfound hadvance hstate hunder.started
      hnode hlatest hcondition

variable (hcluster : deployment.isStandAloneNode = false)
include hcluster

/-- A connect that has taken its block only has its own registration left to
write. -/
theorem underWay_connected {endpoint : Endpoint} {socket : Socket}
    {userId : UserId} {deviceId : DeviceId} {body : Service Unit}
    (hbody : body = SessionService.storeUserNodeData deployment endpoint
      (deployment.organizationOf userId) userId deviceId >>=
        fun _ => pure ())
    (hadvance : Advances system after index
      (.connected endpoint socket userId deviceId)
      ⟨.connect endpoint socket userId deviceId, body⟩) :
    UnderWay deployment after index
      ⟨.connect endpoint socket userId deviceId, body⟩ := by
  have hstore : StaysWith userId body := by
    rw [hbody]
    exact .bind (SessionService.staysWith_storeUserNodeData deployment
      endpoint _ userId deviceId) (fun _ => .pure _)
  refine ⟨⟨_, hadvance.mem_trace.2 (.inr rfl)⟩, ⟨userId, hstore⟩, ?_⟩
  intro node other otherUser otherDevice
  by_cases hother : (userId, deviceId) = (otherUser, otherDevice)
  · obtain ⟨rfl, rfl⟩ := Prod.mk.inj hother
    exact .inl ⟨endpoint, socket, rfl⟩
  · right
    rw [hbody]
    exact Async.keepsOutside_bind (SessionService.holds_storeUserNodeData
      endpoint _ hcluster hother).1 (fun _ => trivial) (fun _ => trivial)

/-- The block of a connect. -/
theorem deviceInvariant_connected
    (hinvariant : DeviceInvariant deployment system) {endpoint : Endpoint}
    {socket : Socket} {userId : UserId} {deviceId : DeviceId}
    {task : Task DeviceTask Label Cluster}
    (hfound : system.tasks[index]? = some task)
    (hfresh : ∀ label, (index, label) ∉ system.trace)
    {body : Service Unit}
    (hbody : body = SessionService.storeUserNodeData deployment endpoint
      (deployment.organizationOf userId) userId deviceId >>=
        fun _ => pure ())
    (hadvance : Advances system after index
      (.connected endpoint socket userId deviceId)
      ⟨.connect endpoint socket userId deviceId, body⟩)
    (hstate : after.state = system.state.setNode endpoint
      ((system.state.node endpoint).attach deployment endpoint socket userId
        deviceId))
    (hnew : (system.state.node endpoint).getDeviceId socket userId = none) :
    DeviceInvariant deployment after := by
  have hmoved := underWay_connected hcluster hbody hadvance
  refine ⟨fun other => ?_, hadvance.indices ⟨_, hfound⟩ hinvariant.indices,
    hadvance.all_tasks hinvariant.tasks hmoved, ?_⟩
  · rw [hstate, Cluster.node_setNode]
    split
    · exact ActiveSessions.distinct_attach (hinvariant.distinct endpoint)
        deployment endpoint socket userId deviceId
    · exact hinvariant.distinct other
  · intro otherUser otherDevice latest node otherSocket hlatest hopen
    rw [hadvance.trace, latestConnect_concat] at hlatest
    by_cases hother : (otherUser, otherDevice) = (userId, deviceId)
    · -- the connect itself is the latest now
      obtain ⟨rfl, rfl⟩ := Prod.mk.inj hother
      simp only [connectOf, if_true, Option.some_or, Option.some.injEq,
        Prod.mk.injEq] at hlatest
      obtain ⟨rfl, rfl, rfl⟩ := hlatest
      refine ⟨?_, .inl ⟨⟨.connect endpoint socket otherUser otherDevice, body⟩,
        ?_, ?_⟩⟩
      · rw [hstate, Cluster.node_setNode, if_pos rfl]
        exact ActiveSessions.holds_attach deployment endpoint socket
          otherUser otherDevice
      · rw [hadvance.tasks, List.getElem?_set_self
          (List.getElem?_eq_some_iff.1 hfound).1]
      · rw [hbody]
        exact (SessionService.endsWith_storeUserNodeData deployment endpoint
          hcluster otherUser otherDevice).map _
    · -- a connect of something else
      simp only [connectOf, if_neg (Ne.symm hother), Option.none_or]
        at hlatest
      have hupheld := hinvariant.latest otherUser otherDevice latest node
        otherSocket hlatest (hadvance.not_closed hopen).1
      have hindex : latest ≠ index := by
        rintro rfl
        exact hfresh _ (mem_of_latestConnect hlatest)
      refine hupheld.block_of_other hadvance hindex (by rw [hstate]; rfl) ?_
        (fun _ => ?_)
      · rw [hstate, Cluster.node_setNode]
        split
        · next hnode =>
            subst hnode
            exact hupheld.connected.attach_of_ne deployment node socket
              userId deviceId (hinvariant.distinct node) hnew hother
        · exact hupheld.connected
      · rw [hbody]
        exact Async.keeps_bind (SessionService.holds_storeUserNodeData
          endpoint _ hcluster (Ne.symm hother)).2 (fun _ => trivial)

/-- What follows the block of a close leaves a held registration alone, if it
belongs to another socket and the device it removes is not registered on
another node that has it connected. -/
theorem keeps_closeRest {cluster : Cluster} (hdistinct : cluster.Distinct)
    {endpoint node : Endpoint} {socket otherSocket : Socket}
    {userId : UserId} {deviceId : DeviceId}
    (hother : (node, otherSocket) ≠ (endpoint, socket))
    (hcondition : ∀ session device registered,
      (cluster.node endpoint).getSession socket = some session →
      (cluster.node endpoint).getDeviceId socket session.userId =
        some device →
      (cluster.redis.retrieveUserExtraParams session.userId
        device).nodeEndpoint = some registered →
      registered ≠ endpoint →
      ∀ connection ∈ (cluster.node registered).getUserDevices session.userId,
        connection.deviceId ≠ device)
    (hheld : Held deployment node otherSocket userId deviceId cluster)
    {session : Session} {removed : ActiveSessions.RemovedConnection}
    (hclosing : ((cluster.node endpoint).closeConnection socket).1 =
      some (session, removed)) :
    (SessionService.finishRemoval deployment endpoint session.userId
      removed).Keeps (Held deployment node otherSocket userId deviceId) := by
  apply SessionService.keeps_finishRemoval endpoint hcluster
  intro heq
  obtain ⟨huser, hdevice⟩ := Prod.mk.inj heq
  cases hsession : (cluster.node endpoint).getSession socket with
  | none =>
      simp only [ActiveSessions.closeConnection, hsession] at hclosing
      cases hclosing
  | some own =>
      simp only [ActiveSessions.closeConnection, hsession] at hclosing
      cases hclosing
      subst huser
      have hown : (cluster.node endpoint).getDeviceId socket session.userId =
          some deviceId := hdevice
      obtain ⟨connection, hmem, hsocket, hdeviceId⟩ := hheld.connected
      by_cases hnode : node = endpoint
      · -- two sockets of one node with the same device
        subst hnode
        obtain ⟨first, hfirst, hfirstSocket, hfirstDevice⟩ :=
          ActiveSessions.exists_of_getDeviceId _ socket session.userId deviceId
            hown
        have hsame := (hdistinct node session.userId).eq_of_device hfirst hmem
          (hfirstDevice.trans hdeviceId.symm)
        apply hother
        rw [← hsocket, ← hsame, hfirstSocket]
      · exact hcondition session deviceId node hsession hown
          hheld.registered.node hnode connection hmem hdeviceId

/-- A close that has taken its block only removes what it found there. -/
theorem underWay_closed {endpoint : Endpoint} {socket : Socket}
    {body : Service Unit}
    (hbody : body = SessionService.closeRest deployment endpoint
      ((system.state.node endpoint).closeConnection socket).1)
    (hadvance : Advances system after index (.closed endpoint socket)
      ⟨.close endpoint socket, body⟩) :
    UnderWay deployment after index ⟨.close endpoint socket, body⟩ := by
  rcases hclosing : ((system.state.node endpoint).closeConnection
    socket).1 with _ | ⟨session, removed⟩
  · rw [hclosing] at hbody
    rw [hbody]
    exact ⟨⟨_, hadvance.mem_trace.2 (.inr rfl)⟩, ⟨endpoint, trivial⟩,
      fun _ _ _ _ => .inr trivial⟩
  · rw [hclosing] at hbody
    rw [hbody]
    refine ⟨⟨_, hadvance.mem_trace.2 (.inr rfl)⟩, ⟨session.userId, ?_⟩,
      fun node other userId deviceId => .inr ?_⟩
    · refine .bind (SessionService.staysWith_finishRemoval deployment
        endpoint session.userId removed) (fun isLast => ?_)
      cases isLast with
      | true => exact .awaitAnswer
      | false => exact .pure _
    · refine Async.keepsOutside_bind
        (SessionService.keepsOutside_finishRemoval endpoint hcluster
          session.userId removed) (fun isLast => ?_) (fun isLast => ?_)
      · cases isLast with
        | true => exact fun _ hheld => ⟨hheld, trivial⟩
        | false => trivial
      · cases isLast with
        | true => exact Async.keepsOutside_atomic (fun _ _ hheld => hheld)
        | false => trivial

/-- The block of a close. -/
theorem deviceInvariant_closed
    (hinvariant : DeviceInvariant deployment system) {endpoint : Endpoint}
    {socket : Socket} {task : Task DeviceTask Label Cluster}
    (hfound : system.tasks[index]? = some task)
    (hfresh : ∀ label, (index, label) ∉ system.trace)
    {body : Service Unit}
    (hbody : body = SessionService.closeRest deployment endpoint
      ((system.state.node endpoint).closeConnection socket).1)
    (hadvance : Advances system after index (.closed endpoint socket)
      ⟨.close endpoint socket, body⟩)
    (hstate : after.state = system.state.setNode endpoint
      ((system.state.node endpoint).closeConnection socket).2)
    (hcondition : ∀ session device registered,
      (system.state.node endpoint).getSession socket = some session →
      (system.state.node endpoint).getDeviceId socket session.userId =
        some device →
      (system.state.redis.retrieveUserExtraParams session.userId
        device).nodeEndpoint = some registered →
      registered ≠ endpoint →
      ∀ connection ∈ (system.state.node registered).getUserDevices
        session.userId, connection.deviceId ≠ device) :
    DeviceInvariant deployment after := by
  have hmoved := underWay_closed hcluster hbody hadvance
  refine ⟨fun other => ?_, hadvance.indices ⟨_, hfound⟩ hinvariant.indices,
    hadvance.all_tasks hinvariant.tasks hmoved, ?_⟩
  · rw [hstate, Cluster.node_setNode]
    split
    · exact ActiveSessions.distinct_closeConnection
        (hinvariant.distinct endpoint) socket
    · exact hinvariant.distinct other
  · intro userId deviceId latest node otherSocket hlatest hopen
    rw [hadvance.trace, latestConnect_concat] at hlatest
    change latestConnect system.trace userId deviceId = _ at hlatest
    obtain ⟨hopenBefore, hlabel⟩ := hadvance.not_closed hopen
    have hother : (node, otherSocket) ≠ (endpoint, socket) := by
      intro heq
      obtain ⟨rfl, rfl⟩ := Prod.mk.inj heq
      exact hlabel rfl
    have hupheld := hinvariant.latest userId deviceId latest node
      otherSocket hlatest hopenBefore
    have hindex : latest ≠ index := by
      rintro rfl
      exact hfresh _ (mem_of_latestConnect hlatest)
    refine hupheld.block_of_other hadvance hindex (by rw [hstate]; rfl) ?_
      (fun hheld => ?_)
    · rw [hstate, Cluster.node_setNode]
      split
      · next hnode =>
          subst hnode
          obtain ⟨connection, hmem, hsocket, hdevice⟩ := hupheld.connected
          refine ⟨connection, ActiveSessions.mem_closeConnection_of_ne
            (hinvariant.distinct node) hmem ?_, hsocket, hdevice⟩
          rintro rfl
          exact hother (by rw [hsocket])
      · exact hupheld.connected
    · rcases hclosing : ((system.state.node endpoint).closeConnection
        socket).1 with _ | ⟨session, removed⟩
      · rw [hclosing] at hbody
        rw [hbody]
        trivial
      · rw [hclosing] at hbody
        rw [hbody]
        refine Async.keeps_bind (keeps_closeRest hcluster
          hinvariant.distinct hother hcondition hheld hclosing)
          (fun isLast => ?_)
        cases isLast with
        | true => exact fun _ hkept => ⟨hkept, trivial⟩
        | false => trivial

/-- One move of the scheduler. -/
theorem deviceInvariant_exec (hinvariant : DeviceInvariant deployment system)
    (move : DeviceMove)
    (hcondition : MoveUndisturbed system (move.event deployment)) :
    DeviceInvariant deployment (system.exec (move.event deployment)) := by
  cases move with
  | start task => exact deviceInvariant_spawn task hinvariant
  | tick index =>
      change DeviceInvariant deployment (system.tick index)
      rcases system.tick_cases index with hsame | ⟨tag, label, effect, next,
        hfound, htick⟩
      · rw [hsame]
        exact hinvariant
      · have hadvance : Advances system (system.tick index) index label
            ⟨tag, next system.state⟩ := by
          rw [htick]
          exact ⟨rfl, rfl⟩
        have hstate : (system.tick index).state = effect system.state := by
          rw [htick]
        have hnext : system.nextLabel? index = some label := by
          rw [System.nextLabel?, hfound]
          rfl
        rcases hinvariant.tasks index _ hfound with ⟨hbody, hfresh⟩ | hunder
        · have hmove := hcondition label hnext
          cases tag with
          | connect endpoint socket userId deviceId =>
              change Async.step label effect next =
                SessionService.connectDevice deployment endpoint socket userId
                  deviceId at hbody
              rw [SessionService.connectDevice_eq_step] at hbody
              cases hbody
              have hnone : ((system.state.node
                  endpoint).addUserDeviceConnection socket
                  (deployment.organizationOf userId) userId
                  deviceId).1.sameSocketConnection = none :=
                Option.map_eq_none_iff.1 hmove
              refine deviceInvariant_connected hcluster hinvariant hfound
                hfresh ?_ hadvance hstate hmove
              simp only [hnone]
          | close endpoint socket =>
              cases hbody
              exact deviceInvariant_closed hcluster hinvariant hfound hfresh
                rfl hadvance hstate hmove
        · exact deviceInvariant_underWay hinvariant hfound hadvance hstate
            hcondition hunder

end Preservation

/-- Once every started program has finished, the latest connect of a device is
registered on its node as long as its socket is open, in every run whose moves
all meet the condition. -/
theorem run_latestConnect_registered (deployment : Deployment)
    (hcluster : deployment.isStandAloneNode = false)
    (moves : List DeviceMove)
    (hundisturbed : System.Along MoveUndisturbed (System.start .empty)
      (moves.map (DeviceMove.event deployment)))
    (hquiescent : (runDevices deployment moves).Quiescent)
    (userId : UserId) (deviceId : DeviceId) (index : Nat)
    (endpoint : Endpoint) (socket : Socket)
    (hlatest : latestConnect (runDevices deployment moves).trace userId
      deviceId = some (index, endpoint, socket))
    (hopen : ∀ other, (other, .closed endpoint socket) ∉
      (runDevices deployment moves).trace) :
    (runDevices deployment moves).state.redis.RegisteredAt endpoint
      (deployment.organizationOf userId) userId deviceId := by
  have hmoves : System.Along
      (fun _ event => ∃ move, event = DeviceMove.event deployment move)
      (System.start .empty) (moves.map (DeviceMove.event deployment)) := by
    apply System.along_of_forall
    intro event hevent _
    obtain ⟨move, -, hmove⟩ := List.mem_map.1 hevent
    exact ⟨move, hmove.symm⟩
  have hinvariant : DeviceInvariant deployment
      (runDevices deployment moves) := by
    refine System.Along.invariant ?_ (deviceInvariant_start deployment)
      (hundisturbed.and hmoves)
    rintro system event hbefore ⟨hcondition, move, rfl⟩
    exact deviceInvariant_exec hcluster hbefore move hcondition
  have hupheld := hinvariant.latest userId deviceId index endpoint socket
    hlatest hopen
  rcases hupheld.stored with ⟨task, htask, hends⟩ | hsecured
  · -- a finished program has nothing left to store
    have hfinished := hquiescent task (List.mem_of_getElem? htask)
    cases hbody : task.body with
    | done result =>
        rw [hbody] at hends
        exact hends.elim
    | step label effect next =>
        rw [hbody] at hfinished
        cases hfinished
  · exact hsecured.registered

section LateClose

open Sample

/-- The phone connects on node A, then on node B. -/
def takeOver : List DeviceMove :=
  [.start (.connect nodeA 1 alice phone), .tick 0, .tick 0, .tick 0,
    .start (.connect nodeB 2 alice phone), .tick 1, .tick 1, .tick 1,
    .tick 1, .tick 1, .tick 1, .tick 1, .tick 1]

/-- Then the older socket on node A closes. -/
def lateClose : List DeviceMove :=
  takeOver ++ [.start (.close nodeA 1), .tick 2, .tick 2, .tick 2, .tick 2,
    .tick 2, .tick 2, .tick 2]

theorem takeOver_registered :
    (runDevices ⟨false, fun _ => organization⟩
      takeOver).state.redis.RegisteredAt nodeB organization alice phone := by
  apply run_latestConnect_registered ⟨false, fun _ => organization⟩ rfl
    takeOver ?_ (by decide) alice phone 1 nodeB 2 (by decide)
  · have hnone : ∀ entry ∈ (runDevices ⟨false, fun _ => organization⟩
        takeOver).trace, entry.2 ≠ .closed nodeB 2 := by decide
    intro other hclosed
    exact hnone _ hclosed rfl
  · -- each connect is alone when it stores
    have hfirst : ∀ system : DeviceSystem, system.tasks.length = 1 →
        Undisturbed system 0 alice phone := by
      intro system hlength other task hother htask
      have hindex := (List.getElem?_eq_some_iff.1 htask).1
      omega
    have hsecond : ∀ system : DeviceSystem, system.tasks.length = 2 →
        system.nextLabel? 0 = none → Undisturbed system 1 alice phone := by
      intro system hlength hdone other task hother htask label hlabel
      have hindex := (List.getElem?_eq_some_iff.1 htask).1
      obtain rfl : other = 0 := by omega
      rw [System.nextLabel?, htask] at hdone
      exact absurd (hdone.symm.trans hlabel) (by simp)
    exact ⟨trivial,
      moveUndisturbed_tick (.connected nodeA 1 alice phone)
        (by decide) rfl,
      moveUndisturbed_tick (.listed alice) (by decide) trivial,
      moveUndisturbed_tick (.stored nodeA alice phone) (by decide)
        (fun _ _ _ => hfirst _ (by decide)),
      trivial,
      moveUndisturbed_tick (.connected nodeB 2 alice phone)
        (by decide) rfl,
      moveUndisturbed_tick (.listed alice) (by decide) trivial,
      moveUndisturbed_tick (.removing alice phone) (by decide)
        trivial,
      moveUndisturbed_tick (.removing alice phone) (by decide)
        trivial,
      moveUndisturbed_tick (.removing alice phone) (by decide)
        trivial,
      moveUndisturbed_tick (.removing alice phone) (by decide)
        trivial,
      moveUndisturbed_tick (.listed alice) (by decide) trivial,
      moveUndisturbed_tick (.stored nodeB alice phone) (by decide)
        (fun _ _ _ => hsecond _ (by decide) (by decide)),
      trivial⟩

/-- The late close of the older socket erases the newer registration. -/
theorem lateClose_erases_registration :
    ¬ ∀ (moves : List DeviceMove) (userId : UserId) (deviceId : DeviceId)
      (index : Nat) (endpoint : Endpoint) (socket : Socket),
      (runDevices ⟨false, fun _ => organization⟩ moves).Quiescent →
      latestConnect (runDevices ⟨false, fun _ => organization⟩ moves).trace
        userId deviceId = some (index, endpoint, socket) →
      (∀ other, (other, .closed endpoint socket) ∉
        (runDevices ⟨false, fun _ => organization⟩ moves).trace) →
      (runDevices ⟨false, fun _ => organization⟩
        moves).state.redis.RegisteredAt endpoint organization userId
          deviceId := by
  intro hclaim
  have hnone : ∀ entry ∈ (runDevices ⟨false, fun _ => organization⟩
      lateClose).trace, entry.2 ≠ .closed nodeB 2 := by decide
  have hregistered := hclaim lateClose alice phone 1 nodeB 2 (by decide)
    (by decide) (fun other hclosed => hnone _ hclosed rfl)
  exact absurd hregistered.devices (by decide)

end LateClose

end SamaServer
