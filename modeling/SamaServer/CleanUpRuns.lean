/-
Runs of connects and clean-ups of all nodes over one Redis.  Under a condition
on the moves of the scheduler every clean-up removes and reports rightfully,
and the latest connect of a device to a node that is not cleaned up stays
registered.
-/
import SamaServer.CleanUpRaces

namespace SamaServer

inductive CleanUpMove
  | start (task : CleanUpTask)
  | tick (index : Nat)

def CleanUpMove.event (deployment : Deployment) :
    CleanUpMove → Event CleanUpTask NodeLabel Cluster
  | .start task => .spawn ⟨task, task.program deployment⟩
  | .tick index => .tick index

abbrev CleanUpSystem := System CleanUpTask NodeLabel Cluster

/-- The system after the moves, from empty stores. -/
def runCleanUps (deployment : Deployment) (moves : List CleanUpMove) :
    CleanUpSystem :=
  System.run (System.start .empty) (moves.map (CleanUpMove.event deployment))

/-- The steps of the session service in a trace. -/
def sessionSteps (trace : List (Nat × NodeLabel)) : List (Nat × Label) :=
  trace.filterMap (fun
    | (index, .session label) => some (index, label)
    | _ => none)

/-- No other program that has begun connects the device, or has it in hand
for a removal or a report. -/
def Unopposed (system : CleanUpSystem) (index : Nat) (userId : UserId)
    (deviceId : DeviceId) : Prop :=
  ∀ other task, other ≠ index → system.tasks[other]? = some task →
    ∀ label, task.body.head? = some label →
      ¬ label.Endangers userId deviceId ∧
        (task.tag.device? = some (userId, deviceId) →
          system.Unstarted other)

instance (system : CleanUpSystem) (index : Nat) :
    Decidable (system.Unstarted index) :=
  decidable_of_iff (∀ entry ∈ system.trace, entry.1 ≠ index)
    ⟨fun hall _ hmem => hall _ hmem rfl,
      fun hunstarted entry hmem heq => hunstarted entry.2 (heq ▸ hmem)⟩

instance (system : CleanUpSystem) (index : Nat) (userId : UserId)
    (deviceId : DeviceId) :
    Decidable (Unopposed system index userId deviceId) :=
  decidable_of_iff (∀ entry ∈ system.tasks.zipIdx, entry.2 ≠ index →
      ∀ label ∈ entry.1.body.head?,
        ¬ label.Endangers userId deviceId ∧
          (entry.1.tag.device? = some (userId, deviceId) →
            system.Unstarted entry.2))
    ⟨fun hall other task hother htask => hall (task, other)
        (List.mem_zipIdx_iff_getElem?.2 htask) hother,
      fun hall entry hentry hother => hall entry.2 entry.1 hother
        (List.mem_zipIdx_iff_getElem?.1 hentry)⟩

/-- The condition on one step: a connect is made on a socket that has no
connection of the user, a registration is stored unopposed, and a clean-up
reads members that come out as they went in and whose devices are registered
on the node or not at all. -/
def StepUnopposed (system : CleanUpSystem) (index : Nat) : NodeLabel → Prop
  | .session (.connected endpoint socket userId _) =>
      (system.state.node endpoint).getDeviceId socket userId = none
  | .session (.stored _ userId deviceId) =>
      Unopposed system index userId deviceId
  | .members nodeEndpoint => ∀ organizationId userId deviceId,
      (organizationId, userId, deviceId) ∈
        system.state.redis.nodeUsers.members nodeEndpoint →
      NodeUser.ofMember (userConnectionMember organizationId userId
          deviceId) = .of organizationId userId deviceId ∧
        system.state.redis.BelongsTo nodeEndpoint organizationId userId
          deviceId
  | _ => True

def MoveUnopposed (system : CleanUpSystem) :
    Event CleanUpTask NodeLabel Cluster → Prop
  | .spawn _ => True
  | .tick index => ∀ label, system.nextLabel? index = some label →
      StepUnopposed system index label

theorem moveUnopposed_tick {system : CleanUpSystem} {index : Nat}
    (label : NodeLabel) (hlabel : system.nextLabel? index = some label)
    (hstep : StepUnopposed system index label) :
    MoveUnopposed system (.tick index) := by
  intro other hother
  rw [hlabel, Option.some.injEq] at hother
  rw [← hother]
  exact hstep

/-- The latest connect of the device has finished, on a node that no clean-up
has begun for. -/
def Online (system : CleanUpSystem) (userId : UserId) (deviceId : DeviceId) :
    Prop :=
  ∃ index endpoint socket,
    latestConnect (sessionSteps system.trace) userId deviceId =
      some (index, endpoint, socket) ∧
    system.nextLabel? index = none ∧
    ∀ other, (other, .members endpoint) ∉ system.trace

/-- What a clean-up removes in the move is registered on its node. -/
def MoveRemovesOwn (system : CleanUpSystem) :
    Event CleanUpTask NodeLabel Cluster → Prop
  | .spawn _ => True
  | .tick index => ∀ nodeEndpoint userData later reported,
      system.nextLabel? index =
        some (.removing nodeEndpoint userData later reported) →
      system.state.redis.RemovesOwn nodeEndpoint
        (system.tick index).state.redis

/-- Nobody whom a clean-up reports in the move is online. -/
def MoveSparesOnline (system : CleanUpSystem) :
    Event CleanUpTask NodeLabel Cluster → Prop
  | .spawn _ => True
  | .tick index => ∀ nodeEndpoint userData later,
      system.nextLabel? index =
        some (.reporting nodeEndpoint userData later) →
      ∀ userId deviceId, userData.userId = userId.value →
        ¬ Online system userId deviceId

section Trace

variable {trace : List (Nat × NodeLabel)} {index : Nat} {userId : UserId}
  {deviceId : DeviceId}

theorem sessionSteps_session (label : Label) :
    sessionSteps (trace ++ [(index, .session label)]) =
      sessionSteps trace ++ [(index, label)] :=
  List.filterMap_append

theorem sessionSteps_cleanUp {label : NodeLabel}
    (hlabel : ∀ own, label ≠ .session own) :
    sessionSteps (trace ++ [(index, label)]) = sessionSteps trace := by
  rw [sessionSteps, List.filterMap_append]
  cases label with
  | session own => exact absurd rfl (hlabel own)
  | _ =>
      exact List.append_nil _

/-- Only the first step of a connect makes it the latest. -/
theorem latestConnect_of_later {label : NodeLabel}
    (hlabel : label.begins = false) :
    latestConnect (sessionSteps (trace ++ [(index, label)])) userId
        deviceId = latestConnect (sessionSteps trace) userId deviceId := by
  cases label with
  | session own =>
      rw [sessionSteps_session, latestConnect_concat]
      cases own with
      | connected => cases hlabel
      | _ => rfl
  | _ =>
      rw [sessionSteps_cleanUp (by simp)]

theorem latestConnect_of_connected {endpoint : Endpoint} {socket : Socket}
    {otherUser : UserId} {otherDevice : DeviceId} :
    latestConnect (sessionSteps (trace ++
        [(index, .session (.connected endpoint socket otherUser
          otherDevice))])) userId deviceId =
      (if (otherUser, otherDevice) = (userId, deviceId) then
        some (index, endpoint, socket) else none).or
          (latestConnect (sessionSteps trace) userId deviceId) := by
  rw [sessionSteps_session, latestConnect_concat]
  rfl

theorem started_of_latestConnect {endpoint : Endpoint} {socket : Socket}
    (hlatest : latestConnect (sessionSteps trace) userId deviceId =
      some (index, endpoint, socket)) :
    (index, .session (.connected endpoint socket userId deviceId)) ∈
      trace := by
  have hmem := mem_of_latestConnect hlatest
  obtain ⟨⟨number, label⟩, hentry, heq⟩ := List.mem_filterMap.1 hmem
  cases label with
  | session own =>
      cases heq
      exact hentry
  | _ => cases heq

end Trace

section Invariant

variable (deployment : Deployment)

/-- A program past its first step. -/
structure InFlight (system : CleanUpSystem) (index : Nat)
    (task : Task CleanUpTask NodeLabel Cluster) : Prop where
  started : ¬ system.Unstarted index
  tracks : task.body.Tracks (Relies deployment task.tag)
    (Orderly deployment) (fun _ _ => True) system.state
  outside : ∀ endpoint socket userId deviceId,
    (∀ other, (other, .members endpoint) ∉ system.trace) →
    task.tag.device? = some (userId, deviceId) ∨
      task.body.KeepsOutside (NodeLabel.Endangers userId deviceId)
        (Held deployment endpoint socket userId deviceId)

/-- The step of a connect that registers the device. -/
def StoresOnNode (endpoint : Endpoint) (userId : UserId)
    (deviceId : DeviceId) : NodeLabel → (Cluster → Cluster) → Prop
  | .session label, effect =>
      Stores deployment endpoint userId deviceId label effect
  | _, _ => False

/-- Where the latest connect of a device stands. -/
structure Sustained (system : CleanUpSystem) (index : Nat)
    (endpoint : Endpoint) (socket : Socket) (userId : UserId)
    (deviceId : DeviceId) : Prop where
  connected : (system.state.node endpoint).Holds socket userId deviceId
  stored : (∃ task, system.tasks[index]? = some task ∧
      task.body.EndsWith
        (StoresOnNode deployment endpoint userId deviceId)) ∨
    system.Guarded (Held deployment endpoint socket userId deviceId)

structure CleanUpInvariant (system : CleanUpSystem) : Prop where
  distinct : system.state.Distinct
  indexed : system.Indexed
  owners : ∀ nodeEndpoint organizationId userId deviceId,
    (organizationId, userId, deviceId) ∈
      system.state.redis.nodeUsers.members nodeEndpoint →
    organizationId = deployment.organizationOf userId
  tasks : ∀ index task, system.tasks[index]? = some task →
    (system.Unstarted index ∧ task.body = task.tag.program deployment) ∨
      InFlight deployment system index task
  latest : ∀ userId deviceId index endpoint socket,
    latestConnect (sessionSteps system.trace) userId deviceId =
      some (index, endpoint, socket) →
    (∀ other, (other, .members endpoint) ∉ system.trace) →
    Sustained deployment system index endpoint socket userId deviceId

variable {deployment} in
theorem StoresOnNode.eq_stored {endpoint : Endpoint} {userId : UserId}
    {deviceId : DeviceId} {label : NodeLabel} {effect : Cluster → Cluster}
    (hstores : StoresOnNode deployment endpoint userId deviceId label
      effect) :
    label = .session (.stored endpoint userId deviceId) ∧
      ∀ cluster, effect cluster = cluster.setRedis
        (cluster.redis.addUserDeviceDataTransaction endpoint
          (deployment.organizationOf userId) userId deviceId) := by
  cases label with
  | session own => exact ⟨congrArg NodeLabel.session hstores.1, hstores.2⟩
  | _ => exact hstores.elim

theorem cleanUpInvariant_start :
    CleanUpInvariant deployment (System.start .empty) where
  distinct := fun _ => ActiveSessions.distinct_empty
  indexed := fun entry hentry => by cases hentry
  owners := fun nodeEndpoint organizationId userId deviceId hmem => by
    cases hmem
  tasks := fun index task htask => by simp [System.start] at htask
  latest := fun userId deviceId index endpoint socket hlatest => by
    cases hlatest

end Invariant

theorem NodeLabel.stores_eq_some {label : NodeLabel} {userId : UserId}
    {deviceId : DeviceId} (hstores : label.stores = some (userId, deviceId)) :
    ∃ endpoint, label = .session (.stored endpoint userId deviceId) := by
  cases label with
  | session own =>
      cases own with
      | stored endpoint user device =>
          cases hstores
          exact ⟨endpoint, rfl⟩
      | _ => cases hstores
  | _ => cases hstores

section Relying

variable {deployment : Deployment} {task : CleanUpTask} {label : NodeLabel}
  {before after : Cluster}

theorem relies_of_redis (hredis : after.redis = before.redis) :
    Relies deployment task label before after := by
  intro userId deviceId _
  rw [hredis]
  exact .refl before.redis

theorem Relies.trans {first second third : Cluster}
    (hfirst : Relies deployment task label first second)
    (hsecond : Relies deployment task label second third) :
    Relies deployment task label first third :=
  fun userId deviceId hdevice => (hfirst userId deviceId hdevice).trans
    (hsecond userId deviceId hdevice)

/-- A step that stores nothing is one that every program counts on, and one
that stores unopposed too. -/
theorem Orderly.relies {system : CleanUpSystem} {index other : Nat}
    (horderly : Orderly deployment label before after)
    (hcondition : StepUnopposed system index label)
    {waiting : Task CleanUpTask NodeLabel Cluster} (hother : other ≠ index)
    (hwaiting : system.tasks[other]? = some waiting)
    (hstarted : ¬ system.Unstarted other) {next : NodeLabel}
    (hnext : waiting.body.head? = some next) :
    Relies deployment waiting.tag next before after := by
  intro userId deviceId hdevice
  apply horderly.recedes
  intro hstores
  obtain ⟨endpoint, rfl⟩ := NodeLabel.stores_eq_some hstores
  obtain ⟨hsafe, hfresh⟩ := hcondition other waiting hother hwaiting next
    hnext
  rcases hdevice with hown | hendangers
  · exact hstarted (hfresh hown)
  · exact hsafe hendangers

/-- What the others do to a registration once it is stored unopposed. -/
theorem keeps_of_unopposed {system : CleanUpSystem} {index : Nat}
    {endpoint : Endpoint} {socket : Socket} {userId : UserId}
    {deviceId : DeviceId}
    (hinvariant : CleanUpInvariant deployment system)
    (hunopposed : Unopposed system index userId deviceId)
    (hlive : ∀ other, (other, .members endpoint) ∉ system.trace)
    {other : Nat} {task : Task CleanUpTask NodeLabel Cluster}
    (hother : other ≠ index) (htask : system.tasks[other]? = some task) :
    system.Unstarted other ∨ task.body.Keeps
      (Held deployment endpoint socket userId deviceId) := by
  have hhead := hunopposed other task hother htask
  rcases hinvariant.tasks other task htask with ⟨hunstarted, -⟩ | hflight
  · exact .inl hunstarted
  · rcases hflight.outside endpoint socket userId deviceId hlive with
      hdevice | houtside
    · -- a connect of the device that has begun has no step left
      right
      cases hbody : task.body with
      | done result => trivial
      | step head effect rest =>
          rw [hbody] at hhead
          exact absurd ((hhead head rfl).2 hdevice) hflight.started
    · exact .inr (houtside.keeps (fun head hnext => (hhead head hnext).1))

end Relying

section Steps

variable {deployment : Deployment} {system : CleanUpSystem} {index : Nat}
  {tag : CleanUpTask} {label : NodeLabel} {effect : Cluster → Cluster}
  {next : Cluster → NodeService Unit}
  (hfound : system.tasks[index]? = some ⟨tag, .step label effect next⟩)
include hfound

theorem not_members_of_tick {endpoint : Endpoint}
    (hlive : ∀ other, (other, .members endpoint) ∉
      (system.tick index).trace) :
    ∀ other, (other, .members endpoint) ∉ system.trace :=
  fun other hold => hlive other ((System.mem_trace_tick hfound).2
    (.inl hold))

theorem InFlight.tick_of_other {other : Nat}
    {task : Task CleanUpTask NodeLabel Cluster}
    (hflight : InFlight deployment system other task)
    (hrelies : ∀ head, task.body.head? = some head →
      Relies deployment task.tag head system.state (effect system.state)) :
    InFlight deployment (system.tick index) other task := by
  refine ⟨fun hunstarted => hflight.started (fun taken htaken =>
    hunstarted taken ((System.mem_trace_tick hfound).2 (.inl htaken))), ?_,
    fun endpoint socket userId deviceId hlive => hflight.outside endpoint
      socket userId deviceId (not_members_of_tick hfound hlive)⟩
  rw [System.state_tick hfound]
  exact hflight.tracks.of_rely (fun _ _ _ _ => Relies.trans) hrelies

theorem tasks_of_tick
    (htasks : ∀ index task, system.tasks[index]? = some task →
      (system.Unstarted index ∧ task.body = task.tag.program deployment) ∨
        InFlight deployment system index task)
    (hrelies : ∀ other task, other ≠ index →
      system.tasks[other]? = some task → ¬ system.Unstarted other →
      ∀ head, task.body.head? = some head →
      Relies deployment task.tag head system.state (effect system.state))
    (hmoved : InFlight deployment (system.tick index) index
      ⟨tag, next system.state⟩) :
    ∀ other task, (system.tick index).tasks[other]? = some task →
      ((system.tick index).Unstarted other ∧
          task.body = task.tag.program deployment) ∨
        InFlight deployment (system.tick index) other task := by
  intro other task htask
  rcases System.getElem?_tick_cases hfound htask with
    ⟨rfl, rfl⟩ | ⟨hother, hold⟩
  · exact .inr hmoved
  · rcases htasks other task hold with ⟨hunstarted, hbody⟩ | hflight
    · exact .inl ⟨hunstarted.tick_of_ne hfound hother, hbody⟩
    · exact .inr (hflight.tick_of_other hfound
        (hrelies other task hother hold hflight.started))

theorem Sustained.tick_later {latest : Nat} {endpoint : Endpoint}
    {socket : Socket} {userId : UserId} {deviceId : DeviceId}
    (hsustained : Sustained deployment system latest endpoint socket userId
      deviceId)
    (hinvariant : CleanUpInvariant deployment system)
    (hstarted : ¬ system.Unstarted index)
    (hnode : (effect system.state).node = system.state.node)
    (hcondition : StepUnopposed system index label)
    (hlive : ∀ other, (other, .members endpoint) ∉ system.trace) :
    Sustained deployment (system.tick index) latest endpoint socket userId
      deviceId := by
  have hconnected : ((effect system.state).node endpoint).Holds socket userId
      deviceId := by
    rw [hnode]
    exact hsustained.connected
  refine ⟨by rw [System.state_tick hfound]; exact hconnected, ?_⟩
  rcases hsustained.stored with ⟨task, htask, hends⟩ | hguarded
  · by_cases hindex : latest = index
    · subst hindex
      rw [hfound, Option.some.injEq] at htask
      subst htask
      rcases hends with ⟨hstores, hdone⟩ | hlater
      · right
        obtain ⟨rfl, heffect⟩ := hstores.eq_stored
        obtain ⟨result, hresult⟩ := hdone system.state
        refine System.guarded_tick hfound ⟨?_, hconnected⟩ ?_
          (fun other task hother htask => keeps_of_unopposed hinvariant
            hcondition hlive hother htask)
        · rw [heffect]
          exact Redis.registeredAt_addUserDeviceDataTransaction ..
        · rw [hresult]
          trivial
      · exact .inl ⟨_, System.getElem?_tick_self hfound,
          hlater system.state⟩
    · refine .inl ⟨task, ?_, hends⟩
      rw [System.getElem?_tick_of_ne hfound hindex]
      exact htask
  · exact .inr (hguarded.tick_started hfound hstarted)

/-- A step of a program in flight. -/
theorem cleanUpInvariant_later
    (hinvariant : CleanUpInvariant deployment system)
    (hflight : InFlight deployment system index
      ⟨tag, .step label effect next⟩)
    (hcondition : StepUnopposed system index label) :
    Orderly deployment label system.state (effect system.state) ∧
      CleanUpInvariant deployment (system.tick index) := by
  obtain ⟨horderly, hnext⟩ := hflight.tracks system.state
    (relies_of_redis rfl)
  have hmoved : InFlight deployment (system.tick index) index
      ⟨tag, next system.state⟩ := by
    refine ⟨fun hunstarted => hunstarted label
      ((System.mem_trace_tick hfound).2 (.inr rfl)), ?_, ?_⟩
    · rw [System.state_tick hfound]
      exact hnext
    · intro endpoint socket userId deviceId hlive
      exact (hflight.outside endpoint socket userId deviceId
        (not_members_of_tick hfound hlive)).imp id
          (fun houtside => houtside.2 system.state)
  refine ⟨horderly, fun endpoint => ?_, hinvariant.indexed.tick hfound, ?_,
    tasks_of_tick hfound hinvariant.tasks (fun other task hother htask
      hstarted head hhead => horderly.relies hcondition hother htask hstarted
        hhead) hmoved, ?_⟩
  · rw [System.state_tick hfound, horderly.node]
    exact hinvariant.distinct endpoint
  · intro nodeEndpoint organization user device hmem
    rw [System.state_tick hfound] at hmem
    rcases horderly.owners nodeEndpoint organization user device hmem with
      howner | hold
    · exact howner
    · exact hinvariant.owners nodeEndpoint organization user device hold
  · intro userId deviceId latest endpoint socket hlatest hlive
    rw [System.trace_tick hfound, latestConnect_of_later horderly.later]
      at hlatest
    have hliveBefore := not_members_of_tick hfound hlive
    exact (hinvariant.latest userId deviceId latest endpoint socket hlatest
      hliveBefore).tick_later hfound hinvariant hflight.started
        horderly.node hcondition hliveBefore

/-- The first step of another program. -/
theorem Sustained.tick_first {latest : Nat} {endpoint : Endpoint}
    {socket : Socket} {userId : UserId} {deviceId : DeviceId}
    (hsustained : Sustained deployment system latest endpoint socket userId
      deviceId)
    (hother : latest ≠ index)
    (hredis : (effect system.state).redis = system.state.redis)
    (hconnected : ((effect system.state).node endpoint).Holds socket userId
      deviceId)
    (hkeeps : Held deployment endpoint socket userId deviceId system.state →
      (next system.state).Keeps
        (Held deployment endpoint socket userId deviceId)) :
    Sustained deployment (system.tick index) latest endpoint socket userId
      deviceId := by
  refine ⟨by rw [System.state_tick hfound]; exact hconnected, ?_⟩
  rcases hsustained.stored with ⟨task, htask, hends⟩ | hguarded
  · refine .inl ⟨task, ?_, hends⟩
    rw [System.getElem?_tick_of_ne hfound hother]
    exact htask
  · refine .inr (hguarded.tick_first hfound ⟨?_, hconnected⟩
      (hkeeps hguarded.holds))
    rw [hredis]
    exact hguarded.holds.registered

/-- The parts of the invariant that a first step keeps because it leaves
Redis alone. -/
theorem cleanUpInvariant_first
    (hinvariant : CleanUpInvariant deployment system)
    (hredis : (effect system.state).redis = system.state.redis)
    (hdistinct : (effect system.state).Distinct)
    (htracks : (next system.state).Tracks (Relies deployment tag)
      (Orderly deployment) (fun _ _ => True) (effect system.state))
    (houtside : ∀ endpoint socket userId deviceId,
      label ≠ .members endpoint →
      tag.device? = some (userId, deviceId) ∨
        (next system.state).KeepsOutside (NodeLabel.Endangers userId deviceId)
          (Held deployment endpoint socket userId deviceId))
    (hlatest : ∀ userId deviceId latest endpoint socket,
      latestConnect (sessionSteps (system.tick index).trace) userId
        deviceId = some (latest, endpoint, socket) →
      (∀ other, (other, .members endpoint) ∉ (system.tick index).trace) →
      Sustained deployment (system.tick index) latest endpoint socket userId
        deviceId) :
    CleanUpInvariant deployment (system.tick index) := by
  have hmoved : InFlight deployment (system.tick index) index
      ⟨tag, next system.state⟩ := by
    refine ⟨fun hunstarted => hunstarted label
      ((System.mem_trace_tick hfound).2 (.inr rfl)), ?_, ?_⟩
    · rw [System.state_tick hfound]
      exact htracks
    · intro endpoint socket userId deviceId hlive
      apply houtside
      rintro rfl
      exact hlive index ((System.mem_trace_tick hfound).2 (.inr rfl))
  refine ⟨by rw [System.state_tick hfound]; exact hdistinct,
    hinvariant.indexed.tick hfound, ?_, tasks_of_tick hfound
      hinvariant.tasks (fun _ _ _ _ _ _ _ => relies_of_redis hredis) hmoved,
    hlatest⟩
  rw [System.state_tick hfound, hredis]
  exact hinvariant.owners

end Steps

/-- A connect after its block on the node. -/
theorem sustained_connected {deployment : Deployment}
    {system : CleanUpSystem} {index : Nat}
    (hcluster : deployment.isStandAloneNode = false) {endpoint : Endpoint}
    {socket : Socket} {userId : UserId} {deviceId : DeviceId}
    {label : NodeLabel} {effect : Cluster → Cluster}
    {next : Cluster → NodeService Unit}
    (hfound : system.tasks[index]? = some ⟨.connect endpoint socket userId
      deviceId, .step label effect next⟩)
    (heffect : effect system.state = system.state.setNode endpoint
      ((system.state.node endpoint).attach deployment endpoint socket userId
        deviceId))
    (hnext : next system.state =
      (SessionService.storeUserNodeData deployment endpoint
        (deployment.organizationOf userId) userId deviceId >>=
          fun _ => pure ()).mapLabel .session) :
    Sustained deployment (system.tick index) index endpoint socket userId
      deviceId := by
  refine ⟨?_, .inl ⟨_, System.getElem?_tick_self hfound, ?_⟩⟩
  · rw [System.state_tick hfound, heffect, Cluster.node_setNode, if_pos rfl]
    exact ActiveSessions.holds_attach deployment endpoint socket userId
      deviceId
  · rw [hnext]
    exact Async.endsWith_mapLabel
      ((SessionService.endsWith_storeUserNodeData deployment endpoint
        hcluster userId deviceId).map _)

section FirstSteps

variable {deployment : Deployment} {system : CleanUpSystem} {index : Nat}
  (hcluster : deployment.isStandAloneNode = false)
  (hinvariant : CleanUpInvariant deployment system)
  (hunstarted : system.Unstarted index)
include hcluster hinvariant hunstarted

/-- The block of a connect. -/
theorem cleanUpInvariant_connected {endpoint : Endpoint} {socket : Socket}
    {userId : UserId} {deviceId : DeviceId} {effect : Cluster → Cluster}
    {next : Cluster → NodeService Unit}
    (hfound : system.tasks[index]? = some ⟨.connect endpoint socket userId
      deviceId, .step (.session (.connected endpoint socket userId
        deviceId)) effect next⟩)
    (heffect : effect system.state = system.state.setNode endpoint
      ((system.state.node endpoint).attach deployment endpoint socket userId
        deviceId))
    (hnext : next system.state =
      (SessionService.storeUserNodeData deployment endpoint
        (deployment.organizationOf userId) userId deviceId >>=
          fun _ => pure ()).mapLabel .session)
    (hnew : (system.state.node endpoint).getDeviceId socket userId = none) :
    CleanUpInvariant deployment (system.tick index) := by
  have hredis : (effect system.state).redis = system.state.redis := by
    rw [heffect]
    rfl
  refine cleanUpInvariant_first hfound hinvariant hredis (fun other => ?_) ?_
    (fun node other otherUser otherDevice _ => ?_) ?_
  · rw [heffect, Cluster.node_setNode]
    split
    · exact ActiveSessions.distinct_attach (hinvariant.distinct endpoint)
        deployment endpoint socket userId deviceId
    · exact hinvariant.distinct other
  · rw [hnext]
    exact Async.tracks_mapLabel (Async.tracks_bind
      (SessionService.tracks_storeUserNodeData endpoint userId rfl hcluster
        _) (fun _ _ _ => trivial))
  · by_cases hother : (userId, deviceId) = (otherUser, otherDevice)
    · exact .inl (congrArg some hother)
    · right
      rw [hnext]
      exact Async.keepsOutside_mapLabel (Async.keepsOutside_bind
        (SessionService.holds_storeUserNodeData endpoint _ hcluster
          hother).1 (fun _ => trivial) (fun _ => trivial))
  · intro otherUser otherDevice latest node otherSocket hlatest hlive
    rw [System.trace_tick hfound, latestConnect_of_connected] at hlatest
    by_cases hother : (userId, deviceId) = (otherUser, otherDevice)
    · -- the connect itself is the latest now
      cases hother
      rw [if_pos rfl, Option.some_or, Option.some.injEq] at hlatest
      cases hlatest
      exact sustained_connected hcluster hfound heffect hnext
    · -- a connect of something else
      rw [if_neg hother, Option.none_or] at hlatest
      have hsustained := hinvariant.latest otherUser otherDevice latest node
        otherSocket hlatest (not_members_of_tick hfound hlive)
      refine hsustained.tick_first hfound ?_ hredis ?_ (fun _ => ?_)
      · rintro rfl
        exact hunstarted _ (started_of_latestConnect hlatest)
      · rw [heffect, Cluster.node_setNode]
        split
        · next hnode =>
            subst hnode
            exact hsustained.connected.attach_of_ne deployment node socket
              userId deviceId (hinvariant.distinct node) hnew
              (Ne.symm hother)
        · exact hsustained.connected
      · rw [hnext]
        exact Async.keeps_mapLabel (Async.keeps_bind
          (SessionService.holds_storeUserNodeData endpoint _ hcluster
            hother).2 (fun _ => trivial))

/-- A clean-up reads the members of its node. -/
theorem cleanUpInvariant_members {nodeEndpoint : Endpoint}
    (hfound : system.tasks[index]? = some ⟨.cleanUp nodeEndpoint,
      SessionService.cleanDestroyedNodeData deployment nodeEndpoint⟩)
    (hcondition : StepUnopposed system index (.members nodeEndpoint)) :
    CleanUpInvariant deployment (system.tick index) := by
  rw [SessionService.cleanDestroyedNodeData_eq_step hcluster] at hfound
  have hdue : ∀ userData ∈
      system.state.redis.listNodeUserDevices nodeEndpoint,
      Due deployment nodeEndpoint system.state.redis userData := by
    intro userData hmem
    obtain ⟨⟨organization, user, device⟩, hmember, rfl⟩ :=
      List.mem_map.1 hmem
    obtain ⟨hread, hbelongs⟩ := hcondition organization user device hmember
    obtain rfl := hinvariant.owners nodeEndpoint organization user device
      hmember
    exact ⟨user, device, hread, hbelongs⟩
  refine cleanUpInvariant_first hfound hinvariant rfl hinvariant.distinct
    (SessionService.tracks_cleanRest ⟨hdue, fun _ hmem => by cases hmem⟩)
    (fun endpoint socket userId deviceId hlabel => .inr ?_) ?_
  · apply (SessionService.holds_cleanRest ?_ _).1
    rintro rfl
    exact hlabel rfl
  · intro userId deviceId latest endpoint socket hlatest hlive
    rw [System.trace_tick hfound, sessionSteps_cleanUp (by simp)] at hlatest
    have hsustained := hinvariant.latest userId deviceId latest endpoint
      socket hlatest (not_members_of_tick hfound hlive)
    have hother : endpoint ≠ nodeEndpoint := by
      rintro rfl
      exact hlive index ((System.mem_trace_tick hfound).2 (.inr rfl))
    refine hsustained.tick_first hfound ?_ rfl hsustained.connected
      (fun hheld => (SessionService.holds_cleanRest hother _).2 ?_)
    · rintro rfl
      exact hunstarted _ (started_of_latestConnect hlatest)
    · -- an entry for the device would belong to the dead node
      intro userData hmem hdevice
      obtain ⟨user, device, rfl, hbelongs⟩ := hdue userData hmem
      rw [Redis.device?_of, Option.some.injEq] at hdevice
      cases hdevice
      have hnode := hbelongs (.inl hheld.registered.devices)
      rw [hheld.registered.node, Option.some.injEq] at hnode
      exact hother hnode

end FirstSteps

section Runs

variable {deployment : Deployment} {system : CleanUpSystem}

theorem cleanUpInvariant_spawn (task : CleanUpTask)
    (hinvariant : CleanUpInvariant deployment system) :
    CleanUpInvariant deployment
      (system.spawn ⟨task, task.program deployment⟩) where
  distinct := hinvariant.distinct
  indexed := hinvariant.indexed.spawn _
  owners := hinvariant.owners
  tasks := fun index started hstarted => by
    rcases System.getElem?_spawn_cases hstarted with hold | ⟨rfl, rfl⟩
    · exact (hinvariant.tasks index started hold).imp id
        (fun hflight => ⟨hflight.started, hflight.tracks, hflight.outside⟩)
    · exact .inl ⟨hinvariant.indexed.unstarted_length, rfl⟩
  latest := fun userId deviceId index endpoint socket hlatest hlive => by
    have hsustained := hinvariant.latest userId deviceId index endpoint
      socket hlatest hlive
    refine ⟨hsustained.connected, ?_⟩
    rcases hsustained.stored with ⟨storing, hstoring, hends⟩ | hguarded
    · exact .inl ⟨storing, System.getElem?_spawn_of_some hstoring _, hends⟩
    · exact .inr (hguarded.spawn hinvariant.indexed _)

/-- The latest connect of a device, once it has finished, is registered. -/
theorem registered_of_finished
    (hinvariant : CleanUpInvariant deployment system) {userId : UserId}
    {deviceId : DeviceId} {index : Nat} {endpoint : Endpoint}
    {socket : Socket}
    (hlatest : latestConnect (sessionSteps system.trace) userId deviceId =
      some (index, endpoint, socket))
    (hfinished : system.nextLabel? index = none)
    (hlive : ∀ other, (other, .members endpoint) ∉ system.trace) :
    system.state.redis.RegisteredAt endpoint
      (deployment.organizationOf userId) userId deviceId := by
  have hsustained := hinvariant.latest userId deviceId index endpoint socket
    hlatest hlive
  rcases hsustained.stored with ⟨⟨tag, body⟩, hstoring, hends⟩ | hguarded
  · -- a finished program has nothing left to store
    cases body with
    | done result => exact hends.elim
    | step label effect next =>
        rw [System.nextLabel?_of_found hstoring] at hfinished
        cases hfinished
  · exact hguarded.holds.registered

/-- A user whom a clean-up may report is not online. -/
theorem Offline.not_online {userData : NodeUser}
    (hoffline : Offline deployment system.state.redis userData)
    (hinvariant : CleanUpInvariant deployment system) {userId : UserId}
    (huser : userData.userId = userId.value) (deviceId : DeviceId) :
    ¬ Online system userId deviceId := by
  rintro ⟨index, endpoint, socket, hlatest, hfinished, hlive⟩
  have hregistered := registered_of_finished hinvariant hlatest hfinished
    hlive
  obtain ⟨user, device, rfl, hnone⟩ := hoffline
  obtain rfl := Redis.eq_of_value huser
  have hmem := hregistered.devices
  rw [Redis.listUserDevice] at hnone
  rw [hnone] at hmem
  cases hmem

variable (hcluster : deployment.isStandAloneNode = false)
include hcluster

/-- A first step, which is not one of a removal or a report. -/
theorem cleanUpInvariant_begin {index : Nat} {tag : CleanUpTask}
    {label : NodeLabel} {effect : Cluster → Cluster}
    {next : Cluster → NodeService Unit}
    (hinvariant : CleanUpInvariant deployment system)
    (hfound : system.tasks[index]? = some ⟨tag, .step label effect next⟩)
    (hunstarted : system.Unstarted index)
    (hbody : .step label effect next = tag.program deployment)
    (hcondition : StepUnopposed system index label) :
    label.begins = true ∧
      CleanUpInvariant deployment (system.tick index) := by
  cases tag with
  | connect endpoint socket userId deviceId =>
      rw [CleanUpTask.program, SessionService.connectDevice_eq_step] at hbody
      cases hbody
      have hnone : ((system.state.node endpoint).addUserDeviceConnection
          socket (deployment.organizationOf userId) userId
          deviceId).1.sameSocketConnection = none :=
        Option.map_eq_none_iff.1 hcondition
      refine ⟨rfl, cleanUpInvariant_connected hcluster hinvariant hunstarted
        hfound rfl ?_ hcondition⟩
      simp only [hnone]
  | cleanUp nodeEndpoint =>
      rw [hbody] at hfound
      rw [CleanUpTask.program,
        SessionService.cleanDestroyedNodeData_eq_step hcluster] at hbody
      cases hbody
      exact ⟨rfl, cleanUpInvariant_members hcluster hinvariant hunstarted
        hfound hcondition⟩

/-- One move of the scheduler. -/
theorem cleanUpInvariant_exec
    (hinvariant : CleanUpInvariant deployment system) (move : CleanUpMove)
    (hcondition : MoveUnopposed system (move.event deployment)) :
    CleanUpInvariant deployment (system.exec (move.event deployment)) ∧
      MoveRemovesOwn system (move.event deployment) ∧
      MoveSparesOnline system (move.event deployment) := by
  cases move with
  | start task =>
      exact ⟨cleanUpInvariant_spawn task hinvariant, trivial, trivial⟩
  | tick index =>
      rcases hlabel : system.nextLabel? index with _ | label
      · change CleanUpInvariant deployment (system.tick index) ∧ _
        rw [System.tick_of_nextLabel?_none hlabel]
        refine ⟨hinvariant, fun _ _ _ _ hremoving => ?_,
          fun _ _ _ hreporting => ?_⟩
        · rw [hlabel] at hremoving
          cases hremoving
        · rw [hlabel] at hreporting
          cases hreporting
      · have hstep := hcondition label hlabel
        obtain ⟨tag, effect, next, hfound, -⟩ :=
          System.tick_of_nextLabel? hlabel
        rcases hinvariant.tasks index _ hfound with
          ⟨hunstarted, hbody⟩ | hflight
        · obtain ⟨hbegins, hafter⟩ := cleanUpInvariant_begin hcluster
            hinvariant hfound hunstarted hbody hstep
          refine ⟨hafter, fun _ _ _ _ hremoving => ?_,
            fun _ _ _ hreporting => ?_⟩
          · rw [hlabel, Option.some.injEq] at hremoving
            rw [hremoving] at hbegins
            cases hbegins
          · rw [hlabel, Option.some.injEq] at hreporting
            rw [hreporting] at hbegins
            cases hbegins
        · obtain ⟨horderly, hafter⟩ := cleanUpInvariant_later hfound
            hinvariant hflight hstep
          have hrightful := horderly.rightful
          refine ⟨hafter, fun _ _ _ _ hremoving => ?_,
            fun _ _ _ hreporting userId deviceId huser => ?_⟩
          · rw [hlabel, Option.some.injEq] at hremoving
            subst hremoving
            rw [System.state_tick hfound]
            exact hrightful
          · rw [hlabel, Option.some.injEq] at hreporting
            subst hreporting
            exact Offline.not_online hrightful hinvariant huser deviceId

end Runs

/-- In every run whose moves all meet the condition, clean-ups remove only
what is registered on their node and report nobody who is online, and once
every started program has finished, the latest connect of a device to a node
that is not cleaned up is registered there. -/
theorem run_cleanUps_spare_others (deployment : Deployment)
    (hcluster : deployment.isStandAloneNode = false)
    (moves : List CleanUpMove)
    (hunopposed : System.Along MoveUnopposed (System.start .empty)
      (moves.map (CleanUpMove.event deployment))) :
    System.Along MoveRemovesOwn (System.start .empty)
        (moves.map (CleanUpMove.event deployment)) ∧
      System.Along MoveSparesOnline (System.start .empty)
        (moves.map (CleanUpMove.event deployment)) ∧
      ((runCleanUps deployment moves).Quiescent →
        ∀ userId deviceId index endpoint socket,
          latestConnect (sessionSteps (runCleanUps deployment moves).trace)
            userId deviceId = some (index, endpoint, socket) →
          (∀ other, (other, .members endpoint) ∉
            (runCleanUps deployment moves).trace) →
          (runCleanUps deployment moves).state.redis.RegisteredAt endpoint
            (deployment.organizationOf userId) userId deviceId) := by
  have hmoves : System.Along (fun _ event => ∃ move,
      event = CleanUpMove.event deployment move) (System.start .empty)
      (moves.map (CleanUpMove.event deployment)) := by
    apply System.along_of_forall
    intro event hevent _
    obtain ⟨move, -, hmove⟩ := List.mem_map.1 hevent
    exact ⟨move, hmove.symm⟩
  have hadmitted := hunopposed.and hmoves
  have hstep : ∀ (system : CleanUpSystem)
      (event : Event CleanUpTask NodeLabel Cluster),
      CleanUpInvariant deployment system →
      (MoveUnopposed system event ∧
        ∃ move, event = CleanUpMove.event deployment move) →
      CleanUpInvariant deployment (system.exec event) ∧
        MoveRemovesOwn system event ∧ MoveSparesOnline system event := by
    rintro system event hbefore ⟨hcondition, move, rfl⟩
    exact cleanUpInvariant_exec hcluster hbefore move hcondition
  have hstart := cleanUpInvariant_start deployment
  refine ⟨.of_invariant (fun system event hbefore hevent => ?_) hstart
      hadmitted,
    .of_invariant (fun system event hbefore hevent => ?_) hstart hadmitted,
    fun hquiescent userId deviceId index endpoint socket hlatest hlive => ?_⟩
  · obtain ⟨hafter, hremoves, -⟩ := hstep system event hbefore hevent
    exact ⟨hafter, hremoves⟩
  · obtain ⟨hafter, -, hspares⟩ := hstep system event hbefore hevent
    exact ⟨hafter, hspares⟩
  · have hinvariant : CleanUpInvariant deployment
        (runCleanUps deployment moves) :=
      System.Along.invariant (fun system event hbefore hevent =>
        (hstep system event hbefore hevent).1) hstart hadmitted
    exact registered_of_finished hinvariant hlatest
      (System.nextLabel?_of_quiescent hquiescent index) hlive

section StaleSnapshot

open Sample

/-- The phone is registered on node A, whose clean-up has read its members. -/
def snapshot : List CleanUpMove :=
  [.start (.connect nodeA 1 alice phone), .tick 0, .tick 0, .tick 0,
    .start (.cleanUp nodeA), .tick 1]

/-- Somebody else connects to node B meanwhile, and the phone afterwards. -/
def quietReconnect : List CleanUpMove :=
  snapshot ++ [.start (.connect nodeB 2 bob laptop), .tick 2, .tick 1,
    .tick 2, .tick 2, .tick 1, .tick 1, .tick 1, .tick 1,
    .start (.connect nodeB 3 alice phone), .tick 3, .tick 3, .tick 3]

theorem quietReconnect_spares_others :
    (runCleanUps ⟨false, fun _ => organization⟩
        quietReconnect).state.redis.RegisteredAt nodeB organization alice
          phone ∧
      System.Along MoveSparesOnline (System.start .empty)
        (quietReconnect.map (CleanUpMove.event
          ⟨false, fun _ => organization⟩)) := by
  have hrun := run_cleanUps_spare_others ⟨false, fun _ => organization⟩ rfl
    quietReconnect ?_
  · refine ⟨hrun.2.2 (by decide) alice phone 3 nodeB 3 (by decide) ?_,
      hrun.2.1⟩
    have hnone : ∀ entry ∈ (runCleanUps ⟨false, fun _ => organization⟩
        quietReconnect).trace, entry.2 ≠ .members nodeB := by decide
    intro other hmembers
    exact hnone _ hmembers rfl
  · refine ⟨trivial,
      moveUnopposed_tick (.session (.connected nodeA 1 alice phone))
        (by decide) rfl,
      moveUnopposed_tick (.session (.listed alice)) (by decide) trivial,
      moveUnopposed_tick (.session (.stored nodeA alice phone)) (by decide)
        (show Unopposed _ 0 alice phone by decide),
      trivial,
      moveUnopposed_tick (.members nodeA) (by decide) ?_,
      trivial,
      moveUnopposed_tick (.session (.connected nodeB 2 bob laptop))
        (by decide) rfl,
      moveUnopposed_tick (.removing nodeA (.of organization alice phone) []
        []) (by decide) trivial,
      moveUnopposed_tick (.session (.listed bob)) (by decide) trivial,
      moveUnopposed_tick (.session (.stored nodeB bob laptop)) (by decide)
        (show Unopposed _ 2 bob laptop by decide),
      moveUnopposed_tick (.counting nodeA (.of organization alice phone) []
        []) (by decide) trivial,
      moveUnopposed_tick (.removing nodeA (.of organization alice phone) []
        []) (by decide) trivial,
      moveUnopposed_tick (.forgetting nodeA [.of organization alice phone])
        (by decide) trivial,
      moveUnopposed_tick (.reporting nodeA (.of organization alice phone)
        []) (by decide) trivial,
      trivial,
      moveUnopposed_tick (.session (.connected nodeB 3 alice phone))
        (by decide) rfl,
      moveUnopposed_tick (.session (.listed alice)) (by decide) trivial,
      moveUnopposed_tick (.session (.stored nodeB alice phone)) (by decide)
        (show Unopposed _ 3 alice phone by decide), trivial⟩
    intro organizationId userId deviceId hmem
    change _ ∈ [(organization, alice, phone)] at hmem
    rw [List.mem_singleton] at hmem
    cases hmem
    exact ⟨by decide, by decide⟩

/-- The phone connects to node B before the clean-up goes on. -/
def reconnected : List CleanUpMove :=
  snapshot ++ [.start (.connect nodeB 2 alice phone), .tick 2, .tick 2,
    .tick 2, .tick 2, .tick 2, .tick 2, .tick 2, .tick 2]

/-- The clean-up goes on with its list. -/
def removedAgain : List CleanUpMove :=
  reconnected ++ [.tick 1, .tick 1, .tick 1, .tick 1]

/-- It ends with a report. -/
def staleSnapshot : List CleanUpMove := removedAgain ++ [.tick 1]

/-- The clean-up removes the registration on node B and reports the user as
offline, and nothing registers the phone again. -/
theorem reconnected_removed :
    (¬ ∀ moves : List CleanUpMove, System.Along MoveRemovesOwn
      (System.start .empty) (moves.map (CleanUpMove.event
        ⟨false, fun _ => organization⟩))) ∧
    (¬ ∀ moves : List CleanUpMove, System.Along MoveSparesOnline
      (System.start .empty) (moves.map (CleanUpMove.event
        ⟨false, fun _ => organization⟩))) ∧
    ¬ ∀ (moves : List CleanUpMove) (userId : UserId) (deviceId : DeviceId)
      (index : Nat) (endpoint : Endpoint) (socket : Socket),
      (runCleanUps ⟨false, fun _ => organization⟩ moves).Quiescent →
      latestConnect (sessionSteps (runCleanUps
        ⟨false, fun _ => organization⟩ moves).trace) userId deviceId =
          some (index, endpoint, socket) →
      (∀ other, (other, .members endpoint) ∉ (runCleanUps
        ⟨false, fun _ => organization⟩ moves).trace) →
      (runCleanUps ⟨false, fun _ => organization⟩
        moves).state.redis.RegisteredAt endpoint organization userId
          deviceId := by
  refine ⟨fun hclaim => ?_, fun hclaim => ?_, fun hclaim => ?_⟩
  · have hrun := hclaim (reconnected ++ [.tick 1])
    rw [List.map_append, List.map_singleton] at hrun
    have hown := hrun.at nodeA (.of organization alice phone) [] []
      (by decide)
    have hnode := hown.devices organization alice phone (by decide)
      (by decide)
    exact absurd hnode (by decide)
  · have hrun := hclaim staleSnapshot
    rw [staleSnapshot, List.map_append, List.map_singleton] at hrun
    apply hrun.at nodeA (.of organization alice phone) [] (by decide) alice
      phone rfl
    have hnone : ∀ entry ∈ (runCleanUps ⟨false, fun _ => organization⟩
        removedAgain).trace, entry.2 ≠ .members nodeB := by decide
    exact ⟨2, nodeB, 2, by decide, by decide,
      fun other hmembers => hnone _ hmembers rfl⟩
  · have hnone : ∀ entry ∈ (runCleanUps ⟨false, fun _ => organization⟩
        staleSnapshot).trace, entry.2 ≠ .members nodeB := by decide
    have hregistered := hclaim staleSnapshot alice phone 2 nodeB 2
      (by decide) (by decide) (fun other hmembers => hnone _ hmembers rfl)
    exact absurd hregistered.devices (by decide)

end StaleSnapshot

end SamaServer
