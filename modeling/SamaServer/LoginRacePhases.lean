/-
The registration of the device while a login and a close race.  Each phase of
the race (connected, stored, closed) says what is still in flight, and leads
to one in which a removal or a sweep is bound to take the registration away.
-/
import SamaServer.LoginRace

namespace SamaServer

namespace SessionService

variable {deployment : Deployment}
  (hcluster : deployment.isStandAloneNode = false) (endpoint : Endpoint)
  (organizationId : OrganizationId) (userId : UserId) {deviceId : DeviceId}

/-- A removal, opened after its first command. -/
theorem removeAllUserDeviceData_bind (deployment : Deployment) {A : Type}
    (deviceId : DeviceId) (rest : Bool → Service A) :
    (removeAllUserDeviceData deployment endpoint organizationId userId
      deviceId >>= rest) =
      (redisUpdate (.removing userId deviceId) (fun redis =>
        redis.removeUserDevice organizationId userId deviceId) >>= fun _ =>
          removeOtherKeys endpoint organizationId userId deviceId >>= fun _ =>
            listUserDevice deployment endpoint organizationId userId true >>=
              fun leftDevices => rest leftDevices.isEmpty) := by
  rw [removeAllUserDeviceData, removeDeviceKeys_eq]
  simp only [Async.bind_assoc, Async.pure_eq_done, Async.done_bind]

/-- What the end of a close still does about the device whose registration
the login is about to store. -/
inductive CloseRest (deployment : Deployment) (endpoint : Endpoint)
    (organizationId : OrganizationId) (userId : UserId)
    (deviceId : DeviceId) (earlier : Prop) : Service Unit → Prop
  | keys (rest : Bool → Service Unit)
      (hrest : ∀ isLast, (rest isLast).Guarantees Idle) :
      CloseRest deployment endpoint organizationId userId deviceId earlier
        (removeAllUserDeviceData deployment endpoint organizationId userId
          deviceId >>= rest)
  | sweep (middle : Service Unit) (rest : List DeviceId → Service Unit)
      (hmiddle : middle.Guarantees
        (Sweeping endpoint organizationId userId deviceId))
      (hrest : ∀ leftDevices, (rest leftDevices).Guarantees Idle) :
      CloseRest deployment endpoint organizationId userId deviceId earlier
        (middle >>= fun _ => listUserDevice deployment endpoint
          organizationId userId true >>= rest)
  | swept (closing : Service Unit)
      (hclosing : closing.Guarantees
        (Sweeping endpoint organizationId userId deviceId))
      (hearlier : earlier) :
      CloseRest deployment endpoint organizationId userId deviceId earlier
        closing

variable {earlier : Prop} {closing : Service Unit}

include hcluster

theorem sweeping_sweepRest {rest : List DeviceId → Service Unit}
    (hrest : ∀ leftDevices, (rest leftDevices).Guarantees Idle) :
    (listUserDevice deployment endpoint organizationId userId true >>=
      rest).Guarantees
        (Sweeping endpoint organizationId userId deviceId) :=
  Async.guarantees_bind (sweeping_listUserDevice endpoint organizationId
    userId hcluster true) (fun leftDevices => (hrest leftDevices).mono
      (fun _ _ _ hidle => hidle.sweeping))

theorem CloseRest.shrinks
    (hclosing : CloseRest deployment endpoint organizationId userId deviceId
      earlier closing) :
    closing.Guarantees (Shrinks endpoint organizationId userId deviceId) := by
  cases hclosing with
  | keys rest hrest =>
      exact Async.guarantees_bind ((removing_removeAllUserDeviceData endpoint
        organizationId userId deployment deviceId).mono
          (fun _ _ _ hremoving => hremoving.shrinks)) (fun isLast =>
            (hrest isLast).mono (fun _ _ _ hidle => hidle.removing.shrinks))
  | sweep middle rest hmiddle hrest =>
      apply Async.Guarantees.mono (G := Sweeping endpoint organizationId
        userId deviceId)
      · exact Async.guarantees_bind hmiddle (fun _ =>
          sweeping_sweepRest hcluster endpoint organizationId userId hrest)
      · exact fun _ _ _ hsweeping => hsweeping.toShrinks
  | swept closing hclosing _ =>
      exact hclosing.mono (fun _ _ _ hsweeping => hsweeping.toShrinks)

/-- One step of the end of a close.  A login that has not stored by the time
the close lists the devices must be one of a socket that was connected
before. -/
theorem CloseRest.step {label : Label} {effect : Cluster → Cluster}
    {next : Cluster → Service Unit}
    (hclosing : CloseRest deployment endpoint organizationId userId deviceId
      earlier (.step label effect next))
    (hlisted : label = .listed userId → earlier) (cluster : Cluster) :
    CloseRest deployment endpoint organizationId userId deviceId earlier
      (next cluster) := by
  generalize hbody : Async.step label effect next = body at hclosing
  cases hclosing with
  | keys rest hrest =>
      rw [removeAllUserDeviceData_bind] at hbody
      cases hbody
      exact .sweep (removeOtherKeys endpoint organizationId userId deviceId)
        (fun leftDevices => rest leftDevices.isEmpty)
        (sweeping_removeOtherKeys endpoint organizationId userId deviceId)
        (fun leftDevices => hrest leftDevices.isEmpty)
  | sweep middle rest hmiddle hrest =>
      cases middle with
      | done result =>
          have hsweep : (listUserDevice deployment endpoint organizationId
              userId true >>= rest).Guarantees
                (Sweeping endpoint organizationId userId deviceId) :=
            sweeping_sweepRest hcluster endpoint organizationId userId hrest
          have hlabel : label = .listed userId := by
            simp only [listUserDevice, hcluster] at hbody
            cases hbody
            rfl
          change Async.step label effect next = (listUserDevice deployment
            endpoint organizationId userId true >>= rest) at hbody
          rw [← hbody] at hsweep
          exact .swept (next cluster) (hsweep cluster).2 (hlisted hlabel)
      | step own update later =>
          cases hbody
          exact .sweep (later cluster) rest (hmiddle cluster).2 hrest
  | swept closing hclosing hearlier =>
      rw [← hbody] at hclosing
      exact .swept (next cluster) (hclosing cluster).2 hearlier

end SessionService

section Keys

variable {deployment : Deployment}
  (hcluster : deployment.isStandAloneNode = false) {endpoint : Endpoint}
  {socket : Socket} {userId : UserId} {deviceId : DeviceId}
  {P : RaceSystem → Event RaceTask Label Cluster → Prop}

/-- The socket is connected with the device, in a session of the user. -/
structure ConnectedAs (deployment : Deployment) (socket : Socket)
    (userId : UserId) (deviceId : DeviceId) (active : ActiveSessions) :
    Prop where
  session : ∃ session, active.getSession socket = some session ∧
    session.userId = userId ∧
    session.organizationId = deployment.organizationOf userId
  device : active.getDeviceId socket userId = some deviceId

include hcluster

/-- The block of a close of a connected socket is followed by the removal of
its device. -/
theorem ConnectedAs.closeRest {active : ActiveSessions}
    (hconnected : ConnectedAs deployment socket userId deviceId active)
    (endpoint : Endpoint) :
    ∃ rest : Bool → Service Unit,
      (∀ isLast, (rest isLast).Guarantees Idle) ∧
      SessionService.closeRest deployment endpoint
          (active.closeConnection socket).1 =
        (SessionService.removeAllUserDeviceData deployment endpoint
          (deployment.organizationOf userId) userId deviceId >>= rest) := by
  obtain ⟨session, hsession, rfl, horganization⟩ := hconnected.session
  refine ⟨fun isLast => if isLast then awaitAnswer () else pure (),
    fun isLast => ?_, ?_⟩
  · cases isLast with
    | true => exact SessionService.idle_awaitAnswer ()
    | false => trivial
  · simp only [ActiveSessions.closeConnection, hsession,
      SessionService.closeRest, SessionService.finishRemoval,
      ActiveSessions.removeConnection, Option.none_or, hconnected.device,
      hcluster, Option.map_some, Option.getD_some, horganization,
      Bool.false_eq_true, if_false]

/-- The close of a connected socket is still to come, and nothing stores the
device any more. -/
theorem promises_of_close {cluster : Cluster} {entering : Service Unit}
    {trace : List (Nat × Label)}
    (hconnected : ConnectedAs deployment socket userId deviceId
      (cluster.node endpoint))
    (hown : OwnHash endpoint (deployment.organizationOf userId) userId
      deviceId cluster)
    (hentering : entering.Guarantees (Shrinks endpoint
      (deployment.organizationOf userId) userId deviceId)) :
    System.Promises P (fun cluster => cluster.redis.NotRegistered endpoint
        (deployment.organizationOf userId) userId deviceId)
      (racing cluster entering
        (SessionService.onClose deployment endpoint socket) trace) := by
  refine System.promises_of_phase (F := fun system =>
    ∃ cluster entering trace, system = racing cluster entering
        (SessionService.onClose deployment endpoint socket) trace ∧
      ConnectedAs deployment socket userId deviceId
        (cluster.node endpoint) ∧
      OwnHash endpoint (deployment.organizationOf userId) userId deviceId
        cluster ∧
      entering.Guarantees (Shrinks endpoint
        (deployment.organizationOf userId) userId deviceId)) ?_ ?_
    ⟨cluster, entering, trace, rfl, hconnected, hown, hentering⟩
  · rintro _ ⟨cluster, entering, trace, rfl, -⟩
    exact racing_not_quiescent_closing
      (SessionService.onClose_eq_step deployment endpoint socket)
  · rintro _ index ⟨cluster, entering, trace, rfl, hconnected, hown,
      hentering⟩ -
    rcases racing_tick_cases cluster entering _ trace index with
      hsame | ⟨-, label, effect, next, rfl, htick⟩ |
        ⟨-, label, effect, next, hclose, htick⟩
    · rw [hsame]
      exact .inl ⟨cluster, entering, trace, rfl, hconnected, hown, hentering⟩
    · obtain ⟨hshrinks, hnext⟩ := hentering cluster
      rw [htick]
      refine .inl ⟨effect cluster, next cluster, _, rfl, ?_,
        hown.of_shrinks hshrinks.toShrinksKeys, hnext⟩
      rw [hshrinks.node]
      exact hconnected
    · rw [SessionService.onClose_eq_step] at hclose
      cases hclose
      obtain ⟨rest, hrest, heq⟩ := hconnected.closeRest hcluster
        endpoint
      rw [htick]
      right
      dsimp only
      rw [heq]
      have hkeys : SessionService.RemovesKeys endpoint
          (deployment.organizationOf userId) userId deviceId
          (SessionService.removeAllUserDeviceData deployment endpoint
            (deployment.organizationOf userId) userId deviceId >>= rest) :=
        (SessionService.removesKeys_removeAllUserDeviceData endpoint _ userId
          deployment deviceId).bind rest
      refine promises_of_removesKeys hown (racing_tasks
        (guarantees_keys hentering) (guarantees_keys ?_))
        (List.mem_cons_of_mem _ List.mem_cons_self) hkeys
      exact Async.guarantees_bind
        ((SessionService.removing_removeAllUserDeviceData endpoint _ userId
          deployment deviceId).mono (fun _ _ _ hremoving =>
            hremoving.shrinks)) (fun isLast => (hrest isLast).mono
              (fun _ _ _ hidle => hidle.removing.shrinks))

end Keys

section Storing

variable {deployment : Deployment}
  (hcluster : deployment.isStandAloneNode = false) {endpoint : Endpoint}
  {socket : Socket} {userId : UserId} {deviceId : DeviceId}

/-- The command that stores the registration. -/
def storing (deployment : Deployment) (endpoint : Endpoint)
    (userId : UserId) (deviceId : DeviceId) : Service Unit :=
  redisUpdate (.stored endpoint userId deviceId) (fun redis =>
    redis.addUserDeviceDataTransaction endpoint
      (deployment.organizationOf userId) userId deviceId)

/-- The end of a connect: the device the socket was connected with before is
cleared. -/
def clearing (deployment : Deployment) (endpoint : Endpoint)
    (userId : UserId) (replaced : Option Connection)
    (answer : Service Unit) : Service Unit :=
  match replaced with
  | none => answer
  | some connection =>
      SessionService.removeAllUserDeviceData deployment endpoint
        (deployment.organizationOf userId) userId connection.deviceId >>=
          fun _ => answer

/-- The connection of the socket that a connect replaces. -/
def replacedConnection (active : ActiveSessions) (socket : Socket)
    (userId : UserId) : Option Connection :=
  (active.getUserDevices userId).find?
    (fun connection => connection.socket = socket)

theorem connectDevice_bind (deployment : Deployment) (endpoint : Endpoint)
    (socket : Socket) (userId : UserId) (deviceId : DeviceId)
    (answer : Service Unit) :
    (SessionService.connectDevice deployment endpoint socket userId
      deviceId >>= fun _ => answer) =
      .step (.connected endpoint socket userId deviceId)
        (fun cluster => cluster.setNode endpoint ((cluster.node
          endpoint).attach deployment endpoint socket userId deviceId))
        (fun cluster =>
          SessionService.storeUserNodeData deployment endpoint
            (deployment.organizationOf userId) userId deviceId >>= fun _ =>
              clearing deployment endpoint userId
                (replacedConnection (cluster.node endpoint) socket userId)
                answer) := by
  rw [SessionService.connectDevice_eq_step, Async.step_bind]
  congr 1
  funext cluster
  rw [Async.bind_assoc]
  congr 1
  funext _
  simp only [ActiveSessions.addUserDeviceConnection, replacedConnection]
  cases ((cluster.node endpoint).getUserDevices userId).find?
    (fun connection => connection.socket = socket) with
  | none => rfl
  | some connection =>
      simp only [clearing, Async.bind_assoc]
      rfl

include hcluster

/-- In a cluster, `storeUserNodeData` is a prelude and the storing command. -/
theorem storeUserNodeData_eq (endpoint : Endpoint) (userId : UserId)
    (deviceId : DeviceId) :
    ∃ prelude : Service Unit,
      prelude.Guarantees (Shrinks endpoint
        (deployment.organizationOf userId) userId deviceId) ∧
      SessionService.storeUserNodeData deployment endpoint
          (deployment.organizationOf userId) userId deviceId =
        (prelude >>= fun _ =>
          storing deployment endpoint userId deviceId) := by
  refine ⟨SessionService.listUserDevice deployment endpoint
    (deployment.organizationOf userId) userId false >>= fun userDeviceIds =>
      if deviceId ∈ userDeviceIds then
        SessionService.removeAllUserDeviceData deployment endpoint
          (deployment.organizationOf userId) userId deviceId >>=
            fun _ => pure ()
      else pure (), ?_, ?_⟩
  · apply Async.guarantees_bind ((SessionService.sweeping_listUserDevice
      endpoint _ userId hcluster false).mono
        (fun _ _ _ hsweeping => hsweeping.toShrinks))
    intro userDeviceIds
    split
    · exact Async.guarantees_bind
        ((SessionService.removing_removeAllUserDeviceData endpoint _ userId
          deployment deviceId).mono (fun _ _ _ hremoving =>
            hremoving.shrinks)) (fun _ => trivial)
    · trivial
  · simp only [SessionService.storeUserNodeData, hcluster,
      Bool.false_eq_true, if_false, Async.bind_assoc]
    congr 1
    funext userDeviceIds
    split
    · rw [Async.bind_assoc]
      rfl
    · rfl

end Storing

section Phases

variable {deployment : Deployment}
  (hcluster : deployment.isStandAloneNode = false) {endpoint : Endpoint}
  {socket : Socket} {userId : UserId} {deviceId : DeviceId}
  {P : RaceSystem → Event RaceTask Label Cluster → Prop}
  {replaced : Option Connection} {answer : Service Unit}
  (hanswer : answer.Guarantees Idle)

include hcluster hanswer

omit hcluster in
theorem shrinks_clearing (replaced : Option Connection) :
    (clearing deployment endpoint userId replaced answer).Guarantees
      (Shrinks endpoint (deployment.organizationOf userId) userId
        deviceId) := by
  have hidle : answer.Guarantees (Shrinks endpoint
      (deployment.organizationOf userId) userId deviceId) :=
    hanswer.mono (fun _ _ _ hidle => hidle.removing.shrinks)
  cases replaced with
  | none => exact hidle
  | some connection =>
      exact Async.guarantees_bind
        ((SessionService.removing_removeAllUserDeviceData endpoint _ userId
          deployment connection.deviceId).mono (fun _ _ _ hremoving =>
            hremoving.shrinks)) (fun _ => hidle)

theorem sweeping_clearing (hother : ¬ ∃ connection,
    replaced = some connection ∧ connection.deviceId = deviceId) :
    (clearing deployment endpoint userId replaced answer).Guarantees
      (Sweeping endpoint (deployment.organizationOf userId) userId
        deviceId) := by
  have hidle : answer.Guarantees (Sweeping endpoint
      (deployment.organizationOf userId) userId deviceId) :=
    hanswer.mono (fun _ _ _ hidle => hidle.sweeping)
  cases replaced with
  | none => exact hidle
  | some connection =>
      exact Async.guarantees_bind
        (SessionService.sweeping_removeAllUserDeviceData endpoint _ userId
          hcluster (fun heq => hother ⟨connection, rfl, heq⟩))
        (fun _ => hidle)

/-- The login has just stored the registration, after the close of the
socket. -/
theorem promises_stored {cluster : Cluster} {closing : Service Unit}
    {trace : List (Nat × Label)}
    (hunconnected : ∀ connection ∈
      (cluster.node endpoint).getUserDevices userId,
      connection.deviceId ≠ deviceId)
    (hclosing : SessionService.CloseRest deployment endpoint
      (deployment.organizationOf userId) userId deviceId (replaced ≠ none)
      closing) :
    System.Promises P (fun cluster => cluster.redis.NotRegistered endpoint
        (deployment.organizationOf userId) userId deviceId)
      (racing (cluster.setRedis (cluster.redis.addUserDeviceDataTransaction
          endpoint (deployment.organizationOf userId) userId deviceId))
        (clearing deployment endpoint userId replaced answer) closing
        trace) := by
  have hregistered := Redis.registeredAt_addUserDeviceDataTransaction
    cluster.redis endpoint userId deviceId
    (deployment.organizationOf userId)
  have hhash : ∀ registered,
      ((cluster.redis.addUserDeviceDataTransaction endpoint
        (deployment.organizationOf userId) userId
          deviceId).retrieveUserExtraParams userId deviceId).nodeEndpoint =
        some registered → registered = endpoint := by
    intro registered heq
    rw [hregistered.node, Option.some.injEq] at heq
    exact heq.symm
  have hshrinks : (clearing deployment endpoint userId replaced
      answer).Guarantees (Shrinks endpoint
        (deployment.organizationOf userId) userId deviceId) :=
    shrinks_clearing hanswer replaced
  have hdoomed : Doomed endpoint (deployment.organizationOf userId) userId
      deviceId (cluster.setRedis
        (cluster.redis.addUserDeviceDataTransaction endpoint
          (deployment.organizationOf userId) userId deviceId)) :=
    ⟨hunconnected, hhash, .inl hregistered.devices⟩
  by_cases hsame : ∃ connection, replaced = some connection ∧
      connection.deviceId = deviceId
  · -- the login goes on to remove the very same device
    obtain ⟨connection, rfl, rfl⟩ := hsame
    refine promises_of_removesKeys (fun _ => hhash) (racing_tasks
      (guarantees_keys hshrinks)
      (guarantees_keys (hclosing.shrinks hcluster endpoint _ userId)))
      List.mem_cons_self ?_
    exact (SessionService.removesKeys_removeAllUserDeviceData endpoint _
      userId deployment connection.deviceId).bind _
  have hsweeping : (clearing deployment endpoint userId replaced
      answer).Guarantees (Sweeping endpoint
        (deployment.organizationOf userId) userId deviceId) :=
    sweeping_clearing hcluster hanswer hsame
  have hall := hclosing.shrinks hcluster endpoint _ userId
  cases hclosing with
  | keys rest hrest =>
      refine promises_of_removesKeys (fun _ => hhash) (racing_tasks
        (guarantees_keys hshrinks) (guarantees_keys hall))
        (List.mem_cons_of_mem _ List.mem_cons_self) ?_
      exact (SessionService.removesKeys_removeAllUserDeviceData endpoint _
        userId deployment deviceId).bind _
  | sweep middle rest hmiddle hrest =>
      refine promises_of_sweep hdoomed (racing_tasks hsweeping
        (Async.guarantees_bind hmiddle (fun _ =>
          SessionService.sweeping_sweepRest hcluster endpoint _ userId
            hrest))) (List.mem_cons_of_mem _ List.mem_cons_self) ?_
      apply Async.establishes_bind_rest
      intro _
      exact (SessionService.establishes_listUserDevice endpoint _ userId
        hcluster).bind rest
  | swept closing hover hearlier =>
      obtain ⟨connection, rfl⟩ := Option.ne_none_iff_exists'.1 hearlier
      refine promises_of_sweep hdoomed (racing_tasks hsweeping hover)
        List.mem_cons_self ?_
      apply Async.Establishes.bind
      apply Async.establishes_bind_rest
      intro _
      exact (SessionService.establishes_listUserDevice endpoint _ userId
        hcluster).bind _

variable (hadmits : ∀ system, P system (.tick 1) →
  system.nextLabel? 1 = some (.listed userId) →
  (0, .stored endpoint userId deviceId) ∈ system.trace ∨ replaced ≠ none)

include hadmits

/-- The close has removed the connection, and the login is still to store the
registration. -/
theorem promises_storing {cluster : Cluster} {prelude closing : Service Unit}
    {trace : List (Nat × Label)}
    (hprelude : prelude.Guarantees (Shrinks endpoint
      (deployment.organizationOf userId) userId deviceId))
    (hunconnected : ∀ connection ∈
      (cluster.node endpoint).getUserDevices userId,
      connection.deviceId ≠ deviceId)
    (hclosing : SessionService.CloseRest deployment endpoint
      (deployment.organizationOf userId) userId deviceId (replaced ≠ none)
      closing)
    (hunstored : (0, .stored endpoint userId deviceId) ∉ trace) :
    System.Promises P (fun cluster => cluster.redis.NotRegistered endpoint
        (deployment.organizationOf userId) userId deviceId)
      (racing cluster (prelude >>= fun _ =>
        storing deployment endpoint userId deviceId >>= fun _ =>
          clearing deployment endpoint userId replaced answer)
        closing trace) := by
  refine System.promises_of_phase (F := fun system =>
    ∃ cluster prelude closing trace, system = racing cluster
        (prelude >>= fun _ =>
          storing deployment endpoint userId deviceId >>= fun _ =>
            clearing deployment endpoint userId replaced answer)
        closing trace ∧
      prelude.Guarantees (Shrinks endpoint
        (deployment.organizationOf userId) userId deviceId) ∧
      (∀ connection ∈ (cluster.node endpoint).getUserDevices userId,
        connection.deviceId ≠ deviceId) ∧
      SessionService.CloseRest deployment endpoint
        (deployment.organizationOf userId) userId deviceId (replaced ≠ none)
        closing ∧
      (0, .stored endpoint userId deviceId) ∉ trace) ?_ ?_
    ⟨cluster, prelude, closing, trace, rfl, hprelude, hunconnected, hclosing,
      hunstored⟩
  · rintro _ ⟨cluster, prelude, closing, trace, rfl, -⟩
    cases prelude with
    | done result => exact racing_not_quiescent_entering rfl
    | step label effect next => exact racing_not_quiescent_entering rfl
  · rintro _ index ⟨cluster, prelude, closing, trace, rfl, hprelude,
      hunconnected, hclosing, hunstored⟩ hadmitted
    rcases racing_tick_cases cluster _ closing trace index with hsame |
      ⟨-, label, effect, next, henter, htick⟩ |
      ⟨rfl, label, effect, next, hclose, htick⟩
    · rw [hsame]
      exact .inl ⟨cluster, prelude, closing, trace, rfl, hprelude,
        hunconnected, hclosing, hunstored⟩
    · cases prelude with
      | done result =>
          right
          cases henter
          rw [htick]
          exact promises_stored hcluster hanswer hunconnected hclosing
      | step own update later =>
          left
          cases henter
          obtain ⟨hshrinks, hlater⟩ := hprelude cluster
          refine ⟨effect cluster, later cluster, closing, _, htick, hlater,
            ?_, hclosing, ?_⟩
          · rw [hshrinks.node]
            exact hunconnected
          · refine List.not_mem_append hunstored (fun hnew => ?_)
            cases List.mem_singleton.1 hnew
            exact hshrinks.unstored rfl
    · left
      subst hclose
      have hshrinks := (hclosing.shrinks hcluster endpoint _ userId
        cluster).1
      refine ⟨effect cluster, prelude, next cluster, _, htick, hprelude, ?_,
        hclosing.step hcluster endpoint _ userId (fun hlabel => ?_) cluster,
        ?_⟩
      · rw [hshrinks.node]
        exact hunconnected
      · rw [hlabel] at hadmitted
        exact (hadmits _ hadmitted rfl).resolve_left hunstored
      · refine List.not_mem_append hunstored (fun hnew => ?_)
        cases List.mem_singleton.1 hnew

omit hanswer hadmits hcluster in
/-- The close leaves no connection of the device on the node. -/
theorem ConnectedAs.unconnected {active : ActiveSessions}
    (hconnected : ConnectedAs deployment socket userId deviceId active) :
    ∀ connection ∈
      (active.closeConnection socket).2.getUserDevices userId,
      connection.deviceId ≠ deviceId := by
  obtain ⟨session, hsession, rfl, -⟩ := hconnected.session
  intro connection hmem
  simp only [ActiveSessions.closeConnection, hsession] at hmem
  rw [ActiveSessions.getUserDevices_removeConnection, if_pos rfl,
    List.mem_filter, decide_eq_true_iff, Option.none_or,
    hconnected.device] at hmem
  exact fun heq => hmem.2 (congrArg some heq)

/-- The login has installed the connection and is still to store the
registration, and the close is still to come. -/
theorem promises_connected {cluster : Cluster} {prelude : Service Unit}
    {trace : List (Nat × Label)}
    (hconnected : ConnectedAs deployment socket userId deviceId
      (cluster.node endpoint))
    (hprelude : prelude.Guarantees (Shrinks endpoint
      (deployment.organizationOf userId) userId deviceId))
    (hunstored : (0, .stored endpoint userId deviceId) ∉ trace) :
    System.Promises P (fun cluster => cluster.redis.NotRegistered endpoint
        (deployment.organizationOf userId) userId deviceId)
      (racing cluster (prelude >>= fun _ =>
        storing deployment endpoint userId deviceId >>= fun _ =>
          clearing deployment endpoint userId replaced answer)
        (SessionService.onClose deployment endpoint socket) trace) := by
  refine System.promises_of_phase (F := fun system =>
    ∃ cluster prelude trace, system = racing cluster
        (prelude >>= fun _ =>
          storing deployment endpoint userId deviceId >>= fun _ =>
            clearing deployment endpoint userId replaced answer)
        (SessionService.onClose deployment endpoint socket) trace ∧
      ConnectedAs deployment socket userId deviceId
        (cluster.node endpoint) ∧
      prelude.Guarantees (Shrinks endpoint
        (deployment.organizationOf userId) userId deviceId) ∧
      (0, .stored endpoint userId deviceId) ∉ trace) ?_ ?_
    ⟨cluster, prelude, trace, rfl, hconnected, hprelude, hunstored⟩
  · rintro _ ⟨cluster, prelude, trace, rfl, -⟩
    exact racing_not_quiescent_closing
      (SessionService.onClose_eq_step deployment endpoint socket)
  · rintro _ index ⟨cluster, prelude, trace, rfl, hconnected, hprelude,
      hunstored⟩ hadmitted
    rcases racing_tick_cases cluster _ _ trace index with hsame |
      ⟨-, label, effect, next, henter, htick⟩ |
      ⟨rfl, label, effect, next, hclose, htick⟩
    · rw [hsame]
      exact .inl ⟨cluster, prelude, trace, rfl, hconnected, hprelude,
        hunstored⟩
    · cases prelude with
      | done result =>
          right
          cases henter
          rw [htick]
          refine promises_of_close hcluster hconnected ?_
            (shrinks_clearing hanswer replaced)
          intro _ registered hregistered
          have hnode := (Redis.registeredAt_addUserDeviceDataTransaction
            cluster.redis endpoint userId deviceId
              (deployment.organizationOf userId)).node
          exact Option.some.inj (hregistered.symm.trans hnode)
      | step own update later =>
          left
          cases henter
          obtain ⟨hshrinks, hlater⟩ := hprelude cluster
          refine ⟨effect cluster, later cluster, _, htick, ?_, hlater, ?_⟩
          · rw [hshrinks.node]
            exact hconnected
          · refine List.not_mem_append hunstored (fun hnew => ?_)
            cases List.mem_singleton.1 hnew
            exact hshrinks.unstored rfl
    · right
      rw [SessionService.onClose_eq_step] at hclose
      cases hclose
      obtain ⟨rest, hrest, heq⟩ := hconnected.closeRest hcluster endpoint
      rw [htick]
      dsimp only
      rw [heq]
      refine promises_storing hcluster hanswer hadmits hprelude ?_
        (.keys rest hrest) ?_
      · rw [Cluster.node_setNode, if_pos rfl]
        exact hconnected.unconnected
      · refine List.not_mem_append hunstored (fun hnew => ?_)
        cases List.mem_singleton.1 hnew

end Phases

end SamaServer
