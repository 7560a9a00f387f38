/-
All interleavings of a login or connect with the close of its socket.  The
login waits for its lookups first; from the step that installs the connection
on, the tables and the registrations are followed separately.
-/
import SamaServer.LoginRacePhases

namespace SamaServer

/-- A program that changes nothing until it becomes the target. -/
inductive Awaits (target : Service Unit) : Service Unit → Prop
  | here : Awaits target target
  | later {label : Label} {effect : Cluster → Cluster}
      {next : Cluster → Service Unit}
      (hidle : ∀ cluster, Idle label cluster (effect cluster))
      (hnext : ∀ cluster, Awaits target (next cluster)) :
      Awaits target (.step label effect next)

theorem awaits_awaitAnswer {A : Type} {target : Service Unit} {answer : A}
    {rest : A → Service Unit} (hrest : Awaits target (rest answer)) :
    Awaits target (awaitAnswer answer >>= rest) :=
  .later (fun _ => ⟨rfl, rfl, rfl⟩) (fun _ => hrest)

section Lookups

variable (deployment : Deployment) (endpoint : Endpoint) (socket : Socket)
  (directory : Directory)

open SessionService

theorem awaits_authByToken {token : String} {deviceId : DeviceId}
    {target : Service Unit}
    {rest : Except OperationError UserId → Service Unit}
    (hrest : Awaits target (rest (directory.authenticateToken token
      deviceId))) :
    Awaits target (authByToken directory token deviceId >>= rest) := by
  rw [authByToken, Async.bind_assoc]
  apply awaits_awaitAnswer
  rw [Directory.authenticateToken] at hrest
  cases htoken : directory.findToken token deviceId with
  | none =>
      rw [htoken] at hrest
      exact hrest
  | some userId =>
      rw [htoken] at hrest
      rw [Async.bind_assoc]
      exact awaits_awaitAnswer hrest

theorem awaits_authByUserInfo {userInfo : UserInfo} {target : Service Unit}
    {rest : Except OperationError UserId → Service Unit}
    (hrest : Awaits target (rest (directory.authenticateUserInfo
      userInfo))) :
    Awaits target (authByUserInfo directory userInfo >>= rest) := by
  rw [authByUserInfo, Async.bind_assoc]
  apply awaits_awaitAnswer
  rw [Directory.authenticateUserInfo] at hrest
  cases huser : directory.findUser userInfo with
  | none =>
      rw [huser] at hrest
      exact hrest
  | some userId =>
      simp only [huser] at hrest
      rw [Async.bind_assoc]
      apply awaits_awaitAnswer
      cases hvalid : directory.validatePassword userId userInfo.password with
      | false =>
          simp only [hvalid, Bool.false_eq_true, if_false] at hrest
          exact hrest
      | true =>
          simp only [hvalid, if_true] at hrest
          rw [if_pos rfl, Async.bind_assoc]
          exact awaits_awaitAnswer hrest

theorem awaits_authUser {userInfo : UserInfo} {target : Service Unit}
    {rest : Except OperationError UserId → Service Unit}
    (hrest : Awaits target (rest (directory.authenticateUser userInfo))) :
    Awaits target (authUser directory userInfo >>= rest) := by
  unfold authUser
  rw [Directory.authenticateUser] at hrest
  cases htoken : userInfo.token with
  | none =>
      rw [htoken] at hrest
      exact awaits_authByUserInfo directory hrest
  | some token =>
      rw [htoken] at hrest
      exact awaits_authByToken directory hrest

/-- What a login answers with once the device is connected: the token and the
avatar are waited for. -/
def loginAnswer : Service Unit := do
  awaitAnswer ()
  awaitAnswer ()

theorem awaits_userAuth (userInfo : UserInfo) :
    Awaits
      (match directory.authenticate userInfo with
        | .ok userId => connectDevice deployment endpoint socket userId
            userInfo.deviceId >>= fun _ => loginAnswer
        | .error _ => pure ())
      (discard (userAuth deployment endpoint socket directory userInfo
        false)) := by
  rw [discard, userAuth, Async.bind_assoc]
  apply awaits_authUser
  rw [Directory.authenticate]
  cases directory.authenticateUser userInfo with
  | error cause => exact .here
  | ok userId =>
      dsimp only
      rw [Async.bind_assoc]
      apply awaits_awaitAnswer
      cases directory.isUserFromBlocked userId with
      | true => exact .here
      | false =>
          simp only [Bool.false_eq_true, if_false, Async.bind_assoc]
          exact .here

theorem awaits_userConnectSocket (token : String) (deviceId : DeviceId) :
    Awaits
      (match directory.authenticateToken token deviceId with
        | .ok userId => connectDevice deployment endpoint socket userId
            deviceId >>= fun _ => pure ()
        | .error _ => pure ())
      (discard (userConnectSocket deployment endpoint socket directory token
        deviceId)) := by
  rw [discard, userConnectSocket, Async.bind_assoc]
  apply awaits_authByToken
  cases directory.authenticateToken token deviceId with
  | error cause => exact .here
  | ok userId =>
      simp only [Async.bind_assoc]
      exact .here

/-- A login or connect that succeeds waits for its lookups, connects the
device, and then only answers. -/
theorem awaits_program_of_establishes {entry : Entry} {userId : UserId}
    {deviceId : DeviceId}
    (hestablishes : entry.establishes = some (userId, deviceId)) :
    ∃ answer : Service Unit, answer.Guarantees Idle ∧
      Awaits (connectDevice deployment endpoint socket userId deviceId >>=
        fun _ => answer)
        ((entry.arrival endpoint socket).program deployment) := by
  cases entry with
  | login directory userInfo =>
      have hawaits := awaits_userAuth deployment endpoint socket directory
        userInfo
      simp only [Entry.establishes] at hestablishes
      cases hauth : directory.authenticate userInfo with
      | error cause =>
          rw [hauth] at hestablishes
          cases hestablishes
      | ok entrant =>
          rw [hauth] at hestablishes hawaits
          cases hestablishes
          exact ⟨loginAnswer, Async.guarantees_bind (idle_awaitAnswer ())
            (fun _ => idle_awaitAnswer ()), hawaits⟩
  | connect directory token device =>
      have hawaits := awaits_userConnectSocket deployment endpoint socket
        directory token device
      simp only [Entry.establishes] at hestablishes
      cases hauth : directory.authenticateToken token device with
      | error cause =>
          rw [hauth] at hestablishes
          cases hestablishes
      | ok entrant =>
          rw [hauth] at hestablishes hawaits
          cases hestablishes
          exact ⟨pure (), trivial, hawaits⟩

/-- A login or connect that fails only waits. -/
theorem idle_program_of_fails {entry : Entry}
    (hestablishes : entry.establishes = none) :
    ((entry.arrival endpoint socket).program deployment).Guarantees
      Idle := by
  have hidle : ∀ program : Service Unit, Awaits (pure ()) program →
      program.Guarantees Idle := by
    intro program hawaits
    induction hawaits with
    | here => trivial
    | later hidle hnext ih => exact fun cluster => ⟨hidle cluster, ih cluster⟩
  apply hidle
  cases entry with
  | login directory userInfo =>
      have hawaits := awaits_userAuth deployment endpoint socket directory
        userInfo
      simp only [Entry.establishes] at hestablishes
      cases hauth : directory.authenticate userInfo with
      | error cause =>
          rw [hauth] at hawaits
          exact hawaits
      | ok entrant =>
          rw [hauth] at hestablishes
          cases hestablishes
  | connect directory token device =>
      have hawaits := awaits_userConnectSocket deployment endpoint socket
        directory token device
      simp only [Entry.establishes] at hestablishes
      cases hauth : directory.authenticateToken token device with
      | error cause =>
          rw [hauth] at hawaits
          exact hawaits
      | ok entrant =>
          rw [hauth] at hestablishes
          cases hestablishes

end Lookups

section Main

variable {deployment : Deployment} {endpoint : Endpoint} {socket : Socket}
  {entry : Entry} {before : Cluster} (hdistinct : before.Distinct)
  (hsettled : deployment.isStandAloneNode = false →
    before.Settled deployment)
  (honly : OnlyUserListed endpoint socket entry before)

theorem connectedAs_attach {active : ActiveSessions}
    (hdistinct : active.Distinct) (userId : UserId) (deviceId : DeviceId) :
    ConnectedAs deployment socket userId deviceId
      (active.attach deployment endpoint socket userId deviceId) := by
  refine ⟨⟨_, by rw [ActiveSessions.getSession_attach, if_pos rfl], rfl,
    rfl⟩, ?_⟩
  exact (ActiveSessions.getDeviceId_eq_some_iff
    (ActiveSessions.distinct_attach hdistinct deployment endpoint socket
      userId deviceId) socket userId deviceId).2
    (ActiveSessions.holds_attach deployment endpoint socket userId deviceId)

/-- The removal of a close brings no key back, whatever it removes. -/
theorem shrinksKeys_onClose (deployment : Deployment) (endpoint : Endpoint)
    (socket : Socket) (organizationId : OrganizationId) (userId : UserId)
    (deviceId : DeviceId) :
    (SessionService.onClose deployment endpoint socket).Guarantees (fun _ =>
      ShrinksKeys endpoint organizationId userId deviceId) := by
  rw [SessionService.onClose_eq_step]
  intro cluster
  refine ⟨shrinksKeys_of_same (.refl cluster.redis), ?_⟩
  apply SessionService.guarantees_closeRest deployment endpoint
  · intro session removed _
    exact (SessionService.removing_finishRemoval endpoint session.userId
      deployment removed).mono (fun _ _ _ hremoving =>
        hremoving.keys endpoint organizationId userId deviceId)
  · exact fun later => shrinksKeys_of_same (.refl later.redis)

/-- The login has just installed the connection. -/
def connectedRace (deployment : Deployment) (endpoint : Endpoint)
    (socket : Socket) (userId : UserId) (deviceId : DeviceId)
    (before : Cluster) (answer : Service Unit)
    (trace : List (Nat × Label)) : RaceSystem :=
  racing (before.setNode endpoint ((before.node endpoint).attach deployment
      endpoint socket userId deviceId))
    (SessionService.storeUserNodeData deployment endpoint
      (deployment.organizationOf userId) userId deviceId >>= fun _ =>
        clearing deployment endpoint userId
          (replacedConnection (before.node endpoint) socket userId) answer)
    (SessionService.onClose deployment endpoint socket) trace

section Connected

variable {userId : UserId} {deviceId : DeviceId} {answer : Service Unit}
  (hanswer : answer.Guarantees Idle) {trace : List (Nat × Label)}
  {P : RaceSystem → Event RaceTask Label Cluster → Prop}

include hdistinct hanswer

theorem connectedRace_tables
    (hlisted : ∀ other, ∀ connection ∈
      (before.node endpoint).getUserDevices other,
      connection.socket = socket → other = userId) :
    System.Promises P (fun cluster =>
        (cluster.node endpoint).SocketFree socket)
      (connectedRace deployment endpoint socket userId deviceId before answer
        trace) := by
  have hentering : (SessionService.storeUserNodeData deployment endpoint
      (deployment.organizationOf userId) userId deviceId >>= fun _ =>
        clearing deployment endpoint userId
          (replacedConnection (before.node endpoint) socket userId)
          answer).Guarantees (fun _ first second =>
            second.node = first.node) := by
    apply Async.guarantees_bind
      ((SessionService.staysWith_storeUserNodeData deployment endpoint _
        userId deviceId).mono (fun _ _ _ hstep => hstep.2.node))
    intro _
    have hshrinks : (clearing deployment endpoint userId
        (replacedConnection (before.node endpoint) socket userId)
        answer).Guarantees (Shrinks endpoint
          (deployment.organizationOf userId) userId deviceId) :=
      shrinks_clearing hanswer _
    exact hshrinks.mono (fun _ _ _ hstep => hstep.node)
  have hsocket : ((before.node endpoint).attach deployment endpoint socket
      userId deviceId).SocketOf socket userId := by
    refine ⟨?_, ActiveSessions.distinct_attach (hdistinct endpoint) _ _ _ _
      _, ?_⟩
    · rw [ActiveSessions.getSessionUserId, ActiveSessions.getSession_attach,
        if_pos rfl]
      rfl
    · intro other connection hmem heq
      by_cases hother : other = userId
      · exact hother
      · rw [ActiveSessions.getUserDevices_attach, if_neg hother] at hmem
        exact hlisted other connection hmem heq
  apply promises_socketFree userId hentering
  left
  rw [Cluster.node_setNode, if_pos rfl]
  exact hsocket

variable (hcluster : deployment.isStandAloneNode = false)
include hcluster

/-- The registration of the device the login connects. -/
theorem connectedRace_device
    (hadmits : ∀ system, P system (.tick 1) →
      system.nextLabel? 1 = some (.listed userId) →
      (0, .stored endpoint userId deviceId) ∈ system.trace ∨
        replacedConnection (before.node endpoint) socket userId ≠ none)
    (hunstored : (0, .stored endpoint userId deviceId) ∉ trace) :
    System.Promises P (fun cluster => cluster.redis.NotRegistered endpoint
        (deployment.organizationOf userId) userId deviceId)
      (connectedRace deployment endpoint socket userId deviceId before answer
        trace) := by
  obtain ⟨prelude, hprelude, hstore⟩ := storeUserNodeData_eq hcluster
    endpoint userId deviceId
  rw [connectedRace, hstore, Async.bind_assoc]
  refine promises_connected hcluster hanswer hadmits ?_ hprelude hunstored
  rw [Cluster.node_setNode, if_pos rfl]
  exact connectedAs_attach (hdistinct endpoint) userId deviceId

/-- The registration of the device the socket was connected with before. -/
theorem connectedRace_earlier (hsettled : before.Settled deployment)
    {earlier : DeviceId} (hearlier : earlier ≠ deviceId)
    (hholds : (before.node endpoint).Holds socket userId earlier) :
    System.Promises P (fun cluster => cluster.redis.NotRegistered endpoint
        (deployment.organizationOf userId) userId earlier)
      (connectedRace deployment endpoint socket userId deviceId before answer
        trace) := by
  have hdevice := (ActiveSessions.getDeviceId_eq_some_iff
    (hdistinct endpoint) socket userId earlier).2 hholds
  obtain ⟨connection, hreplaced, rfl⟩ := Option.map_eq_some_iff.1 hdevice
  have hown : OwnHash endpoint (deployment.organizationOf userId) userId
      connection.deviceId (before.setNode endpoint ((before.node
        endpoint).attach deployment endpoint socket userId deviceId)) := by
    intro hmem registered hregistered
    have hnode := hsettled.consistent.node_eq hmem
    exact Option.some.inj (hregistered.symm.trans hnode)
  rw [connectedRace]
  refine promises_of_removesKeys hown (racing_tasks (guarantees_keys
    (Async.guarantees_bind ?_ (fun _ => shrinks_clearing hanswer _)))
    (shrinksKeys_onClose deployment endpoint socket _ userId _))
    List.mem_cons_self ?_
  · exact (SessionService.sweeping_storeUserNodeData endpoint _ userId
      hcluster (Ne.symm hearlier)).mono
        (fun _ _ _ hsweeping => hsweeping.toShrinks)
  · apply SessionService.removesKeys_bind_rest
    intro _
    rw [replacedConnection, hreplaced]
    exact (SessionService.removesKeys_removeAllUserDeviceData endpoint _
      userId deployment connection.deviceId).bind _

end Connected

include hdistinct hsettled honly

/-- From the moment the login has installed the connection. -/
theorem promises_forgotten_of_connected {userId : UserId}
    {deviceId : DeviceId}
    (hestablishes : entry.establishes = some (userId, deviceId))
    {answer : Service Unit} (hanswer : answer.Guarantees Idle)
    {trace : List (Nat × Label)}
    (hunstored : (0, .stored endpoint userId deviceId) ∉ trace) :
    System.Promises (InTime endpoint socket entry before)
      (Forgotten deployment endpoint socket entry before)
      (connectedRace deployment endpoint socket userId deviceId before answer
        trace) := by
  have hlisted : ∀ other, ∀ connection ∈
      (before.node endpoint).getUserDevices other,
      connection.socket = socket → other = userId := by
    intro other connection hmem heq
    have hown := honly other connection hmem heq
    rw [hestablishes] at hown
    exact hown
  have hadmits : ∀ system, InTime endpoint socket entry before system
      (.tick 1) → system.nextLabel? 1 = some (.listed userId) →
      (0, .stored endpoint userId deviceId) ∈ system.trace ∨
        replacedConnection (before.node endpoint) socket userId ≠ none := by
    intro system hintime hlabel
    rcases hintime _ hlabel userId deviceId hestablishes rfl with
      hstored | hdevice
    · exact .inl hstored
    · refine .inr (fun hnone => hdevice ?_)
      rw [ActiveSessions.getDeviceId]
      exact Option.map_eq_none_iff.2 hnone
  intro schedule hadmitted hquiescent
  refine ⟨connectedRace_tables hdistinct hanswer hlisted schedule hadmitted
    hquiescent, fun hcluster other device hregistered => ?_⟩
  have hdevice := connectedRace_device hdistinct hanswer hcluster hadmits
    hunstored schedule hadmitted hquiescent
  rcases hregistered with hnew | hholds
  · rw [hestablishes, Option.some.injEq] at hnew
    obtain ⟨rfl, rfl⟩ := Prod.mk.inj hnew
    exact hdevice
  · obtain ⟨connection, hmem, heq, hconnection⟩ := hholds
    obtain rfl := hlisted other connection hmem heq
    by_cases hsame : device = deviceId
    · rw [hsame]
      exact hdevice
    · exact connectedRace_earlier hdistinct hanswer hcluster
        (hsettled hcluster) hsame ⟨connection, hmem, heq, hconnection⟩
        schedule hadmitted hquiescent

/-- While the login that will succeed waits for its lookups. -/
theorem promises_forgotten_of_waiting {userId : UserId}
    {deviceId : DeviceId}
    (hestablishes : entry.establishes = some (userId, deviceId)) :
    System.Promises (InTime endpoint socket entry before)
      (Forgotten deployment endpoint socket entry before)
      (race deployment endpoint socket entry before) := by
  obtain ⟨answer, hanswer, hawaits⟩ := awaits_program_of_establishes
    deployment endpoint socket hestablishes
  refine System.promises_of_phase (F := fun system =>
    ∃ entering trace, system = racing before entering
        (SessionService.onClose deployment endpoint socket) trace ∧
      Awaits (SessionService.connectDevice deployment endpoint socket userId
        deviceId >>= fun _ => answer) entering ∧
      ∀ taken ∈ trace, taken.2.isBlock = false ∧ taken.2.stores = none) ?_ ?_
    ⟨_, [], rfl, hawaits, fun taken htaken => by cases htaken⟩
  · rintro _ ⟨entering, trace, rfl, -⟩
    exact racing_not_quiescent_closing
      (SessionService.onClose_eq_step deployment endpoint socket)
  · rintro _ index ⟨entering, trace, rfl, hawaits, htrace⟩ hintime
    rcases racing_tick_cases before entering _ trace index with hsame |
      ⟨-, label, effect, next, henter, htick⟩ |
      ⟨rfl, label, effect, next, hclose, htick⟩
    · rw [hsame]
      exact .inl ⟨entering, trace, rfl, hawaits, htrace⟩
    · rw [htick]
      cases hawaits with
      | here =>
          right
          rw [connectDevice_bind] at henter
          cases henter
          apply promises_forgotten_of_connected hdistinct hsettled honly
            hestablishes hanswer
          intro hmem
          rcases List.mem_append.1 hmem with hold | hnew
          · cases (htrace _ hold).2
          · cases List.mem_singleton.1 hnew
      | later hidle hnext =>
          left
          cases henter
          refine ⟨next before, trace ++ [(0, label)], ?_, hnext before, ?_⟩
          · rw [(hidle before).same]
          · intro taken htaken
            rcases List.mem_append.1 htaken with hold | hnew
            · exact htrace taken hold
            · rw [List.mem_singleton.1 hnew]
              exact ⟨(hidle before).block, (hidle before).unstored⟩
    · -- the close is not admitted before the connection is installed
      rw [SessionService.onClose_eq_step] at hclose
      cases hclose
      have hconnected := hintime _ rfl userId deviceId hestablishes
      cases (htrace _ hconnected).1

/-- A login that fails only waits, and the close finds what it would find
without it. -/
theorem promises_forgotten_of_fails (hestablishes : entry.establishes = none) :
    System.Promises (InTime endpoint socket entry before)
      (Forgotten deployment endpoint socket entry before)
      (race deployment endpoint socket entry before) := by
  have hidle := idle_program_of_fails deployment endpoint socket hestablishes
  have hlisted : ∀ other, ∀ connection ∈
      (before.node endpoint).getUserDevices other,
      connection.socket = socket →
      (before.node endpoint).getSessionUserId socket = some other := by
    intro other connection hmem heq
    have hown := honly other connection hmem heq
    rw [hestablishes] at hown
    exact hown
  have hnode : ((entry.arrival endpoint socket).program
      deployment).Guarantees (fun _ first second =>
        second.node = first.node) :=
    hidle.mono (fun _ _ _ hstep => by rw [hstep.same])
  intro schedule hadmitted hquiescent
  refine ⟨?_, fun hcluster other device hregistered => ?_⟩
  · cases hsession : (before.node endpoint).getSession socket with
    | none =>
        refine promises_socketFree endpoint hnode (.inr
          ⟨hsession, fun other connection hmem heq => ?_⟩) schedule hadmitted
          hquiescent
        have hnone := hlisted other connection hmem heq
        rw [ActiveSessions.getSessionUserId, hsession] at hnone
        cases hnone
    | some session =>
        have huser : (before.node endpoint).getSessionUserId socket =
            some session.userId := by
          rw [ActiveSessions.getSessionUserId, hsession]
          rfl
        refine promises_socketFree session.userId hnode (.inl ⟨huser,
          hdistinct endpoint, fun other connection hmem heq => ?_⟩) schedule
          hadmitted hquiescent
        have hsome := hlisted other connection hmem heq
        exact Option.some.inj (hsome.symm.trans huser)
  · rcases hregistered with hnew | hholds
    · rw [hestablishes] at hnew
      cases hnew
    · obtain ⟨connection, hmem, heq, -⟩ := id hholds
      have hsome := hlisted other connection hmem heq
      rw [ActiveSessions.getSessionUserId, Option.map_eq_some_iff] at hsome
      obtain ⟨session, hsession, rfl⟩ := hsome
      have hconnected : ConnectedAs deployment socket session.userId device
          (before.node endpoint) :=
        ⟨⟨session, hsession, rfl, (hsettled hcluster).sessions endpoint
          socket session hsession⟩, (ActiveSessions.getDeviceId_eq_some_iff
            (hdistinct endpoint) socket session.userId device).2 hholds⟩
      have hown : OwnHash endpoint (deployment.organizationOf session.userId)
          session.userId device before := by
        intro hmember registered hregistered
        have hhash := (hsettled hcluster).consistent.node_eq hmember
        exact Option.some.inj (hregistered.symm.trans hhash)
      exact promises_of_close hcluster hconnected hown
        (hidle.mono (fun _ _ _ hstep => hstep.removing.shrinks)) schedule
        hadmitted hquiescent

end Main

/-- From every reachable state, and in every interleaving of a login or
connect of a socket with the close of the socket that meets the condition,
once both have finished no structure refers to the socket. -/
theorem race_forgotten (deployment : Deployment) (visits : List Visit)
    (endpoint : Endpoint) (socket : Socket) (entry : Entry)
    (schedule : List Nat)
    (honly : OnlyUserListed endpoint socket entry
      (Cluster.receiveAll deployment visits))
    (hintime : System.Along
      (InTime endpoint socket entry (Cluster.receiveAll deployment visits))
      (race deployment endpoint socket entry
        (Cluster.receiveAll deployment visits)) (System.ticks schedule))
    (hquiescent : ((race deployment endpoint socket entry
      (Cluster.receiveAll deployment visits)).run
        (System.ticks schedule)).Quiescent) :
    Forgotten deployment endpoint socket entry
      (Cluster.receiveAll deployment visits)
      ((race deployment endpoint socket entry
        (Cluster.receiveAll deployment visits)).run
          (System.ticks schedule)).state := by
  have hdistinct : (Cluster.receiveAll deployment visits).Distinct :=
    Cluster.distinct_receiveAll visits
  have hsettled : deployment.isStandAloneNode = false →
      (Cluster.receiveAll deployment visits).Settled deployment :=
    fun hcluster => Cluster.settled_receiveAll hcluster visits
  cases hestablishes : entry.establishes with
  | none =>
      exact promises_forgotten_of_fails hdistinct hsettled honly hestablishes
        schedule hintime hquiescent
  | some established =>
      exact promises_forgotten_of_waiting hdistinct hsettled honly
        hestablishes schedule hintime hquiescent

section Ghost

open Sample

/-- The phone of a user connects on socket 1 of node A. -/
def connectPhone : Entry := .connect .trusting "alice" phone

/-- The close comes between the connection and the store. -/
theorem race_forgotten_closeBeforeStore :
    Forgotten ⟨false, fun _ => organization⟩ nodeA 1 connectPhone .empty
      ((race ⟨false, fun _ => organization⟩ nodeA 1 connectPhone
        .empty).run
          (System.ticks [0, 0, 0, 1, 0, 0, 1, 1, 1, 1, 1, 1])).state := by
  apply race_forgotten ⟨false, fun _ => organization⟩ [] nodeA 1 connectPhone
    [0, 0, 0, 1, 0, 0, 1, 1, 1, 1, 1, 1]
  · intro userId connection hmem
    cases hmem
  · have hestablishes : connectPhone.establishes = some (alice, phone) := by
      decide
    exact ⟨inTime_tick hestablishes .lookup (by decide) trivial,
      inTime_tick hestablishes .lookup (by decide) trivial,
      inTime_tick hestablishes (.connected nodeA 1 alice phone) (by decide)
        trivial,
      inTime_tick hestablishes (.closed nodeA 1) (by decide)
        (List.mem_cons_of_mem _ (List.mem_cons_of_mem _
          List.mem_cons_self)),
      inTime_tick hestablishes (.listed alice) (by decide)
        (fun hclose => by cases hclose),
      inTime_tick hestablishes (.stored nodeA alice phone) (by decide)
        trivial,
      inTime_tick hestablishes (.removing alice phone) (by decide) trivial,
      inTime_tick hestablishes (.removing alice phone) (by decide) trivial,
      inTime_tick hestablishes (.removing alice phone) (by decide) trivial,
      inTime_tick hestablishes (.removing alice phone) (by decide) trivial,
      inTime_tick hestablishes (.listed alice) (by decide)
        (fun _ => .inl (by decide)),
      inTime_tick hestablishes .lookup (by decide) trivial, trivial⟩
  · decide

/-- A close that comes before the connection leaves a session behind, and one
that has listed the devices before the store leaves a registration behind. -/
theorem race_leaves_ghost :
    (((race ⟨true, fun _ => organization⟩ nodeA 1 connectPhone .empty).run
        (System.ticks [1, 0, 0, 0])).Quiescent ∧
      ¬ Forgotten ⟨true, fun _ => organization⟩ nodeA 1 connectPhone .empty
        ((race ⟨true, fun _ => organization⟩ nodeA 1 connectPhone
          .empty).run (System.ticks [1, 0, 0, 0])).state) ∧
    (((race ⟨false, fun _ => organization⟩ nodeA 1 connectPhone .empty).run
        (System.ticks [0, 0, 0, 1, 1, 1, 1, 1, 1, 1, 0, 0])).Quiescent ∧
      ¬ Forgotten ⟨false, fun _ => organization⟩ nodeA 1 connectPhone .empty
        ((race ⟨false, fun _ => organization⟩ nodeA 1 connectPhone
          .empty).run (System.ticks
            [0, 0, 0, 1, 1, 1, 1, 1, 1, 1, 0, 0])).state) := by
  refine ⟨⟨by decide, fun hforgotten => ?_⟩, by decide,
    fun hforgotten => ?_⟩
  · exact absurd hforgotten.tables.session (by decide)
  · have hclean := hforgotten.redis rfl alice phone (.inl (by decide))
    exact absurd hclean.devices (by decide)

end Ghost

end SamaServer
