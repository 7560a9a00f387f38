/-
Which programs leave a registration alone that its node still backs with a
live connection.  A program about another user or another device does, and a
sweep does unless it has read the device's hash before the registration was
stored.
-/
import SamaServer.Registration

namespace SamaServer

/-- The node has a connection of the device on the socket. -/
def ActiveSessions.Holds (active : ActiveSessions) (socket : Socket)
    (userId : UserId) (deviceId : DeviceId) : Prop :=
  ∃ connection ∈ active.getUserDevices userId,
    connection.socket = socket ∧ connection.deviceId = deviceId

/-- The device is registered on the node, and connected there. -/
structure Held (deployment : Deployment) (endpoint : Endpoint)
    (socket : Socket) (userId : UserId) (deviceId : DeviceId)
    (cluster : Cluster) : Prop where
  registered : cluster.redis.RegisteredAt endpoint
    (deployment.organizationOf userId) userId deviceId
  connected : (cluster.node endpoint).Holds socket userId deviceId

/-- The steps that remove the device's keys, or decide to. -/
def Label.Endangers (userId : UserId) (deviceId : DeviceId)
    (label : Label) : Prop :=
  label = .removing userId deviceId ∨ label = .judged userId deviceId ∨
    label = .dropped userId deviceId

section Keeping

variable {deployment : Deployment} {endpoint : Endpoint} {socket : Socket}
  {userId : UserId} {deviceId : DeviceId}

theorem Held.of_same {before after : Cluster}
    (hheld : Held deployment endpoint socket userId deviceId before)
    (hnode : after.node = before.node)
    (hsame : Redis.SameDevice userId deviceId before.redis after.redis) :
    Held deployment endpoint socket userId deviceId after :=
  ⟨hheld.registered.of_same hsame, by rw [hnode]; exact hheld.connected⟩

/-- A held device passes the test of a sweep, on every node. -/
theorem Held.isNotActual_eq_false {cluster : Cluster}
    (hheld : Held deployment endpoint socket userId deviceId cluster)
    {deviceExt : ExtraParams}
    (hnode : deviceExt.nodeEndpoint = some endpoint) (sweeper : Endpoint) :
    SessionService.isNotActual sweeper userId deviceId deviceExt
      (cluster.node sweeper) = false := by
  obtain ⟨connection, hmem, -, hdevice⟩ := hheld.connected
  simp only [SessionService.isNotActual, hnode, Option.isNone_some,
    Bool.false_or, Option.some.injEq]
  by_cases hsweeper : endpoint = sweeper
  · subst hsweeper
    have hany : ((cluster.node endpoint).getUserDevices userId).any
        (fun connection => connection.deviceId = deviceId) = true :=
      List.any_eq_true.2 ⟨connection, hmem, by simpa using hdevice⟩
    simp [hany]
  · simp [hsweeper]

/-- Steps about another user. -/
theorem StaysWith.keeps_other {A : Type} {otherUser : UserId}
    (hother : otherUser ≠ userId) {program : Service A}
    (hprogram : StaysWith otherUser program) :
    program.KeepsOutside (Label.Endangers userId deviceId)
        (Held deployment endpoint socket userId deviceId) ∧
      program.Keeps (Held deployment endpoint socket userId deviceId) := by
  have hstable : ∀ (label : Label) (before after : Cluster),
      (label.isBlock = false ∧ OnlyRedisOf otherUser before after) →
      Held deployment endpoint socket userId deviceId before →
      Held deployment endpoint socket userId deviceId after :=
    fun _ _ _ hstep hheld => hheld.of_same hstep.2.node
      (hstep.2.redis userId deviceId (Ne.symm hother))
  exact ⟨Async.Guarantees.keepsOutside hprogram hstable,
    Async.Guarantees.keeps hprogram hstable⟩

namespace SessionService

variable (sweeper : Endpoint) (organizationId : OrganizationId)

theorem keeps_redisUpdate {otherDevice : DeviceId}
    (hother : otherDevice ≠ deviceId) (label : Label)
    {update : Redis → Redis}
    (hupdate : ∀ redis, Redis.SameOtherDevices userId otherDevice redis
      (update redis)) :
    (redisUpdate label update).Keeps
      (Held deployment endpoint socket userId deviceId) := by
  intro cluster hheld
  refine ⟨hheld.of_same rfl (hupdate cluster.redis userId deviceId ?_),
    trivial⟩
  intro heq
  exact hother (Prod.mk.inj heq).2.symm

/-- The tail of a sweep step, once the test of one device is decided. -/
theorem keeps_sweepStep {otherDevice : DeviceId} {notActual : Bool}
    (hnot : notActual = true → otherDevice ≠ deviceId)
    {rest : Service (List DeviceId)}
    (hrest : rest.Keeps
      (Held deployment endpoint socket userId deviceId)) :
    Async.Keeps (Held deployment endpoint socket userId deviceId)
      (if notActual = true then do
        removeAllUserDeviceDataTransaction sweeper organizationId userId
          otherDevice
        rest
      else do
        let others ← rest
        pure (otherDevice :: others)) := by
  split
  · next hactual =>
      refine Async.keeps_bind (keeps_redisUpdate (hnot hactual) _
        (fun redis =>
          redis.sameOtherDevices_removeAllUserDeviceDataTransaction sweeper
            organizationId userId otherDevice)) (fun _ => hrest)
  · exact Async.keeps_bind hrest (fun _ => trivial)

theorem keeps_filterActualDeviceIds (deviceIds : List DeviceId) :
    (filterActualDeviceIds sweeper organizationId userId deviceIds).Keeps
      (Held deployment endpoint socket userId deviceId) := by
  induction deviceIds with
  | nil => trivial
  | cons otherDevice deviceIds ih =>
      -- the hash is read while the registration is held, so it names the node
      refine Async.ensures_bind
        (R := fun deviceExt => otherDevice = deviceId →
          deviceExt.nodeEndpoint = some endpoint)
        (Async.ensures_atomic (fun cluster hheld => ⟨hheld, ?_⟩))
        (fun deviceExt hext => ?_)
      · rintro rfl
        exact hheld.registered.node
      · refine Async.ensures_bind
          (R := fun notActual => notActual = true → otherDevice ≠ deviceId)
          (Async.ensures_atomic (fun cluster hheld => ⟨?_, ?_⟩))
          (fun notActual hnot => keeps_sweepStep sweeper organizationId hnot
            ih)
        · simp only [setNode_self]
          exact hheld
        · rintro hnot rfl
          change isNotActual sweeper userId otherDevice deviceExt
            (cluster.node sweeper) = true at hnot
          rw [hheld.isNotActual_eq_false (hext rfl) sweeper] at hnot
          cases hnot

theorem keepsOutside_redisUpdate (otherDevice : DeviceId) {label : Label}
    (hlabel : label = .removing userId otherDevice ∨
      label = .dropped userId otherDevice) {update : Redis → Redis}
    (hupdate : ∀ redis, Redis.SameOtherDevices userId otherDevice redis
      (update redis)) :
    (redisUpdate label update).KeepsOutside
      (Label.Endangers userId deviceId)
      (Held deployment endpoint socket userId deviceId) := by
  refine ⟨fun hsafe => keeps_redisUpdate ?_ label hupdate, fun _ => trivial⟩
  rintro rfl
  rcases hlabel with rfl | rfl
  · exact hsafe (.inl rfl)
  · exact hsafe (.inr (.inr rfl))

theorem keepsOutside_sweepStep (otherDevice : DeviceId) (notActual : Bool)
    {rest : Service (List DeviceId)}
    (hkeeps : rest.Keeps
      (Held deployment endpoint socket userId deviceId))
    (hrest : rest.KeepsOutside (Label.Endangers userId deviceId)
      (Held deployment endpoint socket userId deviceId)) :
    Async.KeepsOutside (Label.Endangers userId deviceId)
      (Held deployment endpoint socket userId deviceId)
      (if notActual = true then do
        removeAllUserDeviceDataTransaction sweeper organizationId userId
          otherDevice
        rest
      else do
        let others ← rest
        pure (otherDevice :: others)) := by
  split
  · exact Async.keepsOutside_bind (keepsOutside_redisUpdate otherDevice
      (.inr rfl) (fun redis =>
        redis.sameOtherDevices_removeAllUserDeviceDataTransaction sweeper
          organizationId userId otherDevice))
      (fun _ => hkeeps) (fun _ => hrest)
  · exact Async.keepsOutside_bind hrest (fun _ => trivial)
      (fun _ => trivial)

theorem keepsOutside_filterActualDeviceIds (deviceIds : List DeviceId) :
    (filterActualDeviceIds sweeper organizationId userId
      deviceIds).KeepsOutside (Label.Endangers userId deviceId)
        (Held deployment endpoint socket userId deviceId) := by
  induction deviceIds with
  | nil => trivial
  | cons otherDevice deviceIds ih =>
      refine ⟨fun _ => keeps_filterActualDeviceIds sweeper organizationId
        (otherDevice :: deviceIds), fun read => ?_⟩
      refine ⟨fun hlabel => ?_, fun judge => ?_⟩
      · -- the hash was read earlier, but it is not this device's
        intro cluster hheld
        refine ⟨?_, keeps_sweepStep sweeper organizationId (fun _ => ?_)
          (keeps_filterActualDeviceIds sweeper organizationId deviceIds)⟩
        · simp only [setNode_self]
          exact hheld
        · rintro rfl
          exact hlabel (.inr (.inl rfl))
      · exact keepsOutside_sweepStep sweeper organizationId otherDevice _
          (keeps_filterActualDeviceIds sweeper organizationId deviceIds) ih

/-- A query changes nothing. -/
theorem keepsOutside_redisQuery {A : Type} {D : Label → Prop}
    {I : Cluster → Prop} (label : Label) (query : Redis → A) :
    (redisQuery label query).KeepsOutside D I :=
  Async.keepsOutside_atomic (fun _ _ hstate => hstate)

theorem keeps_redisQuery {A : Type} {I : Cluster → Prop} (label : Label)
    (query : Redis → A) : (redisQuery label query).Keeps I :=
  fun _ hstate => ⟨hstate, trivial⟩

variable (hcluster : deployment.isStandAloneNode = false)
include hcluster

theorem keeps_listUserDevice (filterActualDevices : Bool) :
    (listUserDevice deployment sweeper organizationId userId
      filterActualDevices).Keeps
        (Held deployment endpoint socket userId deviceId) := by
  simp only [listUserDevice, hcluster, Bool.false_eq_true, if_false]
  refine Async.keeps_bind (keeps_redisQuery _ _) (fun deviceIds => ?_)
  split
  · exact keeps_filterActualDeviceIds sweeper organizationId deviceIds
  · trivial

theorem keepsOutside_listUserDevice (filterActualDevices : Bool) :
    (listUserDevice deployment sweeper organizationId userId
      filterActualDevices).KeepsOutside (Label.Endangers userId deviceId)
        (Held deployment endpoint socket userId deviceId) := by
  simp only [listUserDevice, hcluster, Bool.false_eq_true, if_false]
  refine Async.keepsOutside_bind (keepsOutside_redisQuery _ _)
    (fun deviceIds => ?_) (fun deviceIds => ?_)
  · split
    · exact keeps_filterActualDeviceIds sweeper organizationId deviceIds
    · trivial
  · split
    · exact keepsOutside_filterActualDeviceIds sweeper organizationId
        deviceIds
    · trivial

omit hcluster in
theorem guarantees_removeDeviceKeys (userId : UserId)
    (otherDevice : DeviceId) :
    (removeDeviceKeys sweeper organizationId userId otherDevice).Guarantees
      (fun label before after => label = .removing userId otherDevice ∧
        after.node = before.node ∧ Redis.SameOtherDevices userId otherDevice
          before.redis after.redis) := by
  refine Async.guarantees_bind (Async.guarantees_atomic (fun cluster =>
    ⟨rfl, rfl, cluster.redis.sameOtherDevices_removeUserDevice
      organizationId userId otherDevice⟩)) (fun _ => ?_)
  refine Async.guarantees_bind (Async.guarantees_atomic (fun cluster =>
    ⟨rfl, rfl, fun _ _ _ => .refl cluster.redis⟩)) (fun _ => ?_)
  refine Async.guarantees_bind (Async.guarantees_atomic (fun cluster =>
    ⟨rfl, rfl, cluster.redis.sameOtherDevices_deleteUserExtraParams userId
      otherDevice⟩)) (fun _ => ?_)
  exact Async.guarantees_atomic (fun cluster =>
    ⟨rfl, rfl, cluster.redis.sameOtherDevices_removeUserDeviceFromNode _
      organizationId userId otherDevice⟩)

omit hcluster in
/-- The keys of any device, this one included, are removed by steps that
endanger that device. -/
theorem keepsOutside_removeDeviceKeys (otherDevice : DeviceId) :
    (removeDeviceKeys sweeper organizationId userId
      otherDevice).KeepsOutside (Label.Endangers userId deviceId)
        (Held deployment endpoint socket userId deviceId) := by
  have hkeys := guarantees_removeDeviceKeys sweeper organizationId userId
    otherDevice
  by_cases hother : otherDevice = deviceId
  · subst hother
    refine Async.Guarantees.keepsOutside_of_inside (hkeys.mono ?_)
    rintro label before after ⟨rfl, -⟩
    exact .inl rfl
  · refine hkeys.keepsOutside ?_
    rintro label before after ⟨-, hnode, hsame⟩ hheld
    refine hheld.of_same hnode (hsame userId deviceId ?_)
    intro heq
    exact hother (Prod.mk.inj heq).2.symm

theorem keepsOutside_removeAllUserDeviceData (otherDevice : DeviceId) :
    (removeAllUserDeviceData deployment sweeper organizationId userId
      otherDevice).KeepsOutside (Label.Endangers userId deviceId)
        (Held deployment endpoint socket userId deviceId) := by
  refine Async.keepsOutside_bind (keepsOutside_removeDeviceKeys sweeper
    organizationId otherDevice) (fun _ => ?_) (fun _ => ?_)
  · exact Async.keeps_bind (keeps_listUserDevice sweeper organizationId
      hcluster true) (fun _ => trivial)
  · exact Async.keepsOutside_bind (keepsOutside_listUserDevice sweeper
      organizationId hcluster true) (fun _ => trivial) (fun _ => trivial)

theorem keeps_removeAllUserDeviceData {otherDevice : DeviceId}
    (hother : otherDevice ≠ deviceId) :
    (removeAllUserDeviceData deployment sweeper organizationId userId
      otherDevice).Keeps
        (Held deployment endpoint socket userId deviceId) := by
  refine (keepsOutside_removeAllUserDeviceData sweeper organizationId
    hcluster otherDevice).keeps ?_
  intro label hhead
  cases hhead
  rintro (heq | heq | heq)
  · cases heq
    exact hother rfl
  · cases heq
  · cases heq

/-- Storing another device of the user. -/
theorem keepsOutside_storeUserNodeData {otherDevice : DeviceId}
    (hother : otherDevice ≠ deviceId) :
    (storeUserNodeData deployment sweeper organizationId userId
      otherDevice).KeepsOutside (Label.Endangers userId deviceId)
        (Held deployment endpoint socket userId deviceId) := by
  have hstored : (redisUpdate (.stored sweeper userId otherDevice)
      (fun redis => redis.addUserDeviceDataTransaction sweeper
        organizationId userId otherDevice)).Keeps
        (Held deployment endpoint socket userId deviceId) :=
    keeps_redisUpdate hother _ (fun redis =>
      redis.sameOtherDevices_addUserDeviceDataTransaction sweeper
        organizationId userId otherDevice)
  simp only [storeUserNodeData, hcluster, Bool.false_eq_true, if_false]
  refine Async.keepsOutside_bind (keepsOutside_listUserDevice sweeper
    organizationId hcluster false) (fun userDeviceIds => ?_)
    (fun userDeviceIds => ?_)
  · split
    · exact Async.keeps_bind (keeps_removeAllUserDeviceData sweeper
        organizationId hcluster hother) (fun _ => hstored)
    · exact hstored
  · split
    · exact Async.keepsOutside_bind (keepsOutside_removeAllUserDeviceData
        sweeper organizationId hcluster otherDevice) (fun _ => hstored)
        (fun _ => ⟨fun _ => hstored, fun _ => trivial⟩)
    · exact ⟨fun _ => hstored, fun _ => trivial⟩

omit hcluster in
/-- A program that keeps the registration wherever its next step is safe, and
whose next step is safe. -/
theorem keeps_of_head {A : Type} {program : Service A} {head : Label}
    (hprogram : program.KeepsOutside (Label.Endangers userId deviceId)
      (Held deployment endpoint socket userId deviceId))
    (hhead : program.head? = some head)
    (hsafe : ¬ head.Endangers userId deviceId) :
    program.Keeps (Held deployment endpoint socket userId deviceId) := by
  apply hprogram.keeps
  intro label hlabel
  rw [hhead, Option.some.injEq] at hlabel
  rw [← hlabel]
  exact hsafe

/-- Storing the registration of anything else. -/
theorem holds_storeUserNodeData {otherUser : UserId} {otherDevice : DeviceId}
    (hother : (otherUser, otherDevice) ≠ (userId, deviceId)) :
    (storeUserNodeData deployment sweeper organizationId otherUser
        otherDevice).KeepsOutside (Label.Endangers userId deviceId)
        (Held deployment endpoint socket userId deviceId) ∧
      (storeUserNodeData deployment sweeper organizationId otherUser
        otherDevice).Keeps
        (Held deployment endpoint socket userId deviceId) := by
  by_cases huser : otherUser = userId
  · subst huser
    have hdevice : otherDevice ≠ deviceId := fun heq => hother (by rw [heq])
    have houtside : (storeUserNodeData deployment sweeper organizationId
        otherUser otherDevice).KeepsOutside
        (Label.Endangers otherUser deviceId)
        (Held deployment endpoint socket otherUser deviceId) :=
      keepsOutside_storeUserNodeData sweeper organizationId hcluster hdevice
    have hhead : (storeUserNodeData deployment sweeper organizationId
        otherUser otherDevice).head? = some (.listed otherUser) := by
      simp only [storeUserNodeData, listUserDevice, hcluster,
        Bool.false_eq_true, if_false]
      rfl
    refine ⟨houtside, keeps_of_head houtside hhead ?_⟩
    rintro (heq | heq | heq) <;> cases heq
  · exact (staysWith_storeUserNodeData deployment sweeper organizationId
      otherUser otherDevice).keeps_other huser

theorem keepsOutside_finishRemoval (otherUser : UserId)
    (removed : ActiveSessions.RemovedConnection) :
    (finishRemoval deployment sweeper otherUser removed).KeepsOutside
      (Label.Endangers userId deviceId)
      (Held deployment endpoint socket userId deviceId) := by
  by_cases huser : otherUser = userId
  · subst huser
    unfold finishRemoval
    split
    · trivial
    · rw [hcluster, if_neg Bool.false_ne_true]
      exact keepsOutside_removeAllUserDeviceData sweeper _ hcluster _
  · exact ((staysWith_finishRemoval deployment sweeper otherUser
      removed).keeps_other huser).1

theorem keeps_finishRemoval {otherUser : UserId}
    {removed : ActiveSessions.RemovedConnection}
    (hother : (otherUser, removed.deviceId) ≠ (userId, some deviceId)) :
    (finishRemoval deployment sweeper otherUser removed).Keeps
      (Held deployment endpoint socket userId deviceId) := by
  by_cases huser : otherUser = userId
  · subst huser
    unfold finishRemoval
    split
    · trivial
    · next otherDevice hdevice =>
        rw [hcluster, if_neg Bool.false_ne_true]
        refine keeps_removeAllUserDeviceData sweeper _ hcluster ?_
        rintro rfl
        exact hother (by rw [hdevice])
  · exact ((staysWith_finishRemoval deployment sweeper otherUser
      removed).keeps_other huser).2

end SessionService

end Keeping

end SamaServer
