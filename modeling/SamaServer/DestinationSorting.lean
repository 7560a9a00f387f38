/-
What the loop of the packet manager over the destination users collects: the
users without a connection, the users on this node, and the users on each
other node.
-/
import SamaServer.PacketManager
import SamaServer.RegistrationRuns

namespace SamaServer

namespace PacketManager

/-- A device of the user is registered on the node. -/
def Names (userConnections : OrderedMap DeviceId ExtraParams)
    (node : Endpoint) : Prop :=
  ∃ deviceId extraParams, userConnections.get? deviceId = some extraParams ∧
    extraParams.nodeEndpoint = some node

/-- The accumulator of the other nodes has the user under the node. -/
def Forwards (otherNodes : OtherNodes) (node : Endpoint) (userId : UserId) :
    Prop :=
  ∃ users, otherNodes.get? node = some users ∧ userId ∈ users.keys

section Reduce

variable (deployment : Deployment) (endpoint : Endpoint) (userId : UserId)

/-- The node is served by this process. -/
def IsHere (deployment : Deployment) (endpoint node : Endpoint) : Prop :=
  node = endpoint ∨ deployment.isStandAloneNode

theorem mem_keys_reduceConnection (nodes : CurrentNode × OtherNodes)
    (extraParams : ExtraParams) (other : UserId) :
    other ∈ (reduceConnection deployment endpoint userId nodes
        extraParams).1.keys ↔
      other ∈ nodes.1.keys ∨ other = userId ∧
        ∃ node, extraParams.nodeEndpoint = some node ∧
          IsHere deployment endpoint node := by
  unfold reduceConnection IsHere
  cases hnode : extraParams.nodeEndpoint with
  | none => simp
  | some node =>
      by_cases hhere : node = endpoint ∨ deployment.isStandAloneNode = true
      · simp only [if_pos hhere, OrderedMap.mem_keys_set]
        constructor
        · rintro (rfl | hold)
          · exact .inr ⟨rfl, node, rfl, hhere⟩
          · exact .inl hold
        · rintro (hold | ⟨rfl, _⟩)
          · exact .inr hold
          · exact .inl rfl
      · simp only [if_neg hhere]
        constructor
        · exact .inl
        · rintro (hold | ⟨_, found, heq, hfound⟩)
          · exact hold
          · cases heq
            exact absurd hfound hhere

theorem forwards_reduceConnection (nodes : CurrentNode × OtherNodes)
    (extraParams : ExtraParams) (node : Endpoint) (other : UserId) :
    Forwards (reduceConnection deployment endpoint userId nodes
        extraParams).2 node other ↔
      Forwards nodes.2 node other ∨ other = userId ∧
        extraParams.nodeEndpoint = some node ∧
          ¬ IsHere deployment endpoint node := by
  unfold reduceConnection IsHere
  cases hnode : extraParams.nodeEndpoint with
  | none => simp
  | some found =>
      by_cases hhere : found = endpoint ∨ deployment.isStandAloneNode = true
      · simp only [if_pos hhere]
        constructor
        · exact .inl
        · rintro (hold | ⟨_, heq, hother⟩)
          · exact hold
          · cases heq
            exact absurd hhere hother
      · simp only [if_neg hhere, Forwards, OrderedMap.get?_set]
        by_cases hfound : node = found
        · subst hfound
          simp only [if_true, Option.some.injEq, exists_eq_left',
            OrderedMap.mem_keys_set]
          cases nodes.2.get? node with
          | none => simp [OrderedMap.empty, OrderedMap.keys, hhere]
          | some users => simp [hhere, or_comm]
        · have hne : found ≠ node := fun heq => hfound heq.symm
          simp [hfound, hne]

theorem mem_keys_reduceUserNodeConnections (connections : List ExtraParams)
    (nodes : CurrentNode × OtherNodes) (other : UserId) :
    other ∈ (reduceUserNodeConnections deployment endpoint userId
        connections nodes).1.keys ↔
      other ∈ nodes.1.keys ∨ other = userId ∧
        ∃ extraParams ∈ connections, ∃ node,
          extraParams.nodeEndpoint = some node ∧
            IsHere deployment endpoint node := by
  unfold reduceUserNodeConnections
  induction connections generalizing nodes with
  | nil => simp
  | cons first connections ih =>
      rw [List.foldl_cons, ih, mem_keys_reduceConnection]
      simp only [List.mem_cons, exists_eq_or_imp, and_or_left, or_assoc]

theorem forwards_reduceUserNodeConnections (connections : List ExtraParams)
    (nodes : CurrentNode × OtherNodes) (node : Endpoint) (other : UserId) :
    Forwards (reduceUserNodeConnections deployment endpoint userId
        connections nodes).2 node other ↔
      Forwards nodes.2 node other ∨ other = userId ∧
        (∃ extraParams ∈ connections,
          extraParams.nodeEndpoint = some node) ∧
          ¬ IsHere deployment endpoint node := by
  unfold reduceUserNodeConnections
  induction connections generalizing nodes with
  | nil => simp
  | cons first connections ih =>
      rw [List.foldl_cons, ih, forwards_reduceConnection]
      simp only [List.mem_cons, exists_eq_or_imp]
      rw [or_and_right, and_or_left, or_assoc]

end Reduce

section Loop

variable (deployment : Deployment) (endpoint : Endpoint)
  (notSaveInOfflineStorage : Bool)
  (userData : UserId → OrderedMap DeviceId ExtraParams)

def isOffline (userConnections : OrderedMap DeviceId ExtraParams) : Bool :=
  userConnections.entries.isEmpty

def isInactive (userConnections : OrderedMap DeviceId ExtraParams) : Bool :=
  userConnections.entries.any (fun entry => entry.2.mobileInactive)

theorem isOffline_iff (userConnections : OrderedMap DeviceId ExtraParams) :
    isOffline userConnections = true ↔
      ∀ deviceId, userConnections.get? deviceId = none := by
  rw [isOffline, List.isEmpty_iff, List.eq_nil_iff_forall_not_mem]
  constructor
  · intro hnone deviceId
    rw [Option.eq_none_iff_forall_ne_some]
    intro extraParams hfound
    exact hnone _ ((userConnections.mem_entries_iff _ _).2 hfound)
  · rintro hnone ⟨deviceId, extraParams⟩ hmem
    rw [userConnections.mem_entries_iff, hnone] at hmem
    cases hmem

theorem mem_connections_iff
    (userConnections : OrderedMap DeviceId ExtraParams)
    (extraParams : ExtraParams) :
    extraParams ∈ (propertyOrder (fun entry => entry.1.value)
        userConnections.entries).map Prod.snd ↔
      ∃ deviceId, userConnections.get? deviceId = some extraParams := by
  simp [OrderedMap.mem_entries_iff]

/-- The turn of the loop in the terms above. -/
theorem sortDestination_eq (destinations : Destinations) (userId : UserId)
    (userConnections : OrderedMap DeviceId ExtraParams) :
    sortDestination deployment endpoint notSaveInOfflineStorage destinations
        userId userConnections =
      { savedUserIds :=
          if isOffline userConnections && !notSaveInOfflineStorage then
            destinations.savedUserIds ++ [userId]
          else destinations.savedUserIds
        offlineUsersIds :=
          if isOffline userConnections || isInactive userConnections then
            destinations.offlineUsersIds ++ [userId]
          else destinations.offlineUsersIds
        nodes :=
          if isOffline userConnections then destinations.nodes
          else reduceUserNodeConnections deployment endpoint userId
            ((propertyOrder (fun entry => entry.1.value)
              userConnections.entries).map Prod.snd) destinations.nodes } := by
  have horder := propertyOrder_perm
    (fun entry : DeviceId × ExtraParams => entry.1.value)
    userConnections.entries
  have hempty : ((propertyOrder
      (fun entry : DeviceId × ExtraParams => entry.1.value)
      userConnections.entries).map Prod.snd).isEmpty =
        isOffline userConnections := by
    rw [List.isEmpty_map, isOffline, horder.isEmpty_eq]
  have hany : ((propertyOrder
      (fun entry : DeviceId × ExtraParams => entry.1.value)
      userConnections.entries).map Prod.snd).any
        ExtraParams.mobileInactive = isInactive userConnections := by
    rw [List.any_map, isInactive, horder.any_eq]
    rfl
  simp only [sortDestination, hempty, hany]

/-- The loop, once the connections of every user are known. -/
def sortAll (destinationUserIds : List UserId)
    (destinations : Destinations) : Destinations :=
  destinationUserIds.foldl (fun destinations userId =>
    sortDestination deployment endpoint notSaveInOfflineStorage destinations
      userId (userData userId)) destinations

theorem savedUserIds_sortAll (destinationUserIds : List UserId)
    (destinations : Destinations) :
    (sortAll deployment endpoint notSaveInOfflineStorage userData
        destinationUserIds destinations).savedUserIds =
      destinations.savedUserIds ++ destinationUserIds.filter (fun userId =>
        isOffline (userData userId) && !notSaveInOfflineStorage) := by
  unfold sortAll
  induction destinationUserIds generalizing destinations with
  | nil => simp
  | cons userId userIds ih =>
      rw [List.foldl_cons, ih, sortDestination_eq, List.filter_cons]
      dsimp only
      split
      · rw [List.append_assoc, List.singleton_append]
      · rfl

theorem offlineUsersIds_sortAll (destinationUserIds : List UserId)
    (destinations : Destinations) :
    (sortAll deployment endpoint notSaveInOfflineStorage userData
        destinationUserIds destinations).offlineUsersIds =
      destinations.offlineUsersIds ++ destinationUserIds.filter
        (fun userId => isOffline (userData userId) ||
          isInactive (userData userId)) := by
  unfold sortAll
  induction destinationUserIds generalizing destinations with
  | nil => simp
  | cons userId userIds ih =>
      rw [List.foldl_cons, ih, sortDestination_eq, List.filter_cons]
      dsimp only
      split
      · rw [List.append_assoc, List.singleton_append]
      · rfl

theorem not_names_of_isOffline
    {userConnections : OrderedMap DeviceId ExtraParams}
    (hoffline : isOffline userConnections = true) (node : Endpoint) :
    ¬ Names userConnections node := by
  rintro ⟨deviceId, extraParams, hfound, _⟩
  rw [(isOffline_iff userConnections).1 hoffline] at hfound
  cases hfound

/-- One turn puts the user on this node if a connection names it. -/
theorem mem_keys_sortDestination (destinations : Destinations)
    (userId other : UserId) :
    other ∈ (sortDestination deployment endpoint notSaveInOfflineStorage
        destinations userId (userData userId)).nodes.1.keys ↔
      other ∈ destinations.nodes.1.keys ∨ other = userId ∧
        ∃ node, Names (userData other) node ∧
          IsHere deployment endpoint node := by
  rw [sortDestination_eq]
  dsimp only
  split
  · next hoffline =>
      constructor
      · exact .inl
      · rintro (hold | ⟨rfl, node, hnames, _⟩)
        · exact hold
        · exact absurd hnames (not_names_of_isOffline hoffline node)
  · rw [mem_keys_reduceUserNodeConnections]
    refine or_congr_right (and_congr_right ?_)
    rintro rfl
    simp only [mem_connections_iff, Names]
    constructor
    · rintro ⟨extraParams, ⟨deviceId, hfound⟩, node, hnode, hhere⟩
      exact ⟨node, ⟨deviceId, extraParams, hfound, hnode⟩, hhere⟩
    · rintro ⟨node, ⟨deviceId, extraParams, hfound, hnode⟩, hhere⟩
      exact ⟨extraParams, ⟨deviceId, hfound⟩, node, hnode, hhere⟩

/-- One turn puts the user on every other node that a connection names. -/
theorem forwards_sortDestination (destinations : Destinations)
    (userId other : UserId) (node : Endpoint) :
    Forwards (sortDestination deployment endpoint notSaveInOfflineStorage
        destinations userId (userData userId)).nodes.2 node other ↔
      Forwards destinations.nodes.2 node other ∨ other = userId ∧
        Names (userData other) node ∧
          ¬ IsHere deployment endpoint node := by
  rw [sortDestination_eq]
  dsimp only
  split
  · next hoffline =>
      constructor
      · exact .inl
      · rintro (hold | ⟨rfl, hnames, _⟩)
        · exact hold
        · exact absurd hnames (not_names_of_isOffline hoffline node)
  · rw [forwards_reduceUserNodeConnections]
    refine or_congr_right (and_congr_right ?_)
    rintro rfl
    simp only [mem_connections_iff, Names]
    refine and_congr_left (fun _ => ?_)
    constructor
    · rintro ⟨extraParams, ⟨deviceId, hfound⟩, hnode⟩
      exact ⟨deviceId, extraParams, hfound, hnode⟩
    · rintro ⟨deviceId, extraParams, hfound, hnode⟩
      exact ⟨extraParams, ⟨deviceId, hfound⟩, hnode⟩

theorem mem_keys_sortAll (destinationUserIds : List UserId)
    (destinations : Destinations) (other : UserId) :
    other ∈ (sortAll deployment endpoint notSaveInOfflineStorage userData
        destinationUserIds destinations).nodes.1.keys ↔
      other ∈ destinations.nodes.1.keys ∨ other ∈ destinationUserIds ∧
        ∃ node, Names (userData other) node ∧
          IsHere deployment endpoint node := by
  unfold sortAll
  induction destinationUserIds generalizing destinations with
  | nil => simp
  | cons userId userIds ih =>
      rw [List.foldl_cons, ih, mem_keys_sortDestination, List.mem_cons,
        or_and_right, or_assoc]

theorem forwards_sortAll (destinationUserIds : List UserId)
    (destinations : Destinations) (other : UserId) (node : Endpoint) :
    Forwards (sortAll deployment endpoint notSaveInOfflineStorage userData
        destinationUserIds destinations).nodes.2 node other ↔
      Forwards destinations.nodes.2 node other ∨
        other ∈ destinationUserIds ∧ Names (userData other) node ∧
          ¬ IsHere deployment endpoint node := by
  unfold sortAll
  induction destinationUserIds generalizing destinations with
  | nil => simp
  | cons userId userIds ih =>
      rw [List.foldl_cons, ih, forwards_sortDestination, List.mem_cons,
        or_and_right, or_assoc]

end Loop

section Run

variable (deployment : Deployment) (endpoint : Endpoint)
  (organizationId : OrganizationId) (cluster : Cluster)

/-- What the service answers about a user. -/
def userDataOf (userId : UserId) : OrderedMap DeviceId ExtraParams :=
  ((SessionService.listUserData deployment endpoint organizationId
    userId).run cluster).1

/-- Looking at the connections of a user changes nothing. -/
theorem run_listUserData (userId : UserId) :
    (SessionService.listUserData deployment endpoint organizationId
      userId).run cluster =
      (userDataOf deployment endpoint organizationId cluster userId,
        cluster) := by
  have hstate : ((SessionService.listUserData deployment endpoint
      organizationId userId).run cluster).2 = cluster := by
    unfold SessionService.listUserData SessionService.listUserDevice
    split
    · exact SessionService.setNode_self endpoint cluster
    · exact (SessionService.run_readUserData userId _ _ cluster).1
  exact Prod.ext rfl hstate

theorem run_sortDestinations (notSaveInOfflineStorage : Bool)
    (destinationUserIds : List UserId) (destinations : Destinations) :
    (sortDestinations deployment endpoint organizationId
        notSaveInOfflineStorage destinationUserIds destinations).run
          cluster =
      (sortAll deployment endpoint notSaveInOfflineStorage
        (userDataOf deployment endpoint organizationId cluster)
        destinationUserIds destinations, cluster) := by
  induction destinationUserIds generalizing destinations with
  | nil => rfl
  | cons userId userIds ih =>
      rw [sortDestinations, Async.run_bind, run_listUserData, ih]
      rfl

theorem run_deliverToUserOrUsers {Packet Message Push : Type}
    (mapper : PacketMapper Packet Message) (sourceOptions : SourceOptions)
    (destinationUserIds : List UserId)
    (payloadOptions : PayloadOptions Packet Push) :
    (deliverToUserOrUsers deployment endpoint mapper sourceOptions
        destinationUserIds payloadOptions).run cluster =
      (handOver mapper payloadOptions
        (senderInfoOf endpoint sourceOptions (cluster.node endpoint))
        (sortAll deployment endpoint payloadOptions.notSaveInOfflineStorage
          (userDataOf deployment endpoint sourceOptions.organizationId
            cluster) destinationUserIds .none)
        (cluster.node endpoint), cluster) := by
  simp only [deliverToUserOrUsers, Async.run_bind,
    SessionService.run_nodeBlock, SessionService.setNode_self,
    run_sortDestinations]

end Run

end PacketManager

end SamaServer
