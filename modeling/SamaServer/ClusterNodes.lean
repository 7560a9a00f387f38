/-
The nodes that a cluster takes for alive.  Every node renews a record of its
own, which Redis forgets when it is not renewed; a sync reads the records, then
the nodes that users are registered on, and clears those without a record.
-/
import SamaServer.JoinedLists
import SamaServer.NodeCleanUp
import SamaServer.RelyGuarantee

namespace SamaServer

structure NodeAddress where
  ipAddress : String
  port : String
deriving DecidableEq

/-- The hash `sama-node-data:{node}`; it is kept for ever until `expire`. -/
structure NodeData where
  address : NodeAddress
  expiresAt : Option Nat
deriving DecidableEq

/-- The clock of Redis in milliseconds, the records of the nodes, and what the
session service keeps. -/
structure NodeStore where
  now : Nat
  nodeData : OrderedMap Endpoint NodeData
  cluster : Cluster

structure NodesConfig where
  nodeExpiresIn : Nat
  buildWsEndpoint : NodeAddress → Endpoint
  deployment : Deployment

/-- `Math.round` of the milliseconds in seconds, and five. -/
def NodesConfig.expireSeconds (config : NodesConfig) : Nat :=
  (config.nodeExpiresIn + 500) / 1000 + 5

/-- A node that syncs, with the peers in its two maps of connections. -/
structure SyncingNode where
  address : NodeAddress
  reconnecting : List Endpoint
  connected : List Endpoint
deriving DecidableEq

/-- A hash that was forgotten is read as one without fields, and its fields
make no url. -/
inductive NodeError
  | invalidUrl
deriving DecidableEq

/-- The steps of a sync, with the node that takes them; those of a clean-up,
those of the session service, and the time that passes. -/
inductive SyncLabel
  | storing (endpoint : Endpoint)
  | renewing (endpoint : Endpoint)
  | readingActive (endpoint : Endpoint)
  | readingNode (endpoint nodeKey : Endpoint)
  | readingStored (endpoint : Endpoint)
  | node (label : NodeLabel)
  | session (label : Label)
  | elapsing (milliseconds : Nat)
deriving DecidableEq

namespace NodeStore

def setCluster (s : NodeStore) (cluster : Cluster) : NodeStore :=
  { s with cluster := cluster }

/-! ### Redis -/

/-- The record of a node that has not been forgotten. -/
def liveData (s : NodeStore) (endpoint : Endpoint) : Option NodeData :=
  (s.nodeData.get? endpoint).filter (fun data =>
    data.expiresAt.all (fun expiresAt => s.now ≤ expiresAt))

def IsLive (s : NodeStore) (endpoint : Endpoint) : Prop :=
  (s.liveData endpoint).isSome

instance (s : NodeStore) (endpoint : Endpoint) :
    Decidable (s.IsLive endpoint) :=
  inferInstanceAs (Decidable ((s.liveData endpoint).isSome = true))

/-- `hSet` leaves the time at which the hash is forgotten. -/
def hSet (s : NodeStore) (endpoint : Endpoint) (address : NodeAddress) :
    NodeStore :=
  { s with
    nodeData := s.nodeData.set endpoint
      ⟨address, (s.liveData endpoint).bind NodeData.expiresAt⟩ }

/-- `expire` does nothing when there is no such hash. -/
def expire (s : NodeStore) (endpoint : Endpoint) (seconds : Nat) :
    NodeStore :=
  match s.liveData endpoint with
  | some data =>
      { s with
        nodeData := s.nodeData.set endpoint
          { data with expiresAt := some (s.now + 1000 * seconds) } }
  | none => s

/-- `keys` of `sama-node-data:*`. -/
def nodeKeys (s : NodeStore) : List Endpoint :=
  s.nodeData.keys.filter (fun endpoint => s.IsLive endpoint)

def hGetAll (s : NodeStore) (endpoint : Endpoint) : Option NodeAddress :=
  (s.liveData endpoint).map NodeData.address

/-- `keys` of `sama-node-users:*`. -/
def storedNodes (s : NodeStore) : List Endpoint :=
  s.cluster.redis.nodeUsers.keys.filter (fun endpoint =>
    s.cluster.redis.nodeUsers.members endpoint ≠ [])

/-- The time that passes between two commands. -/
def elapse (s : NodeStore) (milliseconds : Nat) : NodeStore :=
  { s with now := s.now + milliseconds }

end NodeStore

abbrev SyncService := Fallible SyncLabel NodeStore NodeError

def syncUpdate (label : SyncLabel) (update : NodeStore → NodeStore) :
    SyncService Unit :=
  .command label (fun s => (.ok (), update s))

def syncQuery {A : Type} (label : SyncLabel) (query : NodeStore → A) :
    SyncService A :=
  .command label (fun s => (.ok (query s), s))

namespace ClusterNodeService

variable (config : NodesConfig) (endpoint : Endpoint)

def upsert (address : NodeAddress) : SyncService Unit := do
  syncUpdate (.storing endpoint) (fun s => s.hSet endpoint address)
  syncUpdate (.renewing endpoint)
    (fun s => s.expire endpoint config.expireSeconds)

def readNodes : List Endpoint → SyncService (List (Option NodeAddress))
  | [] => pure []
  | nodeKey :: nodeKeys => do
      let nodeInfo ← syncQuery (.readingNode endpoint nodeKey)
        (fun s => s.hGetAll nodeKey)
      let nodesInfo ← readNodes nodeKeys
      pure (nodeInfo :: nodesInfo)

/-- The urls are built once all hashes are read. -/
def nodeEndpoints (nodesInfo : List (Option NodeAddress)) :
    SyncService (List Endpoint) :=
  if none ∈ nodesInfo then .throw .invalidUrl
  else pure (InsertionSet.ofList
    ((nodesInfo.filterMap id).map config.buildWsEndpoint))

def retrieveActive : SyncService (List Endpoint) := do
  let nodeKeys ← syncQuery (.readingActive endpoint) NodeStore.nodeKeys
  let nodesInfo ← readNodes endpoint nodeKeys
  nodeEndpoints config nodesInfo

def retrieveStored : SyncService (List Endpoint) :=
  syncQuery (.readingStored endpoint) NodeStore.storedNodes

end ClusterNodeService

namespace ClusterSync

open ClusterNodeService

/-- The stored nodes come first, then the peers that are reconnected to, then
those that are connected. -/
def destroyedNodes (node : SyncingNode) (activeNodes storedNodes :
    List Endpoint) : List Endpoint :=
  InsertionSet.ofList ((storedNodes ++ node.reconnecting ++
    node.connected).filter (fun endpoint => endpoint ∉ activeNodes))

variable (config : NodesConfig)

/-- `cleanDestroyedNodeData` on the part that the session service keeps. -/
def cleanDestroyedNodeData (endpoint : Endpoint) : SyncService Unit :=
  .ofAsync (((SessionService.cleanDestroyedNodeData config.deployment
    endpoint).onPart NodeStore.cluster NodeStore.setCluster).mapLabel .node)

def cleanDestroyedNodes : List Endpoint → SyncService Unit
  | [] => pure ()
  | endpoint :: endpoints => do
      cleanDestroyedNodeData config endpoint
      cleanDestroyedNodes endpoints

/-- What is destroyed is found out before it is connected to the active nodes,
and cleared afterwards. -/
def connectToExistingClusterNodes (node : SyncingNode) :
    SyncService Unit := do
  let activeNodes ← retrieveActive config
    (config.buildWsEndpoint node.address)
  let storedNodes ← retrieveStored (config.buildWsEndpoint node.address)
  cleanDestroyedNodes config (destroyedNodes node activeNodes storedNodes)

def syncCluster (node : SyncingNode) : SyncService Unit := do
  upsert config (config.buildWsEndpoint node.address) node.address
  connectToExistingClusterNodes config node

/-- `startSyncingClusterNodes` of a node that has just come up. -/
def coldStart (node : SyncingNode) : SyncService Unit := do
  cleanDestroyedNodeData config (config.buildWsEndpoint node.address)
  syncCluster config node

end ClusterSync

/-! ### Records -/

namespace NodeStore

variable {config : NodesConfig} {s : NodeStore} {endpoint other : Endpoint}
  {address : NodeAddress} {seconds : Nat}

theorem liveData_hSet :
    (s.hSet endpoint address).liveData other =
      if other = endpoint then
        some ⟨address, (s.liveData endpoint).bind NodeData.expiresAt⟩
      else s.liveData other := by
  by_cases hother : other = endpoint
  · rw [if_pos hother]
    refine Option.filter_eq_some_iff.2 ⟨?_, ?_⟩
    · rw [hSet, OrderedMap.get?_set, if_pos hother]
    · cases hdata : s.liveData endpoint with
      | none => rfl
      | some data => exact (Option.filter_eq_some_iff.1 hdata).2
  · rw [if_neg hother, liveData, hSet, OrderedMap.get?_set, if_neg hother]
    rfl

theorem liveData_expire :
    (s.expire endpoint seconds).liveData other =
      if other = endpoint then
        (s.liveData endpoint).map (fun data =>
          { data with expiresAt := some (s.now + 1000 * seconds) })
      else s.liveData other := by
  rw [expire]
  cases hdata : s.liveData endpoint with
  | none =>
      by_cases hother : other = endpoint
      · rw [if_pos hother, hother, hdata]
        rfl
      · rw [if_neg hother]
  | some data =>
      simp only [liveData, OrderedMap.get?_set, Option.map_some]
      by_cases hother : other = endpoint
      · rw [if_pos hother, if_pos hother, Option.filter_eq_some_iff]
        exact ⟨rfl, by simp⟩
      · rw [if_neg hother, if_neg hother]

/-- The address of each record is that of its node. -/
def Addressed (config : NodesConfig) (s : NodeStore) : Prop :=
  ∀ endpoint data, s.nodeData.get? endpoint = some data →
    config.buildWsEndpoint data.address = endpoint

theorem get?_of_liveData {data : NodeData}
    (hdata : s.liveData endpoint = some data) :
    s.nodeData.get? endpoint = some data :=
  (Option.filter_eq_some_iff.1 hdata).1

theorem Addressed.hSet (haddressed : s.Addressed config) :
    (s.hSet (config.buildWsEndpoint address) address).Addressed config := by
  intro node data hdata
  rw [NodeStore.hSet, OrderedMap.get?_set] at hdata
  split at hdata
  · rename_i hnode
    cases hdata
    exact hnode.symm
  · exact haddressed node data hdata

theorem Addressed.expire (haddressed : s.Addressed config) :
    (s.expire endpoint seconds).Addressed config := by
  rw [NodeStore.expire]
  cases hlive : s.liveData endpoint with
  | none => exact haddressed
  | some found =>
      intro node data hdata
      rw [OrderedMap.get?_set] at hdata
      split at hdata
      · rename_i hnode
        cases hdata
        rw [hnode]
        exact haddressed endpoint found (get?_of_liveData hlive)
      · exact haddressed node data hdata

theorem mem_nodeKeys : endpoint ∈ s.nodeKeys ↔ s.IsLive endpoint := by
  rw [nodeKeys, List.mem_filter, decide_eq_true_eq, and_iff_right_iff_imp]
  intro hlive
  obtain ⟨data, hdata⟩ := Option.isSome_iff_exists.1 hlive
  exact (OrderedMap.mem_keys_iff _ _).2 ⟨data, get?_of_liveData hdata⟩

theorem mem_storedNodes : endpoint ∈ s.storedNodes ↔
    s.cluster.redis.nodeUsers.members endpoint ≠ [] := by
  rw [storedNodes, List.mem_filter, decide_eq_true_eq, and_iff_right_iff_imp]
  intro hmembers
  rw [OrderedMap.mem_keys_iff]
  cases hget : s.cluster.redis.nodeUsers.get? endpoint with
  | none => exact absurd (by rw [OrderedMap.members, hget]; rfl) hmembers
  | some users => exact ⟨users, rfl⟩

/-- The records after `upsert`. -/
def upserted (config : NodesConfig) (s : NodeStore) (address : NodeAddress) :
    NodeStore :=
  (s.hSet (config.buildWsEndpoint address) address).expire
    (config.buildWsEndpoint address) config.expireSeconds

theorem Addressed.upserted (haddressed : s.Addressed config)
    (address : NodeAddress) :
    (s.upserted config address).Addressed config := haddressed.hSet.expire

theorem isLive_upserted : (s.upserted config address).IsLive other ↔
    s.IsLive other ∨ other = config.buildWsEndpoint address := by
  rw [IsLive, upserted, liveData_expire, liveData_hSet, if_pos rfl,
    liveData_hSet]
  by_cases hother : other = config.buildWsEndpoint address
  · simp [hother]
  · rw [if_neg hother, if_neg hother, or_iff_left hother]
    rfl

theorem cluster_expire :
    (s.expire endpoint seconds).cluster = s.cluster := by
  rw [expire]
  split <;> rfl

theorem cluster_upserted :
    (s.upserted config address).cluster = s.cluster := cluster_expire

end NodeStore

namespace Redis

theorem nodeUsers_removeNamed (redis : Redis) (userData : NodeUser) :
    (redis.removeNamed userData).nodeUsers = redis.nodeUsers := by
  unfold removeNamed deleteNamedExtraParams removeNamedDevice
  split <;> split <;> rfl

theorem nodeUsers_foldl_removeNamed (redis : Redis)
    (entries : List NodeUser) :
    (entries.foldl removeNamed redis).nodeUsers = redis.nodeUsers := by
  induction entries generalizing redis with
  | nil => rfl
  | cons userData entries ih =>
      rw [List.foldl_cons, ih, nodeUsers_removeNamed]

end Redis

namespace SessionService

theorem run_reportOffline (nodeEndpoint : Endpoint)
    (offlineUsers : List NodeUser) (cluster : Cluster) :
    ((reportOffline nodeEndpoint offlineUsers).run cluster).2 = cluster := by
  induction offlineUsers with
  | nil => rfl
  | cons userData offlineUsers ih => exact ih

/-- A clean-up takes the users of its node away and those of no other. -/
theorem members_cleanDestroyedNodeData {deployment : Deployment}
    (hcluster : deployment.isStandAloneNode = false)
    (nodeEndpoint other : Endpoint) (cluster : Cluster) :
    ((cleanDestroyedNodeData deployment nodeEndpoint).run
        cluster).2.redis.nodeUsers.members other =
      if other = nodeEndpoint then []
      else cluster.redis.nodeUsers.members other := by
  rw [cleanDestroyedNodeData, Async.run_bind, run_reportOffline,
    run_clearNodeUsersSession deployment hcluster, Cluster.redis_setRedis,
    Redis.deleteNodeConnections, OrderedMap.members_erase,
    Redis.nodeUsers_foldl_removeNamed]

end SessionService

/-! ### A sync that nothing interrupts -/

namespace ClusterSync

open ClusterNodeService

variable {config : NodesConfig} {s : NodeStore} {endpoint : Endpoint}

theorem exec_readNodes (nodeKeys : List Endpoint) :
    (readNodes endpoint nodeKeys).exec s =
      (.ok (nodeKeys.map s.hGetAll), s) := by
  induction nodeKeys with
  | nil => rfl
  | cons nodeKey nodeKeys ih =>
      have hfirst : (syncQuery (.readingNode endpoint nodeKey)
          (fun s => s.hGetAll nodeKey)).exec s =
            (.ok (s.hGetAll nodeKey), s) := rfl
      rw [readNodes, Fallible.exec_bind_ok hfirst, Fallible.exec_bind_ok ih]
      rfl

/-- The active nodes are those with a record. -/
theorem exec_retrieveActive (endpoint : Endpoint)
    (haddressed : s.Addressed config) :
    ∃ activeNodes, (retrieveActive config endpoint).exec s =
      (.ok activeNodes, s) ∧ ∀ node, node ∈ activeNodes ↔ s.IsLive node := by
  have hkeys : (syncQuery (.readingActive endpoint)
      NodeStore.nodeKeys).exec s = (.ok s.nodeKeys, s) := rfl
  have hread : ∀ nodeKey ∈ s.nodeKeys, ∃ address,
      s.hGetAll nodeKey = some address ∧
        config.buildWsEndpoint address = nodeKey := by
    intro nodeKey hnodeKey
    obtain ⟨data, hdata⟩ := Option.isSome_iff_exists.1
      (NodeStore.mem_nodeKeys.1 hnodeKey)
    refine ⟨data.address, ?_, haddressed nodeKey data
      (NodeStore.get?_of_liveData hdata)⟩
    rw [NodeStore.hGetAll, hdata]
    rfl
  have hnone : none ∉ s.nodeKeys.map s.hGetAll := by
    intro hmem
    obtain ⟨nodeKey, hnodeKey, hforgotten⟩ := List.mem_map.1 hmem
    obtain ⟨address, haddress, -⟩ := hread nodeKey hnodeKey
    rw [haddress] at hforgotten
    cases hforgotten
  refine ⟨InsertionSet.ofList (((s.nodeKeys.map s.hGetAll).filterMap id).map
    config.buildWsEndpoint), ?_, fun node => ?_⟩
  · rw [retrieveActive, Fallible.exec_bind_ok hkeys,
      Fallible.exec_bind_ok (exec_readNodes s.nodeKeys), nodeEndpoints,
      if_neg hnone, Fallible.exec_pure]
  · rw [InsertionSet.mem_ofList, List.mem_map, ← NodeStore.mem_nodeKeys]
    constructor
    · rintro ⟨address, haddress, rfl⟩
      obtain ⟨info, hinfo, rfl⟩ := List.mem_filterMap.1 haddress
      obtain ⟨nodeKey, hnodeKey, hsame⟩ := List.mem_map.1 hinfo
      obtain ⟨found, hfound, hkey⟩ := hread nodeKey hnodeKey
      have hsame : found = address := Option.some.inj (hfound.symm.trans hsame)
      rw [← hsame, hkey]
      exact hnodeKey
    · intro hnodeKey
      obtain ⟨address, haddress, hkey⟩ := hread node hnodeKey
      exact ⟨address, List.mem_filterMap.2 ⟨some address,
        List.mem_map.2 ⟨node, hnodeKey, haddress⟩, rfl⟩, hkey⟩

theorem exec_cleanDestroyedNodeData :
    (cleanDestroyedNodeData config endpoint).exec s =
      (.ok (), s.setCluster ((SessionService.cleanDestroyedNodeData
        config.deployment endpoint).run s.cluster).2) := by
  have hrun : ((SessionService.cleanDestroyedNodeData config.deployment
      endpoint).onPart NodeStore.cluster NodeStore.setCluster).run s =
        (((SessionService.cleanDestroyedNodeData config.deployment
          endpoint).run s.cluster).1,
        s.setCluster ((SessionService.cleanDestroyedNodeData
          config.deployment endpoint).run s.cluster).2) :=
    Async.run_onPart NodeStore.cluster NodeStore.setCluster
      (fun _ _ => rfl) (fun _ _ _ => rfl) (fun _ => rfl) _ _
  rw [cleanDestroyedNodeData, Fallible.exec_ofAsync, Async.run_mapLabel, hrun]

theorem exec_cleanDestroyedNodes
    (hcluster : config.deployment.isStandAloneNode = false)
    (endpoints : List Endpoint) :
    ∃ cluster, (cleanDestroyedNodes config endpoints).exec s =
      (.ok (), s.setCluster cluster) ∧ ∀ other,
        cluster.redis.nodeUsers.members other =
          if other ∈ endpoints then []
          else s.cluster.redis.nodeUsers.members other := by
  induction endpoints generalizing s with
  | nil => exact ⟨s.cluster, rfl, fun other => (if_neg (by simp)).symm⟩
  | cons endpoint endpoints ih =>
      obtain ⟨cluster, hexec, hmembers⟩ := ih (s := s.setCluster
        ((SessionService.cleanDestroyedNodeData config.deployment
          endpoint).run s.cluster).2)
      refine ⟨cluster, ?_, fun other => ?_⟩
      · rw [cleanDestroyedNodes,
          Fallible.exec_bind_ok exec_cleanDestroyedNodeData, hexec]
        rfl
      · rw [hmembers, NodeStore.setCluster,
          SessionService.members_cleanDestroyedNodeData hcluster]
        by_cases hother : other = endpoint
        · simp [hother]
        · simp [hother]

theorem mem_destroyedNodes {node : SyncingNode}
    {activeNodes storedNodes : List Endpoint} :
    endpoint ∈ destroyedNodes node activeNodes storedNodes ↔
      (endpoint ∈ storedNodes ∨ endpoint ∈ node.reconnecting ∨
        endpoint ∈ node.connected) ∧ endpoint ∉ activeNodes := by
  rw [destroyedNodes, InsertionSet.mem_ofList, List.mem_filter,
    decide_eq_true_eq, List.mem_append, List.mem_append, or_assoc]

/-- After a sync the users that are registered on a node are the ones from
before if the node has a record or is the one that syncs, and otherwise there
are none. -/
theorem exec_syncCluster
    (hcluster : config.deployment.isStandAloneNode = false)
    (haddressed : s.Addressed config) (node : SyncingNode) :
    ∃ after, (syncCluster config node).exec s = (.ok (), after) ∧
      after.IsLive (config.buildWsEndpoint node.address) ∧
      ∀ other, after.cluster.redis.nodeUsers.members other =
        if s.IsLive other ∨ other = config.buildWsEndpoint node.address then
          s.cluster.redis.nodeUsers.members other
        else [] := by
  have hupsert : (upsert config (config.buildWsEndpoint node.address)
      node.address).exec s = (.ok (), s.upserted config node.address) := rfl
  obtain ⟨activeNodes, hactive, hmem⟩ := exec_retrieveActive
    (config.buildWsEndpoint node.address) (haddressed.upserted node.address)
  have hstored : (retrieveStored
      (config.buildWsEndpoint node.address)).exec
        (s.upserted config node.address) =
      (.ok (s.upserted config node.address).storedNodes,
        s.upserted config node.address) := rfl
  obtain ⟨cluster, hclean, hmembers⟩ := exec_cleanDestroyedNodes hcluster
    (s := s.upserted config node.address) (destroyedNodes node activeNodes
      (s.upserted config node.address).storedNodes)
  refine ⟨(s.upserted config node.address).setCluster cluster, ?_,
    NodeStore.isLive_upserted.2 (Or.inr rfl), fun other => ?_⟩
  · rw [syncCluster, Fallible.exec_bind_ok hupsert,
      connectToExistingClusterNodes, Fallible.exec_bind_ok hactive,
      Fallible.exec_bind_ok hstored, hclean]
  · have hother := hmembers other
    simp only [mem_destroyedNodes, hmem, NodeStore.isLive_upserted,
      NodeStore.mem_storedNodes, NodeStore.cluster_upserted] at hother
    change cluster.redis.nodeUsers.members other = _
    rw [hother]
    by_cases hlive : s.IsLive other ∨
        other = config.buildWsEndpoint node.address
    · rw [if_pos hlive, if_neg (fun hgone => hgone.2 hlive)]
    · rw [if_neg hlive]
      by_cases hnone : s.cluster.redis.nodeUsers.members other = []
      · rw [hnone, ite_self]
      · rw [if_pos ⟨Or.inl hnone, hlive⟩]

end ClusterSync

end SamaServer
