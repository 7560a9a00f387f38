/-
Which nodes a cluster clears.  The steps of all syncs interleave with each
other, with the requests of users and with the time that passes.  A sync clears
a node only if it found no record of it, and a record is there as long as it
was renewed in time.
-/
import SamaServer.ClusterNodes

namespace SamaServer

/-- The step that decides which nodes a sync takes for alive. -/
def SyncLabel.readsActive : SyncLabel → Bool
  | .readingActive _ => true
  | _ => false

/-- A step that begins to clear a node clears one of these. -/
def SyncLabel.Permits (allowed : Endpoint → Prop) (label : SyncLabel) : Prop :=
  ∀ nodeEndpoint, label = .node (.members nodeEndpoint) → allowed nodeEndpoint

namespace NodeStore

/-- The record of the node stays until the deadline, and nothing that renews
it now makes it go earlier. -/
structure Held (config : NodesConfig) (endpoint : Endpoint) (deadline : Nat)
    (s : NodeStore) : Prop where
  reach : deadline ≤ s.now + 1000 * config.expireSeconds
  record : ∃ data, s.nodeData.get? endpoint = some data ∧
    ∀ expiresAt, data.expiresAt = some expiresAt → deadline ≤ expiresAt

/-- What any step does to the records. -/
structure KeepsRecords (config : NodesConfig) (label : SyncLabel)
    (before after : NodeStore) : Prop where
  addressed : before.Addressed config → after.Addressed config
  held : ∀ endpoint deadline, before.Held config endpoint deadline →
    after.Held config endpoint deadline
  renewed : ∀ endpoint, label = .renewing endpoint → before.IsLive endpoint →
    after.Held config endpoint (before.now + 1000 * config.expireSeconds)

variable {config : NodesConfig} {s : NodeStore} {endpoint : Endpoint}
  {label : SyncLabel}

/-- A held record is there until its deadline has passed. -/
theorem Held.deadline_lt {deadline : Nat}
    (hheld : s.Held config endpoint deadline) (hgone : ¬ s.IsLive endpoint) :
    deadline < s.now := by
  obtain ⟨data, hdata, hexpires⟩ := hheld.record
  rw [IsLive, liveData, hdata] at hgone
  cases htime : data.expiresAt with
  | none => simp [htime] at hgone
  | some expiresAt =>
      have hpast : s.now > expiresAt := by simpa [htime] using hgone
      exact Nat.lt_of_le_of_lt (hexpires expiresAt htime) hpast

theorem keepsRecords_of_same {after : NodeStore}
    (hlabel : ∀ endpoint, label ≠ .renewing endpoint)
    (hdata : after.nodeData = s.nodeData) (hnow : s.now ≤ after.now) :
    KeepsRecords config label s after where
  addressed := by
    intro haddressed node data hget
    rw [hdata] at hget
    exact haddressed node data hget
  held := by
    intro node deadline hheld
    refine ⟨Nat.le_trans hheld.reach (by omega), ?_⟩
    rw [hdata]
    exact hheld.record
  renewed := fun node hrenewing => absurd hrenewing (hlabel node)

/-- A record that is stored again keeps its deadline; one that was forgotten
by then is stored without one. -/
theorem keepsRecords_hSet (address : NodeAddress) :
    KeepsRecords config (.storing (config.buildWsEndpoint address)) s
      (s.hSet (config.buildWsEndpoint address) address) where
  addressed := fun haddressed => haddressed.hSet
  held := by
    intro node deadline hheld
    obtain ⟨data, hdata, hexpires⟩ := hheld.record
    refine ⟨hheld.reach, ?_⟩
    rw [hSet, OrderedMap.get?_set]
    by_cases hnode : node = config.buildWsEndpoint address
    · rw [if_pos hnode]
      refine ⟨_, rfl, fun expiresAt htime => ?_⟩
      obtain ⟨found, hfound, htime⟩ := Option.bind_eq_some_iff.1 htime
      have hsame := get?_of_liveData hfound
      rw [← hnode, hdata, Option.some_inj] at hsame
      rw [← hsame] at htime
      exact hexpires expiresAt htime
    · rw [if_neg hnode]
      exact ⟨data, hdata, hexpires⟩
  renewed := by
    intro node hrenewing
    cases hrenewing

theorem keepsRecords_expire :
    KeepsRecords config (.renewing endpoint) s
      (s.expire endpoint config.expireSeconds) where
  addressed := fun haddressed => haddressed.expire
  held := by
    intro node deadline hheld
    rw [expire]
    cases hlive : s.liveData endpoint with
    | none => exact hheld
    | some found =>
        obtain ⟨data, hdata, hexpires⟩ := hheld.record
        refine ⟨hheld.reach, ?_⟩
        rw [OrderedMap.get?_set]
        by_cases hnode : node = endpoint
        · rw [if_pos hnode]
          refine ⟨_, rfl, fun expiresAt htime => ?_⟩
          cases htime
          exact hheld.reach
        · rw [if_neg hnode]
          exact ⟨data, hdata, hexpires⟩
  renewed := by
    rintro node ⟨⟩ hlive
    obtain ⟨found, hfound⟩ := Option.isSome_iff_exists.1 hlive
    rw [expire, hfound]
    refine ⟨Nat.le_refl _, ?_⟩
    rw [OrderedMap.get?_set, if_pos rfl]
    refine ⟨_, rfl, fun expiresAt htime => ?_⟩
    cases htime
    exact Nat.le_refl _

end NodeStore

/-! ### The steps of the programs -/

namespace SessionService

/-- A clean-up reads the users of its own node. -/
theorem guarantees_members (deployment : Deployment)
    (nodeEndpoint : Endpoint) :
    (cleanDestroyedNodeData deployment nodeEndpoint).Guarantees
      (fun label _ _ => ∀ other, label = .members other →
        other = nodeEndpoint) := by
  have hquery : ∀ {A : Type} (label : NodeLabel) (command : Redis → A × Redis),
      (∀ other, label = .members other → other = nodeEndpoint) →
      (nodeCommand label command).Guarantees (fun label _ _ => ∀ other,
        label = .members other → other = nodeEndpoint) :=
    fun _ _ hlabel => Async.guarantees_atomic (fun _ => hlabel)
  have hremove : ∀ entries reported,
      (removeNodeUsers nodeEndpoint entries reported).Guarantees
        (fun label _ _ => ∀ other, label = .members other →
          other = nodeEndpoint) := by
    intro entries
    induction entries with
    | nil => exact fun _ => trivial
    | cons userData entries ih =>
        intro reported
        rw [removeNodeUsers, removeUserData]
        refine Async.guarantees_bind (Async.guarantees_bind
          (hquery _ _ (by simp)) (fun _ => ?_)) (fun _ => ih _)
        refine Async.guarantees_bind (hquery _ _ (by simp)) (fun _ => ?_)
        exact Async.guarantees_bind (hquery _ _ (by simp)) (fun _ => trivial)
  have hreport : ∀ offlineUsers,
      (reportOffline nodeEndpoint offlineUsers).Guarantees
        (fun label _ _ => ∀ other, label = .members other →
          other = nodeEndpoint) := by
    intro offlineUsers
    induction offlineUsers with
    | nil => trivial
    | cons userData offlineUsers ih =>
        exact Async.guarantees_bind (hquery _ _ (by simp)) (fun _ => ih)
  rw [cleanDestroyedNodeData, clearNodeUsersSession]
  refine Async.guarantees_bind ?_ hreport
  split
  · trivial
  · refine Async.guarantees_bind (hquery _ _ ?_) (fun _ => ?_)
    · rintro other ⟨⟩
      rfl
    · exact Async.guarantees_bind (hremove _ _) (fun _ =>
        Async.guarantees_bind (hquery _ _ (by simp)) (fun _ => trivial))

end SessionService

namespace ClusterSync

open ClusterNodeService NodeStore

variable {config : NodesConfig} {allowed : Endpoint → Prop}

/-- What a step of a sync does while no other sync is taken into account: it
only begins to clear what is permitted. -/
def StepOf (config : NodesConfig) (allowed : Endpoint → Prop)
    (label : SyncLabel) (before after : NodeStore) : Prop :=
  KeepsRecords config label before after ∧ label.Permits allowed

theorem guarantees_cleanDestroyedNodeData {endpoint : Endpoint}
    (hallowed : allowed endpoint) :
    Async.Guarantees (fun label before after =>
      StepOf config allowed label before after ∧ label.readsActive = false)
      (cleanDestroyedNodeData config endpoint) := by
  refine Async.guarantees_bind (Async.guarantees_onPart
    (SessionService.guarantees_members config.deployment endpoint) ?_)
    (fun _ => trivial)
  intro label whole part hlabel
  refine ⟨⟨keepsRecords_of_same (by simp) rfl (Nat.le_refl _), ?_⟩, rfl⟩
  rintro nodeEndpoint ⟨⟩
  rw [hlabel nodeEndpoint rfl]
  exact hallowed

theorem guarantees_upsert (address : NodeAddress) :
    Async.Guarantees (fun label before after =>
      StepOf config allowed label before after ∧ label.readsActive = false)
      (upsert config (config.buildWsEndpoint address) address) := by
  intro s
  refine ⟨⟨⟨keepsRecords_hSet address, by simp [SyncLabel.Permits]⟩, rfl⟩,
    fun between => ?_⟩
  exact ⟨⟨⟨keepsRecords_expire, by simp [SyncLabel.Permits]⟩, rfl⟩, trivial⟩

/-! ### What is cleared after the records are read -/

/-- Whatever the others do from now on, the program only begins to clear what
is permitted, and `Q` holds of its result. -/
def Spares {A : Type} (config : NodesConfig) (allowed : Endpoint → Prop)
    (Q : A → Prop) (program : Async SyncLabel NodeStore A) : Prop :=
  ∀ now, program.Tracks (fun _ _ => Addressed config)
    (fun label _ _ => label.Permits allowed) (fun result _ => Q result) now

theorem spares_done {A : Type} {Q : A → Prop} {result : A}
    (hresult : Q result) :
    Spares config allowed Q (.done result) := fun _ => hresult

theorem spares_bind {A B : Type} {Q : A → Prop} {P : B → Prop}
    {program : Async SyncLabel NodeStore A}
    {rest : A → Async SyncLabel NodeStore B}
    (hprogram : Spares config allowed Q program)
    (hrest : ∀ result, Q result → Spares config allowed P (rest result)) :
    Spares config allowed P (program >>= rest) :=
  fun now => Async.tracks_bind (hprogram now)
    (fun result state hresult => hrest result hresult state)

/-- An error skips the rest. -/
theorem spares_bind_ok {A B : Type} {Q : A → Prop} {P : B → Prop}
    {program : SyncService A} {rest : A → SyncService B}
    (hprogram : Spares config allowed
      (fun outcome => ∀ result, outcome = .ok result → Q result) program)
    (hrest : ∀ result, Q result → Spares config allowed
      (fun outcome => ∀ result, outcome = .ok result → P result)
      (rest result)) :
    Spares config allowed
      (fun outcome => ∀ result, outcome = .ok result → P result)
      (program >>= rest : SyncService B) := by
  refine spares_bind hprogram
    (fun outcome houtcome => ?_)
  cases outcome with
  | ok result => exact hrest result (houtcome result rfl)
  | error error => exact spares_done (by simp)

theorem spares_query {A : Type} {Q : A → Prop} {label : SyncLabel}
    {query : NodeStore → A} (hlabel : ∀ nodeLabel, label ≠ .node nodeLabel)
    (hquery : ∀ s : NodeStore, s.Addressed config → Q (query s)) :
    Spares config allowed
      (fun outcome => ∀ result, outcome = .ok result → Q result)
      (syncQuery label query) := by
  intro now s haddressed
  refine ⟨fun nodeEndpoint hsame => absurd hsame (hlabel _), ?_⟩
  rintro result ⟨⟩
  exact hquery s haddressed

theorem spares_of_guarantees {A : Type}
    {program : Async SyncLabel NodeStore A}
    (hprogram : program.Guarantees (fun label _ _ => label.Permits allowed)) :
    Spares config allowed (fun _ => True) program :=
  fun _ => hprogram.tracks

/-- The address of each node was read, or one of them had been forgotten. -/
def ReadAll (config : NodesConfig) (nodeKeys : List Endpoint)
    (nodesInfo : List (Option NodeAddress)) : Prop :=
  ∀ nodeKey ∈ nodeKeys, none ∈ nodesInfo ∨ ∃ address,
    some address ∈ nodesInfo ∧ config.buildWsEndpoint address = nodeKey

theorem spares_readNodes (endpoint : Endpoint) (nodeKeys : List Endpoint) :
    Spares config allowed (fun outcome => ∀ nodesInfo,
      outcome = .ok nodesInfo → ReadAll config nodeKeys nodesInfo)
      (readNodes endpoint nodeKeys) := by
  induction nodeKeys with
  | nil => exact spares_done (fun _ _ _ hmem => absurd hmem List.not_mem_nil)
  | cons nodeKey nodeKeys ih =>
      rw [readNodes]
      refine spares_bind_ok (Q := fun nodeInfo => ∀ address,
        nodeInfo = some address → config.buildWsEndpoint address = nodeKey)
        (spares_query (by simp) ?_) (fun nodeInfo hinfo => ?_)
      · intro s haddressed address hget
        obtain ⟨data, hdata, rfl⟩ := Option.map_eq_some_iff.1 hget
        exact haddressed nodeKey data (get?_of_liveData hdata)
      · refine spares_bind_ok ih (fun nodesInfo hread => ?_)
        refine spares_done ?_
        rintro _ ⟨⟩ other hother
        rcases List.mem_cons.1 hother with rfl | hlater
        · cases nodeInfo with
          | none => exact Or.inl List.mem_cons_self
          | some address =>
              exact Or.inr ⟨address, List.mem_cons_self, hinfo address rfl⟩
        · exact (hread other hlater).imp (List.mem_cons_of_mem _)
            (fun hread => hread.imp (fun _ hfound =>
              ⟨List.mem_cons_of_mem _ hfound.1, hfound.2⟩))

/-- All nodes whose records were listed are active, unless the sync has
failed. -/
theorem spares_nodeEndpoints {nodeKeys : List Endpoint}
    {nodesInfo : List (Option NodeAddress)}
    (hread : ReadAll config nodeKeys nodesInfo) :
    Spares config allowed (fun outcome => ∀ activeNodes,
      outcome = .ok activeNodes → ∀ nodeKey ∈ nodeKeys,
        nodeKey ∈ activeNodes) (nodeEndpoints config nodesInfo) := by
  rw [nodeEndpoints]
  split
  · exact spares_done (by simp)
  · rename_i hnone
    refine spares_done ?_
    rintro _ ⟨⟩ nodeKey hnodeKey
    obtain ⟨address, hmem, rfl⟩ := (hread nodeKey hnodeKey).resolve_left hnone
    rw [InsertionSet.mem_ofList]
    exact List.mem_map_of_mem (List.mem_filterMap.2 ⟨some address, hmem, rfl⟩)

theorem guarantees_cleanDestroyedNodes {endpoints : List Endpoint}
    (hallowed : ∀ endpoint ∈ endpoints, allowed endpoint) :
    Async.Guarantees (StepOf config allowed)
      (cleanDestroyedNodes config endpoints) := by
  induction endpoints with
  | nil => trivial
  | cons endpoint endpoints ih =>
      obtain ⟨hfirst, hrest⟩ := List.forall_mem_cons.1 hallowed
      refine Async.guarantees_bind
        ((guarantees_cleanDestroyedNodeData hfirst).mono
          (fun _ _ _ hstep => hstep.1)) (fun outcome => ?_)
      cases outcome with
      | ok _ => exact ih hrest
      | error error => trivial

/-- The rest of `retrieveActive` once the records are listed. -/
def readListed (config : NodesConfig) (endpoint : Endpoint)
    (nodeKeys : List Endpoint) : SyncService (List Endpoint) := do
  let nodesInfo ← readNodes endpoint nodeKeys
  nodeEndpoints config nodesInfo

/-- The rest of a sync from there on. -/
def afterListing (config : NodesConfig) (node : SyncingNode)
    (nodeKeys : List Endpoint) : SyncService Unit := do
  let activeNodes ← readListed config (config.buildWsEndpoint node.address)
    nodeKeys
  let storedNodes ← retrieveStored (config.buildWsEndpoint node.address)
  cleanDestroyedNodes config (destroyedNodes node activeNodes storedNodes)

theorem connectToExistingClusterNodes_eq (node : SyncingNode) :
    connectToExistingClusterNodes config node =
      Async.step (.readingActive (config.buildWsEndpoint node.address))
        (fun s => s) (fun s => afterListing config node s.nodeKeys) := rfl

/-- Nothing is cleared whose record was listed. -/
theorem spares_afterListing (node : SyncingNode) {nodeKeys : List Endpoint}
    (hallowed : ∀ endpoint, endpoint ∉ nodeKeys → allowed endpoint) :
    Spares config allowed (fun _ => True)
      (afterListing config node nodeKeys) := by
  have hactive : Spares config allowed (fun outcome => ∀ activeNodes,
      outcome = .ok activeNodes → ∀ nodeKey ∈ nodeKeys,
        nodeKey ∈ activeNodes)
      (readListed config (config.buildWsEndpoint node.address) nodeKeys) :=
    spares_bind_ok (spares_readNodes _ nodeKeys)
      (fun nodesInfo hread => spares_nodeEndpoints hread)
  refine spares_bind hactive (fun outcome houtcome => ?_)
  cases outcome with
  | error error => exact spares_done trivial
  | ok activeNodes =>
      have hstored : Spares config allowed (fun _ => True)
          (retrieveStored (config.buildWsEndpoint node.address)) :=
        spares_of_guarantees (Async.guarantees_atomic
          (fun _ => by simp [SyncLabel.Permits]))
      refine spares_bind hstored (fun outcome _ => ?_)
      cases outcome with
      | error error => exact spares_done trivial
      | ok storedNodes =>
          have hclean : ∀ endpoint ∈ destroyedNodes node activeNodes
              storedNodes, allowed endpoint := ?_
          · exact spares_of_guarantees ((guarantees_cleanDestroyedNodes
              hclean).mono (fun _ _ _ hstep => hstep.2))
          intro endpoint hendpoint
          refine hallowed endpoint (fun hlisted => ?_)
          exact (mem_destroyedNodes.1 hendpoint).2
            (houtcome activeNodes rfl endpoint hlisted)

end ClusterSync

end SamaServer
