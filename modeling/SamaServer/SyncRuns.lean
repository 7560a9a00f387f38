/-
The syncs of all nodes side by side, with the requests of users and the time
that passes.  A sync begins to clear a node only if it listed the records when
that of the node was gone, and then the last renewal of the record that took
effect had run out; else it is the node itself that has just come up.
-/
import SamaServer.NodeLiveness
import SamaServer.TableRuns

namespace SamaServer

def NodeStore.empty : NodeStore := ⟨0, .empty, .empty⟩

/-- The programs of the nodes, and a wait. -/
inductive SyncTask
  | sync (node : SyncingNode)
  | coldStart (node : SyncingNode)
  | serve (task : TableTask)
  | wait (milliseconds : Nat)

namespace SyncTask

variable (config : NodesConfig)

def program : SyncTask → Async SyncLabel NodeStore Unit
  | .sync node => ClusterSync.syncCluster config node >>= fun _ => .done ()
  | .coldStart node =>
      ClusterSync.coldStart config node >>= fun _ => .done ()
  | .serve task => ((task.program config.deployment).onPart
      NodeStore.cluster NodeStore.setCluster).mapLabel .session
  | .wait milliseconds =>
      .step (.elapsing milliseconds) (fun s => s.elapse milliseconds)
        (fun _ => .done ())

/-- A node that comes up clears what it has left behind. -/
def Owns (task : SyncTask) (endpoint : Endpoint) : Prop :=
  ∃ node, task = .coldStart node ∧
    config.buildWsEndpoint node.address = endpoint

end SyncTask

inductive SyncMove
  | start (task : SyncTask)
  | tick (index : Nat)

def SyncMove.event (config : NodesConfig) :
    SyncMove → Event SyncTask SyncLabel NodeStore
  | .start task => .spawn ⟨task, task.program config⟩
  | .tick index => .tick index

abbrev SyncSystem := System SyncTask SyncLabel NodeStore

/-- The system after the moves, from empty stores. -/
def runSyncs (config : NodesConfig) (moves : List SyncMove) : SyncSystem :=
  System.run (System.start .empty) (moves.map (SyncMove.event config))

theorem runSyncs_concat (config : NodesConfig) (moves : List SyncMove)
    (move : SyncMove) :
    runSyncs config (moves ++ [move]) =
      (runSyncs config moves).exec (move.event config) := by
  simp only [runSyncs, System.run, List.map_append, List.map_singleton,
    List.foldl_append, List.foldl_cons, List.foldl_nil]

namespace ClusterSync

open ClusterNodeService NodeStore

variable {config : NodesConfig} {own : Endpoint → Prop} {A B : Type}

/-- Until the program lists the records it begins to clear only its own node,
and afterwards only nodes without a record at that time. -/
def Cautious (config : NodesConfig) (own : Endpoint → Prop) :
    Async SyncLabel NodeStore A → Prop
  | .done _ => True
  | .step label _ next => label.Permits own ∧ ∀ s,
      if label.readsActive then
        Spares config (fun endpoint => own endpoint ∨ ¬ s.IsLive endpoint)
          (fun _ => True) (next s)
      else Cautious config own (next s)

theorem cautious_bind {program : Async SyncLabel NodeStore A}
    {rest : A → Async SyncLabel NodeStore B}
    (hprogram : program.Guarantees (fun label _ _ =>
      label.Permits own ∧ label.readsActive = false))
    (hrest : ∀ result, Cautious config own (rest result)) :
    Cautious config own (program >>= rest) := by
  induction program with
  | done result => exact hrest result
  | step label effect next ih =>
      refine ⟨(hprogram .empty).1.1, fun s => ?_⟩
      rw [if_neg (by simp [(hprogram s).1.2])]
      exact ih s (hprogram s).2

theorem cautious_of_guarantees {program : Async SyncLabel NodeStore A}
    (hprogram : program.Guarantees (fun label _ _ =>
      label.Permits own ∧ label.readsActive = false)) :
    Cautious config own program := by
  induction program with
  | done result => trivial
  | step label effect next ih =>
      refine ⟨(hprogram .empty).1.1, fun s => ?_⟩
      rw [if_neg (by simp [(hprogram s).1.2])]
      exact ih s (hprogram s).2

theorem Cautious.discard {program : Async SyncLabel NodeStore A}
    (hprogram : Cautious config own program) :
    Cautious config own (program >>= fun _ => .done ()) := by
  induction program with
  | done result => trivial
  | step label effect next ih =>
      refine ⟨hprogram.1, fun s => ?_⟩
      have hnext := hprogram.2 s
      by_cases hreads : label.readsActive = true
      · rw [if_pos hreads] at hnext ⊢
        exact spares_bind hnext (fun _ _ => spares_done trivial)
      · rw [if_neg hreads] at hnext ⊢
        exact ih s hnext

theorem permits_of_stepOf {program : Async SyncLabel NodeStore A}
    (hprogram : program.Guarantees (fun label before after =>
      StepOf config own label before after ∧ label.readsActive = false)) :
    program.Guarantees (fun label _ _ =>
      label.Permits own ∧ label.readsActive = false) :=
  hprogram.mono (fun _ _ _ hstep => ⟨hstep.1.2, hstep.2⟩)

theorem cautious_syncCluster (node : SyncingNode) :
    Cautious config own (syncCluster config node) := by
  refine cautious_bind (permits_of_stepOf (guarantees_upsert node.address))
    (fun outcome => ?_)
  cases outcome with
  | error error => trivial
  | ok _ =>
      change Cautious config own (connectToExistingClusterNodes config node)
      rw [connectToExistingClusterNodes_eq]
      refine ⟨by simp [SyncLabel.Permits], fun s => ?_⟩
      change Spares config (fun endpoint => own endpoint ∨ ¬ s.IsLive endpoint)
        (fun _ => True) (afterListing config node s.nodeKeys)
      refine spares_afterListing node (fun endpoint hgone => Or.inr ?_)
      rwa [← mem_nodeKeys]

theorem cautious_coldStart {node : SyncingNode}
    (hown : own (config.buildWsEndpoint node.address)) :
    Cautious config own (coldStart config node) := by
  refine cautious_bind (permits_of_stepOf
    (guarantees_cleanDestroyedNodeData hown)) (fun outcome => ?_)
  cases outcome with
  | error error => trivial
  | ok _ => exact cautious_syncCluster node

/-- What every step of a sync does to the records. -/
def Renews (config : NodesConfig) (program : Async SyncLabel NodeStore A) :
    Prop :=
  program.Guarantees (KeepsRecords config)

theorem renews_upsert (address : NodeAddress) :
    Renews config (upsert config (config.buildWsEndpoint address) address) := by
  have hsteps : Async.Guarantees (fun label before after =>
      StepOf config (fun _ => True) label before after ∧
        label.readsActive = false)
      (upsert config (config.buildWsEndpoint address) address) :=
    guarantees_upsert address
  exact hsteps.mono (fun _ _ _ hstep => hstep.1.1)

theorem renews_cleanDestroyedNodeData (endpoint : Endpoint) :
    Renews config (cleanDestroyedNodeData config endpoint) := by
  have hsteps : Async.Guarantees (fun label before after =>
      StepOf config (fun _ => True) label before after ∧
        label.readsActive = false) (cleanDestroyedNodeData config endpoint) :=
    guarantees_cleanDestroyedNodeData trivial
  exact hsteps.mono (fun _ _ _ hstep => hstep.1.1)

theorem renews_cleanDestroyedNodes (endpoints : List Endpoint) :
    Renews config (cleanDestroyedNodes config endpoints) := by
  have hsteps : Async.Guarantees (StepOf config (fun _ => True))
      (cleanDestroyedNodes config endpoints) :=
    guarantees_cleanDestroyedNodes (fun _ _ => trivial)
  exact hsteps.mono (fun _ _ _ hstep => hstep.1)

/-- An error skips the rest. -/
theorem renews_bind_ok {program : SyncService A} {rest : A → SyncService B}
    (hprogram : Renews config program)
    (hrest : ∀ result, Renews config (rest result)) :
    Renews config (program >>= rest : SyncService B) := by
  refine Async.guarantees_bind hprogram (fun outcome => ?_)
  cases outcome with
  | ok result => exact hrest result
  | error error => trivial

theorem renews_query {label : SyncLabel} {query : NodeStore → A}
    (hrenewing : ∀ endpoint, label ≠ .renewing endpoint) :
    Renews config (syncQuery label query) :=
  Async.guarantees_atomic (fun _ => keepsRecords_of_same hrenewing rfl
    (Nat.le_refl _))

theorem renews_readNodes (endpoint : Endpoint) (nodeKeys : List Endpoint) :
    Renews config (readNodes endpoint nodeKeys) := by
  induction nodeKeys with
  | nil => trivial
  | cons nodeKey nodeKeys ih =>
      exact renews_bind_ok (renews_query (by simp)) (fun _ =>
        renews_bind_ok ih (fun _ => trivial))

theorem renews_syncCluster (node : SyncingNode) :
    Renews config (syncCluster config node) := by
  refine renews_bind_ok (renews_upsert node.address) (fun _ => ?_)
  refine renews_bind_ok (renews_bind_ok (renews_query (by simp))
    (fun nodeKeys => renews_bind_ok (renews_readNodes _ nodeKeys)
      (fun nodesInfo => ?_))) (fun activeNodes => ?_)
  · rw [nodeEndpoints]
    split <;> trivial
  · exact renews_bind_ok (renews_query (by simp))
      (fun storedNodes => renews_cleanDestroyedNodes _)

theorem renews_coldStart (node : SyncingNode) :
    Renews config (coldStart config node) :=
  renews_bind_ok (renews_cleanDestroyedNodeData _)
    (fun _ => renews_syncCluster node)

end ClusterSync

namespace SyncTask

open ClusterSync NodeStore

variable {config : NodesConfig}

theorem renews_program (task : SyncTask) :
    Renews config (task.program config) := by
  cases task with
  | sync node =>
      exact Async.guarantees_bind (renews_syncCluster node)
        (fun _ => trivial)
  | coldStart node =>
      exact Async.guarantees_bind (renews_coldStart node) (fun _ => trivial)
  | serve task =>
      refine Async.guarantees_onPart (SessionService.tableStep_program
        config.deployment task) (fun label whole part _ => ?_)
      exact keepsRecords_of_same (by simp) rfl (Nat.le_refl _)
  | wait milliseconds =>
      exact fun s => ⟨keepsRecords_of_same (by simp) rfl
        (Nat.le_add_right _ _), trivial⟩

theorem cautious_program (task : SyncTask) :
    Cautious config (task.Owns config) (task.program config) := by
  cases task with
  | sync node => exact (cautious_syncCluster node).discard
  | coldStart node =>
      exact (cautious_coldStart ⟨node, rfl, rfl⟩).discard
  | serve task =>
      refine cautious_of_guarantees (Async.guarantees_onPart
        (SessionService.tableStep_program config.deployment task)
        (fun label whole part _ => ⟨?_, rfl⟩))
      simp [SyncLabel.Permits]
  | wait milliseconds =>
      exact ⟨by simp [SyncLabel.Permits], fun _ => trivial⟩

end SyncTask

/-! ### Runs -/

section Runs

open ClusterSync NodeStore

variable {config : NodesConfig} {moves : List SyncMove} {index : Nat}
  {task : Task SyncTask SyncLabel NodeStore}

/-- The program took the step in which it lists the records, and its rest
clears nothing else than what it owns or had no record then. -/
def HasListed (config : NodesConfig) (moves : List SyncMove) (index : Nat)
    (task : Task SyncTask SyncLabel NodeStore) : Prop :=
  ∃ before after reader now, moves = before ++ .tick index :: after ∧
    (runSyncs config before).nextLabel? index =
      some (.readingActive reader) ∧
    task.body.Tracks (fun _ _ => Addressed config)
      (fun label _ _ => label.Permits (fun endpoint =>
        task.tag.Owns config endpoint ∨
          ¬ (runSyncs config before).state.IsLive endpoint))
      (fun _ _ => True) now

structure Accounted (config : NodesConfig) (moves : List SyncMove)
    (index : Nat) (task : Task SyncTask SyncLabel NodeStore) : Prop where
  renews : Renews config task.body
  clears : Cautious config (task.tag.Owns config) task.body ∨
    HasListed config moves index task

structure SyncInvariant (config : NodesConfig) (moves : List SyncMove) :
    Prop where
  addressed : (runSyncs config moves).state.Addressed config
  tasks : ∀ index task, (runSyncs config moves).tasks[index]? = some task →
    Accounted config moves index task

theorem HasListed.later (hlisted : HasListed config moves index task)
    (move : SyncMove) : HasListed config (moves ++ [move]) index task := by
  obtain ⟨before, after, reader, now, rfl, hlabel, htracks⟩ := hlisted
  exact ⟨before, after ++ [move], reader, now, by simp, hlabel, htracks⟩

theorem Accounted.later (haccounted : Accounted config moves index task)
    (move : SyncMove) : Accounted config (moves ++ [move]) index task :=
  ⟨haccounted.renews, haccounted.clears.imp_right (fun hlisted =>
    hlisted.later move)⟩

theorem accounted_start (moves : List SyncMove) (index : Nat)
    (started : SyncTask) :
    Accounted config moves index ⟨started, started.program config⟩ :=
  ⟨started.renews_program, Or.inl started.cautious_program⟩

/-- A program that takes a step stays accounted for. -/
theorem Accounted.tick {tag : SyncTask} {label : SyncLabel}
    {effect : NodeStore → NodeStore}
    {next : NodeStore → Async SyncLabel NodeStore Unit}
    (haccounted : Accounted config moves index
      ⟨tag, .step label effect next⟩)
    (haddressed : (runSyncs config moves).state.Addressed config)
    (hlabel : (runSyncs config moves).nextLabel? index = some label) :
    Accounted config (moves ++ [.tick index]) index
      ⟨tag, next (runSyncs config moves).state⟩ := by
  refine ⟨(haccounted.renews (runSyncs config moves).state).2, ?_⟩
  rcases haccounted.clears with hcautious | hlisted
  · have hnext := hcautious.2 (runSyncs config moves).state
    split at hnext
    · rename_i hreads
      obtain ⟨reader, rfl⟩ : ∃ reader, label = .readingActive reader := by
        cases label with
        | readingActive reader => exact ⟨reader, rfl⟩
        | _ => cases hreads
      exact Or.inr ⟨moves, [], reader, .empty, rfl, hlabel, hnext _⟩
    · exact Or.inl hnext
  · obtain ⟨before, after, reader, now, rfl, hread, htracks⟩ := hlisted
    exact Or.inr ⟨before, after ++ [.tick index], reader, _, by simp, hread,
      (htracks _ haddressed).2⟩

theorem SyncInvariant.keepsRecords (hinvariant : SyncInvariant config moves)
    {label : SyncLabel}
    (hlabel : (runSyncs config moves).nextLabel? index = some label) :
    KeepsRecords config label (runSyncs config moves).state
      (runSyncs config (moves ++ [.tick index])).state := by
  obtain ⟨tag, effect, next, htask, htick⟩ := System.tick_of_nextLabel? hlabel
  have hstep := (hinvariant.tasks index _ htask).renews
    (runSyncs config moves).state
  rw [runSyncs_concat]
  change KeepsRecords config label _ ((runSyncs config moves).tick index).state
  rw [htick]
  exact hstep.1

theorem SyncInvariant.concat (hinvariant : SyncInvariant config moves)
    (move : SyncMove) : SyncInvariant config (moves ++ [move]) := by
  cases move with
  | start started =>
      refine ⟨?_, fun index task htask => ?_⟩
      · rw [runSyncs_concat]
        exact hinvariant.addressed
      · rw [runSyncs_concat] at htask
        rcases System.getElem?_spawn_cases htask with hold | ⟨-, rfl⟩
        · exact (hinvariant.tasks index task hold).later _
        · exact accounted_start _ index started
  | tick index =>
      cases hlabel : (runSyncs config moves).nextLabel? index with
      | none =>
          have hsame : runSyncs config (moves ++ [.tick index]) =
              runSyncs config moves := by
            rw [runSyncs_concat]
            exact System.tick_of_nextLabel?_none hlabel
          refine ⟨hsame ▸ hinvariant.addressed, fun other task htask => ?_⟩
          rw [hsame] at htask
          exact (hinvariant.tasks other task htask).later _
      | some label =>
          refine ⟨(hinvariant.keepsRecords hlabel).addressed
            hinvariant.addressed, fun other task htask => ?_⟩
          obtain ⟨tag, effect, next, hfound, -⟩ :=
            System.tick_of_nextLabel? hlabel
          rw [runSyncs_concat] at htask
          rcases System.getElem?_tick_cases hfound htask with
            ⟨rfl, rfl⟩ | ⟨-, hold⟩
          · exact (hinvariant.tasks other _ hfound).tick
              hinvariant.addressed hlabel
          · exact (hinvariant.tasks other task hold).later _

theorem syncInvariant_run (config : NodesConfig) (moves : List SyncMove) :
    SyncInvariant config moves := by
  induction moves using List.reverseRecOn with
  | nil =>
      refine ⟨fun node data hdata => ?_, fun index task htask => ?_⟩
      · cases hdata
      · cases htask
  | append_singleton moves move ih => exact ih.concat move

/-- What holds a record goes on holding it. -/
theorem held_run (moves later : List SyncMove) {endpoint : Endpoint}
    {deadline : Nat}
    (hheld : (runSyncs config moves).state.Held config endpoint deadline) :
    (runSyncs config (moves ++ later)).state.Held config endpoint
      deadline := by
  induction later using List.reverseRecOn with
  | nil => rwa [List.append_nil]
  | append_singleton later move ih =>
      rw [← List.append_assoc]
      cases move with
      | start started =>
          rw [runSyncs_concat]
          exact ih
      | tick index =>
          cases hlabel : (runSyncs config (moves ++ later)).nextLabel? index
            with
          | none =>
              rw [runSyncs_concat, SyncMove.event, System.exec,
                System.tick_of_nextLabel?_none hlabel]
              exact ih
          | some label =>
              exact ((syncInvariant_run config
                (moves ++ later)).keepsRecords hlabel).held _ _ ih

/-- After any run, a sync that nothing interrupts leaves the users of the nodes
with a record and of its own node, and takes all others away. -/
theorem run_synced (config : NodesConfig)
    (hcluster : config.deployment.isStandAloneNode = false)
    (moves : List SyncMove) (node : SyncingNode) :
    ∃ after, (syncCluster config node).exec (runSyncs config moves).state =
        (.ok (), after) ∧
      after.IsLive (config.buildWsEndpoint node.address) ∧
      ∀ other, after.cluster.redis.nodeUsers.members other =
        if (runSyncs config moves).state.IsLive other ∨
            other = config.buildWsEndpoint node.address then
          (runSyncs config moves).state.cluster.redis.nodeUsers.members other
        else [] :=
  exec_syncCluster hcluster (syncInvariant_run config moves).addressed node

open Sample

def twoNodes : NodesConfig where
  nodeExpiresIn := 1000
  buildWsEndpoint := fun address =>
    if address.ipAddress = "a" then nodeA else nodeB
  deployment := ⟨false, fun _ => organization⟩

def firstNode : SyncingNode := ⟨⟨"a", "1"⟩, [], []⟩

def secondNode : SyncingNode := ⟨⟨"b", "1"⟩, [], [nodeA]⟩

/-- A user connects to the first node, which stops after it has renewed its
record once; a millisecond ago that has run out. -/
def stoppedNode : List SyncMove :=
  [.start (.sync firstNode), .tick 0, .tick 0,
    .start (.serve (.serve (.request ⟨nodeA, 1,
      .connect .trusting "alice" phone⟩))),
    .tick 1, .tick 1, .tick 1, .tick 1, .tick 1, .tick 1, .tick 1, .tick 1,
    .start (.wait 6001), .tick 2]

theorem run_synced_stoppedNode :
    ∃ after, (syncCluster twoNodes secondNode).exec
        (runSyncs twoNodes stoppedNode).state = (.ok (), after) ∧
      (runSyncs twoNodes stoppedNode).state.cluster.redis.nodeUsers.members
        nodeA = [(organization, alice, phone)] ∧
      after.cluster.redis.nodeUsers.members nodeA = [] := by
  obtain ⟨after, hexec, -, hmembers⟩ :=
    run_synced twoNodes rfl stoppedNode secondNode
  refine ⟨after, hexec, by decide, ?_⟩
  rw [hmembers, if_neg (by decide)]

/-- A program that is about to clear a node is the node itself that comes up,
or it listed the records when that of the node was gone; then every renewal
that had taken effect had run out. -/
theorem run_cleaned (config : NodesConfig) (moves : List SyncMove)
    {index : Nat} {task : Task SyncTask SyncLabel NodeStore}
    {cleaned : Endpoint}
    (htask : (runSyncs config moves).tasks[index]? = some task)
    (hlabel : (runSyncs config moves).nextLabel? index =
      some (.node (.members cleaned))) :
    task.tag.Owns config cleaned ∨
      ∃ before after reader, moves = before ++ .tick index :: after ∧
        (runSyncs config before).nextLabel? index =
          some (.readingActive reader) ∧
        ¬ (runSyncs config before).state.IsLive cleaned ∧
        ∀ earlier renewer later, before = earlier ++ .tick renewer :: later →
          (runSyncs config earlier).nextLabel? renewer =
            some (.renewing cleaned) →
          (runSyncs config earlier).state.IsLive cleaned →
          (runSyncs config earlier).state.now +
              1000 * config.expireSeconds <
            (runSyncs config before).state.now := by
  have hinvariant := syncInvariant_run config moves
  obtain ⟨tag, effect, next, hfound, -⟩ := System.tick_of_nextLabel? hlabel
  obtain rfl : task = ⟨tag, .step _ effect next⟩ :=
    Option.some.inj (htask.symm.trans hfound)
  rcases (hinvariant.tasks index _ htask).clears with hcautious |
    ⟨before, after, reader, now, hmoves, hread, htracks⟩
  · exact Or.inl (hcautious.1 cleaned rfl)
  · refine ((htracks _ hinvariant.addressed).1 cleaned rfl).imp_right
      (fun hgone => ⟨before, after, reader, hmoves, hread, hgone, ?_⟩)
    rintro earlier renewer later rfl hrenewing hlive
    have hheld := ((syncInvariant_run config earlier).keepsRecords
      hrenewing).renewed cleaned rfl hlive
    have hlater := held_run (earlier ++ [.tick renewer]) later hheld
    rw [List.append_assoc] at hlater
    exact hlater.deadline_lt hgone

/-- The second node lists the records after that. -/
def secondSync : List SyncMove :=
  stoppedNode ++ [.start (.sync secondNode), .tick 3, .tick 3, .tick 3,
    .tick 3, .tick 3]

theorem run_cleaned_secondSync :
    ∃ before after reader, secondSync = before ++ .tick 3 :: after ∧
      (runSyncs twoNodes before).nextLabel? 3 =
        some (.readingActive reader) := by
  have hlabel : (runSyncs twoNodes secondSync).nextLabel? 3 =
      some (.node (.members nodeA)) := by decide
  have htag : (runSyncs twoNodes secondSync).tasks[3]?.map Task.tag =
      some (.sync secondNode) := rfl
  obtain ⟨task, htask, hsame⟩ := Option.map_eq_some_iff.1 htag
  rcases run_cleaned twoNodes secondSync htask hlabel with hown |
    ⟨before, after, reader, hmoves, hread, -⟩
  · obtain ⟨node, hcold, -⟩ := hown
    rw [hsame] at hcold
    cases hcold
  · exact ⟨before, after, reader, hmoves, hread⟩

end Runs

end SamaServer
