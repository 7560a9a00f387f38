/-
Progress of the reconnect managers.  The promise of a new connection is
settled by the handshake answer and by an error, and by nothing else, so a
try hangs for ever exactly when its websocket closes before either of them.
-/
import SamaServer.ReconnectLinks
import SamaServer.Runs

namespace SamaServer

namespace ClusterManager

variable {s : ClusterManager} {stuck : Nat → Prop}

/-- A peer with an unfinished manager has a pending timer or a websocket of
the current try that has not closed. -/
def Progress (s : ClusterManager) : Prop :=
  ∀ nodeEndpoint manager r,
    s.reconnectingNodesConnections.get? nodeEndpoint = some manager →
    s.managers[manager]? = some r → r.isFinished = false →
    r.retry = .waiting ∨
      ∃ socket ws, r.retry = .trying socket ∧
        s.sockets[socket]? = some ws ∧ ws.phase ≠ .closed

/-- Whether a websocket is the current try of an unfinished manager of the
map and has neither an answer nor an error yet. -/
def isAwaited (s : ClusterManager) (socket : Nat) : Bool :=
  match s.sockets[socket]? with
  | none => false
  | some ws =>
      match ws.caller with
      | .reconnecting manager =>
          !ws.isSettled && s.isReconnecting ws.nodeEndpoint &&
            s.reconnectingNodesConnections.get? ws.nodeEndpoint ==
              some manager
      | _ => false

/-- The event is not the close of an awaited websocket. -/
def ClosesSettled (s : ClusterManager) : ClusterEvent → Prop
  | .closed socket _ _ => s.isAwaited socket = false
  | _ => True

/-- The managers that wait for a websocket, as `isAwaited` sees them. -/
theorem isAwaited_of_trying (hlinked : Linked none stuck s)
    {nodeEndpoint : NodeEndpoint} {manager socket : Nat}
    {r : ReconnectManager}
    (hname : s.reconnectingNodesConnections.get? nodeEndpoint = some manager)
    (hr : s.managers[manager]? = some r) (hactive : r.isFinished = false)
    (htrying : r.retry = .trying socket) : s.isAwaited socket = true := by
  obtain ⟨ws, hws, howner, hunsettled⟩ := hlinked.attempt manager r socket hr
    htrying
  have hopen : ws.isSettled = false := by simpa using hunsettled
  obtain ⟨r', hr', _, hown⟩ := hlinked.caller socket ws manager hws howner
    hopen
  obtain ⟨r'', hr'', hendpoint, _⟩ := hlinked.named nodeEndpoint manager hname
  rw [hr, Option.some_inj] at hr' hr''
  have hsame : ws.nodeEndpoint = nodeEndpoint := by
    rw [← hown, ← hr', hr'', hendpoint]
  simp [isAwaited, hws, howner, hopen, isReconnecting, hsame, hname, hr,
    hactive]

/-- What one event keeps. -/
theorem linked_step (config : ClusterConfig) (hlinked : Linked none stuck s)
    (event : ClusterEvent)
    (hstuck : ∀ socket code reason, event = .closed socket code reason →
      s.isAwaited socket = true → ∀ manager, stuck manager) :
    Linked none stuck (s.step config event) := by
  cases event with
  | opened socket =>
      refine hlinked.updateSocket socket ?_ ?_ ?_ ?_
      all_goals
        intro ws
        split <;> simp_all
  | answered socket =>
      rw [step, onAnswered]
      split
      · exact hlinked
      · next ws hws =>
          split
          · next hanswer =>
              exact (hlinked.settle socket (by simp) (by simp)
                (by simp)).finishConnection socket
                (hlinked.callOver hws hanswer.2 (by simp) (by simp))
          · exact hlinked
  | failed socket =>
      rw [step, onFailed]
      split
      · exact hlinked
      · next ws hws =>
          split
          · exact hlinked
          · split
            · exact hlinked.updateSocket socket (by simp) (by simp) (by simp)
                (by simp)
            · next hopen =>
                have hfalse : ws.isSettled = false := by simpa using hopen
                exact (hlinked.settle socket (by simp) (by simp)
                  (by simp)).callFailed
                  (hlinked.callOver hws hfalse (by simp) (by simp))
  | closed socket code reason =>
      rw [step, onClosed]
      split
      · exact hlinked
      · next ws hws =>
          split
          · exact hlinked
          · have hclosed := hlinked.close socket (fun nodeEndpoint manager r
              hname hr hactive htrying =>
                hstuck socket code reason rfl
                  (isAwaited_of_trying hlinked hname hr hactive htrying)
                  manager)
            split
            · exact hclosed.onCloseNode ws.nodeEndpoint code reason
            · exact hclosed
  | timer manager => exact hlinked.onTimer config manager
  | syncVisit nodeEndpoint =>
      rw [step, syncVisit]
      split
      · exact hlinked
      · split
        · exact hlinked
        · exact hlinked.createOrRetrieve config nodeEndpoint true (by simp)
  | deliver nodeEndpoint =>
      exact hlinked.createOrRetrieve config nodeEndpoint true (by simp)
  | handshake nodeEndpoint =>
      exact hlinked.createOrRetrieve config nodeEndpoint true (by simp)
  | localClosed nodeEndpoint code reason =>
      exact hlinked.onCloseNode nodeEndpoint code reason
  | destroyed nodeEndpoint =>
      exact (hlinked.deleteClusterConnection nodeEndpoint
        ).cancelNodeReconnecting nodeEndpoint false

/-- Links hold along every run, with any manager stuck. -/
theorem linked_run (config : ClusterConfig) (events : List ClusterEvent) :
    Linked none (fun _ => True) (run config events) := by
  induction events using List.reverseRecOn with
  | nil => exact linked_empty
  | append_singleton events last ih =>
      rw [run, List.foldl_append]
      exact linked_step config ih last (fun _ _ _ _ _ _ => trivial)

theorem progress_of_linked (hlinked : Linked none (fun _ => False) s) :
    Progress s := by
  intro nodeEndpoint manager r hname hr hactive
  obtain ⟨r', hr', _, hended⟩ := hlinked.named nodeEndpoint manager hname
  rw [hr, Option.some_inj] at hr'
  subst hr'
  cases hretry : r.retry with
  | waiting => exact Or.inl rfl
  | ended => exact absurd hretry (hended hactive)
  | trying socket =>
      obtain ⟨ws, hws, _, _⟩ := hlinked.attempt manager r socket hr hretry
      exact Or.inr ⟨socket, ws, rfl, hws, hlinked.progress nodeEndpoint
        manager r socket ws hname id hr hactive hretry hws⟩

theorem linked_of_progress (hlinked : Linked none stuck s)
    (hprogress : Progress s) : Linked none (fun _ => False) s where
  named := hlinked.named
  attempt := hlinked.attempt
  caller := hlinked.caller
  progress := by
    intro nodeEndpoint manager r socket ws hname _ hr hactive hretry hws
    rcases hprogress nodeEndpoint manager r hname hr hactive with
      hwaiting | ⟨other, ws', htrying, hws', hphase⟩
    · rw [hwaiting] at hretry
      cases hretry
    · rw [htrying, RetryPhase.trying.injEq] at hretry
      subst hretry
      rw [hws, Option.some_inj] at hws'
      exact hws' ▸ hphase

/-- What an awaited websocket is. -/
theorem of_isAwaited {socket : Nat} (hawaited : s.isAwaited socket = true) :
    ∃ ws manager r, s.sockets[socket]? = some ws ∧
      ws.caller = .reconnecting manager ∧ ws.isSettled = false ∧
      s.reconnectingNodesConnections.get? ws.nodeEndpoint = some manager ∧
      s.managers[manager]? = some r ∧ r.isFinished = false := by
  rw [isAwaited] at hawaited
  split at hawaited
  · cases hawaited
  · next ws hws =>
      split at hawaited
      · next manager howner =>
          simp only [Bool.and_eq_true, Bool.not_eq_true', beq_iff_eq]
            at hawaited
          obtain ⟨⟨hopen, hactive⟩, hname⟩ := hawaited
          rw [isReconnecting, hname, Option.bind_some] at hactive
          cases hr : s.managers[manager]? with
          | none =>
              rw [hr] at hactive
              cases hactive
          | some r =>
              rw [hr] at hactive
              exact ⟨ws, manager, r, hws, howner, hopen, hname, hr, by
                simpa using hactive⟩
      · cases hawaited

theorem deleteClusterConnection_managers (s : ClusterManager)
    (nodeEndpoint : NodeEndpoint) :
    (s.deleteClusterConnection nodeEndpoint).reconnectingNodesConnections =
        s.reconnectingNodesConnections ∧
      (s.deleteClusterConnection nodeEndpoint).managers = s.managers := by
  rw [deleteClusterConnection]
  split <;> exact ⟨rfl, rfl⟩

/-- The close of a websocket starts no manager for an endpoint that has
one. -/
theorem onCloseNode_of_named {nodeEndpoint : NodeEndpoint} {manager : Nat}
    (hname : s.reconnectingNodesConnections.get? nodeEndpoint = some manager)
    (code : Nat) (reason : String) :
    s.onCloseNode nodeEndpoint code reason = s ∨
      s.onCloseNode nodeEndpoint code reason =
        s.deleteClusterConnection nodeEndpoint := by
  rw [onCloseNode]
  split
  · exact Or.inl rfl
  · right
    rw [startNodeReconnecting, if_pos]
    rw [(deleteClusterConnection_managers s nodeEndpoint).1, hname]
    simp

/-- A websocket that is closed stays closed when a connection is dropped. -/
theorem deleteClusterConnection_closed {socket : Nat} {ws : NodeSocket}
    (hws : s.sockets[socket]? = some ws) (hclosed : ws.phase = .closed)
    (nodeEndpoint : NodeEndpoint) :
    (s.deleteClusterConnection nodeEndpoint).sockets[socket]? = some ws := by
  rw [deleteClusterConnection]
  split
  · rw [getElem?_updateSocket]
    change (s.sockets[socket]?).map _ = _
    rw [hws, Option.map_some, Option.some_inj]
    split
    · rw [NodeSocket.close, if_pos hclosed]
    · rfl
  · exact hws

/-- An unfinished manager that waits for a closed websocket. -/
theorem not_progress_of_waiting {nodeEndpoint : NodeEndpoint}
    {manager socket : Nat} {r : ReconnectManager} {ws : NodeSocket}
    (hname : s.reconnectingNodesConnections.get? nodeEndpoint = some manager)
    (hr : s.managers[manager]? = some r) (hactive : r.isFinished = false)
    (htrying : r.retry = .trying socket) (hws : s.sockets[socket]? = some ws)
    (hclosed : ws.phase = .closed) : ¬ Progress s := by
  intro hprogress
  rcases hprogress nodeEndpoint manager r hname hr hactive with
    hwaiting | ⟨other, ws', hother, hws', hlive⟩
  · rw [hwaiting] at htrying
    cases htrying
  · rw [htrying, RetryPhase.trying.injEq] at hother
    subst hother
    rw [hws, Option.some_inj] at hws'
    exact hlive (hws' ▸ hclosed)

/-- The close of an awaited websocket leaves its manager without progress. -/
theorem not_progress_of_closed (config : ClusterConfig)
    (hlinked : Linked none stuck s) {socket : Nat}
    (hawaited : s.isAwaited socket = true) (code : Nat) (reason : String) :
    ¬ Progress (s.step config (.closed socket code reason)) := by
  obtain ⟨ws, manager, r, hws, howner, hopen, hname, hr, hactive⟩ :=
    of_isAwaited hawaited
  obtain ⟨r', hr', htrying, _⟩ := hlinked.caller socket ws manager hws howner
    hopen
  rw [hr, Option.some_inj] at hr'
  subst hr'
  simp only [step, onClosed, hws]
  split
  · next hclosed =>
      exact not_progress_of_waiting hname hr hactive htrying hws hclosed
  · generalize hafter : s.updateSocket socket (fun ws =>
      { ws with phase := .closed }) = closed
    have hnames : closed.reconnectingNodesConnections.get? ws.nodeEndpoint =
        some manager := by
      rw [← hafter]
      exact hname
    have hmanagers : closed.managers[manager]? = some r := by
      rw [← hafter]
      exact hr
    have hsocket : closed.sockets[socket]? =
        some { ws with phase := .closed } := by
      rw [← hafter, getElem?_updateSocket, hws]
      simp
    split
    · rcases onCloseNode_of_named hnames code reason with hsame | hdropped
      · rw [hsame]
        exact not_progress_of_waiting hnames hmanagers hactive htrying hsocket
          rfl
      · rw [hdropped]
        have hkept := deleteClusterConnection_managers closed ws.nodeEndpoint
        exact not_progress_of_waiting (hkept.1 ▸ hnames)
          (hkept.2 ▸ hmanagers) hactive htrying
          (deleteClusterConnection_closed hsocket rfl ws.nodeEndpoint) rfl
    · exact not_progress_of_waiting hnames hmanagers hactive htrying hsocket
        rfl

/-- The peers of a node keep their progress in all states of a run exactly
when no close event reaches the websocket of the current try of an unfinished
manager before the handshake answer or an error does. -/
theorem progress_throughout_iff (config : ClusterConfig)
    (events : List ClusterEvent) :
    (∀ done, done <+: events → Progress (run config done)) ↔
      ∀ done event, done ++ [event] <+: events →
        ClosesSettled (run config done) event := by
  apply throughout_iff
  · exact progress_of_linked linked_empty
  · intro done event hprogress
    have hlinked := linked_run config done
    have hrun : (done ++ [event]).foldl (step config) empty =
        (run config done).step config event := by
      rw [List.foldl_append]
      rfl
    rw [hrun]
    constructor
    · intro hafter
      cases event with
      | closed socket code reason =>
          by_contra hawaited
          rw [ClosesSettled, Bool.not_eq_false] at hawaited
          exact not_progress_of_closed config hlinked hawaited code reason
            hafter
      | _ => exact trivial
    · intro hcloses
      apply progress_of_linked
      apply linked_step config (linked_of_progress hlinked hprogress)
      rintro socket code reason rfl hawaited manager
      rw [ClosesSettled] at hcloses
      exact absurd (hcloses.symm.trans hawaited) (by simp)

/-- The failure of the first connection starts a manager, and its first try
opens and closes without a handshake answer.  The manager is stuck, and the
sync loop passes over the peer. -/
theorem closeBeforeAnswer_hangs :
    let config : ClusterConfig := ⟨some "ws://a", fun _ => true⟩
    let peer : NodeEndpoint := some "ws://b"
    let s := run config [.syncVisit peer, .failed 0, .timer 0, .opened 1,
      .closed 1 1006 ""]
    ¬ Progress s ∧ s.syncVisit config peer = s := by
  intro config peer s
  have hname : s.reconnectingNodesConnections.get? peer = some 0 := by
    decide +kernel
  have hr : s.managers[0]? = some ⟨peer, false, 2, .trying 1⟩ := by
    decide +kernel
  have hws : s.sockets[1]? =
      some ⟨peer, .reconnecting 0, .closed, true, false, false, false⟩ := by
    decide +kernel
  constructor
  · exact not_progress_of_waiting hname hr rfl rfl hws rfl
  · have hskipped : s.isReconnecting peer = true := by
      rw [isReconnecting, hname, Option.bind_some, hr]
      rfl
    rw [syncVisit, if_pos hskipped]
    split <;> rfl

end ClusterManager

end SamaServer
