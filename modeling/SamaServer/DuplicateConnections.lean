/-
One connection for each peer.  Whether a connection is stored is looked up
before and after the handshake of a new websocket, and a websocket that lost
the race is closed with a status code that the websocket library rejects.
-/
import SamaServer.ReconnectLinks
import SamaServer.Runs

namespace SamaServer

/-- The call that made the websocket can still return or throw. -/
def NodeSocket.isInProgress (socket : NodeSocket) : Bool :=
  !socket.isSettled && socket.phase ≠ .closed

namespace ClusterManager

variable {s : ClusterManager}

/-- When no call to an endpoint is in progress, an open websocket to it is
the stored one. -/
def StoresOpenSocket (s : ClusterManager) : Prop :=
  ∀ nodeEndpoint : NodeEndpoint,
    (∀ ws ∈ s.sockets, ws.nodeEndpoint = nodeEndpoint →
      ws.isInProgress = false) →
    ∀ (socket : Nat) (ws : NodeSocket), s.sockets[socket]? = some ws →
      ws.nodeEndpoint = nodeEndpoint → ws.phase = .established →
      s.clusterNodesConnections.get? nodeEndpoint = some socket

/-- A duplicate was closed without an exception, and its close event changes
neither map. -/
def DiscardsQuietly (config : ClusterConfig) (s : ClusterManager) : Prop :=
  ∀ (socket : Nat) (ws : NodeSocket), s.sockets[socket]? = some ws →
    ws.isDiscarded = true →
    ws.isCloseRejected = false ∧
      ∀ code reason,
        (s.step config (.closed socket code reason)
          ).clusterNodesConnections = s.clusterNodesConnections ∧
        (s.step config (.closed socket code reason)
          ).reconnectingNodesConnections = s.reconnectingNodesConnections

/-- Whether a handshake answer ends a call while another connection to the
same endpoint is stored. -/
def isAnsweredTwice (s : ClusterManager) (socket : Nat) : Bool :=
  (s.sockets[socket]?).any (fun ws =>
    ws.phase = .established ∧ ws.isSettled = false ∧
      (s.clusterNodesConnections.get? ws.nodeEndpoint).isSome)

/-- The event is not such an answer. -/
def AnswersOnce (s : ClusterManager) : ClusterEvent → Prop
  | .answered socket => s.isAnsweredTwice socket = false
  | _ => True

/-- Every open websocket is stored or has its call in progress, and no
websocket was discarded. -/
structure Single (s : ClusterManager) : Prop where
  connecting : ∀ (socket : Nat) (ws : NodeSocket),
    s.sockets[socket]? = some ws → ws.phase = .connecting →
    ws.isSettled = false
  stored : ∀ (socket : Nat) (ws : NodeSocket),
    s.sockets[socket]? = some ws → ws.phase = .established →
    ws.isSettled = true →
    s.clusterNodesConnections.get? ws.nodeEndpoint = some socket
  undiscarded : ∀ (socket : Nat) (ws : NodeSocket),
    s.sockets[socket]? = some ws → ws.isDiscarded = false

theorem single_empty : Single empty where
  connecting := by simp [empty]
  stored := by simp [empty]
  undiscarded := by simp [empty]

theorem cancelNodeReconnecting_connections (s : ClusterManager)
    (nodeEndpoint : NodeEndpoint) (isSuccess : Bool) :
    (s.cancelNodeReconnecting nodeEndpoint isSuccess).clusterNodesConnections =
        s.clusterNodesConnections ∧
      (s.cancelNodeReconnecting nodeEndpoint isSuccess).sockets =
        s.sockets := by
  have hcanceled : (s.cancelManager nodeEndpoint).clusterNodesConnections =
      s.clusterNodesConnections ∧
        (s.cancelManager nodeEndpoint).sockets = s.sockets := by
    rw [cancelManager]
    split <;> exact ⟨rfl, rfl⟩
  cases isSuccess with
  | true => exact ⟨rfl, rfl⟩
  | false => exact hcanceled

theorem startNodeReconnecting_connections (s : ClusterManager)
    (nodeEndpoint : NodeEndpoint) (skip : Bool) :
    (s.startNodeReconnecting nodeEndpoint skip).clusterNodesConnections =
        s.clusterNodesConnections ∧
      (s.startNodeReconnecting nodeEndpoint skip).sockets = s.sockets := by
  rw [startNodeReconnecting]
  split
  · exact ⟨rfl, rfl⟩
  · exact cancelNodeReconnecting_connections s nodeEndpoint false

theorem callFailed_connections (s : ClusterManager)
    (nodeEndpoint : NodeEndpoint) (caller : ConnectionCaller) :
    (s.callFailed nodeEndpoint caller).clusterNodesConnections =
        s.clusterNodesConnections ∧
      (s.callFailed nodeEndpoint caller).sockets = s.sockets := by
  cases caller with
  | syncing => exact startNodeReconnecting_connections s nodeEndpoint false
  | _ => exact ⟨rfl, rfl⟩

theorem callSucceeded_connections (s : ClusterManager)
    (nodeEndpoint : NodeEndpoint) (caller : ConnectionCaller) :
    (s.callSucceeded nodeEndpoint caller).clusterNodesConnections =
        s.clusterNodesConnections ∧
      (s.callSucceeded nodeEndpoint caller).sockets = s.sockets := by
  cases caller <;> exact ⟨rfl, rfl⟩

theorem createConnectionWithNode_connections (s : ClusterManager)
    (nodeEndpoint : NodeEndpoint) (caller : ConnectionCaller) :
    (s.createConnectionWithNode nodeEndpoint caller).clusterNodesConnections =
        s.clusterNodesConnections ∧
      (s.createConnectionWithNode nodeEndpoint caller).sockets =
        s.sockets ++ [.connect nodeEndpoint caller] := by
  cases caller <;> exact ⟨rfl, rfl⟩

namespace Single

/-- The managers are not looked at. -/
theorem congr (hsingle : Single s) {after : ClusterManager}
    (hsame : after.clusterNodesConnections = s.clusterNodesConnections ∧
      after.sockets = s.sockets) : Single after := by
  obtain ⟨hconnections, hsockets⟩ := hsame
  constructor
  · rw [hsockets]
    exact hsingle.connecting
  · rw [hsockets, hconnections]
    exact hsingle.stored
  · rw [hsockets]
    exact hsingle.undiscarded

/-- A change of a websocket that does not make it a settled open one. -/
theorem updateSocket (hsingle : Single s) (socket : Nat)
    {f : NodeSocket → NodeSocket}
    (hconnecting : ∀ ws, (f ws).phase = .connecting →
      ws.phase = .connecting ∧ (f ws).isSettled = ws.isSettled)
    (hestablished : ∀ ws, s.sockets[socket]? = some ws →
      (f ws).phase = .established → (f ws).isSettled = true →
      ws.phase = .established ∧ ws.isSettled = true ∧
        (f ws).nodeEndpoint = ws.nodeEndpoint)
    (hdiscarded : ∀ ws, (f ws).isDiscarded = ws.isDiscarded) :
    Single (s.updateSocket socket f) where
  connecting := by
    intro other ws hws hphase
    rw [getElem?_updateSocket, Option.map_eq_some_iff] at hws
    obtain ⟨old, hold, rfl⟩ := hws
    by_cases hsame : socket = other
    · simp only [hsame, if_true] at hphase ⊢
      rw [(hconnecting old hphase).2]
      exact hsingle.connecting other old hold (hconnecting old hphase).1
    · simp only [hsame, if_false, id_eq] at hphase ⊢
      exact hsingle.connecting other old hold hphase
  stored := by
    intro other ws hws hphase hsettled
    rw [getElem?_updateSocket, Option.map_eq_some_iff] at hws
    obtain ⟨old, hold, rfl⟩ := hws
    by_cases hsame : socket = other
    · subst hsame
      simp only [if_true] at hphase hsettled ⊢
      obtain ⟨hopen, hover, hendpoint⟩ := hestablished old hold hphase
        hsettled
      rw [hendpoint]
      exact hsingle.stored socket old hold hopen hover
    · simp only [hsame, if_false, id_eq] at hphase hsettled ⊢
      exact hsingle.stored other old hold hphase hsettled
  undiscarded := by
    intro other ws hws
    rw [getElem?_updateSocket, Option.map_eq_some_iff] at hws
    obtain ⟨old, hold, rfl⟩ := hws
    have hnot := hsingle.undiscarded other old hold
    by_cases hsame : socket = other <;> simp [hsame, hdiscarded, hnot]

/-- A new websocket. -/
theorem connect (hsingle : Single s) (nodeEndpoint : NodeEndpoint)
    (caller : ConnectionCaller) :
    Single (s.createConnectionWithNode nodeEndpoint caller) := by
  obtain ⟨hconnections, hsockets⟩ := createConnectionWithNode_connections s
    nodeEndpoint caller
  constructor
  · intro socket ws hws hphase
    rw [hsockets] at hws
    rcases getElem?_concat_iff.1 hws with hold | ⟨_, rfl⟩
    · exact hsingle.connecting socket ws hold hphase
    · rfl
  · intro socket ws hws hphase hsettled
    rw [hsockets] at hws
    rw [hconnections]
    rcases getElem?_concat_iff.1 hws with hold | ⟨_, rfl⟩
    · exact hsingle.stored socket ws hold hphase hsettled
    · cases hphase
  · intro socket ws hws
    rw [hsockets] at hws
    rcases getElem?_concat_iff.1 hws with hold | ⟨_, rfl⟩
    · exact hsingle.undiscarded socket ws hold
    · rfl

theorem createOrRetrieve (hsingle : Single s) (config : ClusterConfig)
    (nodeEndpoint : NodeEndpoint) (throws : Bool)
    (caller : ConnectionCaller) :
    Single (s.createOrRetrieveConnectionWithNode config nodeEndpoint throws
      caller) := by
  rw [createOrRetrieveConnectionWithNode]
  split
  · exact hsingle.congr (callSucceeded_connections s nodeEndpoint caller)
  · split
    · exact hsingle.congr (callFailed_connections s nodeEndpoint caller)
    · split
      · exact hsingle.connect nodeEndpoint caller
      · exact hsingle.congr (callFailed_connections s nodeEndpoint caller)

/-- A connection is dropped: its websocket is closed as well. -/
theorem deleteClusterConnection (hsingle : Single s)
    (nodeEndpoint : NodeEndpoint) :
    Single (s.deleteClusterConnection nodeEndpoint) := by
  rw [ClusterManager.deleteClusterConnection]
  split
  · next dropped hdropped =>
      have hclosed : Single (s.updateSocket dropped NodeSocket.close) :=
        hsingle.updateSocket dropped (by simp) (by simp) (by simp)
      refine ⟨hclosed.connecting, ?_, hclosed.undiscarded⟩
      intro socket ws hws hphase hsettled
      have hstored : s.clusterNodesConnections.get? ws.nodeEndpoint =
          some socket := hclosed.stored socket ws hws hphase hsettled
      change (s.clusterNodesConnections.erase nodeEndpoint).get? _ = _
      rw [OrderedMap.get?_erase, if_neg, hstored]
      -- The websocket stored for the endpoint is no longer open.
      intro hendpoint
      rw [hendpoint, hdropped, Option.some_inj] at hstored
      subst hstored
      rw [getElem?_updateSocket, Option.map_eq_some_iff] at hws
      obtain ⟨old, _, rfl⟩ := hws
      simp at hphase
  · exact hsingle

theorem onCloseNode (hsingle : Single s) (nodeEndpoint : NodeEndpoint)
    (code : Nat) (reason : String) :
    Single (s.onCloseNode nodeEndpoint code reason) := by
  rw [ClusterManager.onCloseNode]
  split
  · exact hsingle
  · exact (hsingle.deleteClusterConnection nodeEndpoint).congr
      (startNodeReconnecting_connections _ nodeEndpoint true)

/-- The first answer of a peer: its websocket is stored. -/
theorem store (hsingle : Single s) {socket : Nat} {ws : NodeSocket}
    (hws : s.sockets[socket]? = some ws) (hphase : ws.phase = .established)
    (hfree : s.clusterNodesConnections.get? ws.nodeEndpoint = none) :
    Single { s.updateSocket socket NodeSocket.settle with
      clusterNodesConnections :=
        s.clusterNodesConnections.set ws.nodeEndpoint socket } where
  connecting := by
    intro other old hold hconnecting
    rw [show _ = _ from getElem?_updateSocket s socket other NodeSocket.settle,
      Option.map_eq_some_iff] at hold
    obtain ⟨before, hbefore, rfl⟩ := hold
    by_cases hsame : socket = other
    · subst hsame
      rw [hws, Option.some_inj] at hbefore
      subst hbefore
      simp [hphase] at hconnecting
    · simp only [hsame, if_false, id_eq] at hconnecting ⊢
      exact hsingle.connecting other before hbefore hconnecting
  stored := by
    intro other old hold hopen hsettled
    rw [show _ = _ from getElem?_updateSocket s socket other NodeSocket.settle,
      Option.map_eq_some_iff] at hold
    obtain ⟨before, hbefore, rfl⟩ := hold
    rw [OrderedMap.get?_set]
    by_cases hsame : socket = other
    · subst hsame
      rw [hws, Option.some_inj] at hbefore
      subst hbefore
      simp
    · simp only [hsame, if_false, id_eq] at hopen hsettled ⊢
      have hstored := hsingle.stored other before hbefore hopen hsettled
      rw [if_neg, hstored]
      intro hendpoint
      rw [hendpoint, hfree] at hstored
      cases hstored
  undiscarded := by
    intro other old hold
    rw [show _ = _ from getElem?_updateSocket s socket other NodeSocket.settle,
      Option.map_eq_some_iff] at hold
    obtain ⟨before, hbefore, rfl⟩ := hold
    have hnot := hsingle.undiscarded other before hbefore
    by_cases hsame : socket = other <;> simp [hsame, hnot]

/-- An answer that arrives while no connection is stored. -/
theorem onAnswered (hsingle : Single s) {socket : Nat}
    (honce : s.isAnsweredTwice socket = false) :
    Single (s.onAnswered socket) := by
  rw [ClusterManager.onAnswered]
  split
  · exact hsingle
  · next ws hws =>
      split
      · next hanswer =>
          have hfree : s.clusterNodesConnections.get? ws.nodeEndpoint =
              none := by
            simpa [isAnsweredTwice, hws, hanswer.1, hanswer.2] using honce
          obtain ⟨hconnections, hsockets⟩ := cancelNodeReconnecting_connections
            (s.updateSocket socket NodeSocket.settle) ws.nodeEndpoint false
          have hstill : (s.updateSocket socket NodeSocket.settle
              ).clusterNodesConnections = s.clusterNodesConnections := rfl
          rw [finishConnection, if_neg (by
            rw [hconnections, hstill, hfree]
            simp)]
          apply Single.congr _ (callSucceeded_connections _ _ _)
          apply (hsingle.store hws hanswer.1 hfree).congr
          exact ⟨by rw [hconnections]; rfl, hsockets⟩
      · exact hsingle

end Single

/-- What one event keeps. -/
theorem single_step (config : ClusterConfig) (hsingle : Single s)
    (event : ClusterEvent) (honce : AnswersOnce s event) :
    Single (s.step config event) := by
  cases event with
  | opened socket =>
      apply hsingle.updateSocket socket
      · intro ws
        split <;> simp_all
      · intro ws hws
        have hunsettled := hsingle.connecting socket ws hws
        split <;> simp_all
      · intro ws
        split <;> rfl
  | answered socket => exact hsingle.onAnswered honce
  | failed socket =>
      rw [step, onFailed]
      split
      · exact hsingle
      · split
        · exact hsingle
        · split
          · exact hsingle.updateSocket socket (by simp) (by simp) (by simp)
          · exact (hsingle.updateSocket socket (by simp) (by simp)
              (by simp)).congr (callFailed_connections _ _ _)
  | closed socket code reason =>
      rw [step, onClosed]
      split
      · exact hsingle
      · split
        · exact hsingle
        · have hclosed := hsingle.updateSocket socket
            (f := fun ws => { ws with phase := .closed }) (by simp) (by simp)
            (by simp)
          dsimp only
          split
          · exact hclosed.onCloseNode _ code reason
          · exact hclosed
  | timer manager =>
      rw [step, onTimer]
      split
      · exact hsingle
      · split
        · exact hsingle
        · split
          · exact hsingle.congr ⟨rfl, rfl⟩
          · exact hsingle.createOrRetrieve config _ false _
  | syncVisit nodeEndpoint =>
      rw [step, syncVisit]
      split
      · exact hsingle
      · split
        · exact hsingle
        · exact hsingle.createOrRetrieve config nodeEndpoint true _
  | deliver nodeEndpoint =>
      exact hsingle.createOrRetrieve config nodeEndpoint true _
  | handshake nodeEndpoint =>
      exact hsingle.createOrRetrieve config nodeEndpoint true _
  | localClosed nodeEndpoint code reason =>
      exact hsingle.onCloseNode nodeEndpoint code reason
  | destroyed nodeEndpoint =>
      exact (hsingle.deleteClusterConnection nodeEndpoint).congr
        (cancelNodeReconnecting_connections _ nodeEndpoint false)

theorem Single.storesOpenSocket (hsingle : Single s) :
    StoresOpenSocket s := by
  intro nodeEndpoint hidle socket ws hws hendpoint hphase
  have hover := hidle ws (List.mem_of_getElem? hws) hendpoint
  have hsettled : ws.isSettled = true := by
    simpa [NodeSocket.isInProgress, hphase] using hover
  rw [← hendpoint]
  exact hsingle.stored socket ws hws hphase hsettled

theorem Single.discardsQuietly (hsingle : Single s)
    (config : ClusterConfig) : DiscardsQuietly config s := by
  intro socket ws hws hdiscarded
  rw [hsingle.undiscarded socket ws hws] at hdiscarded
  cases hdiscarded

/-- A second answer makes the close of its websocket throw. -/
theorem not_discardsQuietly_of_answeredTwice (config : ClusterConfig)
    {socket : Nat} (htwice : s.isAnsweredTwice socket = true) :
    ¬ DiscardsQuietly config (s.step config (.answered socket)) := by
  intro hquiet
  rw [isAnsweredTwice, Option.any_eq_true] at htwice
  obtain ⟨ws, hws, htwice⟩ := htwice
  simp only [decide_eq_true_eq] at htwice
  obtain ⟨hphase, hopen, hstored⟩ := htwice
  have hinvalid : isValidStatusCode duplicateCloseWsCode = false := by decide
  obtain ⟨hconnections, hsockets⟩ := cancelNodeReconnecting_connections
    (s.updateSocket socket NodeSocket.settle) ws.nodeEndpoint false
  have hafter : (s.step config (.answered socket)).sockets[socket]? =
      some (ws.settle.discard duplicateCloseWsCode) := by
    simp only [step, onAnswered, hws, hphase, hopen, and_self, if_true,
      finishConnection, hinvalid, Bool.false_eq_true, if_false]
    rw [if_pos (by rw [hconnections]; exact hstored),
      (callFailed_connections _ _ _).2, getElem?_updateSocket, hsockets,
      getElem?_updateSocket, hws]
    simp
  have hrejected := (hquiet socket _ hafter
    (by simp [NodeSocket.discard, hinvalid])).1
  simp [NodeSocket.discard, hinvalid] at hrejected

/-- In all states of a run the open websockets of idle endpoints are the
stored ones and duplicates are discarded quietly, exactly when every
handshake answer that ends a call arrives while no connection is stored for
its endpoint. -/
theorem single_throughout_iff (config : ClusterConfig)
    (events : List ClusterEvent) :
    (∀ done, done <+: events →
        StoresOpenSocket (run config done) ∧
          DiscardsQuietly config (run config done)) ↔
      ∀ done event, done ++ [event] <+: events →
        AnswersOnce (run config done) event := by
  apply throughout_iff_of_invariant (I := Single)
    (P := fun s => StoresOpenSocket s ∧ DiscardsQuietly config s)
    single_empty
  · intro s hsingle
    exact ⟨hsingle.storesOpenSocket, hsingle.discardsQuietly config⟩
  · intro s event hsingle honce
    exact single_step config hsingle event honce
  · intro s event _ hafter
    cases event with
    | answered socket =>
        by_contra htwice
        rw [AnswersOnce, Bool.not_eq_false] at htwice
        exact not_discardsQuietly_of_answeredTwice config htwice hafter.2
    | _ => exact trivial

/-- The sync loop and the handshake of the peer connect at the same time.
The second answer throws, two websockets stay open, and the close event of
the duplicate drops the stored connection and starts a reconnect. -/
theorem overlappingConnects_conflict :
    let config : ClusterConfig := ⟨some "ws://a", fun _ => true⟩
    let peer : NodeEndpoint := some "ws://b"
    let s := run config [.syncVisit peer, .handshake peer, .opened 0,
      .opened 1, .answered 0, .answered 1]
    ¬ StoresOpenSocket s ∧ ¬ DiscardsQuietly config s ∧
      s.sockets.map NodeSocket.isCloseRejected = [false, true] ∧
      s.clusterNodesConnections.get? peer = some 0 ∧
      (s.step config (.closed 1 1006 "")).clusterNodesConnections.get? peer =
        none ∧
      (s.step config (.closed 1 1006 "")).isReconnecting peer = true := by
  intro config peer s
  have hstored : s.clusterNodesConnections.get? peer = some 0 := by
    decide +kernel
  have hsockets : s.sockets =
      [⟨peer, .syncing, .established, true, true, false, false⟩,
        ⟨peer, .receiving, .established, true, true, true, true⟩] := by
    decide +kernel
  refine ⟨?_, ?_, by rw [hsockets]; rfl, hstored, by decide +kernel,
    by decide +kernel⟩
  · intro hopen
    have hsecond := hopen peer (by rw [hsockets]; decide) 1
      ⟨peer, .receiving, .established, true, true, true, true⟩
      (by rw [hsockets]; rfl) rfl rfl
    rw [hstored] at hsecond
    cases hsecond
  · intro hquiet
    have hrejected := (hquiet 1
      ⟨peer, .receiving, .established, true, true, true, true⟩
      (by rw [hsockets]; rfl) rfl).1
    cases hrejected

end ClusterManager

end SamaServer
