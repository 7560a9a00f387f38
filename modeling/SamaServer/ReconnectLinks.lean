/-
How reconnect managers, their tries and the websockets of the tries belong
together in every state that a node reaches, and which operation of the
cluster manager needs what for it.
-/
import SamaServer.ClusterManager

namespace SamaServer

namespace ClusterManager

variable {s : ClusterManager} {hole : Option Nat} {stuck : Nat → Prop}

theorem getElem?_updateSocket (s : ClusterManager) (socket other : Nat)
    (f : NodeSocket → NodeSocket) :
    (s.updateSocket socket f).sockets[other]? =
      (s.sockets[other]?).map (if socket = other then f else id) := by
  simp only [updateSocket, List.getElem?_modify]
  by_cases hsame : socket = other <;> simp [hsame]

theorem getElem?_updateManager (s : ClusterManager) (manager other : Nat)
    (f : ReconnectManager → ReconnectManager) :
    (s.updateManager manager f).managers[other]? =
      (s.managers[other]?).map (if manager = other then f else id) := by
  simp only [updateManager, List.getElem?_modify]
  by_cases hsame : manager = other <;> simp [hsame]

theorem getElem?_concat_iff {A : Type} {list : List A} {last a : A}
    {place : Nat} :
    (list ++ [last])[place]? = some a ↔
      list[place]? = some a ∨ (place = list.length ∧ a = last) := by
  rw [List.getElem?_append]
  by_cases hplace : place < list.length
  · have hne : place ≠ list.length := Nat.ne_of_lt hplace
    simp [hplace, hne]
  · have hnone : list[place]? = none :=
      List.getElem?_eq_none (Nat.le_of_not_lt hplace)
    rw [if_neg hplace, hnone, List.getElem?_singleton]
    by_cases hlast : place - list.length = 0
    · have heq : place = list.length := by omega
      simp [heq, eq_comm]
    · have hne : place ≠ list.length := by omega
      simp [hlast, hne]

/-- How managers, tries and websockets belong together.  The websocket named
by `hole` was settled in the step that runs, and its caller does not know
yet; the managers in `stuck` may wait for a closed websocket. -/
structure Linked (hole : Option Nat) (stuck : Nat → Prop)
    (s : ClusterManager) : Prop where
  named : ∀ nodeEndpoint manager,
    s.reconnectingNodesConnections.get? nodeEndpoint = some manager →
    ∃ r, s.managers[manager]? = some r ∧ r.nodeEndpoint = nodeEndpoint ∧
      (r.isFinished = false → r.retry ≠ .ended)
  attempt : ∀ manager r socket, s.managers[manager]? = some r →
    r.retry = .trying socket →
    ∃ ws, s.sockets[socket]? = some ws ∧
      ws.caller = .reconnecting manager ∧
      (ws.isSettled = false ∨ hole = some socket)
  caller : ∀ (socket : Nat) (ws : NodeSocket) (manager : Nat),
    s.sockets[socket]? = some ws → ws.caller = .reconnecting manager →
    ws.isSettled = false →
    ∃ r : ReconnectManager, s.managers[manager]? = some r ∧
      r.retry = .trying socket ∧ r.nodeEndpoint = ws.nodeEndpoint
  progress : ∀ nodeEndpoint manager r socket ws,
    s.reconnectingNodesConnections.get? nodeEndpoint = some manager →
    ¬ stuck manager → s.managers[manager]? = some r →
    r.isFinished = false → r.retry = .trying socket →
    s.sockets[socket]? = some ws → ws.phase ≠ .closed

/-- A call to an endpoint is over and its caller not told: no websocket of
the same manager is open, and the one that was settled is its own. -/
structure CallOver (hole : Option Nat) (nodeEndpoint : NodeEndpoint)
    (caller : ConnectionCaller) (s : ClusterManager) : Prop where
  quiet : ∀ (socket : Nat) (ws : NodeSocket) (manager : Nat),
    s.sockets[socket]? = some ws → ws.caller = .reconnecting manager →
    caller = .reconnecting manager → ws.isSettled = true
  own : ∀ (socket : Nat) (ws : NodeSocket), hole = some socket →
    s.sockets[socket]? = some ws → ws.caller = caller
  named : ∀ (manager : Nat) (other : NodeEndpoint),
    caller = .reconnecting manager →
    s.reconnectingNodesConnections.get? other = some manager →
    other = nodeEndpoint

namespace CallOver

variable {nodeEndpoint : NodeEndpoint} {caller : ConnectionCaller}

theorem erase (hover : CallOver hole nodeEndpoint caller s)
    (erased : NodeEndpoint) :
    CallOver hole nodeEndpoint caller { s with
      reconnectingNodesConnections :=
        s.reconnectingNodesConnections.erase erased } where
  quiet := hover.quiet
  own := hover.own
  named := by
    intro manager other howner hname
    rw [OrderedMap.get?_erase] at hname
    split at hname
    · cases hname
    · exact hover.named manager other howner hname

theorem cancelNodeReconnecting (hover : CallOver hole nodeEndpoint caller s)
    (canceled : NodeEndpoint) (isSuccess : Bool) :
    CallOver hole nodeEndpoint caller
      (s.cancelNodeReconnecting canceled isSuccess) := by
  have hcanceled : CallOver hole nodeEndpoint caller
      (s.cancelManager canceled) := by
    rw [cancelManager]
    split
    · exact ⟨hover.quiet, hover.own, hover.named⟩
    · exact hover
  cases isSuccess with
  | true => exact hover.erase canceled
  | false => exact hcanceled.erase canceled

/-- A change of a websocket that keeps whose it is and whether it is
settled. -/
theorem updateSocket (hover : CallOver hole nodeEndpoint caller s)
    (socket : Nat) {f : NodeSocket → NodeSocket}
    (hcaller : ∀ ws, (f ws).caller = ws.caller)
    (hsettled : ∀ ws, (f ws).isSettled = ws.isSettled) :
    CallOver hole nodeEndpoint caller (s.updateSocket socket f) where
  quiet := by
    intro other ws manager hws howner hmanager
    rw [getElem?_updateSocket, Option.map_eq_some_iff] at hws
    obtain ⟨old, hold, rfl⟩ := hws
    by_cases hsame : socket = other
    · simp only [hsame, if_true, hcaller, hsettled] at howner ⊢
      exact hover.quiet other old manager hold howner hmanager
    · simp only [hsame, if_false, id_eq] at howner ⊢
      exact hover.quiet other old manager hold howner hmanager
  own := by
    intro other ws hthis hws
    rw [getElem?_updateSocket, Option.map_eq_some_iff] at hws
    obtain ⟨old, hold, rfl⟩ := hws
    rw [← hover.own other old hthis hold]
    by_cases hsame : socket = other <;> simp [hsame, hcaller]
  named := hover.named

end CallOver

theorem linked_empty : Linked none stuck empty where
  named := by simp [empty]
  attempt := by simp [empty]
  caller := by simp [empty]
  progress := by simp [empty]

namespace Linked

/-- Forgetting names of the map. -/
theorem restrict (hlinked : Linked hole stuck s)
    {names : OrderedMap NodeEndpoint Nat}
    (hnames : ∀ nodeEndpoint manager, names.get? nodeEndpoint = some manager →
      s.reconnectingNodesConnections.get? nodeEndpoint = some manager) :
    Linked hole stuck { s with reconnectingNodesConnections := names } where
  named := fun nodeEndpoint manager hname =>
    hlinked.named nodeEndpoint manager (hnames nodeEndpoint manager hname)
  attempt := hlinked.attempt
  caller := hlinked.caller
  progress := fun nodeEndpoint manager r socket ws hname =>
    hlinked.progress nodeEndpoint manager r socket ws
      (hnames nodeEndpoint manager hname)

theorem erase (hlinked : Linked hole stuck s) (nodeEndpoint : NodeEndpoint) :
    Linked hole stuck { s with
      reconnectingNodesConnections :=
        s.reconnectingNodesConnections.erase nodeEndpoint } := by
  apply hlinked.restrict
  intro other manager hname
  rw [OrderedMap.get?_erase] at hname
  split at hname
  · cases hname
  · exact hname

/-- The connections are not looked at. -/
theorem connections (hlinked : Linked hole stuck s)
    (stored : OrderedMap NodeEndpoint Nat) :
    Linked hole stuck { s with clusterNodesConnections := stored } :=
  ⟨hlinked.named, hlinked.attempt, hlinked.caller, hlinked.progress⟩

/-- A change of a websocket.  One that settles it leaves its caller to be
told, and one that closes it leaves its manager stuck. -/
theorem changeSocket (hlinked : Linked hole stuck s) (socket : Nat)
    {told : Option Nat} {f : NodeSocket → NodeSocket}
    (hcaller : ∀ ws, (f ws).caller = ws.caller)
    (hopen : ∀ ws, (f ws).isSettled = false →
      ws.isSettled = false ∧ (f ws).nodeEndpoint = ws.nodeEndpoint)
    (htold : ∀ other, hole = some other → told = some other)
    (hsettled : told = some socket ∨ ∀ ws, (f ws).isSettled = ws.isSettled)
    (hclosed : ∀ nodeEndpoint manager r,
      s.reconnectingNodesConnections.get? nodeEndpoint = some manager →
      s.managers[manager]? = some r → r.isFinished = false →
      r.retry = .trying socket → ¬ stuck manager →
      ∀ ws, (f ws).phase = .closed → ws.phase = .closed) :
    Linked told stuck (s.updateSocket socket f) where
  named := hlinked.named
  attempt := by
    intro manager r tried hr hretry
    obtain ⟨ws, hws, howner, hunsettled⟩ := hlinked.attempt manager r tried hr
      hretry
    have hkept := hunsettled.imp id (htold tried)
    rw [getElem?_updateSocket, hws]
    by_cases hsame : socket = tried
    · refine ⟨f ws, by simp [hsame], by rw [hcaller, howner], ?_⟩
      rcases hsettled with hthis | hsettled
      · exact Or.inr (hsame ▸ hthis)
      · rw [hsettled]
        exact hkept
    · exact ⟨ws, by simp [hsame], howner, hkept⟩
  caller := by
    intro other ws manager hws howner hunsettled
    rw [getElem?_updateSocket, Option.map_eq_some_iff] at hws
    obtain ⟨old, hold, rfl⟩ := hws
    by_cases hsame : socket = other
    · simp only [hsame, if_true, hcaller] at howner hunsettled ⊢
      rw [(hopen old hunsettled).2]
      exact hlinked.caller other old manager hold howner
        (hopen old hunsettled).1
    · simp only [hsame, if_false, id_eq] at howner hunsettled ⊢
      exact hlinked.caller other old manager hold howner hunsettled
  progress := by
    intro nodeEndpoint manager r tried ws hname hfree hr hactive hretry hws
    rw [getElem?_updateSocket, Option.map_eq_some_iff] at hws
    obtain ⟨old, hold, rfl⟩ := hws
    have hlive := hlinked.progress nodeEndpoint manager r tried old hname
      hfree hr hactive hretry hold
    by_cases hsame : socket = tried
    · subst hsame
      simp only [if_true]
      exact fun hphase => hlive
        (hclosed nodeEndpoint manager r hname hr hactive hretry hfree old
          hphase)
    · simpa only [hsame, if_false, id_eq] using hlive

/-- A change of a websocket that neither settles nor closes it. -/
theorem updateSocket (hlinked : Linked hole stuck s) (socket : Nat)
    {f : NodeSocket → NodeSocket}
    (hendpoint : ∀ ws, (f ws).nodeEndpoint = ws.nodeEndpoint)
    (hcaller : ∀ ws, (f ws).caller = ws.caller)
    (hsettled : ∀ ws, (f ws).isSettled = ws.isSettled)
    (hphase : ∀ ws, (f ws).phase = .closed → ws.phase = .closed) :
    Linked hole stuck (s.updateSocket socket f) := by
  apply hlinked.changeSocket socket hcaller
  · intro ws hopen
    exact ⟨hsettled ws ▸ hopen, hendpoint ws⟩
  · exact fun _ hthis => hthis
  · exact Or.inr hsettled
  · exact fun _ _ _ _ _ _ _ _ => hphase

/-- Settling a websocket leaves its caller to be told. -/
theorem settle (hlinked : Linked none stuck s) (socket : Nat)
    {f : NodeSocket → NodeSocket}
    (hcaller : ∀ ws, (f ws).caller = ws.caller)
    (hsettled : ∀ ws, (f ws).isSettled = true)
    (hphase : ∀ ws, (f ws).phase = .closed → ws.phase = .closed) :
    Linked (some socket) stuck (s.updateSocket socket f) := by
  apply hlinked.changeSocket socket hcaller
  · intro ws hopen
    rw [hsettled] at hopen
    cases hopen
  · exact fun _ hthis => (by cases hthis)
  · exact Or.inl rfl
  · exact fun _ _ _ _ _ _ _ _ => hphase

/-- The close of a websocket, whose manager may be stuck by it. -/
theorem close (hlinked : Linked none stuck s) (socket : Nat)
    (hstuck : ∀ nodeEndpoint manager r,
      s.reconnectingNodesConnections.get? nodeEndpoint = some manager →
      s.managers[manager]? = some r → r.isFinished = false →
      r.retry = .trying socket → stuck manager) :
    Linked none stuck (s.updateSocket socket
      (fun ws => { ws with phase := .closed })) := by
  apply hlinked.changeSocket socket
  · exact fun _ => rfl
  · exact fun _ hopen => ⟨hopen, rfl⟩
  · exact fun _ hthis => hthis
  · exact Or.inr (fun _ => rfl)
  · intro nodeEndpoint manager r hname hr hactive hretry hfree
    exact absurd (hstuck nodeEndpoint manager r hname hr hactive hretry) hfree

/-- A manager is canceled while its try goes on. -/
theorem cancel (hlinked : Linked hole stuck s) (canceled : Nat) :
    Linked hole stuck
      (s.updateManager canceled ReconnectManager.cancel) where
  named := by
    intro nodeEndpoint manager hname
    obtain ⟨r, hr, hendpoint, hactive⟩ := hlinked.named nodeEndpoint manager
      hname
    rw [getElem?_updateManager, hr]
    by_cases hsame : canceled = manager
    · exact ⟨r.cancel, by simp [hsame], hendpoint, by
        simp [ReconnectManager.cancel]⟩
    · exact ⟨r, by simp [hsame], hendpoint, hactive⟩
  attempt := by
    intro manager r socket hr hretry
    rw [getElem?_updateManager, Option.map_eq_some_iff] at hr
    obtain ⟨old, hold, rfl⟩ := hr
    apply hlinked.attempt manager old socket hold
    by_cases hsame : canceled = manager
    · simpa [hsame, ReconnectManager.cancel] using hretry
    · simpa [hsame] using hretry
  caller := by
    intro socket ws manager hws howner hopen
    obtain ⟨r, hr, hretry, hendpoint⟩ := hlinked.caller socket ws manager hws
      howner hopen
    rw [getElem?_updateManager, hr]
    by_cases hsame : canceled = manager
    · exact ⟨r.cancel, by simp [hsame], hretry, hendpoint⟩
    · exact ⟨r, by simp [hsame], hretry, hendpoint⟩
  progress := by
    intro nodeEndpoint manager r socket ws hname hfree hr hactive hretry hws
    rw [getElem?_updateManager, Option.map_eq_some_iff] at hr
    obtain ⟨old, hold, rfl⟩ := hr
    by_cases hsame : canceled = manager
    · simp [hsame, ReconnectManager.cancel] at hactive
    · simp only [hsame, if_false, id_eq] at hactive hretry
      exact hlinked.progress nodeEndpoint manager old socket ws hname hfree
        hold hactive hretry hws

/-- The try of a manager is over: its queue waits again or has ended.  No
other call of the manager is open, and a settled websocket was its own. -/
theorem leaveTry (hlinked : Linked hole stuck s) (left : Nat)
    {f : ReconnectManager → ReconnectManager}
    {nodeEndpoint : NodeEndpoint}
    (hover : CallOver hole nodeEndpoint (.reconnecting left) s)
    (hendpoint : ∀ r, (f r).nodeEndpoint = r.nodeEndpoint)
    (hretry : ∀ r socket, (f r).retry ≠ .trying socket)
    (hended : ∀ r other, s.managers[left]? = some r →
      s.reconnectingNodesConnections.get? other = some left →
      (f r).isFinished = false → (f r).retry ≠ .ended) :
    Linked none stuck (s.updateManager left f) where
  named := by
    intro other manager hname
    obtain ⟨r, hr, hown, hactive⟩ := hlinked.named other manager hname
    rw [getElem?_updateManager, hr]
    by_cases hsame : left = manager
    · subst hsame
      exact ⟨f r, by simp, by rw [hendpoint, hown], hended r other hr hname⟩
    · exact ⟨r, by simp [hsame], hown, hactive⟩
  attempt := by
    intro manager r socket hr htrying
    rw [getElem?_updateManager, Option.map_eq_some_iff] at hr
    obtain ⟨old, hold, rfl⟩ := hr
    by_cases hsame : left = manager
    · simp only [hsame, if_true] at htrying
      exact absurd htrying (hretry old socket)
    · simp only [hsame, if_false, id_eq] at htrying
      obtain ⟨ws, hws, howner, hopen⟩ := hlinked.attempt manager old socket
        hold htrying
      refine ⟨ws, hws, howner, Or.inl ?_⟩
      rcases hopen with hopen | hthis
      · exact hopen
      · have hleft := hover.own socket ws hthis hws
        rw [howner] at hleft
        cases hleft
        exact absurd rfl hsame
  caller := by
    intro socket ws manager hws howner hopen
    obtain ⟨r, hr, htrying, hown⟩ := hlinked.caller socket ws manager hws
      howner hopen
    rw [getElem?_updateManager, hr]
    by_cases hsame : left = manager
    · subst hsame
      rw [hover.quiet socket ws left hws howner rfl] at hopen
      cases hopen
    · exact ⟨r, by simp [hsame], htrying, hown⟩
  progress := by
    intro other manager r socket ws hname hfree hr hactive htrying hws
    rw [getElem?_updateManager, Option.map_eq_some_iff] at hr
    obtain ⟨old, hold, rfl⟩ := hr
    by_cases hsame : left = manager
    · simp only [hsame, if_true] at htrying
      exact absurd htrying (hretry old socket)
    · simp only [hsame, if_false, id_eq] at hactive htrying
      exact hlinked.progress other manager old socket ws hname hfree
        hold hactive htrying hws

/-- A settled websocket that no manager waits for. -/
theorem noHole (hlinked : Linked hole stuck s)
    {nodeEndpoint : NodeEndpoint} {caller : ConnectionCaller}
    (hover : CallOver hole nodeEndpoint caller s)
    (hcaller : ∀ manager, caller ≠ .reconnecting manager) :
    Linked none stuck s where
  named := hlinked.named
  attempt := by
    intro manager r socket hr htrying
    obtain ⟨ws, hws, howner, hopen⟩ := hlinked.attempt manager r socket hr
      htrying
    refine ⟨ws, hws, howner, hopen.imp id (fun hthis => ?_)⟩
    rw [hover.own socket ws hthis hws] at howner
    exact absurd howner (hcaller manager)
  caller := hlinked.caller
  progress := hlinked.progress

/-- A new manager is started under an endpoint that has none. -/
theorem start (hlinked : Linked hole stuck s) (nodeEndpoint : NodeEndpoint) :
    Linked hole stuck { s with
      managers := s.managers ++ [.start nodeEndpoint]
      reconnectingNodesConnections :=
        s.reconnectingNodesConnections.set nodeEndpoint
          s.managers.length } where
  named := by
    intro other manager hname
    rw [OrderedMap.get?_set] at hname
    by_cases hsame : other = nodeEndpoint
    · rw [if_pos hsame, Option.some_inj] at hname
      subst hname
      exact ⟨.start nodeEndpoint, by simp, by
        simp [ReconnectManager.start, hsame], by
        simp [ReconnectManager.start]⟩
    · rw [if_neg hsame] at hname
      obtain ⟨r, hr, hown, hactive⟩ := hlinked.named other manager hname
      exact ⟨r, getElem?_concat_iff.2 (Or.inl hr), hown, hactive⟩
  attempt := by
    intro manager r socket hr htrying
    rcases getElem?_concat_iff.1 hr with hold | ⟨_, rfl⟩
    · exact hlinked.attempt manager r socket hold htrying
    · cases htrying
  caller := by
    intro socket ws manager hws howner hopen
    obtain ⟨r, hr, htrying, hown⟩ := hlinked.caller socket ws manager hws
      howner hopen
    exact ⟨r, getElem?_concat_iff.2 (Or.inl hr), htrying, hown⟩
  progress := by
    intro other manager r socket ws hname hfree hr hactive htrying hws
    rcases getElem?_concat_iff.1 hr with hold | ⟨_, rfl⟩
    · refine hlinked.progress other manager r socket ws ?_ hfree hold hactive
        htrying hws
      rw [OrderedMap.get?_set] at hname
      split at hname
      · cases hname
        simp at hold
      · exact hname
    · cases htrying

/-- A manager whose timer fired waits for a new websocket. -/
theorem connect (hlinked : Linked none stuck s) (manager : Nat)
    {r : ReconnectManager} (hr : s.managers[manager]? = some r)
    (hwaiting : r.retry = .waiting) :
    Linked none stuck (s.createConnectionWithNode r.nodeEndpoint
      (.reconnecting manager)) where
  named := by
    intro nodeEndpoint other hname
    obtain ⟨old, hold, hown, hactive⟩ := hlinked.named nodeEndpoint other
      hname
    simp only [createConnectionWithNode, waitFor, getElem?_updateManager,
      hold]
    by_cases hsame : manager = other
    · exact ⟨{ old with retry := .trying s.sockets.length }, by simp [hsame],
        hown, by simp⟩
    · exact ⟨old, by simp [hsame], hown, hactive⟩
  attempt := by
    intro other old socket hold htrying
    simp only [createConnectionWithNode, waitFor, getElem?_updateManager,
      Option.map_eq_some_iff] at hold
    obtain ⟨before, hbefore, rfl⟩ := hold
    by_cases hsame : manager = other
    · simp only [hsame, if_true, RetryPhase.trying.injEq] at htrying
      subst htrying
      exact ⟨.connect r.nodeEndpoint (.reconnecting manager),
        getElem?_concat_iff.2 (Or.inr ⟨rfl, rfl⟩), by
          simp [NodeSocket.connect, hsame], Or.inl rfl⟩
    · simp only [hsame, if_false, id_eq] at htrying
      obtain ⟨ws, hws, howner, hopen⟩ := hlinked.attempt other before socket
        hbefore htrying
      exact ⟨ws, getElem?_concat_iff.2 (Or.inl hws), howner, hopen⟩
  caller := by
    intro socket ws other hws howner hopen
    simp only [createConnectionWithNode, waitFor, getElem?_updateManager]
    rcases getElem?_concat_iff.1 hws with hold | ⟨rfl, rfl⟩
    · obtain ⟨old, hother, htrying, hown⟩ := hlinked.caller socket ws other
        hold howner hopen
      have hne : manager ≠ other := by
        rintro rfl
        rw [hr, Option.some_inj] at hother
        subst hother
        rw [hwaiting] at htrying
        cases htrying
      exact ⟨old, by simp [hne, hother], htrying, hown⟩
    · cases howner
      exact ⟨{ r with retry := .trying s.sockets.length }, by simp [hr], rfl,
        rfl⟩
  progress := by
    intro nodeEndpoint other old socket ws hname hfree hold hactive htrying
      hws
    simp only [createConnectionWithNode, waitFor, getElem?_updateManager,
      Option.map_eq_some_iff] at hold
    obtain ⟨before, hbefore, rfl⟩ := hold
    rcases getElem?_concat_iff.1 hws with hsocket | ⟨_, rfl⟩
    · by_cases hsame : manager = other
      · simp only [hsame, if_true, RetryPhase.trying.injEq] at htrying
        subst htrying
        simp at hsocket
      · simp only [hsame, if_false, id_eq] at htrying hactive
        exact hlinked.progress nodeEndpoint other before socket ws hname hfree
          hbefore hactive htrying hsocket
    · simp [NodeSocket.connect]

/-- A call of no manager waits for a new websocket. -/
theorem connectOther (hlinked : Linked none stuck s)
    (nodeEndpoint : NodeEndpoint) {caller : ConnectionCaller}
    (hcaller : ∀ manager, caller ≠ .reconnecting manager) :
    Linked none stuck { s with
      sockets := s.sockets ++ [.connect nodeEndpoint caller] } where
  named := hlinked.named
  attempt := by
    intro manager r socket hr htrying
    obtain ⟨ws, hws, howner, hopen⟩ := hlinked.attempt manager r socket hr
      htrying
    exact ⟨ws, getElem?_concat_iff.2 (Or.inl hws), howner, hopen⟩
  caller := by
    intro socket ws manager hws howner hopen
    rcases getElem?_concat_iff.1 hws with hold | ⟨_, rfl⟩
    · exact hlinked.caller socket ws manager hold howner hopen
    · exact absurd howner (hcaller manager)
  progress := by
    intro other manager r socket ws hname hfree hr hactive htrying hws
    rcases getElem?_concat_iff.1 hws with hold | ⟨_, rfl⟩
    · exact hlinked.progress other manager r socket ws hname hfree hr hactive
        htrying hold
    · simp [NodeSocket.connect]

theorem cancelNodeReconnecting (hlinked : Linked hole stuck s)
    (nodeEndpoint : NodeEndpoint) (isSuccess : Bool) :
    Linked hole stuck (s.cancelNodeReconnecting nodeEndpoint isSuccess) := by
  have hcanceled : Linked hole stuck (s.cancelManager nodeEndpoint) := by
    rw [cancelManager]
    split
    · exact hlinked.cancel _
    · exact hlinked
  cases isSuccess with
  | true => exact hlinked.erase nodeEndpoint
  | false => exact hcanceled.erase nodeEndpoint

theorem startNodeReconnecting (hlinked : Linked hole stuck s)
    (nodeEndpoint : NodeEndpoint) (skip : Bool) :
    Linked hole stuck (s.startNodeReconnecting nodeEndpoint skip) := by
  rw [ClusterManager.startNodeReconnecting]
  split
  · exact hlinked
  · exact (hlinked.cancelNodeReconnecting nodeEndpoint false).start
      nodeEndpoint

theorem deleteClusterConnection (hlinked : Linked hole stuck s)
    (nodeEndpoint : NodeEndpoint) :
    Linked hole stuck (s.deleteClusterConnection nodeEndpoint) := by
  rw [ClusterManager.deleteClusterConnection]
  split
  · exact (hlinked.connections _).updateSocket _ (by simp) (by simp)
      (by simp) (by simp)
  · exact hlinked

theorem onCloseNode (hlinked : Linked hole stuck s)
    (nodeEndpoint : NodeEndpoint) (code : Nat) (reason : String) :
    Linked hole stuck (s.onCloseNode nodeEndpoint code reason) := by
  rw [ClusterManager.onCloseNode]
  split
  · exact hlinked
  · exact (hlinked.deleteClusterConnection nodeEndpoint
      ).startNodeReconnecting nodeEndpoint true

/-- The caller of a call that is over learns of its failure. -/
theorem callFailed (hlinked : Linked hole stuck s)
    {nodeEndpoint : NodeEndpoint} {caller : ConnectionCaller}
    (hover : CallOver hole nodeEndpoint caller s) :
    Linked none stuck (s.callFailed nodeEndpoint caller) := by
  cases caller with
  | syncing =>
      exact (hlinked.noHole hover (by simp)).startNodeReconnecting
        nodeEndpoint false
  | delivering => exact hlinked.noHole hover (by simp)
  | receiving => exact hlinked.noHole hover (by simp)
  | reconnecting manager =>
      apply hlinked.leaveTry manager hover
      all_goals
        intro r
        rw [ReconnectManager.tryFailed]
        split <;> simp [ReconnectManager.cancel]

/-- The caller of a call that is over gets its websocket. -/
theorem callSucceeded (hlinked : Linked hole stuck s)
    {nodeEndpoint : NodeEndpoint} {caller : ConnectionCaller}
    (hover : CallOver hole nodeEndpoint caller s) :
    Linked none stuck (s.callSucceeded nodeEndpoint caller) := by
  cases caller with
  | syncing => exact hlinked.noHole hover (by simp)
  | delivering => exact hlinked.noHole hover (by simp)
  | receiving => exact hlinked.noHole hover (by simp)
  | reconnecting manager =>
      -- The manager leaves the map before its queue is marked as ended.
      apply (hlinked.erase nodeEndpoint).leaveTry manager
        (hover.erase nodeEndpoint)
      · simp
      · simp
      · intro r other hr hname
        rw [OrderedMap.get?_erase] at hname
        split at hname
        · cases hname
        · next hne => exact absurd (hover.named manager other rfl hname) hne

/-- Settling an open websocket ends the call it was made for. -/
theorem callOver (hlinked : Linked none stuck s) {socket : Nat}
    {ws : NodeSocket} (hws : s.sockets[socket]? = some ws)
    (hopen : ws.isSettled = false) {f : NodeSocket → NodeSocket}
    (hcaller : ∀ ws, (f ws).caller = ws.caller)
    (hsettled : ∀ ws, (f ws).isSettled = true) :
    CallOver (some socket) ws.nodeEndpoint ws.caller
      (s.updateSocket socket f) where
  quiet := by
    intro other old manager hold howner hmanager
    rw [getElem?_updateSocket, Option.map_eq_some_iff] at hold
    obtain ⟨before, hbefore, rfl⟩ := hold
    by_cases hsame : socket = other
    · simp [hsame, hsettled]
    · simp only [hsame, if_false, id_eq] at howner ⊢
      -- Two open websockets of one manager would both be its current try.
      by_contra hother
      obtain ⟨r, hr, htrying, _⟩ := hlinked.caller socket ws manager hws
        hmanager hopen
      obtain ⟨r', hr', htrying', _⟩ := hlinked.caller other before manager
        hbefore howner (by simpa using hother)
      rw [hr, Option.some_inj] at hr'
      subst hr'
      rw [htrying, RetryPhase.trying.injEq] at htrying'
      exact hsame htrying'
  own := by
    intro other old hthis hold
    cases hthis
    rw [getElem?_updateSocket, hws] at hold
    simp only [if_true, Option.map_some, Option.some_inj] at hold
    rw [← hold, hcaller]
  named := by
    intro manager other hmanager hname
    obtain ⟨r, hr, _, hown⟩ := hlinked.caller socket ws manager hws hmanager
      hopen
    obtain ⟨r', hr', hother, _⟩ := hlinked.named other manager hname
    rw [hr, Option.some_inj] at hr'
    rw [← hother, ← hr', hown]

theorem finishConnection (hlinked : Linked hole stuck s) (socket : Nat)
    {nodeEndpoint : NodeEndpoint} {caller : ConnectionCaller}
    (hover : CallOver hole nodeEndpoint caller s) :
    Linked none stuck (s.finishConnection socket nodeEndpoint caller) := by
  have hcanceled := hlinked.cancelNodeReconnecting nodeEndpoint false
  have hcanceledOver := hover.cancelNodeReconnecting nodeEndpoint false
  have hinvalid : isValidStatusCode duplicateCloseWsCode = false := by decide
  simp only [ClusterManager.finishConnection, NodeSocket.discard, hinvalid,
    Bool.false_eq_true, if_false]
  split
  · apply (hcanceled.updateSocket socket _ _ _ _).callFailed
      (hcanceledOver.updateSocket socket _ _)
    all_goals simp
  · exact (hcanceled.connections _).callSucceeded
      ⟨hcanceledOver.quiet, hcanceledOver.own, hcanceledOver.named⟩

/-- A call of no manager, up to its first pause. -/
theorem createOrRetrieve (hlinked : Linked none stuck s)
    (config : ClusterConfig) (nodeEndpoint : NodeEndpoint) (throws : Bool)
    {caller : ConnectionCaller}
    (hcaller : ∀ manager, caller ≠ .reconnecting manager) :
    Linked none stuck (s.createOrRetrieveConnectionWithNode config
      nodeEndpoint throws caller) := by
  have hover : CallOver none nodeEndpoint caller s :=
    ⟨fun _ _ manager _ _ howner => absurd howner (hcaller manager),
      fun _ _ hthis => (by cases hthis),
      fun manager _ howner => absurd howner (hcaller manager)⟩
  rw [createOrRetrieveConnectionWithNode]
  split
  · exact hlinked.callSucceeded hover
  · split
    · exact hlinked.callFailed hover
    · split
      · have hnew := hlinked.connectOther nodeEndpoint hcaller
        cases caller with
        | reconnecting manager => exact absurd rfl (hcaller manager)
        | _ => exact hnew
      · exact hlinked.callFailed hover

/-- A timer of a queue fires. -/
theorem onTimer (hlinked : Linked none stuck s) (config : ClusterConfig)
    (manager : Nat) : Linked none stuck (s.onTimer config manager) := by
  rw [ClusterManager.onTimer]
  split
  · exact hlinked
  · next r hr =>
      split
      · exact hlinked
      · next hwaiting =>
          rw [ne_eq, not_not] at hwaiting
          have hover : CallOver none r.nodeEndpoint (.reconnecting manager)
              s := by
            refine ⟨?_, fun _ _ hthis => (by cases hthis), ?_⟩
            · intro socket ws other hws howner hother
              cases hother
              by_contra hopen
              obtain ⟨r', hr', htrying, _⟩ := hlinked.caller socket ws manager
                hws howner (by simpa using hopen)
              rw [hr, Option.some_inj] at hr'
              rw [← hr', hwaiting] at htrying
              cases htrying
            · intro other named hother hname
              cases hother
              obtain ⟨r', hr', hown, _⟩ := hlinked.named named manager hname
              rw [hr, Option.some_inj] at hr'
              rw [← hown, hr']
          split
          · next hfinished =>
              apply hlinked.leaveTry manager hover
              · simp
              · simp
              · intro r' other hr' _ hactive
                rw [hr, Option.some_inj] at hr'
                subst hr'
                simp [hfinished] at hactive
          · rw [createOrRetrieveConnectionWithNode]
            split
            · exact hlinked.callSucceeded hover
            · split
              · exact hlinked.callFailed hover
              · split
                · exact hlinked.connect manager hr hwaiting
                · exact hlinked.callFailed hover

end Linked

end ClusterManager

end SamaServer
