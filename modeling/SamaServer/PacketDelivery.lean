/-
Where a packet for a list of users ends up.  The specification is in terms of
the connections of each user, and what the packet manager does is compared
with it part by part.
-/
import Mathlib.Data.List.Flatten
import SamaServer.DestinationSorting

namespace SamaServer

namespace PacketManager

section Lists

universe u v

variable {A : Type u} {B : Type v}

/-- Lists that are each part of another give a rearrangement together only if
they are each the whole. -/
theorem perm_flatMap_iff_of_sublist (items : List A) (part whole : A → List B)
    (hpart : ∀ item ∈ items, (part item).Sublist (whole item)) :
    (items.flatMap part).Perm (items.flatMap whole) ↔
      ∀ item ∈ items, part item = whole item := by
  constructor
  · intro hperm
    have hlength := hperm.length_eq
    clear hperm
    induction items with
    | nil => simp
    | cons first items ih =>
        have hfirst := hpart first List.mem_cons_self
        have hrest : ∀ item ∈ items, (part item).Sublist (whole item) :=
          fun item hitem => hpart item (List.mem_cons_of_mem first hitem)
        have htotal : (items.flatMap part).length ≤
            (items.flatMap whole).length :=
          (List.Sublist.flatMap_right items hrest).length_le
        rw [List.flatMap_cons, List.flatMap_cons, List.length_append,
          List.length_append] at hlength
        have hbound := hfirst.length_le
        intro item hitem
        rcases List.mem_cons.1 hitem with rfl | hitem
        · exact hfirst.eq_of_length (by omega)
        · exact ih hrest (by omega) item hitem
  · intro heq
    rw [List.flatMap_congr heq]

theorem flatMap_filter (items : List A) (keep : A → Bool)
    (parts : A → List B) :
    (items.filter keep).flatMap parts =
      items.flatMap (fun item => if keep item then parts item else []) := by
  induction items with
  | nil => rfl
  | cons first items ih =>
      rw [List.filter_cons, List.flatMap_cons, ← ih]
      split
      · rfl
      · rfl

end Lists

section Spec

variable {Packet Message Push : Type}

/-- The connections of the user on a node that packets are sent to. -/
def userSockets (active : ActiveSessions) (userId : UserId) :
    List Connection :=
  (active.getUserDevices userId).filter
    (fun connection => connection.deviceId ≠ httpDeviceId)

/-- A delivery as it is asked for: from which socket, to which users, what and
how, and the message that the mapper makes of the packet for a recipient. -/
structure Order (Packet Message Push : Type) where
  deployment : Deployment
  endpoint : Endpoint
  sourceOptions : SourceOptions
  destinationUserIds : List UserId
  payloadOptions : PayloadOptions Packet Push
  message : SenderInfo → RecipientInfo → Packet → Message

namespace Order

variable (order : Order Packet Message Push) (cluster : Cluster)

def mapper : PacketMapper Packet Message := fun senderInfo recipientInfo
    packet => [order.message senderInfo recipientInfo packet]

/-- The delivery that the packet manager makes. -/
def delivery : Delivery Packet Message Push :=
  ((deliverToUserOrUsers order.deployment order.endpoint order.mapper
    order.sourceOptions order.destinationUserIds order.payloadOptions).run
      cluster).1

def active : ActiveSessions := cluster.node order.endpoint

def senderInfo : SenderInfo :=
  senderInfoOf order.endpoint order.sourceOptions (order.active cluster)

def senderUserId : Option UserId :=
  order.sourceOptions.socket.bind (order.active cluster).getSessionUserId

/-- The connection of the sending socket itself, which is left out. -/
def isSelf (userId : UserId) (connection : Connection) : Bool :=
  order.payloadOptions.ignoreSelf &&
    order.senderUserId cluster = some userId &&
    (order.senderInfo cluster).deviceId = some connection.deviceId

def sendTo (connection : Connection) : Socket × Message :=
  (connection.socket, order.message (order.senderInfo cluster)
    ⟨connection.socket, (order.active cluster).getSession connection.socket,
      connection.deviceId⟩ order.payloadOptions.packet)

/-- The connections on this node that a destination user is due a send on. -/
def dueSockets (userId : UserId) : List Connection :=
  (userSockets (order.active cluster) userId).filter
    (fun connection => !order.isSelf cluster userId connection)

def expectedSends (userId : UserId) : List (Socket × Message) :=
  (order.dueSockets cluster userId).map (order.sendTo cluster)

/-- The user has a connection other than one of an HTTP request.  A node that
runs alone knows of no other node. -/
def Registered (userId : UserId) : Prop :=
  ∃ node, (order.deployment.isStandAloneNode = true →
      node = order.endpoint) ∧
    userSockets (cluster.node node) userId ≠ []

/-- The specification of a delivery. -/
structure Partitioned : Prop where
  saved_nodup : (order.delivery cluster).savedPackets.Nodup
  saved : ∀ userId packet,
    (userId, packet) ∈ (order.delivery cluster).savedPackets ↔
      userId ∈ order.destinationUserIds ∧
      packet = order.payloadOptions.packet ∧
      ¬ order.Registered cluster userId ∧
      order.payloadOptions.notSaveInOfflineStorage = false
  pushed : ∀ push, order.payloadOptions.pushQueueMessage = some push →
    ∀ userId ∈ order.destinationUserIds, ¬ order.Registered cluster userId →
    ∃ recipientIds, (order.delivery cluster).createdPush =
      some (push, recipientIds) ∧ userId ∈ recipientIds
  sent : (order.delivery cluster).socketSends.Perm
    (order.destinationUserIds.flatMap (order.expectedSends cluster))
  forwarded_nodup : ((order.delivery cluster).clusterPackets.map
    (fun entry => (entry.1, entry.2.userId))).Nodup
  forwarded : ∀ node ≠ order.endpoint, ∀ userId ∈ order.destinationUserIds,
    order.deployment.isStandAloneNode = false →
    userSockets (cluster.node node) userId ≠ [] →
    (node, ⟨userId, order.payloadOptions.packet,
      order.senderInfo cluster⟩) ∈ (order.delivery cluster).clusterPackets
  forwarded_only : ∀ node packet,
    (node, packet) ∈ (order.delivery cluster).clusterPackets →
      node ≠ order.endpoint ∧ packet.userId ∈ order.destinationUserIds ∧
      (cluster.node node).getUserDevices packet.userId ≠ []

section Outcome

/-- The connections of the users as the loop sees them. -/
def userData (userId : UserId) : OrderedMap DeviceId ExtraParams :=
  userDataOf order.deployment order.endpoint
    order.sourceOptions.organizationId cluster userId

/-- Where the loop leaves the destination users. -/
def sorted : Destinations :=
  sortAll order.deployment order.endpoint
    order.payloadOptions.notSaveInOfflineStorage (order.userData cluster)
    order.destinationUserIds .none

theorem delivery_eq :
    order.delivery cluster = handOver order.mapper order.payloadOptions
      (order.senderInfo cluster) (order.sorted cluster)
      (order.active cluster) := by
  rw [delivery, run_deliverToUserOrUsers]
  rfl

/-- The user has a connection that names this node. -/
def IsOnThisNode (userId : UserId) : Prop :=
  ∃ node, Names (order.userData cluster userId) node ∧
    IsHere order.deployment order.endpoint node

theorem mem_keys_sorted (userId : UserId) :
    userId ∈ (order.sorted cluster).nodes.1.keys ↔
      userId ∈ order.destinationUserIds ∧
        order.IsOnThisNode cluster userId := by
  rw [sorted, mem_keys_sortAll]
  simp [Destinations.none, OrderedMap.empty, OrderedMap.keys, IsOnThisNode]

theorem forwards_sorted (node : Endpoint) (userId : UserId) :
    Forwards (order.sorted cluster).nodes.2 node userId ↔
      userId ∈ order.destinationUserIds ∧
        Names (order.userData cluster userId) node ∧
        ¬ IsHere order.deployment order.endpoint node := by
  rw [sorted, forwards_sortAll]
  simp [Destinations.none, Forwards]

theorem mem_savedPackets (userId : UserId) (packet : Packet) :
    (userId, packet) ∈ (order.delivery cluster).savedPackets ↔
      userId ∈ order.destinationUserIds ∧
      packet = order.payloadOptions.packet ∧
      isOffline (order.userData cluster userId) = true ∧
      order.payloadOptions.notSaveInOfflineStorage = false := by
  rw [delivery_eq]
  simp only [handOver, sorted, savedUserIds_sortAll, Destinations.none,
    List.nil_append, List.mem_map, List.mem_filter, Bool.and_eq_true,
    Bool.not_eq_true', Prod.mk.injEq]
  constructor
  · rintro ⟨found, ⟨hmem, hoffline, hsave⟩, rfl, rfl⟩
    exact ⟨hmem, rfl, hoffline, hsave⟩
  · rintro ⟨hmem, rfl, hoffline, hsave⟩
    exact ⟨userId, ⟨hmem, hoffline, hsave⟩, rfl, rfl⟩

theorem savedPackets_nodup (hdistinct : order.destinationUserIds.Nodup) :
    (order.delivery cluster).savedPackets.Nodup := by
  rw [delivery_eq]
  simp only [handOver, sorted, savedUserIds_sortAll, Destinations.none,
    List.nil_append]
  apply List.Nodup.map
  · intro left right heq
    exact (Prod.mk.inj heq).1
  · exact hdistinct.filter _

/-- The push goes to the users without a connection and to the inactive
ones. -/
theorem mem_createdPush {push : Push}
    (hpush : order.payloadOptions.pushQueueMessage = some push)
    {userId : UserId} (hmem : userId ∈ order.destinationUserIds) :
    (∃ recipientIds, (order.delivery cluster).createdPush =
        some (push, recipientIds) ∧ userId ∈ recipientIds) ↔
      isOffline (order.userData cluster userId) = true ∨
        isInactive (order.userData cluster userId) = true := by
  rw [delivery_eq]
  simp only [handOver, sorted, offlineUsersIds_sortAll, Destinations.none,
    List.nil_append, hpush]
  rw [← Bool.or_eq_true]
  split
  · next hempty =>
      constructor
      · rintro ⟨_, heq, _⟩
        cases heq
      · intro hlisted
        rw [List.isEmpty_iff, List.filter_eq_nil_iff] at hempty
        exact absurd hlisted (hempty userId hmem)
  · constructor
    · rintro ⟨recipientIds, heq, hrecipient⟩
      cases heq
      exact (List.mem_filter.1 hrecipient).2
    · intro hlisted
      exact ⟨_, rfl, List.mem_filter.2 ⟨hmem, hlisted⟩⟩

theorem mem_clusterPackets (node : Endpoint)
    (packet : ClusterPacket Packet) :
    (node, packet) ∈ (order.delivery cluster).clusterPackets ↔
      Forwards (order.sorted cluster).nodes.2 node packet.userId ∧
        packet = ⟨packet.userId, order.payloadOptions.packet,
          order.senderInfo cluster⟩ := by
  rw [delivery_eq]
  simp only [handOver, List.mem_flatMap, mem_propertyOrder, List.mem_map,
    Prod.mk.injEq, Forwards]
  constructor
  · rintro ⟨⟨found, users⟩, hentry, userId, huser, rfl, rfl⟩
    rw [OrderedMap.mem_entries_iff] at hentry
    exact ⟨⟨users, hentry, huser⟩, rfl⟩
  · rintro ⟨⟨users, hentry, huser⟩, hpacket⟩
    refine ⟨(node, users), ?_, packet.userId, huser, rfl, hpacket.symm⟩
    exact (OrderedMap.mem_entries_iff _ _ _).2 hentry

theorem clusterPackets_nodup :
    ((order.delivery cluster).clusterPackets.map
      (fun entry => (entry.1, entry.2.userId))).Nodup := by
  rw [delivery_eq]
  simp only [handOver, List.map_flatMap, List.map_map]
  rw [List.nodup_flatMap]
  constructor
  · rintro ⟨node, users⟩ _
    apply List.Nodup.map
    · intro left right heq
      exact (Prod.mk.inj heq).2
    · exact (propertyOrder_perm _ _).nodup_iff.2 users.keys_nodup
  · have hnodes := ((propertyOrder_perm (fun entry => entry.1.value)
      (order.sorted cluster).nodes.2.entries).map Prod.fst).nodup_iff.2
        (order.sorted cluster).nodes.2.keys_nodup
    apply (List.pairwise_map.1 hnodes).imp
    rintro ⟨left, _⟩ ⟨right, _⟩ hne entry hleft hright
    obtain ⟨_, _, rfl⟩ := List.mem_map.1 hleft
    obtain ⟨_, _, heq⟩ := List.mem_map.1 hright
    exact hne (Prod.mk.inj heq).1.symm

/-- The device that the sends on this node leave out. -/
def exceptDeviceId : Option DeviceId :=
  if order.payloadOptions.ignoreSelf then (order.senderInfo cluster).deviceId
  else none

/-- The connections that a user gets a send on once the loop has put it on
this node. -/
def servedSockets (userId : UserId) : List Connection :=
  (userSockets (order.active cluster) userId).filter (fun connection =>
    some connection.deviceId ≠ order.exceptDeviceId cluster)

def actualSends (userId : UserId) : List (Socket × Message) :=
  (order.servedSockets cluster userId).map (order.sendTo cluster)

/-- A user is sent to on this node if the loop has put it there. -/
theorem socketSends_perm (hdistinct : order.destinationUserIds.Nodup) :
    (order.delivery cluster).socketSends.Perm
      (order.destinationUserIds.flatMap (fun userId =>
        if userId ∈ (order.sorted cluster).nodes.1.keys then
          order.actualSends cluster userId
        else [])) := by
  have hsends : (order.delivery cluster).socketSends =
      (propertyOrder Identifier.value
        (order.sorted cluster).nodes.1.keys).flatMap
        (order.actualSends cluster) := by
    rw [delivery_eq]
    simp only [handOver, deliverToUserOnThisNode, mapper, List.map_singleton]
    apply List.flatMap_congr
    intro userId _
    rw [actualSends, List.map_eq_flatMap]
    rfl
  have hkeys : (propertyOrder Identifier.value
      (order.sorted cluster).nodes.1.keys).Perm
      (order.destinationUserIds.filter
        (fun userId => userId ∈ (order.sorted cluster).nodes.1.keys)) := by
    apply (propertyOrder_perm _ _).trans
    apply (List.perm_ext_iff_of_nodup
      (order.sorted cluster).nodes.1.keys_nodup (hdistinct.filter _)).2
    intro userId
    rw [List.mem_filter, decide_eq_true_iff]
    constructor
    · intro hkey
      exact ⟨((order.mem_keys_sorted cluster userId).1 hkey).1, hkey⟩
    · exact And.right
  rw [hsends]
  apply (hkeys.flatMap_right _).trans
  rw [flatMap_filter]
  simp only [decide_eq_true_eq]
  exact List.Perm.refl _

/-- Another user has on this node a device with the id of the sender's. -/
def Collides (userId : UserId) : Prop :=
  order.senderUserId cluster ≠ some userId ∧
    ∃ connection ∈ userSockets (order.active cluster) userId,
      order.exceptDeviceId cluster = some connection.deviceId

instance (userId : UserId) : Decidable (order.Collides cluster userId) :=
  inferInstanceAs (Decidable (_ ∧ ∃ connection ∈ userSockets
    (order.active cluster) userId,
      order.exceptDeviceId cluster = some connection.deviceId))

theorem exceptDeviceId_of_isSelf {userId : UserId} {connection : Connection}
    (hself : order.isSelf cluster userId connection = true) :
    order.exceptDeviceId cluster = some connection.deviceId ∧
      order.senderUserId cluster = some userId := by
  simp only [isSelf, Bool.and_eq_true, decide_eq_true_eq] at hself
  obtain ⟨⟨hignore, huser⟩, hdevice⟩ := hself
  exact ⟨by rw [exceptDeviceId, if_pos hignore, hdevice], huser⟩

theorem isSelf_of_exceptDeviceId {userId : UserId} {connection : Connection}
    (hdevice : order.exceptDeviceId cluster = some connection.deviceId)
    (huser : order.senderUserId cluster = some userId) :
    order.isSelf cluster userId connection = true := by
  unfold exceptDeviceId at hdevice
  split at hdevice
  · next hignore => simp [isSelf, hignore, huser, hdevice]
  · cases hdevice

theorem servedSockets_sublist (userId : UserId) :
    (order.servedSockets cluster userId).Sublist
      (order.dueSockets cluster userId) := by
  apply List.monotone_filter_right
  intro connection hother
  rw [Bool.not_eq_true']
  by_contra hself
  rw [Bool.not_eq_false] at hself
  rw [decide_eq_true_iff] at hother
  exact hother (order.exceptDeviceId_of_isSelf cluster hself).1.symm

theorem actualSends_sublist (userId : UserId) :
    (order.actualSends cluster userId).Sublist
      (order.expectedSends cluster userId) :=
  (order.servedSockets_sublist cluster userId).map _

/-- On this node a user gets what it is due unless its devices collide with
the sender's. -/
theorem actualSends_eq_iff (userId : UserId) :
    order.actualSends cluster userId = order.expectedSends cluster userId ↔
      ¬ order.Collides cluster userId := by
  constructor
  · rintro heq ⟨huser, connection, hmem, hdevice⟩
    have hlength := congrArg List.length heq
    rw [actualSends, expectedSends, List.length_map, List.length_map]
      at hlength
    have hsame := (order.servedSockets_sublist cluster userId).eq_of_length
      hlength
    have hdue : connection ∈ order.dueSockets cluster userId := by
      apply List.mem_filter.2
      refine ⟨hmem, ?_⟩
      rw [Bool.not_eq_true']
      by_contra hself
      rw [Bool.not_eq_false] at hself
      exact huser (order.exceptDeviceId_of_isSelf cluster hself).2
    rw [← hsame] at hdue
    have hserved := (List.mem_filter.1 hdue).2
    rw [decide_eq_true_iff] at hserved
    exact hserved hdevice.symm
  · intro hcollides
    unfold actualSends expectedSends servedSockets dueSockets
    congr 1
    apply List.filter_congr
    intro connection hmem
    by_cases hdevice : order.exceptDeviceId cluster = some connection.deviceId
    · have huser : order.senderUserId cluster = some userId := by
        by_contra hne
        exact hcollides ⟨hne, connection, hmem, hdevice⟩
      simp [order.isSelf_of_exceptDeviceId cluster hdevice huser, hdevice]
    · have hself : order.isSelf cluster userId connection = false := by
        by_contra hself
        rw [Bool.not_eq_false] at hself
        exact hdevice (order.exceptDeviceId_of_isSelf cluster hself).1
      rw [hself]
      simp [Ne.symm hdevice]

/-- The sends are right if and only if every destination user is on this node
with no colliding device, or not there and due nothing. -/
theorem sent_iff (hdistinct : order.destinationUserIds.Nodup) :
    (order.delivery cluster).socketSends.Perm
        (order.destinationUserIds.flatMap (order.expectedSends cluster)) ↔
      ∀ userId ∈ order.destinationUserIds,
        (order.IsOnThisNode cluster userId →
          ¬ order.Collides cluster userId) ∧
        (¬ order.IsOnThisNode cluster userId →
          order.dueSockets cluster userId = []) := by
  have hperm := order.socketSends_perm cluster hdistinct
  have hswap : (order.delivery cluster).socketSends.Perm
      (order.destinationUserIds.flatMap (order.expectedSends cluster)) ↔
      (order.destinationUserIds.flatMap (fun userId =>
        if userId ∈ (order.sorted cluster).nodes.1.keys then
          order.actualSends cluster userId
        else [])).Perm
      (order.destinationUserIds.flatMap (order.expectedSends cluster)) :=
    ⟨hperm.symm.trans, hperm.trans⟩
  rw [hswap, perm_flatMap_iff_of_sublist]
  · apply forall₂_congr
    intro userId hmem
    have hkey := order.mem_keys_sorted cluster userId
    by_cases hhere : order.IsOnThisNode cluster userId
    · rw [if_pos (hkey.2 ⟨hmem, hhere⟩), actualSends_eq_iff]
      simp [hhere]
    · rw [if_neg (fun hin => hhere (hkey.1 hin).2)]
      rw [eq_comm, expectedSends, List.map_eq_nil_iff]
      simp [hhere]
  · intro userId _
    split
    · exact order.actualSends_sublist cluster userId
    · exact List.nil_sublist _

/-- What the loop must know of each destination user for the delivery to be as
specified. -/
structure WellSorted (userId : UserId) : Prop where
  offline : order.payloadOptions.notSaveInOfflineStorage = false →
    (isOffline (order.userData cluster userId) = true ↔
      ¬ order.Registered cluster userId)
  pushed : ∀ push, order.payloadOptions.pushQueueMessage = some push →
    ¬ order.Registered cluster userId →
    isOffline (order.userData cluster userId) = true ∨
      isInactive (order.userData cluster userId) = true
  onThisNode : order.IsOnThisNode cluster userId →
    ¬ order.Collides cluster userId
  notOnThisNode : ¬ order.IsOnThisNode cluster userId →
    order.dueSockets cluster userId = []
  forwarded : ∀ node ≠ order.endpoint,
    order.deployment.isStandAloneNode = false →
    userSockets (cluster.node node) userId ≠ [] →
    Names (order.userData cluster userId) node
  forwarded_only : ∀ node, Names (order.userData cluster userId) node →
    ¬ IsHere order.deployment order.endpoint node →
    (cluster.node node).getUserDevices userId ≠ []

theorem not_isHere_iff (node : Endpoint) :
    ¬ IsHere order.deployment order.endpoint node ↔
      node ≠ order.endpoint ∧ order.deployment.isStandAloneNode = false := by
  simp [IsHere]

/-- The specification, user by user. -/
theorem partitioned_iff (hdistinct : order.destinationUserIds.Nodup) :
    order.Partitioned cluster ↔ ∀ userId ∈ order.destinationUserIds,
      order.WellSorted cluster userId := by
  constructor
  · intro hpartitioned userId hmem
    have hsent := (order.sent_iff cluster hdistinct).1 hpartitioned.sent
      userId hmem
    constructor
    · intro hsave
      have hlisted := hpartitioned.saved userId order.payloadOptions.packet
      rw [mem_savedPackets] at hlisted
      simpa [hmem, hsave] using hlisted
    · intro push hpush hnot
      exact (order.mem_createdPush cluster hpush hmem).1
        (hpartitioned.pushed push hpush userId hmem hnot)
    · exact hsent.1
    · exact hsent.2
    · intro node hnode hcluster hsockets
      have hpacket := hpartitioned.forwarded node hnode userId hmem hcluster
        hsockets
      rw [mem_clusterPackets, forwards_sorted] at hpacket
      exact hpacket.1.2.1
    · intro node hnames hother
      have hpacket : (node, ⟨userId, order.payloadOptions.packet,
          order.senderInfo cluster⟩) ∈
            (order.delivery cluster).clusterPackets := by
        rw [mem_clusterPackets, forwards_sorted]
        exact ⟨⟨hmem, hnames, hother⟩, rfl⟩
      exact (hpartitioned.forwarded_only node _ hpacket).2.2
  · intro hsorted
    constructor
    · exact order.savedPackets_nodup cluster hdistinct
    · intro userId packet
      rw [mem_savedPackets]
      refine and_congr_right (fun hmem => and_congr_right (fun _ =>
        and_congr_left (fun hsave => ?_)))
      exact (hsorted userId hmem).offline hsave
    · intro push hpush userId hmem hnot
      exact (order.mem_createdPush cluster hpush hmem).2
        ((hsorted userId hmem).pushed push hpush hnot)
    · apply (order.sent_iff cluster hdistinct).2
      intro userId hmem
      exact ⟨(hsorted userId hmem).onThisNode,
        (hsorted userId hmem).notOnThisNode⟩
    · exact order.clusterPackets_nodup cluster
    · intro node hnode userId hmem hcluster hsockets
      rw [mem_clusterPackets, forwards_sorted, not_isHere_iff]
      exact ⟨⟨hmem, (hsorted userId hmem).forwarded node hnode hcluster
        hsockets, hnode, hcluster⟩, rfl⟩
    · intro node packet hpacket
      rw [mem_clusterPackets, forwards_sorted] at hpacket
      obtain ⟨⟨hmem, hnames, hother⟩, _⟩ := hpacket
      exact ⟨((order.not_isHere_iff node).1 hother).1, hmem,
        (hsorted packet.userId hmem).forwarded_only node hnames hother⟩

end Outcome

end Order

end Spec

end PacketManager

end SamaServer
