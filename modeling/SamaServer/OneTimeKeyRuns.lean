/-
Runs of requests for keys: what one query of a request does to the devices
that the others hold, and what was given out in the end.
-/
import SamaServer.OneTimeKeys

namespace SamaServer

namespace KeyService

variable {queue : List PreKeyValue} {id : ObjectId} {s t : KeyService}

/-! ### One query -/

/-- What identifies a device in the queries of a request. -/
def faces (table : DeviceTable) : List (ObjectId × String) :=
  table.devices.map (fun device => (device.id, device.params.identityKey))

/-- What holds in all states of a run from `initial` in which all queries
come at a good time. -/
structure Orderly (initial s : KeyService) : Prop where
  faces_eq : faces s.table = faces initial.table
  handed : ∀ device ∈ initial.table.devices,
    Handed device.params.oneTimePreKeys.prekeys device.id s
  upToDate : s.UpToDate
  listed : ∀ request ∈ s.requests, ∀ deviceList,
    request.phase = .finding deviceList →
    ∀ device ∈ deviceList,
      (device.id, device.params.identityKey) ∈ faces initial.table
  notFailed : ∀ request ∈ s.requests, request.phase ≠ .failed

section Requests

variable {front back : List KeyRequest} {request next : KeyRequest}

theorem exists_split {index : Nat}
    (hfound : s.requests[index]? = some request) :
    ∃ front back, s.requests = front ++ request :: back ∧
      ∀ next, s.requests.set index next = front ++ next :: back := by
  obtain ⟨hindex, hget⟩ := List.getElem?_eq_some_iff.1 hfound
  refine ⟨s.requests.take index, s.requests.drop (index + 1), ?_, ?_⟩
  · rw [← hget, List.getElem_cons_drop, List.take_append_drop]
  · intro next
    rw [List.set_eq_take_append_cons_drop, if_pos hindex]

theorem given_split (id : ObjectId)
    (hrequests : s.requests = front ++ request :: back) :
    s.given id = front.filterMap (KeyRequest.given id) ++
      ((request.given id).toList ++
        back.filterMap (KeyRequest.given id)) := by
  rw [KeyService.given, hrequests, List.filterMap_append,
    List.filterMap_cons]
  cases request.given id with
  | none => rfl
  | some value => rfl

theorem holders_split (id : ObjectId)
    (hrequests : s.requests = front ++ request :: back) :
    s.holders id = front.countP (KeyRequest.holds id) +
      (back.countP (KeyRequest.holds id) +
        if request.holds id then 1 else 0) := by
  rw [holders, hrequests, List.countP_append, List.countP_cons]

end Requests

end KeyService

namespace KeyRequest

variable {organizationId : ObjectId} {userIds : List ObjectId}

@[simp] theorem given_loop (id : ObjectId)
    (deviceList remaining : List EncryptedDevice) :
    given id ⟨organizationId, userIds, .loop deviceList remaining⟩ =
      given id ⟨organizationId, userIds, .finding deviceList⟩ := by
  cases remaining with
  | nil => rfl
  | cons device remaining => rfl

@[simp] theorem holds_loop (id : ObjectId)
    (deviceList remaining : List EncryptedDevice) :
    holds id ⟨organizationId, userIds, .loop deviceList remaining⟩ =
      remaining.any (fun device => device.id = id) := by
  cases remaining with
  | nil => rfl
  | cons device remaining => rfl

end KeyRequest

namespace KeyService

theorem loop_eq_removing {deviceList remaining l r : List EncryptedDevice}
    (hloop : KeyPhase.loop deviceList remaining = .removing l r) :
    l = deviceList ∧ r = remaining := by
  cases remaining with
  | nil => cases hloop
  | cons device remaining =>
      cases hloop
      exact ⟨rfl, rfl⟩

theorem loop_ne_finding {deviceList remaining l : List EncryptedDevice} :
    KeyPhase.loop deviceList remaining ≠ .finding l := by
  cases remaining with
  | nil => simp [KeyPhase.loop]
  | cons device remaining => simp [KeyPhase.loop]

theorem loop_ne_failed {deviceList remaining : List EncryptedDevice} :
    KeyPhase.loop deviceList remaining ≠ .failed := by
  cases remaining with
  | nil => simp [KeyPhase.loop]
  | cons device remaining => simp [KeyPhase.loop]

section Steps

variable {initial s : KeyService} {front back : List KeyRequest}
  {organizationId : ObjectId} {userIds : List ObjectId}
  {phase next : KeyPhase}

theorem mem_replaced {new request : KeyRequest}
    (hrequest : request ∈ front ++ new :: back) :
    request = new ∨ request ∈ front ++ back := by
  rcases List.mem_append.1 hrequest with hfront | hback
  · exact Or.inr (List.mem_append_left _ hfront)
  · rcases List.mem_cons.1 hback with hnew | hback
    · exact Or.inl hnew
    · exact Or.inr (List.mem_append_right _ hback)

theorem mem_of_mem_elsewhere {old request : KeyRequest}
    (hrequest : request ∈ front ++ back) :
    request ∈ front ++ old :: back := by
  rcases List.mem_append.1 hrequest with hfront | hback
  · exact List.mem_append_left _ hfront
  · exact List.mem_append_right _ (List.mem_cons_of_mem _ hback)

theorem forall_replaced {P : KeyRequest → Prop} {old new : KeyRequest}
    (hall : ∀ request ∈ front ++ old :: back, P request) (hnew : P new) :
    ∀ request ∈ front ++ new :: back, P request := by
  intro request hrequest
  rcases mem_replaced hrequest with rfl | helsewhere
  · exact hnew
  · exact hall request (mem_of_mem_elsewhere helsewhere)

/-- A query that leaves the devices as they are. -/
theorem Orderly.replaced (hs : Orderly initial s)
    (hrequests : s.requests =
      front ++ ⟨organizationId, userIds, phase⟩ :: back)
    (hhanded : ∀ device ∈ initial.table.devices,
      Handed device.params.oneTimePreKeys.prekeys device.id
        { s with requests :=
          front ++ ⟨organizationId, userIds, next⟩ :: back })
    (hremaining : ∀ deviceList remaining,
      next = .removing deviceList remaining →
      (remaining.map EncryptedDevice.id).Nodup ∧
        ∀ device ∈ remaining, device ∈ s.table.devices)
    (hlisted : ∀ deviceList, next = .finding deviceList →
      ∀ device ∈ deviceList,
        (device.id, device.params.identityKey) ∈ faces initial.table)
    (hnotFailed : next ≠ .failed) :
    Orderly initial { s with requests :=
      front ++ ⟨organizationId, userIds, next⟩ :: back } where
  faces_eq := hs.faces_eq
  handed := hhanded
  upToDate := by
    have hbefore := hs.upToDate
    rw [UpToDate, hrequests] at hbefore
    exact forall_replaced hbefore hremaining
  listed := forall_replaced (hrequests ▸ hs.listed) hlisted
  notFailed := forall_replaced (hrequests ▸ hs.notFailed) hnotFailed

/-- A query that gives nothing out and holds nothing anew. -/
theorem Handed.replaced {queue : List PreKeyValue} {id : ObjectId}
    (hs : Handed queue id s) {old new : KeyRequest}
    (hrequests : s.requests = front ++ old :: back)
    (hgiven : new.given id = old.given id)
    (hholds : new.holds id = old.holds id) :
    Handed queue id { s with requests := front ++ new :: back } := by
  refine hs.same ?_ ?_ (fun _ _ hmem => hmem)
  · rw [given_split id hrequests, given_split id rfl, hgiven]
  · rw [holders_split id hrequests, holders_split id rfl, hholds]

theorem Orderly.checking (hs : Orderly initial s)
    (hrequests : s.requests =
      front ++ ⟨organizationId, userIds, .checking⟩ :: back)
    (existUserIds : List ObjectId) :
    Orderly initial { s with requests :=
      front ++ ⟨organizationId, userIds, .reading existUserIds⟩ ::
        back } := by
  refine hs.replaced hrequests ?_ ?_ ?_ ?_
  · intro device hdevice
    exact (hs.handed device hdevice).replaced hrequests rfl rfl
  · intro _ _ hphase
    cases hphase
  · intro _ hphase
    cases hphase
  · exact fun hphase => by cases hphase

/-- What a request reads of a device that is in the table. -/
theorem given_finding (organizationId : ObjectId)
    (userIds : List ObjectId) (table : DeviceTable)
    (existUserIds : List ObjectId) (id : ObjectId) :
    (KeyRequest.given id ⟨organizationId, userIds,
        .finding (table.getUsersDevices existUserIds)⟩ = none ∧
      KeyRequest.holds id ⟨organizationId, userIds,
        .finding (table.getUsersDevices existUserIds)⟩ = false) ∨
    ∃ device ∈ table.getUsersDevices existUserIds, device.id = id ∧
      KeyRequest.given id ⟨organizationId, userIds,
          .finding (table.getUsersDevices existUserIds)⟩ =
        some device.params.oneTimePreKeys.firstValue ∧
      KeyRequest.holds id ⟨organizationId, userIds,
        .finding (table.getUsersDevices existUserIds)⟩ = true := by
  simp only [KeyRequest.given, KeyRequest.holds, KeyRequest.deviceList?,
    Option.bind_some]
  cases hfound : (table.getUsersDevices existUserIds).find? (fun device =>
      device.id = id) with
  | none =>
      left
      rw [List.find?_eq_none] at hfound
      refine ⟨rfl, ?_⟩
      rw [List.any_eq_false]
      exact hfound
  | some device =>
      right
      have hmem := List.mem_of_find?_eq_some hfound
      have hid := List.find?_some hfound
      exact ⟨device, hmem, by simpa using hid, rfl,
        List.any_eq_true.2 ⟨device, hmem, hid⟩⟩

theorem Orderly.reading (hs : Orderly initial s)
    {existUserIds : List ObjectId}
    (hrequests : s.requests =
      front ++ ⟨organizationId, userIds, .reading existUserIds⟩ :: back)
    (hfree : ∀ device ∈ s.table.getUsersDevices existUserIds,
      s.holders device.id = 0) :
    Orderly initial { s with requests :=
      front ++ ⟨organizationId, userIds,
        .finding (s.table.getUsersDevices existUserIds)⟩ :: back } := by
  refine hs.replaced hrequests ?_ ?_ ?_ ?_
  · intro device hdevice
    have hhanded := hs.handed device hdevice
    rcases given_finding organizationId userIds s.table existUserIds
        device.id with
      ⟨hgiven, hholds⟩ | ⟨read, hread, hid, hgiven, hholds⟩
    · exact hhanded.replaced hrequests hgiven hholds
    · have hnone := hfree read hread
      rw [hid] at hnone
      have hbefore := holders_split device.id hrequests
      refine hhanded.read hnone (s.table.mem_getUsersDevices.1 hread).1 hid
        (given_split device.id hrequests) ?_ ?_ rfl
      · rw [given_split device.id rfl, hgiven]
        rfl
      · rw [holders_split device.id rfl, hholds]
        rw [hnone] at hbefore
        simp only [↓reduceIte]
        omega
  · intro _ _ hphase
    cases hphase
  · intro deviceList hphase device hdevice
    cases hphase
    rw [← hs.faces_eq]
    exact List.mem_map_of_mem (s.table.mem_getUsersDevices.1 hdevice).1
  · exact fun hphase => by cases hphase

/-- The devices that a request has read are those it finds. -/
theorem Orderly.finding (hs : Orderly initial s)
    {deviceList : List EncryptedDevice}
    (hrequests : s.requests =
      front ++ ⟨organizationId, userIds, .finding deviceList⟩ :: back)
    (htimed : s.WellTimedPhase (.finding deviceList)) :
    Orderly initial { s with requests :=
      front ++ ⟨organizationId, userIds, .loop deviceList
        (s.table.findByIdentityKeys (deviceList.map (fun device =>
          device.params.identityKey)))⟩ :: back } := by
  obtain ⟨hlimit, hread⟩ := htimed
  have hall : s.table.findByIdentityKeys (deviceList.map (fun device =>
      device.params.identityKey)) = s.table.devices.filter (fun device =>
        device.params.identityKey ∈ deviceList.map (fun read =>
          read.params.identityKey)) := List.take_of_length_le hlimit
  rw [hall]
  have hown := hs.listed ⟨organizationId, userIds, .finding deviceList⟩
    (by rw [hrequests]; simp) deviceList rfl
  refine hs.replaced hrequests ?_ ?_ ?_ ?_
  · intro device hdevice
    refine (hs.handed device hdevice).replaced hrequests
      (KeyRequest.given_loop _ _ _) ?_
    rw [KeyRequest.holds_loop, Bool.eq_iff_iff, List.any_eq_true]
    simp only [KeyRequest.holds, List.any_eq_true, decide_eq_true_eq]
    constructor
    · rintro ⟨found, hfound, hid⟩
      obtain ⟨read, hmem, hsame⟩ := List.mem_map.1 (hread found hfound)
      exact ⟨read, hmem, hsame.trans hid⟩
    · rintro ⟨read, hmem, hid⟩
      have hface := hown read hmem
      rw [← hs.faces_eq, faces, List.mem_map] at hface
      obtain ⟨stored, hstored, heq⟩ := hface
      rw [Prod.mk.injEq] at heq
      refine ⟨stored, ?_, heq.1.trans hid⟩
      rw [List.mem_filter, heq.2]
      exact ⟨hstored, by simpa using ⟨read, hmem, rfl⟩⟩
  · intro l remaining hphase
    obtain ⟨-, rfl⟩ := loop_eq_removing hphase
    exact ⟨s.table.ids_nodup.sublist (List.filter_sublist.map _),
      fun device hdevice => List.mem_of_mem_filter hdevice⟩
  · intro l hphase
    exact absurd hphase loop_ne_finding
  · exact loop_ne_failed

theorem faces_setKeys (table : DeviceTable) (id : ObjectId)
    (keys : PreKeys) : faces (table.setKeys id keys) = faces table := by
  simp only [faces, DeviceTable.setKeys, List.map_map]
  refine List.map_congr_left (fun device _ => ?_)
  simp only [Function.comp_apply]
  split
  · rfl
  · rfl

/-- The request is the only one that holds the device. -/
theorem Handed.free_elsewhere {queue : List PreKeyValue} {id : ObjectId}
    (hs : Handed queue id s) {request : KeyRequest}
    (hrequests : s.requests = front ++ request :: back)
    (hholds : request.holds id = true) :
    s.holders id = 1 ∧
      ∀ other ∈ front ++ back, other.holds id = false := by
  have hle := hs.holders_le
  rw [holders_split id hrequests, hholds] at hle
  simp only [↓reduceIte] at hle
  have hfront : front.countP (KeyRequest.holds id) = 0 := by omega
  have hback : back.countP (KeyRequest.holds id) = 0 := by omega
  refine ⟨?_, ?_⟩
  · rw [holders_split id hrequests, hholds, hfront, hback]
    rfl
  · intro other hother
    rw [List.countP_eq_zero] at hfront hback
    rcases List.mem_append.1 hother with hmem | hmem
    · simpa using hfront other hmem
    · simpa using hback other hmem

/-- A device of the table was there in the beginning. -/
theorem Orderly.exists_initial (hs : Orderly initial s)
    {device : EncryptedDevice} (hdevice : device ∈ s.table.devices) :
    ∃ first ∈ initial.table.devices, first.id = device.id := by
  have hmem : (device.id, device.params.identityKey) ∈
      faces initial.table := by
    rw [← hs.faces_eq]
    exact List.mem_map_of_mem hdevice
  obtain ⟨first, hfirst, heq⟩ := List.mem_map.1 hmem
  exact ⟨first, hfirst, (Prod.mk.inj heq).1⟩

/-- A request that does not hold a device works on devices that are as they
were when the keys of this device change. -/
theorem Orderly.upToDate_setKeys (hs : Orderly initial s)
    {request : KeyRequest} (hrequest : request ∈ s.requests) {id : ObjectId}
    (hfree : request.holds id = false)
    {deviceList remaining : List EncryptedDevice}
    (hphase : request.phase = .removing deviceList remaining)
    (keys : PreKeys) :
    (remaining.map EncryptedDevice.id).Nodup ∧
      ∀ device ∈ remaining, device ∈ (s.table.setKeys id keys).devices := by
  obtain ⟨hdistinct, hfresh⟩ :=
    hs.upToDate request hrequest deviceList remaining hphase
  refine ⟨hdistinct, fun device hdevice => ?_⟩
  have hne : device.id ≠ id := by
    intro heq
    simp only [KeyRequest.holds, hphase, List.any_eq_false,
      decide_eq_true_eq] at hfree
    exact hfree device hdevice heq
  rw [s.table.mem_setKeys_of_ne hne]
  exact hfresh device hdevice

theorem Orderly.removing (hs : Orderly initial s) (server : UnsetServer)
    {deviceList remaining : List EncryptedDevice} {device : EncryptedDevice}
    (hrequests : s.requests = front ++ ⟨organizationId, userIds,
      .removing deviceList (device :: remaining)⟩ :: back) :
    ∃ keys : PreKeys,
      s.table.unsetFirstKey server device =
        some (s.table.setKeys device.id keys) ∧
      Orderly initial
        { s with
          table := s.table.setKeys device.id keys
          requests := front ++ ⟨organizationId, userIds,
            .loop deviceList remaining⟩ :: back } := by
  obtain ⟨hnodup, hcurrent⟩ := hs.upToDate ⟨organizationId, userIds,
    .removing deviceList (device :: remaining)⟩ (by rw [hrequests]; simp)
    deviceList (device :: remaining) rfl
  have hdevice := hcurrent device List.mem_cons_self
  rw [List.map_cons, List.nodup_cons] at hnodup
  obtain ⟨first, hfirst, hface⟩ := hs.exists_initial hdevice
  have hhanded := hs.handed first hfirst
  rw [hface] at hhanded
  have hholds : KeyRequest.holds device.id ⟨organizationId, userIds,
      .removing deviceList (device :: remaining)⟩ = true := by
    simp [KeyRequest.holds]
  obtain ⟨hone, hothers⟩ := hhanded.free_elsewhere hrequests hholds
  obtain ⟨stored, hstored, hid, hkeys, -⟩ := hhanded.stored
  have hsame : stored = device := s.table.device_unique hstored hdevice hid
  subst hsame
  obtain ⟨keys, hrest, hprekeys, hunset⟩ :=
    s.table.unsetFirstKey_of_mem server hdevice hkeys
  refine ⟨keys, hunset, ?_, ?_, ?_, ?_, ?_⟩
  · rw [faces_setKeys]
    exact hs.faces_eq
  · intro other hother
    by_cases hown : other.id = stored.id
    · have hotherHanded := hs.handed other hother
      rw [hown] at hotherHanded ⊢
      refine hotherHanded.remove hone ?_ ?_ hdevice rfl hrest hprekeys rfl
      · have hbefore := holders_split stored.id hrequests
        rw [hone, hholds] at hbefore
        simp only [↓reduceIte] at hbefore
        have hgone : remaining.any (fun device =>
            device.id = stored.id) = false := by
          rw [List.any_eq_false]
          intro left hleft heq
          rw [decide_eq_true_eq] at heq
          exact hnodup.1 (heq ▸ List.mem_map_of_mem hleft)
        rw [holders_split stored.id rfl, KeyRequest.holds_loop, hgone]
        simp only [Bool.false_eq_true, ↓reduceIte]
        omega
      · rw [given_split stored.id hrequests, given_split stored.id rfl,
          KeyRequest.given_loop]
        rfl
    · refine (hs.handed other hother).same ?_ ?_ ?_
      · rw [given_split other.id hrequests, given_split other.id rfl,
          KeyRequest.given_loop]
        rfl
      · rw [holders_split other.id hrequests, holders_split other.id rfl,
          KeyRequest.holds_loop]
        simp [KeyRequest.holds, Ne.symm hown]
      · intro kept hkept hmem
        rw [s.table.mem_setKeys_of_ne (hkept.trans_ne hown)]
        exact hmem
  · have hmoved : (remaining.map EncryptedDevice.id).Nodup ∧
        ∀ left ∈ remaining,
          left ∈ (s.table.setKeys stored.id keys).devices := by
      refine ⟨hnodup.2, fun left hleft => ?_⟩
      have hne : left.id ≠ stored.id := fun heq =>
        hnodup.1 (heq ▸ List.mem_map_of_mem hleft)
      rw [s.table.mem_setKeys_of_ne hne]
      exact hcurrent left (List.mem_cons_of_mem _ hleft)
    intro other hother l left hphase
    rcases mem_replaced hother with rfl | helsewhere
    · obtain ⟨-, rfl⟩ := loop_eq_removing hphase
      exact hmoved
    · have hold : other ∈ s.requests := by
        rw [hrequests]
        exact mem_of_mem_elsewhere helsewhere
      exact hs.upToDate_setKeys hold (hothers other helsewhere) hphase keys
  · refine forall_replaced (hrequests ▸ hs.listed) ?_
    intro l hphase
    exact absurd hphase loop_ne_finding
  · exact forall_replaced (hrequests ▸ hs.notFailed) loop_ne_failed

/-- The request at rest does nothing more. -/
theorem Orderly.settled (hs : Orderly initial s)
    {deviceList : List EncryptedDevice}
    (hrequests : s.requests =
      front ++ ⟨organizationId, userIds, phase⟩ :: back)
    (hgiven : ∀ id, KeyRequest.given id
        ⟨organizationId, userIds, .returned deviceList⟩ =
      KeyRequest.given id ⟨organizationId, userIds, phase⟩)
    (hholds : ∀ id,
      KeyRequest.holds id ⟨organizationId, userIds, phase⟩ = false) :
    Orderly initial { s with requests := front ++
      ⟨organizationId, userIds, .returned deviceList⟩ :: back } := by
  refine hs.replaced hrequests ?_ ?_ ?_ ?_
  · intro device hdevice
    refine (hs.handed device hdevice).replaced hrequests
      (hgiven device.id) ?_
    rw [hholds]
    rfl
  · intro _ _ hphase
    cases hphase
  · intro _ hphase
    cases hphase
  · exact fun hphase => by cases hphase

theorem forall_requested {P : KeyRequest → Prop} {requests : List KeyRequest}
    {new : KeyRequest} (hall : ∀ request ∈ requests, P request)
    (hnew : P new) : ∀ request ∈ requests ++ [new], P request := by
  intro request hrequest
  rcases List.mem_append.1 hrequest with hold | hlast
  · exact hall request hold
  · rw [List.mem_singleton.1 hlast]
    exact hnew

theorem Orderly.requested (hs : Orderly initial s)
    (organizationId : ObjectId) (userIds : List ObjectId) :
    Orderly initial { s with requests :=
      s.requests ++ [⟨organizationId, userIds, .checking⟩] } where
  faces_eq := hs.faces_eq
  handed device hdevice := by
    refine (hs.handed device hdevice).same ?_ ?_ (fun _ _ hmem => hmem)
    · simp [KeyService.given, KeyRequest.given, KeyRequest.deviceList?]
    · simp [holders, KeyRequest.holds]
  upToDate := forall_requested hs.upToDate
    (fun _ _ hphase => by cases hphase)
  listed := forall_requested hs.listed (fun _ hphase => by cases hphase)
  notFailed := forall_requested hs.notFailed
    (fun hphase => by cases hphase)

theorem Orderly.step (hs : Orderly initial s) (server : UnsetServer)
    {event : Event} (htimed : s.WellTimed event) :
    Orderly initial (s.step server event) := by
  cases event with
  | requested organizationId userIds => exact hs.requested _ _
  | resumed index =>
      rw [KeyService.step]
      cases hfound : s.requests[index]? with
      | none => exact hs
      | some request =>
          have hphase := htimed request hfound
          obtain ⟨front, back, hrequests, hset⟩ := exists_split hfound
          obtain ⟨organizationId, userIds, phase⟩ := request
          simp only [hset]
          cases phase with
          | checking => exact hs.checking hrequests _
          | reading existUserIds => exact hs.reading hrequests hphase
          | finding deviceList => exact hs.finding hrequests hphase
          | removing deviceList remaining =>
              cases remaining with
              | nil => exact hs.settled hrequests (fun _ => rfl) (fun _ => rfl)
              | cons device remaining =>
                  obtain ⟨keys, hunset, horderly⟩ :=
                    hs.removing server hrequests
                  simp only [advance, hunset]
                  exact horderly
          | returned deviceList =>
              exact hs.settled hrequests (fun _ => rfl) (fun _ => rfl)
          | failed =>
              exact absurd rfl (hs.notFailed _ (List.mem_of_getElem? hfound))

theorem orderly_start (hkeys : initial.AllWellKeyed)
    (hrequests : initial.requests = []) : Orderly initial initial where
  faces_eq := rfl
  handed device hdevice := by
    have hgiven : initial.given device.id = [] := by
      simp [KeyService.given, hrequests]
    have hholders : initial.holders device.id = 0 := by
      simp [holders, hrequests]
    refine ⟨by omega, by omega, ⟨device, hdevice, rfl,
      hkeys device hdevice, ?_⟩, ?_⟩
    · rw [hgiven, hholders]
      rfl
    · rw [hgiven]
      exact List.Perm.refl _
  upToDate := by simp [UpToDate, hrequests]
  listed := by simp [hrequests]
  notFailed := by simp [hrequests]

theorem orderly_run (server : UnsetServer) (hs : Orderly initial s)
    (events : List Event) (htimed : WellTimedRun server s events) :
    Orderly initial (s.run server events) := by
  induction events generalizing s with
  | nil => exact hs
  | cons event events ih => exact ih (hs.step server htimed.1) htimed.2

end Steps

/-! ### What was given out -/

theorem count_le_count_present {prekey : PreKeyValue}
    (hprekey : prekey ≠ .null) (values : List (Option PreKeyValue)) :
    values.count (some prekey) ≤
      (values.filterMap PreKeys.present).count prekey := by
  induction values with
  | nil => simp
  | cons value values ih =>
      rw [List.count_cons, List.filterMap_cons]
      by_cases hvalue : value = some prekey
      · have hpresent : PreKeys.present (some prekey) = some prekey := by
          simp [PreKeys.present, hprekey]
        rw [hvalue, hpresent]
        simp [ih]
      · cases PreKeys.present value with
        | none => simpa [hvalue] using ih
        | some key =>
            simp only [List.count_cons, beq_iff_eq, hvalue, ↓reduceIte,
              Nat.add_zero]
            omega

section Given

variable {queue : List PreKeyValue} {id : ObjectId} {s : KeyService}
  (hs : Handed queue id s) (hnodup : queue.Nodup)
include hs hnodup

theorem Handed.count_given {prekey : PreKeyValue}
    (hprekey : prekey ≠ .null) :
    (s.given id).count (some prekey) ≤ 1 := by
  have htaken : (queue.take (s.given id).length).Nodup :=
    hnodup.sublist (List.take_sublist _ _)
  calc (s.given id).count (some prekey)
      ≤ ((s.given id).filterMap PreKeys.present).count prekey :=
        count_le_count_present hprekey _
    _ = (queue.take (s.given id).length).count prekey :=
        hs.given.count_eq prekey
    _ ≤ 1 := List.nodup_iff_count_le_one.1 htaken prekey

/-- As long as there are keys for all, each request was given one. -/
theorem Handed.mem_given (hfew : (s.given id).length ≤ queue.length) :
    (∀ key ∈ s.given id,
      ∃ prekey ∈ queue, prekey ≠ .null ∧ key = some prekey) ∧
      (s.given id).Nodup := by
  have hlength : ((s.given id).filterMap PreKeys.present).length =
      (s.given id).length := by
    rw [hs.given.length_eq, List.length_take, Nat.min_eq_left hfew]
  have hall : ∀ key ∈ s.given id,
      ∃ prekey ∈ queue, prekey ≠ .null ∧ key = some prekey := by
    intro key hkey
    have hsome := List.filterMap_length_eq_length.1 hlength key hkey
    obtain ⟨prekey, hprekey⟩ := Option.isSome_iff_exists.1 hsome
    obtain ⟨heq, hnull⟩ := Option.filter_eq_some_iff.1 hprekey
    have hmem : prekey ∈ (s.given id).filterMap PreKeys.present :=
      List.mem_filterMap.2 ⟨key, hkey, hprekey⟩
    rw [hs.given.mem_iff] at hmem
    exact ⟨prekey, List.mem_of_mem_take hmem, by simpa using hnull, heq⟩
  refine ⟨hall, List.nodup_iff_count_le_one.2 (fun key => ?_)⟩
  by_cases hkey : key ∈ s.given id
  · obtain ⟨prekey, -, hnull, rfl⟩ := hall key hkey
    exact hs.count_given hnodup hnull
  · rw [List.count_eq_zero_of_not_mem hkey]
    exact Nat.zero_le 1

end Given

theorem returnedKeys_sublist (s : KeyService) (id : ObjectId) :
    (s.returnedKeys id).Sublist (s.given id) :=
  List.filter_sublist.filterMap _

/-! ### No request fails -/

end KeyService

/-- The name can be taken off the keys. -/
def PreKeys.Suits (name : String) : PreKeys → Prop
  | .object _ => IsPlainName name
  | .array items => name = "undefined" ∨ name = "0" ∧ items ≠ []

namespace PreKeys

/-- Keys whose first one can be taken off, if there is one. -/
def Tame : PreKeys → Prop
  | .object fields => ∀ name ∈ fields.keys, IsPlainName name
  | .array _ => True

theorem WellKeyed.tame {keys : PreKeys} (hkeys : keys.WellKeyed) :
    keys.Tame := by
  cases keys with
  | object fields => exact hkeys.1
  | array items => trivial

theorem Tame.suits_firstKey {keys : PreKeys} (hkeys : keys.Tame) :
    keys.Suits (keys.firstKey.getD "undefined") := by
  cases keys with
  | object fields =>
      cases hentries : fields.entries with
      | nil =>
          simp only [Suits, firstKey, entries, hentries]
          decide
      | cons entry rest =>
          simp only [Suits, firstKey, entries, hentries, List.head?_cons,
            Option.map_some, Option.getD_some]
          apply hkeys
          simp [OrderedMap.keys, hentries]
  | array items =>
      cases items with
      | nil => exact Or.inl rfl
      | cons item items =>
          refine Or.inr ⟨?_, by simp⟩
          change toString 0 = "0"
          decide

/-- Taking a name off leaves keys of which the same names can be taken
off. -/
theorem unset_of_suits (server : UnsetServer) {keys : PreKeys}
    (hkeys : keys.Tame) {name : String} (hname : keys.Suits name) :
    ∃ rest : PreKeys, server.unset name keys = some rest ∧ rest.Tame ∧
      ∀ other, keys.Suits other → rest.Suits other := by
  cases keys with
  | object fields =>
      refine ⟨_, server.field name fields hname, ?_, fun _ hother => hother⟩
      intro other hother
      exact hkeys other
        ((List.filter_sublist.map Prod.fst).mem hother)
  | array items =>
      rcases hname with rfl | ⟨rfl, hne⟩
      · exact ⟨_, server.missing items, trivial, fun _ hother => hother⟩
      · cases items with
        | nil => exact absurd rfl hne
        | cons item items =>
            refine ⟨_, server.element item items, trivial, ?_⟩
            rintro other (hmissing | ⟨hzero, -⟩)
            · exact Or.inl hmissing
            · exact Or.inr ⟨hzero, by simp⟩

end PreKeys

namespace KeyService

/-- Every first key that a request may still remove can be taken off. -/
structure Tame (s : KeyService) : Prop where
  stored : ∀ device ∈ s.table.devices, device.params.oneTimePreKeys.Tame
  remaining : ∀ request ∈ s.requests, ∀ deviceList remaining,
    request.phase = .removing deviceList remaining →
    ∀ device ∈ remaining, ∀ stored ∈ s.table.devices,
      stored.id = device.id → stored.params.oneTimePreKeys.Suits
        (device.params.oneTimePreKeys.firstKey.getD "undefined")

section Returns

variable {s : KeyService} {server : UnsetServer} {index : Nat}
  {organizationId : ObjectId} {userIds : List ObjectId}
  {phase next : KeyPhase}

theorem step_of_found {request : KeyRequest}
    (hfound : s.requests[index]? = some request) :
    s.step server (.resumed index) =
      { s with
        table := (s.advance server request).2
        requests := s.requests.set index { request with
          phase := (s.advance server request).1 } } := by
  simp [step, hfound]

theorem getElem?_step {request : KeyRequest}
    (hfound : s.requests[index]? = some request) :
    (s.step server (.resumed index)).requests[index]? =
      some { request with phase := (s.advance server request).1 } := by
  rw [step_of_found hfound]
  exact List.getElem?_set_self (List.getElem?_eq_some_iff.1 hfound).1

theorem Returns.of_step
    (hreturns : Returns server (s.step server (.resumed index)) index) :
    Returns server s index := by
  obtain ⟨steps, request, hrequest, hdone⟩ := hreturns
  exact ⟨steps + 1, request, hrequest, hdone⟩

/-- A query that leaves the devices as they are. -/
theorem Tame.replaced (hs : Tame s) {request : KeyRequest}
    (hfound : s.requests[index]? = some request)
    (htable : (s.advance server request).2 = s.table)
    (hremaining : ∀ deviceList remaining,
      (s.advance server request).1 = .removing deviceList remaining →
      ∀ device ∈ remaining, device ∈ s.table.devices) :
    Tame (s.step server (.resumed index)) := by
  obtain ⟨front, back, hrequests, hset⟩ := exists_split hfound
  rw [step_of_found hfound, hset, htable]
  refine ⟨hs.stored, ?_⟩
  have hbefore := hs.remaining
  rw [hrequests] at hbefore
  refine forall_replaced hbefore ?_
  intro deviceList remaining hphase device hdevice stored hstored hid
  have hmem := hremaining deviceList remaining hphase device hdevice
  rw [s.table.device_unique hstored hmem hid]
  exact (hs.stored device hmem).suits_firstKey

/-- The first key that a device was found with can be taken off; the names
that could be taken off before still can. -/
theorem Tame.unset (hs : Tame s) (server : UnsetServer)
    {device : EncryptedDevice}
    (hsuits : ∀ stored ∈ s.table.devices, stored.id = device.id →
      stored.params.oneTimePreKeys.Suits
        (device.params.oneTimePreKeys.firstKey.getD "undefined")) :
    ∃ table : DeviceTable,
      s.table.unsetFirstKey server device = some table ∧
      ∀ after ∈ table.devices, after.params.oneTimePreKeys.Tame ∧
        ∃ stored ∈ s.table.devices, stored.id = after.id ∧
          ∀ name, stored.params.oneTimePreKeys.Suits name →
            after.params.oneTimePreKeys.Suits name := by
  cases hfound : s.table.devices.find? (fun stored =>
      stored.id = device.id) with
  | none =>
      refine ⟨s.table, by simp [DeviceTable.unsetFirstKey, hfound], ?_⟩
      intro after hafter
      exact ⟨hs.stored after hafter, after, hafter, rfl, fun _ hname => hname⟩
  | some stored =>
      have hstored := List.mem_of_find?_eq_some hfound
      have hid : stored.id = device.id := by
        simpa using List.find?_some hfound
      obtain ⟨rest, hunset, htame, hkept⟩ := PreKeys.unset_of_suits server
        (hs.stored stored hstored) (hsuits stored hstored hid)
      refine ⟨s.table.setKeys device.id rest,
        by simp [DeviceTable.unsetFirstKey, hfound, hunset], ?_⟩
      intro after hafter
      by_cases hsame : after.id = device.id
      · have hwritten : after = stored.withKeys rest := by
          apply (s.table.setKeys device.id rest).device_unique hafter
          · rw [← hid]
            exact s.table.mem_setKeys_self hstored
          · exact hsame.trans hid.symm
        rw [hwritten]
        exact ⟨htame, stored, hstored, rfl, hkept⟩
      · rw [s.table.mem_setKeys_of_ne hsame] at hafter
        exact ⟨hs.stored after hafter, after, hafter, rfl,
          fun _ hname => hname⟩

/-- The loop of a request goes on to its end. -/
theorem returns_loop {deviceList remaining : List EncryptedDevice}
    (hs : Tame s)
    (hfound : s.requests[index]? =
      some ⟨organizationId, userIds, .loop deviceList remaining⟩) :
    Returns server s index := by
  induction remaining generalizing s with
  | nil => exact ⟨0, _, hfound, rfl⟩
  | cons device remaining ih =>
      obtain ⟨front, back, hrequests, hset⟩ := exists_split hfound
      have hown := hs.remaining _ (List.mem_of_getElem? hfound) deviceList
        (device :: remaining) rfl
      obtain ⟨table, hunset, hafter⟩ := hs.unset server
        (hown device List.mem_cons_self)
      have hadvance : s.advance server ⟨organizationId, userIds,
          .loop deviceList (device :: remaining)⟩ =
          (.loop deviceList remaining, table) := by
        simp [advance, KeyPhase.loop, hunset]
      have hnext : (s.step server (.resumed index)).requests[index]? = _ :=
        getElem?_step hfound
      have hstep : s.step server (.resumed index) = _ :=
        step_of_found hfound
      rw [hadvance] at hnext hstep
      refine Returns.of_step (ih ?_ hnext)
      rw [hstep, hset]
      have hbefore := hs.remaining
      rw [hrequests] at hbefore
      -- a name that suits the keys before suits them afterwards
      have hkept : ∀ request ∈ front ++ ⟨organizationId, userIds,
          .loop deviceList (device :: remaining)⟩ :: back,
          ∀ l left, request.phase = .removing l left →
          ∀ work ∈ left, ∀ after ∈ table.devices, after.id = work.id →
          after.params.oneTimePreKeys.Suits
            (work.params.oneTimePreKeys.firstKey.getD "undefined") := by
        intro request hrequest l left hphase work hwork after hmem hid
        obtain ⟨-, stored, hstored, hsame, hsuits⟩ := hafter after hmem
        exact hsuits _ (hbefore request hrequest l left hphase work hwork
          stored hstored (hsame.trans hid))
      refine ⟨fun after hmem => (hafter after hmem).1,
        forall_replaced hkept ?_⟩
      intro l left hphase work hwork
      obtain ⟨-, rfl⟩ := loop_eq_removing hphase
      exact hkept _ (List.mem_append_right _ List.mem_cons_self) deviceList
        (device :: left) rfl work (List.mem_cons_of_mem _ hwork)

theorem returns_of_tame (hs : Tame s) (server : UnsetServer)
    {request : KeyRequest} (hfound : s.requests[index]? = some request)
    (hphase : request.phase ≠ .failed) : Returns server s index := by
  obtain ⟨organizationId, userIds, phase⟩ := request
  have hfinding : ∀ (s : KeyService) deviceList, Tame s →
      s.requests[index]? =
        some ⟨organizationId, userIds, .finding deviceList⟩ →
      Returns server s index := by
    intro s deviceList hs hfound
    refine Returns.of_step (returns_loop (hs.replaced hfound rfl ?_)
      (getElem?_step hfound))
    intro l remaining hloop device hdevice
    obtain ⟨-, rfl⟩ := loop_eq_removing hloop
    exact List.mem_of_mem_filter (List.mem_of_mem_take hdevice)
  have hreading : ∀ (s : KeyService) existUserIds, Tame s →
      s.requests[index]? =
        some ⟨organizationId, userIds, .reading existUserIds⟩ →
      Returns server s index := by
    intro s existUserIds hs hfound
    exact Returns.of_step (hfinding _ _ (hs.replaced hfound rfl
      (fun _ _ hremoving => by cases hremoving)) (getElem?_step hfound))
  cases phase with
  | checking =>
      exact Returns.of_step (hreading _ _ (hs.replaced hfound rfl
        (fun _ _ hremoving => by cases hremoving)) (getElem?_step hfound))
  | reading existUserIds => exact hreading s existUserIds hs hfound
  | finding deviceList => exact hfinding s deviceList hs hfound
  | removing deviceList remaining =>
      cases remaining with
      | nil =>
          exact Returns.of_step ⟨0, _, getElem?_step hfound, rfl⟩
      | cons device remaining =>
          have hloop : s.requests[index]? = some ⟨organizationId, userIds,
              .loop deviceList (device :: remaining)⟩ := hfound
          exact returns_loop hs hloop
  | returned deviceList => exact ⟨0, _, hfound, rfl⟩
  | failed => exact absurd rfl hphase

end Returns

/-- In a state of a run of well timed queries all first keys can be taken
off. -/
theorem Orderly.tame {initial s : KeyService} (hs : Orderly initial s) :
    Tame s := by
  have hstored : ∀ device ∈ s.table.devices,
      device.params.oneTimePreKeys.Tame := by
    intro device hdevice
    have hface : (device.id, device.params.identityKey) ∈
        faces initial.table := by
      rw [← hs.faces_eq]
      exact List.mem_map_of_mem hdevice
    obtain ⟨first, hfirst, heq⟩ := List.mem_map.1 hface
    obtain ⟨stored, hmem, hid, hkeys, -⟩ := (hs.handed first hfirst).stored
    rw [← s.table.device_unique hmem hdevice
      (hid.trans (Prod.mk.inj heq).1)]
    exact hkeys.tame
  refine ⟨hstored, ?_⟩
  intro request hrequest deviceList remaining hphase device hdevice stored
    hmem hid
  have hcurrent := (hs.upToDate request hrequest deviceList remaining
    hphase).2 device hdevice
  rw [s.table.device_unique hmem hcurrent hid]
  exact (hstored device hcurrent).suits_firstKey

theorem Orderly.oneTime {initial s : KeyService} (server : UnsetServer)
    (hkeys : initial.AllWellKeyed) (hs : Orderly initial s) :
    OneTime server initial s := by
  refine ⟨?_, hs.notFailed, ?_⟩
  · intro device hdevice
    have hhanded := hs.handed device hdevice
    obtain ⟨hnodup, hnull⟩ := PreKeys.nodup_prekeys (hkeys device hdevice)
    have hsublist := s.returnedKeys_sublist device.id
    refine ⟨?_, ?_⟩
    · intro prekey hprekey
      have hne : prekey ≠ .null := fun heq => hnull (heq ▸ hprekey)
      exact Nat.le_trans (hsublist.count_le (some prekey))
        (hhanded.count_given hnodup hne)
    · intro hfew
      obtain ⟨hall, hdistinct⟩ := hhanded.mem_given hnodup hfew
      exact ⟨fun key hkey => hall key (hsublist.mem hkey),
        hdistinct.sublist hsublist⟩
  · intro index hindex
    have hfound := List.getElem?_eq_getElem hindex
    exact returns_of_tame hs.tame server hfound
      (hs.notFailed _ (List.getElem_mem hindex))

theorem WellTimedRun.of_append {server : UnsetServer} {s : KeyService}
    {done rest : List Event} (htimed : WellTimedRun server s (done ++ rest)) :
    WellTimedRun server s done := by
  induction done generalizing s with
  | nil => trivial
  | cons event done ih => exact ⟨htimed.1, ih htimed.2⟩

/-- Requests for keys in any order of their queries: if the keys of all
devices can be taken off one by one and all queries come at a good time, the
keys are one-time keys in every state of the run. -/
theorem keys_given_once (server : UnsetServer) (initial : KeyService)
    (hrequests : initial.requests = []) (hkeys : initial.AllWellKeyed)
    (events : List Event) (htimed : WellTimedRun server initial events) :
    ∀ done, done <+: events →
      OneTime server initial (initial.run server done) := by
  rintro done ⟨rest, rfl⟩
  exact (orderly_run server (orderly_start hkeys hrequests) done
    htimed.of_append).oneTime server hkeys

/-- One user of organization 7 with one device. -/
def oneDevice (keys : PreKeys) : KeyService where
  users := OrderedMap.empty.set 1 7
  table := ⟨[⟨0, 1, Sample.phone, "identity", "signed", keys⟩], 1,
    by simp, by simp, by simp⟩
  requests := []

/-- An object with two keys. -/
def keyObject : PreKeys :=
  .object ((OrderedMap.empty.set "1" (.text "a")).set "2" (.text "b"))

/-- Two requests, one after the other. -/
def oneByOne : List Event :=
  [.requested 7 [1], .resumed 0, .resumed 0, .resumed 0, .resumed 0,
    .requested 7 [1], .resumed 1, .resumed 1, .resumed 1, .resumed 1]

theorem keys_given_once_one_by_one :
    OneTime .strict (oneDevice keyObject)
      ((oneDevice keyObject).run .strict oneByOne) :=
  keys_given_once .strict (oneDevice keyObject) rfl
    (by
      intro device hdevice
      rw [List.mem_singleton.1 hdevice]
      decide)
    oneByOne (by decide) oneByOne (List.prefix_refl _)

/-- Of an array of two keys the second request is given null. -/
theorem second_key_of_array_null :
    ¬ ∀ (server : UnsetServer) (initial : KeyService),
      initial.requests = [] → ∀ events : List Event,
        OneTime server initial (initial.run server events) := by
  intro hall
  have hdevice := (hall .strict (oneDevice (.array [some "a", some "b"])) rfl
    oneByOne).1 _ List.mem_cons_self
  have hkeys := (hdevice.2 (by decide)).1 (some .null) (by decide)
  obtain ⟨prekey, -, hne, heq⟩ := hkeys
  exact hne (Option.some.inj heq).symm

/-- Two requests that both read the device before one of them removes its
first key. -/
example : ((oneDevice keyObject).run .strict
    [.requested 7 [1], .requested 7 [1], .resumed 0, .resumed 0, .resumed 1,
      .resumed 1, .resumed 0, .resumed 0, .resumed 1, .resumed 1]).returnedKeys
      0 = [some (.text "a"), some (.text "a")] := by decide

end KeyService

end SamaServer
