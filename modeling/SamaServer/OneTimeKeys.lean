/-
One-time keys are given out once.  A request reads the first key of a device
and removes it later, by two further queries; between the two it holds the
device.  If a device is read only while no request holds it, and a request
finds the devices it has read and no others, the keys go out one by one.
-/
import Mathlib.Data.List.Perm.Basic
import SamaServer.EncryptedDevices

namespace SamaServer

/-! ### Keys of one device -/

namespace PreKeys

/-- Keys that can be taken off one by one: an object of plain names with
distinct values, or an array of one element at most. -/
def WellKeyed : PreKeys → Prop
  | object fields => (∀ name ∈ fields.keys, IsPlainName name) ∧
      (fields.entries.map Prod.snd).Nodup ∧
      .null ∉ fields.entries.map Prod.snd
  | array items => items.length ≤ 1

instance (keys : PreKeys) : Decidable keys.WellKeyed :=
  match keys with
  | object _ => inferInstanceAs (Decidable (_ ∧ _ ∧ _))
  | array _ => inferInstanceAs (Decidable (_ ≤ _))

theorem array_cases {items : List (Option String)}
    (hkeys : (array items).WellKeyed) :
    items = [] ∨ ∃ item, items = [item] := by
  have hlength : items.length ≤ 1 := hkeys
  cases items with
  | nil => exact .inl rfl
  | cons item rest =>
      have hrest : rest = [] := by simpa using hlength
      exact .inr ⟨item, by rw [hrest]⟩

/-- A value that is a key; null stands in the place of a removed one. -/
def present (value : Option PreKeyValue) : Option PreKeyValue :=
  value.filter (fun key => key ≠ .null)

theorem present_firstValue {keys : PreKeys} (hkeys : keys.WellKeyed) :
    present keys.firstValue = keys.prekeys.head? := by
  cases keys with
  | object fields =>
      cases hentries : fields.entries with
      | nil => simp [firstValue, entries, prekeys, hentries, present]
      | cons entry rest =>
          have hnull := hkeys.2.2
          rw [hentries] at hnull
          have hvalue : entry.2 ≠ .null := by
            intro heq
            simp [heq] at hnull
          simp [firstValue, entries, prekeys, hentries, present, hvalue]
  | array items =>
      rcases array_cases hkeys with rfl | ⟨item, rfl⟩
      · rfl
      · cases item with
        | none => rfl
        | some value => rfl

theorem nodup_prekeys {keys : PreKeys} (hkeys : keys.WellKeyed) :
    keys.prekeys.Nodup ∧ .null ∉ keys.prekeys := by
  cases keys with
  | object fields => exact hkeys.2
  | array items =>
      rcases array_cases hkeys with rfl | ⟨item, rfl⟩
      · simp [prekeys]
      · cases item with
        | none => simp [prekeys]
        | some value => simp [prekeys]

theorem isPlainName_firstKey {fields : OrderedMap String PreKeyValue}
    (hkeys : (object fields).WellKeyed) :
    IsPlainName ((object fields).firstKey.getD "undefined") := by
  cases hentries : fields.entries with
  | nil =>
      simp only [firstKey, entries, hentries]
      decide
  | cons entry rest =>
      simp only [firstKey, entries, hentries, List.head?_cons,
        Option.map_some, Option.getD_some]
      apply hkeys.1
      simp [OrderedMap.keys, hentries]

theorem prekeys_erase_firstKey (fields : OrderedMap String PreKeyValue) :
    (object (fields.erase
        ((object fields).firstKey.getD "undefined"))).prekeys =
      (object fields).prekeys.drop 1 := by
  cases hentries : fields.entries with
  | nil => simp [prekeys, OrderedMap.erase, hentries]
  | cons entry rest =>
      have hnodup := fields.keys_nodup
      rw [hentries, List.map_cons, List.nodup_cons] at hnodup
      have hrest : rest.filter (fun other => other.1 ≠ entry.1) = rest := by
        rw [List.filter_eq_self]
        intro other hother
        simp only [decide_eq_true_eq]
        exact fun heq => hnodup.1 (heq ▸ List.mem_map_of_mem hother)
      simp only [prekeys, OrderedMap.erase, firstKey, entries,
        hentries, List.head?_cons, Option.map_some, Option.getD_some]
      rw [List.filter_cons_of_neg (by simp), hrest]
      rfl

/-- The first key is taken off; without one nothing happens. -/
theorem unset_firstKey (server : UnsetServer) {keys : PreKeys}
    (hkeys : keys.WellKeyed) :
    ∃ rest : PreKeys,
      server.unset (keys.firstKey.getD "undefined") keys = some rest ∧
      rest.WellKeyed ∧ rest.prekeys = keys.prekeys.drop 1 := by
  cases keys with
  | object fields =>
      have hsublist : (fields.erase ((object fields).firstKey.getD
          "undefined")).entries.Sublist fields.entries :=
        List.filter_sublist
      refine ⟨_, server.field _ fields (isPlainName_firstKey hkeys),
        ⟨?_, ?_, ?_⟩, prekeys_erase_firstKey fields⟩
      · intro name hname
        exact hkeys.1 name ((hsublist.map Prod.fst).mem hname)
      · exact hkeys.2.1.sublist (hsublist.map Prod.snd)
      · exact fun hnull => hkeys.2.2 ((hsublist.map Prod.snd).mem hnull)
  | array items =>
      rcases array_cases hkeys with rfl | ⟨item, rfl⟩
      · exact ⟨_, server.missing [], by simp [WellKeyed], rfl⟩
      · have hkey : (array [item]).firstKey.getD "undefined" = "0" := by
          change toString 0 = "0"
          decide
        rw [hkey]
        refine ⟨_, server.element item [], by simp [WellKeyed], ?_⟩
        cases item with
        | none => rfl
        | some value => rfl

end PreKeys

/-! ### Requests -/

namespace KeyRequest

/-- The devices that the request has read. -/
def deviceList? (request : KeyRequest) : Option (List EncryptedDevice) :=
  match request.phase with
  | .checking => none
  | .reading _ => none
  | .finding deviceList => some deviceList
  | .removing deviceList _ => some deviceList
  | .returned deviceList => some deviceList
  | .failed => none

def isReturned (request : KeyRequest) : Bool :=
  match request.phase with
  | .returned _ => true
  | _ => false

/-- The value that the request has read for the device. -/
def given (id : ObjectId) (request : KeyRequest) :
    Option (Option PreKeyValue) :=
  (request.deviceList?.bind (fun deviceList =>
    deviceList.find? (fun device => device.id = id))).map (fun device =>
      device.params.oneTimePreKeys.firstValue)

/-- The request has read the device and not yet removed its first key. -/
def holds (id : ObjectId) (request : KeyRequest) : Bool :=
  match request.phase with
  | .finding deviceList => deviceList.any (fun device => device.id = id)
  | .removing _ remaining => remaining.any (fun device => device.id = id)
  | _ => false

end KeyRequest

namespace KeyService

/-- What was read for a device, request by request. -/
def given (s : KeyService) (id : ObjectId) : List (Option PreKeyValue) :=
  s.requests.filterMap (KeyRequest.given id)

/-- What the requests that have returned were given of a device. -/
def returnedKeys (s : KeyService) (id : ObjectId) :
    List (Option PreKeyValue) :=
  (s.requests.filter KeyRequest.isReturned).filterMap (KeyRequest.given id)

def holders (s : KeyService) (id : ObjectId) : Nat :=
  s.requests.countP (KeyRequest.holds id)

/-- The request, left alone, returns. -/
def Returns (server : UnsetServer) (s : KeyService) (index : Nat) : Prop :=
  ∃ steps request,
    (s.run server (List.replicate steps (.resumed index))).requests[index]? =
      some request ∧ request.isReturned

/-- No key of a device was returned twice; while no more requests have read
the device than it has keys, each one that has returned was given a key, and
they are different keys; and no request fails. -/
def OneTime (server : UnsetServer) (initial s : KeyService) : Prop :=
  (∀ device ∈ initial.table.devices,
    let prekeys := device.params.oneTimePreKeys.prekeys
    (∀ prekey ∈ prekeys,
      (s.returnedKeys device.id).count (some prekey) ≤ 1) ∧
    ((s.given device.id).length ≤ prekeys.length →
      (∀ key ∈ s.returnedKeys device.id,
        ∃ prekey ∈ prekeys, prekey ≠ .null ∧ key = some prekey) ∧
      (s.returnedKeys device.id).Nodup)) ∧
  (∀ request ∈ s.requests, request.phase ≠ .failed) ∧
  ∀ index, index < s.requests.length → Returns server s index

/-- A query that comes at a good time.  A device is read while no request
holds it, and the devices with the identity keys that were read are among
those read and at most as many as the query answers with. -/
def WellTimedPhase (s : KeyService) : KeyPhase → Prop
  | .reading existUserIds =>
      ∀ device ∈ s.table.getUsersDevices existUserIds,
        s.holders device.id = 0
  | .finding deviceList =>
      let found := s.table.devices.filter (fun device =>
        device.params.identityKey ∈ deviceList.map (fun read =>
          read.params.identityKey))
      found.length ≤ 100 ∧
        ∀ device ∈ found, device.id ∈ deviceList.map EncryptedDevice.id
  | _ => True

instance (s : KeyService) (phase : KeyPhase) :
    Decidable (s.WellTimedPhase phase) :=
  match phase with
  | .reading _ => inferInstanceAs (Decidable (∀ device ∈ _, _))
  | .finding _ => inferInstanceAs (Decidable (_ ∧ _))
  | .checking => inferInstanceAs (Decidable True)
  | .removing _ _ => inferInstanceAs (Decidable True)
  | .returned _ => inferInstanceAs (Decidable True)
  | .failed => inferInstanceAs (Decidable True)

def WellTimed (s : KeyService) : Event → Prop
  | .requested _ _ => True
  | .resumed index =>
      ∀ request ∈ s.requests[index]?, s.WellTimedPhase request.phase

instance (s : KeyService) (event : Event) : Decidable (s.WellTimed event) :=
  match event with
  | .requested _ _ => inferInstanceAs (Decidable True)
  | .resumed _ => inferInstanceAs (Decidable (∀ request ∈ _, _))

/-- All queries of the run come at a good time. -/
def WellTimedRun (server : UnsetServer) : KeyService → List Event → Prop
  | _, [] => True
  | s, event :: events =>
      s.WellTimed event ∧ WellTimedRun server (s.step server event) events

instance decidableWellTimedRun (server : UnsetServer) :
    (s : KeyService) → (events : List Event) →
      Decidable (WellTimedRun server s events)
  | _, [] => inferInstanceAs (Decidable True)
  | s, event :: events =>
      have := decidableWellTimedRun server (s.step server event) events
      inferInstanceAs (Decidable (s.WellTimed event ∧
        WellTimedRun server (s.step server event) events))

/-- The keys of every device can be taken off one by one. -/
def AllWellKeyed (s : KeyService) : Prop :=
  ∀ device ∈ s.table.devices, device.params.oneTimePreKeys.WellKeyed

end KeyService

/-! ### The table -/

namespace DeviceTable

theorem device_unique (s : DeviceTable) {device other : EncryptedDevice}
    (hdevice : device ∈ s.devices) (hother : other ∈ s.devices)
    (hid : device.id = other.id) : device = other :=
  List.inj_on_of_nodup_map s.ids_nodup hdevice hother hid

theorem find?_of_mem (s : DeviceTable) {device : EncryptedDevice}
    (hdevice : device ∈ s.devices) :
    s.devices.find? (fun stored => stored.id = device.id) = some device := by
  cases hfound : s.devices.find? (fun stored => stored.id = device.id) with
  | none =>
      rw [List.find?_eq_none] at hfound
      have hnot := hfound device hdevice
      simp at hnot
  | some found =>
      have hid := List.find?_some hfound
      rw [s.device_unique (List.mem_of_find?_eq_some hfound) hdevice
        (by simpa using hid)]

theorem mem_getUsersDevices (s : DeviceTable) {userIds : List ObjectId}
    {device : EncryptedDevice} :
    device ∈ s.getUsersDevices userIds ↔
      device ∈ s.devices ∧ device.userId ∈ userIds := by
  simp only [getUsersDevices, List.mem_flatMap, List.mem_filter,
    decide_eq_true_eq, (Pages.descending_perm id userIds).mem_iff]
  constructor
  · rintro ⟨userId, huser, hmem, rfl⟩
    exact ⟨hmem, huser⟩
  · rintro ⟨hmem, huser⟩
    exact ⟨device.userId, huser, hmem, rfl⟩

theorem mem_setKeys_of_ne (s : DeviceTable) {id : ObjectId} {keys : PreKeys}
    {device : EncryptedDevice} (hid : device.id ≠ id) :
    device ∈ (s.setKeys id keys).devices ↔ device ∈ s.devices := by
  simp only [setKeys, List.mem_map]
  constructor
  · rintro ⟨old, hold, heq⟩
    split at heq
    · rename_i hsame
      rw [← heq] at hid
      exact absurd hsame hid
    · rw [← heq]
      exact hold
  · intro hmem
    exact ⟨device, hmem, by simp [hid]⟩

theorem mem_setKeys_self (s : DeviceTable) {keys : PreKeys}
    {device : EncryptedDevice} (hdevice : device ∈ s.devices) :
    device.withKeys keys ∈ (s.setKeys device.id keys).devices := by
  simp only [setKeys, List.mem_map]
  exact ⟨device, hdevice, by simp⟩

/-- The table with the first key of one device removed. -/
theorem unsetFirstKey_of_mem (server : UnsetServer) (s : DeviceTable)
    {device : EncryptedDevice} (hdevice : device ∈ s.devices)
    (hkeys : device.params.oneTimePreKeys.WellKeyed) :
    ∃ rest : PreKeys, rest.WellKeyed ∧
      rest.prekeys = device.params.oneTimePreKeys.prekeys.drop 1 ∧
      s.unsetFirstKey server device = some (s.setKeys device.id rest) := by
  obtain ⟨rest, hunset, hrest, hprekeys⟩ :=
    PreKeys.unset_firstKey server hkeys
  refine ⟨rest, hrest, hprekeys, ?_⟩
  simp [unsetFirstKey, s.find?_of_mem hdevice, hunset]

end DeviceTable

/-! ### What is known of one device -/

namespace KeyService

/-- The device had the keys `queue` in the beginning.  One request holds it at
most; the requests that have read it were given the keys from the first one
on, each of them once, and the keys left are those that nobody was given or
the one that the holder is about to remove. -/
structure Handed (queue : List PreKeyValue) (id : ObjectId)
    (s : KeyService) : Prop where
  holders_le : s.holders id ≤ 1
  holders_given : s.holders id ≤ (s.given id).length
  stored : ∃ device ∈ s.table.devices, device.id = id ∧
    device.params.oneTimePreKeys.WellKeyed ∧
    device.params.oneTimePreKeys.prekeys =
      queue.drop ((s.given id).length - s.holders id)
  given : ((s.given id).filterMap PreKeys.present).Perm
    (queue.take (s.given id).length)

/-- A device that a request still has to work on is as the request has found
it. -/
def UpToDate (s : KeyService) : Prop :=
  ∀ request ∈ s.requests, ∀ deviceList remaining,
    request.phase = .removing deviceList remaining →
    (remaining.map EncryptedDevice.id).Nodup ∧
      ∀ device ∈ remaining, device ∈ s.table.devices

variable {queue : List PreKeyValue} {id : ObjectId} {s t : KeyService}

/-- A query that does not concern the device. -/
theorem Handed.same (hs : Handed queue id s) (hgiven : t.given id = s.given id)
    (hholders : t.holders id = s.holders id)
    (htable : ∀ device : EncryptedDevice, device.id = id →
      device ∈ s.table.devices → device ∈ t.table.devices) :
    Handed queue id t := by
  refine ⟨?_, ?_, ?_, ?_⟩
  · rw [hholders]
    exact hs.holders_le
  · rw [hholders, hgiven]
    exact hs.holders_given
  · obtain ⟨device, hmem, hid, hkeys⟩ := hs.stored
    rw [hholders, hgiven]
    exact ⟨device, htable device hid hmem, hid, hkeys⟩
  · rw [hgiven]
    exact hs.given

/-- A device is read while nobody holds it. -/
theorem Handed.read (hs : Handed queue id s) (hfree : s.holders id = 0)
    {device : EncryptedDevice} (hdevice : device ∈ s.table.devices)
    (hid : device.id = id)
    {front back : List (Option PreKeyValue)}
    (hbefore : s.given id = front ++ back)
    (hgiven : t.given id =
      front ++ device.params.oneTimePreKeys.firstValue :: back)
    (hholders : t.holders id = 1) (htable : t.table = s.table) :
    Handed queue id t := by
  have hlength : (t.given id).length = (s.given id).length + 1 := by
    rw [hgiven, hbefore]
    simp only [List.length_append, List.length_cons]
    omega
  obtain ⟨stored, hmem, hstored, hkeys, hprekeys⟩ := hs.stored
  have hsame : stored = device :=
    s.table.device_unique hmem hdevice (hstored.trans hid.symm)
  subst hsame
  rw [hfree, Nat.sub_zero] at hprekeys
  have hfirst : PreKeys.present stored.params.oneTimePreKeys.firstValue =
      queue[(s.given id).length]? := by
    rw [PreKeys.present_firstValue hkeys, hprekeys, List.head?_drop]
  refine ⟨by omega, by omega, ⟨stored, ?_, hstored, hkeys, ?_⟩, ?_⟩
  · rw [htable]
    exact hmem
  · rw [hprekeys, hlength, hholders]
    rfl
  · have hold := hs.given
    nth_rewrite 1 [hbefore] at hold
    rw [List.filterMap_append] at hold
    rw [hlength, List.take_add_one, hgiven, List.filterMap_append,
      List.filterMap_cons, hfirst]
    cases queue[(s.given id).length]? with
    | none => simpa using hold
    | some key =>
        exact List.perm_middle.trans ((hold.cons key).trans
          (List.perm_append_singleton key _).symm)

/-- The holder removes the first key. -/
theorem Handed.remove (hs : Handed queue id s) (hheld : s.holders id = 1)
    (hfree : t.holders id = 0) (hgiven : t.given id = s.given id)
    {device : EncryptedDevice} (hdevice : device ∈ s.table.devices)
    (hid : device.id = id) {keys : PreKeys} (hkeys : keys.WellKeyed)
    (hprekeys : keys.prekeys =
      device.params.oneTimePreKeys.prekeys.drop 1)
    (htable : t.table = s.table.setKeys id keys) : Handed queue id t := by
  obtain ⟨stored, hmem, hstored, -, hqueue⟩ := hs.stored
  have hsame : stored = device :=
    s.table.device_unique hmem hdevice (hstored.trans hid.symm)
  subst hsame
  have hread := hs.holders_given
  refine ⟨by omega, by omega,
    ⟨stored.withKeys keys, ?_, hid, hkeys, ?_⟩, ?_⟩
  · rw [htable, ← hid]
    exact s.table.mem_setKeys_self hmem
  · change keys.prekeys = _
    rw [hprekeys, hqueue, List.drop_drop, hgiven, hheld, hfree]
    congr 1
    omega
  · rw [hgiven]
    exact hs.given

end KeyService

end SamaServer
