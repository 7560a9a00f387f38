/-
Devices registered for encrypted messages.  A device has one-time keys, of
which every request for the keys of its user is given the first one; the keys
come as an object or as an array, and the database removes a field of the one
and puts null in the place of an element of the other.
-/
import SamaServer.Documents
import SamaServer.Pages
import SamaServer.SessionStore

namespace SamaServer

/-- A value in `one_time_pre_keys`; the schema takes any values of an
object. -/
inductive PreKeyValue
  | null
  | text (value : String)
  | json (source : String)
deriving DecidableEq

/-- The stored value of `one_time_pre_keys`.  The fields of an object are in
the order in which the language lists them: an object is stored in that order
and removals keep it. -/
inductive PreKeys
  | object (fields : OrderedMap String PreKeyValue)
  | array (items : List (Option String))

/-- An element of an array of texts, some of which were removed. -/
def PreKeyValue.ofItem : Option String → PreKeyValue
  | some value => .text value
  | none => .null

namespace PreKeys

/-- `Object.entries` -/
def entries : PreKeys → List (String × PreKeyValue)
  | object fields => fields.entries
  | array items => items.zipIdx.map (fun item =>
      (toString item.2, PreKeyValue.ofItem item.1))

/-- `Object.keys(keys)[0]` -/
def firstKey (keys : PreKeys) : Option String :=
  keys.entries.head?.map Prod.fst

/-- `Object.values(keys)[0]` -/
def firstValue (keys : PreKeys) : Option PreKeyValue :=
  keys.entries.head?.map Prod.snd

/-- The keys that were registered and not removed. -/
def prekeys : PreKeys → List PreKeyValue
  | object fields => fields.entries.map Prod.snd
  | array items => items.filterMap (fun item => item.map .text)

end PreKeys

/-- A name that is a path of its own in an update. -/
def IsPlainName (name : String) : Prop :=
  name ≠ "" ∧ '.' ∉ name.toList ∧ name.toList.head? ≠ some '$'

instance (name : String) : Decidable (IsPlainName name) :=
  inferInstanceAs (Decidable (_ ∧ _))

/-- `$unset` of `one_time_pre_keys.` and a name, as far as it is documented:
the answer for other names, errors included, is the server's. -/
structure UnsetServer where
  unset : String → PreKeys → Option PreKeys
  field : ∀ name fields, IsPlainName name →
    unset name (.object fields) = some (.object (fields.erase name))
  element : ∀ item items,
    unset "0" (.array (item :: items)) = some (.array (none :: items))
  missing : ∀ items, unset "undefined" (.array items) = some (.array items)

/-- A server that fails on all other names. -/
def UnsetServer.strict : UnsetServer where
  unset name
    | .object fields =>
        if IsPlainName name then some (.object (fields.erase name)) else none
    | .array [] => some (.array [])
    | .array (item :: items) =>
        if name = "0" then some (.array (none :: items))
        else some (.array (item :: items))
  field name fields hplain := by simp [hplain]
  element item items := rfl
  missing items := by
    cases items with
    | nil => rfl
    | cons item items => rfl

/-- The keys of one registration. -/
structure RegisterParams where
  identityKey : String
  signedKey : String
  oneTimePreKeys : PreKeys

structure EncryptedDevice where
  id : ObjectId
  userId : ObjectId
  deviceId : DeviceId
  params : RegisterParams

/-- The record of the device with other one-time keys. -/
def EncryptedDevice.withKeys (device : EncryptedDevice) (keys : PreKeys) :
    EncryptedDevice :=
  { device with params := { device.params with oneTimePreKeys := keys } }

/-- The collection of devices, with its unique index on the user and the
device. -/
structure DeviceTable where
  devices : List EncryptedDevice
  nextId : ObjectId
  ids_below : ∀ device ∈ devices, device.id < nextId
  ids_nodup : (devices.map EncryptedDevice.id).Nodup
  index : (devices.map (fun device =>
    (device.userId, device.deviceId))).Nodup

namespace DeviceTable

def empty : DeviceTable := ⟨[], 0, by simp, by simp, by simp⟩

/-- Write the one-time keys of one record. -/
def setKeys (s : DeviceTable) (id : ObjectId) (keys : PreKeys) :
    DeviceTable :=
  let write := fun device : EncryptedDevice =>
    if device.id = id then device.withKeys keys else device
  have hid : ∀ device, (write device).id = device.id := by
    intro device
    simp only [write]
    split
    · rfl
    · rfl
  have hkey : ∀ device, ((write device).userId, (write device).deviceId) =
      (device.userId, device.deviceId) := by
    intro device
    simp only [write]
    split
    · rfl
    · rfl
  { devices := s.devices.map write
    nextId := s.nextId
    ids_below := by
      intro device hdevice
      obtain ⟨old, hold, rfl⟩ := List.mem_map.1 hdevice
      rw [hid]
      exact s.ids_below old hold
    ids_nodup := by
      rw [List.map_map, Function.comp_def]
      simp only [hid]
      exact s.ids_nodup
    index := by
      rw [List.map_map, Function.comp_def]
      simp only [hkey]
      exact s.index }

/-- All devices of a list of users; they are grouped by user. -/
def getUsersDevices (s : DeviceTable) (userIds : List ObjectId) :
    List EncryptedDevice :=
  (Pages.descending id userIds).flatMap (fun userId =>
    s.devices.filter (fun device => device.userId = userId))

/-- `findAll` by identity keys, with the limit that it has by default. -/
def findByIdentityKeys (s : DeviceTable) (identityKeys : List String) :
    List EncryptedDevice :=
  (s.devices.filter (fun device =>
    device.params.identityKey ∈ identityKeys)).take 100

/-- `updateMany` of the record of a device with `$unset` of the first key of
the device; nothing is answered when the server fails. -/
def unsetFirstKey (server : UnsetServer) (s : DeviceTable)
    (device : EncryptedDevice) : Option DeviceTable :=
  let firstKey := device.params.oneTimePreKeys.firstKey.getD "undefined"
  match s.devices.find? (fun stored => stored.id = device.id) with
  | none => some s
  | some stored =>
      (server.unset firstKey stored.params.oneTimePreKeys).map
        (s.setKeys device.id)

end DeviceTable

/-! ### Registration -/

namespace DeviceTable

/-- `findOne` by the device id alone, of whichever user. -/
def findByDeviceId (server : Documents.Choice EncryptedDevice)
    (s : DeviceTable) (deviceId : DeviceId) : Option EncryptedDevice :=
  server.pick (s.devices.filter (fun device => device.deviceId = deviceId))

/-- `insertOne`, which fails when the index has the user and the device. -/
def create (s : DeviceTable) (userId : ObjectId) (deviceId : DeviceId)
    (params : RegisterParams) : Option DeviceTable :=
  if hnew : (userId, deviceId) ∈ s.devices.map (fun device =>
      (device.userId, device.deviceId)) then none
  else some
    { devices := s.devices ++ [⟨s.nextId, userId, deviceId, params⟩]
      nextId := s.nextId + 1
      ids_below := by
        intro device hdevice
        rcases List.mem_append.1 hdevice with hold | hlast
        · exact Nat.lt_succ_of_lt (s.ids_below device hold)
        · rw [List.mem_singleton.1 hlast]
          exact Nat.lt_succ_self _
      ids_nodup := by
        rw [List.map_append, List.nodup_append]
        refine ⟨s.ids_nodup, by simp, ?_⟩
        intro id hid other hother
        obtain ⟨device, hdevice, rfl⟩ := List.mem_map.1 hid
        simp only [List.map_cons, List.map_nil, List.mem_singleton] at hother
        rw [hother]
        exact Nat.ne_of_lt (s.ids_below device hdevice)
      index := by
        rw [List.map_append, List.nodup_append]
        refine ⟨s.index, by simp, ?_⟩
        intro key hkey other hother heq
        simp only [List.map_cons, List.map_nil, List.mem_singleton] at hother
        rw [heq, hother] at hkey
        exact hnew hkey }

/-- The record with the user and the keys of a registration. -/
def registered (userId : ObjectId) (params : RegisterParams)
    (device : EncryptedDevice) : EncryptedDevice :=
  { device with userId := userId, params := params }

/-- `findOneAndUpdate` of one record.  An update that the index refuses is
caught and changes nothing. -/
def update (s : DeviceTable) (id : ObjectId) (userId : ObjectId)
    (params : RegisterParams) : DeviceTable :=
  let devices := s.devices.map (fun device =>
    if device.id = id then registered userId params device else device)
  have hid : devices.map EncryptedDevice.id =
      s.devices.map EncryptedDevice.id := by
    simp only [devices, List.map_map]
    refine List.map_congr_left (fun device _ => ?_)
    simp only [Function.comp_apply]
    split
    · rfl
    · rfl
  if hindex : (devices.map (fun device =>
      (device.userId, device.deviceId))).Nodup then
    { devices := devices
      nextId := s.nextId
      ids_below := by
        intro device hdevice
        have hmem : device.id ∈ s.devices.map EncryptedDevice.id := by
          rw [← hid]
          exact List.mem_map_of_mem hdevice
        obtain ⟨old, hold, heq⟩ := List.mem_map.1 hmem
        rw [← heq]
        exact s.ids_below old hold
      ids_nodup := by
        rw [hid]
        exact s.ids_nodup
      index := hindex }
  else s

def deleteById (s : DeviceTable) (id : ObjectId) : DeviceTable where
  devices := s.devices.filter (fun device => device.id ≠ id)
  nextId := s.nextId
  ids_below device hdevice :=
    s.ids_below device (List.mem_of_mem_filter hdevice)
  ids_nodup := s.ids_nodup.sublist (List.filter_sublist.map _)
  index := s.index.sublist (List.filter_sublist.map _)

/-- `EncryptionRegisterOperation.perform` -/
def register (server : Documents.Choice EncryptedDevice) (s : DeviceTable)
    (userId : ObjectId) (deviceId : DeviceId) (params : RegisterParams) :
    Option DeviceTable :=
  match s.findByDeviceId server deviceId with
  | some existingDevice => some (s.update existingDevice.id userId params)
  | none => s.create userId deviceId params

/-- The part of a logout that concerns the devices. -/
def removeByDeviceId (server : Documents.Choice EncryptedDevice)
    (s : DeviceTable) (userId : ObjectId) (deviceId : DeviceId) :
    DeviceTable :=
  match server.pick (s.devices.filter (fun device =>
      device.userId = userId ∧ device.deviceId = deviceId)) with
  | some record => s.deleteById record.id
  | none => s

/-- `EncryptionDeleteOperation.perform`, which is forbidden for a device of
another user. -/
def delete (server : Documents.Choice EncryptedDevice) (s : DeviceTable)
    (userId : ObjectId) (deviceId : DeviceId) : Option DeviceTable :=
  match s.findByDeviceId server deviceId with
  | some device =>
      if device.userId = userId then some (s.deleteById device.id) else none
  | none => none

end DeviceTable

/-! ### Requests for keys -/

/-- One entry of the answer. -/
structure DeviceKeys where
  identityKey : String
  signedKey : String
  oneTimePreKey : Option PreKeyValue
deriving DecidableEq

def EncryptedDevice.keys (device : EncryptedDevice) : DeviceKeys :=
  ⟨device.params.identityKey, device.params.signedKey,
    device.params.oneTimePreKeys.firstValue⟩

/-- Where a request stands: before each of its queries, with the devices that
it has read and those whose first key it still has to remove, or at its
end. -/
inductive KeyPhase
  | checking
  | reading (existUserIds : List ObjectId)
  | finding (deviceList : List EncryptedDevice)
  | removing (deviceList remaining : List EncryptedDevice)
  | returned (deviceList : List EncryptedDevice)
  | failed

/-- The loop goes on with the next device or the request returns. -/
def KeyPhase.loop (deviceList : List EncryptedDevice) :
    List EncryptedDevice → KeyPhase
  | [] => .returned deviceList
  | device :: remaining => .removing deviceList (device :: remaining)

structure KeyRequest where
  organizationId : ObjectId
  userIds : List ObjectId
  phase : KeyPhase

/-- The answer of a request that has returned, by users. -/
def KeyRequest.answer (request : KeyRequest) :
    Option (List (ObjectId × List DeviceKeys)) :=
  match request.phase with
  | .returned deviceList =>
      some ((deviceList.map EncryptedDevice.userId).dedup.map (fun userId =>
        (userId, (deviceList.filter (fun device =>
          device.userId = userId)).map EncryptedDevice.keys)))
  | _ => none

/-- The organizations of the users, the devices and the requests that were
made. -/
structure KeyService where
  users : OrderedMap ObjectId ObjectId
  table : DeviceTable
  requests : List KeyRequest

namespace KeyService

def retrieveExistedIds (s : KeyService) (organizationId : ObjectId)
    (userIds : List ObjectId) : List ObjectId :=
  (s.users.entries.filter (fun user =>
    user.2 = organizationId ∧ user.1 ∈ userIds)).map Prod.fst

/-- The next query of a request and what it does to the devices. -/
def advance (server : UnsetServer) (s : KeyService) (request : KeyRequest) :
    KeyPhase × DeviceTable :=
  match request.phase with
  | .checking =>
      (.reading (s.retrieveExistedIds request.organizationId
        request.userIds), s.table)
  | .reading existUserIds =>
      (.finding (s.table.getUsersDevices existUserIds), s.table)
  | .finding deviceList =>
      (.loop deviceList (s.table.findByIdentityKeys (deviceList.map
        (fun device => device.params.identityKey))), s.table)
  | .removing deviceList [] => (.returned deviceList, s.table)
  | .removing deviceList (device :: remaining) =>
      match s.table.unsetFirstKey server device with
      | some table => (.loop deviceList remaining, table)
      | none => (.failed, s.table)
  | .returned deviceList => (.returned deviceList, s.table)
  | .failed => (.failed, s.table)

/-- A request comes in, or one of the requests makes its next query. -/
inductive Event
  | requested (organizationId : ObjectId) (userIds : List ObjectId)
  | resumed (index : Nat)

def step (server : UnsetServer) (s : KeyService) : Event → KeyService
  | .requested organizationId userIds =>
      { s with
        requests := s.requests ++ [⟨organizationId, userIds, .checking⟩] }
  | .resumed index =>
      match s.requests[index]? with
      | none => s
      | some request =>
          let next := s.advance server request
          { s with
            table := next.2
            requests := s.requests.set index { request with
              phase := next.1 } }

def run (server : UnsetServer) (s : KeyService) (events : List Event) :
    KeyService :=
  events.foldl (step server) s

end KeyService

end SamaServer
