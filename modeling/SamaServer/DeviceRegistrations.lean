/-
Registrations of users who may use the same device id.  The register
operation looks for the device id alone, so it can find the record of another
user.
-/
import SamaServer.EncryptedDevices

namespace SamaServer

namespace DeviceTable

/-- A registration, a logout or the deletion of a device. -/
inductive DeviceEvent
  | register (userId : ObjectId) (deviceId : DeviceId)
      (params : RegisterParams)
  | logout (userId : ObjectId) (deviceId : DeviceId)
  | delete (userId : ObjectId) (deviceId : DeviceId)

/-- An operation that fails leaves the table as it is. -/
def perform (server : Documents.Choice EncryptedDevice) (s : DeviceTable) :
    DeviceEvent → DeviceTable
  | .register userId deviceId params =>
      (s.register server userId deviceId params).getD s
  | .logout userId deviceId => s.removeByDeviceId server userId deviceId
  | .delete userId deviceId => (s.delete server userId deviceId).getD s

def performAll (server : Documents.Choice EncryptedDevice) (s : DeviceTable)
    (events : List DeviceEvent) : DeviceTable :=
  events.foldl (perform server) s

/-- The records of one user and device. -/
def recordsOf (s : DeviceTable) (userId : ObjectId) (deviceId : DeviceId) :
    List EncryptedDevice :=
  s.devices.filter (fun device =>
    device.userId = userId ∧ device.deviceId = deviceId)

/-- The event takes the registration of the user away on purpose. -/
def Revokes (userId : ObjectId) (deviceId : DeviceId) : DeviceEvent → Prop
  | .register _ _ _ => False
  | .logout user device => user = userId ∧ device = deviceId
  | .delete user device => user = userId ∧ device = deviceId

/-- What an event may do: a registration leaves the records of the other
users alone and leaves one record of its user and device, with the keys that
were sent; there is at most one record for each user and device, and a
registration only disappears by its own user's logout or deletion. -/
def Framed (s : DeviceTable) (event : DeviceEvent) (t : DeviceTable) :
    Prop :=
  (∀ userId deviceId params, event = .register userId deviceId params →
    (∀ device : EncryptedDevice, device.userId ≠ userId →
      (device ∈ t.devices ↔ device ∈ s.devices)) ∧
    (t.recordsOf userId deviceId).map EncryptedDevice.params = [params]) ∧
  (∀ userId deviceId, (t.recordsOf userId deviceId).length ≤ 1) ∧
  ∀ userId deviceId, s.recordsOf userId deviceId ≠ [] →
    t.recordsOf userId deviceId = [] → Revokes userId deviceId event

/-- A registration that finds no record of another user for its device id, or
whose user has a record with the keys that are sent already. -/
def FindsOwn (server : Documents.Choice EncryptedDevice) (s : DeviceTable) :
    DeviceEvent → Prop
  | .register userId deviceId params =>
      ∀ existingDevice ∈ s.findByDeviceId server deviceId,
        existingDevice.userId = userId ∨
          ∃ device ∈ s.recordsOf userId deviceId, device.params = params
  | .logout _ _ => True
  | .delete _ _ => True

variable {s : DeviceTable} {userId : ObjectId} {deviceId : DeviceId}
  {params : RegisterParams}

theorem mem_recordsOf {device : EncryptedDevice} :
    device ∈ s.recordsOf userId deviceId ↔
      device ∈ s.devices ∧ device.userId = userId ∧
        device.deviceId = deviceId := by
  simp [recordsOf]

theorem recordsOf_nodup (s : DeviceTable) (userId : ObjectId)
    (deviceId : DeviceId) : (s.recordsOf userId deviceId).Nodup :=
  (s.ids_nodup.of_map).sublist List.filter_sublist

/-- The index lets two records of one user and device be only the same. -/
theorem record_unique {device other : EncryptedDevice}
    (hdevice : device ∈ s.devices) (hother : other ∈ s.devices)
    (huser : device.userId = other.userId)
    (hid : device.deviceId = other.deviceId) : device = other :=
  List.inj_on_of_nodup_map s.index hdevice hother (Prod.ext huser hid)

theorem recordsOf_eq_singleton {device : EncryptedDevice}
    (hdevice : device ∈ s.recordsOf userId deviceId) :
    s.recordsOf userId deviceId = [device] := by
  have hall : ∀ other ∈ s.recordsOf userId deviceId, other = device := by
    intro other hother
    rw [mem_recordsOf] at hother hdevice
    exact record_unique hother.1 hdevice.1
      (hother.2.1.trans hdevice.2.1.symm) (hother.2.2.trans hdevice.2.2.symm)
  have hnodup := s.recordsOf_nodup userId deviceId
  cases hrecords : s.recordsOf userId deviceId with
  | nil =>
      rw [hrecords] at hdevice
      cases hdevice
  | cons first rest =>
      rw [hrecords] at hall hnodup
      have hfirst := hall first List.mem_cons_self
      have hrest : rest = [] := by
        rw [List.eq_nil_iff_forall_not_mem]
        intro other hother
        have hsame := hall other (List.mem_cons_of_mem _ hother)
        rw [List.nodup_cons] at hnodup
        exact hnodup.1 (by rw [hfirst, ← hsame]; exact hother)
      rw [hfirst, hrest]

theorem length_recordsOf_le (s : DeviceTable) (userId : ObjectId)
    (deviceId : DeviceId) : (s.recordsOf userId deviceId).length ≤ 1 := by
  cases hrecords : s.recordsOf userId deviceId with
  | nil => exact Nat.zero_le 1
  | cons first rest =>
      have hfirst : first ∈ s.recordsOf userId deviceId := by
        rw [hrecords]
        exact List.mem_cons_self
      rw [← hrecords, recordsOf_eq_singleton hfirst]
      exact Nat.le_refl 1

/-- Framing without the part that concerns registrations. -/
theorem framed_of_kept {t : DeviceTable} {event : DeviceEvent}
    (hregister : ∀ userId deviceId params,
      event ≠ .register userId deviceId params)
    (hkept : ∀ userId deviceId, s.recordsOf userId deviceId ≠ [] →
      t.recordsOf userId deviceId = [] → Revokes userId deviceId event) :
    Framed s event t := by
  refine ⟨?_, t.length_recordsOf_le, hkept⟩
  intro userId deviceId params hevent
  exact absurd hevent (hregister userId deviceId params)

/-! ### Logouts and deletions -/

theorem recordsOf_deleteById {device : EncryptedDevice}
    (hdevice : device ∈ s.devices)
    (hbefore : s.recordsOf userId deviceId ≠ [])
    (hafter : (s.deleteById device.id).recordsOf userId deviceId = []) :
    device.userId = userId ∧ device.deviceId = deviceId := by
  obtain ⟨old, hold⟩ := List.exists_mem_of_ne_nil _ hbefore
  have hmem := mem_recordsOf.1 hold
  have hid : old.id = device.id := by
    by_contra hne
    have hleft : old ∈ (s.deleteById device.id).recordsOf userId deviceId :=
      mem_recordsOf.2 ⟨List.mem_filter.2 ⟨hmem.1, by simpa using hne⟩,
        hmem.2⟩
    rw [hafter] at hleft
    cases hleft
  have hsame : old = device :=
    List.inj_on_of_nodup_map s.ids_nodup hmem.1 hdevice hid
  rw [← hsame]
  exact hmem.2

theorem framed_logout (server : Documents.Choice EncryptedDevice)
    (s : DeviceTable) (userId : ObjectId) (deviceId : DeviceId) :
    Framed s (.logout userId deviceId)
      (s.removeByDeviceId server userId deviceId) := by
  refine framed_of_kept (by simp) ?_
  intro user device hbefore hafter
  rw [removeByDeviceId] at hafter
  cases hpick : server.pick (s.devices.filter (fun device =>
      device.userId = userId ∧ device.deviceId = deviceId)) with
  | none =>
      rw [hpick] at hafter
      exact absurd hafter hbefore
  | some record =>
      rw [hpick] at hafter
      have hrecord := mem_recordsOf.1 (server.mem _ _ hpick)
      have hdeleted := recordsOf_deleteById hrecord.1 hbefore hafter
      exact ⟨hrecord.2.1.symm.trans hdeleted.1,
        hrecord.2.2.symm.trans hdeleted.2⟩

theorem mem_of_findByDeviceId {server : Documents.Choice EncryptedDevice}
    {device : EncryptedDevice}
    (hfound : s.findByDeviceId server deviceId = some device) :
    device ∈ s.devices ∧ device.deviceId = deviceId := by
  have hmem := server.mem _ _ hfound
  rw [List.mem_filter] at hmem
  exact ⟨hmem.1, by simpa using hmem.2⟩

theorem framed_delete (server : Documents.Choice EncryptedDevice)
    (s : DeviceTable) (userId : ObjectId) (deviceId : DeviceId) :
    Framed s (.delete userId deviceId)
      ((s.delete server userId deviceId).getD s) := by
  refine framed_of_kept (by simp) ?_
  intro user device hbefore hafter
  rw [delete] at hafter
  cases hfound : s.findByDeviceId server deviceId with
  | none =>
      rw [hfound] at hafter
      exact absurd hafter hbefore
  | some record =>
      rw [hfound] at hafter
      have hrecord := mem_of_findByDeviceId hfound
      by_cases howner : record.userId = userId
      · simp only [howner, ↓reduceIte, Option.getD_some] at hafter
        have hdeleted := recordsOf_deleteById hrecord.1 hbefore hafter
        exact ⟨howner.symm.trans hdeleted.1,
          hrecord.2.symm.trans hdeleted.2⟩
      · simp only [howner, ↓reduceIte, Option.getD_none] at hafter
        exact absurd hafter hbefore

/-! ### Registrations -/

/-- A registration that changes nothing. -/
theorem framed_register_self :
    Framed s (.register userId deviceId params) s ↔
      ∃ device ∈ s.recordsOf userId deviceId, device.params = params := by
  constructor
  · intro hframed
    have hparams := (hframed.1 userId deviceId params rfl).2
    have hmem : params ∈
        (s.recordsOf userId deviceId).map EncryptedDevice.params := by
      rw [hparams]
      exact List.mem_singleton_self params
    obtain ⟨device, hdevice, heq⟩ := List.mem_map.1 hmem
    exact ⟨device, hdevice, heq⟩
  · intro hown
    obtain ⟨device, hdevice, heq⟩ := hown
    refine ⟨?_, s.length_recordsOf_le, ?_⟩
    · intro user id keys hevent
      cases hevent
      refine ⟨fun other _ => Iff.rfl, ?_⟩
      rw [recordsOf_eq_singleton hdevice, List.map_singleton, heq]
    · intro user id hbefore hafter
      exact absurd hafter hbefore

/-- A registration after which the records are those of before, but for one
of its user and device. -/
theorem framed_register_of {t : DeviceTable} {device : EncryptedDevice}
    (hdevice : device ∈ t.recordsOf userId deviceId)
    (hparams : device.params = params)
    (hothers : ∀ other : EncryptedDevice,
      ¬(other.userId = userId ∧ other.deviceId = deviceId) →
        (other ∈ t.devices ↔ other ∈ s.devices)) :
    Framed s (.register userId deviceId params) t := by
  have hsingle := recordsOf_eq_singleton hdevice
  refine ⟨?_, t.length_recordsOf_le, ?_⟩
  · intro user id keys hevent
    cases hevent
    refine ⟨?_, ?_⟩
    · intro other hother
      exact hothers other (fun hown => hother hown.1)
    · rw [hsingle, List.map_singleton, hparams]
  · intro user id hbefore hafter
    obtain ⟨old, hold⟩ := List.exists_mem_of_ne_nil _ hbefore
    have hmem := mem_recordsOf.1 hold
    by_cases hown : old.userId = userId ∧ old.deviceId = deviceId
    · rw [← hmem.2.1, ← hmem.2.2, hown.1, hown.2, hsingle] at hafter
      cases hafter
    · have hkept : old ∈ t.recordsOf user id :=
        mem_recordsOf.2 ⟨(hothers old hown).2 hmem.1, hmem.2⟩
      rw [hafter] at hkept
      cases hkept

theorem create_eq_some (params : RegisterParams)
    (hnew : s.recordsOf userId deviceId = []) :
    ∃ t, s.create userId deviceId params = some t ∧
      t.devices = s.devices ++ [⟨s.nextId, userId, deviceId, params⟩] := by
  have hindex : (userId, deviceId) ∉ s.devices.map (fun device =>
      (device.userId, device.deviceId)) := by
    intro hmem
    obtain ⟨device, hdevice, hkey⟩ := List.mem_map.1 hmem
    obtain ⟨huser, hid⟩ := Prod.mk.inj hkey
    have hrecord := mem_recordsOf.2 ⟨hdevice, huser, hid⟩
    rw [hnew] at hrecord
    cases hrecord
  rw [create, dif_neg hindex]
  exact ⟨_, rfl, rfl⟩

theorem framed_create {t : DeviceTable}
    (hdevices : t.devices =
      s.devices ++ [⟨s.nextId, userId, deviceId, params⟩]) :
    Framed s (.register userId deviceId params) t := by
  have hmem : ∀ device, device ∈ t.devices ↔ device ∈ s.devices ∨
      device = ⟨s.nextId, userId, deviceId, params⟩ := by
    intro device
    rw [hdevices, List.mem_append, List.mem_singleton]
  refine framed_register_of
    (mem_recordsOf.2 ⟨(hmem _).2 (.inr rfl), rfl, rfl⟩) rfl ?_
  intro other hother
  rw [hmem]
  constructor
  · rintro (hold | rfl)
    · exact hold
    · exact absurd ⟨rfl, rfl⟩ hother
  · exact Or.inl

/-- The records with one of them registered. -/
def overwritten (s : DeviceTable) (id userId : ObjectId)
    (params : RegisterParams) : List EncryptedDevice :=
  s.devices.map (fun device =>
    if device.id = id then registered userId params device else device)

theorem update_cases (s : DeviceTable) (id userId : ObjectId)
    (params : RegisterParams) :
    (s.update id userId params).devices = s.overwritten id userId params ∧
        ((s.overwritten id userId params).map (fun device =>
          (device.userId, device.deviceId))).Nodup ∨
      s.update id userId params = s ∧
        ¬((s.overwritten id userId params).map (fun device =>
          (device.userId, device.deviceId))).Nodup := by
  by_cases hindex : ((s.overwritten id userId params).map (fun device =>
      (device.userId, device.deviceId))).Nodup
  · refine .inl ⟨?_, hindex⟩
    rw [overwritten] at hindex ⊢
    rw [update, dif_pos hindex]
  · refine .inr ⟨?_, hindex⟩
    rw [overwritten] at hindex
    rw [update, dif_neg hindex]

theorem registered_mem_overwritten {device : EncryptedDevice}
    (hdevice : device ∈ s.devices) :
    registered userId params device ∈
      s.overwritten device.id userId params :=
  List.mem_map.2 ⟨device, hdevice, if_pos rfl⟩

/-- The other records are those of before, and the one that is registered is
of the registering user. -/
theorem mem_overwritten {device other : EncryptedDevice}
    (hdevice : device ∈ s.devices) (hother : other ≠ device)
    (hkept : other ≠ registered userId params device) :
    other ∈ s.overwritten device.id userId params ↔ other ∈ s.devices := by
  constructor
  · intro hmem
    obtain ⟨old, hold, heq⟩ := List.mem_map.1 hmem
    by_cases hid : old.id = device.id
    · have hsame : old = device :=
        List.inj_on_of_nodup_map s.ids_nodup hold hdevice hid
      rw [if_pos hid, hsame] at heq
      exact absurd heq.symm hkept
    · rw [if_neg hid] at heq
      rw [← heq]
      exact hold
  · intro hmem
    have hid : other.id ≠ device.id := by
      intro hid
      exact hother (List.inj_on_of_nodup_map s.ids_nodup hmem hdevice hid)
    exact List.mem_map.2 ⟨other, hmem, if_neg hid⟩

/-- The user's own record is overwritten. -/
theorem framed_update_own {device : EncryptedDevice}
    (hdevice : device ∈ s.devices) (huser : device.userId = userId)
    (hid : device.deviceId = deviceId) :
    Framed s (.register userId deviceId params)
      (s.update device.id userId params) := by
  have hkeys : (s.overwritten device.id userId params).map (fun device =>
      (device.userId, device.deviceId)) =
      s.devices.map (fun device => (device.userId, device.deviceId)) := by
    rw [overwritten, List.map_map]
    refine List.map_congr_left ?_
    intro old hold
    by_cases hsame : old.id = device.id
    · have heq : old = device :=
        List.inj_on_of_nodup_map s.ids_nodup hold hdevice hsame
      rw [Function.comp_apply, if_pos hsame, heq, registered, huser]
    · rw [Function.comp_apply, if_neg hsame]
  have hindex := s.index
  rw [← hkeys] at hindex
  obtain ⟨hdevices, -⟩ | ⟨-, hrefused⟩ :=
    s.update_cases device.id userId params
  · have hrecord : registered userId params device ∈
        (s.update device.id userId params).recordsOf userId deviceId := by
      rw [mem_recordsOf, hdevices]
      exact ⟨registered_mem_overwritten hdevice, rfl, hid⟩
    refine framed_register_of hrecord rfl ?_
    intro other hother
    rw [hdevices]
    refine mem_overwritten hdevice ?_ ?_
    · intro heq
      rw [heq] at hother
      exact hother ⟨huser, hid⟩
    · intro heq
      rw [heq] at hother
      exact hother ⟨rfl, hid⟩
  · exact absurd hindex hrefused

/-- The record of another user is overwritten, or the update is refused. -/
theorem framed_update_other {device : EncryptedDevice}
    (hdevice : device ∈ s.devices) (huser : device.userId ≠ userId)
    (hid : device.deviceId = deviceId) :
    Framed s (.register userId deviceId params)
        (s.update device.id userId params) ↔
      ∃ own ∈ s.recordsOf userId deviceId, own.params = params := by
  obtain ⟨hdevices, hindex⟩ | ⟨hsame, -⟩ :=
    s.update_cases device.id userId params
  · -- the user has no record yet and takes over the other user's
    refine iff_of_false ?_ ?_
    · intro hframed
      have hkept := ((hframed.1 userId deviceId params rfl).1 device
        huser).2 hdevice
      rw [hdevices] at hkept
      obtain ⟨old, hold, heq⟩ := List.mem_map.1 hkept
      by_cases hold_id : old.id = device.id
      · rw [if_pos hold_id] at heq
        exact huser (congrArg EncryptedDevice.userId heq).symm
      · rw [if_neg hold_id] at heq
        exact hold_id (congrArg EncryptedDevice.id heq)
    · rintro ⟨own, hown, -⟩
      have hmem := mem_recordsOf.1 hown
      have hown_id : own.id ≠ device.id := by
        intro heq
        have hown_eq : own = device :=
          List.inj_on_of_nodup_map s.ids_nodup hmem.1 hdevice heq
        rw [← hown_eq] at huser
        exact huser hmem.2.1
      have hown_mem : own ∈ s.overwritten device.id userId params :=
        List.mem_map.2 ⟨own, hmem.1, if_neg hown_id⟩
      have heq := List.inj_on_of_nodup_map hindex hown_mem
        (registered_mem_overwritten hdevice)
        (Prod.ext hmem.2.1 (hmem.2.2.trans hid.symm))
      have hids : own.id = (registered userId params device).id :=
        congrArg EncryptedDevice.id heq
      exact hown_id hids
  · rw [hsame]
    exact framed_register_self

/-- One event does what it may exactly when it finds no record of another
user. -/
theorem framed_perform (server : Documents.Choice EncryptedDevice)
    (s : DeviceTable) (event : DeviceEvent) :
    Framed s event (s.perform server event) ↔ FindsOwn server s event := by
  cases event with
  | logout userId deviceId =>
      exact iff_of_true (framed_logout server s userId deviceId) trivial
  | delete userId deviceId =>
      exact iff_of_true (framed_delete server s userId deviceId) trivial
  | register userId deviceId params =>
      simp only [perform, register, FindsOwn]
      cases hfound : s.findByDeviceId server deviceId with
      | none =>
          rw [findByDeviceId, server.pick_eq_none_iff,
            List.filter_eq_nil_iff] at hfound
          have hnew : s.recordsOf userId deviceId = [] := by
            rw [List.eq_nil_iff_forall_not_mem]
            intro device hdevice
            have hmem := mem_recordsOf.1 hdevice
            exact hfound device hmem.1 (by simpa using hmem.2.2)
          obtain ⟨t, hcreate, hdevices⟩ := create_eq_some params hnew
          refine iff_of_true ?_ (by simp)
          simp only [hcreate, Option.getD_some]
          exact framed_create hdevices
      | some existingDevice =>
          obtain ⟨hdevice, hid⟩ := mem_of_findByDeviceId hfound
          simp only [Option.getD_some, Option.mem_def, Option.some.injEq,
            forall_eq']
          by_cases huser : existingDevice.userId = userId
          · exact iff_of_true (framed_update_own hdevice huser hid)
              (.inl huser)
          · rw [framed_update_other hdevice huser hid]
            exact (or_iff_right huser).symm

/-- In every run of registrations, logouts and deletions, from every table,
all events do what they may exactly when every registration finds no record
of another user, or finds that of its own user, or is repeated. -/
theorem registrations_framed (server : Documents.Choice EncryptedDevice)
    (s : DeviceTable) (events : List DeviceEvent) :
    (∀ done event, done ++ [event] <+: events →
        Framed (s.performAll server done) event
          (s.performAll server (done ++ [event]))) ↔
      ∀ done event, done ++ [event] <+: events →
        FindsOwn server (s.performAll server done) event := by
  have hstep : ∀ done event,
      Framed (s.performAll server done) event
          (s.performAll server (done ++ [event])) ↔
        FindsOwn server (s.performAll server done) event := by
    intro done event
    have hlast : s.performAll server (done ++ [event]) =
        (s.performAll server done).perform server event := by
      simp [performAll]
    rw [hlast]
    exact framed_perform server _ event
  constructor
  · intro hframed done event hprefix
    exact (hstep done event).1 (hframed done event hprefix)
  · intro hfinds done event hprefix
    exact (hstep done event).2 (hfinds done event hprefix)

/-- The keys of a registration with one one-time key. -/
def keysOf (name : String) : RegisterParams :=
  ⟨name, name, .object ⟨[("0", .text name)], by simp⟩⟩

/-- The registration of the second user takes the record of the first. -/
theorem second_phone_takes_record :
    ¬∀ (server : Documents.Choice EncryptedDevice) (s : DeviceTable)
        (events : List DeviceEvent) (done : List DeviceEvent)
        (event : DeviceEvent), done ++ [event] <+: events →
      Framed (s.performAll server done) event
        (s.performAll server (done ++ [event])) := by
  intro hframed
  have hsecond := hframed .oldest empty
    [.register 1 Sample.phone (keysOf "a"),
      .register 2 Sample.phone (keysOf "b")]
    [.register 1 Sample.phone (keysOf "a")]
    (.register 2 Sample.phone (keysOf "b"))
    (List.prefix_refl _)
  refine hsecond.2.2 1 Sample.phone ?_ ?_
  · exact List.ne_nil_of_length_pos (by decide)
  · exact List.eq_nil_of_length_eq_zero (by decide)

end DeviceTable

end SamaServer
