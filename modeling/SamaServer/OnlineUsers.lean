/-
Who is listed as online on a node that stands alone.  Every session of a
device is an entry of its own, so the list is right as long as no user has two
of them and no session is lost while its connection stays.
-/
import SamaServer.OnlineLists
import SamaServer.Pages
import SamaServer.Runs

namespace SamaServer

/-- The blocks that change the tables of a node: a login or connect, an HTTP
request that is bound to a user, the close of a socket, a removal with the
arguments that were read before, the end of an HTTP request, the deletion of
a user, and a change of the inactive state. -/
inductive TableEvent
  | connected (socket : Socket) (userId : UserId) (deviceId : DeviceId)
  | requested (response : Socket) (organizationId : OrganizationId)
      (userId : UserId)
  | closed (socket : Socket)
  | removed (socket : Socket) (userId : UserId) (deviceId : Option DeviceId)
  | unbound (response : Socket)
  | deleted (socket : Socket)
  | marked (socket : Socket) (isInactive : Bool)

namespace ActiveSessions

/-- What a block does. -/
def apply (deployment : Deployment) (endpoint : Endpoint)
    (active : ActiveSessions) : TableEvent → ActiveSessions
  | .connected socket userId deviceId =>
      active.attach deployment endpoint socket userId deviceId
  | .requested response organizationId userId =>
      (active.addUserDeviceConnection response organizationId userId
        httpDeviceId).2
  | .closed socket => (active.closeConnection socket).2
  | .removed socket userId deviceId =>
      (active.removeConnection socket userId deviceId).2
  | .unbound response => (active.unbindConnection response).2
  | .deleted socket =>
      match active.getSession socket with
      | none => active
      | some session => active.removeAllConnections socket session.userId
  | .marked socket isInactive =>
      match active.getSession socket with
      | none => active
      | some session => active.setInactive socket session isInactive

/-! ### The list -/

/-- A connection of the user other than those of HTTP requests. -/
def IsDevice (connection : Connection) : Prop :=
  connection.deviceId ≠ httpDeviceId

def IsOnline (active : ActiveSessions) (userId : UserId) : Prop :=
  ∃ connection ∈ active.getUserDevices userId, IsDevice connection

/-- The socket has a session of a device of the user. -/
def HasSession (active : ActiveSessions) (socket : Socket)
    (userId : UserId) : Prop :=
  ∃ session, active.getSession socket = some session ∧
    session.userId = userId ∧
    session.extraParams.deviceId ≠ some httpDeviceId

/-- The list has every user of the organization who is online, once, the
count is its length, and the pages of any size put together are the list. -/
structure ListsOnline (sorting : Sorting (Ref UserId))
    (deployment : Deployment) (active : ActiveSessions) : Prop where
  once : ∀ organizationId,
    ((active.retrieveLocalActiveSessionUserIds sorting organizationId).map
      Ref.content).Nodup
  users : ∀ organizationId userId,
    userId ∈ (active.retrieveLocalActiveSessionUserIds sorting
        organizationId).map Ref.content ↔
      deployment.organizationOf userId = organizationId ∧
        active.IsOnline userId
  count : ∀ organizationId,
    active.onlineUsersCountLocal sorting organizationId =
      (active.retrieveLocalActiveSessionUserIds sorting
        organizationId).length
  pages : ∀ organizationId limit pages,
    (active.retrieveLocalActiveSessionUserIds sorting
      organizationId).length ≤ pages * limit →
    (List.range pages).flatMap (fun page =>
      active.onlineUsersListLocal sorting organizationId (page * limit)
        limit) =
      active.retrieveLocalActiveSessionUserIds sorting organizationId

variable {sorting : Sorting (Ref UserId)} {deployment : Deployment}
  {active : ActiveSessions} {organizationId : OrganizationId}
  {userId : UserId} {socket : Socket}

theorem listUserDeviceLocal_ne_nil_iff :
    active.listUserDeviceLocal userId ≠ [] ↔ active.IsOnline userId := by
  rw [listUserDeviceLocal, ne_eq, List.filter_eq_nil_iff]
  simp [IsOnline, IsDevice]

/-- The sessions that give an entry, with their sockets. -/
def listedSessions (active : ActiveSessions)
    (organizationId : OrganizationId) : List (Socket × Session) :=
  active.sessions.entries.filter (fun entry =>
    active.isListed organizationId entry.2)

theorem retrieve_eq (sorting : Sorting (Ref UserId))
    (active : ActiveSessions) (organizationId : OrganizationId) :
    active.retrieveLocalActiveSessionUserIds sorting organizationId =
      Ref.setOf (sorting.sort ((active.listedSessions organizationId).map
        (fun entry => Ref.object entry.2.userId))) := by
  rw [retrieveLocalActiveSessionUserIds, List.filter_map, List.map_map]
  rfl

/-- The set keeps every entry. -/
theorem content_retrieve_perm (sorting : Sorting (Ref UserId))
    (active : ActiveSessions) (organizationId : OrganizationId) :
    ((active.retrieveLocalActiveSessionUserIds sorting organizationId).map
      Ref.content).Perm ((active.listedSessions organizationId).map
        (fun entry => entry.2.userId)) := by
  let refs := (active.listedSessions organizationId).map
    (fun entry => Ref.object entry.2.userId)
  have hobjects : ∀ ref ∈ sorting.sort refs,
      ∃ content, ref = Ref.object content := by
    intro ref href
    obtain ⟨entry, _, rfl⟩ := List.mem_map.1 ((sorting.perm refs).subset href)
    exact ⟨entry.2.userId, rfl⟩
  rw [retrieve_eq, Ref.setOf_of_objects hobjects]
  refine ((sorting.perm refs).map Ref.content).trans ?_
  rw [List.map_map]
  rfl

theorem mem_listedSessions {entry : Socket × Session} :
    entry ∈ active.listedSessions organizationId ↔
      active.getSession entry.1 = some entry.2 ∧
        active.isListed organizationId entry.2 = true := by
  rw [listedSessions, List.mem_filter, OrderedMap.mem_entries_iff]
  rfl

theorem isListed_iff (session : Session) :
    active.isListed organizationId session = true ↔
      session.organizationId = organizationId ∧
        session.extraParams.deviceId ≠ some httpDeviceId ∧
        active.IsOnline session.userId := by
  rw [isListed, decide_eq_true_iff, listUserDeviceLocal_ne_nil_iff]

/-- The socket has a session of a device of the user in the organization. -/
def HasSessionIn (active : ActiveSessions) (organizationId : OrganizationId)
    (socket : Socket) (userId : UserId) : Prop :=
  ∃ session, active.getSession socket = some session ∧
    session.userId = userId ∧ session.organizationId = organizationId ∧
    session.extraParams.deviceId ≠ some httpDeviceId

/-- A user is listed for every session of a device. -/
theorem mem_content_retrieve_iff :
    userId ∈ (active.retrieveLocalActiveSessionUserIds sorting
        organizationId).map Ref.content ↔
      active.IsOnline userId ∧
        ∃ socket, active.HasSessionIn organizationId socket userId := by
  rw [(content_retrieve_perm sorting active organizationId).mem_iff,
    List.mem_map]
  constructor
  · rintro ⟨⟨socket, session⟩, hentry, rfl⟩
    obtain ⟨hget, hlisted⟩ := mem_listedSessions.1 hentry
    obtain ⟨horganization, hdevice, honline⟩ := (isListed_iff session).1 hlisted
    exact ⟨honline, socket, session, hget, rfl, horganization, hdevice⟩
  · rintro ⟨honline, socket, session, hget, rfl, horganization, hdevice⟩
    exact ⟨(socket, session), mem_listedSessions.2 ⟨hget,
      (isListed_iff session).2 ⟨horganization, hdevice, honline⟩⟩, rfl⟩

/-- No user is listed twice when no two sessions of a user are listed. -/
theorem nodup_content_retrieve_iff :
    ((active.retrieveLocalActiveSessionUserIds sorting organizationId).map
        Ref.content).Nodup ↔
      ∀ first ∈ active.listedSessions organizationId,
        ∀ second ∈ active.listedSessions organizationId,
          first.2.userId = second.2.userId → first.1 = second.1 := by
  rw [(content_retrieve_perm sorting active organizationId).nodup_iff]
  have hkeys : ((active.listedSessions organizationId).map
      Prod.fst).Nodup :=
    active.sessions.keys_nodup.sublist (List.filter_sublist.map Prod.fst)
  constructor
  · intro hnodup first hfirst second hsecond huser
    rw [List.inj_on_of_nodup_map hnodup hfirst hsecond huser]
  · intro hsockets
    refine List.Nodup.map_on ?_ (List.Nodup.of_map Prod.fst hkeys)
    intro first hfirst second hsecond huser
    exact List.inj_on_of_nodup_map hkeys hfirst hsecond
      (hsockets first hfirst second hsecond huser)

/-! ### Tables in order -/

/-- Every connection of a device has its session, and no user has two
sessions of devices. -/
structure Tidy (deployment : Deployment) (active : ActiveSessions) :
    Prop where
  distinct : active.Distinct
  sessions : ∀ userId, ∀ connection ∈ active.getUserDevices userId,
    IsDevice connection → active.HasSession connection.socket userId
  organizations : ∀ socket session,
    active.getSession socket = some session →
    session.extraParams.deviceId ≠ some httpDeviceId →
    session.organizationId = deployment.organizationOf session.userId
  single : ∀ userId first second, active.HasSession first userId →
    active.HasSession second userId → first = second

theorem tidy_empty : Tidy deployment empty where
  distinct := distinct_empty
  sessions := by
    intro userId connection hmem
    cases hmem
  organizations := by
    intro socket session hget
    cases hget
  single := by
    rintro userId first second ⟨session, hget, _⟩
    cases hget

theorem Tidy.listsOnline (htidy : Tidy deployment active)
    (sorting : Sorting (Ref UserId)) :
    ListsOnline sorting deployment active where
  once := by
    intro organizationId
    refine nodup_content_retrieve_iff.2 ?_
    intro first hfirst second hsecond huser
    obtain ⟨hfirstGet, hfirstListed⟩ := mem_listedSessions.1 hfirst
    obtain ⟨hsecondGet, hsecondListed⟩ := mem_listedSessions.1 hsecond
    exact htidy.single first.2.userId first.1 second.1
      ⟨first.2, hfirstGet, rfl, ((isListed_iff _).1 hfirstListed).2.1⟩
      ⟨second.2, hsecondGet, huser.symm,
        ((isListed_iff _).1 hsecondListed).2.1⟩
  users := by
    intro organizationId userId
    rw [mem_content_retrieve_iff, and_comm]
    refine and_congr_left (fun honline => ?_)
    constructor
    · rintro ⟨socket, session, hget, rfl, rfl, hdevice⟩
      exact (htidy.organizations socket session hget hdevice).symm
    · rintro rfl
      obtain ⟨connection, hmem, hdevice⟩ := honline
      obtain ⟨session, hget, huser, hsession⟩ :=
        htidy.sessions userId connection hmem hdevice
      refine ⟨connection.socket, session, hget, huser, ?_, hsession⟩
      rw [htidy.organizations _ session hget hsession, huser]
  count := fun _ => rfl
  pages := by
    intro organizationId limit pages hall
    have hpieces := Pages.flatten_pieces limit
      (active.retrieveLocalActiveSessionUserIds sorting organizationId) pages
    rw [List.take_of_length_le hall] at hpieces
    rw [List.flatMap_def]
    exact hpieces

/-- A listed user has a session of a device. -/
theorem ListsOnline.hasSession (hlists : ListsOnline sorting deployment
    active) (honline : active.IsOnline userId) :
    ∃ socket, active.HasSession socket userId := by
  have hlisted := (hlists.users (deployment.organizationOf userId)
    userId).2 ⟨rfl, honline⟩
  obtain ⟨_, socket, session, hget, huser, _, hdevice⟩ :=
    mem_content_retrieve_iff.1 hlisted
  exact ⟨socket, session, hget, huser, hdevice⟩

/-- Two sessions in the user's own organization would both be listed. -/
theorem ListsOnline.single (hlists : ListsOnline sorting deployment active)
    (honline : active.IsOnline userId) {first second : Socket}
    (hfirst : active.HasSessionIn (deployment.organizationOf userId) first
      userId)
    (hsecond : active.HasSessionIn (deployment.organizationOf userId) second
      userId) :
    first = second := by
  obtain ⟨session, hget, rfl, horganization, hdevice⟩ := hfirst
  obtain ⟨other, hotherGet, huser, hotherOrganization, hotherDevice⟩ :=
    hsecond
  refine nodup_content_retrieve_iff.1
    (hlists.once (deployment.organizationOf session.userId))
    (first, session) ?_ (second, other) ?_ huser.symm
  · exact mem_listedSessions.2 ⟨hget,
      (isListed_iff session).2 ⟨horganization, hdevice, honline⟩⟩
  · refine mem_listedSessions.2 ⟨hotherGet, (isListed_iff other).2
      ⟨hotherOrganization, hotherDevice, ?_⟩⟩
    rw [huser]
    exact honline

/-! ### Steps -/

/-- The socket has a connection of a device of the user. -/
def HoldsDevice (active : ActiveSessions) (socket : Socket) (userId : UserId) :
    Prop :=
  ∃ connection ∈ active.getUserDevices userId,
    connection.socket = socket ∧ IsDevice connection

/-- A session of a device is started for a user who has no other, and a
session ends or is replaced together with the connection of its socket. -/
def KeepsOnline (active : ActiveSessions) : TableEvent → Prop
  | .connected socket userId deviceId =>
      (∀ other, active.HoldsDevice socket other → other = userId) ∧
        (deviceId ≠ httpDeviceId →
          ∀ other, active.HasSession other userId → other = socket)
  | .requested response _ userId =>
      ∀ other, active.HoldsDevice response other → other = userId
  | .removed socket userId deviceId =>
      ∀ other, ∀ connection ∈ active.getUserDevices other,
        connection.socket = socket → IsDevice connection →
          other = userId ∧ some connection.deviceId =
            deviceId.or (active.getDeviceId socket userId)
  | .unbound response => ∀ other, ¬ active.HoldsDevice response other
  | _ => True

variable {after : ActiveSessions} {endpoint : Endpoint}

theorem Tidy.hasSession_of_holds (htidy : Tidy deployment active)
    (hholds : active.HoldsDevice socket userId) :
    active.HasSession socket userId := by
  obtain ⟨connection, hmem, rfl, hdevice⟩ := hholds
  exact htidy.sessions userId connection hmem hdevice

/-- The tables after a socket was connected. -/
structure Connects (active after : ActiveSessions) (socket : Socket)
    (organizationId : OrganizationId) (userId : UserId)
    (deviceId : DeviceId) : Prop where
  distinct : after.Distinct
  own : ∃ session, after.getSession socket = some session ∧
    session.userId = userId ∧ session.organizationId = organizationId ∧
    session.extraParams.deviceId = some deviceId
  others : ∀ other ≠ socket, after.getSession other = active.getSession other
  devices : ∀ other, after.getUserDevices other =
    if other = userId then
      otherDeviceConnections (active.getUserDevices userId) socket
        deviceId ++ [⟨socket, deviceId, organizationId⟩]
    else active.getUserDevices other

theorem connects_attach (hdistinct : active.Distinct)
    (deployment : Deployment) (endpoint : Endpoint) (socket : Socket)
    (userId : UserId) (deviceId : DeviceId) :
    Connects active (active.attach deployment endpoint socket userId
      deviceId) socket (deployment.organizationOf userId) userId
      deviceId where
  distinct := distinct_attach hdistinct deployment endpoint socket userId
    deviceId
  own := by
    rw [getSession_attach, if_pos rfl]
    exact ⟨_, rfl, rfl, rfl, rfl⟩
  others := by
    intro other hother
    rw [getSession_attach, if_neg hother]
  devices := getUserDevices_attach active deployment endpoint socket userId
    deviceId

theorem connects_addUserDeviceConnection (hdistinct : active.Distinct)
    (socket : Socket) (organizationId : OrganizationId) (userId : UserId)
    (deviceId : DeviceId) :
    Connects active (active.addUserDeviceConnection socket organizationId
      userId deviceId).2 socket organizationId userId deviceId where
  distinct := distinct_addUserDeviceConnection hdistinct socket
    organizationId userId deviceId
  own := by
    rw [getSession_addUserDeviceConnection, if_pos rfl]
    exact ⟨_, rfl, rfl, rfl, rfl⟩
  others := by
    intro other hother
    rw [getSession_addUserDeviceConnection, if_neg hother]
  devices := getUserDevices_addUserDeviceConnection active socket
    organizationId userId deviceId

section Connect

variable {deviceId : DeviceId}
  (hconnects : Connects active after socket organizationId userId deviceId)

include hconnects

/-- The sessions of devices after a connect. -/
theorem Connects.hasSession_iff (other : Socket) (user : UserId) :
    after.HasSession other user ↔
      if other = socket then user = userId ∧ deviceId ≠ httpDeviceId
      else active.HasSession other user := by
  by_cases hother : other = socket
  · subst hother
    obtain ⟨session, hget, huser, _, hdevice⟩ := hconnects.own
    rw [if_pos rfl]
    constructor
    · rintro ⟨found, hfound, rfl, hfoundDevice⟩
      rw [hget, Option.some_inj] at hfound
      subst hfound
      exact ⟨huser, fun hhttp => hfoundDevice (hhttp ▸ hdevice)⟩
    · rintro ⟨rfl, hdeviceId⟩
      refine ⟨session, hget, huser, ?_⟩
      rw [hdevice]
      exact fun hsame => hdeviceId (Option.some_inj.1 hsame)
  · rw [if_neg hother, HasSession, hconnects.others other hother]
    rfl

/-- The connections of devices after a connect, at other sockets. -/
theorem Connects.mem_devices (hdistinct : active.Distinct) {user : UserId}
    {connection : Connection}
    (hmem : connection ∈ after.getUserDevices user) :
    connection ∈ active.getUserDevices user ∧
        (user = userId → connection.socket ≠ socket) ∨
      user = userId ∧ connection = ⟨socket, deviceId, organizationId⟩ := by
  rw [hconnects.devices] at hmem
  split at hmem
  · next huser =>
      subst huser
      rcases List.mem_append.1 hmem with hold | hnew
      · obtain ⟨hmember, hsocket, _⟩ := (mem_otherDeviceConnections
          (hdistinct user) socket deviceId connection).1 hold
        exact Or.inl ⟨hmember, fun _ => hsocket⟩
      · exact Or.inr ⟨rfl, List.mem_singleton.1 hnew⟩
  · next huser => exact Or.inl ⟨hmem, fun hsame => absurd hsame huser⟩

theorem Connects.tidy (htidy : Tidy deployment active)
    (horganization : deviceId ≠ httpDeviceId →
      organizationId = deployment.organizationOf userId)
    (hholds : ∀ other, active.HoldsDevice socket other → other = userId)
    (hsingle : deviceId ≠ httpDeviceId →
      ∀ other, active.HasSession other userId → other = socket) :
    Tidy deployment after where
  distinct := hconnects.distinct
  sessions := by
    intro user connection hmem hdevice
    rw [hconnects.hasSession_iff]
    rcases hconnects.mem_devices htidy.distinct hmem with
      ⟨hold, hsocket⟩ | ⟨rfl, rfl⟩
    · have hne : connection.socket ≠ socket := by
        intro hsame
        exact hsocket (hholds user ⟨connection, hold, hsame, hdevice⟩) hsame
      rw [if_neg hne]
      exact htidy.sessions user connection hold hdevice
    · rw [if_pos rfl]
      exact ⟨rfl, hdevice⟩
  organizations := by
    intro other session hget hdevice
    by_cases hother : other = socket
    · subst hother
      obtain ⟨own, hown, huser, hownOrganization, hownDevice⟩ :=
        hconnects.own
      rw [hget, Option.some_inj] at hown
      subst hown
      rw [hownOrganization, huser]
      exact horganization (fun hhttp => hdevice (hhttp ▸ hownDevice))
    · rw [hconnects.others other hother] at hget
      exact htidy.organizations other session hget hdevice
  single := by
    intro user first second hfirst hsecond
    rw [hconnects.hasSession_iff] at hfirst hsecond
    split at hfirst
    · next hfirstSocket =>
        split at hsecond
        · next hsecondSocket => exact hfirstSocket.trans hsecondSocket.symm
        · next hsecondSocket =>
            rw [hfirst.1] at hsecond
            exact absurd (hsingle hfirst.2 second hsecond) hsecondSocket
    · next hfirstSocket =>
        split at hsecond
        · rw [hsecond.1] at hfirst
          exact absurd (hsingle hsecond.2 first hfirst) hfirstSocket
        · exact htidy.single user first second hfirst hsecond

/-- A connection that lost its session keeps its user off the list. -/
theorem Connects.holds_of_listsOnline (htidy : Tidy deployment active)
    (hlists : ListsOnline sorting deployment after) :
    ∀ other, active.HoldsDevice socket other → other = userId := by
  intro other hholds
  by_contra hother
  obtain ⟨connection, hmem, hsocket, hdevice⟩ := hholds
  have honline : after.IsOnline other := by
    refine ⟨connection, ?_, hdevice⟩
    rw [hconnects.devices, if_neg hother]
    exact hmem
  obtain ⟨found, hfound⟩ := hlists.hasSession honline
  rw [hconnects.hasSession_iff] at hfound
  split at hfound
  · exact hother hfound.1
  · next hne =>
      exact hne (htidy.single other found socket hfound
        (htidy.hasSession_of_holds ⟨connection, hmem, hsocket, hdevice⟩))

/-- A second session of a device lists the user twice. -/
theorem Connects.single_of_listsOnline (htidy : Tidy deployment active)
    (horganization : organizationId = deployment.organizationOf userId)
    (hdeviceId : deviceId ≠ httpDeviceId)
    (hlists : ListsOnline sorting deployment after) :
    ∀ other, active.HasSession other userId → other = socket := by
  intro other hother
  by_contra hne
  have honline : after.IsOnline userId := by
    refine ⟨⟨socket, deviceId, organizationId⟩, ?_, hdeviceId⟩
    rw [hconnects.devices, if_pos rfl]
    exact List.mem_append_right _ (List.mem_singleton_self _)
  obtain ⟨session, hget, huser, hdevice⟩ := hother
  obtain ⟨own, hown, hownUser, hownOrganization, hownDevice⟩ := hconnects.own
  refine hne (hlists.single honline ?_ ?_)
  · refine ⟨session, ?_, huser, ?_, hdevice⟩
    · rw [hconnects.others other hne]
      exact hget
    · rw [htidy.organizations other session hget hdevice, huser]
  · refine ⟨own, hown, hownUser, hownOrganization.trans horganization, ?_⟩
    rw [hownDevice]
    exact fun hsame => hdeviceId (Option.some_inj.1 hsame)

end Connect

/-- A session ends; the connections that are left are not of its socket. -/
theorem Tidy.of_removal (htidy : Tidy deployment active)
    (hdistinct : after.Distinct)
    (hsession : ∀ other, after.getSession other =
      if other = socket then none else active.getSession other)
    (hdevices : ∀ userId, ∀ connection ∈ after.getUserDevices userId,
      connection ∈ active.getUserDevices userId ∧
        (IsDevice connection → connection.socket ≠ socket)) :
    Tidy deployment after := by
  have hold : ∀ other user, after.HasSession other user →
      active.HasSession other user := by
    rintro other user ⟨session, hget, huser, hdevice⟩
    rw [hsession] at hget
    split at hget
    · cases hget
    · exact ⟨session, hget, huser, hdevice⟩
  refine ⟨hdistinct, ?_, ?_, ?_⟩
  · intro user connection hmem hdevice
    obtain ⟨hmember, hsocket⟩ := hdevices user connection hmem
    obtain ⟨session, hget, hrest⟩ :=
      htidy.sessions user connection hmember hdevice
    refine ⟨session, ?_, hrest⟩
    rw [hsession, if_neg (hsocket hdevice)]
    exact hget
  · intro other session hget hdevice
    rw [hsession] at hget
    split at hget
    · cases hget
    · exact htidy.organizations other session hget hdevice
  · intro user first second hfirst hsecond
    exact htidy.single user first second (hold first user hfirst)
      (hold second user hsecond)

theorem Tidy.removed (htidy : Tidy deployment active)
    {deviceId : Option DeviceId}
    (hkeeps : active.KeepsOnline (.removed socket userId deviceId)) :
    Tidy deployment (active.removeConnection socket userId deviceId).2 := by
  refine htidy.of_removal (distinct_removeConnection htidy.distinct socket
    userId deviceId) (getSession_removeConnection active socket userId
      deviceId) ?_
  intro user connection hmem
  rw [getUserDevices_removeConnection] at hmem
  split at hmem
  · next huser =>
      obtain ⟨hold, hkept⟩ := List.mem_filter.1 hmem
      rw [← huser] at hold
      refine ⟨hold, ?_⟩
      intro hdevice hsocket
      exact of_decide_eq_true hkept
        (hkeeps user connection hold hsocket hdevice).2
  · next huser =>
      refine ⟨hmem, ?_⟩
      intro hdevice hsocket
      exact huser (hkeeps user connection hmem hsocket hdevice).1

/-- A removal that leaves the connection of its socket breaks the list. -/
theorem Tidy.keepsOnline_removed (htidy : Tidy deployment active)
    {deviceId : Option DeviceId}
    (hlists : ListsOnline sorting deployment
      (active.removeConnection socket userId deviceId).2) :
    active.KeepsOnline (.removed socket userId deviceId) := by
  intro other connection hmem hsocket hdevice
  by_contra hleft
  have honline : (active.removeConnection socket userId
      deviceId).2.IsOnline other := by
    refine ⟨connection, ?_, hdevice⟩
    rw [getUserDevices_removeConnection]
    split
    · next huser =>
        rw [← huser]
        refine List.mem_filter.2 ⟨hmem, decide_eq_true ?_⟩
        intro hsame
        rw [huser] at hsame
        exact hleft ⟨huser, hsame⟩
    · exact hmem
  obtain ⟨found, session, hget, hrest⟩ := hlists.hasSession honline
  rw [getSession_removeConnection] at hget
  split at hget
  · cases hget
  · next hne =>
      exact hne (htidy.single other found socket ⟨session, hget, hrest⟩
        (htidy.hasSession_of_holds ⟨connection, hmem, hsocket, hdevice⟩))

/-- The session of a socket names the user and device of its connection. -/
theorem Tidy.keepsOnline_own (htidy : Tidy deployment active)
    {session : Session} (hget : active.getSession socket = some session) :
    active.KeepsOnline (.removed socket session.userId none) := by
  intro other connection hmem hsocket hdevice
  obtain ⟨found, hfound, rfl, _⟩ := htidy.hasSession_of_holds
    ⟨connection, hmem, hsocket, hdevice⟩
  rw [hget, Option.some_inj] at hfound
  subst hfound
  refine ⟨rfl, ?_⟩
  rw [Option.none_or]
  exact ((getDeviceId_eq_some_iff htidy.distinct socket session.userId
    connection.deviceId).2 ⟨connection, hmem, hsocket, rfl⟩).symm

theorem Tidy.closed (htidy : Tidy deployment active) (socket : Socket) :
    Tidy deployment (active.closeConnection socket).2 := by
  unfold closeConnection
  split
  · exact htidy
  · next session hget => exact htidy.removed (htidy.keepsOnline_own hget)

/-- The end of a request removes connections of HTTP requests alone. -/
theorem keepsOnline_http_iff :
    active.KeepsOnline (.removed socket userId (some httpDeviceId)) ↔
      active.KeepsOnline (.unbound socket) := by
  constructor
  · rintro hkeeps other ⟨connection, hmem, hsocket, hdevice⟩
    have hsame := (hkeeps other connection hmem hsocket hdevice).2
    rw [Option.some_or, Option.some_inj] at hsame
    exact hdevice hsame
  · intro hkeeps other connection hmem hsocket hdevice
    exact absurd ⟨connection, hmem, hsocket, hdevice⟩ (hkeeps other)

theorem Tidy.unbound (htidy : Tidy deployment active)
    (hkeeps : active.KeepsOnline (.unbound socket)) :
    Tidy deployment (active.unbindConnection socket).2 := by
  unfold unbindConnection
  split
  · exact htidy
  · next session hget =>
      exact htidy.removed (keepsOnline_http_iff.2 hkeeps)

theorem Tidy.keepsOnline_unbound (htidy : Tidy deployment active)
    (hlists : ListsOnline sorting deployment
      (active.unbindConnection socket).2) :
    active.KeepsOnline (.unbound socket) := by
  unfold unbindConnection at hlists
  split at hlists
  · next hget =>
      intro other hholds
      obtain ⟨session, hfound, _⟩ := htidy.hasSession_of_holds hholds
      rw [hget] at hfound
      cases hfound
  · next session hget =>
      exact keepsOnline_http_iff.1 (htidy.keepsOnline_removed hlists)

theorem Tidy.deleted (htidy : Tidy deployment active) {session : Session}
    (hget : active.getSession socket = some session) :
    Tidy deployment (active.removeAllConnections socket session.userId) := by
  refine htidy.of_removal (distinct_removeAllConnections htidy.distinct
    socket session.userId) (getSession_removeAllConnections active socket
      session.userId) ?_
  intro user connection hmem
  rw [getUserDevices_removeAllConnections] at hmem
  split at hmem
  · cases hmem
  · next huser =>
      refine ⟨hmem, ?_⟩
      intro hdevice hsocket
      exact huser (htidy.keepsOnline_own hget user connection hmem hsocket
        hdevice).1

/-- The inactive state is not part of what is listed. -/
theorem hasSession_setInactive_iff {session : Session}
    (hget : active.getSession socket = some session) (isInactive : Bool)
    (other : Socket) (user : UserId) :
    (active.setInactive socket session isInactive).HasSession other user ↔
      active.HasSession other user := by
  rw [HasSession, getSession_setInactive]
  split
  · next hother =>
      rw [hother, HasSession, hget]
      constructor
      · rintro ⟨found, hfound, hrest⟩
        cases hfound
        exact ⟨session, rfl, hrest⟩
      · rintro ⟨found, hfound, hrest⟩
        cases hfound
        exact ⟨_, rfl, hrest⟩
  · rfl

theorem Tidy.marked (htidy : Tidy deployment active) {session : Session}
    (hget : active.getSession socket = some session) (isInactive : Bool) :
    Tidy deployment (active.setInactive socket session isInactive) where
  distinct := htidy.distinct
  sessions := by
    intro user connection hmem hdevice
    rw [hasSession_setInactive_iff hget]
    exact htidy.sessions user connection hmem hdevice
  organizations := by
    intro other found hfound hdevice
    rw [getSession_setInactive] at hfound
    split at hfound
    · cases hfound
      exact htidy.organizations socket session hget hdevice
    · exact htidy.organizations other found hfound hdevice
  single := by
    intro user first second hfirst hsecond
    rw [hasSession_setInactive_iff hget] at hfirst hsecond
    exact htidy.single user first second hfirst hsecond

/-! ### Runs -/

theorem Tidy.apply (htidy : Tidy deployment active) (endpoint : Endpoint)
    {event : TableEvent} (hkeeps : active.KeepsOnline event) :
    Tidy deployment (active.apply deployment endpoint event) := by
  cases event with
  | connected socket userId deviceId =>
      exact (connects_attach htidy.distinct deployment endpoint socket
        userId deviceId).tidy htidy (fun _ => rfl) hkeeps.1 hkeeps.2
  | requested response organizationId userId =>
      exact (connects_addUserDeviceConnection htidy.distinct response
        organizationId userId httpDeviceId).tidy htidy
          (fun hdevice => absurd rfl hdevice) hkeeps
          (fun hdevice => absurd rfl hdevice)
  | closed socket => exact htidy.closed socket
  | removed socket userId deviceId => exact htidy.removed hkeeps
  | unbound response => exact htidy.unbound hkeeps
  | deleted socket =>
      rw [ActiveSessions.apply]
      split
      · exact htidy
      · next session hget => exact htidy.deleted hget
  | marked socket isInactive =>
      rw [ActiveSessions.apply]
      split
      · exact htidy
      · next session hget => exact htidy.marked hget isInactive

theorem Tidy.keepsOnline_of_listsOnline (htidy : Tidy deployment active)
    (endpoint : Endpoint) {event : TableEvent}
    (hlists : ListsOnline sorting deployment
      (active.apply deployment endpoint event)) :
    active.KeepsOnline event := by
  cases event with
  | connected socket userId deviceId =>
      have hconnects := connects_attach htidy.distinct deployment endpoint
        socket userId deviceId
      exact ⟨hconnects.holds_of_listsOnline htidy hlists,
        fun hdevice => hconnects.single_of_listsOnline htidy rfl hdevice
          hlists⟩
  | requested response organizationId userId =>
      exact (connects_addUserDeviceConnection htidy.distinct response
        organizationId userId httpDeviceId).holds_of_listsOnline htidy hlists
  | removed socket userId deviceId =>
      exact htidy.keepsOnline_removed hlists
  | unbound response => exact htidy.keepsOnline_unbound hlists
  | closed socket => trivial
  | deleted socket => trivial
  | marked socket isInactive => trivial

/-- The list of a node is right throughout a run just when every session of a
device is started for a user who has no other, and no session ends or is
replaced while a connection of its socket stays. -/
theorem listsOnline_throughout_iff (sorting : Sorting (Ref UserId))
    (deployment : Deployment) (endpoint : Endpoint)
    (events : List TableEvent) :
    (∀ done, done <+: events → ListsOnline sorting deployment
        (done.foldl (ActiveSessions.apply deployment endpoint) empty)) ↔
      ∀ done event, done ++ [event] <+: events →
        (done.foldl (ActiveSessions.apply deployment endpoint)
          empty).KeepsOnline event :=
  throughout_iff_of_invariant tidy_empty
    (fun _ htidy => htidy.listsOnline sorting)
    (fun _ _ htidy hkeeps => htidy.apply endpoint hkeeps)
    (fun _ _ htidy hlists =>
      htidy.keepsOnline_of_listsOnline endpoint hlists) events

/-- A user with two devices is listed twice. -/
theorem not_listsOnline_throughout :
    ¬ ∀ (sorting : Sorting (Ref UserId)) (deployment : Deployment)
        (endpoint : Endpoint) (events : List TableEvent),
      ListsOnline sorting deployment
        (events.foldl (ActiveSessions.apply deployment endpoint) empty) := by
  intro hall
  have honce := (hall (.stable (Ref UserId))
    ⟨true, fun _ => Sample.organization⟩ Sample.nodeA
    [.connected 1 Sample.alice Sample.phone,
      .connected 2 Sample.alice Sample.laptop]).once Sample.organization
  revert honce
  decide

end ActiveSessions

end SamaServer
