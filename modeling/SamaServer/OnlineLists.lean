/-
The lists of users who are online.  A node that stands alone makes the list
from its own sessions, one entry for each session, and leaves the removal of
repetitions to a set of id objects; a node of a cluster pages through the keys
in Redis and checks the users of the page that it got.
-/
import SamaServer.IdentitySets
import SamaServer.Requests

namespace SamaServer

/-- What `Array.prototype.sort` makes of a list with a comparator that may not
be an order: the same items in some order.  The difference of two object ids
is not a number, and counts as zero, unless their digits happen to be
numbers. -/
structure Sorting (A : Type) where
  sort : List A → List A
  perm : ∀ list, (sort list).Perm list

/-- The sorting by a comparator that finds all items equal. -/
def Sorting.stable (A : Type) : Sorting A :=
  ⟨fun list => list, fun list => List.Perm.refl list⟩

namespace ActiveSessions

/-- A session of a device that belongs to the organization, of a user who has
a device. -/
def isListed (active : ActiveSessions) (organizationId : OrganizationId)
    (session : Session) : Bool :=
  session.organizationId = organizationId ∧
    session.extraParams.deviceId ≠ some httpDeviceId ∧
    active.listUserDeviceLocal session.userId ≠ []

variable (sorting : Sorting (Ref UserId)) (active : ActiveSessions)
  (organizationId : OrganizationId)

/-- The id in a session is an object that the login has loaded. -/
def retrieveLocalActiveSessionUserIds : List (Ref UserId) :=
  let userIds := ((active.sessions.entries.map Prod.snd).filter
    (active.isListed organizationId)).map (fun session =>
      Ref.object session.userId)
  Ref.setOf (sorting.sort userIds)

def onlineUsersListLocal (offset limit : Nat) : List (Ref UserId) :=
  ((active.retrieveLocalActiveSessionUserIds sorting organizationId).drop
    offset).take limit

def onlineUsersCountLocal : Nat :=
  (active.retrieveLocalActiveSessionUserIds sorting organizationId).length

end ActiveSessions

/-- `SCAN` gives the keys in a fixed order, in batches of any size. -/
structure Scan (K : Type) where
  batches : List K → List (List K)
  flatten_batches : ∀ keys, (batches keys).flatten = keys

/-- One batch at a time. -/
def Scan.whole (K : Type) : Scan K :=
  ⟨fun keys => [keys], fun keys => by simp⟩

namespace RedisManager

variable {K : Type}

/-- The state of the loop of a scan, or the keys when it has returned. -/
inductive ScanState (K : Type)
  | scanning (scanned : Nat) (results : List K)
  | returned (results : List K)

/-- One key: the offset is skipped, and the limit ends the scan. -/
def scanItem (offset limit : Nat) (state : ScanState K) (item : K) :
    ScanState K :=
  match state with
  | .returned results => .returned results
  | .scanning scanned results =>
      if offset ≤ scanned then
        if limit ≤ (results ++ [item]).length then
          .returned (results ++ [item])
        else .scanning (scanned + 1) (results ++ [item])
      else .scanning (scanned + 1) results

def ScanState.results : ScanState K → List K
  | .scanning _ results => results
  | .returned results => results

/-- The keys that match, from the offset on. -/
def scanWithPagination (scan : Scan K) (keys : List K)
    (offset limit : Nat) : List K :=
  ((scan.batches keys).foldl (List.foldl (scanItem offset limit))
    (.scanning 0 [])).results

def countWithMatch (scan : Scan K) (keys : List K) : Nat :=
  (scan.batches keys).foldl (fun count items => count + items.length) 0

end RedisManager

/-- The users of an organization with a set of devices; an empty set does not
exist.  Ids have neither colons nor wildcards. -/
def Redis.usersOf (redis : Redis) (organizationId : OrganizationId) :
    List UserId :=
  (redis.userDevices.entries.filter (fun entry =>
    entry.1.1 = organizationId ∧ entry.2 ≠ [])).map (fun entry => entry.1.2)

namespace SessionService

open RedisManager

variable (scan : Scan UserId) (deployment : Deployment)
  (endpoint : Endpoint) (organizationId : OrganizationId)

/-- The loop over the users of a page, with the set of those who are left. -/
def filterActualUserIds : List UserId → List UserId →
    Service (List UserId)
  | [], actualUserIds => pure actualUserIds
  | userId :: userIds, actualUserIds => do
      let actualDevices ← listUserDevice deployment endpoint organizationId
        userId true
      filterActualUserIds userIds
        (if actualDevices = [] then
          actualUserIds.filter (fun other => other ≠ userId)
        else actualUserIds)

def onlineUsersListWithNode (offset limit : Nat) :
    Service (List UserId) := do
  let userIds ← redisQuery .lookup (fun redis =>
    scanWithPagination scan (redis.usersOf organizationId) offset limit)
  filterActualUserIds deployment endpoint organizationId userIds
    userIds.eraseDups

def onlineUsersCountWithNodes : Service Nat :=
  redisQuery .lookup (fun redis =>
    countWithMatch scan (redis.usersOf organizationId))

/-- A client that asks for one page after the other. -/
def readPages (limit : Nat) : Nat → Service (List UserId)
  | 0 => pure []
  | pages + 1 => do
      let earlier ← readPages limit pages
      let page ← onlineUsersListWithNode scan deployment endpoint
        organizationId (pages * limit) limit
      pure (earlier ++ page)

end SessionService

end SamaServer
