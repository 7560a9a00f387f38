/-
Who is listed as online in a cluster.  The users of a page are checked after
the page was cut out of the keys, and the check removes the keys of users
whose devices are all stale; the count checks nothing.  Both are right as long
as no user of the organization is left with stale devices only.
-/
import Mathlib.Data.Set.Card
import SamaServer.OnlineLists
import SamaServer.Pages

namespace SamaServer

/-! ### The scan -/

/-- A set of different keys keeps them all. -/
theorem eraseDups_of_nodup {K : Type} [DecidableEq K] {keys : List K}
    (hnodup : keys.Nodup) : keys.eraseDups = keys := by
  induction keys with
  | nil => rfl
  | cons key keys ih =>
      obtain ⟨hkey, hrest⟩ := List.nodup_cons.1 hnodup
      have hfilter : keys.filter (fun other => !other == key) = keys := by
        refine List.filter_eq_self.2 (fun other hother => ?_)
        have hne : other ≠ key := by
          rintro rfl
          exact hkey hother
        simpa using hne
      rw [List.eraseDups_cons, hfilter, ih hrest]

namespace RedisManager

variable {K : Type} {offset limit : Nat}

theorem foldl_scanItem_returned (keys results : List K) :
    keys.foldl (scanItem offset limit) (.returned results) =
      .returned results := by
  induction keys with
  | nil => rfl
  | cons key keys ih => exact ih

/-- The loop goes on after the keys that were skipped and those it has. -/
theorem results_foldl_scanItem (keys results : List K) (scanned : Nat)
    (hroom : results.length < limit) :
    (keys.foldl (scanItem offset limit) (.scanning scanned results)).results =
      results ++ (keys.drop (offset - scanned)).take
        (limit - results.length) := by
  induction keys generalizing results scanned with
  | nil => simp [ScanState.results]
  | cons key keys ih =>
      rw [List.foldl_cons, scanItem]
      split
      · next hskipped =>
          have hzero : offset - scanned = 0 := by omega
          have hone : limit - results.length =
              (limit - (results.length + 1)) + 1 := by omega
          rw [hzero, List.drop_zero, hone, List.take_succ_cons]
          split
          · next hfull =>
              rw [List.length_append, List.length_singleton] at hfull
              have hnone : limit - (results.length + 1) = 0 := by omega
              rw [foldl_scanItem_returned, hnone, List.take_zero]
              rfl
          · next hfull =>
              rw [List.length_append, List.length_singleton] at hfull
              have hnext : offset - (scanned + 1) = 0 := by omega
              rw [ih (results ++ [key]) (scanned + 1)
                (by rw [List.length_append, List.length_singleton]; omega),
                hnext, List.drop_zero, List.length_append,
                List.length_singleton, List.append_assoc]
              rfl
      · next hskipped =>
          have hnext : offset - scanned = (offset - (scanned + 1)) + 1 := by
            omega
          rw [ih results (scanned + 1) hroom, hnext, List.drop_succ_cons]

/-- A scan cuts the page out of the keys. -/
theorem scanWithPagination_eq (scan : Scan K) (keys : List K)
    (hlimit : 0 < limit) :
    scanWithPagination scan keys offset limit =
      (keys.drop offset).take limit := by
  rw [scanWithPagination, ← List.foldl_flatten, scan.flatten_batches,
    results_foldl_scanItem keys [] 0 hlimit]
  rfl

theorem countWithMatch_eq (scan : Scan K) (keys : List K) :
    countWithMatch scan keys = keys.length := by
  have hcount : ∀ (batches : List (List K)) (count : Nat),
      batches.foldl (fun count items => count + items.length) count =
        count + batches.flatten.length := by
    intro batches
    induction batches with
    | nil => simp
    | cons items batches ih =>
        intro count
        rw [List.foldl_cons, ih, List.flatten_cons, List.length_append]
        omega
  rw [countWithMatch, hcount, scan.flatten_batches, Nat.zero_add]

end RedisManager

/-! ### The keys -/

namespace Redis

variable (redis : Redis) (organizationId : OrganizationId)

theorem usersOf_eq :
    redis.usersOf organizationId =
      (redis.userDevices.keys.filter (fun key =>
        key.1 = organizationId ∧ redis.userDevices.members key ≠ [])).map
          Prod.snd := by
  rw [usersOf, OrderedMap.keys, List.filter_map, List.map_map]
  have hentries : ∀ entry ∈ redis.userDevices.entries,
      redis.userDevices.members entry.1 = entry.2 := by
    intro entry hentry
    rw [OrderedMap.members, (redis.userDevices.mem_entries_iff _ _).1 hentry]
    rfl
  have hfilter : redis.userDevices.entries.filter (fun entry =>
        entry.1.1 = organizationId ∧ entry.2 ≠ []) =
      redis.userDevices.entries.filter ((fun key =>
        decide (key.1 = organizationId ∧
          redis.userDevices.members key ≠ [])) ∘ Prod.fst) := by
    refine List.filter_congr (fun entry hentry => ?_)
    rw [Function.comp_apply, hentries entry hentry]
  rw [hfilter]
  rfl

variable {redis organizationId}

theorem nodup_usersOf : (redis.usersOf organizationId).Nodup := by
  rw [usersOf_eq]
  refine List.Nodup.map_on ?_ (redis.userDevices.keys_nodup.filter _)
  intro first hfirst second hsecond huser
  have hfirstKey := of_decide_eq_true (List.mem_filter.1 hfirst).2
  have hsecondKey := of_decide_eq_true (List.mem_filter.1 hsecond).2
  exact Prod.ext (hfirstKey.1.trans hsecondKey.1.symm) huser

theorem mem_usersOf_iff {userId : UserId} :
    userId ∈ redis.usersOf organizationId ↔
      redis.listUserDevice organizationId userId ≠ [] := by
  rw [usersOf_eq, List.mem_map]
  constructor
  · rintro ⟨⟨organization, user⟩, hkey, rfl⟩
    obtain ⟨rfl, hmembers⟩ := of_decide_eq_true (List.mem_filter.1 hkey).2
    exact hmembers
  · intro hmembers
    refine ⟨(organizationId, userId), List.mem_filter.2 ⟨?_,
      decide_eq_true ⟨rfl, hmembers⟩⟩, rfl⟩
    rw [OrderedMap.mem_keys_iff]
    by_contra hnone
    exact hmembers (by simp [listUserDevice, OrderedMap.members,
      Option.eq_none_iff_forall_ne_some.2 (fun value hvalue =>
        hnone ⟨value, hvalue⟩)])

/-- The key of a user keeps its place as long as a device is left. -/
theorem usersOf_removeUserDevice {userId : UserId} {deviceId left : DeviceId}
    (hleft : left ∈ redis.listUserDevice organizationId userId)
    (hne : left ≠ deviceId) :
    (redis.removeUserDevice organizationId userId deviceId).usersOf
      organizationId = redis.usersOf organizationId := by
  have hmem : left ∈ (redis.userDevices.members
      (organizationId, userId)).filter (fun other => other ≠ deviceId) :=
    List.mem_filter.2 ⟨hleft, decide_eq_true hne⟩
  have hkey : (organizationId, userId) ∈ redis.userDevices.keys := by
    obtain ⟨key, hkey, huser⟩ := List.mem_map.1 ((usersOf_eq redis
      organizationId) ▸ mem_usersOf_iff.2 (List.ne_nil_of_mem hleft))
    obtain ⟨hkeys, hgood⟩ := List.mem_filter.1 hkey
    rw [← huser, ← (of_decide_eq_true hgood).1]
    exact hkeys
  have hkeys : (redis.userDevices.removeMember (organizationId, userId)
      deviceId).keys = redis.userDevices.keys := by
    rw [OrderedMap.removeMember, if_neg (List.ne_nil_of_mem hmem),
      OrderedMap.keys_set, if_pos hkey]
  rw [usersOf_eq, usersOf_eq, removeUserDevice]
  dsimp only
  rw [hkeys]
  congr 1
  refine List.filter_congr (fun key _ => ?_)
  rw [OrderedMap.members_removeMember]
  split
  · next hsame =>
      rw [hsame]
      have hbefore := List.ne_nil_of_mem hleft
      have hafter := List.ne_nil_of_mem hmem
      exact decide_eq_decide.2 (and_congr_right (fun _ =>
        iff_of_true hafter hbefore))
  · rfl

end Redis

/-! ### The list and the count -/

namespace Cluster

open SessionService

variable (cluster : Cluster) (endpoint : Endpoint)
  (organizationId : OrganizationId) (userId : UserId)

/-- The node that lists finds nothing wrong with the device. -/
def IsActual (deviceId : DeviceId) : Prop :=
  isNotActual endpoint userId deviceId
    (cluster.redis.retrieveUserExtraParams userId deviceId)
    (cluster.node endpoint) = false

def HasActualDevice : Prop :=
  ∃ deviceId ∈ cluster.redis.listUserDevice organizationId userId,
    cluster.IsActual endpoint userId deviceId

/-- Enough pages put together have every user with an actual device, once,
and no other user, and the count is the number of these users. -/
structure ListsActual (scan : Scan UserId) (deployment : Deployment)
    (limit : Nat) : Prop where
  once : ∀ pages,
    (cluster.redis.usersOf organizationId).length ≤ pages * limit →
    ((readPages scan deployment endpoint organizationId limit pages).run
      cluster).1.Nodup
  users : ∀ pages,
    (cluster.redis.usersOf organizationId).length ≤ pages * limit →
    ∀ userId, userId ∈ ((readPages scan deployment endpoint organizationId
        limit pages).run cluster).1 ↔
      cluster.HasActualDevice endpoint organizationId userId
  count : ((onlineUsersCountWithNodes scan organizationId).run cluster).1 =
    {userId | cluster.HasActualDevice endpoint organizationId userId}.ncard

/-- No user of the organization is left with stale devices only. -/
def AllActual : Prop :=
  ∀ userId ∈ cluster.redis.usersOf organizationId,
    cluster.HasActualDevice endpoint organizationId userId

instance (deviceId : DeviceId) :
    Decidable (cluster.IsActual endpoint userId deviceId) :=
  inferInstanceAs (Decidable (_ = false))

instance : Decidable (cluster.AllActual endpoint organizationId) :=
  inferInstanceAs (Decidable (∀ userId ∈ cluster.redis.usersOf organizationId,
    ∃ deviceId ∈ cluster.redis.listUserDevice organizationId userId,
      cluster.IsActual endpoint userId deviceId))

variable {cluster endpoint organizationId userId}

theorem HasActualDevice.mem_usersOf
    (hactual : cluster.HasActualDevice endpoint organizationId userId) :
    userId ∈ cluster.redis.usersOf organizationId := by
  obtain ⟨deviceId, hmem, _⟩ := hactual
  exact Redis.mem_usersOf_iff.2 (List.ne_nil_of_mem hmem)

/-- The users with an actual device are as many as there are keys just when
every key is of such a user. -/
theorem ncard_hasActualDevice_iff :
    (cluster.redis.usersOf organizationId).length =
        {userId | cluster.HasActualDevice endpoint organizationId
          userId}.ncard ↔
      cluster.AllActual endpoint organizationId := by
  let keys : Finset UserId := ⟨cluster.redis.usersOf organizationId,
    Redis.nodup_usersOf⟩
  have hsubset : {userId | cluster.HasActualDevice endpoint organizationId
      userId} ⊆ (keys : Set UserId) :=
    fun userId hactual => HasActualDevice.mem_usersOf hactual
  have hcard : (keys : Set UserId).ncard =
      (cluster.redis.usersOf organizationId).length :=
    Set.ncard_coe_finset keys
  rw [← hcard]
  constructor
  · intro hsame
    have hall := Set.eq_of_subset_of_ncard_le hsubset hsame.le
    intro userId hmem
    have hkey : userId ∈ (keys : Set UserId) := hmem
    rw [← hall] at hkey
    exact hkey
  · intro hall
    rw [Set.Subset.antisymm hsubset (fun userId hmem => hall userId hmem)]

/-! ### Reading the pages -/

/-- The state while pages are read: the keys are those of the start, and each
of their users has an actual device. -/
structure Reads (endpoint : Endpoint) (organizationId : OrganizationId)
    (users : List UserId) (cluster : Cluster) : Prop where
  users : cluster.redis.usersOf organizationId = users
  actual : cluster.AllActual endpoint organizationId

variable {deviceId other : DeviceId} {users : List UserId}

/-- The cluster after a stale device was dropped. -/
def dropDevice (cluster : Cluster) (endpoint : Endpoint)
    (organizationId : OrganizationId) (userId : UserId)
    (deviceId : DeviceId) : Cluster :=
  cluster.setRedis (cluster.redis.removeAllUserDeviceDataTransaction endpoint
    organizationId userId deviceId)

theorem isActual_dropDevice (otherUser : UserId)
    (hother : ¬ (otherUser = userId ∧ other = deviceId)) :
    (cluster.dropDevice endpoint organizationId userId deviceId).IsActual
        endpoint otherUser other ↔
      cluster.IsActual endpoint otherUser other := by
  have hkey : (otherUser, other) ≠ (userId, deviceId) := by
    rintro ⟨rfl, rfl⟩
    exact hother ⟨rfl, rfl⟩
  have hparams : (cluster.dropDevice endpoint organizationId userId
      deviceId).redis.retrieveUserExtraParams otherUser other =
        cluster.redis.retrieveUserExtraParams otherUser other := by
    change ((cluster.redis.userData.erase (userId, deviceId)).get?
      (otherUser, other)).getD {} = _
    rw [OrderedMap.get?_erase, if_neg hkey]
    rfl
  rw [IsActual, hparams]
  rfl

theorem mem_listUserDevice_dropDevice (otherUser : UserId) :
    other ∈ (cluster.dropDevice endpoint organizationId userId
        deviceId).redis.listUserDevice organizationId otherUser ↔
      other ∈ cluster.redis.listUserDevice organizationId otherUser ∧
        ¬ (otherUser = userId ∧ other = deviceId) := by
  change other ∈ (cluster.redis.userDevices.removeMember
    (organizationId, userId) deviceId).members _ ↔ _
  rw [OrderedMap.mem_members_removeMember, Prod.mk.injEq]
  simp [Redis.listUserDevice]

/-- What is actual is never the device that is dropped. -/
theorem HasActualDevice.dropDevice {otherUser : UserId}
    (hstale : ¬ cluster.IsActual endpoint userId deviceId)
    (hactual : cluster.HasActualDevice endpoint organizationId otherUser) :
    (cluster.dropDevice endpoint organizationId userId
      deviceId).HasActualDevice endpoint organizationId otherUser := by
  obtain ⟨other, hmem, hother⟩ := hactual
  have hne : ¬ (otherUser = userId ∧ other = deviceId) := by
    rintro ⟨rfl, rfl⟩
    exact hstale hother
  exact ⟨other, (mem_listUserDevice_dropDevice otherUser).2 ⟨hmem, hne⟩,
    (isActual_dropDevice otherUser hne).2 hother⟩

theorem Reads.dropDevice (hreads : Reads endpoint organizationId users cluster)
    (huser : userId ∈ users)
    (hstale : ¬ cluster.IsActual endpoint userId deviceId) :
    Reads endpoint organizationId users
      (cluster.dropDevice endpoint organizationId userId deviceId) := by
  have hkey := hreads.users ▸ huser
  obtain ⟨left, hleft, hactual⟩ := hreads.actual userId hkey
  have hne : left ≠ deviceId := by
    rintro rfl
    exact hstale hactual
  have husers : (cluster.dropDevice endpoint organizationId userId
      deviceId).redis.usersOf organizationId =
        cluster.redis.usersOf organizationId :=
    Redis.usersOf_removeUserDevice hleft hne
  refine ⟨husers.trans hreads.users, ?_⟩
  intro otherUser hmem
  rw [husers] at hmem
  exact (hreads.actual otherUser hmem).dropDevice hstale

end Cluster

namespace SessionService

open RedisManager

variable {scan : Scan UserId} {deployment : Deployment}
  {endpoint : Endpoint} {organizationId : OrganizationId}
  {userId : UserId} {users : List UserId} {cluster : Cluster}
  {offset limit : Nat}

theorem reads_filterActualDeviceIds (deviceIds : List DeviceId)
    (hreads : cluster.Reads endpoint organizationId users)
    (huser : userId ∈ users) :
    ((filterActualDeviceIds endpoint organizationId userId deviceIds).run
        cluster).2.Reads endpoint organizationId users ∧
      ∀ deviceId ∈ deviceIds, cluster.IsActual endpoint userId deviceId →
        ((filterActualDeviceIds endpoint organizationId userId deviceIds).run
          cluster).1 ≠ [] := by
  induction deviceIds generalizing cluster with
  | nil => exact ⟨hreads, fun _ hmem => by cases hmem⟩
  | cons deviceId deviceIds ih =>
      simp only [filterActualDeviceIds, Async.run_bind, run_redisQuery,
        run_nodeBlock, setNode_self]
      split
      · next hstale =>
          have hnot : ¬ cluster.IsActual endpoint userId deviceId := by
            rw [Cluster.IsActual, hstale]
            exact Bool.noConfusion
          obtain ⟨hafter, hfound⟩ := ih (hreads.dropDevice huser hnot)
          refine ⟨hafter, ?_⟩
          intro other hmem hactual
          have hne : other ≠ deviceId := by
            rintro rfl
            exact hnot hactual
          refine hfound other (List.mem_of_ne_of_mem hne hmem) ?_
          exact (Cluster.isActual_dropDevice userId
            (fun hsame => hne hsame.2)).2 hactual
      · rw [Async.run_bind]
        exact ⟨(ih hreads).1, fun _ _ _ => List.cons_ne_nil _ _⟩

theorem reads_listUserDevice (hcluster : deployment.isStandAloneNode = false)
    (hreads : cluster.Reads endpoint organizationId users)
    (huser : userId ∈ users) :
    ((listUserDevice deployment endpoint organizationId userId true).run
        cluster).2.Reads endpoint organizationId users ∧
      ((listUserDevice deployment endpoint organizationId userId true).run
        cluster).1 ≠ [] := by
  simp only [listUserDevice, hcluster, Bool.false_eq_true, if_false, if_true,
    Async.run_bind, run_redisQuery]
  obtain ⟨hafter, hfound⟩ := reads_filterActualDeviceIds
    (cluster.redis.listUserDevice organizationId userId) hreads huser
  obtain ⟨deviceId, hmem, hactual⟩ :=
    hreads.actual userId (hreads.users ▸ huser)
  exact ⟨hafter, hfound deviceId hmem hactual⟩

/-- No user is taken off a page. -/
theorem reads_filterActualUserIds
    (hcluster : deployment.isStandAloneNode = false)
    (userIds actualUserIds : List UserId)
    (hreads : cluster.Reads endpoint organizationId users)
    (husers : ∀ userId ∈ userIds, userId ∈ users) :
    ((filterActualUserIds deployment endpoint organizationId userIds
        actualUserIds).run cluster).2.Reads endpoint organizationId users ∧
      ((filterActualUserIds deployment endpoint organizationId userIds
        actualUserIds).run cluster).1 = actualUserIds := by
  induction userIds generalizing cluster with
  | nil => exact ⟨hreads, rfl⟩
  | cons userId userIds ih =>
      obtain ⟨hafter, hdevices⟩ := reads_listUserDevice hcluster hreads
        (husers userId List.mem_cons_self)
      rw [filterActualUserIds, Async.run_bind, if_neg hdevices]
      exact ih hafter (fun other hother =>
        husers other (List.mem_cons_of_mem userId hother))

theorem reads_onlineUsersListWithNode
    (hcluster : deployment.isStandAloneNode = false) (hlimit : 0 < limit)
    (hreads : cluster.Reads endpoint organizationId users) :
    ((onlineUsersListWithNode scan deployment endpoint organizationId offset
        limit).run cluster).2.Reads endpoint organizationId users ∧
      ((onlineUsersListWithNode scan deployment endpoint organizationId
        offset limit).run cluster).1 = (users.drop offset).take limit := by
  have hpage : scanWithPagination scan (cluster.redis.usersOf
      organizationId) offset limit = (users.drop offset).take limit := by
    rw [scanWithPagination_eq scan _ hlimit, hreads.users]
  have hsublist : ((users.drop offset).take limit).Sublist users :=
    (List.take_sublist _ _).trans (List.drop_sublist _ _)
  have hnodup : ((users.drop offset).take limit).Nodup :=
    (hreads.users ▸ Redis.nodup_usersOf).sublist hsublist
  rw [onlineUsersListWithNode, Async.run_bind, run_redisQuery, hpage,
    eraseDups_of_nodup hnodup]
  exact reads_filterActualUserIds hcluster _ _ hreads
    (fun userId hmem => hsublist.subset hmem)

theorem reads_readPages (hcluster : deployment.isStandAloneNode = false)
    (hlimit : 0 < limit)
    (hreads : cluster.Reads endpoint organizationId users) (pages : Nat) :
    ((readPages scan deployment endpoint organizationId limit pages).run
        cluster).2.Reads endpoint organizationId users ∧
      ((readPages scan deployment endpoint organizationId limit pages).run
        cluster).1 = users.take (pages * limit) := by
  induction pages with
  | zero => simpa [readPages] using hreads
  | succ pages ih =>
      obtain ⟨hbefore, hearlier⟩ := ih
      obtain ⟨hafter, hpage⟩ :=
        reads_onlineUsersListWithNode hcluster hlimit hbefore
      rw [readPages, Async.run_bind, Async.run_bind]
      refine ⟨hafter, ?_⟩
      change _ ++ _ = _
      rw [hearlier, hpage, Nat.succ_mul, List.take_add]

end SessionService

namespace Cluster

open SessionService

variable {scan : Scan UserId} {deployment : Deployment}
  {endpoint : Endpoint} {organizationId : OrganizationId}
  {cluster : Cluster} {limit : Nat}

theorem run_onlineUsersCountWithNodes :
    ((onlineUsersCountWithNodes scan organizationId).run cluster).1 =
      (cluster.redis.usersOf organizationId).length :=
  RedisManager.countWithMatch_eq scan _

/-- In a cluster the pages put together are the users with an actual device
and the count is their number just when every user with a key has an actual
device. -/
theorem listsActual_iff (scan : Scan UserId) (deployment : Deployment)
    (hcluster : deployment.isStandAloneNode = false) (endpoint : Endpoint)
    (organizationId : OrganizationId) (limit : Nat) (hlimit : 0 < limit)
    (cluster : Cluster) :
    cluster.ListsActual endpoint organizationId scan deployment limit ↔
      cluster.AllActual endpoint organizationId := by
  constructor
  · intro hlists
    have hcount := hlists.count
    rw [run_onlineUsersCountWithNodes] at hcount
    exact ncard_hasActualDevice_iff.1 hcount
  · intro hactual
    have hpages : ∀ pages,
        (cluster.redis.usersOf organizationId).length ≤ pages * limit →
        ((readPages scan deployment endpoint organizationId limit pages).run
          cluster).1 = cluster.redis.usersOf organizationId := by
      intro pages hall
      rw [(reads_readPages hcluster hlimit ⟨rfl, hactual⟩ pages).2,
        List.take_of_length_le hall]
    refine ⟨?_, ?_, ?_⟩
    · intro pages hall
      rw [hpages pages hall]
      exact Redis.nodup_usersOf
    · intro pages hall userId
      rw [hpages pages hall]
      exact ⟨hactual userId, HasActualDevice.mem_usersOf⟩
    · rw [run_onlineUsersCountWithNodes]
      exact ncard_hasActualDevice_iff.2 hactual

/-- A device of `alice` was left behind without its hash; `bob` is connected
to the other node. -/
def leftBehind (devices : List DeviceId) : Cluster where
  node := fun _ => .empty
  redis :=
    { nodeUsers := .empty
      userDevices := (OrderedMap.empty.set (Sample.organization,
        Sample.alice) devices).set (Sample.organization, Sample.bob)
          [Sample.laptop]
      userData := (OrderedMap.empty.set (Sample.alice, Sample.laptop)
        { nodeEndpoint := some Sample.nodeB }).set
          (Sample.bob, Sample.laptop)
          { nodeEndpoint := some Sample.nodeB } }

/-- A stale device beside an actual one does no harm. -/
theorem listsActual_leftBehind :
    (leftBehind [Sample.phone, Sample.laptop]).ListsActual Sample.nodeA
      Sample.organization (.whole UserId)
      ⟨false, fun _ => Sample.organization⟩ 1 :=
  (listsActual_iff (.whole UserId) ⟨false, fun _ => Sample.organization⟩ rfl
    Sample.nodeA Sample.organization 1 Nat.one_pos
    (leftBehind [Sample.phone, Sample.laptop])).2 (by decide)

/-- The first page drops the only key of `alice`, and `bob` moves to a place
that was read before. -/
theorem not_listsActual :
    ¬ ∀ (scan : Scan UserId) (deployment : Deployment)
        (endpoint : Endpoint) (organizationId : OrganizationId)
        (limit : Nat) (cluster : Cluster),
      deployment.isStandAloneNode = false → 0 < limit →
      cluster.ListsActual endpoint organizationId scan deployment limit := by
  intro hall
  have hlists := hall (.whole UserId)
    ⟨false, fun _ => Sample.organization⟩ Sample.nodeA Sample.organization 1
    (leftBehind [Sample.phone]) rfl Nat.one_pos
  have hbob := (hlists.users 2 (by decide) Sample.bob).2
    ⟨Sample.laptop, by decide, rfl⟩
  revert hbob
  decide

end Cluster

end SamaServer
