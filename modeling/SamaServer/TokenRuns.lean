/-
The records that logins leave.  A login that does not come with the access
token of its device looks for a record whose token is the name of a type, never
finds one and stores a new record beside the old.
-/
import SamaServer.UserTokens
import SamaServer.Runs

namespace SamaServer

/-- The device of a record is a text when its type is access, and its token is
what a login or a code makes for it. -/
def UserToken.WellFormed (record : UserToken) : Prop :=
  match record.type with
  | .otp => ∃ code, record.token = .code code
  | .access => record.deviceId.toText = record.deviceId ∧
      ∃ login now, record.token = .jwt ⟨record.userId, login, .access, now⟩
  | .refresh =>
      ∃ login now, record.token = .jwt ⟨record.userId, login, .refresh, now⟩

@[simp] theorem DeviceParam.toText_toText (deviceId : DeviceParam) :
    deviceId.toText.toText = deviceId.toText := by
  cases deviceId <;> rfl

namespace TokenStore

variable {config : TokenConfig} {s : TokenStore}

/-- The records of a user, a device and a type.  Devices with the same text
are the same. -/
def recordsOf (s : TokenStore) (userId : ObjectId) (deviceId : DeviceParam)
    (type : TokenType) : List UserToken :=
  s.tokens.filter (fun record => record.userId = userId ∧
    record.deviceId.toText = deviceId.toText ∧ record.type = type)

/-- A user has one access record and one refresh record for a device at
most. -/
def UniqueTokens (s : TokenStore) : Prop :=
  ∀ userId deviceId type, type ≠ .otp →
    (s.recordsOf userId deviceId type).length ≤ 1

/-- The user, the device and the access token of a login that succeeds. -/
def loginResult? (config : TokenConfig) (s : TokenStore) :
    TokenEvent → Option (ObjectId × DeviceParam × TokenValue)
  | .loggedIn now params =>
      match (userLogin config now params s).1 with
      | .ok (user, token) => some (user.1, params.deviceId, token.token)
      | .error _ => none
  | .httpLoggedIn now params =>
      match (httpUserAuth config now params s).1 with
      | .ok (user, newAccessToken, _) =>
          params.deviceId.map (fun deviceId =>
            (user.1, deviceId, newAccessToken.token))
      | .error _ => none
  | _ => none

/-- After a login its token, and no other, connects the user on the
device. -/
def OnlyLatest (config : TokenConfig) (s : TokenStore)
    (event : TokenEvent) : Prop :=
  ∀ userId deviceId token,
    loginResult? config s event = some (userId, deviceId, token) →
    ∀ value, (step config s event).connect (some value) deviceId =
      .ok userId ↔ value = token

/-- The login comes with an access token, or its user has no access record
for the device. -/
def FreshAccess (config : TokenConfig) (s : TokenStore)
    (params : LoginParams) : Prop :=
  ∀ user token, s.authenticate config params = .ok (user, token) →
    (∃ record, token = some record ∧ record.type = .access) ∨
      s.recordsOf user.1 params.deviceId .access = []

/-- A login over HTTP also asks that its user has no refresh record for the
device. -/
def Fresh (config : TokenConfig) (s : TokenStore) : TokenEvent → Prop
  | .loggedIn _ params => isAccepted params → FreshAccess config s params
  | .httpLoggedIn _ params => ∀ userInfo deviceId,
      httpUserInfo params = .ok (userInfo, deviceId) →
        FreshAccess config s userInfo ∧
        ∀ user token, s.authenticate config userInfo = .ok (user, token) →
          s.recordsOf user.1 deviceId .refresh = []
  | _ => True

/-! ### Records as they are stored -/

def WellFormed (s : TokenStore) : Prop :=
  ∀ record ∈ s.tokens, record.WellFormed

theorem WellFormed.createToken (hformed : s.WellFormed)
    {record : UserToken} (hrecord : record.WellFormed) :
    (s.createToken record).WellFormed := by
  intro other hother
  rw [TokenStore.createToken, List.mem_append, List.mem_singleton] at hother
  rcases hother with hold | rfl
  · exact hformed other hold
  · exact hrecord

theorem WellFormed.setToken (hformed : s.WellFormed)
    {found : UserToken → Bool} {value : TokenValue}
    (hvalue : ∀ record ∈ s.tokens, found record → record.WellFormed →
      UserToken.WellFormed { record with token := value }) :
    (s.setToken found value).WellFormed := by
  intro other hother
  rcases Documents.mem_updateFirst hother with hold | ⟨old, hold, hfound, rfl⟩
  · exact hformed other hold
  · exact hvalue old hold hfound (hformed old hold)

theorem WellFormed.deleteByUserId (hformed : s.WellFormed)
    (userId : ObjectId) (deviceId : DeviceParam) :
    (s.deleteByUserId userId deviceId).WellFormed :=
  fun record hrecord => hformed record (List.mem_filter.1 hrecord).1

/-- The name of a type is the token of no record. -/
theorem WellFormed.findTokenByUserId_name (hformed : s.WellFormed)
    (userId : ObjectId) (deviceId : DeviceParam) (name : String) :
    s.findTokenByUserId userId deviceId (some (.text name)) = none := by
  rw [findTokenByUserId, List.find?_eq_none]
  intro record hrecord
  have hrecord := hformed record hrecord
  rw [UserToken.WellFormed] at hrecord
  cases htype : record.type with
  | access =>
      rw [htype] at hrecord
      obtain ⟨_, login, now, htoken⟩ := hrecord
      simp [htoken]
  | refresh =>
      rw [htype] at hrecord
      obtain ⟨login, now, htoken⟩ := hrecord
      simp [htoken]
  | otp =>
      rw [htype] at hrecord
      obtain ⟨code, htoken⟩ := hrecord
      simp [htoken]

/-- A record that was found is kept if it has the type that is written;
otherwise a new one is stored. -/
theorem WellFormed.updateToken_eq (hformed : s.WellFormed)
    (token : Option UserToken) (organizationId : Option ObjectId)
    (userId : ObjectId) (deviceId : DeviceParam) (jwtToken : TokenValue)
    (tokenType : TokenType) :
    s.updateToken token organizationId userId deviceId jwtToken tokenType =
      match token with
      | some record =>
          if record.type = tokenType then
            ({ record with token := jwtToken },
              s.setToken (fun other => other.userId = record.userId ∧
                other.deviceId = deviceId ∧ other.type = tokenType) jwtToken)
          else
            (⟨organizationId, userId, deviceId, tokenType, jwtToken⟩,
              s.createToken
                ⟨organizationId, userId, deviceId, tokenType, jwtToken⟩)
      | none =>
          (⟨organizationId, userId, deviceId, tokenType, jwtToken⟩,
            s.createToken
              ⟨organizationId, userId, deviceId, tokenType, jwtToken⟩) := by
  unfold updateToken
  rw [hformed.findTokenByUserId_name]
  cases token with
  | none => rfl
  | some record =>
      by_cases htype : record.type = tokenType
      · simp [htype]
      · simp [htype, Ne.symm htype]

theorem length_recordsOf_setToken (s : TokenStore)
    (found : UserToken → Bool) (value : TokenValue) (userId : ObjectId)
    (deviceId : DeviceParam) (type : TokenType) :
    ((s.setToken found value).recordsOf userId deviceId type).length =
      (s.recordsOf userId deviceId type).length := by
  have husers : ((s.setToken found value).recordsOf userId deviceId
      type).map UserToken.userId =
      (s.recordsOf userId deviceId type).map UserToken.userId := by
    rw [recordsOf, setToken]
    apply Documents.filter_map_updateFirst
    · exact fun _ => rfl
    · exact fun _ => rfl
  have hlength := congrArg List.length husers
  rwa [List.length_map, List.length_map] at hlength

theorem recordsOf_createToken (s : TokenStore) (record : UserToken)
    (userId : ObjectId) (deviceId : DeviceParam) (type : TokenType) :
    (s.createToken record).recordsOf userId deviceId type =
      s.recordsOf userId deviceId type ++
        if record.userId = userId ∧
          record.deviceId.toText = deviceId.toText ∧ record.type = type
        then [record] else [] := by
  rw [recordsOf, createToken, List.filter_append, recordsOf,
    List.filter_singleton]
  simp

theorem uniqueTokens_setToken (s : TokenStore) (found : UserToken → Bool)
    (value : TokenValue) :
    UniqueTokens (s.setToken found value) ↔ UniqueTokens s := by
  simp only [UniqueTokens, length_recordsOf_setToken]

theorem uniqueTokens_createToken (s : TokenStore) (record : UserToken) :
    UniqueTokens (s.createToken record) ↔ UniqueTokens s ∧
      (record.type ≠ .otp →
        s.recordsOf record.userId record.deviceId record.type = []) := by
  constructor
  · intro hunique
    constructor
    · intro userId deviceId type hother
      have hafter := hunique userId deviceId type hother
      rw [recordsOf_createToken, List.length_append] at hafter
      omega
    · intro htype
      have hafter := hunique record.userId record.deviceId record.type htype
      rw [recordsOf_createToken, if_pos ⟨rfl, rfl, rfl⟩,
        List.length_append, List.length_singleton] at hafter
      exact List.length_eq_zero_iff.1 (by omega)
  · intro ⟨hunique, hnone⟩ userId deviceId type hother
    rw [recordsOf_createToken]
    by_cases hsame : record.userId = userId ∧
        record.deviceId.toText = deviceId.toText ∧ record.type = type
    · obtain ⟨rfl, hdevice, rfl⟩ := hsame
      have hbefore : s.recordsOf record.userId deviceId record.type = [] := by
        rw [recordsOf, ← hdevice]
        exact hnone hother
      simp [hbefore, hdevice]
    · rw [if_neg hsame, List.append_nil]
      exact hunique userId deviceId type hother

theorem UniqueTokens.deleteByUserId (hunique : UniqueTokens s)
    (userId : ObjectId) (deviceId : DeviceParam) :
    UniqueTokens (s.deleteByUserId userId deviceId) := by
  intro other device type htype
  refine Nat.le_trans ?_ (hunique other device type htype)
  exact (List.filter_sublist.filter _).length_le

/-! ### Logins -/

/-- The user of a login has an account, and a record that was found is one of
the user and the device. -/
def Identified (s : TokenStore) (deviceId : DeviceParam)
    (found : (ObjectId × Account) × Option UserToken) : Prop :=
  s.accounts.get? found.1.1 = some found.1.2 ∧
    ∀ record, found.2 = some record → record ∈ s.tokens ∧
      record.userId = found.1.1 ∧ record.deviceId = deviceId

theorem identified_authByToken {tokenJwt : TokenValue}
    {deviceId : DeviceParam}
    {found : (ObjectId × Account) × Option UserToken}
    (hok : s.authByToken tokenJwt deviceId = .ok found) :
    s.Identified deviceId found := by
  rw [authByToken] at hok
  cases hfind : s.findToken (some tokenJwt) (some deviceId) none with
  | none => simp [hfind] at hok
  | some token =>
      cases haccount : s.accounts.get? token.userId with
      | none => simp [hfind, haccount] at hok
      | some account =>
          simp only [hfind, haccount, Except.ok.injEq] at hok
          subst hok
          refine ⟨haccount, fun record hrecord => ?_⟩
          cases hrecord
          have hkeys := List.find?_some hfind
          simp at hkeys
          exact ⟨List.mem_of_find?_eq_some hfind, rfl, hkeys.2.symm⟩

theorem findUserById_ok {server : MongoServer} {userId : IdParam}
    {user : ObjectId × Account}
    (hok : s.findUserById server userId = .ok (some user)) :
    user ∈ s.accounts.entries := by
  rw [findUserById] at hok
  cases hquery : userId.queryId? with
  | none => simp [hquery] at hok
  | some query =>
      by_cases hrejects : server.rejectsId query
      · simp [hquery, hrejects] at hok
      · simp only [hquery, hrejects, Bool.false_eq_true, ↓reduceIte,
          Except.ok.injEq] at hok
        exact List.mem_of_find?_eq_some hok

theorem findUser_ok {params : LoginParams} {user : ObjectId × Account}
    (hok : s.findUser config params = .ok (some user)) :
    user ∈ s.accounts.entries := by
  rw [findUser] at hok
  cases hparam : params.userId with
  | none =>
      simp only [hparam, Except.ok.injEq] at hok
      exact List.mem_of_find?_eq_some hok
  | some userId =>
      rw [hparam] at hok
      exact findUserById_ok hok

theorem of_bind_ok {A B : Type} {first : Except TokenError A}
    {rest : A → Except TokenError B} {result : B}
    (hok : (first >>= rest) = .ok result) :
    ∃ value, first = .ok value ∧ rest value = .ok result := by
  cases first with
  | error error => cases hok
  | ok value => exact ⟨value, rfl, hok⟩

/-- The look-up for the record of a login with a password finds nothing. -/
theorem WellFormed.identified_authByUserInfo (hformed : s.WellFormed)
    {params : LoginParams} {deviceId : DeviceParam}
    {found : (ObjectId × Account) × Option UserToken}
    (hok : s.authByUserInfo config params deviceId = .ok found) :
    s.Identified deviceId found := by
  obtain ⟨user, huser, hrest⟩ := of_bind_ok hok
  cases user with
  | none => cases hrest
  | some user =>
      dsimp only at hrest
      split at hrest
      · cases hrest
        refine ⟨(s.accounts.mem_entries_iff _ _).1 (findUser_ok huser), ?_⟩
        intro record hrecord
        rw [hformed.findTokenByUserId_name] at hrecord
        cases hrecord
      · cases hrest

theorem WellFormed.identified_authenticate (hformed : s.WellFormed)
    {params : LoginParams}
    {found : (ObjectId × Account) × Option UserToken}
    (hok : s.authenticate config params = .ok found) :
    s.Identified params.deviceId.toText found := by
  obtain ⟨other, hother, hrest⟩ := of_bind_ok hok
  obtain ⟨_, _, hlast⟩ := of_bind_ok hrest
  cases hlast
  rw [identify] at hother
  cases hfilter : params.token.filter TokenValue.isTruthy with
  | some token =>
      rw [hfilter] at hother
      exact identified_authByToken hother
  | none =>
      rw [hfilter] at hother
      exact hformed.identified_authByUserInfo hother

/-- The record that a login stores when it finds none of its type. -/
def newAccess (params : LoginParams) (user : ObjectId × Account)
    (now : Nat) : UserToken :=
  ⟨params.organizationId, user.1, params.deviceId.toText, .access,
    generateToken user .access now⟩

/-- A login fails, writes to the access record of its device, or stores a
record. -/
theorem WellFormed.userAuth_cases (hformed : s.WellFormed)
    (config : TokenConfig) (now : Nat) (params : LoginParams) :
    (∃ error, s.authenticate config params = .error error ∧
      userAuth config now params s = (.error error, s)) ∨
    (∃ user record, s.authenticate config params = .ok (user, some record) ∧
      record.type = .access ∧ userAuth config now params s =
        (.ok (user, { record with token := generateToken user .access now }),
          s.setToken (fun other => other.userId = record.userId ∧
            other.deviceId = params.deviceId.toText ∧ other.type = .access)
            (generateToken user .access now))) ∨
    ∃ user token, s.authenticate config params = .ok (user, token) ∧
      (∀ record, token = some record → record.type ≠ .access) ∧
      userAuth config now params s = (.ok (user, newAccess params user now),
        s.createToken (newAccess params user now)) := by
  rw [userAuth]
  cases hauth : s.authenticate config params with
  | error error => exact Or.inl ⟨error, rfl, rfl⟩
  | ok found =>
      obtain ⟨user, token⟩ := found
      dsimp only
      rw [hformed.updateToken_eq]
      cases token with
      | none => exact Or.inr (Or.inr ⟨user, none, rfl, by simp, rfl⟩)
      | some record =>
          by_cases htype : record.type = .access
          · refine Or.inr (Or.inl ⟨user, record, rfl, htype, ?_⟩)
            simp [htype]
          · refine Or.inr (Or.inr ⟨user, some record, rfl, ?_, ?_⟩)
            · simp [htype]
            · simp [htype, newAccess]

theorem wellFormed_newAccess (params : LoginParams)
    (user : ObjectId × Account) (now : Nat) :
    (newAccess params user now).WellFormed :=
  ⟨params.deviceId.toText_toText, user.2.login, now, rfl⟩

theorem WellFormed.after_userAuth (hformed : s.WellFormed) (config : TokenConfig)
    (now : Nat) (params : LoginParams) :
    (userAuth config now params s).2.WellFormed := by
  rcases hformed.userAuth_cases config now params with
    ⟨_, _, heq⟩ | ⟨user, record, hauth, htype, heq⟩ | ⟨user, _, _, _, heq⟩
  · rw [heq]
    exact hformed
  · rw [heq]
    obtain ⟨_, hrecord⟩ := hformed.identified_authenticate hauth
    obtain ⟨_, huser, _⟩ := hrecord record rfl
    refine hformed.setToken (fun other _ hfound hother => ?_)
    simp only [decide_eq_true_eq] at hfound
    obtain ⟨hsame, _, hother'⟩ := hfound
    simp only [UserToken.WellFormed, hother'] at hother ⊢
    refine ⟨hother.1, user.2.login, now, ?_⟩
    rw [generateToken, hsame, huser]
  · rw [heq]
    exact hformed.createToken (wellFormed_newAccess params user now)

/-- Records stay unique exactly when no access record is stored beside an
old one. -/
theorem WellFormed.uniqueTokens_userAuth (hformed : s.WellFormed)
    (hunique : UniqueTokens s) (config : TokenConfig) (now : Nat)
    (params : LoginParams) :
    UniqueTokens (userAuth config now params s).2 ↔
      FreshAccess config s params := by
  rcases hformed.userAuth_cases config now params with
    ⟨_, hauth, heq⟩ | ⟨user, record, hauth, htype, heq⟩ |
    ⟨user, token, hauth, htype, heq⟩
  · rw [heq]
    simp [FreshAccess, hauth, hunique]
  · rw [heq, uniqueTokens_setToken]
    simp [FreshAccess, hauth, hunique, htype]
  · rw [heq, uniqueTokens_createToken]
    have hdevice : s.recordsOf user.1 params.deviceId.toText .access =
        s.recordsOf user.1 params.deviceId .access := by
      rw [recordsOf, recordsOf, DeviceParam.toText_toText]
    simp only [hunique, newAccess, hdevice, true_and, FreshAccess, hauth,
      Except.ok.injEq, ne_eq, reduceCtorEq, not_false_eq_true, forall_const]
    constructor
    · rintro hnone other _ ⟨rfl, rfl⟩
      exact Or.inr hnone
    · intro hfresh
      rcases hfresh user token rfl with ⟨record, hrecord, haccess⟩ | hnone
      · exact absurd haccess (htype record hrecord)
      · exact hnone

/-- A login leaves the refresh records alone. -/
theorem WellFormed.refreshRecords_userAuth (hformed : s.WellFormed)
    (config : TokenConfig) (now : Nat) (params : LoginParams)
    (userId : ObjectId) (deviceId : DeviceParam) :
    (userAuth config now params s).2.recordsOf userId deviceId
      .refresh = [] ↔ s.recordsOf userId deviceId .refresh = [] := by
  rcases hformed.userAuth_cases config now params with
    ⟨_, _, heq⟩ | ⟨user, record, _, _, heq⟩ | ⟨user, _, _, _, heq⟩
  · rw [heq]
  · rw [heq, ← List.length_eq_zero_iff, length_recordsOf_setToken,
      List.length_eq_zero_iff]
  · rw [heq, recordsOf_createToken, if_neg (by simp [newAccess]),
      List.append_nil]

/-! ### Logins over HTTP -/

/-- The record that a login over HTTP stores beside the access record. -/
def newRefresh (user : ObjectId × Account) (deviceId : DeviceParam)
    (now : Nat) : UserToken :=
  ⟨some user.2.organizationId, user.1, deviceId, .refresh,
    generateToken user .refresh now⟩

theorem wellFormed_newRefresh (user : ObjectId × Account)
    (deviceId : DeviceParam) (now : Nat) :
    (newRefresh user deviceId now).WellFormed := ⟨user.2.login, now, rfl⟩

/-- A login over HTTP is a login, and then a new refresh record. -/
theorem WellFormed.httpUserAuth_cases (hformed : s.WellFormed)
    (config : TokenConfig) (now : Nat) (params : HttpLoginParams) :
    (∃ error, httpUserInfo params = .error error ∧
      httpUserAuth config now params s = (.error error, s)) ∨
    (∃ userInfo deviceId error after,
      httpUserInfo params = .ok (userInfo, deviceId) ∧
      userAuth config now userInfo s = (.error error, after) ∧
      httpUserAuth config now params s = (.error error, after)) ∨
    ∃ userInfo deviceId user record after,
      httpUserInfo params = .ok (userInfo, deviceId) ∧
      userAuth config now userInfo s = (.ok (user, record), after) ∧
      httpUserAuth config now params s =
        (.ok (user, record, newRefresh user deviceId now),
          after.createToken (newRefresh user deviceId now)) := by
  rw [httpUserAuth]
  cases hinfo : httpUserInfo params with
  | error error => exact Or.inl ⟨error, rfl, rfl⟩
  | ok info =>
      obtain ⟨userInfo, deviceId⟩ := info
      have hafter := hformed.after_userAuth config now userInfo
      cases hauth : userAuth config now userInfo s with
      | mk result after =>
          rw [hauth] at hafter
          cases result with
          | error error =>
              refine Or.inr (Or.inl ⟨userInfo, deviceId, error, after, rfl,
                hauth, ?_⟩)
              simp [hauth]
          | ok found =>
              obtain ⟨user, record⟩ := found
              refine Or.inr (Or.inr ⟨userInfo, deviceId, user, record, after,
                rfl, hauth, ?_⟩)
              simp [hauth, createRefreshToken, hafter.updateToken_eq,
                newRefresh]

/-- The device of a login over HTTP is the one that was sent. -/
theorem httpUserInfo_device {params : HttpLoginParams}
    {userInfo : LoginParams} {deviceId : DeviceParam}
    (hinfo : httpUserInfo params = .ok (userInfo, deviceId)) :
    params.deviceId = some deviceId ∧ userInfo.deviceId = deviceId := by
  rw [httpUserInfo] at hinfo
  cases hdevice : params.deviceId.filter DeviceParam.isTruthy with
  | none => simp [hdevice] at hinfo
  | some device =>
      have hsent := (Option.filter_eq_some_iff.1 hdevice).1
      simp only [hdevice] at hinfo
      split at hinfo
      · cases hinfo
        exact ⟨hsent, rfl⟩
      · split at hinfo
        · cases hinfo
        · cases hinfo
          exact ⟨hsent, rfl⟩

/-- The user of a login that succeeds. -/
theorem WellFormed.userAuth_ok (hformed : s.WellFormed) {now : Nat}
    {params : LoginParams} {user : ObjectId × Account} {record : UserToken}
    {after : TokenStore}
    (hauth : userAuth config now params s =
      (.ok (user, record), after)) :
    ∃ token, s.authenticate config params = .ok (user, token) := by
  rcases hformed.userAuth_cases config now params with
    ⟨_, _, heq⟩ | ⟨other, old, hother, _, heq⟩ | ⟨other, token, hother, _, heq⟩
  · rw [hauth] at heq
    cases heq
  · rw [hauth] at heq
    cases heq
    exact ⟨some old, hother⟩
  · rw [hauth] at heq
    cases heq
    exact ⟨token, hother⟩

theorem WellFormed.userAuth_error (hformed : s.WellFormed) {now : Nat}
    {params : LoginParams} {error : TokenError} {after : TokenStore}
    (hauth : userAuth config now params s =
      (.error error, after)) :
    s.authenticate config params = .error error ∧ after = s := by
  rcases hformed.userAuth_cases config now params with
    ⟨_, hother, heq⟩ | ⟨_, _, _, _, heq⟩ | ⟨_, _, _, _, heq⟩
  · rw [hauth] at heq
    cases heq
    exact ⟨hother, rfl⟩
  · rw [hauth] at heq
    cases heq
  · rw [hauth] at heq
    cases heq

theorem WellFormed.after_httpUserAuth (hformed : s.WellFormed)
    (config : TokenConfig) (now : Nat) (params : HttpLoginParams) :
    (httpUserAuth config now params s).2.WellFormed := by
  rcases hformed.httpUserAuth_cases config now params with
    ⟨_, _, heq⟩ | ⟨userInfo, _, _, _, _, hauth, heq⟩ |
    ⟨userInfo, deviceId, user, _, _, _, hauth, heq⟩
  · rw [heq]
    exact hformed
  · have hafter := hformed.after_userAuth config now userInfo
    rw [hauth] at hafter
    rw [heq]
    exact hafter
  · have hafter := hformed.after_userAuth config now userInfo
    rw [hauth] at hafter
    rw [heq]
    exact hafter.createToken (wellFormed_newRefresh user deviceId now)

theorem WellFormed.uniqueTokens_httpUserAuth (hformed : s.WellFormed)
    (hunique : UniqueTokens s) (config : TokenConfig) (now : Nat)
    (params : HttpLoginParams) :
    UniqueTokens (httpUserAuth config now params s).2 ↔
      Fresh config s (.httpLoggedIn now params) := by
  rcases hformed.httpUserAuth_cases config now params with
    ⟨_, hinfo, heq⟩ | ⟨userInfo, deviceId, _, _, hinfo, hauth, heq⟩ |
    ⟨userInfo, deviceId, user, _, _, hinfo, hauth, heq⟩
  · rw [heq]
    simp [Fresh, hinfo, hunique]
  · obtain ⟨herror, rfl⟩ := hformed.userAuth_error hauth
    rw [heq]
    simp [Fresh, hinfo, hunique, FreshAccess, herror]
  · obtain ⟨token, hok⟩ := hformed.userAuth_ok hauth
    have haccess := hformed.uniqueTokens_userAuth hunique config now userInfo
    have hrefresh := hformed.refreshRecords_userAuth config now userInfo
      user.1 deviceId
    rw [hauth] at haccess hrefresh
    rw [heq, uniqueTokens_createToken, haccess]
    simp only [newRefresh, hrefresh, Fresh, hinfo, Except.ok.injEq,
      Prod.mk.injEq, ne_eq, reduceCtorEq, not_false_eq_true, forall_const]
    constructor
    · rintro ⟨hfresh, hnone⟩ _ _ ⟨rfl, rfl⟩
      refine ⟨hfresh, fun other found hother => ?_⟩
      rw [hok] at hother
      cases hother
      exact hnone
    · intro hall
      obtain ⟨hfresh, hnone⟩ := hall userInfo deviceId ⟨rfl, rfl⟩
      exact ⟨hfresh, hnone user token hok⟩

/-! ### Connecting -/

theorem mem_recordsOf {userId : ObjectId} {deviceId : DeviceParam}
    {type : TokenType} {record : UserToken} :
    record ∈ s.recordsOf userId deviceId type ↔ record ∈ s.tokens ∧
      record.userId = userId ∧ record.deviceId.toText = deviceId.toText ∧
      record.type = type := by
  simp [recordsOf]

/-- The access record that a fresh login leaves is the only one of its
device. -/
theorem WellFormed.accessRecords_userAuth (hformed : s.WellFormed)
    (hunique : UniqueTokens s) {now : Nat} {params : LoginParams}
    (hfresh : FreshAccess config s params) {user : ObjectId × Account}
    {record : UserToken} {after : TokenStore}
    (hauth : userAuth config now params s = (.ok (user, record), after)) :
    after.accounts.get? user.1 = some user.2 ∧
      ∃ stored, stored.token = record.token ∧
        after.recordsOf user.1 params.deviceId .access = [stored] := by
  rcases hformed.userAuth_cases config now params with
    ⟨_, _, heq⟩ | ⟨other, old, hok, htype, heq⟩ |
    ⟨other, token, hok, htype, heq⟩
  · rw [hauth] at heq
    cases heq
  · rw [hauth] at heq
    cases heq
    obtain ⟨haccount, hrecord⟩ := hformed.identified_authenticate hok
    obtain ⟨hmem, huser, hdevice⟩ := hrecord old rfl
    have hold : old ∈ s.recordsOf user.1 params.deviceId .access :=
      mem_recordsOf.2 ⟨hmem, huser, by simp [hdevice], htype⟩
    obtain ⟨first, hfirst⟩ := List.length_eq_one_iff.1
      (Nat.le_antisymm (hunique user.1 params.deviceId .access (by simp))
        (List.length_pos_of_mem hold))
    rw [hfirst, List.mem_singleton] at hold
    subst first
    refine ⟨haccount, { old with token := generateToken user .access now },
      rfl, ?_⟩
    apply Documents.filter_updateFirst_singleton _ _ hfirst
    · simp [hdevice, htype]
    · intro document hfound
      simp only [decide_eq_true_eq] at hfound ⊢
      simp [hfound, huser]
    · exact fun _ => rfl
  · rw [hauth] at heq
    cases heq
    obtain ⟨haccount, _⟩ := hformed.identified_authenticate hok
    refine ⟨haccount, newAccess params user now, rfl, ?_⟩
    rcases hfresh user token hok with ⟨old, hold, haccess⟩ | hnone
    · exact absurd haccess (htype old hold)
    · rw [recordsOf_createToken, hnone, if_pos (by simp [newAccess])]
      rfl

/-- With one access record for a user and a device its token is the only
one that connects. -/
theorem WellFormed.connect_iff (hformed : s.WellFormed) {userId : ObjectId}
    {deviceId : DeviceParam} {account : Account} {stored : UserToken}
    (haccount : s.accounts.get? userId = some account)
    (hstored : s.recordsOf userId deviceId .access = [stored])
    (value : TokenValue) :
    s.connect (some value) deviceId = .ok userId ↔
      value = stored.token := by
  have hmem : stored ∈ s.recordsOf userId deviceId .access := by
    rw [hstored]
    exact List.mem_singleton_self stored
  obtain ⟨hin, huser, hdevice, htype⟩ := mem_recordsOf.1 hmem
  have haccess := hformed stored hin
  simp only [UserToken.WellFormed, htype] at haccess
  obtain ⟨htext, login, now, htoken⟩ := haccess
  rw [htext] at hdevice
  rw [connect]
  cases hfind : s.findToken (some value) (some deviceId.toText)
      (some .access) with
  | none =>
      constructor
      · intro hok
        cases hok
      · rintro rfl
        rw [findToken, List.find?_eq_none] at hfind
        exact absurd (hfind stored hin) (by simp [hdevice, htype])
  | some found =>
      have hkeys := List.find?_some hfind
      have hfound := List.mem_of_find?_eq_some hfind
      simp only [Option.some.injEq, Option.all_some, decide_eq_true_eq]
        at hkeys
      obtain ⟨hvalue, hsame, haccess⟩ := hkeys
      constructor
      · intro hok
        dsimp only at hok
        split at hok
        · have hother : found ∈ s.recordsOf userId deviceId .access :=
            mem_recordsOf.2 ⟨hfound, Except.ok.inj hok,
              by rw [← hsame, DeviceParam.toText_toText], haccess.symm⟩
          rw [hstored, List.mem_singleton] at hother
          rw [hvalue, hother]
        · cases hok
      · intro heq
        -- The token names its user, so no other user's record is found.
        have hformed := hformed found hfound
        simp only [UserToken.WellFormed, ← haccess] at hformed
        obtain ⟨_, _, _, hjwt⟩ := hformed
        rw [← hvalue, heq, htoken] at hjwt
        injection hjwt with hpayload
        injection hpayload with hid
        have hid : found.userId = userId := by rw [← hid, huser]
        simp [hid, haccount]

/-- After a fresh login only its own token connects. -/
theorem WellFormed.onlyLatest (hformed : s.WellFormed)
    (hunique : UniqueTokens s) {event : TokenEvent}
    (hfresh : Fresh config s event) : OnlyLatest config s event := by
  intro userId deviceId token hresult value
  cases event with
  | loggedIn now params =>
      rw [loginResult?, userLogin] at hresult
      rw [step, userLogin]
      by_cases haccepted : isAccepted params
      · rw [if_pos haccepted] at hresult ⊢
        cases hauth : userAuth config now params s with
        | mk result after =>
            cases result with
            | error error => simp [hauth] at hresult
            | ok found =>
                simp only [hauth, Option.some.injEq, Prod.mk.injEq]
                  at hresult
                obtain ⟨rfl, rfl, rfl⟩ := hresult
                have hafter := hformed.after_userAuth config now params
                rw [hauth] at hafter
                obtain ⟨haccount, stored, hstored, hrecords⟩ :=
                  hformed.accessRecords_userAuth hunique
                    (hfresh haccepted) hauth
                rw [← hstored]
                exact hafter.connect_iff haccount hrecords value
      · simp [haccepted] at hresult
  | httpLoggedIn now params =>
      rw [loginResult?] at hresult
      rw [step]
      have hafter := hformed.after_httpUserAuth config now params
      rcases hformed.httpUserAuth_cases config now params with
        ⟨_, _, heq⟩ | ⟨_, _, _, _, _, _, heq⟩ |
        ⟨userInfo, device, user, record, after, hinfo, hauth, heq⟩
      · simp [heq] at hresult
      · simp [heq] at hresult
      · obtain ⟨hsent, hdevice⟩ := httpUserInfo_device hinfo
        simp only [heq, hsent, Option.map_some, Option.some.injEq,
          Prod.mk.injEq] at hresult
        obtain ⟨rfl, rfl, rfl⟩ := hresult
        obtain ⟨haccount, stored, hstored, hrecords⟩ :=
          hformed.accessRecords_userAuth hunique
            (hfresh userInfo device hinfo).1 hauth
        rw [heq] at hafter ⊢
        rw [← hstored]
        refine hafter.connect_iff haccount ?_ value
        rw [recordsOf_createToken, if_neg (by simp [newRefresh]),
          List.append_nil, ← hdevice]
        exact hrecords
  | loggedOut _ _ => cases hresult
  | httpLoggedOut _ _ _ => cases hresult
  | otpSent _ _ _ _ => cases hresult
  | passwordReset _ _ _ _ _ => cases hresult

/-! ### Runs -/

theorem WellFormed.upsertOTPToken (hformed : s.WellFormed)
    (organizationId : Option ObjectId) (userId : ObjectId)
    (deviceId : DeviceParam) (code : Nat) :
    (TokenStore.upsertOTPToken s organizationId userId deviceId
      code).WellFormed := by
  rw [TokenStore.upsertOTPToken]
  split
  · refine hformed.setToken (fun record _ hfound _ => ?_)
    simp only [decide_eq_true_eq] at hfound
    simp [UserToken.WellFormed, hfound]
  · exact hformed.createToken ⟨code, rfl⟩

theorem UniqueTokens.upsertOTPToken (hunique : UniqueTokens s)
    (organizationId : Option ObjectId) (userId : ObjectId)
    (deviceId : DeviceParam) (code : Nat) :
    UniqueTokens (TokenStore.upsertOTPToken s organizationId userId deviceId
      code) := by
  rw [TokenStore.upsertOTPToken]
  split
  · exact (uniqueTokens_setToken s _ _).2 hunique
  · exact (uniqueTokens_createToken s _).2 ⟨hunique, fun hne => absurd rfl hne⟩

theorem WellFormed.after_step (hformed : s.WellFormed)
    (config : TokenConfig) (event : TokenEvent) :
    (step config s event).WellFormed := by
  cases event with
  | loggedIn now params =>
      rw [step, userLogin]
      split
      · exact hformed.after_userAuth config now params
      · exact hformed
  | httpLoggedIn now params =>
      exact hformed.after_httpUserAuth config now params
  | loggedOut userId deviceId => exact hformed.deleteByUserId userId deviceId
  | httpLoggedOut accessToken refreshToken socketSession =>
      rw [step, httpUserLogout]
      split
      · exact hformed
      · split
        · exact hformed
        · exact hformed.deleteByUserId _ _
  | otpSent organizationId email deviceId code =>
      rw [step, sendOTP]
      split
      · exact hformed
      · exact hformed.upsertOTPToken _ _ _ _
  | passwordReset organizationId email deviceId token newPassword =>
      rw [step, resetPassword]
      split
      · exact hformed
      · split
        · exact hformed
        · split
          · exact hformed.deleteByUserId _ _
          · exact hformed

/-- An event keeps the records unique exactly when it is fresh. -/
theorem WellFormed.uniqueTokens_step (hformed : s.WellFormed)
    (hunique : UniqueTokens s) (config : TokenConfig) (event : TokenEvent) :
    UniqueTokens (step config s event) ↔ Fresh config s event := by
  cases event with
  | loggedIn now params =>
      rw [step, userLogin, Fresh]
      by_cases haccepted : isAccepted params
      · rw [if_pos haccepted,
          hformed.uniqueTokens_userAuth hunique config now params]
        simp [haccepted]
      · simp [haccepted, hunique]
  | httpLoggedIn now params =>
      exact hformed.uniqueTokens_httpUserAuth hunique config now params
  | loggedOut userId deviceId =>
      exact iff_of_true (hunique.deleteByUserId userId deviceId) trivial
  | httpLoggedOut accessToken refreshToken socketSession =>
      refine iff_of_true ?_ trivial
      rw [step, httpUserLogout]
      split
      · exact hunique
      · split
        · exact hunique
        · exact hunique.deleteByUserId _ _
  | otpSent organizationId email deviceId code =>
      refine iff_of_true ?_ trivial
      rw [step, sendOTP]
      split
      · exact hunique
      · exact hunique.upsertOTPToken _ _ _ _
  | passwordReset organizationId email deviceId token newPassword =>
      refine iff_of_true ?_ trivial
      rw [step, resetPassword]
      split
      · exact hunique
      · split
        · exact hunique
        · split
          · exact hunique.deleteByUserId _ _
          · exact hunique

theorem wellFormed_run (config : TokenConfig)
    (accounts : OrderedMap ObjectId Account) (events : List TokenEvent) :
    (run config accounts events).WellFormed := by
  induction events using List.reverseRecOn with
  | nil =>
      intro record hrecord
      cases hrecord
  | append_singleton events last ih =>
      rw [run, List.foldl_append]
      exact ih.after_step config last

/-- A run keeps the records unique exactly when all its logins are fresh. -/
theorem uniqueTokens_run_iff (config : TokenConfig)
    (accounts : OrderedMap ObjectId Account) (events : List TokenEvent) :
    (∀ done, done <+: events → UniqueTokens (run config accounts done)) ↔
      ∀ done event, done ++ [event] <+: events →
        Fresh config (run config accounts done) event := by
  refine throughout_iff (fun _ _ _ _ => Nat.zero_le 1) ?_ events
  intro done event hunique
  rw [List.foldl_append]
  exact (wellFormed_run config accounts done).uniqueTokens_step hunique
    config event

/-- A user who logs in on a phone with a password, and does it again. -/
def aliceAccounts : OrderedMap ObjectId Account :=
  OrderedMap.empty.set 1 ⟨7, "alice", "alice@sama", "secret"⟩

def phoneLogin (now : Nat) : TokenEvent :=
  .loggedIn now ⟨some 7, some "alice", none, none, some "secret",
    .text "phone"⟩

def openConfig : TokenConfig := ⟨fun _ => false, .oldestFirst⟩

end TokenStore

end SamaServer
