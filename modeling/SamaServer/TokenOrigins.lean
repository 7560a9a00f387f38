/-
Where a token that connects comes from.  It was issued to its user on its
device and nothing has logged the user out there since; and if one goes back
from token to token, somebody has given the password there, again with no
logout since.
-/
import SamaServer.TokenRuns

namespace SamaServer

/-- The tokens in headers and cookies are texts. -/
def TokenEvent.HasTextTokens : TokenEvent → Prop
  | .httpLoggedIn _ params => params.accessToken.all TokenValue.isText ∧
      params.refreshToken.all TokenValue.isText
  | _ => True

namespace TokenStore

/-- The time and the parameters of the login that an event makes. -/
def login? : TokenEvent → Option (Nat × LoginParams)
  | .loggedIn now params =>
      if isAccepted params then some (now, params) else none
  | .httpLoggedIn now params =>
      (httpUserInfo params).toOption.map (fun info => (now, info.1))
  | _ => none

/-- The user and the device whose records an event deletes. -/
def ended? (s : TokenStore) : TokenEvent → Option (ObjectId × DeviceParam)
  | .loggedOut userId deviceId => some (userId, deviceId)
  | .httpLoggedOut accessToken refreshToken socketSession => do
      let accessTokenRecord ← s.findToken accessToken none (some .access)
      let record ← s.findToken refreshToken
        (some accessTokenRecord.deviceId) (some .refresh)
      pure (socketSession.getD (record.userId, record.deviceId))
  | .passwordReset organizationId email deviceId token newPassword =>
      match (resetPassword organizationId email deviceId token newPassword
          s).1 with
      | .ok () => (s.findByEmail organizationId email).map
          (fun user => (user.1, deviceId))
      | .error _ => none
  | _ => none

/-- The event logs the user in on the device. -/
def LogsIn (config : TokenConfig) (s : TokenStore) (event : TokenEvent)
    (now : Nat) (user : ObjectId × Account) (deviceId : DeviceParam) : Prop :=
  ∃ params token, login? event = some (now, params) ∧
    s.authenticate config params = .ok (user, token) ∧
    params.deviceId.toText = deviceId.toText

/-- The event logs in on the device with the password that the user has. -/
def GivesPassword (config : TokenConfig) (s : TokenStore) (event : TokenEvent)
    (user : ObjectId × Account) (deviceId : DeviceParam) : Prop :=
  ∃ now params, login? event = some (now, params) ∧
    params.deviceId.toText = deviceId.toText ∧
    params.token.filter TokenValue.isTruthy = none ∧
    s.findUser config params = .ok (some user) ∧
    params.password = some user.2.password

/-- A token is stored for the user and the device. -/
def LoggedIn (s : TokenStore) (userId : ObjectId) (deviceId : DeviceParam) :
    Prop :=
  ∃ record ∈ s.tokens, record.userId = userId ∧
    record.deviceId = deviceId.toText ∧ record.type ≠ .otp

/-- The event stores the token of the record. -/
def Issues (config : TokenConfig) (s : TokenStore) (event : TokenEvent)
    (record : UserToken) : Prop :=
  record.type = .otp ∨ ∃ now account,
    LogsIn config s event now (record.userId, account) record.deviceId ∧
    record.token = generateToken (record.userId, account) record.type now

variable {config : TokenConfig} {s : TokenStore} {event : TokenEvent}
  {record : UserToken}

/-! ### One event -/

theorem mem_deleteByUserId {userId : ObjectId} {deviceId : DeviceParam} :
    record ∈ (s.deleteByUserId userId deviceId).tokens ↔
      record ∈ s.tokens ∧
        (userId, deviceId) ≠ (record.userId, record.deviceId) := by
  rw [deleteByUserId, List.mem_filter, decide_eq_true_eq, ne_eq, Prod.mk.injEq,
    eq_comm, @eq_comm _ deviceId]

theorem mem_createToken {new : UserToken} :
    record ∈ (s.createToken new).tokens ↔
      record ∈ s.tokens ∨ record = new := by
  rw [createToken, List.mem_append, List.mem_singleton]

/-- A record after a login was there before, or has the new token. -/
theorem WellFormed.mem_userAuth (hformed : s.WellFormed) {now : Nat}
    {params : LoginParams}
    (hrecord : record ∈ (userAuth config now params s).2.tokens) :
    record ∈ s.tokens ∨ ∃ account token,
      s.authenticate config params = .ok ((record.userId, account), token) ∧
      record.deviceId = params.deviceId.toText ∧ record.type = .access ∧
      record.token = generateToken (record.userId, account) .access now := by
  rcases hformed.userAuth_cases config now params with
    ⟨_, _, heq⟩ | ⟨user, found, hauth, _, heq⟩ | ⟨user, token, hauth, _, heq⟩
  · rw [heq] at hrecord
    exact Or.inl hrecord
  · obtain ⟨_, hfound⟩ := hformed.identified_authenticate hauth
    obtain ⟨_, huser, _⟩ := hfound found rfl
    rw [heq] at hrecord
    rcases Documents.mem_updateFirst hrecord with hold | ⟨old, _, hold, rfl⟩
    · exact Or.inl hold
    · simp only [decide_eq_true_eq] at hold
      obtain ⟨hsame, hdevice, htype⟩ := hold
      refine Or.inr ⟨user.2, some found, ?_, hdevice, htype, ?_⟩
      · rw [hauth, hsame, huser]
      · rw [hsame, huser]
  · rw [heq] at hrecord
    rcases mem_createToken.1 hrecord with hold | rfl
    · exact Or.inl hold
    · exact Or.inr ⟨user.2, token, hauth, rfl, rfl, rfl⟩

theorem WellFormed.mem_userLogin (hformed : s.WellFormed) {now : Nat}
    {params : LoginParams} (hlogin : login? event = some (now, params))
    (hrecord : record ∈ (userAuth config now params s).2.tokens) :
    record ∈ s.tokens ∨ Issues config s event record := by
  rcases hformed.mem_userAuth hrecord with
    hold | ⟨account, token, hauth, hdevice, htype, htoken⟩
  · exact Or.inl hold
  · refine Or.inr (Or.inr ⟨now, account, ⟨params, token, hlogin, hauth, ?_⟩,
      ?_⟩)
    · rw [hdevice, DeviceParam.toText_toText]
    · rw [htype, htoken]

theorem WellFormed.mem_httpUserAuth (hformed : s.WellFormed) {now : Nat}
    {params : HttpLoginParams}
    (hrecord : record ∈ (httpUserAuth config now params s).2.tokens) :
    record ∈ s.tokens ∨ Issues config s (.httpLoggedIn now params) record := by
  rcases hformed.httpUserAuth_cases config now params with
    ⟨_, _, heq⟩ | ⟨userInfo, _, _, after, hinfo, hauth, heq⟩ |
    ⟨userInfo, deviceId, user, _, after, hinfo, hauth, heq⟩
  · rw [heq] at hrecord
    exact Or.inl hrecord
  · obtain ⟨_, rfl⟩ := hformed.userAuth_error hauth
    rw [heq] at hrecord
    exact Or.inl hrecord
  · have hlogin : login? (.httpLoggedIn now params) = some (now, userInfo) := by
      rw [login?, hinfo]
      rfl
    rw [heq] at hrecord
    rcases mem_createToken.1 hrecord with hold | rfl
    · refine hformed.mem_userLogin hlogin ?_
      rw [hauth]
      exact hold
    · obtain ⟨token, hok⟩ := hformed.userAuth_ok hauth
      have hdevice := (httpUserInfo_device hinfo).2
      refine Or.inr (Or.inr ⟨now, user.2, ⟨userInfo, token, hlogin, hok, ?_⟩,
        rfl⟩)
      rw [hdevice]
      rfl

theorem mem_upsertOTPToken {organizationId : Option ObjectId}
    {userId : ObjectId} {deviceId : DeviceParam} {code : Nat}
    (hrecord : record ∈
      (s.upsertOTPToken organizationId userId deviceId code).tokens) :
    record ∈ s.tokens ∨ record.type = .otp := by
  rw [upsertOTPToken] at hrecord
  split at hrecord
  · rcases Documents.mem_updateFirst hrecord with hold | ⟨old, _, hold, rfl⟩
    · exact Or.inl hold
    · simp only [decide_eq_true_eq] at hold
      exact Or.inr hold.2.2.2
  · rcases mem_createToken.1 hrecord with hold | rfl
    · exact Or.inl hold
    · exact Or.inr rfl

theorem mem_httpUserLogout {accessToken refreshToken : Option TokenValue}
    {socketSession : Option (ObjectId × DeviceParam)}
    (hrecord : record ∈
      (httpUserLogout accessToken refreshToken socketSession s).2.tokens) :
    record ∈ s.tokens ∧
      s.ended? (.httpLoggedOut accessToken refreshToken socketSession) ≠
        some (record.userId, record.deviceId) := by
  rw [httpUserLogout] at hrecord
  rw [ended?]
  cases haccess : s.findToken accessToken none (some .access) with
  | none =>
      rw [haccess] at hrecord
      exact ⟨hrecord, by simp⟩
  | some accessTokenRecord =>
      cases hrefresh : s.findToken refreshToken
          (some accessTokenRecord.deviceId) (some .refresh) with
      | none =>
          simp only [haccess, hrefresh] at hrecord
          refine ⟨hrecord, ?_⟩
          simp [hrefresh]
      | some refreshRecord =>
          simp only [haccess, hrefresh] at hrecord
          obtain ⟨hold, hother⟩ := mem_deleteByUserId.1 hrecord
          refine ⟨hold, ?_⟩
          simp only [Option.bind_eq_bind, Option.bind_some, hrefresh,
            Option.pure_def]
          exact fun heq => hother (Option.some.inj heq)

theorem mem_resetPassword {organizationId : Option ObjectId} {email : String}
    {deviceId : DeviceParam} {token : Option TokenValue}
    {newPassword : String}
    (hrecord : record ∈ (resetPassword organizationId email deviceId token
      newPassword s).2.tokens) :
    record ∈ s.tokens ∧
      s.ended? (.passwordReset organizationId email deviceId token
        newPassword) ≠ some (record.userId, record.deviceId) := by
  rw [ended?]
  cases huser : s.findByEmail organizationId email with
  | none =>
      simp only [resetPassword, huser] at hrecord ⊢
      exact ⟨hrecord, by simp⟩
  | some user =>
      cases hfound : s.findTokenByUserId user.1 deviceId none with
      | none =>
          simp only [resetPassword, huser, hfound] at hrecord ⊢
          exact ⟨hrecord, by simp⟩
      | some otpToken =>
          by_cases htoken : some otpToken.token = token
          · simp only [resetPassword, huser, hfound, htoken, if_true]
              at hrecord ⊢
            obtain ⟨hold, hother⟩ := mem_deleteByUserId.1 hrecord
            exact ⟨hold, fun heq => hother (Option.some.inj heq)⟩
          · simp only [resetPassword, huser, hfound, htoken, if_false]
              at hrecord ⊢
            exact ⟨hrecord, by simp⟩

/-- A record after an event was there before and is not one of those that the
event deletes, or the event has issued it. -/
theorem WellFormed.mem_step (hformed : s.WellFormed)
    (hrecord : record ∈ (step config s event).tokens) :
    (record ∈ s.tokens ∧
      s.ended? event ≠ some (record.userId, record.deviceId)) ∨
    Issues config s event record := by
  cases event with
  | loggedIn now params =>
      rw [step, userLogin] at hrecord
      by_cases haccepted : isAccepted params
      · rw [if_pos haccepted] at hrecord
        refine (hformed.mem_userLogin ?_ hrecord).imp_left
          (fun hold => ⟨hold, by simp [ended?]⟩)
        rw [login?, if_pos haccepted]
      · rw [if_neg haccepted] at hrecord
        exact Or.inl ⟨hrecord, by simp [ended?]⟩
  | httpLoggedIn now params =>
      exact (hformed.mem_httpUserAuth hrecord).imp_left
        (fun hold => ⟨hold, by simp [ended?]⟩)
  | loggedOut userId deviceId =>
      obtain ⟨hold, hother⟩ := mem_deleteByUserId.1 hrecord
      exact Or.inl ⟨hold, fun heq => hother (Option.some.inj heq)⟩
  | httpLoggedOut accessToken refreshToken socketSession =>
      exact Or.inl (mem_httpUserLogout hrecord)
  | otpSent organizationId email deviceId code =>
      rw [step, sendOTP] at hrecord
      split at hrecord
      · exact Or.inl ⟨hrecord, by simp [ended?]⟩
      · rcases mem_upsertOTPToken hrecord with hold | htype
        · exact Or.inl ⟨hold, by simp [ended?]⟩
        · exact Or.inr (Or.inl htype)
  | passwordReset organizationId email deviceId token newPassword =>
      exact Or.inl (mem_resetPassword hrecord)

/-! ### Logins with tokens -/

theorem isText_httpUserInfo {sent : HttpLoginParams} {now : Nat}
    (htexts : (TokenEvent.httpLoggedIn now sent).HasTextTokens)
    {info : LoginParams × DeviceParam} (hinfo : httpUserInfo sent = .ok info) :
    info.1.token.all TokenValue.isText := by
  rw [httpUserInfo] at hinfo
  split at hinfo
  · cases hinfo
  · split at hinfo
    · cases hinfo
      rfl
    · split at hinfo
      · cases hinfo
      · rename_i token htoken
        cases hinfo
        obtain ⟨haccess, hrefresh⟩ := htexts
        rw [Option.orElse_eq_orElse, Option.orElse_eq_or,
          Option.or_eq_some_iff] at htoken
        rcases htoken with hsent | ⟨_, hsent⟩
        · rw [(Option.filter_eq_some_iff.1 hsent).1] at haccess
          exact haccess
        · rw [(Option.filter_eq_some_iff.1 hsent).1] at hrefresh
          exact hrefresh

theorem isText_login (htexts : event.HasTextTokens) {now : Nat}
    {params : LoginParams} (hlogin : login? event = some (now, params)) :
    params.token.all TokenValue.isText := by
  cases event with
  | loggedIn _ sent =>
      rw [login?] at hlogin
      split at hlogin
      · cases hlogin
        simp_all [isAccepted]
      · cases hlogin
  | httpLoggedIn _ sent =>
      rw [login?] at hlogin
      cases hinfo : httpUserInfo sent with
      | error error =>
          rw [hinfo] at hlogin
          cases hlogin
      | ok info =>
          rw [hinfo] at hlogin
          cases hlogin
          exact isText_httpUserInfo htexts hinfo
  | loggedOut _ _ => cases hlogin
  | httpLoggedOut _ _ _ => cases hlogin
  | otpSent _ _ _ _ => cases hlogin
  | passwordReset _ _ _ _ _ => cases hlogin

theorem authByUserInfo_ok {params : LoginParams} {deviceId : DeviceParam}
    {user : ObjectId × Account} {token : Option UserToken}
    (hauth : s.authByUserInfo config params deviceId = .ok (user, token)) :
    s.findUser config params = .ok (some user) ∧
      params.password = some user.2.password := by
  obtain ⟨found, hfound, hpassword⟩ := of_bind_ok hauth
  cases found with
  | none => cases hpassword
  | some found =>
      dsimp only at hpassword
      split at hpassword
      · rename_i hsame
        cases hpassword
        exact ⟨hfound, hsame⟩
      · cases hpassword

/-- A text that logs in is no code, since codes are numbers. -/
theorem WellFormed.loggedIn_authByToken (hformed : s.WellFormed)
    {tokenJwt : TokenValue} {deviceId : DeviceParam}
    {user : ObjectId × Account} {token : Option UserToken}
    (htext : tokenJwt.isText)
    (hauth : s.authByToken tokenJwt deviceId.toText = .ok (user, token)) :
    LoggedIn s user.1 deviceId := by
  rw [authByToken] at hauth
  cases hfind : s.findToken (some tokenJwt) (some deviceId.toText) none with
  | none => simp [hfind] at hauth
  | some record =>
      cases haccount : s.accounts.get? record.userId with
      | none => simp [hfind, haccount] at hauth
      | some account =>
          simp only [hfind, haccount, Except.ok.injEq, Prod.mk.injEq] at hauth
          obtain ⟨rfl, rfl⟩ := hauth
          have hkeys := List.find?_some hfind
          simp only [Option.some.injEq, Option.all_some, decide_eq_true_eq]
            at hkeys
          obtain ⟨hvalue, hdevice, -⟩ := hkeys
          refine ⟨record, List.mem_of_find?_eq_some hfind, rfl, hdevice.symm,
            fun htype => ?_⟩
          have hcode := hformed record (List.mem_of_find?_eq_some hfind)
          rw [UserToken.WellFormed, htype] at hcode
          obtain ⟨code, hcode⟩ := hcode
          rw [hvalue, hcode] at htext
          cases htext

/-- A login is made with a password, or with a token of the user that is
stored for the device. -/
theorem WellFormed.credentials (hformed : s.WellFormed)
    (htexts : event.HasTextTokens) {now : Nat} {user : ObjectId × Account}
    {deviceId : DeviceParam}
    (hlogin : LogsIn config s event now user deviceId) :
    GivesPassword config s event user deviceId ∨
      LoggedIn s user.1 deviceId := by
  obtain ⟨params, token, hevent, hauth, hdevice⟩ := hlogin
  obtain ⟨_, hidentify, hrest⟩ := of_bind_ok hauth
  obtain ⟨_, _, hlast⟩ := of_bind_ok hrest
  cases hlast
  rw [identify] at hidentify
  cases hfilter : params.token.filter TokenValue.isTruthy with
  | none =>
      rw [hfilter] at hidentify
      obtain ⟨hfound, hpassword⟩ := authByUserInfo_ok hidentify
      exact Or.inl ⟨now, params, hevent, hdevice, hfilter, hfound, hpassword⟩
  | some tokenJwt =>
      rw [hfilter] at hidentify
      have htext := isText_login htexts hevent
      rw [(Option.filter_eq_some_iff.1 hfilter).1] at htext
      have hlogged := hformed.loggedIn_authByToken htext hidentify
      rw [LoggedIn, hdevice] at hlogged
      exact Or.inr hlogged

theorem LogsIn.ended?_ne {now : Nat} {user : ObjectId × Account}
    {deviceId : DeviceParam}
    (hlogin : LogsIn config s event now user deviceId)
    {userId : ObjectId} {device : DeviceParam} :
    ¬ s.ended? event = some (userId, device) := by
  obtain ⟨params, _, hevent, _⟩ := hlogin
  cases event with
  | loggedIn _ _ => simp [ended?]
  | httpLoggedIn _ _ => simp [ended?]
  | loggedOut _ _ => cases hevent
  | httpLoggedOut _ _ _ => cases hevent
  | otpSent _ _ _ _ => cases hevent
  | passwordReset _ _ _ _ _ => cases hevent

/-! ### Runs -/

/-- The record that a connect goes by. -/
theorem connect_ok {token : Option TokenValue} {deviceId : DeviceParam}
    {userId : ObjectId} (hconnect : s.connect token deviceId = .ok userId) :
    ∃ record ∈ s.tokens, record.userId = userId ∧
      record.deviceId = deviceId.toText ∧ record.type = .access ∧
      token = some record.token := by
  rw [connect] at hconnect
  cases hfind : s.findToken token (some deviceId.toText) (some .access) with
  | none => simp [hfind] at hconnect
  | some record =>
      have hkeys := List.find?_some hfind
      simp only [Option.all_some, decide_eq_true_eq] at hkeys
      obtain ⟨hvalue, hdevice, htype⟩ := hkeys
      simp only [hfind] at hconnect
      split at hconnect
      · exact ⟨record, List.mem_of_find?_eq_some hfind,
          Except.ok.inj hconnect, hdevice.symm, htype.symm, hvalue⟩
      · cases hconnect

def phoneToken : Option TokenValue := some (.jwt ⟨1, "alice", .access, 1⟩)

/-- The user is logged in on the device after an event by a password that the
event gives, or was before. -/
theorem WellFormed.loggedIn_step (hformed : s.WellFormed)
    (htexts : event.HasTextTokens) {userId : ObjectId}
    {deviceId : DeviceParam}
    (hafter : LoggedIn (step config s event) userId deviceId) :
    (∃ account, GivesPassword config s event (userId, account) deviceId) ∨
      (LoggedIn s userId deviceId ∧
        ¬ s.ended? event = some (userId, deviceId.toText)) := by
  obtain ⟨record, hrecord, rfl, hsame, hother⟩ := hafter
  rcases hformed.mem_step hrecord with
    ⟨hold, hkept⟩ | hcode | ⟨now, account, hlogin, _⟩
  · rw [hsame] at hkept
    exact Or.inr ⟨⟨record, hold, rfl, hsame, hother⟩, hkept⟩
  · exact absurd hcode hother
  · rcases hformed.credentials htexts hlogin with
      ⟨now, params, hevent, hsent, hrest⟩ |
      ⟨found, hfound, hsameUser, hsameDevice, hfoundType⟩
    · rw [hsame, DeviceParam.toText_toText] at hsent
      exact Or.inl ⟨account, now, params, hevent, hsent, hrest⟩
    · rw [hsame, DeviceParam.toText_toText] at hsameDevice
      exact Or.inr ⟨⟨found, hfound, hsameUser, hsameDevice, hfoundType⟩,
        hlogin.ended?_ne⟩

end TokenStore

end SamaServer
