/-
The tokens of users: access and refresh tokens from logins, and the codes that
are emailed for a new password.  All of them are records of one collection,
which are looked up by user and device or by their value.
-/
import SamaServer.ConversationStore

namespace SamaServer

/-- `device_id` as it is sent: a text, or a number by the text it prints
as. -/
inductive DeviceParam
  | text (value : String)
  | number (printed : String)
deriving DecidableEq

namespace DeviceParam

/-- `device_id.toString()`. -/
def toText : DeviceParam → DeviceParam
  | text value => text value
  | number printed => text printed

def isTruthy : DeviceParam → Bool
  | text value => value ≠ ""
  | number printed => printed ≠ "0"

end DeviceParam

inductive TokenType
  | access
  | refresh
  | otp
deriving DecidableEq

def TokenType.name : TokenType → String
  | access => "access"
  | refresh => "refresh"
  | otp => "otp"

/-- What a signed token carries; tokens with other contents are other
texts. -/
structure JwtPayload where
  userId : ObjectId
  login : String
  type : TokenType
  issuedAt : Nat
deriving DecidableEq

/-- A signed token, a code, or any other text. -/
inductive TokenValue
  | jwt (payload : JwtPayload)
  | code (value : Nat)
  | text (value : String)
deriving DecidableEq

def TokenValue.isTruthy : TokenValue → Bool
  | text value => value ≠ ""
  | _ => true

/-- Codes are numbers, the others are texts. -/
def TokenValue.isText : TokenValue → Bool
  | code _ => false
  | _ => true

/-- A record of `user_tokens`.  A login without an organization stores an id
made for it. -/
structure UserToken where
  organizationId : Option ObjectId
  userId : ObjectId
  deviceId : DeviceParam
  type : TokenType
  token : TokenValue
deriving DecidableEq

structure Account where
  organizationId : ObjectId
  login : String
  email : String
  password : String
deriving DecidableEq

/-- Users and their tokens, in the order in which they were stored. -/
structure TokenStore where
  accounts : OrderedMap ObjectId Account
  tokens : List UserToken

inductive TokenError
  | validation
  | databaseError
  | typeError
  | unauthorized
  | tokenExpired
  | incorrectLoginOrPassword
  | organizationBlocked
  | deviceIdMissed
  | missingAuthCredentials
  | incorrectToken
  | userNotFound
  | incorrectOtpToken
deriving DecidableEq

structure TokenConfig where
  isBlocked : ObjectId → Bool
  server : MongoServer

/-- `user_login`. -/
structure LoginParams where
  organizationId : Option ObjectId
  login : Option String
  userId : Option IdParam
  token : Option TokenValue
  password : Option String
  deviceId : DeviceParam

/-- The body, the header and the cookie of a login over HTTP. -/
structure HttpLoginParams where
  organizationId : Option ObjectId
  login : Option String
  password : Option String
  deviceId : Option DeviceParam
  accessToken : Option TokenValue
  refreshToken : Option TokenValue

namespace TokenStore

/-! ### Users -/

def findByLogin (s : TokenStore) (organizationId : Option ObjectId)
    (login : Option String) : Option (ObjectId × Account) :=
  s.accounts.entries.find? (fun (_, account) =>
    organizationId = some account.organizationId ∧
      login = some account.login)

def findByEmail (s : TokenStore) (organizationId : Option ObjectId)
    (email : String) : Option (ObjectId × Account) :=
  s.accounts.entries.find? (fun (_, account) =>
    organizationId = some account.organizationId ∧ email = account.email)

def findUserById (server : MongoServer) (s : TokenStore) (userId : IdParam) :
    Except TokenError (Option (ObjectId × Account)) :=
  match userId.queryId? with
  | none => .ok none
  | some query =>
      if server.rejectsId query then .error .databaseError
      else .ok (s.accounts.entries.find? (fun (id, _) =>
        server.matchesId query (.id id)))

/-! ### Token records -/

/-- A missing token is compared with `null`, which no record holds. -/
def findToken (s : TokenStore) (jwtToken : Option TokenValue)
    (deviceId : Option DeviceParam) (tokenType : Option TokenType) :
    Option UserToken :=
  s.tokens.find? (fun record => jwtToken = some record.token ∧
    deviceId.all (fun device => device = record.deviceId) ∧
    tokenType.all (fun type => type = record.type))

def findTokenByUserId (s : TokenStore) (userId : ObjectId)
    (deviceId : DeviceParam) (token : Option TokenValue) :
    Option UserToken :=
  s.tokens.find? (fun record => record.userId = userId ∧
    record.deviceId = deviceId ∧ token.all (fun value =>
      value = record.token))

/-- `updateOne` of the value of the first record that a filter finds. -/
def setToken (s : TokenStore) (found : UserToken → Bool)
    (value : TokenValue) : TokenStore :=
  { s with
    tokens := Documents.updateFirst found
      (fun record => { record with token := value }) s.tokens }

def createToken (s : TokenStore) (record : UserToken) : TokenStore :=
  { s with tokens := s.tokens ++ [record] }

/-- The last argument of the look-up is the name of the type, where the
look-up compares a token. -/
def updateToken (s : TokenStore) (token : Option UserToken)
    (organizationId : Option ObjectId) (userId : ObjectId)
    (deviceId : DeviceParam) (jwtToken : TokenValue)
    (tokenType : TokenType) : UserToken × TokenStore :=
  let existedToken :=
    match token with
    | some record =>
        if tokenType = record.type then some record
        else s.findTokenByUserId userId deviceId
          (some (.text tokenType.name))
    | none => s.findTokenByUserId userId deviceId
        (some (.text tokenType.name))
  match existedToken with
  | some record =>
      ({ record with token := jwtToken },
        s.setToken (fun other => other.userId = record.userId ∧
          other.deviceId = deviceId ∧ other.type = tokenType) jwtToken)
  | none =>
      let record := ⟨organizationId, userId, deviceId, tokenType, jwtToken⟩
      (record, s.createToken record)

/-- The code of a new password, which is random. -/
def upsertOTPToken (s : TokenStore) (organizationId : Option ObjectId)
    (userId : ObjectId) (deviceId : DeviceParam) (newOtpToken : Nat) :
    TokenStore :=
  match s.findTokenByUserId userId deviceId none with
  | some _ =>
      s.setToken (fun other => other.userId = userId ∧
        other.organizationId = organizationId ∧
        other.deviceId = deviceId ∧ other.type = .otp) (.code newOtpToken)
  | none => s.createToken
      ⟨organizationId, userId, deviceId, .otp, .code newOtpToken⟩

def deleteByUserId (s : TokenStore) (userId : ObjectId)
    (deviceId : DeviceParam) : TokenStore :=
  { s with
    tokens := s.tokens.filter (fun record =>
      ¬ (record.userId = userId ∧ record.deviceId = deviceId)) }

/-! ### Logins -/

def authByToken (s : TokenStore) (tokenJwt : TokenValue)
    (deviceId : DeviceParam) :
    Except TokenError ((ObjectId × Account) × Option UserToken) :=
  match s.findToken (some tokenJwt) (some deviceId) none with
  | none => .error .tokenExpired
  | some token =>
      match s.accounts.get? token.userId with
      | none => .error .typeError
      | some account => .ok ((token.userId, account), some token)

def findUser (config : TokenConfig) (s : TokenStore) (params : LoginParams) :
    Except TokenError (Option (ObjectId × Account)) :=
  match params.userId with
  | some userId => s.findUserById config.server userId
  | none => .ok (s.findByLogin params.organizationId params.login)

def authByUserInfo (config : TokenConfig) (s : TokenStore)
    (params : LoginParams) (deviceId : DeviceParam) :
    Except TokenError ((ObjectId × Account) × Option UserToken) := do
  match ← s.findUser config params with
  | none => .error .incorrectLoginOrPassword
  | some user =>
      if params.password = some user.2.password then
        .ok (user, s.findTokenByUserId user.1 deviceId
          (some (.text TokenType.access.name)))
      else .error .incorrectLoginOrPassword

def validateOrganization (config : TokenConfig)
    (user : ObjectId × Account) : Except TokenError Unit :=
  if config.isBlocked user.2.organizationId then .error .organizationBlocked
  else .ok ()

/-- The user of a login, with the token record that was found. -/
def identify (config : TokenConfig) (s : TokenStore) (params : LoginParams) :
    Except TokenError ((ObjectId × Account) × Option UserToken) :=
  match params.token.filter TokenValue.isTruthy with
  | some token => s.authByToken token params.deviceId.toText
  | none => s.authByUserInfo config params params.deviceId.toText

def authenticate (config : TokenConfig) (s : TokenStore)
    (params : LoginParams) :
    Except TokenError ((ObjectId × Account) × Option UserToken) := do
  let found ← s.identify config params
  validateOrganization config found.1
  .ok found

def generateToken (user : ObjectId × Account) (type : TokenType)
    (now : Nat) : TokenValue :=
  .jwt ⟨user.1, user.2.login, type, now⟩

/-- A login without the part that connects the device. -/
def userAuth (config : TokenConfig) (now : Nat) (params : LoginParams)
    (s : TokenStore) :
    Except TokenError ((ObjectId × Account) × UserToken) × TokenStore :=
  match s.authenticate config params with
  | .error error => (.error error, s)
  | .ok (user, token) =>
      let (updatedToken, after) := s.updateToken token params.organizationId
        user.1 params.deviceId.toText (generateToken user .access now)
        .access
      (.ok (user, updatedToken), after)

def createRefreshToken (now : Nat) (user : ObjectId × Account)
    (deviceId : DeviceParam) (s : TokenStore) : UserToken × TokenStore :=
  s.updateToken none (some user.2.organizationId) user.1 deviceId
    (generateToken user .refresh now) .refresh

/-- The login that a login over HTTP makes, with its device. -/
def httpUserInfo (params : HttpLoginParams) :
    Except TokenError (LoginParams × DeviceParam) :=
  match params.deviceId.filter DeviceParam.isTruthy with
  | none => .error .deviceIdMissed
  | some deviceId =>
      if params.login.any (· ≠ "") ∧ params.password.any (· ≠ "") then
        .ok (⟨params.organizationId, params.login, none, none,
          params.password, deviceId⟩, deviceId)
      else
        match params.accessToken.filter TokenValue.isTruthy <|>
            params.refreshToken.filter TokenValue.isTruthy with
        | none => .error .missingAuthCredentials
        | some token =>
            .ok (⟨none, none, none, some token, none, deviceId⟩, deviceId)

def httpUserAuth (config : TokenConfig) (now : Nat)
    (params : HttpLoginParams) (s : TokenStore) :
    Except TokenError ((ObjectId × Account) × UserToken × UserToken) ×
      TokenStore :=
  match httpUserInfo params with
  | .error error => (.error error, s)
  | .ok (userInfo, deviceId) =>
      match userAuth config now userInfo s with
      | (.error error, after) => (.error error, after)
      | (.ok (user, newAccessToken), after) =>
          let (newRefreshToken, last) := after.createRefreshToken now user
            deviceId
          (.ok (user, newAccessToken, newRefreshToken), last)

/-- What the schema of a login asks for. -/
def isAccepted (params : LoginParams) : Bool :=
  params.token.all TokenValue.isText ∧
    ¬ (params.token.isSome ∧ params.login.isSome) ∧
    (params.login.isSome → params.password.isSome)

def userLogin (config : TokenConfig) (now : Nat) (params : LoginParams)
    (s : TokenStore) :
    Except TokenError ((ObjectId × Account) × UserToken) × TokenStore :=
  if isAccepted params then userAuth config now params s
  else (.error .validation, s)

/-- The user who is connected with a token. -/
def connect (s : TokenStore) (token : Option TokenValue)
    (deviceId : DeviceParam) : Except TokenError ObjectId :=
  match s.findToken token (some deviceId.toText) (some .access) with
  | none => .error .tokenExpired
  | some record =>
      if (s.accounts.get? record.userId).isSome then .ok record.userId
      else .error .typeError

/-! ### Logouts and new passwords -/

/-- `socketSession` is the session of the socket of the device, if the device
is connected to this node. -/
def httpUserLogout (accessToken refreshToken : Option TokenValue)
    (socketSession : Option (ObjectId × DeviceParam)) (s : TokenStore) :
    Except TokenError Unit × TokenStore :=
  match s.findToken accessToken none (some .access) with
  | none => (.error .missingAuthCredentials, s)
  | some accessTokenRecord =>
      match s.findToken refreshToken (some accessTokenRecord.deviceId)
          (some .refresh) with
      | none => (.error .incorrectToken, s)
      | some record =>
          let (userId, deviceId) := socketSession.getD
            (record.userId, record.deviceId)
          (.ok (), s.deleteByUserId userId deviceId)

/-- The code is emailed to the user. -/
def sendOTP (organizationId : Option ObjectId) (email : String)
    (deviceId : DeviceParam) (newOtpToken : Nat) (s : TokenStore) :
    Except TokenError Unit × TokenStore :=
  match s.findByEmail organizationId email with
  | none => (.error .userNotFound, s)
  | some (userId, _) =>
      (.ok (), s.upsertOTPToken organizationId userId deviceId newOtpToken)

/-- A user who is not found is used before it is checked. -/
def resetPassword (organizationId : Option ObjectId) (email : String)
    (deviceId : DeviceParam) (token : Option TokenValue)
    (newPassword : String) (s : TokenStore) :
    Except TokenError Unit × TokenStore :=
  match s.findByEmail organizationId email with
  | none => (.error .typeError, s)
  | some (userId, _) =>
      match s.findTokenByUserId userId deviceId none with
      | none => (.error .incorrectOtpToken, s)
      | some otpToken =>
          if some otpToken.token = token then
            let changed : TokenStore :=
              { s with
                accounts := s.accounts.modify userId (fun account =>
                  { account with password := newPassword }) }
            (.ok (), changed.deleteByUserId userId deviceId)
          else (.error .incorrectOtpToken, s)

end TokenStore

/-- What happens to the tokens of users.  A logout over a socket is one of the
user and the device of its session. -/
inductive TokenEvent
  | loggedIn (now : Nat) (params : LoginParams)
  | httpLoggedIn (now : Nat) (params : HttpLoginParams)
  | loggedOut (userId : ObjectId) (deviceId : DeviceParam)
  | httpLoggedOut (accessToken refreshToken : Option TokenValue)
      (socketSession : Option (ObjectId × DeviceParam))
  | otpSent (organizationId : Option ObjectId) (email : String)
      (deviceId : DeviceParam) (newOtpToken : Nat)
  | passwordReset (organizationId : Option ObjectId) (email : String)
      (deviceId : DeviceParam) (token : Option TokenValue)
      (newPassword : String)

namespace TokenStore

def step (config : TokenConfig) (s : TokenStore) : TokenEvent → TokenStore
  | .loggedIn now params => (userLogin config now params s).2
  | .httpLoggedIn now params => (httpUserAuth config now params s).2
  | .loggedOut userId deviceId => s.deleteByUserId userId deviceId
  | .httpLoggedOut accessToken refreshToken socketSession =>
      (httpUserLogout accessToken refreshToken socketSession s).2
  | .otpSent organizationId email deviceId newOtpToken =>
      (sendOTP organizationId email deviceId newOtpToken s).2
  | .passwordReset organizationId email deviceId token newPassword =>
      (resetPassword organizationId email deviceId token newPassword s).2

/-- A run that starts without tokens. -/
def run (config : TokenConfig) (accounts : OrderedMap ObjectId Account)
    (events : List TokenEvent) : TokenStore :=
  events.foldl (step config) ⟨accounts, []⟩

end TokenStore

end SamaServer
