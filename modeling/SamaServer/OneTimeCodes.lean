/-
The code that is emailed for a new password.  It shares its collection with
the tokens of logins, and neither the operation that stores it nor the one that
checks it looks at the type of the record it finds.
-/
import SamaServer.UserTokens

namespace SamaServer

namespace TokenStore

/-- What `crypto.randomInt` returns for a code. -/
def IsCode (code : Nat) : Prop := 100000 ≤ code ∧ code < 999999

/-- After a code was sent, the password is reset with it and with nothing
else. -/
def CodeResets (s : TokenStore) (organizationId : Option ObjectId)
    (email : String) (deviceId : DeviceParam) : Prop :=
  ∀ code, IsCode code → ∀ after,
    sendOTP organizationId email deviceId code s = (.ok (), after) →
    ∀ token newPassword,
      (resetPassword organizationId email deviceId token newPassword
        after).1 = .ok () ↔ token = some (.code code)

/-- The oldest record of the user and the device is a code that was sent
for this organization, or there is none. -/
def CodeIsFirst (s : TokenStore) (organizationId : Option ObjectId)
    (email : String) (deviceId : DeviceParam) : Prop :=
  ∀ user, s.findByEmail organizationId email = some user →
    ∀ record, s.findTokenByUserId user.1 deviceId none = some record →
      record.type = .otp ∧ record.organizationId = organizationId

theorem findTokenByUserId_createToken (s : TokenStore) (record : UserToken)
    (hnone : s.findTokenByUserId record.userId record.deviceId none =
      none) :
    (s.createToken record).findTokenByUserId record.userId
      record.deviceId none = some record := by
  rw [findTokenByUserId] at hnone
  rw [findTokenByUserId, createToken, List.find?_append, hnone]
  simp

/-- What a look-up without a type finds after a code was stored. -/
theorem findTokenByUserId_upsertOTPToken (s : TokenStore)
    (organizationId : Option ObjectId) (userId : ObjectId)
    (deviceId : DeviceParam) (code : Nat) :
    (s.upsertOTPToken organizationId userId deviceId code).findTokenByUserId
        userId deviceId none =
      match s.findTokenByUserId userId deviceId none with
      | none => some ⟨organizationId, userId, deviceId, .otp, .code code⟩
      | some record =>
          if record.type = .otp ∧ record.organizationId = organizationId then
            some { record with token := .code code }
          else some record := by
  rw [upsertOTPToken]
  cases hrecord : s.findTokenByUserId userId deviceId none with
  | none => exact findTokenByUserId_createToken s _ hrecord
  | some record =>
      have hkeys := List.find?_some hrecord
      simp only [Option.all_none, and_true, decide_eq_true_eq] at hkeys
      dsimp only
      rw [findTokenByUserId, setToken, Documents.find?_updateFirst]
      · rw [findTokenByUserId] at hrecord
        rw [hrecord, Option.map_some]
        by_cases hfirst : record.type = .otp ∧
            record.organizationId = organizationId
        · simp [hfirst, hkeys]
        · rw [if_neg hfirst, if_neg]
          simp only [decide_eq_true_eq]
          tauto
      · intro other hother
        simp only [decide_eq_true_eq] at hother
        simp [hother]
      · intro other
        rfl

/-- A reset asks for the value of the first record of the device. -/
theorem resetPassword_ok_iff (s : TokenStore)
    (organizationId : Option ObjectId) (email : String)
    (deviceId : DeviceParam) (token : Option TokenValue)
    (newPassword : String) :
    (resetPassword organizationId email deviceId token newPassword s).1 =
        .ok () ↔
      ∃ user record, s.findByEmail organizationId email = some user ∧
        s.findTokenByUserId user.1 deviceId none = some record ∧
        token = some record.token := by
  rw [resetPassword]
  cases huser : s.findByEmail organizationId email with
  | none => simp
  | some user =>
      cases hrecord : s.findTokenByUserId user.1 deviceId none with
      | none => simp [hrecord]
      | some record =>
          by_cases htoken : some record.token = token
          · simp [hrecord, htoken]
          · have hother : token ≠ some record.token := Ne.symm htoken
            simp [hrecord, htoken, hother]

theorem findByEmail_upsertOTPToken (s : TokenStore)
    (organizationId otherOrganization : Option ObjectId) (userId : ObjectId)
    (deviceId : DeviceParam) (code : Nat) (email : String) :
    (s.upsertOTPToken organizationId userId deviceId code).findByEmail
      otherOrganization email = s.findByEmail otherOrganization email := by
  rw [upsertOTPToken]
  cases s.findTokenByUserId userId deviceId none with
  | none => rfl
  | some record => rfl

/-- Which value resets the password after a code was sent. -/
theorem resetPassword_sendOTP (s : TokenStore)
    (organizationId : Option ObjectId) (email : String)
    (deviceId : DeviceParam) (user : ObjectId × Account)
    (huser : s.findByEmail organizationId email = some user) (code : Nat)
    (token : Option TokenValue) (newPassword : String) :
    (resetPassword organizationId email deviceId token newPassword
        (sendOTP organizationId email deviceId code s).2).1 = .ok () ↔
      token = some
        (match s.findTokenByUserId user.1 deviceId none with
        | none => .code code
        | some record =>
            if record.type = .otp ∧ record.organizationId = organizationId
            then .code code else record.token) := by
  have hstored := findTokenByUserId_upsertOTPToken s organizationId user.1
    deviceId code
  rw [resetPassword_ok_iff, sendOTP, huser]
  simp only [findByEmail_upsertOTPToken, huser, Option.some.injEq]
  cases hrecord : s.findTokenByUserId user.1 deviceId none with
  | none =>
      rw [hrecord] at hstored
      simp [hstored]
  | some record =>
      rw [hrecord] at hstored
      by_cases hfirst : record.type = .otp ∧
          record.organizationId = organizationId
      · simp [hstored, hfirst]
      · simp [hstored, hfirst]

/-- A code that is not stored would have to be the value of the record that
is. -/
theorem codeResets_iff (s : TokenStore) (organizationId : Option ObjectId)
    (email : String) (deviceId : DeviceParam) :
    CodeResets s organizationId email deviceId ↔
      CodeIsFirst s organizationId email deviceId := by
  constructor
  · intro hresets user huser record hrecord
    by_contra hfirst
    have hvalue : ∀ code, IsCode code →
        record.token = .code code := by
      intro code hcode
      have hsent : sendOTP organizationId email deviceId code s =
          (.ok (), (sendOTP organizationId email deviceId code s).2) := by
        rw [sendOTP, huser]
      have hreset := hresets code hcode _ hsent (some record.token) ""
      rw [resetPassword_sendOTP s organizationId email deviceId user huser,
        hrecord] at hreset
      simpa [hfirst] using hreset
    have hlow := hvalue 100000 (by simp [IsCode])
    have hnext := hvalue 100001 (by simp [IsCode])
    rw [hlow] at hnext
    cases hnext
  · intro hfirst code _ after hsent token newPassword
    cases huser : s.findByEmail organizationId email with
    | none => simp [sendOTP, huser] at hsent
    | some user =>
        have hafter : after =
            (sendOTP organizationId email deviceId code s).2 := by
          rw [hsent]
        rw [hafter, resetPassword_sendOTP s organizationId email deviceId
          user huser]
        cases hrecord : s.findTokenByUserId user.1 deviceId none with
        | none => exact Iff.rfl
        | some record =>
            dsimp only
            rw [if_pos (hfirst user huser record hrecord)]

/-- A user who logged in on a phone and then asks for a code. -/
def loggedInStore : TokenStore where
  accounts := OrderedMap.empty.set 1 ⟨7, "alice", "alice@sama", "secret"⟩
  tokens := [⟨some 7, 1, .text "phone", .access,
    .jwt ⟨1, "alice", .access, 0⟩⟩]

/-- The code is refused, and the token of the login changes the
password. -/
theorem loggedIn_code_refused :
    ¬ CodeResets loggedInStore (some 7) "alice@sama" (.text "phone") := by
  intro hresets
  have hsent := hresets 123456 (by simp [IsCode]) _ rfl
    (some (.code 123456)) "new"
  revert hsent
  decide

end TokenStore

end SamaServer
