/-
Packets of a socket without a session.  The guard refuses them unless the
request names one of five other requests besides its own; what gets past the
guard is refused by most handlers, and served by four.
-/
import SamaServer.RouteHandlers

namespace SamaServer

/-- The routes whose handlers work without a session. -/
def Route.sessionless : List Route :=
  [.deviceRegister, .deviceList, .contactDelete, .messageTone]

section Outcomes

variable {Rest A B : Type} {server after : Server Rest}

/-- The computation throws, and has changed neither the session tables nor the
stored data. -/
def Refuses (program : Handling Rest A) (server : Server Rest) : Prop :=
  ∃ error after, program.run.run server = (.error error, after) ∧
    after.active = server.active ∧ after.stored = server.stored

/-- The computation returns a value. -/
def Serves (program : Handling Rest A) (server : Server Rest) : Prop :=
  ∃ value after, program.run.run server = (.ok value, after)

theorem Serves.not_refuses {program : Handling Rest A}
    (hserves : Serves program server) : ¬ Refuses program server := by
  rintro ⟨error, _, hthrows, _⟩
  obtain ⟨value, _, hreturns⟩ := hserves
  rw [hreturns] at hthrows
  cases hthrows

theorem run_bind (program : Handling Rest A) (next : A → Handling Rest B)
    (server : Server Rest) :
    (program >>= next).run.run server =
      match program.run.run server with
      | (.ok value, after) => (next value).run.run after
      | (.error error, after) => (.error error, after) := by
  rw [ExceptT.run_bind, StateT.run_bind]
  rcases program.run.run server with ⟨_ | _, _⟩ <;> rfl

/-- A program that throws at its start throws. -/
theorem Refuses.bind {program : Handling Rest A}
    (hrefuses : Refuses program server) (next : A → Handling Rest B) :
    Refuses (program >>= next) server := by
  obtain ⟨error, after, hthrows, hactive, hstored⟩ := hrefuses
  exact ⟨error, after, by rw [run_bind, hthrows], hactive, hstored⟩

/-- A program that starts by changing neither tables nor stored data refuses
when what follows does. -/
theorem refuses_bind_iff_of_unchanged {program : Handling Rest A}
    {next : A → Handling Rest B} {value : A}
    (hreturns : program.run.run server = (.ok value, after))
    (hactive : after.active = server.active)
    (hstored : after.stored = server.stored) :
    Refuses (program >>= next) server ↔ Refuses (next value) after := by
  unfold Refuses
  rw [run_bind, hreturns, hactive, hstored]

theorem refuses_bind_iff {program : Handling Rest A}
    {next : A → Handling Rest B} {value : A}
    (hreturns : program.run.run server = (.ok value, server)) :
    Refuses (program >>= next) server ↔ Refuses (next value) server :=
  refuses_bind_iff_of_unchanged hreturns rfl rfl

theorem run_get :
    (get : Handling Rest (Server Rest)).run.run server =
      (.ok server, server) := rfl

theorem refuses_throw (error : RequestError) :
    Refuses (throw error : Handling Rest A) server :=
  ⟨error, server, rfl, rfl, rfl⟩

theorem Serves.bind {program : Handling Rest A} {next : A → Handling Rest B}
    (hserves : Serves program server)
    (hnext : ∀ value after, Serves (next value) after) :
    Serves (program >>= next) server := by
  obtain ⟨value, after, hreturns⟩ := hserves
  obtain ⟨result, last, hresult⟩ := hnext value after
  refine ⟨result, last, ?_⟩
  rw [run_bind, hreturns]
  exact hresult

theorem serves_pure (value : A) :
    Serves (pure value : Handling Rest A) server :=
  ⟨value, server, rfl⟩

theorem serves_modifyStored (change : Stored Rest → Stored Rest) :
    Serves (Handling.modifyStored change) server :=
  ⟨(), _, rfl⟩

end Outcomes

section NoSession

open Handling

variable {Rest : Type} {environment : Environment Rest} {socket : Socket}
  {server : Server Rest} {reqData : Json}

section Lookups

variable (hsession : server.active.getSession socket = none)

include hsession

theorem run_getSession_none :
    (getSession socket : Handling Rest _).run.run server =
      (.ok none, server) :=
  congrArg (fun found => (Except.ok found, server)) hsession

theorem run_getSessionUserId_none :
    (getSessionUserId socket : Handling Rest _).run.run server =
      (.ok none, server) := by
  have huser : server.active.getSessionUserId socket = none := by
    rw [ActiveSessions.getSessionUserId, hsession, Option.map_none]
  exact congrArg (fun found => (Except.ok found, server)) huser

/-- No document has the id that a missing user stands for. -/
theorem refuses_findCurrentUser (missing : RequestError) :
    Refuses (findCurrentUser socket missing : Handling Rest _) server := by
  unfold findCurrentUser
  rw [refuses_bind_iff (run_getSessionUserId_none hsession)]
  have hfind : (findUserById none : Handling Rest _).run.run server =
      (.ok (server.stored.users.find? (fun user =>
        (Json.string user.id).isSameScalar (.ofId none))), server) := rfl
  rw [refuses_bind_iff hfind]
  exact refuses_throw missing

end Lookups

/-- An argument is there or destructuring it throws. -/
theorem refuses_destructureParams_bind {A : Type} (params : Option Json)
    {next : Json → Handling Rest A}
    (hnext : ∀ value, Refuses (next value) server) :
    Refuses (destructureParams params >>= next) server := by
  unfold destructureParams
  split
  · exact (refuses_throw .typeError).bind next
  · exact (refuses_throw .typeError).bind next
  · next value =>
      rw [pure_bind]
      exact hnext _

theorem refuses_isEqualsNativeIds_none (nativeId : Option Json) :
    Refuses (isEqualsNativeIds nativeId none : Handling Rest _) server :=
  refuses_destructureParams_bind nativeId
    (fun _ => (refuses_throw .typeError).bind _)

section Handlers

variable (hsession : server.active.getSession socket = none)

include hsession

theorem refuses_encryptionDelete (params : Option Json) :
    Refuses (encryptionDelete socket params : Handling Rest _) server := by
  apply refuses_destructureParams_bind
  intro deleteParams
  apply (refuses_bind_iff run_get).2
  apply (refuses_bind_iff (run_getSessionUserId_none hsession)).2
  split
  · exact refuses_throw .forbidden
  · exact (refuses_isEqualsNativeIds_none _).bind _

theorem refuses_messageReactionsList (params : Option Json) :
    Refuses (messageReactionsList environment socket params) server := by
  apply refuses_destructureParams_bind
  intro listParams
  apply (refuses_bind_iff (run_getSessionUserId_none hsession)).2
  apply Refuses.bind
  apply (refuses_bind_iff run_get).2
  dsimp only
  split
  · exact refuses_throw .messageIdNotFound
  · next message _ =>
      split
      · exact refuses_throw .messageIdNotFound
      · exact (refuses_isEqualsNativeIds_none _).bind _

/-- The handlers that need a session refuse to work without one. -/
theorem refuses_handler (route : Route) (hguarded : route.isPublic = false)
    (hneeds : route ∉ Route.sessionless) :
    Refuses (handler environment socket route reqData) server := by
  cases route with
  | deviceRegister => exact absurd (by decide) hneeds
  | deviceList => exact absurd (by decide) hneeds
  | contactDelete => exact absurd (by decide) hneeds
  | messageTone => exact absurd (by decide) hneeds
  | deviceDelete => exact (refuses_encryptionDelete hsession _).bind _
  | messageReactionsList =>
      exact (refuses_messageReactionsList hsession _).bind _
  | messageDecryptionFailed =>
      apply refuses_destructureParams_bind
      exact fun _ => (refuses_findCurrentUser hsession .typeError).bind _
  | userEdit =>
      exact (refuses_findCurrentUser hsession .userLoginOrPass).bind _
  | userDelete =>
      apply (refuses_bind_iff (run_getSessionUserId_none hsession)).2
      exact refuses_throw .forbidden
  | ping => cases hguarded
  | connect => cases hguarded
  | userCreate => cases hguarded
  | userLogin => cases hguarded
  | userSendOtp => cases hguarded
  | userResetPassword => cases hguarded
  | _ =>
      apply (refuses_bind_iff (run_getSession_none hsession)).2
      exact (refuses_throw .typeError).bind _

end Handlers

theorem serves_getSessionUserId (socket : Socket) :
    Serves (getSessionUserId socket : Handling Rest _) server :=
  ⟨_, _, rfl⟩

theorem serves_getDeviceId (socket : Socket) (userId : Option UserId) :
    Serves (getDeviceId socket userId : Handling Rest _) server :=
  ⟨_, _, rfl⟩

/-- Without a session the device is registered for nobody. -/
theorem serves_encryptionRegister (params : Option Json) :
    Serves (encryptionRegister environment socket params) server := by
  apply (serves_getSessionUserId socket).bind
  intro userId looked
  apply (serves_getDeviceId socket userId).bind
  intro deviceId listed
  apply Serves.bind ⟨_, _, run_get⟩
  intro found searched
  dsimp only
  split
  · exact serves_modifyStored _
  · exact serves_modifyStored _

theorem serves_destructureParams {params : Json} (hnull : params ≠ .null) :
    Serves (destructureParams (some params) : Handling Rest _) server := by
  unfold destructureParams
  split
  · next hnone => cases hnone
  · next heq => exact absurd (Option.some.inj heq) hnull
  · exact serves_pure _

theorem serves_contactDelete {params : Json} (hnull : params ≠ .null) :
    Serves (contactDelete socket (some params) : Handling Rest _) server := by
  apply (serves_destructureParams hnull).bind
  intro options reached
  apply (serves_getSessionUserId socket).bind
  exact fun _ _ => serves_modifyStored _

theorem messageTone_eq {params : Json} (hnull : params ≠ .null) :
    messageTone environment (some params) =
      match environment.generateText (params.property? "body")
          (params.property? "tone") with
      | none => throw .aiAgentError
      | some text => pure text := by
  unfold messageTone destructureParams
  split
  · next hnone => cases hnone
  · next heq => exact absurd (Option.some.inj heq) hnull
  · next heq =>
      cases heq
      exact pure_bind _ _

/-- The language model fails on the text of a request to change its tone. -/
def ToneFails (environment : Environment Rest) (route : Route)
    (params : Option Json) : Prop :=
  route = .messageTone ∧ environment.generateText
    (params.bind (fun params => params.property? "body"))
    (params.bind (fun params => params.property? "tone")) = none

/-- The four handlers that do not need a session serve the request, unless the
language model fails. -/
theorem serves_handler {route : Route} (hroute : route ∈ Route.sessionless)
    {params : Json} (hparams : reqData.property? route.name = some params)
    (hnull : params ≠ .null)
    (htone : ¬ ToneFails environment route (some params)) :
    Serves (handler environment socket route reqData) server := by
  simp only [Route.sessionless, List.mem_cons, List.not_mem_nil, or_false]
    at hroute
  rcases hroute with rfl | rfl | rfl | rfl
  · exact (serves_encryptionRegister _).bind (fun _ _ => serves_pure _)
  · apply Serves.bind ⟨_, _, rfl⟩
    exact fun _ _ => serves_pure _
  · unfold handler
    simp only [hparams]
    exact (serves_contactDelete hnull).bind (fun _ _ => serves_pure _)
  · unfold handler
    simp only [hparams, messageTone_eq hnull]
    split
    · next hfails => exact absurd ⟨rfl, hfails⟩ htone
    · exact (serves_pure _).bind (fun _ _ => serves_pure _)

theorem refuses_handler_tone {params : Json}
    (hparams : reqData.property? Route.messageTone.name = some params)
    (hnull : params ≠ .null)
    (htone : ToneFails environment .messageTone (some params)) :
    Refuses (handler environment socket .messageTone reqData) server := by
  unfold handler
  have hfails : environment.generateText (params.property? "body")
      (params.property? "tone") = none := htone.2
  simp only [hparams, messageTone_eq hnull, hfails]
  exact (refuses_throw .aiAgentError).bind _

/-- A handler refuses a request without a session if and only if it needs one,
or the language model fails it. -/
theorem handler_refuses_iff
    (hsession : server.active.getSession socket = none) {route : Route}
    (hguarded : route.isPublic = false) {params : Json}
    (hparams : reqData.property? route.name = some params)
    (hnull : params ≠ .null) :
    Refuses (handler environment socket route reqData) server ↔
      route ∉ Route.sessionless ∨
        ToneFails environment route (some params) := by
  constructor
  · intro hrefuses
    by_contra hneither
    rw [not_or, not_not] at hneither
    exact (serves_handler hneither.1 hparams hnull
      hneither.2).not_refuses hrefuses
  · rintro (hneeds | htone)
    · exact refuses_handler hsession route hguarded hneeds
    · obtain ⟨rfl, _⟩ := id htone
      exact refuses_handler_tone hparams hnull htone

section Chain

theorem run_authGuardMiddleware (server : Server Rest)
    (hnames : AuthGuard.namesPublicRequest reqData = true) :
    (authGuardMiddleware socket reqData : Handling Rest _).run.run server =
      (.ok (), server) := by
  have hpasses : AuthGuard.handle server.active socket reqData = .ok () := by
    rw [AuthGuard.handle_eq, if_neg (by simp [hnames])]
  unfold authGuardMiddleware
  rw [run_bind, run_get]
  simp only [hpasses]
  rfl

/-- The counter is no stored data. -/
theorem run_countMessage (server : Server Rest) (route : Route) :
    ∃ counted : Server Rest,
      (countMessage route : Handling Rest _).run.run server =
        (.ok (), counted) ∧ counted.active = server.active ∧
        counted.stored = server.stored := by
  unfold countMessage
  split
  · exact ⟨_, rfl, rfl, rfl⟩
  · exact ⟨server, rfl, rfl, rfl⟩

theorem run_guardAgain (server : Server Rest) (route : Route)
    (hnames : AuthGuard.namesPublicRequest reqData = true) :
    (guardAgain socket route reqData : Handling Rest _).run.run server =
      (.ok (), server) := by
  unfold guardAgain
  split
  · exact run_authGuardMiddleware server hnames
  · rfl

variable (hsession : server.active.getSession socket = none)

include hsession

theorem refuses_authGuardMiddleware
    (hnames : AuthGuard.namesPublicRequest reqData = false) :
    Refuses (authGuardMiddleware socket reqData : Handling Rest _)
      server := by
  apply (refuses_bind_iff run_get).2
  rw [AuthGuard.handle_eq_unauthorized_iff.2 ⟨hsession, hnames⟩]
  exact refuses_throw .unauthorized

/-- One guarded route, for a socket without a session. -/
theorem runRoute_refuses_iff {route : Route}
    (hguarded : route.isPublic = false) {params : Json}
    (hparams : reqData.property? route.name = some params) :
    Refuses (runRoute environment socket route reqData) server ↔
      AuthGuard.namesPublicRequest reqData = false ∨
      (environment.schemas.validate route (some params)).isSome ∨
      route ∉ Route.sessionless ∨
      ToneFails environment route (some params) := by
  unfold runRoute
  rw [if_neg (by simp [hguarded])]
  cases hnames : AuthGuard.namesPublicRequest reqData with
  | false =>
      exact ⟨fun _ => .inl rfl, fun _ =>
        (refuses_authGuardMiddleware hsession hnames).bind _⟩
  | true =>
      obtain ⟨counted, hcounted, hactive, hstored⟩ :=
        run_countMessage server route
      rw [refuses_bind_iff (run_authGuardMiddleware server hnames),
        refuses_bind_iff_of_unchanged hcounted hactive hstored, validate,
        hparams]
      cases hvalid : environment.schemas.validate route (some params) with
      | some cause =>
          exact ⟨fun _ => .inr (.inl rfl), fun _ =>
            (refuses_throw cause).bind _⟩
      | none =>
          have hnull : params ≠ .null := by
            rintro rfl
            have hrejects := environment.schemas.rejectsNull route
            rw [hvalid] at hrejects
            cases hrejects
          rw [pure_bind, refuses_bind_iff (run_guardAgain counted route hnames),
            handler_refuses_iff (by rw [hactive, hsession]) hguarded hparams
              hnull]
          simp

end Chain

/-- What a packet leads to when it is rejected: the session tables and the
stored data are as before, and the answer is an error. -/
structure Rejected (server : Server Rest) (outcome : Answer × Server Rest) :
    Prop where
  active : outcome.2.active = server.active
  stored : outcome.2.stored = server.stored
  failure : ∃ message, outcome.1 = .failure message

theorem rejected_iff_refuses (json : Json) :
    Rejected server (processMessageOrError environment socket json server) ↔
      Refuses (processMessage environment socket json) server := by
  unfold processMessageOrError
  rcases hrun : (processMessage environment socket json).run.run server
    with ⟨error | message, after⟩
  · constructor
    · intro hrejected
      exact ⟨error, after, hrun, hrejected.active, hrejected.stored⟩
    · rintro ⟨_, _, hthrows, hactive, hstored⟩
      rw [hrun] at hthrows
      cases hthrows
      exact ⟨hactive, hstored, _, rfl⟩
  · constructor
    · intro hrejected
      obtain ⟨_, hfailure⟩ := hrejected.failure
      cases hfailure
    · intro hrefuses
      exact absurd hrefuses (Serves.not_refuses ⟨message, after, hrun⟩)

/-- A packet that a socket without a session sends to a guarded route is
rejected if and only if its request names none of the five requests that the
guard lets through, or its schema rejects it, or its handler needs a session,
or the language model fails it. -/
theorem processMessageOrError_rejected_iff
    (hsession : server.active.getSession socket = none) {json : Json}
    {route : Route} (hdispatch : dispatch json = some (route, reqData))
    (hguarded : route.isPublic = false) :
    Rejected server (processMessageOrError environment socket json server) ↔
      AuthGuard.namesPublicRequest reqData = false ∨
      (environment.schemas.validate route
        (reqData.property? route.name)).isSome ∨
      route ∉ Route.sessionless ∨
      ToneFails environment route (reqData.property? route.name) := by
  obtain ⟨params, hparams⟩ := property?_of_dispatch hdispatch
  rw [rejected_iff_refuses, processMessage, hdispatch, hparams]
  exact runRoute_refuses_iff hsession hguarded hparams

end NoSession

section Samples

/-- An environment whose schemas admit every object and whose language model
does not answer. -/
def sampleEnvironment : Environment Unit where
  schemas :=
    { validate := fun _ params => match params with
        | some (.object _) => none
        | _ => some (.validation .null)
      rejectsNull := fun _ => rfl }
  generateText := fun _ _ => none
  insertedId := "d1"
  currentDate := .string "2025-01-01T00:00:00Z"
  aggregateMessageReactions := fun _ _ => .object []
  isIdentical := fun _ _ => false
  proceed := fun _ _ _ => pure .null
  publicHandler := fun _ _ _ => pure .null

def sampleServer : Server Unit := ⟨.empty, 0, ⟨[], [], [], [], ()⟩⟩

/-- A search with a `connect` beside it passes the guard, and the handler fails
on the missing session. -/
theorem rejected_userSearch :
    Rejected sampleServer (processMessageOrError sampleEnvironment 1
      (.object [("user_search", .object [("keyword", .string "al")]),
        ("connect", .bool true)]) sampleServer) :=
  (processMessageOrError_rejected_iff rfl rfl rfl).2
    (.inr (.inr (.inl (by decide))))

/-- The registration of a device, with a `connect` beside it. -/
def deviceRegistration : Json :=
  .object [("device_register", .object [("identity_key", .string "ik"),
      ("signed_key", .string "sk"), ("one_time_pre_keys", .object [])]),
    ("connect", .bool true)]

/-- A socket without a session registers a device: the answer is a success and
the database has a new document. -/
theorem deviceRegistration_not_rejected :
    sampleServer.active.getSession 1 = none ∧
    (dispatch deviceRegistration).map Prod.fst = some .deviceRegister ∧
    (processMessageOrError sampleEnvironment 1 deviceRegistration
      sampleServer).1 = .back (success deviceRegistration) ∧
    (processMessageOrError sampleEnvironment 1 deviceRegistration
      sampleServer).2.stored.encryptedDevices.length = 1 ∧
    ¬ Rejected sampleServer (processMessageOrError sampleEnvironment 1
      deviceRegistration sampleServer) := by
  have hanswer : (processMessageOrError sampleEnvironment 1
      deviceRegistration sampleServer).1 =
        .back (success deviceRegistration) := rfl
  refine ⟨rfl, rfl, hanswer, rfl, ?_⟩
  intro hrejected
  obtain ⟨_, hfailure⟩ := hrejected.failure
  rw [hanswer] at hfailure
  cases hfailure

end Samples

end SamaServer
