/-
The packet processor of the JSON API, for every text a client can send.  The
route is looked up on a plain object by a name of the client's choice, so
functions that every object inherits are found besides the handlers.
-/
import SamaServer.RouteHandlers

namespace SamaServer

/-- The functions of `Object.prototype`. -/
inductive InheritedFunction
  | objectConstructor | hasOwnProperty | isPrototypeOf
  | propertyIsEnumerable | toLocaleString | toString | valueOf
  | defineGetter | defineSetter | lookupGetter | lookupSetter
deriving DecidableEq

namespace InheritedFunction

def name : InheritedFunction → String
  | .objectConstructor => "constructor"
  | .hasOwnProperty => "hasOwnProperty"
  | .isPrototypeOf => "isPrototypeOf"
  | .propertyIsEnumerable => "propertyIsEnumerable"
  | .toLocaleString => "toLocaleString"
  | .toString => "toString"
  | .valueOf => "valueOf"
  | .defineGetter => "__defineGetter__"
  | .defineSetter => "__defineSetter__"
  | .lookupGetter => "__lookupGetter__"
  | .lookupSetter => "__lookupSetter__"

def functions : List InheritedFunction :=
  [.objectConstructor, .hasOwnProperty, .isPrototypeOf,
    .propertyIsEnumerable, .toLocaleString, .toString, .valueOf,
    .defineGetter, .defineSetter, .lookupGetter, .lookupSetter]

def ofName? (name : String) : Option InheritedFunction :=
  functions.find? (fun function => function.name = name)

end InheritedFunction

/-- `this.router[reqFirstParams]`.  What is not a function is undefined, or
the prototype itself, under the name `__proto__`. -/
inductive RouterEntry
  | handler (route : Route)
  | inherited (function : InheritedFunction)
  | notFunction
deriving DecidableEq

def routerEntry (name : String) : RouterEntry :=
  match Route.ofName? name with
  | some route => .handler route
  | none =>
      match InheritedFunction.ofName? name with
      | some function => .inherited function
      | none => .notFunction

/-- What a packet fails with: its text is not JSON, or the request throws. -/
inductive PacketError
  | syntaxError
  | request (error : RequestError)

structure PacketErrorMessage where
  element : String
  id : Option Json
  error : PacketError

inductive BackMessage (M : Type)
  | own (message : M)
  | error (message : PacketErrorMessage)

/-- A response, up to the fields that are not sent as messages. -/
structure Response (M D : Type) where
  backMessages : List M
  deliverMessages : List D

namespace Response

variable {M D : Type}

/-- `new Response()`. -/
def empty : Response M D := ⟨[], []⟩

def addBackMessage (response : Response M D) (message : M) : Response M D :=
  { response with backMessages := response.backMessages ++ [message] }

end Response

/-- What the call of an entry of the router returns.  Only the handlers return
a response; the other values are those of the inherited functions. -/
inductive RouteResult (M D : Type)
  | response (response : Response (BackMessage M) D)
  | boolean (value : Bool)
  | undefined
  | string (value : String)
  | routes
  | socket

namespace RouteResult

variable {M D : Type}

def isTruthy : RouteResult M D → Bool
  | .response _ => true
  | .boolean value => value
  | .undefined => false
  | .string value => value ≠ ""
  | .routes => true
  | .socket => true

end RouteResult

/-- The call with the table as `this`, the socket, and the request data.  The
text of a socket names no route, and request data is not a function. -/
def InheritedFunction.call {M D : Type} :
    InheritedFunction → Except RequestError (RouteResult M D)
  | .objectConstructor => .ok .socket
  | .hasOwnProperty => .ok (.boolean false)
  | .isPrototypeOf => .ok (.boolean false)
  | .propertyIsEnumerable => .ok (.boolean false)
  | .toLocaleString => .ok (.string "[object Object]")
  | .toString => .ok (.string "[object Object]")
  | .valueOf => .ok .routes
  | .defineGetter => .error .typeError
  | .defineSetter => .error .typeError
  | .lookupGetter => .ok .undefined
  | .lookupSetter => .ok .undefined

/-- The handlers of the table, for one socket. -/
abbrev RouteTable (S M D : Type) :=
  Route → Json → ExceptT RequestError (StateM S) (Response (BackMessage M) D)

/-- A packet that was processed: the handlers that were invoked, what came of
it, and the state. -/
structure Processed (S A : Type) where
  invoked : List (Route × Json)
  outcome : A
  state : S

namespace PacketProcessor

variable {S M D : Type} (handlers : RouteTable S M D)

/-- The call of the router. -/
def callRouter (reqFirstParams : String) (reqData : Json) (state : S) :
    Processed S (Except RequestError (RouteResult M D)) :=
  match routerEntry reqFirstParams with
  | .handler route =>
      let (outcome, after) := (handlers route reqData).run.run state
      ⟨[(route, reqData)], outcome.map .response, after⟩
  | .inherited function => ⟨[], function.call, state⟩
  | .notFunction => ⟨[], .error .typeError, state⟩

/-- `#processMessage`.  Without a request the keys of `null` are asked for, or
an undefined route is called. -/
def processMessage (json : Json) (state : S) :
    Processed S (Except RequestError (RouteResult M D)) :=
  match json.request? with
  | none => ⟨[], .error .typeError, state⟩
  | some (reqFirstParams, reqData) =>
      callRouter handlers reqFirstParams reqData state

/-- The answer to an error.  A text that is not JSON has no value. -/
def errorMessage (json : Option Json) (error : PacketError) :
    PacketErrorMessage :=
  if json.any (fun json => json.carries "request") then
    ⟨"response", nullish (json.bind (fun json => json.idOf "request"))
      (json.bind Json.requestTrackId), error⟩
  else
    let topLevelElement := (json.bind Json.firstKey?).getD "undefined"
    ⟨topLevelElement,
      nullish (json.bind (fun json => json.elementId topLevelElement))
        (json.bind Json.requestTrackId), error⟩

def errorResponse (json : Option Json) (error : PacketError) :
    RouteResult M D :=
  .response (Response.empty.addBackMessage (.error (errorMessage json error)))

/-- The message is what `JSON.parse` makes of the text, if it is JSON. -/
def processMessageOrError (message : Option Json) (state : S) :
    Processed S (RouteResult M D) :=
  match message with
  | none => ⟨[], errorResponse none .syntaxError, state⟩
  | some json =>
      let processed := processMessage handlers json state
      match processed.outcome with
      | .ok responseData =>
          { processed with
            outcome :=
              if responseData.isTruthy then responseData
              else .response Response.empty }
      | .error error =>
          { processed with
            outcome := errorResponse (some json) (.request error) }

variable {M' D' : Type} (stringifyMessage : BackMessage M → M')
  (stringifyPacket : D → D')

/-- A value that is not a response has no `backMessages` to go through. -/
def stringifyResponse :
    RouteResult M D → Except RequestError (Response M' D')
  | .response response =>
      .ok ⟨response.backMessages.map stringifyMessage,
        response.deliverMessages.map stringifyPacket⟩
  | _ => .error .typeError

def onMessage (message : Option Json) (state : S) :
    Except RequestError (Response M' D') :=
  stringifyResponse stringifyMessage stringifyPacket
    (processMessageOrError handlers message state).outcome

/-! ### Which packets are answered -/

/-- Exactly one handler was invoked and its response is returned. -/
def IsHandled (state : S) (processed : Processed S (RouteResult M D)) :
    Prop :=
  ∃ route reqData response, processed.invoked = [(route, reqData)] ∧
    ((handlers route reqData).run.run state).1 = .ok response ∧
    processed.outcome = .response response

/-- The response holds exactly one error. -/
def IsError (processed : Processed S (RouteResult M D)) : Prop :=
  ∃ message, processed.outcome = .response ⟨[.error message], []⟩

/-- A packet is handled or reported, and the response can be sent. -/
structure Answers (message : Option Json) (state : S) : Prop where
  answered : IsHandled handlers state
      (processMessageOrError handlers message state) ∨
    IsError (processMessageOrError handlers message state)
  serialised : ∃ response, onMessage handlers stringifyMessage
    stringifyPacket message state = .ok response

/-- The functions that return something that is false. -/
def swallowingNames : List String :=
  ["hasOwnProperty", "isPrototypeOf", "propertyIsEnumerable",
    "__lookupGetter__", "__lookupSetter__"]

/-- The functions that return something else that is not a response. -/
def strayNames : List String :=
  ["constructor", "toLocaleString", "toString", "valueOf"]

/-- The request of the message has one of the names. -/
def Requests (names : List String) (message : Option Json) : Prop :=
  ∃ request, message.bind Json.request? = some request ∧ request.1 ∈ names

section Router

variable {name : String}

/-- What stands under an inherited name. -/
theorem name_of_routerEntry {function : InheritedFunction}
    (hentry : routerEntry name = .inherited function) :
    function.name = name := by
  rw [routerEntry] at hentry
  split at hentry
  · cases hentry
  · split at hentry
    · next found hfound =>
        cases hentry
        simpa using List.find?_some hfound
    · cases hentry

theorem routerEntry_of_mem_swallowingNames
    (hname : name ∈ swallowingNames) :
    ∃ function result, routerEntry name = .inherited function ∧
      function.call (M := M) (D := D) = .ok result ∧
      result.isTruthy = false := by
  simp only [swallowingNames, List.mem_cons, List.not_mem_nil,
    or_false] at hname
  rcases hname with rfl | rfl | rfl | rfl | rfl
  · exact ⟨.hasOwnProperty, _, by decide, rfl, rfl⟩
  · exact ⟨.isPrototypeOf, _, by decide, rfl, rfl⟩
  · exact ⟨.propertyIsEnumerable, _, by decide, rfl, rfl⟩
  · exact ⟨.lookupGetter, _, by decide, rfl, rfl⟩
  · exact ⟨.lookupSetter, _, by decide, rfl, rfl⟩

theorem routerEntry_of_mem_strayNames (hname : name ∈ strayNames) :
    ∃ function result, routerEntry name = .inherited function ∧
      function.call (M := M) (D := D) = .ok result ∧
      result.isTruthy = true ∧ ∀ response, result ≠ .response response := by
  simp only [strayNames, List.mem_cons, List.not_mem_nil,
    or_false] at hname
  rcases hname with rfl | rfl | rfl | rfl
  · exact ⟨.objectConstructor, _, by decide, rfl, rfl,
      fun _ heq => by cases heq⟩
  · exact ⟨.toLocaleString, _, by decide, rfl, rfl,
      fun _ heq => by cases heq⟩
  · exact ⟨.toString, _, by decide, rfl, rfl,
      fun _ heq => by cases heq⟩
  · exact ⟨.valueOf, _, by decide, rfl, rfl,
      fun _ heq => by cases heq⟩

/-- Every other inherited function throws. -/
theorem call_of_not_mem {function : InheritedFunction}
    (hentry : routerEntry name = .inherited function)
    (hname : name ∉ swallowingNames ++ strayNames) :
    function.call (M := M) (D := D) = .error .typeError := by
  rw [← name_of_routerEntry hentry] at hname
  revert hname
  cases function <;> first
    | exact fun _ => rfl
    | exact fun hname => absurd (by decide) hname

end Router

section Packets

variable {handlers} {json : Json} {state : S}

theorem processMessage_of_request {name : String} {reqData : Json}
    (hrequest : json.request? = some (name, reqData)) :
    processMessage handlers json state =
      callRouter handlers name reqData state := by
  rw [processMessage, hrequest]

/-- What `#processMessage` throws is reported. -/
theorem outcome_of_error {error : RequestError}
    (herror : (processMessage handlers json state).outcome = .error error) :
    (processMessageOrError handlers (some json) state).outcome =
      .response ⟨[.error (errorMessage (some json) (.request error))],
        []⟩ := by
  rw [processMessageOrError]
  simp only [herror]
  rfl

/-- What `#processMessage` returns is passed on if it is true. -/
theorem processMessageOrError_of_ok {result : RouteResult M D}
    (hok : (processMessage handlers json state).outcome = .ok result) :
    processMessageOrError handlers (some json) state =
      ⟨(processMessage handlers json state).invoked,
        if result.isTruthy then result else .response Response.empty,
        (processMessage handlers json state).state⟩ := by
  rw [processMessageOrError]
  simp only [hok]

variable {message : Option Json}

/-- A packet whose route is an inherited function that returns. -/
theorem processMessageOrError_of_call {function : InheritedFunction}
    {result : RouteResult M D} {request : String × Json}
    (hrequest : message.bind Json.request? = some request)
    (hentry : routerEntry request.1 = .inherited function)
    (hcall : function.call = .ok result) :
    processMessageOrError handlers message state =
      ⟨[], if result.isTruthy then result else .response Response.empty,
        state⟩ := by
  obtain ⟨json, rfl, hjson⟩ := Option.bind_eq_some_iff.1 hrequest
  have hprocessed : processMessage handlers json state =
      ⟨[], .ok result, state⟩ := by
    rw [processMessage_of_request hjson, callRouter, hentry, ← hcall]
  rw [processMessageOrError_of_ok (congrArg Processed.outcome hprocessed),
    hprocessed]

/-- Some packets are swallowed: the response is empty. -/
theorem processMessageOrError_of_swallowing
    (hnames : Requests swallowingNames message) :
    processMessageOrError handlers message state =
      ⟨[], .response Response.empty, state⟩ := by
  obtain ⟨request, hrequest, hname⟩ := hnames
  obtain ⟨function, result, hentry, hcall, hfalse⟩ :=
    routerEntry_of_mem_swallowingNames (M := M) (D := D) hname
  rw [processMessageOrError_of_call hrequest hentry hcall, hfalse]
  rfl

/-- Other packets have an answer that is not a response, and to go through its
messages is an error. -/
theorem onMessage_of_stray (hnames : Requests strayNames message) :
    onMessage handlers stringifyMessage stringifyPacket message state =
      .error .typeError := by
  obtain ⟨request, hrequest, hname⟩ := hnames
  obtain ⟨function, result, hentry, hcall, htrue, hstray⟩ :=
    routerEntry_of_mem_strayNames (M := M) (D := D) hname
  rw [onMessage, processMessageOrError_of_call hrequest hentry hcall]
  dsimp only
  rw [if_pos htrue]
  cases result with
  | response response => exact absurd rfl (hstray response)
  | _ => rfl

/-- Every other packet that returns was handled. -/
theorem isHandled_of_ok {result : RouteResult M D}
    (hnames : ¬ Requests (swallowingNames ++ strayNames) (some json))
    (hok : (processMessage handlers json state).outcome = .ok result) :
    IsHandled handlers state
      (processMessageOrError handlers (some json) state) := by
  rw [processMessageOrError_of_ok hok]
  cases hrequest : json.request? with
  | none =>
      rw [processMessage, hrequest] at hok
      cases hok
  | some request =>
      rw [processMessage_of_request hrequest] at hok ⊢
      rw [callRouter] at hok ⊢
      cases hentry : routerEntry request.1 with
      | handler route =>
          rw [hentry] at hok
          rcases hrun : (handlers route request.2).run.run state with
            ⟨error | response, after⟩
          · simp only [hrun] at hok
            cases hok
          · simp only [hrun] at hok
            cases hok
            exact ⟨route, request.2, response, rfl,
              congrArg Prod.fst hrun, rfl⟩
      | inherited function =>
          have hname : request.1 ∉ swallowingNames ++ strayNames :=
            fun hmem => hnames ⟨request, hrequest, hmem⟩
          rw [hentry] at hok
          dsimp only at hok
          rw [call_of_not_mem hentry hname] at hok
          cases hok
      | notFunction =>
          rw [hentry] at hok
          cases hok

theorem serialised_of_answered
    (hanswered : IsHandled handlers state
        (processMessageOrError handlers message state) ∨
      IsError (processMessageOrError handlers message state)) :
    ∃ response, onMessage handlers stringifyMessage stringifyPacket message
      state = .ok response := by
  rw [onMessage]
  rcases hanswered with ⟨route, reqData, response, -, -, houtcome⟩ |
    ⟨reported, houtcome⟩
  · rw [houtcome]
    exact ⟨_, rfl⟩
  · rw [houtcome]
    exact ⟨_, rfl⟩

end Packets

/-- A packet is answered just when its route is none of the inherited
functions that return. -/
theorem answers_iff (message : Option Json) (state : S) :
    Answers handlers stringifyMessage stringifyPacket message state ↔
      ¬ Requests (swallowingNames ++ strayNames) message := by
  constructor
  · rintro hanswers ⟨request, hrequest, hname⟩
    rcases List.mem_append.1 hname with hswallowing | hstray
    · have hempty : processMessageOrError handlers message state =
          ⟨[], .response Response.empty, state⟩ :=
        processMessageOrError_of_swallowing ⟨request, hrequest, hswallowing⟩
      rcases hanswers.answered with ⟨_, _, _, hinvoked, -, -⟩ |
        ⟨reported, houtcome⟩
      · rw [hempty] at hinvoked
        cases hinvoked
      · rw [hempty] at houtcome
        cases houtcome
    · obtain ⟨response, hresponse⟩ := hanswers.serialised
      rw [onMessage_of_stray stringifyMessage stringifyPacket
        ⟨request, hrequest, hstray⟩] at hresponse
      cases hresponse
  · intro hnames
    have hanswered : IsHandled handlers state
          (processMessageOrError handlers message state) ∨
        IsError (processMessageOrError handlers message state) := by
      cases message with
      | none => exact .inr ⟨_, rfl⟩
      | some json =>
          cases houtcome : (processMessage handlers json state).outcome with
          | ok result => exact .inl (isHandled_of_ok hnames houtcome)
          | error error => exact .inr ⟨_, outcome_of_error houtcome⟩
    exact ⟨hanswered,
      serialised_of_answered stringifyMessage stringifyPacket hanswered⟩

/-- A packet with the name of an inherited function gets an empty response. -/
theorem not_answers :
    ¬ ∀ (handlers : RouteTable Unit Unit Unit)
        (stringifyMessage : BackMessage Unit → String)
        (stringifyPacket : Unit → Unit) (message : Option Json),
      Answers handlers stringifyMessage stringifyPacket message () := by
  intro hall
  have hempty : processMessageOrError
      (fun _ _ => pure Response.empty : RouteTable Unit Unit Unit)
        (some (.object [("hasOwnProperty", .object [])])) () =
      ⟨[], .response Response.empty, ()⟩ :=
    processMessageOrError_of_swallowing
      ⟨("hasOwnProperty", _), rfl, by decide⟩
  rcases (hall (fun _ _ => pure Response.empty) (fun _ => "") id
      (some (.object [("hasOwnProperty", .object [])]))).answered with
    ⟨_, _, _, hinvoked, -, -⟩ | ⟨reported, houtcome⟩
  · rw [hempty] at hinvoked
    cases hinvoked
  · rw [hempty] at houtcome
    cases houtcome

/-! ### The handlers of a node -/

section Node

variable {Rest : Type} (environment : Environment Rest) (socket : Socket)

/-- The routes as they run on a node, each with its back message. -/
def nodeRoutes : RouteTable (Server Rest) Json Unit :=
  fun route reqData =>
    (fun message => Response.empty.addBackMessage (.own message)) <$>
      runRoute environment socket route reqData

/-- An answer of the node, as a response. -/
def ofAnswer : Answer → RouteResult Json Unit
  | .back message => .response ⟨[.own message], []⟩
  | .failure message =>
      .response ⟨[.error ⟨message.element, message.id,
        .request message.error⟩], []⟩

theorem errorMessage_some (json : Json) (error : RequestError) :
    errorMessage (some json) (.request error) =
      ⟨(errorBackMessage json error).element,
        (errorBackMessage json error).id,
        .request (errorBackMessage json error).error⟩ := by
  rw [errorMessage, errorBackMessage]
  cases hcarries : json.carries "request" with
  | true => simp [hcarries]
  | false => simp [hcarries]

theorem run_nodeRoutes (route : Route) (reqData : Json)
    (server : Server Rest) :
    (nodeRoutes environment socket route reqData).run.run server =
      (((runRoute environment socket route reqData).run.run server).1.map
          (fun message => Response.empty.addBackMessage (.own message)),
        ((runRoute environment socket route reqData).run.run server).2) := by
  rw [nodeRoutes, ExceptT.run_map, StateT.run_map]
  rcases (runRoute environment socket route reqData).run.run server with
    ⟨error | message, after⟩ <;> rfl

/-- Without an inherited name the packet is processed as on the node. -/
theorem processMessageOrError_eq_ofAnswer {json : Json}
    (hnames : ∀ request, json.request? = some request →
      InheritedFunction.ofName? request.1 = none)
    (server : Server Rest) :
    (processMessageOrError (nodeRoutes environment socket) (some json)
        server).outcome =
      ofAnswer (SamaServer.processMessageOrError environment socket json
        server).1 ∧
    (processMessageOrError (nodeRoutes environment socket) (some json)
        server).state =
      (SamaServer.processMessageOrError environment socket json server).2 := by
  have hthrow : (throw .typeError : Handling Rest Json).run.run server =
      (.error .typeError, server) := rfl
  rw [SamaServer.processMessageOrError, SamaServer.processMessage, dispatch,
    processMessageOrError, processMessage]
  cases hrequest : json.request? with
  | none =>
      dsimp only [Option.bind_none]
      rw [errorResponse, errorMessage_some, hthrow]
      exact ⟨rfl, rfl⟩
  | some request =>
      have hname := hnames request hrequest
      rw [Option.bind_some]
      dsimp only
      rw [callRouter, routerEntry, hname]
      cases hroute : Route.ofName? request.1 with
      | none =>
          dsimp only [Option.map_none]
          rw [errorResponse, errorMessage_some, hthrow]
          exact ⟨rfl, rfl⟩
      | some route =>
          dsimp only [Option.map_some]
          rw [run_nodeRoutes]
          rcases (runRoute environment socket route request.2).run.run server
            with ⟨error | message, after⟩
          · dsimp only [Except.map]
            rw [errorResponse, errorMessage_some]
            exact ⟨rfl, rfl⟩
          · exact ⟨rfl, rfl⟩

end Node

end PacketProcessor

end SamaServer
