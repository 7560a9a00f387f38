/-
JSON packets as the packet processor sees them: parsed values, their
properties, and the request that a packet carries.
-/
import SamaServer.PropertyOrder

namespace SamaServer

/-- The numbers that `JSON.parse` gives.  A literal beyond the range of doubles
becomes an infinity. -/
inductive JsonNumber
  | finite (value : Rat)
  | infinite (isNegative : Bool)
deriving DecidableEq

/-- A parsed value.  The members of an object are kept as they are written in
the text, so a name may occur several times. -/
inductive Json
  | null
  | bool (value : Bool)
  | number (value : JsonNumber)
  | string (value : String)
  | array (items : List Json)
  | object (members : List (String × Json))

namespace Json

/-- The conversion to a truth value. -/
def isTruthy : Json → Bool
  | .null => false
  | .bool value => value
  | .number (.finite value) => value ≠ 0
  | .number (.infinite _) => true
  | .string value => value ≠ ""
  | .array _ => true
  | .object _ => true

/-- `json?.name`.  Of members with one name the last one counts. -/
def property? (json : Json) (name : String) : Option Json :=
  match json with
  | .object members =>
      (members.reverse.find? (fun member => member.1 = name)).map Prod.snd
  | _ => none

/-- `!!json?.name`. -/
def carries (json : Json) (name : String) : Bool :=
  (json.property? name).any isTruthy

/-- `Object.keys(json)[0]`.  There is none for an empty value and for one
without properties; for `null` the call is a `TypeError`. -/
def firstKey? : Json → Option String
  | .object members =>
      (propertyOrder id (members.map Prod.fst).eraseDups).head?
  | .array (_ :: _) => some "0"
  | .string value => if value = "" then none else some "0"
  | _ => none

/-- The choice of `reqFirstParams` and `reqData` in `#processMessage`.  The
envelope counts only when it is the first key. -/
def request? (json : Json) : Option (String × Json) :=
  match json.firstKey? with
  | none => none
  | some reqFirstParams =>
      if reqFirstParams = "request" then
        (json.property? "request").bind (fun reqData =>
          reqData.firstKey?.map (fun reqFirstParams =>
            (reqFirstParams, reqData)))
      else some (reqFirstParams, json)

theorem property?_isSome_of_mem {members : List (String × Json)}
    {name : String} (hname : name ∈ members.map Prod.fst) :
    ((Json.object members).property? name).isSome := by
  obtain ⟨member, hmember, hfst⟩ := List.mem_map.1 hname
  simp only [property?, Option.isSome_map, List.find?_isSome,
    List.mem_reverse, decide_eq_true_eq]
  exact ⟨member, hmember, hfst⟩

theorem property?_of_firstKey? {json : Json} {name : String}
    (hfirst : json.firstKey? = some name) (hindex : name ≠ "0") :
    (json.property? name).isSome := by
  cases json with
  | null => cases hfirst
  | bool value => cases hfirst
  | number value => cases hfirst
  | string value =>
      simp only [firstKey?] at hfirst
      split at hfirst
      · cases hfirst
      · exact absurd (Option.some.inj hfirst).symm hindex
  | array items =>
      cases items with
      | nil => cases hfirst
      | cons item items =>
          exact absurd (Option.some.inj hfirst).symm hindex
  | object members =>
      have hmem := List.mem_of_head? hfirst
      rw [mem_propertyOrder, List.mem_eraseDups] at hmem
      exact property?_isSome_of_mem hmem

/-- The request data has the property that names the request. -/
theorem property?_of_request? {json reqData : Json} {name : String}
    (hrequest : json.request? = some (name, reqData))
    (hindex : name ≠ "0") : (reqData.property? name).isSome := by
  unfold request? at hrequest
  split at hrequest
  · cases hrequest
  · next first hfirst =>
      split at hrequest
      · obtain ⟨inner, _, hinner⟩ := Option.bind_eq_some_iff.1 hrequest
        obtain ⟨key, hkey, heq⟩ := Option.map_eq_some_iff.1 hinner
        cases heq
        exact property?_of_firstKey? hkey hindex
      · cases hrequest
        exact property?_of_firstKey? hfirst hindex

end Json

/-- What a request can fail with: a status of the service with its message, the
error of a schema, or a `TypeError` of the language. -/
inductive RequestError
  | status (status : Nat) (message : String)
  | validation (error : Json)
  | typeError

namespace RequestError

def unauthorized : RequestError := .status 401 "Unauthorized."

def forbidden : RequestError := .status 403 "Forbidden."

def userLoginOrPass : RequestError :=
  .status 422 "The 'login' or 'password' field is missing."

def messageIdNotFound : RequestError := .status 422 "Message ID not found."

def aiAgentError : RequestError :=
  .status 500 "An error occurred while processing messages with the AI agent."

end RequestError

end SamaServer
