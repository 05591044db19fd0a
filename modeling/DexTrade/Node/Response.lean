import DexTrade.Json.Print
import DexTrade.Node.Request
/-!
# Responses of a node

A node answers a request with a value or refuses it, or no response arrives. A value is of use only if
it has the form that the request asks for; every other case is a problem with a text of its own.
-/
namespace DexTrade.Node

/-- An error that a node replies with. -/
structure Refusal where
  code : Int
  message : String
  data : Option JsonValue

inductive Response where
  | result (value : JsonValue)
  | refusal (r : Refusal)
  /-- Nothing arrived. -/
  | silence (reason : String)

/-- A node as a source of answers. -/
abbrev source : Source where
  Question := Request
  Answer _ := Response

def Refusal.describe (r : Refusal) : String :=
  let data := (r.data.map fun v => ", data: " ++ v.compact).getD ""
  s!"error code {r.code}: " ++ r.message ++ data

/-- Why a request did not bring what it asks for. -/
inductive Problem where
  | refused (r : Refusal)
  | silence (reason : String)
  /-- The value has another form. -/
  | unexpected (value : JsonValue)
  /-- A call returned no bytes at all. -/
  | noData (g : Getter)
  | unreadable (cause : Abi.Error)

namespace Problem

def message : Problem → String
  | .refused r => "server returned an error response: " ++ r.describe
  | .silence reason => reason
  | .unexpected value => "deserialization error: unexpected value\n" ++ value.compact
  | .noData g =>
    "contract call to `" ++ g.name ++ "` returned no data (\"0x\"); " ++
      "the called address might not be a contract"
  | .unreadable cause => cause.message

/-- The message and what is below it. The connection's own account of why nothing arrived is the
message of the problem and also its cause. -/
def causes (p : Problem) : List String :=
  match p with
  | .silence reason => [reason, reason]
  | p => [p.message]

/-- The failure of the read for whose sake the request was made. -/
def under (p : Problem) (message : String) : ReadFailure :=
  ⟨message, p.causes⟩

end Problem

namespace Response

/-- The value of a response in the form asked for. -/
def read {α : Type} (form : JsonValue → Option α) : Response → Except Problem α
  | .result value =>
    match form value with
    | some a => .ok a
    | none => .error (.unexpected value)
  | .refusal r => .error (.refused r)
  | .silence reason => .error (.silence reason)

/-- The same where `null` says that there is nothing. -/
def readPresent {α : Type} (form : JsonValue → Option α) (r : Response) :
    Except Problem (Option α) :=
  r.read fun
    | .null => some none
    | value => (form value).map some

end Response

end DexTrade.Node
