import DexTrade.Json.Read
import DexTrade.Node.Response
/-!
# Messages to and from a node

Requests and responses as they travel: one JSON object each. A request carries a number; a response
holds an error or a result, and of both the error counts.
-/
namespace DexTrade.Node

def Request.message (number : Nat) (r : Request) : JsonValue :=
  .object [("jsonrpc", .string "2.0"), ("id", .natural number), ("method", .string r.method),
    ("params", .array r.params)]

namespace Response

def code? : JsonValue → Option Int
  | .number literal => literal.toInt?
  | _ => none

def text? : JsonValue → Option String
  | .string s => some s
  | _ => none

def refusal? (v : JsonValue) : Option Refusal := do
  let code ← (v.member? "code").bind code?
  let message ← (v.member? "message").bind text?
  return ⟨code, message, v.member? "data"⟩

def ofMessage (v : JsonValue) : Response :=
  match (v.member? "error").bind refusal?, v.member? "result" with
  | some r, _ => .refusal r
  | none, some value => .result value
  | none, none => .silence "a message without a result or an error"

/-- The response that a line holds. -/
def ofLine (line : String) : Response :=
  match JsonValue.parse? line with
  | some v => ofMessage v
  | none => .silence "a message that is no JSON"

end Response

end DexTrade.Node
