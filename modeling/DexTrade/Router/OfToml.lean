import DexTrade.Router.Table
import DexTrade.Toml.Document
/-!
# Router tables in TOML

A document holds the chains under `chains`. A chain has a list of routers for each family, of which
any may be missing; a router has an address and a name. Keys of other names are passed over. A chain
and a router may also be written as arrays, their parts in the order of the fields. A point in time
counts as a table that has none of these keys: as a chain it has no routers, and it is neither the chains
nor a family nor a router. An address is text or an array of its twenty bytes.
-/
namespace DexTrade.RouterTable

def byte? : Toml.Value → Option UInt8
  | .integer n => if 0 ≤ n ∧ n < 256 then some (UInt8.ofNat n.toNat) else none
  | _ => none

def address? : Toml.Value → Option Address
  | .string s => Address.parse? s.toList
  | .array items =>
    if items.length < 20 then none
    else if ((items.drop 20).head?.bind byte?).isSome then none
    else ((items.take 20).mapM byte?).map Address.ofBytes
  | _ => none

def text? : Toml.Value → Option String
  | .string s => some s
  | _ => none

def entry? : Toml.Value → Option RouterEntry
  | .table fields => do
    let address ← (fields.lookup "address").bind address?
    let name ← (fields.lookup "name").bind text?
    return ⟨address, name⟩
  | .array (address :: name :: _) => do
    let address ← address? address
    let name ← text? name
    return ⟨address, name⟩
  | _ => none

/-- The routers of a family; none where the family is missing. -/
def family? : Option Toml.Value → Option (List RouterEntry)
  | none => some []
  | some (.array items) => items.mapM entry?
  | some _ => none

/-- The routers of a chain, which may be written as a table, as an array of its families, or as a
point in time, in which no family is found. -/
def chainRouters? : Toml.Value → Option ChainRouters
  | .table fields => do
    let v2 ← family? (fields.lookup "v2")
    let v3 ← family? (fields.lookup "v3")
    let universal ← family? (fields.lookup "universal")
    return ⟨v2, v3, universal⟩
  | .array items => do
    let v2 ← family? items[0]?
    let v3 ← family? items[1]?
    let universal ← family? items[2]?
    return ⟨v2, v3, universal⟩
  | .moment _ => some ⟨[], [], []⟩
  | _ => none

def namedChain? : String × Toml.Value → Option (String × ChainRouters)
  | (name, v) => (chainRouters? v).map (name, ·)

def ofDocument? (fields : List (String × Toml.Value)) : Option RouterTable :=
  match fields.lookup "chains" with
  | none => some empty
  | some (.table chains) =>
    (chains.mapM namedChain?).map ofChains
  | some _ => none

/-- The table in a TOML text. -/
def ofToml? (text : String) : Option RouterTable :=
  (Toml.read? text).bind ofDocument?

end DexTrade.RouterTable
