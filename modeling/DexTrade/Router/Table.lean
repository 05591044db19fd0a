import DexTrade.Address
import DexTrade.Journal
import DexTrade.Text.Lowercase
/-!
# Router tables

A table lists, for each chain, the known routers of each family. A destination belongs to the first
family that lists it, in the order V2, V3, universal. Chain names are kept in lowercase and looked up
in lowercase.
-/
namespace DexTrade

inductive RouterKind where
  | v2
  | v3
  | universal
  | unknown
  deriving DecidableEq

def RouterKind.name : RouterKind → String
  | .v2 => "uniswap-v2"
  | .v3 => "uniswap-v3"
  | .universal => "universal-router"
  | .unknown => "unknown"

structure RouterEntry where
  address : Address
  name : String
  deriving DecidableEq

structure ChainRouters where
  v2 : List RouterEntry
  v3 : List RouterEntry
  universal : List RouterEntry
  deriving DecidableEq

namespace ChainRouters

/-- The families in order of priority. -/
def families (c : ChainRouters) : List (RouterKind × List RouterEntry) :=
  [(.v2, c.v2), (.v3, c.v3), (.universal, c.universal)]

/-- The first family that lists an address, and the first entry there. -/
def find? (c : ChainRouters) (a : Address) : Option (RouterKind × RouterEntry) :=
  c.families.findSome? fun (kind, entries) =>
    (entries.find? fun entry => entry.address == a).map (kind, ·)

end ChainRouters

/-- The routers of each chain, by the chain's name in lowercase. -/
structure RouterTable where
  chains : List (String × ChainRouters)
  deriving DecidableEq

namespace RouterTable

def empty : RouterTable := ⟨[]⟩

/-- Replaces the routers of a name, or adds the name behind the others. -/
def put (name : String) (routers : ChainRouters) :
    List (String × ChainRouters) → List (String × ChainRouters)
  | [] => [(name, routers)]
  | (n, r) :: rest => if n = name then (n, routers) :: rest else (n, r) :: put name routers rest

/-- A table from chains under names as they are written. Of names with one lowercase form the last
one counts. -/
def ofChains (chains : List (String × ChainRouters)) : RouterTable :=
  ⟨chains.foldl (fun table (name, routers) => put (Text.lowercase name) routers table) []⟩

def chain? (t : RouterTable) (chain : String) : Option ChainRouters :=
  t.chains.lookup (Text.lowercase chain)

/-- What a chain finds; nothing where the chain is not known. -/
def find? (t : RouterTable) (chain : String) (a : Address) : Option (RouterKind × RouterEntry) :=
  (t.chain? chain).bind (·.find? a)

def classify (t : RouterTable) (chain : String) (a : Address) : RouterKind :=
  match t.find? chain a with
  | some (kind, _) => kind
  | none => .unknown

/-- The known names in code point order. -/
def chainNames (t : RouterTable) : List String :=
  (t.chains.map (·.1)).mergeSort (· ≤ ·)

/-- What a look-up leaves in the journal: a note on what was found. -/
def entries (t : RouterTable) (chain : String) (a : Address) : List Entry :=
  match t.find? chain a with
  | some (kind, entry) =>
    [.debug (a.checksummed ++ " on " ++ chain ++ " is " ++ entry.name ++ " (" ++ kind.name ++ ")")]
  | none => []

end RouterTable

end DexTrade
