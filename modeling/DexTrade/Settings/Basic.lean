import DexTrade.Router.Builtin
import DexTrade.Router.OfToml
import DexTrade.Text.Blank
import DexTrade.Text.Utf8
/-!
# Settings

Four settings, each looked up by name. A value that is empty or blank counts as missing. The chain is
kept trimmed and in lowercase, the other texts as they are.
-/
namespace DexTrade

inductive SettingsError where
  | feeNotWhole (given : String)
  | noNodeUrl
  | unreadableTable (path : String)
  | malformedTable
  deriving DecidableEq

def SettingsError.message : SettingsError → String
  | .feeNotWhole given => "V2_LP_FEE_BPS is not a whole number of bps: " ++ given
  | .noNodeUrl => "RPC_URL not set (pass --rpc-url or add it to .env)"
  | .unreadableTable path => "Failed to read router table: " ++ path
  | .malformedTable => "Failed to parse router table TOML"

structure Settings where
  nodeUrl : Option String
  /-- The chain whose routers are looked up. -/
  chain : String
  /-- The file of a router table that takes the place of the built-in one. -/
  tablePath : Option String
  /-- The fee of V2 pairs, which the chain does not tell. -/
  v2FeeBasisPoints : Nat
  deriving DecidableEq

namespace Settings

def defaultChain : String := "base"

def defaultV2Fee : Nat := 30

/-- Digits with a plus sign in front or none, below 2^32. -/
def basisPoints? (text : List Char) : Option Nat :=
  let digits := match text with
    | '+' :: rest => rest
    | cs => cs
  if digits.isEmpty ∨ ¬digits.all Char.isDigit then none
  else
    let n := digits.foldl (fun n c => 10 * n + (c.toNat - 48)) 0
    if n < 0x100000000 then some n else none

/-- A looked-up value that is not blank. -/
def present? (lookup : String → Option String) (name : String) : Option String :=
  (lookup name).filter fun v => ¬(Text.trimmed v.toList).isEmpty

def ofLookup (lookup : String → Option String) : Except SettingsError Settings := do
  let fee ← match present? lookup "V2_LP_FEE_BPS" with
    | none => pure defaultV2Fee
    | some given =>
      match basisPoints? (Text.trimmed given.toList) with
      | some n => pure n
      | none => throw (.feeNotWhole given)
  return { nodeUrl := present? lookup "RPC_URL"
           chain := ((present? lookup "CHAIN").map fun c => Text.lowercase (Text.trim c)).getD
             defaultChain
           tablePath := present? lookup "ROUTER_TABLE"
           v2FeeBasisPoints := fee }

def requireNodeUrl (s : Settings) : Except SettingsError String :=
  match s.nodeUrl with
  | some url => .ok url
  | none => .error .noNodeUrl

/-- The table in a file, whose bytes `files` gives. -/
def loadTable (files : String → Option Bytes) (path : String) : Except SettingsError RouterTable :=
  match (files path).bind Utf8.decode? with
  | none => .error (.unreadableTable path)
  | some text =>
    match RouterTable.ofToml? text with
    | some table => .ok table
    | none => .error .malformedTable

/-- The table of the settings, or the built-in one. -/
def routers (s : Settings) (files : String → Option Bytes) : Except SettingsError RouterTable :=
  match s.tablePath with
  | some path => loadTable files path
  | none => .ok RouterTable.builtin

/-- What getting the table leaves in the journal: a note on a file that was loaded. -/
def routerEntries (s : Settings) (files : String → Option Bytes) : List Entry :=
  match s.tablePath, s.routers files with
  | some path, .ok _ => [⟨.info, some ("Router table loaded from " ++ path)⟩]
  | _, _ => []

end Settings

end DexTrade
