import DexTrade.Analysis.Dispatch
import DexTrade.CommandLine.Arguments
import DexTrade.CommandLine.LogFilter
import DexTrade.Node.Session
import DexTrade.Node.Url
import DexTrade.Settings.Basic
import DexTrade.Settings.EnvFile
/-!
# The program

One run analyses one transaction and writes its record as JSON. Options go before the environment, and
the environment goes before the environment file. All that can be wrong with what the run was given is
found before the node is asked anything.
-/
namespace DexTrade.CommandLine

/-- Why a run has no record. -/
inductive Failure where
  | settings (cause : SettingsError)
  | notUrl (given : String)
  | trade (cause : TradeError)

def Failure.message : Failure → String
  | .settings cause => cause.message
  | .notUrl given => "Invalid RPC URL: " ++ given
  | .trade cause => cause.message

/-- What is to be done, once arguments and settings have been understood. -/
structure Plan where
  hash : TxHash
  nodeUrl : String
  settings : Settings
  /-- The transaction is one of the universal router, and no table is looked at. -/
  universal : Bool
  /-- The record goes on one line. -/
  compact : Bool
  /-- What is shown of the journal. -/
  limit : Option Level

namespace Plan

/-- The part of the program that writes the journal, as log filters name it. -/
def part : String := "swap_analyzer::analysis"

/-- The settings with what the arguments put in their place. -/
def override (a : Arguments) (s : Settings) : Settings :=
  { s with
    nodeUrl := a.nodeUrl.or s.nodeUrl
    chain := (a.chain.map Text.lowercase).getD s.chain
    tablePath := a.tablePath.or s.tablePath }

def make (a : Arguments) (environment : EnvFile.Bindings) : Except Failure Plan := do
  let lookup (name : String) := environment.lookup name
  let settings ← (Settings.ofLookup lookup).mapError .settings
  let settings := override a settings
  let hash ← (TxHash.Name.text a.txHash).read.mapError fun p => .trade (.invalidTxHash p)
  let nodeUrl ← settings.requireNodeUrl.mapError .settings
  if Node.isUrl nodeUrl then
    return { hash := hash
             nodeUrl := nodeUrl
             settings := settings
             universal := a.universal
             compact := a.compact
             limit := (LogFilter.ofSetting (lookup "RUST_LOG")).limitFor part }
  else throw (.notUrl nodeUrl)

def begun (p : Plan) : Entry :=
  ⟨.info, some ("Analysing " ++ p.hash.hex ++ " on " ++ p.settings.chain)⟩

/-- An analysis in a session of its own. -/
def analysed (a : Analysis TradeAnalysis) : Inquiry Node.source (Except Failure TradeAnalysis) := do
  let (result, _) ← Node.analyse a []
  return result.mapError .trade

/-- The work of a run. The file of a router table is opened only if a table is looked at. -/
def work (p : Plan) (files : String → Option Bytes) :
    Inquiry Node.source (Except Failure TradeAnalysis) := do
  Inquiry.write [p.begun]
  if p.universal then analysed (Analysis.Universal.analyse p.hash)
  else
    match p.settings.routers files with
    | .error cause => return .error (.settings cause)
    | .ok routers =>
      Inquiry.write (p.settings.routerEntries files)
      analysed (Analysis.Dispatch.analyse
        ⟨routers, p.settings.chain, p.settings.v2FeeBasisPoints⟩ p.hash)

/-- The text of a record. -/
def recordText (p : Plan) (a : TradeAnalysis) : String :=
  (if p.compact then a.json.compact else a.json.pretty) ++ "\n"

end Plan

/-- How a run ends. -/
structure Ending where
  status : Nat
  output : String
  complaint : Option String
  deriving DecidableEq

namespace Ending

def ofRefusal : Refusal → Ending
  | .helpWanted => ⟨0, "", none⟩
  | .misuse => ⟨2, "", none⟩

def ofFailure (f : Failure) : Ending :=
  ⟨1, "", some f.message⟩

/-- Nothing comes of a run that breaks off. -/
def ofResult (p : Plan) : Option (Except Failure TradeAnalysis) → Ending
  | some (.ok a) => ⟨0, p.recordText a, none⟩
  | some (.error f) => ofFailure f
  | none => ⟨101, "", none⟩

end Ending

/-- What a run is given besides its arguments. -/
structure Surroundings where
  environment : EnvFile.Bindings
  files : String → Option Bytes

/-- The file that fills in what the environment lacks. -/
def environmentFile : String := ".env"

/-- The plan of a run, or how the run ends without one. -/
def plan (arguments : List String) (s : Surroundings) : Except Ending Plan := do
  let a ← (Arguments.parse arguments).mapError Ending.ofRefusal
  (Plan.make a (EnvFile.load s.environment (s.files environmentFile))).mapError Ending.ofFailure

/-- A run on a node: how it ends and what it asks. -/
def run {σ : Type} (node : Node.Request → σ → Node.Response × σ) (state : σ)
    (arguments : List String) (s : Surroundings) : Ending × List Node.Request :=
  match plan arguments s with
  | .error ending => (ending, [])
  | .ok p =>
    let (r, _) := (p.work s.files).run node p.limit state
    (.ofResult p r.result, r.asked)

end DexTrade.CommandLine
