import DexTrade.CommandLine.Program
import DexTrade.Node.Message
/-!
# The executable

Standard output gets the record alone. Networking is left to whoever starts the program: a request to
the node goes to standard error as one line, and the next line of standard input is its response. The
journal goes to standard error as well.
-/
namespace DexTrade.Executable

def usage : String :=
  "Usage: dextrade [OPTIONS] <TX_HASH>\n\n" ++
  "  <TX_HASH>                  the transaction, in hexadecimal\n" ++
  "  -c, --chain <CHAIN>        the chain whose routers are looked up\n" ++
  "      --rpc-url <RPC_URL>    the node\n" ++
  "      --routers <ROUTERS>    a file with a router table\n" ++
  "      --universal            a trade of the universal router\n" ++
  "      --compact              the record on one line\n" ++
  "      --log-format <FORMAT>  pretty or json\n" ++
  "  -h, --help                 this text\n"

/-- The variables that are looked up whatever the environment file says. -/
def usedVariables : List String :=
  ["RPC_URL", "CHAIN", "ROUTER_TABLE", "V2_LP_FEE_BPS", "RUST_LOG", "LOG_FORMAT"]

/-- The names of variables that a file may mention. -/
def mentioned (file : Bytes) : List String :=
  let isName (c : Char) : Bool := c.isAlphanum || c == '_'
  (((Utf8.decodeLossy file).toList.splitBy fun a b => isName a == isName b).map String.ofList).eraseDups

def readFile? (path : String) : IO (Option Bytes) := do
  try
    return some (← IO.FS.readBinFile path).toList
  catch _ =>
    return none

/-- The values that some variables have. -/
def environmentOf (names : List String) : IO EnvFile.Bindings := do
  let values ← names.mapM fun name => return (← IO.getEnv name).map fun value => (name, value)
  return values.filterMap id

/-- A line of the journal in the layout asked for. -/
def journalLine (layout : Option String) (line : String) : String :=
  if layout = some "json" then (JsonValue.object [("message", .string line)]).compact else line

/-- Sends a request and waits for its response. -/
def exchange (number : Nat) (r : Node.Request) : IO Node.Response := do
  IO.eprintln (r.message number).compact
  let line ← (← IO.getStdin).getLine
  if line.isEmpty then return .silence "no response" else return Node.Response.ofLine line

/-- Carries out the work of a run; nothing comes of it if a line of the journal cannot be written. -/
def perform {α : Type} (p : CommandLine.Plan) (layout : Option String) :
    (number : Nat) → Inquiry Node.source α → IO (Option α)
  | _, .done a => return some a
  | number, .ask q next => do
    let response ← exchange number q
    perform p layout (number + 1) (next response)
  | number, .note e next => do
    if e.level.isShown p.limit then
      match e.line with
      | none => return none
      | some line =>
        IO.eprintln (journalLine layout line)
        perform p layout number next
    else perform p layout number next

def finish (ending : CommandLine.Ending) : IO UInt32 := do
  match ending.complaint with
  | some text => IO.eprintln ("Error: " ++ text)
  | none => IO.print ending.output
  return UInt32.ofNat ending.status

def runOn (a : CommandLine.Arguments) : IO UInt32 := do
  let file ← readFile? CommandLine.environmentFile
  let environment ← environmentOf (usedVariables ++ (file.map mentioned).getD [])
  let layout := a.logFormat.or (environment.lookup "LOG_FORMAT")
  match CommandLine.Plan.make a (EnvFile.load environment file) with
  | .error f => finish (.ofFailure f)
  | .ok p =>
    let table ← match p.settings.tablePath with
      | some path => readFile? path
      | none => pure none
    finish (.ofResult p (← perform p layout 1 (p.work fun _ => table)))

end DexTrade.Executable

def main (arguments : List String) : IO UInt32 := do
  match DexTrade.CommandLine.Arguments.parse arguments with
  | .error .helpWanted =>
    IO.print DexTrade.Executable.usage
    return 0
  | .error .misuse =>
    IO.eprint DexTrade.Executable.usage
    return 2
  | .ok a => DexTrade.Executable.runOn a
