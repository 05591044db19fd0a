/-!
# Command line arguments

One argument names the transaction; the others are options, in any order. An option's value follows
it or is attached to it. No option is given twice, and behind `--` nothing is an option.
-/
namespace DexTrade.CommandLine

structure Arguments where
  /-- The transaction, as it was given. -/
  txHash : String
  chain : Option String
  nodeUrl : Option String
  tablePath : Option String
  logFormat : Option String
  universal : Bool
  compact : Bool
  deriving DecidableEq

/-- Why there is nothing to do. -/
inductive Refusal where
  | helpWanted
  | misuse
  deriving DecidableEq

namespace Arguments

/-- An option with a value. -/
inductive Setting where
  | chain
  | nodeUrl
  | tablePath
  | logFormat
  deriving DecidableEq

/-- An option without a value. -/
inductive Switch where
  | universal
  | compact
  | help
  deriving DecidableEq

inductive Choice where
  | setting (s : Setting)
  | switch (s : Switch)
  deriving DecidableEq

/-- The options by their names behind two dashes. -/
def longNames : List (String × Choice) :=
  [("chain", .setting .chain),
    ("rpc-url", .setting .nodeUrl),
    ("routers", .setting .tablePath),
    ("log-format", .setting .logFormat),
    ("universal", .switch .universal),
    ("compact", .switch .compact),
    ("help", .switch .help)]

/-- The options by their letters behind one dash. -/
def shortNames : List (Char × Choice) :=
  [('c', .setting .chain), ('h', .switch .help)]

/-- What has been given so far. -/
structure Given where
  txHash : Option String
  settings : List (Setting × String)
  switches : List Switch

def Given.none : Given := ⟨.none, [], []⟩

namespace Given

def addTransaction (g : Given) (text : String) : Except Refusal Given :=
  if g.txHash.isSome then .error .misuse else .ok { g with txHash := some text }

/-- Adds a value; the path of a table cannot be empty. -/
def addSetting (g : Given) (s : Setting) (value : String) : Except Refusal Given :=
  if (g.settings.lookup s).isSome ∨ (s = .tablePath ∧ value = "") then .error .misuse
  else .ok { g with settings := (s, value) :: g.settings }

def addSwitch (g : Given) (s : Switch) : Except Refusal Given :=
  if s = .help then .error .helpWanted
  else if s ∈ g.switches then .error .misuse
  else .ok { g with switches := s :: g.switches }

def finish (g : Given) : Except Refusal Arguments :=
  match g.txHash with
  | .none => .error .misuse
  | some txHash =>
    .ok { txHash := txHash
          chain := g.settings.lookup .chain
          nodeUrl := g.settings.lookup .nodeUrl
          tablePath := g.settings.lookup .tablePath
          logFormat := g.settings.lookup .logFormat
          universal := g.switches.contains .universal
          compact := g.switches.contains .compact }

end Given

/-- What one argument is. -/
inductive Piece where
  | plain
  /-- Two dashes alone. -/
  | divider
  /-- An option, with the value attached to it if there is one. -/
  | choice (c : Choice) (attached : Option String)
  | unknown

/-- An option by its name, a value attached behind an equals sign. -/
def longPiece (body : List Char) : Piece :=
  match longNames.lookup (String.ofList (body.takeWhile (· != '='))) with
  | some c =>
    match body.dropWhile (· != '=') with
    | _ :: value => .choice c (some (String.ofList value))
    | [] => .choice c none
  | none => .unknown

/-- An option by its letter, a value attached to it, behind an equals sign or not. -/
def shortPiece (letter : Char) (rest : List Char) : Piece :=
  match shortNames.lookup letter with
  | some (.switch s) => .choice (.switch s) none
  | some (.setting s) =>
    match rest with
    | [] => .choice (.setting s) none
    | '=' :: value => .choice (.setting s) (some (String.ofList value))
    | value => .choice (.setting s) (some (String.ofList value))
  | none => .unknown

def pieceOf (argument : String) : Piece :=
  match argument.toList with
  | ['-', '-'] => .divider
  | '-' :: '-' :: body => longPiece body
  | '-' :: letter :: rest => shortPiece letter rest
  | _ => .plain

/-- Goes through the arguments from the first to the last. -/
def collect (g : Given) : List String → Except Refusal Given
  | [] => .ok g
  | argument :: rest => do
    match pieceOf argument with
    | .plain => collect (← g.addTransaction argument) rest
    | .divider => rest.foldlM Given.addTransaction g
    | .unknown => throw .misuse
    | .choice (.switch s) none => collect (← g.addSwitch s) rest
    | .choice (.switch _) (some _) => throw .misuse
    | .choice (.setting s) (some value) => collect (← g.addSetting s value) rest
    | .choice (.setting s) none =>
      match rest with
      | [] => throw .misuse
      | value :: rest =>
        match pieceOf value with
        | .plain => collect (← g.addSetting s value) rest
        | _ => throw .misuse

def parse (arguments : List String) : Except Refusal Arguments := do
  (← collect Given.none arguments).finish

end Arguments

end DexTrade.CommandLine
