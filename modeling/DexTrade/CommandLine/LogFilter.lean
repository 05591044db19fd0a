import DexTrade.Journal
import DexTrade.Text.Alphanumeric
import DexTrade.Text.Blank
/-!
# Log filters

A filter says how much of the journal is shown: directives with commas between them, each a level, the
name of a part of the program, or such a name with a level. A name stands for all parts whose names
start with it, and the directive with the longest name decides.
-/
namespace DexTrade.CommandLine

/-- How much of one part is shown; nothing for none at all. -/
structure Directive where
  /-- What the names of the parts start with. -/
  part : List Char
  /-- Concerns only what happens within spans, of which this program has none. -/
  withinSpan : Bool
  limit : Option Level
  deriving DecidableEq

abbrev LogFilter := List Directive

namespace LogFilter

/-- The limits in the order of their numbers. -/
def limits : List (Option Level) :=
  [none, some .error, some .warn, some .info, some .debug, some .trace]

/-- The number of a limit in digits, a plus sign in front or not. -/
def limitNumber? (text : List Char) : Option (Option Level) :=
  let digits := match text with
    | '+' :: rest => rest
    | cs => cs
  if digits.isEmpty ∨ ¬digits.all Char.isDigit then none
  else limits[digits.foldl (fun n c => 10 * n + (c.toNat - 48)) 0]?

/-- The limits by their names, of which the case does not matter. -/
def limitName? (text : List Char) : Option (Option Level) :=
  match String.ofList (text.map Char.toLower) with
  | "off" => some none
  | "error" => some (some .error)
  | "warn" => some (some .warn)
  | "info" => some (some .info)
  | "debug" => some (some .debug)
  | "trace" => some (some .trace)
  | _ => none

def limit? (text : List Char) : Option (Option Level) :=
  (limitNumber? text).or (limitName? text)

/-- The limit behind an equals sign; if there is none, everything is shown. -/
def limitAfter? (text : List Char) : Option (Option Level) :=
  if text.isEmpty then some (some .trace) else limit? text

def startsName (c : Char) : Bool :=
  c == '-' || c == ':' || c == '_' || c.isAlphanum || Text.isAlphanumeric c

/-- What follows the name of a span, brackets included. -/
def spanDirective? (part rest : List Char) : Option Directive :=
  match rest.dropWhile (· != ']') with
  | [']'] => some ⟨part, true, some .trace⟩
  | ']' :: '=' :: limit => (limitAfter? limit).map fun limit => ⟨part, true, limit⟩
  | _ => none

def directive? (text : List Char) : Option Directive :=
  match Text.trimmed text with
  | '[' :: rest => spanDirective? [] rest
  | text =>
    if !(text.head?.any startsName) then none
    else
      let part := text.takeWhile fun c => c != '=' && c != '['
      match text.dropWhile fun c => c != '=' && c != '[' with
      | [] =>
        match limit? text with
        | some limit => some ⟨[], false, limit⟩
        | none => some ⟨text, false, some .trace⟩
      | '=' :: limit => (limitAfter? limit).map fun limit => ⟨part, false, limit⟩
      | _ :: rest => spanDirective? part rest

/-- An empty text shows errors alone. -/
def parse? (text : String) : Option LogFilter :=
  if text = "" then some [⟨[], false, some .error⟩]
  else (text.toList.splitOn ',').mapM directive?

/-- The filter where none is asked for or the one asked for cannot be read. -/
def usual : LogFilter :=
  [⟨[], false, some .info⟩]

def ofSetting (setting : Option String) : LogFilter :=
  (setting.bind parse?).getD usual

def concerns (name : List Char) (d : Directive) : Bool :=
  !d.withinSpan && d.part.isPrefixOf name

/-- The later of two directives unless the name of the earlier is longer. -/
def stronger (best : Option Directive) (d : Directive) : Option Directive :=
  match best with
  | some b => if d.part.length < b.part.length then some b else some d
  | none => some d

/-- What a filter shows of the part with a name. -/
def limitFor (filter : LogFilter) (name : String) : Option Level :=
  ((filter.filter (concerns name.toList)).foldl stronger none).bind Directive.limit

end LogFilter

end DexTrade.CommandLine
