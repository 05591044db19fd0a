/-!
# Journal

While it works, the library says what it does in journal entries. An entry has a level and a text; a
reader of the journal asks for a level and sees that level and the more severe ones. An entry whose
text cannot be written has none, and asking for it breaks the work off.
-/
namespace DexTrade

inductive Level where
  | error
  | warn
  | info
  | debug
  | trace
  deriving DecidableEq

namespace Level

/-- How much detail a level stands for; zero is the most severe. -/
def detail : Level → Nat
  | .error => 0
  | .warn => 1
  | .info => 2
  | .debug => 3
  | .trace => 4

def name : Level → String
  | .error => "ERROR"
  | .warn => "WARN"
  | .info => "INFO"
  | .debug => "DEBUG"
  | .trace => "TRACE"

/-- Whether a reader who asks for `limit` sees entries of this level; nobody asked sees none. -/
def isShown (level : Level) : Option Level → Bool
  | none => false
  | some limit => level.detail ≤ limit.detail

end Level

structure Entry where
  level : Level
  /-- Nothing when the text cannot be written. -/
  text : Option String
  deriving DecidableEq

namespace Entry

def trace (text : String) : Entry := ⟨.trace, some text⟩
def debug (text : String) : Entry := ⟨.debug, some text⟩
def warn (text : String) : Entry := ⟨.warn, some text⟩

/-- The line a shown entry makes, or nothing when it cannot be written. -/
def line (e : Entry) : Option String :=
  e.text.map fun text => e.level.name ++ " " ++ text

end Entry

end DexTrade
