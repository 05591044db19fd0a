import DexTrade.Journal
/-!
# Inquiries

An inquiry is a computation that puts questions to a source, goes on with the answers and writes
journal entries on the way. It says nothing about where the answers come from: `run` takes them from
any function that may keep a state, and `resolve` answers the questions of one source by inquiries
of another. A run gives the result, the questions in order and the lines of the journal that a reader
of a given level sees; it has no result if one of those lines could not be written.
-/
namespace DexTrade

/-- A kind of questions and what is answered to each. -/
structure Source where
  Question : Type
  Answer : Question → Type

inductive Inquiry (S : Source) (α : Type) : Type where
  | done (a : α)
  | ask (q : S.Question) (next : S.Answer q → Inquiry S α)
  | note (e : Entry) (next : Inquiry S α)

/-- What came of an inquiry. -/
structure Run (S : Source) (α : Type) where
  /-- Nothing if the work broke off at an entry that could not be written. -/
  result : Option α
  asked : List S.Question
  lines : List String

namespace Inquiry

variable {S T : Source} {α β σ : Type}

def bind : Inquiry S α → (α → Inquiry S β) → Inquiry S β
  | .done a, f => f a
  | .ask q next, f => .ask q fun answer => (next answer).bind f
  | .note e next, f => .note e (next.bind f)

instance : Monad (Inquiry S) where
  pure := .done
  bind := Inquiry.bind

/-- Asks one question and gives its answer. -/
def question (q : S.Question) : Inquiry S (S.Answer q) :=
  .ask q .done

/-- Writes entries in order. -/
def write : List Entry → Inquiry S Unit
  | [] => .done ()
  | e :: rest => .note e (write rest)

/-- Runs an inquiry on answers that may depend on a state. -/
def run (answer : (q : S.Question) → σ → S.Answer q × σ) (limit : Option Level) :
    Inquiry S α → σ → Run S α × σ
  | .done a, s => (⟨some a, [], []⟩, s)
  | .ask q next, s =>
    let (a, s) := answer q s
    let (r, s) := run answer limit (next a) s
    ({ r with asked := q :: r.asked }, s)
  | .note e next, s =>
    if e.level.isShown limit then
      match e.line with
      | none => (⟨none, [], []⟩, s)
      | some line =>
        let (r, s) := run answer limit next s
        ({ r with lines := line :: r.lines }, s)
    else run answer limit next s

/-- Runs an inquiry on answers that are always the same. -/
def runFixed (answer : (q : S.Question) → S.Answer q) (limit : Option Level) (i : Inquiry S α) :
    Run S α :=
  (run (fun q (_ : Unit) => (answer q, ())) limit i ()).1

/-- Answers each question by an inquiry of another source, which may keep a state. -/
def resolve (answer : (q : S.Question) → σ → Inquiry T (S.Answer q × σ)) :
    Inquiry S α → σ → Inquiry T (α × σ)
  | .done a, s => .done (a, s)
  | .ask q next, s => (answer q s).bind fun (a, s) => resolve answer (next a) s
  | .note e next, s => .note e (resolve answer next s)

theorem bind_done (i : Inquiry S α) : i.bind .done = i := by
  induction i with
  | done a => rfl
  | ask q next ih => simp only [bind, ih]
  | note e next ih => simp only [bind, ih]

theorem bind_assoc {γ : Type} (i : Inquiry S α) (f : α → Inquiry S β) (g : β → Inquiry S γ) :
    (i.bind f).bind g = i.bind fun a => (f a).bind g := by
  induction i with
  | done a => rfl
  | ask q next ih => simp only [bind, ih]
  | note e next ih => simp only [bind, ih]

instance : LawfulMonad (Inquiry S) :=
  LawfulMonad.mk' (Inquiry S)
    (fun i => bind_done i)
    (fun _ _ => rfl)
    (fun i f g => bind_assoc i f g)

end Inquiry

end DexTrade
