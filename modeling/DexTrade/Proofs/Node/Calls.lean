import DexTrade.Proofs.Analysis.FailedReads
import DexTrade.Proofs.Node.Work
/-!
# Calls on a session

A session serves readings one by one, the events of a transaction and whole analyses. Calls follow
each other on one state, which survives a call that fails or breaks off. What a call does here is
what its own inquiry does when it is put to the node (`outcome_work`).
-/
namespace DexTrade.Node

/-- What a session can be called for. -/
inductive Call where
  | reading (r : Chain.Reading)
  | events (hash : TxHash)
  | analysis (x : Analysis.Entrance)

namespace Call

def Result : Call → Type
  | reading r => Except ReadFailure r.Value
  | events _ => Except TradeError (List Event)
  | analysis _ => Except TradeError TradeAnalysis

/-- A call as an inquiry about chain data. -/
def inquiry : (k : Call) → Inquiry Chain.source k.Result
  | reading r => Inquiry.question (S := Chain.source) r
  | events hash => (Analysis.events hash).run
  | analysis x => x.analysis.run

/-- A call put to a node, with the tokens known before it and after it. -/
def work (k : Call) (cache : TokenCache) : Inquiry source (k.Result × TokenCache) :=
  Inquiry.resolve (fun r => (Node.reading r).start) k.inquiry cache

end Call

/-- How a session answers a reading. -/
def serve (b : Behaviour) (r : Chain.Reading) (s : State) : Except ReadFailure r.Value × State :=
  (reading r).conclude b s

/-- The result of a call, if it did not break off, and the state of the session after it. -/
def Call.perform (b : Behaviour) (limit : Option Level) (k : Call) (s : State) :
    Option k.Result × State :=
  let o := Inquiry.outcome (serve b) limit k.inquiry s
  (o.result, o.state)

variable {α : Type} {b : Behaviour} {limit : Option Level}

/-- An inquiry about chain data asks the node what the readings in it ask the node. -/
theorem outcome_resolve (i : Inquiry Chain.source α) (s : State) :
    let o := Inquiry.outcome b.answer limit
      (Inquiry.resolve (fun r => (reading r).start) i s.tokens) s.history
    let o' := Inquiry.outcome (serve b) limit i s
    o.result = o'.result.map (·, o'.state.tokens) ∧ o.state = o'.state.history := by
  induction i generalizing s with
  | done a => exact ⟨rfl, rfl⟩
  | ask r next ih =>
    obtain ⟨hresult, hstate⟩ :=
      ((composed_reading r).isWritable s.tokens).outcome b.answer limit s.history
    have hresolve : Inquiry.resolve (fun r => (reading r).start) (.ask r next) s.tokens =
        (reading r).start s.tokens >>= fun (answer, tokens) =>
          Inquiry.resolve (fun r => (reading r).start) (next answer) tokens :=
      rfl
    rw [hresolve, Inquiry.outcome_bind, Outcome.andThen, hresult, hstate]
    exact ih _ (serve b r s).2
  | note e next ih =>
    rw [Inquiry.resolve, Inquiry.outcome_note, Inquiry.outcome_note]
    split
    · exact ⟨rfl, rfl⟩
    · exact ih s

theorem Call.outcome_work (k : Call) (b : Behaviour) (limit : Option Level) (s : State) :
    let o := Inquiry.outcome b.answer limit (k.work s.tokens) s.history
    o.result = (k.perform b limit s).1.map (·, (k.perform b limit s).2.tokens) ∧
      o.state = (k.perform b limit s).2.history :=
  outcome_resolve k.inquiry s

/-- The result on a node that always responds the same. -/
theorem result_constant (node : Request → Response) (limit : Option Level) (i : Inquiry source α)
    (h : History) :
    (Inquiry.outcome (Behaviour.constant node).answer limit i h).result =
      (Inquiry.runFixed node limit i).result :=
  (Inquiry.result_eq_runFixed (P := fun _ => True) (fun _ _ _ => ⟨rfl, trivial⟩) limit i trivial).1

/-! ## Sequences of calls -/

/-- The state after some calls, each made on the state that the one before it left. -/
def after (b : Behaviour) (limit : Option Level) : List Call → State → State
  | [], s => s
  | k :: rest, s => after b limit rest (k.perform b limit s).2

/-- The results of some calls made one after the other. -/
def results (b : Behaviour) (limit : Option Level) :
    List Call → State → List ((k : Call) × Option k.Result)
  | [], _ => []
  | k :: rest, s => ⟨k, (k.perform b limit s).1⟩ :: results b limit rest (k.perform b limit s).2

end DexTrade.Node
