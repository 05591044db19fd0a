import DexTrade.Proofs.Analysis.Dispatch
/-!
# What all successes have in common

A success is the record of a trade that was built from an event. What the records of a builder always
have in common, the successes of the analyses that end with that builder have in common, whatever is
read and decoded on the way.
-/
namespace DexTrade.Analysis

variable {events : TxHash → Analysis (List Event)} {transaction : Transaction} {hash : TxHash}
  {receipt : Receipt} {P : TradeSuccess → Prop}

/-- All successes have a property; of failures nothing is said. -/
def OfSuccess (P : TradeSuccess → Prop) (a : TradeAnalysis) : Prop :=
  ∀ t, a = .success t → P t

theorem OfSuccess.success {t : TradeSuccess} (h : P t) : OfSuccess P (.success t) := by
  intro t' ht'
  exact TradeAnalysis.success.inj ht' ▸ h

theorem OfSuccess.fail (fail : TradeFail) : OfSuccess P (.fail fail) :=
  nofun

/-- The builder of a record is given the call as it was decoded. -/
theorem Steps.ofSuccess {Call : Type} (x : Steps Call)
    (h : ∀ call event, x.decode transaction.input = .ok call →
      (x.build receipt call event).Returns P) :
    (x.analyse transaction hash receipt events).Returns (OfSuccess P) := by
  unfold Steps.analyse
  cases receipt.status with
  | true =>
    refine .after fun _ => .bind .expect fun call hcall => .after fun _ => ?_
    refine .after fun _ => .after fun event => ?_
    exact (h call event hcall).bind fun trade htrade => .pure (.success htrade)
  | false => exact .after fun fail => .after fun _ => .pure (.fail fail)

/-- What is found of the trade in a result says that there is one. -/
theorem exists_success_of_map {β : Type} {result : Option (Except TradeError TradeAnalysis)}
    {f : TradeSuccess → β} {value : β}
    (h : ((result.bind Except.toOption).bind TradeAnalysis.success?).map f = some value) :
    ∃ t, result = some (.ok (.success t)) ∧ f t = value := by
  rcases result with _ | e | t | fail
  · exact nomatch h
  · exact nomatch h
  · exact ⟨t, rfl, Option.some.inj h⟩
  · exact nomatch h

end DexTrade.Analysis
