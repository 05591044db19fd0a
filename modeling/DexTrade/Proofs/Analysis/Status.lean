import DexTrade.Proofs.Analysis.Dispatch
import DexTrade.Proofs.Analysis.Executed
/-!
# The status of a receipt decides the outcome

A reverted transaction has a failure record made of its receipt and the answer to one reading; an
executed one is a success or an error. Every analysis looks at the status before anything else, so
what the call data, the logs and all other readings are does not matter to the record of a failure.
-/
namespace DexTrade.Analysis

open Chain

variable {σ : Type} {answer : (r : Reading) → σ → Except ReadFailure r.Value × σ}
  {limit : Option Level} {events : TxHash → Analysis (List Event)} {transaction : Transaction}
  {hash : TxHash} {receipt : Receipt}

/-! ## Reverted transactions -/

/-- The record of a reverted transaction by its receipt and the answer on the reason. -/
def failRecord (receipt : Receipt) (reason : Except ReadFailure (Option String)) : TradeFail :=
  ⟨receipt.gasUsed, receipt.effectiveGasPrice, reason.toOption.join⟩

/-- The run of an analysis that asks for the reason and nothing else. -/
def failed (answer : (r : Reading) → σ → Except ReadFailure r.Value × σ) (hash : TxHash)
    (receipt : Receipt) (s : σ) : Outcome source (Except TradeError TradeAnalysis) σ :=
  ⟨some (.ok (.fail (failRecord receipt (answer (.revertReason hash) s).1))), [.revertReason hash],
    (answer (.revertReason hash) s).2⟩

theorem outcome_failedTrade (s : σ) :
    outcome answer limit (failedTrade hash receipt) s =
      ⟨some (.ok (failRecord receipt (answer (.revertReason hash) s).1)), [.revertReason hash],
        (answer (.revertReason hash) s).2⟩ := by
  unfold failedTrade
  rw [outcome_bind_of_ok (outcome_attempt answer limit (.revertReason hash) s)]
  cases (answer (.revertReason hash) s).1 with
  | ok reason => rfl
  | error failure =>
    simp only [outcome_write_bind (Entry.writable_singleton (e := noReason hash failure) rfl)]
    rfl

theorem Steps.outcome_of_reverted {Call : Type} {x : Steps Call} (hx : x.Writable)
    (h : receipt.status = false) (s : σ) :
    outcome answer limit (x.analyse transaction hash receipt events) s =
      failed answer hash receipt s := by
  unfold Steps.analyse
  rw [h, if_neg Bool.false_ne_true, outcome_bind_of_ok (outcome_failedTrade s),
    outcome_write_bind (hx.reverted hash _), outcome_pure]
  rfl

theorem lineWritten_failed {run : Outcome source (Except TradeError TradeAnalysis) σ} {s : σ}
    (h : run = failed answer hash receipt s) :
    Dispatch.lineWritten limit run =
      { failed answer hash receipt s with
        result :=
          if Level.info.isShown limit ∧ Decimal.maxMantissa < receipt.effectiveGasPrice.toNat then
            none
          else (failed answer hash receipt s).result } :=
  congrArg (Dispatch.lineWritten limit) h

/-! ## Successes and failures -/

theorem Steps.returns_status {Call : Type} (x : Steps Call) :
    (x.analyse transaction hash receipt events).Returns fun a => a.isSuccess = receipt.status := by
  unfold Steps.analyse
  cases receipt.status with
  | true =>
    refine .after fun _ => .after fun call => .after fun _ => ?_
    exact .after fun _ => .after fun event => .after fun trade => .pure rfl
  | false => exact .after fun fail => .after fun _ => .pure rfl

theorem returns_dispatch (c : Dispatch.Context) :
    (Dispatch.analyseFetched c transaction hash receipt events).Returns fun a =>
      a.isSuccess = receipt.status :=
  Dispatch.returns_analyseFetched (V2.steps c.v2Fee).returns_status V3.steps.returns_status

/-- What is true of a record and the receipt at hand is true of the receipt that was fetched. -/
theorem receipt_of_fetched {f : Transaction → Receipt → Analysis TradeAnalysis}
    {P : TradeAnalysis → Receipt → Prop} (hf : ∀ t r, (f t r).Returns fun a => P a r) {s : σ}
    {a : TradeAnalysis}
    (h : (outcome answer limit
      (read (.transaction hash) >>= fun t => read (.receipt hash) >>= fun r => f t r) s).result =
        some (.ok a)) :
    ∃ r, (answer (.receipt hash) (answer (.transaction hash) s).2).1 = .ok r ∧ P a r := by
  obtain ⟨t, r, -, hreceipt, ha⟩ := Returns.of_fetched hf h
  exact ⟨r, hreceipt, ha⟩

/-- The status of the receipt decides between failure and success in all four analyses. When it is
false, the universal router's analysis and, for a V2 or V3 router, the dispatcher ask for the reason
and return the failure record: neither the call data, the logs and the fee nor another reading stands
on the right sides. Where nobody reads the journal this always is the result; the finished record is
only lost to a reader who asks for its line although the gas price is no decimal. -/
theorem outcome_follows_status (answer : (r : Reading) → σ → Except ReadFailure r.Value × σ)
    (limit : Option Level) (events : TxHash → Analysis (List Event)) (c : Dispatch.Context)
    (transaction : Transaction) (hash : TxHash) (receipt : Receipt) (s : σ) :
    (receipt.status = false →
      outcome answer limit (Universal.analyseFetched transaction hash receipt events) s =
        failed answer hash receipt s ∧
      outcome answer limit (Dispatch.analyseFetched c transaction hash receipt events) s =
        match transaction.destination.map (c.routers.classify c.chain) with
        | some .v2 | some .v3 =>
          { failed answer hash receipt s with
            result :=
              if Level.info.isShown limit ∧
                  Decimal.maxMantissa < receipt.effectiveGasPrice.toNat then none
              else (failed answer hash receipt s).result }
        | some .universal => ⟨some (.error (.unsupported .universalRouter)), [], s⟩
        | some .unknown | none =>
          ⟨some (.error (.unrecognizedRouter c.chain transaction.destination)), [], s⟩) ∧
    (∀ a, (outcome answer limit (Universal.analyseFetched transaction hash receipt events)
        s).result = some (.ok a) → a.isSuccess = receipt.status) ∧
    (∀ a, (outcome answer limit (Dispatch.analyseFetched c transaction hash receipt events)
        s).result = some (.ok a) → a.isSuccess = receipt.status) ∧
    (∀ a, (outcome answer limit (Universal.analyse hash events) s).result = some (.ok a) →
      ∃ r, (answer (.receipt hash) (answer (.transaction hash) s).2).1 = .ok r ∧
        a.isSuccess = r.status) ∧
    (∀ a, (outcome answer limit (Dispatch.analyse c hash events) s).result = some (.ok a) →
      ∃ r, (answer (.receipt hash) (answer (.transaction hash) s).2).1 = .ok r ∧
        a.isSuccess = r.status) := by
  refine ⟨fun h => ⟨Steps.outcome_of_reverted Universal.writable_steps h s, ?_⟩,
    fun a => Universal.steps.returns_status.result, fun a => (returns_dispatch c).result,
    fun a => receipt_of_fetched fun t r => Universal.steps.returns_status,
    fun a => receipt_of_fetched fun t r => returns_dispatch c⟩
  rw [Dispatch.outcome_analyseFetched]
  cases transaction.destination.map (c.routers.classify c.chain) with
  | none => rfl
  | some kind =>
    cases kind with
    | v2 => exact lineWritten_failed (Steps.outcome_of_reverted (V2.writable_steps c.v2Fee) h s)
    | v3 => exact lineWritten_failed (Steps.outcome_of_reverted V3.writable_steps h s)
    | universal => rfl
    | unknown => rfl

/-- A reverted call that is no swap, sent to a V3 router, whose reason the node does not know. -/
theorem failed_without_reason :
    let hash : TxHash := ⟨0x5af1⟩
    let transaction : Transaction := ⟨⟨0xa11ce⟩, some ⟨0x2626⟩, [0xde, 0xad], 0⟩
    let receipt : Receipt := ⟨false, 150000, 2500000000, some 7, []⟩
    let c : Dispatch.Context := ⟨⟨[("base", ⟨[], [⟨⟨0x2626⟩, "SwapRouter02"⟩], []⟩)]⟩, "Base", 30⟩
    let data : Chain.Data
      | .transaction _ => .ok transaction
      | .receipt _ => .ok receipt
      | _ => .error ⟨"no archive", []⟩
    let answer (r : Reading) (s : Unit) := (data r, s)
    let record : TradeFail := ⟨150000, 2500000000, none⟩
    receipt.status = false ∧
      outcome answer (some .info) (Dispatch.analyseFetched c transaction hash receipt) () =
        ⟨some (.ok (.fail record)), [.revertReason hash], ()⟩ ∧
      (outcome answer none (Universal.analyse hash) ()).result = some (.ok (.fail record)) ∧
      ∃ r, data (.receipt hash) = .ok r ∧ (TradeAnalysis.fail record).isSuccess = r.status := by
  intro hash transaction receipt c data answer record
  have hkind : c.routers.classify c.chain ⟨0x2626⟩ = .v3 := by decide +kernel
  obtain ⟨hreverted, -⟩ :=
    outcome_follows_status answer (some .info) Analysis.events c transaction hash receipt ()
  obtain ⟨-, hdispatch⟩ := hreverted rfl
  have hresult : (outcome answer none (Universal.analyse hash) ()).result =
      some (.ok (.fail record)) := by
    rfl
  obtain ⟨-, -, -, hfetched, -⟩ :=
    outcome_follows_status answer none Analysis.events c transaction hash receipt ()
  refine ⟨rfl, ?_, hresult, hfetched _ hresult⟩
  rw [hdispatch]
  simp only [transaction, Option.map_some, hkind]
  rfl

end DexTrade.Analysis
