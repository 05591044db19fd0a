import DexTrade.Analysis.Universal
import DexTrade.Analysis.V2
import DexTrade.Proofs.Analysis.Run
/-!
# Executed trades

In the analysis of a transaction that was executed the call data is decoded without any reading, then
the trade is read from one of the transaction's events (`Steps.outcome_of_executed`). Through a V3 pool
the analyses of a V3 router and of the universal router differ in how they decode the swap and in how
they select the event; of the swap itself the trade keeps no more than its route and its least output
(`outcome_tradeOf_congr`).
-/
namespace DexTrade.Analysis

open Chain

variable {Call σ : Type} {answer : (r : Reading) → σ → Except ReadFailure r.Value × σ}
  {limit : Option Level} {events : TxHash → Analysis (List Event)} {transaction : Transaction}
  {hash : TxHash} {receipt : Receipt} {x : Steps Call} {call : Call}

/-! ## The steps of a family -/

/-- What a family writes at its steps has a text. -/
structure Steps.Writable (x : Steps Call) : Prop where
  entries : ∀ input, ∀ e ∈ x.entries input, e.Writable
  called : ∀ hash call, (x.called hash call).Writable
  reverted : ∀ hash fail, ∀ e ∈ x.reverted hash fail, e.Writable

theorem Steps.outcome_of_executed (hx : x.Writable) (h : receipt.status = true) (s : σ) :
    outcome answer limit (x.analyse transaction hash receipt events) s =
      match x.decode transaction.input with
      | .ok call => outcome answer limit (x.trade hash receipt events call) s
      | .error e => ⟨some (.error e), [], s⟩ := by
  unfold Steps.analyse
  rw [h, if_pos rfl, outcome_write_bind (hx.entries _), outcome_expect_bind]
  cases x.decode transaction.input with
  | error e => rfl
  | ok call => exact outcome_write_bind (Entry.writable_singleton (hx.called hash call)) _ s

theorem Steps.outcome_of_decode (hx : x.Writable) (h : receipt.status = true)
    (hdecode : x.decode transaction.input = .ok call) (s : σ) :
    outcome answer limit (x.analyse transaction hash receipt events) s =
      outcome answer limit (x.trade hash receipt events call) s := by
  rw [outcome_of_executed hx h, hdecode]

theorem Steps.outcome_of_refused (hx : x.Writable) (h : receipt.status = true) {e : TradeError}
    (hdecode : x.decode transaction.input = .error e) (s : σ) :
    outcome answer limit (x.analyse transaction hash receipt events) s =
      ⟨some (.error e), [], s⟩ := by
  rw [outcome_of_executed hx h, hdecode]

/-! ## The trade of a swap -/

/-- The trade of a decoded swap, read from the event that is selected among the transaction's. -/
def tradeOf (hash : TxHash) (receipt : Receipt) (events : TxHash → Analysis (List Event))
    (select : List Event → Except TradeError Event) (swap : SwapCall) : Analysis TradeAnalysis := do
  let events ← events hash
  let event ← expect (select events)
  return .success (← V3.buildTrade receipt swap.path swap.amountOutMin event)

theorem writable_eventEntries (logs : List LogEntry) : ∀ e ∈ Event.entries logs, e.Writable := by
  intro e he
  obtain ⟨log, -, hentry⟩ := List.mem_filterMap.1 he
  unfold Event.entry? at hentry
  split at hentry
  · exact nomatch hentry
  · split at hentry
    · cases hentry
      rfl
    · exact nomatch hentry

/-- The events of a transaction are those of the logs in the receipt that is served for its hash. -/
theorem outcome_events_of_ok {served : Receipt} {s : σ}
    (h : (answer (.receipt hash) s).1 = .ok served) :
    outcome answer limit (Analysis.events hash) s =
      ⟨some (.ok (Event.ofLogs served.logs)), [.receipt hash], (answer (.receipt hash) s).2⟩ := by
  unfold Analysis.events
  rw [outcome_bind_of_ok (outcome_read_of_ok h), outcome_write_bind (writable_eventEntries _),
    outcome_pure]
  rfl

theorem outcome_events_of_error {failure : ReadFailure} {s : σ}
    (h : (answer (.receipt hash) s).1 = .error failure) :
    outcome answer limit (Analysis.events hash) s =
      ⟨some (.error (.failedRead failure)), [.receipt hash], (answer (.receipt hash) s).2⟩ := by
  unfold Analysis.events
  rw [outcome_bind_of_error (outcome_read_of_error h)]

/-- A run on an executed transaction reads its logs and then the record from the selected event. -/
theorem Steps.outcome_of_select (hx : x.Writable) (h : receipt.status = true) {served : Receipt}
    {event : Event} {s : σ} (hdecode : x.decode transaction.input = .ok call)
    (hserved : (answer (.receipt hash) s).1 = .ok served)
    (hselect : x.select (Event.ofLogs served.logs) = .ok event) :
    outcome answer limit (x.analyse transaction hash receipt Analysis.events) s =
      let run := outcome answer limit (x.build receipt call event >>= fun t =>
        pure (TradeAnalysis.success t)) (answer (.receipt hash) s).2
      ⟨run.result, .receipt hash :: run.asked, run.state⟩ := by
  rw [outcome_of_decode hx h hdecode, Steps.trade, outcome_bind_of_ok (outcome_events_of_ok hserved),
    hselect, expect_ok_bind]
  rfl

/-- If no event is selected, nothing more is read than the logs. -/
theorem Steps.outcome_of_unselected (hx : x.Writable) (h : receipt.status = true) {served : Receipt}
    {e : TradeError} {s : σ} (hdecode : x.decode transaction.input = .ok call)
    (hserved : (answer (.receipt hash) s).1 = .ok served)
    (hselect : x.select (Event.ofLogs served.logs) = .error e) :
    outcome answer limit (x.analyse transaction hash receipt Analysis.events) s =
      ⟨some (.error e), [.receipt hash], (answer (.receipt hash) s).2⟩ := by
  rw [outcome_of_decode hx h hdecode, Steps.trade, outcome_bind_of_ok (outcome_events_of_ok hserved),
    hselect, outcome_expect_bind]
  rfl

/-- Of a decoded swap a trade keeps the route and the least output, of the events the selected one. -/
theorem outcome_tradeOf_congr {select select' : List Event → Except TradeError Event} {s : σ}
    {swap swap' : SwapCall} (hpath : swap.path = swap'.path)
    (hmin : swap.amountOutMin = swap'.amountOutMin)
    (hselect : ∀ served, (answer (.receipt hash) s).1 = .ok served →
      select (Event.ofLogs served.logs) = select' (Event.ofLogs served.logs)) :
    outcome answer limit (tradeOf hash receipt Analysis.events select swap) s =
      outcome answer limit (tradeOf hash receipt Analysis.events select' swap') s := by
  unfold tradeOf
  cases hserved : (answer (.receipt hash) s).1 with
  | error failure =>
    rw [outcome_bind_of_error (outcome_events_of_error hserved),
      outcome_bind_of_error (outcome_events_of_error hserved)]
  | ok served =>
    rw [outcome_bind_of_ok (outcome_events_of_ok hserved),
      outcome_bind_of_ok (outcome_events_of_ok hserved), hselect served hserved, hpath, hmin]

/-! ## The swap of a call -/

/-- The swap that a call of the universal router stands for, if it holds exactly one V3 swap. -/
def Universal.swapOf (input : Bytes) : Except TradeError SwapCall :=
  ExecuteCall.decode input >>= Universal.onlySwap >>= Operation.decodeV3Swap

theorem writable_v3Entries (input : Bytes) : ∀ e ∈ V3Router.entries input, e.Writable := by
  unfold V3Router.entries
  split
  · rename_i calls hread
    split
    · exact fun e he => nomatch he
    · intro e he
      obtain ⟨call, hcall, hentry⟩ := List.mem_filterMap.1 he
      cases hdecode : V3Router.decode call with
      | ok swap => simp [hdecode] at hentry
      | error cause =>
        simp only [hdecode, Option.some.injEq] at hentry
        subst hentry
        rfl
  · exact fun e he => nomatch he

theorem writable_executeEntries (input : Bytes) : ∀ e ∈ ExecuteCall.entries input, e.Writable := by
  unfold ExecuteCall.entries
  cases ExecuteCall.decode input with
  | ok call => exact Entry.writable_singleton rfl
  | error cause => exact fun e he => nomatch he

theorem writable_v2Entries (input : Bytes) : ∀ e ∈ V2Router.entries input, e.Writable := by
  unfold V2Router.entries
  cases V2Router.decode input with
  | ok swap => exact Entry.writable_singleton rfl
  | error cause => exact fun e he => nomatch he

theorem V2.writable_steps (fee : Nat) : (V2.steps fee).Writable where
  entries := writable_v2Entries
  called _ _ := rfl
  reverted _ _ _ he := nomatch he

theorem V3.writable_steps : V3.steps.Writable where
  entries := writable_v3Entries
  called _ _ := rfl
  reverted _ _ _ he := nomatch he

theorem Universal.writable_steps : Universal.steps.Writable where
  entries := writable_executeEntries
  called _ _ := rfl
  reverted hash fail := Entry.writable_singleton (e := Universal.reverted hash fail.revertReason) rfl

theorem Universal.map_decodeSwap (input : Bytes) :
    (Universal.decodeSwap input).map Prod.snd = Universal.swapOf input := by
  change Prod.snd <$> Universal.decodeSwap input = Universal.swapOf input
  simp only [decodeSwap, swapOf, map_bind, map_pure, bind_pure, bind_assoc]

/-- Of what a call of the universal router is decoded to, the trade keeps the swap. -/
theorem outcome_universal_of_executed (h : receipt.status = true) (s : σ) :
    outcome answer limit (Universal.analyseFetched transaction hash receipt events) s =
      match Universal.swapOf transaction.input with
      | .ok swap => outcome answer limit (tradeOf hash receipt events (lastEvent · .v3Swap) swap) s
      | .error e => ⟨some (.error e), [], s⟩ := by
  rw [← Universal.map_decodeSwap]
  cases hdecode : Universal.decodeSwap transaction.input with
  | error e => exact Steps.outcome_of_refused Universal.writable_steps h hdecode s
  | ok found => exact Steps.outcome_of_decode Universal.writable_steps h hdecode s

end DexTrade.Analysis
