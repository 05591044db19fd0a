import DexTrade.Proofs.Analysis.Executed
import DexTrade.Proofs.Analysis.Status
import DexTrade.Proofs.Event.Padding
import DexTrade.Proofs.Event.Report
import DexTrade.Proofs.V3Router.Multicall
/-!
# Logs that do not matter

An analysis reads the logs of a transaction for the events of one kind, and of these for the only one
or the last one. It overlooks everything else about them (`unrelated_logs_overlooked`): it comes to the
same result after the same readings if other logs stand among them, if all are moved to other places
in the block and, where the last event counts, if there are other events before that one. Too many
events are told by their number alone.
-/
namespace DexTrade.Analysis

open Chain Event

variable {α β σ Call : Type} {answer answer' : (r : Reading) → σ → Except ReadFailure r.Value × σ}
  {limit : Option Level} {R : List LogEntry → List LogEntry → Prop} {transaction : Transaction}
  {hash : TxHash} {receipt : Receipt}

/-! ## Changing the logs -/

/-- The same chain data but for the logs in the receipt of one transaction, which are related to what
they were before. -/
structure Relogged (R : List LogEntry → List LogEntry → Prop) (hash : TxHash)
    (answer answer' : (r : Reading) → σ → Except ReadFailure r.Value × σ) : Prop where
  others : ∀ r, r ≠ .receipt hash → answer' r = answer r
  state : ∀ s, (answer' (.receipt hash) s).2 = (answer (.receipt hash) s).2
  failed : ∀ s failure, (answer (.receipt hash) s).1 = .error failure →
    (answer' (.receipt hash) s).1 = .error failure
  served : ∀ s receipt, (answer (.receipt hash) s).1 = .ok receipt →
    ∃ logs, R receipt.logs logs ∧ (answer' (.receipt hash) s).1 = .ok { receipt with logs }

/-- Two sources without a state that differ in the logs of one receipt. -/
theorem Relogged.of_data {data data' : Chain.Data} {logs : List LogEntry}
    (hothers : ∀ r, r ≠ .receipt hash → data' r = data r)
    (hserved : data (.receipt hash) = .ok receipt)
    (hserved' : data' (.receipt hash) = .ok { receipt with logs }) (h : R receipt.logs logs) :
    Relogged R hash (fun r (s : σ) => (data r, s)) (fun r s => (data' r, s)) := by
  refine ⟨fun r hr => ?_, fun _ => rfl, fun _ failure hfailed => ?_, fun _ found hfound => ?_⟩
  · funext s
    rw [hothers r hr]
  · exact nomatch hserved.symm.trans hfailed
  · obtain rfl := Except.ok.inj (hserved.symm.trans hfound)
    exact ⟨logs, h, hserved'⟩

/-- Changing the logs of a transaction in this way changes nothing about a run of the analysis. -/
def Overlooks (R : List LogEntry → List LogEntry → Prop) (hash : TxHash) (x : Analysis α) : Prop :=
  ∀ (σ : Type) (answer answer' : (r : Reading) → σ → Except ReadFailure r.Value × σ),
    Relogged R hash answer answer' → ∀ (limit : Option Level) (s : σ),
      outcome answer' limit x s = outcome answer limit x s

namespace Overlooks

protected theorem pure (a : α) : Overlooks R hash (pure a) :=
  fun _ _ _ _ _ _ => rfl

theorem expect (result : Except TradeError α) : Overlooks R hash (Analysis.expect result) :=
  fun _ _ _ _ _ _ => rfl

protected theorem bind {x : Analysis α} {f : α → Analysis β} (hx : Overlooks R hash x)
    (hf : ∀ a, Overlooks R hash (f a)) : Overlooks R hash (x >>= f) := by
  intro σ answer answer' h limit s
  rw [outcome_bind, outcome_bind, hx σ answer answer' h]
  congr 1
  funext result s
  cases result with
  | ok a => exact hf a σ answer answer' h limit s
  | error e => rfl

theorem write (entries : List Entry) : Overlooks R hash (Analysis.write entries) := by
  induction entries with
  | nil => exact Overlooks.pure ()
  | cons e rest ih =>
    intro σ answer answer' h limit s
    have hstep (answer : (r : Reading) → σ → Except ReadFailure r.Value × σ) :
        outcome answer limit (Analysis.write (e :: rest)) s =
          if e.level.isShown limit ∧ e.text = none then ⟨none, [], s⟩
          else outcome answer limit (Analysis.write rest) s :=
      outcome_entry_bind e (fun _ => Analysis.write rest) s
    rw [hstep, hstep, ih σ answer answer' h]

theorem read {r : Reading} (hr : r ≠ .receipt hash) : Overlooks R hash (Analysis.read r) := by
  intro σ answer answer' h limit s
  rw [outcome_read, outcome_read, h.others r hr]

theorem attempt {r : Reading} (hr : r ≠ .receipt hash) : Overlooks R hash (Analysis.attempt r) := by
  intro σ answer answer' h limit s
  rw [outcome_attempt, outcome_attempt, h.others r hr]

/-- A receipt may be looked at for anything but its logs. -/
theorem receipt_bind {f : Receipt → Analysis α} (hlogs : ∀ r logs, f { r with logs } = f r)
    (hf : ∀ r, Overlooks R hash (f r)) :
    Overlooks R hash (Analysis.read (.receipt hash) >>= f) := by
  intro σ answer answer' h limit s
  cases hserved : (answer (.receipt hash) s).1 with
  | error failure =>
    rw [outcome_bind_of_error (outcome_read_of_error hserved),
      outcome_bind_of_error (outcome_read_of_error (h.failed s failure hserved)), h.state]
  | ok served =>
    obtain ⟨logs, -, hserved'⟩ := h.served s served hserved
    rw [outcome_bind_of_ok (outcome_read_of_ok hserved),
      outcome_bind_of_ok (outcome_read_of_ok hserved'), h.state, hlogs,
      hf served σ answer answer' h]

theorem expect_unplaced_bind {build : Event → Analysis α}
    (hplace : ∀ e, build e.unplaced = build e) (selected : Except TradeError Event) :
    (Analysis.expect (selected.map unplaced) >>= build) = Analysis.expect selected >>= build := by
  cases selected with
  | error e => rfl
  | ok event => exact hplace event

/-- The events may be looked at for a selected one, and of that for anything but its place. -/
theorem events_bind {select : List Event → Except TradeError Event} {build : Event → Analysis α}
    (hselect : ∀ logs logs', R logs logs' →
      (select (ofLogs logs')).map unplaced = (select (ofLogs logs)).map unplaced)
    (hplace : ∀ e, build e.unplaced = build e) (hbuild : ∀ e, Overlooks R hash (build e)) :
    Overlooks R hash
      (Analysis.events hash >>= fun found => Analysis.expect (select found) >>= build) := by
  intro σ answer answer' h limit s
  cases hserved : (answer (.receipt hash) s).1 with
  | error failure =>
    rw [outcome_bind_of_error (outcome_events_of_error hserved),
      outcome_bind_of_error (outcome_events_of_error (h.failed s failure hserved)), h.state]
  | ok served =>
    obtain ⟨logs, hlogs, hserved'⟩ := h.served s served hserved
    -- The two selected events may differ in their places.
    have hsame : (Analysis.expect (select (ofLogs logs)) >>= build) =
        Analysis.expect (select (ofLogs served.logs)) >>= build := by
      rw [← expect_unplaced_bind hplace, hselect served.logs logs hlogs,
        expect_unplaced_bind hplace]
    have hrest : Overlooks R hash (Analysis.expect (select (ofLogs served.logs)) >>= build) :=
      .bind (.expect _) hbuild
    rw [outcome_bind_of_ok (outcome_events_of_ok hserved),
      outcome_bind_of_ok (outcome_events_of_ok hserved'), h.state, hsame,
      hrest σ answer answer' h]

end Overlooks

/-! ## What the analyses overlook -/

theorem overlooks_failedTrade : Overlooks R hash (failedTrade hash receipt) := by
  refine .bind (.attempt nofun) fun reason => ?_
  cases reason with
  | ok reason => exact .pure _
  | error failure => exact .bind (.write _) fun _ => .pure _

theorem overlooks_v2Trade (fee : Nat) (swap : SwapCall) (event : Event) :
    Overlooks R hash (V2.buildTrade receipt fee swap event) := by
  refine .bind (.expect _) fun amounts => .bind (.expect _) fun (tokenIn, tokenOut) => ?_
  refine .bind (.read nofun) fun inToken => .bind (.read nofun) fun outToken => ?_
  refine .bind (.expect _) fun price => .bind (.read nofun) fun (token0, token1) => ?_
  exact .bind (.write _) fun _ => .pure _

theorem overlooks_v3Trade (path : List Address) (amountOutMin : Word) (event : Event) :
    Overlooks R hash (V3.buildTrade receipt path amountOutMin event) := by
  refine .bind (.expect _) fun (tokenIn, tokenOut) => .bind (.expect _) fun reported => ?_
  refine .bind (.read nofun) fun pool => .bind (.read nofun) fun inToken =>
    .bind (.read nofun) fun outToken => ?_
  exact .bind (.expect _) fun price => .bind (.write _) fun _ => .pure _

theorem Steps.overlooks {x : Steps Call}
    (hselect : ∀ logs logs', R logs logs' →
      (x.select (ofLogs logs')).map unplaced = (x.select (ofLogs logs)).map unplaced)
    (hplace : ∀ call event, x.build receipt call event.unplaced = x.build receipt call event)
    (hbuild : ∀ call event, Overlooks R hash (x.build receipt call event)) :
    Overlooks R hash (x.analyse transaction hash receipt Analysis.events) := by
  unfold Steps.analyse
  cases receipt.status with
  | true =>
    refine .bind (.write _) fun _ => .bind (.expect _) fun call => .bind (.write _) fun _ => ?_
    refine .events_bind hselect (fun event => ?_) fun event =>
      .bind (hbuild call event) fun trade => .pure _
    rw [hplace]
  | false => exact .bind overlooks_failedTrade fun fail => .bind (.write _) fun _ => .pure _

theorem overlooks_v2 (fee : Nat)
    (hselect : ∀ logs logs', R logs logs' →
      (onlyEvent (ofLogs logs') .v2Swap).map unplaced =
        (onlyEvent (ofLogs logs) .v2Swap).map unplaced) :
    Overlooks R hash (V2.analyse transaction hash receipt fee) :=
  Steps.overlooks (x := V2.steps fee) hselect (fun _ _ => rfl) (overlooks_v2Trade fee)

theorem overlooks_v3
    (hselect : ∀ logs logs', R logs logs' →
      (onlyEvent (ofLogs logs') .v3Swap).map unplaced =
        (onlyEvent (ofLogs logs) .v3Swap).map unplaced) :
    Overlooks R hash (V3.analyse transaction hash receipt) :=
  Steps.overlooks (x := V3.steps) hselect (fun _ _ => rfl) fun _ => overlooks_v3Trade _ _

theorem overlooks_universal
    (hselect : ∀ logs logs', R logs logs' →
      (lastEvent (ofLogs logs') .v3Swap).map unplaced =
        (lastEvent (ofLogs logs) .v3Swap).map unplaced) :
    Overlooks R hash (Universal.analyseFetched transaction hash receipt) :=
  Steps.overlooks (x := Universal.steps) hselect (fun _ _ => rfl) fun _ => overlooks_v3Trade _ _

/-- A transaction may be fetched before it is analysed. -/
theorem overlooks_fetched {f : Transaction → Receipt → Analysis α}
    (hlogs : ∀ t r logs, f t { r with logs } = f t r) (hf : ∀ t r, Overlooks R hash (f t r)) :
    Overlooks R hash
      (read (.transaction hash) >>= fun t => read (.receipt hash) >>= fun r => f t r) :=
  .bind (.read nofun) fun t => .receipt_bind (hlogs t) (hf t)

/-! ## The dispatcher -/

/-- The events that count for the analysis of a family. -/
def swapKind : Option RouterKind → EventKind
  | some .v2 => .v2Swap
  | _ => .v3Swap

theorem overlooks_dispatch (c : Dispatch.Context) :
    Overlooks (Padded (swapKind (transaction.destination.map (c.routers.classify c.chain)))) hash
      (Dispatch.analyseFetched c transaction hash receipt) :=
  Dispatch.holds_by_family (motive := fun family x => Overlooks (Padded (swapKind family)) hash x)
    (fun _ _ _ hx => .bind (.write _) fun _ => hx)
    (fun _ _ hx => .bind hx fun _ => .bind (.write _) fun _ => .pure _)
    (overlooks_v2 c.v2Fee fun _ _ => onlyEvent_of_padded)
    (overlooks_v3 fun _ _ => onlyEvent_of_padded) (.expect _) fun _ _ => .expect _

/-- Which events count is decided by the transaction that is fetched. -/
theorem outcome_dispatch_relogged {c : Dispatch.Context} {kind : EventKind} {s : σ}
    (h : Relogged (Padded kind) hash answer answer')
    (hkind : ∀ t, (answer (.transaction hash) s).1 = .ok t →
      kind = swapKind (t.destination.map (c.routers.classify c.chain))) :
    outcome answer' limit (Dispatch.analyse c hash) s =
      outcome answer limit (Dispatch.analyse c hash) s := by
  have hsame : answer' (.transaction hash) = answer (.transaction hash) := h.others _ nofun
  unfold Dispatch.analyse
  cases htransaction : (answer (.transaction hash) s).1 with
  | error failure =>
    rw [outcome_bind_of_error (outcome_read_of_error htransaction),
      outcome_bind_of_error (outcome_read_of_error (hsame ▸ htransaction)), hsame]
  | ok t =>
    have hrest : Overlooks (Padded kind) hash
        (read (.receipt hash) >>= fun r => Dispatch.analyseFetched c t hash r) :=
      .receipt_bind (fun _ _ => rfl) fun r => hkind t htransaction ▸ overlooks_dispatch c
    rw [outcome_bind_of_ok (outcome_read_of_ok htransaction),
      outcome_bind_of_ok (outcome_read_of_ok (hsame ▸ htransaction)), hsame,
      hrest σ answer answer' h]

/-! ## Too many events -/

theorem Steps.result_of_two_le {x : Steps Call} (hx : x.Writable) {kind : EventKind}
    (hselect : ∀ found, x.select found = onlyEvent found kind) (hstatus : receipt.status = true)
    {served : Receipt} {s : σ} (hserved : (answer (.receipt hash) s).1 = .ok served) {call : Call}
    (hdecode : x.decode transaction.input = .ok call)
    (htwo : 2 ≤ served.logs.countP (isOfKind kind)) :
    (outcome answer limit (x.analyse transaction hash receipt Analysis.events) s).result =
      some (.error (.malformedSwapSet (.events (served.logs.countP (isOfKind kind))))) := by
  have hrefused := (hselect _).trans (onlyEvent_of_two_le htwo)
  rw [Steps.outcome_of_unselected hx hstatus hdecode hserved hrefused]

/-! ## Unrelated logs -/

/-- Logs that are no events of the analysis's own kind, put anywhere among the logs of a transaction,
change nothing about the run of its analysis, and neither do the places of the logs in the block. This
holds of a V2, a V3 and a universal router's analysis and of the dispatcher, for a transaction at hand
and for one that is fetched. In the universal router's analysis it is enough that the last V3 swap
stays the same. For a V2 or V3 router two or more events of its kind are an error that has their exact
number, whatever else is among the logs. -/
theorem unrelated_logs_overlooked
    (answer : (r : Reading) → σ → Except ReadFailure r.Value × σ) (limit : Option Level)
    (c : Dispatch.Context) (transaction : Transaction) (hash : TxHash) (receipt : Receipt)
    (fee : Nat) (s : σ) :
    Overlooks (Padded .v2Swap) hash (V2.analyse transaction hash receipt fee) ∧
    Overlooks (Padded .v3Swap) hash (V3.analyse transaction hash receipt) ∧
    (∀ R, R = Padded .v3Swap ∨ R = SameLast .v3Swap →
      Overlooks R hash (Universal.analyseFetched transaction hash receipt) ∧
        Overlooks R hash (Universal.analyse hash)) ∧
    Overlooks (Padded (swapKind (transaction.destination.map (c.routers.classify c.chain)))) hash
      (Dispatch.analyseFetched c transaction hash receipt) ∧
    (∀ kind answer', Relogged (Padded kind) hash answer answer' →
      (∀ t, (answer (.transaction hash) s).1 = .ok t →
        kind = swapKind (t.destination.map (c.routers.classify c.chain))) →
      outcome answer' limit (Dispatch.analyse c hash) s =
        outcome answer limit (Dispatch.analyse c hash) s) ∧
    (receipt.status = true → ∀ served, (answer (.receipt hash) s).1 = .ok served →
      ∀ swap,
        (V2Router.decode transaction.input = .ok swap →
          2 ≤ served.logs.countP (isOfKind .v2Swap) →
          (outcome answer limit (V2.analyse transaction hash receipt fee) s).result =
            some (.error (.malformedSwapSet
              (.events (served.logs.countP (isOfKind .v2Swap)))))) ∧
        (V3Router.decode transaction.input = .ok swap →
          2 ≤ served.logs.countP (isOfKind .v3Swap) →
          (outcome answer limit (V3.analyse transaction hash receipt) s).result =
            some (.error (.malformedSwapSet
              (.events (served.logs.countP (isOfKind .v3Swap))))))) := by
  refine ⟨overlooks_v2 fee fun _ _ => onlyEvent_of_padded,
    overlooks_v3 fun _ _ => onlyEvent_of_padded, fun R hR => ?_, overlooks_dispatch c,
    fun kind answer' => outcome_dispatch_relogged, fun hstatus served hserved swap =>
      ⟨Steps.result_of_two_le (V2.writable_steps fee) (fun _ => rfl) hstatus hserved,
        Steps.result_of_two_le V3.writable_steps (fun _ => rfl) hstatus hserved⟩⟩
  have hselect : ∀ logs logs', R logs logs' →
      (lastEvent (ofLogs logs') .v3Swap).map unplaced =
        (lastEvent (ofLogs logs) .v3Swap).map unplaced := by
    obtain rfl | rfl := hR
    · exact fun _ _ => lastEvent_of_padded
    · exact fun _ _ => lastEvent_of_sameLast
  exact ⟨overlooks_universal hselect,
    overlooks_fetched (fun _ _ _ => rfl) fun _ _ => overlooks_universal hselect⟩

/-- A trade through a V3 pool has the same record if its log stands among a log of an unknown event, a
V3 swap that lacks its last byte and the swap of a pair; the universal router's has it also behind
another V3 swap, which for the V3 router is one too many. -/
theorem swap_among_unrelated_logs :
    let hash : TxHash := ⟨0x5af1⟩
    let weth : Token := ⟨⟨0x4200⟩, 18, some "WETH"⟩
    let usdc : Token := ⟨⟨0x8335⟩, 6, none⟩
    let swapped := (Report.v3Swap ⟨0x2626⟩ ⟨0x1111⟩ 5 (-9) 1 3 0).log ⟨0xbb⟩ (some 4)
    let foreign : LogEntry := ⟨⟨0xc364⟩, [0x99, 7], [], some 1⟩
    let truncated := { swapped with data := swapped.data.dropLast }
    let pair := (Report.v2Swap ⟨0x2626⟩ 0 3 8 0 ⟨0x1111⟩).log ⟨0xcc⟩ (some 3)
    let earlier := (Report.v3Swap ⟨0x2626⟩ ⟨0x1111⟩ 7 (-5) 1 3 0).log ⟨0xdd⟩ none
    let few := [swapped]
    let many := [foreign, truncated, swapped.at (some 9), pair]
    let packed := PoolPath.packHops [weth.address, usdc.address] [500]
    let called : Transaction := ⟨⟨0xa11ce⟩, some ⟨0x2626⟩,
      V3Router.pathCall .first false ⟨packed, ⟨0x1111⟩, 1700000000, 5, 1⟩, 0⟩
    let receipt (logs : List LogEntry) : Receipt := ⟨true, 150000, 2500000000, some 7, logs⟩
    let data (logs : List LogEntry) : Chain.Data := fun
      | .transaction _ => .ok called
      | .receipt h => if h = hash then .ok (receipt logs) else .error ⟨"not found", []⟩
      | .pool address => .ok ⟨address, weth, usdc, 500⟩
      | .token address => .ok (if address = weth.address then weth else usdc)
      | _ => .error ⟨"not found", []⟩
    let answer (logs : List LogEntry) (r : Reading) (s : Unit) := (data logs r, s)
    let c : Dispatch.Context := ⟨⟨[("base", ⟨[], [⟨⟨0x2626⟩, "SwapRouter"⟩], []⟩)]⟩, "Base", 30⟩
    let dispatch (logs : List LogEntry) := outcome (answer logs) none (Dispatch.analyse c hash) ()
    (((dispatch few).result.bind Except.toOption).bind TradeAnalysis.success?).map
        (fun trade => (trade.amountIn, trade.amountOut)) = some (5, 9) ∧
      dispatch many = dispatch few ∧
      (∀ executed, outcome (answer (earlier :: many)) none
          (Universal.analyseFetched executed hash (receipt few)) () =
        outcome (answer few) none (Universal.analyseFetched executed hash (receipt few)) ()) ∧
      (outcome (answer (earlier :: many)) none (V3.analyse called hash (receipt few)) ()).result =
        some (.error (.malformedSwapSet (.events 2))) := by
  intro hash weth usdc swapped foreign truncated pair earlier few many packed called receipt data
    answer c dispatch
  have hrelogged {R : List LogEntry → List LogEntry → Prop} {logs : List LogEntry}
      (h : R few logs) : Relogged R hash (answer few) (answer logs) := by
    refine ⟨fun r hr => ?_, fun _ => rfl, fun _ failure hfailed => ?_, fun _ served hserved => ?_⟩
    · funext s
      cases r with
      | receipt h => simp [answer, data, show h ≠ hash from fun heq => hr (heq ▸ rfl)]
      | _ => rfl
    · simp [answer, data] at hfailed
    · obtain rfl : receipt few = served := by simpa [answer, data] using hserved
      exact ⟨logs, h, by simp [answer, data, receipt]⟩
  have hforeign : isOfKind .v3Swap foreign = false := by decide +kernel
  have htruncated : isOfKind .v3Swap truncated = false := by decide +kernel
  have hpair : isOfKind .v3Swap pair = false := by decide +kernel
  have hpadded : Padded .v3Swap few many :=
    .insert hforeign (.insert htruncated (.keep swapped (some 9) (.insert hpair .nil)))
  have hlast : SameLast .v3Swap few (earlier :: many) :=
    .intro [] [earlier, foreign, truncated] (some 9) (by decide +kernel) nofun (by simpa using hpair)
  have hkind : swapKind (called.destination.map (c.routers.classify c.chain)) = .v3Swap := by
    decide +kernel
  obtain ⟨-, -, -, -, hfetched, -⟩ :=
    unrelated_logs_overlooked (answer few) none c called hash (receipt few) 30 ()
  obtain ⟨-, -, -, -, -, hcount⟩ :=
    unrelated_logs_overlooked (answer (earlier :: many)) none c called hash (receipt few) 30 ()
  have haccepted : V3Router.accepts called.input = true := by decide +kernel
  have hevents : (earlier :: many).countP (isOfKind .v3Swap) = 2 := by decide +kernel
  obtain ⟨swap, hswap⟩ := V3Router.accepts_iff.1 haccepted
  obtain ⟨-, htwo⟩ := hcount rfl (receipt (earlier :: many)) rfl swap
  refine ⟨by decide +kernel, ?_, fun executed => ?_, ?_⟩
  · refine hfetched .v3Swap _ (hrelogged hpadded) fun t ht => ?_
    cases ht
    exact hkind.symm
  · obtain ⟨-, -, huniversal, -⟩ :=
      unrelated_logs_overlooked (answer few) none c executed hash (receipt few) 30 ()
    exact (huniversal _ (.inr rfl)).1 Unit _ _ (hrelogged hlast) none ()
  · exact hevents ▸ htwo hswap (Nat.le_of_eq hevents.symm)

end DexTrade.Analysis
