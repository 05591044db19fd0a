import DexTrade.Proofs.Analysis.FailedReads
import DexTrade.Proofs.Analysis.PairTrade
import DexTrade.Proofs.Analysis.PoolTrade
/-!
# Guards that no analysis comes to

The builders of records guard against events without an argument that they ask for, ticks of more than
32 bits and routes without two ends. They are given events that were read from logs and routes that were
decoded from call data, and no reader returns such an event and no decoder such a route. An analysis
never ends at one of these guards (`no_guard_reached`).
-/
namespace DexTrade.Analysis

open Chain

variable {transaction : Transaction} {hash : TxHash} {receipt : Receipt} {event : Event}
  {kind : EventKind} {logs : List LogEntry}

/-! ## Events from logs -/

/-- The event was read from a log, and is of the kind. -/
structure Logged (kind : EventKind) (event : Event) : Prop where
  read : ∃ log, Event.ofLog? log = some event
  kind : event.kind = kind

theorem logged_of_mem (h : event ∈ Event.ofLogs logs) : Logged event.kind event := by
  obtain ⟨log, -, hread⟩ := List.mem_filterMap.1 h
  exact ⟨⟨log, hread⟩, rfl⟩

theorem logged_of_mem_filter
    (h : event ∈ (Event.ofLogs logs).filter fun e => e.kind == kind) : Logged kind event := by
  obtain ⟨hmem, hkind⟩ := List.mem_filter.1 h
  exact ⟨(logged_of_mem hmem).read, eq_of_beq hkind⟩

theorem logged_of_onlyEvent (h : onlyEvent (Event.ofLogs logs) kind = .ok event) :
    Logged kind event := by
  unfold onlyEvent at h
  split at h
  · cases h
  · rename_i only honly
    cases h
    exact logged_of_mem_filter (honly ▸ List.mem_singleton_self event)
  · cases h

theorem logged_of_lastEvent (h : lastEvent (Event.ofLogs logs) kind = .ok event) :
    Logged kind event := by
  unfold lastEvent at h
  split at h
  · rename_i last hlast
    cases h
    exact logged_of_mem_filter (List.mem_of_getLast? hlast)
  · cases h

theorem returns_events :
    (Analysis.events hash).Returns fun found => ∃ logs, found = Event.ofLogs logs :=
  .after fun served => .after fun _ => .pure ⟨served.logs, rfl⟩

/-- The event has what a builder asks it for: a swap of a pool both amounts with their signs and a tick of
24 bits, a swap of a pair its four amounts without sign. -/
structure HasArguments (event : Event) : Prop where
  pool : event.kind = .v3Swap → ∃ amount0 amount1 tick : Word,
    event.signed? "amount0" = some amount0 ∧ event.signed? "amount1" = some amount1 ∧
      event.signed? "tick" = some tick ∧ -0x800000 ≤ tick.toInt ∧ tick.toInt < 0x800000
  pair : event.kind = .v2Swap → ∃ amount0In amount1In amount0Out amount1Out : Word,
    event.unsigned? "amount0In" = some amount0In ∧ event.unsigned? "amount1In" = some amount1In ∧
      event.unsigned? "amount0Out" = some amount0Out ∧ event.unsigned? "amount1Out" = some amount1Out

theorem hasArguments_of_mem (h : event ∈ Event.ofLogs logs) : HasArguments event := by
  obtain ⟨log, hread⟩ := (logged_of_mem h).read
  constructor
  · intro hkind
    obtain ⟨amount0, amount1, tick, hswapped⟩ := V3.swapped_of_ofLog? hread hkind
    have hvalue : (tick.signExtend 256).toInt = tick.toInt :=
      BitVec.toInt_signExtend_of_le (by decide)
    refine ⟨amount0, amount1, _, hswapped.amount0, hswapped.amount1, hswapped.tick, ?_, ?_⟩
    · rw [hvalue]
      exact BitVec.le_toInt tick
    · rw [hvalue]
      exact BitVec.toInt_lt
  · intro hkind
    obtain ⟨a, hswapped⟩ := V2.swapped_of_ofLog? hread hkind
    exact ⟨_, _, _, _, hswapped.amount0In, hswapped.amount1In, hswapped.amount0Out,
      hswapped.amount1Out⟩

/-! ## Builders -/

theorem live_reported (h : Logged .v3Swap event) : Refuses IsLive (V3.reported event) := by
  obtain ⟨log, hread⟩ := h.read
  obtain ⟨amount0, amount1, tick, hswapped⟩ := V3.swapped_of_ofLog? hread h.kind
  rw [V3.reported_of_swapped hswapped]
  by_cases hopposite : V3.Opposite amount0 amount1
  · obtain ⟨a, ha, -⟩ := V3.amounts_of_opposite hopposite
    rw [ha]
    exact .ok _
  · rw [V3.amounts_of_not_opposite hopposite]
    exact .error rfl

theorem live_v2Amounts (h : Logged .v2Swap event) : Refuses IsLive (V2.amounts event) := by
  obtain ⟨log, hread⟩ := h.read
  obtain ⟨a, hswapped⟩ := V2.swapped_of_ofLog? hread h.kind
  rw [V2.amounts_of_swapped hswapped]
  split
  · exact .ok _
  · split
    · exact .ok _
    · exact .error rfl

theorem live_v3Trade {path : List Address} (hpath : 2 ≤ path.length) (amountOutMin : Word)
    (hevent : Logged .v3Swap event) :
    (V3.buildTrade receipt path amountOutMin event).Fails IsLive :=
  fails_v3Builder (fun _ => rfl) (refuses_v3Ends hpath).ordinary.live (live_reported hevent)
    (fun _ _ pool => (refuses_price pool _).ordinary.live) amountOutMin

theorem live_v2Trade {swap : SwapCall} (hpath : 2 ≤ swap.path.length) (fee : Nat)
    (hevent : Logged .v2Swap event) : (V2.buildTrade receipt fee swap event).Fails IsLive :=
  fails_v2Builder (fun _ => rfl) (live_v2Amounts hevent) (refuses_v2Ends hpath)
    (fun _ _ _ _ => (refuses_executed _ _ _ _).ordinary.live) fee

/-! ## Analyses -/

theorem Steps.live {Call : Type} {x : Steps Call} (hx : x.Refusing)
    (hselect : ∀ logs event, x.select (Event.ofLogs logs) = .ok event → Logged kind event)
    (hbuild : ∀ call event, x.decode transaction.input = .ok call → Logged kind event →
      (x.build receipt call event).Fails IsLive) :
    (x.analyse transaction hash receipt Analysis.events).Fails IsLive := by
  unfold Steps.analyse
  cases receipt.status with
  | true =>
    refine (Fails.write _).bind fun _ => ?_
    refine (Fails.expect (hx.decode _).live).bind_of_returns .expect fun call hcall => ?_
    refine (Fails.write _).bind fun _ => ?_
    refine (Fails.events fun _ => rfl).bind_of_returns returns_events ?_
    rintro _ ⟨logs, rfl⟩
    refine (Fails.expect (hx.select _).ordinary.live).bind_of_returns .expect fun event hevent => ?_
    exact (hbuild call event hcall (hselect logs event hevent)).bind fun _ => .pure _
  | false => exact Fails.failedTrade.bind fun _ => (Fails.write _).bind fun _ => .pure _

theorem live_v2 (fee : Nat) : (V2.analyse transaction hash receipt fee).Fails IsLive :=
  Steps.live (V2.refusing_steps fee) (fun _ _ => logged_of_onlyEvent) fun _ _ hswap =>
    live_v2Trade (V2Router.two_le_of_decode hswap) fee

theorem live_v3 : (V3.analyse transaction hash receipt).Fails IsLive :=
  Steps.live V3.refusing_steps (fun _ _ => logged_of_onlyEvent) fun _ _ hswap =>
    live_v3Trade (V3Router.two_le_of_decode hswap) _

theorem live_universal : (Universal.analyseFetched transaction hash receipt).Fails IsLive :=
  Steps.live Universal.refusing_steps (fun _ _ => logged_of_lastEvent) fun _ _ hfound =>
    live_v3Trade (Universal.two_le_of_decodeSwap hfound) _

theorem live_dispatch (c : Dispatch.Context) :
    (Dispatch.analyseFetched c transaction hash receipt).Fails IsLive :=
  Dispatch.holds_by_family (motive := fun _ x => x.Fails IsLive)
    (fun _ _ _ hx => (Fails.write _).bind fun _ => hx)
    (fun _ _ hx => hx.bind fun _ => (Fails.write _).bind fun _ => .pure _)
    (live_v2 c.v2Fee) live_v3 (.expect (.error rfl)) fun _ _ => .expect (.error rfl)

theorem Entrance.live (x : Entrance) : x.analysis.Fails IsLive := by
  cases x with
  | dispatchFetched c transaction hash receipt => exact live_dispatch c
  | universalFetched transaction hash receipt => exact live_universal
  | dispatch c hash =>
    exact (Fails.read fun _ => rfl).bind fun _ => (Fails.read fun _ => rfl).bind fun _ =>
      live_dispatch c
  | universal hash =>
    exact (Fails.read fun _ => rfl).bind fun _ => (Fails.read fun _ => rfl).bind fun _ =>
      live_universal

/-- Whatever is answered to an analysis, it does not end with the error of a guard. Every event that is
read from logs has the arguments that a builder asks for, and every route that an analysis decodes has
two tokens or more. -/
theorem no_guard_reached {σ : Type} (answer : (r : Reading) → σ → Except ReadFailure r.Value × σ)
    (limit : Option Level) (x : Entrance) (s : σ) :
    (∀ e, (outcome answer limit x.analysis s).result = some (.error e) → e.isGuard = false) ∧
    (∀ logs, ∀ event ∈ Event.ofLogs logs, HasArguments event) ∧
    ∀ input swap, V2Router.decode input = .ok swap ∨ V3Router.decode input = .ok swap ∨
      Universal.swapOf input = .ok swap → 2 ≤ swap.path.length := by
  refine ⟨fun e he => ?_, fun logs event => hasArguments_of_mem, fun input swap h => ?_⟩
  · exact Inquiry.Always.result x.live he e rfl
  · rcases h with hv2 | hv3 | huniversal
    · exact V2Router.two_le_of_decode hv2
    · exact V3Router.two_le_of_decode hv3
    · obtain ⟨op, -, hswap⟩ := exists_of_bind_eq_ok huniversal
      exact Operation.two_le_of_decodeV3Swap hswap

/-- A pool gained of both its tokens, at a tick that is negative. The two amounts are refused for their
signs. -/
theorem refused_for_its_signs :
    let hash : TxHash := ⟨0x5af1⟩
    let swapped := Event.Report.v3Swap ⟨0x2626⟩ ⟨0x1111⟩ 5 9 1 3 (-200000)
    let receipt : Receipt := ⟨true, 150000, 2500000000, some 7, [swapped.log ⟨0xbb⟩ (some 4)]⟩
    let packed := PoolPath.packHops [⟨0x4200⟩, ⟨0x8335⟩] [500]
    let commands : ExecuteCall.Arguments :=
      ⟨[0x00], [Operation.writeV3 ⟨0x2222⟩ 5 1 packed true], none⟩
    let executed : Transaction := ⟨⟨0xb0b⟩, some ⟨0x2626⟩, commands.call, 0⟩
    let event := swapped.event ⟨0xbb⟩ (some 4)
    let data : Chain.Data
      | .receipt _ => .ok receipt
      | _ => .error ⟨"not found", []⟩
    let answer (r : Reading) (s : Unit) := (data r, s)
    let run := outcome answer none (Entrance.universalFetched executed hash receipt).analysis ()
    run.result = some (.error (.unsupportedShape (.signs 5 9))) ∧
      TradeError.isGuard (.unsupportedShape (.signs 5 9)) = false ∧
      event ∈ Event.ofLogs receipt.logs ∧ HasArguments event ∧
      ∃ swap, Universal.swapOf commands.call = .ok swap ∧ swap.path = [⟨0x4200⟩, ⟨0x8335⟩] ∧
        2 ≤ swap.path.length := by
  intro hash swapped receipt packed commands executed event data answer run
  have hresult : run.result = some (.error (.unsupportedShape (.signs 5 9))) := by decide +kernel
  have hevent : event ∈ Event.ofLogs receipt.logs := by decide +kernel
  have hswap : Universal.swapOf commands.call = .ok
      { function := "V3_SWAP_EXACT_IN", path := [⟨0x4200⟩, ⟨0x8335⟩], fees := [500]
        amountIn := some 5, amountInMax := none, amountOutMin := 1, exactOutput := false } := by
    decide +kernel
  obtain ⟨hlive, harguments, htwo⟩ :=
    no_guard_reached answer none (.universalFetched executed hash receipt) ()
  exact ⟨hresult, hlive _ hresult, hevent, harguments _ _ hevent, _, hswap, rfl,
    htwo _ _ (.inr (.inr hswap))⟩

end DexTrade.Analysis
