import DexTrade.Proofs.Analysis.Journal
import DexTrade.Proofs.Analysis.Logs
import DexTrade.Proofs.Price
import DexTrade.Proofs.Swap.NamedInput
/-!
# Trades through a pair

A pair reports two inputs and two outputs, of which a trade has one each: the output that is not
zero and the input on the other side, or the input that the call itself names. There is a record
exactly if there is one such output, everything is served and the two amounts have a rate
(`V2.exists_trade_iff`, `pair_trade`).
-/
namespace DexTrade.Analysis

open Chain Event

variable {σ : Type} {answer answer' : (r : Reading) → σ → Except ReadFailure r.Value × σ}
  {limit : Option Level} {receipt : Receipt} {transaction : Transaction} {hash : TxHash}
  {swap : SwapCall} {event event' : Event}

namespace V2

/-! ## What an event says -/

/-- What went into a pair and came out of it, each of its tokens apart. -/
structure PairAmounts where
  amount0In : Word
  amount1In : Word
  amount0Out : Word
  amount1Out : Word

namespace PairAmounts

/-- Exactly one output is not zero. -/
def HasOneOutput (a : PairAmounts) : Prop :=
  a.amount0Out ≠ 0 ∧ a.amount1Out = 0 ∨ a.amount0Out = 0 ∧ a.amount1Out ≠ 0

/-- The output that is not zero. -/
def paidOut (a : PairAmounts) : Word :=
  if a.amount0Out ≠ 0 then a.amount0Out else a.amount1Out

/-- The input on the side opposite to that output. -/
def paidIn (a : PairAmounts) : Word :=
  if a.amount0Out ≠ 0 then a.amount1In else a.amount0In

/-- The input that the call names, else the one that the event reports. -/
def chosenInput (a : PairAmounts) (swap : SwapCall) : Word :=
  swap.amountIn.getD a.paidIn

/-- What a pair reports of such a swap. -/
def report (a : PairAmounts) (sender recipient : Address) : Report :=
  .v2Swap sender a.amount0In a.amount1In a.amount0Out a.amount1Out recipient

end PairAmounts

variable {a a' : PairAmounts}

/-- An event with the four amounts of a swap. -/
structure Swapped (event : Event) (a : PairAmounts) : Prop where
  amount0In : event.unsigned? "amount0In" = some a.amount0In
  amount1In : event.unsigned? "amount1In" = some a.amount1In
  amount0Out : event.unsigned? "amount0Out" = some a.amount0Out
  amount1Out : event.unsigned? "amount1Out" = some a.amount1Out

theorem swapped_of_ofLog? {log : LogEntry} (h : ofLog? log = some event)
    (hkind : event.kind = .v2Swap) : ∃ a, Swapped event a := by
  obtain ⟨topics, words, htopics, hwords, harguments⟩ := arguments_of_ofLog? h
  rw [hkind] at htopics hwords harguments
  match topics, words, htopics, hwords with
  | [_, _], [w0, w1, w2, w3], _, _ =>
    refine ⟨⟨w0, w1, w2, w3⟩, ?_, ?_, ?_, ?_⟩
    all_goals
      apply unsigned?_of_argument
      rw [argument?, harguments]
      rfl

theorem swapped_report (a : PairAmounts) (sender recipient address : Address)
    (logIndex : Option Nat) :
    Swapped ((a.report sender recipient).event address logIndex) a :=
  ⟨rfl, rfl, rfl, rfl⟩

theorem Swapped.eq (h : Swapped event a) (h' : Swapped event a') : a = a' := by
  have h0In := Option.some.inj (h.amount0In.symm.trans h'.amount0In)
  have h1In := Option.some.inj (h.amount1In.symm.trans h'.amount1In)
  have h0Out := Option.some.inj (h.amount0Out.symm.trans h'.amount0Out)
  have h1Out := Option.some.inj (h.amount1Out.symm.trans h'.amount1Out)
  cases a
  cases a'
  simp only [PairAmounts.mk.injEq]
  exact ⟨h0In, h1In, h0Out, h1Out⟩

theorem amounts_of_swapped (h : Swapped event a) :
    amounts event =
      if a.amount0Out ≠ 0 ∧ a.amount1Out = 0 then .ok ⟨a.amount0Out, a.amount1In⟩
      else if a.amount0Out = 0 ∧ a.amount1Out ≠ 0 then .ok ⟨a.amount1Out, a.amount0In⟩
      else .error (.unsupportedShape (.outputs a.amount0Out a.amount1Out)) := by
  unfold amounts unsigned
  rw [h.amount0In, h.amount1In, h.amount0Out, h.amount1Out]
  rfl

theorem amounts_of_hasOneOutput (h : Swapped event a) (hone : a.HasOneOutput) :
    amounts event = .ok ⟨a.paidOut, a.paidIn⟩ := by
  rw [amounts_of_swapped h]
  unfold PairAmounts.paidOut PairAmounts.paidIn
  rcases hone with h0 | h1
  · rw [if_pos h0, if_pos h0.1, if_pos h0.1]
  · rw [if_neg fun h => h.1 h1.1, if_pos h1, if_neg (not_not.2 h1.1), if_neg (not_not.2 h1.1)]

theorem amounts_eq_ok_iff (h : Swapped event a) (found : Amounts) :
    amounts event = .ok found ↔ a.HasOneOutput ∧ found = ⟨a.paidOut, a.paidIn⟩ := by
  by_cases hone : a.HasOneOutput
  · rw [amounts_of_hasOneOutput h hone, Except.ok.injEq]
    exact ⟨fun heq => ⟨hone, heq.symm⟩, fun heq => heq.2.symm⟩
  · rw [amounts_of_swapped h, if_neg fun h0 => hone (.inl h0), if_neg fun h1 => hone (.inr h1)]
    exact ⟨nofun, fun heq => absurd heq.1 hone⟩

/-! ## The record -/

theorem ends_eq_ok_iff (swap : SwapCall) (tokenIn tokenOut : Address) :
    ends swap = .ok (tokenIn, tokenOut) ↔
      swap.path.head? = some tokenIn ∧ swap.path.getLast? = some tokenOut := by
  unfold ends SwapCall.tokenIn? SwapCall.tokenOut?
  cases swap.path.head? <;> cases swap.path.getLast? <;> simp

/-- What is read for a trade through a pair, each reading on the state that the one before left. -/
def Served (answer : (r : Reading) → σ → Except ReadFailure r.Value × σ) (s : σ) (swap : SwapCall)
    (address : Address) (inToken outToken : Token) (pair : Address × Address) : Prop :=
  ∃ tokenIn tokenOut, swap.path.head? = some tokenIn ∧ swap.path.getLast? = some tokenOut ∧
    (answer (.token tokenIn) s).1 = .ok inToken ∧
    (answer (.token tokenOut) (answer (.token tokenIn) s).2).1 = .ok outToken ∧
    (answer (.pair address) (answer (.token tokenOut) (answer (.token tokenIn) s).2).2).1 = .ok pair

/-- The record of a swap through a pair, by what is at hand, called, reported and read. -/
structure Records (t : TradeSuccess) (receipt : Receipt) (fee : Nat) (swap : SwapCall)
    (a : PairAmounts) (inToken outToken : Token) (pair : Address × Address) : Prop where
  gasUsed : t.gasUsed = receipt.gasUsed
  effectiveGasPrice : t.effectiveGasPrice = receipt.effectiveGasPrice
  path : t.path = swap.path
  amountOutMin : t.amountOutMin = swap.amountOutMin
  amountIn : t.amountIn = a.chosenInput swap
  amountOut : t.amountOut = a.paidOut
  amountInDecimals : t.amountInDecimals = inToken.decimals
  amountOutDecimals : t.amountOutDecimals = outToken.decimals
  tokens : (t.token0, t.token1) = pair
  /-- Both amounts are there in human units, and the price is their quotient. -/
  price : ∃ input output, t.amountInHuman? = some input ∧ t.amountOutHuman? = some output ∧
    output.div? input = some t.price
  lpFeePaid : t.lpFeePaid = Price.feePaid t.amountIn (Price.basisPointRate fee) inToken.decimals

theorem executed_eq_ok_iff_human (t : TradeSuccess) :
    Price.executed t.amountIn t.amountInDecimals t.amountOut t.amountOutDecimals = .ok t.price ↔
      ∃ input output, t.amountInHuman? = some input ∧ t.amountOutHuman? = some output ∧
        output.div? input = some t.price := by
  unfold TradeSuccess.amountInHuman? TradeSuccess.amountOutHuman?
  simp only [Price.executed_eq_ok_iff, V3Router.toOption_eq_some_iff]

theorem result_v2Trade_iff (hevent : Swapped event a) (fee : Nat) (s : σ) (t : TradeSuccess) :
    (outcome answer limit (buildTrade receipt fee swap event) s).result = some (.ok t) ↔
      a.HasOneOutput ∧ ∃ inToken outToken pair price,
        Served answer s swap event.address inToken outToken pair ∧
        Price.executed (a.chosenInput swap) inToken.decimals a.paidOut outToken.decimals = .ok price ∧
        t = ⟨receipt.gasUsed, receipt.effectiveGasPrice, swap.path, a.chosenInput swap,
          swap.amountOutMin, a.paidOut, price, inToken.decimals, outToken.decimals, pair.1, pair.2,
          Price.feePaid (a.chosenInput swap) (Price.basisPointRate fee) inToken.decimals⟩ := by
  unfold buildTrade Served PairAmounts.chosenInput
  simp only [result_expect_bind_iff, amounts_eq_ok_iff hevent, Prod.exists, ends_eq_ok_iff,
    result_read_bind_iff (r := .token _), result_read_bind_iff (r := .pair _), traded,
    outcome_debug_bind, outcome_pure, Option.some.injEq, Except.ok.injEq]
  constructor
  · rintro ⟨_, ⟨hone, rfl⟩, tokenIn, tokenOut, ⟨hfirst, hlast⟩, inToken, hin, outToken, hout, price,
      hprice, token0, token1, hpair, rfl⟩
    exact ⟨hone, inToken, outToken, token0, token1, price,
      ⟨tokenIn, tokenOut, hfirst, hlast, hin, hout, hpair⟩, hprice, rfl⟩
  · rintro ⟨hone, inToken, outToken, token0, token1, price,
      ⟨tokenIn, tokenOut, hfirst, hlast, hin, hout, hpair⟩, hprice, rfl⟩
    exact ⟨_, ⟨hone, rfl⟩, tokenIn, tokenOut, ⟨hfirst, hlast⟩, inToken, hin, outToken, hout, price,
      hprice, token0, token1, hpair, rfl⟩

theorem success_iff_records (hevent : Swapped event a) (fee : Nat) (s : σ) (t : TradeSuccess) :
    (outcome answer limit (buildTrade receipt fee swap event) s).result = some (.ok t) ↔
      a.HasOneOutput ∧ ∃ inToken outToken pair,
        Served answer s swap event.address inToken outToken pair ∧
          Records t receipt fee swap a inToken outToken pair := by
  rw [result_v2Trade_iff hevent]
  refine and_congr_right fun _ => ⟨?_, ?_⟩
  · rintro ⟨inToken, outToken, pair, price, hserved, hprice, rfl⟩
    exact ⟨inToken, outToken, pair, hserved, rfl, rfl, rfl, rfl, rfl, rfl, rfl, rfl, rfl,
      (executed_eq_ok_iff_human _).1 hprice, rfl⟩
  · rintro ⟨inToken, outToken, pair, hserved, ht⟩
    have hprice := (executed_eq_ok_iff_human t).2 ht.price
    rw [ht.amountIn, ht.amountInDecimals, ht.amountOut, ht.amountOutDecimals] at hprice
    refine ⟨inToken, outToken, pair, t.price, hserved, hprice, ?_⟩
    rw [← ht.tokens, ← ht.amountIn, ← ht.lpFeePaid, ← ht.amountOut, ← ht.amountInDecimals,
      ← ht.amountOutDecimals, ← ht.gasUsed, ← ht.effectiveGasPrice, ← ht.path, ← ht.amountOutMin]

/-- There is one output, everything is served, and both amounts are decimals that have a rate. -/
def Tradable (answer : (r : Reading) → σ → Except ReadFailure r.Value × σ) (s : σ) (swap : SwapCall)
    (address : Address) (a : PairAmounts) : Prop :=
  a.HasOneOutput ∧ ∃ inToken outToken pair, Served answer s swap address inToken outToken pair ∧
    a.chosenInput swap ≠ 0 ∧
    (a.chosenInput swap).toNat < Nat.pow 2 96 ∧ a.paidOut.toNat < Nat.pow 2 96 ∧
    inToken.decimals ≤ 28 ∧ outToken.decimals ≤ 28 ∧
    ¬Price.Overflows (a.chosenInput swap) inToken.decimals a.paidOut outToken.decimals

theorem exists_trade_iff (hevent : Swapped event a) (fee : Nat) (s : σ) :
    (∃ t, (outcome answer limit (buildTrade receipt fee swap event) s).result = some (.ok t)) ↔
      Tradable answer s swap event.address a := by
  have hpriced (inToken outToken : Token) :
      (∃ price, Price.executed (a.chosenInput swap) inToken.decimals a.paidOut outToken.decimals =
        .ok price) ↔
        a.chosenInput swap ≠ 0 ∧
        (a.chosenInput swap).toNat < Nat.pow 2 96 ∧ a.paidOut.toNat < Nat.pow 2 96 ∧
        inToken.decimals ≤ 28 ∧ outToken.decimals ≤ 28 ∧
        ¬Price.Overflows (a.chosenInput swap) inToken.decimals a.paidOut outToken.decimals := by
    rw [Price.exists_executed_iff, show Nat.pow 2 96 = Decimal.maxMantissa + 1 by decide,
      Nat.lt_succ_iff, Nat.lt_succ_iff]
    change _ ∧ (_ ∧ _ ≤ 28) ∧ (_ ∧ _ ≤ 28) ∧ _ ↔ _
    tauto
  unfold Tradable
  simp only [result_v2Trade_iff hevent, ← hpriced]
  constructor
  · rintro ⟨t, hone, inToken, outToken, pair, price, hserved, hprice, -⟩
    exact ⟨hone, inToken, outToken, pair, hserved, price, hprice⟩
  · rintro ⟨hone, inToken, outToken, pair, hserved, price, hprice⟩
    exact ⟨_, hone, inToken, outToken, pair, price, hserved, hprice, rfl⟩

/-! ## The only event -/

/-- A run on an executed transaction reads its logs and then the trade from their only swap of a
pair. -/
theorem outcome_v2_of_onlyEvent (hstatus : receipt.status = true) (fee : Nat) {served : Receipt}
    {s : σ} (hdecode : V2Router.decode transaction.input = .ok swap)
    (hserved : (answer (.receipt hash) s).1 = .ok served)
    (honly : onlyEvent (ofLogs served.logs) .v2Swap = .ok event) :
    outcome answer limit (V2.analyse transaction hash receipt fee) s =
      let run := outcome answer limit (buildTrade receipt fee swap event >>= fun t =>
        pure (TradeAnalysis.success t)) (answer (.receipt hash) s).2
      ⟨run.result, .receipt hash :: run.asked, run.state⟩ :=
  Steps.outcome_of_select (V2.writable_steps fee) hstatus hdecode hserved honly

theorem result_success_iff {x : Analysis TradeSuccess} {s : σ} {t : TradeSuccess} :
    (outcome answer limit (x >>= fun t => pure (TradeAnalysis.success t)) s).result =
        some (.ok (.success t)) ↔
      (outcome answer limit x s).result = some (.ok t) := by
  rw [outcome_bind]
  rcases outcome answer limit x s with ⟨_ | e | found, asked, state⟩
  · exact ⟨nofun, nofun⟩
  · exact ⟨nofun, nofun⟩
  · simp [Outcome.andThen_some, outcome_pure]

/-! ## Inputs that do not matter -/

/-- If the logs have one swap of a pair, the others have one of the same pair with the same
outputs. -/
def SamePaidOut (logs logs' : List LogEntry) : Prop :=
  ∀ log event a, logs.filter (isOfKind .v2Swap) = [log] → ofLog? log = some event →
    Swapped event a → ∃ log' event' a', logs'.filter (isOfKind .v2Swap) = [log'] ∧
      ofLog? log' = some event' ∧ log'.address = log.address ∧ Swapped event' a' ∧
      a'.amount0Out = a.amount0Out ∧ a'.amount1Out = a.amount1Out

theorem filter_report (a : PairAmounts) (sender recipient address : Address)
    (logIndex : Option Nat) :
    [(a.report sender recipient).log address logIndex].filter (isOfKind .v2Swap) =
      [(a.report sender recipient).log address logIndex] := by
  refine List.filter_cons_of_pos ?_
  unfold isOfKind
  rw [ofLog?_log]
  rfl

/-- Reports of the same pair and with the same outputs. -/
theorem samePaidOut_report (a a' : PairAmounts) (hout0 : a'.amount0Out = a.amount0Out)
    (hout1 : a'.amount1Out = a.amount1Out) (sender recipient address : Address)
    (logIndex : Option Nat) :
    SamePaidOut [(a.report sender recipient).log address logIndex]
      [(a'.report sender recipient).log address logIndex] := by
  intro log event found hlog hread hevent
  rw [filter_report] at hlog
  obtain rfl := (List.cons.inj hlog).1
  obtain rfl := Option.some.inj ((ofLog?_log _ _ _).symm.trans hread)
  obtain rfl : a = found := (swapped_report a sender recipient address logIndex).eq hevent
  exact ⟨_, _, a', filter_report a' sender recipient address logIndex, ofLog?_log _ _ _, rfl,
    swapped_report a' sender recipient address logIndex, hout0, hout1⟩

/-- A trade whose call names its input has no other use for those of the event than this. -/
theorem buildTrade_congr (hevent : Swapped event a) (hevent' : Swapped event' a')
    (haddress : event'.address = event.address) (hout0 : a'.amount0Out = a.amount0Out)
    (hout1 : a'.amount1Out = a.amount1Out) {named : Word} (hnamed : swap.amountIn = some named)
    (fee : Nat) :
    buildTrade receipt fee swap event' = buildTrade receipt fee swap event := by
  unfold buildTrade
  rw [amounts_of_swapped hevent, amounts_of_swapped hevent', hnamed, haddress, hout0, hout1]
  split
  · rfl
  · split <;> rfl

theorem outcome_v2_relogged (h : Relogged SamePaidOut hash answer answer')
    (hstatus : receipt.status = true) (fee : Nat) {served : Receipt} {log : LogEntry} {s : σ}
    (hdecode : V2Router.decode transaction.input = .ok swap)
    (hserved : (answer (.receipt hash) s).1 = .ok served)
    (hlog : served.logs.filter (isOfKind .v2Swap) = [log]) {named : Word}
    (hnamed : swap.amountIn = some named) :
    outcome answer' limit (V2.analyse transaction hash receipt fee) s =
      outcome answer limit (V2.analyse transaction hash receipt fee) s := by
  obtain ⟨event, hread, hkind, honly⟩ := onlyEvent_of_filter hlog
  obtain ⟨a, hevent⟩ := swapped_of_ofLog? hread hkind
  obtain ⟨logs', hsame, hserved'⟩ := h.served s served hserved
  obtain ⟨log', event', a', hlog', hread', haddress, hevent', hout0, hout1⟩ :=
    hsame log event a hlog hread hevent
  obtain ⟨found, hfound, -, honly'⟩ := onlyEvent_of_filter hlog'
  obtain rfl : event' = found := Option.some.inj (hread'.symm.trans hfound)
  have hpair : event'.address = event.address :=
    (address_of_ofLog? hread').trans (haddress.trans (address_of_ofLog? hread).symm)
  have htrade : Overlooks SamePaidOut hash
      (buildTrade receipt fee swap event >>= fun t => pure (TradeAnalysis.success t)) :=
    .bind (overlooks_v2Trade fee swap event) fun t => .pure _
  rw [outcome_v2_of_onlyEvent hstatus fee hdecode hserved honly,
    outcome_v2_of_onlyEvent hstatus fee hdecode hserved' honly', h.state,
    buildTrade_congr hevent hevent' hpair hout0 hout1 hnamed, htrade σ answer answer' h]

end V2

/-- An executed call of a V2 router, whose logs have exactly one swap of a pair, is the record of a
trade exactly if one of the two outputs is not zero, everything is served, and both amounts are
decimals that have a rate. The record has the output that is not zero, and for an input that the
function names that one, whatever the event says about it; else it has the event's on the opposite
side. The dispatcher comes to the same, but for the line about the record. -/
theorem pair_trade (answer : (r : Reading) → σ → Except ReadFailure r.Value × σ)
    (limit : Option Level) (c : Dispatch.Context) (transaction : Transaction) (hash : TxHash)
    (receipt served : Receipt) (swap : SwapCall) (log : LogEntry) (s : σ)
    (hfamily : transaction.destination.map (c.routers.classify c.chain) = some .v2)
    (hstatus : receipt.status = true) (hdecode : V2Router.decode transaction.input = .ok swap)
    (hserved : (answer (.receipt hash) s).1 = .ok served)
    (hlog : served.logs.filter (isOfKind .v2Swap) = [log]) :
    let analysed (answer : (r : Reading) → σ → Except ReadFailure r.Value × σ) :=
      outcome answer limit (V2.analyse transaction hash receipt c.v2Fee) s
    let dispatched (answer : (r : Reading) → σ → Except ReadFailure r.Value × σ) :=
      outcome answer limit (Dispatch.analyseFetched c transaction hash receipt) s
    let rest := (answer (.receipt hash) s).2
    ∃ event a, ofLog? log = some event ∧ V2.Swapped event a ∧
      ((∃ t, (analysed answer).result = some (.ok (.success t))) ↔
        V2.Tradable answer rest swap log.address a) ∧
      (∀ t, (analysed answer).result = some (.ok (.success t)) ↔
        a.HasOneOutput ∧ ∃ inToken outToken pair,
          V2.Served answer rest swap log.address inToken outToken pair ∧
            V2.Records t receipt c.v2Fee swap a inToken outToken pair) ∧
      Followed limit hash (some receipt.effectiveGasPrice) (analysed answer) (dispatched answer) ∧
      (∃ f : V2Router.Function, f.selector.leads transaction.input = true ∧
        if f.namesInput then
          ∃ w, Abi.wordAt (transaction.input.drop 4) 0 = .ok w ∧ swap.amountIn = some w
        else swap.amountIn = none) ∧
      (swap.amountIn ≠ none → ∀ answer', Relogged V2.SamePaidOut hash answer answer' →
        analysed answer' = analysed answer ∧ dispatched answer' = dispatched answer) := by
  intro analysed dispatched rest
  obtain ⟨event, hread, hkind, honly⟩ := onlyEvent_of_filter hlog
  obtain ⟨a, hevent⟩ := V2.swapped_of_ofLog? hread hkind
  rw [← address_of_ofLog? hread]
  have hsuccess (t : TradeSuccess) : (analysed answer).result = some (.ok (.success t)) ↔
      (outcome answer limit (V2.buildTrade receipt c.v2Fee swap event) rest).result =
        some (.ok t) := by
    simp only [analysed, V2.outcome_v2_of_onlyEvent hstatus c.v2Fee hdecode hserved honly]
    exact V2.result_success_iff
  have hdispatched (answer : (r : Reading) → σ → Except ReadFailure r.Value × σ) :
      dispatched answer = Dispatch.lineWritten limit (analysed answer) :=
    Dispatch.outcome_of_family hfamily s
  refine ⟨event, a, hread, hevent, ?_, fun t => ?_, ?_, V2Router.amountIn_of_decode hdecode,
    fun hnamed answer' hrelogged => ?_⟩
  · simp only [hsuccess]
    exact V2.exists_trade_iff hevent c.v2Fee rest
  · rw [hsuccess]
    exact V2.success_iff_records hevent c.v2Fee rest t
  · rw [hdispatched]
    exact .of_lineWritten ((writable_v2 (writable_events hash) c.v2Fee).ended answer limit s)
      fun found hfound => congrArg some ((gasPrice_v2 c.v2Fee).result hfound).symm
  · obtain ⟨named, hnamed⟩ := Option.ne_none_iff_exists'.1 hnamed
    have hsame : analysed answer' = analysed answer :=
      V2.outcome_v2_relogged hrelogged hstatus c.v2Fee hdecode hserved hlog hnamed
    exact ⟨hsame, by rw [hdispatched, hdispatched, hsame]⟩

/-- Of 3000 USDC that the call names a pair got 2990, since the token keeps a fee on transfers. The
record has what was called and the rate for it, whatever the pair got. -/
theorem trade_of_named_input :
    let hash : TxHash := ⟨0x5af1⟩
    let weth : Token := ⟨⟨0x4200⟩, 18, some "WETH"⟩
    let usdc : Token := ⟨⟨0x8335⟩, 6, some "USDC"⟩
    let router : Address := ⟨0x4752⟩
    let call := Selector.toBytes 0x38ed1739 ++
      Abi.write [.uint 256, .uint 256, .addresses, .address, .uint 256]
        (3000000000, 1, [usdc.address, weth.address], ⟨0x1111⟩, 0, ())
    let swapped (input : Word) : V2.PairAmounts := ⟨0, input, 1000000000000000000, 0⟩
    let receipt (input : Word) : Receipt :=
      ⟨true, 150000, 2500000000, some 7,
        [((swapped input).report router ⟨0x1111⟩).log ⟨0x88a4⟩ (some 4)]⟩
    let transaction : Transaction := ⟨⟨0x1111⟩, some router, call, 0⟩
    let c : Dispatch.Context := ⟨⟨[("base", ⟨[⟨router, "V2Router02"⟩], [], []⟩)]⟩, "Base", 30⟩
    let data (input : Word) : Chain.Data
      | .receipt h => if h = hash then .ok (receipt input) else .error ⟨"not found", []⟩
      | .token address => .ok (if address.bits.toNat = 0x4200 then weth else usdc)
      | .pair _ => .ok (weth.address, usdc.address)
      | _ => .error ⟨"not found", []⟩
    let answer (input : Word) (r : Reading) (s : Unit) := (data input r, s)
    let price : Decimal := ⟨false, 3333333333333333333333333, 28, by decide, by decide, by decide⟩
    let run (input : Word) :=
      outcome (answer input) none
        (Dispatch.analyseFetched c transaction hash (receipt 2990000000)) ()
    ∃ t, (run 2990000000).result = some (.ok (.success t)) ∧ t.amountIn = 3000000000 ∧
      t.amountOut = 1000000000000000000 ∧ t.token0 = weth.address ∧
      t.price = price ∧
      ∀ input, run input = run 2990000000 := by
  intro hash weth usdc router call swapped receipt transaction c data answer price run
  have hlog : (receipt 2990000000).logs.filter (isOfKind .v2Swap) = (receipt 2990000000).logs :=
    V2.filter_report _ _ _ _ _
  have hfamily : transaction.destination.map (c.routers.classify c.chain) = some .v2 := by
    decide +kernel
  have hdecode : V2Router.decode transaction.input = .ok ⟨"swapExactTokensForTokens",
      [usdc.address, weth.address], [], some 3000000000, none, 1, false⟩ := by
    decide +kernel
  have hserved (input : Word) : data input (.receipt hash) = .ok (receipt input) :=
    if_pos rfl
  have hsame (input : Word) :
      V2.SamePaidOut (receipt 2990000000).logs (receipt input).logs :=
    V2.samePaidOut_report (swapped 2990000000) (swapped input) rfl rfl router ⟨0x1111⟩ ⟨0x88a4⟩
      (some 4)
  have hrelogged (input : Word) :
      Relogged V2.SamePaidOut hash (answer 2990000000) (answer input) := by
    refine .of_data (fun r hr => ?_) (hserved 2990000000) (hserved input) (hsame input)
    cases r with
    | receipt h =>
      have hother : h ≠ hash := fun heq => hr (heq ▸ rfl)
      exact (if_neg hother).trans (if_neg hother).symm
    | _ => rfl
  obtain ⟨event, found, hread, hevent, htradable, hrecord, hfollowed, -, hnamed⟩ :=
    pair_trade (answer 2990000000) none c transaction hash (receipt 2990000000)
      (receipt 2990000000) _ _ () hfamily rfl hdecode (hserved 2990000000) hlog
  obtain rfl := Option.some.inj ((ofLog?_log _ _ _).symm.trans hread)
  obtain rfl : swapped 2990000000 = found :=
    (V2.swapped_report (swapped 2990000000) router ⟨0x1111⟩ ⟨0x88a4⟩ (some 4)).eq hevent
  have hkept : run 2990000000 =
      outcome (answer 2990000000) none
        (V2.analyse transaction hash (receipt 2990000000) c.v2Fee) () :=
    hfollowed.kept fun hlost => nomatch hlost.2.2
  obtain ⟨t, ht⟩ : ∃ t, (run 2990000000).result = some (.ok (.success t)) := by
    simp only [hkept, htradable]
    refine ⟨.inl (by decide), usdc, weth, (weth.address, usdc.address),
      ⟨usdc.address, weth.address, rfl, rfl, rfl, rfl, rfl⟩, ?_⟩
    unfold Price.Overflows
    decide
  obtain ⟨-, inToken, outToken, pair, hread, hrecorded⟩ :=
    (hrecord t).1 ((congrArg Outcome.result hkept).symm.trans ht)
  obtain ⟨_, _, hfirst, hlast, hin, hout, hpair⟩ := hread
  obtain rfl := Option.some.inj hfirst
  obtain rfl := Option.some.inj hlast
  obtain rfl : usdc = inToken := Except.ok.inj hin
  obtain rfl : weth = outToken := Except.ok.inj hout
  have htokens : (t.token0, t.token1) = (weth.address, usdc.address) :=
    hrecorded.tokens.trans (Except.ok.inj hpair).symm
  have hprice : Price.executed 3000000000 6 1000000000000000000 18 = .ok t.price := by
    have hhuman := (V2.executed_eq_ok_iff_human t).2 hrecorded.price
    rwa [hrecorded.amountIn, hrecorded.amountOut, hrecorded.amountInDecimals,
      hrecorded.amountOutDecimals] at hhuman
  have hquotient : Price.executed 3000000000 6 1000000000000000000 18 = .ok price := by
    decide +kernel
  exact ⟨t, ht, hrecorded.amountIn, hrecorded.amountOut, (Prod.mk.inj htokens).1,
    Except.ok.inj (hprice.symm.trans hquotient),
    fun input => (hnamed (Option.some_ne_none _) (answer input) (hrelogged input)).2⟩

end DexTrade.Analysis
