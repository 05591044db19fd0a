import DexTrade.Proofs.Analysis.Errors
import DexTrade.Proofs.Analysis.Journal
import DexTrade.Proofs.Analysis.Route
/-!
# Trades through a pool

A pool reports what it gained and what it lost as numbers with a sign. A trade is read from them only
if the one is positive and the other negative; its input is then the positive amount and its output
the size of the negative one, whichever of them stands first (`amounts_of_opposite`). All of this comes
before the first reading, and after it nothing but a reading or the tick can be refused
(`pool_trade`).
-/
namespace DexTrade.Analysis

open Chain

variable {σ : Type} {answer : (r : Reading) → σ → Except ReadFailure r.Value × σ}
  {limit : Option Level} {receipt : Receipt} {event event' : Event} {amount0 amount1 : Word}
  {tick : BitVec 24} {tokenIn tokenOut : Address}

namespace V3

/-! ## What an event says -/

/-- An event with both amounts and the tick of a swap. -/
structure Swapped (event : Event) (amount0 amount1 : Word) (tick : BitVec 24) : Prop where
  amount0 : event.signed? "amount0" = some amount0
  amount1 : event.signed? "amount1" = some amount1
  tick : event.signed? "tick" = some (tick.signExtend 256)

theorem swapped_of_ofLog? {log : LogEntry} (h : Event.ofLog? log = some event)
    (hkind : event.kind = .v3Swap) :
    ∃ (amount0 amount1 : Word) (tick : BitVec 24), Swapped event amount0 amount1 tick := by
  obtain ⟨topics, words, htopics, hwords, harguments⟩ := Event.arguments_of_ofLog? h
  rw [hkind] at htopics hwords harguments
  match topics, words, htopics, hwords with
  | [_, _], [w0, w1, _, _, w4], _, _ =>
    refine ⟨(w0.setWidth 256).signExtend 256, (w1.setWidth 256).signExtend 256, w4.setWidth 24,
      ?_, ?_, ?_⟩
    all_goals
      apply Event.signed?_of_argument
      rw [Event.argument?, harguments]
      rfl

theorem swapped_report (sender recipient : Address) (sqrtPrice : BitVec 160)
    (liquidity : BitVec 128) (amount0 amount1 : Word) (tick : BitVec 24) (address : Address)
    (logIndex : Option Nat) :
    Swapped ((Event.Report.v3Swap sender recipient amount0 amount1 sqrtPrice liquidity tick).event
      address logIndex) amount0 amount1 tick :=
  ⟨rfl, rfl, rfl⟩

theorem tick_of_swapped (h : Swapped event amount0 amount1 tick) :
    V3.tick event = .ok tick.toInt := by
  have hvalue : (tick.signExtend 256).toInt = tick.toInt :=
    BitVec.toInt_signExtend_of_le (by decide)
  have hlower := BitVec.le_toInt tick
  have hupper := BitVec.toInt_lt (x := tick)
  unfold V3.tick signed
  rw [h.tick]
  change (if -0x80000000 ≤ (tick.signExtend 256).toInt ∧ (tick.signExtend 256).toInt < 0x80000000
    then Except.ok (tick.signExtend 256).toInt else _) = _
  rw [hvalue]
  exact if_pos (by omega)

/-! ## Amounts -/

/-- One number is positive and the other negative. -/
def Opposite (amount0 amount1 : Word) : Prop :=
  0 < amount0.toInt ∧ amount1.toInt < 0 ∨ amount0.toInt < 0 ∧ 0 < amount1.toInt

/-- The least number has a size as well: it is no number with a sign, but a word. -/
theorem toNat_magnitude (w : Word) : (magnitude w).toNat = w.toInt.natAbs := by
  have hlower := BitVec.le_toInt w
  have hupper := BitVec.toInt_lt (x := w)
  unfold magnitude
  rw [BitVec.toNat_ofNat]
  apply Nat.mod_eq_of_lt
  omega

theorem amounts_of_opposite (h : Opposite amount0 amount1) :
    ∃ a, amounts amount0 amount1 = .ok a ∧
      (a.input.toNat : Int) = max amount0.toInt amount1.toInt ∧
      (a.output.toNat : Int) = -min amount0.toInt amount1.toInt := by
  unfold amounts
  rcases h with h | h
  · refine ⟨_, if_pos h, ?_⟩
    rw [toNat_magnitude, toNat_magnitude]
    omega
  · refine ⟨_, (if_neg (by omega)).trans (if_pos h), ?_⟩
    rw [toNat_magnitude, toNat_magnitude]
    omega

theorem amounts_of_not_opposite (h : ¬Opposite amount0 amount1) :
    amounts amount0 amount1 = .error (.unsupportedShape (.signs amount0 amount1)) := by
  unfold amounts
  rw [if_neg fun h0 => h (.inl h0), if_neg fun h1 => h (.inr h1)]

theorem amounts_comm (h : Opposite amount0 amount1) :
    amounts amount1 amount0 = amounts amount0 amount1 := by
  unfold amounts
  rcases h with h | h
  · rw [if_neg (by omega), if_pos ⟨h.2, h.1⟩, if_pos h]
  · rw [if_pos ⟨h.2, h.1⟩, if_neg (by omega), if_pos h]

theorem reported_of_swapped (h : Swapped event amount0 amount1 tick) :
    reported event = (amounts amount0 amount1).map fun a => ⟨tick.toInt, a⟩ := by
  unfold reported signed
  rw [h.amount0, h.amount1, tick_of_swapped h]
  change (amounts amount0 amount1 >>= fun a => pure (Reported.mk tick.toInt a)) = _
  cases amounts amount0 amount1 <;> rfl

/-! ## The record -/

/-- What is read for a trade through a pool, each reading on the state that the one before left. -/
structure Served (answer : (r : Reading) → σ → Except ReadFailure r.Value × σ) (s : σ)
    (address tokenIn tokenOut : Address) (pool : Pool) (inToken outToken : Token) : Prop where
  readPool : (answer (.pool address) s).1 = .ok pool
  readTokenIn : (answer (.token tokenIn) (answer (.pool address) s).2).1 = .ok inToken
  readTokenOut : (answer (.token tokenOut)
    (answer (.token tokenIn) (answer (.pool address) s).2).2).1 = .ok outToken

/-- The record of a swap through a pool, by what is at hand, reported and read. -/
structure Records (t : TradeSuccess) (receipt : Receipt) (path : List Address) (amountOutMin : Word)
    (amount0 amount1 : Word) (tick : Int) (pool : Pool) (inToken outToken : Token) : Prop where
  gasUsed : t.gasUsed = receipt.gasUsed
  effectiveGasPrice : t.effectiveGasPrice = receipt.effectiveGasPrice
  path : t.path = path
  amountOutMin : t.amountOutMin = amountOutMin
  /-- The positive amount. -/
  amountIn : (t.amountIn.toNat : Int) = max amount0.toInt amount1.toInt
  /-- The size of the negative amount. -/
  amountOut : (t.amountOut.toNat : Int) = -min amount0.toInt amount1.toInt
  amountInDecimals : t.amountInDecimals = inToken.decimals
  amountOutDecimals : t.amountOutDecimals = outToken.decimals
  token0 : t.token0 = pool.token0.address
  token1 : t.token1 = pool.token1.address
  price : pool.price tick false = .ok t.price
  lpFeePaid : t.lpFeePaid = Price.feePaid t.amountIn pool.feeRate inToken.decimals

theorem result_v3Trade_iff {r : Reported} (hreported : reported event = .ok r) (amountOutMin : Word)
    (s : σ) (t : TradeSuccess) :
    (outcome answer limit (buildTrade receipt [tokenIn, tokenOut] amountOutMin event) s).result =
        some (.ok t) ↔
      ∃ pool inToken outToken price, Served answer s event.address tokenIn tokenOut pool inToken
          outToken ∧ pool.price r.tick false = .ok price ∧
        t = ⟨receipt.gasUsed, receipt.effectiveGasPrice, [tokenIn, tokenOut], r.amounts.input,
          amountOutMin, r.amounts.output, price, inToken.decimals, outToken.decimals,
          pool.token0.address, pool.token1.address,
          Price.feePaid r.amounts.input pool.feeRate inToken.decimals⟩ := by
  unfold buildTrade
  simp only [result_expect_bind_iff, ends, hreported, Except.ok.injEq, exists_eq_left',
    result_read_bind_iff (r := .pool _), result_read_bind_iff (r := .token _), traded,
    outcome_debug_bind, outcome_pure, Option.some.injEq]
  constructor
  · rintro ⟨pool, hpool, inToken, hin, outToken, hout, price, hprice, rfl⟩
    exact ⟨pool, inToken, outToken, price, ⟨hpool, hin, hout⟩, hprice, rfl⟩
  · rintro ⟨pool, inToken, outToken, price, ⟨hpool, hin, hout⟩, hprice, rfl⟩
    exact ⟨pool, hpool, inToken, hin, outToken, hout, price, hprice, rfl⟩

theorem reported_of_opposite (hevent : Swapped event amount0 amount1 tick)
    (h : Opposite amount0 amount1) :
    ∃ a, reported event = .ok ⟨tick.toInt, a⟩ ∧
      (a.input.toNat : Int) = max amount0.toInt amount1.toInt ∧
      (a.output.toNat : Int) = -min amount0.toInt amount1.toInt := by
  obtain ⟨a, ha, hinput, houtput⟩ := amounts_of_opposite h
  exact ⟨a, by rw [reported_of_swapped hevent, ha]; rfl, hinput, houtput⟩

/-- There is a record if everything is served and the tick has a price, and only one. -/
theorem success_iff_records (hevent : Swapped event amount0 amount1 tick)
    (h : Opposite amount0 amount1) (amountOutMin : Word) (s : σ) (t : TradeSuccess) :
    (outcome answer limit (buildTrade receipt [tokenIn, tokenOut] amountOutMin event) s).result =
        some (.ok t) ↔
      ∃ pool inToken outToken,
        Served answer s event.address tokenIn tokenOut pool inToken outToken ∧
          Records t receipt [tokenIn, tokenOut] amountOutMin amount0 amount1 tick.toInt pool inToken
            outToken := by
  obtain ⟨a, hreported, hinput, houtput⟩ := reported_of_opposite hevent h
  rw [result_v3Trade_iff hreported]
  constructor
  · rintro ⟨pool, inToken, outToken, price, hserved, hprice, rfl⟩
    exact ⟨pool, inToken, outToken, hserved,
      ⟨rfl, rfl, rfl, rfl, hinput, houtput, rfl, rfl, rfl, rfl, hprice, rfl⟩⟩
  · rintro ⟨pool, inToken, outToken, hserved, ht⟩
    have hin : t.amountIn = a.input := by
      have hvalue := ht.amountIn
      exact BitVec.eq_of_toNat_eq (by omega)
    have hout : t.amountOut = a.output := by
      have hvalue := ht.amountOut
      exact BitVec.eq_of_toNat_eq (by omega)
    refine ⟨pool, inToken, outToken, t.price, hserved, ht.price, ?_⟩
    rw [← hin, ← hout, ← ht.lpFeePaid, ← ht.gasUsed, ← ht.effectiveGasPrice, ← ht.path,
      ← ht.amountOutMin, ← ht.amountInDecimals, ← ht.amountOutDecimals, ← ht.token0, ← ht.token1]

/-- A reading failed, or the tick has no price. -/
def IsUnpriced (tick : Int) (e : TradeError) : Prop :=
  (∃ failure, e = .failedRead failure) ∨ e = .priceOutOfRange tick

/-- Once an event is understood, a trade is refused for a reading or for the range of the tick. -/
theorem fails_v3Trade {r : Reported} (hreported : reported event = .ok r) (amountOutMin : Word) :
    Fails (IsUnpriced r.tick) (buildTrade receipt [tokenIn, tokenOut] amountOutMin event) := by
  have hunderstood : Refuses (IsUnpriced r.tick) (reported event) := hreported ▸ .ok r
  refine fails_v3Builder (fun failure => .inl ⟨failure, rfl⟩) (.ok _) hunderstood ?_ amountOutMin
  intro r' hr' pool
  obtain rfl : r = r' := Except.ok.inj (hreported.symm.trans hr')
  exact (outOfRange_of_price pool r.tick).mono fun _ he => .inr he

/-- Both orders of the amounts are one trade. -/
theorem buildTrade_comm (hevent : Swapped event amount0 amount1 tick)
    (hevent' : Swapped event' amount1 amount0 tick) (haddress : event'.address = event.address)
    (h : Opposite amount0 amount1) (path : List Address) (amountOutMin : Word) :
    buildTrade receipt path amountOutMin event' = buildTrade receipt path amountOutMin event := by
  have hreported : reported event' = reported event := by
    rw [reported_of_swapped hevent, reported_of_swapped hevent', amounts_comm h]
  unfold buildTrade
  rw [hreported, haddress]

end V3

/-- Every V3 swap event of a log has two amounts and a tick. If one amount is positive and the other
negative, the trade through its pool along two tokens is refused only for a failed reading or for the
range of the tick; otherwise there is a record, whose input is the positive amount and whose output is
the size of the negative one, in whichever order they stand. Other signs are refused before anything is
read, and so is a route of more than two tokens. -/
theorem pool_trade (answer : (r : Reading) → σ → Except ReadFailure r.Value × σ)
    (limit : Option Level) (receipt : Receipt) (path : List Address) (amountOutMin : Word)
    (event : Event) (amount0 amount1 : Word) (tick : BitVec 24) (s : σ)
    (hevent : V3.Swapped event amount0 amount1 tick) :
    let run := outcome answer limit (V3.buildTrade receipt path amountOutMin event) s
    (∀ log found, Event.ofLog? log = some found → found.kind = .v3Swap →
      ∃ amount0 amount1 tick, V3.Swapped found amount0 amount1 tick) ∧
    (2 < path.length →
      run = ⟨some (.error (.unsupported (.multiHop path.length))), [], s⟩) ∧
    ∀ tokenIn tokenOut, path = [tokenIn, tokenOut] →
      (¬V3.Opposite amount0 amount1 →
        run = ⟨some (.error (.unsupportedShape (.signs amount0 amount1))), [], s⟩) ∧
      (V3.Opposite amount0 amount1 →
        run.result ≠ none ∧
        (∀ e, run.result = some (.error e) → V3.IsUnpriced tick.toInt e) ∧
        (∀ t, run.result = some (.ok t) ↔
          ∃ pool inToken outToken,
            V3.Served answer s event.address tokenIn tokenOut pool inToken outToken ∧
              V3.Records t receipt path amountOutMin amount0 amount1 tick.toInt pool inToken
                outToken) ∧
        ∀ event', V3.Swapped event' amount1 amount0 tick → event'.address = event.address →
          outcome answer limit (V3.buildTrade receipt path amountOutMin event') s = run) := by
  intro run
  refine ⟨fun log found => V3.swapped_of_ofLog?, fun hlong =>
    outcome_v3Trade_of_long hlong amountOutMin event s, ?_⟩
  rintro tokenIn tokenOut rfl
  refine ⟨fun hsame => ?_, fun hopposite => ⟨(writable_v3Trade _ _ event).ended answer limit s,
    fun e he => ?_, V3.success_iff_records hevent hopposite amountOutMin s,
    fun event' hevent' haddress => ?_⟩⟩
  · have hreported : V3.reported event =
        .error (.unsupportedShape (.signs amount0 amount1)) := by
      rw [V3.reported_of_swapped hevent, V3.amounts_of_not_opposite hsame]
      rfl
    simp only [run, V3.buildTrade, V3.ends, hreported, expect_ok_bind]
    exact outcome_bind_of_error (outcome_expect answer limit _ s) _
  · obtain ⟨a, hreported, -⟩ := V3.reported_of_opposite hevent hopposite
    exact Inquiry.Always.result (V3.fails_v3Trade hreported amountOutMin) he e rfl
  · exact congrArg (outcome answer limit · s)
      (V3.buildTrade_comm hevent hevent' haddress hopposite _ amountOutMin)

/-- A pool lost as much as a number with a sign can say, whose size no such number is. -/
theorem trade_of_least_amount :
    let weth : Token := ⟨⟨0x4200⟩, 18, some "WETH"⟩
    let usdc : Token := ⟨⟨0x8335⟩, 6, some "USDC"⟩
    let pool : Pool := ⟨⟨0xd0b5⟩, weth, usdc, 500⟩
    let least : Word := 0x8000000000000000000000000000000000000000000000000000000000000000
    let swapped (amount0 amount1 : Word) : Event :=
      (Event.Report.v3Swap ⟨0x2626⟩ ⟨0x1111⟩ amount0 amount1 1 3 (-200000)).event pool.address (some 4)
    let receipt : Receipt := ⟨true, 150000, 2500000000, some 7, []⟩
    let data : Chain.Data
      | .pool _ => .ok pool
      | .token address => .ok (if address.bits.toNat = 0x4200 then weth else usdc)
      | _ => .error ⟨"not found", []⟩
    let answer (r : Reading) (s : Unit) := (data r, s)
    let run (event : Event) :=
      outcome answer none (V3.buildTrade receipt [usdc.address, weth.address] 1 event) ()
    ∃ t, (run (swapped least 5)).result = some (.ok t) ∧ t.amountIn = 5 ∧
      t.amountOut.toNat = Nat.pow 2 255 ∧ t.amountInDecimals = 6 ∧ t.token0 = weth.address ∧
      run (swapped 5 least) = run (swapped least 5) := by
  intro weth usdc pool least swapped receipt data answer run
  have hevent (amount0 amount1 : Word) : V3.Swapped (swapped amount0 amount1) amount0 amount1
      (-200000) :=
    V3.swapped_report ..
  have hopposite : V3.Opposite least 5 := .inr (by decide)
  have hin : ((5 : Word).toNat : Int) = max least.toInt (5 : Word).toInt := by decide
  have hout : (least.toNat : Int) = -min least.toInt (5 : Word).toInt := by decide
  obtain ⟨price, hprice⟩ : ∃ price, pool.price (-200000) false = .ok price := by
    have hpriced : (pool.price (-200000) false).toOption.isSome = true := by decide +kernel
    cases hprice : pool.price (-200000) false with
    | ok price => exact ⟨price, rfl⟩
    | error e =>
      rw [hprice] at hpriced
      exact nomatch hpriced
  obtain ⟨-, -, htrade⟩ := pool_trade answer none receipt [usdc.address, weth.address] 1
    (swapped least 5) least 5 (-200000) () (hevent least 5)
  obtain ⟨-, hsuccess⟩ := htrade usdc.address weth.address rfl
  obtain ⟨-, -, hrecord, hexchange⟩ := hsuccess hopposite
  refine ⟨⟨150000, 2500000000, [usdc.address, weth.address], 5, 1, least, price, 6, 18, weth.address,
    usdc.address, Price.feePaid 5 pool.feeRate 6⟩, (hrecord _).2 ⟨pool, usdc, weth, ?_, ?_⟩, rfl, rfl,
    rfl, rfl, hexchange _ (hevent 5 least) rfl⟩
  · exact ⟨rfl, rfl, rfl⟩
  · exact ⟨rfl, rfl, rfl, rfl, hin, hout, rfl, rfl, rfl, rfl, hprice, rfl⟩

end DexTrade.Analysis
