import DexTrade.Analysis.Dispatch
import DexTrade.Proofs.Analysis.Run
import DexTrade.Proofs.Swap.Shape
/-!
# Which errors the steps of an analysis have

Decoding is refused with errors about the call data. All later steps are refused with errors about the
trade, of which a route that was decoded is none, since it has two ends. Only a reading fails as a
reading, and only the builders of records have guards.
-/
namespace DexTrade

def TradeError.isInputDecode : TradeError → Bool
  | .inputDecode _ => true
  | _ => false

/-- The error of a guard: of an event without an argument of its kind, a tick out of range or a route
without two ends. -/
def TradeError.isGuard : TradeError → Bool
  | .unsupportedShape (.noSigned _ _) => true
  | .unsupportedShape (.noUnsigned _) => true
  | .unsupportedShape (.tickRange _) => true
  | .inputDecode (.noRoute _) => true
  | .inputDecode .emptyV2Route => true
  | _ => false

namespace Analysis

open Chain

variable {α β : Type}

/-! ## Errors of a result -/

/-- Every error that can come of a result has a property. -/
def Refuses (P : TradeError → Prop) (result : Except TradeError α) : Prop :=
  ∀ e, result = .error e → P e

namespace Refuses

variable {P Q : TradeError → Prop}

theorem ok (a : α) : Refuses P (.ok a) :=
  fun _ h => nomatch h

theorem error {e : TradeError} (h : P e) : Refuses P (.error e : Except TradeError α) :=
  fun _ he => Except.error.inj he ▸ h

theorem mono {result : Except TradeError α} (h : Refuses P result) (hPQ : ∀ e, P e → Q e) :
    Refuses Q result :=
  fun e he => hPQ e (h e he)

protected theorem bind {x : Except TradeError α} {f : α → Except TradeError β} (hx : Refuses P x)
    (hf : ∀ a, Refuses P (f a)) : Refuses P (x >>= f) := by
  cases x with
  | ok a => exact hf a
  | error e => exact .error (hx e rfl)

end Refuses

/-! ## Errors of an analysis -/

/-- Every error an analysis can end with has a property. -/
def Fails (P : TradeError → Prop) (x : Analysis α) : Prop :=
  x.run.Always (Refuses P)

namespace Fails

variable {P : TradeError → Prop}

protected theorem pure (a : α) : Fails P (pure a) :=
  Refuses.ok a

/-- What is true of every value of the first step may be used of the second. -/
theorem bind_of_returns {Q : α → Prop} {x : Analysis α} {f : α → Analysis β} (hx : x.Fails P)
    (hvalue : x.Returns Q) (hf : ∀ a, Q a → (f a).Fails P) : (x >>= f).Fails P := by
  unfold Fails
  rw [ExceptT.run_bind]
  refine Inquiry.Always.bind (Inquiry.Always.and hx hvalue) fun result ⟨hrefuses, hreturns⟩ => ?_
  cases result with
  | ok a => exact hf a (hreturns a rfl)
  | error e => exact .error (hrefuses e rfl)

protected theorem bind {x : Analysis α} {f : α → Analysis β} (hx : x.Fails P)
    (hf : ∀ a, (f a).Fails P) : (x >>= f).Fails P :=
  hx.bind_of_returns (.of_forall (fun _ => trivial) x) fun a _ => hf a

theorem expect {result : Except TradeError α} (h : Refuses P result) :
    Fails P (Analysis.expect result) :=
  h

theorem read {r : Reading} (h : ∀ failure, P (.failedRead failure)) : Fails P (Analysis.read r) := by
  intro answer
  cases answer with
  | ok value => exact .ok value
  | error failure => exact .error (h failure)

theorem write (entries : List Entry) : Fails P (Analysis.write entries) := by
  induction entries with
  | nil => exact .ok ()
  | cons e rest ih => exact ih

/-- The events of a receipt are missing only if it cannot be read. -/
theorem events {hash : TxHash} (h : ∀ failure, P (.failedRead failure)) :
    Fails P (Analysis.events hash) :=
  (Fails.read h).bind fun _ => (Fails.write _).bind fun _ => .pure _

/-- A reverted transaction has its record whether its reason is known or not. -/
theorem failedTrade {hash : TxHash} {receipt : Receipt} :
    Fails P (Analysis.failedTrade hash receipt) := by
  intro answer
  cases answer with
  | ok reason => exact .ok _
  | error failure => exact .ok _

end Fails

/-! ## Steps before a reading -/

/-- The error is not that of a failed reading. -/
def IsOwn (e : TradeError) : Prop :=
  e.isFailedRead = false

/-- The error is not that of a guard. -/
def IsLive (e : TradeError) : Prop :=
  e.isGuard = false

/-- The error is neither that of a failed reading nor that of a guard. -/
def IsOrdinary (e : TradeError) : Prop :=
  IsOwn e ∧ IsLive e

theorem Refuses.own {result : Except TradeError α} (h : Refuses IsOrdinary result) :
    Refuses IsOwn result :=
  h.mono fun _ he => he.1

theorem Refuses.live {result : Except TradeError α} (h : Refuses IsOrdinary result) :
    Refuses IsLive result :=
  h.mono fun _ he => he.2

theorem refuses_v2Decode (input : Bytes) : Refuses IsOrdinary (V2Router.decode input) := by
  unfold V2Router.decode
  split
  · exact .error ⟨rfl, rfl⟩
  · split
    · exact .error ⟨rfl, rfl⟩
    · exact .ok _

theorem refuses_pathSwap (inputName outputName : String) (exactOutput : Bool) (packed : Bytes)
    (exact bound : Word) :
    Refuses IsOrdinary (V3Router.pathSwap inputName outputName exactOutput packed exact bound) := by
  unfold V3Router.pathSwap
  split
  · exact .error ⟨rfl, rfl⟩
  · split
    · exact .ok _
    · exact .ok _

theorem refuses_decodeUnwrapped (input : Bytes) :
    Refuses IsOrdinary (V3Router.decodeUnwrapped input) := by
  unfold V3Router.decodeUnwrapped
  split
  · exact .error ⟨rfl, rfl⟩
  · rename_i request _
    cases request with
    | single => exact .ok _
    | path => exact refuses_pathSwap _ _ _ _ _ _
    | multicall => exact .error ⟨rfl, rfl⟩

theorem refuses_v3Decode (input : Bytes) : Refuses IsOrdinary (V3Router.decode input) := by
  have honly (swaps : List SwapCall) : Refuses IsOrdinary (V3Router.onlySwap swaps) := by
    unfold V3Router.onlySwap
    split
    · exact .error ⟨rfl, rfl⟩
    · exact .ok _
    · exact .error ⟨rfl, rfl⟩
  rw [V3Router.decode_eq_twoLevel]
  unfold V3Router.decodeTwoLevel
  split
  · split
    · exact .error ⟨rfl, rfl⟩
    · exact honly _
  · exact refuses_decodeUnwrapped input

theorem refuses_executeDecode (input : Bytes) : Refuses IsOrdinary (ExecuteCall.decode input) := by
  unfold ExecuteCall.decode
  split
  · exact .error ⟨rfl, rfl⟩
  · split
    · exact .ok _
    · exact .error ⟨rfl, rfl⟩

theorem refuses_onlySwap (call : ExecuteCall) : Refuses IsOrdinary (Universal.onlySwap call) := by
  unfold Universal.onlySwap
  split
  · exact .error ⟨rfl, rfl⟩
  · split
    · exact .error ⟨rfl, rfl⟩
    · exact .ok _
  · exact .error ⟨rfl, rfl⟩

theorem refuses_decodeV3Swap (op : Operation) : Refuses IsOrdinary op.decodeV3Swap := by
  unfold Operation.decodeV3Swap
  split
  · split
    · exact .error ⟨rfl, rfl⟩
    · exact refuses_pathSwap _ _ _ _ _ _
  · exact .error ⟨rfl, rfl⟩

theorem refuses_decodeSwap (input : Bytes) : Refuses IsOrdinary (Universal.decodeSwap input) :=
  (refuses_executeDecode input).bind fun call => (refuses_onlySwap call).bind fun op =>
    (refuses_decodeV3Swap op).bind fun _ => .ok _

theorem Universal.two_le_of_decodeSwap {input : Bytes} {found : Operation × SwapCall}
    (h : decodeSwap input = .ok found) : 2 ≤ found.2.path.length := by
  obtain ⟨call, -, h⟩ := exists_of_bind_eq_ok h
  obtain ⟨op, -, h⟩ := exists_of_bind_eq_ok h
  obtain ⟨swap, hswap, h⟩ := exists_of_bind_eq_ok h
  obtain rfl := Except.ok.inj h
  exact Operation.two_le_of_decodeV3Swap hswap

/-! ## Steps after it -/

/-- The error is not about the call data. -/
def IsPastDecoding (e : TradeError) : Prop :=
  e.isInputDecode = false

/-- The error is about the trade: neither about the call data nor that of a failed reading or a guard. -/
def IsAboutTrade (e : TradeError) : Prop :=
  IsPastDecoding e ∧ IsOrdinary e

/-- The error is about what an event says, which may be that it says too little. -/
def IsAboutEvent (e : TradeError) : Prop :=
  IsPastDecoding e ∧ IsOwn e

theorem Refuses.ordinary {result : Except TradeError α} (h : Refuses IsAboutTrade result) :
    Refuses IsOrdinary result :=
  h.mono fun _ he => he.2

theorem Refuses.pastDecoding {result : Except TradeError α} (h : Refuses IsAboutTrade result) :
    Refuses IsPastDecoding result :=
  h.mono fun _ he => he.1

theorem refuses_onlyEvent (found : List Event) (kind : EventKind) :
    Refuses IsAboutTrade (onlyEvent found kind) := by
  unfold onlyEvent
  split
  · exact .error ⟨rfl, rfl, rfl⟩
  · exact .ok _
  · exact .error ⟨rfl, rfl, rfl⟩

theorem refuses_lastEvent (found : List Event) (kind : EventKind) :
    Refuses IsAboutTrade (lastEvent found kind) := by
  unfold lastEvent
  split
  · exact .ok _
  · exact .error ⟨rfl, rfl, rfl⟩

theorem refuses_amount (raw : Word) (decimals : Nat) :
    Refuses IsAboutTrade (Price.amount raw decimals) := by
  unfold Price.amount
  split
  · exact .ok _
  · exact .error ⟨rfl, rfl, rfl⟩

theorem refuses_executed (amountIn : Word) (decimalsIn : Nat) (amountOut : Word)
    (decimalsOut : Nat) :
    Refuses IsAboutTrade (Price.executed amountIn decimalsIn amountOut decimalsOut) := by
  refine (refuses_amount _ _).bind fun input => (refuses_amount _ _).bind fun output => ?_
  split
  · exact .ok _
  · exact .error ⟨rfl, rfl, rfl⟩

theorem refuses_ofTick (tick : Int) (decimals0 decimals1 : Nat) :
    Refuses (· = .priceOutOfRange tick) (Price.ofTick tick decimals0 decimals1) := by
  unfold Price.ofTick
  dsimp only
  split
  · exact .error rfl
  · split
    · split
      · exact .error rfl
      · exact .ok _
    · exact .error rfl

/-- A tick price is refused for no other reason than its range. -/
theorem outOfRange_of_price (p : Pool) (tick : Int) :
    Refuses (· = .priceOutOfRange tick) (p.price tick false) :=
  (refuses_ofTick _ _ _).bind fun _ => .ok _

theorem refuses_price (p : Pool) (tick : Int) : Refuses IsAboutTrade (p.price tick false) := by
  refine (outOfRange_of_price p tick).mono ?_
  rintro _ rfl
  exact ⟨rfl, rfl, rfl⟩

theorem refuses_reported (event : Event) : Refuses IsAboutEvent (V3.reported event) := by
  have hsigned (name : String) : Refuses IsAboutEvent (V3.signed event name) := by
    unfold V3.signed
    split
    · exact .ok _
    · exact .error ⟨rfl, rfl⟩
  have htick : Refuses IsAboutEvent (V3.tick event) := by
    refine (hsigned _).bind fun w => ?_
    split
    · exact .ok _
    · exact .error ⟨rfl, rfl⟩
  have hamounts (amount0 amount1 : Word) : Refuses IsAboutEvent (V3.amounts amount0 amount1) := by
    unfold V3.amounts
    split
    · exact .ok _
    · split
      · exact .ok _
      · exact .error ⟨rfl, rfl⟩
  exact (hsigned _).bind fun _ => (hsigned _).bind fun _ => htick.bind fun _ =>
    (hamounts _ _).bind fun _ => .ok _

theorem refuses_v2Amounts (event : Event) : Refuses IsAboutEvent (V2.amounts event) := by
  have hunsigned (name : String) : Refuses IsAboutEvent (V2.unsigned event name) := by
    unfold V2.unsigned
    split
    · exact .ok _
    · exact .error ⟨rfl, rfl⟩
  refine (hunsigned _).bind fun _ => (hunsigned _).bind fun _ => (hunsigned _).bind fun _ =>
    (hunsigned _).bind fun _ => ?_
  split
  · exact .ok _
  · split
    · exact .ok _
    · exact .error ⟨rfl, rfl⟩

/-- The errors that a family's steps have before a record is built. -/
structure Steps.Refusing {Call : Type} (x : Steps Call) : Prop where
  decode : ∀ input, Refuses IsOrdinary (x.decode input)
  select : ∀ found, Refuses IsAboutTrade (x.select found)

theorem V2.refusing_steps (fee : Nat) : (V2.steps fee).Refusing :=
  ⟨refuses_v2Decode, (refuses_onlyEvent · .v2Swap)⟩

theorem V3.refusing_steps : V3.steps.Refusing :=
  ⟨refuses_v3Decode, (refuses_onlyEvent · .v3Swap)⟩

theorem Universal.refusing_steps : Universal.steps.Refusing :=
  ⟨refuses_decodeSwap, (refuses_lastEvent · .v3Swap)⟩

/-- A route of two tokens or more has two ends. -/
theorem refuses_v3Ends {path : List Address} (h : 2 ≤ path.length) :
    Refuses IsAboutTrade (V3.ends path) := by
  match path, h with
  | [_, _], _ => exact .ok _
  | _ :: _ :: _ :: _, _ => exact .error ⟨rfl, rfl, rfl⟩

theorem refuses_v2Ends {P : TradeError → Prop} {swap : SwapCall} (h : 2 ≤ swap.path.length) :
    Refuses P (V2.ends swap) := by
  have hne : swap.path ≠ [] := List.ne_nil_of_length_pos (by omega)
  unfold V2.ends SwapCall.tokenIn? SwapCall.tokenOut?
  rw [List.head?_eq_some_head hne, List.getLast?_eq_some_getLast hne]
  exact .ok _

/-! ## Builders -/

/-- The errors of a builder are those of its steps. -/
theorem fails_v3Builder {P : TradeError → Prop} {receipt : Receipt} {path : List Address}
    {event : Event} (hread : ∀ failure, P (.failedRead failure)) (hends : Refuses P (V3.ends path))
    (hreported : Refuses P (V3.reported event))
    (hprice : ∀ r, V3.reported event = .ok r → ∀ pool : Pool, Refuses P (pool.price r.tick false))
    (amountOutMin : Word) : (V3.buildTrade receipt path amountOutMin event).Fails P := by
  refine (Fails.expect hends).bind fun (tokenIn, tokenOut) => ?_
  refine (Fails.expect hreported).bind_of_returns .expect fun r hr => ?_
  refine (Fails.read hread).bind fun pool => (Fails.read hread).bind fun inToken =>
    (Fails.read hread).bind fun outToken => ?_
  refine (Fails.expect (hprice r hr pool)).bind fun price => ?_
  exact (Fails.write _).bind fun _ => .pure _

theorem fails_v2Builder {P : TradeError → Prop} {receipt : Receipt} {swap : SwapCall} {event : Event}
    (hread : ∀ failure, P (.failedRead failure)) (hamounts : Refuses P (V2.amounts event))
    (hends : Refuses P (V2.ends swap))
    (hexecuted : ∀ amountIn decimalsIn amountOut decimalsOut,
      Refuses P (Price.executed amountIn decimalsIn amountOut decimalsOut))
    (fee : Nat) : (V2.buildTrade receipt fee swap event).Fails P := by
  refine (Fails.expect hamounts).bind fun amounts => ?_
  refine (Fails.expect hends).bind fun (tokenIn, tokenOut) => ?_
  refine (Fails.read hread).bind fun inToken => (Fails.read hread).bind fun outToken => ?_
  refine (Fails.expect (hexecuted _ _ _ _)).bind fun price => ?_
  refine (Fails.read hread).bind fun (token0, token1) => ?_
  exact (Fails.write _).bind fun _ => .pure _

end Analysis

end DexTrade
