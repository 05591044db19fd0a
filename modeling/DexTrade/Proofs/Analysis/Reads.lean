import DexTrade.Proofs.Analysis.Dispatch
import DexTrade.Proofs.Analysis.Errors
/-!
# Readings and the errors that come of them

An analysis ends with a failed reading as soon as one fails that it needs, under exactly that failure,
and with such an error at no other place (`Disciplined`). The reason of a revert is the only reading it
can do without: it is the last one, and a record follows whatever is answered. Call data is decoded
before anything is read of it (`DecodesFirst`).
-/
namespace DexTrade

/-- No analysis goes on without the answer; only the reason of a revert can be missing. -/
def Chain.Reading.isVital : Chain.Reading → Bool
  | .revertReason _ => false
  | _ => true

namespace Analysis

open Chain

variable {α β Call : Type} {n : Nat} {transaction : Transaction} {hash : TxHash}
  {receipt : Receipt} {x : Steps Call}

/-! ## The discipline -/

/-- Nothing more is asked, and there is a value. -/
def Settled : Inquiry source (Except TradeError α) → Prop
  | .done result => ∃ a, result = .ok a
  | .ask _ _ => False
  | .note _ next => Settled next

/-- At most `n` readings are made. The first vital one that fails is the last, and its failure is the
error; no other error is that of a failed reading. -/
inductive Disciplined {α : Type} : Nat → Inquiry source (Except TradeError α) → Prop
  | value (n : Nat) (a : α) : Disciplined n (.done (.ok a))
  | error (n : Nat) {e : TradeError} (h : e.isFailedRead = false) : Disciplined n (.done (.error e))
  | note {n : Nat} (e : Entry) {next : Inquiry source (Except TradeError α)}
      (h : Disciplined n next) : Disciplined n (.note e next)
  | read {n : Nat} {r : Reading}
      {next : Except ReadFailure r.Value → Inquiry source (Except TradeError α)}
      (hvital : r.isVital = true)
      (hfailed : ∀ failure, next (.error failure) = .done (.error (.failedRead failure)))
      (hnext : ∀ value, Disciplined n (next (.ok value))) : Disciplined (n + 1) (.ask r next)
  | attempt {n : Nat} {hash : TxHash}
      {next : Except ReadFailure (Option String) → Inquiry source (Except TradeError α)}
      (hnext : ∀ answer, Settled (next answer)) : Disciplined (n + 1) (.ask (.revertReason hash) next)

theorem Settled.disciplined {i : Inquiry source (Except TradeError α)} (h : Settled i) (n : Nat) :
    Disciplined n i := by
  induction i with
  | done result =>
    obtain ⟨a, rfl⟩ := h
    exact .value n a
  | ask q next ih => exact h.elim
  | note e next ih => exact .note e (ih h)

theorem Settled.bind {x : Analysis α} {f : α → Analysis β} (hx : Settled x.run)
    (hf : ∀ a, Settled (f a).run) : Settled (x >>= f).run := by
  rw [ExceptT.run_bind]
  generalize x.run = i at hx
  induction i with
  | done result =>
    obtain ⟨a, rfl⟩ := hx
    exact hf a
  | ask q next ih => exact hx.elim
  | note e next ih => exact ih hx

theorem Settled.write_bind {f : Unit → Analysis α} (entries : List Entry)
    (hf : Settled (f ()).run) : Settled (write entries >>= f).run := by
  induction entries with
  | nil => exact hf
  | cons e rest ih => exact ih

namespace Disciplined

theorem mono {i : Inquiry source (Except TradeError α)} {m : Nat} (h : Disciplined m i)
    (hle : m ≤ n) : Disciplined n i := by
  induction h generalizing n with
  | value m a => exact .value n a
  | error m he => exact .error n he
  | note e _ ih => exact .note e (ih hle)
  | read hvital hfailed _ ih =>
    obtain ⟨k, rfl⟩ : ∃ k, n = k + 1 := ⟨n - 1, by omega⟩
    exact .read hvital hfailed fun value => ih value (by omega)
  | attempt hnext =>
    obtain ⟨k, rfl⟩ : ∃ k, n = k + 1 := ⟨n - 1, by omega⟩
    exact .attempt hnext

theorem read_bind {r : Reading} {f : r.Value → Analysis α} (hvital : r.isVital = true)
    (hf : ∀ value, Disciplined n (f value).run) : Disciplined (n + 1) (Analysis.read r >>= f).run :=
  .read hvital (fun _ => rfl) hf

theorem write_bind {f : Unit → Analysis α} (entries : List Entry)
    (hf : Disciplined n (f ()).run) : Disciplined n (write entries >>= f).run := by
  induction entries with
  | nil => exact hf
  | cons e rest ih => exact .note e ih

theorem expect_bind {result : Except TradeError α} {f : α → Analysis β}
    (hresult : Refuses IsOwn result) (hf : ∀ a, result = .ok a → Disciplined n (f a).run) :
    Disciplined n (expect result >>= f).run := by
  cases result with
  | ok a => exact hf a rfl
  | error e => exact .error n (hresult e rfl)

theorem events_bind {f : List Event → Analysis α} (hf : ∀ found, Disciplined n (f found).run) :
    Disciplined (n + 1) (Analysis.events hash >>= f).run := by
  unfold Analysis.events
  rw [bind_assoc]
  refine read_bind rfl fun served => ?_
  rw [bind_assoc]
  exact write_bind _ (hf _)

/-- What follows a disciplined analysis and only makes a record of its value changes nothing. -/
theorem bind_settled {x : Analysis α} {f : α → Analysis β} (hx : Disciplined n x.run)
    (hf : ∀ a, Settled (f a).run) : Disciplined n (x >>= f).run := by
  rw [ExceptT.run_bind]
  generalize x.run = i at hx
  induction hx with
  | value n a => exact (hf a).disciplined n
  | error n he => exact .error n he
  | note e _ ih => exact .note e ih
  | read hvital hfailed _ ih =>
    refine .read hvital (fun failure => ?_) ih
    rw [hfailed]
    rfl
  | attempt hnext => exact .attempt fun answer => Settled.bind (x := ExceptT.mk _) (hnext answer) hf

/-- The reason of a revert may be unknown. -/
theorem failedTrade_bind {f : TradeFail → Analysis α} (hf : ∀ fail, Settled (f fail).run) :
    Disciplined (n + 1) (failedTrade hash receipt >>= f).run := by
  refine .attempt fun answer => ?_
  cases answer with
  | ok reason => exact hf _
  | error failure => exact hf _

end Disciplined

/-! ## The analyses are disciplined -/

theorem disciplined_v3Trade {path : List Address} (h : 2 ≤ path.length) (amountOutMin : Word)
    (event : Event) : Disciplined 3 (V3.buildTrade receipt path amountOutMin event).run := by
  refine .expect_bind (refuses_v3Ends h).ordinary.own fun (tokenIn, tokenOut) _ => ?_
  refine .expect_bind ((refuses_reported event).mono fun _ he => he.2) fun reported _ => ?_
  refine .read_bind rfl fun pool => .read_bind rfl fun inToken => .read_bind rfl fun outToken => ?_
  refine .expect_bind (refuses_price pool _).ordinary.own fun price _ => ?_
  exact .write_bind _ (.value 0 _)

theorem disciplined_v2Trade {swap : SwapCall} (h : 2 ≤ swap.path.length) (fee : Nat)
    (event : Event) : Disciplined 3 (V2.buildTrade receipt fee swap event).run := by
  refine .expect_bind ((refuses_v2Amounts event).mono fun _ he => he.2) fun amounts _ => ?_
  refine .expect_bind (refuses_v2Ends h) fun (tokenIn, tokenOut) _ => ?_
  refine .read_bind rfl fun inToken => .read_bind rfl fun outToken => ?_
  refine .expect_bind (refuses_executed _ _ _ _).ordinary.own fun price _ => ?_
  refine .read_bind rfl fun (token0, token1) => ?_
  exact .write_bind _ (.value 0 _)

theorem Steps.disciplined (hx : x.Refusing)
    (hbuild : ∀ call event, x.decode transaction.input = .ok call →
      Disciplined 3 (x.build receipt call event).run) :
    Disciplined 4 (x.analyse transaction hash receipt Analysis.events).run := by
  unfold Steps.analyse
  cases receipt.status with
  | true =>
    refine .write_bind _ (.expect_bind (hx.decode _).own fun call hcall => .write_bind _ ?_)
    refine .events_bind fun found => ?_
    refine .expect_bind (hx.select found).ordinary.own fun event _ => ?_
    exact (hbuild call event hcall).bind_settled fun trade => ⟨_, rfl⟩
  | false => exact .failedTrade_bind fun fail => .write_bind _ ⟨_, rfl⟩

theorem disciplined_v2 (fee : Nat) :
    Disciplined 4 (V2.analyse transaction hash receipt fee).run :=
  Steps.disciplined (V2.refusing_steps fee) fun _ event hswap =>
    disciplined_v2Trade (V2Router.two_le_of_decode hswap) fee event

theorem disciplined_v3 : Disciplined 4 (V3.analyse transaction hash receipt).run :=
  Steps.disciplined V3.refusing_steps fun _ event hswap =>
    disciplined_v3Trade (V3Router.two_le_of_decode hswap) _ event

theorem disciplined_universal :
    Disciplined 4 (Universal.analyseFetched transaction hash receipt).run :=
  Steps.disciplined Universal.refusing_steps fun _ event hswap =>
    disciplined_v3Trade (Universal.two_le_of_decodeSwap hswap) _ event

theorem settled_finish (a : TradeAnalysis) : Settled (Dispatch.finish hash a).run :=
  ⟨a, rfl⟩

theorem disciplined_dispatch (c : Dispatch.Context) :
    Disciplined 4 (Dispatch.analyseFetched c transaction hash receipt).run :=
  Dispatch.holds_by_family (motive := fun _ x => Disciplined 4 x.run)
    (fun _ _ _ hx => .write_bind _ hx) (fun _ _ hx => .bind_settled hx settled_finish)
    (disciplined_v2 c.v2Fee) disciplined_v3 (.error 4 rfl) fun _ _ => .error 4 rfl

/-- Fetching takes two readings more. -/
theorem disciplined_fetched {f : Transaction → Receipt → Analysis α}
    (hf : ∀ t r, Disciplined n (f t r).run) :
    Disciplined (n + 2)
      (read (.transaction hash) >>= fun t => read (.receipt hash) >>= fun r => f t r).run :=
  .read_bind rfl fun t => .read_bind rfl fun r => hf t r

/-! ## Call data is decoded first -/

/-- Once a reading was made, no error is about the call data any more. -/
def DecodesFirst : Inquiry source (Except TradeError α) → Prop
  | .done _ => True
  | .ask _ next => ∀ answer, (next answer).Always (Refuses IsPastDecoding)
  | .note _ next => DecodesFirst next

theorem Settled.decodesFirst {i : Inquiry source (Except TradeError α)} (h : Settled i) :
    DecodesFirst i := by
  induction i with
  | done result => trivial
  | ask q next ih => exact h.elim
  | note e next ih => exact ih h

theorem Settled.refuses {P : TradeError → Prop} {i : Inquiry source (Except TradeError α)}
    (h : Settled i) : i.Always (Refuses P) := by
  induction i with
  | done result =>
    obtain ⟨a, rfl⟩ := h
    exact .ok a
  | ask q next ih => exact h.elim
  | note e next ih => exact ih h

namespace DecodesFirst

theorem write_bind {f : Unit → Analysis α} (entries : List Entry) (hf : DecodesFirst (f ()).run) :
    DecodesFirst (write entries >>= f).run := by
  induction entries with
  | nil => exact hf
  | cons e rest ih => exact ih

theorem expect_bind {result : Except TradeError α} {f : α → Analysis β}
    (hf : ∀ a, result = .ok a → DecodesFirst (f a).run) :
    DecodesFirst (expect result >>= f).run := by
  cases result with
  | ok a => exact hf a rfl
  | error e => trivial

/-- The events are read from the receipt. -/
theorem events_bind {f : List Event → Analysis α} (hf : ∀ found, (f found).Fails IsPastDecoding) :
    DecodesFirst (Analysis.events hash >>= f).run := by
  unfold Analysis.events
  rw [bind_assoc]
  intro answer
  cases answer with
  | ok served =>
    have hfound : Fails IsPastDecoding (do
        write (Event.entries served.logs)
        return Event.ofLogs served.logs) := (Fails.write _).bind fun _ => .pure _
    exact hfound.bind hf
  | error failure => exact .error rfl

theorem bind_settled {x : Analysis α} {f : α → Analysis β} (hx : DecodesFirst x.run)
    (hf : ∀ a, Settled (f a).run) : DecodesFirst (x >>= f).run := by
  rw [ExceptT.run_bind]
  generalize x.run = i at hx
  induction i with
  | done result =>
    cases result with
    | ok a => exact (hf a).decodesFirst
    | error e => trivial
  | ask q next ih =>
    refine fun answer => Inquiry.Always.bind (hx answer) fun result hresult => ?_
    cases result with
    | ok a => exact (hf a).refuses
    | error e => exact .error (hresult e rfl)
  | note e next ih => exact ih hx

theorem failedTrade_bind {f : TradeFail → Analysis α} (hf : ∀ fail, Settled (f fail).run) :
    DecodesFirst (failedTrade hash receipt >>= f).run := by
  intro answer
  cases answer with
  | ok reason => exact (hf _).refuses
  | error failure => exact (hf _).refuses

/-- In a run, an error about the call data comes before any reading. -/
theorem asked_eq_nil {σ : Type} {answer : (r : Reading) → σ → Except ReadFailure r.Value × σ}
    {limit : Option Level} {i : Inquiry source (Except TradeError α)} (h : DecodesFirst i) {s : σ}
    {problem : CallProblem}
    (hresult : (Inquiry.outcome answer limit i s).result = some (.error (.inputDecode problem))) :
    (Inquiry.outcome answer limit i s).asked = [] := by
  induction i with
  | done result => rfl
  | ask q next ih => exact nomatch (h _).result hresult _ rfl
  | note e next ih =>
    rw [Inquiry.outcome_note] at hresult ⊢
    split at hresult
    · exact nomatch hresult
    · rename_i hwritten
      rw [if_neg hwritten]
      exact ih h hresult

end DecodesFirst

theorem pastDecoding_v3Trade {path : List Address} (h : 2 ≤ path.length) (amountOutMin : Word)
    (event : Event) : (V3.buildTrade receipt path amountOutMin event).Fails IsPastDecoding :=
  fails_v3Builder (fun _ => rfl) (refuses_v3Ends h).pastDecoding
    ((refuses_reported event).mono fun _ he => he.1)
    (fun _ _ pool => (refuses_price pool _).pastDecoding) amountOutMin

theorem pastDecoding_v2Trade {swap : SwapCall} (h : 2 ≤ swap.path.length) (fee : Nat)
    (event : Event) : (V2.buildTrade receipt fee swap event).Fails IsPastDecoding :=
  fails_v2Builder (fun _ => rfl) ((refuses_v2Amounts event).mono fun _ he => he.1) (refuses_v2Ends h)
    (fun _ _ _ _ => (refuses_executed _ _ _ _).pastDecoding) fee

theorem Steps.decodesFirst (hx : x.Refusing)
    (hbuild : ∀ call event, x.decode transaction.input = .ok call →
      (x.build receipt call event).Fails IsPastDecoding) :
    DecodesFirst (x.analyse transaction hash receipt Analysis.events).run := by
  unfold Steps.analyse
  cases receipt.status with
  | true =>
    refine .write_bind _ (.expect_bind fun call hcall => .write_bind _ (.events_bind fun found => ?_))
    refine (Fails.expect (hx.select found).pastDecoding).bind fun event => ?_
    exact (hbuild call event hcall).bind fun _ => .pure _
  | false => exact .failedTrade_bind fun fail => .write_bind _ ⟨_, rfl⟩

theorem decodesFirst_v2 (fee : Nat) :
    DecodesFirst (V2.analyse transaction hash receipt fee).run :=
  Steps.decodesFirst (V2.refusing_steps fee) fun _ event hswap =>
    pastDecoding_v2Trade (V2Router.two_le_of_decode hswap) fee event

theorem decodesFirst_v3 : DecodesFirst (V3.analyse transaction hash receipt).run :=
  Steps.decodesFirst V3.refusing_steps fun _ event hswap =>
    pastDecoding_v3Trade (V3Router.two_le_of_decode hswap) _ event

theorem decodesFirst_universal :
    DecodesFirst (Universal.analyseFetched transaction hash receipt).run :=
  Steps.decodesFirst Universal.refusing_steps fun _ event hswap =>
    pastDecoding_v3Trade (Universal.two_le_of_decodeSwap hswap) _ event

theorem decodesFirst_dispatch (c : Dispatch.Context) :
    DecodesFirst (Dispatch.analyseFetched c transaction hash receipt).run :=
  Dispatch.holds_by_family (motive := fun _ x => DecodesFirst x.run)
    (fun _ _ _ hx => .write_bind _ hx) (fun _ _ hx => .bind_settled hx settled_finish)
    (decodesFirst_v2 c.v2Fee) decodesFirst_v3 trivial fun _ _ => trivial

end Analysis

end DexTrade
