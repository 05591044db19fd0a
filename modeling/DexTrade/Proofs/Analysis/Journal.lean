import DexTrade.Proofs.Analysis.Executed
import DexTrade.Proofs.Analysis.Status
/-!
# Readers of the journal

Following an analysis in its journal changes nothing about it, with one exception. Every entry that is
written on the way has a text, so whether it is asked for makes no difference (`IsWritable`). The line
about the finished record is written last and may have none: then the reader who asks for it loses a
record that is there for everybody else (`journal_does_not_interfere`).
-/
namespace DexTrade.Analysis

open Chain

variable {α β σ Call : Type} {answer : (r : Reading) → σ → Except ReadFailure r.Value × σ}
  {limit : Option Level} {events : TxHash → Analysis (List Event)} {transaction : Transaction}
  {hash : TxHash} {receipt : Receipt} {x : Steps Call}

/-- A run that nobody follows has a result. -/
theorem ended_unread (x : Analysis α) (s : σ) : (outcome answer none x s).result ≠ none :=
  Inquiry.result_ne_none_of_unread (S := source) answer x.run s

/-! ## Entries that can be written -/

/-- Every entry of an analysis can be written, whatever is read. -/
def IsWritable (x : Analysis α) : Prop :=
  x.run.IsWritable

namespace IsWritable

protected theorem pure (a : α) : IsWritable (pure a) :=
  trivial

theorem expect (result : Except TradeError α) : IsWritable (Analysis.expect result) :=
  trivial

protected theorem bind {x : Analysis α} {f : α → Analysis β} (hx : IsWritable x)
    (hf : ∀ a, IsWritable (f a)) : IsWritable (x >>= f) := by
  unfold IsWritable
  rw [ExceptT.run_bind]
  refine Inquiry.IsWritable.bind hx fun result => ?_
  cases result with
  | ok a => exact hf a
  | error e => trivial

theorem read (r : Reading) : IsWritable (Analysis.read r) :=
  fun _ => trivial

theorem attempt (r : Reading) : IsWritable (Analysis.attempt r) :=
  fun _ => trivial

theorem write {entries : List Entry} (h : ∀ e ∈ entries, e.Writable) :
    IsWritable (Analysis.write entries) := by
  induction entries with
  | nil => trivial
  | cons e rest ih =>
    exact ⟨h e List.mem_cons_self, ih fun e he => h e (List.mem_cons_of_mem _ he)⟩

theorem note {e : Entry} (h : e.Writable) : IsWritable (Analysis.write [e]) :=
  write (Entry.writable_singleton h)

/-- Whoever reads the journal, the run is the same. -/
theorem undisturbed {x : Analysis α} (h : IsWritable x)
    (answer : (r : Reading) → σ → Except ReadFailure r.Value × σ) (limit : Option Level) (s : σ) :
    outcome answer limit x s = outcome answer none x s :=
  Inquiry.IsWritable.outcome_congr h answer limit none s

theorem ended {x : Analysis α} (h : IsWritable x)
    (answer : (r : Reading) → σ → Except ReadFailure r.Value × σ) (limit : Option Level) (s : σ) :
    (outcome answer limit x s).result ≠ none := by
  rw [h.undisturbed answer limit s]
  exact ended_unread x s

end IsWritable

theorem writable_events (hash : TxHash) : IsWritable (Analysis.events hash) :=
  .bind (.read _) fun _ => .bind (.write (writable_eventEntries _)) fun _ => .pure _

theorem writable_failedTrade : IsWritable (failedTrade hash receipt) := by
  refine .bind (.attempt _) fun reason => ?_
  cases reason with
  | ok reason => exact .pure _
  | error failure => exact .bind (.note rfl) fun _ => .pure _

theorem writable_v3Trade (path : List Address) (amountOutMin : Word) (event : Event) :
    IsWritable (V3.buildTrade receipt path amountOutMin event) := by
  unfold V3.buildTrade
  refine .bind (.expect _) fun (tokenIn, tokenOut) => .bind (.expect _) fun reported => ?_
  refine .bind (.read _) fun pool => .bind (.read _) fun inToken => .bind (.read _) fun outToken => ?_
  exact .bind (.expect _) fun price => .bind (.note rfl) fun _ => .pure _

theorem writable_v2Trade (fee : Nat) (swap : SwapCall) (event : Event) :
    IsWritable (V2.buildTrade receipt fee swap event) := by
  unfold V2.buildTrade
  refine .bind (.expect _) fun amounts => .bind (.expect _) fun (tokenIn, tokenOut) => ?_
  refine .bind (.read _) fun inToken => .bind (.read _) fun outToken => ?_
  refine .bind (.expect _) fun price => .bind (.read _) fun (token0, token1) => ?_
  exact .bind (.note rfl) fun _ => .pure _

/-! ## Analyses of the families -/

theorem Steps.isWritable (hx : x.Writable)
    (hbuild : ∀ call event, IsWritable (x.build receipt call event))
    (hevents : IsWritable (events hash)) :
    IsWritable (x.analyse transaction hash receipt events) := by
  unfold Steps.analyse
  cases receipt.status with
  | true =>
    refine .bind (.write (hx.entries _)) fun _ => .bind (.expect _) fun call => ?_
    refine .bind (.note (hx.called hash call)) fun _ => .bind hevents fun found => ?_
    exact .bind (.expect _) fun event => .bind (hbuild call event) fun trade => .pure _
  | false =>
    exact .bind writable_failedTrade fun fail => .bind (.write (hx.reverted hash fail)) fun _ =>
      .pure _

theorem writable_v2 (hevents : IsWritable (events hash)) (fee : Nat) :
    IsWritable (V2.analyse transaction hash receipt fee events) :=
  Steps.isWritable (V2.writable_steps fee) (writable_v2Trade fee) hevents

theorem writable_v3 (hevents : IsWritable (events hash)) :
    IsWritable (V3.analyse transaction hash receipt events) :=
  Steps.isWritable V3.writable_steps (fun _ => writable_v3Trade _ _) hevents

theorem writable_universal (hevents : IsWritable (events hash)) :
    IsWritable (Universal.analyseFetched transaction hash receipt events) :=
  Steps.isWritable Universal.writable_steps (fun _ => writable_v3Trade _ _) hevents

theorem Dispatch.writable_analyseAs (c : Context) (kind : RouterKind)
    (hevents : IsWritable (events hash)) :
    IsWritable (analyseAs c kind transaction hash receipt events) := by
  cases kind with
  | v2 => exact writable_v2 hevents c.v2Fee
  | v3 => exact writable_v3 hevents
  | universal => exact .expect _
  | unknown => exact .expect _

/-- A transaction and its receipt are fetched without an entry. -/
theorem writable_fetched {f : Transaction → Receipt → Analysis α}
    (hf : ∀ t r, IsWritable (f t r)) :
    IsWritable (Analysis.read (.transaction hash) >>= fun t =>
      Analysis.read (.receipt hash) >>= fun r => f t r) :=
  .bind (.read _) fun t => .bind (.read _) fun r => hf t r

/-! ## The gas price of a record -/

theorem gasPrice_failedTrade :
    (failedTrade hash receipt).Returns fun fail =>
      fail.effectiveGasPrice = receipt.effectiveGasPrice := by
  refine .after fun reason => ?_
  cases reason with
  | ok reason => exact .pure rfl
  | error failure => exact .after fun _ => .pure rfl

theorem gasPrice_v2Trade (fee : Nat) (swap : SwapCall) (event : Event) :
    (V2.buildTrade receipt fee swap event).Returns fun trade =>
      trade.effectiveGasPrice = receipt.effectiveGasPrice := by
  repeat refine .after fun _ => ?_
  exact .pure rfl

theorem gasPrice_v3Trade (path : List Address) (amountOutMin : Word) (event : Event) :
    (V3.buildTrade receipt path amountOutMin event).Returns fun trade =>
      trade.effectiveGasPrice = receipt.effectiveGasPrice := by
  repeat refine .after fun _ => ?_
  exact .pure rfl

theorem Steps.gasPrice
    (hbuild : ∀ call event, (x.build receipt call event).Returns fun trade =>
      trade.effectiveGasPrice = receipt.effectiveGasPrice) :
    (x.analyse transaction hash receipt events).Returns fun a =>
      a.effectiveGasPrice = receipt.effectiveGasPrice := by
  unfold Steps.analyse
  cases receipt.status with
  | true =>
    refine .after fun _ => .after fun call => .after fun _ => .after fun _ => .after fun event => ?_
    exact (hbuild call event).bind fun trade htrade => .pure htrade
  | false => exact gasPrice_failedTrade.bind fun fail hfail => .after fun _ => .pure hfail

theorem gasPrice_v2 (fee : Nat) :
    (V2.analyse transaction hash receipt fee events).Returns fun a =>
      a.effectiveGasPrice = receipt.effectiveGasPrice :=
  Steps.gasPrice (gasPrice_v2Trade fee)

theorem gasPrice_v3 :
    (V3.analyse transaction hash receipt events).Returns fun a =>
      a.effectiveGasPrice = receipt.effectiveGasPrice :=
  Steps.gasPrice fun _ => gasPrice_v3Trade _ _

theorem gasPrice_universal :
    (Universal.analyseFetched transaction hash receipt events).Returns fun a =>
      a.effectiveGasPrice = receipt.effectiveGasPrice :=
  Steps.gasPrice fun _ => gasPrice_v3Trade _ _

theorem gasPrice_dispatch (c : Dispatch.Context) :
    (Dispatch.analyseFetched c transaction hash receipt events).Returns fun a =>
      a.effectiveGasPrice = receipt.effectiveGasPrice :=
  Dispatch.returns_analyseFetched (gasPrice_v2 c.v2Fee) gasPrice_v3

/-! ## The line about the record -/

namespace Dispatch

theorem lineWritten_none (run : Outcome source (Except TradeError TradeAnalysis) σ) :
    lineWritten none run = run :=
  lineWritten_eq_self fun _ _ => .inl rfl

/-- Of all entries a run with the dispatcher may break off at none but the last one. -/
theorem outcome_followed (c : Context) (hevents : IsWritable (events hash)) (s : σ) :
    outcome answer limit (analyseFetched c transaction hash receipt events) s =
      lineWritten limit
        (outcome answer none (analyseFetched c transaction hash receipt events) s) := by
  rw [outcome_analyseFetched, outcome_analyseFetched, lineWritten_none,
    (writable_analyseAs c _ hevents).undisturbed answer limit s]

theorem outcome_read_followed {r : Reading} {f : r.Value → Analysis TradeAnalysis}
    (hf : ∀ value s,
      outcome answer limit (f value) s = lineWritten limit (outcome answer none (f value) s))
    (s : σ) :
    outcome answer limit (Analysis.read r >>= f) s =
      lineWritten limit (outcome answer none (Analysis.read r >>= f) s) := by
  cases hserved : (answer r s).1 with
  | error failure =>
    rw [outcome_bind_of_error (outcome_read_of_error hserved),
      outcome_bind_of_error (outcome_read_of_error hserved)]
    rfl
  | ok value =>
    rw [outcome_bind_of_ok (outcome_read_of_ok hserved),
      outcome_bind_of_ok (outcome_read_of_ok hserved), hf]
    rfl

end Dispatch

/-! ## Followed runs -/

/-- A reader who asks for the line about the record loses it to a gas price that is no decimal. -/
def LosesRecord (limit : Option Level) (price : Option Wei)
    (unread : Outcome source (Except TradeError TradeAnalysis) σ) : Prop :=
  (∃ a, unread.result = some (.ok a)) ∧ (∃ p, price = some p ∧ Nat.pow 2 96 ≤ p.toNat) ∧
    limit ∈ [some .info, some .debug, some .trace]

/-- A run that is followed in the journal, next to the same run where nobody reads it. -/
structure Followed (limit : Option Level) (hash : TxHash) (price : Option Wei)
    (unread followed : Outcome source (Except TradeError TradeAnalysis) σ) : Prop where
  ended : unread.result ≠ none
  kept : ¬LosesRecord limit price unread → followed = unread
  lost : LosesRecord limit price unread → followed = { unread with result := none }
  /-- It breaks off at the line about the finished record. -/
  unwritten : LosesRecord limit price unread →
    ∀ a, unread.result = some (.ok a) → (Dispatch.finished hash a).line = none

theorem isShown_info_iff :
    Level.info.isShown limit = true ↔ limit ∈ [some .info, some .debug, some .trace] := by
  rcases limit with _ | _ | _ | _ | _ | _ <;> decide

theorem Followed.of_lineWritten {price : Option Wei}
    {unread : Outcome source (Except TradeError TradeAnalysis) σ} (hended : unread.result ≠ none)
    (hprice : ∀ a, unread.result = some (.ok a) → price = some a.effectiveGasPrice) :
    Followed limit hash price unread (Dispatch.lineWritten limit unread) := by
  have hbroken {a : TradeAnalysis} (ha : unread.result = some (.ok a)) :
      LosesRecord limit price unread ↔
        Level.info.isShown limit = true ∧ Decimal.maxMantissa < a.effectiveGasPrice.toNat := by
    unfold LosesRecord
    rw [hprice a ha, ← isShown_info_iff]
    constructor
    · rintro ⟨-, ⟨p, hp, hlarge⟩, hshown⟩
      obtain rfl := Option.some.inj hp
      exact ⟨hshown, hlarge⟩
    · rintro ⟨hshown, hlarge⟩
      exact ⟨⟨a, ha⟩, ⟨_, rfl, hlarge⟩, hshown⟩
  refine ⟨hended, fun hkept => ?_, fun hlost => ?_, fun hlost a ha => ?_⟩
  · refine Dispatch.lineWritten_eq_self fun a ha => ?_
    rw [hbroken ha, not_and_or, Bool.not_eq_true, Nat.not_lt] at hkept
    exact hkept
  · obtain ⟨a, ha⟩ := hlost.1
    simp only [Dispatch.lineWritten, ha, Option.bind_some, if_pos ((hbroken ha).1 hlost)]
  · have htext := (Dispatch.finished_text_eq_none_iff hash a).2 ((hbroken ha).1 hlost).2
    simp only [Entry.line, htext, Option.map_none]

/-- Only the readers of records have anything to lose. -/
theorem Followed.result_ne_none {price : Option Wei}
    {unread followed : Outcome source (Except TradeError TradeAnalysis) σ}
    (h : Followed limit hash price unread followed)
    (hquiet : limit ∈ [none, some .error, some .warn]) : followed.result ≠ none := by
  have hkept : ¬LosesRecord limit price unread := by
    rintro ⟨-, -, hshown⟩
    simp only [List.mem_cons, List.not_mem_nil, or_false] at hquiet hshown
    rcases hquiet with rfl | rfl | rfl <;> simp at hshown
  rw [h.kept hkept]
  exact h.ended

theorem followed_dispatch (c : Dispatch.Context) (hevents : IsWritable (events hash)) (s : σ) :
    Followed limit hash (some receipt.effectiveGasPrice)
      (outcome answer none (Dispatch.analyseFetched c transaction hash receipt events) s)
      (outcome answer limit (Dispatch.analyseFetched c transaction hash receipt events) s) := by
  have hline : outcome answer limit (Dispatch.analyseFetched c transaction hash receipt events) s =
      Dispatch.lineWritten limit
        (outcome answer none (Dispatch.analyseFetched c transaction hash receipt events) s) :=
    Dispatch.outcome_followed c hevents s
  rw [hline]
  exact .of_lineWritten (ended_unread _ s) fun a ha =>
    congrArg some ((gasPrice_dispatch c).result ha).symm

/-- The gas price is that of the receipt that is served. -/
theorem followed_dispatch_fetched (c : Dispatch.Context) (hevents : IsWritable (events hash)) (s : σ) :
    Followed limit hash
      ((answer (.receipt hash) (answer (.transaction hash) s).2).1.toOption.map
        Receipt.effectiveGasPrice)
      (outcome answer none (Dispatch.analyse c hash events) s)
      (outcome answer limit (Dispatch.analyse c hash events) s) := by
  have hline : outcome answer limit (Dispatch.analyse c hash events) s =
      Dispatch.lineWritten limit (outcome answer none (Dispatch.analyse c hash events) s) :=
    Dispatch.outcome_read_followed (fun t s =>
      Dispatch.outcome_read_followed (fun r s => Dispatch.outcome_followed c hevents s) s) s
  rw [hline]
  refine .of_lineWritten (ended_unread _ s) fun a ha => ?_
  obtain ⟨r, hserved, hprice⟩ := receipt_of_fetched (fun t r => gasPrice_dispatch c) ha
  simp only [hserved, Except.toOption, Option.map_some, hprice]

/-- The universal router's analysis comes to the same result after the same readings whoever reads the
journal. So does the dispatcher's, unless it ends with a record whose gas price is at least `2 ^ 96`
and the line about it is asked for: then it breaks off at that line. Where only warnings or nothing
are asked for, each analysis comes to a result. All this is for chain data that writes nothing without
a text when it finds the events, as the logs of a receipt do (`writable_events`). -/
theorem journal_does_not_interfere (answer : (r : Reading) → σ → Except ReadFailure r.Value × σ)
    (limit : Option Level) (events : TxHash → Analysis (List Event)) (c : Dispatch.Context)
    (transaction : Transaction) (hash : TxHash) (receipt : Receipt) (s : σ)
    (hevents : IsWritable (events hash)) :
    let served := (answer (.receipt hash) (answer (.transaction hash) s).2).1.toOption
    outcome answer limit (Universal.analyseFetched transaction hash receipt events) s =
      outcome answer none (Universal.analyseFetched transaction hash receipt events) s ∧
    outcome answer limit (Universal.analyse hash events) s =
      outcome answer none (Universal.analyse hash events) s ∧
    Followed limit hash (some receipt.effectiveGasPrice)
      (outcome answer none (Dispatch.analyseFetched c transaction hash receipt events) s)
      (outcome answer limit (Dispatch.analyseFetched c transaction hash receipt events) s) ∧
    Followed limit hash (served.map Receipt.effectiveGasPrice)
      (outcome answer none (Dispatch.analyse c hash events) s)
      (outcome answer limit (Dispatch.analyse c hash events) s) ∧
    (limit ∈ [none, some .error, some .warn] →
      ∀ x ∈ [Universal.analyseFetched transaction hash receipt events, Universal.analyse hash events,
        Dispatch.analyseFetched c transaction hash receipt events, Dispatch.analyse c hash events],
        (outcome answer limit x s).result ≠ none) := by
  intro served
  have hfetched : IsWritable (Universal.analyse hash events) :=
    writable_fetched fun t r => writable_universal hevents
  refine ⟨(writable_universal hevents).undisturbed answer limit s,
    hfetched.undisturbed answer limit s, followed_dispatch c hevents s,
    followed_dispatch_fetched c hevents s, fun hquiet x hx => ?_⟩
  simp only [List.mem_cons, List.not_mem_nil, or_false] at hx
  rcases hx with rfl | rfl | rfl | rfl
  · exact (writable_universal hevents).ended answer limit s
  · exact hfetched.ended answer limit s
  · exact (followed_dispatch c hevents s).result_ne_none hquiet
  · exact (followed_dispatch_fetched c hevents s).result_ne_none hquiet

/-- A transaction reverted at a gas price of `2 ^ 96`. Its record is there for a reader of warnings and
lost to one of the finished records, while that of the universal router's analysis is there for all. -/
theorem record_lost_to_its_line :
    let hash : TxHash := ⟨0x5af1⟩
    let transaction : Transaction := ⟨⟨0xa11ce⟩, some ⟨0x2626⟩, [0xde, 0xad], 0⟩
    let receipt : Receipt := ⟨false, 150000, 0x1000000000000000000000000, some 7, []⟩
    let c : Dispatch.Context := ⟨⟨[("base", ⟨[], [⟨⟨0x2626⟩, "SwapRouter02"⟩], []⟩)]⟩, "Base", 30⟩
    let data : Chain.Data
      | .transaction _ => .ok transaction
      | .receipt _ => .ok receipt
      | _ => .error ⟨"no archive", []⟩
    let answer (r : Reading) (s : Unit) := (data r, s)
    let record : TradeAnalysis := .fail ⟨150000, 0x1000000000000000000000000, none⟩
    let run (limit : Option Level) := outcome answer limit (Dispatch.analyse c hash) ()
    let readings : List Reading := [.transaction hash, .receipt hash, .revertReason hash]
    run (some .warn) = ⟨some (.ok record), readings, ()⟩ ∧
      run (some .info) = ⟨none, readings, ()⟩ ∧
      outcome answer (some .info) (Universal.analyse hash) () =
        ⟨some (.ok record), readings, ()⟩ := by
  intro hash transaction receipt c data answer record run readings
  have hfamily : transaction.destination.map (c.routers.classify c.chain) = some .v3 := by
    decide +kernel
  have hfetched : outcome answer none (Dispatch.analyseFetched c transaction hash receipt) () =
      ⟨some (.ok record), [.revertReason hash], ()⟩ := by
    have hreverted : outcome answer none (V3.analyse transaction hash receipt) () =
        failed answer hash receipt () :=
      Steps.outcome_of_reverted V3.writable_steps rfl ()
    rw [Dispatch.outcome_of_family hfamily, Dispatch.lineWritten_none]
    exact hreverted
  have hunread : run none = ⟨some (.ok record), readings, ()⟩ := by
    have htransaction : (answer (.transaction hash) ()).1 = .ok transaction := rfl
    have hreceipt : (answer (.receipt hash) ()).1 = .ok receipt := rfl
    refine (outcome_bind_of_ok (outcome_read_of_ok htransaction) _).trans ?_
    rw [outcome_bind_of_ok (outcome_read_of_ok hreceipt), hfetched]
    rfl
  have hlost : LosesRecord (some .info) (some receipt.effectiveGasPrice) (run none) :=
    ⟨⟨record, by rw [hunread]⟩, ⟨_, rfl, by decide⟩, by decide⟩
  have hkept : ¬LosesRecord (some .warn) (some receipt.effectiveGasPrice) (run none) :=
    fun h => absurd h.2.2 (by decide)
  obtain ⟨-, huniversal, -, hinfo, -⟩ := journal_does_not_interfere answer (some .info)
    Analysis.events c transaction hash receipt () (writable_events hash)
  obtain ⟨-, -, -, hwarn, -⟩ := journal_does_not_interfere answer (some .warn)
    Analysis.events c transaction hash receipt () (writable_events hash)
  refine ⟨(hwarn.kept hkept).trans hunread, ?_, ?_⟩
  · have hbroken : run (some .info) = { run none with result := none } := hinfo.lost hlost
    rw [hbroken, hunread]
  · rw [huniversal]
    rfl

end DexTrade.Analysis
