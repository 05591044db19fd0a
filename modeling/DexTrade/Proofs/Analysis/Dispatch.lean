import DexTrade.Analysis.Dispatch
import DexTrade.Proofs.Analysis.Run
import DexTrade.Proofs.Trade.Gas
/-!
# Runs of the dispatcher

The dispatcher reads nothing itself. It runs the analysis of the family that lists the destination
and then writes the finished record, whose line is the one entry of an analysis that may have no text.
To the run of the family that line makes a difference only then (`lineWritten_eq_self`). What is known
of the families' analyses is carried over to the dispatcher by `holds_by_family`.
-/
namespace DexTrade.Analysis.Dispatch

open Chain

variable {σ : Type} {answer : (r : Reading) → σ → Except ReadFailure r.Value × σ}
  {limit : Option Level} {events : TxHash → Analysis (List Event)} {transaction : Transaction}
  {hash : TxHash} {receipt : Receipt}

theorem writable_routerEntries (t : RouterTable) (chain : String) (router : Address) :
    ∀ e ∈ t.entries chain router, e.Writable := by
  unfold RouterTable.entries
  cases t.find? chain router with
  | none => exact fun e he => nomatch he
  | some found => exact Entry.writable_singleton rfl

theorem finished_text_eq_none_iff (hash : TxHash) (a : TradeAnalysis) :
    (finished hash a).text = none ↔ Decimal.maxMantissa < a.effectiveGasPrice.toNat := by
  unfold finished
  rw [Option.map_eq_none_iff, TradeAnalysis.line?_eq_none_iff, TradeAnalysis.gwei?,
    Gas.gwei?_eq_none_iff]

/-- The last step: the finished record is written down and returned. -/
def finish (hash : TxHash) (a : TradeAnalysis) : Analysis TradeAnalysis := do
  write [finished hash a]
  return a

/-- A record is returned unless its line is asked for and cannot be written. -/
theorem outcome_finish (a : TradeAnalysis) (s : σ) :
    outcome answer limit (finish hash a) s =
      ⟨if Level.info.isShown limit ∧ Decimal.maxMantissa < a.effectiveGasPrice.toNat then none
        else some (.ok a), [], s⟩ := by
  have htext := finished_text_eq_none_iff hash a
  unfold finish
  rw [outcome_entry_bind, outcome_pure]
  by_cases hbroken :
      Level.info.isShown limit = true ∧ Decimal.maxMantissa < a.effectiveGasPrice.toNat
  · rw [if_pos ⟨hbroken.1, htext.2 hbroken.2⟩, if_pos hbroken]
  · rw [if_neg fun h => hbroken ⟨h.1, htext.1 h.2⟩, if_neg hbroken]

/-- A run once the dispatcher has written the line about its record. A record is lost to a reader who
asks for its line although that cannot be written; an error has no line. -/
def lineWritten (limit : Option Level)
    (run : Outcome source (Except TradeError TradeAnalysis) σ) :
    Outcome source (Except TradeError TradeAnalysis) σ :=
  { run with
    result := run.result.bind fun
      | .error e => some (.error e)
      | .ok a =>
        if Level.info.isShown limit ∧ Decimal.maxMantissa < a.effectiveGasPrice.toNat then none
        else some (.ok a) }

theorem outcome_bind_finish (x : Analysis TradeAnalysis) (s : σ) :
    outcome answer limit (x >>= finish hash) s =
      lineWritten limit (outcome answer limit x s) := by
  rw [outcome_bind]
  unfold Outcome.andThen lineWritten
  cases (outcome answer limit x s).result with
  | none => rfl
  | some result =>
    cases result with
    | error e => simp only [List.append_nil, Option.bind_some]
    | ok a => simp only [outcome_finish, List.append_nil, Option.bind_some]

theorem lineWritten_eq_self {run : Outcome source (Except TradeError TradeAnalysis) σ}
    (h : ∀ a, run.result = some (.ok a) →
      Level.info.isShown limit = false ∨ a.effectiveGasPrice.toNat ≤ Decimal.maxMantissa) :
    lineWritten limit run = run := by
  rcases run with ⟨_ | e | a, asked, s⟩
  · rfl
  · rfl
  · have hwritable : ¬(Level.info.isShown limit = true ∧
        Decimal.maxMantissa < a.effectiveGasPrice.toNat) := by
      rintro ⟨hshown, hlarge⟩
      obtain hhidden | hsmall := h a rfl
      · exact absurd hshown (by rw [hhidden]; decide)
      · omega
    simp only [lineWritten, Option.bind_some, if_neg hwritable]

theorem lineWritten_error_iff {run : Outcome source (Except TradeError TradeAnalysis) σ}
    {e : TradeError} :
    (lineWritten limit run).result = some (.error e) ↔ run.result = some (.error e) := by
  rcases run with ⟨_ | e' | a, asked, s⟩
  · exact Iff.rfl
  · exact Iff.rfl
  · simp only [lineWritten, Option.bind_some]
    split <;> simp

/-- A router that the table does not list is as good as none. -/
theorem outcome_analyseFetched (c : Context) (s : σ) :
    outcome answer limit (analyseFetched c transaction hash receipt events) s =
      lineWritten limit (outcome answer limit
        (analyseAs c ((transaction.destination.map (c.routers.classify c.chain)).getD .unknown)
          transaction hash receipt events) s) := by
  unfold analyseFetched
  cases hdestination : transaction.destination with
  | none =>
    rw [Option.map_none, Option.getD_none, analyseAs, hdestination]
    rfl
  | some router =>
    rw [Option.map_some, Option.getD_some, outcome_write_bind (writable_routerEntries _ _ _),
      outcome_write_bind (Entry.writable_singleton (e := dispatching _ _ _) rfl)]
    exact outcome_bind_finish _ s

theorem outcome_of_family {c : Context} {kind : RouterKind}
    (h : transaction.destination.map (c.routers.classify c.chain) = some kind) (s : σ) :
    outcome answer limit (analyseFetched c transaction hash receipt events) s =
      lineWritten limit
        (outcome answer limit (analyseAs c kind transaction hash receipt events) s) := by
  rw [outcome_analyseFetched, h, Option.getD_some]

/-- To go through the dispatcher's branches: what holds of each family's analysis, of the refusals, and
still with entries written before and the finished record after, holds of the dispatcher. -/
theorem holds_by_family {motive : Option RouterKind → Analysis TradeAnalysis → Prop} {c : Context}
    (hwrite : ∀ family entries x, motive family x → motive family (write entries >>= fun _ => x))
    (hfinish : ∀ family x, motive family x → motive family (x >>= finish hash))
    (hv2 : motive (some .v2) (V2.analyse transaction hash receipt c.v2Fee events))
    (hv3 : motive (some .v3) (V3.analyse transaction hash receipt events))
    (huniversal : motive (some .universal) (expect (.error (.unsupported .universalRouter))))
    (hunknown : ∀ family destination,
      motive family (expect (.error (.unrecognizedRouter c.chain destination)))) :
    motive (transaction.destination.map (c.routers.classify c.chain))
      (analyseFetched c transaction hash receipt events) := by
  unfold analyseFetched
  cases transaction.destination with
  | none => exact hunknown none none
  | some router =>
    rw [Option.map_some]
    refine hwrite _ _ _ (hwrite _ _ _ (hfinish _ _ ?_))
    cases c.routers.classify c.chain router with
    | v2 => exact hv2
    | v3 => exact hv3
    | universal => exact huniversal
    | unknown => exact hunknown _ _

/-- What the analysis of each family always returns, the dispatcher returns for that family. -/
theorem returns_by_family {P : Option RouterKind → TradeAnalysis → Prop} {c : Context}
    (hv2 : (V2.analyse transaction hash receipt c.v2Fee events).Returns (P (some .v2)))
    (hv3 : (V3.analyse transaction hash receipt events).Returns (P (some .v3))) :
    (analyseFetched c transaction hash receipt events).Returns
      (P (transaction.destination.map (c.routers.classify c.chain))) :=
  holds_by_family (motive := fun family x => x.Returns (P family))
    (fun _ _ _ hx => .after fun _ => hx)
    (fun _ _ hx => .bind hx fun _ ha => .after fun _ => .pure ha) hv2 hv3 (.error _)
    fun _ _ => .error _

/-- What the analyses of both families always return, the dispatcher always returns. -/
theorem returns_analyseFetched {P : TradeAnalysis → Prop} {c : Context}
    (hv2 : (V2.analyse transaction hash receipt c.v2Fee events).Returns P)
    (hv3 : (V3.analyse transaction hash receipt events).Returns P) :
    (analyseFetched c transaction hash receipt events).Returns P :=
  returns_by_family (P := fun _ => P) hv2 hv3

end DexTrade.Analysis.Dispatch
