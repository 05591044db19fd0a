import DexTrade.Chain.Basic
import DexTrade.Proofs.Inquiry
/-!
# Runs of analyses

A run of an analysis on chain data that may change with every reading. Each step has an equation for
what it reads and leaves, and a run of two steps is the run of the first, then that of the second
unless the first ended with an error. `Returns` is about all runs at once.
-/
namespace DexTrade.Analysis

open Chain

variable {α β σ : Type}

/-- What an analysis comes to on chain data that may keep a state. -/
def outcome (answer : (r : Reading) → σ → Except ReadFailure r.Value × σ) (limit : Option Level)
    (x : Analysis α) (s : σ) : Outcome source (Except TradeError α) σ :=
  Inquiry.outcome (S := source) answer limit x.run s

/-- A step that has its value is no step. -/
theorem expect_ok_bind (a : α) (f : α → Analysis β) : (expect (.ok a) >>= f) = f a :=
  rfl

section Outcome

variable (answer : (r : Reading) → σ → Except ReadFailure r.Value × σ) (limit : Option Level)

theorem outcome_pure (a : α) (s : σ) :
    outcome answer limit (pure a) s = ⟨some (.ok a), [], s⟩ :=
  rfl

theorem outcome_expect (result : Except TradeError α) (s : σ) :
    outcome answer limit (expect result) s = ⟨some result, [], s⟩ :=
  rfl

theorem outcome_read (r : Reading) (s : σ) :
    outcome answer limit (read r) s =
      ⟨some ((answer r s).1.mapError .failedRead), [r], (answer r s).2⟩ :=
  rfl

theorem outcome_attempt (r : Reading) (s : σ) :
    outcome answer limit (attempt r) s = ⟨some (.ok (answer r s).1), [r], (answer r s).2⟩ :=
  rfl

theorem outcome_bind (x : Analysis α) (f : α → Analysis β) (s : σ) :
    outcome answer limit (x >>= f) s =
      (outcome answer limit x s).andThen fun result s =>
        match result with
        | .ok a => outcome answer limit (f a) s
        | .error e => ⟨some (.error e), [], s⟩ := by
  unfold outcome
  rw [ExceptT.run_bind, Inquiry.outcome_bind]
  congr 1
  funext result s
  cases result with
  | ok a => rfl
  | error e => rfl

variable {answer limit}

/-- After a step that went well the rest of the analysis runs on the state it left. -/
theorem outcome_bind_of_ok {x : Analysis α} {a : α} {s s' : σ} {asked : List Reading}
    (h : outcome answer limit x s = ⟨some (.ok a), asked, s'⟩) (f : α → Analysis β) :
    outcome answer limit (x >>= f) s =
      ⟨(outcome answer limit (f a) s').result, asked ++ (outcome answer limit (f a) s').asked,
        (outcome answer limit (f a) s').state⟩ := by
  rw [outcome_bind, h, Outcome.andThen_some]

theorem outcome_bind_of_silent {x : Analysis α} {a : α} {s : σ}
    (h : outcome answer limit x s = ⟨some (.ok a), [], s⟩) (f : α → Analysis β) :
    outcome answer limit (x >>= f) s = outcome answer limit (f a) s :=
  outcome_bind_of_ok h f

theorem outcome_bind_of_error {x : Analysis α} {e : TradeError} {s s' : σ} {asked : List Reading}
    (h : outcome answer limit x s = ⟨some (.error e), asked, s'⟩) (f : α → Analysis β) :
    outcome answer limit (x >>= f) s = ⟨some (.error e), asked, s'⟩ := by
  rw [outcome_bind, h, Outcome.andThen_some]
  simp only [List.append_nil]

theorem outcome_write {entries : List Entry} (h : ∀ e ∈ entries, e.Writable) (s : σ) :
    outcome answer limit (write entries) s = ⟨some (.ok ()), [], s⟩ := by
  unfold outcome write
  rw [ExceptT.run_lift, map_eq_pure_bind, Inquiry.outcome_bind, Inquiry.outcome_write _ _ h]
  rfl

theorem outcome_write_bind {entries : List Entry} (h : ∀ e ∈ entries, e.Writable)
    (f : Unit → Analysis β) (s : σ) :
    outcome answer limit (write entries >>= f) s = outcome answer limit (f ()) s :=
  outcome_bind_of_silent (outcome_write h s) f

/-- An entry without a text breaks the run off if it is shown. -/
theorem outcome_entry_bind (e : Entry) (f : Unit → Analysis β) (s : σ) :
    outcome answer limit (write [e] >>= f) s =
      if e.level.isShown limit ∧ e.text = none then ⟨none, [], s⟩
      else outcome answer limit (f ()) s := by
  have hnote : (write [e] >>= f).run = .note e (f ()).run := rfl
  unfold outcome
  rw [hnote, Inquiry.outcome_note]

/-- The rest of the analysis runs unless the result is an error. -/
theorem outcome_expect_bind (result : Except TradeError α) (f : α → Analysis β) (s : σ) :
    outcome answer limit (expect result >>= f) s =
      match result with
      | .ok a => outcome answer limit (f a) s
      | .error e => ⟨some (.error e), [], s⟩ := by
  cases result <;> rfl

theorem outcome_read_of_ok {r : Reading} {value : r.Value} {s : σ}
    (h : (answer r s).1 = .ok value) :
    outcome answer limit (read r) s = ⟨some (.ok value), [r], (answer r s).2⟩ := by
  rw [outcome_read, h]
  rfl

theorem outcome_read_of_error {r : Reading} {failure : ReadFailure} {s : σ}
    (h : (answer r s).1 = .error failure) :
    outcome answer limit (read r) s =
      ⟨some (.error (.failedRead failure)), [r], (answer r s).2⟩ := by
  rw [outcome_read, h]
  rfl

/-- An entry with a text changes nothing. -/
theorem outcome_debug_bind (text : String) (f : Unit → Analysis β) (s : σ) :
    outcome answer limit (write [.debug text] >>= f) s = outcome answer limit (f ()) s :=
  outcome_write_bind (Entry.writable_singleton (e := .debug text) rfl) f s

theorem result_expect_bind_iff {result : Except TradeError α} {f : α → Analysis β} {s : σ} {b : β} :
    (outcome answer limit (expect result >>= f) s).result = some (.ok b) ↔
      ∃ a, result = .ok a ∧ (outcome answer limit (f a) s).result = some (.ok b) := by
  rw [outcome_expect_bind]
  cases result with
  | ok a => simp only [Except.ok.injEq, exists_eq_left']
  | error e => simp only [Option.some.injEq, reduceCtorEq, false_and, exists_false]

/-- A reading that went well, and what the analysis came to after it. -/
theorem result_read_bind_iff {r : Reading} {f : r.Value → Analysis β} {s : σ} {b : β} :
    (outcome answer limit (read r >>= f) s).result = some (.ok b) ↔
      ∃ value, (answer r s).1 = .ok value ∧
        (outcome answer limit (f value) (answer r s).2).result = some (.ok b) := by
  rw [outcome_bind, outcome_read]
  cases (answer r s).1 with
  | ok value => exact ⟨fun h => ⟨value, rfl, h⟩, fun ⟨_, hvalue, h⟩ => Except.ok.inj hvalue ▸ h⟩
  | error failure => exact ⟨nofun, nofun⟩

theorem ok_of_outcome_read_bind {r : Reading} {f : r.Value → Analysis β} {s : σ} {b : β}
    (h : (outcome answer limit (read r >>= f) s).result = some (.ok b)) :
    ∃ value, (answer r s).1 = .ok value ∧
      (outcome answer limit (f value) (answer r s).2).result = some (.ok b) :=
  result_read_bind_iff.1 h

end Outcome

/-! ## All results -/

/-- Whatever an analysis returns has a property; it may also end with an error. -/
def Returns (P : α → Prop) (x : Analysis α) : Prop :=
  x.run.Always fun result => ∀ a, result = .ok a → P a

namespace Returns

variable {P : α → Prop} {Q : β → Prop}

protected theorem pure {a : α} (h : P a) : Returns P (pure a) := by
  intro b hb
  exact Except.ok.inj hb ▸ h

theorem error (e : TradeError) : Returns P (expect (.error e)) := by
  intro b hb
  exact nomatch hb

protected theorem bind {x : Analysis α} {f : α → Analysis β} (hx : x.Returns P)
    (hf : ∀ a, P a → (f a).Returns Q) : (x >>= f).Returns Q := by
  unfold Returns
  rw [ExceptT.run_bind]
  refine Inquiry.Always.bind hx fun result hresult => ?_
  cases result with
  | ok a => exact hf a (hresult a rfl)
  | error e => exact Returns.error e

/-- What a step expects to be there, it returns. -/
protected theorem expect {result : Except TradeError α} :
    Returns (fun a => result = .ok a) (expect result) :=
  fun _ ha => ha

/-- What the last step always returns, the analysis always returns. -/
theorem after {x : Analysis α} {f : α → Analysis β} (hf : ∀ a, (f a).Returns Q) :
    (x >>= f).Returns Q := by
  have hx : x.Returns fun _ => True := by
    unfold Returns
    simpa using Inquiry.always_true x.run
  exact hx.bind fun a _ => hf a

/-- What is true of every value is true of what an analysis returns. -/
theorem of_forall (h : ∀ a, P a) (x : Analysis α) : x.Returns P := by
  have hpure : (x >>= pure).Returns P := .after fun a => .pure (h a)
  rwa [bind_pure] at hpure

protected theorem mono {x : Analysis α} {Q : α → Prop} (hx : x.Returns P) (h : ∀ a, P a → Q a) :
    x.Returns Q := by
  have hpure : (x >>= pure).Returns Q := hx.bind fun a ha => .pure (h a ha)
  rwa [bind_pure] at hpure

theorem result {x : Analysis α} (h : x.Returns P)
    {answer : (r : Reading) → σ → Except ReadFailure r.Value × σ} {limit : Option Level} {s : σ}
    {a : α} (hresult : (outcome answer limit x s).result = some (.ok a)) : P a :=
  Inquiry.Always.result h hresult a rfl

/-- What is true of a result and the transaction and receipt at hand is true of those that were
fetched. -/
theorem of_fetched {answer : (r : Reading) → σ → Except ReadFailure r.Value × σ}
    {limit : Option Level} {f : Transaction → Receipt → Analysis α}
    {P : α → Transaction → Receipt → Prop} (hf : ∀ t r, (f t r).Returns fun a => P a t r)
    {hash : TxHash} {s : σ} {a : α}
    (h : (outcome answer limit
      (read (.transaction hash) >>= fun t => read (.receipt hash) >>= fun r => f t r) s).result =
        some (.ok a)) :
    ∃ t r, (answer (.transaction hash) s).1 = .ok t ∧
      (answer (.receipt hash) (answer (.transaction hash) s).2).1 = .ok r ∧ P a t r := by
  obtain ⟨t, htransaction, h⟩ := ok_of_outcome_read_bind h
  obtain ⟨r, hreceipt, h⟩ := ok_of_outcome_read_bind h
  exact ⟨t, r, htransaction, hreceipt, (hf t r).result h⟩

end Returns

end DexTrade.Analysis
