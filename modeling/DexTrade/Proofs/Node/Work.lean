import DexTrade.Node.Session
import DexTrade.Proofs.Inquiry
/-!
# Work in a session

A node may answer anything: the same request differently each time, or nothing from some time on. What
a session with it comes to is its state, the tokens kept and all that was asked and answered. The work
behind a reading is composed of requests that are not about a token's own data and of lookups of
tokens (`Composed`), so whatever holds of these two holds of each reading.
-/
namespace DexTrade.Node

/-- Requests with the responses to them, oldest first. -/
abbrev History := List (Request × Response)

/-- What a node responds to a request, which may depend on all that was asked before. -/
abbrev Behaviour := History → Request → Response

namespace Behaviour

def answer (b : Behaviour) (q : Request) (h : History) : Response × History :=
  (b h q, h ++ [(q, b h q)])

/-- A node that always responds the same to a request. -/
def constant (node : Request → Response) : Behaviour :=
  fun _ => node

end Behaviour

/-! ## States of a session -/

structure State where
  tokens : TokenCache
  history : History

namespace State

def fresh : State := ⟨[], []⟩

/-- A request was answered. -/
def told (s : State) (q : Request) (r : Response) : State :=
  { s with history := s.history ++ [(q, r)] }

/-- A token was added. -/
def keep (s : State) (t : Token) : State :=
  { s with tokens := (t.address, t) :: s.tokens }

variable (s : State) (q : Request) (r : Response) (t : Token)

@[simp] theorem told_history : (s.told q r).history = s.history ++ [(q, r)] := rfl
@[simp] theorem keep_tokens : (s.keep t).tokens = (t.address, t) :: s.tokens := rfl
@[simp] theorem keep_history : (s.keep t).history = s.history := rfl

theorem lookup_keep_self : (s.keep t).tokens.lookup t.address = some t := by
  rw [keep_tokens, List.lookup_cons_self]

theorem lookup_keep_of_ne {a : Address} (h : a ≠ t.address) :
    (s.keep t).tokens.lookup a = s.tokens.lookup a := by
  rw [keep_tokens, List.lookup_cons, beq_false_of_ne h]

end State

/-! ## What work comes to -/

variable {α β : Type} {b : Behaviour} {s : State}

/-- The result of some work and the state after it. -/
def Work.conclude (b : Behaviour) (w : Work α) (s : State) : Except ReadFailure α × State :=
  let ((result, tokens), history) := Inquiry.conclude b.answer (w.start s.tokens) s.history
  (result, ⟨tokens, history⟩)

namespace Work

theorem start_bind (w : Work α) (f : α → Work β) (cache : TokenCache) :
    (w >>= f).start cache = w.start cache >>= fun (result, cache') =>
      match result with
      | .ok a => (f a).start cache'
      | .error failure => pure (.error failure, cache') := by
  change StateT.run (w.run >>= fun result => _) cache = _
  rw [StateT.run_bind]
  refine bind_congr fun (result, cache') => ?_
  cases result with
  | ok a => rfl
  | error failure => rfl

theorem conclude_ask (q : Request) :
    conclude b (ask q) s = (.ok (b s.history q), s.told q (b s.history q)) :=
  rfl

theorem conclude_bind_of_ok {w : Work α} {f : α → Work β} {a : α} {s' : State}
    (h : conclude b w s = (.ok a, s')) : conclude b (w >>= f) s = conclude b (f a) s' := by
  unfold conclude at h ⊢
  rw [start_bind, Inquiry.conclude_bind]
  generalize Inquiry.conclude b.answer (w.start s.tokens) s.history = o at h
  obtain ⟨⟨result, tokens⟩, history⟩ := o
  obtain ⟨rfl, rfl⟩ := Prod.mk.inj h
  rfl

theorem conclude_bind_of_error {w : Work α} {f : α → Work β} {failure : ReadFailure} {s' : State}
    (h : conclude b w s = (.error failure, s')) :
    conclude b (w >>= f) s = (.error failure, s') := by
  unfold conclude at h ⊢
  rw [start_bind, Inquiry.conclude_bind]
  generalize Inquiry.conclude b.answer (w.start s.tokens) s.history = o at h
  obtain ⟨⟨result, tokens⟩, history⟩ := o
  obtain ⟨rfl, rfl⟩ := Prod.mk.inj h
  rfl

end Work

open Work

/-! ## Lookups of tokens -/

/-- The symbol that a response tells, if it tells one. -/
def symbolIn (r : Response) : Option String :=
  match Getter.symbol.ofResponse r with
  | .ok text => some (Utf8.decodeLossy text)
  | .error _ => none

theorem conclude_symbol (a : Address) :
    conclude b (symbol a) s = (.ok (symbolIn (b s.history (.getter a .symbol))),
      s.told (.getter a .symbol) (b s.history (.getter a .symbol))) := by
  unfold symbol call symbolIn
  rw [bind_assoc, conclude_bind_of_ok (conclude_ask _), pure_bind]
  cases Getter.symbol.ofResponse (b s.history (.getter a .symbol)) with
  | ok text => rfl
  | error p => rfl

/-- A token that is kept is not asked for. -/
theorem conclude_token_of_known {a : Address} {t : Token} (h : s.tokens.lookup a = some t) :
    conclude b (token a) s = (.ok t, s) := by
  have hget : conclude b (get : Work TokenCache) s = (.ok s.tokens, s) := rfl
  unfold token
  rw [conclude_bind_of_ok hget, h]
  rfl

theorem conclude_token_of_unknown {a : Address} (h : s.tokens.lookup a = none) :
    conclude b (token a) s = conclude b (fetchToken a) s := by
  have hget : conclude b (get : Work TokenCache) s = (.ok s.tokens, s) := rfl
  unfold token
  rw [conclude_bind_of_ok hget, h]

/-- Without decimals there is no token, and its symbol is not asked for. -/
theorem conclude_fetchToken_of_error {a : Address} {p : Problem}
    (h : Getter.decimals.ofResponse (b s.history (.getter a .decimals)) = .error p) :
    conclude b (fetchToken a) s =
      (.error (p.under ("Failed to get decimals for token " ++ a.checksummed)),
        s.told (.getter a .decimals) (b s.history (.getter a .decimals))) := by
  unfold fetchToken callOr call
  rw [bind_assoc, bind_assoc, conclude_bind_of_ok (conclude_ask _), pure_bind, h]
  rfl

/-- With decimals the token is kept, whatever its symbol is. -/
theorem conclude_fetchToken_of_ok {a : Address} {d : BitVec 8}
    (h : Getter.decimals.ofResponse (b s.history (.getter a .decimals)) = .ok d) :
    let s' := s.told (.getter a .decimals) (b s.history (.getter a .decimals))
    let r := b s'.history (.getter a .symbol)
    conclude b (fetchToken a) s =
      (.ok ⟨a, d.toNat, symbolIn r⟩,
        (s'.told (.getter a .symbol) r).keep ⟨a, d.toNat, symbolIn r⟩) := by
  intro s' r
  unfold fetchToken callOr call
  rw [bind_assoc, bind_assoc, conclude_bind_of_ok (conclude_ask _), pure_bind, h]
  change conclude b (symbol a >>= _) s' = _
  rw [conclude_bind_of_ok (conclude_symbol a)]
  rfl

/-! ## The work behind readings -/

/-- The requests that tell what a token is. -/
def Request.isAboutToken : Request → Bool
  | .getter _ .decimals | .getter _ .symbol => true
  | _ => false

/-- What a token is, work finds out only by looking the token up. -/
inductive Composed : {α : Type} → Work α → Prop
  | pure {α : Type} (a : α) : Composed (pure a)
  | throw {α : Type} (failure : ReadFailure) : Composed (throw failure : Work α)
  | ask {q : Request} (h : q.isAboutToken = false) : Composed (ask q)
  | write {e : Entry} (h : e.Writable) : Composed (Work.write e)
  | token (a : Address) : Composed (token a)
  | bind {α β : Type} {w : Work α} {f : α → Work β} (hw : Composed w) (hf : ∀ a, Composed (f a)) :
      Composed (w >>= f)

theorem composed_expect (message : String) (result : Except Problem α) :
    Composed (expect message result) := by
  cases result with
  | ok a => exact .pure a
  | error p => exact .throw _

theorem composed_callOr {message : String} {contract : Address} {g : Getter}
    (h : (Request.getter contract g).isAboutToken = false) :
    Composed (callOr message contract g) :=
  .bind (.bind (.ask h) fun _ => .pure _) fun _ => composed_expect _ _

theorem composed_transactionRecord (hash : TxHash) : Composed (transactionRecord hash) := by
  refine .bind (.ask rfl) fun response => .bind (composed_expect _ _) fun found => ?_
  cases found with
  | some t => exact .pure t
  | none => exact .throw _

theorem composed_receipt (hash : TxHash) : Composed (receipt hash) := by
  refine .bind (.ask rfl) fun response => .bind (composed_expect _ _) fun found => ?_
  cases found with
  | some r => exact .pure r
  | none => exact .throw _

theorem composed_revertReason (hash : TxHash) : Composed (revertReason hash) := by
  refine .bind (composed_transactionRecord hash) fun t => ?_
  cases t.block with
  | none => exact .throw _
  | some block =>
    refine .bind (.ask rfl) fun response => ?_
    cases response.read bytes? with
    | ok _ => exact .bind (.write rfl) fun _ => .pure none
    | error p =>
      cases p with
      | refused r => exact .bind (.write rfl) fun _ => .pure _
      | silence | unexpected | noData | unreadable => exact .throw _

/-- What is asked of a pool itself: its tokens and its fee. -/
def poolData (address : Address) : Work (Address × Address × BitVec 24) := do
  let address0 : Address ← callOr "Failed to get token0" address .token0
  let address1 : Address ← callOr "Failed to get token1" address .token1
  let fee : BitVec 24 ← callOr "Failed to get pool fee" address .fee
  return (address0, address1, fee)

theorem pool_eq (address : Address) :
    pool address = (do
      let (address0, address1, fee) ← poolData address
      return ⟨address, ← token address0, ← token address1, fee.toNat⟩) := by
  simp only [pool, poolData, bind_assoc, pure_bind]

theorem composed_poolData (address : Address) : Composed (poolData address) :=
  .bind (composed_callOr rfl) fun _ => .bind (composed_callOr rfl) fun _ =>
    .bind (composed_callOr rfl) fun _ => .pure _

theorem composed_reading (r : Chain.Reading) : Composed (reading r) := by
  cases r with
  | transaction hash => exact .bind (composed_transactionRecord hash) fun _ => .pure _
  | receipt hash => exact composed_receipt hash
  | revertReason hash => exact composed_revertReason hash
  | token address => exact .token address
  | pool address =>
    change Composed (pool address)
    rw [pool_eq]
    exact .bind (composed_poolData address) fun _ => .bind (.token _) fun _ =>
      .bind (.token _) fun _ => .pure _
  | pair address =>
    exact .bind (composed_callOr rfl) fun _ => .bind (composed_callOr rfl) fun _ => .pure _

/-! ## Entries of readings can be written -/

/-- All entries of some work can be written, whatever tokens are kept. -/
def Work.IsWritable (w : Work α) : Prop :=
  ∀ cache, (w.start cache).IsWritable

theorem Work.IsWritable.bind {w : Work α} {f : α → Work β} (hw : w.IsWritable)
    (hf : ∀ a, (f a).IsWritable) : (w >>= f).IsWritable := by
  intro cache
  rw [start_bind]
  refine (hw cache).bind fun (result, cache') => ?_
  cases result with
  | ok a => exact hf a cache'
  | error failure => trivial

theorem isWritable_symbol (a : Address) : (symbol a).IsWritable := by
  refine .bind (fun cache response => trivial) fun result => ?_
  cases result with
  | ok text => exact fun cache => trivial
  | error p => exact fun cache => ⟨rfl, trivial⟩

theorem isWritable_callOr (message : String) (contract : Address) (g : Getter) :
    (callOr message contract g).IsWritable := by
  refine .bind (.bind (fun cache response => trivial) fun _ cache => trivial) fun result => ?_
  cases result with
  | ok value => exact fun cache => trivial
  | error p => exact fun cache => trivial

theorem isWritable_token (a : Address) : (token a).IsWritable := by
  refine .bind (fun cache => trivial) fun cache => ?_
  cases cache.lookup a with
  | some t => exact fun cache => trivial
  | none =>
    exact .bind (isWritable_callOr _ _ _) fun d => .bind (isWritable_symbol a) fun symbol =>
      .bind (fun cache => trivial) fun _ cache => trivial

/-- No reading breaks off at its journal. -/
theorem Composed.isWritable {w : Work α} (h : Composed w) : w.IsWritable := by
  induction h with
  | pure a => exact fun cache => trivial
  | throw failure => exact fun cache => trivial
  | ask _ => exact fun cache answer => trivial
  | write hwritable => exact fun cache => ⟨hwritable, trivial⟩
  | token a => exact isWritable_token a
  | bind _ _ ihw ihf => exact .bind ihw ihf

end DexTrade.Node
