import DexTrade.Proofs.Analysis.Executed
import DexTrade.Proofs.Analysis.Success
import DexTrade.Proofs.Event.Report
import DexTrade.Proofs.Swap.Family
import DexTrade.Proofs.Swap.NamedInput
/-!
# Calls sent to routers of another family

A success is the record of a call of the family whose analysis it comes from. Call data of any other
family is refused before anything is read, whichever router it was sent to
(`calldata_of_one_family`).
-/
namespace DexTrade.Analysis

open Chain RouterKind

variable {σ : Type} {answer : (r : Reading) → σ → Except ReadFailure r.Value × σ}
  {limit : Option Level} {events : TxHash → Analysis (List Event)} {transaction : Transaction}
  {hash : TxHash} {receipt : Receipt}

/-! ## Successes -/

theorem Steps.leads {Call : Type} (x : Steps Call) {kind : RouterKind}
    (hdecodes : ∀ call, x.decode transaction.input = .ok call → kind.Decodes transaction.input) :
    (x.analyse transaction hash receipt events).Returns
      (OfSuccess fun _ => kind.leads transaction.input = true) :=
  x.ofSuccess fun call _ hcall => .of_forall (fun _ => (hdecodes call hcall).leads) _

theorem leads_of_v2 (fee : Nat) :
    (V2.analyse transaction hash receipt fee events).Returns
      (OfSuccess fun _ => RouterKind.v2.leads transaction.input = true) :=
  (V2.steps fee).leads fun swap hswap => ⟨swap, hswap⟩

theorem leads_of_v3 :
    (V3.analyse transaction hash receipt events).Returns
      (OfSuccess fun _ => RouterKind.v3.leads transaction.input = true) :=
  V3.steps.leads fun swap hswap => ⟨swap, hswap⟩

theorem leads_of_universal :
    (Universal.analyseFetched transaction hash receipt events).Returns
      (OfSuccess fun _ => RouterKind.universal.leads transaction.input = true) :=
  Universal.steps.leads fun _ hfound =>
    (exists_of_bind_eq_ok hfound).imp fun _ hcall => hcall.1

theorem leads_of_dispatch (c : Dispatch.Context) :
    (Dispatch.analyseFetched c transaction hash receipt events).Returns
      (OfSuccess fun _ => ∃ kind,
        transaction.destination.map (c.routers.classify c.chain) = some kind ∧
          kind.leads transaction.input = true) :=
  Dispatch.returns_by_family
    (P := fun family => OfSuccess fun _ => ∃ kind : RouterKind,
      family = some kind ∧ kind.leads transaction.input = true)
    (Returns.mono (leads_of_v2 c.v2Fee) fun _ h t ht => ⟨.v2, rfl, h t ht⟩)
    (Returns.mono leads_of_v3 fun _ h t ht => ⟨.v3, rfl, h t ht⟩)

/-- The run does not end with the record of a trade. -/
def NoSuccess (run : Outcome source (Except TradeError TradeAnalysis) σ) : Prop :=
  ∀ t, run.result ≠ some (.ok (.success t))

/-- The family of the router that a transaction was sent to. -/
def familyOf (c : Dispatch.Context) (transaction : Transaction) : Option RouterKind :=
  transaction.destination.map (c.routers.classify c.chain)

variable {kind : RouterKind} {c : Dispatch.Context}

theorem noSuccess_dispatch (hleads : kind.leads transaction.input = true)
    (hother : familyOf c transaction ≠ some kind) (s : σ) :
    NoSuccess (outcome answer limit
      (Dispatch.analyseFetched c transaction hash receipt events) s) := by
  intro t hresult
  obtain ⟨family, hfamily, hfamilyLeads⟩ := (leads_of_dispatch c).result hresult t rfl
  obtain rfl : family = kind := eq_of_leads hfamilyLeads hleads
  exact hother hfamily

theorem noSuccess_universal (hleads : kind.leads transaction.input = true)
    (hother : kind ≠ .universal) (s : σ) :
    NoSuccess (outcome answer limit
      (Universal.analyseFetched transaction hash receipt events) s) := by
  intro t hresult
  exact hother (eq_of_leads hleads (leads_of_universal.result hresult t rfl))

/-- A transaction that is fetched has the successes of the analysis of what is fetched. -/
theorem noSuccess_of_fetched {f : Transaction → Receipt → Analysis TradeAnalysis} {s : σ}
    (htransaction : (answer (.transaction hash) s).1 = .ok transaction)
    (hf : ∀ receipt s, NoSuccess (outcome answer limit (f transaction receipt) s)) :
    NoSuccess (outcome answer limit
      (read (.transaction hash) >>= fun t => read (.receipt hash) >>= fun r => f t r) s) := by
  intro t hresult
  obtain ⟨fetched, hfetched, hresult⟩ := ok_of_outcome_read_bind hresult
  obtain ⟨receipt, -, hresult⟩ := ok_of_outcome_read_bind hresult
  obtain rfl : fetched = transaction := Except.ok.inj (hfetched.symm.trans htransaction)
  exact hf receipt _ t hresult

/-! ## Refusals -/

/-- The call data is refused before anything is read. -/
def RefusedAtOnce (s : σ) (run : Outcome source (Except TradeError TradeAnalysis) σ) : Prop :=
  ∃ problem, run = ⟨some (.error (.inputDecode problem)), [], s⟩

theorem Steps.refused {Call : Type} {x : Steps Call} (hx : x.Writable)
    (hstatus : receipt.status = true) {problem : CallProblem}
    (h : x.decode transaction.input = .error (.inputDecode problem)) (s : σ) :
    RefusedAtOnce s (outcome answer limit (x.analyse transaction hash receipt events) s) :=
  ⟨problem, Steps.outcome_of_refused hx hstatus h s⟩

theorem refused_universal (hstatus : receipt.status = true)
    (h : RouterKind.universal.Refuses transaction.input) (s : σ) :
    RefusedAtOnce s (outcome answer limit
      (Universal.analyseFetched transaction hash receipt events) s) := by
  obtain ⟨problem, hproblem⟩ := h
  have hrefused : Universal.decodeSwap transaction.input = .error (.inputDecode problem) := by
    unfold Universal.decodeSwap
    rw [hproblem]
    rfl
  exact Steps.refused Universal.writable_steps hstatus hrefused s

/-- The dispatcher takes the transaction to a decoder that refuses its call data. -/
theorem refused_dispatch {family : RouterKind} (hfamily : familyOf c transaction = some family)
    (hdecoder : family = .v2 ∨ family = .v3) (hstatus : receipt.status = true)
    (h : family.Refuses transaction.input) (s : σ) :
    RefusedAtOnce s (outcome answer limit
      (Dispatch.analyseFetched c transaction hash receipt events) s) := by
  have hfound : RefusedAtOnce s (outcome answer limit
      (Dispatch.analyseAs c family transaction hash receipt events) s) := by
    rcases hdecoder with rfl | rfl
    · obtain ⟨problem, hproblem⟩ := h
      exact Steps.refused (V2.writable_steps c.v2Fee) hstatus hproblem s
    · obtain ⟨problem, hproblem⟩ := h
      exact Steps.refused V3.writable_steps hstatus hproblem s
  obtain ⟨problem, hrun⟩ := hfound
  refine ⟨problem, ?_⟩
  rw [Dispatch.outcome_of_family hfamily, hrun]
  rfl

/-- Of the three decoders at most one reads given call data, and what it reads begins with a selector
of its own family; it refuses everything else. Call data with a selector of one family never has a
success in the analysis of another, and after an executed transaction it is refused there before
anything is read. -/
theorem calldata_of_one_family (answer : (r : Reading) → σ → Except ReadFailure r.Value × σ)
    (limit : Option Level) (events : TxHash → Analysis (List Event)) (c : Dispatch.Context)
    (hash : TxHash) (kind : RouterKind) (s : σ) :
    (∀ input, kind.Decodes input →
      kind.leads input = true ∧ ∀ other : RouterKind, other.Decodes input → other = kind) ∧
    (∀ input, kind.leads input = false ∨ input.length < 4 → kind.Refuses input) ∧
    ∀ transaction, kind.leads transaction.input = true →
      (familyOf c transaction ≠ some kind →
        (∀ receipt, NoSuccess (outcome answer limit
          (Dispatch.analyseFetched c transaction hash receipt events) s)) ∧
        ((answer (.transaction hash) s).1 = .ok transaction →
          NoSuccess (outcome answer limit (Dispatch.analyse c hash events) s)) ∧
        ∀ receipt, receipt.status = true →
          familyOf c transaction = some .v2 ∨ familyOf c transaction = some .v3 →
            RefusedAtOnce s (outcome answer limit
              (Dispatch.analyseFetched c transaction hash receipt events) s)) ∧
      (kind ≠ .universal →
        (∀ receipt, NoSuccess (outcome answer limit
          (Universal.analyseFetched transaction hash receipt events) s)) ∧
        ((answer (.transaction hash) s).1 = .ok transaction →
          NoSuccess (outcome answer limit (Universal.analyse hash events) s)) ∧
        ∀ receipt, receipt.status = true →
          RefusedAtOnce s (outcome answer limit
            (Universal.analyseFetched transaction hash receipt events) s)) := by
  refine ⟨fun input hdecodes => ⟨hdecodes.leads, fun other h => eq_of_decodes h hdecodes⟩,
    fun input h => refuses_of_not_leads (h.elim id RouterKind.leads_of_short),
    fun transaction hleads => ⟨fun hother => ?_, fun hother => ?_⟩⟩
  · refine ⟨fun receipt => noSuccess_dispatch hleads hother s, fun htransaction =>
      noSuccess_of_fetched htransaction fun receipt s => noSuccess_dispatch hleads hother s,
      fun receipt hstatus hdecoder => ?_⟩
    have hrefuses {family : RouterKind} (hfamily : familyOf c transaction = some family) :
        family.Refuses transaction.input :=
      refuses_of_not_leads (Bool.eq_false_iff.2 fun h =>
        hother (hfamily.trans (congrArg some (eq_of_leads h hleads))))
    rcases hdecoder with hfamily | hfamily
    · exact refused_dispatch hfamily (.inl rfl) hstatus (hrefuses hfamily) s
    · exact refused_dispatch hfamily (.inr rfl) hstatus (hrefuses hfamily) s
  · have hrefuses : RouterKind.universal.Refuses transaction.input :=
      refuses_of_not_leads (Bool.eq_false_iff.2 fun h => hother (eq_of_leads hleads h))
    exact ⟨fun receipt => noSuccess_universal hleads hother s, fun htransaction =>
      noSuccess_of_fetched htransaction fun receipt s => noSuccess_universal hleads hother s,
      fun receipt hstatus => refused_universal hstatus hrefuses s⟩

/-- The call of a swap for a V2 router is sent to a V3 router. -/
theorem pair_swap_sent_to_v3_router :
    let router : Address := ⟨0x2626⟩
    let call := Selector.toBytes 0x38ed1739 ++
      Abi.write [.uint 256, .uint 256, .addresses, .address, .uint 256]
        (1000000, 1, [⟨0x8335⟩, ⟨0x4200⟩], ⟨0x1111⟩, 0, ())
    let swapped := Event.Report.v3Swap router ⟨0x1111⟩ 5 (-9) 1 3 0
    let receipt : Receipt := ⟨true, 150000, 2500000000, some 7, [swapped.log ⟨0x88a4⟩ (some 4)]⟩
    let transaction : Transaction := ⟨⟨0x1111⟩, some router, call, 0⟩
    let c : Dispatch.Context := ⟨⟨[("base", ⟨[], [⟨router, "SwapRouter02"⟩], []⟩)]⟩, "Base", 30⟩
    let data : Chain.Data
      | .transaction _ => .ok transaction
      | .receipt _ => .ok receipt
      | _ => .error ⟨"not found", []⟩
    let answer (r : Reading) (s : Unit) := (data r, s)
    RouterKind.v2.Decodes call ∧ RouterKind.v3.Refuses call ∧
      RefusedAtOnce () (outcome answer (some .debug)
        (Dispatch.analyseFetched c transaction ⟨0x5af1⟩ receipt) ()) ∧
      NoSuccess (outcome answer (some .debug) (Dispatch.analyse c ⟨0x5af1⟩) ()) := by
  intro router call swapped receipt transaction c data answer
  have hfamily : familyOf c transaction = some .v3 := by decide +kernel
  have hother : familyOf c transaction ≠ some .v2 := by
    rw [hfamily]
    decide
  have hdecodes : RouterKind.v2.Decodes call := by
    have hok : (V2Router.decode call).toOption.isSome = true := by decide +kernel
    cases hdecode : V2Router.decode call with
    | ok swap => exact ⟨swap, hdecode⟩
    | error e =>
      rw [hdecode] at hok
      exact nomatch hok
  obtain ⟨hread, -, hsent⟩ :=
    calldata_of_one_family answer (some .debug) Analysis.events c ⟨0x5af1⟩ .v2 ()
  obtain ⟨hleads, -⟩ := hread call hdecodes
  obtain ⟨⟨-, hfetched, hexecuted⟩, -⟩ :=
    (hsent transaction hleads).imp_left fun hsent => hsent hother
  obtain ⟨-, hrefused, -⟩ :=
    calldata_of_one_family answer (some .debug) Analysis.events c ⟨0x5af1⟩ .v3 ()
  refine ⟨hdecodes, hrefused call (.inl ?_), hexecuted receipt rfl (.inr hfamily), hfetched rfl⟩
  decide +kernel

end DexTrade.Analysis
