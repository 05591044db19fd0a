import DexTrade.Proofs.Analysis.Reads
import DexTrade.Proofs.Event.Report
import DexTrade.Proofs.UniversalRouter.Calldata
/-!
# The error of a failed reading

On chain data that gives each reading a value or a failure, an analysis ends with the error of a failed
reading exactly if one that it needs fails. It then ends there and the error is that failure; all other
errors come after readings that went well (`failed_read_iff_last_read_failed`).
-/
namespace DexTrade.Analysis

open Chain

variable {α : Type} {data : Chain.Data} {limit : Option Level}

/-! ## How a run ends -/

/-- The reading is needed and has a value. -/
def Answered (data : Chain.Data) (r : Reading) : Prop :=
  r.isVital = true ∧ ∃ value, data r = .ok value

/-- The result of a run and the readings it made, up to the one at which it ended. -/
inductive Accounted (data : Chain.Data) (result : Option (Except TradeError α))
    (asked : List Reading) : Prop
  | completed (hanswered : ∀ r ∈ asked, Answered data r)
      (hresult : ∀ failure, result ≠ some (.error (.failedRead failure)))
  | reverted (earlier : List Reading) (hash : TxHash)
      (hasked : asked = earlier ++ [.revertReason hash]) (hanswered : ∀ r ∈ earlier, Answered data r)
      (hresult : ∀ e, result ≠ some (.error e))
  | failed (earlier : List Reading) (r : Reading) (failure : ReadFailure)
      (hasked : asked = earlier ++ [r]) (hanswered : ∀ r' ∈ earlier, Answered data r')
      (hvital : r.isVital = true) (hfailed : data r = .error failure)
      (hresult : result = some (.error (.failedRead failure)))

namespace Accounted

variable {result : Option (Except TradeError α)} {asked : List Reading}

/-- A reading that is answered may come before the rest of a run. -/
theorem cons {r : Reading} (hr : Answered data r) (h : Accounted data result asked) :
    Accounted data result (r :: asked) := by
  have hearlier {earlier : List Reading} (h : ∀ r' ∈ earlier, Answered data r') :
      ∀ r' ∈ r :: earlier, Answered data r' :=
    List.forall_mem_cons.2 ⟨hr, h⟩
  cases h with
  | completed hanswered hresult => exact .completed (hearlier hanswered) hresult
  | reverted earlier hash hasked hanswered hresult =>
    exact .reverted (r :: earlier) hash (congrArg _ hasked) (hearlier hanswered) hresult
  | failed earlier r' failure hasked hanswered hvital hfailed hresult =>
    exact .failed (r :: earlier) r' failure (congrArg _ hasked) (hearlier hanswered) hvital hfailed
      hresult

theorem failedRead_iff (h : Accounted data result asked) (failure : ReadFailure) :
    result = some (.error (.failedRead failure)) ↔
      ∃ earlier r, asked = earlier ++ [r] ∧ r.isVital = true ∧ data r = .error failure ∧
        ∀ r' ∈ earlier, ∃ value, data r' = .ok value := by
  constructor
  · intro hfailure
    cases h with
    | completed _ hresult => exact absurd hfailure (hresult failure)
    | reverted _ _ _ _ hresult => exact absurd hfailure (hresult _)
    | failed earlier r failure' hasked hanswered hvital hfailed hresult =>
      obtain rfl : failure' = failure := by
        rw [hresult] at hfailure
        injection hfailure with hfailure
        injection hfailure with hfailure
        injection hfailure
      exact ⟨earlier, r, hasked, hvital, hfailed, fun r' hr' => (hanswered r' hr').2⟩
  · rintro ⟨earlier, r, hasked, hvital, hfailed, -⟩
    cases h with
    | completed hanswered _ =>
      obtain ⟨-, value, hvalue⟩ := hanswered r (by simp [hasked])
      simp [hfailed] at hvalue
    | reverted earlier' hash hasked' _ _ =>
      obtain ⟨-, rfl⟩ := List.append_singleton_inj.1 (hasked.symm.trans hasked')
      exact nomatch hvital
    | failed earlier' r' failure' hasked' _ _ hfailed' hresult =>
      obtain ⟨-, rfl⟩ := List.append_singleton_inj.1 (hasked.symm.trans hasked')
      rw [hresult, Except.error.inj (hfailed'.symm.trans hfailed)]

theorem last_of_failed (h : Accounted data result asked) {r : Reading} (hr : r ∈ asked)
    (hvital : r.isVital = true) {failure : ReadFailure} (hfailed : data r = .error failure) :
    result = some (.error (.failedRead failure)) ∧ asked.getLast? = some r := by
  have hnot {earlier : List Reading} (hanswered : ∀ r' ∈ earlier, Answered data r') :
      r ∉ earlier := by
    intro hmem
    obtain ⟨-, value, hvalue⟩ := hanswered r hmem
    simp [hfailed] at hvalue
  cases h with
  | completed hanswered _ => exact absurd hr (hnot hanswered)
  | reverted earlier hash hasked hanswered _ =>
    rw [hasked, List.mem_append, List.mem_singleton] at hr
    obtain hr | rfl := hr
    · exact absurd hr (hnot hanswered)
    · exact nomatch hvital
  | failed earlier r' failure' hasked hanswered _ hfailed' hresult =>
    rw [hasked, List.mem_append, List.mem_singleton] at hr
    obtain hr | rfl := hr
    · exact absurd hr (hnot hanswered)
    · rw [hresult, Except.error.inj (hfailed'.symm.trans hfailed), hasked]
      exact ⟨rfl, List.getLast?_concat⟩

theorem ne_error_of_reverted (h : Accounted data result asked) {hash : TxHash}
    (hr : .revertReason hash ∈ asked) (e : TradeError) : result ≠ some (.error e) := by
  cases h with
  | completed hanswered _ => exact nomatch (hanswered _ hr).1
  | reverted _ _ _ _ hresult => exact hresult e
  | failed earlier r failure hasked hanswered hvital _ _ =>
    rw [hasked, List.mem_append, List.mem_singleton] at hr
    obtain hr | rfl := hr
    · exact nomatch (hanswered _ hr).1
    · exact nomatch hvital

theorem answered_of_error (h : Accounted data result asked) {e : TradeError}
    (he : result = some (.error e)) (hown : e.isFailedRead = false) :
    ∀ r ∈ asked, ∃ value, data r = .ok value := by
  cases h with
  | completed hanswered _ => exact fun r hr => (hanswered r hr).2
  | reverted _ _ _ _ hresult => exact absurd he (hresult e)
  | failed _ _ failure _ _ _ _ hresult =>
    rw [hresult] at he
    injection he with he
    injection he with he
    subst he
    exact nomatch hown

end Accounted

/-! ## Disciplined runs -/

/-- What chain data answers, whatever was asked before. -/
def answers (data : Chain.Data) (r : Reading) (s : Unit) : Except ReadFailure r.Value × Unit :=
  (data r, s)

theorem Settled.outcome {i : Inquiry source (Except TradeError α)} (h : Settled i)
    (data : Chain.Data) (limit : Option Level) :
    (Inquiry.outcome (answers data) limit i ()).asked = [] ∧
      ∀ e, (Inquiry.outcome (answers data) limit i ()).result ≠ some (.error e) := by
  induction i with
  | done result =>
    obtain ⟨a, rfl⟩ := h
    exact ⟨rfl, nofun⟩
  | ask q next ih => exact h.elim
  | note e next ih =>
    rw [Inquiry.outcome_note]
    split
    · exact ⟨rfl, nofun⟩
    · exact ih h

theorem Disciplined.accounted {n : Nat} {i : Inquiry source (Except TradeError α)}
    (h : Disciplined n i) (data : Chain.Data) (limit : Option Level) :
    (Inquiry.outcome (answers data) limit i ()).asked.length ≤ n ∧
      Accounted data (Inquiry.outcome (answers data) limit i ()).result
        (Inquiry.outcome (answers data) limit i ()).asked := by
  induction h with
  | value n a => exact ⟨Nat.zero_le n, .completed nofun nofun⟩
  | error n hown =>
    refine ⟨Nat.zero_le n, .completed nofun fun failure hfailure => ?_⟩
    injection hfailure with hfailure
    injection hfailure with hfailure
    subst hfailure
    exact nomatch hown
  | note e _ ih =>
    rw [Inquiry.outcome_note]
    split
    · exact ⟨Nat.zero_le _, .completed nofun nofun⟩
    · exact ih
  | @read n r next hvital hfailed _ ih =>
    rw [Inquiry.outcome_ask]
    cases hanswer : data r with
    | ok value =>
      have hnext := ih value
      simp only [answers, hanswer] at hnext ⊢
      exact ⟨Nat.succ_le_succ hnext.1, hnext.2.cons ⟨hvital, value, hanswer⟩⟩
    | error failure =>
      simp only [answers, hanswer, hfailed]
      exact ⟨Nat.succ_le_succ (Nat.zero_le n), .failed [] r failure rfl nofun hvital hanswer rfl⟩
  | @attempt n hash next hnext =>
    obtain ⟨hasked, hresult⟩ := (hnext (data (.revertReason hash))).outcome data limit
    rw [Inquiry.outcome_ask]
    simp only [answers, hasked]
    exact ⟨Nat.succ_le_succ (Nat.zero_le n), .reverted [] hash rfl nofun hresult⟩

/-! ## The four ways to an analysis -/

/-- A transaction is analysed by the dispatcher or as one of the universal router, fetched already or
by its hash. -/
inductive Entrance where
  | dispatchFetched (c : Dispatch.Context) (transaction : Transaction) (hash : TxHash)
      (receipt : Receipt)
  | universalFetched (transaction : Transaction) (hash : TxHash) (receipt : Receipt)
  | dispatch (c : Dispatch.Context) (hash : TxHash)
  | universal (hash : TxHash)

namespace Entrance

def analysis : Entrance → Analysis TradeAnalysis
  | dispatchFetched c transaction hash receipt => Dispatch.analyseFetched c transaction hash receipt
  | universalFetched transaction hash receipt => Universal.analyseFetched transaction hash receipt
  | dispatch c hash => Dispatch.analyse c hash
  | universal hash => Universal.analyse hash

/-- What is read before the call data is at hand. -/
def fetches : Entrance → List Reading
  | dispatchFetched .. | universalFetched .. => []
  | dispatch _ hash | universal hash => [.transaction hash, .receipt hash]

theorem disciplined (x : Entrance) : Disciplined 6 x.analysis.run := by
  cases x with
  | dispatchFetched c transaction hash receipt => exact (disciplined_dispatch c).mono (by decide)
  | universalFetched transaction hash receipt => exact disciplined_universal.mono (by decide)
  | dispatch c hash => exact disciplined_fetched fun t r => disciplined_dispatch c
  | universal hash => exact disciplined_fetched fun t r => disciplined_universal

end Entrance

/-- Of a transaction that is fetched first, call data is decoded once it is there. -/
theorem asked_of_fetched {hash : TxHash} {f : Transaction → Receipt → Analysis α}
    (hf : ∀ t r, DecodesFirst (f t r).run) {problem : CallProblem}
    (hresult : (outcome (answers data) limit
      (read (.transaction hash) >>= fun t => read (.receipt hash) >>= fun r => f t r) ()).result =
        some (.error (.inputDecode problem))) :
    (outcome (answers data) limit
      (read (.transaction hash) >>= fun t => read (.receipt hash) >>= fun r => f t r) ()).asked =
        [.transaction hash, .receipt hash] := by
  cases htransaction : data (.transaction hash) with
  | error failure =>
    rw [outcome_bind_of_error (outcome_read_of_error htransaction)] at hresult
    exact nomatch hresult
  | ok t =>
    rw [outcome_bind_of_ok (outcome_read_of_ok htransaction)] at hresult ⊢
    cases hreceipt : data (.receipt hash) with
    | error failure =>
      rw [outcome_bind_of_error (outcome_read_of_error hreceipt)] at hresult
      exact nomatch hresult
    | ok r =>
      rw [outcome_bind_of_ok (outcome_read_of_ok hreceipt)] at hresult ⊢
      have hasked : (outcome (answers data) limit (f t r) ()).asked = [] :=
        (hf t r).asked_eq_nil hresult
      simp only [answers] at hasked ⊢
      rw [hasked]
      rfl

theorem Entrance.asked_of_inputDecode (x : Entrance) {problem : CallProblem}
    (hresult : (outcome (answers data) limit x.analysis ()).result =
      some (.error (.inputDecode problem))) :
    (outcome (answers data) limit x.analysis ()).asked = x.fetches := by
  cases x with
  | dispatchFetched c transaction hash receipt =>
    exact (decodesFirst_dispatch c).asked_eq_nil hresult
  | universalFetched transaction hash receipt => exact decodesFirst_universal.asked_eq_nil hresult
  | dispatch c hash => exact asked_of_fetched (fun t r => decodesFirst_dispatch c) hresult
  | universal hash => exact asked_of_fetched (fun t r => decodesFirst_universal) hresult

/-- The error of a failed reading means that the last reading, and no reading before it, failed in this
way, and a needed reading that failed always is the last one and has this error. The reason of a revert
is no such reading: once it was asked for, there is no error. Every other error comes after readings
that all went well, and one about the call data before there was any reading but those that fetched
it. At most six readings are made. -/
theorem failed_read_iff_last_read_failed (data : Chain.Data) (limit : Option Level) (x : Entrance) :
    let run := Inquiry.runFixed data limit x.analysis.run
    (∀ failure, run.result = some (.error (.failedRead failure)) ↔
      ∃ earlier r, run.asked = earlier ++ [r] ∧ r.isVital = true ∧ data r = .error failure ∧
        ∀ r' ∈ earlier, ∃ value, data r' = .ok value) ∧
    (∀ r ∈ run.asked, r.isVital = true → ∀ failure, data r = .error failure →
      run.result = some (.error (.failedRead failure)) ∧ run.asked.getLast? = some r) ∧
    (∀ hash, .revertReason hash ∈ run.asked → ∀ e, run.result ≠ some (.error e)) ∧
    (∀ e, run.result = some (.error e) → e.isFailedRead = false →
      ∀ r ∈ run.asked, ∃ value, data r = .ok value) ∧
    (∀ problem, run.result = some (.error (.inputDecode problem)) → run.asked = x.fetches) ∧
    run.asked.length ≤ 6 := by
  intro run
  obtain ⟨hcount, haccounted⟩ := x.disciplined.accounted data limit
  exact ⟨haccounted.failedRead_iff, fun r hr hvital failure => haccounted.last_of_failed hr hvital,
    fun hash => haccounted.ne_error_of_reverted, fun e => haccounted.answered_of_error,
    fun problem => x.asked_of_inputDecode, hcount⟩

/-- A trade of the universal router is fetched by its hash and looked into up to the token it bought,
which the node does not know. -/
theorem sixth_read_failed :
    let hash : TxHash := ⟨0x5af1⟩
    let weth : Token := ⟨⟨0x4200⟩, 18, some "WETH"⟩
    let usdc : Token := ⟨⟨0x8335⟩, 6, none⟩
    let swapped := Event.Report.v3Swap ⟨0x2626⟩ ⟨0x1111⟩ 5 (-9) 1 3 0
    let receipt : Receipt := ⟨true, 150000, 2500000000, some 7, [swapped.log ⟨0xbb⟩ (some 4)]⟩
    let packed := PoolPath.packHops [weth.address, usdc.address] [500]
    let commands : ExecuteCall.Arguments :=
      ⟨[0x0b, 0x80], [[], Operation.writeV3 ⟨0x2222⟩ 5 1 packed true], none⟩
    let executed : Transaction := ⟨⟨0xb0b⟩, none, commands.call, 3⟩
    let unknown : ReadFailure := ⟨"no token", []⟩
    let data : Chain.Data
      | .transaction _ => .ok executed
      | .receipt _ => .ok receipt
      | .pool address => .ok ⟨address, weth, usdc, 500⟩
      | .token address => if address.bits.toNat = 0x4200 then .ok weth else .error unknown
      | _ => .error ⟨"not found", []⟩
    let run := Inquiry.runFixed data (some .info) (Entrance.universal hash).analysis.run
    run.asked = [.transaction hash, .receipt hash, .receipt hash, .pool ⟨0xbb⟩, .token weth.address,
        .token usdc.address] ∧
      data (.token usdc.address) = .error unknown ∧
      run.result = some (.error (.failedRead unknown)) := by
  intro hash weth usdc swapped receipt packed commands executed unknown data run
  have hasked : run.asked = [.transaction hash, .receipt hash, .receipt hash, .pool ⟨0xbb⟩,
      .token weth.address, .token usdc.address] := by
    decide +kernel
  have hfailed : data (.token usdc.address) = .error unknown := if_neg (by decide)
  have hmem : .token usdc.address ∈ run.asked := by
    rw [hasked]
    exact List.mem_of_getLast? rfl
  obtain ⟨-, hlast, -⟩ := failed_read_iff_last_read_failed data (some .info) (.universal hash)
  obtain ⟨hresult, -⟩ := hlast _ hmem rfl unknown hfailed
  exact ⟨hasked, hfailed, hresult⟩

end DexTrade.Analysis
