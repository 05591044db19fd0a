import DexTrade.Proofs.V3Router.Multicall
/-!
# How deep the V3 decoder goes

Nothing in the arguments of the decoder limits how often it calls itself for wrapped calls: they are
bytes that a sender chose. What limits it is that a multicall refuses to wrap another one before any of
its calls is decoded. Here the decoder has its stack as an argument, `decodeWithin`, and a stack of two
calls is enough for every input (`decode_within_two_calls`). One call is too few exactly for a multicall
of calls that wrap none (`decodeWithin_one_eq_none_iff`).
-/
namespace DexTrade.V3Router

variable {inner inner' : Bytes → Option (Except TradeError SwapCall)} {input : Bytes}
  {calls : List Bytes}

/-! ## The decoder with its own calls left open -/

/-- What a multicall means if `inner` answers for the wrapped calls, or runs out of stack at one. -/
def multicallBy (inner : Bytes → Option (Except TradeError SwapCall)) (calls : List Bytes) :
    Option (Except TradeError SwapCall) :=
  match calls.find? isMulticall with
  | some call => some (.error (nested call))
  | none => (calls.mapM inner).map fun answers => onlySwap (answers.filterMap Except.toOption)

/-- What an input means if `inner` answers for the calls it wraps. -/
def decodeBy (inner : Bytes → Option (Except TradeError SwapCall)) (input : Bytes) :
    Option (Except TradeError SwapCall) :=
  match Request.read input with
  | .error cause => some (.error (unreadable input cause))
  | .ok (.multicall calls) => multicallBy inner calls
  | .ok request => request.swap?

/-- The decoder on a stack that holds so many of its calls; nothing if they are too few. -/
def decodeWithin : Nat → Bytes → Option (Except TradeError SwapCall)
  | 0, _ => none
  | depth + 1, input => decodeBy (decodeWithin depth) input

/-! ## Inputs that wrap nothing -/

theorem read_ne_multicall (h : isMulticall input = false) (calls : List Bytes) :
    Request.read input ≠ .ok (.multicall calls) := by
  intro hread
  rw [isMulticall_of_read hread] at h
  cases h

/-- Nothing is asked of `inner`. -/
theorem decodeBy_of_ne_multicall (h : ∀ calls, Request.read input ≠ .ok (.multicall calls)) :
    decodeBy inner input = some (decode input) := by
  rw [decodeBy]
  cases hread : Request.read input with
  | error cause => rw [decode_of_read_error hread]
  | ok request =>
    cases request with
    | single exactOutput tokenIn tokenOut fee exact bound =>
      rw [decode_of_read_single hread]
      rfl
    | path exactOutput packed exact bound =>
      rw [decode_of_read_path hread]
      rfl
    | multicall calls => exact absurd hread (h calls)

theorem decode_ok_or_inputDecode (h : ∀ calls, Request.read input ≠ .ok (.multicall calls)) :
    (∃ swap, decode input = .ok swap) ∨ ∃ problem, decode input = .error (.inputDecode problem) := by
  cases hread : Request.read input with
  | error cause => exact .inr ⟨_, decode_of_read_error hread⟩
  | ok request =>
    cases request with
    | single exactOutput tokenIn tokenOut fee exact bound =>
      exact .inl ⟨_, decode_of_read_single hread⟩
    | path exactOutput packed exact bound =>
      rw [decode_of_read_path hread, pathSwap]
      cases PoolPath.unpack packed with
      | error cause => exact .inr ⟨_, rfl⟩
      | ok route => cases exactOutput <;> exact .inl ⟨_, rfl⟩
    | multicall calls => exact absurd hread (h calls)

/-! ## What a multicall asks for -/

theorem mapM_congr_of_forall {α β : Type} {f g : α → Option β} {xs : List α}
    (h : ∀ x ∈ xs, f x = g x) : xs.mapM f = xs.mapM g := by
  induction xs with
  | nil => rfl
  | cons x rest ih =>
    rw [List.mapM_cons, List.mapM_cons, h x List.mem_cons_self,
      ih fun y hy => h y (List.mem_cons_of_mem _ hy)]

/-- No wrapped call is decoded unless none of them is a multicall. -/
theorem multicallBy_congr (h : ∀ call ∈ calls, isMulticall call = false → inner call = inner' call) :
    multicallBy inner calls = multicallBy inner' calls := by
  unfold multicallBy
  cases hfind : calls.find? isMulticall with
  | some call => rfl
  | none =>
    have hflat : ∀ call ∈ calls, isMulticall call = false := by
      simpa using hfind
    rw [mapM_congr_of_forall fun call hcall => h call hcall (hflat call hcall)]

theorem decodeBy_congr (h : ∀ call, isMulticall call = false → inner call = inner' call) :
    decodeBy inner input = decodeBy inner' input := by
  unfold decodeBy
  split
  · rfl
  · exact multicallBy_congr fun call _ => h call
  · rfl

/-- The decoder is its own answer to the calls that an input wraps. -/
theorem decodeBy_decode (input : Bytes) :
    decodeBy (fun call => some (decode call)) input = some (decode input) := by
  by_cases h : ∃ calls, Request.read input = .ok (.multicall calls)
  · obtain ⟨calls, hread⟩ := h
    have hanswers : calls.mapM (fun call => some (decode call)) = some (calls.map decode) :=
      List.mapM_pure
    rw [decode_of_read_multicall hread, decodeBy, hread]
    simp only [multicallBy, hanswers, Option.map_some, List.filterMap_map]
    cases calls.find? isMulticall with
    | some call => rfl
    | none => rfl
  · exact decodeBy_of_ne_multicall (not_exists.1 h)

/-! ## Stacks -/

theorem decodeWithin_of_not_isMulticall (depth : Nat) (h : isMulticall input = false) :
    decodeWithin (depth + 1) input = some (decode input) :=
  decodeBy_of_ne_multicall (read_ne_multicall h)

/-- A stack of two calls is enough: the second one is only made for inputs that wrap nothing. -/
theorem decodeWithin_two (depth : Nat) (input : Bytes) :
    decodeWithin (depth + 2) input = some (decode input) :=
  calc decodeWithin (depth + 2) input
      = decodeBy (decodeWithin (depth + 1)) input := rfl
    _ = decodeBy (fun call => some (decode call)) input :=
        decodeBy_congr fun _ hflat => decodeWithin_of_not_isMulticall depth hflat
    _ = some (decode input) := decodeBy_decode input

/-- Without any stack for its calls, a multicall still has a meaning if it is empty or refused. -/
theorem multicallBy_eq_none_iff :
    multicallBy (fun _ => none) calls = none ↔
      calls ≠ [] ∧ ∀ call ∈ calls, isMulticall call = false := by
  cases calls with
  | nil => simp [multicallBy]
  | cons call rest =>
    have hstuck : (call :: rest).mapM (fun _ => (none : Option (Except TradeError SwapCall))) =
        none := by
      rw [List.mapM_cons]
      rfl
    -- A multicall among the calls is refused before the first call is asked for.
    cases hfind : (call :: rest).find? isMulticall with
    | none =>
      have hflat : ∀ call' ∈ call :: rest, isMulticall call' = false := by simpa using hfind
      simp only [multicallBy, hfind, hstuck, Option.map_none, true_iff]
      exact ⟨List.cons_ne_nil _ _, hflat⟩
    | some found =>
      have hnested : ¬∀ call' ∈ call :: rest, isMulticall call' = false := by
        intro hflat
        have hfound := hflat found (List.mem_of_find?_eq_some hfind)
        rw [List.find?_some hfind] at hfound
        cases hfound
      simp only [multicallBy, hfind]
      exact ⟨nofun, fun h => absurd h.2 hnested⟩

/-- A stack of one call is too small exactly for a multicall of at least one call that wraps no
other. -/
theorem decodeWithin_one_eq_none_iff :
    decodeWithin 1 input = none ↔ ∃ calls, Request.read input = .ok (.multicall calls) ∧
      calls ≠ [] ∧ ∀ call ∈ calls, isMulticall call = false := by
  have hstack : decodeWithin 1 input = decodeBy (fun _ => none) input := rfl
  rw [hstack]
  constructor
  · intro hnone
    by_cases h : ∃ calls, Request.read input = .ok (.multicall calls)
    · obtain ⟨calls, hread⟩ := h
      rw [decodeBy, hread] at hnone
      exact ⟨calls, hread, multicallBy_eq_none_iff.1 hnone⟩
    · rw [decodeBy_of_ne_multicall (not_exists.1 h)] at hnone
      cases hnone
  · rintro ⟨calls, hread, hcalls⟩
    rw [decodeBy, hread]
    exact multicallBy_eq_none_iff.2 hcalls

/-- The recursion of the decoder is bounded. An input that starts with no multicall selector is never
taken for a multicall, and decodes to a swap or to a complaint about the input without a call being made
for it. What a multicall means depends on its calls only through the answers for those that start with no
such selector. Hence a stack of two calls is enough for every input, however deep multicalls are nested in
it, and the answer is the one that is found without recursion. -/
theorem decode_within_two_calls :
    (∀ input, (∀ g : Guard, g.selector.leads input = false) →
      (∀ calls, Request.read input ≠ .ok (.multicall calls)) ∧
      (∀ inner, decodeBy inner input = some (decode input)) ∧
      ((∃ swap, decode input = .ok swap) ∨
        ∃ problem, decode input = .error (.inputDecode problem))) ∧
    (∀ inner inner' calls,
      (∀ call ∈ calls, (∀ g : Guard, g.selector.leads call = false) → inner call = inner' call) →
      multicallBy inner calls = multicallBy inner' calls) ∧
    ∀ input, decodeBy (fun call => some (decode call)) input = some (decode input) ∧
      (∀ depth, decodeWithin (depth + 2) input = some (decode input)) ∧
      decode input = decodeTwoLevel input := by
  refine ⟨fun input hplain => ?_, fun inner inner' calls hagree => ?_, fun input => ?_⟩
  · have hread := read_ne_multicall (isMulticall_eq_false_iff.2 hplain)
    exact ⟨hread, fun inner => decodeBy_of_ne_multicall hread, decode_ok_or_inputDecode hread⟩
  · refine multicallBy_congr fun call hcall hflat => ?_
    exact hagree call hcall (isMulticall_eq_false_iff.1 hflat)
  · exact ⟨decodeBy_decode input, fun depth => decodeWithin_two depth input,
      decode_eq_twoLevel input⟩

/-- A swap decodes on a stack of one call, and so does a multicall in a multicall in a multicall on a
stack of two: it is refused for the call that it wraps. -/
theorem nested_multicalls_decode_within_two_calls :
    let swap := singleCall .second false smallSwap
    let middle := multicall (.deadline 1700000000) [multicall (.blockHash 0) [swap]]
    let deep := multicall .none [middle]
    (∀ g : Guard, g.selector.leads swap = false) ∧
      decodeWithin 1 swap = some (decode swap) ∧
      multicallBy (decodeWithin 1) [swap] = multicallBy (fun call => some (decode call)) [swap] ∧
      decodeWithin 2 deep = some (.error (nested middle)) := by
  intro swap middle deep
  have hplain : ∀ g : Guard, g.selector.leads swap = false :=
    isMulticall_eq_false_iff.1 (isMulticall_call _ _)
  have hmiddle : isMulticall middle = true := isMulticall_call _ _
  have hread := read_multicall .none [middle] (by decide +kernel)
  obtain ⟨hunwrapped, hcalls, hstack⟩ := decode_within_two_calls
  obtain ⟨-, hanswer, -⟩ := hunwrapped swap hplain
  have hone : decodeWithin 1 swap = some (decode swap) := hanswer _
  refine ⟨hplain, hone, hcalls _ _ [swap] fun call hcall _ => ?_, ?_⟩
  · rw [List.mem_singleton.1 hcall]
    exact hone
  · rw [(hstack deep).2.1 0, decode_of_read_multicall hread, List.find?_cons_of_pos hmiddle]

end DexTrade.V3Router
