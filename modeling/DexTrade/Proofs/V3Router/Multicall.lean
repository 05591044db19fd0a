import DexTrade.Proofs.V3Router.Swaps
/-!
# Multicalls of the V3 routers

A multicall that wraps another one is refused. Else it means the only swap among its calls: which
calls are swaps is decided by decoding each one on its own, so calls that do not decode count for
nothing, wherever they stand (`decode_multicall`).

Passing over what does not decode goes too far for a call that has the selector of a swap. Of several
such calls all but one may be passed over, and exactly then the multicall is taken for a single swap
(`decode_ok_iff_one_readable_swap`).
-/
namespace DexTrade.V3Router

/-- The call is a swap that can be read, or wraps one. -/
def accepts (call : Bytes) : Bool :=
  (decode call).isOk

/-- The swaps of the calls that have one. -/
def swapsAmong (calls : List Bytes) : List SwapCall :=
  calls.filterMap fun call => (decode call).toOption

theorem toOption_eq_some_iff {ε α : Type} {x : Except ε α} {a : α} :
    x.toOption = some a ↔ x = .ok a := by
  cases x <;> simp [Except.toOption]

theorem accepts_iff {call : Bytes} : accepts call = true ↔ ∃ swap, decode call = .ok swap := by
  unfold accepts
  cases decode call <;> simp [Except.toBool]

theorem length_swapsAmong (calls : List Bytes) :
    (swapsAmong calls).length = calls.countP accepts := by
  rw [swapsAmong, List.length_filterMap_eq_countP]
  congr 1
  funext call
  unfold accepts
  cases decode call <;> rfl

/-! ## The only swap -/

theorem onlySwap_of_two_le {swaps : List SwapCall} (h : 2 ≤ swaps.length) :
    onlySwap swaps = .error (.malformedSwapSet (.operations swaps.length)) := by
  match swaps, h with
  | _ :: _ :: _, _ => rfl

theorem onlySwap_ok_iff {swaps : List SwapCall} {swap : SwapCall} :
    onlySwap swaps = .ok swap ↔ swaps = [swap] := by
  match swaps with
  | [] => simp [onlySwap]
  | [_] => simp [onlySwap]
  | _ :: _ :: _ => simp [onlySwap]

theorem onlySwap_perm {swaps others : List SwapCall} (h : swaps.Perm others) :
    onlySwap swaps = onlySwap others := by
  match swaps with
  | [] => rw [h.nil_eq]
  | [swap] => rw [h.singleton_eq]
  | _ :: _ :: _ =>
    have htwo := h.length_eq
    rw [onlySwap_of_two_le (by simp), htwo, onlySwap_of_two_le (by simp [← htwo])]

/-! ## Calls that wrap calls -/

/-- A multicall starts with one of the three selectors. -/
theorem isMulticall_iff {call : Bytes} :
    isMulticall call = true ↔ ∃ guard : Guard, guard.selector.leads call = true := by
  simp only [isMulticall, multicallSelectors, Bool.and_eq_true, decide_eq_true_eq,
    List.contains_iff_mem, List.mem_cons, List.not_mem_nil, or_false, Selector.leads_iff]
  constructor
  · rintro ⟨hlength, h | h | h⟩
    · exact ⟨.none, hlength, h⟩
    · exact ⟨.deadline 0, hlength, h⟩
    · exact ⟨.blockHash 0, hlength, h⟩
  · rintro ⟨guard, hlength, h⟩
    refine ⟨hlength, ?_⟩
    cases guard with
    | none => exact .inl h
    | deadline time => exact .inr (.inl h)
    | blockHash hash => exact .inr (.inr h)

theorem isMulticall_eq_false_iff {call : Bytes} :
    isMulticall call = false ↔ ∀ guard : Guard, guard.selector.leads call = false := by
  rw [Bool.eq_false_iff, Ne, isMulticall_iff]
  simp only [not_exists, Bool.not_eq_true]

theorem isMulticall_call (s : Selector) (arguments : Bytes) :
    isMulticall (s.toBytes ++ arguments) = multicallSelectors.contains s := by
  have hlength : 4 ≤ (s.toBytes ++ arguments).length := by
    rw [List.length_append, s.length_toBytes]
    omega
  rw [isMulticall, Selector.ofInput_append, decide_eq_true hlength, Bool.true_and]

theorem decode_of_read_multicall {input : Bytes} {calls : List Bytes}
    (h : Request.read input = .ok (.multicall calls)) :
    decode input = match calls.find? isMulticall with
      | some call => .error (nested call)
      | none => onlySwap (swapsAmong calls) := by
  rw [decode_eq_twoLevel, decodeTwoLevel, h]
  cases hfind : calls.find? isMulticall with
  | some call => simp only [hfind]
  | none =>
    have hsame : swapsAmong calls = calls.filterMap fun call => (decodeUnwrapped call).toOption := by
      refine List.filterMap_congr fun call hcall => ?_
      have hflat : isMulticall call = false := by
        simpa using List.find?_eq_none.1 hfind call hcall
      rw [decode_of_not_isMulticall hflat]
    simp only [hfind, hsame]

theorem decode_nested {input : Bytes} {calls : List Bytes}
    (h : Request.read input = .ok (.multicall calls))
    (hnested : ∃ call ∈ calls, isMulticall call = true) :
    ∃ call ∈ calls, decode input = .error (nested call) := by
  cases hfind : calls.find? isMulticall with
  | none =>
    obtain ⟨call, hcall, hmulti⟩ := hnested
    exact absurd hmulti (List.find?_eq_none.1 hfind call hcall)
  | some call =>
    refine ⟨call, List.mem_of_find?_eq_some hfind, ?_⟩
    rw [decode_of_read_multicall h, hfind]

theorem decode_flat {input : Bytes} {calls : List Bytes}
    (h : Request.read input = .ok (.multicall calls))
    (hflat : ∀ call ∈ calls, isMulticall call = false) :
    decode input = onlySwap (swapsAmong calls) := by
  have hnone : calls.find? isMulticall = none := by
    rw [List.find?_eq_none]
    intro call hcall
    simp [hflat call hcall]
  rw [decode_of_read_multicall h, hnone]

/-! ## Calls that should be swaps -/

def swapSelectors : List Selector :=
  [singleSelector .first false, singleSelector .first true, singleSelector .second false,
    singleSelector .second true, pathSelector .first false, pathSelector .first true,
    pathSelector .second false, pathSelector .second true]

/-- The call starts with the selector of a swap, whether or not its arguments can be read. -/
def isSwapCall (call : Bytes) : Bool :=
  swapSelectors.any fun s => s.leads call

theorem isSwapCall_call (s : Selector) (arguments : Bytes) :
    isSwapCall (s.toBytes ++ arguments) = swapSelectors.any fun t => s == t := by
  simp only [isSwapCall, Selector.leads_append]

/-- The versions have no functions besides swaps and multicalls. -/
theorem selector_of_mem_functions {s : Selector} {reader : Bytes → Except Abi.Error Request}
    (h : (s, reader) ∈ firstVersion.functions ∨ (s, reader) ∈ secondVersion.functions) :
    s ∈ swapSelectors ++ multicallSelectors := by
  -- A quantifier over selectors would be decided by going through all of them.
  have hall : ((firstVersion.functions ++ secondVersion.functions).map Prod.fst).all
      (swapSelectors ++ multicallSelectors).contains = true := by decide
  have hmem : s ∈ (firstVersion.functions ++ secondVersion.functions).map Prod.fst :=
    List.mem_map.2 ⟨(s, reader), List.mem_append.2 h, rfl⟩
  exact List.contains_iff_mem.1 (List.all_eq_true.1 hall s hmem)

/-- What decodes and wraps nothing has the selector of a swap. -/
theorem isSwapCall_of_accepts {call : Bytes} (h : accepts call = true)
    (hflat : isMulticall call = false) : isSwapCall call = true := by
  obtain ⟨swap, hswap⟩ := accepts_iff.1 h
  rw [decode_of_not_isMulticall hflat, decodeUnwrapped] at hswap
  cases hread : Request.read call with
  | error e =>
    rw [hread] at hswap
    cases hswap
  | ok request =>
    obtain ⟨hlength, reader, -, hmem⟩ := exists_reader_of_read hread
    rcases List.mem_append.1 (selector_of_mem_functions hmem) with hs | hs
    · exact List.any_eq_true.2 ⟨_, hs, Selector.leads_iff.2 ⟨hlength, rfl⟩⟩
    · simp [isMulticall, hlength, hs] at hflat

/-! ## Calls that count for nothing -/

/-- The call wraps others or is a swap that can be read. -/
def matters (call : Bytes) : Bool :=
  isMulticall call || accepts call

theorem find?_filter_matters (calls : List Bytes) :
    (calls.filter matters).find? isMulticall = calls.find? isMulticall := by
  rw [List.find?_filter]
  congr 1
  funext call
  cases hmulti : isMulticall call <;> simp [matters, hmulti]

theorem swapsAmong_filter_matters (calls : List Bytes) :
    swapsAmong (calls.filter matters) = swapsAmong calls := by
  rw [swapsAmong, List.filterMap_filter]
  refine List.filterMap_congr fun call _ => ?_
  cases hdecode : decode call with
  | error e => simp [Except.toOption]
  | ok swap => simp [matters, accepts, hdecode, Except.toBool]

theorem Guard.length_write_perm (guard : Guard) {calls others : List Bytes}
    (h : others.Perm calls) : (guard.write others).length = (guard.write calls).length := by
  have hcontents := Abi.length_contents_perm (h.map fun b => Abi.Part.apart (Abi.byteString b))
  have hcount := h.length_eq
  cases guard <;>
    simp only [write, Abi.write, Abi.length_frameOf, Abi.parts, Abi.Param.part, Abi.contents,
      List.length_append, Abi.length_array, List.length_map, hcontents, hcount, List.length_cons]

/-- Five units of one token for at least one unit of another. -/
def smallSwap : SingleArguments :=
  { tokenIn := ⟨0x8335⟩, tokenOut := ⟨0x4200⟩, fee := 500, recipient := ⟨0x1111⟩, deadline := 0
    exact := 5, bound := 1, priceLimit := 0 }

/-- A path of one hop and one more byte. -/
def longPath : PathArguments :=
  { packed := PoolPath.packHops [⟨0x8335⟩, ⟨0x4200⟩] [500] ++ [0], recipient := ⟨0x1111⟩
    deadline := 0, exact := 7, bound := 2 }

/-- What a multicall means. It is an error to wrap another multicall. Else, of the calls that decode
on their own there has to be exactly one; the order of the calls does not matter, and neither do calls
that are no multicalls and do not decode. -/
theorem decode_multicall (guard : Guard) (calls : List Bytes)
    (hsize : Abi.Addressable (guard.write calls)) :
    ((∃ call ∈ calls, ∃ g : Guard, g.selector.leads call = true) →
      ∃ problem, decode (multicall guard calls) = .error (.inputDecode problem)) ∧
    ((∀ call ∈ calls, ∀ g : Guard, g.selector.leads call = false) →
      (calls.countP accepts = 0 →
        decode (multicall guard calls) = .error (.malformedSwapSet .noOperation)) ∧
      (calls.countP accepts = 1 → ∀ call ∈ calls, ∀ swap, decode call = .ok swap →
        decode (multicall guard calls) = .ok swap) ∧
      (2 ≤ calls.countP accepts →
        decode (multicall guard calls) =
          .error (.malformedSwapSet (.operations (calls.countP accepts)))) ∧
      ∀ others : List Bytes, others.Perm calls →
        decode (multicall guard others) = decode (multicall guard calls)) ∧
    ∀ others : List Bytes, Abi.Addressable (guard.write others) →
      others.filter matters = calls.filter matters →
      decode (multicall guard others) = decode (multicall guard calls) := by
  have hread := read_multicall guard calls hsize
  refine ⟨fun hnested => ?_, fun hflat => ?_, fun others hothers hsame => ?_⟩
  · obtain ⟨call, hcall, hmulti⟩ := hnested
    obtain ⟨found, _, hdecode⟩ := decode_nested hread ⟨call, hcall, isMulticall_iff.2 hmulti⟩
    exact ⟨_, hdecode⟩
  · have hplain : ∀ call ∈ calls, isMulticall call = false := by
      intro call hcall
      rw [Bool.eq_false_iff, Ne, isMulticall_iff]
      rintro ⟨g, hg⟩
      rw [hflat call hcall g] at hg
      exact nomatch hg
    have hdecode := decode_flat hread hplain
    have hlength := length_swapsAmong calls
    refine ⟨fun hzero => ?_, fun hone call hcall swap hswap => ?_, fun htwo => ?_,
      fun others hperm => ?_⟩
    · rw [hdecode, List.eq_nil_of_length_eq_zero (hlength.trans hzero), onlySwap]
    · obtain ⟨only, honly⟩ := List.length_eq_one_iff.1 (hlength.trans hone)
      have hmem : swap ∈ swapsAmong calls :=
        List.mem_filterMap.2 ⟨call, hcall, toOption_eq_some_iff.2 hswap⟩
      rw [honly, List.mem_singleton] at hmem
      rw [hdecode, honly, hmem, onlySwap]
    · rw [← hlength] at htwo ⊢
      rw [hdecode, onlySwap_of_two_le htwo]
    · have hothers : Abi.Addressable (guard.write others) := by
        unfold Abi.Addressable
        rwa [guard.length_write_perm hperm]
      rw [decode_flat (read_multicall guard others hothers) fun call hcall =>
        hplain call (hperm.mem_iff.1 hcall), hdecode]
      exact onlySwap_perm (hperm.filterMap _)
  · have hread' := read_multicall guard others hothers
    rw [decode_of_read_multicall hread, decode_of_read_multicall hread',
      ← find?_filter_matters others, ← swapsAmong_filter_matters others, hsame,
      find?_filter_matters, swapsAmong_filter_matters]

/-- A swap and a helper call in either order, under a deadline. -/
theorem decode_multicall_of_swap_and_helper :
    let swap := singleCall .second false smallSwap
    let helper : Bytes := [0x12, 0x21, 0x0e, 0x8a]
    let guard := Guard.deadline 1700000000
    Abi.Addressable (guard.write [swap, helper]) ∧
      decode (multicall guard [helper, swap]) = decode (multicall guard [swap, helper]) ∧
      decode (multicall guard [swap, helper]) = decode swap := by
  intro swap helper guard
  have hsize : Abi.Addressable (guard.write [swap, helper]) := by decide +kernel
  have hflat : ∀ call ∈ [swap, helper], ∀ g : Guard, g.selector.leads call = false := by
    intro call hcall
    rw [← isMulticall_eq_false_iff]
    simp only [List.mem_cons, List.not_mem_nil, or_false] at hcall
    rcases hcall with rfl | rfl
    · exact isMulticall_call _ _
    · rfl
  have hswap : decode swap = .ok _ := decode_of_read_single (read_singleCall _ _ _)
  have hhelper : accepts helper = false := by
    rw [accepts, decode_eq_twoLevel]
    decide +kernel
  have hone : [swap, helper].countP accepts = 1 := by
    simp [accepts_iff.2 ⟨_, hswap⟩, hhelper]
  obtain ⟨-, hcount, -⟩ := decode_multicall guard [swap, helper] hsize
  obtain ⟨-, honly, -, hperm⟩ := hcount hflat
  refine ⟨hsize, hperm _ (.swap _ _ _), ?_⟩
  rw [hswap, honly hone swap List.mem_cons_self _ hswap]

/-- A multicall is taken for a single swap exactly when it wraps no multicall and, of its calls with
the selector of a swap, one can be read. However many others there are, they are passed over. -/
theorem decode_ok_iff_one_readable_swap {input : Bytes} {calls : List Bytes}
    (h : Request.read input = .ok (.multicall calls)) :
    ((∃ swap, decode input = .ok swap) ↔
      (∀ call ∈ calls, isMulticall call = false) ∧
        (calls.filter isSwapCall).countP accepts = 1) ∧
    (2 ≤ calls.countP isSwapCall → (∀ call ∈ calls, isSwapCall call = true → accepts call = true) →
      ∃ e, decode input = .error e) := by
  have hiff : (∃ swap, decode input = .ok swap) ↔ (∀ call ∈ calls, isMulticall call = false) ∧
      (calls.filter isSwapCall).countP accepts = 1 := by
    by_cases hflat : ∀ call ∈ calls, isMulticall call = false
    · have hcount : (calls.filter isSwapCall).countP accepts = (swapsAmong calls).length := by
        rw [length_swapsAmong, List.countP_filter]
        refine List.countP_congr fun call hcall => ?_
        rw [Bool.and_eq_true]
        exact ⟨And.left, fun ha => ⟨ha, isSwapCall_of_accepts ha (hflat call hcall)⟩⟩
      rw [decode_flat h hflat, hcount, List.length_eq_one_iff]
      simp only [onlySwap_ok_iff]
      exact ⟨fun hone => ⟨hflat, hone⟩, And.right⟩
    · obtain ⟨call, hcall, hmulti⟩ : ∃ call ∈ calls, isMulticall call = true := by
        simpa using hflat
      obtain ⟨found, -, hdecode⟩ := decode_nested h ⟨call, hcall, hmulti⟩
      rw [hdecode]
      exact ⟨nofun, fun hone => absurd hone.1 hflat⟩
  refine ⟨hiff, fun htwo hreadable => ?_⟩
  cases hdecode : decode input with
  | error e => exact ⟨e, rfl⟩
  | ok swap =>
    have hone := (hiff.1 ⟨swap, hdecode⟩).2
    have hall : (calls.filter isSwapCall).countP accepts = (calls.filter isSwapCall).length := by
      rw [List.countP_eq_length]
      intro call hcall
      exact hreadable call (List.mem_filter.1 hcall).1 (List.mem_filter.1 hcall).2
    rw [List.countP_eq_length_filter] at htwo
    omega

/-- The same swap twice: both calls can be read, so the multicall is an error. -/
theorem decode_multicall_of_two_readable_swaps :
    let calls := [singleCall .second false smallSwap, singleCall .second false smallSwap]
    Request.read (multicall .none calls) = .ok (.multicall calls) ∧
      2 ≤ calls.countP isSwapCall ∧
      (∀ call ∈ calls, isSwapCall call = true → accepts call = true) ∧
      ∃ e, decode (multicall .none calls) = .error e := by
  intro calls
  have hread := read_multicall .none calls (by decide +kernel)
  have hcount : calls.countP isSwapCall = 2 := by
    simp only [calls, singleCall, List.countP_cons, List.countP_nil, isSwapCall_call]
    rfl
  have haccepts : ∀ call ∈ calls, isSwapCall call = true → accepts call = true := by
    intro call hcall _
    simp only [calls, List.mem_cons, List.not_mem_nil, or_false, or_self] at hcall
    exact accepts_iff.2 ⟨_, hcall ▸ decode_of_read_single (read_singleCall _ _ _)⟩
  have htwo : 2 ≤ calls.countP isSwapCall := by rw [hcount]
  exact ⟨hread, htwo, haccepts, (decode_ok_iff_one_readable_swap hread).2 htwo haccepts⟩

/-- Two calls with selectors of swaps, the second along a path with a byte too many. Only the first
can be read, and the multicall decodes to it. -/
theorem two_swap_calls_decode_to_one :
    let readable := singleCall .second false smallSwap
    let unreadable := pathCall .second false longPath
    2 ≤ [readable, unreadable].countP isSwapCall ∧
      decode (multicall .none [readable, unreadable]) =
        .ok { function := "exactInputSingle", path := [⟨0x8335⟩, ⟨0x4200⟩], fees := [500]
              amountIn := some 5, amountInMax := none, amountOutMin := 1, exactOutput := false } := by
  intro readable unreadable
  have hcount : [readable, unreadable].countP isSwapCall = 2 := by
    simp only [readable, unreadable, singleCall, pathCall, List.countP_cons, List.countP_nil,
      isSwapCall_call]
    rfl
  have hfirst : decode readable = .ok _ := decode_of_read_single (read_singleCall _ _ _)
  have hsize : Abi.Addressable (longPath.write .second) := by decide +kernel
  have hsecond : decode unreadable = .error (.inputDecode (.path (.length 44))) := by
    rw [decode_of_read_path (read_pathCall _ _ _ hsize)]
    rfl
  have hread := read_multicall .none [readable, unreadable] (by decide +kernel)
  have hflat : ∀ call ∈ [readable, unreadable], isMulticall call = false := by
    intro call hcall
    simp only [List.mem_cons, List.not_mem_nil, or_false] at hcall
    rcases hcall with rfl | rfl <;> exact isMulticall_call _ _
  refine ⟨by rw [hcount], ?_⟩
  rw [decode_flat hread hflat]
  simp only [swapsAmong, List.filterMap_cons, hfirst, hsecond, Except.toOption,
    List.filterMap_nil, onlySwap]
  rfl

end DexTrade.V3Router
