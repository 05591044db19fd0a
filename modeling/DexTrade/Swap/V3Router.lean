import DexTrade.Abi.Interface
import DexTrade.Error
import DexTrade.Journal
import DexTrade.Swap.Call
/-!
# V3 router calls

Two router versions swap through one pool or along a packed path; the first has a deadline among the
arguments of every swap. A multicall wraps other calls, of which exactly one has to be a swap: helper
calls are passed over. A call is read as one of the first version, and where that fails, whatever the
reason, as one of the second.

`decode` follows wrapped calls to any depth, each of which is shorter than the call around it
(`length_lt_of_multicall`).
-/
namespace DexTrade.V3Router

/-- A router call whose arguments have been read. For an exact input `bound` is the least output, for
an exact output it is the largest input. -/
inductive Request where
  | single (exactOutput : Bool) (tokenIn tokenOut : Address) (fee : BitVec 24) (exact bound : Word)
  | path (exactOutput : Bool) (packed : Bytes) (exact bound : Word)
  | multicall (calls : List Bytes)

/-- Both tokens, fee, receiver, deadline, exact amount, bound and price limit. -/
def singleParamsWithDeadline : List Abi.Param :=
  [.address, .address, .uint 24, .address, .uint 256, .uint 256, .uint 256, .uint 160]

/-- Both tokens, fee, receiver, exact amount, bound and price limit. -/
def singleParams : List Abi.Param :=
  [.address, .address, .uint 24, .address, .uint 256, .uint 256, .uint 160]

/-- Packed path, receiver, deadline, exact amount and bound. -/
def pathParamsWithDeadline : List Abi.Param :=
  [.bytes, .address, .uint 256, .uint 256, .uint 256]

/-- Packed path, receiver, exact amount and bound. -/
def pathParams : List Abi.Param :=
  [.bytes, .address, .uint 256, .uint 256]

/-- A deadline or the hash of an earlier block, and the wrapped calls. -/
def guardedMulticallParams : List Abi.Param :=
  [.uint 256, .byteStrings]

def readSingleWithDeadline (exactOutput : Bool) (arguments : Bytes) : Except Abi.Error Request := do
  let (tokenIn, tokenOut, fee, _, _, exact, bound, _) ← Abi.read singleParamsWithDeadline arguments
  return .single exactOutput tokenIn tokenOut fee exact bound

def readSingle (exactOutput : Bool) (arguments : Bytes) : Except Abi.Error Request := do
  let (tokenIn, tokenOut, fee, _, exact, bound, _) ← Abi.read singleParams arguments
  return .single exactOutput tokenIn tokenOut fee exact bound

def readPathWithDeadline (exactOutput : Bool) (arguments : Bytes) : Except Abi.Error Request := do
  let (packed, _, _, exact, bound, _) ← Abi.readApart pathParamsWithDeadline arguments
  return .path exactOutput packed exact bound

def readPath (exactOutput : Bool) (arguments : Bytes) : Except Abi.Error Request := do
  let (packed, _, exact, bound, _) ← Abi.readApart pathParams arguments
  return .path exactOutput packed exact bound

def readMulticall (arguments : Bytes) : Except Abi.Error Request := do
  let (calls, _) ← Abi.read [.byteStrings] arguments
  return .multicall calls

def readGuardedMulticall (arguments : Bytes) : Except Abi.Error Request := do
  let (_, calls, _) ← Abi.read guardedMulticallParams arguments
  return .multicall calls

def multicallSelector : Selector := 0xac9650d8
def deadlineMulticallSelector : Selector := 0x5ae401dc
def blockHashMulticallSelector : Selector := 0x1f0464d1

/-- The first version, with a deadline in the arguments of each swap. -/
def firstVersion : Abi.Interface Request where
  name := "ISwapRouterCalls"
  shortest := 68
  functions :=
    [(0x414bf389, readSingleWithDeadline false), (0xc04b8d59, readPathWithDeadline false),
      (0xdb3e2198, readSingleWithDeadline true), (0xf28c0498, readPathWithDeadline true),
      (multicallSelector, readMulticall)]

/-- The second version, in which only a multicall names a deadline or a block. -/
def secondVersion : Abi.Interface Request where
  name := "ISwapRouter02Calls"
  shortest := 100
  functions :=
    [(0x04e45aaf, readSingle false), (0xb858183f, readPath false), (0x5023b4df, readSingle true),
      (0x09b81346, readPath true), (deadlineMulticallSelector, readGuardedMulticall),
      (blockHashMulticallSelector, readGuardedMulticall)]

/-- Reads a call of either version; of two failures the second version's is reported. -/
def Request.read (input : Bytes) : Except Abi.Error Request :=
  match firstVersion.read input with
  | .ok request => .ok request
  | .error _ => secondVersion.read input

def multicallSelectors : List Selector :=
  [multicallSelector, deadlineMulticallSelector, blockHashMulticallSelector]

/-- Whether an input is a call of one of the three multicall functions. -/
def isMulticall (input : Bytes) : Bool :=
  4 ≤ input.length && multicallSelectors.contains (Selector.ofInput input)

/-- A swap through the one pool of two tokens. -/
def singleSwap (exactOutput : Bool) (tokenIn tokenOut : Address) (fee : BitVec 24)
    (exact bound : Word) : SwapCall :=
  let route : PoolPath := ⟨[tokenIn, tokenOut], [fee.toNat]⟩
  if exactOutput then SwapCall.ofExactOutput "exactOutputSingle" route exact (some bound)
  else SwapCall.ofExactInput "exactInputSingle" route (some exact) bound

/-- A swap along a packed path, which an exact output has from its last token on. The function's name
is given for both sides. -/
def pathSwap (inputName outputName : String) (exactOutput : Bool) (packed : Bytes)
    (exact bound : Word) : Except TradeError SwapCall :=
  match PoolPath.unpack packed with
  | .error cause => .error (.inputDecode (.path cause))
  | .ok route =>
    if exactOutput then .ok (SwapCall.ofExactOutput outputName route.reversed exact (some bound))
    else .ok (SwapCall.ofExactInput inputName route (some exact) bound)

/-- The swap of a call that wraps no others; nothing for a multicall. -/
def Request.swap? : Request → Option (Except TradeError SwapCall)
  | .single exactOutput tokenIn tokenOut fee exact bound =>
    some (.ok (singleSwap exactOutput tokenIn tokenOut fee exact bound))
  | .path exactOutput packed exact bound =>
    some (pathSwap "exactInput" "exactOutput" exactOutput packed exact bound)
  | .multicall _ => none

/-- The only swap there is. -/
def onlySwap : List SwapCall → Except TradeError SwapCall
  | [] => .error (.malformedSwapSet .noOperation)
  | [swap] => .ok swap
  | swaps => .error (.malformedSwapSet (.operations swaps.length))

def unreadable (input : Bytes) (cause : Abi.Error) : TradeError :=
  .inputDecode (.notV3Router (Selector.describe input) cause)

def nested (call : Bytes) : TradeError :=
  .inputDecode (.nestedMulticall (Selector.describe call))

/-! ## Wrapped calls are shorter -/

/-- A reader of arguments finds no wrapped call longer than them. -/
def Bounded (reader : Bytes → Except Abi.Error Request) : Prop :=
  ∀ arguments calls, reader arguments = .ok (.multicall calls) →
    ∀ call ∈ calls, call.length ≤ arguments.length

/-- A reader that never finds a multicall. -/
def FindsSwaps (reader : Bytes → Except Abi.Error Request) : Prop :=
  ∀ arguments calls, reader arguments ≠ .ok (.multicall calls)

theorem FindsSwaps.bounded {reader : Bytes → Except Abi.Error Request} (h : FindsSwaps reader) :
    Bounded reader :=
  fun arguments calls hcalls => absurd hcalls (h arguments calls)

theorem findsSwaps_of_bind {α : Type} {values : Bytes → Except Abi.Error α} {make : α → Request}
    (hmake : ∀ a calls, make a ≠ .multicall calls) :
    FindsSwaps fun arguments => (do let a ← values arguments; return make a) := by
  intro arguments calls h
  cases hv : values arguments with
  | error e => simp [hv, bind, Except.bind] at h
  | ok a =>
    simp only [hv, bind, Except.bind, pure, Except.pure, Except.ok.injEq] at h
    exact hmake a calls h

theorem findsSwaps_readSingleWithDeadline (exactOutput : Bool) :
    FindsSwaps (readSingleWithDeadline exactOutput) :=
  findsSwaps_of_bind fun _ _ => nofun

theorem findsSwaps_readSingle (exactOutput : Bool) : FindsSwaps (readSingle exactOutput) :=
  findsSwaps_of_bind fun _ _ => nofun

theorem findsSwaps_readPathWithDeadline (exactOutput : Bool) :
    FindsSwaps (readPathWithDeadline exactOutput) :=
  findsSwaps_of_bind fun _ _ => nofun

theorem findsSwaps_readPath (exactOutput : Bool) : FindsSwaps (readPath exactOutput) :=
  findsSwaps_of_bind fun _ _ => nofun

theorem bounded_readMulticall : Bounded readMulticall := by
  intro arguments calls h
  unfold readMulticall at h
  simp only [Abi.read, Abi.readFrom, Abi.Param.read, bind, Except.bind, pure, Except.pure] at h
  cases ha : Abi.arrayAt Abi.byteStringAt arguments 0 with
  | error e => simp [ha] at h
  | ok found =>
    simp only [ha, Except.ok.injEq, Request.multicall.injEq] at h
    subst h
    exact Abi.length_le_of_arrayAt ha

theorem bounded_readGuardedMulticall : Bounded readGuardedMulticall := by
  intro arguments calls h
  unfold readGuardedMulticall guardedMulticallParams at h
  simp only [Abi.read, Abi.readFrom, Abi.Param.read, bind, Except.bind, pure, Except.pure] at h
  cases hw : Abi.wordAt arguments 0 with
  | error e => simp [hw, Except.map] at h
  | ok w =>
    cases ha : Abi.arrayAt Abi.byteStringAt arguments (0 + 32) with
    | error e => simp [hw, ha, Except.map] at h
    | ok found =>
      simp only [hw, ha, Except.map, Except.ok.injEq, Request.multicall.injEq] at h
      subst h
      exact Abi.length_le_of_arrayAt ha

/-- Every function of both versions is bounded, and only the multicall functions find multicalls. -/
theorem functions_firstVersion {selector : Selector} {reader : Bytes → Except Abi.Error Request}
    (h : (selector, reader) ∈ firstVersion.functions) :
    Bounded reader ∧ (selector ∉ multicallSelectors → FindsSwaps reader) := by
  simp only [firstVersion, List.mem_cons, Prod.mk.injEq, List.not_mem_nil, or_false] at h
  rcases h with ⟨rfl, rfl⟩ | ⟨rfl, rfl⟩ | ⟨rfl, rfl⟩ | ⟨rfl, rfl⟩ | ⟨rfl, rfl⟩
  · exact ⟨(findsSwaps_readSingleWithDeadline _).bounded, fun _ => findsSwaps_readSingleWithDeadline _⟩
  · exact ⟨(findsSwaps_readPathWithDeadline _).bounded, fun _ => findsSwaps_readPathWithDeadline _⟩
  · exact ⟨(findsSwaps_readSingleWithDeadline _).bounded, fun _ => findsSwaps_readSingleWithDeadline _⟩
  · exact ⟨(findsSwaps_readPathWithDeadline _).bounded, fun _ => findsSwaps_readPathWithDeadline _⟩
  · exact ⟨bounded_readMulticall, fun hs => absurd (by decide) hs⟩

theorem functions_secondVersion {selector : Selector} {reader : Bytes → Except Abi.Error Request}
    (h : (selector, reader) ∈ secondVersion.functions) :
    Bounded reader ∧ (selector ∉ multicallSelectors → FindsSwaps reader) := by
  simp only [secondVersion, List.mem_cons, Prod.mk.injEq, List.not_mem_nil, or_false] at h
  rcases h with ⟨rfl, rfl⟩ | ⟨rfl, rfl⟩ | ⟨rfl, rfl⟩ | ⟨rfl, rfl⟩ | ⟨rfl, rfl⟩ | ⟨rfl, rfl⟩
  · exact ⟨(findsSwaps_readSingle _).bounded, fun _ => findsSwaps_readSingle _⟩
  · exact ⟨(findsSwaps_readPath _).bounded, fun _ => findsSwaps_readPath _⟩
  · exact ⟨(findsSwaps_readSingle _).bounded, fun _ => findsSwaps_readSingle _⟩
  · exact ⟨(findsSwaps_readPath _).bounded, fun _ => findsSwaps_readPath _⟩
  · exact ⟨bounded_readGuardedMulticall, fun hs => absurd (by decide) hs⟩
  · exact ⟨bounded_readGuardedMulticall, fun hs => absurd (by decide) hs⟩

/-- A request that was read comes from a function of one of the versions. -/
theorem exists_reader_of_read {input : Bytes} {request : Request}
    (h : Request.read input = .ok request) :
    4 ≤ input.length ∧ ∃ reader, reader (input.drop 4) = .ok request ∧
      ((Selector.ofInput input, reader) ∈ firstVersion.functions ∨
        (Selector.ofInput input, reader) ∈ secondVersion.functions) := by
  unfold Request.read at h
  split at h
  · rename_i found hfound
    cases h
    obtain ⟨hlen, reader, hmem, hread⟩ := Abi.Interface.exists_reader_of_read hfound
    exact ⟨Nat.le_trans (by decide) hlen, reader, hread, .inl hmem⟩
  · obtain ⟨hlen, reader, hmem, hread⟩ := Abi.Interface.exists_reader_of_read h
    exact ⟨Nat.le_trans (by decide) hlen, reader, hread, .inr hmem⟩

theorem length_lt_of_multicall {input : Bytes} {calls : List Bytes}
    (h : Request.read input = .ok (.multicall calls)) :
    ∀ call ∈ calls, call.length < input.length := by
  obtain ⟨hlen, reader, hread, hmem⟩ := exists_reader_of_read h
  have hbounded : Bounded reader := by
    rcases hmem with hmem | hmem
    · exact (functions_firstVersion hmem).1
    · exact (functions_secondVersion hmem).1
  intro call hcall
  have := hbounded _ _ hread call hcall
  simp only [List.length_drop] at this
  omega

/-! ## Decoding -/

/-- The swap a call of either router version asks for. -/
def decode (input : Bytes) : Except TradeError SwapCall :=
  match _h : Request.read input with
  | .error cause => .error (unreadable input cause)
  | .ok (.single exactOutput tokenIn tokenOut fee exact bound) =>
    .ok (singleSwap exactOutput tokenIn tokenOut fee exact bound)
  | .ok (.path exactOutput packed exact bound) =>
    pathSwap "exactInput" "exactOutput" exactOutput packed exact bound
  | .ok (.multicall calls) =>
    match calls.find? isMulticall with
    | some call => .error (nested call)
    | none => onlySwap (calls.attach.filterMap fun ⟨call, _⟩ => (decode call).toOption)
termination_by input.length
decreasing_by exact length_lt_of_multicall _h _ ‹_›

/-- What reading a call leaves in the journal: the wrapped calls that were passed over. -/
def entries (input : Bytes) : List Entry :=
  match Request.read input with
  | .ok (.multicall calls) =>
    if calls.any isMulticall then []
    else calls.filterMap fun call =>
      match decode call with
      | .ok _ => none
      | .error e =>
        some (.trace ("Skipping multicall entry " ++ Selector.describe call ++ ": " ++ e.message))
  | _ => []

end DexTrade.V3Router
