import DexTrade.Proofs.Abi.RoundTrip
import DexTrade.Proofs.Abi.Selector
import DexTrade.Swap.V2Router
/-!
# V2 router calls in standard form

The calls of the nine functions as their senders write them: a selector, the amounts that the function
takes, the route, the receiver and the deadline. A call is read as the swap it was written for
(`read_call`), and the swap is taken unless its route has no two tokens (`decode_router_calls`). The
selectors and the order of the amounts are spelled out here, function by function, and not shared with
the reader.
-/
namespace DexTrade.V2Router

/-- What the calls of all functions name together. -/
structure Arguments where
  /-- The input of an exact input that is paid in a token. -/
  amountIn : Word
  /-- The largest input of an exact output that is paid in a token. -/
  amountInMax : Word
  /-- The output of an exact output. -/
  amountOut : Word
  /-- The least output of an exact input. -/
  amountOutMin : Word
  route : List Address
  recipient : Address
  deadline : Word

def Function.callSelector : Function → Selector
  -- swapExactTokensForTokens(uint256,uint256,address[],address,uint256)
  | .exactTokensForTokens => 0x38ed1739
  -- swapTokensForExactTokens(uint256,uint256,address[],address,uint256)
  | .tokensForExactTokens => 0x8803dbee
  -- swapExactETHForTokens(uint256,address[],address,uint256)
  | .exactEtherForTokens => 0x7ff36ab5
  -- swapTokensForExactETH(uint256,uint256,address[],address,uint256)
  | .tokensForExactEther => 0x4a25d94a
  -- swapExactTokensForETH(uint256,uint256,address[],address,uint256)
  | .exactTokensForEther => 0x18cbafe5
  -- swapETHForExactTokens(uint256,address[],address,uint256)
  | .etherForExactTokens => 0xfb3bdb41
  -- the three exact inputs once more, their names ending in SupportingFeeOnTransferTokens
  | .exactTokensForTokensWithTransferFee => 0x5c11d795
  | .exactEtherForTokensWithTransferFee => 0xb6f9de95
  | .exactTokensForEtherWithTransferFee => 0x791ac947

namespace Arguments

def writeTwo (a : Arguments) (first second : Word) : Bytes :=
  Abi.write [.uint 256, .uint 256, .addresses, .address, .uint 256]
    (first, second, a.route, a.recipient, a.deadline, ())

def writeOne (a : Arguments) (amount : Word) : Bytes :=
  Abi.write [.uint 256, .addresses, .address, .uint 256]
    (amount, a.route, a.recipient, a.deadline, ())

/-- The arguments of a call, the amounts in the order of its function. -/
def write (a : Arguments) : Function → Bytes
  | .exactTokensForTokens => a.writeTwo a.amountIn a.amountOutMin
  | .tokensForExactTokens => a.writeTwo a.amountOut a.amountInMax
  | .exactEtherForTokens => a.writeOne a.amountOutMin
  | .tokensForExactEther => a.writeTwo a.amountOut a.amountInMax
  | .exactTokensForEther => a.writeTwo a.amountIn a.amountOutMin
  | .etherForExactTokens => a.writeOne a.amountOut
  | .exactTokensForTokensWithTransferFee => a.writeTwo a.amountIn a.amountOutMin
  | .exactEtherForTokensWithTransferFee => a.writeOne a.amountOutMin
  | .exactTokensForEtherWithTransferFee => a.writeTwo a.amountIn a.amountOutMin

def call (a : Arguments) (f : Function) : Bytes :=
  f.callSelector.toBytes ++ a.write f

/-- The swap that a call stands for, whichever function it is for. -/
def swap (a : Arguments) (f : Function) : SwapCall :=
  if f.isExactOutput then
    SwapCall.ofExactOutput f.name ⟨a.route, []⟩ a.amountOut
      (if f.paysEther then none else some a.amountInMax)
  else
    SwapCall.ofExactInput f.name ⟨a.route, []⟩ (if f.paysEther then none else some a.amountIn)
      a.amountOutMin

/-! ## Reading -/

theorem le_length_write (a : Arguments) (f : Function) : 160 ≤ (a.write f).length := by
  cases f <;>
    simp only [write, writeTwo, writeOne, Abi.write, Abi.length_frameOf, Abi.parts, Abi.Param.part,
      Abi.contents, List.length_append, List.length_cons, List.length_nil, Abi.length_array] <;>
    omega

theorem read_writeTwo {a : Arguments} {first second : Word}
    (hsize : Abi.Addressable (a.writeTwo first second)) :
    Abi.read tokenParams (a.writeTwo first second) =
      .ok (first, second, a.route, a.recipient, a.deadline, ()) :=
  Abi.read_write (by decide) _ hsize

theorem read_writeOne {a : Arguments} {amount : Word}
    (hsize : Abi.Addressable (a.writeOne amount)) :
    Abi.read etherParams (a.writeOne amount) =
      .ok (amount, a.route, a.recipient, a.deadline, ()) :=
  Abi.read_write (by decide) _ hsize

/-- Each function reads its own arguments. -/
theorem readArguments_write {a : Arguments} {f : Function} (hsize : Abi.Addressable (a.write f)) :
    readArguments f (a.write f) = .ok (a.swap f) := by
  unfold readArguments
  cases f with
  | exactTokensForTokens | tokensForExactTokens | tokensForExactEther | exactTokensForEther
  | exactTokensForTokensWithTransferFee | exactTokensForEtherWithTransferFee =>
    rw [if_neg (by decide), write, read_writeTwo hsize]
    rfl
  | exactEtherForTokens | etherForExactTokens | exactEtherForTokensWithTransferFee =>
    rw [if_pos (by decide), write, read_writeOne hsize]
    rfl

theorem read_call {a : Arguments} {f : Function} (hsize : Abi.Addressable (a.write f)) :
    interface.read (a.call f) = .ok (a.swap f) := by
  have hlookup : interface.functions.lookup f.callSelector = some (readArguments f) := by
    cases f <;> rfl
  have hlength : interface.shortest ≤ 4 + (a.write f).length :=
    Nat.add_le_add_left (a.le_length_write f) 4
  rw [call, Abi.Interface.read_call hlookup hlength, readArguments_write hsize]

theorem path_swap (a : Arguments) (f : Function) : (a.swap f).path = a.route := by
  unfold swap
  split <;> rfl

theorem function_swap (a : Arguments) (f : Function) : (a.swap f).function = f.name := by
  unfold swap
  split <;> rfl

theorem decode_call {a : Arguments} {f : Function} (hsize : Abi.Addressable (a.write f)) :
    decode (a.call f) =
      if a.route.length < 2 then
        .error (.inputDecode (.routeTooShort (a.swap f).function a.route.length))
      else .ok (a.swap f) := by
  rw [decode, read_call hsize]
  simp only [path_swap]

end Arguments

/-! ## What the functions mean -/

/-- A call whose route has no two tokens is refused. Any other decodes to its route as it was written, and
to the amounts that its function takes: an exact input with its least output, or an exact output with its
largest input. What is paid in ether is not named. -/
theorem decode_router_calls (a : Arguments) :
    (∀ f, Abi.Addressable (a.write f) → a.route.length < 2 →
      decode (a.call f) = .error (.inputDecode (.routeTooShort f.name a.route.length))) ∧
    (2 ≤ a.route.length →
      (∀ f ∈ [Function.exactTokensForTokens, .exactTokensForEther,
          .exactTokensForTokensWithTransferFee, .exactTokensForEtherWithTransferFee],
        Abi.Addressable (a.write f) →
        decode (a.call f) =
          .ok { function := f.name, path := a.route, fees := [], amountIn := some a.amountIn
                amountInMax := none, amountOutMin := a.amountOutMin, exactOutput := false }) ∧
      (∀ f ∈ [Function.exactEtherForTokens, .exactEtherForTokensWithTransferFee],
        Abi.Addressable (a.write f) →
        decode (a.call f) =
          .ok { function := f.name, path := a.route, fees := [], amountIn := none
                amountInMax := none, amountOutMin := a.amountOutMin, exactOutput := false }) ∧
      (∀ f ∈ [Function.tokensForExactTokens, .tokensForExactEther],
        Abi.Addressable (a.write f) →
        decode (a.call f) =
          .ok { function := f.name, path := a.route, fees := [], amountIn := none
                amountInMax := some a.amountInMax, amountOutMin := a.amountOut
                exactOutput := true }) ∧
      (Abi.Addressable (a.write .etherForExactTokens) →
        decode (a.call .etherForExactTokens) =
          .ok { function := Function.etherForExactTokens.name, path := a.route, fees := []
                amountIn := none, amountInMax := none, amountOutMin := a.amountOut
                exactOutput := true })) := by
  constructor
  · intro f hsize hshort
    rw [Arguments.decode_call hsize, if_pos hshort, Arguments.function_swap]
  · intro htwo
    have hdecode : ∀ f, Abi.Addressable (a.write f) → decode (a.call f) = .ok (a.swap f) := by
      intro f hsize
      rw [Arguments.decode_call hsize, if_neg (Nat.not_lt.2 htwo)]
    refine ⟨fun f hf hsize => ?_, fun f hf hsize => ?_, fun f hf hsize => ?_, fun hsize => ?_⟩
    · rw [hdecode f hsize]
      simp only [List.mem_cons, List.not_mem_nil, or_false] at hf
      rcases hf with rfl | rfl | rfl | rfl <;> rfl
    · rw [hdecode f hsize]
      simp only [List.mem_cons, List.not_mem_nil, or_false] at hf
      rcases hf with rfl | rfl <;> rfl
    · rw [hdecode f hsize]
      simp only [List.mem_cons, List.not_mem_nil, or_false] at hf
      rcases hf with rfl | rfl <;> rfl
    · exact hdecode .etherForExactTokens hsize

/-- At most two of one token for exactly three in ether, over three tokens and along a route without a
second token. -/
theorem decode_tokens_for_exact_ether :
    let route : List Address := [⟨0x8335⟩, ⟨0x4ed4⟩, ⟨0x4200⟩]
    let a : Arguments := ⟨1, 2, 3, 4, route, ⟨0x1111⟩, 1700000000⟩
    let short : Arguments := { a with route := [⟨0x8335⟩] }
    Abi.Addressable (a.write .tokensForExactEther) ∧ 2 ≤ a.route.length ∧
      decode (a.call .tokensForExactEther) =
        .ok { function := "swapTokensForExactETH", path := route, fees := [], amountIn := none
              amountInMax := some 2, amountOutMin := 3, exactOutput := true } ∧
      Abi.Addressable (short.write .tokensForExactEther) ∧ short.route.length < 2 ∧
      decode (short.call .tokensForExactEther) =
        .error (.inputDecode (.routeTooShort "swapTokensForExactETH" 1)) := by
  intro route a short
  have hsize : Abi.Addressable (a.write .tokensForExactEther) := by decide +kernel
  have hshort : Abi.Addressable (short.write .tokensForExactEther) := by decide +kernel
  have htwo : 2 ≤ a.route.length := by decide
  obtain ⟨-, -, hexact, -⟩ := (decode_router_calls a).2 htwo
  exact ⟨hsize, htwo, hexact .tokensForExactEther (by decide) hsize, hshort, by decide,
    (decode_router_calls short).1 .tokensForExactEther hshort (by decide)⟩

end DexTrade.V2Router
