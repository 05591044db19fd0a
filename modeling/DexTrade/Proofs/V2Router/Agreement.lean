import DexTrade.Proofs.Swap.Shape
import DexTrade.Proofs.UniversalRouter.Calldata
import DexTrade.Proofs.V2Router.Calldata
/-!
# One swap along pairs, asked for in two ways

A route and its amounts can be sent to a V2 router or as a command of the universal router. If both are
decoded they are the same swap but for the name of the function. A router call is decoded exactly if its
route has two tokens or more; a command is decoded whatever its route is, so below two tokens the decoders
part (`decoders_agree_from_two_tokens`).
-/
namespace DexTrade.V2Router

/-- A swap along a route of pairs that is paid in a token. -/
structure PairSwap where
  exactOutput : Bool
  route : List Address
  /-- The exact input or the exact output. -/
  exact : Word
  /-- The least output for an exact input, else the largest input. -/
  bound : Word

namespace PairSwap

def function (p : PairSwap) : Function :=
  if p.exactOutput then .tokensForExactTokens else .exactTokensForTokens

/-- The arguments of the swap as a router call, whichever side is exact. -/
def arguments (p : PairSwap) (recipient : Address) (deadline : Word) : Arguments where
  amountIn := p.exact
  amountInMax := p.bound
  amountOut := p.exact
  amountOutMin := p.bound
  route := p.route
  recipient := recipient
  deadline := deadline

def call (p : PairSwap) (recipient : Address) (deadline : Word) : Bytes :=
  (p.arguments recipient deadline).call p.function

/-- The swap as a command of the universal router. -/
def command (p : PairSwap) (allowRevert : Bool) (recipient : Address) (payerIsUser : Bool) :
    Operation where
  command := Operation.v2Command p.exactOutput
  allowRevert := allowRevert
  input := Operation.writeV2 recipient p.exact p.bound p.route payerIsUser

/-- The swap under the name of a function or a command. -/
def named (p : PairSwap) (function : String) : SwapCall :=
  if p.exactOutput then SwapCall.ofExactOutput function ⟨p.route, []⟩ p.exact (some p.bound)
  else SwapCall.ofExactInput function ⟨p.route, []⟩ (some p.exact) p.bound

theorem named_renamed (p : PairSwap) (function function' : String) :
    { p.named function with function := (p.named function').function } = p.named function' := by
  unfold named
  split <;> rfl

theorem path_named (p : PairSwap) (function : String) : (p.named function).path = p.route := by
  unfold named
  split <;> rfl

theorem swap_arguments (p : PairSwap) (recipient : Address) (deadline : Word) :
    (p.arguments recipient deadline).swap p.function = p.named p.function.name := by
  obtain ⟨exactOutput, route, exact, bound⟩ := p
  cases exactOutput <;> rfl

theorem decode_command {p : PairSwap} {allowRevert payerIsUser : Bool} {recipient : Address}
    (hsize : Abi.Addressable (p.command allowRevert recipient payerIsUser).input) :
    (p.command allowRevert recipient payerIsUser).decodeV2Swap =
      .ok (p.named (Operation.v2Command p.exactOutput).name) :=
  Operation.decodeV2Swap_of_written _ _ _ _ _ _ _ hsize

theorem decode_call_eq_ok_iff {p : PairSwap} {recipient : Address} {deadline : Word}
    (hsize : Abi.Addressable ((p.arguments recipient deadline).write p.function)) {c : SwapCall} :
    decode (p.call recipient deadline) = .ok c ↔
      2 ≤ p.route.length ∧ p.named p.function.name = c := by
  rw [call, Arguments.decode_call hsize, swap_arguments]
  split
  · rename_i hshort
    exact ⟨nofun, fun h => absurd hshort (Nat.not_lt.2 h.1)⟩
  · rename_i hlong
    rw [Except.ok.injEq]
    exact ⟨fun h => ⟨Nat.le_of_not_lt hlong, h⟩, And.right⟩

end PairSwap

/-- A command is decoded to its route, however short. A router call for the same swap is decoded exactly
if the route has two tokens or more, and then both are one swap. In particular no call of the router, in
standard form or not, is decoded to a route without two tokens; of commands this cannot be said. -/
theorem decoders_agree_from_two_tokens (p : PairSwap) (allowRevert payerIsUser : Bool)
    (recipient recipient' : Address) (deadline : Word)
    (hcall : Abi.Addressable ((p.arguments recipient' deadline).write p.function))
    (hcommand : Abi.Addressable (p.command allowRevert recipient payerIsUser).input) :
    (∃ swap, (p.command allowRevert recipient payerIsUser).decodeV2Swap = .ok swap ∧
      swap.path = p.route ∧
      ∀ c, decode (p.call recipient' deadline) = .ok c →
        { swap with function := c.function } = c) ∧
    ((∃ c, decode (p.call recipient' deadline) = .ok c) ↔ 2 ≤ p.route.length) ∧
    ∀ input c, decode input = .ok c → 2 ≤ c.path.length := by
  refine ⟨⟨_, PairSwap.decode_command hcommand, p.path_named _, fun c hc => ?_⟩, ?_,
    fun input c => two_le_of_decode⟩
  · obtain ⟨-, rfl⟩ := (PairSwap.decode_call_eq_ok_iff hcall).1 hc
    exact p.named_renamed _ _
  · simp only [PairSwap.decode_call_eq_ok_iff hcall]
    exact ⟨fun ⟨_, htwo, _⟩ => htwo, fun htwo => ⟨_, htwo, rfl⟩⟩

/-- An exact output of seven over three tokens, the command with other receivers than the call. -/
theorem exact_output_in_call_and_command :
    let p : PairSwap := ⟨true, [⟨0x8335⟩, ⟨0x4ed4⟩, ⟨0x4200⟩], 7, 2⟩
    let op := p.command true ⟨0x2222⟩ false
    let input := p.call ⟨0x1111⟩ 1700000000
    Abi.Addressable ((p.arguments ⟨0x1111⟩ 1700000000).write p.function) ∧
      Abi.Addressable op.input ∧
      ∃ swap c, op.decodeV2Swap = .ok swap ∧ decode input = .ok c ∧
        { swap with function := c.function } = c ∧ c.path = p.route := by
  intro p op input
  have hcall : Abi.Addressable ((p.arguments ⟨0x1111⟩ 1700000000).write p.function) := by
    decide +kernel
  have hcommand : Abi.Addressable op.input := by decide +kernel
  obtain ⟨⟨swap, hswap, hpath, hsame⟩, hiff, -⟩ :=
    decoders_agree_from_two_tokens p true false ⟨0x2222⟩ ⟨0x1111⟩ 1700000000 hcall hcommand
  obtain ⟨c, hc⟩ := hiff.2 (by decide)
  have heq := hsame c hc
  exact ⟨hcall, hcommand, swap, c, hswap, hc, heq, by rw [← heq, hpath]⟩

/-- A route of one token is decoded from a command and refused in a router call. -/
theorem one_token_decoded_from_command :
    let p : PairSwap := ⟨false, [⟨0x8335⟩], 7, 2⟩
    (∃ swap, (p.command false ⟨0x1111⟩ true).decodeV2Swap = .ok swap ∧ swap.path.length < 2) ∧
      ¬∃ c, decode (p.call ⟨0x1111⟩ 1700000000) = .ok c := by
  intro p
  have hcall : Abi.Addressable ((p.arguments ⟨0x1111⟩ 1700000000).write p.function) := by
    decide +kernel
  refine ⟨⟨_, PairSwap.decode_command (by decide +kernel), by decide⟩, ?_⟩
  rintro ⟨c, hc⟩
  exact absurd ((PairSwap.decode_call_eq_ok_iff hcall).1 hc).1 (by decide)

end DexTrade.V2Router
