import DexTrade.Abi.Interface
import DexTrade.Error
import DexTrade.Journal
import DexTrade.Swap.Call
import DexTrade.Swap.V3Router
/-!
# Universal router calls

The universal router runs one operation for each command byte; the operation's arguments are the
input of the same index. Both forms of the call carry commands and inputs, one of them a deadline
too.
-/
namespace DexTrade

/-- One command with its arguments as they came. -/
structure Operation where
  command : Command
  /-- The operation may revert without failing the transaction. -/
  allowRevert : Bool
  input : Bytes
  deriving DecidableEq

namespace Operation

/-- Receiver, exact amount, bound, route and whether the sender pays. -/
def v3Params : List Abi.Param :=
  [.address, .uint 256, .uint 256, .bytes, .bool]

def v2Params : List Abi.Param :=
  [.address, .uint 256, .uint 256, .addresses, .bool]

def unreadable (command : Command) (cause : Abi.Error) : TradeError :=
  .inputDecode (.commandInput command cause)

/-- The swap of a V3 swap command. An exact output has its packed path from the last token on. -/
def decodeV3Swap (op : Operation) : Except TradeError SwapCall :=
  if op.command.isV3Swap then
    match Abi.read v3Params op.input with
    | .error cause => .error (unreadable op.command cause)
    | .ok (_, exact, bound, packed, _) =>
      V3Router.pathSwap op.command.name op.command.name (op.command == .v3SwapExactOut) packed
        exact bound
  else .error (.inputDecode (.notV3Command op.command))

/-- The swap of a V2 swap command. The route is taken as it comes, however short. -/
def decodeV2Swap (op : Operation) : Except TradeError SwapCall :=
  if op.command.isV2Swap then
    match Abi.read v2Params op.input with
    | .error cause => .error (unreadable op.command cause)
    | .ok (_, exact, bound, route, _) =>
      if op.command = .v2SwapExactOut then
        .ok (SwapCall.ofExactOutput op.command.name ⟨route, []⟩ exact (some bound))
      else
        .ok (SwapCall.ofExactInput op.command.name ⟨route, []⟩ (some exact) bound)
  else .error (.inputDecode (.notV2Command op.command))

end Operation

/-- A call of the universal router. -/
structure ExecuteCall where
  operations : List Operation
  deadline : Option Word
  deriving DecidableEq

namespace ExecuteCall

/-- The swaps among the operations, in order. -/
def swapOperations (c : ExecuteCall) : List Operation :=
  c.operations.filter fun op => op.command.isSwap

/-- The arguments of a call: one byte a command, the inputs, and the deadline if there is one. -/
structure Arguments where
  commands : Bytes
  inputs : List Bytes
  deadline : Option Word

def readWithDeadline (arguments : Bytes) : Except Abi.Error Arguments := do
  let (commands, inputs, deadline, _) ← Abi.read [.bytes, .byteStrings, .uint 256] arguments
  return ⟨commands, inputs, some deadline⟩

def readWithoutDeadline (arguments : Bytes) : Except Abi.Error Arguments := do
  let (commands, inputs, _) ← Abi.read [.bytes, .byteStrings] arguments
  return ⟨commands, inputs, none⟩

def interface : Abi.Interface Arguments where
  name := "IUniversalRouterCalls"
  shortest := 132
  functions := [(0x3593564c, readWithDeadline), (0x24856bc3, readWithoutDeadline)]

/-- The operation of a command byte and its input. -/
def operation (command : UInt8) (input : Bytes) : Operation :=
  ⟨Command.ofByte command, Command.mayRevert command, input⟩

/-- The operations a call of the universal router asks for, one for each command byte. -/
def decode (input : Bytes) : Except TradeError ExecuteCall :=
  match interface.read input with
  | .error cause => .error (.inputDecode (.notUniversalRouter (Selector.describe input) cause))
  | .ok ⟨commands, inputs, deadline⟩ =>
    if commands.length = inputs.length then
      .ok ⟨List.zipWith operation commands inputs, deadline⟩
    else
      .error (.inputDecode (.inputCount commands.length inputs.length))

/-- What reading a call leaves in the journal. -/
def entries (input : Bytes) : List Entry :=
  match decode input with
  | .ok call =>
    let names := ", ".intercalate (call.operations.map fun op => op.command.describe)
    [.trace ("Decoded execute: [" ++ names ++ "]")]
  | .error _ => []

end ExecuteCall

end DexTrade
