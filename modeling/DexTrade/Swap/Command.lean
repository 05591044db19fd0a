import DexTrade.Text.Hex
/-!
# Router commands

The universal router runs a list of commands, one byte each. The low six bits name the command; the
highest bit lets it revert without failing the transaction.
-/
namespace DexTrade

inductive Command where
  | v3SwapExactIn
  | v3SwapExactOut
  | permit2TransferFrom
  | permit2PermitBatch
  | sweep
  | transfer
  | payPortion
  | v2SwapExactIn
  | v2SwapExactOut
  | permit2Permit
  | wrapEth
  | unwrapWeth
  | permit2TransferFromBatch
  | balanceCheckErc20
  | v4Swap
  | v3PositionManagerPermit
  | v3PositionManagerCall
  | v4InitializePool
  | v4PositionManagerCall
  | executeSubPlan
  | unknown (code : UInt8)
  deriving DecidableEq

namespace Command

/-- The command a code of six bits names. -/
def ofCode : UInt8 → Command
  | 0x00 => .v3SwapExactIn
  | 0x01 => .v3SwapExactOut
  | 0x02 => .permit2TransferFrom
  | 0x03 => .permit2PermitBatch
  | 0x04 => .sweep
  | 0x05 => .transfer
  | 0x06 => .payPortion
  | 0x08 => .v2SwapExactIn
  | 0x09 => .v2SwapExactOut
  | 0x0a => .permit2Permit
  | 0x0b => .wrapEth
  | 0x0c => .unwrapWeth
  | 0x0d => .permit2TransferFromBatch
  | 0x0e => .balanceCheckErc20
  | 0x10 => .v4Swap
  | 0x11 => .v3PositionManagerPermit
  | 0x12 => .v3PositionManagerCall
  | 0x13 => .v4InitializePool
  | 0x14 => .v4PositionManagerCall
  | 0x21 => .executeSubPlan
  | code => .unknown code

/-- The command in the low six bits of a byte. -/
def ofByte (b : UInt8) : Command :=
  ofCode (b &&& 0x3f)

/-- Whether the byte lets its command revert on its own. -/
def mayRevert (b : UInt8) : Bool :=
  b &&& 0x80 != 0

def name : Command → String
  | .v3SwapExactIn => "V3_SWAP_EXACT_IN"
  | .v3SwapExactOut => "V3_SWAP_EXACT_OUT"
  | .permit2TransferFrom => "PERMIT2_TRANSFER_FROM"
  | .permit2PermitBatch => "PERMIT2_PERMIT_BATCH"
  | .sweep => "SWEEP"
  | .transfer => "TRANSFER"
  | .payPortion => "PAY_PORTION"
  | .v2SwapExactIn => "V2_SWAP_EXACT_IN"
  | .v2SwapExactOut => "V2_SWAP_EXACT_OUT"
  | .permit2Permit => "PERMIT2_PERMIT"
  | .wrapEth => "WRAP_ETH"
  | .unwrapWeth => "UNWRAP_WETH"
  | .permit2TransferFromBatch => "PERMIT2_TRANSFER_FROM_BATCH"
  | .balanceCheckErc20 => "BALANCE_CHECK_ERC20"
  | .v4Swap => "V4_SWAP"
  | .v3PositionManagerPermit => "V3_POSITION_MANAGER_PERMIT"
  | .v3PositionManagerCall => "V3_POSITION_MANAGER_CALL"
  | .v4InitializePool => "V4_INITIALIZE_POOL"
  | .v4PositionManagerCall => "V4_POSITION_MANAGER_CALL"
  | .executeSubPlan => "EXECUTE_SUB_PLAN"
  | .unknown _ => "UNKNOWN"

/-- The name, with the code of a command that has none. -/
def describe : Command → String
  | .unknown code => "UNKNOWN(0x" ++ Hex.text [code] ++ ")"
  | c => c.name

def isV3Swap : Command → Bool
  | .v3SwapExactIn | .v3SwapExactOut => true
  | _ => false

def isV2Swap : Command → Bool
  | .v2SwapExactIn | .v2SwapExactOut => true
  | _ => false

def isSwap (c : Command) : Bool :=
  c.isV3Swap || c.isV2Swap

end Command

end DexTrade
