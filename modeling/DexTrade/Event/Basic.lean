import DexTrade.Address
/-!
# Events

The six events a receipt is searched for: the swaps of both pool generations, the reserves of a pair,
and token movements. An event names the contract that emitted it and carries its arguments by name;
`unsigned?`, `signed?` and `address?` look one up and answer only for the right sort of value.
-/
namespace DexTrade

/-- A receipt log as it stands in the receipt. -/
structure LogEntry where
  address : Address
  topics : List Word
  data : Bytes
  logIndex : Option Nat
  deriving DecidableEq

inductive EventKind where
  | v3Swap
  | v2Swap
  | v2Sync
  | transfer
  | deposit
  | withdrawal
  deriving DecidableEq

/-- What an argument is declared as. -/
inductive ArgumentType where
  | address
  | unsigned (bits : Nat)
  | signed (bits : Nat)
  deriving DecidableEq

inductive EventValue where
  | address (a : Address)
  | unsigned (w : Word)
  /-- A number in two's complement. -/
  | signed (w : Word)
  deriving DecidableEq

namespace ArgumentType

/-- The value in a word, of which the bits beyond the declared width are not looked at. -/
def ofWord (w : Word) : ArgumentType → EventValue
  | .address => .address (Address.ofWord w)
  | .unsigned bits => .unsigned ((w.setWidth bits).setWidth 256)
  | .signed bits => .signed ((w.setWidth bits).signExtend 256)

end ArgumentType

namespace EventKind

def all : List EventKind :=
  [.v3Swap, .v2Swap, .v2Sync, .transfer, .deposit, .withdrawal]

/-- The event's name in its contract, which the two swaps share. -/
def name : EventKind → String
  | .v3Swap | .v2Swap => "Swap"
  | .v2Sync => "Sync"
  | .transfer => "Transfer"
  | .deposit => "Deposit"
  | .withdrawal => "Withdrawal"

/-- The first topic of the event's logs, the hash of its signature. -/
def topic : EventKind → Word
  | .v3Swap => 0xc42079f94a6350d7e6235f29174924f928cc2ac818eb64fed8004e115fbcca67
  | .v2Swap => 0xd78ad95fa46c994b6551d0da85fc275fe613ce37657fb8d5e3d130840159d822
  | .v2Sync => 0x1c411e9a96e071241c2f21f7726b17ae89e3cab4c78be50e062b03a9fffbbad1
  | .transfer => 0xddf252ad1be2c89b69c2b068fc378daa952ba7f163c4a11628f55a4df523b3ef
  | .deposit => 0xe1fffcc4923d04b559f4d29a8bfc6cda04eb5b0d3c460751c2402c5c5cc9109c
  | .withdrawal => 0x7fcf532c15f0a6db0bd6d0e038bea71d30d808c7d98cb3bf7268a95bf5081b65

/-- The arguments that further topics hold, in order. -/
def indexed : EventKind → List (String × ArgumentType)
  | .v3Swap => [("sender", .address), ("recipient", .address)]
  | .v2Swap => [("sender", .address), ("to", .address)]
  | .v2Sync => []
  | .transfer => [("from", .address), ("to", .address)]
  | .deposit => [("dst", .address)]
  | .withdrawal => [("src", .address)]

/-- The arguments that the data holds, one word each, in order. -/
def inData : EventKind → List (String × ArgumentType)
  | .v3Swap =>
    [("amount0", .signed 256), ("amount1", .signed 256), ("sqrtPriceX96", .unsigned 160),
      ("liquidity", .unsigned 128), ("tick", .signed 24)]
  | .v2Swap =>
    [("amount0In", .unsigned 256), ("amount1In", .unsigned 256), ("amount0Out", .unsigned 256),
      ("amount1Out", .unsigned 256)]
  | .v2Sync => [("reserve0", .unsigned 112), ("reserve1", .unsigned 112)]
  | .transfer => [("value", .unsigned 256)]
  | .deposit | .withdrawal => [("wad", .unsigned 256)]

def ofTopic? (topic : Word) : Option EventKind :=
  all.find? fun kind => kind.topic == topic

end EventKind

structure Event where
  kind : EventKind
  /-- The contract that emitted the event: the pool of a swap. -/
  address : Address
  logIndex : Option Nat
  arguments : List (String × EventValue)
  deriving DecidableEq

namespace Event

def name (e : Event) : String :=
  e.kind.name

def argument? (e : Event) (name : String) : Option EventValue :=
  e.arguments.lookup name

def address? (e : Event) (name : String) : Option Address :=
  match e.argument? name with
  | some (.address a) => some a
  | _ => none

def unsigned? (e : Event) (name : String) : Option Word :=
  match e.argument? name with
  | some (.unsigned w) => some w
  | _ => none

def signed? (e : Event) (name : String) : Option Word :=
  match e.argument? name with
  | some (.signed w) => some w
  | _ => none

end Event

end DexTrade
