import DexTrade.Proofs.Abi.RoundTrip
import DexTrade.Proofs.Event.OfLog
/-!
# Logs in standard form

What the contracts report, written into logs as they write it: the hash of the event's signature and
the indexed arguments as topics, the other arguments as contract data. The signatures, widths and
names are spelled out here and not shared with the reader. A report is read back as it was made, a
negative number included (`ofLog?_log`); together with what is known of all other logs this is
`log_codec`.
-/
namespace DexTrade.Event

/-- What a contract reports, its numbers in the widths of its interface. -/
inductive Report where
  | v3Swap (sender recipient : Address) (amount0 amount1 : BitVec 256) (sqrtPrice : BitVec 160)
      (liquidity : BitVec 128) (tick : BitVec 24)
  | v2Swap (sender : Address) (amount0In amount1In amount0Out amount1Out : BitVec 256)
      (recipient : Address)
  | v2Sync (reserve0 reserve1 : BitVec 112)
  | transfer (source destination : Address) (value : BitVec 256)
  | deposit (destination : Address) (wad : BitVec 256)
  | withdrawal (source : Address) (wad : BitVec 256)

namespace Report

def kind : Report → EventKind
  | v3Swap .. => .v3Swap
  | v2Swap .. => .v2Swap
  | v2Sync .. => .v2Sync
  | transfer .. => .transfer
  | deposit .. => .deposit
  | withdrawal .. => .withdrawal

/-- The hash of the event's signature. -/
def signatureHash : Report → Word
  -- Swap(address,address,int256,int256,uint160,uint128,int24)
  | v3Swap .. => 0xc42079f94a6350d7e6235f29174924f928cc2ac818eb64fed8004e115fbcca67
  -- Swap(address,uint256,uint256,uint256,uint256,address)
  | v2Swap .. => 0xd78ad95fa46c994b6551d0da85fc275fe613ce37657fb8d5e3d130840159d822
  -- Sync(uint112,uint112)
  | v2Sync .. => 0x1c411e9a96e071241c2f21f7726b17ae89e3cab4c78be50e062b03a9fffbbad1
  -- Transfer(address,address,uint256)
  | transfer .. => 0xddf252ad1be2c89b69c2b068fc378daa952ba7f163c4a11628f55a4df523b3ef
  -- Deposit(address,uint256)
  | deposit .. => 0xe1fffcc4923d04b559f4d29a8bfc6cda04eb5b0d3c460751c2402c5c5cc9109c
  -- Withdrawal(address,uint256)
  | withdrawal .. => 0x7fcf532c15f0a6db0bd6d0e038bea71d30d808c7d98cb3bf7268a95bf5081b65

/-- The arguments that have a topic of their own. -/
def indexed : Report → List Address
  | v3Swap sender recipient .. => [sender, recipient]
  | v2Swap sender _ _ _ _ recipient => [sender, recipient]
  | v2Sync .. => []
  | transfer source destination _ => [source, destination]
  | deposit destination _ => [destination]
  | withdrawal source _ => [source]

/-- All other arguments as contract data. -/
def data : Report → Bytes
  | v3Swap _ _ amount0 amount1 sqrtPrice liquidity tick =>
    Abi.write [.int 256, .int 256, .uint 160, .uint 128, .int 24]
      (amount0, amount1, sqrtPrice, liquidity, tick, ())
  | v2Swap _ amount0In amount1In amount0Out amount1Out _ =>
    Abi.write [.uint 256, .uint 256, .uint 256, .uint 256]
      (amount0In, amount1In, amount0Out, amount1Out, ())
  | v2Sync reserve0 reserve1 => Abi.write [.uint 112, .uint 112] (reserve0, reserve1, ())
  | transfer _ _ value => Abi.write [.uint 256] (value, ())
  | deposit _ wad | withdrawal _ wad => Abi.write [.uint 256] (wad, ())

/-- The log of a report. -/
def log (r : Report) (address : Address) (logIndex : Option Nat) : LogEntry :=
  { address, topics := r.signatureHash :: r.indexed.map Address.toWord, data := r.data, logIndex }

/-- The arguments by name, the indexed ones first. -/
def arguments : Report → List (String × EventValue)
  | v3Swap sender recipient amount0 amount1 sqrtPrice liquidity tick =>
    [("sender", .address sender), ("recipient", .address recipient), ("amount0", .signed amount0),
      ("amount1", .signed amount1), ("sqrtPriceX96", .unsigned (sqrtPrice.setWidth 256)),
      ("liquidity", .unsigned (liquidity.setWidth 256)), ("tick", .signed (tick.signExtend 256))]
  | v2Swap sender amount0In amount1In amount0Out amount1Out recipient =>
    [("sender", .address sender), ("to", .address recipient),
      ("amount0In", .unsigned amount0In), ("amount1In", .unsigned amount1In),
      ("amount0Out", .unsigned amount0Out), ("amount1Out", .unsigned amount1Out)]
  | v2Sync reserve0 reserve1 =>
    [("reserve0", .unsigned (reserve0.setWidth 256)),
      ("reserve1", .unsigned (reserve1.setWidth 256))]
  | transfer source destination value =>
    [("from", .address source), ("to", .address destination), ("value", .unsigned value)]
  | deposit destination wad => [("dst", .address destination), ("wad", .unsigned wad)]
  | withdrawal source wad => [("src", .address source), ("wad", .unsigned wad)]

/-- What is to be read from the log of a report. -/
def event (r : Report) (address : Address) (logIndex : Option Nat) : Event :=
  ⟨r.kind, address, logIndex, r.arguments⟩

theorem nodup_names (r : Report) : (r.arguments.map Prod.fst).Nodup := by
  cases r <;> simp [arguments]

/-! ## The words of the data -/

/-- A number stands in a word of its own, extended by its sign if it has one. -/
def words : Report → List Word
  | v3Swap _ _ amount0 amount1 sqrtPrice liquidity tick =>
    [amount0.signExtend 256, amount1.signExtend 256, sqrtPrice.setWidth 256,
      liquidity.setWidth 256, tick.signExtend 256]
  | v2Swap _ amount0In amount1In amount0Out amount1Out _ =>
    [amount0In.setWidth 256, amount1In.setWidth 256, amount0Out.setWidth 256,
      amount1Out.setWidth 256]
  | v2Sync reserve0 reserve1 => [reserve0.setWidth 256, reserve1.setWidth 256]
  | transfer _ _ value => [value.setWidth 256]
  | deposit _ wad | withdrawal _ wad => [wad.setWidth 256]

theorem data_eq_frameOf (r : Report) : r.data = Abi.frameOf (r.words.map .word) := by
  cases r <;> rfl

theorem dataWords?_data (r : Report) : dataWords? r.data r.words.length = some r.words := by
  have hplaced := Abi.placed_frameOf (r.words.map .word) []
  rw [List.append_nil, ← r.data_eq_frameOf] at hplaced
  have hword : ∀ (pos : Nat) (w : Word) (rest : List Abi.Part),
      Abi.Placed r.data pos (.word w :: rest) → Abi.wordAt r.data pos = .ok w :=
    fun pos w rest h => Abi.wordAt_of_standing h.1
  have hread := Abi.elementsAt_of_placed hword r.words hplaced
  rw [dataWords?, hread]
  rfl

theorem length_words (r : Report) : r.words.length = r.kind.inData.length := by
  cases r <;> rfl

theorem length_indexed (r : Report) : r.indexed.length = r.kind.indexed.length := by
  cases r <;> rfl

theorem signatureHash_eq_topic (r : Report) : r.signatureHash = r.kind.topic := by
  cases r <;> rfl

end Report

/-! ## The values of the words -/

theorem ofWord_address (a : Address) : ArgumentType.address.ofWord a.toWord = .address a :=
  congrArg EventValue.address (Address.ofWord_toWord a)

theorem ofWord_unsigned {bits : Nat} (n : BitVec bits) (h : bits ≤ 256) :
    (ArgumentType.unsigned bits).ofWord (n.setWidth 256) = .unsigned (n.setWidth 256) := by
  rw [ArgumentType.ofWord, BitVec.setWidth_setWidth_of_le _ h, BitVec.setWidth_eq]

theorem ofWord_signed {bits : Nat} (n : BitVec bits) (h : bits ≤ 256) :
    (ArgumentType.signed bits).ofWord (n.signExtend 256) = .signed (n.signExtend 256) := by
  rw [ArgumentType.ofWord, Abi.setWidth_signExtend_of_le n h]

theorem ofWord_unsigned_word (w : Word) : (ArgumentType.unsigned 256).ofWord w = .unsigned w := by
  simpa using ofWord_unsigned w (Nat.le_refl 256)

theorem unsigned?_of_argument {event : Event} {name : String} {w : Word}
    (h : event.argument? name = some ((ArgumentType.unsigned 256).ofWord w)) :
    event.unsigned? name = some w := by
  rw [unsigned?, h, ofWord_unsigned_word]

theorem ofWord_signed_word (w : Word) : (ArgumentType.signed 256).ofWord w = .signed w := by
  simpa using ofWord_signed w (Nat.le_refl 256)

theorem Report.assign_eq_arguments (r : Report) :
    assign r.kind.indexed (r.indexed.map Address.toWord) ++ assign r.kind.inData r.words =
      r.arguments := by
  cases r <;>
    simp [assign, kind, indexed, words, arguments, EventKind.indexed, EventKind.inData,
      ofWord_address, ofWord_unsigned, ofWord_signed, ofWord_unsigned_word, ofWord_signed_word]

theorem ofLog?_log (r : Report) (address : Address) (logIndex : Option Nat) :
    ofLog? (r.log address logIndex) = some (r.event address logIndex) := by
  have htopics : (r.log address logIndex).topics =
      r.kind.topic :: r.indexed.map Address.toWord := by
    rw [← r.signatureHash_eq_topic]
    rfl
  have hcount : (r.indexed.map Address.toWord).length = r.kind.indexed.length := by
    rw [List.length_map, r.length_indexed]
  have hwords : dataWords? (r.log address logIndex).data r.kind.inData.length = some r.words := by
    rw [← r.length_words]
    exact r.dataWords?_data
  rw [ofLog?_of_topic htopics, ofParts?, if_pos hcount, hwords, Option.map_some,
    r.assign_eq_arguments]
  rfl

/-- Where no name occurs twice, a name has the value that stands beside it. -/
theorem lookup_eq_some_iff_mem {arguments : List (String × EventValue)}
    (h : (arguments.map Prod.fst).Nodup) {name : String} {value : EventValue} :
    arguments.lookup name = some value ↔ (name, value) ∈ arguments := by
  induction arguments with
  | nil => simp
  | cons argument rest ih =>
    obtain ⟨name', value'⟩ := argument
    obtain ⟨hfresh, hrest⟩ := List.nodup_cons.1 h
    rw [List.lookup_cons, List.mem_cons, Prod.mk.injEq]
    by_cases hname : name = name'
    · subst hname
      have hnot : (name, value) ∉ rest :=
        fun hmem => hfresh (List.mem_map.2 ⟨(name, value), hmem, rfl⟩)
      simp [hnot, eq_comm]
    · simp [hname, beq_eq_false_iff_ne.2 hname, ih hrest]

/-- The log of a report is read back as it was made. Any other log is an event of the kind that its
first topic names, and of no other kind; it is read exactly if it has as many topics as that kind and
at least as much data. The logs of a receipt are read one by one, and one that is passed over changes
nothing for the others. -/
theorem log_codec :
    (∀ (r : Report) (address : Address) (logIndex : Option Nat),
      ofLog? (r.log address logIndex) = some (r.event address logIndex) ∧
        ∀ name value, (r.event address logIndex).argument? name = some value ↔
          (name, value) ∈ r.arguments) ∧
    (∀ log : LogEntry,
      ((∀ kind : EventKind, log.topics.head? ≠ some kind.topic) → ofLog? log = none) ∧
      ∀ kind : EventKind, log.topics.head? = some kind.topic →
        (∀ event, ofLog? log = some event → event.kind = kind) ∧
        ((ofLog? log).isSome = true ↔
          log.topics.length = kind.topicCount ∧ kind.dataLength ≤ log.data.length)) ∧
    (∀ logs, ofLogs logs = logs.flatMap fun log => (ofLog? log).toList) ∧
    ∀ (before after : List LogEntry) (log : LogEntry), ofLog? log = none →
      ofLogs (before ++ log :: after) = ofLogs (before ++ after) := by
  refine ⟨fun r address logIndex => ⟨ofLog?_log r address logIndex, fun name value =>
      lookup_eq_some_iff_mem r.nodup_names⟩, fun log => ⟨ofLog?_of_unknown, fun kind hfirst => ?_⟩,
    ofLogs_eq_flatMap, fun before after log => ofLogs_insert before after⟩
  obtain ⟨topics, htopics⟩ := List.head?_eq_some_iff.1 hfirst
  rw [ofLog?_of_topic htopics, htopics, List.length_cons]
  exact ⟨fun event => kind_of_ofParts?, ofParts?_isSome_iff⟩

/-- A swap for a price below one, whose tick is negative, behind the transfer of a token that is
told apart by a fourth topic and is therefore passed over. -/
theorem negative_tick_behind_foreign_transfer :
    let r := Report.v3Swap ⟨0x2626⟩ ⟨0x1111⟩ (-310) 1000 1099511627776 42 (-200000)
    let swapped := r.log ⟨0xd0b5⟩ (some 3)
    let foreign : LogEntry :=
      ⟨⟨0xc364⟩, [EventKind.transfer.topic, 0x1111, 0x2222, 7], [], some 2⟩
    ofLogs [foreign, swapped] = [r.event ⟨0xd0b5⟩ (some 3)] ∧
      (r.event ⟨0xd0b5⟩ (some 3)).signed? "tick" = some (-200000) := by
  intro r swapped foreign
  obtain ⟨hreport, hother, -, hinsert⟩ := log_codec
  obtain ⟨hread, -⟩ := hreport r ⟨0xd0b5⟩ (some 3)
  have hforeign : ofLog? foreign = none := by
    obtain ⟨-, hkind⟩ := hother foreign
    obtain ⟨-, hsize⟩ := hkind .transfer rfl
    have hshort : ¬(foreign.topics.length = EventKind.transfer.topicCount ∧
        EventKind.transfer.dataLength ≤ foreign.data.length) := by
      decide
    exact Option.not_isSome_iff_eq_none.1 (mt hsize.1 hshort)
  refine ⟨?_, by decide +kernel⟩
  have hfirst := hinsert [] [swapped] foreign hforeign
  rw [List.nil_append, List.nil_append] at hfirst
  rw [hfirst, ofLogs, List.filterMap_cons_some hread, List.filterMap_nil]

end DexTrade.Event
