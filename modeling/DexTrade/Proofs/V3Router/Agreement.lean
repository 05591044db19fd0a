import DexTrade.Proofs.UniversalRouter.Calldata
import DexTrade.Proofs.V3Router.Swaps
/-!
# One swap, asked for in several ways

A packed path and its amounts can be sent to a router of either version or as a command of the
universal router. All ways lead to the same swap or to the same complaint about the path: only the
name of the function differs. A swap through one pool is the swap along the path of that one hop,
which an exact output has from its last token on (`decoders_agree`).
-/
namespace DexTrade.V3Router

/-- A swap along a packed path, well formed or not. -/
structure PathSwap where
  exactOutput : Bool
  packed : Bytes
  /-- The exact input or the exact output. -/
  exact : Word
  /-- The least output for an exact input, else the largest input. -/
  bound : Word

/-- How a swap is sent, with what is sent along and is not part of the swap. -/
inductive Envelope where
  /-- A call of a router; only the first version has a deadline. -/
  | call (version : Version) (recipient : Address) (deadline : Word)
  /-- A command of the universal router. -/
  | command (allowRevert : Bool) (recipient : Address) (payerIsUser : Bool)

namespace Envelope

/-- The arguments of the call, or the input of the command. -/
def write (p : PathSwap) : Envelope → Bytes
  | .call version recipient deadline =>
    PathArguments.write ⟨p.packed, recipient, deadline, p.exact, p.bound⟩ version
  | .command _ recipient payerIsUser =>
    Operation.writeV3 recipient p.exact p.bound p.packed payerIsUser

/-- What the decoder of the envelope finds in it. -/
def decode (p : PathSwap) : Envelope → Except TradeError SwapCall
  | .call version recipient deadline =>
    V3Router.decode
      (pathCall version p.exactOutput ⟨p.packed, recipient, deadline, p.exact, p.bound⟩)
  | .command allowRevert recipient payerIsUser =>
    Operation.decodeV3Swap
      ⟨Operation.v3Command p.exactOutput, allowRevert,
        Operation.writeV3 recipient p.exact p.bound p.packed payerIsUser⟩

end Envelope

/-- Two swaps that differ in the function at most, or one and the same complaint about the input. -/
def SameSwap (x y : Except TradeError SwapCall) : Prop :=
  (∃ c d : SwapCall, x = .ok c ∧ y = .ok d ∧ { c with function := d.function } = d) ∨
    ∃ problem, x = .error (.inputDecode problem) ∧ y = .error (.inputDecode problem)

/-- In any envelope a swap is decoded along its path, only the names are the envelope's. -/
theorem Envelope.exists_decode_eq {p : PathSwap} {e : Envelope}
    (hsize : Abi.Addressable (e.write p)) :
    ∃ inputName outputName, e.decode p =
      pathSwap inputName outputName p.exactOutput p.packed p.exact p.bound := by
  cases e with
  | call version recipient deadline =>
    have hread := read_pathCall version p.exactOutput
      ⟨p.packed, recipient, deadline, p.exact, p.bound⟩ hsize
    refine ⟨"exactInput", "exactOutput", ?_⟩
    rw [Envelope.decode, decode_of_read_path hread]
  | command allowRevert recipient payerIsUser =>
    have hdecode := Operation.decodeV3Swap_of_written p.exactOutput allowRevert recipient p.exact
      p.bound p.packed payerIsUser hsize
    exact ⟨_, _, hdecode⟩

theorem sameSwap_pathSwap (inputName outputName inputName' outputName' : String) (p : PathSwap) :
    SameSwap (pathSwap inputName outputName p.exactOutput p.packed p.exact p.bound)
      (pathSwap inputName' outputName' p.exactOutput p.packed p.exact p.bound) := by
  unfold pathSwap
  cases PoolPath.unpack p.packed with
  | error cause => exact .inr ⟨_, rfl, rfl⟩
  | ok route =>
    refine .inl ?_
    cases p.exactOutput
    · exact ⟨_, _, rfl, rfl, rfl⟩
    · exact ⟨_, _, rfl, rfl, rfl⟩

theorem Envelope.sameSwap {p : PathSwap} {e f : Envelope} (he : Abi.Addressable (e.write p))
    (hf : Abi.Addressable (f.write p)) : SameSwap (e.decode p) (f.decode p) := by
  obtain ⟨inputName, outputName, hdecode⟩ := exists_decode_eq he
  obtain ⟨inputName', outputName', hdecode'⟩ := exists_decode_eq hf
  rw [hdecode, hdecode']
  exact sameSwap_pathSwap inputName outputName inputName' outputName' p

/-! ## Paths of one hop -/

theorem addressable_pathArguments (a : PathArguments) (h : a.packed.length = 43)
    (version : Version) : Abi.Addressable (a.write version) := by
  unfold Abi.Addressable
  cases version <;>
    simp only [PathArguments.write, Abi.writeApart, Abi.write, Abi.length_frameOf, Abi.parts,
      Abi.Param.part, Abi.contents, Abi.length_byteString, h, List.length_append, List.length_cons,
      List.length_nil] <;>
    decide

/-- A path of one hop always packs, and can be sent to a router. -/
theorem decode_one_hop (version : Version) (exactOutput : Bool) (a b : Address) (fee : BitVec 24)
    (recipient : Address) (deadline exact bound : Word) :
    ∃ packed, PoolPath.pack [a, b] [fee.toNat] = .ok packed ∧
      decode (pathCall version exactOutput ⟨packed, recipient, deadline, exact, bound⟩) =
        .ok (if exactOutput then
          SwapCall.ofExactOutput "exactOutput" ⟨[b, a], [fee.toNat]⟩ exact (some bound)
        else SwapCall.ofExactInput "exactInput" ⟨[a, b], [fee.toNat]⟩ (some exact) bound) := by
  have hpack : PoolPath.pack [a, b] [fee.toNat] = .ok _ :=
    PoolPath.pack_eq_ok_iff.2 ⟨⟨Nat.le_refl 2, rfl⟩, rfl⟩
  have hlength : (PoolPath.packHops [a, b] [fee.toNat]).length = 43 :=
    PoolPath.length_packHops rfl
  have hfees : ∀ f ∈ [fee.toNat], f < PoolPath.feeLimit := by
    intro f hf
    rw [List.mem_singleton.1 hf]
    exact fee.isLt
  refine ⟨_, hpack, ?_⟩
  have hsize := addressable_pathArguments
    ⟨PoolPath.packHops [a, b] [fee.toNat], recipient, deadline, exact, bound⟩ hlength version
  rw [decode_of_read_path (read_pathCall version exactOutput _ hsize),
    pathSwap_of_pack _ _ _ _ _ hpack hfees]
  rfl

/-- Along a packed path all decoders agree, whatever the bytes of the path are and whatever else is
sent along. Through one pool a router's answer is the one along the path of that pool. -/
theorem decoders_agree :
    (∀ (p : PathSwap) (e f : Envelope), Abi.Addressable (e.write p) → Abi.Addressable (f.write p) →
      SameSwap (e.decode p) (f.decode p)) ∧
    ∀ (a : SingleArguments) (version version' : Version) (recipient : Address) (deadline : Word),
      (∃ packed, PoolPath.pack [a.tokenIn, a.tokenOut] [a.fee.toNat] = .ok packed ∧
        ∃ swap, decode (singleCall version false a) = .ok swap ∧
          decode (pathCall version' false ⟨packed, recipient, deadline, a.exact, a.bound⟩) =
            .ok { swap with function := "exactInput" }) ∧
      ∃ packed, PoolPath.pack [a.tokenOut, a.tokenIn] [a.fee.toNat] = .ok packed ∧
        ∃ swap, decode (singleCall version true a) = .ok swap ∧
          decode (pathCall version' true ⟨packed, recipient, deadline, a.exact, a.bound⟩) =
            .ok { swap with function := "exactOutput" } := by
  constructor
  · intro p e f he hf
    exact Envelope.sameSwap he hf
  · intro a version version' recipient deadline
    constructor
    · obtain ⟨packed, hpack, hpath⟩ := decode_one_hop version' false a.tokenIn a.tokenOut a.fee
        recipient deadline a.exact a.bound
      exact ⟨packed, hpack, _, decode_of_read_single (read_singleCall version false a), hpath⟩
    · obtain ⟨packed, hpack, hpath⟩ := decode_one_hop version' true a.tokenOut a.tokenIn a.fee
        recipient deadline a.exact a.bound
      exact ⟨packed, hpack, _, decode_of_read_single (read_singleCall version true a), hpath⟩

/-- An exact output over two pools and one whose path has a byte too many, each as a call of the first
router version and as a command; and an exact input through one pool, as a call for that pool and as one
along its path. -/
theorem one_swap_in_several_envelopes :
    let e := Envelope.call .first ⟨0x1111⟩ 1700000000
    let f := Envelope.command true ⟨0x2222⟩ false
    let p : PathSwap :=
      ⟨true, PoolPath.packHops [⟨0x8335⟩, ⟨0x4200⟩, ⟨0x4ed4⟩] [500, 10000], 7, 2⟩
    let q : PathSwap := { p with packed := p.packed ++ [0] }
    let a : SingleArguments :=
      { tokenIn := ⟨0x4200⟩, tokenOut := ⟨0x8335⟩, fee := 500, recipient := ⟨0x1111⟩
        deadline := 1700000000, exact := 5, bound := 9, priceLimit := 0 }
    let packed := PoolPath.packHops [⟨0x4200⟩, ⟨0x8335⟩] [500]
    (Abi.Addressable (e.write p) ∧ Abi.Addressable (f.write p) ∧ SameSwap (e.decode p) (f.decode p) ∧
      f.decode p =
        .ok { function := "V3_SWAP_EXACT_OUT", path := [⟨0x4ed4⟩, ⟨0x4200⟩, ⟨0x8335⟩]
              fees := [10000, 500], amountIn := none, amountInMax := some 2, amountOutMin := 7
              exactOutput := true }) ∧
    (Abi.Addressable (e.write q) ∧ Abi.Addressable (f.write q) ∧ SameSwap (e.decode q) (f.decode q) ∧
      f.decode q = .error (.inputDecode (.path (.length 67)))) ∧
    ∃ swap, decode (singleCall .second false a) = .ok swap ∧
      decode (pathCall .first false ⟨packed, ⟨0x2222⟩, 1700000000, 5, 9⟩) =
        .ok { swap with function := "exactInput" } := by
  intro e f p q a packed
  obtain ⟨hagree, hsingle⟩ := decoders_agree
  have hep : Abi.Addressable (e.write p) := by decide +kernel
  have hfp : Abi.Addressable (f.write p) := by decide +kernel
  have heq : Abi.Addressable (e.write q) := by decide +kernel
  have hfq : Abi.Addressable (f.write q) := by decide +kernel
  obtain ⟨⟨_, hpack, swap, hpool, hpath⟩, -⟩ := hsingle a .second .first ⟨0x2222⟩ 1700000000
  obtain rfl := Except.ok.inj hpack
  exact ⟨⟨hep, hfp, hagree p e f hep hfp, by decide +kernel⟩,
    ⟨heq, hfq, hagree q e f heq hfq, by decide +kernel⟩, swap, hpool, hpath⟩

end DexTrade.V3Router
