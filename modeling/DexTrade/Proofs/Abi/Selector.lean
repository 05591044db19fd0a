import DexTrade.Abi.Interface
/-!
# Calls that start with a selector

A call is the four bytes of a selector and the arguments behind them. An interface that knows the
selector reads the arguments (`Interface.read_call`); one that does not refuses the call
(`Interface.read_unknown`).
-/
namespace DexTrade

namespace Selector

/-- The input starts with the four bytes of the selector. -/
def leads (s : Selector) (input : Bytes) : Bool :=
  s.toBytes.isPrefixOf input

theorem length_toBytes (s : Selector) : s.toBytes.length = 4 :=
  Bytes.length_ofNat 4 s.toNat

theorem ofBytes_toBytes (s : Selector) : BitVec.ofNat 32 s.toBytes.value = s := by
  have h : s.toNat < Nat.pow 256 4 := s.isLt
  rw [toBytes, Bytes.value_ofNat_of_lt h, BitVec.ofNat_toNat, BitVec.setWidth_eq]

@[simp]
theorem ofInput_append (s : Selector) (arguments : Bytes) :
    ofInput (s.toBytes ++ arguments) = s := by
  rw [ofInput, List.take_left' s.length_toBytes, ofBytes_toBytes]

/-- An input starts with a selector when it is long enough and its selector is that one. -/
theorem leads_iff {s : Selector} {input : Bytes} :
    s.leads input = true ↔ 4 ≤ input.length ∧ ofInput input = s := by
  rw [leads, List.isPrefixOf_iff_prefix]
  constructor
  · rintro ⟨arguments, rfl⟩
    refine ⟨?_, ofInput_append s arguments⟩
    rw [List.length_append, length_toBytes]
    omega
  · rintro ⟨hlength, rfl⟩
    have htake : (input.take 4).length = 4 := by rw [List.length_take]; omega
    have hvalue : (ofInput input).toNat = Bytes.value (input.take 4) := by
      rw [ofInput, BitVec.toNat_ofNat]
      exact Nat.mod_eq_of_lt (Bytes.value_lt htake)
    rw [toBytes, hvalue, Bytes.ofNat_value htake]
    exact List.take_prefix 4 input

theorem leads_append (s t : Selector) (arguments : Bytes) :
    s.leads (t.toBytes ++ arguments) = (t == s) := by
  rw [Bool.eq_iff_iff, leads_iff, ofInput_append, List.length_append, length_toBytes, beq_iff_eq]
  exact ⟨And.right, fun h => ⟨by omega, h⟩⟩

end Selector

namespace Abi.Interface

variable {Call : Type} {i : Interface Call} {s : Selector}

theorem read_call {reader : Bytes → Except Error Call} {arguments : Bytes}
    (hlookup : i.functions.lookup s = some reader) (hlength : i.shortest ≤ 4 + arguments.length) :
    i.read (s.toBytes ++ arguments) = reader arguments := by
  have hshort : ¬ (s.toBytes ++ arguments).length < i.shortest := by
    rw [List.length_append, s.length_toBytes]
    omega
  rw [read, if_neg hshort, Selector.ofInput_append, hlookup]
  simp only [List.drop_left' s.length_toBytes]

theorem read_unknown (hlookup : i.functions.lookup s = none) (arguments : Bytes) :
    ∃ e, i.read (s.toBytes ++ arguments) = .error e := by
  unfold read
  split
  · exact ⟨_, rfl⟩
  · rw [Selector.ofInput_append, hlookup]
    exact ⟨_, rfl⟩

end Abi.Interface

end DexTrade
