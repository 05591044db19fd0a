import DexTrade.Abi.Decode
/-!
# Contract interfaces

An interface is a set of functions told apart by their selectors. Call data is read in three steps:
it has to be long enough for the interface's shortest function, its selector has to be known, and its
arguments have to be readable.
-/
namespace DexTrade.Abi

/-- Functions of one contract, each with the reader of its arguments. -/
structure Interface (Call : Type) where
  name : String
  /-- No call of the interface is shorter, selector included. -/
  shortest : Nat
  functions : List (Selector × (Bytes → Except Error Call))

namespace Interface

variable {Call : Type}

def read (i : Interface Call) (input : Bytes) : Except Error Call :=
  if input.length < i.shortest then
    throw (.tooShort i.name input)
  else
    match i.functions.lookup (Selector.ofInput input) with
    | some arguments => arguments (input.drop 4)
    | none => throw (.unknownSelector i.name (Selector.ofInput input))

/-- A call that was read is long enough, and a function with its selector read its arguments. -/
theorem exists_reader_of_read {i : Interface Call} {input : Bytes} {call : Call}
    (h : i.read input = .ok call) :
    i.shortest ≤ input.length ∧
      ∃ reader, (Selector.ofInput input, reader) ∈ i.functions ∧ reader (input.drop 4) = .ok call := by
  unfold read at h
  split at h
  · exact nomatch h
  · rename_i hlen
    split at h
    · rename_i reader hreader
      obtain ⟨before, behind, hfunctions, -⟩ := List.lookup_eq_some_iff.1 hreader
      have hmem : (Selector.ofInput input, reader) ∈ i.functions := by
        rw [hfunctions]
        exact List.mem_append_right before List.mem_cons_self
      exact ⟨Nat.le_of_not_lt hlen, reader, hmem, h⟩
    · exact nomatch h

end Interface

end DexTrade.Abi
