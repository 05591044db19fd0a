import DexTrade.Abi.Layout
/-!
# Writing contract data

The standard form of a parameter list. The head of a frame has one word for each parameter; the
contents of the dynamic ones follow the head in the order of the parameters, and the word of a dynamic
parameter is the offset of its content in the frame. Byte strings are filled with zeros up to a
multiple of 32 bytes. The elements of an array have a frame of their own behind the length.
-/
namespace DexTrade.Abi

/-- What a frame holds for one parameter: a word in its head, or content behind the head. -/
inductive Part where
  | word (w : Word)
  | apart (content : Bytes)

/-- An offset or a length as a word. -/
def sizeWord (n : Nat) : Word :=
  BitVec.ofNat 256 n

/-- The heads of parts, the first content of which is to stand at `offset`. -/
def heads : (offset : Nat) → List Part → Bytes
  | _, [] => []
  | offset, .word w :: rest => w.toBytes ++ heads offset rest
  | offset, .apart content :: rest =>
    (sizeWord offset).toBytes ++ heads (offset + content.length) rest

/-- What stands behind the heads. -/
def contents : List Part → Bytes
  | [] => []
  | .word _ :: rest => contents rest
  | .apart content :: rest => content ++ contents rest

def frameOf (parts : List Part) : Bytes :=
  heads (32 * parts.length) parts ++ contents parts

/-- A byte string behind its length, filled up with zeros. -/
def byteString (b : Bytes) : Bytes :=
  (sizeWord b.length).toBytes ++ (b ++ List.replicate ((32 - b.length % 32) % 32) 0)

/-- Elements in a frame of their own, behind their number. -/
def array (elements : List Part) : Bytes :=
  (sizeWord elements.length).toBytes ++ frameOf elements

/-- Numbers are extended to a whole word by their sign, if they have one, else by zeros. -/
def Param.part : (p : Param) → p.Value → Part
  | .uint _, n => .word (n.setWidth 256)
  | .int _, n => .word (n.signExtend 256)
  | .address, a => .word a.toWord
  | .bool, b => .word (if b then 1 else 0)
  | .bytes, b => .apart (byteString b)
  | .addresses, l => .apart (array (l.map fun a => .word a.toWord))
  | .byteStrings, l => .apart (array (l.map fun b => .apart (byteString b)))

def parts : (params : List Param) → Values params → List Part
  | [], _ => []
  | p :: rest, (value, values) => p.part value :: parts rest values

/-- A parameter list in a frame of its own. -/
def write (params : List Param) (values : Values params) : Bytes :=
  frameOf (parts params values)

/-- A parameter list as one dynamic value, the only one of its frame. -/
def writeApart (params : List Param) (values : Values params) : Bytes :=
  frameOf [.apart (write params values)]

/-! ## Sizes -/

@[simp]
theorem length_heads (offset : Nat) (l : List Part) : (heads offset l).length = 32 * l.length := by
  induction l generalizing offset with
  | nil => rfl
  | cons part rest ih =>
    cases part <;>
      simp only [heads, List.length_append, Word.length_toBytes, ih, List.length_cons] <;> omega

theorem length_frameOf (l : List Part) :
    (frameOf l).length = 32 * l.length + (contents l).length := by
  simp [frameOf]

/-- How much stands behind the heads does not depend on the order of the parts. -/
theorem length_contents_perm {l m : List Part} (h : l.Perm m) :
    (contents l).length = (contents m).length := by
  induction h with
  | nil => rfl
  | cons part _ ih => cases part <;> simp only [contents, List.length_append, ih]
  | swap p q _ =>
    cases p <;> cases q <;> simp only [contents, List.length_append]
    omega
  | trans _ _ ih ih' => exact ih.trans ih'

/-- What stands apart is no longer than all that does. -/
theorem length_le_contents {content : Bytes} {l : List Part} (h : .apart content ∈ l) :
    content.length ≤ (contents l).length := by
  induction l with
  | nil => exact nomatch h
  | cons part rest ih =>
    rcases List.mem_cons.1 h with rfl | hrest
    · simp [contents]
    · have hle := ih hrest
      cases part with
      | word w => exact hle
      | apart other =>
        rw [contents, List.length_append]
        omega

theorem length_byteString (b : Bytes) :
    (byteString b).length = 32 + b.length + (32 - b.length % 32) % 32 := by
  simp only [byteString, List.length_append, Word.length_toBytes, List.length_replicate]
  omega

theorem length_array (l : List Part) : (array l).length = 32 + (frameOf l).length := by
  simp [array, Word.length_toBytes]

end DexTrade.Abi
