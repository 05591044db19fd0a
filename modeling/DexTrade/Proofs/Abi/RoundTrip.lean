import Mathlib.Data.BitVec
import Mathlib.Data.List.Infix
import DexTrade.Abi.Decode
import DexTrade.Abi.Encode
/-!
# Contract data is read as it was written

A parameter list in standard form is read back value by value (`read_write`,
`readApart_writeApart`), whatever follows it (`read_write_append`). An offset or a length of 2^64 or
more cannot be read, so the bytes have to be fewer than that, as those of every string in memory are
(`Addressable`).

`Placed` carries the argument: at each position of a head stands the word of its part, and where a
part has content, that word is the offset of the content. A frame that was written has this property
(`placed_frameOf`), and a reader uses nothing else (`Param.read_of_placed`).
-/
namespace DexTrade.Abi

/-- Every byte of the string has a position below 2^64. -/
def Addressable (b : Bytes) : Prop :=
  b.length < 0x10000000000000000

instance (b : Bytes) : Decidable (Addressable b) :=
  inferInstanceAs (Decidable (b.length < 0x10000000000000000))

/-- The parts stand in a frame, their heads from a position on. -/
def Placed (frame : Bytes) : (pos : Nat) → List Part → Prop
  | _, [] => True
  | pos, .word w :: rest => w.toBytes <+: frame.drop pos ∧ Placed frame (pos + 32) rest
  | pos, .apart content :: rest =>
    (∃ offset, offset ≤ frame.length ∧ (sizeWord offset).toBytes <+: frame.drop pos ∧
      content <+: frame.drop offset) ∧
    Placed frame (pos + 32) rest

/-! ## What was written is placed -/

/-- The two halves of a string that stands in a frame stand in it one behind the other. -/
theorem standing_halves {a b frame : Bytes} {pos : Nat} (h : a ++ b <+: frame.drop pos) :
    a <+: frame.drop pos ∧ b <+: frame.drop (pos + a.length) := by
  obtain ⟨rest, hrest⟩ := h
  refine ⟨⟨b ++ rest, by rw [← hrest, List.append_assoc]⟩, ⟨rest, ?_⟩⟩
  rw [← List.drop_drop, ← hrest, List.append_assoc, List.drop_left]

theorem length_le_of_standing {b frame : Bytes} {pos : Nat} (h : b <+: frame.drop pos) :
    b.length ≤ frame.length - pos := by
  have := h.length_le
  rwa [List.length_drop] at this

/-- Heads are placed together with the contents that their offsets lead to. -/
theorem placed_of_standing {frame : Bytes} (l : List Part) {pos offset : Nat}
    (hheads : heads offset l <+: frame.drop pos) (hcontents : contents l <+: frame.drop offset)
    (hoffset : offset ≤ frame.length) : Placed frame pos l := by
  induction l generalizing pos offset with
  | nil => trivial
  | cons part rest ih =>
    cases part with
    | word w =>
      obtain ⟨hw, hrest⟩ := standing_halves hheads
      rw [Word.length_toBytes] at hrest
      exact ⟨hw, ih hrest hcontents hoffset⟩
    | apart content =>
      obtain ⟨hw, hrest⟩ := standing_halves hheads
      rw [Word.length_toBytes] at hrest
      obtain ⟨hcontent, hothers⟩ := standing_halves hcontents
      have hle := length_le_of_standing hcontent
      exact ⟨⟨offset, hoffset, hw, hcontent⟩, ih hrest hothers (by omega)⟩

/-- A written frame places its parts, whatever follows it. -/
theorem placed_frameOf (l : List Part) (after : Bytes) : Placed (frameOf l ++ after) 0 l := by
  have hheads : heads (32 * l.length) l <+: (frameOf l ++ after).drop 0 :=
    ⟨contents l ++ after, by simp [frameOf]⟩
  have hcontents : contents l <+: (frameOf l ++ after).drop (32 * l.length) := by
    refine ⟨after, ?_⟩
    rw [frameOf, List.append_assoc, List.drop_left' (length_heads _ l)]
  refine placed_of_standing l hheads hcontents ?_
  simp only [List.length_append, length_frameOf]
  omega

/-! ## What is placed is read -/

section Reading

variable {frame : Bytes} {pos : Nat} {rest : List Part}

theorem slice?_of_standing {b : Bytes} (h : b <+: frame.drop pos) (hpos : pos ≤ frame.length) :
    frame.slice? pos b.length = some b := by
  have hle := length_le_of_standing h
  obtain ⟨after, hafter⟩ := h
  refine Bytes.slice?_eq_some_iff.2 ⟨by omega, ?_⟩
  rw [← hafter, List.take_left]

theorem wordAt_of_standing {w : Word} (h : w.toBytes <+: frame.drop pos) :
    wordAt frame pos = .ok w := by
  have hle := length_le_of_standing h
  rw [Word.length_toBytes] at hle
  have hslice := slice?_of_standing h (by omega)
  rw [Word.length_toBytes] at hslice
  simp only [wordAt, hslice, Word.ofBytes_toBytes]

theorem toNat_sizeWord {n : Nat} (h : n < 0x10000000000000000) : (sizeWord n).toNat = n := by
  rw [sizeWord, BitVec.toNat_ofNat]
  omega

theorem sizeAt_of_standing {n : Nat} (h : (sizeWord n).toBytes <+: frame.drop pos)
    (hn : n < 0x10000000000000000) : sizeAt frame pos = .ok n := by
  simp only [sizeAt, wordAt_of_standing h, bind, Except.bind, toNat_sizeWord hn, if_pos hn]
  rfl

/-- Where a part has content, its head leads to a string that starts with the content. -/
theorem targetAt_of_placed {content : Bytes} (hsize : Addressable frame)
    (h : Placed frame pos (.apart content :: rest)) :
    ∃ target, targetAt frame pos = .ok target ∧ content <+: target ∧
      target.length ≤ frame.length := by
  obtain ⟨⟨offset, hoffset, hw, hcontent⟩, -⟩ := h
  refine ⟨frame.drop offset, ?_, hcontent, by simp⟩
  have hn : offset < 0x10000000000000000 := Nat.lt_of_le_of_lt hoffset hsize
  simp only [targetAt, sizeAt_of_standing hw hn, bind, Except.bind, if_pos hoffset]
  rfl

theorem byteStringAt_of_placed {b : Bytes} (hsize : Addressable frame)
    (h : Placed frame pos (.apart (byteString b) :: rest)) : byteStringAt frame pos = .ok b := by
  obtain ⟨target, htarget, hcontent, hle⟩ := targetAt_of_placed hsize h
  obtain ⟨hlength, hpadded⟩ : (sizeWord b.length).toBytes <+: target.drop 0 ∧ _ :=
    standing_halves hcontent
  rw [Word.length_toBytes] at hpadded
  have hb := (standing_halves hpadded).1
  have hfits := hcontent.length_le
  rw [length_byteString] at hfits
  have hn : b.length < 0x10000000000000000 := Nat.lt_of_le_of_lt (by omega) hsize
  have hslice := slice?_of_standing hb (by omega)
  rw [Nat.zero_add] at hslice
  simp only [byteStringAt, htarget, bind, Except.bind, sizeAt_of_standing hlength hn, hslice]
  rfl

/-- Elements whose parts are placed one behind the other are read in order. -/
theorem elementsAt_of_placed {α : Type} {element : Nat → Except Error α} {part : α → Part}
    (helement : ∀ pos x rest, Placed frame pos (part x :: rest) → element pos = .ok x)
    (l : List α) (h : Placed frame pos (l.map part)) : elementsAt element pos l.length = .ok l := by
  induction l generalizing pos with
  | nil => rfl
  | cons x others ih =>
    have hothers : Placed frame (pos + 32) (others.map part) := by
      rw [List.map_cons] at h
      cases hpart : part x <;> rw [hpart] at h <;> exact h.2
    simp only [List.length_cons, elementsAt, helement pos x _ h, ih hothers, bind, Except.bind]
    rfl

theorem arrayAt_of_placed {α : Type} {element : Bytes → Nat → Except Error α} {part : α → Part}
    (helement : ∀ body pos x rest, Addressable body → Placed body pos (part x :: rest) →
      element body pos = .ok x)
    (l : List α) (hsize : Addressable frame)
    (h : Placed frame pos (.apart (array (l.map part)) :: rest)) :
    arrayAt element frame pos = .ok l := by
  obtain ⟨target, htarget, ⟨after, hafter⟩, hle⟩ := targetAt_of_placed hsize h
  have hlength := congrArg List.length hafter
  simp only [List.length_append, length_array, length_frameOf, List.length_map] at hlength
  have hcount : sizeAt target 0 = .ok l.length := by
    refine sizeAt_of_standing ⟨frameOf (l.map part) ++ after, ?_⟩ ?_
    · simpa [array] using hafter
    · exact Nat.lt_of_le_of_lt (by omega) hsize
  have hbody : target.drop 32 = frameOf (l.map part) ++ after := by
    rw [← hafter, array, List.append_assoc, List.drop_left' (Word.length_toBytes _)]
  have hfits : l.length ≤ (target.drop 32).length / 32 := by
    rw [List.length_drop]
    omega
  have hbodySize : Addressable (target.drop 32) :=
    Nat.lt_of_le_of_lt (by rw [List.length_drop]; omega) hsize
  have hplaced : Placed (target.drop 32) 0 (l.map part) := by
    rw [hbody]
    exact placed_frameOf _ _
  simp only [arrayAt, htarget, bind, Except.bind, hcount, if_pos hfits]
  exact elementsAt_of_placed (fun pos x rest => helement _ pos x rest hbodySize) l hplaced

theorem addressAt_of_placed {a : Address} (h : Placed frame pos (.word a.toWord :: rest)) :
    addressAt frame pos = .ok a := by
  simp only [addressAt, wordAt_of_standing h.1, Except.map, Address.ofWord_toWord]

/-- Numbers of the kind have at most the bits of a word. -/
def Param.FitsWord : Param → Prop
  | .uint bits | .int bits => bits ≤ 256
  | _ => True

instance (p : Param) : Decidable p.FitsWord := by
  unfold Param.FitsWord
  split <;> infer_instance

theorem setWidth_signExtend_of_le {bits width : Nat} (n : BitVec bits) (h : bits ≤ width) :
    (n.signExtend width).setWidth bits = n := by
  apply BitVec.eq_of_getLsbD_eq
  intro i hi
  have hwidth : i < width := Nat.lt_of_lt_of_le hi h
  simp only [BitVec.getLsbD_setWidth, BitVec.getLsbD_signExtend, hi, hwidth, decide_true,
    Bool.true_and, if_pos]

theorem Param.read_of_placed {p : Param} (hp : p.FitsWord) {value : p.Value}
    (hsize : Addressable frame) (h : Placed frame pos (p.part value :: rest)) :
    p.read frame pos = .ok value := by
  cases p with
  | uint bits =>
    have hback : ((value : BitVec bits).setWidth 256).setWidth bits = value := by
      rw [BitVec.setWidth_setWidth_of_le _ hp, BitVec.setWidth_eq]
    simp only [Param.read, wordAt_of_standing h.1, Except.map, hback]
  | int bits =>
    simp only [Param.read, wordAt_of_standing h.1, Except.map, setWidth_signExtend_of_le _ hp]
  | address => exact addressAt_of_placed h
  | bool =>
    simp only [Param.read, wordAt_of_standing h.1, Except.map]
    cases value <;> rfl
  | bytes => exact byteStringAt_of_placed hsize h
  | addresses =>
    exact arrayAt_of_placed (fun _ _ _ _ _ => addressAt_of_placed) value hsize h
  | byteStrings =>
    exact arrayAt_of_placed (fun _ _ _ _ => byteStringAt_of_placed) value hsize h

theorem readFrom_of_placed {params : List Param} (hp : ∀ p ∈ params, p.FitsWord)
    (values : Values params) (hsize : Addressable frame)
    (h : Placed frame pos (parts params values)) : readFrom frame pos params = .ok values := by
  induction params generalizing pos with
  | nil => rfl
  | cons p others ih =>
    obtain ⟨value, values⟩ := values
    have hothers : Placed frame (pos + 32) (parts others values) := by
      rw [parts] at h
      cases hpart : p.part value <;> rw [hpart] at h <;> exact h.2
    have hvalue := Param.read_of_placed (hp p List.mem_cons_self) hsize h
    have hvalues := ih (fun q hq => hp q (List.mem_cons_of_mem p hq)) values hothers
    simp only [readFrom, hvalue, hvalues, bind, Except.bind]
    rfl

end Reading

/-! ## Round trips -/

theorem read_write_append {params : List Param} (hp : ∀ p ∈ params, p.FitsWord)
    (values : Values params) (after : Bytes) (hsize : Addressable (write params values ++ after)) :
    read params (write params values ++ after) = .ok values :=
  readFrom_of_placed hp values hsize (placed_frameOf _ after)

theorem read_write {params : List Param} (hp : ∀ p ∈ params, p.FitsWord) (values : Values params)
    (hsize : Addressable (write params values)) :
    read params (write params values) = .ok values := by
  have h := read_write_append hp values []
  rw [List.append_nil] at h
  exact h hsize

theorem readApart_writeApart {params : List Param} (hp : ∀ p ∈ params, p.FitsWord)
    (values : Values params) (hsize : Addressable (writeApart params values)) :
    readApart params (writeApart params values) = .ok values := by
  have hplaced := placed_frameOf [.apart (write params values)] []
  rw [List.append_nil] at hplaced
  obtain ⟨target, htarget, ⟨after, rfl⟩, hle⟩ := targetAt_of_placed hsize hplaced
  have hread := read_write_append hp values after (Nat.lt_of_le_of_lt hle hsize)
  rw [readApart, htarget]
  exact hread

end DexTrade.Abi
