import DexTrade.Abi.Error
import DexTrade.Abi.Layout
/-!
# Reading contract data

Parameters are read in order, a dynamic one completely when its head is met. A frame is the byte
string that offsets count from; an offset may point anywhere inside it. High bits that a value does
not use are not looked at, and bytes after the last value are ignored. A byte string that is read is
never longer than its frame (`length_le_of_byteStringAt`).
-/
namespace DexTrade.Abi

def wordAt (frame : Bytes) (pos : Nat) : Except Error Word :=
  match frame.slice? pos 32 with
  | some b => .ok (Word.ofBytes b)
  | none => .error .overrun

/-- A word that has to be an offset or a length. -/
def sizeAt (frame : Bytes) (pos : Nat) : Except Error Nat := do
  let w ← wordAt frame pos
  if w.toNat < 0x10000000000000000 then return w.toNat else throw (.sizeTooLarge w)

/-- What stands at the offset in the head at `pos`. -/
def targetAt (frame : Bytes) (pos : Nat) : Except Error Bytes := do
  let offset ← sizeAt frame pos
  if offset ≤ frame.length then return frame.drop offset else throw .overrun

def byteStringAt (frame : Bytes) (pos : Nat) : Except Error Bytes := do
  let target ← targetAt frame pos
  let size ← sizeAt target 0
  match target.slice? 32 size with
  | some b => return b
  | none => throw .overrun

/-- Reads `count` neighbouring elements, the first of them at `pos`. -/
def elementsAt {α : Type} (element : Nat → Except Error α) : Nat → Nat → Except Error (List α)
  | _, 0 => .ok []
  | pos, count + 1 => do
    let x ← element pos
    let rest ← elementsAt element (pos + 32) count
    return x :: rest

/-- An array: its length, then its elements in a frame of their own. -/
def arrayAt {α : Type} (element : Bytes → Nat → Except Error α) (frame : Bytes) (pos : Nat) :
    Except Error (List α) := do
  let target ← targetAt frame pos
  let count ← sizeAt target 0
  let body := target.drop 32
  if count ≤ body.length / 32 then elementsAt (element body) 0 count else throw .overrun

def addressAt (frame : Bytes) (pos : Nat) : Except Error Address :=
  (wordAt frame pos).map Address.ofWord

/-- The value of the parameter whose head is at `pos`. -/
def Param.read (frame : Bytes) (pos : Nat) : (p : Param) → Except Error p.Value
  | .uint bits => (wordAt frame pos).map (·.setWidth bits)
  | .int bits => (wordAt frame pos).map (·.setWidth bits)
  | .address => addressAt frame pos
  | .bool => (wordAt frame pos).map (· != 0)
  | .bytes => byteStringAt frame pos
  | .addresses => arrayAt addressAt frame pos
  | .byteStrings => arrayAt byteStringAt frame pos

/-- The values of parameters whose heads follow each other from `pos` on. -/
def readFrom (frame : Bytes) : (pos : Nat) → (params : List Param) → Except Error (Values params)
  | _, [] => .ok ()
  | pos, p :: rest => do
    let value ← p.read frame pos
    let values ← readFrom frame (pos + 32) rest
    return (value, values)

/-- The values of a parameter list that fills a frame. -/
def read (params : List Param) (frame : Bytes) : Except Error (Values params) :=
  readFrom frame 0 params

/-- A parameter list that stands apart as one dynamic value, the only one of its frame. -/
def readApart (params : List Param) (frame : Bytes) : Except Error (Values params) := do
  let target ← targetAt frame 0
  read params target

/-! ## What is read stays inside its frame -/

theorem length_le_of_targetAt {frame target : Bytes} {pos : Nat}
    (h : targetAt frame pos = .ok target) : target.length ≤ frame.length := by
  unfold targetAt at h
  cases hs : sizeAt frame pos with
  | error e => rw [hs] at h; exact nomatch h
  | ok offset =>
    rw [hs] at h
    simp only [bind, Except.bind] at h
    split at h
    · cases h; simp
    · exact nomatch h

theorem length_le_of_byteStringAt {frame b : Bytes} {pos : Nat}
    (h : byteStringAt frame pos = .ok b) : b.length ≤ frame.length := by
  unfold byteStringAt at h
  cases ht : targetAt frame pos with
  | error e => rw [ht] at h; exact nomatch h
  | ok target =>
    have hle := length_le_of_targetAt ht
    rw [ht] at h
    simp only [bind, Except.bind] at h
    cases hs : sizeAt target 0 with
    | error e => rw [hs] at h; exact nomatch h
    | ok size =>
      rw [hs] at h
      simp only at h
      split at h
      · rename_i slice hslice
        cases h
        have := (Bytes.slice?_eq_some_iff.1 hslice).2
        subst this
        simp only [List.length_take, List.length_drop]
        omega
      · exact nomatch h

theorem forall_of_elementsAt {α : Type} {element : Nat → Except Error α} {p : α → Prop}
    (hp : ∀ pos x, element pos = .ok x → p x) :
    ∀ (count pos : Nat) (xs : List α), elementsAt element pos count = .ok xs → ∀ x ∈ xs, p x
  | 0, _, xs, h => by
    cases h
    simp
  | count + 1, pos, xs, h => by
    unfold elementsAt at h
    cases hx : element pos with
    | error e => rw [hx] at h; exact nomatch h
    | ok x =>
      rw [hx] at h
      simp only [bind, Except.bind] at h
      cases hr : elementsAt element (pos + 32) count with
      | error e => rw [hr] at h; exact nomatch h
      | ok rest =>
        rw [hr] at h
        cases h
        intro y hy
        rcases List.mem_cons.1 hy with rfl | hy
        · exact hp pos _ hx
        · exact forall_of_elementsAt hp count (pos + 32) rest hr y hy

theorem length_le_of_arrayAt {frame : Bytes} {pos : Nat} {calls : List Bytes}
    (h : arrayAt byteStringAt frame pos = .ok calls) :
    ∀ call ∈ calls, call.length ≤ frame.length := by
  unfold arrayAt at h
  cases ht : targetAt frame pos with
  | error e => rw [ht] at h; exact nomatch h
  | ok target =>
    have hle := length_le_of_targetAt ht
    rw [ht] at h
    simp only [bind, Except.bind] at h
    cases hs : sizeAt target 0 with
    | error e => rw [hs] at h; exact nomatch h
    | ok count =>
      rw [hs] at h
      simp only at h
      split at h
      · refine forall_of_elementsAt (p := fun call : Bytes => call.length ≤ frame.length) ?_ _ _ _ h
        intro at_ call hcall
        have := length_le_of_byteStringAt hcall
        simp only [List.length_drop] at this
        omega
      · exact nomatch h

end DexTrade.Abi
