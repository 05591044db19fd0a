import DexTrade.Proofs.Abi.RoundTrip
import DexTrade.Proofs.Abi.Selector
import DexTrade.Swap.V3Router
/-!
# V3 router calls in standard form

The calls of both router versions as their senders write them: a selector and the arguments in
standard form. Each is read as the request it was written for (`read_singleCall`, `read_pathCall`,
`read_multicall`), provided the bytes of its arguments can be addressed. The parameter lists are
spelled out here and not shared with the reader.
-/
namespace DexTrade.V3Router

inductive Version where
  /-- Every swap names a deadline. -/
  | first
  | second
  deriving DecidableEq

/-- The arguments of a swap through one pool. The deadline is written for the first version only. -/
structure SingleArguments where
  tokenIn : Address
  tokenOut : Address
  fee : BitVec 24
  recipient : Address
  deadline : Word
  /-- The exact input or the exact output. -/
  exact : Word
  /-- The least output for an exact input, else the largest input. -/
  bound : Word
  priceLimit : BitVec 160

/-- The arguments of a swap along a packed path, well formed or not. -/
structure PathArguments where
  packed : Bytes
  recipient : Address
  deadline : Word
  exact : Word
  bound : Word

def singleSelector : Version → (exactOutput : Bool) → Selector
  | .first, false => 0x414bf389
  | .first, true => 0xdb3e2198
  | .second, false => 0x04e45aaf
  | .second, true => 0x5023b4df

def pathSelector : Version → (exactOutput : Bool) → Selector
  | .first, false => 0xc04b8d59
  | .first, true => 0xf28c0498
  | .second, false => 0xb858183f
  | .second, true => 0x09b81346

def SingleArguments.write (a : SingleArguments) : Version → Bytes
  | .first =>
    Abi.write
      [.address, .address, .uint 24, .address, .uint 256, .uint 256, .uint 256, .uint 160]
      (a.tokenIn, a.tokenOut, a.fee, a.recipient, a.deadline, a.exact, a.bound, a.priceLimit, ())
  | .second =>
    Abi.write [.address, .address, .uint 24, .address, .uint 256, .uint 256, .uint 160]
      (a.tokenIn, a.tokenOut, a.fee, a.recipient, a.exact, a.bound, a.priceLimit, ())

def PathArguments.write (a : PathArguments) : Version → Bytes
  | .first =>
    Abi.writeApart [.bytes, .address, .uint 256, .uint 256, .uint 256]
      (a.packed, a.recipient, a.deadline, a.exact, a.bound, ())
  | .second =>
    Abi.writeApart [.bytes, .address, .uint 256, .uint 256]
      (a.packed, a.recipient, a.exact, a.bound, ())

def singleCall (version : Version) (exactOutput : Bool) (a : SingleArguments) : Bytes :=
  (singleSelector version exactOutput).toBytes ++ a.write version

def pathCall (version : Version) (exactOutput : Bool) (a : PathArguments) : Bytes :=
  (pathSelector version exactOutput).toBytes ++ a.write version

/-- What a multicall asks for besides its calls: nothing, a deadline, or the hash of a block. -/
inductive Guard where
  | none
  | deadline (time : Word)
  | blockHash (hash : Word)

def Guard.selector : Guard → Selector
  | .none => 0xac9650d8
  | .deadline _ => 0x5ae401dc
  | .blockHash _ => 0x1f0464d1

def Guard.write (calls : List Bytes) : Guard → Bytes
  | .none => Abi.write [.byteStrings] (calls, ())
  | .deadline time => Abi.write [.uint 256, .byteStrings] (time, calls, ())
  | .blockHash hash => Abi.write [.uint 256, .byteStrings] (hash, calls, ())

def multicall (guard : Guard) (calls : List Bytes) : Bytes :=
  guard.selector.toBytes ++ guard.write calls

/-! ## Reading -/

section Request

variable {s : Selector} {reader : Bytes → Except Abi.Error Request} {arguments : Bytes}
  {request : Request}

theorem read_of_firstVersion (hlookup : firstVersion.functions.lookup s = some reader)
    (hlength : firstVersion.shortest ≤ 4 + arguments.length)
    (hreader : reader arguments = .ok request) :
    Request.read (s.toBytes ++ arguments) = .ok request := by
  rw [Request.read, Abi.Interface.read_call hlookup hlength, hreader]

/-- The second version is asked for what the first one does not know. -/
theorem read_of_secondVersion (hunknown : firstVersion.functions.lookup s = none)
    (hlookup : secondVersion.functions.lookup s = some reader)
    (hlength : secondVersion.shortest ≤ 4 + arguments.length)
    (hreader : reader arguments = .ok request) :
    Request.read (s.toBytes ++ arguments) = .ok request := by
  obtain ⟨e, he⟩ := Abi.Interface.read_unknown hunknown arguments
  rw [Request.read, he, Abi.Interface.read_call hlookup hlength, hreader]

end Request

/-- Arguments that are all static have one word each. -/
theorem SingleArguments.length_write (a : SingleArguments) (version : Version) :
    (a.write version).length = match version with | .first => 256 | .second => 224 := by
  cases version <;> simp [write, Abi.write, Abi.length_frameOf, Abi.parts, Abi.Param.part,
    Abi.contents]

theorem addressable_singleArguments (a : SingleArguments) (version : Version) :
    Abi.Addressable (a.write version) := by
  unfold Abi.Addressable
  rw [a.length_write]
  cases version <;> decide

theorem PathArguments.le_length_write (a : PathArguments) (version : Version) :
    96 ≤ (a.write version).length := by
  cases version <;>
    simp only [write, Abi.writeApart, Abi.write, Abi.length_frameOf, Abi.parts, Abi.Param.part,
      Abi.contents, List.length_append, List.length_cons, List.length_nil] <;>
    omega

theorem Guard.le_length_write (guard : Guard) (calls : List Bytes) :
    (match guard with | .none => 64 | _ => 96) ≤ (guard.write calls).length := by
  cases guard <;>
    simp only [write, Abi.write, Abi.length_frameOf, Abi.parts, Abi.Param.part, Abi.contents,
      List.length_append, List.length_cons, List.length_nil, Abi.length_array] <;>
    omega

theorem read_singleCall (version : Version) (exactOutput : Bool) (a : SingleArguments) :
    Request.read (singleCall version exactOutput a) =
      .ok (.single exactOutput a.tokenIn a.tokenOut a.fee a.exact a.bound) := by
  have hlength := a.length_write version
  have hsize := addressable_singleArguments a version
  cases version with
  | first =>
    have hlookup : firstVersion.functions.lookup (singleSelector .first exactOutput) =
        some (readSingleWithDeadline exactOutput) := by cases exactOutput <;> rfl
    have hvalues : Abi.read singleParamsWithDeadline (a.write .first) = .ok _ :=
      Abi.read_write (by decide) _ hsize
    apply read_of_firstVersion hlookup (by rw [hlength]; decide)
    rw [readSingleWithDeadline, hvalues]
    rfl
  | second =>
    have hunknown : firstVersion.functions.lookup (singleSelector .second exactOutput) = none := by
      cases exactOutput <;> rfl
    have hlookup : secondVersion.functions.lookup (singleSelector .second exactOutput) =
        some (readSingle exactOutput) := by cases exactOutput <;> rfl
    have hvalues : Abi.read singleParams (a.write .second) = .ok _ :=
      Abi.read_write (by decide) _ hsize
    apply read_of_secondVersion hunknown hlookup (by rw [hlength]; decide)
    rw [readSingle, hvalues]
    rfl

theorem read_pathCall (version : Version) (exactOutput : Bool) (a : PathArguments)
    (hsize : Abi.Addressable (a.write version)) :
    Request.read (pathCall version exactOutput a) =
      .ok (.path exactOutput a.packed a.exact a.bound) := by
  have hlength := Nat.add_le_add_left (a.le_length_write version) 4
  cases version with
  | first =>
    have hlookup : firstVersion.functions.lookup (pathSelector .first exactOutput) =
        some (readPathWithDeadline exactOutput) := by cases exactOutput <;> rfl
    have hvalues : Abi.readApart pathParamsWithDeadline (a.write .first) = .ok _ :=
      Abi.readApart_writeApart (by decide) _ hsize
    apply read_of_firstVersion hlookup (Nat.le_trans (by decide) hlength)
    rw [readPathWithDeadline, hvalues]
    rfl
  | second =>
    have hunknown : firstVersion.functions.lookup (pathSelector .second exactOutput) = none := by
      cases exactOutput <;> rfl
    have hlookup : secondVersion.functions.lookup (pathSelector .second exactOutput) =
        some (readPath exactOutput) := by cases exactOutput <;> rfl
    have hvalues : Abi.readApart pathParams (a.write .second) = .ok _ :=
      Abi.readApart_writeApart (by decide) _ hsize
    apply read_of_secondVersion hunknown hlookup (Nat.le_trans (by decide) hlength)
    rw [readPath, hvalues]
    rfl

theorem readGuardedMulticall_write {w : Word} {calls : List Bytes}
    (h : Abi.Addressable (Abi.write guardedMulticallParams (w, calls, ()))) :
    readGuardedMulticall (Abi.write guardedMulticallParams (w, calls, ())) =
      .ok (.multicall calls) := by
  have hfits : ∀ p ∈ guardedMulticallParams, p.FitsWord := by decide
  rw [readGuardedMulticall, Abi.read_write hfits (w, calls, ()) h]
  rfl

theorem read_multicall (guard : Guard) (calls : List Bytes)
    (hsize : Abi.Addressable (guard.write calls)) :
    Request.read (multicall guard calls) = .ok (.multicall calls) := by
  have hlength := Nat.add_le_add_left (guard.le_length_write calls) 4
  cases guard with
  | none =>
    have hlookup : firstVersion.functions.lookup Guard.none.selector = some readMulticall := rfl
    have hfits : ∀ p ∈ [Abi.Param.byteStrings], p.FitsWord := by decide
    apply read_of_firstVersion hlookup hlength
    rw [readMulticall, Guard.write, Abi.read_write hfits (calls, ()) hsize]
    rfl
  | deadline time =>
    exact read_of_secondVersion rfl rfl hlength (readGuardedMulticall_write hsize)
  | blockHash hash =>
    exact read_of_secondVersion rfl rfl hlength (readGuardedMulticall_write hsize)

end DexTrade.V3Router
