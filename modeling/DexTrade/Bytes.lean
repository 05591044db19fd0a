/-!
# Byte strings

A byte string is a list of bytes. Numbers inside one are big-endian: `value` reads the whole string
as one number, `ofNat width` writes a number in exactly `width` bytes, and the two undo each other on
every number that fits (`value_ofNat`).
-/
namespace DexTrade

abbrev Bytes := List UInt8

namespace Bytes

/-- The number whose big-endian digits, to base 256, are the bytes. -/
def value (b : Bytes) : Nat :=
  b.foldl (fun n x => n * 256 + x.toNat) 0

/-- The low `width` base-256 digits of a number, most significant first. -/
def ofNat : Nat → Nat → Bytes
  | 0, _ => []
  | width + 1, n => ofNat width (n / 256) ++ [UInt8.ofNat n]

/-- The `count` bytes from `start` on, if the string reaches that far. -/
def slice? (b : Bytes) (start count : Nat) : Option Bytes :=
  if start + count ≤ b.length then some ((b.drop start).take count) else none

theorem length_ofNat (width n : Nat) : (ofNat width n).length = width := by
  induction width generalizing n with
  | zero => rfl
  | succ width ih => simp [ofNat, ih]

theorem value_append_singleton (b : Bytes) (x : UInt8) :
    value (b ++ [x]) = value b * 256 + x.toNat := by
  simp [value]

/-- Writing keeps a number up to the width of the field. -/
theorem value_ofNat (width n : Nat) : (ofNat width n).value = n % Nat.pow 256 width := by
  induction width generalizing n with
  | zero => simp [ofNat, value, Nat.mod_one]
  | succ width ih =>
    have hpow : Nat.pow 256 (width + 1) = 256 * Nat.pow 256 width := Nat.mul_comm _ _
    rw [ofNat, value_append_singleton, ih, hpow, UInt8.toNat_ofNat', Nat.mod_mul]
    omega

theorem value_ofNat_of_lt {width n : Nat} (h : n < Nat.pow 256 width) :
    (ofNat width n).value = n := by
  rw [value_ofNat, Nat.mod_eq_of_lt h]

/-- A byte string is what its number is written as in as many bytes. -/
theorem ofNat_value {width : Nat} {b : Bytes} (h : b.length = width) : ofNat width b.value = b := by
  induction width generalizing b with
  | zero => rw [List.eq_nil_of_length_eq_zero h, ofNat]
  | succ width ih =>
    have hne : b ≠ [] := List.ne_nil_of_length_eq_add_one h
    have hlength : b.dropLast.length = width := by rw [List.length_dropLast, h]; rfl
    have hlast := (b.getLast hne).toNat_lt
    rw [← List.dropLast_concat_getLast hne, value_append_singleton, ofNat]
    have hdiv : (value b.dropLast * 256 + (b.getLast hne).toNat) / 256 = value b.dropLast := by omega
    have hmod : UInt8.ofNat (value b.dropLast * 256 + (b.getLast hne).toNat) = b.getLast hne := by
      apply UInt8.toNat_inj.1
      rw [UInt8.toNat_ofNat']
      omega
    rw [hdiv, hmod, ih hlength]

theorem value_lt {width : Nat} {b : Bytes} (h : b.length = width) : b.value < Nat.pow 256 width := by
  have hvalue := value_ofNat width b.value
  rw [ofNat_value h] at hvalue
  rw [hvalue]
  exact Nat.mod_lt _ (Nat.pow_pos (by decide))

theorem slice?_eq_some_iff {b s : Bytes} {start count : Nat} :
    b.slice? start count = some s ↔ start + count ≤ b.length ∧ s = (b.drop start).take count := by
  unfold slice?
  split
  · simp_all [eq_comm]
  · rename_i short
    exact ⟨nofun, fun h => absurd h.1 short⟩

end Bytes

end DexTrade
