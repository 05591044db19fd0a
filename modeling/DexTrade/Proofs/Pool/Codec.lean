import DexTrade.Proofs.Pool.Path
/-!
# The codec of packed routes

A byte string is a packed route exactly if it is 20 bytes and 23 more for each of its hops, of which
there is at least one, and then packing what was unpacked gives the string back: no route has two packed
forms. The other way around a fee comes back without what three bytes cannot hold. Walking a route
backwards can be done before packing or after unpacking (`packed_route_codec`).
-/
namespace DexTrade

theorem Address.toBytes_ofBytes {b : Bytes} (h : b.length = 20) : (ofBytes b).toBytes = b := by
  have hlt : b.value < Nat.pow 256 20 := Bytes.value_lt h
  have hbits : (ofBytes b).bits.toNat = b.value := by
    rw [ofBytes, BitVec.toNat_ofNat]
    exact Nat.mod_eq_of_lt hlt
  rw [toBytes, hbits, Bytes.ofNat_value h]

namespace PoolPath

variable {hops : Nat} {b : Bytes} {p : PoolPath} {tokens : List Address} {fees : List Nat}

/-! ## Unpacking, then packing -/

theorem length_unpackHops (hops : Nat) (b : Bytes) :
    (unpackHops hops b).tokens.length = hops + 1 := by
  induction hops generalizing b with
  | zero => rfl
  | succ hops ih => simp [unpackHops, ih]

theorem hops_unpackHops (hops : Nat) (b : Bytes) : (unpackHops hops b).hops = hops := by
  induction hops generalizing b with
  | zero => rfl
  | succ hops ih => exact congrArg (· + 1) (ih _)

/-- A fee is read from three bytes. -/
theorem lt_feeLimit_of_mem_unpackHops (h : b.length = addressSize + hopSize * hops) {fee : Nat}
    (hfee : fee ∈ (unpackHops hops b).fees) : fee < feeLimit := by
  induction hops generalizing b with
  | zero => exact nomatch hfee
  | succ hops ih =>
    have hsize : 43 + 23 * hops = b.length := by
      rw [h, addressSize, hopSize, addressSize, feeSize]
      omega
    obtain rfl | hrest := List.mem_cons.1 hfee
    · have hwidth : ((b.drop addressSize).take feeSize).length = feeSize := by
        rw [List.length_take, List.length_drop, feeSize, addressSize]
        omega
      exact Bytes.value_lt hwidth
    · refine ih ?_ hrest
      rw [List.length_drop, ← hsize, addressSize, hopSize, addressSize, feeSize]
      omega

/-- The bytes of a hop are those of its token and of its fee. -/
theorem packHops_unpackHops (h : b.length = addressSize + hopSize * hops) :
    packHops (unpackHops hops b).tokens (unpackHops hops b).fees = b := by
  induction hops generalizing b with
  | zero => exact Address.toBytes_ofBytes h
  | succ hops ih =>
    have hsize : 43 + 23 * hops = b.length := by
      rw [h, addressSize, hopSize, addressSize, feeSize]
      omega
    have htoken : (b.take addressSize).length = 20 := by
      rw [List.length_take, addressSize]
      omega
    have hfee : ((b.drop addressSize).take feeSize).length = feeSize := by
      rw [List.length_take, List.length_drop, feeSize, addressSize]
      omega
    have hrest : (b.drop hopSize).length = addressSize + hopSize * hops := by
      rw [List.length_drop, ← hsize, addressSize, hopSize, addressSize, feeSize]
      omega
    have hdrop : (b.drop addressSize).drop feeSize = b.drop hopSize := by
      rw [List.drop_drop]
      rfl
    rw [unpackHops, packHops, ih hrest, Address.toBytes_ofBytes htoken, Bytes.ofNat_value hfee,
      List.append_assoc, ← hdrop, List.take_append_drop, List.take_append_drop]

/-- What is unpacked has the length of one hop or more. -/
theorem unpack_eq_ok_iff :
    unpack b = .ok p ↔
      ∃ hops, 1 ≤ hops ∧ b.length = addressSize + hopSize * hops ∧ p = unpackHops hops b := by
  unfold unpack
  split
  · rename_i hsize
    refine ⟨nofun, fun ⟨hops, hpos, hlength, _⟩ => absurd hsize ?_⟩
    have hhop : hopSize ≤ hopSize * hops := Nat.le_mul_of_pos_right _ hpos
    rw [hlength, Nat.add_sub_cancel_left, Nat.mul_mod_right]
    omega
  · rename_i hsize
    have hwhole : hopSize * ((b.length - addressSize) / hopSize) = b.length - addressSize :=
      Nat.mul_div_cancel' (Nat.dvd_of_mod_eq_zero (by omega))
    have hhop : hopSize ≤ b.length - addressSize := by omega
    constructor
    · intro h
      cases h
      exact ⟨_, Nat.div_pos hhop (by decide), by omega, rfl⟩
    · rintro ⟨hops, -, hlength, rfl⟩
      rw [hlength, Nat.add_sub_cancel_left, Nat.mul_div_cancel_left _ (by decide)]

/-- No route has two packed forms. -/
theorem pack_unpack (h : unpack b = .ok p) : pack p.tokens p.fees = .ok b := by
  obtain ⟨hops, hpos, hlength, rfl⟩ := unpack_eq_ok_iff.1 h
  have hfees : (unpackHops hops b).fees.length = hops := hops_unpackHops hops b
  refine pack_eq_ok_iff.2 ⟨?_, (packHops_unpackHops hlength).symm⟩
  rw [length_unpackHops, hfees]
  omega

/-! ## Backwards -/

theorem reversed_reversed (p : PoolPath) : p.reversed.reversed = p := by
  rw [reversed, reversed, List.reverse_reverse, List.reverse_reverse]

theorem firstToken?_reversed (p : PoolPath) : p.reversed.firstToken? = p.lastToken? :=
  List.head?_reverse

theorem lastToken?_reversed (p : PoolPath) : p.reversed.lastToken? = p.firstToken? :=
  List.getLast?_reverse

theorem hops_reversed (p : PoolPath) : p.reversed.hops = p.hops :=
  List.length_reverse

/-- What packs also packs backwards, into what unpacks to the route backwards. -/
theorem unpack_pack_reverse {packed : Bytes} (h : pack tokens fees = .ok packed) :
    ∃ backwards, pack tokens.reverse fees.reverse = .ok backwards ∧
      unpack backwards = (unpack packed).map reversed := by
  have hshape := (pack_eq_ok_iff.1 h).1
  have hbackwards : pack tokens.reverse fees.reverse =
      .ok (packHops tokens.reverse fees.reverse) :=
    pack_eq_ok_iff.2 ⟨by simpa only [List.length_reverse] using hshape, rfl⟩
  refine ⟨_, hbackwards, ?_⟩
  rw [unpack_pack hbackwards, unpack_pack h, List.map_reverse]
  rfl

/-! ## The codec -/

/-- A byte string can be unpacked exactly if it is 20 bytes and 23 for each hop of a route with at least
one hop; it then holds one token more than hops, and a fee below `feeLimit` for each hop. Tokens and fees
can be packed exactly if there are two tokens or more and a fee for each two neighbours. Unpacking and
packing undo each other, but for what a fee has beyond three bytes. A route packed backwards unpacks to
the route backwards; backwards twice is the route itself, its ends change places and its hops stay as
many. -/
theorem packed_route_codec (b : Bytes) (tokens : List Address) (fees : List Nat) :
    ((∃ p, unpack b = .ok p) ↔ ∃ hops, 1 ≤ hops ∧ b.length = 20 + 23 * hops) ∧
    (∀ p hops, unpack b = .ok p → b.length = 20 + 23 * hops →
      p.tokens.length = hops + 1 ∧ p.fees.length = hops ∧ ∀ fee ∈ p.fees, fee < feeLimit) ∧
    ((∃ packed, pack tokens fees = .ok packed) ↔
      2 ≤ tokens.length ∧ fees.length + 1 = tokens.length) ∧
    (∀ p, unpack b = .ok p → pack p.tokens p.fees = .ok b) ∧
    (∀ packed, pack tokens fees = .ok packed →
      unpack packed = .ok ⟨tokens, fees.map (· % feeLimit)⟩ ∧
      ((∀ fee ∈ fees, fee < feeLimit) → unpack packed = .ok ⟨tokens, fees⟩) ∧
      ∃ backwards, pack tokens.reverse fees.reverse = .ok backwards ∧
        unpack backwards = (unpack packed).map reversed) ∧
    ∀ p : PoolPath, p.reversed.reversed = p ∧ p.reversed.firstToken? = p.lastToken? ∧
      p.reversed.lastToken? = p.firstToken? ∧ p.reversed.hops = p.hops := by
  refine ⟨⟨?_, ?_⟩, ?_, ⟨?_, ?_⟩, fun p => pack_unpack, fun packed h => ?_, fun p => ?_⟩
  · rintro ⟨p, h⟩
    obtain ⟨hops, hpos, hlength, -⟩ := unpack_eq_ok_iff.1 h
    exact ⟨hops, hpos, hlength⟩
  · rintro ⟨hops, hpos, hlength⟩
    exact ⟨_, unpack_eq_ok_iff.2 ⟨hops, hpos, hlength, rfl⟩⟩
  · intro p hops h hlength
    obtain ⟨hops', -, hlength', rfl⟩ := unpack_eq_ok_iff.1 h
    have hsame : hops' = hops := by
      have hsize : 20 + 23 * hops' = 20 + 23 * hops := hlength'.symm.trans hlength
      omega
    subst hsame
    exact ⟨length_unpackHops _ _, hops_unpackHops _ _,
      fun fee => lt_feeLimit_of_mem_unpackHops hlength'⟩
  · rintro ⟨packed, h⟩
    obtain ⟨⟨htwo, hfees⟩, -⟩ := pack_eq_ok_iff.1 h
    exact ⟨htwo, hfees.symm⟩
  · rintro ⟨htwo, hfees⟩
    exact ⟨_, pack_eq_ok_iff.2 ⟨⟨htwo, hfees.symm⟩, rfl⟩⟩
  · exact ⟨unpack_pack h, unpack_pack_of_lt h, unpack_pack_reverse h⟩
  · exact ⟨reversed_reversed p, firstToken?_reversed p, lastToken?_reversed p, hops_reversed p⟩

/-- Two pools, the first with a fee that has a bit too many. -/
theorem codec_of_two_pools :
    let tokens : List Address := [⟨0x8335⟩, ⟨0x4200⟩, ⟨0x4ed4⟩]
    let fees := [feeLimit + 500, 10000]
    let packed := packHops tokens fees
    packed.length = 20 + 23 * 2 ∧ pack tokens fees = .ok packed ∧
      unpack packed = .ok ⟨tokens, [500, 10000]⟩ ∧ (∀ fee ∈ [500, 10000], fee < feeLimit) ∧
      pack tokens [500, 10000] = .ok packed ∧
      ∃ backwards, pack tokens.reverse fees.reverse = .ok backwards ∧
        unpack backwards = .ok ⟨tokens.reverse, [10000, 500]⟩ := by
  intro tokens fees packed
  have hlength : packed.length = 20 + 23 * 2 := by decide +kernel
  have hpack : pack tokens fees = .ok packed := rfl
  obtain ⟨-, hcount, -, hagain, hback, -⟩ := packed_route_codec packed tokens fees
  obtain ⟨hunpack, -, backwards, hbackwards, hreversed⟩ := hback packed hpack
  obtain ⟨-, -, hfees⟩ := hcount _ 2 hunpack hlength
  rw [hunpack] at hreversed
  exact ⟨hlength, hpack, hunpack, hfees, hagain _ hunpack, backwards, hbackwards, hreversed⟩

end PoolPath

end DexTrade
