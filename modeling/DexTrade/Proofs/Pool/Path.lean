import DexTrade.Pool.Path
/-!
# Packing a route and walking it backwards

A packed route is unpacked to the tokens it was packed from and to the low 24 bits of each fee
(`unpack_pack`). Backwards, the same legs are walked in the opposite order and each from its other end
(`legs_reversed`).
-/
namespace DexTrade.PoolPath

/-- Packing a fee keeps what three bytes hold. -/
def feeLimit : Nat := 0x1000000

/-- One pool of a route: the token that goes in, the pool's fee and the token that comes out. -/
structure Leg where
  tokenIn : Address
  fee : Nat
  tokenOut : Address

def Leg.flipped (l : Leg) : Leg :=
  ⟨l.tokenOut, l.fee, l.tokenIn⟩

/-- The legs of a route in order. -/
def legsOf : List Address → List Nat → List Leg
  | a :: b :: tokens, fee :: fees => ⟨a, fee, b⟩ :: legsOf (b :: tokens) fees
  | _, _ => []

def legs (p : PoolPath) : List Leg :=
  legsOf p.tokens p.fees

theorem length_packHops {tokens : List Address} {fees : List Nat}
    (h : tokens.length = fees.length + 1) :
    (packHops tokens fees).length = addressSize + hopSize * fees.length := by
  induction fees generalizing tokens with
  | nil =>
    obtain ⟨a, rfl⟩ := List.length_eq_one_iff.1 h
    exact a.length_toBytes
  | cons fee fees ih =>
    match tokens, h with
    | a :: tokens, h =>
      have hrest := ih (Nat.succ.inj h)
      simp only [packHops, List.length_append, a.length_toBytes, Bytes.length_ofNat, hrest,
        List.length_cons, addressSize, hopSize, feeSize]
      omega

theorem unpackHops_packHops {tokens : List Address} {fees : List Nat}
    (h : tokens.length = fees.length + 1) :
    unpackHops fees.length (packHops tokens fees) = ⟨tokens, fees.map (· % feeLimit)⟩ := by
  induction fees generalizing tokens with
  | nil =>
    obtain ⟨a, rfl⟩ := List.length_eq_one_iff.1 h
    simp [unpackHops, packHops, a.ofBytes_toBytes]
  | cons fee fees ih =>
    match tokens, h with
    | a :: tokens, h =>
      have haddress : a.toBytes.length = addressSize := a.length_toBytes
      have hhead : ((packHops (a :: tokens) (fee :: fees)).take addressSize) = a.toBytes := by
        rw [packHops, List.append_assoc, List.take_left' haddress]
      have hfee : ((packHops (a :: tokens) (fee :: fees)).drop addressSize).take feeSize =
          Bytes.ofNat feeSize fee := by
        rw [packHops, List.append_assoc, List.drop_left' haddress,
          List.take_left' (Bytes.length_ofNat _ _)]
      have hrest : (packHops (a :: tokens) (fee :: fees)).drop hopSize = packHops tokens fees := by
        rw [packHops]
        apply List.drop_left'
        rw [List.length_append, a.length_toBytes, Bytes.length_ofNat]
        rfl
      simp only [List.length_cons, unpackHops, hhead, hfee, hrest, ih (Nat.succ.inj h),
        a.ofBytes_toBytes, Bytes.value_ofNat, List.map_cons]
      rfl

/-- What packs has two tokens or more and a fee for each two neighbours. -/
theorem pack_eq_ok_iff {tokens : List Address} {fees : List Nat} {packed : Bytes} :
    pack tokens fees = .ok packed ↔
      (2 ≤ tokens.length ∧ tokens.length = fees.length + 1) ∧ packed = packHops tokens fees := by
  unfold pack
  split
  · rename_i hshape
    exact ⟨nofun, fun h => absurd h.1 (by omega)⟩
  · rename_i hshape
    simp only [Except.ok.injEq, eq_comm]
    exact ⟨fun h => ⟨by omega, h⟩, And.right⟩

theorem length_of_pack {tokens : List Address} {fees : List Nat} {packed : Bytes}
    (h : pack tokens fees = .ok packed) : tokens.length = fees.length + 1 :=
  (pack_eq_ok_iff.1 h).1.2

theorem unpack_pack {tokens : List Address} {fees : List Nat} {packed : Bytes}
    (h : pack tokens fees = .ok packed) :
    unpack packed = .ok ⟨tokens, fees.map (· % feeLimit)⟩ := by
  obtain ⟨⟨htwo, htokens⟩, rfl⟩ := pack_eq_ok_iff.1 h
  have hlength := length_packHops htokens
  have hsize : (packHops tokens fees).length - addressSize = hopSize * fees.length := by omega
  have hhop : hopSize ≤ hopSize * fees.length := Nat.le_mul_of_pos_right _ (by omega)
  have hfits : ¬ ((packHops tokens fees).length < addressSize + hopSize ∨
      ((packHops tokens fees).length - addressSize) % hopSize ≠ 0) := by
    rw [hsize, Nat.mul_mod_right, hlength]
    omega
  have hhops : hopSize * fees.length / hopSize = fees.length :=
    Nat.mul_div_cancel_left _ (by decide)
  rw [unpack, if_neg hfits, hsize, hhops, unpackHops_packHops htokens]

theorem unpack_pack_of_lt {tokens : List Address} {fees : List Nat} {packed : Bytes}
    (h : pack tokens fees = .ok packed) (hfees : ∀ fee ∈ fees, fee < feeLimit) :
    unpack packed = .ok ⟨tokens, fees⟩ := by
  have hsame : fees.map (· % feeLimit) = fees := by
    rw [List.map_congr_left fun fee hfee => Nat.mod_eq_of_lt (hfees fee hfee), List.map_id']
  rw [unpack_pack h, hsame]

/-! ## Legs -/

theorem legsOf_concat {tokens : List Address} {fees : List Nat} (a b : Address) (fee : Nat)
    (h : tokens.length = fees.length) :
    legsOf (tokens ++ [a, b]) (fees ++ [fee]) = legsOf (tokens ++ [a]) fees ++ [⟨a, fee, b⟩] := by
  induction fees generalizing tokens with
  | nil =>
    rw [List.eq_nil_of_length_eq_zero h]
    rfl
  | cons fee' fees ih =>
    match tokens, h with
    | t :: tokens, h =>
      have hrest := ih (Nat.succ.inj h)
      cases tokens with
      | nil => simpa [legsOf] using hrest
      | cons t' tokens => simpa [legsOf] using hrest

theorem legsOf_reverse {tokens : List Address} {fees : List Nat}
    (h : tokens.length = fees.length + 1) :
    legsOf tokens.reverse fees.reverse = (legsOf tokens fees).reverse.map Leg.flipped := by
  induction fees generalizing tokens with
  | nil =>
    obtain ⟨a, rfl⟩ := List.length_eq_one_iff.1 h
    rfl
  | cons fee fees ih =>
    match tokens, h with
    | a :: b :: tokens, h =>
      have hrest := ih (Nat.succ.inj h : (b :: tokens).length = fees.length + 1)
      have hlength : tokens.reverse.length = fees.reverse.length := by
        simp only [List.length_reverse]
        exact Nat.succ.inj (Nat.succ.inj h)
      have hconcat := legsOf_concat b a fee hlength
      simp only [List.reverse_cons, List.append_assoc, List.singleton_append] at hrest ⊢
      rw [hconcat, hrest, legsOf, List.reverse_cons, List.map_append]
      rfl

/-- Backwards, the legs come in the opposite order, each from its other end. -/
theorem legs_reversed {p : PoolPath} (h : p.tokens.length = p.fees.length + 1) :
    p.reversed.legs = p.legs.reverse.map Leg.flipped :=
  legsOf_reverse h

end DexTrade.PoolPath
