import DexTrade.Proofs.Abi.Selector
import DexTrade.Proofs.V3Router.TwoLevel
import DexTrade.Router.Table
import DexTrade.Swap.UniversalRouter
import DexTrade.Swap.V2Router
/-!
# Call data of a router family

A call begins with a selector of the function it is for, and no selector belongs to routers of two
families. Each family's decoder refuses what begins with none of its own selectors
(`refuses_of_not_leads`), so at most one of them reads a given input (`eq_of_decodes`). The selectors
are spelled out here and not shared with the decoders.
-/
namespace DexTrade

theorem Selector.leads_of_short {s : Selector} {input : Bytes} (h : input.length < 4) :
    s.leads input = false := by
  rw [Bool.eq_false_iff, Ne, leads_iff]
  omega

/-- An interface reads nothing that begins with none of its selectors. -/
theorem Abi.Interface.leads_of_read {Call : Type} {i : Interface Call} {input : Bytes} {call : Call}
    (hshortest : 4 ≤ i.shortest) (h : i.read input = .ok call) :
    ∃ s ∈ i.functions.map Prod.fst, s.leads input = true := by
  obtain ⟨hlength, reader, hmem, -⟩ := exists_reader_of_read h
  exact ⟨_, List.mem_map.2 ⟨_, hmem, rfl⟩,
    Selector.leads_iff.2 ⟨Nat.le_trans hshortest hlength, rfl⟩⟩

namespace RouterKind

/-- The selectors of the functions that the routers of a family have for swaps. -/
def selectors : RouterKind → List Selector
  | .v2 =>
    -- swapExactTokensForTokens, swapTokensForExactTokens
    [0x38ed1739, 0x8803dbee,
    -- swapExactETHForTokens, swapTokensForExactETH
      0x7ff36ab5, 0x4a25d94a,
    -- swapExactTokensForETH, swapETHForExactTokens
      0x18cbafe5, 0xfb3bdb41,
    -- the three exact inputs once more, for tokens that take a fee on transfer
      0x5c11d795, 0xb6f9de95, 0x791ac947]
  | .v3 =>
    -- exactInputSingle, exactInput, exactOutputSingle, exactOutput, each with a deadline
    [0x414bf389, 0xc04b8d59, 0xdb3e2198, 0xf28c0498,
    -- the same four without
      0x04e45aaf, 0xb858183f, 0x5023b4df, 0x09b81346,
    -- multicall(bytes[]), multicall(uint256,bytes[]), multicall(bytes32,bytes[])
      0xac9650d8, 0x5ae401dc, 0x1f0464d1]
  | .universal =>
    -- execute(bytes,bytes[],uint256), execute(bytes,bytes[])
    [0x3593564c, 0x24856bc3]
  | .unknown => []

/-- The input begins with a selector of the family. -/
def leads (kind : RouterKind) (input : Bytes) : Bool :=
  kind.selectors.any fun s => s.leads input

/-- The family's decoder reads the input. -/
def Decodes : RouterKind → Bytes → Prop
  | .v2, input => ∃ swap, V2Router.decode input = .ok swap
  | .v3, input => ∃ swap, V3Router.decode input = .ok swap
  | .universal, input => ∃ call, ExecuteCall.decode input = .ok call
  | .unknown, _ => False

/-- The family's decoder, if there is one, takes the input for no call of the family. -/
def Refuses : RouterKind → Bytes → Prop
  | .v2, input => ∃ problem, V2Router.decode input = .error (.inputDecode problem)
  | .v3, input => ∃ problem, V3Router.decode input = .error (.inputDecode problem)
  | .universal, input => ∃ problem, ExecuteCall.decode input = .error (.inputDecode problem)
  | .unknown, _ => True

variable {kind other : RouterKind} {input : Bytes}

theorem leads_iff : kind.leads input = true ↔ ∃ s ∈ kind.selectors, s.leads input = true :=
  List.any_eq_true

theorem leads_of_short (h : input.length < 4) : kind.leads input = false := by
  rw [Bool.eq_false_iff, Ne, leads_iff]
  rintro ⟨s, -, hs⟩
  rw [Selector.leads_of_short h] at hs
  exact nomatch hs

/-! ## Selectors of one family -/

/-- A selector of two families would make them the same family. -/
theorem eq_of_mem_selectors {s : Selector} (hs : s ∈ kind.selectors) (hs' : s ∈ other.selectors) :
    kind = other := by
  -- A quantifier over selectors would be decided by going through all of them.
  have hall : kind = other ∨
      (kind.selectors.all fun t => !other.selectors.contains t) = true := by
    cases kind <;> cases other <;> decide
  rcases hall with heq | hdisjoint
  · exact heq
  · have hnot := List.all_eq_true.1 hdisjoint s hs
    rw [Bool.not_eq_true', List.contains_iff_mem.2 hs'] at hnot
    exact nomatch hnot

/-- No input begins with selectors of two families. -/
theorem eq_of_leads (h : kind.leads input = true) (h' : other.leads input = true) :
    kind = other := by
  obtain ⟨s, hs, hleads⟩ := leads_iff.1 h
  obtain ⟨t, ht, hleads'⟩ := leads_iff.1 h'
  obtain rfl : s = t := (Selector.leads_iff.1 hleads).2.symm.trans (Selector.leads_iff.1 hleads').2
  exact eq_of_mem_selectors hs ht

/-- What begins with none of the family's selectors is not read by an interface that has no others. -/
theorem exists_error_of_not_leads {Call : Type} {i : Abi.Interface Call} (hshortest : 4 ≤ i.shortest)
    (hfunctions : (i.functions.map Prod.fst).all kind.selectors.contains = true)
    (h : kind.leads input = false) : ∃ e, i.read input = .error e := by
  cases hread : i.read input with
  | error e => exact ⟨e, rfl⟩
  | ok call =>
    obtain ⟨s, hs, hleads⟩ := i.leads_of_read hshortest hread
    have hmem : s ∈ kind.selectors := List.contains_iff_mem.1 (List.all_eq_true.1 hfunctions s hs)
    rw [leads_iff.2 ⟨s, hmem, hleads⟩] at h
    exact nomatch h

/-! ## Decoders of one family -/

theorem refuses_of_not_leads (h : kind.leads input = false) : kind.Refuses input := by
  cases kind with
  | v2 =>
    obtain ⟨e, he⟩ := exists_error_of_not_leads (i := V2Router.interface) (by decide) (by decide) h
    exact ⟨_, by rw [V2Router.decode, he]⟩
  | v3 =>
    obtain ⟨e, he⟩ :=
      exists_error_of_not_leads (i := V3Router.firstVersion) (by decide) (by decide) h
    obtain ⟨e', he'⟩ :=
      exists_error_of_not_leads (i := V3Router.secondVersion) (by decide) (by decide) h
    have hread : V3Router.Request.read input = .error e' := by rw [V3Router.Request.read, he, he']
    refine ⟨.notV3Router (Selector.describe input) e', ?_⟩
    rw [V3Router.decode_eq_twoLevel, V3Router.decodeTwoLevel, V3Router.decodeUnwrapped, hread]
    rfl
  | universal =>
    obtain ⟨e, he⟩ :=
      exists_error_of_not_leads (i := ExecuteCall.interface) (by decide) (by decide) h
    exact ⟨_, by rw [ExecuteCall.decode, he]⟩
  | unknown => trivial

theorem Decodes.not_refuses (h : kind.Decodes input) : ¬kind.Refuses input := by
  cases kind with
  | v2 | v3 | universal =>
    obtain ⟨a, ha⟩ := h
    rintro ⟨problem, hproblem⟩
    cases ha.symm.trans hproblem
  | unknown => exact h.elim

theorem Decodes.leads (h : kind.Decodes input) : kind.leads input = true := by
  cases hleads : kind.leads input with
  | true => rfl
  | false => exact absurd (refuses_of_not_leads hleads) h.not_refuses

theorem eq_of_decodes (h : kind.Decodes input) (h' : other.Decodes input) : kind = other :=
  eq_of_leads h.leads h'.leads

end RouterKind

end DexTrade
