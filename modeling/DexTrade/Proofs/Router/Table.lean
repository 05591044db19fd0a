import DexTrade.Router.Table
import Mathlib.Data.List.Induction
/-!
# Looking up routers

A chain answers for an address with the first of its families that lists it
(`rank_classify_le_iff`). A table answers with the chain that a name has; of chains whose names share
a lowercase form that is the last one (`chain?_ofChains_append`).
-/
namespace DexTrade

/-- The place of a family in the order in which they are asked. -/
def RouterKind.rank : RouterKind → Nat
  | .v2 => 0
  | .v3 => 1
  | .universal => 2
  | .unknown => 3

theorem RouterKind.rank_lt_unknown {kind : RouterKind} :
    kind.rank < RouterKind.unknown.rank ↔ kind ≠ .unknown := by
  cases kind <;> decide

namespace ChainRouters

/-- The routers of a family. -/
def routers (c : ChainRouters) : RouterKind → List RouterEntry
  | .v2 => c.v2
  | .v3 => c.v3
  | .universal => c.universal
  | .unknown => []

/-- An entry of a family has this address. -/
def Lists (c : ChainRouters) (kind : RouterKind) (a : Address) : Prop :=
  ∃ entry ∈ c.routers kind, entry.address = a

instance (c : ChainRouters) (kind : RouterKind) (a : Address) : Decidable (c.Lists kind a) :=
  inferInstanceAs (Decidable (∃ entry ∈ c.routers kind, entry.address = a))

/-- The first family that lists an address. -/
def classify (c : ChainRouters) (a : Address) : RouterKind :=
  ((c.find? a).map Prod.fst).getD .unknown

variable {c : ChainRouters} {kind : RouterKind} {a : Address}

theorem find?_eq_none_iff_not_lists (c : ChainRouters) (kind : RouterKind) (a : Address) :
    (c.routers kind).find? (fun entry => entry.address == a) = none ↔ ¬c.Lists kind a := by
  simp [Lists]

theorem lists_of_find? (c : ChainRouters) (kind : RouterKind) {entry : RouterEntry}
    (h : (c.routers kind).find? (fun entry => entry.address == a) = some entry) :
    c.Lists kind a :=
  ⟨entry, List.mem_of_find?_eq_some h, by simpa using List.find?_some h⟩

theorem not_lists_unknown : ¬c.Lists .unknown a := by
  rintro ⟨entry, hmem, -⟩
  exact nomatch hmem

theorem Lists.ne_unknown (h : c.Lists kind a) : kind ≠ .unknown := by
  rintro rfl
  exact not_lists_unknown h

/-- The families are asked one after the other. -/
theorem classify_eq_ite (c : ChainRouters) (a : Address) :
    c.classify a =
      if c.Lists .v2 a then .v2
      else if c.Lists .v3 a then .v3
      else if c.Lists .universal a then .universal
      else .unknown := by
  unfold classify find? families
  cases hv2 : c.v2.find? fun entry => entry.address == a with
  | some entry =>
    rw [if_pos (lists_of_find? c .v2 hv2)]
    simp [hv2]
  | none =>
    rw [if_neg ((find?_eq_none_iff_not_lists c .v2 a).1 hv2)]
    cases hv3 : c.v3.find? fun entry => entry.address == a with
    | some entry =>
      rw [if_pos (lists_of_find? c .v3 hv3)]
      simp [hv2, hv3]
    | none =>
      rw [if_neg ((find?_eq_none_iff_not_lists c .v3 a).1 hv3)]
      cases huniversal : c.universal.find? fun entry => entry.address == a with
      | some entry =>
        rw [if_pos (lists_of_find? c .universal huniversal)]
        simp [hv2, hv3, huniversal]
      | none =>
        rw [if_neg ((find?_eq_none_iff_not_lists c .universal a).1 huniversal)]
        simp [hv2, hv3, huniversal]

theorem lists_classify (h : c.classify a ≠ .unknown) : c.Lists (c.classify a) a := by
  rw [classify_eq_ite] at h ⊢
  split
  · assumption
  · split
    · assumption
    · split
      · assumption
      · simp_all

theorem rank_classify_le (h : c.Lists kind a) : (c.classify a).rank ≤ kind.rank := by
  rw [classify_eq_ite]
  cases kind with
  | v2 => simp only [if_pos h, Nat.le_refl]
  | v3 => split <;> decide
  | universal =>
    split
    · decide
    · split <;> decide
  | unknown => exact absurd h not_lists_unknown

/-- An address belongs to a family or to one that is asked before it if one of these lists it. -/
theorem rank_classify_le_iff (h : kind ≠ .unknown) :
    (c.classify a).rank ≤ kind.rank ↔ ∃ kind', kind'.rank ≤ kind.rank ∧ c.Lists kind' a := by
  constructor
  · intro hrank
    have hknown := RouterKind.rank_lt_unknown.1
      (Nat.lt_of_le_of_lt hrank (RouterKind.rank_lt_unknown.2 h))
    exact ⟨c.classify a, hrank, lists_classify hknown⟩
  · rintro ⟨kind', hrank, hlists⟩
    exact Nat.le_trans (rank_classify_le hlists) hrank

end ChainRouters

namespace RouterTable

variable {name spelling : String} {routers : ChainRouters} {chains : List (String × ChainRouters)}

/-- A known chain answers with its own routers. -/
theorem classify_of_chain? {t : RouterTable} (h : t.chain? spelling = some routers) (a : Address) :
    t.classify spelling a = routers.classify a := by
  unfold classify
  rw [find?, h, Option.bind_some]
  unfold ChainRouters.classify
  cases routers.find? a <;> rfl

theorem lookup_put (name : String) (routers : ChainRouters) (chains : List (String × ChainRouters))
    (n : String) :
    (put name routers chains).lookup n =
      if n = name then some routers else chains.lookup n := by
  induction chains with
  | nil => by_cases hn : n = name <;> simp [put, List.lookup_cons, hn, beq_false_of_ne]
  | cons chain rest ih =>
    obtain ⟨k, r⟩ := chain
    by_cases hk : k = name
    · by_cases hn : n = k
      · simp [put, hk, hn]
      · simp [put, List.lookup_cons, hk, hk ▸ hn, beq_false_of_ne (hk ▸ hn)]
    · by_cases hn : n = k
      · simp [put, hk, hn]
      · simp [put, List.lookup_cons, hk, beq_false_of_ne hn, ih]

/-- A chain that comes later takes the place of all before it with the same lowercase form. -/
theorem chain?_ofChains_append (chains : List (String × ChainRouters))
    (chain : String × ChainRouters) (spelling : String) :
    (ofChains (chains ++ [chain])).chain? spelling =
      if Text.lowercase spelling = Text.lowercase chain.1 then some chain.2
      else (ofChains chains).chain? spelling := by
  simp only [chain?, ofChains, List.foldl_append, List.foldl_cons, List.foldl_nil, lookup_put]

theorem mem_of_chain?_ofChains (h : (ofChains chains).chain? spelling = some routers) :
    ∃ name, (name, routers) ∈ chains ∧ Text.lowercase name = Text.lowercase spelling := by
  induction chains using List.reverseRecOn with
  | nil => exact nomatch h
  | append_singleton before chain ih =>
    rw [chain?_ofChains_append] at h
    split at h
    · rename_i hname
      cases h
      exact ⟨chain.1, by simp, hname.symm⟩
    · obtain ⟨name, hmem, hname⟩ := ih h
      exact ⟨name, List.mem_append_left _ hmem, hname⟩

/-- Every spelling of a chain that was given is known. -/
theorem exists_chain?_ofChains (h : (name, routers) ∈ chains)
    (hspelling : Text.lowercase spelling = Text.lowercase name) :
    ∃ kept, (ofChains chains).chain? spelling = some kept := by
  induction chains using List.reverseRecOn with
  | nil => exact nomatch h
  | append_singleton before chain ih =>
    rw [chain?_ofChains_append]
    split
    · exact ⟨chain.2, rfl⟩
    · rename_i hother
      obtain hmem | hmem := List.mem_append.1 h
      · exact ih hmem
      · cases List.mem_singleton.1 hmem
        exact absurd hspelling hother

end RouterTable

end DexTrade
