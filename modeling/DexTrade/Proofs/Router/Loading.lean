import DexTrade.Proofs.Router.Table
import DexTrade.Proofs.Toml.Keys
import DexTrade.Router.OfToml
import Mathlib.Data.List.Nodup
import Mathlib.Data.List.Permutation
/-!
# What a loaded table keeps

A document lists addresses under the names of chains as they are written, and no name twice. The
table that is loaded from it has one chain for each lowercase form, so it keeps all that the
document lists if no two names share one. If some do, all but one of their chains are dropped, and
entries are lost unless these chains list the same addresses (`entries_kept_iff`).
-/
namespace DexTrade.RouterTable

/-- Element by element, what was mapped is what came out. -/
theorem map_of_mapM {α β : Type} {f : α → Option β} {xs : List α} {ys : List β}
    (h : xs.mapM f = some ys) : xs.map f = ys.map some := by
  induction xs generalizing ys with
  | nil =>
    cases h
    rfl
  | cons x xs ih =>
    rw [List.mapM_cons] at h
    obtain ⟨y, hy, h⟩ := Option.bind_eq_some_iff.1 h
    obtain ⟨ys, hys, h⟩ := Option.bind_eq_some_iff.1 h
    cases h
    rw [List.map_cons, List.map_cons, hy, ih hys]

theorem mem_iff_of_mapM {α β : Type} {f : α → Option β} {xs : List α} {ys : List β}
    (h : xs.mapM f = some ys) {y : β} : y ∈ ys ↔ ∃ x ∈ xs, f x = some y := by
  rw [← List.mem_map, map_of_mapM h]
  simp

/-! ## Documents -/

/-- The chains in a TOML text, with the names that are written there. -/
def chainValues? (text : String) : Option (List (String × Toml.Value)) :=
  (Toml.read? text).bind fun fields =>
    match fields.lookup "chains" with
    | none => some []
    | some (.table chains) => some chains
    | some _ => none

/-- The routers of the chains in a TOML text, under the names that are written there. -/
def written? (text : String) : Option (List (String × ChainRouters)) :=
  (chainValues? text).bind fun chains => chains.mapM namedChain?

/-- A text is a router table if its chains can be read; the table is made from these. -/
theorem ofToml?_eq_map (text : String) : ofToml? text = (written? text).map ofChains := by
  unfold ofToml? written? chainValues?
  cases Toml.read? text with
  | none => rfl
  | some fields =>
    simp only [Option.bind_some]
    unfold ofDocument?
    rcases fields.lookup "chains" with _ | (_ | _ | _ | _ | _ | _ | _) <;> rfl

/-- What a chain holds under a family: by its key in a table, by its place in an array. -/
def familyIn? : Toml.Value → RouterKind → Option Toml.Value
  | .table fields, .v2 => fields.lookup "v2"
  | .table fields, .v3 => fields.lookup "v3"
  | .table fields, .universal => fields.lookup "universal"
  | .array items, .v2 => items[0]?
  | .array items, .v3 => items[1]?
  | .array items, .universal => items[2]?
  | _, _ => none

/-- A text lists an address under a chain, whose name is taken as it is written, and a family. -/
def Listed (text : String) (name : String) (kind : RouterKind) (a : Address) : Prop :=
  ∃ chains chain items item entry,
    chainValues? text = some chains ∧ (name, chain) ∈ chains ∧
      familyIn? chain kind = some (.array items) ∧ item ∈ items ∧ entry? item = some entry ∧
        entry.address = a

theorem family?_familyIn? {chain : Toml.Value} {c : ChainRouters}
    (h : chainRouters? chain = some c) (kind : RouterKind) :
    family? (familyIn? chain kind) = some (c.routers kind) := by
  have hparts : (do
      let v2 ← family? (familyIn? chain .v2)
      let v3 ← family? (familyIn? chain .v3)
      let universal ← family? (familyIn? chain .universal)
      return (⟨v2, v3, universal⟩ : ChainRouters)) = some c := by
    cases chain with
    | table _ | array _ | moment _ => exact h
    | string _ | integer _ | float _ | boolean _ => cases h
  obtain ⟨v2, hv2, hparts⟩ := Option.bind_eq_some_iff.1 hparts
  obtain ⟨v3, hv3, hparts⟩ := Option.bind_eq_some_iff.1 hparts
  obtain ⟨universal, huniversal, hparts⟩ := Option.bind_eq_some_iff.1 hparts
  cases hparts
  cases kind with
  | v2 => exact hv2
  | v3 => exact hv3
  | universal => exact huniversal
  | unknown => cases chain <;> rfl

/-- The routers of a family are the elements of the array that is written there. -/
theorem lists_iff_of_family? {family : Option Toml.Value} {c : ChainRouters} {kind : RouterKind}
    {a : Address} (h : family? family = some (c.routers kind)) :
    c.Lists kind a ↔ ∃ items item entry, family = some (.array items) ∧ item ∈ items ∧
      entry? item = some entry ∧ entry.address = a := by
  unfold family? at h
  unfold ChainRouters.Lists
  split at h
  · rw [← Option.some.inj h]
    simp
  · rename_i items
    simp only [mem_iff_of_mapM h]
    constructor
    · rintro ⟨entry, ⟨item, hitem, hentry⟩, ha⟩
      exact ⟨items, item, entry, rfl, hitem, hentry, ha⟩
    · rintro ⟨_, item, entry, heq, hitem, hentry, ha⟩
      cases heq
      exact ⟨entry, ⟨item, hitem, hentry⟩, ha⟩
  · cases h

variable {text name : String} {kind : RouterKind} {a : Address}
  {chains order : List (String × ChainRouters)}

theorem namedChain?_eq_some_iff {e : String × Toml.Value} {n : String} {c : ChainRouters} :
    namedChain? e = some (n, c) ↔ e.1 = n ∧ chainRouters? e.2 = some c := by
  obtain ⟨n', v⟩ := e
  unfold namedChain?
  simp only [Option.map_eq_some_iff, Prod.mk.injEq]
  constructor
  · rintro ⟨c', hc, rfl, rfl⟩
    exact ⟨rfl, hc⟩
  · rintro ⟨rfl, hc⟩
    exact ⟨c, hc, rfl, rfl⟩

/-- Nothing is lost between a text and the chains that are read from it. -/
theorem listed_iff (h : written? text = some chains) :
    Listed text name kind a ↔ ∃ c, (name, c) ∈ chains ∧ c.Lists kind a := by
  obtain ⟨values, hvalues, hchains⟩ := Option.bind_eq_some_iff.1 h
  constructor
  · rintro ⟨values', chain, items, item, entry, hvalues', hmem, hfamily⟩
    obtain rfl := Option.some.inj (hvalues.symm.trans hvalues')
    obtain ⟨⟨n, c⟩, hc, hnamed⟩ : ∃ c ∈ chains, some c = namedChain? (name, chain) :=
      List.mem_map.1 (map_of_mapM hchains ▸ List.mem_map_of_mem hmem)
    obtain ⟨rfl, hrouters⟩ := namedChain?_eq_some_iff.1 hnamed.symm
    exact ⟨c, hc, (lists_iff_of_family? (family?_familyIn? hrouters kind)).2
      ⟨items, item, entry, hfamily⟩⟩
  · rintro ⟨c, hc, hlists⟩
    obtain ⟨⟨n, chain⟩, hmem, hnamed⟩ := (mem_iff_of_mapM hchains).1 hc
    obtain ⟨rfl, hrouters⟩ := namedChain?_eq_some_iff.1 hnamed
    obtain ⟨items, item, entry, hfamily⟩ :=
      (lists_iff_of_family? (family?_familyIn? hrouters kind)).1 hlists
    exact ⟨values, chain, items, item, entry, hvalues, hmem, hfamily⟩

theorem names_of_mapM {values : List (String × Toml.Value)}
    (h : values.mapM namedChain? = some chains) :
    chains.map Prod.fst = values.map Prod.fst := by
  replace h := map_of_mapM h
  induction values generalizing chains with
  | nil =>
    cases chains with
    | nil => rfl
    | cons c chains => cases h
  | cons e values ih =>
    cases chains with
    | nil => cases h
    | cons c chains =>
      obtain ⟨hhead, htail⟩ := List.cons.inj h
      rw [List.map_cons, List.map_cons, ih htail, (namedChain?_eq_some_iff.1 hhead).1]

/-- No name is written twice: the names are the keys of one table. -/
theorem nodup_names (h : written? text = some chains) : (chains.map Prod.fst).Nodup := by
  obtain ⟨values, hvalues, hchains⟩ := Option.bind_eq_some_iff.1 h
  obtain ⟨fields, hread, hvalues⟩ := Option.bind_eq_some_iff.1 hvalues
  have hfields := Toml.distinct_of_read? hread
  rw [names_of_mapM hchains]
  cases hlookup : fields.lookup "chains" with
  | none =>
    rw [hlookup] at hvalues
    cases hvalues
    exact List.nodup_nil
  | some v =>
    rw [hlookup] at hvalues
    cases v with
    | table _ =>
      cases hvalues
      exact (hfields.lookup hlookup).keys
    | _ => cases hvalues

theorem eq_of_same_name (h : written? text = some chains) {c c' : ChainRouters}
    (hc : (name, c) ∈ chains) (hc' : (name, c') ∈ chains) : c = c' :=
  congrArg Prod.snd (List.inj_on_of_nodup_map (nodup_names h) hc hc' rfl)

/-! ## Loading -/

/-- The table has all that a text lists under a name. Under every spelling of the name, an address
is found in its family, or in one that is asked before it. -/
def Keeps (t : RouterTable) (text name : String) : Prop :=
  ∀ kind a, Listed text name kind a →
    ∀ spelling, Text.lowercase spelling = Text.lowercase name →
      t.classify spelling a ≠ .unknown ∧ (t.classify spelling a).rank ≤ kind.rank

/-- A chain answers for all that share its lowercase form, so each of those has to list what the
name lists. -/
theorem keeps_of_covered (h : written? text = some chains) (hperm : order.Perm chains)
    (hcovered : ∀ other c, (other, c) ∈ chains → Text.lowercase other = Text.lowercase name →
      ∀ kind a, Listed text name kind a → ∃ kind', kind'.rank ≤ kind.rank ∧ c.Lists kind' a) :
    Keeps (ofChains order) text name := by
  intro kind a hlisted spelling hspelling
  obtain ⟨c, hc, hlists⟩ := (listed_iff h).1 hlisted
  have hkind := hlists.ne_unknown
  obtain ⟨kept, hkept⟩ := exists_chain?_ofChains (hperm.mem_iff.2 hc) hspelling
  obtain ⟨other, hother, hlower⟩ := mem_of_chain?_ofChains hkept
  have hrank := (ChainRouters.rank_classify_le_iff hkind).2
    (hcovered other kept (hperm.mem_iff.1 hother) (hlower.trans hspelling) kind a hlisted)
  rw [classify_of_chain? hkept]
  exact ⟨RouterKind.rank_lt_unknown.1
    (Nat.lt_of_le_of_lt hrank (RouterKind.rank_lt_unknown.2 hkind)), hrank⟩

/-- The chain that comes last is the one that answers. -/
theorem covered_of_keeps_last {other : String} {c : ChainRouters}
    (h : Keeps (ofChains (order ++ [(other, c)])) text name)
    (hother : Text.lowercase other = Text.lowercase name) (hlisted : Listed text name kind a)
    (hkind : kind ≠ .unknown) : ∃ kind', kind'.rank ≤ kind.rank ∧ c.Lists kind' a := by
  have hlast : (ofChains (order ++ [(other, c)])).chain? name = some c := by
    rw [chain?_ofChains_append, if_pos hother.symm]
  obtain ⟨-, hrank⟩ := h kind a hlisted name rfl
  rw [classify_of_chain? hlast] at hrank
  exact (ChainRouters.rank_classify_le_iff hkind).1 hrank

/-- A text that is a router table has its chains under names of which none occurs twice, and the
table is made from these chains. In whatever order they are taken, what is listed under a name that
shares its lowercase form with no other is kept. Everything is kept in every order exactly if the
names of one lowercase form list the same addresses, each in its family or in one that is asked
before it. -/
theorem entries_kept_iff {text : String} {table : RouterTable} (h : ofToml? text = some table) :
    ∃ chains, written? text = some chains ∧ table = ofChains chains ∧
      (chains.map Prod.fst).Nodup ∧
      (∀ order, order.Perm chains → ∀ name,
        (∀ other ∈ chains.map Prod.fst, Text.lowercase other = Text.lowercase name →
          other = name) →
        Keeps (ofChains order) text name) ∧
      ((∀ order, order.Perm chains → ∀ name, Keeps (ofChains order) text name) ↔
        ∀ name, ∀ other ∈ chains.map Prod.fst, Text.lowercase other = Text.lowercase name →
          ∀ kind a, Listed text name kind a →
            ∃ kind', kind'.rank ≤ kind.rank ∧ Listed text other kind' a) := by
  rw [ofToml?_eq_map] at h
  obtain ⟨chains, hchains, rfl⟩ := Option.map_eq_some_iff.1 h
  refine ⟨chains, hchains, rfl, nodup_names hchains, fun order hperm name halone => ?_, ?_, ?_⟩
  · refine keeps_of_covered hchains hperm fun other c hc hlower kind a hlisted => ?_
    obtain rfl := halone other (List.mem_map_of_mem hc) hlower
    obtain ⟨c', hc', hlists⟩ := (listed_iff hchains).1 hlisted
    exact ⟨kind, Nat.le_refl _, eq_of_same_name hchains hc' hc ▸ hlists⟩
  · intro hkeeps name other hother hlower kind a hlisted
    obtain ⟨⟨_, c⟩, hc, rfl⟩ := List.mem_map.1 hother
    obtain ⟨_, -, hlists⟩ := (listed_iff hchains).1 hlisted
    -- the order in which the other chain comes last makes it answer for the name
    have hlast : (chains.erase (_, c) ++ [(_, c)]).Perm chains :=
      (List.perm_append_singleton _ _).trans (List.perm_cons_erase hc).symm
    obtain ⟨kind', hrank, hlists'⟩ :=
      covered_of_keeps_last (hkeeps _ hlast name) hlower hlisted hlists.ne_unknown
    exact ⟨kind', hrank, (listed_iff hchains).2 ⟨c, hc, hlists'⟩⟩
  · intro hcovered order hperm name
    refine keeps_of_covered hchains hperm fun other c hc hlower kind a hlisted => ?_
    obtain ⟨kind', hrank, hother⟩ :=
      hcovered name other (List.mem_map_of_mem hc) hlower kind a hlisted
    obtain ⟨c', hc', hlists⟩ := (listed_iff hchains).1 hother
    exact ⟨kind', hrank, eq_of_same_name hchains hc' hc ▸ hlists⟩

/-- A chain with a name in mixed case keeps its router under every spelling. -/
theorem entry_of_base_kept :
    let text := "[[chains.Base.v3]]\nname = 'SwapRouter02'\n" ++
      "address = '0x2626664c2603336e57b271c5c0b26f421741e481'\n"
    let router : Address := ⟨0x2626664c2603336e57b271c5c0b26f421741e481⟩
    ∃ table, ofToml? text = some table ∧
      ∀ spelling, Text.lowercase spelling = "base" →
        table.classify spelling router ≠ .unknown ∧
          (table.classify spelling router).rank ≤ RouterKind.v3.rank := by
  intro text router
  have hchains : written? text = some [("Base", ⟨[], [⟨router, "SwapRouter02"⟩], []⟩)] := by
    decide +kernel
  have htable : ofToml? text =
      some (ofChains [("Base", ⟨[], [⟨router, "SwapRouter02"⟩], []⟩)]) := by
    rw [ofToml?_eq_map, hchains, Option.map_some]
  obtain ⟨chains, hchains', -, -, hkeeps, -⟩ := entries_kept_iff htable
  obtain rfl := Option.some.inj (hchains.symm.trans hchains')
  have hlisted : Listed text "Base" .v3 router :=
    (listed_iff hchains).2 ⟨_, List.mem_singleton_self _, by decide⟩
  have halone : ∀ other ∈ ["Base"], Text.lowercase other = Text.lowercase "Base" →
      other = "Base" :=
    fun other hother _ => List.mem_singleton.1 hother
  refine ⟨_, htable, fun spelling hspelling => ?_⟩
  exact hkeeps _ (List.Perm.refl _) "Base" halone .v3 router hlisted spelling
    (hspelling.trans (by decide +kernel))

/-- Two chains whose names differ in the case of one letter, each with a router of its own.
Whichever is taken last, the router of the other is unknown. -/
theorem entry_lost_in_every_order :
    let text := "[[chains.Test.v2]]\nname = 'A'\n" ++
      "address = '0x1111111111111111111111111111111111111111'\n" ++
      "[[chains.test.v2]]\nname = 'B'\n" ++
      "address = '0x2222222222222222222222222222222222222222'\n"
    ∃ chains, written? text = some chains ∧ ofToml? text = some (ofChains chains) ∧
      ∀ order, order.Perm chains → ∃ name a, Listed text name .v2 a ∧
        (ofChains order).classify name a = .unknown := by
  intro text
  let a : RouterEntry := ⟨⟨0x1111111111111111111111111111111111111111⟩, "A"⟩
  let b : RouterEntry := ⟨⟨0x2222222222222222222222222222222222222222⟩, "B"⟩
  have hchains : written? text =
      some [("Test", ⟨[a], [], []⟩), ("test", ⟨[b], [], []⟩)] := by
    decide +kernel
  refine ⟨_, hchains, by rw [ofToml?_eq_map, hchains, Option.map_some], fun order hperm => ?_⟩
  have hA : Listed text "Test" .v2 a.address := (listed_iff hchains).2 ⟨⟨[a], [], []⟩, by decide⟩
  have hB : Listed text "test" .v2 b.address := (listed_iff hchains).2 ⟨⟨[b], [], []⟩, by decide⟩
  have horder : order = [("Test", ⟨[a], [], []⟩), ("test", ⟨[b], [], []⟩)] ∨
      order = [("test", ⟨[b], [], []⟩), ("Test", ⟨[a], [], []⟩)] := by
    simpa [List.permutations] using List.mem_permutations.2 hperm
  obtain rfl | rfl := horder
  · exact ⟨"Test", a.address, hA, by decide +kernel⟩
  · exact ⟨"test", b.address, hB, by decide +kernel⟩

end DexTrade.RouterTable
