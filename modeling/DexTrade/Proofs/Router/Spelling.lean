import DexTrade.Proofs.Router.Loading
import DexTrade.Proofs.Text.Lowercase
import DexTrade.Settings.Basic
import Mathlib.Data.List.TakeWhile
/-!
# How a chain is spelled

The name of a chain is lowercased when a table is loaded, when a setting is read and when a router is
looked up, so it may be lowercased up to three times. Since a lowercase text stays as it is, only the
lowercase form of a name counts: for look-ups, for the names that a table gives out, and for the chain
of the settings (`spelling_does_not_matter`).
-/
namespace DexTrade

namespace RouterTable

/-! ## The names of a table -/

variable {key name : String} {routers : ChainRouters} {chains : List (String × ChainRouters)}

theorem mem_keys_put (h : key ∈ (put name routers chains).map Prod.fst) :
    key = name ∨ key ∈ chains.map Prod.fst := by
  induction chains with
  | nil => exact .inl (List.mem_singleton.1 h)
  | cons chain rest ih =>
    unfold put at h
    split at h
    · exact .inr h
    · rcases List.mem_cons.1 h with hhead | hrest
      · exact .inr (hhead ▸ List.mem_cons_self)
      · exact (ih hrest).imp_right (List.mem_cons_of_mem _)

/-- A table keeps a chain under the lowercase form of the name that it was given. -/
theorem exists_name_of_mem_keys (h : key ∈ (ofChains chains).chains.map Prod.fst) :
    ∃ chain ∈ chains, key = Text.lowercase chain.1 := by
  induction chains using List.reverseRecOn with
  | nil => exact nomatch h
  | append_singleton before chain ih =>
    simp only [ofChains, List.foldl_append, List.foldl_cons, List.foldl_nil] at h
    rcases mem_keys_put h with hname | hbefore
    · exact ⟨chain, by simp, hname⟩
    · obtain ⟨earlier, hearlier, hname⟩ := ih hbefore
      exact ⟨earlier, List.mem_append_left _ hearlier, hname⟩

/-- Every name that a table gives out is lowercase, and the table knows it. -/
theorem lowercase_of_mem_chainNames (h : name ∈ (ofChains chains).chainNames) :
    Text.lowercase name = name ∧ ∃ kept, (ofChains chains).chain? name = some kept := by
  rw [chainNames, List.mem_mergeSort] at h
  obtain ⟨⟨given, r⟩, hmem, rfl⟩ := exists_name_of_mem_keys h
  have hlower := Text.lowercase_lowercase given
  exact ⟨hlower, exists_chain?_ofChains hmem hlower⟩

/-! ## Only the lowercase form counts -/

/-- Spellings of one lowercase form are one name, and the table gives its names in lowercase. -/
structure IgnoresCase (t : RouterTable) : Prop where
  find? : ∀ spelling spelling', Text.lowercase spelling = Text.lowercase spelling' →
    ∀ a, t.find? spelling a = t.find? spelling' a
  classify : ∀ spelling spelling', Text.lowercase spelling = Text.lowercase spelling' →
    ∀ a, t.classify spelling a = t.classify spelling' a
  chain? : ∀ spelling spelling', Text.lowercase spelling = Text.lowercase spelling' →
    t.chain? spelling = t.chain? spelling'
  chainNames : ∀ name ∈ t.chainNames, Text.lowercase name = name ∧ ∃ r, t.chain? name = some r

theorem chain?_congr (t : RouterTable) {spelling spelling' : String}
    (h : Text.lowercase spelling = Text.lowercase spelling') :
    t.chain? spelling = t.chain? spelling' := by
  rw [chain?, chain?, h]

theorem find?_congr (t : RouterTable) {spelling spelling' : String}
    (h : Text.lowercase spelling = Text.lowercase spelling') (a : Address) :
    t.find? spelling a = t.find? spelling' a := by
  rw [find?, find?, t.chain?_congr h]

theorem classify_congr (t : RouterTable) {spelling spelling' : String}
    (h : Text.lowercase spelling = Text.lowercase spelling') (a : Address) :
    t.classify spelling a = t.classify spelling' a := by
  rw [classify, classify, t.find?_congr h]

theorem ignoresCase_ofChains (chains : List (String × ChainRouters)) :
    IgnoresCase (ofChains chains) where
  find? _ _ h a := find?_congr _ h a
  classify _ _ h a := classify_congr _ h a
  chain? _ _ h := chain?_congr _ h
  chainNames _ := lowercase_of_mem_chainNames

end RouterTable

/-! ## The chain of the settings -/

theorem Text.trimmed_ne_nil {cs : List Char} (h : ∃ c ∈ cs, isBlank c = false) :
    trimmed cs ≠ [] := by
  obtain ⟨c, hc, hblank⟩ := h
  have hstart : trimStart cs ≠ [] := by
    intro hnil
    have hall := List.dropWhile_eq_nil_iff.1 hnil c hc
    rw [hblank] at hall
    exact nomatch hall
  intro hnil
  -- the first character that is left is not blank, so the other end is not trimmed up to it
  have hfirst := List.head_dropWhile_not isBlank hstart
  have hall := List.dropWhile_eq_nil_iff.1 (List.reverse_eq_nil_iff.1 hnil) _
    (List.mem_reverse.2 (List.head_mem hstart))
  exact Bool.false_ne_true (hfirst.symm.trans hall)

/-- Settings that name a chain have it trimmed and in lowercase. -/
theorem Settings.chain_of_ofLookup {lookup : String → Option String} {settings : Settings}
    {given : String} (h : ofLookup lookup = .ok settings) (hgiven : lookup "CHAIN" = some given)
    (hblank : ∃ c ∈ given.toList, Text.isBlank c = false) :
    settings.chain = Text.lowercase (Text.trim given) := by
  have hpresent : present? lookup "CHAIN" = some given := by
    simp [present?, hgiven, Text.trimmed_ne_nil hblank]
  unfold ofLookup at h
  dsimp only at h
  rw [hpresent] at h
  split at h
  · cases h
    rfl
  · split at h
    · cases h
      rfl
    · cases h

namespace RouterTable

/-- However often the name of a chain is lowercased, only the first time counts. A table that a text
makes, in whatever order its chains are taken, answers alike for all spellings of one lowercase form; it
gives out names in lowercase, and knows them. Any table takes the chain of the settings for the text that
was set, without the blanks around it. -/
theorem spelling_does_not_matter {text : String} {table : RouterTable}
    (h : ofToml? text = some table) :
    (∀ s, Text.lowercase (Text.lowercase s) = Text.lowercase s) ∧
    (∃ chains, written? text = some chains ∧ table = ofChains chains ∧
      ∀ order, order.Perm chains → IgnoresCase (ofChains order)) ∧
    ∀ lookup settings given, Settings.ofLookup lookup = .ok settings →
      lookup "CHAIN" = some given → (∃ c ∈ given.toList, Text.isBlank c = false) →
      ∀ (t : RouterTable) (a : Address),
        t.classify settings.chain a = t.classify (Text.trim given) a := by
  rw [ofToml?_eq_map] at h
  obtain ⟨chains, hchains, rfl⟩ := Option.map_eq_some_iff.1 h
  refine ⟨Text.lowercase_lowercase, ⟨chains, hchains, rfl, fun order _ => ?_⟩, ?_⟩
  · exact ignoresCase_ofChains order
  · intro lookup settings given hsettings hgiven hblank t a
    apply t.classify_congr
    rw [Settings.chain_of_ofLookup hsettings hgiven hblank, Text.lowercase_lowercase]

/-- A chain whose name ends in a capital sigma, set with the small one that ends a word. -/
theorem chain_with_final_sigma :
    let text := "[[chains.'ΟΔΟΣ'.v3]]\nname = 'SwapRouter02'\n" ++
      "address = '0x2626664c2603336e57b271c5c0b26f421741e481'\n"
    let router : Address := ⟨0x2626664c2603336e57b271c5c0b26f421741e481⟩
    let lookup : String → Option String :=
      fun name => if name = "CHAIN" then some " Οδος\n" else none
    ∃ table settings, ofToml? text = some table ∧ Settings.ofLookup lookup = .ok settings ∧
      table.classify "οδοΣ" router = .v3 ∧ table.chainNames = ["οδος"] ∧
      table.classify settings.chain router = .v3 := by
  intro text router lookup
  let routers : ChainRouters := ⟨[], [⟨router, "SwapRouter02"⟩], []⟩
  have hchains : written? text = some [("ΟΔΟΣ", routers)] := by decide +kernel
  have htable : ofToml? text = some (ofChains [("ΟΔΟΣ", routers)]) := by
    rw [ofToml?_eq_map, hchains, Option.map_some]
  have hsettings : Settings.ofLookup lookup = .ok ⟨none, "οδος", none, 30⟩ := rfl
  have hgiven : ∃ c ∈ " Οδος\n".toList, Text.isBlank c = false := ⟨'δ', by simp, rfl⟩
  obtain ⟨-, ⟨chains, hwritten, -, horders⟩, hchain⟩ := spelling_does_not_matter htable
  obtain rfl := Option.some.inj (hchains.symm.trans hwritten)
  have hcase := horders _ (List.Perm.refl _)
  have hrouter : (ofChains [("ΟΔΟΣ", routers)]).classify "ΟΔΟΣ" router = .v3 := by decide +kernel
  refine ⟨_, _, htable, hsettings, ?_, ?_, ?_⟩
  · rw [hcase.classify "οδοΣ" "ΟΔΟΣ" (by decide +kernel), hrouter]
  · decide +kernel
  · rw [hchain lookup _ _ hsettings rfl hgiven, ← hrouter]
    exact hcase.classify _ _ (by decide +kernel) router

end RouterTable

end DexTrade
