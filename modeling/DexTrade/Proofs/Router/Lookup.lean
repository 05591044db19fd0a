import DexTrade.Proofs.Router.Table
import Mathlib.Data.List.Forall2
/-!
# What a look-up finds

A look-up finds the first entry with the address, in the first family that lists it, on the chain that is
kept under the lowercase form of the name (`find?_eq_some_iff`). Only what stands ahead of that entry could
change the answer, so entries behind it or in later families, entries of other addresses and chains of
other names may be added at will (`first_listed_router_found`).
-/
namespace DexTrade

/-! ## Lists with more in them -/

/-- The second list is the first one with further elements in front, between and behind, all of them
new. -/
inductive Adds {α : Type} (new : α → Prop) : List α → List α → Prop
  | nil : Adds new [] []
  | keep {x : α} {xs ys : List α} : Adds new xs ys → Adds new (x :: xs) (x :: ys)
  | add {y : α} {xs ys : List α} : new y → Adds new xs ys → Adds new xs (y :: ys)

namespace Adds

theorem find?_eq {α : Type} {new : α → Prop} {p : α → Bool} {xs ys : List α} (h : Adds new xs ys)
    (hnew : ∀ y, new y → ¬p y) : ys.find? p = xs.find? p := by
  induction h with
  | nil => rfl
  | keep _ ih => rw [List.find?_cons, List.find?_cons, ih]
  | add hy _ ih => rw [List.find?_cons_of_neg (hnew _ hy), ih]

theorem lookup_eq {α : Type} {key : String} {xs ys : List (String × α)}
    (h : Adds (fun y => y.1 ≠ key) xs ys) : ys.lookup key = xs.lookup key := by
  induction h with
  | nil => rfl
  | keep _ ih => rw [List.lookup_cons, List.lookup_cons, ih]
  | add hy _ ih => rw [List.lookup_cons, beq_false_of_ne (Ne.symm hy), ih]

end Adds

/-! ## One chain -/

/-- What is asked of all earlier families is asked of those that stand ahead. -/
theorem RouterKind.forall_earlier_iff {P : RouterKind → Prop} (kind : RouterKind) :
    (∀ earlier : RouterKind, earlier.rank < kind.rank → P earlier) ↔
      match kind with
      | .v2 => True
      | .v3 => P .v2
      | .universal => P .v2 ∧ P .v3
      | .unknown => P .v2 ∧ P .v3 ∧ P .universal := by
  have hall {Q : RouterKind → Prop} :
      (∀ k, Q k) ↔ Q .v2 ∧ Q .v3 ∧ Q .universal ∧ Q .unknown :=
    ⟨fun h => ⟨h _, h _, h _, h _⟩, fun h k => by cases k <;> simp [h]⟩
  rw [hall]
  cases kind <;> simp [rank]

namespace ChainRouters

variable {c c' : ChainRouters} {a : Address} {kind : RouterKind} {entry : RouterEntry}

/-- The entry is the first one of its family with the address, and no earlier family lists it. -/
structure Answers (c : ChainRouters) (a : Address) (kind : RouterKind) (entry : RouterEntry) :
    Prop where
  address : entry.address = a
  firstEntry : ∃ before after, c.routers kind = before ++ entry :: after ∧
    ∀ other ∈ before, other.address ≠ a
  firstFamily : ∀ earlier : RouterKind, earlier.rank < kind.rank → ¬c.Lists earlier a

/-- Whatever else has changed, ahead of the entry there is nothing new but entries of other addresses:
neither in its family nor in those that are asked before. -/
structure KeepsAhead (a : Address) (kind : RouterKind) (entry : RouterEntry)
    (c c' : ChainRouters) : Prop where
  sameFamily : ∃ before after before' after', c.routers kind = before ++ entry :: after ∧
    c'.routers kind = before' ++ entry :: after' ∧
    Adds (fun other => other.address ≠ a) before before'
  earlierFamilies : ∀ earlier : RouterKind, earlier.rank < kind.rank →
    Adds (fun other => other.address ≠ a) (c.routers earlier) (c'.routers earlier)

/-- Nothing is new in any family but entries of other addresses. -/
def AddsOthers (a : Address) (c c' : ChainRouters) : Prop :=
  ∀ kind, Adds (fun other => other.address ≠ a) (c.routers kind) (c'.routers kind)

/-- The first entry of a family with the address. -/
def first? (c : ChainRouters) (kind : RouterKind) (a : Address) : Option RouterEntry :=
  (c.routers kind).find? fun entry => entry.address == a

theorem first?_eq_some_iff :
    c.first? kind a = some entry ↔ entry.address = a ∧
      ∃ before after, c.routers kind = before ++ entry :: after ∧
        ∀ other ∈ before, other.address ≠ a := by
  rw [first?, List.find?_eq_some_iff_append]
  simp

theorem first?_eq_none_iff : c.first? kind a = none ↔ ¬c.Lists kind a :=
  find?_eq_none_iff_not_lists c kind a

/-- The families are asked one after the other. -/
theorem find?_eq_or (c : ChainRouters) (a : Address) :
    c.find? a = ((c.first? .v2 a).map (RouterKind.v2, ·)).or
      (((c.first? .v3 a).map (RouterKind.v3, ·)).or
        ((c.first? .universal a).map (RouterKind.universal, ·))) := by
  unfold find? families first? routers
  simp only [List.findSome?_cons, List.findSome?_nil]
  cases c.v2.find? fun entry => entry.address == a <;>
    cases c.v3.find? fun entry => entry.address == a <;>
      cases c.universal.find? fun entry => entry.address == a <;> rfl

theorem find?_eq_some_iff_first? :
    c.find? a = some (kind, entry) ↔
      c.first? kind a = some entry ∧
        ∀ earlier : RouterKind, earlier.rank < kind.rank → c.first? earlier a = none := by
  have hunknown : c.first? .unknown a = none := rfl
  rw [find?_eq_or, RouterKind.forall_earlier_iff]
  cases hv2 : c.first? .v2 a with
  | some _ => cases kind <;> simp [hv2, hunknown]
  | none =>
    cases hv3 : c.first? .v3 a with
    | some _ => cases kind <;> simp [hv2, hv3, hunknown]
    | none => cases kind <;> simp [hv2, hv3, hunknown]

theorem find?_eq_some_iff : c.find? a = some (kind, entry) ↔ c.Answers a kind entry := by
  rw [find?_eq_some_iff_first?, first?_eq_some_iff]
  simp only [first?_eq_none_iff]
  exact ⟨fun h => ⟨h.1.1, h.1.2, h.2⟩, fun h => ⟨⟨h.address, h.firstEntry⟩, h.firstFamily⟩⟩

/-- Something is found if some family lists the address. -/
theorem exists_find?_iff : (∃ found, c.find? a = some found) ↔ ∃ kind, c.Lists kind a := by
  constructor
  · rintro ⟨⟨kind, entry⟩, hfound⟩
    exact ⟨kind, lists_of_find? c kind (find?_eq_some_iff_first?.1 hfound).1⟩
  · rintro ⟨kind, hlists⟩
    by_contra hnone
    have hunknown : c.classify a = .unknown := by
      rw [classify, Option.eq_none_iff_forall_ne_some.2 fun found h => hnone ⟨found, h⟩]
      rfl
    have hrank := rank_classify_le hlists
    rw [hunknown] at hrank
    exact Nat.not_lt.2 hrank (RouterKind.rank_lt_unknown.2 hlists.ne_unknown)

/-! ## Chains with more routers -/

theorem first?_of_adds (h : Adds (fun other => other.address ≠ a) (c.routers kind) (c'.routers kind)) :
    c'.first? kind a = c.first? kind a :=
  h.find?_eq fun _ hother heq => hother (eq_of_beq heq)

theorem find?_of_addsOthers (h : c.AddsOthers a c') : c'.find? a = c.find? a := by
  rw [find?_eq_or, find?_eq_or, first?_of_adds (h .v2), first?_of_adds (h .v3),
    first?_of_adds (h .universal)]

/-- An entry that is found stays so if nothing else with its address comes ahead of it. -/
theorem find?_of_keepsAhead (hfound : c.find? a = some (kind, entry))
    (h : c.KeepsAhead a kind entry c') : c'.find? a = some (kind, entry) := by
  obtain ⟨hfirst, hearlier⟩ := find?_eq_some_iff_first?.1 hfound
  obtain ⟨before, after, before', after', hold, hnew, hadds⟩ := h.sameFamily
  have haddress : entry.address = a := (first?_eq_some_iff.1 hfirst).1
  -- Whatever is behind the entry, only what is in front of it can be found instead.
  have hsplit (front behind : List RouterEntry) :
      (front ++ entry :: behind).find? (fun other => other.address == a) =
        (front.find? fun other => other.address == a).or (some entry) := by
    rw [List.find?_append, List.find?_cons_of_pos (by simp [haddress])]
  have hsame : c'.first? kind a = c.first? kind a := by
    rw [first?, first?, hold, hnew, hsplit, hsplit,
      hadds.find?_eq fun _ hother heq => hother (eq_of_beq heq)]
  refine find?_eq_some_iff_first?.2 ⟨hsame.trans hfirst, fun earlier hrank => ?_⟩
  rw [first?_of_adds (h.earlierFamilies earlier hrank), hearlier earlier hrank]

end ChainRouters

/-! ## Tables -/

namespace RouterTable

variable {t u : RouterTable} {chain : String} {a : Address} {kind : RouterKind}
  {entry : RouterEntry} {grown : ChainRouters → ChainRouters → Prop}

/-- The second table has the chains of the first, the one under this name with routers that have grown
and the others with any, and further chains under other names. -/
def Grows (chain : String) (grown : ChainRouters → ChainRouters → Prop) (t u : RouterTable) : Prop :=
  ∃ kept, List.Forall₂ (fun old new => new.1 = old.1 ∧
      (old.1 = Text.lowercase chain → grown old.2 new.2)) t.chains kept ∧
    Adds (fun added => added.1 ≠ Text.lowercase chain) kept u.chains

/-- A chain is known if its lowercase form is a name of the table. -/
theorem exists_chain?_iff :
    (∃ c, t.chain? chain = some c) ↔ Text.lowercase chain ∈ t.chains.map Prod.fst := by
  unfold chain?
  generalize t.chains = chains
  induction chains with
  | nil => simp
  | cons entry rest ih =>
    rw [List.lookup_cons, List.map_cons, List.mem_cons, ← ih]
    by_cases hname : Text.lowercase chain = entry.1
    · simp [hname]
    · simp [beq_false_of_ne hname, hname]

theorem chain?_of_grows (h : t.Grows chain grown u) :
    t.chain? chain = none ∧ u.chain? chain = none ∨
      ∃ c c', t.chain? chain = some c ∧ u.chain? chain = some c' ∧ grown c c' := by
  obtain ⟨kept, hkept, hadds⟩ := h
  unfold chain?
  rw [hadds.lookup_eq]
  clear hadds
  generalize t.chains = chains at hkept ⊢
  -- Both tables are walked side by side: the first chain with the name is the same one in both.
  induction hkept with
  | nil => exact .inl ⟨rfl, rfl⟩
  | cons hsame _ ih =>
    obtain ⟨hname, hgrown⟩ := hsame
    rw [List.lookup_cons, List.lookup_cons, hname]
    split
    · rename_i heq
      exact .inr ⟨_, _, rfl, rfl, hgrown (eq_of_beq heq).symm⟩
    · exact ih

theorem find?_of_keepsAhead (hfound : t.find? chain a = some (kind, entry))
    (h : t.Grows chain (ChainRouters.KeepsAhead a kind entry) u) :
    u.find? chain a = some (kind, entry) := by
  rw [find?] at hfound ⊢
  rcases chain?_of_grows h with ⟨hnone, -⟩ | ⟨c, c', hc, hc', hkeeps⟩
  · rw [hnone] at hfound
    cases hfound
  · rw [hc] at hfound
    rw [hc']
    exact ChainRouters.find?_of_keepsAhead hfound hkeeps

theorem find?_of_addsOthers (h : t.Grows chain (ChainRouters.AddsOthers a) u) :
    u.find? chain a = t.find? chain a := by
  rw [find?, find?]
  rcases chain?_of_grows h with ⟨hnone, hnone'⟩ | ⟨c, c', hc, hc', hadds⟩
  · rw [hnone, hnone']
  · rw [hc, hc']
    exact ChainRouters.find?_of_addsOthers hadds

/-- Of chains that are put in one after the other, those under other names make no difference to what a
name has. -/
theorem lookup_foldl_put_of_adds {key : String} {xs ys s s' : List (String × ChainRouters)}
    (h : Adds (fun added => Text.lowercase added.1 ≠ key) xs ys) (hs : s'.lookup key = s.lookup key) :
    (ys.foldl (fun table (name, routers) => put (Text.lowercase name) routers table) s').lookup key =
      (xs.foldl (fun table (name, routers) => put (Text.lowercase name) routers table) s).lookup
        key := by
  induction h generalizing s s' with
  | nil => exact hs
  | keep _ ih => exact ih (by rw [lookup_put, lookup_put, hs])
  | add hname _ ih => exact ih (by rw [lookup_put, if_neg (Ne.symm hname), hs])

/-- Chains that are written under names of other lowercase forms change nothing, wherever they stand. -/
theorem chain?_ofChains_of_adds {chains others : List (String × ChainRouters)}
    (h : Adds (fun added => Text.lowercase added.1 ≠ Text.lowercase chain) chains others) :
    (ofChains others).chain? chain = (ofChains chains).chain? chain :=
  lookup_foldl_put_of_adds h rfl

/-- Every look-up finds what the table lists first. It finds something exactly if the chain is known, in
whatever case its name is given, and one of its families lists the address; what it finds is the first
family that does and the first entry there, and no family is unknown. Where the answer is an entry, the
answer stays whatever is added behind it or in later families; and every answer stays if entries of other
addresses or chains with names of other lowercase forms are added, wherever they come to stand. -/
theorem first_listed_router_found (t : RouterTable) (chain : String) (a : Address) :
    (∀ kind entry, t.find? chain a = some (kind, entry) ↔
      ∃ c, t.chain? chain = some c ∧ c.Answers a kind entry) ∧
    ((∃ found, t.find? chain a = some found) ↔
      ∃ c kind, t.chain? chain = some c ∧ c.Lists kind a) ∧
    ((∃ c, t.chain? chain = some c) ↔ Text.lowercase chain ∈ t.chains.map Prod.fst) ∧
    (∀ kind entry, t.find? chain a = some (kind, entry) → t.classify chain a = kind) ∧
    (t.find? chain a = none → t.classify chain a = .unknown) ∧
    (∀ u kind entry, t.find? chain a = some (kind, entry) →
      t.Grows chain (ChainRouters.KeepsAhead a kind entry) u →
      u.find? chain a = some (kind, entry)) ∧
    (∀ u, t.Grows chain (ChainRouters.AddsOthers a) u → u.find? chain a = t.find? chain a) ∧
    ∀ chains others, t = ofChains chains →
      Adds (fun added => Text.lowercase added.1 ≠ Text.lowercase chain) chains others →
      (ofChains others).find? chain a = t.find? chain a := by
  refine ⟨fun kind entry => ?_, ?_, exists_chain?_iff, fun kind entry h => ?_, fun h => ?_,
    fun u kind entry => find?_of_keepsAhead, fun u => find?_of_addsOthers, ?_⟩
  · rw [find?, Option.bind_eq_some_iff]
    simp only [ChainRouters.find?_eq_some_iff]
  · constructor
    · rintro ⟨found, hfound⟩
      obtain ⟨c, hc, hfound⟩ := Option.bind_eq_some_iff.1 hfound
      obtain ⟨kind, hlists⟩ := ChainRouters.exists_find?_iff.1 ⟨found, hfound⟩
      exact ⟨c, kind, hc, hlists⟩
    · rintro ⟨c, kind, hc, hlists⟩
      rw [find?, hc]
      exact ChainRouters.exists_find?_iff.2 ⟨kind, hlists⟩
  · rw [classify, h]
  · rw [classify, h]
  · rintro chains others rfl hadds
    rw [find?, find?, chain?_ofChains_of_adds hadds]

/-- An address that all families of a chain list. The first of them answers, also after one more entry
with the address behind its own, one of another address ahead of it, a change in a later family and a
chain of another name. -/
theorem address_in_all_families :
    let a : Address := ⟨0x1111111111111111111111111111111111111111⟩
    let entry : RouterEntry := ⟨a, "v2"⟩
    let routers : ChainRouters := ⟨[entry], [⟨a, "v3"⟩], [⟨a, "ur"⟩]⟩
    let more : ChainRouters :=
      ⟨[⟨⟨0x2222⟩, "other"⟩, entry, ⟨a, "again"⟩], [⟨a, "new"⟩, ⟨a, "v3"⟩], [⟨a, "ur"⟩]⟩
    let t := ofChains [("Testnet", routers)]
    let u : RouterTable := ⟨[("mainnet", routers), ("testnet", more)]⟩
    t.find? "TESTNET" a = some (.v2, entry) ∧ t.classify "TESTNET" a = .v2 ∧
      u.find? "TESTNET" a = some (.v2, entry) := by
  intro a entry routers more t u
  have hgiven : Text.lowercase "Testnet" = "testnet" := by decide +kernel
  have hasked : Text.lowercase "TESTNET" = "testnet" := by decide +kernel
  have ht : t.chains = [("testnet", routers)] := by
    simp only [t, ofChains, List.foldl_cons, List.foldl_nil, put, hgiven]
  have hchain : t.chain? "TESTNET" = some routers := by
    rw [chain?, ht, hasked]
    rfl
  have hanswers : routers.Answers a .v2 entry :=
    ⟨rfl, ⟨[], [], rfl, by simp⟩, fun earlier hrank => absurd hrank (Nat.not_lt_zero _)⟩
  have hkeeps : routers.KeepsAhead a .v2 entry more :=
    ⟨⟨[], [], [⟨⟨0x2222⟩, "other"⟩], [⟨a, "again"⟩], rfl, rfl, .add (by decide) .nil⟩,
      fun earlier hrank => absurd hrank (Nat.not_lt_zero _)⟩
  have hgrows : t.Grows "TESTNET" (ChainRouters.KeepsAhead a .v2 entry) u := by
    refine ⟨[("testnet", more)], ?_, .add ?_ (.keep .nil)⟩
    · rw [ht]
      exact .cons ⟨rfl, fun _ => hkeeps⟩ .nil
    · rw [hasked]
      decide
  obtain ⟨hfinds, -, -, hclassify, -, hbehind, -⟩ := first_listed_router_found t "TESTNET" a
  have hfound := (hfinds .v2 entry).2 ⟨routers, hchain, hanswers⟩
  exact ⟨hfound, hclassify .v2 entry hfound, hbehind u .v2 entry hfound hgrows⟩

end RouterTable

end DexTrade
