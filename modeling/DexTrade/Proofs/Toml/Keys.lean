import DexTrade.Toml.Document
/-!
# Keys of tables

Every table of a document has each of its keys once, at whatever depth and whichever way it was
filled (`distinct_of_read?`). All ways add to a table with `Entries.put`, so that is where the keys
are looked at; the lines of a document then keep what one change keeps.
-/
namespace DexTrade.Toml

/-- Each table in a value has each of its keys once. -/
inductive Value.Distinct : Value → Prop
  | string (s : String) : Distinct (.string s)
  | integer (n : Int) : Distinct (.integer n)
  | float (written : String) : Distinct (.float written)
  | boolean (b : Bool) : Distinct (.boolean b)
  | moment (written : String) : Distinct (.moment written)
  | array {items : List Value} (items_distinct : ∀ v ∈ items, Distinct v) : Distinct (.array items)
  | table {entries : List (String × Value)} (keys : (entries.map Prod.fst).Nodup)
      (values : ∀ e ∈ entries, Distinct e.2) : Distinct (.table entries)

namespace Value.Distinct

variable {entries : List (String × Value)}

protected theorem keys (h : (Value.table entries).Distinct) : (entries.map Prod.fst).Nodup := by
  cases h with
  | table keys _ => exact keys

theorem lookup {key : String} {v : Value} (h : (Value.table entries).Distinct)
    (hlookup : entries.lookup key = some v) : v.Distinct := by
  obtain ⟨before, after, rfl, -⟩ := List.lookup_eq_some_iff.1 hlookup
  cases h with
  | table _ values => exact values (key, v) (by simp)

end Value.Distinct

/-- Each table in a node has each of its keys once. -/
inductive Node.Distinct : Node → Prop
  | value {v : Value} (h : v.Distinct) : Distinct (.value v)
  | table {origin : Origin} {entries : List (String × Node)} (keys : (entries.map Prod.fst).Nodup)
      (nodes : ∀ e ∈ entries, Distinct e.2) : Distinct (.table origin entries)
  | tables {items : List (List (String × Node))}
      (keys : ∀ entries ∈ items, (entries.map Prod.fst).Nodup)
      (nodes : ∀ entries ∈ items, ∀ e ∈ entries, Distinct e.2) : Distinct (.tables items)

/-! ## Tables in the making -/

namespace Entries

/-- Each key once, here and in the tables below. -/
structure Distinct (entries : Entries) : Prop where
  keys : (entries.map Prod.fst).Nodup
  nodes : ∀ e ∈ entries, e.2.Distinct

theorem distinct_nil : Distinct [] :=
  ⟨List.nodup_nil, nofun⟩

theorem distinct_table_iff {origin : Origin} {entries : Entries} :
    (Node.table origin entries).Distinct ↔ entries.Distinct := by
  constructor
  · rintro (_ | ⟨keys, nodes⟩)
    exact ⟨keys, nodes⟩
  · rintro ⟨keys, nodes⟩
    exact .table keys nodes

theorem distinct_tables_iff {items : List Entries} :
    (Node.tables items).Distinct ↔ ∀ entries ∈ items, entries.Distinct := by
  constructor
  · rintro (_ | _ | ⟨keys, nodes⟩)
    exact fun entries hmem => ⟨keys entries hmem, nodes entries hmem⟩
  · exact fun h => .tables (fun entries hmem => (h entries hmem).keys)
      fun entries hmem => (h entries hmem).nodes

theorem keys_put (key : String) (node : Node) (entries : Entries) :
    (entries.put key node).map Prod.fst =
      if key ∈ entries.map Prod.fst then entries.map Prod.fst
      else entries.map Prod.fst ++ [key] := by
  induction entries with
  | nil => rfl
  | cons e rest ih =>
    obtain ⟨k, n⟩ := e
    by_cases hkey : k = key
    · simp [put, hkey]
    · simp only [put, if_neg hkey, List.map_cons, ih, List.mem_cons, Ne.symm hkey, false_or]
      split <;> rfl

theorem mem_put {key : String} {node : Node} {entries : Entries} {e : String × Node}
    (h : e ∈ entries.put key node) : e = (key, node) ∨ e ∈ entries := by
  induction entries with
  | nil => exact .inl (List.mem_singleton.1 h)
  | cons head rest ih =>
    obtain ⟨k, n⟩ := head
    by_cases hkey : k = key
    · rw [put, if_pos hkey, hkey] at h
      exact (List.mem_cons.1 h).imp_right (List.mem_cons_of_mem _)
    · rw [put, if_neg hkey] at h
      obtain rfl | hrest := List.mem_cons.1 h
      · exact .inr List.mem_cons_self
      · exact (ih hrest).imp_right (List.mem_cons_of_mem _)

namespace Distinct

variable {entries result : Entries} {key : String}

theorem put {node : Node} (h : entries.Distinct) (hnode : node.Distinct) :
    (entries.put key node).Distinct := by
  refine ⟨?_, fun e he => ?_⟩
  · rw [keys_put]
    split
    · exact h.keys
    · rename_i hnew
      exact List.nodup_append.2 ⟨h.keys, List.pairwise_singleton _ key, fun k hk k' hk' heq =>
        hnew (List.mem_singleton.1 hk' ▸ heq ▸ hk)⟩
  · obtain rfl | hmem := mem_put he
    · exact hnode
    · exact h.nodes e hmem

theorem lookup {node : Node} (h : entries.Distinct) (hlookup : entries.lookup key = some node) :
    node.Distinct := by
  obtain ⟨before, after, rfl, -⟩ := List.lookup_eq_some_iff.1 hlookup
  exact h.nodes (key, node) (by simp)

/-- What a change keeps, it keeps at the end of any path. -/
theorem descend {made : Origin} {change : Origin → Entries → Option Entries}
    (hchange : ∀ origin entries result, entries.Distinct → change origin entries = some result →
      result.Distinct)
    {origin : Origin} {path : List String} (h : entries.Distinct)
    (hresult : Entries.descend made change origin entries path = some result) :
    result.Distinct := by
  induction path generalizing origin entries result with
  | nil => exact hchange origin entries result h hresult
  | cons key path ih =>
    unfold Entries.descend at hresult
    cases hlookup : entries.lookup key with
    | none =>
      rw [hlookup] at hresult
      obtain ⟨child, hchild, hput⟩ := Option.bind_eq_some_iff.1 hresult
      cases hput
      exact h.put (distinct_table_iff.2 (ih distinct_nil hchild))
    | some node =>
      have hnode := h.lookup hlookup
      rw [hlookup] at hresult
      cases node with
      | value v => cases hresult
      | table origin child =>
        simp only at hresult
        split at hresult
        · cases hresult
        · obtain ⟨child', hchild, hput⟩ := Option.bind_eq_some_iff.1 hresult
          cases hput
          exact h.put (distinct_table_iff.2 (ih (distinct_table_iff.1 hnode) hchild))
      | tables items =>
        simp only at hresult
        split at hresult
        · cases hresult
        · rename_i last hlast
          obtain ⟨last', hchild, hput⟩ := Option.bind_eq_some_iff.1 hresult
          cases hput
          have hitems := distinct_tables_iff.1 hnode
          have hlast' := ih (hitems last (List.mem_of_getLast? hlast)) hchild
          refine h.put (distinct_tables_iff.2 fun entries hmem => ?_)
          obtain hmem | hmem := List.mem_append.1 hmem
          · exact hitems entries (List.dropLast_subset items hmem)
          · exact List.mem_singleton.1 hmem ▸ hlast'

theorem insert {path : List String} {v : Value} (h : entries.Distinct) (hv : v.Distinct)
    (hresult : entries.insert path key v = some result) : result.Distinct := by
  refine h.descend (fun origin table result htable hchange => ?_) hresult
  split at hchange
  · cases hchange
    exact htable.put (.value hv)
  · cases hchange

theorem openTable {path : List String} (h : entries.Distinct)
    (hresult : entries.openTable path key = some result) : result.Distinct := by
  refine h.descend (fun origin parent result hparent hchange => ?_) hresult
  split at hchange
  · cases hchange
    exact hparent.put (distinct_table_iff.2 distinct_nil)
  · rename_i child hlookup
    cases hchange
    exact hparent.put (distinct_table_iff.2 (distinct_table_iff.1 (hparent.lookup hlookup)))
  · cases hchange

theorem appendTable {path : List String} (h : entries.Distinct)
    (hresult : entries.appendTable path key = some result) : result.Distinct := by
  refine h.descend (fun origin parent result hparent hchange => ?_) hresult
  split at hchange
  · cases hchange
    refine hparent.put (distinct_tables_iff.2 fun entries hmem => ?_)
    exact List.mem_singleton.1 hmem ▸ distinct_nil
  · rename_i items hlookup
    cases hchange
    refine hparent.put (distinct_tables_iff.2 fun entries hmem => ?_)
    obtain hmem | hmem := List.mem_append.1 hmem
    · exact distinct_tables_iff.1 (hparent.lookup hlookup) entries hmem
    · exact List.mem_singleton.1 hmem ▸ distinct_nil
  · cases hchange

theorem insertBelow {header path : List String} {v : Value} (h : entries.Distinct)
    (hv : v.Distinct) (hresult : entries.insertBelow header path key v = some result) :
    result.Distinct :=
  h.descend (fun _ _ _ htable hchange => htable.insert hv hchange) hresult

end Distinct

end Entries

/-! ## Finished tables -/

theorem finishEntries_eq_map (entries : List (String × Node)) :
    finishEntries entries = entries.map fun e => (e.1, e.2.finish) := by
  induction entries with
  | nil => rfl
  | cons e rest ih => rw [finishEntries, ih, List.map_cons]

theorem finishTables_eq_map (items : List (List (String × Node))) :
    finishTables items = items.map fun entries => .table (finishEntries entries) := by
  induction items with
  | nil => rfl
  | cons entries rest ih => rw [finishTables, ih, List.map_cons]

theorem Value.distinct_finishEntries {entries : List (String × Node)}
    (keys : (entries.map Prod.fst).Nodup) (nodes : ∀ e ∈ entries, e.2.finish.Distinct) :
    (Value.table (finishEntries entries)).Distinct := by
  rw [finishEntries_eq_map]
  refine .table ?_ fun e he => ?_
  · rwa [List.map_map]
  · obtain ⟨e', hmem, rfl⟩ := List.mem_map.1 he
    exact nodes e' hmem

theorem Node.Distinct.finish {node : Node} (h : node.Distinct) : node.finish.Distinct := by
  induction h with
  | value h => exact h
  | table keys _ ih => exact Value.distinct_finishEntries keys ih
  | tables keys _ ih =>
    rw [Node.finish, finishTables_eq_map]
    refine .array fun v hv => ?_
    obtain ⟨entries, hmem, rfl⟩ := List.mem_map.1 hv
    exact Value.distinct_finishEntries (keys entries hmem) (ih entries hmem)

theorem Entries.Distinct.finish {entries : Entries} (h : entries.Distinct) :
    (Value.table (finishEntries entries)).Distinct :=
  Value.distinct_finishEntries h.keys fun e he => (h.nodes e he).finish

/-! ## Scanning -/

/-- Whatever is scanned has a property. -/
def Yields {α : Type} (P : α → Prop) (scan : Scan α) : Prop :=
  ∀ cs a rest, scan cs = some (a, rest) → P a

theorem distinct_bare? {cs : List Char} {v : Value} (h : bare? cs = some v) : v.Distinct := by
  unfold bare? at h
  split at h
  · cases h
    exact .boolean true
  · split at h
    · cases h
      exact .boolean false
    · split at h
      · cases h
        exact .moment _
      · split at h
        · cases h
          exact .float _
        · obtain ⟨n, -, rfl⟩ := Option.map_eq_some_iff.1 h
          exact .integer n

theorem yields_bare : Yields Value.Distinct bare := by
  intro cs v rest h
  have hrun {run rest' : List Char} (h : (bare? run).map (·, rest') = some (v, rest)) :
      v.Distinct := by
    obtain ⟨v', hv, heq⟩ := Option.map_eq_some_iff.1 h
    cases heq
    exact distinct_bare? hv
  unfold bare at h
  simp only at h
  split at h
  · split at h
    · cases h
      exact .moment _
    · exact hrun h
  · exact hrun h

theorem yields_scalar : Yields Value.Distinct scalar := by
  intro cs v rest h
  unfold scalar at h
  split at h
  · obtain ⟨⟨s, _⟩, -, heq⟩ := Option.map_eq_some_iff.1 h
    cases heq
    exact .string s
  · obtain ⟨⟨s, _⟩, -, heq⟩ := Option.map_eq_some_iff.1 h
    cases heq
    exact .string s
  · exact yields_bare cs v rest h

variable {value : Scan Value}

theorem yields_arrayItems (hvalue : Yields Value.Distinct value) (turns : Nat) :
    Yields (fun items => ∀ v ∈ items, v.Distinct) (arrayItems value turns) := by
  induction turns with
  | zero => exact fun cs items rest h => nomatch h
  | succ turns ih =>
    intro cs items rest h
    unfold arrayItems at h
    split at h
    · cases h
      exact nofun
    · split at h
      · cases h
      · rename_i item afterItem hitem
        have hdistinct := hvalue _ item afterItem hitem
        split at h
        · cases h
          exact fun v hv => List.mem_singleton.1 hv ▸ hdistinct
        · obtain ⟨⟨more, _⟩, hmore, heq⟩ := Option.map_eq_some_iff.1 h
          cases heq
          exact List.forall_mem_cons.2 ⟨hdistinct, ih _ more _ hmore⟩
        · cases h

theorem yields_pair (hvalue : Yields Value.Distinct value) :
    Yields (fun found => found.2.Distinct) (pair value) := by
  intro cs found rest h
  unfold pair at h
  split at h
  · obtain ⟨⟨v, _⟩, hv, heq⟩ := Option.map_eq_some_iff.1 h
    cases heq
    exact hvalue _ v _ hv
  · cases h

theorem yields_inlinePairs (hvalue : Yields Value.Distinct value) (turns : Nat)
    {entries : Entries} (hentries : entries.Distinct) :
    Yields Entries.Distinct (inlinePairs value turns entries) := by
  induction turns generalizing entries with
  | zero => exact fun cs result rest h => nomatch h
  | succ turns ih =>
    intro cs result rest h
    unfold inlinePairs at h
    split at h
    · cases h
    · rename_i k v afterPair hpair
      obtain ⟨added, hadded, h⟩ := Option.bind_eq_some_iff.1 h
      have hdistinct := hentries.insert (yields_pair hvalue _ (k, v) afterPair hpair) hadded
      split at h
      · cases h
        exact hdistinct
      · exact ih hdistinct _ result rest h
      · cases h

theorem yields_inlineTable (hvalue : Yields Value.Distinct value) :
    Yields Value.Distinct (inlineTable value) := by
  intro cs v rest h
  unfold inlineTable at h
  split at h
  · cases h
    exact .table List.nodup_nil nofun
  · obtain ⟨⟨entries, _⟩, hentries, heq⟩ := Option.map_eq_some_iff.1 h
    cases heq
    exact (yields_inlinePairs hvalue _ Entries.distinct_nil _ entries _ hentries).finish

theorem yields_value (depth : Nat) : Yields Value.Distinct (Toml.value depth) := by
  induction depth with
  | zero => exact yields_scalar
  | succ depth ih =>
    intro cs v rest h
    unfold Toml.value at h
    split at h
    · rename_i heq
      cases heq
    · rename_i heq
      cases heq
      obtain ⟨⟨items, _⟩, hitems, heq⟩ := Option.map_eq_some_iff.1 h
      cases heq
      exact .array (yields_arrayItems ih _ _ items _ hitems)
    · rename_i heq
      cases heq
      exact yields_inlineTable ih _ v rest h
    · exact yields_scalar _ v rest h

/-! ## Lines -/

theorem distinct_line {p p' : Progress} {cs rest : List Char} (h : p.entries.Distinct)
    (hline : line p cs = some (p', rest)) : p'.entries.Distinct := by
  unfold line at hline
  split at hline
  · split at hline
    · obtain ⟨entries, hentries, heq⟩ := Option.map_eq_some_iff.1 hline
      cases heq
      exact h.appendTable hentries
    · cases hline
  · split at hline
    · obtain ⟨entries, hentries, heq⟩ := Option.map_eq_some_iff.1 hline
      cases heq
      exact h.openTable hentries
    · cases hline
  · split at hline
    · rename_i k v _ hpair
      obtain ⟨entries, hentries, heq⟩ := Option.map_eq_some_iff.1 hline
      cases heq
      have hv := yields_pair (yields_value depthLimit) _ (k, v) _ hpair
      exact h.insertBelow hv hentries
    · cases hline

theorem distinct_lines {turns : Nat} {p p' : Progress} {cs : List Char} (h : p.entries.Distinct)
    (hlines : lines turns p cs = some p') : p'.entries.Distinct := by
  induction turns generalizing p cs with
  | zero =>
    unfold lines at hlines
    split at hlines
    · cases hlines
      exact h
    · cases hlines
  | succ turns ih =>
    unfold lines at hlines
    simp only at hlines
    split at hlines
    · cases hlines
      exact h
    · split at hlines
      · obtain ⟨rest, -, hrest⟩ := Option.bind_eq_some_iff.1 hlines
        exact ih h hrest
      · obtain ⟨⟨next, afterward⟩, hline, hlines⟩ := Option.bind_eq_some_iff.1 hlines
        obtain ⟨rest, -, hrest⟩ := Option.bind_eq_some_iff.1 hlines
        exact ih (distinct_line h hline) hrest

/-- A document is a table in which, as in every table below it, no key occurs twice. -/
theorem distinct_of_read? {text : String} {fields : List (String × Value)}
    (h : read? text = some fields) : (Value.table fields).Distinct := by
  obtain ⟨p, hlines, rfl⟩ := Option.map_eq_some_iff.1 h
  exact (distinct_lines Entries.distinct_nil hlines).finish

end DexTrade.Toml
