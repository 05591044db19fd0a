import DexTrade.Analysis.Failure
import DexTrade.Proofs.Event.OfLog
/-!
# Lists of logs that hold the same swaps

Of the logs of a transaction an analysis looks at the events of one kind, and of these not at their
places in the block. Logs of other kinds and logs that are no events can stand anywhere among them
(`Padded`), and where only the last event counts, so can anything before it (`SameLast`). How many
events of the kind there are decides whether there is an only one (`onlyEvent_of_two_le`).
-/
namespace DexTrade

/-- The log at another place in the block. -/
def LogEntry.at (log : LogEntry) (index : Option Nat) : LogEntry :=
  { log with logIndex := index }

namespace Event

variable {kind : EventKind} {log : LogEntry} {logs logs' : List LogEntry}

/-- The log is read as an event of the kind. -/
def isOfKind (kind : EventKind) (log : LogEntry) : Bool :=
  (ofLog? log).any fun event => event.kind == kind

/-- The event without its place in the block. -/
def unplaced (e : Event) : Event :=
  { e with logIndex := none }

/-- The event of a kind that a log is, without its place. -/
def unplacedOf? (kind : EventKind) (log : LogEntry) : Option Event :=
  (ofLog? log).bind fun e => if e.kind = kind then some e.unplaced else none

/-- More logs, none of them of the kind, were put somewhere among the logs, and the places of logs in
the block were changed. -/
inductive Padded (kind : EventKind) : List LogEntry → List LogEntry → Prop
  | nil : Padded kind [] []
  | keep {logs padded : List LogEntry} (log : LogEntry) (index : Option Nat)
      (h : Padded kind logs padded) : Padded kind (log :: logs) (log.at index :: padded)
  | insert {logs padded : List LogEntry} {log : LogEntry} (hother : isOfKind kind log = false)
      (h : Padded kind logs padded) : Padded kind logs (log :: padded)

/-- The last log of the kind is the same, but for its place in the block. -/
inductive SameLast (kind : EventKind) : List LogEntry → List LogEntry → Prop
  | intro {last : LogEntry} {after after' : List LogEntry} (before before' : List LogEntry)
      (index : Option Nat) (hlast : isOfKind kind last = true)
      (hafter : ∀ log ∈ after, isOfKind kind log = false)
      (hafter' : ∀ log ∈ after', isOfKind kind log = false) :
      SameLast kind (before ++ last :: after) (before' ++ last.at index :: after')

/-! ## The events of a kind -/

theorem ofLog?_at (log : LogEntry) (index : Option Nat) :
    ofLog? (log.at index) = (ofLog? log).map fun e => { e with logIndex := index } := by
  have hparts (kind : EventKind) (topics : List Word) :
      ofParts? kind (log.at index) topics =
        (ofParts? kind log topics).map fun e => { e with logIndex := index } := by
    unfold ofParts?
    split
    · rw [Option.map_map]
      rfl
    · rfl
  have htopics : (log.at index).topics = log.topics := rfl
  unfold ofLog?
  rw [htopics]
  cases log.topics with
  | nil => rfl
  | cons first others =>
    simp only [hparts]
    cases EventKind.ofTopic? first <;> rfl

theorem unplacedOf?_at (log : LogEntry) (index : Option Nat) :
    unplacedOf? kind (log.at index) = unplacedOf? kind log := by
  unfold unplacedOf?
  rw [ofLog?_at]
  cases ofLog? log <;> rfl

theorem isOfKind_eq_isSome (log : LogEntry) : isOfKind kind log = (unplacedOf? kind log).isSome := by
  unfold isOfKind unplacedOf?
  cases ofLog? log with
  | none => rfl
  | some e => by_cases hkind : e.kind = kind <;> simp [hkind]

theorem unplacedOf?_of_other (h : isOfKind kind log = false) : unplacedOf? kind log = none := by
  rw [isOfKind_eq_isSome] at h
  exact Option.isSome_eq_false_iff.1 h |> Option.isNone_iff_eq_none.1

theorem map_unplaced_filter (kind : EventKind) (logs : List LogEntry) :
    ((ofLogs logs).filter fun e => e.kind == kind).map unplaced =
      logs.filterMap (unplacedOf? kind) := by
  induction logs with
  | nil => rfl
  | cons log rest ih =>
    unfold ofLogs at ih ⊢
    rw [List.filterMap_cons, List.filterMap_cons, unplacedOf?]
    cases ofLog? log with
    | none => exact ih
    | some e => by_cases hkind : e.kind = kind <;> simp [hkind, ih]

/-- The events of a kind are those of the logs that are read as such. -/
theorem filter_ofLogs (kind : EventKind) (logs : List LogEntry) :
    ((ofLogs logs).filter fun e => e.kind == kind) =
      (logs.filter (isOfKind kind)).filterMap ofLog? := by
  induction logs with
  | nil => rfl
  | cons log rest ih =>
    unfold ofLogs at ih ⊢
    rw [List.filterMap_cons, List.filter_cons, isOfKind]
    cases hread : ofLog? log with
    | none => exact ih
    | some e => by_cases hkind : e.kind = kind <;> simp [hkind, hread, ih]

theorem length_filter_kind (kind : EventKind) (logs : List LogEntry) :
    ((ofLogs logs).filter fun e => e.kind == kind).length = logs.countP (isOfKind kind) := by
  have hcount : isOfKind kind = fun log => (unplacedOf? kind log).isSome :=
    funext isOfKind_eq_isSome
  rw [← List.length_map unplaced, map_unplaced_filter, List.length_filterMap_eq_countP, hcount]

theorem Padded.filterMap_eq (h : Padded kind logs logs') :
    logs'.filterMap (unplacedOf? kind) = logs.filterMap (unplacedOf? kind) := by
  induction h with
  | nil => rfl
  | keep log index _ ih => rw [List.filterMap_cons, List.filterMap_cons, unplacedOf?_at, ih]
  | insert hother _ ih => rw [List.filterMap_cons_none (unplacedOf?_of_other hother), ih]

theorem SameLast.getLast?_eq (h : SameLast kind logs logs') :
    (logs'.filterMap (unplacedOf? kind)).getLast? =
      (logs.filterMap (unplacedOf? kind)).getLast? := by
  have hnone {others : List LogEntry} (h : ∀ log ∈ others, isOfKind kind log = false) :
      others.filterMap (unplacedOf? kind) = [] :=
    List.filterMap_eq_nil_iff.2 fun log hlog => unplacedOf?_of_other (h log hlog)
  cases h with
  | @intro last after after' before before' index hlast hafter hafter' =>
    rw [isOfKind_eq_isSome] at hlast
    obtain ⟨e, he⟩ := Option.isSome_iff_exists.1 hlast
    have he' : unplacedOf? kind (last.at index) = some e := (unplacedOf?_at last index).trans he
    rw [List.filterMap_append, List.filterMap_append, List.filterMap_cons_some he,
      List.filterMap_cons_some he', hnone hafter, hnone hafter', List.getLast?_concat,
      List.getLast?_concat]

end Event

/-! ## Selecting an event -/

namespace Analysis

open Event

variable {kind : EventKind} {logs logs' : List LogEntry}

/-- The only event, its place apart, by the events of its kind. -/
theorem onlyEvent_unplaced (logs : List LogEntry) :
    (onlyEvent (ofLogs logs) kind).map unplaced =
      match logs.filterMap (unplacedOf? kind) with
      | [] => .error (.malformedSwapSet .noEvent)
      | [event] => .ok event
      | many => .error (.malformedSwapSet (.events many.length)) := by
  rw [← map_unplaced_filter]
  unfold onlyEvent
  generalize (ofLogs logs).filter (fun e => e.kind == kind) = wanted
  match wanted with
  | [] => rfl
  | [_] => rfl
  | _ :: _ :: rest => simp [Except.map]

/-- The last event, its place apart, by the events of its kind. -/
theorem lastEvent_unplaced (logs : List LogEntry) :
    (lastEvent (ofLogs logs) kind).map unplaced =
      match (logs.filterMap (unplacedOf? kind)).getLast? with
      | some event => .ok event
      | none => .error (.malformedSwapSet .noEvent) := by
  rw [← map_unplaced_filter, List.getLast?_map]
  unfold lastEvent
  cases ((ofLogs logs).filter fun e => e.kind == kind).getLast? <;> rfl

theorem onlyEvent_of_padded (h : Padded kind logs logs') :
    (onlyEvent (ofLogs logs') kind).map unplaced = (onlyEvent (ofLogs logs) kind).map unplaced := by
  rw [onlyEvent_unplaced, onlyEvent_unplaced, h.filterMap_eq]

theorem lastEvent_of_padded (h : Padded kind logs logs') :
    (lastEvent (ofLogs logs') kind).map unplaced = (lastEvent (ofLogs logs) kind).map unplaced := by
  rw [lastEvent_unplaced, lastEvent_unplaced, h.filterMap_eq]

theorem lastEvent_of_sameLast (h : SameLast kind logs logs') :
    (lastEvent (ofLogs logs') kind).map unplaced = (lastEvent (ofLogs logs) kind).map unplaced := by
  rw [lastEvent_unplaced, lastEvent_unplaced, h.getLast?_eq]

/-- Where one log is of the kind, its event is the only one. -/
theorem onlyEvent_of_filter {log : LogEntry} (h : logs.filter (isOfKind kind) = [log]) :
    ∃ event, ofLog? log = some event ∧ event.kind = kind ∧
      onlyEvent (ofLogs logs) kind = .ok event := by
  have hof : isOfKind kind log = true := List.of_mem_filter (h ▸ List.mem_singleton_self log)
  unfold isOfKind at hof
  cases hread : ofLog? log with
  | none =>
    rw [hread] at hof
    exact nomatch hof
  | some event =>
    rw [hread, Option.any_some] at hof
    refine ⟨event, rfl, eq_of_beq hof, ?_⟩
    unfold onlyEvent
    rw [filter_ofLogs, h, List.filterMap_cons_some hread, List.filterMap_nil]

theorem onlyEvent_of_two_le (h : 2 ≤ logs.countP (isOfKind kind)) :
    onlyEvent (ofLogs logs) kind =
      .error (.malformedSwapSet (.events (logs.countP (isOfKind kind)))) := by
  rw [← length_filter_kind] at h ⊢
  unfold onlyEvent
  generalize (ofLogs logs).filter (fun e => e.kind == kind) = wanted at h ⊢
  match wanted, h with
  | _ :: _ :: _, _ => rfl

end Analysis

end DexTrade
