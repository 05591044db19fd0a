import DexTrade.Event.OfLog
import Mathlib.Data.List.Basic
/-!
# Which logs are events

A log is an event of the kind that its first topic names, and of no other (`ofLog?_of_topic`,
`ofLog?_of_unknown`). Of its other topics and its data only the sizes decide whether it is read at all
(`ofParts?_isSome_iff`). The logs of a receipt are read one by one (`ofLogs_eq_flatMap`).
-/
namespace DexTrade

namespace EventKind

theorem ofTopic?_topic (kind : EventKind) : ofTopic? kind.topic = some kind := by
  cases kind <;> decide

/-- No two kinds have the same first topic. -/
theorem ofTopic?_eq_some_iff {first : Word} {kind : EventKind} :
    ofTopic? first = some kind ↔ first = kind.topic := by
  constructor
  · intro h
    have hfound := List.find?_some h
    exact (eq_of_beq hfound).symm
  · rintro rfl
    exact ofTopic?_topic kind

/-- How many topics a log of the kind has, the first one included. -/
def topicCount : EventKind → Nat
  | .v3Swap | .v2Swap | .transfer => 3
  | .deposit | .withdrawal => 2
  | .v2Sync => 1

/-- How many bytes of data a log of the kind has at least. -/
def dataLength : EventKind → Nat
  | .v3Swap => 160
  | .v2Swap => 128
  | .v2Sync => 64
  | .transfer | .deposit | .withdrawal => 32

theorem topicCount_eq (kind : EventKind) : kind.topicCount = kind.indexed.length + 1 := by
  cases kind <;> rfl

theorem dataLength_eq (kind : EventKind) : kind.dataLength = 32 * kind.inData.length := by
  cases kind <;> rfl

end EventKind

namespace Abi

theorem exists_wordAt_iff {frame : Bytes} {pos : Nat} :
    (∃ w, wordAt frame pos = .ok w) ↔ pos + 32 ≤ frame.length := by
  unfold wordAt
  constructor
  · rintro ⟨w, h⟩
    cases hslice : frame.slice? pos 32 with
    | none => simp [hslice] at h
    | some b => exact (Bytes.slice?_eq_some_iff.1 hslice).1
  · intro h
    have hslice : frame.slice? pos 32 = some ((frame.drop pos).take 32) :=
      Bytes.slice?_eq_some_iff.2 ⟨h, rfl⟩
    rw [hslice]
    exact ⟨_, rfl⟩

/-- Neighbouring words can be read if the last of them ends inside the frame. -/
theorem exists_wordsAt_iff {frame : Bytes} {pos : Nat} (hpos : pos ≤ frame.length) (count : Nat) :
    (∃ words, elementsAt (wordAt frame) pos count = .ok words) ↔ pos + 32 * count ≤ frame.length := by
  induction count generalizing pos with
  | zero => exact ⟨fun _ => hpos, fun _ => ⟨[], rfl⟩⟩
  | succ count ih =>
    rw [elementsAt]
    by_cases hfirst : pos + 32 ≤ frame.length
    · obtain ⟨w, hw⟩ := exists_wordAt_iff.2 hfirst
      have hrest := ih hfirst
      rw [show pos + 32 * (count + 1) = pos + 32 + 32 * count by omega, ← hrest, hw]
      constructor
      · rintro ⟨words, h⟩
        cases hwords : elementsAt (wordAt frame) (pos + 32) count with
        | error e => simp [hwords, bind, Except.bind] at h
        | ok others => exact ⟨others, rfl⟩
      · rintro ⟨others, hwords⟩
        rw [hwords]
        exact ⟨w :: others, rfl⟩
    · have hnone : ¬∃ w, wordAt frame pos = .ok w := mt exists_wordAt_iff.1 hfirst
      cases hw : wordAt frame pos with
      | ok w => exact absurd ⟨w, hw⟩ hnone
      | error e =>
        refine ⟨fun ⟨words, h⟩ => ?_, fun h => ?_⟩
        · exact nomatch h
        · omega

theorem length_of_elementsAt {α : Type} {element : Nat → Except Error α} {pos count : Nat}
    {xs : List α} (h : elementsAt element pos count = .ok xs) : xs.length = count := by
  induction count generalizing pos xs with
  | zero =>
    cases h
    rfl
  | succ count ih =>
    rw [elementsAt] at h
    cases hx : element pos with
    | error e =>
      rw [hx] at h
      cases h
    | ok x =>
      cases hrest : elementsAt element (pos + 32) count with
      | error e =>
        rw [hx, hrest] at h
        cases h
      | ok rest =>
        rw [hx, hrest] at h
        cases h
        rw [List.length_cons, ih hrest]

end Abi

namespace Event

variable {log : LogEntry} {kind : EventKind} {topics : List Word} {event : Event}

theorem dataWords?_isSome_iff {data : Bytes} {count : Nat} :
    (dataWords? data count).isSome = true ↔ 32 * count ≤ data.length := by
  have hwords := Abi.exists_wordsAt_iff (Nat.zero_le data.length) count
  rw [Nat.zero_add] at hwords
  rw [← hwords, dataWords?]
  cases Abi.elementsAt (Abi.wordAt data) 0 count with
  | ok words => exact ⟨fun _ => ⟨words, rfl⟩, fun _ => rfl⟩
  | error e => exact ⟨nofun, nofun⟩

theorem kind_of_ofParts? (h : ofParts? kind log topics = some event) : event.kind = kind := by
  unfold ofParts? at h
  split at h
  · obtain ⟨words, -, rfl⟩ := Option.map_eq_some_iff.1 h
    rfl
  · exact nomatch h

theorem address_of_ofLog? (h : ofLog? log = some event) : event.address = log.address := by
  unfold ofLog? at h
  split at h
  · cases h
  · obtain ⟨kind, -, h⟩ := Option.bind_eq_some_iff.1 h
    unfold ofParts? at h
    split at h
    · obtain ⟨words, -, rfl⟩ := Option.map_eq_some_iff.1 h
      rfl
    · cases h

/-- An event has the arguments that its kind declares, each with the value of its word. -/
theorem arguments_of_ofLog? (h : ofLog? log = some event) :
    ∃ topics words, topics.length = event.kind.indexed.length ∧
      words.length = event.kind.inData.length ∧
      event.arguments = assign event.kind.indexed topics ++ assign event.kind.inData words := by
  unfold ofLog? at h
  split at h
  · cases h
  · rename_i first topics _
    obtain ⟨kind, -, h⟩ := Option.bind_eq_some_iff.1 h
    obtain rfl := kind_of_ofParts? h
    unfold ofParts? at h
    split at h
    · rename_i htopics
      obtain ⟨words, hwords, hevent⟩ := Option.map_eq_some_iff.1 h
      have hread : Abi.elementsAt (Abi.wordAt log.data) 0 event.kind.inData.length = .ok words := by
        unfold dataWords? at hwords
        cases hread : Abi.elementsAt (Abi.wordAt log.data) 0 event.kind.inData.length with
        | ok found =>
          rw [hread] at hwords
          cases hwords
          rfl
        | error e =>
          rw [hread] at hwords
          cases hwords
      exact ⟨topics, words, htopics, Abi.length_of_elementsAt hread,
        (congrArg Event.arguments hevent).symm⟩
    · cases h

theorem signed?_of_argument {name : String} {bits : Nat} {w : Word}
    (h : event.argument? name = some ((ArgumentType.signed bits).ofWord w)) :
    event.signed? name = some ((w.setWidth bits).signExtend 256) := by
  rw [signed?, h]
  rfl

/-- Whether a log of a known kind is read is decided by two sizes. -/
theorem ofParts?_isSome_iff :
    (ofParts? kind log topics).isSome = true ↔
      topics.length + 1 = kind.topicCount ∧ kind.dataLength ≤ log.data.length := by
  rw [kind.topicCount_eq, kind.dataLength_eq, ← dataWords?_isSome_iff, Nat.add_right_cancel_iff,
    ofParts?]
  split
  · rename_i hcount
    simp only [Option.isSome_map, hcount, true_and]
  · rename_i hcount
    simp only [hcount, false_and, Option.isSome_none, Bool.false_eq_true]

theorem ofLog?_of_topic (h : log.topics = kind.topic :: topics) :
    ofLog? log = ofParts? kind log topics := by
  rw [ofLog?, h]
  exact congrArg (Option.bind · _) kind.ofTopic?_topic

/-- A log that begins like no event is no event. -/
theorem ofLog?_of_unknown (h : ∀ kind : EventKind, log.topics.head? ≠ some kind.topic) :
    ofLog? log = none := by
  unfold ofLog?
  split
  · rfl
  · rename_i first topics htopics
    have hunknown : EventKind.ofTopic? first = none := by
      refine Option.eq_none_iff_forall_ne_some.2 fun kind hkind => h kind ?_
      rw [htopics, List.head?_cons, EventKind.ofTopic?_eq_some_iff.1 hkind]
    rw [hunknown, Option.bind_none]

/-- The events of a receipt are those of its logs, one log after the other. -/
theorem ofLogs_eq_flatMap (logs : List LogEntry) :
    ofLogs logs = logs.flatMap fun log => (ofLog? log).toList :=
  List.filterMap_eq_flatMap_toList ofLog? logs

/-- A log that is passed over changes nothing for the others. -/
theorem ofLogs_insert (before after : List LogEntry) (h : ofLog? log = none) :
    ofLogs (before ++ log :: after) = ofLogs (before ++ after) := by
  unfold ofLogs
  rw [List.filterMap_append, List.filterMap_append, List.filterMap_cons_none h]

end Event

end DexTrade
