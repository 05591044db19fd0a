import DexTrade.Abi.Decode
import DexTrade.Event.Basic
import DexTrade.Journal
/-!
# Events in receipt logs

The first topic of a log says which event it is; the other topics hold the indexed arguments, the
data holds the rest. A log with an unknown first topic, with a number of topics that is not the
event's or with too little data is passed over; what stands behind the data is not looked at.
-/
namespace DexTrade.Event

/-- A log has at most this many topics. -/
def topicLimit : Nat := 4

/-- Gives each declared argument its word. -/
def assign (declared : List (String × ArgumentType)) (words : List Word) :
    List (String × EventValue) :=
  List.zipWith (fun (name, type) w => (name, type.ofWord w)) declared words

/-- The words that data starts with, if it holds as many. -/
def dataWords? (data : Bytes) (count : Nat) : Option (List Word) :=
  (Abi.elementsAt (Abi.wordAt data) 0 count).toOption

/-- The event of a known kind in the topics after the first and in the data. -/
def ofParts? (kind : EventKind) (log : LogEntry) (topics : List Word) : Option Event :=
  if topics.length = kind.indexed.length then
    (dataWords? log.data kind.inData.length).map fun words =>
      { kind, address := log.address, logIndex := log.logIndex
        arguments := assign kind.indexed topics ++ assign kind.inData words }
  else
    none

def ofLog? (log : LogEntry) : Option Event :=
  match log.topics with
  | [] => none
  | first :: others => (EventKind.ofTopic? first).bind fun kind => ofParts? kind log others

/-- The events among the logs, in log order. -/
def ofLogs (logs : List LogEntry) : List Event :=
  logs.filterMap ofLog?

/-- What reading one log leaves in the journal: a note on an unknown first topic. A log with more
topics than any log has is passed over in silence. -/
def entry? (log : LogEntry) : Option Entry :=
  match log.topics with
  | [] => none
  | first :: _ =>
    if log.topics.length ≤ topicLimit ∧ EventKind.ofTopic? first = none then
      some (.trace ("Skipping log with unknown topic " ++ first.hex ++ " from " ++
        log.address.checksummed))
    else
      none

/-- What reading the logs leaves in the journal. -/
def entries (logs : List LogEntry) : List Entry :=
  logs.filterMap entry?

end DexTrade.Event
