import Verdict.Record
import Verdict.Text.Basic
/-! The journal of results: one line of JSON per entry, with the path of the test and its record. A
line is written whole to a sink and then flushed; after a failure or a panic the next line is tried
as usual. -/
namespace Verdict

/-! ### Sinks

A sink takes octets in calls, may take fewer than it is given, and may react to a call in other
ways; writing goes on until all octets are taken or a call fails. -/

/-- How a sink reacts to a call for writing. -/
inductive Reaction where
  /-- At most so many octets are taken, and no error is reported. -/
  | take (limit : Nat)
  /-- The call is interrupted and may be made again. -/
  | interrupt
  | fail (cause : String)
  | panic
  deriving DecidableEq

/-- How writing ended. -/
inductive Written where
  | ok
  | failed (cause : String)
  | panicked
  deriving DecidableEq

/-- A sink with what it has taken and how it will react. As many calls as one likes can be planned,
each with a reaction of its own. -/
structure Sink where
  /-- The most octets that a call takes for which nothing else is planned; without it such a call
  takes all. -/
  chunk : Option Nat := none
  /-- The reactions that are planned for calls for writing, by the numbers of the calls. -/
  onWrite : List (Nat × Reaction) := []
  /-- How calls for flushing end, by their numbers, if not well. -/
  onFlush : List (Nat × Written) := []
  writes : Nat := 0
  flushes : Nat := 0
  taken : List UInt8 := []
  /-- Whether someone has panicked with the sink locked. -/
  poisoned : Bool := false
  deriving DecidableEq

namespace Sink

/-- The reaction to the next call for writing, which is given so many octets. -/
def reaction (sink : Sink) (size : Nat) : Reaction :=
  (sink.onWrite.lookup sink.writes).getD (.take (sink.chunk.getD size))

/-- What a call that takes nothing means for the one who writes. -/
def wholeBufferCause : String := "failed to write whole buffer"

/-- The planned reactions that are still ahead. -/
def reactionsAhead (sink : Sink) : Nat := (sink.onWrite.filter (sink.writes ≤ ·.1)).length

private theorem reactionsAhead_lt {onWrite : List (Nat × Reaction)} {writes : Nat}
    {reaction : Reaction} (found : onWrite.lookup writes = some reaction) :
    (onWrite.filter (writes + 1 ≤ ·.1)).length < (onWrite.filter (writes ≤ ·.1)).length := by
  induction onWrite with
  | nil => simp at found
  | cons entry rest ih =>
    obtain ⟨number, other⟩ := entry
    have monotone : (rest.filter (writes + 1 ≤ ·.1)).length ≤
        (rest.filter (writes ≤ ·.1)).length := by
      clear ih found
      induction rest with
      | nil => simp
      | cons entry rest ih => grind
    grind

private theorem reactionsAhead_le (onWrite : List (Nat × Reaction)) (writes : Nat) :
    (onWrite.filter (writes + 1 ≤ ·.1)).length ≤ (onWrite.filter (writes ≤ ·.1)).length := by
  induction onWrite with
  | nil => simp
  | cons entry rest ih => grind

private theorem planned_of_interrupt {sink : Sink} {size : Nat}
    (interrupted : sink.reaction size = .interrupt) :
    sink.onWrite.lookup sink.writes = some .interrupt := by
  unfold reaction at interrupted
  cases found : sink.onWrite.lookup sink.writes with
  | none =>
    rw [found] at interrupted
    cases interrupted
  | some planned =>
    rw [found] at interrupted
    exact congrArg some interrupted

/-- Writes octets in as many calls as it takes. An interrupted call is made again. -/
def writeAll (sink : Sink) (octets : List UInt8) : Sink × Written :=
  if octets.isEmpty then (sink, .ok)
  else
    let next := { sink with writes := sink.writes + 1 }
    match _reacts : sink.reaction octets.length with
    | .interrupt => writeAll next octets
    | .fail cause => (next, .failed cause)
    | .panic => (next, .panicked)
    | .take limit =>
      let size := min limit octets.length
      if size = 0 then (next, .failed wholeBufferCause)
      else
        writeAll { next with taken := sink.taken ++ octets.take size } (octets.drop size)
termination_by octets.length + sink.reactionsAhead
decreasing_by
  · have := reactionsAhead_lt (planned_of_interrupt _reacts)
    simp only [reactionsAhead]
    omega
  · have := reactionsAhead_le sink.onWrite sink.writes
    have : 0 < octets.length := by
      cases octets with
      | nil => simp_all
      | cons => simp
    simp only [reactionsAhead, List.length_drop]
    omega

/-- Flushes what was written. -/
def flush (sink : Sink) : Sink × Written :=
  ({ sink with flushes := sink.flushes + 1 }, (sink.onFlush.lookup sink.flushes).getD .ok)

/-- Writes octets and flushes them. -/
def writeLine (sink : Sink) (octets : List UInt8) : Sink × Written :=
  match sink.writeAll octets with
  | (sink, .ok) => sink.flush
  | (sink, stopped) => (sink, stopped)

/-- Locks the sink. A poisoned lock is handed over as well, but as an error. -/
def lock (sink : Sink) : Except Sink Sink :=
  if sink.poisoned then .error sink else .ok sink

/-- The sink once it is locked. A poisoned lock is no obstacle. -/
def locked (sink : Sink) : Sink :=
  match sink.lock with
  | .ok held => held
  | .error poisoned => poisoned

theorem locked_eq (sink : Sink) : sink.locked = sink := by
  unfold locked lock
  cases sink.poisoned <;> rfl

end Sink

/-! ### Entries -/

/-- An entry of the journal. -/
structure Entry where
  path : String
  record : Record
  deriving DecidableEq

namespace Entry

def toJson (entry : Entry) : Json :=
  .obj [("path", .str entry.path), ("result", entry.record.toJson)]

/-- The characters of an entry's line, without its end. -/
def chars (entry : Entry) : List Char := entry.toJson.chars

/-- The octets of an entry's line. -/
def octets (entry : Entry) : List UInt8 := Utf8.encode (entry.chars ++ ['\n'])

end Entry

/-- Writes one entry to a sink and keeps it locked meanwhile, so that a panic poisons the lock. -/
def Sink.writeEntry (sink : Sink) (entry : Entry) : Sink × Written :=
  match sink.locked.writeLine entry.octets with
  | (sink, .panicked) => ({ sink with poisoned := true }, .panicked)
  | ended => ended

/-- The entries of a record: one per subtest if there are several, with its name after the path,
otherwise one for the whole record. -/
def Record.entries (record : Record) (path : String) : List Entry :=
  if record.splits then
    record.subtestRecords.map fun (name, record) => ⟨path ++ "/" ++ name, record⟩
  else [⟨path, record⟩]

end Verdict
