import Mathlib.Data.List.Basic

/-!
# Event streams

How the lines of a stream of server-sent events are interpreted: fields fill two buffers, of
the data and of the type of an event, and an empty line dispatches the event and empties them.
An event without data is not dispatched; its type is lost all the same. Here an event that the
end of the stream leaves open is dispatched too.
-/

namespace EventStream

/-- An event that is dispatched. -/
structure Event where
  data : String
  type : String

/-- The buffers. Each line of the data ends with a line feed. -/
structure Buffers where
  data : String := ""
  type : String := ""

/-- A value without a space before it. -/
def dropSpace : List Char → List Char
  | ' ' :: value => value
  | value => value

/-- The name and the value of the field in a line. That of a comment has no name. -/
def field (line : String) : String × String :=
  (String.ofList (line.toList.takeWhile (· ≠ ':')),
    String.ofList (dropSpace (line.toList.dropWhile (· ≠ ':')).tail))

namespace Buffers

variable (b : Buffers)

/-- The buffers after a line that is not empty. -/
def process (line : String) : Buffers :=
  let (name, value) := field line
  if name = "event" then { b with type := value }
  else if name = "data" then { b with data := b.data ++ value ++ "\n" }
  else b

/-- The type of an event, `message` if none is set. -/
def eventType : String := if b.type = "" then "message" else b.type

/-- The event in the buffers, without the last line feed of its data. -/
def event : Option Event :=
  if b.data = "" then none
  else some ⟨String.ofList b.data.toList.dropLast, b.eventType⟩

end Buffers

/-- The events of some lines, after what is in the buffers. -/
def events : Buffers → List String → List Event
  | b, [] => b.event.toList
  | b, line :: lines =>
    if line = "" then b.event.toList ++ events {} lines else events (b.process line) lines

namespace Buffers

variable {b : Buffers}

/-- The last line of the data has its line feed. -/
def Closed (b : Buffers) : Prop := b.data = "" ∨ ∃ d, b.data = d ++ "\n"

theorem append_lf_ne_empty (d : String) : d ++ "\n" ≠ "" := by
  intro hempty
  have hlist := congrArg String.toList hempty
  rw [String.toList_append] at hlist
  exact absurd (List.append_eq_nil_iff.1 hlist).2 (by decide)

theorem process_event {line : String} (h : (field line).1 = "event") :
    b.process line = { b with type := (field line).2 } := if_pos h

theorem process_data {line : String} (h : (field line).1 = "data") :
    b.process line = { b with data := b.data ++ (field line).2 ++ "\n" } := by
  change (if (field line).1 = "event" then _ else if (field line).1 = "data" then _ else _) = _
  rw [if_neg (by rw [h]; decide), if_pos h]
  rfl

/-- Other fields do not matter. -/
theorem process_of_ne {line : String} (hevent : (field line).1 ≠ "event")
    (hdata : (field line).1 ≠ "data") : b.process line = b := by
  change (if (field line).1 = "event" then _ else if (field line).1 = "data" then _ else _) = _
  rw [if_neg hevent, if_neg hdata]

theorem closed_empty : Closed {} := .inl rfl

theorem Closed.process (h : b.Closed) (line : String) : (b.process line).Closed := by
  by_cases hevent : (field line).1 = "event"
  · rw [process_event hevent]
    exact h
  · by_cases hdata : (field line).1 = "data"
    · rw [process_data hdata]
      exact .inr ⟨_, rfl⟩
    · rwa [process_of_ne hevent hdata]

theorem event_eq_none (h : b.data = "") : b.event = none := if_pos h

theorem event_eq_some {d : String} (h : b.data = d ++ "\n") :
    b.event = some ⟨d, b.eventType⟩ := by
  have hlast : (d ++ "\n").toList.dropLast = d.toList := by
    rw [String.toList_append]
    exact List.dropLast_concat
  rw [event, if_neg (h ▸ append_lf_ne_empty d), h, hlast, String.ofList_toList]

end Buffers

theorem events_of_ne {b : Buffers} {line : String} {lines : List String} (h : line ≠ "") :
    events b (line :: lines) = events (b.process line) lines := if_neg h

end EventStream
