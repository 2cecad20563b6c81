import ConnectionPool.Json.Record
import ConnectionPool.Options

/-!
# Conformance tests

A test gives the options of a pool, the operations to run against it and what is to come of
them: the error that they end with, if any, and the events that the pool emits.

Operations run on the main sequence. A command may name a thread instead, which was started
before, and then runs there. A test is read from JSON.
-/

namespace ConnectionPool.Conformance

/-- What the main sequence or a thread asks of the pool. A connection that was checked out is
known by its label. -/
inductive Command where
  | checkOut (label : Option String)
  | checkIn (connection : String) (force : Bool)
  | clear
  | close
  deriving DecidableEq, Repr

/-- One operation of a test. -/
inductive Operation where
  | start (target : String)
  | wait (milliseconds : Nat)
  | waitForThread (target : String) (suppressError : Bool)
  | waitForEvent (event : String) (count : Nat)
  | command (thread : Option String) (command : Command)
  deriving DecidableEq, Repr

/-- The error that a test is to end with: its type, and a part of its message. -/
structure ExpectedError where
  typeName : String
  message : Option String := none
  deriving DecidableEq, Repr

/-- A conformance test. `events` are patterns for the events of the types that are not in
`ignore`. -/
structure Test where
  version : UInt32
  style : String
  description : String
  options : Options := {}
  operations : List Operation
  error : Option ExpectedError := none
  events : List Json := []
  ignore : List String := []

namespace ExpectedError

/-- Read an expected error. -/
def ofJson? (value : Json) : Option ExpectedError := do
  let fields ← Json.fieldValues? ["type", "message"] value
  some {
    typeName := ← Json.required? Json.string? fields "type"
    message := ← Json.nullable? Json.string? fields "message" }

end ExpectedError

namespace Operation

/-- The names of an operation's fields in their order; `none` if there is no operation of the
name. -/
def fieldNames? : String → Option (List String)
  | "start" => some ["target"]
  | "wait" => some ["ms"]
  | "waitForThread" => some ["target", "suppressError"]
  | "waitForEvent" => some ["event", "count"]
  | "checkOut" | "acquire" => some ["thread", "label"]
  | "checkIn" | "release" => some ["thread", "connection", "force"]
  | "clear" | "close" => some ["thread"]
  | _ => none

/-- The operation of the name with these fields. -/
def ofFields? (name : String) (fields : List (String × Json)) : Option Operation :=
  match name with
  | "start" => do some (.start (← Json.required? Json.string? fields "target"))
  | "wait" => do some (.wait (← Json.required? (Json.natBelow? UInt64.size) fields "ms"))
  | "waitForThread" => do
      some (.waitForThread (← Json.required? Json.string? fields "target")
        (← Json.defaulted? Json.bool? false fields "suppressError"))
  | "waitForEvent" => do
      some (.waitForEvent (← Json.required? Json.string? fields "event")
        (← Json.required? (Json.natBelow? UInt64.size) fields "count"))
  | "checkOut" | "acquire" => do
      some (.command (← thread?) (.checkOut (← Json.nullable? Json.string? fields "label")))
  | "checkIn" | "release" => do
      some (.command (← thread?) (.checkIn (← Json.required? Json.string? fields "connection")
        (← Json.defaulted? Json.bool? false fields "force")))
  | "clear" => do some (.command (← thread?) .clear)
  | "close" => do some (.command (← thread?) .close)
  | _ => none
where
  /-- The thread that the operation names. -/
  thread? : Option (Option String) :=
    Json.nullable? Json.string? fields "thread"

/-- Read an operation: an object that has the name under `name`, or an array that starts with
it. -/
def ofJson? : Json → Option Operation
  | .object members => do
      let name ← Json.required? Json.string? members "name"
      ofFields? name members
  | .array (.string name :: items) => do
      let names ← fieldNames? name
      ofFields? name (← Json.fieldValues? names (.array items))
  | _ => none

end Operation

namespace Test

/-- The names of a test's fields in their order. -/
def fieldNames : List String :=
  ["version", "style", "description", "poolOptions", "operations", "error", "events", "ignore"]

/-- Read a test. -/
def ofJson? (value : Json) : Option Test := do
  let fields ← Json.fieldValues? fieldNames value
  some {
    version := UInt32.ofNat (← Json.required? (Json.natBelow? UInt32.size) fields "version")
    style := ← Json.required? Json.string? fields "style"
    description := ← Json.required? Json.string? fields "description"
    options := ← Json.defaulted? Options.ofJson? {} fields "poolOptions"
    operations := ← Json.required? (Json.listOf? Operation.ofJson?) fields "operations"
    error := ← Json.nullable? ExpectedError.ofJson? fields "error"
    events := ← Json.defaulted? (Json.listOf? some) [] fields "events"
    ignore := ← Json.defaulted? (Json.listOf? Json.string?) [] fields "ignore" }

/-- The test is of the one version and style that are understood. -/
def isSupported (test : Test) : Bool :=
  test.version == 1 && test.style == "unit"

end Test

end ConnectionPool.Conformance
