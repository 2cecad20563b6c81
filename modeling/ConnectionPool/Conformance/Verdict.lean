import ConnectionPool.Conformance.Test
import ConnectionPool.Event
import ConnectionPool.Json.Pattern

/-!
# The verdict on a run

A run ends well or with an error. The verdict compares that end with the error that the test
expects, and then the pool's events with the patterns that the test has for them, each in its
place. Events of ignored types have no place.
-/

namespace ConnectionPool.Conformance

/-- The error that a run ends with. -/
inductive RunError where
  | pool (error : PoolError)
  | unknownConnection (label : String)
  | unknownThread (name : String)
  | eventTimeout (event : String) (count : Nat)
  deriving DecidableEq, Repr

/-- The message for the cause. -/
def RunError.message : RunError → String
  | .pool error => "pool error: " ++ error.message
  | .unknownConnection label => "attempted to release non-existent connection " ++ label
  | .unknownThread name => "invalid thread " ++ name
  | .eventTimeout event count =>
      "timed out waiting for " ++ toString count ++ " " ++ event ++ " events"

/-- A run did not end as it was to end: with an error at all, with another error of the pool, or
without the error that was expected. -/
inductive WrongEnd where
  | unexpected (error : RunError)
  | otherError (expected : String) (actual : PoolError)
  | noError (expected : String)
  deriving DecidableEq, Repr

/-- The message for the cause. -/
def WrongEnd.message : WrongEnd → String
  | .unexpected error => error.message
  | .otherError expected actual =>
      "expected " ++ expected ++ " error, got: " ++ actual.message
  | .noError expected => "expected " ++ expected ++ " error, but the operations succeeded"

/-- Why a test fails. The index of an event is its place among those that are not ignored;
`none` is a missing event. -/
inductive Failure where
  | wrongEnd (cause : WrongEnd)
  | wrongEvent (index : Nat) (expected : Json) (actual : Option Event)

/-- The error is of the expected type, and its message has the expected part; letter case does not
count. -/
def ExpectedError.admits (expected : ExpectedError) (actual : PoolError) : Bool :=
  Text.equalIgnoringAsciiCase expected.typeName actual.typeName &&
    expected.message.all (Text.containsIgnoringCase actual.message)

/-- The event as an observer records it: with the instant on the observer's clock, which showed
`clock` when the pool's clock started. -/
def recorded (clock : Duration) (event : Event) : Json :=
  let (seconds, nanoseconds) := Duration.parts (clock + event.time)
  .object (("time", .object [("secs_since_epoch", .nat seconds),
    ("nanos_since_epoch", .nat nanoseconds)]) :: event.members)

/-- Compare the patterns, the first of which has this number, with the events. A missing event
counts as `null`. -/
def checkEvents (clock : Duration) (index : Nat) : List Json → List Event → Except Failure Unit
  | [], _ => .ok ()
  | pattern :: patterns, events =>
      if pattern.admits (Json.ofOption (recorded clock) events.head?) then
        checkEvents clock (index + 1) patterns events.tail
      else .error (.wrongEvent index pattern events.head?)

namespace Test

/-- The events that count. -/
def relevant (test : Test) (events : List Event) : List Event :=
  events.filter fun event => !test.ignore.contains event.typeName

/-- Compare the end of a run with the expected error. Only a pool's error can be expected. -/
def checkEnd (test : Test) (result : Except RunError Unit) : Except WrongEnd Unit :=
  match test.error, result with
  | some expected, .error (.pool actual) =>
      if expected.admits actual then .ok () else .error (.otherError expected.typeName actual)
  | _, .error error => .error (.unexpected error)
  | some expected, .ok () => .error (.noError expected.typeName)
  | none, .ok () => .ok ()

/-- The verdict on a run that ended so and on the pool's events. -/
def check (test : Test) (clock : Duration) (result : Except RunError Unit) (events : List Event) :
    Except Failure Unit :=
  match test.checkEnd result with
  | .error cause => .error (.wrongEnd cause)
  | .ok () => checkEvents clock 0 test.events (test.relevant events)

end Test

end ConnectionPool.Conformance
