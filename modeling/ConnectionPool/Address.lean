import ConnectionPool.Json.Basic
import ConnectionPool.Text.Numeral
import ConnectionPool.Text.Split
import ConnectionPool.Text.WhiteSpace

/-!
# Server addresses

An address is a host and a port. Its text is `host:port`, with brackets around a host that holds
a colon. Reading accepts that text, the same without the port, and white space around it. The
port of a text without one is 27017.
-/

namespace ConnectionPool

/-- A server endpoint. The host has no brackets. -/
structure Address where
  host : String
  port : UInt16
  deriving DecidableEq, Repr

/-- Why a text is no address. Each cause carries the text it was found in, `badPort` the port. -/
inductive AddressFault where
  | empty
  | unterminatedBracket (text : String)
  | textAfterBracket (text : String)
  | bareColons (text : String)
  | missingHost (text : String)
  | badPort (port : String)
  deriving DecidableEq, Repr

/-- The message for the cause. -/
def AddressFault.message : AddressFault → String
  | .empty => "address cannot be empty"
  | .unterminatedBracket text => "unterminated '[' in " ++ text
  | .textAfterBracket text => "unexpected characters after ']' in " ++ text
  | .bareColons text => "IPv6 literal must be bracketed: " ++ text
  | .missingHost text => "missing host in " ++ text
  | .badPort port => "invalid port: " ++ port

namespace Address

/-- The port of an address that names none. -/
def defaultPort : UInt16 := 27017

/-- The address used when none is given. -/
def localhost : Address := ⟨"localhost", defaultPort⟩

instance : Inhabited Address := ⟨localhost⟩

/-- The text of the address. -/
def text (address : Address) : String :=
  if ':' ∈ address.host.toList then "[" ++ address.host ++ "]:" ++ toString address.port.toNat
  else address.host ++ ":" ++ toString address.port.toNat

/-- Split a trimmed, non-empty text into its host and, if there is one, its port. A text that
starts with a bracket ends its host at the first closing one; any other has at most one colon. -/
def split (cs : List Char) : Except AddressFault (List Char × Option (List Char)) :=
  match cs with
  | '[' :: rest =>
      match Text.splitFirst ']' rest with
      | none => .error (.unterminatedBracket (String.ofList cs))
      | some (host, []) => .ok (host, none)
      | some (host, ':' :: port) => .ok (host, some port)
      | some (_, _ :: _) => .error (.textAfterBracket (String.ofList cs))
  | _ =>
      match Text.splitLast ':' cs with
      | none => .ok (cs, none)
      | some (host, port) =>
          if ':' ∈ host then .error (.bareColons (String.ofList cs))
          else .ok (host, some port)

/-- The port's value; the default for a text that names none. -/
def readPort : Option (List Char) → Except AddressFault UInt16
  | none => .ok defaultPort
  | some digits =>
      match Text.unsigned? UInt16.size digits with
      | some port => .ok (UInt16.ofNat port)
      | none => .error (.badPort (String.ofList digits))

/-- Read the characters of an address. -/
def parseChars (cs : List Char) : Except AddressFault Address := do
  let trimmed := Text.trim cs
  if trimmed = [] then .error .empty
  else
    let (host, port) ← split trimmed
    if host = [] then .error (.missingHost (String.ofList trimmed))
    else
      let port ← readPort port
      .ok ⟨String.ofList host, port⟩

/-- Read an address. -/
def parse (s : String) : Except AddressFault Address :=
  parseChars s.toList

/-- The address as JSON: its text. -/
def toJson (address : Address) : Json :=
  .string address.text

/-- The address in a JSON value: a string that reads as one. -/
def ofJson? : Json → Option Address
  | .string s => (parse s).toOption
  | _ => none

end Address

end ConnectionPool
