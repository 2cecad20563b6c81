import ConnectionPool.Json.Reader
import ConnectionPool.Text.LetterCase
import ConnectionPool.Text.Split
import ConnectionPool.Text.WhiteSpace

/-!
# Pool options under their wire names

Options are five optional numbers. They are read from a query text and from JSON, and written as
a JSON object with the fields that are set. In both readers unknown names are ignored.
-/

namespace ConnectionPool

/-- Pool options; an unset field keeps what the configuration has. -/
structure Options where
  maxPoolSize : Option Int64 := none
  minPoolSize : Option UInt64 := none
  maxIdleTimeMS : Option UInt64 := none
  waitQueueSize : Option UInt64 := none
  waitQueueTimeoutMS : Option UInt64 := none
  deriving DecidableEq, Repr, Inhabited

namespace Options

/-- The five options. -/
inductive Field where
  | maxPoolSize
  | minPoolSize
  | maxIdleTimeMS
  | waitQueueSize
  | waitQueueTimeoutMS
  deriving DecidableEq, Repr

namespace Field

/-- The fields in the order of their declaration. -/
def all : List Field :=
  [.maxPoolSize, .minPoolSize, .maxIdleTimeMS, .waitQueueSize, .waitQueueTimeoutMS]

/-- The name of the field on the wire. -/
def name : Field → String
  | .maxPoolSize => "maxPoolSize"
  | .minPoolSize => "minPoolSize"
  | .maxIdleTimeMS => "maxIdleTimeMS"
  | .waitQueueSize => "waitQueueSize"
  | .waitQueueTimeoutMS => "waitQueueTimeoutMS"

/-- The field of the name, in the wire's letter case. -/
def ofName? (name : String) : Option Field :=
  all.find? fun field => field.name = name

/-- The field whose name is `key` up to letter case; `key` is in lower case. -/
def ofKey? (key : List Char) : Option Field :=
  all.find? fun field => Text.lowercase field.name.toList = key

end Field

/-- Set the field to the number, if it is in the field's range: 64 bits, signed for the maximum
size and unsigned for the others. -/
def set? (options : Options) (field : Field) (value : Int) : Option Options :=
  match field with
  | .maxPoolSize =>
      if -0x8000000000000000 ≤ value ∧ value < 0x8000000000000000 then
        some { options with maxPoolSize := some (Int64.ofInt value) }
      else none
  | .minPoolSize =>
      if 0 ≤ value ∧ value < UInt64.size then
        some { options with minPoolSize := some (UInt64.ofNat value.toNat) }
      else none
  | .maxIdleTimeMS =>
      if 0 ≤ value ∧ value < UInt64.size then
        some { options with maxIdleTimeMS := some (UInt64.ofNat value.toNat) }
      else none
  | .waitQueueSize =>
      if 0 ≤ value ∧ value < UInt64.size then
        some { options with waitQueueSize := some (UInt64.ofNat value.toNat) }
      else none
  | .waitQueueTimeoutMS =>
      if 0 ≤ value ∧ value < UInt64.size then
        some { options with waitQueueTimeoutMS := some (UInt64.ofNat value.toNat) }
      else none

/-- The field's number, if it is set. -/
def get? (options : Options) : Field → Option Int
  | .maxPoolSize => options.maxPoolSize.map Int64.toInt
  | .minPoolSize => options.minPoolSize.map fun n => (n.toNat : Int)
  | .maxIdleTimeMS => options.maxIdleTimeMS.map fun n => (n.toNat : Int)
  | .waitQueueSize => options.waitQueueSize.map fun n => (n.toNat : Int)
  | .waitQueueTimeoutMS => options.waitQueueTimeoutMS.map fun n => (n.toNat : Int)

/-- The options of `change` where they are set, and those of `base` elsewhere. -/
def override (base change : Options) : Options where
  maxPoolSize := change.maxPoolSize <|> base.maxPoolSize
  minPoolSize := change.minPoolSize <|> base.minPoolSize
  maxIdleTimeMS := change.maxIdleTimeMS <|> base.maxIdleTimeMS
  waitQueueSize := change.waitQueueSize <|> base.waitQueueSize
  waitQueueTimeoutMS := change.waitQueueTimeoutMS <|> base.waitQueueTimeoutMS

/-! ## Query text -/

/-- Why a query text is refused: a segment without `=`, or a value that does not fit its key. -/
inductive QueryFault where
  | noEquals (segment : String)
  | badValue (key value : String)
  deriving DecidableEq, Repr

/-- The message for the cause. -/
def QueryFault.message : QueryFault → String
  | .noEquals segment => "invalid key-value: " ++ segment
  | .badValue key value => "invalid value for " ++ key ++ ": " ++ value

/-- Read the number of a field: signed for the maximum size, unsigned for the others. -/
def readNumber? : Field → List Char → Option Int
  | .maxPoolSize, cs => Text.signed? 0x8000000000000000 cs
  | _, cs => (Text.unsigned? UInt64.size cs).map Int.ofNat

/-- Add one segment of a query. A blank segment and an unknown key change nothing. -/
def addSegment (options : Options) (segment : List Char) : Except QueryFault Options :=
  let segment := Text.trim segment
  if segment = [] then .ok options
  else
    match Text.splitFirst '=' segment with
    | none => .error (.noEquals (String.ofList segment))
    | some (key, value) =>
        let key := Text.lowercase (Text.trim key)
        let value := Text.trim value
        match Field.ofKey? key with
        | none => .ok options
        | some field =>
            match (readNumber? field value).bind (options.set? field) with
            | some options => .ok options
            | none => .error (.badValue (String.ofList key) (String.ofList value))

/-- The character stands between two segments. -/
def isSegmentEnd (c : Char) : Bool :=
  c = '&' || c = ';'

/-- The segments of a query: white space around it and the question marks it then starts with do
not count. -/
def segments (cs : List Char) : List (List Char) :=
  Text.pieces isSegmentEnd ((Text.trim cs).dropWhile (· = '?'))

/-- Read the characters of a query. -/
def ofQueryChars (cs : List Char) : Except QueryFault Options :=
  (segments cs).foldlM addSegment {}

/-- Read a query such as `maxPoolSize=5&waitQueueTimeoutMS=100`. Of two segments for one field the
later one counts; the first bad segment is the error. -/
def ofQuery (query : String) : Except QueryFault Options :=
  ofQueryChars query.toList

/-! ## JSON -/

/-- The options as a JSON object of the fields that are set. -/
def toJson (options : Options) : Json :=
  .object (Field.all.filterMap fun field =>
    (options.get? field).map fun value => (field.name, Json.int value))

/-- Set the field to a JSON value: `null` leaves it unset, and an integer in range sets it. -/
def putJson? (options : Options) (field : Field) : Json → Option Options
  | .null => some options
  | .number (.integer value) => options.set? field value
  | _ => none

/-- Set the fields, in the order of their declaration, to the items of an array. The fields beyond
its end stay unset; there are no items beyond the last field. -/
def putItems? (options : Options) : List Field → List Json → Option Options
  | _, [] => some options
  | [], _ :: _ => none
  | field :: fields, item :: items => do
      let options ← options.putJson? field item
      options.putItems? fields items

/-- Set the fields to the members of their names. A field may be named once; an unknown name is
ignored. -/
def putMembers? (options : Options) (seen : List Field) : List (String × Json) → Option Options
  | [] => some options
  | (name, value) :: rest =>
      match Field.ofName? name with
      | none => options.putMembers? seen rest
      | some field =>
          if field ∈ seen then none
          else do
            let options ← options.putJson? field value
            options.putMembers? (field :: seen) rest

/-- Read options from a JSON value: an object by names, an array by position. -/
def ofJson? : Json → Option Options
  | .object members => ({} : Options).putMembers? [] members
  | .array items => ({} : Options).putItems? Field.all items
  | _ => none

/-- The named members of a written object that name fields, with their values. The others are not
looked into. -/
def knownMembers? : List (List Json.Mark × Json.Written) → Option (List (String × Json))
  | [] => some []
  | (name, value) :: rest => do
      let name ← Json.stringOfMarks? name
      match Field.ofName? name with
      | none => knownMembers? rest
      | some _ =>
          let value ← Json.ofWritten? 126 value
          let rest ← knownMembers? rest
          some ((name, value) :: rest)

/-- Read options from JSON text. The value of an unknown name has to be well-formed text and
nothing more. -/
def ofJsonText? (text : String) : Option Options := do
  match ← Json.Reader.written? text with
  | .object members => ({} : Options).putMembers? [] (← knownMembers? members)
  | .array items => ({} : Options).putItems? Field.all (← Json.ofItems? 126 items)
  | _ => none

end Options

end ConnectionPool
