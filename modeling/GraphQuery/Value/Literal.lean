import GraphQuery.Text.Character
import GraphQuery.Text.Split
import GraphQuery.Value

/-! # Values as text

* `Value.literal` is the notation of a value inside messages: texts in quotes, `None`, `True`,
  lists in brackets, maps in braces.
* `Value.plainText` is the same without quotes around a text at the top.

A text stands in single quotes, in double ones if it holds a single quote and no double one.
Characters without a printed form are escaped. -/

namespace GraphQuery

open GraphQuery.Text

/-! ### Quoted texts -/

/-- A number in hexadecimal with zeros in front up to a width. -/
def hexText (width n : Nat) : List Char :=
  let digits := Nat.toDigits 16 n
  List.replicate (width - digits.length) '0' ++ digits

/-- A character inside a literal between the quotes `q`. -/
def escapedChar (q c : Char) : List Char :=
  if c = q ∨ c = '\\' then ['\\', c]
  else if c = '\n' then ['\\', 'n']
  else if c = '\r' then ['\\', 'r']
  else if c = '\t' then ['\\', 't']
  else if isPrintable c then [c]
  else if c.toNat < 0x100 then '\\' :: 'x' :: hexText 2 c.toNat
  else if c.toNat < 0x10000 then '\\' :: 'u' :: hexText 4 c.toNat
  else '\\' :: 'U' :: hexText 8 c.toNat

/-- The quotes around a literal with these characters. -/
def quoteFor (cs : List Char) : Char :=
  if '\x27' ∈ cs ∧ '\x22' ∉ cs then '\x22' else '\x27'

/-- A text between quotes. -/
def textLiteral (s : String) : String :=
  let cs := s.toList
  let q := quoteFor cs
  String.ofList (q :: (cs.flatMap (escapedChar q) ++ [q]))

/-- A byte inside a literal. -/
def escapedByte (q : Char) (b : UInt8) : List Char :=
  if b.toNat < 128 then escapedChar q (Char.ofNat b.toNat) else '\\' :: 'x' :: hexText 2 b.toNat

/-- Bytes between quotes. -/
def bytesLiteral (bs : List UInt8) : String :=
  let q := quoteFor (bs.map fun b => Char.ofNat b.toNat)
  String.ofList ('b' :: q :: (bs.flatMap (escapedByte q) ++ [q]))

/-! ### Dates and times -/

/-- Numbers with commas between them. -/
def commaNumbers (ns : List Nat) : String := joined ", " (ns.map toString)

/-- The part of a literal that gives the offset from universal time. -/
def zoneLiteral : Option Int → String
  | none => ""
  | some 0 => ", tzinfo=datetime.timezone.utc"
  | some micros =>
    let seconds := Int.fdiv micros 1000000
    let parts := [("days", Int.fdiv seconds 86400), ("seconds", Int.fmod seconds 86400),
      ("microseconds", Int.fmod micros 1000000)]
    let inner := (parts.filter (·.2 ≠ 0)).map fun p => p.1 ++ "=" ++ toString p.2
    ", tzinfo=datetime.timezone(datetime.timedelta(" ++ joined ", " inner ++ "))"

/-- The parts of a time of day; seconds and millionths only where they are needed. -/
def Clock.parts (c : Clock) : List Nat :=
  [c.hour, c.minute] ++
    (if c.micro ≠ 0 then [c.second, c.micro] else if c.second ≠ 0 then [c.second] else [])

def Date.literal (d : Date) : String :=
  "datetime.date(" ++ commaNumbers [d.year, d.month, d.day] ++ ")"

def Clock.literal (c : Clock) : String :=
  "datetime.time(" ++ commaNumbers c.parts ++ zoneLiteral c.offset ++ ")"

def Moment.literal (m : Moment) : String :=
  "datetime.datetime(" ++ commaNumbers ([m.date.year, m.date.month, m.date.day] ++ m.clock.parts) ++
    zoneLiteral m.clock.offset ++ ")"

/-! ### Values -/

/-- The literal of a text that may be missing. -/
def textLiteral? : Option String → String
  | some s => textLiteral s
  | none => "None"

/-- The literal of an integer that may be missing. -/
def intLiteral? : Option Int → String
  | some n => toString n
  | none => "None"

/-- The literal of a truth value. -/
def boolLiteral (b : Bool) : String := if b then "True" else "False"

/-- Literals between brackets. -/
def bracketed (opening : String) (parts : List String) (closing : String) : String :=
  opening ++ joined ", " parts ++ closing

/-- The literal of a list of texts. -/
def textsLiteral (texts : List String) : String := bracketed "[" (texts.map textLiteral) "]"

/-- The literal of a tuple: a single member is followed by a comma. -/
def tupleLiteral : List String → String
  | [part] => "(" ++ part ++ ",)"
  | parts => bracketed "(" parts ")"

/-- The literal of a set. -/
def setLiteral : List String → String
  | [] => "set()"
  | parts => bracketed "\x7b" parts "\x7d"

/-- The fields of a column reference with their literals. -/
def ColumnRef.fieldLiterals (c : ColumnRef) : List String :=
  ["name=" ++ textLiteral c.name, "alias=" ++ textLiteral? c.placeholder,
    "identity=" ++ boolLiteral c.identity]

/-- The literal of a column reference. -/
def ColumnRef.literal (c : ColumnRef) : String := bracketed "ColumnRef(" c.fieldLiterals ")"

/-- The literal of a path, from the literals of its nodes. -/
def pathLiteral (nodes : List String) (size : Nat) : String :=
  "<Path start=" ++ nodes.head?.getD "None" ++ " end=" ++ nodes.getLast?.getD "None" ++ " size=" ++
    toString size ++ ">"

/-- The literal of a set of labels. -/
def labelSetLiteral (labels : List String) : String :=
  if labels.isEmpty then "frozenset()"
  else "frozenset(" ++ setLiteral (labels.map textLiteral) ++ ")"

mutual
/-- The notation of a value inside messages. -/
def Value.literal : Value → String
  | .null => "None"
  | .bool b => boolLiteral b
  | .int n => toString n
  | .double x => x.text
  | .text s => textLiteral s
  | .bytes bs => bytesLiteral bs
  | .date d => d.literal
  | .moment m => m.literal
  | .clock c => c.literal
  | .list xs _ => bracketed "[" (literals xs) "]"
  | .tuple xs => tupleLiteral (literals xs)
  | .set xs => setLiteral (literals xs)
  | .stream _ _ => "<list_iterator object>"
  | .series _ => "<Listish object>"
  | .map es _ => bracketed "\x7b" (entryLiterals es) "\x7d"
  | .column ref => ref.literal
  | .node n => nodeLiteral n
  | .link l => linkLiteral l
  | .path nodes links => pathLiteral (nodeLiterals nodes) links.length
  | .record r => bracketed "GraphNode(" (recordFields r) ")"
  | .edge e => bracketed "GraphEdge(" (edgeFields e) ")"
  | .entity e => entityLiteral e
  | .entityClass c => "<class 'oracle." ++ c.name ++ "'>"
  | .builtinClass name => "<class '" ++ name ++ "'>"
  | .object o => o.text.getD ("<" ++ o.kind ++ " object>")
  | .handle "_Missing" => "<missing>"
  | .handle name => "<" ++ name ++ " object>"
/-- The literals of a list of values. -/
def literals : List Value → List String
  | [] => []
  | v :: vs => v.literal :: literals vs
/-- The literals of the entries of a map. -/
def entryLiterals : List (Value × Value) → List String
  | [] => []
  | (k, v) :: es => (k.literal ++ ": " ++ v.literal) :: entryLiterals es
/-- The literals of named values. -/
def propertyLiterals : List (String × Value) → List String
  | [] => []
  | (k, v) :: es => (textLiteral k ++ ": " ++ v.literal) :: propertyLiterals es
/-- The fields of a record with their literals. -/
def recordFields : RecordData Value → List String
  | ⟨id, labels, properties, relations, _, _, _⟩ =>
    ["id=" ++ intLiteral? id, "labels=" ++ textsLiteral labels,
      "properties=" ++ bracketed "\x7b" (propertyLiterals properties) "\x7d",
      "relations=" ++ bracketed "\x7b" (entryLiterals relations) "\x7d"]
/-- The fields of an edge with their literals. -/
def edgeFields : EdgeData Value → List String
  | ⟨id, startId, endId, type, properties, _, _⟩ =>
    ["id=" ++ intLiteral? id, "start_id=" ++ intLiteral? startId, "end_id=" ++ intLiteral? endId,
      "relationship_type=" ++ textLiteral type,
      "properties=" ++ bracketed "\x7b" (propertyLiterals properties) "\x7d"]
/-- The notations of the nodes of a path. -/
def nodeLiterals : List (Option (NodeData Value)) → List String
  | [] => []
  | n :: ns => endLiteral n :: nodeLiterals ns
/-- The notation of a driver node. -/
def nodeLiteral : NodeData Value → String
  | ⟨elementId, _, labels, properties⟩ =>
    "<Node element_id=" ++ elementId.literal ++ " labels=" ++ labelSetLiteral labels ++
      " properties=" ++ bracketed "\x7b" (propertyLiterals properties) "\x7d" ++ ">"
/-- The notation of an end of a relationship. -/
def endLiteral : Option (NodeData Value) → String
  | none => "None"
  | some n => nodeLiteral n
/-- The notation of a driver relationship. -/
def linkLiteral : LinkData Value → String
  | ⟨elementId, _, type, start, stop, properties⟩ =>
    "<Relationship element_id=" ++ elementId.literal ++ " nodes=" ++
      tupleLiteral [endLiteral start, endLiteral stop] ++ " type=" ++ textLiteral type ++
      " properties=" ++ bracketed "\x7b" (propertyLiterals properties) "\x7d" ++ ">"
/-- The notation of a typed record. -/
def entityLiteral : EntityData Value → String
  | ⟨_, className, id, _, _, _, _, _, _⟩ =>
    className ++ "(id=" ++ id.literal ++ " (" ++
      (match id with
        | .null => "new"
        | _ => "persisted") ++ "))"
end

/-- The literal of named values as a map. -/
def propertiesLiteral (properties : Properties) : String :=
  bracketed "\x7b" (propertyLiterals properties) "\x7d"

/-- Named values as fields with their literals. -/
def fieldLiterals (fields : Properties) : List String :=
  fields.map fun f => f.1 ++ "=" ++ f.2.literal

/-- A value as plain text: a text is itself, a date is in the international format, a record or an
entity is the list of its fields, any other value is its literal. -/
def Value.plainText : Value → String
  | .text s => s
  | .column c => joined " " c.fieldLiterals
  | .record r => joined " " (recordFields r)
  | .edge e => joined " " (edgeFields e)
  | .entity e => joined " " (fieldLiterals (("id", e.id) :: (e.fields ++ e.extras)))
  | .date d => d.isoText
  | .moment m => m.textWith " "
  | .clock c => c.isoText
  | v => v.literal

example : Value.literal (.ofList [.int 1, .text "it's", .tuple [.null]]) = "[1, \"it's\", (None,)]" := by
  decide

end GraphQuery
