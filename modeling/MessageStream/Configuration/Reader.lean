import MessageStream.Configuration.Basic
import MessageStream.Decimal.Shortest
import MessageStream.Json.Number
import MessageStream.Json.StringLiteral
import MessageStream.Text.Quoted

/-!
Reading configurations from text. A configuration is an object with a member for each setting given,
or an array of settings in order; a setting is a name, or an object from that name to null. Reading
stops at the first fault, and what stands behind it is never looked at.
-/
namespace MessageStream.Configuration

inductive Found where
  | null
  | boolean (value : Bool)
  | number (value : Json.Number)
  | string (value : List Char)
  | sequence
  | map

/-- Why a well-formed text is no configuration. -/
inductive Mismatch where
  | unknownVariant (name : List Char) (expected : List String)
  | unknownField (name : List Char)
  | duplicateField (name : String)
  | wrongType (found : Found) (expected : String)

inductive Refusal where
  | malformed
  | unacceptable (mismatch : Mismatch)

def fields : List String := ["message_kind", "empty_write"]

/-- Floating-point values show a point up to sixteen digits before it and four zeros behind it. -/
def floatLayout : Decimal.Layout where
  least := -5
  greatest := 15
  plus := "+"

def Found.describe : Found → String
  | null => "null"
  | boolean value => "boolean `" ++ toString value ++ "`"
  | number (.integer value) => "integer `" ++ toString value ++ "`"
  | number (.float value) => "floating point `" ++ floatLayout.render value ++ "`"
  | string value => "string " ++ Text.quoted (String.ofList value)
  | sequence => "sequence"
  | map => "map"

def alternatives (names : List String) : String :=
  " or ".intercalate (names.map fun name => "`" ++ name ++ "`")

def Mismatch.message : Mismatch → String
  | unknownVariant name expected =>
    "unknown variant `" ++ String.ofList name ++ "`, expected " ++ alternatives expected
  | unknownField name =>
    "unknown field `" ++ String.ofList name ++ "`, expected " ++ alternatives fields
  | duplicateField name => "duplicate field `" ++ name ++ "`"
  | wrongType found expected => "invalid type: " ++ found.describe ++ ", expected " ++ expected

abbrev Reader (Value : Type) := List Char → Except Refusal (Value × List Char)

def isBlank (c : Char) : Bool := c == ' ' || c == '\t' || c == '\n' || c == '\r'

def skipBlanks (input : List Char) : List Char := input.dropWhile isBlank

/-- Refuses what stands here: by its type, or as malformed if that cannot be told. -/
def refuse (expected : String) (input : List Char) : Refusal :=
  let wrong := fun found => Refusal.unacceptable (.wrongType found expected)
  match input with
  | 'n' :: 'u' :: 'l' :: 'l' :: _ => wrong .null
  | 't' :: 'r' :: 'u' :: 'e' :: _ => wrong (.boolean true)
  | 'f' :: 'a' :: 'l' :: 's' :: 'e' :: _ => wrong (.boolean false)
  | '[' :: _ => wrong .sequence
  | '\x7b' :: _ => wrong .map
  | '"' :: rest =>
    match Json.literal? rest with
    | some (value, _) => wrong (.string value)
    | none => .malformed
  | '-' :: rest =>
    match Json.number? true rest with
    | some value => wrong (.number value)
    | none => .malformed
  | _ =>
    match Json.number? false input with
    | some value => wrong (.number value)
    | none => .malformed

def readLiteral : Reader (List Char) := fun input =>
  match Json.literal? input with
  | some result => .ok result
  | none => .error .malformed

def readMark (mark : Char) : Reader Unit := fun input =>
  match skipBlanks input with
  | c :: rest => if c = mark then .ok ((), rest) else .error .malformed
  | [] => .error .malformed

def choose {Value : Type} (name : Value → String) (values : List Value) (text : List Char) :
    Except Refusal Value :=
  match values.find? (fun value => (name value).toList == text) with
  | some value => .ok value
  | none => .error (.unacceptable (.unknownVariant text (values.map name)))

def readNull : Reader Unit := fun input =>
  match skipBlanks input with
  | 'n' :: 'u' :: 'l' :: 'l' :: rest => .ok ((), rest)
  | 'n' :: _ => .error .malformed
  | rest => .error (refuse "unit" rest)

/-- A setting: the name of its value, or an object from that name to null. Anything else is
malformed, whatever it is; so is anything but a string in the place of the name in the object, where
the reader of objects asks for a key. -/
def readSetting {Value : Type} (name : Value → String) (values : List Value) : Reader Value :=
  fun input =>
    match skipBlanks input with
    | '"' :: rest => do
      let (text, rest) ← readLiteral rest
      let value ← choose name values text
      return (value, rest)
    | '\x7b' :: rest =>
      match skipBlanks rest with
      | '"' :: rest => do
        let (text, rest) ← readLiteral rest
        let value ← choose name values text
        let (_, rest) ← readMark ':' rest
        let (_, rest) ← readNull rest
        let (_, rest) ← readMark '\x7d' rest
        return (value, rest)
      | _ => .error .malformed
    | _ => .error .malformed

def readKind : Reader MessageKind := readSetting MessageKind.name MessageKind.all

def readPolicy : Reader EmptyWrite := readSetting EmptyWrite.name EmptyWrite.all

structure Given where
  kind : Option MessageKind := none
  policy : Option EmptyWrite := none

namespace Given

def config (given : Given) : Configuration where
  messageKind := given.kind.getD .text
  emptyWrite := given.policy.getD .skip

def remaining (given : Given) : Nat :=
  (if given.kind.isNone then 1 else 0) + (if given.policy.isNone then 1 else 0)

end Given

def readKey (first : Bool) : Reader (Option (List Char)) := fun input =>
  let key : Reader (Option (List Char)) := fun input =>
    match skipBlanks input with
    | '"' :: rest => (readLiteral rest).map fun result => (some result.1, result.2)
    | _ => .error .malformed
  match skipBlanks input with
  | '\x7d' :: rest => .ok (none, rest)
  | ',' :: rest => if first then .error .malformed else key rest
  | rest => if first then key rest else .error .malformed

/-- The members of an object, up to and with its closing brace. A key is judged as soon as it has
been read. -/
def readMembers (first : Bool) (given : Given) (input : List Char) :
    Except Refusal (Given × List Char) :=
  match readKey first input with
  | .error refusal => .error refusal
  | .ok (none, rest) => .ok (given, rest)
  | .ok (some key, rest) =>
    if key = "message_kind".toList then
      match _absent : given.kind with
      | some _ => .error (.unacceptable (.duplicateField "message_kind"))
      | none =>
        match readMark ':' rest with
        | .error refusal => .error refusal
        | .ok (_, rest) =>
          match readKind rest with
          | .error refusal => .error refusal
          | .ok (kind, rest) => readMembers false { given with kind := some kind } rest
    else if key = "empty_write".toList then
      match _absent : given.policy with
      | some _ => .error (.unacceptable (.duplicateField "empty_write"))
      | none =>
        match readMark ':' rest with
        | .error refusal => .error refusal
        | .ok (_, rest) =>
          match readPolicy rest with
          | .error refusal => .error refusal
          | .ok (policy, rest) => readMembers false { given with policy := some policy } rest
    else .error (.unacceptable (.unknownField key))
termination_by given.remaining
decreasing_by all_goals simp [Given.remaining, _absent]

def moreElements (first : Bool) : Reader Bool := fun input =>
  match skipBlanks input with
  | ']' :: rest => .ok (false, rest)
  | ',' :: rest =>
    if first then .error .malformed
    else match skipBlanks rest with
      | ']' :: _ => .error .malformed
      | rest => .ok (true, rest)
  | rest => if first then .ok (true, rest) else .error .malformed

/-- The elements of an array, up to and with its closing bracket: the kind first, then the
policy. -/
def readElements : Reader Given := fun input => do
  let (more, rest) ← moreElements true input
  if !more then return ({}, rest)
  let (kind, rest) ← readKind rest
  let (more, rest) ← moreElements false rest
  if !more then return ({ kind := some kind }, rest)
  let (policy, rest) ← readPolicy rest
  let (_, rest) ← readMark ']' rest
  return ({ kind := some kind, policy := some policy }, rest)

def readConfiguration : Reader Configuration := fun input =>
  match skipBlanks input with
  | '\x7b' :: rest => (readMembers true {} rest).map fun result => (result.1.config, result.2)
  | '[' :: rest => (readElements rest).map fun result => (result.1.config, result.2)
  | rest => .error (refuse "struct AdapterConfig" rest)

def whole {Value : Type} (reader : Reader Value) (text : String) : Except Refusal Value := do
  let (value, rest) ← reader text.toList
  if (skipBlanks rest).isEmpty then return value else throw .malformed

end MessageStream.Configuration

namespace MessageStream

def MessageKind.parse : String → Except Configuration.Refusal MessageKind :=
  Configuration.whole Configuration.readKind

def EmptyWrite.parse : String → Except Configuration.Refusal EmptyWrite :=
  Configuration.whole Configuration.readPolicy

def Configuration.parse : String → Except Configuration.Refusal Configuration :=
  Configuration.whole Configuration.readConfiguration

end MessageStream
