import MessageStream.Configuration.Basic
import MessageStream.Proofs.Configuration.Literal
import Mathlib.Data.List.Forall2

/-!
The grammar of configuration texts, said without a reader. A text is a row of tokens with blanks
between them as there may be. Its tokens are those of an object, with a member for each setting
given, or of an array, with the settings in order; and a setting is a name, or an object from that
name to null.
-/
namespace MessageStream.Configuration

inductive Token where
  | mark (c : Char)
  | text (value : List Char)
  | null

inductive Token.Written : Token → List Char → Prop where
  | mark {c : Char} (known : c ∈ ['\x7b', '\x7d', '[', ']', ':', ',']) : Written (mark c) [c]
  | text {spelling value : List Char} (spells : Json.Spelling spelling value) :
    Written (text value) ('"' :: spelling ++ ['"'])
  | null : Written null ['n', 'u', 'l', 'l']

def Blank (text : List Char) : Prop := ∀ c ∈ text, c ∈ [' ', '\t', '\n', '\r']

/-- The input begins with these tokens, each with blanks before it as there may be, and `rest` is
what stands behind the last. -/
inductive Lexes : (input : List Char) → List Token → (rest : List Char) → Prop where
  | nil {rest : List Char} : Lexes rest [] rest
  | cons {blanks text later rest : List Char} {token : Token} {tokens : List Token}
      (blank : Blank blanks) (written : token.Written text) (more : Lexes later tokens rest) :
    Lexes (blanks ++ (text ++ later)) (token :: tokens) rest

def snakeCase : List Char → List Char
  | [] => []
  | c :: rest => c.toLower :: rest.flatMap fun c => if c.isUpper then ['_', c.toLower] else [c]

/-- The tokens of a name: alone, or in an object from it to null. -/
inductive Naming (name : List Char) : List Token → Prop where
  | alone : Naming name [.text name]
  | entry : Naming name [.mark '\x7b', .text name, .mark ':', .null, .mark '\x7d']

namespace Change

def field : Change → String
  | kind _ => "message_kind"
  | policy _ => "empty_write"

def label : Change → String
  | kind value => value.label
  | policy value => value.label

def Valued (tokens : List Token) (change : Change) : Prop :=
  Naming (snakeCase change.label.toList) tokens

def Member (tokens : List Token) (change : Change) : Prop :=
  ∃ value, tokens = .text change.field.toList :: .mark ':' :: value ∧ change.Valued value

end Change

def listed (parts : List (List Token)) : List Token := [Token.mark ','].intercalate parts

/-- The tokens of a configuration, and the settings they give. -/
inductive Document : List Token → List Change → Prop where
  | object {parts : List (List Token)} {changes : List Change}
      (members : List.Forall₂ Change.Member parts changes)
      (distinct : (changes.map Change.field).Nodup) :
    Document (.mark '\x7b' :: (listed parts ++ [.mark '\x7d'])) changes
  | array {parts : List (List Token)} {changes : List Change}
      (elements : List.Forall₂ Change.Valued parts changes)
      (inOrder : changes.map Change.field <+: ["message_kind", "empty_write"]) :
    Document (.mark '[' :: (listed parts ++ [.mark ']'])) changes

/-- A text, blanks before, between and behind its tokens as there may be, that gives these
settings. -/
def Gives (text : List Char) (changes : List Change) : Prop :=
  ∃ tokens blanks, Lexes text tokens blanks ∧ Blank blanks ∧ Document tokens changes

/-- The configuration has each setting as it is given, and the default of one that is not. -/
structure Adopts (config : Configuration) (changes : List Change) : Prop where
  kind : ∀ kind, .kind kind ∈ changes → config.messageKind = kind
  policy : ∀ policy, .policy policy ∈ changes → config.emptyWrite = policy
  noKind : (∀ kind, .kind kind ∉ changes) → config.messageKind = .text
  noPolicy : (∀ policy, .policy policy ∉ changes) → config.emptyWrite = .skip

section Lexing

variable {input rest : List Char} {first second : List Token}

theorem Lexes.append {middle : List Char} (early : Lexes input first middle)
    (late : Lexes middle second rest) : Lexes input (first ++ second) rest := by
  induction early with
  | nil => exact late
  | cons blank written more ih => exact .cons blank written (ih late)

theorem lexes_append_iff :
    Lexes input (first ++ second) rest ↔
      ∃ middle, Lexes input first middle ∧ Lexes middle second rest := by
  refine ⟨fun lexes => ?_, fun ⟨_, early, late⟩ => early.append late⟩
  induction first generalizing input with
  | nil => exact ⟨input, .nil, lexes⟩
  | cons token tokens ih =>
    obtain _ | ⟨blank, written, more⟩ := lexes
    obtain ⟨middle, early, late⟩ := ih more
    exact ⟨middle, .cons blank written early, late⟩

theorem lexes_nil_iff : Lexes input [] rest ↔ input = rest :=
  ⟨fun lexes => by cases lexes; rfl, fun same => same ▸ .nil⟩

end Lexing

end MessageStream.Configuration
