import MessageStream.Configuration.Reader
import MessageStream.Proofs.Configuration.Grammar
import Mathlib.Data.List.DropRight
import Mathlib.Data.List.TakeWhile

/-!
Reading tokens. A token is found behind the blanks before it, and each of the readers of a mark, a
null, a literal and a setting reads exactly the tokens it should and hands back what stands behind
them.
-/
namespace MessageStream.Configuration

variable {input rest : List Char}

/-! Blanks and single tokens. -/

theorem isBlank_iff {c : Char} : isBlank c = true ↔ c ∈ [' ', '\t', '\n', '\r'] := by
  simp [isBlank, or_assoc]

theorem skipBlanks_append {blanks : List Char} (blank : Blank blanks) (text : List Char) :
    skipBlanks (blanks ++ text) = skipBlanks text :=
  List.dropWhile_append_of_pos fun c member => isBlank_iff.mpr (blank c member)

theorem blanks_skipBlanks (input : List Char) :
    ∃ blanks, Blank blanks ∧ blanks ++ skipBlanks input = input := by
  refine ⟨input.takeWhile isBlank, fun c member => ?_, List.takeWhile_append_dropWhile⟩
  exact isBlank_iff.mp (List.all_eq_true.mp List.all_takeWhile c member)

theorem skipBlanks_eq_nil_iff : skipBlanks input = [] ↔ Blank input :=
  List.dropWhile_eq_nil_iff.trans (forall₂_congr fun _ _ => isBlank_iff)

theorem Token.Written.skipBlanks_same {token : Token} {text : List Char}
    (written : token.Written text)
    (later : List Char) : Configuration.skipBlanks (text ++ later) = text ++ later := by
  cases written with
  | mark known =>
    simp only [List.mem_cons, List.not_mem_nil, or_false] at known
    rcases known with rfl | rfl | rfl | rfl | rfl | rfl <;> rfl
  | text spells => rfl
  | null => rfl

theorem lexes_cons_iff {token : Token} {tokens : List Token} :
    Lexes input (token :: tokens) rest ↔
      ∃ text later, token.Written text ∧ skipBlanks input = text ++ later ∧
        Lexes later tokens rest := by
  constructor
  · rintro (_ | ⟨blank, written, more⟩)
    exact ⟨_, _, written, (skipBlanks_append blank _).trans (written.skipBlanks_same _), more⟩
  · rintro ⟨text, later, written, found, more⟩
    obtain ⟨blanks, blank, same⟩ := blanks_skipBlanks input
    rw [← same, found]
    exact .cons blank written more

theorem lexes_skipBlanks_iff {tokens : List Token} (some : tokens ≠ []) :
    Lexes (skipBlanks input) tokens rest ↔ Lexes input tokens rest := by
  have again : skipBlanks (skipBlanks input) = skipBlanks input :=
    List.dropWhile_idempotent isBlank input
  cases tokens with
  | nil => contradiction
  | cons token tokens => rw [lexes_cons_iff, lexes_cons_iff, again]

theorem lexes_mark_iff {c : Char} {tokens : List Token}
    (known : c ∈ ['\x7b', '\x7d', '[', ']', ':', ',']) :
    Lexes input (.mark c :: tokens) rest ↔
      ∃ later, skipBlanks input = c :: later ∧ Lexes later tokens rest := by
  rw [lexes_cons_iff]
  constructor
  · rintro ⟨text, later, ⟨⟩, found, more⟩
    exact ⟨later, found, more⟩
  · rintro ⟨later, found, more⟩
    exact ⟨[c], later, .mark known, found, more⟩

theorem lexes_null_iff {tokens : List Token} :
    Lexes input (.null :: tokens) rest ↔
      ∃ later, skipBlanks input = 'n' :: 'u' :: 'l' :: 'l' :: later ∧ Lexes later tokens rest := by
  rw [lexes_cons_iff]
  constructor
  · rintro ⟨text, later, ⟨⟩, found, more⟩
    exact ⟨later, found, more⟩
  · rintro ⟨later, found, more⟩
    exact ⟨_, later, .null, found, more⟩

theorem lexes_text_iff {value : List Char} {tokens : List Token} :
    Lexes input (.text value :: tokens) rest ↔
      ∃ quoted later, skipBlanks input = '"' :: quoted ∧
        Json.literal? quoted = some (value, later) ∧ Lexes later tokens rest := by
  rw [lexes_cons_iff]
  constructor
  · rintro ⟨text, later, written, found, more⟩
    cases written with
    | @text spelling _ spells =>
      exact ⟨spelling ++ '"' :: later, later, by simpa using found, spells.literal?_eq later, more⟩
  · rintro ⟨quoted, later, found, read, more⟩
    obtain ⟨spelling, spells, rfl⟩ := Json.literal?_eq_some_iff.mp read
    exact ⟨_, later, .text spells, by simp [found], more⟩

/-! Readers. -/

theorem bind_ok_iff {Value Result : Type} {read : Except Refusal Value}
    {next : Value → Except Refusal Result} {result : Result} :
    (read >>= next) = .ok result ↔ ∃ value, read = .ok value ∧ next value = .ok result := by
  constructor
  · intro done
    cases read with
    | error refusal => cases done
    | ok value => exact ⟨value, rfl, done⟩
  · rintro ⟨value, rfl, done⟩
    exact done

theorem readLiteral_ok_iff {result : List Char × List Char} :
    readLiteral input = .ok result ↔ Json.literal? input = some result := by
  unfold readLiteral
  cases Json.literal? input <;> simp

theorem readMark_ok_iff {mark : Char} (known : mark ∈ ['\x7b', '\x7d', '[', ']', ':', ',']) :
    readMark mark input = .ok ((), rest) ↔ Lexes input [.mark mark] rest := by
  simp only [lexes_mark_iff known, lexes_nil_iff, exists_eq_right]
  unfold readMark
  cases skipBlanks input with
  | nil => simp
  | cons c later =>
    dsimp only
    split <;> simp_all

theorem readNull_ok_iff : readNull input = .ok ((), rest) ↔ Lexes input [.null] rest := by
  simp only [lexes_null_iff, lexes_nil_iff, exists_eq_right]
  unfold readNull
  split <;> simp_all

theorem choose_ok_iff {Value : Type} {name : Value → String} {values : List Value}
    (distinct : Function.Injective name) {text : List Char} {value : Value} :
    choose name values text = .ok value ↔ value ∈ values ∧ (name value).toList = text := by
  unfold choose
  constructor
  · intro chosen
    split at chosen
    · rename_i found first
      cases chosen
      have same := List.find?_some first
      exact ⟨List.mem_of_find?_eq_some first, beq_iff_eq.mp same⟩
    · cases chosen
  · rintro ⟨member, named⟩
    split
    · rename_i found first
      have same := List.find?_some first
      exact congrArg _ (distinct (String.toList_inj.mp ((beq_iff_eq.mp same).trans named.symm)))
    · rename_i none
      exact absurd (beq_iff_eq.mpr named) (List.find?_eq_none.mp none value member)

theorem readSetting_naming {Value : Type} {name : Value → String} {values : List Value}
    (distinct : Function.Injective name) {value : Value}
    (read : readSetting name values input = .ok (value, rest)) :
    value ∈ values ∧ ∃ tokens, Naming (name value).toList tokens ∧ Lexes input tokens rest := by
  unfold readSetting at read
  split at read
  · rename_i quoted found
    obtain ⟨⟨text, later⟩, literal, read⟩ := bind_ok_iff.mp read
    obtain ⟨chosen, choice, read⟩ := bind_ok_iff.mp read
    cases read
    obtain ⟨member, rfl⟩ := (choose_ok_iff distinct).mp choice
    rw [readLiteral_ok_iff] at literal
    exact ⟨member, _, .alone, lexes_text_iff.mpr ⟨_, _, found, literal, .nil⟩⟩
  · rename_i opened found
    split at read
    · rename_i quoted inside
      obtain ⟨⟨text, later⟩, literal, read⟩ := bind_ok_iff.mp read
      obtain ⟨chosen, choice, read⟩ := bind_ok_iff.mp read
      obtain ⟨⟨⟨⟩, behind⟩, colon, read⟩ := bind_ok_iff.mp read
      obtain ⟨⟨⟨⟩, last⟩, null, read⟩ := bind_ok_iff.mp read
      obtain ⟨⟨⟨⟩, after⟩, closing, read⟩ := bind_ok_iff.mp read
      cases read
      obtain ⟨member, rfl⟩ := (choose_ok_iff distinct).mp choice
      rw [readLiteral_ok_iff] at literal
      rw [readMark_ok_iff (by decide)] at colon closing
      rw [readNull_ok_iff] at null
      refine ⟨member, _, .entry, (lexes_mark_iff (by decide)).mpr ⟨_, found, ?_⟩⟩
      exact lexes_text_iff.mpr ⟨_, _, inside, literal, colon.append (null.append closing)⟩
    · cases read
  · cases read

theorem Naming.readSetting_ok {Value : Type} {name : Value → String} {values : List Value}
    (distinct : Function.Injective name) {value : Value} (member : value ∈ values)
    {tokens : List Token} (naming : Naming (name value).toList tokens)
    (lexes : Lexes input tokens rest) :
    readSetting name values input = .ok (value, rest) := by
  have choice := (choose_ok_iff distinct).mpr ⟨member, rfl⟩
  cases naming with
  | alone =>
    obtain ⟨quoted, later, found, literal, more⟩ := lexes_text_iff.mp lexes
    obtain rfl := lexes_nil_iff.mp more
    unfold readSetting
    simp only [found]
    exact bind_ok_iff.mpr ⟨_, readLiteral_ok_iff.mpr literal, bind_ok_iff.mpr ⟨_, choice, rfl⟩⟩
  | entry =>
    obtain ⟨opened, found, lexes⟩ := (lexes_mark_iff (by decide)).mp lexes
    obtain ⟨quoted, later, inside, literal, lexes⟩ := lexes_text_iff.mp lexes
    obtain ⟨behind, colon, lexes⟩ := (@lexes_append_iff _ _ [.mark ':'] _).mp lexes
    obtain ⟨last, null, closing⟩ := (@lexes_append_iff _ _ [.null] _).mp lexes
    rw [← readMark_ok_iff (by decide)] at colon closing
    rw [← readNull_ok_iff] at null
    unfold readSetting
    simp only [found, inside]
    exact bind_ok_iff.mpr ⟨_, readLiteral_ok_iff.mpr literal, bind_ok_iff.mpr ⟨_, choice,
      bind_ok_iff.mpr ⟨_, colon, bind_ok_iff.mpr ⟨_, null, bind_ok_iff.mpr ⟨_, closing, rfl⟩⟩⟩⟩⟩

theorem Naming.first_char {name : List Char} {tokens : List Token} (naming : Naming name tokens)
    (lexes : Lexes input tokens rest) :
    ∃ c later, skipBlanks input = c :: later ∧ (c = '"' ∨ c = '\x7b') := by
  cases naming with
  | alone =>
    obtain ⟨quoted, later, found, -⟩ := lexes_text_iff.mp lexes
    exact ⟨_, _, found, .inl rfl⟩
  | entry =>
    obtain ⟨opened, found, -⟩ := (lexes_mark_iff (by decide)).mp lexes
    exact ⟨_, _, found, .inr rfl⟩

/-- A setting is read from the tokens of its value, for the names that are looked for are those of
its values in small letters. -/
theorem readSetting_ok_iff {Value : Type} {name : Value → String} {values : List Value}
    {change : Value → Change} (distinct : Function.Injective name)
    (complete : ∀ value, value ∈ values)
    (named : ∀ value, snakeCase (change value).label.toList = (name value).toList) {value : Value} :
    readSetting name values input = .ok (value, rest) ↔
      ∃ tokens, (change value).Valued tokens ∧ Lexes input tokens rest := by
  simp only [Change.Valued, named]
  refine ⟨fun read => (readSetting_naming distinct read).2, ?_⟩
  rintro ⟨tokens, naming, lexes⟩
  exact naming.readSetting_ok distinct (complete value) lexes

theorem readKind_ok_iff {kind : MessageKind} :
    readKind input = .ok (kind, rest) ↔
      ∃ tokens, (Change.kind kind).Valued tokens ∧ Lexes input tokens rest :=
  readSetting_ok_iff (fun _ _ => MessageKind.name_injective) MessageKind.mem_all
    fun kind => by cases kind <;> rfl

theorem readPolicy_ok_iff {policy : EmptyWrite} :
    readPolicy input = .ok (policy, rest) ↔
      ∃ tokens, (Change.policy policy).Valued tokens ∧ Lexes input tokens rest :=
  readSetting_ok_iff (fun _ _ => EmptyWrite.name_injective) EmptyWrite.mem_all
    fun policy => by cases policy <;> rfl

end MessageStream.Configuration
