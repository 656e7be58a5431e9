import MessageStream.Json.StringLiteral
import Mathlib.Tactic.IntervalCases

/-!
How string literals may be written, said without a reader: a character stands for itself, or is
written by a short escape, by its code unit in four digits, or by the two code units of a pair. A
literal is read exactly if it is written so, and stands for what is written.
-/
namespace MessageStream.Json

def HexDigit (c : Char) (value : Nat) : Prop :=
  "0123456789abcdef".toList[value]? = some c ∨ "0123456789ABCDEF".toList[value]? = some c

instance (c : Char) (value : Nat) : Decidable (HexDigit c value) :=
  inferInstanceAs (Decidable (_ ∨ _))

inductive CodeUnit : List Char → Nat → Prop where
  | digits {a b c d : Char} {w x y z : Nat} (first : HexDigit a w) (second : HexDigit b x)
      (third : HexDigit c y) (fourth : HexDigit d z) :
    CodeUnit [a, b, c, d] (((w * 16 + x) * 16 + y) * 16 + z)

def shortEscapes : List (Char × Char) :=
  [('"', '"'), ('\\', '\\'), ('/', '/'), ('b', '\x08'), ('f', '\x0c'), ('n', '\n'), ('r', '\r'),
    ('t', '\t')]

/-- The code units of a character, behind the mark of the first. A unit stands for the character of
that number, if there is one; a leading and a trailing unit share a character beyond all single
units. -/
inductive Units : List Char → Char → Prop where
  | one {text : List Char} {c : Char} (unit : CodeUnit text c.toNat) : Units text c
  | pair {leading trailing : List Char} {high low : Nat} {c : Char}
      (first : CodeUnit leading high) (second : CodeUnit trailing low)
      (leads : 0xD800 ≤ high ∧ high ≤ 0xDBFF) (trails : 0xDC00 ≤ low ∧ low ≤ 0xDFFF)
      (stands : c.toNat = 0x10000 + (high - 0xD800) * 0x400 + (low - 0xDC00)) :
    Units (leading ++ '\\' :: 'u' :: trailing) c

inductive Escape : List Char → Char → Prop where
  | short {mark c : Char} (listed : (mark, c) ∈ shortEscapes) : Escape [mark] c
  | units {text : List Char} {c : Char} (units : Units text c) : Escape ('u' :: text) c

/-- One way to write these characters between the quotes of a literal. -/
inductive Spelling : List Char → List Char → Prop where
  | nil : Spelling [] []
  | plain {c : Char} {text value : List Char} (visible : 0x20 ≤ c.toNat) (quotes : c ≠ '"')
      (escapes : c ≠ '\\') (rest : Spelling text value) : Spelling (c :: text) (c :: value)
  | escaped {c : Char} {mark text value : List Char} (escape : Escape mark c)
      (rest : Spelling text value) : Spelling ('\\' :: mark ++ text) (c :: value)

theorem HexDigit.lt_sixteen {c : Char} {value : Nat} (digit : HexDigit c value) : value < 16 := by
  rcases digit with small | capital
  · exact (List.getElem?_eq_some_iff.mp small).1
  · exact (List.getElem?_eq_some_iff.mp capital).1

theorem hexDigit?_eq_some_iff {c : Char} {value : Nat} :
    hexDigit? c = some value ↔ HexDigit c value := by
  constructor
  · intro found
    -- A digit is an ASCII character, and those can be gone through.
    have ascii : ∀ n < 0x80, ∀ value ∈ hexDigit? (Char.ofNat n), HexDigit (Char.ofNat n) value := by
      decide
    have small : c.toNat < 0x80 := by
      have below {high : Char} (within : c ≤ high) : c.toNat ≤ high.toNat := within
      unfold hexDigit? at found
      split at found
      · rename_i within
        exact Nat.lt_of_le_of_lt (below within.2) (by decide)
      · split at found
        · rename_i within
          exact Nat.lt_of_le_of_lt (below within.2) (by decide)
        · split at found
          · rename_i within
            exact Nat.lt_of_le_of_lt (below within.2) (by decide)
          · cases found
    have digit := ascii c.toNat small value
    rw [Char.ofNat_toNat] at digit
    exact digit found
  · intro digit
    have small := digit.lt_sixteen
    interval_cases value <;> rcases digit with same | same <;> cases same <;> rfl

theorem CodeUnit.codeUnit?_eq {text : List Char} {unit : Nat} (stands : CodeUnit text unit)
    (rest : List Char) : codeUnit? (text ++ rest) = some (unit, rest) := by
  obtain ⟨first, second, third, fourth⟩ := stands
  rw [← hexDigit?_eq_some_iff] at first second third fourth
  simp only [List.cons_append, List.nil_append, codeUnit?, first, second, third, fourth]
  rfl

theorem codeUnit?_stands {input rest : List Char} {unit : Nat}
    (found : codeUnit? input = some (unit, rest)) :
    ∃ text, CodeUnit text unit ∧ input = text ++ rest := by
  unfold codeUnit? at found
  split at found
  · rename_i a b c d later
    simp only [bind, Option.bind_eq_some_iff, Option.some.injEq, Prod.mk.injEq] at found
    obtain ⟨w, first, x, second, y, third, z, fourth, rfl, rfl⟩ := found
    rw [hexDigit?_eq_some_iff] at first second third fourth
    exact ⟨[a, b, c, d], .digits first second third fourth, rfl⟩
  · cases found

theorem CodeUnit.lt_bound {text : List Char} {unit : Nat} (stands : CodeUnit text unit) :
    unit < 0x10000 := by
  obtain ⟨first, second, third, fourth⟩ := stands
  have one := first.lt_sixteen
  have two := second.lt_sixteen
  have three := third.lt_sixteen
  have four := fourth.lt_sixteen
  omega

theorem toNat_ofNat {code : Nat} (valid : code.isValidChar) : (Char.ofNat code).toNat = code := by
  rw [Char.ofNat, dif_pos valid]
  rfl

theorem toNat_unpaired (c : Char) : isTrailing c.toNat = false ∧ isLeading c.toNat = false := by
  have valid : c.toNat < 0xD800 ∨ 0xDFFF < c.toNat ∧ c.toNat < 0x110000 := c.valid
  simp only [isTrailing, isLeading, Bool.and_eq_false_iff, decide_eq_false_iff_not]
  omega

theorem Units.unicodeEscape?_eq {text : List Char} {c : Char} (units : Units text c)
    (rest : List Char) :
    unicodeEscape? (text ++ rest) = some (c, rest) := by
  cases units with
  | one unit =>
    simp only [unicodeEscape?, unit.codeUnit?_eq rest, toNat_unpaired c, Bool.false_eq_true,
      ↓reduceIte, Char.ofNat_toNat]
  | @pair leading trailing high low _ first second leads trails stands =>
    have untrailing : isTrailing high = false := by
      simp only [isTrailing, Bool.and_eq_false_iff, decide_eq_false_iff_not]
      omega
    have ahead : isLeading high = true := by simpa [isLeading] using leads
    have behind : isTrailing low = true := by simpa [isTrailing] using trails
    simp only [unicodeEscape?, List.append_assoc, List.cons_append, first.codeUnit?_eq,
      second.codeUnit?_eq, untrailing, ahead, behind, Bool.false_eq_true, ↓reduceIte]
    rw [← stands, Char.ofNat_toNat]

theorem unicodeEscape?_units {input rest : List Char} {c : Char}
    (found : unicodeEscape? input = some (c, rest)) :
    ∃ text, Units text c ∧ input = text ++ rest := by
  unfold unicodeEscape? at found
  split at found
  · cases found
  rename_i unit after read
  obtain ⟨text, stands, rfl⟩ := codeUnit?_stands read
  split at found
  · cases found
  rename_i untrailing
  split at found
  · rename_i leads
    split at found
    · split at found
      · rename_i second last again
        obtain ⟨trailing, next, rfl⟩ := codeUnit?_stands again
        split at found
        · rename_i trails
          simp only [Option.some.injEq, Prod.mk.injEq] at found
          obtain ⟨rfl, rfl⟩ := found
          simp only [isLeading, isTrailing, Bool.and_eq_true, decide_eq_true_eq] at leads trails
          -- A leading and a trailing unit: the number they make is beyond all single units.
          refine ⟨_, .pair stands next leads trails (toNat_ofNat ?_), by simp⟩
          exact .inr (by omega)
        · cases found
      · cases found
    · cases found
  · -- A unit that is no half of a pair is the number of a character.
    rename_i unleading
    cases found
    have small := stands.lt_bound
    simp only [isLeading, isTrailing, Bool.and_eq_true, decide_eq_true_eq] at untrailing unleading
    have valid : unit.isValidChar := by
      unfold Nat.isValidChar
      omega
    rw [← toNat_ofNat valid] at stands
    exact ⟨text, .one stands, rfl⟩

theorem Escape.escape?_eq {text : List Char} {c : Char} (escape : Escape text c) (rest : List Char)
    :
    escape? (text ++ rest) = some (c, rest) := by
  cases escape with
  | short listed =>
    simp only [shortEscapes, List.mem_cons, Prod.mk.injEq, List.not_mem_nil, or_false] at listed
    rcases listed with same | same | same | same | same | same | same | same
    all_goals
      obtain ⟨rfl, rfl⟩ := same
      rfl
  | units units => exact units.unicodeEscape?_eq rest

theorem escape?_escape {input rest : List Char} {c : Char}
    (found : escape? input = some (c, rest)) : ∃ text, Escape text c ∧ input = text ++ rest := by
  unfold escape? at found
  split at found
  case h_9 later =>
    obtain ⟨text, units, rfl⟩ := unicodeEscape?_units found
    exact ⟨_, .units units, rfl⟩
  case h_10 => cases found
  all_goals
    cases found
    exact ⟨[_], .short (by decide), rfl⟩

theorem Spelling.literal?_eq {text value : List Char} (spelling : Spelling text value)
    (rest : List Char) : literal? (text ++ '"' :: rest) = some (value, rest) := by
  induction spelling with
  | nil => simp [literal?]
  | plain visible quotes escapes spelling ih =>
    rw [List.cons_append, literal?]
    simp only [quotes, escapes, ↓reduceIte, Nat.not_lt.mpr visible, ih, Option.map_some]
  | @escaped c mark text value escape spelling ih =>
    have read := escape.escape?_eq (text ++ '"' :: rest)
    rw [List.cons_append, List.cons_append, List.append_assoc, literal?, if_neg (by decide),
      if_pos rfl]
    split
    · rename_i fails
      cases read.symm.trans fails
    · rename_i same
      cases read.symm.trans same
      rw [ih]
      rfl

/-- A literal is read if it is written as it may be, up to and with the quote that closes it. -/
theorem literal?_eq_some_iff {input value rest : List Char} :
    literal? input = some (value, rest) ↔
      ∃ text, Spelling text value ∧ input = text ++ '"' :: rest := by
  refine ⟨fun found => ?_, fun ⟨text, spelling, same⟩ => same ▸ spelling.literal?_eq rest⟩
  fun_induction literal? input generalizing value with
  | case1 => cases found
  | case2 later =>
    cases found
    exact ⟨[], .nil, rfl⟩
  | case3 => cases found
  | case4 later decoded after escaped unquoted ih =>
    obtain ⟨read, inner, same⟩ := Option.map_eq_some_iff.mp found
    cases same
    obtain ⟨text, spelling, rfl⟩ := ih inner
    obtain ⟨mark, escape, rfl⟩ := escape?_escape escaped
    exact ⟨_, .escaped escape spelling, by simp⟩
  | case5 => cases found
  | case6 c later quotes escapes visible ih =>
    obtain ⟨read, inner, same⟩ := Option.map_eq_some_iff.mp found
    cases same
    obtain ⟨text, spelling, rfl⟩ := ih inner
    exact ⟨_, .plain (Nat.le_of_not_lt visible) quotes escapes spelling, rfl⟩

end MessageStream.Json
