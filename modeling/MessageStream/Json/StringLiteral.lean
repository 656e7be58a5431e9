/-!
String literals of configuration texts. A literal is read from behind its opening quote up to and
with the closing one; what it stands for comes out with its escapes decoded.
-/
namespace MessageStream.Json

def hexDigit? (c : Char) : Option Nat :=
  if '0' ≤ c ∧ c ≤ '9' then some (c.toNat - '0'.toNat)
  else if 'a' ≤ c ∧ c ≤ 'f' then some (c.toNat - 'a'.toNat + 10)
  else if 'A' ≤ c ∧ c ≤ 'F' then some (c.toNat - 'A'.toNat + 10)
  else none

def codeUnit? : List Char → Option (Nat × List Char)
  | a :: b :: c :: d :: rest => do
    let a ← hexDigit? a
    let b ← hexDigit? b
    let c ← hexDigit? c
    let d ← hexDigit? d
    some (((a * 16 + b) * 16 + c) * 16 + d, rest)
  | _ => none

def isLeading (unit : Nat) : Bool := 0xD800 ≤ unit && unit ≤ 0xDBFF

def isTrailing (unit : Nat) : Bool := 0xDC00 ≤ unit && unit ≤ 0xDFFF

/-- The character of an escape by code units: one unit, or a leading and a trailing one. A unit of a
pair that stands alone is no character. -/
def unicodeEscape? (input : List Char) : Option (Char × List Char) :=
  match codeUnit? input with
  | none => none
  | some (unit, rest) =>
    if isTrailing unit then none
    else if isLeading unit then
      match rest with
      | '\\' :: 'u' :: rest =>
        match codeUnit? rest with
        | some (second, rest) =>
          if isTrailing second then
            some (Char.ofNat (0x10000 + (unit - 0xD800) * 0x400 + (second - 0xDC00)), rest)
          else none
        | none => none
      | _ => none
    else some (Char.ofNat unit, rest)

def escape? : List Char → Option (Char × List Char)
  | '"' :: rest => some ('"', rest)
  | '\\' :: rest => some ('\\', rest)
  | '/' :: rest => some ('/', rest)
  | 'b' :: rest => some ('\x08', rest)
  | 'f' :: rest => some ('\x0c', rest)
  | 'n' :: rest => some ('\n', rest)
  | 'r' :: rest => some ('\r', rest)
  | 't' :: rest => some ('\t', rest)
  | 'u' :: rest => unicodeEscape? rest
  | _ => none

theorem codeUnit?_shorter {input rest : List Char} {unit : Nat}
    (found : codeUnit? input = some (unit, rest)) : rest.length < input.length := by
  unfold codeUnit? at found
  split at found
  · simp only [bind, Option.bind_eq_some_iff, Option.some.injEq, Prod.mk.injEq] at found
    obtain ⟨_, _, _, _, _, _, _, _, _, same⟩ := found
    subst same
    simp only [List.length_cons]
    omega
  · simp at found

theorem unicodeEscape?_shorter {input rest : List Char} {c : Char}
    (found : unicodeEscape? input = some (c, rest)) : rest.length < input.length := by
  unfold unicodeEscape? at found
  split at found
  · simp at found
  · rename_i unit after first
    have shorter := codeUnit?_shorter first
    split at found
    · simp at found
    · split at found
      · split at found
        · split at found
          · rename_i second last trailing
            have again := codeUnit?_shorter trailing
            split at found
            · simp only [Option.some.injEq, Prod.mk.injEq] at found
              rw [← found.2]
              simp only [List.length_cons] at shorter
              omega
            · simp at found
          · simp at found
        · simp at found
      · simp only [Option.some.injEq, Prod.mk.injEq] at found
        rw [← found.2]
        exact shorter

theorem escape?_shorter {input rest : List Char} {c : Char}
    (found : escape? input = some (c, rest)) : rest.length < input.length := by
  unfold escape? at found
  split at found
  all_goals first
    | (simp only [Option.some.injEq, Prod.mk.injEq] at found
       rw [← found.2]
       simp)
    | (have shorter := unicodeEscape?_shorter found
       simp only [List.length_cons]
       omega)
    | simp at found

/-- The characters a literal stands for, and what follows it. Control characters have to be
escaped. -/
def literal? (input : List Char) : Option (List Char × List Char) :=
  match input with
  | [] => none
  | c :: rest =>
    if c = '"' then some ([], rest)
    else if c = '\\' then
      match _escaped : escape? rest with
      | none => none
      | some (decoded, after) =>
        (literal? after).map fun result => (decoded :: result.1, result.2)
    else if c.toNat < 0x20 then none
    else (literal? rest).map fun result => (c :: result.1, result.2)
termination_by input.length
decreasing_by
  · have shorter := escape?_shorter _escaped
    simp only [List.length_cons]
    omega
  · simp

end MessageStream.Json
