import MessageStream.Proofs.Configuration.Lexing

/-!
Reading configurations. The members of an object and the elements of an array are read exactly as
the grammar has them; so a text is a configuration exactly if its tokens are those of one, whatever
the blanks between them and however its literals are spelled, and a configuration that is read has
the settings the text gives and the defaults of the others.
-/
namespace MessageStream.Configuration

variable {input rest : List Char}

/-! Members of an object. -/

def separated (first : Bool) : List (List Token) → List Token
  | [] => []
  | part :: parts => (if first then [] else [.mark ',']) ++ (part ++ separated false parts)

theorem listed_eq (parts : List (List Token)) : listed parts = separated true parts := by
  have behind (parts : List (List Token)) (part : List Token) :
      listed (part :: parts) = part ++ separated false parts := by
    induction parts generalizing part with
    | nil => simp [listed, separated]
    | cons next parts ih =>
      rw [listed, List.intercalate_cons_cons, ← listed, ih]
      simp [separated]
  cases parts with
  | nil => rfl
  | cons part parts => exact behind parts part

theorem quoted_ok_iff {key : Option (List Char)} :
    (match skipBlanks input with
      | '"' :: later => (readLiteral later).map fun result => (some result.1, result.2)
      | _ => .error .malformed : Except Refusal (Option (List Char) × List Char)) =
        .ok (key, rest) ↔
      ∃ text, key = some text ∧ Lexes input [.text text] rest := by
  simp only [lexes_text_iff, lexes_nil_iff]
  constructor
  · intro read
    split at read
    · rename_i quoted found
      cases literal : readLiteral quoted with
      | error refusal =>
        rw [literal] at read
        cases read
      | ok result =>
        rw [literal] at read
        cases read
        exact ⟨_, rfl, quoted, _, found, readLiteral_ok_iff.mp literal, rfl⟩
    · cases read
  · rintro ⟨text, rfl, quoted, later, found, literal, rfl⟩
    simp only [found, readLiteral_ok_iff.mpr literal]
    rfl

theorem readKey_none_iff {first : Bool} :
    readKey first input = .ok (none, rest) ↔ Lexes input [.mark '\x7d'] rest := by
  simp only [lexes_mark_iff (by decide : '\x7d' ∈ _), lexes_nil_iff, exists_eq_right]
  constructor
  · intro read
    unfold readKey at read
    split at read
    · rename_i later found
      cases read
      exact found
    · split at read
      · cases read
      · obtain ⟨text, absurd, -⟩ := quoted_ok_iff.mp read
        cases absurd
    · split at read
      · obtain ⟨text, absurd, -⟩ := quoted_ok_iff.mp read
        cases absurd
      · cases read
  · intro found
    simp only [readKey, found]

theorem readKey_some_iff {first : Bool} {key : List Char} :
    readKey first input = .ok (some key, rest) ↔
      Lexes input ((if first then [] else [.mark ',']) ++ [.text key]) rest := by
  constructor
  · intro read
    unfold readKey at read
    split at read
    · cases read
    · rename_i later found
      split at read
      · cases read
      · rename_i inner
        obtain ⟨text, same, lexes⟩ := quoted_ok_iff.mp read
        cases same
        rw [if_neg inner]
        exact (lexes_mark_iff (by decide)).mpr ⟨later, found, lexes⟩
    · split at read
      · rename_i outer
        obtain ⟨text, same, lexes⟩ := quoted_ok_iff.mp read
        cases same
        rw [if_pos outer]
        exact (lexes_skipBlanks_iff (List.cons_ne_nil _ _)).mp lexes
      · cases read
  · intro lexes
    cases first with
    | true =>
      obtain ⟨quoted, later, found, literal, -⟩ := lexes_text_iff.mp lexes
      have again := (lexes_skipBlanks_iff (List.cons_ne_nil _ _)).mpr lexes
      rw [found] at again
      simp only [readKey, found, ↓reduceIte]
      exact quoted_ok_iff.mpr ⟨key, rfl, again⟩
    | false =>
      obtain ⟨later, found, lexes⟩ := (lexes_mark_iff (by decide)).mp lexes
      simp only [readKey, found, Bool.false_eq_true, ↓reduceIte]
      exact quoted_ok_iff.mpr ⟨key, rfl, lexes⟩

/-! Settings. -/

def Given.Lacks (given : Given) : Change → Prop
  | .kind _ => given.kind = none
  | .policy _ => given.policy = none

def Given.enter (given : Given) : Change → Given
  | .kind value => { given with kind := some value }
  | .policy value => { given with policy := some value }

/-- One setting after another is given, and none that has been given. -/
inductive Given.Takes : Given → List Change → Given → Prop where
  | none {given : Given} : Takes given [] given
  | one {given after : Given} {change : Change} {changes : List Change}
      (lacks : given.Lacks change) (more : (given.enter change).Takes changes after) :
    Takes given (change :: changes) after

theorem Given.lacks_enter_iff {given : Given} {one other : Change} :
    (given.enter one).Lacks other ↔ given.Lacks other ∧ one.field ≠ other.field := by
  cases one <;> cases other <;> simp [enter, Lacks, Change.field]

theorem Given.takes_iff {given after : Given} {changes : List Change} :
    given.Takes changes after ↔ (changes.map Change.field).Nodup ∧
      (∀ change ∈ changes, given.Lacks change) ∧ after = changes.foldl enter given := by
  induction changes generalizing given with
  | nil =>
    constructor
    · rintro ⟨⟩
      exact ⟨List.nodup_nil, List.forall_mem_nil _, rfl⟩
    · rintro ⟨-, -, rfl⟩
      exact .none
  | cons change changes ih =>
    have split : given.Takes (change :: changes) after ↔
        given.Lacks change ∧ (given.enter change).Takes changes after := by
      refine ⟨fun takes => ?_, fun ⟨lacks, more⟩ => .one lacks more⟩
      cases takes with
      | one lacks more => exact ⟨lacks, more⟩
    simp only [split, ih, lacks_enter_iff, List.map_cons, List.nodup_cons, List.mem_map,
      List.forall_mem_cons, List.foldl_cons]
    constructor
    · rintro ⟨lacks, distinct, others, rfl⟩
      refine ⟨⟨?_, distinct⟩, ⟨lacks, fun other member => (others other member).1⟩, rfl⟩
      rintro ⟨other, member, same⟩
      exact (others other member).2 same.symm
    · rintro ⟨⟨fresh, distinct⟩, ⟨lacks, others⟩, rfl⟩
      refine ⟨lacks, distinct, fun other member => ⟨others other member, fun same => ?_⟩, rfl⟩
      exact fresh ⟨other, member, same.symm⟩

theorem Given.config_foldl (given : Given) (changes : List Change) :
    (changes.foldl enter given).config = changes.foldl apply given.config := by
  induction changes generalizing given with
  | nil => rfl
  | cons change changes ih =>
    rw [List.foldl_cons, ih]
    cases change <;> rfl

theorem foldl_apply {changes : List Change} (distinct : (changes.map Change.field).Nodup)
    (config : Configuration) :
    let after := changes.foldl apply config
    (∀ kind, .kind kind ∈ changes → after.messageKind = kind) ∧
      (∀ policy, .policy policy ∈ changes → after.emptyWrite = policy) ∧
      ((∀ kind, .kind kind ∉ changes) → after.messageKind = config.messageKind) ∧
      ((∀ policy, .policy policy ∉ changes) → after.emptyWrite = config.emptyWrite) := by
  induction changes generalizing config with
  | nil => simp
  | cons change changes ih =>
    rw [List.map_cons, List.nodup_cons] at distinct
    obtain ⟨kind, policy, noKind, noPolicy⟩ := ih distinct.2 (config.apply change)
    -- What the first change sets, no later one sets again.
    have fresh (other : Change) (same : other.field = change.field) : other ∉ changes :=
      fun member => distinct.1 (same ▸ List.mem_map_of_mem member)
    refine ⟨fun value member => ?_, fun value member => ?_, fun absent => ?_, fun absent => ?_⟩
    · rcases List.mem_cons.mp member with rfl | later
      · exact noKind fun other => fresh _ rfl
      · exact kind value later
    · rcases List.mem_cons.mp member with rfl | later
      · exact noPolicy fun other => fresh _ rfl
      · exact policy value later
    · refine (noKind fun other later => absent other (List.mem_cons_of_mem _ later)).trans ?_
      cases change with
      | kind value => exact absurd List.mem_cons_self (absent value)
      | policy value => rfl
    · refine (noPolicy fun other later => absent other (List.mem_cons_of_mem _ later)).trans ?_
      cases change with
      | kind value => rfl
      | policy value => exact absurd List.mem_cons_self (absent value)

theorem lexes_member_iff {first : Bool} {key : List Char} {value : List Token}
    {parts : List (List Token)} {closing : List Token} :
    Lexes input (separated first ((.text key :: .mark ':' :: value) :: parts) ++ closing) rest ↔
      ∃ keyed marked valued,
        Lexes input ((if first then [] else [.mark ',']) ++ [.text key]) keyed ∧
        Lexes keyed [.mark ':'] marked ∧ Lexes marked value valued ∧
        Lexes valued (separated false parts ++ closing) rest := by
  have same : separated first ((.text key :: .mark ':' :: value) :: parts) ++ closing =
      ((if first then [] else [.mark ',']) ++ [.text key]) ++
        ([.mark ':'] ++ (value ++ (separated false parts ++ closing))) := by
    simp [separated]
  rw [same, lexes_append_iff]
  simp only [@lexes_append_iff _ _ [.mark ':'], @lexes_append_iff _ _ value, exists_and_left]

theorem readMembers_members {first : Bool} {given after : Given}
    (read : readMembers first given input = .ok (after, rest)) :
    ∃ parts changes, List.Forall₂ Change.Member parts changes ∧ given.Takes changes after ∧
      Lexes input (separated first parts ++ [.mark '\x7d']) rest := by
  -- Of all the ways a member can go, only its end and the two settings do not refuse the text.
  fun_induction readMembers first given input with
  | case2 first given input later ends =>
    cases read
    exact ⟨[], [], .nil, .none, readKey_none_iff.mp ends⟩
  | case6 first given input keyed absent _ marked colon value valued set key ih =>
    obtain ⟨parts, changes, members, takes, lexes⟩ := ih read
    obtain ⟨tokens, stands, set⟩ := readKind_ok_iff.mp set
    refine ⟨_ :: parts, .kind value :: changes, .cons ⟨tokens, rfl, stands⟩ members,
      .one absent takes, lexes_member_iff.mpr ⟨keyed, marked, valued, ?_, ?_, set, lexes⟩⟩
    · exact readKey_some_iff.mp key
    · exact (readMark_ok_iff (by decide)).mp colon
  | case10 first given input keyed absent _ marked colon value valued set key _ ih =>
    obtain ⟨parts, changes, members, takes, lexes⟩ := ih read
    obtain ⟨tokens, stands, set⟩ := readPolicy_ok_iff.mp set
    refine ⟨_ :: parts, .policy value :: changes, .cons ⟨tokens, rfl, stands⟩ members,
      .one absent takes, lexes_member_iff.mpr ⟨keyed, marked, valued, ?_, ?_, set, lexes⟩⟩
    · exact readKey_some_iff.mp key
    · exact (readMark_ok_iff (by decide)).mp colon
  | _ => cases read

theorem Given.Takes.readMembers_ok {given after : Given} {changes : List Change}
    (takes : given.Takes changes after) {first : Bool} {parts : List (List Token)}
    (members : List.Forall₂ Change.Member parts changes)
    (lexes : Lexes input (separated first parts ++ [.mark '\x7d']) rest) :
    readMembers first given input = .ok (after, rest) := by
  -- The induction is on the settings still to be given; each is still lacking when its turn comes.
  induction takes generalizing first input parts with
  | none =>
    cases members
    rw [readMembers, readKey_none_iff.mpr lexes]
  | @one given after change changes lacks takes ih =>
    obtain _ | ⟨⟨tokens, rfl, stands⟩, members⟩ := members
    obtain ⟨keyed, marked, valued, key, colon, set, lexes⟩ := lexes_member_iff.mp lexes
    have key := readKey_some_iff.mpr key
    have colon := (readMark_ok_iff (by decide)).mpr colon
    have later := ih members lexes
    rw [readMembers, key]
    cases change with
    | kind value =>
      have set := readKind_ok_iff.mpr ⟨tokens, stands, set⟩
      dsimp only [Change.field]
      rw [if_pos rfl]
      split
      · rename_i present
        cases lacks.symm.trans present
      · simp only [colon, set]
        exact later
    | policy value =>
      have set := readPolicy_ok_iff.mpr ⟨tokens, stands, set⟩
      dsimp only [Change.field]
      rw [if_neg (by decide), if_pos rfl]
      split
      · rename_i present
        cases lacks.symm.trans present
      · simp only [colon, set]
        exact later

/-! Elements of an array. -/

theorem moreElements_false_iff {first : Bool} :
    moreElements first input = .ok (false, rest) ↔ Lexes input [.mark ']'] rest := by
  simp only [lexes_mark_iff (by decide : ']' ∈ _), lexes_nil_iff, exists_eq_right]
  constructor
  · intro read
    unfold moreElements at read
    split at read
    · rename_i later found
      cases read
      exact found
    · split at read
      · cases read
      · split at read <;> cases read
    · split at read <;> cases read
  · intro found
    simp only [moreElements, found]

theorem moreElements_true {first : Bool} {later : List Char} {tokens : List Token}
    (read : moreElements first input = .ok (true, later)) (some : tokens ≠ [])
    (lexes : Lexes later tokens rest) :
    Lexes input ((if first then [] else [.mark ',']) ++ tokens) rest := by
  unfold moreElements at read
  split at read
  · cases read
  · rename_i behind found
    split at read
    · cases read
    · rename_i inner
      split at read
      · cases read
      · cases read
        rw [if_neg inner]
        exact (lexes_mark_iff (by decide)).mpr ⟨_, found, (lexes_skipBlanks_iff some).mp lexes⟩
  · split at read
    · rename_i outer
      cases read
      rw [if_pos outer]
      exact (lexes_skipBlanks_iff some).mp lexes
    · cases read

theorem Naming.more_elements {first : Bool} {name : List Char} {tokens closing : List Token}
    (naming : Naming name tokens)
    (lexes : Lexes input ((if first then [] else [.mark ',']) ++ (tokens ++ closing)) rest) :
    ∃ later, moreElements first input = .ok (true, later) ∧
      Lexes later (tokens ++ closing) rest := by
  have some : tokens ++ closing ≠ [] := by cases naming <;> simp
  cases first with
  | true =>
    obtain ⟨middle, early, -⟩ := (@lexes_append_iff _ _ tokens _).mp lexes
    obtain ⟨c, later, found, start⟩ := naming.first_char early
    refine ⟨_, ?_, (lexes_skipBlanks_iff some).mpr lexes⟩
    rcases start with rfl | rfl <;> simp [moreElements, found]
  | false =>
    obtain ⟨behind, comma, lexes⟩ := (lexes_mark_iff (by decide)).mp lexes
    obtain ⟨middle, early, -⟩ := (@lexes_append_iff _ _ tokens _).mp lexes
    obtain ⟨c, later, found, start⟩ := naming.first_char early
    refine ⟨_, ?_, (lexes_skipBlanks_iff some).mpr lexes⟩
    rcases start with rfl | rfl <;> simp [moreElements, comma, found]

/-- The settings an array gives, as many as it has elements. -/
theorem readElements_elements {given : Given} (read : readElements input = .ok (given, rest)) :
    ∃ parts changes, List.Forall₂ Change.Valued parts changes ∧
      changes.map Change.field <+: ["message_kind", "empty_write"] ∧
      given = changes.foldl Given.enter {} ∧
      Lexes input (separated true parts ++ [.mark ']']) rest := by
  unfold readElements at read
  obtain ⟨⟨more, first⟩, opening, read⟩ := bind_ok_iff.mp read
  cases more with
  | false =>
    cases read
    exact ⟨[], [], .nil, List.nil_prefix, rfl, moreElements_false_iff.mp opening⟩
  | true =>
    obtain ⟨⟨kind, behind⟩, set, read⟩ := bind_ok_iff.mp read
    obtain ⟨⟨more, second⟩, between, read⟩ := bind_ok_iff.mp read
    obtain ⟨tokens, valued, lexes⟩ := readKind_ok_iff.mp set
    cases more with
    | false =>
      cases read
      have closing := moreElements_false_iff.mp between
      refine ⟨[tokens], [.kind kind], .cons valued .nil, ⟨["empty_write"], rfl⟩, rfl, ?_⟩
      have all := moreElements_true opening (by simp) (lexes.append closing)
      simpa [separated] using all
    | true =>
      obtain ⟨⟨policy, last⟩, set, read⟩ := bind_ok_iff.mp read
      obtain ⟨⟨⟨⟩, after⟩, closing, read⟩ := bind_ok_iff.mp read
      cases read
      obtain ⟨later, also, lexes'⟩ := readPolicy_ok_iff.mp set
      rw [readMark_ok_iff (by decide)] at closing
      refine ⟨[tokens, later], [.kind kind, .policy policy], .cons valued (.cons also .nil),
        List.prefix_rfl, rfl, ?_⟩
      have rear := moreElements_true between (by simp) (lexes'.append closing)
      have all := moreElements_true opening (by simp) (lexes.append rear)
      simpa [separated] using all

theorem readElements_read {parts : List (List Token)} {changes : List Change}
    (elements : List.Forall₂ Change.Valued parts changes)
    (inOrder : changes.map Change.field <+: ["message_kind", "empty_write"])
    (lexes : Lexes input (separated true parts ++ [.mark ']']) rest) :
    readElements input = .ok (changes.foldl Given.enter {}, rest) := by
  unfold readElements
  cases elements with
  | nil => exact bind_ok_iff.mpr ⟨_, moreElements_false_iff.mpr lexes, rfl⟩
  | @cons tokens change parts changes valued elements =>
    cases change with
    | policy value => simp [Change.field] at inOrder
    | kind value =>
      rw [separated, List.append_assoc, List.append_assoc] at lexes
      obtain ⟨first, opening, lexes⟩ := valued.more_elements lexes
      obtain ⟨behind, early, lexes⟩ := lexes_append_iff.mp lexes
      have set := readKind_ok_iff.mpr ⟨tokens, valued, early⟩
      refine bind_ok_iff.mpr ⟨_, opening, bind_ok_iff.mpr ⟨_, set, ?_⟩⟩
      -- One element, or one more behind it; the order leaves no room for a third.
      cases elements with
      | nil => exact bind_ok_iff.mpr ⟨_, moreElements_false_iff.mpr lexes, rfl⟩
      | @cons tokens change parts changes valued elements =>
        cases change with
        | kind value => simp [Change.field] at inOrder
        | policy value =>
          obtain rfl : changes = [] := by
            simpa [Change.field] using inOrder
          obtain ⟨⟩ := elements
          rw [separated, List.append_assoc, List.append_assoc] at lexes
          obtain ⟨second, between, lexes⟩ := valued.more_elements lexes
          obtain ⟨last, late, closing⟩ := lexes_append_iff.mp lexes
          have set := readPolicy_ok_iff.mpr ⟨tokens, valued, late⟩
          rw [separated, List.nil_append, ← readMark_ok_iff (by decide)] at closing
          exact bind_ok_iff.mpr ⟨_, between, bind_ok_iff.mpr ⟨_, set,
            bind_ok_iff.mpr ⟨_, closing, rfl⟩⟩⟩

/-! Whole texts. -/

theorem readConfiguration_document {config : Configuration}
    (read : readConfiguration input = .ok (config, rest)) :
    ∃ tokens changes, Document tokens changes ∧ config = changes.foldl apply {} ∧
      Lexes input tokens rest := by
  unfold readConfiguration at read
  split at read
  · rename_i later found
    cases inside : readMembers true {} later with
    | error refusal =>
      rw [inside] at read
      cases read
    | ok result =>
      rw [inside] at read
      cases read
      obtain ⟨parts, changes, members, takes, lexes⟩ := readMembers_members inside
      obtain ⟨distinct, -, same⟩ := Given.takes_iff.mp takes
      rw [← listed_eq] at lexes
      refine ⟨_, changes, .object members distinct, ?_,
        (lexes_mark_iff (by decide)).mpr ⟨later, found, lexes⟩⟩
      rw [same, Given.config_foldl]
      rfl
  · rename_i later found
    cases inside : readElements later with
    | error refusal =>
      rw [inside] at read
      cases read
    | ok result =>
      rw [inside] at read
      cases read
      obtain ⟨parts, changes, elements, inOrder, same, lexes⟩ := readElements_elements inside
      rw [← listed_eq] at lexes
      refine ⟨_, changes, .array elements inOrder, ?_,
        (lexes_mark_iff (by decide)).mpr ⟨later, found, lexes⟩⟩
      rw [same, Given.config_foldl]
      rfl
  · cases read

theorem Document.readConfiguration_ok {tokens : List Token} {changes : List Change}
    (document : Document tokens changes) (lexes : Lexes input tokens rest) :
    readConfiguration input = .ok (changes.foldl apply {}, rest) := by
  have start : changes.foldl apply {} = (changes.foldl Given.enter {}).config :=
    (Given.config_foldl {} changes).symm
  cases document with
  | object members distinct =>
    obtain ⟨later, found, lexes⟩ := (lexes_mark_iff (by decide)).mp lexes
    rw [listed_eq] at lexes
    have takes : Given.Takes {} changes (changes.foldl Given.enter {}) :=
      Given.takes_iff.mpr ⟨distinct, fun change _ => by cases change <;> rfl, rfl⟩
    simp only [readConfiguration, found, takes.readMembers_ok members lexes, start]
    rfl
  | array elements inOrder =>
    obtain ⟨later, found, lexes⟩ := (lexes_mark_iff (by decide)).mp lexes
    rw [listed_eq] at lexes
    simp only [readConfiguration, found, readElements_read elements inOrder lexes, start]
    rfl

theorem readConfiguration_ok_iff {config : Configuration} :
    readConfiguration input = .ok (config, rest) ↔
      ∃ tokens changes, Document tokens changes ∧ config = changes.foldl apply {} ∧
        Lexes input tokens rest := by
  constructor
  · exact readConfiguration_document
  · rintro ⟨tokens, changes, document, rfl, lexes⟩
    exact document.readConfiguration_ok lexes

theorem whole_ok_iff {Value : Type} {reader : Reader Value} {text : String} {value : Value} :
    whole reader text = .ok value ↔
      ∃ blanks, reader text.toList = .ok (value, blanks) ∧ Blank blanks := by
  unfold whole
  rw [bind_ok_iff]
  constructor
  · rintro ⟨⟨value, blanks⟩, read, done⟩
    dsimp only at done
    split at done
    · rename_i spent
      cases done
      exact ⟨blanks, read, skipBlanks_eq_nil_iff.mp (List.isEmpty_iff.mp spent)⟩
    · cases done
  · rintro ⟨blanks, read, blank⟩
    refine ⟨_, read, ?_⟩
    dsimp only
    rw [skipBlanks_eq_nil_iff.mpr blank]
    rfl

theorem Document.fields_distinct {tokens : List Token} {changes : List Change}
    (document : Document tokens changes) : (changes.map Change.field).Nodup := by
  cases document with
  | object members distinct => exact distinct
  | array elements inOrder => exact inOrder.sublist.nodup (by decide)

theorem Adopts.adopts_unique {one other : Configuration} {changes : List Change}
    (first : one.Adopts changes) (second : other.Adopts changes) : one = other := by
  have kinds : one.messageKind = other.messageKind := by
    by_cases given : ∃ kind, .kind kind ∈ changes
    · obtain ⟨kind, member⟩ := given
      exact (first.kind kind member).trans (second.kind kind member).symm
    · rw [not_exists] at given
      exact (first.noKind given).trans (second.noKind given).symm
  have policies : one.emptyWrite = other.emptyWrite := by
    by_cases given : ∃ policy, .policy policy ∈ changes
    · obtain ⟨policy, member⟩ := given
      exact (first.policy policy member).trans (second.policy policy member).symm
    · rw [not_exists] at given
      exact (first.noPolicy given).trans (second.noPolicy given).symm
  cases one
  cases other
  exact (mk.injEq ..).mpr ⟨kinds, policies⟩

theorem adopts_iff {config : Configuration} {changes : List Change}
    (distinct : (changes.map Change.field).Nodup) :
    config.Adopts changes ↔ config = changes.foldl apply {} := by
  obtain ⟨kind, policy, noKind, noPolicy⟩ := foldl_apply distinct {}
  have adopts : Adopts (changes.foldl apply {}) changes := ⟨kind, policy, noKind, noPolicy⟩
  exact ⟨fun given => given.adopts_unique adopts, fun same => same ▸ adopts⟩

/-- A text is read as a configuration exactly if its tokens, with blanks between them as there may
be and literals spelled in any way, are those of an object whose members have the names of settings,
no name twice, and values of theirs, or those of an array of such values in order. The
configuration has each setting as the text gives it, and the default of one the text does not
give. -/
theorem parse_ok_iff (text : String) (config : Configuration) :
    Configuration.parse text = .ok config ↔
      ∃ changes, Gives text.toList changes ∧ config.Adopts changes := by
  unfold Configuration.parse
  rw [whole_ok_iff]
  constructor
  · rintro ⟨blanks, read, blank⟩
    obtain ⟨tokens, changes, document, same, lexes⟩ := readConfiguration_ok_iff.mp read
    have adopts := (adopts_iff document.fields_distinct).mpr same
    exact ⟨changes, ⟨tokens, blanks, lexes, blank, document⟩, adopts⟩
  · rintro ⟨changes, ⟨tokens, blanks, lexes, blank, document⟩, adopts⟩
    have same := (adopts_iff document.fields_distinct).mp adopts
    exact ⟨blanks, readConfiguration_ok_iff.mpr ⟨tokens, changes, document, same, lexes⟩, blank⟩

end MessageStream.Configuration
