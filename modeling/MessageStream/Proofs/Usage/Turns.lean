import Mathlib.Data.List.Nodup
import Mathlib.Logic.Function.Basic
import MessageStream.Stream.Basic

/-!
Turns. Calls wait for the use of a message in its line, each in at most one line at a time. A call
joins at the end, has the use of the message only once it is first, and keeps its place until it
leaves. So at most one call has the use of a message, however the calls interleave.
-/
namespace MessageStream

theorem push_elsewhere {Item : Type} (items : List Item) (item : Item) {other : Nat}
    (elsewhere : other ≠ items.length) : (items ++ [item])[other]? = items[other]? := by
  rcases Nat.lt_or_gt_of_ne elsewhere with inside | outside
  · exact List.getElem?_append_left inside
  · have beyond : (items ++ [item]).length ≤ other := by
      rw [List.length_append]
      exact outside
    rw [List.getElem?_eq_none beyond, List.getElem?_eq_none (Nat.le_of_lt outside)]

theorem push_cases {Item : Type} {items : List Item} {new item : Item} {place : Nat}
    (there : (items ++ [new])[place]? = some item) :
    (place = items.length ∧ item = new) ∨ (place ≠ items.length ∧ items[place]? = some item) := by
  by_cases last : place = items.length
  · subst last
    rw [List.getElem?_concat_length] at there
    exact .inl ⟨rfl, (Option.some.inj there).symm⟩
  · exact .inr ⟨last, (push_elsewhere items new last).symm.trans there⟩

theorem set_cases {Item : Type} {items : List Item} {become item : Item} {place other : Nat}
    (there : (items.set place become)[other]? = some item) :
    (other = place ∧ item = become) ∨ (other ≠ place ∧ items[other]? = some item) := by
  by_cases same : other = place
  · subst same
    have inside := (List.getElem?_eq_some_iff.mp there).1
    rw [List.length_set] at inside
    rw [List.getElem?_set_self inside] at there
    exact .inl ⟨rfl, (Option.some.inj there).symm⟩
  · exact .inr ⟨same, (List.getElem?_set_ne (Ne.symm same)).symm.trans there⟩

theorem split_append {Item : Type} {first second before after : List Item} {item : Item}
    (split : first ++ second = before ++ item :: after) :
    (∃ rest, first = before ++ item :: rest) ∨
      ∃ front, before = first ++ front ∧ second = front ++ item :: after := by
  rcases List.append_eq_append_iff.mp split with ⟨front, there, same⟩ | ⟨front, there, same⟩
  · exact .inr ⟨front, there, same⟩
  · cases front with
    | nil => exact .inr ⟨[], by simpa using there.symm, same.symm⟩
    | cons head rest =>
      cases same
      exact .inl ⟨rest, there⟩

theorem split_snoc {Item : Type} {items before after : List Item} {last item : Item}
    (split : items ++ [last] = before ++ item :: after) :
    (∃ rest, items = before ++ item :: rest ∧ after = rest ++ [last]) ∨
      (before = items ∧ item = last ∧ after = []) := by
  rcases List.eq_nil_or_concat after with rfl | ⟨rest, final, rfl⟩
  · obtain ⟨same, ends⟩ := List.append_inj' split rfl
    exact .inr ⟨same.symm, (List.singleton_inj.mp ends).symm, rfl⟩
  · rw [List.concat_eq_append, ← List.cons_append, ← List.append_assoc] at split
    obtain ⟨same, ends⟩ := List.append_inj' split rfl
    obtain rfl := List.singleton_inj.mp ends
    exact .inl ⟨rest, same, List.concat_eq_append⟩

/-- Where a call stands: in the line of a message, and whether it has the use of it. -/
abbrev Place := Option (Nat × Bool)

/-- Lines and places agree: everyone stands in the line they are in and in no other, once, and
whoever has the use of a message is first in its line. -/
structure Orderly (lines : Nat → Line) (place : Ticket → Place) : Prop where
  once : ∀ number, (lines number).Nodup
  stands : ∀ number ticket, ticket ∈ lines number ↔ ∃ turn, place ticket = some (number, turn)
  first : ∀ number ticket, place ticket = some (number, true) →
    (lines number).admits ticket = true

/-- How one call changes the lines and its own place. -/
inductive Shift (ticket : Ticket) (lines : Nat → Line) : Place → Place → (Nat → Line) → Prop where
  | stays {place : Place} : Shift ticket lines place place lines
  | joins {number : Nat} {turn : Bool} (alone : turn = true → lines number = []) :
    Shift ticket lines none (some (number, turn))
      (Function.update lines number ((lines number).join ticket))
  | enters {number : Nat} (admitted : (lines number).admits ticket = true) :
    Shift ticket lines (some (number, false)) (some (number, true)) lines
  | leaves {number : Nat} {turn : Bool} :
    Shift ticket lines (some (number, turn)) none
      (Function.update lines number ((lines number).leave ticket))

namespace Line

theorem mem_join_iff (line : Line) (ticket other : Ticket) :
    other ∈ line.join ticket ↔ other ∈ line ∨ other = ticket := by
  unfold join
  split
  · rename_i present
    constructor
    · exact Or.inl
    · rintro (member | same)
      · exact member
      · exact same ▸ present
  · simp

theorem join_nodup (line : Line) (ticket : Ticket) (once : line.Nodup) :
    (line.join ticket).Nodup := by
  unfold join
  split
  · exact once
  · rename_i absent
    rw [← List.concat_eq_append]
    exact once.concat absent

/-- A call that is not first leaves the first where it is. -/
theorem leave_admitted (line : Line) (holder ticket : Ticket) (held : line.admits holder = true)
    (other : holder ≠ ticket) : (line.leave ticket).admits holder = true := by
  cases line with
  | nil => simp [admits] at held
  | cons first rest =>
    have same : first = holder := by simpa [admits] using held
    subst same
    simp [leave, admits, List.erase_cons_tail, other]

end Line

namespace Orderly

variable {lines after : Nat → Line} {place : Ticket → Place} {ticket : Ticket} {next : Place}

theorem not_mem_of_nowhere (orderly : Orderly lines place) (nowhere : place ticket = none)
    (number : Nat) :
    ticket ∉ lines number := by
  intro member
  obtain ⟨turn, stood⟩ := (orderly.stands number ticket).mp member
  rw [nowhere] at stood
  cases stood

/-- Only one call at a time has the use of a message. -/
theorem one_at_a_time (orderly : Orderly lines place) {number : Nat} {one other : Ticket}
    (first : place one = some (number, true)) (second : place other = some (number, true)) :
    one = other :=
  Line.admits_unique (lines number) one other (orderly.first number one first)
    (orderly.first number other second)

theorem after_join (orderly : Orderly lines place) (number : Nat) (turn : Bool)
    (nowhere : place ticket = none) (alone : turn = true → lines number = []) :
    Orderly (Function.update lines number ((lines number).join ticket))
      (Function.update place ticket (some (number, turn))) := by
  constructor
  · intro other
    by_cases here : other = number
    · subst here
      simpa using Line.join_nodup (lines other) ticket (orderly.once other)
    · simpa [here] using orderly.once other
  · intro other caller
    -- Only the call that joins, in the line it joins, is somewhere it was not before.
    by_cases here : other = number <;> by_cases same : caller = ticket
    · subst here same
      simp [Line.mem_join]
    · subst here
      simp [same, Line.mem_join_iff, orderly.stands]
    · subst same
      simp [here, orderly.not_mem_of_nowhere nowhere, Ne.symm here]
    · simp [here, same, orderly.stands]
  · intro other caller held
    by_cases same : caller = ticket
    · subst same
      simp only [Function.update_self, Option.some.injEq, Prod.mk.injEq] at held
      obtain ⟨rfl, turned⟩ := held
      simp [alone turned, Line.join, Line.admits]
    · rw [Function.update_of_ne same] at held
      have before := orderly.first other caller held
      by_cases here : other = number
      · subst here
        simpa using Line.join_admitted (lines other) caller ticket before
      · simpa [here] using before

theorem after_admission (orderly : Orderly lines place) (number : Nat)
    (standing : place ticket = some (number, false))
    (admitted : (lines number).admits ticket = true) :
    Orderly lines (Function.update place ticket (some (number, true))) := by
  constructor
  · exact orderly.once
  · intro other caller
    by_cases same : caller = ticket
    · subst same
      simp [orderly.stands, standing]
    · simp [same, orderly.stands]
  · intro other caller held
    by_cases same : caller = ticket
    · subst same
      simp only [Function.update_self, Option.some.injEq, Prod.mk.injEq] at held
      exact held.1 ▸ admitted
    · rw [Function.update_of_ne same] at held
      exact orderly.first other caller held

theorem after_leave (orderly : Orderly lines place) (number : Nat) (turn : Bool)
    (standing : place ticket = some (number, turn)) :
    Orderly (Function.update lines number ((lines number).leave ticket))
      (Function.update place ticket none) := by
  -- A line holds each call once, so the call that leaves is in no line afterwards.
  have gone (other : Nat) (caller : Ticket) :
      caller ∈ Function.update lines number ((lines number).leave ticket) other ↔
        caller ≠ ticket ∧ caller ∈ lines other := by
    by_cases here : other = number
    · subst here
      simp [Line.leave, (orderly.once other).mem_erase_iff]
    · simp only [Function.update_of_ne here, iff_and_self]
      rintro member rfl
      obtain ⟨turn, stood⟩ := (orderly.stands other caller).mp member
      rw [standing] at stood
      cases stood
      exact here rfl
  constructor
  · intro other
    by_cases here : other = number
    · subst here
      simpa [Line.leave] using (orderly.once other).erase ticket
    · simpa [here] using orderly.once other
  · intro other caller
    rw [gone, orderly.stands]
    by_cases same : caller = ticket
    · subst same
      simp
    · simp [same]
  · intro other caller held
    by_cases same : caller = ticket
    · subst same
      simp at held
    · rw [Function.update_of_ne same] at held
      have before := orderly.first other caller held
      by_cases here : other = number
      · subst here
        simpa using Line.leave_admitted (lines other) caller ticket before same
      · simpa [here] using before

theorem after_shift (orderly : Orderly lines place)
    (shifts : Shift ticket lines (place ticket) next after) :
    Orderly after (Function.update place ticket next) := by
  generalize stood : place ticket = here at shifts
  cases shifts with
  | stays =>
    rw [← stood, Function.update_eq_self]
    exact orderly
  | joins alone => exact orderly.after_join _ _ stood alone
  | enters admitted => exact orderly.after_admission _ stood admitted
  | leaves => exact orderly.after_leave _ _ stood

end Orderly

theorem Shift.admits_other {lines after : Nat → Line} {ticket : Ticket} {place next : Place}
    (shifts : Shift ticket lines place next after) (number : Nat) (other : Ticket)
    (different : other ≠ ticket) (admitted : (lines number).admits other = true) :
    (after number).admits other = true := by
  cases shifts with
  | stays => exact admitted
  | joins alone =>
    rename_i joined turn
    by_cases here : number = joined
    · subst here
      simpa using Line.join_admitted (lines number) other ticket admitted
    · simpa [here] using admitted
  | enters first => exact admitted
  | leaves =>
    rename_i left turn
    by_cases here : number = left
    · subst here
      simpa using Line.leave_admitted (lines number) other ticket admitted different
    · simpa [here] using admitted

section Lines

variable {Content : Type} (cursors : List (Cursor Content))

theorem mem_lineOf {number : Nat} {ticket : Ticket} (member : ticket ∈ lineOf cursors number) :
    number < cursors.length := by
  by_contra outside
  simp [lineOf, List.getElem?_eq_none (Nat.le_of_not_lt outside)] at member

theorem lineOf_found {number : Nat} {cursor : Cursor Content}
    (found : cursors[number]? = some cursor) : lineOf cursors number = cursor.line := by
  simp [lineOf, found]

@[simp] theorem lineOf_content (number : Nat) (content : Content) :
    lineOf (cursors.modify number fun cursor => { cursor with content }) = lineOf cursors := by
  funext other
  simp only [lineOf, List.getElem?_modify]
  cases cursors[other]? with
  | none => rfl
  | some cursor => by_cases here : number = other <;> simp [here]

theorem lineOf_join (number : Nat) (ticket : Ticket) (there : number < cursors.length) :
    lineOf (cursors.modify number fun cursor => { cursor with line := cursor.line.join ticket }) =
      Function.update (lineOf cursors) number ((lineOf cursors number).join ticket) := by
  funext other
  by_cases here : other = number
  · subst here
    simp [lineOf, there]
  · simp [lineOf, here, Ne.symm here]

theorem lineOf_leave (number : Nat) (ticket : Ticket) :
    lineOf (cursors.modify number fun cursor => { cursor with line := cursor.line.leave ticket }) =
      Function.update (lineOf cursors) number ((lineOf cursors number).leave ticket) := by
  funext other
  by_cases here : other = number
  · subst here
    cases found : cursors[other]? <;> simp [lineOf, found, Line.leave]
  · simp [lineOf, here, Ne.symm here]

theorem lineOf_enter (cursor : Cursor Content) :
    lineOf (cursors ++ [cursor]) =
      Function.update (lineOf cursors) cursors.length cursor.line := by
  funext other
  by_cases here : other = cursors.length
  · subst here
    simp [lineOf]
  · simp [lineOf, here, push_elsewhere cursors cursor here]

theorem lineOf_outside {number : Nat} (outside : cursors.length ≤ number) :
    lineOf cursors number = [] := by
  simp [lineOf, List.getElem?_eq_none outside]

end Lines

end MessageStream
