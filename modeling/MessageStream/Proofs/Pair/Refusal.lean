import MessageStream.Proofs.Pair.Conveyance

/-!
When an end of a pair takes no message. To close an end gives up its place among the senders, and
nothing else: its inbox is there until the end itself is given up, and what is sent to it arrives.
-/
namespace MessageStream.Pair

theorem put_cases (side : Side) (message : Message) (world : World) :
    (world.endpoint side.other).alive = true ∧
        put side message world = (world.change side.other fun peer =>
          { peer with inbox := peer.inbox ++ [message] }, .ok ()) ∨
      (world.endpoint side.other).alive = false ∧
        put side message world = (world, .error (peerClosed .brokenPipe)) := by
  cases alive : (world.endpoint side.other).alive with
  | true => exact .inl ⟨rfl, by simp [put, alive]⟩
  | false => exact .inr ⟨rfl, by simp [put, alive]⟩

namespace Exchange

variable {exchange : Exchange} {side : Side}

def refusal (exchange : Exchange) (side : Side) : Option Failure :=
  if .closed side (.ok ()) ∈ exchange.record then some notConnected
  else if .gone side.other ∈ exchange.record then some (peerClosed .brokenPipe)
  else none

theorem refusal_isSome : (exchange.refusal side).isSome ↔
    .closed side (.ok ()) ∈ exchange.record ∨ .gone side.other ∈ exchange.record := by
  unfold refusal
  split
  · simp [*]
  · split <;> simp [*]

def posted (exchange : Exchange) (side : Side) (message : Message) : Exchange :=
  note { exchange with world := exchange.world.change side.other fun peer =>
    { peer with inbox := peer.inbox ++ [message] } } (.sent side message (.ok ()))

theorem Fair.send_eq (fair : exchange.Fair) (there : .gone side ∉ exchange.record)
    (message : Message) :
    exchange.step (.send side message) =
      match exchange.refusal side with
      | some failure => exchange.note (.sent side message (.error failure))
      | none => exchange.posted side message := by
  by_cases closed : .closed side (.ok ()) ∈ exchange.record
  · rw [(fair.closed_refuses closed there).sends, refusal, if_pos closed]
  · have owned : exchange.owned side = true := by
      by_contra gone
      exact there ((fair.gone side).mp (Bool.eq_false_iff.mpr gone))
    have unclosed : (exchange.world.endpoint side).closed = false :=
      Bool.eq_false_iff.mpr fun shut => closed ((fair.closed side).mp shut)
    have asked : exchange.step (.send side message) =
        note { exchange with world := (put side message exchange.world).1 }
          (.sent side message (put side message exchange.world).2) := by
      simp [Exchange.step, owned, Exchange.send, Pair.send, unclosed]
    rw [asked, refusal, if_neg closed]
    obtain ⟨alive, put⟩ | ⟨gone, put⟩ := put_cases side message exchange.world
    · have here : .gone side.other ∉ exchange.record := fun gone =>
        absurd (((fair.gone side.other).mpr gone).symm.trans alive) Bool.false_ne_true
      rw [put, if_neg here]
      rfl
    · rw [put, if_pos ((fair.gone side.other).mp gone)]

theorem Fair.refused_iff (fair : exchange.Fair) (there : .gone side ∉ exchange.record)
    (message : Message) (failure : Failure) :
    exchange.step (.send side message) = exchange.note (.sent side message (.error failure)) ↔
      exchange.refusal side = some failure := by
  rw [fair.send_eq there message]
  constructor
  · intro refused
    have recorded := congrArg Exchange.record refused
    cases reason : exchange.refusal side with
    | some other => simpa [reason, note] using recorded
    | none => simp [reason, posted, note] at recorded
  · intro reason
    rw [reason]

/-- When a send is refused. However a pair has been used, an end that has not been given up refuses
a message exactly where that end has been closed or the other end has been given up, with the one
reason or the other, and puts the message in no inbox. Every other message arrives, behind all
others in the inbox opposite, whether or not the end opposite has been closed. -/
theorem send_refused_iff (actions : List Action) (side : Side) (message : Message)
    (there : .gone side ∉ (run {} actions).record) :
    let exchange := run {} actions
    let sent := exchange.step (.send side message)
    ((∃ failure, sent = exchange.note (.sent side message (.error failure))) ↔
      .closed side (.ok ()) ∈ exchange.record ∨ .gone side.other ∈ exchange.record) ∧
    (∀ failure, sent = exchange.note (.sent side message (.error failure)) →
      exchange.refusal side = some failure) ∧
    (.closed side (.ok ()) ∉ exchange.record → .gone side.other ∉ exchange.record →
      sent = exchange.posted side message) := by
  intro exchange sent
  have fair : exchange.Fair := run_fair actions
  refine ⟨?_, fun failure => (fair.refused_iff there message failure).mp, ?_⟩
  · rw [← refusal_isSome, Option.isSome_iff_exists]
    exact exists_congr (fair.refused_iff there message)
  · intro unclosed here
    have none : exchange.refusal side = none := by
      rw [refusal, if_neg unclosed, if_neg here]
    show exchange.step _ = _
    rw [fair.send_eq there message, none]

/-- A message sent to an end that has been closed is not refused: it arrives there. -/
theorem send_refused_iff_peer_closed :
    .gone .left ∉ (run {} [.close .right]).record ∧
      (run {} [.close .right]).step (.send .left ⟨.text, [7]⟩) =
        (run {} [.close .right]).posted .left ⟨.text, [7]⟩ := by
  have there : .gone .left ∉ (run {} [.close .right]).record := by decide +kernel
  exact ⟨there, (send_refused_iff [.close .right] .left ⟨.text, [7]⟩ there).2.2
    (by decide +kernel) (by decide +kernel)⟩

/-- One end has been closed, and a send on the other answers well and leaves a message in an inbox:
that of the end closed. -/
theorem send_accepted_by_closed_pair :
    .closed .right (.ok ()) ∈ (run {} [.close .right]).record ∧
      (run {} [.close .right, .send .left ⟨.text, [7]⟩]).record =
        [.closed .right (.ok ()), .sent .left ⟨.text, [7]⟩ (.ok ())] ∧
      ((run {} [.close .right, .send .left ⟨.text, [7]⟩]).world.endpoint .right).inbox =
        [⟨.text, [7]⟩] := by
  decide +kernel

end Exchange

end MessageStream.Pair
