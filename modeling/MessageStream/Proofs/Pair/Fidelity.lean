import MessageStream.Proofs.Pair.Talk

/-!
What is read over one end of a pair is what was written over the other. At every moment the bytes
written are the bytes read, those left of the reader's current message and those in its inbox, in
this order. So what has been read is a prefix of what has been written, and where the reader finds
the end, it has read all of it.
-/
namespace MessageStream.Pair

section Writing

variable {side : Side} {usage after : Usage signature}

/-- A stream that only writes and closes, one call at a time, and none of them waits. -/
inductive Speaks (side : Side) (usage : Usage signature) : Prop where
  | free (rests : Rests side usage.stream) (free : usage.free = true) : Speaks side usage
  | begun (rests : Rests side usage.stream) {past : List (Call signature.recorded)}
      {demand : Demand} (calls : usage.calls = past ++ [.begin demand])
      (concluded : past.all Call.isOver = true)
      (sends : ∀ room, demand ≠ .read room) : Speaks side usage

inductive Spoken (side : Side) (before after : Usage signature) : Prop where
  | nothing (written : after.written = before.written) (shut : after.shut = before.shut)
      (closed : after.stream.state.isClosed = before.stream.state.isClosed)
      (world : after.stream.world.inner = before.stream.world.inner)
  | delivered (data : Bytes) (inbox : List Message)
      (written : after.written = before.written ++ data)
      (shut : after.shut = before.shut) (standing : before.stream.state.isClosed = false)
      (closed : after.stream.state.isClosed = false)
      (world : after.stream.world.inner =
        before.stream.world.inner.change side.other fun peer => { peer with inbox })
      (arrived : inbox.flatMap (·.payload) = before.stream.world.inner.arriving side.other ++ data)
  | shut (written : after.written = before.written) (shut : after.shut = true)
      (closed : after.stream.state.isClosed = true)
      (other : after.stream.world.inner.endpoint side.other =
        if before.stream.state.isClosed then before.stream.world.inner.endpoint side.other
        else { before.stream.world.inner.endpoint side.other with
          senders := (before.stream.world.inner.endpoint side.other).senders - 1 })

theorem Speaks.after_begin (speaks : Speaks side usage) (demand : Demand)
    (free : usage.free = true) (sends : ∀ room, demand ≠ .read room) :
    Speaks side (usage.step (transport side) (.begin demand)) := by
  have rests : Rests side usage.stream := by
    cases speaks with
    | free rests _ => exact rests
    | begun rests calls concluded sends => exact rests
  exact .begun rests rfl free sends

theorem Speaks.after_poll (speaks : Speaks side usage)
    (alive : (usage.stream.world.inner.endpoint side.other).alive = true) :
    Speaks side (usage.step (transport side) (.poll usage.last)) ∧
      Spoken side usage (usage.step (transport side) (.poll usage.last)) := by
  -- Every poll of the only writer answers its call, so afterwards the stream is free again.
  cases speaks with
  | free rests free =>
    have same : usage.step (transport side) (.poll usage.last) = usage :=
      Usage.onCall_free _ (Call.poll_over _ _) usage free usage.last
    rw [same]
    exact ⟨.free rests free, .nothing rfl rfl rfl rfl⟩
  | begun rests calls concluded sends =>
    rename_i past demand
    have overAfter (call : Call signature.recorded) (ended : call.isOver = true) :
        (past ++ [call]).all Call.isOver = true := by
      simp [concluded, ended]
    cases demand with
    | read room => exact absurd rfl (sends room)
    | write data =>
      have sent := write_poll data usage.last rests alive
      rcases result : (Stream.write (transport side).recorded data).poll usage.last none
        usage.stream with ⟨stream, progress⟩
      rw [result] at sent
      have polled : usage.step (transport side) (.poll usage.last) =
          ⟨stream, past ++ [.write data (.ofProgress progress)]⟩ := by
        rw [Usage.step, Usage.onCall_last _ calls]
        simp [Call.begin, Call.poll, Phase.poll, result]
      rw [polled]
      cases sent with
      | refused rested closed same =>
        refine ⟨.free rested (overAfter _ rfl), .nothing ?_ ?_ ?_ same⟩
        · simp [Usage.written, calls, Call.begin, Call.written, Phase.ofProgress]
        · simp [Usage.shut, calls, Call.begin, Call.shut]
        · rw [← rests.connected, ← rested.connected, same]
      | delivered inbox rested standing world arrived =>
        refine ⟨.free rested (overAfter _ rfl),
          .delivered data inbox ?_ ?_ ?_ standing world arrived⟩
        · simp [Usage.written, calls, Call.begin, Call.written, Phase.ofProgress]
        · simp [Usage.shut, calls, Call.begin, Call.shut]
        · rw [← rests.connected, ← standing, ← rested.connected, world]
          simp
    | close =>
      have shut := close_poll usage.last rests
      rcases result : (Stream.close (transport side).recorded).poll usage.last none
        usage.stream with ⟨stream, progress⟩
      rw [result] at shut
      obtain ⟨rfl, rested, closed, other⟩ := shut
      have polled : usage.step (transport side) (.poll usage.last) =
          ⟨stream, past ++ [.close (.answered (.ok ()))]⟩ := by
        rw [Usage.step, Usage.onCall_last _ calls]
        simp [Call.begin, Call.poll, Phase.poll, Phase.ofProgress, result]
      rw [polled]
      refine ⟨.free rested (overAfter _ rfl), .shut ?_ ?_ closed ?_⟩
      · simp [Usage.written, calls, Call.begin, Call.written]
      · simp [Usage.shut, Call.shut]
      · rw [other, rests.connected]

theorem Speaks.after_change (speaks : Speaks side usage) (become : World → World)
    (closed : ((become usage.stream.world.inner).endpoint side).closed =
      (usage.stream.world.inner.endpoint side).closed) :
    Speaks side (usage.step (transport side) (.change become)) := by
  have moved (rests : Rests side usage.stream) :
      Rests side (usage.step (transport side) (.change become)).stream :=
    ⟨⟨rests.enumerated.readers, rests.enumerated.writers, rests.enumerated.inbound,
      rests.enumerated.outbound⟩, rests.vacant, rests.unborrowed, closed.trans rests.connected⟩
  cases speaks with
  | free rests free => exact .free (moved rests) free
  | begun rests calls concluded sends => exact .begun (moved rests) calls concluded sends

end Writing

section Reading

variable {side : Side} {usage : Usage signature} {bytes : Bytes}

/-- A stream that only reads, one call at a time, and what its current message still holds. -/
inductive Listens (side : Side) (usage : Usage signature) : Bytes → Prop where
  | free {bytes : Bytes} (current : Current usage.stream bytes)
      (line : (usage.stream.world.inner.endpoint side).line = []) (free : usage.free = true) :
    Listens side usage bytes
  | begun {bytes : Bytes} (current : Current usage.stream bytes)
      (line : (usage.stream.world.inner.endpoint side).line = [])
      {past : List (Call signature.recorded)} {room : Nat}
      (calls : usage.calls = past ++ [.read room .fresh])
      (concluded : past.all Call.isOver = true) : Listens side usage bytes
  | waits {past : List (Call signature.recorded)} {room : Nat}
      (stands : Stands side room usage.last usage.stream (.opening ()) [])
      (calls : usage.calls = past ++ [.read room (.waiting (.opening ()))])
      (concluded : past.all Call.isOver = true) : Listens side usage []

/-- What a poll or a drop of a stream's last read has done. No byte is lost, and the read fails only
at the end. -/
structure Listened (side : Side) (before after : Usage signature) (bytes : Bytes) : Prop where
  connected : Connected side after.stream
  receives : World.Receives side before.stream.world.inner after.stream.world.inner
  listens : ∃ data left, Listens side after left ∧ after.received = before.received ++ data ∧
    bytes ++ before.stream.world.inner.arriving side =
      data ++ (left ++ after.stream.world.inner.arriving side)
  failures : ∀ call ∈ after.calls, ∀ error, call.failure? = some error → call ∈ before.calls ∨
    error = .transport 0 (peerClosed .unexpectedEof) ∧
      (before.stream.world.inner.endpoint side).senders = 0 ∧
      bytes ++ before.stream.world.inner.arriving side = []

theorem read_polled_last {past : List (Call signature.recorded)} {room : Nat}
    {phase : Phase (ReadStage signature.recorded) ReadOutcome}
    {stage : ReadStage signature.recorded} (next : phase.next? .start = some stage)
    (calls : usage.calls = past ++ [.read room phase]) (connected : Connected side usage.stream)
    (stands : Stands side room usage.last usage.stream stage bytes) :
    ∃ progress, (usage.step (transport side) (.poll usage.last)).calls =
        past ++ [.read room (.ofProgress progress)] ∧
      Over side room usage.last usage.stream.world.inner
        (bytes ++ usage.stream.world.inner.arriving side) progress
        (usage.step (transport side) (.poll usage.last)).stream := by
  rw [Usage.step, Usage.onCall_last _ calls]
  cases phase with
  | answered outcome => cases next
  | dropped stage => cases next
  | fresh =>
    cases next
    exact ⟨_, rfl, read_poll room usage.last none connected stands⟩
  | waiting later =>
    cases next
    exact ⟨_, rfl, read_poll room usage.last (some stage) connected stands⟩

theorem listens_on {past : List (Call signature.recorded)} {room : Nat}
    {phase : Phase (ReadStage signature.recorded) ReadOutcome}
    {stage : ReadStage signature.recorded} (next : phase.next? .start = some stage)
    (calls : usage.calls = past ++ [.read room phase]) (concluded : past.all Call.isOver = true)
    (connected : Connected side usage.stream)
    (stands : Stands side room usage.last usage.stream stage bytes) :
    Listened side usage (usage.step (transport side) (.poll usage.last)) bytes := by
  obtain ⟨progress, polled, after, receives, result⟩ :=
    read_polled_last next calls connected stands
  generalize usage.step (transport side) (.poll usage.last) = later at *
  have before : usage.received = past.flatMap Call.received := by
    cases phase <;> cases next <;> simp [Usage.received, calls, Call.received]
  have settled {outcome : ReadOutcome}
      (answered : later.calls = past ++ [.read room (.answered outcome)]) : later.free = true := by
    rw [Usage.free, answered]
    simp [concluded, Call.isOver, Phase.isOver]
  have older {call last : Call signature.recorded} {error : StreamError}
      (member : call ∈ past ++ [last]) (fails : call.failure? = some error) :
      call ∈ usage.calls ∨ call = last := by
    rcases List.mem_append.mp member with old | new
    · exact .inl (calls ▸ List.mem_append_left _ old)
    · exact .inr (List.mem_singleton.mp new)
  refine ⟨after, receives, ?_, ?_⟩
  · cases result with
    | waits vacant waiting roomy empty nothing linked =>
      have same : later.last = usage.last := by simp [Usage.last, calls, polled]
      refine ⟨[], [], .waits (same ▸ .opening vacant waiting roomy) polled concluded, ?_, ?_⟩
      · rw [before]
        simp [Usage.received, polled, Call.received, Phase.ofProgress]
      · rw [nothing]
        simp [World.arriving, empty]
    | fills left current free taken gained =>
      refine ⟨_, left, .free current free (settled polled), ?_, taken⟩
      rw [before]
      simp [Usage.received, polled, Call.received, Phase.ofProgress, ReadOutcome.data]
    | hangsUp vacant free empty nothing hung =>
      refine ⟨[], [], .free (.vacant vacant) free (settled polled), ?_, ?_⟩
      · rw [before]
        simp [Usage.received, polled, Call.received, Phase.ofProgress, ReadOutcome.data]
      · rw [nothing]
        simp [World.arriving, empty]
  -- An older read that failed is none of this poll; this one fails only where nothing is left.
  · intro call member error fails
    rw [polled] at member
    rcases older member fails with old | rfl
    · exact .inl old
    · cases result with
      | waits vacant waiting roomy empty nothing linked => cases fails
      | fills left current free taken gained => cases fails
      | hangsUp vacant free empty nothing hung =>
        cases fails
        exact .inr ⟨rfl, receives.senders ▸ hung, nothing⟩

def Answer (room : Nat) (outcome : ReadOutcome) : Prop :=
  outcome = .broken [] (peerClosed .unexpectedEof) ∨
    ∃ data, outcome = .filled data ∧ (0 < room → data ≠ [])

theorem read_answered_after_hanging_up {past : List (Call signature.recorded)} {room : Nat}
    {phase : Phase (ReadStage signature.recorded) ReadOutcome}
    {stage : ReadStage signature.recorded} (next : phase.next? .start = some stage)
    (calls : usage.calls = past ++ [.read room phase]) (connected : Connected side usage.stream)
    (stands : Stands side room usage.last usage.stream stage bytes)
    (hung : (usage.stream.world.inner.endpoint side).senders = 0) :
    ∃ outcome, (usage.step (transport side) (.poll usage.last)).calls =
      past ++ [.read room (.answered outcome)] ∧ Answer room outcome := by
  obtain ⟨progress, polled, after, receives, result⟩ :=
    read_polled_last next calls connected stands
  generalize usage.step (transport side) (.poll usage.last) = later at *
  cases result with
  | waits vacant waiting roomy empty nothing linked =>
    exact absurd (receives.senders.trans hung) linked
  | fills left current free taken gained => exact ⟨_, polled, .inr ⟨_, rfl, gained⟩⟩
  | hangsUp vacant free empty nothing hung => exact ⟨_, polled, .inl rfl⟩

theorem Listens.answers_or_rests (listens : Listens side usage bytes)
    (connected : Connected side usage.stream)
    (hung : (usage.stream.world.inner.endpoint side).senders = 0) :
    usage.free = true ∧ usage.step (transport side) (.poll usage.last) = usage ∨
    ∃ past room phase outcome, usage.calls = past ++ [.read room phase] ∧
      past.all Call.isOver = true ∧ (usage.step (transport side) (.poll usage.last)).calls =
        past ++ [.read room (.answered outcome)] ∧ Answer room outcome := by
  cases listens with
  | free current line free =>
    exact .inl ⟨free, Usage.onCall_free _ (Call.poll_over _ _) usage free usage.last⟩
  | begun current line calls concluded =>
    obtain ⟨outcome, polled, answer⟩ :=
      read_answered_after_hanging_up rfl calls connected (.start current line) hung
    exact .inr ⟨_, _, _, outcome, calls, concluded, polled, answer⟩
  | waits stands calls concluded =>
    obtain ⟨outcome, polled, answer⟩ :=
      read_answered_after_hanging_up rfl calls connected stands hung
    exact .inr ⟨_, _, _, outcome, calls, concluded, polled, answer⟩

theorem Listened.refl (connected : Connected side usage.stream)
    (listens : Listens side usage bytes) : Listened side usage usage bytes :=
  ⟨connected, .refl side _, ⟨[], bytes, listens, by simp, rfl⟩, fun _ member _ _ => .inl member⟩

theorem Listens.after_begin (listens : Listens side usage bytes)
    (connected : Connected side usage.stream)
    (free : usage.free = true) (room : Nat) :
    Listened side usage (usage.step (transport side) (.begin (.read room))) bytes := by
  -- A read is begun only where the one before has ended.
  have unfinished {past : List (Call signature.recorded)} {call : Call signature.recorded}
      (calls : usage.calls = past ++ [call]) (going : call.isOver = false) : False := by
    simp [Usage.free, calls, going] at free
  cases listens with
  | begun current line calls concluded => exact (unfinished calls rfl).elim
  | waits stands calls concluded => exact (unfinished calls rfl).elim
  | free current line _ =>
    refine ⟨connected, .refl side _, ⟨[], bytes, .begun current line rfl free, ?_, rfl⟩, ?_⟩
    · simp [Usage.received, Usage.step, Call.begin, Call.received]
    · intro call member error fails
      rcases List.mem_append.mp member with old | new
      · exact .inl old
      · cases List.mem_singleton.mp new
        cases fails

theorem Listens.after_poll (listens : Listens side usage bytes)
    (connected : Connected side usage.stream) :
    Listened side usage (usage.step (transport side) (.poll usage.last)) bytes := by
  cases listens with
  | free current line free =>
    have same : usage.step (transport side) (.poll usage.last) = usage :=
      Usage.onCall_free _ (Call.poll_over _ _) usage free usage.last
    rw [same]
    exact .refl connected (.free current line free)
  | begun current line calls concluded =>
    exact listens_on rfl calls concluded connected (.start current line)
  | waits stands calls concluded => exact listens_on rfl calls concluded connected stands

theorem given_up {past : List (Call signature.recorded)} {room : Nat}
    {phase : Phase (ReadStage signature.recorded) ReadOutcome}
    {stage : Option (ReadStage signature.recorded)} {stream : End} {later : Usage signature}
    (calls : usage.calls = past ++ [.read room phase]) (concluded : past.all Call.isOver = true)
    (unread : (Call.read room phase : Call signature.recorded).received = [])
    (connected : Connected side stream)
    (receives : World.Receives side usage.stream.world.inner stream.world.inner)
    (dropped : later = ⟨stream, past ++ [.read room (.dropped stage)]⟩)
    (arriving : stream.world.inner.arriving side = usage.stream.world.inner.arriving side)
    (current : Current stream bytes) (line : (stream.world.inner.endpoint side).line = []) :
    Listened side usage later bytes := by
  subst dropped
  refine ⟨connected, receives, ⟨[], bytes, .free current line ?_, ?_, ?_⟩, ?_⟩
  · simp [Usage.free, concluded, Call.isOver, Phase.isOver]
  · simp [Usage.received, calls, unread]
    rfl
  · rw [arriving]
    rfl
  · intro call member error fails
    rcases List.mem_append.mp member with old | new
    · exact .inl (calls ▸ List.mem_append_left _ old)
    · cases List.mem_singleton.mp new
      cases fails

theorem Listens.after_drop (listens : Listens side usage bytes)
    (connected : Connected side usage.stream) :
    Listened side usage (usage.step (transport side) (.drop usage.last)) bytes := by
  cases listens with
  | free current line free =>
    have same : usage.step (transport side) (.drop usage.last) = usage :=
      Usage.onCall_free _ (Call.drop_over _ _) usage free usage.last
    rw [same]
    exact .refl connected (.free current line free)
  | begun current line calls concluded =>
    rename_i past room
    have dropped : usage.step (transport side) (.drop usage.last) =
        ⟨usage.stream, past ++ [.read room (.dropped none)]⟩ := by
      rw [Usage.step, Usage.onCall_last _ calls]
      rfl
    exact given_up calls concluded rfl connected (.refl side _) dropped rfl current line
  | waits stands calls concluded =>
    rename_i past room
    have dropped : usage.step (transport side) (.drop usage.last) =
        ⟨(Stream.read (transport side).recorded room).cancel usage.last (.opening ()) usage.stream,
          past ++ [.read room (.dropped (some (.opening ())))]⟩ := by
      rw [Usage.step, Usage.onCall_last _ calls]
      rfl
    obtain ⟨after, receives, arriving, rested⟩ := read_cancel connected stands
    cases rested with
    | start current line =>
      exact given_up calls concluded rfl after receives dropped arriving current line

theorem Connected.after_change (connected : Connected side usage.stream) (become : World → World)
    (closed : ((become usage.stream.world.inner).endpoint side).closed =
      (usage.stream.world.inner.endpoint side).closed) :
    Connected side (usage.step (transport side) (.change become)).stream where
  enumerated := ⟨connected.enumerated.readers, connected.enumerated.writers,
    connected.enumerated.inbound, connected.enumerated.outbound⟩
  standing := connected.standing
  connected := closed.trans connected.connected

theorem Listens.after_change (listens : Listens side usage bytes) (become : World → World)
    (same : ((become usage.stream.world.inner).endpoint side).line =
      (usage.stream.world.inner.endpoint side).line) :
    Listens side (usage.step (transport side) (.change become)) bytes := by
  have moved {left : Bytes} (current : Current usage.stream left) :
      Current (usage.step (transport side) (.change become)).stream left := by
    cases current with
    | vacant vacant => exact .vacant vacant
    | message current found => exact .message current found
  cases listens with
  | free current line free => exact .free (moved current) (same.trans line) free
  | begun current line calls concluded =>
    exact .begun (moved current) (same.trans line) calls concluded
  | waits stands calls concluded =>
    cases stands with
    | opening vacant waiting roomy =>
      exact .waits (.opening vacant (same.trans waiting) roomy) calls concluded

end Reading

namespace Talk

variable {side : Side} {talk : Talk}

/-- What holds of a talk at every moment: the bytes written are those read, those left of the
reader's message and those in its inbox; its inbox has a sender until the writer has closed; and a
read has failed only after that, at the end of all that was written. -/
structure Flows (side : Side) (talk : Talk) : Prop where
  world : talk.reading.stream.world.inner = talk.writing.stream.world.inner
  speaks : Speaks side talk.writing
  connected : Connected side.other talk.reading.stream
  listens : ∃ left, Listens side.other talk.reading left ∧
    talk.writing.written = talk.reading.received ++
      (left ++ talk.reading.stream.world.inner.arriving side.other)
  alive : (talk.reading.stream.world.inner.endpoint side.other).alive = true
  senders : (talk.reading.stream.world.inner.endpoint side.other).senders =
    if talk.writing.stream.state.isClosed then 0 else 1
  shut : talk.writing.shut = talk.writing.stream.state.isClosed
  failures : ∀ call ∈ talk.reading.calls, ∀ error, call.failure? = some error →
    error = .transport 0 (peerClosed .unexpectedEof) ∧ talk.writing.shut = true ∧
      talk.reading.received = talk.writing.written

theorem start_flows (side : Side) (near far : Configuration) : Flows side (start near far) where
  world := rfl
  speaks := .free ⟨⟨rfl, rfl, nofun, nofun⟩, rfl, rfl, by cases side <;> rfl⟩ rfl
  connected := ⟨⟨rfl, rfl, nofun, nofun⟩, rfl, by cases side <;> rfl⟩
  listens := ⟨[], .free (.vacant rfl) (by cases side <;> rfl) rfl, by cases side <;> rfl⟩
  alive := by cases side <;> rfl
  senders := by cases side <;> rfl
  shut := rfl
  failures := List.forall_mem_nil _

/-- The writing side has put some bytes, or none, behind those that have arrived for the reader, and
has left the reader's end as it was in everything else but its senders. -/
theorem Flows.of_writing (flows : Flows side talk) {writing : Usage signature}
    (speaks : Speaks side writing) {data : Bytes}
    (line : (writing.stream.world.inner.endpoint side.other).line =
      (talk.writing.stream.world.inner.endpoint side.other).line)
    (closed : (writing.stream.world.inner.endpoint side.other).closed =
      (talk.writing.stream.world.inner.endpoint side.other).closed)
    (alive : (writing.stream.world.inner.endpoint side.other).alive =
      (talk.writing.stream.world.inner.endpoint side.other).alive)
    (written : writing.written = talk.writing.written ++ data)
    (arrived : writing.stream.world.inner.arriving side.other =
      talk.writing.stream.world.inner.arriving side.other ++ data)
    (senders : (writing.stream.world.inner.endpoint side.other).senders =
      if writing.stream.state.isClosed then 0 else 1)
    (shut : writing.shut = writing.stream.state.isClosed)
    (past : talk.writing.shut = true → writing.shut = true ∧ data = []) :
    Flows side ⟨writing, talk.reading.step (transport side.other)
      (.change fun _ => writing.stream.world.inner)⟩ := by
  obtain ⟨left, listens, whole⟩ := flows.listens
  rw [← flows.world] at line closed alive arrived
  have heard := listens.after_change (fun _ => writing.stream.world.inner) line
  refine ⟨rfl, speaks, flows.connected.after_change _ closed, ⟨left, heard, ?_⟩,
    alive.trans flows.alive, senders, shut, ?_⟩
  · show writing.written = talk.reading.received ++
      (left ++ writing.stream.world.inner.arriving side.other)
    rw [written, whole, arrived]
    simp only [List.append_assoc]
  · intro call member error fails
    obtain ⟨same, closing, all⟩ := flows.failures call member error fails
    obtain ⟨later, none⟩ := past closing
    exact ⟨same, later, all.trans (by rw [written, none, List.append_nil])⟩

theorem Flows.after_writing (flows : Flows side talk) {writing : Usage signature}
    (speaks : Speaks side writing) (spoken : Spoken side talk.writing writing) :
    Flows side ⟨writing, talk.reading.step (transport side.other)
      (.change fun _ => writing.stream.world.inner)⟩ := by
  have before : (talk.writing.stream.world.inner.endpoint side.other).senders =
      if talk.writing.stream.state.isClosed then 0 else 1 := flows.world ▸ flows.senders
  cases spoken with
  | nothing written shut closed world =>
    refine flows.of_writing speaks (by rw [world]) (by rw [world]) (by rw [world])
      (written.trans (List.append_nil _).symm) (by rw [world, List.append_nil]) ?_
      (shut.trans (flows.shut.trans closed.symm)) fun past => ⟨shut.trans past, rfl⟩
    rw [world, closed, before]
  | delivered data inbox written shut standing closed world arrived =>
    refine flows.of_writing speaks (by simp [world]) (by simp [world]) (by simp [world]) written
      (by simp [World.arriving, world, arrived]) ?_
      (shut.trans (flows.shut.trans (standing.trans closed.symm))) ?_
    · simp [world, closed, before, standing]
    · -- A writer that has closed delivers nothing more.
      intro past
      rw [flows.shut, standing] at past
      cases past
  | shut written shut closed other =>
    -- The first close takes the one sender there was; a later one finds it gone.
    by_cases already : talk.writing.stream.state.isClosed = true
    · rw [if_pos already] at other
      exact flows.of_writing speaks (by rw [other]) (by rw [other]) (by rw [other])
        (written.trans (List.append_nil _).symm) (by simp [World.arriving, other])
        (by simp [other, closed, before, already]) (shut.trans closed.symm) fun _ => ⟨shut, rfl⟩
    · rw [if_neg already] at other
      exact flows.of_writing speaks (by rw [other]) (by rw [other]) (by rw [other])
        (written.trans (List.append_nil _).symm) (by simp [World.arriving, other])
        (by simp [other, closed, before, already]) (shut.trans closed.symm) fun _ => ⟨shut, rfl⟩

theorem Flows.after_reading (flows : Flows side talk) {reading : Usage signature}
    (listened : ∀ left, Listens side.other talk.reading left →
      Listened side.other talk.reading reading left) :
    Flows side ⟨talk.writing.step (transport side)
      (.change fun _ => reading.stream.world.inner), reading⟩ := by
  obtain ⟨left, listens, whole⟩ := flows.listens
  obtain ⟨connected, receives, ⟨data, rest, later, more, kept⟩, failures⟩ := listened left listens
  have other : (reading.stream.world.inner.endpoint side).closed =
      (talk.writing.stream.world.inner.endpoint side).closed := by
    have same := receives.other
    rw [Side.other_other] at same
    rw [same, flows.world]
  -- Where the reader has found the end, there was nothing more to hear.
  have ended (nothing : left ++ talk.reading.stream.world.inner.arriving side.other = []) :
      reading.received = talk.writing.written := by
    rw [nothing] at whole kept
    rw [whole, more, (List.append_eq_nil_iff.mp kept.symm).1]
  have speaks := flows.speaks.after_change (fun _ => reading.stream.world.inner) other
  refine ⟨rfl, speaks, connected, ⟨rest, later, ?_⟩, ?_, ?_, flows.shut, ?_⟩
  · show talk.writing.written = _
    rw [whole, more, kept, List.append_assoc]
  · exact receives.alive.trans flows.alive
  · exact receives.senders.trans flows.senders
  · intro call member error fails
    rcases failures call member error fails with old | ⟨same, hung, nothing⟩
    · obtain ⟨same, closing, all⟩ := flows.failures call old error fails
      rw [all] at whole
      exact ⟨same, closing, ended (List.self_eq_append_right.mp whole)⟩
    · refine ⟨same, ?_, ended nothing⟩
      have senders := flows.senders
      rw [hung] at senders
      have closed : talk.writing.stream.state.isClosed = true := by
        by_contra standing
        simp [standing] at senders
      exact flows.shut.trans closed

theorem Flows.after_step (flows : Flows side talk) (action : Action) :
    Flows side (talk.step side action) := by
  have begins (demand : Demand) (free : talk.writing.free = true)
      (sends : ∀ room, demand ≠ .read room) :
      Flows side (talk.writerDoes side (.begin demand)) := by
    refine flows.after_writing (flows.speaks.after_begin demand free sends) (.nothing ?_ ?_ rfl rfl)
    · cases demand <;> simp [Usage.written, Usage.step, Call.begin, Call.written]
    · cases demand <;> simp [Usage.shut, Usage.step, Call.begin, Call.shut]
  cases action with
  | write data =>
    simp only [Talk.step]
    split
    · rename_i free
      exact begins (.write data) free (by rintro _ ⟨⟩)
    · exact flows
  | close =>
    simp only [Talk.step]
    split
    · rename_i free
      exact begins .close free (by rintro _ ⟨⟩)
    · exact flows
  | pollWriter =>
    have polled := flows.speaks.after_poll (flows.world ▸ flows.alive)
    exact flows.after_writing polled.1 polled.2
  | read room =>
    simp only [Talk.step]
    split
    · rename_i free
      exact flows.after_reading fun left listens => listens.after_begin flows.connected free room
    · exact flows
  | pollReader => exact flows.after_reading fun left listens => listens.after_poll flows.connected
  | dropReader => exact flows.after_reading fun left listens => listens.after_drop flows.connected

theorem Flows.after_run (flows : Flows side talk) (actions : List Action) :
    Flows side (talk.run side actions) := by
  induction actions generalizing talk with
  | nil => exact flows
  | cons action rest ih => exact ih (flows.after_step action)

def Ends (talk : Talk) : Prop :=
  ∃ past room, talk.reading.calls =
      past ++ [.read room (.answered (.broken [] (peerClosed .unexpectedEof)))] ∧
    ∀ call ∈ past, call.failure? = none

def unread (talk : Talk) : Nat :=
  talk.writing.written.length - talk.reading.received.length

theorem Flows.no_senders_after_close (flows : Flows side talk) (shut : talk.writing.shut = true) :
    (talk.reading.stream.world.inner.endpoint side.other).senders = 0 := by
  rw [flows.senders, ← flows.shut, shut]
  rfl

theorem Flows.read_answered (flows : Flows side talk) (shut : talk.writing.shut = true)
    (free : talk.reading.free = true) (room : Nat) :
    ∃ outcome, (talk.run side (reads [room])).reading.calls =
      talk.reading.calls ++ [.read room (.answered outcome)] ∧ Answer room outcome := by
  have next := flows.after_step (.read room)
  have begun : (talk.step side (.read room)).reading.calls =
      talk.reading.calls ++ [.read room .fresh] := by
    simp [Talk.step, free, readerDoes, Usage.step, Call.begin]
  have still : (talk.step side (.read room)).writing.shut = true := by
    simpa [Talk.step, free, readerDoes, Usage.step, Usage.shut] using shut
  obtain ⟨left, listens, -⟩ := next.listens
  rcases listens.answers_or_rests next.connected (next.no_senders_after_close still) with
    ⟨idle, -⟩ | ⟨past, other, phase, outcome, calls, concluded, polled, answer⟩
  · simp [Usage.free, begun, Call.isOver, Phase.isOver] at idle
  · obtain ⟨rfl, same⟩ := List.append_inj' (begun.symm.trans calls) rfl
    cases same
    exact ⟨outcome, polled, answer⟩

theorem reads_written (talk : Talk) (rooms : List Nat) :
    (talk.run side (reads rooms)).writing.calls = talk.writing.calls := by
  induction rooms generalizing talk with
  | nil => rfl
  | cons room rest ih =>
    refine (ih ((talk.step side (.read room)).step side .pollReader)).trans ?_
    show (talk.step side (.read room)).writing.calls = _
    simp only [Talk.step]
    split <;> rfl

theorem Flows.read_on (flows : Flows side talk) (shut : talk.writing.shut = true)
    (free : talk.reading.free = true) (unfailed : ∀ call ∈ talk.reading.calls, call.failure? = none)
    (room : Nat) (roomy : 0 < room) :
    (talk.run side (reads [room])).Ends ∨
      (talk.run side (reads [room])).reading.free = true ∧
      (∀ call ∈ (talk.run side (reads [room])).reading.calls, call.failure? = none) ∧
      (talk.run side (reads [room])).unread < talk.unread := by
  obtain ⟨outcome, calls, answer⟩ := flows.read_answered shut free room
  rcases answer with rfl | ⟨data, rfl, gained⟩
  · exact .inl ⟨_, _, calls, unfailed⟩
  · right
    refine ⟨?_, ?_, ?_⟩
    · have concluded : talk.reading.calls.all Call.isOver = true := free
      simp [Usage.free, calls, concluded, Call.isOver, Phase.isOver]
    · intro call member
      rw [calls] at member
      rcases List.mem_append.mp member with old | new
      · exact unfailed call old
      · cases List.mem_singleton.mp new
        rfl
    · obtain ⟨left, -, whole⟩ := (flows.after_run (reads [room])).listens
      have written : (talk.run side (reads [room])).writing.written = talk.writing.written := by
        simp only [Usage.written, reads_written]
      have received : (talk.run side (reads [room])).reading.received =
          talk.reading.received ++ data := by
        simp [Usage.received, calls, Call.received, ReadOutcome.data]
      have some : 0 < data.length := List.length_pos_iff.mpr (gained roomy)
      have lengths := congrArg List.length whole
      rw [written, received] at lengths
      simp only [List.length_append] at lengths
      simp only [unread, written, received, List.length_append]
      omega

/-- Once the writer has closed, reading on comes to the end, after no more reads than there are
bytes left and one more. -/
theorem Flows.reads_end (flows : Flows side talk) (shut : talk.writing.shut = true)
    (free : talk.reading.free = true) (unfailed : ∀ call ∈ talk.reading.calls, call.failure? = none)
    (rooms : Nat → Nat) (roomy : ∀ turn, 0 < rooms turn) (bound : Nat)
    (enough : talk.unread ≤ bound) :
    ∃ count, count ≤ bound + 1 ∧
      (talk.run side (reads ((List.range count).map rooms))).Ends := by
  -- A read that does not find the end returns a byte at least, so the bytes left bound the reads.
  induction bound generalizing talk rooms with
  | zero =>
    rcases flows.read_on shut free unfailed (rooms 0) (roomy 0) with ends | ⟨-, -, fewer⟩
    · exact ⟨1, Nat.le_refl 1, ends⟩
    · omega
  | succ bound ih =>
    rcases flows.read_on shut free unfailed (rooms 0) (roomy 0) with ends | ⟨free, unfailed, fewer⟩
    · exact ⟨1, by omega, ends⟩
    · have still : (talk.run side (reads [rooms 0])).writing.shut = true := by
        simp only [Usage.shut, reads_written]
        exact shut
      obtain ⟨count, few, ends⟩ := ih (flows.after_run (reads [rooms 0])) still free unfailed
        (fun turn => rooms (turn + 1)) (fun turn => roomy (turn + 1)) (by omega)
      refine ⟨count + 1, by omega, ?_⟩
      rw [List.range_succ_eq_map, List.map_cons, List.map_map]
      exact ends

theorem Flows.poll_on (flows : Flows side talk) (shut : talk.writing.shut = true)
    (unfailed : ∀ call ∈ talk.reading.calls, call.failure? = none) :
    (talk.step side .pollReader).Ends ∨
      (talk.step side .pollReader).reading.free = true ∧
      ∀ call ∈ (talk.step side .pollReader).reading.calls, call.failure? = none := by
  obtain ⟨left, listens, -⟩ := flows.listens
  rcases listens.answers_or_rests flows.connected (flows.no_senders_after_close shut) with
    ⟨free, same⟩ | ⟨past, room, phase, outcome, calls, concluded, polled, answer⟩
  · have reading : (talk.step side .pollReader).reading = talk.reading := same
    rw [reading]
    exact .inr ⟨free, unfailed⟩
  · have earlier (call : Call signature.recorded) (member : call ∈ past) : call.failure? = none :=
      unfailed call (calls ▸ List.mem_append_left _ member)
    have became : (talk.step side .pollReader).reading.calls =
        past ++ [.read room (.answered outcome)] := polled
    rcases answer with rfl | ⟨data, rfl, -⟩
    · exact .inl ⟨past, room, became, earlier⟩
    · right
      rw [Usage.free, became]
      constructor
      · simp [concluded, Call.isOver, Phase.isOver]
      · intro call member
        rcases List.mem_append.mp member with old | new
        · exact earlier call old
        · cases List.mem_singleton.mp new
          rfl

/-- What is read over one end of a pair is what was written over the other. A writer's calls and a
reader's, one of each under way at a time, interleave in any way, and a read that has not ended may
be given up. At every moment what has been read is a prefix of what has been written. A read fails
only after the writer has closed and all that was written has been read, and it fails with the end
of the messages before it has copied a byte. And once the writer has closed, reading on with room
comes to that failure, all that was written having been read before. -/
theorem stream_fidelity (side : Side) (near far : Configuration) (actions : List Action) :
    let talk := (start near far).run side actions
    talk.reading.received <+: talk.writing.written ∧
    (∀ call ∈ talk.reading.calls, ∀ error, call.failure? = some error →
      error = .transport 0 (peerClosed .unexpectedEof) ∧ talk.writing.shut = true ∧
        talk.reading.received = talk.writing.written) ∧
    (talk.writing.shut = true → (∀ call ∈ talk.reading.calls, call.failure? = none) →
      ∀ rooms : Nat → Nat, (∀ turn, 0 < rooms turn) → ∃ count, count ≤ talk.unread + 1 ∧
        let done := talk.run side (.pollReader :: reads ((List.range count).map rooms))
        done.Ends ∧ done.reading.received = talk.writing.written) := by
  intro talk
  have flows : Flows side talk := (start_flows side near far).after_run actions
  obtain ⟨left, listens, whole⟩ := flows.listens
  refine ⟨⟨_, whole.symm⟩, flows.failures, ?_⟩
  intro shut unfailed rooms roomy
  have next := flows.after_step .pollReader
  have still : (talk.step side .pollReader).writing.shut = true := shut
  have fewer : (talk.step side .pollReader).unread ≤ talk.unread := by
    obtain ⟨data, rest, -, more, -⟩ := (listens.after_poll flows.connected).listens
    have longer : talk.reading.received.length ≤
        (talk.step side .pollReader).reading.received.length := by
      have lengths := congrArg List.length more
      rw [List.length_append] at lengths
      exact lengths ▸ Nat.le_add_right _ _
    exact Nat.sub_le_sub_left longer _
  -- The read that is under way comes to its end first, and it may itself find the end.
  obtain ⟨count, few, ends⟩ : ∃ count, count ≤ talk.unread + 1 ∧
      (talk.run side (.pollReader :: reads ((List.range count).map rooms))).Ends := by
    rcases flows.poll_on shut unfailed with ends | ⟨free, unfailed⟩
    · exact ⟨0, Nat.zero_le _, ends⟩
    · exact next.reads_end still free unfailed rooms roomy talk.unread fewer
  refine ⟨count, few, ends, ?_⟩
  obtain ⟨past, room, calls, -⟩ := ends
  have all :=
    ((next.after_run _).failures _ (calls ▸ List.mem_append_right _ (List.mem_singleton_self _))
    _ rfl).2.2
  refine all.trans ?_
  simp only [Usage.written, reads_written]
  rfl

/-- A read waits and is given up, another takes two of three bytes, and the writer closes. -/
theorem stream_fidelity_given_up :
    let talk := (start {} {}).run .left [.read 4, .pollReader, .dropReader, .write [97, 98, 99],
      .pollWriter, .write [], .pollWriter, .read 2, .pollReader, .close, .pollWriter]
    talk.writing.shut = true ∧ talk.reading.received = [97, 98] ∧
      talk.writing.written = [97, 98, 99] ∧ ∃ count, count ≤ 2 ∧
        let done := talk.run .left (.pollReader :: reads ((List.range count).map fun _ => 4))
        done.Ends ∧ done.reading.received = [97, 98, 99] := by
  intro talk
  have shut : talk.writing.shut = true := rfl
  have unfailed : ∀ call ∈ talk.reading.calls, call.failure? = none := by
    have calls : talk.reading.calls = [.read 4 (.dropped (some (.opening ()))),
      .read 2 (.answered (.filled [97, 98]))] := rfl
    simp [calls, Call.failure?, ReadOutcome.result]
  obtain ⟨-, -, reads⟩ := stream_fidelity .left {} {} [.read 4, .pollReader, .dropReader,
    .write [97, 98, 99], .pollWriter, .write [], .pollWriter, .read 2, .pollReader, .close,
    .pollWriter]
  exact ⟨shut, rfl, rfl, reads shut unfailed (fun _ => 4) fun _ => Nat.succ_pos 3⟩

end Talk

end MessageStream.Pair
