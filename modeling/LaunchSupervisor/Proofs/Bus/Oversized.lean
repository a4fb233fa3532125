import LaunchSupervisor.Proofs.Bus.Attempts

/-!
**Lines that are too long.** A connection keeps the bytes of a line until the line is complete. Once
it holds more than the longest line without an end it refuses that line, and does so ever after:
nothing behind the line is looked at. The buffer is never longer than the longest line by more than
one read, so a line that is longer than that is refused wherever the reads fall, and one that is no
longer than the longest line never is. What each read will bring is laid down in a history, with a
pause wherever nothing has arrived yet.

* `Socket.accounts_takes`: any number of attempts brings what lines at the front of the stream say,
  and then perhaps the refusal of a line that is longer than a line may be.
* `Socket.refuses`: a line that cannot be held is refused once its bytes can be had.
* `awaited`: the same for the answer to the request to be let in.
* `input_bounded`: all of this, from the request to be let in.
-/

namespace LaunchSupervisor.Bus

/-! ### A line that is too long -/

/-- Some complete lines, and behind them the start of one that can never be held with its end. -/
structure TooLong (stream : List UInt8) (lines : List (List UInt8)) (long more : List UInt8) :
    Prop where
  whole : stream = closed lines ++ (long ++ more)
  plainLines : ∀ line ∈ lines, lineFeed ∉ line
  plain : lineFeed ∉ long
  long : mostHeld ≤ long.length

/-- A piece of a line is no longer than the line. -/
theorem length_le_of_piece {piece line tail rest : List UInt8} (plain : lineFeed ∉ piece)
    (whole : piece ++ tail = line ++ lineFeed :: rest) : piece.length ≤ line.length := by
  rcases List.append_eq_append_iff.mp whole with ⟨more, same, -⟩ | ⟨more, same, left⟩
  · rw [same, List.length_append]
    exact Nat.le_add_right _ _
  · cases more with
    | nil => exact Nat.le_of_eq (by rw [same, List.append_nil])
    | cons b more =>
      rw [List.cons_append] at left
      cases left
      exact absurd (by simp [same]) plain

theorem line_inj {one other rest later : List UInt8} (plain : lineFeed ∉ one)
    (plainOther : lineFeed ∉ other)
    (same : one ++ lineFeed :: rest = other ++ lineFeed :: later) :
    one = other ∧ rest = later := by
  have lengths : one.length = other.length :=
    Nat.le_antisymm (length_le_of_piece plain same) (length_le_of_piece plainOther same.symm)
  obtain ⟨first, left⟩ := List.append_inj same lengths
  exact ⟨first, (List.cons.inj left).2⟩

/-- **Lines that are taken off come before the one that is too long.** -/
theorem TooLong.starts {stream rest long more : List UInt8} {lines consumed : List (List UInt8)}
    (tooLong : TooLong stream lines long more) (starts : Starts stream consumed rest) :
    ∃ later, lines = consumed ++ later ∧ TooLong rest later long more := by
  obtain ⟨whole, plainLines, plain, len⟩ := tooLong
  obtain ⟨same, plainConsumed, short⟩ := starts
  rw [whole] at same
  clear whole
  induction consumed generalizing lines with
  | nil => exact ⟨lines, rfl, same.symm, plainLines, plain, len⟩
  | cons first consumed ih =>
    rw [List.forall_mem_cons] at plainConsumed short
    cases lines with
    | nil =>
      rw [closed_cons, List.append_assoc] at same
      have fits := length_le_of_piece plain same
      exact absurd short.1 (Nat.not_lt.mpr (Nat.le_trans len fits))
    | cons line lines =>
      rw [List.forall_mem_cons] at plainLines
      rw [closed_cons, closed_cons, List.append_assoc, List.append_assoc, List.cons_append,
        List.cons_append] at same
      obtain ⟨rfl, behind⟩ := line_inj plainLines.1 plainConsumed.1 same
      obtain ⟨later, rfl, left⟩ := ih plainLines.2 behind plainConsumed.2 short.2
      exact ⟨later, rfl, left⟩

theorem TooLong.not_short {stream long more : List UInt8} {lines : List (List UInt8)}
    (tooLong : TooLong stream lines long more) : ¬ stream.length ≤ longestLine := by
  have len := tooLong.long
  rw [tooLong.whole, List.length_append, List.length_append]
  simp only [mostHeld, ReadOutcome.chunkSize] at len
  omega

namespace Socket

/-! ### All attempts -/

/-- A connection that holds more than a line may have refuses it, and stays as it is. -/
theorem take_stuck {socket : Socket} (plain : lineFeed ∉ socket.buffer)
    (long : longestLine < socket.buffer.length) :
    socket.take = (.error (.lost oversizedReason), socket) := by
  unfold take
  rw [pop_unterminated plain, if_pos long]
  rfl

/-- **A line that was refused is refused for ever.** -/
theorem takes_stuck {socket : Socket} (plain : lineFeed ∉ socket.buffer)
    (long : longestLine < socket.buffer.length) (count : Nat) :
    socket.takes count = List.replicate count (.error (.lost oversizedReason)) := by
  induction count with
  | zero => rfl
  | succ count ih => rw [takes, take_stuck plain long, ih, List.replicate_succ]

/-- A connection after so many attempts. -/
def after : Nat → Socket → Socket
  | 0, socket => socket
  | count + 1, socket => after count socket.take.2

theorem Took.fits {limit : Limit} {socket : Socket} {result : Taken × Socket}
    (took : Took limit socket result) : result.2.buffer.length ≤ mostHeld := by
  cases took with
  | outcome steps said => exact steps.fits
  | oversized steps quiet plain long => exact steps.fits
  | halted steps quiet short spent halted => exact steps.fits

theorem fits_after {socket : Socket} (fits : socket.buffer.length ≤ mostHeld) (count : Nat) :
    (socket.after count).buffer.length ≤ mostHeld := by
  induction count generalizing socket with
  | zero => exact fits
  | succ count ih => exact ih (took .ended fits).fits

/-- **What results account for**: the lines at the front of the bytes of a connection, each of which
could be held, and what was no line; and from some point on nothing but the refusal of a line that
is too long. -/
def Accounts (socket : Socket) (results : List Taken) : Prop :=
  ∃ before refused lines rest,
    results = before ++ List.replicate refused (.error (.lost oversizedReason)) ∧
      Starts (socket.stream .ended) lines rest ∧
      before.filter Taken.goesOn = lines.filterMap outcome? ∧
      (∀ taken ∈ before, taken.goesOn ∨ Halted socket taken) ∧
      (0 < refused →
        ∃ piece, piece <+: rest ∧ lineFeed ∉ piece ∧ longestLine < piece.length)

theorem stream_of_steps {socket next : Socket} {lines : List (List UInt8)} {tail : List UInt8}
    (steps : Steps .ended socket next lines tail) :
    Starts (socket.stream .ended) lines (next.stream .ended) := by
  have starts := steps.starts
  rcases steps.tail with same | ⟨-, other⟩
  · rwa [same] at starts
  · exact absurd rfl other

theorem Halted.earlier {socket next : Socket} {taken : Taken}
    (planned : ∀ reason, .failed reason ∈ next.wire.incoming →
      .failed reason ∈ socket.wire.incoming) (halted : Halted next taken) :
    Halted socket taken := by
  cases halted with
  | pause => exact .pause
  | hungUp => exact .hungUp
  | failed later => exact .failed (planned _ later)

/-- The results of a step, and those after it. -/
theorem Accounts.step {socket next : Socket} {consumed : List (List UInt8)} {tail : List UInt8}
    {taken : Taken} {results : List Taken} (steps : Steps .ended socket next consumed tail)
    (said : [taken].filter Taken.goesOn = consumed.filterMap outcome?)
    (kind : taken.goesOn ∨ Halted socket taken) (later : Accounts next results) :
    Accounts socket (taken :: results) := by
  obtain ⟨before, refused, lines, rest, same, starts, brought, kinds, long⟩ := later
  refine ⟨taken :: before, refused, consumed ++ lines, rest, by rw [same, List.cons_append],
    (stream_of_steps steps).trans starts, ?_, ?_, long⟩
  · rw [List.filterMap_append, ← said, ← brought, ← List.filter_append]
    rfl
  · intro other member
    rcases List.mem_cons.mp member with rfl | member
    · exact kind
    · exact (kinds other member).imp_right (·.earlier steps.planned)

theorem goesOn_of_said {lines : List (List UInt8)} {taken : Taken}
    (said : lines.filterMap outcome? = [taken]) : taken.goesOn := by
  have member : taken ∈ lines.filterMap outcome? := by simp [said]
  obtain ⟨line, -, brings⟩ := List.mem_filterMap.mp member
  exact goesOn_of_outcome? brings

/-- **The results of attempts account for lines** in the order in which they came. -/
theorem accounts_takes {socket : Socket} (fits : socket.buffer.length ≤ mostHeld) (count : Nat) :
    Accounts socket (socket.takes count) := by
  induction count generalizing socket with
  | zero => exact ⟨[], 0, [], _, rfl, .here _, rfl, nofun, fun some => absurd some (by decide)⟩
  | succ count ih =>
    have taken := took .ended fits
    have later := taken.fits
    rw [takes]
    generalize socket.take = result at taken later ⊢
    cases taken with
    | @outcome next lines tail taken steps said =>
      have more := goesOn_of_said said
      exact (ih later).step steps (by rw [said]; simp [more]) (.inl more)
    | @oversized next lines tail steps quiet plain long =>
      refine ⟨[], count + 1, lines, next.stream .ended, ?_, stream_of_steps steps, quiet.symm,
        nofun, fun _ => ⟨next.buffer, List.prefix_append _ _, plain, long⟩⟩
      rw [takes_stuck plain long]
      rfl
    | @halted next lines tail taken steps quiet short spent halted =>
      have none : [taken].filter Taken.goesOn = [] := by
        cases halted <;> rfl
      exact (ih later).step steps (by rw [none, quiet]) (.inr halted)

/-- **A line behind others is refused**: the attempts before that each take lines off that come
earlier, and bring what these say. If not all of them are taken, the next one is refused, as it is
longer than a line may be. -/
def RefusedBehind (socket : Socket) (lines : List (List UInt8)) : Prop :=
  ∃ before kept later, lines = kept ++ later ∧ before.length ≤ kept.length ∧
    (∀ count, socket.takes (before.length + count) =
      before ++ List.replicate count (.error (.lost oversizedReason))) ∧
    before.filter Taken.goesOn = kept.filterMap outcome? ∧
    (∀ taken ∈ before, taken.goesOn ∨ taken = .ok none) ∧
    ∀ line ∈ later.head?, longestLine < line.length

/-- An attempt that takes lines off is followed by those that refuse what comes after them. -/
theorem RefusedBehind.step {socket next : Socket} {consumed lines : List (List UInt8)}
    {taken : Taken} (takes : socket.take = (taken, next)) (some : consumed ≠ [])
    (said : [taken].filter Taken.goesOn = consumed.filterMap outcome?)
    (kind : taken.goesOn ∨ taken = .ok none) (later : RefusedBehind next lines) :
    RefusedBehind socket (consumed ++ lines) := by
  obtain ⟨before, kept, left, rfl, fewer, refused, brought, kinds, longer⟩ := later
  refine ⟨taken :: before, consumed ++ kept, left, (List.append_assoc ..).symm, ?_, ?_, ?_, ?_,
    longer⟩
  · have := List.length_pos_iff.mpr some
    rw [List.length_cons, List.length_append]
    omega
  · intro count
    rw [List.length_cons, Nat.add_right_comm, Socket.takes, takes, refused]
    rfl
  · rw [List.filterMap_append, ← said, ← brought, ← List.filter_append]
    rfl
  · exact List.forall_mem_cons.mpr ⟨kind, kinds⟩

/-- A connection that holds more of a line than it may have refuses what comes behind. -/
theorem refusedBehind_stuck {socket next : Socket} {lines later : List (List UInt8)}
    {tail long more : List UInt8} (takes : socket.take = (.error (.lost oversizedReason), next))
    (quiet : lines.filterMap outcome? = []) (plain : lineFeed ∉ next.buffer)
    (tooMuch : longestLine < next.buffer.length)
    (rest : TooLong (next.buffer ++ tail) later long more) :
    RefusedBehind socket (lines ++ later) := by
  refine ⟨[], lines, later, rfl, Nat.zero_le _, fun count => ?_, quiet.symm, nofun, ?_⟩
  · cases count with
    | zero => rfl
    | succ count =>
      rw [List.length_nil, Nat.zero_add, Socket.takes, takes, takes_stuck plain tooMuch]
      rfl
  · cases later with
    | nil =>
      intro line first
      cases first
    | cons line later =>
      intro first same
      cases same
      have whole := rest.whole
      rw [closed_cons, List.append_assoc] at whole
      exact Nat.lt_of_lt_of_le tooMuch (length_le_of_piece plain whole)

/-- What can still be got after an attempt holds the line that is too long. -/
theorem tooLong_after {socket next : Socket} {consumed lines : List (List UInt8)}
    {tail long more : List UInt8} (steps : Steps .pause socket next consumed tail)
    (tooLong : TooLong (next.buffer ++ tail) lines long more) :
    ∃ further, TooLong (next.stream .pause) lines long further := by
  rcases steps.tail with same | ⟨same, -⟩
  · rw [same] at tooLong
    exact ⟨more, tooLong⟩
  · have whole := tooLong.whole
    rw [same, List.append_nil] at whole
    refine ⟨more ++ next.unread .pause, ?_, tooLong.plainLines, tooLong.plain, tooLong.long⟩
    rw [stream, whole]
    simp only [List.append_assoc]

theorem length_lt_of_split {lines consumed left : List (List UInt8)}
    (split : lines = consumed ++ left) (some : consumed ≠ []) : left.length < lines.length := by
  have := List.length_pos_iff.mpr some
  rw [split, List.length_append]
  omega

/-- **A line that cannot be held is refused** once its bytes can be had. -/
theorem refuses {socket : Socket} (fits : socket.buffer.length ≤ mostHeld)
    {lines : List (List UInt8)} {long more : List UInt8}
    (tooLong : TooLong (socket.stream .pause) lines long more) : RefusedBehind socket lines := by
  have attempt := took .pause fits
  generalize takes : socket.take = result at attempt
  cases attempt with
  | @outcome next consumed tail taken steps said =>
    obtain ⟨left, split, rest⟩ := tooLong.starts steps.starts
    obtain ⟨further, after⟩ := tooLong_after steps rest
    have some : consumed ≠ [] := fun nothing => by simp [nothing] at said
    have goesOn := goesOn_of_said said
    have fewer := length_lt_of_split split some
    rw [split]
    exact (refuses steps.fits after).step takes some (by rw [said]; simp [goesOn]) (.inl goesOn)
  | oversized steps quiet plain tooMuch =>
    obtain ⟨later, rfl, rest⟩ := tooLong.starts steps.starts
    exact refusedBehind_stuck takes quiet plain tooMuch rest
  | @halted next consumed tail taken steps quiet short spent halted =>
    obtain ⟨left, split, rest⟩ := tooLong.starts steps.starts
    obtain nothing | ⟨some, waits⟩ := spent rfl
    · rw [nothing, List.append_nil] at rest
      exact absurd short rest.not_short
    · obtain ⟨further, after⟩ := tooLong_after steps rest
      have fewer := length_lt_of_split split some
      rw [split]
      exact (refuses steps.fits after).step takes some (by rw [quiet, waits]; rfl) (.inr waits)
termination_by lines.length

end Socket

/-! ### Being let in -/

/-- Nobody waits for something in order to be told to wait. -/
theorem nextWaiting_ne_wouldBlock (history : List ReadOutcome) :
    (ReadOutcome.nextWaiting history).1 ≠ .wouldBlock := by
  fun_induction ReadOutcome.nextWaiting history with
  | case1 => simp
  | case2 rest ih | case3 rest ih | case4 rest ih => exact ih
  | case5 history filled waits goesOn some =>
    cases history with
    | nil => exact absurd rfl filled
    | cons outcome rest =>
      cases outcome with
      | bytes data =>
        cases data with
        | nil => exact absurd rfl (some rest)
        | cons b more =>
          rw [ReadOutcome.next]
          split <;> simp
      | wouldBlock => exact absurd rfl (waits rest)
      | interrupted => exact absurd rfl (goesOn rest)
      | endOfFile | failed reason => simp [ReadOutcome.next]

/-- **What waiting for the answer comes to**: the first line that says something is the answer, or a
line that is no frame; or the line under way is too long; or there is no more than a piece of it. -/
inductive Awaited (limit : Limit) (stream : List UInt8) :
    Except Fault (Frame × Reader) → Prop where
  | answer {lines : List (List UInt8)} {frame : Frame} {reader : Reader}
    (starts : Starts stream lines (limit.stream reader))
    (said : lines.filterMap outcome? = [.ok (some frame)])
    (fits : reader.1.length ≤ mostHeld) : Awaited limit stream (.ok (frame, reader))
  | malformed {lines : List (List UInt8)} {rest : List UInt8} (starts : Starts stream lines rest)
    (said : lines.filterMap outcome? = [.error (.protocol "bad frame")]) :
    Awaited limit stream (.error (.protocol "bad frame"))
  | oversized {lines : List (List UInt8)} {piece rest : List UInt8}
    (starts : Starts stream lines (piece ++ rest)) (quiet : lines.filterMap outcome? = [])
    (plain : lineFeed ∉ piece) (long : longestLine < piece.length) :
    Awaited limit stream (.error (.lost Socket.oversizedReason))
  | unanswered {lines : List (List UInt8)} {piece tail : List UInt8} {reason : String}
    (starts : Starts stream lines (piece ++ tail)) (quiet : lines.filterMap outcome? = [])
    (short : piece.length ≤ longestLine) (spent : limit = .failure → tail = []) :
    Awaited limit stream (.error (.notConnected reason))

/-- Lines that say nothing were taken off the front of a stream. -/
def Skipped (limit : Limit) (stream : List UInt8) (reader : Reader) : Prop :=
  ∃ lines, Starts stream lines (limit.stream reader) ∧ lines.filterMap outcome? = []

/-- What is left of a reader's bytes when its buffer needs more of them. -/
theorem starts_incomplete (limit : Limit) {reader : Reader} {buffer : List UInt8}
    (fits : reader.1.length ≤ mostHeld) (popped : pop reader.1 = (.incomplete, buffer)) :
    ∃ lines, Starts (limit.stream reader) lines (buffer ++ limit.bytesOf reader.2) ∧
      lines.filterMap outcome? = [] := by
  have pops := popsOff fits
  rw [popped] at pops
  cases pops with
  | line means isLine starts said => cases isLine
  | incomplete starts quiet plain short => exact ⟨_, starts.append _, quiet⟩

theorem skipped_awaitTurn {limit : Limit} (waits : limit.stops .wouldBlock = false)
    {stream : List UInt8} {reader next : Reader} (turn : AwaitTurn reader next)
    (fits : reader.1.length ≤ mostHeld) (skipped : Skipped limit stream reader) :
    Skipped limit stream next := by
  obtain ⟨lines, starts, quiet⟩ := skipped
  have left := limit.bytesOf_nextWaiting waits reader.2
  cases turn with
  | bytes popped read =>
    obtain ⟨more, later, silent⟩ := starts_incomplete limit fits popped
    rw [left, read] at later
    simp only [limit.bytes, Bool.false_eq_true, if_false] at later
    refine ⟨lines ++ more, ?_, said_append quiet silent⟩
    unfold Limit.stream
    rw [List.append_assoc]
    exact starts.trans later
  | interrupted popped read =>
    obtain ⟨more, later, silent⟩ := starts_incomplete limit fits popped
    rw [left, read] at later
    simp only [limit.interrupted, Bool.false_eq_true, if_false] at later
    exact ⟨lines ++ more, starts.trans later, said_append quiet silent⟩

/-- **Waiting for the answer takes lines off the front** of what can be got, up to the first that
says something. -/
theorem awaited {limit : Limit} (waits : limit.stops .wouldBlock = false) {reader : Reader}
    (fits : reader.1.length ≤ mostHeld) :
    Awaited limit (limit.stream reader) (awaitReader reader) := by
  obtain ⟨held, turns, last, -, passes, stops, same⟩ := contained_await fits
  obtain ⟨lines, starts, quiet⟩ : Skipped limit (limit.stream reader) last :=
    (@Passes.invariant _ _ (fun state =>
      state.1.length ≤ mostHeld ∧ Skipped limit (limit.stream reader) state) _ _ _ passes
      (fun _ _ turned kept => ⟨length_awaitTurn_le (awaitTurn_of_eq_some turned),
        skipped_awaitTurn waits (awaitTurn_of_eq_some turned) kept.1 kept.2⟩)
      ⟨fits, [], .here _, rfl⟩).2
  have lastFits : last.1.length ≤ mostHeld := held _ _ passes
  have pops := popsOff lastFits
  have exit := awaitReader_exit stops
  rw [same]
  generalize awaitReader last = result at exit
  cases exit with
  | @answer frame buffer popped =>
    have shorter := pop_length_le last.1
    rw [popped] at pops shorter
    cases pops with
    | line means isLine off said =>
      cases means
      exact .answer (starts.trans (off.append _)) (said_append quiet said)
        (Nat.le_trans shorter lastFits)
  | malformed popped =>
    rw [popped] at pops
    cases pops with
    | line means isLine off said =>
      cases means
      exact .malformed (starts.trans (off.append _)) (said_append quiet said)
  | oversized popped =>
    rw [popped] at pops
    cases pops with
    | line means isLine off said => cases isLine
    | oversized off silent plain long =>
      exact .oversized (starts.trans (off.append _))
        (said_append quiet silent) plain long
  | @unanswered buffer outcome rest reason popped read halts =>
    obtain ⟨more, off, silent⟩ := starts_incomplete limit lastFits popped
    refine .unanswered (starts.trans off) (said_append quiet silent)
      (length_of_incomplete popped) ?_
    rintro rfl
    have waiting := nextWaiting_ne_wouldBlock last.2
    rw [Limit.bytesOf_nextWaiting _ waits, read]
    rw [read] at waiting
    exact if_pos (by simpa [Limit.failure, halts] using waiting)

/-! ### From the request to be let in -/

namespace Socket

/-- All that an attempt does with the buffer is contained: blank lines are skipped, the buffer is
filled, and blank lines are skipped again. -/
structure Contains (socket : Socket) : Prop where
  held : socket.buffer.length ≤ mostHeld
  skips : Contained skipTurn? id pop socket.buffer.length socket.buffer
  fills : Contained fillTurn? Prod.fst fillReader (ReadOutcome.volume socket.wire.incoming)
    ((pop socket.buffer).2, socket.wire.incoming)
  skipsAgain :
    let filled := (fillReader ((pop socket.buffer).2, socket.wire.incoming)).2.1
    Contained skipTurn? id pop filled.length filled

theorem length_fillReader_le {reader : Reader} (fits : reader.1.length ≤ mostHeld) :
    (fillReader reader).2.1.length ≤ mostHeld := by
  have brings := (fillBrings .ended fits).1
  generalize fillReader reader = result at brings
  cases brings with
  | full fits long stream => exact fits
  | idle short | ended short | failed short => exact Nat.le_trans short (Nat.le_add_right _ _)

theorem contains {socket : Socket} (fits : socket.buffer.length ≤ mostHeld) :
    socket.Contains := by
  have popped : (pop socket.buffer).2.length ≤ mostHeld :=
    Nat.le_trans (pop_length_le socket.buffer) fits
  have reader : ((pop socket.buffer).2, socket.wire.incoming).1.length ≤ mostHeld := popped
  exact ⟨fits, contained_skip fits, contained_fill reader,
    contained_skip (length_fillReader_le reader)⟩

theorem connect_unheard {wire : Wire} (unheard : wire.gone ∨ wire.shut) :
    (connect wire).1 = .error brokenPipe := by
  rw [connect, show wire.send Frame.openRequest.line = none from if_pos unheard]

/-- **Being let in is up to the answer**, if the request is heard. -/
theorem connect_heard {wire : Wire} (heard : ¬ (wire.gone ∨ wire.shut)) :
    (connect wire).1 =
      match awaitReader ([], wire.incoming) with
      | .error fault => .error fault
      | .ok (.opened procid session, buffer, incoming) =>
        .ok { procid, session, buffer, ended := false
              wire := { wire with
                delivered := wire.delivered ++ Frame.openRequest.line, incoming } }
      | .ok (other, _, _) =>
        .error (.protocol ("expected opened frame, got " ++ other.described)) := by
  have sends : wire.send Frame.openRequest.line =
      some { wire with delivered := wire.delivered ++ Frame.openRequest.line } :=
    if_neg heard
  rw [connect, sends]
  unfold awaitReader
  dsimp only
  cases awaitAnswer [] wire.incoming with
  | error fault => rfl
  | ok answer =>
    obtain ⟨frame, buffer, incoming⟩ := answer
    cases frame <;> rfl

/-- **A connection is lost while it is made** only to a line that is longer than a line may be. -/
theorem lost_connect {wire : Wire} {reason : String}
    (lost : (connect wire).1 = .error (.lost reason)) :
    ∃ lines piece rest, Starts (Limit.ended.bytesOf wire.incoming) lines (piece ++ rest) ∧
      lineFeed ∉ piece ∧ longestLine < piece.length := by
  by_cases heard : wire.gone ∨ wire.shut
  · rw [connect_unheard heard] at lost
    cases lost
  · have answer := @awaited .ended rfl ([], wire.incoming) (Nat.zero_le _)
    rw [connect_heard heard] at lost
    generalize awaitReader ([], wire.incoming) = result at answer lost
    cases answer with
    | @answer lines frame reader starts said fits => cases frame <;> cases lost
    | malformed starts said => cases lost
    | oversized starts quiet plain long => exact ⟨_, _, _, starts, plain, long⟩
    | unanswered starts quiet short spent => cases lost

/-- **A line that cannot be held is refused** while the connection is made, if no line before it
says anything. -/
theorem connect_refuses {wire : Wire} (heard : ¬ (wire.gone ∨ wire.shut))
    {lines : List (List UInt8)} {long more : List UInt8}
    (tooLong : TooLong (Limit.failure.bytesOf wire.incoming) lines long more)
    (quiet : lines.filterMap outcome? = []) :
    (connect wire).1 = .error (.lost oversizedReason) := by
  have answer := @awaited .failure rfl ([], wire.incoming) (Nat.zero_le _)
  rw [connect_heard heard]
  generalize awaitReader ([], wire.incoming) = result at answer ⊢
  have silent {consumed : List (List UInt8)} {rest : List UInt8} {taken : Taken}
      (starts : Starts (Limit.failure.bytesOf wire.incoming) consumed rest)
      (said : consumed.filterMap outcome? = [taken]) : False := by
    obtain ⟨later, rfl, -⟩ := tooLong.starts starts
    rw [List.filterMap_append, said] at quiet
    cases quiet
  cases answer with
  | answer starts said fits => exact (silent starts said).elim
  | malformed starts said => exact (silent starts said).elim
  | oversized starts silent plain long => rfl
  | unanswered starts silent short spent =>
    obtain ⟨later, rfl, rest⟩ := tooLong.starts starts
    rw [spent rfl, List.append_nil] at rest
    exact absurd short rest.not_short

/-- A connection that was made has taken the answer off the front of the stream. -/
theorem connected {wire : Wire} {socket : Socket} (made : (connect wire).1 = .ok socket) :
    socket.buffer.length ≤ mostHeld ∧
      ∃ opening, Starts (Limit.ended.bytesOf wire.incoming) opening (socket.stream .ended) ∧
        opening.filterMap outcome? = [.ok (some (.opened socket.procid socket.session))] := by
  by_cases heard : wire.gone ∨ wire.shut
  · rw [connect_unheard heard] at made
    cases made
  · have answer := @awaited .ended rfl ([], wire.incoming) (Nat.zero_le _)
    rw [connect_heard heard] at made
    generalize awaitReader ([], wire.incoming) = result at answer made
    cases answer with
    | @answer lines frame reader starts said fits =>
      cases frame with
      | opened procid session =>
        cases made
        exact ⟨fits, lines, starts, said⟩
      | _ => cases made
    | malformed starts said => cases made
    | oversized starts quiet plain long => cases made
    | unanswered starts quiet short spent => cases made

end Socket

/-! ### What is bounded -/

/-- A line without an end, as far as it can be held. -/
def endless : List UInt8 :=
  List.replicate mostHeld 120

theorem tooLong_endless : TooLong endless [] endless [] :=
  ⟨(List.append_nil _).symm, nofun,
    fun member => absurd (List.eq_of_mem_replicate member) (by decide),
    Nat.le_of_eq List.length_replicate.symm⟩

/-- The answer is taken, and what comes after it is left for later. -/
theorem awaitReader_opened (rest : List ReadOutcome) :
    awaitReader ([], .bytes (Frame.opened "p" "s").line :: rest) =
      .ok (.opened "p" "s", [], rest) := by
  have cut : (Frame.opened "p" "s").line.drop ReadOutcome.chunkSize = [] := by decide +kernel
  have read : ReadOutcome.nextWaiting (.bytes (Frame.opened "p" "s").line :: rest) =
      (.bytes (Frame.opened "p" "s").line, rest) := by
    obtain ⟨b, more, same⟩ := List.exists_cons_of_ne_nil
      (show (Frame.opened "p" "s").line ≠ [] by decide +kernel)
    rw [same] at cut ⊢
    rw [ReadOutcome.nextWaiting, ReadOutcome.next, cut]
    all_goals simp
  have popped : pop (Frame.opened "p" "s").line = (.frame (.opened "p" "s"), []) := by
    decide +kernel
  have empty : pop [] = (.incomplete, []) := by decide +kernel
  have turn : AwaitTurn ([], .bytes (Frame.opened "p" "s").line :: rest)
      ([] ++ (Frame.opened "p" "s").line, rest) :=
    .bytes empty read
  rw [awaitReader_turn turn, List.nil_append]
  unfold awaitReader
  rw [Socket.awaitAnswer, popped]

open Socket in
/-- **The input of a connection is bounded**, and so are its lines. Whatever a peer sends, in
whatever pieces it arrives and however often the connection is asked, and also while it is made: no
loop turns more often than there are bytes and reads, and the buffer never holds more than the
longest line and one read. The results account for the lines of the stream in order, and a line is
refused only if it is longer than a line may be. A line that cannot be held is refused once its
bytes can be had, before anything behind it is looked at, and ever after. -/
theorem input_bounded (wire : Wire) :
    Contained awaitTurn? Prod.fst awaitReader (ReadOutcome.volume wire.incoming)
      ([], wire.incoming) ∧
    (∀ turns reader, Passes awaitTurn? turns ([], wire.incoming) reader →
      Contained skipTurn? id pop reader.1.length reader.1) ∧
    (∀ reason, (connect wire).1 = .error (.lost reason) →
      ∃ lines piece rest, Starts (Limit.ended.bytesOf wire.incoming) lines (piece ++ rest) ∧
        lineFeed ∉ piece ∧ longestLine < piece.length) ∧
    (∀ lines long more, ¬ (wire.gone ∨ wire.shut) →
      TooLong (Limit.failure.bytesOf wire.incoming) lines long more →
      lines.filterMap outcome? = [] → (connect wire).1 = .error (.lost oversizedReason)) ∧
    ∀ socket, (connect wire).1 = .ok socket →
      (∃ opening, Starts (Limit.ended.bytesOf wire.incoming) opening (socket.stream .ended) ∧
        opening.filterMap outcome? = [.ok (some (.opened socket.procid socket.session))]) ∧
      ∀ count, (socket.after count).Contains ∧ socket.Accounts (socket.takes count) ∧
        ∀ lines long more, TooLong ((socket.after count).stream .pause) lines long more →
          (socket.after count).RefusedBehind lines := by
  have waiting : Contained awaitTurn? Prod.fst awaitReader (ReadOutcome.volume wire.incoming)
      ([], wire.incoming) := @contained_await ([], wire.incoming) (Nat.zero_le _)
  refine ⟨waiting, fun turns reader passes => contained_skip (waiting.held turns reader passes),
    fun _ => lost_connect, fun _ _ _ heard tooLong => connect_refuses heard tooLong, ?_⟩
  intro socket made
  obtain ⟨fits, opening⟩ := connected made
  refine ⟨opening, fun count => ?_⟩
  have later := fits_after fits count
  exact ⟨contains later, accounts_takes fits count, fun _ _ _ => refuses later⟩

/-- A line without an end, to somebody who waits for an answer and to somebody who was let in. -/
theorem input_bounded_endless :
    (Socket.connect { incoming := [.bytes endless] }).1 = .error (.lost Socket.oversizedReason) ∧
    ∃ socket,
      (Socket.connect { incoming := [.bytes (Frame.opened "p" "s").line, .bytes endless] }).1 =
        .ok socket ∧
      ∀ count, socket.takes count =
        List.replicate count (.error (.lost Socket.oversizedReason)) := by
  have brings : Limit.pause.bytesOf [.bytes endless] = endless := List.append_nil _
  constructor
  · obtain ⟨-, -, -, refuses, -⟩ := input_bounded { incoming := [.bytes endless] }
    have waiting : Limit.failure.bytesOf [.bytes endless] = endless := List.append_nil _
    exact refuses [] endless [] (by decide) (waiting.symm ▸ tooLong_endless) rfl
  · let wire : Wire := { incoming := [.bytes (Frame.opened "p" "s").line, .bytes endless] }
    obtain ⟨-, -, -, -, letIn⟩ := input_bounded wire
    have made := @Socket.connect_heard wire (by decide)
    rw [show wire.incoming = [.bytes (Frame.opened "p" "s").line, .bytes endless] from rfl,
      awaitReader_opened] at made
    refine ⟨_, made, fun count => ?_⟩
    obtain ⟨before, kept, later, nothing, fewer, refused, -⟩ :=
      ((letIn _ made).2 0).2.2 [] endless [] (by
        show TooLong ([] ++ Limit.pause.bytesOf [.bytes endless]) [] endless []
        rw [List.nil_append, brings]
        exact tooLong_endless)
    have none : before = [] := by
      rw [(List.append_eq_nil_iff.mp nothing.symm).1] at fewer
      exact List.eq_nil_of_length_eq_zero (Nat.le_zero.mp fewer)
    have all := refused count
    rw [none, List.length_nil, Nat.zero_add] at all
    exact all

end LaunchSupervisor.Bus
