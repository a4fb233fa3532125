import LaunchSupervisor.Bus.Socket

/-!
**The loops of a connection, turn by turn.** A loop is given by what one turn makes of its state.
There are three: blank lines are skipped, the buffer is filled, and the answer to the request to be
let in is awaited. Each turn uses something up, so a loop comes to its end, and what it gives is
what it gives from any state that it passes.

* `Passes.invariant`, `Passes.le_measure`: what holds all along, and how many turns there can be.
* `Contained`: a loop ends in time, and its buffer is never longer than one line and one read.
* `contained_skip`, `contained_fill`, `contained_await`: so it is with the three loops.
-/

namespace LaunchSupervisor.Bus

/-- The most that a buffer may hold: the longest line and one read. -/
def mostHeld : Nat := longestLine + ReadOutcome.chunkSize

/-! ### Loops -/

section

variable {σ ρ : Type} {turn? : σ → Option σ}

/-- **A loop gets from one state to another** in so many turns. -/
inductive Passes (turn? : σ → Option σ) : Nat → σ → σ → Prop where
  | here (state : σ) : Passes turn? 0 state state
  | turn {turns : Nat} {first next last : σ} (turned : turn? first = some next)
    (later : Passes turn? turns next last) : Passes turn? (turns + 1) first last

/-- What a turn preserves holds all along. -/
theorem Passes.invariant {holds : σ → Prop} {turns : Nat} {first last : σ}
    (passes : Passes turn? turns first last)
    (keeps : ∀ state next, turn? state = some next → holds state → holds next)
    (start : holds first) : holds last := by
  induction passes with
  | here => exact start
  | turn turned later ih => exact ih (keeps _ _ turned start)

/-- There are no more turns than there is to be used up. -/
theorem Passes.le_measure {measure : σ → Nat} {turns : Nat} {first last : σ}
    (passes : Passes turn? turns first last)
    (less : ∀ state next, turn? state = some next → measure next < measure state) :
    turns ≤ measure first := by
  induction passes with
  | here => exact Nat.zero_le _
  | turn turned later ih => exact Nat.lt_of_le_of_lt ih (less _ _ turned)

/-- A loop that uses something up in each turn comes to a state without a turn. -/
theorem exists_last {measure : σ → Nat}
    (less : ∀ state next, turn? state = some next → measure next < measure state) (first : σ) :
    ∃ turns last, Passes turn? turns first last ∧ turn? last = none := by
  cases turned : turn? first with
  | none => exact ⟨0, first, .here first, turned⟩
  | some next =>
    have := less first next turned
    obtain ⟨turns, last, passes, ends⟩ := exists_last less next
    exact ⟨turns + 1, last, .turn turned passes, ends⟩
termination_by measure first

/-- **A loop that is contained**: its buffer never holds more than it may, and after no more than so
many turns it ends, in a state from which it gives the same. -/
structure Contained (turn? : σ → Option σ) (buffer : σ → List UInt8) (run : σ → ρ)
    (bound : Nat) (first : σ) : Prop where
  held : ∀ turns state, Passes turn? turns first state → (buffer state).length ≤ mostHeld
  ends : ∃ turns last, turns ≤ bound ∧ Passes turn? turns first last ∧ turn? last = none ∧
    run first = run last

theorem contained {buffer : σ → List UInt8} {run : σ → ρ} {measure : σ → Nat}
    (less : ∀ state next, turn? state = some next → measure next < measure state)
    (same : ∀ state next, turn? state = some next → run state = run next)
    (fits : ∀ state next, turn? state = some next → (buffer state).length ≤ mostHeld →
      (buffer next).length ≤ mostHeld)
    {first : σ} (start : (buffer first).length ≤ mostHeld) :
    Contained turn? buffer run (measure first) first where
  held turns state passes := passes.invariant fits start
  ends := by
    obtain ⟨turns, last, passes, ends⟩ := exists_last less first
    have result : run first = run last :=
      @Passes.invariant _ _ (fun state => run first = run state) _ _ _ passes
        (fun state next turned kept => kept.trans (same state next turned)) rfl
    exact ⟨turns, last, passes.le_measure less, passes, ends, result⟩

end

/-! ### How much a read brings -/

theorem byteCount_next_le_chunkSize (history : List ReadOutcome) :
    (ReadOutcome.next history).1.byteCount ≤ ReadOutcome.chunkSize := by
  fun_induction ReadOutcome.next history with
  | case1 => exact Nat.zero_le _
  | case2 rest ih => exact ih
  | case3 b more rest whole => exact List.drop_eq_nil_iff.mp whole
  | case4 b more rest cut => exact List.length_take_le _ _
  | case5 rest | case6 rest | case7 rest | case8 reason rest => exact Nat.zero_le _

theorem byteCount_nextWaiting_le_chunkSize (history : List ReadOutcome) :
    (ReadOutcome.nextWaiting history).1.byteCount ≤ ReadOutcome.chunkSize := by
  fun_induction ReadOutcome.nextWaiting history with
  | case1 => exact Nat.zero_le _
  | case2 rest ih | case3 rest ih | case4 rest ih => exact ih
  | case5 history => exact byteCount_next_le_chunkSize history

/-! ### Blank lines are skipped -/

/-- A blank line at the front of a buffer is skipped. -/
def skipTurn? (buffer : List UInt8) : Option (List UInt8) :=
  match buffer.dropWhile (· != lineFeed) with
  | [] => none
  | _ :: rest =>
    if (buffer.takeWhile (· != lineFeed)).all isAsciiBlank then some rest else none

theorem skipTurn?_eq_some {buffer rest : List UInt8} (skipped : skipTurn? buffer = some rest) :
    pop buffer = pop rest ∧ rest.length < buffer.length := by
  unfold skipTurn? at skipped
  split at skipped
  · cases skipped
  · rename_i found
    split at skipped
    · rename_i blank
      cases skipped
      refine ⟨?_, length_afterLine_lt found⟩
      rw [pop]
      split
      · rename_i nothing
        rw [found] at nothing
        cases nothing
      · rename_i again
        rw [found] at again
        cases again
        exact if_pos blank
    · cases skipped

/-- **Popping is contained**: it skips no more lines than there are bytes. -/
theorem contained_skip {buffer : List UInt8} (fits : buffer.length ≤ mostHeld) :
    Contained skipTurn? id pop buffer.length buffer :=
  @contained _ _ _ id pop List.length
    (fun _ _ skipped => (skipTurn?_eq_some skipped).2)
    (fun _ _ skipped => (skipTurn?_eq_some skipped).1)
    (fun _ _ skipped fits => Nat.le_trans (Nat.le_of_lt (skipTurn?_eq_some skipped).2) fits)
    buffer fits

/-! ### The buffer is filled -/

/-- A buffer with what will be read. -/
abbrev Reader := List UInt8 × List ReadOutcome

/-- A read that goes on, into a buffer that has room for it. -/
def fillTurn? (reader : Reader) : Option Reader :=
  if longestLine < reader.1.length then none
  else
    match ReadOutcome.next reader.2 with
    | (.bytes bytes, rest) => some (reader.1 ++ bytes, rest)
    | (.interrupted, rest) => some (reader.1, rest)
    | (.wouldBlock, _) => none
    | (.endOfFile, _) => none
    | (.failed _, _) => none

/-- What one turn of the filling does. -/
inductive FillTurn (reader : Reader) : Reader → Prop where
  | bytes {data : List UInt8} {rest : List ReadOutcome} (room : reader.1.length ≤ longestLine)
    (read : ReadOutcome.next reader.2 = (.bytes data, rest)) :
    FillTurn reader (reader.1 ++ data, rest)
  | interrupted {rest : List ReadOutcome} (room : reader.1.length ≤ longestLine)
    (read : ReadOutcome.next reader.2 = (.interrupted, rest)) : FillTurn reader (reader.1, rest)

theorem fillTurn_of_eq_some {reader next : Reader} (turned : fillTurn? reader = some next) :
    FillTurn reader next := by
  unfold fillTurn? at turned
  split at turned
  · cases turned
  · rename_i room
    rw [Nat.not_lt] at room
    split at turned
    · cases turned
      exact .bytes room ‹_›
    · cases turned
      exact .interrupted room ‹_›
    all_goals cases turned

/-- How the filling ends. -/
inductive FillExit (reader : Reader) : Socket.Halt × List UInt8 × List ReadOutcome → Prop where
  | full (long : longestLine < reader.1.length) : FillExit reader (.full, reader)
  | idle {rest : List ReadOutcome} (room : reader.1.length ≤ longestLine)
    (read : ReadOutcome.next reader.2 = (.wouldBlock, rest)) :
    FillExit reader (.idle, reader.1, rest)
  | ended {rest : List ReadOutcome} (room : reader.1.length ≤ longestLine)
    (read : ReadOutcome.next reader.2 = (.endOfFile, rest)) :
    FillExit reader (.ended, reader.1, rest)
  | failed {reason : String} {rest : List ReadOutcome} (room : reader.1.length ≤ longestLine)
    (read : ReadOutcome.next reader.2 = (.failed reason, rest)) :
    FillExit reader (.failed reason, reader.1, rest)

/-- The filling, as it is done in turns. -/
def fillReader (reader : Reader) : Socket.Halt × List UInt8 × List ReadOutcome :=
  Socket.fill reader.1 reader.2

/-- What a read makes of the filling. -/
theorem fillReader_read {reader : Reader} {outcome : ReadOutcome} {rest : List ReadOutcome}
    (room : reader.1.length ≤ longestLine) (read : ReadOutcome.next reader.2 = (outcome, rest)) :
    fillReader reader =
      match outcome with
      | .bytes data => fillReader (reader.1 ++ data, rest)
      | .interrupted => fillReader (reader.1, rest)
      | .wouldBlock => (.idle, reader.1, rest)
      | .endOfFile => (.ended, reader.1, rest)
      | .failed reason => (.failed reason, reader.1, rest) := by
  have step : Socket.fillFrom reader.1.reverse reader.1.length reader.2 =
      match outcome with
      | .bytes data =>
        Socket.fillFrom (data.reverse ++ reader.1.reverse) (reader.1.length + data.length) rest
      | .interrupted => Socket.fillFrom reader.1.reverse reader.1.length rest
      | .wouldBlock => (.idle, reader.1.reverse, rest)
      | .endOfFile => (.ended, reader.1.reverse, rest)
      | .failed reason => (.failed reason, reader.1.reverse, rest) := by
    rw [Socket.fillFrom, if_neg (Nat.not_lt.mpr room)]
    split <;> rename_i same <;> rw [read] at same <;> cases same <;> rfl
  unfold fillReader Socket.fill
  rw [step]
  cases outcome with
  | bytes data => simp only [List.reverse_append, List.length_append]
  | interrupted => rfl
  | wouldBlock | endOfFile | failed reason => simp

theorem fillReader_turn {reader next : Reader} (turn : FillTurn reader next) :
    fillReader reader = fillReader next := by
  cases turn with
  | bytes room read | interrupted room read => exact fillReader_read room read

theorem fillReader_exit {reader : Reader} (last : fillTurn? reader = none) :
    FillExit reader (fillReader reader) := by
  by_cases long : longestLine < reader.1.length
  · have full : fillReader reader = (.full, reader) := by
      unfold fillReader Socket.fill
      rw [Socket.fillFrom, if_pos long]
      simp
    rw [full]
    exact .full long
  · unfold fillTurn? at last
    rw [if_neg long] at last
    rw [Nat.not_lt] at long
    split at last
    · cases last
    · cases last
    · rename_i read
      rw [fillReader_read long read]
      exact .idle long read
    · rename_i read
      rw [fillReader_read long read]
      exact .ended long read
    · rename_i read
      rw [fillReader_read long read]
      exact .failed long read

theorem volume_fillTurn_lt {reader next : Reader} (turn : FillTurn reader next) :
    ReadOutcome.volume next.2 < ReadOutcome.volume reader.2 := by
  cases turn with
  | bytes room read | interrupted room read =>
    have less := @ReadOutcome.volume_next reader.2 (by rw [read]; rfl)
    rw [read] at less
    exact less

theorem length_fillTurn_le {reader next : Reader} (turn : FillTurn reader next)
    (fits : reader.1.length ≤ mostHeld) : next.1.length ≤ mostHeld := by
  cases turn with
  | bytes room read =>
    have chunk := byteCount_next_le_chunkSize reader.2
    rw [read] at chunk
    rw [List.length_append]
    exact Nat.add_le_add room chunk
  | interrupted room read => exact fits

/-- **Filling is contained**: there are no more turns than there is to be read. -/
theorem contained_fill {reader : Reader} (fits : reader.1.length ≤ mostHeld) :
    Contained fillTurn? Prod.fst fillReader (ReadOutcome.volume reader.2) reader :=
  @contained _ _ _ Prod.fst fillReader (fun reader => ReadOutcome.volume reader.2)
    (fun _ _ turned => volume_fillTurn_lt (fillTurn_of_eq_some turned))
    (fun _ _ turned => fillReader_turn (fillTurn_of_eq_some turned))
    (fun _ _ turned => length_fillTurn_le (fillTurn_of_eq_some turned)) reader fits

/-! ### The answer is awaited -/

/-- A read for a line that is not complete yet. -/
def awaitTurn? (reader : Reader) : Option Reader :=
  match pop reader.1 with
  | (.frame _, _) => none
  | (.malformed, _) => none
  | (.oversized, _) => none
  | (.incomplete, buffer) =>
    match ReadOutcome.nextWaiting reader.2 with
    | (.bytes bytes, rest) => some (buffer ++ bytes, rest)
    | (.interrupted, rest) => some (buffer, rest)
    | (.wouldBlock, _) => none
    | (.endOfFile, _) => none
    | (.failed _, _) => none

/-- What one turn of the waiting does. -/
inductive AwaitTurn (reader : Reader) : Reader → Prop where
  | bytes {buffer data : List UInt8} {rest : List ReadOutcome}
    (popped : pop reader.1 = (.incomplete, buffer))
    (read : ReadOutcome.nextWaiting reader.2 = (.bytes data, rest)) :
    AwaitTurn reader (buffer ++ data, rest)
  | interrupted {buffer : List UInt8} {rest : List ReadOutcome}
    (popped : pop reader.1 = (.incomplete, buffer))
    (read : ReadOutcome.nextWaiting reader.2 = (.interrupted, rest)) :
    AwaitTurn reader (buffer, rest)

theorem awaitTurn_of_eq_some {reader next : Reader} (turned : awaitTurn? reader = some next) :
    AwaitTurn reader next := by
  unfold awaitTurn? at turned
  split at turned
  · cases turned
  · cases turned
  · cases turned
  · split at turned
    · cases turned
      exact .bytes ‹_› ‹_›
    · cases turned
      exact .interrupted ‹_› ‹_›
    all_goals cases turned

/-- The waiting, as it is done in turns. -/
def awaitReader (reader : Reader) : Except Fault (Frame × Reader) :=
  Socket.awaitAnswer reader.1 reader.2

/-- How the waiting ends. -/
inductive AwaitExit (reader : Reader) : Except Fault (Frame × Reader) → Prop where
  | answer {frame : Frame} {buffer : List UInt8} (popped : pop reader.1 = (.frame frame, buffer)) :
    AwaitExit reader (.ok (frame, buffer, reader.2))
  | malformed {buffer : List UInt8} (popped : pop reader.1 = (.malformed, buffer)) :
    AwaitExit reader (.error (.protocol "bad frame"))
  | oversized {buffer : List UInt8} (popped : pop reader.1 = (.oversized, buffer)) :
    AwaitExit reader (.error (.lost Socket.oversizedReason))
  | unanswered {buffer : List UInt8} {outcome : ReadOutcome} {rest : List ReadOutcome}
    {reason : String} (popped : pop reader.1 = (.incomplete, buffer))
    (read : ReadOutcome.nextWaiting reader.2 = (outcome, rest)) (halts : outcome.goesOn = false) :
    AwaitExit reader (.error (.notConnected reason))

theorem awaitReader_turn {reader next : Reader} (turn : AwaitTurn reader next) :
    awaitReader reader = awaitReader next := by
  unfold awaitReader
  rw [@Socket.awaitAnswer.eq_def reader.1 reader.2]
  cases turn with
  | bytes popped read =>
    rw [popped]
    dsimp only
    split <;> rename_i same <;> rw [read] at same <;> cases same
    rfl
  | interrupted popped read =>
    rw [popped]
    dsimp only
    split <;> rename_i same <;> rw [read] at same <;> cases same
    rfl

theorem awaitReader_exit {reader : Reader} (last : awaitTurn? reader = none) :
    AwaitExit reader (awaitReader reader) := by
  unfold awaitReader
  rw [@Socket.awaitAnswer.eq_def reader.1 reader.2]
  unfold awaitTurn? at last
  split
  · exact .answer ‹_›
  · exact .malformed ‹_›
  · exact .oversized ‹_›
  · rename_i popped
    rw [popped] at last
    split
    · rename_i read
      rw [read] at last
      cases last
    · rename_i read
      rw [read] at last
      cases last
    · exact .unanswered popped ‹_› rfl
    · exact .unanswered popped ‹_› rfl
    · exact .unanswered popped ‹_› rfl

theorem volume_awaitTurn_lt {reader next : Reader} (turn : AwaitTurn reader next) :
    ReadOutcome.volume next.2 < ReadOutcome.volume reader.2 := by
  cases turn with
  | bytes popped read | interrupted popped read =>
    have less := @ReadOutcome.volume_nextWaiting reader.2 (by rw [read]; rfl)
    rw [read] at less
    exact less

/-- What is left while more bytes are needed is no longer than a line may be. -/
theorem length_of_incomplete {buffer rest : List UInt8}
    (popped : pop buffer = (.incomplete, rest)) : rest.length ≤ longestLine := by
  fun_induction pop buffer with
  | case1 buffer found =>
    split at popped
    · cases popped
    · rename_i room
      cases popped
      exact Nat.not_lt.mp room
  | case2 buffer b rest found line blank ih => exact ih popped
  | case3 buffer b rest found line notBlank =>
    have isLine := isLine_ofLine line
    have incomplete : Popped.ofLine line = .incomplete := congrArg Prod.fst popped
    rw [incomplete] at isLine
    cases isLine

theorem length_awaitTurn_le {reader next : Reader} (turn : AwaitTurn reader next) :
    next.1.length ≤ mostHeld := by
  cases turn with
  | bytes popped read =>
    have chunk := byteCount_nextWaiting_le_chunkSize reader.2
    rw [read] at chunk
    rw [List.length_append]
    exact Nat.add_le_add (length_of_incomplete popped) chunk
  | interrupted popped read =>
    exact Nat.le_trans (length_of_incomplete popped) (Nat.le_add_right _ _)

/-- **Waiting is contained**: there are no more turns than there is to be read. -/
theorem contained_await {reader : Reader} (fits : reader.1.length ≤ mostHeld) :
    Contained awaitTurn? Prod.fst awaitReader (ReadOutcome.volume reader.2) reader :=
  @contained _ _ _ Prod.fst awaitReader (fun reader => ReadOutcome.volume reader.2)
    (fun _ _ turned => volume_awaitTurn_lt (awaitTurn_of_eq_some turned))
    (fun _ _ turned => awaitReader_turn (awaitTurn_of_eq_some turned))
    (fun _ _ turned _ => length_awaitTurn_le (awaitTurn_of_eq_some turned)) reader fits

end LaunchSupervisor.Bus
