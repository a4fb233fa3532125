import LaunchSupervisor.Proofs.Bus.Framing
import LaunchSupervisor.Proofs.Bus.Turns

/-!
**What one attempt takes off a stream**, with lines of any length. The bytes of a connection are
those it holds and those it can still get; what it can still get depends on how long one is ready to
wait. An attempt takes lines off the front of these bytes. Together the lines say one thing, or they
say nothing; then the line under way is longer than any may be, or there is only a piece of it.

* `Limit`, `Limit.bytesOf`: what can be got from a history, up to the end, a pause or a failure.
* `Starts`, `popsOff`: lines off the front of a stream, and how popping takes them.
* `fillBrings`: what filling adds to a buffer.
* `Socket.Took`, `Socket.took`: one attempt.
-/

namespace LaunchSupervisor.Bus

/-! ### What a history brings -/

/-- The bytes that an outcome brings. -/
def ReadOutcome.data : ReadOutcome → List UInt8
  | .bytes data => data
  | .wouldBlock => []
  | .interrupted => []
  | .endOfFile => []
  | .failed _ => []

/-- A kind of outcome behind which nothing counts. The end of the stream is always one; bytes and
interruptions never are. -/
structure Limit where
  stops : ReadOutcome → Bool
  bytes : ∀ data, stops (.bytes data) = false
  interrupted : stops .interrupted = false
  endOfFile : stops .endOfFile = true

namespace Limit

/-- Everything counts up to the end of the stream. -/
def ended : Limit where
  stops outcome := decide (outcome = .endOfFile)
  bytes _ := rfl
  interrupted := rfl
  endOfFile := rfl

/-- Everything counts that one can get without waiting. -/
def pause : Limit where
  stops outcome := !outcome.goesOn
  bytes _ := rfl
  interrupted := rfl
  endOfFile := rfl

/-- Everything counts that one can get by waiting. -/
def failure : Limit where
  stops outcome := !outcome.goesOn && decide (outcome ≠ .wouldBlock)
  bytes _ := rfl
  interrupted := rfl
  endOfFile := rfl

/-- The bytes that a history brings before the limit. -/
def bytesOf (limit : Limit) : List ReadOutcome → List UInt8
  | [] => []
  | outcome :: rest => if limit.stops outcome then [] else outcome.data ++ limit.bytesOf rest

variable (limit : Limit)

/-- **A read takes its bytes off the front.** -/
theorem bytesOf_next (history : List ReadOutcome) :
    limit.bytesOf history =
      if limit.stops (ReadOutcome.next history).1 then []
      else (ReadOutcome.next history).1.data ++ limit.bytesOf (ReadOutcome.next history).2 := by
  fun_induction ReadOutcome.next history with
  | case1 => simp [bytesOf, ReadOutcome.data]
  | case2 rest ih =>
    rw [bytesOf, limit.bytes, ← ih]
    rfl
  | case3 b more rest whole => rfl
  | case4 b more rest cut =>
    simp only [bytesOf, limit.bytes, ReadOutcome.data, Bool.false_eq_true, if_false]
    rw [← List.append_assoc, List.take_append_drop]
  | case5 rest | case6 rest | case8 reason rest => rfl
  | case7 rest => simp [bytesOf, limit.endOfFile]

theorem bytesOf_nextWaiting (waits : limit.stops .wouldBlock = false)
    (history : List ReadOutcome) :
    limit.bytesOf history =
      if limit.stops (ReadOutcome.nextWaiting history).1 then []
      else (ReadOutcome.nextWaiting history).1.data ++
        limit.bytesOf (ReadOutcome.nextWaiting history).2 := by
  fun_induction ReadOutcome.nextWaiting history with
  | case1 => simp [bytesOf, ReadOutcome.data]
  | case2 rest ih =>
    rw [bytesOf, waits, ← ih]
    rfl
  | case3 rest ih =>
    rw [bytesOf, limit.interrupted, ← ih]
    rfl
  | case4 rest ih =>
    rw [bytesOf, limit.bytes, ← ih]
    rfl
  | case5 history => exact limit.bytesOf_next history

end Limit

/-- A read that fails was going to. -/
theorem failed_of_next {history : List ReadOutcome} {reason : String} :
    ((ReadOutcome.next history).1 = .failed reason → .failed reason ∈ history) ∧
      (.failed reason ∈ (ReadOutcome.next history).2 → .failed reason ∈ history) := by
  fun_induction ReadOutcome.next history with
  | case1 => simp
  | case2 rest ih =>
    exact ⟨fun read => List.mem_cons_of_mem _ (ih.1 read),
      fun left => List.mem_cons_of_mem _ (ih.2 left)⟩
  | case3 b more rest whole => simp +contextual
  | case4 b more rest cut => simp
  | case5 rest | case6 rest | case7 rest => simp +contextual
  | case8 other rest => simp +contextual

/-! ### Lines off the front of a stream -/

/-- Lines as they stand in a stream. -/
def closed (lines : List (List UInt8)) : List UInt8 :=
  lines.flatMap (· ++ [lineFeed])

@[simp] theorem closed_nil : closed [] = [] := rfl

@[simp] theorem closed_cons (line : List UInt8) (lines : List (List UInt8)) :
    closed (line :: lines) = line ++ lineFeed :: closed lines := by
  simp [closed]

@[simp] theorem closed_append (lines more : List (List UInt8)) :
    closed (lines ++ more) = closed lines ++ closed more := by
  simp [closed]

/-- **A stream starts with lines**, each of which can be held with its end. -/
structure Starts (stream : List UInt8) (lines : List (List UInt8)) (rest : List UInt8) : Prop where
  whole : stream = closed lines ++ rest
  plain : ∀ line ∈ lines, lineFeed ∉ line
  short : ∀ line ∈ lines, line.length < mostHeld

theorem Starts.here (stream : List UInt8) : Starts stream [] stream :=
  ⟨rfl, nofun, nofun⟩

theorem Starts.trans {stream middle rest : List UInt8} {lines more : List (List UInt8)}
    (early : Starts stream lines middle) (late : Starts middle more rest) :
    Starts stream (lines ++ more) rest where
  whole := by rw [early.whole, late.whole, closed_append, List.append_assoc]
  plain := List.forall_mem_append.mpr ⟨early.plain, late.plain⟩
  short := List.forall_mem_append.mpr ⟨early.short, late.short⟩

theorem Starts.append {stream rest : List UInt8} {lines : List (List UInt8)}
    (starts : Starts stream lines rest) (more : List UInt8) :
    Starts (stream ++ more) lines (rest ++ more) :=
  ⟨by rw [starts.whole, List.append_assoc], starts.plain, starts.short⟩

/-- Lines that say nothing do not count. -/
theorem said_append {lines more : List (List UInt8)} {said : List Taken}
    (quiet : lines.filterMap outcome? = []) (later : more.filterMap outcome? = said) :
    (lines ++ more).filterMap outcome? = said := by
  rw [List.filterMap_append, quiet, later, List.nil_append]

/-- **What popping takes off a buffer**: some lines that together say one thing, or nothing. -/
inductive PopsOff (buffer : List UInt8) : Popped × List UInt8 → Prop where
  | line {popped : Popped} {taken : Taken} {lines : List (List UInt8)} {rest : List UInt8}
    (means : Socket.taken? popped = some taken) (isLine : popped.isLine)
    (starts : Starts buffer lines rest) (said : lines.filterMap outcome? = [taken]) :
    PopsOff buffer (popped, rest)
  | oversized {lines : List (List UInt8)} {rest : List UInt8} (starts : Starts buffer lines rest)
    (quiet : lines.filterMap outcome? = []) (plain : lineFeed ∉ rest)
    (long : longestLine < rest.length) : PopsOff buffer (.oversized, rest)
  | incomplete {lines : List (List UInt8)} {rest : List UInt8} (starts : Starts buffer lines rest)
    (quiet : lines.filterMap outcome? = []) (plain : lineFeed ∉ rest)
    (short : rest.length ≤ longestLine) : PopsOff buffer (.incomplete, rest)

theorem PopsOff.skip {stream buffer : List UInt8} {lines : List (List UInt8)}
    {result : Popped × List UInt8} (starts : Starts stream lines buffer)
    (quiet : lines.filterMap outcome? = []) (pops : PopsOff buffer result) :
    PopsOff stream result := by
  cases pops with
  | line means isLine later said =>
    exact .line means isLine (starts.trans later) (said_append quiet said)
  | oversized later silent plain long =>
    exact .oversized (starts.trans later) (said_append quiet silent) plain long
  | incomplete later silent plain short =>
    exact .incomplete (starts.trans later) (said_append quiet silent) plain short

/-- **Popping takes lines off the front**, up to the first that says something. -/
theorem popsOff {buffer : List UInt8} (fits : buffer.length ≤ mostHeld) :
    PopsOff buffer (pop buffer) := by
  induction buffer using line_induction with
  | piece line plain =>
    rw [pop_unterminated plain]
    by_cases long : longestLine < line.length
    · rw [if_pos long]
      exact .oversized (.here line) rfl plain long
    · rw [if_neg long]
      exact .incomplete (.here line) rfl plain (Nat.not_lt.mp long)
  | line line rest plain ih =>
    rw [List.length_append, List.length_cons] at fits
    have first : Starts (line ++ lineFeed :: rest) [line] rest :=
      ⟨by simp, by simpa using plain, by rw [List.forall_mem_singleton]; omega⟩
    rw [pop_line plain]
    by_cases blank : line.all isAsciiBlank
    · have quiet : [line].filterMap outcome? = [] := by simp [outcome?, blank]
      rw [if_pos blank]
      exact (ih (by omega)).skip first quiet
    · have means := taken?_ofLine (Bool.eq_false_iff.mpr blank)
      obtain ⟨taken, brings⟩ : ∃ taken, outcome? line = some taken := by
        rw [outcome?, if_neg blank]
        cases Frame.ofLine? line <;> exact ⟨_, rfl⟩
      rw [if_neg blank]
      exact .line (means.trans brings) (isLine_ofLine line) first (by simp [brings])

/-! ### What filling brings -/

namespace Limit

variable (limit : Limit)

/-- The bytes of a reader: those it holds, and those that it can still get. -/
def stream (reader : Reader) : List UInt8 :=
  reader.1 ++ limit.bytesOf reader.2

/-- What can still be got behind a halt: either all that is left counts, or nothing does. -/
def Leaves (rest : List ReadOutcome) (tail : List UInt8) : Prop :=
  (tail = limit.bytesOf rest ∨ tail = [] ∧ limit ≠ ended) ∧ (limit = pause → tail = [])

end Limit

theorem leaves_halt (limit : Limit) {history rest : List ReadOutcome} {outcome : ReadOutcome}
    (read : ReadOutcome.next history = (outcome, rest)) (halts : outcome.goesOn = false)
    (unended : outcome ≠ .endOfFile) : limit.Leaves rest (limit.bytesOf history) := by
  have split := limit.bytesOf_next history
  have silent : outcome.data = [] := by
    cases outcome <;> first | rfl | cases halts
  rw [read, silent, List.nil_append] at split
  dsimp only at split
  by_cases stops : limit.stops outcome
  · rw [if_pos stops] at split
    rw [split]
    refine ⟨.inr ⟨rfl, ?_⟩, fun _ => rfl⟩
    rintro rfl
    exact unended (of_decide_eq_true stops)
  · rw [if_neg stops] at split
    rw [split]
    refine ⟨.inl rfl, ?_⟩
    rintro rfl
    simp [Limit.pause, halts] at stops

theorem bytesOf_ended (limit : Limit) {history rest : List ReadOutcome}
    (read : ReadOutcome.next history = (.endOfFile, rest)) : limit.bytesOf history = [] := by
  rw [limit.bytesOf_next, read]
  exact if_pos limit.endOfFile

/-- **What filling brings** to a reader, as far as the limit. -/
inductive FillBrings (limit : Limit) (reader : Reader) :
    Socket.Halt × List UInt8 × List ReadOutcome → Prop where
  | full {buffer : List UInt8} {rest : List ReadOutcome} (fits : buffer.length ≤ mostHeld)
    (long : longestLine < buffer.length)
    (stream : limit.stream reader = buffer ++ limit.bytesOf rest) :
    FillBrings limit reader (.full, buffer, rest)
  | idle {buffer tail : List UInt8} {rest : List ReadOutcome}
    (short : buffer.length ≤ longestLine) (stream : limit.stream reader = buffer ++ tail)
    (leaves : limit.Leaves rest tail) : FillBrings limit reader (.idle, buffer, rest)
  | ended {buffer : List UInt8} {rest : List ReadOutcome} (short : buffer.length ≤ longestLine)
    (stream : limit.stream reader = buffer) : FillBrings limit reader (.ended, buffer, rest)
  | failed {reason : String} {buffer tail : List UInt8} {rest : List ReadOutcome}
    (short : buffer.length ≤ longestLine) (stream : limit.stream reader = buffer ++ tail)
    (leaves : limit.Leaves rest tail) (planned : .failed reason ∈ reader.2) :
    FillBrings limit reader (.failed reason, buffer, rest)

/-- A turn of the filling keeps the bytes. -/
theorem stream_fillTurn (limit : Limit) {reader next : Reader} (turn : FillTurn reader next) :
    limit.stream next = limit.stream reader := by
  have split := limit.bytesOf_next reader.2
  cases turn with
  | bytes room read =>
    rw [read] at split
    simp only [limit.bytes, Bool.false_eq_true, if_false] at split
    unfold Limit.stream
    rw [split, List.append_assoc]
    rfl
  | interrupted room read =>
    rw [read] at split
    simp only [limit.interrupted, Bool.false_eq_true, if_false] at split
    unfold Limit.stream
    rw [split]
    rfl

theorem failed_fillTurn {reader next : Reader} (turn : FillTurn reader next) {reason : String}
    (left : .failed reason ∈ next.2) : .failed reason ∈ reader.2 := by
  have kept := @failed_of_next reader.2 reason
  cases turn with
  | bytes room read | interrupted room read =>
    rw [read] at kept
    exact kept.2 left

theorem fillBrings (limit : Limit) {reader : Reader} (fits : reader.1.length ≤ mostHeld) :
    FillBrings limit reader (fillReader reader) ∧
      ∀ reason, .failed reason ∈ (fillReader reader).2.2 → .failed reason ∈ reader.2 := by
  obtain ⟨held, turns, last, -, passes, stops, same⟩ := contained_fill fits
  have kept : limit.stream last = limit.stream reader :=
    @Passes.invariant _ _ (fun state => limit.stream state = limit.stream reader) _ _ _ passes
      (fun _ _ turned kept => (stream_fillTurn limit (fillTurn_of_eq_some turned)).trans kept) rfl
  have planned : ∀ reason, .failed reason ∈ last.2 → .failed reason ∈ reader.2 :=
    @Passes.invariant _ _ (fun state => ∀ reason, .failed reason ∈ state.2 →
      .failed reason ∈ reader.2) _ _ _ passes
      (fun _ _ turned kept reason left =>
        kept reason (failed_fillTurn (fillTurn_of_eq_some turned) left)) fun _ left => left
  have later (rest : List ReadOutcome) (outcome : ReadOutcome)
      (read : ReadOutcome.next last.2 = (outcome, rest)) (reason : String)
      (left : .failed reason ∈ rest) : .failed reason ∈ reader.2 := by
    refine planned reason (failed_of_next.2 ?_)
    rw [read]
    exact left
  have exit := fillReader_exit stops
  rw [same]
  generalize fillReader last = result at exit
  cases exit with
  | full long => exact ⟨.full (held _ _ passes) long kept.symm, planned⟩
  | idle room read =>
    exact ⟨.idle room kept.symm (leaves_halt limit read rfl nofun), later _ _ read⟩
  | ended room read =>
    refine ⟨.ended room ?_, later _ _ read⟩
    rw [← kept, Limit.stream, bytesOf_ended limit read, List.append_nil]
  | failed room read =>
    refine ⟨.failed room kept.symm (leaves_halt limit read rfl nofun) ?_, later _ _ read⟩
    refine planned _ (failed_of_next.1 ?_)
    rw [read]

/-! ### What one attempt takes -/

namespace Socket

/-- What a connection can still get, as far as the limit: nothing once the end was read. -/
def unread (socket : Socket) (limit : Limit) : List UInt8 :=
  if socket.ended then [] else limit.bytesOf socket.wire.incoming

/-- The bytes of a connection: those it holds, and those that it can still get. -/
def stream (socket : Socket) (limit : Limit) : List UInt8 :=
  socket.buffer ++ socket.unread limit

/-- **A step of a connection**: lines are taken off the front of its bytes. What it can still get
after that is what is left of them, or more if it has come upon a pause or a failure on the way. -/
structure Steps (limit : Limit) (socket next : Socket) (lines : List (List UInt8))
    (tail : List UInt8) : Prop where
  starts : Starts (socket.stream limit) lines (next.buffer ++ tail)
  tail : tail = next.unread limit ∨ tail = [] ∧ limit ≠ .ended
  fits : next.buffer.length ≤ mostHeld
  planned : ∀ reason, .failed reason ∈ next.wire.incoming →
    .failed reason ∈ socket.wire.incoming

/-- A result that is no line and does not come from one: there is nothing yet, the bus has hung up,
or a read has failed. -/
inductive Halted (socket : Socket) : Taken → Prop where
  | pause : Halted socket (.ok none)
  | hungUp : Halted socket (.error hungUp)
  | failed {reason : String} (planned : .failed reason ∈ socket.wire.incoming) :
    Halted socket (.error (.lost reason))

/-- **What an attempt comes to**: some lines are taken that together say one thing; or none that
says anything, and then the line under way is too long, or there is no more than a piece of it. -/
inductive Took (limit : Limit) (socket : Socket) : Taken × Socket → Prop where
  | outcome {next : Socket} {lines : List (List UInt8)} {tail : List UInt8} {taken : Taken}
    (steps : Steps limit socket next lines tail) (said : lines.filterMap outcome? = [taken]) :
    Took limit socket (taken, next)
  | oversized {next : Socket} {lines : List (List UInt8)} {tail : List UInt8}
    (steps : Steps limit socket next lines tail) (quiet : lines.filterMap outcome? = [])
    (plain : lineFeed ∉ next.buffer) (long : longestLine < next.buffer.length) :
    Took limit socket (.error (.lost oversizedReason), next)
  | halted {next : Socket} {lines : List (List UInt8)} {tail : List UInt8} {taken : Taken}
    (steps : Steps limit socket next lines tail) (quiet : lines.filterMap outcome? = [])
    (short : next.buffer.length ≤ longestLine)
    (spent : limit = .pause → tail = [] ∨ lines ≠ [] ∧ taken = .ok none)
    (halted : Halted socket taken) : Took limit socket (taken, next)

variable {limit : Limit} {socket filled : Socket} {lead : List (List UInt8)} {tail : List UInt8}

theorem Steps.pop (steps : Steps limit socket filled lead tail) {lines : List (List UInt8)}
    {rest : List UInt8} (starts : Starts filled.buffer lines rest) :
    Steps limit socket { filled with buffer := rest } (lead ++ lines) tail where
  starts := steps.starts.trans (starts.append tail)
  tail := steps.tail
  fits := by
    have fits := steps.fits
    rw [starts.whole, List.length_append] at fits
    exact Nat.le_of_add_left_le fits
  planned := steps.planned

theorem took_takeFilled (steps : Steps limit socket filled lead tail)
    (quiet : lead.filterMap outcome? = [])
    (spent : limit = .pause → tail = [] ∨ longestLine < filled.buffer.length) :
    Took limit socket filled.takeFilled := by
  have popped := popsOff steps.fits
  unfold takeFilled
  generalize Bus.pop filled.buffer = result at popped
  cases popped with
  | line means isLine starts said =>
    simp only [means]
    exact .outcome (steps.pop starts) (said_append quiet said)
  | oversized starts silent plain long =>
    exact .oversized (steps.pop starts) (said_append quiet silent) plain long
  | @incomplete lines rest starts silent plain short =>
    have none : (lead ++ lines).filterMap outcome? = [] := said_append quiet silent
    simp only [taken?]
    by_cases ended : filled.ended
    · rw [if_pos ended]
      have nothing : tail = [] := by
        rcases steps.tail with same | ⟨same, -⟩
        · rw [same, unread, if_pos ended]
        · exact same
      exact .halted (steps.pop starts) none short (fun _ => .inl nothing) .hungUp
    · rw [if_neg ended]
      refine .halted (steps.pop starts) none short (fun paused => ?_) .pause
      rcases spent paused with nothing | long
      · exact .inl nothing
      · refine .inr ⟨?_, rfl⟩
        -- A buffer that was full has lost a line.
        intro nothing
        have whole := starts.whole
        rw [(List.append_eq_nil_iff.mp nothing).2] at whole
        rw [whole] at long
        exact absurd short (Nat.not_le.mpr long)

theorem took_refill (steps : Steps limit socket filled lead (filled.unread limit))
    (quiet : lead.filterMap outcome? = []) : Took limit socket filled.refill := by
  unfold refill
  by_cases ended : filled.ended
  · rw [if_pos ended]
    refine took_takeFilled steps quiet fun _ => .inl ?_
    rw [unread, if_pos ended]
  · rw [if_neg ended]
    have unread : filled.unread limit = limit.bytesOf filled.wire.incoming := if_neg ended
    have starts := steps.starts
    rw [unread] at starts
    obtain ⟨brings, planned⟩ :=
      @fillBrings limit (filled.buffer, filled.wire.incoming) steps.fits
    -- What the filling leaves is a step from the start, whatever it brings.
    have filledSteps (buffer tail : List UInt8) (rest : List ReadOutcome) (done : Bool)
        (stream : limit.stream (filled.buffer, filled.wire.incoming) = buffer ++ tail)
        (left : tail = (if done then [] else limit.bytesOf rest) ∨ tail = [] ∧ limit ≠ .ended)
        (fits : buffer.length ≤ mostHeld)
        (later : ∀ reason, .failed reason ∈ rest → .failed reason ∈ filled.wire.incoming) :
        Steps limit socket
          { filled with buffer, ended := done, wire := { filled.wire with incoming := rest } }
          lead tail :=
      ⟨stream ▸ starts, left, fits,
        fun reason member => steps.planned reason (later reason member)⟩
    have fit {buffer : List UInt8} (short : buffer.length ≤ longestLine) :
        buffer.length ≤ mostHeld :=
      Nat.le_trans short (Nat.le_add_right _ _)
    have unended : filled.ended = false := Bool.eq_false_iff.mpr ended
    have open_ : filled = { filled with ended := false } := by rw [← unended]
    unfold fillReader at brings planned
    dsimp only at brings planned
    generalize fill filled.buffer filled.wire.incoming = result at brings planned
    cases brings with
    | @full buffer rest fits long stream =>
      have next := filledSteps buffer _ rest false stream (.inl rfl) fits planned
      rw [open_]
      exact took_takeFilled next quiet fun _ => .inr long
    | @idle buffer tail rest short stream leaves =>
      have next := filledSteps buffer _ rest false stream leaves.1 (fit short) planned
      rw [open_]
      exact took_takeFilled next quiet fun paused => .inl (leaves.2 paused)
    | @ended buffer rest short stream =>
      have next := filledSteps buffer [] rest true (by rw [stream, List.append_nil]) (.inl rfl)
        (fit short) planned
      exact took_takeFilled next quiet fun _ => .inl rfl
    | @failed reason buffer tail rest short stream leaves failing =>
      have next := filledSteps buffer _ rest false stream leaves.1 (fit short) planned
      rw [open_]
      exact .halted next quiet short (fun paused => .inl (leaves.2 paused))
        (.failed (steps.planned reason failing))

/-- **An attempt takes lines off the front** of the bytes of a connection, whatever is counted. -/
theorem took (limit : Limit) {socket : Socket} (fits : socket.buffer.length ≤ mostHeld) :
    Took limit socket socket.take := by
  have popped := popsOff fits
  have here : Steps limit socket socket [] (socket.unread limit) :=
    ⟨.here _, .inl rfl, fits, fun _ left => left⟩
  unfold take
  generalize Bus.pop socket.buffer = result at popped
  cases popped with
  | line means isLine starts said =>
    simp only [means]
    exact .outcome (here.pop starts) said
  | oversized starts quiet plain long =>
    exact .oversized (here.pop starts) quiet plain long
  | incomplete starts quiet plain short =>
    exact took_refill (here.pop starts) quiet

end Socket

end LaunchSupervisor.Bus
