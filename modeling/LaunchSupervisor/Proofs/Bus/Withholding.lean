import LaunchSupervisor.Proofs.Bus.Oversized

/-!
**Lines that are held back.** An attempt that brings nothing should mean that there is nothing: it
has taken every complete line, and its last read found nothing more. A connection that is lost
should be lost only once every complete line was accounted for. Both fail in one way each. A buffer
that is filled with blank lines is full, so the attempt stops reading, and then skips all that it
has read. A read that fails ends an attempt at once, whatever lines were read before.

* `fillReads`, `Socket.reads`: the reads that a filling makes, and those of an attempt.
* `tellOf_fillReads`: what filling gives, read off its reads.
* `Socket.Verdict`, `Socket.comes`: how the result of an attempt comes about.
* `Socket.received_takes`: what was received so far is accounted for, but for what is still held.
* `withheld_iff`: when an attempt holds lines back.
-/

namespace LaunchSupervisor.Bus

/-! ### The reads of a filling -/

/-- The reads that filling makes, for a buffer of some length. -/
def fillReads (length : Nat) (incoming : List ReadOutcome) : List ReadOutcome :=
  if longestLine < length then []
  else
    let read := ReadOutcome.next incoming
    if _more : read.1.goesOn then
      read.1 :: fillReads (length + read.1.data.length) read.2
    else [read.1]
termination_by ReadOutcome.volume incoming
decreasing_by exact ReadOutcome.volume_next _more

/-- The bytes that reads bring. -/
def dataOf (reads : List ReadOutcome) : List UInt8 :=
  reads.flatMap ReadOutcome.data

@[simp] theorem dataOf_nil : dataOf [] = [] := rfl

@[simp] theorem dataOf_cons (read : ReadOutcome) (reads : List ReadOutcome) :
    dataOf (read :: reads) = read.data ++ dataOf reads := rfl

@[simp] theorem dataOf_append (reads more : List ReadOutcome) :
    dataOf (reads ++ more) = dataOf reads ++ dataOf more :=
  List.flatMap_append

/-- Why a read puts an end to the filling, if it does. -/
def ReadOutcome.halt? : ReadOutcome → Option Socket.Halt
  | .bytes _ => none
  | .interrupted => none
  | .wouldBlock => some .idle
  | .endOfFile => some .ended
  | .failed reason => some (.failed reason)

/-- Why filling stops after some reads: the last one put an end to it, or the buffer is full. -/
def haltOf (reads : List ReadOutcome) : Socket.Halt :=
  (reads.getLast?.bind ReadOutcome.halt?).getD .full

theorem halt?_of_goesOn {read : ReadOutcome} (more : read.goesOn) : read.halt? = none := by
  cases read <;> first | rfl | cases more

theorem haltOf_cons {read : ReadOutcome} (more : read.goesOn) (reads : List ReadOutcome) :
    haltOf (read :: reads) = haltOf reads := by
  cases reads with
  | nil => simp [haltOf, halt?_of_goesOn more]
  | cons next reads => rw [haltOf, List.getLast?_cons_cons, haltOf]

theorem haltOf_eq_idle_iff {reads : List ReadOutcome} :
    haltOf reads = .idle ↔ reads.getLast? = some .wouldBlock := by
  unfold haltOf
  cases reads.getLast? with
  | none => simp
  | some last => cases last <;> simp [ReadOutcome.halt?]

theorem haltOf_eq_failed_iff {reads : List ReadOutcome} {reason : String} :
    haltOf reads = .failed reason ↔ reads.getLast? = some (.failed reason) := by
  unfold haltOf
  cases reads.getLast? with
  | none => simp
  | some last => cases last <;> simp [ReadOutcome.halt?]

/-- **Reads tell what filling a buffer gives**: the bytes they bring come behind those held, and it
goes on to the read that halts it or until the buffer is full. -/
structure TellOf (reads : List ReadOutcome) (buffer : List UInt8)
    (result : Socket.Halt × List UInt8 × List ReadOutcome) : Prop where
  halt : result.1 = haltOf reads
  held : result.2.1 = buffer ++ dataOf reads
  full : haltOf reads = .full ↔ longestLine < (buffer ++ dataOf reads).length

/-- A read that goes on comes before the others. -/
theorem TellOf.cons {read : ReadOutcome} {reads : List ReadOutcome} {buffer : List UInt8}
    {result : Socket.Halt × List UInt8 × List ReadOutcome} (more : read.goesOn)
    (tell : TellOf reads (buffer ++ read.data) result) : TellOf (read :: reads) buffer result := by
  obtain ⟨halt, held, full⟩ := tell
  rw [List.append_assoc] at held full
  exact ⟨(haltOf_cons more reads).symm ▸ halt, held, (haltOf_cons more reads).symm ▸ full⟩

theorem tellOf_fillReads (buffer : List UInt8) (incoming : List ReadOutcome) :
    TellOf (fillReads buffer.length incoming) buffer (fillReader (buffer, incoming)) := by
  by_cases long : longestLine < buffer.length
  · have stops : fillTurn? (buffer, incoming) = none := if_pos long
    have exit := fillReader_exit stops
    rw [fillReads, if_pos long]
    generalize fillReader (buffer, incoming) = result at exit
    cases exit with
    | full => exact ⟨rfl, (List.append_nil buffer).symm, by simp [haltOf, long]⟩
    | idle room | ended room | failed room => exact absurd long (Nat.not_lt.mpr room)
  · have room := Nat.not_lt.mp long
    have less := @ReadOutcome.volume_next incoming
    rw [fillReads, if_neg long]
    generalize read : ReadOutcome.next incoming = result at less
    obtain ⟨outcome, rest⟩ := result
    rw [@fillReader_read (buffer, incoming) outcome rest room read]
    by_cases more : outcome.goesOn
    · have shorter := less more
      have later := tellOf_fillReads (buffer ++ outcome.data) rest
      rw [List.length_append] at later
      rw [dif_pos more]
      refine .cons more ?_
      cases outcome with
      | bytes data => exact later
      | interrupted =>
        rw [ReadOutcome.data, List.append_nil] at later ⊢
        exact later
      | wouldBlock | endOfFile | failed reason => cases more
    · rw [dif_neg more]
      cases outcome with
      | bytes data | interrupted => exact absurd rfl more
      | wouldBlock | endOfFile | failed reason =>
        exact ⟨rfl, (List.append_nil buffer).symm, by
          simpa [haltOf, ReadOutcome.halt?, ReadOutcome.data] using room⟩
termination_by ReadOutcome.volume incoming

/-- What a stream brings is what the lines at its front say, and what the rest brings. -/
theorem Starts.outcomes {stream rest : List UInt8} {lines : List (List UInt8)}
    (starts : Starts stream lines rest) :
    Bus.outcomes stream = lines.filterMap outcome? ++ Bus.outcomes rest := by
  obtain ⟨rfl, plain, -⟩ := starts
  induction lines with
  | nil => rfl
  | cons line lines ih =>
    rw [List.forall_mem_cons] at plain
    rw [closed_cons, List.append_assoc, List.cons_append, outcomes_line plain.1, ih plain.2,
      ← List.append_assoc, List.filterMap_cons]
    cases outcome? line <;> rfl

/-! ### The reads of attempts -/

namespace Socket

/-- The reads that an attempt makes: none if what is held suffices, or the end was read. -/
def reads (socket : Socket) : List ReadOutcome :=
  match pop socket.buffer with
  | (.incomplete, buffer) =>
    if socket.ended then [] else fillReads buffer.length socket.wire.incoming
  | (.frame _, _) => []
  | (.malformed, _) => []
  | (.oversized, _) => []

/-- What an attempt has gathered after its reads: what was left over by the first look into the
buffer, and the bytes that were read. -/
def gathered (socket : Socket) : List UInt8 :=
  (pop socket.buffer).2 ++ dataOf socket.reads

/-- The reads that so many attempts in a row make. -/
def readsWithin : Nat → Socket → List ReadOutcome
  | 0, _ => []
  | count + 1, socket => socket.reads ++ readsWithin count socket.take.2

/-- The bytes that were received by the end of so many attempts. -/
def received (count : Nat) (socket : Socket) : List UInt8 :=
  socket.buffer ++ dataOf (socket.readsWithin count)

/-- **Every complete line received so far was accounted for** by the results: it was a frame, or it
was reported as none, or it was blank. -/
def Settled (count : Nat) (socket : Socket) : Prop :=
  (socket.takes count).filter Taken.goesOn = outcomes (socket.received count)

/-! ### How a result comes about -/

/-- **How the result of an attempt comes about**, and what it leaves in the buffer. -/
inductive Verdict (socket : Socket) : Taken → List UInt8 → Prop where
  | line {taken : Taken} {left : List UInt8} (more : taken.goesOn)
    (unfailed : ∀ reason, socket.reads.getLast? ≠ some (.failed reason))
    (loud : socket.reads ≠ [] → outcomes socket.gathered ≠ []) : Verdict socket taken left
  | oversized {left : List UInt8} (plain : lineFeed ∉ left) (long : longestLine < left.length)
    (unfailed : ∀ reason, socket.reads.getLast? ≠ some (.failed reason)) :
    Verdict socket (.error (.lost oversizedReason)) left
  | pause {left : List UInt8} (plain : lineFeed ∉ left) (some_ : socket.reads ≠ [])
    (silent : outcomes socket.gathered = [])
    (waited : socket.reads.getLast? = some .wouldBlock ∧
        socket.gathered.length ≤ longestLine ∨
      haltOf socket.reads = .full ∧ longestLine < socket.gathered.length) :
    Verdict socket (.ok none) left
  | hungUp {left : List UInt8} (plain : lineFeed ∉ left)
    (unfailed : ∀ reason, socket.reads.getLast? ≠ some (.failed reason))
    (short : socket.gathered.length ≤ longestLine) : Verdict socket (.error hungUp) left
  | failed {reason : String} (read : socket.reads.getLast? = some (.failed reason))
    (short : socket.gathered.length ≤ longestLine) :
    Verdict socket (.error (.lost reason)) socket.gathered

/-- **What an attempt comes to**: lines are taken off what is held and what was read, and they say
what the attempt brings. -/
structure Comes (socket : Socket) (result : Taken × Socket) : Prop where
  lines : ∃ lines, Starts (socket.buffer ++ dataOf socket.reads) lines result.2.buffer ∧
    lines.filterMap outcome? = [result.1].filter Taken.goesOn
  verdict : Verdict socket result.1 result.2.buffer

theorem reads_eq_nil {socket : Socket} (held : (pop socket.buffer).1 ≠ .incomplete) :
    socket.reads = [] := by
  unfold reads
  split
  · rename_i popped
    exact absurd (congrArg Prod.fst popped) held
  all_goals rfl

theorem reads_of_incomplete {socket : Socket} {buffer : List UInt8}
    (popped : pop socket.buffer = (.incomplete, buffer)) :
    socket.reads =
      if socket.ended then [] else fillReads buffer.length socket.wire.incoming := by
  rw [reads, popped]

theorem gathered_of_incomplete {socket : Socket} {buffer : List UInt8}
    (popped : pop socket.buffer = (.incomplete, buffer)) :
    socket.gathered = buffer ++ dataOf socket.reads := by
  rw [gathered, popped]

theorem gathered_of_open {socket : Socket} {buffer : List UInt8} (open_ : socket.ended = false)
    (popped : pop socket.buffer = (.incomplete, buffer)) :
    socket.gathered = (fillReader (buffer, socket.wire.incoming)).2.1 := by
  rw [gathered_of_incomplete popped, reads_of_incomplete popped, open_,
    (tellOf_fillReads buffer socket.wire.incoming).held]
  rfl

/-- What is taken from all that was gathered. -/
theorem comes_takeFilled {socket filled : Socket} {lead : List (List UInt8)}
    (front : Starts (socket.buffer ++ dataOf socket.reads) lead socket.gathered)
    (quiet : lead.filterMap outcome? = []) (same : filled.buffer = socket.gathered)
    (fits : socket.gathered.length ≤ mostHeld)
    (unfailed : ∀ reason, socket.reads.getLast? ≠ some (.failed reason))
    (open_ : filled.ended = false → socket.reads ≠ [] ∧
      (socket.reads.getLast? = some .wouldBlock ∧ socket.gathered.length ≤ longestLine ∨
        haltOf socket.reads = .full ∧ longestLine < socket.gathered.length))
    (closed : filled.ended = true → socket.gathered.length ≤ longestLine) :
    socket.Comes filled.takeFilled := by
  have popped := popsOff fits
  unfold takeFilled
  rw [same]
  generalize pop socket.gathered = result at popped
  cases popped with
  | @line popped taken lines rest means isLine starts said =>
    have more := goesOn_of_said said
    simp only [means]
    refine ⟨⟨lead ++ lines, front.trans starts, ?_⟩, .line more unfailed fun _ => ?_⟩
    · rw [said_append quiet said, List.filter_cons_of_pos more, List.filter_nil]
    · rw [starts.outcomes, said]
      exact List.cons_ne_nil _ _
  | @oversized lines rest starts silent plain long =>
    exact ⟨⟨lead ++ lines, front.trans starts, said_append quiet silent⟩,
      .oversized plain long unfailed⟩
  | @incomplete lines rest starts silent plain short =>
    have nothing : outcomes socket.gathered = [] := by
      rw [starts.outcomes, silent, outcomes_unterminated plain]
      rfl
    have taken : (lead ++ lines).filterMap outcome? = [] := said_append quiet silent
    simp only [taken?]
    cases ended : filled.ended with
    | true =>
      exact ⟨⟨lead ++ lines, front.trans starts, taken⟩,
        .hungUp plain unfailed (closed ended)⟩
    | false =>
      obtain ⟨some_, waited⟩ := open_ ended
      exact ⟨⟨lead ++ lines, front.trans starts, taken⟩, .pause plain some_ nothing waited⟩

/-- What an attempt comes to that has to read more. -/
theorem comes_refill {socket : Socket} {buffer : List UInt8} {lead : List (List UInt8)}
    (popped : pop socket.buffer = (.incomplete, buffer)) (starts : Starts socket.buffer lead buffer)
    (quiet : lead.filterMap outcome? = []) (short : buffer.length ≤ longestLine) :
    socket.Comes (refill { socket with buffer }) := by
  have fits : buffer.length ≤ mostHeld := Nat.le_trans short (Nat.le_add_right _ _)
  have reads := reads_of_incomplete popped
  have gathered := gathered_of_incomplete popped
  have front : Starts (socket.buffer ++ dataOf socket.reads) lead socket.gathered :=
    gathered ▸ starts.append _
  unfold refill
  by_cases ended : socket.ended
  · rw [if_pos ended] at reads ⊢
    rw [reads, dataOf_nil, List.append_nil] at gathered
    refine comes_takeFilled front quiet gathered.symm (gathered ▸ fits) ?_ ?_ fun _ =>
      gathered ▸ short
    · simp [reads]
    · intro unended
      rw [ended] at unended
      cases unended
  · rw [if_neg ended] at reads ⊢
    have tell := tellOf_fillReads buffer socket.wire.incoming
    have held := @length_fillReader_le (buffer, socket.wire.incoming) fits
    rw [← reads] at tell
    unfold fillReader at tell held
    dsimp only at tell held ⊢
    generalize fill buffer socket.wire.incoming = result at tell held
    obtain ⟨halt, filled, rest⟩ := result
    obtain ⟨halts, same, full⟩ := tell
    rw [← gathered] at same full
    dsimp only at halts same held
    rw [same] at held
    have some_ : socket.reads ≠ [] := by
      rw [reads, fillReads, if_neg (Nat.not_lt.mpr short)]
      dsimp only
      split <;> exact List.cons_ne_nil _ _
    -- Filling stopped for one reason, so for no other.
    have unfailed (other : ∀ reason, halt ≠ .failed reason) (reason : String) :
        socket.reads.getLast? ≠ some (.failed reason) := fun last =>
      other reason (halts.trans (haltOf_eq_failed_iff.mpr last))
    have room (other : halt ≠ .full) : socket.gathered.length ≤ longestLine :=
      Nat.not_lt.mp fun long => other (halts.trans (full.mpr long))
    cases halt with
    | idle =>
      exact comes_takeFilled front quiet same held (unfailed nofun)
        (fun _ => ⟨some_, .inl ⟨haltOf_eq_idle_iff.mp halts.symm, room nofun⟩⟩)
        (fun closed => absurd closed ended)
    | full =>
      exact comes_takeFilled front quiet same held (unfailed nofun)
        (fun _ => ⟨some_, .inr ⟨halts.symm, full.mp halts.symm⟩⟩)
        (fun closed => absurd closed ended)
    | ended =>
      exact comes_takeFilled front quiet same held (unfailed nofun) nofun (fun _ => room nofun)
    | failed reason =>
      refine ⟨⟨lead, ?_, quiet⟩, ?_⟩
      · exact same ▸ front
      · exact same ▸ .failed (haltOf_eq_failed_iff.mp halts.symm) (room nofun)

/-- **How an attempt goes.** -/
theorem comes {socket : Socket} (fits : socket.buffer.length ≤ mostHeld) :
    socket.Comes socket.take := by
  have off := popsOff fits
  unfold take
  generalize popped : pop socket.buffer = result at off
  cases off with
  | @line _ taken lines rest means isLine starts said =>
    have more := goesOn_of_said said
    have unread : socket.reads = [] := by
      refine reads_eq_nil fun incomplete => ?_
      rw [popped] at incomplete
      cases incomplete
      cases isLine
    simp only [means]
    refine ⟨⟨lines, ?_, ?_⟩, .line more (by simp [unread]) fun some_ => absurd unread some_⟩
    · rw [unread, dataOf_nil, List.append_nil]
      exact starts
    · rw [said, List.filter_cons_of_pos more, List.filter_nil]
  | @oversized lines rest starts quiet plain long =>
    have unread : socket.reads = [] := reads_eq_nil fun incomplete => by
      rw [popped] at incomplete
      cases incomplete
    refine ⟨⟨lines, ?_, quiet⟩, .oversized plain long (by simp [unread])⟩
    rw [unread, dataOf_nil, List.append_nil]
    exact starts
  | incomplete starts quiet plain short => exact comes_refill popped starts quiet short

/-! ### All attempts -/

/-- **The bytes received so far are lines that were accounted for, and what is still held.** -/
theorem received_takes {socket : Socket} (fits : socket.buffer.length ≤ mostHeld) (count : Nat) :
    ∃ lines, Starts (socket.received count) lines (socket.after count).buffer ∧
      lines.filterMap outcome? = (socket.takes count).filter Taken.goesOn := by
  induction count generalizing socket with
  | zero =>
    refine ⟨[], ?_, rfl⟩
    rw [received, readsWithin, dataOf_nil, List.append_nil]
    exact .here _
  | succ count ih =>
    obtain ⟨lines, starts, said⟩ := (comes fits).lines
    obtain ⟨later, rest, saidLater⟩ := ih (took .ended fits).fits
    refine ⟨lines ++ later, ?_, ?_⟩
    · rw [received, readsWithin, dataOf_append, ← List.append_assoc]
      exact (starts.append _).trans rest
    · rw [List.filterMap_append, said, saidLater, ← List.filter_append]
      rfl

/-- What was received so far is accounted for just if no line that says something is still held. -/
theorem settled_iff {socket : Socket} (fits : socket.buffer.length ≤ mostHeld) (count : Nat) :
    socket.Settled count ↔ outcomes (socket.after count).buffer = [] := by
  obtain ⟨lines, starts, said⟩ := received_takes fits count
  rw [Settled, starts.outcomes, said, List.self_eq_append_right]

theorem after_succ (socket : Socket) (count : Nat) :
    socket.after (count + 1) = (socket.after count).take.2 := by
  induction count generalizing socket with
  | zero => rfl
  | succ count ih => exact ih socket.take.2

/-! ### When lines are held back -/

/-- The reads of an attempt have filled the buffer, and no complete line in it says anything. -/
def Overfilled (socket : Socket) : Prop :=
  socket.reads ≠ [] ∧ longestLine < socket.gathered.length ∧ outcomes socket.gathered = []

/-- A read of an attempt has failed, and a line that was gathered by then says something. -/
def BrokenOff (socket : Socket) : Prop :=
  (∃ reason, socket.reads.getLast? = some (.failed reason)) ∧ outcomes socket.gathered ≠ []

theorem bounded_of_starts {stream rest : List UInt8} {lines : List (List UInt8)}
    (starts : Starts stream lines rest) (bounded : Bounded stream) : Bounded rest := by
  obtain ⟨rfl, plain, -⟩ := starts
  induction lines with
  | nil => exact bounded
  | cons line lines ih =>
    rw [List.forall_mem_cons] at plain
    rw [closed_cons, List.append_assoc, List.cons_append, bounded_line_iff plain.1] at bounded
    exact ih plain.2 bounded.2

theorem bounded_take {socket : Socket} (fits : socket.buffer.length ≤ mostHeld)
    (bounded : Bounded (socket.stream .ended)) : Bounded (socket.take.2.stream .ended) := by
  have taken := took .ended fits
  generalize socket.take = result at taken
  cases taken with
  | outcome steps | oversized steps | halted steps =>
    exact bounded_of_starts (stream_of_steps steps) bounded

theorem bounded_after {socket : Socket} (fits : socket.buffer.length ≤ mostHeld)
    (bounded : Bounded (socket.stream .ended)) (count : Nat) :
    Bounded ((socket.after count).stream .ended) := by
  induction count generalizing socket with
  | zero => exact bounded
  | succ count ih => exact ih (took .ended fits).fits (bounded_take fits bounded)

/-- **Nothing is brought though there may be more** just if the buffer was filled in vain. -/
theorem pause_iff_overfilled {socket : Socket} (fits : socket.buffer.length ≤ mostHeld)
    (bounded : Bounded (socket.stream .ended)) :
    socket.take.1 = .ok none ∧ socket.reads.getLast? ≠ some .wouldBlock ↔
      socket.Overfilled := by
  have verdict := (comes fits).verdict
  have room : lineFeed ∉ socket.take.2.buffer → socket.take.2.buffer.length ≤ longestLine :=
    fun plain => length_le_of_bounded plain (bounded_take fits bounded)
  generalize socket.take.1 = taken at verdict ⊢
  generalize socket.take.2.buffer = left at verdict room
  constructor
  · rintro ⟨rfl, goesOn⟩
    cases verdict with
    | line more => cases more
    | pause plain some_ silent waited =>
      obtain ⟨waits, -⟩ | ⟨-, long⟩ := waited
      · exact absurd waits goesOn
      · exact ⟨some_, long, silent⟩
  · rintro ⟨some_, long, silent⟩
    cases verdict with
    | line more unfailed loud => exact absurd silent (loud some_)
    | oversized plain tooMuch => exact absurd (room plain) (Nat.not_le.mpr tooMuch)
    | pause plain some_ silent waited =>
      obtain ⟨-, short⟩ | ⟨full, -⟩ := waited
      · exact absurd long (Nat.not_lt.mpr short)
      · refine ⟨rfl, fun waits => ?_⟩
        rw [haltOf_eq_idle_iff.mpr waits] at full
        cases full
    | hungUp plain unfailed short | failed read short =>
      exact absurd long (Nat.not_lt.mpr short)

/-- A read that fails ends an attempt, and leaves all that was gathered. -/
theorem lost_of_failed {socket : Socket} (fits : socket.buffer.length ≤ mostHeld)
    {reason : String} (read : socket.reads.getLast? = some (.failed reason)) :
    socket.take.1 = .error (.lost reason) ∧ socket.take.2.buffer = socket.gathered := by
  have verdict := (comes fits).verdict
  generalize socket.take.1 = taken at verdict ⊢
  generalize socket.take.2.buffer = left at verdict ⊢
  cases verdict with
  | line more unfailed | oversized plain long unfailed | hungUp plain unfailed =>
    exact absurd read (unfailed reason)
  | pause plain some_ silent waited =>
    obtain ⟨waits, -⟩ | ⟨full, -⟩ := waited
    · rw [read] at waits
      cases waits
    · rw [haltOf_eq_failed_iff.mpr read] at full
      cases full
  | failed last =>
    cases read.symm.trans last
    exact ⟨rfl, rfl⟩

/-- **A connection is lost with lines that were not accounted for** just if a read failed behind
them. -/
theorem lost_iff_brokenOff {socket : Socket} (fits : socket.buffer.length ≤ mostHeld) :
    (∃ reason, socket.take.1 = .error (.lost reason)) ∧ outcomes socket.take.2.buffer ≠ [] ↔
      socket.BrokenOff := by
  constructor
  · rintro ⟨⟨reason, lost⟩, held⟩
    have verdict := (comes fits).verdict
    generalize socket.take.2.buffer = left at verdict held
    rw [lost] at verdict
    cases verdict with
    | line more => cases more
    | oversized plain | hungUp plain => exact absurd (outcomes_unterminated plain) held
    | failed read => exact ⟨⟨reason, read⟩, held⟩
  · rintro ⟨⟨reason, read⟩, held⟩
    obtain ⟨lost, left⟩ := lost_of_failed fits read
    exact ⟨⟨reason, lost⟩, left ▸ held⟩

theorem no_line_of_pause {socket : Socket} (fits : socket.buffer.length ≤ mostHeld)
    (pause : socket.take.1 = .ok none) : lineFeed ∉ socket.take.2.buffer := by
  have verdict := (comes fits).verdict
  generalize socket.take.2.buffer = left at verdict
  rw [pause] at verdict
  cases verdict with
  | line more => cases more
  | pause plain => exact plain

end Socket

open Socket in
/-- **When lines are held back.** Let no line that a peer sends be longer than a line may be. An
attempt that brings nothing leaves no complete line in the buffer; it has not come upon the end of
what could be read just if it filled the buffer with lines that are all blank. When a connection is
lost, all complete lines received so far are accounted for, unless a read failed behind a line that
says something: then they are not. -/
theorem withheld_iff {wire : Wire} {socket : Socket}
    (bounded : Bounded (Limit.ended.bytesOf wire.incoming))
    (made : (connect wire).1 = .ok socket) (count : Nat) :
    ((socket.after count).take.1 = .ok none → lineFeed ∉ (socket.after (count + 1)).buffer) ∧
    ((socket.after count).take.1 = .ok none ∧
        (socket.after count).reads.getLast? ≠ some .wouldBlock ↔
      (socket.after count).Overfilled) ∧
    ((∃ reason, (socket.after count).take.1 = .error (.lost reason)) ∧
        ¬ socket.Settled (count + 1) ↔
      (socket.after count).BrokenOff) := by
  obtain ⟨fits, opening, starts, -⟩ := connected made
  have fitsNow := fits_after fits count
  have boundedNow := bounded_after fits (bounded_of_starts starts bounded) count
  rw [settled_iff fits, after_succ]
  exact ⟨no_line_of_pause fitsNow, pause_iff_overfilled fitsNow boundedNow,
    lost_iff_brokenOff fitsNow⟩

/-! ### Frames that come too late -/

theorem bounded_closed {lines : List (List UInt8)}
    (fit : ∀ line ∈ lines, lineFeed ∉ line ∧ line.length ≤ longestLine) :
    Bounded (closed lines) := by
  induction lines with
  | nil => simp [Bounded]
  | cons line lines ih =>
    rw [List.forall_mem_cons] at fit
    rw [closed_cons, bounded_line_iff fit.1.1]
    exact ⟨fit.1.2, ih fit.2⟩

/-- A peer that lets one in, and then reads go as they are laid down. -/
def answered (later : List ReadOutcome) : Wire where
  incoming := .bytes (Frame.opened "p" "s").line :: later

/-- Somebody who was let in by that peer. -/
def letIn (later : List ReadOutcome) : Socket where
  procid := "p"
  session := "s"
  buffer := []
  ended := false
  wire := { incoming := later, delivered := Frame.openRequest.line }

theorem connect_answered (later : List ReadOutcome) :
    (Socket.connect (answered later)).1 = .ok (letIn later) := by
  have heard : ¬ ((answered later).gone ∨ (answered later).shut) := by
    simp [answered]
  rw [Socket.connect_heard heard, answered]
  dsimp only
  rw [awaitReader_opened]
  rfl

theorem Frame.line_eq_closed (frame : Frame) : frame.line = closed [Utf8.encode frame.text] := by
  simp [Frame.line, lineFeed]

theorem bounded_answered {later : List ReadOutcome} {lines : List (List UInt8)}
    (brings : Limit.ended.bytesOf later = closed lines)
    (fit : ∀ line ∈ lines, lineFeed ∉ line ∧ line.length ≤ longestLine) :
    Bounded (Limit.ended.bytesOf (answered later).incoming) := by
  have bytes : Limit.ended.bytesOf (answered later).incoming =
      (Frame.opened "p" "s").line ++ Limit.ended.bytesOf later := rfl
  rw [bytes, brings, Frame.line_eq_closed, ← closed_append]
  refine bounded_closed (List.forall_mem_cons.mpr ⟨⟨?_, ?_⟩, fit⟩)
  · exact (Frame.opened "p" "s").lineFeed_not_mem_text
  · decide +kernel

/-- A frame, a pause, and a read that fails. -/
def frameThenFailure : List ReadOutcome :=
  [.bytes Frame.openRequest.line, .wouldBlock, .failed "reset"]

theorem openRequest_fits : ∀ line ∈ [Utf8.encode Frame.openRequest.text],
    lineFeed ∉ line ∧ line.length ≤ longestLine :=
  List.forall_mem_singleton.mpr ⟨Frame.openRequest.lineFeed_not_mem_text, by decide +kernel⟩

/-- A connection that is lost after its one frame was taken. -/
theorem withheld_frameThenFailure :
    (Socket.connect (answered frameThenFailure)).1 = .ok (letIn frameThenFailure) ∧
      ((letIn frameThenFailure).after 1).take.1 = .error (.lost "reset") ∧
      (letIn frameThenFailure).Settled 2 := by
  have brings : Limit.ended.bytesOf frameThenFailure =
      closed [Utf8.encode Frame.openRequest.text] := by decide +kernel
  obtain ⟨-, -, unsettled⟩ := withheld_iff (bounded_answered brings openRequest_fits)
    (connect_answered frameThenFailure) 1
  have lost : ((letIn frameThenFailure).after 1).take.1 = .error (.lost "reset") :=
    (Socket.lost_of_failed (Socket.fits_after (Nat.zero_le _) 1) (by decide +kernel)).1
  have nothing : outcomes ((letIn frameThenFailure).after 1).gathered = [] := by decide +kernel
  refine ⟨connect_answered _, lost, Classical.byContradiction fun held => ?_⟩
  exact (unsettled.mp ⟨⟨_, lost⟩, held⟩).2 nothing

/-- Blanks, as many as a line may have. -/
def blanks : List UInt8 := List.replicate longestLine 32

/-- A blank line, a shorter one, and a frame. -/
def padded : List (List UInt8) :=
  [blanks, List.replicate ReadOutcome.chunkSize 32, Utf8.encode Frame.openRequest.text]

theorem padded_fits : ∀ line ∈ padded, lineFeed ∉ line ∧ line.length ≤ longestLine := by
  have spaces (count : Nat) : lineFeed ∉ List.replicate count (32 : UInt8) := fun member =>
    absurd (List.eq_of_mem_replicate member) (by decide)
  simp only [padded, List.forall_mem_cons, blanks, List.length_replicate]
  exact ⟨⟨spaces _, Nat.le_refl _⟩, ⟨spaces _, by decide⟩,
    ⟨Frame.openRequest.lineFeed_not_mem_text, by decide +kernel⟩, nofun⟩

theorem outcome?_text (frame : Frame) :
    outcome? (Utf8.encode frame.text) = some (.ok (some frame)) := by
  rw [outcome?, if_neg (Bool.eq_false_iff.mp frame.text_not_blank), frame.ofLine?_text]

theorem outcome?_blanks (count : Nat) : outcome? (List.replicate count 32) = none :=
  if_pos (List.all_replicate.trans (by simp [isAsciiBlank]))

/-- The frame comes too late to be in a buffer that has just become full. -/
theorem outcomes_of_prefix {buffer : List UInt8} (start : buffer <+: closed padded)
    (long : longestLine < buffer.length) (fits : buffer.length ≤ mostHeld) :
    outcomes buffer = [] := by
  obtain ⟨plain, -⟩ := padded_fits blanks (by simp [padded])
  have cut : closed padded = (blanks ++ [lineFeed]) ++ closed padded.tail := by
    simp [padded]
  have first : blanks ++ [lineFeed] <+: buffer := by
    refine List.prefix_of_prefix_length_le ⟨_, cut.symm⟩ start ?_
    rw [List.length_append, blanks, List.length_replicate, List.length_singleton]
    exact long
  obtain ⟨piece, rfl⟩ := first
  rw [cut, List.prefix_append_right_inj] at start
  have short : piece.length ≤ ReadOutcome.chunkSize := by
    have cancel (line piece chunk : Nat) (fits : line + 1 + piece ≤ line + chunk) :
        piece ≤ chunk := by omega
    rw [List.length_append, List.length_append, blanks, List.length_replicate,
      List.length_singleton] at fits
    exact cancel longestLine piece.length ReadOutcome.chunkSize fits
  have spaces : piece <+: List.replicate ReadOutcome.chunkSize 32 := by
    refine List.prefix_of_prefix_length_le start ?_ (by rwa [List.length_replicate])
    rw [padded, List.tail_cons, closed_cons]
    exact List.prefix_append _ _
  have unterminated : lineFeed ∉ piece := fun member =>
    absurd (List.eq_of_mem_replicate (spaces.subset member)) (by decide)
  rw [List.append_assoc, List.singleton_append, outcomes_line plain,
    outcomes_unterminated unterminated, blanks, outcome?_blanks]
  rfl

/-- Filling reads all that is there without waiting, unless the buffer is full before. -/
theorem fillReader_start {reader : Reader} (fits : reader.1.length ≤ mostHeld) :
    (fillReader reader).2.1 <+: Limit.pause.stream reader ∧
      (fillReader reader).2.1.length ≤ mostHeld ∧
      ((fillReader reader).2.1 = Limit.pause.stream reader ∨
        longestLine < (fillReader reader).2.1.length) := by
  have held := Socket.length_fillReader_le fits
  have brings := (fillBrings .pause fits).1
  generalize fillReader reader = result at brings held
  cases brings with
  | full fits long stream => exact ⟨⟨_, stream.symm⟩, held, .inr long⟩
  | ended short stream =>
    exact ⟨⟨[], by rw [List.append_nil, stream]⟩, held, .inl stream.symm⟩
  | idle short stream leaves | failed short stream leaves =>
    rw [leaves.2 rfl, List.append_nil] at stream
    exact ⟨⟨[], by rw [List.append_nil, stream]⟩, held, .inl stream.symm⟩

/-- Bytes that say nothing wherever a full buffer cuts them. -/
theorem overfilled_letIn {sent : List UInt8} (long : longestLine < sent.length)
    (silent : ∀ buffer, buffer <+: sent → longestLine < buffer.length →
      buffer.length ≤ mostHeld → outcomes buffer = []) :
    (letIn [.bytes sent]).Overfilled := by
  have empty : pop [] = (.incomplete, []) := by decide +kernel
  have arrives : Limit.pause.stream ([], [.bytes sent]) = sent := List.append_nil _
  obtain ⟨start, fits, ends⟩ := @fillReader_start ([], [.bytes sent]) (Nat.zero_le _)
  rw [arrives] at start ends
  have gathered : (letIn [.bytes sent]).gathered = (fillReader ([], [.bytes sent])).2.1 :=
    Socket.gathered_of_open rfl empty
  rw [← gathered] at start fits ends
  have full : longestLine < (letIn [.bytes sent]).gathered.length :=
    ends.elim (fun all => all.symm ▸ long) id
  refine ⟨fun none => ?_, full, silent _ start full fits⟩
  have nothing : (letIn [.bytes sent]).gathered = [] ++ dataOf (letIn [.bytes sent]).reads :=
    Socket.gathered_of_incomplete empty
  rw [nothing, none] at full
  exact absurd full (by decide)

/-- Blank lines and a frame. -/
def frameBehindBlanks : List ReadOutcome := [.bytes (closed padded)]

/-- A frame, and a read that fails. -/
def frameBeforeFailure : List ReadOutcome := [.bytes Frame.openRequest.line, .failed "reset"]

theorem bytesOf_frameBehindBlanks (limit : Limit) :
    limit.bytesOf frameBehindBlanks = closed padded := by
  rw [frameBehindBlanks, Limit.bytesOf, limit.bytes, Limit.bytesOf, List.append_nil]
  rfl

theorem overfilled_frameBehindBlanks : (letIn frameBehindBlanks).Overfilled := by
  refine overfilled_letIn ?_ fun _ => outcomes_of_prefix
  rw [padded, closed_cons, List.length_append, List.length_cons, blanks, List.length_replicate]
  omega

/-- **Lines that are held back.** A peer sends blank lines and a frame behind them: the frame can be
got without waiting, and yet an attempt stops reading before it, and brings nothing. A peer sends a
frame, and then reading fails: the connection is lost, and the frame was not given to anybody. -/
theorem lines_held_back :
    (Bounded (Limit.ended.bytesOf (answered frameBehindBlanks).incoming) ∧
      (Socket.connect (answered frameBehindBlanks)).1 = .ok (letIn frameBehindBlanks) ∧
      outcomes ((letIn frameBehindBlanks).stream .pause) = [.ok (some .openRequest)] ∧
      (letIn frameBehindBlanks).take.1 = .ok none ∧
      (letIn frameBehindBlanks).reads.getLast? ≠ some .wouldBlock) ∧
    Bounded (Limit.ended.bytesOf (answered frameBeforeFailure).incoming) ∧
      (Socket.connect (answered frameBeforeFailure)).1 = .ok (letIn frameBeforeFailure) ∧
      (∃ reason, (letIn frameBeforeFailure).take.1 = .error (.lost reason)) ∧
      ¬ (letIn frameBeforeFailure).Settled 1 := by
  constructor
  · have stream (limit : Limit) : (letIn frameBehindBlanks).stream limit = closed padded :=
      bytesOf_frameBehindBlanks limit
    have starts : Starts (closed padded) padded [] :=
      ⟨(List.append_nil _).symm, fun line member => (padded_fits line member).1,
        fun line member => Nat.lt_of_le_of_lt (padded_fits line member).2 (by decide)⟩
    have blank (count : Nat) : outcome? (List.replicate count 32) = none := outcome?_blanks count
    have reaches : outcomes (closed padded) = [.ok (some .openRequest)] := by
      rw [starts.outcomes, padded, blanks, List.filterMap_cons_none (blank _),
        List.filterMap_cons_none (blank _),
        List.filterMap_cons_some (outcome?_text Frame.openRequest)]
      rfl
    obtain ⟨pause, goesOn⟩ := (Socket.pause_iff_overfilled (Nat.zero_le _)
      (stream .ended ▸ bounded_closed padded_fits)).mpr overfilled_frameBehindBlanks
    exact ⟨bounded_answered (bytesOf_frameBehindBlanks _) padded_fits, connect_answered _,
      stream .pause ▸ reaches, pause, goesOn⟩
  · have held : (letIn frameBeforeFailure).BrokenOff :=
      ⟨⟨"reset", by decide +kernel⟩, by decide +kernel⟩
    obtain ⟨lost, left⟩ := (Socket.lost_iff_brokenOff (Nat.zero_le _)).mpr held
    have brings : Limit.ended.bytesOf frameBeforeFailure =
        closed [Utf8.encode Frame.openRequest.text] := by decide +kernel
    exact ⟨bounded_answered brings openRequest_fits, connect_answered _, lost,
      fun settled => left ((Socket.settled_iff (Nat.zero_le _) 1).mp settled)⟩

end LaunchSupervisor.Bus
