import LaunchSupervisor.Proofs.Stderr.Bursts
import Mathlib

/-!
**The blocks of a pipe.** A pipe is drained again and again, and its history goes on, some of it
before a drain is begun, some of it while a drain waits.

* `Along`: what was handed over and what waits are what has been written so far.
* `pause_of_short`: a block that could be longer, from a pipe that stays open, ends in a pause.
* `drains_whole`: the blocks are what was written, in pieces no larger than they may be.
-/

namespace LaunchSupervisor.Pipe

open PipeEvent (written)
open Reactor (happen)

/-! ### A pipe and its history -/

/-- **How a pipe stands to its history** once the bytes `given` were handed over: they and those
that wait are what has been written so far. -/
def Along (history : List PipeEvent) (given : List UInt8) (pipe : Pipe) : Prop :=
  ∃ past, history = past ++ pipe.later ∧ given ++ pipe.buffered = written past ∧
    (pipe.closed ↔ .closed ∈ past)

section

variable {history : List PipeEvent} {given : List UInt8} {pipe : Pipe}

theorem along_ofHistory (history : List PipeEvent) : Along history [] (ofHistory history) :=
  ⟨[], rfl, rfl, by simp [ofHistory]⟩

theorem Along.happen (along : Along history given pipe) : Along history given (happen pipe) := by
  obtain ⟨past, whole, handed, closed⟩ := along
  cases next : pipe.later with
  | nil =>
    have same : Reactor.happen pipe = pipe := by rw [Reactor.happen, next]
    rw [same]
    exact ⟨past, whole, handed, closed⟩
  | cons event rest =>
    rw [happen_cons next]
    refine ⟨past ++ [event], by rw [whole, next, List.append_assoc]; rfl, ?_, ?_⟩
    · cases event <;> simp_all [after, written, PipeEvent.bytes, ← List.append_assoc]
    · cases event <;> simp_all [after]

theorem Along.iterate (along : Along history given pipe) (count : Nat) :
    Along history given (Reactor.happen^[count] pipe) := by
  induction count generalizing pipe with
  | zero => exact along
  | succ count ih => exact ih along.happen

theorem Along.flows {next : Pipe} (along : Along history given pipe) (flows : Flows pipe next) :
    Along history given next := by
  induction flows with
  | refl => exact along
  | happen next busy flows ih => exact ih along.happen

theorem Along.wait (along : Along history given pipe) : Along history given pipe.wait.2 := by
  have waits := waited_wait pipe
  generalize pipe.wait = result at waits
  cases waits with
  | ready flows readable => exact along.flows flows
  | paused flows blocked pause => exact (along.flows flows).happen
  | forsaken flows blocked nothing => exact along.flows flows

theorem Along.read {rest : Pipe} {room : Nat} {bytes : List UInt8}
    (along : Along history given pipe) (read : pipe.read room = (.bytes bytes, rest)) :
    Along history (given ++ bytes) rest := by
  obtain ⟨past, whole, handed, closed⟩ := along
  obtain ⟨rfl, rfl⟩ := read_bytes read
  refine ⟨past, whole, ?_, closed⟩
  rw [List.append_assoc, List.take_append_drop, handed]

theorem Along.drainFrom {data : List UInt8} (along : Along history (given ++ data) pipe)
    (ceiling : Nat) : Along history (given ++ (drainFrom ceiling data pipe).1.data)
      (drainFrom ceiling data pipe).2 := by
  fun_induction Pipe.drainFrom ceiling data pipe with
  | case1 data pipe rest read => rwa [Pipe.read_endOfFile read]
  | case2 data pipe bytes rest read full =>
    rw [← List.append_assoc]
    exact along.read read
  | case3 data pipe bytes rest read fits ih =>
    refine ih ?_
    rw [← List.append_assoc]
    exact along.read read
  | case4 data pipe rest read next waited ih =>
    obtain ⟨rfl, -, -⟩ := Pipe.read_nothingYet read
    have kept := along.wait
    rw [waited] at kept
    exact ih kept
  | case5 data pipe rest read next waited =>
    obtain ⟨rfl, -, -⟩ := Pipe.read_nothingYet read
    have kept := along.wait
    rw [waited] at kept
    exact kept

end

/-! ### What a drain leaves -/

theorem later_happen (pipe : Pipe) : (happen pipe).later <:+ pipe.later := by
  cases next : pipe.later with
  | nil =>
    have same : happen pipe = pipe := by rw [happen, next]
    exact (congrArg Pipe.later same).trans next ▸ List.suffix_refl _
  | cons event rest =>
    rw [happen_cons next]
    exact List.suffix_cons event rest

theorem later_iterate (pipe : Pipe) (count : Nat) :
    (happen^[count] pipe).later <:+ pipe.later := by
  induction count generalizing pipe with
  | zero => exact List.suffix_refl _
  | succ count ih => exact (ih (happen pipe)).trans (later_happen pipe)

theorem Flows.later {pipe next : Pipe} (flows : Flows pipe next) : next.later <:+ pipe.later := by
  induction flows with
  | refl => exact List.suffix_refl _
  | happen next busy flows ih => exact ih.trans (later_happen _)

theorem later_wait (pipe : Pipe) : pipe.wait.2.later <:+ pipe.later := by
  have waits := waited_wait pipe
  generalize pipe.wait = result at waits
  cases waits with
  | ready flows readable => exact flows.later
  | paused flows blocked pause => exact (later_happen _).trans flows.later
  | forsaken flows blocked nothing => exact flows.later

section

variable {ceiling : Nat} {data : List UInt8} {pipe : Pipe}

theorem later_drainFrom : (drainFrom ceiling data pipe).2.later <:+ pipe.later := by
  fun_induction drainFrom ceiling data pipe with
  | case1 data pipe rest read =>
    exact congrArg Pipe.later (Pipe.read_endOfFile read) ▸ List.suffix_refl _
  | case2 data pipe bytes rest read full =>
    obtain ⟨-, rfl⟩ := read_bytes read
    exact List.suffix_refl _
  | case3 data pipe bytes rest read fits ih =>
    obtain ⟨-, rfl⟩ := read_bytes read
    exact ih
  | case4 data pipe rest read next waited ih =>
    obtain ⟨rfl, -, -⟩ := Pipe.read_nothingYet read
    have left := later_wait rest
    rw [waited] at left
    exact ih.trans left
  | case5 data pipe rest read next waited =>
    obtain ⟨rfl, -, -⟩ := Pipe.read_nothingYet read
    have left := later_wait rest
    rw [waited] at left
    exact left

theorem later_drain (pipe : Pipe) (ceiling : Nat) :
    (pipe.drain ceiling).2.later <:+ pipe.later :=
  later_drainFrom

theorem length_block_le (short : data.length ≤ ceiling) :
    (drainFrom ceiling data pipe).1.data.length ≤ ceiling := by
  fun_induction drainFrom ceiling data pipe with
  | case1 data pipe rest read => exact short
  | case2 data pipe bytes rest read full =>
    have fits := (Pipe.volume_read read).2.2
    rw [List.length_append]
    omega
  | case3 data pipe bytes rest read fits ih => exact ih (Nat.le_of_not_le fits)
  | case4 data pipe rest read next waited ih => exact ih short
  | case5 data pipe rest read next waited => exact short

/-- **A short block from a pipe that stays open ends in a pause**, unless nothing more will ever
happen to the pipe. -/
theorem pause_of_short (stillOpen : (drainFrom ceiling data pipe).1.closed = false)
    (short : (drainFrom ceiling data pipe).1.data.length < ceiling) :
    ((drainFrom ceiling data pipe).2.buffered = [] ∧
        (drainFrom ceiling data pipe).2.closed = false) ∧
      (.quiet :: (drainFrom ceiling data pipe).2.later <:+ pipe.later ∨
        (drainFrom ceiling data pipe).2.later = []) := by
  fun_induction drainFrom ceiling data pipe with
  | case1 data pipe rest read => cases stillOpen
  | case2 data pipe bytes rest read full => exact absurd full (Nat.not_le_of_lt short)
  | case3 data pipe bytes rest read fits ih =>
    obtain ⟨-, rfl⟩ := read_bytes read
    exact ih stillOpen short
  | case4 data pipe rest read next waited ih =>
    obtain ⟨rfl, -, -⟩ := Pipe.read_nothingYet read
    have left := later_wait rest
    rw [waited] at left
    obtain ⟨blocked, pause⟩ := ih stillOpen short
    exact ⟨blocked, pause.imp_left fun within => within.trans left⟩
  | case5 data pipe rest read next waited =>
    obtain ⟨rfl, -, -⟩ := Pipe.read_nothingYet read
    have waits := waited_wait rest
    rw [waited] at waits
    cases waits with
    | paused flows blocked pause =>
      have onward := happen_cons pause
      have left := flows.later
      rw [pause] at left
      rw [onward]
      exact ⟨eq_of_blocked blocked, .inl left⟩
    | forsaken flows blocked nothing => exact ⟨eq_of_blocked blocked, .inr nothing⟩

end

/-! ### One block after the other -/

/-- Drains a pipe again and again until it is used up; before each drain so many things happen to it
as are laid down. -/
def drains (ceiling : Nat) (pipe : Pipe) : List Nat → List Drained
  | [] => []
  | delay :: delays =>
    let (block, rest) := (happen^[delay] pipe).drain ceiling
    if block.closed then [block] else block :: drains ceiling rest delays

/-- **What is to be said of a block** with which the bytes `given` have been handed over in all, of
those that were written. -/
structure Fair (ceiling : Nat) (writes : List PipeEvent) (given : List UInt8) (block : Drained) :
    Prop where
  bounded : block.data.length ≤ max ceiling 1
  whole : block.closed → given = written writes
  paused : block.closed = false → block.data.length < max ceiling 1 →
    ∃ before after, writes = before ++ .quiet :: after ∧ given = written before

section

variable {ceiling : Nat} {writes : List PipeEvent} {given : List UInt8} {pipe : Pipe}

theorem written_concat_closed (writes : List PipeEvent) :
    written (writes ++ [.closed]) = written writes := by
  simp [written, PipeEvent.bytes]

/-- What stands before the last event of a history that ends with the closing. -/
theorem exists_of_eq_concat_closed {event : PipeEvent} {before later : List PipeEvent}
    (whole : before ++ event :: later = writes ++ [.closed]) (other : event ≠ .closed) :
    ∃ after, writes = before ++ event :: after := by
  rcases List.eq_nil_or_concat' later with nothing | ⟨after, last, more⟩
  · rw [nothing] at whole
    exact absurd (List.cons.inj (List.append_inj' whole rfl).2).1 other
  · rw [more, ← List.cons_append, ← List.append_assoc] at whole
    exact ⟨after, (List.append_inj' whole rfl).1.symm⟩

/-- Once a pipe is closed its history is over. -/
theorem Along.whole (along : Along (writes ++ [.closed]) given pipe)
    (stillOpen : .closed ∉ writes)
    (empty : pipe.buffered = []) (closed : pipe.closed) : given = written writes := by
  obtain ⟨past, whole, handed, ended⟩ := along
  rw [empty, List.append_nil] at handed
  have finished : pipe.later = [] := by
    rcases List.eq_nil_or_concat' pipe.later with nothing | ⟨rest, last, more⟩
    · exact nothing
    · rw [more, ← List.append_assoc] at whole
      have start := (List.append_inj' whole rfl).1
      exact absurd (start ▸ List.mem_append_left rest (ended.mp closed)) stillOpen
  rw [finished, List.append_nil] at whole
  rw [handed, ← whole, written_concat_closed]

theorem Along.suffix {history : List PipeEvent} (along : Along history given pipe) :
    pipe.later <:+ history := by
  obtain ⟨past, whole, -, -⟩ := along
  exact ⟨past, whole.symm⟩

theorem Along.drain {history : List PipeEvent} (along : Along history given pipe) (ceiling : Nat) :
    Along history (given ++ (pipe.drain ceiling).1.data) (pipe.drain ceiling).2 :=
  Along.drainFrom (by rwa [List.append_nil]) (max ceiling 1)

/-- A pipe that will be closed does not stay silent for ever: a short block ends in a pause. -/
theorem Along.pause (along : Along (writes ++ [.closed]) given pipe)
    (stillOpen : (pipe.drain ceiling).1.closed = false)
    (short : (pipe.drain ceiling).1.data.length < max ceiling 1) :
    .quiet :: (pipe.drain ceiling).2.later <:+ pipe.later := by
  obtain ⟨⟨-, unended⟩, pause⟩ := pause_of_short stillOpen short
  refine pause.resolve_right fun nothing => ?_
  obtain ⟨past, whole, -, ended⟩ := along.drain ceiling
  have last : (.closed : PipeEvent) ∈ past := by
    rw [show (pipe.drain ceiling).2.later = [] from nothing, List.append_nil] at whole
    rw [← whole]
    exact List.mem_append_right _ List.mem_cons_self
  exact Bool.false_ne_true (unended.symm.trans (ended.mpr last))

/-- **A block of a pipe that keeps to its history is as it should be.** -/
theorem Along.fair (along : Along (writes ++ [.closed]) given pipe)
    (stillOpen : .closed ∉ writes) :
    Fair ceiling writes (given ++ (pipe.drain ceiling).1.data) (pipe.drain ceiling).1 := by
  have kept := along.drain ceiling
  refine ⟨length_block_le (Nat.zero_le _), fun closed => ?_, fun unclosed short => ?_⟩
  · obtain ⟨empty, ended⟩ := used_up (block_pos ceiling) closed
    exact kept.whole stillOpen empty ended
  · obtain ⟨⟨empty, -⟩, -⟩ := pause_of_short unclosed short
    obtain ⟨past, whole, handed, -⟩ := kept
    obtain ⟨before, split⟩ := (along.pause unclosed short).trans along.suffix
    obtain ⟨after, found⟩ := exists_of_eq_concat_closed split nofun
    refine ⟨before, after, found, ?_⟩
    have passed : past = before ++ [.quiet] := by
      rw [← split, List.append_cons] at whole
      exact (List.append_cancel_right whole).symm
    rw [show (pipe.drain ceiling).2.buffered = [] from empty, List.append_nil, passed] at handed
    rw [handed]
    simp [written, PipeEvent.bytes]

/-- The bytes handed over are the first of those that are written. -/
theorem Along.given_prefix {history : List PipeEvent} (along : Along history given pipe) :
    given <+: written history := by
  obtain ⟨past, rfl, handed, -⟩ := along
  refine ⟨pipe.buffered ++ written pipe.later, ?_⟩
  rw [← List.append_assoc, handed]
  exact (List.flatMap_append ..).symm

theorem drains_cons (ceiling : Nat) (pipe : Pipe) (delay : Nat) (delays : List Nat) :
    drains ceiling pipe (delay :: delays) =
      if ((happen^[delay] pipe).drain ceiling).1.closed then
        [((happen^[delay] pipe).drain ceiling).1]
      else ((happen^[delay] pipe).drain ceiling).1 ::
        drains ceiling ((happen^[delay] pipe).drain ceiling).2 delays := rfl

theorem given_drains {history : List PipeEvent} (along : Along history given pipe)
    (delays : List Nat) :
    given ++ (drains ceiling pipe delays).flatMap (·.data) <+: written history := by
  induction delays generalizing pipe given with
  | nil => simpa [drains] using along.given_prefix
  | cons delay delays ih =>
    have first := (along.iterate delay).drain ceiling
    rw [drains_cons]
    split
    · simpa using first.given_prefix
    · simpa using ih first

/-- **Each of the blocks is as it should be**, and none follows one that says that the pipe is used
up. -/
theorem fair_drains (along : Along (writes ++ [.closed]) given pipe)
    (stillOpen : .closed ∉ writes)
    {delays : List Nat} {earlier later : List Drained} {block : Drained}
    (split : drains ceiling pipe delays = earlier ++ block :: later) :
    Fair ceiling writes (given ++ (earlier ++ [block]).flatMap (·.data)) block ∧
      (block.closed → later = []) := by
  induction delays generalizing pipe given earlier with
  | nil => cases earlier <;> cases split
  | cons delay delays ih =>
    have fair : Fair ceiling writes _ _ := (along.iterate delay).fair stillOpen
    have kept := (along.iterate delay).drain ceiling
    rw [drains_cons] at split
    cases earlier with
    | nil =>
      split at split
      · obtain ⟨rfl, rfl⟩ := List.cons.inj split
        exact ⟨by simpa using fair, fun _ => rfl⟩
      · rename_i unclosed
        obtain ⟨rfl, -⟩ := List.cons.inj split
        exact ⟨by simpa using fair, fun closed => absurd closed unclosed⟩
    | cons first rest =>
      split at split
      · cases rest <;> cases (List.cons.inj split).2
      · obtain ⟨rfl, more⟩ := List.cons.inj split
        simpa using ih kept more

/-- **A pipe is used up in the end**: each drain before that hands something over or comes to a
pause. -/
theorem exists_closed_drains (along : Along (writes ++ [.closed]) given pipe) {delays : List Nat}
    (enough : (written writes).length + pipe.later.count .quiet < given.length + delays.length) :
    ∃ earlier block, drains ceiling pipe delays = earlier ++ [block] ∧ block.closed := by
  induction delays generalizing pipe given with
  | nil =>
    have bound := along.given_prefix.length_le
    rw [written_concat_closed] at bound
    simp only [List.length_nil] at enough
    omega
  | cons delay delays ih =>
    have moved := along.iterate delay
    have fewer := (later_iterate pipe delay).sublist.count_le .quiet
    rw [drains_cons]
    split
    · rename_i closed
      exact ⟨[], _, rfl, closed⟩
    · rename_i unclosed
      rw [Bool.not_eq_true] at unclosed
      -- A block that is empty ends in a pause, and each pause is passed once.
      have less : (written writes).length +
          ((happen^[delay] pipe).drain ceiling).2.later.count .quiet <
            (given ++ ((happen^[delay] pipe).drain ceiling).1.data).length + delays.length := by
        rw [List.length_append]
        rw [List.length_cons] at enough
        by_cases empty : ((happen^[delay] pipe).drain ceiling).1.data = []
        · have pause := (moved.pause unclosed (by rw [empty]; exact block_pos ceiling)).sublist
          have passed := pause.count_le .quiet
          rw [List.count_cons_self] at passed
          omega
        · have filled := List.length_pos_iff.mpr empty
          have left := (later_drain (happen^[delay] pipe) ceiling).sublist.count_le .quiet
          omega
      obtain ⟨earlier, block, same, closed⟩ := ih (moved.drain ceiling) less
      rw [same]
      exact ⟨_ :: earlier, block, rfl, closed⟩

end

/-! ### The whole pipe -/

/-- **Draining loses and invents nothing.** A pipe is written to, with pauses, and closed at last;
it is drained again and again, each time after as many of these events as one likes. Each block has
a fair size; one that is short while the pipe is open ends in a pause; one that says that the pipe
is used up is the last, and then the blocks are all that was written. There is one once the pipe was
drained often enough. No drain reads without room, so it finds the end of no open pipe; and it makes
no difference to its block what has come before one of its reads and what comes while it waits. -/
theorem drains_whole (ceiling : Nat) {writes : List PipeEvent} (stillOpen : .closed ∉ writes)
    (delays : List Nat) :
    ((drains ceiling (ofHistory (writes ++ [.closed])) delays).flatMap (·.data) <+:
        written writes) ∧
      (∀ earlier block later,
        drains ceiling (ofHistory (writes ++ [.closed])) delays = earlier ++ block :: later →
          Fair ceiling writes ((earlier ++ [block]).flatMap (·.data)) block ∧
            (block.closed → later = [])) ∧
      ((written writes).length + writes.count .quiet < delays.length →
        ∃ earlier block,
          drains ceiling (ofHistory (writes ++ [.closed])) delays = earlier ++ [block] ∧
            block.closed) ∧
      ∀ pipe collected found, Reads (max ceiling 1) [] pipe collected found →
        collected.length < max ceiling 1 ∧
          0 < min (max ceiling 1 - collected.length) readSize ∧
          ((found.read (min (max ceiling 1 - collected.length) readSize)).1 = .endOfFile →
            found.closed) ∧
          ∀ next, found.Settles → Flows found next →
            (drainFrom (max ceiling 1) collected next).1 = (pipe.drain ceiling).1 := by
  have along := along_ofHistory (writes ++ [.closed])
  refine ⟨?_, fun earlier block later split => ?_, fun enough => ?_,
    fun pipe collected found reads => ?_⟩
  · rw [← written_concat_closed]
    exact given_drains along delays
  · exact fair_drains along stillOpen split
  · have pauses : (ofHistory (writes ++ [.closed])).later.count .quiet = writes.count .quiet := by
      simp [ofHistory]
    exact exists_closed_drains along (by simpa [pauses] using enough)
  · have short := reads.short (block_pos ceiling)
    have room := room_pos short
    refine ⟨short, Nat.pos_of_ne_zero room, fun ended => (endOfFile_of_room room ended).2,
      fun next settles flows => ?_⟩
    rw [block_of_flows settles short flows, ← reads.drainFrom_eq]
    rfl

/-- Three bytes and a pause, then two more: with blocks of two bytes there are four of them. -/
theorem drains_pausing :
    (PipeEvent.closed ∉ [.wrote [1, 2, 3], .quiet, .wrote [4, 5]]) ∧
      (drains 2 (ofHistory [.wrote [1, 2, 3], .quiet, .wrote [4, 5], .closed])
        [1, 0, 0, 0, 0, 0, 0]) =
          [⟨[1, 2], false⟩, ⟨[3], false⟩, ⟨[4, 5], false⟩, ⟨[], true⟩] ∧
      (∃ before after, [.wrote [1, 2, 3], .quiet, .wrote [4, 5]] = before ++ .quiet :: after ∧
        [1, 2, 3] = written before) ∧
      ∃ earlier block, drains 2 (ofHistory [.wrote [1, 2, 3], .quiet, .wrote [4, 5], .closed])
        [1, 0, 0, 0, 0, 0, 0] = earlier ++ [block] ∧ block.closed := by
  have stillOpen : PipeEvent.closed ∉ [.wrote [1, 2, 3], .quiet, .wrote [4, 5]] := by decide
  obtain ⟨-, fair, last, -⟩ := drains_whole 2 stillOpen [1, 0, 0, 0, 0, 0, 0]
  have blocks : drains 2 (ofHistory [.wrote [1, 2, 3], .quiet, .wrote [4, 5], .closed])
      [1, 0, 0, 0, 0, 0, 0] =
        [⟨[1, 2], false⟩, ⟨[3], false⟩, ⟨[4, 5], false⟩, ⟨[], true⟩] := by
    cbv
  refine ⟨stillOpen, blocks, ?_, last (by decide)⟩
  exact (fair [⟨[1, 2], false⟩] ⟨[3], false⟩ _ blocks).1.paused rfl (by decide)

end LaunchSupervisor.Pipe
