import LaunchSupervisor.Text.Blank
import LaunchSupervisor.Text.LowerCase
import LaunchSupervisor.Text.Search

/-!
**Commands as the icon cache sees them.** A command line is reduced to the program it runs, and two
programs are taken for the same if their names are alike.

* `stripFrom_done`: what has been kept so far does not influence what is kept next.
* `resembles_refl`: every command resembles itself.
-/

namespace LaunchSupervisor.IconCache

/-! ### The program of a command line -/

/-- Whether a text starts with the end of a line. -/
def startsLineEnd : List Char → Bool
  | '\n' :: _ => true
  | '\r' :: _ => true
  | _ => false

/-- A command line without placeholders and line continuations; `done` holds what has been kept,
back to front, and `inside` tells whether a placeholder is open. -/
def stripFrom (done : List Char) (inside : Bool) : List Char → List Char
  | [] => done.reverse
  | c :: rest =>
    if inside then stripFrom done (c != '%') rest
    else if c = '%' then stripFrom done true rest
    else if c = '\\' ∧ startsLineEnd rest then stripFrom done false rest
    else stripFrom (c :: done) false rest

/-- A command line without what stands between percent signs, these included, and without the
backslashes that continue a line. -/
def strip (line : List Char) : List Char :=
  stripFrom [] false line

/-- The program that a command line runs: its first word once it is stripped. -/
def programText? (line : List Char) : Option (List Char) :=
  Text.firstWord (strip line)

/-- The program that a command line runs, if it runs any. -/
def program? (line : String) : Option String :=
  (programText? line.toList).map String.ofList

/-- The name under which a command line is remembered: its program, or the line itself when it
runs none. -/
def key (line : String) : String :=
  (program? line).getD line

/-! ### Commands that are alike -/

/-- The part of a command after its last slash. -/
def baseName (command : List Char) : List Char :=
  Text.afterLast '/' command

/-- Whether one of two names stands in the other, whatever the case of their letters; an empty name
is like no other. -/
def namesAlike (a b : List Char) : Bool :=
  a == b ||
    (!a.isEmpty && !b.isEmpty &&
      (Text.occursIn (Text.lowerCase b) (Text.lowerCase a) ||
        Text.occursIn (Text.lowerCase a) (Text.lowerCase b)))

/-- Whether two commands are taken for the same. -/
def resembles (a b : String) : Bool :=
  a == b || namesAlike (baseName a.toList) (baseName b.toList)

/-! ### Small facts -/

theorem stripFrom_done (done : List Char) (inside : Bool) (line : List Char) :
    stripFrom done inside line = done.reverse ++ stripFrom [] inside line := by
  induction line generalizing done inside with
  | nil => simp [stripFrom]
  | cons c rest ih =>
    simp only [stripFrom]
    split
    · exact ih _ _
    · split
      · exact ih _ _
      · split
        · exact ih _ _
        · rw [ih, ih [c]]
          simp

theorem namesAlike_refl (name : List Char) : namesAlike name name := by
  simp [namesAlike]

theorem resembles_refl (command : String) : resembles command command := by
  simp [resembles]

theorem namesAlike_comm (a b : List Char) : namesAlike a b = namesAlike b a := by
  unfold namesAlike
  rw [Bool.beq_comm, Bool.and_comm (!a.isEmpty),
    Bool.or_comm (Text.occursIn (Text.lowerCase b) (Text.lowerCase a))]

theorem resembles_comm (a b : String) : resembles a b = resembles b a := by
  unfold resembles
  rw [Bool.beq_comm, namesAlike_comm]

end LaunchSupervisor.IconCache
