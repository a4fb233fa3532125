import LaunchSupervisor.Text.CaseTable
import LaunchSupervisor.Text.CodeRange

/-!
**Lower case.** Each character has a lower-case form of its own, with two exceptions: the dotted
capital I becomes two characters, and a capital sigma at the end of a word becomes the final sigma.

* `lowerChar_ascii`: on ASCII this is the familiar mapping of A to Z.
-/

namespace LaunchSupervisor.Text

/-- A cased character: upper, lower or title case. -/
def isCased (c : Char) : Bool :=
  if c.toNat < 0x80 then c.isAlpha else inRanges casedRanges c.toNat

/-- A character that a search for a neighbouring letter skips. -/
def isCaseIgnorable (c : Char) : Bool :=
  if c.toNat < 0x80 then c == '\'' || c == '.' || c == ':' || c == '^' || c == '\x60'
  else inRanges ignorableRanges c.toNat

/-- The lower-case form of one character, without regard to its neighbours. -/
def lowerChar (c : Char) : List Char :=
  let n := c.toNat
  if n < 0x80 then [c.toLower]
  else if n = 0x130 then ['i', '\u0307']
  else
    match lowerRuns.find? fun run =>
        run.first ≤ n && n ≤ run.last && (n - run.first) % run.stride == 0 with
    | some run => [Char.ofNat (n + run.shift).toNat]
    | none => [c]

/-- Whether the nearest character that is not skipped is a letter with case. -/
def reachesCased (neighbours : List Char) : Bool :=
  match neighbours.dropWhile isCaseIgnorable with
  | [] => false
  | c :: _ => isCased c

/-- Lower case of a text that follows the characters of `before`, given nearest first; `done` holds
what has been written, back to front. -/
def lowerFrom (done before : List Char) : List Char → List Char
  | [] => done.reverse
  | c :: rest =>
    let form :=
      if c = 'Σ' then [if reachesCased before && !reachesCased rest then 'ς' else 'σ']
      else lowerChar c
    lowerFrom (form.reverse ++ done) (c :: before) rest

/-- The lower-case form of a text. -/
def lowerCase (text : List Char) : List Char :=
  lowerFrom [] [] text

/-! ### Small facts -/

theorem lowerChar_ascii (c : Char) (ascii : c.toNat < 0x80) : lowerChar c = [c.toLower] := by
  simp [lowerChar, ascii]

end LaunchSupervisor.Text
