/-!
**Scripts of a shell.** A script is a list of commands and groups, each with what it means for the
next: that goes on in any case, or if this one went well, or if it did not, or while it is still
running. Its text is read character by character into words and operators, and these one by one into
a program.
-/

namespace LaunchSupervisor.Trial.Shell

/-- A piece of a word. -/
inductive Piece where
  | text (chars : List Char)
  /-- The value of a parameter, by its name. -/
  | parameter (name : List Char)
deriving DecidableEq

/-- A word of a command. -/
structure Word where
  pieces : List Piece := []
  /-- Whether any of it was quoted, so that it is a word even if nothing is left of it. -/
  quoted : Bool := false
deriving DecidableEq

/-- The word with a character more. -/
def Word.push (word : Word) (c : Char) : Word :=
  match word.pieces.getLast? with
  | some (.text chars) => { word with pieces := word.pieces.dropLast ++ [.text (chars ++ [c])] }
  | _ => { word with pieces := word.pieces ++ [.text [c]] }

/-- The descriptor that a word in front of a redirection stands for. -/
def Word.descriptor? (word : Word) : Option Nat :=
  match word.quoted, word.pieces with
  | false, [.text [digit]] => if digit.isDigit then some (digit.toNat - '0'.toNat) else none
  | _, _ => none

/-- Where the output of a descriptor goes instead: to a file, anew or behind what it holds, or to
where another descriptor's output goes. -/
inductive Target where
  | anew
  | behind
  | like
deriving DecidableEq

/-- A redirection, the word that says where to being read after it. -/
structure Redirection where
  descriptor : Nat
  target : Target
  word : Word := {}
deriving DecidableEq

/-- What a command means for the next one. -/
inductive Join where
  | always
  /-- The next one runs if this one went well. -/
  | ifWell
  /-- The next one runs if this one did not go well. -/
  | ifIll
  /-- The next one runs at the same time. -/
  | meanwhile
deriving DecidableEq

inductive Token where
  | word (word : Word)
  /-- The end of a command. -/
  | join (join : Join)
  | openGroup
  | closeGroup
  | redirect (descriptor : Nat) (target : Target)
deriving DecidableEq

/-! ### Words and operators -/

/-- What a reader is in the middle of. -/
inductive Mode where
  | bare
  | single
  | double
  /-- After a dollar sign. -/
  | dollar (double : Bool)
  /-- In the name of a parameter. -/
  | name (double : Bool) (name : List Char)
  /-- After a first ampersand. -/
  | ampersand
  /-- After a first bar, which must not stand alone. -/
  | bar
  /-- After a redirection of a descriptor. -/
  | greater (descriptor : Nat)
deriving DecidableEq

/-- A reader of tokens. -/
structure Lexer where
  /-- The tokens so far, newest first. -/
  done : List Token := []
  /-- The word that is being read. -/
  word : Option Word := none
  mode : Mode := .bare
deriving DecidableEq

namespace Lexer

/-- The reader in another mode. -/
def goto (lexer : Lexer) (mode : Mode) : Lexer :=
  { lexer with mode }

/-- The reader with its word changed, begun if need be. -/
def alter (lexer : Lexer) (change : Word → Word) : Lexer :=
  { lexer with word := some (change (lexer.word.getD {})) }

/-- The reader with a character more in its word. -/
def push (lexer : Lexer) (c : Char) : Lexer :=
  lexer.alter (·.push c)

/-- The reader with a parameter more in its word. -/
def pushParameter (lexer : Lexer) (name : List Char) : Lexer :=
  lexer.alter fun word => { word with pieces := word.pieces ++ [.parameter name] }

/-- The reader with its word begun and marked as quoted. -/
def quote (lexer : Lexer) : Lexer :=
  lexer.alter fun word => { word with quoted := true }

/-- The reader with its word closed. -/
def close (lexer : Lexer) : Lexer :=
  match lexer.word with
  | none => lexer
  | some word => { lexer with done := .word word :: lexer.done, word := none }

/-- The reader with an operator more. -/
def operator (lexer : Lexer) (token : Token) : Lexer :=
  { lexer.close with done := token :: lexer.close.done, mode := .bare }

/-- Begins a redirection; a digit directly before it is the descriptor. -/
def redirect (lexer : Lexer) : Lexer :=
  match lexer.word.bind Word.descriptor? with
  | some descriptor => { lexer with word := none, mode := .greater descriptor }
  | none => lexer.close.goto (.greater 1)

/-- Takes in a character outside of quotes. -/
def stepBare (lexer : Lexer) (c : Char) : Lexer :=
  match c with
  | '\'' => lexer.quote.goto .single
  | '"' => lexer.quote.goto .double
  | '$' => lexer.goto (.dollar false)
  | ' ' | '\t' => lexer.close.goto .bare
  | '\n' | ';' => lexer.operator (.join .always)
  | '&' => lexer.close.goto .ampersand
  | '|' => lexer.close.goto .bar
  | '(' => lexer.operator .openGroup
  | ')' => lexer.operator .closeGroup
  | '>' => lexer.redirect
  | c => (lexer.push c).goto .bare

/-- Takes in a character outside of a parameter, between double quotes or not. -/
def stepOutside (lexer : Lexer) (double : Bool) (c : Char) : Lexer :=
  if ¬ double then lexer.stepBare c
  else if c = '"' then lexer.goto .bare
  else if c = '$' then lexer.goto (.dollar true)
  else (lexer.push c).goto .double

/-- Whether a character may stand in the name of a parameter. -/
def isNameChar (c : Char) : Bool :=
  c.isAlphanum || c == '_'

/-- Whether a character is the whole name of a parameter. -/
def isSpecial (c : Char) : Bool :=
  c.isDigit || "#?$".toList.contains c

/-- Takes in a character. -/
def step (lexer : Lexer) (c : Char) : Lexer :=
  match lexer.mode with
  | .bare => lexer.stepOutside false c
  | .single => if c = '\'' then lexer.goto .bare else lexer.push c
  | .double => lexer.stepOutside true c
  | .dollar double =>
    if isSpecial c then (lexer.pushParameter [c]).goto (if double then .double else .bare)
    else if isNameChar c then lexer.goto (.name double [c])
    else (lexer.push '$').stepOutside double c
  | .name double name =>
    if isNameChar c then lexer.goto (.name double (name ++ [c]))
    else (lexer.pushParameter name).stepOutside double c
  | .ampersand =>
    if c = '&' then lexer.operator (.join .ifWell)
    else (lexer.operator (.join .meanwhile)).stepBare c
  | .bar => if c = '|' then lexer.operator (.join .ifIll) else lexer
  | .greater descriptor =>
    if c = '>' then lexer.operator (.redirect descriptor .behind)
    else if c = '&' then lexer.operator (.redirect descriptor .like)
    else (lexer.operator (.redirect descriptor .anew)).stepBare c

/-- The tokens of a text, unless it leaves something open; a line feed at the end changes nothing
else. -/
def tokens? (text : List Char) : Option (List Token) :=
  let lexer := (text ++ ['\n']).foldl step {}
  if lexer.mode = .bare then some lexer.done.reverse else none

end Lexer

/-! ### Programs -/

/-- A command with its words in order. -/
structure Simple where
  words : List Word := []
  redirections : List Redirection := []
deriving DecidableEq

/-- A program. -/
inductive Program where
  | done
  | simple (command : Simple) (join : Join) (rest : Program)
  | group (inner : Program) (redirections : List Redirection) (join : Join) (rest : Program)
deriving DecidableEq

/-- A list of commands that is being read. -/
structure Frame where
  /-- What has been read, in front of what follows. -/
  before : Program → Program := id
  /-- The command that is being read. -/
  simple : Simple := {}
  /-- The group that has just been closed. -/
  group : Option Program := none
  /-- The redirection whose word comes next. -/
  awaited : Option Redirection := none

namespace Frame

/-- Whether nothing of a command has been read. -/
def isFresh (frame : Frame) : Bool :=
  frame.group.isNone && frame.simple == {} && frame.awaited.isNone

/-- The frame after a word. -/
def word? (frame : Frame) (word : Word) : Option Frame :=
  match frame.awaited, frame.group with
  | some redirection, _ =>
    let redirections := frame.simple.redirections ++ [{ redirection with word }]
    some { frame with simple := { frame.simple with redirections }, awaited := none }
  | none, none =>
    some { frame with simple := { frame.simple with words := frame.simple.words ++ [word] } }
  | none, some _ => none

/-- The frame with its command ended. -/
def ended? (frame : Frame) (join : Join) : Option Frame :=
  match frame.awaited, frame.group with
  | some _, _ => none
  | none, some inner =>
    some { before := fun rest =>
      frame.before (.group inner frame.simple.redirections join rest) }
  | none, none => some { before := fun rest => frame.before (.simple frame.simple join rest) }

/-- The frame after the end of a command; there need not have been one before the end of a line. -/
def join? (frame : Frame) (join : Join) : Option Frame :=
  if ¬ frame.isFresh then frame.ended? join else if join = .always then some frame else none

/-- The program of a frame. -/
def program? (frame : Frame) : Option Program :=
  (frame.join? .always).map fun frame => frame.before .done

end Frame

/-- The frames of the groups that are open, the innermost first, after a token. -/
def Frame.step? : List Frame → Token → Option (List Frame)
  | frame :: outer, .word word => (frame.word? word).map (· :: outer)
  | frame :: outer, .join join => (frame.join? join).map (· :: outer)
  | frame :: outer, .redirect descriptor target =>
    if frame.awaited.isSome then none
    else some ({ frame with awaited := some { descriptor, target } } :: outer)
  | frame :: outer, .openGroup => if frame.isFresh then some ({} :: frame :: outer) else none
  | inner :: frame :: outer, .closeGroup =>
    inner.program?.map fun program => { frame with group := some program } :: outer
  | _, _ => none

/-- The program of a text, if it is one. -/
def program? (text : List Char) : Option Program :=
  match (Lexer.tokens? text).bind (·.foldlM Frame.step? [{}]) with
  | some [frame] => frame.program?
  | _ => none

end LaunchSupervisor.Trial.Shell
