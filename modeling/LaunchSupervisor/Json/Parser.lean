import LaunchSupervisor.Json.Lexer

/-!
**JSON values from tokens.** The parser takes one token at a time and keeps the containers that are
open, innermost first; a finished value is given to the innermost of them. At most 127 containers
may be open at once.
-/

namespace LaunchSupervisor.Json

namespace Parser

/-- An open container; what it holds is kept back to front. -/
inductive Container where
  | elements (read : List Json)
  | members (read : List (String × Json))
  /-- An object in the middle of a member. -/
  | member (read : List (String × Json)) (name : String)

/-- What may come next. -/
inductive Awaiting where
  | value
  /-- A value, or the end of an array that has none yet. -/
  | firstElement
  | name
  /-- A name, or the end of an object that has no member yet. -/
  | firstName
  | colon
  /-- A comma, or the end of the innermost container. -/
  | separator
  /-- Nothing: the value is complete. -/
  | nothing (value : Json)

end Parser

/-- The open containers and what may come next. -/
structure Parser where
  containers : List Parser.Container
  awaiting : Parser.Awaiting

namespace Parser

/-- How many containers may be open at once. -/
def maxDepth : Nat := 127

/-- Gives a finished value to the innermost container. -/
def deliver (value : Json) : List Container → Option Parser
  | [] => some ⟨[], .nothing value⟩
  | .elements read :: outer => some ⟨.elements (value :: read) :: outer, .separator⟩
  | .member read name :: outer => some ⟨.members ((name, value) :: read) :: outer, .separator⟩
  | .members _ :: _ => none

/-- Opens a container. -/
def enter (containers : List Container) (container : Container) (awaiting : Awaiting) :
    Option Parser :=
  if containers.length < maxDepth then some ⟨container :: containers, awaiting⟩ else none

/-- Takes a token where a value may start. -/
def start (containers : List Container) : Token → Option Parser
  | .openObject => enter containers (.members []) .firstName
  | .openArray => enter containers (.elements []) .firstElement
  | .string value => deliver (.string value) containers
  | .integer value => deliver (.integer value) containers
  | .real => deliver .real containers
  | .bool value => deliver (.bool value) containers
  | .null => deliver .null containers
  | .closeObject | .closeArray | .comma | .colon => none

/-- Closes the innermost container. -/
def leave : List Container → Token → Option Parser
  | .elements read :: outer, .closeArray => deliver (.array read.reverse) outer
  | .members read :: outer, .closeObject => deliver (.object read.reverse) outer
  | _, _ => none

/-- Takes a member's name. -/
def takeName : List Container → Token → Option Parser
  | .members read :: outer, .string name => some ⟨.member read name :: outer, .colon⟩
  | _, _ => none

/-- Takes one token. -/
def next (parser : Parser) (token : Token) : Option Parser :=
  match parser.awaiting with
  | .value => start parser.containers token
  | .firstElement =>
    if token = .closeArray then leave parser.containers token else start parser.containers token
  | .name => takeName parser.containers token
  | .firstName =>
    if token = .closeObject then leave parser.containers token
    else takeName parser.containers token
  | .colon => if token = .colon then some { parser with awaiting := .value } else none
  | .separator =>
    if token = .comma then
      match parser.containers with
      | .elements _ :: _ => some { parser with awaiting := .value }
      | .members _ :: _ => some { parser with awaiting := .name }
      | _ => none
    else leave parser.containers token
  | .nothing _ => none

/-- Takes a list of tokens. -/
def run (parser : Parser) : List Token → Option Parser
  | [] => some parser
  | token :: rest =>
    match parser.next token with
    | none => none
    | some after => after.run rest

/-- The value, once it is complete. -/
def finish (parser : Parser) : Option Json :=
  match parser.awaiting with
  | .nothing value => some value
  | _ => none

theorem run_append (parser : Parser) (first second : List Token) :
    parser.run (first ++ second) = (parser.run first).bind fun after => after.run second := by
  induction first generalizing parser with
  | nil => rfl
  | cons token rest ih =>
    simp only [List.cons_append, run]
    cases parser.next token with
    | none => rfl
    | some after => exact ih after

end Parser

/-- The value of a JSON text. -/
def parse (text : List UInt8) : Option Json := do
  let tokens ← tokens? text
  let parser ← (Parser.mk [] .value).run tokens
  parser.finish

end LaunchSupervisor.Json
