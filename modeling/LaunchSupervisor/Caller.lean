import LaunchSupervisor.Text.Number
import LaunchSupervisor.Text.Search

/-!
**The caller.** A launcher names itself by a token, its process id on the bus and two numbers with
underscores between; the numbers are the last two pieces, so the process id may hold underscores.

* `ids_ne_zero_of_parse`: no accepted token has a zero number.
-/

namespace LaunchSupervisor

/-- The launcher that started the supervisor. -/
structure Caller where
  /-- Its process id on the bus. -/
  procid : String
  invocation : Int32
  child : Int32
deriving DecidableEq

namespace Caller

/-- What is wrong with a token. -/
inductive Fault where
  | noSeparator (token : String)
  | oneSeparator (token : String)
  | zeroId (token : String) (invocation child : Int32)
deriving DecidableEq

/-- How a fault is reported. -/
def Fault.message : Fault → String
  | .noSeparator token => "caller token '" ++ token ++ "' has no '_' separators"
  | .oneSeparator token => "caller token '" ++ token ++ "' has only one '_' separator"
  | .zeroId token invocation child =>
    "caller token '" ++ token ++ "' needs two non-zero ids (got " ++ toString invocation.toInt ++
      " and " ++ toString child.toInt ++ ")"

/-- The number a piece of a token stands for. -/
def idOf (piece : List Char) : Int32 :=
  Text.wrap32 (Text.leadingInteger piece)

/-- Reads a token. -/
def parse (token : String) : Except Fault Caller :=
  match Text.splitLast '_' token.toList with
  | none => .error (.noSeparator token)
  | some (rest, childPiece) =>
    match Text.splitLast '_' rest with
    | none => .error (.oneSeparator token)
    | some (procid, invocationPiece) =>
      let invocation := idOf invocationPiece
      let child := idOf childPiece
      if invocation = 0 ∨ child = 0 then .error (.zeroId token invocation child)
      else .ok ⟨.ofList procid, invocation, child⟩

/-- The token of a caller. -/
def token (caller : Caller) : String :=
  caller.procid ++ "_" ++ toString caller.invocation.toInt ++ "_" ++ toString caller.child.toInt

theorem ids_ne_zero_of_parse {token : String} {caller : Caller} (read : parse token = .ok caller) :
    caller.invocation ≠ 0 ∧ caller.child ≠ 0 := by
  unfold parse at read
  split at read
  · cases read
  · split at read
    · cases read
    · dsimp only at read
      split at read
      · cases read
      · rename_i nonzero
        cases read
        simpa using nonzero

end Caller

end LaunchSupervisor
