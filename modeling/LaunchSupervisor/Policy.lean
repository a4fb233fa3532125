/-!
**What becomes of the window.** Once the command is over the supervisor may keep the terminal
window open; the caller says how long.

* `ofOption_eq_iff`: what the number of the open option stands for.
-/

namespace LaunchSupervisor

/-- How long the window stays once the command is over. -/
inductive OpenPolicy where
  /-- It stays for good. -/
  | permanent
  /-- It closes at once. -/
  | transient
  /-- It stays if the command was over within so many seconds. -/
  | shortWindow (seconds : Nat)
deriving DecidableEq

namespace OpenPolicy

/-- The policy of the open option's number. -/
def ofOption (n : Int) : OpenPolicy :=
  if n < 0 then .permanent
  else if n = 0 then .transient
  else .shortWindow n.toNat

/-- The policy when no option gives one. -/
def standard : OpenPolicy := .shortWindow 0

/-- Only a command without a window of its own has its error output captured. -/
def capturesStderr : OpenPolicy → Bool
  | .transient => true
  | _ => false

/-- The policy in force once a signal has asked the supervisor not to linger. -/
def effective (requested : OpenPolicy) (forceTransient : Bool) : OpenPolicy :=
  if forceTransient then .transient else requested

/-- **What the number of the open option stands for**, by its sign: below zero the window stays,
zero closes it at once, and any other number is that many seconds. -/
theorem ofOption_eq_iff (n : Int) (policy : OpenPolicy) :
    ofOption n = policy ↔
      match policy with
      | .permanent => n < 0
      | .transient => n = 0
      | .shortWindow seconds => 0 < n ∧ n = seconds := by
  unfold ofOption
  split
  · rename_i negative
    cases policy <;> simp <;> omega
  · rename_i whole
    split
    · rename_i zero
      cases policy <;> simp [zero]
    · rename_i nonzero
      cases policy <;> simp <;> omega

end OpenPolicy

/-- What the supervisor does at the very end. -/
inductive Farewell where
  | exit (code : Int)
  /-- Waits for ever, so that the window stays. -/
  | linger
deriving DecidableEq

/-- The end of a run that started at `start`, in seconds, under the policy in force; `now` is none
if the clock cannot be read, which matters only to a short window. -/
def OpenPolicy.farewell (policy : OpenPolicy) (start : Int) (now : Option Int) : Farewell :=
  match policy with
  | .permanent => .linger
  | .transient => .exit 0
  | .shortWindow seconds =>
    match now with
    | none => .exit 1
    | some now => if now - start < min seconds 9223372036854775807 then .linger else .exit 0

end LaunchSupervisor
