import LaunchSupervisor.Caller
import LaunchSupervisor.Proofs.Text.Numerals

/-!
**Callers and their tokens.** A token is taken apart from its end, so its two numbers are found
whatever the process id is made of; and a piece that is the numeral of a number is read as that
number, which neither the bound on the digits nor the narrowing changes.

* `idOf_toString`: a number of 32 bits is read back from its numeral.
* `parse_eq_ok_iff`: which tokens are accepted, and for which callers.
* `read_back`: a caller is read back from its token.
-/

namespace LaunchSupervisor.Caller

theorem leadingInteger_id (id : Int32) :
    Text.leadingInteger (toString id.toInt).toList = id.toInt := by
  have least := id.le_toInt
  have most := id.toInt_lt
  have bound : Text.maxInt64 = 9223372036854775807 := rfl
  exact Text.leadingInteger_toString (by omega)

theorem idOf_toString (id : Int32) : idOf (toString id.toInt).toList = id := by
  rw [idOf, leadingInteger_id, Text.wrap32, Int32.ofInt_toInt]

/-- **Which tokens are accepted, and for which callers**: what stands before the last two separators
is the process id, and the pieces after them are the numbers, neither of them zero. -/
theorem parse_eq_ok_iff (token : String) (caller : Caller) :
    parse token = .ok caller ↔
      ∃ invocation child : List Char,
        token.toList = caller.procid.toList ++ '_' :: invocation ++ '_' :: child ∧
          '_' ∉ invocation ∧ '_' ∉ child ∧ idOf invocation = caller.invocation ∧
          idOf child = caller.child ∧ caller.invocation ≠ 0 ∧ caller.child ≠ 0 := by
  constructor
  · intro read
    have nonzero := ids_ne_zero_of_parse read
    unfold parse at read
    split at read
    · cases read
    · rename_i rest child splitChild
      split at read
      · cases read
      · rename_i procid invocation splitInvocation
        dsimp only at read
        split at read
        · cases read
        · cases read
          obtain ⟨whole, childPlain⟩ := (Text.splitLast_eq_some_iff ..).mp splitChild
          obtain ⟨start, invocationPlain⟩ := (Text.splitLast_eq_some_iff ..).mp splitInvocation
          refine ⟨invocation, child, ?_, invocationPlain, childPlain, rfl, rfl, nonzero⟩
          rw [whole, start, String.toList_ofList]
  · rintro ⟨invocation, child, whole, invocationPlain, childPlain, first, second, nonzero⟩
    have splitChild := (Text.splitLast_eq_some_iff ..).mpr ⟨whole, childPlain⟩
    have splitInvocation :=
      (Text.splitLast_eq_some_iff '_' (caller.procid.toList ++ '_' :: invocation) ..).mpr
        ⟨rfl, invocationPlain⟩
    unfold parse
    rw [splitChild]
    dsimp only
    rw [splitInvocation]
    dsimp only
    rw [first, second, if_neg (not_or.mpr nonzero), String.ofList_toList]

theorem token_toList (caller : Caller) :
    caller.token.toList =
      caller.procid.toList ++ '_' :: (toString caller.invocation.toInt).toList ++
      '_' :: (toString caller.child.toInt).toList := by
  simp [token]

theorem parse_token_iff (caller : Caller) :
    parse caller.token = .ok caller ↔ caller.invocation ≠ 0 ∧ caller.child ≠ 0 :=
  ⟨ids_ne_zero_of_parse, fun nonzero => (parse_eq_ok_iff ..).mpr
    ⟨_, _, token_toList caller, Text.underscore_not_mem_toString _,
      Text.underscore_not_mem_toString _, idOf_toString _, idOf_toString _, nonzero⟩⟩

theorem two_separators_of_parse {token : String} {caller : Caller}
    (read : parse token = .ok caller) : 2 ≤ token.toList.count '_' := by
  obtain ⟨invocation, child, whole, -⟩ := (parse_eq_ok_iff ..).mp read
  rw [whole, List.count_append, List.count_append, List.count_cons_self, List.count_cons_self]
  omega

/-- **A caller is read back from its token**, whatever its process id, just when neither of its
numbers is zero; their numerals are read as they were written before any narrowing. And a token that
is accepted at all has two separators and names such a caller, so what it is read as is read again
from the token of that caller. -/
theorem read_back (caller : Caller) :
    (parse caller.token = .ok caller ↔ caller.invocation ≠ 0 ∧ caller.child ≠ 0) ∧
      Text.leadingInteger (toString caller.invocation.toInt).toList = caller.invocation.toInt ∧
      Text.leadingInteger (toString caller.child.toInt).toList = caller.child.toInt ∧
      ∀ token, parse token = .ok caller →
        2 ≤ token.toList.count '_' ∧ caller.invocation ≠ 0 ∧ caller.child ≠ 0 ∧
          parse caller.token = .ok caller := by
  refine ⟨parse_token_iff caller, leadingInteger_id _, leadingInteger_id _,
    fun token read => ?_⟩
  have nonzero := ids_ne_zero_of_parse read
  exact ⟨two_separators_of_parse read, nonzero.1, nonzero.2,
    (parse_token_iff caller).mpr nonzero⟩

/-- A token with a sign, blanks and text that is no number, for the least number there is. -/
theorem read_back_least :
    parse "größe_-1__ -2147483648x_+7" = .ok ⟨"größe_-1_", -2147483648, 7⟩ ∧
      parse "größe_-1__-2147483648_7" = .ok ⟨"größe_-1_", -2147483648, 7⟩ := by
  have read : parse "größe_-1__ -2147483648x_+7" = .ok ⟨"größe_-1_", -2147483648, 7⟩ := rfl
  have token : token ⟨"größe_-1_", -2147483648, 7⟩ = "größe_-1__-2147483648_7" := rfl
  obtain ⟨-, -, -, again⟩ :=
    (read_back ⟨"größe_-1_", -2147483648, 7⟩).2.2.2 "größe_-1__ -2147483648x_+7" read
  exact ⟨read, token ▸ again⟩

end LaunchSupervisor.Caller
