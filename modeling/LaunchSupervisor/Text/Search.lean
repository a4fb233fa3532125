/-!
**Looking for one text in another,** and splitting a text at a character.

* `occursIn_iff`: `occursIn part whole` says that `part` stands somewhere in `whole`.
* `splitFirst_eq_some_iff`, `splitLast_eq_some_iff`: the two ways to split at a separator.
* `afterLast_eq_iff`: what stands behind the last separator.
-/

namespace LaunchSupervisor.Text

/-- Whether `part` stands somewhere in a text. -/
def occursIn (part : List Char) : List Char → Bool
  | [] => part.isEmpty
  | c :: rest => part.isPrefixOf (c :: rest) || occursIn part rest

/-- The text before and after the first separator. -/
def splitFirst (separator : Char) (text : List Char) : Option (List Char × List Char) :=
  match text.dropWhile (· != separator) with
  | [] => none
  | _ :: after => some (text.takeWhile (· != separator), after)

/-- The text before and after the last separator. -/
def splitLast (separator : Char) (text : List Char) : Option (List Char × List Char) :=
  (splitFirst separator text.reverse).map fun (after, before) => (before.reverse, after.reverse)

/-- The text after the last separator, or all of it when there is none. -/
def afterLast (separator : Char) (text : List Char) : List Char :=
  (text.reverse.takeWhile (· != separator)).reverse

/-! ### What the searches find -/

theorem occursIn_iff (part whole : List Char) : occursIn part whole ↔ part <:+: whole := by
  induction whole with
  | nil => simp [occursIn]
  | cons c rest ih => simp [occursIn, ih, List.infix_cons_iff]

theorem splitFirst_eq_some_iff (separator : Char) (text before after : List Char) :
    splitFirst separator text = some (before, after) ↔
      text = before ++ separator :: after ∧ separator ∉ before := by
  induction text generalizing before with
  | nil => simp [splitFirst]
  | cons c rest ih =>
    by_cases same : c = separator
    · subst same
      simp only [splitFirst, bne_self_eq_false, Bool.false_eq_true, not_false_eq_true,
        List.dropWhile_cons_of_neg, List.takeWhile_cons_of_neg, Option.some.injEq, Prod.mk.injEq]
      cases before with
      | nil => simp
      | cons d more => simp; intro eq; simp [eq]
    · have kept : (c != separator) = true := by simpa using same
      have unfolded : splitFirst separator (c :: rest) =
          (splitFirst separator rest).map fun (b, a) => (c :: b, a) := by
        simp only [splitFirst, List.dropWhile_cons_of_pos (p := (· != separator)) kept,
          List.takeWhile_cons_of_pos (p := (· != separator)) kept]
        split <;> rfl
      rw [unfolded]
      cases before with
      | nil => simp; intro eq; exact absurd eq same
      | cons d more =>
        simp only [Option.map_eq_some_iff, Prod.mk.injEq, List.cons.injEq, Prod.exists,
          List.cons_append, List.mem_cons, not_or]
        constructor
        · rintro ⟨b, a, found, ⟨rfl, rfl⟩, rfl⟩
          obtain ⟨rfl, fresh⟩ := (ih b).mp found
          exact ⟨⟨rfl, rfl⟩, fun eq => same eq.symm, fresh⟩
        · rintro ⟨⟨rfl, eq⟩, -, fresh⟩
          exact ⟨more, after, (ih more).mpr ⟨eq, fresh⟩, ⟨rfl, rfl⟩, rfl⟩

theorem splitLast_eq_some_iff (separator : Char) (text before after : List Char) :
    splitLast separator text = some (before, after) ↔
      text = before ++ separator :: after ∧ separator ∉ after := by
  simp only [splitLast, Option.map_eq_some_iff, Prod.mk.injEq, Prod.exists]
  constructor
  · rintro ⟨a, b, found, rfl, rfl⟩
    obtain ⟨eq, fresh⟩ := (splitFirst_eq_some_iff separator text.reverse a b).mp found
    have := congrArg List.reverse eq
    simp only [List.reverse_reverse, List.reverse_append, List.reverse_cons,
      List.append_assoc, List.singleton_append] at this
    exact ⟨this, by simpa using fresh⟩
  · rintro ⟨rfl, fresh⟩
    refine ⟨after.reverse, before.reverse, ?_, by simp, by simp⟩
    rw [splitFirst_eq_some_iff]
    simpa using fresh

theorem splitLast_eq_none_iff (separator : Char) (text : List Char) :
    splitLast separator text = none ↔ separator ∉ text := by
  constructor
  · intro unsplit member
    have all := List.all_takeWhile (p := (· != separator)) (l := text.reverse)
    have whole := List.takeWhile_append_dropWhile (p := (· != separator)) (l := text.reverse)
    unfold splitLast splitFirst at unsplit
    split at unsplit
    · rename_i passed
      rw [passed, List.append_nil] at whole
      rw [whole] at all
      have kept := List.all_eq_true.mp all separator (List.mem_reverse.mpr member)
      simp at kept
    · cases unsplit
  · intro fresh
    rw [Option.eq_none_iff_forall_ne_some]
    rintro ⟨before, after⟩ found
    rw [((splitLast_eq_some_iff ..).mp found).1] at fresh
    exact fresh (List.mem_append_right _ List.mem_cons_self)

theorem afterLast_eq (separator : Char) (text : List Char) :
    afterLast separator text = ((splitLast separator text).map Prod.snd).getD text := by
  unfold splitLast splitFirst afterLast
  have whole := List.takeWhile_append_dropWhile (p := (· != separator)) (l := text.reverse)
  split
  · rename_i passed
    rw [passed, List.append_nil] at whole
    rw [whole, List.reverse_reverse]
    rfl
  · rfl

theorem afterLast_eq_iff (separator : Char) (text after : List Char) :
    afterLast separator text = after ↔
      separator ∉ after ∧
        (text = after ∨ ∃ before, text = before ++ separator :: after) := by
  rw [afterLast_eq]
  constructor
  · rintro rfl
    cases split : splitLast separator text with
    | none => exact ⟨(splitLast_eq_none_iff ..).mp split, .inl rfl⟩
    | some parts =>
      obtain ⟨whole, fresh⟩ := (splitLast_eq_some_iff ..).mp split
      exact ⟨fresh, .inr ⟨parts.1, whole⟩⟩
  · rintro ⟨fresh, rfl | ⟨before, rfl⟩⟩
    · rw [(splitLast_eq_none_iff ..).mpr fresh]
      rfl
    · rw [(splitLast_eq_some_iff ..).mpr ⟨rfl, fresh⟩]
      rfl

end LaunchSupervisor.Text
