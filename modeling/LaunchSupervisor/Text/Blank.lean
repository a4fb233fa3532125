/-!
**Blank characters and words.** Blanks are the characters of the Unicode property `White_Space`.

* `trimStart_not_blank`: what is left after trimming starts with no blank.
* `not_isBlank_of_mem_firstWord`: the first word of a text holds no blank.
* `firstWord_eq_some_iff`: where the first word of a text stands.
* `words_eq`: the words of a text are what stands between its blanks.
-/

namespace LaunchSupervisor.Text

/-- A character of the Unicode property `White_Space`. -/
def isBlank (c : Char) : Bool :=
  let n := c.toNat
  (9 ≤ n && n ≤ 13) || n == 0x20 || n == 0x85 || n == 0xA0 || n == 0x1680 ||
    (0x2000 ≤ n && n ≤ 0x200A) || n == 0x2028 || n == 0x2029 || n == 0x202F || n == 0x205F ||
    n == 0x3000

/-- The text without the blanks it starts with. -/
def trimStart (text : List Char) : List Char :=
  text.dropWhile isBlank

/-- The text without the blanks it ends with. -/
def trimEnd (text : List Char) : List Char :=
  (text.reverse.dropWhile isBlank).reverse

/-- The text without the blanks at either end. -/
def trim (text : List Char) : List Char :=
  trimEnd (trimStart text)

/-- The characters up to the first blank, once leading blanks are gone. -/
def leadingWord (text : List Char) : List Char :=
  (trimStart text).takeWhile fun c => !isBlank c

/-- The first word of a text, if it has one. -/
def firstWord (text : List Char) : Option (List Char) :=
  if (leadingWord text).isEmpty then none else some (leadingWord text)

/-- The words collected so far and the word being read, each held back to front. -/
def wordsFrom (done : List (List Char)) (current : List Char) : List Char → List (List Char)
  | [] => (if current.isEmpty then done else current.reverse :: done).reverse
  | c :: rest =>
    if isBlank c then
      wordsFrom (if current.isEmpty then done else current.reverse :: done) [] rest
    else
      wordsFrom done (c :: current) rest

/-- The words of a text: its longest stretches without a blank, in order. -/
def words (text : List Char) : List (List Char) :=
  wordsFrom [] [] text

/-- Whether a text has nothing but blanks. -/
def allBlank (text : List Char) : Bool :=
  text.all isBlank

/-! ### What trimming and word splitting leave -/

theorem trimStart_eq_nil_iff (text : List Char) : trimStart text = [] ↔ allBlank text := by
  induction text with
  | nil => simp [trimStart, allBlank]
  | cons c rest ih =>
    by_cases blank : isBlank c <;> simp_all [trimStart, allBlank]

theorem trimStart_not_blank (text : List Char) (c : Char) (rest : List Char)
    (left : trimStart text = c :: rest) : isBlank c = false := by
  have head := List.head?_dropWhile_not isBlank text
  rw [show text.dropWhile isBlank = c :: rest from left] at head
  simpa using head

theorem not_isBlank_of_mem_leadingWord {text : List Char} {c : Char}
    (member : c ∈ leadingWord text) : isBlank c = false := by
  have := List.all_takeWhile (p := fun c => !isBlank c) (l := trimStart text)
  simpa using List.all_eq_true.mp this c member

theorem not_isBlank_of_mem_firstWord {text word : List Char} (found : firstWord text = some word)
    {c : Char} (member : c ∈ word) : isBlank c = false := by
  unfold firstWord at found
  split at found
  · cases found
  · cases found
    exact not_isBlank_of_mem_leadingWord member

theorem firstWord_ne_nil {text word : List Char} (found : firstWord text = some word) :
    word ≠ [] := by
  unfold firstWord at found
  split at found
  · cases found
  · rename_i nonempty
    cases found
    simpa using nonempty

theorem firstWord_eq_none_iff (text : List Char) :
    firstWord text = none ↔ ∀ c ∈ text, isBlank c := by
  have blank : (leadingWord text).isEmpty ↔ trimStart text = [] := by
    rw [leadingWord]
    cases trimmed : trimStart text with
    | nil => simp
    | cons c rest => simp [trimStart_not_blank text c rest trimmed]
  rw [← List.all_eq_true, show text.all isBlank = allBlank text from rfl,
    ← trimStart_eq_nil_iff, ← blank, firstWord]
  simp

/-- **The first word of a text**: blanks may stand before it, and a blank ends it. -/
theorem firstWord_eq_some_iff (text word : List Char) :
    firstWord text = some word ↔
      ∃ blanks rest, text = blanks ++ (word ++ rest) ∧ (∀ c ∈ blanks, isBlank c) ∧
        word ≠ [] ∧ (∀ c ∈ word, isBlank c = false) ∧ rest.head?.all isBlank := by
  constructor
  · intro found
    have filled := firstWord_ne_nil found
    have unblank := fun c => not_isBlank_of_mem_firstWord found (c := c)
    unfold firstWord at found
    split at found
    · cases found
    · cases found
      refine ⟨text.takeWhile isBlank, (trimStart text).dropWhile fun c => !isBlank c, ?_,
        List.all_eq_true.mp List.all_takeWhile, filled, unblank, ?_⟩
      · rw [leadingWord, List.takeWhile_append_dropWhile, trimStart,
          List.takeWhile_append_dropWhile]
      · have next := List.head?_dropWhile_not (fun c => !isBlank c) (trimStart text)
        cases ends : ((trimStart text).dropWhile fun c => !isBlank c).head? with
        | none => rfl
        | some c =>
          rw [ends] at next
          simpa using next
  · rintro ⟨blanks, rest, rfl, blank, filled, unblank, ends⟩
    have start : trimStart (blanks ++ (word ++ rest)) = word ++ rest := by
      obtain ⟨c, more, rfl⟩ := List.exists_cons_of_ne_nil filled
      rw [trimStart, List.dropWhile_append_of_pos blank]
      simp [unblank c List.mem_cons_self]
    have taken : leadingWord (blanks ++ (word ++ rest)) = word := by
      rw [leadingWord, start, List.takeWhile_append_of_pos (by simpa using unblank)]
      cases rest with
      | nil => simp
      | cons c more =>
        have blank : isBlank c := by simpa using ends
        simp [blank]
    rw [firstWord, taken, if_neg (by simpa using filled)]

theorem wordsFrom_eq (done : List (List Char)) (current text : List Char) :
    wordsFrom done current text =
      done.reverse ++
        ((text.splitOnP isBlank).modifyHead (current.reverse ++ ·)).filter (· ≠ []) := by
  induction text generalizing done current with
  | nil => cases current <;> simp [wordsFrom]
  | cons c rest ih =>
    obtain ⟨first, others, split⟩ :=
      List.exists_cons_of_ne_nil (List.splitOnP_ne_nil isBlank rest)
    rw [wordsFrom, List.splitOnP_cons_eq_if_modifyHead]
    split
    · rw [ih, split]
      cases current <;> simp [List.filter_cons]
    · rw [ih, split]
      simp

/-- **The words of a text** are what stands between its blanks, as far as that is anything. -/
theorem words_eq (text : List Char) : words text = (text.splitOnP isBlank).filter (· ≠ []) := by
  obtain ⟨first, others, split⟩ :=
    List.exists_cons_of_ne_nil (List.splitOnP_ne_nil isBlank text)
  rw [words, wordsFrom_eq, split]
  simp

end LaunchSupervisor.Text
