import LaunchSupervisor.CommandLine
import Mathlib.Data.List.Induction

/-!
**The two parts of a command line.** Arguments fall into options, each a flag with its value, and a
rest that starts with no further option. They do so in one way only, and what becomes of a command
line is read off the two parts.

* `parseFrom_written`: options are taken in one after the other, whatever their values look like.
* `exists_splits`, `Splits.unique`: the two parts of a command line.
* `withOptions_eq`: of every flag but the one for temp files the last value counts.
* `parse_decided`: the outcome, for each kind of rest.
-/

namespace LaunchSupervisor.Request

/-! ### Options as they are written -/

/-- How a flag is written. -/
def Flag.word : Flag → Argument
  | .openPolicy => openFlag
  | .caller => callerFlag
  | .tempFile => tempFlag

theorem flag?_eq_some_iff (argument : Argument) (flag : Flag) :
    flag? argument = some flag ↔ argument = flag.word := by
  constructor
  · intro isFlag
    unfold flag? at isFlag
    split at isFlag
    · cases isFlag
      assumption
    · split at isFlag
      · cases isFlag
        assumption
      · split at isFlag
        · cases isFlag
          assumption
        · cases isFlag
  · rintro rfl
    cases flag <;> decide

theorem flag?_word (flag : Flag) : flag? flag.word = some flag :=
  (flag?_eq_some_iff flag.word flag).mpr rfl

theorem word_injective {flag other : Flag} (same : flag.word = other.word) : flag = other := by
  have found := flag?_word flag
  rw [same, flag?_word] at found
  exact (Option.some.inj found).symm

/-- No flag asks for help. -/
theorem not_help_word (flag : Flag) : ¬ helpStart <+: flag.word := by
  rw [← List.isPrefixOf_iff_prefix]
  cases flag <;> decide

/-- Options as they stand on a command line. -/
def written (options : List (Flag × Argument)) : List Argument :=
  options.flatMap fun option => [option.1.word, option.2]

theorem written_cons (flag : Flag) (value : Argument) (options : List (Flag × Argument)) :
    written ((flag, value) :: options) = flag.word :: value :: written options := rfl

/-- The request with some options taken in, one after the other. -/
def withOptions (request : Request) (options : List (Flag × Argument)) : Request :=
  options.foldl (fun request option => request.withOption option.1 option.2) request

/-- **Options are taken in whatever their values look like.** -/
theorem parseFrom_written (request : Request) (options : List (Flag × Argument))
    (rest : List Argument) :
    parseFrom request (written options ++ rest) = parseFrom (request.withOptions options) rest := by
  induction options generalizing request with
  | nil => rfl
  | cons option others ih =>
    obtain ⟨flag, value⟩ := option
    rw [written_cons, List.cons_append, List.cons_append,
      parseFrom_option request (flag?_word flag) value]
    exact ih _

/-! ### The two parts -/

/-- **The options that arguments start with, and the rest**, which starts with no option. -/
structure Splits (arguments : List Argument) (options : List (Flag × Argument))
    (rest : List Argument) : Prop where
  whole : arguments = written options ++ rest
  maximal : ∀ flag value others, rest ≠ Flag.word flag :: value :: others

theorem exists_splits (arguments : List Argument) :
    ∃ options rest, Splits arguments options rest := by
  match arguments with
  | [] => exact ⟨[], [], rfl, nofun⟩
  | [word] => exact ⟨[], [word], rfl, nofun⟩
  | word :: value :: others =>
    by_cases isFlag : ∃ flag : Flag, word = flag.word
    · obtain ⟨flag, rfl⟩ := isFlag
      obtain ⟨options, rest, whole, maximal⟩ := exists_splits others
      exact ⟨(flag, value) :: options, rest, by rw [whole]; rfl, maximal⟩
    · refine ⟨[], word :: value :: others, rfl, fun flag _ _ same => isFlag ⟨flag, ?_⟩⟩
      exact (List.cons.inj same).1

/-- **There is one way only** to take the options off a command line. -/
theorem Splits.unique {arguments : List Argument} {options others : List (Flag × Argument)}
    {rest more : List Argument} (one : Splits arguments options rest)
    (other : Splits arguments others more) : others = options ∧ more = rest := by
  obtain ⟨whole, maximal⟩ := one
  obtain ⟨same, maximal'⟩ := other
  rw [whole] at same
  clear whole
  induction options generalizing others with
  | nil =>
    cases others with
    | nil => exact ⟨rfl, same.symm⟩
    | cons option others => exact absurd same (maximal option.1 option.2 _)
  | cons option options ih =>
    cases others with
    | nil => exact absurd same.symm (maximal' option.1 option.2 _)
    | cons option' others =>
      obtain ⟨flag, value⟩ := option
      obtain ⟨flag', value'⟩ := option'
      simp only [written_cons, List.cons_append, List.cons.injEq] at same
      obtain ⟨word, rfl, same⟩ := same
      obtain ⟨rfl, rfl⟩ := ih same
      cases word_injective word
      exact ⟨rfl, rfl⟩

/-- A value may look like a flag; the same word at the end is a flag without a value. -/
example : Splits [openFlag, tempFlag, tempFlag] [(.openPolicy, tempFlag)] [tempFlag] :=
  ⟨rfl, nofun⟩

/-! ### What options ask for -/

/-- The values of a flag, in order. -/
def valuesOf (flag : Flag) (options : List (Flag × Argument)) : List Argument :=
  (options.filter fun option => option.1 == flag).map Prod.snd

theorem valuesOf_concat (flag : Flag) (options : List (Flag × Argument)) (other : Flag)
    (value : Argument) :
    valuesOf flag (options ++ [(other, value)]) =
      valuesOf flag options ++ if other = flag then [value] else [] := by
  by_cases same : other = flag <;> simp [valuesOf, same]

/-- What some options and a command ask for: the last policy, the last caller if its token is well
formed, and every temp file. What the number of a policy stands for says
`OpenPolicy.ofOption_eq_iff`. -/
def asked (options : List (Flag × Argument)) (command : Option (List Argument)) : Request :=
  { policy :=
      match (valuesOf .openPolicy options).getLast? with
      | none => .standard
      | some value => .ofOption (Text.leadingInteger (Utf8.decodeLossy value))
    caller :=
      (valuesOf .caller options).getLast?.bind fun token =>
        (Caller.parse (Utf8.lossyString token)).toOption
    tempFiles := (valuesOf .tempFile options).map fun bytes => ⟨bytes⟩
    command }

/-- **Of a flag that is given again the last value counts**, and temp files add up. -/
theorem withOptions_eq (options : List (Flag × Argument)) :
    withOptions {} options = asked options none := by
  induction options using List.reverseRecOn with
  | nil => rfl
  | append_singleton options option ih =>
    obtain ⟨flag, value⟩ := option
    have last : withOptions {} (options ++ [(flag, value)]) =
        (asked options none).withOption flag value := by
      rw [← ih, withOptions, List.foldl_append]
      rfl
    rw [last]
    cases flag <;> simp [asked, withOption, valuesOf_concat]

/-! ### The outcome -/

/-- **What becomes of a command line**, by the rest after its options. -/
inductive Outcome (options : List (Flag × Argument)) :
    List Argument → Except UsageError Request → Prop where
  /-- The options were all there was. -/
  | bare : Outcome options [] (.ok (asked options none))
  /-- The last flag lacks its value. -/
  | cutShort {word : Argument} {flag : Flag} (isFlag : word = flag.word) {error : UsageError}
    (code : error.exitCode = 1) : Outcome options [word] (.error error)
  | help {word : Argument} (more : List Argument) (asks : helpStart <+: word) {error : UsageError}
    (code : error.exitCode = 0) : Outcome options (word :: more) (.error error)
  /-- The command is all of the rest, as it stands. -/
  | command {word : Argument} {more : List Argument}
    (noFlag : ∀ flag : Flag, word :: more ≠ [flag.word]) (noHelp : ¬ helpStart <+: word) :
    Outcome options (word :: more) (.ok (asked options (some (word :: more))))

theorem exitCode_injective {error other : UsageError} (same : error.exitCode = other.exitCode) :
    error = other := by
  revert same
  cases error <;> cases other <;> decide

/-- The outcome of the rest, as the arguments are read. -/
theorem outcome_parseFrom (options : List (Flag × Argument)) {rest : List Argument}
    (maximal : ∀ flag value others, rest ≠ Flag.word flag :: value :: others) :
    Outcome options rest (parseFrom (asked options none) rest) := by
  cases rest with
  | nil =>
    rw [parseFrom]
    exact .bare
  | cons word more =>
    by_cases isFlag : ∃ flag : Flag, word = flag.word
    · obtain ⟨flag, rfl⟩ := isFlag
      cases more with
      | nil =>
        rw [parseFrom_option_alone _ (flag?_word flag)]
        exact .cutShort rfl rfl
      | cons value others => exact absurd rfl (maximal flag value others)
    · have noFlag : flag? word = none := by
        rw [Option.eq_none_iff_forall_ne_some]
        exact fun flag found => isFlag ⟨flag, (flag?_eq_some_iff word flag).mp found⟩
      by_cases asks : helpStart <+: word
      · rw [parseFrom_help _ more noFlag (List.isPrefixOf_iff_prefix.mpr asks)]
        exact .help more asks rfl
      · have noHelp : helpStart.isPrefixOf word = false := by
          rw [Bool.eq_false_iff]
          exact fun starts => asks (List.isPrefixOf_iff_prefix.mp starts)
        rw [parseFrom_command _ more noFlag noHelp]
        exact .command (fun flag same => isFlag ⟨flag, (List.cons.inj same).1⟩) asks

/-- Nothing else can become of a command line. -/
theorem Outcome.unique {options : List (Flag × Argument)} {rest : List Argument}
    {outcome other : Except UsageError Request} (one : Outcome options rest outcome)
    (another : Outcome options rest other) : outcome = other := by
  cases one with
  | bare =>
    cases another
    rfl
  | @cutShort word flag isFlag _ code =>
    cases another with
    | cutShort _ code' => rw [exitCode_injective (code.trans code'.symm)]
    | help _ asks _ => exact absurd (isFlag ▸ asks) (not_help_word flag)
    | command noFlag _ => exact absurd (congrArg ([·]) isFlag) (noFlag flag)
  | help more asks code =>
    cases another with
    | @cutShort _ flag isFlag => exact absurd (isFlag ▸ asks) (not_help_word flag)
    | help _ _ code' => rw [exitCode_injective (code.trans code'.symm)]
    | command _ noHelp => exact absurd asks noHelp
  | command noFlag noHelp =>
    cases another with
    | @cutShort _ flag isFlag => exact absurd (congrArg ([·]) isFlag) (noFlag flag)
    | help _ asks _ => exact absurd asks noHelp
    | command _ _ => rfl

/-- **A command line is decided by its two parts**: there is one way to take its options off, what
is left names the outcome, and there is no other. -/
theorem parse_decided (arguments : List Argument) :
    ∃ options rest,
      (∀ others more, Splits arguments others more ↔ others = options ∧ more = rest) ∧
        ∀ outcome, parse arguments = outcome ↔ Outcome options rest outcome := by
  obtain ⟨options, rest, splits⟩ := exists_splits arguments
  have reached : Outcome options rest (parse arguments) := by
    rw [parse, splits.whole, parseFrom_written, withOptions_eq]
    exact outcome_parseFrom options splits.maximal
  refine ⟨options, rest, fun others more => ⟨splits.unique, ?_⟩,
    fun outcome => ⟨?_, ?_⟩⟩
  · rintro ⟨rfl, rfl⟩
    exact splits
  · rintro rfl
    exact reached
  · exact reached.unique

end LaunchSupervisor.Request
