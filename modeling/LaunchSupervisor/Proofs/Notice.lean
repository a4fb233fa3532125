import LaunchSupervisor.Files.Tree
import LaunchSupervisor.Notice
import LaunchSupervisor.Proofs.Session.Exchange
import Mathlib

/-!
**A notice is given once.** Whenever the time of a notice is looked at, it is early, due or over. On
the first occasion at which it is due it is over, whatever comes of it: without a session that is
held, or without programs to tell of, nothing is sent, and what the bus refuses is not sent again.
The time that is waited until then is cut short to the deadline and no further.

* `NoticePlan.tellIconCache_eq`: a session that is held is asked to send one message, and no more.
* `use_early`, `use_due`, `use_fired`: what one occasion comes to; `after_planned`: what many do.
* `within_clamp`, `due_of_clamp`: what is waited for.
* `given_once`: the statement.
-/

namespace LaunchSupervisor

open Bus (Connection Scripted)

theorem CommandList.join_eq (list : CommandList) : list.join = "\n".intercalate list.commands := by
  have lines (texts : List (List Char)) : Text.joinLines texts = ['\n'].intercalate texts := by
    fun_induction Text.joinLines texts with
    | case1 => exact List.intercalate_nil.symm
    | case2 last => exact List.intercalate_singleton.symm
    | case3 line rest other ih =>
      obtain ⟨next, later, rfl⟩ := List.exists_cons_of_ne_nil other
      rw [List.intercalate_cons_cons, ih, List.append_assoc]
      rfl
  rw [← String.toList_inj, String.toList_intercalate, join, String.toList_ofList, lines]
  rfl

variable {κ : Type} [Connection κ] {φ : Type} [FileSystem φ]

/-! ### What is sent -/

/-- The message by which the icon cache is told of the programs that an action has turned into, one
on each line. -/
def NoticePlan.message (plan : NoticePlan) (id : UInt64) (programs : List String) : Bus.Message :=
  Session.iconCacheMessage id plan.action ("\n".intercalate programs)

/-- A session once its connection was asked, this once, to send the message; whether the connection
has accepted it makes no difference. -/
def NoticePlan.handOver (plan : NoticePlan) (programs : List String) (session : Session κ) :
    Session κ :=
  { session with
    connection :=
      (Connection.send session.connection (.message (plan.message session.nextId programs))).2
    nextId := session.nextId + 1 }

theorem NoticePlan.tellIconCache_eq {session : Session κ} (held : session.attached)
    (plan : NoticePlan) (list : CommandList) :
    (session.tellIconCache plan.action list.join).2 = plan.handOver list.commands session := by
  rw [CommandList.join_eq]
  exact Session.tellIconCache_eq held _ _

/-- The session once the notice is given: the message is handed to a session that is held, if there
are programs to tell of. -/
def NoticePlan.give (plan : NoticePlan) (session : Option (Session κ)) (files : φ) :
    Option (Session κ) :=
  let programs := (ProcessTree.snapshot files plan.pid).commands
  session.map fun session =>
    if session.attached ∧ programs ≠ [] then plan.handOver programs session else session

/-- Giving the notice ends no session. -/
theorem NoticePlan.attached_give (plan : NoticePlan) (session : Option (Session κ)) (files : φ) :
    (plan.give session files).map (·.attached) = session.map (·.attached) := by
  unfold give
  rw [Option.map_map]
  refine congrArg (session.map ·) (funext fun session => ?_)
  simp only [Function.comp]
  split <;> rfl

namespace Notice

theorem tell_eq (plan : NoticePlan) (session : Option (Session κ)) (files : φ) :
    tell plan session files = plan.give session files := by
  unfold tell NoticePlan.give
  by_cases none : (ProcessTree.snapshot files plan.pid).commands = []
  · simp [none]
  · simp only [none, if_false, ne_eq, not_false_eq_true, and_true]
    refine congrArg (session.map ·) (funext fun session => ?_)
    split
    · rename_i held
      exact plan.tellIconCache_eq held _
    · rfl

/-- The notice for a plan, as it starts. -/
def planned (plan : NoticePlan) : Notice :=
  { plan := some plan }

/-! ### One occasion -/

/-- An occasion to give a notice: the time, the session there is then, and the processes that can be
seen. -/
structure Occasion (κ φ : Type) where
  now : Nat
  session : Option (Session κ)
  files : φ

/-- The notice and the session after an occasion. -/
def use (notice : Notice) (occasion : Occasion κ φ) : Notice × Option (Session κ) :=
  notice.runIfDue occasion.now occasion.session occasion.files

theorem use_early {plan : NoticePlan} {occasion : Occasion κ φ}
    (early : occasion.now < plan.deadline) :
    (planned plan).use occasion = (planned plan, occasion.session) :=
  runIfDue_early _ _ fun _ same => Option.some.inj same ▸ early

theorem due?_planned {plan : NoticePlan} {now : Nat} (reached : plan.deadline ≤ now) :
    (planned plan).due? now = some plan := by
  simp [planned, due?, reached]

theorem use_due {plan : NoticePlan} {occasion : Occasion κ φ}
    (reached : plan.deadline ≤ occasion.now) :
    (planned plan).use occasion =
      ((planned plan).markDone, plan.give occasion.session occasion.files) := by
  unfold use runIfDue
  rw [due?_planned reached]
  exact Prod.ext rfl (tell_eq plan occasion.session occasion.files)

/-- A notice that is over stays so, and nothing is sent any more. -/
theorem use_fired {notice : Notice} (fired : notice.fired) (occasion : Occasion κ φ) :
    notice.use occasion = (notice, occasion.session) := by
  have ended : notice.due? occasion.now = none := if_pos fired
  unfold use runIfDue
  rw [ended]

/-! ### Many occasions -/

/-- The notice after some occasions. -/
def after (notice : Notice) (occasions : List (Occasion κ φ)) : Notice :=
  occasions.foldl (fun notice occasion => (notice.use occasion).1) notice

theorem after_concat (notice : Notice) (earlier : List (Occasion κ φ))
    (occasion : Occasion κ φ) :
    notice.after (earlier ++ [occasion]) = ((notice.after earlier).use occasion).1 :=
  List.foldl_append

/-- **A notice is over once there was an occasion at which it was due.** -/
theorem after_planned (plan : NoticePlan) (occasions : List (Occasion κ φ)) :
    (planned plan).after occasions =
      { plan := some plan
        fired := occasions.any fun occasion => decide (plan.deadline ≤ occasion.now) } := by
  induction occasions using List.reverseRecOn with
  | nil => rfl
  | append_singleton earlier occasion ih =>
    rw [after_concat, ih, List.any_append, List.any_cons, List.any_nil, Bool.or_false]
    cases ended : earlier.any fun occasion => decide (plan.deadline ≤ occasion.now) with
    | true =>
      show (use _ occasion).1 = _
      rw [use_fired rfl]
      rfl
    | false =>
      show ((planned plan).use occasion).1 = _
      by_cases due : plan.deadline ≤ occasion.now
      · rw [use_due due, decide_eq_true due]
        rfl
      · rw [use_early (Nat.lt_of_not_le due), decide_eq_false due]
        rfl

theorem isDone_after_planned (plan : NoticePlan) (occasions : List (Occasion κ φ)) :
    ((planned plan).after occasions).isDone ↔
      ∃ occasion ∈ occasions, plan.deadline ≤ occasion.now := by
  rw [after_planned]
  simp [isDone]

/-- **What an occasion comes to** after earlier ones: it is early, or the first at which the notice
is due, or a later one. -/
inductive Course (plan : NoticePlan) (occasion : Occasion κ φ) :
    Notice → Notice × Option (Session κ) → Prop where
  | early (ahead : occasion.now < plan.deadline) :
    Course plan occasion (planned plan) (planned plan, occasion.session)
  | due (reached : plan.deadline ≤ occasion.now) :
    Course plan occasion (planned plan)
      ((planned plan).markDone, plan.give occasion.session occasion.files)
  | ended (reached : plan.deadline ≤ occasion.now) :
    Course plan occasion (planned plan).markDone ((planned plan).markDone, occasion.session)

theorem course (plan : NoticePlan) {earlier : List (Occasion κ φ)} {occasion : Occasion κ φ}
    (inOrder : (earlier ++ [occasion]).Pairwise fun before after => before.now ≤ after.now) :
    Course plan occasion ((planned plan).after earlier)
      (((planned plan).after earlier).use occasion) := by
  have before : ∀ held ∈ earlier, held.now ≤ occasion.now := fun held within =>
    (List.pairwise_append.mp inOrder).2.2 held within occasion (List.mem_singleton_self _)
  rw [after_planned]
  cases ended : earlier.any fun occasion => decide (plan.deadline ≤ occasion.now) with
  | true =>
    obtain ⟨held, within, was⟩ := List.any_eq_true.mp ended
    rw [use_fired rfl]
    exact .ended (Nat.le_trans (of_decide_eq_true was) (before held within))
  | false =>
    show Course plan occasion (planned plan) ((planned plan).use occasion)
    rcases Nat.lt_or_ge occasion.now plan.deadline with ahead | reached
    · rw [use_early ahead]
      exact .early ahead
    · rw [use_due reached]
      exact .due reached

/-! ### What is waited for -/

/-- The wait does not pass a deadline that is ahead. -/
theorem within_clamp {plan : NoticePlan} {now : Nat} (ahead : now < plan.deadline) (timeout : Nat) :
    now + (planned plan).clamp now timeout ≤ plan.deadline := by
  show now + min timeout (plan.deadline - now) ≤ plan.deadline
  omega

/-- At the end of a wait that was cut short the notice is due. -/
theorem due_of_clamp {plan : NoticePlan} {now timeout : Nat}
    (short : (planned plan).clamp now timeout < timeout) :
    (planned plan).due? (now + (planned plan).clamp now timeout) = some plan := by
  refine due?_planned ?_
  change min timeout (plan.deadline - now) < timeout at short
  show plan.deadline ≤ now + min timeout (plan.deadline - now)
  omega

/-! ### The statement -/

/-- **A notice is given once**, at the first occasion at or after its deadline, whatever sessions
and processes there are on the way. -/
theorem given_once (plan : NoticePlan) {earlier : List (Occasion κ φ)} {occasion : Occasion κ φ}
    (inOrder : (earlier ++ [occasion]).Pairwise fun before after => before.now ≤ after.now) :
    let notice := (planned plan).after earlier
    let next := notice.runIfDue occasion.now occasion.session occasion.files
    (occasion.now < plan.deadline → next.1.isDone = false ∧ next.2 = occasion.session) ∧
      (plan.deadline ≤ occasion.now → next.1.isDone ∧
        next.2 = if notice.isDone then occasion.session
          else plan.give occasion.session occasion.files) ∧
      (notice.isDone ↔ ∃ before ∈ earlier, plan.deadline ≤ before.now) ∧
      next.2.map (·.attached) = occasion.session.map (·.attached) ∧
      (notice.isDone = false → ∀ now timeout,
        (now < plan.deadline → now + notice.clamp now timeout ≤ plan.deadline) ∧
          (notice.clamp now timeout < timeout →
            notice.due? (now + notice.clamp now timeout) = some plan)) := by
  intro notice next
  have ended : notice.isDone ↔ ∃ before ∈ earlier, plan.deadline ≤ before.now :=
    isDone_after_planned plan earlier
  have course : Course plan occasion notice next := course plan inOrder
  clear_value next notice
  cases course with
  | early ahead =>
    exact ⟨fun _ => ⟨rfl, rfl⟩, fun reached => absurd ahead (Nat.not_lt.mpr reached), ended,
      rfl, fun _ now timeout => ⟨fun ahead => within_clamp ahead timeout, due_of_clamp⟩⟩
  | due reached =>
    exact ⟨fun ahead => absurd ahead (Nat.not_lt.mpr reached), fun _ => ⟨rfl, rfl⟩, ended,
      plan.attached_give _ _,
      fun _ now timeout => ⟨fun ahead => within_clamp ahead timeout, due_of_clamp⟩⟩
  | ended reached =>
    exact ⟨fun ahead => absurd ahead (Nat.not_lt.mpr reached), fun _ => ⟨rfl, rfl⟩, ended,
      rfl, fun pending => nomatch pending⟩

/-- A plan for a process with a program of its own and one of its child's. -/
def terminalPlan : NoticePlan :=
  { pid := 77, action := "dtterm", deadline := 5 }

/-- The two processes. -/
def terminalProcesses : Tree :=
  ((Tree.empty.addFile (.ofString "/proc/77/cmdline") (Utf8.bytes "dtterm")).addFile
    (.ofString "/proc/77/task/77/children") (Utf8.bytes "78 ")).addFile
    (.ofString "/proc/78/cmdline") (Utf8.bytes "vi")

/-- An occasion with a session whose connection refuses all it is asked to send. -/
def refusedAt (now : Nat) : Occasion Scripted Tree :=
  { now
    session := some (.start { refusal := fun _ => some .detached } ⟨"dtsvc.9", 12, 34⟩)
    files := terminalProcesses }

/-- The message that is refused is the only one, and the session is held all the same. -/
theorem given_once_refused :
    let early := (planned terminalPlan).after [refusedAt 3]
    let late := (planned terminalPlan).after [refusedAt 3, refusedAt 5]
    early.isDone = false ∧ late.isDone ∧
      (early.use (refusedAt 5)).2.map (·.connection.calls) =
        some [.send (.message (terminalPlan.message 1 ["dtterm", "vi"])) false] ∧
      (early.use (refusedAt 5)).2.map (·.attached) = some true ∧
      (late.use (refusedAt 9)).2 = (refusedAt 9).session := by
  intro early late
  obtain ⟨-, due, ended, held, -⟩ :=
    @given_once _ _ _ _ terminalPlan [refusedAt 3] (refusedAt 5) (by decide)
  obtain ⟨-, again, endedAgain, -, -⟩ :=
    @given_once _ _ _ _ terminalPlan [refusedAt 3, refusedAt 5] (refusedAt 9) (by decide)
  have pending : early.isDone = false :=
    Bool.eq_false_iff.mpr fun done => absurd (ended.mp done) (by decide)
  have done : late.isDone := endedAgain.mpr (by decide)
  refine ⟨pending, done, ?_, held, ?_⟩
  · have given := (due (by decide)).2
    rw [if_neg (by simp [early, pending])] at given
    have programs : (ProcessTree.snapshot terminalProcesses 77).commands = ["dtterm", "vi"] := by
      cbv
    refine (congrArg (Option.map (·.connection.calls)) given).trans ?_
    unfold NoticePlan.give
    simp only [terminalPlan, refusedAt, programs]
    rfl
  · have silent := (again (by decide)).2
    rw [if_pos done] at silent
    exact silent

end Notice

end LaunchSupervisor
