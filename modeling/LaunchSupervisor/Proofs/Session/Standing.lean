import LaunchSupervisor.Proofs.Session.Drift
import Mathlib.Data.List.Induction

/-!
**How a session stands to its history.** What the supervisor learns of its report over the whole
life of a session is read off its history alone (`verdict?`): the first reply that names the report
and says that it was handled or has failed decides. A session stands to its history if it awaits
that reply, and no other, under the report's own id.

* `standing_ofUses`: every session does that does not run out of ids.
* `Standing.after` is the step: `Standing.reportDone` for a report, `Standing.receive` for a pass
  over the bus, `Standing.drift` for everything else.
* `verdict?_concat`, `awaited?_concat`: how one thing more decides.
-/

namespace LaunchSupervisor

open Bus (Call Connection Frame Message MessageKind MessageState Scripted)

/-- Whether something learnt settles the report. -/
def SessionEvent.isVerdict : SessionEvent → Bool
  | .doneReplied => true
  | .doneFailed => true
  | .detached => false

namespace Session

/-! ### What settles the report -/

/-- How something that was taken from the bus settles the request `id`, if it does. -/
def settles? (id : UInt64) : Bus.Taken → Option SessionEvent
  | .ok (some (.reply other .handled _)) => if other = id then some .doneReplied else none
  | .ok (some (.reply other .failed _)) => if other = id then some .doneFailed else none
  | _ => none

/-- How the request `id` is settled by the first thing in a history that does. -/
def settlement? (id : UInt64) (history : List Occurrence) : Option SessionEvent :=
  history.findSome? fun occurrence =>
    match occurrence with
    | .taken taken => settles? id taken
    | .reported _ => none

/-- The reply to one request settles no other. -/
theorem settles?_other {id other : UInt64} (different : id ≠ other) (state : MessageState)
    (status : Bus.StatusCode) : settles? other (.ok (some (.reply id state status))) = none := by
  cases state <;> simp [settles?, different]

/-- **The verdict on the report**: how it was settled after it was accepted. -/
def verdict? : List Occurrence → Option SessionEvent
  | [] => none
  | .reported id :: later => settlement? id later
  | .taken _ :: later => verdict? later

/-- The report that was accepted and has not been settled. -/
def awaited? : List Occurrence → Option UInt64
  | [] => none
  | .reported id :: later => if (settlement? id later).isNone then some id else none
  | .taken _ :: later => awaited? later

theorem settlement?_concat (id : UInt64) (history : List Occurrence) (taken : Bus.Taken) :
    settlement? id (history ++ [.taken taken]) =
      (settlement? id history).or (settles? id taken) := by
  simp [settlement?, List.findSome?_append]

theorem verdict?_of_awaited {history : List Occurrence} {id : UInt64}
    (awaited : awaited? history = some id) : verdict? history = none := by
  induction history with
  | nil => rfl
  | cons occurrence later ih =>
    cases occurrence with
    | taken taken => exact ih awaited
    | reported other =>
      unfold awaited? at awaited
      split at awaited
      · rename_i open_
        exact Option.isNone_iff_eq_none.mp open_
      · cases awaited

/-- What is taken next decides as long as the report is awaited. -/
theorem verdict?_concat (history : List Occurrence) (taken : Bus.Taken) :
    verdict? (history ++ [.taken taken]) =
      (verdict? history).or ((awaited? history).bind fun id => settles? id taken) := by
  induction history with
  | nil => rfl
  | cons occurrence later ih =>
    cases occurrence with
    | taken first => exact ih
    | reported id =>
      show settlement? id (later ++ [.taken taken]) = _
      rw [settlement?_concat]
      show _ = (settlement? id later).or _
      unfold awaited?
      cases settled : settlement? id later <;> simp

theorem awaited?_concat (history : List Occurrence) (taken : Bus.Taken) :
    awaited? (history ++ [.taken taken]) =
      (awaited? history).filter fun id => (settles? id taken).isNone := by
  induction history with
  | nil => rfl
  | cons occurrence later ih =>
    cases occurrence with
    | taken first => exact ih
    | reported id =>
      show (if (settlement? id (later ++ [.taken taken])).isNone then some id else none) = _
      rw [settlement?_concat]
      unfold awaited?
      cases settled : settlement? id later with
      | none => simp [Option.filter]
      | some event => simp

/-- What does not settle the report that is awaited makes no difference. -/
theorem concat_idle {history : List Occurrence} {taken : Bus.Taken}
    (other : ∀ id, awaited? history = some id → settles? id taken = none) :
    verdict? (history ++ [.taken taken]) = verdict? history ∧
      awaited? (history ++ [.taken taken]) = awaited? history := by
  rw [verdict?_concat, awaited?_concat]
  cases awaits : awaited? history with
  | none => simp
  | some id => simp [other id awaits, Option.filter]

/-- A history without a report, and with its first. -/
theorem verdict?_of_unreported {history : List Occurrence}
    (unreported : ∀ id, .reported id ∉ history) (id : UInt64) :
    verdict? history = none ∧ awaited? history = none ∧
      verdict? (history ++ [.reported id]) = none ∧
      awaited? (history ++ [.reported id]) = some id := by
  induction history with
  | nil => exact ⟨rfl, rfl, rfl, rfl⟩
  | cons occurrence later ih =>
    cases occurrence with
    | reported other => exact absurd List.mem_cons_self (unreported other)
    | taken taken => exact ih fun id member => unreported id (List.mem_cons_of_mem _ member)

/-! ### How a session stands to its history -/

/-- **The standing of a life**: the report alone is awaited as such, under its own id, and only as
long as the session is held and nothing has settled it. -/
structure Standing (life : Life) : Prop where
  nextId : life.session.nextId = UInt64.ofNat (life.idsUsed + 1)
  known : ∀ entry ∈ life.session.pending, entry.1.toNat ≤ life.idsUsed
  awaited : ∀ id, life.session.pending.lookup id = some .done ↔
    life.session.attached ∧ awaited? life.history = some id
  unsent : life.session.doneSent = false → ∀ id, .reported id ∉ life.history
  learnt : life.learnt.filter SessionEvent.isVerdict = (verdict? life.history).toList

theorem standing_start (connection : Scripted) (caller : Caller) :
    Standing { session := start connection caller } where
  nextId := rfl
  known := fun _ entry => by cases entry
  awaited := fun id => by simp [start, awaited?]
  unsent := fun _ id reported => by cases reported
  learnt := rfl

/-! ### Ids -/

theorem mem_of_lookup {pending : List (UInt64 × Bus.Request)} {id : UInt64} {request : Bus.Request}
    (found : pending.lookup id = some request) : (id, request) ∈ pending := by
  induction pending with
  | nil => cases found
  | cons entry rest ih =>
    rw [List.lookup_cons] at found
    split at found
    · rename_i same
      cases found
      rw [beq_iff_eq.mp same]
      exact List.mem_cons_self
    · exact List.mem_cons_of_mem _ (ih found)

namespace Standing

variable {life : Life}

/-- The next id is new, as long as ids are left. -/
theorem nextId_toNat (standing : Standing life) (few : life.idsUsed + 1 < UInt64.size) :
    life.session.nextId.toNat = life.idsUsed + 1 := by
  rw [standing.nextId, UInt64.toNat_ofNat_of_lt' few]

theorem nextId_fresh (standing : Standing life) (few : life.idsUsed + 1 < UInt64.size)
    (request : Bus.Request) : life.session.pending.lookup life.session.nextId ≠ some request := by
  intro found
  have known := standing.known _ (mem_of_lookup found)
  have new := standing.nextId_toNat few
  dsimp only at known
  omega

/-- The number of ids after one use. -/
theorem nextId_after (standing : Standing life) {next : UInt64}
    (moved : next = life.session.nextId ∨ next = life.session.nextId + 1) :
    next = UInt64.ofNat
      ((life.idsUsed + if next = life.session.nextId then 0 else 1) + 1) := by
  rcases moved with rfl | rfl
  · rw [if_pos rfl, Nat.add_zero]
    exact standing.nextId
  · rw [if_neg (next_ne _), UInt64.ofNat_add, ← standing.nextId]
    rfl

/-! ### One use more -/

/-- **A use without a report** leaves the standing. -/
theorem drift (standing : Standing life) {next : Session Scripted}
    (drift : Drift life.session next)
    (few : (life.idsUsed + if next.nextId = life.session.nextId then 0 else 1) < UInt64.size) :
    Standing { life with
      session := next
      idsUsed := life.idsUsed + if next.nextId = life.session.nextId then 0 else 1 } := by
  have unsent : next.doneSent = false → ∀ id, .reported id ∉ life.history := by
    rw [drift.doneSent]
    exact standing.unsent
  have nextId := standing.nextId_after drift.nextId
  rcases drift.requests with ⟨attached, pending⟩ | ⟨held, before, moved, pending⟩ |
    ⟨gone, pending⟩
  · refine ⟨nextId, fun entry listed => ?_, fun id => ?_, unsent, standing.learnt⟩
    · rw [pending] at listed
      exact Nat.le_add_right_of_le (standing.known entry listed)
    · rw [pending, attached]
      exact standing.awaited id
  · rw [if_neg (by rw [moved]; exact next_ne _)] at few
    have new := standing.nextId_toNat few
    refine ⟨nextId, fun entry listed => ?_, fun id => ?_, unsent, standing.learnt⟩
    · rw [if_neg (by rw [moved]; exact next_ne _)]
      rw [pending] at listed
      rcases List.mem_cons.mp listed with rfl | listed
      · exact Nat.le_of_eq new
      · exact Nat.le_succ_of_le (standing.known entry listed)
    · have other := standing.awaited id
      rw [before] at other
      rw [pending, held, List.lookup_cons, ← other]
      split
      · -- Under the new id nothing was awaited before.
        rename_i same
        rw [beq_iff_eq.mp same]
        exact iff_of_false (by simp) (standing.nextId_fresh few .done)
      · exact Iff.rfl
  · refine ⟨nextId, fun entry listed => ?_, fun id => ?_, unsent, standing.learnt⟩
    · rw [pending] at listed
      cases listed
    · rw [pending, gone]
      simp

/-- Having tried to report makes no difference by itself. -/
theorem tried (standing : Standing life) :
    Standing { life with session := { life.session with doneSent := true } } :=
  ⟨standing.nextId, standing.known, standing.awaited, fun unsent => (by cases unsent),
    standing.learnt⟩

/-- A report that is not accepted leaves the standing as another use does. -/
theorem unheard (standing : Standing life) {status : ChildStatus} (more : List Call)
    (drift : Drift { life.session with doneSent := true } (life.session.reportDone status))
    (calls : (life.session.reportDone status).connection.calls =
      life.session.connection.calls ++ more)
    (nothing : ∀ report ∈ reports more, report.2 = false)
    (few : (life.after (.reportDone status)).idsUsed < UInt64.size) :
    Standing (life.after (.reportDone status)) := by
  have history : occurrences life.session (life.session.reportDone status)
      (.reportDone status) = [] := by
    rw [occurrences, reportsSince, calls, List.drop_left, List.filterMap_eq_nil_iff]
    intro report made
    rw [nothing report made]
    rfl
  have next := standing.tried.drift drift few
  unfold Life.after
  dsimp only [Session.use]
  rw [history, List.append_nil, List.append_nil]
  exact next

/-- A report that is accepted is awaited from now on. -/
theorem heard (standing : Standing life) {status : ChildStatus} {message : Message}
    (unsent : life.session.doneSent = false) (held : life.session.attached)
    (bears : message.id = life.session.nextId) (isReport : message.operation = doneOperation)
    (same : life.session.reportDone status =
      { life.session with
        connection := life.session.connection.sent (.message message) true
        nextId := life.session.nextId + 1
        pending := (message.id, .done) :: life.session.pending
        doneSent := true })
    (few : (life.after (.reportDone status)).idsUsed < UInt64.size) :
    Standing (life.after (.reportDone status)) := by
  have history : occurrences life.session (life.session.reportDone status)
      (.reportDone status) = [.reported message.id] := by
    simp [occurrences, reportsSince, same, Scripted.sent, reports, report?, isReport]
  obtain ⟨undecided, idle, still, awaits⟩ :=
    verdict?_of_unreported (standing.unsent unsent) message.id
  unfold Life.after at few ⊢
  dsimp only [Session.use] at few ⊢
  rw [history]
  rw [same] at few ⊢
  dsimp only at few ⊢
  rw [if_neg (next_ne _)] at few ⊢
  have new := standing.nextId_toNat few
  refine ⟨?_, ?_, ?_, ?_, ?_⟩
  · exact standing.nextId_after (Or.inr rfl) |>.trans (by rw [if_neg (next_ne _)])
  · intro entry listed
    rcases List.mem_cons.mp listed with rfl | listed
    · exact Nat.le_of_eq ((congrArg UInt64.toNat bears).trans new)
    · exact Nat.le_succ_of_le (standing.known entry listed)
  · intro id
    have none_before : life.session.pending.lookup id ≠ some .done := by
      rw [Ne, standing.awaited, idle]
      simp
    rw [List.lookup_cons, awaits, held]
    split
    · rename_i same
      rw [beq_iff_eq.mp same]
      simp
    · rename_i other
      refine iff_of_false none_before ?_
      rintro ⟨-, same⟩
      cases same
      simp at other
  · intro never
    cases never
  · rw [still, ← undecided, List.append_nil]
    exact standing.learnt

/-- **A report** is awaited from the moment it is accepted. -/
theorem reportDone (standing : Standing life) (status : ChildStatus)
    (few : (life.after (.reportDone status)).idsUsed < UInt64.size) :
    Standing (life.after (.reportDone status)) := by
  cases sent : life.session.doneSent with
  | true =>
    have same := reportDone_again sent status
    refine standing.unheard [] ?_ (by rw [same, List.append_nil]) (by simp [reports]) few
    rw [same, ← sent]
    exact drift_connection _ _
  | false =>
    cases held : life.session.attached with
    | false =>
      have same := reportDone_detached sent held status
      refine standing.unheard [] ?_ (by rw [same, List.append_nil]) (by simp [reports]) few
      rw [same]
      exact drift_connection _ _
    | true =>
      have tried : ({ life.session with doneSent := true } : Session Scripted).attached := held
      have outcome := request_cases tried .done
        (life.session.callerArguments ++ [.int status.code])
      rw [← reportDone_new sent] at outcome
      generalize same : life.session.reportDone status = next at outcome
      cases outcome with
      | unmade =>
        refine standing.unheard [.close] ?_ ?_ (by simp [reports, report?]) few
        · rw [same]
          exact (drift_created _ life.session.connection).detach held
        · rw [same, detach_held (by exact held)]
          rfl
      | @refused message own =>
        refine standing.unheard [.send (.message message) false, .close] ?_ ?_ ?_ few
        · rw [same]
          exact (drift_created _ _).detach held
        · rw [same, detach_held (by exact held)]
          simp [Scripted.close, Scripted.sent]
        · simp [reports, report?]
      | @accepted message own =>
        exact standing.heard sent held own.id own.operation same few

/-! ### One thing more is taken -/

end Standing

/-- A life in which one thing more was taken, with the connection it left. -/
def Life.taking (life : Life) (connection : Scripted) (taken : Bus.Taken) : Life :=
  let outcome := onTaken { life.session with connection } taken
  { life with
    session := outcome.2.2
    learnt := life.learnt ++ outcome.2.1.toList
    history := life.history ++ [.taken taken] }

namespace Standing

variable {life : Life}

/-- A change of the session alone, if it uses no id. -/
theorem kept (standing : Standing life) {next : Session Scripted}
    (drift : Drift life.session next) (nextId : next.nextId = life.session.nextId)
    (bounded : life.idsUsed < UInt64.size) : Standing { life with session := next } := by
  have still : (life.idsUsed + if next.nextId = life.session.nextId then 0 else 1) =
      life.idsUsed := by
    rw [if_pos nextId, Nat.add_zero]
  have after := standing.drift drift (by rwa [still])
  rwa [still] at after

/-- The verdicts that were learnt, with what comes of the next thing. -/
theorem learnt_concat (standing : Standing life) {taken : Bus.Taken} {learnt : List SessionEvent}
    (verdict : learnt.filter SessionEvent.isVerdict =
      ((awaited? life.history).bind fun id => settles? id taken).toList) :
    (life.learnt ++ learnt).filter SessionEvent.isVerdict =
      (verdict? (life.history ++ [.taken taken])).toList := by
  rw [List.filter_append, standing.learnt, verdict, verdict?_concat]
  cases awaits : awaited? life.history with
  | none => simp
  | some id => simp [verdict?_of_awaited awaits]

/-- Something was taken that does not settle the report, and nothing of it was learnt. -/
theorem unsettled (standing : Standing life) {taken : Bus.Taken} {learnt : List SessionEvent}
    (other : ∀ id, awaited? life.history = some id → settles? id taken = none)
    (nothing : learnt.filter SessionEvent.isVerdict = []) :
    Standing { life with
      learnt := life.learnt ++ learnt, history := life.history ++ [.taken taken] } := by
  obtain ⟨same, awaits⟩ := concat_idle other
  refine ⟨standing.nextId, standing.known, fun id => ?_, fun unsent id => ?_, ?_⟩
  · rw [awaits]
    exact standing.awaited id
  · simpa using standing.unsent unsent id
  · rw [List.filter_append, nothing, List.append_nil, same]
    exact standing.learnt

/-- **A request is settled** by a reply and no longer awaited. If it was the report, its verdict was
learnt. -/
theorem settled (standing : Standing life) (id : UInt64)
    (state : MessageState) (status : Bus.StatusCode) (learnt : List SessionEvent)
    (own : awaited? life.history = some id → ∃ event,
      settles? id (.ok (some (.reply id state status))) = some event ∧
        learnt.filter SessionEvent.isVerdict = [event])
    (other : awaited? life.history ≠ some id → learnt.filter SessionEvent.isVerdict = []) :
    Standing { life with
      session := { life.session with
        pending := life.session.pending.filter fun entry => entry.1 != id }
      learnt := life.learnt ++ learnt
      history := life.history ++ [.taken (.ok (some (.reply id state status)))] } := by
  have verdict : learnt.filter SessionEvent.isVerdict =
      ((awaited? life.history).bind fun first =>
        settles? first (.ok (some (.reply id state status)))).toList := by
    by_cases awaits : awaited? life.history = some id
    · obtain ⟨event, settles, alone⟩ := own awaits
      rw [awaits, Option.bind_some, settles, alone]
      rfl
    · rw [other awaits, eq_comm, Option.toList_eq_nil_iff, Option.bind_eq_none_iff]
      intro first awaited
      refine settles?_other ?_ state status
      rintro rfl
      exact awaits awaited
  have later : awaited? (life.history ++ [.taken (.ok (some (.reply id state status)))]) =
      (awaited? life.history).filter fun first => first != id := by
    rw [awaited?_concat]
    cases awaits : awaited? life.history with
    | none => rfl
    | some first =>
      by_cases same : first = id
      · subst same
        obtain ⟨event, settles, -⟩ := own awaits
        simp [Option.filter, settles]
      · simp [Option.filter, settles?_other (Ne.symm same), same]
  refine ⟨standing.nextId, fun entry listed => standing.known entry (List.mem_filter.mp listed).1,
    fun first => ?_, fun unsent first => ?_, standing.learnt_concat verdict⟩
  · show List.lookup first (List.filter _ _) = _ ↔ life.session.attached ∧ _
    rw [later, Option.filter_eq_some_iff]
    by_cases same : first = id
    · rw [same, lookup_filter_self]
      simp
    · rw [lookup_filter_ne _ same, standing.awaited first]
      simp [same]
  · simpa using standing.unsent unsent first

/-- **A reply** settles the report if it is the one awaited, and says that it is over. -/
theorem reply (standing : Standing life) (held : life.session.attached) (id : UInt64)
    (state : MessageState) (status : Bus.StatusCode) (bounded : life.idsUsed < UInt64.size) :
    Standing { life with
      session := (life.session.onReply id state).2
      learnt := life.learnt ++ (life.session.onReply id state).1.toList
      history := life.history ++ [.taken (.ok (some (.reply id state status)))] } := by
  have awaits (first : UInt64) :
      awaited? life.history = some first ↔ life.session.pending.lookup first = some .done := by
    rw [standing.awaited first]
    simp [held]
  unfold onReply
  split
  · rename_i unknown
    refine standing.unsettled (fun first awaited => settles?_other ?_ state status) rfl
    rintro rfl
    rw [awaits, unknown] at awaited
    cases awaited
  · rename_i request found
    cases request with
    | identify =>
      have another : awaited? life.history ≠ some id := by
        rw [Ne, awaits, found]
        simp
      cases state with
      | handled =>
        exact standing.settled id .handled status [] (fun awaited => absurd awaited another)
          fun _ => rfl
      | failed =>
        have lost := standing.settled id .failed status [.detached]
          (fun awaited => absurd awaited another) fun _ => rfl
        exact lost.kept (drift_detach _) (nextId_detach _) bounded
      | created | sent | rejected => exact standing.unsettled (fun _ _ => rfl) rfl
    | done =>
      rw [← awaits] at found
      cases state with
      | handled =>
        exact standing.settled id .handled status [.doneReplied]
          (fun _ => ⟨.doneReplied, if_pos rfl, rfl⟩) fun unknown => absurd found unknown
      | failed =>
        have lost := standing.settled id .failed status [.doneFailed]
          (fun _ => ⟨.doneFailed, if_pos rfl, rfl⟩) fun unknown => absurd found unknown
        exact lost.kept (drift_detach _) (nextId_detach _) bounded
      | created | sent | rejected => exact standing.unsettled (fun _ _ => rfl) rfl

/-- What is taken from the bus is taken in its standing. -/
theorem taking (standing : Standing life) (held : life.session.attached)
    (connection : Scripted) (taken : Bus.Taken) (bounded : life.idsUsed < UInt64.size) :
    Standing (life.taking connection taken) := by
  have asked : Standing { life with session := { life.session with connection } } :=
    standing.kept (drift_connection life.session connection) rfl bounded
  unfold Life.taking
  unfold onTaken
  split
  · exact asked.unsettled (fun _ _ => rfl) rfl
  · rename_i frame
    cases frame with
    | reply id state status => exact asked.reply held id state status bounded
    | message message =>
      exact (asked.kept (drift_abandon _ message) (nextId_onTaken _ (.ok (some (.message message))))
        bounded).unsettled (fun _ _ => rfl) rfl
    | openRequest | opened procid joined | join joined | quit left =>
      exact asked.unsettled (fun _ _ => rfl) rfl
  · exact asked.unsettled (fun _ _ => rfl) rfl
  · rename_i fault _
    exact (asked.kept (drift_detach _) (nextId_detach _) bounded).unsettled (fun _ _ => rfl) rfl

/-- The next thing, if there is any. -/
theorem next (standing : Standing life) (bounded : life.idsUsed < UInt64.size) :
    Standing { life with
      session := life.session.receiveNext.2.2
      learnt := life.learnt ++ life.session.receiveNext.2.1.toList
      history := life.history ++
        (takenBetween life.session life.session.receiveNext.2.2).map .taken } := by
  cases held : life.session.attached with
  | false =>
    rw [receiveNext_gone held, takenBetween_eq [] rfl]
    simpa using standing
  | true =>
    cases inbox : life.session.connection.inbox with
    | nil =>
      have quiet : life.session.receiveNext =
          (false, none, { life.session with connection := life.session.connection.took }) := by
        rw [receiveNext_held held, inbox]
        rfl
      rw [quiet, takenBetween_eq []]
      · rw [Option.toList_none, List.map_nil, List.append_nil, List.append_nil]
        exact standing.kept (drift_connection _ _) rfl bounded
      · simp [Scripted.took, inbox]
    | cons taken rest =>
      have step := standing.taking held life.session.connection.took taken bounded
      have same := receiveNext_held held
      rw [inbox] at same
      rw [takenBetween_eq [taken], same]
      · exact step
      · rw [inbox_receiveNext held, inbox]
        rfl

/-- **A pass over the bus.** -/
theorem receive (standing : Standing life) (bounded : life.idsUsed < UInt64.size) :
    Standing { life with
      session := life.session.receive.2
      learnt := life.learnt ++ life.session.receive.1
      history := life.history ++
        (takenBetween life.session life.session.receive.2).map .taken } := by
  generalize same : life.session = session
  fun_induction Session.receive session generalizing life with
  | case1 session event rest first =>
    have step := standing.next bounded
    rw [same, first] at step
    exact step
  | case2 session event rest first ih =>
    have early := inbox_receiveNext_suffix session
    have step := standing.next bounded
    rw [same, first] at step
    rw [first] at early
    have later := ih step bounded rfl
    rw [List.append_assoc, List.append_assoc, ← List.map_append,
      ← takenBetween_trans early (inbox_receive_suffix rest)] at later
    exact later

/-- **A use of the session.** -/
theorem after (standing : Standing life) (use : Use)
    (few : (life.after use).idsUsed < UInt64.size) : Standing (life.after use) := by
  by_cases isReport : ∃ status, use = .reportDone status
  · obtain ⟨status, rfl⟩ := isReport
    exact standing.reportDone status few
  by_cases isPass : use = .receive
  · subst isPass
    have bounded := Nat.lt_of_le_of_lt (life.idsUsed_le_after .receive) few
    have step := standing.receive bounded
    unfold Life.after
    dsimp only [Session.use, occurrences]
    rw [if_pos (nextId_receive life.session), Nat.add_zero]
    exact step
  · obtain ⟨nothing, drift⟩ :=
      drift_use life.session (fun status same => isReport ⟨status, same⟩) isPass
    have silent : occurrences life.session (life.session.use use).2 use = [] := by
      cases use with
      | reportDone status => exact absurd ⟨status, rfl⟩ isReport
      | receive => exact absurd rfl isPass
      | _ => rfl
    have step := standing.drift drift few
    unfold Life.after
    dsimp only
    rw [nothing, silent, List.append_nil, List.append_nil]
    exact step

end Standing

theorem standing_ofUses (connection : Scripted) (caller : Caller) (uses : List Use)
    (few : (Life.ofUses connection caller uses).idsUsed < UInt64.size) :
    Standing (Life.ofUses connection caller uses) := by
  induction uses using List.reverseRecOn with
  | nil => exact standing_start connection caller
  | append_singleton uses use ih =>
    rw [Life.ofUses_concat] at few ⊢
    exact (ih (Nat.lt_of_le_of_lt (Life.idsUsed_le_after _ use) few)).after use few

end Session

end LaunchSupervisor
