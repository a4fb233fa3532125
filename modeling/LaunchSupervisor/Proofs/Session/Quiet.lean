import LaunchSupervisor.Bus.Session
import LaunchSupervisor.Files.Basic

/-!
**The reports of a session.** Among all that a session asks of its connection, the report that the
command is over is told apart by its operation. Everything but the making of a report leaves the
reports as they are (`Quiet`): giving a session up, whatever is sent otherwise, and whatever is
received.

* `quiet_receiveNext`: receiving reports nothing.
* `quiet_tellIconCache`, `quiet_join`, `quiet_identify`: nor does any other message.
* `Quiet.trans`: one such change after the other.
-/

namespace LaunchSupervisor

open Bus (Call Connection Frame Message MessageState Scripted)

namespace Session

/-- The report that a call makes, with whether it was accepted. -/
def report? : Call → Option (Message × Bool)
  | .send (.message message) accepted =>
    if message.operation = doneOperation then some (message, accepted) else none
  | _ => none

/-- The reports among some calls. -/
def reports (calls : List Call) : List (Message × Bool) :=
  calls.filterMap report?

theorem reports_append (first second : List Call) :
    reports (first ++ second) = reports first ++ reports second :=
  List.filterMap_append

/-- Whether an accepted report is among some calls. -/
def Heard (calls : List Call) : Prop :=
  ∃ message, .send (.message message) true ∈ calls ∧ message.operation = doneOperation

theorem heard_iff (calls : List Call) :
    Heard calls ↔ ∃ message, (message, true) ∈ reports calls := by
  constructor
  · rintro ⟨message, sent, isReport⟩
    exact ⟨message, List.mem_filterMap.mpr ⟨_, sent, by simp [report?, isReport]⟩⟩
  · rintro ⟨message, listed⟩
    obtain ⟨call, asked, made⟩ := List.mem_filterMap.mp listed
    unfold report? at made
    split at made
    · split at made
      · rename_i isReport
        cases made
        exact ⟨message, asked, isReport⟩
      · cases made
    · cases made

/-! ### What makes no report -/

/-- **A change that makes no report**: it adds no report to the calls, and no session is taken up or
awaits an acknowledgement because of it. -/
structure Quiet (before after : Session Scripted) : Prop where
  calls : ∃ more, after.connection.calls = before.connection.calls ++ more ∧ reports more = []
  attached : after.attached → before.attached
  doneSent : after.doneSent = before.doneSent
  awaited : ∀ id, after.pending.lookup id = some .done → before.pending.lookup id = some .done

theorem Quiet.refl (session : Session Scripted) : Quiet session session :=
  ⟨⟨[], by simp [reports]⟩, id, rfl, fun _ => id⟩

theorem Quiet.trans {first second third : Session Scripted} (early : Quiet first second)
    (late : Quiet second third) : Quiet first third := by
  obtain ⟨some, grown, silent⟩ := early.calls
  obtain ⟨more, grownMore, silentStill⟩ := late.calls
  refine ⟨⟨some ++ more, ?_, ?_⟩, fun held => early.attached (late.attached held),
    late.doneSent.trans early.doneSent,
    fun id awaited => early.awaited id (late.awaited id awaited)⟩
  · rw [grownMore, grown, List.append_assoc]
  · rw [reports_append, silent, silentStill, List.append_nil]

theorem quiet_detach (session : Session Scripted) : Quiet session session.detach := by
  unfold detach
  split
  · exact ⟨⟨[.close], rfl, rfl⟩, by simp, rfl, by simp⟩
  · exact .refl session

theorem quiet_arrive (session : Session Scripted) (items : List Bus.Taken) :
    Quiet session { session with connection := session.connection.arrive items } :=
  ⟨⟨[], by simp [Scripted.arrive, reports]⟩, id, rfl, fun _ => id⟩

/-- What was asked of a connection once it was asked to send. -/
theorem calls_send (connection : Scripted) (frame : Frame) :
    (Connection.send connection frame).2.calls =
      connection.calls ++ [.send frame (connection.refusal connection.sends).isNone] := by
  show (connection.send frame).2.calls = _
  unfold Scripted.send
  split <;> simp [*]

/-- Sending a frame that is no report, whatever comes of it. -/
theorem quiet_send (session : Session Scripted) (frame : Frame)
    (other : ∀ accepted, report? (.send frame accepted) = none) :
    Quiet session { session with connection := (Connection.send session.connection frame).2 } :=
  ⟨⟨_, calls_send _ _, by simp [reports, other]⟩, id, rfl, fun _ => id⟩

theorem quiet_answer (session : Session Scripted) (message : Message) (state : MessageState) :
    Quiet session (session.answer message state) := by
  unfold answer
  split
  · exact quiet_send session _ fun _ => rfl
  · exact .refl session

theorem quiet_abandon (session : Session Scripted) (message : Message) :
    Quiet session (session.abandon message) := by
  unfold abandon fail reject
  split
  · split <;> exact quiet_answer _ _ _
  · exact .refl session

/-- A message of one's own that is no report. -/
theorem quiet_sendMessage (session : Session Scripted) {message : Message}
    (other : message.operation ≠ doneOperation) : Quiet session (session.send message).2.2 := by
  have silent := quiet_send session (.message { message with state := .sent })
    fun _ => if_neg other
  unfold send
  split
  · split
    · rename_i sent
      rw [sent] at silent
      exact silent
    · rename_i refused
      rw [refused] at silent
      exact silent
  · exact .refl session

theorem quiet_create (session : Session Scripted) (kind : Bus.MessageKind) (handler : Option String)
    (operation : String) (arguments : List Bus.Argument) :
    Quiet session (session.create kind handler operation arguments).2 :=
  ⟨⟨[], by simp [create, reports]⟩, id, rfl, fun _ => id⟩

theorem create_operation {session next : Session Scripted} {kind : Bus.MessageKind}
    {handler : Option String} {operation : String} {arguments : List Bus.Argument}
    {message : Message}
    (created : session.create kind handler operation arguments = (.ok message, next)) :
    message.operation = operation := by
  have built : Message.build session.nextId kind handler operation arguments = .ok message :=
    congrArg Prod.fst created
  exact (Message.build_operation built).1

theorem quiet_tellIconCache (session : Session Scripted) (action children : String) :
    Quiet session (session.tellIconCache action children).2 := by
  have differs : iconCacheOperation ≠ doneOperation := by decide
  have prepared := quiet_create session .notice none iconCacheOperation
    [.str action, .str children]
  unfold tellIconCache
  split
  · rename_i failed
    rw [failed] at prepared
    exact prepared
  · rename_i message next created
    rw [created] at prepared
    exact prepared.trans
      (quiet_sendMessage next (by rw [create_operation created]; exact differs))

/-! ### Receiving -/

theorem quiet_onReply (session : Session Scripted) (id : UInt64) (state : MessageState) :
    Quiet session (session.onReply id state).2 := by
  have settled : Quiet session
      { session with pending := session.pending.filter fun entry => entry.1 != id } := by
    refine ⟨⟨[], by simp [reports]⟩, fun held => held, rfl, fun other awaited => ?_⟩
    by_cases same : other = id
    · rw [same] at awaited
      simp [lookup_filter_self] at awaited
    · rwa [lookup_filter_ne _ same] at awaited
  unfold onReply
  split
  · exact .refl session
  · rename_i request _
    cases request <;> cases state <;> first
      | exact .refl session
      | exact settled
      | exact settled.trans (quiet_detach _)

theorem quiet_onTaken (session : Session Scripted) (taken : Bus.Taken) :
    Quiet session (session.onTaken taken).2.2 := by
  unfold onTaken
  split
  · exact .refl session
  · rename_i frame
    cases frame with
    | reply id state status => exact quiet_onReply session id state
    | message message => exact quiet_abandon session message
    | openRequest => exact .refl session
    | opened procid joined => exact .refl session
    | join joined => exact .refl session
    | quit left => exact .refl session
  · exact .refl session
  · exact quiet_detach session

theorem quiet_receiveNext (session : Session Scripted) :
    Quiet session session.receiveNext.2.2 := by
  unfold receiveNext
  split
  · have asked : Quiet session
        { session with connection := (Connection.take session.connection).2 } := by
      refine ⟨⟨[.take], ?_, rfl⟩, id, rfl, fun _ => id⟩
      show session.connection.take.2.calls = _
      unfold Scripted.take
      split <;> rfl
    exact asked.trans (quiet_onTaken _ _)
  · exact .refl session

/-! ### Making the acquaintance -/

theorem quiet_join (session : Session Scripted) : Quiet session session.join := by
  have silent := quiet_send session
    (.join (Connection.session session.connection)) fun _ => rfl
  unfold join sendOrDetach
  split
  · split
    · rename_i sent
      rw [sent] at silent
      exact silent
    · rename_i refused
      rw [refused] at silent
      exact silent.trans (quiet_detach _)
  · exact .refl session

/-- Awaiting the answer to another request. -/
theorem quiet_awaiting (session : Session Scripted) (id : UInt64) :
    Quiet session { session with pending := (id, .identify) :: session.pending } := by
  refine ⟨⟨[], by simp [reports]⟩, fun held => held, rfl, fun other awaited => ?_⟩
  rw [List.lookup_cons] at awaited
  split at awaited
  · cases awaited
  · exact awaited

theorem quiet_identify (session : Session Scripted) : Quiet session session.identify := by
  have differs : identifyOperation ≠ doneOperation := by decide
  unfold identify request
  split
  · have prepared := quiet_create session .request (some session.caller.procid) identifyOperation
      (session.callerArguments ++ [.messageId (Connection.procid session.connection)])
    split
    · rename_i created
      rw [operation] at created
      rw [created] at prepared
      exact prepared.trans (quiet_detach _)
    · rename_i message next created
      rw [operation] at created
      rw [created] at prepared
      have asked := prepared.trans
        (quiet_sendMessage next (by rw [create_operation created]; exact differs))
      split
      · rename_i sent
        rw [sent] at asked
        exact asked.trans (quiet_awaiting _ _)
      · rename_i refused
        rw [refused] at asked
        exact asked.trans (quiet_detach _)
  · exact .refl session

end Session

end LaunchSupervisor
