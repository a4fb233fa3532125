import LaunchSupervisor.Text.Blank

/-!
**Messages on the bus.** A message is a request or a notice with an operation and arguments; one
that names its handler is addressed to that process, any other to whoever handles the operation.

* `build_operation`: what is built has the operation and the id that were asked for.
* `build_handler`: what is built is addressed to a handler exactly if one was named.
-/

namespace LaunchSupervisor.Bus

/-- What went wrong on the bus. -/
inductive Fault where
  | notConnected (reason : String)
  | lost (reason : String)
  | sendFailed (reason : String)
  | invalidMessage (reason : String)
  | protocol (reason : String)
  /-- The session was given up before. -/
  | detached
deriving DecidableEq

/-- How a fault is reported. -/
def Fault.message : Fault → String
  | .notConnected reason => "could not connect to the messaging bus: " ++ reason
  | .lost reason => "messaging bus connection lost: " ++ reason
  | .sendFailed reason => "message send failed: " ++ reason
  | .invalidMessage reason => "invalid message: " ++ reason
  | .protocol reason => "protocol error: " ++ reason
  | .detached => "session already detached"

/-- How a fault is reported outside the bus. -/
def Fault.report (fault : Fault) : String :=
  "Messaging bus error: " ++ fault.message

/-- Whether an answer is expected. -/
inductive MessageKind where
  | request
  | notice
deriving DecidableEq

/-- Where a message is delivered. -/
inductive Scope where
  | session
deriving DecidableEq

/-- How a message is routed. -/
inductive Address where
  /-- To whoever handles the operation. -/
  | procedure
  /-- To one process. -/
  | handler
deriving DecidableEq

/-- How far a message has come. -/
inductive MessageState where
  | created
  | sent
  | handled
  | failed
  | rejected
deriving DecidableEq

/-- A status that a message carries. -/
inductive StatusCode where
  | ok
  /-- The bus started the receiver to deliver the message. -/
  | startMessage
  | notSupported
deriving DecidableEq

/-- An argument of a message. -/
inductive Argument where
  | int (value : Int32)
  | str (value : String)
  /-- The bus id of a process, by which it can be addressed. -/
  | messageId (value : String)
deriving DecidableEq

/-- A message. -/
structure Message where
  id : UInt64
  kind : MessageKind
  scope : Scope
  address : Address
  handler : Option String
  operation : String
  arguments : List Argument
  state : MessageState
  status : StatusCode
deriving DecidableEq

namespace Message

/-- Whether the receiver is the handler that a live request names. -/
def awaitsHandling (message : Message) : Bool :=
  message.kind == .request && message.state == .sent &&
    match message.handler with
    | some handler => handler != ""
    | none => false

/-- A new message, unless its operation or its handler is blank. -/
def build (id : UInt64) (kind : MessageKind) (handler : Option String) (operation : String)
    (arguments : List Argument) : Except Fault Message :=
  if Text.allBlank operation.toList then .error (.invalidMessage "empty op")
  else
    match handler with
    | none =>
      .ok { id, kind, scope := .session, address := .procedure, handler := none, operation,
            arguments, state := .created, status := .ok }
    | some name =>
      if Text.allBlank name.toList then
        .error (.invalidMessage ("empty handler for op '" ++ operation ++ "'"))
      else
        .ok { id, kind, scope := .session, address := .handler, handler := some name, operation,
              arguments, state := .created, status := .ok }

theorem build_operation {id : UInt64} {kind : MessageKind} {handler : Option String}
    {operation : String} {arguments : List Argument} {message : Message}
    (built : build id kind handler operation arguments = .ok message) :
    message.operation = operation ∧ message.id = id := by
  unfold build at built
  split at built
  · cases built
  · cases handler with
    | none =>
      cases built
      exact ⟨rfl, rfl⟩
    | some name =>
      dsimp only at built
      split at built
      · cases built
      · cases built
        exact ⟨rfl, rfl⟩

theorem build_handler {id : UInt64} {kind : MessageKind} {handler : Option String}
    {operation : String} {arguments : List Argument} {message : Message}
    (built : build id kind handler operation arguments = .ok message) :
    message.handler = handler ∧ (message.address = .handler ↔ handler.isSome) := by
  unfold build at built
  split at built
  · cases built
  · cases handler with
    | none =>
      cases built
      exact ⟨rfl, by simp⟩
    | some name =>
      dsimp only at built
      split at built
      · cases built
      · cases built
        exact ⟨rfl, by simp⟩

end Message

end LaunchSupervisor.Bus
