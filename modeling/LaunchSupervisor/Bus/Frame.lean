import LaunchSupervisor.Bus.Message
import LaunchSupervisor.Json.Parser
import LaunchSupervisor.Json.Writer

/-!
**Frames, the units of the wire.** A frame is one line of JSON, an object whose `kind` names its
case. Reading is lenient where the format is: members may stand in any order, unknown ones are
skipped, defaults may be left out, and a record may be an array of its members in order.

* `MessageState.ofName?_name` and its like: each case is known by its name.
-/

namespace LaunchSupervisor.Bus

/-- A frame. -/
inductive Frame where
  /-- A client asks for a connection. -/
  | openRequest
  /-- The bus grants it. -/
  | opened (procid session : String)
  | join (session : String)
  | message (message : Message)
  /-- How far a message has come. -/
  | reply (id : UInt64) (state : MessageState) (status : StatusCode)
  | quit (session : String)
deriving DecidableEq

/-! ### The names of the cases -/

def MessageKind.name : MessageKind → String
  | .request => "request"
  | .notice => "notice"

def MessageKind.ofName? : String → Option MessageKind
  | "request" => some .request
  | "notice" => some .notice
  | _ => none

def Scope.name : Scope → String
  | .session => "session"

def Scope.ofName? : String → Option Scope
  | "session" => some .session
  | _ => none

def Address.name : Address → String
  | .procedure => "procedure"
  | .handler => "handler"

def Address.ofName? : String → Option Address
  | "procedure" => some .procedure
  | "handler" => some .handler
  | _ => none

def MessageState.name : MessageState → String
  | .created => "created"
  | .sent => "sent"
  | .handled => "handled"
  | .failed => "failed"
  | .rejected => "rejected"

def MessageState.ofName? : String → Option MessageState
  | "created" => some .created
  | "sent" => some .sent
  | "handled" => some .handled
  | "failed" => some .failed
  | "rejected" => some .rejected
  | _ => none

def StatusCode.name : StatusCode → String
  | .ok => "ok"
  | .startMessage => "start_message"
  | .notSupported => "not_supported"

def StatusCode.ofName? : String → Option StatusCode
  | "ok" => some .ok
  | "start_message" => some .startMessage
  | "not_supported" => some .notSupported
  | _ => none

/-! ### Writing -/

/-- The JSON form of an argument. -/
def Argument.toJson : Argument → Json
  | .int value => .object [("type", .string "int"), ("value", .integer value.toInt)]
  | .str value => .object [("type", .string "str"), ("value", .string value)]
  | .messageId value => .object [("type", .string "message_id"), ("value", .string value)]

/-- The JSON form of a message; a handler that is not named is left out. -/
def Message.toJson (message : Message) : Json :=
  .object <|
    [("id", .integer message.id.toNat), ("class", .string message.kind.name),
      ("scope", .string message.scope.name), ("address", .string message.address.name)] ++
    (match message.handler with
      | some handler => [("handler", Json.string handler)]
      | none => []) ++
    [("op", .string message.operation), ("args", .array (message.arguments.map Argument.toJson)),
      ("state", .string message.state.name), ("status", .string message.status.name)]

namespace Frame

/-- The JSON form of a frame. -/
def toJson : Frame → Json
  | .openRequest => .object [("kind", .string "open")]
  | .opened procid session =>
    .object [("kind", .string "opened"), ("procid", .string procid), ("session", .string session)]
  | .join session => .object [("kind", .string "join"), ("session", .string session)]
  | .message content => .object [("kind", .string "message"), ("message", content.toJson)]
  | .reply id state status =>
    .object [("kind", .string "reply"), ("id", .integer id.toNat), ("state", .string state.name),
      ("status", .string status.name)]
  | .quit session => .object [("kind", .string "quit"), ("session", .string session)]

/-- The text of a frame. -/
def text (frame : Frame) : List Char :=
  frame.toJson.write

/-- The bytes of a frame on the wire: its text and a line feed. -/
def line (frame : Frame) : List UInt8 :=
  Utf8.encode frame.text ++ [10]

end Frame

/-! ### Reading -/

/-- The case with a JSON value's name. -/
def ofCase? {α : Type} (ofName? : String → Option α) (value : Json) : Option α :=
  value.case?.bind ofName?

/-- A member that has to be there. -/
def required {α : Type} (read? : Json → Option α) : Option Json → Option α
  | some value => read? value
  | none => none

/-- A member that may be left out. -/
def optional {α : Type} (read? : Json → Option α) (standard : α) : Option Json → Option α
  | some value => read? value
  | none => some standard

/-- A message id. -/
def id? (value : Json) : Option UInt64 :=
  value.integer?.bind fun n =>
    if 0 ≤ n ∧ n < 18446744073709551616 then some (UInt64.ofNat n.toNat) else none

/-- A number of 32 bits. -/
def int? (value : Json) : Option Int32 :=
  value.integer?.bind fun n =>
    if -2147483648 ≤ n ∧ n ≤ 2147483647 then some (Int32.ofInt n) else none

/-- A handler, or null for none. -/
def handler? : Json → Option (Option String)
  | .null => some none
  | value => value.text?.map some

/-- The types of an argument, in the order of their numbers. -/
def Argument.types : List String :=
  ["int", "str", "message_id"]

/-- The type that the first element of an array gives, by its name or its number. -/
def Argument.typeAt? : Json → Option String
  | .string name => some name
  | .integer number => if number < 0 then none else types[number.toNat]?
  | _ => none

/-- The argument with the given type and value. -/
def Argument.ofParts? (type : String) (value : Json) : Option Argument :=
  match type with
  | "int" => .int <$> int? value
  | "str" => .str <$> value.text?
  | "message_id" => .messageId <$> value.text?
  | _ => none

/-- An argument from its JSON form, an object with two members or an array of two elements. -/
def Argument.ofJson? : Json → Option Argument
  | .array [type, value] => do ofParts? (← typeAt? type) value
  | .object members => do
    match ← Json.members? members ["type", "value"] with
    | [some type, some value] => ofParts? (← type.case?) value
    | _ => none
  | _ => none

/-- The arguments from a JSON array. -/
def arguments? (value : Json) : Option (List Argument) :=
  value.elements?.bind fun elements => elements.mapM Argument.ofJson?

/-- The members of a message, in order. -/
def Message.members : List String :=
  ["id", "class", "scope", "address", "handler", "op", "args", "state", "status"]

/-- A message from its JSON form. -/
def Message.ofJson? (value : Json) : Option Message := do
  match ← value.record? members with
  | [id, kind, scope, address, handler, operation, arguments, state, status] =>
    pure
      { id := ← required id? id
        kind := ← required (ofCase? MessageKind.ofName?) kind
        scope := ← optional (ofCase? Scope.ofName?) .session scope
        address := ← required (ofCase? Address.ofName?) address
        handler := ← optional handler? none handler
        operation := ← required Json.text? operation
        arguments := ← optional arguments? [] arguments
        state := ← required (ofCase? MessageState.ofName?) state
        status := ← optional (ofCase? StatusCode.ofName?) .ok status }
  | _ => none

namespace Frame

/-- The frame of the given kind from the rest of its members. -/
def ofContents? (kind : String) (contents : Json) : Option Frame := do
  match kind with
  | "open" =>
    match contents with
    | .array (_ :: _) => none
    | _ => some .openRequest
  | "opened" =>
    match ← contents.record? ["procid", "session"] with
    | [procid, session] =>
      pure (.opened (← required Json.text? procid) (← required Json.text? session))
    | _ => none
  | "join" =>
    match ← contents.record? ["session"] with
    | [session] => pure (.join (← required Json.text? session))
    | _ => none
  | "message" =>
    match ← contents.record? ["message"] with
    | [content] => pure (.message (← required Message.ofJson? content))
    | _ => none
  | "reply" =>
    match ← contents.record? ["id", "state", "status"] with
    | [id, state, status] =>
      pure (.reply (← required id? id) (← required (ofCase? MessageState.ofName?) state)
        (← optional (ofCase? StatusCode.ofName?) .ok status))
    | _ => none
  | "quit" =>
    match ← contents.record? ["session"] with
    | [session] => pure (.quit (← required Json.text? session))
    | _ => none
  | _ => none

/-- A frame from its JSON form; the kind is a member of an object or the first element of an
array. -/
def ofJson? : Json → Option Frame
  | .object members => do
    let kind ← required Json.text? (← Json.member? members "kind")
    ofContents? kind (.object (members.filter fun member => member.1 != "kind"))
  | .array (.string kind :: rest) => ofContents? kind (.array rest)
  | _ => none

/-- The frame on a line. -/
def ofLine? (line : List UInt8) : Option Frame :=
  (Json.parse line).bind ofJson?

end Frame

/-! ### Names are read back -/

theorem MessageKind.ofName?_name (c : MessageKind) : ofName? c.name = some c := by
  cases c <;> rfl

theorem Scope.ofName?_name (c : Scope) : ofName? c.name = some c := by
  cases c; rfl

theorem Address.ofName?_name (c : Address) : ofName? c.name = some c := by
  cases c <;> rfl

theorem MessageState.ofName?_name (c : MessageState) : ofName? c.name = some c := by
  cases c <;> rfl

theorem StatusCode.ofName?_name (c : StatusCode) : ofName? c.name = some c := by
  cases c <;> rfl

end LaunchSupervisor.Bus
