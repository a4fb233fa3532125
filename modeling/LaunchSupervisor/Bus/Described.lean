import LaunchSupervisor.Bus.Message
import LaunchSupervisor.Bus.Frame
import LaunchSupervisor.Text.Quoted

/-!
**Frames as reports show them.** A report that names a frame writes its case and, in braces, each
part with its name; a frame without parts is its case alone.
-/

namespace LaunchSupervisor.Bus

/-- A record with its parts in braces. -/
def describedRecord (name : String) (parts : List (String × String)) : String :=
  name ++ " \x7b " ++ ", ".intercalate (parts.map fun part => part.1 ++ ": " ++ part.2) ++ " \x7d"

def MessageKind.described : MessageKind → String
  | .request => "Request"
  | .notice => "Notice"

def Scope.described : Scope → String
  | .session => "Session"

def Address.described : Address → String
  | .procedure => "Procedure"
  | .handler => "Handler"

def MessageState.described : MessageState → String
  | .created => "Created"
  | .sent => "Sent"
  | .handled => "Handled"
  | .failed => "Failed"
  | .rejected => "Rejected"

def StatusCode.described : StatusCode → String
  | .ok => "Ok"
  | .startMessage => "StartMessage"
  | .notSupported => "NotSupported"

def Argument.described : Argument → String
  | .int value => "Int(" ++ toString value.toInt ++ ")"
  | .str value => "Str(" ++ Text.quotedString value ++ ")"
  | .messageId value => "MessageId(" ++ Text.quotedString value ++ ")"

/-- A message id as reports show it. -/
def describedId (id : UInt64) : String :=
  "MessageId(" ++ toString id.toNat ++ ")"

def Message.described (message : Message) : String :=
  describedRecord "Message"
    [("id", describedId message.id), ("class", message.kind.described),
      ("scope", message.scope.described), ("address", message.address.described),
      ("handler", match message.handler with
        | some handler => "Some(" ++ Text.quotedString handler ++ ")"
        | none => "None"),
      ("op", Text.quotedString message.operation),
      ("args", "[" ++ ", ".intercalate (message.arguments.map Argument.described) ++ "]"),
      ("state", message.state.described), ("status", message.status.described)]

def Frame.described : Frame → String
  | .openRequest => "Open"
  | .opened procid session =>
    describedRecord "Opened"
      [("procid", Text.quotedString procid), ("session", Text.quotedString session)]
  | .join session => describedRecord "Join" [("session", Text.quotedString session)]
  | .message content => describedRecord "Message" [("message", content.described)]
  | .reply id state status =>
    describedRecord "Reply"
      [("id", describedId id), ("state", state.described), ("status", status.described)]
  | .quit session => describedRecord "Quit" [("session", Text.quotedString session)]

end LaunchSupervisor.Bus
