import LaunchSupervisor.Proofs.Bus.Lines
import LaunchSupervisor.Proofs.Json.RoundTrip

/-!
**A frame is read back from its line.** The JSON form of a frame names every member that reading
asks for, and its numbers and containers are within what can be read, so the line of a frame is the
frame again; and it is one line, as a line feed within a string is never written as such.

* `sent_line_popped`: what a frame puts on the wire, and what the other end makes of it.
* `Message.ofJson?_toJson`, `Frame.ofJson?_toJson`: the JSON form is read back.
-/

namespace LaunchSupervisor.Bus

open Json (Readable)

/-! ### The JSON form is read back -/

theorem id?_toNat (id : UInt64) : id? (.integer id.toNat) = some id := by
  have bound := id.toNat_lt
  have range : (0 : Int) ≤ id.toNat ∧ (id.toNat : Int) < 18446744073709551616 := by omega
  have number : (Json.integer id.toNat).integer? = some (id.toNat : Int) := rfl
  rw [id?, number, Option.bind_some, if_pos range, Int.toNat_natCast, UInt64.ofNat_toNat]

theorem int?_toInt (value : Int32) : int? (.integer value.toInt) = some value := by
  have least := value.le_toInt
  have most := value.toInt_lt
  have range : -2147483648 ≤ value.toInt ∧ value.toInt ≤ 2147483647 := by omega
  have number : (Json.integer value.toInt).integer? = some value.toInt := rfl
  rw [int?, number, Option.bind_some, if_pos range, Int32.ofInt_toInt]

theorem Argument.ofJson?_toJson (argument : Argument) :
    Argument.ofJson? argument.toJson = some argument := by
  cases argument with
  | int value =>
    show (Argument.int <$> int? (.integer value.toInt)) = _
    rw [int?_toInt]
    rfl
  | str value => rfl
  | messageId value => rfl

theorem arguments?_toJson (arguments : List Argument) :
    arguments? (.array (arguments.map Argument.toJson)) = some arguments := by
  simp only [arguments?, Json.elements?, Option.bind_some]
  induction arguments with
  | nil => rfl
  | cons argument rest ih => simp [Argument.ofJson?_toJson, ih]

@[simp] theorem required_some {α : Type} (read? : Json → Option α) (value : Json) :
    required read? (some value) = read? value := rfl

@[simp] theorem optional_some {α : Type} (read? : Json → Option α) (standard : α)
    (value : Json) :
    optional read? standard (some value) = read? value := rfl

/-- What each member of a record is read as decides what the message is. -/
theorem Message.ofJson?_of_members {value id kind scope address operation arguments state status :
      Json} {handler : Option Json} {message : Message}
    (laidOut : value.record? Message.members = some
      [some id, some kind, some scope, some address, handler, some operation, some arguments,
        some state, some status])
    (hasId : id? id = some message.id)
    (hasKind : ofCase? MessageKind.ofName? kind = some message.kind)
    (hasScope : ofCase? Scope.ofName? scope = some message.scope)
    (hasAddress : ofCase? Address.ofName? address = some message.address)
    (hasHandler : optional handler? none handler = some message.handler)
    (hasOperation : operation.text? = some message.operation)
    (hasArguments : arguments? arguments = some message.arguments)
    (hasState : ofCase? MessageState.ofName? state = some message.state)
    (hasStatus : ofCase? StatusCode.ofName? status = some message.status) :
    Message.ofJson? value = some message := by
  simp [ofJson?, laidOut, hasId, hasKind, hasScope, hasAddress, hasHandler, hasOperation,
    hasArguments, hasState, hasStatus]

theorem Message.ofJson?_toJson (message : Message) :
    Message.ofJson? message.toJson = some message := by
  obtain ⟨id, kind, scope, address, handler, operation, arguments, state, status⟩ := message
  cases handler with
  | none =>
    exact ofJson?_of_members rfl (id?_toNat id) kind.ofName?_name scope.ofName?_name
      address.ofName?_name rfl rfl (arguments?_toJson arguments) state.ofName?_name
      status.ofName?_name
  | some handler =>
    exact ofJson?_of_members rfl (id?_toNat id) kind.ofName?_name scope.ofName?_name
      address.ofName?_name rfl rfl (arguments?_toJson arguments) state.ofName?_name
      status.ofName?_name

namespace Frame

theorem ofContents?_message {contents value : Json} {message : Message}
    (laidOut : contents.record? ["message"] = some [some value])
    (content : Message.ofJson? value = some message) :
    ofContents? "message" contents = some (.message message) := by
  simp [ofContents?, laidOut, content]

theorem ofContents?_reply {contents number case code : Json} {id : UInt64} {state : MessageState}
    {status : StatusCode}
    (laidOut : contents.record? ["id", "state", "status"] =
      some [some number, some case, some code])
    (hasId : id? number = some id) (hasState : ofCase? MessageState.ofName? case = some state)
    (hasStatus : ofCase? StatusCode.ofName? code = some status) :
    ofContents? "reply" contents = some (.reply id state status) := by
  simp [ofContents?, laidOut, hasId, hasState, hasStatus]

/-- An object that starts with its kind is read as the rest of it. -/
theorem ofJson?_object {kind : String} {rest : List (String × Json)}
    (others : ∀ member ∈ rest, member.1 ≠ "kind") :
    ofJson? (.object (("kind", .string kind) :: rest)) = ofContents? kind (.object rest) := by
  have none : rest.filter (fun member => member.1 == "kind") = [] := by
    simpa [List.filter_eq_nil_iff] using others
  have all : rest.filter (fun member => member.1 != "kind") = rest := by
    simpa [List.filter_eq_self] using others
  simp [ofJson?, Json.member?, none, all, Json.text?]

/-- **The JSON form of a frame is read back.** -/
theorem ofJson?_toJson (frame : Frame) : ofJson? frame.toJson = some frame := by
  cases frame with
  | message content =>
    rw [toJson, ofJson?_object (by simp)]
    exact ofContents?_message rfl content.ofJson?_toJson
  | reply id state status =>
    rw [toJson, ofJson?_object (by simp)]
    exact ofContents?_reply rfl (id?_toNat id) state.ofName?_name status.ofName?_name
  | _ =>
    rw [toJson, ofJson?_object (by simp)]
    rfl

end Frame

/-! ### The JSON form can be written and read -/

theorem readable_toNat (room : Nat) (id : UInt64) : Readable room (.integer id.toNat) := by
  have bound := id.toNat_lt
  exact .integer room (by omega) (by omega)

theorem readable_toInt (room : Nat) (value : Int32) : Readable room (.integer value.toInt) := by
  have least := value.le_toInt
  have most := value.toInt_lt
  exact .integer room (by omega) (by omega)

theorem Argument.readable_toJson (room : Nat) (argument : Argument) :
    Readable (room + 1) argument.toJson := by
  have string (text : String) : Readable room (.string text) := .string room text
  cases argument with
  | int value => exact .object (by simp [string, readable_toInt])
  | str value => exact .object (by simp [string])
  | messageId value => exact .object (by simp [string])

theorem Message.readable_toJson (room : Nat) (message : Message) :
    Readable (room + 3) message.toJson := by
  have string (text : String) : Readable (room + 2) (.string text) := .string _ text
  have arguments : Readable (room + 2) (.array (message.arguments.map Argument.toJson)) := by
    refine .array fun value is => ?_
    obtain ⟨argument, -, rfl⟩ := List.mem_map.mp is
    exact argument.readable_toJson room
  refine .object ?_
  cases message.handler with
  | none => simp [string, arguments, readable_toNat]
  | some handler => simp [string, arguments, readable_toNat]

theorem Frame.readable_toJson (room : Nat) (frame : Frame) :
    Readable (room + 4) frame.toJson := by
  have string (text : String) : Readable (room + 3) (.string text) := .string _ text
  cases frame with
  | message content => exact .object (by simp [string, content.readable_toJson])
  | reply id state status => exact .object (by simp [string, readable_toNat])
  | _ => exact .object (by simp [string])

/-! ### The line -/

namespace Frame

variable (frame : Frame)

/-- A frame is read back from its text. -/
theorem ofLine?_text : ofLine? (Utf8.encode frame.text) = some frame := by
  rw [ofLine?, show Json.parse (Utf8.encode frame.text) = some frame.toJson from
    Json.parse_writeBytes (frame.readable_toJson 123), Option.bind_some, ofJson?_toJson]

theorem lineFeed_not_mem_text : lineFeed ∉ Utf8.encode frame.text :=
  Json.newline_not_mem_writeBytes (frame.readable_toJson 123)

theorem text_not_blank : (Utf8.encode frame.text).all isAsciiBlank = false := by
  have opens : ∃ rest, Utf8.encode frame.text = 123 :: rest := by
    cases frame <;> exact ⟨_, rfl⟩
  obtain ⟨rest, text⟩ := opens
  rw [text]
  rfl

end Frame

/-- **A frame is read back from what is put on the wire**: a line of its own that ends in its only
line feed, and of which the other end makes the frame. -/
theorem sent_line_popped (socket : Socket) (frame : Frame) (rest : List UInt8) :
    (socket.send frame).2.wire.delivered =
        socket.wire.delivered ++ (if (socket.send frame).1.isOk then frame.line else []) ∧
      frame.line.count lineFeed = 1 ∧ frame.line.getLast? = some lineFeed ∧
      Frame.ofLine? frame.line.dropLast = some frame ∧
      pop (frame.line ++ rest) = (.frame frame, rest) := by
  have line : frame.line = Utf8.encode frame.text ++ [lineFeed] := rfl
  have plain := frame.lineFeed_not_mem_text
  have sent : (socket.send frame).2.wire.delivered =
      socket.wire.delivered ++ (if (socket.send frame).1.isOk then frame.line else []) := by
    unfold Socket.send
    split
    · rename_i wire accepted
      simp [Wire.delivered_send accepted, Except.isOk, Except.toBool]
    · simp [Except.isOk, Except.toBool]
  have one : frame.line.count lineFeed = 1 := by
    rw [line, List.count_append, List.count_eq_zero_of_not_mem plain, List.count_singleton_self]
  have last : frame.line.getLast? = some lineFeed := by
    rw [line, List.getLast?_append, List.getLast?_singleton]
    rfl
  have read : Frame.ofLine? frame.line.dropLast = some frame := by
    rw [line, List.dropLast_concat, frame.ofLine?_text]
  have popped : pop (frame.line ++ rest) = (.frame frame, rest) := by
    rw [line, List.append_assoc, List.singleton_append, pop_line plain,
      if_neg (Bool.eq_false_iff.mp frame.text_not_blank), Popped.ofLine, frame.ofLine?_text]
  exact ⟨sent, one, last, read, popped⟩

end LaunchSupervisor.Bus
