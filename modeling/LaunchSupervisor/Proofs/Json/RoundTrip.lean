import LaunchSupervisor.Json.Parser
import LaunchSupervisor.Proofs.Json.Lexing

/-!
**A value is read back from its written form.** The tokens of a value, taken where a value may
start, do what the value itself does to the innermost open container; so they are followed from the
innermost containers outwards.

* `parse_writeBytes`: every value that fits is read back.
* `newline_not_mem_writeBytes`: it stands on one line.
* `Parser.run_tokens`: the tokens of a value deliver the value.
-/

namespace LaunchSupervisor.Json

namespace Parser

/-! ### What a value's tokens do -/

/-- Whether a value may come next. -/
def Awaiting.isValue : Awaiting → Bool
  | .value => true
  | .firstElement => true
  | _ => false

/-- Whether the name of a member may come next. -/
def Awaiting.isName : Awaiting → Bool
  | .name => true
  | .firstName => true
  | _ => false

/-- **A value's tokens deliver the value** to whatever container may take it. -/
def Delivers (containers : List Container) (value : Json) : Prop :=
  ∀ awaiting : Awaiting, awaiting.isValue →
    run ⟨containers, awaiting⟩ value.tokens = deliver value containers

/-- Taking a token that does not close an array, where a value may start. -/
theorem next_start {containers : List Container} {awaiting : Awaiting} (opens : awaiting.isValue)
    {token : Token} (other : token ≠ .closeArray) :
    next ⟨containers, awaiting⟩ token = start containers token := by
  cases awaiting with
  | value => rfl
  | firstElement => exact if_neg other
  | _ => cases opens

theorem next_takeName {containers : List Container} {awaiting : Awaiting} (opens : awaiting.isName)
    (name : String) : next ⟨containers, awaiting⟩ (.string name) =
      takeName containers (.string name) := by
  cases awaiting with
  | name => rfl
  | firstName => rfl
  | _ => cases opens

theorem run_cons {parser after : Parser} {token : Token} (step : parser.next token = some after)
    (rest : List Token) : parser.run (token :: rest) = after.run rest := by
  simp only [run, step]

theorem run_one {parser : Parser} {token : Token} {result : Option Parser}
    (step : parser.next token = result) : parser.run [token] = result := by
  simp only [run, step]
  cases result <;> rfl

/-- The tokens of values with commas between, within an array. -/
theorem run_elementTokens {outer : List Container} {elements : List Json} (filled : elements ≠ [])
    (read : List Json)
    (delivers : ∀ element ∈ elements, ∀ read, Delivers (.elements read :: outer) element)
    (awaiting : Awaiting) (opens : awaiting.isValue) :
    run ⟨.elements read :: outer, awaiting⟩ (elementTokens elements) =
      some ⟨.elements (elements.reverse ++ read) :: outer, .separator⟩ := by
  induction elements generalizing read awaiting with
  | nil => exact absurd rfl filled
  | cons element rest ih =>
    have first := delivers element List.mem_cons_self read awaiting opens
    cases rest with
    | nil => exact first
    | cons next rest =>
      have others := ih (by simp) (element :: read)
        (fun other member => delivers other (List.mem_cons_of_mem _ member)) .value rfl
      rw [elementTokens, run_append, first]
      · show run ⟨.elements (element :: read) :: outer, .separator⟩ (.comma :: _) = _
        rw [run_cons rfl, others, List.reverse_cons (a := element), List.append_assoc]
        rfl
      · simp

theorem run_memberTokens {outer : List Container} {members : List (String × Json)}
    (filled : members ≠ []) (read : List (String × Json))
    (delivers : ∀ member ∈ members, ∀ read,
      Delivers (.member read member.1 :: outer) member.2)
    (awaiting : Awaiting) (opens : awaiting.isName) :
    run ⟨.members read :: outer, awaiting⟩ (memberTokens members) =
      some ⟨.members (members.reverse ++ read) :: outer, .separator⟩ := by
  induction members generalizing read awaiting with
  | nil => exact absurd rfl filled
  | cons member rest ih =>
    obtain ⟨name, value⟩ := member
    have first : run ⟨.members read :: outer, awaiting⟩
        (.string name :: .colon :: value.tokens) =
          some ⟨.members ((name, value) :: read) :: outer, .separator⟩ := by
      rw [run, next_takeName opens]
      exact delivers _ List.mem_cons_self read .value rfl
    cases rest with
    | nil => exact first
    | cons next rest =>
      have others := ih (by simp) ((name, value) :: read)
        (fun other member => delivers other (List.mem_cons_of_mem _ member)) .name rfl
      rw [memberTokens, run_append, first]
      · show run ⟨.members ((name, value) :: read) :: outer, .separator⟩ (.comma :: _) = _
        rw [run_cons rfl, others, List.reverse_cons (a := (name, value)), List.append_assoc]
        rfl
      · simp

/-- **The tokens of a value deliver the value**, as long as there is room for its containers. -/
theorem run_tokens {room : Nat} {value : Json} (readable : Readable room value)
    (containers : List Container) (fits : containers.length + room ≤ maxDepth) :
    Delivers containers value := by
  intro awaiting opens
  induction readable generalizing containers awaiting with
  | null room => exact run_one (next_start opens (by simp))
  | bool room value => exact run_one (next_start opens (by simp))
  | integer room least most => exact run_one (next_start opens (by simp))
  | real room => exact run_one (next_start opens (by simp))
  | string room value => exact run_one (next_start opens (by simp))
  | @array room elements all ih =>
    have space : containers.length < maxDepth := by omega
    have entered : next ⟨containers, awaiting⟩ .openArray =
        some ⟨.elements [] :: containers, .firstElement⟩ := by
      rw [next_start opens (by simp)]
      exact if_pos space
    rw [tokens, List.cons_append, run_cons entered]
    by_cases empty : elements = []
    · rw [empty]
      exact run_one rfl
    · rw [run_append, run_elementTokens empty [] _ .firstElement rfl, Option.bind_some,
        List.append_nil]
      · refine run_one ?_
        show deliver (.array elements.reverse.reverse) containers = _
        rw [List.reverse_reverse]
      · intro element member read awaiting opens
        exact ih element member _ (by simp; omega) awaiting opens
  | @object room members all ih =>
    have space : containers.length < maxDepth := by omega
    have entered : next ⟨containers, awaiting⟩ .openObject =
        some ⟨.members [] :: containers, .firstName⟩ := by
      rw [next_start opens (by simp)]
      exact if_pos space
    rw [tokens, List.cons_append, run_cons entered]
    by_cases empty : members = []
    · rw [empty]
      exact run_one rfl
    · rw [run_append, run_memberTokens empty [] _ .firstName rfl, Option.bind_some,
        List.append_nil]
      · refine run_one ?_
        show deliver (.object members.reverse.reverse) containers = _
        rw [List.reverse_reverse]
      · intro member is read awaiting opens
        exact ih member is _ (by simp; omega) awaiting opens

end Parser

/-- **A value is read back from its written form.** -/
theorem parse_writeBytes {value : Json} (readable : Readable Parser.maxDepth value) :
    parse (writeBytes value) = some value := by
  have run := Parser.run_tokens readable [] (by simp) .value rfl
  simp [parse, tokens?_writeBytes readable, run, Parser.deliver, Parser.finish]

/-! ### One line -/

theorem newline_not_mem_numeral (value : Int) : 10 ∉ numeral value := by
  have digits (n : Nat) : 10 ∉ decimal n := fun member =>
    absurd (List.all_eq_true.mp (all_isDigit_decimal n) 10 member) (by decide)
  by_cases whole : 0 ≤ value
  · rw [numeral_of_nonneg whole]
    exact digits _
  · rw [numeral_of_neg (by omega)]
    simpa using digits _

theorem newline_not_mem_elements {elements : List Json}
    (plain : ∀ element ∈ elements, 10 ∉ writeBytes element) :
    10 ∉ Utf8.encode (writeElements elements) := by
  induction elements with
  | nil => simp [writeElements]
  | cons element rest ih =>
    have first := plain element List.mem_cons_self
    have others := ih fun other member => plain other (List.mem_cons_of_mem _ member)
    cases rest with
    | nil => exact first
    | cons next rest =>
      rw [writeElements, Utf8.encode_append, Utf8.encode_cons]
      · simpa [Utf8.encodeChar] using ⟨first, others⟩
      · simp

theorem newline_not_mem_members {members : List (String × Json)}
    (plain : ∀ member ∈ members, 10 ∉ writeBytes member.2) :
    10 ∉ Utf8.encode (writeMembers members) := by
  induction members with
  | nil => simp [writeMembers]
  | cons member rest ih =>
    obtain ⟨name, value⟩ := member
    have label := Utf8.newline_not_mem_encode (newline_not_mem_writeString name)
    have first : 10 ∉ Utf8.encode (writeString name ++ ':' :: write value) := by
      rw [Utf8.encode_append, Utf8.encode_cons]
      simpa [Utf8.encodeChar] using ⟨label, plain _ List.mem_cons_self⟩
    have others := ih fun other member => plain other (List.mem_cons_of_mem _ member)
    cases rest with
    | nil => exact first
    | cons next rest =>
      rw [writeMembers, Utf8.encode_append, Utf8.encode_cons]
      · simpa [Utf8.encodeChar] using ⟨first, others⟩
      · simp

/-- **A value is written on one line.** -/
theorem newline_not_mem_writeBytes {room : Nat} {value : Json} (readable : Readable room value) :
    10 ∉ writeBytes value := by
  induction readable with
  | null room => decide
  | bool room value => cases value <;> decide
  | integer room least most => exact newline_not_mem_numeral _
  | real room => decide
  | string room value => exact Utf8.newline_not_mem_encode (newline_not_mem_writeString value)
  | array _ ih =>
    rw [writeBytes, write, Utf8.encode_append, Utf8.encode_cons]
    simpa [Utf8.encodeChar] using newline_not_mem_elements ih
  | object _ ih =>
    rw [writeBytes, write, Utf8.encode_append, Utf8.encode_cons]
    simpa [Utf8.encodeChar] using newline_not_mem_members ih

end LaunchSupervisor.Json
