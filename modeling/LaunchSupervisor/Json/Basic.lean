/-!
**JSON values.** An object keeps its members in the order in which they stand, repeated names
included. Of numbers only those that are integers of 64 bits matter here; any other is just `real`.

* `record?`: the members of an object, or the elements of an array, laid out by a list of names.
-/

namespace LaunchSupervisor

/-- A JSON value. -/
inductive Json where
  | null
  | bool (value : Bool)
  /-- A number from -2^63 up to, not including, 2^64, written without fraction or exponent. -/
  | integer (value : Int)
  /-- Any other number. -/
  | real
  | string (value : String)
  | array (elements : List Json)
  | object (members : List (String × Json))

namespace Json

/-- The value of a member: absent, there once, or an error if it is repeated. -/
def member? (members : List (String × Json)) (name : String) : Option (Option Json) :=
  match members.filter fun member => member.1 == name with
  | [] => some none
  | [member] => some (some member.2)
  | _ => none

/-- The values of the named members, each absent or there once. -/
def members? (members : List (String × Json)) : List String → Option (List (Option Json))
  | [] => some []
  | name :: rest => do
    let value ← member? members name
    let values ← members? members rest
    pure (value :: values)

/-- The elements of an array laid out by a list of names, the last ones perhaps absent. -/
def positions? : List String → List Json → Option (List (Option Json))
  | [], [] => some []
  | [], _ :: _ => none
  | _ :: names, [] => (positions? names []).map (none :: ·)
  | _ :: names, element :: rest => (positions? names rest).map (some element :: ·)

/-- The values that a record with the given member names has, from an object or from an array in
the order of the names. -/
def record? (names : List String) : Json → Option (List (Option Json))
  | .object members => members? members names
  | .array elements => positions? names elements
  | _ => none

/-- The name of a case without contents: a string, or an object whose only member has that name and
holds nothing. -/
def case? : Json → Option String
  | .string name => some name
  | .object [(name, .null)] => some name
  | .object [(name, .object [])] => some name
  | _ => none

/-- The text of a string. -/
def text? : Json → Option String
  | .string value => some value
  | _ => none

/-- The number of an integer. -/
def integer? : Json → Option Int
  | .integer value => some value
  | _ => none

/-- The elements of an array. -/
def elements? : Json → Option (List Json)
  | .array elements => some elements
  | _ => none

end Json

end LaunchSupervisor
