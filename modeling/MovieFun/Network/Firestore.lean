import Mathlib.Algebra.Ring.Nat
import MovieFun.Helper.DateFormatter

/-!
# Documents of the remote store

A document is an identifier and a dictionary of values. The store gives back
what was written, except that a date comes back as a timestamp of the same
instant.
-/

namespace MovieFun

/-- A finite double, as the rational it denotes. -/
abbrev Double := Rat

/-- The values a dictionary can hold. -/
inductive Value
  | null
  | bool (value : Bool)
  | int (value : Int)
  | double (value : Double)
  | string (value : String)
  | date (value : Date)
  | timestamp (value : Date)
  | array (values : List Value)
  | map (fields : List (String × Value))

namespace Value

/-- The cast `as? Bool`, which also takes the numbers zero and one. -/
def asBool : Value → Option Bool
  | bool value => some value
  | int 0 => some false
  | int 1 => some true
  | double value => if value = 0 then some false else if value = 1 then some true else none
  | _ => none

/-- The value as a text. -/
def asString : Value → Option String
  | string value => some value
  | _ => none

/-- The cast `as? Int`, which also takes booleans and whole doubles. -/
def asInt : Value → Option Int
  | int value => some value
  | bool value => some (if value then 1 else 0)
  | double value => if value.den = 1 then some value.num else none
  | _ => none

/-- Whether a double holds an integer exactly: beyond its 53 leading bits there are none. -/
def holdsExactly (value : Int) : Bool := value.natAbs % 2 ^ (value.natAbs.log2 - 52) = 0

/-- The cast `as? Double`, which also takes booleans and the integers a double can hold. -/
def asDouble : Value → Option Double
  | double value => some value
  | int value => if holdsExactly value then some value else none
  | bool value => some (if value then 1 else 0)
  | _ => none

/-- The value as a date, before it is stored as a timestamp. -/
def asDate : Value → Option Date
  | date value => some value
  | _ => none

/-- The value as a stored instant. -/
def asTimestamp : Value → Option Date
  | timestamp value => some value
  | _ => none

/-- The value as a list of integers. -/
def asIntArray : Value → Option (List Int)
  | array values => values.mapM asInt
  | _ => none

/-- The value as fields. -/
def asDictionary : Value → Option (List (String × Value))
  | map fields => some fields
  | _ => none

mutual

/-- A value as the store gives it back. -/
def stored : Value → Value
  | date value => timestamp value
  | array values => array (storedList values)
  | map fields => map (storedFields fields)
  | value => value

/-- The values of a list as the store keeps them. -/
def storedList : List Value → List Value
  | [] => []
  | value :: values => value.stored :: storedList values

/-- The fields of a map as the store keeps them. -/
def storedFields : List (String × Value) → List (String × Value)
  | [] => []
  | (key, value) :: fields => (key, value.stored) :: storedFields fields

end

/-- Integers are stored as they are. -/
theorem storedList_map_int (values : List Int) :
    storedList (values.map int) = values.map int := by
  induction values with
  | nil => rfl
  | cons value values ih => exact congrArg (int value :: ·) ih

/-- A list of integers is read back. -/
theorem asIntArray_stored (values : List Int) :
    (array (values.map int)).stored.asIntArray = some values := by
  rw [stored, storedList_map_int, asIntArray]
  induction values with
  | nil => rfl
  | cons value values ih =>
      rw [List.map_cons, List.mapM_cons, ih]
      rfl

end Value

/-- The fields of a document, by their names. -/
abbrev Dictionary := List (String × Value)

namespace Dictionary

/-- The subscript of a dictionary. -/
def get (dictionary : Dictionary) (key : String) : Option Value :=
  dictionary.lookup key

/-- The fields as the store keeps them. -/
def stored (dictionary : Dictionary) : Dictionary :=
  Value.storedFields dictionary

end Dictionary

/-- A document of a snapshot or of a query. -/
structure Document where
  documentID : String
  data : Dictionary

/-- An error handed to a completion. -/
structure NSError where
  localizedDescription : String
deriving DecidableEq, Repr

section Replies

variable {α : Type*} {answer : Option α} {error : Option NSError}

/-- A reply brings an answer without an error, or it brings nothing. -/
theorem brings_or_nothing (answer : Option α) (error : Option NSError) :
    (∃ value, answer = some value ∧ error = none) ∨ (error.isSome ∨ answer = none) := by
  cases error with
  | some error => exact .inr (.inl rfl)
  | none =>
      cases answer with
      | none => exact .inr (.inr rfl)
      | some value => exact .inl ⟨value, rfl, rfl⟩

/-- What holds of the replies with an error and of the empty one holds of all that bring
nothing. -/
@[elab_as_elim]
theorem of_nothing {motive : Option α → Option NSError → Prop}
    (nothing : error.isSome ∨ answer = none) (failed : ∀ answer error, motive answer (some error))
    (empty : motive none none) : motive answer error := by
  cases error with
  | some error => exact failed answer error
  | none =>
      have absent : answer = none := nothing.resolve_left Bool.false_ne_true
      exact absent ▸ empty

end Replies

end MovieFun
