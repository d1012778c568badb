import Mathlib.Logic.Function.Basic

/-!
# Messages, features and field validation

The data of `ocpp/ocpp.go` and of the first half of `ocppj/ocppj.go`: JSON trees
as `encoding/json` hands them out, OCPP errors, features grouped into profiles,
the three OCPP-J message kinds, and the `validate` tags on their own fields.

What the library leaves to packages outside the repository is collected in
`Library`: turning bytes into a tree, decoding a tree into a payload struct,
checking tags, and formatting values into error texts. Of the validator it is
assumed what its documentation says about the tags on a message's own fields, the
laws of `MessageTags`. Nothing is assumed about the other functions unless a
theorem says so.
-/

namespace OcppGo.Ocppj

/-! ## JSON trees -/

/-- A finite `float64`: `mantissa * 2 ^ exponent`. -/
structure Number where
  mantissa : Int
  exponent : Int
deriving Repr, DecidableEq

namespace Number

/-- The integer of the same value. -/
def ofInt (n : Int) : Number := { mantissa := n, exponent := 0 }

/-- The integer part, rounding towards zero. -/
def trunc (x : Number) : Int :=
  if 0 ≤ x.exponent then x.mantissa * Nat.pow 2 x.exponent.toNat
  else x.mantissa.tdiv (Nat.pow 2 (-x.exponent).toNat)

/--
Go's conversion of a `float64` to a 64-bit `int`: towards zero, and the smallest
integer when the value does not fit.
-/
def toInt64 (x : Number) : Int :=
  if -9223372036854775808 ≤ x.trunc ∧ x.trunc < 9223372036854775808 then x.trunc
  else -9223372036854775808

end Number

/-- The values `encoding/json` stores in an `interface{}`. -/
inductive Json where
  | null
  | bool (b : Bool)
  | num (n : Number)
  | str (s : String)
  | arr (xs : List Json)
  | obj (fields : List (String × Json))
deriving Repr, Inhabited

mutual

/-- Whether two trees are the same. -/
def Json.same : Json → Json → Bool
  | .null, .null => true
  | .bool b, .bool b' => b == b'
  | .num n, .num n' => n == n'
  | .str s, .str s' => s == s'
  | .arr xs, .arr xs' => sameElements xs xs'
  | .obj fields, .obj fields' => sameFields fields fields'
  | _, _ => false

def Json.sameElements : List Json → List Json → Bool
  | [], [] => true
  | x :: xs, x' :: xs' => x.same x' && sameElements xs xs'
  | _, _ => false

def Json.sameFields : List (String × Json) → List (String × Json) → Bool
  | [], [] => true
  | (key, x) :: fields, (key', x') :: fields' =>
      key == key' && x.same x' && sameFields fields fields'
  | _, _ => false

end

mutual

theorem Json.same_iff : ∀ x x' : Json, x.same x' = true ↔ x = x'
  | x, x' => by
      match x with
      | .arr xs => cases x' <;> simp [Json.same, Json.sameElements_iff xs]
      | .obj fields => cases x' <;> simp [Json.same, Json.sameFields_iff fields]
      | .null | .bool _ | .num _ | .str _ => cases x' <;> simp [Json.same]

theorem Json.sameElements_iff : ∀ xs xs' : List Json, Json.sameElements xs xs' = true ↔ xs = xs'
  | [], xs' => by cases xs' <;> simp [Json.sameElements]
  | x :: xs, xs' => by
      cases xs' <;> simp [Json.sameElements, Json.same_iff x, Json.sameElements_iff xs]

theorem Json.sameFields_iff : ∀ fields fields' : List (String × Json),
    Json.sameFields fields fields' = true ↔ fields = fields'
  | [], fields' => by cases fields' <;> simp [Json.sameFields]
  | (key, x) :: fields, fields' => by
      cases fields' <;>
        simp [Json.sameFields, Json.same_iff x, Json.sameFields_iff fields, Prod.ext_iff, and_assoc]

end

instance : DecidableEq Json := fun x x' => decidable_of_iff _ (Json.same_iff x x')

/-! ## Errors -/

/-- `ocpp.ErrorCode`, a Go string type: a peer may send any text here. -/
abbrev ErrorCode := String

/-- `ocpp.Error`. -/
structure OcppError where
  code : ErrorCode
  description : String
  messageId : String
deriving Repr, DecidableEq

/-- `ocpp.NewError`. -/
def newError (code : ErrorCode) (description messageId : String) : OcppError :=
  { code := code, description := description, messageId := messageId }

def NotImplemented : ErrorCode := "NotImplemented"
def NotSupported : ErrorCode := "NotSupported"
def InternalError : ErrorCode := "InternalError"
def MessageTypeNotSupported : ErrorCode := "MessageTypeNotSupported"
def ProtocolError : ErrorCode := "ProtocolError"
def SecurityError : ErrorCode := "SecurityError"
def PropertyConstraintViolation : ErrorCode := "PropertyConstraintViolation"
def OccurrenceConstraintViolation : ErrorCode := "OccurrenceConstraintViolation"
def TypeConstraintViolation : ErrorCode := "TypeConstraintViolation"
def GenericError : ErrorCode := "GenericError"
def FormatViolationV2 : ErrorCode := "FormatViolation"
def FormatViolationV16 : ErrorCode := "FormationViolation"

/-- The codes `IsErrorCodeValid` accepts. -/
def validErrorCodes : List ErrorCode :=
  [NotImplemented, NotSupported, InternalError, MessageTypeNotSupported, ProtocolError,
    SecurityError, FormatViolationV16, FormatViolationV2, PropertyConstraintViolation,
    OccurrenceConstraintViolation, TypeConstraintViolation, GenericError]

def isErrorCodeValid (code : ErrorCode) : Bool := validErrorCodes.contains code

/-! ## Features and profiles -/

/-- A `reflect.Type`, by name. -/
abbrev GoType := String

/-- The Go value behind an `ocpp.Request` or `ocpp.Response` interface. -/
structure Payload where
  goType : GoType
  /-- What `GetFeatureName` returns. -/
  featureName : String
  body : Json
deriving Repr, DecidableEq

/-- `ocpp.Feature`. -/
structure Feature where
  name : String
  requestType : GoType
  responseType : GoType
deriving Repr, DecidableEq

/-- `ocpp.Profile`: features keyed by name. -/
structure Profile where
  name : String
  features : String → Option Feature

namespace Profile

/-- `AddFeature`; a later feature of the same name replaces the earlier one. -/
def addFeature (p : Profile) (feature : Feature) : Profile :=
  { p with features := Function.update p.features feature.name (some feature) }

/-- `NewProfile`. -/
def new (name : String) (features : List Feature) : Profile :=
  features.foldl addFeature { name := name, features := fun _ => none }

def supportsFeature (p : Profile) (name : String) : Bool := (p.features name).isSome

/-- `ParseRequest`: look the feature up, then hand its request type to the parser. -/
def parseRequest (p : Profile) (featureName : String) (raw : Json)
    (requestParser : Json → GoType → Except String Payload) : Except String Payload :=
  match p.features featureName with
  | none => .error ("Feature " ++ featureName ++ " not found")
  | some feature => requestParser raw feature.requestType

/-- `ParseResponse`: the same with the feature's response type. -/
def parseResponse (p : Profile) (featureName : String) (raw : Json)
    (responseParser : Json → GoType → Except String Payload) : Except String Payload :=
  match p.features featureName with
  | none => .error ("Feature " ++ featureName ++ " not found")
  | some feature => responseParser raw feature.responseType

end Profile

/-! ## Messages -/

/-- `MessageType`. -/
abbrev MessageType := Int

def CALL : MessageType := 2
def CALL_RESULT : MessageType := 3
def CALL_ERROR : MessageType := 4

structure Call where
  messageTypeId : MessageType
  uniqueId : String
  action : String
  payload : Payload
deriving Repr, DecidableEq

structure CallResult where
  messageTypeId : MessageType
  uniqueId : String
  payload : Payload
deriving Repr

structure CallError where
  messageTypeId : MessageType
  uniqueId : String
  errorCode : ErrorCode
  errorDescription : String
  /-- `nil` when the peer sent none. -/
  errorDetails : Option Json
deriving Repr

/-- The `Message` interface. -/
inductive Message where
  | call (c : Call)
  | callResult (c : CallResult)
  | callError (c : CallError)
deriving Repr

/-! ## Validation -/

/-- What a `validator.FieldError` says about the offending value. -/
inductive FieldValue where
  | int (n : Int)
  | string (s : String)
  | other
deriving Repr, DecidableEq

/-- `validator.FieldError`. -/
structure FieldError where
  actualTag : String
  field : String
  param : String
  value : FieldValue
deriving Repr, DecidableEq

/-- `getValueLength`: an integer stands for itself, a string for its byte length. -/
def getValueLength : FieldValue → Int
  | .int n => n
  | .string s => s.utf8ByteSize
  | .other => 0

/-- What the validator reports for the tags on a message's own fields, with what is known of it. -/
structure MessageTags where
  /-- `required,eq=n` on an integer. -/
  typeId : String → MessageType → MessageType → List FieldError
  /-- `required,max=36` on a string. -/
  short : String → String → List FieldError
  /-- The registered validation `errorCode`. -/
  errorCode : String → ErrorCode → List FieldError
  /-- A number other than zero is what `required` and `eq` ask for. -/
  typeId_eq : ∀ field n, n ≠ 0 → typeId field n n = []
  short_required : ∀ field, short field "" = [⟨"required", field, "", .string ""⟩]
  /-- `max` counts the characters of a string. -/
  short_max : ∀ field value, 36 < value.length →
    short field value = [⟨"max", field, "36", .string value⟩]
  short_met : ∀ field value, value ≠ "" → value.length ≤ 36 → short field value = []
  errorCode_unknown : ∀ field code, isErrorCodeValid code = false →
    errorCode field code = [⟨"errorCode", field, "", .string code⟩]
  errorCode_met : ∀ field code, isErrorCodeValid code = true → errorCode field code = []

/-- The packages outside the repository that messages pass through. -/
structure Library where
  /-- `json.Unmarshal` into an `[]interface{}`. -/
  unmarshalArray : List UInt8 → Except String (List Json)
  /-- `json.Marshal` of a tree, then `json.Unmarshal` into a fresh value of the type. -/
  decode : GoType → Json → Except String Payload
  /-- Encode a message with `encoding/json`. -/
  marshal : Message → Except String (List UInt8)
  tags : MessageTags
  /-- What the validator finds inside a payload. -/
  payloadErrors : Payload → List FieldError
  /-- `ValidationErrors.Error`. -/
  validationErrorText : List FieldError → String
  /-- `fmt.Sprintf` of a tree with `%v`. -/
  sprint : Json → String

/-- `Validate.Struct` on a `Call`; no errors is Go's `nil`. -/
def Call.validate (lib : Library) (c : Call) : List FieldError :=
  lib.tags.typeId "Call.MessageTypeId" CALL c.messageTypeId
    ++ lib.tags.short "Call.UniqueId" c.uniqueId
    ++ lib.tags.short "Call.Action" c.action
    ++ lib.payloadErrors c.payload

/-- `Validate.Struct` on a `CallResult`. -/
def CallResult.validate (lib : Library) (c : CallResult) : List FieldError :=
  lib.tags.typeId "CallResult.MessageTypeId" CALL_RESULT c.messageTypeId
    ++ lib.tags.short "CallResult.UniqueId" c.uniqueId
    ++ lib.payloadErrors c.payload

/-- `Validate.Struct` on a `CallError`; description and details may be anything. -/
def CallError.validate (lib : Library) (c : CallError) : List FieldError :=
  lib.tags.typeId "CallError.MessageTypeId" CALL_ERROR c.messageTypeId
    ++ lib.tags.short "CallError.UniqueId" c.uniqueId
    ++ lib.tags.errorCode "CallError.ErrorCode" c.errorCode

/-- 1 to 36 characters, what `required,max=36` asks for. -/
def Short (value : String) : Prop := value ≠ "" ∧ value.length ≤ 36

theorem MessageTags.short_iff (tags : MessageTags) {field value : String} :
    tags.short field value = [] ↔ Short value := by
  by_cases hempty : value = ""
  · subst hempty
    rw [tags.short_required]
    exact ⟨fun h => absurd h (by simp), fun h => absurd rfl h.1⟩
  · rcases Nat.lt_or_ge 36 value.length with hlong | hshort
    · rw [tags.short_max field value hlong]
      exact ⟨fun h => absurd h (by simp), fun h => absurd h.2 (Nat.not_le.mpr hlong)⟩
    · rw [tags.short_met field value hempty hshort]
      exact ⟨fun _ => ⟨hempty, hshort⟩, fun _ => rfl⟩

theorem MessageTags.errorCode_iff (tags : MessageTags) {field : String} {code : ErrorCode} :
    tags.errorCode field code = [] ↔ isErrorCodeValid code = true := by
  cases hcode : isErrorCodeValid code with
  | true => exact ⟨fun _ => rfl, fun _ => tags.errorCode_met field code hcode⟩
  | false =>
      rw [tags.errorCode_unknown field code hcode]
      exact ⟨fun h => absurd h (by simp), fun h => absurd h (by simp)⟩

section

variable {lib : Library} {id : String} {p : Payload}

theorem call_validate_iff {action : String} :
    Call.validate lib ⟨CALL, id, action, p⟩ = [] ↔
      Short id ∧ Short action ∧ lib.payloadErrors p = [] := by
  simp only [Call.validate, lib.tags.typeId_eq _ CALL (by decide), List.nil_append,
    List.append_eq_nil_iff, lib.tags.short_iff, and_assoc]

theorem callResult_validate_iff :
    CallResult.validate lib ⟨CALL_RESULT, id, p⟩ = [] ↔
      Short id ∧ lib.payloadErrors p = [] := by
  simp only [CallResult.validate, lib.tags.typeId_eq _ CALL_RESULT (by decide), List.nil_append,
    List.append_eq_nil_iff, lib.tags.short_iff]

theorem callError_validate_iff {code : ErrorCode} {description : String} {details : Option Json} :
    CallError.validate lib ⟨CALL_ERROR, id, code, description, details⟩ = [] ↔
      Short id ∧ isErrorCodeValid code = true := by
  simp only [CallError.validate, lib.tags.typeId_eq _ CALL_ERROR (by decide), List.nil_append,
    List.append_eq_nil_iff, lib.tags.short_iff, lib.tags.errorCode_iff]

end

/-- The suffix both violation texts carry when a feature is known. -/
def forFeature (description feature : String) : String :=
  if feature ≠ "" then description ++ " for feature " ++ feature else description

def occurenceViolation (e : FieldError) (messageId feature : String) : OcppError :=
  newError OccurrenceConstraintViolation
    (forFeature ("Field " ++ e.field ++ " required but not found") feature) messageId

def propertyConstraintViolation (e : FieldError) (details messageId feature : String) :
    OcppError :=
  newError PropertyConstraintViolation
    (forFeature ("Field " ++ e.field ++ " must be " ++ details ++ " " ++ e.param ++ ", but was "
      ++ toString (getValueLength e.value)) feature) messageId

/-- The error a tag is reported as, when `errorFromValidation` knows the tag. -/
def violationOf (e : FieldError) (messageId feature : String) : Option OcppError :=
  match e.actualTag with
  | "required" => some (occurenceViolation e messageId feature)
  | "max" => some (propertyConstraintViolation e "maximum" messageId feature)
  | "min" => some (propertyConstraintViolation e "minimum" messageId feature)
  | "gte" => some (propertyConstraintViolation e ">=" messageId feature)
  | "gt" => some (propertyConstraintViolation e ">" messageId feature)
  | "lte" => some (propertyConstraintViolation e "<=" messageId feature)
  | "lt" => some (propertyConstraintViolation e "<" messageId feature)
  | _ => none

/-- `errorFromValidation`: the first field error whose tag it knows, else a generic one. -/
def errorFromValidation (lib : Library) (errors : List FieldError) (messageId feature : String) :
    OcppError :=
  match errors.findSome? (fun e => violationOf e messageId feature) with
  | some err => err
  | none => newError GenericError (lib.validationErrorText errors) messageId

end OcppGo.Ocppj
