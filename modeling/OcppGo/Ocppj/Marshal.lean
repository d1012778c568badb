import OcppGo.Ocppj.Endpoint
import OcppGo.Ocppj.JsonText
import Mathlib.Data.List.DropRight

/-!
# Messages as bytes

`MarshalJSON` of the three messages and `ParseRawJsonMessage`, over an `Encoding`.
The three layouts are arrays of four, three and five elements. `EscapeHTML` is a
global variable of the source, and a parameter here.

Only a payload can fail to encode: the other elements are numbers, strings, and
error details that are a tree already.
-/

namespace OcppGo.Ocppj

open Lib

namespace Encoding

variable (e : Encoding) (escapeHTML : Bool)

/-- `jsonMarshal` of a slice: `Encode` ends its text with a newline, which is trimmed. -/
def jsonMarshal (fields : List Json) : List UInt8 :=
  (Utf8.encode (e.encode escapeHTML (.arr fields) ++ ['\n'])).rdropWhile (· = 10)

/-- `ocppMessageToJson`: the brackets are written once more. -/
def ocppMessageToJson (fields : List Json) : List UInt8 :=
  let jsonData := e.jsonMarshal escapeHTML fields
  (jsonData.set 0 91).set (jsonData.length - 1) 93

def marshalCall (call : Call) : Except String (List UInt8) :=
  (e.encodePayload call.payload).map fun payload =>
    e.jsonMarshal escapeHTML
      [.num (.ofInt call.messageTypeId), .str call.uniqueId, .str call.action, payload]

def marshalCallResult (callResult : CallResult) : Except String (List UInt8) :=
  (e.encodePayload callResult.payload).map fun payload =>
    e.jsonMarshal escapeHTML
      [.num (.ofInt callResult.messageTypeId), .str callResult.uniqueId, payload]

/-- What stands for the details in a frame; `nil` is written as `struct{}{}`. -/
def detailsOrEmpty : Option Json → Json
  | none | some .null => .obj []
  | some details => details

def marshalCallError (callError : CallError) : Except String (List UInt8) :=
  .ok (e.ocppMessageToJson escapeHTML
    [.num (.ofInt callError.messageTypeId), .str callError.uniqueId, .str callError.errorCode,
      .str callError.errorDescription, detailsOrEmpty callError.errorDetails])

/-- `MarshalJSON` of a `Message`. -/
def marshalJSON : Message → Except String (List UInt8)
  | .call c => e.marshalCall escapeHTML c
  | .callResult c => e.marshalCallResult escapeHTML c
  | .callError c => e.marshalCallError escapeHTML c

/-- `ParseRawJsonMessage`: `null` leaves the slice empty, other values do not fit into one. -/
def parseRawJsonMessage (dataJson : List UInt8) : Except String (List Json) :=
  match e.parseText (Utf8.decode dataJson) with
  | some (.arr xs) => .ok xs
  | some .null => .ok []
  | _ => .error (e.decodeError dataJson)

/-! ## Arrays -/

variable {e escapeHTML}

theorem encodeElements_snoc (xs : List Json) :
    ∃ text, e.encodeElements escapeHTML xs = text ++ [']'] := by
  induction xs with
  | nil => exact ⟨[], rfl⟩
  | cons x xs ih =>
      obtain ⟨text, htext⟩ := ih
      exact ⟨',' :: (e.encode escapeHTML x ++ text), by rw [encodeElements, htext]; simp⟩

/-- An array that is not empty is written between brackets. -/
theorem encode_arr (x : Json) (xs : List Json) :
    ∃ text, e.encode escapeHTML (.arr (x :: xs)) = '[' :: text ++ [']'] := by
  obtain ⟨text, htext⟩ := @encodeElements_snoc e escapeHTML xs
  exact ⟨e.encode escapeHTML x ++ text, by rw [encode, htext]; simp⟩

/-- The newline is trimmed, and nothing else. -/
theorem jsonMarshal_cons (x : Json) (xs : List Json) :
    e.jsonMarshal escapeHTML (x :: xs) = Utf8.encode (e.encode escapeHTML (.arr (x :: xs))) := by
  obtain ⟨text, htext⟩ := @encode_arr e escapeHTML x xs
  have hnewline : Utf8.encode ['\n'] = [10] := by decide
  have hbracket : Utf8.encode [']'] = [93] := by decide
  rw [jsonMarshal, Utf8.encode_append, hnewline, List.rdropWhile_concat_pos _ _ _ (by decide),
    htext, Utf8.encode_append, hbracket, List.rdropWhile_concat_neg _ _ _ (by decide)]

/-- The brackets were there already. -/
theorem ocppMessageToJson_cons (x : Json) (xs : List Json) :
    e.ocppMessageToJson escapeHTML (x :: xs) = e.jsonMarshal escapeHTML (x :: xs) := by
  obtain ⟨text, htext⟩ := @encode_arr e escapeHTML x xs
  have hbytes : e.jsonMarshal escapeHTML (x :: xs) = 91 :: (Utf8.encode text ++ [93]) := by
    rw [jsonMarshal_cons, htext, Utf8.encode_append]
    rfl
  simp [ocppMessageToJson, hbytes]

/-- **A marshalled array is read as the rereading of its elements.** -/
theorem parseRawJsonMessage_jsonMarshal (escapeHTML : Bool) {x : Json} {xs fields : List Json}
    (h : e.rereadElements (x :: xs) = some fields) :
    e.parseRawJsonMessage (e.jsonMarshal escapeHTML (x :: xs)) = .ok fields := by
  have hread : e.reread (.arr (x :: xs)) = some (.arr fields) := by rw [reread, h]; rfl
  rw [parseRawJsonMessage, jsonMarshal_cons, Utf8.decode_encode, parseText_encode hread]

end Encoding

/-! ## A concrete encoding -/

def formatDigit (n : Number) : List Char :=
  if n.exponent = 0 ∧ 0 ≤ n.mantissa ∧ n.mantissa < 10 then [Char.ofNat (n.mantissa.toNat + 48)]
  else ['0']

def parseDigit : List Char → Option Number
  | [c] => if c.isDigit then some (.ofInt (c.toNat - 48)) else none
  | _ => none

theorem formatDigit_literal (n : Number) :
    ∃ c cs, formatDigit n = c :: cs ∧ startsNumber c = true
      ∧ ∀ x ∈ c :: cs, isNumberChar x = true := by
  have hdigit : ∀ k : Nat, k < 10 → startsNumber (Char.ofNat (k + 48)) = true
      ∧ isNumberChar (Char.ofNat (k + 48)) = true := by decide
  have hsingle : ∃ k : Nat, k < 10 ∧ formatDigit n = [Char.ofNat (k + 48)] := by
    unfold formatDigit
    split
    · exact ⟨n.mantissa.toNat, by omega, rfl⟩
    · exact ⟨0, by decide, rfl⟩
  obtain ⟨k, hk, hformat⟩ := hsingle
  obtain ⟨hstart, hchar⟩ := hdigit k hk
  exact ⟨_, [], hformat, hstart, List.forall_mem_singleton.mpr hchar⟩

theorem parseDigit_formatDigit : ∀ k : Nat, k < 10 →
    parseDigit (formatDigit (.ofInt k)) = some (.ofInt k) := by
  decide

theorem parseDigit_readBack (text : List Char) (n : Number) (h : parseDigit text = some n) :
    parseDigit (formatDigit n) = some n := by
  unfold parseDigit at h
  split at h
  · rename_i c
    split at h
    · rename_i hdigit
      obtain ⟨hlow, hhigh⟩ : 48 ≤ c.toNat ∧ c.toNat ≤ 57 := by
        simpa [Char.isDigit, UInt32.le_iff_toNat_le] using hdigit
      have hk : ((c.toNat : Int) - 48) = ((c.toNat - 48 : Nat) : Int) := by omega
      cases h
      rw [hk]
      exact parseDigit_formatDigit _ (by omega)
    · exact absurd h (by simp)
  · exact absurd h (by simp)

/-- Reads and writes the numbers of one digit, and no others; a payload is its tree. -/
def digitEncoding : Encoding where
  formatNumber := formatDigit
  parseNumber := parseDigit
  controlLetters := true
  encodePayload := fun p => .ok p.body
  decodeError := fun _ => "invalid character"
  literal := formatDigit_literal
  readBack := parseDigit_readBack
  digits := parseDigit_formatDigit

/-- `encoding/json` and the validator on heartbeats: any object is a heartbeat. -/
def heartbeatJson : Library where
  unmarshalArray := digitEncoding.parseRawJsonMessage
  decode := fun type raw =>
    match raw with
    | .obj fields => .ok { goType := type, featureName := heartbeat.name, body := .obj fields }
    | _ => .error "json: cannot unmarshal"
  marshal := digitEncoding.marshalJSON true
  tags := reportedTags
  payloadErrors := fun _ => []
  validationErrorText := fun _ => ""
  sprint := fun _ => ""

end OcppGo.Ocppj
