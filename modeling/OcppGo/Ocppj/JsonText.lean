import OcppGo.Lib.JsonString
import OcppGo.Lib.Lists
import OcppGo.Lib.Utf8
import OcppGo.Ocppj.Message
import Mathlib.Data.String.Basic

/-!
# JSON texts

`encoding/json` as this library uses it: writing a tree with `Encoder.Encode`,
with or without `EscapeHTML`, and reading a text with `json.Unmarshal` into an
`interface{}`. Texts are lists of characters; `Lib/Utf8.lean` takes them to bytes.

What depends on the release of Go, or would need all of `strconv`, is a field of
`Encoding`. Two limits of the decoder are left out: its maximum nesting depth and
its error texts.

The main result is `parseValue_encode`. What is read is not quite what was
written: a number is read as the nearest `float64`, and an object becomes a map,
so its members lose their order and a repeated key its first value. `reread` says
so, and on the values of an `interface{}` it changes nothing.
-/

namespace OcppGo.Ocppj

open Lib JsonString

/-- May stand inside a number. -/
def isNumberChar (c : Char) : Bool := c.isDigit || c ∈ ['-', '+', '.', 'e', 'E']

/-- May start a number. -/
def startsNumber (c : Char) : Bool := c.isDigit || c = '-'

/-- What `encoding/json` does with numbers and payload structs. -/
structure Encoding where
  /-- The shortest text that reads back as the number. -/
  formatNumber : Number → List Char
  /-- `none` when the text is not a number, or out of range. -/
  parseNumber : List Char → Option Number
  /-- Whether backspace and form feed are written with a letter, as since Go 1.22. -/
  controlLetters : Bool
  /-- The tree of a payload struct, its fields in order; an error for values without one. -/
  encodePayload : Payload → Except String Json
  /-- What the decoder says about a text it refuses. -/
  decodeError : List UInt8 → String
  /-- A number is written as one. -/
  literal : ∀ n, ∃ c cs, formatNumber n = c :: cs ∧ startsNumber c = true
    ∧ ∀ x ∈ c :: cs, isNumberChar x = true
  /-- What was read from some text is read from its own text. -/
  readBack : ∀ text n, parseNumber text = some n → parseNumber (formatNumber n) = some n
  /-- Single digits are read back. -/
  digits : ∀ k : Nat, k < 10 → parseNumber (formatNumber (.ofInt k)) = some (.ofInt k)

namespace Encoding

variable (e : Encoding) (escapeHTML : Bool)

/-! ## Writing -/

/-- How the encoder writes a character of a string. -/
def escapeOf (c : Char) : Escape :=
  if c = '"' then .letter '"'
  else if c = '\\' then .letter '\\'
  else if c = '\n' then .letter 'n'
  else if c = '\r' then .letter 'r'
  else if c = '\t' then .letter 't'
  else if e.controlLetters ∧ c.toNat = 8 then .letter 'b'
  else if e.controlLetters ∧ c.toNat = 12 then .letter 'f'
  else if c.toNat < 32 then .hex
  else if escapeHTML ∧ (c = '<' ∨ c = '>' ∨ c = '&') then .hex
  -- the line separators of JavaScript are escaped in any case
  else if c.toNat = 0x2028 ∨ c.toNat = 0x2029 then .hex
  else .raw

def encodeString (s : String) : List Char := quote (e.escapeOf escapeHTML) s.toList

mutual

/-- The text of a tree. -/
def encode : Json → List Char
  | .null => ['n', 'u', 'l', 'l']
  | .bool true => ['t', 'r', 'u', 'e']
  | .bool false => ['f', 'a', 'l', 's', 'e']
  | .num n => e.formatNumber n
  | .str s => e.encodeString escapeHTML s
  | .arr [] => ['[', ']']
  | .arr (x :: xs) => '[' :: (encode x ++ encodeElements xs)
  | .obj [] => ['{', '}']
  | .obj ((k, v) :: fields) =>
      '{' :: (e.encodeString escapeHTML k ++ ':' :: (encode v ++ encodeMembers fields))

/-- The elements after the first, and the bracket. -/
def encodeElements : List Json → List Char
  | [] => [']']
  | x :: xs => ',' :: (encode x ++ encodeElements xs)

/-- The members after the first, and the brace. -/
def encodeMembers : List (String × Json) → List Char
  | [] => ['}']
  | (k, v) :: fields =>
      ',' :: (e.encodeString escapeHTML k ++ ':' :: (encode v ++ encodeMembers fields))

end

/-! ## Reading -/

def skipSpace (text : List Char) : List Char :=
  text.dropWhile fun c => c = ' ' || c = '\t' || c = '\n' || c = '\r'

/-- The longest run that may be a number; what follows a number is never part of one. -/
def parseLiteral (text : List Char) : Option (Json × List Char) :=
  (e.parseNumber (text.takeWhile isNumberChar)).map fun n =>
    (.num n, text.dropWhile isNumberChar)

/-- A key and the colon after it. -/
def parseKey (text : List Char) : Option (String × List Char) :=
  match skipSpace text with
  | '"' :: rest =>
      match unquote rest with
      | none => none
      | some (k, rest) =>
          match skipSpace rest with
          | ':' :: rest => some (String.ofList k, rest)
          | _ => none
  | _ => none

mutual

/-- Read a value, and return what follows it. A call takes a character before the next one. -/
def parseValue : Nat → List Char → Option (Json × List Char)
  | 0, _ => none
  | fuel + 1, text =>
      match skipSpace text with
      | 'n' :: 'u' :: 'l' :: 'l' :: rest => some (.null, rest)
      | 't' :: 'r' :: 'u' :: 'e' :: rest => some (.bool true, rest)
      | 'f' :: 'a' :: 'l' :: 's' :: 'e' :: rest => some (.bool false, rest)
      | '"' :: rest => (unquote rest).map fun r => (.str (String.ofList r.1), r.2)
      | '[' :: rest =>
          match skipSpace rest with
          | ']' :: rest => some (.arr [], rest)
          | rest =>
              match parseValue fuel rest with
              | none => none
              | some (x, rest) =>
                  (parseElements fuel rest).map fun r => (.arr (x :: r.1), r.2)
      | '{' :: rest =>
          match skipSpace rest with
          | '}' :: rest => some (.obj [], rest)
          | rest =>
              match parseKey rest with
              | none => none
              | some (k, rest) =>
                  match parseValue fuel rest with
                  | none => none
                  | some (v, rest) =>
                      (parseMembers fuel rest).map fun r => (.obj (sortKeys ((k, v) :: r.1)), r.2)
      | c :: rest => if startsNumber c then e.parseLiteral (c :: rest) else none
      | [] => none

def parseElements : Nat → List Char → Option (List Json × List Char)
  | 0, _ => none
  | fuel + 1, text =>
      match skipSpace text with
      | ']' :: rest => some ([], rest)
      | ',' :: rest =>
          match parseValue fuel rest with
          | none => none
          | some (x, rest) => (parseElements fuel rest).map fun r => (x :: r.1, r.2)
      | _ => none

def parseMembers : Nat → List Char → Option (List (String × Json) × List Char)
  | 0, _ => none
  | fuel + 1, text =>
      match skipSpace text with
      | '}' :: rest => some ([], rest)
      | ',' :: rest =>
          match parseKey rest with
          | none => none
          | some (k, rest) =>
              match parseValue fuel rest with
              | none => none
              | some (v, rest) => (parseMembers fuel rest).map fun r => ((k, v) :: r.1, r.2)
      | _ => none

end

/-- `json.Unmarshal` into an `interface{}`, but for the UTF-8. -/
def parseText (text : List Char) : Option Json :=
  match e.parseValue text.length text with
  | none => none
  | some (j, rest) => if skipSpace rest = [] then some j else none

/-! ## What is read back -/

mutual

/-- The tree read from the text of a tree. -/
def reread : Json → Option Json
  | .null => some .null
  | .bool b => some (.bool b)
  | .num n => (e.parseNumber (e.formatNumber n)).map .num
  | .str s => some (.str s)
  | .arr xs => (rereadElements xs).map .arr
  | .obj fields => (rereadMembers fields).map fun ms => .obj (sortKeys ms)

def rereadElements : List Json → Option (List Json)
  | [] => some []
  | x :: xs =>
      match reread x, rereadElements xs with
      | some x, some xs => some (x :: xs)
      | _, _ => none

def rereadMembers : List (String × Json) → Option (List (String × Json))
  | [] => some []
  | (k, v) :: fields =>
      match reread v, rereadMembers fields with
      | some v, some ms => some ((k, v) :: ms)
      | _, _ => none

end

/-! ## Texts of strings and numbers -/

variable {e : Encoding} {escapeHTML : Bool}

/-- Every choice of the encoder is one a reader understands. -/
theorem legal_escapeOf (c : Char) : (e.escapeOf escapeHTML c).legal c = true := by
  -- one case for each branch; the characters left over may stand for themselves
  unfold escapeOf
  by_cases h₁ : c = '"'
  · rw [if_pos h₁, h₁]; rfl
  by_cases h₂ : c = '\\'
  · rw [if_neg h₁, if_pos h₂, h₂]; rfl
  by_cases h₃ : c = '\n'
  · rw [if_neg h₁, if_neg h₂, if_pos h₃, h₃]; rfl
  by_cases h₄ : c = '\r'
  · rw [if_neg h₁, if_neg h₂, if_neg h₃, if_pos h₄, h₄]; rfl
  by_cases h₅ : c = '\t'
  · rw [if_neg h₁, if_neg h₂, if_neg h₃, if_neg h₄, if_pos h₅, h₅]; rfl
  rw [if_neg h₁, if_neg h₂, if_neg h₃, if_neg h₄, if_neg h₅]
  by_cases h₆ : e.controlLetters ∧ c.toNat = 8
  · have hc : c = Char.ofNat 8 := by rw [← h₆.2, Char.ofNat_toNat]
    rw [if_pos h₆, hc]; rfl
  by_cases h₇ : e.controlLetters ∧ c.toNat = 12
  · have hc : c = Char.ofNat 12 := by rw [← h₇.2, Char.ofNat_toNat]
    rw [if_neg h₆, if_pos h₇, hc]; rfl
  rw [if_neg h₆, if_neg h₇]
  by_cases h₈ : c.toNat < 32
  · rw [if_pos h₈]
    exact decide_eq_true (by omega)
  by_cases h₉ : escapeHTML ∧ (c = '<' ∨ c = '>' ∨ c = '&')
  · rw [if_neg h₈, if_pos h₉]
    rcases h₉.2 with rfl | rfl | rfl <;> rfl
  by_cases h₁₀ : c.toNat = 0x2028 ∨ c.toNat = 0x2029
  · rw [if_neg h₈, if_neg h₉, if_pos h₁₀]
    exact decide_eq_true (by omega)
  rw [if_neg h₈, if_neg h₉, if_neg h₁₀]
  simp only [Escape.legal, plain, ne_eq, decide_not, Bool.and_eq_true, Bool.not_eq_true',
    decide_eq_false_iff_not, decide_eq_true_eq]
  exact ⟨⟨h₁, h₂⟩, by omega⟩

theorem encodeString_append (s : String) (rest : List Char) :
    e.encodeString escapeHTML s ++ rest
      = '"' :: (quoteBody (e.escapeOf escapeHTML) s.toList ++ '"' :: rest) := by
  simp [encodeString, quote]

theorem unquote_encodeString (s : String) (rest : List Char) :
    unquote (quoteBody (e.escapeOf escapeHTML) s.toList ++ '"' :: rest) = some (s.toList, rest) :=
  unquote_quote legal_escapeOf s.toList rest

/-- What is skipped between tokens. -/
def isSpace (c : Char) : Bool := c = ' ' || c = '\t' || c = '\n' || c = '\r'

theorem skipSpace_cons {c : Char} (h : isSpace c = false) (text : List Char) :
    skipSpace (c :: text) = c :: text := by
  unfold isSpace at h
  rw [skipSpace, List.dropWhile_cons, h]
  rfl

theorem parseKey_encodeString (k : String) (rest : List Char) :
    parseKey (e.encodeString escapeHTML k ++ ':' :: rest) = some (k, rest) := by
  rw [encodeString_append]
  simp only [parseKey, skipSpace_cons (show isSpace '"' = false by decide),
    skipSpace_cons (show isSpace ':' = false by decide), unquote_encodeString, String.ofList_toList]

/-- Nothing that continues a number. -/
def EndsNumber (text : List Char) : Prop := ∀ c rest, text = c :: rest → isNumberChar c = false

theorem EndsNumber.cons {c : Char} (h : isNumberChar c = false) (rest : List Char) :
    EndsNumber (c :: rest) := by
  intro c' rest' heq
  cases heq
  exact h

theorem parseLiteral_formatNumber {n n' : Number}
    (h : e.parseNumber (e.formatNumber n) = some n') {rest : List Char} (hrest : EndsNumber rest) :
    e.parseLiteral (e.formatNumber n ++ rest) = some (.num n', rest) := by
  obtain ⟨c, cs, hcs, _, hall⟩ := e.literal n
  have htake : (e.formatNumber n ++ rest).takeWhile isNumberChar = e.formatNumber n := by
    rw [hcs, List.takeWhile_append_of_pos hall]
    cases rest with
    | nil => simp
    | cons d ds => simp [hrest d ds rfl]
  have hdrop : (e.formatNumber n ++ rest).dropWhile isNumberChar = rest := by
    rw [hcs, List.dropWhile_append_of_pos hall]
    cases rest with
    | nil => rfl
    | cons d ds => simp [hrest d ds rfl]
  rw [parseLiteral, htake, hdrop, h]
  rfl

theorem isSpace_of_startsNumber {c : Char} (h : startsNumber c = true) : isSpace c = false := by
  by_contra hs
  simp only [isSpace, Bool.not_eq_false, Bool.or_eq_true, decide_eq_true_eq] at hs
  rcases hs with ((rfl | rfl) | rfl) | rfl <;> exact absurd h (by decide)

theorem parseValue_number {c : Char} (h : startsNumber c = true) (fuel : Nat) (text : List Char) :
    e.parseValue (fuel + 1) (c :: text) = e.parseLiteral (c :: text) := by
  rw [parseValue, skipSpace_cons (isSpace_of_startsNumber h)]
  split
  all_goals first
    | exact absurd h (by rename_i heq; cases heq; decide)
    | skip
  · rename_i heq
    cases heq
    rw [if_pos h]
  · rename_i heq
    exact absurd heq (by simp)

/-! ## What is written is read -/

/-- A value starts with a character that is not skipped and closes nothing. -/
theorem encode_head (j : Json) :
    ∃ c text, e.encode escapeHTML j = c :: text ∧ isSpace c = false ∧ c ≠ ']' := by
  match j with
  | .null => exact ⟨_, _, rfl, by decide, by decide⟩
  | .bool true => exact ⟨_, _, rfl, by decide, by decide⟩
  | .bool false => exact ⟨_, _, rfl, by decide, by decide⟩
  | .num n =>
      obtain ⟨c, cs, hcs, hstart, _⟩ := e.literal n
      refine ⟨c, cs, hcs, isSpace_of_startsNumber hstart, ?_⟩
      rintro rfl
      exact absurd hstart (by decide)
  | .str s => exact ⟨_, _, rfl, by decide, by decide⟩
  | .arr [] => exact ⟨_, _, rfl, by decide, by decide⟩
  | .arr (x :: xs) => exact ⟨_, _, rfl, by decide, by decide⟩
  | .obj [] => exact ⟨_, _, rfl, by decide, by decide⟩
  | .obj ((k, v) :: fields) => exact ⟨_, _, rfl, by decide, by decide⟩

theorem endsNumber_encodeElements (xs : List Json) (rest : List Char) :
    EndsNumber (e.encodeElements escapeHTML xs ++ rest) := by
  cases xs with
  | nil => exact .cons (by decide) _
  | cons x xs => exact .cons (by decide) _

theorem endsNumber_encodeMembers (fields : List (String × Json)) (rest : List Char) :
    EndsNumber (e.encodeMembers escapeHTML fields ++ rest) := by
  cases fields with
  | nil => exact .cons (by decide) _
  | cons kv fields => exact .cons (by decide) _

/-- An array that is not empty, once its first element was read. -/
theorem parseValue_arr {x x' : Json} {fuel : Nat} {text rest : List Char}
    (hx : e.parseValue fuel (e.encode escapeHTML x ++ text) = some (x', text))
    {xs : List Json} (hxs : e.parseElements fuel text = some (xs, rest)) :
    e.parseValue (fuel + 1) ('[' :: (e.encode escapeHTML x ++ text))
      = some (.arr (x' :: xs), rest) := by
  obtain ⟨c, cs, hcs, hspace, hc⟩ := @encode_head e escapeHTML x
  rw [hcs, List.cons_append] at hx ⊢
  simp only [parseValue, skipSpace_cons (show isSpace '[' = false by decide),
    skipSpace_cons hspace]
  split
  · rename_i heq
    exact absurd (List.cons.inj heq).1 hc
  · rw [hx]
    simp only [hxs, Option.map_some]

/-- An object that is not empty, once its first member was read. -/
theorem parseValue_obj {k : String} {v v' : Json} {fuel : Nat} {text rest : List Char}
    (hv : e.parseValue fuel (e.encode escapeHTML v ++ text) = some (v', text))
    {ms : List (String × Json)} (hms : e.parseMembers fuel text = some (ms, rest)) :
    e.parseValue (fuel + 1)
        ('{' :: (e.encodeString escapeHTML k ++ ':' :: (e.encode escapeHTML v ++ text)))
      = some (.obj (sortKeys ((k, v') :: ms)), rest) := by
  have hkey := @parseKey_encodeString e escapeHTML k (e.encode escapeHTML v ++ text)
  rw [encodeString_append] at hkey ⊢
  simp only [parseValue, skipSpace_cons (show isSpace '{' = false by decide),
    skipSpace_cons (show isSpace '"' = false by decide)]
  split
  · rename_i heq
    exact absurd (List.cons.inj heq).1 (by decide)
  · rw [hkey]
    simp only [hv, hms, Option.map_some]

theorem rereadElements_cons {x : Json} {xs ys : List Json}
    (h : e.rereadElements (x :: xs) = some ys) :
    ∃ x' xs', e.reread x = some x' ∧ e.rereadElements xs = some xs' ∧ ys = x' :: xs' := by
  rw [rereadElements] at h
  split at h
  · rename_i x' xs' hx hxs
    cases h
    exact ⟨x', xs', hx, hxs, rfl⟩
  · exact absurd h (by simp)

theorem rereadMembers_cons {k : String} {v : Json} {fields ms : List (String × Json)}
    (h : e.rereadMembers ((k, v) :: fields) = some ms) :
    ∃ v' ms', e.reread v = some v' ∧ e.rereadMembers fields = some ms' ∧ ms = (k, v') :: ms' := by
  rw [rereadMembers] at h
  split at h
  · rename_i v' ms' hv hms
    cases h
    exact ⟨v', ms', hv, hms, rfl⟩
  · exact absurd h (by simp)

mutual

/--
**The text of a tree is read as its rereading**, by enough fuel, unless what
follows could continue a number.
-/
theorem parseValue_encode : ∀ (j : Json) {j' : Json} {fuel : Nat} {rest : List Char},
    (e.encode escapeHTML j).length ≤ fuel → EndsNumber rest → e.reread j = some j' →
    e.parseValue fuel (e.encode escapeHTML j ++ rest) = some (j', rest)
  | j, _, 0, rest, hlen, _, _ => by
      obtain ⟨c, cs, hcs, _⟩ := @encode_head e escapeHTML j
      rw [hcs] at hlen
      exact absurd hlen (by simp)
  | .null, _, fuel + 1, rest, _, _, hj => by
      cases hj
      rfl
  | .bool true, _, fuel + 1, rest, _, _, hj => by
      cases hj
      rfl
  | .bool false, _, fuel + 1, rest, _, _, hj => by
      cases hj
      rfl
  | .num n, _, fuel + 1, rest, _, hrest, hj => by
      obtain ⟨n', hn, rfl⟩ := Option.map_eq_some_iff.mp hj
      obtain ⟨c, cs, hcs, hstart, _⟩ := e.literal n
      have hparse := parseLiteral_formatNumber hn hrest
      rw [encode]
      rw [hcs, List.cons_append] at hparse ⊢
      rw [parseValue_number hstart, hparse]
  | .str s, _, fuel + 1, rest, _, _, hj => by
      cases hj
      rw [encode, encodeString_append]
      simp only [parseValue, skipSpace_cons (show isSpace '"' = false by decide),
        unquote_encodeString, Option.map_some, String.ofList_toList]
  | .arr [], _, fuel + 1, rest, _, _, hj => by
      cases hj
      rfl
  | .arr (x :: xs), _, fuel + 1, rest, hlen, _, hj => by
      obtain ⟨ys, hys, rfl⟩ := Option.map_eq_some_iff.mp hj
      obtain ⟨x', xs', hx, hxs, rfl⟩ := rereadElements_cons hys
      rw [encode, List.length_cons, List.length_append] at hlen
      rw [encode, List.cons_append, List.append_assoc]
      exact parseValue_arr (parseValue_encode x (by omega) (endsNumber_encodeElements xs rest) hx)
        (parseElements_encode xs (by omega) hxs)
  | .obj [], _, fuel + 1, rest, _, _, hj => by
      cases hj
      rfl
  | .obj ((k, v) :: fields), _, fuel + 1, rest, hlen, _, hj => by
      obtain ⟨ms, hms, rfl⟩ := Option.map_eq_some_iff.mp hj
      obtain ⟨v', ms', hv, hms', rfl⟩ := rereadMembers_cons hms
      rw [encode, List.length_cons, List.length_append, List.length_cons, List.length_append]
        at hlen
      rw [encode, List.cons_append, List.append_assoc, List.cons_append, List.append_assoc]
      exact parseValue_obj
        (parseValue_encode v (by omega) (endsNumber_encodeMembers fields rest) hv)
        (parseMembers_encode fields (by omega) hms')

theorem parseElements_encode : ∀ (xs : List Json) {xs' : List Json} {fuel : Nat}
    {rest : List Char}, (e.encodeElements escapeHTML xs).length ≤ fuel →
    e.rereadElements xs = some xs' →
    e.parseElements fuel (e.encodeElements escapeHTML xs ++ rest) = some (xs', rest)
  | [], _, 0, _, hlen, _ => absurd hlen (by simp [encodeElements])
  | _ :: _, _, 0, _, hlen, _ => absurd hlen (by simp [encodeElements])
  | [], _, fuel + 1, rest, _, hxs => by
      cases hxs
      rfl
  | x :: xs, _, fuel + 1, rest, hlen, hxs => by
      obtain ⟨x', xs', hx, hxs', rfl⟩ := rereadElements_cons hxs
      rw [encodeElements, List.length_cons, List.length_append] at hlen
      rw [encodeElements, List.cons_append, List.append_assoc]
      simp only [parseElements, skipSpace_cons (show isSpace ',' = false by decide),
        parseValue_encode x (by omega : _ ≤ fuel) (endsNumber_encodeElements xs rest) hx,
        parseElements_encode xs (by omega : _ ≤ fuel) hxs', Option.map_some]

theorem parseMembers_encode : ∀ (fields : List (String × Json)) {ms : List (String × Json)}
    {fuel : Nat} {rest : List Char}, (e.encodeMembers escapeHTML fields).length ≤ fuel →
    e.rereadMembers fields = some ms →
    e.parseMembers fuel (e.encodeMembers escapeHTML fields ++ rest) = some (ms, rest)
  | [], _, 0, _, hlen, _ => absurd hlen (by simp [encodeMembers])
  | _ :: _, _, 0, _, hlen, _ => absurd hlen (by simp [encodeMembers])
  | [], _, fuel + 1, rest, _, hms => by
      cases hms
      rfl
  | (k, v) :: fields, _, fuel + 1, rest, hlen, hms => by
      obtain ⟨v', ms', hv, hms', rfl⟩ := rereadMembers_cons hms
      rw [encodeMembers, List.length_cons, List.length_append, List.length_cons,
        List.length_append] at hlen
      rw [encodeMembers, List.cons_append, List.append_assoc, List.cons_append,
        List.append_assoc]
      simp only [parseMembers, skipSpace_cons (show isSpace ',' = false by decide),
        parseKey_encodeString,
        parseValue_encode v (by omega : _ ≤ fuel) (endsNumber_encodeMembers fields rest) hv,
        parseMembers_encode fields (by omega : _ ≤ fuel) hms', Option.map_some]

end

/-- The text of a tree, and nothing but space behind it, is read as the tree's rereading. -/
theorem parseText_encode {j j' : Json} (h : e.reread j = some j') :
    e.parseText (e.encode escapeHTML j) = some j' := by
  have hparse := parseValue_encode (e := e) j (Nat.le_refl (e.encode escapeHTML j).length)
    (show EndsNumber [] from fun _ _ h => absurd h (by simp)) h
  rw [List.append_nil] at hparse
  rw [parseText, hparse]
  rfl

/-! ## The values of an `interface{}` -/

variable (e) in
mutual

/-- What `json.Unmarshal` can leave in an `interface{}`; a map is listed by increasing key. -/
def IsValue : Json → Prop
  | .null | .bool _ | .str _ => True
  | .num n => ∃ text, e.parseNumber text = some n
  | .arr xs => AreValues xs
  | .obj fields => (fields.Pairwise fun a b => a.1 < b.1) ∧ HoldValues fields

def AreValues : List Json → Prop
  | [] => True
  | x :: xs => IsValue x ∧ AreValues xs

def HoldValues : List (String × Json) → Prop
  | [] => True
  | (_, v) :: fields => IsValue v ∧ HoldValues fields

end

mutual

/-- Such a value is read back as it is. -/
theorem reread_of_isValue : ∀ {j : Json}, e.IsValue j → e.reread j = some j
  | .null, _ => rfl
  | .bool _, _ => rfl
  | .str _, _ => rfl
  | .num n, ⟨text, htext⟩ => by
      rw [reread, e.readBack text n htext]
      rfl
  | .arr _, h => by
      rw [reread, rereadElements_of_areValues h]
      rfl
  | .obj _, ⟨hsorted, h⟩ => by
      rw [reread, rereadMembers_of_holdValues h, Option.map_some, sortKeys_of_sorted hsorted]

theorem rereadElements_of_areValues :
    ∀ {xs : List Json}, e.AreValues xs → e.rereadElements xs = some xs
  | [], _ => rfl
  | _ :: _, ⟨hx, hxs⟩ => by
      rw [rereadElements, reread_of_isValue hx, rereadElements_of_areValues hxs]

theorem rereadMembers_of_holdValues :
    ∀ {fields : List (String × Json)}, e.HoldValues fields → e.rereadMembers fields = some fields
  | [], _ => rfl
  | (_, _) :: _, ⟨hv, hfields⟩ => by
      rw [rereadMembers, reread_of_isValue hv, rereadMembers_of_holdValues hfields]

end

end Encoding

end OcppGo.Ocppj
