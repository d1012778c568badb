import OcppGo.Lib.Rounding
import OcppGo.Ocppj.Marshal

/-!
# Integers on their way through JSON

An integer field is encoded exactly. The other end reads the message into a tree
first, whose numbers are `float64`, and only then encodes the payload's tree again
and decodes it into the struct. So of the integer that was sent, the tree keeps 53
significant bits.

How the encoder writes such a number again is a parameter, `reencode`: all that is
known of it is that its result is read as the same number.
-/

namespace OcppGo.Ocppj

open Lib

def IsInt64 (n : Int) : Prop := -9223372036854775808 ≤ n ∧ n < 9223372036854775808

instance (n : Int) : Decidable (IsInt64 n) := inferInstanceAs (Decidable (_ ∧ _))

/-- What decoding a decimal integer stores in an `int` field; `none` when it overflows. -/
def decodeInt64 (m : Int) : Option Int := if IsInt64 m then some m else none

/-- `encoding/json` on integers: read as `float64`, and written again as one that reads the same. -/
structure DoubleIntegers (e : Encoding) (reencode : Int → Int) : Prop where
  decodes : ∀ n, IsInt64 n →
    e.parseNumber (e.formatNumber (.ofInt n)) = some (.ofInt (roundInt 53 n))
  reencodes : ∀ n, roundInt 53 (reencode (roundInt 53 n)) = roundInt 53 n

/-- An integer field of a request or response, with everything else in the payload fixed. -/
structure IntegerField (e : Encoding) (lib : Library) (reencode : Int → Int) where
  goType : GoType
  /-- The payload with this integer in the field. -/
  withField : Int → Payload
  type_eq : ∀ n, (withField n).goType = goType
  /-- The payload's tree around the field, as it is encoded and as it is read. -/
  tree : Json → Json
  read : Json → Json
  /-- The decoder's words for an integer that does not fit. -/
  overflow : Int → String
  encodes : ∀ n, IsInt64 n → e.encodePayload (withField n) = .ok (tree (.num (.ofInt n)))
  rereads : ∀ x y, e.reread (.num x) = some y → e.reread (tree (.num x)) = some (read y)
  notNull : ∀ y, read y ≠ .null
  decodes : ∀ k, lib.decode goType (read (.num (.ofInt k)))
    = match decodeInt64 (reencode k) with
      | some m => .ok (withField m)
      | none => .error (overflow (reencode k))

/-! ## A concrete encoding -/

/-- An integer in decimal. -/
def formatInt (n : Int) : List Char :=
  if n < 0 then '-' :: Nat.toDigits 10 n.natAbs else Nat.toDigits 10 n.natAbs

def parseNat (text : List Char) : Option Nat :=
  if text ≠ [] ∧ text.all Char.isDigit then some (Nat.ofDigitChars 10 text 0) else none

def parseInt (text : List Char) : Option Int :=
  match text with
  | '-' :: digits => (parseNat digits).map fun n : Nat => -(n : Int)
  | digits => (parseNat digits).map fun n : Nat => (n : Int)

theorem isDigit_toDigits {n : Nat} {c : Char} (h : c ∈ Nat.toDigits 10 n) : c.isDigit = true :=
  Nat.isDigit_of_mem_toDigits (by decide) (by decide) h

theorem parseNat_toDigits (n : Nat) : parseNat (Nat.toDigits 10 n) = some n := by
  have hall : (Nat.toDigits 10 n).all Char.isDigit = true :=
    List.all_eq_true.mpr fun c hc => isDigit_toDigits hc
  rw [parseNat, if_pos ⟨Nat.toDigits_ne_nil, hall⟩, Nat.ofDigitChars_ten_toDigits]

theorem parseInt_formatInt (n : Int) : parseInt (formatInt n) = some n := by
  unfold formatInt
  split
  · rename_i hneg
    simp only [parseInt, parseNat_toDigits, Option.map_some, Option.some.injEq]
    omega
  · rename_i hpos
    have hminus : ∀ digits, Nat.toDigits 10 n.natAbs ≠ '-' :: digits := by
      intro digits h
      have hdigit : ('-').isDigit = true :=
        isDigit_toDigits (show '-' ∈ Nat.toDigits 10 n.natAbs by simp [h])
      exact absurd hdigit (by decide)
    unfold parseInt
    split
    · rename_i digits h
      exact absurd h (hminus digits)
    · rw [parseNat_toDigits, Option.map_some, Option.some.injEq]
      omega

theorem formatInt_literal (n : Int) : ∃ c cs, formatInt n = c :: cs ∧ startsNumber c = true
    ∧ ∀ x ∈ c :: cs, isNumberChar x = true := by
  have hdigits : ∀ m, ∀ x ∈ Nat.toDigits 10 m, isNumberChar x = true := by
    intro m x hx
    rw [isNumberChar, isDigit_toDigits hx, Bool.true_or]
  unfold formatInt
  split
  · refine ⟨'-', _, rfl, by decide, fun x hx => ?_⟩
    rcases List.mem_cons.mp hx with rfl | hx
    · decide
    · exact hdigits _ x hx
  · have hne : Nat.toDigits 10 n.natAbs ≠ [] := Nat.toDigits_ne_nil
    obtain ⟨c, cs, hcs⟩ := List.exists_cons_of_ne_nil hne
    have hmem : c ∈ Nat.toDigits 10 n.natAbs := by simp [hcs]
    have hc : c.isDigit = true := isDigit_toDigits hmem
    exact ⟨c, cs, hcs, by rw [startsNumber, hc, Bool.true_or], hcs ▸ hdigits n.natAbs⟩

/-- Reads and writes integers, in `float64`; a payload is its tree. -/
def decimalEncoding : Encoding where
  formatNumber := fun x => if x.exponent = 0 then formatInt x.mantissa else ['0']
  parseNumber := fun text => (parseInt text).map fun n => .ofInt (roundInt 53 n)
  controlLetters := true
  encodePayload := fun p => .ok p.body
  decodeError := fun _ => "invalid character"
  literal := by
    intro x
    split
    · exact formatInt_literal x.mantissa
    · exact ⟨'0', [], rfl, by decide, List.forall_mem_singleton.mpr (by decide)⟩
  readBack := by
    intro text x h
    obtain ⟨n, _, rfl⟩ := Option.map_eq_some_iff.mp h
    simp only [Number.ofInt, if_true, parseInt_formatInt, Option.map_some,
      roundInt_idem (show 0 < 53 by decide)]
  digits := by
    intro k hk
    simp only [Number.ofInt, if_true, parseInt_formatInt, Option.map_some]
    rw [roundInt_of_lt (by omega)]

theorem doubleIntegers_decimal : DoubleIntegers decimalEncoding id where
  decodes n _ := by
    simp only [decimalEncoding, Number.ofInt, if_true, parseInt_formatInt, Option.map_some]
  reencodes n := roundInt_idem (by decide)

end OcppGo.Ocppj
