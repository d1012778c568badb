import Mathlib.Init

/-!
# Decoding timestamps

`DateTime.UnmarshalJSON` of `ocpp1.6/types/datetime.go` and of
`ocpp2.0.1/types/datetime.go`. The two files have the same text, so one definition
serves both. `iso8601.Parse` is a parameter: it returns a time and an error, and
the time is assigned whatever the error is.
-/

namespace OcppGo.Types

variable {τ : Type}

/-- The double quote. -/
def quote : UInt8 := 0x22

/-- The four bytes `null`. -/
def nullText : List UInt8 := [0x6E, 0x75, 0x6C, 0x6C]

/-- `null`: false only when no byte is the one `null` has in its place. -/
def null (b : List UInt8) : Bool :=
  match b with
  | [b0, b1, b2, b3] => !(b0 != 0x6E && b1 != 0x75 && b2 != 0x6C && b3 != 0x6C)
  | _ => false

/-- `b[low:high]`; `none` is the panic on bounds that are out of range. -/
def slice (b : List UInt8) (low high : Nat) : Option (List UInt8) :=
  if low ≤ high ∧ high ≤ b.length then some ((b.take high).drop low) else none

/-- How `UnmarshalJSON` ends. -/
inductive Unmarshalled (τ : Type) where
  | panics
  /-- It returns this error, after assigning this time, if any. -/
  | returns (assigned : Option τ) (err : Option String)
deriving Repr, DecidableEq

def notQuoted : String := "timestamp not enclosed in double quotes"

/-- `UnmarshalJSON`, with `iso8601.Parse`. -/
def unmarshalDateTime (parse : List UInt8 → τ × Option String) (input : List UInt8) :
    Unmarshalled τ :=
  if null input then .returns none none
  else if 0 < input.length ∧ input.head? = some quote ∧ input.getLast? = some quote then
    match slice input 1 (input.length - 1) with
    | none => .panics
    | some text => .returns (some (parse text).1) (parse text).2
  else .returns none (some notQuoted)

/-- `DateTime.UnmarshalJSON` of OCPP 1.6. -/
def V16.unmarshalJSON (parse : List UInt8 → τ × Option String) (input : List UInt8) :
    Unmarshalled τ := unmarshalDateTime parse input

/-- `DateTime.UnmarshalJSON` of OCPP 2.0.1. -/
def V201.unmarshalJSON (parse : List UInt8 → τ × Option String) (input : List UInt8) :
    Unmarshalled τ := unmarshalDateTime parse input

end OcppGo.Types
