import Mathlib.Data.List.Basic

/-!
# JSON string literals

RFC 8259 leaves a writer much freedom: a character may stand for itself, be
written with a letter after a backslash, or as `\u` and four hexadecimal digits.
`quote` takes the choice as an argument, and `unquote` undoes every choice that
is legal, so that one theorem covers all writers.

Reading goes in two steps, because a `\u` escape names a UTF-16 code unit and not
a character: `units` reads the literal, and `join` puts surrogate pairs together.
A surrogate without its partner is read as the replacement character.
-/

namespace OcppGo.Lib.JsonString

/-- How a character is written inside quotes. -/
inductive Escape where
  | raw
  /-- A backslash and this letter. -/
  | letter (l : Char)
  /-- A backslash, `u`, and the code in hexadecimal. -/
  | hex
deriving Repr, DecidableEq

/-- What a letter after a backslash stands for. -/
def ofLetter : Char → Option Char
  | '"' => some '"'
  | '\\' => some '\\'
  | '/' => some '/'
  | 'b' => some (Char.ofNat 8)
  | 'f' => some (Char.ofNat 12)
  | 'n' => some '\n'
  | 'r' => some '\r'
  | 't' => some '\t'
  | _ => none

/-- What may be written for itself: neither the two delimiters nor a control character. -/
def plain (c : Char) : Bool := c ≠ '"' && c ≠ '\\' && 32 ≤ c.toNat

/-- The escapes a reader takes for the character. -/
def Escape.legal (c : Char) : Escape → Bool
  | .raw => plain c
  | .letter l => ofLetter l == some c
  | .hex => c.toNat < 65536

/-! ## Hexadecimal digits -/

def hexDigit (n : Nat) : Char :=
  if n < 10 then Char.ofNat (48 + n) else Char.ofNat (87 + n)

def hexValue (c : Char) : Option Nat :=
  if 48 ≤ c.toNat ∧ c.toNat ≤ 57 then some (c.toNat - 48)
  else if 97 ≤ c.toNat ∧ c.toNat ≤ 102 then some (c.toNat - 87)
  else if 65 ≤ c.toNat ∧ c.toNat ≤ 70 then some (c.toNat - 55)
  else none

/-- The value of four digits, the first of which counts most. -/
def hexValue4 (a b c d : Char) : Option Nat :=
  match hexValue a, hexValue b, hexValue c, hexValue d with
  | some a, some b, some c, some d => some (4096 * a + 256 * b + 16 * c + d)
  | _, _, _, _ => none

theorem hexValue_hexDigit {n : Nat} (h : n < 16) : hexValue (hexDigit n) = some n := by
  revert n
  decide

/-! ## Writing -/

/-- A character inside quotes. -/
def quoteChar (c : Char) : Escape → List Char
  | .raw => [c]
  | .letter l => ['\\', l]
  | .hex => ['\\', 'u', hexDigit (c.toNat / 4096 % 16), hexDigit (c.toNat / 256 % 16),
      hexDigit (c.toNat / 16 % 16), hexDigit (c.toNat % 16)]

/-- What stands between the quotes. -/
def quoteBody (style : Char → Escape) (cs : List Char) : List Char :=
  cs.flatMap fun c => quoteChar c (style c)

def quote (style : Char → Escape) (cs : List Char) : List Char :=
  '"' :: (quoteBody style cs ++ ['"'])

/-! ## Reading -/

/-- What a literal is made of. -/
inductive Piece where
  | char (c : Char)
  /-- A code unit, from a `\u` escape. -/
  | code (n : Nat)
deriving Repr, DecidableEq

/-- Read up to the closing quote, and return what follows it. -/
def pieces : List Char → Option (List Piece × List Char)
  | [] => none
  | '"' :: rest => some ([], rest)
  | '\\' :: 'u' :: a :: b :: c :: d :: rest =>
      match hexValue4 a b c d, pieces rest with
      | some n, some (ps, rest) => some (.code n :: ps, rest)
      | _, _ => none
  | '\\' :: l :: rest =>
      match ofLetter l, pieces rest with
      | some c, some (ps, rest) => some (.char c :: ps, rest)
      | _, _ => none
  | c :: rest =>
      if plain c then (pieces rest).map fun r => (.char c :: r.1, r.2) else none

/-- The first half of a surrogate pair. -/
def isHigh (n : Nat) : Bool := 0xD800 ≤ n && n < 0xDC00

def isLow (n : Nat) : Bool := 0xDC00 ≤ n && n < 0xE000

/-- A code unit that has no partner. -/
def ofCode (n : Nat) : Char := if isHigh n || isLow n then Char.ofNat 0xFFFD else Char.ofNat n

/-- The characters of a literal. -/
def join : List Piece → List Char
  | [] => []
  | .char c :: ps => c :: join ps
  | .code n :: .code m :: ps =>
      if isHigh n && isLow m then
        Char.ofNat (0x10000 + 1024 * (n - 0xD800) + (m - 0xDC00)) :: join ps
      else ofCode n :: join (.code m :: ps)
  | .code n :: ps => ofCode n :: join ps

/-- Read a literal whose opening quote is gone. -/
def unquote (text : List Char) : Option (List Char × List Char) :=
  (pieces text).map fun r => (join r.1, r.2)

/-! ## What is written is read back -/

/-- What a character is read as. -/
def pieceOf (c : Char) : Escape → Piece
  | .raw => .char c
  | .letter _ => .char c
  | .hex => .code c.toNat

theorem hexValue4_of_lt {n : Nat} (h : n < 65536) :
    hexValue4 (hexDigit (n / 4096 % 16)) (hexDigit (n / 256 % 16)) (hexDigit (n / 16 % 16))
      (hexDigit (n % 16)) = some n := by
  have hmod : ∀ m, m % 16 < 16 := fun m => Nat.mod_lt m (by decide)
  simp only [hexValue4, hexValue_hexDigit (hmod _)]
  congr 1
  omega

theorem pieces_quoteChar {c : Char} {e : Escape} (h : e.legal c = true) (text : List Char) :
    pieces (quoteChar c e ++ text) = (pieces text).map fun r => (pieceOf c e :: r.1, r.2) := by
  cases e with
  | raw =>
      simp only [quoteChar, List.cons_append, List.nil_append]
      have hplain : plain c = true := h
      rw [pieces.eq_def]
      split
      · exact absurd ‹_› (by simp)
      · rename_i heq
        cases heq
        exact absurd hplain (by decide)
      · rename_i heq
        cases heq
        exact absurd hplain (by decide)
      · rename_i heq
        cases heq
        exact absurd hplain (by decide)
      · rename_i heq
        cases heq
        rw [if_pos hplain]
        rfl
  | letter l =>
      have hl : ofLetter l = some c := by simpa [Escape.legal] using h
      -- no letter escape can be taken for a hexadecimal one
      have hu : l ≠ 'u' := by
        rintro rfl
        exact absurd hl (by simp [ofLetter])
      simp only [quoteChar, List.cons_append, List.nil_append]
      rw [pieces.eq_def]
      split
      · exact absurd ‹_› (by simp)
      · rename_i heq
        exact absurd (List.cons.inj heq).1 (by decide)
      · rename_i heq
        exact absurd (List.cons.inj (List.cons.inj heq).2).1 hu
      · rename_i heq
        cases heq
        rw [hl]
        cases pieces text <;> rfl
      · rename_i hne heq
        obtain ⟨hc, hrest⟩ := List.cons.inj heq
        exact (hne l text hc.symm hrest.symm).elim
  | hex =>
      have hlt : c.toNat < 65536 := by simpa [Escape.legal] using h
      simp only [quoteChar, List.cons_append, List.nil_append, pieces, hexValue4_of_lt hlt]
      cases pieces text <;> rfl

/-- Every character of a legal style is read as its piece, up to the quote that ends the text. -/
theorem pieces_quoteBody {style : Char → Escape} (h : ∀ c, (style c).legal c = true)
    (cs rest : List Char) :
    pieces (quoteBody style cs ++ '"' :: rest)
      = some (cs.map fun c => pieceOf c (style c), rest) := by
  induction cs with
  | nil => rfl
  | cons c cs ih =>
      have hcons : quoteBody style (c :: cs) ++ '"' :: rest
          = quoteChar c (style c) ++ (quoteBody style cs ++ '"' :: rest) := by
        simp [quoteBody]
      rw [hcons, pieces_quoteChar (h c), ih]
      rfl

/-- The code of a character is no surrogate. -/
theorem ofCode_toNat (c : Char) : ofCode c.toNat = c := by
  have hvalid : c.toNat < 0xD800 ∨ 0xDFFF < c.toNat ∧ c.toNat < 0x110000 := c.valid
  have hcode : (isHigh c.toNat || isLow c.toNat) = false := by
    simp only [isHigh, isLow, Bool.or_eq_false_iff, Bool.and_eq_false_iff, decide_eq_false_iff_not]
    omega
  rw [ofCode, hcode]
  exact Char.ofNat_toNat c

theorem isHigh_toNat (c : Char) : isHigh c.toNat = false := by
  have hvalid : c.toNat < 0xD800 ∨ 0xDFFF < c.toNat ∧ c.toNat < 0x110000 := c.valid
  simp only [isHigh, Bool.and_eq_false_iff, decide_eq_false_iff_not]
  omega

theorem join_map_pieceOf (style : Char → Escape) (cs : List Char) :
    join (cs.map fun c => pieceOf c (style c)) = cs := by
  -- a code unit at the front is that of a whole character, whatever comes next
  have hcode : ∀ (c : Char) (ps : List Piece), join (.code c.toNat :: ps) = c :: join ps := by
    intro c ps
    match ps with
    | [] =>
        show ofCode c.toNat :: join [] = _
        rw [ofCode_toNat]
    | .char d :: ps =>
        show ofCode c.toNat :: join (.char d :: ps) = _
        rw [ofCode_toNat]
    | .code m :: ps =>
        rw [join, isHigh_toNat, Bool.false_and, ofCode_toNat]
        rfl
  induction cs with
  | nil => rfl
  | cons c cs ih =>
      rw [List.map_cons]
      cases style c with
      | raw => rw [pieceOf, join, ih]
      | letter l => rw [pieceOf, join, ih]
      | hex => rw [pieceOf, hcode, ih]

/-- **A string literal is read back**, in whichever legal style it was written. -/
theorem unquote_quote {style : Char → Escape} (h : ∀ c, (style c).legal c = true)
    (cs rest : List Char) : unquote (quoteBody style cs ++ '"' :: rest) = some (cs, rest) := by
  rw [unquote, pieces_quoteBody h, Option.map_some, join_map_pieceOf]

end OcppGo.Lib.JsonString
