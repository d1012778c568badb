import Mathlib.Init

/-!
# UTF-8 over lists of bytes

Texts are lists of characters here, and frames lists of bytes. `encode` is the
encoding of the core library, character by character. `decode` reads any bytes:
where no character starts it puts the replacement character for one byte and
goes on, as Go's `utf8.DecodeRune` does.
-/

namespace OcppGo.Lib.Utf8

/-- The bytes of a text. -/
def encode (cs : List Char) : List UInt8 := cs.flatMap String.utf8EncodeChar

/-- U+FFFD, read in place of a byte that starts no character. -/
def replacement : Char := Char.ofNat 0xFFFD

/-- The text of bytes, at most `fuel` characters of it. -/
def decodeUpTo : Nat → List UInt8 → List Char
  | 0, _ => []
  | _ + 1, [] => []
  | fuel + 1, b :: bs =>
      match (b :: bs).toByteArray.utf8DecodeChar? 0 with
      | some c => c :: decodeUpTo fuel ((b :: bs).drop c.utf8Size)
      | none => replacement :: decodeUpTo fuel bs

/-- The text of bytes; a character has at least one byte. -/
def decode (bytes : List UInt8) : List Char := decodeUpTo bytes.length bytes

theorem encode_cons (c : Char) (cs : List Char) :
    encode (c :: cs) = String.utf8EncodeChar c ++ encode cs := rfl

@[simp] theorem encode_append (cs cs' : List Char) : encode (cs ++ cs') = encode cs ++ encode cs' :=
  List.flatMap_append

/-- The first character is read back, whatever follows. -/
theorem decodeUpTo_utf8EncodeChar (fuel : Nat) (c : Char) (bytes : List UInt8) :
    decodeUpTo (fuel + 1) (String.utf8EncodeChar c ++ bytes) = c :: decodeUpTo fuel bytes := by
  have hread : (String.utf8EncodeChar c ++ bytes).toByteArray.utf8DecodeChar? 0 = some c := by
    rw [List.toByteArray_append]
    exact ByteArray.utf8DecodeChar?_utf8EncodeChar_append
  have hrest : (String.utf8EncodeChar c ++ bytes).drop c.utf8Size = bytes :=
    List.drop_left' (String.length_utf8EncodeChar c)
  cases hbytes : String.utf8EncodeChar c ++ bytes with
  | nil =>
      have hlen := congrArg List.length hbytes
      have hpos := c.utf8Size_pos
      simp only [List.length_append, String.length_utf8EncodeChar, List.length_nil] at hlen
      omega
  | cons b bs =>
      rw [hbytes] at hread hrest
      simp only [decodeUpTo, hread, hrest]

theorem decodeUpTo_encode {fuel : Nat} {cs : List Char} (h : cs.length ≤ fuel) :
    decodeUpTo fuel (encode cs) = cs := by
  induction cs generalizing fuel with
  | nil => cases fuel <;> rfl
  | cons c cs ih =>
      cases fuel with
      | zero => exact absurd h (by simp)
      | succ fuel =>
          rw [encode_cons, decodeUpTo_utf8EncodeChar, ih (Nat.le_of_succ_le_succ h)]

theorem length_le_length_encode (cs : List Char) : cs.length ≤ (encode cs).length := by
  induction cs with
  | nil => exact Nat.le_refl 0
  | cons c cs ih =>
      have hpos := c.utf8Size_pos
      simp only [encode_cons, List.length_append, String.length_utf8EncodeChar, List.length_cons]
      omega

/-- **Every text is read back from its bytes.** -/
theorem decode_encode (cs : List Char) : decode (encode cs) = cs :=
  decodeUpTo_encode (length_le_length_encode cs)

end OcppGo.Lib.Utf8
