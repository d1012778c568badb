import OcppGo.Types.DateTime
import Mathlib.Data.List.Basic

/-!
# Which timestamps are accepted

A timestamp is absent, `null`, or text between double quotes; anything else is an
error that leaves the value alone. Two kinds of input go wrong. A lone quote is the
first byte and the last one, and what is cut out between them has negative length.
And `null` is recognised by any one of its letters: four bytes that have one of them
in its place are taken for it, and a wrong timestamp is taken for none.
-/

namespace OcppGo.Proof

open OcppGo.Types

variable {τ : Type}

/-- What decoding a timestamp means. -/
structure DecodesTimestamp (parse : List UInt8 → τ × Option String) (input : List UInt8)
    (r : Unmarshalled τ) : Prop where
  total : r ≠ .panics
  absent : r = .returns none none ↔ input = nullText
  /-- Text between quotes is parsed. -/
  quoted : ∀ text, input = quote :: (text ++ [quote]) →
    r = .returns (some (parse text).1) (parse text).2
  /-- Anything else is an error, and assigns nothing. -/
  refused : input ≠ nullText → (∀ text, input ≠ quote :: (text ++ [quote])) →
    ∃ err, r = .returns none (some err)

/-- Not a lone quote, and not four bytes that share a letter's place with `null` only in part. -/
def recognisable (input : List UInt8) : Bool :=
  input != [quote] && (!null input || input == nullText)

section

variable {input text : List UInt8}

/-- A first and a last quote enclose something, unless they are the same one. -/
theorem eq_quoted_of_ends (hne : input ≠ [quote]) (hhead : input.head? = some quote)
    (hlast : input.getLast? = some quote) : ∃ text, input = quote :: (text ++ [quote]) := by
  cases input with
  | nil => exact absurd hhead (by simp)
  | cons b rest =>
      obtain rfl : b = quote := by simpa using hhead
      rcases List.eq_nil_or_concat rest with rfl | ⟨text, last, rfl⟩
      · exact absurd rfl hne
      · rw [List.concat_eq_append, ← List.cons_append, List.getLast?_concat] at hlast
        obtain rfl : last = quote := by simpa using hlast
        exact ⟨text, by rw [List.concat_eq_append]⟩

/-- The bytes between the quotes are cut out. -/
theorem slice_quoted (text : List UInt8) :
    slice (quote :: (text ++ [quote])) 1 ((quote :: (text ++ [quote])).length - 1) = some text := by
  have hlen : (quote :: (text ++ [quote])).length - 1 = text.length + 1 := by simp
  rw [hlen, slice, if_pos (by simp)]
  simp

theorem unmarshal_quoted (parse : List UInt8 → τ × Option String)
    (hnull : null (quote :: (text ++ [quote])) = false) :
    unmarshalDateTime parse (quote :: (text ++ [quote]))
      = .returns (some (parse text).1) (parse text).2 := by
  have hlast : (quote :: (text ++ [quote])).getLast? = some quote := by
    rw [← List.cons_append, List.getLast?_concat]
  rw [unmarshalDateTime, if_neg (by simp [hnull]), if_pos ⟨by simp, rfl, hlast⟩, slice_quoted]

theorem unmarshal_refused (parse : List UInt8 → τ × Option String) (hnull : null input = false)
    (hends : ¬ (input.head? = some quote ∧ input.getLast? = some quote)) :
    unmarshalDateTime parse input = .returns none (some notQuoted) := by
  rw [unmarshalDateTime, if_neg (by simp [hnull]), if_neg (fun h => hends h.2)]

theorem nullText_not_quoted (text : List UInt8) : nullText ≠ quote :: (text ++ [quote]) := by
  intro h
  exact absurd (List.cons.inj h).1 (by decide)

theorem decodesTimestamp_null (parse : List UInt8 → τ × Option String) :
    DecodesTimestamp parse nullText (unmarshalDateTime parse nullText) where
  total := by simp [unmarshalDateTime, null, nullText]
  absent := ⟨fun _ => rfl, fun _ => rfl⟩
  quoted text h := absurd h (nullText_not_quoted text)
  refused h := absurd rfl h

/-- Inputs that are not taken for `null` and not a lone quote. -/
theorem decodesTimestamp_text (parse : List UInt8 → τ × Option String)
    (hnull : null input = false) (hne : input ≠ [quote]) :
    DecodesTimestamp parse input (unmarshalDateTime parse input) := by
  have hnot : input ≠ nullText := fun h => by
    rw [h] at hnull
    exact absurd hnull (by decide)
  by_cases hends : input.head? = some quote ∧ input.getLast? = some quote
  · obtain ⟨text, rfl⟩ := eq_quoted_of_ends hne hends.1 hends.2
    have hr := unmarshal_quoted parse hnull
    refine ⟨by simp [hr], by simp [hr, hnot], ?_, fun _ h => absurd rfl (h text)⟩
    intro text' h
    have htext : text ++ [quote] = text' ++ [quote] := (List.cons.inj h).2
    rw [hr, List.append_cancel_right htext]
  · have hr := unmarshal_refused parse hnull hends
    refine ⟨by simp [hr], by simp [hr, hnot], ?_, fun _ _ => ⟨notQuoted, hr⟩⟩
    rintro text rfl
    refine absurd ⟨rfl, ?_⟩ hends
    rw [← List.cons_append, List.getLast?_concat]

theorem decodesTimestamp_of_recognisable (parse : List UInt8 → τ × Option String)
    (h : recognisable input = true) :
    DecodesTimestamp parse input (unmarshalDateTime parse input) := by
  obtain ⟨hne, hnull⟩ : input ≠ [quote] ∧ (null input = false ∨ input = nullText) := by
    simpa [recognisable] using h
  rcases hnull with hnull | rfl
  · exact decodesTimestamp_text parse hnull hne
  · exact decodesTimestamp_null parse

/-- What is taken for `null` is absent, so it has to be `null`; and a lone quote panics. -/
theorem recognisable_of_decodesTimestamp {parse : List UInt8 → τ × Option String}
    (h : DecodesTimestamp parse input (unmarshalDateTime parse input)) :
    recognisable input = true := by
  have hne : input ≠ [quote] := by
    rintro rfl
    exact h.total rfl
  have hnull : null input = false ∨ input = nullText := by
    cases hnull : null input with
    | false => exact Or.inl rfl
    | true => exact Or.inr (h.absent.mp (by rw [unmarshalDateTime, if_pos hnull]))
  simpa [recognisable] using ⟨hne, hnull⟩

end

/--
**When timestamps are decoded as they should be**, in both versions: exactly for the
inputs that are not a lone quote and have either all letters of `null` or none in its
place. For these there is no panic, `null` and nothing else is absent, quoted text is
parsed, and the rest is refused.
-/
theorem timestamp_decoded (parse : List UInt8 → τ × Option String) (input : List UInt8) :
    (DecodesTimestamp parse input (V16.unmarshalJSON parse input) ∧
      DecodesTimestamp parse input (V201.unmarshalJSON parse input)) ↔
    recognisable input = true :=
  ⟨fun h => recognisable_of_decodesTimestamp h.1,
    fun h => ⟨decodesTimestamp_of_recognisable parse h, decodesTimestamp_of_recognisable parse h⟩⟩

/-- A parser that takes every text for the time 1. -/
def anyTime (_ : List UInt8) : Nat × Option String := (1, none)

/-- Quoted text is parsed, `null` is absent, and `true` is refused. -/
theorem quoted_null_and_true_decoded :
    (recognisable [quote, 0x31, quote] = true ∧
      V16.unmarshalJSON anyTime [quote, 0x31, quote] = .returns (some 1) none) ∧
    (recognisable nullText = true ∧ V201.unmarshalJSON anyTime nullText = .returns none none) ∧
    recognisable [0x74, 0x72, 0x75, 0x65] = true ∧
      ∃ err, V16.unmarshalJSON anyTime [0x74, 0x72, 0x75, 0x65] = .returns none (some err) := by
  refine ⟨⟨by decide, ?_⟩, ⟨by decide, ?_⟩, by decide, ?_⟩
  · exact ((timestamp_decoded anyTime [quote, 0x31, quote]).mpr (by decide)).1.quoted [0x31] rfl
  · exact ((timestamp_decoded anyTime nullText).mpr (by decide)).2.absent.mpr rfl
  · refine ((timestamp_decoded anyTime [0x74, 0x72, 0x75, 0x65]).mpr (by decide)).1.refused
      (by decide) ?_
    intro text htext
    exact absurd (List.cons.inj htext).1 (by decide)

/-- A lone quote panics, and `nope` and the text `ul` in quotes are taken for `null`. -/
theorem lone_quote_and_near_nulls :
    (∀ parse : List UInt8 → Nat × Option String,
      V16.unmarshalJSON parse [quote] = .panics ∧ V201.unmarshalJSON parse [quote] = .panics) ∧
    V16.unmarshalJSON anyTime [0x6E, 0x6F, 0x70, 0x65] = .returns none none ∧
    V201.unmarshalJSON anyTime [quote, 0x75, 0x6C, quote] = .returns none none :=
  ⟨fun _ => ⟨rfl, rfl⟩, rfl, rfl⟩

end OcppGo.Proof
