import Mathlib.Data.List.TakeWhile

/-!
# URLs with an authority

URLs of the form `scheme://host/path?query#fragment` over lists of bytes, parsed as RFC
3986 has it and as Go's `net/url` does: the text is cut at the first `#` and then at the
first `?`, and the path is percent-decoded. Other forms, and what may stand in a host,
are left out. A client sends the path in an encoded form again, and the server decodes
that: whatever form it takes, the path is the same.

`base` is the last element of a path, as `path.Base` has it.
-/

namespace OcppGo.Lib

/-- The parts of a URL. -/
structure Url where
  scheme : List UInt8
  host : List UInt8
  /-- Decoded. -/
  path : List UInt8
  /-- The path as it was written. -/
  rawPath : List UInt8
  rawQuery : List UInt8
  fragment : List UInt8
deriving Repr, DecidableEq

namespace Url

/-! ## Bytes -/

def slash : UInt8 := 0x2F
def question : UInt8 := 0x3F
def hash : UInt8 := 0x23
def percent : UInt8 := 0x25
def colon : UInt8 := 0x3A

def isDigit (c : UInt8) : Bool := 0x30 ≤ c && c ≤ 0x39

def isLetter (c : UInt8) : Bool := (0x41 ≤ c && c ≤ 0x5A) || (0x61 ≤ c && c ≤ 0x7A)

/-- A control byte, which no URL contains. -/
def isControl (c : UInt8) : Bool := c < 0x20 || c == 0x7F

/-- A byte of a scheme. -/
def isSchemeByte (c : UInt8) : Bool :=
  isLetter c || isDigit c || c == 0x2B || c == 0x2D || c == 0x2E

/-! ## Percent-encoding -/

def hexDigit (n : Nat) : UInt8 := if n < 10 then UInt8.ofNat (0x30 + n) else UInt8.ofNat (0x37 + n)

/-- The value of a hexadecimal digit, in either case. -/
def unhex (c : UInt8) : Option Nat :=
  if isDigit c then some (c.toNat - 0x30)
  else if 0x61 ≤ c && c ≤ 0x66 then some (c.toNat - 0x57)
  else if 0x41 ≤ c && c ≤ 0x46 then some (c.toNat - 0x37)
  else none

/-- The bytes a text stands for; `none` for a `%` without two digits. -/
def unescape : List UInt8 → Option (List UInt8)
  | [] => some []
  | c :: rest =>
      if c = percent then
        match rest with
        | a :: b :: rest =>
            match unhex a, unhex b with
            | some x, some y => (unescape rest).map (UInt8.ofNat (16 * x + y) :: ·)
            | _, _ => none
        | _ => none
      else (unescape rest).map (c :: ·)

/-- What is not written in a path as it is. -/
def shouldEscape (c : UInt8) : Bool :=
  !(isLetter c || isDigit c
    || [0x2D, 0x5F, 0x2E, 0x7E, 0x24, 0x26, 0x2B, 0x2C, 0x2F, 0x3A, 0x3B, 0x3D, 0x40].contains c)

/-- A path, percent-encoded. -/
def escape (p : List UInt8) : List UInt8 :=
  p.flatMap fun c =>
    if shouldEscape c then [percent, hexDigit (c.toNat / 16), hexDigit (c.toNat % 16)] else [c]

/-- Whether an encoding may be sent as it is. -/
def validEncoded (s : List UInt8) : Bool :=
  s.all fun c =>
    [0x21, 0x27, 0x28, 0x29, 0x2A, 0x5B, 0x5D, 0x25].contains c || !shouldEscape c

/-! ## URLs -/

/-- A text up to the first separator, and after it. -/
def cut (sep : UInt8) (s : List UInt8) : List UInt8 × List UInt8 :=
  (s.takeWhile (· ≠ sep), (s.dropWhile (· ≠ sep)).drop 1)

/-- The scheme, and what follows its colon. -/
def getScheme (s : List UInt8) : Option (List UInt8 × List UInt8) :=
  match s.takeWhile isSchemeByte, s.dropWhile isSchemeByte with
  | c :: scheme, sep :: rest =>
      if isLetter c && sep == colon then some (c :: scheme, rest) else none
  | _, _ => none

/-- The authority, and what follows it. -/
def getHost (s : List UInt8) : Option (List UInt8 × List UInt8) :=
  match s with
  | a :: b :: rest =>
      if a == slash && b == slash then
        some (rest.takeWhile (· ≠ slash), rest.dropWhile (· ≠ slash))
      else none
  | _ => none

def parse (s : List UInt8) : Option Url :=
  let (s, fragment) := cut hash s
  if s.any isControl then none
  else
    (getScheme s).bind fun (scheme, rest) =>
      let (rest, rawQuery) := cut question rest
      (getHost rest).bind fun (host, rawPath) =>
        (unescape rawPath).bind fun path =>
          (unescape fragment).map fun fragment =>
            { scheme, host, path, rawPath, rawQuery, fragment }

/-- The path in the form it is sent in. -/
def escapedPath (u : Url) : List UInt8 :=
  if validEncoded u.rawPath && unescape u.rawPath == some u.path then u.rawPath
  else escape u.path

/-- What a client puts in its request line. -/
def requestURI (u : Url) : List UInt8 :=
  (if u.path = [] then [slash] else escapedPath u)
    ++ if u.rawQuery = [] then [] else question :: u.rawQuery

/-- The URL as a text. -/
def string (u : Url) : List UInt8 :=
  u.scheme ++ [colon, slash, slash] ++ u.host ++ escapedPath u
    ++ (if u.rawQuery = [] then [] else question :: u.rawQuery)
    ++ if u.fragment = [] then [] else hash :: escape u.fragment

/-- The path a server finds in a request line. -/
def requestPath (target : List UInt8) : Option (List UInt8) :=
  if target.head? = some slash then unescape (cut question target).1 else none

/-- The last element of a path, without the slashes at its end. -/
def base (p : List UInt8) : List UInt8 :=
  if p = [] then [0x2E]
  else
    let last := ((p.reverse.dropWhile (· == slash)).takeWhile (· ≠ slash)).reverse
    if last = [] then [slash] else last

/-! ## Decoding -/

section

variable {s t p x : List UInt8} {c : UInt8} {n : Nat}

theorem unhex_hexDigit (h : n < 16) : unhex (hexDigit n) = some n := by
  have hall : ∀ n : Fin 16, unhex (hexDigit n) = some n.val := by decide
  exact hall ⟨n, h⟩

theorem unescape_cons (hc : c ≠ percent) (s : List UInt8) :
    unescape (c :: s) = (unescape s).map (c :: ·) := by
  rw [unescape.eq_def]
  exact if_neg hc

/-- A text without `%` stands for itself. -/
theorem unescape_plain (h : percent ∉ s) : unescape s = some s := by
  induction s with
  | nil => rfl
  | cons c s ih =>
      rw [List.mem_cons, not_or] at h
      rw [unescape_cons (Ne.symm h.1), ih h.2, Option.map_some]

/-- An escape makes a text shorter. -/
theorem length_unescape (h : unescape s = some t) :
    t.length ≤ s.length ∧ (t.length = s.length → percent ∉ s) := by
  induction s using unescape.induct generalizing t with
  | case1 =>
      cases h
      exact ⟨Nat.le_refl _, fun _ => List.not_mem_nil⟩
  | case2 a b rest x y hx hy ih =>
      simp only [unescape, if_true, hx, hy, Option.map_eq_some_iff] at h
      obtain ⟨t, ht, rfl⟩ := h
      have hle := (ih ht).1
      simp only [List.length_cons]
      exact ⟨by omega, fun he => by omega⟩
  | case3 a b rest hnot =>
      rw [unescape, if_pos rfl] at h
      split at h
      · rename_i x y hx hy
        exact (hnot x y hx hy).elim
      · cases h
  | case4 rest hshort =>
      rw [unescape, if_pos rfl] at h
      · cases h
      · exact hshort
  | case5 c rest hc ih =>
      rw [unescape_cons hc, Option.map_eq_some_iff] at h
      obtain ⟨t, ht, rfl⟩ := h
      obtain ⟨hle, hplain⟩ := ih ht
      simp only [List.length_cons, List.mem_cons, not_or]
      exact ⟨by omega, fun he => ⟨Ne.symm hc, hplain (by omega)⟩⟩

/-- A slash ends whatever escape is before it. -/
theorem unescape_append_slash (s t : List UInt8) :
    unescape (s ++ slash :: t)
      = (unescape s).bind fun x => (unescape t).map fun y => x ++ slash :: y := by
  have hslash : unhex slash = none := by decide
  have hne : slash ≠ percent := by decide
  induction s using unescape.induct with
  | case1 =>
      rw [List.nil_append, unescape_cons hne, unescape, Option.bind_some]
      rfl
  | case2 a b rest x y hx hy ih =>
      simp only [List.cons_append, unescape, if_true, hx, hy, ih]
      cases unescape rest <;> cases unescape t <;> rfl
  | case3 a b rest hnot =>
      have hnone : ∀ rest, unescape (percent :: a :: b :: rest) = none := by
        intro rest
        cases hx : unhex a with
        | none => simp [unescape, hx]
        | some x =>
            cases hy : unhex b with
            | none => simp [unescape, hy]
            | some y => exact absurd hy (hnot x y hx)
      rw [List.cons_append, List.cons_append, List.cons_append, hnone, hnone, Option.bind_none]
  | case4 rest hshort =>
      match rest, hshort with
      | [], _ => cases t <;> simp [unescape, hslash]
      | [a], _ => simp [unescape, hslash]
      | a :: b :: rest, hshort => exact absurd rfl (hshort a b rest)
  | case5 c rest hc ih =>
      rw [List.cons_append, unescape_cons hc, unescape_cons hc, ih]
      cases unescape rest <;> cases unescape t <;> rfl

/-- One byte is decoded from its encoding. -/
theorem unescape_escapeByte (c : UInt8) (t : List UInt8) :
    unescape ([percent, hexDigit (c.toNat / 16), hexDigit (c.toNat % 16)] ++ t)
      = (unescape t).map (c :: ·) := by
  have hlt : c.toNat < 256 := c.toNat_lt
  have hbyte : UInt8.ofNat (16 * (c.toNat / 16) + c.toNat % 16) = c := by
    rw [Nat.div_add_mod, UInt8.ofNat_toNat]
  simp only [List.cons_append, List.nil_append, unescape, if_true,
    unhex_hexDigit (show c.toNat / 16 < 16 by omega),
    unhex_hexDigit (show c.toNat % 16 < 16 by omega), hbyte]

/-- **What was encoded is decoded.** -/
theorem unescape_escape (p : List UInt8) : unescape (escape p) = some p := by
  induction p with
  | nil => rfl
  | cons c p ih =>
      rw [escape, List.flatMap_cons, ← escape]
      split
      · rw [unescape_escapeByte, ih, Option.map_some]
      · rename_i hc
        have hne : c ≠ percent := fun e => hc (by rw [e]; decide)
        rw [List.singleton_append, unescape_cons hne, ih, Option.map_some]

/-- A question mark is always encoded. -/
theorem question_not_mem_escape (p : List UInt8) : question ∉ escape p := by
  have hhex : ∀ n : Fin 16, hexDigit n ≠ question := by decide
  intro h
  obtain ⟨c, -, hc⟩ := List.mem_flatMap.mp h
  have hlt : c.toNat < 256 := c.toNat_lt
  split at hc
  · simp only [List.mem_cons, List.not_mem_nil, or_false] at hc
    rcases hc with hc | hc | hc
    · exact absurd hc (by decide)
    · exact hhex ⟨c.toNat / 16, by omega⟩ hc.symm
    · exact hhex ⟨c.toNat % 16, by omega⟩ hc.symm
  · rename_i hkeep
    rw [← List.mem_singleton.mp hc] at hkeep
    exact hkeep (by decide)

theorem question_not_mem_validEncoded (h : validEncoded s = true) : question ∉ s := fun hmem =>
  absurd (List.all_eq_true.mp h question hmem) (by decide)

/-! ## Cutting -/

theorem cut_of_not_mem (h : c ∉ s) : cut c s = (s, []) := by
  have hall : ∀ b ∈ s, decide (b ≠ c) = true := fun b hb => by
    simpa using fun e : b = c => h (e ▸ hb)
  rw [cut, List.takeWhile_eq_self_iff.mpr hall, List.dropWhile_eq_nil_iff.mpr hall, List.drop_nil]

/-- A text without the separator does not change where the rest is cut. -/
theorem cut_append_of_not_mem (h : c ∉ s) (t : List UInt8) :
    cut c (s ++ t) = (s ++ (cut c t).1, (cut c t).2) := by
  have hall : ∀ b ∈ s, decide (b ≠ c) = true := fun b hb => by
    simpa using fun e : b = c => h (e ▸ hb)
  rw [cut, List.takeWhile_append_of_pos hall, List.dropWhile_append_of_pos hall, cut]

/-- What is cut off makes a text shorter. -/
theorem length_cut (c : UInt8) (s : List UInt8) :
    (cut c s).1.length ≤ s.length ∧ ((cut c s).1.length = s.length → c ∉ s) := by
  have hsublist := List.takeWhile_sublist (fun b => decide (b ≠ c)) (l := s)
  refine ⟨hsublist.length_le, fun hlength => ?_⟩
  have hself := List.takeWhile_eq_self_iff.mp (hsublist.eq_of_length hlength)
  exact fun hm => absurd (hself c hm) (by simp)

theorem cut_append (h : c ∉ s) (t : List UInt8) : cut c (s ++ c :: t) = (s, t) := by
  have hall : ∀ b ∈ s, decide (b ≠ c) = true := fun b hb => by
    simpa using fun e : b = c => h (e ▸ hb)
  rw [cut, List.takeWhile_append_of_pos hall, List.dropWhile_append_of_pos hall]
  simp

/-! ## A path on its way -/

/-- The path is sent in a form that stands for it. -/
theorem unescape_escapedPath (u : Url) : unescape (escapedPath u) = some u.path := by
  unfold escapedPath
  split
  · rename_i h
    simp only [Bool.and_eq_true, beq_iff_eq] at h
    exact h.2
  · exact unescape_escape u.path

theorem question_not_mem_escapedPath (u : Url) : question ∉ escapedPath u := by
  unfold escapedPath
  split
  · rename_i h
    simp only [Bool.and_eq_true] at h
    exact question_not_mem_validEncoded h.1
  · exact question_not_mem_escape u.path

/-- A path that starts with a slash is sent with it. -/
theorem escapedPath_head {u : Url} (hraw : u.rawPath.head? = some slash)
    (hpath : u.path.head? = some slash) : (escapedPath u).head? = some slash := by
  unfold escapedPath
  split
  · exact hraw
  · cases hp : u.path with
    | nil => simp [hp] at hpath
    | cons c p =>
        obtain rfl : c = slash := by simpa [hp] using hpath
        rfl

/-- **The server finds the path the client was given.** -/
theorem requestPath_requestURI {u : Url} (hraw : u.rawPath.head? = some slash)
    (hpath : u.path.head? = some slash) : requestPath (requestURI u) = some u.path := by
  have hne : u.path ≠ [] := fun e => by simp [e] at hpath
  have hhead := escapedPath_head hraw hpath
  have hcut : (cut question (requestURI u)).1 = escapedPath u := by
    rw [requestURI, if_neg hne]
    split
    · rw [List.append_nil, cut_of_not_mem (question_not_mem_escapedPath u)]
    · rw [cut_append (question_not_mem_escapedPath u)]
  have hstart : (requestURI u).head? = some slash := by
    rw [requestURI, if_neg hne, List.head?_append, hhead]
    rfl
  rw [requestPath, if_pos hstart, hcut, unescape_escapedPath]

/-- Slashes at the end of a path are left out. -/
theorem base_append_slashes (p : List UInt8) (h : ∀ b ∈ s, b = slash) :
    base (p ++ slash :: s) = base (p ++ [slash]) := by
  have hall : ∀ b ∈ s.reverse, (b == slash) = true := fun b hb => by
    simpa using h b (List.mem_reverse.mp hb)
  have hrev : (p ++ slash :: s).reverse = s.reverse ++ slash :: p.reverse := by simp
  have hrev' : (p ++ [slash]).reverse = slash :: p.reverse := by simp
  have hne : p ++ slash :: s ≠ [] := by simp
  have hne' : p ++ [slash] ≠ [] := by simp
  rw [base, base, if_neg hne, if_neg hne', hrev, hrev', List.dropWhile_append_of_pos hall]

/-- The last element is part of what follows a slash, unless that is all slashes. -/
theorem length_base (p : List UInt8) (h : ¬ ∀ b ∈ s, b = slash) :
    (base (p ++ slash :: s)).length ≤ s.length ∧
      ((base (p ++ slash :: s)).length = s.length →
        slash ∉ s ∧ base (p ++ slash :: s) = s) := by
  have hrev : (p ++ slash :: s).reverse = s.reverse ++ slash :: p.reverse := by simp
  -- what is left of the end without the slashes that close it
  have hleft : s.reverse.dropWhile (· == slash) ≠ [] := by
    intro hnil
    have hall := List.dropWhile_eq_nil_iff.mp hnil
    exact h fun b hb => by simpa using hall b (List.mem_reverse.mpr hb)
  have hdrop : (s.reverse ++ slash :: p.reverse).dropWhile (· == slash)
      = s.reverse.dropWhile (· == slash) ++ slash :: p.reverse := by
    rw [List.dropWhile_append, if_neg (by simpa using hleft)]
  have htake : ∀ l : List UInt8, (l ++ slash :: p.reverse).takeWhile (· ≠ slash)
      = l.takeWhile (· ≠ slash) := by
    intro l
    rw [List.takeWhile_append]
    split
    · rename_i hself
      rw [List.takeWhile_cons_of_neg (by simp), List.append_nil]
      exact ((List.takeWhile_sublist _).eq_of_length hself).symm
    · rfl
  have hbase : base (p ++ slash :: s)
      = ((s.reverse.dropWhile (· == slash)).takeWhile (· ≠ slash)).reverse := by
    rw [base, if_neg (by simp), hrev]
    simp only [hdrop, htake]
    refine if_neg ?_
    cases hs : s.reverse.dropWhile (· == slash) with
    | nil => exact absurd hs hleft
    | cons b rest =>
        have hb : b ≠ slash := by simpa [hs] using List.head_dropWhile_not (· == slash) hleft
        simp [hb]
  have hsublist : ((s.reverse.dropWhile (· == slash)).takeWhile (· ≠ slash)).Sublist s.reverse :=
    (List.takeWhile_sublist _).trans (List.dropWhile_sublist _)
  rw [hbase, List.length_reverse]
  refine ⟨by simpa using hsublist.length_le, fun hlength => ?_⟩
  have hself := hsublist.eq_of_length (by simpa using hlength)
  have hclean : slash ∉ s := fun hm => by
    rw [← List.mem_reverse, ← hself] at hm
    exact absurd (List.mem_takeWhile_imp hm) (by simp)
  exact ⟨hclean, by rw [hself, List.reverse_reverse]⟩

/-- The last element of a path is what follows its last slash. -/
theorem base_append (p : List UInt8) (hne : s ≠ []) (hslash : slash ∉ s) :
    base (p ++ slash :: s) = s := by
  have hrev : (p ++ slash :: s).reverse = s.reverse ++ slash :: p.reverse := by simp
  have hall : ∀ b ∈ s.reverse, decide (b ≠ slash) = true := fun b hb => by
    simpa using fun e : b = slash => hslash (e ▸ List.mem_reverse.mp hb)
  have hdrop : (s.reverse ++ slash :: p.reverse).dropWhile (· == slash)
      = s.reverse ++ slash :: p.reverse := by
    cases hs : s.reverse with
    | nil => exact absurd (List.reverse_eq_nil_iff.mp hs) hne
    | cons b rest =>
        have hb : b ≠ slash := by simpa using hall b (by rw [hs]; exact List.mem_cons_self)
        rw [List.cons_append, List.dropWhile_cons_of_neg (by simpa using hb)]
  have htake : (s.reverse ++ slash :: p.reverse).takeWhile (· ≠ slash) = s.reverse := by
    rw [List.takeWhile_append_of_pos hall]
    simp
  rw [base, if_neg (by simp)]
  simp only [hrev, hdrop, htake, List.reverse_reverse, hne, if_false]

end

end Url

end OcppGo.Lib
