import OcppGo.Proof.FailedStart
import Mathlib.Data.List.Basic

/-!
# The id of a client on the server

`Client.Start` adds a slash and the id to the server's URL, as they are. An id with a
slash is more than one path element, after a question mark or a hash it is cut off, and
what follows a percent sign is decoded: the server finds another id, and two clients can
end up with the same one.

An id without these four bytes is the last element of the path, written as it is. Then it
arrives, however the path is encoded in between. No other id does by itself: every one of
these bytes makes what is left of the id shorter. The one exception is an id of which
nothing is left, on a server whose own path ends with it.
-/

namespace OcppGo.Proof

open OcppGo.Lib OcppGo.Ws

/-- A server URL `scheme://host/path` without query and fragment. -/
structure ServerUrl where
  /-- The first byte of the scheme. -/
  initial : UInt8
  scheme : List UInt8
  host : List UInt8
  path : List UInt8
  initial_letter : Url.isLetter initial = true
  scheme_bytes : ∀ c ∈ scheme, Url.isSchemeByte c = true
  host_bytes : ∀ c ∈ host, c ≠ Url.slash ∧ c ≠ Url.question ∧ c ≠ Url.hash
  path_bytes : ∀ c ∈ path, c ≠ Url.question ∧ c ≠ Url.hash
  path_head : path = [] ∨ path.head? = some Url.slash

def ServerUrl.text (u : ServerUrl) : List UInt8 :=
  u.initial :: u.scheme ++ Url.colon :: Url.slash :: Url.slash :: (u.host ++ u.path)

/-- The id has none of the bytes that mean something in a URL's path. -/
def plainId (id : List UInt8) : Bool :=
  id.all fun c => c != Url.slash && c != Url.question && c != Url.hash && c != Url.percent

/-- What is part of the path: up to the first `#` and the first `?`. -/
def pathPart (id : List UInt8) : List UInt8 := (Url.cut Url.question (Url.cut Url.hash id).1).1

/-- The path part is nothing but slashes, and the path of the server ends with the id. -/
def Replaced (u : ServerUrl) (id : List UInt8) : Prop :=
  ∃ p d, Url.unescape u.path = some p ∧ Url.unescape (pathPart id) = some d ∧
    (∀ b ∈ d, b = Url.slash) ∧ Url.base (p ++ [Url.slash]) = id

section

variable {u : ServerUrl} {v : Url} {id d p : List UInt8} {c : UInt8} {routes : List UInt8 → Bool}

theorem plainId_iff : plainId id = true ↔
    Url.slash ∉ id ∧ Url.question ∉ id ∧ Url.hash ∉ id ∧ Url.percent ∉ id := by
  have hall : plainId id = true ↔
      ∀ c ∈ id, c ≠ Url.slash ∧ c ≠ Url.question ∧ c ≠ Url.hash ∧ c ≠ Url.percent := by
    simp [plainId, List.all_eq_true, and_assoc]
  rw [hall]
  constructor
  · intro h
    exact ⟨fun hm => (h _ hm).1 rfl, fun hm => (h _ hm).2.1 rfl,
      fun hm => (h _ hm).2.2.1 rfl, fun hm => (h _ hm).2.2.2 rfl⟩
  · rintro ⟨hs, hq, hh, hp⟩ c hc
    exact ⟨fun e => hs (e ▸ hc), fun e => hq (e ▸ hc), fun e => hh (e ▸ hc), fun e => hp (e ▸ hc)⟩

/-- What is cut off makes the id shorter. -/
theorem length_pathPart (id : List UInt8) : (pathPart id).length ≤ id.length ∧
    ((pathPart id).length = id.length → Url.question ∉ id ∧ Url.hash ∉ id) := by
  obtain ⟨hle, hnone⟩ := Url.length_cut Url.hash id
  obtain ⟨hle', hnone'⟩ := Url.length_cut Url.question (Url.cut Url.hash id).1
  unfold pathPart
  refine ⟨hle'.trans hle, fun hlength => ?_⟩
  have hhash := hnone (by omega)
  have hquestion := hnone' (by omega)
  rw [Url.cut_of_not_mem hhash] at hquestion
  exact ⟨hquestion, hhash⟩

theorem pathPart_of_plain (h : plainId id = true) : pathPart id = id := by
  obtain ⟨_, hq, hh, _⟩ := plainId_iff.mp h
  rw [pathPart, Url.cut_of_not_mem hh, Url.cut_of_not_mem hq]

theorem isSchemeByte_initial (u : ServerUrl) : Url.isSchemeByte u.initial = true := by
  simp [Url.isSchemeByte, u.initial_letter]

/-- A separator that is no scheme byte, and in none of the parts, is not in the URL. -/
theorem not_mem_text (hc : Url.isSchemeByte c = false)
    (hsep : c ≠ Url.colon ∧ c ≠ Url.slash) (hhost : c ∉ u.host) (hpath : c ∉ u.path) :
    c ∉ u.text ++ [Url.slash] := by
  have hinitial : c ≠ u.initial := fun e => by
    rw [e, isSchemeByte_initial] at hc
    cases hc
  have hscheme : c ∉ u.scheme := fun hm => by
    rw [u.scheme_bytes c hm] at hc
    cases hc
  simp [ServerUrl.text, hinitial, hscheme, hsep, hhost, hpath]

theorem getScheme_text (u : ServerUrl) (rest : List UInt8) :
    Url.getScheme (u.initial :: u.scheme ++ Url.colon :: rest)
      = some (u.initial :: u.scheme, rest) := by
  have hall : ∀ c ∈ u.initial :: u.scheme, Url.isSchemeByte c = true := by
    intro c hc
    rcases List.mem_cons.mp hc with rfl | hc
    · exact isSchemeByte_initial u
    · exact u.scheme_bytes c hc
  have hcolon : Url.isSchemeByte Url.colon = false := by decide
  rw [Url.getScheme, List.takeWhile_append_of_pos hall, List.dropWhile_append_of_pos hall,
    List.takeWhile_cons_of_neg (by simp [hcolon]), List.dropWhile_cons_of_neg (by simp [hcolon])]
  simp [u.initial_letter]

theorem getHost_text (u : ServerUrl) (id : List UInt8) :
    Url.getHost (Url.slash :: Url.slash :: (u.host ++ (u.path ++ Url.slash :: id)))
      = some (u.host, u.path ++ Url.slash :: id) := by
  have hall : ∀ c ∈ u.host, decide (c ≠ Url.slash) = true :=
    fun c hc => by simpa using (u.host_bytes c hc).1
  obtain ⟨rest, hrest⟩ : ∃ rest, u.path ++ Url.slash :: id = Url.slash :: rest := by
    rcases u.path_head with hp | hp
    · exact ⟨id, by rw [hp, List.nil_append]⟩
    · cases hpath : u.path with
      | nil => simp [hpath] at hp
      | cons c path =>
          obtain rfl : c = Url.slash := by simpa [hpath] using hp
          exact ⟨path ++ Url.slash :: id, rfl⟩
  rw [hrest]
  simp only [Url.getHost, beq_self_eq_true, Bool.and_self, if_true,
    List.takeWhile_append_of_pos hall, List.dropWhile_append_of_pos hall]
  simp

/-- The URL is parsed with the path part of the id at the end of its path. -/
theorem parse_text (h : Url.parse (u.text ++ Url.slash :: id) = some v) :
    v.rawPath = u.path ++ Url.slash :: pathPart id ∧
      ∃ p d, Url.unescape u.path = some p ∧ Url.unescape (pathPart id) = some d ∧
        v.path = p ++ Url.slash :: d := by
  have hhash : Url.hash ∉ u.text ++ [Url.slash] :=
    not_mem_text (by decide) (by decide) (fun hm => (u.host_bytes _ hm).2.2 rfl)
      (fun hm => (u.path_bytes _ hm).2 rfl)
  have hquestion :
      Url.question ∉ Url.slash :: Url.slash :: (u.host ++ (u.path ++ [Url.slash])) := by
    have hhost : Url.question ∉ u.host := fun hm => (u.host_bytes _ hm).2.1 rfl
    have hpath : Url.question ∉ u.path := fun hm => (u.path_bytes _ hm).1 rfl
    simp [hhost, hpath, show Url.question ≠ Url.slash by decide]
  have htext : ∀ id, u.text ++ [Url.slash] ++ id = u.initial :: u.scheme ++ Url.colon ::
      (Url.slash :: Url.slash :: (u.host ++ (u.path ++ [Url.slash])) ++ id) := fun id => by
    simp [ServerUrl.text]
  have hrest : ∀ id, Url.slash :: Url.slash :: (u.host ++ (u.path ++ [Url.slash])) ++ id
      = Url.slash :: Url.slash :: (u.host ++ (u.path ++ Url.slash :: id)) := fun id => by simp
  rw [List.append_cons] at h
  simp only [Url.parse, Url.cut_append_of_not_mem hhash] at h
  split at h
  · exact absurd h (by simp)
  · rw [htext, getScheme_text, Option.bind_some, Url.cut_append_of_not_mem hquestion] at h
    simp only [hrest] at h
    rw [← pathPart, getHost_text, Option.bind_some, Url.unescape_append_slash] at h
    simp only [Option.bind_eq_some_iff, Option.map_eq_some_iff] at h
    obtain ⟨path, ⟨p, hp, d, hd, rfl⟩, fragment, _, rfl⟩ := h
    exact ⟨rfl, p, d, hp, hd, rfl⟩

/-- The path of the server's URL is empty or starts with a slash, decoded too. -/
theorem unescape_path_head (h : Url.unescape u.path = some p) :
    p = [] ∨ p.head? = some Url.slash := by
  rcases u.path_head with hnil | hhead
  · rw [hnil] at h
    exact Or.inl (Option.some.inj h).symm
  · cases hpath : u.path with
    | nil => simp [hpath] at hhead
    | cons c rest =>
        obtain rfl : c = Url.slash := by simpa [hpath] using hhead
        rw [hpath, Url.unescape_cons (by decide)] at h
        obtain ⟨rest', -, rfl⟩ := Option.map_eq_some_iff.mp h
        exact Or.inr rfl

/-- The server derives the last element of the path, if the request gets to it. -/
theorem registeredId_text (h : Url.parse (u.text ++ Url.slash :: id) = some v) :
    registeredId routes v = if routes v.path then some (Url.base v.path) else none := by
  obtain ⟨hraw, p, d, hp, _, hpath⟩ := parse_text h
  have hstart : ∀ path rest : List UInt8, path = [] ∨ path.head? = some Url.slash →
      (path ++ Url.slash :: rest).head? = some Url.slash := by
    intro path rest hpath
    rcases hpath with rfl | hhead
    · rfl
    · rw [List.head?_append, hhead]
      rfl
  have hsent : Url.requestPath v.requestURI = some v.path :=
    Url.requestPath_requestURI (by rw [hraw]; exact hstart _ _ u.path_head)
      (by rw [hpath]; exact hstart _ _ (unescape_path_head hp))
  rw [registeredId, handlerId, hsent, Option.filter_some]
  split <;> rfl

/-- **Which ids the server finds again.** -/
theorem base_eq_iff (hne : id ≠ []) (hp : Url.unescape u.path = some p)
    (hd : Url.unescape (pathPart id) = some d) :
    Url.base (p ++ Url.slash :: d) = id ↔ plainId id = true ∨ Replaced u id := by
  constructor
  · intro hbase
    by_cases hslashes : ∀ b ∈ d, b = Url.slash
    · rw [Url.base_append_slashes p hslashes] at hbase
      exact Or.inr ⟨p, d, hp, hd, hslashes, hbase⟩
    · -- nothing can have been left out of the id on the way
      obtain ⟨hle, hwhole⟩ := Url.length_base p hslashes
      obtain ⟨hle', hplain⟩ := Url.length_unescape hd
      obtain ⟨hle'', huncut⟩ := length_pathPart id
      rw [hbase] at hle hwhole
      obtain ⟨hslash, hid⟩ := hwhole (by omega)
      obtain ⟨hquestion, hhash⟩ := huncut (by omega)
      have hpart : pathPart id = id := by
        rw [pathPart, Url.cut_of_not_mem hhash, Url.cut_of_not_mem hquestion]
      have hpercent := hplain (by omega)
      rw [hpart] at hpercent
      exact Or.inl (plainId_iff.mpr ⟨hid ▸ hslash, hquestion, hhash, hpercent⟩)
  · rintro (hplain | ⟨p', d', hp', hd', hslashes, hbase⟩)
    · rw [pathPart_of_plain hplain] at hd
      obtain ⟨hslash, _, _, hpercent⟩ := plainId_iff.mp hplain
      rw [Url.unescape_plain hpercent] at hd
      cases hd
      exact Url.base_append p hne hslash
    · cases hp.symm.trans hp'
      cases hd.symm.trans hd'
      rw [Url.base_append_slashes p hslashes, hbase]

end

/-! ## Two clients -/

theorem goString_injective {a b : List UInt8} (h : goString a = goString b) : a = b := by
  have hbyte : Function.Injective Char.ofUInt8 := fun c d hcd =>
    UInt8.toUInt32_inj.mp (congrArg Char.val hcd)
  exact List.map_injective_iff.mpr hbyte (String.ofList_injective h)

/-- Entering one id leaves every other id's entry as it was. -/
theorem register_other (s : Server) (t : Nat) {i j : String} (h : j ≠ i) :
    (s.register t i).connections j = s.connections j := by
  unfold Server.register
  split
  · rfl
  · exact Function.update_of_ne h _ _

/-- The URL a client has dialled when its `Start` connects. -/
theorem dialled_url {η : Type} {h : Handlers η} {c c' : OcppjClient Url η}
    {serverURL : List UInt8} {dial : DialResult}
    (hstart : c.start netUrl h serverURL dial = .connected c') :
    Url.parse (serverURL ++ Url.slash :: c.id) = some c'.client.url := by
  have hparse := (start_connected (ocppj_start_connected hstart).1).2.1
  unfold netUrl at hparse
  simp only at hparse
  split at hparse
  · rename_i v hv
    cases hparse
    exact hv
  · exact absurd hparse (by simp)

/-- What an id takes to arrive: if the URL is one at all, and routed, it is plain or replaced. -/
def Arrives (routes : List UInt8 → Bool) (u : ServerUrl) (id : List UInt8) : Prop :=
  ∀ v, Url.parse (u.text ++ Url.slash :: id) = some v → routes v.path = true →
    plainId id = true ∨ Replaced u id

/-- The id the server derives, of a client that connects. -/
theorem Arrives.registeredId_eq {η : Type} {h : Handlers η} {c c' : OcppjClient Url η}
    {routes : List UInt8 → Bool} {u : ServerUrl} {dial : DialResult} {i : List UInt8}
    (hne : c.id ≠ []) (harrives : Arrives routes u c.id)
    (hstart : c.start netUrl h u.text dial = .connected c')
    (hid : registeredId routes c'.client.url = some i) : i = c.id := by
  have hparse := dialled_url hstart
  obtain ⟨_, p, d, hp, hd, hpath⟩ := parse_text hparse
  rw [registeredId_text hparse] at hid
  split at hid
  · rename_i hroutes
    cases hid
    rw [hpath]
    exact (base_eq_iff hne hp hd).mpr (harrives _ hparse hroutes)
  · cases hid

/--
**When the id of a client survives the URL**: that the server derives this id whenever
`Start` connects holds exactly if the URL cannot be parsed, or is not routed to the
handler, or the id has none of the bytes `/`, `?`, `#` and `%`, or it is replaced by an
equal one. Of two such clients with different ids, one leaves the entry of the other as
it was.
-/
theorem client_id_survives {η : Type} (h : Handlers η) (routes : List UInt8 → Bool)
    (u : ServerUrl) (c : OcppjClient Url η) (hne : c.id ≠ []) :
    ((∀ dial c' i, c.start netUrl h u.text dial = .connected c' →
        registeredId routes c'.client.url = some i → i = c.id) ↔ Arrives routes u c.id) ∧
      (Arrives routes u c.id →
        ∀ (w : ServerUrl) (d : OcppjClient Url η), d.id ≠ [] → Arrives routes w d.id →
        d.id ≠ c.id → ∀ dial dial' c' d' i j,
          c.start netUrl h u.text dial = .connected c' →
          registeredId routes c'.client.url = some i →
          d.start netUrl h w.text dial' = .connected d' →
          registeredId routes d'.client.url = some j → ∀ (s : Server) (t : Nat),
            (s.register t (goString i)).connections (goString j) = s.connections (goString j)) := by
  refine ⟨⟨?_, fun harrives dial c' i => harrives.registeredId_eq hne⟩, ?_⟩
  · intro hall v hparse hroutes
    obtain ⟨_, p, d, hp, hd, hpath⟩ := parse_text hparse
    obtain ⟨c', hstart⟩ : ∃ c', c.start netUrl h u.text .connects = .connected c' := by
      have hurl : netUrl.parse (c.fullUrl u.text) = .ok v := by
        unfold netUrl
        simp only [show Url.parse (c.fullUrl u.text) = some v from hparse]
      exact ⟨_, by simp only [OcppjClient.start, ClientFields.start, hurl]; rfl⟩
    have hv : c'.client.url = v := Option.some.inj ((dialled_url hstart).symm.trans hparse)
    have hid : registeredId routes c'.client.url = some (Url.base v.path) := by
      rw [hv, registeredId_text hparse, if_pos hroutes]
    rw [hpath] at hid
    exact (base_eq_iff hne hp hd).mp (hall _ c' _ hstart hid)
  · intro harrives w d hne' harrives' hother dial dial' c' d' i j hc hi hd hj s t
    obtain rfl := harrives.registeredId_eq hne hc hi
    obtain rfl := harrives'.registeredId_eq hne' hd hj
    exact register_other s t fun he => hother (goString_injective he)

/-- `ws://h/ocpp`. -/
def ocppUrl : ServerUrl where
  initial := 0x77
  scheme := [0x73]
  host := [0x68]
  path := [0x2F, 0x6F, 0x63, 0x70, 0x70]
  initial_letter := by decide
  scheme_bytes := by simp; decide
  host_bytes := by simp; decide
  path_bytes := by simp; decide
  path_head := Or.inr rfl

/-- A new client with this id. -/
def clientWithId (id : List UInt8) : OcppjClient Url Unit :=
  { id := id, client := .new netUrl, dispatcherStarts := 0 }

/-- The client once it has connected to `ws://h/ocpp`. -/
def connectedAs (id : List UInt8) : Started (OcppjClient Url Unit) :=
  (clientWithId id).start netUrl ⟨(), (), ()⟩ ocppUrl.text .connects

/-- The router leads everything below `/ocpp/` to the handler. -/
def belowOcpp (path : List UInt8) : Bool := [0x2F, 0x6F, 0x63, 0x70, 0x70, 0x2F].isPrefixOf path

/--
`CP 2` is found as it is, and so is `C%zz` as far as it ever connects, which it does not.
`CP?1` is not.
-/
theorem plain_ids_survive :
    (∃ c, connectedAs [0x43, 0x50, 0x20, 0x32] = .connected c ∧
      registeredId belowOcpp c.client.url = some [0x43, 0x50, 0x20, 0x32]) ∧
    (∀ dial c' i, (clientWithId [0x43, 0x25, 0x7A, 0x7A]).start netUrl ⟨(), (), ()⟩ ocppUrl.text
        dial = .connected c' → registeredId belowOcpp c'.client.url = some i →
        i = [0x43, 0x25, 0x7A, 0x7A]) ∧
    ¬ ∀ dial c' i, (clientWithId [0x43, 0x50, 0x3F, 0x31]).start netUrl ⟨(), (), ()⟩ ocppUrl.text
        dial = .connected c' → registeredId belowOcpp c'.client.url = some i →
        i = [0x43, 0x50, 0x3F, 0x31] := by
  refine ⟨⟨_, rfl, ?_⟩, ?_, fun hall => ?_⟩
  · have hplain : Arrives belowOcpp ocppUrl [0x43, 0x50, 0x20, 0x32] :=
      fun _ _ _ => Or.inl (by decide)
    have hsurvives := (client_id_survives ⟨(), (), ()⟩ belowOcpp ocppUrl
      (clientWithId [0x43, 0x50, 0x20, 0x32]) (by decide)).1.mpr hplain
    exact congrArg some (hsurvives .connects _ _ rfl rfl)
  · exact (client_id_survives ⟨(), (), ()⟩ belowOcpp ocppUrl
      (clientWithId [0x43, 0x25, 0x7A, 0x7A]) (by decide)).1.mpr fun v hv => by cases hv
  · have harrives := (client_id_survives ⟨(), (), ()⟩ belowOcpp ocppUrl
      (clientWithId [0x43, 0x50, 0x3F, 0x31]) (by decide)).1.mp hall
    rcases harrives _ rfl rfl with hplain | ⟨p, d, hp, hd, hslashes, _⟩
    · exact absurd hplain (by decide)
    · cases hd
      exact absurd (hslashes 0x43 (by decide)) (by decide)

/-- `CP?1` and `CP#2` connect as `CP` both, so that the second is refused; `C%50` is `CP` too. -/
theorem ids_collide :
    (∃ c, connectedAs [0x43, 0x50, 0x3F, 0x31] = .connected c ∧
      registeredId belowOcpp c.client.url = some [0x43, 0x50]) ∧
    (∃ c, connectedAs [0x43, 0x50, 0x23, 0x32] = .connected c ∧
      registeredId belowOcpp c.client.url = some [0x43, 0x50]) ∧
    (∃ c, connectedAs [0x43, 0x25, 0x35, 0x30] = .connected c ∧
      registeredId belowOcpp c.client.url = some [0x43, 0x50]) ∧
    ((Server.start.register 0 (goString [0x43, 0x50])).connections (goString [0x43, 0x50])).isSome
      = true :=
  ⟨⟨_, rfl, rfl⟩, ⟨_, rfl, rfl⟩, ⟨_, rfl, rfl⟩, by simp [Server.register, Server.start,
    Server.setCall]⟩

end OcppGo.Proof
