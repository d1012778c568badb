import OcppGo.Ocppj.Integers
import OcppGo.Proof.MessageGrammar

/-!
# Integers that survive the trip

A message is read into a tree of `float64` before its payload is decoded. An integer
that shares its rounded number with no other survives: whatever the encoder writes for
the rounded number, it can only be that integer. These are the integers below `2^53` in
size, and up to `2^54` the odd multiples of two. Of any other, another integer has the
same rounded number, and the encoder is free to write that one.
-/

namespace OcppGo.Proof

open OcppGo.Ocppj OcppGo.Lib Encoding

/-- A request or a response with this payload, of the type its feature registers. -/
def Carries (endpoint : Endpoint) (p : Payload) : Message → Prop
  | .call c => c.payload = p ∧ Registered endpoint Feature.requestType p
  | .callResult c => c.payload = p ∧ Registered endpoint Feature.responseType p
  | .callError _ => False

section

variable {endpoint : Endpoint} {lib : Library} {e : Encoding} {reencode : Int → Int} {n : Int}

/-- What is written for the rounded number is the integer itself, if nothing else rounds to it. -/
theorem reencode_alone (hints : DoubleIntegers e reencode)
    (halone : ∀ m, roundInt 53 m = roundInt 53 n → m = n) :
    reencode (roundInt 53 n) = n :=
  halone _ (hints.reencodes n)

/-- The payload is read back if the integer is written again as it was. -/
theorem readBack_of_reencode (hints : DoubleIntegers e reencode) (F : IntegerField e lib reencode)
    (h64 : IsInt64 n) (h : reencode (roundInt 53 n) = n) : ReadBack lib e (F.withField n) := by
  have hreread : e.reread (.num (.ofInt n)) = some (.num (.ofInt (roundInt 53 n))) := by
    rw [reread, hints.decodes n h64]
    rfl
  refine ⟨F.tree (.num (.ofInt n)), F.read (.num (.ofInt (roundInt 53 n))), F.encodes n h64,
    F.rereads _ _ hreread, F.notNull _, ?_⟩
  rw [F.type_eq, F.decodes, h, decodeInt64, if_pos h64]

/-- A message with such a payload arrives as it was created. -/
theorem created_received {m : Message} {p : Payload} (hback : ReadBack lib e p)
    (hcreated : Created endpoint lib m) (hcarries : Carries endpoint p m)
    {st : ClientState Payload} (hexpected : Expected st m) (escapeHTML : Bool) :
    ∃ data arr, e.marshalJSON escapeHTML m = .ok data ∧ e.parseRawJsonMessage data = .ok arr
      ∧ endpoint.parseMessage lib arr st = .parsed m := by
  cases hcreated with
  | call uid request hcreate =>
      obtain ⟨hpayload, htype⟩ := hcarries
      exact call_roundTrip hcreate (hpayload ▸ htype) (hpayload ▸ hback) st
  | callResult uid confirmation hcreate =>
      obtain ⟨hpayload, htype⟩ := hcarries
      obtain ⟨request, hpending, hfeature⟩ := hexpected
      exact callResult_roundTrip hcreate (hpayload ▸ htype) (hpayload ▸ hback) hpending hfeature
  | callError uid code description details hcreate => exact hcarries.elim

end

/-! ## Stopping a transaction -/

def remoteStopTransaction : Feature :=
  { name := "RemoteStopTransaction", requestType := "core.RemoteStopTransactionRequest",
    responseType := "core.RemoteStopTransactionConfirmation" }

def remoteStopEndpoint : Endpoint :=
  { dialect := .V16, profiles := [.new "core" [remoteStopTransaction]] }

/-- `RemoteStopTransactionRequest`: its only field is an `int`. -/
def remoteStopRequest (transactionId : Int) : Payload :=
  { goType := remoteStopTransaction.requestType, featureName := remoteStopTransaction.name
    body := .obj [("transactionId", .num (.ofInt transactionId))] }

/-- Encodes a tree again and decodes it into a request. -/
def decodeRemoteStop (reencode : Int → Int) (raw : Json) : Except String Payload :=
  match raw with
  | .obj [(_, .num x)] =>
      match decodeInt64 (reencode x.mantissa) with
      | some m => .ok (remoteStopRequest m)
      | none => .error "json: cannot unmarshal number into Go struct field"
  | _ => .error "json: cannot unmarshal"

def remoteStopJson (reencode : Int → Int) : Library :=
  { heartbeatJson with
    unmarshalArray := decimalEncoding.parseRawJsonMessage
    decode := fun _ raw => decodeRemoteStop reencode raw
    marshal := decimalEncoding.marshalJSON true }

/-- The field `transactionId`. -/
def transactionIdField (reencode : Int → Int) :
    IntegerField decimalEncoding (remoteStopJson reencode) reencode where
  goType := remoteStopTransaction.requestType
  withField := remoteStopRequest
  type_eq _ := rfl
  tree x := .obj [("transactionId", x)]
  read x := .obj [("transactionId", x)]
  overflow _ := "json: cannot unmarshal number into Go struct field"
  encodes _ _ := rfl
  rereads x y h := by
    rw [reread, rereadMembers, h]
    rfl
  notNull _ := by simp
  decodes k := by
    cases h : decodeInt64 (reencode k) <;>
      simp only [remoteStopJson, decodeRemoteStop, Number.ofInt, h]

/-- A request that stops this transaction. -/
def remoteStopCall (transactionId : Int) : Message :=
  .call ⟨CALL, "1", "RemoteStopTransaction", remoteStopRequest transactionId⟩

theorem remoteStop_carries (n : Int) :
    Carries remoteStopEndpoint (remoteStopRequest n) (remoteStopCall n) := by
  refine ⟨rfl, fun profile feature hprofile hfeature => ?_⟩
  cases hprofile
  cases hfeature
  rfl

theorem remoteStop_created (reencode : Int → Int) (n : Int) :
    Created remoteStopEndpoint (remoteStopJson reencode) (remoteStopCall n) := by
  refine .call "1" (remoteStopRequest n) ?_
  have hvalid : (Call.mk CALL "1" "RemoteStopTransaction" (remoteStopRequest n)).validate
      (remoteStopJson reencode) = [] :=
    call_validate_iff.mpr ⟨⟨by decide, by decide⟩, ⟨by decide, by decide⟩, rfl⟩
  have hprofile : remoteStopEndpoint.getProfileForFeature "RemoteStopTransaction"
      = some (.new "core" [remoteStopTransaction]) := rfl
  have hname : (remoteStopRequest n).featureName = "RemoteStopTransaction" := rfl
  simp only [Endpoint.createCall, hname, hprofile, hvalid]

/-- An encoder that writes `m` for the rounded number of `n`, and else all digits. -/
def writesInstead (n m : Int) (k : Int) : Int := if k = roundInt 53 n then m else k

/-- It is one the assumptions allow, if `m` has the same rounded number. -/
theorem doubleIntegers_writesInstead {n m : Int} (h : roundInt 53 m = roundInt 53 n) :
    DoubleIntegers decimalEncoding (writesInstead n m) where
  decodes := doubleIntegers_decimal.decodes
  reencodes k := by
    unfold writesInstead
    split
    · rename_i hk
      rw [h, hk]
    · exact roundInt_idem (by decide)

/-- What arrives is what was written for the rounded number. -/
theorem remoteStop_received {reencode : Int → Int} (hints : DoubleIntegers decimalEncoding reencode)
    {n : Int} (h64 : IsInt64 n) {data : List UInt8} {arr : List Json}
    (hdata : decimalEncoding.marshalJSON true (remoteStopCall n) = .ok data)
    (harr : decimalEncoding.parseRawJsonMessage data = .ok arr)
    (hparse : remoteStopEndpoint.parseMessage (remoteStopJson reencode) arr .new
      = .parsed (remoteStopCall n)) : reencode (roundInt 53 n) = n := by
  have hreread : decimalEncoding.reread (.obj [("transactionId", .num (.ofInt n))])
      = some (.obj [("transactionId", .num (.ofInt (roundInt 53 n)))]) :=
    (transactionIdField reencode).rereads _ _ (by rw [reread, hints.decodes n h64]; rfl)
  obtain ⟨data', hdata', harr'⟩ := @call_read decimalEncoding true "1" "RemoteStopTransaction"
    (remoteStopRequest n) _ _ rfl hreread
  cases hdata.symm.trans hdata'
  cases harr.symm.trans harr'
  have hframe : CallFrame remoteStopEndpoint (remoteStopJson reencode) (cutType _)
      ⟨CALL, "1", "RemoteStopTransaction", remoteStopRequest n⟩ :=
    (parseMessage_parsed_iff _ _ _ _ _).mp hparse
  simp only [cutType] at hframe
  cases hframe with
  | mk _ _ _ _ hp =>
      have hdecode := hp.1
      simp only [Endpoint.parseRawJson, remoteStopJson, decodeRemoteStop, Number.ofInt,
        decodeInt64] at hdecode
      split at hdecode
      · rename_i m hm
        split at hm
        · cases hm
          simpa [remoteStopRequest, Number.ofInt] using hdecode
        · cases hm
      · cases hdecode

/--
**The integers that every request or response arrives with**, whatever field they stand in
and however a rounded number is written again: those below `2^53` in size, and below `2^54`
the odd multiples of two.
-/
theorem integer_field_survives {n : Int} (h64 : IsInt64 n) :
    (∀ (endpoint : Endpoint) (lib : Library) (e : Encoding) (reencode : Int → Int),
      DoubleIntegers e reencode → ∀ (F : IntegerField e lib reencode) (m : Message)
        (st : ClientState Payload), Created endpoint lib m →
        Carries endpoint (F.withField n) m → Expected st m → ∀ escapeHTML,
        ∃ data arr, e.marshalJSON escapeHTML m = .ok data ∧ e.parseRawJsonMessage data = .ok arr
          ∧ endpoint.parseMessage lib arr st = .parsed m) ↔
      n.natAbs < 2 ^ 53 ∨ n.natAbs < 2 ^ 54 ∧ n.natAbs % 4 = 2 := by
  have halone := @roundInt_alone_iff 53 n (by decide)
  constructor
  · intro hall
    refine halone.mp fun m hm => ?_
    -- let the encoder write the other integer, and send the first one
    have hints := doubleIntegers_writesInstead hm
    obtain ⟨data, arr, hdata, harr, hparse⟩ := hall remoteStopEndpoint
      (remoteStopJson (writesInstead n m)) decimalEncoding _ hints (transactionIdField _)
      (remoteStopCall n) .new (remoteStop_created _ n) (remoteStop_carries n) trivial true
    have hwritten := remoteStop_received hints h64 hdata harr hparse
    rw [writesInstead, if_pos rfl] at hwritten
    exact hwritten
  · intro hcond endpoint lib e reencode hints F m st hcreated hcarries hexpected escapeHTML
    have hback := readBack_of_reencode hints F h64 (reencode_alone hints (halone.mpr hcond))
    exact created_received hback hcreated hcarries hexpected escapeHTML

/--
The largest integer below `2^53` and `2^53 + 2` arrive, with an encoder that writes all
digits. At `2^53` there is an encoder that changes it.
-/
theorem transaction_id_survives :
    (∃ data arr, decimalEncoding.marshalJSON true (remoteStopCall 9007199254740991) = .ok data
      ∧ decimalEncoding.parseRawJsonMessage data = .ok arr
      ∧ remoteStopEndpoint.parseMessage (remoteStopJson id) arr .new
        = .parsed (remoteStopCall 9007199254740991))
    ∧ (∃ data arr, decimalEncoding.marshalJSON true (remoteStopCall 9007199254740994) = .ok data
      ∧ decimalEncoding.parseRawJsonMessage data = .ok arr
      ∧ remoteStopEndpoint.parseMessage (remoteStopJson id) arr .new
        = .parsed (remoteStopCall 9007199254740994))
    ∧ ¬ (∀ (endpoint : Endpoint) (lib : Library) (e : Encoding) (reencode : Int → Int),
      DoubleIntegers e reencode → ∀ (F : IntegerField e lib reencode) (m : Message)
        (st : ClientState Payload), Created endpoint lib m →
        Carries endpoint (F.withField 9007199254740992) m → Expected st m → ∀ escapeHTML,
        ∃ data arr, e.marshalJSON escapeHTML m = .ok data ∧ e.parseRawJsonMessage data = .ok arr
          ∧ endpoint.parseMessage lib arr st = .parsed m) := by
  refine ⟨?_, ?_, fun h => ?_⟩
  · exact (integer_field_survives (by decide)).mpr (by decide) _ _ _ _ doubleIntegers_decimal
      (transactionIdField id) _ _ (remoteStop_created _ _) (remoteStop_carries _) trivial true
  · exact (integer_field_survives (by decide)).mpr (by decide) _ _ _ _ doubleIntegers_decimal
      (transactionIdField id) _ _ (remoteStop_created _ _) (remoteStop_carries _) trivial true
  · exact absurd ((integer_field_survives (by decide)).mp h) (by decide)

/--
`2^53 + 1` arrives as `2^53`, and the largest `int` is refused, since it is read as
`2^63`. No other way to write the rounded number helps: it is the same for `2^53` and
`2^53 + 1`.
-/
theorem large_transaction_id_changed :
    (∃ data arr, decimalEncoding.marshalJSON true (remoteStopCall 9007199254740993) = .ok data
      ∧ decimalEncoding.parseRawJsonMessage data = .ok arr
      ∧ remoteStopEndpoint.parseMessage (remoteStopJson id) arr .new
        = .parsed (remoteStopCall 9007199254740992))
    ∧ (∃ data arr err, decimalEncoding.marshalJSON true (remoteStopCall 9223372036854775807)
        = .ok data
      ∧ decimalEncoding.parseRawJsonMessage data = .ok arr
      ∧ remoteStopEndpoint.parseMessage (remoteStopJson id) arr .new = .failed err)
    ∧ ∀ reencode : Int → Int,
      ¬ (decodeInt64 (reencode (roundInt 53 9007199254740992)) = some 9007199254740992
        ∧ decodeInt64 (reencode (roundInt 53 9007199254740993)) = some 9007199254740993) := by
  refine ⟨⟨_, _, rfl, rfl, rfl⟩, ⟨_, _, _, rfl, rfl, rfl⟩, ?_⟩
  rintro reencode ⟨hlow, hhigh⟩
  have hsame : roundInt 53 9007199254740993 = roundInt 53 9007199254740992 := by decide
  rw [hsame, hlow] at hhigh
  exact absurd hhigh (by decide)

end OcppGo.Proof
