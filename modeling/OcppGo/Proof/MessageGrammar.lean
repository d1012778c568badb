import OcppGo.Proof.IncomingCalls
import OcppGo.Proof.MessageRoundTrip
import Mathlib.Algebra.Order.Field.Rat
import Mathlib.Tactic.Linarith
import Mathlib.Tactic.Positivity

/-!
# What the parser accepts

`ParseMessage` checks lengths, element types, ids, profiles, payloads and tags in
three branches, each in an order of its own. Here is the grammar it implements,
one constructor for each kind of frame, and that a message is returned exactly for
the frames of its kind.

The branch is chosen by the first element after its conversion to an integer, so
`2.5` is a `CALL` too, where the grammar asks for the number 2. And a format
violation is a panic on an endpoint whose dialect was never set. The parser agrees
with the grammar on all other arrays, and on no more: `cutType` is what the
conversion makes of an array, and `Misformed` tells which arrays are violations.
-/

namespace OcppGo.Proof

open OcppGo.Ocppj

/-! ## Numbers -/

/-- The number a `float64` stands for. -/
def numberValue (x : Number) : ℚ := x.mantissa * 2 ^ x.exponent

/-- Rounding towards zero finds the integer part of a positive number. -/
theorem trunc_eq_iff {x : Number} {n : Int} (hn : 0 < n) :
    x.trunc = n ↔ (n : ℚ) ≤ numberValue x ∧ numberValue x < n + 1 := by
  unfold Number.trunc numberValue
  split
  · rename_i h
    obtain ⟨k, hk⟩ := Int.eq_ofNat_of_zero_le h
    have hcast : (x.mantissa : ℚ) * 2 ^ x.exponent = ((x.mantissa * (2 ^ k : Nat) : Int) : ℚ) := by
      rw [hk, zpow_natCast]
      push_cast
      rfl
    rw [hcast, hk, Int.toNat_natCast, Int.cast_le, ← Int.cast_one, ← Int.cast_add, Int.cast_lt]
    exact ⟨fun h => by rw [← h]; exact ⟨le_rfl, Int.lt_succ _⟩, fun h => by
      exact le_antisymm (Int.lt_add_one_iff.mp h.2) h.1⟩
  · rename_i h
    obtain ⟨k, hk⟩ : ∃ k : Nat, x.exponent = -(k : Int) := ⟨(-x.exponent).toNat, by omega⟩
    have hpow : (0 : Int) < (2 ^ k : Nat) := by positivity
    have hpowQ : (0 : ℚ) < 2 ^ k := by positivity
    have hvalue : (x.mantissa : ℚ) * 2 ^ x.exponent = x.mantissa / 2 ^ k := by
      rw [hk, zpow_neg, zpow_natCast, div_eq_mul_inv]
    rw [hvalue, le_div_iff₀ hpowQ, div_lt_iff₀ hpowQ, hk, neg_neg, Int.toNat_natCast]
    have hlow : (n : ℚ) * 2 ^ k ≤ x.mantissa ↔ n * (2 ^ k : Nat) ≤ x.mantissa := by
      exact_mod_cast Iff.rfl
    have hhigh : (x.mantissa : ℚ) < (n + 1) * 2 ^ k ↔ x.mantissa < (n + 1) * (2 ^ k : Nat) := by
      exact_mod_cast Iff.rfl
    rw [hlow, hhigh]
    change x.mantissa.tdiv (2 ^ k : Nat) = n ↔ _
    by_cases hm : 0 ≤ x.mantissa
    · rw [Int.tdiv_eq_ediv_of_nonneg hm, ← Int.le_ediv_iff_mul_le hpow,
        ← Int.ediv_lt_iff_lt_mul hpow]
      omega
    · -- a negative number is rounded up, to zero at most
      have hneg := Int.tdiv_nonneg (show 0 ≤ -x.mantissa by omega) hpow.le
      rw [Int.neg_tdiv] at hneg
      have hmul : 0 < n * (2 ^ k : Nat) := Int.mul_pos hn hpow
      constructor
      · intro h; omega
      · intro h; omega

theorem toInt64_eq_iff {x : Number} {n : Int} (hn : 0 < n) (hmax : n < 9223372036854775808) :
    x.toInt64 = n ↔ (n : ℚ) ≤ numberValue x ∧ numberValue x < n + 1 := by
  rw [← trunc_eq_iff hn, Number.toInt64]
  split <;> omega

/-- The first element, if it is a number, is a whole one. -/
def WholeType (arr : List Json) : Prop :=
  ∀ x, arr.head? = some (.num x) → ∃ n : Int, numberValue x = n

/-- A whole number is converted to the type it is. -/
theorem WholeType.toInt64_eq_iff {x : Number} {rest : List Json} {n : Int}
    (h : WholeType (.num x :: rest)) (hn : 2 ≤ n) (hmax : n ≤ 4) :
    x.toInt64 = n ↔ numberValue x = n := by
  rw [Proof.toInt64_eq_iff (by omega) (by omega)]
  constructor
  · rintro ⟨hle, hlt⟩
    obtain ⟨k, hk⟩ := h x rfl
    rw [hk] at hle hlt ⊢
    have hle' : n ≤ k := by exact_mod_cast hle
    have hlt' : k < n + 1 := by exact_mod_cast hlt
    exact congrArg Int.cast (show k = n by omega)
  · intro heq
    rw [heq]
    exact ⟨le_rfl, by linarith⟩

theorem numberValue_ofInt (n : Int) : numberValue (.ofInt n) = n := by
  simp [numberValue, Number.ofInt]

/-- Converting a second time changes nothing. -/
theorem toInt64_ofInt (x : Number) : (Number.ofInt x.toInt64).toInt64 = x.toInt64 := by
  have htrunc : ∀ n : Int, (Number.ofInt n).trunc = n := fun n => by
    simp [Number.trunc, Number.ofInt]
  have hrange : -9223372036854775808 ≤ x.toInt64 ∧ x.toInt64 < 9223372036854775808 := by
    unfold Number.toInt64
    split <;> omega
  rw [Number.toInt64, htrunc, if_pos hrange]

/-- The array with its first element converted, as `MessageType(rawTypeId)` does it. -/
def cutType : List Json → List Json
  | .num x :: rest => .num (.ofInt x.toInt64) :: rest
  | arr => arr

theorem cutType_whole (arr : List Json) : WholeType (cutType arr) := by
  unfold cutType
  split
  · rename_i x rest
    intro y hy
    cases hy
    exact ⟨x.toInt64, numberValue_ofInt _⟩
  · rename_i hnot
    intro y hy
    cases arr with
    | nil => cases hy
    | cons z rest =>
        cases hy
        exact absurd rfl (hnot y rest)

/-- A number that is 2, 3 or 4 is still so afterwards. -/
theorem numberValue_cut {x : Number} {n : Int} (hn : 2 ≤ n) (hmax : n ≤ 4)
    (h : numberValue x = n) : numberValue (.ofInt x.toInt64) = n := by
  have ht : x.toInt64 = n :=
    (toInt64_eq_iff (by omega) (by omega)).mpr (by rw [h]; exact ⟨le_rfl, by linarith⟩)
  rw [numberValue_ofInt, ht]

/-- And if it was whole, it was so before. -/
theorem WholeType.numberValue_eq {x : Number} {rest : List Json} {n : Int}
    (h : WholeType (.num x :: rest)) (hn : 2 ≤ n) (hmax : n ≤ 4)
    (hcut : numberValue (.ofInt x.toInt64) = n) : numberValue x = n := by
  rw [numberValue_ofInt, Int.cast_inj] at hcut
  exact (h.toInt64_eq_iff hn hmax).mp hcut

/-! ## The grammar -/

/-- The feature of this name, in the first profile that has one. -/
def featureNamed (endpoint : Endpoint) (name : String) : Option Feature :=
  (endpoint.getProfileForFeature name).bind fun profile => profile.features name

/-- The element decodes to a payload of the type, which validates. -/
def DecodesAs (lib : Library) (type : GoType) (raw : Json) (p : Payload) : Prop :=
  Endpoint.parseRawJson lib raw type = .ok p ∧ lib.payloadErrors p = []

/-- `[2, id, action, payload]` -/
inductive CallFrame (endpoint : Endpoint) (lib : Library) : List Json → Call → Prop where
  | mk {x : Number} {id action : String} {feature : Feature} {raw : Json} {p : Payload} :
      numberValue x = 2 → Short id → Short action →
      featureNamed endpoint action = some feature → DecodesAs lib feature.requestType raw p →
      CallFrame endpoint lib [.num x, .str id, .str action, raw] ⟨CALL, id, action, p⟩

/-- `[3, pending id, payload, ...]` -/
inductive ResultFrame (endpoint : Endpoint) (lib : Library) (st : ClientState Payload) :
    List Json → CallResult → Prop where
  | mk {x : Number} {request : Payload} {feature : Feature} {raw : Json} {rest : List Json}
      {p : Payload} :
      numberValue x = 3 → Short st.requestID → st.pendingRequest = some request →
      featureNamed endpoint request.featureName = some feature →
      DecodesAs lib feature.responseType raw p →
      ResultFrame endpoint lib st (.num x :: .str st.requestID :: raw :: rest)
        ⟨CALL_RESULT, st.requestID, p⟩

/-- What is read as the description of an error: a text, or nothing. -/
def descriptionOf : Json → String
  | .str v => v
  | _ => ""

/-- `[4, pending id, code, description, details, ...]` -/
inductive ErrorFrame (st : ClientState Payload) : List Json → CallError → Prop where
  | mk {x : Number} {code : ErrorCode} {arr3 : Json} {rest : List Json} :
      numberValue x = 4 → Short st.requestID → code ∈ validErrorCodes →
      ErrorFrame st (.num x :: .str st.requestID :: .str code :: arr3 :: rest)
        ⟨CALL_ERROR, st.requestID, code, descriptionOf arr3, rest.head?⟩

/-- A reply of three elements at least whose id is not the pending one. -/
inductive StrayReply (st : ClientState Payload) : List Json → Prop where
  | mk {x : Number} {id : String} {raw : Json} {rest : List Json} :
      numberValue x = 3 ∨ numberValue x = 4 → id ≠ "" → id ≠ st.requestID →
      StrayReply st (.num x :: .str id :: raw :: rest)

/-- The frames of a message. -/
def IsFrame (endpoint : Endpoint) (lib : Library) (st : ClientState Payload) (arr : List Json) :
    Message → Prop
  | .call c => CallFrame endpoint lib arr c
  | .callResult c => ResultFrame endpoint lib st arr c
  | .callError c => ErrorFrame st arr c

/-- A text that is not empty. -/
def IsId (arr1 : Json) : Prop := ∃ id, arr1 = .str id ∧ id ≠ ""

/-- An array that is not formed like a message of its type. -/
inductive Misformed (endpoint : Endpoint) (lib : Library) (st : ClientState Payload) :
    List Json → Prop where
  | length {arr : List Json} : arr.length < 3 → Misformed endpoint lib st arr
  | typeId {arr0 arr1 arr2 : Json} {rest : List Json} : (∀ x, arr0 ≠ .num x) →
      Misformed endpoint lib st (arr0 :: arr1 :: arr2 :: rest)
  | uniqueId {x : Number} {arr1 arr2 : Json} {rest : List Json} : ¬ IsId arr1 →
      Misformed endpoint lib st (.num x :: arr1 :: arr2 :: rest)
  | callLength {x : Number} {arr1 arr2 : Json} {rest : List Json} : numberValue x = 2 →
      IsId arr1 → rest.length ≠ 1 → Misformed endpoint lib st (.num x :: arr1 :: arr2 :: rest)
  | action {x : Number} {arr1 arr2 raw : Json} : numberValue x = 2 → IsId arr1 →
      (∀ action, arr2 ≠ .str action) → Misformed endpoint lib st [.num x, arr1, arr2, raw]
  | request {x : Number} {arr1 raw : Json} {action text : String} {feature : Feature} :
      numberValue x = 2 → IsId arr1 → featureNamed endpoint action = some feature →
      Endpoint.parseRawJson lib raw feature.requestType = .error text →
      Misformed endpoint lib st [.num x, arr1, .str action, raw]
  | response {x : Number} {raw : Json} {rest : List Json} {request : Payload} {text : String}
      {feature : Feature} :
      numberValue x = 3 → st.requestID ≠ "" → st.pendingRequest = some request →
      featureNamed endpoint request.featureName = some feature →
      Endpoint.parseRawJson lib raw feature.responseType = .error text →
      Misformed endpoint lib st (.num x :: .str st.requestID :: raw :: rest)
  | errorLength {x : Number} {arr2 : Json} : numberValue x = 4 → st.requestID ≠ "" →
      Misformed endpoint lib st [.num x, .str st.requestID, arr2]
  | code {x : Number} {arr2 arr3 : Json} {rest : List Json} : numberValue x = 4 →
      st.requestID ≠ "" → (∀ code, arr2 ≠ .str code) →
      Misformed endpoint lib st (.num x :: .str st.requestID :: arr2 :: arr3 :: rest)

/-- The slot is free, or holds an id and a request of a supported feature. -/
def SlotSupported (endpoint : Endpoint) (st : ClientState Payload) : Prop :=
  st.requestID = "" ∨ ∃ request feature, st.pendingRequest = some request
    ∧ featureNamed endpoint request.featureName = some feature

/-! ## The three branches -/

section

variable {endpoint : Endpoint} {lib : Library} {st : ClientState Payload} {id : String}
  {arr2 : Json} {rest : List Json} {m : Message}

/-- The profile that is found knows the feature. -/
theorem featureNamed_eq {name : String} {profile : Profile}
    (h : endpoint.getProfileForFeature name = some profile) :
    featureNamed endpoint name = profile.features name := by
  rw [featureNamed, h, Option.bind_some]

theorem getPendingRequest_none_iff : st.getPendingRequest id = none ↔ st.requestID ≠ id := by
  unfold ClientState.getPendingRequest
  split <;> simp_all

theorem getPendingRequest_self : st.getPendingRequest st.requestID = some st.pendingRequest := by
  rw [ClientState.getPendingRequest, if_neg (fun hne => hne rfl)]

/-- Not four elements, no action, or a payload that is not of the action's type. -/
def CallMisformed (endpoint : Endpoint) (lib : Library) (arr2 : Json) (rest : List Json) : Prop :=
  rest.length ≠ 1
    ∨ (∃ raw, rest = [raw] ∧ ∀ action, arr2 ≠ .str action)
    ∨ ∃ raw action feature text, rest = [raw] ∧ arr2 = .str action
      ∧ featureNamed endpoint action = some feature
      ∧ Endpoint.parseRawJson lib raw feature.requestType = .error text

/-- How the `CALL` branch ends. -/
inductive CallOutcome (endpoint : Endpoint) (lib : Library) (id : String) (arr2 : Json)
    (rest : List Json) (r : Parsed) : Prop where
  | violation (d : String) : CallMisformed endpoint lib arr2 rest →
      r = endpoint.formatViolation d id → CallOutcome endpoint lib id arr2 rest r
  | failed (err : OcppError) : isErrorCodeValid err.code = true → r = .failed err →
      CallOutcome endpoint lib id arr2 rest r
  | parsed (action : String) (raw : Json) (feature : Feature) (p : Payload) :
      arr2 = .str action → rest = [raw] → Short id → Short action →
      featureNamed endpoint action = some feature → DecodesAs lib feature.requestType raw p →
      r = .parsed (.call ⟨CALL, id, action, p⟩) → CallOutcome endpoint lib id arr2 rest r

/-- How the `CALL_RESULT` branch ends. -/
inductive ResultOutcome (endpoint : Endpoint) (lib : Library) (id : String) (arr2 : Json)
    (st : ClientState Payload) (r : Parsed) : Prop where
  | discarded : st.requestID ≠ id → r = .discarded → ResultOutcome endpoint lib id arr2 st r
  /-- The pending request is nil, or of no profile. -/
  | panicked : st.requestID = id →
      (∀ request, st.pendingRequest = some request →
        featureNamed endpoint request.featureName = none) →
      r = .panicked → ResultOutcome endpoint lib id arr2 st r
  | violation (d : String) (request : Payload) (feature : Feature) (text : String) :
      st.requestID = id → st.pendingRequest = some request →
      featureNamed endpoint request.featureName = some feature →
      Endpoint.parseRawJson lib arr2 feature.responseType = .error text →
      r = endpoint.formatViolation d id → ResultOutcome endpoint lib id arr2 st r
  | failed (err : OcppError) : st.requestID = id → isErrorCodeValid err.code = true →
      r = .failed err → ResultOutcome endpoint lib id arr2 st r
  | parsed (request : Payload) (feature : Feature) (p : Payload) :
      st.requestID = id → st.pendingRequest = some request → Short id →
      featureNamed endpoint request.featureName = some feature →
      DecodesAs lib feature.responseType arr2 p →
      r = .parsed (.callResult ⟨CALL_RESULT, id, p⟩) → ResultOutcome endpoint lib id arr2 st r

/-- How the `CALL_ERROR` branch ends. -/
inductive ErrorOutcome (endpoint : Endpoint) (id : String) (arr2 : Json) (rest : List Json)
    (st : ClientState Payload) (r : Parsed) : Prop where
  | discarded : st.requestID ≠ id → r = .discarded → ErrorOutcome endpoint id arr2 rest st r
  | violation (d i : String) : st.requestID = id → (rest ≠ [] → ∀ code, arr2 ≠ .str code) →
      r = endpoint.formatViolation d i → ErrorOutcome endpoint id arr2 rest st r
  | failed (err : OcppError) : st.requestID = id → isErrorCodeValid err.code = true →
      r = .failed err → ErrorOutcome endpoint id arr2 rest st r
  | parsed (code : ErrorCode) (arr3 : Json) (rest' : List Json) :
      st.requestID = id → arr2 = .str code → rest = arr3 :: rest' → Short id →
      code ∈ validErrorCodes →
      r = .parsed (.callError ⟨CALL_ERROR, id, code, descriptionOf arr3, rest'.head?⟩) →
      ErrorOutcome endpoint id arr2 rest st r

theorem parseCall_outcome (endpoint : Endpoint) (lib : Library) (id : String) (arr2 : Json)
    (rest : List Json) :
    CallOutcome endpoint lib id arr2 rest (endpoint.parseCall lib id arr2 rest) := by
  unfold Endpoint.parseCall
  split
  · rename_i raw
    split
    · rename_i action
      split
      · exact .failed _ (show isErrorCodeValid NotSupported = true by decide) rfl
      · rename_i profile hprofile
        obtain ⟨feature, hfeature⟩ := feature_of_profile hprofile
        have hnamed := (featureNamed_eq hprofile).trans hfeature
        rw [Profile.parseRequest, hfeature]
        split
        · rename_i text htext
          exact .violation _ (Or.inr (Or.inr ⟨raw, action, feature, text, rfl, rfl, hnamed, htext⟩))
            rfl
        · rename_i p hp
          dsimp only
          split
          · rename_i hvalid
            obtain ⟨hid, haction, hpayload⟩ := call_validate_iff.mp hvalid
            exact .parsed action raw feature p rfl rfl hid haction hnamed ⟨hp, hpayload⟩ rfl
          · exact .failed _ (errorFromValidation_code _ _ _) rfl
    · rename_i hnot
      exact .violation _ (Or.inr (Or.inl ⟨raw, rfl, hnot⟩)) rfl
  · rename_i hnot
    refine .violation _ (Or.inl fun hlen => ?_) rfl
    obtain ⟨raw, hraw⟩ := List.length_eq_one_iff.mp hlen
    exact hnot raw hraw

theorem parseCallResult_outcome (endpoint : Endpoint) (lib : Library) (id : String) (arr2 : Json)
    (st : ClientState Payload) :
    ResultOutcome endpoint lib id arr2 st (endpoint.parseCallResult lib id arr2 st) := by
  unfold Endpoint.parseCallResult
  split
  · rename_i hget
    exact .discarded (getPendingRequest_none_iff.mp hget) rfl
  · rename_i hget
    obtain ⟨hid, hnil⟩ := ClientState.getPendingRequest_eq_some hget
    exact .panicked hid (by simp [hnil]) rfl
  · rename_i request hget
    obtain ⟨hid, hrequest⟩ := ClientState.getPendingRequest_eq_some hget
    split
    · rename_i hprofile
      refine .panicked hid (fun request' h => ?_) rfl
      rw [hrequest] at h
      cases h
      rw [featureNamed, hprofile, Option.bind_none]
    · rename_i profile hprofile
      obtain ⟨feature, hfeature⟩ := feature_of_profile hprofile
      have hnamed := (featureNamed_eq hprofile).trans hfeature
      rw [Profile.parseResponse, hfeature]
      split
      · rename_i text htext
        exact .violation _ request feature text hid hrequest hnamed htext rfl
      · rename_i p hp
        dsimp only
        split
        · rename_i hvalid
          obtain ⟨hshort, hpayload⟩ := callResult_validate_iff.mp hvalid
          exact .parsed request feature p hid hrequest hshort hnamed ⟨hp, hpayload⟩ rfl
        · exact .failed _ hid (errorFromValidation_code _ _ _) rfl

theorem parseCallError_outcome (endpoint : Endpoint) (lib : Library) (id : String) (arr2 : Json)
    (rest : List Json) (st : ClientState Payload) :
    ErrorOutcome endpoint id arr2 rest st (endpoint.parseCallError lib id arr2 rest st) := by
  unfold Endpoint.parseCallError
  split
  · rename_i hget
    exact .discarded (getPendingRequest_none_iff.mp hget) rfl
  · rename_i request hget
    obtain ⟨hid, _⟩ := ClientState.getPendingRequest_eq_some hget
    split
    · exact .violation _ _ hid (fun h => absurd rfl h) rfl
    · rename_i arr3 rest'
      split
      · rename_i code
        dsimp only
        split
        · rename_i hvalid
          obtain ⟨hshort, hcode⟩ := callError_validate_iff.mp hvalid
          exact .parsed code arr3 rest' hid rfl rfl hshort (List.contains_iff_mem.mp hcode) rfl
        · exact .failed _ hid (errorFromValidation_code _ _ _) rfl
      · rename_i hnot
        exact .violation _ _ hid (fun _ => hnot) rfl

/-! ## Frames in the grammar are parsed -/

theorem parseCall_eq {action : String} {raw : Json} {feature : Feature} {p : Payload}
    (hid : Short id) (haction : Short action)
    (hfeature : featureNamed endpoint action = some feature)
    (hp : DecodesAs lib feature.requestType raw p) :
    endpoint.parseCall lib id (.str action) [raw] = .parsed (.call ⟨CALL, id, action, p⟩) := by
  obtain ⟨profile, hprofile, hfeature⟩ := Option.bind_eq_some_iff.mp hfeature
  simp only [Endpoint.parseCall, hprofile, Profile.parseRequest, hfeature, hp.1,
    call_validate_iff.mpr ⟨hid, haction, hp.2⟩]

theorem parseCallResult_eq {request : Payload} {feature : Feature} {p : Payload}
    (hid : Short st.requestID) (hrequest : st.pendingRequest = some request)
    (hfeature : featureNamed endpoint request.featureName = some feature)
    (hp : DecodesAs lib feature.responseType arr2 p) :
    endpoint.parseCallResult lib st.requestID arr2 st
      = .parsed (.callResult ⟨CALL_RESULT, st.requestID, p⟩) := by
  obtain ⟨profile, hprofile, hfeature⟩ := Option.bind_eq_some_iff.mp hfeature
  simp only [Endpoint.parseCallResult, getPendingRequest_self, hrequest, hprofile,
    Profile.parseResponse, hfeature, hp.1, callResult_validate_iff.mpr ⟨hid, hp.2⟩]

theorem parseCallError_eq {code : ErrorCode} {arr3 : Json} (hid : Short st.requestID)
    (hcode : code ∈ validErrorCodes) :
    endpoint.parseCallError lib st.requestID (.str code) (arr3 :: rest) st
      = .parsed (.callError
        ⟨CALL_ERROR, st.requestID, code, descriptionOf arr3, rest.head?⟩) := by
  simp only [Endpoint.parseCallError, getPendingRequest_self,
    callError_validate_iff.mpr ⟨hid, List.contains_iff_mem.mpr hcode⟩]
  rfl

/-! ## The whole parser -/

/-- A frame without a number and an id in front is a format violation. -/
theorem parseMessage_header (endpoint : Endpoint) (lib : Library) (arr : List Json)
    (st : ClientState Payload) :
    (Misformed endpoint lib st arr
        ∧ ∃ d i, endpoint.parseMessage lib arr st = endpoint.formatViolation d i)
      ∨ ∃ x id arr2 rest, arr = .num x :: .str id :: arr2 :: rest ∧ id ≠ "" := by
  unfold Endpoint.parseMessage
  split
  · rename_i arr0 arr1 arr2 rest
    split
    · rename_i x
      split
      · rename_i id
        split
        · rename_i hid
          exact Or.inl ⟨.uniqueId (by rintro ⟨_, h, hne⟩; cases h; exact hne hid), _, _, rfl⟩
        · rename_i hid
          exact Or.inr ⟨x, id, arr2, rest, rfl, hid⟩
      · rename_i hnot
        exact Or.inl ⟨.uniqueId (by rintro ⟨id, h, _⟩; exact hnot id h), _, _, rfl⟩
    · rename_i hnot
      exact Or.inl ⟨.typeId hnot, _, _, rfl⟩
  · rename_i hnot
    refine Or.inl ⟨.length ?_, _, _, rfl⟩
    rcases arr with _ | ⟨a, _ | ⟨b, _ | ⟨c, rest⟩⟩⟩
    · decide
    · exact show 1 < 3 by decide
    · exact show 2 < 3 by decide
    · exact absurd rfl (hnot a b c rest)

/-- With them, the type id selects the branch. -/
theorem parseMessage_eq {x : Number} (hid : id ≠ "") :
    endpoint.parseMessage lib (.num x :: .str id :: arr2 :: rest) st
      = if x.toInt64 = CALL then endpoint.parseCall lib id arr2 rest
        else if x.toInt64 = CALL_RESULT then endpoint.parseCallResult lib id arr2 st
        else if x.toInt64 = CALL_ERROR then endpoint.parseCallError lib id arr2 rest st
        else .failed (newError MessageTypeNotSupported
          ("Invalid message type ID " ++ toString x.toInt64) id) := by
  rw [Endpoint.parseMessage, if_neg hid]

/-- `ParseMessage` looks at the type only after its conversion. -/
theorem parseMessage_cutType (endpoint : Endpoint) (lib : Library) (arr : List Json)
    (st : ClientState Payload) :
    endpoint.parseMessage lib (cutType arr) st = endpoint.parseMessage lib arr st := by
  unfold cutType
  split
  · rename_i x rest
    rcases rest with _ | ⟨arr1, _ | ⟨arr2, rest⟩⟩
    · rfl
    · rfl
    · simp only [Endpoint.parseMessage, toInt64_ofInt]
  · rfl

/-- How `ParseMessage` ends, for a frame of a whole type. -/
inductive FrameOutcome (endpoint : Endpoint) (lib : Library) (st : ClientState Payload)
    (arr : List Json) (r : Parsed) : Prop where
  | violation (d i : String) : Misformed endpoint lib st arr → r = endpoint.formatViolation d i →
      FrameOutcome endpoint lib st arr r
  | failed (err : OcppError) : r = .failed err → FrameOutcome endpoint lib st arr r
  | panicked : st.requestID ≠ "" →
      (∀ request, st.pendingRequest = some request →
        featureNamed endpoint request.featureName = none) →
      r = .panicked → FrameOutcome endpoint lib st arr r
  | discarded : StrayReply st arr → r = .discarded → FrameOutcome endpoint lib st arr r
  | call (c : Call) : CallFrame endpoint lib arr c → r = .parsed (.call c) →
      FrameOutcome endpoint lib st arr r
  | callResult (c : CallResult) : ResultFrame endpoint lib st arr c →
      r = .parsed (.callResult c) → FrameOutcome endpoint lib st arr r
  | callError (c : CallError) : ErrorFrame st arr c → r = .parsed (.callError c) →
      FrameOutcome endpoint lib st arr r

variable {arr : List Json}

theorem parseMessage_outcome (endpoint : Endpoint) (lib : Library) (st : ClientState Payload)
    (hwhole : WholeType arr) :
    FrameOutcome endpoint lib st arr (endpoint.parseMessage lib arr st) := by
  rcases parseMessage_header endpoint lib arr st with
    ⟨hbroken, d, i, hd⟩ | ⟨x, id, arr2, rest, rfl, hid⟩
  · exact .violation d i hbroken hd
  have hvalue : ∀ n, 2 ≤ n → n ≤ 4 → x.toInt64 = n → numberValue x = n :=
    fun n hlow hhigh h => (hwhole.toInt64_eq_iff hlow hhigh).mp h
  rw [parseMessage_eq hid]
  split
  · rename_i ht
    have hx := hvalue 2 (by decide) (by decide) ht
    cases parseCall_outcome endpoint lib id arr2 rest with
    | violation d hbroken h =>
        refine .violation d id ?_ h
        rcases hbroken with hlen | ⟨raw, rfl, hnot⟩ | ⟨raw, action, feature, text, rfl, rfl, hf, ht⟩
        · exact .callLength hx ⟨id, rfl, hid⟩ hlen
        · exact .action hx ⟨id, rfl, hid⟩ hnot
        · exact .request hx ⟨id, rfl, hid⟩ hf ht
    | failed err _ h => exact .failed err h
    | parsed action raw feature p harr2 hrest hshort haction hfeature hp h =>
        subst harr2 hrest
        exact .call _ (.mk hx hshort haction hfeature hp) h
  split
  · rename_i ht
    have hx := hvalue 3 (by decide) (by decide) ht
    cases parseCallResult_outcome endpoint lib id arr2 st with
    | discarded hne h => exact .discarded (.mk (Or.inl hx) hid hne.symm) h
    | panicked hpending hnone h => exact .panicked (hpending ▸ hid) hnone h
    | violation d request feature text hpending hrequest hfeature htext h =>
        subst hpending
        exact .violation d _ (.response hx hid hrequest hfeature htext) h
    | failed err _ _ h => exact .failed err h
    | parsed request feature p hpending hrequest hshort hfeature hp h =>
        subst hpending
        exact .callResult _ (.mk hx hshort hrequest hfeature hp) h
  split
  · rename_i ht
    have hx := hvalue 4 (by decide) (by decide) ht
    cases parseCallError_outcome endpoint lib id arr2 rest st with
    | discarded hne h => exact .discarded (.mk (Or.inr hx) hid hne.symm) h
    | violation d i hpending hnot h =>
        subst hpending
        refine .violation d i ?_ h
        cases rest with
        | nil => exact .errorLength hx hid
        | cons arr3 rest => exact .code hx hid (hnot (by simp))
    | failed err _ _ h => exact .failed err h
    | parsed code arr3 rest' hpending harr2 hrest hshort hcode h =>
        subst hpending harr2 hrest
        exact .callError _ (.mk hx hshort hcode) h
  · exact .failed _ rfl

/-! ### Frames of the grammar -/

theorem CallFrame.parsed {c : Call} (hwhole : WholeType arr) (h : CallFrame endpoint lib arr c) :
    endpoint.parseMessage lib arr st = .parsed (.call c) := by
  obtain ⟨hx, hshort, haction, hfeature, hp⟩ := h
  have ht := (hwhole.toInt64_eq_iff (n := 2) (by decide) (by decide)).mpr hx
  rw [parseMessage_eq hshort.1, ht, if_pos (by decide)]
  exact parseCall_eq hshort haction hfeature hp

theorem ResultFrame.parsed {c : CallResult} (hwhole : WholeType arr)
    (h : ResultFrame endpoint lib st arr c) :
    endpoint.parseMessage lib arr st = .parsed (.callResult c) := by
  obtain ⟨hx, hshort, hrequest, hfeature, hp⟩ := h
  have ht := (hwhole.toInt64_eq_iff (n := 3) (by decide) (by decide)).mpr hx
  rw [parseMessage_eq hshort.1, ht, if_neg (by decide), if_pos (by decide)]
  exact parseCallResult_eq hshort hrequest hfeature hp

theorem ErrorFrame.parsed {c : CallError} (hwhole : WholeType arr) (h : ErrorFrame st arr c) :
    endpoint.parseMessage lib arr st = .parsed (.callError c) := by
  obtain ⟨hx, hshort, hcode⟩ := h
  have ht := (hwhole.toInt64_eq_iff (n := 4) (by decide) (by decide)).mpr hx
  rw [parseMessage_eq hshort.1, ht, if_neg (by decide), if_neg (by decide), if_pos (by decide)]
  exact parseCallError_eq hshort hcode

theorem StrayReply.discarded (hwhole : WholeType arr) (h : StrayReply st arr) :
    endpoint.parseMessage lib arr st = .discarded := by
  obtain ⟨hx, hid, hne⟩ := h
  have hget := getPendingRequest_none_iff.mpr hne.symm
  rcases hx with hx | hx
  · have ht := (hwhole.toInt64_eq_iff (n := 3) (by decide) (by decide)).mpr hx
    rw [parseMessage_eq hid, ht, if_neg (by decide), if_pos (by decide)]
    simp only [Endpoint.parseCallResult, hget]
  · have ht := (hwhole.toInt64_eq_iff (n := 4) (by decide) (by decide)).mpr hx
    rw [parseMessage_eq hid, ht, if_neg (by decide), if_neg (by decide), if_pos (by decide)]
    simp only [Endpoint.parseCallError, hget]

/-- An array that is not formed like a message of its type is a format violation. -/
theorem Misformed.violation (hwhole : WholeType arr) (h : Misformed endpoint lib st arr) :
    ∃ d i, endpoint.parseMessage lib arr st = endpoint.formatViolation d i := by
  cases h with
  | length hlen =>
      rcases arr with _ | ⟨a, _ | ⟨b, _ | ⟨c, rest⟩⟩⟩
      · exact ⟨_, _, rfl⟩
      · exact ⟨_, _, rfl⟩
      · exact ⟨_, _, rfl⟩
      · simp only [List.length_cons] at hlen
        omega
  | @typeId arr0 _ _ _ hnot =>
      cases arr0 with
      | num x => exact absurd rfl (hnot x)
      | _ => exact ⟨_, _, rfl⟩
  | @uniqueId x arr1 _ _ hnot =>
      cases arr1 with
      | str id =>
          have hid : id = "" := by
            by_contra hne
            exact hnot ⟨id, rfl, hne⟩
          exact ⟨_, _, by rw [Endpoint.parseMessage, if_pos hid]⟩
      | _ => exact ⟨_, _, rfl⟩
  | @callLength x arr1 arr2 rest hx hid hlen =>
      obtain ⟨id, rfl, hid⟩ := hid
      have ht := (hwhole.toInt64_eq_iff (n := 2) (by decide) (by decide)).mpr hx
      rw [parseMessage_eq hid, ht, if_pos (by decide)]
      unfold Endpoint.parseCall
      split
      · exact absurd rfl hlen
      · exact ⟨_, _, rfl⟩
  | @action x arr1 arr2 raw hx hid hnot =>
      obtain ⟨id, rfl, hid⟩ := hid
      have ht := (hwhole.toInt64_eq_iff (n := 2) (by decide) (by decide)).mpr hx
      rw [parseMessage_eq hid, ht, if_pos (by decide)]
      cases arr2 with
      | str action => exact absurd rfl (hnot action)
      | _ => exact ⟨_, _, rfl⟩
  | @request x arr1 raw action text feature hx hid hfeature htext =>
      obtain ⟨id, rfl, hid⟩ := hid
      have ht := (hwhole.toInt64_eq_iff (n := 2) (by decide) (by decide)).mpr hx
      obtain ⟨profile, hprofile, hfeature⟩ := Option.bind_eq_some_iff.mp hfeature
      rw [parseMessage_eq hid, ht, if_pos (by decide)]
      simp only [Endpoint.parseCall, hprofile, Profile.parseRequest, hfeature, htext]
      exact ⟨_, _, rfl⟩
  | @response x raw rest request text feature hx hid hrequest hfeature htext =>
      have ht := (hwhole.toInt64_eq_iff (n := 3) (by decide) (by decide)).mpr hx
      obtain ⟨profile, hprofile, hfeature⟩ := Option.bind_eq_some_iff.mp hfeature
      rw [parseMessage_eq hid, ht, if_neg (by decide), if_pos (by decide)]
      simp only [Endpoint.parseCallResult, getPendingRequest_self, hrequest, hprofile,
        Profile.parseResponse, hfeature, htext]
      exact ⟨_, _, rfl⟩
  | @errorLength x arr2 hx hid =>
      have ht := (hwhole.toInt64_eq_iff (n := 4) (by decide) (by decide)).mpr hx
      rw [parseMessage_eq hid, ht, if_neg (by decide), if_neg (by decide), if_pos (by decide)]
      simp only [Endpoint.parseCallError, getPendingRequest_self]
      exact ⟨_, _, rfl⟩
  | @code x arr2 arr3 rest hx hid hnot =>
      have ht := (hwhole.toInt64_eq_iff (n := 4) (by decide) (by decide)).mpr hx
      rw [parseMessage_eq hid, ht, if_neg (by decide), if_neg (by decide), if_pos (by decide)]
      simp only [Endpoint.parseCallError, getPendingRequest_self]
      cases arr2 with
      | str code => exact absurd rfl (hnot code)
      | _ => exact ⟨_, _, rfl⟩

/-- Without a dialect, a format violation is a panic; with one, it is an error. -/
theorem formatViolation_eq (endpoint : Endpoint) (d i : String) :
    (endpoint.dialect = .unset ∧ endpoint.formatViolation d i = .panicked)
      ∨ (endpoint.dialect ≠ .unset ∧ ∃ err, endpoint.formatViolation d i = .failed err) := by
  unfold Endpoint.formatViolation Endpoint.formatErrorType
  cases hd : endpoint.dialect with
  | unset => exact Or.inl ⟨rfl, rfl⟩
  | V16 => exact Or.inr ⟨by simp, _, rfl⟩
  | V2 => exact Or.inr ⟨by simp, _, rfl⟩

/-! ### The converted array -/

theorem parseMessage_parsed_iff (endpoint : Endpoint) (lib : Library) (st : ClientState Payload)
    (arr : List Json) (m : Message) :
    endpoint.parseMessage lib arr st = .parsed m ↔
      IsFrame endpoint lib st (cutType arr) m := by
  have hwhole := cutType_whole arr
  rw [← parseMessage_cutType]
  constructor
  · intro h
    have hout := parseMessage_outcome endpoint lib st hwhole
    rw [h] at hout
    cases hout with
    | violation d i _ hr => exact absurd hr.symm Endpoint.formatViolation_ne_parsed
    | failed err hr => cases hr
    | panicked _ _ hr => cases hr
    | discarded _ hr => cases hr
    | call c hframe hr => cases hr; exact hframe
    | callResult c hframe hr => cases hr; exact hframe
    | callError c hframe hr => cases hr; exact hframe
  · intro h
    cases m with
    | call c => exact CallFrame.parsed hwhole h
    | callResult c => exact ResultFrame.parsed hwhole h
    | callError c => exact ErrorFrame.parsed hwhole h

theorem parseMessage_discarded_iff :
    endpoint.parseMessage lib arr st = .discarded ↔ StrayReply st (cutType arr) := by
  have hwhole := cutType_whole arr
  rw [← parseMessage_cutType]
  constructor
  · intro h
    have hout := parseMessage_outcome endpoint lib st hwhole
    rw [h] at hout
    cases hout with
    | violation d i _ hr =>
        rcases formatViolation_eq endpoint d i with ⟨_, hv⟩ | ⟨_, err, hv⟩
        · rw [hv] at hr; cases hr
        · rw [hv] at hr; cases hr
    | discarded hstray _ => exact hstray
    | failed err hr => cases hr
    | panicked _ _ hr => cases hr
    | call c _ hr => cases hr
    | callResult c _ hr => cases hr
    | callError c _ hr => cases hr
  · exact StrayReply.discarded hwhole

/-- A frame is one after the conversion too, and its type is a whole number. -/
theorem IsFrame.cutType (h : IsFrame endpoint lib st arr m) :
    IsFrame endpoint lib st (cutType arr) m ∧ WholeType arr := by
  cases m with
  | call c =>
      obtain ⟨hx, hshort, haction, hfeature, hp⟩ := h
      exact ⟨.mk (numberValue_cut (n := 2) (by decide) (by decide) hx) hshort haction hfeature hp,
        fun y hy => by cases hy; exact ⟨2, hx⟩⟩
  | callResult c =>
      obtain ⟨hx, hshort, hrequest, hfeature, hp⟩ := h
      exact ⟨.mk (numberValue_cut (n := 3) (by decide) (by decide) hx) hshort hrequest hfeature hp,
        fun y hy => by cases hy; exact ⟨3, hx⟩⟩
  | callError c =>
      obtain ⟨hx, hshort, hcode⟩ := h
      exact ⟨.mk (numberValue_cut (n := 4) (by decide) (by decide) hx) hshort hcode,
        fun y hy => by cases hy; exact ⟨4, hx⟩⟩

theorem StrayReply.cutType (h : StrayReply st arr) :
    StrayReply st (cutType arr) ∧ WholeType arr := by
  obtain ⟨hx, hid, hne⟩ := h
  rcases hx with hx | hx
  · exact ⟨.mk (Or.inl (numberValue_cut (n := 3) (by decide) (by decide) hx)) hid hne,
      fun y hy => by cases hy; exact ⟨3, hx⟩⟩
  · exact ⟨.mk (Or.inr (numberValue_cut (n := 4) (by decide) (by decide) hx)) hid hne,
      fun y hy => by cases hy; exact ⟨4, hx⟩⟩

/-- An array of a whole type was a frame before the conversion. -/
theorem IsFrame.of_cutType (hwhole : WholeType arr)
    (h : IsFrame endpoint lib st (Proof.cutType arr) m) : IsFrame endpoint lib st arr m := by
  unfold Proof.cutType at h
  split at h
  · cases m with
    | call c =>
        cases h with
        | mk hx hshort haction hfeature hp =>
            have hx := hwhole.numberValue_eq (n := 2) (by decide) (by decide) hx
            exact .mk hx hshort haction hfeature hp
    | callResult c =>
        cases h with
        | mk hx hshort hrequest hfeature hp =>
            have hx := hwhole.numberValue_eq (n := 3) (by decide) (by decide) hx
            exact .mk hx hshort hrequest hfeature hp
    | callError c =>
        cases h with
        | mk hx hshort hcode =>
            exact .mk (hwhole.numberValue_eq (n := 4) (by decide) (by decide) hx) hshort hcode
  · exact h

theorem StrayReply.of_cutType (hwhole : WholeType arr) (h : StrayReply st (Proof.cutType arr)) :
    StrayReply st arr := by
  unfold Proof.cutType at h
  split at h
  · cases h with
    | mk hx hid hne =>
        rcases hx with hx | hx
        · exact .mk (Or.inl (hwhole.numberValue_eq (n := 3) (by decide) (by decide) hx)) hid hne
        · exact .mk (Or.inr (hwhole.numberValue_eq (n := 4) (by decide) (by decide) hx)) hid hne
  · exact h

/-- What the conversion turns into a frame, or a reply under another id, was of a whole type. -/
def TypeAsSent (endpoint : Endpoint) (lib : Library) (st : ClientState Payload)
    (arr : List Json) : Prop :=
  (∃ m, IsFrame endpoint lib st (cutType arr) m) ∨ StrayReply st (cutType arr) → WholeType arr

/-- Under that condition a message is returned for its frames. -/
theorem TypeAsSent.parsed_iff (h : TypeAsSent endpoint lib st arr) (m : Message) :
    endpoint.parseMessage lib arr st = .parsed m ↔ IsFrame endpoint lib st arr m := by
  rw [parseMessage_parsed_iff]
  exact ⟨fun hm => .of_cutType (h (Or.inl ⟨m, hm⟩)) hm, fun hm => hm.cutType.1⟩

theorem TypeAsSent.discarded_iff (h : TypeAsSent endpoint lib st arr) :
    endpoint.parseMessage lib arr st = .discarded ↔ StrayReply st arr := by
  rw [parseMessage_discarded_iff]
  exact ⟨fun hs => .of_cutType (h (Or.inr hs)) hs, fun hs => hs.cutType.1⟩

/-- What is neither returned nor discarded is an error, unless the dialect is missing. -/
theorem parseMessage_failed (hslot : SlotSupported endpoint st)
    (hdialect : endpoint.dialect = .unset → ¬ Misformed endpoint lib st (cutType arr))
    (hparsed : ∀ m, endpoint.parseMessage lib arr st ≠ .parsed m)
    (hdiscarded : endpoint.parseMessage lib arr st ≠ .discarded) :
    ∃ err, endpoint.parseMessage lib arr st = .failed err := by
  rw [← parseMessage_cutType] at hdiscarded ⊢
  simp only [← parseMessage_cutType _ _ arr] at hparsed
  cases parseMessage_outcome endpoint lib st (cutType_whole arr) with
  | violation d i hbroken hr =>
      rcases formatViolation_eq endpoint d i with ⟨hunset, _⟩ | ⟨_, err, herr⟩
      · exact absurd hbroken (hdialect hunset)
      · exact ⟨err, hr.trans herr⟩
  | failed err hr => exact ⟨err, hr⟩
  | panicked hpending hnone _ =>
      obtain ⟨request, feature, hrequest, hfeature⟩ := hslot.resolve_left hpending
      rw [hnone request hrequest] at hfeature
      cases hfeature
  | discarded _ hr => exact absurd hr hdiscarded
  | call c _ hr => exact absurd hr (hparsed _)
  | callResult c _ hr => exact absurd hr (hparsed _)
  | callError c _ hr => exact absurd hr (hparsed _)

/--
**When the parser accepts the grammar and nothing else.** A message is returned for the
frames of its kind, with what the frame says; replies under other ids are discarded, and
anything else is an error. This is so exactly if no fraction is cut off that makes the
array a frame or such a reply, and the dialect is set where the format is violated.
-/
theorem parser_accepts_grammar (hslot : SlotSupported endpoint st) :
    ((∀ c, endpoint.parseMessage lib arr st = .parsed (.call c) ↔ CallFrame endpoint lib arr c) ∧
      (∀ c, endpoint.parseMessage lib arr st = .parsed (.callResult c) ↔
        ResultFrame endpoint lib st arr c) ∧
      (∀ c, endpoint.parseMessage lib arr st = .parsed (.callError c) ↔ ErrorFrame st arr c) ∧
      (endpoint.parseMessage lib arr st = .discarded ↔ StrayReply st arr) ∧
      ((∀ m, endpoint.parseMessage lib arr st ≠ .parsed m) → ¬ StrayReply st arr →
        ∃ err, endpoint.parseMessage lib arr st = .failed err))
    ↔ TypeAsSent endpoint lib st arr ∧
      (endpoint.dialect = .unset → ¬ Misformed endpoint lib st (cutType arr)) := by
  constructor
  · rintro ⟨hcall, hresult, herror, hstray, hfailed⟩
    have hframe : ∀ m, endpoint.parseMessage lib arr st = .parsed m →
        IsFrame endpoint lib st arr m := by
      intro m hm
      cases m with
      | call c => exact (hcall c).mp hm
      | callResult c => exact (hresult c).mp hm
      | callError c => exact (herror c).mp hm
    constructor
    · rintro (⟨m, hm⟩ | hs)
      · exact (hframe m ((parseMessage_parsed_iff endpoint lib st arr m).mpr hm)).cutType.2
      · exact (hstray.mp (parseMessage_discarded_iff.mpr hs)).cutType.2
    · intro hunset hbroken
      -- the violation is a panic, and no error
      obtain ⟨d, i, hviolation⟩ := hbroken.violation (cutType_whole arr)
      rw [parseMessage_cutType] at hviolation
      have hpanic : endpoint.parseMessage lib arr st = .panicked := by
        rcases formatViolation_eq endpoint d i with ⟨_, hv⟩ | ⟨hset, _⟩
        · exact hviolation.trans hv
        · exact absurd hunset hset
      obtain ⟨err, herr⟩ := hfailed (by simp [hpanic])
        (fun hs => absurd (hpanic.symm.trans (hstray.mpr hs)) (by simp))
      exact absurd (hpanic.symm.trans herr) (by simp)
  · rintro ⟨htype, hdialect⟩
    exact ⟨fun c => htype.parsed_iff (.call c), fun c => htype.parsed_iff (.callResult c),
      fun c => htype.parsed_iff (.callError c), htype.discarded_iff, fun hparsed hs =>
        parseMessage_failed hslot hdialect hparsed (fun hd => hs (htype.discarded_iff.mp hd))⟩

end

/-- `[n,"1","Heartbeat",{}]` -/
def heartbeatFrame (n : Number) : List Json :=
  [.num n, .str "1", .str heartbeat.name, .obj []]

/-- An id of 37 characters. -/
def longId : String := "0123456789abcdef0123456789abcdef01234"

/--
While a heartbeat of one's own is pending, a heartbeat is parsed, and is a frame. The
condition does not hold of one with the type 2.5.
-/
theorem heartbeat_in_grammar :
    heartbeatEndpoint.parseMessage heartbeatJson (heartbeatFrame (.ofInt 2)) awaitingHeartbeat
        = .parsed (.call ⟨CALL, "1", "Heartbeat", heartbeatRequest⟩)
      ∧ CallFrame heartbeatEndpoint heartbeatJson (heartbeatFrame (.ofInt 2))
        ⟨CALL, "1", "Heartbeat", heartbeatRequest⟩
      ∧ ¬ (TypeAsSent heartbeatEndpoint heartbeatJson awaitingHeartbeat (heartbeatFrame ⟨5, -1⟩)
        ∧ (heartbeatEndpoint.dialect = .unset →
          ¬ Misformed heartbeatEndpoint heartbeatJson awaitingHeartbeat
            (cutType (heartbeatFrame ⟨5, -1⟩)))) := by
  have hslot : SlotSupported heartbeatEndpoint awaitingHeartbeat :=
    Or.inr ⟨heartbeatRequest, heartbeat, rfl, rfl⟩
  have hwhole : WholeType (heartbeatFrame (.ofInt 2)) := by
    intro x hx
    cases hx
    exact ⟨2, numberValue_ofInt 2⟩
  have hgrammar : ∀ n, _ ↔ _ := fun n => @parser_accepts_grammar heartbeatEndpoint heartbeatJson
    awaitingHeartbeat (heartbeatFrame n) hslot
  have hvalue : numberValue ⟨5, -1⟩ = 5 / 2 := by norm_num [numberValue]
  refine ⟨rfl, (((hgrammar _).mpr ⟨fun _ => hwhole, fun h => absurd h (by decide)⟩).1 _).mp rfl,
    fun hcond => ?_⟩
  cases (((hgrammar ⟨5, -1⟩).mpr hcond).1 ⟨CALL, "1", "Heartbeat", heartbeatRequest⟩).mp rfl with
  | mk hx =>
      rw [hvalue] at hx
      norm_num at hx

/--
The type 2.5 is taken for 2, and an endpoint without a dialect panics over a frame
that is too short.
-/
theorem fractional_type_parsed :
    heartbeatEndpoint.parseMessage heartbeatJson (heartbeatFrame ⟨5, -1⟩) .new
        = .parsed (.call ⟨CALL, "1", "Heartbeat", heartbeatRequest⟩)
      ∧ (∀ c, ¬ CallFrame heartbeatEndpoint heartbeatJson (heartbeatFrame ⟨5, -1⟩) c)
      ∧ Endpoint.parseMessage { heartbeatEndpoint with dialect := .unset } heartbeatJson [] .new
        = .panicked := by
  have hvalue : numberValue ⟨5, -1⟩ = 5 / 2 := by norm_num [numberValue]
  refine ⟨rfl, ?_, rfl⟩
  intro c h
  cases h with
  | mk hx =>
      rw [hvalue] at hx
      norm_num at hx

end OcppGo.Proof
