import Mathlib.Data.Option.Basic
import Scaffold.OpenApi.Operation
import Scaffold.Proofs.Json.Structure
import Scaffold.Text.Digits

/-! Responses that succeed with a JSON payload. Whether one does is said by its key, which writes a
status in the two hundreds, and by the schema that it declares. -/
namespace Scaffold.OpenApi

open Text

variable {key : String} {n : Nat}

/-- A key writes a number: digits, perhaps behind a plus sign. -/
def WritesNumber (key : String) (n : Nat) : Prop :=
  ∃ digits ≠ [], (∀ c ∈ digits, c.isDigit = true) ∧ digitsValue digits = n ∧
    (key.toList = digits ∨ key.toList = '+' :: digits)

/-- The key of a response writes a status in the two hundreds, and the response declares the schema
of a JSON payload. -/
structure SucceedsWith (response : String × Json) (status : Nat) : Prop where
  number : WritesNumber response.1 status
  low : 200 ≤ status
  high : status < 300
  schema : ∃ schema, response.2.lookup? ["content", "application/json", "schema"] = some schema

/-- The statuses of the responses that succeed, in order. All other responses are passed over. -/
inductive Statuses : List (String × Json) → List Nat → Prop
  | nil : Statuses [] []
  | noted {response responses status statuses} (h : SucceedsWith response status)
      (hs : Statuses responses statuses) : Statuses (response :: responses) (status :: statuses)
  | passed {response responses statuses} (h : ∀ status, ¬SucceedsWith response status)
      (hs : Statuses responses statuses) : Statuses (response :: responses) statuses

/-- The responses that an operation declares, in document order. -/
def Operation.responses (op : Operation) : List (String × Json) :=
  ((op.fields.lookup "responses").bind Json.fields?).getD []

/-- What stands behind a plus sign, if there is one. -/
def unsigned : List Char → List Char
  | '+' :: cs => cs
  | cs => cs

theorem unsigned_cases (cs : List Char) : cs = unsigned cs ∨ cs = '+' :: unsigned cs := by
  fun_cases unsigned cs <;> simp

theorem unsigned_of_digits {digits : List Char} (h : ∀ c ∈ digits, c.isDigit = true) :
    unsigned digits = digits := by
  rcases unsigned_cases digits with hsame | hsign
  · exact hsame.symm
  · rw [hsign] at h
    exact absurd (h '+' List.mem_cons_self) (by decide)

theorem writesNumber_iff : WritesNumber key n ↔ unsigned key.toList ≠ [] ∧
    (∀ c ∈ unsigned key.toList, c.isDigit = true) ∧ digitsValue (unsigned key.toList) = n := by
  constructor
  · rintro ⟨digits, hne, hdigits, hv, hkey | hkey⟩
    · rw [hkey, unsigned_of_digits hdigits]
      exact ⟨hne, hdigits, hv⟩
    · rw [hkey]
      exact ⟨hne, hdigits, hv⟩
  · rintro ⟨hne, hdigits, hv⟩
    exact ⟨_, hne, hdigits, hv, unsigned_cases _⟩

/-- Further digits never make a number smaller, so one that does not fit once never fits again. -/
theorem le_foldl_digits (digits : List Char) (n : Nat) :
    n ≤ digits.foldl (fun n c => n * 10 + (c.toNat - 48)) n := by
  induction digits generalizing n with
  | nil => exact Nat.le_refl n
  | cons c digits ih =>
    have hnext := ih (n * 10 + (c.toNat - 48))
    rw [List.foldl_cons]
    omega

theorem foldlM_appendDigit? (digits : List Char) {n : Nat} (hn : n ≤ 65535) :
    digits.foldlM appendDigit? n =
      if digits.foldl (fun n c => n * 10 + (c.toNat - 48)) n ≤ 65535
        then some (digits.foldl (fun n c => n * 10 + (c.toNat - 48)) n) else none := by
  induction digits generalizing n with
  | nil => simp [hn]
  | cons c digits ih =>
    rw [List.foldlM_cons, List.foldl_cons, appendDigit?]
    by_cases hnext : n * 10 + (c.toNat - 48) ≤ 65535
    · simpa [hnext] using ih hnext
    · have hlarge := le_foldl_digits digits (n * 10 + (c.toNat - 48))
      rw [if_neg hnext, if_neg (by omega)]
      rfl

theorem statusCode?_eq_some_iff : statusCode? key = some n ↔ WritesNumber key n ∧ n ≤ 65535 := by
  have hcode : statusCode? key =
      if (unsigned key.toList).isEmpty || !(unsigned key.toList).all Char.isDigit then none
      else (unsigned key.toList).foldlM appendDigit? 0 := rfl
  rw [hcode, writesNumber_iff, foldlM_appendDigit? _ (Nat.zero_le _), ← digitsValue]
  by_cases hdigits : unsigned key.toList ≠ [] ∧ ∀ c ∈ unsigned key.toList, c.isDigit = true
  · rw [if_neg (by simpa using hdigits), Option.ite_none_right_eq_some]
    simp only [Option.some.injEq]
    constructor
    · rintro ⟨hn, rfl⟩
      exact ⟨⟨hdigits.1, hdigits.2, rfl⟩, hn⟩
    · rintro ⟨⟨-, -, rfl⟩, hn⟩
      exact ⟨hn, rfl⟩
  · have hnone :
        ((unsigned key.toList).isEmpty || !(unsigned key.toList).all Char.isDigit) = true := by
      by_contra h
      exact hdigits (by simpa using h)
    rw [if_pos hnone]
    simp only [reduceCtorEq, false_iff]
    exact fun h => hdigits ⟨h.1.1, h.1.2.1⟩

theorem SuccessResponse.jsonSchema?_eq (r : SuccessResponse) :
    r.jsonSchema? = r.response.lookup? ["content", "application/json", "schema"] := by
  rw [Json.lookup?_cons]
  refine Option.bind_congr fun content _ => ?_
  rw [Json.lookup?_cons, Json.lookup?_singleton]
  rfl

/-- The response with its status, if that is in the two hundreds. -/
def success? (response : String × Json) : Option SuccessResponse :=
  match statusCode? response.1 with
  | some status => if 200 ≤ status ∧ status < 300 then some ⟨status, response.2⟩ else none
  | none => none

theorem success?_eq_some_iff {response : String × Json} {r : SuccessResponse} :
    success? response = some r ↔ WritesNumber response.1 r.status ∧ 200 ≤ r.status ∧
      r.status < 300 ∧ r.response = response.2 := by
  constructor
  · intro h
    unfold success? at h
    split at h
    · next code hcode =>
      obtain ⟨hrange, hr⟩ := Option.ite_none_right_eq_some.mp h
      obtain rfl := Option.some.inj hr
      exact ⟨(statusCode?_eq_some_iff.mp hcode).1, hrange.1, hrange.2, rfl⟩
    · cases h
  · rintro ⟨hnumber, hlow, hhigh, hresponse⟩
    have hcode : statusCode? response.1 = some r.status :=
      statusCode?_eq_some_iff.mpr ⟨hnumber, by omega⟩
    rw [success?, hcode, ← hresponse]
    exact if_pos ⟨hlow, hhigh⟩

theorem Operation.successResponses_eq (op : Operation) :
    op.successResponses = op.responses.filterMap success? := by
  unfold successResponses responses
  cases (op.fields.lookup "responses").bind Json.fields? <;> rfl

/-- The statuses that are noted for an operation. -/
def Operation.noted (op : Operation) : List Nat :=
  (op.successResponses.filter (·.jsonSchema?.isSome)).map (·.status)

theorem statuses_noted (op : Operation) : Statuses op.responses op.noted := by
  rw [Operation.noted, Operation.successResponses_eq]
  induction op.responses with
  | nil => exact .nil
  | cons response responses ih =>
    cases hs : success? response with
    | none =>
      rw [List.filterMap_cons_none hs]
      refine .passed (fun status h => ?_) ih
      have hsome : success? response = some ⟨status, response.2⟩ :=
        success?_eq_some_iff.mpr ⟨h.number, h.low, h.high, rfl⟩
      rw [hs] at hsome
      cases hsome
    | some r =>
      obtain ⟨hnumber, hlow, hhigh, hresponse⟩ := success?_eq_some_iff.mp hs
      rw [List.filterMap_cons_some hs]
      cases hschema : r.jsonSchema?.isSome with
      | true =>
        rw [List.filter_cons, if_pos hschema]
        refine .noted ⟨hnumber, hlow, hhigh, ?_⟩ ih
        rw [← hresponse, ← SuccessResponse.jsonSchema?_eq]
        exact Option.isSome_iff_exists.mp hschema
      | false =>
        rw [List.filter_cons, if_neg (by simp [hschema])]
        refine .passed (fun status h => ?_) ih
        have hsome := h.schema
        rw [← hresponse, ← SuccessResponse.jsonSchema?_eq, ← Option.isSome_iff_exists,
          hschema] at hsome
        cases hsome

end Scaffold.OpenApi
