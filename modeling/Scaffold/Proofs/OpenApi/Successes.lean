import Mathlib.Data.List.Basic
import Mathlib.Data.List.Induction
import Scaffold.Proofs.OpenApi.Responses

/-! The successful responses of an operation, told by how their keys are spelled. No key that is
spelled otherwise is read as a status in the two hundreds, however many digits it has. -/
namespace Scaffold.OpenApi

open Text

variable {digits : List Char} {key : String} {status : Nat}

/-- A key spells a status in the two hundreds: perhaps a plus sign, any number of zeros, a two, and
two more digits. -/
def SpellsSuccess (key : String) (status : Nat) : Prop :=
  ∃ sign ∈ [[], ['+']], ∃ zeros tens ones, tens < 10 ∧ ones < 10 ∧
    key.toList = sign ++ (List.replicate zeros '0' ++ ['2', tens.digitChar, ones.digitChar]) ∧
    status = 200 + 10 * tens + ones

/-- The members of an object with the responses that succeed among them: one for each member whose
key spells a success, in order, with the status that the key spells. -/
inductive Successes : List (String × Json) → List SuccessResponse → Prop
  | nil : Successes [] []
  | found {key response members responses status} (h : SpellsSuccess key status)
      (hs : Successes members responses) :
      Successes ((key, response) :: members) (⟨status, response⟩ :: responses)
  | passed {key response members responses} (h : ∀ status, ¬SpellsSuccess key status)
      (hs : Successes members responses) : Successes ((key, response) :: members) responses

theorem digitsValue_append_singleton (digits : List Char) (c : Char) :
    digitsValue (digits ++ [c]) = digitsValue digits * 10 + (c.toNat - 48) := by
  simp [digitsValue]

theorem eq_digitChar {c : Char} (h : c.isDigit = true) : c = (c.toNat - 48).digitChar := by
  have hrange := Char.isDigit_iff_toNat.mp h
  change 48 ≤ c.toNat ∧ c.toNat ≤ 57 at hrange
  apply Char.toNat_inj.mp
  rw [Nat.toNat_digitChar_of_lt_ten (by omega)]
  omega

/-- Digits that write a positive number have a last one, which is what is left over by ten. -/
theorem exists_last_digit (h : ∀ c ∈ digits, c.isDigit = true) (hpos : 0 < digitsValue digits) :
    ∃ front d, d < 10 ∧ digits = front ++ [d.digitChar] ∧ (∀ c ∈ front, c.isDigit = true) ∧
      digitsValue digits = digitsValue front * 10 + d := by
  rcases digits.eq_nil_or_concat' with rfl | ⟨front, c, rfl⟩
  · cases hpos
  · have hc : c.isDigit = true := h c (by simp)
    have hrange := Char.isDigit_iff_toNat.mp hc
    change 48 ≤ c.toNat ∧ c.toNat ≤ 57 at hrange
    refine ⟨front, c.toNat - 48, by omega, ?_, fun d hd => h d (by simp [hd]), ?_⟩
    · rw [← eq_digitChar hc]
    · exact digitsValue_append_singleton front c

theorem eq_replicate_zero (h : ∀ c ∈ digits, c.isDigit = true) (hzero : digitsValue digits = 0) :
    digits = List.replicate digits.length '0' := by
  induction digits using List.reverseRecOn with
  | nil => rfl
  | append_singleton front c ih =>
    rw [digitsValue_append_singleton] at hzero
    have hc : c.isDigit = true := h c (by simp)
    have hfront := ih (fun d hd => h d (by simp [hd])) (by omega)
    have hlast : c = '0' := by
      rw [eq_digitChar hc, show c.toNat - 48 = 0 by omega]
      rfl
    rw [hlast, List.length_append, List.length_singleton, List.replicate_succ', ← hfront]

theorem digitsValue_replicate_zero (zeros : Nat) : digitsValue (List.replicate zeros '0') = 0 := by
  induction zeros with
  | zero => rfl
  | succ zeros ih =>
    rw [List.replicate_succ', digitsValue_append_singleton, ih]
    rfl

/-- Digits write a number in the two hundreds just when they are zeros, a two and two more
digits. -/
theorem digitsValue_eq_iff (hne : 200 ≤ status ∧ status < 300) :
    (∀ c ∈ digits, c.isDigit = true) ∧ digitsValue digits = status ↔
      ∃ zeros tens ones, tens < 10 ∧ ones < 10 ∧
        digits = List.replicate zeros '0' ++ ['2', tens.digitChar, ones.digitChar] ∧
        status = 200 + 10 * tens + ones := by
  obtain ⟨hlow, hhigh⟩ := hne
  constructor
  · rintro ⟨hdigits, hvalue⟩
    -- The digits are taken off from the end: what they write gets smaller by ten each time.
    obtain ⟨behind, ones, hones, rfl, hbehind, hv₁⟩ := exists_last_digit hdigits (by omega)
    obtain ⟨leading, tens, htens, rfl, hleading, hv₂⟩ := exists_last_digit hbehind (by omega)
    obtain ⟨zeros, two, htwo, rfl, hzeros, hv₃⟩ := exists_last_digit hleading (by omega)
    have hzero : digitsValue zeros = 0 := by omega
    obtain rfl : two = 2 := by omega
    refine ⟨zeros.length, tens, ones, htens, hones, ?_, by omega⟩
    rw [← eq_replicate_zero hzeros hzero]
    simp [Nat.digitChar]
  · rintro ⟨zeros, tens, ones, htens, hones, rfl, hstatus⟩
    have htwo : '2'.toNat - 48 = 2 := rfl
    constructor
    · simp only [List.forall_mem_append, List.forall_mem_cons, Nat.isDigit_digitChar]
      refine ⟨fun c hc => ?_, rfl, by simpa using htens, by simpa using hones, by simp⟩
      rw [List.eq_of_mem_replicate hc]
      rfl
    · have hsplit : List.replicate zeros '0' ++ ['2', tens.digitChar, ones.digitChar] =
          List.replicate zeros '0' ++ ['2'] ++ [tens.digitChar] ++ [ones.digitChar] := by simp
      rw [hsplit]
      simp only [digitsValue_append_singleton, digitsValue_replicate_zero, htwo,
        Nat.toNat_digitChar_of_lt_ten htens, Nat.toNat_digitChar_of_lt_ten hones]
      omega

theorem spellsSuccess_iff :
    SpellsSuccess key status ↔ WritesNumber key status ∧ 200 ≤ status ∧ status < 300 := by
  constructor
  · rintro ⟨sign, hsign, zeros, tens, ones, htens, hones, hkey, hstatus⟩
    have hrange : 200 ≤ status ∧ status < 300 := by omega
    obtain ⟨hdigits, hvalue⟩ :=
      (digitsValue_eq_iff hrange).mpr ⟨zeros, tens, ones, htens, hones, rfl, hstatus⟩
    refine ⟨⟨_, by simp, hdigits, hvalue, ?_⟩, hrange⟩
    simp only [List.mem_cons, List.not_mem_nil, or_false] at hsign
    rcases hsign with rfl | rfl
    · exact .inl hkey
    · exact .inr hkey
  · rintro ⟨⟨digits, -, hdigits, hvalue, hkey⟩, hrange⟩
    obtain ⟨zeros, tens, ones, htens, hones, rfl, hstatus⟩ :=
      (digitsValue_eq_iff hrange).mp ⟨hdigits, hvalue⟩
    rcases hkey with hkey | hkey
    · exact ⟨[], by simp, zeros, tens, ones, htens, hones, hkey, hstatus⟩
    · exact ⟨['+'], by simp, zeros, tens, ones, htens, hones, hkey, hstatus⟩

theorem success?_iff_spellsSuccess {response : Json} {r : SuccessResponse} :
    success? (key, response) = some r ↔ SpellsSuccess key r.status ∧ r.response = response := by
  rw [success?_eq_some_iff, spellsSuccess_iff]
  constructor
  · rintro ⟨hnumber, hlow, hhigh, hresponse⟩
    exact ⟨⟨hnumber, hlow, hhigh⟩, hresponse⟩
  · rintro ⟨⟨hnumber, hlow, hhigh⟩, hresponse⟩
    exact ⟨hnumber, hlow, hhigh, hresponse⟩

theorem successes_filterMap (members : List (String × Json)) :
    Successes members (members.filterMap success?) := by
  induction members with
  | nil => exact .nil
  | cons member members ih =>
    obtain ⟨key, response⟩ := member
    cases hs : success? (key, response) with
    | none =>
      rw [List.filterMap_cons_none hs]
      refine .passed (fun status hspells => ?_) ih
      have hsome : success? (key, response) = some ⟨status, response⟩ :=
        success?_iff_spellsSuccess.mpr ⟨hspells, rfl⟩
      rw [hs] at hsome
      cases hsome
    | some r =>
      obtain ⟨hspells, rfl⟩ := success?_iff_spellsSuccess.mp hs
      rw [List.filterMap_cons_some hs]
      exact .found hspells ih

/-- A key spells one status only, so members have one list of successful responses. -/
theorem Successes.eq_filterMap {members : List (String × Json)} {responses : List SuccessResponse}
    (h : Successes members responses) : responses = members.filterMap success? := by
  induction h with
  | nil => rfl
  | @found key response _ _ status hspells _ ih =>
    have hs : success? (key, response) = some ⟨status, response⟩ :=
      success?_iff_spellsSuccess.mpr ⟨hspells, rfl⟩
    rw [List.filterMap_cons_some hs, ih]
  | @passed key response _ _ hnone _ ih =>
    have hs : success? (key, response) = none := by
      rw [Option.eq_none_iff_forall_ne_some]
      intro r hr
      exact hnone r.status (success?_iff_spellsSuccess.mp hr).1
    rw [List.filterMap_cons_none hs, ih]

/-- The successful responses of an operation are those of the members of its `responses` whose keys
spell a success, and there are none where `responses` is not an object. -/
theorem successResponses_eq_iff (op : Operation) (responses : List SuccessResponse) :
    op.successResponses = responses ↔
      (∃ members, op.fields.lookup "responses" = some (.object members) ∧
        Successes members responses) ∨
      (∀ members, op.fields.lookup "responses" ≠ some (.object members)) ∧
        responses = [] := by
  rw [Operation.successResponses_eq, Operation.responses]
  by_cases hobject : ∃ members, op.fields.lookup "responses" = some (.object members)
  · obtain ⟨members, hmembers⟩ := hobject
    have hfields : ((op.fields.lookup "responses").bind Json.fields?).getD [] = members := by
      rw [hmembers]
      rfl
    rw [hfields]
    constructor
    · rintro rfl
      exact .inl ⟨members, hmembers, successes_filterMap members⟩
    · rintro (⟨others, hothers, hs⟩ | ⟨hnone, -⟩)
      · obtain rfl : members = others := by simpa [hmembers] using hothers
        exact hs.eq_filterMap.symm
      · exact absurd hmembers (hnone members)
  · have hfields : ((op.fields.lookup "responses").bind Json.fields?).getD [] = [] := by
      cases hvalue : op.fields.lookup "responses" with
      | none => rfl
      | some value =>
        cases value with
        | object members => exact absurd ⟨members, hvalue⟩ hobject
        | _ => rfl
    rw [hfields]
    constructor
    · rintro rfl
      exact .inr ⟨fun members hmembers => hobject ⟨members, hmembers⟩, rfl⟩
    · rintro (⟨members, hmembers, -⟩ | ⟨-, rfl⟩)
      · exact absurd ⟨members, hmembers⟩ hobject
      · rfl

example : (Operation.mk "/" .get [("responses", .object
    [("+0204", .null), ("2XX", .null), ("65736", .null), ("-200", .null), ("200", .null),
      ("++200", .null), ("0200", .null), ("300", .null)])]).successResponses =
        [⟨204, .null⟩, ⟨200, .null⟩, ⟨200, .null⟩] := by decide +kernel

end Scaffold.OpenApi
