import Scaffold.Config.Constraints

/-! What it takes for a value to satisfy a schema, one constraint at a time. -/
namespace Scaffold.Schema

variable {value : Json} {fields : List (String × Json)}

theorem accepts_all (parts : List Schema) :
    (all parts).accepts value = true ↔ ∀ part ∈ parts, part.accepts value = true := by
  induction parts with
  | nil => simp [accepts, violations, allViolations]
  | cons part rest ih => rw [accepts_all_cons, Bool.and_eq_true, ih, List.forall_mem_cons]

theorem accepts_types (allowed : List TypeName) :
    (types allowed).accepts value = true ↔ ∃ type ∈ allowed, type.holds value = true := by
  simp [accepts, violations]

theorem accepts_types_object :
    (types [.object]).accepts value = true ↔ ∃ fields, value = .object fields := by
  cases value <;> simp [accepts_types, TypeName.holds]

theorem accepts_types_string :
    (types [.string]).accepts value = true ↔ ∃ text, value = .string text := by
  cases value <;> simp [accepts_types, TypeName.holds]

theorem accepts_constant (expected : Json) :
    (constant expected).accepts value = true ↔ expected.alike value = true := by
  simp [accepts, violations]

theorem accepts_options (values : List Json) :
    (options values).accepts value = true ↔ ∃ option ∈ values, option.alike value = true := by
  simp [accepts, violations]

theorem accepts_required (names : List String) :
    (required names).accepts (.object fields) = true ↔
      ∀ name ∈ names, (fields.lookup name).isSome = true := by
  simp [accepts, violations, Option.isSome_iff_ne_none]

theorem accepts_properties (members : List (String × Schema)) :
    (properties members).accepts (.object fields) = true ↔
      ∀ member ∈ members, ∀ found, fields.lookup member.1 = some found →
        member.2.accepts found = true := by
  unfold accepts
  rw [violations]
  induction members with
  | nil => simp [memberViolations]
  | cons member rest ih =>
    obtain ⟨name, schema⟩ := member
    rw [memberViolations, List.isEmpty_iff, List.append_eq_nil_iff, List.forall_mem_cons,
      ← ih, List.isEmpty_iff]
    cases fields.lookup name <;> simp

theorem accepts_minLength (least : Nat) (text : String) :
    (minLength least).accepts (.string text) = true ↔ least ≤ text.length := by
  simp [accepts, violations]

theorem accepts_pattern (source : String) (p : Pattern) (text : String) :
    (pattern source p).accepts (.string text) = true ↔ p.matchesText text = true := by
  simp [accepts, violations]

theorem accepts_propertyNames (schema : Schema) :
    (propertyNames schema).accepts (.object fields) = true ↔
      ∀ field ∈ fields, schema.accepts (.string field.1) = true := by
  simp [accepts, violations]

theorem accepts_otherProperties (schema : Schema) :
    (otherProperties [] schema).accepts (.object fields) = true ↔
      ∀ field ∈ fields, schema.accepts field.2 = true := by
  simp [accepts, violations]

theorem accepts_record (members : List (String × Schema)) :
    (Config.Constraints.record members).accepts value = true ↔ ∃ fields, value = .object fields ∧
      ∀ member ∈ members, ∃ found, fields.lookup member.1 = some found ∧
        member.2.accepts found = true := by
  simp only [Config.Constraints.record, accepts_all, List.forall_mem_cons, accepts_types_object]
  constructor
  · rintro ⟨⟨fields, rfl⟩, hr, hp, -⟩
    refine ⟨fields, rfl, fun member hm => ?_⟩
    obtain ⟨found, hf⟩ := Option.isSome_iff_exists.mp
      ((accepts_required _).mp hr member.1 (List.mem_map_of_mem hm))
    exact ⟨found, hf, (accepts_properties _).mp hp member hm found hf⟩
  · rintro ⟨fields, rfl, h⟩
    refine ⟨⟨fields, rfl⟩, (accepts_required _).mpr fun name hn => ?_,
      (accepts_properties _).mpr fun member hm found hf => ?_, List.forall_mem_nil _⟩
    · obtain ⟨member, hm, rfl⟩ := List.mem_map.mp hn
      obtain ⟨found, hf, -⟩ := h member hm
      simp [hf]
    · obtain ⟨other, hf', ho⟩ := h member hm
      rw [hf] at hf'
      rwa [Option.some.inj hf']

end Scaffold.Schema
