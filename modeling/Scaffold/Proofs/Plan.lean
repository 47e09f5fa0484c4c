import Mathlib.Data.List.Nodup
import Scaffold.Plan
import Scaffold.Proofs.Except
import Scaffold.Proofs.Json.Structure
import Scaffold.Proofs.Path.Text

/-! The plan of a document against the operations that the document declares: they all are in the
plan in their order, and what else stands in a path item is counted; or the first operation whose
method name is taken is reported with the one that took it. -/
namespace Scaffold

namespace OpenApi

theorem Verb.space_not_mem_capitals (verb : Verb) : ' ' ∉ verb.capitals.toList := by
  cases verb <;> decide

theorem Verb.capitals_inj {v w : Verb} (h : v.capitals = w.capitals) : v = w := by
  revert h
  cases v <;> cases w <;> decide

theorem Operation.label_inj {a b : Operation} (h : a.label = b.label) :
    a.path = b.path ∧ a.verb = b.verb := by
  have hc := congrArg String.toList h
  simp only [label, String.toList_append, List.append_assoc] at hc
  obtain ⟨hv, hp⟩ :=
    Text.append_sep_inj a.verb.space_not_mem_capitals b.verb.space_not_mem_capitals hc
  exact ⟨String.toList_inj.mp hp, Verb.capitals_inj (String.toList_inj.mp hv)⟩

end OpenApi

namespace Plan

open OpenApi

/-- The operation that an entry of a path item declares. -/
def operation? (entry : PathEntry) : Option Operation :=
  match entry.value with
  | .object fields => (Verb.ofKey? entry.key).map fun verb => ⟨entry.path, verb, fields⟩
  | _ => none

/-- The operations that a path item declares, none if it is no object. -/
def declaredIn (path : String) : Json → List Operation
  | .object fields => fields.filterMap fun (key, value) => operation? ⟨path, key, value⟩
  | _ => []

/-- The operations of all path items, in document order. -/
def declared (spec : Specification) : List Operation :=
  spec.paths.flatMap fun (path, item) => declaredIn path item

/-- How many entries the path items that are objects have. -/
def entryCount (spec : Specification) : Nat :=
  (spec.paths.flatMap fun (_, item) =>
    match item with
    | .object fields => fields
    | _ => []).length

def methodName (op : Operation) : String := (OperationNames.derive op.path op.verb.key).method

def named (op : Operation) : PlannedOperation := ⟨op, OperationNames.derive op.path op.verb.key⟩

theorem planned?_eq (entry : PathEntry) : planned? entry = (operation? entry).map named := by
  unfold planned? operation?
  cases Verb.ofKey? entry.key with
  | none => cases entry.value <;> rfl
  | some verb => cases entry.value <;> rfl

theorem operation?_eq_some_iff {entry : PathEntry} {op : Operation} :
    operation? entry = some op ↔
      entry.path = op.path ∧ entry.key = op.verb.key ∧ entry.value = .object op.fields := by
  obtain ⟨path, key, value⟩ := entry
  obtain ⟨p, verb, fields⟩ := op
  cases value with
  | object found =>
    simp only [operation?, Option.map_eq_some_iff, Verb.ofKey?_eq_some_iff, Operation.mk.injEq,
      Json.object.injEq]
    constructor
    · rintro ⟨v, hk, hp, rfl, hf⟩
      exact ⟨hp, hk, hf⟩
    · rintro ⟨hp, hk, hf⟩
      exact ⟨verb, hk, hp, rfl, hf⟩
  | _ => simp [operation?]

theorem mem_declaredIn {path : String} {item : Json} {op : Operation} :
    op ∈ declaredIn path item ↔
      path = op.path ∧ ∃ fields, item = .object fields ∧
        (op.verb.key, .object op.fields) ∈ fields := by
  cases item with
  | object fields =>
    simp only [declaredIn, List.mem_filterMap, operation?_eq_some_iff]
    constructor
    · rintro ⟨⟨key, value⟩, hm, hp, rfl, rfl⟩
      exact ⟨hp, fields, rfl, hm⟩
    · rintro ⟨hp, found, hf, hm⟩
      obtain rfl := Json.object.inj hf
      exact ⟨_, hm, hp, rfl, rfl⟩
  | _ => simp [declaredIn]

/-- An operation is declared where a path item that is an object has an object under its verb. -/
theorem mem_declared {spec : Specification} {op : Operation} :
    op ∈ declared spec ↔
      ∃ fields, (op.path, .object fields) ∈ spec.paths ∧
        (op.verb.key, .object op.fields) ∈ fields := by
  rw [declared, List.mem_flatMap]
  constructor
  · rintro ⟨⟨path, item⟩, hm, ho⟩
    obtain ⟨rfl, fields, rfl, hf⟩ := mem_declaredIn.mp ho
    exact ⟨fields, hm, hf⟩
  · rintro ⟨fields, hm, hf⟩
    exact ⟨_, hm, mem_declaredIn.mpr ⟨rfl, fields, rfl, hf⟩⟩

theorem filterMap_entries (spec : Specification) :
    (entries spec).filterMap planned? = (declared spec).map named := by
  unfold entries declared
  rw [List.filterMap_flatMap, List.map_flatMap]
  congr 1
  funext ⟨path, item⟩
  cases item with
  | object fields =>
    simp only [Json.fields?, declaredIn, Option.getD_some, List.filterMap_map, List.map_filterMap]
    congr 1
    funext field
    exact planned?_eq _
  | _ => rfl

theorem length_entries (spec : Specification) : (entries spec).length = entryCount spec := by
  unfold entries entryCount
  rw [List.length_flatMap, List.length_flatMap]
  congr 2
  funext ⟨path, item⟩
  cases item with
  | object fields => simp [Json.fields?]
  | _ => rfl

theorem add_of_none {plan : Plan} {entry : PathEntry} (h : planned? entry = none) :
    add plan entry = .ok { plan with skipped := plan.skipped + 1 } := by
  rw [add, h]

theorem add_of_free {plan : Plan} {entry : PathEntry} {next : PlannedOperation}
    (h : planned? entry = some next)
    (hn : next.names.method ∉ plan.operations.map (·.names.method)) :
    add plan entry = .ok { plan with operations := plan.operations ++ [next] } := by
  have hf : plan.operations.find? (·.names.method = next.names.method) = none := by
    refine List.find?_eq_none.mpr fun op ho hc => hn ?_
    exact List.mem_map.mpr ⟨op, ho, of_decide_eq_true hc⟩
  rw [add, h]
  simp only [hf]

theorem add_of_taken {plan : Plan} {entry : PathEntry} {next : PlannedOperation}
    (h : planned? entry = some next)
    (hn : next.names.method ∈ plan.operations.map (·.names.method)) :
    ∃ first ∈ plan.operations, first.names.method = next.names.method ∧
      add plan entry = .error
        ⟨plan.service, next.names.method, first.operation.label, next.operation.label⟩ := by
  obtain ⟨op, ho, hm⟩ := List.mem_map.mp hn
  cases hf : plan.operations.find? (·.names.method = next.names.method) with
  | none => exact absurd (decide_eq_true hm) (List.find?_eq_none.mp hf op ho)
  | some first =>
    have hs := List.find?_some hf
    refine ⟨first, List.mem_of_find?_eq_some hf, of_decide_eq_true hs, ?_⟩
    rw [add, h]
    simp only [hf]

/-- As long as method names differ, operations are added in their order and every other entry is
counted. -/
theorem foldlM_add_of_nodup {plan : Plan} {entries : List PathEntry}
    (h : ((plan.operations ++ entries.filterMap planned?).map (·.names.method)).Nodup) :
    ∃ last, entries.foldlM add plan = .ok last ∧ last.service = plan.service ∧
      last.operations = plan.operations ++ entries.filterMap planned? ∧
      last.operations.length + last.skipped =
        plan.operations.length + plan.skipped + entries.length := by
  induction entries generalizing plan with
  | nil => exact ⟨plan, rfl, rfl, by simp, rfl⟩
  | cons entry rest ih =>
    rw [List.foldlM_cons]
    cases hp : planned? entry with
    | none =>
      rw [List.filterMap_cons_none hp] at h ⊢
      obtain ⟨last, hf, hs, ho, hl⟩ := @ih { plan with skipped := plan.skipped + 1 } h
      rw [add_of_none hp]
      refine ⟨last, hf, hs, ho, ?_⟩
      simp only [List.length_cons] at hl ⊢
      omega
    | some next =>
      rw [List.filterMap_cons_some hp, List.append_cons] at h ⊢
      have hn : next.names.method ∉ plan.operations.map (·.names.method) := by
        rw [List.map_append, List.map_append] at h
        have hd := (List.nodup_append.mp (List.nodup_append.mp h).1).2.2
        exact fun hm => hd _ hm _ (List.mem_singleton.mpr rfl) rfl
      obtain ⟨last, hf, hs, ho, hl⟩ := @ih { plan with operations := plan.operations ++ [next] } h
      rw [add_of_free hp hn]
      refine ⟨last, hf, hs, ho, ?_⟩
      simp only [List.length_append, List.length_cons, List.length_nil] at hl ⊢
      omega

theorem foldlM_add_of_not_nodup {plan : Plan} {entries : List PathEntry}
    (hn : (plan.operations.map (·.names.method)).Nodup)
    (h : ¬((plan.operations ++ entries.filterMap planned?).map (·.names.method)).Nodup) :
    ∃ before second after,
      plan.operations ++ entries.filterMap planned? = before ++ second :: after ∧
      (before.map (·.names.method)).Nodup ∧
      ∃ first ∈ before, first.names.method = second.names.method ∧
        entries.foldlM add plan = .error
          ⟨plan.service, second.names.method, first.operation.label, second.operation.label⟩ := by
  induction entries generalizing plan with
  | nil => exact absurd (by simpa using hn) h
  | cons entry rest ih =>
    -- What is planned so far has different names, so the first clash is with this entry or later.
    rw [List.foldlM_cons]
    cases hp : planned? entry with
    | none =>
      rw [List.filterMap_cons_none hp] at h ⊢
      rw [add_of_none hp]
      exact @ih { plan with skipped := plan.skipped + 1 } hn h
    | some next =>
      rw [List.filterMap_cons_some hp] at h ⊢
      by_cases hm : next.names.method ∈ plan.operations.map (·.names.method)
      · obtain ⟨first, hf, he, ha⟩ := add_of_taken hp hm
        rw [ha]
        exact ⟨plan.operations, next, _, rfl, hn, first, hf, he, rfl⟩
      · rw [List.append_cons] at h ⊢
        rw [add_of_free hp hm]
        refine @ih { plan with operations := plan.operations ++ [next] } ?_ h
        rw [List.map_append, List.map_singleton]
        refine List.nodup_append.mpr ⟨hn, List.pairwise_singleton _ _, fun a ha b hb => ?_⟩
        rw [List.mem_singleton.mp hb]
        rintro rfl
        exact hm ha

private theorem map_method_named (ops : List Operation) :
    (ops.map named).map (·.names.method) = ops.map methodName := by
  rw [List.map_map]
  rfl

theorem build_of_nodup {spec : Specification} (h : ((declared spec).map methodName).Nodup) :
    ∃ plan, build spec = .ok plan ∧ plan.service = spec.service ∧
      plan.operations = (declared spec).map named ∧
      plan.operations.length + plan.skipped = entryCount spec := by
  rw [← map_method_named, ← filterMap_entries] at h
  obtain ⟨plan, hb, hs, ho, hl⟩ :=
    @foldlM_add_of_nodup ⟨spec.service, [], 0⟩ (entries spec) h
  refine ⟨plan, hb, hs, ?_, ?_⟩
  · rw [ho, filterMap_entries, List.nil_append]
  · rw [hl, length_entries]
    simp

private theorem build_of_not_nodup {spec : Specification}
    (h : ¬((declared spec).map methodName).Nodup) :
    ∃ before second after, declared spec = before ++ second :: after ∧
      (before.map methodName).Nodup ∧
      ∃ first ∈ before, methodName first = methodName second ∧
        build spec = .error ⟨spec.service, methodName second, first.label, second.label⟩ := by
  rw [← map_method_named, ← filterMap_entries] at h
  obtain ⟨before, second, after, hs, hn, first, hf, hm, hb⟩ :=
    @foldlM_add_of_not_nodup ⟨spec.service, [], 0⟩ (entries spec) List.nodup_nil h
  rw [filterMap_entries, List.nil_append] at hs
  obtain ⟨before, rest, hd, rfl, hr⟩ := List.map_eq_append_iff.mp hs
  obtain ⟨second, after, rfl, rfl, -⟩ := List.map_eq_cons_iff.mp hr
  obtain ⟨first, hi, rfl⟩ := List.mem_map.mp hf
  rw [map_method_named] at hn
  exact ⟨before, second, after, hd, hn, first, hi, hm, hb⟩

theorem operations_of_build {spec : Specification} {plan : Plan} (h : build spec = .ok plan) :
    plan.operations = (declared spec).map named := by
  by_cases hn : ((declared spec).map methodName).Nodup
  · obtain ⟨found, hb, -, ho, -⟩ := build_of_nodup hn
    rw [← ho, Except.ok.inj (h.symm.trans hb)]
  · obtain ⟨_, _, _, _, _, _, _, _, hb⟩ := build_of_not_nodup hn
    rw [hb] at h
    cases h

theorem service_of_build {spec : Specification} {plan : Plan} (h : build spec = .ok plan) :
    plan.service = spec.service := by
  by_cases hn : ((declared spec).map methodName).Nodup
  · obtain ⟨found, hb, hs, -⟩ := build_of_nodup hn
    rw [← hs, Except.ok.inj (h.symm.trans hb)]
  · obtain ⟨_, _, _, _, _, _, _, _, hb⟩ := build_of_not_nodup hn
    rw [hb] at h
    cases h

theorem nodup_methods_of_build {spec : Specification} {plan : Plan} (h : build spec = .ok plan) :
    (plan.operations.map (·.names.method)).Nodup := by
  rw [operations_of_build h, map_method_named]
  by_contra hn
  obtain ⟨_, _, _, _, _, _, _, _, hb⟩ := build_of_not_nodup hn
  rw [hb] at h
  cases h

theorem keysDistinct_paths {spec : Specification} (h : spec.document.keysDistinct) :
    (Json.object spec.paths).keysDistinct := by
  unfold Specification.paths
  cases hp : spec.paths? with
  | none => rfl
  | some paths =>
    obtain ⟨value, hv, hf⟩ := Option.bind_eq_some_iff.mp hp
    obtain rfl := Json.eq_object_of_fields? hf
    exact Json.keysDistinct_field? h hv

/-- Where no object has one key twice, no operation is declared twice. -/
theorem declared_pairwise {spec : Specification} (h : spec.document.keysDistinct) :
    (declared spec).Pairwise fun a b => ¬(a.path = b.path ∧ a.verb = b.verb) := by
  obtain ⟨hn, hi⟩ := (Json.keysDistinct_object _).mp (keysDistinct_paths h)
  unfold declared
  rw [List.pairwise_flatMap]
  constructor
  · rintro ⟨path, item⟩ hm
    cases item with
    | object fields =>
      have hk := ((Json.keysDistinct_object _).mp (hi _ hm)).1
      refine List.Pairwise.filterMap _ ?_ (List.pairwise_map.mp hk)
      rintro ⟨k, v⟩ ⟨l, w⟩ hne a ha b hb ⟨-, hv⟩
      obtain ⟨-, rfl, -⟩ := operation?_eq_some_iff.mp ha
      obtain ⟨-, rfl, -⟩ := operation?_eq_some_iff.mp hb
      exact hne (congrArg Verb.key hv)
    | _ => exact List.Pairwise.nil
  · refine (List.pairwise_map.mp hn).imp ?_
    rintro ⟨p, item⟩ ⟨q, other⟩ hne a ha b hb ⟨hp, -⟩
    exact hne ((mem_declaredIn.mp ha).1.trans (hp.trans (mem_declaredIn.mp hb).1.symm))

theorem lookup?_paths (spec : Specification) (path key : String) :
    spec.document.lookup? ["paths", path, key] =
      (spec.paths.lookup path).bind (Json.field? key) := by
  rw [Json.lookup?_cons]
  unfold Specification.paths Specification.paths?
  cases hp : spec.document.field? "paths" with
  | none => rfl
  | some paths =>
    rw [Option.bind_some, Option.bind_some, Json.lookup?_cons, Json.lookup?_singleton, Json.field?]
    cases paths.fields? <;> rfl

/-- An operation is planned where the document has an object under its path and verb. -/
theorem planned_iff {spec : Specification} (hd : spec.document.keysDistinct) {plan : Plan}
    (hb : build spec = .ok plan) (path : String) (verb : Verb) :
    (∃ op ∈ plan.operations, op.operation.path = path ∧ op.operation.verb = verb) ↔
      ∃ fields, spec.document.lookup? ["paths", path, verb.key] = some (.object fields) := by
  rw [operations_of_build hb, lookup?_paths]
  constructor
  · rintro ⟨op, ho, rfl, rfl⟩
    obtain ⟨op, hm, rfl⟩ := List.mem_map.mp ho
    obtain ⟨item, hi, hv⟩ := mem_declared.mp hm
    obtain ⟨hn, hk⟩ := (Json.keysDistinct_object _).mp (keysDistinct_paths hd)
    refine ⟨op.fields, ?_⟩
    change (spec.paths.lookup op.path).bind (Json.field? op.verb.key) = _
    rw [Entries.lookup_of_mem hn hi]
    exact Entries.lookup_of_mem ((Json.keysDistinct_object _).mp (hk _ hi)).1 hv
  · rintro ⟨fields, hl⟩
    obtain ⟨item, hp, hk⟩ := Option.bind_eq_some_iff.mp hl
    obtain ⟨entries, hf, hg⟩ := Option.bind_eq_some_iff.mp hk
    obtain rfl := Json.eq_object_of_fields? hf
    have hm : (⟨path, verb, fields⟩ : Operation) ∈ declared spec :=
      mem_declared.mpr ⟨entries, Entries.mem_of_lookup hp, Entries.mem_of_lookup hg⟩
    exact ⟨_, List.mem_map.mpr ⟨_, hm, rfl⟩, rfl, rfl⟩

/-- A plan is exact. If the declared operations have different method names it holds them all in
their order, and together with what is counted they are all entries. If not, it is refused: the
first operation whose method name is taken is named with the only one before it that has the name,
and their labels differ where no object has one key twice. -/
theorem build_exact (spec : Specification) :
    (((declared spec).map methodName).Nodup →
      ∃ plan, build spec = .ok plan ∧ plan.service = spec.service ∧
        plan.operations = (declared spec).map named ∧
        plan.operations.length + plan.skipped = entryCount spec) ∧
    (¬((declared spec).map methodName).Nodup →
      ∃ before second after, declared spec = before ++ second :: after ∧
        (before.map methodName).Nodup ∧
        ∃ first ∈ before, methodName first = methodName second ∧
          (∀ other ∈ before, methodName other = methodName second → other = first) ∧
          build spec = .error ⟨spec.service, methodName second, first.label, second.label⟩ ∧
          (spec.document.keysDistinct → first.label ≠ second.label)) := by
  refine ⟨build_of_nodup, fun h => ?_⟩
  obtain ⟨before, second, after, hs, hn, first, hf, hm, hb⟩ := build_of_not_nodup h
  refine ⟨before, second, after, hs, hn, first, hf, hm, fun other ho hmo => ?_, hb, fun hd => ?_⟩
  · exact List.inj_on_of_nodup_map hn ho hf (hmo.trans hm.symm)
  · have hp := declared_pairwise hd
    rw [hs, List.pairwise_append] at hp
    exact fun hl => hp.2.2 first hf second List.mem_cons_self (Operation.label_inj hl)

example : build ⟨"todos", ⟨"todos.json"⟩, .object [("paths", .object
      [("/a-b", .object [("get", .object []), ("head", .object []), ("put", .null)]),
       ("/a/b", .object [("get", .object [])])])]⟩ =
    .error ⟨"todos", "getAB", "GET /a-b", "GET /a/b"⟩ := by
  decide +kernel

end Plan

end Scaffold
