import Mathlib.Logic.Relation
import Scaffold.OpenApi.Structure
import Scaffold.Proofs.Plan
import Scaffold.TypeScript.Controller

/-! Entries of path items that do not count, for the check of the structure and for the plan. The
check leaves them out, the plan passes over them, and so a document may gain or lose them without a
change to what is accepted and to what is generated. -/
namespace Scaffold

namespace Plan

/-- A plan that has passed over some more entries. -/
def passOver (n : Nat) (plan : Plan) : Plan := { plan with skipped := plan.skipped + n }

theorem passOver_passOver (m n : Nat) (plan : Plan) :
    (plan.passOver m).passOver n = plan.passOver (m + n) := by
  simp only [passOver, Nat.add_assoc]

theorem add_passOver (n : Nat) (plan : Plan) (entry : PathEntry) :
    add (plan.passOver n) entry = (add plan entry).map (passOver n) := by
  unfold add
  cases planned? entry with
  | none =>
    have hcount : plan.skipped + n + 1 = plan.skipped + 1 + n := by omega
    simp only [passOver, Except.map, hcount]
  | some next =>
    have hfound : (plan.passOver n).operations = plan.operations := rfl
    dsimp only
    rw [hfound]
    cases plan.operations.find? (·.names.method = next.names.method) with
    | none => rfl
    | some first => rfl

theorem foldlM_add_passOver (n : Nat) (plan : Plan) (entries : List PathEntry) :
    entries.foldlM add (plan.passOver n) = (entries.foldlM add plan).map (passOver n) := by
  induction entries generalizing plan with
  | nil => rfl
  | cons entry rest ih =>
    rw [List.foldlM_cons, List.foldlM_cons, add_passOver]
    cases add plan entry with
    | error e => rfl
    | ok next => exact ih next

/-- Entries that are no operations can be left out: only their number is missing then. -/
theorem foldlM_add_filter {keep : PathEntry → Bool} {entries : List PathEntry}
    (h : ∀ entry ∈ entries, keep entry = false → planned? entry = none) (plan : Plan) :
    entries.foldlM add plan =
      ((entries.filter keep).foldlM add plan).map (passOver (entries.countP (!keep ·))) := by
  induction entries generalizing plan with
  | nil => rfl
  | cons entry rest ih =>
    obtain ⟨hentry, hrest⟩ := List.forall_mem_cons.mp h
    cases hk : keep entry with
    | true =>
      have hcount : (entry :: rest).countP (!keep ·) = rest.countP (!keep ·) :=
        List.countP_cons_of_neg (by simp [hk])
      rw [List.filter_cons_of_pos hk, hcount, List.foldlM_cons, List.foldlM_cons]
      cases add plan entry with
      | error e => rfl
      | ok next => exact ih hrest next
    | false =>
      -- The entry is passed over first; the count can be put off to the end of the fold.
      have hcount : (entry :: rest).countP (!keep ·) = rest.countP (!keep ·) + 1 :=
        List.countP_cons_of_pos (by simp [hk])
      have hnone : add plan entry = .ok (plan.passOver 1) := add_of_none (hentry hk)
      have hkept : (entry :: rest).filter keep = rest.filter keep :=
        List.filter_cons_of_neg (by simp [hk])
      rw [hkept, hcount, List.foldlM_cons, hnone]
      change rest.foldlM add (plan.passOver 1) = _
      rw [foldlM_add_passOver, ih hrest plan]
      cases (rest.filter keep).foldlM add plan with
      | error e => rfl
      | ok last =>
        simp only [Except.map, passOver_passOver]

end Plan

namespace OpenApi

variable {document document' : Json}

/-- How many entries of a path item do not count. -/
def strippedIn : Json → Nat
  | .object fields => fields.countP fun (key, value) => !isStructural key value
  | _ => 0

/-- How many entries of some path items do not count. -/
def strippedInPaths : List (String × Json) → Nat
  | [] => 0
  | (_, item) :: rest => strippedIn item + strippedInPaths rest

/-- How many entries of its path items a document has that do not count. -/
def strippedCount (document : Json) : Nat :=
  strippedInPaths (((document.field? "paths").bind Json.fields?).getD [])

/-- The entry counts for the check. -/
def counts (entry : PathEntry) : Bool := isStructural entry.key entry.value

theorem Verb.key_mem_operationKeys (verb : Verb) : operationKeys.contains verb.key = true := by
  cases verb <;> decide

theorem planned?_of_not_counts {entry : PathEntry} (h : counts entry = false) :
    Plan.planned? entry = none := by
  rw [Plan.planned?_eq, Option.map_eq_none_iff]
  by_contra hsome
  obtain ⟨op, hop⟩ := Option.ne_none_iff_exists'.mp hsome
  obtain ⟨-, hkey, hvalue⟩ := Plan.operation?_eq_some_iff.mp hop
  have hcounts : counts entry = true := by
    rw [counts, isStructural, hkey, if_pos op.verb.key_mem_operationKeys, hvalue]
    rfl
  rw [h] at hcounts
  cases hcounts

theorem fields?_stripPaths (paths : Json) :
    (stripPaths paths).fields? =
      paths.fields?.map (·.map fun (path, item) => (path, stripPathItem item)) := by
  cases paths <;> rfl

theorem fields?_stripPathItem (item : Json) :
    (stripPathItem item).fields? =
      item.fields?.map (·.filter fun (key, value) => isStructural key value) := by
  cases item <;> rfl

theorem lookup_paths_stripFields (fields : Fields) :
    (stripFields fields).lookup "paths" =
      some (((fields.lookup "paths").map stripPaths).getD (.object [])) := by
  unfold stripFields
  cases hp : fields.lookup "paths" with
  | none =>
    simp only [List.lookup_append, hp, Option.none_or]
    rfl
  | some paths => rw [Entries.lookup_put_self, Option.map_some, Option.getD_some]

theorem lookup_stripFields_of_ne {key : String} (h : "paths" ≠ key) (fields : Fields) :
    (stripFields fields).lookup key = fields.lookup key := by
  unfold stripFields
  cases hp : fields.lookup "paths" with
  | none =>
    rw [List.lookup_append]
    simp [Entries.lookup_cons, h.symm]
  | some paths => rw [Entries.lookup_put_of_ne h.symm]

theorem paths_strip (service : String) (source : Path) (document : Json) :
    Specification.paths ⟨service, source, strip document⟩ =
      (Specification.paths ⟨service, source, document⟩).map
        fun (path, item) => (path, stripPathItem item) := by
  unfold Specification.paths Specification.paths? strip
  cases document with
  | object fields =>
    simp only [Json.field?, Json.fields?, Option.bind_some, lookup_paths_stripFields]
    cases fields.lookup "paths" with
    | none => rfl
    | some paths =>
      simp only [Option.map_some, Option.getD_some, Option.bind_some]
      have hfields := fields?_stripPaths paths
      unfold Json.fields? at hfields
      rw [hfields]
      cases paths <;> rfl
  | _ => rfl

theorem entries_strip (service : String) (source : Path) (document : Json) :
    Plan.entries ⟨service, source, strip document⟩ =
      (Plan.entries ⟨service, source, document⟩).filter counts := by
  unfold Plan.entries
  rw [paths_strip, List.flatMap_map, List.filter_flatMap]
  congr 1
  funext ⟨path, item⟩
  dsimp only
  rw [fields?_stripPathItem]
  cases item with
  | object fields =>
    simp only [Json.fields?, Option.map_some, Option.getD_some, List.filter_map]
    rfl
  | _ => rfl

theorem countP_entries (service : String) (source : Path) (document : Json) :
    (Plan.entries ⟨service, source, document⟩).countP (!counts ·) = strippedCount document := by
  unfold Plan.entries
  change List.countP _ (List.flatMap _ (Specification.paths ⟨service, source, document⟩)) =
    strippedInPaths (Specification.paths ⟨service, source, document⟩)
  induction Specification.paths ⟨service, source, document⟩ with
  | nil => rfl
  | cons pathItem rest ih =>
    obtain ⟨path, item⟩ := pathItem
    rw [List.flatMap_cons, List.countP_append, ih, strippedInPaths]
    congr 1
    cases item with
    | object fields => exact List.countP_map ..
    | _ => rfl

/-- The plan of a document is that of the stripped one, but for the entries passed over. -/
theorem build_eq_of_strip (service : String) (source : Path) (document : Json) :
    Plan.build ⟨service, source, document⟩ =
      (Plan.build ⟨service, source, strip document⟩).map
        (Plan.passOver (strippedCount document)) := by
  have hnone : ∀ entry ∈ Plan.entries ⟨service, source, document⟩, counts entry = false →
      Plan.planned? entry = none := fun _ _ h => planned?_of_not_counts h
  have hfold := Plan.foldlM_add_filter hnone ⟨service, [], 0⟩
  rw [countP_entries, ← entries_strip] at hfold
  exact hfold

/-- The check, of a document that is stripped already. -/
def checkStripped (stripped : Json) : Except StructureError Unit :=
  match stripped with
  | .object fields =>
    match (fields.lookup "openapi").bind Json.text? with
    | none => .error .missingVersion
    | some version =>
      match dialect? version with
      | none => .error (.unsupportedVersion version)
      | some dialect =>
        if dialect.fits stripped (.object .document) then .ok () else .error (.mismatch version)
  | _ => .error .notObject

theorem checkStructure_eq (document : Json) :
    checkStructure document = checkStripped (strip document) := by
  cases document with
  | object fields =>
    have hversion : List.lookup "openapi" (stripFields fields) = fields.lookup "openapi" :=
      lookup_stripFields_of_ne (by decide) fields
    rewrite [strip, checkStructure, checkStripped, hversion]
    rfl
  | _ => rfl

theorem checkStructure_of_strip_eq (h : strip document = strip document') :
    checkStructure document = checkStructure document' := by
  rw [checkStructure_eq, h, ← checkStructure_eq]

/-- What a plan comes to without the count of what was passed over, or the collision, depends on the
stripped copy only. -/
theorem map_build_of_strip_eq {α : Type} {f : Plan → α}
    (hf : ∀ n (plan : Plan), f (plan.passOver n) = f plan) (service : String) (source : Path)
    (h : strip document = strip document') :
    (Plan.build ⟨service, source, document⟩).map f =
      (Plan.build ⟨service, source, document'⟩).map f := by
  have hpass (n : Nat) (result : Except NameCollision Plan) :
      (result.map (Plan.passOver n)).map f = result.map f := by
    cases result with
    | error _ => rfl
    | ok plan => exact congrArg Except.ok (hf n plan)
  rw [build_eq_of_strip, build_eq_of_strip service source document', hpass, hpass, h]

/-- A path item of a document gains an entry that does not count. -/
inductive Gains : Json → Json → Prop
  | entry {fields front back : Fields} {before after : Fields} {path key : String} {value : Json} :
      fields.lookup "paths" =
        some (.object (before ++ (path, .object (front ++ back)) :: after)) →
      isStructural key value = false →
      Gains (.object fields) (.object (Entries.put "paths"
        (.object (before ++ (path, .object (front ++ (key, value) :: back)) :: after)) fields))

theorem strip_eq_of_gains (h : Gains document document') : strip document = strip document' := by
  obtain @⟨fields, front, back, before, after, path, key, value, hpaths, hvalue⟩ := h
  have hitem : stripPathItem (.object (front ++ (key, value) :: back)) =
      stripPathItem (.object (front ++ back)) := by
    simp [stripPathItem, hvalue]
  have hitems : stripPaths
      (.object (before ++ (path, .object (front ++ (key, value) :: back)) :: after)) =
      stripPaths (.object (before ++ (path, .object (front ++ back)) :: after)) := by
    simp only [stripPaths, List.map_append, List.map_cons, hitem]
  have hfound := Entries.lookup_put_self "paths"
    (Json.object (before ++ (path, .object (front ++ (key, value) :: back)) :: after)) fields
  simp only [strip, stripFields, hpaths, hfound, hitems, Entries.put_put]

theorem strip_eq_of_eqvGen_gains (h : Relation.EqvGen Gains document document') :
    strip document = strip document' := by
  induction h with
  | rel _ _ hgains => exact strip_eq_of_gains hgains
  | refl _ => rfl
  | symm _ _ _ ih => exact ih.symm
  | trans _ _ _ _ _ ihl ihr => exact ihl.trans ihr

/-- The check and the plan agree on what they pass over. What is checked of a document is its
stripped copy, and the document has the plan of that, or the same collision, save that all the
stripped entries are counted in addition. Documents with one stripped copy fare alike in the check
and have the same operations and one controller, and so do those that differ by entries which do not
count. -/
theorem plan_agrees_with_strip (service : String) (source : Path) :
    (∀ document, checkStructure document = checkStripped (strip document)) ∧
    (∀ document, Plan.build ⟨service, source, document⟩ =
      (Plan.build ⟨service, source, strip document⟩).map fun plan =>
        { plan with skipped := plan.skipped + strippedCount document }) ∧
    (∀ document document', Relation.EqvGen Gains document document' →
      strip document = strip document') ∧
    ∀ document document', strip document = strip document' →
      checkStructure document = checkStructure document' ∧
      (Plan.build ⟨service, source, document⟩).map Plan.operations =
        (Plan.build ⟨service, source, document'⟩).map Plan.operations ∧
      ∀ controllers,
        (Plan.build ⟨service, source, document⟩).map (TypeScript.controllerArtifact controllers) =
          (Plan.build ⟨service, source, document'⟩).map
            (TypeScript.controllerArtifact controllers) := by
  refine ⟨checkStructure_eq, build_eq_of_strip service source,
    fun _ _ => strip_eq_of_eqvGen_gains,
    fun document document' h => ⟨checkStructure_of_strip_eq h, ?_, fun controllers => ?_⟩⟩
  · exact map_build_of_strip_eq (fun _ _ => rfl) service source h
  · exact map_build_of_strip_eq (fun _ _ => rfl) service source h

/-- A document with one path, whose item has these entries. -/
def itemDocument (item : Fields) : Json :=
  .object [("openapi", .string "3.0.0"),
    ("info", .object [("title", .string "t"), ("version", .string "v")]),
    ("paths", .object [("/a", .object item)])]

/-- A path item gains a note, and a verb without an operation on both sides is passed over. -/
theorem plan_agrees_itemDocument :
    let plain :=
      itemDocument [("put", .string "later"), ("get", .object [("responses", .object [])])]
    let noted := itemDocument [("put", .string "later"), ("note", .null),
      ("get", .object [("responses", .object [])])]
    Gains plain noted ∧ checkStructure plain = .ok () ∧ checkStructure noted = .ok () ∧
      (Plan.build ⟨"todos", ⟨"a.json"⟩, plain⟩).map Plan.operations =
        (Plan.build ⟨"todos", ⟨"a.json"⟩, noted⟩).map Plan.operations ∧
      (Plan.build ⟨"todos", ⟨"a.json"⟩, plain⟩).map Plan.skipped = .ok 1 ∧
      (Plan.build ⟨"todos", ⟨"a.json"⟩, noted⟩).map Plan.skipped = .ok 2 := by
  intro plain noted
  have hgains : Gains plain noted := by
    have hnote : isStructural "note" .null = false := by decide +kernel
    have hpaths : List.lookup "paths" [("openapi", Json.string "3.0.0"),
        ("info", .object [("title", .string "t"), ("version", .string "v")]),
        ("paths", .object [("/a", .object ([("put", .string "later")] ++
          [("get", .object [("responses", .object [])])]))])] =
        some (.object ([] ++ ("/a", .object ([("put", .string "later")] ++
          [("get", .object [("responses", .object [])])])) :: [])) := by
      decide +kernel
    exact .entry hpaths hnote
  have hcheck : checkStructure plain = .ok () := by decide +kernel
  obtain ⟨-, hbuild, hgain, hagree⟩ := plan_agrees_with_strip "todos" ⟨"a.json"⟩
  obtain ⟨hsame, hoperations, -⟩ := hagree plain noted (hgain plain noted (.rel _ _ hgains))
  have hcount : strippedCount plain = 1 ∧ strippedCount noted = 2 := by decide +kernel
  have hstripped : (Plan.build ⟨"todos", ⟨"a.json"⟩, strip plain⟩).map Plan.skipped = .ok 0 ∧
      (Plan.build ⟨"todos", ⟨"a.json"⟩, strip noted⟩).map Plan.skipped = .ok 0 := by
    decide +kernel
  have hskipped (n : Nat) (result : Except NameCollision Plan) :
      (result.map fun plan => { plan with skipped := plan.skipped + n }).map Plan.skipped =
        (result.map Plan.skipped).map (· + n) := by
    cases result <;> rfl
  refine ⟨hgains, hcheck, hsame ▸ hcheck, hoperations, ?_, ?_⟩
  · rw [hbuild plain, hskipped, hstripped.1, hcount.1]
    rfl
  · rw [hbuild noted, hskipped, hstripped.2, hcount.2]
    rfl

end OpenApi

end Scaffold
