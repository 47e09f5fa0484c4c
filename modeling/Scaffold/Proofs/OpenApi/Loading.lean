import Scaffold.Proofs.OpenApi.Expands
import Scaffold.Proofs.OpenApi.Reading
import Scaffold.Proofs.Plan

/-! Operations between the document that was read and the plan. Expansion keeps what stands under
keys as long as no object on the way is a reference; one that is gives way to what it refers to,
together with the operations that stand next to the reference. -/
namespace Scaffold.OpenApi

/-- The first object on the way along some keys that is a reference, with the keys that are left. -/
def holderOn? : List String → Json → Option (Json × List String)
  | [], _ => none
  | key :: rest, value =>
    match value.fields?.bind referenceOf? with
    | some _ => some (value, key :: rest)
    | none => (value.field? key).bind (holderOn? rest)

namespace Expands

variable {docs : Documents} {active : List String} {path : Path} {value result : Json}

private theorem lookup_zip {key : String} {fields results : List (String × Json)}
    (hk : fields.map Prod.fst = results.map Prod.fst)
    (hz : ∀ pair ∈ fields.zip results, Expands docs active path pair.1.2 pair.2.2) :
    (fields.lookup key = none ∧ results.lookup key = none) ∨
      ∃ v w, fields.lookup key = some v ∧ results.lookup key = some w ∧
        Expands docs active path v w := by
  induction fields generalizing results with
  | nil =>
    rw [List.map_eq_nil_iff.mp hk.symm]
    exact .inl ⟨rfl, rfl⟩
  | cons field rest ih =>
    obtain ⟨k, v⟩ := field
    match results, hk with
    | (l, w) :: results, hk =>
      obtain ⟨hl, ht⟩ := List.cons.inj hk
      rw [List.zip_cons_cons, List.forall_mem_cons] at hz
      obtain rfl : k = l := hl
      by_cases hkey : k = key
      · exact .inr ⟨v, w, by simp [hkey], by simp [hkey], hz.1⟩
      · have hne : (key == k) = false := beq_eq_false_iff_ne.mpr (Ne.symm hkey)
        simpa only [List.lookup_cons, hne] using ih ht hz.2

/-- Where a value is no reference, its fields expand to the fields of the result. -/
theorem field? (h : Expands docs active path value result)
    (hn : value.fields?.bind referenceOf? = none) (key : String) :
    (value.field? key = none ∧ result.field? key = none) ∨
      ∃ v w, value.field? key = some v ∧ result.field? key = some w ∧
        Expands docs active path v w := by
  cases h with
  | scalar hs =>
    have hf : value.field? key = none := by cases value <;> first | rfl | cases hs
    exact .inl ⟨hf, hf⟩
  | array => exact .inl ⟨rfl, rfl⟩
  | object _ hk hz => exact lookup_zip hk hz
  | cut hf => exact absurd (hn.symm.trans hf) nofun
  | follow hf => exact absurd (hn.symm.trans hf) nofun

theorem field?_of_some (h : Expands docs active path value result)
    (hn : value.fields?.bind referenceOf? = none) {key : String} {v : Json}
    (hv : value.field? key = some v) :
    ∃ w, result.field? key = some w ∧ Expands docs active path v w := by
  rcases h.field? hn key with ⟨hnone, -⟩ | ⟨v', w, hv', hw, he⟩
  · rw [hnone] at hv
    cases hv
  · obtain rfl := Option.some.inj (hv'.symm.trans hv)
    exact ⟨w, hw, he⟩

/-- Without a reference on the way, the same keys lead through a value and through what it expands
to. -/
theorem lookup?_of_none {keys : List String} (h : Expands docs active path value result)
    (hh : holderOn? keys value = none) {target : Json} (ht : value.lookup? keys = some target) :
    ∃ expanded, result.lookup? keys = some expanded ∧
      Expands docs active path target expanded := by
  induction keys generalizing value result with
  | nil => exact ⟨result, rfl, Option.some.inj ht ▸ h⟩
  | cons key rest ih =>
    obtain ⟨v, hv, ht⟩ := Option.bind_eq_some_iff.mp ht
    cases hr : value.fields?.bind referenceOf? with
    | some reference => simp [holderOn?, hr] at hh
    | none =>
      simp only [holderOn?, hr, hv, Option.bind_some] at hh
      obtain ⟨w, hw, he⟩ := h.field?_of_some hr hv
      obtain ⟨expanded, hl, hx⟩ := ih he hh ht
      exact ⟨expanded, by rw [Json.lookup?_cons, hw, Option.bind_some, hl], hx⟩

/-- A reference on the way gives way to what it expands to, and the keys that are left lead on
through that. -/
theorem lookup?_of_some {keys rest : List String} {holder : Json}
    (h : Expands docs active path value result) (hh : holderOn? keys value = some (holder, rest)) :
    ∃ expanded, Expands docs active path holder expanded ∧
      result.lookup? keys = expanded.lookup? rest := by
  induction keys generalizing value result with
  | nil => cases hh
  | cons key others ih =>
    cases hr : value.fields?.bind referenceOf? with
    | some reference =>
      simp only [holderOn?, hr, Option.some.injEq, Prod.mk.injEq] at hh
      obtain ⟨rfl, rfl⟩ := hh
      exact ⟨result, h, rfl⟩
    | none =>
      simp only [holderOn?, hr] at hh
      obtain ⟨v, hv, hh⟩ := Option.bind_eq_some_iff.mp hh
      obtain ⟨w, hw, he⟩ := h.field?_of_some hr hv
      obtain ⟨expanded, hx, hl⟩ := ih he hh
      exact ⟨expanded, hx, by rw [Json.lookup?_cons, hw, Option.bind_some, hl]⟩

end Expands

section Loaded

variable {tree : FileTree} {service content : String} {source : Path} {raw : Json}
  {resolution : Resolution}

theorem keysDistinct_of_documents (hr : readDocument source content = .ok raw) {path : Path}
    {document : Json} (h : documents tree [(source, raw)] path = some document) :
    document.keysDistinct := by
  rcases documents_eq_some_iff.mp h with hf | ⟨-, text, -, hd⟩
  · obtain ⟨entry, he, hd⟩ := Option.map_eq_some_iff.mp hf
    obtain rfl := List.mem_singleton.mp (List.mem_of_find?_eq_some he)
    rw [← hd]
    exact keysDistinct_of_readDocument hr
  · exact keysDistinct_of_readDocument hd

/-- A loaded document is what the document that was read expands to. -/
theorem expands_of_load (hl : load tree service source = .ok resolution)
    (hc : tree.readText source = .ok content) (hr : readDocument source content = .ok raw) :
    ∃ document, resolution = Resolution.of ⟨service, source, document⟩ ∧
      Expands (documents tree [(source, raw)]) [] source raw document ∧
      document.keysDistinct := by
  obtain ⟨document, hd, rfl⟩ := Except.exists_of_map_eq_ok hl
  obtain ⟨text, value, library, ht, hv, -, ho⟩ := documentAt_eq_ok_iff.mp hd
  obtain rfl := Except.ok.inj (hc.symm.trans ht)
  obtain rfl := Except.ok.inj (hr.symm.trans hv)
  have hroot : documents tree [(source, raw)] source = some raw := by
    simp [documents, Library.find?, Path.same_refl]
  have he : Expands (documents tree [(source, raw)]) [] source raw document := by
    obtain ⟨value, hv, he⟩ := expands_of_dereference rfl ho
    exact Option.some.inj (hroot.symm.trans hv) ▸ he
  refine ⟨document, rfl, he, ?_⟩
  exact he.keysDistinct (fun _ _ => keysDistinct_of_documents hr) (keysDistinct_of_readDocument hr)

theorem load_of_readDocument {document : Json} {library : Library}
    (hc : tree.readText source = .ok content) (hr : readDocument source content = .ok raw)
    (hs : checkStructure raw = .ok ())
    (hd : dereference tree nestingLimit source [(source, raw)] = some (.ok document, library)) :
    load tree service source = .ok (Resolution.of ⟨service, source, document⟩) := by
  rw [load, documentAt_eq_ok_iff.mpr ⟨content, raw, library, hc, hr, hs, hd⟩]
  rfl

theorem Expands.exists_fields {docs : Documents} {active : List String} {path : Path}
    {fields : Fields} {result : Json} (h : Expands docs active path (.object fields) result)
    (hn : referenceOf? fields = none) : ∃ expanded, result = .object expanded := by
  cases h with
  | scalar hs => cases hs
  | object => exact ⟨_, rfl⟩
  | cut hf => exact absurd (hn.symm.trans hf) nofun
  | follow hf => exact absurd (hn.symm.trans hf) nofun

theorem paths_ne_nil_of_lookup? {spec : Specification} {path key : String} {value : Json}
    (h : spec.document.lookup? ["paths", path, key] = some value) : spec.paths ≠ [] := by
  intro hp
  rw [Plan.lookup?_paths, hp] at h
  cases h

/-- What becomes of an operation of the document that was read. If no object above it is a
reference, there is a specification with it, and no plan leaves it out. If one is, the operation is
planned where the expansion of that reference has an object in its place. -/
theorem planned_of_load {tree : FileTree} {service content path : String} {source : Path}
    {raw : Json} {resolution : Resolution} {verb : Verb} {op : Fields}
    (hl : load tree service source = .ok resolution) (hc : tree.readText source = .ok content)
    (hr : readDocument source content = .ok raw)
    (ho : raw.lookup? ["paths", path, verb.key] = some (.object op))
    (hn : op.lookup "$ref" = none) :
    (holderOn? ["paths", path, verb.key] raw = none →
      ∃ spec, resolution = .operations spec ∧ ∀ plan, Plan.build spec = .ok plan →
        ∃ planned ∈ plan.operations,
          planned.operation.path = path ∧ planned.operation.verb = verb) ∧
    ∀ holder rest, holderOn? ["paths", path, verb.key] raw = some (holder, rest) →
      ∀ spec plan, resolution = .operations spec → Plan.build spec = .ok plan →
        ((∃ planned ∈ plan.operations,
            planned.operation.path = path ∧ planned.operation.verb = verb) ↔
          ∃ expanded fields, Expands (documents tree [(source, raw)]) [] source holder expanded ∧
            expanded.lookup? rest = some (.object fields)) := by
  obtain ⟨document, rfl, he, hd⟩ := expands_of_load hl hc hr
  constructor
  · intro hh
    -- The keys lead through the expansion, and no object on the way can have become another value.
    obtain ⟨expanded, hx, hop⟩ := he.lookup?_of_none hh ho
    have href : referenceOf? op = none := by rw [referenceOf?, hn, Option.bind_none]
    obtain ⟨fields, rfl⟩ := hop.exists_fields href
    refine ⟨⟨service, source, document⟩, ?_, fun plan hb => ?_⟩
    · exact if_neg fun hp => paths_ne_nil_of_lookup? hx (List.isEmpty_iff.mp hp)
    · exact (Plan.planned_iff hd hb path verb).mpr ⟨fields, hx⟩
  · intro holder rest hh spec plan hs hb
    have hspec : spec = ⟨service, source, document⟩ := by
      unfold Resolution.of at hs
      split at hs
      · cases hs
      · exact (Resolution.operations.inj hs).symm
    subst hspec
    obtain ⟨expanded, hx, hlook⟩ := he.lookup?_of_some hh
    rw [Plan.planned_iff hd hb, hlook]
    constructor
    · rintro ⟨fields, hf⟩
      exact ⟨expanded, fields, hx, hf⟩
    · rintro ⟨other, fields, hy, hf⟩
      exact ⟨fields, hx.unique hy ▸ hf⟩

end Loaded

/-- The text of a document with an operation, and with two more next to references. -/
def mixedText : String :=
  "openapi: 3.0.0\ninfo: \x7btitle: t, version: v\x7d\n" ++
    "paths: \x7b/a: \x7bget: \x7bresponses: \x7b\x7d\x7d\x7d, " ++
    "/b: \x7b$ref: '#/paths/~1a', get: \x7bresponses: \x7b\x7d\x7d\x7d, " ++
    "/c: \x7b$ref: '#/info', get: \x7bresponses: \x7b\x7d\x7d\x7d\x7d"

def infoSection : Json := .object [("title", .string "t"), ("version", .string "v")]

def plainItem : Json := .object [("get", .object [("responses", .object [])])]

/-- A path item with an operation next to a reference. -/
def referringItem (reference : String) : Json :=
  .object [("$ref", .string reference), ("get", .object [("responses", .object [])])]

/-- The value of that document, with values for two of its path items. -/
def mixedDocument (second third : Json) : Json :=
  .object [("openapi", .string "3.0.0"), ("info", infoSection),
    ("paths", .object [("/a", plainItem), ("/b", second), ("/c", third)])]

def mixedTree : FileTree := ⟨[], [(["todos.yml"], .file mixedText.toUTF8)]⟩

private theorem load_mixedTree :
    let raw := mixedDocument (referringItem "#/paths/~1a") (referringItem "#/info")
    mixedTree.readText ⟨"todos.yml"⟩ = .ok mixedText ∧
      readDocument ⟨"todos.yml"⟩ mixedText = .ok raw ∧
      load mixedTree "todos" ⟨"todos.yml"⟩ =
        .ok (.operations ⟨"todos", ⟨"todos.yml"⟩, mixedDocument plainItem infoSection⟩) := by
  intro raw
  have hc : mixedTree.readText ⟨"todos.yml"⟩ = .ok mixedText := by decide +kernel
  have hr : readDocument ⟨"todos.yml"⟩ mixedText = .ok raw := by decide +kernel
  have hs : checkStructure raw = .ok () := by decide +kernel
  have hd : dereference mixedTree nestingLimit ⟨"todos.yml"⟩ [(⟨"todos.yml"⟩, raw)] =
      some (.ok (mixedDocument plainItem infoSection), [(⟨"todos.yml"⟩, raw)]) := by
    decide +kernel
  exact ⟨hc, hr, load_of_readDocument hc hr hs hd⟩

/-- Without a reference above it an operation is planned. With one, it is planned where what the
reference leads to has an operation too. -/
theorem planned_mixedTree :
    let raw := mixedDocument (referringItem "#/paths/~1a") (referringItem "#/info")
    let docs := documents mixedTree [(⟨"todos.yml"⟩, raw)]
    ∃ spec plan, load mixedTree "todos" ⟨"todos.yml"⟩ = .ok (.operations spec) ∧
      Plan.build spec = .ok plan ∧
      plan.operations.map (·.operation.path) = ["/a", "/b"] ∧
      (∃ planned ∈ plan.operations,
        planned.operation.path = "/a" ∧ planned.operation.verb = .get) ∧
      (∃ expanded fields,
        Expands docs [] ⟨"todos.yml"⟩ (referringItem "#/paths/~1a") expanded ∧
          expanded.lookup? ["get"] = some (.object fields)) ∧
      ¬∃ expanded fields, Expands docs [] ⟨"todos.yml"⟩ (referringItem "#/info") expanded ∧
        expanded.lookup? ["get"] = some (.object fields) := by
  intro raw docs
  obtain ⟨hc, hr, hl⟩ := load_mixedTree
  have hop : ∀ path ∈ ["/a", "/b", "/c"], raw.lookup? ["paths", path, Verb.get.key] =
      some (.object [("responses", .object [])]) := by
    decide +kernel
  have hplain : holderOn? ["paths", "/a", Verb.get.key] raw = none := rfl
  have hsecond : holderOn? ["paths", "/b", Verb.get.key] raw =
      some (referringItem "#/paths/~1a", ["get"]) := rfl
  have hthird : holderOn? ["paths", "/c", Verb.get.key] raw =
      some (referringItem "#/info", ["get"]) := rfl
  have hplanned : (Plan.build ⟨"todos", ⟨"todos.yml"⟩,
      mixedDocument plainItem infoSection⟩).toOption.map (fun plan =>
        plan.operations.map fun op => (op.operation.path, op.operation.verb)) =
          some [("/a", .get), ("/b", .get)] := by
    decide +kernel
  cases hb : Plan.build ⟨"todos", ⟨"todos.yml"⟩, mixedDocument plainItem infoSection⟩ with
  | error e =>
    rw [hb] at hplanned
    cases hplanned
  | ok plan =>
    rw [hb] at hplanned
    have hentries : plan.operations.map (fun op => (op.operation.path, op.operation.verb)) =
        [("/a", .get), ("/b", .get)] := Option.some.inj hplanned
    have hmem (path : String) : (∃ planned ∈ plan.operations,
        planned.operation.path = path ∧ planned.operation.verb = .get) ↔
          (path, Verb.get) ∈ [("/a", Verb.get), ("/b", .get)] := by
      rw [← hentries, List.mem_map]
      simp
    have hpaths : plan.operations.map (·.operation.path) = ["/a", "/b"] := by
      have h := congrArg (List.map Prod.fst) hentries
      rw [List.map_map] at h
      exact h
    obtain ⟨spec, hspec, hfirst⟩ := (planned_of_load hl hc hr (hop "/a" (by simp)) rfl).1 hplain
    obtain rfl := Resolution.operations.inj hspec
    have hb' := (planned_of_load hl hc hr (hop "/b" (by simp)) rfl).2 _ _ hsecond _ _ rfl hb
    have hc' := (planned_of_load hl hc hr (hop "/c" (by simp)) rfl).2 _ _ hthird _ _ rfl hb
    exact ⟨_, plan, hl, hb, hpaths, hfirst plan hb, hb'.mp ((hmem "/b").mpr (by decide)),
      fun h => absurd ((hmem "/c").mp (hc'.mpr h)) (by decide)⟩

/-- The text of a document with an operation next to a reference. -/
def sharedText : String :=
  "openapi: 3.0.0\ninfo: \x7btitle: t, version: v\x7d\nx-a: \x7b\x7d\n" ++
    "paths: \x7b/a: \x7b$ref: '#/x-a', get: \x7bresponses: \x7b\x7d\x7d\x7d\x7d"

def sharedTree : FileTree := ⟨[], [(["todos.yml"], .file sharedText.toUTF8)]⟩

/-- The value of that document, with a value for its path item. -/
def sharedDocument (item : Json) : Json :=
  .object [("openapi", .string "3.0.0"), ("info", infoSection), ("x-a", .object []),
    ("paths", .object [("/a", item)])]

/-- That document loads, and its operation is neither planned nor counted. -/
theorem lost_of_sharedTree :
    readDocument ⟨"todos.yml"⟩ sharedText =
      .ok (sharedDocument (.object [("$ref", .string "#/x-a"),
        ("get", .object [("responses", .object [])])])) ∧
    load sharedTree "todos" ⟨"todos.yml"⟩ =
      .ok (.operations ⟨"todos", ⟨"todos.yml"⟩, sharedDocument (.object [])⟩) ∧
    Plan.build ⟨"todos", ⟨"todos.yml"⟩, sharedDocument (.object [])⟩ = .ok ⟨"todos", [], 0⟩ := by
  have hc : sharedTree.readText ⟨"todos.yml"⟩ = .ok sharedText := by decide +kernel
  let raw := sharedDocument (.object [("$ref", .string "#/x-a"),
    ("get", .object [("responses", .object [])])])
  have hr : readDocument ⟨"todos.yml"⟩ sharedText = .ok raw := by decide +kernel
  have hs : checkStructure raw = .ok () := by decide +kernel
  have hd : dereference sharedTree nestingLimit ⟨"todos.yml"⟩ [(⟨"todos.yml"⟩, raw)] =
      some (.ok (sharedDocument (.object [])), [(⟨"todos.yml"⟩, raw)]) := by
    decide +kernel
  exact ⟨hr, load_of_readDocument hc hr hs hd, by decide +kernel⟩

end Scaffold.OpenApi
