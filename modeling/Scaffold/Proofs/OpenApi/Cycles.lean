import Scaffold.Proofs.OpenApi.Termination
import Scaffold.Proofs.OpenApi.Unfolding

/-! Which references an expansion leaves alone. What is left is a copy of what some document holds,
and the node that it designates leads back to itself. A reference inside one that is left has not
been looked at, and says nothing. -/
namespace Scaffold.OpenApi

open Relation

/-- An object stands somewhere in a value. -/
def LiesIn (fields : List (String × Json)) (value : Json) : Prop :=
  Json.Within (fun _ => True) (.object fields) value

/-- An object stands in a value outside of its references. -/
def StandsIn (fields : List (String × Json)) (value : Json) : Prop :=
  Json.Within (referenceOf? · = none) (.object fields) value

/-- What stands under `$ref` in a value is a text everywhere. -/
def ReferencesAreTexts (value : Json) : Prop :=
  ∀ fields, LiesIn fields value → ∀ content, ("$ref", content) ∈ fields → content.text?.isSome

/-- Nodes that are reached from a node are known by different keys. -/
def KeysTell (docs : Documents) (start : Node) : Prop :=
  ∀ n m, ReflTransGen (Node.Leads docs) start n → ReflTransGen (Node.Leads docs) start m →
    n.key = m.key → n = m

/-- An object with a reference stands in the value of a node that is reached, and what the
reference designates there leads back to itself. -/
def LeftForCycle (docs : Documents) (start : Node) (fields : List (String × Json)) : Prop :=
  ∃ n value reference node, ReflTransGen (Node.Leads docs) start n ∧
    n.value? docs = some value ∧ StandsIn fields value ∧ referenceOf? fields = some reference ∧
    designated n.path reference = .ok node ∧ TransGen (Node.Leads docs) node node

variable {docs : Documents} {tree : FileTree} {start : Node} {value : Json}
  {fields : List (String × Json)} {reference : String}

theorem mem_referencesIn_of_standsIn (h : StandsIn fields value)
    (hr : referenceOf? fields = some reference) : reference ∈ referencesIn value := by
  induction h with
  | refl => exact referencesIn_of_some hr ▸ List.mem_singleton_self reference
  | item hm _ ih => exact referencesIn_item hm ih
  | field ht hm _ ih => exact referencesIn_field ht hm ih

theorem exists_standsIn_of_mem (h : reference ∈ referencesIn value) :
    ∃ fields, StandsIn fields value ∧ referenceOf? fields = some reference := by
  induction value using Json.induction with
  | array items ih =>
    rw [referencesIn_array] at h
    obtain ⟨item, hm, h⟩ := List.mem_flatMap.mp h
    obtain ⟨fields, hs, hr⟩ := ih item hm h
    exact ⟨fields, .item hm hs, hr⟩
  | object outer ih =>
    cases ho : referenceOf? outer with
    | some text =>
      rw [referencesIn_of_some ho, List.mem_singleton] at h
      exact ⟨outer, .refl, h ▸ ho⟩
    | none =>
      rw [referencesIn_of_none ho] at h
      obtain ⟨field, hm, h⟩ := List.mem_flatMap.mp h
      obtain ⟨fields, hs, hr⟩ := ih field hm h
      exact ⟨fields, .field ho hm hs, hr⟩
  | _ => cases h

/-- Around each reference there is one that stands outside of all others. -/
theorem exists_standsIn_of_liesIn (h : LiesIn fields value)
    (hr : (referenceOf? fields).isSome) :
    ∃ holder, (referenceOf? holder).isSome ∧ StandsIn holder value ∧
      LiesIn fields (.object holder) := by
  induction h with
  | refl => exact ⟨fields, hr, .refl, .refl⟩
  | item hm _ ih =>
    obtain ⟨holder, hh, hs, hl⟩ := ih
    exact ⟨holder, hh, .item hm hs, hl⟩
  | @field outer field _ hm hw ih =>
    cases ho : referenceOf? outer with
    | some reference =>
      have hsome : (referenceOf? outer).isSome := by rw [ho]; rfl
      exact ⟨outer, hsome, .refl, .field trivial hm hw⟩
    | none =>
      obtain ⟨holder, hh, hs, hl⟩ := ih
      exact ⟨holder, hh, .field ho hm hs, hl⟩

theorem referencesAreTexts_string (text : String) : ReferencesAreTexts (.string text) := by
  intro fields hf
  cases hf

theorem referencesAreTexts_object :
    ReferencesAreTexts (.object fields) ↔
      ∀ field ∈ fields, (field.1 = "$ref" → field.2.text?.isSome) ∧
        ReferencesAreTexts field.2 := by
  constructor
  · rintro h ⟨key, content⟩ hm
    refine ⟨?_, fun inner hf => h inner (.field trivial hm hf)⟩
    rintro rfl
    exact h fields .refl content hm
  · intro h inner hf
    cases hf with
    | refl => exact fun content hm => (h _ hm).1 rfl
    | field _ hm hf => exact (h _ hm).2 inner hf

private theorem ReferencesAreTexts.within {inner : Json} (h : ReferencesAreTexts value)
    (hw : Json.Within (fun _ => True) inner value) : ReferencesAreTexts inner :=
  fun fields hf => h fields (hf.trans hw)

/-- Where references are texts, an object that is none has no `$ref`, and neither has another one
with its keys. -/
private theorem ReferencesAreTexts.referenceOf?_eq_none {results : List (String × Json)}
    (h : ReferencesAreTexts (.object fields)) (hf : referenceOf? fields = none)
    (hk : fields.map Prod.fst = results.map Prod.fst) : referenceOf? results = none := by
  have hnone : fields.lookup "$ref" = none := by
    cases hg : fields.lookup "$ref" with
    | none => rfl
    | some content =>
      have htext := h fields .refl content (Entries.mem_of_lookup hg)
      rw [referenceOf?, hg, Option.bind_some] at hf
      rw [hf] at htext
      cases htext
  rw [Entries.lookup_eq_none_iff, hk, ← Entries.lookup_eq_none_iff] at hnone
  rw [referenceOf?, hnone, Option.bind_none]

/-- A reference of an object stands in the value of a node that is reached, and designates a node
with the key of one on the way there. -/
private def LeftOnTheWay (docs : Documents) (start : Node) (fields : List (String × Json))
    (reference : String) : Prop :=
  ∃ n target next m, ReflTransGen (Node.Leads docs) start n ∧ n.value? docs = some target ∧
    StandsIn fields target ∧ designated n.path reference = .ok next ∧ n.Leads docs next ∧
    ReflTransGen (Node.Leads docs) start m ∧ ReflTransGen (Node.Leads docs) m n ∧ m.key = next.key

/-- A reference that stands in a result has been left on the way to it. -/
private theorem Expands.leftOnTheWay {node : Node} {active : List String} {path : Path}
    {whole result : Json}
    (hd : ∀ q document, docs q = some document → ReferencesAreTexts document)
    (h : Expands docs active path value result) (hp : node.path = path)
    (hs : ReflTransGen (Node.Leads docs) start node) (ha : OnTheWay docs start node active)
    (hw : node.value? docs = some whole) (hv : Json.Within (referenceOf? · = none) value whole)
    (hf : StandsIn fields result) (hr : referenceOf? fields = some reference) :
    LeftOnTheWay docs start fields reference := by
  induction h generalizing node whole with
  | scalar hscalar =>
    cases hf with
    | refl => cases hscalar
    | item => cases hscalar
    | field => cases hscalar
  | array hl hz ih =>
    cases hf with
    | item hm hf =>
      obtain ⟨item, hpair⟩ := Expands.exists_left hl hm
      have hin := (Json.Within.item (List.of_mem_zip hpair).1 .refl).trans hv
      exact ih _ hpair hp hs ha hw hin hf
  | object hnone hk hz ih =>
    obtain ⟨document, hdoc, hpointer⟩ := Option.bind_eq_some_iff.mp hw
    have htexts := (hd _ _ hdoc).within (hv.anywhere.trans (.of_pointer? hpointer))
    cases hf with
    | refl =>
      -- The result has no `$ref`, since the value has none.
      rw [htexts.referenceOf?_eq_none hnone hk] at hr
      cases hr
    | field _ hm hf =>
      obtain ⟨field, hpair⟩ := Expands.exists_left (Expands.length_of_keys hk) hm
      have hin := (Json.Within.field hnone (List.of_mem_zip hpair).1 .refl).trans hv
      exact ih _ hpair hp hs ha hw hin hf
  | @cut active path held text next ht hn hk =>
    cases hf with
    | field hnone => rw [ht] at hnone; cases hnone
    | refl =>
      subst hp
      obtain rfl := Option.some.inj (ht.symm.trans hr)
      have hl := Node.leads_of_mem hw (mem_referencesIn_of_standsIn hv hr) hn
      obtain ⟨m, hm, hmn, hkey⟩ := ha _ hk
      exact ⟨node, whole, next, m, hs, hw, hv, hn, hl, hm.to_reflTransGen, hmn, hkey⟩
  | follow ht hn hk hnext he ih =>
    subst hp
    have hl := Node.leads_of_mem hw (mem_referencesIn_of_standsIn hv ht) hn
    exact ih rfl (hs.tail hl) (ha.cons hs hl) hnext .refl hf

private theorem exists_of_standsIn_dereference {path : Path} {depth : Nat}
    {library after : Library} {result : Json}
    (hd : ∀ q document, documents tree library q = some document → ReferencesAreTexts document)
    (h : dereference tree depth path library = some (.ok result, after))
    (hf : StandsIn fields result) (hr : referenceOf? fields = some reference) :
    LeftOnTheWay (documents tree library) ⟨path, ""⟩ fields reference := by
  obtain ⟨value, hv, he⟩ := expands_of_dereference rfl h
  have hw : Node.value? (documents tree library) ⟨path, ""⟩ = some value := by
    rw [Node.value?, hv, Option.bind_some, Json.pointer?_empty]
  exact he.leftOnTheWay hd rfl .refl (List.forall_mem_nil _) hw .refl hf hr

private theorem keysTell_of_hash_not_mem (h : '#' ∉ start.path.text.toList) :
    KeysTell docs start := by
  intro n m hn hm hkey
  exact eq_of_key_eq (hash_not_mem_of_reaches hn h) (hash_not_mem_of_reaches hm h) hkey

/-- A chain that returns to a node leaves a reference in the result. -/
private theorem exists_liesIn_of_transGen {path : Path} {depth : Nat} {library after : Library}
    {result : Json} {n : Node}
    (h : dereference tree depth path library = some (.ok result, after))
    (hn : ReflTransGen (Node.Leads (documents tree library)) ⟨path, ""⟩ n)
    (hc : TransGen (Node.Leads (documents tree library)) n n) :
    ∃ fields, LiesIn fields result ∧ (referenceOf? fields).isSome := by
  by_contra hfree
  have hnil : referencesIn result = [] := by
    rw [List.eq_nil_iff_forall_not_mem]
    intro reference hr
    obtain ⟨fields, hf, hr⟩ := exists_standsIn_of_mem hr
    exact hfree ⟨fields, hf.anywhere, by rw [hr]; rfl⟩
  exact keysApart_of_dereference h hnil n n (.trans_right hn hc) hc rfl

/-- Where references are texts, and the keys of nodes tell them apart, expansion leaves a reference
if and only if some chain of references returns to a node. Each reference in the result that is not
inside another one is a copy of one in a document, and designates a node that leads back to itself;
the others are parts of such copies. Keys tell nodes apart unless there is a hash in the path of
the document. -/
theorem dereference_leaves_cycles (tree : FileTree) (depth : Nat) (path : Path)
    (library after : Library) (result : Json)
    (ht : ∀ q document, documents tree library q = some document → ReferencesAreTexts document)
    (h : dereference tree depth path library = some (.ok result, after)) :
    ('#' ∉ path.text.toList → KeysTell (documents tree library) ⟨path, ""⟩) ∧
      (KeysTell (documents tree library) ⟨path, ""⟩ →
        ((∃ fields, LiesIn fields result ∧ (referenceOf? fields).isSome) ↔
          ∃ n, ReflTransGen (Node.Leads (documents tree library)) ⟨path, ""⟩ n ∧
            TransGen (Node.Leads (documents tree library)) n n) ∧
        ∀ fields, StandsIn fields result → (referenceOf? fields).isSome →
          LeftForCycle (documents tree library) ⟨path, ""⟩ fields) ∧
      ∀ fields, LiesIn fields result → (referenceOf? fields).isSome →
        (∃ holder, (referenceOf? holder).isSome ∧ StandsIn holder result ∧
          LiesIn fields (.object holder)) ∧
        ∃ q document, documents tree library q = some document ∧ LiesIn fields document := by
  have hcycle : KeysTell (documents tree library) ⟨path, ""⟩ → ∀ fields, StandsIn fields result →
      (referenceOf? fields).isSome → LeftForCycle (documents tree library) ⟨path, ""⟩ fields := by
    intro hk fields hf hsome
    obtain ⟨reference, hr⟩ := Option.isSome_iff_exists.mp hsome
    obtain ⟨n, target, next, m, hn, hv, hs, hd, hl, hm, hmn, hkey⟩ :=
      exists_of_standsIn_dereference ht h hf hr
    obtain rfl := hk m next hm (hn.tail hl) hkey
    exact ⟨n, target, reference, m, hn, hv, hs, hr, hd, .tail' hmn hl⟩
  refine ⟨fun hp => keysTell_of_hash_not_mem hp, fun hk => ⟨⟨?_, ?_⟩, hcycle hk⟩, ?_⟩
  · rintro ⟨fields, hf, hsome⟩
    obtain ⟨holder, hh, hs, -⟩ := exists_standsIn_of_liesIn hf hsome
    obtain ⟨n, target, reference, node, hn, hv, hin, hr, hd, hc⟩ := hcycle hk holder hs hh
    have hl := Node.leads_of_mem hv (mem_referencesIn_of_standsIn hin hr) hd
    exact ⟨node, hn.tail hl, hc⟩
  · rintro ⟨n, hn, hc⟩
    exact exists_liesIn_of_transGen h hn hc
  · intro fields hf hsome
    obtain ⟨holder, hh, hs, hl⟩ := exists_standsIn_of_liesIn hf hsome
    obtain ⟨reference, hr⟩ := Option.isSome_iff_exists.mp hh
    obtain ⟨n, target, next, m, hn, hv, hin, -⟩ := exists_of_standsIn_dereference ht h hs hr
    obtain ⟨document, hq, hp⟩ := Option.bind_eq_some_iff.mp hv
    have hdoc : LiesIn holder document := hin.anywhere.trans (.of_pointer? hp)
    exact ⟨⟨holder, hh, hs, hl⟩, n.path, document, hq, hl.trans hdoc⟩

def emptyTree : FileTree where
  current := []
  entries := []

private theorem eq_of_documents_emptyTree {q : Path} {document found : Json}
    (h : documents emptyTree [(⟨"r.json"⟩, document)] q = some found) : found = document :=
  List.mem_singleton.mp (mem_readings h)

def recursiveDocument : Json :=
  .object [("Todo", .object [("id", .string "number"),
    ("parent", .object [("$ref", .string "#/Todo")])])]

theorem dereference_recursiveDocument :
    ∃ n, ReflTransGen (Node.Leads (documents emptyTree [(⟨"r.json"⟩, recursiveDocument)]))
        ⟨⟨"r.json"⟩, ""⟩ n ∧
      TransGen (Node.Leads (documents emptyTree [(⟨"r.json"⟩, recursiveDocument)])) n n := by
  have ht : ∀ q document,
      documents emptyTree [(⟨"r.json"⟩, recursiveDocument)] q = some document →
        ReferencesAreTexts document := by
    intro q document hd
    rw [eq_of_documents_emptyTree hd]
    simp [recursiveDocument, referencesAreTexts_object, referencesAreTexts_string, Json.text?]
  have h : dereference emptyTree 2 ⟨"r.json"⟩ [(⟨"r.json"⟩, recursiveDocument)] =
      some (.ok (.object [("Todo", .object [("id", .string "number"),
        ("parent", .object [("id", .string "number"),
          ("parent", .object [("$ref", .string "#/Todo")])])])]),
        [(⟨"r.json"⟩, recursiveDocument)]) := by with_unfolding_all rfl
  have hall := dereference_leaves_cycles emptyTree 2 ⟨"r.json"⟩ _ _ _ ht h
  refine (hall.2.1 (hall.1 (by decide))).1.mp ⟨[("$ref", .string "#/Todo")], ?_, rfl⟩
  have hinner : LiesIn [("$ref", .string "#/Todo")] (.object [("id", .string "number"),
      ("parent", .object [("$ref", .string "#/Todo")])]) :=
    .field trivial (List.mem_cons_of_mem _ (List.mem_singleton_self ("parent", _))) .refl
  have houter : LiesIn [("$ref", .string "#/Todo")] (.object [("id", .string "number"),
      ("parent", .object [("id", .string "number"),
        ("parent", .object [("$ref", .string "#/Todo")])])]) :=
    .field trivial (List.mem_cons_of_mem _ (List.mem_singleton_self ("parent", _))) hinner
  exact .field trivial (List.mem_singleton_self ("Todo", _)) houter

/-- A reference to itself, with another reference beside it. -/
def annotatedDocument : Json :=
  .object [("a", .object [("$ref", .string "#/a"), ("note", .object [("$ref", .string "#/b")])]),
    ("b", .string "x")]

/-- The reference is left with all that is beside it: a reference there stays too, though nothing
leads from what it designates. -/
theorem dereference_annotatedDocument :
    (∀ q document, documents emptyTree [(⟨"r.json"⟩, annotatedDocument)] q = some document →
        ReferencesAreTexts document) ∧
      (dereference emptyTree 2 ⟨"r.json"⟩ [(⟨"r.json"⟩, annotatedDocument)]).map Prod.fst =
        some (.ok annotatedDocument) ∧
      LiesIn [("$ref", .string "#/b")] annotatedDocument ∧
      ∀ q node, designated q "#/b" = .ok node →
        ¬TransGen (Node.Leads (documents emptyTree [(⟨"r.json"⟩, annotatedDocument)]))
          node node := by
  refine ⟨fun q document hd => ?_, by with_unfolding_all rfl, ?_, fun q node hn hc => ?_⟩
  · rw [eq_of_documents_emptyTree hd]
    simp [annotatedDocument, referencesAreTexts_object, referencesAreTexts_string, Json.text?]
  · have hinner : LiesIn [("$ref", .string "#/b")] (.object [("$ref", .string "#/a"),
        ("note", .object [("$ref", .string "#/b")])]) :=
      .field trivial (List.mem_cons_of_mem _ (List.mem_singleton_self ("note", _))) .refl
    exact .field trivial (List.mem_cons_self (a := ("a", _))) hinner
  · obtain ⟨next, hl, -⟩ := TransGen.head'_iff.mp hc
    obtain ⟨value, reference, hv, hr, -⟩ := Node.exists_of_leads hl
    obtain ⟨document, hd, hp⟩ := Option.bind_eq_some_iff.mp hv
    have hdecode : Text.percentDecode (splitReference "#/b").2 = .ok "/b" := by with_unfolding_all rfl
    have hpointer : node.pointer = "/b" :=
      Except.ok.inj ((pointer_of_designated hn).symm.trans hdecode)
    rw [eq_of_documents_emptyTree hd, hpointer] at hp
    have hvalue : value = .string "x" := (Option.some.inj hp).symm
    rw [hvalue] at hr
    cases hr

end Scaffold.OpenApi
