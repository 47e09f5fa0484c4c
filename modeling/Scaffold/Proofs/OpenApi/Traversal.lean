import Scaffold.OpenApi.Reference
import Scaffold.Proofs.OpenApi.Graph

/-! How references are expanded in a value, apart from how a single reference is followed. What
holds of the references that a traversal comes to carries over to the traversal: that several runs
have one outcome, that there is an outcome at all, and how a result relates to its value. -/
namespace Scaffold.OpenApi

variable {α β ι : Type}

namespace Expansion

/-- Go on with what came out, unless it is an error. -/
def andThen (run : Expansion α) (next : α → Library → Expansion β) : Expansion β :=
  match run with
  | none => none
  | some (.error e, library) => some (.error e, library)
  | some (.ok value, library) => next value library

theorem exists_of_andThen_eq_ok {run : Expansion α} {next : α → Library → Expansion β}
    {result : β} {library : Library} (h : run.andThen next = some (.ok result, library)) :
    ∃ value between, run = some (.ok value, between) ∧
      next value between = some (.ok result, library) := by
  match run, h with
  | some (.ok value, between), h => exact ⟨value, between, rfl, h⟩

/-- All runs have one outcome. It is none only where that may be, and otherwise leaves a library
with a property. -/
def Settles (blank : Prop) (P : Library → Prop) (run : ι → Expansion α) : Prop :=
  ∃ outcome, (∀ i, run i = outcome) ∧ (outcome = none → blank) ∧
    ∀ x, outcome = some x → P x.2

variable {blank : Prop} {P : Library → Prop}

theorem Settles.of_some {x : Except ReferenceError α × Library} (h : P x.2) :
    Settles blank P fun _ : ι => some x :=
  ⟨some x, fun _ => rfl, nofun, fun _ hx => Option.some.inj hx ▸ h⟩

theorem Settles.andThen {run : ι → Expansion α} {next : ι → α → Library → Expansion β}
    (hr : Settles blank P run)
    (hn : ∀ value library, P library → Settles blank P fun i => next i value library) :
    Settles blank P fun i => (run i).andThen (next i) := by
  obtain ⟨outcome, hall, hb, hp⟩ := hr
  simp only [hall]
  match outcome with
  | none => exact ⟨none, fun _ => rfl, fun _ => hb rfl, nofun⟩
  | some (.error e, library) => exact of_some (hp _ rfl)
  | some (.ok value, library) => exact hn value library (hp _ rfl)

end Expansion

open Expansion

section Steps

variable (follow : Follow) (path : Path) (library : Library)

theorem expandValue_scalar {value : Json} (h : value.isScalar) :
    expandValue follow path value library = some (.ok value, library) := by
  cases value <;> first | rfl | cases h

theorem expandValue_array (items : List Json) :
    expandValue follow path (.array items) library =
      (expandItems follow path items library).andThen fun items library =>
        some (.ok (.array items), library) := by
  rw [expandValue]
  rcases expandItems follow path items library with _ | ⟨_ | items, library⟩ <;> rfl

theorem expandValue_of_none {fields : List (String × Json)} (h : referenceOf? fields = none) :
    expandValue follow path (.object fields) library =
      (expandFields follow path fields library).andThen fun fields library =>
        some (.ok (.object fields), library) := by
  rw [expandValue, h]
  rcases expandFields follow path fields library with _ | ⟨_ | fields, library⟩ <;> rfl

theorem expandValue_of_some {fields : List (String × Json)} {reference : String}
    (h : referenceOf? fields = some reference) :
    expandValue follow path (.object fields) library =
      follow (.object fields) reference path library := by
  rw [expandValue, h]

theorem expandItems_cons (item : Json) (rest : List Json) :
    expandItems follow path (item :: rest) library =
      (expandValue follow path item library).andThen fun item library =>
        (expandItems follow path rest library).andThen fun rest library =>
          some (.ok (item :: rest), library) := by
  rw [expandItems]
  rcases expandValue follow path item library with _ | ⟨_ | item, library⟩
  · rfl
  · rfl
  · dsimp only [andThen]
    rcases expandItems follow path rest library with _ | ⟨_ | rest, library⟩ <;> rfl

theorem expandFields_cons (key : String) (value : Json) (rest : List (String × Json)) :
    expandFields follow path ((key, value) :: rest) library =
      (expandValue follow path value library).andThen fun value library =>
        (expandFields follow path rest library).andThen fun rest library =>
          some (.ok ((key, value) :: rest), library) := by
  rw [expandFields]
  rcases expandValue follow path value library with _ | ⟨_ | value, library⟩
  · rfl
  · rfl
  · dsimp only [andThen]
    rcases expandFields follow path rest library with _ | ⟨_ | rest, library⟩ <;> rfl

end Steps

section Settling

variable {blank : Prop} {P : Library → Prop} {follow : ι → Follow} {path : Path}

private theorem settles_expandItems {items : List Json}
    (h : ∀ item ∈ items, ∀ library, P library →
      Settles blank P fun i => expandValue (follow i) path item library)
    {library : Library} (hp : P library) :
    Settles blank P fun i => expandItems (follow i) path items library := by
  induction items generalizing library with
  | nil => exact .of_some hp
  | cons item rest ih =>
    obtain ⟨hi, hr⟩ := List.forall_mem_cons.mp h
    simp only [expandItems_cons]
    refine (hi library hp).andThen fun item between hb => ?_
    exact (ih hr hb).andThen fun rest after ha => .of_some ha

private theorem settles_expandFields {fields : List (String × Json)}
    (h : ∀ field ∈ fields, ∀ library, P library →
      Settles blank P fun i => expandValue (follow i) path field.2 library)
    {library : Library} (hp : P library) :
    Settles blank P fun i => expandFields (follow i) path fields library := by
  induction fields generalizing library with
  | nil => exact .of_some hp
  | cons field rest ih =>
    obtain ⟨key, value⟩ := field
    obtain ⟨hf, hr⟩ := List.forall_mem_cons.mp h
    simp only [expandFields_cons]
    refine (hf library hp).andThen fun value between hb => ?_
    exact (ih hr hb).andThen fun rest after ha => .of_some ha

/-- If following each reference of a value settles, so does expanding the value. -/
theorem settles_expandValue {value : Json}
    (h : ∀ reference ∈ referencesIn value, ∀ holder library, P library →
      Settles blank P fun i => follow i holder reference path library)
    {library : Library} (hp : P library) :
    Settles blank P fun i => expandValue (follow i) path value library := by
  induction value using Json.induction generalizing library with
  | null => exact .of_some hp
  | bool value => exact .of_some hp
  | number value => exact .of_some hp
  | string value => exact .of_some hp
  | array items ih =>
    simp only [expandValue_array]
    refine (settles_expandItems (fun item hi library hp => ?_) hp).andThen
      fun items after ha => .of_some ha
    exact ih item hi (fun reference hr => h reference (referencesIn_item hi hr)) hp
  | object fields ih =>
    cases hf : referenceOf? fields with
    | some reference =>
      simp only [expandValue_of_some _ _ _ hf]
      exact h reference (by simp [referencesIn_of_some hf]) _ library hp
    | none =>
      simp only [expandValue_of_none _ _ _ hf]
      refine (settles_expandFields (fun field hm library hp => ?_) hp).andThen
        fun fields after ha => .of_some ha
      exact ih field hm (fun reference hr => h reference (referencesIn_field hf hm hr)) hp

end Settling

section Results

variable {P : Library → Prop} {follow : Follow} {path : Path} {R : Json → Json → Prop}

private theorem related_of_expandItems {items results : List Json} {library after : Library}
    (h : ∀ item ∈ items, ∀ {result library after}, P library →
      expandValue follow path item library = some (.ok result, after) → R item result ∧ P after)
    (hp : P library) (he : expandItems follow path items library = some (.ok results, after)) :
    (items.length = results.length ∧ ∀ pair ∈ items.zip results, R pair.1 pair.2) ∧ P after := by
  induction items generalizing library results with
  | nil =>
    obtain ⟨hr, rfl⟩ := Prod.mk.inj (Option.some.inj he)
    rw [← Except.ok.inj hr]
    exact ⟨⟨rfl, nofun⟩, hp⟩
  | cons item rest ih =>
    obtain ⟨hi, hr⟩ := List.forall_mem_cons.mp h
    rw [expandItems_cons] at he
    obtain ⟨first, between, hv, he⟩ := exists_of_andThen_eq_ok he
    obtain ⟨others, last, ho, he⟩ := exists_of_andThen_eq_ok he
    obtain ⟨hres, rfl⟩ := Prod.mk.inj (Option.some.inj he)
    obtain ⟨hf, hb⟩ := hi hp hv
    obtain ⟨⟨hl, hz⟩, ha⟩ := ih hr hb ho
    rw [← Except.ok.inj hres]
    refine ⟨⟨by simp [hl], ?_⟩, ha⟩
    rw [List.zip_cons_cons, List.forall_mem_cons]
    exact ⟨hf, hz⟩

private theorem related_of_expandFields {fields results : List (String × Json)}
    {library after : Library}
    (h : ∀ field ∈ fields, ∀ {result library after}, P library →
      expandValue follow path field.2 library = some (.ok result, after) →
        R field.2 result ∧ P after)
    (hp : P library) (he : expandFields follow path fields library = some (.ok results, after)) :
    (fields.map Prod.fst = results.map Prod.fst ∧
      ∀ pair ∈ fields.zip results, R pair.1.2 pair.2.2) ∧ P after := by
  induction fields generalizing library results with
  | nil =>
    obtain ⟨hr, rfl⟩ := Prod.mk.inj (Option.some.inj he)
    rw [← Except.ok.inj hr]
    exact ⟨⟨rfl, nofun⟩, hp⟩
  | cons field rest ih =>
    obtain ⟨hi, hr⟩ := List.forall_mem_cons.mp h
    rw [expandFields_cons] at he
    obtain ⟨first, between, hv, he⟩ := exists_of_andThen_eq_ok he
    obtain ⟨others, last, ho, he⟩ := exists_of_andThen_eq_ok he
    obtain ⟨hres, rfl⟩ := Prod.mk.inj (Option.some.inj he)
    obtain ⟨hf, hb⟩ := hi hp hv
    obtain ⟨⟨hl, hz⟩, ha⟩ := ih hr hb ho
    rw [← Except.ok.inj hres]
    refine ⟨⟨by simp [hl], ?_⟩, ha⟩
    rw [List.zip_cons_cons, List.forall_mem_cons]
    exact ⟨hf, hz⟩

/-- A relation that runs through arrays and objects holds between a value and what its expansion
results in, when it does for each reference. -/
theorem related_of_expandValue (scalar : ∀ value : Json, value.isScalar → R value value)
    (array : ∀ {items results : List Json}, items.length = results.length →
      (∀ pair ∈ items.zip results, R pair.1 pair.2) → R (.array items) (.array results))
    (object : ∀ {fields results : List (String × Json)}, referenceOf? fields = none →
      fields.map Prod.fst = results.map Prod.fst →
      (∀ pair ∈ fields.zip results, R pair.1.2 pair.2.2) → R (.object fields) (.object results))
    (reference : ∀ {fields : List (String × Json)} {reference library result after},
      referenceOf? fields = some reference → P library →
      follow (.object fields) reference path library = some (.ok result, after) →
        R (.object fields) result ∧ P after)
    {value result : Json} {library after : Library} (hp : P library)
    (he : expandValue follow path value library = some (.ok result, after)) :
    R value result ∧ P after := by
  have of_scalar {value result : Json} {library after : Library} (hs : value.isScalar)
      (hp : P library) (he : expandValue follow path value library = some (.ok result, after)) :
      R value result ∧ P after := by
    rw [expandValue_scalar _ _ _ hs] at he
    obtain ⟨hr, rfl⟩ := Prod.mk.inj (Option.some.inj he)
    exact ⟨Except.ok.inj hr ▸ scalar value hs, hp⟩
  induction value using Json.induction generalizing library result after with
  | null => exact of_scalar rfl hp he
  | bool value => exact of_scalar rfl hp he
  | number value => exact of_scalar rfl hp he
  | string value => exact of_scalar rfl hp he
  | array items ih =>
    rw [expandValue_array] at he
    obtain ⟨results, between, hi, he⟩ := exists_of_andThen_eq_ok he
    obtain ⟨hr, rfl⟩ := Prod.mk.inj (Option.some.inj he)
    obtain ⟨⟨hl, hz⟩, ha⟩ := related_of_expandItems ih hp hi
    exact ⟨Except.ok.inj hr ▸ array hl hz, ha⟩
  | object fields ih =>
    cases hf : referenceOf? fields with
    | some text =>
      rw [expandValue_of_some _ _ _ hf] at he
      exact reference hf hp he
    | none =>
      rw [expandValue_of_none _ _ _ hf] at he
      obtain ⟨results, between, hi, he⟩ := exists_of_andThen_eq_ok he
      obtain ⟨hr, rfl⟩ := Prod.mk.inj (Option.some.inj he)
      obtain ⟨⟨hk, hz⟩, ha⟩ := related_of_expandFields ih hp hi
      exact ⟨Except.ok.inj hr ▸ object hf hk hz, ha⟩

end Results

/-- Go on in the value at a node, once the document has been fetched. -/
def visit (tree : FileTree) (node : Node) (reference : String) (library : Library)
    (next : Json → Library → Expansion α) : Expansion α :=
  Expansion.andThen (some (library.fetch tree node.path)) fun document library =>
    match document.pointer? node.pointer with
    | none => some (.error (.unresolved reference), library)
    | some value => next value library

/-- How a reference is expanded, by the node that it designates: a node that is being expanded is
left alone, and any other is visited. -/
theorem expandReference_succ (tree : FileTree) (depth : Nat) (active : List String)
    (holder : Json) (reference : String) (path : Path) (library : Library) :
    expandReference tree (depth + 1) active holder reference path library =
      match designated path reference with
      | .error e => some (.error (.badFragment reference e), library)
      | .ok node =>
        if node.key ∈ active then some (.ok holder, library)
        else
          visit tree node reference library
            (expandValue (expandReference tree depth (node.key :: active)) node.path) := by
  rw [expandReference]
  unfold designated
  cases hp : Text.percentDecode (splitReference reference).2 with
  | error e => simp only [hp]; rfl
  | ok pointer =>
    simp only [hp, Except.map, Node.key, List.contains_iff_mem, visit]
    congr 1
    rcases library.fetch tree (targetPath path (splitReference reference).1) with
      ⟨_ | document, library⟩ <;> rfl

theorem dereference_eq_visit (tree : FileTree) (depth : Nat) (path : Path) (library : Library) :
    dereference tree depth path library =
      visit tree ⟨path, ""⟩ "" library (expandValue (expandReference tree depth []) path) := by
  unfold dereference visit
  rcases library.fetch tree path with ⟨_ | document, library⟩ <;> rfl

/-- A visit either fails before it goes on, or goes on in the value at the node; the documents are
the same then as before. -/
theorem visit_cases (tree : FileTree) (node : Node) (reference : String) {library : Library}
    {docs : Documents} (hd : documents tree library = docs) :
    (∃ e after, documents tree after = docs ∧
      ∀ next : Json → Library → Expansion Json,
        visit tree node reference library next = some (.error e, after)) ∨
    ∃ value after, documents tree after = docs ∧ node.value? docs = some value ∧
      ∀ next : Json → Library → Expansion Json,
        visit tree node reference library next = next value after := by
  subst hd
  unfold visit
  cases hf : library.fetch tree node.path with
  | mk outcome after =>
    cases outcome with
    | error e =>
      rw [(fetch_eq_error_iff.mp hf).1]
      exact .inl ⟨e, library, rfl, fun _ => rfl⟩
    | ok document =>
      have ha := (documents_of_fetch hf).2
      have hv := value?_of_fetch hf
      cases hp : document.pointer? node.pointer with
      | none => exact .inl ⟨.unresolved reference, after, ha, fun _ => by simp only [andThen, hp]⟩
      | some value =>
        exact .inr ⟨value, after, ha, hv.trans hp, fun _ => by simp only [andThen, hp]⟩

/-- If going on in the value at a node settles, so does the visit. -/
theorem settles_visit {blank : Prop} {tree : FileTree} {node : Node} {reference : String}
    {docs : Documents} {next : ι → Json → Library → Expansion Json}
    (h : ∀ value, node.value? docs = some value → ∀ library, documents tree library = docs →
      Settles blank (documents tree · = docs) fun i => next i value library)
    {library : Library} (hd : documents tree library = docs) :
    Settles blank (documents tree · = docs) fun i =>
      visit tree node reference library (next i) := by
  rcases visit_cases tree node reference hd with ⟨e, after, ha, hn⟩ | ⟨value, after, ha, hv, hn⟩
  · simp only [hn]
    exact .of_some ha
  · simp only [hn]
    exact h value hv after ha

/-- If going on in what a reference designates settles, so does following it, unless the node is one
that is left alone. -/
theorem settles_follow {blank : Prop} {tree : FileTree} {active : List String} {path : Path}
    {holder : Json} {reference : String} {docs : Documents}
    {next : ι → Node → Json → Library → Expansion Json}
    (h : ∀ node, designated path reference = .ok node → node.key ∉ active →
      ∀ value, node.value? docs = some value → ∀ library, documents tree library = docs →
        Settles blank (documents tree · = docs) fun i => next i node value library)
    {library : Library} (hd : documents tree library = docs) :
    Settles blank (documents tree · = docs) fun i =>
      match designated path reference with
      | .error e => some (.error (.badFragment reference e), library)
      | .ok node =>
        if node.key ∈ active then some (.ok holder, library)
        else visit tree node reference library (next i node) := by
  cases hn : designated path reference with
  | error e => exact .of_some hd
  | ok node =>
    by_cases ha : node.key ∈ active
    · simp only [if_pos ha]
      exact .of_some hd
    · simp only [if_neg ha]
      exact settles_visit (h node hn ha) hd

end Scaffold.OpenApi
