import Scaffold.OpenApi.Load
import Scaffold.Proofs.Except
import Scaffold.Proofs.OpenApi.Traversal

/-! Which documents a load reads. It comes to the same in every tree in which these have the same
text, whatever else there is. -/
namespace Scaffold.OpenApi

open Expansion

variable {α β : Type} {tree tree' : FileTree}

/-- A library has grown by documents that are in the tree. -/
def Reads (tree : FileTree) (library after : Library) : Prop :=
  ∃ more, after = library ++ more ∧ ∀ entry ∈ more, ∃ text, tree.readText entry.1 = .ok text

namespace Reads

theorem refl (library : Library) : Reads tree library library :=
  ⟨[], (List.append_nil library).symm, nofun⟩

theorem trans {library between after : Library} (h : Reads tree library between)
    (h' : Reads tree between after) : Reads tree library after := by
  obtain ⟨more, rfl, hm⟩ := h
  obtain ⟨more', rfl, hm'⟩ := h'
  exact ⟨more ++ more', List.append_assoc .., List.forall_mem_append.mpr ⟨hm, hm'⟩⟩

theorem subset {library after : Library} (h : Reads tree library after) : library ⊆ after := by
  obtain ⟨more, rfl, -⟩ := h
  exact List.subset_append_left _ _

end Reads

/-- Whenever one run succeeds, it has read documents of its tree, and the other run comes to the
same if the documents of the library that is left have one text in both trees. -/
def Repeats (tree tree' : FileTree) (run run' : Library → Expansion α) : Prop :=
  ∀ library value after, run library = some (.ok value, after) →
    Reads tree library after ∧
      ((∀ entry ∈ after, tree'.readText entry.1 = tree.readText entry.1) →
        run' library = some (.ok value, after))

namespace Repeats

theorem of_ok (value : α) :
    Repeats tree tree' (fun library => some (.ok value, library)) fun library =>
      some (.ok value, library) := by
  intro library found after h
  obtain ⟨-, rfl⟩ := Prod.mk.inj (Option.some.inj h)
  exact ⟨.refl library, fun _ => h⟩

theorem andThen {run run' : Library → Expansion α} {next next' : α → Library → Expansion β}
    (hr : Repeats tree tree' run run')
    (hn : ∀ value, Repeats tree tree' (next value) (next' value)) :
    Repeats tree tree' (fun library => (run library).andThen next) fun library =>
      (run' library).andThen next' := by
  intro library result after h
  obtain ⟨value, between, hv, h⟩ := exists_of_andThen_eq_ok h
  obtain ⟨hfirst, hsame⟩ := hr library value between hv
  obtain ⟨hrest, hsame'⟩ := hn value between result after h
  refine ⟨hfirst.trans hrest, fun hread => ?_⟩
  dsimp only
  rw [hsame fun entry hm => hread entry (hrest.subset hm), Expansion.andThen, hsame' hread]

theorem congr {run run' other other' : Library → Expansion α} (h : Repeats tree tree' run run')
    (ho : ∀ library, other library = run library) (ho' : ∀ library, other' library = run' library) :
    Repeats tree tree' other other' := by
  obtain rfl := funext ho
  obtain rfl := funext ho'
  exact h

end Repeats

theorem repeats_fetch (path : Path) :
    Repeats tree tree' (fun library => some (library.fetch tree path)) fun library =>
      some (library.fetch tree' path) := by
  intro library document after h
  rcases fetch_eq_ok_iff.mp (Option.some.inj h) with ⟨hf, rfl⟩ | ⟨hf, content, ht, hd, rfl⟩
  · exact ⟨.refl after, fun _ => congrArg some (fetch_eq_ok_iff.mpr (.inl ⟨hf, rfl⟩))⟩
  · refine ⟨⟨_, rfl, List.forall_mem_singleton.mpr ⟨content, ht⟩⟩, fun hread => ?_⟩
    have hsame := hread (path, document) (List.mem_append_right _ (List.mem_singleton_self _))
    have hfetch : library.fetch tree' path = (.ok document, library ++ [(path, document)]) :=
      fetch_eq_ok_iff.mpr (.inr ⟨hf, content, hsame.trans ht, hd, rfl⟩)
    exact congrArg some hfetch

section Values

variable {follow follow' : Follow} {path : Path}

theorem repeats_expandItems {items : List Json}
    (h : ∀ item ∈ items, Repeats tree tree' (expandValue follow path item)
      (expandValue follow' path item)) :
    Repeats tree tree' (expandItems follow path items) (expandItems follow' path items) := by
  induction items with
  | nil => exact .of_ok []
  | cons item rest ih =>
    obtain ⟨hi, hr⟩ := List.forall_mem_cons.mp h
    have hrun := hi.andThen fun item => (ih hr).andThen fun rest => Repeats.of_ok (item :: rest)
    exact hrun.congr (fun library => expandItems_cons follow path library item rest)
      fun library => expandItems_cons follow' path library item rest

theorem repeats_expandFields {fields : List (String × Json)}
    (h : ∀ field ∈ fields, Repeats tree tree' (expandValue follow path field.2)
      (expandValue follow' path field.2)) :
    Repeats tree tree' (expandFields follow path fields) (expandFields follow' path fields) := by
  induction fields with
  | nil => exact .of_ok []
  | cons field rest ih =>
    obtain ⟨key, value⟩ := field
    obtain ⟨hv, hr⟩ := List.forall_mem_cons.mp h
    have hrun := hv.andThen fun value =>
      (ih hr).andThen fun rest => Repeats.of_ok ((key, value) :: rest)
    exact hrun.congr (fun library => expandFields_cons follow path library key value rest)
      fun library => expandFields_cons follow' path library key value rest

/-- What repeats for each reference repeats for a value with references. -/
theorem repeats_expandValue
    (h : ∀ holder reference,
      Repeats tree tree' (follow holder reference path) (follow' holder reference path))
    (value : Json) :
    Repeats tree tree' (expandValue follow path value) (expandValue follow' path value) := by
  have of_scalar {value : Json} (hs : value.isScalar) :
      Repeats tree tree' (expandValue follow path value) (expandValue follow' path value) := by
    exact (Repeats.of_ok value).congr (fun library => expandValue_scalar follow path library hs)
      fun library => expandValue_scalar follow' path library hs
  induction value using Json.induction with
  | null => exact of_scalar rfl
  | bool value => exact of_scalar rfl
  | number value => exact of_scalar rfl
  | string value => exact of_scalar rfl
  | array items ih =>
    have hrun := (repeats_expandItems ih).andThen fun items => Repeats.of_ok (Json.array items)
    exact hrun.congr (fun library => expandValue_array follow path library items)
      fun library => expandValue_array follow' path library items
  | object fields ih =>
    cases hf : referenceOf? fields with
    | some reference =>
      exact (h _ reference).congr (fun library => expandValue_of_some follow path library hf)
        fun library => expandValue_of_some follow' path library hf
    | none =>
      have hrun := (repeats_expandFields ih).andThen fun fields =>
        Repeats.of_ok (Json.object fields)
      exact hrun.congr (fun library => expandValue_of_none follow path library hf)
        fun library => expandValue_of_none follow' path library hf

end Values

theorem repeats_visit {node : Node} {reference : String}
    {next next' : Json → Library → Expansion α}
    (h : ∀ value, Repeats tree tree' (next value) (next' value)) :
    Repeats tree tree' (fun library => visit tree node reference library next) fun library =>
      visit tree' node reference library next' := by
  refine (repeats_fetch node.path).andThen fun document => ?_
  cases hp : document.pointer? node.pointer with
  | none => nofun
  | some value => exact h value

theorem repeats_expandReference (depth : Nat) (active : List String) (holder : Json)
    (reference : String) (path : Path) :
    Repeats tree tree' (expandReference tree depth active holder reference path)
      (expandReference tree' depth active holder reference path) := by
  induction depth generalizing active holder reference path with
  | zero => nofun
  | succ depth ih =>
    refine Repeats.congr ?_
      (fun library => expandReference_succ tree depth active holder reference path library)
      fun library => expandReference_succ tree' depth active holder reference path library
    cases designated path reference with
    | error e => nofun
    | ok node =>
      dsimp only
      by_cases hactive : node.key ∈ active
      · simp only [if_pos hactive]
        exact .of_ok holder
      · simp only [if_neg hactive]
        exact repeats_visit fun value => repeats_expandValue (fun holder reference =>
          ih (node.key :: active) holder reference node.path) value

/-- The expansion of a document comes to the same where the documents that it fetches are the
same. -/
theorem repeats_dereference (depth : Nat) (path : Path) :
    Repeats tree tree' (dereference tree depth path) (dereference tree' depth path) := by
  have hvalue (value : Json) :=
    repeats_expandValue (fun holder reference =>
      @repeats_expandReference tree tree' depth [] holder reference path) value
  have hrun : Repeats tree tree' (fun library => visit tree ⟨path, ""⟩ "" library _)
      fun library => visit tree' ⟨path, ""⟩ "" library _ := repeats_visit hvalue
  exact hrun.congr (fun library => dereference_eq_visit tree depth path library)
    fun library => dereference_eq_visit tree' depth path library

/-- The paths at which a load looks for documents: that of the service, and those of the documents
that references lead to. -/
def consulted (tree : FileTree) (source : Path) : List Path :=
  match tree.readText source with
  | .error _ => [source]
  | .ok content =>
    match readDocument source content with
    | .error _ => [source]
    | .ok raw => (resolve tree source [(source, raw)]).2.map Prod.fst

variable {source : Path} {document : Json}

/-- There is a document when it can be read, has the right structure, and its references can be
expanded. -/
theorem documentAt_eq_ok_iff :
    documentAt tree source = .ok document ↔
      ∃ content raw library, tree.readText source = .ok content ∧
        readDocument source content = .ok raw ∧ checkStructure raw = .ok () ∧
        dereference tree nestingLimit source [(source, raw)] = some (.ok document, library) := by
  constructor
  · intro h
    unfold documentAt at h
    obtain ⟨content, hc, h⟩ := Except.exists_of_bind_eq_ok h
    obtain ⟨raw, hr, h⟩ := Except.exists_of_bind_eq_ok h
    obtain ⟨_, hs, h⟩ := Except.exists_of_bind_eq_ok h
    replace h := Except.eq_ok_of_mapError_eq_ok h
    unfold resolve at h
    cases ho : dereference tree nestingLimit source [(source, raw)] with
    | none => simp [ho] at h
    | some outcome =>
      obtain ⟨found, library⟩ := outcome
      simp only [ho, Option.getD_some] at h
      exact ⟨content, raw, library, Except.eq_ok_of_mapError_eq_ok hc,
        Except.eq_ok_of_mapError_eq_ok hr, Except.eq_ok_of_mapError_eq_ok hs, h ▸ ho⟩
  · rintro ⟨content, raw, library, hc, hr, hs, hd⟩
    have hres : (resolve tree source [(source, raw)]).1 = .ok document := by rw [resolve, hd]; rfl
    simp only [documentAt, hc, Except.mapError, bind, Except.bind, hr, hs, hres]

/-- Where there is a document, all documents that were looked for have been read. -/
theorem exists_text_of_consulted (h : documentAt tree source = .ok document) :
    ∀ p ∈ consulted tree source, ∃ text, tree.readText p = .ok text := by
  obtain ⟨content, raw, library, hc, hr, -, hd⟩ := documentAt_eq_ok_iff.mp h
  obtain ⟨⟨more, rfl, hmore⟩, -⟩ := @repeats_dereference tree tree _ _ _ _ _ hd
  intro p hp
  simp only [consulted, resolve, hc, hr, hd, Option.getD_some, List.map_cons,
    List.singleton_append, List.mem_cons] at hp
  rcases hp with rfl | hp
  · exact ⟨content, hc⟩
  · obtain ⟨entry, hm, rfl⟩ := List.mem_map.mp hp
    exact hmore entry hm

/-- The document is the same where the documents that are looked for have the same text. -/
theorem documentAt_again (hd : documentAt tree source = .ok document)
    (h : ∀ p ∈ consulted tree source, tree'.readText p = tree.readText p) :
    documentAt tree' source = .ok document := by
  obtain ⟨content, raw, library, hc, hr, hs, hd⟩ := documentAt_eq_ok_iff.mp hd
  have hconsulted : consulted tree source = library.map Prod.fst := by
    simp only [consulted, resolve, hc, hr, hd, Option.getD_some]
  rw [hconsulted] at h
  obtain ⟨hreads, hsame⟩ := @repeats_dereference tree tree' _ _ _ _ _ hd
  refine documentAt_eq_ok_iff.mpr ⟨content, raw, library, ?_, hr, hs, ?_⟩
  · rw [h source (List.mem_map_of_mem (hreads.subset (List.mem_singleton_self (source, raw)))), hc]
  · exact hsame fun entry hm => h entry.1 (List.mem_map_of_mem hm)

end Scaffold.OpenApi
