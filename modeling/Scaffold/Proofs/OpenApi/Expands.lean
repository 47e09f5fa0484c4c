import Scaffold.Proofs.OpenApi.Traversal

/-! What a value expands to, told apart from the order in which documents are read. A successful
run ends with that result, and there is no other. -/
namespace Scaffold.OpenApi

/-- A value in the document at a path expands to a result while the nodes with some keys are being
expanded. -/
inductive Expands (docs : Documents) : List String → Path → Json → Json → Prop
  | scalar {active path value} (hs : value.isScalar) : Expands docs active path value value
  | array {active path} {items results : List Json} (hl : items.length = results.length)
      (hz : ∀ pair ∈ items.zip results, Expands docs active path pair.1 pair.2) :
      Expands docs active path (.array items) (.array results)
  | object {active path} {fields results : List (String × Json)}
      (hf : referenceOf? fields = none) (hk : fields.map Prod.fst = results.map Prod.fst)
      (hz : ∀ pair ∈ fields.zip results, Expands docs active path pair.1.2 pair.2.2) :
      Expands docs active path (.object fields) (.object results)
  /-- The reference leads back into an expansion, and is left alone. -/
  | cut {active path fields reference node} (hf : referenceOf? fields = some reference)
      (hn : designated path reference = .ok node) (ha : node.key ∈ active) :
      Expands docs active path (.object fields) (.object fields)
  /-- The object with a reference gives way to what the node expands to. -/
  | follow {active path fields reference node value result}
      (hf : referenceOf? fields = some reference) (hn : designated path reference = .ok node)
      (ha : node.key ∉ active) (hv : node.value? docs = some value)
      (he : Expands docs (node.key :: active) node.path value result) :
      Expands docs active path (.object fields) result

theorem expands_of_expandValue {tree : FileTree} {docs : Documents} (depth : Nat)
    {active : List String} {path : Path} {value result : Json} {library after : Library}
    (hd : documents tree library = docs)
    (he : expandValue (expandReference tree depth active) path value library =
      some (.ok result, after)) :
    Expands docs active path value result ∧ documents tree after = docs := by
  induction depth generalizing active path value result library after with
  | zero =>
    exact related_of_expandValue (P := (documents tree · = docs)) (R := Expands docs active path)
      (fun _ => .scalar) .array .object (fun _ _ h => by cases h) hd he
  | succ depth ih =>
    refine related_of_expandValue (P := (documents tree · = docs)) (R := Expands docs active path)
      (fun _ => .scalar) .array .object ?_ hd he
    intro fields reference library result after hf hd he
    rw [expandReference_succ] at he
    cases hn : designated path reference with
    | error e => rw [hn] at he; cases he
    | ok node =>
      simp only [hn] at he
      by_cases ha : node.key ∈ active
      · rw [if_pos ha] at he
        obtain ⟨hr, rfl⟩ := Prod.mk.inj (Option.some.inj he)
        exact ⟨Except.ok.inj hr ▸ .cut hf hn ha, hd⟩
      · rw [if_neg ha] at he
        rcases visit_cases tree node reference hd with ⟨e, between, -, hg⟩ |
          ⟨target, between, hb, hv, hg⟩
        · rw [hg] at he
          cases he
        · rw [hg] at he
          obtain ⟨hx, hd'⟩ := ih hb he
          exact ⟨.follow hf hn ha hv hx, hd'⟩

/-- The result of expanding a document is what its value expands to. -/
theorem expands_of_dereference {tree : FileTree} {docs : Documents} {depth : Nat} {path : Path}
    {result : Json} {library after : Library} (hd : documents tree library = docs)
    (h : dereference tree depth path library = some (.ok result, after)) :
    ∃ value, docs path = some value ∧ Expands docs [] path value result := by
  rw [dereference_eq_visit] at h
  rcases visit_cases tree ⟨path, ""⟩ "" hd with ⟨e, between, -, hg⟩ | ⟨value, between, hb, hv, hg⟩
  · rw [hg] at h
    cases h
  · rw [hg] at h
    obtain ⟨document, hp, hq⟩ := Option.bind_eq_some_iff.mp hv
    exact ⟨value, hp.trans hq, (expands_of_expandValue depth hb h).1⟩

namespace Expands

variable {docs : Documents} {active : List String} {path : Path} {value result : Json}

private theorem exists_right {α β : Type} {xs : List α} {ys : List β}
    (hl : xs.length = ys.length) {x : α} (hx : x ∈ xs) : ∃ y, (x, y) ∈ xs.zip ys := by
  rw [← List.map_fst_zip hl.le] at hx
  obtain ⟨⟨x, y⟩, hp, rfl⟩ := List.mem_map.mp hx
  exact ⟨y, hp⟩

theorem exists_left {α β : Type} {xs : List α} {ys : List β}
    (hl : xs.length = ys.length) {y : β} (hy : y ∈ ys) : ∃ x, (x, y) ∈ xs.zip ys := by
  rw [← List.map_snd_zip hl.ge] at hy
  obtain ⟨⟨x, y⟩, hp, rfl⟩ := List.mem_map.mp hy
  exact ⟨x, hp⟩

theorem length_of_keys {fields results : List (String × Json)}
    (hk : fields.map Prod.fst = results.map Prod.fst) : fields.length = results.length := by
  simpa using congrArg List.length hk

private theorem items_unique {items results others : List Json} (hl : items.length = results.length)
    (hz : ∀ pair ∈ items.zip results, ∀ w, Expands docs active path pair.1 w → pair.2 = w)
    (hm : items.length = others.length)
    (hy : ∀ pair ∈ items.zip others, Expands docs active path pair.1 pair.2) :
    results = others := by
  induction items generalizing results others with
  | nil =>
    rw [List.eq_nil_of_length_eq_zero hl.symm, List.eq_nil_of_length_eq_zero hm.symm]
  | cons item rest ih =>
    match results, others, hl, hm with
    | result :: results, other :: others, hl, hm =>
      rw [List.zip_cons_cons, List.forall_mem_cons] at hz hy
      have hr : result = other := hz.1 other hy.1
      rw [hr, ih (Nat.succ.inj hl) hz.2 (Nat.succ.inj hm) hy.2]

private theorem fields_unique {fields results others : List (String × Json)}
    (hk : fields.map Prod.fst = results.map Prod.fst)
    (hz : ∀ pair ∈ fields.zip results, ∀ w, Expands docs active path pair.1.2 w → pair.2.2 = w)
    (hm : fields.map Prod.fst = others.map Prod.fst)
    (hy : ∀ pair ∈ fields.zip others, Expands docs active path pair.1.2 pair.2.2) :
    results = others := by
  induction fields generalizing results others with
  | nil => rw [List.map_eq_nil_iff.mp hk.symm, List.map_eq_nil_iff.mp hm.symm]
  | cons field rest ih =>
    match results, others, hk, hm with
    | result :: results, other :: others, hk, hm =>
      rw [List.zip_cons_cons, List.forall_mem_cons] at hz hy
      obtain ⟨hf, hk⟩ := List.cons.inj hk
      obtain ⟨hg, hm⟩ := List.cons.inj hm
      rw [ih hk hz.2 hm hy.2, Prod.ext (hf.symm.trans hg) (hz.1 other.2 hy.1)]

/-- A value expands to one result at most. -/
theorem unique {other : Json} (h : Expands docs active path value result)
    (k : Expands docs active path value other) : result = other := by
  induction h generalizing other with
  | scalar hs => cases k <;> first | rfl | cases hs
  | array hl hz ih =>
    cases k with
    | scalar hs => cases hs
    | array hm hy => rw [items_unique hl (fun pair hp w => ih pair hp) hm hy]
  | object hf hk hz ih =>
    cases k with
    | scalar hs => cases hs
    | object _ hm hy => rw [fields_unique hk (fun pair hp w => ih pair hp) hm hy]
    | cut hg => rw [hf] at hg; cases hg
    | follow hg => rw [hf] at hg; cases hg
  | cut hf hn ha =>
    cases k with
    | scalar hs => cases hs
    | object hg => rw [hf] at hg; cases hg
    | cut => rfl
    | follow hg hm hb =>
      obtain rfl := Option.some.inj (hf.symm.trans hg)
      obtain rfl := Except.ok.inj (hn.symm.trans hm)
      exact absurd ha hb
  | follow hf hn ha hv he ih =>
    cases k with
    | scalar hs => cases hs
    | object hg => rw [hf] at hg; cases hg
    | cut hg hm hb =>
      obtain rfl := Option.some.inj (hf.symm.trans hg)
      obtain rfl := Except.ok.inj (hn.symm.trans hm)
      exact absurd hb ha
    | follow hg hm hb hw hx =>
      obtain rfl := Option.some.inj (hf.symm.trans hg)
      obtain rfl := Except.ok.inj (hn.symm.trans hm)
      obtain rfl := Option.some.inj (hv.symm.trans hw)
      exact ih hx

/-- Where no document has an object with one key twice, no result has one either. -/
theorem keysDistinct (hd : ∀ path document, docs path = some document → document.keysDistinct)
    (h : Expands docs active path value result) (hv : value.keysDistinct) :
    result.keysDistinct := by
  induction h with
  | scalar => exact hv
  | array hl hz ih =>
    rw [Json.keysDistinct_array] at hv ⊢
    intro result hr
    obtain ⟨item, hp⟩ := exists_left hl hr
    exact ih _ hp (hv item (List.of_mem_zip hp).1)
  | object hf hk hz ih =>
    rw [Json.keysDistinct_object] at hv ⊢
    refine ⟨hk ▸ hv.1, fun result hr => ?_⟩
    obtain ⟨field, hp⟩ := exists_left (length_of_keys hk) hr
    exact ih _ hp (hv.2 field (List.of_mem_zip hp).1)
  | cut => exact hv
  | follow hf hn ha hw he ih =>
    obtain ⟨document, hp, hq⟩ := Option.bind_eq_some_iff.mp hw
    exact ih (Json.keysDistinct_pointer? (hd _ document hp) hq)

/-- Where a result holds no reference, each reference of the value was followed, and led to a
result without references. -/
theorem exists_of_referencesIn_eq_nil {reference : String}
    (h : Expands docs active path value result) (hc : referencesIn result = [])
    (hr : reference ∈ referencesIn value) :
    ∃ node target expanded, designated path reference = .ok node ∧ node.key ∉ active ∧
      node.value? docs = some target ∧
      Expands docs (node.key :: active) node.path target expanded ∧
      referencesIn expanded = [] := by
  induction h with
  | scalar => rw [hc] at hr; cases hr
  | array hl hz ih =>
    rw [referencesIn_array] at hc hr
    obtain ⟨item, hi, hr⟩ := List.mem_flatMap.mp hr
    obtain ⟨result, hp⟩ := exists_right hl hi
    exact ih _ hp (List.flatMap_eq_nil_iff.mp hc result (List.of_mem_zip hp).2) hr
  | @object active path fields results hf hk hz ih =>
    rw [referencesIn_of_none hf] at hr
    obtain ⟨field, hi, hr⟩ := List.mem_flatMap.mp hr
    obtain ⟨result, hp⟩ := exists_right (length_of_keys hk) hi
    cases hg : referenceOf? results with
    | some reference => rw [referencesIn_of_some hg] at hc; cases hc
    | none =>
      rw [referencesIn_of_none hg] at hc
      exact ih _ hp (List.flatMap_eq_nil_iff.mp hc result (List.of_mem_zip hp).2) hr
  | cut hf => rw [referencesIn_of_some hf] at hc; cases hc
  | follow hf hn ha hv he =>
    rw [referencesIn_of_some hf, List.mem_singleton] at hr
    subst hr
    exact ⟨_, _, _, hn, ha, hv, he, hc⟩

end Expands

end Scaffold.OpenApi
