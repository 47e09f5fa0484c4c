import Mathlib.Data.List.Forall2
import Scaffold.Proofs.Plan
import Scaffold.TypeScript.Controller

/-! The names in a controller. Its method names are told apart when it is planned; that no other
two names clash follows, because each kind of name has a beginning and an end of its own. -/
namespace Scaffold

open OpenApi Source

/-- No verb is the beginning of another, also when they are capitalized. -/
theorem OpenApi.Verb.eq_of_capitalize_isPrefix {v w : Verb}
    (h : (Naming.capitalize v.key).toList <+: (Naming.capitalize w.key).toList) : v = w := by
  revert h
  cases v <;> cases w <;> decide +kernel

/-- A capitalized verb and what stands behind it are fixed by the whole. -/
theorem OpenApi.Verb.capitalize_append_inj {v w : Verb} {p q : List Char}
    (h : (Naming.capitalize v.key).toList ++ p = (Naming.capitalize w.key).toList ++ q) :
    v = w ∧ p = q := by
  have hv : (Naming.capitalize v.key).toList <+: (Naming.capitalize w.key).toList ++ q :=
    h ▸ List.prefix_append _ _
  have hverb : v = w := by
    rcases List.prefix_or_prefix_of_prefix hv (List.prefix_append _ _) with hvw | hwv
    · exact Verb.eq_of_capitalize_isPrefix hvw
    · exact (Verb.eq_of_capitalize_isPrefix hwv).symm
  subst hverb
  exact ⟨rfl, List.append_cancel_left h⟩

namespace OperationNames

variable {v w : Verb} {path path' : String}

/-- Names that are made of a verb and a path, with the same text before and behind, differ when the
method names do. -/
theorem method_eq_of_append {front back : String}
    (h : front ++ Naming.capitalize v.key ++ Naming.pathName path ++ back =
      front ++ Naming.capitalize w.key ++ Naming.pathName path' ++ back) :
    (derive path v.key).method = (derive path' w.key).method := by
  have hchars := congrArg String.toList h
  simp only [String.toList_append, List.append_assoc] at hchars
  have hrest := List.append_cancel_left hchars
  obtain ⟨rfl, hpath⟩ := Verb.capitalize_append_inj hrest
  have hname : Naming.pathName path = Naming.pathName path' :=
    String.toList_inj.mp (List.append_cancel_right hpath)
  unfold derive
  rw [hname]

theorem method_eq_of_responseType_eq
    (h : (derive path v.key).responseType = (derive path' w.key).responseType) :
    (derive path v.key).method = (derive path' w.key).method := by
  apply @method_eq_of_append _ _ _ _ "" "ResponseBody"
  simpa only [derive, String.empty_append] using h

theorem method_eq_of_validation_eq
    (h : (derive path v.key).validation = (derive path' w.key).validation) :
    (derive path v.key).method = (derive path' w.key).method :=
  method_eq_of_append h

end OperationNames

/-- The names that a declaration binds in its module. -/
def Source.Declaration.boundNames : Declaration → List String
  | .imports imported => imported.defaultName.toList ++ imported.names
  | .interface shape => [shape.name]
  | .typeAlias shape => [shape.name]
  | .variable declared => [declared.statement.name]
  | .classDecl declared => [declared.name]

/-- A method has the body of the request checked by a function. -/
def Source.Method.Validates (m : Method) (function : String) : Prop :=
  ∃ statement ∈ m.statements, statement.initializer = .expression (function ++ "(req.body)")

namespace TypeScript

variable {spec : Specification} {plan : Plan} {op : PlannedOperation}

theorem validates_method_iff {function : String} :
    (method op).Validates function ↔ function = op.names.validation := by
  constructor
  · rintro ⟨statement, hm, hi⟩
    rcases List.mem_cons.mp hm with rfl | hm
    · have hcall : op.names.validation ++ "(req.body)" = function ++ "(req.body)" :=
        Initializer.expression.inj hi
      exact ((String.append_left_inj _).mp hcall).symm
    · obtain rfl := List.mem_singleton.mp hm
      cases hi
  · rintro rfl
    exact ⟨_, List.mem_cons_self, rfl⟩

theorem flatMap_boundNames (controllers : Path) (plan : Plan) :
    (controllerArtifact controllers plan).declarations.flatMap Declaration.boundNames =
      "HttpRequest" :: "HttpResponse" :: (plan.operations.map (·.names.responseType) ++
        [Naming.controllerClass plan.service]) := by
  have haliases (ops : List PlannedOperation) :
      (ops.map (Declaration.typeAlias ∘ responseType)).flatMap Declaration.boundNames =
        ops.map (·.names.responseType) := by
    induction ops with
    | nil => rfl
    | cons op rest ih => rw [List.map_cons, List.flatMap_cons, ih]; rfl
  unfold controllerArtifact
  simp [haliases, Declaration.boundNames, controllerClass]

/-- The names of a plan's operations are derived from their paths and verbs. -/
theorem names_of_build (h : Plan.build spec = .ok plan) (hm : op ∈ plan.operations) :
    op.names = .derive op.operation.path op.operation.verb.key := by
  rw [Plan.operations_of_build h] at hm
  obtain ⟨declared, -, rfl⟩ := List.mem_map.mp hm
  rfl

/-- What tells apart the method names of a plan's operations tells the operations apart. -/
theorem pairwise_of_build (h : Plan.build spec = .ok plan) {f : OperationNames → String}
    (hf : ∀ {path path' : String} {v w : Verb},
      f (.derive path v.key) = f (.derive path' w.key) →
        (OperationNames.derive path v.key).method = (OperationNames.derive path' w.key).method) :
    plan.operations.Pairwise fun a b => f a.names ≠ f b.names := by
  have hmethods := List.pairwise_map.mp (Plan.nodup_methods_of_build h)
  refine hmethods.imp_of_mem fun {a b} ha hb hne heq => hne ?_
  rw [names_of_build h ha, names_of_build h hb] at heq ⊢
  exact hf heq

/-- The last character of a name tells the kinds of names in a controller apart. -/
theorem getLast?_append {front back : String} {c : Char} (h : back.toList.getLast? = some c) :
    (front ++ back).toList.getLast? = some c := by
  rw [String.toList_append, List.getLast?_append, h]
  rfl

theorem getLast?_responseType (h : Plan.build spec = .ok plan) (hm : op ∈ plan.operations) :
    op.names.responseType.toList.getLast? = some 'y' := by
  rw [names_of_build h hm]
  exact getLast?_append (by decide)

theorem getLast?_controllerClass (service : String) :
    (Naming.controllerClass service).toList.getLast? = some 'r' :=
  getLast?_append (by decide)

private theorem ne_of_getLast? {a b : String} {c d : Char} (ha : a.toList.getLast? = some c)
    (hb : b.toList.getLast? = some d) (hne : c ≠ d) : a ≠ b := by
  rintro rfl
  exact hne (Option.some.inj (ha.symm.trans hb))

/-- When a document can be planned, the controller binds the two imported names, one type for each
planned operation and its class, and no name twice. The class has one method for each operation, no
two methods of one name, and no function checks the body of the request for two methods. -/
theorem nodup_of_build (h : Plan.build spec = .ok plan) (controllers : Path) :
    (controllerArtifact controllers plan).declarations.flatMap Declaration.boundNames =
        "HttpRequest" :: "HttpResponse" :: (plan.operations.map (·.names.responseType) ++
          [Naming.controllerClass plan.service]) ∧
      ((controllerArtifact controllers plan).declarations.flatMap Declaration.boundNames).Nodup ∧
      ∃ declared : ClassDeclaration,
        (∀ other, .classDecl other ∈ (controllerArtifact controllers plan).declarations ↔
          other = declared) ∧
        List.Forall₂ (fun m op => m.name = op.names.method ∧
          ∀ function, m.Validates function ↔ function = op.names.validation)
          declared.methods plan.operations ∧
        (declared.methods.map (·.name)).Nodup ∧
        (∀ m ∈ declared.methods, ∃ function, m.Validates function) ∧
        declared.methods.Pairwise fun m n =>
          ∀ function other, m.Validates function → n.Validates other → function ≠ other := by
  have hclass := getLast?_controllerClass plan.service
  have hrequest : "HttpRequest".toList.getLast? = some 't' := by decide
  have hresponse : "HttpResponse".toList.getLast? = some 'e' := by decide
  refine ⟨flatMap_boundNames controllers plan, ?_, ?_⟩
  · have hmem : ∀ name ∈ plan.operations.map (·.names.responseType) ++
        [Naming.controllerClass plan.service],
        name.toList.getLast? = some 'y' ∨ name.toList.getLast? = some 'r' := by
      intro name hn
      rcases List.mem_append.mp hn with hn | hn
      · obtain ⟨op, hm, rfl⟩ := List.mem_map.mp hn
        exact .inl (getLast?_responseType h hm)
      · exact .inr (List.mem_singleton.mp hn ▸ hclass)
    have habsent {name : String} {c : Char} (hc : name.toList.getLast? = some c) (hy : c ≠ 'y')
        (hr : c ≠ 'r') : name ∉ plan.operations.map (·.names.responseType) ++
          [Naming.controllerClass plan.service] := by
      intro hn
      rcases hmem name hn with hl | hl
      · exact ne_of_getLast? hc hl hy rfl
      · exact ne_of_getLast? hc hl hr rfl
    rw [flatMap_boundNames]
    refine List.nodup_cons.mpr ⟨?_,
      List.nodup_cons.mpr ⟨habsent hresponse (by decide) (by decide), ?_⟩⟩
    · rw [List.mem_cons, not_or]
      exact ⟨by decide, habsent hrequest (by decide) (by decide)⟩
    · refine List.nodup_append.mpr ⟨?_, List.nodup_singleton _, ?_⟩
      · exact List.pairwise_map.mpr (pairwise_of_build h
          OperationNames.method_eq_of_responseType_eq)
      · intro name hn other ho
        obtain ⟨op, hm, rfl⟩ := List.mem_map.mp hn
        obtain rfl := List.mem_singleton.mp ho
        exact ne_of_getLast? (getLast?_responseType h hm) hclass (by decide)
  · refine ⟨controllerClass plan, fun other => ?_, ?_, ?_, ?_, ?_⟩
    · simp [controllerArtifact]
    · refine List.forall₂_map_left_iff.mpr (List.forall₂_same.mpr fun op _ => ⟨rfl,
        fun function => ?_⟩)
      exact validates_method_iff
    · change ((plan.operations.map method).map (·.name)).Nodup
      rw [List.map_map]
      exact Plan.nodup_methods_of_build h
    · intro m hm
      obtain ⟨op, -, rfl⟩ := List.mem_map.mp hm
      exact ⟨_, validates_method_iff.mpr rfl⟩
    · refine List.pairwise_map.mpr ?_
      have hvalidation := pairwise_of_build h OperationNames.method_eq_of_validation_eq
      refine hvalidation.imp fun hne function other hf ho => ?_
      rw [validates_method_iff.mp hf, validates_method_iff.mp ho]
      exact hne

/-- A document with two verbs on one path, and one of them on a longer path. -/
def petsSpecification : Specification where
  service := "pets"
  source := ⟨"pets.json"⟩
  document := .object [("paths", .object
    [("/pets", .object [("post", .object []), ("put", .object [])]),
      ("/pets/\x7bpet-id\x7d", .object [("put", .object [])])])]

theorem nodup_petsSpecification : ∃ plan, Plan.build petsSpecification = .ok plan ∧
    plan.operations.map (·.names.method) = ["postPets", "putPets", "putPetsByPetId"] ∧
    ((controllerArtifact ⟨"c"⟩ plan).declarations.flatMap Declaration.boundNames).Nodup := by
  have hnames : (Plan.build petsSpecification).toOption.map
      (fun plan => plan.operations.map (·.names.method)) =
        some ["postPets", "putPets", "putPetsByPetId"] := by
    decide +kernel
  cases hb : Plan.build petsSpecification with
  | error e =>
    rw [hb] at hnames
    cases hnames
  | ok plan =>
    rw [hb] at hnames
    exact ⟨plan, rfl, Option.some.inj hnames, (nodup_of_build hb ⟨"c"⟩).2.1⟩

end TypeScript

end Scaffold
