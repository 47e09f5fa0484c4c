import Scaffold.Proofs.Naming.Words
import Scaffold.Proofs.OpenApi.Responses
import Scaffold.Proofs.Plan
import Scaffold.Proofs.TypeScript.Lines
import Scaffold.TypeScript.Controller

/-! The lines of a controller against the operations of its document. Each operation has one method
and one alias, in the order of the document, and the alias notes its successful responses. -/
namespace Scaffold

open OpenApi Source Text

namespace Naming

variable {cs : List Char}

theorem lineFeed_not_mem_dashed (h : '\n' ∉ cs) : '\n' ∉ dashed cs := by
  fun_induction dashed cs with
  | case1 => exact h
  | case2 cs ih => simp_all
  | case3 cs _ ih => simp_all
  | case4 cs _ _ ih => simp_all
  | case5 c cs _ _ _ ih => simp_all

theorem lineFeed_not_mem_camel (h : '\n' ∉ cs) : '\n' ∉ camel cs := by
  have hall : ∀ c ∈ camel cs, c ≠ '\n' := by
    refine forall_mem_camel (fun c hc d hd => ?_) fun c hc he => h (he ▸ hc)
    rintro rfl
    exact hc ((mem_upperChar_iff (by decide)).mp hd).symm
  exact fun hm => hall _ hm rfl

theorem lineFeed_not_mem_capital (h : '\n' ∉ cs) : '\n' ∉ capital cs :=
  mt (mem_capital_iff (by decide)).mp h

theorem isLine_pathName {path : String} (h : IsLine path) : IsLine (pathName path) := by
  rw [pathName_eq, IsLine, String.toList_ofList]
  exact lineFeed_not_mem_capital (lineFeed_not_mem_camel (lineFeed_not_mem_dashed h))

theorem isLine_controllerClass {service : String} (h : IsLine service) :
    IsLine (controllerClass service) := by
  have hname : IsLine (capitalize (camelize service)) := by
    rw [capitalize, camelize, IsLine, String.toList_ofList, String.toList_ofList]
    exact lineFeed_not_mem_capital (lineFeed_not_mem_camel h)
  simp +decide [controllerClass, hname]

end Naming

namespace TypeScript

variable {spec : Specification} {plan : Plan} {op : PlannedOperation}

/-- The first lines of the method of an operation. -/
def methodBlock (names : OperationNames) : List String :=
  ["  static " ++ names.method ++ "(req: HttpRequest): Promise<HttpResponse<" ++
      names.responseType ++ ", unknown>> \x7b",
    "    const validatedBody = " ++ names.validation ++ "(req.body);",
    "    const res: HttpResponse<" ++ names.responseType ++ ", unknown> = \x7b"]

/-- The lines of an alias that notes statuses. -/
def aliasBlock (name : String) (statuses : List Nat) : List String :=
  if statuses = [] then ["export type " ++ name ++ " = \x7b\x7d;"]
  else ("export type " ++ name ++ " = \x7b") ::
    statuses.map (fun status => "  // " ++ toString status ++ " application/json") ++ ["\x7d;"]

/-- The lines of a method below its first ones. -/
def methodRest : List String :=
  ["      body: \x7b\x7d,", "      headers: \x7b\x7d,", "      status: 200,",
    "      contentType: 'application/json',", "      contentDisposition: 'inline',",
    "      raw: false,", "    \x7d;", "  \x7d"]

theorem methodLines_method (op : PlannedOperation) :
    methodLines (method op) = methodBlock op.names ++ methodRest := by
  have hsignature : signatureLine (method op) =
      "  static " ++ op.names.method ++ "(req: HttpRequest): Promise<HttpResponse<" ++
        op.names.responseType ++ ", unknown>> \x7b" := by
    rw [← String.toList_inj]
    simp [signatureLine, method, responseTypeRef, typeSuffix]
  have hcall : statementLines "" "    "
      ⟨"const", "validatedBody", none, .expression (op.names.validation ++ "(req.body)")⟩ =
        ["    const validatedBody = " ++ op.names.validation ++ "(req.body);"] := by
    rw [statementLines, List.singleton_inj, ← String.toList_inj]
    simp [typeSuffix]
  have hresult : statementLines "" "    "
      ⟨"const", "res", some (responseTypeRef op), .object
        [("body", "\x7b\x7d"), ("headers", "\x7b\x7d"), ("status", "200"),
          ("contentType", "'application/json'"), ("contentDisposition", "'inline'"),
          ("raw", "false")]⟩ =
        ("    const res: HttpResponse<" ++ op.names.responseType ++ ", unknown> = \x7b") ::
          methodRest.dropLast := by
    refine congrArg₂ List.cons ?_ (by decide)
    rw [← String.toList_inj]
    simp [typeSuffix, responseTypeRef]
  rw [methodLines, hsignature]
  simp only [method, List.flatMap_cons, List.flatMap_nil, hcall, hresult]
  rfl

theorem aliasLines_responseType (op : PlannedOperation) :
    aliasLines (responseType op) = aliasBlock op.names.responseType op.operation.noted := by
  have hstart : exportText (responseType op).exported ++ "type " ++ (responseType op).name ++
      " = " = "export type " ++ op.names.responseType ++ " = " := by
    rw [← String.toList_inj]
    simp [exportText, responseType]
  have hbrace : ∀ brace, "export type " ++ op.names.responseType ++ " = " ++ brace =
      "export type " ++ op.names.responseType ++ (" = " ++ brace) :=
    fun _ => String.append_assoc
  have hnotes : (responseType op).notes =
      op.operation.noted.map fun status => toString status ++ " application/json" := by
    rw [Operation.noted, List.map_map]
    rfl
  have hmembers : (responseType op).members = [] := rfl
  rw [aliasLines, aliasBlock, hstart]
  simp only [hbrace, hnotes, hmembers, List.map_map, List.isEmpty_nil, Bool.and_true,
    List.map_nil, List.append_nil, List.isEmpty_map, List.isEmpty_iff]
  simp only [Function.comp_def, String.append_assoc]
  rfl

/-- The names that are written for an operation have no line feeds. -/
structure NamesAreLines (names : OperationNames) : Prop where
  method : IsLine names.method
  responseType : IsLine names.responseType
  validation : IsLine names.validation

theorem namesAreLines_derive {path : String} (verb : Verb) (h : IsLine path) :
    NamesAreLines (.derive path verb.key) := by
  have hpath := Naming.isLine_pathName h
  have hverb : IsLine verb.key ∧ IsLine (Naming.capitalize verb.key) := by
    cases verb <;> decide +kernel
  constructor <;> simp +decide [OperationNames.derive, hpath, hverb]

theorem namesAreLines_of_mem (hp : ∀ entry ∈ spec.paths, IsLine entry.1)
    (h : Plan.build spec = .ok plan) (hm : op ∈ plan.operations) : NamesAreLines op.names := by
  rw [Plan.operations_of_build h] at hm
  obtain ⟨operation, hdeclared, rfl⟩ := List.mem_map.mp hm
  obtain ⟨fields, hentry, -⟩ := Plan.mem_declared.mp hdeclared
  exact namesAreLines_derive operation.verb (hp _ hentry)

theorem isLine_alias_texts (h : NamesAreLines op.names) :
    ∀ t ∈ (Declaration.typeAlias (responseType op)).texts, IsLine t := by
  have hnotes : ∀ note ∈ (responseType op).notes, IsLine note := by
    refine List.forall_mem_map.mpr fun response _ => ?_
    exact isLine_append.mpr ⟨isLine_toString _, by decide⟩
  exact List.forall_mem_append.mpr
    ⟨List.forall_mem_cons.mpr ⟨h.responseType, hnotes⟩, List.forall_mem_nil _⟩

theorem isLine_method_texts (h : NamesAreLines op.names) : ∀ t ∈ (method op).texts, IsLine t := by
  obtain ⟨hmethod, hresponse, hvalidation⟩ := h
  have hreference : IsLine (responseTypeRef op) := by simp +decide [responseTypeRef, hresponse]
  simp +decide [Method.texts, Statement.texts, Initializer.texts, method, hmethod, hreference,
    hvalidation]

theorem isLine_texts (controllers : Path) (hs : IsLine spec.service)
    (hp : ∀ entry ∈ spec.paths, IsLine entry.1) (h : Plan.build spec = .ok plan) :
    ∀ d ∈ (controllerArtifact controllers plan).declarations, ∀ t ∈ d.texts, IsLine t := by
  have hnames : ∀ op ∈ plan.operations, NamesAreLines op.names := fun op hm =>
    namesAreLines_of_mem hp h hm
  have himport : ∀ t ∈ (Declaration.imports ⟨"./" ++ interfacesModule, none,
      ["HttpRequest", "HttpResponse"]⟩).texts, IsLine t := by
    decide
  refine List.forall_mem_cons.mpr ⟨himport, List.forall_mem_append.mpr
    ⟨List.forall_mem_map.mpr fun op hm => isLine_alias_texts (hnames op hm),
      List.forall_mem_singleton.mpr (List.forall_mem_cons.mpr ⟨?_, ?_⟩)⟩⟩
  · rw [← Plan.service_of_build h] at hs
    exact Naming.isLine_controllerClass hs
  · intro t ht
    obtain ⟨_, hmethod, ht⟩ := List.mem_flatMap.mp ht
    obtain ⟨op, hm, rfl⟩ := List.mem_map.mp hmethod
    exact isLine_method_texts (hnames op hm) t ht

theorem linesFrom_aliases (previous : Declaration) (ops : List PlannedOperation)
    (c : ClassDeclaration) :
    linesFrom previous (ops.map (.typeAlias ∘ responseType) ++ [.classDecl c]) =
      ops.flatMap (fun op => "" :: aliasBlock op.names.responseType op.operation.noted) ++
        "" :: declarationLines (.classDecl c) := by
  have hgap : ∀ previous d, Declaration.isImport d = false → gapLines previous d = [""] := by
    intro previous d hd
    rw [gapLines, hd, Bool.and_false, if_neg Bool.false_ne_true]
  induction ops generalizing previous with
  | nil => simp [linesFrom, hgap _ (.classDecl c) rfl]
  | cons op ops ih =>
    rw [List.map_cons, List.cons_append, linesFrom, ih, hgap _ _ rfl, List.flatMap_cons]
    simp [declarationLines, aliasLines_responseType]

def controllerLines (ops : List PlannedOperation) (className : String) : List String :=
  ["import \x7b HttpRequest, HttpResponse \x7d from './interfaces';"] ++
    (ops.flatMap (fun op => "" :: aliasBlock op.names.responseType op.operation.noted) ++
      (["", "export class " ++ className ++ " \x7b"] ++
        ([""].intercalate (ops.map fun op => methodBlock op.names ++ methodRest) ++ ["\x7d", ""])))

theorem lines_controller (controllers : Path) (hs : IsLine spec.service)
    (hp : ∀ entry ∈ spec.paths, IsLine entry.1) (h : Plan.build spec = .ok plan) :
    lines (text (controllerArtifact controllers plan)) =
      controllerLines plan.operations (Naming.controllerClass plan.service) := by
  have hmethods : (plan.operations.map method).map methodLines =
      plan.operations.map fun op => methodBlock op.names ++ methodRest := by
    simp [methodLines_method]
  have hclass : declarationLines (.classDecl (controllerClass plan)) =
      ("export class " ++ Naming.controllerClass plan.service ++ " \x7b") ::
        [""].intercalate (plan.operations.map fun op => methodBlock op.names ++ methodRest) ++
          ["\x7d"] := by
    rw [← hmethods]
    rfl
  have hrest := linesFrom_aliases (.imports ⟨"./" ++ interfacesModule, none,
    ["HttpRequest", "HttpResponse"]⟩) plan.operations (controllerClass plan)
  rw [hclass] at hrest
  have himport : declarationLines (.imports ⟨"./" ++ interfacesModule, none,
      ["HttpRequest", "HttpResponse"]⟩) =
        ["import \x7b HttpRequest, HttpResponse \x7d from './interfaces';"] := by
    decide
  refine (lines_text (isLine_texts controllers hs hp h)).trans ?_
  refine (congrArg₂ (· ++ · ++ [""]) himport hrest).trans ?_
  simp only [controllerLines, List.append_assoc, List.cons_append, List.nil_append]

theorem exists_aliasBlock_eq (name : String) (statuses : List Nat) :
    ∃ first more, aliasBlock name statuses = first :: more ∧
      (Begins "export type " first ∧ ¬Begins "  static " first) ∧
      ∀ line ∈ more, ¬Begins "export type " line ∧ ¬Begins "  static " line := by
  have hfirst : ∀ brace, Begins "export type " ("export type " ++ name ++ brace) ∧
      ¬Begins "  static " ("export type " ++ name ++ brace) := by
    intro brace
    rw [String.append_assoc]
    exact ⟨begins_append _ _, not_begins_append _ (by decide)⟩
  unfold aliasBlock
  split
  · exact ⟨_, [], rfl, hfirst _, List.forall_mem_nil _⟩
  · refine ⟨_, _, rfl, hfirst _, List.forall_mem_append.mpr ⟨?_, by simp +decide⟩⟩
    refine List.forall_mem_map.mpr fun status _ => ?_
    rw [String.append_assoc]
    exact ⟨not_begins_append _ (by decide), not_begins_append _ (by decide)⟩

theorem exists_methodBlock_eq (names : OperationNames) :
    ∃ first more, methodBlock names ++ methodRest = first :: more ∧
      (Begins "  static " first ∧ ¬Begins "export type " first) ∧
      ∀ line ∈ more, ¬Begins "  static " line ∧ ¬Begins "export type " line := by
  refine ⟨_, _, rfl, ?_, List.forall_mem_cons.mpr ⟨?_, List.forall_mem_cons.mpr ⟨?_, by decide⟩⟩⟩
  · simp only [String.append_assoc]
    exact ⟨begins_append _ _, not_begins_append _ (by decide)⟩
  · rw [String.append_assoc]
    exact ⟨not_begins_append _ (by decide), not_begins_append _ (by decide)⟩
  · rw [String.append_assoc]
    exact ⟨not_begins_append _ (by decide), not_begins_append _ (by decide)⟩

theorem not_begins_import : ¬Begins "  static "
      "import \x7b HttpRequest, HttpResponse \x7d from './interfaces';" ∧
    ¬Begins "export type " "import \x7b HttpRequest, HttpResponse \x7d from './interfaces';" := by
  decide

theorem not_begins_class (className : String) :
    ¬Begins "  static " ("export class " ++ className ++ " \x7b") ∧
      ¬Begins "export type " ("export class " ++ className ++ " \x7b") := by
  rw [String.append_assoc]
  exact ⟨not_begins_append _ (by decide), not_begins_append _ (by decide)⟩

theorem forall₂_methods (ops : List PlannedOperation) (className : String) :
    List.Forall₂ (fun op run => methodBlock op.names <+: run) ops
      (runsFrom "  static " (controllerLines ops className)) := by
  have haliases : ∀ line ∈ ops.flatMap (fun op =>
      "" :: aliasBlock op.names.responseType op.operation.noted), ¬Begins "  static " line := by
    refine List.forall_mem_flatMap.mpr fun op _ => List.forall_mem_cons.mpr ⟨by decide, ?_⟩
    obtain ⟨first, more, hblock, ⟨-, hfirst⟩, hmore⟩ :=
      exists_aliasBlock_eq op.names.responseType op.operation.noted
    rw [hblock]
    exact List.forall_mem_cons.mpr ⟨hfirst, fun line hl => (hmore line hl).2⟩
  have hheader : ∀ line ∈ ["", "export class " ++ className ++ " \x7b"], ¬Begins "  static " line :=
    List.forall_mem_cons.mpr ⟨by decide, List.forall_mem_singleton.mpr (not_begins_class _).1⟩
  have hruns : List.Forall₂ (fun op run => methodBlock op.names ++ methodRest <+: run) ops
      (runsFrom "  static " (ops.flatMap (fun op => "" :: (methodBlock op.names ++ methodRest)) ++
        ["\x7d", ""])) := by
    refine forall₂_runsFrom (fun op _ => ?_) (by decide) (by decide)
    obtain ⟨first, more, hblock, ⟨hfirst, -⟩, hmore⟩ := exists_methodBlock_eq op.names
    exact ⟨first, more, hblock, hfirst, fun line hl => (hmore line hl).1⟩
  -- What stands above the first method is left out part by part.
  rw [controllerLines, runsFrom_append (List.forall_mem_singleton.mpr not_begins_import.1),
    runsFrom_append haliases, runsFrom_append hheader, runsFrom_intercalate (by decide),
    List.flatMap_map]
  exact hruns.imp fun op run hrun => (List.prefix_append _ _).trans hrun

theorem forall₂_aliases (ops : List PlannedOperation) (className : String) :
    List.Forall₂ (fun op run => aliasBlock op.names.responseType op.operation.noted <+: run) ops
      (runsFrom "export type " (controllerLines ops className)) := by
  have hmethods : ∀ line ∈ [""].intercalate (ops.map fun op => methodBlock op.names ++ methodRest),
      ¬Begins "export type " line := by
    intro line hl
    rcases mem_of_mem_intercalate hl with rfl | ⟨_, hb, hl⟩
    · decide
    · obtain ⟨op, -, rfl⟩ := List.mem_map.mp hb
      obtain ⟨first, more, hblock, ⟨-, hfirst⟩, hmore⟩ := exists_methodBlock_eq op.names
      rw [hblock] at hl
      rcases List.mem_cons.mp hl with rfl | hl
      · exact hfirst
      · exact (hmore line hl).2
  have hclass : ∀ line ∈ ["", "export class " ++ className ++ " \x7b"] ++
      ([""].intercalate (ops.map fun op => methodBlock op.names ++ methodRest) ++ ["\x7d", ""]),
      ¬Begins "export type " line := by
    refine List.forall_mem_append.mpr ⟨?_, List.forall_mem_append.mpr ⟨hmethods, by decide⟩⟩
    exact List.forall_mem_cons.mpr ⟨by decide, List.forall_mem_singleton.mpr (not_begins_class _).2⟩
  rw [controllerLines, runsFrom_append (List.forall_mem_singleton.mpr not_begins_import.2)]
  refine forall₂_runsFrom (fun op _ => ?_) hclass (by decide)
  obtain ⟨first, more, hblock, ⟨hfirst, -⟩, hmore⟩ :=
    exists_aliasBlock_eq op.names.responseType op.operation.noted
  exact ⟨first, more, hblock, hfirst, fun line hl => (hmore line hl).1⟩

/-- Rendering neither loses, doubles nor moves an operation of the document: for each in turn there
is one method that validates by its own function and answers by its own type, and one alias, with a
note for each of the responses that succeed and nothing else. -/
theorem controller_lines (controllers : Path) (hs : IsLine spec.service)
    (hp : ∀ entry ∈ spec.paths, IsLine entry.1) (h : Plan.build spec = .ok plan) :
    ∃ content, renderer.render (controllerArtifact controllers plan) = .ok content ∧
      List.Forall₂ (fun op run => methodBlock (.derive op.path op.verb.key) <+: run)
        (Plan.declared spec) (runsFrom "  static " (lines content)) ∧
      List.Forall₂ (fun op run => ∃ statuses, Statuses op.responses statuses ∧
          aliasBlock (OperationNames.derive op.path op.verb.key).responseType statuses <+: run)
        (Plan.declared spec) (runsFrom "export type " (lines content)) := by
  have hmethods := forall₂_methods plan.operations (Naming.controllerClass plan.service)
  have haliases := forall₂_aliases plan.operations (Naming.controllerClass plan.service)
  rw [← lines_controller controllers hs hp h] at hmethods haliases
  rw [Plan.operations_of_build h, List.forall₂_map_left_iff] at hmethods haliases
  refine ⟨_, render_eq _, ?_, ?_⟩
  · exact hmethods
  · exact haliases.imp fun op run hrun => ⟨op.noted, statuses_noted op, hrun⟩

/-- A document with responses of all kinds: without a payload, with a sign, and with an error. -/
def shedSpecification : Specification where
  service := "garden-shed"
  source := ⟨"shed.json"⟩
  document := .object [("paths", .object [("/tools/\x7bid\x7d", .object
    [("get", .object [("responses", .object
      [("204", .object []), ("+200", payload), ("404", payload), ("0201", payload)])]),
      ("put", .object [])])])]
where
  payload : Json :=
    .object [("content", .object [("application/json", .object [("schema", .object [])])])]

theorem controller_lines_shedSpecification : ∃ plan content,
    Plan.build shedSpecification = .ok plan ∧
    renderer.render (controllerArtifact ⟨"c"⟩ plan) = .ok content ∧
    List.Forall₂ (fun op run => methodBlock (.derive op.path op.verb.key) <+: run)
      (Plan.declared shedSpecification) (runsFrom "  static " (lines content)) ∧
    (Plan.declared shedSpecification).map (fun op =>
      aliasBlock (OperationNames.derive op.path op.verb.key).responseType op.noted) =
        [["export type GetToolsByIdResponseBody = \x7b", "  // 200 application/json",
          "  // 201 application/json", "\x7d;"],
          ["export type PutToolsByIdResponseBody = \x7b\x7d;"]] := by
  have hservice : IsLine shedSpecification.service := by decide
  have hpaths : ∀ entry ∈ shedSpecification.paths, IsLine entry.1 :=
    List.forall_mem_singleton.mpr (by decide)
  have hbuild : (Plan.build shedSpecification).toOption.isSome = true := by decide +kernel
  cases hb : Plan.build shedSpecification with
  | error e =>
    rw [hb] at hbuild
    cases hbuild
  | ok plan =>
    obtain ⟨content, hrender, hmethods, -⟩ := controller_lines ⟨"c"⟩ hservice hpaths hb
    exact ⟨plan, content, rfl, hrender, hmethods, by decide +kernel⟩

end TypeScript

end Scaffold
