import Scaffold.Proofs.Source.Rendering
import Scaffold.TypeScript.Templates

/-! The texts of TypeScript declarations. The templates give every declaration a text: `layout` says
which one, and that no declaration fails to render. -/
namespace Scaffold.TypeScript

open Source

variable {scope : Scope} {operand : Operand}

def exportText (exported : Bool) : String := if exported then "export " else ""

/-- A type behind a colon; nothing where the type is absent or empty. -/
def typeSuffix : Option String → String
  | none => ""
  | some type => if type = "" then "" else ": " ++ type

def propertyText (p : Property) : String :=
  "\n  " ++ p.name ++ (if p.isOptional then "?" else "") ++ ": " ++ p.type ++ ";"

/-- The right side of a statement; the entries of an object stand on lines of their own. -/
def initializerText (indent : String) : Initializer → String
  | .expression text => text
  | .object properties =>
    "\x7b" ++ String.join (properties.map fun (name, value) =>
      "\n" ++ indent ++ "  " ++ name ++ ": " ++ value ++ ",") ++ "\n" ++ indent ++ "\x7d"

def statementText (indent : String) (s : Statement) : String :=
  indent ++ s.keyword ++ " " ++ s.name ++ typeSuffix s.type ++ " = " ++
    initializerText indent s.initializer ++ ";"

def methodText (m : Method) : String :=
  "\n  " ++ (if m.isStatic then "static " else "") ++ m.name ++ "(" ++
    ", ".intercalate (m.parameters.map fun (name, type) => name ++ ": " ++ type) ++ ")" ++
    typeSuffix m.returnType ++ " \x7b" ++
    String.join (m.statements.map fun s => "\n" ++ statementText "    " s) ++ "\n  \x7d"

/-- A shape without notes and members is written in one line. -/
def shapeText (a : TypeAlias) : String :=
  if a.notes.isEmpty && a.members.isEmpty then "\x7b\x7d;"
  else "\x7b" ++ String.join (a.notes.map ("\n  // " ++ ·)) ++
    String.join (a.members.map propertyText) ++ "\n\x7d;"

/-- The default import, with a comma in front of named ones. -/
def defaultText (names : List String) : Option String → String
  | none => ""
  | some name => if name = "" then "" else name ++ if names.isEmpty then "" else ", "

def namesText (names : List String) : String :=
  if names.isEmpty then "" else "\x7b " ++ ", ".intercalate names ++ " \x7d"

def layout : Declaration → String
  | .imports i =>
    "import " ++ defaultText i.names i.defaultName ++ namesText i.names ++ " from '" ++ i.module ++
      "';\n"
  | .interface i =>
    exportText i.exported ++ "interface " ++ i.name ++
      (if i.typeParameters.isEmpty then "" else "<" ++ ", ".intercalate i.typeParameters ++ ">") ++
      " \x7b" ++ String.join (i.properties.map propertyText) ++ "\n\x7d\n"
  | .typeAlias a => exportText a.exported ++ "type " ++ a.name ++ " = " ++ shapeText a ++ "\n"
  | .variable v => exportText v.exported ++ statementText "" v.statement ++ "\n"
  | .classDecl c =>
    exportText c.exported ++ "class " ++ c.name ++ " \x7b" ++
      "\n".intercalate (c.methods.map methodText) ++ "\n\x7d\n"

theorem render_exportMark {exported : Bool}
    (h : scope.find? (.path ["decl", "exported"]) = some (.bool exported)) :
    exportMark.render scope = .ok (exportText exported) := by
  have ht : (Test.given (.path ["decl", "exported"])).holds scope = exported := by
    rw [Test.holds, h]
    rfl
  exact render_choice exported ht (fun _ => rfl) (fun _ => rfl)

theorem given_textOrNull {type : Option String} (h : scope.find? operand = some (textOrNull type)) :
    (Test.given operand).holds scope = type.any (· ≠ "") := by
  rw [Test.holds, h]
  cases type <;> rfl

theorem given_array {items : List Json} (h : scope.find? operand = some (.array items)) :
    (Test.given operand).holds scope = !items.isEmpty := by
  rw [Test.holds, h]
  rfl

theorem given_textArray {texts : List String} (h : scope.find? operand = some (textArray texts)) :
    (Test.given operand).holds scope = !texts.isEmpty :=
  (given_array h).trans (by rw [List.isEmpty_map])

theorem render_bracketed {texts : List String} (before behind : String)
    (h : scope.find? operand = some (textArray texts)) :
    (Piece.choice (.given operand) [.text before, .joined operand ", ", .text behind] []).render
      scope = .ok (if texts.isEmpty then "" else before ++ ", ".intercalate texts ++ behind) := by
  have ht := given_textArray h
  cases hempty : texts.isEmpty with
  | true => exact render_choice_false (ht.trans (by rw [hempty]; rfl))
  | false =>
    rw [render_choice_true (ht.trans (by rw [hempty]; rfl)), renderPieces_text,
      renderPieces_cons (render_joined ", " h), renderPieces_text, renderPieces_nil]
    simp only [map_append_ok]
    simp [String.append_assoc]

theorem render_typeMark {type : Option String}
    (h : scope.find? operand = some (textOrNull type)) :
    (typeMark operand).render scope = .ok (typeSuffix type) := by
  have ht := given_textOrNull h
  cases type with
  | none => exact render_choice_false ht
  | some type =>
    by_cases hempty : type = ""
    · rw [typeSuffix, if_pos hempty]
      exact render_choice_false (ht.trans (by simp [hempty]))
    · rw [typeSuffix, if_neg hempty, typeMark, render_choice_true (ht.trans (by simp [hempty]))]
      have hvalue : (Piece.value operand).render scope = .ok type := render_value h
      simp only [renderPieces_text, renderPieces_cons hvalue, renderPieces_nil, map_append_ok,
        String.append_empty]

theorem render_property (p : Property) (h : ∀ names, scope.find? (.path ("property" :: names)) =
      Scope.descend p.toJson names) :
    renderPieces scope propertyPieces = .ok (propertyText p) := by
  have hopt : (Piece.choice (.given (.path ["property", "optional"])) [.text "?"] []).render scope =
      .ok (if p.isOptional then "?" else "") := by
    have ht : (Test.given (.path ["property", "optional"])).holds scope = p.isOptional := by
      rw [Test.holds, h]
      rfl
    exact render_choice _ ht (fun _ => rfl) (fun _ => rfl)
  have hname : (Piece.value (.path ["property", "name"])).render scope = .ok p.name :=
    render_value (h ["name"])
  have htype : (Piece.value (.path ["property", "ty"])).render scope = .ok p.type :=
    render_value (h ["ty"])
  rw [propertyPieces, propertyText]
  simp only [renderPieces_text, renderPieces_cons hname, renderPieces_cons hopt,
    renderPieces_cons htype, renderPieces_nil, map_append_ok, String.append_assoc,
    String.append_empty]

theorem render_member (entry : String × String) (isFirst isLast : Bool) (indent : String) :
    renderPieces (scope.within "property" (.object [("name", .string entry.1),
      ("value", .string entry.2)]) isFirst isLast)
        [.text ("\n" ++ indent ++ "  "), .value (.path ["property", "name"]), .text ": ",
          .value (.path ["property", "value"]), .text ","] =
      .ok ("\n" ++ indent ++ "  " ++ entry.1 ++ ": " ++ entry.2 ++ ",") := by
  rw [renderPieces_text, renderPieces_cons (render_value rfl), renderPieces_text,
    renderPieces_cons (render_value rfl), renderPieces_text, renderPieces_nil]
  simp only [map_append_ok]
  simp only [String.append_assoc, String.append_empty]

theorem render_initializer (i : Initializer) (path : List String) (indent : String)
    (h : ∀ names, scope.find? (.path (path ++ "initializer" :: names)) =
      Scope.descend i.toJson names) :
    (Piece.choice (.equal (.path (path ++ ["initializer", "kind"])) (.text "object"))
      [.text "\x7b",
        .each "property" (.path (path ++ ["initializer", "properties"]))
          [.text ("\n" ++ indent ++ "  "), .value (.path ["property", "name"]), .text ": ",
            .value (.path ["property", "value"]), .text ","],
        .text ("\n" ++ indent ++ "\x7d")]
      [.value (.path (path ++ ["initializer", "expression"]))]).render scope =
        .ok (initializerText indent i) := by
  have hkind := h ["kind"]
  cases i with
  | expression text =>
    have ht : (Test.equal (.path (path ++ ["initializer", "kind"])) (.text "object")).holds scope =
        false := by
      rw [Test.holds, hkind]
      rfl
    have hvalue : (Piece.value (.path (path ++ ["initializer", "expression"]))).render scope =
        .ok text := render_value (h ["expression"])
    rw [render_choice_false ht, renderPieces_cons hvalue, renderPieces_nil, map_append_ok,
      String.append_empty, initializerText]
  | object properties =>
    have ht : (Test.equal (.path (path ++ ["initializer", "kind"])) (.text "object")).holds scope =
        true := by
      rw [Test.holds, hkind]
      rfl
    have heach := render_each "property" (fun (entry : String × String) _ _ =>
      "\n" ++ indent ++ "  " ++ entry.1 ++ ": " ++ entry.2 ++ ",") (h ["properties"])
      fun entry isFirst isLast => render_member entry isFirst isLast indent
    rw [flagged_plain] at heach
    rw [render_choice_true ht, renderPieces_text, renderPieces_cons heach, renderPieces_text,
      renderPieces_nil, initializerText]
    simp only [map_append_ok]
    simp only [String.append_assoc, String.append_empty]

theorem render_statement (s : Statement) (path : List String) (indent : String)
    (h : ∀ names, scope.find? (.path (path ++ names)) = Scope.descend s.toJson names) :
    renderPieces scope (statementPieces path indent) = .ok (statementText indent s) := by
  have hkeyword : (Piece.value (.path (path ++ ["keyword"]))).render scope = .ok s.keyword :=
    render_value (h ["keyword"])
  have hname : (Piece.value (.path (path ++ ["name"]))).render scope = .ok s.name :=
    render_value (h ["name"])
  have htype : (typeMark (.path (path ++ ["ty"]))).render scope = .ok (typeSuffix s.type) :=
    render_typeMark (h ["ty"])
  have hinitializer := render_initializer s.initializer path indent fun names =>
    h ("initializer" :: names)
  rw [statementPieces, statementText]
  simp only [renderPieces_text, renderPieces_cons hkeyword, renderPieces_cons hname,
    renderPieces_cons htype, renderPieces_cons hinitializer, renderPieces_nil, map_append_ok]
  simp only [String.append_assoc, String.append_empty]

theorem render_parameter (p : String × String) (isFirst isLast : Bool) :
    renderPieces (scope.within "parameter" (.object [("name", .string p.1), ("ty", .string p.2)])
      isFirst isLast)
        [.value (.path ["parameter", "name"]), .text ": ", .value (.path ["parameter", "ty"]),
          commaUnlessLast] =
      .ok (p.1 ++ ": " ++ p.2 ++ if isLast then "" else ", ") := by
  have hcomma : commaUnlessLast.render (scope.within "parameter"
      (.object [("name", .string p.1), ("ty", .string p.2)]) isFirst isLast) =
        .ok (if isLast then "" else ", ") := by
    cases isLast <;> rfl
  rw [renderPieces_cons (render_value rfl), renderPieces_text,
    renderPieces_cons (render_value rfl), renderPieces_cons hcomma, renderPieces_nil]
  simp only [map_append_ok]
  simp only [String.append_assoc, String.append_empty]

/-- The pieces of a method, which is in scope as `method`. -/
def methodPieces : List Piece :=
  [.choice (.not (.given (.path ["loop", "first"]))) [.text "\n"] [], .text "\n  ",
    .choice (.given (.path ["method", "is_static"])) [.text "static "] [],
    .value (.path ["method", "name"]), .text "(",
    .each "parameter" (.path ["method", "parameters"])
      [.value (.path ["parameter", "name"]), .text ": ", .value (.path ["parameter", "ty"]),
        commaUnlessLast],
    .text ")", typeMark (.path ["method", "return_type"]), .text " \x7b",
    .each "statement" (.path ["method", "statements"])
      (.text "\n" :: statementPieces ["statement"] "    "),
    .text "\n  \x7d"]

theorem render_method (m : Method) (isFirst isLast : Bool) :
    renderPieces (scope.within "method" m.toJson isFirst isLast) methodPieces =
      .ok ((if isFirst then "" else "\n") ++ methodText m) := by
  generalize hscope : scope.within "method" m.toJson isFirst isLast = inner
  have hfind : ∀ names, inner.find? (.path ("method" :: names)) = Scope.descend m.toJson names := by
    subst hscope
    exact fun names => rfl
  have hgap :
      (Piece.choice (.not (.given (.path ["loop", "first"]))) [.text "\n"] []).render inner =
      .ok (if isFirst then "" else "\n") := by
    subst hscope
    cases isFirst <;> rfl
  have hstatic : (Piece.choice (.given (.path ["method", "is_static"])) [.text "static "] []).render
      inner = .ok (if m.isStatic then "static " else "") := by
    have ht : (Test.given (.path ["method", "is_static"])).holds inner = m.isStatic := by
      rw [Test.holds, hfind]
      rfl
    exact render_choice _ ht (fun _ => rfl) (fun _ => rfl)
  have hname : (Piece.value (.path ["method", "name"])).render inner = .ok m.name :=
    render_value (hfind ["name"])
  have hparameters := render_each "parameter" (fun (p : String × String) _ isLast =>
    p.1 ++ ": " ++ p.2 ++ if isLast then "" else ", ") (hfind ["parameters"])
    fun p => @render_parameter inner p
  have hreturn : (typeMark (.path ["method", "return_type"])).render inner =
      .ok (typeSuffix m.returnType) := render_typeMark (hfind ["return_type"])
  have hstatements := render_each "statement" (fun (s : Statement) _ _ =>
    "\n" ++ statementText "    " s) (hfind ["statements"]) fun s isFirst isLast => by
      rw [renderPieces_text, render_statement s ["statement"] "    " fun names => rfl]
      rfl
  rw [flagged_separator_behind] at hparameters
  rw [flagged_plain] at hstatements
  rw [methodPieces, methodText]
  simp only [renderPieces_text, renderPieces_cons hgap, renderPieces_cons hstatic,
    renderPieces_cons hname, renderPieces_cons hparameters, renderPieces_cons hreturn,
    renderPieces_cons hstatements, renderPieces_nil, map_append_ok]
  simp only [String.append_assoc, String.append_empty]

def scopeOf (d : Declaration) : Scope := [("decl", d.toJson)]

theorem render_defaultName (i : Import) :
    (Piece.choice (.given (.path ["decl", "default_import"]))
      [.value (.path ["decl", "default_import"]),
        .choice (.given (.path ["decl", "named_imports"])) [.text ", "] []] []).render
          (scopeOf (.imports i)) = .ok (defaultText i.names i.defaultName) := by
  have hcomma : (Piece.choice (.given (.path ["decl", "named_imports"])) [.text ", "] []).render
      (scopeOf (.imports i)) = .ok (if i.names.isEmpty then "" else ", ") := by
    have ht : (Test.given (.path ["decl", "named_imports"])).holds (scopeOf (.imports i)) =
        !i.names.isEmpty := given_textArray rfl
    cases hempty : i.names.isEmpty with
    | true => exact render_choice_false (ht.trans (by rw [hempty]; rfl))
    | false => exact render_choice_true (ht.trans (by rw [hempty]; rfl))
  have hfind : (scopeOf (.imports i)).find? (.path ["decl", "default_import"]) =
      some (textOrNull i.defaultName) := rfl
  have ht := given_textOrNull hfind
  cases hname : i.defaultName with
  | none => exact render_choice_false (ht.trans (by rw [hname]; rfl))
  | some name =>
    rw [hname] at hfind ht
    by_cases hempty : name = ""
    · rw [defaultText, if_pos hempty]
      exact render_choice_false (ht.trans (by simp [hempty]))
    · rw [defaultText, if_neg hempty, render_choice_true (ht.trans (by simp [hempty])),
        renderPieces_cons (render_value hfind), renderPieces_cons hcomma, renderPieces_nil]
      simp only [map_append_ok, String.append_empty]

theorem render_import (i : Import) :
    importTemplate.render (scopeOf (.imports i)) = .ok (layout (.imports i)) := by
  have hnames : (Piece.choice (.given (.path ["decl", "named_imports"]))
      [.text "\x7b ", .joined (.path ["decl", "named_imports"]) ", ", .text " \x7d"] []).render
        (scopeOf (.imports i)) = .ok (namesText i.names) :=
    render_bracketed "\x7b " " \x7d" rfl
  have hmodule : (Piece.value (.path ["decl", "module"])).render (scopeOf (.imports i)) =
      .ok i.module := render_value rfl
  rw [Template.render, importTemplate, layout]
  simp only [renderPieces_text, renderPieces_cons (render_defaultName i), renderPieces_cons hnames,
    renderPieces_cons hmodule, renderPieces_nil, map_append_ok]
  simp only [String.append_assoc, String.append_empty]

theorem render_interface (i : Interface) :
    interfaceTemplate.render (scopeOf (.interface i)) = .ok (layout (.interface i)) := by
  have hmark : exportMark.render (scopeOf (.interface i)) = .ok (exportText i.exported) :=
    render_exportMark rfl
  have hname : (Piece.value (.path ["decl", "name"])).render (scopeOf (.interface i)) =
      .ok i.name :=
    render_value rfl
  have hparameters : (Piece.choice (.given (.path ["decl", "type_parameters"]))
      [.text "<", .joined (.path ["decl", "type_parameters"]) ", ", .text ">"] []).render
        (scopeOf (.interface i)) = .ok (if i.typeParameters.isEmpty then "" else
          "<" ++ ", ".intercalate i.typeParameters ++ ">") :=
    render_bracketed "<" ">" rfl
  have hproperties : (Piece.each "property" (.path ["decl", "properties"]) propertyPieces).render
      (scopeOf (.interface i)) = .ok (flagged (fun p _ _ => propertyText p) true i.properties) :=
    render_each "property" (fun p _ _ => propertyText p) rfl
      fun p isFirst isLast => render_property p fun names => rfl
  rw [flagged_plain] at hproperties
  rw [Template.render, interfaceTemplate, layout]
  simp only [renderPieces_text, renderPieces_cons hmark, renderPieces_cons hname,
    renderPieces_cons hparameters, renderPieces_cons hproperties, renderPieces_nil, map_append_ok]
  simp only [String.append_assoc, String.append_empty]

theorem render_note (note : String) (isFirst isLast : Bool) :
    renderPieces (scope.within "note" (.string note) isFirst isLast)
      [.text "\n  // ", .value (.path ["note"])] = .ok ("\n  // " ++ note) := by
  rw [renderPieces_text, renderPieces_cons (render_value rfl), renderPieces_nil]
  simp only [map_append_ok, String.append_empty]

theorem render_shape (a : TypeAlias) :
    (Piece.choice (.either (.given (.path ["decl", "notes"])) (.given (.path ["decl", "members"])))
      [.text "\x7b",
        .each "note" (.path ["decl", "notes"]) [.text "\n  // ", .value (.path ["note"])],
        .each "property" (.path ["decl", "members"]) propertyPieces,
        .text "\n\x7d;"]
      [.text "\x7b\x7d;"]).render (scopeOf (.typeAlias a)) = .ok (shapeText a) := by
  have hnotes : (Piece.each "note" (.path ["decl", "notes"])
      [.text "\n  // ", .value (.path ["note"])]).render (scopeOf (.typeAlias a)) =
        .ok (flagged (fun note _ _ => "\n  // " ++ note) true a.notes) :=
    render_each "note" (fun note _ _ => "\n  // " ++ note) rfl render_note
  have hmembers : (Piece.each "property" (.path ["decl", "members"]) propertyPieces).render
      (scopeOf (.typeAlias a)) = .ok (flagged (fun p _ _ => propertyText p) true a.members) :=
    render_each "property" (fun p _ _ => propertyText p) rfl
      fun p isFirst isLast => render_property p fun names => rfl
  rw [flagged_plain] at hnotes hmembers
  have hn : (Test.given (.path ["decl", "notes"])).holds (scopeOf (.typeAlias a)) =
      !a.notes.isEmpty := given_textArray rfl
  have hm : (Test.given (.path ["decl", "members"])).holds (scopeOf (.typeAlias a)) =
      !a.members.isEmpty := (given_array rfl).trans (by rw [List.isEmpty_map])
  have ht : (Test.either (.given (.path ["decl", "notes"]))
      (.given (.path ["decl", "members"]))).holds (scopeOf (.typeAlias a)) =
        !(a.notes.isEmpty && a.members.isEmpty) := by
    rw [Test.holds, hn, hm, Bool.not_and]
  rw [shapeText]
  cases hempty : a.notes.isEmpty && a.members.isEmpty with
  | true => exact render_choice_false (ht.trans (by rw [hempty]; rfl))
  | false =>
    rw [render_choice_true (ht.trans (by rw [hempty]; rfl)), renderPieces_text,
      renderPieces_cons hnotes, renderPieces_cons hmembers, renderPieces_text, renderPieces_nil]
    simp only [map_append_ok]
    simp [String.append_assoc]

theorem render_typeAlias (a : TypeAlias) :
    typeAliasTemplate.render (scopeOf (.typeAlias a)) = .ok (layout (.typeAlias a)) := by
  have hmark : exportMark.render (scopeOf (.typeAlias a)) = .ok (exportText a.exported) :=
    render_exportMark rfl
  have hname : (Piece.value (.path ["decl", "name"])).render (scopeOf (.typeAlias a)) =
      .ok a.name :=
    render_value rfl
  rw [Template.render, typeAliasTemplate, layout]
  simp only [renderPieces_text, renderPieces_cons hmark, renderPieces_cons hname,
    renderPieces_cons (render_shape a), renderPieces_nil, map_append_ok]
  simp only [String.append_assoc, String.append_empty]

theorem render_variable (v : Variable) :
    variableTemplate.render (scopeOf (.variable v)) = .ok (layout (.variable v)) := by
  have hmark : exportMark.render (scopeOf (.variable v)) = .ok (exportText v.exported) :=
    render_exportMark rfl
  have hstatement :
      renderPieces (scopeOf (.variable v)) (statementPieces ["decl", "statement"] "") =
      .ok (statementText "" v.statement) :=
    render_statement v.statement ["decl", "statement"] "" fun names => rfl
  rw [Template.render, variableTemplate, List.cons_append, renderPieces_cons hmark,
    renderPieces_append hstatement, renderPieces_text, renderPieces_nil, layout]
  simp only [map_append_ok]
  simp only [String.append_assoc, String.append_empty]

theorem render_class (c : ClassDeclaration) :
    classTemplate.render (scopeOf (.classDecl c)) = .ok (layout (.classDecl c)) := by
  have hmark : exportMark.render (scopeOf (.classDecl c)) = .ok (exportText c.exported) :=
    render_exportMark rfl
  have hname : (Piece.value (.path ["decl", "name"])).render (scopeOf (.classDecl c)) =
      .ok c.name :=
    render_value rfl
  have hmethods : (Piece.each "method" (.path ["decl", "methods"]) methodPieces).render
      (scopeOf (.classDecl c)) =
        .ok (flagged (fun m isFirst _ => (if isFirst then "" else "\n") ++ methodText m) true
          c.methods) :=
    render_each "method" (fun m isFirst _ => (if isFirst then "" else "\n") ++ methodText m) rfl
      render_method
  rw [flagged_separator_before] at hmethods
  rw [Template.render, classTemplate, layout, ← methodPieces]
  simp only [renderPieces_text, renderPieces_cons hmark, renderPieces_cons hname,
    renderPieces_cons hmethods, renderPieces_nil, map_append_ok]
  simp only [String.append_assoc, String.append_empty]

theorem renderDeclaration_eq (d : Declaration) : renderer.renderDeclaration d = .ok (layout d) := by
  have hfound : ∀ template, List.lookup (d.kind ++ "." ++ renderer.extension) renderer.templates =
      some template → template.render (scopeOf d) = .ok (layout d) →
        renderer.renderDeclaration d = .ok (layout d) := by
    intro template ht hr
    rw [Renderer.renderDeclaration, ht]
    change (template.render (scopeOf d)).mapError _ = _
    rw [hr]
    rfl
  match d with
  | .imports i => exact hfound importTemplate rfl (render_import i)
  | .interface i => exact hfound interfaceTemplate rfl (render_interface i)
  | .typeAlias a => exact hfound typeAliasTemplate rfl (render_typeAlias a)
  | .variable v => exact hfound variableTemplate rfl (render_variable v)
  | .classDecl c => exact hfound classTemplate rfl (render_class c)

def text (a : Artifact) : String := layOut layout none a.declarations ++ "\n"

/-- No artifact fails to render. -/
theorem render_eq (a : Artifact) : renderer.render a = .ok (text a) :=
  render_of_renderDeclaration renderDeclaration_eq a

end Scaffold.TypeScript
