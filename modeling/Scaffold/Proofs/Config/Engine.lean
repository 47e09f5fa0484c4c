import Scaffold.Backend
import Scaffold.Config.Load
import Scaffold.Proofs.Except
import Scaffold.Proofs.Schema.Acceptance

/-! Languages and libraries. The schema goes by the name of a language as it is written, and a
backend is found by other spellings too: a library is checked against the language only under its
name in lower case. -/
namespace Scaffold.Config

open Schema

variable {value : Json} {fields : List (String × Json)} {language lib : String}

/-- The libraries that a project in a language may build on. -/
def libraries : Language → List String
  | .typeScript => ["express", "fastify"]
  | .python => ["flask"]

/-- The language that a document asks for, as it is written. -/
def languageOf? (value : Json) : Option String :=
  ((value.field? "compilation").bind (·.field? "language")).bind (·.text?)

def engineOf? (value : Json) : Option String :=
  (((value.field? "compilation").bind (·.field? "engine")).bind (·.field? "lib")).bind (·.text?)

/-- An object with the value of a field changed, if it has the field. -/
def adjust (key : String) (change : Json → Json) : Json → Json
  | .object fields =>
    match fields.lookup key with
    | some found => .object (Entries.put key (change found) fields)
    | none => .object fields
  | value => value

def withEngine (lib : String) : Json → Json :=
  adjust "compilation" (adjust "engine" (adjust "lib" fun _ => .string lib))

theorem adjust_object {key : String} {found : Json} (h : fields.lookup key = some found)
    (change : Json → Json) :
    adjust key change (.object fields) = .object (Entries.put key (change found) fields) := by
  simp [adjust, h]

/-- What stands in a `compilation` section: the language, the object with the library, and the
directories. -/
structure Section (fields engine : List (String × Json)) (language lib : String)
    (directories : Json) : Prop where
  get_language : fields.lookup "language" = some (.string language)
  get_engine : fields.lookup "engine" = some (.object engine)
  get_lib : engine.lookup "lib" = some (.string lib)
  get_directories : fields.lookup "directories" = some directories

theorem Section.put {engine : List (String × Json)} {directories : Json}
    (h : Section fields engine language lib directories) (other : String) :
    Section (Entries.put "engine" (.object (Entries.put "lib" (.string other) engine)) fields)
      (Entries.put "lib" (.string other) engine) language other directories := by
  constructor <;> simp [Entries.lookup_put, h.get_language, h.get_directories]

theorem accepts_engineRule {engine : List (String × Json)} {directories : Json}
    (h : Section fields engine language lib directories) (name : String) (allowed : List String) :
    (Constraints.engineRule name allowed).accepts (.object fields) = true ↔
      (language = name → lib ∈ allowed) := by
  have htest : (Schema.all [.required ["language"],
      .properties [("language", .constant (.string name))]]).accepts (.object fields) = true ↔
        language = name := by
    simp [-List.lookup_isSome_iff, accepts_all, accepts_required, accepts_properties,
      accepts_constant, h.get_language, Json.alike_string]
  have hoption : (Schema.options (allowed.map .string)).accepts (.string lib) = true ↔
      lib ∈ allowed := by
    simp [accepts_options, Json.alike_of_string]
  have hlib : (Schema.properties [("lib", .options (allowed.map .string))]).accepts
      (.object engine) = true ↔ lib ∈ allowed := by
    simp [accepts_properties, h.get_lib, hoption]
  have hconsequence : (Schema.properties [("engine", .properties [("lib",
      .options (allowed.map .string))])]).accepts (.object fields) = true ↔ lib ∈ allowed := by
    have hengine := @accepts_properties fields
    simp [hengine, h.get_engine, hlib]
  rw [Constraints.engineRule, accepts_whenever, Bool.or_eq_true, Bool.not_eq_true', hconsequence,
    ← Bool.not_eq_true, htest, Decidable.imp_iff_not_or]

theorem exists_section (h : Constraints.compilation.accepts value = true) :
    ∃ fields engine language lib directories, value = .object fields ∧
      Section fields engine language lib directories := by
  obtain ⟨fields, rfl, hmembers⟩ :=
    (accepts_record _).mp ((accepts_all _).mp h _ List.mem_cons_self)
  simp only [List.forall_mem_cons] at hmembers
  obtain ⟨⟨languageValue, hl, hlanguage⟩, ⟨engineValue, he, hengine⟩, ⟨directories, hd, -⟩, -⟩ :=
    hmembers
  obtain ⟨language, rfl⟩ := accepts_types_string.mp
    ((accepts_all _).mp hlanguage _ List.mem_cons_self)
  obtain ⟨engine, rfl, hlib⟩ := (accepts_record _).mp hengine
  obtain ⟨libValue, hlib, htext⟩ := hlib _ (List.mem_singleton_self _)
  obtain ⟨lib, rfl⟩ := accepts_types_string.mp htext
  exact ⟨fields, engine, language, lib, directories, rfl, hl, he, hlib, hd⟩

/-- A `compilation` section is in order when its language and its directories are, and when its
library goes with its language, if that is the name of one. -/
theorem accepts_section {engine : List (String × Json)} {directories : Json}
    (h : Section fields engine language lib directories) :
    Constraints.compilation.accepts (.object fields) = true ↔
      (Constraints.nonEmptyText.accepts (.string language) = true ∧
        (Constraints.record [("routing", Constraints.nonEmptyText),
          ("controllers", Constraints.nonEmptyText),
          ("useCases", Constraints.nonEmptyText)]).accepts directories = true) ∧
      ∀ l : Language, language = l.name → lib ∈ libraries l := by
  have hrules : (∀ l : Language, language = l.name → lib ∈ libraries l) ↔
      (language = "typescript" → lib ∈ ["express", "fastify"]) ∧
        (language = "python" → lib ∈ ["flask"]) :=
    ⟨fun h => ⟨h .typeScript, h .python⟩, fun h l => by
      cases l with
      | typeScript => exact h.1
      | python => exact h.2⟩
  have hengine : (Constraints.record [("lib", Constraints.text)]).accepts (.object engine) = true :=
    (accepts_record _).mpr ⟨engine, rfl, List.forall_mem_singleton.mpr
      ⟨_, h.get_lib, accepts_types_string.mpr ⟨lib, rfl⟩⟩⟩
  rw [hrules, ← accepts_engineRule h, ← accepts_engineRule h, Constraints.compilation]
  simp only [accepts_all _, List.forall_mem_cons]
  rw [accepts_record]
  simp [h.get_language, h.get_engine, h.get_directories, hengine]

/-- Another section goes with the rest of a document when it is in order itself. -/
theorem accepts_put_section (h : Constraints.schema.accepts (.object fields) = true) (new : Json) :
    Constraints.schema.accepts (.object (Entries.put "compilation" new fields)) = true ↔
      Constraints.compilation.accepts new = true := by
  rw [Constraints.schema, accepts_record] at h ⊢
  obtain ⟨_, hf, h⟩ := h
  obtain rfl := Json.object.inj hf
  simp only [List.forall_mem_cons] at h
  simp [Entries.lookup_put, h.1, h.2.2]

theorem Member.three_object {α β γ : Type} {record : String} {a : Member α} {b : Member β}
    {c : Member γ} {x : α} {y : β} {z : γ}
    (h : Member.three record a b c (.object fields) = .ok (x, y, z)) :
    a.find fields = .ok x ∧ b.find fields = .ok y ∧ c.find fields = .ok z := by
  rw [Member.three] at h
  split at h
  · cases h
  · obtain ⟨x', hx, h⟩ := Except.exists_of_bind_eq_ok h
    obtain ⟨y', hy, h⟩ := Except.exists_of_bind_eq_ok h
    obtain ⟨z', hz, h⟩ := Except.exists_of_bind_eq_ok h
    cases h
    exact ⟨hx, hy, hz⟩

theorem Member.find_eq {α : Type} {m : Member α} {found : Json}
    (h : fields.lookup m.name = some found) : m.find fields = m.decode found := by
  rw [Member.find, h]

/-- The language and the library of a decoded section are those that stand in it. -/
theorem decodeCompilation_section {engine : List (String × Json)} {directories : Json}
    {compilation : Compilation} (h : Section fields engine language lib directories)
    (hd : decodeCompilation (.object fields) = .ok compilation) :
    compilation.language = language ∧ compilation.engine = lib := by
  obtain ⟨⟨x, y, z⟩, hthree, hd⟩ := Except.exists_of_bind_eq_ok hd
  obtain ⟨hx, hy, -⟩ := Member.three_object hthree
  rw [Member.find_eq h.get_language] at hx
  rw [Member.find_eq h.get_engine] at hy
  change Member.find _ engine = _ at hy
  rw [Member.find_eq h.get_lib] at hy
  cases hx
  cases hy
  cases hd
  exact ⟨rfl, rfl⟩

theorem ofName?_name (l : Language) : Language.ofName? l.name = some l := by
  cases l <;> with_unfolding_all rfl

theorem ofName?_fileExtension (l : Language) : Language.ofName? l.fileExtension = some l := by
  cases l <;> with_unfolding_all rfl

/-- In a document that satisfies the schema, the library is one that the language of the backend
allows when the language is written as its name. In every other spelling that leads to the backend
any library at all goes through. -/
theorem engine_of_accepted (h : Constraints.schema.accepts value = true) :
    ∃ language lib, languageOf? value = some language ∧ engineOf? value = some lib ∧
      (∀ config, decode value = .ok config →
        config.compilation.language = language ∧ config.compilation.engine = lib) ∧
      ∀ l, Language.ofName? language = some l → (language = l.name → lib ∈ libraries l) ∧
        ∀ other, Constraints.schema.accepts (withEngine other value) = true ↔
          (language = l.name → other ∈ libraries l) := by
  obtain ⟨fields, rfl, hmembers⟩ := (accepts_record _).mp h
  obtain ⟨found, hc, hcompilation⟩ := hmembers ("compilation", Constraints.compilation) (by simp)
  obtain ⟨members, engine, language, lib, directories, rfl, hsection⟩ := exists_section hcompilation
  obtain ⟨hrest, hallowed⟩ := (accepts_section hsection).mp hcompilation
  refine ⟨language, lib, ?_, ?_, fun config hd => ?_, fun l hl => ⟨hallowed l, fun other => ?_⟩⟩
  · simp [languageOf?, Json.field?, Json.fields?, Json.text?, hc, hsection.get_language]
  · simp [engineOf?, Json.field?, Json.fields?, Json.text?, hc, hsection.get_engine,
      hsection.get_lib]
  · obtain ⟨⟨x, y, z⟩, hthree, hd⟩ := Except.exists_of_bind_eq_ok hd
    obtain ⟨-, hy, -⟩ := Member.three_object hthree
    rw [Member.find_eq hc] at hy
    cases hd
    exact decodeCompilation_section hsection hy
  · rw [withEngine, adjust_object hc, adjust_object hsection.get_engine,
      adjust_object hsection.get_lib, accepts_put_section h, accepts_section (hsection.put other),
      and_iff_right hrest]
    refine ⟨fun hother => hother l, fun hother l' hl' => ?_⟩
    rw [hl', ofName?_name] at hl
    obtain rfl := Option.some.inj hl
    exact hother hl'

/-- A configuration whose language has its short name. -/
def shortNameText : String :=
  "version: 1.0.0\ncompilation:\n  language: ts\n  engine: \x7blib: flask\x7d\n" ++
    "  directories: \x7brouting: r, controllers: c, useCases: u\x7d\nservices: \x7b\x7d\n"

/-- With the short name of its language, a configuration goes through with any library. -/
theorem ofText_shortNameText :
    ofText Constraints.schema shortNameText =
      .ok ⟨"1.0.0", ⟨"ts", "flask", ⟨⟨"r"⟩, ⟨"c"⟩, ⟨"u"⟩⟩⟩, []⟩ ∧
    Language.ofName? "ts" = some .typeScript ∧ "flask" ∉ libraries .typeScript := by
  decide +kernel

def shortNameValue : Json :=
  .object [("version", .string "1.0.0"), ("compilation", .object [("language", .string "ts"),
      ("engine", .object [("lib", .string "flask")]),
      ("directories", .object [("routing", .string "r"), ("controllers", .string "c"),
        ("useCases", .string "u")])]),
    ("services", .object [])]

theorem engine_shortNameValue : Constraints.schema.accepts shortNameValue = true ∧
    ∃ language lib, languageOf? shortNameValue = some language ∧
      engineOf? shortNameValue = some lib ∧ language = "ts" ∧ lib = "flask" ∧
      Constraints.schema.accepts (withEngine "koa" shortNameValue) = true := by
  have haccepts : Constraints.schema.accepts shortNameValue = true := by decide +kernel
  obtain ⟨language, lib, hl, he, -, hother⟩ := engine_of_accepted haccepts
  obtain rfl : "ts" = language := Option.some.inj hl
  obtain rfl : "flask" = lib := Option.some.inj he
  have hshort := hother .typeScript (ofName?_fileExtension .typeScript)
  refine ⟨haccepts, _, _, hl, he, rfl, rfl, (hshort.2 "koa").mpr ?_⟩
  intro hname
  exact absurd hname (by decide)

end Scaffold.Config
