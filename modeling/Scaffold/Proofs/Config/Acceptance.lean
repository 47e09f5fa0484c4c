import Mathlib.Data.Char
import Mathlib.Data.List.Forall2
import Scaffold.Config.Load
import Scaffold.Proofs.Config.Engine
import Scaffold.Proofs.Except
import Scaffold.Proofs.Pattern.Spelling
import Scaffold.Proofs.Schema.Acceptance
import Scaffold.Proofs.Yaml.Reading

/-! Which documents are configurations. `Writes` says without the schema what stands in a document
that writes a configuration; the schema accepts just these documents, and all of them decode. -/
namespace Scaffold.Config

open Schema

variable {value : Json} {fields : List (String × Json)} {text : String}

/-- One or more decimal digits. -/
def IsNumeral (run : List Char) : Prop := run ≠ [] ∧ ∀ c ∈ run, c.isDigit = true

/-- A text begins with three numbers between dots. -/
def BeginsWithVersion (text : String) : Prop :=
  ∃ major minor patch rest, IsNumeral major ∧ IsNumeral minor ∧ IsNumeral patch ∧
    text.toList = major ++ '.' :: (minor ++ '.' :: (patch ++ rest))

/-- A name of letters, underscores and dashes. -/
def IsServiceName (name : String) : Prop :=
  name ≠ "" ∧ ∀ c ∈ name.toList, c.isAlpha = true ∨ c = '_' ∨ c = '-'

/-- A member of an object is a text with at least one character. -/
def HasText (value : Json) (key text : String) : Prop :=
  value.field? key = some (.string text) ∧ text ≠ ""

/-- A document writes the directories of the sources. -/
structure WritesDirectories (value : Json) (directories : Directories) : Prop where
  routing : HasText value "routing" directories.routing.text
  controllers : HasText value "controllers" directories.controllers.text
  useCases : HasText value "useCases" directories.useCases.text

/-- A document writes a `compilation` section. -/
structure WritesCompilation (value : Json) (compilation : Compilation) : Prop where
  language : HasText value "language" compilation.language
  engine : ∃ engine, value.field? "engine" = some engine ∧
    engine.field? "lib" = some (.string compilation.engine)
  directories : ∃ directories, value.field? "directories" = some directories ∧
    WritesDirectories directories compilation.directories
  typescript : compilation.language = "typescript" → compilation.engine ∈ ["express", "fastify"]
  python : compilation.language = "python" → compilation.engine = "flask"

/-- A field writes a service. -/
structure WritesService (field : String × Json) (service : String × Path) : Prop where
  name : service.1 = field.1
  isName : IsServiceName field.1
  document : HasText field.2 "specPath" service.2.text

/-- A document writes a configuration. -/
structure Writes (value : Json) (config : Config) : Prop where
  version : value.field? "version" = some (.string config.version)
  isVersion : BeginsWithVersion config.version
  compilation : ∃ compilation, value.field? "compilation" = some compilation ∧
    WritesCompilation compilation config.compilation
  services : ∃ fields, value.field? "services" = some (.object fields) ∧
    List.Forall₂ WritesService fields config.services

theorem holds_digit (c : Char) : (CharSet.ranges [('0', '9')]).holds c = c.isDigit := by
  simp [CharSet.holds, Char.isDigit, Char.le_def]

theorem between_self_iff {c d : Char} : (d ≤ c ∧ c ≤ d) ↔ c = d :=
  le_antisymm_iff.symm.trans eq_comm

theorem isAlpha_iff (c : Char) :
    c.isAlpha = true ↔ ('a' ≤ c ∧ c ≤ 'z') ∨ 'A' ≤ c ∧ c ≤ 'Z' := by
  have hupper : c.isUpper = true ↔ 'A' ≤ c ∧ c ≤ 'Z' := decide_eq_true_iff
  have hlower : c.isLower = true ↔ 'a' ≤ c ∧ c ≤ 'z' :=
    Bool.and_eq_true_iff.trans (and_congr decide_eq_true_iff decide_eq_true_iff)
  exact (Bool.or_eq_true_iff.trans (or_congr hupper hlower)).trans or_comm

theorem holds_letter (c : Char) :
    (CharSet.ranges [('a', 'z'), ('A', 'Z'), ('_', '_'), ('-', '-')]).holds c = true ↔
      c.isAlpha = true ∨ c = '_' ∨ c = '-' := by
  simp only [CharSet.holds, List.any_cons, List.any_nil, Bool.or_false, Bool.or_eq_true,
    Bool.and_eq_true, decide_eq_true_eq, between_self_iff, isAlpha_iff, or_assoc]

theorem spells_digitRun : Constraints.digitRun.Spells IsNumeral :=
  (Pattern.spells_many_one _).of_iff fun run => by simp only [holds_digit, IsNumeral]

theorem spells_dot : Constraints.dot.Spells (· = ['.']) := by
  refine (Pattern.spells_one _).of_iff fun run => ?_
  have honly : ∀ c : Char, (CharSet.folded false (.only '.')).holds c = true ↔ c = '.' := by
    intro c
    change (CharSet.ranges [('.', '.')]).holds c = true ↔ _
    simp only [CharSet.holds, List.any_cons, List.any_nil, Bool.or_false, Bool.and_eq_true,
      decide_eq_true_eq, between_self_iff]
  simp [honly]

theorem accepts_version : Constraints.version.accepts (.string text) = true ↔
    BeginsWithVersion text := by
  have hspells := Pattern.spells_seq spells_digitRun (Pattern.spells_seq spells_dot
    (Pattern.spells_seq spells_digitRun (Pattern.spells_seq spells_dot spells_digitRun)))
  rw [Constraints.version, accepts_pattern]
  refine hspells.matchesText_start.trans ?_
  constructor
  · rintro ⟨_, rest, ⟨major, _, hmajor, ⟨_, _, rfl, ⟨minor, _, hminor, ⟨_, patch, rfl, hpatch, rfl⟩,
      rfl⟩, rfl⟩, rfl⟩, ht⟩
    exact ⟨major, minor, patch, rest, hmajor, hminor, hpatch, by simpa using ht⟩
  · rintro ⟨major, minor, patch, rest, hmajor, hminor, hpatch, ht⟩
    refine ⟨_, rest, ⟨major, _, hmajor, ⟨_, _, rfl, ⟨minor, _, hminor, ⟨_, patch, rfl, hpatch, rfl⟩,
      rfl⟩, rfl⟩, rfl⟩, by simpa using ht⟩

theorem accepts_serviceName : Constraints.serviceName.accepts (.string text) = true ↔
    IsServiceName text := by
  rw [Constraints.serviceName, accepts_pattern]
  refine (Pattern.spells_many_one _).matchesText_whole.trans ?_
  simp only [holds_letter, IsServiceName, ne_eq, String.toList_eq_nil_iff]

theorem accepts_nonEmptyText : Constraints.nonEmptyText.accepts value = true ↔
    ∃ text, value = .string text ∧ text ≠ "" := by
  have hlength : ∀ text : String, 1 ≤ text.length ↔ text ≠ "" := by
    intro text
    rw [Nat.one_le_iff_ne_zero, ne_eq, ne_eq, ← String.length_toList, List.length_eq_zero_iff,
      String.toList_eq_nil_iff]
  rw [Constraints.nonEmptyText, accepts_all]
  simp only [List.forall_mem_cons, accepts_types_string]
  constructor
  · rintro ⟨⟨text, rfl⟩, hmin, -⟩
    exact ⟨text, rfl, (hlength text).mp ((accepts_minLength 1 text).mp hmin)⟩
  · rintro ⟨text, rfl, hne⟩
    exact ⟨⟨text, rfl⟩, (accepts_minLength 1 text).mpr ((hlength text).mpr hne),
      List.forall_mem_nil _⟩

theorem exists_hasText_iff {key : String} :
    (∃ text, HasText (.object fields) key text) ↔ ∃ found, fields.lookup key = some found ∧
      Constraints.nonEmptyText.accepts found = true := by
  simp only [accepts_nonEmptyText, HasText]
  constructor
  · rintro ⟨text, hf, hne⟩
    exact ⟨_, hf, text, rfl, hne⟩
  · rintro ⟨_, hf, text, rfl, hne⟩
    exact ⟨text, hf, hne⟩

theorem exists_object_of_field? {key : String} {found : Json} (h : value.field? key = some found) :
    ∃ fields, value = .object fields ∧ fields.lookup key = some found := by
  cases value with
  | object fields => exact ⟨fields, rfl, h⟩
  | _ => cases h

theorem accepts_directories :
    (Constraints.record [("routing", Constraints.nonEmptyText),
      ("controllers", Constraints.nonEmptyText),
      ("useCases", Constraints.nonEmptyText)]).accepts value = true ↔
        ∃ directories, WritesDirectories value directories := by
  rw [accepts_record]
  simp only [List.forall_mem_cons, ← exists_hasText_iff]
  constructor
  · rintro ⟨fields, rfl, ⟨routing, hr⟩, ⟨controllers, hc⟩, ⟨useCases, hu⟩, -⟩
    exact ⟨⟨⟨routing⟩, ⟨controllers⟩, ⟨useCases⟩⟩, hr, hc, hu⟩
  · rintro ⟨directories, hr, hc, hu⟩
    obtain ⟨fields, rfl, -⟩ := exists_object_of_field? hr.1
    exact ⟨fields, rfl, ⟨_, hr⟩, ⟨_, hc⟩, ⟨_, hu⟩, List.forall_mem_nil _⟩

theorem forall_libraries_iff {language lib : String} :
    (∀ l : Language, language = l.name → lib ∈ libraries l) ↔
      (language = "typescript" → lib ∈ ["express", "fastify"]) ∧
        (language = "python" → lib = "flask") := by
  constructor
  · intro h
    exact ⟨h .typeScript, fun hl => List.mem_singleton.mp (h .python hl)⟩
  · rintro ⟨ht, hp⟩ l hl
    cases l with
    | typeScript => exact ht hl
    | python => exact List.mem_singleton.mpr (hp hl)

theorem accepts_compilation : Constraints.compilation.accepts value = true ↔
    ∃ compilation, WritesCompilation value compilation := by
  constructor
  · intro h
    obtain ⟨fields, engine, language, lib, directories, rfl, hs⟩ := exists_section h
    obtain ⟨⟨hlanguage, hdirectories⟩, hrules⟩ := (accepts_section hs).mp h
    obtain ⟨_, he, hne⟩ := accepts_nonEmptyText.mp hlanguage
    obtain rfl := Json.string.inj he
    obtain ⟨written, hw⟩ := accepts_directories.mp hdirectories
    obtain ⟨ht, hp⟩ := forall_libraries_iff.mp hrules
    exact ⟨⟨language, lib, written⟩, ⟨hs.get_language, hne⟩, ⟨_, hs.get_engine, hs.get_lib⟩,
      ⟨_, hs.get_directories, hw⟩, ht, hp⟩
  · rintro ⟨compilation, h⟩
    obtain ⟨fields, rfl, hlanguage⟩ := exists_object_of_field? h.language.1
    obtain ⟨engineValue, hengine, hlib⟩ := h.engine
    obtain ⟨engine, rfl, hlib⟩ := exists_object_of_field? hlib
    obtain ⟨directories, hdirectories, hw⟩ := h.directories
    have hs : Section fields engine compilation.language compilation.engine directories :=
      ⟨hlanguage, hengine, hlib, hdirectories⟩
    exact (accepts_section hs).mpr ⟨⟨accepts_nonEmptyText.mpr ⟨_, rfl, h.language.2⟩,
      accepts_directories.mpr ⟨_, hw⟩⟩, forall_libraries_iff.mpr ⟨h.typescript, h.python⟩⟩

theorem accepts_service {field : String × Json} :
    ((Constraints.record [("specPath", Constraints.nonEmptyText)]).accepts field.2 = true ∧
      Constraints.serviceName.accepts (.string field.1) = true) ↔
        ∃ service, WritesService field service := by
  rw [accepts_record, accepts_serviceName]
  simp only [List.forall_mem_cons, ← exists_hasText_iff]
  constructor
  · rintro ⟨⟨fields, hf, ⟨document, hd⟩, -⟩, hname⟩
    exact ⟨(field.1, ⟨document⟩), rfl, hname, by rwa [hf]⟩
  · rintro ⟨service, -, hname, hd⟩
    obtain ⟨fields, hf, -⟩ := exists_object_of_field? hd.1
    rw [hf] at hd
    exact ⟨⟨fields, hf, ⟨_, hd⟩, List.forall_mem_nil _⟩, hname⟩

theorem exists_forall₂_iff {α β : Type} {related : α → β → Prop} {xs : List α} :
    (∃ ys, List.Forall₂ related xs ys) ↔ ∀ x ∈ xs, ∃ y, related x y := by
  induction xs with
  | nil => simp
  | cons x xs ih =>
    rw [List.forall_mem_cons, ← ih]
    simp only [List.forall₂_cons_left_iff]
    constructor
    · rintro ⟨_, y, ys, hy, hys, rfl⟩
      exact ⟨⟨y, hy⟩, ys, hys⟩
    · rintro ⟨⟨y, hy⟩, ys, hys⟩
      exact ⟨_, y, ys, hy, hys, rfl⟩

theorem accepts_services : Constraints.services.accepts value = true ↔
    ∃ fields, value = .object fields ∧ ∃ services, List.Forall₂ WritesService fields services := by
  rw [Constraints.services, accepts_all]
  simp only [List.forall_mem_cons, accepts_types_object, exists_forall₂_iff, ← accepts_service]
  constructor
  · rintro ⟨⟨fields, rfl⟩, hrecord, hnames, -⟩
    exact ⟨fields, rfl, fun field hf => ⟨(accepts_otherProperties _).mp hrecord field hf,
      (accepts_propertyNames _).mp hnames field hf⟩⟩
  · rintro ⟨fields, rfl, h⟩
    exact ⟨⟨fields, rfl⟩, (accepts_otherProperties _).mpr fun field hf => (h field hf).1,
      (accepts_propertyNames _).mpr fun field hf => (h field hf).2, List.forall_mem_nil _⟩

/-- The schema accepts the documents that write a configuration. -/
theorem accepts_iff_exists_writes : Constraints.schema.accepts value = true ↔
    ∃ config, Writes value config := by
  have hversion : ∀ found : Json, (Schema.all [Constraints.text, Constraints.version]).accepts
      found = true ↔ ∃ text, found = .string text ∧ BeginsWithVersion text := by
    intro found
    rw [accepts_all]
    simp only [List.forall_mem_cons, Constraints.text, accepts_types_string]
    constructor
    · rintro ⟨⟨text, rfl⟩, hv, -⟩
      exact ⟨text, rfl, accepts_version.mp hv⟩
    · rintro ⟨text, rfl, hv⟩
      exact ⟨⟨text, rfl⟩, accepts_version.mpr hv, List.forall_mem_nil _⟩
  rw [Constraints.schema, accepts_record]
  simp only [List.forall_mem_cons, hversion, accepts_compilation, accepts_services]
  constructor
  · rintro ⟨fields, rfl, ⟨_, hv, version, rfl, hversion⟩, ⟨_, hc, compilation, hcompilation⟩,
      ⟨_, hs, entries, rfl, services, hservices⟩, -⟩
    exact ⟨⟨version, compilation, services⟩, hv, hversion, ⟨_, hc, hcompilation⟩,
      ⟨_, hs, hservices⟩⟩
  · rintro ⟨config, hv, hversion, ⟨_, hc, hcompilation⟩, ⟨_, hs, hservices⟩⟩
    obtain ⟨fields, rfl, -⟩ := exists_object_of_field? hv
    exact ⟨fields, rfl, ⟨_, hv, _, rfl, hversion⟩, ⟨_, hc, _, hcompilation⟩,
      ⟨_, hs, _, rfl, _, hservices⟩, List.forall_mem_nil _⟩

section Decoding

variable {α β γ : Type} {a : Member α} {b : Member β} {c : Member γ} {x : α} {y : β} {z : γ}

theorem Member.find_of_field? (m : Member α) {found : Json}
    (h : (Json.object fields).field? m.name = some found) (hd : m.decode found = .ok x) :
    m.find fields = .ok x :=
  (Member.find_eq h).trans hd

theorem Member.fault?_eq_none {field : String × Json} (hk : (fields.map Prod.fst).Nodup)
    (hf : field ∈ fields) (h : a.find fields = .ok x) : a.fault? field = none := by
  unfold Member.fault?
  split
  · next hname =>
    have hget : fields.lookup a.name = some field.2 := by
      rw [← hname]
      exact Entries.lookup_of_mem hk hf
    rw [← Member.find_eq hget, h]
  · rfl

theorem Member.three_eq_ok (record : String) (hk : (fields.map Prod.fst).Nodup)
    (ha : a.find fields = .ok x) (hb : b.find fields = .ok y) (hc : c.find fields = .ok z) :
    Member.three record a b c (.object fields) = .ok (x, y, z) := by
  have hfaults : (fields.findSome? fun field =>
      (a.fault? field).or ((b.fault? field).or (c.fault? field))) = none := by
    rw [List.findSome?_eq_none_iff]
    intro field hf
    rw [Member.fault?_eq_none hk hf ha, Member.fault?_eq_none hk hf hb,
      Member.fault?_eq_none hk hf hc]
    rfl
  rw [Member.three, hfaults, ha, hb, hc]
  rfl

end Decoding

theorem find_path {key : String} (h : HasText (.object fields) key text) :
    Member.find ⟨key, decodePath⟩ fields = .ok ⟨text⟩ :=
  Member.find_of_field? _ h.1 rfl

theorem decodeDirectories_of_writes {directories : Directories}
    (hk : value.keysDistinct = true) (h : WritesDirectories value directories) :
    decodeDirectories value = .ok directories := by
  obtain ⟨fields, rfl, -⟩ := exists_object_of_field? h.routing.1
  have hthree := Member.three_eq_ok "Directories" ((Json.keysDistinct_object _).mp hk).1
    (find_path h.routing) (find_path h.controllers) (find_path h.useCases)
  rw [decodeDirectories, hthree]
  rfl

theorem keysDistinct_of_get? {key : String} {found : Json}
    (hk : (Json.object fields).keysDistinct = true) (h : fields.lookup key = some found) :
    found.keysDistinct = true :=
  ((Json.keysDistinct_object fields).mp hk).2 _ (Entries.mem_of_lookup h)

theorem decodeCompilation_of_writes {compilation : Compilation}
    (hk : value.keysDistinct = true) (h : WritesCompilation value compilation) :
    decodeCompilation value = .ok compilation := by
  obtain ⟨fields, rfl, -⟩ := exists_object_of_field? h.language.1
  obtain ⟨engineValue, hengine, hlib⟩ := h.engine
  obtain ⟨engine, rfl, -⟩ := exists_object_of_field? hlib
  obtain ⟨directories, hdirectories, hw⟩ := h.directories
  have hlanguage : Member.find ⟨"language", decodeText⟩ fields = .ok compilation.language :=
    Member.find_of_field? _ h.language.1 rfl
  have hlib : Member.one "Engine" ⟨"lib", decodeText⟩ (.object engine) = .ok compilation.engine :=
    Member.find_of_field? _ hlib rfl
  have hengine := Member.find_of_field? ⟨"engine", Member.one "Engine" ⟨"lib", decodeText⟩⟩
    hengine hlib
  have hdirectories := Member.find_of_field? ⟨"directories", decodeDirectories⟩ hdirectories
    (decodeDirectories_of_writes (keysDistinct_of_get? hk hdirectories) hw)
  have hthree := Member.three_eq_ok "Compilation" ((Json.keysDistinct_object _).mp hk).1
    hlanguage hengine hdirectories
  rw [decodeCompilation, hthree]
  rfl

theorem decodeServices_of_writes {services : List (String × Path)}
    (h : List.Forall₂ WritesService fields services) :
    decodeServices (.object fields) = .ok services := by
  rw [decodeServices]
  induction h with
  | nil => rfl
  | @cons field service fields services hfield _ ih =>
    obtain ⟨name, value⟩ := field
    obtain ⟨name', document⟩ := service
    obtain rfl : name' = name := hfield.name
    obtain ⟨members, rfl, -⟩ := exists_object_of_field? hfield.document.1
    have hone : Member.one "ServiceDescriptor" ⟨"specPath", decodePath⟩ (.object members) =
        .ok document := find_path hfield.document
    rw [List.mapM_cons, ih]
    dsimp only
    rw [hone]
    rfl

/-- A document that writes a configuration decodes to it. -/
theorem decode_of_writes {config : Config} (hk : value.keysDistinct = true)
    (h : Writes value config) : decode value = .ok config := by
  obtain ⟨fields, rfl, -⟩ := exists_object_of_field? h.version
  obtain ⟨compilationValue, hc, hcompilation⟩ := h.compilation
  obtain ⟨servicesValue, hs, hservices⟩ := h.services
  have hversion : Member.find ⟨"version", decodeText⟩ fields = .ok config.version :=
    Member.find_of_field? _ h.version rfl
  have hcompilation := Member.find_of_field? ⟨"compilation", decodeCompilation⟩ hc
    (decodeCompilation_of_writes (keysDistinct_of_get? hk hc) hcompilation)
  have hservices := Member.find_of_field? ⟨"services", decodeServices⟩ hs
    (decodeServices_of_writes hservices)
  have hthree := Member.three_eq_ok "ProjectConfig" ((Json.keysDistinct_object _).mp hk).1
    hversion hcompilation hservices
  rw [decode, hthree]
  rfl

theorem ofJson_eq_ok_iff {schema : Schema} {config : Config} :
    ofJson schema value = .ok config ↔ schema.accepts value = true ∧ decode value = .ok config := by
  rw [ofJson, accepts, List.isEmpty_iff]
  cases schema.violations value with
  | nil =>
    cases decode value <;> simp [Except.mapError]
  | cons violation rest => simp

theorem read_eq_ok_iff {schema : Schema} {content : String} {path : Path} {config : Config}
    (h : Yaml.read .plain content = .ok value) :
    read schema path content = .ok config ↔
      schema.accepts value = true ∧ decode value = .ok config := by
  rw [← ofJson_eq_ok_iff, read, ofText, h]
  change (ofJson schema value).mapError (LoadError.invalid path) = .ok config ↔ _
  cases ofJson schema value <;> simp [Except.mapError]

/-- A document is read as the configuration that it writes, and refused when it writes none. What
the schema accepts always decodes. -/
theorem read_eq_ok_iff_writes {content : String} (path : Path)
    (h : Yaml.read .plain content = .ok value) :
    (∀ config, read Constraints.schema path content = .ok config ↔ Writes value config) ∧
      (Constraints.schema.accepts value = true ↔ ∃ config, Writes value config) ∧
      (Constraints.schema.accepts value = true → ∃ config, decode value = .ok config) := by
  have hk := Yaml.keysDistinct_of_read h
  refine ⟨fun config => ?_, accepts_iff_exists_writes, fun ha => ?_⟩
  · rw [read_eq_ok_iff h]
    constructor
    · rintro ⟨ha, hd⟩
      obtain ⟨written, hw⟩ := accepts_iff_exists_writes.mp ha
      have heq : decode value = .ok written := decode_of_writes hk hw
      obtain rfl : written = config := Except.ok.inj (heq.symm.trans hd)
      exact hw
    · intro hw
      exact ⟨accepts_iff_exists_writes.mpr ⟨config, hw⟩, decode_of_writes hk hw⟩
  · obtain ⟨config, hw⟩ := accepts_iff_exists_writes.mp ha
    exact ⟨config, decode_of_writes hk hw⟩

/-- A configuration with a member that no record knows. -/
def fastifyText : String :=
  "version: 1.2.3-b\ncompilation: \x7blanguage: typescript, engine: \x7blib: fastify\x7d," ++
    " directories: \x7brouting: r, controllers: c, useCases: u\x7d\x7d\n" ++
    "services: \x7ba-b: \x7bspecPath: s, port: 1\x7d\x7d\n"

def fastifyValue : Json :=
  .object [("version", .string "1.2.3-b"),
    ("compilation", .object [("language", .string "typescript"),
      ("engine", .object [("lib", .string "fastify")]),
      ("directories", .object [("routing", .string "r"), ("controllers", .string "c"),
        ("useCases", .string "u")])]),
    ("services", .object [("a-b", .object [("specPath", .string "s"),
      ("port", .number (.integer 1))])])]

theorem writes_fastifyValue : Yaml.read .plain fastifyText = .ok fastifyValue ∧
    Writes fastifyValue
      ⟨"1.2.3-b", ⟨"typescript", "fastify", ⟨⟨"r"⟩, ⟨"c"⟩, ⟨"u"⟩⟩⟩, [("a-b", ⟨"s"⟩)]⟩ := by
  have hvalue : Yaml.read .plain fastifyText = .ok fastifyValue := by decide +kernel
  obtain ⟨hread, -, -⟩ := read_eq_ok_iff_writes ⟨"haku.yml"⟩ hvalue
  refine ⟨hvalue, (hread _).mp ((read_eq_ok_iff hvalue).mpr ⟨?_, ?_⟩)⟩
  · decide +kernel
  · rfl

end Scaffold.Config
