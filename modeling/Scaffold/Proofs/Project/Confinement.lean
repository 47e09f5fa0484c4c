import Scaffold.Proofs.Config.Acceptance
import Scaffold.Proofs.Path.Parents
import Scaffold.Proofs.Project.Services

/-! Where the files of a project go. Names of services are no paths, and the names of their files
are longer than those of the shared modules. So every file lies right in the directory of the
controllers, and no two files are one. -/
namespace Scaffold

namespace Config

variable {tree : FileTree} {directory : Path} {config : Config}

/-- A configuration that is found is written by a document without repeated keys. -/
theorem exists_writes_of_find (h : find Constraints.schema tree directory = .ok config) :
    ∃ value, value.keysDistinct = true ∧ Writes value config := by
  obtain ⟨name, -, content, -, hread⟩ := exists_of_findIn h
  cases hyaml : Yaml.read .plain content with
  | error e =>
    rw [read, ofText, hyaml] at hread
    cases hread
  | ok value =>
    have hk := Yaml.keysDistinct_of_read hyaml
    obtain ⟨haccepts, hdecode⟩ := (read_eq_ok_iff hyaml).mp hread
    obtain ⟨written, hw⟩ := accepts_iff_exists_writes.mp haccepts
    obtain rfl : written = config := Except.ok.inj ((decode_of_writes hk hw).symm.trans hdecode)
    exact ⟨value, hk, hw⟩

theorem names_of_writesService {fields : List (String × Json)} {services : List (String × Path)}
    (h : List.Forall₂ WritesService fields services) :
    services.map Prod.fst = fields.map Prod.fst ∧
      ∀ service ∈ services, IsServiceName service.1 := by
  induction h with
  | nil => exact ⟨rfl, List.forall_mem_nil _⟩
  | cons hfield _ ih =>
    refine ⟨?_, List.forall_mem_cons.mpr ⟨hfield.name ▸ hfield.isName, ih.2⟩⟩
    rw [List.map_cons, List.map_cons, ih.1, hfield.name]

theorem nodup_services (h : find Constraints.schema tree directory = .ok config) :
    (config.services.map Prod.fst).Nodup ∧
      ∀ service ∈ config.services, IsServiceName service.1 := by
  obtain ⟨value, hk, hw⟩ := exists_writes_of_find h
  obtain ⟨fields, hfields, hservices⟩ := hw.services
  obtain ⟨hnames, hall⟩ := names_of_writesService hservices
  rw [hnames]
  exact ⟨((Json.keysDistinct_object fields).mp (Json.keysDistinct_field? hk hfields)).1, hall⟩

end Config

namespace Generator

open Output

variable {load : Loader} {tree : FileTree} {directory controllers : Path} {files : List OutputFile}
  {report : Report}

/-- The files lie in the directory of the controllers, each at a path of its own. -/
structure Confined (directory controllers : Path) (files : List OutputFile) : Prop where
  distinct : files.Pairwise fun a b => a.path.same b.path = false
  inside : ∀ file ∈ files, ∃ parent, file.path.parent? = some parent ∧
    parent.same (directory.join controllers) = true

theorem confined_of_names {names : List String} (hn : names.Nodup)
    (h : ∀ name ∈ names, Path.isIdle name.toList = false ∧ '/' ∉ name.toList)
    (hpaths : files.map (·.path) =
      names.map fun name => directory.join (controllers.join ⟨name⟩)) :
    Confined directory controllers files := by
  constructor
  case distinct =>
    have hpairs : (files.map (·.path)).Pairwise fun p q => p.same q = false := by
      rw [hpaths]
      refine List.pairwise_map.mpr (hn.imp_of_mem fun {a b} ha hb hne => ?_)
      rw [Path.join_assoc, Path.join_assoc, Bool.eq_false_iff]
      exact fun hsame =>
        hne (Path.file_eq_of_same_join (h a ha).1 (h a ha).2 (h b hb).1 (h b hb).2 hsame)
    exact List.pairwise_map.mp hpairs
  case inside =>
    intro file hm
    have hpath := List.mem_map_of_mem (f := (·.path)) hm
    rw [hpaths] at hpath
    obtain ⟨name, hname, hjoin⟩ := List.mem_map.mp hpath
    rw [← hjoin, Path.join_assoc]
    exact Path.exists_parent?_join (h name hname).1 (h name hname).2

theorem plain_controllerFile {name : String} (h : Config.IsServiceName name) :
    Path.isIdle (name ++ ".controller.ts").toList = false ∧
      '/' ∉ (name ++ ".controller.ts").toList := by
  obtain ⟨hne, hchars⟩ := h
  rw [String.toList_append]
  constructor
  · obtain ⟨c, cs, htext⟩ := List.exists_cons_of_ne_nil
      (fun hn => hne (String.toList_eq_nil_iff.mp hn) : name.toList ≠ [])
    rw [htext]
    simp [Path.isIdle]
  · rw [List.mem_append]
    rintro (hm | hm)
    · exact absurd (hchars _ hm) (by decide)
    · exact absurd hm (by simp)

/-- The file of a controller has a longer name than those of the shared modules. -/
theorem controllerFile_ne {name shared : String} (h : shared.length = 13) :
    shared ≠ name ++ ".controller.ts" := by
  intro heq
  have hlength : shared.length = name.length + 14 := by rw [heq, String.length_append]; rfl
  omega

theorem nodup_files {names : List String} (h : names.Nodup) :
    ("interfaces.ts" :: "validation.ts" :: names.map (· ++ ".controller.ts")).Nodup := by
  have hshared : ∀ shared : String, shared.length = 13 →
      shared ∉ names.map (· ++ ".controller.ts") := by
    intro shared hs hm
    obtain ⟨name, -, hname⟩ := List.mem_map.mp hm
    exact controllerFile_ne hs hname.symm
  refine List.nodup_cons.mpr ⟨?_, List.nodup_cons.mpr ⟨hshared _ rfl, ?_⟩⟩
  · rw [List.mem_cons, not_or]
    exact ⟨by decide, hshared _ rfl⟩
  · exact h.map fun a b hab => (String.append_left_inj _).mp hab

/-- A run that is prepared has found a configuration, and reports what its services come to. -/
theorem exists_summary_of_prepareWith {schema : Schema}
    (h : prepareWith load ⟨schema, .standard⟩ tree directory = .ok (files, report)) :
    ∃ config, Config.find schema tree directory = .ok config ∧
      Summary load directory config files report := by
  have hrun := h
  unfold prepareWith at h
  obtain ⟨config, hc, h⟩ := Except.exists_of_bind_eq_ok h
  obtain ⟨existing, he, h⟩ := Except.exists_of_bind_eq_ok h
  have hc := Except.eq_ok_of_mapError_eq_ok hc
  have he := Except.eq_ok_of_mapError_eq_ok he
  cases hb : Backends.standard.ofName? config.compilation.language with
  | none => simp [hb, throw, throwThe, MonadExceptOf.throw] at h
  | some backend =>
    have hl := Backends.language_of_ofName? hb
    obtain rfl := eq_typeScript_of_ofName? hb
    rw [prepareWith_eq load hc he hl] at hrun
    rcases fits_or_exists_first load directory config.services with
      hfits | ⟨before, service, after, e, hs, hbefore, hfails⟩
    · obtain ⟨progress, hprogress, hsummary⟩ := exists_summary existing hfits
      rw [hprogress] at hrun
      obtain ⟨rfl, rfl⟩ := Prod.mk.inj (Except.ok.inj hrun)
      exact ⟨config, hc, hsummary⟩
    · rw [hs, foldlM_of_failsWith hbefore hfails] at hrun
      cases hrun

theorem confined_of_summary {config : Config}
    (hc : Config.find Config.Constraints.schema tree directory = .ok config)
    (h : Summary load directory config files report) :
    Confined directory config.compilation.directories.controllers files := by
  obtain ⟨hnodup, hnames⟩ := Config.nodup_services hc
  have hgenerated : report.generated.Nodup := by
    rw [h.generated]
    exact hnodup.sublist (List.filter_sublist.map _)
  have hplain : ∀ name ∈ "interfaces.ts" :: "validation.ts" ::
      report.generated.map (· ++ ".controller.ts"),
      Path.isIdle name.toList = false ∧ '/' ∉ name.toList := by
    refine List.forall_mem_cons.mpr ⟨by decide, List.forall_mem_cons.mpr ⟨by decide, ?_⟩⟩
    rw [h.generated, List.map_map]
    refine List.forall_mem_map.mpr fun service hs => ?_
    exact plain_controllerFile (hnames service (List.mem_filter.mp hs).1)
  exact confined_of_names (nodup_files hgenerated) hplain (h.written.symm.trans h.paths)

/-- The files of a run that is prepared lie in the directory of the controllers, at different paths,
also when the documents of the services come from elsewhere. -/
theorem confined_of_prepare :
    (∀ files report, prepare .standard tree directory = .ok (files, report) →
      ∃ config, Config.find Config.Constraints.schema tree directory = .ok config ∧
        Confined directory config.compilation.directories.controllers files) ∧
    ∀ load files report, prepareWith load .standard tree directory = .ok (files, report) →
      ∃ config, Config.find Config.Constraints.schema tree directory = .ok config ∧
        Confined directory config.compilation.directories.controllers files := by
  have hall : ∀ load files report,
      prepareWith load .standard tree directory = .ok (files, report) →
        ∃ config, Config.find Config.Constraints.schema tree directory = .ok config ∧
          Confined directory config.compilation.directories.controllers files := by
    intro load files report hrun
    obtain ⟨config, hc, hsummary⟩ := exists_summary_of_prepareWith hrun
    exact ⟨config, hc, confined_of_summary hc hsummary⟩
  refine ⟨fun files report hrun => hall (.ofTree tree) files report ?_, hall⟩
  exact hrun

/-- A configuration with a service named like a shared module, and controllers that lead around. -/
def dottedText : String :=
  "version: 1.0.0\ncompilation: \x7blanguage: ts, engine: \x7blib: x\x7d, directories: " ++
    "\x7brouting: r, controllers: .//c/../, useCases: u\x7d\x7d\n" ++
    "services: \x7binterfaces: \x7bspecPath: a.json\x7d\x7d\n"

def dottedTree : FileTree :=
  ⟨[], [(["p"], .directory), (["haku.yml", "p"], .file dottedText.toUTF8),
    (["a.json", "p"], .file ("\x7b\"openapi\":\"3.0.0\",\"info\":\x7b\"title\":\"t\"," ++
      "\"version\":\"v\"\x7d,\"paths\":\x7b\"/a\":\x7b\x7d\x7d\x7d").toUTF8)]⟩

theorem confined_dottedTree : ∃ files report,
    prepare .standard dottedTree ⟨"p"⟩ = .ok (files, report) ∧
    files.map (·.path) = [⟨"p/.//c/../interfaces.ts"⟩, ⟨"p/.//c/../validation.ts"⟩,
      ⟨"p/.//c/../interfaces.controller.ts"⟩] ∧
    ∃ config, Config.find Config.Constraints.schema dottedTree ⟨"p"⟩ = .ok config ∧
      Confined ⟨"p"⟩ config.compilation.directories.controllers files := by
  have hpaths : (prepare .standard dottedTree ⟨"p"⟩).toOption.map (fun run => run.1.map (·.path)) =
      some [⟨"p/.//c/../interfaces.ts"⟩, ⟨"p/.//c/../validation.ts"⟩,
        ⟨"p/.//c/../interfaces.controller.ts"⟩] := by
    decide +kernel
  rcases hrun : prepare .standard dottedTree ⟨"p"⟩ with _ | ⟨files, report⟩
  · rw [hrun] at hpaths
    cases hpaths
  · rw [hrun] at hpaths
    exact ⟨files, report, rfl, Option.some.inj hpaths, confined_of_prepare.1 files report hrun⟩

end Generator

end Scaffold
