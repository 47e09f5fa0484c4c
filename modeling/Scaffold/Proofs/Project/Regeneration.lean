import Scaffold.Project
import Scaffold.Proofs.Config.Engine
import Scaffold.Proofs.Config.Finding
import Scaffold.Proofs.OpenApi.Reading
import Scaffold.Proofs.Output.Rescanning

/-! Generating the sources of a project once more. The configuration and the documents are read as
before, the same files come out, and writing them does not change the tree. -/
namespace Scaffold.Generator

open FileTree Source Output

variable {tree after : FileTree} {directory : Path} {paths : List Path} {backend : Backend}
  {config : Config} {progress progress' : Progress}

/-- The paths at which a run looks for the configuration and for the documents of the services. -/
def consulted (g : Generator) (tree : FileTree) (directory : Path) : List Path :=
  Config.consulted tree directory ++
    match Config.find g.schema tree directory with
    | .error _ => []
    | .ok config => config.services.flatMap fun service =>
      OpenApi.consulted tree (Config.location directory service.2)

/-- A service comes to the same when nothing was written where its documents are looked for. -/
theorem addService_again {service : String × Path} (ht : tree.WellFormed)
    (hw : Written tree after paths)
    (hu : ∀ p ∈ OpenApi.consulted tree (Config.location directory service.2),
      Untouched tree after paths p)
    (h : addService (.ofTree tree) backend config directory progress service = .ok progress') :
    addService (.ofTree after) backend config directory progress service = .ok progress' := by
  obtain ⟨name, document⟩ := service
  cases hl : OpenApi.documentAt tree (Config.location directory document) with
  | error e =>
    simp [addService, Loader.ofTree, hl, Except.mapError, bind, Except.bind] at h
  | ok found =>
    have hl' : OpenApi.documentAt after (Config.location directory document) = .ok found :=
      OpenApi.documentAt_again hl fun p hp => by
        obtain ⟨text, hread⟩ := OpenApi.exists_text_of_consulted hl p hp
        rw [hread, hw.readText ht (hu p hp) hread]
    rw [← h]
    simp only [addService, Loader.ofTree, hl, hl']

theorem addServices_again {services : List (String × Path)} (ht : tree.WellFormed)
    (hw : Written tree after paths)
    (hu : ∀ service ∈ services, ∀ p ∈ OpenApi.consulted tree (Config.location directory service.2),
      Untouched tree after paths p)
    (h : services.foldlM (addService (.ofTree tree) backend config directory) progress =
      .ok progress') :
    services.foldlM (addService (.ofTree after) backend config directory) progress =
      .ok progress' := by
  induction services generalizing progress with
  | nil => exact h
  | cons service rest ih =>
    obtain ⟨hfirst, hrest⟩ := List.forall_mem_cons.mp hu
    rw [List.foldlM_cons] at h ⊢
    obtain ⟨between, hb, h⟩ := Except.exists_of_bind_eq_ok h
    rw [addService_again ht hw hfirst hb]
    exact ih hrest h

/-- The text of a path ends in the extension of TypeScript sources. -/
def EndsInExtension (p : Path) : Prop := ['.', 't', 's'] <:+ p.text.toList

theorem EndsInExtension.join {p : Path} (h : EndsInExtension p) (d : Path) :
    EndsInExtension (d.join p) := by
  by_cases ha : p.isAbsolute
  · rwa [Path.join, if_pos ha]
  · rw [EndsInExtension, Path.text_join d (by simpa using ha)]
    exact h.trans (List.suffix_append _ _)

theorem endsInExtension_append (name : String) {ending : String}
    (h : ['.', 't', 's'] <:+ ending.toList) : EndsInExtension ⟨name ++ ending⟩ := by
  rw [EndsInExtension, String.toList_append]
  exact h.trans (List.suffix_append _ _)

/-- Behind the last slash of such a path is a name with the extension. -/
theorem EndsInExtension.exists_splitOn {p : Path} (h : EndsInExtension p) :
    ∃ before last, p.text.toList.splitOn '/' = before ++ [last] ∧ ['.', 't', 's'] <:+ last := by
  obtain ⟨front, hfront⟩ := h
  rw [← hfront]
  clear hfront
  induction front with
  | nil => exact ⟨[], _, rfl, List.suffix_rfl⟩
  | cons c rest ih =>
    obtain ⟨before, last, hsplit, hlast⟩ := ih
    rw [List.cons_append, List.splitOn_cons_eq_if_modifyHead, hsplit]
    by_cases hc : c = '/'
    · exact ⟨[] :: before, last, by simp [hc], hlast⟩
    · cases before with
      | nil => exact ⟨[], c :: last, by simp [hc], hlast.trans (List.suffix_cons _ _)⟩
      | cons first others => exact ⟨(c :: first) :: others, last, by simp [hc], hlast⟩

theorem not_idle_of_extension {part : List Char} (h : ['.', 't', 's'] <:+ part) :
    Path.isIdle part = false := by
  have hlength : 3 ≤ part.length := h.length_le
  rw [Bool.eq_false_iff, ne_eq, Path.isIdle_iff]
  rintro (rfl | rfl) <;> simp at hlength

theorem EndsInExtension.not_idle {p : Path} (h : EndsInExtension p) :
    ∀ part ∈ p.parts.2.getLast?, Path.isIdle part = false := by
  obtain ⟨before, last, hsplit, hlast⟩ := h.exists_splitOn
  have hdot : p.text ≠ "." := by
    intro ht
    rw [EndsInExtension, ht] at h
    exact absurd h (by decide)
  intro part hp
  rw [Path.getLast?_parts hdot, hsplit, List.getLast?_concat] at hp
  rw [← Option.some.inj hp]
  exact not_idle_of_extension hlast

theorem EndsInExtension.resolve_ne {t : FileTree} {p : Path} (h : EndsInExtension p)
    (place : Location) : t.resolve p ≠ .ok ("src" :: place) := by
  intro hr
  obtain ⟨before, last, hsplit, hlast⟩ := h.exists_splitOn
  have hwalk := walk_of_resolve hr
  rw [hsplit] at hwalk
  obtain ⟨m, -, hend⟩ := walk_append_eq_ok.mp hwalk
  rw [walk_singleton] at hend
  have hlength := hlast.length_le
  obtain ⟨-, ⟨hidle, -⟩ | ⟨rfl, -⟩ | ⟨-, -, -, hname, -⟩⟩ := step_cases hend
  · rw [not_idle_of_extension hlast] at hidle
    cases hidle
  · simp at hlength
  · obtain rfl : last = "src".toList := by
      rw [(List.cons.inj hname).1, String.toList_ofList]
    exact absurd hlast (by decide)

theorem endsInExtension_of_addService {service : String × Path}
    (h : addService (.ofTree tree) .typeScript config directory progress service = .ok progress')
    (ha : ∀ artifact ∈ progress.artifacts, EndsInExtension artifact.path) :
    ∀ artifact ∈ progress'.artifacts, EndsInExtension artifact.path := by
  obtain ⟨name, document⟩ := service
  unfold addService at h
  obtain ⟨found, -, h⟩ := Except.exists_of_bind_eq_ok h
  cases hres : OpenApi.Resolution.of ⟨name, Config.location directory document, found⟩ with
  | noOperations =>
    simp only [hres] at h
    exact Except.ok.inj h ▸ ha
  | operations spec =>
    simp only [hres] at h
    obtain ⟨plan, -, h⟩ := Except.exists_of_bind_eq_ok h
    rw [← Except.ok.inj h]
    refine List.forall_mem_append.mpr ⟨ha, List.forall_mem_singleton.mpr ?_⟩
    exact (endsInExtension_append plan.service (by decide)).join _

theorem endsInExtension_of_addServices {services : List (String × Path)}
    (h : services.foldlM (addService (.ofTree tree) .typeScript config directory) progress =
      .ok progress')
    (ha : ∀ artifact ∈ progress.artifacts, EndsInExtension artifact.path) :
    ∀ artifact ∈ progress'.artifacts, EndsInExtension artifact.path := by
  induction services generalizing progress with
  | nil => exact Except.ok.inj h ▸ ha
  | cons service rest ih =>
    rw [List.foldlM_cons] at h
    obtain ⟨between, hb, h⟩ := Except.exists_of_bind_eq_ok h
    exact ih h (endsInExtension_of_addService hb ha)

/-- Files go to the paths of the artifacts, seen from the directory of the project. -/
theorem paths_of_renderFiles {artifacts : List Artifact} {files : List OutputFile}
    (h : artifacts.mapM (renderFile backend directory) = .ok files) :
    files.map (·.path) = artifacts.map fun artifact => directory.join artifact.path := by
  induction artifacts generalizing files with
  | nil =>
    obtain rfl : [] = files := Except.ok.inj h
    rfl
  | cons artifact rest ih =>
    rw [List.mapM_cons] at h
    obtain ⟨file, hfile, h⟩ := Except.exists_of_bind_eq_ok h
    obtain ⟨others, hothers, h⟩ := Except.exists_of_bind_eq_ok h
    obtain rfl : file :: others = files := Except.ok.inj h
    obtain ⟨content, -, hfile⟩ := Except.exists_of_bind_eq_ok hfile
    rw [List.map_cons, List.map_cons, ih hothers, ← Except.ok.inj hfile]

variable {g : Generator} {files : List OutputFile} {report : Report}

theorem prepare_eq_ok_iff : g.prepare tree directory = .ok (files, report) ↔
    ∃ config existing backend progress, Config.find g.schema tree directory = .ok config ∧
      existingFiles tree directory = .ok existing ∧
      g.backends.ofName? config.compilation.language = some backend ∧
      config.services.foldlM (addService (.ofTree tree) backend config directory)
        ⟨backend.shared config.compilation.directories.controllers, [], [], 0⟩ = .ok progress ∧
      progress.artifacts.mapM (renderFile backend directory) = .ok files ∧
      report = {
        written := files.map (·.path)
        overwritten := (files.map (·.path)).filter fun path => existing.any path.same
        generated := progress.generated
        skipped := progress.skipped
        skippedEntries := progress.skippedEntries } := by
  constructor
  · intro h
    unfold prepare prepareWith at h
    obtain ⟨config, hc, h⟩ := Except.exists_of_bind_eq_ok h
    obtain ⟨existing, he, h⟩ := Except.exists_of_bind_eq_ok h
    cases hb : g.backends.ofName? config.compilation.language with
    | none => simp [hb, throw, throwThe, MonadExceptOf.throw] at h
    | some backend =>
      simp only [hb] at h
      obtain ⟨progress, hp, h⟩ := Except.exists_of_bind_eq_ok h
      obtain ⟨found, hf, h⟩ := Except.exists_of_bind_eq_ok h
      obtain ⟨rfl, rfl⟩ := Prod.mk.inj (Except.ok.inj h)
      exact ⟨config, existing, backend, progress, Except.eq_ok_of_mapError_eq_ok hc,
        Except.eq_ok_of_mapError_eq_ok he, hb, hp, hf, rfl⟩
  · rintro ⟨config, existing, backend, progress, hc, he, hb, hp, hf, rfl⟩
    simp only [prepare, prepareWith, hc, he, hb, Except.mapError, bind, Except.bind, pure,
      Except.pure]
    simp only [hp, hf]

theorem generate_eq_ok_iff : g.generate tree directory = (after, .ok report) ↔
    ∃ files, g.prepare tree directory = .ok (files, report) ∧
      write tree files = (after, .ok ()) := by
  unfold generate
  constructor
  · intro h
    cases hp : g.prepare tree directory with
    | error e =>
      rw [hp] at h
      cases h
    | ok prepared =>
      obtain ⟨files, found⟩ := prepared
      rw [hp] at h
      dsimp only at h
      rcases hw : write tree files with ⟨written, _ | _⟩
      · rw [hw] at h
        cases h
      · rw [hw] at h
        obtain ⟨rfl, hreport⟩ := Prod.mk.inj h
        exact ⟨files, by rw [Except.ok.inj hreport], hw⟩
  · rintro ⟨files, hp, hw⟩
    rw [hp]
    dsimp only
    rw [hw]

theorem eq_typeScript_of_ofName? {name : String} {backend : Backend}
    (h : Backends.standard.ofName? name = some backend) : backend = .typeScript := by
  obtain ⟨language, -, hb⟩ := Option.bind_eq_some_iff.mp h
  exact List.mem_singleton.mp (List.mem_of_find?_eq_some hb)

theorem endsInExtension_of_prepare {schema : Schema}
    (h : prepare ⟨schema, .standard⟩ tree directory = .ok (files, report)) :
    ∀ file ∈ files, EndsInExtension file.path := by
  obtain ⟨config, existing, backend, progress, -, -, hb, hp, hf, -⟩ := prepare_eq_ok_iff.mp h
  obtain rfl := eq_typeScript_of_ofName? hb
  have hpaths := paths_of_renderFiles hf
  intro file hm
  have hmem := List.mem_map_of_mem (f := (·.path)) hm
  rw [hpaths] at hmem
  obtain ⟨artifact, hm, hpath⟩ := List.mem_map.mp hmem
  rw [← hpath]
  refine (endsInExtension_of_addServices hp (fun artifact hm => ?_) artifact hm).join directory
  rcases (by simpa [Backend.typeScript, TypeScript.sharedArtifacts] using hm :
    artifact = TypeScript.interfacesArtifact _ ∨ artifact = TypeScript.validationArtifact _) with
    rfl | rfl
  · exact (endsInExtension_append TypeScript.interfacesModule (by decide)).join _
  · exact (endsInExtension_append TypeScript.validationModule (by decide)).join _

theorem exists_place_of_find {schema : Schema}
    (h : Config.find schema tree directory = .ok config) :
    ∃ place, tree.place? directory = some place ∧ tree.isDirectoryAt place := by
  obtain ⟨name, hn, text, htext, -⟩ := Config.exists_of_findIn h
  obtain ⟨l, hl⟩ := exists_resolve_of_readText htext
  have hslash : ∀ name ∈ Config.candidates, '/' ∉ name.toList := by decide
  exact exists_place_of_resolve_join (hslash name hn) hl

/-- A run that has succeeded is repeated, on the tree that it left, with the same outcome and
without a change to the tree, as long as it has written nothing where it looks for the configuration
and for documents. The second run fails just when the path of a directory below `src`, as it is
spelled from the directory of the project, is too long. It names such a directory, and the first run
has written to a path that is not spelled from the directory of the project. -/
theorem generate_again {schema : Schema} (ht : tree.WellFormed)
    (h : generate ⟨schema, .standard⟩ tree directory = (after, .ok report))
    (hu : ∀ p ∈ consulted ⟨schema, .standard⟩ tree directory,
      Untouched tree after report.written p) :
    ∃ place, after.place? directory = some place ∧
      ((∃ overwritten, generate ⟨schema, .standard⟩ after directory =
          (after, .ok { report with overwritten })) ↔
        ∀ names, after.isDirectoryAt (names.reverse ++ "src" :: place) →
          (descend (directory.join ⟨"src"⟩) names).text.utf8ByteSize ≤ pathLimit) ∧
      ((∃ names, after.isDirectoryAt (names.reverse ++ "src" :: place) ∧
          pathLimit < (descend (directory.join ⟨"src"⟩) names).text.utf8ByteSize) →
        ∃ names, after.isDirectoryAt (names.reverse ++ "src" :: place) ∧
          pathLimit < (descend (directory.join ⟨"src"⟩) names).text.utf8ByteSize ∧
          generate ⟨schema, .standard⟩ after directory =
            (after, .error (.scan (descend (directory.join ⟨"src"⟩) names) .nameTooLong)) ∧
          ∃ q ∈ report.written, ∀ rel : Path, rel.isAbsolute = false →
            q ≠ directory.join rel) := by
  obtain ⟨files, hprepare, hwrite⟩ := generate_eq_ok_iff.mp h
  have hends := endsInExtension_of_prepare hprepare
  obtain ⟨config, existing, backend, progress, hc, he, hb, hp, hf, rfl⟩ :=
    prepare_eq_ok_iff.mp hprepare
  have hw := written_of_write ht hwrite
  obtain ⟨hconfig, hdocuments⟩ := List.forall_mem_append.mp hu
  dsimp only at hc hb
  simp only [hc, List.mem_flatMap, forall_exists_index, and_imp] at hdocuments
  have hc' := Config.find_again ht hw hconfig hc
  have hp' := addServices_again ht hw (fun service hs p hm => hdocuments p service hs hm) hp
  obtain ⟨place, hd, hplace⟩ := exists_place_of_find hc
  have hsrc : ∀ q ∈ files.map (·.path), after.resolve q ≠ .ok ("src" :: place) := fun q hq => by
    obtain ⟨file, hm, rfl⟩ := List.mem_map.mp hq
    exact (hends file hm).resolve_ne place
  refine ⟨place, hw.directoriesIn.place? hd hplace, ?_⟩
  rcases existingFiles_of_written ht hw hd hplace hsrc he with ⟨existing', he', hfits⟩ |
    ⟨names, hdir, hlong, he', hspelled⟩
  · have hprepare' : prepare ⟨schema, .standard⟩ after directory = .ok (files, _) :=
      prepare_eq_ok_iff.mpr ⟨config, existing', backend, progress, hc', he', hb, hp', hf, rfl⟩
    have hagain := generate_eq_ok_iff.mpr ⟨files, hprepare', write_again ht hwrite⟩
    refine ⟨⟨fun _ => hfits, fun _ => ⟨_, hagain⟩⟩, fun ⟨names, hdir, hlong⟩ => ?_⟩
    exact absurd (hfits names hdir) (Nat.not_le.mpr hlong)
  · have hfails : generate ⟨schema, .standard⟩ after directory =
        (after, .error (.scan (descend (directory.join ⟨"src"⟩) names) .nameTooLong)) := by
      unfold generate prepare prepareWith
      rw [hc', he']
      rfl
    refine ⟨⟨?_, fun hfits => ?_⟩, fun _ => ⟨names, hdir, hlong, hfails, hspelled⟩⟩
    · rintro ⟨overwritten, hagain⟩
      rw [hfails] at hagain
      cases hagain
    · exact absurd (hfits names hdir) (Nat.not_le.mpr hlong)

def todosConfigText : String :=
  "version: 1.0.0\ncompilation: \x7blanguage: ts, engine: \x7blib: express\x7d, directories: " ++
    "\x7brouting: r, controllers: src/c, useCases: u\x7d\x7d\nservices: \x7ba: \x7bspecPath: a.json\x7d\x7d\n"

/-- The document of the service, with one operation and one entry that is passed over. -/
def todosText : String :=
  "\x7b\"openapi\":\"3.0.0\",\"info\":\x7b\"title\":\"t\",\"version\":\"v\"\x7d,\"paths\":" ++
    "\x7b\"/a\":\x7b\"get\":\x7b\"responses\":\x7b\x7d\x7d,\"x-a\":0\x7d\x7d\x7d"

def todosTree : FileTree :=
  ⟨[], [(["p"], .directory), (["haku.yml", "p"], .file todosConfigText.toUTF8),
    (["a.json", "p"], .file todosText.toUTF8)]⟩

theorem generate_again_todosTree : todosTree.WellFormed ∧
    ∃ after report overwritten, generate .standard todosTree ⟨"p"⟩ = (after, .ok report) ∧
      (∀ p ∈ consulted .standard todosTree ⟨"p"⟩, Untouched todosTree after report.written p) ∧
      generate .standard after ⟨"p"⟩ = (after, .ok { report with overwritten }) := by
  have hwell : todosTree.WellFormed := by decide +kernel
  have hrun : (generate .standard todosTree ⟨"p"⟩).2.toOption.any fun report =>
      decide (report.written = [⟨"p/src/c/interfaces.ts"⟩, ⟨"p/src/c/validation.ts"⟩,
        ⟨"p/src/c/a.controller.ts"⟩]) &&
      (consulted .standard todosTree ⟨"p"⟩).all fun p =>
        decide (Untouched todosTree (generate .standard todosTree ⟨"p"⟩).1 report.written p) := by
    decide +kernel
  rcases hgenerate : generate .standard todosTree ⟨"p"⟩ with ⟨after, _ | report⟩
  · rw [hgenerate] at hrun
    cases hrun
  · rw [hgenerate] at hrun
    obtain ⟨hwritten, huntouched⟩ : report.written = [⟨"p/src/c/interfaces.ts"⟩,
        ⟨"p/src/c/validation.ts"⟩, ⟨"p/src/c/a.controller.ts"⟩] ∧
        ∀ p ∈ consulted .standard todosTree ⟨"p"⟩, Untouched todosTree after report.written p := by
      simpa [Except.toOption] using hrun
    obtain ⟨place, -, hsucceeds, hfails⟩ := generate_again hwell hgenerate huntouched
    by_cases hlong : ∃ names, after.isDirectoryAt (names.reverse ++ "src" :: place) ∧
        pathLimit < (descend ((⟨"p"⟩ : Path).join ⟨"src"⟩) names).text.utf8ByteSize
    · obtain ⟨-, -, -, -, q, hq, hspelled⟩ := hfails hlong
      rw [hwritten] at hq
      have hin : ∀ q ∈ ([⟨"p/src/c/interfaces.ts"⟩, ⟨"p/src/c/validation.ts"⟩,
          ⟨"p/src/c/a.controller.ts"⟩] : List Path), ∃ rel ∈ ([⟨"src/c/interfaces.ts"⟩,
          ⟨"src/c/validation.ts"⟩, ⟨"src/c/a.controller.ts"⟩] : List Path),
          rel.isAbsolute = false ∧ q = (⟨"p"⟩ : Path).join rel := by
        decide +kernel
      obtain ⟨rel, -, hrel, he⟩ := hin q hq
      exact absurd he (hspelled rel hrel)
    · obtain ⟨overwritten, hagain⟩ := hsucceeds.mpr fun names hdir =>
        Nat.not_lt.mp fun htoo => hlong ⟨names, hdir, htoo⟩
      exact ⟨hwell, after, report, overwritten, rfl, huntouched, hagain⟩

/-- The text of a configuration without services, with controllers at a path from the root. -/
def rootedText : String :=
  "version: 1.0.0\ncompilation: \x7blanguage: ts, engine: \x7blib: express\x7d, directories: " ++
    "\x7brouting: r, controllers: /p/src/inner, useCases: u\x7d\x7d\nservices: \x7b\x7d\n"

def rootedConfig : Config :=
  ⟨"1.0.0", ⟨"ts", "express", ⟨⟨"r"⟩, ⟨"/p/src/inner"⟩, ⟨"u"⟩⟩⟩, []⟩

theorem ofText_rootedText :
    Config.ofText Config.Constraints.schema rootedText = .ok rootedConfig := by
  decide +kernel

def rootedTree : FileTree :=
  ⟨[], [(["p"], .directory), (["haku.yml", "p"], .file rootedText.toUTF8)]⟩

def slashed (n : Nat) : Path := ⟨"/p" ++ String.ofList (List.replicate n '/')⟩

/-- What is joined to a directory with slashes behind it stands right behind them. -/
theorem utf8ByteSize_slashed_join {p : Path} (hp : p.isAbsolute = false) (n : Nat) :
    ((slashed (n + 1)).join p).text.utf8ByteSize = n + 3 + p.text.utf8ByteSize := by
  have hfront : "/p".utf8ByteSize = 2 := by decide
  rw [slashed, Path.utf8ByteSize_join_slashes ⟨"/p"⟩ hp, hfront]
  omega

theorem place?_slashed (t : FileTree) (n : Nat) : t.place? (slashed n) = t.place? ⟨"/p"⟩ :=
  place?_append_slashes t (p := ⟨"/p"⟩) rfl n

/-- A name in the directory is found in spite of the slashes, if the text of its path fits. -/
theorem resolve_slashed_join {t : FileTree} {file : String} {n : Nat}
    (hd : t.place? ⟨"/p"⟩ = some ["p"]) (hp : t.isDirectoryAt ["p"]) (hf : IsName file)
    (hs : n + 3 + file.utf8ByteSize ≤ pathLimit) :
    checkText ((slashed (n + 1)).join ⟨file⟩) = .ok () ∧
      t.resolve ((slashed (n + 1)).join ⟨file⟩) = t.step ["p"] file.toList := by
  have hc : checkText ((slashed (n + 1)).join ⟨file⟩) = .ok () := by
    refine checkText_eq_ok_iff.mpr ⟨hf.nul_not_mem_join ?_, hf.join_isEmpty _, ?_⟩
    · simp [slashed]
    rwa [utf8ByteSize_slashed_join (Path.not_isAbsolute hf.no_slash)]
  exact ⟨hc, resolve_join ((place?_slashed t _).trans hd) hp hf.no_slash hc⟩

/-- A directory among the sources is come to by a path that does not fit. -/
theorem checkText_slashed_descend (n : Nat) (h : pathLimit < n + 12) :
    checkText (descend ((slashed (n + 1)).join ⟨"src"⟩) ["inner"]) ≠ .ok () := by
  intro hc
  have hnames : ∀ name ∈ ["src", "inner"], IsName name := by decide
  have hrelative : (⟨"src/inner"⟩ : Path).isAbsolute = false := by decide
  have hjoin (d : Path) : descend (d.join ⟨"src"⟩) ["inner"] = d.join ⟨"src/inner"⟩ :=
    descend_eq_join d hnames (List.cons_ne_nil _ _) hrelative rfl
  have hsize : ((slashed (n + 1)).join ⟨"src/inner"⟩).text.utf8ByteSize = n + 12 :=
    utf8ByteSize_slashed_join hrelative n
  rw [← hjoin] at hsize
  have hfits := (checkText_eq_ok_iff.mp hc).2.2
  omega

/-- Artifacts with paths from the root go there from any directory. -/
theorem renderFiles_of_isAbsolute {artifacts : List Artifact}
    (h : ∀ artifact ∈ artifacts, artifact.path.isAbsolute) (d d' : Path) :
    artifacts.mapM (renderFile backend d) = artifacts.mapM (renderFile backend d') := by
  induction artifacts with
  | nil => rfl
  | cons artifact rest ih =>
    obtain ⟨hfirst, hrest⟩ := List.forall_mem_cons.mp h
    have hsame : renderFile backend d artifact = renderFile backend d' artifact := by
      simp only [renderFile, Path.join, if_pos hfirst]
    rw [List.mapM_cons, List.mapM_cons, hsame, ih hrest]

def rootedFiles : List OutputFile :=
  (((Backend.typeScript.shared ⟨"/p/src/inner"⟩).mapM
    (renderFile .typeScript ⟨""⟩)).toOption).getD []

theorem mapM_renderFile_rooted (d : Path) : (Backend.typeScript.shared ⟨"/p/src/inner"⟩).mapM
    (renderFile .typeScript d) = .ok rootedFiles := by
  have hrendered : ((Backend.typeScript.shared ⟨"/p/src/inner"⟩).mapM
      (renderFile .typeScript ⟨""⟩)).isOk := by decide +kernel
  have habs : ∀ artifact ∈ Backend.typeScript.shared ⟨"/p/src/inner"⟩,
      artifact.path.isAbsolute := by
    decide
  rw [renderFiles_of_isAbsolute habs d ⟨""⟩, rootedFiles]
  cases hfiles :
      (Backend.typeScript.shared ⟨"/p/src/inner"⟩).mapM (renderFile .typeScript ⟨""⟩) with
  | error e =>
    rw [hfiles] at hrendered
    cases hrendered
  | ok files => rfl

/-- The first run puts two files into a new directory among the sources, which the second one comes
to by a path that is spelled with all the slashes and is too long. -/
theorem generate_slashed_fails_again : rootedTree.WellFormed ∧
    ∃ after report, generate .standard rootedTree (slashed 4085) = (after, .ok report) ∧
      (∀ p ∈ consulted .standard rootedTree (slashed 4085),
        Untouched rootedTree after report.written p) ∧
      ∀ after' report', generate .standard after (slashed 4085) ≠ (after', .ok report') := by
  have hwell : rootedTree.WellFormed := by decide +kernel
  have hplace : rootedTree.place? ⟨"/p"⟩ = some ["p"] := by decide +kernel
  have hdir : rootedTree.isDirectoryAt ["p"] := by decide +kernel
  have hname : IsName "haku.yml" := by decide +kernel
  -- The configuration is read through the long spelling.
  have hread : rootedTree.readText ((slashed 4085).join ⟨"haku.yml"⟩) = .ok rootedText := by
    obtain ⟨-, hres⟩ := resolve_slashed_join (n := 4084) hplace hdir hname (by decide +kernel)
    have hstep : rootedTree.step ["p"] "haku.yml".toList = .ok ["haku.yml", "p"] := by
      decide +kernel
    exact readText_of_resolve (hres.trans hstep) rfl
  have hfind : Config.find Generator.standard.schema rootedTree (slashed 4085) =
      .ok rootedConfig := by
    rw [Config.find, Config.candidates, Config.findIn_of_readText _ hread, Config.read, standard,
      ofText_rootedText]
    rfl
  have hexisting : existingFiles rootedTree (slashed 4085) = .ok [] := by
    obtain ⟨hc, -⟩ := resolve_slashed_join (n := 4084) hplace hdir isName_src (by decide +kernel)
    have hsrc := filesBelow_of_missing ((place?_slashed rootedTree 4085).trans hplace) hdir hc rfl
      rootedTree.entries.length
    rw [existingFiles_eq, hsrc]
    simp [Except.map]
  have hbackend : Generator.standard.backends.ofName? rootedConfig.compilation.language =
      some .typeScript := by
    have hlanguage : Language.ofName? rootedConfig.compilation.language = some .typeScript :=
      Config.ofName?_fileExtension .typeScript
    rw [Backends.ofName?, hlanguage]
    rfl
  have hprepare := prepare_eq_ok_iff.mpr ⟨rootedConfig, [], .typeScript, _, hfind, hexisting,
    hbackend, rfl, mapM_renderFile_rooted (slashed 4085), rfl⟩
  -- The files are written, and the new directory is there.
  obtain ⟨hwrite, hpaths, hinner, hplace', hdir', huntouched⟩ :
      (write rootedTree rootedFiles).2 = .ok () ∧
      rootedFiles.map (·.path) = [⟨"/p/src/inner/interfaces.ts"⟩, ⟨"/p/src/inner/validation.ts"⟩] ∧
      (write rootedTree rootedFiles).1.isDirectoryAt ["inner", "src", "p"] ∧
      (write rootedTree rootedFiles).1.place? ⟨"/p"⟩ = some ["p"] ∧
      (write rootedTree rootedFiles).1.isDirectoryAt ["p"] ∧
      Untouched rootedTree (write rootedTree rootedFiles).1
        [⟨"/p/src/inner/interfaces.ts"⟩, ⟨"/p/src/inner/validation.ts"⟩]
        ((⟨"/p"⟩ : Path).join ⟨"haku.yml"⟩) := by
    decide +kernel
  generalize hafter : (write rootedTree rootedFiles).1 = after at *
  have hwritten : write rootedTree rootedFiles = (after, .ok ()) := Prod.ext hafter hwrite
  have hw := written_of_write hwell hwritten
  refine ⟨hwell, after, _, generate_eq_ok_iff.mpr ⟨_, hprepare, hwritten⟩, ?_, ?_⟩
  · have hconsulted : consulted .standard rootedTree (slashed 4085) =
        [(slashed 4085).join ⟨"haku.yml"⟩] := by
      simp [consulted, Config.consulted, Config.candidates, Config.consultedIn, hread, hfind,
        rootedConfig]
    obtain ⟨-, hlong⟩ := resolve_slashed_join (n := 4084) hplace' hdir' hname (by decide +kernel)
    have hshort := resolve_join hplace' hdir' hname.no_slash (by decide +kernel)
    rw [hconsulted, List.forall_mem_singleton, hpaths]
    unfold Untouched at huntouched ⊢
    rwa [hlong, ← hshort]
  · intro after' report' hrun
    obtain ⟨files, hprepared, -⟩ := generate_eq_ok_iff.mp hrun
    obtain ⟨-, existing, -, -, -, hscanned, -⟩ := prepare_eq_ok_iff.mp hprepared
    obtain ⟨-, -, hfits⟩ := fits_of_existingFiles hw.wellFormed
      ((place?_slashed after 4085).trans hplace') hdir' hscanned
    exact checkText_slashed_descend 4084 (by decide +kernel) (hfits ["inner"] hinner)

end Scaffold.Generator
