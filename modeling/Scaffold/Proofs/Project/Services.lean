import Mathlib.Algebra.GroupWithZero.Nat
import Scaffold.Proofs.Plan
import Scaffold.Proofs.Project.Regeneration
import Scaffold.Proofs.TypeScript.Layout

/-! What a run makes of its services, one after the other, whatever the loading of their documents
comes to. The first service that does not load or cannot be planned ends the run; when there is
none, the report and the files are put together from the services in order. -/
namespace Scaffold.Generator

open Source Output OpenApi

variable {g : Generator} {tree : FileTree} {directory : Path} {config : Config}
  {existing : List Path} {backend : Backend} {progress : Progress} {load : Loader}
  {service : String × Path} {services : List (String × Path)} {e : GenerationError}

/-- The document declares a path: its `paths` are an object with a field. -/
def declaresPaths (document : Json) : Bool :=
  match document.field? "paths" with
  | some (.object (_ :: _)) => true
  | _ => false

/-- A service loads a document that declares a path. -/
def declares (load : Loader) (directory : Path) (service : String × Path) : Bool :=
  (load service.1 (Config.location directory service.2)).toOption.any declaresPaths

/-- A service loads, and its operations can be planned if it declares any path. -/
def Fits (load : Loader) (directory : Path) (service : String × Path) : Prop :=
  ∃ document, load service.1 (Config.location directory service.2) = .ok document ∧
    (declaresPaths document = true →
      ∃ plan, Plan.build ⟨service.1, Config.location directory service.2, document⟩ = .ok plan)

/-- A service does not load, or two of its operations collide. -/
def FailsWith (load : Loader) (directory : Path) (service : String × Path) (e : GenerationError) :
    Prop :=
  load service.1 (Config.location directory service.2) = .error e ∨
    ∃ document collision, load service.1 (Config.location directory service.2) = .ok document ∧
      declaresPaths document = true ∧ e = .collision collision ∧
      Plan.build ⟨service.1, Config.location directory service.2, document⟩ = .error collision

/-- A service is planned so. -/
def PlannedAs (load : Loader) (directory : Path) (service : String × Path) (plan : Plan) : Prop :=
  ∃ document, load service.1 (Config.location directory service.2) = .ok document ∧
    Plan.build ⟨service.1, Config.location directory service.2, document⟩ = .ok plan

theorem declares_eq {document : Json}
    (h : load service.1 (Config.location directory service.2) = .ok document) :
    declares load directory service = declaresPaths document := by
  rw [declares, h]
  rfl

theorem fits_or_failsWith (load : Loader) (directory : Path) (service : String × Path) :
    Fits load directory service ∨ ∃ e, FailsWith load directory service e := by
  cases hl : load service.1 (Config.location directory service.2) with
  | error e => exact .inr ⟨e, .inl hl⟩
  | ok document =>
    by_cases hd : declaresPaths document = true
    · cases hb : Plan.build ⟨service.1, Config.location directory service.2, document⟩ with
      | error collision => exact .inr ⟨_, .inr ⟨document, collision, hl, hd, rfl, hb⟩⟩
      | ok plan => exact .inl ⟨document, hl, fun _ => ⟨plan, hb⟩⟩
    · exact .inl ⟨document, hl, fun h => absurd h hd⟩

theorem Fits.exists_plannedAs (h : Fits load directory service)
    (hd : declares load directory service = true) :
    ∃ plan, PlannedAs load directory service plan := by
  obtain ⟨document, hl, hp⟩ := h
  rw [declares_eq hl] at hd
  obtain ⟨plan, hb⟩ := hp hd
  exact ⟨plan, document, hl, hb⟩

theorem resolution_of_declaresPaths (spec : Specification) : Resolution.of spec =
    if declaresPaths spec.document then .operations spec
    else .noOperations spec.service spec.source := by
  unfold Resolution.of Specification.paths Specification.paths? declaresPaths
  cases spec.document.field? "paths" with
  | none => rfl
  | some found =>
    cases found with
    | object fields => cases fields <;> rfl
    | _ => rfl

/-- A service that declares a path gets the controller of its plan. -/
theorem addService_of_declares {plan : Plan} (hd : declares load directory service = true)
    (h : PlannedAs load directory service plan) :
    addService load backend config directory progress service = .ok { progress with
      artifacts := progress.artifacts ++
        [backend.controller config.compilation.directories.controllers plan]
      generated := progress.generated ++ [service.1]
      skippedEntries := progress.skippedEntries + plan.skipped } := by
  obtain ⟨document, hl, hb⟩ := h
  rw [declares_eq hl] at hd
  simp only [addService, hl, bind, Except.bind, resolution_of_declaresPaths, hd, if_true, hb,
    Except.mapError]
  rfl

theorem addService_of_not_declares (h : Fits load directory service)
    (hd : declares load directory service = false) :
    addService load backend config directory progress service =
      .ok { progress with skipped := progress.skipped ++ [service.1] } := by
  obtain ⟨document, hl, -⟩ := h
  rw [declares_eq hl] at hd
  simp only [addService, hl, bind, Except.bind, resolution_of_declaresPaths, hd, Bool.false_eq_true,
    if_false]
  rfl

theorem addService_of_failsWith (h : FailsWith load directory service e) :
    addService load backend config directory progress service = .error e := by
  rcases h with hl | ⟨document, collision, hl, hd, rfl, hb⟩
  · simp only [addService, hl, bind, Except.bind]
  · simp only [addService, hl, bind, Except.bind, resolution_of_declaresPaths, hd, if_true, hb,
      Except.mapError]

theorem foldlM_of_fits (h : ∀ service ∈ services, Fits load directory service) :
    ∃ plans, List.Forall₂ (PlannedAs load directory) (services.filter (declares load directory))
        plans ∧
      services.foldlM (addService load backend config directory) progress = .ok
        { artifacts := progress.artifacts ++
            plans.map (backend.controller config.compilation.directories.controllers)
          generated := progress.generated ++
            (services.filter (declares load directory)).map Prod.fst
          skipped := progress.skipped ++
            (services.filter fun service => !declares load directory service).map Prod.fst
          skippedEntries := progress.skippedEntries + (plans.map (·.skipped)).sum } := by
  induction services generalizing progress with
  | nil => exact ⟨[], .nil, by simp; rfl⟩
  | cons service rest ih =>
    obtain ⟨hfirst, hrest⟩ := List.forall_mem_cons.mp h
    rw [List.foldlM_cons]
    cases hd : declares load directory service with
    | true =>
      obtain ⟨plan, hp⟩ := hfirst.exists_plannedAs hd
      obtain ⟨plans, hplans, hrun⟩ := @ih { progress with
        artifacts := progress.artifacts ++
          [backend.controller config.compilation.directories.controllers plan]
        generated := progress.generated ++ [service.1]
        skippedEntries := progress.skippedEntries + plan.skipped } hrest
      refine ⟨plan :: plans, ?_, ?_⟩
      · rw [List.filter_cons_of_pos hd]
        exact .cons hp hplans
      · rw [addService_of_declares hd hp]
        refine hrun.trans ?_
        simp [hd, Nat.add_assoc]
    | false =>
      obtain ⟨plans, hplans, hrun⟩ :=
        @ih { progress with skipped := progress.skipped ++ [service.1] } hrest
      refine ⟨plans, ?_, ?_⟩
      · rwa [List.filter_cons_of_neg (by simp [hd])]
      · rw [addService_of_not_declares hfirst hd]
        refine hrun.trans ?_
        simp [hd]

/-- The first service that fails ends the run, whatever comes behind it. -/
theorem foldlM_of_failsWith {before after : List (String × Path)}
    (hb : ∀ s ∈ before, Fits load directory s) (h : FailsWith load directory service e) :
    (before ++ service :: after).foldlM (addService load backend config directory) progress =
      .error e := by
  -- The services before it are gone through; those behind it are not looked at.
  obtain ⟨plans, -, hrun⟩ := @foldlM_of_fits directory config backend progress load before hb
  rw [List.foldlM_append, hrun]
  simp only [bind, Except.bind, List.foldlM_cons, addService_of_failsWith h]

theorem fits_or_exists_first (load : Loader) (directory : Path) (services : List (String × Path)) :
    (∀ service ∈ services, Fits load directory service) ∨
      ∃ before service after e, services = before ++ service :: after ∧
        (∀ s ∈ before, Fits load directory s) ∧ FailsWith load directory service e := by
  induction services with
  | nil => exact .inl (List.forall_mem_nil _)
  | cons first rest ih =>
    rcases fits_or_failsWith load directory first with hf | ⟨e, he⟩
    · rcases ih with hrest | ⟨before, service, after, e, rfl, hb, he⟩
      · exact .inl (List.forall_mem_cons.mpr ⟨hf, hrest⟩)
      · exact .inr ⟨first :: before, service, after, e, rfl, List.forall_mem_cons.mpr ⟨hf, hb⟩, he⟩
    · exact .inr ⟨[], first, rest, e, rfl, List.forall_mem_nil _, he⟩

/-- The file for an artifact, for a project in a directory. -/
def fileOf (directory : Path) (artifact : Artifact) : OutputFile :=
  ⟨directory.join artifact.path, TypeScript.text artifact⟩

theorem renderFiles_eq (directory : Path) (artifacts : List Artifact) :
    artifacts.mapM (renderFile .typeScript directory) = .ok (artifacts.map (fileOf directory)) := by
  induction artifacts with
  | nil => rfl
  | cons artifact rest ih =>
    have hfile : renderFile .typeScript directory artifact = .ok (fileOf directory artifact) := by
      have hrender : Backend.typeScript.renderer.render artifact = .ok (TypeScript.text artifact) :=
        TypeScript.render_eq artifact
      rw [renderFile, hrender]
      rfl
    rw [List.mapM_cons, hfile, ih]
    rfl

/-- The text of the controller of a service, by its name and its document. -/
def controllerText (name : String) (document : Json) : String :=
  match Plan.build ⟨name, ⟨""⟩, document⟩ with
  | .ok plan => TypeScript.text (TypeScript.controllerArtifact ⟨""⟩ plan)
  | .error _ => ""

theorem text_controllerArtifact {controllers : Path} {plan : Plan} {document : Json} {name : String}
    {source : Path} (h : Plan.build ⟨name, source, document⟩ = .ok plan) :
    TypeScript.text (TypeScript.controllerArtifact controllers plan) =
      controllerText name document := by
  have hb : Plan.build ⟨name, ⟨""⟩, document⟩ = .ok plan := h
  rw [controllerText, hb]
  rfl

/-- What a run over the services of a configuration has led to. -/
structure Summary (load : Loader) (directory : Path) (config : Config) (files : List OutputFile)
    (report : Report) : Prop where
  generated : report.generated =
    (config.services.filter (declares load directory)).map Prod.fst
  skipped : report.skipped =
    (config.services.filter fun service => !declares load directory service).map Prod.fst
  written : report.written = files.map (·.path)
  paths : report.written =
    ("interfaces.ts" :: "validation.ts" :: report.generated.map (· ++ ".controller.ts")).map
      fun name => directory.join (config.compilation.directories.controllers.join ⟨name⟩)
  contents : List.Forall₂ (fun service file => ∃ document,
      load service.1 (Config.location directory service.2) = .ok document ∧
        file.content = controllerText service.1 document)
    (config.services.filter (declares load directory)) (files.drop 2)
  skippedEntries : ∃ plans, List.Forall₂ (PlannedAs load directory)
      (config.services.filter (declares load directory)) plans ∧
    report.skippedEntries = (plans.map (·.skipped)).sum

/-- The report on artifacts for a project in a directory. -/
def reportOf (directory : Path) (existing : List Path) (progress : Progress) : Report where
  written := (progress.artifacts.map (fileOf directory)).map (·.path)
  overwritten := ((progress.artifacts.map (fileOf directory)).map (·.path)).filter
    fun path => existing.any path.same
  generated := progress.generated
  skipped := progress.skipped
  skippedEntries := progress.skippedEntries

/-- A run comes to what its services come to. -/
theorem prepareWith_eq {schema : Schema} (load : Loader)
    (hc : Config.find schema tree directory = .ok config)
    (he : existingFiles tree directory = .ok existing)
    (hl : Language.ofName? config.compilation.language = some .typeScript) :
    prepareWith load ⟨schema, .standard⟩ tree directory =
      (config.services.foldlM (addService load .typeScript config directory)
        ⟨Backend.typeScript.shared config.compilation.directories.controllers, [], [], 0⟩).map
        fun progress =>
          (progress.artifacts.map (fileOf directory), reportOf directory existing progress) := by
  have hb : Backends.standard.ofName? config.compilation.language = some .typeScript := by
    rw [Backends.ofName?, hl]
    rfl
  simp only [prepareWith, hc, he, hb, Except.mapError, bind, Except.bind, renderFiles_eq]
  cases config.services.foldlM (addService load .typeScript config directory)
    ⟨Backend.typeScript.shared config.compilation.directories.controllers, [], [], 0⟩ <;> rfl

theorem paths_of_plannedAs {plans : List Plan}
    (h : List.Forall₂ (PlannedAs load directory) services plans) (controllers : Path) :
    (plans.map (TypeScript.controllerArtifact controllers)).map (·.path) =
      services.map fun service => controllers.join ⟨service.1 ++ ".controller.ts"⟩ := by
  induction h with
  | nil => rfl
  | @cons service plan services plans hp _ ih =>
    obtain ⟨document, -, hb⟩ := hp
    have hs : plan.service = service.1 := Plan.service_of_build hb
    rw [List.map_cons, List.map_cons, List.map_cons, ih, ← hs]
    rfl

theorem contents_of_plannedAs {plans : List Plan}
    (h : List.Forall₂ (PlannedAs load directory) services plans) (controllers : Path) :
    List.Forall₂ (fun service file => ∃ document,
        load service.1 (Config.location directory service.2) = .ok document ∧
          file.content = controllerText service.1 document) services
      ((plans.map (TypeScript.controllerArtifact controllers)).map (fileOf directory)) := by
  induction h with
  | nil => exact .nil
  | cons hp _ ih =>
    obtain ⟨document, hl, hb⟩ := hp
    exact .cons ⟨document, hl, text_controllerArtifact hb⟩ ih

theorem exists_summary (existing : List Path)
    (h : ∀ service ∈ config.services, Fits load directory service) :
    ∃ progress, config.services.foldlM (addService load .typeScript config directory)
        ⟨Backend.typeScript.shared config.compilation.directories.controllers, [], [], 0⟩ =
          .ok progress ∧
      Summary load directory config (progress.artifacts.map (fileOf directory))
        (reportOf directory existing progress) := by
  obtain ⟨plans, hplans, hrun⟩ := @foldlM_of_fits directory config .typeScript
    ⟨Backend.typeScript.shared config.compilation.directories.controllers, [], [], 0⟩ load _ h
  refine ⟨_, hrun, ?_⟩
  constructor
  case generated => simp [reportOf]
  case skipped => simp [reportOf]
  case written => rfl
  case paths =>
    have hpaths := paths_of_plannedAs hplans config.compilation.directories.controllers
    have hshared : (TypeScript.sharedArtifacts config.compilation.directories.controllers).map
        (·.path) = [config.compilation.directories.controllers.join ⟨"interfaces.ts"⟩,
          config.compilation.directories.controllers.join ⟨"validation.ts"⟩] := rfl
    have hfile : ∀ artifacts : List Artifact, (artifacts.map (fileOf directory)).map (·.path) =
        (artifacts.map (·.path)).map directory.join := by
      intro artifacts
      rw [List.map_map, List.map_map]
      rfl
    change (List.map (fileOf directory) (TypeScript.sharedArtifacts _ ++ _)).map (·.path) = _
    rw [hfile, List.map_append, hshared]
    refine congrArg (List.map directory.join) (congrArg _ (congrArg _ hpaths)) |>.trans ?_
    simp [reportOf]
  case contents => exact contents_of_plannedAs hplans config.compilation.directories.controllers
  case skippedEntries => exact ⟨plans, hplans, Nat.zero_add _⟩

/-- A run for TypeScript with any loader succeeds if and only if all its services fit, and then
reports what they come to. If it fails it does so with the error of the first service that does not
fit. The loader of a run is the one that reads the documents in the tree. -/
theorem prepareWith_services {schema : Schema} (load : Loader)
    (hc : Config.find schema tree directory = .ok config)
    (he : existingFiles tree directory = .ok existing)
    (hl : Language.ofName? config.compilation.language = some .typeScript) :
    ((∃ files report, prepareWith load ⟨schema, .standard⟩ tree directory = .ok (files, report)) ↔
      ∀ service ∈ config.services, Fits load directory service) ∧
    (∀ files report, prepareWith load ⟨schema, .standard⟩ tree directory = .ok (files, report) →
      Summary load directory config files report) ∧
    (∀ e, prepareWith load ⟨schema, .standard⟩ tree directory = .error e ↔
      ∃ before service after, config.services = before ++ service :: after ∧
        (∀ s ∈ before, Fits load directory s) ∧ FailsWith load directory service e) ∧
    prepare ⟨schema, .standard⟩ tree directory =
      prepareWith (.ofTree tree) ⟨schema, .standard⟩ tree directory := by
  have hrun := prepareWith_eq load hc he hl
  have hsucceeds : (∀ service ∈ config.services, Fits load directory service) →
      ∃ files report, prepareWith load ⟨schema, .standard⟩ tree directory = .ok (files, report) ∧
        Summary load directory config files report := by
    intro hfits
    obtain ⟨progress, hprogress, hsummary⟩ := exists_summary existing hfits
    rw [hprogress] at hrun
    exact ⟨_, _, hrun, hsummary⟩
  have hends : ∀ before service after e, config.services = before ++ service :: after →
      (∀ s ∈ before, Fits load directory s) → FailsWith load directory service e →
        prepareWith load ⟨schema, .standard⟩ tree directory = .error e := by
    intro before service after e hs hbefore hfails
    rw [hrun, hs, foldlM_of_failsWith hbefore hfails]
    rfl
  have heither := fits_or_exists_first load directory config.services
  refine ⟨⟨?_, ?_⟩, ?_, fun e => ⟨?_, ?_⟩, rfl⟩
  · rintro ⟨files, report, hok⟩
    rcases heither with hfits | ⟨before, service, after, e, hs, hbefore, hfails⟩
    · exact hfits
    · rw [hends before service after e hs hbefore hfails] at hok
      cases hok
  · intro hfits
    obtain ⟨files, report, hok, -⟩ := hsucceeds hfits
    exact ⟨files, report, hok⟩
  · intro files report hok
    rcases heither with hfits | ⟨before, service, after, e, hs, hbefore, hfails⟩
    · obtain ⟨files', report', hok', hsummary⟩ := hsucceeds hfits
      obtain ⟨rfl, rfl⟩ := Prod.mk.inj (Except.ok.inj (hok'.symm.trans hok))
      exact hsummary
    · rw [hends before service after e hs hbefore hfails] at hok
      cases hok
  · intro herror
    rcases heither with hfits | ⟨before, service, after, e', hs, hbefore, hfails⟩
    · obtain ⟨files, report, hok, -⟩ := hsucceeds hfits
      rw [hok] at herror
      cases herror
    · rw [hends before service after e' hs hbefore hfails] at herror
      obtain rfl := Except.error.inj herror
      exact ⟨before, service, after, hs, hbefore, hfails⟩
  · rintro ⟨before, service, after, hs, hbefore, hfails⟩
    exact hends before service after e hs hbefore hfails

def pairText : String :=
  "version: 1.0.0\ncompilation: \x7blanguage: ts, engine: \x7blib: x\x7d, directories: " ++
    "\x7brouting: r, controllers: c, useCases: u\x7d\x7d\n" ++
    "services: \x7ba: \x7bspecPath: a\x7d, b: \x7bspecPath: b\x7d\x7d\n"

def pairConfig : Config :=
  ⟨"1.0.0", ⟨"ts", "x", ⟨⟨"r"⟩, ⟨"c"⟩, ⟨"u"⟩⟩⟩, [("a", ⟨"a"⟩), ("b", ⟨"b"⟩)]⟩

def pairTree : FileTree :=
  ⟨[], [(["p"], .directory), (["haku.yml", "p"], .file pairText.toUTF8)]⟩

/-- The first service has one operation and one entry that is passed over, the second has no
paths. -/
def pairLoader : Loader := fun name _ =>
  if name = "a" then .ok (.object [("paths", .object
    [("/a", .object [("get", .object []), ("x-a", .null)])])])
  else .ok (.object [("paths", .object [])])

/-- One service is generated and one is skipped; where no document is found, the first one is
named. -/
theorem prepareWith_pairTree :
    Config.find Generator.standard.schema pairTree ⟨"p"⟩ = .ok pairConfig ∧
    existingFiles pairTree ⟨"p"⟩ = .ok [] ∧
    (∃ files report, prepareWith pairLoader .standard pairTree ⟨"p"⟩ = .ok (files, report) ∧
      report.generated = ["a"] ∧ report.skipped = ["b"] ∧ report.written =
        [⟨"p/c/interfaces.ts"⟩, ⟨"p/c/validation.ts"⟩, ⟨"p/c/a.controller.ts"⟩]) ∧
    prepareWith (.ofTree pairTree) .standard pairTree ⟨"p"⟩ =
      .error (.document "a" ⟨"p/a"⟩ (.unreadable .notFound)) := by
  have hread : pairTree.readText ((⟨"p"⟩ : Path).join ⟨"haku.yml"⟩) = .ok pairText := by
    decide +kernel
  have hfind : Config.find Generator.standard.schema pairTree ⟨"p"⟩ = .ok pairConfig := by
    rw [Config.find, Config.candidates, Config.findIn_of_readText _ hread]
    decide +kernel
  have hexisting : existingFiles pairTree ⟨"p"⟩ = .ok [] := by decide +kernel
  have hlanguage : Language.ofName? pairConfig.compilation.language = some .typeScript :=
    Config.ofName?_fileExtension .typeScript
  have hfits : ∀ service ∈ pairConfig.services, Fits pairLoader ⟨"p"⟩ service := by
    refine List.forall_mem_cons.mpr ⟨⟨_, rfl, fun _ => ⟨_, rfl⟩⟩, List.forall_mem_singleton.mpr ?_⟩
    exact ⟨_, rfl, fun h => by cases h⟩
  have hmissing : FailsWith (.ofTree pairTree) ⟨"p"⟩ ("a", ⟨"a"⟩)
      (.document "a" ⟨"p/a"⟩ (.unreadable .notFound)) := .inl (by decide +kernel)
  obtain ⟨hsucceeds, hsummary, -⟩ := prepareWith_services pairLoader hfind hexisting hlanguage
  obtain ⟨-, -, hfails, -⟩ := prepareWith_services (.ofTree pairTree) hfind hexisting hlanguage
  obtain ⟨files, report, hrun⟩ := hsucceeds.mpr hfits
  have h := hsummary files report hrun
  have hgenerated : report.generated = ["a"] := h.generated
  refine ⟨hfind, hexisting, ⟨files, report, hrun, hgenerated, h.skipped, ?_⟩, ?_⟩
  · rw [h.paths, hgenerated]
    decide +kernel
  · exact (hfails _).mpr ⟨[], _, _, rfl, List.forall_mem_nil _, hmissing⟩

end Scaffold.Generator
