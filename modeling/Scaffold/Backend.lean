import Scaffold.Language
import Scaffold.TypeScript.Controller
import Scaffold.TypeScript.Templates

/-! Backends: what a language needs so that sources can be generated in it. -/
namespace Scaffold

open Source

/-- The generator of the sources of one language. -/
structure Backend where
  language : Language
  /-- The artifacts that do not depend on any service, for a directory of controllers. -/
  shared : (controllers : Path) → List Artifact
  /-- The controller of a service. -/
  controller : (controllers : Path) → Plan → Artifact
  renderer : Renderer

def Backend.typeScript : Backend where
  language := .typeScript
  shared := TypeScript.sharedArtifacts
  controller := TypeScript.controllerArtifact
  renderer := TypeScript.renderer

abbrev Backends := List Backend

namespace Backends

/-- Every backend there is. -/
def standard : Backends := [.typeScript]

def ofLanguage? (backends : Backends) (language : Language) : Option Backend :=
  List.find? (fun backend => backend.language = language) backends

def ofName? (backends : Backends) (name : String) : Option Backend :=
  (Language.ofName? name).bind backends.ofLanguage?

def languages (backends : Backends) : List Language :=
  (Language.all.filter fun language => (backends.ofLanguage? language).isSome).mergeSort
    fun a b => decide (a.name ≤ b.name)

theorem language_of_ofName? {backends : Backends} {name : String} {backend : Backend}
    (h : backends.ofName? name = some backend) :
    Language.ofName? name = some backend.language := by
  unfold ofName? ofLanguage? at h
  obtain ⟨language, hl, hb⟩ := Option.bind_eq_some_iff.1 h
  have hb : backend.language = language := by simpa using List.find?_some hb
  rw [hl, hb]

end Backends

end Scaffold
