import Scaffold.Json.Basic

/-! The verbs that name operations, and what an entry of a path item is. -/
namespace Scaffold.OpenApi

/-- The verbs for which a controller has methods. -/
inductive Verb where
  | get
  | post
  | put
  | delete
  deriving DecidableEq, Repr

namespace Verb

def all : List Verb := [.get, .post, .put, .delete]

def key : Verb → String
  | .get => "get"
  | .post => "post"
  | .put => "put"
  | .delete => "delete"

/-- The verb in capitals, as labels show it. -/
def capitals : Verb → String
  | .get => "GET"
  | .post => "POST"
  | .put => "PUT"
  | .delete => "DELETE"

/-- The verb with a given key; case matters. -/
def ofKey? (key : String) : Option Verb := all.find? (·.key = key)

theorem key_inj {v w : Verb} : v.key = w.key ↔ v = w := by
  cases v <;> cases w <;> decide

theorem ofKey?_eq_some_iff {k : String} {v : Verb} : ofKey? k = some v ↔ k = v.key := by
  constructor
  · intro h
    have := List.find?_some h
    exact (of_decide_eq_true this).symm
  · rintro rfl
    cases v <;> decide

end Verb

/-- What an entry of a path item is. -/
inductive EntryKind where
  /-- The key is no verb. -/
  | notVerb
  /-- The key is a verb, but its value is no object. -/
  | descriptionOnly
  | operation (verb : Verb)
  deriving DecidableEq, Repr

def EntryKind.of (key : String) (value : Json) : EntryKind :=
  match Verb.ofKey? key with
  | none => .notVerb
  | some verb => if value.isObject then .operation verb else .descriptionOnly

end Scaffold.OpenApi
