import Scaffold.OpenApi.Document
import Scaffold.Proofs.Json.Reading
import Scaffold.Proofs.Path.Components
import Scaffold.Proofs.Yaml.Reading

/-! Documents: no object has one key twice, whatever the format, and the path counts only by its
components. -/
namespace Scaffold.OpenApi

theorem read_of_readDocument {path : Path} {content : String} {document : Json}
    (h : readDocument path content = .ok document) :
    Json.read content = .ok document ∨ Yaml.read .typed content = .ok document := by
  unfold readDocument at h
  split at h
  · exact .inl (Except.eq_ok_of_mapError_eq_ok h)
  · exact .inr (Except.eq_ok_of_mapError_eq_ok h)
  · exact .inr (Except.eq_ok_of_mapError_eq_ok h)
  · split at h
    · next hr => exact .inl (Except.ok.inj h ▸ hr)
    · exact .inr (Except.eq_ok_of_mapError_eq_ok h)

/-- No object of a document has one key twice. -/
theorem keysDistinct_of_readDocument {path : Path} {content : String} {document : Json}
    (h : readDocument path content = .ok document) : document.keysDistinct = true :=
  (read_of_readDocument h).elim Json.keysDistinct_of_read Yaml.keysDistinct_of_read

theorem readDocument_of_same {p q : Path} (h : p.same q = true) (content : String) :
    readDocument p content = readDocument q content := by
  unfold readDocument
  rw [Path.fileExtension?_of_same h]

end Scaffold.OpenApi
