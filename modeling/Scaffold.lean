import Scaffold.Backend
import Scaffold.CommandLine
import Scaffold.Config.Load
import Scaffold.Error
import Scaffold.FileTree.Change
import Scaffold.FileTree.Update
import Scaffold.Json.Pointer
import Scaffold.Json.Reader
import Scaffold.Json.Writer
import Scaffold.Language
import Scaffold.Main
import Scaffold.Naming
import Scaffold.OpenApi.Load
import Scaffold.Output.Scan
import Scaffold.Output.Write
import Scaffold.Path
import Scaffold.Pattern.Reader
import Scaffold.Plan
import Scaffold.Project
import Scaffold.Schema.Reader
import Scaffold.Source.Renderer
import Scaffold.TypeScript.Controller
import Scaffold.TypeScript.Templates
import Scaffold.Url.Basic
import Scaffold.Yaml.Reader
import Scaffold.Proofs.CommandLine.Listing
import Scaffold.Proofs.Config.Acceptance
import Scaffold.Proofs.Naming.Identifiers
import Scaffold.Proofs.Naming.Segments
import Scaffold.Proofs.OpenApi.Cache
import Scaffold.Proofs.OpenApi.Cycles
import Scaffold.Proofs.OpenApi.Loading
import Scaffold.Proofs.OpenApi.Stripping
import Scaffold.Proofs.OpenApi.Successes
import Scaffold.Proofs.Output.Completeness
import Scaffold.Proofs.Output.Effect
import Scaffold.Proofs.Path.Stripping
import Scaffold.Proofs.Plan
import Scaffold.Proofs.Project.Confinement
import Scaffold.Proofs.Project.Overwriting
import Scaffold.Proofs.Project.Services
import Scaffold.Proofs.Source.Composition
import Scaffold.Proofs.TypeScript.Classes
import Scaffold.Proofs.TypeScript.Controllers
import Scaffold.Proofs.TypeScript.Names
