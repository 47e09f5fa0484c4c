import Scaffold.Project

/-! The command line: `generate` and `check` for the project in a directory. Options may stand in
front of the command or behind it, and those behind it count. -/
namespace Scaffold.CommandLine

/-- What to do with a project. -/
inductive Action where
  | generate
  | check
  deriving DecidableEq, Repr

def Action.ofName? : String → Option Action
  | "generate" => some .generate
  | "check" => some .check
  | _ => none

/-- The options on one side of the command. -/
structure Options where
  directory : Option String := none
  verbose : Bool := false
  deriving DecidableEq, Repr

inductive Request where
  | run (action : Action) (directory : Option Path) (verbose : Bool)
  | version
  | help
  | malformed
  deriving DecidableEq, Repr

inductive Reading where
  | options (options : Options)
  /-- The next argument is the directory. -/
  | awaits (options : Options)
  | stop (request : Request)
  deriving DecidableEq, Repr

/-- The options with a directory, which must be given once and have a name. -/
def setDirectory (options : Options) (text : String) : Reading :=
  if text.isEmpty || options.directory.isSome then .stop .malformed
  else .options { options with directory := some text }

/-- The options with the verbose flag, which must be given once. -/
def setVerbose (options : Options) : Reading :=
  if options.verbose then .stop .malformed else .options { options with verbose := true }

def readShort (inFront : Bool) : List Char → Options → Reading
  | [], options => .options options
  | 'v' :: rest, options =>
    match setVerbose options with
    | .options options => readShort inFront rest options
    | reading => reading
  | 'C' :: rest, options =>
    match rest with
    | [] => .awaits options
    | '=' :: text => setDirectory options (String.ofList text)
    | text => setDirectory options (String.ofList text)
  | 'h' :: _, _ => .stop .help
  | 'V' :: _, _ => .stop (if inFront then .version else .malformed)
  | _, _ => .stop .malformed

def readLong (inFront : Bool) (text : String) (options : Options) : Reading :=
  let cs := text.toList
  let name := String.ofList (cs.takeWhile (· ≠ '='))
  match name, cs.dropWhile (· ≠ '=') with
  | "working-dir", [] => .awaits options
  | "working-dir", _ :: value => setDirectory options (String.ofList value)
  | "verbose", [] => setVerbose options
  | "help", [] => .stop .help
  | "version", [] => .stop (if inFront then .version else .malformed)
  | _, _ => .stop .malformed

def readOption? (inFront : Bool) (argument : String) (options : Options) : Option Reading :=
  match argument.toList with
  | '-' :: '-' :: name => some (readLong inFront (String.ofList name) options)
  | '-' :: c :: rest => some (readShort inFront (c :: rest) options)
  | _ => none

/-- The request for an action; the options behind the command win. -/
def request (action : Action) (front back : Options) : Request :=
  .run action ((back.directory.or front.directory).map Path.mk) (front.verbose || back.verbose)

/-- Read arguments. The action is known once the command has been read, and the options of the
side being read come last. -/
def readArguments (command : Option (Action × Options)) (options : Options) :
    List String → Request
  | [] =>
    match command with
    | some (action, front) => request action front options
    | none => .malformed
  | "--" :: rest =>
    match command, rest with
    | some (action, front), [] => request action front options
    | _, _ => .malformed
  | argument :: rest =>
    match readOption? command.isNone argument options with
    | some (.options options) => readArguments command options rest
    | some (.stop request) => request
    | some (.awaits options) =>
      match rest with
      | [] => .malformed
      | value :: rest =>
        if (readOption? true value options).isSome then .malformed
        else
          match setDirectory options value with
          | .options options => readArguments command options rest
          | _ => .malformed
    | none =>
      match command, Action.ofName? argument with
      | none, some action => readArguments (some (action, options)) {} rest
      | none, none =>
        if argument = "help" && (rest.isEmpty ||
            rest.length = 1 && ["generate", "check", "help"].contains (rest.headD "")) then .help
        else .malformed
      | some _, _ => .malformed

def read (arguments : List String) : Request := readArguments none {} arguments

/-- What is shown for a run: the code to exit with, the text of the output, and the report of an
error. -/
structure Outcome where
  exit : Nat
  output : String
  error : Option String
  deriving DecidableEq, Repr

/-- The line for a written path, seen from the project's directory. -/
def writtenLine (verb : String) (directory : Path) (report : Report) (path : Path) : String :=
  verb ++ " " ++ ((Path.stripBase? directory path).getD path).text ++
    if report.overwritten.any path.same then " (overwrite)" else ""

def skippedLine (service : String) : String :=
  "Skipped service '" ++ service ++ "': no operations declared"

def countLine (report : Report) : String :=
  toString report.generated.length ++ " controller(s) from " ++
    toString (report.generated.length + report.skipped.length) ++ " service(s)"

def listing (verb : String) (directory : Path) (report : Report) : List String :=
  report.written.map (writtenLine verb directory report) ++
    report.skipped.map skippedLine ++ [countLine report]

def indented (indent : String) (text : String) : String :=
  String.ofList (text.toList.flatMap fun c => if c = '\n' then c :: indent.toList else [c])

/-- The report of an error. A cause behind it that is told once more makes it a numbered list. -/
def errorReport (action : Action) (e : GenerationError) : String :=
  let failed := match action with
    | .generate => "Generation failed"
    | .check => "Check failed"
  let lead := "Error: " ++ failed ++ "\n\nCaused by:\n    "
  match e.fileError? with
  | none => lead ++ indented "    " e.message
  | some cause =>
    lead ++ "0: " ++ indented "       " e.message ++ "\n    1: " ++
      indented "       " cause.message

def outcome (action : Action) (verb : String) (directory : Path) :
    Except GenerationError Report → Outcome
  | .ok report =>
    ⟨0, String.join ((listing verb directory report).map (· ++ "\n")), none⟩
  | .error e => ⟨1, "", some (errorReport action e)⟩

/-- The directory at which relative paths start, as a path. -/
def currentDirectory (tree : FileTree) : Path :=
  ⟨"/" ++ "/".intercalate tree.current.reverse⟩

/-- Answer a request. -/
def run (g : Generator) (tree : FileTree) : Request → FileTree × Outcome
  | .run action directory _ =>
    let directory := directory.getD (currentDirectory tree)
    match action with
    | .generate =>
      let (tree, result) := g.generate tree directory
      (tree, outcome .generate "Wrote" directory result)
    | .check => (tree, outcome .check "Would write" directory (g.check tree directory))
  | .version => (tree, ⟨0, "haku 0.1.0\n", none⟩)
  | .help => (tree, ⟨0, "Usage: haku [OPTIONS] <COMMAND>\n", none⟩)
  | .malformed => (tree, ⟨2, "", none⟩)

end Scaffold.CommandLine
