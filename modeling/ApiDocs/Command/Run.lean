import ApiDocs.Command.Usage
import ApiDocs.Config.File
import ApiDocs.Documentation.File
import ApiDocs.Markdown.Page
import ApiDocs.Metadata.Provider

namespace ApiDocs.Command

/-! Runs: settings, documentation and types are read in this order, then the page is
written.  The first failure ends a run before anything is written. -/

inductive Failure where
  | nullInPath
  | namelessConfig
  | config (path : Path) (error : LoadError Config.FileError)
  | documentation (path : Path) (error : LoadError Documentation.FileError)
  | metadata (path : Path) (error : LoadError Metadata.FileError)
  | output (path : Path) (fault : AccessFault)

namespace Failure

def message : Failure → String
  | nullInPath => "embedded null byte"
  | namelessConfig => "expected str, bytes or os.PathLike object, not list"
  | config path error => Config.loadMessage path error
  | documentation path error => Documentation.loadMessage path error
  | metadata path error => Metadata.loadMessage path error
  | output path fault => fault.message path

/-- Whether a run answers for a failure with a message and a code.  All others cut it short,
but those of metadata that are not told may also be answered for, or be none. -/
def isReported : Failure → Bool
  | nullInPath => false
  | namelessConfig => false
  | documentation _ (.unusable (.xml failure)) => !failure.isUnforeseen
  | metadata _ (.unusable error) => error.isTold && !error.isUnforeseen
  | _ => true

end Failure

/-- What a run shows, and its code unless a failure cuts it short. -/
structure Report where
  output : List String
  log : List LogRecord
  errors : List String
  ending : Except Failure Nat

namespace Report

def ofHelp (error? : Option UsageError) : Report :=
  ⟨help error?, [], [], .ok (if error?.isSome then 1 else 0)⟩

def ofArgumentError (error : ArgumentError) : Report :=
  ⟨[], [], complaint error, .ok 2⟩

def ofLines (lines : List String) : String :=
  String.join (lines.map (· ++ "\n"))

def outputText (report : Report) : String :=
  ofLines report.output

def errorText (report : Report) : String :=
  ofLines (report.log.map LogRecord.line ++ report.errors)

end Report

namespace Request

def level (request : Request) : Level :=
  if request.verbose then .debug else .warning

def loadConfig (tree : FileTree) (directory : Place) (request : Request) :
    Except Failure Config :=
  match request.config with
  | .standard => .ok Config.standard
  | .nameless => .error .namelessConfig
  | .file path =>
      let path := Path.ofText path
      (Config.load tree directory path).mapError (.config path)

def loadIndex (tree : FileTree) (directory : Place) (config : Config) (request : Request) :
    Outcome LogRecord Failure Documentation.Index :=
  let path := Path.ofPlace (request.documentationPlace directory)
  ((Documentation.load config tree directory path).mapError
    (.documentation path)).mapNotices Documentation.Notice.logged

def loadTypes (tree : FileTree) (directory : Place) (request : Request) :
    Outcome LogRecord Failure (List Metadata.ExportedType) :=
  let path := Path.ofPlace (request.metadataPlace directory)
  ((Metadata.load tree directory path).mapError
    (.metadata path)).mapNotices Metadata.Notice.logged

def page (tree : FileTree) (directory : Place) (request : Request) :
    Outcome LogRecord Failure String :=
  (Outcome.ofExcept (request.loadConfig tree directory)).bind fun config =>
    (request.loadIndex tree directory config).bind fun index =>
      (request.loadTypes tree directory).bind fun types =>
        ⟨(Markdown.renderNotices config index types).map Markdown.Notice.logged,
          .ok (Markdown.render config index types)⟩

def carryOut (tree : FileTree) (directory : Place) (request : Request) :
    FileTree × Outcome LogRecord Failure Unit :=
  match request.page tree directory with
  | ⟨log, .error failure⟩ => (tree, ⟨log, .error failure⟩)
  | ⟨log, .ok text⟩ =>
      match tree.save (request.outputPlace directory) (Text.encodeUtf8 text) with
      | (tree, none) => (tree, ⟨log, .ok ()⟩)
      | (tree, some (place, fault)) =>
          (tree, ⟨log, .error (.output (Path.ofPlace place) fault)⟩)

def run (tree : FileTree) (directory : Place) (request : Request) : FileTree × Report :=
  if request.hasNull then
    (tree, ⟨[], [], [], .error .nullInPath⟩)
  else
    let (tree, outcome) := request.carryOut tree directory
    let log := LogRecord.atLeast request.level outcome.notices
    let start := s!"Writing documentation to {request.output}"
    match outcome.result with
    | .ok () => (tree, ⟨[start, "Done."], log, [], .ok 0⟩)
    | .error failure =>
        if failure.isReported then
          (tree, ⟨[start], log, [s!"Error: {failure.message}"], .ok 1⟩)
        else
          (tree, ⟨[start], log, [], .error failure⟩)

end Request

def run (tree : FileTree) (directory : Place) (words : List String) : FileTree × Report :=
  if asksForHelp words then
    (tree, .ofHelp none)
  else
    match Arguments.ofWords words with
    | .error error => (tree, .ofArgumentError error)
    | .ok arguments =>
        match arguments.request with
        | .error error => (tree, .ofHelp (some error))
        | .ok request => request.run tree directory

def places (directory : Place) (words : List String) : List Place :=
  match Arguments.ofWords words with
  | .error _ => []
  | .ok arguments =>
      match arguments.request with
      | .error _ => []
      | .ok request => request.places directory

end ApiDocs.Command
