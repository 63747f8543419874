import ApiDocs.Command.Arguments
import ApiDocs.FileTree

namespace ApiDocs.Command

/-! What a command line asks for once it is read, and the places that are concerned. -/

/-- What a run is asked for: three paths, the settings and how much it tells. -/
structure Request where
  config : ConfigSource
  verbose : Bool
  documentation : String
  metadata : String
  output : String
  deriving DecidableEq, Repr

inductive UsageError where
  | unrecognized (words : List String)
  | tooFew
  | tooMany
  deriving DecidableEq, Repr

def UsageError.message : UsageError → String
  | unrecognized words => s!"unrecognized arguments: " ++ " ".intercalate words
  | tooFew => "Too few arguments"
  | tooMany => "Too many arguments"

def Arguments.request (arguments : Arguments) : Except UsageError Request :=
  if !arguments.extras.isEmpty then
    .error (.unrecognized arguments.extras)
  else
    match arguments.paths with
    | [documentation, metadata, output] =>
        .ok ⟨arguments.config, arguments.verbose, documentation, metadata, output⟩
    | _ :: _ :: _ :: _ :: _ => .error .tooMany
    | _ => .error .tooFew

namespace Request

def documentationPlace (directory : Place) (request : Request) : Place :=
  Path.resolve directory (Path.ofText request.documentation)

def metadataPlace (directory : Place) (request : Request) : Place :=
  Path.resolve directory (Path.ofText request.metadata)

def outputPlace (directory : Place) (request : Request) : Place :=
  Path.resolve directory (Path.ofText request.output)

def hasNull (request : Request) : Bool :=
  [request.documentation, request.metadata, request.output].any fun text =>
    (Path.ofText text).hasNull

def places (directory : Place) (request : Request) : List Place :=
  let config := match request.config with
    | .file path => (Path.ofText path).trail directory
    | _ => []
  config ++ [request.documentationPlace directory, request.metadataPlace directory,
    request.outputPlace directory].flatMap fun place => (Path.ofPlace place).trail []

end Request

end ApiDocs.Command
