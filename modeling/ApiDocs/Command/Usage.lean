import ApiDocs.Command.Request

namespace ApiDocs.Command

/-! The texts that are shown in place of a run. -/

def version : String := "0.1.0"

def banner : String :=
  s!"xmldoc-md v{version}"

def usage : String :=
  "Usage: xmldoc-md [--config PATH] [-v] <documentation.xml> <metadata.yml> <output.md>\n" ++
  "This will take the XML documentation file and the matching type metadata\n" ++
  "and transform the included documentation into human-readable Markdown.\n" ++
  "All documentation will be written to <output.md>."

def helpWords : List String :=
  ["--help", "-h", "/h", "-?", "/?", "--version"]

def asksForHelp (words : List String) : Bool :=
  words.head?.any helpWords.contains

def help (error? : Option UsageError) : List String :=
  banner :: ((error?.map fun error => s!"Error: {error.message}").toList ++ [usage])

def complaint (error : ArgumentError) : List String :=
  ["usage: xmldoc-md [--config CONFIG] [-v] [paths ...]",
    s!"xmldoc-md: error: {error.message}"]

end ApiDocs.Command
