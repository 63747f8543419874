import ApiDocs.Command.Run

namespace ApiDocs.Disk

def probe (place : Place) : IO (Option FileNode) := do
  try
    let bytes ← IO.FS.readBinFile (Path.ofPlace place).text
    return some (.file bytes.toList)
  catch error =>
    match error with
    | .inappropriateType .. => return some .directory
    | _ => return none

def snapshot (directory : Place) (words : List String) : IO FileTree := do
  let mut tree := FileTree.empty
  for place in Command.places directory words do
    match ← probe place with
    | some node => tree := tree.insert place node
    | none => pure ()
  return tree

def store (place : Place) (node : FileNode) : IO Unit :=
  let path := (Path.ofPlace place).text
  match node with
  | .file bytes => IO.FS.writeBinFile path ⟨bytes.toArray⟩
  | .directory => IO.FS.createDirAll path

end ApiDocs.Disk

def main (words : List String) : IO UInt32 := do
  let here ← IO.currentDir
  let directory := (ApiDocs.Path.ofText here.toString).segments
  let tree ← ApiDocs.Disk.snapshot directory words
  let (changed, report) := ApiDocs.Command.run tree directory words
  for (place, node) in tree.addedSince changed do
    ApiDocs.Disk.store place node
  IO.print report.outputText
  IO.eprint report.errorText
  match report.ending with
  | .ok code => return code.toUInt32
  | .error failure =>
      IO.eprintln failure.message
      return 1
