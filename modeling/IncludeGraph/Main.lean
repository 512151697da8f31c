import IncludeGraph.CommandLine.Run

/-! The command on the real disk. A run is a pure function of a file system, so the part of the disk that it
looks at is read in first: the include directories as a whole, then file after file as includes lead to them. -/

namespace IncludeGraph.CommandLine.Disk

/-- Records what stands at a place, and that directories lead there. -/
def record (files : FileSystem) (place : List String) (entry : Entry) : FileSystem :=
  let reachable := files.ensureParents place
  { reachable with entries := reachable.entries.insert place entry }

/-- The place of a path that has no links. -/
def placeOf (path : String) : List String := (Path.names path.toList).map String.ofList

/-- The path with its links resolved, if it leads anywhere. -/
def realPath? (path : String) : IO (Option String) :=
  tryCatch (do return some (toString (← IO.FS.realPath path))) fun _ => return none

/-- Reads in one entry in a directory without links, and what it leads to if it is a link. A link that leads
nowhere is left out, as is a name that nothing bears. -/
partial def readEntry (files : FileSystem) (directory name : String) : IO FileSystem := do
  let path := (← IO.currentDir) / Path.join directory name
  let place := placeOf directory ++ [name]
  let type : Option IO.FS.FileType ← tryCatch (do return some (← path.symlinkMetadata).type) fun _ => return none
  match type with
  | none => return files
  | some .dir =>
    let listable ← tryCatch (do let _ ← path.readDir; return true) fun _ => return false
    return record files place (.directory listable)
  | some .file =>
    let entry ← tryCatch (do return Entry.file (← IO.FS.readBinFile path).toList) fun _ => return Entry.locked
    return record files place entry
  | some .symlink =>
    match ← realPath? (toString path) with
    | none => return files
    | some target =>
      let files ← readEntry files (Path.dirname target) (Path.basename target)
      return record files place (.link target)
  | some .other => return record files place .socket

def readPath (files : FileSystem) (path : String) : IO FileSystem := do
  let mut files := files
  let directory ← IO.currentDir
  let mut walked := if FileSystem.isAbsolute path then "/" else toString directory
  for part in FileSystem.parts path do
    if part != "" && part != "." then
      if part != ".." then
        if let some directory ← realPath? walked then
          files ← readEntry files directory part
      walked := Path.join walked part
  return files

partial def readTree (files : FileSystem) (directory : String) : IO FileSystem := do
  let entries ← tryCatch (do return (← ((← IO.currentDir) / directory).readDir).toList) fun _ => return []
  let mut files := files
  for entry in entries do
    files ← readEntry files directory entry.fileName
    if (files.entry? (placeOf directory ++ [entry.fileName])).any (· matches .directory _) then
      files ← readTree files (Path.join directory entry.fileName)
  return files

/-- The paths that a traversal looks at: its files, and the companions that its headers could have. -/
def lookedAt (options : Options) (state : Traversal) : List String :=
  state.nodes.entries.flatMap fun (path, node) =>
    if node.kind = .header then path :: options.companionSuffixes.map (Traversal.companionPath path) else [path]

/-- Reads in what a traversal looks at, until it looks at nothing new. -/
partial def readIncludes (files : FileSystem) (request : Request) (known : List String) : IO FileSystem := do
  let .ok declared := directories request.includes | return files
  let (_, .ok index) := HeaderIndex.build files request.options.headerSuffixes declared | return files
  let root := Path.absolute files.currentPath request.root
  let (state, _) := Traversal.run ⟨files, index, request.options⟩ (.initial index) root
  let new := (lookedAt request.options state).filter (!known.contains ·)
  if new = [] then return files
  let mut files := files
  for path in new do
    files ← readPath files path
  readIncludes files request (new ++ known)

def readRequest (request : Request) : IO FileSystem := do
  let mut files := FileSystem.empty (placeOf (toString (← IO.currentDir)))
  for path in request.graphviz.toList ++ request.exportFile.toList do
    files ← readPath files path
  for directory in (directories request.includes).toOption.getD [] do
    let path := Path.absolute files.currentPath directory.path
    files ← readPath files path
    if let some real ← realPath? path then
      files ← readTree files real
  readIncludes files request []

end IncludeGraph.CommandLine.Disk

open IncludeGraph CommandLine in
/-- Runs the command with the given arguments on the real disk. The clock is not read, so that exports bear the day of
the default stamp. -/
def main (arguments : List String) : IO UInt32 := do
  let files ← match Request.ofArguments arguments with
    | .ok request => Disk.readRequest request
    | .error _ => pure (FileSystem.empty [])
  let terminal ← (← IO.getStdout).isTty
  let outcome := CommandLine.run { files } ⟨arguments, terminal, ← IO.getEnv "NO_COLOR"⟩
  IO.print outcome.out
  IO.eprint outcome.err
  for (path, text) in outcome.written.entries do
    IO.FS.writeFile path text
  return outcome.exit.toUInt32
