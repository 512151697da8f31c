import IncludeGraph.FileSystem.Walk
import IncludeGraph.IncludeDirectory
import IncludeGraph.Log

/-! The index of the headers below declared directories, by the names that include them. Of two headers with
one name the later counts. -/

namespace IncludeGraph

/-- Paths of headers by include name, and the directories they were found below. -/
structure HeaderIndex where
  headers : Table String String := {}
  directories : List String := []
  deriving DecidableEq, Repr

namespace HeaderIndex

/-- Why a declared directory cannot be indexed. -/
inductive Refusal where
  | notFound (declared : String)
  | unlistable (declared path : String) (fault : Fault)
  deriving DecidableEq, Repr

def Refusal.message : Refusal → String
  | notFound declared => "Include directory not found: " ++ declared
  | unlistable declared path fault => "Cannot read include directory " ++ declared ++ ": " ++ fault.message path

/-- The path of the header with an include name. -/
def find? (index : HeaderIndex) (name : String) : Option String := index.headers.find? name

/-- The include names with their paths, in ascending order of names. -/
def items (index : HeaderIndex) : List (String × String) :=
  (Text.ascending index.headers.keys).filterMap fun name => (index.find? name).map (name, ·)

def describe (index : HeaderIndex) : String :=
  "IncludeDirectoryIndex(headers=" ++ toString index.headers.size
    ++ ", directories=" ++ toString index.directories.length ++ ")"

/-- Does a file name end with one of the suffixes? -/
def hasSuffix (suffixes : List String) (path : String) : Bool :=
  suffixes.any fun suffix => suffix.toList.isSuffixOf (Path.basename path).toList

/-- Told when a name goes over to another header. -/
def overridden (name path previous : String) : Log.Record :=
  ⟨.debug, .index, "Include name '" ++ name ++ "' now maps to " ++ path ++ " (was " ++ previous ++ ")"⟩

/-- Enters a header under its include name. -/
def enter (shorthand : String) (headers : Table String String) (header : FileSystem.Found) :
    List Log.Record × Table String String :=
  let name := IncludeDirectory.includeName shorthand header.relative
  let told := match headers.find? name with
    | some previous => if previous = header.path then [] else [overridden name header.path previous]
    | none => []
  (told, headers.insert name header.path)

/-- Enters headers one after the other. -/
def enterAll (shorthand : String) (headers : Table String String) :
    List FileSystem.Found → List Log.Record × Table String String
  | [] => ([], headers)
  | header :: rest =>
    let (told, entered) := enter shorthand headers header
    let (later, final) := enterAll shorthand entered rest
    (told ++ later, final)

/-- Indexes the headers below one more directory. -/
def addDirectory (files : FileSystem) (suffixes : List String) (index : HeaderIndex) (directory : IncludeDirectory) :
    List Log.Record × Except Refusal HeaderIndex :=
  let path := Path.absolute files.currentPath directory.path
  if !files.isDirectory path then ([], .error (.notFound directory.path))
  else
    let survey := files.walk path
    let found := survey.files.filter (hasSuffix suffixes ·.path)
    let (told, headers) := enterAll directory.shorthand index.headers found
    match survey.stopped with
    | some (place, fault) => (told, .error (.unlistable directory.path place fault))
    | none =>
      (told ++ [⟨.info, .index, "Indexed " ++ toString found.length ++ " headers in " ++ path⟩],
        .ok ⟨headers, index.directories ++ [path]⟩)

/-- Indexes the headers below directories in the given order, up to the first that is refused. -/
def addDirectories (files : FileSystem) (suffixes : List String) (index : HeaderIndex) :
    List IncludeDirectory → List Log.Record × Except Refusal HeaderIndex
  | [] => ([], .ok index)
  | directory :: rest =>
    match addDirectory files suffixes index directory with
    | (told, .error refusal) => (told, .error refusal)
    | (told, .ok index) =>
      let (later, result) := addDirectories files suffixes index rest
      (told ++ later, result)

def build (files : FileSystem) (suffixes : List String) (directories : List IncludeDirectory) :
    List Log.Record × Except Refusal HeaderIndex :=
  addDirectories files suffixes {} directories

end HeaderIndex

end IncludeGraph
