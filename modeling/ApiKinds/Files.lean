/-
  Files, as far as the program needs them.

  * `Files`: how files are read, found and written, in any monad.
  * `FileTree`: files and folders held in memory, by the names on the way to them;
    `FileTree.access` reads and writes these.
  * `Config.find`, `Config.load`, `Config.writeExample`, `readSource`, `loadDocument`:
    configurations and descriptions in files.
-/
import ApiKinds.Config
import ApiKinds.Source

namespace ApiKinds

/-! ## Access to files -/

/-- How files are read, found and written. -/
structure Files (m : Type → Type) where
  /-- The bytes of a file. -/
  read? : String → m (Option (List UInt8))
  isFile : String → m Bool
  /-- There is a file or a folder. -/
  isThere : String → m Bool
  /-- Makes a folder with those around it, if need be; whether that was possible. -/
  makeFolders : String → m Bool
  /-- Writes a file into a folder that is there; whether that was possible. -/
  write : String → String → m Bool

/-! ## Files in memory -/

/-- Files and folders, by their paths from the root. -/
structure FileTree where
  files : Dict String := .empty
  folders : Dict Unit := .empty

namespace FileTree

/-- The path that names on the way make up. -/
def pathOf (names : List String) : String :=
  Text.join "/" names

def isFolder (tree : FileTree) (place : List String) : Bool :=
  place.isEmpty || tree.folders.contains (pathOf place)

/-- Goes on from a folder by the parts of a path. -/
def walk? (tree : FileTree) (place : List String) : List String → Option (List String)
  | [] => some place
  | part :: rest =>
    if !tree.isFolder place then none
    else if part == "" || part == "." then walk? tree place rest
    else if part == ".." then
      if place.isEmpty then none else walk? tree place.dropLast rest
    else walk? tree (place ++ [part]) rest

/-- The place that a path leads to; something is there only if it was made. -/
def place? (tree : FileTree) (path : String) : Option (List String) :=
  if path == "" || Text.hasPrefix "/" path then none
  else tree.walk? [] (Text.splitOn '/' path)

/-- The text of a file. -/
def text? (tree : FileTree) (path : String) : Option String :=
  (tree.place? path).bind fun place => tree.files.get? (pathOf place)

/-- There is a file or a folder. -/
def isThere (tree : FileTree) (path : String) : Bool :=
  (tree.place? path).any fun place =>
    tree.isFolder place || tree.files.contains (pathOf place)

/-- Makes the folders on the way from a place. -/
def makeFrom? (tree : FileTree) (place : List String) : List String → Option FileTree
  | [] => some tree
  | part :: rest =>
    if part == "" || part == "." then makeFrom? tree place rest
    else if part == ".." then makeFrom? tree place.dropLast rest
    else
      let place := place ++ [part]
      if tree.files.contains (pathOf place) then none
      else makeFrom? { tree with folders := tree.folders.insert (pathOf place) () } place rest

/-- Makes a folder with those around it. -/
def makeFolders? (tree : FileTree) (path : String) : Option FileTree :=
  if Text.hasPrefix "/" path then none else tree.makeFrom? [] (Text.splitOn '/' path)

/-- Writes a file into a folder that is there. -/
def write? (tree : FileTree) (path text : String) : Option FileTree := do
  let place ← tree.place? path
  if tree.isFolder place || !tree.isFolder place.dropLast then none
  else some { tree with files := tree.files.insert (pathOf place) text }

/-- Keeps a changed tree. -/
def update (change : FileTree → Option FileTree) : StateM FileTree Bool := do
  match change (← get) with
  | some tree => set tree; return true
  | none => return false

/-- Access to the files in memory. -/
def access : Files (StateM FileTree) where
  read? path := do return ((← get).text? path).map fun text => text.toUTF8.toList
  isFile path := do return ((← get).text? path).isSome
  isThere path := do return (← get).isThere path
  makeFolders path := update (·.makeFolders? path)
  write path text := update (·.write? path text)

end FileTree

/-! ## Paths -/

/-- A path without slashes at its end. -/
def withoutFinalSlashes (path : String) : String :=
  .ofList (path.toList.reverse.dropWhile (· == '/')).reverse

/-- The folder that a path lies in, or the empty text. -/
def parentFolder (path : String) : String :=
  let parts := Text.splitOn '/' (withoutFinalSlashes path)
  withoutFinalSlashes (Text.join "/" parts.dropLast)

/-- A name inside a folder. -/
def inFolder (folder name : String) : String :=
  if folder == "" || Text.hasSuffix "/" folder then folder ++ name else folder ++ "/" ++ name

/-! ## Configurations -/

section
variable {m : Type → Type} [Monad m] (files : Files m)

/-- The first file of a list that is there. -/
def firstFile : List String → m (Option String)
  | [] => return none
  | path :: rest => do
    if ← files.isFile path then return some path else firstFile rest

/-- The configuration file in a folder. -/
def Config.find (folder : String) : m (Option String) :=
  firstFile files (Config.fileNames.map (inFolder folder))

/-- The text of a file. -/
def readText (path : String) : m (Option String) := do
  let bytes ← files.read? path
  return bytes.bind fun bytes => String.fromUTF8? ⟨bytes.toArray⟩

/-- The configuration in a file. -/
def Config.load (path : String) : m (Except Failure Config) := do
  match ← readText files path with
  | some text => return Config.ofText text
  | none => return .error (.config (.unreadable path))

/-- Writes a new configuration file, with the folder for it, but over no other file. -/
def Config.writeExample (path : String) : m (Except Failure Unit) := do
  if ← files.isThere path then return .error (.config (.alreadyExists path))
  else
    let folder := parentFolder path
    let made ← if folder == "" then pure true else files.makeFolders folder
    if made then
      if ← files.write path Config.exampleText then return .ok () else return .error (.file path)
    else return .error (.file folder)

/-! ## Descriptions -/

/-- Whether a location is a web address, which is not read. -/
def isWebAddress (location : String) : Bool :=
  Text.hasPrefix "http://" location || Text.hasPrefix "https://" location

/-- The bytes of a description. -/
def readSource (location : String) : m (Except Failure (List UInt8)) := do
  if isWebAddress location then return .error (.file location)
  else
    match ← files.read? location with
    | some bytes => return .ok bytes
    | none => return .error (.file location)

/-- The checked model of a description. -/
def loadDocument (location : String) : m (Except Failure Api.Document) := do
  return (← readSource files location).bind Api.Document.load

end

end ApiKinds
