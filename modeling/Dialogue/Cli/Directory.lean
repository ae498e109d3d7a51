import Dialogue.Config.Load
import Dialogue.Text.Split
/-!
# Directories

A directory is a snapshot of files and folders by place, which is all that the program sees of the
disk.  A path is walked part by part from the working folder or from the root, and before each part
the place reached so far has to be a folder: also before a dot, before two dots, and before the
nothing that follows a separator at the end.
-/

namespace Dialogue.Cli

/-- A file with its bytes, or a folder. -/
inductive Node where
  | folder
  | file (content : List UInt8)

/-- A place by the names that lead to it: from the working folder down, from a folder above it, each
of which is a double dot, or from the root, which is the separator. -/
abbrev Place := List String

/-- The listed nodes. -/
structure Directory where
  nodes : List (Place × Node)

/-- The most bytes of one name. -/
def nameLimit : Nat := 255

/-- The most bytes of a whole path. -/
def pathLimit : Nat := 4095

/-- Whether a part of a path leads to a name, and not back or nowhere. -/
def isName (part : String) : Bool :=
  part != "" && part != "." && part != ".."

/-- Where a part of a path leads from a place. -/
def descend (place : Place) (part : String) : Place :=
  if isName part then place ++ [part]
  else if part = ".." then
    match place.getLast? with
    | none | some ".." => place ++ [".."]
    | some "/" => place
    | some _ => place.dropLast
  else place

/-- Where a path starts, and its parts. -/
def route (path : String) : Place × List String :=
  let parts (text : List Char) := (Text.split '/' text).map String.ofList
  match path.toList with
  | '/' :: rest => (["/"], parts rest)
  | text => ([], parts text)

namespace Directory

def empty : Directory := ⟨[]⟩

/-- List a node, in place of what was listed there. -/
def putAt (directory : Directory) (place : Place) (node : Node) : Directory :=
  ⟨(place, node) :: directory.nodes.filter (·.1 != place)⟩

/-- List a node at the place that a path names. -/
def put (directory : Directory) (path : String) (node : Node) : Directory :=
  let (start, parts) := route path
  directory.putAt (parts.foldl descend start) node

/-- The node at a place.  The root, the working folder and those above it are there without being
listed, and so is a folder with something below it. -/
def node? (directory : Directory) (place : Place) : Option Node :=
  if place == ["/"] || place.all (· == "..") then some .folder
  else
    match directory.nodes.find? (·.1 == place) with
    | some (_, node) => some node
    | none => if directory.nodes.any (place.isPrefixOf ·.1) then some .folder else none

/-- Walk along one part of a path. -/
def step (directory : Directory) (place : Place) (part : String) : Except FileFault Place :=
  match directory.node? place with
  | none => .error .missing
  | some (.file _) => .error .notADirectory
  | some .folder =>
      if part.utf8ByteSize ≤ nameLimit then .ok (descend place part) else .error .nameTooLong

/-- The place at the end of some parts. -/
def walk (directory : Directory) (start : Place) (parts : List String) : Except FileFault Place :=
  parts.foldlM directory.step start

/-- A path that is neither empty nor too long. -/
def checkPath (path : String) : Except FileFault Unit :=
  if path = "" then .error .missing
  else if path.utf8ByteSize ≤ pathLimit then .ok ()
  else .error .nameTooLong

/-- The node at a path. -/
def find (directory : Directory) (path : String) : Except FileFault Node := do
  checkPath path
  let (start, parts) := route path
  match directory.node? (← directory.walk start parts) with
  | some node => .ok node
  | none => .error .missing

/-- The text of a file. -/
def readText (directory : Directory) (path : String) : Except FileFault String := do
  match ← directory.find path with
  | .folder => .error .isADirectory
  | .file content =>
      match Text.ofUtf8? content with
      | some text => .ok text
      | none => .error .notText

/-- What a configuration finds at a path. -/
def content (directory : Directory) (path : String) : Config.FileContent :=
  match directory.find path with
  | .error _ => .missing
  | .ok .folder => .directory
  | .ok (.file bytes) => .bytes bytes

/-- Write a file into a folder that is there.  A path that ends in a separator, in dots or at the
root can only name a folder. -/
def write (directory : Directory) (path : String) (bytes : List UInt8) :
    Except FileFault Directory := do
  checkPath path
  let (start, parts) := route path
  let named := (parts.reverse.dropWhile (· == "")).reverse
  let folder ← directory.walk start (named.dropLast ++ [""])
  match named.getLast? with
  | none => .error .isADirectory
  | some name =>
      if !isName name || named.length < parts.length then .error .isADirectory
      else
        let place ← directory.step folder name
        match directory.node? place with
        | some .folder => .error .isADirectory
        | _ => .ok (directory.putAt place (.file bytes))

end Directory

end Dialogue.Cli
