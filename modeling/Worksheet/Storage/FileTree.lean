/-!
# Trees of files

* `FileTree` : a file with its bytes, or a directory with its entries.
* `Path` : the names that lead to a file or directory; `Path.ofText` reads one.
* `find?`, `files` : reading.
* `makeDirectories`, `write`, `rename` : changing; a change that a file system refuses has no result.
-/

namespace Worksheet

/-- A file or a directory. -/
inductive FileTree
  | file (content : ByteArray)
  | directory (entries : List (String × FileTree))

/-- The names that lead from a directory to a file or directory in it. -/
abbrev Path := List String

def splitAtSlashes : List Char → List (List Char)
  | [] => [[]]
  | '/' :: cs => [] :: splitAtSlashes cs
  | c :: cs =>
    match splitAtSlashes cs with
    | [] => [[c]]
    | part :: parts => (c :: part) :: parts

/-- The path that a text with slashes stands for. A path that does not start where the reader stands has
`/` as its first name, and one that leads out of that directory has `..`. -/
def Path.ofText (s : String) : Path :=
  (splitAtSlashes s.toList).foldl (fun path part =>
    let name := String.ofList part
    if name = "" ∨ name = "." then path
    else if name = ".." ∧ path.getLast?.any (fun last => last != ".." && last != "/") then path.dropLast
    else path ++ [name]) (if s.toList.head? = some '/' then ["/"] else [])

namespace FileTree

instance : Inhabited FileTree := ⟨.directory []⟩

def empty : FileTree :=
  .directory []

def isName (s : String) : Bool :=
  s.utf8ByteSize ≤ 255

def put (name : String) (t : FileTree) : List (String × FileTree) → List (String × FileTree)
  | [] => [(name, t)]
  | (n, u) :: es => if n = name then (name, t) :: es else (n, u) :: put name t es

/-! ## Reading -/

def find? : Path → FileTree → Option FileTree
  | [], t => some t
  | name :: path, .directory es => (es.lookup name).bind (find? path)
  | _ :: _, .file _ => none

mutual

def files : FileTree → List (Path × ByteArray)
  | .file content => [([], content)]
  | .directory es => filesOf es

def filesOf : List (String × FileTree) → List (Path × ByteArray)
  | [] => []
  | (name, t) :: es => (files t).map (fun (path, content) => (name :: path, content)) ++ filesOf es

end

/-! ## Changing -/

def makeDirectories : Path → FileTree → Option FileTree
  | _, .file _ => none
  | [], t => some t
  | name :: path, .directory es =>
    if isName name then
      (makeDirectories path ((es.lookup name).getD empty)).map fun t => .directory (put name t es)
    else none

def inDirectory (change : List (String × FileTree) → Option (List (String × FileTree))) :
    Path → FileTree → Option FileTree
  | _, .file _ => none
  | [], .directory es => (change es).map .directory
  | name :: path, .directory es =>
    match es.lookup name with
    | some t => (inDirectory change path t).map fun t => .directory (put name t es)
    | none => none

def write (name : String) (content : ByteArray) : Path → FileTree → Option FileTree :=
  inDirectory fun es =>
    match es.lookup name with
    | some (.directory _) => none
    | _ => if isName name then some (put name (.file content) es) else none

/-- Gives a file in the directory that a path leads to another name, in the place of a file that has
it. -/
def rename (name newName : String) : Path → FileTree → Option FileTree :=
  inDirectory fun es =>
    match es.lookup name, es.lookup newName with
    | none, _ | some (.directory _), _ | _, some (.directory _) => none
    | some t, _ => some (put newName t (es.filter (·.1 != name)))

end FileTree

end Worksheet
