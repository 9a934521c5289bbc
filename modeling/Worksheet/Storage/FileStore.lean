import Worksheet.Storage.FileTree
import Worksheet.Storage.Store

/-!
# Stores in directories

A directory with one file for each key. A new text is first written to a file of another name, which then
takes the place of the old one, so that a reader finds the old text or the new one and no part of either.

* `FileStore` : a directory in a tree of files.
* `FileStore.isKey`, `fileName`, `pathOf` : the keys and their files.
* `FileStore.read`, `FileStore.write` : the store.
-/

namespace Worksheet

/-- A store in the directory that a path leads to. -/
structure FileStore where
  tree : FileTree
  directory : Path

namespace FileStore

def sizeLimit : Nat := 16 * 1048576

/-- Whether a text can be a key: letters, digits, `-`, `_` and `.`, not with a dot first. -/
def isKey (key : String) : Bool :=
  match key.toList with
  | [] => false
  | c :: cs => c != '.' && (c :: cs).all fun d => d.isAlphanum || d = '-' || d = '_' || d = '.'

def fileName (key : String) : String :=
  key ++ ".json"

/-- The name of the file that a new text of a key is first written to. -/
def draftName (key : String) : String :=
  fileName key ++ ".tmp"

def pathOf (s : FileStore) (key : String) : Except Failure Path :=
  if isKey key then .ok (s.directory ++ [fileName key]) else .error (.invalidKey key)

/-- The text of a file, unless it is too large or no text. -/
def textOf (content : ByteArray) : Except Failure String :=
  if sizeLimit < content.size then .error .io
  else
    match String.fromUTF8? content with
    | some text => .ok text
    | none => .error .io

def read (s : FileStore) (key : String) : Except Failure (Option String) := do
  match s.tree.find? (← s.pathOf key) with
  | none => return none
  | some (.directory _) => .error .io
  | some (.file content) => return some (← textOf content)

/-- A changed tree, or the failure of the system with the tree as it was. -/
def changed (s : FileStore) : Option FileTree → Except Failure Unit × FileStore
  | some t => (.ok (), { s with tree := t })
  | none => (.error .io, s)

def followedBy (next : FileStore → Except Failure Unit × FileStore) :
    Except Failure Unit × FileStore → Except Failure Unit × FileStore
  | (.ok (), s) => next s
  | failed => failed

def write (s : FileStore) (key text : String) : Except Failure Unit × FileStore :=
  match s.pathOf key with
  | .error f => (.error f, s)
  | .ok _ =>
    (s.changed (s.tree.makeDirectories s.directory)
      |> followedBy fun s => s.changed (s.tree.write (draftName key) text.toUTF8 s.directory))
      |> followedBy fun s => s.changed (s.tree.rename (draftName key) (fileName key) s.directory)

instance : Store FileStore where
  read := read
  write := write

end FileStore

end Worksheet
