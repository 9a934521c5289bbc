import Worksheet.Address.CellRef

/-!
# Failures

Why a sheet cannot be opened, changed or saved.

* `Failure` : the causes.
* `Failure.message` : what is said about one. What the system, a snapshot or settings have to say in
  addition is left out.
-/

namespace Worksheet

inductive SettingsFault
  /-- The text is no document of settings. -/
  | malformed
  /-- The file has this many bytes, which is more than it may have. -/
  | tooLarge (size limit : Nat)
  deriving DecidableEq, Repr

/-- Why an operation on a sheet fails. -/
inductive Failure
  /-- A file cannot be read or written. -/
  | io
  /-- A stored sheet is no snapshot. -/
  | snapshot
  | settings (path : String) (fault : SettingsFault)
  | invalidCellRef (name : String)
  | headerCell (c : Coord)
  | outsideExtent (c : Coord) (extent : Extent)
  | storedCellOutOfBounds (c : Coord) (limit : Extent)
  | invalidKey (key : String)
  deriving DecidableEq, Repr

def SettingsFault.message : SettingsFault → String
  | malformed => "TOML parse error"
  | tooLarge size limit =>
    "file too large (" ++ toString size ++ " bytes, max " ++ toString limit ++ ")"

namespace Failure

def message : Failure → String
  | io => "IO error: "
  | snapshot => "Snapshot error: "
  | settings path fault => "Config error in " ++ path ++ ": " ++ fault.message
  | invalidCellRef name => "Invalid cell reference: " ++ name
  | headerCell c => "Cell " ++ c.name ++ " is a header and cannot hold a value"
  | outsideExtent c extent => "Cell " ++ c.name ++ " is outside the grid (" ++ extent.text ++ ")"
  | storedCellOutOfBounds c limit =>
    "Stored cell " ++ c.name ++ " is outside the allowed grid (" ++ limit.text ++ ")"
  | invalidKey key => "Invalid store key: " ++ key

end Failure

end Worksheet
