/-!
# Tables of settings

A TOML document is a table of named values, some of which are tables again. Its lines define the values
one after the other, and nothing may be defined twice.

* `Value`, `Entries` : values and the entries of a table, in the order of their definition.
* `Origin` : how a table came to be, which decides what may still be added to it.
* `Line` : what one line of a document defines.
* `ofLines?` : the entries that lines define.
-/

namespace Worksheet.Toml

inductive Origin
  /-- By a header of its own. -/
  | header
  /-- By the header of a table inside it. -/
  | parent
  /-- By a dotted key. -/
  | dotted
  /-- As a value; nothing can be added to it. -/
  | inline
  deriving DecidableEq, Repr

inductive Value
  | text (s : String)
  | int (n : Int)
  | bool (b : Bool)
  /-- A float, a date or a time; which one is not kept. -/
  | other
  | array (items : List Value)
  | table (origin : Origin) (entries : List (String × Value))
  /-- Tables under headers in double brackets, the latest first. -/
  | tables (items : List Value)
  deriving Inhabited

abbrev Entries := List (String × Value)

def put (key : String) (v : Value) : Entries → Entries
  | [] => [(key, v)]
  | (k, w) :: es => if k = key then (key, v) :: es else (k, w) :: put key v es

/-- Changes the entries of the table that a path leads to. Tables that do not exist yet are added on the
way. -/
def inTable (change : Entries → Option Entries) : List String → Entries → Option Entries
  | [], es => change es
  | k :: ks, es =>
    match es.lookup k with
    | none => (inTable change ks []).map fun t => put k (.table .parent t) es
    | some (.table .inline _) => none
    | some (.table origin t) => (inTable change ks t).map fun t => put k (.table origin t) es
    | some (.tables (.table origin t :: earlier)) =>
      (inTable change ks t).map fun t => put k (.tables (.table origin t :: earlier)) es
    | some _ => none

/-- Adds a value under a dotted key. The tables on the way come from dotted keys themselves. -/
def assign (v : Value) : List String → Entries → Option Entries
  | [], _ => none
  | [k], es => if (es.lookup k).isSome then none else some (es ++ [(k, v)])
  | k :: ks, es =>
    match es.lookup k with
    | none => (assign v ks []).map fun t => put k (.table .dotted t) es
    | some (.table .dotted t) => (assign v ks t).map fun t => put k (.table .dotted t) es
    | some _ => none

/-- Adds a table under its header; it may so far be there as a parent only. -/
def declareTable (k : String) (es : Entries) : Option Entries :=
  match es.lookup k with
  | none => some (put k (.table .header []) es)
  | some (.table .parent t) => some (put k (.table .header t) es)
  | some _ => none

def declareElement (k : String) (es : Entries) : Option Entries :=
  match es.lookup k with
  | none => some (put k (.tables [.table .header []]) es)
  | some (.tables earlier) => some (put k (.tables (.table .header [] :: earlier)) es)
  | some _ => none

inductive Line
  /-- A header; `element` says whether its brackets are doubled. -/
  | header (path : List String) (element : Bool)
  | value (path : List String) (v : Value)

/-- The entries of a document while it is read, and the path of the header that lines stand under. -/
structure Draft where
  entries : Entries
  path : List String

def Draft.add (d : Draft) : Line → Option Draft
  | .header path element =>
    match path.getLast? with
    | none => none
    | some k =>
      (inTable (if element then declareElement k else declareTable k) path.dropLast d.entries).map
        fun es => ⟨es, path⟩
  | .value path v =>
    (inTable (assign v path) d.path d.entries).map fun es => { d with entries := es }

def ofLines? (lines : List Line) : Option Entries :=
  (lines.foldlM Draft.add ⟨[], []⟩).map Draft.entries

end Worksheet.Toml
