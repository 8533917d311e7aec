import EntityGraph.Double
import EntityGraph.Text.Quoted
/-!
TOML documents. Tables keep the order in which their keys came up, and remember how they came about:
that decides what may still be added to them.
-/

namespace EntityGraph.Toml

inductive Origin where
  | header
  | implied
  | dotted
  | inline
  deriving DecidableEq, Repr

inductive Value where
  | text (s : String)
  | integer (n : Int)
  | float (x : Double)
  | boolean (b : Bool)
  | moment
  | array (items : List Value)
  | table (origin : Origin) (entries : List (String × Value))
  | tables (elements : List (List (String × Value)))

abbrev Entries := List (String × Value)

namespace Value

def description : Value → String
  | .text s => "string " ++ Text.Quoted.quoted s
  | .integer n => "integer `" ++ toString n ++ "`"
  | .float x => "floating point `" ++ x.text ++ "`"
  | .boolean b => "boolean `" ++ (if b then "true" else "false") ++ "`"
  | .moment | .table .. => "map"
  | .array _ | .tables _ => "sequence"

end Value

namespace Entries

def find? (key : String) : Entries → Option Value
  | [] => none
  | (k, v) :: rest => if k = key then some v else find? key rest

def replace (key : String) (value : Value) : Entries → Entries
  | [] => []
  | (k, v) :: rest => if k = key then (k, value) :: rest else (k, v) :: replace key value rest

def remove (key : String) (entries : Entries) : Entries :=
  entries.filter (·.1 ≠ key)

/-- Applies `f` to the table at the path, with the way it came about, and makes the tables on the way
that are not there. A dotted path neither opens a table that has a header, nor any path an inline one. -/
def atPath (dotted : Bool) (f : Origin → Entries → Option Entries) :
    List String → Origin → Entries → Option Entries
  | [], origin, entries => f origin entries
  | key :: path, _, entries =>
      match find? key entries with
      | none =>
          let origin := if dotted then .dotted else .implied
          (atPath dotted f path origin []).map fun inner => entries ++ [(key, .table origin inner)]
      | some (.table origin inner) =>
          if origin = .inline ∨ (dotted ∧ origin = .header) then none
          else
            (atPath dotted f path origin inner).map fun inner =>
              replace key (.table origin inner) entries
      | some (.tables elements) =>
          match elements.getLast? with
          | none => none
          | some last =>
              (atPath dotted f path .header last).map fun last =>
                replace key (.tables (elements.dropLast ++ [last])) entries
      | some _ => none

def put (path : List String) (value : Value) (entries : Entries) : Option Entries :=
  match path.getLast? with
  | none => none
  | some key =>
      let above := path.dropLast
      atPath true (fun origin inner =>
          if (origin == .dotted) == above.isEmpty || (find? key inner).isSome then none
          else some (inner ++ [(key, value)]))
        above .header entries

/-- Opens the table of a header. One that was only implied so far moves to the end. -/
def openTable (path : List String) (entries : Entries) : Option Entries :=
  match path.getLast? with
  | none => none
  | some key =>
      atPath false (fun _ inner =>
          match find? key inner with
          | none => some (inner ++ [(key, .table .header [])])
          | some (.table .implied old) => some (remove key inner ++ [(key, .table .header old)])
          | some _ => none)
        path.dropLast .header entries

def openElement (path : List String) (entries : Entries) : Option Entries :=
  match path.getLast? with
  | none => none
  | some key =>
      atPath false (fun _ inner =>
          match find? key inner with
          | none => some (inner ++ [(key, .tables [[]])])
          | some (.tables elements) => some (replace key (.tables (elements ++ [[]])) inner)
          | some _ => none)
        path.dropLast .header entries

end Entries

structure Draft where
  root : Entries
  here : List String

namespace Draft

def empty : Draft := ⟨[], []⟩

def put (d : Draft) (path : List String) (value : Value) : Option Draft :=
  (Entries.atPath false (fun _ inner => inner.put path value) d.here .header d.root).map fun root =>
    { d with root }

def openTable (d : Draft) (path : List String) : Option Draft :=
  (d.root.openTable path).map fun root => ⟨root, path⟩

def openElement (d : Draft) (path : List String) : Option Draft :=
  (d.root.openElement path).map fun root => ⟨root, path⟩

end Draft

end EntityGraph.Toml
