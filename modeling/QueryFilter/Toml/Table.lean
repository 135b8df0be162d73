/-!
# Toml tables

A Toml document is a tree of tables. How a table came about decides what may still be added to it: a table
with a header, or written inline, is finished as a whole, while tables that are only mentioned on the way to
another one stay open in the manner in which they were mentioned.
-/

namespace QueryFilter
namespace Toml

/-- How a table came about. -/
inductive Origin
  /-- It is written in braces. -/
  | inline
  /-- It has a header of its own. -/
  | header
  /-- A header names something inside it. -/
  | throughHeader
  /-- A dotted key names something inside it. -/
  | throughKey
  deriving DecidableEq, Repr

/-- A Toml value. Fractional numbers and dates are kept as they are written. -/
inductive Value
  | string (text : String)
  | integer (value : Int)
  | float (literal : String)
  | boolean (value : Bool)
  | date (literal : String)
  | array (elements : List Value)
  | table (origin : Origin) (entries : List (String × Value))
  | tables (elements : List (List (String × Value)))
  deriving Repr

/-- The entries of a table, in order. -/
abbrev Entries := List (String × Value)

namespace Entries

/-- The value under a key. -/
def get? (entries : Entries) (key : String) : Option Value :=
  (entries.find? fun entry => entry.1 == key).map Prod.snd

/-- Put a value under a key, in place if the key is present. -/
def put (entries : Entries) (key : String) (value : Value) : Entries :=
  match entries with
  | [] =>
      [(key, value)]
  | (present, old) :: rest =>
      if present = key then (key, value) :: rest else (present, old) :: put rest key value

/-- Change the last of several tables; none when there is no table or the change is refused. -/
def changeLast? (change : Entries → Option Entries) : List Entries → Option (List Entries)
  | [] =>
      none
  | [last] =>
      (change last).map fun changed => [changed]
  | first :: rest =>
      (changeLast? change rest).map (first :: ·)

/--
Add a value under a dotted key, given as the keys in front of the last one and the last one. A key is never
set twice, and a dotted key opens only tables that came about through dotted keys.
-/
def assign? (key : String) (value : Value) : List String → Entries → Option Entries
  | [], entries =>
      match entries.get? key with
      | none =>
          some (entries.put key value)
      | some _ =>
          none
  | parent :: path, entries =>
      match entries.get? parent with
      | none =>
          (assign? key value path []).map fun inner => entries.put parent (.table .throughKey inner)
      | some (.table .throughKey inner) =>
          (assign? key value path inner).map fun inner => entries.put parent (.table .throughKey inner)
      | some (.table .throughHeader inner) =>
          if path.isEmpty then
            none
          else
            (assign? key value path inner).map fun inner =>
              entries.put parent (.table .throughHeader inner)
      | some (.tables elements) =>
          if path.isEmpty then
            none
          else
            (changeLast? (assign? key value path) elements).map fun elements =>
              entries.put parent (.tables elements)
      | some _ =>
          none

/--
Change what a header names, given as the keys in front of the last one and the last one. The tables on the
way are opened as needed; of several tables under one key the last one is meant.
-/
def changeAt? (key : String) (change : Option Value → Option Value) :
    List String → Entries → Option Entries
  | [], entries =>
      (change (entries.get? key)).map fun value => entries.put key value
  | parent :: path, entries =>
      match entries.get? parent with
      | none =>
          (changeAt? key change path []).map fun inner =>
            entries.put parent (.table .throughHeader inner)
      | some (.table .inline _) =>
          none
      | some (.table origin inner) =>
          (changeAt? key change path inner).map fun inner => entries.put parent (.table origin inner)
      | some (.tables elements) =>
          (changeLast? (changeAt? key change path) elements).map fun elements =>
            entries.put parent (.tables elements)
      | some _ =>
          none

end Entries
end Toml
end QueryFilter
