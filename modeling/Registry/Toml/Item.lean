/-! # TOML documents

What stands under the keys of a table, and how headers and assignments build it up. A table may be
built up from several places, but only from those that its origin allows.
-/

namespace Registry.Toml

/-- How a table came to be. -/
inductive Origin where
  /-- Written as a value in braces: complete as it stands. -/
  | inline
  /-- Named by a header of its own. -/
  | header
  /-- Passed through by the header of a table below it. -/
  | implied
  /-- Passed through by a dotted key. -/
  | dotted
  deriving DecidableEq, Repr

inductive Item where
  | text (value : String)
  /-- A number or a truth value. -/
  | plain
  /-- A date, a time of day, or both. -/
  | moment
  | array (items : List Item)
  | table (origin : Origin) (entries : List (String × Item))
  /-- Tables that share a header in double brackets. -/
  | tables (members : List (List (String × Item)))
  deriving Inhabited

/-- The keys of a table with what stands under them. -/
abbrev Entries := List (String × Item)

namespace Entries

/-- Put another item under a key that is there. -/
def replace (entries : Entries) (key : String) (item : Item) : Entries :=
  entries.map fun e => if e.1 = key then (key, item) else e

/-- Put an item under a dotted key, which must be new. Of the tables on the way, those written as
    values and those with a header are closed to dotted keys, and the innermost one must owe itself
    to a dotted key. -/
def assign (item : Item) : (key : String) → (more : List String) → Entries → Option Entries
  | key, [], entries =>
      if (entries.lookup key).isSome then none else some (entries ++ [(key, item)])
  | key, next :: more, entries =>
      match entries.lookup key with
      | none => do
          return entries ++ [(key, .table .dotted (← assign item next more []))]
      | some (.table .dotted sub) => do
          return replace entries key (.table .dotted (← assign item next more sub))
      | some (.table .implied sub) =>
          if more.isEmpty then none
          else do return replace entries key (.table .implied (← assign item next more sub))
      | some (.tables members) =>
          match members.reverse with
          | last :: before =>
              if more.isEmpty then none
              else do
                return replace entries key
                  (.tables (before.reverse ++ [← assign item next more last]))
          | [] => none
      | _ => none

/-- Change the table that a path of keys leads to. Missing tables on the way are made, and of tables
    with a shared header the last one is meant. -/
def within (change : Entries → Option Entries) : List String → Entries → Option Entries
  | [], entries => change entries
  | key :: more, entries =>
      match entries.lookup key with
      | none => do return entries ++ [(key, .table .implied (← within change more []))]
      | some (.table .inline _) => none
      | some (.table origin sub) => do
          return replace entries key (.table origin (← within change more sub))
      | some (.tables members) =>
          match members.reverse with
          | last :: before => do
              return replace entries key (.tables (before.reverse ++ [← within change more last]))
          | [] => none
      | _ => none

/-- Give a table a header. It must be new, or passed through by headers only. -/
def openTable (key : String) (entries : Entries) : Option Entries :=
  match entries.lookup key with
  | none => some (entries ++ [(key, .table .header [])])
  | some (.table .implied sub) => some (replace entries key (.table .header sub))
  | _ => none

/-- Add a table to those that share a header. -/
def openMember (key : String) (entries : Entries) : Option Entries :=
  match entries.lookup key with
  | none => some (entries ++ [(key, .tables [[]])])
  | some (.tables members) => some (replace entries key (.tables (members ++ [[]])))
  | _ => none

end Entries

/-- A dotted key: its first part and the others. -/
structure Key where
  first : String
  more : List String
  deriving DecidableEq, Repr

namespace Key

def parts (k : Key) : List String :=
  k.first :: k.more

/-- The parts before the last one. -/
def outer (k : Key) : List String :=
  k.parts.dropLast

def last (k : Key) : String :=
  k.more.getLast?.getD k.first

end Key

/-- A line of a document that says something. -/
inductive Statement where
  | header (key : Key)
  | memberHeader (key : Key)
  | assignment (key : Key) (item : Item)

/-- A document as far as it was read: its root table, and the path to the table that assignments
    go to. -/
structure Assembly where
  root : Entries := []
  current : List String := []

namespace Assembly

def add (d : Assembly) : Statement → Option Assembly
  | .header key => do
      let root ← Entries.within (Entries.openTable key.last) key.outer d.root
      return { root, current := key.parts }
  | .memberHeader key => do
      let root ← Entries.within (Entries.openMember key.last) key.outer d.root
      return { root, current := key.parts }
  | .assignment key item => do
      let root ← Entries.within (Entries.assign item key.first key.more) d.current d.root
      return { d with root }

end Assembly

/-- The root table of the document that the statements make up, unless they contradict each
    other. -/
def document (statements : List Statement) : Option Entries := do
  let d ← statements.foldlM Assembly.add {}
  return d.root

end Registry.Toml
