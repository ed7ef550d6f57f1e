import AssetBroker.Toml.Node

/-! Tables under construction. A table that no header has named yet is implicit: a
header may still name it, once. A table made by a dotted key is closed to headers of
its own, and dotted keys reach only tables that no header has named. Arrays of tables
grow at their end. Whatever would define a key twice is refused. -/
namespace AssetBroker.Toml

inductive Draft where
  | node (value : Node)
  | table (unnamed dotted : Bool) (entries : List (String × Draft))
  | tables (elements : List (List (String × Draft)))

namespace Draft

abbrev Entries := List (String × Draft)

/-- Puts a draft under a key, in place of the one it holds. -/
def put (key : String) (draft : Draft) : Entries → Entries
  | [] => [(key, draft)]
  | entry :: rest => if entry.1 = key then (key, draft) :: rest else entry :: put key draft rest

/-- Changes the table that a path leads to, making tables where the path finds none.
The change is told whether that table was made by a dotted key, and may give a result
beside the new entries. -/
def within {α : Type} (dotted : Bool) (change : Bool → Entries → Option (Entries × α)) :
    List String → Bool → Entries → Option (Entries × α)
  | [], madeByDots, entries => change madeByDots entries
  | key :: path, _, entries =>
    match entries.lookup key with
    | none => do
      let (child, result) ← within dotted change path dotted []
      return (put key (.table true dotted child) entries, result)
    | some (.node _) => none
    | some (.table unnamed madeByDots child) => do
      if dotted && !unnamed then none
      let (child, result) ← within dotted change path madeByDots child
      return (put key (.table unnamed madeByDots child) entries, result)
    | some (.tables elements) => do
      let last ← elements.getLast?
      let (child, result) ← within dotted change path false last
      return (put key (.tables (elements.dropLast ++ [child])) entries, result)

/-- Defines a key in a table that the dots before it lead to. -/
def define (path : List String) (key : String) (value : Node) (entries : Entries) :
    Option Entries :=
  (within true (fun madeByDots entries =>
    if madeByDots == path.isEmpty || (entries.lookup key).isSome then none
    else some (put key (.node value) entries, ())) path false entries).map Prod.fst

mutual

/-- The finished node of a draft. -/
def finish : Draft → Node
  | node value => value
  | table _ _ entries => .table (finishEntries entries)
  | tables elements => .array (finishElements elements)

def finishEntries : Entries → Table
  | [] => []
  | (key, draft) :: rest => (key, finish draft) :: finishEntries rest

def finishElements : List Entries → List Node
  | [] => []
  | element :: rest => .table (finishEntries element) :: finishElements rest

end

end Draft

/-- A document read up to some line: the tables finished so far, and the one whose
header was read last, with its path and whether it is an element of an array. -/
structure Progress where
  root : Draft.Entries
  current : Draft.Entries
  path : List String
  element : Bool

namespace Progress

def start : Progress := ⟨[], [], [], false⟩

/-- Puts the current table where its header said. -/
def close (p : Progress) : Option Draft.Entries :=
  match p.path.getLast? with
  | none => some p.current
  | some key =>
    (Draft.within false (fun _ entries =>
      match entries.lookup key, p.element with
      | none, true => some (Draft.put key (.tables [p.current]) entries, ())
      | some (.tables elements), true =>
        some (Draft.put key (.tables (elements ++ [p.current])) entries, ())
      | none, false | some (.table true _ _), false =>
        some (Draft.put key (.table false false p.current) entries, ())
      | _, _ => none) p.path.dropLast false p.root).map Prod.fst

/-- Opens the table of a header. It starts with the tables below it that earlier
headers have named. -/
def openTable (p : Progress) (path : List String) : Option Progress := do
  let root ← p.close
  let key ← path.getLast?
  let (root, current) ← Draft.within false (fun _ entries =>
    match entries.lookup key with
    | none => some (entries, [])
    | some (.table true false child) =>
      some (entries.filter (fun entry => entry.1 != key), child)
    | _ => none) path.dropLast false root
  return ⟨root, current, path, false⟩

/-- Opens the next element of an array of tables. -/
def openElement (p : Progress) (path : List String) : Option Progress := do
  let root ← p.close
  let key ← path.getLast?
  let (root, _) ← Draft.within false (fun _ entries =>
    match entries.lookup key with
    | none | some (.tables _) => some (entries, ())
    | _ => none) path.dropLast false root
  return ⟨root, [], path, true⟩

def define (p : Progress) (path : List String) (value : Node) : Option Progress := do
  let key ← path.getLast?
  return { p with current := ← Draft.define path.dropLast key value p.current }

end Progress
end AssetBroker.Toml
