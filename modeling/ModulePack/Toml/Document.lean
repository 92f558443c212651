import ModulePack.Value.Basic

/-!
# Tables of a TOML document

A document is a table that grows statement by statement. Besides the table it keeps what may not
grow any more: tables that were declared, and values that were written in one piece.
-/

namespace ModulePack.Toml

abbrev Key := List String

/-- Changes the table at a path, making the tables on the way. On the way, a list stands for its
last item if `throughLists` says so. -/
def updateTable (throughLists : Bool)
    (change : Dictionary Value → Option (Dictionary Value)) :
    Key → Dictionary Value → Option (Dictionary Value)
  | [], table => change table
  | name :: path, table =>
    match table.find? name with
    | none => (updateTable throughLists change path []).map fun t => table.insert name (.table t)
    | some (.table inner) =>
      (updateTable throughLists change path inner).map fun t => table.insert name (.table t)
    | some (.list items) =>
      match throughLists, items.getLast? with
      | true, some (.table inner) =>
        (updateTable throughLists change path inner).map fun t =>
          table.insert name (.list (items.dropLast ++ [.table t]))
      | _, _ => none
    | some _ => none

def addField (name : String) (value : Value) (table : Dictionary Value) :
    Option (Dictionary Value) :=
  if table.contains name then none else some (table.insert name value)

def addItem (name : String) (table : Dictionary Value) : Option (Dictionary Value) :=
  match table.find? name with
  | none => some (table.insert name (.list [.table []]))
  | some (.list items) => some (table.insert name (.list (items ++ [.table []])))
  | some _ => none

/-- A value that was written in one piece. -/
def isCompound : Value → Bool
  | .table _ | .list _ => true
  | _ => false

structure Marks where
  declared : List Key
  frozen : List Key
  /-- Tables that will be declared at the next header. -/
  pending : List Key
  deriving Inhabited

namespace Marks

def empty : Marks := ⟨[], [], []⟩

def isDeclared (m : Marks) (key : Key) : Bool := key != [] && m.declared.contains key

/-- Whether the key leads into a value that was written in one piece. -/
def isFrozen (m : Marks) (key : Key) : Bool := m.frozen.any (·.isPrefixOf key)

def declare (m : Marks) (key : Key) : Marks := { m with declared := key :: m.declared }

def freeze (m : Marks) (key : Key) : Marks := { m with frozen := key :: m.frozen }

def postpone (m : Marks) (keys : List Key) : Marks := { m with pending := keys ++ m.pending }

def settle (m : Marks) : Marks := { m with declared := m.pending ++ m.declared, pending := [] }

def forget (m : Marks) (key : Key) : Marks :=
  { m with
    declared := m.declared.filter (!key.isPrefixOf ·)
    frozen := m.frozen.filter (!key.isPrefixOf ·) }

end Marks

structure Document where
  root : Dictionary Value
  marks : Marks
  /-- The table that the next fields go to. -/
  header : Key
  deriving Inhabited

namespace Document

def empty : Document := ⟨[], .empty, []⟩

def openTable (d : Document) (key : Key) : Option Document :=
  let marks := d.marks.settle
  if marks.isDeclared key || marks.isFrozen key then none
  else
    (updateTable true some key d.root).map fun root => ⟨root, marks.declare key, key⟩

def openItem (d : Document) (key : Key) : Option Document :=
  let marks := d.marks.settle
  if marks.isFrozen key then none
  else
    match key.getLast? with
    | none => none
    | some name =>
      (updateTable true (addItem name) key.dropLast d.root).map fun root =>
        ⟨root, (marks.forget key).declare key, key⟩

def waypoints (header key : Key) : List Key :=
  (List.range (key.length - 1)).map fun i => header ++ key.take (i + 1)

def setField (d : Document) (key : Key) (value : Value) : Option Document :=
  match key.getLast? with
  | none => none
  | some name =>
    let parent := d.header ++ key.dropLast
    let ways := waypoints d.header key
    if ways.any d.marks.isDeclared || d.marks.isFrozen parent then none
    else
      (updateTable true (addField name value) parent d.root).map fun root =>
        let marks := d.marks.postpone ways
        { d with root, marks := if isCompound value then marks.freeze (d.header ++ key) else marks }

end Document

end ModulePack.Toml
