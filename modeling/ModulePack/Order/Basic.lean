import ModulePack.Store.Basic

/-!
# The order of modules

The modules that an entry module needs are listed so that a module comes after all that it depends
on, unless both are in one circle of dependencies. The circles are found by a search from the entry
module in depth first order. The search is a machine: a state holds the modules on the way from the
entry module, each with the dependencies that it has yet to look at, and one step looks at one
dependency or leaves one module. When a module is left from which none found before it can be
reached, it closes a component: itself and all found after it that are in no component yet.
-/

namespace ModulePack

abbrev Graph := String → Option (List String)

structure ModuleOrder where
  /-- The stored modules that the entry module needs, dependencies first. -/
  modules : List String
  /-- Those of them that depend on themselves, directly or through others. -/
  circular : NameSet
  /-- The names that they depend on that are not in the store. -/
  absent : NameSet
  deriving DecidableEq, Inhabited

namespace Order

/-- A module on the way from the entry module, and the dependencies yet to look at. -/
structure Frame where
  name : String
  rest : List String
  deriving DecidableEq, Repr

structure State where
  /-- The number of each module found, in the order in which they were found. -/
  index : Dictionary Nat
  /-- The least number known to be reached from a module. -/
  low : Dictionary Nat
  /-- The modules that are in no component yet, the last one found first. -/
  stack : List String
  onStack : NameSet
  /-- The way from the entry module, the last one first. -/
  work : List Frame
  modules : List String
  circular : NameSet
  absent : NameSet
  deriving DecidableEq

namespace State

def indexOf (s : State) (name : String) : Nat := (s.index.find? name).getD 0

def lowOf (s : State) (name : String) : Nat := (s.low.find? name).getD 0

def lower (s : State) (name : String) (n : Nat) : State :=
  { s with low := s.low.insert name (min (s.lowOf name) n) }

def discover (s : State) (name : String) (dependencies : List String) : State :=
  { s with
    index := s.index.insert name s.index.length
    low := s.low.insert name s.index.length
    stack := name :: s.stack
    onStack := s.onStack.insert name
    work := ⟨name, dependencies⟩ :: s.work }

/-- The component that a module closes, in the order in which its members were found. -/
def component (s : State) (name : String) : List String :=
  name :: (s.stack.takeWhile (· ≠ name)).reverse

def close (s : State) (name : String) (dependencies : List String) : State :=
  let members := s.component name
  { s with
    stack := (s.stack.dropWhile (· ≠ name)).drop 1
    onStack := members.foldl NameSet.erase s.onStack
    modules := s.modules ++ members
    circular :=
      if 1 < members.length || dependencies.contains name then s.circular.union members
      else s.circular }

def look (g : Graph) (s : State) (name dependency : String) : State :=
  match g dependency with
  | none => { s with absent := s.absent.insert dependency }
  | some dependencies =>
    match s.index.find? dependency with
    | none => s.discover dependency dependencies
    | some n => if dependency ∈ s.onStack then s.lower name n else s

/-- Leaves the module `name`, all dependencies of which have been looked at. -/
def leave (g : Graph) (s : State) (name : String) : State :=
  let s' :=
    match s.work with
    | parent :: _ => s.lower parent.name (s.lowOf name)
    | [] => s
  if s.lowOf name = s.indexOf name then s'.close name ((g name).getD []) else s'

def start (entry : String) (dependencies : List String) : State :=
  State.discover ⟨[], [], [], .empty, [], [], .empty, .empty⟩ entry dependencies

end State

/-- One step of the search; none where it has come to its end. -/
def step (g : Graph) (s : State) : Option State :=
  match s.work with
  | [] => none
  | ⟨name, dependency :: rest⟩ :: frames =>
    some (State.look g { s with work := ⟨name, rest⟩ :: frames } name dependency)
  | ⟨name, []⟩ :: frames => some (State.leave g { s with work := frames } name)

def run (g : Graph) : (fuel : Nat) → State → State
  | 0, s => s
  | fuel + 1, s =>
    match step g s with
    | none => s
    | some s' => run g fuel s'

end Order

namespace Store

/-- A number of steps that is enough for any search: each module is left once, and each of its
dependencies is looked at once. -/
def searchSteps (s : Store) : Nat :=
  s.records.foldr (fun r steps => r.dependencies.length + 1 + steps) 0

def order (s : Store) (entry : String) : ModuleOrder :=
  match s.dependencies? entry with
  | none => ⟨[], .empty, NameSet.empty.insert entry⟩
  | some dependencies =>
    let final := Order.run s.dependencies? s.searchSteps (Order.State.start entry dependencies)
    ⟨final.modules, final.circular, final.absent⟩

end Store

end ModulePack
