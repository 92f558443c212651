import ModulePack.Proofs.Except
import ModulePack.Proofs.Order.Linkage
import ModulePack.Proofs.Record.Fields

/-!
# The search with its guards

Each iteration of the search reads records, numbers and the stack. With guards, it stops where a
module is not stored, where a number is read that was never set, and where a module is to be taken
from a stack that is empty; the component that is closed is taken from the stack module by module
and sorted by number. No guard is ever met: while the books are kept, the guarded iteration is the
step of the search.
-/

namespace ModulePack.Order

inductive Stop
  | notStored (name : String)
  | noNumber (name : String)
  | emptyStack
  deriving DecidableEq, Repr

def fetch (g : Graph) (name : String) : Except Stop (List String) :=
  match g name with
  | some dependencies => .ok dependencies
  | none => .error (.notStored name)

def lookUp (numbers : Dictionary Nat) (name : String) : Except Stop Nat :=
  match numbers.find? name with
  | some n => .ok n
  | none => .error (.noNumber name)

/-- Takes modules from a stack up to `name`: those taken, and the stack that is left. -/
def popUntil (name : String) : List String → Except Stop (List String × List String)
  | [] => .error .emptyStack
  | member :: stack =>
    if member = name then .ok ([member], stack)
    else (popUntil name stack).map fun (popped, left) => (member :: popped, left)

def sortByNumber (numbers : Dictionary Nat) (names : List String) : Except Stop (List String) := do
  let keys ← names.mapM (lookUp numbers)
  return ((names.zip keys).mergeSort fun a b => decide (a.2 ≤ b.2)).map Prod.fst

namespace State

def guardedLower (s : State) (name : String) (n : Nat) : Except Stop State := do
  let low ← lookUp s.low name
  return { s with low := s.low.insert name (min low n) }

def guardedLook (g : Graph) (s : State) (name dependency : String) : Except Stop State :=
  match g dependency with
  | none => return { s with absent := s.absent.insert dependency }
  | some dependencies =>
    if dependency ∉ s.index.keys then return s.discover dependency dependencies
    else if dependency ∈ s.onStack then do s.guardedLower name (← lookUp s.index dependency)
    else return s

def guardedClose (s : State) (name : String) (dependencies : List String) : Except Stop State := do
  let (popped, stack) ← popUntil name s.stack
  let members ← sortByNumber s.index popped
  return { s with
    stack
    onStack := popped.foldl NameSet.erase s.onStack
    modules := s.modules ++ members
    circular :=
      if 1 < members.length || dependencies.contains name then s.circular.union members
      else s.circular }

/-- Passes the number that is set for a module to its parent. -/
def guardedPass (s : State) (name : String) : Except Stop State :=
  match s.work with
  | parent :: _ => do s.guardedLower parent.name (← lookUp s.low name)
  | [] => return s

def guardedLeave (s : State) (name : String) (dependencies : List String) : Except Stop State := do
  let s' ← s.guardedPass name
  if (← lookUp s'.low name) = (← lookUp s'.index name) then s'.guardedClose name dependencies
  else return s'

end State

def guardedStep (g : Graph) (s : State) : Except Stop (Option State) :=
  match s.work with
  | [] => return none
  | ⟨name, rest⟩ :: frames => do
    let dependencies ← fetch g name
    match rest with
    | dependency :: rest =>
      some <$> State.guardedLook g { s with work := ⟨name, rest⟩ :: frames } name dependency
    | [] => some <$> State.guardedLeave { s with work := frames } name dependencies

section Parts

variable {g : Graph} {entry name : String} {s s' : State} {numbers : Dictionary Nat}
  {names stack : List String}

theorem popUntil_eq (h : name ∈ stack) :
    popUntil name stack =
      .ok (stack.takeWhile (· ≠ name) ++ [name], (stack.dropWhile (· ≠ name)).drop 1) := by
  induction stack with
  | nil => simp at h
  | cons member stack ih =>
    by_cases hmember : member = name
    · simp [popUntil, hmember]
    · have hmem : name ∈ stack := (List.mem_cons.1 h).resolve_left (Ne.symm hmember)
      simp [popUntil, hmember, ih hmem, Except.map]

theorem lookUp_eq (h : (numbers.find? name).isSome) :
    lookUp numbers name = .ok ((numbers.find? name).getD 0) := by
  rw [lookUp]
  cases hn : numbers.find? name with
  | none => simp [hn] at h
  | some n => rfl

/-- Names in falling order of their numbers are turned over. -/
theorem sortByNumber_eq_reverse {number : String → Nat}
    (hset : ∀ a ∈ names, lookUp numbers a = .ok (number a))
    (hfalls : names.Pairwise fun a b => number b < number a) :
    sortByNumber numbers names = .ok names.reverse := by
  have hkeys : names.mapM (lookUp numbers) = .ok (names.map number) :=
    mapM_eq_ok_iff.2 (List.forall₂_map_right_iff.2 (List.forall₂_same.2 hset))
  have hdistinct : (names.map number).Nodup :=
    List.pairwise_map.2 (hfalls.imp fun hlt => Nat.ne_of_gt hlt)
  have hsorted : (names.mergeSort fun a b => decide (number a ≤ number b)).Pairwise
      fun a b => number a ≤ number b :=
    (List.pairwise_mergeSort (by simpa using fun a b c => Nat.le_trans)
      (by simpa using fun a b => Nat.le_total _ _) names).imp of_decide_eq_true
  have hrises : names.reverse.Pairwise fun a b => number a ≤ number b :=
    List.pairwise_reverse.2 (hfalls.imp Nat.le_of_lt)
  have hreverse : (names.mergeSort fun a b => decide (number a ≤ number b)) = names.reverse := by
    have hperm := (List.mergeSort_perm names fun a b => decide (number a ≤ number b)).trans
      names.reverse_perm.symm
    refine hperm.eq_of_pairwise ?_ hsorted hrises
    intro a b ha hb hab hba
    exact List.inj_on_of_nodup_map hdistinct (List.mem_mergeSort.1 ha) (List.mem_reverse.1 hb)
      (Nat.le_antisymm hab hba)
  have hpairs : ((names.zip (names.map number)).mergeSort fun a b => decide (a.2 ≤ b.2)) =
      (names.mergeSort fun a b => decide (number a ≤ number b)).map fun a => (a, number a) := by
    rw [← List.map_prod_left_eq_zip]
    exact (List.map_mergeSort (f := fun a => (a, number a)) fun _ _ _ _ => rfl).symm
  rw [sortByNumber, hkeys]
  simp [bind, Except.bind, pure, Except.pure, hpairs, hreverse, Function.comp_def]

end Parts

def LowSet (s : State) : Prop := ∀ a ∈ s.found, (s.low.find? a).isSome

namespace LowSet

variable {g : Graph} {entry name : String} {s s' : State} {frames : List Frame}
  {dependencies : List String}

theorem insert (h : LowSet s) (name : String) (n : Nat) :
    LowSet { s with low := s.low.insert name n } := by
  intro a ha
  rw [Dictionary.find?_insert]
  split_ifs
  · rfl
  · exact h a ha

theorem discover (h : LowSet s) (new : s.index.find? name = none) :
    LowSet (s.discover name dependencies) := by
  intro a ha
  rw [State.discover, Dictionary.find?_insert]
  split_ifs with hname
  · rfl
  · rw [Bookkeeping.found_discover s.work dependencies new, List.mem_append,
      List.mem_singleton] at ha
    exact h a (ha.resolve_right (Ne.symm hname))

theorem pass (h : LowSet s) (name : String) (frames : List Frame) :
    LowSet (s.pass name frames) := by
  cases frames with
  | nil => exact h
  | cons parent below => exact h.insert parent.name _

theorem move (h : LowSet s) (hm : Move g s s') : LowSet s' := by
  cases hm with
  | absent | cross => exact h
  | @discover name dependency rest dependencies frames work stored new =>
    have hs : LowSet { s with work := ⟨name, rest⟩ :: frames } := h
    exact hs.discover new
  | back => exact h.insert _ _
  | keep => exact h.pass _ _
  | close => exact h.pass _ _

theorem start (entry : String) (dependencies : List String) :
    LowSet (State.start entry dependencies) := by
  intro a ha
  rw [State.found_start, List.mem_singleton] at ha
  subst ha
  simp [State.start, State.discover, Dictionary.find?_insert]

end LowSet

section Iteration

variable {g : Graph} {entry a name dependency : String} {s s' : State} {dependencies : List String}
  {frames : List Frame} {n : Nat}

theorem lookUp_index (hb : Bookkeeping g entry s) (ha : a ∈ s.found) :
    lookUp s.index a = .ok (s.indexOf a) := by
  refine lookUp_eq ?_
  rw [hb.find?_index, if_pos ha]
  rfl

theorem lookUp_low (hl : LowSet s) (ha : a ∈ s.found) : lookUp s.low a = .ok (s.lowOf a) :=
  lookUp_eq (hl a ha)

theorem guardedLower_eq (h : (s.low.find? name).isSome) :
    s.guardedLower name n = .ok (s.lower name n) := by
  rw [State.guardedLower, lookUp_eq h]
  rfl

theorem guardedLook_eq (h : (s.low.find? name).isSome) :
    s.guardedLook g name dependency = .ok (s.look g name dependency) := by
  rw [State.guardedLook, State.look]
  cases hg : g dependency with
  | none => rfl
  | some dependencies =>
    cases hn : s.index.find? dependency with
    | none =>
      have hnew : dependency ∉ s.index.keys := Dictionary.find?_eq_none_iff.1 hn
      simp only [if_pos hnew]
      rfl
    | some n =>
      have hknown : ¬ dependency ∉ s.index.keys := fun hnew => by
        cases hn.symm.trans (Dictionary.find?_eq_none_iff.2 hnew)
      simp only [if_neg hknown]
      split
      · simp only [lookUp, hn, bind, Except.bind, guardedLower_eq h]
      · rfl

/-- What is taken from the stack up to `name` is its component, the last one found first. -/
theorem guardedClose_eq (hb : Bookkeeping g entry s) (hname : name ∈ s.stack) :
    s.guardedClose name dependencies = .ok (s.close name dependencies) := by
  have hpopped : (s.above name ++ [name]).reverse = s.component name := by
    simp [State.component, State.above]
  have hstack : s.stack = (s.above name ++ [name]) ++ s.below name := by
    rw [List.append_assoc]
    exact State.stack_eq hname
  have hsublist : (s.above name ++ [name]).Sublist s.stack := by
    conv_rhs => rw [hstack]
    exact List.sublist_append_left _ _
  have hset : ∀ a ∈ s.above name ++ [name], lookUp s.index a = .ok (s.indexOf a) :=
    fun a ha => lookUp_index hb (hb.mem_found_of_mem_stack (hsublist.mem ha))
  have hmembers : sortByNumber s.index (s.above name ++ [name]) = .ok (s.component name) := by
    rw [sortByNumber_eq_reverse hset (hb.stack_sorted.sublist hsublist), hpopped]
  have honStack : (s.above name ++ [name]).foldl NameSet.erase s.onStack =
      (s.component name).foldl NameSet.erase s.onStack := by
    refine NameSet.eq_of_mem_iff fun a => ?_
    rw [NameSet.mem_foldl_erase, NameSet.mem_foldl_erase, ← hpopped, List.mem_reverse]
  have hpop : popUntil name s.stack = .ok (s.above name ++ [name], s.below name) :=
    popUntil_eq hname
  simp only [State.guardedClose, hpop, bind, Except.bind, hmembers, honStack]
  rfl

theorem lowOf_pass_self (s : State) (name : String) (frames : List Frame) :
    (s.pass name frames).lowOf name = s.lowOf name := by
  cases frames with
  | nil => rfl
  | cons parent below =>
    rw [State.lowOf_pass_cons]
    split_ifs with hparent
    · rw [hparent, Nat.min_self]
    · rfl

theorem guardedPass_eq (hb : Bookkeeping g entry s) (hl : LowSet s)
    (work : s.work = ⟨name, []⟩ :: frames) :
    State.guardedPass { s with work := frames } name = .ok (s.pass name frames) := by
  cases frames with
  | nil => rfl
  | cons parent below =>
    have hlow := lookUp_low hl (hb.top_mem_found work)
    have hparent : parent.name ∈ s.found :=
      hb.mem_found_of_mem_way (by rw [State.way_eq work]; simp)
    simp only [State.guardedPass, hlow, bind, Except.bind]
    exact guardedLower_eq (hl _ hparent)

theorem guardedLeave_eq (hb : Bookkeeping g entry s) (hl : LowSet s)
    (work : s.work = ⟨name, []⟩ :: frames) :
    State.guardedLeave { s with work := frames } name (g.dependencies name) =
      .ok (State.leave g { s with work := frames } name) := by
  have hname : name ∈ s.found := hb.top_mem_found work
  have hbpass : Bookkeeping g entry (s.pass name frames) :=
    hb.of_eq rfl rfl rfl rfl (by simp [State.way, State.pass, work])
  have hlow : lookUp (s.pass name frames).low name = .ok (s.lowOf name) := by
    rw [lookUp_low (hl.pass name frames) hname, lowOf_pass_self]
  have hindex : lookUp (s.pass name frames).index name = .ok (s.indexOf name) :=
    lookUp_index hbpass hname
  rw [leave_eq]
  simp only [State.guardedLeave, guardedPass_eq hb hl work, bind, Except.bind, hlow, hindex]
  split
  · exact guardedClose_eq hbpass (hb.top_mem_stack work)
  · rfl

/-- While the books are kept, no guard is met. -/
theorem guardedStep_eq (hb : Bookkeeping g entry s) (hl : LowSet s) :
    guardedStep g s = .ok (step g s) := by
  cases work : s.work with
  | nil =>
    rw [guardedStep, step, work]
    rfl
  | cons frame frames =>
    obtain ⟨name, rest⟩ := frame
    have hname : name ∈ s.found := hb.top_mem_found work
    obtain ⟨dependencies, hg⟩ := Option.isSome_iff_exists.1 (hb.stored name hname)
    have hfetch : fetch g name = .ok dependencies := by rw [fetch, hg]
    cases rest with
    | nil =>
      have hleave := guardedLeave_eq hb hl work
      rw [Graph.dependencies_of_eq_some hg] at hleave
      simp only [guardedStep, step, work, hfetch, bind, Except.bind, hleave]
      rfl
    | cons dependency rest =>
      have hlook : State.guardedLook g { s with work := ⟨name, rest⟩ :: frames } name dependency =
          .ok (State.look g { s with work := ⟨name, rest⟩ :: frames } name dependency) :=
        guardedLook_eq (hl name hname)
      simp only [guardedStep, step, work, hfetch, bind, Except.bind, hlook]
      rfl

/-- A module that is left and not on the stack takes the stack to its end. -/
example : guardedStep (fun _ => some [])
    ⟨[("a", 0)], [("a", 0)], [], .empty, [⟨"a", []⟩], [], .empty, .empty⟩ =
      .error .emptyStack := rfl

end Iteration

end ModulePack.Order
