/-!
# Issues of a record

What is wrong with a record that is read, field by field.
-/

namespace ModulePack

inductive Step
  | field (name : String)
  | item (index : Nat)
  deriving DecidableEq, Repr

inductive IssueKind
  /-- A required field is not there. -/
  | missing
  | notText
  | notList
  | notSet
  | notTruthValue
  /-- A text or a number that spells no truth value. -/
  | truthSpelling
  | notRecord
  deriving DecidableEq, Repr

structure Issue where
  place : List Step
  kind : IssueKind
  deriving DecidableEq, Repr

end ModulePack
