/-!
# Faults

A fault arises where a configured value is used as what it is not, where bytes are no text, or where
a host refuses to look at a path. It is no error of a project and has no message.
-/

namespace ModulePack

/-- Why a host refuses an access: its number for the reason and its words. The reasons that lie in
the files themselves have other numbers. -/
structure Refusal where
  number : Nat
  reason : String
  other : number ∉ [2, 9, 17, 20, 21, 40] := by decide
  deriving DecidableEq, Repr

def Refusal.nameTooLong : Refusal where
  number := 36
  reason := "File name too long"

inductive Fault
  | wrongKind
  | noSuchPart
  | badValue
  | badEncoding
  /-- A count is beyond what can be counted. -/
  | countTooLarge
  /-- Values or groups are nested too deep. -/
  | nestedTooDeep
  | refused (r : Refusal)
  deriving DecidableEq, Repr

end ModulePack
