import ModulePack.Text.Width

/-!
# Clusters

Characters that are drawn together are a cluster: a character with those after it that take no
column of their own, that a joiner takes along, or that widen it. Text is cut only between clusters.
-/

namespace ModulePack.Text

structure Cluster where
  chars : List Char
  columns : Nat
  deriving DecidableEq, Repr, Inhabited

namespace Cluster

def extend (cs : List Char) (more : Nat) : List Cluster → List Cluster
  | [] => [⟨cs, 0⟩]
  | last :: rest => ⟨last.chars ++ cs, last.columns + more⟩ :: rest

/-- The clusters of characters after those before, the last one first, where `wide` tells whether a
selector would widen the last character. -/
def gather : (wide : Bool) → (before : List Cluster) → List Char → List Cluster
  | _, before, [] => before
  | wide, before, c :: rest =>
    if c = joiner && !before.isEmpty then
      match rest with
      | [] => extend [c] 0 before
      | next :: rest => gather wide (extend [c, next] 0 before) rest
    else if c = pictureSelector && !before.isEmpty then
      gather false (extend [c] (if wide then 1 else 0) before) rest
    else
      match charColumns c with
      | 0 => gather wide (extend [c] 0 before) rest
      | columns => gather (canWiden c) (⟨[c], columns⟩ :: before) rest

end Cluster

def clusters (cs : List Char) : List Cluster := (Cluster.gather false [] cs).reverse

/-- The clusters at the start that fit into so many columns; a blank stands for half of a cluster
that does not. -/
def takeClusters : (width : Nat) → List Cluster → List Char
  | _, [] => []
  | width, c :: rest =>
    if width = 0 then []
    else if c.columns ≤ width then c.chars ++ takeClusters (width - c.columns) rest
    else [' ']

def blanks (n : Nat) : List Char := List.replicate n ' '

def fit (width : Nat) (cs : List Char) : List Char :=
  let used := columns cs
  if used = width then cs
  else if used < width then cs ++ blanks (width - used)
  else takeClusters width (clusters cs)

/-- The characters in pieces of at most so many columns, after the piece that has begun, its last
character first. -/
def chopClusters (width : Nat) :
    (used : Nat) → (piece : List Char) → List Cluster → List (List Char)
  | used, piece, [] => if used = 0 then [] else [piece.reverse]
  | used, piece, c :: rest =>
    if width < used + c.columns then
      piece.reverse :: chopClusters width c.columns c.chars.reverse rest
    else chopClusters width (used + c.columns) (c.chars.reverse ++ piece) rest

def chop (width : Nat) (cs : List Char) : List (List Char) := chopClusters width 0 [] (clusters cs)

end ModulePack.Text
