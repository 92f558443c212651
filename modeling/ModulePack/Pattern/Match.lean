import ModulePack.Pattern.Basic

/-!
# Matching

`Pattern.ways` gives the ways in which a pattern matches from a place on, in the order in which they
are tried. A way is the place where the match ends and what the groups have kept; a way that is
found again is not listed again, so there are few of them however many attempts there are.
-/

namespace ModulePack

/-- A place in a text, and the parts that groups have kept, each from a place to a place. -/
structure Way where
  place : Nat
  kept : List (Nat × Nat × Nat)
  deriving DecidableEq, Repr, Inhabited

namespace Way

/-- The part that a group has kept, unless the group was entered again after it. -/
def kept? (w : Way) (number : Nat) : Option (Nat × Nat) :=
  (w.kept.lookup number).filter fun (start, stop) => start ≤ stop

/-- The way into a group: what the group keeps begins here, but still ends where it did. -/
def enter (w : Way) (number : Nat) : Way :=
  { w with
    kept := w.kept.map fun (other, start, stop) =>
      (other, if other = number then w.place else start, stop) }

def keep (w : Way) (number start : Nat) : Way :=
  { w with kept := (number, start, w.place) :: w.kept.filter (·.1 != number) }

/-- The ways of both lists, each once and where it stands first. -/
def merge (ways more : List Way) : List Way :=
  more.foldl (fun found w => if w ∈ found then found else found ++ [w]) ways

def distinct (ways : List Way) : List Way := merge [] ways

end Way

namespace Pattern

def sameChars (flags : PatternFlags) (xs ys : List Char) : Bool :=
  let codes (cs : List Char) : List Nat :=
    cs.map fun c => if flags.ignoreCase then flags.lowerCode c.toNat else c.toNat
  codes xs == codes ys

def repeatKept (text : Array Char) (flags : PatternFlags) (number : Nat) (w : Way) : List Way :=
  match w.kept? number with
  | none => []
  | some (start, stop) =>
    let after := w.place + (stop - start)
    if after ≤ text.size && sameChars flags (text.extract start stop).toList
        (text.extract w.place after).toList then [{ w with place := after }] else []

/-- The ways after exactly `count` further rounds. -/
def rounds (body : Way → List Way) : (count : Nat) → List Way → List Way
  | 0, ways => ways
  | count + 1, ways => rounds body count (Way.distinct (ways.flatMap body))

/-- What a search through rounds has met and found: what it has met at each place, with the number
of rounds that were left, and the ways that it has found, the last one first. -/
structure Search where
  met : Array (List (Option Nat × Way))
  listed : Array (List Way)
  found : List Way

namespace Search

def start (size : Nat) : Search :=
  ⟨Array.replicate (size + 1) [], Array.replicate (size + 1) [], []⟩

def add (s : Search) (w : Way) : Search :=
  if w ∈ s.listed.getD w.place [] then s
  else { s with listed := s.listed.modify w.place (w :: ·), found := w :: s.found }

def hasMet (s : Search) (limit : Option Nat) (w : Way) : Bool :=
  (limit, w) ∈ s.met.getD w.place []

def meet (s : Search) (limit : Option Nat) (w : Way) : Search :=
  { s with met := s.met.modify w.place ((limit, w) :: ·) }

end Search

/-- Adds the ways after at most `limit` further rounds, if there is a limit. A round that leads
nowhere is the last one. -/
def explore (body : Way → List Way) (greed : Greed) :
    (fuel : Nat) → (limit : Option Nat) → Way → Search → Search
  | 0, _, w, s => s.add w
  | fuel + 1, limit, w, s =>
    if s.hasMet limit w then s
    else
      let further (s : Search) : Search :=
        if limit = some 0 then s
        else
          (body w).foldl (fun s next =>
            if next.place = w.place then s.add next
            else explore body greed fuel (limit.map (· - 1)) next s) s
      match greed with
      | .least => further ((s.meet limit w).add w)
      | _ => (further (s.meet limit w)).add w

def exhaust (body : Way → List Way) : (fuel : Nat) → (limit : Option Nat) → Way → Way
  | 0, _, w => w
  | fuel + 1, limit, w =>
    if limit = some 0 then w
    else
      match body w with
      | [] => w
      | next :: _ =>
        if next.place = w.place then next else exhaust body fuel (limit.map (· - 1)) next

/-- The ways after a repetition. More rounds than the text has characters, and one, lead nowhere
else. -/
def repeatWays (size : Nat) (body : Way → List Way) (least : Nat) (most : Option Nat)
    (greed : Greed) (w : Way) : List Way :=
  let enough := size + 1
  let limit := most.bind fun most => if most - least ≤ size then some (most - least) else none
  match greed with
  | .all =>
    (rounds (fun w => (body w).take 1) (min least enough) [w]).map (exhaust body enough limit)
  | _ =>
    ((rounds body (min least enough) [w]).foldl (fun s w => explore body greed enough limit w s)
      (.start size)).found.reverse

def ways (text : Array Char) : Pattern → Way → List Way
  | .empty, w => [w]
  | .oneOf cls, w =>
    if (text[w.place]?).any cls.contains then [{ w with place := w.place + 1 }] else []
  | .anchor a, w => if a.holds text w.place then [w] else []
  | .seq p q, w => Way.distinct ((p.ways text w).flatMap (q.ways text))
  | .alt p q, w => Way.merge (p.ways text w) (q.ways text w)
  | .group p, w => p.ways text w
  | .keep number p, w =>
    (p.ways text (w.enter number)).map fun after => after.keep number w.place
  | .same number flags, w => repeatKept text flags number w
  | .choice number p q, w =>
    if (w.kept? number).isSome then p.ways text w else q.ways text w
  | .first p, w => (p.ways text w).take 1
  | .repeated p least most greed, w => repeatWays text.size (p.ways text) least most greed w
  | .ahead p negated, w =>
    match p.ways text w with
    | [] => if negated then [w] else []
    | found :: _ => if negated then [] else [{ found with place := w.place }]
  | .behind p width negated, w =>
    let found := if width ≤ w.place then p.ways text { w with place := w.place - width } else []
    match found.find? (·.place = w.place) with
    | none => if negated then [w] else []
    | some found => if negated then [] else [found]

def search (p : Pattern) (s : String) : Bool :=
  let text := s.toList.toArray
  (List.range (text.size + 1)).any fun i => !(p.ways text ⟨i, []⟩).isEmpty

def referred : Pattern → List Nat
  | .empty | .oneOf _ | .anchor _ => []
  | .seq p q | .alt p q => p.referred ++ q.referred
  | .group p | .keep _ p | .first p | .repeated p _ _ _ | .ahead p _ | .behind p _ _ => p.referred
  | .same number _ => [number]
  | .choice number p q => number :: p.referred ++ q.referred

def keepOnly (numbers : List Nat) : Pattern → Pattern
  | .seq p q => .seq (p.keepOnly numbers) (q.keepOnly numbers)
  | .alt p q => .alt (p.keepOnly numbers) (q.keepOnly numbers)
  | .group p => .group (p.keepOnly numbers)
  | .keep number p =>
    if number ∈ numbers then .keep number (p.keepOnly numbers) else .group (p.keepOnly numbers)
  | .choice number p q => .choice number (p.keepOnly numbers) (q.keepOnly numbers)
  | .first p => .first (p.keepOnly numbers)
  | .repeated p least most greed => .repeated (p.keepOnly numbers) least most greed
  | .ahead p negated => .ahead (p.keepOnly numbers) negated
  | .behind p width negated => .behind (p.keepOnly numbers) width negated
  | p => p

/-- The pattern in which groups keep what they match only if the pattern refers to it. -/
def trim (p : Pattern) : Pattern := p.keepOnly p.referred

end Pattern

end ModulePack
