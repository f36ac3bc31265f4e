/-!
# How one sequence becomes another

Two sequences of numbers are compared. What both have in order stays; the rest of the first
one is removed and the rest of the second one is added. As few members as possible change,
and a run of them lies as far behind as it can. Members that the other sequence lacks change
in any case and are left out of the search, together with some that are frequent among them.
-/

set_option autoImplicit false

namespace MonitorBench.Shell

/-- A place at which members are removed from one sequence and others are added. -/
structure Alteration where
  /-- How many members of the first sequence come before. -/
  old : Nat
  removed : Nat
  /-- How many members of the second sequence come before. -/
  new : Nat
  added : Nat

namespace Alteration

/-! ## Members that are left out -/

/-- What a member is before the search. -/
inductive Standing where
  | searched
  /-- The other sequence lacks it. -/
  | alone
  /-- The other sequence has many like it. -/
  | frequent
  deriving DecidableEq

/-- How often each number occurs. -/
def occurrences (bound : Nat) (members : Array Nat) : Array Nat :=
  members.foldl (fun counts member => counts.modify member (· + 1)) (Array.replicate bound 0)

/-- A number doubled as often as another one can be divided by four. -/
def doubled (start : Nat) : (fuel : Nat) → Nat → Nat
  | 0, _ => start
  | fuel + 1, n => if n / 4 = 0 then start else 2 * doubled start fuel (n / 4)

/-- What members are before the search, given how often numbers occur in the other sequence. -/
def standings (others : Array Nat) (members : Array Nat) : List Standing :=
  let many := doubled 5 members.size (members.size / 64)
  members.toList.map fun member =>
    let count := others.getD member 0
    if count = 0 then .alone else if many < count then .frequent else .searched

/-- A run of members without the frequent ones that stand in as long a row as is given. -/
def withoutRows (least : Nat) (run : List Standing) : List Standing :=
  let close (row : Nat) (done : List Standing) : List Standing :=
    List.replicate row (if least ≤ row then .searched else .frequent) ++ done
  let (done, row) := run.foldl (fun (done, row) standing =>
    if standing = .frequent then (done, row + 1) else (standing :: close row done, 0)) (([], 0) : List Standing × Nat)
  (close row done).reverse

/-- A run of members in which the frequent ones at the front are searched, up to three in a row that stand
alone, or up to one that stands alone behind eight members. -/
def searchFront : (place row : Nat) → List Standing → List Standing
  | _, _, [] => []
  | place, row, standing :: rest =>
    match standing with
    | .alone =>
      if 8 ≤ place ∨ row = 2 then .alone :: rest else .alone :: searchFront (place + 1) (row + 1) rest
    | _ => .searched :: searchFront (place + 1) 0 rest

/-- A run that begins with a member that stands alone, with the frequent ones in it that are left out. -/
def settleRun (run : List Standing) : List Standing :=
  let kept := (run.reverse.dropWhile (· = .frequent)).reverse
  let last := List.replicate (run.length - kept.length) Standing.searched
  let frequent := kept.count .frequent
  if kept.length < frequent * 4 then
    kept.map (fun standing => if standing = .frequent then .searched else standing) ++ last
  else
    let least := doubled 1 kept.length (kept.length / 4) + 1
    let front := searchFront 0 0 (withoutRows least kept)
    (searchFront 0 0 front.reverse).reverse ++ last

/-- The members that are left out: those that stand alone, and frequent ones between them. -/
def leftOut (standings : List Standing) : List Bool :=
  let close (run : List Standing) (done : List Bool) : List Bool :=
    ((settleRun run.reverse).map fun standing => decide (standing ≠ .searched)).reverse ++ done
  let (done, run) := standings.foldl (fun (done, run) standing =>
    match standing, run with
    | .searched, run => (false :: close run done, [])
    | .frequent, [] => (false :: done, [])
    | standing, run => (done, standing :: run)) (([], []) : List Bool × List Standing)
  (close run done).reverse

/-! ## The search -/

/-- Two sequences with the members that count in the search. -/
structure Pair where
  old : Array Nat
  new : Array Nat

namespace Pair

/-- Whether members at places are the same. -/
def same (pair : Pair) (x y : Nat) : Bool :=
  pair.old.getD x 0 == pair.new.getD y 0

/-- The places that are reached behind equal members, at most `fuel` of them. -/
def slide (pair : Pair) (xEnd yEnd : Nat) : (fuel : Nat) → (x y : Nat) → Nat × Nat
  | 0, x, y => (x, y)
  | fuel + 1, x, y =>
    if x < xEnd ∧ y < yEnd ∧ pair.same x y then pair.slide xEnd yEnd fuel (x + 1) (y + 1) else (x, y)

/-- The places that are reached before equal members, at most `fuel` of them. -/
def slideBack (pair : Pair) (xStart yStart : Nat) : (fuel : Nat) → (x y : Nat) → Nat × Nat
  | 0, x, y => (x, y)
  | fuel + 1, x, y =>
    if xStart < x ∧ yStart < y ∧ pair.same (x - 1) (y - 1) then pair.slideBack xStart yStart fuel (x - 1) (y - 1)
    else (x, y)

/-- The places in the first sequence that a search has reached on the diagonals between two. -/
structure Front where
  reached : Array Int
  low : Int
  high : Int

/-- A part of the two sequences. -/
structure Part where
  xStart : Nat
  xEnd : Nat
  yStart : Nat
  yEnd : Nat

namespace Part

/-- The place of a diagonal in an array. -/
def slot (part : Part) (diagonal : Int) : Nat :=
  (diagonal - (part.xStart - part.yEnd) + 1).toNat

/-- The front with one more diagonal on each side as far as there are some; `none` stands for a place that
was not reached. -/
def widen (part : Part) (nowhere : Int) (front : Front) : Front :=
  let least : Int := part.xStart - part.yEnd
  let greatest : Int := part.xEnd - part.yStart
  let (reached, low) : Array Int × Int :=
    if least < front.low then (front.reached.setIfInBounds (part.slot (front.low - 2)) nowhere, front.low - 1)
    else (front.reached, front.low + 1)
  if front.high < greatest then
    { reached := reached.setIfInBounds (part.slot (front.high + 2)) nowhere, low, high := front.high + 1 }
  else { reached, low, high := front.high - 1 }

/-- Every other diagonal of a front, from the highest on. -/
def diagonals (front : Front) : List Int :=
  if front.high < front.low then []
  else (List.range ((front.high - front.low).toNat / 2 + 1)).map fun (n : Nat) => front.high - 2 * (n : Int)

/-- What a search has reached: two fronts, and the place where they met. -/
structure Search where
  forward : Front
  backward : Front
  met : Option (Nat × Nat) := none

/-- Takes the forward front one step further. -/
def stepForward (part : Part) (pair : Pair) (odd : Bool) (search : Search) : Search :=
  let front := part.widen (-1) search.forward
  (diagonals front).foldl (fun (search : Search) d =>
    if search.met.isSome then search
    else
      let below := search.forward.reached.getD (part.slot (d - 1)) (-1)
      let above := search.forward.reached.getD (part.slot (d + 1)) (-1)
      let x := if below < above then above else below + 1
      let (x, y) := pair.slide part.xEnd part.yEnd (part.xEnd - x.toNat + 1) x.toNat (x - d).toNat
      let forward := { search.forward with reached := search.forward.reached.setIfInBounds (part.slot d) x }
      let other := search.backward.reached.getD (part.slot d) 0
      let meets := odd && decide (search.backward.low ≤ d) && decide (d ≤ search.backward.high) && decide (other ≤ x)
      { search with forward, met := if meets then some (x, y) else none })
    { search with forward := front }

/-- Takes the backward front one step further. -/
def stepBackward (part : Part) (pair : Pair) (odd : Bool) (search : Search) : Search :=
  let far : Int := part.xEnd + part.yEnd + 2
  let front := part.widen far search.backward
  (diagonals front).foldl (fun (search : Search) d =>
    if search.met.isSome then search
    else
      let below := search.backward.reached.getD (part.slot (d - 1)) far
      let above := search.backward.reached.getD (part.slot (d + 1)) far
      let x := if below < above then below else above - 1
      let (x, y) := pair.slideBack part.xStart part.yStart (x.toNat + 1) x.toNat (x - d).toNat
      let backward := { search.backward with reached := search.backward.reached.setIfInBounds (part.slot d) x }
      let other := search.forward.reached.getD (part.slot d) 0
      let meets := !odd && decide (search.forward.low ≤ d) && decide (d ≤ search.forward.high) && decide ((x : Int) ≤ other)
      { search with backward, met := if meets then some (x, y) else none })
    { search with backward := front }

/-- Goes on with a search until its fronts meet, at most `fuel` steps. -/
def meet (part : Part) (pair : Pair) (odd : Bool) : (fuel : Nat) → Search → Nat × Nat
  | 0, _ => (part.xStart, part.yStart)
  | fuel + 1, search =>
    let forward := part.stepForward pair odd search
    match forward.met with
    | some place => place
    | none =>
      let backward := part.stepBackward pair odd forward
      match backward.met with
      | some place => place
      | none => meet part pair odd fuel backward

/-- The places that halve the way from the start of a part to its end. -/
def middle (part : Part) (pair : Pair) : Nat × Nat :=
  let forward : Int := part.xStart - part.yStart
  let backward : Int := part.xEnd - part.yEnd
  let size := (part.xEnd - part.xStart) + (part.yEnd - part.yStart) + 4
  let front (d : Int) (x : Nat) : Front :=
    { reached := (Array.replicate size (0 : Int)).setIfInBounds (part.slot d) x, low := d, high := d }
  part.meet pair ((forward - backward) % 2 != 0) size
    { forward := front forward part.xStart, backward := front backward part.xEnd }

end Part

/-- The places of members that are removed and of members that are added in a part, which is halved at
most `fuel` times. -/
def changes (pair : Pair) : (fuel : Nat) → Part → List Nat × List Nat
  | 0, _ => ([], [])
  | fuel + 1, part =>
    let (xStart, yStart) := pair.slide part.xEnd part.yEnd (part.xEnd - part.xStart + 1) part.xStart part.yStart
    let (xEnd, yEnd) := pair.slideBack xStart yStart (part.xEnd - xStart + 1) part.xEnd part.yEnd
    if xStart = xEnd then
      ([], (List.range (yEnd - yStart)).map (yStart + ·))
    else if yStart = yEnd then
      ((List.range (xEnd - xStart)).map (xStart + ·), [])
    else
      let inner : Part := { xStart, xEnd, yStart, yEnd }
      let (x, y) := inner.middle pair
      let first := pair.changes fuel { inner with xEnd := x, yEnd := y }
      let second := pair.changes fuel { inner with xStart := x, yStart := y }
      (first.1 ++ second.1, first.2 ++ second.2)

end Pair

/-! ## Runs of changes -/

/-- Whether the member at a place changed. -/
def isChanged (changed : Array Bool) (place : Nat) : Bool :=
  changed.getD place false

/-- The place of the first member from a place on that stays. -/
def nextKept (changed : Array Bool) : (fuel : Nat) → Nat → Nat
  | 0, place => place
  | fuel + 1, place => if isChanged changed place then nextKept changed fuel (place + 1) else place

/-- The place of the last member before a place that stays. -/
def keptBefore (changed : Array Bool) : Nat → Nat
  | 0 => 0
  | place + 1 => if isChanged changed place then keptBefore changed place else place

/-- The start of the run of changes that ends before a place. -/
def runStart (changed : Array Bool) : Nat → Nat
  | 0 => 0
  | place + 1 => if isChanged changed place then runStart changed place else place + 1

/-- A run of changes that is moved. -/
structure Run where
  changed : Array Bool
  start : Nat
  stop : Nat
  /-- The place in the other sequence that the end of the run corresponds to. -/
  place : Nat
  /-- The last end of the run that corresponds to a run in the other sequence. -/
  corresponding : Option Nat := none

namespace Run

/-- Moves a run towards the front while the members allow it. -/
def moveBack (members : Array Nat) (other : Array Bool) : (fuel : Nat) → Run → Run
  | 0, run => run
  | fuel + 1, run =>
    if 0 < run.start ∧ members.getD (run.start - 1) 0 = members.getD (run.stop - 1) 0 then
      let changed := (run.changed.setIfInBounds (run.start - 1) true).setIfInBounds (run.stop - 1) false
      moveBack members other fuel
        { run with
          changed, start := runStart changed (run.start - 1), stop := run.stop - 1
          place := keptBefore other run.place }
    else run

/-- Moves a run towards the end while the members allow it. -/
def moveOn (members : Array Nat) (other : Array Bool) : (fuel : Nat) → Run → Run
  | 0, run => run
  | fuel + 1, run =>
    if run.stop < members.size ∧ members.getD run.start 0 = members.getD run.stop 0 then
      let changed := (run.changed.setIfInBounds run.start false).setIfInBounds run.stop true
      let stop := nextKept changed members.size (run.stop + 1)
      let place := nextKept other other.size (run.place + 1)
      moveOn members other fuel
        { changed, start := run.start + 1, stop, place
          corresponding := if place = run.place + 1 then run.corresponding else some stop }
    else run

/-- Moves a run back and forth until it no longer grows. -/
def grow (members : Array Nat) (other : Array Bool) : (fuel : Nat) → Run → Run
  | 0, run => run
  | fuel + 1, run =>
    let back := moveBack members other members.size run
    let isBeside := 0 < back.place && isChanged other (back.place - 1)
    let on := moveOn members other members.size { back with corresponding := if isBeside then some back.stop else none }
    if on.stop - on.start = run.stop - run.start then on else grow members other fuel on

/-- Moves a run back to where it corresponds to a run in the other sequence. -/
def settle (other : Array Bool) (corresponding : Nat) : (fuel : Nat) → Run → Run
  | 0, run => run
  | fuel + 1, run =>
    if corresponding < run.stop then
      settle other corresponding fuel
        { run with
          changed := (run.changed.setIfInBounds (run.start - 1) true).setIfInBounds (run.stop - 1) false
          start := run.start - 1, stop := run.stop - 1, place := keptBefore other run.place }
    else run

end Run

/-- Moves the runs of changes in a sequence from a place on, at most `fuel` of them. -/
def moveRuns (members : Array Nat) (other : Array Bool) : (fuel : Nat) → (place otherPlace : Nat) → Array Bool → Array Bool
  | 0, _, _, changed => changed
  | fuel + 1, place, otherPlace, changed =>
    if members.size ≤ place then changed
    else if isChanged changed place then
      let run : Run :=
        { changed, start := place, stop := nextKept changed members.size place
          place := nextKept other other.size otherPlace }
      let grown := run.grow members other members.size
      let settled := match grown.corresponding with
        | some stop => grown.settle other stop members.size
        | none => grown
      moveRuns members other fuel settled.stop settled.place settled.changed
    else
      moveRuns members other fuel (place + 1) (nextKept other other.size otherPlace + 1) changed

/-- The alterations that changes are, from places on, at most `fuel` members further. -/
def ofChanges (removed added : Array Bool) : (fuel old new : Nat) → List Alteration
  | 0, _, _ => []
  | fuel + 1, old, new =>
    if removed.size ≤ old ∧ added.size ≤ new then []
    else
      let oldEnd := nextKept removed removed.size old
      let newEnd := nextKept added added.size new
      let rest := ofChanges removed added fuel (oldEnd + 1) (newEnd + 1)
      if oldEnd = old ∧ newEnd = new then rest
      else { old, removed := oldEnd - old, new, added := newEnd - new } :: rest

/-- Marks at places. -/
def marksAt (size : Nat) (places : List Nat) : Array Bool :=
  places.foldl (fun marks place => marks.setIfInBounds place true) (Array.replicate size false)

/-- The alterations that make one sequence another. -/
def between (minimal : Bool) (old new : Array Nat) : List Alteration :=
  let bound := (old ++ new).foldl max 0 + 1
  let skipped (members others : Array Nat) : List Bool :=
    if minimal then List.replicate members.size false
    else leftOut (standings (occurrences bound others) members)
  let oldSkipped := skipped old new
  let newSkipped := skipped new old
  let places (skipped : List Bool) : Array Nat :=
    (skipped.zipIdx.filterMap fun (isSkipped, place) => if isSkipped then none else some place).toArray
  let oldPlaces := places oldSkipped
  let newPlaces := places newSkipped
  let pair : Pair := { old := oldPlaces.map (old.getD · 0), new := newPlaces.map (new.getD · 0) }
  let (removed, added) := pair.changes (oldPlaces.size + newPlaces.size + 2)
    { xStart := 0, xEnd := oldPlaces.size, yStart := 0, yEnd := newPlaces.size }
  let skippedPlaces (skipped : List Bool) : List Nat :=
    skipped.zipIdx.filterMap fun (isSkipped, place) => if isSkipped then some place else none
  let removedMarks := marksAt old.size (skippedPlaces oldSkipped ++ removed.map (oldPlaces.getD · 0))
  let addedMarks := marksAt new.size (skippedPlaces newSkipped ++ added.map (newPlaces.getD · 0))
  let fuel := 2 * (old.size + new.size) + 2
  let removedMoved := moveRuns old addedMarks fuel 0 0 removedMarks
  let addedMoved := moveRuns new removedMoved fuel 0 0 addedMarks
  ofChanges removedMoved addedMoved fuel 0 0

end Alteration

end MonitorBench.Shell
