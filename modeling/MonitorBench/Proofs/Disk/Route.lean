import Mathlib.Data.List.DropRight
import MonitorBench.Disk.Basic

/-!
# Where a path leads from different directories

The disk decides whether a walk along names succeeds, but not where it ends: names lead some
directories up and then down along others, which is their `route`. So a relative path that leads
from two directories leads to one place exactly when the two agree above the directories that
the path climbs out of (`locateFrom_eq_iff`).
-/

set_option autoImplicit false

namespace MonitorBench

/-- How far up a path leads, and along which names down from there. -/
structure Route where
  up : Nat
  down : List String

namespace Route

/-- The route with one name more. -/
def step (route : Route) (name : String) : Route :=
  if name = "" ∨ name = "." then
    route
  else if name = ".." then
    if route.down = [] then ⟨route.up + 1, []⟩ else ⟨route.up, route.down.dropLast⟩
  else
    ⟨route.up, route.down ++ [name]⟩

/-- The route along names. -/
def along (names : List String) : Route :=
  names.foldl step ⟨0, []⟩

/-- The place that the route leads to from a base; above the root is the root. -/
def place (route : Route) (base : Location) : Location :=
  base.rdrop route.up ++ route.down

/-- From two bases the route leads to one place exactly when they agree above what it climbs. -/
theorem place_eq_iff (route : Route) (base other : Location) :
    route.place other = route.place base ↔ other.rdrop route.up = base.rdrop route.up :=
  List.append_left_inj route.down

/-- Going up once more drops one name more. -/
theorem dropLast_rdrop (base : Location) (n : Nat) :
    (base.rdrop n).dropLast = base.rdrop (n + 1) := by
  rw [List.dropLast_eq_take, List.rdrop, List.rdrop, List.take_take, List.length_take]
  congr 1
  omega

/-- A name that leads anywhere leads where the route with it does. -/
theorem place_step {route : Route} {base next : Location} {name : String}
    (h : Disk.next (route.place base) name = .ok next) : next = (route.step name).place base := by
  rw [Disk.next] at h
  rw [step]
  by_cases idle : name = "" ∨ name = "."
  · rw [if_pos idle] at h ⊢
    cases h
    rfl
  · rw [if_neg idle] at h ⊢
    by_cases above : name = ".."
    · rw [if_pos above] at h ⊢
      cases h
      by_cases top : route.down = []
      · rw [if_pos top, place, place, top, List.append_nil, List.append_nil, dropLast_rdrop]
      · rw [if_neg top, place, place, List.dropLast_append_of_ne_nil top]
    · rw [if_neg above] at h ⊢
      split at h
      next => cases h
      next =>
        cases h
        rw [place, place, List.append_assoc]

end Route

namespace Disk

variable {disk : Disk} {base other place : Location} {path : String}

/-- A walk that succeeds ends where the route along its names leads. -/
theorem walk_route (names : List String) (route : Route)
    (walked : disk.walk (route.place base) names = .ok place) :
    place = (names.foldl Route.step route).place base := by
  induction names generalizing route with
  | nil =>
    cases walked
    rfl
  | cons name names ih =>
    rw [walk] at walked
    split at walked
    next => cases walked
    next => cases walked
    next =>
      split at walked
      next => cases walked
      next further step =>
        rw [Route.place_step step] at walked
        exact ih (route.step name) walked

/-- An absolute path leads to the same place from everywhere. -/
theorem locateFrom_absolute (absolute : Path.isAbsolute path = true) (base other : Location) :
    disk.locateFrom other path = disk.locateFrom base path := by
  rw [locateFrom, locateFrom, if_pos absolute, if_pos absolute]

/-- A relative path leads where its route does. -/
theorem locateFrom_relative (relative : Path.isAbsolute path = false)
    (located : disk.locateFrom base path = .ok place) :
    place = (Route.along (Path.names path)).place base := by
  rw [locateFrom, relative] at located
  split at located
  next => cases located
  next =>
    have start : (⟨0, []⟩ : Route).place base = base := by simp [Route.place]
    have walked : disk.walk ((⟨0, []⟩ : Route).place base) (Path.names path) = .ok place := by
      rw [start]
      exact located
    exact walk_route (Path.names path) ⟨0, []⟩ walked

/-- Two directories from which a path leads somewhere are led to one place exactly when the path is
absolute, or they agree above what it climbs. -/
theorem locateFrom_eq_iff {there : Location} (located : disk.locateFrom base path = .ok place)
    (elsewhere : disk.locateFrom other path = .ok there) :
    there = place ↔ Path.isAbsolute path = true ∨
      other.rdrop (Route.along (Path.names path)).up =
        base.rdrop (Route.along (Path.names path)).up := by
  cases absolute : Path.isAbsolute path with
  | true =>
    rw [locateFrom_absolute absolute base other, located] at elsewhere
    simpa using (Except.ok.inj elsewhere).symm
  | false =>
    rw [locateFrom_relative absolute located, locateFrom_relative absolute elsewhere,
      Route.place_eq_iff]
    simp

end Disk

end MonitorBench
