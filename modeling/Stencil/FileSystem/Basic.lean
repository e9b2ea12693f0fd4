import Stencil.Association

/-!
# File systems

A file system maps locations to what is there: a file with its content, or a
folder.  A location is the list of names that lead to it from the root, which
is always a folder.  Putting and erasing change what is at one location and
nothing else (`itemAt?_put`, `itemAt?_erase`).
-/

namespace Stencil

/-- The names that lead from the root to a place. -/
abbrev Location := List String

/-- What is at a location. -/
inductive Item where
  | file (content : List UInt8)
  | folder
  deriving DecidableEq, Repr

/-- A file system, seen from a working folder. -/
structure FileSystem where
  /-- What is at the locations other than the root. -/
  entries : List (Location × Item) := []
  /-- Where relative paths start. -/
  working : Location := []
  deriving DecidableEq, Repr

namespace FileSystem

/-- What is at a location, if anything. -/
def itemAt? (fs : FileSystem) (location : Location) : Option Item :=
  if location = [] then some .folder else fs.entries.lookup location

def put (fs : FileSystem) (location : Location) (item : Item) : FileSystem :=
  { fs with entries := withoutKey location fs.entries ++ [(location, item)] }

def erase (fs : FileSystem) (location : Location) : FileSystem :=
  { fs with entries := withoutKey location fs.entries }

/-- The part of a location after another one that leads to it. -/
def below? : Location → Location → Option Location
  | [], location => some location
  | _ :: _, [] => none
  | name :: base, other :: location => if name = other then below? base location else none

/-- What is below a location, by the names that lead from there. -/
def contentsBelow (fs : FileSystem) (base : Location) : List (Location × Item) :=
  fs.entries.filterMap fun (location, item) =>
    (below? base location).bind fun rest => if rest = [] then none else some (rest, item)

def isBare (fs : FileSystem) (base : Location) : Bool := (fs.contentsBelow base).isEmpty

/-- Something put at a location other than the root is there, and all other
locations are as before. -/
theorem itemAt?_put (fs : FileSystem) {location : Location} (named : location ≠ [])
    (item : Item) (other : Location) :
    (fs.put location item).itemAt? other =
      if other = location then some item else fs.itemAt? other := by
  unfold itemAt? put
  dsimp only
  rw [lookup_append_single other location item _ (by rw [lookup_withoutKey]; simp), lookup_withoutKey]
  by_cases root : other = []
  · subst root
    simp [named.symm]
  · by_cases same : other = location <;> simp [root, same, named]

/-- Nothing is left at a location that is erased, and all other locations are as
before. -/
theorem itemAt?_erase (fs : FileSystem) {location : Location} (named : location ≠ [])
    (other : Location) :
    (fs.erase location).itemAt? other = if other = location then none else fs.itemAt? other := by
  unfold itemAt? erase
  dsimp only
  rw [lookup_withoutKey]
  by_cases root : other = []
  · subst root
    simp [named.symm]
  · by_cases same : other = location <;> simp [root, same, named]

@[simp] theorem working_put (fs : FileSystem) (location : Location) (item : Item) :
    (fs.put location item).working = fs.working := rfl

@[simp] theorem working_erase (fs : FileSystem) (location : Location) :
    (fs.erase location).working = fs.working := rfl

end FileSystem

end Stencil
