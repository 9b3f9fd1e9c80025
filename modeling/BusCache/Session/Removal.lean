import BusCache.Session.Run

/-!
# Removal — elements leave with what was discovered through them

Removing an element removes the elements discovered through it first, so every element leaves after
its children. When the service goes away, all elements are removed in this way, one tree after the
other.
-/

namespace BusCache

namespace Run

/-- Removes an element and everything below it, up to a number of levels. -/
def removeLevels : (levels : Nat) → Path → Run → Run
  | 0, _, r => r
  | levels + 1, path, r =>
      if r.session.isRegistered path then
        ((r.session.childrenOf path).foldl (fun r child => removeLevels levels child r) r)
          |>.releaseElement path
      else r

/-- Removes an element and everything below it; there are at most as many levels as elements. -/
def removeTree (path : Path) (r : Run) : Run :=
  removeLevels r.session.registry.length path r

def remove (path : Path) (r : Run) : Bool × Run :=
  if r.session.isRegistered path then (true, r.removeTree path) else (false, r)

def removeAll (r : Run) : Run :=
  r.session.paths.foldl (fun r path => r.removeTree path) r

end Run

end BusCache
