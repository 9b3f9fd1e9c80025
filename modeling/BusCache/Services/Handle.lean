import BusCache.Session.Discovery

/-!
# Handles — typed views of elements

A handle of a service's object holds the path of an element that implemented the right interface
when the handle was made. Its getters read the cache, its setters and methods go through the calls
of the session; once the element is gone, all of them fail with a stale reference.
-/

namespace BusCache

def Session.typedPath (s : Session) (path : Path) (interface : String) : Except BusError Path := do
  let e ← s.element path
  if e.interface ≠ interface then
    throw (.typeMismatch interface e.interface)
  return path

namespace Attempt

def setFlag (path : Path) (name : String) (value : Bool) (completion : Option Completion) :
    Attempt Unit :=
  setPropertyAs path name (.scalar (.bool value)) (.basic .bool) completion

def setText (path : Path) (name value : String) (completion : Option Completion) :
    Attempt Unit :=
  setPropertyAs path name (.string value) (.basic .string) completion

/-- Registers an element of an interface at a path, unless there is an element of another interface
there. -/
def registerTyped (path : Path) (interface : String) : Attempt Path := do
  perform fun r => (r.getOrCreate path { interface }).2
  check fun s => s.typedPath path interface

end Attempt

end BusCache
