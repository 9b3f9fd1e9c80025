import BusCache.Session.Calls

/-!
# Discovery — elements found in the properties of others

After a fetch or a change of properties, the paths that they list for children are registered as
elements below the one that lists them, each once, and fetched in turn. A path that is registered
already stays what it is. The tree is followed down to the depth of the configuration.
-/

namespace BusCache

namespace Session

/-- The paths listed for children of an element that are not registered, with the interfaces they
are expected to have, in the order of the configured links. If one property changed, only links of
that property count. -/
def unregisteredChildren (s : Session) (e : Element) (changed : Option String) :
    List (Path × String) :=
  let links := (s.config.childrenOf e.interface).filter fun link =>
    changed.all fun key => key = link.property
  links.flatMap fun link =>
    match Table.get? e.cache link.property with
    | none => []
    | some p =>
        (p.value.objectPaths.filter fun child => !s.isRegistered child).map fun child =>
          (child, link.childInterface)

end Session

namespace Run

/-- Registers an element at a path unless there is one; tells whether it did. -/
def getOrCreate (path : Path) (e : Element) (r : Run) : Bool × Run :=
  if r.session.isRegistered path then (false, r) else (true, r.register path e)

/-- Registers an element that was discovered through another one, and fetches it if it is new. -/
def adopt (path : Path) (interface : String) (parent : Path) (depth : Nat) (r : Run) : Run :=
  match r.getOrCreate path { interface, parent := some parent, depth } with
  | (false, r) => r
  | (true, r) => (Attempt.sync path none r).2

/-- Registers and fetches the children that an element lists, as far as the depth allows. -/
def cascade (path : Path) (changed : Option String) (r : Run) : Run :=
  match r.session.element? path with
  | none => r
  | some e =>
      let depth := e.depth + 1
      if depth > r.session.config.maxDepth.toNat then r
      else
        (r.session.unregisteredChildren e changed).foldl
          (fun r child => r.adopt child.1 child.2 path depth) r

/-- Writes a property of a registered element, announces the change and follows its children. -/
def storeChange (path : Path) (name : String) (value : Value) (given : Option Kind) (r : Run) :
    Run :=
  ((r.update fun s => s.modifyElement path fun e => e.setProperty name value given)
    |>.emit .elementUpdated path (.changed name (some value)))
    |>.cascade path (some name)

end Run

namespace Attempt

/-- Writes a cached property as if the service had announced it. -/
def change (path : Path) (name : String) (value : Value) (given : Option Kind) : Attempt Unit := do
  let _ ← check fun s => s.element path
  perform fun r => r.storeChange path name value given

end Attempt

end BusCache
