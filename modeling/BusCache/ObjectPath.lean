/-!
# Object paths — the names of objects on the bus

A well-formed object path is `/`, or one or more elements, each a slash followed by letters, digits
and underscores of ASCII, at least one of them.
-/

namespace BusCache

/-- The name of an object, well-formed or not. -/
abbrev Path := String

namespace Path

def isElementChar (c : Char) : Bool := c.isAlphanum || c = '_'

/-- Whether characters continue a path; `fresh` says that the last one was a slash, so that an
element has to follow. -/
def continues : (fresh : Bool) → List Char → Bool
  | fresh, [] => !fresh
  | fresh, c :: rest =>
      if c = '/' then !fresh && continues true rest
      else isElementChar c && continues false rest

def isWellFormed (path : Path) : Bool :=
  match path.toList with
  | ['/'] => true
  | '/' :: rest => continues true rest
  | _ => false

end Path

end BusCache
