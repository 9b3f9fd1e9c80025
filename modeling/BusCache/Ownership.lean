import BusCache.Message

/-!
# Ownership — who owns the service's name

A service is present while somebody owns its name on the bus. What a notification of a change means
depends on what is known already: it may bring the service up, take it down, replace its owner, or
mean nothing.
-/

namespace BusCache

inductive ServiceState where
  | absent
  | present (owner : String)
deriving DecidableEq, Inhabited

namespace ServiceState

def isPresent : ServiceState → Bool
  | present _ => true
  | absent => false

def owner? : ServiceState → Option String
  | present owner => some owner
  | absent => none

end ServiceState

inductive Transition where
  | enter (owner : String)
  | exit
  | replace (owner : String)
  | ignore
deriving DecidableEq, Inhabited

/-- The users of a session and what they made it ask the bus. -/
structure Ownership where
  users : Nat := 0
  state : ServiceState := .absent
  /-- The watch on the name's owner, held while there are users. -/
  watch : Option SubscriptionId := none
  /-- The question who owns the name at the start, until it is answered. -/
  query : Option CallId := none
deriving Inhabited

namespace ServiceState

/-- What a notification means. Without a new owner the service goes down, unless the notification
names an old owner other than the known one. -/
def classify (state : ServiceState) (oldOwner newOwner : String) : Transition :=
  match state with
  | absent => if newOwner.isEmpty then .ignore else .enter newOwner
  | present owner =>
      if newOwner.isEmpty then
        if oldOwner.isEmpty || oldOwner = owner then .exit else .ignore
      else if owner = newOwner then .ignore
      else .replace newOwner

end ServiceState

end BusCache
