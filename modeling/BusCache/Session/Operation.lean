import BusCache.Session.Replies
import BusCache.Session.Signals

/-!
# Operations — everything that can be done with a session

The operations of an application and the events of the bus, as data, and the changes of the order in
which tables are gone through, which neither of them asks for. A run is driven by performing
operations one after the other.
-/

namespace BusCache

namespace Run

def dispatch (event : BusEvent) (r : Run) : Run :=
  match event with
  | .reply call result => r.handleReply call result
  | .signal subscription _ member args => r.handleSignal subscription member args
  | .ownerChanged subscription name oldOwner newOwner =>
      r.handleOwnerChanged subscription name oldOwner newOwner

def dispatchAll (events : List BusEvent) (r : Run) : Run :=
  events.foldl (fun r event => r.dispatch event) r

def setHandler (kind : EventKind) (handler : Option Handler) (r : Run) : Run :=
  r.update fun s =>
    { s with handlers := fun k => if k = kind then handler else s.handlers k }

/-- From now on the tables are gone through in another order. -/
def relist (order : Listing) (r : Run) : Run := r.update fun s => { s with listing := order }

end Run

inductive Operation where
  | init
  | shutdown
  | create (path : Path) (interface : String)
  | remove (path : Path)
  | setProperty (path : Path) (name : String) (value : Value) (completion : Option Completion)
  | setPropertyAs (path : Path) (name : String) (value : Value) (kind : Kind)
      (completion : Option Completion)
  | call (path : Path) (kind : CallKind) (method : String) (args : List Argument)
      (completion : Option Completion)
  | callOn (path : Path) (interface : String) (kind : CallKind) (method : String)
      (args : List Argument) (completion : Option Completion)
  | sync (path : Path) (completion : Option Completion)
  | syncRoot
  | subscribeSignal (path : Path) (interface member : String)
  | change (path : Path) (name : String) (value : Value)
  | setHandler (kind : EventKind) (handler : Option Handler)
  | relist (order : Listing)
  | dispatch (event : BusEvent)

inductive Answer where
  | done
  | users (count : Nat)
  /-- Whether there was something before. -/
  | wasThere (flag : Bool)
  | interface (name : String)
deriving DecidableEq, Inhabited

namespace Operation

def answering {α : Type} (f : Run → α × Run) (answer : α → Answer) : Attempt Answer :=
  fun r => let (x, r') := f r; (.ok (answer x), r')

def silent (a : Attempt Unit) : Attempt Answer := do
  a
  return .done

theorem silent_apply (a : Attempt Unit) (r : Run) :
    silent a r = ((a r).1.map fun _ => .done, (a r).2) := by
  unfold silent
  rw [Attempt.bind_apply]
  cases a r with
  | mk outcome r' => cases outcome <;> rfl

def perform : Operation → Attempt Answer
  | init => answering (fun r => let r' := r.init; (r'.session.users, r')) .users
  | shutdown => answering (fun r => let r' := r.shutdown; (r'.session.users, r')) .users
  | create path interface => do
      Attempt.perform fun r => (r.getOrCreate path { interface }).2
      let e ← Attempt.check fun s => s.element path
      return .interface e.interface
  | remove path => answering (Run.remove path) .wasThere
  | setProperty path name value completion =>
      silent (Attempt.setProperty path name value completion)
  | setPropertyAs path name value kind completion =>
      silent (Attempt.setPropertyAs path name value kind completion)
  | call path kind method args completion =>
      silent (Attempt.call path kind method args completion)
  | callOn path interface kind method args completion =>
      silent (Attempt.callOn path interface kind method args completion)
  | sync path completion => silent (Attempt.sync path completion)
  | syncRoot => silent Attempt.syncRoot
  | subscribeSignal path interface member =>
      silent (Attempt.subscribeSignal path interface member)
  | change path name value => silent (Attempt.change path name value none)
  | setHandler kind handler =>
      answering (fun r => ((r.session.handlers kind).isSome, r.setHandler kind handler)) .wasThere
  | relist order => silent (Attempt.perform fun r => r.relist order)
  | dispatch event => silent (Attempt.perform fun r => r.dispatch event)

end Operation

end BusCache
