import BusCache.Session.Discovery
import BusCache.Session.Removal

/-!
# Presence — the service comes up and goes down

A session with users watches the owner of the service's name. When an owner appears, the root
element is registered, its lifecycle signals are subscribed to and its properties fetched, and the
service is up. When the owner goes, every element is removed, and the service is down. A new owner
in place of the old one is both, one after the other.
-/

namespace BusCache

namespace Run

/-- Subscribes to the lifecycle signals of the root element, except those of names that it has
subscriptions for. -/
def subscribeLifecycle (root : Path) (r : Run) : Run :=
  r.session.config.lifecycle.foldl
    (fun r signal =>
      match r.session.element? root with
      | none => r
      | some e =>
          if e.hasSubscription signal.member then r
          else
            r.openSubscription root
              { sender := r.session.destination
                path := root
                interface := signal.interface
                member := signal.member }
              (.lifecycle signal.action))
    r

def enter (owner : String) (r : Run) : Run :=
  let root := r.session.config.rootPath
  let r := r.setState (.present owner)
  let r := (r.getOrCreate root { interface := r.session.config.rootInterface }).2
  let r := r.subscribeLifecycle root
  let r := (Attempt.sync root none r).2
  r.emit .serviceUp root (.owner owner)

def exit (r : Run) : Run :=
  (r.removeAll.setState .absent).emit .serviceDown r.session.config.rootPath .none

def ownerChanged (oldOwner newOwner : String) (r : Run) : Run :=
  match r.session.state.classify oldOwner newOwner with
  | .enter owner => r.enter owner
  | .exit => r.exit
  | .replace owner => r.exit.enter owner
  | .ignore => r

/-- Counts one more user. The first one starts the watch. -/
def init (r : Run) : Run :=
  let users := r.session.users + 1
  let r := r.setUsers users
  if users = 1 then r.openWatch.openQuery else r

/-- Counts one user less. The last one tears everything down. -/
def shutdown (r : Run) : Run :=
  match r.session.users with
  | 0 => r
  | 1 =>
      let r := r.setUsers 0
      let r := if r.session.state.isPresent then r.exit else r.removeAll
      r.closeWatch.closeQuery
  | users + 1 => r.setUsers users

end Run

end BusCache
