import BusCache.Monitor.Options

/-!
# The monitor's command line

Reads the options and tells what would be followed. There is no bus at this end: the sessions of
this library are driven by whoever holds a connection.
-/

namespace BusCache.Monitor

/-- What is shown for a refused command line, and the status to leave with. -/
def Refusal.answer : Refusal → String × UInt32
  | .helpAsked =>
      ("Watch the object tree of a D-Bus service\n\n"
        ++ "Usage: buscache-monitor [--session] [--depth <DEPTH>] [bluez|connman|nm]", 0)
  | .versionAsked => ("buscache-monitor 0.1.0", 0)
  | .invalidValue => ("error: a value is missing or not one of the possible ones", 2)
  | .unreadableValue => ("error: a value cannot be read", 2)
  | .unknownArgument => ("error: unexpected argument", 2)
  | .repeatedOption => ("error: an option cannot be used multiple times", 2)
  | .unneededValue => ("error: unexpected value", 2)

end BusCache.Monitor

open BusCache in
def main (args : List String) : IO UInt32 := do
  match Monitor.Options.read args with
  | .error refusal =>
      let (text, status) := refusal.answer
      if status = 0 then IO.println text else IO.eprintln text
      return status
  | .ok options =>
      IO.println s!"following {options.config.service} on the {options.bus.name} bus"
      return 0
