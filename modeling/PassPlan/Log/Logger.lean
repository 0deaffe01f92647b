import PassPlan.Log.Line
import PassPlan.PubSub.Broker
/-!
The logger: lines at or above a minimum level are written while logging is enabled, and each
written line is also published to the logger's subscribers. Closing the logger closes its
broker; lines are still written after that but reach no subscriber.
-/
namespace PassPlan.Log

/-- The type of the events that carry log lines. -/
def entryEvent : String := "log.entry"

/-- A logger: whether it writes, the lowest level it writes, the lines written so far and
the broker its lines are published on. -/
structure Logger where
  enabled : Bool := true
  minLevel : Int := 0
  written : List String := []
  broker : PubSub.Broker String := {}

namespace Logger

/-- Writes one line, when enabled and at or above the minimum level. -/
def write (l : Logger) (ts : Instant) (level : Int) (category message : String) (fields : List Value) :
    Logger :=
  if !l.enabled || level < l.minLevel then l
  else
    let line := format ts level category message fields ++ "\n"
    { l with written := l.written ++ [line], broker := l.broker.publish entryEvent line }

/-- Writes an error line with the error text, or `<nil>` without one, as a last field. -/
def writeError (l : Logger) (ts : Instant) (category message : String) (err : Option String)
    (fields : List Value) : Logger :=
  l.write ts 3 category message (fields ++ [.str "error", .str (err.getD "<nil>")])

/-- Subscribes to the lines written from now on. -/
def subscribe (l : Logger) : Logger × Nat :=
  let (broker, i) := l.broker.subscribe
  ({ l with broker }, i)

/-- The lines a subscription has received and not yet read. -/
def drain (l : Logger) (i : Nat) : Logger × List String :=
  let (broker, events, _) := l.broker.drain i
  ({ l with broker }, events.map (·.payload))

/-- Closes the broker. -/
def close (l : Logger) : Logger := { l with broker := l.broker.close }

end Logger
end PassPlan.Log
