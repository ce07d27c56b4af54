import Mandate.Json.Record
import Mandate.Table

/-!
# Risk signals

Requests are counted per organisation and agent over a sliding window. The count gives a score
from 0 to 100, and a count that reaches the threshold raises the flag `rate_spike`. Operators can
raise further flags, each until a moment of its own.

What has left the window is forgotten when the signals of its key are read. Keys that nobody
reads are caught by a sweep over all keys at every 1024th record. Moments are in milliseconds,
and a clock that runs backwards never makes a request old.
-/

namespace Mandate.Risk

open Mandate.Json

/-- The flag of a request rate that has reached the threshold. -/
def rateSpike : String := "rate_spike"

/-- What is known about a caller at the moment. -/
structure Signals where
  score : Nat
  flags : List String
  deriving DecidableEq, Repr, Inhabited

namespace Signals

/-- Whether a flag is raised. -/
def hasFlag (s : Signals) (flag : String) : Bool :=
  s.flags.contains flag

def json (s : Signals) : Value :=
  .object <| field "score" (.nat s.score) ++ field "flags" (.strings s.flags)

def decode : Decoder Signals := Decoder.record do
  let score ← Fields.required "score" (Decoder.unsigned 32)
  let flags ← Fields.required "flags" Decoder.strings
  return ⟨score, flags⟩

end Signals

/-- Recent requests and raised flags by key. -/
structure Tracker where
  /-- The length of the window in milliseconds. -/
  window : Nat
  /-- The count at which the rate has spiked. -/
  threshold : Nat
  /-- The moments of the recent requests of a key, in the order of arrival. -/
  hits : Table (List Nat) := {}
  /-- The raised flags of a key, each with the moment at which it ends. -/
  alerts : Table (Table Nat) := {}
  /-- How many requests have been recorded. -/
  records : Nat := 0
  deriving DecidableEq, Repr

namespace Tracker

/-- The window that stands in for a window of no length. -/
def defaultWindow : Nat := 30000

/-- The threshold that stands in for a threshold of zero. -/
def defaultThreshold : Nat := 50

/-- How many records lie between two sweeps. -/
def sweepEvery : Nat := 1024

/-- An empty tracker. -/
def start (window threshold : Nat) : Tracker where
  window := if window = 0 then defaultWindow else window
  threshold := if threshold = 0 then defaultThreshold else threshold

/-- The key of a caller. -/
def key (org agent : String) : String :=
  org ++ ":" ++ agent

/-- The requests that are still in the window, where older ones stand before newer ones. -/
def within (window now : Nat) (moments : List Nat) : List Nat :=
  moments.dropWhile fun moment => window ≤ now - moment

/-- The flags that have not ended. -/
def standing (now : Nat) (flags : Table Nat) : Table Nat :=
  flags.filter fun ends => now < ends

/-- The requests of a key that are still in the window. -/
def recent (t : Tracker) (key : String) (now : Nat) : List Nat :=
  within t.window now ((t.hits.get? key).getD [])

/-- The flags of a key that have not ended. -/
def raised (t : Tracker) (key : String) (now : Nat) : Table Nat :=
  standing now ((t.alerts.get? key).getD {})

/-- Forget what is over for a key. A key without requests or without flags is dropped. -/
def prune (t : Tracker) (key : String) (now : Nat) : Tracker :=
  let hits := t.recent key now
  let alerts := t.raised key now
  { t with
    hits := if hits.isEmpty then t.hits.erase key else t.hits.insert key hits
    alerts := if alerts.isEmpty then t.alerts.erase key else t.alerts.insert key alerts }

/-- Forget what is over for every key. -/
def sweep (t : Tracker) (now : Nat) : Tracker :=
  { t with
    hits := (t.hits.mapValues (within t.window now)).filter (!·.isEmpty)
    alerts := (t.alerts.mapValues (standing now)).filter (!·.isEmpty) }

/-- Record a request. -/
def record (t : Tracker) (org agent : String) (now : Nat) : Tracker :=
  let counted := { t with records := t.records + 1 }
  let swept := if counted.records % sweepEvery = 0 then counted.sweep now else counted
  { swept with hits := swept.hits.modify (key org agent) [] (· ++ [now]) }

/-- The score of a number of requests in the window. -/
def score (t : Tracker) (count : Nat) : Nat :=
  min (count * 100 / t.threshold) 100

/-- The signals that a count and some raised flags give. The flag of a spiked rate stands first
and is listed once. -/
def signalsOf (t : Tracker) (count : Nat) (raised : List String) : Signals :=
  if t.threshold ≤ count then ⟨t.score count, rateSpike :: raised.filter (· != rateSpike)⟩
  else ⟨t.score count, raised⟩

/-- The signals of a caller, and the tracker after what is over has been forgotten. -/
def signals (t : Tracker) (org agent : String) (now : Nat) : Signals × Tracker :=
  let key := key org agent
  (t.signalsOf (t.recent key now).length (t.raised key now).keys, t.prune key now)

/-- Raise a flag until a moment. -/
def raiseFlag (t : Tracker) (org agent flag : String) (ends : Nat) : Tracker :=
  { t with alerts := t.alerts.modify (key org agent) {} (·.insert flag ends) }

/-- Take a flag back. -/
def clearFlag (t : Tracker) (org agent flag : String) : Tracker :=
  let key := key org agent
  match t.alerts.get? key with
  | none => t
  | some flags =>
      let rest := flags.erase flag
      { t with alerts := if rest.isEmpty then t.alerts.erase key else t.alerts.insert key rest }

/-- The number of keys about which something is known. -/
def tracked (t : Tracker) : Nat :=
  t.hits.keys.length + (t.alerts.keys.filter fun k => (t.hits.get? k).isNone).length

end Tracker

end Mandate.Risk
