import Mandate.Crypto.Sha2
import Mandate.Decision
import Mandate.Ledger.Entry
import Mandate.Text.Bytes

/-!
# Occasions

What an operation takes from the world around it: the wall clock, a clock that never runs
backwards, and a fresh identifier. With these as arguments every operation is a function. A decision
reads the steady clock again when it comes to the risk signals; that reading stands here too, by how
much later it is. One draw of random bytes is enough for any number of occasions: the identifiers
are digests of the bytes together with a number.
-/

namespace Mandate

open Mandate.Time

/-- The circumstances of one operation. -/
structure Occasion where
  /-- A fresh identifier. -/
  id : Uuid
  /-- The wall clock. -/
  time : Timestamp
  /-- A steady clock in milliseconds, when the operation begins. -/
  clock : Nat
  /-- How much later the risk signals are read, in milliseconds. -/
  untilSignalsMs : Nat
  /-- How long an evaluation takes, in milliseconds. -/
  durationMs : Nat
  deriving DecidableEq, Repr, Inhabited

namespace Occasion

/-- The stamp of a ledger entry that is written on this occasion. -/
def stamp (o : Occasion) : Stamp := ⟨o.id, o.time⟩

/-- The steady clock when the risk signals are read. -/
def signalsClock (o : Occasion) : Nat := o.clock + o.untilSignalsMs

theorem clock_le_signalsClock (o : Occasion) : o.clock ≤ o.signalsClock := Nat.le_add_right _ _

/-- The timing of an evaluation on this occasion. -/
def timing (o : Occasion) : Timing := ⟨o.time, o.durationMs⟩

/-- The occasion with a number, at a given time. -/
def drawn (bytes : List UInt8) (time : Timestamp) (number : Nat) : Occasion where
  id := .ofRandom (Crypto.Sha2.ofBytes (Crypto.sha256 (bytes ++ Text.utf8 (toString number))))
  time := time
  clock := 0
  untilSignalsMs := 0
  durationMs := 0

end Occasion

end Mandate
