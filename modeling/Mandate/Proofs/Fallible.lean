/-! # Computations that may fail

A computation that begins with another one fails with it, and what succeeds has gone on with what
the first one gave. Work in place does the same, but it is done on a state, and what it has written
by the time at which it fails stays.
-/

namespace Mandate.Fallible

variable {ε α β : Type} {first : Except ε α} {next : α → Except ε β} {change : α → β}

theorem bind_of_ok {a : α} (hfirst : first = .ok a) : first >>= next = next a := by
  rw [hfirst]
  rfl

theorem bind_of_error {e : ε} (hfirst : first = .error e) : first >>= next = .error e := by
  rw [hfirst]
  rfl

theorem exists_of_bind_eq_ok {b : β} (hok : first >>= next = .ok b) :
    ∃ a, first = .ok a ∧ next a = .ok b := by
  cases first with
  | error e => cases hok
  | ok a => exact ⟨a, rfl, hok⟩

/-- What comes behind an objection that is not raised goes on. -/
theorem ok_of_unless {c : Prop} [Decidable c] {e : ε} {rest : Except ε β} {b : β}
    {behind : PUnit → Except ε β} (hok : (if c then throw e >>= behind else rest) = .ok b) :
    rest = .ok b := by
  split at hok
  · cases hok
  · exact hok

theorem exists_of_map_eq_ok {b : β} (hok : first.map change = .ok b) :
    ∃ a, first = .ok a ∧ change a = b := by
  cases first with
  | error e => cases hok
  | ok a => exact ⟨a, rfl, Except.ok.inj hok⟩

theorem map_eq_error_iff {e : ε} : first.map change = .error e ↔ first = .error e := by
  cases first <;> simp [Except.map]

end Mandate.Fallible

namespace Mandate.InPlace

variable {ε State α β : Type}

/-- Work in place goes on with what it has come to, whatever it works on. -/
theorem bind_apply (work : ExceptT ε (StateM State) α) (next : α → ExceptT ε (StateM State) β)
    (state : State) :
    (work >>= next) state = match work state with
      | (.ok a, written) => next a written
      | (.error e, written) => (.error e, written) := by
  simp only [bind, ExceptT.bind, ExceptT.mk, StateT.bind, ExceptT.bindCont]
  cases work state with
  | mk result written => cases result <;> rfl

end Mandate.InPlace
