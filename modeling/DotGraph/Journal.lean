import DotGraph.Record

/-!
# Journals

The outcome of a run together with the records it made. Records made before a failure are kept.
-/

namespace DotGraph

universe u v

/-- What succeeds does so at each of its steps. -/
theorem bind_eq_ok {ε : Type u} {α β : Type v} {outcome : Except ε α} {next : α → Except ε β}
    {value : β} :
    outcome >>= next = .ok value ↔ ∃ first, outcome = .ok first ∧ next first = .ok value := by
  cases outcome <;> simp [bind, Except.bind]

structure Journal (ε : Type u) (α : Type v) where
  records : List Record
  outcome : Except ε α

namespace Journal

variable {ε : Type u} {α β : Type v}

def ofExcept (outcome : Except ε α) : Journal ε α := ⟨[], outcome⟩

/-- Runs `next` on the value of `first`; after a failure nothing more is recorded. -/
def andThen (first : Journal ε α) (next : α → Journal ε β) : Journal ε β :=
  match first.outcome with
  | .error error => ⟨first.records, .error error⟩
  | .ok value => ⟨first.records ++ (next value).records, (next value).outcome⟩

instance : Monad (Journal ε) where
  pure value := ofExcept (.ok value)
  bind := andThen

instance : MonadLift (Except ε) (Journal ε) := ⟨ofExcept⟩

def fail (error : ε) : Journal ε α := ofExcept (.error error)

def note (record : Record) : Journal ε PUnit := ⟨[record], .ok ⟨⟩⟩

/-- Records made without a chance of failure. -/
def noteAll (records : List Record) : Journal ε PUnit := ⟨records, .ok ⟨⟩⟩

def mapError {ε' : Type u} (f : ε → ε') (journal : Journal ε α) : Journal ε' α :=
  ⟨journal.records, journal.outcome.mapError f⟩

theorem outcome_bind (journal : Journal ε α) (next : α → Journal ε β) :
    (journal >>= next).outcome = journal.outcome >>= fun value => (next value).outcome := by
  obtain ⟨records, outcome⟩ := journal
  cases outcome <;> rfl

theorem outcome_bind_eq_ok {journal : Journal ε α} {next : α → Journal ε β} {value : β} :
    (journal >>= next).outcome = .ok value ↔
      ∃ first, journal.outcome = .ok first ∧ (next first).outcome = .ok value := by
  rw [outcome_bind, bind_eq_ok]

end Journal

end DotGraph
