/-
# Walks of a state machine

A log of state changes, each with the state it leaves and the state it enters, is a `Walk` of the
machine when every change starts where the one before it ended and is one the machine allows.

Walks compose (`append`), a final state admits only the empty one (`of_final`), and what every
change makes true and keeps holds at the end of a walk that has changes (`entered`).  The machine is
a relation; nothing is asked of its states.
-/
import Mathlib.Init

namespace Runs

variable {α : Type*} {next : α → α → Prop}

/-- A walk with its two ends. -/
inductive Walk (next : α → α → Prop) : α → List (α × α) → α → Prop
  | stay (s : α) : Walk next s [] s
  | move {s t u : α} {log : List (α × α)} (h : next s t) (rest : Walk next t log u) :
      Walk next s ((s, t) :: log) u

namespace Walk

theorem single {s t : α} (h : next s t) : Walk next s [(s, t)] t :=
  .move h (.stay t)

theorem append {s t u : α} {log log' : List (α × α)} (h : Walk next s log t)
    (h' : Walk next t log' u) : Walk next s (log ++ log') u := by
  induction h with
  | stay => exact h'
  | move hnext _ ih => exact .move hnext (ih h')

/-- From a state that the machine does not leave there is no change. -/
theorem of_final {s t : α} {log : List (α × α)} (h : Walk next s log t)
    (hfinal : ∀ u, ¬ next s u) : log = [] ∧ t = s := by
  cases h with
  | stay => exact ⟨rfl, rfl⟩
  | move hnext => exact absurd hnext (hfinal _)

/-- What every change makes true, and every change keeps, holds at the end of a walk that has
changes. -/
theorem entered {P : α → Prop} (hP : ∀ s t, next s t → P s → P t) {s t : α} {log : List (α × α)}
    (h : Walk next s log t) (hfirst : ∀ u, next s u → P u) (hlog : log ≠ []) : P t := by
  induction h with
  | stay => exact absurd rfl hlog
  | move hnext hrest ih =>
    cases hrest with
    | stay => exact hfirst _ hnext
    | move hnext' hrest' =>
      refine ih (fun u hu => hP _ u hu (hfirst _ hnext)) ?_
      exact List.cons_ne_nil _ _

end Walk

end Runs
