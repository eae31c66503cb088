import Mathlib.Logic.Relation

/-!
# Runs of executable transition systems

A system is a partial function from a state and a label to the next state.  Its runs are the
sequences of enabled labels, optionally restricted to those that a predicate on the current state
and the label admits.
-/

namespace Cxloom.Run

variable {State Label : Type} (next : State → Label → Option State)
  (admitted : State → Label → Prop)

def Step (before after : State) : Prop :=
  ∃ label, admitted before label ∧ next before label = some after

def ReachesBy : State → State → Prop :=
  Relation.ReflTransGen (Step next admitted)

/-- The states of every run. -/
def Reaches : State → State → Prop :=
  ReachesBy next fun _ _ => True

/-- Perform a list of labels, failing at the first disabled one. -/
def runLabels : State → List Label → Option State
  | state, [] => some state
  | state, label :: labels => (next state label).bind fun after => runLabels after labels

def AdmitsLabels : State → List Label → Prop
  | _, [] => True
  | state, label :: labels =>
      admitted state label ∧
        match next state label with
        | none => True
        | some after => AdmitsLabels after labels

instance decidableAdmitsLabels [∀ state label, Decidable (admitted state label)] :
    ∀ (state : State) (labels : List Label), Decidable (AdmitsLabels next admitted state labels)
  | _, [] => .isTrue trivial
  | state, label :: labels =>
      have : Decidable (match next state label with
          | none => True
          | some after => AdmitsLabels next admitted after labels) :=
        match next state label with
        | none => .isTrue trivial
        | some after => decidableAdmitsLabels after labels
      inferInstanceAs (Decidable (_ ∧ _))

variable {next admitted}

theorem ReachesBy.preserves {before after : State}
    (execution : ReachesBy next admitted before after) (invariant : State → Prop)
    (initially : invariant before)
    (step : ∀ state label after, invariant state → admitted state label →
      next state label = some after → invariant after) : invariant after := by
  induction execution with
  | refl => exact initially
  | tail _ last induction =>
      obtain ⟨label, admits, performed⟩ := last
      exact step _ label _ induction admits performed

theorem ReachesBy.mono {other : State → Label → Prop} {before after : State}
    (execution : ReachesBy next admitted before after)
    (weaker : ∀ state label, admitted state label → other state label) :
    ReachesBy next other before after := by
  induction execution with
  | refl => exact .refl
  | tail _ last induction =>
      obtain ⟨label, admits, performed⟩ := last
      exact induction.tail ⟨label, weaker _ _ admits, performed⟩

theorem reachesBy_of_runLabels {labels : List Label} {before after : State}
    (execution : runLabels next before labels = some after)
    (admits : AdmitsLabels next admitted before labels) :
    ReachesBy next admitted before after := by
  induction labels generalizing before with
  | nil =>
      obtain rfl : before = after := by simpa [runLabels] using execution
      exact .refl
  | cons label labels induction =>
      obtain ⟨now, rest⟩ := admits
      cases first : next before label with
      | none => simp [runLabels, first] at execution
      | some middle =>
          have later : runLabels next middle labels = some after := by
            simpa [runLabels, first] using execution
          rw [first] at rest
          exact .head ⟨label, now, first⟩ (induction later rest)

theorem admitsLabels_of_forall {labels : List Label}
    (always : ∀ label ∈ labels, ∀ state, admitted state label) (state : State) :
    AdmitsLabels next admitted state labels := by
  induction labels generalizing state with
  | nil => trivial
  | cons label labels induction =>
      refine ⟨always label List.mem_cons_self state, ?_⟩
      cases next state label with
      | none => trivial
      | some after =>
          exact induction (fun other member => always other (List.mem_cons_of_mem _ member)) after

theorem reaches_of_runLabels {labels : List Label} {before after : State}
    (execution : runLabels next before labels = some after) : Reaches next before after :=
  reachesBy_of_runLabels execution (admitsLabels_of_forall (fun _ _ _ => trivial) before)

end Cxloom.Run
