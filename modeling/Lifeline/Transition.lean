/-!
# Transitions and runs

A transition takes a state to the next one and has effects on the way.  A
machine is a transition for each input, and a run takes inputs one after the
other; it keeps the last state and all effects in their order.  A run of two
lists of inputs is a run of the first and then of the second (`run_append`).
-/

namespace Lifeline

abbrev Transition (State Effect : Type) := State → State × List Effect

namespace Transition

variable {State Effect Input : Type}

/-- The transition that leaves everything as it is. -/
def idle : Transition State Effect := fun state => (state, [])

/-- A transition that only changes the state. -/
def silently (change : State → State) : Transition State Effect := fun state => (change state, [])

/-- A transition that only has effects. -/
def emit (effects : List Effect) : Transition State Effect := fun state => (state, effects)

/-- One transition after the other. -/
def andThen (first second : Transition State Effect) : Transition State Effect :=
  fun state =>
    let afterFirst := first state
    let afterSecond := second afterFirst.1
    (afterSecond.1, afterFirst.2 ++ afterSecond.2)

/-- A run: the last state and all effects. -/
def run (step : Input → Transition State Effect) : List Input → Transition State Effect
  | [] => idle
  | input :: inputs => andThen (step input) (run step inputs)

theorem andThen_assoc (first second third : Transition State Effect) :
    andThen (andThen first second) third = andThen first (andThen second third) := by
  funext state
  simp [andThen]

theorem run_append (step : Input → Transition State Effect) (earlier later : List Input) :
    run step (earlier ++ later) = andThen (run step earlier) (run step later) := by
  induction earlier with
  | nil => rfl
  | cons input inputs ih => rw [List.cons_append, run, run, ih, andThen_assoc]

theorem run_concat (step : Input → Transition State Effect) (inputs : List Input) (input : Input)
    (state : State) :
    run step (inputs ++ [input]) state =
      ((step input (run step inputs state).1).1,
        (run step inputs state).2 ++ (step input (run step inputs state).1).2) := by
  rw [run_append]
  simp [andThen, run, idle]

end Transition

end Lifeline
