/-
This file is about programs that take one step after another.

A program is a step function: from a state and an action it computes the next
state, or `none` when the action cannot happen there. A run is a list of actions;
`Reaches` keeps of a run only its two ends, and asks every step of it to be allowed,
so that one definition serves runs without a restriction and runs whose steps all
meet a condition. An invariant is proved for one step and holds at the end of every
run.
-/

namespace Runs

universe u v

variable {State : Type u} {Action : Type v}

/-- Executes the actions in order; `none` as soon as one of them cannot happen. -/
def run (step : State → Action → Option State) : State → List Action → Option State
  | start, [] => some start
  | start, action :: rest =>
      match step start action with
      | some middle => run step middle rest
      | none => none

/-- `Reaches step allowed start final` says that a run leads from `start` to `final` and
that every one of its actions is allowed in the state in which it happens. -/
inductive Reaches (step : State → Action → Option State) (allowed : State → Action → Prop)
    (start : State) : State → Prop
  | refl : Reaches step allowed start start
  | tail {middle final : State} {action : Action} :
      Reaches step allowed start middle → allowed middle action →
        step middle action = some final → Reaches step allowed start final

/-- The restriction that allows every action. -/
def unrestricted : State → Action → Prop := fun _ _ => True

variable {step : State → Action → Option State} {allowed : State → Action → Prop}

theorem Reaches.single {start final : State} {action : Action} (permitted : allowed start action)
    (taken : step start action = some final) : Reaches step allowed start final :=
  .tail .refl permitted taken

theorem Reaches.trans {start middle final : State} (first : Reaches step allowed start middle)
    (second : Reaches step allowed middle final) : Reaches step allowed start final := by
  induction second with
  | refl => exact first
  | tail _ permitted taken inductionHypothesis =>
      exact .tail inductionHypothesis permitted taken

/-- A step can also be put in front of a run. -/
theorem Reaches.head {start middle final : State} {action : Action}
    (permitted : allowed start action) (taken : step start action = some middle)
    (rest : Reaches step allowed middle final) : Reaches step allowed start final :=
  (Reaches.single permitted taken).trans rest

/-- An invariant that holds at the start and is kept by every allowed step holds at the end. -/
theorem Reaches.invariant {start final : State} (Invariant : State → Prop)
    (reached : Reaches step allowed start final) (holds : Invariant start)
    (kept : ∀ state action next, Invariant state → allowed state action →
      step state action = some next → Invariant next) : Invariant final := by
  induction reached with
  | refl => exact holds
  | tail _ permitted taken inductionHypothesis =>
      exact kept _ _ _ inductionHypothesis permitted taken

/-- An executed list of actions, each of them allowed where it happens, is a run. -/
theorem reaches_of_run {start final : State} (actions : List Action)
    (permitted : ∀ state, ∀ action ∈ actions, allowed state action)
    (executed : run step start actions = some final) : Reaches step allowed start final := by
  induction actions generalizing start with
  | nil =>
      rw [run, Option.some.injEq] at executed
      exact executed ▸ .refl
  | cons action rest inductionHypothesis =>
      rw [run] at executed
      cases taken : step start action with
      | none =>
          rw [taken] at executed
          exact absurd executed nofun
      | some middle =>
          rw [taken] at executed
          refine .head (permitted start action List.mem_cons_self) taken ?_
          exact inductionHypothesis
            (fun state other member => permitted state other (List.mem_cons_of_mem _ member))
            executed

/-- Every action of a list meets the condition in the state in which it happens. -/
def Throughout (step : State → Action → Option State) (condition : State → Action → Prop) :
    State → List Action → Prop
  | _, [] => True
  | start, action :: rest =>
      condition start action ∧
        ∀ next, step start action = some next → Throughout step condition next rest

/-- A list of actions that meets the condition throughout is a run of such actions. -/
theorem Throughout.reaches {start final : State} {actions : List Action}
    (met : Throughout step allowed start actions)
    (executed : run step start actions = some final) : Reaches step allowed start final := by
  induction actions generalizing start with
  | nil =>
      rw [run, Option.some.injEq] at executed
      exact executed ▸ .refl
  | cons action rest inductionHypothesis =>
      rw [run] at executed
      cases taken : step start action with
      | none =>
          rw [taken] at executed
          cases executed
      | some middle =>
          rw [taken] at executed
          exact .head met.1 taken (inductionHypothesis (met.2 middle taken) executed)

/-- Two conditions that agree where an invariant holds are met throughout the same lists. -/
theorem throughout_congr {first second : State → Action → Prop} (Invariant : State → Prop)
    (kept : ∀ state action next, Invariant state → step state action = some next → Invariant next)
    (agree : ∀ state action, Invariant state → (first state action ↔ second state action))
    (actions : List Action) {start : State} (holds : Invariant start) :
    Throughout step first start actions ↔ Throughout step second start actions := by
  induction actions generalizing start with
  | nil => exact Iff.rfl
  | cons action rest inductionHypothesis =>
      refine and_congr (agree start action holds) (forall₂_congr fun next taken => ?_)
      exact inductionHypothesis (kept start action next holds taken)

/-- Some action of a list meets the condition in the state in which it happens. -/
def Eventually (step : State → Action → Option State) (condition : State → Action → Prop) :
    State → List Action → Prop
  | _, [] => False
  | start, action :: rest =>
      condition start action ∨
        ∃ next, step start action = some next ∧ Eventually step condition next rest

/-- Every action of a list that meets the first condition meets the second one, or is followed by
one that does. -/
def LeadsTo (step : State → Action → Option State) (first second : State → Action → Prop) :
    State → List Action → Prop
  | _, [] => True
  | start, action :: rest =>
      (first start action → Eventually step second start (action :: rest)) ∧
        ∀ next, step start action = some next → LeadsTo step first second next rest

/-- What some actions open and others close, whatever is open, is closed in the end exactly if
every action that opens leads to one that closes. -/
theorem closed_iff_leadsTo {Closed : State → Prop} {opens closes : State → Action → Prop}
    (Invariant : State → Prop)
    (kept : ∀ state action next, Invariant state → step state action = some next → Invariant next)
    (closed : ∀ state action next, Invariant state → step state action = some next →
      (Closed next ↔ closes state action ∨ Closed state ∧ ¬ opens state action))
    (actions : List Action) {start final : State} (holds : Invariant start)
    (executed : run step start actions = some final) :
    Closed final ↔ LeadsTo step opens closes start actions ∧
      (Closed start ∨ Eventually step closes start actions) := by
  induction actions generalizing start with
  | nil =>
      rw [run, Option.some.injEq] at executed
      rw [← executed]
      exact ⟨fun isClosed => ⟨trivial, .inl isClosed⟩, fun either => either.2.resolve_right id⟩
  | cons action rest inductionHypothesis =>
      rw [run] at executed
      cases taken : step start action with
      | none =>
          rw [taken] at executed
          cases executed
      | some middle =>
          rw [taken] at executed
          have later : Eventually step closes start (action :: rest) ↔
              closes start action ∨ Eventually step closes middle rest := by
            rw [Eventually, taken]
            simp
          have leads : LeadsTo step opens closes start (action :: rest) ↔
              (opens start action → closes start action ∨ Eventually step closes middle rest) ∧
                LeadsTo step opens closes middle rest := by
            rw [LeadsTo, later, taken]
            simp
          rw [inductionHypothesis (kept start action middle holds taken) executed, later, leads,
            closed start action middle holds taken]
          grind

/-- Executing a list of actions is a run of the program without a restriction. -/
theorem reaches_of_run_unrestricted {start final : State} (actions : List Action)
    (executed : run step start actions = some final) :
    Reaches step unrestricted start final :=
  reaches_of_run actions (fun _ _ _ => trivial) executed

end Runs
