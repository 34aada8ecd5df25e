/-
This file is about programs that do in several steps what another program does in one.

A simulation relates the states of a concrete program to those of an abstract one, so that
every step of the concrete program is matched by a run of the abstract one, which may have no
step at all. Then every run is matched by a run, and what holds of the abstract states that can
be reached is known of the concrete ones through the relation.
-/

import GraffiTab.Library.Runs

namespace Simulations

open Runs

universe u v

variable {State Middle Abstract : Type u} {Action MiddleAction AbstractAction : Type v}
  {step : State → Action → Option State} {allowed : State → Action → Prop}
  {middleStep : Middle → MiddleAction → Option Middle}
  {middleAllowed : Middle → MiddleAction → Prop}
  {abstractStep : Abstract → AbstractAction → Option Abstract}
  {abstractAllowed : Abstract → AbstractAction → Prop}

/-- Every allowed step between related states is matched by a run of the abstract program. -/
def Simulates (step : State → Action → Option State) (allowed : State → Action → Prop)
    (abstractStep : Abstract → AbstractAction → Option Abstract)
    (abstractAllowed : Abstract → AbstractAction → Prop) (Related : State → Abstract → Prop) :
    Prop :=
  ∀ state action next abstract, Related state abstract → allowed state action →
    step state action = some next → ∃ abstractNext,
      Reaches abstractStep abstractAllowed abstract abstractNext ∧ Related next abstractNext

/-- Every run from related states is matched by a run. -/
theorem Simulates.reaches {Related : State → Abstract → Prop}
    (simulates : Simulates step allowed abstractStep abstractAllowed Related)
    {start final : State} {abstract : Abstract} (related : Related start abstract)
    (reached : Reaches step allowed start final) :
    ∃ abstractFinal, Reaches abstractStep abstractAllowed abstract abstractFinal ∧
      Related final abstractFinal := by
  induction reached with
  | refl => exact ⟨abstract, .refl, related⟩
  | tail _ permitted taken inductionHypothesis =>
      obtain ⟨abstractMiddle, before, middleRelated⟩ := inductionHypothesis
      obtain ⟨abstractFinal, after, finalRelated⟩ :=
        simulates _ _ _ abstractMiddle middleRelated permitted taken
      exact ⟨abstractFinal, before.trans after, finalRelated⟩

/-- What holds of the abstract states that can be reached holds of what they are related to. -/
theorem Simulates.invariant {Related : State → Abstract → Prop}
    (simulates : Simulates step allowed abstractStep abstractAllowed Related)
    {start final : State} {abstract : Abstract} (related : Related start abstract)
    {Invariant : Abstract → Prop}
    (holds : ∀ abstractFinal, Reaches abstractStep abstractAllowed abstract abstractFinal →
      Invariant abstractFinal)
    (reached : Reaches step allowed start final) :
    ∃ abstractFinal, Related final abstractFinal ∧ Invariant abstractFinal := by
  obtain ⟨abstractFinal, abstractReached, finalRelated⟩ := simulates.reaches related reached
  exact ⟨abstractFinal, finalRelated, holds abstractFinal abstractReached⟩

end Simulations
