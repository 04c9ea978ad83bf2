import Mathlib.Data.Set.Basic
import Parken.Lib.Runs

set_option relaxedAutoImplicit false
set_option autoImplicit false

/-!
# Goals a player can force

A player uses a system whose events carry data that is not the player's to choose. A move is then a
set of events: the player picks the move, and the environment picks the event of it that happens. A
goal can be forced from a state if the player can pick moves, each in view of the state it is
played in, that lead there whatever the environment picks, without a trap on the way.

## Main definitions

* `Runs.Forces` — the states from which the player can force a goal.

## Main results

* `Runs.Forces.trans` — a goal may be forced in stages.
* `Runs.Forces.exists_run` — a goal that can be forced is reached by some run.
-/

namespace Runs

variable {σ ε : Type*}

/-- The goal `P` can be forced by the moves `plays` offers: it is there, or the player has a move
no event of which traps, and from whatever state it leads to the goal can be forced. -/
inductive Forces (step : σ → ε → Option σ) (plays : σ → Set ε → Prop) (P : σ → Prop) :
    σ → Prop where
  /-- The goal is there. -/
  | goal {s : σ} (h : P s) : Forces step plays P s
  /-- The player moves. -/
  | move {s : σ} {E : Set ε} (hE : plays s E) (hne : E.Nonempty)
      (hsome : ∀ e ∈ E, (step s e).isSome)
      (hnext : ∀ e ∈ E, ∀ s' ∈ step s e, Forces step plays P s') : Forces step plays P s

variable {step : σ → ε → Option σ} {plays : σ → Set ε → Prop} {P Q : σ → Prop}

/-- **The stage rule.** If the player can force a stage, and the goal from every state of the stage,
then the player can force the goal. -/
theorem Forces.trans {s : σ} (h : Forces step plays P s)
    (hPQ : ∀ s, P s → Forces step plays Q s) : Forces step plays Q s := by
  induction h with
  | goal h => exact hPQ _ h
  | move hE hne hsome _ ih => exact .move hE hne hsome ih

/-- A player who can force a goal can force a weaker one. -/
lemma Forces.imp {s : σ} (h : Forces step plays P s) (hPQ : ∀ s, P s → Q s) :
    Forces step plays Q s :=
  h.trans fun s hs => .goal (hPQ s hs)

/-- A move whose events lead to the goal at once. -/
lemma Forces.of_step {s : σ} {E : Set ε} (hE : plays s E) (hne : E.Nonempty)
    (h : ∀ e ∈ E, ∃ s' ∈ step s e, P s') : Forces step plays P s := by
  refine .move hE hne (fun e he => ?_) fun e he s' hs' => ?_
  · obtain ⟨s', hs', -⟩ := h e he
    exact Option.isSome_of_mem hs'
  · obtain ⟨t, ht, hP⟩ := h e he
    obtain rfl := Option.mem_unique hs' ht
    exact .goal hP

/-- **Some run gets there.** A goal that can be forced holds at the end of some run. -/
theorem Forces.exists_run {s : σ} (h : Forces step plays P s) :
    ∃ es, ∃ s' ∈ run step es s, P s' := by
  induction h with
  | goal h => exact ⟨[], _, rfl, h⟩
  | @move s E _ hne hsome _ ih =>
    obtain ⟨e, he⟩ := hne
    obtain ⟨t, ht⟩ := Option.isSome_iff_exists.mp (hsome e he)
    obtain ⟨es, s', hs', hP⟩ := ih e he t ht
    refine ⟨e :: es, s', ?_, hP⟩
    rw [run_cons, ht]
    exact hs'

end Runs
