import Mathlib.Data.Option.Basic
import Mathlib.Data.List.Basic
import Mathlib.Logic.Relation
import Mathlib.Tactic.Common

set_option relaxedAutoImplicit false
set_option autoImplicit false

/-!
# Runs of partial step functions

A system is a partial step function `step : σ → ε → Option σ`: from a state and an event it
yields the next state, or `none` when the event stops the system (a trap). A run is a finite
list of events. This file has the run semantics and the induction rules that lift what one
step preserves to what a whole run preserves.

## Main definitions

* `Runs.run` — the state after a list of events, `none` once a step has trapped.
* `Runs.Throughout` — a property of every state a run visits.
* `Runs.Meets` — a condition on every step a run completes.
* `Runs.Attempts` — a condition on every step a run attempts, the one that traps included.
* `Runs.Reachable` — the states some run ends in.

## Main results

* `Runs.Throughout.of_meets` — a property preserved by the steps that meet a condition holds
  throughout every run that meets it.
* `Runs.Throughout.of_simulation` — where the steps simulate the moves of another system, every
  state of a run is related to one that system reaches.
* `Runs.throughout_iff_meets`, `Runs.throughout_iff_meets_of_forall` — if, next to an
  invariant, a step keeps the property exactly when it meets the condition, the runs that keep
  the property are those that meet it.
* `Runs.run_of_meets` — so does it hold in the state such a run ends in.
* `Runs.attempts_congr_of_forall`, `Runs.attempts_congr`, `Runs.meets_congr` — under an invariant,
  conditions on the steps of a run may be rewritten.
* `Runs.run_filter` — a part of the system that the other events leave alone runs on its own.
* `Runs.throughout_iff_forall_prefix` — the states a run visits are those its prefixes end in.
* `Runs.forall_throughout_iff_reachable` — throughout every run means in every reachable state.
-/

namespace Runs

variable {σ ε : Type*} (step : σ → ε → Option σ)

/-- The state after the events `es`, or `none` once a step has trapped. -/
def run : List ε → σ → Option σ
  | [], s => some s
  | e :: es, s => (step s e).bind (run es)

/-- `P` holds in every state the run of `es` from `s` visits, `s` included. -/
def Throughout (P : σ → Prop) : List ε → σ → Prop
  | [], s => P s
  | e :: es, s => P s ∧ ∀ s' ∈ step s e, Throughout P es s'

/-- Every step the run of `es` from `s` completes meets the condition `C` on the state before
it and its event. -/
def Meets (C : σ → ε → Prop) : List ε → σ → Prop
  | [], _ => True
  | e :: es, s => ∀ s' ∈ step s e, C s e ∧ Meets C es s'

/-- Every step the run of `es` from `s` attempts, completed or not, meets the condition `C` on
the state before it and its event. -/
def Attempts (C : σ → ε → Prop) : List ε → σ → Prop
  | [], _ => True
  | e :: es, s => C s e ∧ ∀ s' ∈ step s e, Attempts C es s'

/-- `s'` ends some run from `s`. -/
def Reachable (s s' : σ) : Prop := ∃ es, run step es s = some s'

instance decidableMeets (C : σ → ε → Prop) [∀ s e, Decidable (C s e)] :
    ∀ (es : List ε) (s : σ), Decidable (Meets step C es s)
  | [], _ => .isTrue trivial
  | e :: es, s =>
    have := decidableMeets C es
    inferInstanceAs (Decidable (∀ s' ∈ step s e, C s e ∧ Meets step C es s'))

instance decidableAttempts (C : σ → ε → Prop) [∀ s e, Decidable (C s e)] :
    ∀ (es : List ε) (s : σ), Decidable (Attempts step C es s)
  | [], _ => .isTrue trivial
  | e :: es, s =>
    have := decidableAttempts C es
    inferInstanceAs (Decidable (C s e ∧ ∀ s' ∈ step s e, Attempts step C es s'))

instance decidableThroughout (P : σ → Prop) [DecidablePred P] :
    ∀ (es : List ε) (s : σ), Decidable (Throughout step P es s)
  | [], s => inferInstanceAs (Decidable (P s))
  | e :: es, s =>
    have := decidableThroughout P es
    inferInstanceAs (Decidable (P s ∧ ∀ s' ∈ step s e, Throughout step P es s'))

variable {step}

@[simp] lemma run_nil (s : σ) : run step [] s = some s := rfl

@[simp] lemma run_cons (e : ε) (es : List ε) (s : σ) :
    run step (e :: es) s = (step s e).bind (run step es) := rfl

/-- A run of two lists of events goes through the state the first ends in. -/
lemma run_append (es₁ es₂ : List ε) (s : σ) :
    run step (es₁ ++ es₂) s = (run step es₁ s).bind (run step es₂) := by
  induction es₁ generalizing s with
  | nil => rfl
  | cons e es₁ ih => simp only [List.cons_append, run_cons, ih, Option.bind_assoc]

/-- What holds throughout a run holds where it starts. -/
lemma Throughout.head {P : σ → Prop} {es : List ε} {s : σ} (h : Throughout step P es s) :
    P s := by
  cases es with
  | nil => exact h
  | cons e es => exact h.1

/-- Weakening of the property kept throughout a run. -/
lemma Throughout.imp {P Q : σ → Prop} (hPQ : ∀ s, P s → Q s) :
    ∀ {es : List ε} {s : σ}, Throughout step P es s → Throughout step Q es s
  | [], _, h => hPQ _ h
  | _ :: _, _, h => ⟨hPQ _ h.1, fun s' hs' => (h.2 s' hs').imp hPQ⟩

/-- Two properties kept throughout a run are kept together. -/
lemma Throughout.and {P Q : σ → Prop} :
    ∀ {es : List ε} {s : σ}, Throughout step P es s → Throughout step Q es s →
      Throughout step (fun s => P s ∧ Q s) es s
  | [], _, hP, hQ => ⟨hP, hQ⟩
  | _ :: _, _, hP, hQ => ⟨⟨hP.1, hQ.1⟩, fun s' hs' => (hP.2 s' hs').and (hQ.2 s' hs')⟩

/-- For events in `E`, a condition on attempts that follows from another next to an invariant it
preserves is met wherever that one is. -/
theorem Attempts.imp_of_forall {E : ε → Prop} {J : σ → Prop} {C D : σ → ε → Prop}
    (hJ : ∀ s e s', E e → J s → C s e → step s e = some s' → J s')
    (hCD : ∀ s e, E e → J s → C s e → D s e) :
    ∀ {es : List ε} {s : σ}, (∀ e ∈ es, E e) → J s → Attempts step C es s → Attempts step D es s
  | [], _, _, _, _ => trivial
  | e :: _, s, hes, hs, h =>
    have he := hes e (by simp)
    ⟨hCD s e he hs h.1, fun s' hs' => (h.2 s' hs').imp_of_forall hJ hCD
      (fun e' he' => hes e' (List.mem_cons_of_mem _ he')) (hJ s e s' he hs h.1 hs')⟩

/-- The same for any events. -/
theorem Attempts.imp {J : σ → Prop} {C D : σ → ε → Prop}
    (hJ : ∀ s e s', J s → C s e → step s e = some s' → J s')
    (hCD : ∀ s e, J s → C s e → D s e) {es : List ε} {s : σ} (hs : J s)
    (h : Attempts step C es s) : Attempts step D es s :=
  h.imp_of_forall (E := fun _ => True) (fun s e s' _ => hJ s e s') (fun s e _ => hCD s e)
    (fun _ _ => trivial) hs

/-- Two conditions that agree on the events in `E`, wherever an invariant they preserve holds, are
met by the same attempts at such events. -/
theorem attempts_congr_of_forall {E : ε → Prop} {J : σ → Prop} {C D : σ → ε → Prop}
    (hJ : ∀ s e s', E e → J s → D s e → step s e = some s' → J s')
    (hCD : ∀ s e, E e → J s → (C s e ↔ D s e)) {es : List ε} {s : σ} (hes : ∀ e ∈ es, E e)
    (hs : J s) : Attempts step C es s ↔ Attempts step D es s := by
  constructor
  · refine fun h => h.imp_of_forall (fun s e s' he hs hc h => ?_)
      (fun s e he hs => (hCD s e he hs).mp) hes hs
    exact hJ s e s' he hs ((hCD s e he hs).mp hc) h
  · exact fun h => h.imp_of_forall hJ (fun s e he hs => (hCD s e he hs).mpr) hes hs

/-- Two conditions that agree wherever an invariant they preserve holds are met by the same
attempts. -/
theorem attempts_congr {J : σ → Prop} {C D : σ → ε → Prop}
    (hJ : ∀ s e s', J s → D s e → step s e = some s' → J s')
    (hCD : ∀ s e, J s → (C s e ↔ D s e)) {es : List ε} {s : σ} (hs : J s) :
    Attempts step C es s ↔ Attempts step D es s :=
  attempts_congr_of_forall (E := fun _ => True) (fun s e s' _ => hJ s e s')
    (fun s e _ => hCD s e) (fun _ _ => trivial) hs

/-- A condition on attempts is a condition on the steps completed. -/
lemma Attempts.meets {C : σ → ε → Prop} :
    ∀ {es : List ε} {s : σ}, Attempts step C es s → Meets step C es s
  | [], _, _ => trivial
  | _ :: _, _, h => fun s' hs' => ⟨h.1, (h.2 s' hs').meets⟩

/-- A condition on the events alone is met by the runs of events that satisfy it. -/
lemma meets_of_forall {p : ε → Prop} :
    ∀ {es : List ε} {s : σ}, (∀ e ∈ es, p e) → Meets step (fun _ e => p e) es s
  | [], _, _ => trivial
  | e :: _, _, h => fun _ _ =>
    ⟨h e (by simp), meets_of_forall fun e' he' => h e' (List.mem_cons_of_mem _ he')⟩

/-- **The run rule.** A property that every step meeting the condition preserves holds
throughout every run that meets the condition. -/
theorem Throughout.of_meets {P : σ → Prop} {C : σ → ε → Prop}
    (hstep : ∀ s e s', P s → C s e → step s e = some s' → P s') :
    ∀ {es : List ε} {s : σ}, P s → Meets step C es s → Throughout step P es s
  | [], _, hs, _ => hs
  | e :: _, s, hs, h =>
    ⟨hs, fun s' hs' => .of_meets hstep (hstep s e s' hs (h s' hs').1 hs') (h s' hs').2⟩

/-- A run of two lists of events meets a condition exactly when its two parts do. -/
lemma meets_append {C : σ → ε → Prop} {es₁ es₂ : List ε} {s : σ} :
    Meets step C (es₁ ++ es₂) s ↔
      Meets step C es₁ s ∧ ∀ s' ∈ run step es₁ s, Meets step C es₂ s' := by
  induction es₁ generalizing s with
  | nil => simp [Meets]
  | cons e es₁ ih =>
    cases hstep : step s e with
    | none => simp [Meets, hstep]
    | some t => simp [Meets, hstep, ih, and_assoc]

/-- A condition that follows from another next to an invariant it preserves is met wherever that
one is. -/
theorem Meets.imp {J : σ → Prop} {C D : σ → ε → Prop}
    (hJ : ∀ s e s', J s → C s e → step s e = some s' → J s')
    (hCD : ∀ s e s', J s → step s e = some s' → C s e → D s e) :
    ∀ {es : List ε} {s : σ}, J s → Meets step C es s → Meets step D es s
  | [], _, _, _ => trivial
  | e :: _, s, hs, h => fun s' hs' =>
    have ⟨hc, h⟩ := h s' hs'
    ⟨hCD s e s' hs hs' hc, h.imp hJ hCD (hJ s e s' hs hc hs')⟩

/-- Two conditions that agree on the steps from an invariant that they preserve are met by the same
runs. -/
theorem meets_congr {J : σ → Prop} {C D : σ → ε → Prop}
    (hJ : ∀ s e s', J s → D s e → step s e = some s' → J s')
    (hCD : ∀ s e s', J s → step s e = some s' → (C s e ↔ D s e)) {es : List ε} {s : σ} (hs : J s) :
    Meets step C es s ↔ Meets step D es s := by
  constructor
  · refine fun h => h.imp (fun s e s' hs hc h => ?_) (fun s e s' hs h => (hCD s e s' hs h).mp) hs
    exact hJ s e s' hs ((hCD s e s' hs h).mp hc) h
  · exact fun h => h.imp hJ (fun s e s' hs h => (hCD s e s' hs h).mpr) hs

/-- **The attempts rule.** If moreover the property gives `D` of every event, then every step
the run attempts meets `D`. -/
theorem Attempts.of_meets {P : σ → Prop} {C D : σ → ε → Prop}
    (hstep : ∀ s e s', P s → C s e → step s e = some s' → P s') (hD : ∀ s e, P s → D s e) :
    ∀ {es : List ε} {s : σ}, P s → Meets step C es s → Attempts step D es s
  | [], _, _, _ => trivial
  | e :: _, s, hs, h =>
    ⟨hD s e hs, fun s' hs' => .of_meets hstep hD (hstep s e s' hs (h s' hs').1 hs') (h s' hs').2⟩

/-- **The invariant rule.** A property that every step preserves holds throughout every run. -/
theorem Throughout.of_step {P : σ → Prop}
    (hstep : ∀ s e s', P s → step s e = some s' → P s') {es : List ε} {s : σ} (hs : P s) :
    Throughout step P es s :=
  .of_meets (C := fun _ _ => True) (fun s e s' h _ => hstep s e s' h) hs
    (meets_of_forall (p := fun _ => True) fun _ _ => trivial)

/-- **The simulation rule.** Let `R` relate the states to those of another system, and let every
step from a related state be a move of that system. Then every state of a run is related to one
the system reaches. -/
theorem Throughout.of_simulation {α : Type*} {R : σ → α → Prop} {M : α → α → Prop}
    (hstep : ∀ s a e s', R s a → step s e = some s' → ∃ a', M a a' ∧ R s' a') {es : List ε}
    {s : σ} {a : α} (hs : R s a) :
    Throughout step (fun s' => ∃ a', Relation.ReflTransGen M a a' ∧ R s' a') es s := by
  refine .of_step ?_ ⟨a, .refl, hs⟩
  rintro t e t' ⟨b, hab, ht⟩ hstep'
  obtain ⟨b', hmove, ht'⟩ := hstep t b e t' ht hstep'
  exact ⟨b', hab.tail hmove, ht'⟩

/-- **The exactness rule.** Let `J` be an invariant under the events in `E`. If from a state
with `J` and `P` a step on such an event keeps `P` exactly when it meets `C`, then `P` holds
throughout a run of such events exactly when the run meets `C`.

**Proof sketch.** Induction on the run. Each completed step meets `C` exactly when its target
has `P`, and `J` carries over to the target, so the induction hypothesis applies there. -/
theorem throughout_iff_meets_of_forall {E : ε → Prop} {J P : σ → Prop} {C : σ → ε → Prop}
    (hJ : ∀ s e s', E e → J s → step s e = some s' → J s')
    (hstep : ∀ s e s', E e → J s → P s → step s e = some s' → (P s' ↔ C s e)) :
    ∀ {es : List ε} {s : σ}, (∀ e ∈ es, E e) → J s → P s →
      (Throughout step P es s ↔ Meets step C es s)
  | [], _, _, _, hP => ⟨fun _ => trivial, fun _ => hP⟩
  | e :: es, s, hes, hs, hP => by
    have he := hes e (by simp)
    have hnext : ∀ s' ∈ step s e, Throughout step P es s' ↔ C s e ∧ Meets step C es s' := by
      intro s' hs'
      have hiff := hstep s e s' he hs hP hs'
      have ih (hP' : P s') : Throughout step P es s' ↔ Meets step C es s' :=
        throughout_iff_meets_of_forall hJ hstep (fun e' he' => hes e' (List.mem_cons_of_mem _ he'))
          (hJ s e s' he hs hs') hP'
      exact ⟨fun h => ⟨hiff.mp h.head, (ih h.head).mp h⟩,
        fun h => (ih (hiff.mpr h.1)).mpr h.2⟩
    exact ⟨fun h s' hs' => (hnext s' hs').mp (h.2 s' hs'),
      fun h => ⟨hP, fun s' hs' => (hnext s' hs').mpr (h s' hs')⟩⟩

/-- The exactness rule for runs of any events. -/
theorem throughout_iff_meets {J P : σ → Prop} {C : σ → ε → Prop}
    (hJ : ∀ s e s', J s → step s e = some s' → J s')
    (hstep : ∀ s e s', J s → P s → step s e = some s' → (P s' ↔ C s e))
    {es : List ε} {s : σ} (hs : J s) (hP : P s) :
    Throughout step P es s ↔ Meets step C es s :=
  throughout_iff_meets_of_forall (E := fun _ => True) (fun s e s' _ => hJ s e s')
    (fun s e s' _ => hstep s e s') (fun _ _ => trivial) hs hP

/-- The states a run visits are the states its prefixes end in. -/
theorem throughout_iff_forall_prefix {P : σ → Prop} {es : List ε} {s : σ} :
    Throughout step P es s ↔
      ∀ es₁ es₂ s', es = es₁ ++ es₂ → run step es₁ s = some s' → P s' := by
  induction es generalizing s with
  | nil =>
    constructor
    · rintro h es₁ es₂ s' he hr
      obtain ⟨rfl, rfl⟩ : es₁ = [] ∧ es₂ = [] := by simpa using he.symm
      obtain rfl : s = s' := by simpa using hr
      exact h
    · intro h
      exact h [] [] s rfl rfl
  | cons e es ih =>
    constructor
    · rintro ⟨hs, h⟩ es₁ es₂ s' he hr
      cases es₁ with
      | nil =>
        obtain rfl : s = s' := by simpa using hr
        exact hs
      | cons e₁ es₁ =>
        obtain ⟨rfl, rfl⟩ : e = e₁ ∧ es = es₁ ++ es₂ := by simpa using he
        obtain ⟨t, ht, hr⟩ := Option.bind_eq_some_iff.mp (by simpa using hr)
        exact ih.mp (h t ht) es₁ es₂ s' rfl hr
    · intro h
      refine ⟨h [] _ s rfl rfl, fun t ht => ih.mpr ?_⟩
      rintro es₁ es₂ s' rfl hr
      exact h (e :: es₁) es₂ s' rfl (by simpa [Option.mem_def.mp ht] using hr)

/-- **The final state rule.** A property that every step meeting the condition preserves holds
where a run that meets the condition ends. -/
theorem run_of_meets {P : σ → Prop} {C : σ → ε → Prop}
    (hstep : ∀ s e s', P s → C s e → step s e = some s' → P s') {es : List ε} {s s' : σ}
    (hs : P s) (h : Meets step C es s) (hr : run step es s = some s') : P s' :=
  throughout_iff_forall_prefix.mp (Throughout.of_meets hstep hs h) es [] s' (by simp) hr

/-- **The erasure rule.** Let `R` relate the states that agree on a part of the system. If the
events that `keep` keeps do the same to that part in related states, and the others do nothing to
it, then a run and its events kept, on their own, end in related states. -/
theorem run_filter {keep : ε → Bool} {R : σ → σ → Prop}
    (hkeep : ∀ s t e s', R s t → keep e = true → step s e = some s' → ∃ t' ∈ step t e, R s' t')
    (hdrop : ∀ s t e s', R s t → keep e = false → step s e = some s' → R s' t) {es : List ε}
    {s t s' : σ} (h : R s t) (hr : run step es s = some s') :
    ∃ t' ∈ run step (es.filter keep) t, R s' t' := by
  induction es generalizing s t with
  | nil =>
    obtain rfl := Option.some.inj hr
    exact ⟨t, rfl, h⟩
  | cons e es ih =>
    obtain ⟨u, hu, hr⟩ := Option.bind_eq_some_iff.mp hr
    cases he : keep e with
    | true =>
      obtain ⟨v, hv, huv⟩ := hkeep s t e u h he hu
      obtain ⟨t', ht', hst⟩ := ih huv hr
      refine ⟨t', ?_, hst⟩
      rw [List.filter_cons_of_pos he, run_cons, Option.mem_def.mp hv]
      exact ht'
    | false =>
      rw [List.filter_cons_of_neg (by simp [he])]
      exact ih (hdrop s t e u h he hu) hr

/-- A property holds throughout every run from `s` exactly when it holds in every state
reachable from `s`. -/
theorem forall_throughout_iff_reachable {P : σ → Prop} {s : σ} :
    (∀ es, Throughout step P es s) ↔ ∀ s', Reachable step s s' → P s' := by
  constructor
  · rintro h s' ⟨es, hes⟩
    exact throughout_iff_forall_prefix.mp (h es) es [] s' (by simp) hes
  · intro h es
    exact throughout_iff_forall_prefix.mpr fun es₁ _ s' _ hr => h s' ⟨es₁, hr⟩

/-- An invariant holds in every reachable state. -/
theorem Reachable.invariant {P : σ → Prop} {s s' : σ}
    (hstep : ∀ s e s', P s → step s e = some s' → P s') (hs : P s)
    (h : Reachable step s s') : P s' :=
  forall_throughout_iff_reachable.mp (fun _ => .of_step hstep hs) s' h

end Runs
