import Parken.App
import Parken.Lib.Runs

set_option relaxedAutoImplicit false
set_option autoImplicit false

/-!
# The Vagas of the store

The form stores a Vaga without looking at the ones stored already. Its `id` is the key of the
texts at the press of Salvar; the texts themselves are read when the geocoder answers, so `id`
and key may differ, and either may be in use.

## Main definitions

* `Parken.App.EfeitoVagas` — what an event does to the Vagas.
* `Parken.App.Unicas` — no two Vagas share their `id` or their key.
* `Parken.App.NovaDistinta` — the condition on an answer of the geocoder.

## Main results

* `Parken.App.efeitoVagas_of_opera` — every event has one of the effects.
* `Parken.App.unicas_iff_novaDistinta` — ids and keys are unique exactly in the runs where
  every Vaga stored brings an id and a key not in use.
-/

namespace Parken

open Edit

namespace App

variable {env : Ambiente}

/-- What an event does to the Vagas. -/
inductive EfeitoVagas (s : App) : Event → Write Change → Prop where
  /-- Nothing: the write, if any, is about other entities. -/
  | alheio {e : Event} {w : Write Change} (hne : ∀ e', e ≠ .garage e')
      (hw : ∀ d ∈ w.changes, d.entidade ≠ .vaga) : EfeitoVagas s e w
  /-- The garage screens write. -/
  | garage {e : Garage.Event} {w : Write Change} (h : s.garage.Escrita e w) :
      EfeitoVagas s (.garage e) w

/-- Every event has one of the effects. -/
theorem efeitoVagas_of_opera {s t : App} {e : Event} {w : Write Change}
    (h : s.opera env e = some (w, t)) : EfeitoVagas s e w := by
  cases e with
  | garage e =>
    obtain ⟨⟨w', g⟩, hr, h⟩ := Option.map_eq_some_iff.mp h
    cases h
    exact .garage (Garage.escrita_of_step hr)
  | _ => exact .alheio (by simp) (entidade_ne_of_opera h (by simp [Event.entidade]))

/-! ## Unique ids and keys -/

/-- No two Vagas of the table share their `id` or their key. -/
structure Unicas (t : ObjectTable Vaga) : Prop where
  ids : t.Distinct Vaga.id
  chaves : t.Distinct Vaga.chaveConfirmacao

/-- The condition on an answer of the geocoder: the id captured at the press and the key of the
texts in the form are not in use. -/
def NovaDistinta (s : App) : Event → Prop
  | .garage (.geocode k (some _) _) =>
    ∀ p ∈ s.garage.geocodificacoes[k]?, ∀ f ∈ s.garage.formularios[p.tela]?,
      ∀ v ∈ s.view.vagas.rows, v.2.id ≠ some p.id ∧
        v.2.chaveConfirmacao ≠ NovaVagaViewController.chaveDosCampos f
  | _ => True

/-- The Vagas after a write keep unique ids and keys exactly when the event meets the
condition. -/
lemma EfeitoVagas.unicas_iff {s : App} {e : Event} {w : Write Change} (h : EfeitoVagas s e w)
    (hs : Unicas s.view.vagas) :
    Unicas (applyAll w.changes s.view).vagas ↔ NovaDistinta s e := by
  cases h with
  | alheio hne hw =>
    rw [vagas_applyAll hw]
    refine iff_of_true hs ?_
    cases e with
    | garage e => exact absurd rfl (hne e)
    | _ => trivial
  | @garage evento _ h =>
    cases h with
    | nada h hg hx =>
      rw [h]
      refine iff_of_true hs ?_
      cases evento with
      | geocode k resposta ok =>
        cases resposta with
        | none => trivial
        | some location =>
          intro p hp f hf
          cases (hg k location ok rfl p hp).symm.trans hf
      | _ => trivial
    | @nova k p f location ok hp hf =>
      have hcond : NovaDistinta s (.garage (.geocode k (some location) ok)) ↔
          ∀ v ∈ s.view.vagas.rows, v.2.id ≠ some p.id ∧
            v.2.chaveConfirmacao ≠ NovaVagaViewController.chaveDosCampos f := by
        simp [NovaDistinta, hp, hf]
      rw [hcond]
      constructor
      · intro h v hv
        exact ⟨(ObjectTable.distinct_insert.mp h.ids).2 v hv,
          (ObjectTable.distinct_insert.mp h.chaves).2 v hv⟩
      · intro h
        exact ⟨ObjectTable.distinct_insert.mpr ⟨hs.ids, fun v hv => (h v hv).1⟩,
          ObjectTable.distinct_insert.mpr ⟨hs.chaves, fun v hv => (h v hv).2⟩⟩
    | excluir ok hk => exact iff_of_true ⟨hs.ids.erase _, hs.chaves.erase _⟩ trivial
    | atualizar ok hk =>
      exact iff_of_true ⟨hs.ids.modify _ fun _ => rfl, hs.chaves.modify _ fun _ => rfl⟩ trivial

/-- **Ids and keys are unique exactly while every new Vaga brings fresh ones.** In a run from
launch no two Vagas, in the context or on disk, share their `id` or their key, if and only if
each Vaga stored brings an id and a key that no stored Vaga has.

**Proof sketch.** An insertion keeps the values apart exactly when the new ones are not in use;
deletions and updates of the days never bring values together, and a save copies the context. -/
theorem unicas_iff_novaDistinta (env : Ambiente) (es : List Event) :
    Runs.Throughout (step env) (fun s => Unicas s.view.vagas ∧ Unicas s.persisted.vagas) es
        inicial ↔
      Runs.Meets (step env) NovaDistinta es inicial := by
  refine Runs.throughout_iff_meets (J := fun _ => True) (fun _ _ _ _ _ => trivial) ?_ trivial
    ⟨⟨?_, ?_⟩, ?_, ?_⟩
  · intro s e s' _ hs h
    obtain ⟨w, t, ht, rfl⟩ := step_eq_some_iff.mp h
    rw [view_exec, persisted_exec, ← (efeitoVagas_of_opera ht).unicas_iff hs.1]
    refine ⟨fun h => h.1, fun h => ⟨h, ?_⟩⟩
    split_ifs
    · exact h
    · exact hs.2
  all_goals exact ObjectTable.distinct_empty _

/-- Salvar pressed twice before the geocoder answers stores the same Vaga twice. -/
theorem not_unicas_two_presses :
    ¬ ∀ (env : Ambiente) (es : List Event),
      Runs.Throughout (step env) (fun s => Unicas s.view.vagas ∧ Unicas s.persisted.vagas) es
        inicial := by
  intro h
  have hids := (h Home.ambiente [.garage .abrirNova, .garage (.editar 0 formulario),
      .garage (.salvar 0), .garage (.salvar 0), .garage (.geocode 0 (some posicao) true),
      .garage (.geocode 0 (some posicao) true)]).imp
    (Q := fun s => ∀ p ∈ s.persisted.vagas.rows, ∀ q ∈ s.persisted.vagas.rows,
      p.2.id = q.2.id → p.1 = q.1) fun _ hu => hu.2.ids
  exact absurd hids (by decide +kernel)

end App

end Parken
