import Parken.Formularios

set_option relaxedAutoImplicit false
set_option autoImplicit false

/-!
# Confirming what was opened

The form of a card and the screen of the days are filled from a record when they open, and write all
of its attributes, or its dictionary, when they are confirmed. The record is not looked at again in
between, while answers come in and other screens write. Confirmed without an edit, both are to leave
the records as they were.

## Main results

* `Parken.App.carteira_of_run`, `Parken.App.garage_of_run` — the events of the other screens leave a
  screen and its records alone.
* `Parken.App.semEdicao_throughout` — in every run, what is opened and confirmed without an edit is
  unchanged.
-/

namespace Parken

open Edit

/-- A stored Cartao set to what its form shows is unchanged. -/
lemma cartoes_save {view : Store} (hview : view.BemFormado) {k : ObjectID} {f : CartaoForm}
    (hf : (view.cartoes.get? k).bind PagamentoViewController.viewDidLoad = some f) (ok : Bool) :
    (applyAll (PagamentoViewController.save (some k) f ok).changes view).cartoes =
      view.cartoes := by
  obtain ⟨c, hc, hshow⟩ := Option.bind_eq_some_iff.mp hf
  obtain ⟨g, -, hg⟩ := hview.cartoes _ (ObjectTable.get?_eq_some_iff.mp hc)
  dsimp only at hg
  rw [hg, PagamentoViewController.viewDidLoad_cartaoDoFormulario] at hshow
  obtain rfl := Option.some.inj hshow
  show view.cartoes.modify k (fun _ => PagamentoViewController.cartaoDoFormulario g) = view.cartoes
  refine ObjectTable.modify_eq_self fun a ha => ?_
  rw [ObjectTable.eq_of_mem ha (ObjectTable.get?_eq_some_iff.mp hc), hg]

/-- A stored Vaga set to the days its screen shows is unchanged. -/
lemma vagas_save {view : Store} (hview : view.BemFormado) {k : ObjectID} {d : Dias}
    (hd : ((view.vagas.get? k).bind Vaga.frequencia).bind Dias.ofFrequencia = some d) (ok : Bool) :
    (applyAll (AtualizarFrequenciaViewController.save (some k) d.frequencia ok).changes
      view).vagas = view.vagas := by
  show view.vagas.modify k (fun v => { v with frequencia := some d.frequencia }) = view.vagas
  refine ObjectTable.modify_eq_self fun v hv => ?_
  obtain ⟨p, f, location, dias, heq⟩ := hview.vagas _ hv
  dsimp only at heq
  have hdias : d = dias := by
    rw [ObjectTable.get?_eq_some_iff.mpr hv, heq] at hd
    simpa using hd.symm
  rw [heq, hdias]

namespace App

variable {env : Ambiente}

/-- An event of the other screens leaves the wallet and the Cartoes. -/
lemma carteira_of_step {s s' : App} {e : Event} (he : e.entidade ≠ .cartao)
    (h : s.step env e = some s') : s'.carteira = s.carteira ∧ s'.view.cartoes = s.view.cartoes := by
  obtain ⟨w, t, ht, rfl⟩ := step_eq_some_iff.mp h
  rw [view_exec, cartoes_applyAll (entidade_ne_of_opera ht he)]
  refine ⟨?_, rfl⟩
  cases e with
  | carteira e => exact absurd rfl he
  | _ =>
    obtain ⟨r, hr, h⟩ := Option.map_eq_some_iff.mp ht
    cases h
    rfl

/-- An event of the other screens leaves the garage and the Vagas. -/
lemma garage_of_step {s s' : App} {e : Event} (he : e.entidade ≠ .vaga)
    (h : s.step env e = some s') : s'.garage = s.garage ∧ s'.view.vagas = s.view.vagas := by
  obtain ⟨w, t, ht, rfl⟩ := step_eq_some_iff.mp h
  rw [view_exec, vagas_applyAll (entidade_ne_of_opera ht he)]
  refine ⟨?_, rfl⟩
  cases e with
  | garage e => exact absurd rfl he
  | _ =>
    obtain ⟨r, hr, h⟩ := Option.map_eq_some_iff.mp ht
    cases h
    rfl

/-- So does a run of them, and it keeps the records of the forms. -/
lemma carteira_of_run {s s' : App} {es : List Event} (hs : s.Formada)
    (hes : ∀ e ∈ es, e.entidade ≠ .cartao) (h : Runs.run (step env) es s = some s') :
    s'.Formada ∧ s'.carteira = s.carteira ∧ s'.view.cartoes = s.view.cartoes := by
  refine Runs.run_of_meets (C := fun _ e => e.entidade ≠ .cartao)
    (P := fun t => t.Formada ∧ t.carteira = s.carteira ∧ t.view.cartoes = s.view.cartoes)
    (fun t e t' ht he hstep => ?_) ⟨hs, rfl, rfl⟩ (Runs.meets_of_forall hes) h
  obtain ⟨hcarteira, hcartoes⟩ := carteira_of_step he hstep
  exact ⟨formada_step ht.1 hstep, hcarteira.trans ht.2.1, hcartoes.trans ht.2.2⟩

/-- The same of the garage. -/
lemma garage_of_run {s s' : App} {es : List Event} (hs : s.Formada)
    (hes : ∀ e ∈ es, e.entidade ≠ .vaga) (h : Runs.run (step env) es s = some s') :
    s'.Formada ∧ s'.garage = s.garage ∧ s'.view.vagas = s.view.vagas := by
  refine Runs.run_of_meets (C := fun _ e => e.entidade ≠ .vaga)
    (P := fun t => t.Formada ∧ t.garage = s.garage ∧ t.view.vagas = s.view.vagas)
    (fun t e t' ht he hstep => ?_) ⟨hs, rfl, rfl⟩ (Runs.meets_of_forall hes) h
  obtain ⟨hgarage, hvagas⟩ := garage_of_step he hstep
  exact ⟨formada_step ht.1 hstep, hgarage.trans ht.2.1, hvagas.trans ht.2.2⟩

/-- Opened by the event `abre` and confirmed by `confirma`, with any events of the other screens in
between, the table of entity `u` is as it was. -/
def SemEdicao {α : Type} (env : Ambiente) (s : App) (u : Entidade) (tabela : Store → ObjectTable α)
    (abre confirma : Event) : Prop :=
  ∀ s₁ es s₂ s₃, s.step env abre = some s₁ → (∀ e ∈ es, e.entidade ≠ u) →
    Runs.run (step env) es s₁ = some s₂ → s₂.step env confirma = some s₃ →
      tabela s₃.view = tabela s.view

/-- The card of a row, confirmed as it is shown. -/
lemma semEdicao_cartao {s : App} (hs : s.Formada) (row : ℕ) (ok : Bool) :
    s.SemEdicao env .cartao Store.cartoes (.carteira (.abrir row)) (.carteira (.salvar ok)) := by
  intro s₁ es s₂ s₃ habre hes hrun hconfirma
  have hs₁ := formada_step hs habre
  obtain ⟨w, t, ht, rfl⟩ := step_eq_some_iff.mp habre
  obtain ⟨⟨w', c⟩, hr, h⟩ := Option.map_eq_some_iff.mp ht
  cases h
  cases Carteira.passo_of_step hr with
  | @abre _ k f hk hf =>
    obtain ⟨hs₂, hcarteira, hcartoes⟩ := carteira_of_run hs₁ hes hrun
    rw [view_exec] at hcartoes
    obtain ⟨w, u, hu, rfl⟩ := step_eq_some_iff.mp hconfirma
    obtain ⟨⟨w', c⟩, hr, h⟩ := Option.map_eq_some_iff.mp hu
    cases h
    rw [view_exec]
    rw [hcarteira] at hr
    -- the form still shows the stored card
    have hshow : (s₂.view.cartoes.get? k).bind PagamentoViewController.viewDidLoad = some f := by
      rw [hcartoes]
      exact hf
    cases Carteira.passo_of_step hr with
    | recusa => exact hcartoes
    | salva _ hvazio => exact (cartoes_save hs₂.view hshow ok).trans hcartoes

/-- The days of a Vaga, confirmed as they are shown. -/
lemma semEdicao_dias {s : App} (hs : s.Formada) (ok : Bool) :
    s.SemEdicao env .vaga Store.vagas (.garage .atualizar) (.garage (.confirmar ok)) := by
  intro s₁ es s₂ s₃ habre hes hrun hconfirma
  have hs₁ := formada_step hs habre
  obtain ⟨w, t, ht, rfl⟩ := step_eq_some_iff.mp habre
  obtain ⟨⟨w', g⟩, hr, h⟩ := Option.map_eq_some_iff.mp ht
  cases h
  obtain ⟨hs₂, hgarage, hvagas⟩ := garage_of_run hs₁ hes hrun
  rw [view_exec] at hvagas
  obtain ⟨w₂, u, hu, rfl⟩ := step_eq_some_iff.mp hconfirma
  simp only [opera, Garage.step, hgarage, Option.map_some, Option.some.injEq, Prod.mk.injEq] at hu
  obtain ⟨rfl, -⟩ := hu
  rw [view_exec]
  simp only [Garage.step] at hr
  split at hr
  next hnone =>
    -- there is no Vaga to set
    cases hr
    simp only [hnone]
    exact hvagas
  next k hk =>
    split at hr <;> cases hr
    next d hd =>
      have hshow : ((s₂.view.vagas.get? k).bind Vaga.frequencia).bind Dias.ofFrequencia =
          some d := by
        rw [hvagas]
        exact hd
      simp only [hk]
      exact (vagas_save hs₂.view hshow ok).trans hvagas

/-- **What is not edited is not changed.** In every run from launch, a card that is opened and
confirmed as the form shows it is stored as it was, and so are all other cards; and a Vaga whose
days are opened and confirmed as the switches show them keeps its dictionary, and all other Vagas
are as they were; whatever the other screens and the answers do in between, and whether the save
succeeds or throws. This is about the context: a save that succeeds also takes older changes to
disk.

**Proof sketch.** `App.Formada` is an invariant: the form shows every attribute of a stored card and
writes it back, and the seven switches stand for the dictionary they show. -/
theorem semEdicao_throughout (env : Ambiente) (es : List Event) :
    Runs.Throughout (step env) (fun s => ∀ ok,
      (∀ row, s.SemEdicao env .cartao Store.cartoes (.carteira (.abrir row))
        (.carteira (.salvar ok))) ∧
      s.SemEdicao env .vaga Store.vagas (.garage .atualizar) (.garage (.confirmar ok)))
      es inicial := by
  have hformada : Runs.Throughout (step env) Formada es inicial :=
    .of_step (fun _ _ _ hs h => formada_step hs h) formada_inicial
  exact hformada.imp fun s hs ok => ⟨fun row => semEdicao_cartao hs row ok, semEdicao_dias hs ok⟩

end App

end Parken
