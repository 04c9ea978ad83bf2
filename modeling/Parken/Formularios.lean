import Parken.Disco

set_option relaxedAutoImplicit false
set_option autoImplicit false

/-!
# What the forms store

Every attribute of the data model is optional, and the screens fall back on texts of their own where
one is absent. Only two forms write Vagas and Cartoes, and both set every attribute; so the
fallbacks are never reached on a record of the store, whatever happens to the saves and however
often the application is started again.

## Main definitions

* `Parken.Vaga.DoFormulario`, `Parken.Cartao.DoFormulario` — the records the forms write.
* `Parken.Vaga.Integra` — what the screens read of a Vaga is there.
* `Parken.Store.BemFormado` — the store holds such records only.

## Main results

* `Parken.App.formada_step` — an event writes nothing else.
* `Parken.Aprovacoes.integra_throughout` — in every run, with restarts, on disk and in the context,
  every Vaga has its attributes, seven days and one key, and every Cartao four texts.
-/

namespace Parken

open Edit

/-! ## The records of the forms -/

/-- A Vaga as the form and the screen of the days write it. -/
def Vaga.DoFormulario (v : Vaga) : Prop :=
  ∃ p f location, ∃ d : Dias,
    v = { NovaVagaViewController.novaVaga p f location with frequencia := some d.frequencia }

/-- A Cartao as its form writes it: no field was empty. -/
def Cartao.DoFormulario (c : Cartao) : Prop :=
  ∃ f, PagamentoViewController.campoVazio f = false ∧
    c = PagamentoViewController.cartaoDoFormulario f

/-- What the screens read of a Vaga is there: every attribute, a dictionary with the seven days, and
one key for the three screens that build it. -/
structure Vaga.Integra (v : Vaga) : Prop where
  id : v.id.isSome
  textos : ∀ a ∈ [v.titulo, v.descricao, v.cep, v.rua, v.numero, v.complemento, v.bairro, v.cidade,
    v.uf, v.largura, v.comprimento, v.altura], a.isSome
  valor : v.valor.isSome
  posicao : v.posicao.isSome
  dias : (v.frequencia.bind Dias.ofFrequencia).isSome
  chaveHome : v.chaveHome = v.chaveConfirmacao
  chaveRequest : v.chaveRequest = v.chaveConfirmacao

/-- What the screens read of a Cartao is there, and its form accepts it as it is. -/
def Cartao.Integro (c : Cartao) : Prop :=
  ∃ f ∈ PagamentoViewController.viewDidLoad c, ∀ cartao ok,
    PagamentoViewController.salvar cartao f ok = .ok (PagamentoViewController.save cartao f ok)

/-- The Vagas of the form have what the screens read. -/
lemma Vaga.DoFormulario.integra {v : Vaga} (h : v.DoFormulario) : v.Integra := by
  obtain ⟨p, f, location, d, rfl⟩ := h
  have hend : Vaga.ComEndereco { NovaVagaViewController.novaVaga p f location with
      frequencia := some d.frequencia } := ⟨rfl, rfl, rfl, rfl⟩
  exact {
    id := rfl
    textos := by simp [NovaVagaViewController.novaVaga]
    valor := rfl
    posicao := rfl
    dias := by simp
    chaveHome := hend.chaveHome_eq
    chaveRequest := hend.chaveRequest_eq }

/-- A form that is filled is shown again as it was. -/
lemma PagamentoViewController.viewDidLoad_cartaoDoFormulario (f : CartaoForm) :
    viewDidLoad (cartaoDoFormulario f) = some f := rfl

/-- The Cartoes of the form have what it reads. -/
lemma Cartao.DoFormulario.integro {c : Cartao} (h : c.DoFormulario) : c.Integro := by
  obtain ⟨f, hf, rfl⟩ := h
  refine ⟨f, PagamentoViewController.viewDidLoad_cartaoDoFormulario f, fun cartao ok => ?_⟩
  rw [PagamentoViewController.salvar_eq, hf]
  rfl

/-! ## The store -/

/-- The store holds records of the forms only. -/
structure Store.BemFormado (s : Store) : Prop where
  vagas : ∀ p ∈ s.vagas.rows, p.2.DoFormulario
  cartoes : ∀ p ∈ s.cartoes.rows, p.2.DoFormulario

/-- A change writes records of the forms only. -/
def Change.DoFormulario : Change → Prop
  | .insertVaga v => v.DoFormulario
  | .setFrequencia _ f => ∃ d : Dias, f = d.frequencia
  | .insertCartao c | .setCartao _ c => c.DoFormulario
  | _ => True

/-- Such a change keeps the store well-formed. -/
lemma Store.BemFormado.apply {s : Store} (hs : s.BemFormado) {d : Change} (hd : d.DoFormulario) :
    (d.apply s).BemFormado := by
  cases d with
  | insertVaga v =>
    refine ⟨fun p hp => ?_, hs.cartoes⟩
    rcases ObjectTable.mem_insert.mp hp with hp | rfl
    · exact hs.vagas p hp
    · exact hd
  | setFrequencia k f =>
    refine ⟨fun p hp => ?_, hs.cartoes⟩
    obtain ⟨q, hq, rfl⟩ := ObjectTable.mem_modify.mp hp
    obtain ⟨p, form, location, dias, heq⟩ := hs.vagas q hq
    obtain ⟨novos, rfl⟩ := hd
    dsimp only
    split_ifs
    · exact ⟨p, form, location, novos, by rw [heq]⟩
    · exact ⟨p, form, location, dias, heq⟩
  | deleteVaga k => exact ⟨fun p hp => hs.vagas p (ObjectTable.mem_erase.mp hp).1, hs.cartoes⟩
  | insertCartao c =>
    refine ⟨hs.vagas, fun p hp => ?_⟩
    rcases ObjectTable.mem_insert.mp hp with hp | rfl
    · exact hs.cartoes p hp
    · exact hd
  | setCartao k c =>
    refine ⟨hs.vagas, fun p hp => ?_⟩
    obtain ⟨q, hq, rfl⟩ := ObjectTable.mem_modify.mp hp
    dsimp only
    split_ifs
    · exact hd
    · exact hs.cartoes q hq
  | deleteCartao k => exact ⟨hs.vagas, fun p hp => hs.cartoes p (ObjectTable.mem_erase.mp hp).1⟩
  | insertRequisicao => exact ⟨hs.vagas, hs.cartoes⟩
  | setRequisicao k r => exact ⟨hs.vagas, hs.cartoes⟩
  | setEstado k estado => exact ⟨hs.vagas, hs.cartoes⟩

/-- So do several. -/
lemma Store.BemFormado.applyAll {ds : List Change} (hds : ∀ d ∈ ds, d.DoFormulario) {s : Store}
    (hs : s.BemFormado) : (Edit.applyAll ds s).BemFormado := by
  induction ds generalizing s with
  | nil => exact hs
  | cons d ds ih =>
    rw [ManagedContext.applyAll_cons]
    exact ih (fun e he => hds e (List.mem_cons_of_mem _ he)) (hs.apply (hds d (by simp)))

/-! ## The application -/

namespace App

variable {env : Ambiente}

/-- What holds of the forms and of the store in every run. -/
structure Formada (s : App) : Prop where
  view : s.view.BemFormado
  persisted : s.persisted.BemFormado
  geocodificacoes : ∀ p ∈ s.garage.geocodificacoes, ∃ d : Dias, p.freq = d.frequencia

/-- What an accepted press captures has seven days. -/
lemma freq_of_salvar {tela : ℕ} {f : NovaVagaForm} {p : Geocodificacao}
    (h : NovaVagaViewController.salvar tela f = some (.ok p)) : p.freq = f.dias.frequencia := by
  unfold NovaVagaViewController.salvar at h
  split_ifs at h
  · cases h
  · split at h <;> cases h
    rfl

/-- A press waiting for the geocoder was waiting before, or has just been accepted. -/
lemma geocodificacoes_of_step {view : Store} {g g' : Garage} {e : Garage.Event} {w : Write Change}
    (h : g.step view e = some (w, g')) {p : Geocodificacao} (hp : p ∈ g'.geocodificacoes) :
    p ∈ g.geocodificacoes ∨ ∃ d : Dias, p.freq = d.frequencia := by
  cases e with
  | salvar tela =>
    simp only [Garage.step] at h
    split at h
    · cases h
      exact .inl hp
    next f hf =>
      split at h <;> cases h
      next => exact .inl hp
      next q hq =>
        rcases List.mem_append.mp hp with hp | hp
        · exact .inl hp
        · obtain rfl := List.mem_singleton.mp hp
          exact .inr ⟨f.dias, freq_of_salvar hq⟩
  | geocode k resposta ok =>
    simp only [Garage.step] at h
    split at h
    · cases h
      exact .inl hp
    next q hq =>
      have hg' : g'.geocodificacoes = g.geocodificacoes.eraseIdx k := by
        simp only [Garage.geocodeCallback, Option.some.injEq] at h
        split at h <;> cases h <;> rfl
      rw [hg'] at hp
      exact .inl (List.mem_of_mem_eraseIdx hp)
  | excluir row ok =>
    simp only [Garage.step] at h
    split at h <;> cases h
    split_ifs at hp <;> exact .inl hp
  | viewWillAppear fetch => cases fetch <;> cases h <;> exact .inl hp
  | abrirNova | editar | editarDias | confirmar =>
    cases h
    exact .inl hp
  | visualizar row | atualizar =>
    simp only [Garage.step] at h
    repeat' split at h
    all_goals cases h
    all_goals exact .inl hp

/-- An event writes records of the forms only. -/
lemma doFormulario_of_opera {s t : App} {e : Event} {w : Write Change} (hs : s.Formada)
    (h : s.opera env e = some (w, t)) : ∀ d ∈ w.changes, d.DoFormulario := by
  by_cases hreq : e.entidade = .requisicao
  · -- no Vaga and no Cartao is written
    intro d hd
    have hent := sobre_of_opera h d hd
    rw [hreq] at hent
    cases d with
    | insertRequisicao | setRequisicao | setEstado => trivial
    | _ => cases hent
  cases e with
  | garage e =>
    obtain ⟨⟨w', g⟩, hr, h⟩ := Option.map_eq_some_iff.mp h
    cases h
    cases Garage.escrita_of_step hr with
    | nada hw _ _ => simp [hw]
    | @nova k p f location ok hp hf =>
      obtain ⟨d, hd⟩ := hs.geocodificacoes p (List.mem_of_getElem? hp)
      have hvaga : (NovaVagaViewController.novaVaga p f location).DoFormulario :=
        ⟨p, f, location, d, by rw [← hd]; rfl⟩
      exact List.forall_mem_singleton.mpr hvaga
    | excluir ok hk => simp [VagasTableViewController.excluir, Change.DoFormulario]
    | atualizar ok hk =>
      have hdias : ∃ d : Dias, s.garage.dias.frequencia = d.frequencia := ⟨_, rfl⟩
      exact List.forall_mem_singleton.mpr hdias
  | carteira e =>
    obtain ⟨⟨w', c⟩, hr, h⟩ := Option.map_eq_some_iff.mp h
    cases h
    cases Carteira.passo_of_step hr with
    | exclui ok hk => simp [PagamentoTableViewController.excluir, Change.DoFormulario]
    | salva ok hf =>
      have hcartao : (PagamentoViewController.cartaoDoFormulario s.carteira.campos).DoFormulario :=
        ⟨_, hf, rfl⟩
      unfold PagamentoViewController.save
      split <;> exact List.forall_mem_singleton.mpr hcartao
    | _ => simp [Write.none]
  | _ => exact absurd rfl hreq

/-- An event keeps the forms and the store as they are to be. -/
theorem formada_step {s s' : App} {e : Event} (hs : s.Formada) (h : s.step env e = some s') :
    s'.Formada := by
  obtain ⟨w, t, ht, rfl⟩ := step_eq_some_iff.mp h
  have hview : (applyAll w.changes s.view).BemFormado :=
    hs.view.applyAll (doFormulario_of_opera hs ht)
  refine ⟨?_, ?_, fun p hp => ?_⟩
  · rw [view_exec]
    exact hview
  · rw [persisted_exec]
    split_ifs
    · exact hview
    · exact hs.persisted
  · cases e with
    | garage e =>
      obtain ⟨⟨w', g⟩, hr, h⟩ := Option.map_eq_some_iff.mp ht
      cases h
      rcases geocodificacoes_of_step hr hp with hp | hd
      · exact hs.geocodificacoes p hp
      · exact hd
    | _ =>
      obtain ⟨r, hr, h⟩ := Option.map_eq_some_iff.mp ht
      cases h
      exact hs.geocodificacoes p hp

lemma formada_inicial : inicial.Formada :=
  ⟨⟨by simp [inicial, App.view, Store.empty], by simp [inicial, App.view, Store.empty]⟩,
    ⟨by simp [inicial, App.persisted, Store.empty], by simp [inicial, App.persisted, Store.empty]⟩,
    by simp [inicial, Garage.inicial]⟩

end App

namespace Aprovacoes

/-- **The fallbacks are never reached.** In every run from launch, with any number of restarts and
with saves that succeed or throw, every Vaga in the context and on disk has all its attributes, a
dictionary with the seven days and one key for the three screens that build it; and every Cartao has
its four texts, which its form shows and accepts.

**Proof sketch.** The press of Salvar captures the days of the switches and its answer sets every
other attribute; the screen of the days replaces the dictionary by another of the seven days; the
form of a card writes only what is not empty. Nothing else writes these entities
(`App.sobre_of_opera`). -/
theorem integra_throughout (env : Ambiente) (es : List Event) :
    Runs.Throughout (step env) (fun s =>
      (∀ p ∈ s.app.view.vagas.rows ++ s.app.persisted.vagas.rows, p.2.Integra) ∧
        ∀ p ∈ s.app.view.cartoes.rows ++ s.app.persisted.cartoes.rows, p.2.Integro)
      es inicial := by
  have hformada : Runs.Throughout (step env) (fun s => s.app.Formada) es inicial :=
    throughout_app App.formada_inicial (fun a c ha => ⟨ha.view, ha.persisted, ha.geocodificacoes⟩)
      (fun _ _ _ ha h => App.formada_step ha h)
      (fun a ha => ⟨ha.persisted, ha.persisted, App.formada_inicial.geocodificacoes⟩) es
  refine hformada.imp fun s hs => ⟨fun p hp => ?_, fun p hp => ?_⟩
  · rcases List.mem_append.mp hp with hp | hp
    · exact (hs.view.vagas p hp).integra
    · exact (hs.persisted.vagas p hp).integra
  · rcases List.mem_append.mp hp with hp | hp
    · exact (hs.view.cartoes p hp).integro
    · exact (hs.persisted.cartoes p hp).integro

end Aprovacoes

end Parken
