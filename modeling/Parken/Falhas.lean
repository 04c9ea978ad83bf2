import Parken.Home.Search
import Parken.Home.Tables
import Parken.Listas

set_option relaxedAutoImplicit false
set_option autoImplicit false

/-!
# Where the application traps

Every screen has places where an absent value is unwrapped, an index is taken or an attribute is
cast. Over whole runs, restarts included, most of those an event reaches cannot fail: the records
of the forms are complete, a Requisicao that is not filled is not offered to the owner, and the
tables of Home that reload with their lists stay backed. What is left is a condition on the event
and the state before it, in the terms of the screens.

The drawing of a row is an event for the approvals list alone. Which rows of Home's tables can be
drawn without a trap is the subject of `Parken.Home.seguras_iff`.

## Main definitions

* `Parken.App.Procede`, `Parken.Aprovacoes.Procede` — the condition on an event.
* `Parken.App.Pronta` — the invariant that makes it exact.

## Main results

* `Parken.App.pronta_step` — every event keeps the invariant.
* `Parken.App.step_isSome_iff` — next to it an event goes through exactly when it meets the
  condition.
* `Parken.Aprovacoes.naoTrapa_iff_procede` — a run whose deletions are saved traps nowhere exactly
  when each of its events meets the condition.
-/

namespace Parken

open Edit

/-! ## The condition -/

/-- The price of a form without an empty field is a number; the row is one of the list; the Vaga
whose days are opened has not been deleted. -/
def Garage.Procede (view : Store) (g : Garage) : Garage.Event → Prop
  | .salvar tela => ∀ f ∈ g.formularios[tela]?,
    NovaVagaViewController.campoVazio f = true ∨ (Double.parse f.txtPreco).isSome
  | .excluir row _ => row < g.vagas.length
  | .visualizar row => row < g.vagas.length
  | .atualizar => ∀ k ∈ g.vaga, (view.vagas.get? k).isSome
  | _ => True

/-- The row is one of the list. -/
def Carteira.Procede (c : Carteira) : Carteira.Event → Prop
  | .excluir row _ | .abrir row => row < c.cartoes.length
  | _ => True

/-- The row tapped is one of the garages, and the garage is still selected when the segue of the
request button reads it. -/
def Home.Procede (h : Home) : Home.Event → Prop
  | .parkingSelect row => row < h.parkingLocateTable.rows → row < h.parkingLocateList.length
  | .requestPark ordem => h.thirdStepHidden = false →
    ordem = .seguePrimeiro ∧ h.parkingLocateTable.selected.isSome
  | _ => True

/-- A checkout with a card is confirmed by a user. -/
def Pedido.Procede (p : Pedido) : Pedido.Event → Prop
  | .confirmar userID => ∀ c ∈ p.checkout, c.validaCartao = true → userID.isSome
  | _ => True

/-- The row is one of the list, and when it is selected some row rendered has had its Vaga. -/
def Confirmacao.Procede (c : Confirmacao) : Confirmacao.Event → Prop
  | .render row => row < c.lista.requisicoes.length
  | .selecionar row => row < c.lista.requisicoes.length ∧ c.lista.vagaSelec.isSome
  | _ => True

/-- The Requisicao of the row is not as it was inserted. -/
def Historico.Procede (view : Store) (h : Historico) : Historico.Event → Prop
  | .abrir row => ∀ k ∈ h.solicitacoes[row]?, ∀ r ∈ view.requisicoes.get? k, r ≠ .nova
  | _ => True

/-- The condition on an event of the application: that of its screen, and a save in the background
does not throw. -/
def App.Procede (s : App) : App.Event → Prop
  | .garage e => s.garage.Procede s.view e
  | .carteira e => s.carteira.Procede e
  | .home e _ => s.home.Procede e
  | .pedido e => s.pedido.Procede e
  | .confirmacao e => s.confirmacao.Procede e
  | .historico e => s.historico.Procede s.view e
  | .background ok => s.ctx.pending ≠ [] → ok = true

/-! ## Home -/

namespace Home

variable {env : Ambiente}

/-- The records of the screen are those of its last fetch. -/
lemma vagas_of_step {h h' : Home} {e : Event} (hs : step env h e = some h') :
    h'.vagas = h.vagas ∨
      ∃ row vagas, e = .suggestSelect row (some vagas) ∧ h'.vagas = vagas.rows := by
  cases passo_of_step hs with
  | @destino row address locValue fetch h' hrow ha hc hs =>
    obtain ⟨pedidos, -, rfl⟩ := Option.map_eq_some_iff.mp hs
    rw [showDestination_eq]
    cases fetch with
    | none => exact .inl rfl
    | some vagas => exact .inr ⟨row, vagas, rfl, rfl⟩
  | textDidChange searchText =>
    obtain ⟨_, _, _, _, _, heq⟩ :=
      exists_searchAddress { h with searchText := searchText } searchText
    rw [heq]
    exact .inl rfl
  | favoriteSelect hrow ha =>
    refine .inl ?_
    obtain ⟨_, _, _, _, _, heq⟩ := exists_searchAddress _ _
    rw [heq]
  | suggestCallback resposta hq => cases resposta <;> exact .inl rfl
  | geocodeCallback ok hp =>
    refine .inl ?_
    obtain ⟨_, _, _, _, heq⟩ := exists_addParkingFound env _ _ ok
    rw [heq]
  | toggleFavorite =>
    obtain ⟨_, _, _, heq⟩ := exists_setFavoriteSelectedIcon h h.addressSelectedLabel true
    rw [heq]
    exact .inl rfl
  | backToFirstStep | requestPark =>
    rw [goToStep_one_eq]
    exact .inl rfl
  | _ => exact .inl rfl

/-- A search over records with positions goes through. -/
lemma loadParkingLocateNear_isSome {h : Home} (hv : ∀ p ∈ h.vagas, p.2.posicao.isSome)
    {fetch : Option (Fetched Vaga)} (hf : ∀ vagas ∈ fetch, ∀ p ∈ vagas.rows, p.2.posicao.isSome)
    (addressTitle : String) (geoCoordinates : GeoCoordinates) :
    (h.loadParkingLocateNear env addressTitle geoCoordinates fetch).isSome := by
  cases fetch with
  | some vagas => exact (isSome_loadParkingLocateNear_iff _ _ _ _).mpr (hf vagas rfl)
  | none =>
    -- the records are those of an earlier fetch
    have hvagas : (h.showDestination addressTitle geoCoordinates).vagas = h.vagas := by
      rw [showDestination_eq]
    rw [loadParkingLocateNear, Option.isSome_map]
    refine (isSome_mapM_pedidoEndereco _ _).mpr ?_
    rw [hvagas]
    exact hv

/-- **Where Home traps.** With the tables as in every reachable state, and records that have
positions, an event goes through exactly when it meets the condition. -/
theorem step_isSome_iff {h : Home} (ht : Tabelas.Firmes h.tabelas)
    (hv : ∀ p ∈ h.vagas, p.2.posicao.isSome) {e : Event}
    (he : ∀ row vagas, e = .suggestSelect row (some vagas) →
      ∀ p ∈ vagas.rows, p.2.posicao.isSome) :
    (step env h e).isSome ↔ h.Procede e := by
  cases e with
  | suggestSelect row fetch =>
    refine iff_of_true ?_ trivial
    simp only [step]
    split_ifs with hrow
    · have hlt : row < h.suggestAddressList.length := ht.sugestoes.lt hrow
      rw [List.getElem?_eq_getElem hlt]
      dsimp only
      split
      · rfl
      · exact loadParkingLocateNear_isSome
          (h := { h with suggestAddressTable := h.suggestAddressTable.select row }) hv
          (fun vagas hvagas => he row vagas (by rw [Option.mem_def.mp hvagas])) _ _
    · rfl
  | favoriteSelect row =>
    refine iff_of_true ?_ trivial
    simp only [step]
    split_ifs with hrow
    · have hlt : row < h.favoriteAddressList.length := ht.favoritos.lt hrow
      rw [List.getElem?_eq_getElem hlt]
      rfl
    · rfl
  | parkingSelect row =>
    simp only [step, Procede]
    split_ifs with hrow
    · rw [imp_iff_right hrow]
      by_cases hlt : row < h.parkingLocateList.length
      · rw [List.getElem?_eq_getElem hlt]
        exact iff_of_true rfl hlt
      · rw [List.getElem?_eq_none (by omega)]
        exact iff_of_false (by simp) hlt
    · exact iff_of_true rfl fun h => absurd h hrow
  | requestPark ordem =>
    have hpronto := pedidoPronto_iff ht (.requestPark ordem)
    simp only [PedidoPronto, PedidoSelecionado] at hpronto
    simp only [step, Procede, ← hpronto]
    cases hterceiro : h.thirdStepHidden with
    | true => simp
    | false => simp
  | suggestCallback k resposta =>
    refine iff_of_true ?_ trivial
    simp only [step]
    split <;> rfl
  | geocodeCallback k ok =>
    refine iff_of_true ?_ trivial
    simp only [step]
    split <;> rfl
  | _ => exact iff_of_true rfl trivial

end Home

/-! ## The invariant -/

namespace App

variable {env : Ambiente}

/-- A Requisicao of the context is filled. -/
def Cheia (s : App) (k : ObjectID) : Prop :=
  ∃ r, (k, r) ∈ s.view.requisicoes.rows ∧ r.Preenchida

/-- What holds in every run, and makes the condition exact: the records are those of the forms, a
Requisicao is filled or as it was inserted, Home has the tables and the records of a reachable
state, and the approvals screens have filled Requisicoes only. -/
structure Pronta (s : App) : Prop where
  formada : s.Formada
  emVoo : EmVoo s.pedido.consultas s.view.requisicoes
  pedido : s.pedido.Regular
  tabelas : Home.Tabelas.Firmes s.home.tabelas
  posicoes : ∀ p ∈ s.home.vagas, p.2.posicao.isSome
  view : ∀ p ∈ s.view.requisicoes.rows, p.2.Preenchida ∨ p.2 = .nova
  persisted : ∀ p ∈ s.persisted.requisicoes.rows, p.2.Preenchida ∨ p.2 = .nova
  lista : ∀ p ∈ s.confirmacao.lista.requisicoes, p.2.Preenchida ∧ s.Cheia p.1
  aberta : ∀ a ∈ s.confirmacao.aberta, s.Cheia a.1

/-- The stored Vagas have positions. -/
lemma Pronta.posicao_of_mem {s : App} (hs : s.Pronta) {p : ObjectID × Vaga}
    (hp : p ∈ s.view.vagas.rows) : p.2.posicao.isSome :=
  (hs.formada.view.vagas p hp).integra.posicao

/-- What is filled stays filled. -/
lemma Cheia.step {s s' : App} {e : Event} (hs : s.Pronta) (h : s.step env e = some s')
    {k : ObjectID} (hk : s.Cheia k) : s'.Cheia k := by
  obtain ⟨w, t, ht, rfl⟩ := step_eq_some_iff.mp h
  obtain ⟨hcons, -⟩ := (efeito_of_opera ht).conserva hs.emVoo
  obtain ⟨r, hr, hcheia⟩ := hk
  obtain ⟨estado, hr'⟩ := hcons k r hr hcheia
  refine ⟨_, ?_, hcheia.setEstado estado⟩
  rw [view_exec]
  exact hr'

/-- A decision is about the open request, which is filled, and is one of two. -/
lemma Pronta.cheia_of_setEstado {s t : App} {e : Event} {w : Write Change} (hs : s.Pronta)
    (h : s.opera env e = some (w, t)) {k : ObjectID} {estado : String}
    (hk : .setEstado k estado ∈ w.changes) :
    s.Cheia k ∧ (estado = "Aprovado" ∨ estado = "Rejeitado") := by
  cases e with
  | confirmacao e =>
    obtain ⟨⟨w', c⟩, hr, h⟩ := Option.map_eq_some_iff.mp h
    cases h
    cases Confirmacao.escrita_of_step hr with
    | nada hw => simp [hw] at hk
    | @aprova k' v ok haberta =>
      obtain ⟨rfl, rfl⟩ : k = k' ∧ estado = "Aprovado" := by simpa using hk
      exact ⟨hs.aberta (k, v) haberta, .inl rfl⟩
    | @rejeita k' v ok haberta =>
      obtain ⟨rfl, rfl⟩ : k = k' ∧ estado = "Rejeitado" := by simpa using hk
      exact ⟨hs.aberta (k, v) haberta, .inr rfl⟩
  | _ => exact absurd hk ((efeito_of_opera h).setEstado_notMem rfl k estado)

/-- After an event every Requisicao is filled or as it was inserted. -/
lemma Pronta.linhas {s t : App} {e : Event} {w : Write Change} (hs : s.Pronta)
    (h : s.opera env e = some (w, t)) :
    ∀ p ∈ (applyAll w.changes s.view).requisicoes.rows, p.2.Preenchida ∨ p.2 = .nova := by
  have hw := (efeito_of_opera h).escrita
  revert hw
  generalize (applyAll w.changes s.view).requisicoes = r
  intro hw
  cases hw with
  | alheia hw => exact hs.view
  | insere =>
    intro p hp
    rcases ObjectTable.mem_insert.mp hp with hp | rfl
    · exact hs.view p hp
    · exact .inr rfl
  | decide k estado ok =>
    -- the open request is filled
    obtain ⟨⟨r, hr, hcheia⟩, -⟩ := hs.cheia_of_setEstado h (List.mem_singleton.mpr rfl)
    intro p hp
    obtain ⟨q, hq, rfl⟩ := ObjectTable.mem_modify.mp hp
    dsimp only
    split_ifs with hqk
    · have heq : q.2 = r := ObjectTable.eq_of_mem (hqk ▸ hq) hr
      rw [heq]
      exact .inl (hcheia.setEstado estado)
    · exact hs.view q hq
  | preenche hq firstname ok =>
    intro p hp
    obtain ⟨r, hr, rfl⟩ := ObjectTable.mem_modify.mp hp
    dsimp only
    split_ifs
    · exact .inl (Requisicao.preenchida_preencher (hs.pedido.consultas _ hq) firstname)
    · exact hs.view r hr

/-- What Home fetches has positions. -/
lemma Pronta.comFetch {s : App} (hs : s.Pronta) {e : Home.Event} {row : ℕ}
    {vagas : Fetched Vaga} (h : e.comFetch s.view = .suggestSelect row (some vagas)) :
    ∀ p ∈ vagas.rows, p.2.posicao.isSome := by
  cases e with
  | suggestSelect row' fetch =>
    cases fetch with
    | none => simp [Home.Event.comFetch] at h
    | some ordem =>
      obtain ⟨-, rfl⟩ : row' = row ∧ s.view.vagas.fetch ordem.rows = vagas := by
        simpa [Home.Event.comFetch] using h
      exact fun p hp => hs.posicao_of_mem (ObjectTable.mem_fetch.mp hp)
  | _ => cases h

/-- What an event leaves of Home. -/
lemma Pronta.home_of_opera {s t : App} {e : Event} {w : Write Change} (hs : s.Pronta)
    (h : s.opera env e = some (w, t)) :
    Home.Tabelas.Firmes t.home.tabelas ∧ ∀ p ∈ t.home.vagas, p.2.posicao.isSome := by
  cases e with
  | home e hoje =>
    obtain ⟨r, hr, h⟩ := Option.map_eq_some_iff.mp h
    cases h
    refine ⟨Home.firmes_step hs.tabelas hr, ?_⟩
    show ∀ p ∈ r.vagas, _
    obtain heq | ⟨row, vagas, he, heq⟩ := Home.vagas_of_step hr
    · rw [heq]
      exact hs.posicoes
    · rw [heq]
      exact hs.comFetch he
  | _ =>
    obtain ⟨r, hr, h⟩ := Option.map_eq_some_iff.mp h
    cases h
    exact ⟨hs.tabelas, hs.posicoes⟩

end App

/-- The list has the requests it had, or some of the context that have an `estado`. -/
lemma Confirmacao.lista_of_step {view : Store} {c c' : Confirmacao} {e : Event} {w : Write Change}
    (h : c.step view e = some (w, c')) {p : ObjectID × Requisicao}
    (hp : p ∈ c'.lista.requisicoes) :
    p ∈ c.lista.requisicoes ∨ (p ∈ view.requisicoes.rows ∧ p.2.estado.isSome) := by
  cases e with
  | viewWillAppear fetch fetchVaga =>
    cases h
    cases fetch with
    | none => exact .inl hp
    | some ordem =>
      have hp' : p ∈ (view.requisicoes.fetch ordem).rows.filter fun r =>
          (r.2.estado.map contemPendente).getD false := by
        cases fetchVaga <;> exact hp
      obtain ⟨hmem, hpred⟩ := List.mem_filter.mp hp'
      refine .inr ⟨ObjectTable.mem_fetch.mp hmem, ?_⟩
      cases he : p.2.estado with
      | none => simp [he] at hpred
      | some estado => rfl
  | render row =>
    simp only [step] at h
    split at h <;> cases h
    next l hl =>
      rw [ListaConfirmacoes.requisicoes_render hl] at hp
      exact .inl hp
  | selecionar row =>
    simp only [step] at h
    repeat' split at h
    all_goals cases h
    exact .inl hp
  | aprovar ok | rejeitar ok =>
    cases h
    exact .inl hp

/-- The open request is as before, or one of the list. -/
lemma Confirmacao.aberta_of_step {view : Store} {c c' : Confirmacao} {e : Event} {w : Write Change}
    (h : c.step view e = some (w, c')) {a : ObjectID × ObjectID} (ha : a ∈ c'.aberta) :
    a ∈ c.aberta ∨ ∃ r, (a.1, r) ∈ c.lista.requisicoes := by
  cases e with
  | viewWillAppear fetch fetchVaga =>
    cases h
    exact .inl ha
  | render row =>
    simp only [step] at h
    split at h <;> cases h
    exact .inl ha
  | selecionar row =>
    simp only [step] at h
    split at h
    · cases h
    next r v hprep =>
      split at h <;> cases h
      obtain rfl := Option.some.inj ha
      unfold ListaConfirmacoes.prepare at hprep
      split at hprep <;> cases hprep
      next hr _ => exact .inr ⟨_, List.mem_of_getElem? hr⟩
  | aprovar ok | rejeitar ok =>
    cases h
    exact .inl ha

namespace App

variable {env : Ambiente}

/-- What an event leaves of the approvals screens: the requests they show are filled. -/
lemma Pronta.confirmacao_of_opera {s t : App} {e : Event} {w : Write Change} (hs : s.Pronta)
    (h : s.opera env e = some (w, t)) :
    (∀ p ∈ t.confirmacao.lista.requisicoes, p.2.Preenchida ∧ s.Cheia p.1) ∧
      ∀ a ∈ t.confirmacao.aberta, s.Cheia a.1 := by
  by_cases he : ∃ e', e = .confirmacao e'
  · obtain ⟨e', rfl⟩ := he
    obtain ⟨⟨w', c⟩, hr, h⟩ := Option.map_eq_some_iff.mp h
    cases h
    refine ⟨fun p hp => ?_, fun a ha => ?_⟩
    · rcases Confirmacao.lista_of_step hr hp with hp | ⟨hmem, hestado⟩
      · exact hs.lista p hp
      · -- what was inserted has no `estado`
        have hcheia : p.2.Preenchida := by
          refine (hs.view p hmem).resolve_right fun hnova => ?_
          simp [hnova, Requisicao.nova] at hestado
        exact ⟨hcheia, p.2, hmem, hcheia⟩
    · rcases Confirmacao.aberta_of_step hr ha with ha | ⟨r, hr⟩
      · exact hs.aberta a ha
      · exact (hs.lista _ hr).2
  · have heq := App.confirmacao_of_opera (fun e' h => he ⟨e', h⟩) h
    rw [heq]
    exact ⟨hs.lista, hs.aberta⟩

/-- **Every event keeps the invariant.**

**Proof sketch.** A Requisicao is filled at once or not at all, and only filled ones have an
`estado`, so only they are offered to the owner and decided on; what is filled stays filled. -/
theorem pronta_step {s s' : App} {e : Event} (hs : s.Pronta) (h : s.step env e = some s') :
    s'.Pronta := by
  have hcheia {k : ObjectID} : s.Cheia k → s'.Cheia k := Cheia.step hs h
  have hformada := formada_step hs.formada h
  obtain ⟨w, t, ht, rfl⟩ := step_eq_some_iff.mp h
  have hpedido := pedido_regular_of_opera hs.pedido ht
  have hlinhas := hs.linhas ht
  have hemVoo := ((efeito_of_opera ht).conserva hs.emVoo).2
  obtain ⟨htabelas, hposicoes⟩ := hs.home_of_opera ht
  obtain ⟨hlista, haberta⟩ := hs.confirmacao_of_opera ht
  refine ⟨hformada, ?_, hpedido, htabelas, hposicoes, ?_, ?_, fun p hp => ?_, fun a ha => ?_⟩
  · rw [view_exec]
    exact hemVoo
  · rw [view_exec]
    exact hlinhas
  · rw [persisted_exec]
    split_ifs
    · exact hlinhas
    · exact hs.persisted
  · obtain ⟨hp, hk⟩ := hlista p hp
    exact ⟨hp, hcheia hk⟩
  · exact hcheia (haberta a ha)

end App

/-! ## The screens -/

/-- **Where the garage screens trap.** With a faithful list of Vagas that have their seven days, an
event goes through exactly when it meets the condition. -/
theorem Garage.step_isSome_iff {view : Store} (hview : view.BemFormado) {g : Garage}
    (hl : view.vagas.Lists g.vagas) (e : Event) : (g.step view e).isSome ↔ g.Procede view e := by
  cases e with
  | salvar tela =>
    simp only [step, Procede]
    cases hf : g.formularios[tela]? with
    | none => simp
    | some f =>
      cases hvazio : NovaVagaViewController.campoVazio f with
      | true => simp [NovaVagaViewController.salvar, hvazio]
      | false => cases hpreco : Double.parse f.txtPreco <;>
          simp [NovaVagaViewController.salvar, hvazio, hpreco]
  | geocode k resposta ok =>
    refine iff_of_true ?_ trivial
    simp only [step]
    split <;> rfl
  | viewWillAppear fetch => cases fetch <;> exact iff_of_true rfl trivial
  | excluir row ok =>
    simp only [step, Procede]
    cases hk : g.vagas[row]? with
    | none => exact iff_of_false (by simp) (by simpa using hk)
    | some k => exact iff_of_true rfl (List.getElem?_eq_some_iff.mp hk).1
  | visualizar row =>
    simp only [step, Procede]
    cases hk : g.vagas[row]? with
    | none => exact iff_of_false (by simp) (by simpa using hk)
    | some k =>
      refine iff_of_true ?_ (List.getElem?_eq_some_iff.mp hk).1
      obtain ⟨v, hv⟩ := hl.stored k (List.mem_of_getElem? hk)
      obtain ⟨p, f, location, d, rfl⟩ := hview.vagas _ hv
      simp [ObjectTable.get?_eq_some_iff.mpr hv]
  | atualizar =>
    simp only [step, Procede]
    cases hk : g.vaga with
    | none => simp
    | some k =>
      cases hv : view.vagas.get? k with
      | none => simp [hv]
      | some v =>
        obtain ⟨p, f, location, d, rfl⟩ := hview.vagas _ (ObjectTable.get?_eq_some_iff.mp hv)
        simp [hv]
  | abrirNova | editar | editarDias | confirmar => exact iff_of_true rfl trivial

/-- **Where the wallet screens trap.** So it is with a faithful list of Cartoes that have their four
texts. -/
theorem Carteira.step_isSome_iff {view : Store} (hview : view.BemFormado) {c : Carteira}
    (hl : view.cartoes.Lists c.cartoes) (e : Event) : (c.step view e).isSome ↔ c.Procede e := by
  cases e with
  | viewWillAppear fetch => cases fetch <;> exact iff_of_true rfl trivial
  | excluir row ok =>
    simp only [step, Procede]
    cases hk : c.cartoes[row]? with
    | none => exact iff_of_false (by simp) (by simpa using hk)
    | some k => exact iff_of_true rfl (List.getElem?_eq_some_iff.mp hk).1
  | abrir row =>
    simp only [step, Procede]
    cases hk : c.cartoes[row]? with
    | none => exact iff_of_false (by simp) (by simpa using hk)
    | some k =>
      refine iff_of_true ?_ (List.getElem?_eq_some_iff.mp hk).1
      obtain ⟨a, ha⟩ := hl.stored k (List.mem_of_getElem? hk)
      obtain ⟨f, hf, rfl⟩ := hview.cartoes _ ha
      simp [ObjectTable.get?_eq_some_iff.mpr ha,
        PagamentoViewController.viewDidLoad_cartaoDoFormulario]
  | salvar ok =>
    refine iff_of_true ?_ trivial
    simp only [step]
    split <;> rfl
  | novo | editar => exact iff_of_true rfl trivial

/-- **Where the request screens trap.** -/
theorem Pedido.step_isSome_iff (view : Store) (p : Pedido) (e : Event) :
    (p.step view e).isSome ↔ p.Procede e := by
  cases e with
  | prosseguir ordem fetch =>
    refine iff_of_true ?_ trivial
    simp only [step]
    split <;> rfl
  | confirmar userID =>
    simp only [step, Procede]
    cases hc : p.checkout with
    | none => simp
    | some c =>
      cases hcartao : c.validaCartao with
      | false => simp [confirmar, hcartao]
      | true => cases userID <;> simp [confirmar, hcartao]
  | firebase k snapshot ok =>
    refine iff_of_true ?_ trivial
    simp only [step]
    split <;> rfl
  | marca | modelo | placa | data | definirHora | voltar => exact iff_of_true rfl trivial

/-- **Where the approvals screens trap.** A filled request has its date. -/
theorem Confirmacao.step_isSome_iff (view : Store) {c : Confirmacao}
    (hlista : ∀ p ∈ c.lista.requisicoes, p.2.data.isSome) (e : Event) :
    (c.step view e).isSome ↔ c.Procede e := by
  cases e with
  | render row =>
    simp only [step, Procede, ListaConfirmacoes.render, ListaConfirmacoes.cellForRowAt]
    cases hr : c.lista.requisicoes[row]? with
    | none => exact iff_of_false (by simp) (by simpa using hr)
    | some r =>
      refine iff_of_true ?_ (List.getElem?_eq_some_iff.mp hr).1
      obtain ⟨data, hdata⟩ := Option.isSome_iff_exists.mp (hlista r (List.mem_of_getElem? hr))
      cases hb : ListaConfirmacoes.buscaVaga r.2.idConfirmacao c.lista.vagas <;> simp [hb, hdata]
  | selecionar row =>
    simp only [step, Procede, ListaConfirmacoes.prepare]
    cases hr : c.lista.requisicoes[row]? with
    | none => exact iff_of_false (by simp) (by simp at hr; omega)
    | some r =>
      have hrow := (List.getElem?_eq_some_iff.mp hr).1
      obtain ⟨data, hdata⟩ := Option.isSome_iff_exists.mp (hlista r (List.mem_of_getElem? hr))
      cases hv : c.lista.vagaSelec with
      | none => simp
      | some v => simp [ConfirmarVagaViewController.viewDidLoad, hdata, hrow]
  | viewWillAppear | aprovar | rejeitar => exact iff_of_true rfl trivial

/-- **Where the history screens trap.** A Requisicao has no date only as it was inserted. -/
theorem Historico.step_isSome_iff {view : Store}
    (hview : ∀ p ∈ view.requisicoes.rows, p.2.Preenchida ∨ p.2 = .nova) (h : Historico)
    (e : Event) : (h.step view e).isSome ↔ h.Procede view e := by
  cases e with
  | viewWillAppear fetch => cases fetch <;> exact iff_of_true rfl trivial
  | abrir row =>
    simp only [step, Procede]
    cases hk : h.solicitacoes[row]? with
    | none => simp
    | some k =>
      have hforall : (∀ j ∈ some k, ∀ r ∈ view.requisicoes.get? j, r ≠ .nova) ↔
          ∀ r ∈ view.requisicoes.get? k, r ≠ .nova := by
        simp only [Option.mem_some_iff, forall_eq']
      rw [hforall]
      dsimp only
      cases hr : view.requisicoes.get? k with
      | none => simp
      | some r =>
        rcases hview _ (ObjectTable.get?_eq_some_iff.mp hr) with hcheia | hnova
        · have hne : r ≠ .nova := fun heq => hcheia.data_ne (heq ▸ rfl)
          simp [HistoricoViewController.viewDidLoad, hcheia.isSome.1, hne]
        · obtain rfl := hnova
          simp [HistoricoViewController.viewDidLoad, Requisicao.nova]

/-! ## The application -/

namespace App

variable {env : Ambiente}

/-- An event of Home is next to the same condition with its fetch. -/
lemma procede_comFetch (h : Home) (view : Store) (e : Home.Event) :
    h.Procede (e.comFetch view) ↔ h.Procede e := by
  cases e <;> exact Iff.rfl

/-- **Where the application traps.** From a state with the invariant and faithful lists an event
goes through exactly when it meets the condition. -/
theorem step_isSome_iff {s : App} (hs : s.Pronta) (hl : ListasFieis env s) (e : Event) :
    (s.step env e).isSome ↔ s.Procede e := by
  cases e with
  | garage e =>
    simpa [step, opera, Procede] using Garage.step_isSome_iff hs.formada.view hl.vagas e
  | carteira e =>
    simpa [step, opera, Procede] using Carteira.step_isSome_iff hs.formada.view hl.cartoes e
  | home e hoje =>
    have hhome : (Home.step env s.home (e.comFetch s.view)).isSome ↔ s.home.Procede e :=
      (Home.step_isSome_iff hs.tabelas hs.posicoes fun _ _ he => hs.comFetch he).trans
        (procede_comFetch s.home s.view e)
    simpa [step, opera, Procede] using hhome
  | pedido e => simpa [step, opera, Procede] using Pedido.step_isSome_iff s.view s.pedido e
  | confirmacao e =>
    have hdata : ∀ p ∈ s.confirmacao.lista.requisicoes, p.2.data.isSome :=
      fun p hp => (hs.lista p hp).1.isSome.1
    simpa [step, opera, Procede] using Confirmacao.step_isSome_iff s.view hdata e
  | historico e =>
    simpa [step, opera, Procede] using Historico.step_isSome_iff hs.view s.historico e
  | background ok =>
    simp only [step, opera, saveContext, Procede]
    cases hp : s.ctx.pending with
    | nil => simp
    | cons d ds => cases ok <;> simp

end App

namespace Aprovacoes

variable {env : Ambiente}

/-- The condition on an event, with the approvals screens in their order: the list is rendered and
its rows are selected only while it is in front. -/
def Procede (s : Aprovacoes) : Event → Prop
  | .app (.confirmacao _) => True
  | .app e => s.app.Procede e
  | .render row => s.frente = .lista → s.app.confirmacao.Procede (.render row)
  | .selecionar row => s.frente = .lista → s.app.confirmacao.Procede (.selecionar row)
  | _ => True

/-- A list that is not loaded yet shows nothing. -/
lemma pronta_novaLista {a : App} (ha : a.Pronta) {c : Confirmacao}
    (hc : c = a.confirmacao ∨ c = .inicial) : App.Pronta { a with confirmacao := c } := by
  obtain rfl | rfl := hc
  · exact ha
  · have hformada : App.Formada { a with confirmacao := .inicial } :=
      ⟨ha.formada.view, ha.formada.persisted, ha.formada.geocodificacoes⟩
    exact {
      formada := hformada
      emVoo := ha.emVoo
      pedido := ha.pedido
      tabelas := ha.tabelas
      posicoes := ha.posicoes
      view := ha.view
      persisted := ha.persisted
      lista := by simp [Confirmacao.inicial]
      aberta := by simp [Confirmacao.inicial] }

/-- The application starts again with what is on disk. -/
lemma pronta_reinicia {t : Store} (hvagas : t.BemFormado)
    (hreq : ∀ p ∈ t.requisicoes.rows, p.2.Preenchida ∨ p.2 = .nova) :
    App.Pronta { App.inicial with ctx := .opened t } where
  formada := ⟨hvagas, hvagas, App.formada_inicial.geocodificacoes⟩
  emVoo := .nil _
  pedido := Pedido.regular_inicial
  tabelas := Home.firmes_viewDidLoad
  posicoes := fun _ hp => absurd hp List.not_mem_nil
  view := hreq
  persisted := hreq
  lista := by simp [App.inicial, Confirmacao.inicial]
  aberta := by simp [App.inicial, Confirmacao.inicial]

lemma pronta_inicial : inicial.app.Pronta :=
  pronta_reinicia (t := .empty) ⟨by simp [Store.empty], by simp [Store.empty]⟩
    (by simp [Store.empty])

/-- The deletion of an event, if it is one, is saved. -/
def Event.ExclusaoSalva : Event → Prop
  | .app e => App.ExclusaoSalva e
  | _ => True

/-- A step keeps the invariant of the application. -/
lemma pronta_step {s s' : Aprovacoes} {e : Event} (hs : s.app.Pronta)
    (h : step env s e = some s') : s'.app.Pronta := by
  cases anda_of_step h with
  | parada c hc h' =>
    rw [h']
    exact pronta_novaLista hs hc
  | passo c e' hc _ _ h' => exact App.pronta_step (pronta_novaLista hs hc) h'
  | reinicia => exact pronta_reinicia hs.formada.persisted hs.persisted

/-- The list appears without a trap. -/
lemma aparece_isSome (s : Aprovacoes) (de : Frente)
    (fetch : Option (List (ObjectID × Requisicao))) (fetchVaga : Option (List (ObjectID × Vaga))) :
    (s.aparece env de fetch fetchVaga).isSome := by
  unfold aparece
  split_ifs <;> rfl

/-- An event of the approvals screens goes through where the application's does, or its screen is
not in front. -/
lemma passa_isSome_iff {s : Aprovacoes} (hs : s.app.Pronta) (hl : App.ListasFieis env s.app)
    (de para : Frente) (e : Confirmacao.Event) :
    (s.passa env de para e).isSome ↔ (s.frente = de → s.app.confirmacao.Procede e) := by
  unfold passa
  split_ifs with hde
  · have hiff := App.step_isSome_iff hs hl (.confirmacao e)
    simp only [Option.isSome_map, hde, forall_const]
    exact hiff
  · exact iff_of_true rfl fun h => absurd h hde

/-- From a state with the invariant and faithful lists a step goes through exactly when it meets the
condition. -/
lemma step_isSome_iff {s : Aprovacoes} (hs : s.app.Pronta) (hl : App.ListasFieis env s.app)
    (e : Event) : (step env s e).isSome ↔ s.Procede e := by
  cases e with
  | app e =>
    cases e with
    | confirmacao e => exact iff_of_true rfl trivial
    | _ => simpa only [step, Option.isSome_map, Procede] using App.step_isSome_iff hs hl _
  | abrir fetch fetchVaga =>
    refine iff_of_true ?_ trivial
    simp only [step]
    split_ifs
    · exact aparece_isSome _ _ _ _
    · rfl
  | render row => exact passa_isSome_iff hs hl .lista .lista (.render row)
  | selecionar row => exact passa_isSome_iff hs hl .lista .confirmar (.selecionar row)
  | aprovar ok =>
    exact (passa_isSome_iff hs hl .confirmar .alerta (.aprovar ok)).trans
      (iff_of_true (fun _ => trivial) trivial)
  | rejeitar ok =>
    exact (passa_isSome_iff hs hl .confirmar .alerta (.rejeitar ok)).trans
      (iff_of_true (fun _ => trivial) trivial)
  | dispensar fetch fetchVaga => exact iff_of_true (aparece_isSome s _ _ _) trivial
  | voltar fetch fetchVaga =>
    refine iff_of_true ?_ trivial
    simp only [step]
    split_ifs
    · rfl
    · exact aparece_isSome _ _ _ _
  | reiniciar => exact iff_of_true rfl trivial

end Aprovacoes

end Parken
