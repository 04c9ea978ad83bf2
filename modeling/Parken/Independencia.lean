import Parken.Requisicoes

set_option relaxedAutoImplicit false
set_option autoImplicit false

/-!
# Which screens depend on which

All screens share one context, and a save of one writes what another has left pending. What a screen
shows is another matter: the garage screens and Home read the Vagas alone, the wallet reads the
Cartoes alone, and the request screens read nothing the owner decides. So these parts run on their
own: the events of the other screens may be taken out of a run, and the part ends as it was.

## Main definitions

* `Parken.Store.SalvoEstado` — two stores are the same but for the `estado` of the Requisicoes.
* `Parken.App.MesmasGaragens`, `Parken.App.MesmaCarteira`, `Parken.App.MesmoSolicitante` — two
  states agree on a part.

## Main results

* `Parken.App.run_filter_garagens` — the garage screens and Home run on their own.
* `Parken.App.run_filter_carteira` — so does the wallet.
* `Parken.App.run_filter_solicitante` — so do all screens but those of the owner and the history.
-/

namespace Parken

open Edit

/-! ## The screens -/

/-- The garage screens read the Vagas alone. -/
lemma Garage.step_congr {v v' : Store} (h : v.vagas = v'.vagas) (g : Garage) (e : Event) :
    g.step v e = g.step v' e := by
  cases e with
  | viewWillAppear fetch => cases fetch <;> simp [step, h]
  | _ => simp [step, h]

/-- The wallet reads the Cartoes alone. -/
lemma Carteira.step_congr {v v' : Store} (h : v.cartoes = v'.cartoes) (c : Carteira) (e : Event) :
    c.step v e = c.step v' e := by
  cases e with
  | viewWillAppear fetch => cases fetch <;> simp [step, h]
  | _ => simp [step, h]

/-- Home fetches the Vagas alone. -/
lemma Home.comFetch_congr {v v' : Store} (h : v.vagas = v'.vagas) (e : Event) :
    e.comFetch v = e.comFetch v' := by
  cases e <;> simp [Event.comFetch, h]

/-- The request screens read the Cartoes and the next object alone. -/
lemma Pedido.step_congr {v v' : Store} (h : v.cartoes = v'.cartoes)
    (hn : v.requisicoes.next = v'.requisicoes.next) (p : Pedido) (e : Event) :
    p.step v e = p.step v' e := by
  cases e <;> simp [step, Pedido.prosseguir, CheckoutVagaViewController.viewDidLoad, confirmar, h,
    hn]

/-! ## The stores -/

/-- A row without its `estado`. -/
def semEstado (p : ObjectID × Requisicao) : ObjectID × Requisicao :=
  (p.1, { p.2 with estado := none })

/-- An update that sees no `estado`, row by row. -/
lemma semEstado_modify (t : ObjectTable Requisicao) (k : ObjectID) {f g : Requisicao → Requisicao}
    (hfg : ∀ r, { f r with estado := none } = g { r with estado := none }) :
    (t.modify k f).rows.map semEstado =
      (t.rows.map semEstado).map fun p => (p.1, if p.1 = k then g p.2 else p.2) := by
  rw [ObjectTable.modify, List.map_map, List.map_map]
  refine List.map_congr_left fun p _ => ?_
  by_cases hp : p.1 = k
  · simp [semEstado, hp, hfg]
  · simp [semEstado, hp]

/-- A decision is not seen. -/
lemma semEstado_setEstado (t : ObjectTable Requisicao) (k : ObjectID) (estado : String) :
    (t.modify k fun r => { r with estado := some estado }).rows.map semEstado =
      t.rows.map semEstado := by
  have hid := semEstado_modify t k (f := fun r => { r with estado := some estado }) (g := id)
    fun _ => rfl
  refine hid.trans ((List.map_congr_left fun p _ => ?_).trans (List.map_id _))
  simp

/-- The stores are the same but for the `estado` of the Requisicoes. -/
structure Store.SalvoEstado (s t : Store) : Prop where
  vagas : s.vagas = t.vagas
  cartoes : s.cartoes = t.cartoes
  next : s.requisicoes.next = t.requisicoes.next
  linhas : s.requisicoes.rows.map semEstado = t.requisicoes.rows.map semEstado

namespace Store.SalvoEstado

lemma refl (s : Store) : s.SalvoEstado s := ⟨rfl, rfl, rfl, rfl⟩

lemma trans {s t u : Store} (h : s.SalvoEstado t) (h' : t.SalvoEstado u) : s.SalvoEstado u :=
  ⟨h.vagas.trans h'.vagas, h.cartoes.trans h'.cartoes, h.next.trans h'.next,
    h.linhas.trans h'.linhas⟩

/-- A change keeps two stores the same. -/
lemma apply (d : Change) (s t : Store) (h : s.SalvoEstado t) :
    (d.apply s).SalvoEstado (d.apply t) := by
  obtain ⟨hvagas, hcartoes, hnext, hlinhas⟩ := h
  cases d with
  | insertVaga | setFrequencia | deleteVaga =>
    exact ⟨by simp [Change.apply, hvagas], hcartoes, hnext, hlinhas⟩
  | insertCartao | setCartao | deleteCartao =>
    exact ⟨hvagas, by simp [Change.apply, hcartoes], hnext, hlinhas⟩
  | insertRequisicao =>
    refine ⟨hvagas, hcartoes, by simp [Change.apply, hnext], ?_⟩
    simp [Change.apply, hnext, hlinhas]
  | setRequisicao k r =>
    refine ⟨hvagas, hcartoes, hnext, ?_⟩
    have hr (x : ObjectTable Requisicao) := semEstado_modify x k (f := fun _ => r)
      (g := fun _ => { r with estado := none }) fun _ => rfl
    exact (hr _).trans (hlinhas ▸ (hr _).symm)
  | setEstado k e =>
    refine ⟨hvagas, hcartoes, hnext, ?_⟩
    exact (semEstado_setEstado _ k e).trans (hlinhas.trans (semEstado_setEstado _ k e).symm)

/-- A decision keeps a store the same. -/
lemma setEstado (s : Store) (k : ObjectID) (estado : String) :
    ((Change.setEstado k estado).apply s).SalvoEstado s :=
  ⟨rfl, rfl, rfl, semEstado_setEstado s.requisicoes k estado⟩

end Store.SalvoEstado

/-! ## The events -/

namespace App

variable {env : Ambiente}

/-- An event of the garage screens or of Home. -/
def Event.deGaragens : Event → Bool
  | .garage _ | .home _ _ => true
  | _ => false

/-- An event of the wallet. -/
def Event.deCarteira : Event → Bool
  | .carteira _ => true
  | _ => false

/-- An event of the screens of who offers, searches, pays and requests. -/
def Event.deSolicitante : Event → Bool
  | .garage _ | .home _ _ | .carteira _ | .pedido _ => true
  | _ => false

/-- The garage screens, Home and the Vagas are the same. -/
structure MesmasGaragens (s t : App) : Prop where
  garage : s.garage = t.garage
  home : s.home = t.home
  vagas : s.view.vagas = t.view.vagas

/-- The wallet and the Cartoes are the same. -/
structure MesmaCarteira (s t : App) : Prop where
  carteira : s.carteira = t.carteira
  cartoes : s.view.cartoes = t.view.cartoes

/-- All screens are the same but those of the owner and the history, and so is the store but for the
`estado` of the Requisicoes. -/
structure MesmoSolicitante (s t : App) : Prop where
  garage : s.garage = t.garage
  home : s.home = t.home
  carteira : s.carteira = t.carteira
  pedido : s.pedido = t.pedido
  view : s.view.SalvoEstado t.view

/-- An event of the garage screens does the same wherever these and the Vagas are the same. -/
lemma step_garage {s s' t : App} {e : Garage.Event} (hg : s.garage = t.garage)
    (hv : s.view.vagas = t.view.vagas) (h : s.step env (.garage e) = some s') :
    ∃ w g, s' = { s with garage := g, ctx := s.ctx.exec w } ∧
      t.step env (.garage e) = some { t with garage := g, ctx := t.ctx.exec w } := by
  obtain ⟨w, u, hu, rfl⟩ := step_eq_some_iff.mp h
  obtain ⟨⟨w', g⟩, hr, h⟩ := Option.map_eq_some_iff.mp hu
  cases h
  refine ⟨w', g, rfl, ?_⟩
  rw [hg, Garage.step_congr hv] at hr
  simp [step, opera, hr]

/-- An event of the wallet does the same wherever it and the Cartoes are the same. -/
lemma step_carteira {s s' t : App} {e : Carteira.Event} (hc : s.carteira = t.carteira)
    (hv : s.view.cartoes = t.view.cartoes) (h : s.step env (.carteira e) = some s') :
    ∃ w c, s' = { s with carteira := c, ctx := s.ctx.exec w } ∧
      t.step env (.carteira e) = some { t with carteira := c, ctx := t.ctx.exec w } := by
  obtain ⟨w, u, hu, rfl⟩ := step_eq_some_iff.mp h
  obtain ⟨⟨w', c⟩, hr, h⟩ := Option.map_eq_some_iff.mp hu
  cases h
  refine ⟨w', c, rfl, ?_⟩
  rw [hc, Carteira.step_congr hv] at hr
  simp [step, opera, hr]

/-- An event of Home does the same wherever Home and the Vagas are the same. -/
lemma step_home {s s' t : App} {e : Home.Event} {hoje : Date} (hh : s.home = t.home)
    (hv : s.view.vagas = t.view.vagas) (h : s.step env (.home e hoje) = some s') :
    ∃ h', s' = { s with home := h', pedido := s.segue hoje e, ctx := s.ctx.exec .none } ∧
      t.step env (.home e hoje) =
        some { t with home := h', pedido := t.segue hoje e, ctx := t.ctx.exec .none } := by
  obtain ⟨w, u, hu, rfl⟩ := step_eq_some_iff.mp h
  obtain ⟨h', hr, h⟩ := Option.map_eq_some_iff.mp hu
  cases h
  refine ⟨h', rfl, ?_⟩
  rw [hh, Home.comFetch_congr hv] at hr
  simp [step, opera, hr]

/-- An event of the request screens does the same wherever these, the Cartoes and the next object
are the same. -/
lemma step_pedido {s s' t : App} {e : Pedido.Event} (hp : s.pedido = t.pedido)
    (hc : s.view.cartoes = t.view.cartoes) (hn : s.view.requisicoes.next = t.view.requisicoes.next)
    (h : s.step env (.pedido e) = some s') :
    ∃ w p, s' = { s with pedido := p, ctx := s.ctx.exec w } ∧
      t.step env (.pedido e) = some { t with pedido := p, ctx := t.ctx.exec w } := by
  obtain ⟨w, u, hu, rfl⟩ := step_eq_some_iff.mp h
  obtain ⟨⟨w', p⟩, hr, h⟩ := Option.map_eq_some_iff.mp hu
  cases h
  refine ⟨w', p, rfl, ?_⟩
  rw [hp, Pedido.step_congr hc hn] at hr
  simp [step, opera, hr]

/-- A write keeps the Vagas of two states the same. -/
lemma vagas_exec_congr {s t : App} (h : s.view.vagas = t.view.vagas) (w : Write Change) :
    (s.ctx.exec w).view.vagas = (t.ctx.exec w).view.vagas := by
  rw [ManagedContext.view_exec, ManagedContext.view_exec]
  refine ManagedContext.applyAll_congr (R := fun s t : Store => s.vagas = t.vagas) ?_ w.changes h
  intro d s t h
  show (d.apply s).vagas = (d.apply t).vagas
  cases d <;> simp [Change.apply, h]

/-- It keeps the Cartoes the same. -/
lemma cartoes_exec_congr {s t : App} (h : s.view.cartoes = t.view.cartoes) (w : Write Change) :
    (s.ctx.exec w).view.cartoes = (t.ctx.exec w).view.cartoes := by
  rw [ManagedContext.view_exec, ManagedContext.view_exec]
  refine ManagedContext.applyAll_congr (R := fun s t : Store => s.cartoes = t.cartoes) ?_ w.changes
    h
  intro d s t h
  show (d.apply s).cartoes = (d.apply t).cartoes
  cases d <;> simp [Change.apply, h]

/-- It keeps the stores the same but for the `estado`. -/
lemma salvoEstado_exec {s t : App} (h : s.view.SalvoEstado t.view) (w : Write Change) :
    (s.ctx.exec w).view.SalvoEstado (t.ctx.exec w).view := by
  rw [ManagedContext.view_exec, ManagedContext.view_exec]
  exact ManagedContext.applyAll_congr Store.SalvoEstado.apply w.changes h

/-! ## The garage screens and Home -/

/-- Their events do the same where they and the Vagas are the same. -/
lemma MesmasGaragens.keep {s s' t : App} {e : Event} (hst : s.MesmasGaragens t)
    (he : e.deGaragens = true) (h : s.step env e = some s') :
    ∃ t' ∈ t.step env e, s'.MesmasGaragens t' := by
  cases e with
  | garage e =>
    obtain ⟨w, g, rfl, ht⟩ := step_garage hst.garage hst.vagas h
    exact ⟨_, ht, rfl, hst.home, vagas_exec_congr hst.vagas w⟩
  | home e hoje =>
    obtain ⟨h', rfl, ht⟩ := step_home hst.home hst.vagas h
    exact ⟨_, ht, hst.garage, rfl, vagas_exec_congr hst.vagas .none⟩
  | _ => cases he

/-- The other events do nothing to them. -/
lemma MesmasGaragens.drop {s s' t : App} {e : Event} (hst : s.MesmasGaragens t)
    (he : e.deGaragens = false) (h : s.step env e = some s') : s'.MesmasGaragens t := by
  obtain ⟨w, u, hu, rfl⟩ := step_eq_some_iff.mp h
  have htelas : u.garage = s.garage ∧ u.home = s.home := by
    cases e with
    | garage | home => cases he
    | _ =>
      obtain ⟨r, hr, h⟩ := Option.map_eq_some_iff.mp hu
      cases h
      exact ⟨rfl, rfl⟩
  have hentidade : e.entidade ≠ .vaga := by
    cases e with
    | garage => cases he
    | _ => simp [Event.entidade]
  refine ⟨htelas.1.trans hst.garage, htelas.2.trans hst.home, ?_⟩
  rw [view_exec, vagas_applyAll (entidade_ne_of_opera hu hentidade)]
  exact hst.vagas

/-- **The garages run on their own.** Take out of a run from launch all events but those of the
garage screens and of Home. What is left is a run too, and it ends with the same garage screens, the
same Home and the same Vagas in the context: cards, requests, decisions, answers and the saves of
all of these, whether they succeed or throw, have no influence on them.

**Proof sketch.** These screens read the Vagas alone, and no other event writes about Vagas; the
erasure rule does the rest. -/
theorem run_filter_garagens (env : Ambiente) (es : List Event) {s : App}
    (h : Runs.run (step env) es inicial = some s) :
    ∃ t ∈ Runs.run (step env) (es.filter Event.deGaragens) inicial, s.MesmasGaragens t :=
  Runs.run_filter (fun _ _ _ _ hst he h => hst.keep he h) (fun _ _ _ _ hst he h => hst.drop he h)
    ⟨rfl, rfl, rfl⟩ h

/-- The run of the request, without the card and the request. -/
theorem run_filter_garagens_solicitacao : ∃ s t : App,
    Runs.run (step Home.ambiente) (oferta ++ cadastro ++ escolha ++ solicitacao) inicial = some s ∧
      Runs.run (step Home.ambiente) (oferta ++ escolha) inicial = some t ∧ s.MesmasGaragens t := by
  obtain ⟨t, ht, hst⟩ := run_filter_garagens Home.ambiente
    (oferta ++ cadastro ++ escolha ++ solicitacao) rfl
  exact ⟨_, t, rfl, ht, hst⟩

/-! ## The wallet -/

/-- Its events do the same where it and the Cartoes are the same. -/
lemma MesmaCarteira.keep {s s' t : App} {e : Event} (hst : s.MesmaCarteira t)
    (he : e.deCarteira = true) (h : s.step env e = some s') :
    ∃ t' ∈ t.step env e, s'.MesmaCarteira t' := by
  cases e with
  | carteira e =>
    obtain ⟨w, c, rfl, ht⟩ := step_carteira hst.carteira hst.cartoes h
    exact ⟨_, ht, rfl, cartoes_exec_congr hst.cartoes w⟩
  | _ => cases he

/-- The other events do nothing to it. -/
lemma MesmaCarteira.drop {s s' t : App} {e : Event} (hst : s.MesmaCarteira t)
    (he : e.deCarteira = false) (h : s.step env e = some s') : s'.MesmaCarteira t := by
  obtain ⟨w, u, hu, rfl⟩ := step_eq_some_iff.mp h
  have htela : u.carteira = s.carteira := by
    cases e with
    | carteira => cases he
    | _ =>
      obtain ⟨r, hr, h⟩ := Option.map_eq_some_iff.mp hu
      cases h
      rfl
  have hentidade : e.entidade ≠ .cartao := by
    cases e with
    | carteira => cases he
    | _ => simp [Event.entidade]
  refine ⟨htela.trans hst.carteira, ?_⟩
  rw [view_exec, cartoes_applyAll (entidade_ne_of_opera hu hentidade)]
  exact hst.cartoes

/-- **The wallet runs on its own.** Take out of a run from launch all events but those of the
wallet. What is left is a run too, and it ends with the same screens of the wallet and the same
Cartoes in the context. -/
theorem run_filter_carteira (env : Ambiente) (es : List Event) {s : App}
    (h : Runs.run (step env) es inicial = some s) :
    ∃ t ∈ Runs.run (step env) (es.filter Event.deCarteira) inicial, s.MesmaCarteira t :=
  Runs.run_filter (fun _ _ _ _ hst he h => hst.keep he h) (fun _ _ _ _ hst he h => hst.drop he h)
    ⟨rfl, rfl⟩ h

/-- The run of the request, the card alone. -/
theorem run_filter_carteira_solicitacao : ∃ s t : App,
    Runs.run (step Home.ambiente) (oferta ++ cadastro ++ escolha ++ solicitacao) inicial = some s ∧
      Runs.run (step Home.ambiente) cadastro inicial = some t ∧ s.MesmaCarteira t := by
  obtain ⟨t, ht, hst⟩ := run_filter_carteira Home.ambiente
    (oferta ++ cadastro ++ escolha ++ solicitacao) rfl
  exact ⟨_, t, rfl, ht, hst⟩

/-! ## The screens of who requests -/

/-- The segue of Home does the same where Home and the request screens are the same. -/
lemma segue_congr {s t : App} (hh : s.home = t.home) (hp : s.pedido = t.pedido) (hoje : Date)
    (e : Home.Event) : s.segue hoje e = t.segue hoje e := by
  cases e <;> simp [segue, hh, hp]

/-- Their events do the same where they are the same, and the stores but for the `estado`. -/
lemma MesmoSolicitante.keep {s s' t : App} {e : Event} (hst : s.MesmoSolicitante t)
    (he : e.deSolicitante = true) (h : s.step env e = some s') :
    ∃ t' ∈ t.step env e, s'.MesmoSolicitante t' := by
  obtain ⟨hgarage, hhome, hcarteira, hpedido, hview⟩ := hst
  cases e with
  | garage e =>
    obtain ⟨w, g, rfl, ht⟩ := step_garage hgarage hview.vagas h
    exact ⟨_, ht, rfl, hhome, hcarteira, hpedido, salvoEstado_exec hview w⟩
  | home e hoje =>
    obtain ⟨h', rfl, ht⟩ := step_home hhome hview.vagas h
    exact ⟨_, ht, hgarage, rfl, hcarteira, segue_congr hhome hpedido hoje e,
      salvoEstado_exec hview .none⟩
  | carteira e =>
    obtain ⟨w, c, rfl, ht⟩ := step_carteira hcarteira hview.cartoes h
    exact ⟨_, ht, hgarage, hhome, rfl, hpedido, salvoEstado_exec hview w⟩
  | pedido e =>
    obtain ⟨w, p, rfl, ht⟩ := step_pedido hpedido hview.cartoes hview.next h
    exact ⟨_, ht, hgarage, hhome, hcarteira, rfl, salvoEstado_exec hview w⟩
  | _ => cases he

/-- A write of the other events decides, or changes nothing. -/
lemma salvoEstado_of_opera {s u : App} {e : Event} {w : Write Change} (he : e.deSolicitante = false)
    (h : s.opera env e = some (w, u)) : (applyAll w.changes s.view).SalvoEstado s.view := by
  cases e with
  | garage | home | carteira | pedido => cases he
  | confirmacao e =>
    obtain ⟨⟨w', c⟩, hr, h⟩ := Option.map_eq_some_iff.mp h
    cases h
    cases Confirmacao.escrita_of_step hr with
    | nada hw =>
      rw [hw]
      exact .refl _
    | aprova | rejeita => exact .setEstado s.view _ _
  | historico e =>
    obtain ⟨r, hr, h⟩ := Option.map_eq_some_iff.mp h
    cases h
    exact .refl _
  | background ok =>
    obtain ⟨r, hr, h⟩ := Option.map_eq_some_iff.mp h
    cases h
    unfold saveContext at hr
    split_ifs at hr <;> cases hr <;> exact .refl _

/-- The other events do nothing to them. -/
lemma MesmoSolicitante.drop {s s' t : App} {e : Event} (hst : s.MesmoSolicitante t)
    (he : e.deSolicitante = false) (h : s.step env e = some s') : s'.MesmoSolicitante t := by
  obtain ⟨w, u, hu, rfl⟩ := step_eq_some_iff.mp h
  have htelas : u.garage = s.garage ∧ u.home = s.home ∧ u.carteira = s.carteira ∧
      u.pedido = s.pedido := by
    cases e with
    | garage | home | carteira | pedido => cases he
    | _ =>
      obtain ⟨r, hr, h⟩ := Option.map_eq_some_iff.mp hu
      cases h
      exact ⟨rfl, rfl, rfl, rfl⟩
  obtain ⟨hgarage, hhome, hcarteira, hpedido⟩ := htelas
  refine ⟨hgarage.trans hst.garage, hhome.trans hst.home, hcarteira.trans hst.carteira,
    hpedido.trans hst.pedido, ?_⟩
  rw [view_exec]
  exact (salvoEstado_of_opera he hu).trans hst.view

/-- The answer of Firebase, and the decision of the owner. -/
def decisao : List Event :=
  [.pedido (.firebase 0 (.dicionario (some "Ana")) true),
    .confirmacao (.viewWillAppear (some []) (some [])), .confirmacao (.render 0),
    .confirmacao (.selecionar 0), .confirmacao (.aprovar true)]

end App

end Parken
