import Parken.Formularios

set_option relaxedAutoImplicit false
set_option autoImplicit false

/-!
# The lists of the garage, the wallet and the history

Each list keeps the objects of its last fetch and does not hear of what happens to them. A row is
taken out by hand after the save of its deletion succeeded; where that save throws the row stays,
over an object that the context no longer has.

## Main definitions

* `Parken.App.ListasFieis` — the rows of the three lists are stored objects, each in one row, and
  every row of the garage and of the wallet opens.
* `Parken.App.ExclusaoSalva` — the condition on an event: the save of a deletion succeeds.
* `Parken.App.Linhas` — what an event does to the three lists.

## Main results

* `Parken.App.linhas_of_opera` — every event has one of the effects.
* `Parken.App.listasFieis_iff_exclusaoSalva` — the lists are faithful exactly in the runs in which
  the save of every deletion succeeds.
-/

namespace Parken

open Edit

namespace App

variable {env : Ambiente}

/-! ## What an event does to the lists -/

/-- A change that takes an object away. -/
def Apaga : Change → Prop
  | .deleteVaga _ | .deleteCartao _ => True
  | _ => False

/-- A list after an event: as it was, or what a fetch of the table has just returned. -/
def Recarrega {α : Type*} [DecidableEq α] (t : ObjectTable α) (antes depois : List ObjectID) :
    Prop :=
  depois = antes ∨ ∃ ordem, depois = (t.fetch ordem).rows.map Prod.fst

/-- What an event does to the lists of the garage and of the wallet. -/
inductive Linhas (s : App) : Event → Write Change → App → Prop where
  /-- Nothing is deleted; a list is fetched again or stays. -/
  | mantem {e : Event} {w : Write Change} {t : App} (hw : ∀ d ∈ w.changes, ¬ Apaga d)
      (hx : ∀ row ok, e ≠ .garage (.excluir row ok))
      (hy : ∀ row ok, e ≠ .carteira (.excluir row ok))
      (hv : Recarrega s.view.vagas s.garage.vagas t.garage.vagas)
      (hc : Recarrega s.view.cartoes s.carteira.cartoes t.carteira.cartoes) : Linhas s e w t
  /-- The Vaga of a row is deleted, and the row with it if the save succeeds. -/
  | apagaVaga {row : ℕ} {k : ObjectID} {t : App} (ok : Bool) (hk : s.garage.vagas[row]? = some k)
      (hv : t.garage.vagas = if ok then s.garage.vagas.eraseIdx row else s.garage.vagas)
      (hc : t.carteira = s.carteira) :
      Linhas s (.garage (.excluir row ok)) (VagasTableViewController.excluir k ok) t
  /-- So is the Cartao of a row. -/
  | apagaCartao {row : ℕ} {k : ObjectID} {t : App} (ok : Bool)
      (hk : s.carteira.cartoes[row]? = some k)
      (hc : t.carteira.cartoes = if ok then s.carteira.cartoes.eraseIdx row else s.carteira.cartoes)
      (hv : t.garage = s.garage) :
      Linhas s (.carteira (.excluir row ok)) (PagamentoTableViewController.excluir k ok) t

/-- The garage screens keep their list or fetch it again, but for a deletion. -/
lemma recarrega_garage {view : Store} {g g' : Garage} {e : Garage.Event} {w : Write Change}
    (he : ∀ row ok, e ≠ .excluir row ok) (h : g.step view e = some (w, g')) :
    Recarrega view.vagas g.vagas g'.vagas := by
  cases e with
  | viewWillAppear fetch =>
    cases fetch with
    | none =>
      cases h
      exact .inl rfl
    | some ordem =>
      cases h
      exact .inr ⟨ordem, rfl⟩
  | excluir row ok => exact absurd rfl (he row ok)
  | abrirNova | editar | editarDias | confirmar =>
    cases h
    exact .inl rfl
  | geocode k resposta ok =>
    simp only [Garage.step] at h
    split at h
    · cases h
      exact .inl rfl
    next q hq =>
      simp only [Garage.geocodeCallback, Option.some.injEq] at h
      split at h <;> cases h <;> exact .inl rfl
  | salvar tela | visualizar row | atualizar =>
    simp only [Garage.step] at h
    repeat' split at h
    all_goals cases h
    all_goals exact .inl rfl

/-- Every event has one of the effects. -/
theorem linhas_of_opera {s t : App} {e : Event} {w : Write Change}
    (h : s.opera env e = some (w, t)) : Linhas s e w t := by
  -- the writes of the other screens are about Requisicoes
  have hreq : e.entidade = .requisicao → ∀ d ∈ w.changes, ¬ Apaga d := by
    intro he d hd
    have hent := sobre_of_opera h d hd
    rw [he] at hent
    cases d with
    | deleteVaga | deleteCartao => cases hent
    | _ => exact id
  cases e with
  | garage e =>
    obtain ⟨⟨w', g⟩, hr, h⟩ := Option.map_eq_some_iff.mp h
    cases h
    cases Garage.escrita_of_step hr with
    | @excluir row k ok hk =>
      refine .apagaVaga ok hk ?_ rfl
      simp only [Garage.step, hk, Option.some.injEq, Prod.mk.injEq, true_and] at hr
      rw [← hr]
      split_ifs <;> rfl
    | nada hw _ hx =>
      exact .mantem (by simp [hw]) (by simpa using hx) (by simp) (recarrega_garage hx hr) (.inl rfl)
    | nova location ok hp hf =>
      exact .mantem (by simp [NovaVagaViewController.save, Apaga]) (by simp) (by simp)
        (recarrega_garage (by simp) hr) (.inl rfl)
    | atualizar ok hk =>
      exact .mantem (by simp [AtualizarFrequenciaViewController.save, Apaga]) (by simp) (by simp)
        (recarrega_garage (by simp) hr) (.inl rfl)
  | carteira e =>
    obtain ⟨⟨w', c⟩, hr, h⟩ := Option.map_eq_some_iff.mp h
    cases h
    cases Carteira.passo_of_step hr with
    | exclui ok hk =>
      refine .apagaCartao ok hk ?_ rfl
      dsimp only
      split_ifs <;> rfl
    | lista ordem =>
      exact .mantem (by simp [Write.none]) (by simp) (by simp) (.inl rfl) (.inr ⟨ordem, rfl⟩)
    | salva ok hf =>
      refine .mantem ?_ (by simp) (by simp) (.inl rfl) (.inl rfl)
      unfold PagamentoViewController.save
      split <;> simp [Apaga]
    | semLista | abre | novo | edita | recusa =>
      exact .mantem (by simp [Write.none]) (by simp) (by simp) (.inl rfl) (.inl rfl)
  | home e hoje | pedido e | confirmacao e | historico e | background ok =>
    obtain ⟨r, hr, heq⟩ := Option.map_eq_some_iff.mp h
    cases heq
    exact .mantem (hreq rfl) (by simp) (by simp) (.inl rfl) (.inl rfl)

/-- A list that is kept or fetched again is one of the table. -/
lemma Recarrega.lists {α : Type*} [DecidableEq α] {t : ObjectTable α} {antes depois : List ObjectID}
    (h : Recarrega t antes depois) (ha : t.Lists antes) : t.Lists depois := by
  obtain rfl | ⟨ordem, rfl⟩ := h
  · exact ha
  · exact t.lists_fetch ordem

/-- Changes that take nothing away leave the lists. -/
lemma lists_applyAll {ds : List Change} (hds : ∀ d ∈ ds, ¬ Apaga d) {st : Store}
    {vagas cartoes : List ObjectID} (hv : st.vagas.Lists vagas) (hc : st.cartoes.Lists cartoes) :
    (applyAll ds st).vagas.Lists vagas ∧ (applyAll ds st).cartoes.Lists cartoes := by
  induction ds generalizing st with
  | nil => exact ⟨hv, hc⟩
  | cons d ds ih =>
    have hd := hds d (by simp)
    rw [ManagedContext.applyAll_cons]
    apply ih fun d hd => hds d (List.mem_cons_of_mem _ hd)
    · cases d with
      | insertVaga v => exact hv.insert v
      | setFrequencia k f => exact hv.modify k fun v => { v with frequencia := some f }
      | deleteVaga k => exact absurd trivial hd
      | _ => exact hv
    · cases d with
      | insertCartao c => exact hc.insert c
      | setCartao k c => exact hc.modify k fun _ => c
      | deleteCartao k => exact absurd trivial hd
      | _ => exact hc

/-! ## The property and its condition -/

/-- The rows of the lists are stored objects, each in one row, and every row of the garage and of
the wallet opens. -/
structure ListasFieis (env : Ambiente) (s : App) : Prop where
  vagas : s.view.vagas.Lists s.garage.vagas
  cartoes : s.view.cartoes.Lists s.carteira.cartoes
  solicitacoes : s.view.requisicoes.Lists s.historico.solicitacoes
  abreVaga : ∀ row < s.garage.vagas.length, (s.step env (.garage (.visualizar row))).isSome
  abreCartao : ∀ row < s.carteira.cartoes.length, (s.step env (.carteira (.abrir row))).isSome

/-- The condition on an event: the save of a deletion succeeds. -/
def ExclusaoSalva : Event → Prop
  | .garage (.excluir _ ok) | .carteira (.excluir _ ok) => ok = true
  | _ => True

/-- The row of a stored Vaga opens. -/
lemma visualizar_isSome {s : App} (hs : s.Formada) (h : s.view.vagas.Lists s.garage.vagas) {row : ℕ}
    (hrow : row < s.garage.vagas.length) : (s.step env (.garage (.visualizar row))).isSome := by
  obtain ⟨v, hv⟩ := h.stored _ (List.getElem_mem hrow)
  obtain ⟨p, f, location, d, rfl⟩ := hs.view.vagas _ hv
  have hget := ObjectTable.get?_eq_some_iff.mpr hv
  have hk : s.garage.vagas[row]? = some s.garage.vagas[row] := List.getElem?_eq_getElem hrow
  simp [step, opera, Garage.step, hk, hget]

/-- The row of a stored Cartao opens. -/
lemma abrir_cartao_isSome {s : App} (hs : s.Formada) (h : s.view.cartoes.Lists s.carteira.cartoes)
    {row : ℕ} (hrow : row < s.carteira.cartoes.length) :
    (s.step env (.carteira (.abrir row))).isSome := by
  obtain ⟨c, hc⟩ := h.stored _ (List.getElem_mem hrow)
  obtain ⟨f, hf, rfl⟩ := hs.view.cartoes _ hc
  have hget := ObjectTable.get?_eq_some_iff.mpr hc
  have hk : s.carteira.cartoes[row]? = some s.carteira.cartoes[row] := List.getElem?_eq_getElem hrow
  simp [step, opera, Carteira.step, hk, hget,
    PagamentoViewController.viewDidLoad_cartaoDoFormulario]

/-- Over records of the forms, the lists are faithful where their rows are stored. -/
lemma listasFieis_iff {s : App} (hs : s.Formada) : ListasFieis env s ↔
    s.view.vagas.Lists s.garage.vagas ∧ s.view.cartoes.Lists s.carteira.cartoes ∧
      s.view.requisicoes.Lists s.historico.solicitacoes := by
  constructor
  · exact fun h => ⟨h.vagas, h.cartoes, h.solicitacoes⟩
  · exact fun ⟨hv, hc, hr⟩ =>
      ⟨hv, hc, hr, fun _ hrow => visualizar_isSome hs hv hrow,
        fun _ hrow => abrir_cartao_isSome hs hc hrow⟩

/-! ## One step -/

/-- No event takes a Requisicao away. -/
lemma solicitacoes_lists {s t : App} {e : Event} {w : Write Change}
    (hs : s.view.requisicoes.Lists s.historico.solicitacoes) (h : s.opera env e = some (w, t)) :
    (applyAll w.changes s.view).requisicoes.Lists t.historico.solicitacoes := by
  have hlista : Recarrega s.view.requisicoes s.historico.solicitacoes t.historico.solicitacoes := by
    obtain ⟨-, heq⟩ | ⟨-, -, ordem, heq⟩ := solicitacoes_of_opera h
    · exact .inl heq
    · exact .inr ⟨ordem, heq⟩
  have hfiel := hlista.lists hs
  have hw := (efeito_of_opera h).escrita
  revert hw
  generalize (applyAll w.changes s.view).requisicoes = r
  intro hw
  cases hw with
  | alheia hw => exact hfiel
  | insere => exact hfiel.insert _
  | decide k estado ok => exact hfiel.modify k _
  | preenche hq firstname ok => exact hfiel.modify _ _

/-- Next to the invariant of the forms, a step keeps the lists faithful exactly when it meets the
condition.

**Proof sketch.** A fetch lists the table, and an insertion or an update keeps what is listed. A
deletion takes the object of a row away; the list is one of the table afterwards exactly if the row
went too. -/
lemma listasFieis_step_iff {s s' : App} {e : Event} (hs : s.Formada) (hl : ListasFieis env s)
    (h : s.step env e = some s') : ListasFieis env s' ↔ ExclusaoSalva e := by
  have hs' := formada_step hs h
  rw [listasFieis_iff hs']
  obtain ⟨w, t, ht, rfl⟩ := step_eq_some_iff.mp h
  have hsol := solicitacoes_lists hl.solicitacoes ht
  rw [view_exec]
  cases linhas_of_opera ht with
  | mantem hw hx hy hv hc =>
    obtain ⟨hvagas, hcartoes⟩ := lists_applyAll hw (hv.lists hl.vagas) (hc.lists hl.cartoes)
    refine iff_of_true ⟨hvagas, hcartoes, hsol⟩ ?_
    cases e with
    | garage e =>
      cases e with
      | excluir row ok => exact absurd rfl (hx row ok)
      | _ => trivial
    | carteira e =>
      cases e with
      | excluir row ok => exact absurd rfl (hy row ok)
      | _ => trivial
    | _ => trivial
  | @apagaVaga row k _ ok hk hv hc =>
    have hcartoes : s.view.cartoes.Lists t.carteira.cartoes := hc ▸ hl.cartoes
    show (s.view.vagas.erase k).Lists t.garage.vagas ∧ s.view.cartoes.Lists t.carteira.cartoes ∧ _ ↔
      ok = true
    rw [hv]
    cases ok with
    | false =>
      refine iff_of_false (fun h => ?_) (by simp)
      exact (ObjectTable.lists_erase_iff hl.vagas).mp h.1 (List.mem_of_getElem? hk)
    | true => exact iff_of_true ⟨hl.vagas.eraseIdx hk, hcartoes, hsol⟩ rfl
  | @apagaCartao row k _ ok hk hc hv =>
    have hvagas : s.view.vagas.Lists t.garage.vagas := hv ▸ hl.vagas
    show s.view.vagas.Lists t.garage.vagas ∧ (s.view.cartoes.erase k).Lists t.carteira.cartoes ∧ _ ↔
      ok = true
    rw [hc]
    cases ok with
    | false =>
      refine iff_of_false (fun h => ?_) (by simp)
      exact (ObjectTable.lists_erase_iff hl.cartoes).mp h.2.1 (List.mem_of_getElem? hk)
    | true => exact iff_of_true ⟨hvagas, hl.cartoes.eraseIdx hk, hsol⟩ rfl

/-- **The lists are faithful exactly while every deletion is saved.** In a run from launch, with any
order of the events of all screens and any failing fetches and saves, the rows of the garage, the
wallet and the history are stored objects, each in one row, and every row of the first two opens, if
and only if the save of each deletion that is carried out succeeds.

**Proof sketch.** `App.Formada` is an invariant, and next to it `listasFieis_step_iff` decides each
step. -/
theorem listasFieis_iff_exclusaoSalva (env : Ambiente) (es : List Event) :
    Runs.Throughout (step env) (ListasFieis env) es inicial ↔
      Runs.Meets (step env) (fun _ e => ExclusaoSalva e) es inicial := by
  refine Runs.throughout_iff_meets (J := Formada) (fun _ _ _ hs h => formada_step hs h)
    (fun _ _ _ hs hl h => listasFieis_step_iff hs hl h) formada_inicial ?_
  rw [listasFieis_iff formada_inicial]
  exact ⟨ObjectTable.lists_nil _, ObjectTable.lists_nil _, ObjectTable.lists_nil _⟩

end App

end Parken
