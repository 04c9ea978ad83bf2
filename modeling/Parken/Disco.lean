import Parken.Aprovacoes

set_option relaxedAutoImplicit false
set_option autoImplicit false

/-!
# What is on disk

The program keeps nothing over a restart but what is on disk. This file has what a step does to the
application, restarts included, and asks that no more than what waits for Firebase is missing from
the disk.

## Main definitions

* `Parken.Conserva` — the filled Requisicoes of one table are in another.
* `Parken.EmVoo` — the queries in flight are about distinct Requisicoes without a date.
* `Parken.Aprovacoes.Anda` — what a step does to the application.
* `Parken.Aprovacoes.SemPerda` — a restart loses nothing but Requisicoes without attributes.

## Main results

* `Parken.App.Efeito.conserva` — no event changes a filled Requisicao in more than its `estado`.
* `Parken.Aprovacoes.throughout_app` — the rule for invariants of the application over restarts.
* `Parken.Aprovacoes.semPerda_throughout` — while the saves succeed a restart loses nothing but
  Requisicoes that no answer has filled.
-/

namespace Parken

open Edit

/-! ## Filled Requisicoes -/

/-- Every filled Requisicao of `t` is in `t'`, as it was but for its `estado`. -/
def Conserva (t t' : ObjectTable Requisicao) : Prop :=
  ∀ k r, (k, r) ∈ t.rows → r.Preenchida →
    ∃ estado : String, (k, { r with estado := some estado }) ∈ t'.rows

/-- A filled Requisicao has an `estado`. -/
lemma Requisicao.Preenchida.exists_estado {r : Requisicao} (h : r.Preenchida) :
    ∃ estado : String, { r with estado := some estado } = r := by
  obtain ⟨c, firstname, estado, -, rfl⟩ := h
  exact ⟨estado, rfl⟩

/-- A filled Requisicao has a date. -/
lemma Requisicao.Preenchida.data_ne {r : Requisicao} (h : r.Preenchida) : r.data ≠ none :=
  Option.isSome_iff_ne_none.mp h.isSome.1

namespace Conserva

variable {t : ObjectTable Requisicao}

lemma refl (t : ObjectTable Requisicao) : Conserva t t := by
  intro k r hr hf
  obtain ⟨estado, heq⟩ := hf.exists_estado
  exact ⟨estado, heq.symm ▸ hr⟩

lemma insert (t : ObjectTable Requisicao) (r : Requisicao) : Conserva t (t.insert r) := by
  intro k r' hr hf
  obtain ⟨estado, heq⟩ := hf.exists_estado
  exact ⟨estado, ObjectTable.mem_insert.mpr (.inl (heq.symm ▸ hr))⟩

lemma setEstado (t : ObjectTable Requisicao) (k : ObjectID) (estado : String) :
    Conserva t (t.modify k fun r => { r with estado := some estado }) := by
  intro j r hr hf
  by_cases hjk : j = k
  · subst hjk
    exact ⟨estado, ObjectTable.mem_modify_self hr _⟩
  · obtain ⟨e, heq⟩ := hf.exists_estado
    exact ⟨e, heq.symm ▸ ObjectTable.mem_modify_of_ne hr hjk _⟩

/-- An update of a Requisicao without a date touches no filled one. -/
lemma modify {k : ObjectID} (hk : ∀ r, (k, r) ∈ t.rows → r.data = none)
    (f : Requisicao → Requisicao) : Conserva t (t.modify k f) := by
  intro j r hr hf
  have hjk : j ≠ k := by
    rintro rfl
    exact hf.data_ne (hk r hr)
  obtain ⟨e, heq⟩ := hf.exists_estado
  exact ⟨e, heq.symm ▸ ObjectTable.mem_modify_of_ne hr hjk f⟩

end Conserva

/-! ## Queries in flight -/

/-- The queries in flight are about distinct Requisicoes, all inserted, and none has a date yet. -/
structure EmVoo (consultas : List Consulta) (t : ObjectTable Requisicao) : Prop where
  vazias : ∀ q ∈ consultas, ∀ r, (q.objUpdate, r) ∈ t.rows → r.data = none
  inseridas : ∀ q ∈ consultas, q.objUpdate < t.next
  distintas : (consultas.map Consulta.objUpdate).Nodup

namespace EmVoo

variable {consultas : List Consulta} {t : ObjectTable Requisicao}

lemma nil (t : ObjectTable Requisicao) : EmVoo [] t := ⟨by simp, by simp, by simp⟩

/-- A checkout is confirmed. -/
lemma insere (h : EmVoo consultas t) (c : Checkout) (userID : String) :
    EmVoo (consultas ++ [⟨t.next, c, userID⟩]) (t.insert .nova) where
  vazias q hq r hr := by
    rcases ObjectTable.mem_insert.mp hr with hr | hr
    · rcases List.mem_append.mp hq with hq | hq
      · exact h.vazias q hq r hr
      · -- the next identifier is not in use
        obtain rfl := List.mem_singleton.mp hq
        exact absurd (t.lt_next _ hr) (Nat.lt_irrefl _)
    · obtain ⟨-, rfl⟩ := Prod.mk.inj hr
      rfl
  inseridas q hq := by
    rcases List.mem_append.mp hq with hq | hq
    · exact Nat.lt_succ_of_lt (h.inseridas q hq)
    · obtain rfl := List.mem_singleton.mp hq
      exact Nat.lt_succ_self _
  distintas := by
    rw [List.map_append, List.nodup_append]
    refine ⟨h.distintas, by simp, fun a ha b hb heq => ?_⟩
    obtain ⟨q, hq, rfl⟩ := List.mem_map.mp ha
    have hb' : b = t.next := by simpa using hb
    have hlt := h.inseridas q hq
    exact hlt.ne (heq.trans hb')

/-- An answer is delivered. -/
lemma eraseIdx (h : EmVoo consultas t) (i : ℕ) : EmVoo (consultas.eraseIdx i) t where
  vazias q hq := h.vazias q (List.mem_of_mem_eraseIdx hq)
  inseridas q hq := h.inseridas q (List.mem_of_mem_eraseIdx hq)
  distintas := h.distintas.sublist ((List.eraseIdx_sublist consultas i).map _)

/-- The other queries in flight are about other Requisicoes. -/
lemma ne_of_mem_eraseIdx (h : EmVoo consultas t) {i : ℕ} {q p : Consulta}
    (hq : consultas[i]? = some q) (hp : p ∈ consultas.eraseIdx i) :
    p.objUpdate ≠ q.objUpdate := by
  obtain ⟨hi, rfl⟩ := List.getElem?_eq_some_iff.mp hq
  have hperm := (List.getElem_cons_eraseIdx_perm hi).map Consulta.objUpdate
  have hnodup := hperm.nodup_iff.mpr h.distintas
  rw [List.map_cons, List.nodup_cons] at hnodup
  intro heq
  exact hnodup.1 (heq ▸ List.mem_map_of_mem hp)

/-- A profile is delivered: its Requisicao is filled. -/
lemma preenche (h : EmVoo consultas t) {i : ℕ} {q : Consulta} (hq : consultas[i]? = some q)
    (f : Requisicao → Requisicao) : EmVoo (consultas.eraseIdx i) (t.modify q.objUpdate f) where
  vazias p hp r hr := by
    obtain ⟨⟨k, r₀⟩, hr₀, heq⟩ := ObjectTable.mem_modify.mp hr
    obtain ⟨rfl, rfl⟩ := Prod.mk.inj heq
    rw [if_neg (h.ne_of_mem_eraseIdx hq hp)]
    exact (h.eraseIdx i).vazias p hp r₀ hr₀
  inseridas := (h.eraseIdx i).inseridas
  distintas := (h.eraseIdx i).distintas

/-- The owner decides on a request. -/
lemma setEstado (h : EmVoo consultas t) (k : ObjectID) (estado : String) :
    EmVoo consultas (t.modify k fun r => { r with estado := some estado }) where
  vazias q hq r hr := by
    obtain ⟨⟨j, r₀⟩, hr₀, heq⟩ := ObjectTable.mem_modify.mp hr
    obtain ⟨rfl, rfl⟩ := Prod.mk.inj heq
    have hnone := h.vazias q hq r₀ hr₀
    split_ifs <;> exact hnone
  inseridas := h.inseridas
  distintas := h.distintas

end EmVoo

namespace App

variable {env : Ambiente}

/-- **What an event leaves.** No event changes a filled Requisicao in more than its `estado`, and
the queries in flight stay about distinct Requisicoes without a date. -/
theorem Efeito.conserva {s : App} {e : Event} {w : Write Change} {p : Pedido}
    (h : Efeito s e w p) (hv : EmVoo s.pedido.consultas s.view.requisicoes) :
    Conserva s.view.requisicoes (applyAll w.changes s.view).requisicoes ∧
      EmVoo p.consultas (applyAll w.changes s.view).requisicoes := by
  cases h with
  | alheio hne hw hc hent =>
    rw [requisicoes_applyAll hw, hc]
    exact ⟨.refl _, hv⟩
  | decide k estado ok hd _ => exact ⟨.setEstado _ k estado, hv.setEstado k estado⟩
  | pedido h =>
    cases h with
    | nada hf hc hent =>
      rw [hc]
      exact ⟨.refl _, hv⟩
    | confirma userID hc hp hent =>
      rw [hp]
      exact ⟨.insert _ _, hv.insere _ userID⟩
    | outro ok hq hc hent =>
      rw [hc]
      exact ⟨.refl _, hv.eraseIdx _⟩
    | @preenche i q p' firstname ok hq hc hent =>
      rw [hc]
      have hvazia := hv.vazias q (List.mem_of_getElem? hq)
      exact ⟨.modify hvazia fun _ => CheckoutVagaViewController.preencher q.checkout firstname,
        hv.preenche hq fun _ => CheckoutVagaViewController.preencher q.checkout firstname⟩

end App

/-! ## The steps with restarts -/

/-- The outcome of an event's save; `true` where the event does not save. -/
def App.Event.ok : App.Event → Bool
  | .garage (.geocode _ _ ok) | .garage (.excluir _ ok) | .garage (.confirmar ok) => ok
  | .carteira (.excluir _ ok) | .carteira (.salvar ok) => ok
  | .pedido (.firebase _ _ ok) => ok
  | .confirmacao (.aprovar ok) | .confirmacao (.rejeitar ok) => ok
  | .background ok => ok
  | _ => true

/-- The outcome of an event's save, with the approvals screens in their order. -/
def Aprovacoes.Event.ok : Aprovacoes.Event → Bool
  | .app e => e.ok
  | .aprovar ok | .rejeitar ok => ok
  | _ => true

namespace Aprovacoes

variable {env : Ambiente}

/-- What a step does to the application. -/
inductive Anda (env : Ambiente) (s : Aprovacoes) : Event → Aprovacoes → Prop where
  /-- Nothing but to the approvals screens. -/
  | parada {e : Event} {s' : Aprovacoes} (c : Confirmacao)
      (hc : c = s.app.confirmacao ∨ c = .inicial)
      (h : s'.app = { s.app with confirmacao := c }) : Anda env s e s'
  /-- An event of the application; the list of the approvals may be new. -/
  | passo {e : Event} {s' : Aprovacoes} (c : Confirmacao) (e' : App.Event)
      (hc : c = s.app.confirmacao ∨ c = .inicial)
      (he : e = .app e' ∨ ∃ e'', e' = .confirmacao e'') (hok : e.ok = true → e'.ok = true)
      (h : ({ s.app with confirmacao := c } : App).step env e' = some s'.app) : Anda env s e s'
  /-- The application starts again from what is on disk. -/
  | reinicia :
      Anda env s .reiniciar ⟨{ App.inicial with ctx := .opened s.app.persisted }, .fora, false⟩

/-- An event of the approvals screens that need not happen. -/
lemma anda_of_passa {s s' : Aprovacoes} {e : Event} {de para : Frente} {e' : Confirmacao.Event}
    (hok : e.ok = true → (App.Event.confirmacao e').ok = true)
    (h : s.passa env de para e' = some s') : Anda env s e s' := by
  unfold passa at h
  split_ifs at h
  · obtain ⟨app, hr, rfl⟩ := Option.map_eq_some_iff.mp h
    exact .passo s.app.confirmacao _ (.inl rfl) (.inr ⟨e', rfl⟩) hok hr
  · cases h
    exact .parada s.app.confirmacao (.inl rfl) rfl

/-- The list appears, if it does; it may be new. -/
lemma anda_of_aparece {s s' : Aprovacoes} {e : Event} {c : Confirmacao} {de : Frente}
    {fetch : Option (List (ObjectID × Requisicao))} {fetchVaga : Option (List (ObjectID × Vaga))}
    (hc : c = s.app.confirmacao ∨ c = .inicial)
    (h : ({ s with app := { s.app with confirmacao := c } } : Aprovacoes).aparece env de fetch
      fetchVaga = some s') : Anda env s e s' := by
  unfold aparece at h
  split_ifs at h
  · obtain ⟨app, hr, rfl⟩ := Option.map_eq_some_iff.mp h
    exact .passo c _ hc (.inr ⟨_, rfl⟩) (fun _ => rfl) hr
  · cases h
    exact .parada c hc rfl

/-- Every step is of one of these kinds. -/
theorem anda_of_step {s s' : Aprovacoes} {e : Event} (h : step env s e = some s') :
    Anda env s e s' := by
  cases e with
  | app e =>
    cases e with
    | confirmacao e' =>
      cases h
      exact .parada s.app.confirmacao (.inl rfl) rfl
    | _ =>
      obtain ⟨app, hr, rfl⟩ := Option.map_eq_some_iff.mp h
      exact .passo s.app.confirmacao _ (.inl rfl) (.inl rfl) id hr
  | abrir fetch fetchVaga =>
    simp only [step] at h
    split_ifs at h
    · exact anda_of_aparece (c := .inicial) (.inr rfl) h
    · cases h
      exact .parada s.app.confirmacao (.inl rfl) rfl
  | render row => exact anda_of_passa (fun _ => rfl) h
  | selecionar row => exact anda_of_passa (fun _ => rfl) h
  | aprovar ok => exact anda_of_passa id h
  | rejeitar ok => exact anda_of_passa id h
  | dispensar fetch fetchVaga => exact anda_of_aparece (c := s.app.confirmacao) (.inl rfl) h
  | voltar fetch fetchVaga =>
    simp only [step] at h
    split_ifs at h
    · cases h
      exact .parada s.app.confirmacao (.inl rfl) rfl
    · exact anda_of_aparece (c := s.app.confirmacao) (.inl rfl) h
  | reiniciar =>
    cases h
    exact .reinicia

/-- **The rule of the restarts.** A property of the application that its events keep, that does not
look at the approvals screens, and that a start from what is on disk keeps, holds throughout every
run with restarts. -/
theorem throughout_app {P : App → Prop} (hinicial : P App.inicial)
    (hconf : ∀ a c, P a → P { a with confirmacao := c })
    (hstep : ∀ a e a', P a → a.step env e = some a' → P a')
    (hreinicia : ∀ a, P a → P { App.inicial with ctx := .opened a.persisted })
    (es : List Event) : Runs.Throughout (step env) (fun s => P s.app) es inicial := by
  refine .of_step (fun s e s' hs h => ?_) hinicial
  cases anda_of_step h with
  | parada c hc h' =>
    rw [h']
    exact hconf s.app c hs
  | passo c e' hc _ _ h' => exact hstep _ e' _ (hconf s.app c hs) h'
  | reinicia => exact hreinicia s.app hs

end Aprovacoes

/-! ## What is not on disk -/

/-- An event whose save succeeds, if it saves, leaves nothing pending but a new Requisicao. -/
lemma App.saves_of_opera {env : Ambiente} {s t : App} {e : App.Event} {w : Write Change}
    (he : e.ok = true) (h : s.opera env e = some (w, t)) :
    w.Saves ∨ ∀ d ∈ w.changes, d = .insertRequisicao := by
  cases e with
  | garage e =>
    obtain ⟨⟨w', g⟩, hr, h⟩ := Option.map_eq_some_iff.mp h
    cases h
    cases Garage.escrita_of_step hr with
    | nada hw _ _ => exact .inr (by simp [hw])
    | nova location ok hp hf => exact .inl (congrArg some he)
    | excluir ok hk => exact .inl (congrArg some he)
    | atualizar ok hk => exact .inl (congrArg some he)
  | carteira e =>
    obtain ⟨⟨w', c⟩, hr, h⟩ := Option.map_eq_some_iff.mp h
    cases h
    cases Carteira.passo_of_step hr with
    | exclui ok hk => exact .inl (congrArg some he)
    | salva ok hf =>
      refine .inl ?_
      obtain rfl : ok = true := he
      unfold PagamentoViewController.save
      split <;> rfl
    | _ => exact .inr (by simp [Write.none])
  | home e hoje =>
    obtain ⟨r, hr, h⟩ := Option.map_eq_some_iff.mp h
    cases h
    exact .inr (by simp [Write.none])
  | pedido e =>
    obtain ⟨⟨w', p⟩, hr, h⟩ := Option.map_eq_some_iff.mp h
    cases h
    cases Pedido.escrita_of_step hr with
    | nada hf hc hent => exact .inr (by simp [Write.none])
    | confirma userID hc hp hent => exact .inr (by simp)
    | outro ok hq hc hent => exact .inr (by simp [Write.none])
    | preenche firstname ok hq hc hent => exact .inl (congrArg some he)
  | confirmacao e =>
    obtain ⟨⟨w', c⟩, hr, h⟩ := Option.map_eq_some_iff.mp h
    cases h
    cases Confirmacao.escrita_of_step hr with
    | nada hw => exact .inr (by simp [hw])
    | aprova ok hk => exact .inl (congrArg some he)
    | rejeita ok hk => exact .inl (congrArg some he)
  | historico e =>
    obtain ⟨r, hr, h⟩ := Option.map_eq_some_iff.mp h
    cases h
    exact .inr (by simp [Write.none])
  | background ok =>
    obtain ⟨r, hr, h⟩ := Option.map_eq_some_iff.mp h
    cases h
    unfold saveContext at hr
    split_ifs at hr <;> cases hr
    · exact .inr (by simp [Write.none])
    · exact .inl rfl

/-- New Requisicoes leave the Vagas, the Cartoes and the other Requisicoes. -/
lemma applyAll_insertRequisicao {ds : List Change} (hds : ∀ d ∈ ds, d = .insertRequisicao)
    (s : Store) :
    (applyAll ds s).vagas = s.vagas ∧ (applyAll ds s).cartoes = s.cartoes ∧
      ∀ p ∈ (applyAll ds s).requisicoes.rows, p ∈ s.requisicoes.rows ∨ p.2 = .nova := by
  induction ds generalizing s with
  | nil => exact ⟨rfl, rfl, fun p hp => .inl hp⟩
  | cons d ds ih =>
    obtain rfl := hds d (by simp)
    obtain ⟨hvagas, hcartoes, hreq⟩ :=
      ih (fun d hd => hds d (List.mem_cons_of_mem _ hd)) (Change.insertRequisicao.apply s)
    rw [ManagedContext.applyAll_cons]
    refine ⟨hvagas, hcartoes, fun p hp => ?_⟩
    rcases hreq p hp with hp | hp
    · rcases ObjectTable.mem_insert.mp hp with hp | rfl
      · exact .inl hp
      · exact .inr rfl
    · exact .inr hp

namespace Aprovacoes

variable {env : Ambiente}

/-- A restart shows the same Vagas and the same Cartoes, and every Requisicao that has been filled
or decided on. -/
def SemPerda (env : Ambiente) (s : Aprovacoes) : Prop :=
  ∀ s' ∈ step env s .reiniciar, s'.app.view.vagas = s.app.view.vagas ∧
    s'.app.view.cartoes = s.app.view.cartoes ∧
    ∀ p ∈ s.app.view.requisicoes.rows, p ∈ s'.app.view.requisicoes.rows ∨ p.2 = .nova

/-- Nothing is pending but new Requisicoes. -/
def SoNovas (s : Aprovacoes) : Prop := ∀ d ∈ s.app.ctx.pending, d = .insertRequisicao

/-- Then a restart loses nothing else. -/
lemma SoNovas.semPerda {s : Aprovacoes} (hs : s.SoNovas) : SemPerda env s := by
  rintro s' ⟨⟩
  obtain ⟨hvagas, hcartoes, hreq⟩ := applyAll_insertRequisicao hs s.app.persisted
  exact ⟨hvagas.symm, hcartoes.symm, hreq⟩

/-- A step whose save succeeds leaves nothing else pending. -/
lemma soNovas_step {s s' : Aprovacoes} {e : Event} (hs : s.SoNovas) (he : e.ok = true)
    (h : step env s e = some s') : s'.SoNovas := by
  cases anda_of_step h with
  | parada c hc h' =>
    unfold SoNovas
    rw [h']
    exact hs
  | passo c e' hc _ hok h' =>
    obtain ⟨w, t, ht, heq⟩ := App.step_eq_some_iff.mp h'
    unfold SoNovas
    rw [heq]
    have hw := App.saves_of_opera (hok he) ht
    exact ManagedContext.forall_pending_exec hs hw
  | reinicia => exact fun d hd => absurd hd List.not_mem_nil

/-- **A restart loses only what waits for Firebase.** In a run from launch in which every save
succeeds, whenever the application is ended and started again it shows the same Vagas and Cartoes,
and every Requisicao but those no answer has filled yet.

**Proof sketch.** Every event that changes anything saves, except the confirmation of a checkout,
which inserts a Requisicao without attributes; so nothing else is ever pending. -/
theorem semPerda_throughout (env : Ambiente) (es : List Event) (hes : ∀ e ∈ es, e.ok = true) :
    Runs.Throughout (step env) (SemPerda env) es inicial := by
  have hinv : Runs.Throughout (step env) SoNovas es inicial :=
    .of_meets (C := fun _ e => e.ok = true) (fun _ _ _ hs he h => soNovas_step hs he h)
      (by simp [SoNovas, inicial, App.inicial, ManagedContext.opened]) (Runs.meets_of_forall hes)
  exact hinv.imp fun _ hs => hs.semPerda

/-- The request of the run is approved, and the application started again. -/
theorem semPerda_aprovada :
    Runs.Throughout (step Home.ambiente) (SemPerda Home.ambiente)
      (pedida ++ aberta ++ [.aprovar true, .dispensar (some []) none, .reiniciar]) inicial :=
  semPerda_throughout _ _ (by decide)

end Aprovacoes

end Parken
