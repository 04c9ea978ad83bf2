import Parken.Falhas

set_option relaxedAutoImplicit false
set_option autoImplicit false

/-!
# The order of the answers

Firebase answers the queries in flight in any order, and between two answers the other screens may
do anything. Each answer fills the Requisicao of its own query, so neither the order nor what comes
in between shows in the Requisicoes afterwards.

## Main definitions

* `Parken.Pedido.respostas` — the answers delivered, each with its query.
* `Parken.App.Event.SemPedido` — an event that neither confirms a checkout nor decides.
* `Parken.App.Responde` — what a list of answers makes of the queries and of the Requisicoes.

## Main results

* `Parken.App.Responde.step` — an event delivers one more answer, or none.
* `Parken.App.ordem_throughout` — two runs that deliver the same answers leave the same Requisicoes.
-/

namespace Parken

open Edit

/-- What an answer makes of the Requisicao it is about. -/
def Snapshot.preenche (checkout : Checkout) : Snapshot → Requisicao → Requisicao
  | .outro => id
  | .dicionario firstname => fun _ => CheckoutVagaViewController.preencher checkout firstname

/-- The update of an answer to a query. -/
def Consulta.muda (d : Consulta × Snapshot) : ObjectID × (Requisicao → Requisicao) :=
  (d.1.objUpdate, d.2.preenche d.1.checkout)

/-- The answers delivered, each with its query. -/
def Pedido.respostas (p : Pedido) : List (Consulta × Snapshot) :=
  p.entregas.map fun d => (d.consulta, d.snapshot)

namespace App

variable {env : Ambiente}

/-- An event that neither confirms a checkout nor decides on a request. -/
def Event.SemPedido (e : Event) : Prop :=
  e.decisao = false ∧ ∀ userID, e ≠ .pedido (.confirmar userID)

/-- The answers `ds` lead from `s` to the screens `p` and the Requisicoes `t`: they are about
distinct queries in flight, which they remove, and their updates are the changes to the Requisicoes.
-/
structure Responde (s : App) (ds : List (Consulta × Snapshot)) (p : Pedido)
    (t : ObjectTable Requisicao) : Prop where
  respostas : p.respostas = s.pedido.respostas ++ ds
  consultas : p.consultas = s.pedido.consultas.filter fun q => decide (q ∉ ds.map Prod.fst)
  perguntadas : ∀ d ∈ ds, d.1 ∈ s.pedido.consultas
  distintas : ((ds.map Consulta.muda).map Prod.fst).Nodup
  muda : t = s.view.requisicoes.modifyAll (ds.map Consulta.muda)

namespace Responde

variable {s : App} {ds : List (Consulta × Snapshot)} {p p' : Pedido} {t : ObjectTable Requisicao}

/-- No answer, no change. -/
lemma nenhuma (s : App) : Responde s [] s.pedido s.view.requisicoes where
  respostas := by simp
  consultas := by simp
  perguntadas := by simp
  distintas := by simp
  muda := rfl

/-- Nothing is delivered, and no query removed. -/
lemma mesma (h : Responde s ds p t) (hent : p'.entregas = p.entregas)
    (hc : p'.consultas = p.consultas) : Responde s ds p' t :=
  { h with
    respostas := (congrArg (List.map _) hent).trans h.respostas
    consultas := hc.trans h.consultas }

/-- The answer to the `i`-th query in flight is delivered. -/
lemma entrega (hs : (s.pedido.consultas.map Consulta.objUpdate).Nodup) (h : Responde s ds p t)
    {i : ℕ} {q : Consulta} {snapshot : Snapshot} {ok : Bool} (hq : p.consultas[i]? = some q)
    (hent : p'.entregas = p.entregas ++ [⟨q, snapshot, ok⟩])
    (hc : p'.consultas = p.consultas.eraseIdx i) :
    Responde s (ds ++ [(q, snapshot)]) p'
      (t.modify q.objUpdate (snapshot.preenche q.checkout)) := by
  have hmem : q ∈ s.pedido.consultas ∧ q ∉ ds.map Prod.fst := by
    simpa [h.consultas] using List.mem_of_getElem? hq
  have hnodup : p.consultas.Nodup := by
    rw [h.consultas]
    exact (List.Nodup.of_map _ hs).filter _
  refine ⟨?_, ?_, ?_, ?_, ?_⟩
  · rw [Pedido.respostas, hent, List.map_append, ← List.append_assoc, ← h.respostas]
    rfl
  · obtain ⟨hi, hqi⟩ := List.getElem?_eq_some_iff.mp hq
    rw [hc, ← hnodup.erase_getElem i hi, hnodup.erase_eq_filter, hqi, h.consultas,
      List.filter_filter]
    refine List.filter_congr fun r _ => ?_
    have hiff : r ∈ (ds ++ [(q, snapshot)]).map Prod.fst ↔ r ∈ ds.map Prod.fst ∨ r = q := by
      rw [List.map_append, List.mem_append, List.map_singleton, List.mem_singleton]
    rw [Bool.eq_iff_iff]
    simp only [bne_iff_ne, Bool.and_eq_true, decide_eq_true_eq, hiff]
    tauto
  · intro d hd
    rcases List.mem_append.mp hd with hd | hd
    · exact h.perguntadas d hd
    · obtain rfl := List.mem_singleton.mp hd
      exact hmem.1
  · rw [List.map_append, List.map_append, List.nodup_append]
    refine ⟨h.distintas, by simp, fun a ha b hb heq => ?_⟩
    -- two queries in flight about one object are one query
    obtain ⟨u, hu, rfl⟩ := List.mem_map.mp ha
    obtain ⟨d, hd, rfl⟩ := List.mem_map.mp hu
    have hb' : b = q.objUpdate := by simpa [Consulta.muda] using hb
    have hdq : d.1 = q :=
      List.inj_on_of_nodup_map hs (h.perguntadas d hd) hmem.1 (heq.trans hb')
    exact hmem.2 (hdq ▸ List.mem_map_of_mem hd)
  · rw [h.muda, List.map_append, ObjectTable.modifyAll_append]
    rfl

/-- **An event delivers one more answer, or none.** -/
theorem step {a a' : App} {e : Event} (hs : (s.pedido.consultas.map Consulta.objUpdate).Nodup)
    (h : Responde s ds a.pedido a.view.requisicoes) (he : e.SemPedido)
    (hstep : a.step env e = some a') :
    ∃ ds', Responde s ds' a'.pedido a'.view.requisicoes := by
  obtain ⟨w, u, hu, rfl⟩ := step_eq_some_iff.mp hstep
  rw [view_exec]
  have hef := efeito_of_opera hu
  show ∃ ds', Responde s ds' u.pedido _
  generalize u.pedido = p at hef ⊢
  cases hef with
  | alheio hne hw hc hent =>
    rw [requisicoes_applyAll hw]
    exact ⟨ds, h.mesma hent hc⟩
  | decide k estado ok hd _ => exact absurd (hd.symm.trans he.1) (by simp)
  | pedido hp =>
    cases hp with
    | nada hf hc hent => exact ⟨ds, h.mesma hent hc⟩
    | confirma userID hc hcons hent => exact absurd rfl (he.2 (some userID))
    | @outro i q p ok hq hc hent =>
      have hmuda := h.entrega hs hq hent hc
      have hmesma : a.view.requisicoes.modify q.objUpdate id = a.view.requisicoes :=
        ObjectTable.modify_eq_self fun _ _ => rfl
      exact ⟨_, hmesma ▸ hmuda⟩
    | preenche firstname ok hq hc hent => exact ⟨_, h.entrega hs hq hent hc⟩

/-- The same answers, in some other order, leave the same Requisicoes and the same queries. -/
lemma eq_of_perm {ds' : List (Consulta × Snapshot)} {t' : ObjectTable Requisicao}
    (h : Responde s ds p t) (h' : Responde s ds' p' t') (hperm : p.respostas.Perm p'.respostas) :
    t = t' ∧ p.consultas = p'.consultas := by
  have hds : ds.Perm ds' := by
    rw [h.respostas, h'.respostas] at hperm
    exact (List.perm_append_left_iff _).mp hperm
  constructor
  · rw [h.muda, h'.muda]
    exact ObjectTable.modifyAll_perm _ (hds.map _) h.distintas
  · rw [h.consultas, h'.consultas]
    refine List.filter_congr fun q _ => decide_eq_decide.mpr ?_
    rw [(hds.map Prod.fst).mem_iff]

end Responde

/-- A save in the background that does not throw writes what the context shows. -/
lemma persisted_background {s s' : App} (h : s.step env (.background true) = some s') :
    s'.persisted.requisicoes = s.view.requisicoes := by
  obtain ⟨w, t, ht, rfl⟩ := step_eq_some_iff.mp h
  obtain ⟨w', hw', h⟩ := Option.map_eq_some_iff.mp ht
  cases h
  rw [persisted_exec]
  unfold saveContext at hw'
  split_ifs at hw' with hvazio
  · cases hw'
    have hpend : s.ctx.pending = [] := List.isEmpty_iff.mp hvazio
    simp [Write.none, Write.Saves, App.view, App.persisted, ManagedContext.view, hpend]
  · cases hw'
    rfl

/-- **The order of the answers does not matter.** From any state of a run from launch, take two runs
in which no checkout is confirmed and no request decided on, but the other screens do whatever they
do. If they deliver the same answers to the same queries, in whatever orders, then the context shows
the same Requisicoes after both and the same queries are in flight; and once a save in the
background succeeds, the disk has the same Requisicoes too.

**Proof sketch.** Each answer updates the Requisicao of its query, no two queries are about one
(`EmVoo`), and updates of distinct objects have the same outcome in every order
(`ObjectTable.modifyAll_perm`). -/
theorem ordem_throughout (env : Ambiente) (es : List Event) :
    Runs.Throughout (step env) (fun s => ∀ es₁ es₂ s₁ s₂, (∀ e ∈ es₁ ++ es₂, e.SemPedido) →
      Runs.run (step env) es₁ s = some s₁ → Runs.run (step env) es₂ s = some s₂ →
      s₁.pedido.respostas.Perm s₂.pedido.respostas →
        s₁.view.requisicoes = s₂.view.requisicoes ∧
        s₁.pedido.consultas = s₂.pedido.consultas ∧
        ∀ t₁ ∈ s₁.step env (.background true), ∀ t₂ ∈ s₂.step env (.background true),
          t₁.persisted.requisicoes = t₂.persisted.requisicoes) es inicial := by
  have hpronta : Runs.Throughout (step env) Pronta es inicial :=
    .of_step (fun _ _ _ hs h => pronta_step hs h) Aprovacoes.pronta_inicial
  refine hpronta.imp fun s hs es₁ es₂ s₁ s₂ hes h₁ h₂ hperm => ?_
  have hresponde : ∀ es s', (∀ e ∈ es, e.SemPedido) → Runs.run (step env) es s = some s' →
      ∃ ds, Responde s ds s'.pedido s'.view.requisicoes := by
    intro es s' hes hrun
    refine Runs.run_of_meets (P := fun a => ∃ ds, Responde s ds a.pedido a.view.requisicoes)
      (C := fun _ e => Event.SemPedido e) (fun a e a' ha he hstep => ?_) ⟨[], .nenhuma s⟩
      (Runs.meets_of_forall hes) hrun
    obtain ⟨ds, hds⟩ := ha
    exact hds.step hs.emVoo.distintas he hstep
  obtain ⟨ds₁, hds₁⟩ := hresponde es₁ s₁ (fun e he => hes e (List.mem_append_left _ he)) h₁
  obtain ⟨ds₂, hds₂⟩ := hresponde es₂ s₂ (fun e he => hes e (List.mem_append_right _ he)) h₂
  obtain ⟨hview, hconsultas⟩ := hds₁.eq_of_perm hds₂ hperm
  refine ⟨hview, hconsultas, fun t₁ ht₁ t₂ ht₂ => ?_⟩
  rw [persisted_background ht₁, persisted_background ht₂, hview]

end App

end Parken
