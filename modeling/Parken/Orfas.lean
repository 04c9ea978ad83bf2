import Parken.Contas

set_option relaxedAutoImplicit false
set_option autoImplicit false

/-!
# Requisicoes no answer reaches

The query that will fill a Requisicao lives in the running program alone. If a save writes the
Requisicao before the answer comes and the application is ended, the next start finds it as it was
inserted, and nothing asks for it again.

## Main definitions

* `Parken.App.Orfa` — a Requisicao on disk is as it was inserted, and no query is about it.

## Main results

* `Parken.App.Orfa.step` — no event changes that.
* `Parken.Aprovacoes.orfa_throughout` — what a start finds as it was inserted stays so for ever, and
  its row in the history traps whenever it is opened.
-/

namespace Parken

open Edit

namespace App

variable {env : Ambiente}

/-- Requisicao `k` is on disk and in the context as it was inserted, and no query in flight is about
it. -/
structure Orfa (s : App) (k : ObjectID) : Prop where
  disco : (k, Requisicao.nova) ∈ s.persisted.requisicoes.rows
  contexto : (k, Requisicao.nova) ∈ s.view.requisicoes.rows
  semConsulta : ∀ q ∈ s.pedido.consultas, q.objUpdate ≠ k

/-- **No event changes that.**

**Proof sketch.** An answer is about the Requisicao of its query, a decision about a filled one, and
a checkout confirmed gets an object of its own. -/
theorem Orfa.step {s s' : App} {e : Event} {k : ObjectID} (hs : s.Pronta) (hk : s.Orfa k)
    (h : s.step env e = some s') : s'.Orfa k := by
  obtain ⟨w, t, ht, rfl⟩ := step_eq_some_iff.mp h
  have hdepois : (k, Requisicao.nova) ∈ (applyAll w.changes s.view).requisicoes.rows ∧
      ∀ q ∈ t.pedido.consultas, q.objUpdate ≠ k := by
    have hef := efeito_of_opera ht
    generalize t.pedido = p at hef ⊢
    cases hef with
    | alheio hne hw hc hent =>
      rw [requisicoes_applyAll hw, hc]
      exact ⟨hk.contexto, hk.semConsulta⟩
    | decide j estado ok hd _ =>
      obtain ⟨⟨r, hr, hcheia⟩, -⟩ := hs.cheia_of_setEstado ht (List.mem_singleton.mpr rfl)
      have hne : k ≠ j := Contada.ne_of_cheia hk.contexto hr hcheia
      exact ⟨ObjectTable.mem_modify_of_ne hk.contexto hne _, hk.semConsulta⟩
    | pedido hp =>
      cases hp with
      | nada hf hc hent =>
        rw [hc]
        exact ⟨hk.contexto, hk.semConsulta⟩
      | confirma userID hc hcons hent =>
        rw [hcons]
        refine ⟨ObjectTable.mem_insert.mpr (.inl hk.contexto), fun q hq => ?_⟩
        rcases List.mem_append.mp hq with hq | hq
        · exact hk.semConsulta q hq
        · obtain rfl := List.mem_singleton.mp hq
          have hlt := s.view.requisicoes.lt_next _ hk.contexto
          exact hlt.ne'
      | outro ok hq hc hent =>
        rw [hc]
        exact ⟨hk.contexto, fun q hq => hk.semConsulta q (List.mem_of_mem_eraseIdx hq)⟩
      | preenche firstname ok hq hc hent =>
        rw [hc]
        have hne := (hk.semConsulta _ (List.mem_of_getElem? hq)).symm
        exact ⟨ObjectTable.mem_modify_of_ne hk.contexto hne _,
          fun q hq => hk.semConsulta q (List.mem_of_mem_eraseIdx hq)⟩
  refine ⟨?_, ?_, hdepois.2⟩
  · rw [persisted_exec]
    split_ifs
    · exact hdepois.1
    · exact hk.disco
  · rw [view_exec]
    exact hdepois.1

end App

namespace Aprovacoes

variable {env : Ambiente}

/-- A restart leaves it as it is. -/
lemma orfa_step {s s' : Aprovacoes} {e : Event} {k : ObjectID} (hs : s.app.Pronta)
    (hk : s.app.Orfa k) (h : step env s e = some s') : s'.app.Orfa k := by
  cases anda_of_step h with
  | parada c hc h' =>
    rw [h']
    exact ⟨hk.disco, hk.contexto, hk.semConsulta⟩
  | passo c e' hc _ _ h' =>
    have hkc : App.Orfa { s.app with confirmacao := c } k :=
      ⟨hk.disco, hk.contexto, hk.semConsulta⟩
    exact hkc.step (pronta_novaLista hs hc) h'
  | reinicia => exact ⟨hk.disco, hk.disco, fun _ hq => absurd hq List.not_mem_nil⟩

/-- Its row in the history traps. -/
lemma abrir_eq_none {s : Aprovacoes} {k : ObjectID} (hs : s.app.Pronta) (hk : s.app.Orfa k)
    {row : ℕ} (hrow : s.app.historico.solicitacoes[row]? = some k) :
    step env s (.app (.historico (.abrir row))) = none := by
  have hnone : s.app.step env (.historico (.abrir row)) = none := by
    rw [← Option.not_isSome_iff_eq_none, App.abrir_isSome_iff hs hrow hk.contexto]
    exact fun hne => hne rfl
  simp [step, hnone]

/-- **What a start finds empty stays empty.** In every run from launch, with any number of restarts,
if the application is started again and finds a Requisicao as it was inserted, then in every run
that follows, with further restarts, it stays so on disk and in the context, and every tap on its
row of the history traps.

**Proof sketch.** After the start no query is in flight, so the Requisicao is an orphan
(`App.Orfa`); no step changes that. -/
theorem orfa_throughout (env : Ambiente) (es : List Event) :
    Runs.Throughout (step env) (fun s => ∀ s' ∈ step env s .reiniciar, ∀ k,
      (k, Requisicao.nova) ∈ s'.app.view.requisicoes.rows →
        ∀ es', Runs.Throughout (step env) (fun t =>
          (k, Requisicao.nova) ∈ t.app.view.requisicoes.rows ∧
            (k, Requisicao.nova) ∈ t.app.persisted.requisicoes.rows ∧
            ∀ row, t.app.historico.solicitacoes[row]? = some k →
              step env t (.app (.historico (.abrir row))) = none) es' s') es inicial := by
  have hpronta : Runs.Throughout (step env) (fun s => s.app.Pronta) es inicial :=
    .of_step (fun _ _ _ hs h => pronta_step hs h) pronta_inicial
  refine hpronta.imp fun s hs s' hs' k hk es' => ?_
  have hp' := pronta_step hs hs'
  obtain rfl := Option.some.inj hs'
  have horfa : App.Orfa { App.inicial with ctx := .opened s.app.persisted } k :=
    ⟨hk, hk, fun _ hq => absurd hq List.not_mem_nil⟩
  have hinv : Runs.Throughout (step env) (fun t => t.app.Pronta ∧ t.app.Orfa k) es'
      ⟨{ App.inicial with ctx := .opened s.app.persisted }, .fora, false⟩ :=
    .of_step (fun _ _ _ ht h => ⟨pronta_step ht.1 h, orfa_step ht.1 ht.2 h⟩) ⟨hp', horfa⟩
  exact hinv.imp fun t ht =>
    ⟨ht.2.contexto, ht.2.disco, fun _ hrow => abrir_eq_none ht.1 ht.2 hrow⟩

/-- The request of the run is saved in the background, and the application ended before Firebase
answers. -/
example : ∃ s, Runs.run (step Home.ambiente)
    ((App.oferta ++ App.cadastro ++ App.escolha ++ App.solicitacao ++
      [App.Event.background true]).map .app ++ [.reiniciar]) inicial = some s ∧
    (0, Requisicao.nova) ∈ s.app.view.requisicoes.rows :=
  ⟨_, rfl, by decide⟩

end Aprovacoes

end Parken
