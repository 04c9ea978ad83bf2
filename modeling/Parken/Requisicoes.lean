import Parken.App
import Parken.Lib.Runs

set_option relaxedAutoImplicit false
set_option autoImplicit false

/-!
# The Requisicoes of the store

A confirmed checkout inserts its Requisicao at once and fills it when Firebase answers. In
between it sits in the shared context without attributes, and the next save of any screen
writes it as it is.

## Main definitions

* `Parken.App.Efeito` — what an event does to the Requisicoes, the queries in flight and the
  answers delivered.
* `Parken.Requisicao.Preenchida` — a checkout has set all attributes.
* `Parken.App.Completas` — the persisted Requisicoes and those of the history are filled, and
  no row of the history traps.
* `Parken.App.SalvaCompletas` — the condition on the saves and the fetches of the history.

## Main results

* `Parken.App.efeito_of_opera` — every event has one of the effects.
* `Parken.App.completas_iff_salvaCompletas` — the Requisicoes are filled exactly in the runs
  whose successful saves and history fetches find no Requisicao still to be filled.
-/

namespace Parken

open Edit

namespace App

variable {env : Ambiente}

/-- The owner decides on a request. -/
def Event.decisao : Event → Bool
  | .confirmacao (.aprovar _) | .confirmacao (.rejeitar _) => true
  | _ => false

/-- What an event does to the Requisicoes, the queries in flight and the answers delivered. -/
inductive Efeito (s : App) : Event → Write Change → Pedido → Prop where
  /-- Nothing: the write, if any, is about other entities. -/
  | alheio {e : Event} {w : Write Change} {p : Pedido}
      (hne : ∀ e', e ≠ .pedido e') (hw : ∀ d ∈ w.changes, d.entidade ≠ .requisicao)
      (hc : p.consultas = s.pedido.consultas) (he : p.entregas = s.pedido.entregas) :
      Efeito s e w p
  /-- The owner decides on a request. -/
  | decide {e : Event} (k : ObjectID) (estado : String) (ok : Bool) (he : e.decisao = true)
      (hestado : estado ≠ "Pendente") :
      Efeito s e ⟨[.setEstado k estado], some ok⟩ s.pedido
  /-- The request screens write. -/
  | pedido {e : Pedido.Event} {w : Write Change} {p : Pedido}
      (h : s.pedido.Escrita s.view e w p) : Efeito s (.pedido e) w p

/-- Every event has one of the effects. -/
theorem efeito_of_opera {s t : App} {e : Event} {w : Write Change}
    (h : s.opera env e = some (w, t)) : Efeito s e w t.pedido := by
  cases e with
  | garage e =>
    have hne : ∀ d ∈ w.changes, d.entidade ≠ .requisicao :=
      entidade_ne_of_opera h (by simp [Event.entidade])
    obtain ⟨r, hr, h⟩ := Option.map_eq_some_iff.mp h
    cases h
    exact .alheio (by simp) hne rfl rfl
  | carteira e =>
    have hne : ∀ d ∈ w.changes, d.entidade ≠ .requisicao :=
      entidade_ne_of_opera h (by simp [Event.entidade])
    obtain ⟨r, hr, h⟩ := Option.map_eq_some_iff.mp h
    cases h
    exact .alheio (by simp) hne rfl rfl
  | home e hoje =>
    obtain ⟨r, hr, h⟩ := Option.map_eq_some_iff.mp h
    cases h
    have hsegue := s.segue_eq hoje e
    refine .alheio (by simp) (by simp [Write.none]) ?_ ?_
    · show (s.segue hoje e).consultas = s.pedido.consultas
      obtain h | ⟨vaga, escolhida, h⟩ := hsegue
      · rw [h]
      · rw [h]
        rfl
    · show (s.segue hoje e).entregas = s.pedido.entregas
      obtain h | ⟨vaga, escolhida, h⟩ := hsegue
      · rw [h]
      · rw [h]
        rfl
  | pedido e =>
    obtain ⟨r, hr, h⟩ := Option.map_eq_some_iff.mp h
    cases h
    exact .pedido (Pedido.escrita_of_step hr)
  | confirmacao e =>
    obtain ⟨⟨w', c⟩, hr, h⟩ := Option.map_eq_some_iff.mp h
    cases h
    cases Confirmacao.escrita_of_step hr with
    | nada h => exact .alheio (by simp) (by simp [h]) rfl rfl
    | aprova ok hk => exact .decide _ _ _ rfl (by decide)
    | rejeita ok hk => exact .decide _ _ _ rfl (by decide)
  | historico e =>
    obtain ⟨r, hr, h⟩ := Option.map_eq_some_iff.mp h
    cases h
    exact .alheio (by simp) (by simp [Write.none]) rfl rfl
  | background ok =>
    obtain ⟨r, hr, h⟩ := Option.map_eq_some_iff.mp h
    cases h
    unfold saveContext at hr
    split_ifs at hr
    all_goals
      cases hr
      exact .alheio (by simp) (by simp [Write.none, Write.flush]) rfl rfl

/-! ## Filled Requisicoes -/

end App

/-- A checkout has set all attributes of the Requisicao; the owner may have decided on it
since. -/
def Requisicao.Preenchida (r : Requisicao) : Prop :=
  ∃ c firstname estado, Pedido.Completo c ∧
    r = { CheckoutVagaViewController.preencher c firstname with estado := some estado }

/-- All attributes of a filled Requisicao are set. -/
lemma Requisicao.Preenchida.isSome {r : Requisicao} (h : r.Preenchida) :
    r.data.isSome ∧ r.estado.isSome ∧ r.id.isSome ∧ r.placa.isSome ∧ r.qtdHoras.isSome ∧
      r.solicitante.isSome ∧ r.valorTotal.isSome ∧ r.veiculo.isSome := by
  obtain ⟨c, firstname, estado, hc, rfl⟩ := h
  exact ⟨hc.dataHora, rfl, hc.id, hc.placa, hc.qtdHoras, rfl, rfl, rfl⟩

/-- A decision on a filled Requisicao leaves it filled. -/
lemma Requisicao.Preenchida.setEstado {r : Requisicao} (h : r.Preenchida) (estado : String) :
    Requisicao.Preenchida { r with estado := some estado } := by
  obtain ⟨c, firstname, _, hc, rfl⟩ := h
  exact ⟨c, firstname, estado, hc, rfl⟩

/-- What the answer of Firebase sets fills the Requisicao. -/
lemma Requisicao.preenchida_preencher {c : Checkout} (hc : Pedido.Completo c)
    (firstname : Option String) :
    (CheckoutVagaViewController.preencher c firstname).Preenchida :=
  ⟨c, firstname, "Pendente", hc, rfl⟩

namespace App

variable {env : Ambiente}

/-- What holds of the Requisicoes in every run: the request screens are regular, a Requisicao
that is not filled has no date, and the history lists Requisicoes that were inserted. -/
structure Regular (s : App) : Prop where
  pedido : s.pedido.Regular
  linhas : ∀ p ∈ s.view.requisicoes.rows, p.2.Preenchida ∨ p.2.data = none
  listadas : ∀ k ∈ s.historico.solicitacoes, k < s.view.requisicoes.next

/-- A write and the Requisicoes the screens read after it. -/
inductive Escrita (s : App) : Write Change → ObjectTable Requisicao → Prop where
  /-- A write about other entities. -/
  | alheia {w : Write Change} (hw : ∀ d ∈ w.changes, d.entidade ≠ .requisicao) :
      Escrita s w s.view.requisicoes
  /-- A Requisicao is inserted, without a save. -/
  | insere : Escrita s ⟨[.insertRequisicao], none⟩ (s.view.requisicoes.insert .nova)
  /-- The owner decides on a request. -/
  | decide (k : ObjectID) (estado : String) (ok : Bool) :
      Escrita s ⟨[.setEstado k estado], some ok⟩
        (s.view.requisicoes.modify k fun r => { r with estado := some estado })
  /-- A Requisicao is filled. -/
  | preenche {q : Consulta} (hq : q ∈ s.pedido.consultas) (firstname : Option String)
      (ok : Bool) :
      Escrita s
        ⟨[.setRequisicao q.objUpdate (CheckoutVagaViewController.preencher q.checkout firstname)],
          some ok⟩
        (s.view.requisicoes.modify q.objUpdate fun _ =>
          CheckoutVagaViewController.preencher q.checkout firstname)

/-- The Requisicoes after an event. -/
lemma Efeito.escrita {s : App} {e : Event} {w : Write Change} {p : Pedido}
    (h : Efeito s e w p) : Escrita s w (applyAll w.changes s.view).requisicoes := by
  cases h with
  | alheio hne hw hc he =>
    rw [requisicoes_applyAll hw]
    exact .alheia hw
  | decide k estado ok he _ => exact .decide k estado ok
  | pedido h =>
    cases h with
    | nada hf hc he => exact .alheia (by simp [Write.none])
    | confirma userID hc hp he => exact .insere
    | outro ok hq hc he => exact .alheia (by simp [Write.none])
    | preenche firstname ok hq hc he => exact .preenche (List.mem_of_getElem? hq) firstname ok

/-- Every Requisicao after a write is filled or has no date, if every one before was. -/
lemma Escrita.linhas {s : App} {w : Write Change} {t : ObjectTable Requisicao}
    (h : Escrita s w t) (hs : s.Regular) : ∀ p ∈ t.rows, p.2.Preenchida ∨ p.2.data = none := by
  cases h with
  | alheia hw => exact hs.linhas
  | insere =>
    intro p hp
    rcases ObjectTable.mem_insert.mp hp with hp | rfl
    · exact hs.linhas p hp
    · exact .inr rfl
  | decide k estado ok =>
    intro p hp
    obtain ⟨q, hq, rfl⟩ := ObjectTable.mem_modify.mp hp
    dsimp only
    split_ifs
    · exact (hs.linhas q hq).imp_left fun h => h.setEstado estado
    · exact hs.linhas q hq
  | preenche hq firstname ok =>
    intro p hp
    obtain ⟨r, hr, rfl⟩ := ObjectTable.mem_modify.mp hp
    dsimp only
    split_ifs
    · exact .inl (Requisicao.preenchida_preencher (hs.pedido.consultas _ hq) firstname)
    · exact hs.linhas r hr

/-- Filled Requisicoes stay filled. -/
lemma Escrita.preenchida {s : App} {w : Write Change} {t : ObjectTable Requisicao}
    (h : Escrita s w t) (hs : s.Regular) {k : ObjectID} (hk : k < s.view.requisicoes.next)
    (hf : ∀ r, (k, r) ∈ s.view.requisicoes.rows → r.Preenchida) {r : Requisicao}
    (hr : (k, r) ∈ t.rows) : r.Preenchida := by
  cases h with
  | alheia hw => exact hf r hr
  | insere =>
    rcases ObjectTable.mem_insert.mp hr with hr | hr
    · exact hf r hr
    · obtain ⟨rfl, -⟩ := Prod.mk.inj hr
      exact absurd hk (Nat.lt_irrefl _)
  | decide k' estado ok =>
    obtain ⟨⟨k₀, r₀⟩, hr₀, h⟩ := ObjectTable.mem_modify.mp hr
    obtain ⟨rfl, rfl⟩ := Prod.mk.inj h
    dsimp only
    split_ifs
    · exact (hf r₀ hr₀).setEstado estado
    · exact hf r₀ hr₀
  | preenche hq firstname ok =>
    obtain ⟨⟨k₀, r₀⟩, hr₀, h⟩ := ObjectTable.mem_modify.mp hr
    obtain ⟨rfl, rfl⟩ := Prod.mk.inj h
    dsimp only
    split_ifs
    · exact Requisicao.preenchida_preencher (hs.pedido.consultas _ hq) firstname
    · exact hf r₀ hr₀

/-- The identifiers handed out only grow. -/
lemma Escrita.next_le {s : App} {w : Write Change} {t : ObjectTable Requisicao}
    (h : Escrita s w t) : s.view.requisicoes.next ≤ t.next := by
  cases h with
  | insere => exact Nat.le_succ _
  | _ => exact Nat.le_refl _

/-- Every Requisicao in the context is filled, or the write fills it. -/
def SemPendentes (s : App) (w : Write Change) : Prop :=
  ∀ p ∈ s.view.requisicoes.rows, p.2.Preenchida ∨ ∃ r, Change.setRequisicao p.1 r ∈ w.changes

/-- What a save writes is filled exactly when nothing else waits to be filled. -/
lemma Escrita.todas_iff {s : App} {w : Write Change} {t : ObjectTable Requisicao}
    (h : Escrita s w t) (hs : s.Regular) (hw : w.Saves) :
    (∀ p ∈ t.rows, p.2.Preenchida) ↔ s.SemPendentes w := by
  cases h with
  | alheia hent =>
    refine forall₂_congr fun p _ => (or_iff_left ?_).symm
    rintro ⟨r, hr⟩
    exact hent _ hr rfl
  | insere => cases hw
  | decide k estado ok =>
    have hsem : s.SemPendentes ⟨[.setEstado k estado], some ok⟩ ↔
        ∀ p ∈ s.view.requisicoes.rows, p.2.Preenchida := by simp [SemPendentes]
    rw [hsem]
    constructor
    · intro h p hp
      rcases hs.linhas p hp with hf | hd
      · exact hf
      · have := (h _ (ObjectTable.mem_modify.mpr ⟨p, hp, rfl⟩)).isSome.1
        dsimp only at this
        split_ifs at this <;> simp [hd] at this
    · intro h p hp
      obtain ⟨q, hq, rfl⟩ := ObjectTable.mem_modify.mp hp
      dsimp only
      split_ifs
      · exact (h q hq).setEstado estado
      · exact h q hq
  | preenche hq firstname ok =>
    have hcheio := Requisicao.preenchida_preencher (hs.pedido.consultas _ hq) firstname
    constructor
    · intro h p hp
      have hp' := h _ (ObjectTable.mem_modify.mpr ⟨p, hp, rfl⟩)
      dsimp only at hp'
      split_ifs at hp' with heq
      · exact .inr ⟨_, by rw [heq]; exact List.mem_singleton.mpr rfl⟩
      · exact .inl hp'
    · intro h p hp
      obtain ⟨r, hr, rfl⟩ := ObjectTable.mem_modify.mp hp
      dsimp only
      split_ifs with heq
      · exact hcheio
      · rcases h r hr with hf | ⟨r', hr'⟩
        · exact hf
        · exact absurd (by simpa using hr') fun h : r.1 = _ ∧ _ => heq h.1

/-! ## The property and its condition -/

/-- The persisted Requisicoes and those the history lists are filled, and no row of the history
traps when it is opened. -/
structure Completas (env : Ambiente) (s : App) : Prop where
  persistidas : ∀ p ∈ s.persisted.requisicoes.rows, p.2.Preenchida
  listadas : ∀ k ∈ s.historico.solicitacoes, ∀ r, (k, r) ∈ s.view.requisicoes.rows → r.Preenchida
  abrir : ∀ row, (s.step env (.historico (.abrir row))).isSome

/-- The history runs its fetch. -/
def Event.Busca : Event → Prop
  | .historico (.viewWillAppear (some _)) => True
  | _ => False

/-- The condition on a step: if its save succeeds, or it is a fetch of the history, then every
Requisicao in the context is filled, or filled by the step. -/
def SalvaCompletas (env : Ambiente) (s : App) (e : Event) : Prop :=
  ∀ w t, s.opera env e = some (w, t) → w.Saves ∨ e.Busca → s.SemPendentes w

/-- A row of filled Requisicoes opens. -/
lemma abrir_isSome {s : App}
    (h : ∀ k ∈ s.historico.solicitacoes, ∀ r, (k, r) ∈ s.view.requisicoes.rows → r.Preenchida)
    (row : ℕ) : (s.step env (.historico (.abrir row))).isSome := by
  have hstep : (s.historico.step s.view (.abrir row)).isSome := by
    cases hk : s.historico.solicitacoes[row]? with
    | none => simp [Historico.step, hk]
    | some k =>
      cases hr : s.view.requisicoes.get? k with
      | none => simp [Historico.step, hk, hr]
      | some r =>
        have hr' := h k (List.mem_of_getElem? hk) r (ObjectTable.get?_eq_some_iff.mp hr)
        simpa [Historico.step, hk, hr, HistoricoViewController.viewDidLoad] using hr'.isSome.1
  simpa [step, opera] using hstep

/-! ## One step -/

/-- Every event keeps the request screens regular. -/
lemma pedido_regular_of_opera {s t : App} {e : Event} {w : Write Change}
    (hs : s.pedido.Regular) (h : s.opera env e = some (w, t)) : t.pedido.Regular := by
  obtain ⟨e', rfl, hr⟩ | ⟨-, h | ⟨vaga, escolhida, hoje, h⟩⟩ := pedido_of_opera h
  · exact hs.step hr
  · rw [h]
    exact hs
  · rw [h]
    exact hs.abrir vaga escolhida hoje

/-- The history lists the same requests, or has just fetched all of them, in some order. -/
lemma solicitacoes_of_opera {s t : App} {e : Event} {w : Write Change}
    (h : s.opera env e = some (w, t)) :
    (¬ e.Busca ∧ t.historico.solicitacoes = s.historico.solicitacoes) ∨
      (e.Busca ∧ w = .none ∧ ∃ ordem, t.historico.solicitacoes =
        (s.view.requisicoes.fetch ordem).rows.map Prod.fst) := by
  cases e with
  | historico e =>
    obtain ⟨r, hr, h⟩ := Option.map_eq_some_iff.mp h
    cases h
    cases e with
    | viewWillAppear fetch =>
      cases fetch with
      | none => cases hr; exact .inl ⟨id, rfl⟩
      | some ordem => cases hr; exact .inr ⟨trivial, rfl, ordem, rfl⟩
    | abrir row =>
      refine .inl ⟨id, ?_⟩
      simp only [Historico.step] at hr
      repeat' split at hr
      · cases hr; rfl
      · cases hr; rfl
      · obtain ⟨_, _, rfl⟩ := Option.map_eq_some_iff.mp hr
        rfl
  | _ =>
    obtain ⟨r, hr, h⟩ := Option.map_eq_some_iff.mp h
    cases h
    exact .inl ⟨id, rfl⟩

/-- The identifiers of a fetch are those of the table. -/
lemma mem_map_fetch {t : ObjectTable Requisicao} {ordem : List (ObjectID × Requisicao)}
    {k : ObjectID} : k ∈ (t.fetch ordem).rows.map Prod.fst ↔ ∃ r, (k, r) ∈ t.rows := by
  simp [ObjectTable.mem_fetch]

/-- Every step keeps what holds of the Requisicoes in every run. -/
lemma Regular.step {s s' : App} {e : Event} (hs : s.Regular) (h : s.step env e = some s') :
    s'.Regular := by
  obtain ⟨w, t, ht, rfl⟩ := step_eq_some_iff.mp h
  have hw := (efeito_of_opera ht).escrita
  have hpedido : t.pedido.Regular := pedido_regular_of_opera hs.pedido ht
  refine ⟨hpedido, ?_, ?_⟩
  · rw [view_exec]
    exact hw.linhas hs
  · rw [view_exec]
    intro k hk
    refine Nat.lt_of_lt_of_le ?_ hw.next_le
    obtain ⟨-, heq⟩ | ⟨-, -, ordem, heq⟩ := solicitacoes_of_opera ht
    · exact hs.listadas k (heq ▸ hk)
    · obtain ⟨r, hr⟩ := mem_map_fetch.mp (heq ▸ hk)
      exact s.view.requisicoes.lt_next _ hr

lemma regular_inicial : Regular inicial :=
  ⟨Pedido.regular_inicial, by simp [inicial, view, Store.empty], by simp [inicial,
    Historico.inicial]⟩

/-- Next to the invariant, a step keeps the Requisicoes filled exactly when it meets the
condition.

**Proof sketch.** A save writes all that is in the context, and a fetch of the history lists
it. Filled Requisicoes stay filled, so any other step keeps the property. -/
lemma completas_step_iff {s s' : App} {e : Event} (hs : s.Regular) (hc : Completas env s)
    (h : s.step env e = some s') : Completas env s' ↔ SalvaCompletas env s e := by
  obtain ⟨w, t, ht, rfl⟩ := step_eq_some_iff.mp h
  have hw := (efeito_of_opera ht).escrita
  have hcond : SalvaCompletas env s e ↔ (w.Saves ∨ e.Busca → s.SemPendentes w) := by
    simp [SalvaCompletas, ht]
  rw [hcond]
  obtain ⟨hbusca, hlista⟩ | ⟨hbusca, rfl, ordem, hlista⟩ := solicitacoes_of_opera ht
  · have hlistadas : ∀ k ∈ t.historico.solicitacoes, ∀ r,
        (k, r) ∈ (applyAll w.changes s.view).requisicoes.rows → r.Preenchida := by
      intro k hk r hr
      rw [hlista] at hk
      exact hw.preenchida hs (hs.listadas k hk) (hc.listadas k hk) hr
    by_cases hsaves : w.Saves
    · have htodas := hw.todas_iff hs hsaves
      simp only [hsaves, true_or, forall_const]
      rw [← htodas]
      constructor
      · intro hc'
        simpa [persisted_exec, hsaves] using hc'.persistidas
      · intro hall
        refine ⟨by simpa [persisted_exec, hsaves] using hall, ?_, fun row => abrir_isSome ?_ row⟩
        · rw [view_exec]; exact hlistadas
        · rw [view_exec]; exact hlistadas
    · refine iff_of_true ⟨?_, ?_, fun row => abrir_isSome ?_ row⟩ (by simp [hsaves, hbusca])
      · simpa [persisted_exec, hsaves] using hc.persistidas
      · rw [view_exec]; exact hlistadas
      · rw [view_exec]; exact hlistadas
  · have hsem : s.SemPendentes .none ↔ ∀ p ∈ s.view.requisicoes.rows, p.2.Preenchida := by
      simp [SemPendentes, Write.none]
    simp only [hbusca, or_true, forall_const]
    rw [hsem]
    constructor
    · intro hc' p hp
      refine hc'.listadas p.1 ?_ p.2 ?_
      · exact hlista ▸ mem_map_fetch.mpr ⟨p.2, hp⟩
      · rw [view_exec]; exact hp
    · intro hall
      have hlistadas : ∀ k ∈ t.historico.solicitacoes, ∀ r,
          (k, r) ∈ s.view.requisicoes.rows → r.Preenchida := fun k _ r hr => hall (k, r) hr
      refine ⟨?_, ?_, fun row => abrir_isSome ?_ row⟩
      · simpa [persisted_exec, Write.none, Write.Saves] using hc.persistidas
      · rw [view_exec]; exact hlistadas
      · rw [view_exec]; exact hlistadas

/-- **The Requisicoes are filled exactly while no save and no fetch finds one that is not.**
In a run from launch every persisted Requisicao and every Requisicao the history lists has all
its attributes set by a checkout, and every row of the history opens, if and only if at each
successful save and at each fetch of the history every Requisicao in the context is filled, or
filled by the step.

**Proof sketch.** `Regular` is an invariant, and next to it `completas_step_iff` decides each
step. -/
theorem completas_iff_salvaCompletas (env : Ambiente) (es : List Event) :
    Runs.Throughout (step env) (Completas env) es inicial ↔
      Runs.Meets (step env) (SalvaCompletas env) es inicial := by
  refine Runs.throughout_iff_meets (J := Regular) (fun _ _ _ hs h => hs.step h)
    (fun _ _ _ hs hc h => completas_step_iff hs hc h) regular_inicial ⟨?_, ?_, ?_⟩
  · simp [inicial, persisted, Store.empty]
  · simp [inicial, Historico.inicial]
  · exact fun row => abrir_isSome (by simp [inicial, Historico.inicial]) row

/-- The application enters the background before Firebase answers: the Requisicao is persisted
without a date. -/
theorem not_completas_background :
    ¬ ∀ (env : Ambiente) (es : List Event),
      Runs.Throughout (step env) (Completas env) es inicial := by
  intro h
  have hdata := (h Home.ambiente
      (oferta ++ cadastro ++ escolha ++ solicitacao ++ [.background true])).imp
    (Q := fun s => ∀ p ∈ s.persisted.requisicoes.rows, p.2.data.isSome)
    fun _ hc p hp => (hc.persistidas p hp).isSome.1
  exact absurd hdata (by decide +kernel)

end App

end Parken
