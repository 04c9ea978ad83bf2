import Mathlib.Data.List.Perm.Basic
import Parken.Requisicoes

set_option relaxedAutoImplicit false
set_option autoImplicit false

/-!
# Confirmed checkouts in the store

The success alert of a checkout precedes everything that stores its Requisicao: Firebase may
answer without a dictionary, and the save after its answer may throw. Runs without decisions of
the owner are considered, so that a stored Requisicao keeps the `estado` of its checkout.

## Main definitions

* `Parken.Entrega.Traz` — a Requisicao carries the values of a delivered checkout.
* `Parken.App.Guardadas` — the delivered checkouts are stored, each exactly once.
* `Parken.App.EntregaGuarda` — the condition on a delivery.

## Main results

* `Parken.App.guardadas_iff_entregaGuarda` — the delivered checkouts are stored exactly in the
  runs where Firebase answers each with a dictionary and the save after it succeeds.
-/

namespace Parken

open Edit

/-- The object a delivered answer fills. -/
def Entrega.objeto (d : Entrega) : ObjectID := d.consulta.objUpdate

/-- The Requisicao carries the values of the checkout, waiting for the owner. -/
structure Entrega.Traz (d : Entrega) (r : Requisicao) : Prop where
  data : r.data = d.consulta.checkout.dataHora
  placa : r.placa = d.consulta.checkout.placa
  veiculo : r.veiculo = (CheckoutVagaViewController.preencher d.consulta.checkout none).veiculo
  qtdHoras : r.qtdHoras = d.consulta.checkout.qtdHoras
  id : r.id = d.consulta.checkout.id
  valorTotal : r.valorTotal = some d.consulta.checkout.valorVaga
  estado : r.estado = some "Pendente"

/-- What the answer sets carries the values of the checkout. -/
lemma Entrega.traz_preencher (d : Entrega) (firstname : Option String) :
    d.Traz (CheckoutVagaViewController.preencher d.consulta.checkout firstname) :=
  ⟨rfl, rfl, rfl, rfl, rfl, rfl, rfl⟩

namespace App

variable {env : Ambiente}

/-- The delivered checkouts `ds` are stored in `t`: each has one Requisicao of its own that
carries its values, and no other Requisicao has an `estado`. -/
structure Guardadas (ds : List Entrega) (t : ObjectTable Requisicao) : Prop where
  umaVez : ∀ d ∈ ds, ∃! p : ObjectID × Requisicao, p ∈ t.rows ∧ p.1 = d.objeto ∧ d.Traz p.2
  distintas : (ds.map Entrega.objeto).Nodup
  semOutras : ∀ p ∈ t.rows, p.2.estado ≠ none → p.1 ∈ ds.map Entrega.objeto

/-- The answer an event delivers: the query, the snapshot and the outcome of the save. -/
def Event.resposta : Event → Option (ℕ × Snapshot × Bool)
  | .pedido (.firebase k snapshot ok) => some (k, snapshot, ok)
  | _ => none

/-- The condition on a delivery: Firebase answers with a dictionary, and the save succeeds. -/
def EntregaGuarda (s : App) (e : Event) : Prop :=
  ∀ r ∈ e.resposta, r.1 < s.pedido.consultas.length → r.2.1 ≠ .outro ∧ r.2.2 = true

instance (s : App) (e : Event) : Decidable (EntregaGuarda s e) :=
  inferInstanceAs (Decidable (∀ r ∈ e.resposta, _))

/-- An event without an answer meets the condition. -/
lemma entregaGuarda_of_none {s : App} {e : Event} (h : e.resposta = none) : EntregaGuarda s e := by
  simp [EntregaGuarda, h]

/-! ## What holds in every run -/

/-- The objects of the queries in flight and of the answers delivered. -/
def objetos (cs : List Consulta) (ds : List Entrega) : List ObjectID :=
  cs.map Consulta.objUpdate ++ ds.map Entrega.objeto

/-- What a run can have put into object `k`: no `estado`, or the values of a delivered
checkout. -/
def Valor (ds : List Entrega) (k : ObjectID) (r : Requisicao) : Prop :=
  r.estado = none ∨ ∃ d ∈ ds, ∃ firstname, d.snapshot = .dicionario firstname ∧
    d.objeto = k ∧ r = CheckoutVagaViewController.preencher d.consulta.checkout firstname

/-- The queries in flight and the answers delivered are about distinct objects, all of them
inserted, and those in flight are in the context. -/
structure Distintos (cs : List Consulta) (ds : List Entrega) (view : ObjectTable Requisicao) :
    Prop where
  nodup : (objetos cs ds).Nodup
  inseridos : ∀ k ∈ objetos cs ds, k < view.next
  presentes : ∀ q ∈ cs, ∃ r, (q.objUpdate, r) ∈ view.rows

/-- What holds of the queries in flight, the answers delivered and the two versions of the
Requisicoes in every run without decisions. -/
structure Escrituracao (cs : List Consulta) (ds : List Entrega) (view persisted :
    ObjectTable Requisicao) : Prop extends Distintos cs ds view where
  visiveis : ∀ p ∈ view.rows, Valor ds p.1 p.2
  gravadas : ∀ p ∈ persisted.rows, Valor ds p.1 p.2 ∧ p.1 < view.next
  entregues : ∀ d ∈ ds, ∀ firstname, d.snapshot = .dicionario firstname →
    (d.objeto, CheckoutVagaViewController.preencher d.consulta.checkout firstname) ∈ view.rows

variable {cs : List Consulta} {ds : List Entrega} {v g : ObjectTable Requisicao}

lemma Valor.append {k : ObjectID} {r : Requisicao} (h : Valor ds k r) (d : Entrega) :
    Valor (ds ++ [d]) k r :=
  h.imp_right fun ⟨d', hd', h⟩ => ⟨d', List.mem_append_left _ hd', h⟩

/-- A delivery moves an object from the queries to the answers. -/
lemma objetos_entrega_perm {k : ℕ} {q : Consulta} (hq : cs[k]? = some q) (snapshot : Snapshot)
    (ok : Bool) :
    (objetos (cs.eraseIdx k) (ds ++ [⟨q, snapshot, ok⟩])).Perm (objetos cs ds) := by
  obtain ⟨hk, rfl⟩ := List.getElem?_eq_some_iff.mp hq
  have hperm := (List.getElem_cons_eraseIdx_perm hk).map Consulta.objUpdate
  refine List.Perm.trans ?_ (hperm.append_right _)
  rw [objetos, List.map_append, ← List.append_assoc]
  exact List.perm_append_comm

/-- A confirmed checkout takes the next object. -/
lemma Distintos.insere (h : Distintos cs ds v) (c : Checkout) (userID : String) :
    Distintos (cs ++ [⟨v.next, c, userID⟩]) ds (v.insert .nova) := by
  have hperm : (objetos (cs ++ [⟨v.next, c, userID⟩]) ds).Perm (v.next :: objetos cs ds) := by
    simp only [objetos, List.map_append, List.map_cons, List.map_nil, List.append_assoc]
    exact List.perm_middle
  refine ⟨?_, ?_, ?_⟩
  · rw [hperm.nodup_iff, List.nodup_cons]
    exact ⟨fun hm => absurd (h.inseridos _ hm) (Nat.lt_irrefl _), h.nodup⟩
  · intro k hk
    rcases List.mem_cons.mp (hperm.mem_iff.mp hk) with rfl | hk
    · exact Nat.lt_succ_self _
    · exact Nat.lt_succ_of_lt (h.inseridos k hk)
  · intro q hq
    rcases List.mem_append.mp hq with hq | hq
    · obtain ⟨r, hr⟩ := h.presentes q hq
      exact ⟨r, ObjectTable.mem_insert.mpr (.inl hr)⟩
    · obtain rfl := List.mem_singleton.mp hq
      exact ⟨.nova, ObjectTable.mem_insert.mpr (.inr rfl)⟩

/-- A delivery keeps the objects distinct. -/
lemma Distintos.entrega (h : Distintos cs ds v) {k : ℕ} {q : Consulta} (hq : cs[k]? = some q)
    (snapshot : Snapshot) (ok : Bool) :
    Distintos (cs.eraseIdx k) (ds ++ [⟨q, snapshot, ok⟩]) v := by
  have hperm : (objetos (cs.eraseIdx k) (ds ++ [⟨q, snapshot, ok⟩])).Perm (objetos cs ds) :=
    objetos_entrega_perm hq snapshot ok
  exact ⟨hperm.nodup_iff.mpr h.nodup, fun k hk => h.inseridos k (hperm.mem_iff.mp hk),
    fun q hq => h.presentes q (List.mem_of_mem_eraseIdx hq)⟩

/-- An update of a Requisicao keeps the objects distinct. -/
lemma Distintos.modify (h : Distintos cs ds v) (k : ObjectID) (f : Requisicao → Requisicao) :
    Distintos cs ds (v.modify k f) :=
  ⟨h.nodup, h.inseridos, fun q hq => (h.presentes q hq).imp' _ fun _ hr =>
    ObjectTable.mem_modify.mpr ⟨_, hr, rfl⟩⟩

/-- A save keeps it: the persisted store becomes the visible one. -/
lemma Escrituracao.grava (h : Escrituracao cs ds v g) : Escrituracao cs ds v v :=
  { h with gravadas := fun p hp => ⟨h.visiveis p hp, v.lt_next p hp⟩ }

/-- A confirmed checkout keeps it. -/
lemma Escrituracao.insere (h : Escrituracao cs ds v g) (c : Checkout) (userID : String) :
    Escrituracao (cs ++ [⟨v.next, c, userID⟩]) ds (v.insert .nova) g where
  toDistintos := h.toDistintos.insere c userID
  visiveis p hp := by
    rcases ObjectTable.mem_insert.mp hp with hp | rfl
    · exact h.visiveis p hp
    · exact .inl rfl
  gravadas p hp := ⟨(h.gravadas p hp).1, Nat.lt_succ_of_lt (h.gravadas p hp).2⟩
  entregues d hd f hf := ObjectTable.mem_insert.mpr (.inl (h.entregues d hd f hf))

/-- An answer without a dictionary keeps it. -/
lemma Escrituracao.outro (h : Escrituracao cs ds v g) {k : ℕ} {q : Consulta} (hq : cs[k]? = some q)
    (ok : Bool) : Escrituracao (cs.eraseIdx k) (ds ++ [⟨q, .outro, ok⟩]) v g where
  toDistintos := h.toDistintos.entrega hq .outro ok
  visiveis p hp := (h.visiveis p hp).append _
  gravadas p hp := ⟨(h.gravadas p hp).1.append _, (h.gravadas p hp).2⟩
  entregues d hd f hf := by
    rcases List.mem_append.mp hd with hd | hd
    · exact h.entregues d hd f hf
    · obtain rfl := List.mem_singleton.mp hd
      cases hf

/-- An object in flight is not one of a delivered answer. -/
lemma Distintos.ne_objeto (h : Distintos cs ds v) {q : Consulta} (hq : q ∈ cs) {d : Entrega}
    (hd : d ∈ ds) : d.objeto ≠ q.objUpdate := by
  have hdisj := (List.nodup_append.mp h.nodup).2.2
  exact (hdisj _ (List.mem_map_of_mem hq) _ (List.mem_map_of_mem hd)).symm

/-- A profile delivered keeps it. -/
lemma Escrituracao.preenche (h : Escrituracao cs ds v g) {k : ℕ} {q : Consulta}
    (hq : cs[k]? = some q) (firstname : Option String) (ok : Bool) :
    Escrituracao (cs.eraseIdx k) (ds ++ [⟨q, .dicionario firstname, ok⟩])
      (v.modify q.objUpdate fun _ => CheckoutVagaViewController.preencher q.checkout firstname)
      g where
  toDistintos := (h.toDistintos.entrega hq _ ok).modify _ _
  visiveis p hp := by
    obtain ⟨p₀, hp₀, rfl⟩ := ObjectTable.mem_modify.mp hp
    dsimp only
    split_ifs with heq
    · exact .inr ⟨⟨q, .dicionario firstname, ok⟩, by simp, firstname, rfl, heq.symm, rfl⟩
    · exact (h.visiveis p₀ hp₀).append _
  gravadas p hp := ⟨(h.gravadas p hp).1.append _, (h.gravadas p hp).2⟩
  entregues d hd f hf := by
    rcases List.mem_append.mp hd with hd | hd
    · have hne := h.ne_objeto (List.mem_of_getElem? hq) hd
      exact ObjectTable.mem_modify.mpr ⟨_, h.entregues d hd f hf, by simp [hne]⟩
    · obtain rfl := List.mem_singleton.mp hd
      obtain rfl : firstname = f := by simpa using hf
      obtain ⟨r, hr⟩ := h.presentes q (List.mem_of_getElem? hq)
      exact ObjectTable.mem_modify.mpr ⟨_, hr, by simp [Entrega.objeto]⟩

/-! ## One delivery -/

/-- A stored Requisicao with the values of a delivered checkout is the only one of its
object. -/
lemma existsUnique_of_mem {t : ObjectTable Requisicao} {d : Entrega} {r : Requisicao}
    (hr : (d.objeto, r) ∈ t.rows) (h : d.Traz r) :
    ∃! p : ObjectID × Requisicao, p ∈ t.rows ∧ p.1 = d.objeto ∧ d.Traz p.2 := by
  refine ⟨(d.objeto, r), ⟨hr, rfl, h⟩, ?_⟩
  rintro ⟨k, r'⟩ ⟨hr', rfl, -⟩
  rw [ObjectTable.eq_of_mem hr hr']

/-- A delivered checkout with a stored Requisicao was answered with a dictionary. -/
lemma Escrituracao.dicionario_of_traz (h : Escrituracao cs ds v g) {d : Entrega} (hd : d ∈ ds)
    {r : Requisicao} (hr : (d.objeto, r) ∈ g.rows) (ht : d.Traz r) :
    ∃ firstname, d.snapshot = .dicionario firstname := by
  rcases (h.gravadas _ hr).1 with hn | ⟨d', hd', f, hf, hobj, -⟩
  · exact absurd (hn.symm.trans ht.estado) (by simp)
  · have hnodup : (ds.map Entrega.objeto).Nodup := (List.nodup_append.mp h.nodup).2.1
    obtain rfl := List.inj_on_of_nodup_map hnodup hd' hd hobj
    exact ⟨f, hf⟩

/-- The Requisicao of a query in flight is not stored with values. -/
lemma Escrituracao.not_traz (h : Escrituracao cs ds v g) {q : Consulta} (hq : q ∈ cs) {d : Entrega}
    (hd : d.consulta = q) {r : Requisicao} (hr : (d.objeto, r) ∈ g.rows) : ¬ d.Traz r := by
  intro ht
  rcases (h.gravadas _ hr).1 with hn | ⟨d', hd', -, -, hobj, -⟩
  · exact absurd (hn.symm.trans ht.estado) (by simp)
  · exact h.ne_objeto hq hd' (by rw [hobj, Entrega.objeto, hd])

/-- The delivered checkouts are stored if each has its one Requisicao. -/
lemma Escrituracao.guardadas (h : Escrituracao cs ds v g)
    (hu : ∀ d ∈ ds, ∃! p : ObjectID × Requisicao, p ∈ g.rows ∧ p.1 = d.objeto ∧ d.Traz p.2) :
    Guardadas ds g where
  umaVez := hu
  distintas := (List.nodup_append.mp h.nodup).2.1
  semOutras p hp he := by
    rcases (h.gravadas p hp).1 with hn | ⟨d, hd, -, -, hobj, -⟩
    · exact absurd hn he
    · exact hobj ▸ List.mem_map_of_mem hd

/-- If every answer delivered was a dictionary, a save stores the delivered checkouts. -/
lemma Escrituracao.guardadas_of_dicionario (h : Escrituracao cs ds v g)
    (hd : ∀ d ∈ ds, ∃ firstname, d.snapshot = .dicionario firstname) : Guardadas ds v := by
  refine h.grava.guardadas fun d hmem => ?_
  obtain ⟨f, hf⟩ := hd d hmem
  exact existsUnique_of_mem (h.entregues d hmem f hf) (d.traz_preencher f)

/-- The answers of stored checkouts were dictionaries. -/
lemma Escrituracao.dicionarios (h : Escrituracao cs ds v g) (hg : Guardadas ds g) :
    ∀ d ∈ ds, ∃ firstname, d.snapshot = .dicionario firstname := by
  intro d hd
  obtain ⟨⟨k, r⟩, ⟨hr, rfl, ht⟩, -⟩ := hg.umaVez d hd
  exact h.dicionario_of_traz hd hr ht

/-- Nothing stored by a delivery that does not save: the answer of a query in flight has no
Requisicao. -/
lemma Escrituracao.not_guardadas (h : Escrituracao cs ds v g) {q : Consulta} (hq : q ∈ cs)
    (snapshot : Snapshot) (ok : Bool) : ¬ Guardadas (ds ++ [⟨q, snapshot, ok⟩]) g := by
  intro hg
  obtain ⟨⟨k, r⟩, ⟨hr, rfl, ht⟩, -⟩ := hg.umaVez ⟨q, snapshot, ok⟩ (by simp)
  exact h.not_traz hq rfl hr ht

/-! ## Whole runs -/

/-- What holds of an application in every run without decisions. -/
def Escriturado (s : App) : Prop :=
  Escrituracao s.pedido.consultas s.pedido.entregas s.view.requisicoes s.persisted.requisicoes

/-- The Requisicoes on disk after a write. -/
lemma requisicoes_persisted_exec (s t : App) (w : Write Change) :
    ({ t with ctx := s.ctx.exec w } : App).persisted.requisicoes =
      if w.Saves then (applyAll w.changes s.view).requisicoes else s.persisted.requisicoes := by
  rw [persisted_exec]
  split_ifs <;> rfl

/-- A step that is no decision keeps it. Next to it, the step keeps the delivered checkouts
stored exactly when it meets the condition.

**Proof sketch.** Only a delivery can fail: without a dictionary or with a failed save the
Requisicao of its checkout stays on disk without values, if it is there at all. Any other save
writes the values of all delivered checkouts. -/
lemma guardadas_step {s s' : App} {e : Event} (he : e.decisao = false) (hs : s.Escriturado)
    (h : s.step env e = some s') :
    s'.Escriturado ∧ (Guardadas s.pedido.entregas s.persisted.requisicoes →
      (Guardadas s'.pedido.entregas s'.persisted.requisicoes ↔ EntregaGuarda s e)) := by
  obtain ⟨w, t, ht, rfl⟩ := step_eq_some_iff.mp h
  have hef := efeito_of_opera ht
  simp only [Escriturado, view_exec, requisicoes_persisted_exec]
  generalize t.pedido = p at hef ⊢
  -- a step without delivery
  have hquieto : ∀ {v : ObjectTable Requisicao},
      Escrituracao p.consultas p.entregas v s.persisted.requisicoes →
      p.entregas = s.pedido.entregas → EntregaGuarda s e →
      Escrituracao p.consultas p.entregas v (if w.Saves then v else s.persisted.requisicoes) ∧
        (Guardadas s.pedido.entregas s.persisted.requisicoes →
          (Guardadas p.entregas (if w.Saves then v else s.persisted.requisicoes) ↔
            EntregaGuarda s e)) := by
    intro v hr hent hcond
    split_ifs
    · refine ⟨hr.grava, fun hg => iff_of_true ?_ hcond⟩
      exact hr.guardadas_of_dicionario (hent ▸ hs.dicionarios hg)
    · exact ⟨hr, fun hg => iff_of_true (hent ▸ hg) hcond⟩
  cases hef with
  | alheio hne hw hc hent =>
    rw [requisicoes_applyAll hw]
    refine hquieto (by rw [hc, hent]; exact hs) hent ?_
    cases e with
    | pedido e => exact absurd rfl (hne e)
    | _ => exact entregaGuarda_of_none rfl
  | decide k estado ok hd _ => exact absurd (he.symm.trans hd) (by simp)
  | @pedido evento _ _ hp =>
    cases hp with
    | nada hf hc hent =>
      refine hquieto (by rw [hc, hent]; exact hs) hent ?_
      cases evento with
      | firebase k snapshot ok =>
        rintro r ⟨⟩ hk
        have hnone := hf k snapshot ok rfl
        rw [List.getElem?_eq_getElem hk] at hnone
        cases hnone
      | _ => exact entregaGuarda_of_none rfl
    | confirma userID hck hc hent =>
      refine hquieto ?_ hent (entregaGuarda_of_none rfl)
      rw [hc, hent]
      exact hs.insere _ userID
    | @outro k q _ ok hq hc hent =>
      have hcond : ¬ EntregaGuarda s (.pedido (.firebase k .outro ok)) := by
        intro h
        exact (h _ rfl (List.getElem?_eq_some_iff.mp hq).1).1 rfl
      rw [hc, hent]
      exact ⟨hs.outro hq ok, fun _ => iff_of_false
        (hs.not_guardadas (List.mem_of_getElem? hq) .outro ok) hcond⟩
    | @preenche k q _ firstname ok hq hc hent =>
      have hcond : EntregaGuarda s (.pedido (.firebase k (.dicionario firstname) ok)) ↔
          ok = true := by
        simp [EntregaGuarda, Event.resposta, (List.getElem?_eq_some_iff.mp hq).1]
      have hr := hs.preenche hq firstname ok
      rw [hc, hent, hcond]
      cases ok with
      | false => exact ⟨hr, fun _ => iff_of_false
          (hs.not_guardadas (List.mem_of_getElem? hq) _ _) (by simp)⟩
      | true =>
        refine ⟨hr.grava, fun hg => iff_of_true (hr.guardadas_of_dicionario ?_) rfl⟩
        intro d hd
        rcases List.mem_append.mp hd with hd | hd
        · exact hs.dicionarios hg d hd
        · obtain rfl := List.mem_singleton.mp hd
          exact ⟨firstname, rfl⟩

/-- **Success means stored exactly while Firebase and the save succeed.** In a run from launch
without decisions of the owner, every delivered checkout has exactly one Requisicao of its own
on disk, with its values and the `estado` of a pending request, and no other Requisicao on disk
is filled, if and only if every query is answered with a dictionary and the save after it
succeeds.

**Proof sketch.** `Escriturado` is an invariant of such runs, and `guardadas_step` decides each
step next to it. -/
theorem guardadas_iff_entregaGuarda (env : Ambiente) (es : List Event)
    (hes : ∀ e ∈ es, e.decisao = false) :
    Runs.Throughout (step env)
        (fun s => Guardadas s.pedido.entregas s.persisted.requisicoes) es inicial ↔
      Runs.Meets (step env) EntregaGuarda es inicial := by
  refine Runs.throughout_iff_meets_of_forall (J := Escriturado)
    (fun _ _ _ he hs h => (guardadas_step he hs h).1)
    (fun _ _ _ he hs hg h => (guardadas_step he hs h).2 hg) hes ?_ ?_
  · refine ⟨⟨by simp [inicial, Pedido.inicial, objetos], ?_, ?_⟩, ?_, ?_, ?_⟩ <;>
      simp [inicial, Pedido.inicial, objetos, view, persisted, Store.empty]
  · exact ⟨by simp [inicial, Pedido.inicial], by simp [inicial, Pedido.inicial],
      by simp [inicial, persisted, Store.empty]⟩

/-- With a profile and a successful save the checkout of the run is stored. -/
theorem guardadas_solicitacao :
    Runs.Throughout (step Home.ambiente)
      (fun s => Guardadas s.pedido.entregas s.persisted.requisicoes)
      (oferta ++ cadastro ++ escolha ++ solicitacao ++
        [.pedido (.firebase 0 (.dicionario (some "Ana")) true)]) inicial :=
  (guardadas_iff_entregaGuarda _ _ (by decide)).mpr (by decide +kernel)

/-- Firebase answers the confirmed checkout without a dictionary: nothing is stored. -/
theorem not_guardadas_outro :
    ¬ ∀ (env : Ambiente) (es : List Event), (∀ e ∈ es, e.decisao = false) →
      Runs.Throughout (step env)
        (fun s => Guardadas s.pedido.entregas s.persisted.requisicoes) es inicial := by
  intro h
  have hvazio := (h Home.ambiente (oferta ++ cadastro ++ escolha ++ solicitacao ++
    [.pedido (.firebase 0 .outro true)]) (by decide)).imp
    (Q := fun s => ∀ d ∈ s.pedido.entregas, s.persisted.requisicoes.rows ≠ [])
    fun s hg d hd => ?_
  · exact absurd hvazio (by decide +kernel)
  · obtain ⟨p, ⟨hp, -⟩, -⟩ := hg.umaVez d hd
    exact List.ne_nil_of_mem hp

end App

end Parken
