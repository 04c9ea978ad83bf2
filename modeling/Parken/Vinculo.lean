import Parken.Entregas
import Parken.Vagas

set_option relaxedAutoImplicit false
set_option autoImplicit false

/-!
# The link from a request to its Vaga

A Requisicao has no reference to its Vaga but the key it stores as its `id`; the approvals
screen looks for the first Vaga with that key, in a fetch without an order. The link holds as
long as nothing takes the Vaga away and nothing else has its key.

## Main definitions

* `Parken.Encontra` — the matching loop finds an object in every order of the fetch.
* `Parken.App.Vinculadas` — every pending request finds the Vaga its driver chose.
* `Parken.App.MantemVinculo` — the condition on a step.

## Main results

* `Parken.encontra_insert`, `Parken.encontra_erase` — a new Vaga, or a deletion, keeps what a
  search finds exactly when it has another key, or is of another Vaga.
* `Parken.App.vinculadas_iff_mantemVinculo` — every pending request finds its Vaga exactly in
  the runs whose steps meet the condition.
-/

namespace Parken

open Edit

/-! ## The search -/

/-- The matching loop finds object `k` for the id, in every order of the fetch. -/
def Encontra (t : ObjectTable Vaga) (id : String) (k : ObjectID) : Prop :=
  ∀ l : List (ObjectID × Vaga), l.Perm t.rows →
    (ListaConfirmacoes.buscaVaga id l).map Prod.fst = some k

/-- The loop finds `k` in every order exactly when the Vagas with that key are `k`. -/
lemma encontra_iff {t : ObjectTable Vaga} {id : String} {k : ObjectID} :
    Encontra t id k ↔ (∃ v, (k, v) ∈ t.rows ∧ id = v.chaveConfirmacao) ∧
      ∀ p ∈ t.rows, id = p.2.chaveConfirmacao → p.1 = k := by
  simp only [Encontra, ListaConfirmacoes.buscaVaga_eq_find?]
  rw [ObjectTable.forall_perm_find?_iff]
  simp only [decide_eq_true_eq]
  constructor
  · rintro ⟨⟨⟨j, v⟩, hp, hid⟩, hall⟩
    obtain rfl : j = k := hall _ hp hid
    exact ⟨⟨v, hp, hid⟩, hall⟩
  · rintro ⟨⟨v, hp, hid⟩, hall⟩
    exact ⟨⟨(k, v), hp, hid⟩, hall⟩

/-- What a search finds survives an insertion exactly when the new Vaga has another key. -/
lemma encontra_insert {t : ObjectTable Vaga} {id : String} {k : ObjectID} {v : Vaga}
    (h : Encontra t id k) : Encontra (t.insert v) id k ↔ id ≠ v.chaveConfirmacao := by
  obtain ⟨⟨w, hw, hid⟩, hall⟩ := encontra_iff.mp h
  rw [encontra_iff]
  constructor
  · rintro ⟨-, hall'⟩ heq
    have hk := hall' (t.next, v) (ObjectTable.mem_insert.mpr (.inr rfl)) heq
    exact absurd (t.lt_next _ hw) (hk ▸ Nat.lt_irrefl _)
  · intro hne
    refine ⟨⟨w, ObjectTable.mem_insert.mpr (.inl hw), hid⟩, fun p hp heq => ?_⟩
    rcases ObjectTable.mem_insert.mp hp with hp | rfl
    · exact hall p hp heq
    · exact absurd heq hne

/-- What a search finds survives a deletion exactly when another Vaga is deleted. -/
lemma encontra_erase {t : ObjectTable Vaga} {id : String} {k j : ObjectID}
    (h : Encontra t id k) : Encontra (t.erase j) id k ↔ k ≠ j := by
  obtain ⟨⟨w, hw, hid⟩, hall⟩ := encontra_iff.mp h
  rw [encontra_iff]
  constructor
  · rintro ⟨⟨_, hv, -⟩, -⟩
    exact (ObjectTable.mem_erase.mp hv).2
  · intro hne
    exact ⟨⟨w, ObjectTable.mem_erase.mpr ⟨hw, hne⟩, hid⟩,
      fun p hp => hall p (ObjectTable.mem_erase.mp hp).1⟩

/-- What a search finds survives an update that leaves the keys. -/
lemma encontra_modify {t : ObjectTable Vaga} {id : String} {k j : ObjectID} {g : Vaga → Vaga}
    (hg : ∀ v, (g v).chaveConfirmacao = v.chaveConfirmacao) (h : Encontra t id k) :
    Encontra (t.modify j g) id k := by
  obtain ⟨⟨w, hw, hid⟩, hall⟩ := encontra_iff.mp h
  have hkey : ∀ p : ObjectID × Vaga,
      (if p.1 = j then g p.2 else p.2).chaveConfirmacao = p.2.chaveConfirmacao := by
    intro p
    split_ifs
    · exact hg p.2
    · rfl
  refine encontra_iff.mpr ⟨⟨_, ObjectTable.mem_modify.mpr ⟨_, hw, rfl⟩, ?_⟩, fun p hp heq => ?_⟩
  · exact hid.trans (hkey (k, w)).symm
  · obtain ⟨p₀, hp₀, rfl⟩ := ObjectTable.mem_modify.mp hp
    exact hall p₀ hp₀ (heq.trans (hkey p₀))

namespace App

variable {env : Ambiente}

/-- The record the driver chose for a delivered checkout. -/
def escolhida (d : Entrega) : ObjectID := d.consulta.checkout.escolhida

/-- Every pending request of `t` belongs to a delivered checkout of `ds`, and the matching loop
finds for it, among the Vagas `vs`, the very record its driver chose. -/
def Vinculadas (ds : List Entrega) (t : ObjectTable Requisicao) (vs : ObjectTable Vaga) : Prop :=
  ∀ p ∈ t.rows, p.2.estado = some "Pendente" →
    ∃ d ∈ ds, d.objeto = p.1 ∧ Encontra vs p.2.idConfirmacao (escolhida d)

/-- The condition on a step. A Vaga is stored only with a key that no pending request asks for;
no Vaga is deleted that a pending request is for; and when Firebase answers, the Vaga the driver
chose is still stored, has the key the checkout carries, and is the only one that has it. -/
def MantemVinculo (s : App) : Event → Prop
  | .garage (.geocode k (some _) _) =>
    ∀ p ∈ s.garage.geocodificacoes[k]?, ∀ f ∈ s.garage.formularios[p.tela]?,
      ∀ r ∈ s.view.requisicoes.rows, r.2.estado = some "Pendente" →
        r.2.idConfirmacao ≠ NovaVagaViewController.chaveDosCampos f
  | .garage (.excluir row _) =>
    ∀ k ∈ s.garage.vagas[row]?, ∀ r ∈ s.view.requisicoes.rows, r.2.estado = some "Pendente" →
      ∀ d ∈ s.pedido.entregas, d.objeto = r.1 → escolhida d ≠ k
  | .pedido (.firebase k (.dicionario _) _) =>
    ∀ q ∈ s.pedido.consultas[k]?,
      (∃ v, (q.checkout.escolhida, v) ∈ s.view.vagas.rows ∧
        q.checkout.id.getD "N/D" = v.chaveConfirmacao) ∧
      ∀ v ∈ s.view.vagas.rows, q.checkout.id.getD "N/D" = v.2.chaveConfirmacao →
        v.1 = q.checkout.escolhida
  | _ => True

/-! ## What holds in every run -/

/-- The objects of the requests are distinct, and a pending request is one of a delivered
checkout. -/
structure Origem (cs : List Consulta) (ds : List Entrega) (view : ObjectTable Requisicao) : Prop
    extends Distintos cs ds view where
  pendentes : ∀ p ∈ view.rows, p.2.estado = some "Pendente" → ∃ d ∈ ds, d.objeto = p.1

variable {cs : List Consulta} {ds : List Entrega} {v : ObjectTable Requisicao}

lemma Origem.insere (h : Origem cs ds v) (c : Checkout) (userID : String) :
    Origem (cs ++ [⟨v.next, c, userID⟩]) ds (v.insert .nova) where
  toDistintos := h.toDistintos.insere c userID
  pendentes p hp hpend := by
    rcases ObjectTable.mem_insert.mp hp with hp | rfl
    · exact h.pendentes p hp hpend
    · cases hpend

lemma Origem.entrega (h : Origem cs ds v) {k : ℕ} {q : Consulta} (hq : cs[k]? = some q)
    (snapshot : Snapshot) (ok : Bool) :
    Origem (cs.eraseIdx k) (ds ++ [⟨q, snapshot, ok⟩]) v where
  toDistintos := h.toDistintos.entrega hq snapshot ok
  pendentes p hp hpend := by
    obtain ⟨d, hd, hobj⟩ := h.pendentes p hp hpend
    exact ⟨d, List.mem_append_left _ hd, hobj⟩

lemma Origem.preenche (h : Origem cs ds v) {k : ℕ} {q : Consulta} (hq : cs[k]? = some q)
    (firstname : Option String) (ok : Bool) :
    Origem (cs.eraseIdx k) (ds ++ [⟨q, .dicionario firstname, ok⟩])
      (v.modify q.objUpdate fun _ =>
        CheckoutVagaViewController.preencher q.checkout firstname) where
  toDistintos := (h.toDistintos.entrega hq _ ok).modify _ _
  pendentes p hp hpend := by
    obtain ⟨⟨j, r⟩, hr, rfl⟩ := ObjectTable.mem_modify.mp hp
    dsimp only at hpend ⊢
    split_ifs at hpend with heq
    · exact ⟨⟨q, .dicionario firstname, ok⟩, by simp, heq.symm⟩
    · exact (h.entrega hq _ ok).pendentes _ hr hpend

/-- A decision leaves no request pending that was not. -/
lemma mem_of_setEstado {k : ObjectID} {estado : String} (hestado : estado ≠ "Pendente")
    {p : ObjectID × Requisicao}
    (hp : p ∈ (v.modify k fun r => { r with estado := some estado }).rows)
    (hpend : p.2.estado = some "Pendente") : p ∈ v.rows := by
  obtain ⟨⟨j, r⟩, hr, rfl⟩ := ObjectTable.mem_modify.mp hp
  dsimp only at hpend ⊢
  split_ifs at hpend ⊢
  · exact absurd (Option.some.inj hpend) hestado
  · exact hr

lemma Origem.decide (h : Origem cs ds v) (k : ObjectID) {estado : String}
    (hestado : estado ≠ "Pendente") :
    Origem cs ds (v.modify k fun r => { r with estado := some estado }) where
  toDistintos := h.toDistintos.modify _ _
  pendentes p hp hpend := h.pendentes p (mem_of_setEstado hestado hp hpend) hpend

/-! ## The effects on the link -/

/-- A profile delivered keeps the link exactly when the new request finds its Vaga.

**Proof sketch.** The object of the request was in flight, so no delivered checkout before it
has the same object; the other requests are untouched. -/
lemma vinculadas_preenche_iff {vs : ObjectTable Vaga} (h : Origem cs ds v) (ha : Vinculadas ds v vs)
    {k : ℕ} {q : Consulta} (hq : cs[k]? = some q) (firstname : Option String) (ok : Bool) :
    Vinculadas (ds ++ [⟨q, .dicionario firstname, ok⟩])
        (v.modify q.objUpdate fun _ => CheckoutVagaViewController.preencher q.checkout firstname)
        vs ↔
      Encontra vs (q.checkout.id.getD "N/D") q.checkout.escolhida := by
  have hmem := List.mem_of_getElem? hq
  obtain ⟨r, hr⟩ := h.presentes q hmem
  constructor
  · intro h'
    obtain ⟨d, hd, hobj, henc⟩ := h' _ (ObjectTable.mem_modify.mpr ⟨_, hr, rfl⟩) (by simp; rfl)
    rcases List.mem_append.mp hd with hd | hd
    · exact absurd hobj (h.ne_objeto hmem hd)
    · obtain rfl := List.mem_singleton.mp hd
      simpa [Requisicao.idConfirmacao, CheckoutVagaViewController.preencher, escolhida] using henc
  · intro henc p hp hpend
    obtain ⟨⟨j, r'⟩, hr', rfl⟩ := ObjectTable.mem_modify.mp hp
    dsimp only at hpend ⊢
    split_ifs at hpend ⊢ with heq
    · exact ⟨⟨q, .dicionario firstname, ok⟩, by simp, heq.symm, henc⟩
    · obtain ⟨d, hd, hobj, henc'⟩ := ha _ hr' hpend
      exact ⟨d, List.mem_append_left _ hd, hobj, henc'⟩

/-- A Vaga stored keeps the link exactly when no pending request asks for its key. -/
lemma vinculadas_insert_iff {vs : ObjectTable Vaga} (ha : Vinculadas ds v vs) (vaga : Vaga) :
    Vinculadas ds v (vs.insert vaga) ↔
      ∀ p ∈ v.rows, p.2.estado = some "Pendente" → p.2.idConfirmacao ≠ vaga.chaveConfirmacao := by
  refine forall₃_congr fun p hp hpend => ?_
  obtain ⟨d, hd, hobj, henc⟩ := ha p hp hpend
  constructor
  · rintro ⟨d', -, -, henc'⟩ heq
    -- the old match and the new Vaga would both be the Vaga of the search
    obtain ⟨u, hu, hid⟩ := (encontra_iff.mp henc).1
    have hall := (encontra_iff.mp henc').2
    have hold := hall _ (ObjectTable.mem_insert.mpr (.inl hu)) hid
    have hnew := hall (vs.next, vaga) (ObjectTable.mem_insert.mpr (.inr rfl)) heq
    exact absurd (vs.lt_next _ hu) (hold.trans hnew.symm ▸ Nat.lt_irrefl _)
  · intro hne
    exact ⟨d, hd, hobj, (encontra_insert henc).mpr hne⟩

/-- A deletion keeps the link exactly when no pending request is for the Vaga. -/
lemma vinculadas_erase_iff {vs : ObjectTable Vaga} (h : Origem cs ds v)
    (ha : Vinculadas ds v vs) (k : ObjectID) :
    Vinculadas ds v (vs.erase k) ↔
      ∀ p ∈ v.rows, p.2.estado = some "Pendente" → ∀ d ∈ ds, d.objeto = p.1 → escolhida d ≠ k := by
  have hnodup : (ds.map Entrega.objeto).Nodup := (List.nodup_append.mp h.nodup).2.1
  refine forall₃_congr fun p hp hpend => ?_
  obtain ⟨d, hd, hobj, henc⟩ := ha p hp hpend
  have huniq : ∀ d' ∈ ds, d'.objeto = p.1 → d' = d := fun d' hd' h' =>
    List.inj_on_of_nodup_map hnodup hd' hd (h'.trans hobj.symm)
  constructor
  · rintro ⟨d', hd', hobj', henc'⟩ d'' hd'' hobj''
    rw [huniq d'' hd'' hobj'']
    rw [huniq d' hd' hobj'] at henc'
    exact (encontra_erase henc).mp henc'
  · intro hne
    exact ⟨d, hd, hobj, (encontra_erase henc).mpr (hne d hd hobj)⟩

/-- What holds of an application in every run. -/
def ComOrigem (s : App) : Prop :=
  Origem s.pedido.consultas s.pedido.entregas s.view.requisicoes

/-- Every pending request finds the Vaga its driver chose. -/
def Ligadas (s : App) : Prop :=
  Vinculadas s.pedido.entregas s.view.requisicoes s.view.vagas

/-- A write of the garage screens keeps the link of every pending request exactly when the event
meets the condition. -/
lemma EfeitoVagas.vinculadas_iff {s : App} {e : Event} {w : Write Change} (h : EfeitoVagas s e w)
    (hne : ∀ e', e ≠ .pedido e') (hs : s.ComOrigem) (hl : s.Ligadas) :
    Vinculadas s.pedido.entregas s.view.requisicoes (applyAll w.changes s.view).vagas ↔
      MantemVinculo s e := by
  cases h with
  | alheio hne' hw' =>
    rw [vagas_applyAll hw']
    refine iff_of_true hl ?_
    cases e with
    | garage e => exact absurd rfl (hne' e)
    | pedido e => exact absurd rfl (hne e)
    | _ => trivial
  | @garage evento _ hg =>
    cases hg with
    | nada hnil hgeo hx =>
      rw [hnil]
      refine iff_of_true hl ?_
      cases evento with
      | geocode k resposta ok =>
        cases resposta with
        | none => trivial
        | some location =>
          intro p hp f hf
          cases (hgeo k location ok rfl p hp).symm.trans hf
      | excluir row ok => exact absurd rfl (hx row ok)
      | _ => trivial
    | @nova k p f location ok hp hf =>
      have hcond : MantemVinculo s (.garage (.geocode k (some location) ok)) ↔
          ∀ r ∈ s.view.requisicoes.rows, r.2.estado = some "Pendente" →
            r.2.idConfirmacao ≠ NovaVagaViewController.chaveDosCampos f := by
        simp [MantemVinculo, hp, hf]
      rw [hcond]
      exact vinculadas_insert_iff hl _
    | @excluir row k ok hk =>
      have hcond : MantemVinculo s (.garage (.excluir row ok)) ↔
          ∀ r ∈ s.view.requisicoes.rows, r.2.estado = some "Pendente" →
            ∀ d ∈ s.pedido.entregas, d.objeto = r.1 → escolhida d ≠ k := by
        simp [MantemVinculo, hk]
      rw [hcond]
      exact vinculadas_erase_iff hs hl k
    | atualizar ok hk =>
      refine iff_of_true (fun p hp hpend => ?_) trivial
      obtain ⟨d, hd, hobj, henc⟩ := hl p hp hpend
      exact ⟨d, hd, hobj, encontra_modify (fun _ => rfl) henc⟩

/-- A step keeps what holds in every run. Next to it, the step keeps the link of every pending
request exactly when it meets the condition.

**Proof sketch.** One case for each effect: only a new Vaga, a deletion and a delivered profile
can break a link, and the conditions are those of the three lemmas above. -/
lemma ligadas_step {s s' : App} {e : Event} (hs : s.ComOrigem) (h : s.step env e = some s') :
    s'.ComOrigem ∧ (s.Ligadas → (s'.Ligadas ↔ MantemVinculo s e)) := by
  obtain ⟨w, t, ht, rfl⟩ := step_eq_some_iff.mp h
  have hef := efeito_of_opera ht
  have hvagas := efeitoVagas_of_opera ht
  simp only [ComOrigem, Ligadas, view_exec]
  generalize t.pedido = p at hef ⊢
  cases hef with
  | alheio hne hw hc hent =>
    rw [requisicoes_applyAll hw, hc, hent]
    refine ⟨hs, fun hl => ?_⟩
    exact hvagas.vinculadas_iff hne hs hl
  | decide k estado ok hd hestado =>
    refine ⟨hs.decide k hestado, fun hl => iff_of_true (fun p hp hpend => ?_) ?_⟩
    · obtain ⟨⟨j, r⟩, hr, rfl⟩ := ObjectTable.mem_modify.mp hp
      exact hl _ (mem_of_setEstado hestado hp hpend) hpend
    · cases e with
      | confirmacao e => trivial
      | _ => cases hd
  | @pedido evento _ _ hp =>
    cases hp with
    | nada hf hc hent =>
      rw [hc, hent]
      refine ⟨hs, fun hl => iff_of_true hl ?_⟩
      cases evento with
      | firebase k snapshot ok =>
        cases snapshot with
        | outro => trivial
        | dicionario firstname =>
          intro q hq
          cases (hf k _ ok rfl).symm.trans hq
      | _ => trivial
    | confirma userID hck hc hent =>
      rw [hc, hent]
      refine ⟨hs.insere _ userID, fun hl => iff_of_true (fun p hp hpend => ?_) trivial⟩
      rcases ObjectTable.mem_insert.mp hp with hp | rfl
      · exact hl p hp hpend
      · cases hpend
    | outro ok hq hc hent =>
      rw [hc, hent]
      refine ⟨hs.entrega hq _ ok, fun hl => iff_of_true (fun p hp hpend => ?_) trivial⟩
      obtain ⟨d, hd, hobj, henc⟩ := hl p hp hpend
      exact ⟨d, List.mem_append_left _ hd, hobj, henc⟩
    | @preenche k q _ firstname ok hq hc hent =>
      have hcond : MantemVinculo s (.pedido (.firebase k (.dicionario firstname) ok)) ↔
          Encontra s.view.vagas (q.checkout.id.getD "N/D") q.checkout.escolhida := by
        simp [MantemVinculo, hq, encontra_iff]
      rw [hc, hent, hcond]
      exact ⟨hs.preenche hq firstname ok, fun hl => vinculadas_preenche_iff hs hl hq firstname ok⟩

/-- **A pending request finds its Vaga exactly while the string keeps pointing at it.** In a run
from launch, for every pending request and every order of the fetch, the matching loop of the
approvals screen finds the very record its driver chose, if and only if every step meets the
condition: no Vaga is stored with the key of a pending request, no Vaga of a pending request is
deleted, and when Firebase answers, the chosen Vaga is stored, has the key the checkout carries
and is the only one that has it.

**Proof sketch.** `ComOrigem` is an invariant, and `ligadas_step` decides each step next to
it. -/
theorem vinculadas_iff_mantemVinculo (env : Ambiente) (es : List Event) :
    Runs.Throughout (step env) Ligadas es inicial ↔
      Runs.Meets (step env) MantemVinculo es inicial := by
  refine Runs.throughout_iff_meets (J := ComOrigem) (fun _ _ _ hs h => (ligadas_step hs h).1)
    (fun _ _ _ hs hl h => (ligadas_step hs h).2 hl) ?_ ?_
  · refine ⟨⟨by simp [inicial, Pedido.inicial, objetos], ?_, ?_⟩, ?_⟩ <;>
      simp [inicial, Pedido.inicial, objetos, view, Store.empty]
  · intro p hp
    cases hp

/-- The owner deletes the garage while its request is pending: no Vaga is found for it. -/
theorem not_vinculadas_delete :
    ¬ ∀ (env : Ambiente) (es : List Event),
      Runs.Throughout (step env) Ligadas es inicial := by
  intro h
  have hacha := (h Home.ambiente (oferta ++ cadastro ++ escolha ++ solicitacao ++
      [.pedido (.firebase 0 (.dicionario (some "Ana")) true),
        .garage (.viewWillAppear (some [])), .garage (.excluir 0 true)])).imp
    (Q := fun s => ∀ p ∈ s.view.requisicoes.rows, p.2.estado = some "Pendente" →
      s.view.vagas.rows ≠ []) fun s hl p hp hpend => ?_
  · exact absurd hacha (by decide +kernel)
  · obtain ⟨d, -, -, henc⟩ := hl p hp hpend
    obtain ⟨v, hv, -⟩ := (encontra_iff.mp henc).1
    exact List.ne_nil_of_mem hv

end App

end Parken
