import Parken.Entregas
import Parken.Falhas

set_option relaxedAutoImplicit false
set_option autoImplicit false

/-!
# Every Requisicao is accounted for

A confirmed checkout inserts its Requisicao at once. From then on it waits for Firebase, or has been
filled by the answer, or stays as it was inserted because the answer had no dictionary. Decisions,
saves that throw and the other screens change nothing in this; so what a row of the history does
when it is opened is known from the answer its checkout got.

## Main definitions

* `Parken.Entrega.Resulta` — what an answer has made of its Requisicao.
* `Parken.Contada` — the Requisicoes are those of the checkouts confirmed, one each.

## Main results

* `Parken.App.contada_throughout` — in every run no Requisicao is lost, doubled or of no checkout.
* `Parken.App.abre_iff_dicionario` — in every run a row of the history opens exactly when the answer
  to its checkout was a dictionary.
-/

namespace Parken

open Edit App

/-- What an answer has made of its Requisicao: with a dictionary it has the values of the checkout,
pending or with the `estado` of a decision since; without one it is as it was inserted. -/
def Entrega.Resulta (d : Entrega) (t : ObjectTable Requisicao) : Prop :=
  match d.snapshot with
  | .outro => (d.objeto, Requisicao.nova) ∈ t.rows
  | .dicionario firstname => ∃ estado ∈ ["Pendente", "Aprovado", "Rejeitado"], (d.objeto,
      { CheckoutVagaViewController.preencher d.consulta.checkout firstname with
        estado := some estado }) ∈ t.rows

/-- The Requisicoes are those of the checkouts confirmed, one each: those in flight are as they were
inserted, and the others as their answers have made them. -/
structure Contada (cs : List Consulta) (ds : List Entrega) (t : ObjectTable Requisicao) : Prop where
  conta : (t.rows.map Prod.fst).Perm (objetos cs ds)
  espera : ∀ q ∈ cs, (q.objUpdate, Requisicao.nova) ∈ t.rows
  entregue : ∀ d ∈ ds, d.Resulta t

namespace Contada

variable {cs : List Consulta} {ds : List Entrega} {t : ObjectTable Requisicao}

/-- What an answer has made of its Requisicao stays under an insertion. -/
lemma resulta_insert {d : Entrega} (h : d.Resulta t) (r : Requisicao) :
    d.Resulta (t.insert r) := by
  unfold Entrega.Resulta at *
  split at h
  · exact ObjectTable.mem_insert.mpr (.inl h)
  · obtain ⟨estado, hestado, h⟩ := h
    exact ⟨estado, hestado, ObjectTable.mem_insert.mpr (.inl h)⟩

/-- It stays under an update of another Requisicao. -/
lemma resulta_modify {d : Entrega} (h : d.Resulta t) {k : ObjectID} (hk : d.objeto ≠ k)
    (f : Requisicao → Requisicao) : d.Resulta (t.modify k f) := by
  unfold Entrega.Resulta at *
  split at h
  · exact ObjectTable.mem_modify_of_ne h hk f
  · obtain ⟨estado, hestado, h⟩ := h
    exact ⟨estado, hestado, ObjectTable.mem_modify_of_ne h hk f⟩

/-- A Requisicao as it was inserted is not filled. -/
lemma ne_of_cheia {j k : ObjectID} (hj : (j, Requisicao.nova) ∈ t.rows) {r : Requisicao}
    (hr : (k, r) ∈ t.rows) (hcheia : r.Preenchida) : j ≠ k := by
  rintro rfl
  have hnova := ObjectTable.eq_of_mem hr hj
  exact hcheia.data_ne (by rw [hnova]; rfl)

/-- The objects are distinct. -/
lemma nodup (h : Contada cs ds t) : (objetos cs ds).Nodup := h.conta.nodup_iff.mp t.nodup

/-- An object in flight is not one of a delivered answer. -/
lemma ne_objeto (h : Contada cs ds t) {q : Consulta} (hq : q ∈ cs) {d : Entrega} (hd : d ∈ ds) :
    d.objeto ≠ q.objUpdate := by
  have hdisj := (List.nodup_append.mp h.nodup).2.2
  exact (hdisj _ (List.mem_map_of_mem hq) _ (List.mem_map_of_mem hd)).symm

/-- A checkout is confirmed. -/
lemma insere (h : Contada cs ds t) (c : Checkout) (userID : String) :
    Contada (cs ++ [⟨t.next, c, userID⟩]) ds (t.insert .nova) where
  conta := by
    have hperm : (objetos cs ds ++ [t.next]).Perm (objetos (cs ++ [⟨t.next, c, userID⟩]) ds) := by
      simp only [objetos, List.map_append, List.map_cons, List.map_nil, List.append_assoc]
      exact List.perm_append_comm.append_left _
    rw [ObjectTable.rows_insert, List.map_append]
    exact (h.conta.append_right _).trans hperm
  espera q hq := by
    rcases List.mem_append.mp hq with hq | hq
    · exact ObjectTable.mem_insert.mpr (.inl (h.espera q hq))
    · obtain rfl := List.mem_singleton.mp hq
      exact ObjectTable.mem_insert.mpr (.inr rfl)
  entregue d hd := resulta_insert (h.entregue d hd) _

/-- An answer without a dictionary is delivered. -/
lemma outro (h : Contada cs ds t) {k : ℕ} {q : Consulta} (hq : cs[k]? = some q) (ok : Bool) :
    Contada (cs.eraseIdx k) (ds ++ [⟨q, .outro, ok⟩]) t where
  conta := h.conta.trans (objetos_entrega_perm hq .outro ok).symm
  espera p hp := h.espera p (List.mem_of_mem_eraseIdx hp)
  entregue d hd := by
    rcases List.mem_append.mp hd with hd | hd
    · exact h.entregue d hd
    · obtain rfl := List.mem_singleton.mp hd
      exact h.espera q (List.mem_of_getElem? hq)

/-- A profile is delivered: the Requisicao of its checkout is filled, and no other changes. -/
lemma preenche (h : Contada cs ds t) {k : ℕ} {q : Consulta} (hq : cs[k]? = some q)
    (firstname : Option String) (ok : Bool) :
    Contada (cs.eraseIdx k) (ds ++ [⟨q, .dicionario firstname, ok⟩])
      (t.modify q.objUpdate fun _ =>
        CheckoutVagaViewController.preencher q.checkout firstname) where
  conta := by
    rw [ObjectTable.map_fst_modify]
    exact h.conta.trans (objetos_entrega_perm hq (.dicionario firstname) ok).symm
  espera p hp := by
    -- the other queries in flight are about other Requisicoes
    have hnodup : (cs.map Consulta.objUpdate).Nodup := (List.nodup_append.mp h.nodup).1
    obtain ⟨hk, rfl⟩ := List.getElem?_eq_some_iff.mp hq
    have hperm := (List.getElem_cons_eraseIdx_perm hk).map Consulta.objUpdate
    have hne : p.objUpdate ≠ cs[k].objUpdate := by
      intro heq
      have hnotMem := (List.nodup_cons.mp (hperm.nodup_iff.mpr hnodup)).1
      exact hnotMem (heq ▸ List.mem_map_of_mem hp)
    exact ObjectTable.mem_modify_of_ne (h.espera p (List.mem_of_mem_eraseIdx hp)) hne _
  entregue d hd := by
    rcases List.mem_append.mp hd with hd | hd
    · exact resulta_modify (h.entregue d hd) (h.ne_objeto (List.mem_of_getElem? hq) hd) _
    · obtain rfl := List.mem_singleton.mp hd
      have hq := h.espera q (List.mem_of_getElem? hq)
      exact ⟨"Pendente", by simp, ObjectTable.mem_modify_self hq _⟩

/-- The owner decides on a filled Requisicao. -/
lemma setEstado (h : Contada cs ds t) {k : ObjectID} {r : Requisicao} (hr : (k, r) ∈ t.rows)
    (hcheia : r.Preenchida) {estado : String} (hd : estado = "Aprovado" ∨ estado = "Rejeitado") :
    Contada cs ds (t.modify k fun r => { r with estado := some estado }) where
  conta := by
    rw [ObjectTable.map_fst_modify]
    exact h.conta
  espera q hq := by
    have hnova := h.espera q hq
    exact ObjectTable.mem_modify_of_ne hnova (ne_of_cheia hnova hr hcheia) _
  entregue d hmem := by
    by_cases hdk : d.objeto = k
    · have hd' := h.entregue d hmem
      unfold Entrega.Resulta at *
      split at hd'
      · exact absurd hdk (ne_of_cheia hd' hr hcheia)
      · obtain ⟨antes, -, hd'⟩ := hd'
        exact ⟨estado, by simpa using .inr hd, hdk ▸ ObjectTable.mem_modify_self hd' _⟩
    · exact resulta_modify (h.entregue d hmem) hdk _

/-- A Requisicao is other than it was inserted exactly if its answer was a dictionary. -/
lemma ne_nova_iff (h : Contada cs ds t) {k : ObjectID} {r : Requisicao} (hr : (k, r) ∈ t.rows) :
    r ≠ .nova ↔ ∃ d ∈ ds, d.objeto = k ∧ d.snapshot ≠ .outro := by
  constructor
  · intro hne
    have hk : k ∈ objetos cs ds := h.conta.mem_iff.mp (List.mem_map_of_mem hr)
    rcases List.mem_append.mp hk with hk | hk
    · obtain ⟨q, hq, rfl⟩ := List.mem_map.mp hk
      exact absurd (ObjectTable.eq_of_mem hr (h.espera q hq)) hne
    · obtain ⟨d, hd, rfl⟩ := List.mem_map.mp hk
      refine ⟨d, hd, rfl, fun houtro => ?_⟩
      have hnova := h.entregue d hd
      rw [Entrega.Resulta, houtro] at hnova
      exact hne (ObjectTable.eq_of_mem hr hnova)
  · rintro ⟨d, hd, rfl, hsnapshot⟩ rfl
    have hd' := h.entregue d hd
    unfold Entrega.Resulta at hd'
    split at hd'
    next houtro => exact hsnapshot houtro
    next firstname _ =>
      obtain ⟨estado, -, hd'⟩ := hd'
      have hestado := congrArg Requisicao.estado (ObjectTable.eq_of_mem hd' hr)
      cases hestado

end Contada

namespace App

variable {env : Ambiente}

/-- What holds in every run: the invariant of the screens, the Requisicoes are accounted for, and
the history lists stored ones. -/
structure EmDia (s : App) : Prop where
  pronta : s.Pronta
  contada : Contada s.pedido.consultas s.pedido.entregas s.view.requisicoes
  listas : s.view.requisicoes.Lists s.historico.solicitacoes

/-- An event keeps the Requisicoes accounted for.

**Proof sketch.** A checkout confirmed takes the next object; an answer moves its object from the
queries to the answers, and fills it if it can. A decision is about the open request, which is
filled, so it changes an `estado` alone. -/
lemma EmDia.contada_of_opera {s t : App} {e : Event} {w : Write Change} (hs : s.EmDia)
    (h : s.opera env e = some (w, t)) :
    Contada t.pedido.consultas t.pedido.entregas (applyAll w.changes s.view).requisicoes := by
  have hcont := hs.contada
  have hef := efeito_of_opera h
  generalize t.pedido = p at hef ⊢
  cases hef with
  | alheio hne hw hc hent =>
    rw [requisicoes_applyAll hw, hc, hent]
    exact hcont
  | decide k estado ok hd _ =>
    obtain ⟨⟨r, hr, hcheia⟩, hdecisao⟩ :=
      hs.pronta.cheia_of_setEstado h (List.mem_singleton.mpr rfl)
    exact hcont.setEstado hr hcheia hdecisao
  | pedido hp =>
    cases hp with
    | nada hf hc hent =>
      rw [hc, hent]
      exact hcont
    | confirma userID hc hcons hent =>
      rw [hcons, hent]
      exact hcont.insere _ userID
    | outro ok hq hc hent =>
      rw [hc, hent]
      exact hcont.outro hq ok
    | preenche firstname ok hq hc hent =>
      rw [hc, hent]
      exact hcont.preenche hq firstname ok

/-- Every event keeps what holds in every run. -/
lemma EmDia.step {s s' : App} {e : Event} (hs : s.EmDia) (h : s.step env e = some s') :
    s'.EmDia := by
  have hpronta := pronta_step hs.pronta h
  obtain ⟨w, t, ht, rfl⟩ := step_eq_some_iff.mp h
  have hcontada := hs.contada_of_opera ht
  have hlistas := solicitacoes_lists hs.listas ht
  refine ⟨hpronta, ?_, ?_⟩
  · rw [view_exec]
    exact hcontada
  · rw [view_exec]
    exact hlistas

lemma emDia_inicial : inicial.EmDia where
  pronta := Aprovacoes.pronta_inicial
  contada := ⟨List.Perm.refl _, fun _ hq => absurd hq List.not_mem_nil,
    fun _ hd => absurd hd List.not_mem_nil⟩
  listas := ObjectTable.lists_nil _

/-- In every run from launch it holds. -/
lemma emDia_throughout (env : Ambiente) (es : List Event) :
    Runs.Throughout (step env) EmDia es inicial :=
  .of_step (fun _ _ _ hs h => hs.step h) emDia_inicial

/-- **No Requisicao is lost, doubled or of no checkout.** In every run from launch, with any order
of the events of all screens and of the answers, and with any saves that throw, the Requisicoes in
the context are those of the checkouts confirmed, one each. While its query is in flight a
Requisicao is as it was inserted; answered with a dictionary it has the values of its own checkout,
pending, approved or rejected; answered without one it is as it was inserted for good.

**Proof sketch.** `App.EmDia` is an invariant. -/
theorem contada_throughout (env : Ambiente) (es : List Event) :
    Runs.Throughout (step env)
      (fun s => Contada s.pedido.consultas s.pedido.entregas s.view.requisicoes) es inicial :=
  (emDia_throughout env es).imp fun _ hs => hs.contada

/-- The screen of a request opens exactly if it is not as it was inserted. -/
lemma abrir_isSome_iff {s : App} (hs : s.Pronta) {row : ℕ} {k : ObjectID} {r : Requisicao}
    (hk : s.historico.solicitacoes[row]? = some k) (hr : (k, r) ∈ s.view.requisicoes.rows) :
    (s.step env (.historico (.abrir row))).isSome ↔ r ≠ .nova := by
  have hget := ObjectTable.get?_eq_some_iff.mpr hr
  have hdata : (s.step env (.historico (.abrir row))).isSome ↔ r.data.isSome := by
    simp [step, opera, Historico.step, hk, hget, HistoricoViewController.viewDidLoad]
  rw [hdata]
  rcases hs.view _ hr with hcheia | rfl
  · exact iff_of_true hcheia.isSome.1 fun hnova => hcheia.data_ne (congrArg Requisicao.data hnova)
  · exact iff_of_false (by simp [Requisicao.nova]) (fun hne => hne rfl)

/-- **What the history opens.** In every run from launch, a row of the history opens without a trap
if and only if Firebase has answered the checkout of its Requisicao, and with a dictionary.

**Proof sketch.** The row is a stored Requisicao, which is one of a checkout confirmed
(`contada_throughout`); only a dictionary sets its date. -/
theorem abre_iff_dicionario (env : Ambiente) (es : List Event) :
    Runs.Throughout (step env) (fun s => ∀ row, ∀ k ∈ s.historico.solicitacoes[row]?,
      ((s.step env (.historico (.abrir row))).isSome ↔
        ∃ d ∈ s.pedido.entregas, d.objeto = k ∧ d.snapshot ≠ .outro)) es inicial := by
  refine (emDia_throughout env es).imp fun s hs row k hk => ?_
  obtain ⟨r, hr⟩ := hs.listas.stored k (List.mem_of_getElem? hk)
  rw [abrir_isSome_iff hs.pronta hk hr]
  exact hs.contada.ne_nova_iff hr

end App

end Parken
