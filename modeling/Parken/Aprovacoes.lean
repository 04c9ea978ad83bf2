import Parken.Requisicoes

set_option relaxedAutoImplicit false
set_option autoImplicit false

/-!
# The life of a request

`save(estado:)` writes a decision without a look at the `estado` it replaces, so what becomes of a
Requisicao depends on which requests the list offers. The list is fetched again each time it
appears, by a predicate on the `estado` the context shows; a fetch that throws leaves the list as
it was, the request just decided included.

`Aprovacoes` adds to the application which of the approvals screens is in front, so that a decision
is followed by its alert and the alert by the list, and the restart of the application, which
leaves only what is on disk. While the alert is shown nothing else of these screens can be used.

## Main definitions

* `Parken.Lei` — the changes the `estado` of a Requisicao may make.
* `Parken.Aprovacoes`, `Parken.Aprovacoes.step` — the application with the approvals screens in
  their order, and restarts.
* `Parken.Aprovacoes.Legal` — a step obeys the law on disk.
* `Parken.Aprovacoes.OferecePendentes` — the condition on a decision.

## Main results

* `Parken.Aprovacoes.Regular.step` — the invariant of the list, the context and the disk.
* `Parken.Aprovacoes.lei_of_oferecePendentes` — every step of a run that meets the condition obeys
  the law, and what is decided on disk stays as it is.
* `Parken.Aprovacoes.resguardada_iff_oferecePendentes` — the condition is exact for what a step
  leaves on disk and for the next save.
-/

namespace Parken

open Edit

/-- The changes the `estado` of a Requisicao may make: none, from absent to pending, and from
pending to a decision. -/
def Lei (antes depois : Option String) : Prop :=
  depois = antes ∨ (antes = none ∧ depois = some "Pendente") ∨
    (antes = some "Pendente" ∧ (depois = some "Aprovado" ∨ depois = some "Rejeitado"))

instance (antes depois : Option String) : Decidable (Lei antes depois) :=
  inferInstanceAs (Decidable (_ ∨ _ ∧ _ ∨ _ ∧ (_ ∨ _)))

/-- The `estado` of a Requisicao of the table, absent where there is no such Requisicao. -/
def estadoDe (t : ObjectTable Requisicao) (k : ObjectID) : Option String :=
  (t.get? k).bind Requisicao.estado

/-- The approvals screen in front. -/
inductive Frente where
  /-- None of them. -/
  | fora
  /-- The list. -/
  | lista
  /-- The screen of a request. -/
  | confirmar
  /-- The alert of a decision, over the screen of its request. -/
  | alerta
deriving DecidableEq

/-- The application with the approvals screen in front. -/
structure Aprovacoes where
  app : App
  frente : Frente
  /-- The list's last fetch of the requests returned. The program does not keep it. -/
  atualizada : Bool

/-- An event of the application, with those of the approvals screens in their order. -/
inductive Aprovacoes.Event where
  /-- An event of the other screens, an answer, or the entry into the background. -/
  | app (e : App.Event)
  /-- The list is opened anew. -/
  | abrir (fetch : Option (List (ObjectID × Requisicao)))
      (fetchVaga : Option (List (ObjectID × Vaga)))
  /-- The list renders a row. -/
  | render (row : ℕ)
  /-- The user selects a row of the list. -/
  | selecionar (row : ℕ)
  /-- The user approves the open request. -/
  | aprovar (ok : Bool)
  /-- The user rejects the open request. -/
  | rejeitar (ok : Bool)
  /-- The user dismisses the alert, and the list appears again. -/
  | dispensar (fetch : Option (List (ObjectID × Requisicao)))
      (fetchVaga : Option (List (ObjectID × Vaga)))
  /-- The user goes back one screen; if it is the list it appears again. -/
  | voltar (fetch : Option (List (ObjectID × Requisicao)))
      (fetchVaga : Option (List (ObjectID × Vaga)))
  /-- The application is ended and started again. -/
  | reiniciar

namespace Aprovacoes

variable {env : Ambiente}

/-- The application at launch. -/
def inicial : Aprovacoes := ⟨.inicial, .fora, false⟩

/-- An event of the approvals screens from screen `de` to screen `para`; nothing while another
screen is in front. -/
def passa (env : Ambiente) (s : Aprovacoes) (de para : Frente) (e : Confirmacao.Event) :
    Option Aprovacoes :=
  if s.frente = de then
    (s.app.step env (.confirmacao e)).map fun app => { s with app := app, frente := para }
  else some s

/-- The list appears, coming from screen `de`. -/
def aparece (env : Ambiente) (s : Aprovacoes) (de : Frente)
    (fetch : Option (List (ObjectID × Requisicao))) (fetchVaga : Option (List (ObjectID × Vaga))) :
    Option Aprovacoes :=
  if s.frente = de then
    (s.app.step env (.confirmacao (.viewWillAppear fetch fetchVaga))).map fun app =>
      ⟨app, .lista, fetch.isSome⟩
  else some s

/-- The application with a list that is not loaded yet. -/
def novaLista (s : Aprovacoes) : Aprovacoes :=
  { s with app := { s.app with confirmacao := .inicial } }

/-- One event. -/
def step (env : Ambiente) (s : Aprovacoes) : Event → Option Aprovacoes
  | .app (.confirmacao _) => some s
  | .app e => (s.app.step env e).map fun app => { s with app := app }
  | .abrir fetch fetchVaga =>
    if s.frente = .fora then s.novaLista.aparece env .fora fetch fetchVaga else some s
  | .render row => s.passa env .lista .lista (.render row)
  | .selecionar row => s.passa env .lista .confirmar (.selecionar row)
  | .aprovar ok => s.passa env .confirmar .alerta (.aprovar ok)
  | .rejeitar ok => s.passa env .confirmar .alerta (.rejeitar ok)
  | .dispensar fetch fetchVaga => s.aparece env .alerta fetch fetchVaga
  | .voltar fetch fetchVaga =>
    if s.frente = .lista then some { s with frente := .fora }
    else s.aparece env .confirmar fetch fetchVaga
  | .reiniciar => some ⟨{ App.inicial with ctx := .opened s.app.persisted }, .fora, false⟩

/-- The `estado` of a Requisicao on disk. -/
def gravado (s : Aprovacoes) (k : ObjectID) : Option String :=
  estadoDe s.app.persisted.requisicoes k

/-- The `estado` of a Requisicao as the context shows it. -/
def mostrado (s : Aprovacoes) (k : ObjectID) : Option String :=
  estadoDe s.app.view.requisicoes k

/-- A step changes every `estado` on disk by the law. -/
def Legal (env : Ambiente) (s : Aprovacoes) (e : Event) : Prop :=
  ∀ s' ∈ step env s e, ∀ k, Lei (s.gravado k) (s'.gravado k)

/-- A step obeys the law, and so will the next save of any screen. -/
def Resguardada (env : Ambiente) (s : Aprovacoes) (e : Event) : Prop :=
  ∀ s' ∈ step env s e, ∀ k, Lei (s.gravado k) (s'.gravado k) ∧ Lei (s'.gravado k) (s'.mostrado k)

/-- A request may be decided on: it has an `estado` on disk, and if the list's last fetch threw,
there it is pending, or has this decision already. -/
def Decidivel (s : Aprovacoes) (k : ObjectID) (decisao : String) : Prop :=
  s.gravado k ≠ none ∧
    (s.atualizada = false → s.gravado k = some "Pendente" ∨ s.gravado k = some decisao)

/-- The condition on an event: a decision is about a request that may be decided on. -/
def OferecePendentes (s : Aprovacoes) : Event → Prop
  | .aprovar _ => s.frente = .confirmar → ∀ r ∈ s.app.confirmacao.aberta, s.Decidivel r.1 "Aprovado"
  | .rejeitar _ =>
    s.frente = .confirmar → ∀ r ∈ s.app.confirmacao.aberta, s.Decidivel r.1 "Rejeitado"
  | _ => True

instance (s : Aprovacoes) (k : ObjectID) (decisao : String) : Decidable (s.Decidivel k decisao) :=
  inferInstanceAs (Decidable (_ ∧ (_ → _)))

instance (s : Aprovacoes) : ∀ e, Decidable (s.OferecePendentes e)
  | .aprovar _ => inferInstanceAs (Decidable (s.frente = .confirmar →
      ∀ r ∈ s.app.confirmacao.aberta, s.Decidivel r.1 "Aprovado"))
  | .rejeitar _ => inferInstanceAs (Decidable (s.frente = .confirmar →
      ∀ r ∈ s.app.confirmacao.aberta, s.Decidivel r.1 "Rejeitado"))
  | .app _ | .abrir _ _ | .render _ | .selecionar _ | .dispensar _ _ | .voltar _ _ | .reiniciar =>
    .isTrue trivial

end Aprovacoes

/-! ## The Requisicoes in the context and on disk -/

@[simp] lemma lei_refl (estado : Option String) : Lei estado estado := .inl rfl

/-- Only what is absent may be absent afterwards. -/
lemma Lei.eq_none {antes : Option String} (h : Lei antes none) : antes = none := by
  obtain h | ⟨h, -⟩ | ⟨-, h | h⟩ := h
  · exact h.symm
  · exact h
  · cases h
  · cases h

/-- What is decided stays. -/
lemma Lei.eq_of_decidido {antes depois : Option String} (h : Lei antes depois)
    (hd : antes = some "Aprovado" ∨ antes = some "Rejeitado") : depois = antes := by
  obtain h | ⟨rfl, -⟩ | ⟨rfl, -⟩ := h
  · exact h
  · simp at hd
  · simp at hd

/-- The law of a decision: the request is pending, or has the decision already. -/
lemma lei_decisao_iff {antes : Option String} {decisao : String}
    (hd : decisao = "Aprovado" ∨ decisao = "Rejeitado") :
    Lei antes (some decisao) ↔ antes = some "Pendente" ∨ antes = some decisao := by
  constructor
  · rintro (h | ⟨-, h⟩ | ⟨h, -⟩)
    · exact .inr h.symm
    · obtain rfl := Option.some.inj h
      simp at hd
    · exact .inl h
  · rintro (h | h)
    · exact .inr (.inr ⟨h, by simpa using hd⟩)
    · exact .inl h.symm

/-- A Requisicao not inserted yet has no `estado`. -/
lemma estadoDe_next (t : ObjectTable Requisicao) : estadoDe t t.next = none := by
  unfold estadoDe
  cases h : t.get? t.next with
  | none => rfl
  | some r => exact absurd (t.lt_next _ (ObjectTable.get?_eq_some_iff.mp h)) (Nat.lt_irrefl _)

/-- A Requisicao just inserted has no `estado` either. -/
@[simp] lemma estadoDe_insert (t : ObjectTable Requisicao) (k : ObjectID) :
    estadoDe (t.insert .nova) k = estadoDe t k := by
  by_cases hk : k = t.next
  · rw [hk, estadoDe_next, estadoDe, ObjectTable.get?_insert, if_pos rfl]
    rfl
  · rw [estadoDe, ObjectTable.get?_insert, if_neg hk, estadoDe]

/-- An update touches the `estado` of its Requisicao alone. -/
lemma estadoDe_modify_of_ne {t : ObjectTable Requisicao} {j k : ObjectID} (h : k ≠ j)
    (f : Requisicao → Requisicao) : estadoDe (t.modify j f) k = estadoDe t k := by
  unfold estadoDe
  rw [ObjectTable.get?_modify, if_neg h]

/-- An update that sets the `estado` of an object of the table sets it. -/
lemma estadoDe_modify_self {t : ObjectTable Requisicao} {k : ObjectID} {f : Requisicao → Requisicao}
    {estado : String} (hf : ∀ r, (f r).estado = some estado) :
    estadoDe (t.modify k f) k = if (t.get? k).isSome then some estado else none := by
  unfold estadoDe
  rw [ObjectTable.get?_modify, if_pos rfl]
  cases h : t.get? k <;> simp [hf]

/-- What holds of the Requisicoes on disk, in the context and waiting for Firebase: what the
context shows may be saved, and a Requisicao waiting to be filled has no `estado`. -/
structure Nucleo (disco ctx : ObjectTable Requisicao) (consultas : List Consulta) : Prop where
  lei : ∀ k, Lei (estadoDe disco k) (estadoDe ctx k)
  estados : ∀ k, ∀ estado ∈ estadoDe ctx k,
    estado = "Pendente" ∨ estado = "Aprovado" ∨ estado = "Rejeitado"
  vazias : ∀ q ∈ consultas, estadoDe ctx q.objUpdate = none
  inseridas : ∀ q ∈ consultas, q.objUpdate < ctx.next
  distintas : (consultas.map Consulta.objUpdate).Nodup

namespace Nucleo

variable {disco ctx : ObjectTable Requisicao} {consultas : List Consulta}

/-- A save writes what the context shows. -/
lemma salva (h : Nucleo disco ctx consultas) : Nucleo ctx ctx consultas :=
  { h with lei := fun _ => lei_refl _ }

/-- The application starts again from what is on disk. -/
lemma reinicia (h : Nucleo disco ctx consultas) : Nucleo disco disco [] where
  lei _ := lei_refl _
  estados k estado hk := by
    have hlei := h.lei k
    rw [Option.mem_def.mp hk] at hlei
    obtain hl | ⟨hl, -⟩ | ⟨hl, -⟩ := hlei
    · exact h.estados k estado hl
    · cases hl
    · exact .inl (Option.some.inj hl)
  vazias := by simp
  inseridas := by simp
  distintas := by simp

/-- A checkout is confirmed. -/
lemma insere (h : Nucleo disco ctx consultas) (c : Checkout) (userID : String) :
    Nucleo disco (ctx.insert .nova) (consultas ++ [⟨ctx.next, c, userID⟩]) where
  lei k := by simpa using h.lei k
  estados k := by simpa using h.estados k
  vazias q hq := by
    rw [estadoDe_insert]
    rcases List.mem_append.mp hq with hq | hq
    · exact h.vazias q hq
    · obtain rfl := List.mem_singleton.mp hq
      exact estadoDe_next ctx
  inseridas q hq := by
    rcases List.mem_append.mp hq with hq | hq
    · exact Nat.lt_succ_of_lt (h.inseridas q hq)
    · obtain rfl := List.mem_singleton.mp hq
      exact Nat.lt_succ_self _
  distintas := by
    rw [List.map_append, List.nodup_append]
    refine ⟨h.distintas, by simp, ?_⟩
    rintro a ha b hb rfl
    obtain ⟨q, hq, rfl⟩ := List.mem_map.mp ha
    have hlt := h.inseridas q hq
    have heq : q.objUpdate = ctx.next := by simpa using hb
    exact hlt.ne heq

/-- An answer without a dictionary is delivered. -/
lemma outro (h : Nucleo disco ctx consultas) (i : ℕ) :
    Nucleo disco ctx (consultas.eraseIdx i) :=
  have hsub := List.eraseIdx_sublist consultas i
  { h with
    vazias := fun q hq => h.vazias q (hsub.mem hq)
    inseridas := fun q hq => h.inseridas q (hsub.mem hq)
    distintas := h.distintas.sublist (hsub.map _) }

/-- No other query waits for the Requisicao of a query. -/
lemma ne_of_mem_eraseIdx (h : Nucleo disco ctx consultas) {i : ℕ} {q p : Consulta}
    (hq : consultas[i]? = some q) (hp : p ∈ consultas.eraseIdx i) : p.objUpdate ≠ q.objUpdate := by
  obtain ⟨hi, rfl⟩ := List.getElem?_eq_some_iff.mp hq
  have hperm := (List.getElem_cons_eraseIdx_perm hi).map Consulta.objUpdate
  have hnodup := hperm.nodup_iff.mpr h.distintas
  rw [List.map_cons, List.nodup_cons] at hnodup
  intro heq
  exact hnodup.1 (heq ▸ List.mem_map_of_mem hp)

/-- A profile is delivered: the Requisicao becomes pending. -/
lemma preenche (h : Nucleo disco ctx consultas) {i : ℕ} {q : Consulta}
    (hq : consultas[i]? = some q) (firstname : Option String) :
    Nucleo disco (ctx.modify q.objUpdate fun _ =>
      CheckoutVagaViewController.preencher q.checkout firstname) (consultas.eraseIdx i) := by
  have hvazia := h.vazias q (List.mem_of_getElem? hq)
  have hself : estadoDe (ctx.modify q.objUpdate fun _ =>
      CheckoutVagaViewController.preencher q.checkout firstname) q.objUpdate =
      if (ctx.get? q.objUpdate).isSome then some "Pendente" else none :=
    estadoDe_modify_self fun _ => rfl
  have hresto := h.outro i
  refine ⟨fun k => ?_, fun k estado hk => ?_, fun p hp => ?_, hresto.inseridas, hresto.distintas⟩
  · by_cases hkq : k = q.objUpdate
    · have hdisco : estadoDe disco k = none := (hkq ▸ hvazia ▸ h.lei q.objUpdate).eq_none
      rw [hdisco, hkq, hself]
      split_ifs
      · exact .inr (.inl ⟨rfl, rfl⟩)
      · exact lei_refl _
    · rw [estadoDe_modify_of_ne hkq]
      exact h.lei k
  · by_cases hkq : k = q.objUpdate
    · rw [hkq, hself] at hk
      split_ifs at hk <;> cases hk
      exact .inl rfl
    · rw [estadoDe_modify_of_ne hkq] at hk
      exact h.estados k estado hk
  · rw [estadoDe_modify_of_ne (h.ne_of_mem_eraseIdx hq hp)]
    exact hresto.vazias p hp

/-- The owner decides, as the law allows. -/
lemma decide (h : Nucleo disco ctx consultas) {k : ObjectID} {decisao : String}
    (hd : decisao = "Aprovado" ∨ decisao = "Rejeitado")
    (hlei : Lei (estadoDe disco k) (some decisao)) :
    Nucleo disco (ctx.modify k fun r => { r with estado := some decisao }) consultas := by
  have hself : estadoDe (ctx.modify k fun r => { r with estado := some decisao }) k =
      if (ctx.get? k).isSome then some decisao else none :=
    estadoDe_modify_self fun _ => rfl
  -- what has an `estado` on disk has one in the context, and waits for nothing
  have hctx : estadoDe ctx k ≠ none := by
    intro hnone
    have hdisco := (hnone ▸ h.lei k).eq_none
    rw [hdisco, lei_decisao_iff hd] at hlei
    simp at hlei
  refine ⟨fun j => ?_, fun j estado hj => ?_, fun q hq => ?_, h.inseridas, h.distintas⟩
  · by_cases hjk : j = k
    · have hsome : (ctx.get? k).isSome := by
        cases hk : ctx.get? k with
        | none => exact absurd (by simp [estadoDe, hk]) hctx
        | some r => rfl
      rw [hjk, hself, if_pos hsome]
      exact hlei
    · rw [estadoDe_modify_of_ne hjk]
      exact h.lei j
  · by_cases hjk : j = k
    · rw [hjk, hself] at hj
      split_ifs at hj <;> cases hj
      exact .inr hd
    · rw [estadoDe_modify_of_ne hjk] at hj
      exact h.estados j estado hj
  · have hqk : q.objUpdate ≠ k := fun heq => hctx (heq ▸ h.vazias q hq)
    rw [estadoDe_modify_of_ne hqk]
    exact h.vazias q hq

end Nucleo

namespace App

variable {env : Ambiente}

/-! ### An event of the application -/

/-- Only a decision sets an `estado` alone. -/
lemma Efeito.setEstado_notMem {s : App} {e : Event} {w : Write Change} {p : Pedido}
    (h : Efeito s e w p) (he : e.decisao = false) (k : ObjectID) (estado : String) :
    Change.setEstado k estado ∉ w.changes := by
  cases h with
  | alheio hne hw hc hent => exact fun hk => hw _ hk rfl
  | decide k estado ok hdec _ => simp [he] at hdec
  | pedido h => cases h <;> simp [Write.none]

/-- An event keeps what holds of the Requisicoes, if the law allows its decision. -/
lemma Efeito.nucleo {s : App} {e : Event} {w : Write Change} {p : Pedido}
    {disco : ObjectTable Requisicao} (h : Efeito s e w p)
    (hn : Nucleo disco s.view.requisicoes s.pedido.consultas)
    (hdec : ∀ k decisao, .setEstado k decisao ∈ w.changes →
      (decisao = "Aprovado" ∨ decisao = "Rejeitado") ∧ Lei (estadoDe disco k) (some decisao)) :
    Nucleo disco (applyAll w.changes s.view).requisicoes p.consultas := by
  cases h with
  | alheio hne hw hc hent =>
    rw [requisicoes_applyAll hw, hc]
    exact hn
  | decide k decisao ok hd _ =>
    obtain ⟨hdecisao, hlei⟩ := hdec k decisao (by simp)
    exact hn.decide hdecisao hlei
  | pedido h =>
    cases h with
    | nada hf hc hent =>
      rw [hc]
      exact hn
    | confirma userID hc hp hent =>
      rw [hp]
      exact hn.insere _ userID
    | outro ok hq hc hent =>
      rw [hc]
      exact hn.outro _
    | preenche firstname ok hq hc hent =>
      rw [hc]
      exact hn.preenche hq firstname

/-- A Requisicao of the context stays there. -/
lemma Efeito.presente {s : App} {e : Event} {w : Write Change} {p : Pedido}
    (h : Efeito s e w p) {k : ObjectID} (hk : (s.view.requisicoes.get? k).isSome) :
    ((applyAll w.changes s.view).requisicoes.get? k).isSome := by
  have hw := h.escrita
  revert hw
  generalize (applyAll w.changes s.view).requisicoes = t
  intro hw
  cases hw with
  | alheia hw => exact hk
  | insere =>
    rw [ObjectTable.get?_insert]
    split_ifs
    · rfl
    · exact hk
  | decide j estado ok =>
    rw [ObjectTable.get?_modify]
    split_ifs
    · simpa using hk
    · exact hk
  | preenche hq firstname ok =>
    rw [ObjectTable.get?_modify]
    split_ifs
    · simpa using hk
    · exact hk

/-- A pending Requisicao stays pending until a decision. -/
lemma Efeito.pendente {s : App} {e : Event} {w : Write Change} {p : Pedido}
    {disco : ObjectTable Requisicao} (h : Efeito s e w p) (he : e.decisao = false)
    (hn : Nucleo disco s.view.requisicoes s.pedido.consultas) {k : ObjectID}
    (hk : estadoDe s.view.requisicoes k = some "Pendente") :
    estadoDe (applyAll w.changes s.view).requisicoes k = some "Pendente" := by
  cases h with
  | alheio hne hw hc hent =>
    rw [requisicoes_applyAll hw]
    exact hk
  | decide j estado ok hdec _ => simp [he] at hdec
  | pedido h =>
    cases h with
    | nada hf hc hent => exact hk
    | confirma userID hc hp hent =>
      show estadoDe (s.view.requisicoes.insert .nova) k = _
      rw [estadoDe_insert, hk]
    | outro ok hq hc hent => exact hk
    | @preenche i q p' firstname ok hq hc hent =>
      -- the Requisicao filled had no `estado`
      have hvazia := hn.vazias q (List.mem_of_getElem? hq)
      have hkq : k ≠ q.objUpdate := by
        rintro rfl
        simp [hvazia] at hk
      show estadoDe (s.view.requisicoes.modify q.objUpdate _) k = _
      rw [estadoDe_modify_of_ne hkq, hk]

/-- An event whose decision the law allows keeps what holds of the Requisicoes, and obeys the law
on disk. -/
lemma nucleo_step {s s' : App} {e : Event}
    (hn : Nucleo s.persisted.requisicoes s.view.requisicoes s.pedido.consultas)
    (h : s.step env e = some s')
    (hdec : ∀ w t, s.opera env e = some (w, t) → ∀ k decisao, .setEstado k decisao ∈ w.changes →
      (decisao = "Aprovado" ∨ decisao = "Rejeitado") ∧
        Lei (estadoDe s.persisted.requisicoes k) (some decisao)) :
    Nucleo s'.persisted.requisicoes s'.view.requisicoes s'.pedido.consultas ∧
      ∀ k, Lei (estadoDe s.persisted.requisicoes k) (estadoDe s'.persisted.requisicoes k) := by
  obtain ⟨w, t, ht, rfl⟩ := step_eq_some_iff.mp h
  have hn' := (efeito_of_opera ht).nucleo hn (hdec w t ht)
  rw [view_exec, persisted_exec]
  by_cases hw : w.Saves
  · rw [if_pos hw]
    exact ⟨hn'.salva, hn'.lei⟩
  · rw [if_neg hw]
    exact ⟨hn', fun _ => lei_refl _⟩

/-- The other screens leave the approvals screens alone. -/
lemma confirmacao_of_opera {s t : App} {e : Event} {w : Write Change}
    (he : ∀ e', e ≠ .confirmacao e') (h : s.opera env e = some (w, t)) :
    t.confirmacao = s.confirmacao := by
  cases e with
  | confirmacao e => exact absurd rfl (he e)
  | _ =>
    obtain ⟨r, hr, h⟩ := Option.map_eq_some_iff.mp h
    cases h
    rfl

/-- A Requisicao of the context stays there after any step. -/
lemma presente_of_step {s s' : App} {e : Event} (h : s.step env e = some s') {k : ObjectID}
    (hk : (s.view.requisicoes.get? k).isSome) : (s'.view.requisicoes.get? k).isSome := by
  obtain ⟨w, t, ht, rfl⟩ := step_eq_some_iff.mp h
  rw [view_exec]
  exact (efeito_of_opera ht).presente hk

/-- What the other screens leave of the approvals screens and of the pending Requisicoes. -/
lemma step_of_ne_confirmacao {s s' : App} {e : Event} (he : ∀ e', e ≠ .confirmacao e')
    (hn : Nucleo s.persisted.requisicoes s.view.requisicoes s.pedido.consultas)
    (h : s.step env e = some s') :
    s'.confirmacao = s.confirmacao ∧ ∀ k, estadoDe s.view.requisicoes k = some "Pendente" →
      estadoDe s'.view.requisicoes k = some "Pendente" := by
  have hdec : e.decisao = false := by
    cases e with
    | confirmacao e => exact absurd rfl (he e)
    | _ => rfl
  obtain ⟨w, t, ht, rfl⟩ := step_eq_some_iff.mp h
  have hef := efeito_of_opera ht
  have hc := confirmacao_of_opera he ht
  rw [view_exec]
  exact ⟨hc, fun _ => hef.pendente hdec hn⟩

end App

/-! ## The list -/

/-- A rendering leaves the requests of the list. -/
lemma ListaConfirmacoes.requisicoes_render {l l' : ListaConfirmacoes} {row : ℕ}
    (h : l.render row = some l') : l'.requisicoes = l.requisicoes := by
  unfold render at h
  obtain ⟨⟨cell, l₁⟩, h, rfl⟩ := Option.map_eq_some_iff.mp h
  unfold cellForRowAt at h
  repeat' split at h
  all_goals cases h
  all_goals rfl

/-- The fetch of the requests returns pending ones. -/
lemma ListaConfirmacoes.pendente_of_fetch {view : Store} {disco : ObjectTable Requisicao}
    {consultas : List Consulta} (hn : Nucleo disco view.requisicoes consultas)
    {l : ListaConfirmacoes} {ordem : List (ObjectID × Requisicao)}
    {fetchVaga : Option (List (ObjectID × Vaga))} {r : ObjectID × Requisicao}
    (hr : r ∈ (l.viewWillAppear view (some ordem) fetchVaga).requisicoes) :
    estadoDe view.requisicoes r.1 = some "Pendente" := by
  have hr' : r ∈ (view.requisicoes.fetch ordem).rows.filter fun r =>
      (r.2.estado.map contemPendente).getD false := by
    cases fetchVaga <;> exact hr
  obtain ⟨hmem, hpred⟩ := List.mem_filter.mp hr'
  have hget : view.requisicoes.get? r.1 = some r.2 :=
    ObjectTable.get?_eq_some_iff.mpr (ObjectTable.mem_fetch.mp hmem)
  have hestado : estadoDe view.requisicoes r.1 = r.2.estado := by simp [estadoDe, hget]
  rw [hestado]
  cases he : r.2.estado with
  | none => simp [he] at hpred
  | some estado =>
    have hcontem : contemPendente estado = true := by simpa [he] using hpred
    -- neither decision contains the word
    obtain rfl | rfl | rfl := hn.estados r.1 estado (hestado.trans he)
    · rfl
    · exact absurd hcontem (by decide +kernel)
    · exact absurd hcontem (by decide +kernel)

/-- A Requisicao with an `estado` is in its table. -/
lemma presente_of_estadoDe {t : ObjectTable Requisicao} {k : ObjectID} {estado : String}
    (h : estadoDe t k = some estado) : (t.get? k).isSome := by
  obtain ⟨r, hr, -⟩ := Option.bind_eq_some_iff.mp h
  simp [hr]

/-- An event of the approvals screens in the application. -/
lemma App.step_confirmacao {env : Ambiente} {s s' : App} {e : Confirmacao.Event}
    (h : s.step env (.confirmacao e) = some s') :
    ∃ w c, s.confirmacao.step s.view e = some (w, c) ∧
      s' = { s with confirmacao := c, ctx := s.ctx.exec w } := by
  obtain ⟨w, t, ht, rfl⟩ := App.step_eq_some_iff.mp h
  obtain ⟨⟨w', c⟩, hc, h⟩ := Option.map_eq_some_iff.mp ht
  cases h
  exact ⟨w', c, hc, rfl⟩

namespace Aprovacoes

variable {env : Ambiente}

/-! ## The invariant -/

/-- What holds in every run: what the list and the open screen show is in the context, and is
pending there while the list's last fetch returned. -/
structure Regular (s : Aprovacoes) : Prop where
  nucleo : Nucleo s.app.persisted.requisicoes s.app.view.requisicoes s.app.pedido.consultas
  listadas : ∀ r ∈ s.app.confirmacao.lista.requisicoes, (s.app.view.requisicoes.get? r.1).isSome
  presente : ∀ r ∈ s.app.confirmacao.aberta, (s.app.view.requisicoes.get? r.1).isSome
  lista : s.frente = .lista → s.atualizada = true →
    ∀ r ∈ s.app.confirmacao.lista.requisicoes, s.mostrado r.1 = some "Pendente"
  aberta : s.frente = .confirmar → s.atualizada = true →
    ∀ r ∈ s.app.confirmacao.aberta, s.mostrado r.1 = some "Pendente"

lemma regular_inicial : inicial.Regular where
  nucleo :=
    ⟨fun _ => lei_refl _, by simp [inicial, App.inicial, App.view, Store.empty, estadoDe,
      ObjectTable.get?, ObjectTable.empty], by simp [inicial, App.inicial, Pedido.inicial],
      by simp [inicial, App.inicial, Pedido.inicial],
      by simp [inicial, App.inicial, Pedido.inicial]⟩
  listadas := by simp [inicial, App.inicial, Confirmacao.inicial]
  presente := by simp [inicial, App.inicial, Confirmacao.inicial]
  lista := by simp [inicial]
  aberta := by simp [inicial]

/-- The list appears. -/
lemma Regular.aparece {s s' : Aprovacoes} {de : Frente}
    {fetch : Option (List (ObjectID × Requisicao))} {fetchVaga : Option (List (ObjectID × Vaga))}
    (hs : s.Regular) (h : s.aparece env de fetch fetchVaga = some s') :
    s'.Regular ∧ s'.app.persisted = s.app.persisted := by
  unfold Aprovacoes.aparece at h
  split_ifs at h with hde
  · obtain ⟨app, hr, rfl⟩ := Option.map_eq_some_iff.mp h
    obtain ⟨w, c, hc, rfl⟩ := App.step_confirmacao hr
    cases hc
    rw [ManagedContext.exec_none]
    cases fetch with
    | none =>
      refine ⟨⟨hs.nucleo, hs.listadas, hs.presente, ?_, ?_⟩, rfl⟩
      · exact fun _ hat => absurd hat (by simp)
      · exact fun hf => absurd hf (by simp)
    | some ordem =>
      have hpend : ∀ r ∈ (s.app.confirmacao.lista.viewWillAppear s.app.view (some ordem)
          fetchVaga).requisicoes, estadoDe s.app.view.requisicoes r.1 = some "Pendente" :=
        fun r hr => ListaConfirmacoes.pendente_of_fetch hs.nucleo hr
      refine ⟨⟨hs.nucleo, fun r hr => ?_, hs.presente, fun _ _ => hpend, ?_⟩, rfl⟩
      · exact presente_of_estadoDe (hpend r hr)
      · exact fun hf => absurd hf (by simp)
  · obtain rfl := Option.some.inj h
    exact ⟨hs, rfl⟩

/-- The other screens, the answers and the entry into the background. -/
lemma Regular.app {s : Aprovacoes} {app : App} {e : App.Event} (hs : s.Regular)
    (he : ∀ e', e ≠ .confirmacao e') (h : s.app.step env e = some app) :
    Regular { s with app := app } ∧
      ∀ k, Lei (s.gravado k) (estadoDe app.persisted.requisicoes k) := by
  have hdec : e.decisao = false := by
    cases e with
    | confirmacao e' => exact absurd rfl (he e')
    | _ => rfl
  obtain ⟨hn, hlei⟩ := App.nucleo_step hs.nucleo h fun w t ht k d hk =>
    absurd hk ((App.efeito_of_opera ht).setEstado_notMem hdec k d)
  obtain ⟨hconf, hpend⟩ := App.step_of_ne_confirmacao he hs.nucleo h
  have hpresente := fun k => App.presente_of_step h (k := k)
  refine ⟨⟨hn, fun r hr => ?_, fun r hr => ?_, fun hf hat r hr => ?_, fun hf hat r hr => ?_⟩, hlei⟩
  · rw [hconf] at hr
    exact hpresente r.1 (hs.listadas r hr)
  · rw [hconf] at hr
    exact hpresente r.1 (hs.presente r hr)
  · rw [hconf] at hr
    exact hpend r.1 (hs.lista hf hat r hr)
  · rw [hconf] at hr
    exact hpend r.1 (hs.aberta hf hat r hr)

/-- A rendering, or the selection of a row. -/
lemma Regular.passa {s s' : Aprovacoes} {para : Frente} {e : Confirmacao.Event}
    (hs : s.Regular) (h : s.passa env .lista para e = some s')
    (he : ∀ w c, s.app.confirmacao.step s.app.view e = some (w, c) → w = .none ∧
      c.lista.requisicoes = s.app.confirmacao.lista.requisicoes ∧
      (c.aberta = s.app.confirmacao.aberta ∧ para = .lista ∨
        ∃ r v, r ∈ s.app.confirmacao.lista.requisicoes ∧ c.aberta = some (r.1, v))) :
    s'.Regular ∧ s'.app.persisted = s.app.persisted := by
  unfold Aprovacoes.passa at h
  split_ifs at h with hf
  · obtain ⟨app, hr, rfl⟩ := Option.map_eq_some_iff.mp h
    obtain ⟨w, c, hc, rfl⟩ := App.step_confirmacao hr
    obtain ⟨rfl, hlista, haberta⟩ := he w c hc
    rw [ManagedContext.exec_none]
    refine ⟨⟨hs.nucleo, ?_, ?_, ?_, ?_⟩, rfl⟩
    · dsimp only
      rw [hlista]
      exact hs.listadas
    · dsimp only
      obtain ⟨ha, -⟩ | ⟨r, v, hr, ha⟩ := haberta
      · rw [ha]
        exact hs.presente
      · rw [ha]
        rintro _ ⟨⟩
        exact hs.listadas r hr
    · intro _ hat
      dsimp only
      rw [hlista]
      exact hs.lista hf hat
    · intro hpara hat
      dsimp only at hpara ⊢
      obtain ⟨-, hl⟩ | ⟨r, v, hr, ha⟩ := haberta
      · exact absurd (hpara.symm.trans hl) (by decide)
      · -- the open request is the one of the row
        rw [ha]
        rintro _ ⟨⟩
        exact hs.lista hf hat r hr
  · obtain rfl := Option.some.inj h
    exact ⟨hs, rfl⟩

/-- A request may be decided on exactly where the law allows the decision. -/
lemma Regular.decidivel_iff {s : Aprovacoes} (hs : s.Regular) (hf : s.frente = .confirmar)
    {r : ObjectID × ObjectID} (hr : r ∈ s.app.confirmacao.aberta) {decisao : String}
    (hd : decisao = "Aprovado" ∨ decisao = "Rejeitado") :
    s.Decidivel r.1 decisao ↔ Lei (s.gravado r.1) (some decisao) := by
  rw [lei_decisao_iff hd]
  constructor
  · rintro ⟨hgravado, hthrew⟩
    cases hat : s.atualizada with
    | false => exact hthrew hat
    | true =>
      -- the context shows it pending, and on disk it is not absent
      have hmostrado : s.mostrado r.1 = some "Pendente" := hs.aberta hf hat r hr
      have hlei : Lei (s.gravado r.1) (s.mostrado r.1) := hs.nucleo.lei r.1
      rw [hmostrado] at hlei
      obtain h | ⟨h, -⟩ | ⟨h, -⟩ := hlei
      · exact .inl h.symm
      · exact absurd h hgravado
      · exact .inl h
  · intro h
    refine ⟨?_, fun _ => h⟩
    obtain h | h := h <;> simp [h]

/-- A decision that the condition allows. -/
lemma Regular.decisao {s s' : Aprovacoes} {e : Confirmacao.Event} {alerta : Alerta}
    {decisao : String} {ok : Bool} (hs : s.Regular)
    (hd : decisao = "Aprovado" ∨ decisao = "Rejeitado")
    (he : s.app.confirmacao.step s.app.view e =
      some (ConfirmarVagaViewController.save (s.app.confirmacao.aberta.map Prod.fst) decisao ok,
        { s.app.confirmacao with alerta := some alerta }))
    (hcond : s.frente = .confirmar → ∀ r ∈ s.app.confirmacao.aberta, s.Decidivel r.1 decisao)
    (h : s.passa env .confirmar .alerta e = some s') :
    s'.Regular ∧ ∀ k, Lei (s.gravado k) (s'.gravado k) := by
  unfold Aprovacoes.passa at h
  split_ifs at h with hf
  · obtain ⟨app, hr, rfl⟩ := Option.map_eq_some_iff.mp h
    obtain ⟨hn, hlei⟩ := App.nucleo_step hs.nucleo hr <| by
      intro w t ht k d hk
      obtain ⟨⟨w', c⟩, hc, ht⟩ := Option.map_eq_some_iff.mp ht
      cases ht
      obtain ⟨rfl, -⟩ := Prod.mk.inj (Option.some.inj (he.symm.trans hc))
      cases ha : s.app.confirmacao.aberta with
      | none => simp [ha, ConfirmarVagaViewController.save] at hk
      | some r =>
        obtain ⟨rfl, rfl⟩ : k = r.1 ∧ d = decisao := by
          simpa [ha, ConfirmarVagaViewController.save] using hk
        exact ⟨hd, (hs.decidivel_iff hf ha hd).mp (hcond hf r ha)⟩
    have hpresente := fun k => App.presente_of_step hr (k := k)
    obtain ⟨w, c, hc, rfl⟩ := App.step_confirmacao hr
    obtain ⟨-, rfl⟩ := Prod.mk.inj (Option.some.inj (he.symm.trans hc))
    refine ⟨⟨hn, fun r hr => ?_, fun r hr => ?_, ?_, ?_⟩, hlei⟩
    · exact hpresente r.1 (hs.listadas r hr)
    · exact hpresente r.1 (hs.presente r hr)
    · exact fun hf => absurd hf (by simp)
    · exact fun hf => absurd hf (by simp)
  · obtain rfl := Option.some.inj h
    exact ⟨hs, fun _ => lei_refl _⟩

/-- The list renders a row. -/
lemma Regular.render {s s' : Aprovacoes} {row : ℕ} (hs : s.Regular)
    (h : s.passa env .lista .lista (.render row) = some s') :
    s'.Regular ∧ s'.app.persisted = s.app.persisted := by
  refine hs.passa h fun w c hc => ?_
  simp only [Confirmacao.step] at hc
  split at hc
  · cases hc
  next l hl =>
    cases hc
    exact ⟨rfl, ListaConfirmacoes.requisicoes_render hl, .inl ⟨rfl, rfl⟩⟩

/-- A row of the list is selected. -/
lemma Regular.selecionar {s s' : Aprovacoes} {row : ℕ} (hs : s.Regular)
    (h : s.passa env .lista .confirmar (.selecionar row) = some s') :
    s'.Regular ∧ s'.app.persisted = s.app.persisted := by
  refine hs.passa h fun w c hc => ?_
  simp only [Confirmacao.step] at hc
  split at hc
  · cases hc
  next r v hprep =>
    split at hc
    · cases hc
    · cases hc
      refine ⟨rfl, rfl, .inr ⟨r, v.1, ?_, rfl⟩⟩
      unfold ListaConfirmacoes.prepare at hprep
      split at hprep <;> cases hprep
      next hr _ => exact List.mem_of_getElem? hr

/-- What the steps that write nothing on disk leave of the law. -/
lemma lei_of_persisted {s s' : Aprovacoes} (h : s'.app.persisted = s.app.persisted) (k : ObjectID) :
    Lei (s.gravado k) (s'.gravado k) := by
  unfold gravado
  rw [h]
  exact lei_refl _

/-- A step that meets the condition keeps the invariant and obeys the law.

**Proof sketch.** The events of the other screens, and the answers, insert a Requisicao or fill one
that has no `estado`. The list appears with the pending requests if its fetch returns, the selected
request is one of them, and a decision is allowed by `Regular.decidivel_iff`. -/
theorem Regular.step {s s' : Aprovacoes} {e : Event} (hs : s.Regular) (hc : s.OferecePendentes e)
    (h : s.step env e = some s') : s'.Regular ∧ ∀ k, Lei (s.gravado k) (s'.gravado k) := by
  cases e with
  | app e =>
    by_cases he : ∃ e', e = .confirmacao e'
    · obtain ⟨e', rfl⟩ := he
      obtain rfl := Option.some.inj h
      exact ⟨hs, fun _ => lei_refl _⟩
    · have hne : ∀ e', e ≠ .confirmacao e' := fun e' heq => he ⟨e', heq⟩
      have hstep : (s.app.step env e).map (fun app => { s with app := app }) = some s' := by
        cases e with
        | confirmacao e' => exact absurd rfl (hne e')
        | _ => exact h
      obtain ⟨app, hr, rfl⟩ := Option.map_eq_some_iff.mp hstep
      exact hs.app hne hr
  | abrir fetch fetchVaga =>
    simp only [Aprovacoes.step] at h
    split_ifs at h with hf
    · have hnova : s.novaLista.Regular := by
        refine ⟨hs.nucleo, ?_, ?_, ?_, ?_⟩
        · simp [novaLista, Confirmacao.inicial]
        · simp [novaLista, Confirmacao.inicial]
        · exact fun hl => absurd (hf.symm.trans hl) (by decide)
        · exact fun hl => absurd (hf.symm.trans hl) (by decide)
      obtain ⟨hr, hp⟩ := hnova.aparece h
      exact ⟨hr, lei_of_persisted hp⟩
    · obtain rfl := Option.some.inj h
      exact ⟨hs, fun _ => lei_refl _⟩
  | render row =>
    obtain ⟨hr, hp⟩ := hs.render h
    exact ⟨hr, lei_of_persisted hp⟩
  | selecionar row =>
    obtain ⟨hr, hp⟩ := hs.selecionar h
    exact ⟨hr, lei_of_persisted hp⟩
  | aprovar ok => exact hs.decisao (.inl rfl) rfl hc h
  | rejeitar ok => exact hs.decisao (.inr rfl) rfl hc h
  | dispensar fetch fetchVaga =>
    obtain ⟨hr, hp⟩ := hs.aparece h
    exact ⟨hr, lei_of_persisted hp⟩
  | voltar fetch fetchVaga =>
    simp only [Aprovacoes.step] at h
    split_ifs at h
    · obtain rfl := Option.some.inj h
      refine ⟨⟨hs.nucleo, hs.listadas, hs.presente, ?_, ?_⟩, fun _ => lei_refl _⟩
      · exact fun hf => absurd hf (by simp)
      · exact fun hf => absurd hf (by simp)
    · obtain ⟨hr, hp⟩ := hs.aparece h
      exact ⟨hr, lei_of_persisted hp⟩
  | reiniciar =>
    obtain rfl := Option.some.inj h
    refine ⟨⟨?_, ?_, ?_, ?_, ?_⟩, fun _ => lei_refl _⟩
    · exact hs.nucleo.reinicia
    · simp [App.inicial, Confirmacao.inicial]
    · simp [App.inicial, Confirmacao.inicial]
    · exact fun hf => absurd hf (by simp)
    · exact fun hf => absurd hf (by simp)

/-! ## Whole runs -/

/-- **The life of a request.** In a run from launch in which each request decided on has an
`estado` on disk and, if the list's last fetch threw, is pending there or has the same decision,
every step changes the `estado` of each Requisicao on disk by the law, and a Requisicao decided on
disk never changes again.

**Proof sketch.** `Regular` is kept by every step that meets the condition, and so is, next to it,
an `estado` that the law does not change. -/
theorem lei_of_oferecePendentes (env : Ambiente) (es : List Event)
    (h : Runs.Meets (step env) OferecePendentes es inicial) :
    Runs.Meets (step env) (Legal env) es inicial ∧
      ∀ es₁ es₂ s₁ s₂ k, es = es₁ ++ es₂ → Runs.run (step env) es₁ inicial = some s₁ →
        Runs.run (step env) es₂ s₁ = some s₂ →
        (s₁.gravado k = some "Aprovado" ∨ s₁.gravado k = some "Rejeitado") →
        s₂.gravado k = s₁.gravado k := by
  constructor
  · refine h.imp (J := Regular) (fun s e s' hs hc h => (hs.step hc h).1) ?_ regular_inicial
    rintro s e s' hs h hc t ht k
    exact (hs.step hc ht).2 k
  · rintro es₁ es₂ s₁ s₂ k rfl h₁ h₂ hk
    obtain ⟨hantes, hdepois⟩ := Runs.meets_append.mp h
    have hregular : s₁.Regular :=
      Runs.run_of_meets (fun _ _ _ hs hc h => (hs.step hc h).1) regular_inicial hantes h₁
    have hfim : s₂.Regular ∧ s₂.gravado k = s₁.gravado k :=
      Runs.run_of_meets (P := fun s => s.Regular ∧ s.gravado k = s₁.gravado k)
        (fun s e s' hs hc h => by
          obtain ⟨hr, hlei⟩ := hs.1.step hc h
          refine ⟨hr, ?_⟩
          rw [← hs.2] at hk ⊢
          exact (hlei k).eq_of_decidido hk)
        ⟨hregular, rfl⟩ (hdepois s₁ h₁) h₂
    exact hfim.2

/-- A decision after which the law holds on disk, and for the next save, was allowed. -/
lemma Regular.decidivel_of_lei {s s' : Aprovacoes} {e : Confirmacao.Event} {alerta : Alerta}
    {decisao : String} {ok : Bool} (hs : s.Regular)
    (hd : decisao = "Aprovado" ∨ decisao = "Rejeitado")
    (he : s.app.confirmacao.step s.app.view e =
      some (ConfirmarVagaViewController.save (s.app.confirmacao.aberta.map Prod.fst) decisao ok,
        { s.app.confirmacao with alerta := some alerta }))
    (h : s.passa env .confirmar .alerta e = some s')
    (hlei : ∀ k, Lei (s.gravado k) (s'.gravado k) ∧ Lei (s'.gravado k) (s'.mostrado k)) :
    s.frente = .confirmar → ∀ r ∈ s.app.confirmacao.aberta, s.Decidivel r.1 decisao := by
  intro hf r hr
  rw [hs.decidivel_iff hf hr hd]
  unfold Aprovacoes.passa at h
  rw [if_pos hf] at h
  obtain ⟨app, happ, rfl⟩ := Option.map_eq_some_iff.mp h
  obtain ⟨w, t, ht, rfl⟩ := App.step_eq_some_iff.mp happ
  have hw : w = ConfirmarVagaViewController.save (s.app.confirmacao.aberta.map Prod.fst) decisao
      ok := by
    obtain ⟨⟨w', c⟩, hc, ht⟩ := Option.map_eq_some_iff.mp ht
    cases ht
    exact (Prod.mk.inj (Option.some.inj (he.symm.trans hc))).1.symm
  -- the context shows the decision, and the disk does if it was saved
  have hview : estadoDe (applyAll w.changes s.app.view).requisicoes r.1 = some decisao := by
    rw [hw, Option.mem_def.mp hr]
    show estadoDe (s.app.view.requisicoes.modify r.1 _) r.1 = _
    rw [estadoDe_modify_self fun _ => rfl, if_pos (hs.presente r hr)]
  obtain ⟨hgravado, hmostrado⟩ := hlei r.1
  simp only [gravado, mostrado] at hgravado hmostrado
  rw [App.view_exec, hview] at hmostrado
  rw [App.persisted_exec] at hgravado hmostrado
  split_ifs at hgravado hmostrado
  · rw [hview] at hgravado
    exact hgravado
  · exact hmostrado

/-- **The condition is exact.** In a run from launch every step obeys the law and leaves nothing in
the context that the next save would write against it, if and only if every decision of the run
meets the condition.

**Proof sketch.** Only a decision can break the law (`Regular.step`), and one after which it holds
was allowed (`Regular.decidivel_of_lei`). -/
theorem resguardada_iff_oferecePendentes (env : Ambiente) (es : List Event) :
    Runs.Meets (step env) (Resguardada env) es inicial ↔
      Runs.Meets (step env) OferecePendentes es inicial := by
  refine Runs.meets_congr (J := Regular) (fun s e s' hs hc h => (hs.step hc h).1) ?_
    regular_inicial
  intro s e s' hs h
  constructor
  · intro hres
    cases e with
    | aprovar ok => exact hs.decidivel_of_lei (.inl rfl) rfl h (hres s' h)
    | rejeitar ok => exact hs.decidivel_of_lei (.inr rfl) rfl h (hres s' h)
    | _ => trivial
  · intro hc t ht k
    obtain rfl : s' = t := Option.some.inj (h.symm.trans ht)
    obtain ⟨hr, hlei⟩ := hs.step hc h
    exact ⟨hlei k, hr.nucleo.lei k⟩

/-- The driver requests the garage and Firebase answers. -/
def pedida : List Event :=
  (App.oferta ++ App.cadastro ++ App.escolha ++ App.solicitacao ++
    [App.Event.pedido (.firebase 0 (.dicionario (some "Ana")) true)]).map .app

/-- The owner opens the list and the request. -/
def aberta : List Event := [.abrir (some []) (some []), .render 0, .selecionar 0]

/-- The owner approves the request, and starts the application again. -/
theorem lei_aprovada :
    Runs.Meets (step Home.ambiente) (Legal Home.ambiente)
      (pedida ++ aberta ++ [.aprovar true, .dispensar (some []) none, .reiniciar]) inicial :=
  (lei_of_oferecePendentes Home.ambiente _ (by decide +kernel)).1

/-- The list's fetch throws after an approval, and the owner selects the request again and rejects
it. -/
theorem not_legal_rejeitada :
    ¬ ∀ (env : Ambiente) (es : List Event), Runs.Meets (step env) (Legal env) es inicial := by
  intro h
  have hrun := (h Home.ambiente (pedida ++ aberta ++
      [.aprovar true, .dispensar none none, .selecionar 0, .rejeitar true])).imp
    (J := fun _ => True) (D := fun s e => ∀ s' ∈ step Home.ambiente s e,
      Lei (s.gravado 0) (s'.gravado 0))
    (fun _ _ _ _ _ _ => trivial) (fun s e s' _ _ hlegal t ht => hlegal t ht 0) trivial
  exact absurd hrun (by decide +kernel)

end Aprovacoes

end Parken
