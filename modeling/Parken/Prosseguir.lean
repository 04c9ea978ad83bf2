import Parken.Requisicoes

set_option relaxedAutoImplicit false
set_option autoImplicit false

/-!
# The way from the request form to the checkout

`Prosseguir para Pagamento` has an action, which checks the form and shows an alert, and a
segue, which opens the checkout. Neither waits for the other, so the check holds nothing back.

## Main definitions

* `Parken.Checkout.Valido`, `Parken.Requisicao.Valida` — what the check asks of the form.
* `Parken.App.Validas` — every checkout reached and every Requisicao filled is valid.
* `Parken.App.ProssegueValido` — the condition on a press.

## Main results

* `Parken.App.validas_iff_prossegueValido` — the checkouts are valid exactly in the runs where
  the button is pressed only over a form that passes the check.
-/

namespace Parken

open Edit

/-- The checkout has a brand, a model, a plate and at least one hour. -/
structure Checkout.Valido (c : Checkout) : Prop where
  marca : ∃ marca, c.marca = some marca ∧ marca ≠ ""
  modelo : ∃ modelo, c.modelo = some modelo ∧ modelo ≠ ""
  placa : ∃ placa, c.placa = some placa ∧ placa ≠ ""
  qtdHoras : ∃ horas, c.qtdHoras = some horas ∧ horas.AtLeast 1

/-- The Requisicao has the brand and the model of a car, a plate and at least one hour. -/
structure Requisicao.Valida (r : Requisicao) : Prop where
  veiculo : ∃ marca modelo : String, marca ≠ "" ∧ modelo ≠ "" ∧
    r.veiculo = some s!"{marca} {modelo}"
  placa : ∃ placa, r.placa = some placa ∧ placa ≠ ""
  qtdHoras : ∃ horas, r.qtdHoras = some horas ∧ horas.AtLeast 1

/-- A valid checkout fills its Requisicao with valid attributes. -/
lemma Checkout.Valido.preencher {c : Checkout} (h : c.Valido) (firstname : Option String) :
    (CheckoutVagaViewController.preencher c firstname).Valida := by
  obtain ⟨marca, hma, hma'⟩ := h.marca
  obtain ⟨modelo, hmo, hmo'⟩ := h.modelo
  exact ⟨⟨marca, modelo, hma', hmo', by simp [CheckoutVagaViewController.preencher, hma, hmo]⟩,
    h.placa, h.qtdHoras⟩

/-- With the hours of the stepper, the segue hands over a valid checkout exactly when the action
finds nothing to complain about. -/
lemma RequestViewController.valido_prepare_iff {r : Request} (h : r.qtdHora = .ofNat r.stepHoras) :
    (prepare r).Valido ↔ actProsseguir r = none := by
  have hcheck : actProsseguir r = none ↔
      r.lblMarca ≠ "" ∧ r.lblModelo ≠ "" ∧ 1 ≤ r.stepHoras ∧ r.lblPlaca ≠ "" := by
    simp [actProsseguir, campoVazio, String.isEmpty_iff, and_assoc, Nat.one_le_iff_ne_zero]
  rw [hcheck]
  constructor
  · rintro ⟨⟨_, ⟨⟩, hma⟩, ⟨_, ⟨⟩, hmo⟩, ⟨_, ⟨⟩, hp⟩, ⟨_, ⟨⟩, hh⟩⟩
    exact ⟨hma, hmo, Double.atLeast_ofNat.mp (h ▸ hh), hp⟩
  · rintro ⟨hma, hmo, hh, hp⟩
    exact ⟨⟨_, rfl, hma⟩, ⟨_, rfl, hmo⟩, ⟨_, rfl, hp⟩,
      ⟨_, rfl, h ▸ Double.atLeast_ofNat.mpr hh⟩⟩

/-! ## The checkouts reached -/

/-- The checkout is shown, or was confirmed and waits for Firebase. -/
def Pedido.Alcancado (p : Pedido) (c : Checkout) : Prop :=
  p.checkout = some c ∨ ∃ q ∈ p.consultas, q.checkout = c

/-- A checkout that waits for Firebase after an event waited before it, or was shown. -/
lemma Pedido.alcancado_of_mem {view : Store} {p p' : Pedido} {e : Event} {w : Write Change}
    (h : p.step view e = some (w, p')) {q : Consulta} (hq : q ∈ p'.consultas) :
    p.Alcancado q.checkout := by
  cases escrita_of_step h with
  | nada hf hc he =>
    rw [hc] at hq
    exact .inr ⟨q, hq, rfl⟩
  | confirma userID hcheckout hc he =>
    rw [hc] at hq
    rcases List.mem_append.mp hq with hq | hq
    · exact .inr ⟨q, hq, rfl⟩
    · obtain rfl := List.mem_singleton.mp hq
      exact .inl hcheckout
  | outro ok hk hc he =>
    rw [hc] at hq
    exact .inr ⟨q, List.mem_of_mem_eraseIdx hq, rfl⟩
  | preenche firstname ok hk hc he =>
    rw [hc] at hq
    exact .inr ⟨q, List.mem_of_mem_eraseIdx hq, rfl⟩

/-- An event reaches a new checkout only through the segue of the request form. -/
lemma Pedido.alcancado_of_step {view : Store} {p p' : Pedido} {e : Event} {w : Write Change}
    (h : p.step view e = some (w, p')) :
    (∃ ordem fetch r, e = .prosseguir ordem fetch ∧ p.request = some r ∧ p.checkout = none ∧
      p'.checkout = some (CheckoutVagaViewController.viewDidLoad view
        (RequestViewController.prepare r) fetch) ∧ p'.consultas = p.consultas) ∨
    ((∀ ordem fetch r, e = .prosseguir ordem fetch → p.request = some r → p.checkout ≠ none) ∧
      ∀ c, p'.Alcancado c → p.Alcancado c) := by
  obtain ⟨ordem, fetch, r, rfl, hr, hc, hnovo⟩ | ⟨hno, hmesmo⟩ := checkout_of_step h
  · refine .inl ⟨ordem, fetch, r, rfl, hr, hc, hnovo, ?_⟩
    cases escrita_of_step h with
    | nada hf hconsultas he => exact hconsultas
  · refine .inr ⟨hno, fun c hc => ?_⟩
    obtain hc | ⟨q, hq, rfl⟩ := hc
    · exact .inl (hmesmo c hc)
    · exact alcancado_of_mem h hq

namespace App

variable {env : Ambiente}

/-- Every checkout reached is valid, and so is every Requisicao filled, in the context and on
disk. -/
structure Validas (s : App) : Prop where
  checkouts : ∀ c, s.pedido.Alcancado c → c.Valido
  contexto : ∀ p ∈ s.view.requisicoes.rows, p.2.data ≠ none → p.2.Valida
  gravadas : ∀ p ∈ s.persisted.requisicoes.rows, p.2.data ≠ none → p.2.Valida

/-- The condition on a press of `Prosseguir para Pagamento`: its action finds nothing to
complain about. -/
def ProssegueValido (s : App) : Event → Prop
  | .pedido (.prosseguir _ _) => s.pedido.checkout = none → ∀ r ∈ s.pedido.request,
    RequestViewController.actProsseguir r = none
  | _ => True

/-- An event of the application reaches a new checkout only through the segue of the form. -/
lemma alcancado_of_opera {s t : App} {e : Event} {w : Write Change}
    (h : s.opera env e = some (w, t)) :
    (∃ r fetch, s.pedido.request = some r ∧
      (s.ProssegueValido e ↔ RequestViewController.actProsseguir r = none) ∧
      t.pedido.checkout = some (CheckoutVagaViewController.viewDidLoad s.view
        (RequestViewController.prepare r) fetch) ∧ t.pedido.consultas = s.pedido.consultas) ∨
    (s.ProssegueValido e ∧ ∀ c, t.pedido.Alcancado c → s.pedido.Alcancado c) := by
  obtain ⟨e, rfl, hr⟩ | ⟨hne, h⟩ := pedido_of_opera h
  · obtain ⟨ordem, fetch, r, rfl, hreq, hc, h⟩ | ⟨hno, h⟩ := Pedido.alcancado_of_step hr
    · exact .inl ⟨r, fetch, hreq, by simp [ProssegueValido, hreq, hc], h⟩
    · refine .inr ⟨?_, h⟩
      cases e with
      | prosseguir ordem fetch => exact fun hc r hr => absurd hc (hno ordem fetch r rfl hr)
      | _ => trivial
  · refine .inr ⟨?_, fun c hc => ?_⟩
    · cases e with
      | pedido e => exact absurd rfl (hne e)
      | _ => trivial
    · obtain h | ⟨vaga, escolhida, hoje, h⟩ := h
      · exact h ▸ hc
      · -- a request screen just opened shows no checkout
        rw [h] at hc
        exact .inr (hc.resolve_left (by simp [Pedido.abrir]))

/-- Every filled Requisicao is valid after a write, if every checkout reached is valid and every
filled Requisicao was. -/
lemma Escrita.validas {s : App} {w : Write Change} {t : ObjectTable Requisicao}
    (h : Escrita s w t) (hs : s.Validas) : ∀ p ∈ t.rows, p.2.data ≠ none → p.2.Valida := by
  cases h with
  | alheia hw => exact hs.contexto
  | insere =>
    intro p hp hd
    rcases ObjectTable.mem_insert.mp hp with hp | rfl
    · exact hs.contexto p hp hd
    · exact absurd rfl hd
  | decide k estado ok =>
    intro p hp hd
    obtain ⟨q, hq, rfl⟩ := ObjectTable.mem_modify.mp hp
    dsimp only at hd ⊢
    split_ifs at hd ⊢
    · have hv := hs.contexto q hq hd
      exact ⟨hv.veiculo, hv.placa, hv.qtdHoras⟩
    · exact hs.contexto q hq hd
  | @preenche q hq firstname ok =>
    intro p hp hd
    obtain ⟨r, hr, rfl⟩ := ObjectTable.mem_modify.mp hp
    dsimp only at hd ⊢
    split_ifs at hd ⊢
    · exact (hs.checkouts q.checkout (.inr ⟨q, hq, rfl⟩)).preencher firstname
    · exact hs.contexto r hr hd

/-- With regular request screens, a step keeps the checkouts and the Requisicoes valid exactly
when it meets the condition. -/
lemma validas_step_iff {s s' : App} {e : Event} (hp : s.pedido.Regular) (hs : s.Validas)
    (h : s.step env e = some s') : s'.Validas ↔ ProssegueValido s e := by
  obtain ⟨w, t, ht, rfl⟩ := step_eq_some_iff.mp h
  have hlinhas := (efeito_of_opera ht).escrita.validas hs
  -- the Requisicoes stay valid whatever the step
  have hiff : Validas { t with ctx := s.ctx.exec w } ↔ ∀ c, t.pedido.Alcancado c → c.Valido := by
    refine ⟨fun h => h.checkouts, fun hc => ⟨hc, ?_, ?_⟩⟩
    · rw [view_exec]
      exact hlinhas
    · rw [persisted_exec]
      split_ifs
      · exact hlinhas
      · exact hs.gravadas
  rw [hiff]
  obtain ⟨r, fetch, hr, hcond, hc, hq⟩ | ⟨hcond, hsub⟩ := alcancado_of_opera ht
  · have hvalido : (CheckoutVagaViewController.viewDidLoad s.view
        (RequestViewController.prepare r) fetch).Valido ↔
          RequestViewController.actProsseguir r = none := by
      rw [← RequestViewController.valido_prepare_iff (hp.horas r hr)]
      exact ⟨fun h => ⟨h.1, h.2, h.3, h.4⟩, fun h => ⟨h.1, h.2, h.3, h.4⟩⟩
    rw [hcond, ← hvalido]
    refine ⟨fun h => h _ (.inl hc), fun hv c hcm => ?_⟩
    rcases hcm with hcm | ⟨q, hqm, rfl⟩
    · obtain rfl := Option.some.inj (hc.symm.trans hcm)
      exact hv
    · exact hs.checkouts _ (.inr ⟨q, hq ▸ hqm, rfl⟩)
  · exact iff_of_true (fun c hc => hs.checkouts c (hsub c hc)) hcond

/-- **The checkouts are valid exactly while the button is pressed over a complete form.** In a
run from launch every checkout reached has a brand, a model, a plate and at least one hour, and
so has every Requisicao a checkout filled, if and only if every press of the button of the
request form finds a form that its action does not complain about.

**Proof sketch.** The hours handed over are those of the stepper (`Pedido.Regular`), so the
checkout a press reaches is valid exactly when the form passes the check; a Requisicao is only
filled from a checkout that was reached. -/
theorem validas_iff_prossegueValido (env : Ambiente) (es : List Event) :
    Runs.Throughout (step env) Validas es inicial ↔
      Runs.Meets (step env) ProssegueValido es inicial := by
  refine Runs.throughout_iff_meets (J := fun s => s.pedido.Regular) ?_
    (fun _ _ _ hp hs h => validas_step_iff hp hs h) Pedido.regular_inicial ⟨?_, ?_, ?_⟩
  · intro s e s' hp h
    obtain ⟨w, t, ht, rfl⟩ := step_eq_some_iff.mp h
    have hregular : t.pedido.Regular := pedido_regular_of_opera hp ht
    exact hregular
  · rintro c (h | ⟨q, hq, -⟩)
    · cases h
    · cases hq
  · simp [inicial, view, Store.empty]
  · simp [inicial, persisted, Store.empty]

/-- The button pressed over the form as it opens reaches a checkout without a plate. -/
theorem not_validas_empty_form :
    ¬ ∀ (env : Ambiente) (es : List Event),
      Runs.Throughout (step env) Validas es inicial := by
  intro h
  have hplaca := (h Home.ambiente
      (oferta ++ escolha ++ [.pedido (.prosseguir .acaoPrimeiro true)])).imp
    (Q := fun s => ∀ c ∈ s.pedido.checkout, c.placa ≠ some "") fun s hs c hc hvazia => ?_
  · exact absurd hplaca (by decide +kernel)
  · obtain ⟨placa, hplaca, hne⟩ := (hs.checkouts c (.inl hc)).placa
    exact hne (Option.some.inj (hplaca.symm.trans hvazia))

end App

end Parken
