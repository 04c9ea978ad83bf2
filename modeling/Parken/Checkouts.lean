import Parken.App
import Parken.Lib.Runs

set_option relaxedAutoImplicit false
set_option autoImplicit false

/-!
# The card at a checkout

Both checkouts, of a Vaga (`CheckoutVagaViewController`) and of a plan
(`CheckoutPlanoViewController`), fetch the cards when they load and keep whether there was one.
`confirmar` decides by what they kept. The wallet can be opened over a checkout, by a button of
its own and from the alert of a refusal, and nothing is fetched again on the way back.

## Main definitions

* `Parken.CheckoutPlano`, `Parken.CheckoutPlanoViewController.confirmar` — the checkout of a plan.
* `Parken.Checkouts`, `Parken.Checkouts.step` — the application with both checkouts.
* `Parken.Checkouts.Confirma` — a press of `confirmar` succeeds exactly with a card in the store.
* `Parken.Checkouts.CartaoMantido` — the condition on a press.

## Main results

* `Parken.Checkouts.confirma_iff_cartaoMantido` — every press decides rightly exactly in the runs
  whose presses find a card in the store if and only if the checkout found one as it loaded.
-/

namespace Parken

open Edit

/-! ## The checkout of a plan -/

/-- The plans of `PlanoViewController`. -/
inductive Plano where
  | essential
  | gold

/-- The state of `CheckoutPlanoViewController`. -/
structure CheckoutPlano where
  nomePlano : String
  valorPlano : String
  validaCartao : Bool

/-- `PlanoViewController.prepare(for:sender:)`. -/
def PlanoViewController.prepare : Plano → CheckoutPlano
  | .essential => ⟨"Plano Essential", "149,90", false⟩
  | .gold => ⟨"Plano Gold", "199,90", false⟩

namespace CheckoutPlanoViewController

/-- `viewDidLoad`: the card is valid if the fetch of the cards returns one. A fetch that throws
(`fetch = false`) leaves none. -/
def viewDidLoad (view : Store) (c : CheckoutPlano) (fetch : Bool) : CheckoutPlano :=
  { c with validaCartao := fetch && !view.cartoes.rows.isEmpty }

/-- The alert of a confirmation. -/
def alertaSucesso : Alerta := ⟨"Sucesso!", "Pagamento confirmado."⟩

/-- The alert of a confirmation without a card. -/
def alertaCartao : Alerta := ⟨"Erro!", "Cartão não cadastrado."⟩

/-- `confirmar`. -/
def confirmar (c : CheckoutPlano) : Alerta :=
  if c.validaCartao then alertaSucesso else alertaCartao

end CheckoutPlanoViewController

/-! ## Both checkouts -/

/-- The load of a checkout: the store it saw, and whether its fetch returned. -/
structure Carga where
  view : Store
  fetch : Bool

/-- The load found a card. -/
def Carga.ComCartao (c : Carga) : Prop := c.fetch = true ∧ c.view.cartoes.rows ≠ []

instance (c : Carga) : Decidable c.ComCartao := inferInstanceAs (Decidable (_ ∧ _))

/-- The application with the checkout of a plan, and the loads of the two checkouts shown last,
which the program does not keep. -/
structure Checkouts where
  app : App
  /-- The checkout of a plan, while it is open. -/
  plano : Option CheckoutPlano
  /-- The alert the checkout of a plan showed last. -/
  alertaPlano : Option Alerta
  cargaVaga : Carga
  cargaPlano : Carga

/-- An event of the application or of the checkout of a plan. -/
inductive Checkouts.Event where
  | app (e : App.Event)
  /-- A plan is chosen, and its checkout fetches the cards. -/
  | abrirPlano (p : Plano) (fetch : Bool)
  /-- The checkout of a plan is confirmed. -/
  | confirmarPlano
  /-- The user leaves the checkout of a plan. -/
  | voltarPlano

namespace Checkouts

variable {env : Ambiente}

/-- The application at launch. -/
def inicial : Checkouts := ⟨.inicial, none, none, ⟨.empty, false⟩, ⟨.empty, false⟩⟩

/-- The load of the checkout of a Vaga, if the event opens one. -/
def cargaDe (s : App) (carga : Carga) : App.Event → Carga
  | .pedido (.prosseguir _ fetch) =>
    match s.pedido.request, s.pedido.checkout with
    | some _, none => ⟨s.view, fetch⟩
    | _, _ => carga
  | _ => carga

/-- One event. The success of a plan's confirmation closes its checkout. -/
def step (env : Ambiente) (s : Checkouts) : Event → Option Checkouts
  | .app e => (s.app.step env e).map fun app =>
    { s with app := app, cargaVaga := cargaDe s.app s.cargaVaga e }
  | .abrirPlano p fetch =>
    some { s with
      plano := some (CheckoutPlanoViewController.viewDidLoad s.app.view
        (PlanoViewController.prepare p) fetch)
      cargaPlano := ⟨s.app.view, fetch⟩ }
  | .confirmarPlano =>
    match s.plano with
    | none => some s
    | some c => some { s with
        plano := if c.validaCartao then none else some c
        alertaPlano := some (CheckoutPlanoViewController.confirmar c) }
  | .voltarPlano => some { s with plano := none }

/-- There is a card in the store. -/
def TemCartao (s : Checkouts) : Prop := s.app.view.cartoes.rows ≠ []

instance (s : Checkouts) : Decidable s.TemCartao := inferInstanceAs (Decidable (_ ≠ []))

/-- A press of `confirmar` over the checkout of a Vaga takes its success branch: unless it traps
there for want of a user, it inserts a Requisicao and shows the success alert. -/
def SucedeVaga (s : Checkouts) (c : Checkout) (userID : Option String) : Prop :=
  ∀ r ∈ s.app.pedido.confirmar s.app.view c userID, r.1.changes = [.insertRequisicao] ∧
    r.2.alerta = some CheckoutVagaViewController.alertaSucesso

/-- A press of `confirmar` takes its success branch exactly where there is a card in the store. -/
def Confirma (s : Checkouts) : Event → Prop
  | .app (.pedido (.confirmar userID)) =>
    ∀ c ∈ s.app.pedido.checkout, s.SucedeVaga c userID ↔ s.TemCartao
  | .confirmarPlano =>
    ∀ c ∈ s.plano, CheckoutPlanoViewController.confirmar c =
      CheckoutPlanoViewController.alertaSucesso ↔ s.TemCartao
  | _ => True

instance (s : Checkouts) (c : Checkout) (userID : Option String) :
    Decidable (s.SucedeVaga c userID) :=
  inferInstanceAs (Decidable (∀ r ∈ s.app.pedido.confirmar s.app.view c userID, _))

instance (s : Checkouts) : ∀ e, Decidable (s.Confirma e)
  | .app (.pedido (.confirmar userID)) => inferInstanceAs (Decidable
      (∀ c ∈ s.app.pedido.checkout, s.SucedeVaga c userID ↔ s.TemCartao))
  | .confirmarPlano => inferInstanceAs (Decidable
      (∀ c ∈ s.plano, CheckoutPlanoViewController.confirmar c =
        CheckoutPlanoViewController.alertaSucesso ↔ s.TemCartao))
  | .app (.pedido (.marca _)) | .app (.pedido (.modelo _)) | .app (.pedido (.placa _))
  | .app (.pedido (.data _)) | .app (.pedido (.definirHora _))
  | .app (.pedido (.prosseguir _ _)) | .app (.pedido (.firebase _ _ _)) | .app (.pedido .voltar)
  | .app (.garage _) | .app (.carteira _) | .app (.home _ _) | .app (.confirmacao _)
  | .app (.historico _) | .app (.background _) | .abrirPlano _ _ | .voltarPlano => .isTrue trivial

/-- The condition on a press: there is a card in the store exactly where the checkout found one
when it loaded. -/
def CartaoMantido (s : Checkouts) : Event → Prop
  | .app (.pedido (.confirmar _)) =>
    s.app.pedido.checkout.isSome → (s.cargaVaga.ComCartao ↔ s.TemCartao)
  | .confirmarPlano => s.plano.isSome → (s.cargaPlano.ComCartao ↔ s.TemCartao)
  | _ => True

/-- What holds in every run: each checkout kept what its load found. -/
structure Carregada (s : Checkouts) : Prop where
  vaga : ∀ c ∈ s.app.pedido.checkout, c.validaCartao = true ↔ s.cargaVaga.ComCartao
  plano : ∀ c ∈ s.plano, c.validaCartao = true ↔ s.cargaPlano.ComCartao

/-! ### A press -/

/-- The success branch is the one of a checkout that found a card. -/
lemma sucedeVaga_iff {s : Checkouts} {c : Checkout} {userID : Option String} :
    s.SucedeVaga c userID ↔ c.validaCartao = true := by
  unfold SucedeVaga Pedido.confirmar
  by_cases hc : c.validaCartao = true
  · cases userID <;> simp [hc]
  · simp [hc, Write.none]

/-- The success alert of a plan is that of a checkout that found a card. -/
lemma confirmar_eq_iff {c : CheckoutPlano} :
    CheckoutPlanoViewController.confirmar c = CheckoutPlanoViewController.alertaSucesso ↔
      c.validaCartao = true := by
  unfold CheckoutPlanoViewController.confirmar
  by_cases hc : c.validaCartao = true
  · simp [hc]
  · simp [hc, CheckoutPlanoViewController.alertaSucesso, CheckoutPlanoViewController.alertaCartao]

/-- A press decides rightly exactly where the store is as the load of the checkout found it. -/
lemma confirma_iff {s : Checkouts} (hs : s.Carregada) (e : Event) :
    s.Confirma e ↔ s.CartaoMantido e := by
  cases e with
  | app e =>
    cases e with
    | pedido e =>
      cases e with
      | confirmar userID =>
        simp only [Confirma, CartaoMantido]
        cases hc : s.app.pedido.checkout with
        | none => simp
        | some c => simp [sucedeVaga_iff, hs.vaga c hc]
      | _ => exact Iff.rfl
    | _ => exact Iff.rfl
  | confirmarPlano =>
    simp only [Confirma, CartaoMantido]
    cases hc : s.plano with
    | none => simp
    | some c => simp [confirmar_eq_iff, hs.plano c hc]
  | abrirPlano p fetch => exact Iff.rfl
  | voltarPlano => exact Iff.rfl

/-! ### One step -/

/-- An event of the application keeps the checkout of a Vaga and its load, closes it, or opens one
and takes down its load. -/
lemma carregada_of_opera {s t : App} {carga : Carga} {e : App.Event} {w : Write Change}
    (hs : ∀ c ∈ s.pedido.checkout, c.validaCartao = true ↔ carga.ComCartao)
    (h : s.opera env e = some (w, t)) :
    ∀ c ∈ t.pedido.checkout, c.validaCartao = true ↔ (cargaDe s carga e).ComCartao := by
  obtain ⟨e, rfl, hr⟩ | ⟨hne, h⟩ := App.pedido_of_opera h
  · obtain ⟨ordem, fetch, r, rfl, hreq, hc, hnovo⟩ | ⟨hno, hmesmo⟩ := Pedido.checkout_of_step hr
    · -- the checkout keeps whether its fetch returned a card
      intro c hc'
      obtain rfl := Option.some.inj (hnovo.symm.trans hc')
      simp [cargaDe, hreq, hc, Carga.ComCartao, CheckoutVagaViewController.viewDidLoad]
    · have hcarga : cargaDe s carga (.pedido e) = carga := by
        cases e with
        | prosseguir ordem fetch =>
          simp only [cargaDe]
          split
          next r hr hc => exact absurd hc (hno ordem fetch r rfl hr)
          next => rfl
        | _ => rfl
      rw [hcarga]
      exact fun c hc => hs c (hmesmo c hc)
  · have hcarga : cargaDe s carga e = carga := by
      cases e with
      | pedido e => exact absurd rfl (hne e)
      | _ => rfl
    rw [hcarga]
    obtain h | ⟨vaga, escolhida, hoje, h⟩ := h
    · rw [h]
      exact hs
    · rw [h]
      simp [Pedido.abrir]

/-- Every event leaves each checkout with what its load found. -/
lemma Carregada.step {s s' : Checkouts} {e : Event} (hs : s.Carregada)
    (h : s.step env e = some s') : s'.Carregada := by
  cases e with
  | app e =>
    obtain ⟨app, hr, rfl⟩ := Option.map_eq_some_iff.mp h
    obtain ⟨w, t, ht, rfl⟩ := App.step_eq_some_iff.mp hr
    have hvaga := carregada_of_opera hs.vaga ht
    exact ⟨hvaga, hs.plano⟩
  | abrirPlano p fetch =>
    obtain rfl := Option.some.inj h
    refine ⟨hs.vaga, ?_⟩
    rintro c ⟨⟩
    simp [Carga.ComCartao, CheckoutPlanoViewController.viewDidLoad]
  | confirmarPlano =>
    cases hc : s.plano with
    | none =>
      simp only [Checkouts.step, hc] at h
      obtain rfl := Option.some.inj h
      exact hs
    | some c =>
      simp only [Checkouts.step, hc] at h
      obtain rfl := Option.some.inj h
      refine ⟨hs.vaga, fun c' hc' => hs.plano c' ?_⟩
      split_ifs at hc'
      · cases hc'
      · exact hc.trans hc'
  | voltarPlano =>
    obtain rfl := Option.some.inj h
    exact ⟨hs.vaga, by simp⟩

/-! ### Whole runs -/

/-- **The presses decide rightly exactly while the wallet is as the checkout found it.** In a run
from launch every press of `confirmar`, over either checkout, takes its success branch exactly
where there is a card in the store, if and only if at every press there is a card in the store
exactly where the checkout's fetch returned one when it loaded.

**Proof sketch.** A checkout keeps what its load found (`Carregada`), and the success branch is
decided by that alone. -/
theorem confirma_iff_cartaoMantido (env : Ambiente) (es : List Event) :
    Runs.Attempts (step env) Confirma es inicial ↔
      Runs.Attempts (step env) CartaoMantido es inicial :=
  Runs.attempts_congr (J := Carregada) (fun _ _ _ hs _ h => hs.step h)
    (fun _ e hs => confirma_iff hs e) ⟨by simp [inicial, App.inicial, Pedido.inicial],
      by simp [inicial]⟩

/-- The driver is refused, registers a card as the alert proposes, and is refused again. -/
theorem not_confirma_new_card :
    ¬ ∀ (env : Ambiente) (es : List Event), Runs.Attempts (step env) Confirma es inicial := by
  intro h
  have hrun := h Home.ambiente
    ((App.oferta ++ App.escolha ++ App.solicitacao ++ App.cadastro ++
      [App.Event.pedido (.confirmar (some "ana"))]).map .app)
  exact absurd hrun (by decide +kernel)

end Checkouts

end Parken
