import Parken.Entities

set_option relaxedAutoImplicit false
set_option autoImplicit false

/-!
# The request and checkout screens

The driver describes the car and the hours (`RequestViewController`), goes on to the payment
and confirms it there (`CheckoutVagaViewController`). The confirmation inserts a Requisicao
without attributes, asks Firebase for the driver's profile and shows the success alert; the
attributes are set, and the context saved, when Firebase answers with a dictionary.

The texts of labels that no function reads back are left out.

## Main definitions

* `Parken.Request`, `Parken.RequestViewController.viewDidLoad`,
  `Parken.RequestViewController.definirHora`, `Parken.RequestViewController.actProsseguir`,
  `Parken.RequestViewController.prepare` — the form.
* `Parken.Checkout`, `Parken.CheckoutVagaViewController.viewDidLoad`,
  `Parken.CheckoutVagaViewController.preencher` — the checkout.
* `Parken.Pedido`, `Parken.Pedido.step` — the state of the screens and their events.
* `Parken.Pedido.Passo` — the outcomes of a step.
* `Parken.Pedido.Guarda`, `Parken.Pedido.Estavel` — properties of the form and of the checkouts,
  and what makes every event keep them.
-/

namespace Parken

/-- The state of `RequestViewController`. -/
structure Request where
  /-- `lblTitulo.text`. -/
  lblTitulo : String
  /-- `stepHoras.value`, from 0 to 100 in steps of one. -/
  stepHoras : ℕ
  lblMarca : String
  lblModelo : String
  lblPlaca : String
  /-- `campoData.date`. -/
  campoData : Date
  valorHora : Double
  qtdHora : Double
  valorTotal : Double
  id : String
  /-- The record of the entry the driver chose on Home. The screen does not read it. -/
  escolhida : ObjectID
deriving DecidableEq

/-- The state of `CheckoutVagaViewController`; its attributes are set before it is shown and
never change. -/
structure Checkout where
  nomeVaga : String
  valorVaga : Double
  dataHora : Option Date
  marca : Option String
  modelo : Option String
  placa : Option String
  qtdHoras : Option Double
  id : Option String
  validaCartao : Bool
  /-- The record of the entry the driver chose on Home. The screen does not read it. -/
  escolhida : ObjectID
deriving DecidableEq

namespace RequestViewController

/-- `viewDidLoad` with the Vaga handed over by Home, on the day `hoje` of the date picker. -/
def viewDidLoad (vaga : Option Vaga) (escolhida : ObjectID) (hoje : Date) : Request where
  lblTitulo := match vaga with
    | some vaga => vaga.titulo.getD "Titulo"
    | none => "VAGA NULA"
  stepHoras := 0
  lblMarca := ""
  lblModelo := ""
  lblPlaca := ""
  campoData := hoje
  valorHora := match vaga with
    | some vaga => vaga.valor.getD (.finite 1)
    | none => .finite 0
  qtdHora := .finite 0
  valorTotal := .finite 0
  id := match vaga with
    | some vaga => vaga.chaveRequest
    | none => ""
  escolhida := escolhida

/-- `definirHora`, with the stepper at `n`. -/
def definirHora (r : Request) (n : ℕ) : Request :=
  { r with
    stepHoras := n
    qtdHora := .ofNat n
    valorTotal := r.valorHora.mul (.ofNat n) }

/-- The check of `actProsseguir`: a text is empty, or the stepper is below one. -/
def campoVazio (r : Request) : Bool :=
  r.lblMarca.isEmpty || r.lblModelo.isEmpty || r.stepHoras < 1 || r.lblPlaca.isEmpty

/-- The alert of `actProsseguir`. -/
def alertaCampos : Alerta := ⟨"Erro", "Preencha todos os campos"⟩

/-- `actProsseguir`: an alert where a field is empty, and nothing else. -/
def actProsseguir (r : Request) : Option Alerta :=
  if campoVazio r then some alertaCampos else none

/-- `prepare(for:sender:)` on `segueVaga`. -/
def prepare (r : Request) : Checkout where
  nomeVaga := r.lblTitulo
  valorVaga := r.valorTotal
  placa := some r.lblPlaca
  modelo := some r.lblModelo
  marca := some r.lblMarca
  dataHora := some r.campoData
  qtdHoras := some r.qtdHora
  id := some r.id
  validaCartao := false
  escolhida := r.escolhida

end RequestViewController

namespace CheckoutVagaViewController

/-- `viewDidLoad`: the card is valid if the fetch of the cards returns one. A fetch that throws
(`fetch = false`) leaves none. -/
def viewDidLoad (view : Store) (c : Checkout) (fetch : Bool) : Checkout :=
  { c with validaCartao := fetch && !view.cartoes.rows.isEmpty }

/-- The attributes the answer of Firebase sets; `firstname` is that of the profile, if it has
one. -/
def preencher (c : Checkout) (firstname : Option String) : Requisicao :=
  let marca := c.marca.getD "marca"
  let modelo := c.modelo.getD "modelo"
  { data := c.dataHora
    placa := c.placa
    veiculo := some s!"{marca} {modelo}"
    solicitante := some (firstname.getD "")
    qtdHoras := c.qtdHoras
    estado := some "Pendente"
    id := c.id
    valorTotal := some c.valorVaga }

/-- The alert of a confirmation. -/
def alertaSucesso : Alerta :=
  ⟨"Sucesso!", "Vaga solicitada com sucesso. Favor aguardar aprovação."⟩

/-- The alert of a confirmation without a card. -/
def alertaCartao : Alerta := ⟨"Erro!", "Cartão não cadastrado."⟩

end CheckoutVagaViewController

/-! ## The screens together -/

/-- A profile asked of Firebase: the Requisicao to fill and the screen (`self`) to fill it
from. -/
structure Consulta where
  objUpdate : ObjectID
  checkout : Checkout
  userID : String
deriving DecidableEq

/-- What Firebase answers: no dictionary, or a dictionary with its `firstname`, if it has
one. -/
inductive Snapshot where
  | outro
  | dicionario (firstname : Option String)
deriving DecidableEq

/-- A delivered answer. The program does not keep it. -/
structure Entrega where
  consulta : Consulta
  snapshot : Snapshot
  /-- The outcome of the save, where there is one. -/
  ok : Bool
deriving DecidableEq

/-- The state of the screens. -/
structure Pedido where
  /-- The request screen, while it is open. -/
  request : Option Request
  /-- The checkout screen, while it is open over the request screen. -/
  checkout : Option Checkout
  /-- The profiles asked for and not answered. -/
  consultas : List Consulta
  /-- The answers delivered so far. -/
  entregas : List Entrega
  /-- The alert shown last. -/
  alerta : Option Alerta

/-- An event of the screens. -/
inductive Pedido.Event where
  /-- The user edits the brand. -/
  | marca (texto : String)
  /-- The user edits the model. -/
  | modelo (texto : String)
  /-- The user edits the plate. -/
  | placa (texto : String)
  /-- The user sets the date. -/
  | data (d : Date)
  /-- The user moves the stepper. -/
  | definirHora (n : ℕ)
  /-- `Prosseguir para Pagamento` is pressed; its action and its segue fire in some order, and
  the checkout fetches the cards. -/
  | prosseguir (ordem : Ordem) (fetch : Bool)
  /-- The checkout is confirmed by the user signed in to Firebase. -/
  | confirmar (userID : Option String)
  /-- Firebase answers the `k`-th waiting query; `ok` is the outcome of the save. -/
  | firebase (k : ℕ) (snapshot : Snapshot) (ok : Bool)
  /-- The user goes back one screen. -/
  | voltar

namespace Pedido

/-- The screens at launch. -/
def inicial : Pedido := ⟨none, none, [], [], none⟩

/-- Home's segue opens the request screen. -/
def abrir (p : Pedido) (vaga : Option Vaga) (escolhida : ObjectID) (hoje : Date) : Pedido :=
  { p with
    request := some (RequestViewController.viewDidLoad vaga escolhida hoje)
    checkout := none }

/-- An edit of the request form, while it is in front. -/
def editar (p : Pedido) (f : Request → Request) : Pedido :=
  if p.checkout.isSome then p else { p with request := p.request.map f }

/-- The press of `Prosseguir para Pagamento`: neither of its two reactions reads what the other
changes, so their order does not matter. -/
def prosseguir (view : Store) (p : Pedido) (r : Request) (_ordem : Ordem) (fetch : Bool) :
    Pedido :=
  let checkout := CheckoutVagaViewController.viewDidLoad view (RequestViewController.prepare r)
    fetch
  match RequestViewController.actProsseguir r with
  | some a => { p with checkout := some checkout, alerta := some a }
  | none => { p with checkout := some checkout }

/-- `confirmar`. With a card, `save` inserts a Requisicao and asks for the profile of the user,
and traps (`none`) where no user is signed in; the alert then closes both screens. -/
def confirmar (view : Store) (p : Pedido) (c : Checkout) (userID : Option String) :
    Option (Write Change × Pedido) :=
  if c.validaCartao then
    -- `child(userID!)`
    match userID with
    | none => none
    | some userID => some (⟨[.insertRequisicao], none⟩, { p with
        request := none
        checkout := none
        consultas := p.consultas ++ [⟨view.requisicoes.next, c, userID⟩]
        alerta := some CheckoutVagaViewController.alertaSucesso })
  else some (.none, { p with alerta := some CheckoutVagaViewController.alertaCartao })

/-- The completion of the query for the profile: no dictionary changes nothing. -/
def firebaseCallback (p : Pedido) (q : Consulta) (snapshot : Snapshot) (ok : Bool) :
    Write Change × Pedido :=
  let p := { p with entregas := p.entregas ++ [⟨q, snapshot, ok⟩] }
  match snapshot with
  | .outro => (.none, p)
  | .dicionario firstname =>
    (⟨[.setRequisicao q.objUpdate (CheckoutVagaViewController.preencher q.checkout firstname)],
      some ok⟩, p)

/-- One event: what it does to the shared context and the screens after it, or `none` where
the program traps. -/
def step (view : Store) (p : Pedido) : Event → Option (Write Change × Pedido)
  | .marca texto => some (.none, p.editar fun r => { r with lblMarca := texto })
  | .modelo texto => some (.none, p.editar fun r => { r with lblModelo := texto })
  | .placa texto => some (.none, p.editar fun r => { r with lblPlaca := texto })
  | .data d => some (.none, p.editar fun r => { r with campoData := d })
  | .definirHora n =>
    some (.none, if n ≤ 100 then p.editar (RequestViewController.definirHora · n) else p)
  | .prosseguir ordem fetch =>
    match p.request, p.checkout with
    | some r, none => some (.none, p.prosseguir view r ordem fetch)
    | _, _ => some (.none, p)
  | .confirmar userID =>
    match p.checkout with
    | some c => p.confirmar view c userID
    | none => some (.none, p)
  | .firebase k snapshot ok =>
    match p.consultas[k]? with
    | none => some (.none, p)
    | some q =>
      some ({ p with consultas := p.consultas.eraseIdx k }.firebaseCallback q snapshot ok)
  | .voltar =>
    some (.none, if p.checkout.isSome then { p with checkout := none }
      else { p with request := none })

/-! ## What a step can do -/

/-- The write of an event and the screens after it, case by case. -/
inductive Passo (view : Store) (p : Pedido) : Event → Write Change → Pedido → Prop where
  /-- The event finds nothing to act on: no screen of its own, or no query waiting. -/
  | ignora {e : Event}
      (hp : ∀ ordem fetch r, e = .prosseguir ordem fetch → p.request = some r → p.checkout ≠ none)
      (hc : ∀ userID, e = .confirmar userID → p.checkout = none)
      (hf : ∀ k snapshot ok, e = .firebase k snapshot ok → p.consultas[k]? = none) :
      Passo view p e .none p
  | marca (texto : String) :
      Passo view p (.marca texto) .none (p.editar fun r => { r with lblMarca := texto })
  | modelo (texto : String) :
      Passo view p (.modelo texto) .none (p.editar fun r => { r with lblModelo := texto })
  | placa (texto : String) :
      Passo view p (.placa texto) .none (p.editar fun r => { r with lblPlaca := texto })
  | data (d : Date) : Passo view p (.data d) .none (p.editar fun r => { r with campoData := d })
  | definirHora (n : ℕ) :
      Passo view p (.definirHora n) .none (p.editar (RequestViewController.definirHora · n))
  /-- The segue of the form opens a checkout. -/
  | prosseguir (ordem : Ordem) (fetch : Bool) {r : Request} (alerta : Option Alerta)
      (hr : p.request = some r) (hc : p.checkout = none) :
      Passo view p (.prosseguir ordem fetch) .none { p with
        checkout := some (CheckoutVagaViewController.viewDidLoad view
          (RequestViewController.prepare r) fetch)
        alerta := alerta }
  /-- A checkout with a card is confirmed. -/
  | confirma {c : Checkout} (userID : String) (hc : p.checkout = some c)
      (hcartao : c.validaCartao = true) :
      Passo view p (.confirmar (some userID)) ⟨[.insertRequisicao], none⟩ { p with
        request := none
        checkout := none
        consultas := p.consultas ++ [⟨view.requisicoes.next, c, userID⟩]
        alerta := some CheckoutVagaViewController.alertaSucesso }
  /-- A checkout without a card refuses. -/
  | recusa {c : Checkout} (userID : Option String) (hc : p.checkout = some c)
      (hcartao : c.validaCartao = false) :
      Passo view p (.confirmar userID) .none
        { p with alerta := some CheckoutVagaViewController.alertaCartao }
  /-- An answer without a dictionary is delivered. -/
  | outro {k : ℕ} {q : Consulta} (ok : Bool) (hq : p.consultas[k]? = some q) :
      Passo view p (.firebase k .outro ok) .none { p with
        consultas := p.consultas.eraseIdx k
        entregas := p.entregas ++ [⟨q, .outro, ok⟩] }
  /-- A profile is delivered. -/
  | preenche {k : ℕ} {q : Consulta} (firstname : Option String) (ok : Bool)
      (hq : p.consultas[k]? = some q) :
      Passo view p (.firebase k (.dicionario firstname) ok)
        ⟨[.setRequisicao q.objUpdate (CheckoutVagaViewController.preencher q.checkout firstname)],
          some ok⟩
        { p with
          consultas := p.consultas.eraseIdx k
          entregas := p.entregas ++ [⟨q, .dicionario firstname, ok⟩] }
  | fechaCheckout : Passo view p .voltar .none { p with checkout := none }
  | fechaRequest (hc : p.checkout = none) : Passo view p .voltar .none { p with request := none }

/-- **The step of the request screens.** A step ends in one of the states of `Passo`. -/
theorem passo_of_step {view : Store} {p p' : Pedido} {e : Event} {w : Write Change}
    (h : p.step view e = some (w, p')) : Passo view p e w p' := by
  cases e with
  | marca texto =>
    cases h
    exact .marca texto
  | modelo texto =>
    cases h
    exact .modelo texto
  | placa texto =>
    cases h
    exact .placa texto
  | data d =>
    cases h
    exact .data d
  | definirHora n =>
    cases h
    split_ifs
    · exact .definirHora n
    · exact .ignora (by simp) (by simp) (by simp)
  | prosseguir ordem fetch =>
    simp only [step] at h
    split at h <;> cases h
    next r hr hc =>
      unfold prosseguir
      dsimp only
      split
      · exact .prosseguir ordem fetch _ hr hc
      · exact .prosseguir ordem fetch p.alerta hr hc
    next hno => exact .ignora (fun _ _ r _ hr hc => hno r hr hc) (by simp) (by simp)
  | confirmar userID =>
    simp only [step] at h
    split at h
    next c hc =>
      unfold confirmar at h
      split_ifs at h with hcartao
      · cases userID <;> cases h
        exact .confirma _ hc hcartao
      · cases h
        exact .recusa userID hc (by simpa using hcartao)
    next hc =>
      cases h
      exact .ignora (by simp) (fun _ _ => hc) (by simp)
  | firebase k snapshot ok =>
    simp only [step] at h
    split at h
    next hq =>
      cases h
      exact .ignora (by simp) (by simp) (by rintro _ _ _ ⟨⟩; exact hq)
    next q hq =>
      cases snapshot <;> cases h
      · exact .outro ok hq
      · exact .preenche _ ok hq
  | voltar =>
    cases h
    split_ifs with hc
    · exact .fechaCheckout
    · exact .fechaRequest (by simpa using hc)

/-! ## The writes of the screens -/

/-- The writes of the request screens to the shared context, with the queries in flight and the
answers delivered after them. -/
inductive Escrita (view : Store) (p : Pedido) : Event → Write Change → Pedido → Prop where
  /-- Nothing is written, asked or delivered. -/
  | nada {e : Event} {p' : Pedido}
      (hf : ∀ k snapshot ok, e = .firebase k snapshot ok → p.consultas[k]? = none)
      (hc : p'.consultas = p.consultas) (he : p'.entregas = p.entregas) :
      Escrita view p e .none p'
  /-- A checkout is confirmed: a Requisicao is inserted and the profile asked for. -/
  | confirma {c : Checkout} {p' : Pedido} (userID : String) (hc : p.checkout = some c)
      (hp : p'.consultas = p.consultas ++ [⟨view.requisicoes.next, c, userID⟩])
      (he : p'.entregas = p.entregas) :
      Escrita view p (.confirmar (some userID)) ⟨[.insertRequisicao], none⟩ p'
  /-- An answer without a dictionary is delivered. -/
  | outro {k : ℕ} {q : Consulta} {p' : Pedido} (ok : Bool) (hq : p.consultas[k]? = some q)
      (hc : p'.consultas = p.consultas.eraseIdx k)
      (he : p'.entregas = p.entregas ++ [⟨q, .outro, ok⟩]) :
      Escrita view p (.firebase k .outro ok) .none p'
  /-- A profile is delivered: the Requisicao is filled. -/
  | preenche {k : ℕ} {q : Consulta} {p' : Pedido} (firstname : Option String) (ok : Bool)
      (hq : p.consultas[k]? = some q) (hc : p'.consultas = p.consultas.eraseIdx k)
      (he : p'.entregas = p.entregas ++ [⟨q, .dicionario firstname, ok⟩]) :
      Escrita view p (.firebase k (.dicionario firstname) ok)
        ⟨[.setRequisicao q.objUpdate (CheckoutVagaViewController.preencher q.checkout firstname)],
          some ok⟩ p'

@[simp] lemma consultas_editar (p : Pedido) (f : Request → Request) :
    (p.editar f).consultas = p.consultas := by
  unfold editar
  split_ifs <;> rfl

@[simp] lemma entregas_editar (p : Pedido) (f : Request → Request) :
    (p.editar f).entregas = p.entregas := by
  unfold editar
  split_ifs <;> rfl

/-- What an event writes, asks and delivers. -/
lemma escrita_of_step {view : Store} {p p' : Pedido} {e : Event} {w : Write Change}
    (h : p.step view e = some (w, p')) : Escrita view p e w p' := by
  cases passo_of_step h with
  | ignora hp hc hf => exact .nada hf rfl rfl
  | marca | modelo | placa | data | definirHora =>
    exact .nada nofun (consultas_editar ..) (entregas_editar ..)
  | confirma userID hc hcartao => exact .confirma userID hc rfl rfl
  | outro ok hq => exact .outro ok hq rfl rfl
  | preenche firstname ok hq => exact .preenche firstname ok hq rfl rfl
  | prosseguir | recusa | fechaCheckout | fechaRequest => exact .nada nofun rfl rfl

/-- An edit leaves the checkout. -/
@[simp] lemma checkout_editar (p : Pedido) (f : Request → Request) :
    (p.editar f).checkout = p.checkout := by
  unfold editar
  split_ifs <;> rfl

/-- An event opens a checkout through the segue of the request form, or keeps the one shown or
closes it. -/
lemma checkout_of_step {view : Store} {p p' : Pedido} {e : Event} {w : Write Change}
    (h : p.step view e = some (w, p')) :
    (∃ ordem fetch r, e = .prosseguir ordem fetch ∧ p.request = some r ∧ p.checkout = none ∧
      p'.checkout = some (CheckoutVagaViewController.viewDidLoad view
        (RequestViewController.prepare r) fetch)) ∨
    ((∀ ordem fetch r, e = .prosseguir ordem fetch → p.request = some r → p.checkout ≠ none) ∧
      ∀ c ∈ p'.checkout, c ∈ p.checkout) := by
  cases passo_of_step h with
  | ignora hp hc hf => exact .inr ⟨hp, fun c hc => hc⟩
  | marca | modelo | placa | data | definirHora =>
    rw [checkout_editar]
    exact .inr ⟨by simp, fun c hc => hc⟩
  | prosseguir ordem fetch alerta hr hc => exact .inl ⟨ordem, fetch, _, rfl, hr, hc, rfl⟩
  | confirma | fechaCheckout => exact .inr ⟨by simp, by simp⟩
  | recusa | outro | preenche | fechaRequest => exact .inr ⟨by simp, fun c hc => hc⟩

/-! ## What holds of the screens in every run -/

/-- The form has the property `F`, and the checkouts shown or waiting for Firebase have `C`. -/
structure Guarda (F : Request → Prop) (C : Checkout → Prop) (p : Pedido) : Prop where
  request : ∀ r ∈ p.request, F r
  checkout : ∀ c ∈ p.checkout, C c
  consultas : ∀ q ∈ p.consultas, C q.checkout

/-- The edits of the form keep `F`, and a form that has it opens a checkout that has `C`. -/
structure Estavel (F : Request → Prop) (C : Checkout → Prop) : Prop where
  textos : ∀ r marca modelo placa data, F r → F { r with
    lblMarca := marca, lblModelo := modelo, lblPlaca := placa, campoData := data }
  horas : ∀ r n, F r → F (RequestViewController.definirHora r n)
  prosseguir : ∀ view r fetch, F r →
    C (CheckoutVagaViewController.viewDidLoad view (RequestViewController.prepare r) fetch)

/-- An edit that keeps the property of the form keeps those of the screens. -/
lemma Guarda.editar {F : Request → Prop} {C : Checkout → Prop} {p : Pedido} (hp : Guarda F C p)
    {f : Request → Request} (hf : ∀ r, F r → F (f r)) : Guarda F C (p.editar f) := by
  unfold Pedido.editar
  split_ifs with h
  · exact hp
  · refine ⟨fun r hr => ?_, hp.checkout, hp.consultas⟩
    obtain ⟨r₀, hr₀, rfl⟩ := Option.map_eq_some_iff.mp hr
    exact hf r₀ (hp.request r₀ hr₀)

/-- **The rule of the request screens.** Every event keeps properties that the edits and the segue
of the form keep: a checkout is confirmed as it is shown, and waits for Firebase as it was
confirmed. -/
theorem Guarda.step {F : Request → Prop} {C : Checkout → Prop} {view : Store} {p p' : Pedido}
    {e : Event} {w : Write Change} (hF : Estavel F C) (hp : Guarda F C p)
    (h : p.step view e = some (w, p')) : Guarda F C p' := by
  cases passo_of_step h with
  | ignora hp' hc hf => exact hp
  | marca texto => exact hp.editar fun r => hF.textos r texto r.lblModelo r.lblPlaca r.campoData
  | modelo texto => exact hp.editar fun r => hF.textos r r.lblMarca texto r.lblPlaca r.campoData
  | placa texto => exact hp.editar fun r => hF.textos r r.lblMarca r.lblModelo texto r.campoData
  | data d => exact hp.editar fun r => hF.textos r r.lblMarca r.lblModelo r.lblPlaca d
  | definirHora n => exact hp.editar fun r => hF.horas r n
  | @prosseguir ordem fetch r alerta hr hc =>
    refine ⟨hp.request, ?_, hp.consultas⟩
    rintro c ⟨⟩
    exact hF.prosseguir view r fetch (hp.request r hr)
  | confirma userID hc hcartao =>
    refine ⟨by simp, by simp, fun q hq => ?_⟩
    rcases List.mem_append.mp hq with hq | hq
    · exact hp.consultas q hq
    · obtain rfl := List.mem_singleton.mp hq
      exact hp.checkout _ hc
  | recusa => exact ⟨hp.request, hp.checkout, hp.consultas⟩
  | outro ok hq =>
    exact ⟨hp.request, hp.checkout, fun q hq => hp.consultas q (List.mem_of_mem_eraseIdx hq)⟩
  | preenche firstname ok hq =>
    exact ⟨hp.request, hp.checkout, fun q hq => hp.consultas q (List.mem_of_mem_eraseIdx hq)⟩
  | fechaCheckout => exact ⟨hp.request, by simp, hp.consultas⟩
  | fechaRequest hc => exact ⟨by simp, hp.checkout, hp.consultas⟩

/-- The attributes that `CheckoutVagaViewController.preencher` copies are set. -/
structure Completo (c : Checkout) : Prop where
  dataHora : c.dataHora.isSome
  placa : c.placa.isSome
  qtdHoras : c.qtdHoras.isSome
  id : c.id.isSome

/-- What holds of the request screens in every run: the hours are those of the stepper, and
every checkout shown or waiting for Firebase has its attributes set. -/
structure Regular (p : Pedido) : Prop where
  horas : ∀ r ∈ p.request, r.qtdHora = .ofNat r.stepHoras
  checkout : ∀ c ∈ p.checkout, Completo c
  consultas : ∀ q ∈ p.consultas, Completo q.checkout

lemma regular_inicial : Regular inicial := ⟨by simp [inicial], by simp [inicial], by simp [inicial]⟩

/-- A screen opened by Home is regular. -/
lemma Regular.abrir {p : Pedido} (hp : Regular p) (vaga : Option Vaga) (escolhida : ObjectID)
    (hoje : Date) : Regular (p.abrir vaga escolhida hoje) where
  horas := by
    rintro r ⟨⟩
    exact congrArg Double.finite (by simp [RequestViewController.viewDidLoad])
  checkout := by simp [Pedido.abrir]
  consultas := hp.consultas

/-- Every event keeps the screens regular. -/
lemma Regular.step {view : Store} {p p' : Pedido} {e : Event} {w : Write Change}
    (hp : Regular p) (h : p.step view e = some (w, p')) : Regular p' := by
  have hestavel : Estavel (fun r => r.qtdHora = .ofNat r.stepHoras) Completo :=
    ⟨fun _ _ _ _ _ hr => hr, fun _ _ _ => rfl, fun _ _ _ _ => ⟨rfl, rfl, rfl, rfl⟩⟩
  have hguarda := Guarda.step hestavel ⟨hp.horas, hp.checkout, hp.consultas⟩ h
  exact ⟨hguarda.request, hguarda.checkout, hguarda.consultas⟩

end Pedido

end Parken
