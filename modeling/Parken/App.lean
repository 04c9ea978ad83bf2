import Parken.Carteira
import Parken.Confirmacao
import Parken.Historico
import Parken.Home.Model
import Parken.Pedido

set_option relaxedAutoImplicit false
set_option autoImplicit false

/-!
# The application

The screens of a signed-in user over the one context they share
(`AppDelegate.persistentContainer.viewContext`). An event belongs to one screen, or is the
entry into the background, where `saveContext` saves what is pending.

## Main definitions

* `Parken.App`, `Parken.App.Event` — the state of the application and its events.
* `Parken.App.opera` — what an event does to the screens, and its write to the context.
* `Parken.App.step` — one event with its write executed.

## Main results

* `Parken.App.step_eq_some_iff` — a step is an operation and the execution of its write.
* `Parken.App.view_exec`, `Parken.App.persisted_exec` — the two versions of the store after a
  step.
* `Parken.App.sobre_of_opera` — an event writes about one kind of object only.
* `Parken.App.pedido_of_opera` — what an event does to the request screens.
-/

namespace Parken

/-- The state of the application. -/
structure App where
  ctx : Contexto
  garage : Garage
  carteira : Carteira
  home : Home
  pedido : Pedido
  confirmacao : Confirmacao
  historico : Historico

/-- An event of the application. -/
inductive App.Event where
  | garage (e : Garage.Event)
  | carteira (e : Carteira.Event)
  /-- An event of Home on the day `hoje`. -/
  | home (e : Home.Event) (hoje : Date)
  | pedido (e : Pedido.Event)
  | confirmacao (e : Confirmacao.Event)
  | historico (e : Historico.Event)
  /-- The application enters the background; `ok` is the outcome of `saveContext`. -/
  | background (ok : Bool)

/-- An event of Home whose fetch returns the stored Vagas, in the order it asks for. -/
def Home.Event.comFetch (view : Store) : Home.Event → Home.Event
  | .suggestSelect row fetch =>
    .suggestSelect row (fetch.map fun ordem => view.vagas.fetch ordem.rows)
  | e => e

namespace App

open Edit

/-- The application at launch, over an empty store. -/
def inicial : App where
  ctx := .opened .empty
  garage := .inicial
  carteira := .inicial
  home := .viewDidLoad
  pedido := .inicial
  confirmacao := .inicial
  historico := .inicial

/-- The store as the screens read it. -/
def view (s : App) : Store := s.ctx.view

/-- The store on disk. -/
def persisted (s : App) : Store := s.ctx.persisted

/-- The request screens after an event of Home: the segue of the request button opens the
request screen with what `prepare` hands over. -/
def segue (s : App) (hoje : Date) : Home.Event → Pedido
  | .requestPark ordem =>
    if s.home.thirdStepHidden then s.pedido
    else match s.home.requestPark ordem with
      | some (_, vagaSelecionada, vagaFinal) =>
        s.pedido.abrir (vagaFinal.map Prod.snd) vagaSelecionada.vaga.1 hoje
      | none => s.pedido
  | _ => s.pedido

/-- `saveContext`: nothing where nothing is pending; a save that throws traps
(`fatalError`). -/
def saveContext (s : App) (ok : Bool) : Option (Write Change) :=
  if s.ctx.pending.isEmpty then some .none
  else if ok then some (.flush true) else none

/-- What an event does: its write to the context, and the screens after it. `none` where the
program traps. -/
def opera (env : Ambiente) (s : App) : Event → Option (Write Change × App)
  | .garage e => (s.garage.step s.view e).map fun r => (r.1, { s with garage := r.2 })
  | .carteira e => (s.carteira.step s.view e).map fun r => (r.1, { s with carteira := r.2 })
  | .home e hoje => (s.home.step env (e.comFetch s.view)).map fun h =>
    (.none, { s with home := h, pedido := s.segue hoje e })
  | .pedido e => (s.pedido.step s.view e).map fun r => (r.1, { s with pedido := r.2 })
  | .confirmacao e =>
    (s.confirmacao.step s.view e).map fun r => (r.1, { s with confirmacao := r.2 })
  | .historico e => (s.historico.step s.view e).map fun h => (.none, { s with historico := h })
  | .background ok => (s.saveContext ok).map fun w => (w, s)

/-- One event, with its write executed on the shared context. -/
def step (env : Ambiente) (s : App) (e : Event) : Option App :=
  (s.opera env e).map fun r => { r.2 with ctx := s.ctx.exec r.1 }

variable {env : Ambiente}

/-- A step is an operation and the execution of its write. -/
lemma step_eq_some_iff {s s' : App} {e : Event} :
    s.step env e = some s' ↔
      ∃ w t, s.opera env e = some (w, t) ∧ s' = { t with ctx := s.ctx.exec w } := by
  simp only [step, Option.map_eq_some_iff, Prod.exists]
  constructor
  · rintro ⟨w, t, h, rfl⟩; exact ⟨w, t, h, rfl⟩
  · rintro ⟨w, t, h, rfl⟩; exact ⟨w, t, h, rfl⟩

/-- The store the screens read after a write. -/
@[simp] lemma view_exec (s t : App) (w : Write Change) :
    ({ t with ctx := s.ctx.exec w } : App).view = applyAll w.changes s.view :=
  ManagedContext.view_exec s.ctx w

/-- The store on disk after a write. -/
lemma persisted_exec (s t : App) (w : Write Change) :
    ({ t with ctx := s.ctx.exec w } : App).persisted =
      if w.Saves then applyAll w.changes s.view else s.persisted := by
  simp only [persisted, ManagedContext.persisted_exec, ManagedContext.view_exec]
  rfl

/-! ## What an event writes about -/

/-- The entity an event writes about, if it writes. -/
def Event.entidade : Event → Entidade
  | .garage _ => .vaga
  | .carteira _ => .cartao
  | _ => .requisicao

/-- An event writes about its entity only. -/
theorem sobre_of_opera {s t : App} {e : Event} {w : Write Change}
    (h : s.opera env e = some (w, t)) : Sobre e.entidade w := by
  cases e with
  | garage e =>
    obtain ⟨r, hr, h⟩ := Option.map_eq_some_iff.mp h
    cases h
    exact (Garage.escrita_of_step hr).sobre
  | carteira e =>
    obtain ⟨r, hr, h⟩ := Option.map_eq_some_iff.mp h
    cases h
    exact Carteira.sobre_of_step hr
  | pedido e =>
    obtain ⟨⟨w', p⟩, hr, h⟩ := Option.map_eq_some_iff.mp h
    cases h
    cases Pedido.escrita_of_step hr <;>
      simp [Sobre, Write.none, Event.entidade, Change.entidade]
  | confirmacao e =>
    obtain ⟨⟨w', c⟩, hr, h⟩ := Option.map_eq_some_iff.mp h
    cases h
    cases Confirmacao.escrita_of_step hr with
    | nada h => simp [Sobre, h]
    | aprova ok hk => simp [Sobre, Event.entidade, Change.entidade]
    | rejeita ok hk => simp [Sobre, Event.entidade, Change.entidade]
  | home e hoje =>
    obtain ⟨r, hr, h⟩ := Option.map_eq_some_iff.mp h
    cases h
    exact sobre_none _
  | historico e =>
    obtain ⟨r, hr, h⟩ := Option.map_eq_some_iff.mp h
    cases h
    exact sobre_none _
  | background ok =>
    obtain ⟨r, hr, h⟩ := Option.map_eq_some_iff.mp h
    cases h
    unfold saveContext at hr
    split_ifs at hr
    · cases hr
      exact sobre_none _
    · cases hr
      simp [Sobre, Write.flush]

/-- An event writes nothing about another entity. -/
lemma entidade_ne_of_opera {s t : App} {e : Event} {w : Write Change} {u : Entidade}
    (h : s.opera env e = some (w, t)) (hu : e.entidade ≠ u) : ∀ d ∈ w.changes, d.entidade ≠ u :=
  fun d hd => sobre_of_opera h d hd ▸ hu

/-! ## What an event does to the request screens -/

/-- The segue of Home opens the request screen, or leaves the screens as they are. -/
lemma segue_eq (s : App) (hoje : Date) (e : Home.Event) :
    s.segue hoje e = s.pedido ∨
      ∃ vaga escolhida, s.segue hoje e = s.pedido.abrir vaga escolhida hoje := by
  unfold segue
  split
  · split_ifs
    · exact .inl rfl
    · split
      · exact .inr ⟨_, _, rfl⟩
      · exact .inl rfl
  · exact .inl rfl

/-- An event is one of the request screens, opens them from Home, or leaves them as they are. -/
theorem pedido_of_opera {s t : App} {e : Event} {w : Write Change}
    (h : s.opera env e = some (w, t)) :
    (∃ e', e = .pedido e' ∧ s.pedido.step s.view e' = some (w, t.pedido)) ∨
      ((∀ e', e ≠ .pedido e') ∧ (t.pedido = s.pedido ∨
        ∃ vaga escolhida hoje, t.pedido = s.pedido.abrir vaga escolhida hoje)) := by
  cases e with
  | pedido e =>
    obtain ⟨⟨w', p⟩, hr, h⟩ := Option.map_eq_some_iff.mp h
    cases h
    exact .inl ⟨e, rfl, hr⟩
  | home e hoje =>
    obtain ⟨r, hr, h⟩ := Option.map_eq_some_iff.mp h
    cases h
    refine .inr ⟨by simp, ?_⟩
    obtain h | ⟨vaga, escolhida, h⟩ := s.segue_eq hoje e
    · exact .inl h
    · exact .inr ⟨vaga, escolhida, hoje, h⟩
  | _ =>
    obtain ⟨r, hr, h⟩ := Option.map_eq_some_iff.mp h
    cases h
    exact .inr ⟨by simp, .inl rfl⟩

/-! ## A run

The owner offers a garage, the driver registers a card, finds the garage and requests it. -/

/-- The position of the garage. -/
def posicao : GeoCoordinates := ⟨.finite (-23), .finite (-46)⟩

/-- The form of the garage. -/
def formulario : NovaVagaForm where
  txtTitulo := "Garagem"
  txtDescricao := "Coberta"
  txtPreco := "10"
  txtCep := "01000-000"
  txtRua := "Rua A"
  txtNumero := "1"
  txtComplemento := ""
  txtBairro := "Centro"
  txtCidade := "São Paulo"
  txtUF := "SP"
  txtLargura := "2"
  txtComprimento := "4"
  txtAltura := "2"
  dias := ⟨true, true, true, true, true, false, false⟩

/-- The owner offers the garage. -/
def oferta : List Event :=
  [.garage .abrirNova, .garage (.editar 0 formulario), .garage (.salvar 0),
    .garage (.geocode 0 (some posicao) true)]

/-- The driver registers a card. -/
def cadastro : List Event :=
  [.carteira .novo, .carteira (.editar ⟨"Ana", "4444", "01/30", "123"⟩), .carteira (.salvar true)]

/-- The driver finds the garage on Home and presses the request button. -/
def escolha : List Event :=
  [.home (.textDidChange "Rua A") 0,
    .home (.suggestCallback 0 (some [⟨"Rua A", some posicao⟩])) 0,
    .home (.suggestSelect 0 (some ⟨[], by decide⟩)) 0, .home (.geocodeCallback 0 true) 0,
    .home (.parkingSelect 0) 0, .home (.requestPark .seguePrimeiro) 0]

/-- The driver fills the request form, goes on to the payment and confirms. -/
def solicitacao : List Event :=
  [.pedido (.marca "Fiat"), .pedido (.modelo "Uno"), .pedido (.placa "AAA-0001"),
    .pedido (.definirHora 2), .pedido (.prosseguir .acaoPrimeiro true),
    .pedido (.confirmar (some "ana"))]

end App

end Parken
