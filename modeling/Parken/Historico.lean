import Parken.Entities

set_option relaxedAutoImplicit false
set_option autoImplicit false

/-!
# The history screens

The list of the driver's requests (`ListaHistoricoTableViewController`) and the screen of one
of them (`HistoricoViewController`). The list keeps the objects it fetched and reads their
attributes from the shared context.

## Main definitions

* `Parken.HistoricoViewController.viewDidLoad` — the screen of a request.
* `Parken.Historico`, `Parken.Historico.step` — the state of the screens and their events.
-/

namespace Parken

namespace HistoricoViewController

/-- What `viewDidLoad` shows; the screen formats the date. -/
structure Rotulos where
  id : String
  estado : String
  data : Date
  nome : String
  veiculo : String
  placa : String
deriving DecidableEq

/-- `viewDidLoad`, `none` where the request has no date (`as! Date`). -/
def viewDidLoad (solicitacao : Requisicao) : Option Rotulos :=
  solicitacao.data.map fun data =>
    { id := solicitacao.id.getD "ID nulo"
      estado := solicitacao.estado.getD "Pendente"
      data := data
      nome := solicitacao.solicitante.getD "Não encontrado"
      veiculo := solicitacao.veiculo.getD "Não encontrado"
      placa := solicitacao.placa.getD "Não encontrado" }

end HistoricoViewController

/-- The state of the history screens. -/
structure Historico where
  /-- `ListaHistoricoTableViewController.solicitacoes`; the table reloads with every change. -/
  solicitacoes : List ObjectID
  /-- The screen of the request opened last. -/
  rotulos : Option HistoricoViewController.Rotulos

/-- An event of the history screens. -/
inductive Historico.Event where
  /-- The list appears and fetches the requests, sorted by id with ties in some order, or the
  fetch throws. -/
  | viewWillAppear (fetch : Option (List (ObjectID × Requisicao)))
  /-- The user opens a row of the list. -/
  | abrir (row : ℕ)

namespace Historico

/-- The history screens at launch. -/
def inicial : Historico := ⟨[], none⟩

/-- One event: the screens after it, or `none` where the program traps. -/
def step (view : Store) (h : Historico) : Event → Option Historico
  | .viewWillAppear none => some h
  | .viewWillAppear (some ordem) =>
    some { h with solicitacoes := (view.requisicoes.fetch ordem).rows.map Prod.fst }
  | .abrir row =>
    match h.solicitacoes[row]? with
    | none => some h
    | some k =>
      match view.requisicoes.get? k with
      | none => some h
      | some solicitacao =>
        (HistoricoViewController.viewDidLoad solicitacao).map fun r => { h with rotulos := some r }

end Historico

end Parken
