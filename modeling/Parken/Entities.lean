import Parken.Lib.Double
import Parken.Lib.ManagedContext
import Parken.Lib.ObjectTable

set_option relaxedAutoImplicit false
set_option autoImplicit false

/-!
# The data model and the store

The three entities of `Parken.xcdatamodel`, the store that holds them, and the changes the
screens make to it through the shared managed object context
(`AppDelegate.persistentContainer.viewContext`). Every attribute is optional in the data model.

A Vaga has no identity but its object: the screens join a Requisicao to its Vaga by the string
`rua-numero-cep-titulo`, rebuilt in three files with three sets of fallbacks for absent
attributes.

Swift compares texts up to canonical equivalence. Here a text stands for its normal form, of which
there is one, so that `=` is the comparison of the source.

## Main definitions

* `Parken.Vaga`, `Parken.Requisicao`, `Parken.Cartao` — the entities.
* `Parken.Vaga.chaveHome`, `Parken.Vaga.chaveRequest`, `Parken.Vaga.chaveConfirmacao` — the
  three encoders of the join key.
* `Parken.Store`, `Parken.Change` — the store and its changes.
* `Parken.Contexto` — the shared context.

## Main results

* `Parken.Vaga.ComEndereco.chaveHome_eq`, `Parken.Vaga.ComEndereco.chaveRequest_eq` — on a
  Vaga with its four key attributes present the encoders agree.
-/

namespace Parken

/-- A point in time, in seconds. -/
abbrev Date := ℤ

/-- An object identifier. -/
abbrev ObjectID := ℕ

/-- Whether the garage is offered, by the name of the day (`Dictionary<String, Bool>`). -/
abbrev Frequencia := List (String × Bool)

/-- A position on the map. -/
structure GeoCoordinates where
  latitude : Double
  longitude : Double
deriving DecidableEq

/-- Entity `Vaga`: a garage offered for rent. -/
structure Vaga where
  id : Option String
  titulo : Option String
  descricao : Option String
  valor : Option Double
  cep : Option String
  rua : Option String
  numero : Option String
  complemento : Option String
  bairro : Option String
  cidade : Option String
  uf : Option String
  largura : Option String
  comprimento : Option String
  altura : Option String
  latitude : Option Double
  longitude : Option Double
  frequencia : Option Frequencia
deriving DecidableEq

/-- Entity `Requisicao`: a driver's request for a garage. -/
structure Requisicao where
  data : Option Date
  estado : Option String
  id : Option String
  placa : Option String
  qtdHoras : Option Double
  solicitante : Option String
  valorTotal : Option Double
  veiculo : Option String
deriving DecidableEq

/-- Entity `Cartao`: a payment card. -/
structure Cartao where
  cartaoNome : Option String
  cartaoNum : Option String
  cartaoData : Option String
  cartaoCod : Option String
deriving DecidableEq

/-- A Requisicao just inserted: the two numbers have the default `0.0` of the data model and
no other attribute is set. -/
def Requisicao.nova : Requisicao where
  data := none
  estado := none
  id := none
  placa := none
  qtdHoras := some (.finite 0)
  solicitante := none
  valorTotal := some (.finite 0)
  veiculo := none

/-! ## The join key -/

/-- The key of an address and a title: `"\(rua)-\(numero)-\(cep)-\(titulo)"`. -/
def chave (rua numero cep titulo : String) : String := s!"{rua}-{numero}-{cep}-{titulo}"

namespace Vaga

/-- The key as `HomeViewController.loadParkingLocateNear` rebuilds it. -/
def chaveHome (v : Vaga) : String :=
  chave (v.rua.getD "Rua") (v.numero.getD "Numero") (v.cep.getD "CEP") (v.titulo.getD "Titulo")

/-- The key as `RequestViewController.viewDidLoad` builds it. -/
def chaveRequest (v : Vaga) : String :=
  chave (v.rua.getD "Rua") (v.numero.getD "N/D") (v.cep.getD "00000-000")
    (v.titulo.getD "Titulo")

/-- The key as `ListaConfirmacoesTableViewController.cellForRowAt` rebuilds it. -/
def chaveConfirmacao (v : Vaga) : String :=
  chave (v.rua.getD "Rua") (v.numero.getD "N/D") (v.cep.getD "N/D") (v.titulo.getD "Titulo")

/-- The position of a Vaga, if it has one. -/
def posicao (v : Vaga) : Option GeoCoordinates :=
  match v.latitude, v.longitude with
  | some latitude, some longitude => some ⟨latitude, longitude⟩
  | _, _ => none

/-- The four attributes of the key are present. Every Vaga the form stores is such. -/
structure ComEndereco (v : Vaga) : Prop where
  rua : v.rua.isSome
  numero : v.numero.isSome
  cep : v.cep.isSome
  titulo : v.titulo.isSome

/-- On a Vaga with an address the key of Home is the key of the approvals screen. -/
lemma ComEndereco.chaveHome_eq {v : Vaga} (h : v.ComEndereco) :
    v.chaveHome = v.chaveConfirmacao := by
  obtain ⟨_, hn⟩ := Option.isSome_iff_exists.mp h.numero
  obtain ⟨_, hc⟩ := Option.isSome_iff_exists.mp h.cep
  simp [chaveHome, chaveConfirmacao, hn, hc]

/-- On a Vaga with an address the key of the request screen is the key of the approvals
screen. -/
lemma ComEndereco.chaveRequest_eq {v : Vaga} (h : v.ComEndereco) :
    v.chaveRequest = v.chaveConfirmacao := by
  obtain ⟨_, hc⟩ := Option.isSome_iff_exists.mp h.cep
  simp [chaveRequest, chaveConfirmacao, hc]

end Vaga

/-- An alert with its two texts (`UIAlertController`). -/
structure Alerta where
  title : String
  message : String
deriving DecidableEq

/-- The order in which UIKit fires the two reactions to one button press. -/
inductive Ordem where
  /-- The action first, then the segue. -/
  | acaoPrimeiro
  /-- The segue first, then the action. -/
  | seguePrimeiro
deriving DecidableEq

/-! ## The store -/

/-- The persisted objects, by entity. -/
structure Store where
  vagas : ObjectTable Vaga
  requisicoes : ObjectTable Requisicao
  cartoes : ObjectTable Cartao
deriving DecidableEq

/-- The store of a fresh installation. -/
def Store.empty : Store := ⟨.empty, .empty, .empty⟩

/-- A change a screen makes to the managed objects. -/
inductive Change where
  /-- Insert a Vaga with its attributes set. -/
  | insertVaga (v : Vaga)
  /-- Set the `frequencia` of a Vaga. -/
  | setFrequencia (vaga : ObjectID) (f : Frequencia)
  /-- Delete a Vaga. -/
  | deleteVaga (vaga : ObjectID)
  /-- Insert a Requisicao without attributes. -/
  | insertRequisicao
  /-- Set the attributes of a Requisicao. -/
  | setRequisicao (requisicao : ObjectID) (r : Requisicao)
  /-- Set the `estado` of a Requisicao. -/
  | setEstado (requisicao : ObjectID) (estado : String)
  /-- Insert a Cartao with its attributes set. -/
  | insertCartao (c : Cartao)
  /-- Set the attributes of a Cartao. -/
  | setCartao (cartao : ObjectID) (c : Cartao)
  /-- Delete a Cartao. -/
  | deleteCartao (cartao : ObjectID)
deriving DecidableEq

/-- The store after a change. -/
def Change.apply : Change → Store → Store
  | .insertVaga v, s => { s with vagas := s.vagas.insert v }
  | .setFrequencia k f, s =>
    { s with vagas := s.vagas.modify k fun v => { v with frequencia := some f } }
  | .deleteVaga k, s => { s with vagas := s.vagas.erase k }
  | .insertRequisicao, s => { s with requisicoes := s.requisicoes.insert .nova }
  | .setRequisicao k r, s => { s with requisicoes := s.requisicoes.modify k fun _ => r }
  | .setEstado k e, s =>
    { s with requisicoes := s.requisicoes.modify k fun r => { r with estado := some e } }
  | .insertCartao c, s => { s with cartoes := s.cartoes.insert c }
  | .setCartao k c, s => { s with cartoes := s.cartoes.modify k fun _ => c }
  | .deleteCartao k, s => { s with cartoes := s.cartoes.erase k }

instance : Edit Change Store := ⟨Change.apply⟩

/-- An entity of the data model. -/
inductive Entidade where
  | vaga
  | requisicao
  | cartao
deriving DecidableEq

/-- The entity a change is about. -/
def Change.entidade : Change → Entidade
  | .insertVaga _ | .setFrequencia _ _ | .deleteVaga _ => .vaga
  | .insertRequisicao | .setRequisicao _ _ | .setEstado _ _ => .requisicao
  | .insertCartao _ | .setCartao _ _ | .deleteCartao _ => .cartao

/-- Every change of the write is about entity `t`. -/
def Sobre (t : Entidade) (w : Write Change) : Prop := ∀ d ∈ w.changes, d.entidade = t

@[simp] lemma sobre_none (t : Entidade) : Sobre t .none :=
  fun _ h => absurd h (by simp [Write.none])

@[simp] lemma sobre_singleton {t : Entidade} {d : Change} {save : Option Bool} :
    Sobre t ⟨[d], save⟩ ↔ d.entidade = t := by
  simp [Sobre]

/-- Changes of other entities leave the Vagas. -/
lemma vagas_applyAll {ds : List Change} (h : ∀ d ∈ ds, d.entidade ≠ .vaga) (s : Store) :
    (Edit.applyAll ds s).vagas = s.vagas := by
  induction ds generalizing s with
  | nil => rfl
  | cons d ds ih =>
    rw [ManagedContext.applyAll_cons, ih fun d' hd' => h d' (List.mem_cons_of_mem _ hd')]
    have hd := h d (by simp)
    cases d <;> first | rfl | exact absurd rfl hd

/-- Changes of other entities leave the Requisicoes. -/
lemma requisicoes_applyAll {ds : List Change} (h : ∀ d ∈ ds, d.entidade ≠ .requisicao)
    (s : Store) : (Edit.applyAll ds s).requisicoes = s.requisicoes := by
  induction ds generalizing s with
  | nil => rfl
  | cons d ds ih =>
    rw [ManagedContext.applyAll_cons, ih fun d' hd' => h d' (List.mem_cons_of_mem _ hd')]
    have hd := h d (by simp)
    cases d <;> first | rfl | exact absurd rfl hd

/-- Changes of other entities leave the Cartoes. -/
lemma cartoes_applyAll {ds : List Change} (h : ∀ d ∈ ds, d.entidade ≠ .cartao) (s : Store) :
    (Edit.applyAll ds s).cartoes = s.cartoes := by
  induction ds generalizing s with
  | nil => rfl
  | cons d ds ih =>
    rw [ManagedContext.applyAll_cons, ih fun d' hd' => h d' (List.mem_cons_of_mem _ hd')]
    have hd := h d (by simp)
    cases d <;> first | rfl | exact absurd rfl hd

/-- The managed object context all screens share. -/
abbrev Contexto := ManagedContext Store Change

end Parken
