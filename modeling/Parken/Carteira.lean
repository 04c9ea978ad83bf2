import Parken.Entities

set_option relaxedAutoImplicit false
set_option autoImplicit false

/-!
# The wallet screens

The list of the cards (`PagamentoTableViewController`) and the form that creates or edits one
(`PagamentoViewController`).

## Main definitions

* `Parken.PagamentoViewController.salvar`, `Parken.PagamentoViewController.save` — the form.
* `Parken.PagamentoTableViewController.excluir` — the deletion of a row.
* `Parken.Carteira`, `Parken.Carteira.step` — the state of the screens and their events.
* `Parken.Carteira.Passo` — the outcomes of a step.
-/

namespace Parken

/-- The fields of `PagamentoViewController`. -/
structure CartaoForm where
  cartaoNome : String
  cartaoNum : String
  cartaoData : String
  cartaoCod : String
deriving DecidableEq

namespace PagamentoViewController

/-- The form of a new card. -/
def vazia : CartaoForm := ⟨"", "", "", ""⟩

/-- The fields `viewDidLoad` shows for a card, `none` where an attribute is absent
(`as! String`). -/
def viewDidLoad (c : Cartao) : Option CartaoForm := do
  let nome ← c.cartaoNome
  let num ← c.cartaoNum
  let data ← c.cartaoData
  let cod ← c.cartaoCod
  return ⟨nome, num, data, cod⟩

/-- The alert of `salvar`. -/
def alertaCampos : Alerta := ⟨"Erro", "Preencha todos os campos"⟩

/-- The card the fields stand for. -/
def cartaoDoFormulario (f : CartaoForm) : Cartao where
  cartaoNome := some f.cartaoNome
  cartaoNum := some f.cartaoNum
  cartaoData := some f.cartaoData
  cartaoCod := some f.cartaoCod

/-- `save`: set the attributes of the card being edited, or insert a new card, and save the
context. -/
def save (cartao : Option ObjectID) (f : CartaoForm) (ok : Bool) : Write Change :=
  match cartao with
  | some k => ⟨[.setCartao k (cartaoDoFormulario f)], some ok⟩
  | none => ⟨[.insertCartao (cartaoDoFormulario f)], some ok⟩

/-- `salvar`: an alert where a field is empty, `save` otherwise. -/
def salvar (cartao : Option ObjectID) (f : CartaoForm) (ok : Bool) :
    Except Alerta (Write Change) :=
  if f.cartaoNome.isEmpty || f.cartaoNum.isEmpty || f.cartaoData.isEmpty ||
      f.cartaoCod.isEmpty then
    .error alertaCampos
  else .ok (save cartao f ok)

/-- The check of `salvar`: some field is empty. -/
def campoVazio (f : CartaoForm) : Bool :=
  f.cartaoNome.isEmpty || f.cartaoNum.isEmpty || f.cartaoData.isEmpty || f.cartaoCod.isEmpty

/-- `salvar` by its check. -/
lemma salvar_eq (cartao : Option ObjectID) (f : CartaoForm) (ok : Bool) :
    salvar cartao f ok =
      if campoVazio f then .error alertaCampos else .ok (save cartao f ok) := rfl

end PagamentoViewController

/-- `PagamentoTableViewController.tableView(_:commit:forRowAt:)` with `.delete` on the object of
the row: delete it and save the context. -/
def PagamentoTableViewController.excluir (cartao : ObjectID) (ok : Bool) : Write Change :=
  ⟨[.deleteCartao cartao], some ok⟩

/-- The state of the wallet screens. -/
structure Carteira where
  /-- `PagamentoTableViewController.cartoes`. -/
  cartoes : List ObjectID
  /-- The card `PagamentoViewController` edits, `none` for a new one. -/
  cartao : Option ObjectID
  /-- The fields of `PagamentoViewController`. -/
  campos : CartaoForm
  /-- The alert shown last. -/
  alerta : Option Alerta

/-- An event of the wallet screens. `ok` is the outcome of the event's save. -/
inductive Carteira.Event where
  /-- The list appears and fetches the cards in some order, or the fetch throws. -/
  | viewWillAppear (fetch : Option (List (ObjectID × Cartao)))
  /-- The user deletes a row of the list. -/
  | excluir (row : ℕ) (ok : Bool)
  /-- The user opens a row of the list (`abc`). -/
  | abrir (row : ℕ)
  /-- The user opens the form of a new card. -/
  | novo
  /-- The user edits the fields. -/
  | editar (f : CartaoForm)
  /-- The user confirms the form. -/
  | salvar (ok : Bool)

namespace Carteira

/-- The wallet screens at launch. -/
def inicial : Carteira := ⟨[], none, PagamentoViewController.vazia, none⟩

/-- One event: what it does to the shared context and the screens after it, or `none` where
the program traps. -/
def step (view : Store) (c : Carteira) : Event → Option (Write Change × Carteira)
  | .viewWillAppear none => some (.none, c)
  | .viewWillAppear (some ordem) =>
    some (.none, { c with cartoes := (view.cartoes.fetch ordem).rows.map Prod.fst })
  | .excluir row ok =>
    match c.cartoes[row]? with
    | none => none
    | some k => some (PagamentoTableViewController.excluir k ok,
        -- the row goes only when the save succeeded
        if ok then { c with cartoes := c.cartoes.eraseIdx row } else c)
  | .abrir row =>
    match c.cartoes[row]? with
    | none => none
    | some k =>
      match (view.cartoes.get? k).bind PagamentoViewController.viewDidLoad with
      | none => none
      | some f => some (.none, { c with cartao := some k, campos := f })
  | .novo => some (.none, { c with cartao := none, campos := PagamentoViewController.vazia })
  | .editar f => some (.none, { c with campos := f })
  | .salvar ok =>
    match PagamentoViewController.salvar c.cartao c.campos ok with
    | .error a => some (.none, { c with alerta := some a })
    | .ok w => some (w, c)

/-- The wallet screens change nothing but Cartoes. -/
lemma sobre_of_step {view : Store} {c c' : Carteira} {e : Event} {w : Write Change}
    (h : c.step view e = some (w, c')) : Sobre .cartao w := by
  cases e with
  | excluir row ok =>
    simp only [step] at h
    split at h <;> cases h
    exact sobre_singleton.mpr rfl
  | salvar ok =>
    simp only [step, PagamentoViewController.salvar] at h
    split at h <;> cases h
    · exact sobre_none _
    next hw =>
      split_ifs at hw
      cases hw
      cases c.cartao <;> exact sobre_singleton.mpr rfl
  | viewWillAppear fetch =>
    cases fetch <;> cases h <;> exact sobre_none _
  | abrir row =>
    simp only [step] at h
    repeat' split at h
    all_goals cases h
    exact sobre_none _
  | novo => cases h; exact sobre_none _
  | editar f => cases h; exact sobre_none _

/-! ## What a step can do -/

/-- The write of an event and the screens after it, case by case. -/
inductive Passo (view : Store) (c : Carteira) : Event → Write Change → Carteira → Prop where
  /-- The fetch of the list throws. -/
  | semLista : Passo view c (.viewWillAppear none) .none c
  | lista (ordem : List (ObjectID × Cartao)) :
      Passo view c (.viewWillAppear (some ordem)) .none
        { c with cartoes := (view.cartoes.fetch ordem).rows.map Prod.fst }
  | exclui {row : ℕ} {k : ObjectID} (ok : Bool) (hk : c.cartoes[row]? = some k) :
      Passo view c (.excluir row ok) (PagamentoTableViewController.excluir k ok)
        (if ok then { c with cartoes := c.cartoes.eraseIdx row } else c)
  | abre {row : ℕ} {k : ObjectID} {f : CartaoForm} (hk : c.cartoes[row]? = some k)
      (hf : (view.cartoes.get? k).bind PagamentoViewController.viewDidLoad = some f) :
      Passo view c (.abrir row) .none { c with cartao := some k, campos := f }
  | novo :
      Passo view c .novo .none { c with cartao := none, campos := PagamentoViewController.vazia }
  | edita (f : CartaoForm) : Passo view c (.editar f) .none { c with campos := f }
  /-- A field of the form is empty. -/
  | recusa (ok : Bool) :
      Passo view c (.salvar ok) .none
        { c with alerta := some PagamentoViewController.alertaCampos }
  | salva (ok : Bool) (hf : PagamentoViewController.campoVazio c.campos = false) :
      Passo view c (.salvar ok) (PagamentoViewController.save c.cartao c.campos ok) c

/-- **The step of the wallet screens.** A step ends in one of the states of `Passo`. -/
theorem passo_of_step {view : Store} {c c' : Carteira} {e : Event} {w : Write Change}
    (h : c.step view e = some (w, c')) : Passo view c e w c' := by
  cases e with
  | viewWillAppear fetch =>
    cases fetch with
    | none =>
      cases h
      exact .semLista
    | some ordem =>
      cases h
      exact .lista ordem
  | excluir row ok =>
    simp only [step] at h
    split at h <;> cases h
    next k hk => exact .exclui ok hk
  | abrir row =>
    simp only [step] at h
    split at h
    · cases h
    next k hk =>
      split at h <;> cases h
      next f hf => exact .abre hk hf
  | novo =>
    cases h
    exact .novo
  | editar f =>
    cases h
    exact .edita f
  | salvar ok =>
    simp only [step, PagamentoViewController.salvar_eq] at h
    cases hf : PagamentoViewController.campoVazio c.campos with
    | true =>
      rw [hf] at h
      cases h
      exact .recusa ok
    | false =>
      rw [hf] at h
      cases h
      exact .salva ok hf

end Carteira

end Parken
