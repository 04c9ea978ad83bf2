import Parken.Garage
import Parken.Lib.Runs

set_option relaxedAutoImplicit false
set_option autoImplicit false

/-!
# The approvals screens

The owner's list of pending requests (`ListaConfirmacoesTableViewController`) and the screen
that approves or rejects one (`ConfirmarVagaViewController`).

The list joins each request to its Vaga while it renders the request's row, and leaves the Vaga
it found in one field, `vagaSelec`, that all rows share. When a row is selected,
`prepare(for:sender:)` hands over the request of that row and whatever Vaga is in the field.

## Main definitions

* `Parken.ListaConfirmacoes.cellForRowAt`, `Parken.ListaConfirmacoes.prepare` — the list.
* `Parken.ConfirmarVagaViewController.save` — the decision.
* `Parken.Confirmacao`, `Parken.Confirmacao.step` — the state of the screens and their events.

## Main results

* `Parken.ListaConfirmacoes.run_cellForRowAt` — after any sequence of renderings the field
  holds the Vaga of the row rendered last.
* `Parken.ListaConfirmacoes.handsOver_iff` — the selected request goes with its own Vaga
  exactly when the row rendered last asks for the same Vaga.
-/

namespace Parken

/-- The predicate `estado CONTAINS[c] 'Pendente'` of the fetch. -/
def contemPendente (estado : String) : Bool :=
  estado.toLower.toList.tails.any fun cs => "pendente".toList.isPrefixOf cs

/-- The state of `ListaConfirmacoesTableViewController`, with the records as the last fetches found
them. No screen changes the attributes of a request and of a Vaga that the list reads, once they are
set; what the objects answer once their record is deleted is left out. -/
structure ListaConfirmacoes where
  requisicoes : List (ObjectID × Requisicao)
  vagas : List (ObjectID × Vaga)
  vagaSelec : Option (ObjectID × Vaga)
deriving DecidableEq

/-- What a rendered cell shows; the date is formatted by the screen. -/
structure CelulaConfirmacao where
  textLabel : String
  detailTextLabel : Date
deriving DecidableEq

/-- The id of a request as the matching loop reads it. -/
def Requisicao.idConfirmacao (r : Requisicao) : String := r.id.getD "N/D"

namespace ListaConfirmacoes

/-- The matching loop of `cellForRowAt`: the first Vaga whose rebuilt key is the id of the
request. The texts are compared in their normal form. -/
def buscaVaga (idRequisicao : String) : List (ObjectID × Vaga) → Option (ObjectID × Vaga)
  | [] => none
  | vaga :: vagas =>
    if idRequisicao = vaga.2.chaveConfirmacao then some vaga else buscaVaga idRequisicao vagas

/-- `tableView(_:cellForRowAt:)`: the cell, blank where no Vaga matches, and the list with its
`vagaSelec` after the loop; `none` where the row is out of range or a matched request has no
date (`as! Date`). -/
def cellForRowAt (l : ListaConfirmacoes) (row : ℕ) :
    Option (Option CelulaConfirmacao × ListaConfirmacoes) :=
  match l.requisicoes[row]? with
  | none => none
  | some requisicao =>
    match buscaVaga requisicao.2.idConfirmacao l.vagas with
    | none => some (none, l)
    | some vaga =>
      match requisicao.2.data with
      | none => none
      | some data =>
        let titulo := vaga.2.titulo.getD "Titulo"
        let rua := vaga.2.rua.getD "Rua"
        let numero := vaga.2.numero.getD "N/D"
        some (some ⟨s!"{titulo} - {rua}, {numero}", data⟩, { l with vagaSelec := some vaga })

/-- `prepare(for:sender:)` on `segueConfirmacao` with a row selected: the request of the row and
the Vaga in `vagaSelec`; `none` where it traps. -/
def prepare (l : ListaConfirmacoes) (row : ℕ) :
    Option ((ObjectID × Requisicao) × (ObjectID × Vaga)) :=
  match l.requisicoes[row]?, l.vagaSelec with
  | some requisicao, some vaga => some (requisicao, vaga)
  | _, _ => none

/-- The rendering of a row as a step of the list. -/
def render (l : ListaConfirmacoes) (row : ℕ) : Option ListaConfirmacoes :=
  (l.cellForRowAt row).map Prod.snd

/-- `viewWillAppear`: the requests are fetched first, then the Vagas; a fetch that throws leaves
what the list had, and the fetches after it undone. -/
def viewWillAppear (view : Store) (l : ListaConfirmacoes)
    (fetch : Option (List (ObjectID × Requisicao))) (fetchVaga : Option (List (ObjectID × Vaga))) :
    ListaConfirmacoes :=
  match fetch with
  | none => l
  | some ordem =>
    let pendentes := (view.requisicoes.fetch ordem).rows.filter fun r =>
      (r.2.estado.map contemPendente).getD false
    match fetchVaga with
    | none => { l with requisicoes := pendentes }
    | some ordemVaga =>
      { l with requisicoes := pendentes, vagas := (view.vagas.fetch ordemVaga).rows }

/-- The loop is a first-match search. -/
lemma buscaVaga_eq_find? (idRequisicao : String) (vagas : List (ObjectID × Vaga)) :
    buscaVaga idRequisicao vagas =
      vagas.find? fun vaga => idRequisicao = vaga.2.chaveConfirmacao := by
  induction vagas with
  | nil => rfl
  | cons vaga vagas ih =>
    by_cases h : idRequisicao = vaga.2.chaveConfirmacao
    · simp [buscaVaga, h]
    · simp [buscaVaga, h, ih]

/-- Where exactly one Vaga of the list has the key, the loop finds it. -/
lemma buscaVaga_eq_some_iff {idRequisicao : String} {vagas : List (ObjectID × Vaga)}
    (h : ∃! vaga, vaga ∈ vagas ∧ idRequisicao = vaga.2.chaveConfirmacao)
    {vaga : ObjectID × Vaga} :
    buscaVaga idRequisicao vagas = some vaga ↔
      vaga ∈ vagas ∧ idRequisicao = vaga.2.chaveConfirmacao := by
  have hfound : ∀ v, buscaVaga idRequisicao vagas = some v →
      v ∈ vagas ∧ idRequisicao = v.2.chaveConfirmacao := by
    intro v hv
    rw [buscaVaga_eq_find?] at hv
    exact ⟨List.mem_of_find?_eq_some hv, by simpa using List.find?_some hv⟩
  refine ⟨hfound vaga, fun hvaga => ?_⟩
  cases hb : buscaVaga idRequisicao vagas with
  | none =>
    rw [buscaVaga_eq_find?] at hb
    exact absurd hvaga.2 (by simpa using List.find?_eq_none.mp hb vaga hvaga.1)
  | some v => rw [h.unique (hfound v hb) hvaga]

/-! ## What a sequence of renderings leaves -/

/-- Each request of the list asks for exactly one Vaga of the list. -/
def Casada (l : ListaConfirmacoes) : Prop :=
  ∀ r ∈ l.requisicoes, ∃! vaga, vaga ∈ l.vagas ∧ r.2.idConfirmacao = vaga.2.chaveConfirmacao

/-- The rendering of a row of a matched list: it traps exactly where the request has no date,
and leaves the Vaga of the request in `vagaSelec`. -/
lemma render_eq_some_iff {l l' : ListaConfirmacoes} (hl : l.Casada) {row : ℕ}
    {r : ObjectID × Requisicao} (hr : l.requisicoes[row]? = some r) :
    l.render row = some l' ↔ r.2.data.isSome ∧
      ∃ vaga, vaga ∈ l.vagas ∧ r.2.idConfirmacao = vaga.2.chaveConfirmacao ∧
        l' = { l with vagaSelec := some vaga } := by
  obtain ⟨vaga, hvaga, huniq⟩ := hl r (List.mem_of_getElem? hr)
  have hb : buscaVaga r.2.idConfirmacao l.vagas = some vaga :=
    (buscaVaga_eq_some_iff ⟨vaga, hvaga, huniq⟩).mpr hvaga
  simp only [render, cellForRowAt, hr, hb]
  cases hd : r.2.data with
  | none => simp
  | some data =>
    simp only [Option.map_some, Option.some.injEq, Option.isSome_some, true_and]
    constructor
    · rintro rfl
      exact ⟨vaga, hvaga.1, hvaga.2, rfl⟩
    · rintro ⟨v, hv, hk, rfl⟩
      rw [huniq v ⟨hv, hk⟩]

/-- **The shared field.** Over a matched list, a sequence of renderings that ends with row
`last` traps exactly where some rendered request has no date, and otherwise leaves the Vaga of
the request of row `last` in `vagaSelec`, whatever was rendered before.

**Proof sketch.** Induction on the rows before the last. Each rendering changes `vagaSelec`
only, so the list stays matched, and the last one overwrites the field. -/
theorem run_cellForRowAt {l l' : ListaConfirmacoes} (hl : l.Casada) (rows : List ℕ) (last : ℕ)
    (hrows : ∀ row ∈ rows, row < l.requisicoes.length) {r : ObjectID × Requisicao}
    (hr : l.requisicoes[last]? = some r) :
    Runs.run render (rows ++ [last]) l = some l' ↔
      (∀ row ∈ rows ++ [last], ∀ q, l.requisicoes[row]? = some q → q.2.data.isSome) ∧
        ∃ vaga, vaga ∈ l.vagas ∧ r.2.idConfirmacao = vaga.2.chaveConfirmacao ∧
          l' = { l with vagaSelec := some vaga } := by
  induction rows generalizing l with
  | nil =>
    simp only [List.nil_append, Runs.run_cons, Option.bind_eq_some_iff]
    simp only [Runs.run_nil, Option.some.injEq, exists_eq_right, List.mem_singleton,
      forall_eq, hr]
    simpa using render_eq_some_iff hl hr
  | cons row rows ih =>
    obtain ⟨q, hq⟩ : ∃ q, l.requisicoes[row]? = some q :=
      ⟨_, List.getElem?_eq_getElem (hrows row (by simp))⟩
    simp only [List.cons_append, Runs.run_cons, Option.bind_eq_some_iff]
    constructor
    · rintro ⟨t, ht, hrun⟩
      obtain ⟨hd, vaga, -, -, rfl⟩ := (render_eq_some_iff hl hq).mp ht
      obtain ⟨hds, hv⟩ := (ih (l := { l with vagaSelec := some vaga }) hl
        (fun k hk => hrows k (List.mem_cons_of_mem _ hk)) hr).mp hrun
      refine ⟨fun k hk p hp => ?_, hv⟩
      rcases List.mem_cons.mp hk with rfl | hk
      · obtain rfl : q = p := by simpa [hq] using hp
        exact hd
      · exact hds k hk p hp
    · rintro ⟨hds, hv⟩
      obtain ⟨vaga, hvaga, -⟩ := hl q (List.mem_of_getElem? hq)
      refine ⟨{ l with vagaSelec := some vaga }, (render_eq_some_iff hl hq).mpr
        ⟨hds row (by simp) q hq, vaga, hvaga.1, hvaga.2, rfl⟩, ?_⟩
      exact (ih (l := { l with vagaSelec := some vaga }) hl
        (fun k hk => hrows k (List.mem_cons_of_mem _ hk)) hr).mpr
        ⟨fun k hk => hds k (List.mem_cons_of_mem _ hk), hv⟩

/-- After the renderings `rows`, selecting row `i` hands over the request of row `i` with a
Vaga of the list whose key is the id of that request. -/
def HandsOver (l : ListaConfirmacoes) (rows : List ℕ) (i : ℕ) : Prop :=
  ∃ l' r vaga, Runs.run render rows l = some l' ∧ l'.prepare i = some (r, vaga) ∧
    l.requisicoes[i]? = some r ∧ vaga ∈ l.vagas ∧
    r.2.idConfirmacao = vaga.2.chaveConfirmacao

/-- **What the approvals list hands over.** Let each request of the list ask for exactly one
Vaga, and let `i` be among the rendered rows. Then selecting row `i` hands over its request with
its Vaga exactly when every rendered request has a date and the request rendered last has the id
of the selected one.

**Proof sketch.** By `run_cellForRowAt` the field holds the Vaga of the request rendered last,
which is the Vaga of request `i` exactly when the two ids agree. -/
theorem handsOver_iff (l : ListaConfirmacoes) (hl : l.Casada) (rows : List ℕ) (last i : ℕ)
    (hrows : ∀ row ∈ rows ++ [last], row < l.requisicoes.length) (hi : i ∈ rows ++ [last]) :
    l.HandsOver (rows ++ [last]) i ↔
      (∀ row ∈ rows ++ [last], ∀ q, l.requisicoes[row]? = some q → q.2.data.isSome) ∧
        l.requisicoes[last]?.map (fun r => r.2.idConfirmacao) =
          l.requisicoes[i]?.map (fun r => r.2.idConfirmacao) := by
  obtain ⟨q, hq⟩ : ∃ q, l.requisicoes[last]? = some q :=
    ⟨_, List.getElem?_eq_getElem (hrows last (by simp))⟩
  obtain ⟨p, hp⟩ : ∃ p, l.requisicoes[i]? = some p :=
    ⟨_, List.getElem?_eq_getElem (hrows i hi)⟩
  have hrun : ∀ l', Runs.run render (rows ++ [last]) l = some l' ↔ _ := fun _ =>
    run_cellForRowAt hl rows last (fun row h => hrows row (List.mem_append_left _ h)) hq
  simp only [hq, hp, Option.map_some, Option.some.injEq]
  constructor
  · rintro ⟨l', r, vaga, hl', hprep, hr, -, hk⟩
    obtain ⟨hds, v, -, hv, rfl⟩ := (hrun l').mp hl'
    obtain rfl : p = r := by simpa [hp] using hr
    obtain ⟨-, rfl⟩ : p = p ∧ v = vaga := by simpa [prepare, hp] using hprep
    exact ⟨hds, hv.trans hk.symm⟩
  · rintro ⟨hds, hid⟩
    obtain ⟨vaga, hvaga, -⟩ := hl q (List.mem_of_getElem? hq)
    refine ⟨{ l with vagaSelec := some vaga }, p, vaga,
      (hrun _).mpr ⟨hds, vaga, hvaga.1, hvaga.2, rfl⟩, ?_, hp, hvaga.1, hid ▸ hvaga.2⟩
    simp [prepare, hp]

/-- Two requests for two garages. -/
def duas : ListaConfirmacoes where
  requisicoes :=
    [(0, { Requisicao.nova with
        data := some 0, estado := some "Pendente", id := some "A-1-1-T", placa := some "P" }),
      (1, { Requisicao.nova with
        data := some 0, estado := some "Pendente", id := some "B-1-1-T", placa := some "Q" })]
  vagas := [(0, vagaNaRua "A"), (1, vagaNaRua "B")]
  vagaSelec := none
where
  /-- A garage of the example. -/
  vagaNaRua (rua : String) : Vaga :=
    NovaVagaViewController.novaVaga ⟨0, chave rua "1" "1" "T", .finite 10, [], ""⟩
      { NovaVagaViewController.aberta with
        txtTitulo := "T", txtRua := rua, txtNumero := "1", txtCep := "1" } ⟨.finite 0, .finite 0⟩

/-- Each of the two requests asks for exactly one of the two garages. -/
lemma casada_duas : duas.Casada := by
  intro r hr
  rcases List.mem_pair.mp hr with rfl | rfl
  · refine ⟨(0, duas.vagaNaRua "A"), by decide, ?_⟩
    rintro v ⟨hv, hk⟩
    rcases List.mem_pair.mp hv with rfl | rfl
    · rfl
    · exact absurd hk (by decide)
  · refine ⟨(1, duas.vagaNaRua "B"), by decide, ?_⟩
    rintro v ⟨hv, hk⟩
    rcases List.mem_pair.mp hv with rfl | rfl
    · exact absurd hk (by decide)
    · rfl

/-- With the selected row rendered last, it is handed over with its own Vaga. -/
theorem handsOver_duas : duas.HandsOver ([1] ++ [0]) 0 :=
  (handsOver_iff duas casada_duas [1] 0 0 (by decide) (by decide)).mpr
    ⟨by decide, by decide⟩

/-- Rows 0 and 1 are rendered in this order, as a table does when it appears, and row 0 is
selected: its request is handed over with the Vaga of row 1. -/
theorem not_forall_handsOver :
    ¬ ∀ (l : ListaConfirmacoes) (rows : List ℕ) (i : ℕ), l.Casada →
      (∀ r ∈ l.requisicoes, r.2.estado = some "Pendente" ∧ r.2.data.isSome) →
      (∀ row ∈ rows, row < l.requisicoes.length) → i ∈ rows → l.HandsOver rows i := by
  intro h
  obtain ⟨l', r, vaga, hrun, hprep, hr, -, hk⟩ :=
    h duas [0, 1] 0 casada_duas (by decide) (by decide) (by decide)
  obtain rfl : { duas with vagaSelec := some (1, duas.vagaNaRua "B") } = l' :=
    Option.some.inj ((by decide : Runs.run render [0, 1] duas = some _).symm.trans hrun)
  have hvaga : ((1 : ObjectID), duas.vagaNaRua "B") = vaga :=
    congrArg Prod.snd (Option.some.inj hprep)
  obtain rfl := Option.some.inj hr
  subst hvaga
  exact absurd hk (by decide)

end ListaConfirmacoes

/-! ## The decision -/

namespace ConfirmarVagaViewController

/-- What `viewDidLoad` shows; the screen formats the numbers and the date. -/
structure Rotulos where
  lblNome : String
  lblVeiculo : String
  lblPlaca : String
  lblTempo : Double
  lblTitulo : Option String
  lblEndereco : String
  lblValorTotal : Double
  lblDataHora : Date
deriving DecidableEq

/-- `viewDidLoad` with its request and Vaga, `none` where the request has no date
(`as! Date`). -/
def viewDidLoad (requisicao : Requisicao) (vagas : Vaga) : Option Rotulos :=
  requisicao.data.map fun data =>
    let rua := vagas.rua.getD "Rua"
    let num := vagas.numero.getD "N/D"
    let compl := vagas.complemento.getD ""
    { lblNome := requisicao.solicitante.getD "Nome"
      lblVeiculo := requisicao.veiculo.getD "Veiculo"
      lblPlaca := requisicao.placa.getD "Placa"
      lblTempo := requisicao.qtdHoras.getD (.finite 0)
      lblTitulo := vagas.titulo
      lblEndereco := s!"{rua}, {num} {compl}"
      lblValorTotal := requisicao.valorTotal.getD (.finite 0)
      lblDataHora := data }

/-- `save(estado:)`: set the `estado` of the request, if there is one, and save the context. -/
def save (requisicao : Option ObjectID) (estado : String) (ok : Bool) : Write Change :=
  match requisicao with
  | some k => ⟨[.setEstado k estado], some ok⟩
  | none => ⟨[], some ok⟩

/-- The alert of `actAprovar`. -/
def alertaAprovada : Alerta := ⟨"Sucesso!", "Vaga Aprovada."⟩

/-- The alert of `actRejeitar`. -/
def alertaRejeitada : Alerta := ⟨"Atenção!", "Sua solicitação foi negada."⟩

end ConfirmarVagaViewController

/-- The state of the approvals screens. -/
structure Confirmacao where
  lista : ListaConfirmacoes
  /-- The `requisicao` and the `vagas` of `ConfirmarVagaViewController`. -/
  aberta : Option (ObjectID × ObjectID)
  /-- The alert shown last. -/
  alerta : Option Alerta

/-- An event of the approvals screens. `ok` is the outcome of the event's save. -/
inductive Confirmacao.Event where
  /-- The list appears and runs its two fetches. -/
  | viewWillAppear (fetch : Option (List (ObjectID × Requisicao)))
      (fetchVaga : Option (List (ObjectID × Vaga)))
  /-- The table renders a row. -/
  | render (row : ℕ)
  /-- The user selects a row. -/
  | selecionar (row : ℕ)
  /-- The user approves the open request. -/
  | aprovar (ok : Bool)
  /-- The user rejects the open request. -/
  | rejeitar (ok : Bool)

namespace Confirmacao

/-- The approvals screens at launch. -/
def inicial : Confirmacao := ⟨⟨[], [], none⟩, none, none⟩

/-- One event: what it does to the shared context and the screens after it, or `none` where
the program traps. -/
def step (view : Store) (c : Confirmacao) : Event → Option (Write Change × Confirmacao)
  | .viewWillAppear fetch fetchVaga =>
    some (.none, { c with lista := c.lista.viewWillAppear view fetch fetchVaga })
  | .render row =>
    match c.lista.render row with
    | none => none
    | some lista => some (.none, { c with lista := lista })
  | .selecionar row =>
    match c.lista.prepare row with
    | none => none
    | some (r, v) =>
      match ConfirmarVagaViewController.viewDidLoad r.2 v.2 with
      | none => none
      | some _ => some (.none, { c with aberta := some (r.1, v.1) })
  | .aprovar ok =>
    some (ConfirmarVagaViewController.save (c.aberta.map Prod.fst) "Aprovado" ok,
      { c with alerta := some ConfirmarVagaViewController.alertaAprovada })
  | .rejeitar ok =>
    some (ConfirmarVagaViewController.save (c.aberta.map Prod.fst) "Rejeitado" ok,
      { c with alerta := some ConfirmarVagaViewController.alertaRejeitada })

/-! ## The writes of the screens -/

/-- The writes of the approvals screens to the shared context. -/
inductive Escrita (c : Confirmacao) : Event → Write Change → Prop where
  /-- Nothing is changed. -/
  | nada {e : Event} {w : Write Change} (h : w.changes = []) : Escrita c e w
  /-- The open request is approved. -/
  | aprova {k v : ObjectID} (ok : Bool) (hk : c.aberta = some (k, v)) :
      Escrita c (.aprovar ok) ⟨[.setEstado k "Aprovado"], some ok⟩
  /-- The open request is rejected. -/
  | rejeita {k v : ObjectID} (ok : Bool) (hk : c.aberta = some (k, v)) :
      Escrita c (.rejeitar ok) ⟨[.setEstado k "Rejeitado"], some ok⟩

/-- What an event writes. -/
lemma escrita_of_step {view : Store} {c c' : Confirmacao} {e : Event} {w : Write Change}
    (h : c.step view e = some (w, c')) : Escrita c e w := by
  cases e with
  | aprovar ok =>
    cases hk : c.aberta <;> simp only [step, hk] at h <;> cases h
    · exact .nada rfl
    · exact .aprova ok hk
  | rejeitar ok =>
    cases hk : c.aberta <;> simp only [step, hk] at h <;> cases h
    · exact .nada rfl
    · exact .rejeita ok hk
  | _ =>
    simp only [step] at h
    repeat' split at h
    all_goals cases h
    all_goals exact .nada rfl

end Confirmacao

end Parken
