import Parken.Entities

set_option relaxedAutoImplicit false
set_option autoImplicit false

/-!
# The garage screens

The owner's screens: the form that creates a Vaga (`NovaVagaViewController`), the list of the
Vagas with its swipe-to-delete (`VagasTableViewController`), and the screen that updates the
`frequencia` of one (`AtualizarFrequenciaViewController`, reached through
`VisualizarVagaViewController`).

Pressing Salvar only captures the id, the price, the switches and the address to look up; the
texts are read again from the form when the geocoder answers. Several presses may be waiting,
of one form or of several, and their answers come in any order.

## Main definitions

* `Parken.NovaVagaViewController.salvar`, `Parken.NovaVagaViewController.save` — the form.
* `Parken.VagasTableViewController.excluir` — the deletion of a row.
* `Parken.AtualizarFrequenciaViewController.save` — the update of the days.
* `Parken.Garage`, `Parken.Garage.step` — the state of the screens and their events.
-/

namespace Parken

/-- The seven switches of a week. -/
structure Dias where
  segunda : Bool
  terca : Bool
  quarta : Bool
  quinta : Bool
  sexta : Bool
  sabado : Bool
  domingo : Bool
deriving DecidableEq

/-- The dictionary the switches stand for. -/
def Dias.frequencia (d : Dias) : Frequencia :=
  [("Segunda-feira", d.segunda), ("Terça-feira", d.terca), ("Quarta-feira", d.quarta),
    ("Quinta-feira", d.quinta), ("Sexta-feira", d.sexta), ("Sábado", d.sabado),
    ("Domingo", d.domingo)]

/-- The switches that show a dictionary, `none` where a day is missing from it. -/
def Dias.ofFrequencia (f : Frequencia) : Option Dias := do
  let segunda ← f.lookup "Segunda-feira"
  let terca ← f.lookup "Terça-feira"
  let quarta ← f.lookup "Quarta-feira"
  let quinta ← f.lookup "Quinta-feira"
  let sexta ← f.lookup "Sexta-feira"
  let sabado ← f.lookup "Sábado"
  let domingo ← f.lookup "Domingo"
  return ⟨segunda, terca, quarta, quinta, sexta, sabado, domingo⟩

/-- The dictionary the switches stand for shows them. -/
@[simp] lemma Dias.ofFrequencia_frequencia (d : Dias) :
    Dias.ofFrequencia d.frequencia = some d := by
  simp [ofFrequencia, frequencia, List.lookup_cons]

/-! ## The form of a new Vaga -/

/-- The fields and switches of `NovaVagaViewController`. -/
structure NovaVagaForm where
  txtTitulo : String
  txtDescricao : String
  txtPreco : String
  txtCep : String
  txtRua : String
  txtNumero : String
  txtComplemento : String
  txtBairro : String
  txtCidade : String
  txtUF : String
  txtLargura : String
  txtComprimento : String
  txtAltura : String
  dias : Dias
deriving DecidableEq

/-- What the geocoder's completion captured when Salvar was pressed, and the form (`self`) it
reads the texts from. -/
structure Geocodificacao where
  tela : ℕ
  id : String
  preco : Double
  freq : Frequencia
  endereco : String
deriving DecidableEq

namespace NovaVagaViewController

/-- The form as the screen opens: the storyboard has its switches on. -/
def aberta : NovaVagaForm where
  txtTitulo := ""
  txtDescricao := ""
  txtPreco := ""
  txtCep := ""
  txtRua := ""
  txtNumero := ""
  txtComplemento := ""
  txtBairro := ""
  txtCidade := ""
  txtUF := ""
  txtLargura := ""
  txtComprimento := ""
  txtAltura := ""
  dias := ⟨true, true, true, true, true, true, true⟩

/-- The check of `salvar`: some required field is empty. -/
def campoVazio (f : NovaVagaForm) : Bool :=
  f.txtTitulo.isEmpty || f.txtDescricao.isEmpty || f.txtPreco.isEmpty || f.txtCep.isEmpty ||
    f.txtRua.isEmpty || f.txtNumero.isEmpty || f.txtBairro.isEmpty || f.txtCidade.isEmpty ||
    f.txtUF.isEmpty || f.txtLargura.isEmpty || f.txtComprimento.isEmpty || f.txtAltura.isEmpty

/-- The alert of `salvar`. -/
def alertaCampos : Alerta := ⟨"Erro", "Preencha todos os campos"⟩

/-- The dialog of a geocoding without an answer. -/
def alertaCoordenadas : Alerta :=
  ⟨"Erro", "Não foi possível obter coordenadas dessa localização"⟩

/-- `salvar` on form `tela`. With a required field empty it only shows an alert. Otherwise it
starts the geocoding, or traps (`none`) where the price is not a number. -/
def salvar (tela : ℕ) (f : NovaVagaForm) : Option (Except Alerta Geocodificacao) :=
  if campoVazio f then some (.error alertaCampos)
  else match Double.parse f.txtPreco with
    -- `Double(txtPreco.text!)!`
    | none => none
    | some preco => some (.ok {
        tela := tela
        id := chave f.txtRua f.txtNumero f.txtCep f.txtTitulo
        preco := preco
        freq := f.dias.frequencia
        endereco := s!"{f.txtRua}, {f.txtNumero}, {f.txtBairro}, {f.txtCidade}" })

/-- The Vaga stored when the geocoder answers `location`: the id, the price and the days of
the press, the texts the form has now. -/
def novaVaga (g : Geocodificacao) (f : NovaVagaForm) (location : GeoCoordinates) : Vaga where
  id := some g.id
  titulo := some f.txtTitulo
  descricao := some f.txtDescricao
  valor := some g.preco
  cep := some f.txtCep
  rua := some f.txtRua
  numero := some f.txtNumero
  complemento := some f.txtComplemento
  bairro := some f.txtBairro
  cidade := some f.txtCidade
  uf := some f.txtUF
  largura := some f.txtLargura
  comprimento := some f.txtComprimento
  altura := some f.txtAltura
  latitude := some location.latitude
  longitude := some location.longitude
  frequencia := some g.freq

/-- `save`: insert the Vaga and save the context. -/
def save (v : Vaga) (ok : Bool) : Write Change := ⟨[.insertVaga v], some ok⟩

/-- The key of the texts in the form. -/
def chaveDosCampos (f : NovaVagaForm) : String :=
  chave f.txtRua f.txtNumero f.txtCep f.txtTitulo

end NovaVagaViewController

/-- `VagasTableViewController.tableView(_:commit:forRowAt:)` with `.delete` on the object of the
row: delete it and save the context. -/
def VagasTableViewController.excluir (vaga : ObjectID) (ok : Bool) : Write Change :=
  ⟨[.deleteVaga vaga], some ok⟩

/-- `AtualizarFrequenciaViewController.save`: set the days of the Vaga, if there is one, and
save the context. -/
def AtualizarFrequenciaViewController.save (vaga : Option ObjectID) (f : Frequencia)
    (ok : Bool) : Write Change :=
  match vaga with
  | some k => ⟨[.setFrequencia k f], some ok⟩
  | none => ⟨[], some ok⟩

/-! ## The screens together -/

/-- The state of the garage screens. -/
structure Garage where
  /-- The forms opened so far, with their texts. A form outlives its screen while one of its
  presses waits for the geocoder. -/
  formularios : List NovaVagaForm
  /-- The presses of Salvar waiting for the geocoder. -/
  geocodificacoes : List Geocodificacao
  /-- `VagasTableViewController.vagas`. -/
  vagas : List ObjectID
  /-- The Vaga of `VisualizarVagaViewController` and `AtualizarFrequenciaViewController`. -/
  vaga : Option ObjectID
  /-- The switches of `AtualizarFrequenciaViewController`. -/
  dias : Dias
  /-- The alert shown last. -/
  alerta : Option Alerta

/-- An event of the garage screens. `ok` is the outcome of the event's save. -/
inductive Garage.Event where
  /-- A new form is opened. -/
  | abrirNova
  /-- The user edits a form. -/
  | editar (tela : ℕ) (f : NovaVagaForm)
  /-- Salvar is pressed on a form. -/
  | salvar (tela : ℕ)
  /-- The geocoder answers the `k`-th waiting press, with a position or without. -/
  | geocode (k : ℕ) (resposta : Option GeoCoordinates) (ok : Bool)
  /-- The list appears and fetches the Vagas in some order, or the fetch throws. -/
  | viewWillAppear (fetch : Option (List (ObjectID × Vaga)))
  /-- The user deletes a row of the list. -/
  | excluir (row : ℕ) (ok : Bool)
  /-- The user opens a row of the list. -/
  | visualizar (row : ℕ)
  /-- The user opens the days of the Vaga. -/
  | atualizar
  /-- The user sets the switches. -/
  | editarDias (d : Dias)
  /-- The user confirms the switches. -/
  | confirmar (ok : Bool)

namespace Garage

/-- The garage screens at launch. The switches of the days are on in both scenes. -/
def inicial : Garage := ⟨[], [], [], none, NovaVagaViewController.aberta.dias, none⟩

/-- The answer of the geocoder to a waiting press. -/
def geocodeCallback (g : Garage) (p : Geocodificacao) (resposta : Option GeoCoordinates)
    (ok : Bool) : Write Change × Garage :=
  match g.formularios[p.tela]?, resposta with
  | some f, some location =>
    (NovaVagaViewController.save (NovaVagaViewController.novaVaga p f location) ok, g)
  | _, _ => (.none, { g with alerta := some NovaVagaViewController.alertaCoordenadas })

/-- One event: what it does to the shared context and the screens after it, or `none` where
the program traps. `view` is the store as the context shows it. -/
def step (view : Store) (g : Garage) : Event → Option (Write Change × Garage)
  | .abrirNova =>
    some (.none, { g with formularios := g.formularios ++ [NovaVagaViewController.aberta] })
  | .editar tela f => some (.none, { g with formularios := g.formularios.set tela f })
  | .salvar tela =>
    match g.formularios[tela]? with
    | none => some (.none, g)
    | some f =>
      match NovaVagaViewController.salvar tela f with
      | none => none
      | some (.error a) => some (.none, { g with alerta := some a })
      | some (.ok p) => some (.none, { g with geocodificacoes := g.geocodificacoes ++ [p] })
  | .geocode k resposta ok =>
    match g.geocodificacoes[k]? with
    | none => some (.none, g)
    | some p =>
      some ({ g with geocodificacoes := g.geocodificacoes.eraseIdx k }.geocodeCallback p
        resposta ok)
  | .viewWillAppear none => some (.none, g)
  | .viewWillAppear (some ordem) =>
    some (.none, { g with vagas := (view.vagas.fetch ordem).rows.map Prod.fst })
  | .excluir row ok =>
    match g.vagas[row]? with
    | none => none
    | some k => some (VagasTableViewController.excluir k ok,
        -- the row goes only when the save succeeded
        if ok then { g with vagas := g.vagas.eraseIdx row } else g)
  | .visualizar row =>
    match g.vagas[row]? with
    | none => none
    | some k =>
      -- `for (dia, status) in freq!`
      match (view.vagas.get? k).bind Vaga.frequencia with
      | none => none
      | some _ => some (.none, { g with vaga := some k })
  | .atualizar =>
    match g.vaga with
    | none => some (.none, g)
    | some k =>
      -- `as! Dictionary<String, Bool>` and `freq["Segunda-feira"]!` to `freq["Domingo"]!`
      match ((view.vagas.get? k).bind Vaga.frequencia).bind Dias.ofFrequencia with
      | none => none
      | some d => some (.none, { g with dias := d })
  | .editarDias d => some (.none, { g with dias := d })
  | .confirmar ok =>
    some (AtualizarFrequenciaViewController.save g.vaga g.dias.frequencia ok, g)

/-! ## The writes of the screens -/

/-- The writes of the garage screens to the shared context. -/
inductive Escrita (g : Garage) : Event → Write Change → Prop where
  /-- Nothing is changed. -/
  | nada {e : Event} {w : Write Change} (h : w.changes = [])
      (hg : ∀ k location ok, e = .geocode k (some location) ok →
        ∀ p ∈ g.geocodificacoes[k]?, g.formularios[p.tela]? = none)
      (hx : ∀ row ok, e ≠ .excluir row ok) : Escrita g e w
  /-- A geocoder's position stores the Vaga of a waiting press and the texts of its form. -/
  | nova {k : ℕ} {p : Geocodificacao} {f : NovaVagaForm} (location : GeoCoordinates) (ok : Bool)
      (hp : g.geocodificacoes[k]? = some p) (hf : g.formularios[p.tela]? = some f) :
      Escrita g (.geocode k (some location) ok)
        (NovaVagaViewController.save (NovaVagaViewController.novaVaga p f location) ok)
  /-- The Vaga of a row is deleted. -/
  | excluir {row : ℕ} {k : ObjectID} (ok : Bool) (hk : g.vagas[row]? = some k) :
      Escrita g (.excluir row ok) (VagasTableViewController.excluir k ok)
  /-- The days of a Vaga are set. -/
  | atualizar {k : ObjectID} (ok : Bool) (hk : g.vaga = some k) :
      Escrita g (.confirmar ok)
        (AtualizarFrequenciaViewController.save (some k) g.dias.frequencia ok)

/-- What an event writes. -/
lemma escrita_of_step {view : Store} {g g' : Garage} {e : Event} {w : Write Change}
    (h : g.step view e = some (w, g')) : Escrita g e w := by
  cases e with
  | geocode k resposta ok =>
    simp only [step] at h
    split at h
    next hk =>
      cases h
      refine .nada rfl ?_ nofun
      rintro _ _ _ ⟨⟩ p hp
      rw [hk] at hp
      cases hp
    next p hp =>
      simp only [geocodeCallback, Option.some.injEq] at h
      split at h
      next f location hf =>
        cases h
        exact .nova location ok hp hf
      next hno =>
        cases h
        refine .nada rfl ?_ nofun
        rintro _ location _ ⟨⟩ p' hp'
        obtain rfl := Option.some.inj (hp.symm.trans hp')
        cases hf : g.formularios[p.tela]? with
        | none => rfl
        | some f => exact absurd rfl (hno f location hf)
  | excluir row ok =>
    simp only [step] at h
    split at h
    · cases h
    next k hk =>
      cases h
      exact .excluir ok hk
  | confirmar ok =>
    cases hk : g.vaga with
    | none =>
      simp only [step, hk] at h
      cases h
      exact .nada rfl nofun nofun
    | some k =>
      simp only [step, hk] at h
      cases h
      exact .atualizar ok hk
  | abrirNova => cases h; exact .nada rfl nofun nofun
  | editar tela f => cases h; exact .nada rfl nofun nofun
  | editarDias d => cases h; exact .nada rfl nofun nofun
  | viewWillAppear fetch => cases fetch <;> cases h <;> exact .nada rfl nofun nofun
  | salvar tela | visualizar row | atualizar =>
    simp only [step] at h
    repeat' split at h
    all_goals cases h
    all_goals exact .nada rfl nofun nofun

/-- The garage screens change nothing but Vagas. -/
lemma Escrita.sobre {g : Garage} {e : Event} {w : Write Change} (h : Escrita g e w) :
    Sobre .vaga w := by
  cases h with
  | nada h _ _ => simp [Sobre, h]
  | nova location ok hp hf => exact sobre_singleton.mpr rfl
  | excluir ok hk => exact sobre_singleton.mpr rfl
  | atualizar ok hk => exact sobre_singleton.mpr rfl

end Garage

end Parken
