import Parken.App
import Parken.Lib.Numeral
import Parken.Lib.Runs

set_option relaxedAutoImplicit false
set_option autoImplicit false

/-!
# The form of a new Vaga

What the two halves of `salvar` rely on. The press checks that no required text is empty and then
converts the price, whose keyboard types a comma in the language of the app; the completion of the
geocoding reads the texts of the form again, which the driver may have edited meanwhile.

## Main definitions

* `Parken.Garage.SalvarTotal` — a press shows its alert, or goes on with the price typed.
* `Parken.Garage.momentos` — the contents a form has from a press to its answer.
* `Parken.Garage.Consistente` — a Vaga that shows one moment of the form.
* `Parken.Garage.MomentoUnico` — the condition on the contents of the form.

## Main results

* `Parken.Garage.salvarTotal_iff` — a press is total exactly where a required text is empty or the
  price is a numeral with a point of a number that is neither negative nor too large.
* `Parken.Garage.consistente_iff_momentoUnico` — the Vaga stored by an answer is consistent exactly
  where one moment of the form has all it was stored from.
-/

namespace Parken

open NovaVagaViewController

namespace Garage

/-! ## The price -/

/-- The press of Salvar on form `tela` with contents `f` shows the alert and changes nothing else,
or goes on to the geocoding with the finite, non-negative number typed, as the nearest double; the
user may set off its fraction with a point or a comma. -/
def SalvarTotal (view : Store) (g : Garage) (tela : ℕ) (f : NovaVagaForm) : Prop :=
  g.step view (.salvar tela) = some (.none, { g with alerta := some alertaCampos }) ∨
    ∃ p q, g.step view (.salvar tela) =
        some (.none, { g with geocodificacoes := g.geocodificacoes ++ [p] }) ∧
      p.preco = .finite (Double.binary64.round q) ∧ 0 ≤ q ∧
        Numeral.Denotes ['.', ','] f.txtPreco q

/-- The address looked up for a form. -/
def enderecoDosCampos (f : NovaVagaForm) : String :=
  s!"{f.txtRua}, {f.txtNumero}, {f.txtBairro}, {f.txtCidade}"

/-- What an accepted press captures. -/
def capturado (tela : ℕ) (f : NovaVagaForm) (preco : Double) : Geocodificacao where
  tela := tela
  id := chaveDosCampos f
  preco := preco
  freq := f.dias.frequencia
  endereco := enderecoDosCampos f

/-- A press with no required text empty goes on exactly where the price converts. -/
lemma salvar_of_not_campoVazio {tela : ℕ} {f : NovaVagaForm} (h : ¬ campoVazio f = true) :
    salvar tela f = (Double.parse f.txtPreco).map fun preco => .ok (capturado tela f preco) := by
  unfold salvar
  rw [if_neg h]
  cases Double.parse f.txtPreco <;> rfl

/-- **When a press is total.** A press shows its alert, or goes on with the price typed, if and
only if a required text is empty or the price is a numeral with a point, of a number that is not
negative and not rounded to an infinity.

**Proof sketch.** The conversion takes a numeral with a point to its number and refuses one with a
comma, and its forced unwrap traps on a refusal. -/
theorem salvarTotal_iff {view : Store} {g : Garage} {tela : ℕ} {f : NovaVagaForm}
    (hf : g.formularios[tela]? = some f) :
    g.SalvarTotal view tela f ↔ campoVazio f = true ∨
      ∃ q, Numeral.Denotes ['.'] f.txtPreco q ∧ 0 ≤ q ∧ q < Double.limit := by
  by_cases hvazio : campoVazio f = true
  · refine iff_of_true (.inl ?_) (.inl hvazio)
    simp [step, hf, salvar, hvazio]
  · have hsalvar : salvar tela f =
        (Double.parse f.txtPreco).map fun preco => .ok (capturado tela f preco) :=
      salvar_of_not_campoVazio hvazio
    constructor
    · rintro (h | ⟨p, q, h, hpreco, hq, hnum⟩)
      · -- no alert is shown where no text is empty
        cases hparse : Double.parse f.txtPreco with
        | none => simp [step, hf, hsalvar, hparse] at h
        | some preco =>
          have hlista := congrArg (Option.map fun r => r.2.geocodificacoes.length) h
          simp [step, hf, hsalvar, hparse] at hlista
      · have hparse : Double.parse f.txtPreco = some (.finite (Double.binary64.round q)) := by
          cases hparse : Double.parse f.txtPreco with
          | none => simp [step, hf, hsalvar, hparse] at h
          | some preco =>
            have hlista := congrArg (Option.map fun r => r.2.geocodificacoes) h
            have hp : capturado tela f preco = p := by
              simpa [step, hf, hsalvar, hparse] using hlista
            rw [← hpreco, ← hp]
            rfl
        obtain hnum | hrecusa := Double.denotes_point_or_parse_none hnum
        · have hfinite := (Double.parse_of_denotes hnum).symm.trans hparse
          obtain ⟨-, -, hlim⟩ := Double.ofRat_eq_finite_iff.mp (Option.some.inj hfinite)
          exact .inr ⟨q, hnum, hq, hlim⟩
        · rw [hrecusa] at hparse
          cases hparse
    · rintro (h | ⟨q, hnum, hq, hlim⟩)
      · exact absurd h hvazio
      · have hmenor : -Double.limit < q := by
          have : (0 : ℚ) < Double.limit := lt_of_le_of_lt hq hlim
          linarith
        have hparse := Double.parse_of_denotes hnum
        rw [Double.ofRat_eq_finite_iff.mpr ⟨rfl, hmenor, hlim⟩] at hparse
        refine .inr ⟨capturado tela f (.finite (Double.binary64.round q)), q, ?_, rfl, hq,
          hnum.mono (by simp)⟩
        simp [step, hf, hsalvar, hparse]

/-- A form filled in, with a price. -/
def comPreco (preco : String) : NovaVagaForm := { App.formulario with txtPreco := preco }

/-- The screens with one form open. -/
def comFormulario (f : NovaVagaForm) : Garage := { inicial with formularios := [f] }

/-- A price typed with a point. -/
theorem salvarTotal_point :
    SalvarTotal .empty (comFormulario (comPreco "10.5")) 0 (comPreco "10.5") := by
  have hwhole : Numeral.Digits ['1', '0'] := by simp [Numeral.Digits]
  have hfraction : Numeral.Digits ['5'] := by simp [Numeral.Digits]
  have hnum : Numeral.Denotes ['.'] "10.5" (21 / 2) :=
    ⟨[], ['1', '0', '.', '5'], [], 1, 0, _, rfl, .none,
      .fraction (by simp) hwhole hfraction (by simp), .none, by decide +kernel⟩
  exact (salvarTotal_iff rfl).mpr (.inr ⟨21 / 2, hnum, by decide +kernel, by decide +kernel⟩)

/-- The same price typed with a comma, as the keyboard of the form does. -/
theorem not_salvarTotal_comma :
    ¬ ∀ (view : Store) (g : Garage) (tela : ℕ) (f : NovaVagaForm),
      g.formularios[tela]? = some f → g.SalvarTotal view tela f := by
  intro h
  have htrap : (step .empty (comFormulario (comPreco "10,5")) (.salvar 0)).isNone = true := by
    decide +kernel
  obtain h | ⟨p, q, h, -⟩ := h .empty (comFormulario (comPreco "10,5")) 0 (comPreco "10,5") rfl
  · simp [h] at htrap
  · simp [h] at htrap

/-! ## One moment -/

/-- One event of the garage screens, with the store they see at it. -/
def avanca (g : Garage) (e : Store × Event) : Option Garage := (g.step e.1 e.2).map Prod.snd

/-- The contents an event gives to form `tela`. -/
def edicao (tela : ℕ) : Event → Option NovaVagaForm
  | .editar tela' f => if tela' = tela then some f else none
  | _ => none

/-- The contents form `tela` has from a press to its answer: `f` at the press, and what the events
in between make of it. -/
def momentos (tela : ℕ) (f : NovaVagaForm) (es : List (Store × Event)) : List NovaVagaForm :=
  f :: es.filterMap fun e => edicao tela e.2

lemma momentos_ne_nil (tela : ℕ) (f : NovaVagaForm) (es : List (Store × Event)) :
    momentos tela f es ≠ [] := List.cons_ne_nil _ _

/-- The contents of form `tela` at the answer. -/
def momentoFinal (tela : ℕ) (f : NovaVagaForm) (es : List (Store × Event)) : NovaVagaForm :=
  (momentos tela f es).getLast (momentos_ne_nil tela f es)

/-- The address that the geocoder should have been asked for a Vaga. -/
def enderecoDaVaga (v : Vaga) : String :=
  let rua := v.rua.getD ""
  let numero := v.numero.getD ""
  let bairro := v.bairro.getD ""
  let cidade := v.cidade.getD ""
  s!"{rua}, {numero}, {bairro}, {cidade}"

/-- The texts of a form that are stored. -/
def textos (f : NovaVagaForm) : List String :=
  [f.txtTitulo, f.txtDescricao, f.txtCep, f.txtRua, f.txtNumero, f.txtComplemento, f.txtBairro,
    f.txtCidade, f.txtUF, f.txtLargura, f.txtComprimento, f.txtAltura]

/-- The Vaga shows a form: its texts, id, price and days are those of the contents `f`. -/
structure Mostra (v : Vaga) (f : NovaVagaForm) : Prop where
  textos : [v.titulo, v.descricao, v.cep, v.rua, v.numero, v.complemento, v.bairro, v.cidade, v.uf,
    v.largura, v.comprimento, v.altura] = (textos f).map some
  id : v.id = some (chaveDosCampos f)
  valor : v.valor = Double.parse f.txtPreco
  frequencia : v.frequencia = some f.dias.frequencia

/-- The Vaga is a consistent record of a form that had the contents `fs`: its id is the key of its
own attributes, its position is the geocoder's answer for its own address, and all of it comes from
one moment. -/
structure Consistente (geocoder : String → Option GeoCoordinates) (fs : List NovaVagaForm)
    (v : Vaga) : Prop where
  id : v.id = some v.chaveConfirmacao
  posicao : geocoder (enderecoDaVaga v) = v.posicao
  momento : ∃ f ∈ fs, Mostra v f

/-- The condition on the contents of a form, `f` at the press and `ultimo` at the answer: the key
and the geocoder's answer have not changed, and at one moment in between the form had the texts of
the answer with the price and the days of the press. -/
structure MomentoUnico (geocoder : String → Option GeoCoordinates) (fs : List NovaVagaForm)
    (f ultimo : NovaVagaForm) : Prop where
  chave : chaveDosCampos ultimo = chaveDosCampos f
  posicao : geocoder (enderecoDosCampos ultimo) = geocoder (enderecoDosCampos f)
  momento : ∃ m ∈ fs, textos m = textos ultimo ∧
    Double.parse m.txtPreco = Double.parse f.txtPreco ∧ m.dias = f.dias

/-! ### The contents of a form -/

/-- An event leaves a form as it was, or with the contents it gives it. -/
lemma formulario_step {view : Store} {g g' : Garage} {e : Event} {w : Write Change} {tela : ℕ}
    {f : NovaVagaForm} (hf : g.formularios[tela]? = some f)
    (hs : g.step view e = some (w, g')) :
    g'.formularios[tela]? = some ((edicao tela e).getD f) := by
  obtain ⟨hlt, -⟩ := List.getElem?_eq_some_iff.mp hf
  cases e with
  | abrirNova =>
    cases hs
    rw [List.getElem?_append_left hlt]
    exact hf
  | editar tela' f' =>
    cases hs
    by_cases htela : tela' = tela
    · subst htela
      simp [edicao, hlt]
    · simp [edicao, htela, hf]
  | geocode k resposta ok =>
    simp only [step] at hs
    split at hs
    · cases hs
      exact hf
    · simp only [geocodeCallback, Option.some.injEq] at hs
      split at hs <;> cases hs <;> exact hf
  | viewWillAppear fetch => cases fetch <;> cases hs <;> exact hf
  | excluir row ok =>
    simp only [step] at hs
    split at hs <;> cases hs
    cases ok <;> exact hf
  | editarDias d => cases hs; exact hf
  | confirmar ok => cases hs; exact hf
  | salvar tela' | visualizar row | atualizar =>
    simp only [step] at hs
    repeat' split at hs
    all_goals cases hs
    all_goals exact hf

/-- The contents after one more event. -/
lemma momentoFinal_cons (tela : ℕ) (f : NovaVagaForm) (e : Store × Event)
    (es : List (Store × Event)) :
    momentoFinal tela f (e :: es) = momentoFinal tela ((edicao tela e.2).getD f) es := by
  unfold momentoFinal momentos
  cases h : edicao tela e.2 <;> simp [h]

/-- A run leaves a form with the last contents its events gave it. -/
lemma formulario_run {g g' : Garage} {es : List (Store × Event)} {tela : ℕ} {f : NovaVagaForm}
    (hf : g.formularios[tela]? = some f) (hr : Runs.run avanca es g = some g') :
    g'.formularios[tela]? = some (momentoFinal tela f es) := by
  induction es generalizing g f with
  | nil =>
    obtain rfl := Option.some.inj hr
    exact hf
  | cons e es ih =>
    obtain ⟨g₁, hs, hr⟩ := Option.bind_eq_some_iff.mp hr
    obtain ⟨⟨w, h⟩, hstep, rfl⟩ := Option.map_eq_some_iff.mp hs
    rw [momentoFinal_cons]
    exact ih (formulario_step hf hstep) hr

/-- The key is a matter of the stored texts. -/
lemma chaveDosCampos_congr {f m : NovaVagaForm} (h : textos m = textos f) :
    chaveDosCampos m = chaveDosCampos f := by
  simp only [textos, List.cons.injEq] at h
  simp [chaveDosCampos, h]

/-- The days are a matter of the switches. -/
lemma frequencia_inj {d d' : Dias} : d.frequencia = d'.frequencia ↔ d = d' := by
  refine ⟨fun h => ?_, congrArg _⟩
  have := congrArg Dias.ofFrequencia h
  simpa using this

/-- What a stored Vaga shows: the texts of the answer, the rest of the press. -/
lemma mostra_novaVaga_iff {tela : ℕ} {f m u : NovaVagaForm} {preco : Double}
    (hpreco : Double.parse f.txtPreco = some preco) (l : GeoCoordinates) :
    Mostra (novaVaga (capturado tela f preco) u l) m ↔
      textos m = textos u ∧ chaveDosCampos m = chaveDosCampos f ∧
        Double.parse m.txtPreco = Double.parse f.txtPreco ∧ m.dias = f.dias := by
  have htextos : (textos u).map some = (textos m).map some ↔ textos m = textos u := by
    rw [List.map_inj_right fun _ _ h => Option.some.inj h]
    exact eq_comm
  constructor
  · rintro ⟨ht, hid, hvalor, hfreq⟩
    refine ⟨htextos.mp ht, (Option.some.inj hid).symm, ?_, ?_⟩
    · rw [hpreco]
      exact hvalor.symm
    · exact (frequencia_inj.mp (Option.some.inj hfreq)).symm
  · rintro ⟨ht, hid, hvalor, hdias⟩
    refine ⟨htextos.mpr ht, congrArg some hid.symm, ?_, ?_⟩
    · rw [hvalor, hpreco]
      rfl
    · rw [hdias]
      rfl

/-- **When a stored Vaga is consistent.** Let Salvar be accepted on a form with contents `f`, and
let the geocoder answer after any events of the screens. The Vaga this stores is a consistent
record of the form if and only if its key and its address's position are those of the press, and
the form had its texts together with the price and the days of the press at one moment.

**Proof sketch.** The id, the price, the days and the position are those of the press; the texts
are those of the answer (`formulario_run`). So the Vaga shows a moment with the texts of the one
and the rest of the other. -/
theorem consistente_iff_momentoUnico (geocoder : String → Option GeoCoordinates)
    {g g₁ g₂ : Garage} {tela k : ℕ} {f : NovaVagaForm} {p : Geocodificacao} {view₀ view : Store}
    {es : List (Store × Event)} {v : Vaga} {ok : Bool} (hf : g.formularios[tela]? = some f)
    (hp : salvar tela f = some (.ok p))
    (hr : Runs.run avanca ((view₀, .salvar tela) :: es) g = some g₁)
    (hk : g₁.geocodificacoes[k]? = some p)
    (hs : g₁.step view (.geocode k (geocoder p.endereco) ok) = some (save v ok, g₂)) :
    Consistente geocoder (momentos tela f es) v ↔
      MomentoUnico geocoder (momentos tela f es) f (momentoFinal tela f es) := by
  -- what the press captured
  obtain ⟨preco, hpreco, rfl⟩ : ∃ preco, Double.parse f.txtPreco = some preco ∧
      p = capturado tela f preco := by
    by_cases hvazio : campoVazio f = true
    · simp [salvar, hvazio] at hp
    · rw [salvar_of_not_campoVazio hvazio] at hp
      obtain ⟨preco, hpreco, h⟩ := Option.map_eq_some_iff.mp hp
      exact ⟨preco, hpreco, (Except.ok.inj h).symm⟩
  -- what the answer reads
  have hultimo := formulario_run hf hr
  rw [momentoFinal_cons] at hultimo
  change g₁.formularios[tela]? = some (momentoFinal tela f es) at hultimo
  generalize momentoFinal tela f es = ultimo at hultimo ⊢
  obtain ⟨location, hlocation, rfl⟩ : ∃ location,
      geocoder (enderecoDosCampos f) = some location ∧
        v = novaVaga (capturado tela f preco) ultimo location := by
    have htela : g₁.formularios[(capturado tela f preco).tela]? = some ultimo := hultimo
    simp only [step, hk, geocodeCallback, htela] at hs
    cases hlocation : geocoder (capturado tela f preco).endereco with
    | none =>
      simp [hlocation, save, Write.none] at hs
    | some location =>
      simp only [hlocation, save, Option.some.injEq, Prod.mk.injEq, Write.mk.injEq,
        List.cons.injEq, Change.insertVaga.injEq, and_true] at hs
      exact ⟨location, hlocation, hs.1.symm⟩
  constructor
  · rintro ⟨hid, hposicao, m, hm, hmostra⟩
    obtain ⟨ht, -, hvalor, hdias⟩ := (mostra_novaVaga_iff hpreco location).mp hmostra
    exact ⟨(Option.some.inj hid).symm, hposicao.trans hlocation.symm, m, hm, ht, hvalor, hdias⟩
  · rintro ⟨hchave, hposicao, m, hm, ht, hvalor, hdias⟩
    refine ⟨congrArg some hchave.symm, hposicao.trans hlocation, m, hm, ?_⟩
    exact (mostra_novaVaga_iff hpreco location).mpr
      ⟨ht, (chaveDosCampos_congr ht).trans hchave, hvalor, hdias⟩

/-- A press on an open form, and an edit before the answer. -/
lemma run_salvar_editar {f : NovaVagaForm} {preco : Double} (u : NovaVagaForm)
    (h : salvar 0 f = some (.ok (capturado 0 f preco))) :
    Runs.run avanca [(.empty, .salvar 0), (.empty, .editar 0 u)] (comFormulario f) =
      some { comFormulario u with geocodificacoes := [capturado 0 f preco] } := by
  simp [avanca, step, comFormulario, inicial, h]

/-- The form of the runs below is accepted. -/
lemma salvar_formulario :
    salvar 0 App.formulario = some (.ok (capturado 0 App.formulario (.finite 10))) := by
  have hpreco : Double.parse App.formulario.txtPreco = some (.finite 10) := by decide +kernel
  rw [salvar_of_not_campoVazio (by decide), hpreco]
  rfl

/-- An edit of the description alone leaves the record consistent. -/
theorem consistente_descricao :
    Consistente (fun _ => some App.posicao)
      [App.formulario, { App.formulario with txtDescricao := "Descoberta" }]
      (novaVaga (capturado 0 App.formulario (.finite 10))
        { App.formulario with txtDescricao := "Descoberta" } App.posicao) :=
  (@consistente_iff_momentoUnico (fun _ => some App.posicao) _ _ _ 0 0 App.formulario _ .empty
    .empty [(.empty, .editar 0 { App.formulario with txtDescricao := "Descoberta" })] _ true rfl
    salvar_formulario (run_salvar_editar _ salvar_formulario) rfl rfl).mpr
    ⟨rfl, rfl, { App.formulario with txtDescricao := "Descoberta" }, by simp [momentos, edicao],
      rfl, rfl, rfl⟩

/-- The street is edited before the answer, and the id stored is that of the old one. -/
theorem not_consistente_rua :
    ¬ ∀ (geocoder : String → Option GeoCoordinates) (g g₁ g₂ : Garage) (tela k : ℕ)
      (f : NovaVagaForm) (p : Geocodificacao) (view₀ view : Store) (es : List (Store × Event))
      (v : Vaga) (ok : Bool), g.formularios[tela]? = some f → salvar tela f = some (.ok p) →
      Runs.run avanca ((view₀, .salvar tela) :: es) g = some g₁ →
      g₁.geocodificacoes[k]? = some p →
      g₁.step view (.geocode k (geocoder p.endereco) ok) = some (save v ok, g₂) →
      Consistente geocoder (momentos tela f es) v := by
  intro h
  have hconsistente := h (fun _ => some App.posicao) (comFormulario App.formulario) _ _ 0 0
    App.formulario _ .empty .empty [(.empty, .editar 0 { App.formulario with txtRua := "Rua B" })]
    _ true rfl salvar_formulario (run_salvar_editar _ salvar_formulario) rfl rfl
  exact absurd hconsistente.id (by decide)

end Garage

end Parken
