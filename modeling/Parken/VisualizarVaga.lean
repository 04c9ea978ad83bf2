import Parken.Listas
import Parken.NovaVaga
import Parken.Vagas

set_option relaxedAutoImplicit false
set_option autoImplicit false

/-!
# The screen of a Vaga

`VisualizarVagaViewController` shows the days of a Vaga on a button, as the first three letters of
each day that is on. It takes them from a dictionary, whose order is that of its runtime: the same
Vaga may show its days in another order each time.

The price on the screen is left out: it is rounded up in floating point.

## Main definitions

* `Parken.VisualizarVagaViewController.dias`, `Parken.VisualizarVagaViewController.viewDidLoad` —
  the loop over the dictionary and the labels.
* `Parken.Dias.ofTitulo` — the days as a reader takes them from the button.
* `Parken.App.MostraDias` — the screens of a Vaga show these days.
* `Parken.App.PoupaDias` — an event that neither deletes the Vaga nor sets its days.

## Main results

* `Parken.VisualizarVagaViewController.titulo_perm` — in every order of the dictionary the button
  has each day that is on once, and no other.
* `Parken.VisualizarVagaViewController.ofTitulo_titulo` — the button tells the days.
* `Parken.App.mostraDias_throughout` — the days shown are those confirmed last.
-/

namespace Parken

open Edit

namespace VisualizarVagaViewController

/-- `dia.prefix(3)` after its blank. -/
def abreviatura (dia : String) : List Char := ' ' :: dia.toList.take 3

/-- The loop over the dictionary, in the order `freq`. -/
def dias (freq : Frequencia) : List Char :=
  freq.foldl (fun dias p => if p.2 then dias ++ (abreviatura p.1 ++ [',']) else dias) []

/-- The dictionary in the order `ordem`, or in its own where `ordem` does not list exactly its
entries. -/
def emOrdem (freq ordem : Frequencia) : Frequencia := if ordem.Perm freq then ordem else freq

/-- The title of `buttonFrequencia`: the text of the loop without its last comma. -/
def titulo (freq : Frequencia) : List Char := (dias freq).dropLast

/-- What `viewDidLoad` shows, but for the price. -/
structure Rotulos where
  lblTitulo : String
  lblDescricao : String
  lblEndereco : String
  lblCidade : String
  lblTamanho : String
  buttonFrequencia : List Char
deriving DecidableEq

/-- `viewDidLoad` with the entries of the dictionary in some order, `none` where the Vaga has no
dictionary (`freq!`). -/
def viewDidLoad (vaga : Vaga) (ordem : Frequencia) : Option Rotulos :=
  let rua := vaga.rua.getD "Rua"
  let num := vaga.numero.getD "N/D"
  let compl := vaga.complemento.getD ""
  let cid := vaga.cidade.getD "Cidade"
  let uf := vaga.uf.getD "UF"
  let cep := vaga.cep.getD "00000-000"
  let alt := vaga.altura.getD "0m"
  let lar := vaga.largura.getD "0m"
  let com := vaga.comprimento.getD "0m"
  vaga.frequencia.map fun freq => {
    lblTitulo := vaga.titulo.getD "Titulo"
    lblDescricao := vaga.descricao.getD "Descricao"
    lblEndereco := s!"{rua}, {num} {compl}"
    lblCidade := s!"{cid} - {uf} | CEP: {cep}"
    lblTamanho := s!"{lar}m x {com}m x {alt}"
    buttonFrequencia := titulo (emOrdem freq ordem) }

/-! ## The text of the days -/

/-- The abbreviations of the days that are on. -/
def ligados (freq : Frequencia) : List (List Char) :=
  (freq.filter Prod.snd).map fun p => abreviatura p.1

/-- The loop writes the abbreviations, each with its comma. -/
lemma dias_eq (freq : Frequencia) : dias freq = (ligados freq).flatMap (· ++ [',']) := by
  have hacc : ∀ acc : List Char,
      freq.foldl (fun dias p => if p.2 then dias ++ (abreviatura p.1 ++ [',']) else dias) acc =
        acc ++ (ligados freq).flatMap (· ++ [',']) := by
    induction freq with
    | nil => simp [ligados]
    | cons p freq ih =>
      intro acc
      rw [List.foldl_cons, ih]
      cases hp : p.2 <;> simp [ligados, hp]
  simpa [dias] using hacc []

/-- Pieces that each end in a separator are, without the last separator, the pieces with separators
between them. -/
lemma dropLast_flatMap {α : Type*} (c : α) (l : List (List α)) :
    (l.flatMap (· ++ [c])).dropLast = [c].intercalate l := by
  induction l with
  | nil => rfl
  | cons x l ih =>
    cases l with
    | nil => simp
    | cons y l =>
      have hne : (y :: l).flatMap (· ++ [c]) ≠ [] := by simp
      rw [List.flatMap_cons, List.dropLast_append_of_ne_nil hne, ih, List.intercalate_cons_cons,
        List.append_assoc]

/-- The button shows the abbreviations with commas between them. -/
lemma titulo_eq (freq : Frequencia) : titulo freq = [','].intercalate (ligados freq) := by
  rw [titulo, dias_eq, dropLast_flatMap]

/-- The order of the dictionary is that of the abbreviations. -/
lemma ligados_perm {freq freq' : Frequencia} (h : freq.Perm freq') :
    (ligados freq).Perm (ligados freq') :=
  (h.filter _).map _

lemma emOrdem_perm (freq ordem : Frequencia) : (emOrdem freq ordem).Perm freq := by
  unfold emOrdem
  split_ifs with h
  · exact h
  · exact List.Perm.refl _

end VisualizarVagaViewController

open VisualizarVagaViewController

/-- The days as a reader takes them from the button: those whose abbreviation stands between the
commas. -/
def Dias.ofTitulo (titulo : List Char) : Dias :=
  let partes := titulo.splitOn ','
  { segunda := abreviatura "Segunda-feira" ∈ partes
    terca := abreviatura "Terça-feira" ∈ partes
    quarta := abreviatura "Quarta-feira" ∈ partes
    quinta := abreviatura "Quinta-feira" ∈ partes
    sexta := abreviatura "Sexta-feira" ∈ partes
    sabado := abreviatura "Sábado" ∈ partes
    domingo := abreviatura "Domingo" ∈ partes }

namespace VisualizarVagaViewController

/-- The seven days. -/
def semana : List String :=
  ["Segunda-feira", "Terça-feira", "Quarta-feira", "Quinta-feira", "Sexta-feira", "Sábado",
    "Domingo"]

lemma mem_semana {d : Dias} {p : String × Bool} (h : p ∈ d.frequencia) : p.1 ∈ semana := by
  have hmap : d.frequencia.map Prod.fst = semana := rfl
  exact hmap ▸ List.mem_map_of_mem h

/-- A dictionary has each day once. -/
lemma nodup_frequencia (d : Dias) : (d.frequencia.map Prod.fst).Nodup := by
  show semana.Nodup
  decide

/-- No two days have the same abbreviation. -/
lemma abreviatura_inj :
    ∀ a ∈ semana, ∀ b ∈ semana, abreviatura a = abreviatura b → a = b := by decide

/-- No abbreviation contains a comma. -/
lemma comma_notMem_abreviatura : ∀ a ∈ semana, ',' ∉ abreviatura a := by decide

/-- The abbreviation of a day is among those that are on exactly where the day is. -/
lemma abreviatura_mem_ligados {d : Dias} {dia : String} {status : Bool}
    (h : (dia, status) ∈ d.frequencia) :
    abreviatura dia ∈ ligados d.frequencia ↔ status = true := by
  constructor
  · intro hmem
    obtain ⟨q, hq, heq⟩ := List.mem_map.mp hmem
    obtain ⟨hq, hon⟩ := List.mem_filter.mp hq
    have hdia := abreviatura_inj q.1 (mem_semana hq) dia (mem_semana h) heq
    have hsame := List.inj_on_of_nodup_map (nodup_frequencia d) hq h hdia
    rw [hsame] at hon
    exact hon
  · rintro rfl
    exact List.mem_map.mpr ⟨(dia, true), List.mem_filter.mpr ⟨h, rfl⟩, rfl⟩

/-- The parts of the button between its commas are the abbreviations, if there are any. -/
lemma splitOn_titulo {d : Dias} {freq : Frequencia} (h : freq.Perm d.frequencia)
    (hne : ligados freq ≠ []) : (titulo freq).splitOn ',' = ligados freq := by
  rw [titulo_eq]
  apply List.splitOn_intercalate _ _ hne
  intro l hl
  obtain ⟨p, hp, rfl⟩ := List.mem_map.mp hl
  have hmem := h.mem_iff.mp (List.mem_of_mem_filter hp)
  exact comma_notMem_abreviatura p.1 (mem_semana hmem)

/-- **The button lists the days that are on.** In every order of the dictionary the button is the
abbreviations of exactly the days that are on, each once, with commas between them.

**Proof sketch.** The loop writes each with its comma (`dias_eq`), and `dropLast` takes the last
one. -/
theorem titulo_perm (d : Dias) (ordem : Frequencia) :
    ∃ partes : List (List Char), partes.Perm (ligados d.frequencia) ∧ partes.Nodup ∧
      titulo (emOrdem d.frequencia ordem) = [','].intercalate partes := by
  have hperm := ligados_perm (emOrdem_perm d.frequencia ordem)
  refine ⟨ligados (emOrdem d.frequencia ordem), hperm, ?_, titulo_eq _⟩
  rw [hperm.nodup_iff]
  refine List.Nodup.map_on (fun p hp q hq heq => ?_) ?_
  · have hp' := List.mem_of_mem_filter hp
    have hq' := List.mem_of_mem_filter hq
    have hdia := abreviatura_inj p.1 (mem_semana hp') q.1 (mem_semana hq') heq
    exact List.inj_on_of_nodup_map (nodup_frequencia d) hp' hq' hdia
  · exact (List.Nodup.of_map Prod.fst (nodup_frequencia d)).filter _

/-- **The button tells the days.** Whatever the order of the dictionary, the days read from the
button are those of the Vaga. -/
theorem ofTitulo_titulo (d : Dias) (ordem : Frequencia) :
    Dias.ofTitulo (titulo (emOrdem d.frequencia ordem)) = d := by
  have hperm := emOrdem_perm d.frequencia ordem
  have hlig := ligados_perm hperm
  have hlido : ∀ dia status, (dia, status) ∈ d.frequencia →
      decide (abreviatura dia ∈ (titulo (emOrdem d.frequencia ordem)).splitOn ',') = status := by
    intro dia status h
    by_cases hne : ligados (emOrdem d.frequencia ordem) = []
    · -- no day is on, and the button is empty
      have hnil : ligados d.frequencia = [] := List.Perm.nil_eq (hne ▸ hlig) |>.symm
      have hoff : status = false := by
        have hiff := abreviatura_mem_ligados h
        rw [hnil] at hiff
        simpa using hiff
      rw [titulo_eq, hne, hoff]
      simp [abreviatura]
    · rw [splitOn_titulo hperm hne, Bool.eq_iff_iff, decide_eq_true_iff, hlig.mem_iff]
      exact abreviatura_mem_ligados h
  unfold Dias.ofTitulo
  dsimp only
  rw [hlido _ d.segunda (by simp [Dias.frequencia]), hlido _ d.terca (by simp [Dias.frequencia]),
    hlido _ d.quarta (by simp [Dias.frequencia]), hlido _ d.quinta (by simp [Dias.frequencia]),
    hlido _ d.sexta (by simp [Dias.frequencia]), hlido _ d.sabado (by simp [Dias.frequencia]),
    hlido _ d.domingo (by simp [Dias.frequencia])]

end VisualizarVagaViewController

/-! ## The days over a run -/

namespace App

variable {env : Ambiente}

/-- The Vaga is stored, its screen shows these days in every order of its dictionary, and so do the
switches that change them. -/
def MostraDias (s : App) (k : ObjectID) (d : Dias) : Prop :=
  ∃ v, (k, v) ∈ s.view.vagas.rows ∧ v.frequencia.bind Dias.ofFrequencia = some d ∧
    ∀ ordem, ∃ r ∈ VisualizarVagaViewController.viewDidLoad v ordem,
      Dias.ofTitulo r.buttonFrequencia = d

/-- The condition on an event: it neither deletes the Vaga nor sets its days. -/
def PoupaDias (k : ObjectID) (s : App) : Event → Prop
  | .garage (.confirmar _) => s.garage.vaga ≠ some k
  | .garage (.excluir row _) => s.garage.vagas[row]? ≠ some k
  | _ => True

/-- The Vaga is stored with the dictionary of these days. -/
def TemDias (s : App) (k : ObjectID) (d : Dias) : Prop :=
  ∃ v, (k, v) ∈ s.view.vagas.rows ∧ v.frequencia = some d.frequencia

lemma TemDias.mostraDias {s : App} {k : ObjectID} {d : Dias} (h : s.TemDias k d) :
    s.MostraDias k d := by
  obtain ⟨v, hv, hfreq⟩ := h
  refine ⟨v, hv, by simp [hfreq], fun ordem => ?_⟩
  unfold VisualizarVagaViewController.viewDidLoad
  rw [hfreq]
  exact ⟨_, rfl, ofTitulo_titulo d ordem⟩

/-- An event that meets the condition leaves the days. -/
lemma TemDias.step {s s' : App} {e : Event} {k : ObjectID} {d : Dias} (hs : s.TemDias k d)
    (he : PoupaDias k s e) (h : s.step env e = some s') : s'.TemDias k d := by
  obtain ⟨v, hv, hfreq⟩ := hs
  obtain ⟨w, t, ht, rfl⟩ := step_eq_some_iff.mp h
  unfold TemDias
  rw [view_exec]
  cases efeitoVagas_of_opera ht with
  | alheio hne hw =>
    rw [vagas_applyAll hw]
    exact ⟨v, hv, hfreq⟩
  | garage hg =>
    cases hg with
    | nada hw _ _ =>
      rw [hw]
      exact ⟨v, hv, hfreq⟩
    | nova location ok hp hf => exact ⟨v, ObjectTable.mem_insert.mpr (.inl hv), hfreq⟩
    | @excluir row j ok hj =>
      have hjk : k ≠ j := by
        rintro rfl
        exact he hj
      exact ⟨v, ObjectTable.mem_erase.mpr ⟨hv, hjk⟩, hfreq⟩
    | @atualizar j ok hj =>
      have hjk : k ≠ j := by
        rintro rfl
        exact he hj
      exact ⟨v, ObjectTable.mem_modify.mpr ⟨(k, v), hv, by simp [hjk]⟩, hfreq⟩

/-- The confirmation sets the days of the switches. -/
lemma temDias_confirmar {s s' : App} {k : ObjectID} {ok : Bool} (hk : s.garage.vaga = some k)
    (hv : (s.view.vagas.get? k).isSome) (h : s.step env (.garage (.confirmar ok)) = some s') :
    s'.TemDias k s.garage.dias := by
  obtain ⟨v, hv⟩ := Option.isSome_iff_exists.mp hv
  obtain ⟨w, t, ht, rfl⟩ := step_eq_some_iff.mp h
  cases ht
  unfold TemDias
  rw [view_exec, hk]
  have hrow := ObjectTable.get?_eq_some_iff.mp hv
  exact ⟨_, ObjectTable.mem_modify.mpr ⟨(k, v), hrow, rfl⟩, by simp⟩

/-- **The days shown are those confirmed last.** In every run from launch, once the switches of a
stored Vaga are confirmed, whether their save succeeds or throws, its screen and its switches show
exactly these days from then on, in every order of the dictionary and through any events of any
screen, until the Vaga is deleted or its days are confirmed again.

**Proof sketch.** The confirmation puts the dictionary of the switches in the context; the other
events neither remove the Vaga nor touch its dictionary; and the button tells the days of a
dictionary in any order (`ofTitulo_titulo`). -/
theorem mostraDias_throughout (env : Ambiente) (es : List Event) :
    Runs.Throughout (step env) (fun s => ∀ k ok s₁, s.garage.vaga = some k →
      (s.view.vagas.get? k).isSome → s.step env (.garage (.confirmar ok)) = some s₁ →
      ∀ es', Runs.Meets (step env) (PoupaDias k) es' s₁ →
        Runs.Throughout (step env) (fun s₂ => s₂.MostraDias k s.garage.dias) es' s₁)
      es inicial := by
  have hdepois : ∀ (s : App) k ok s₁, s.garage.vaga = some k →
      (s.view.vagas.get? k).isSome → s.step env (.garage (.confirmar ok)) = some s₁ →
      ∀ es', Runs.Meets (step env) (PoupaDias k) es' s₁ →
        Runs.Throughout (step env) (fun s₂ => s₂.MostraDias k s.garage.dias) es' s₁ := by
    intro s k ok s₁ hk hv h es' hes'
    have htem : Runs.Throughout (step env) (fun s₂ => s₂.TemDias k s.garage.dias) es' s₁ :=
      .of_meets (fun _ _ _ hs he h => TemDias.step hs he h) (temDias_confirmar hk hv h) hes'
    exact htem.imp fun _ hs => hs.mostraDias
  exact .of_step (fun _ _ s' _ _ => hdepois s') (hdepois _)

end App

end Parken
