import Parken.Home.ParkingList

set_option relaxedAutoImplicit false
set_option autoImplicit false

/-!
# The tables of Home

Each of the three tables of the screen offers the rows of its last reload. The suggestions and
the favourites are reloaded with every change of their lists; the list of garages is emptied
without a reload, by the way back to the first step and by a new destination. The request
button of the third step reads the row still selected in the table of garages.

## Main definitions

* `Parken.Home.Tabelas` — the tables, with the two kinds of change to them (`Esvazia`, `Muda`).
* `Parken.Home.Tabelas.Seguras` — the three tables are backed by their lists.
* `Parken.Home.EsvaziaSemLinhas` — the garages are dropped only while their table has no rows.
* `Parken.Home.PedidoPronto`, `Parken.Home.PedidoSelecionado` — what a press of the request
  button needs, and the condition on the press.

## Main results

* `Parken.Home.seguras_iff` — the tables stay backed and the presses find their row exactly in
  the runs that meet the two conditions.
-/

namespace Parken.Home

variable {env : Ambiente}

/-- A table with the length of the list behind it. -/
structure Tabela where
  view : TableView
  length : ℕ

/-- The table is backed by its list. -/
def Tabela.Segura (t : Tabela) : Prop := t.view.Backed t.length

/-- The three tables and the fields of the screen their safety depends on. -/
structure Tabelas where
  mapController : Bool
  thirdStepHidden : Bool
  sugestoes : Tabela
  favoritos : Tabela
  garagens : Tabela

/-- The tables of a screen. -/
def tabelas (h : Home) : Tabelas where
  mapController := h.mapController
  thirdStepHidden := h.thirdStepHidden
  sugestoes := ⟨h.suggestAddressTable, h.suggestAddressList.length⟩
  favoritos := ⟨h.favoriteAddressTable, h.favoriteAddressList.length⟩
  garagens := ⟨h.parkingLocateTable, h.parkingLocateList.length⟩

namespace Tabelas

/-- The three tables offer only rows in range of their lists. -/
structure Seguras (t : Tabelas) : Prop where
  sugestoes : t.sugestoes.Segura
  favoritos : t.favoritos.Segura
  garagens : t.garagens.Segura

/-- What holds of the tables in every reachable state: the first two are backed, and while the
third step is shown the selected garage is in range. -/
structure Firmes (t : Tabelas) : Prop where
  mapController : t.mapController = true
  sugestoes : t.sugestoes.Segura
  favoritos : t.favoritos.Segura
  selecao : t.thirdStepHidden = false → ∀ i ∈ t.garagens.view.selected, i < t.garagens.length

/-- The changes of the tables that empty the list of garages, without a reload. -/
inductive Esvazia (t : Tabelas) : Tabelas → Prop where
  /-- The first step is shown. -/
  | primeiroPasso :
      Esvazia t { t with thirdStepHidden := true, garagens := ⟨t.garagens.view, 0⟩ }
  /-- A new destination. -/
  | novoDestino :
      Esvazia t { t with
        thirdStepHidden := true
        sugestoes := ⟨.reloadData 0, 0⟩
        garagens := ⟨t.garagens.view, 0⟩ }

/-- The other changes of the tables. -/
inductive Muda (t : Tabelas) : Tabelas → Prop where
  /-- No table changes. -/
  | nada : Muda t t
  /-- The suggestions are replaced. -/
  | sugestoes (rows length : ℕ) (h : rows ≤ length) :
      Muda t { t with sugestoes := ⟨.reloadData rows, length⟩ }
  /-- The favourites are replaced. -/
  | favoritos (length : ℕ) : Muda t { t with favoritos := ⟨.reloadData length, length⟩ }
  /-- A suggestion without coordinates is tapped. -/
  | tocaSugestao (row : ℕ) :
      Muda t { t with sugestoes := ⟨t.sugestoes.view.select row, t.sugestoes.length⟩ }
  /-- A favourite is tapped. -/
  | tocaFavorito (row : ℕ) :
      Muda t { t with favoritos := ⟨t.favoritos.view.select row, t.favoritos.length⟩ }
  /-- The second step is shown. -/
  | segundoPasso :
      Muda t { t with thirdStepHidden := true, sugestoes := ⟨.reloadData 0, 0⟩ }
  /-- A garage is tapped and the third step shown. -/
  | tocaGaragem (row : ℕ) (h : row < t.garagens.length) :
      Muda t { t with
        thirdStepHidden := false
        garagens := ⟨t.garagens.view.select row, t.garagens.length⟩ }
  /-- An address is delivered. -/
  | garagens (length : ℕ) : Muda t { t with garagens := ⟨.reloadData length, length⟩ }

/-- A change that empties the list keeps the tables backed exactly when no garage is offered. -/
lemma Esvazia.seguras_iff_rows_eq_zero {t t' : Tabelas} (h : Esvazia t t') (ht : Seguras t) :
    Seguras t' ↔ t.garagens.view.rows = 0 := by
  cases h with
  | primeiroPasso =>
    exact ⟨fun h => TableView.backed_zero.mp h.garagens,
      fun h => ⟨ht.sugestoes, ht.favoritos, TableView.backed_zero.mpr h⟩⟩
  | novoDestino =>
    exact ⟨fun h => TableView.backed_zero.mp h.garagens,
      fun h => ⟨Nat.le_refl 0, ht.favoritos, TableView.backed_zero.mpr h⟩⟩

/-- The other changes keep the tables backed. -/
lemma Muda.seguras {t t' : Tabelas} (h : Muda t t') (ht : Seguras t) : Seguras t' := by
  cases h with
  | nada => exact ht
  | sugestoes rows length h => exact ⟨h, ht.favoritos, ht.garagens⟩
  | favoritos length => exact ⟨ht.sugestoes, Nat.le_refl _, ht.garagens⟩
  | tocaSugestao row => exact ⟨ht.sugestoes, ht.favoritos, ht.garagens⟩
  | tocaFavorito row => exact ⟨ht.sugestoes, ht.favoritos, ht.garagens⟩
  | segundoPasso => exact ⟨Nat.le_refl 0, ht.favoritos, ht.garagens⟩
  | tocaGaragem row h => exact ⟨ht.sugestoes, ht.favoritos, ht.garagens⟩
  | garagens length => exact ⟨ht.sugestoes, ht.favoritos, Nat.le_refl _⟩

/-- Emptying the list keeps what every reachable state has. -/
lemma Esvazia.firmes {t t' : Tabelas} (h : Esvazia t t') (ht : Firmes t) : Firmes t' := by
  cases h with
  | primeiroPasso => exact ⟨ht.mapController, ht.sugestoes, ht.favoritos, by simp⟩
  | novoDestino => exact ⟨ht.mapController, Nat.le_refl 0, ht.favoritos, by simp⟩

/-- The other changes keep it too: a reload clears the selection, and a garage is selected only
in range. -/
lemma Muda.firmes {t t' : Tabelas} (h : Muda t t') (ht : Firmes t) : Firmes t' := by
  cases h with
  | nada => exact ht
  | sugestoes rows length h => exact ⟨ht.mapController, h, ht.favoritos, ht.selecao⟩
  | favoritos length => exact ⟨ht.mapController, ht.sugestoes, Nat.le_refl _, ht.selecao⟩
  | tocaSugestao row => exact ⟨ht.mapController, ht.sugestoes, ht.favoritos, ht.selecao⟩
  | tocaFavorito row => exact ⟨ht.mapController, ht.sugestoes, ht.favoritos, ht.selecao⟩
  | segundoPasso => exact ⟨ht.mapController, Nat.le_refl 0, ht.favoritos, by simp⟩
  | tocaGaragem row h => exact ⟨ht.mapController, ht.sugestoes, ht.favoritos, by simpa using h⟩
  | garagens length => exact ⟨ht.mapController, ht.sugestoes, ht.favoritos, by simp⟩

end Tabelas

/-- A change of the garages happens only while their table offers no rows: the list is emptied
by the way back to the first step, by a press of the request button and by a suggestion with
coordinates. -/
def EsvaziaSemLinhas (h : Home) : Event → Prop
  | .backToFirstStep => h.parkingLocateTable.rows = 0
  | .requestPark _ => h.thirdStepHidden = false → h.parkingLocateTable.rows = 0
  | .suggestSelect row _ => row < h.suggestAddressTable.rows →
    ∀ s ∈ h.suggestAddressList[row]?, s.coordinates.isSome → h.parkingLocateTable.rows = 0
  | _ => True

/-- A press of the request button finds its row: `prepare` returns. -/
def PedidoPronto (h : Home) : Event → Prop
  | .requestPark ordem => h.thirdStepHidden = false → (h.requestPark ordem).isSome
  | _ => True

/-- The request button is pressed with a garage still selected, and its segue fires first. -/
def PedidoSelecionado (h : Home) : Event → Prop
  | .requestPark ordem => h.thirdStepHidden = false →
    ordem = .seguePrimeiro ∧ h.parkingLocateTable.selected.isSome
  | _ => True

/-! ## The functions of the screen on the tables -/

@[simp] lemma tabelas_searchAddress (h : Home) (addressName : String) :
    (h.searchAddress addressName).tabelas = h.tabelas := by
  obtain ⟨_, _, _, _, _, heq⟩ := exists_searchAddress h addressName
  rw [heq]
  rfl

/-- The first step empties the list of garages, once the map is loaded. -/
lemma tabelas_goToStep_one {h : Home} (hm : h.mapController = true) :
    (h.goToStep 1).tabelas =
      { h.tabelas with thirdStepHidden := true, garagens := ⟨h.parkingLocateTable, 0⟩ } := by
  rw [goToStep_one_eq]
  simp [tabelas, hm]

/-- A suggestion request answered replaces the suggestions. -/
lemma muda_suggestCompletion (h : Home) (resposta : Option (List Suggestion)) :
    Tabelas.Muda h.tabelas (h.suggestCompletion resposta).tabelas := by
  cases resposta with
  | none => exact .nada
  | some items =>
    refine .sugestoes _ items.length ?_
    split_ifs
    · exact Nat.le_refl _
    · exact Nat.zero_le _

/-- The star button replaces the favourites. -/
lemma muda_setFavoriteSelectedIcon (h : Home) (addressName : String) :
    Tabelas.Muda h.tabelas (h.setFavoriteSelectedIcon addressName true).tabelas := by
  by_cases hmem : addressName ∈ h.favoriteAddressList
  · simp only [setFavoriteSelectedIcon, hmem, ↓reduceIte]
    exact .favoritos _
  · simp only [setFavoriteSelectedIcon, hmem, ↓reduceIte]
    exact .favoritos _

/-- A new destination empties the suggestions, with a reload, and the garages, without one. -/
lemma tabelas_showDestination (h : Home) (addressTitle : String)
    (geoCoordinates : GeoCoordinates) :
    (h.showDestination addressTitle geoCoordinates).tabelas =
      { h.tabelas with
        thirdStepHidden := true
        sugestoes := ⟨.reloadData 0, 0⟩
        garagens := ⟨h.parkingLocateTable, 0⟩ } := by
  rw [showDestination_eq]
  rfl

/-- The fetch and the reverse geocodings of a new destination touch no table. -/
lemma tabelas_loadParkingLocateNear {h h' : Home} {addressTitle : String}
    {geoCoordinates : GeoCoordinates} {fetch : Option (Fetched Vaga)}
    (hs : h.loadParkingLocateNear env addressTitle geoCoordinates fetch = some h') :
    h'.tabelas = (h.showDestination addressTitle geoCoordinates).tabelas := by
  obtain ⟨_, _, rfl⟩ := exists_loadParkingLocateNear hs
  rfl

/-- With the map loaded, no press whose action fires first finds its row: the action has
emptied the list. -/
lemma requestPark_acaoPrimeiro {h : Home} (hm : h.mapController = true) :
    h.requestPark .acaoPrimeiro = none := by
  have hlista : (h.goToStep 1).parkingLocateList = [] :=
    congrArg Painel.lista (painel_goToStep_one hm)
  cases hsel : (h.goToStep 1).parkingLocateTable.selected <;>
    simp [requestPark, prepare, hsel, hlista]

/-- With the segue first, a press finds its row exactly when the selected row is in range. -/
lemma isSome_requestPark_seguePrimeiro (h : Home) :
    (h.requestPark .seguePrimeiro).isSome ↔
      ∃ i ∈ h.parkingLocateTable.selected, i < h.parkingLocateList.length := by
  cases hsel : h.parkingLocateTable.selected with
  | none => simp [requestPark, prepare, hsel]
  | some i =>
    cases hi : h.parkingLocateList[i]? with
    | none =>
      have : ¬ i < h.parkingLocateList.length := by simpa using hi
      simp [requestPark, prepare, hsel, this]
    | some a =>
      obtain ⟨hlt, -⟩ := List.getElem?_eq_some_iff.mp hi
      simp [requestPark, prepare, hsel, hlt]

/-! ## One step -/

/-- A step empties the list of garages and then meets the condition exactly when no garage is
offered, or it changes the tables in another way and meets the condition.

**Proof sketch.** One case for each event. -/
theorem tabelas_step {h h' : Home} {e : Event} (hm : h.mapController = true)
    (hs : step env h e = some h') :
    (Tabelas.Esvazia h.tabelas h'.tabelas ∧
      (EsvaziaSemLinhas h e ↔ h.parkingLocateTable.rows = 0)) ∨
    (Tabelas.Muda h.tabelas h'.tabelas ∧ EsvaziaSemLinhas h e) := by
  cases passo_of_step hs with
  | @ignora e _ _ hr hc he =>
    refine .inr ⟨.nada, ?_⟩
    cases e with
    | suggestSelect row fetch =>
      intro hrow
      have hfora := hc row fetch rfl
      omega
    | backToFirstStep => exact absurd rfl he
    | requestPark ordem => simp [EsvaziaSemLinhas, hr ordem rfl]
    | _ => trivial
  | textDidChange searchText =>
    rw [tabelas_searchAddress]
    exact .inr ⟨.nada, trivial⟩
  | @suggestCallback k q resposta hq =>
    have hmuda := muda_suggestCompletion { h with sugestoes := h.sugestoes.eraseIdx k } resposta
    exact .inr ⟨hmuda, trivial⟩
  | @semCoordenadas row address fetch hrow ha hc =>
    refine .inr ⟨.tocaSugestao row, ?_⟩
    simp [EsvaziaSemLinhas, ha, hc]
  | @destino row address locValue fetch h' hrow ha hc hs =>
    refine .inl ⟨?_, by simp [EsvaziaSemLinhas, ha, hc, hrow]⟩
    rw [tabelas_loadParkingLocateNear hs, tabelas_showDestination]
    exact .novoDestino
  | @favoriteSelect row address hrow ha =>
    rw [tabelas_searchAddress]
    exact .inr ⟨.tocaFavorito row, trivial⟩
  | @parkingSelect row parking hrow hp =>
    obtain ⟨hlt, -⟩ := List.getElem?_eq_some_iff.mp hp
    exact .inr ⟨.tocaGaragem row hlt, trivial⟩
  | @geocodeCallback k q ok hq =>
    cases ok with
    | false => exact .inr ⟨.nada, trivial⟩
    | true =>
      refine .inr ⟨?_, trivial⟩
      by_cases hd : q.distanciaTest ≤ 1000
      · simp only [addParkingFound, hd, ↓reduceIte]
        exact .garagens _
      · simp only [addParkingFound, hd, ↓reduceIte]
        exact .garagens _
  | maximiza => exact .inr ⟨.nada, trivial⟩
  | minimiza he =>
    refine .inr ⟨.nada, ?_⟩
    rcases he with rfl | rfl <;> trivial
  | toggleFavorite => exact .inr ⟨muda_setFavoriteSelectedIcon h _, trivial⟩
  | backToFirstStep =>
    rw [tabelas_goToStep_one hm]
    exact .inl ⟨.primeiroPasso, Iff.rfl⟩
  | backToSecondStep => exact .inr ⟨.segundoPasso, trivial⟩
  | requestPark ht hr =>
    rw [tabelas_goToStep_one hm]
    exact .inl ⟨.primeiroPasso, by simp [EsvaziaSemLinhas, ht]⟩
  | userLocate position => exact .inr ⟨.nada, trivial⟩

/-! ## Whole runs -/

/-- Every step keeps what holds of the tables in every reachable state. -/
lemma firmes_step {h h' : Home} {e : Event} (hf : Tabelas.Firmes h.tabelas)
    (hs : step env h e = some h') : Tabelas.Firmes h'.tabelas := by
  obtain ⟨ht, -⟩ | ⟨ht, -⟩ := tabelas_step hf.mapController hs
  · exact ht.firmes hf
  · exact ht.firmes hf

lemma firmes_viewDidLoad : Tabelas.Firmes viewDidLoad.tabelas :=
  ⟨rfl, Nat.le_refl 0, Nat.le_refl 2, by decide⟩

lemma seguras_viewDidLoad : Tabelas.Seguras viewDidLoad.tabelas :=
  ⟨Nat.le_refl 0, Nat.le_refl 2, Nat.le_refl 0⟩

/-- Every row that backed tables offer is rendered without a trap. -/
lemma cell_isSome {h : Home} (hs : Tabelas.Seguras h.tabelas) (row : ℕ) :
    (row < h.suggestAddressTable.rows → (h.suggestCell row).isSome) ∧
      (row < h.favoriteAddressTable.rows → (h.favoriteCell row).isSome) ∧
      (row < h.parkingLocateTable.rows → (h.parkingCell row).isSome) := by
  refine ⟨fun hrow => ?_, fun hrow => ?_, fun hrow => ?_⟩
  · simpa [suggestCell, tabelas] using hs.sugestoes.lt hrow
  · simpa [favoriteCell, tabelas] using hs.favoritos.lt hrow
  · simpa [parkingCell, tabelas] using hs.garagens.lt hrow

/-- In a reachable state a press of the request button finds its row exactly when a garage is
selected and the segue fires first. -/
lemma pedidoPronto_iff {h : Home} (hf : Tabelas.Firmes h.tabelas) (e : Event) :
    PedidoPronto h e ↔ PedidoSelecionado h e := by
  cases e with
  | requestPark ordem =>
    refine imp_congr_right fun hstep => ?_
    cases ordem with
    | acaoPrimeiro => simp [requestPark_acaoPrimeiro hf.mapController]
    | seguePrimeiro =>
      rw [isSome_requestPark_seguePrimeiro]
      constructor
      · rintro ⟨i, hi, -⟩
        exact ⟨rfl, Option.isSome_of_mem hi⟩
      · rintro ⟨-, hsel⟩
        obtain ⟨i, hi⟩ := Option.isSome_iff_exists.mp hsel
        exact ⟨i, hi, hf.selecao hstep i hi⟩
  | _ => exact Iff.rfl

/-- **The tables are safe exactly while the garages are dropped with no row on offer.** In a
run from launch the three tables offer only rows in range of their lists, and every press of
the request button in the third step finds its row, if and only if the list of garages is
emptied only while its table offers no row, and the button is pressed only with a garage still
selected and its segue first.

**Proof sketch.** `Tabelas.Firmes` is an invariant of every run. Next to it a step keeps the
tables backed exactly when it meets the first condition, by its kind of change, and a press
finds its row exactly when it meets the second. -/
theorem seguras_iff (env : Ambiente) (es : List Event) :
    Runs.Throughout (step env) (fun h => Tabelas.Seguras h.tabelas) es viewDidLoad ∧
        Runs.Attempts (step env) PedidoPronto es viewDidLoad ↔
      Runs.Meets (step env) EsvaziaSemLinhas es viewDidLoad ∧
        Runs.Attempts (step env) PedidoSelecionado es viewDidLoad := by
  refine and_congr ?_ ?_
  · refine Runs.throughout_iff_meets (J := fun h => Tabelas.Firmes h.tabelas)
      (fun h e h' hf hs => firmes_step hf hs) ?_ firmes_viewDidLoad seguras_viewDidLoad
    intro h e h' hf hseg hs
    obtain ⟨ht, he⟩ | ⟨ht, he⟩ := tabelas_step hf.mapController hs
    · exact (ht.seguras_iff_rows_eq_zero hseg).trans he.symm
    · exact iff_of_true (ht.seguras hseg) he
  · exact Runs.attempts_congr (J := fun h => Tabelas.Firmes h.tabelas)
      (fun h e h' hf _ hs => firmes_step hf hs) (fun h e hf => pedidoPronto_iff hf e)
      firmes_viewDidLoad

/-- Back in the first step after a garage was found, its row is still on offer. -/
theorem not_seguras_back_to_first_step :
    ¬ ∀ (env : Ambiente) (es : List Event),
      Runs.Throughout (step env) (fun h => Tabelas.Seguras h.tabelas) es viewDidLoad ∧
        Runs.Attempts (step env) PedidoPronto es viewDidLoad := by
  intro h
  have hback := (h ambiente (buscaPerto ++ [.geocodeCallback 0 true, .backToFirstStep])).1.imp
    (Q := fun h => h.parkingLocateTable.rows ≤ h.parkingLocateList.length)
    fun _ hs => hs.garagens
  exact absurd hback (by decide)

end Parken.Home
