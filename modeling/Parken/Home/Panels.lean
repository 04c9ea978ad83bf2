import Parken.Home.Model

set_option relaxedAutoImplicit false
set_option autoImplicit false

/-!
# The panels

Three step views take turns in a popup that is open or closed; the first of them holds the results
of a search and the favourites. The screen keeps this in seven flags, `isSearching`, `isPopupOpen`
and the visibility of five views, and each of `goToStep`, `searchAddress`, `maximizeDealModal` and
`minimizeDealModal` writes its own part of them. `goToStep(2)` ends a search without a look at the
popup, so in the second step an open popup may have the results of a search that is over; the way
back to the first step closes it. That way is also the whole action of the request button,
`requestParkClick`.

## Main definitions

* `Parken.Vista` — what the driver sees: the step, the popup with its content, and whether a search
  is on. In the first step an open popup has what the search calls for.
* `Parken.Vista.Muda` — the state machine.
* `Parken.Home.Bandeiras`, `Parken.Vista.bandeiras` — the seven flags.
* `Parken.Home.Bandeiras.Coerentes` — the flags make sense together.

## Main results

* `Parken.Home.vista_step` — a step of the screen is a move of the state machine.
* `Parken.Home.paineis_throughout` — in every run the flags make sense together.
-/

namespace Parken

/-- A step of the screen. -/
inductive Etapa where
  | primeira
  | segunda
  | terceira
deriving DecidableEq

/-- What the popup shows. -/
inductive Conteudo where
  /-- `searchResultView`. -/
  | resultados
  /-- `favoriteView`. -/
  | favoritos
deriving DecidableEq

/-- The number of a step, as `goToStep(step:)` takes it. -/
def Etapa.numero : Etapa → ℕ
  | .primeira => 1
  | .segunda => 2
  | .terceira => 3

/-- What the popup should show. -/
def Conteudo.daBusca (isSearching : Bool) : Conteudo :=
  if isSearching then .resultados else .favoritos

/-- What the driver sees. -/
structure Vista where
  etapa : Etapa
  /-- The popup, where it is open. -/
  popup : Option Conteudo
  isSearching : Bool
  /-- In the first step an open popup shows the results exactly while a search is on. -/
  coerente : etapa = .primeira → ∀ c ∈ popup, c = .daBusca isSearching

/-- The flags of the screen. -/
structure Home.Bandeiras where
  isPopupOpen : Bool
  isSearching : Bool
  firstStepHidden : Bool
  secondStepHidden : Bool
  thirdStepHidden : Bool
  searchResultHidden : Bool
  favoriteHidden : Bool

/-- The flags of a screen. -/
def Home.bandeiras (h : Home) : Home.Bandeiras where
  isPopupOpen := h.isPopupOpen
  isSearching := h.isSearching
  firstStepHidden := h.firstStepHidden
  secondStepHidden := h.secondStepHidden
  thirdStepHidden := h.thirdStepHidden
  searchResultHidden := h.searchResultHidden
  favoriteHidden := h.favoriteHidden

/-- The flags make sense together: one step view is visible, a closed popup shows nothing and an
open one exactly one of its two views, which in the first step is `searchResultView` exactly while
a search is on. -/
structure Home.Bandeiras.Coerentes (b : Home.Bandeiras) : Prop where
  passo : [b.firstStepHidden, b.secondStepHidden, b.thirdStepHidden].count false = 1
  fechado : b.isPopupOpen = false → b.searchResultHidden = true ∧ b.favoriteHidden = true
  aberto : b.isPopupOpen = true → [b.searchResultHidden, b.favoriteHidden].count false = 1
  busca : b.firstStepHidden = false → b.isPopupOpen = true →
    (b.searchResultHidden = false ↔ b.isSearching = true)

namespace Vista

/-- The flags that show it. -/
def bandeiras (v : Vista) : Home.Bandeiras where
  isPopupOpen := v.popup.isSome
  isSearching := v.isSearching
  firstStepHidden := v.etapa ≠ .primeira
  secondStepHidden := v.etapa ≠ .segunda
  thirdStepHidden := v.etapa ≠ .terceira
  searchResultHidden := v.popup ≠ some .resultados
  favoriteHidden := v.popup ≠ some .favoritos

/-- They make sense together. -/
lemma coerentes (v : Vista) : v.bandeiras.Coerentes where
  passo := by
    cases he : v.etapa <;> simp [bandeiras, he]
  fechado hclosed := by
    have hpopup : v.popup = none := by simpa [bandeiras] using hclosed
    simp [bandeiras, hpopup]
  aberto hopened := by
    obtain ⟨c, hpopup⟩ := Option.isSome_iff_exists.mp hopened
    cases c <;> simp [bandeiras, hpopup]
  busca hvisible hopened := by
    obtain ⟨c, hpopup⟩ := Option.isSome_iff_exists.mp hopened
    have hetapa : v.etapa = .primeira := by simpa [bandeiras] using hvisible
    have hc : c = .daBusca v.isSearching := v.coerente hetapa c hpopup
    cases hb : v.isSearching <;> simp [bandeiras, hpopup, hc, hb, Conteudo.daBusca]

/-- The popup is opened. -/
def maximizeDealModal (v : Vista) : Vista where
  etapa := v.etapa
  popup := some (.daBusca v.isSearching)
  isSearching := v.isSearching
  coerente := by simp

/-- The popup is closed. -/
def minimizeDealModal (v : Vista) : Vista where
  etapa := v.etapa
  popup := none
  isSearching := v.isSearching
  coerente := by simp

/-- A search is started, or ended by an empty text. -/
def searchAddress (v : Vista) (addressName : String) : Vista where
  etapa := v.etapa
  popup := if addressName.isEmpty then none else some .resultados
  isSearching := !addressName.isEmpty
  coerente := by
    cases addressName.isEmpty <;> simp [Conteudo.daBusca]

/-- A step is shown. The way to the first one closes the popup; the way to the second one leaves
it as it is and ends the search. -/
def goToStep (v : Vista) : Etapa → Vista
  | .primeira => ⟨.primeira, none, false, by simp⟩
  | .segunda => ⟨.segunda, v.popup, false, by simp⟩
  | .terceira => ⟨.terceira, v.popup, v.isSearching, by simp⟩

/-- The state machine of the panels. -/
inductive Muda (v : Vista) : Vista → Prop where
  | nada : Muda v v
  | maximizeDealModal : Muda v v.maximizeDealModal
  | minimizeDealModal : Muda v v.minimizeDealModal
  | searchAddress (addressName : String) : Muda v (v.searchAddress addressName)
  | goToStep (e : Etapa) : Muda v (v.goToStep e)

end Vista

namespace Home

variable {env : Ambiente} {h : Home} {v : Vista}

/-! ## The functions of the screen on the flags -/

lemma bandeiras_maximizeDealModal (hv : h.bandeiras = v.bandeiras) :
    h.maximizeDealModal.bandeiras = v.maximizeDealModal.bandeiras := by
  have hflags : h.maximizeDealModal.bandeiras = { h.bandeiras with
      isPopupOpen := true
      searchResultHidden := !h.bandeiras.isSearching
      favoriteHidden := h.bandeiras.isSearching } := rfl
  rw [hflags, hv]
  cases hb : v.isSearching <;>
    simp [Vista.bandeiras, Vista.maximizeDealModal, Conteudo.daBusca, hb]

lemma bandeiras_minimizeDealModal (hv : h.bandeiras = v.bandeiras) :
    h.minimizeDealModal.bandeiras = v.minimizeDealModal.bandeiras := by
  have hflags : h.minimizeDealModal.bandeiras = { h.bandeiras with
      isPopupOpen := false, searchResultHidden := true, favoriteHidden := true } := rfl
  rw [hflags, hv]
  rfl

lemma bandeiras_searchAddress (hv : h.bandeiras = v.bandeiras) (addressName : String) :
    (h.searchAddress addressName).bandeiras = (v.searchAddress addressName).bandeiras := by
  have hflags : (h.searchAddress addressName).bandeiras = { h.bandeiras with
      isPopupOpen := !addressName.isEmpty
      isSearching := !addressName.isEmpty
      searchResultHidden := addressName.isEmpty
      favoriteHidden := true } := by
    cases he : addressName.isEmpty <;>
      simp [searchAddress, maximizeDealModal, minimizeDealModal, bandeiras, he]
  rw [hflags, hv]
  cases he : addressName.isEmpty <;> simp [Vista.bandeiras, Vista.searchAddress, he]

lemma bandeiras_goToStep (hv : h.bandeiras = v.bandeiras) (e : Etapa) :
    (h.goToStep e.numero).bandeiras = (v.goToStep e).bandeiras := by
  cases e with
  | primeira =>
    rw [Etapa.numero, goToStep_one_eq]
    rfl
  | segunda =>
    have hflags : (h.goToStep 2).bandeiras = { h.bandeiras with
        isSearching := false
        firstStepHidden := true
        secondStepHidden := false
        thirdStepHidden := true } := rfl
    rw [Etapa.numero, hflags, hv]
    rfl
  | terceira =>
    have hflags : (h.goToStep 3).bandeiras = { h.bandeiras with
        firstStepHidden := true, secondStepHidden := true, thirdStepHidden := false } := rfl
    rw [Etapa.numero, hflags, hv]
    rfl

/-- A garage chosen shows the third step. -/
lemma bandeiras_loadParkChoosed (hv : h.bandeiras = v.bandeiras) (park : Achado) :
    (h.loadParkChoosed park).bandeiras = (v.goToStep .terceira).bandeiras :=
  bandeiras_goToStep hv .terceira

@[simp] lemma bandeiras_suggestCompletion (h : Home) (resposta : Option (List Suggestion)) :
    (h.suggestCompletion resposta).bandeiras = h.bandeiras := by
  cases resposta <;> rfl

@[simp] lemma bandeiras_setFavoriteSelectedIcon (h : Home) (addressName : String) (b : Bool) :
    (h.setFavoriteSelectedIcon addressName b).bandeiras = h.bandeiras := by
  obtain ⟨_, _, _, heq⟩ := exists_setFavoriteSelectedIcon h addressName b
  rw [heq]
  rfl

@[simp] lemma bandeiras_addParkingFound (h : Home) (p : PedidoEndereco) (ok : Bool) :
    (h.addParkingFound env p ok).bandeiras = h.bandeiras := by
  obtain ⟨_, _, _, _, heq⟩ := exists_addParkingFound env h p ok
  rw [heq]
  rfl

/-- A new destination shows the second step. -/
lemma bandeiras_loadParkingLocateNear {h' : Home} {addressTitle : String}
    {geoCoordinates : GeoCoordinates} {fetch : Option (Fetched Vaga)}
    (hs : h.loadParkingLocateNear env addressTitle geoCoordinates fetch = some h') :
    h'.bandeiras = (h.goToStep 2).bandeiras := by
  obtain ⟨_, _, rfl⟩ := exists_loadParkingLocateNear hs
  rw [showDestination_eq]
  rfl

/-! ## One step -/

/-- **A step of the panels.** A step from a screen that shows `v` ends in a screen that shows
where the state machine moves from `v`.

**Proof sketch.** One case for each event: a tapped favourite is a search for its address, a
tapped suggestion and a tapped garage show the second and the third step, and a press of the
request button the first. -/
theorem vista_step {h' : Home} {e : Event} (hv : h.bandeiras = v.bandeiras)
    (hs : step env h e = some h') : ∃ v', v.Muda v' ∧ h'.bandeiras = v'.bandeiras := by
  cases passo_of_step hs with
  | ignora => exact ⟨v, .nada, hv⟩
  | textDidChange searchText =>
    exact ⟨_, .searchAddress searchText, bandeiras_searchAddress (by exact hv) searchText⟩
  | suggestCallback resposta hq =>
    rw [bandeiras_suggestCompletion]
    exact ⟨v, .nada, hv⟩
  | semCoordenadas => exact ⟨v, .nada, hv⟩
  | destino fetch hrow ha hc hs =>
    rw [bandeiras_loadParkingLocateNear hs]
    exact ⟨_, .goToStep .segunda, bandeiras_goToStep (by exact hv) .segunda⟩
  | @favoriteSelect row address hrow ha =>
    exact ⟨_, .searchAddress address, bandeiras_searchAddress (by exact hv) address⟩
  | parkingSelect hrow hp =>
    exact ⟨_, .goToStep .terceira, bandeiras_loadParkChoosed (by exact hv) _⟩
  | geocodeCallback ok hp =>
    rw [bandeiras_addParkingFound]
    exact ⟨v, .nada, hv⟩
  | maximiza => exact ⟨_, .maximizeDealModal, bandeiras_maximizeDealModal hv⟩
  | minimiza he => exact ⟨_, .minimizeDealModal, bandeiras_minimizeDealModal hv⟩
  | toggleFavorite =>
    rw [bandeiras_setFavoriteSelectedIcon]
    exact ⟨v, .nada, hv⟩
  | backToFirstStep => exact ⟨_, .goToStep .primeira, bandeiras_goToStep hv .primeira⟩
  | backToSecondStep => exact ⟨_, .goToStep .segunda, bandeiras_goToStep hv .segunda⟩
  | requestPark hthird hr => exact ⟨_, .goToStep .primeira, bandeiras_goToStep hv .primeira⟩
  | userLocate position => exact ⟨v, .nada, hv⟩

/-! ## Whole runs -/

/-- The screen at launch. -/
def vistaInicial : Vista := ⟨.primeira, none, false, by simp⟩

lemma bandeiras_viewDidLoad : viewDidLoad.bandeiras = vistaInicial.bandeiras := rfl

/-- **The panels.** In every state of every run from launch one of the three step views is visible;
while the popup is closed both of its views are hidden, and while it is open one of them is
visible; in the first step with the popup open, it is `searchResultView` exactly while a search is
on.

**Proof sketch.** By the simulation rule every state shows a `Vista` that the state machine
reaches, and the flags that show a `Vista` make sense together. -/
theorem paineis_throughout (env : Ambiente) (es : List Event) :
    Runs.Throughout (step env) (fun h => h.bandeiras.Coerentes) es viewDidLoad := by
  have hshown : Runs.Throughout (step env) (fun h => ∃ v, Relation.ReflTransGen Vista.Muda
      vistaInicial v ∧ h.bandeiras = v.bandeiras) es viewDidLoad :=
    .of_simulation (fun h v e h' hv hs => vista_step hv hs) bandeiras_viewDidLoad
  apply hshown.imp
  intro h ⟨v, _, hv⟩
  rw [hv]
  exact v.coerentes

end Home

end Parken
