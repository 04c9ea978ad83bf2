import Parken.Home.Model
import Parken.Lib.UniqueList

set_option relaxedAutoImplicit false
set_option autoImplicit false

/-!
# The favourites

The list of favourites, the label of the destination and the icon of the star are three fields of
the screen. The star button and a new destination go through one function,
`setFavoriteSelectedIcon`, with a flag that tells the two apart.

Behind them is a set of addresses in the order they were added, and the address selected; the icon
says whether it is a member. Addresses are compared as the program compares them: two strings of
the model are the same where `==` holds of the program's.

## Main definitions

* `Parken.Favoritos` — the favourites and the address selected, with what the events do to them.
* `Parken.Home.Estrela`, `Parken.Favoritos.estrela` — the three fields of the screen.
* `Parken.Home.Estrela.Certa`, `Parken.Home.DuasVezes` — the list repeats nothing and the icon is
  right; two presses of the star cancel out.

## Main results

* `Parken.Home.favoritos_step` — a step of the screen is a change of the favourites.
* `Parken.Home.favoritos_throughout` — in every run the icon is right and two presses cancel out.
-/

namespace Parken

/-- The list of favourites, the label of the destination and the star. -/
structure Home.Estrela where
  favoriteAddressList : List String
  addressSelectedLabel : String
  starFill : Bool

/-- The list of favourites repeats nothing, and the star is filled exactly where the address in
the label is one of them. -/
structure Home.Estrela.Certa (s : Home.Estrela) : Prop where
  nodup : s.favoriteAddressList.Nodup
  star : s.starFill = true ↔ s.addressSelectedLabel ∈ s.favoriteAddressList

/-- The favourites of a screen. -/
def Home.estrela (h : Home) : Home.Estrela where
  favoriteAddressList := h.favoriteAddressList
  addressSelectedLabel := h.addressSelectedLabel
  starFill := h.starFill

/-- The favourites, in the order they were added, and the address selected. -/
structure Favoritos where
  enderecos : UniqueList String
  selecionado : String

namespace Favoritos

/-- The favourites as the screen shows them: the star is filled where the address selected is one
of them. -/
def estrela (f : Favoritos) : Home.Estrela where
  favoriteAddressList := f.enderecos.toList
  addressSelectedLabel := f.selecionado
  starFill := decide (f.selecionado ∈ f.enderecos)

/-- The screen shows them right. -/
lemma certa (f : Favoritos) : f.estrela.Certa where
  nodup := f.enderecos.nodup
  star := by simp [estrela]

/-- The star is pressed. -/
def alterna (f : Favoritos) : Favoritos :=
  { f with enderecos := f.enderecos.toggle f.selecionado }

/-- What an event of the screen does to the favourites. -/
inductive Muda (f : Favoritos) : Favoritos → Prop where
  /-- Nothing. -/
  | nada : Muda f f
  /-- A destination is selected. -/
  | seleciona (titulo : String) : Muda f { f with selecionado := titulo }
  /-- The star is pressed. -/
  | alterna : Muda f f.alterna

end Favoritos

namespace Home

variable {env : Ambiente}

/-- The list of a screen that shows favourites. -/
lemma favoriteAddressList_eq {h : Home} {f : Favoritos} (hf : h.estrela = f.estrela) :
    h.favoriteAddressList = f.enderecos.toList := congrArg Estrela.favoriteAddressList hf

/-- The label of a screen that shows favourites. -/
lemma addressSelectedLabel_eq {h : Home} {f : Favoritos} (hf : h.estrela = f.estrela) :
    h.addressSelectedLabel = f.selecionado := congrArg Estrela.addressSelectedLabel hf

/-! ## The functions of the screen on the favourites -/

@[simp] lemma estrela_goToStep_one (h : Home) : (h.goToStep 1).estrela = h.estrela := by
  rw [goToStep_one_eq]
  rfl

@[simp] lemma estrela_searchAddress (h : Home) (addressName : String) :
    (h.searchAddress addressName).estrela = h.estrela := by
  obtain ⟨_, _, _, _, _, heq⟩ := exists_searchAddress h addressName
  rw [heq]
  rfl

@[simp] lemma estrela_suggestCompletion (h : Home) (resposta : Option (List Suggestion)) :
    (h.suggestCompletion resposta).estrela = h.estrela := by
  cases resposta <;> rfl

@[simp] lemma estrela_addParkingFound (h : Home) (p : PedidoEndereco) (ok : Bool) :
    (h.addParkingFound env p ok).estrela = h.estrela := by
  obtain ⟨_, _, _, _, heq⟩ := exists_addParkingFound env h p ok
  rw [heq]
  rfl

/-- A press of the star toggles the address selected.

**Proof sketch.** Either branch of `setFavoriteSelectedIcon` computes the list of the toggle, and
sets the icon that the toggled list calls for. -/
lemma estrela_toggleFavorite {h : Home} {f : Favoritos} (hf : h.estrela = f.estrela) :
    (h.setFavoriteSelectedIcon h.addressSelectedLabel true).estrela = f.alterna.estrela := by
  have hlista := favoriteAddressList_eq hf
  have hlabel := addressSelectedLabel_eq hf
  have hicon : f.selecionado ∈ f.alterna.enderecos ↔ f.selecionado ∉ f.enderecos :=
    UniqueList.self_mem_toggle
  by_cases hmem : f.selecionado ∈ f.enderecos
  · have hout : f.alterna.enderecos.toList = f.enderecos.toList.filter (· ≠ f.selecionado) :=
      UniqueList.toList_toggle_of_mem hmem
    have hstar : decide (f.alterna.selecionado ∈ f.alterna.enderecos) = false :=
      decide_eq_false (hicon.not_left.mpr hmem)
    rw [Favoritos.estrela, hout, hstar]
    simp [setFavoriteSelectedIcon, estrela, Favoritos.alterna, hlista, hlabel, hmem]
  · have hin : f.alterna.enderecos.toList = f.enderecos.toList ++ [f.selecionado] :=
      UniqueList.toList_toggle_of_notMem hmem
    have hstar : decide (f.alterna.selecionado ∈ f.alterna.enderecos) = true :=
      decide_eq_true (hicon.mpr hmem)
    rw [Favoritos.estrela, hin, hstar]
    simp [setFavoriteSelectedIcon, estrela, Favoritos.alterna, hlista, hlabel, hmem]

/-- A new destination is selected: the list stays, and the star is filled where it has the
address. -/
lemma estrela_loadParkingLocateNear {h h' : Home} {f : Favoritos} {addressTitle : String}
    {geoCoordinates : GeoCoordinates} {fetch : Option (Fetched Vaga)}
    (hf : h.estrela = f.estrela)
    (hs : h.loadParkingLocateNear env addressTitle geoCoordinates fetch = some h') :
    h'.estrela = ({ f with selecionado := addressTitle } : Favoritos).estrela := by
  have hshow : h'.estrela = { h.estrela with
      addressSelectedLabel := addressTitle
      starFill := decide (addressTitle ∈ h.favoriteAddressList) } := by
    obtain ⟨_, _, rfl⟩ := exists_loadParkingLocateNear hs
    rw [showDestination_eq]
    rfl
  rw [hshow, favoriteAddressList_eq hf, hf]
  rfl

/-! ## One step -/

/-- **A step of the favourites.** A step from a screen that shows `f` ends in a screen that shows
what an event makes of `f`.

**Proof sketch.** One case for each event. -/
theorem favoritos_step {h h' : Home} {f : Favoritos} {e : Event} (hf : h.estrela = f.estrela)
    (hs : step env h e = some h') : ∃ f', f.Muda f' ∧ h'.estrela = f'.estrela := by
  cases passo_of_step hs with
  | ignora => exact ⟨f, .nada, hf⟩
  | textDidChange searchText =>
    rw [estrela_searchAddress]
    exact ⟨f, .nada, hf⟩
  | suggestCallback resposta hq =>
    rw [estrela_suggestCompletion]
    exact ⟨f, .nada, hf⟩
  | semCoordenadas => exact ⟨f, .nada, hf⟩
  | @destino row address locValue fetch h' hrow ha hc hs =>
    exact ⟨_, .seleciona address.title, estrela_loadParkingLocateNear (by exact hf) hs⟩
  | favoriteSelect hrow ha =>
    rw [estrela_searchAddress]
    exact ⟨f, .nada, hf⟩
  | parkingSelect hrow hp => exact ⟨f, .nada, hf⟩
  | geocodeCallback ok hp =>
    rw [estrela_addParkingFound]
    exact ⟨f, .nada, hf⟩
  | maximiza => exact ⟨f, .nada, hf⟩
  | minimiza he => exact ⟨f, .nada, hf⟩
  | toggleFavorite => exact ⟨f.alterna, .alterna, estrela_toggleFavorite hf⟩
  | backToFirstStep =>
    rw [estrela_goToStep_one]
    exact ⟨f, .nada, hf⟩
  | backToSecondStep => exact ⟨f, .nada, hf⟩
  | requestPark ht hr =>
    rw [estrela_goToStep_one]
    exact ⟨f, .nada, hf⟩
  | userLocate position => exact ⟨f, .nada, hf⟩

/-! ## Whole runs -/

/-- Two presses of the star in a row leave the favourites, and the order of those other than the
address in the label. -/
def DuasVezes (env : Ambiente) (h : Home) : Prop :=
  ∃ h', Runs.run (step env) [.toggleFavorite, .toggleFavorite] h = some h' ∧
    (∀ address, address ∈ h'.favoriteAddressList ↔ address ∈ h.favoriteAddressList) ∧
    h'.favoriteAddressList.filter (· ≠ h.addressSelectedLabel) =
      h.favoriteAddressList.filter (· ≠ h.addressSelectedLabel)

/-- The favourites at launch. -/
def favoritosIniciais : Favoritos where
  enderecos := ⟨["São Paulo, SP, Brasil", "Guarulhos, SP, Brasil"], by decide⟩
  selecionado := "Rua xxxxx x x x xxx"

lemma estrela_viewDidLoad : viewDidLoad.estrela = favoritosIniciais.estrela := rfl

/-- Two presses of the star toggle the address selected twice. -/
lemma duasVezes_of_estrela {h : Home} {f : Favoritos} (hf : h.estrela = f.estrela) :
    DuasVezes env h := by
  have hduas := favoriteAddressList_eq (estrela_toggleFavorite (estrela_toggleFavorite hf))
  refine ⟨_, rfl, fun address => ?_, ?_⟩
  · rw [hduas, favoriteAddressList_eq hf]
    exact UniqueList.mem_toggle_toggle
  · rw [hduas, favoriteAddressList_eq hf, addressSelectedLabel_eq hf]
    exact (UniqueList.others_toggle _ _).trans (UniqueList.others_toggle _ _)

/-- **The favourites.** In every state of every run from launch the list of favourites repeats
nothing and the star is filled exactly where the address in the label is in the list, and two
presses of the star in a row leave the favourites and the order of the others.

**Proof sketch.** By the simulation rule every state shows some `Favoritos`, on which the icon is
right by definition. Two presses toggle the same member twice. -/
theorem favoritos_throughout (env : Ambiente) (es : List Event) :
    Runs.Throughout (step env) (fun h => h.estrela.Certa ∧ DuasVezes env h) es viewDidLoad := by
  have hshown : Runs.Throughout (step env) (fun h => ∃ f, Relation.ReflTransGen Favoritos.Muda
      favoritosIniciais f ∧ h.estrela = f.estrela) es viewDidLoad :=
    .of_simulation (fun h f e h' hf hs => favoritos_step hf hs) estrela_viewDidLoad
  apply hshown.imp
  intro h ⟨f, _, hf⟩
  refine ⟨?_, duasVezes_of_estrela hf⟩
  rw [hf]
  exact f.certa

end Home

end Parken
