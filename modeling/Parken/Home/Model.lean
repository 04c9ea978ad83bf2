import Parken.Entities
import Parken.Lib.Runs
import Parken.Lib.TableView

set_option relaxedAutoImplicit false
set_option autoImplicit false

/-!
# The Home screen

The driver's main screen (`HomeViewController`, over the map of `HereSdkController`): in the
first step the driver types an address and picks a suggestion or a favourite, in the second
picks a garage near it, in the third requests it.

Suggestions and addresses come from the HERE SDK through completions that are never cancelled:
the requests in flight are part of the state, and any of them may be answered at any time. The
distance between two positions and the text of a number are left to the platform (`Ambiente`).

## Main definitions

* `Parken.Home` — the state of the screen, the map scene and the requests in flight.
* `Parken.Home.goToStep`, `Parken.Home.searchAddress`, `Parken.Home.loadParkingLocateNear`,
  `Parken.Home.addParkingFound`, `Parken.Home.prepare` — the functions of the screen.
* `Parken.Home.viewDidLoad`, `Parken.Home.step` — the screen at launch, and its events.

## Main results

* `Parken.Home.goToStep_one_eq`, `Parken.Home.showDestination_eq` — the screen after the two longest
  functions; the lemmas beside them name the fields the others change.
* `Parken.Home.passo_of_step` — the screen after an event, case by case.
-/

namespace Parken

/-- What the platform computes for the screen. -/
structure Ambiente where
  /-- `Int(coordinate0.distance(from: coordinate1))`: the distance in metres, truncated. -/
  distance : GeoCoordinates → GeoCoordinates → ℤ
  /-- The text of a number in a string. -/
  description : Double → String

/-- A marker of the map (`MapMarkerLite`). Every marker created is a new object. -/
structure MapMarkerLite where
  objeto : ℕ
  coordinates : GeoCoordinates
  imageName : String
deriving DecidableEq

/-- A suggestion of the HERE SDK, with the coordinates of its place if it has one. -/
structure Suggestion where
  title : String
  coordinates : Option GeoCoordinates
deriving DecidableEq

/-- `ParkingLocateModel`: an entry of the list of garages found. -/
structure ParkingLocateModel where
  address : String
  distance : String
  ammount : String
  rates : String
  localization : MapMarkerLite
  description : String
  title : String
  id : String
deriving DecidableEq

/-- An entry of `parkingLocateList` with where it comes from: the search that asked for it and
the record it was built from. The screen reads neither. -/
structure Achado extends ParkingLocateModel where
  /-- The number of the `loadParkingLocateNear` it was asked for by. -/
  busca : ℕ
  /-- The record it was built from. -/
  vaga : ObjectID × Vaga
deriving DecidableEq

/-- A reverse geocoding in flight: what the completion of `addParkingFound` captured, with
where it comes from. -/
structure PedidoEndereco where
  geoCoordinates : GeoCoordinates
  endereco : String
  valor : Double
  titulo : String
  descricao : String
  idVaga : String
  distanciaTest : ℤ
  /-- The number of the `loadParkingLocateNear` that issued it. -/
  busca : ℕ
  /-- The record it was issued for. -/
  vaga : ObjectID × Vaga
deriving DecidableEq

/-- The state of the screen. -/
structure Home where
  /-- `mapController` is set. -/
  mapController : Bool
  isPopupOpen : Bool
  isSearching : Bool
  firstStepHidden : Bool
  secondStepHidden : Bool
  thirdStepHidden : Bool
  searchResultHidden : Bool
  favoriteHidden : Bool
  /-- `searchAddress.text`. -/
  searchText : String
  userLocateMapMarker : Option MapMarkerLite
  destineLocateMapMarker : Option MapMarkerLite
  suggestAddressList : List Suggestion
  suggestAddressTable : TableView
  favoriteAddressList : List String
  favoriteAddressTable : TableView
  parkingLocateList : List Achado
  parkingLocateTable : TableView
  /-- The Vagas of the last fetch, as it found them. No screen changes the attributes read from
  them; what the objects answer once their record is deleted is left out. -/
  vagas : List (ObjectID × Vaga)
  parkChoosed : Option Achado
  addressSelectedLabel : String
  /-- The star button shows the filled icon. -/
  starFill : Bool
  /-- `locLat` and `locLon`: the destination selected last. -/
  loc : GeoCoordinates
  /-- The markers on the map scene. -/
  mapScene : List MapMarkerLite
  /-- The number of markers created so far. -/
  marcadores : ℕ
  /-- The number of suggestion requests issued so far. -/
  consultas : ℕ
  /-- The suggestion requests in flight, numbered in the order they were issued. -/
  sugestoes : List (ℕ × String)
  /-- The number of `loadParkingLocateNear` so far. -/
  buscas : ℕ
  /-- The reverse geocodings in flight. -/
  enderecos : List PedidoEndereco

namespace Home

/-! ## The map (`HereSdkController`) -/

/-- `mapScene.addMapMarker`: adding a marker that is on the scene changes nothing. -/
def addMapMarker (scene : List MapMarkerLite) (m : MapMarkerLite) : List MapMarkerLite :=
  if m ∈ scene then scene else scene ++ [m]

/-- `mapScene.removeMapMarker`: removing a marker that is not on the scene changes nothing. -/
def removeMapMarker (scene : List MapMarkerLite) (m : MapMarkerLite) : List MapMarkerLite :=
  scene.filter (· ≠ m)

/-- `addMarker(mapMarker:geoCoordinates:lastMarker:)`. -/
def addMarker (scene : List MapMarkerLite) (m : MapMarkerLite)
    (lastMarker : Option MapMarkerLite) : List MapMarkerLite :=
  match lastMarker with
  | some last => addMapMarker (removeMapMarker scene last) m
  | none => addMapMarker scene m

/-- `addMarkerList(markerList:)`. -/
def addMarkerList (scene markerList : List MapMarkerLite) : List MapMarkerLite :=
  markerList.foldl addMapMarker scene

/-- `clearMarkerList(markerList:)`. -/
def clearMarkerList (scene markerList : List MapMarkerLite) : List MapMarkerLite :=
  markerList.foldl removeMapMarker scene

/-! ## The functions of the screen -/

/-- `maximizeDealModal`. -/
def maximizeDealModal (h : Home) : Home :=
  { h with
    isPopupOpen := true
    searchResultHidden := !h.isSearching
    favoriteHidden := h.isSearching }

/-- `minimizeDealModal`. -/
def minimizeDealModal (h : Home) : Home :=
  { h with isPopupOpen := false, searchResultHidden := true, favoriteHidden := true }

/-- `parkingLocateList.map { $0.Localization }`. -/
def localizations (h : Home) : List MapMarkerLite :=
  h.parkingLocateList.map fun a => a.localization

/-- The first case of `goToStep`, after the views are switched: the garages found are taken off
the map and the list, if the map is loaded, and so is the destination marker. The table is not
reloaded. -/
def clearSearch (h : Home) : Home :=
  let h := if h.mapController then
      { h with
        mapScene := clearMarkerList h.mapScene h.localizations
        parkingLocateList := [] }
    else h
  match h.destineLocateMapMarker with
  | some destineMarker =>
    { h with mapScene := removeMapMarker h.mapScene destineMarker, destineLocateMapMarker := none }
  | none => h

/-- `goToStep(step:)`. -/
def goToStep (h : Home) : ℕ → Home
  | 1 =>
    let h := { h with
      isSearching := false
      firstStepHidden := false
      secondStepHidden := true
      thirdStepHidden := true }
    h.minimizeDealModal.clearSearch
  | 2 =>
    { h with
      searchText := ""
      isSearching := false
      suggestAddressList := []
      -- `isSearching ? suggestAddressList.count : 0`
      suggestAddressTable := .reloadData 0
      firstStepHidden := true
      secondStepHidden := false
      thirdStepHidden := true }
  | 3 => { h with firstStepHidden := true, secondStepHidden := true, thirdStepHidden := false }
  | _ => h

/-- `searchAddress(addressName:)`: a non-empty text issues a suggestion request. -/
def searchAddress (h : Home) (addressName : String) : Home :=
  let h := { h with isSearching := !addressName.isEmpty }
  if h.isSearching then
    { h with
      consultas := h.consultas + 1
      sugestoes := h.sugestoes ++ [(h.consultas, addressName)] }.maximizeDealModal
  else h.minimizeDealModal

/-- The completion of a suggestion request: an error changes nothing. -/
def suggestCompletion (h : Home) (resposta : Option (List Suggestion)) : Home :=
  match resposta with
  | none => h
  | some items =>
    { h with
      suggestAddressList := items
      suggestAddressTable := .reloadData (if h.isSearching then items.length else 0) }

/-- `setUserLocateMarker(geoCoordinates:centralize:)`. -/
def setUserLocateMarker (h : Home) (geoCoordinates : GeoCoordinates) : Home :=
  let m : MapMarkerLite := ⟨h.marcadores, geoCoordinates, "location.north.fill"⟩
  { h with
    marcadores := h.marcadores + 1
    mapScene := addMarker h.mapScene m h.userLocateMapMarker
    userLocateMapMarker := some m }

/-- `setDestineLocateMarker(geoCoordinates:)`. -/
def setDestineLocateMarker (h : Home) (geoCoordinates : GeoCoordinates) : Home :=
  let m : MapMarkerLite := ⟨h.marcadores, geoCoordinates, "poi"⟩
  { h with
    marcadores := h.marcadores + 1
    mapScene := addMarker h.mapScene m h.destineLocateMapMarker
    destineLocateMapMarker := some m
    loc := geoCoordinates }

/-- `setFavoriteSelectedIcon(addressName:changeIcon:)`. -/
def setFavoriteSelectedIcon (h : Home) (addressName : String) (changeIcon : Bool) : Home :=
  if addressName ∈ h.favoriteAddressList then
    if changeIcon then
      let favoritos := h.favoriteAddressList.filter (· ≠ addressName)
      { h with
        starFill := false
        favoriteAddressList := favoritos
        favoriteAddressTable := .reloadData favoritos.length }
    else { h with starFill := true }
  else
    if changeIcon then
      let favoritos := h.favoriteAddressList ++ [addressName]
      { h with
        starFill := true
        favoriteAddressList := favoritos
        favoriteAddressTable := .reloadData favoritos.length }
    else { h with starFill := false }

/-- The reverse geocoding that `loadParkingLocateNear` issues for a record through
`addParkingFound`; `none` where the record has no position (`as! Double`). -/
def pedidoEndereco (env : Ambiente) (h : Home) (vaga : ObjectID × Vaga) : Option PedidoEndereco :=
  match vaga.2.latitude, vaga.2.longitude with
  | some latitude, some longitude =>
    let rua := vaga.2.rua.getD "Rua"
    let numero := vaga.2.numero.getD "Numero"
    let bairro := vaga.2.bairro.getD "Bairro"
    some {
      geoCoordinates := ⟨latitude, longitude⟩
      endereco := s!"{rua}, {numero}, {bairro}"
      valor := vaga.2.valor.getD (.finite (1222 / 100))
      titulo := vaga.2.titulo.getD "Titulo"
      descricao := vaga.2.descricao.getD "Descricao"
      idVaga := vaga.2.chaveHome
      distanciaTest := env.distance h.loc ⟨latitude, longitude⟩
      busca := h.buscas
      vaga := vaga }
  | _, _ => none

/-- `loadParkingLocateNear` up to its fetch: the new destination is shown and the list emptied,
without a reload of its table. -/
def showDestination (h : Home) (addressTitle : String) (geoCoordinates : GeoCoordinates) : Home :=
  let h := h.goToStep 2
  let h := match h.destineLocateMapMarker with
    | some mapMarker =>
      { h with mapScene := removeMapMarker h.mapScene mapMarker, destineLocateMapMarker := none }
    | none => h
  let h := { h with
    buscas := h.buscas + 1
    parkingLocateList := []
    addressSelectedLabel := addressTitle }
  (h.setFavoriteSelectedIcon addressTitle false).setDestineLocateMarker geoCoordinates

/-- `loadParkingLocateNear(addressTitle:geoCoordinates:)`. A fetch that throws leaves the
records of the fetch before. `none` where it traps. -/
def loadParkingLocateNear (env : Ambiente) (h : Home) (addressTitle : String)
    (geoCoordinates : GeoCoordinates) (fetch : Option (Fetched Vaga)) : Option Home :=
  let h := h.showDestination addressTitle geoCoordinates
  let h := match fetch with
    | some vagas => { h with vagas := vagas.rows }
    | none => h
  (h.vagas.mapM (h.pedidoEndereco env)).map fun pedidos =>
    { h with enderecos := h.enderecos ++ pedidos }

/-- The entry that the completion of `addParkingFound` builds, with its marker. -/
def achado (env : Ambiente) (p : PedidoEndereco) (localization : MapMarkerLite) : Achado where
  address := p.endereco
  distance := s!"{p.distanciaTest} M"
  ammount := s!"R$ {env.description p.valor}"
  rates := ""
  localization := localization
  description := p.descricao
  title := p.titulo
  id := p.idVaga
  busca := p.busca
  vaga := p.vaga

/-- The completion of the reverse geocoding issued by `addParkingFound`. An error changes
nothing; a result adds an entry where the distance is at most 1000 metres, and reloads the
table. -/
def addParkingFound (env : Ambiente) (h : Home) (p : PedidoEndereco) (ok : Bool) : Home :=
  if ok then
    let h := if p.distanciaTest ≤ 1000 then
        let m : MapMarkerLite := ⟨h.marcadores, p.geoCoordinates, "parking_icon"⟩
        let h := { h with
          marcadores := h.marcadores + 1
          parkingLocateList := h.parkingLocateList ++ [achado env p m] }
        { h with mapScene := addMarkerList h.mapScene h.localizations }
      else h
    { h with parkingLocateTable := .reloadData h.parkingLocateList.length }
  else h

/-- `loadParkChoosed(park:)`. -/
def loadParkChoosed (h : Home) (park : Achado) : Home :=
  { h.goToStep 3 with parkChoosed := some park }

/-- The loop of `prepare(for:sender:)`: the first record whose stored id is `id`, the last
record where none is. The texts are compared in their normal form. -/
def vagaFinal (id : String) : Option (ObjectID × Vaga) → List (ObjectID × Vaga) →
    Option (ObjectID × Vaga)
  | ultima, [] => ultima
  | _, vaga :: vagas =>
    if vaga.2.id.getD "Titulo" = id then some vaga else vagaFinal id (some vaga) vagas

/-- `prepare(for:sender:)` on `requestSegue`: the selected entry, and the record handed to
`RequestViewController`; `none` where no row is selected or the row is out of range. -/
def prepare (h : Home) : Option (Achado × Option (ObjectID × Vaga)) :=
  match h.parkingLocateTable.selected with
  | none => none
  | some item =>
    match h.parkingLocateList[item]? with
    | none => none
    | some vagaSelecionada =>
      some (vagaSelecionada, vagaFinal vagaSelecionada.id none h.vagas)

/-- The press of the request button: its action `requestParkClick` and its segue, in the order
UIKit fires them. -/
def requestPark (h : Home) : Ordem → Option (Home × Achado × Option (ObjectID × Vaga))
  | .acaoPrimeiro => (h.goToStep 1).prepare.map fun r => (h.goToStep 1, r)
  | .seguePrimeiro => h.prepare.map fun r => (h.goToStep 1, r)

/-! ## What the functions change -/

/-- The screen back in its first step. -/
lemma goToStep_one_eq (h : Home) : h.goToStep 1 = { h with
    isSearching := false
    isPopupOpen := false
    firstStepHidden := false
    secondStepHidden := true
    thirdStepHidden := true
    searchResultHidden := true
    favoriteHidden := true
    mapScene := clearMarkerList
      (if h.mapController then clearMarkerList h.mapScene h.localizations else h.mapScene)
      h.destineLocateMapMarker.toList
    parkingLocateList := if h.mapController then [] else h.parkingLocateList
    destineLocateMapMarker := none } := by
  unfold goToStep minimizeDealModal clearSearch
  cases h.mapController <;> cases h.destineLocateMapMarker <;>
    simp [clearMarkerList, localizations]

/-- The fields `searchAddress` changes. -/
lemma exists_searchAddress (h : Home) (addressName : String) :
    ∃ isPopupOpen searchResultHidden favoriteHidden consultas sugestoes,
      h.searchAddress addressName = { h with
        isSearching := !addressName.isEmpty
        isPopupOpen := isPopupOpen
        searchResultHidden := searchResultHidden
        favoriteHidden := favoriteHidden
        consultas := consultas
        sugestoes := sugestoes } := by
  unfold searchAddress
  dsimp only
  split_ifs <;> exact ⟨_, _, _, _, _, rfl⟩

/-- The fields `setFavoriteSelectedIcon` changes. -/
lemma exists_setFavoriteSelectedIcon (h : Home) (addressName : String) (changeIcon : Bool) :
    ∃ starFill favoriteAddressList favoriteAddressTable,
      h.setFavoriteSelectedIcon addressName changeIcon = { h with
        starFill := starFill
        favoriteAddressList := favoriteAddressList
        favoriteAddressTable := favoriteAddressTable } := by
  unfold setFavoriteSelectedIcon
  split_ifs <;> exact ⟨_, _, _, rfl⟩

/-- The screen of a new destination. -/
lemma showDestination_eq (h : Home) (addressTitle : String) (geoCoordinates : GeoCoordinates) :
    h.showDestination addressTitle geoCoordinates = { h with
      searchText := ""
      isSearching := false
      suggestAddressList := []
      suggestAddressTable := .reloadData 0
      firstStepHidden := true
      secondStepHidden := false
      thirdStepHidden := true
      buscas := h.buscas + 1
      parkingLocateList := []
      addressSelectedLabel := addressTitle
      starFill := decide (addressTitle ∈ h.favoriteAddressList)
      marcadores := h.marcadores + 1
      mapScene := addMarker h.mapScene ⟨h.marcadores, geoCoordinates, "poi"⟩
        h.destineLocateMapMarker
      destineLocateMapMarker := some ⟨h.marcadores, geoCoordinates, "poi"⟩
      loc := geoCoordinates } := by
  unfold showDestination setDestineLocateMarker setFavoriteSelectedIcon goToStep
  cases h.destineLocateMapMarker <;>
    by_cases ha : addressTitle ∈ h.favoriteAddressList <;> simp [ha, addMarker]

/-- The fields that `loadParkingLocateNear` changes after it shows the destination. -/
lemma exists_loadParkingLocateNear {env : Ambiente} {h h' : Home} {addressTitle : String}
    {geoCoordinates : GeoCoordinates} {fetch : Option (Fetched Vaga)}
    (hs : h.loadParkingLocateNear env addressTitle geoCoordinates fetch = some h') :
    ∃ vagas enderecos, h' = { h.showDestination addressTitle geoCoordinates with
      vagas := vagas
      enderecos := enderecos } := by
  obtain ⟨pedidos, -, rfl⟩ := Option.map_eq_some_iff.mp hs
  cases fetch <;> exact ⟨_, _, rfl⟩

/-- The fields the completion of `addParkingFound` changes. -/
lemma exists_addParkingFound (env : Ambiente) (h : Home) (p : PedidoEndereco) (ok : Bool) :
    ∃ marcadores mapScene parkingLocateList parkingLocateTable,
      h.addParkingFound env p ok = { h with
        marcadores := marcadores
        mapScene := mapScene
        parkingLocateList := parkingLocateList
        parkingLocateTable := parkingLocateTable } := by
  unfold addParkingFound
  dsimp only
  split_ifs <;> exact ⟨_, _, _, _, rfl⟩

/-! ## The rows of the tables -/

/-- The text of a row of the suggestions, `none` where it is out of range. -/
def suggestCell (h : Home) (row : ℕ) : Option String :=
  h.suggestAddressList[row]?.map Suggestion.title

/-- The text of a row of the favourites, `none` where it is out of range. -/
def favoriteCell (h : Home) (row : ℕ) : Option String := h.favoriteAddressList[row]?

/-- The texts of a row of the garages found, `none` where it is out of range. -/
def parkingCell (h : Home) (row : ℕ) : Option (String × String × String × String) :=
  h.parkingLocateList[row]?.map fun p => (p.address, p.distance, p.ammount, p.rates)

/-! ## The events -/

/-- An event of the screen. The tables offer the rows of their last reload, and the completions
in flight are answered in any order, each at most once. -/
inductive Event where
  /-- The user types in the search bar. -/
  | textDidChange (searchText : String)
  /-- The `k`-th suggestion request in flight is answered, with a list or an error. -/
  | suggestCallback (k : ℕ) (resposta : Option (List Suggestion))
  /-- The user taps a suggestion; `fetch` is the result of the fetch of the Vagas. -/
  | suggestSelect (row : ℕ) (fetch : Option (Fetched Vaga))
  /-- The user taps a favourite. -/
  | favoriteSelect (row : ℕ)
  /-- The user taps a garage. -/
  | parkingSelect (row : ℕ)
  /-- The `k`-th reverse geocoding in flight is answered, with a result or an error. -/
  | geocodeCallback (k : ℕ) (ok : Bool)
  /-- `togglePopupClick`. -/
  | togglePopup
  /-- `dismissPopupClick`. -/
  | dismissPopup
  /-- `toggleFavoriteAddressSelectedClick`. -/
  | toggleFavorite
  /-- `backToFirstStepClick`. -/
  | backToFirstStep
  /-- `backToSecondStepClick`. -/
  | backToSecondStep
  /-- The request button of the third step is pressed. -/
  | requestPark (ordem : Ordem)
  /-- The map is loaded or the location is updated, with a position. -/
  | userLocate (position : GeoCoordinates)

/-- The fields of the screen as the storyboard sets them up. -/
def storyboard : Home where
  mapController := false
  isPopupOpen := false
  isSearching := false
  firstStepHidden := false
  secondStepHidden := false
  thirdStepHidden := false
  searchResultHidden := false
  favoriteHidden := false
  searchText := ""
  userLocateMapMarker := none
  destineLocateMapMarker := none
  suggestAddressList := []
  suggestAddressTable := .unloaded
  favoriteAddressList := []
  favoriteAddressTable := .unloaded
  parkingLocateList := []
  parkingLocateTable := .unloaded
  vagas := []
  parkChoosed := none
  addressSelectedLabel := "Rua xxxxx x x x xxx"
  starFill := false
  loc := ⟨.finite 0, .finite 0⟩
  mapScene := []
  marcadores := 0
  consultas := 0
  sugestoes := []
  buscas := 0
  enderecos := []

/-- `loadFavoriteAddress`. -/
def loadFavoriteAddress (h : Home) : Home :=
  let favoritos := ["São Paulo, SP, Brasil", "Guarulhos, SP, Brasil"]
  { h with favoriteAddressList := favoritos, favoriteAddressTable := .reloadData favoritos.length }

/-- `viewDidLoad`: the map controller is set after the first `goToStep`. -/
def viewDidLoad : Home :=
  { (storyboard.loadFavoriteAddress).goToStep 1 with mapController := true }

/-- One event: the screen after it, or `none` where the program traps. -/
def step (env : Ambiente) (h : Home) : Event → Option Home
  | .textDidChange searchText => some ({ h with searchText := searchText }.searchAddress searchText)
  | .suggestCallback k resposta =>
    match h.sugestoes[k]? with
    | none => some h
    | some _ => some ({ h with sugestoes := h.sugestoes.eraseIdx k }.suggestCompletion resposta)
  | .suggestSelect row fetch =>
    if row < h.suggestAddressTable.rows then
      let h := { h with suggestAddressTable := h.suggestAddressTable.select row }
      match h.suggestAddressList[row]? with
      | none => none
      | some address =>
        match address.coordinates with
        | none => some h
        | some locValue => h.loadParkingLocateNear env address.title locValue fetch
    else some h
  | .favoriteSelect row =>
    if row < h.favoriteAddressTable.rows then
      let h := { h with favoriteAddressTable := h.favoriteAddressTable.select row }
      match h.favoriteAddressList[row]? with
      | none => none
      | some address => some ({ h with searchText := address }.searchAddress address)
    else some h
  | .parkingSelect row =>
    if row < h.parkingLocateTable.rows then
      let h := { h with parkingLocateTable := h.parkingLocateTable.select row }
      match h.parkingLocateList[row]? with
      | none => none
      | some parking => some (h.loadParkChoosed parking)
    else some h
  | .geocodeCallback k ok =>
    match h.enderecos[k]? with
    | none => some h
    | some p => some ({ h with enderecos := h.enderecos.eraseIdx k }.addParkingFound env p ok)
  | .togglePopup => some (if h.isPopupOpen then h.minimizeDealModal else h.maximizeDealModal)
  | .dismissPopup => some h.minimizeDealModal
  | .toggleFavorite => some (h.setFavoriteSelectedIcon h.addressSelectedLabel true)
  | .backToFirstStep => some (h.goToStep 1)
  | .backToSecondStep => some (h.goToStep 2)
  | .requestPark ordem =>
    if h.thirdStepHidden then some h else (h.requestPark ordem).map Prod.fst
  | .userLocate position => some (h.setUserLocateMarker position)

/-! ## What a step can do -/

/-- The event selects a new destination: a suggestion with coordinates is tapped. -/
def NovoDestino (h : Home) : Event → Prop
  | .suggestSelect row _ =>
    row < h.suggestAddressTable.rows ∧
      ∃ address ∈ h.suggestAddressList[row]?, address.coordinates.isSome
  | _ => False

instance (h : Home) : ∀ e, Decidable (h.NovoDestino e)
  | .suggestSelect row _ => inferInstanceAs (Decidable (row < h.suggestAddressTable.rows ∧
      ∃ address ∈ h.suggestAddressList[row]?, address.coordinates.isSome))
  | .textDidChange _ | .suggestCallback _ _ | .favoriteSelect _ | .parkingSelect _
  | .geocodeCallback _ _ | .togglePopup | .dismissPopup | .toggleFavorite | .backToFirstStep
  | .backToSecondStep | .requestPark _ | .userLocate _ => .isFalse id

/-- The screen after an event, case by case. -/
inductive Passo (env : Ambiente) (h : Home) : Event → Home → Prop where
  /-- The event finds nothing to act on: a row that is not offered, a completion that is not
  waiting, or the request button while its step is hidden. -/
  | ignora {e : Event} (hk : ∀ k ok, e = .geocodeCallback k ok → h.enderecos[k]? = none)
      (hs : ∀ k resposta, e = .suggestCallback k resposta → h.sugestoes[k]? = none)
      (hr : ∀ ordem, e = .requestPark ordem → h.thirdStepHidden = true)
      (hc : ∀ row fetch, e = .suggestSelect row fetch → h.suggestAddressTable.rows ≤ row)
      (he : e ≠ .backToFirstStep) (ht : ∀ texto, e ≠ .textDidChange texto) : Passo env h e h
  | textDidChange (searchText : String) :
      Passo env h (.textDidChange searchText)
        ({ h with searchText := searchText }.searchAddress searchText)
  | suggestCallback {k : ℕ} {q : ℕ × String} (resposta : Option (List Suggestion))
      (hq : h.sugestoes[k]? = some q) :
      Passo env h (.suggestCallback k resposta)
        ({ h with sugestoes := h.sugestoes.eraseIdx k }.suggestCompletion resposta)
  /-- A suggestion without coordinates is tapped. -/
  | semCoordenadas {row : ℕ} {address : Suggestion} (fetch : Option (Fetched Vaga))
      (hrow : row < h.suggestAddressTable.rows)
      (ha : h.suggestAddressList[row]? = some address) (hc : address.coordinates = none) :
      Passo env h (.suggestSelect row fetch)
        { h with suggestAddressTable := h.suggestAddressTable.select row }
  /-- A suggestion with coordinates becomes the destination. -/
  | destino {row : ℕ} {address : Suggestion} {locValue : GeoCoordinates}
      (fetch : Option (Fetched Vaga)) {h' : Home} (hrow : row < h.suggestAddressTable.rows)
      (ha : h.suggestAddressList[row]? = some address)
      (hc : address.coordinates = some locValue)
      (hs : { h with suggestAddressTable := h.suggestAddressTable.select row
        }.loadParkingLocateNear env address.title locValue fetch = some h') :
      Passo env h (.suggestSelect row fetch) h'
  | favoriteSelect {row : ℕ} {address : String} (hrow : row < h.favoriteAddressTable.rows)
      (ha : h.favoriteAddressList[row]? = some address) :
      Passo env h (.favoriteSelect row)
        ({ h with
          favoriteAddressTable := h.favoriteAddressTable.select row
          searchText := address }.searchAddress address)
  | parkingSelect {row : ℕ} {parking : Achado} (hrow : row < h.parkingLocateTable.rows)
      (hp : h.parkingLocateList[row]? = some parking) :
      Passo env h (.parkingSelect row)
        ({ h with parkingLocateTable := h.parkingLocateTable.select row }.loadParkChoosed parking)
  | geocodeCallback {k : ℕ} {p : PedidoEndereco} (ok : Bool) (hp : h.enderecos[k]? = some p) :
      Passo env h (.geocodeCallback k ok)
        ({ h with enderecos := h.enderecos.eraseIdx k }.addParkingFound env p ok)
  | maximiza : Passo env h .togglePopup h.maximizeDealModal
  | minimiza {e : Event} (he : e = .togglePopup ∨ e = .dismissPopup) :
      Passo env h e h.minimizeDealModal
  | toggleFavorite :
      Passo env h .toggleFavorite (h.setFavoriteSelectedIcon h.addressSelectedLabel true)
  | backToFirstStep : Passo env h .backToFirstStep (h.goToStep 1)
  | backToSecondStep : Passo env h .backToSecondStep (h.goToStep 2)
  | requestPark {ordem : Ordem} {r : Home × Achado × Option (ObjectID × Vaga)}
      (ht : h.thirdStepHidden = false) (hr : h.requestPark ordem = some r) :
      Passo env h (.requestPark ordem) (h.goToStep 1)
  | userLocate (position : GeoCoordinates) :
      Passo env h (.userLocate position) (h.setUserLocateMarker position)

/-- A press of the request button leaves the screen in its first step. -/
lemma requestPark_fst {h : Home} {ordem : Ordem} {r : Home × Achado × Option (ObjectID × Vaga)}
    (hr : h.requestPark ordem = some r) : r.1 = h.goToStep 1 := by
  cases ordem <;> obtain ⟨_, _, rfl⟩ := Option.map_eq_some_iff.mp hr <;> rfl

/-- **The step of Home.** A step ends in one of the screens of `Passo`. -/
theorem passo_of_step {env : Ambiente} {h h' : Home} {e : Event} (hs : step env h e = some h') :
    Passo env h e h' := by
  cases e with
  | textDidChange searchText =>
    obtain rfl := Option.some.inj hs
    exact .textDidChange searchText
  | suggestCallback k resposta =>
    simp only [step] at hs
    split at hs
    next hk =>
      obtain rfl := Option.some.inj hs
      exact .ignora (by simp) (by rintro _ _ ⟨⟩; exact hk) (by simp) (by simp) (by simp) (by simp)
    next q hk =>
      obtain rfl := Option.some.inj hs
      exact .suggestCallback resposta hk
  | suggestSelect row fetch =>
    simp only [step] at hs
    by_cases hrow : row < h.suggestAddressTable.rows
    · rw [if_pos hrow] at hs
      split at hs
      · cases hs
      next address ha =>
        split at hs
        next hc =>
          obtain rfl := Option.some.inj hs
          exact .semCoordenadas fetch hrow ha hc
        next locValue hc => exact .destino fetch hrow ha hc hs
    · rw [if_neg hrow] at hs
      obtain rfl := Option.some.inj hs
      exact .ignora (by simp) (by simp) (by simp) (by rintro _ _ ⟨⟩; omega) (by simp) (by simp)
  | favoriteSelect row =>
    simp only [step] at hs
    by_cases hrow : row < h.favoriteAddressTable.rows
    · rw [if_pos hrow] at hs
      split at hs
      · cases hs
      next address ha =>
        obtain rfl := Option.some.inj hs
        exact .favoriteSelect hrow ha
    · rw [if_neg hrow] at hs
      obtain rfl := Option.some.inj hs
      exact .ignora (by simp) (by simp) (by simp) (by simp) (by simp) (by simp)
  | parkingSelect row =>
    simp only [step] at hs
    by_cases hrow : row < h.parkingLocateTable.rows
    · rw [if_pos hrow] at hs
      split at hs
      · cases hs
      next parking hp =>
        obtain rfl := Option.some.inj hs
        exact .parkingSelect hrow hp
    · rw [if_neg hrow] at hs
      obtain rfl := Option.some.inj hs
      exact .ignora (by simp) (by simp) (by simp) (by simp) (by simp) (by simp)
  | geocodeCallback k ok =>
    simp only [step] at hs
    split at hs
    next hk =>
      obtain rfl := Option.some.inj hs
      exact .ignora (by rintro _ _ ⟨⟩; exact hk) (by simp) (by simp) (by simp) (by simp) (by simp)
    next p hk =>
      obtain rfl := Option.some.inj hs
      exact .geocodeCallback ok hk
  | togglePopup =>
    obtain rfl := Option.some.inj hs
    split_ifs
    · exact .minimiza (.inl rfl)
    · exact .maximiza
  | dismissPopup =>
    obtain rfl := Option.some.inj hs
    exact .minimiza (.inr rfl)
  | toggleFavorite =>
    obtain rfl := Option.some.inj hs
    exact .toggleFavorite
  | backToFirstStep =>
    obtain rfl := Option.some.inj hs
    exact .backToFirstStep
  | backToSecondStep =>
    obtain rfl := Option.some.inj hs
    exact .backToSecondStep
  | requestPark ordem =>
    simp only [step] at hs
    by_cases ht : h.thirdStepHidden = true
    · rw [if_pos ht] at hs
      obtain rfl := Option.some.inj hs
      exact .ignora (by simp) (by simp) (by rintro _ ⟨⟩; exact ht) (by simp) (by simp) (by simp)
    · rw [if_neg ht] at hs
      obtain ⟨r, hr, rfl⟩ := Option.map_eq_some_iff.mp hs
      rw [requestPark_fst hr]
      exact .requestPark (by simpa using ht) hr
  | userLocate position =>
    obtain rfl := Option.some.inj hs
    exact .userLocate position

/-- A platform where positions differ by nothing or by more than a kilometre. -/
def ambiente : Ambiente where
  distance p q := if p = q then 0 else 5000
  description _ := "10.0"

end Home

end Parken
