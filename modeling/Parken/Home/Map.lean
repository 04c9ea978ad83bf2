import Parken.Home.ParkingList

set_option relaxedAutoImplicit false
set_option autoImplicit false

/-!
# The markers on the map

The scene of the map has no list of its own: the screen adds and removes markers next to the
changes of the fields that stand for them, in six places. What the scene holds in any run
depends on five fields of the screen (`Mapa`) and on five kinds of change to them.

## Main definitions

* `Parken.Mapa` — the scene and the fields that stand for its markers.
* `Parken.Mapa.Exato` — the scene holds the markers of the fields and no others.
* `Parken.Mapa.Novos` — what holds of the markers in every reachable state.
* `Parken.Home.DestinoSemLista` — the condition on a new destination.

## Main results

* `Parken.Home.mapa_step` — what a step does to the map.
* `Parken.Home.exato_iff_destinoSemLista` — the scene stays exact exactly in the runs that
  select a destination only while the list of garages is empty.
* `Parken.Home.not_exato_next_destination` — a run that leaves a marker behind.
-/

namespace Parken

/-- The scene of the map and the fields of the screen that stand for its markers. -/
structure Mapa where
  /-- The number of markers created so far. -/
  marcadores : ℕ
  cena : List MapMarkerLite
  usuario : Option MapMarkerLite
  destino : Option MapMarkerLite
  /-- The markers of the entries of `parkingLocateList`. -/
  lista : List MapMarkerLite

/-- The map of a screen. -/
def Home.mapa (h : Home) : Mapa where
  marcadores := h.marcadores
  cena := h.mapScene
  usuario := h.userLocateMapMarker
  destino := h.destineLocateMapMarker
  lista := h.localizations

namespace Mapa

/-- The markers the fields stand for. -/
def vivos (p : Mapa) : List MapMarkerLite := p.usuario.toList ++ p.destino.toList ++ p.lista

/-- The scene holds the markers the fields stand for, and no others. -/
def Exato (p : Mapa) : Prop := ∀ m, m ∈ p.cena ↔ m ∈ p.vivos

/-- What holds of the markers in every reachable state: they were created, and each field has
its own. -/
structure Novos (p : Mapa) : Prop where
  criados : ∀ m ∈ p.cena ++ p.vivos, m.objeto < p.marcadores
  distintos : p.vivos.Nodup

/-- A new destination: the old marker is replaced, and the list emptied. -/
def novoDestino (p : Mapa) (m : MapMarkerLite) : Mapa where
  marcadores := p.marcadores + 1
  cena := Home.addMapMarker (p.cena.filter (· ∉ p.destino.toList)) m
  usuario := p.usuario
  destino := some m
  lista := []

/-- The changes of the map other than a new destination. -/
inductive Muda (p : Mapa) : Mapa → Prop where
  /-- Nothing on the map changes. -/
  | nada : Muda p p
  /-- The first step is shown: the garages and the destination are taken off. -/
  | primeiroPasso :
      Muda p { p with
        cena := (p.cena.filter (· ∉ p.lista)).filter (· ∉ p.destino.toList)
        destino := none
        lista := [] }
  /-- A new position of the user. -/
  | usuario (m : MapMarkerLite) (hm : m.objeto = p.marcadores) :
      Muda p { p with
        marcadores := p.marcadores + 1
        cena := Home.addMapMarker (p.cena.filter (· ∉ p.usuario.toList)) m
        usuario := some m }
  /-- A garage is found. -/
  | garagem (m : MapMarkerLite) (hm : m.objeto = p.marcadores) :
      Muda p { p with
        marcadores := p.marcadores + 1
        cena := Home.addMarkerList p.cena (p.lista ++ [m])
        lista := p.lista ++ [m] }

end Mapa

namespace Home

/-! ### The scene as a set -/

lemma mem_addMapMarker {scene : List MapMarkerLite} {m m' : MapMarkerLite} :
    m' ∈ addMapMarker scene m ↔ m' ∈ scene ∨ m' = m := by
  unfold addMapMarker
  split_ifs with h
  · exact ⟨.inl, fun h' => h'.elim id fun heq => heq ▸ h⟩
  · simp

lemma mem_addMarkerList {scene l : List MapMarkerLite} {m : MapMarkerLite} :
    m ∈ addMarkerList scene l ↔ m ∈ scene ∨ m ∈ l := by
  unfold addMarkerList
  induction l generalizing scene with
  | nil => simp
  | cons a l ih => rw [List.foldl_cons, ih, mem_addMapMarker, List.mem_cons, or_assoc]

/-- Markers are removed one by one. -/
lemma clearMarkerList_eq_filter (scene l : List MapMarkerLite) :
    clearMarkerList scene l = scene.filter (· ∉ l) := by
  unfold clearMarkerList
  induction l generalizing scene with
  | nil => simp
  | cons a l ih =>
    rw [List.foldl_cons, ih, removeMapMarker, List.filter_filter]
    congr 1
    funext m
    by_cases h : m = a <;> simp [h]

lemma addMarker_eq (scene : List MapMarkerLite) (m : MapMarkerLite)
    (lastMarker : Option MapMarkerLite) :
    addMarker scene m lastMarker = addMapMarker (scene.filter (· ∉ lastMarker.toList)) m := by
  cases lastMarker <;> simp [addMarker, removeMapMarker]

end Home

namespace Mapa

open Home

/-! ### The changes -/

lemma mem_vivos {p : Mapa} {m : MapMarkerLite} :
    m ∈ p.vivos ↔ p.usuario = some m ∨ p.destino = some m ∨ m ∈ p.lista := by
  simp [vivos]

/-- A marker created now is on no field and not on the scene. -/
lemma Novos.fresco {p : Mapa} (hp : p.Novos) {m : MapMarkerLite} (hm : m.objeto = p.marcadores) :
    m ∉ p.cena ++ p.vivos := by
  intro h
  have := hp.criados m h
  omega

/-- A marker that was there, or is created now, is numbered below the next one. -/
lemma Novos.criado {p : Mapa} (hp : p.Novos) {m m' : MapMarkerLite} (hm : m.objeto = p.marcadores)
    (h : m' = m ∨ m' ∈ p.cena ∨ p.usuario = some m' ∨ p.destino = some m' ∨ m' ∈ p.lista) :
    m'.objeto < p.marcadores + 1 := by
  rcases h with rfl | h
  · omega
  · have hmem : m' ∈ p.cena ++ p.vivos := by rwa [List.mem_append, mem_vivos]
    have hlt := hp.criados m' hmem
    omega

/-- The fields of the map have distinct markers. -/
lemma Novos.distinto {p : Mapa} (hp : p.Novos) {m : MapMarkerLite} :
    (p.usuario = some m → p.destino ≠ some m ∧ m ∉ p.lista) ∧
      (p.destino = some m → m ∉ p.lista) := by
  have hd := hp.distintos
  rw [vivos, List.append_assoc, List.nodup_append] at hd
  obtain ⟨-, hd, hu⟩ := hd
  rw [List.nodup_append] at hd
  refine ⟨fun h => ⟨fun h' => ?_, fun h' => ?_⟩, fun h h' => ?_⟩
  · exact hu m (by simp [h]) m (by simp [h']) rfl
  · exact hu m (by simp [h]) m (by simp [h']) rfl
  · exact hd.2.2 m (by simp [h]) m h' rfl

/-- A change other than a new destination keeps the markers new. -/
lemma Muda.novos {p p' : Mapa} (h : Muda p p') (hp : p.Novos) : p'.Novos := by
  have hnodup := hp.distintos
  cases h with
  | nada => exact hp
  | primeiroPasso =>
    refine ⟨fun m hm => hp.criados m ?_, ?_⟩
    · rcases List.mem_append.mp hm with hm | hm
      · have hcena := List.mem_of_mem_filter (List.mem_of_mem_filter hm)
        exact List.mem_append_left _ hcena
      · exact List.mem_append_right _ (mem_vivos.mpr (.inl (by simpa [vivos] using hm)))
    · refine hnodup.sublist ?_
      simp [vivos]
  | usuario m hm =>
    have hfresco := hp.fresco hm
    refine ⟨fun m' hm' => ?_, ?_⟩
    · simp only [List.mem_append, mem_addMapMarker, List.mem_filter, mem_vivos] at hm'
      apply hp.criado hm
      obtain (⟨hc, -⟩ | heq) | heq | hd | hl := hm'
      · exact .inr (.inl hc)
      · exact .inl heq
      · exact .inl (Option.some.inj heq).symm
      · exact .inr (.inr (.inr (.inl hd)))
      · exact .inr (.inr (.inr (.inr hl)))
    · have hsub : List.Sublist (p.destino.toList ++ p.lista) p.vivos := by
        rw [vivos, List.append_assoc]
        exact List.sublist_append_right _ _
      have hm' : m ∉ p.destino.toList ++ p.lista := fun h =>
        hfresco (List.mem_append_right _ (hsub.mem h))
      simpa [vivos, List.nodup_cons] using ⟨by simpa using hm', hnodup.sublist hsub⟩
  | garagem m hm =>
    have hfresco := hp.fresco hm
    refine ⟨fun m' hm' => ?_, ?_⟩
    · simp only [List.mem_append, mem_addMarkerList, List.mem_singleton, mem_vivos] at hm'
      apply hp.criado hm
      obtain (hc | hl | heq) | hu | hd | hl | heq := hm'
      · exact .inr (.inl hc)
      · exact .inr (.inr (.inr (.inr hl)))
      · exact .inl heq
      · exact .inr (.inr (.inl hu))
      · exact .inr (.inr (.inr (.inl hd)))
      · exact .inr (.inr (.inr (.inr hl)))
      · exact .inl heq
    · have hm' : m ∉ p.vivos := fun h => hfresco (List.mem_append_right _ h)
      have hviv : ({ p with
          marcadores := p.marcadores + 1
          cena := addMarkerList p.cena (p.lista ++ [m])
          lista := p.lista ++ [m] } : Mapa).vivos = p.vivos ++ [m] := by simp [vivos]
      rw [hviv]
      exact List.nodup_append.mpr ⟨hnodup, List.nodup_singleton m, fun a ha b hb heq =>
        hm' (by rw [← List.mem_singleton.mp hb, ← heq]; exact ha)⟩

/-- A new destination keeps the markers new. -/
lemma Novos.novoDestino {p : Mapa} (hp : p.Novos) {m : MapMarkerLite}
    (hm : m.objeto = p.marcadores) : (p.novoDestino m).Novos := by
  have hfresco := hp.fresco hm
  refine ⟨fun m' hm' => ?_, ?_⟩
  · simp only [List.mem_append, Mapa.novoDestino, mem_addMapMarker, List.mem_filter,
      mem_vivos] at hm'
    apply hp.criado hm
    obtain (⟨hc, -⟩ | heq) | hu | heq | hl := hm'
    · exact .inr (.inl hc)
    · exact .inl heq
    · exact .inr (.inr (.inl hu))
    · exact .inl (Option.some.inj heq).symm
    · cases hl
  · have hu : m ∉ p.usuario.toList := fun h =>
      hfresco (List.mem_append_right _ (mem_vivos.mpr (.inl (by simpa using h))))
    cases hus : p.usuario with
    | none => simp [vivos, Mapa.novoDestino, hus]
    | some u => simpa [vivos, Mapa.novoDestino, hus, eq_comm] using hu

/-- A change other than a new destination keeps the scene exact.

**Proof sketch.** The first step takes off what the fields stood for, but the user's marker; a
marker of the user replaces the one before; and a garage found puts the whole list on the map. -/
lemma Muda.exato {p p' : Mapa} (h : Muda p p') (hp : p.Novos) (he : p.Exato) : p'.Exato := by
  intro m'
  have hiff := he m'
  rw [mem_vivos] at hiff
  have hdist := hp.distinto (m := m')
  cases h with
  | nada => exact he m'
  | primeiroPasso =>
    simp only [mem_vivos, List.mem_filter, hiff, decide_eq_true_eq, Option.mem_toList]
    constructor
    · rintro ⟨⟨hu | hd | hl, hnl⟩, hnd⟩
      · exact .inl hu
      · exact absurd hd hnd
      · exact absurd hl hnl
    · rintro (hu | hd | hl)
      · exact ⟨⟨.inl hu, (hdist.1 hu).2⟩, (hdist.1 hu).1⟩
      · cases hd
      · cases hl
  | usuario m hm =>
    simp only [mem_vivos, mem_addMapMarker, List.mem_filter, hiff, decide_eq_true_eq,
      Option.mem_toList, Option.some.injEq]
    constructor
    · rintro (⟨hu | hd, hnu⟩ | rfl)
      · exact absurd hu hnu
      · exact .inr hd
      · exact .inl rfl
    · rintro (rfl | hd | hl)
      · exact .inr rfl
      · exact .inl ⟨.inr (.inl hd), fun hu => (hdist.1 hu).1 hd⟩
      · exact .inl ⟨.inr (.inr hl), fun hu => (hdist.1 hu).2 hl⟩
  | garagem m hm =>
    simp only [mem_vivos, mem_addMarkerList, hiff, List.mem_append, List.mem_singleton]
    tauto

/-- The listed garages stay on the map, whatever the change.

**Proof sketch.** Only a new marker of the user takes a marker off that is not listed or about to
be dropped, and it is not the marker of a garage. -/
lemma Muda.listados {p p' : Mapa} (h : Muda p p') (hp : p.Novos)
    (hl : ∀ m ∈ p.lista, m ∈ p.cena) : ∀ m ∈ p'.lista, m ∈ p'.cena := by
  cases h with
  | nada => exact hl
  | primeiroPasso => simp
  | usuario m hm =>
    intro m' hm'
    refine mem_addMapMarker.mpr (.inl (List.mem_filter.mpr ⟨hl m' hm', ?_⟩))
    simpa using fun hu => (hp.distinto.1 hu).2 hm'
  | garagem m hm =>
    intro m' hm'
    exact mem_addMarkerList.mpr (.inr hm')

/-- A new destination keeps the scene exact exactly when no garage is listed.

**Proof sketch.** The marker of a listed garage stays on the scene, while no field stands for it
any more. -/
lemma exato_novoDestino_iff {p : Mapa} (hp : p.Novos) (he : p.Exato) {m : MapMarkerLite}
    (hm : m.objeto = p.marcadores) : (p.novoDestino m).Exato ↔ p.lista = [] := by
  constructor
  · intro h
    by_contra hl
    obtain ⟨a, ha⟩ := List.exists_mem_of_ne_nil _ hl
    have hviva : a ∈ p.vivos := mem_vivos.mpr (.inr (.inr ha))
    have hdist := hp.distinto (m := a)
    -- the marker stays on the scene
    have hcena : a ∈ (p.novoDestino m).cena := by
      refine mem_addMapMarker.mpr (.inl (List.mem_filter.mpr ⟨(he a).mpr hviva, ?_⟩))
      simpa using fun hd => hdist.2 hd ha
    rcases mem_vivos.mp ((h a).mp hcena) with hu | hd | hl'
    · exact (hdist.1 hu).2 ha
    · obtain rfl := Option.some.inj hd
      exact hp.fresco hm (List.mem_append_right _ hviva)
    · cases hl'
  · intro hl m'
    have hiff := he m'
    rw [mem_vivos, hl] at hiff
    have hdist := hp.distinto (m := m')
    simp only [mem_vivos, Mapa.novoDestino, mem_addMapMarker, List.mem_filter, hiff,
      decide_eq_true_eq, Option.mem_toList, Option.some.injEq]
    constructor
    · rintro (⟨hu | hd | hl, hnd⟩ | rfl)
      · exact .inl hu
      · exact absurd hd hnd
      · cases hl
      · exact .inr (.inl rfl)
    · rintro (hu | rfl | hl)
      · exact .inl ⟨.inl hu, (hdist.1 hu).1⟩
      · exact .inr rfl
      · cases hl

end Mapa

namespace Home

variable {env : Ambiente}

/-! ### The functions of the screen on the map -/

/-- The first step takes the garages and the destination off the map, once it is loaded. -/
lemma mapa_goToStep_one {h : Home} (hm : h.mapController = true) :
    (h.goToStep 1).mapa = { h.mapa with
      cena := (h.mapa.cena.filter (· ∉ h.mapa.lista)).filter (· ∉ h.mapa.destino.toList)
      destino := none
      lista := [] } := by
  rw [goToStep_one_eq, hm]
  simp [mapa, localizations, clearMarkerList_eq_filter]

/-- A tap on a suggestion leaves the map. -/
lemma mapa_selectSuggest (h : Home) (t : TableView) :
    ({ h with suggestAddressTable := t } : Home).mapa = h.mapa := rfl

@[simp] lemma mapa_searchAddress (h : Home) (addressName : String) :
    (h.searchAddress addressName).mapa = h.mapa := by
  obtain ⟨_, _, _, _, _, heq⟩ := exists_searchAddress h addressName
  rw [heq]
  rfl

@[simp] lemma mapa_suggestCompletion (h : Home) (resposta : Option (List Suggestion)) :
    (h.suggestCompletion resposta).mapa = h.mapa := by
  cases resposta <;> rfl

@[simp] lemma mapa_setFavoriteSelectedIcon (h : Home) (addressName : String) (b : Bool) :
    (h.setFavoriteSelectedIcon addressName b).mapa = h.mapa := by
  obtain ⟨_, _, _, heq⟩ := exists_setFavoriteSelectedIcon h addressName b
  rw [heq]
  rfl

/-- A new destination replaces the marker of the one before, and empties the list. -/
lemma mapa_showDestination (h : Home) (addressTitle : String) (geoCoordinates : GeoCoordinates) :
    (h.showDestination addressTitle geoCoordinates).mapa =
      h.mapa.novoDestino ⟨h.marcadores, geoCoordinates, "poi"⟩ := by
  rw [showDestination_eq, addMarker_eq]
  rfl

/-- The fetch and the reverse geocodings of a new destination leave the map. -/
lemma mapa_loadParkingLocateNear {h h' : Home} {addressTitle : String}
    {geoCoordinates : GeoCoordinates} {fetch : Option (Fetched Vaga)}
    (hs : h.loadParkingLocateNear env addressTitle geoCoordinates fetch = some h') :
    h'.mapa = h.mapa.novoDestino ⟨h.marcadores, geoCoordinates, "poi"⟩ := by
  rw [← mapa_showDestination h addressTitle geoCoordinates]
  obtain ⟨_, _, rfl⟩ := exists_loadParkingLocateNear hs
  rfl

/-- The completion of a reverse geocoding changes the map by a garage, or not at all. -/
lemma muda_addParkingFound (h : Home) (p : PedidoEndereco) (ok : Bool) :
    Mapa.Muda h.mapa (h.addParkingFound env p ok).mapa := by
  cases ok with
  | false => exact .nada
  | true =>
    by_cases hd : p.distanciaTest ≤ 1000
    · have := Mapa.Muda.garagem (p := h.mapa) ⟨h.marcadores, p.geoCoordinates, "parking_icon"⟩ rfl
      simpa [addParkingFound, hd, mapa, localizations, achado] using this
    · simp only [addParkingFound, hd, ↓reduceIte]
      exact .nada

/-! ### One step -/

/-- The condition on a step: a destination is selected only while no garage is listed. -/
def DestinoSemLista (h : Home) (e : Event) : Prop := h.NovoDestino e → h.parkingLocateList = []

instance (h : Home) (e : Event) : Decidable (h.DestinoSemLista e) :=
  inferInstanceAs (Decidable (_ → _))

/-- A step selects a new destination, or changes the map in one of the other ways. -/
theorem mapa_step {h h' : Home} {e : Event} (hm : h.mapController = true)
    (hs : step env h e = some h') :
    (h.NovoDestino e ∧ ∃ m, m.objeto = h.mapa.marcadores ∧ h'.mapa = h.mapa.novoDestino m) ∨
      (¬ h.NovoDestino e ∧ Mapa.Muda h.mapa h'.mapa) := by
  cases passo_of_step hs with
  | ignora _ _ _ hrow =>
    refine .inr ⟨?_, .nada⟩
    cases e with
    | suggestSelect row fetch =>
      rintro ⟨hlt, -⟩
      have hfora := hrow row fetch rfl
      omega
    | _ => exact id
  | textDidChange searchText => exact .inr ⟨id, by simpa using .nada⟩
  | suggestCallback resposta hq => exact .inr ⟨id, by simpa using .nada⟩
  | semCoordenadas fetch hrow ha hc =>
    refine .inr ⟨?_, .nada⟩
    simp [NovoDestino, ha, hc]
  | @destino row address locValue fetch h' hrow ha hc hs =>
    have hmapa := mapa_loadParkingLocateNear hs
    rw [mapa_selectSuggest] at hmapa
    exact .inl ⟨by simp [NovoDestino, hrow, ha, hc], _, rfl, hmapa⟩
  | favoriteSelect hrow ha => exact .inr ⟨id, by rw [mapa_searchAddress]; exact .nada⟩
  | parkingSelect hrow hp => exact .inr ⟨id, .nada⟩
  | @geocodeCallback k p ok hp =>
    have hmuda := @muda_addParkingFound env { h with enderecos := h.enderecos.eraseIdx k } p ok
    exact .inr ⟨id, hmuda⟩
  | maximiza => exact .inr ⟨id, .nada⟩
  | minimiza he => exact .inr ⟨by rcases he with rfl | rfl <;> exact id, .nada⟩
  | toggleFavorite => exact .inr ⟨id, by simpa using .nada⟩
  | backToFirstStep =>
    rw [mapa_goToStep_one hm]
    exact .inr ⟨id, .primeiroPasso⟩
  | backToSecondStep => exact .inr ⟨id, .nada⟩
  | requestPark ht hr =>
    rw [mapa_goToStep_one hm]
    exact .inr ⟨id, .primeiroPasso⟩
  | userLocate position =>
    refine .inr ⟨id, ?_⟩
    have := Mapa.Muda.usuario (p := h.mapa) ⟨h.marcadores, position, "location.north.fill"⟩ rfl
    simpa [setUserLocateMarker, mapa, localizations, addMarker_eq] using this

/-! ### Whole runs -/

/-- What holds of the screen in every reachable state, exact scene or not. -/
def MapaNovo (h : Home) : Prop := h.mapController = true ∧ h.mapa.Novos

lemma mapaNovo_viewDidLoad : MapaNovo viewDidLoad :=
  ⟨rfl, by decide, by decide⟩

/-- Every step keeps the markers new. -/
lemma MapaNovo.step {h h' : Home} {e : Event} (hh : MapaNovo h) (hs : h.step env e = some h') :
    MapaNovo h' := by
  refine ⟨mapController_step hh.1 hs, ?_⟩
  obtain ⟨-, m, hm, hmapa⟩ | ⟨-, hmuda⟩ := mapa_step hh.1 hs
  · exact hmapa ▸ hh.2.novoDestino hm
  · exact hmuda.novos hh.2

/-- In every reachable state the garages listed are on the map. -/
theorem listados_of_run {h : Home} {es : List Event}
    (hr : Runs.run (Home.step env) es viewDidLoad = some h) :
    ∀ m ∈ h.localizations, m ∈ h.mapScene := by
  have hstep : ∀ g e g', (MapaNovo g ∧ ∀ m ∈ g.mapa.lista, m ∈ g.mapa.cena) →
      g.step env e = some g' → MapaNovo g' ∧ ∀ m ∈ g'.mapa.lista, m ∈ g'.mapa.cena := by
    rintro g e g' ⟨hg, hl⟩ hs
    refine ⟨hg.step hs, ?_⟩
    obtain ⟨-, m, -, hmapa⟩ | ⟨-, hmuda⟩ := mapa_step hg.1 hs
    · rw [hmapa]
      simp [Mapa.novoDestino]
    · exact hmuda.listados hg.2 hl
  have hinv := Runs.Reachable.invariant hstep ⟨mapaNovo_viewDidLoad, by decide⟩ ⟨es, hr⟩
  exact hinv.2

/-- **The scene is exact exactly while destinations are selected over an empty list.** In a run
from launch the scene holds the marker of the user, the marker of the destination and the
markers of the listed garages, and no others, if and only if each destination is selected while
no garage is listed.

**Proof sketch.** The markers stay new in every run. Next to that, a new destination keeps the
scene exact exactly when it meets the condition, and any other event keeps it anyway. -/
theorem exato_iff_destinoSemLista (env : Ambiente) (es : List Event) :
    Runs.Throughout (step env) (fun h => h.mapa.Exato) es viewDidLoad ↔
      Runs.Meets (step env) DestinoSemLista es viewDidLoad := by
  refine Runs.throughout_iff_meets (J := MapaNovo) (fun h e h' hh hs => hh.step hs) ?_
    mapaNovo_viewDidLoad (fun m => by simp [viewDidLoad, mapa, Mapa.vivos, localizations,
      storyboard, loadFavoriteAddress, goToStep, clearSearch, minimizeDealModal])
  intro h e h' hh he hs
  obtain ⟨hnovo, m, hm, hmapa⟩ | ⟨hnovo, hmuda⟩ := mapa_step hh.1 hs
  · have hcond : DestinoSemLista h e ↔ h.mapa.lista = [] := by
      simp [DestinoSemLista, hnovo, mapa, localizations]
    rw [hmapa, hcond]
    exact Mapa.exato_novoDestino_iff hh.2 he hm
  · exact iff_of_true (hmuda.exato hh.2 he) fun h => absurd h hnovo

/-- A garage arrives after the way back to the first step, and the next destination leaves its
marker on the map. -/
theorem not_exato_next_destination :
    ¬ ∀ (env : Ambiente) (es : List Event),
      Runs.Throughout (step env) (fun h => h.mapa.Exato) es viewDidLoad := by
  intro h
  have hconta := (h ambiente
    (buscaPerto ++ [.backToFirstStep, .geocodeCallback 0 true] ++ buscaPerto)).imp
    (Q := fun h => ∀ m ∈ h.mapa.cena, m ∈ h.mapa.vivos) fun _ he m hm => (he m).mp hm
  exact absurd hconta (by decide)

end Home

end Parken
