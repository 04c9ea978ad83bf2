import Mathlib.Data.List.Perm.Basic
import Parken.Home.Model

set_option relaxedAutoImplicit false
set_option autoImplicit false

/-!
# The list of garages found

The entries of `parkingLocateList` arrive one by one, each from a reverse geocoding that
captured the distance to the destination of its own search and no token of it. What the list
holds in any run depends on six fields of the screen (`Painel`) and on six kinds of change to
them; the one that matters is the delivery of an address.

## Main definitions

* `Parken.Painel` — the fields the list depends on.
* `Parken.Painel.Muda` — the changes of the panel other than the delivery of a near garage.
* `Parken.Painel.Atual` — the list belongs to the most recent search.
* `Parken.Painel.Coerente` — what holds of the requests in flight in every reachable state.
* `Parken.Home.EntregaAtual` — the condition on a delivery.

## Main results

* `Parken.Home.painel_step` — what a step does to the panel.
* `Parken.Home.atual_iff_entregaAtual` — the list stays current exactly in the runs whose
  deliveries of near garages belong to the most recent search and find the first step hidden.
-/

namespace Parken

/-- The fields of the screen the list of garages depends on. -/
structure Painel where
  firstStepHidden : Bool
  buscas : ℕ
  loc : GeoCoordinates
  vagas : List (ObjectID × Vaga)
  enderecos : List PedidoEndereco
  lista : List Achado

/-- The panel of a screen. -/
def Home.painel (h : Home) : Painel where
  firstStepHidden := h.firstStepHidden
  buscas := h.buscas
  loc := h.loc
  vagas := h.vagas
  enderecos := h.enderecos
  lista := h.parkingLocateList

namespace Painel

variable {env : Ambiente}

/-- `p` was issued for a Vaga of `vagas` by search number `busca` with destination `loc`. -/
structure Emitido (env : Ambiente) (busca : ℕ) (loc : GeoCoordinates) (p : PedidoEndereco) :
    Prop where
  busca : p.busca = busca
  distancia : ∃ posicao, p.vaga.2.posicao = some posicao ∧
    p.distanciaTest = env.distance loc posicao

/-- The changes of the panel other than the delivery of a near garage. -/
inductive Muda (env : Ambiente) (p : Painel) : Painel → Prop where
  /-- Nothing the list depends on changes. -/
  | nada : Muda env p p
  /-- The first step is shown and the list emptied. -/
  | primeiroPasso : Muda env p { p with firstStepHidden := false, lista := [] }
  /-- Another step is shown. -/
  | outroPasso : Muda env p { p with firstStepHidden := true }
  /-- A delivery of an error or of a garage too far away. -/
  | descarta (k : ℕ) : Muda env p { p with enderecos := p.enderecos.eraseIdx k }
  /-- A new search: one reverse geocoding for each Vaga. -/
  | busca (loc : GeoCoordinates) (vagas : List (ObjectID × Vaga))
      (pedidos : List PedidoEndereco) (nodup : (vagas.map Prod.fst).Nodup)
      (umPorVaga : pedidos.map PedidoEndereco.vaga = vagas)
      (emitidos : ∀ q ∈ pedidos, Emitido env (p.buscas + 1) loc q) :
      Muda env p {
        firstStepHidden := true
        buscas := p.buscas + 1
        loc := loc
        vagas := vagas
        enderecos := p.enderecos ++ pedidos
        lista := [] }

/-- The delivery of the address of `q`, the `k`-th request in flight, as entry `a`. -/
def entrega (p : Painel) (k : ℕ) (a : Achado) : Painel :=
  { p with enderecos := p.enderecos.eraseIdx k, lista := p.lista ++ [a] }

/-- Entry `a` belongs to the most recent search: its distance, at most 1000 metres, is that of
its Vaga to the destination selected now. -/
structure EntradaAtual (env : Ambiente) (p : Painel) (a : Achado) : Prop where
  busca : a.busca = p.buscas
  distancia : ∃ posicao, a.vaga.2.posicao = some posicao ∧ env.distance p.loc posicao ≤ 1000 ∧
    a.distance = s!"{env.distance p.loc posicao} M"

/-- The list is current: it is empty while the first step is shown, its entries belong to the
most recent search, and no two are for one Vaga. -/
structure Atual (env : Ambiente) (p : Painel) : Prop where
  vazia : p.firstStepHidden = false → p.lista = []
  entradas : ∀ a ∈ p.lista, EntradaAtual env p a
  umaPorVaga : (p.lista.map fun a => a.vaga.1).Nodup

/-- The Vagas with an entry or a request in flight of search number `busca`. -/
def ocupadas (p : Painel) (busca : ℕ) : List ObjectID :=
  ((p.lista.filter (·.busca = busca)).map fun a => a.vaga.1) ++
    (p.enderecos.filter (·.busca = busca)).map fun q => q.vaga.1

/-- What holds of the panel in every reachable state. -/
structure Coerente (env : Ambiente) (p : Painel) : Prop where
  vagas : (p.vagas.map Prod.fst).Nodup
  antigos : ∀ q ∈ p.enderecos, q.busca ≤ p.buscas
  emitidos : ∀ q ∈ p.enderecos, q.busca = p.buscas → Emitido env p.buscas p.loc q
  umaPorVaga : (p.ocupadas p.buscas).Nodup

/-! ### The changes -/

/-- A delivery moves a Vaga from the requests in flight to the list. -/
lemma ocupadas_entrega_perm {p : Painel} {k : ℕ} {q : PedidoEndereco} {a : Achado}
    (hq : p.enderecos[k]? = some q) (hb : a.busca = q.busca) (hv : a.vaga = q.vaga) (b : ℕ) :
    ((p.entrega k a).ocupadas b).Perm (p.ocupadas b) := by
  obtain ⟨hk, rfl⟩ := List.getElem?_eq_some_iff.mp hq
  have hperm := ((List.getElem_cons_eraseIdx_perm hk).filter (·.busca = b)).map fun q => q.vaga.1
  refine List.Perm.trans ?_ (hperm.append_left _)
  by_cases hab : p.enderecos[k].busca = b
  · simp [ocupadas, entrega, hb, hv, hab]
  · simp [ocupadas, entrega, hb, hab]

/-- A change other than a delivery keeps the coherence.

**Proof sketch.** Only a new search adds requests: its own carry the new number, the ones
before a smaller one, so the Vagas occupied by the new search are those of its fetch. -/
lemma Muda.coerente {p p' : Painel} (h : Muda env p p') (hp : Coerente env p) :
    Coerente env p' := by
  cases h with
  | nada => exact hp
  | primeiroPasso =>
    exact { hp with umaPorVaga := hp.umaPorVaga.sublist (List.sublist_append_right _ _) }
  | outroPasso => exact { hp with }
  | descarta k =>
    have hsub := List.eraseIdx_sublist p.enderecos k
    exact {
      vagas := hp.vagas
      antigos := fun q hq => hp.antigos q (hsub.mem hq)
      emitidos := fun q hq => hp.emitidos q (hsub.mem hq)
      umaPorVaga := hp.umaPorVaga.sublist (((hsub.filter _).map _).append_left _) }
  | busca loc vagas pedidos nodup umPorVaga emitidos =>
    refine ⟨nodup, ?_, ?_, ?_⟩
    · intro q hq
      rcases List.mem_append.mp hq with hq | hq
      · show q.busca ≤ p.buscas + 1
        have hle := hp.antigos q hq
        omega
      · exact (emitidos q hq).busca.le
    · intro q hq hb
      rcases List.mem_append.mp hq with hq | hq
      · have hle := hp.antigos q hq
        have hnovo : q.busca = p.buscas + 1 := hb
        omega
      · exact emitidos q hq
    · have hold : p.enderecos.filter (·.busca = p.buscas + 1) = [] := by
        rw [List.filter_eq_nil_iff]
        intro q hq
        have := hp.antigos q hq
        simp only [decide_eq_true_eq]
        omega
      have hnew : pedidos.filter (·.busca = p.buscas + 1) = pedidos := by
        rw [List.filter_eq_self]
        intro q hq
        simpa using (emitidos q hq).busca
      have hmap : pedidos.map (fun q => q.vaga.1) = vagas.map Prod.fst := by
        rw [← umPorVaga, List.map_map]
        rfl
      simpa [ocupadas, hold, hnew, hmap] using nodup

/-- A change other than a delivery keeps the list current. -/
lemma Muda.atual {p p' : Painel} (h : Muda env p p') (hp : Atual env p) : Atual env p' := by
  cases h with
  | nada => exact hp
  | primeiroPasso => exact ⟨fun _ => rfl, by simp, by simp⟩
  | outroPasso => exact ⟨by simp, fun a ha => ⟨(hp.entradas a ha).1, (hp.entradas a ha).2⟩,
      hp.umaPorVaga⟩
  | descarta k => exact ⟨hp.vazia, fun a ha => ⟨(hp.entradas a ha).1, (hp.entradas a ha).2⟩,
      hp.umaPorVaga⟩
  | busca => exact ⟨by simp, by simp, by simp⟩

/-- A delivery keeps the coherence. -/
lemma Coerente.entrega {p : Painel} {k : ℕ} {q : PedidoEndereco} {a : Achado}
    (hp : Coerente env p) (hq : p.enderecos[k]? = some q) (hb : a.busca = q.busca)
    (hv : a.vaga = q.vaga) : Coerente env (p.entrega k a) where
  vagas := hp.vagas
  antigos q hq := hp.antigos q (List.mem_of_mem_eraseIdx hq)
  emitidos q hq := hp.emitidos q (List.mem_of_mem_eraseIdx hq)
  umaPorVaga := (ocupadas_entrega_perm hq hb hv p.buscas).nodup_iff.mpr hp.umaPorVaga

/-- A delivery keeps the list current exactly when it belongs to the most recent search and
the first step is hidden.

**Proof sketch.** If so, the request carries the distance to the destination selected now, and
its Vaga has no entry yet, since the Vagas of the entries and of the requests in flight are
distinct. Conversely the new entry makes the list non-empty and has the search number of its
request. -/
lemma atual_entrega_iff {p : Painel} {k : ℕ} {q : PedidoEndereco} {a : Achado}
    (hp : Coerente env p) (hatual : Atual env p) (hq : p.enderecos[k]? = some q)
    (hb : a.busca = q.busca) (hv : a.vaga = q.vaga) (hd : a.distance = s!"{q.distanciaTest} M")
    (hperto : q.distanciaTest ≤ 1000) :
    Atual env (p.entrega k a) ↔ q.busca = p.buscas ∧ p.firstStepHidden = true := by
  constructor
  · intro h
    have ha : a ∈ (p.entrega k a).lista := by simp [entrega]
    refine ⟨hb ▸ (h.entradas a ha).busca, ?_⟩
    by_contra hstep
    have := h.vazia (by simpa [entrega] using hstep)
    simp [this] at ha
  · rintro ⟨hbusca, hstep⟩
    have hem := hp.emitidos q (List.mem_of_getElem? hq) hbusca
    obtain ⟨posicao, hpos, hdist⟩ := hem.distancia
    refine ⟨by simp [entrega, hstep], ?_, ?_⟩
    · intro b hbm
      rcases List.mem_append.mp hbm with hbm | hbm
      · exact ⟨(hatual.entradas b hbm).1, (hatual.entradas b hbm).2⟩
      · obtain rfl := List.mem_singleton.mp hbm
        exact ⟨hb.trans hbusca, posicao, hv ▸ hpos, hdist ▸ hperto, hdist ▸ hd⟩
    · have hn := (hp.entrega hq hb hv).umaPorVaga
      have hall : (p.entrega k a).lista.filter (·.busca = p.buscas) = (p.entrega k a).lista := by
        rw [List.filter_eq_self]
        intro b hbm
        rcases List.mem_append.mp hbm with hbm | hbm
        · simpa using (hatual.entradas b hbm).busca
        · obtain rfl := List.mem_singleton.mp hbm
          simpa using hb.trans hbusca
      have := hn.sublist (List.sublist_append_left _ _)
      rwa [show (p.entrega k a).buscas = p.buscas from rfl, hall] at this

end Painel

namespace Home

variable {env : Ambiente}

/-! ### The functions of the screen on the panel -/

@[simp] lemma mapController_clearSearch (h : Home) :
    h.clearSearch.mapController = h.mapController := by
  cases hm : h.mapController <;> cases hd : h.destineLocateMapMarker <;>
    simp [clearSearch, hm, hd]

@[simp] lemma mapController_goToStep (h : Home) (n : ℕ) :
    (h.goToStep n).mapController = h.mapController := by
  unfold goToStep
  split <;> simp [minimizeDealModal]

/-- The first step empties the list, once the map is loaded. -/
lemma painel_goToStep_one {h : Home} (hm : h.mapController = true) :
    (h.goToStep 1).painel = { h.painel with firstStepHidden := false, lista := [] } := by
  rw [goToStep_one_eq, hm]
  rfl

@[simp] lemma painel_searchAddress (h : Home) (addressName : String) :
    (h.searchAddress addressName).painel = h.painel := by
  obtain ⟨_, _, _, _, _, heq⟩ := exists_searchAddress h addressName
  rw [heq]
  rfl

@[simp] lemma mapController_searchAddress (h : Home) (addressName : String) :
    (h.searchAddress addressName).mapController = h.mapController := by
  obtain ⟨_, _, _, _, _, heq⟩ := exists_searchAddress h addressName
  rw [heq]

@[simp] lemma painel_suggestCompletion (h : Home) (resposta : Option (List Suggestion)) :
    (h.suggestCompletion resposta).painel = h.painel := by
  cases resposta <;> rfl

@[simp] lemma mapController_suggestCompletion (h : Home) (resposta : Option (List Suggestion)) :
    (h.suggestCompletion resposta).mapController = h.mapController := by
  cases resposta <;> rfl

@[simp] lemma painel_setFavoriteSelectedIcon (h : Home) (addressName : String) (b : Bool) :
    (h.setFavoriteSelectedIcon addressName b).painel = h.painel := by
  obtain ⟨_, _, _, heq⟩ := exists_setFavoriteSelectedIcon h addressName b
  rw [heq]
  rfl

@[simp] lemma mapController_setFavoriteSelectedIcon (h : Home) (addressName : String) (b : Bool) :
    (h.setFavoriteSelectedIcon addressName b).mapController = h.mapController := by
  obtain ⟨_, _, _, heq⟩ := exists_setFavoriteSelectedIcon h addressName b
  rw [heq]

/-- A new destination: the next search number, the list empty, the second step shown. -/
@[simp] lemma painel_showDestination (h : Home) (addressTitle : String)
    (geoCoordinates : GeoCoordinates) :
    (h.showDestination addressTitle geoCoordinates).painel =
      { h.painel with
        firstStepHidden := true
        buscas := h.buscas + 1
        loc := geoCoordinates
        lista := [] } := by
  rw [showDestination_eq]
  rfl

@[simp] lemma mapController_showDestination (h : Home) (addressTitle : String)
    (geoCoordinates : GeoCoordinates) :
    (h.showDestination addressTitle geoCoordinates).mapController = h.mapController := by
  rw [showDestination_eq]

/-- A reverse geocoding is issued for the record it captured, by the current search and with
the distance to the current destination. -/
lemma pedidoEndereco_eq_some {h : Home} {vaga : ObjectID × Vaga} {p : PedidoEndereco}
    (hp : h.pedidoEndereco env vaga = some p) :
    p.vaga = vaga ∧ Painel.Emitido env h.buscas h.loc p := by
  unfold pedidoEndereco at hp
  split at hp
  next latitude longitude hlat hlon =>
    obtain rfl := Option.some.inj hp
    exact ⟨rfl, rfl, ⟨latitude, longitude⟩, by simp [Vaga.posicao, hlat, hlon], rfl⟩
  next => cases hp

/-- A search issues one reverse geocoding for each record, in their order. -/
lemma mapM_pedidoEndereco {h : Home} {vagas : List (ObjectID × Vaga)}
    {pedidos : List PedidoEndereco} (hp : vagas.mapM (h.pedidoEndereco env) = some pedidos) :
    pedidos.map PedidoEndereco.vaga = vagas ∧
      ∀ q ∈ pedidos, h.pedidoEndereco env q.vaga = some q := by
  induction vagas generalizing pedidos with
  | nil =>
    obtain rfl : pedidos = [] := by simpa using hp.symm
    simp
  | cons vaga vagas ih =>
    rw [List.mapM_cons] at hp
    obtain ⟨q, hq, hp⟩ := Option.bind_eq_some_iff.mp hp
    obtain ⟨resto, hresto, hp⟩ := Option.bind_eq_some_iff.mp hp
    obtain rfl : q :: resto = pedidos := Option.some.inj hp
    obtain ⟨hmap, hem⟩ := ih hresto
    obtain ⟨rfl, -⟩ := pedidoEndereco_eq_some hq
    exact ⟨by simp [hmap], List.forall_mem_cons.mpr ⟨hq, hem⟩⟩

/-- A selected destination changes the panel by a new search. -/
lemma muda_loadParkingLocateNear {h h' : Home} {addressTitle : String}
    {geoCoordinates : GeoCoordinates} {fetch : Option (Fetched Vaga)}
    (hv : (h.vagas.map Prod.fst).Nodup)
    (hs : h.loadParkingLocateNear env addressTitle geoCoordinates fetch = some h') :
    Painel.Muda env h.painel h'.painel := by
  set g := h.showDestination addressTitle geoCoordinates with hg
  have hpainel : g.painel = _ := painel_showDestination h addressTitle geoCoordinates
  obtain ⟨vagas, hn, hs⟩ : ∃ vagas : List (ObjectID × Vaga), (vagas.map Prod.fst).Nodup ∧
      (vagas.mapM ({ g with vagas := vagas }.pedidoEndereco env)).map (fun pedidos =>
        { g with vagas := vagas, enderecos := g.enderecos ++ pedidos }) = some h' := by
    cases fetch with
    | none =>
      have hgv : g.vagas = h.vagas := congrArg Painel.vagas hpainel
      exact ⟨g.vagas, hgv ▸ hv, hs⟩
    | some vagas => exact ⟨vagas.rows, vagas.nodup, hs⟩
  obtain ⟨pedidos, hpedidos, rfl⟩ := Option.map_eq_some_iff.mp hs
  obtain ⟨hum, hem⟩ := mapM_pedidoEndereco hpedidos
  have hbuscas : g.buscas = h.buscas + 1 := congrArg Painel.buscas hpainel
  have hloc : g.loc = geoCoordinates := congrArg Painel.loc hpainel
  have hnovo := Painel.Muda.busca (p := h.painel) geoCoordinates vagas pedidos hn hum
    fun q hq => hbuscas ▸ hloc ▸ (pedidoEndereco_eq_some (hem q hq)).2
  have hfinal : ({ g with vagas := vagas, enderecos := g.enderecos ++ pedidos } : Home).painel =
      { g.painel with vagas := vagas, enderecos := g.painel.enderecos ++ pedidos } := rfl
  rw [hfinal, hpainel]
  exact hnovo

/-! ### One step -/

/-- The map stays loaded. -/
lemma mapController_step {h h' : Home} {e : Event} (hm : h.mapController = true)
    (hs : step env h e = some h') : h'.mapController = true := by
  cases passo_of_step hs with
  | destino fetch hrow ha hc hs =>
    obtain ⟨_, _, rfl⟩ := exists_loadParkingLocateNear hs
    simpa using hm
  | @geocodeCallback k p ok hp =>
    obtain ⟨_, _, _, _, heq⟩ :=
      exists_addParkingFound env { h with enderecos := h.enderecos.eraseIdx k } p ok
    rw [heq]
    exact hm
  | maximiza | minimiza => exact hm
  | _ => simpa [setUserLocateMarker, loadParkChoosed] using hm

/-- The condition on a delivery: if it adds an entry, its search is the most recent one and the
first step is hidden. -/
def EntregaAtual (h : Home) : Event → Prop
  | .geocodeCallback k true =>
    ∀ q ∈ h.enderecos[k]?, q.distanciaTest ≤ 1000 →
      q.busca = h.buscas ∧ h.firstStepHidden = true
  | _ => True

/-- A step delivers a near garage, or changes the panel in one of the other ways.

**Proof sketch.** One case for each event; the searches, the steps and the deliveries are the
only events that touch the panel. -/
theorem painel_step {h h' : Home} {e : Event} (hm : h.mapController = true)
    (hv : (h.vagas.map Prod.fst).Nodup) (hs : step env h e = some h') :
    h'.mapController = true ∧
      ((∃ k q m, e = .geocodeCallback k true ∧ h.enderecos[k]? = some q ∧
        q.distanciaTest ≤ 1000 ∧ h'.painel = h.painel.entrega k (achado env q m)) ∨
      (EntregaAtual h e ∧ Painel.Muda env h.painel h'.painel)) := by
  refine ⟨mapController_step hm hs, ?_⟩
  cases passo_of_step hs with
  | @ignora e hk =>
    refine .inr ⟨?_, .nada⟩
    cases e with
    | geocodeCallback k ok => cases ok <;> simp [EntregaAtual, hk k _ rfl]
    | _ => trivial
  | textDidChange searchText =>
    rw [painel_searchAddress]
    exact .inr ⟨trivial, .nada⟩
  | suggestCallback resposta hq =>
    rw [painel_suggestCompletion]
    exact .inr ⟨trivial, .nada⟩
  | semCoordenadas fetch hrow ha hc => exact .inr ⟨trivial, .nada⟩
  | @destino row address locValue fetch h' hrow ha hc hs =>
    exact .inr ⟨trivial, muda_loadParkingLocateNear (h :=
      { h with suggestAddressTable := h.suggestAddressTable.select row }) hv hs⟩
  | favoriteSelect hrow ha =>
    rw [painel_searchAddress]
    exact .inr ⟨trivial, .nada⟩
  | parkingSelect hrow hp => exact .inr ⟨trivial, .outroPasso⟩
  | @geocodeCallback k q ok hq =>
    cases ok with
    | false => exact .inr ⟨trivial, .descarta k⟩
    | true =>
      by_cases hd : q.distanciaTest ≤ 1000
      · refine .inl ⟨k, q, ⟨h.marcadores, q.geoCoordinates, "parking_icon"⟩, rfl, hq, hd, ?_⟩
        simp only [addParkingFound, hd, ↓reduceIte]
        rfl
      · refine .inr ⟨by simp [EntregaAtual, hq, hd], ?_⟩
        simp only [addParkingFound, hd, ↓reduceIte]
        exact .descarta k
  | maximiza => exact .inr ⟨trivial, .nada⟩
  | minimiza he =>
    refine .inr ⟨?_, .nada⟩
    rcases he with rfl | rfl <;> trivial
  | toggleFavorite =>
    rw [painel_setFavoriteSelectedIcon]
    exact .inr ⟨trivial, .nada⟩
  | backToFirstStep =>
    rw [painel_goToStep_one hm]
    exact .inr ⟨trivial, .primeiroPasso⟩
  | backToSecondStep => exact .inr ⟨trivial, .outroPasso⟩
  | requestPark ht hr =>
    rw [painel_goToStep_one hm]
    exact .inr ⟨trivial, .primeiroPasso⟩
  | userLocate position => exact .inr ⟨trivial, .nada⟩

/-! ### Whole runs -/

/-- What holds of the screen in every reachable state, current list or not. -/
def Coerente (env : Ambiente) (h : Home) : Prop :=
  h.mapController = true ∧ Painel.Coerente env h.painel

/-- At launch no search was made. -/
lemma painel_viewDidLoad :
    viewDidLoad.painel = ⟨false, 0, ⟨.finite 0, .finite 0⟩, [], [], []⟩ := rfl

lemma coerente_viewDidLoad : Coerente env viewDidLoad := by
  refine ⟨rfl, ?_⟩
  rw [painel_viewDidLoad]
  exact ⟨by simp, by simp, by simp, by simp [Painel.ocupadas]⟩

/-- Every step keeps the coherence. -/
lemma Coerente.step {h h' : Home} {e : Event} (hh : Coerente env h)
    (hs : h.step env e = some h') : Coerente env h' := by
  obtain ⟨hm, ⟨k, q, m, -, hq, -, hp⟩ | ⟨-, hmuda⟩⟩ := painel_step hh.1 hh.2.vagas hs
  · exact ⟨hm, hp ▸ hh.2.entrega hq rfl rfl⟩
  · exact ⟨hm, hmuda.coerente hh.2⟩

/-- **The list of garages is current exactly while the deliveries are.** In a run from launch
the list is empty whenever the first step is shown, and holds only entries of the most recent
search, with their distance to the destination selected now and at most one for each Vaga, if
and only if every address of a near garage arrives while its search is the most recent one and
the first step is hidden.

**Proof sketch.** `Coerente` is an invariant of every run. Next to it, a delivery keeps the
list current exactly when it meets the condition, and any other event keeps it anyway. -/
theorem atual_iff_entregaAtual (env : Ambiente) (es : List Event) :
    Runs.Throughout (step env) (fun h => Painel.Atual env h.painel) es viewDidLoad ↔
      Runs.Meets (step env) EntregaAtual es viewDidLoad := by
  refine Runs.throughout_iff_meets (J := Coerente env) (fun h e h' hh hs => hh.step hs) ?_
    coerente_viewDidLoad ⟨fun _ => rfl, by simp [painel_viewDidLoad],
      by simp [painel_viewDidLoad]⟩
  intro h e h' hh hatual hs
  obtain ⟨-, ⟨k, q, m, rfl, hq, hperto, hp⟩ | ⟨he, hmuda⟩⟩ := painel_step hh.1 hh.2.vagas hs
  · have hcond : EntregaAtual h (.geocodeCallback k true) ↔
        q.busca = h.painel.buscas ∧ h.painel.firstStepHidden = true := by
      simp [EntregaAtual, hq, hperto, painel]
    rw [hp, hcond]
    exact Painel.atual_entrega_iff hh.2 hatual hq rfl rfl rfl hperto
  · exact iff_of_true (hmuda.atual hatual) he

/-- A garage with a position. -/
def vagaComPosicao : Vaga where
  id := some "Rua A-1-01000-000-Garagem"
  titulo := some "Garagem"
  descricao := some "Coberta"
  valor := some (.finite 10)
  cep := some "01000-000"
  rua := some "Rua A"
  numero := some "1"
  complemento := some "-"
  bairro := some "Centro"
  cidade := some "São Paulo"
  uf := some "SP"
  largura := some "2"
  comprimento := some "4"
  altura := some "2"
  latitude := some (.finite (-23))
  longitude := some (.finite (-46))
  frequencia := none

/-- The driver searches for an address next to `vagaComPosicao`. -/
def buscaPerto : List Event :=
  [.textDidChange "Rua A", .suggestCallback 0 (some [⟨"Rua A", vagaComPosicao.posicao⟩]),
    .suggestSelect 0 (some ⟨[(0, vagaComPosicao)], by decide⟩)]

/-- Back in the first step before the address of the garage arrives, the driver has a garage in
the list. -/
theorem not_atual_late_delivery :
    ¬ ∀ (env : Ambiente) (es : List Event),
      Runs.Throughout (step env) (fun h => Painel.Atual env h.painel) es viewDidLoad := by
  intro h
  have hvazia := (h ambiente (buscaPerto ++ [.backToFirstStep, .geocodeCallback 0 true])).imp
    (Q := fun h => h.firstStepHidden = false → h.parkingLocateList = []) fun _ ha => ha.vazia
  exact absurd hvazia (by decide)

end Home

end Parken
