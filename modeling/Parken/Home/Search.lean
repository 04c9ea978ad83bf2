import Parken.Home.Map

set_option relaxedAutoImplicit false
set_option autoImplicit false

/-!
# One search for garages

A search issues one reverse geocoding for each Vaga of its fetch, and the list is assembled from
their answers, one at a time and in any order. What becomes of the list and of the requests in
flight in a step is one of three things (`Lista`): neither changes, the list starts over, or a
request is answered.

## Main definitions

* `Parken.Retrata` — an entry shows a Vaga and its distance to a destination.
* `Parken.Home.Reinicia` — the events that start the list over.
* `Parken.Home.EmBusca` — what holds while the answers of one search come in.

## Main results

* `Parken.Home.lista_step` — what a step does to the list and the requests in flight.
* `Parken.Home.retrata_of_run` — in every reachable state each entry shows the Vaga it was built
  from.
* `Parken.Home.isSome_loadParkingLocateNear_iff` — a search traps exactly where a Vaga of its
  fetch has no position.
* `Parken.Home.completa_of_run` — once every request of an undisturbed search is answered, the
  list has one entry for each near Vaga whose request succeeded, and no others.
-/

namespace Parken

/-- The Vaga is at most 1000 metres from the destination. -/
def Ambiente.Perto (env : Ambiente) (loc : GeoCoordinates) (v : Vaga) : Prop :=
  ∃ posicao ∈ v.posicao, env.distance loc posicao ≤ 1000

instance (env : Ambiente) (loc : GeoCoordinates) (v : Vaga) : Decidable (env.Perto loc v) :=
  inferInstanceAs (Decidable (∃ posicao ∈ v.posicao, env.distance loc posicao ≤ 1000))

/-- The entry shows the Vaga `v`, with its distance to the destination and a marker at its
position. -/
structure Retrata (env : Ambiente) (loc : GeoCoordinates) (v : Vaga) (a : ParkingLocateModel) :
    Prop where
  address :
    let rua := v.rua.getD "Rua"
    let numero := v.numero.getD "Numero"
    let bairro := v.bairro.getD "Bairro"
    a.address = s!"{rua}, {numero}, {bairro}"
  ammount :
    let valor := v.valor.getD (.finite (1222 / 100))
    a.ammount = s!"R$ {env.description valor}"
  title : a.title = v.titulo.getD "Titulo"
  description : a.description = v.descricao.getD "Descricao"
  id : a.id = v.chaveHome
  localization : v.posicao = some a.localization.coordinates
  distance : a.distance = s!"{env.distance loc a.localization.coordinates} M"

/-- `q` was issued for its Vaga while the destination was `loc`. -/
def Pede (env : Ambiente) (loc : GeoCoordinates) (q : PedidoEndereco) : Prop :=
  ∃ g : Home, g.loc = loc ∧ g.pedidoEndereco env q.vaga = some q

section Pede

variable {env : Ambiente} {loc : GeoCoordinates} {q : PedidoEndereco}

/-- A request captures the position of its Vaga, and its distance to the destination. -/
lemma Pede.posicao (h : Pede env loc q) : q.vaga.2.posicao = some q.geoCoordinates ∧
    q.distanciaTest = env.distance loc q.geoCoordinates := by
  obtain ⟨g, rfl, hg⟩ := h
  unfold Home.pedidoEndereco at hg
  split at hg
  next latitude longitude hlat hlon =>
    have hq := Option.some.inj hg
    rw [← hq]
    exact ⟨by simp [Vaga.posicao, hlat, hlon], rfl⟩
  next => cases hg

/-- A request passes the filter of its completion exactly when its Vaga is near. -/
lemma Pede.perto_iff (h : Pede env loc q) :
    q.distanciaTest ≤ 1000 ↔ env.Perto loc q.vaga.2 := by
  obtain ⟨hpos, hdist⟩ := h.posicao
  simp [Ambiente.Perto, hpos, hdist]

/-- The entry built from a request shows its Vaga. -/
lemma Pede.retrata (h : Pede env loc q) (m : ℕ) (imageName : String) :
    Retrata env loc q.vaga.2
      (Home.achado env q ⟨m, q.geoCoordinates, imageName⟩).toParkingLocateModel := by
  obtain ⟨hpos, hdist⟩ := h.posicao
  obtain ⟨g, rfl, hg⟩ := h
  unfold Home.pedidoEndereco at hg
  split at hg
  next latitude longitude hlat hlon =>
    have hq := Option.some.inj hg
    refine ⟨?_, ?_, ?_, ?_, ?_, hpos, by simp [Home.achado, hdist]⟩
    all_goals rw [← hq]
    all_goals rfl
  next => cases hg

end Pede

namespace Home

variable {env : Ambiente}

/-! ### What a step does to the list -/

/-- The event runs `loadParkingLocateNear` or `goToStep(1)`, which empty the list. -/
def Reinicia (h : Home) : Event → Prop
  | .backToFirstStep => True
  | .requestPark _ => h.thirdStepHidden = false
  | e => h.NovoDestino e

instance (h : Home) : ∀ e, Decidable (h.Reinicia e)
  | .backToFirstStep => .isTrue trivial
  | .requestPark _ => inferInstanceAs (Decidable (h.thirdStepHidden = false))
  | .suggestSelect row fetch =>
    inferInstanceAs (Decidable (h.NovoDestino (.suggestSelect row fetch)))
  | .textDidChange _ | .suggestCallback _ _ | .favoriteSelect _ | .parkingSelect _
  | .geocodeCallback _ _ | .togglePopup | .dismissPopup | .toggleFavorite
  | .backToSecondStep | .userLocate _ => .isFalse id

/-- The list and the requests in flight after an event. -/
inductive Lista (env : Ambiente) (h : Home) (e : Event) (h' : Home) : Prop where
  /-- Neither changes. -/
  | mantem (hr : ¬ h.Reinicia e) (he : h'.enderecos = h.enderecos)
      (hl : h'.parkingLocateList = h.parkingLocateList)
  /-- The list starts over; a new destination issues requests. -/
  | reinicia (hr : h.Reinicia e) (pedidos : List PedidoEndereco)
      (hp : ∀ q ∈ pedidos, Pede env h'.loc q) (he : h'.enderecos = h.enderecos ++ pedidos)
      (hl : h'.parkingLocateList = [])
  /-- A request is answered: an entry is added where it succeeds and its Vaga is near. -/
  | responde {k : ℕ} {q : PedidoEndereco} (ok : Bool) (hk : e = .geocodeCallback k ok)
      (hq : h.enderecos[k]? = some q) (he : h'.enderecos = h.enderecos.eraseIdx k)
      (hl : h'.parkingLocateList = h.parkingLocateList ++
        if ok ∧ q.distanciaTest ≤ 1000 then
          [achado env q ⟨h.marcadores, q.geoCoordinates, "parking_icon"⟩]
        else [])

/-- The first step empties the list, once the map is loaded. -/
lemma lista_goToStep_one {h : Home} (hm : h.mapController = true) :
    (h.goToStep 1).enderecos = h.enderecos ∧ (h.goToStep 1).parkingLocateList = [] :=
  ⟨congrArg Painel.enderecos (painel_goToStep_one hm),
    congrArg Painel.lista (painel_goToStep_one hm)⟩

/-- A search starts the list over, and issues one request for each Vaga of a fetch. -/
lemma loadParkingLocateNear_eq_some {h h' : Home} {addressTitle : String}
    {geoCoordinates : GeoCoordinates} {fetch : Option (Fetched Vaga)}
    (hs : h.loadParkingLocateNear env addressTitle geoCoordinates fetch = some h') :
    h'.loc = geoCoordinates ∧ h'.parkingLocateList = [] ∧
      (∀ vagas ∈ fetch, h'.vagas = vagas.rows) ∧
      ∃ pedidos, h'.enderecos = h.enderecos ++ pedidos ∧
        pedidos.map PedidoEndereco.vaga = h'.vagas ∧ ∀ q ∈ pedidos, Pede env geoCoordinates q := by
  have hpainel := painel_showDestination h addressTitle geoCoordinates
  have hloc := congrArg Painel.loc hpainel
  have henderecos := congrArg Painel.enderecos hpainel
  have hlista := congrArg Painel.lista hpainel
  obtain ⟨pedidos, hpedidos, rfl⟩ := Option.map_eq_some_iff.mp hs
  obtain ⟨hum, hem⟩ := mapM_pedidoEndereco hpedidos
  cases fetch with
  | none =>
    refine ⟨hloc, hlista, by simp, pedidos, ?_, hum, fun q hq => ⟨_, hloc, hem q hq⟩⟩
    exact congrArg (· ++ pedidos) henderecos
  | some vagas =>
    refine ⟨hloc, hlista, by simp, pedidos, ?_, hum, fun q hq => ⟨_, hloc, hem q hq⟩⟩
    exact congrArg (· ++ pedidos) henderecos

/-- The requests of some records are issued exactly where each has a position. -/
lemma isSome_mapM_pedidoEndereco (h : Home) (l : List (ObjectID × Vaga)) :
    (l.mapM (h.pedidoEndereco env)).isSome ↔ ∀ v ∈ l, v.2.posicao.isSome := by
  have hpede (v : ObjectID × Vaga) :
      (h.pedidoEndereco env v).isSome ↔ v.2.posicao.isSome := by
    unfold pedidoEndereco Vaga.posicao
    cases v.2.latitude <;> cases v.2.longitude <;> simp
  induction l with
  | nil => simp
  | cons v l ih =>
    have hl : (∀ v ∈ l, v.2.posicao.isSome) ↔ (l.mapM (h.pedidoEndereco env)).isSome := ih.symm
    rw [List.forall_mem_cons, hl, ← hpede v, List.mapM_cons]
    cases h.pedidoEndereco env v <;> cases l.mapM (h.pedidoEndereco env) <;> simp

/-- A search over fetched Vagas traps exactly where one of them has no position. -/
theorem isSome_loadParkingLocateNear_iff (h : Home) (addressTitle : String)
    (geoCoordinates : GeoCoordinates) (vagas : Fetched Vaga) :
    (h.loadParkingLocateNear env addressTitle geoCoordinates (some vagas)).isSome ↔
      ∀ v ∈ vagas.rows, v.2.posicao.isSome := by
  simp only [loadParkingLocateNear, Option.isSome_map]
  exact isSome_mapM_pedidoEndereco _ _

/-- An event that does not change what the list depends on keeps it. -/
lemma Lista.of_painel {h h' : Home} {e : Event} (hr : ¬ h.Reinicia e)
    (hp : h'.painel = h.painel) : Lista env h e h' :=
  .mantem hr (congrArg Painel.enderecos hp) (congrArg Painel.lista hp)

/-- The completion of a reverse geocoding answers its request. -/
lemma lista_addParkingFound (h : Home) (k : ℕ) (q : PedidoEndereco) (ok : Bool)
    (hq : h.enderecos[k]? = some q) :
    Lista env h (.geocodeCallback k ok)
      ({ h with enderecos := h.enderecos.eraseIdx k }.addParkingFound env q ok) := by
  cases ok with
  | false => exact .responde false rfl hq rfl (by simp [addParkingFound])
  | true =>
    by_cases hd : q.distanciaTest ≤ 1000
    · refine .responde true rfl hq ?_ ?_ <;> simp [addParkingFound, hd]
    · refine .responde true rfl hq ?_ ?_ <;> simp [addParkingFound, hd]

/-- **The list in one step.** A step keeps the list and the requests in flight, starts the list
over, or answers a request. -/
theorem lista_step {h h' : Home} {e : Event} (hm : h.mapController = true)
    (hs : step env h e = some h') : Lista env h e h' := by
  cases passo_of_step hs with
  | ignora _ _ hpark hrow hback =>
    refine .mantem ?_ rfl rfl
    cases e with
    | suggestSelect row fetch =>
      rintro ⟨hlt, -⟩
      have hfora := hrow row fetch rfl
      omega
    | requestPark ordem => simpa [Reinicia] using hpark ordem rfl
    | backToFirstStep => exact absurd rfl hback
    | _ => exact id
  | textDidChange searchText => exact .of_painel id (painel_searchAddress ..)
  | suggestCallback resposta hq => exact .of_painel id (painel_suggestCompletion ..)
  | semCoordenadas fetch hrow ha hc =>
    exact .mantem (by simp [Reinicia, NovoDestino, ha, hc]) rfl rfl
  | @destino row address locValue fetch h' hrow ha hc hs =>
    obtain ⟨hloc, hlista, -, pedidos, he, -, hp⟩ := loadParkingLocateNear_eq_some hs
    exact .reinicia (by simp [Reinicia, NovoDestino, hrow, ha, hc]) pedidos (hloc ▸ hp) he hlista
  | favoriteSelect hrow ha => exact .of_painel id (painel_searchAddress ..)
  | parkingSelect hrow hp => exact .mantem id rfl rfl
  | geocodeCallback ok hq => exact lista_addParkingFound h _ _ ok hq
  | maximiza => exact .mantem id rfl rfl
  | minimiza he => exact .mantem (by rcases he with rfl | rfl <;> exact id) rfl rfl
  | toggleFavorite => exact .of_painel id (painel_setFavoriteSelectedIcon ..)
  | backToFirstStep =>
    obtain ⟨he, hl⟩ := lista_goToStep_one hm
    exact .reinicia trivial [] (by simp) (by simpa using he) hl
  | backToSecondStep => exact .mantem id rfl rfl
  | requestPark ht hr =>
    obtain ⟨he, hl⟩ := lista_goToStep_one hm
    exact .reinicia ht [] (by simp) (by simpa using he) hl
  | userLocate position => exact .mantem id rfl rfl

/-- What holds of the list in every reachable state: each request in flight was issued for its
Vaga, and each entry shows the Vaga it was built from. -/
structure Retratada (env : Ambiente) (h : Home) : Prop where
  mapa : h.mapController = true
  pedidos : ∀ q ∈ h.enderecos, ∃ loc, Pede env loc q
  entradas : ∀ a ∈ h.parkingLocateList, ∃ loc, Retrata env loc a.vaga.2 a.toParkingLocateModel

/-- Every step keeps the entries those of their Vagas. -/
lemma Retratada.step {h h' : Home} {e : Event} (hh : Retratada env h)
    (hs : h.step env e = some h') : Retratada env h' := by
  refine ⟨mapController_step hh.mapa hs, ?_, ?_⟩
  · cases lista_step hh.mapa hs with
    | mantem _ he hl => exact he ▸ hh.pedidos
    | reinicia _ pedidos hp he hl =>
      rw [he]
      intro q hq
      rcases List.mem_append.mp hq with hq | hq
      · exact hh.pedidos q hq
      · exact ⟨h'.loc, hp q hq⟩
    | responde ok hk hq he hl =>
      rw [he]
      exact fun q hq => hh.pedidos q (List.mem_of_mem_eraseIdx hq)
  · cases lista_step hh.mapa hs with
    | mantem _ he hl => exact hl ▸ hh.entradas
    | reinicia _ pedidos hp he hl => simp [hl]
    | responde ok hk hq he hl =>
      rw [hl]
      intro a ha
      rcases List.mem_append.mp ha with ha | ha
      · exact hh.entradas a ha
      · split_ifs at ha
        · obtain rfl := List.mem_singleton.mp ha
          obtain ⟨loc, hpede⟩ := hh.pedidos _ (List.mem_of_getElem? hq)
          exact ⟨loc, hpede.retrata _ _⟩
        · cases ha

/-- In every reachable state each entry shows the Vaga it was built from. -/
theorem retrata_of_run {es : List Event} {h : Home}
    (hr : Runs.run (step env) es viewDidLoad = some h) :
    ∀ a ∈ h.parkingLocateList, ∃ loc, Retrata env loc a.vaga.2 a.toParkingLocateModel := by
  have hinicial : Retratada env viewDidLoad := ⟨rfl, by
    have := congrArg Painel.enderecos painel_viewDidLoad
    simp_all [painel], by
    have := congrArg Painel.lista painel_viewDidLoad
    simp_all [painel]⟩
  exact (Runs.Reachable.invariant (fun _ _ _ hg hs => hg.step hs) hinicial ⟨es, hr⟩).entradas

/-! ### The answers of one search -/

/-- The answer an event brings is the one that `sucesso` has for its Vaga. -/
def Responde (sucesso : ObjectID → Bool) (h : Home) : Event → Prop
  | .geocodeCallback k ok => ∀ q ∈ h.enderecos[k]?, ok = sucesso q.vaga.1
  | _ => True

instance (sucesso : ObjectID → Bool) (h : Home) : ∀ e, Decidable (h.Responde sucesso e)
  | .geocodeCallback k ok =>
    inferInstanceAs (Decidable (∀ q ∈ h.enderecos[k]?, ok = sucesso q.vaga.1))
  | .textDidChange _ | .suggestCallback _ _ | .suggestSelect _ _ | .favoriteSelect _
  | .parkingSelect _ | .togglePopup | .dismissPopup | .toggleFavorite | .backToFirstStep
  | .backToSecondStep | .requestPark _ | .userLocate _ => .isTrue trivial

/-- What holds while the answers of one search come in: the requests in flight are its own, the
entries show their Vagas, and the Vagas of both, where they are near and their request succeeds,
are those of the fetch. -/
structure EmBusca (env : Ambiente) (loc : GeoCoordinates) (vagas : List (ObjectID × Vaga))
    (sucesso : ObjectID → Bool) (h : Home) : Prop where
  pedidos : ∀ q ∈ h.enderecos, Pede env loc q
  entradas : ∀ a ∈ h.parkingLocateList, Retrata env loc a.vaga.2 a.toParkingLocateModel
  conta : (h.parkingLocateList.map Achado.vaga ++
    (h.enderecos.map PedidoEndereco.vaga).filter fun v => env.Perto loc v.2 ∧ sucesso v.1).Perm
      (vagas.filter fun v => env.Perto loc v.2 ∧ sucesso v.1)

/-- An event that does not start the list over keeps what holds while the answers come in.

**Proof sketch.** An answer takes the Vaga of its request out of those in flight, and puts it on
the list exactly when the request succeeds and the Vaga is near; so no Vaga that counts is lost
and none is doubled. -/
lemma EmBusca.step {loc : GeoCoordinates} {vagas : List (ObjectID × Vaga)}
    {sucesso : ObjectID → Bool} {h h' : Home} {e : Event} (hh : EmBusca env loc vagas sucesso h)
    (hr : ¬ h.Reinicia e) (hok : h.Responde sucesso e) (hlista : Lista env h e h') :
    EmBusca env loc vagas sucesso h' := by
  cases hlista with
  | mantem _ he hl => exact ⟨he ▸ hh.pedidos, hl ▸ hh.entradas, by rw [he, hl]; exact hh.conta⟩
  | reinicia hr' => exact absurd hr' hr
  | @responde k q ok hk hq he hl =>
    subst hk
    obtain ⟨hlt, hget⟩ := List.getElem?_eq_some_iff.mp hq
    have hpede := hh.pedidos q (List.mem_of_getElem? hq)
    have hfim : ok = sucesso q.vaga.1 := hok q hq
    have hperm : (q :: h.enderecos.eraseIdx k).Perm h.enderecos := by
      rw [← hget]
      exact List.getElem_cons_eraseIdx_perm hlt
    refine ⟨?_, ?_, ?_⟩
    · rw [he]
      exact fun p hp => hh.pedidos p (List.mem_of_mem_eraseIdx hp)
    · rw [hl]
      intro a ha
      rcases List.mem_append.mp ha with ha | ha
      · exact hh.entradas a ha
      · split_ifs at ha
        · obtain rfl := List.mem_singleton.mp ha
          exact hpede.retrata _ _
        · cases ha
    · refine List.Perm.trans ?_ hh.conta
      have hvagas := (hperm.map PedidoEndereco.vaga).filter fun v =>
        env.Perto loc v.2 ∧ sucesso v.1
      refine List.Perm.trans ?_ (hvagas.append_left _)
      have hconta : (ok ∧ q.distanciaTest ≤ 1000) ↔ env.Perto loc q.vaga.2 ∧ sucesso q.vaga.1 := by
        rw [hpede.perto_iff, hfim, and_comm]
      by_cases hv : env.Perto loc q.vaga.2 ∧ sucesso q.vaga.1
      · rw [he, hl, if_pos (hconta.mpr hv)]
        simp [hv, achado]
      · rw [he, hl, if_neg (mt hconta.mp hv)]
        simp [hv]

/-- The answers of a search may come in as soon as it has run. -/
lemma emBusca_loadParkingLocateNear {h h' : Home} {addressTitle : String} {loc : GeoCoordinates}
    {vagas : Fetched Vaga} (sucesso : ObjectID → Bool)
    (hs : h.loadParkingLocateNear env addressTitle loc (some vagas) = some h')
    (hp : h.enderecos = []) : EmBusca env loc vagas.rows sucesso h' := by
  obtain ⟨-, hl, hvagas, pedidos, he, hum, hpede⟩ := loadParkingLocateNear_eq_some hs
  rw [hp, List.nil_append] at he
  rw [hvagas vagas rfl] at hum
  exact ⟨he ▸ hpede, by simp [hl], by simp [hl, he, hum]⟩

/-- **One search is complete.** Let a destination be selected while no request is in flight, and
its search fetch `vagas`. Once all its requests are answered, with no new destination and no way
back to the first step in between, the list has one entry for each Vaga that is near and whose
request succeeded, and no others; each entry shows its Vaga, and its marker is on the map.

**Proof sketch.** `EmBusca` holds when the search has run, and every event of the run keeps it.
With no request left in flight, the entries alone are the Vagas that count. -/
theorem completa_of_run {es₀ es : List Event} {h h₁ h₂ : Home} {row : ℕ} {address : Suggestion}
    {loc : GeoCoordinates} {vagas : Fetched Vaga} (sucesso : ObjectID → Bool)
    (hr₀ : Runs.run (step env) es₀ viewDidLoad = some h)
    (hrow : row < h.suggestAddressTable.rows) (ha : h.suggestAddressList[row]? = some address)
    (hc : address.coordinates = some loc) (hp : h.enderecos = [])
    (hs : step env h (.suggestSelect row (some vagas)) = some h₁)
    (hes : Runs.Meets (step env) (fun g e => ¬ g.Reinicia e ∧ g.Responde sucesso e) es h₁)
    (hr : Runs.run (step env) es h₁ = some h₂) (hfim : h₂.enderecos = []) :
    (h₂.parkingLocateList.map Achado.vaga).Perm
        (vagas.rows.filter fun v => env.Perto loc v.2 ∧ sucesso v.1) ∧
      ∀ a ∈ h₂.parkingLocateList,
        Retrata env loc a.vaga.2 a.toParkingLocateModel ∧ a.localization ∈ h₂.mapScene := by
  -- the search has run
  have hbusca : EmBusca env loc vagas.rows sucesso h₁ := by
    cases passo_of_step hs with
    | ignora _ _ _ hno =>
      have hfora := hno row _ rfl
      omega
    | minimiza he => simp at he
    | semCoordenadas _ _ ha' hc' =>
      obtain rfl := Option.some.inj (ha.symm.trans ha')
      rw [hc] at hc'
      cases hc'
    | destino _ _ ha' hc' hs' =>
      obtain rfl := Option.some.inj (ha.symm.trans ha')
      obtain rfl := Option.some.inj (hc.symm.trans hc')
      exact emBusca_loadParkingLocateNear sucesso hs' hp
  have hr₁ : Runs.run (step env) (es₀ ++ [.suggestSelect row (some vagas)]) viewDidLoad =
      some h₁ := by simp [Runs.run_append, hr₀, hs]
  have hm : h₁.mapController = true :=
    Runs.Reachable.invariant (P := fun g => g.mapController = true)
      (fun _ _ _ hg hs => mapController_step hg hs) rfl ⟨_, hr₁⟩
  -- its answers come in
  have hfinal : h₂.mapController = true ∧ EmBusca env loc vagas.rows sucesso h₂ := by
    refine Runs.run_of_meets
      (P := fun g => g.mapController = true ∧ EmBusca env loc vagas.rows sucesso g)
      ?_ ⟨hm, hbusca⟩ hes hr
    rintro g e g' ⟨hg, hb⟩ ⟨hne, hok⟩ hs
    exact ⟨mapController_step hg hs, hb.step hne hok (lista_step hg hs)⟩
  have hconta := hfinal.2.conta
  rw [hfim] at hconta
  refine ⟨by simpa using hconta, fun a ha => ⟨hfinal.2.entradas a ha, ?_⟩⟩
  have hr₂ : Runs.run (step env) (es₀ ++ [.suggestSelect row (some vagas)] ++ es) viewDidLoad =
      some h₂ := by rw [Runs.run_append, hr₁, Option.bind_some, hr]
  exact listados_of_run hr₂ _ (List.mem_map_of_mem ha)

/-- A garage in another street. -/
def vagaNaRua (rua : String) : Vaga :=
  { vagaComPosicao with id := some (chave rua "1" "01000-000" "Garagem"), rua := some rua }

/-- The fetch of a search: the second garage is far. -/
def quatroVagas : Fetched Vaga where
  rows := [(0, vagaComPosicao), (1, { vagaNaRua "Rua C" with latitude := some (.finite 0) }),
    (2, vagaNaRua "Rua B"), (3, vagaNaRua "Rua D")]
  nodup := by decide

/-- The driver types an address and gets a suggestion. -/
def sugestao : List Event :=
  [.textDidChange "Rua A", .suggestCallback 0 (some [⟨"Rua A", vagaComPosicao.posicao⟩])]

/-- The addresses come in another order than they were asked for, and that of the last garage does
not come. -/
def respostas : List Event :=
  [.geocodeCallback 2 true, .geocodeCallback 2 false, .geocodeCallback 1 true,
    .geocodeCallback 0 true]

/-- Of the four garages two are listed. -/
theorem completa_quatroVagas :
    ∃ h, Runs.run (step ambiente) (sugestao ++ [.suggestSelect 0 (some quatroVagas)] ++ respostas)
        viewDidLoad = some h ∧
      (h.parkingLocateList.map Achado.vaga).Perm [(0, vagaComPosicao), (2, vagaNaRua "Rua B")] := by
  have hcompleta := @completa_of_run ambiente sugestao respostas _ _ _ 0
    ⟨"Rua A", vagaComPosicao.posicao⟩ _ quatroVagas (fun k => k ≠ 3) rfl (by decide) rfl rfl rfl rfl
    (by decide) rfl rfl
  exact ⟨_, rfl, hcompleta.1⟩

end Home

end Parken
