import Parken.Escolha
import Parken.Falhas
import Parken.Home.Panels
import Parken.Home.Segue
import Parken.Lib.Games

set_option relaxedAutoImplicit false
set_option autoImplicit false

/-!
# A request can always be made and approved

The other files say what the application never does. Here the driver and the owner, who share the
device, want something of it: a garage that is stored requested and approved. Whatever was done
before, whatever the screens show and whatever is in flight, they can have it. What they cannot
choose is the data of the events: the orders in which the fetches return the objects, the other
suggestions, the name in the profile, the day.

The services are taken to answer: the suggestions for the text typed have the place, the geocoder
and Firebase have what they are asked for, and the fetches and the saves succeed. Nothing else
happens between two moves. The request button of the third step carries a segue and an action, and
the segue is taken to fire first: with the action first its table is empty by the time the segue
reads it, and the press traps (`Parken.Home.requestPark_acaoPrimeiro`). Everything here rests on
that order. The button of the form carries both as well, and there either may fire first.

## Main definitions

* `Parken.Aprovacoes.Jogada` — the moves of the users, each with the events it may turn out as.
* `Parken.App.Oferecida` — a Vaga that can be requested.
* `Parken.Aprovacoes.Atendida` — its request is made, approved and on disk.

## Main results

* `Parken.Aprovacoes.atendida_throughout` — in every run, every such Vaga can be requested and the
  request approved.
-/

namespace Parken

/-! ## The stages on Home -/

namespace Home

/-- The text is in the search bar, and a request for suggestions for it is in flight. -/
structure Digitado (t : String) (h : Home) : Prop where
  busca : h.isSearching = true
  visivel : h.searchResultHidden = false
  emVoo : ∃ k n : ℕ, h.sugestoes[k]? = some (n, t)

/-- The suggestions show a place at `loc`. -/
structure Sugerido (loc : GeoCoordinates) (h : Home) : Prop where
  visivel : h.searchResultHidden = false
  linha : ∃ row < h.suggestAddressTable.rows, ∃ i ∈ h.suggestAddressList[row]?,
    i.coordinates = some loc

/-- The place is searched among the Vagas `vagas`, and the request for the address of `vaga` is in
flight. -/
structure Procurado (env : Ambiente) (loc : GeoCoordinates) (vagas : List (ObjectID × Vaga))
    (vaga : ObjectID × Vaga) (h : Home) : Prop where
  visivel : h.secondStepHidden = false
  vagas : h.vagas.Perm vagas
  emVoo : ∃ k : ℕ, ∃ q ∈ h.enderecos[k]?, q.vaga = vaga ∧ Pede env loc q

/-- The list shows the garage. -/
structure Listado (vagas : List (ObjectID × Vaga)) (vaga : ObjectID × Vaga) (h : Home) : Prop where
  visivel : h.secondStepHidden = false
  vagas : h.vagas.Perm vagas
  linha : ∃ row < h.parkingLocateTable.rows, ∃ a ∈ h.parkingLocateList[row]?,
    a.vaga = vaga ∧ a.id = vaga.2.chaveHome

/-- The third step shows the garage. -/
structure Escolhido (vagas : List (ObjectID × Vaga)) (vaga : ObjectID × Vaga) (h : Home) :
    Prop where
  visivel : h.thirdStepHidden = false
  vagas : h.vagas.Perm vagas
  linha : ∃ row ∈ h.parkingLocateTable.selected, ∃ a ∈ h.parkingLocateList[row]?,
    a.vaga = vaga ∧ a.id = vaga.2.chaveHome

variable {env : Ambiente} {h : Home} {t : String} {loc : GeoCoordinates}
  {vagas : List (ObjectID × Vaga)} {vaga : ObjectID × Vaga}

/-- A text is typed. -/
lemma digitado_step (ht : t ≠ "") : ∃ h' ∈ h.step env (.textDidChange t), h'.Digitado t := by
  have htexto : t.isEmpty = false := by simpa using ht
  have hbusca : { h with searchText := t }.searchAddress t = { h with
      searchText := t
      isSearching := true
      consultas := h.consultas + 1
      sugestoes := h.sugestoes ++ [(h.consultas, t)]
      isPopupOpen := true
      searchResultHidden := false
      favoriteHidden := true } := by
    simp [searchAddress, htexto, maximizeDealModal]
  exact ⟨_, congrArg some hbusca, rfl, rfl, h.sugestoes.length, h.consultas, by simp⟩

/-- Its suggestions come. -/
lemma Digitado.sugere (hh : h.Digitado t) {k n : ℕ} (hk : h.sugestoes[k]? = some (n, t))
    {items : List Suggestion} (hitems : ∃ i ∈ items, i.coordinates = some loc) :
    ∃ h' ∈ h.step env (.suggestCallback k (some items)), h'.Sugerido loc := by
  obtain ⟨i, hi, hloc⟩ := hitems
  obtain ⟨row, hrow, hget⟩ := List.mem_iff_getElem.mp hi
  have hresposta : h.step env (.suggestCallback k (some items)) = some { h with
      sugestoes := h.sugestoes.eraseIdx k
      suggestAddressList := items
      suggestAddressTable := .reloadData items.length } := by
    simp [step, hk, suggestCompletion, hh.busca]
  exact ⟨_, hresposta, hh.visivel, row, hrow, i, List.getElem?_eq_some_iff.mpr ⟨hrow, hget⟩, hloc⟩

/-- One is tapped, and the fetch returns Vagas with positions. -/
lemma procurado_step {row : ℕ} (hrow : row < h.suggestAddressTable.rows) {i : Suggestion}
    (hi : h.suggestAddressList[row]? = some i) (hloc : i.coordinates = some loc)
    {fetch : Fetched Vaga} (hperm : fetch.rows.Perm vagas) (hv : vaga ∈ vagas)
    (hpos : ∀ p ∈ vagas, p.2.posicao.isSome) :
    ∃ h' ∈ h.step env (.suggestSelect row (some fetch)), h'.Procurado env loc vagas vaga := by
  set g := { h with suggestAddressTable := h.suggestAddressTable.select row } with hg
  obtain ⟨h', hbusca⟩ : ∃ h', g.loadParkingLocateNear env i.title loc (some fetch) = some h' := by
    refine Option.isSome_iff_exists.mp ((isSome_loadParkingLocateNear_iff _ _ _ _).mpr ?_)
    exact fun p hp => hpos p (hperm.mem_iff.mp hp)
  obtain ⟨-, -, hvagas, pedidos, henderecos, hmap, hpede⟩ := loadParkingLocateNear_eq_some hbusca
  have hfetch : h'.vagas = fetch.rows := hvagas fetch rfl
  obtain ⟨q, hq, hqv⟩ : ∃ q ∈ pedidos, q.vaga = vaga := by
    rw [← List.mem_map, hmap, hfetch]
    exact hperm.mem_iff.mpr hv
  obtain ⟨k, hk⟩ := List.mem_iff_getElem?.mp (henderecos ▸ List.mem_append_right _ hq)
  refine ⟨h', ?_, ?_, hfetch ▸ hperm, k, q, hk, hqv, hpede q hq⟩
  · simp [step, hrow, hi, hloc, ← hg, hbusca]
  · obtain ⟨_, _, rfl⟩ := exists_loadParkingLocateNear hbusca
    rw [showDestination_eq]

/-- The address comes, and the garage is near. -/
lemma Procurado.lista (hh : h.Procurado env loc vagas vaga) {k : ℕ} {q : PedidoEndereco}
    (hk : h.enderecos[k]? = some q) (hq : q.vaga = vaga) (hpede : Pede env loc q)
    (hperto : env.Perto loc vaga.2) :
    ∃ h' ∈ h.step env (.geocodeCallback k true), h'.Listado vagas vaga := by
  have hdist : q.distanciaTest ≤ 1000 := hpede.perto_iff.mpr (hq ▸ hperto)
  set m : MapMarkerLite := ⟨h.marcadores, q.geoCoordinates, "parking_icon"⟩ with hm
  have hresposta : h.step env (.geocodeCallback k true) = some { h with
      enderecos := h.enderecos.eraseIdx k
      marcadores := h.marcadores + 1
      parkingLocateList := h.parkingLocateList ++ [achado env q m]
      mapScene := addMarkerList h.mapScene (h.localizations ++ [m])
      parkingLocateTable := .reloadData (h.parkingLocateList.length + 1) } := by
    simp [step, hk, addParkingFound, hdist, ← hm, localizations, achado]
  have hid : (achado env q m).id = vaga.2.chaveHome := by
    rw [← hq]
    exact (hpede.retrata h.marcadores "parking_icon").id
  exact ⟨_, hresposta, hh.visivel, hh.vagas, h.parkingLocateList.length, Nat.lt_succ_self _,
    achado env q m, by simp, hq, hid⟩

/-- The garage is tapped. -/
lemma Listado.escolhe (hh : h.Listado vagas vaga) {row : ℕ} (hrow : row < h.parkingLocateTable.rows)
    {a : Achado} (ha : h.parkingLocateList[row]? = some a) (hvaga : a.vaga = vaga)
    (hid : a.id = vaga.2.chaveHome) :
    ∃ h' ∈ h.step env (.parkingSelect row), h'.Escolhido vagas vaga := by
  have htoque : h.step env (.parkingSelect row) = some ({ h with
      parkingLocateTable := h.parkingLocateTable.select row }.loadParkChoosed a) := by
    simp [step, hrow, ha]
  exact ⟨_, htoque, rfl, hh.vagas, row, rfl, a, ha, hvaga, hid⟩

/-- The segue of the request button hands the record over, if it alone has its key stored. -/
lemma Escolhido.prepare (hh : h.Escolhido vagas vaga) (hv : vaga ∈ vagas)
    (hids : ∀ p ∈ vagas, p.2.id.isSome) (hid : vaga.2.id = some vaga.2.chaveHome)
    (hunica : ∀ p ∈ vagas, p.2.id = vaga.2.id → p = vaga) :
    ∃ a, h.prepare = some (a, some vaga) ∧ a.vaga = vaga := by
  obtain ⟨row, hrow, a, ha, hvaga, haid⟩ := hh.linha
  obtain ⟨antes, depois, hvagas, hantes⟩ :=
    List.eq_append_cons_of_mem (hh.vagas.mem_iff.mpr hv)
  have houtras : ∀ u ∈ antes, idGuardado u.2 ≠ vaga.2.chaveHome := by
    intro u hu hguardado
    have humem : u ∈ vagas := hh.vagas.mem_iff.mp (hvagas ▸ List.mem_append_left _ hu)
    obtain ⟨id, huid⟩ := Option.isSome_iff_exists.mp (hids u humem)
    have heq : u.2.id = vaga.2.id := by
      rw [idGuardado, huid, Option.getD_some] at hguardado
      rw [huid, hid, hguardado]
    exact hantes (hunica u humem heq ▸ hu)
  have hfinal : vagaFinal a.id none h.vagas = some vaga := by
    rw [haid, vagaFinal_eq_some_iff]
    exact .inr ⟨antes, depois, hvagas, houtras, .inl (by simp [idGuardado, hid])⟩
  exact ⟨a, by simp [Home.prepare, Option.mem_def.mp hrow, Option.mem_def.mp ha, hfinal], hvaga⟩

end Home

/-- A Vaga near `loc` can be requested: it is stored with the key of its address, no other Vaga is,
and the driver has a card. -/
structure App.Oferecida (env : Ambiente) (loc : GeoCoordinates) (s : App) (vaga : ObjectID × Vaga) :
    Prop where
  guardada : vaga ∈ s.view.vagas.rows
  id : vaga.2.id = some vaga.2.chaveHome
  unica : ∀ p ∈ s.view.vagas.rows, p.2.id = vaga.2.id → p = vaga
  perto : env.Perto loc vaga.2
  cartao : s.view.cartoes.rows ≠ []

instance (env : Ambiente) (loc : GeoCoordinates) (s : App) (vaga : ObjectID × Vaga) :
    Decidable (s.Oferecida env loc vaga) :=
  decidable_of_iff (vaga ∈ s.view.vagas.rows ∧ vaga.2.id = some vaga.2.chaveHome ∧
      (∀ p ∈ s.view.vagas.rows, p.2.id = vaga.2.id → p = vaga) ∧ env.Perto loc vaga.2 ∧
      s.view.cartoes.rows ≠ [])
    ⟨fun ⟨guardada, id, unica, perto, cartao⟩ => ⟨guardada, id, unica, perto, cartao⟩,
      fun h => ⟨h.guardada, h.id, h.unica, h.perto, h.cartao⟩⟩

namespace Aprovacoes

/-- Home is in front. -/
def NaHome (s : Aprovacoes) : Prop := s.frente = .fora ∧ s.app.pedido.request = none

/-- A request screen is in front, or its checkout. -/
def NoPedido (s : Aprovacoes) : Prop := s.frente = .fora ∧ s.app.pedido.request.isSome

/-- A move of the users, with the events it may turn out as. A screen takes the moves of its
controls while it is in front; the suggestions for the text `t` have a place at `loc`. A press of
the request button is taken to fire its segue first, since it traps otherwise; the order at the
button of the form is open. -/
inductive Jogada (t : String) (loc : GeoCoordinates) (s : Aprovacoes) : Set Event → Prop where
  /-- Back from the approvals list or the screen of a request; the list may fetch anew. -/
  | voltar : Jogada t loc s {e | ∃ fetch fetchVaga, e = .voltar fetch fetchVaga}
  /-- The alert of a decision is dismissed. -/
  | dispensar : Jogada t loc s {e | ∃ fetch fetchVaga, e = .dispensar fetch fetchVaga}
  /-- Back from a request screen or its checkout. -/
  | voltarPedido (h : s.NoPedido) : Jogada t loc s {.app (.pedido .voltar)}
  /-- The button of the third step. -/
  | backToSecondStep (h : s.NaHome) (hstep : s.app.home.thirdStepHidden = false) :
      Jogada t loc s {e | ∃ hoje, e = .app (.home .backToSecondStep hoje)}
  /-- The button of the second step. -/
  | backToFirstStep (h : s.NaHome) (hstep : s.app.home.secondStepHidden = false) :
      Jogada t loc s {e | ∃ hoje, e = .app (.home .backToFirstStep hoje)}
  /-- The text is typed into the search bar of the first step. -/
  | textDidChange (h : s.NaHome) (hstep : s.app.home.firstStepHidden = false) :
      Jogada t loc s {e | ∃ hoje, e = .app (.home (.textDidChange t) hoje)}
  /-- A request for suggestions for the text is answered. -/
  | sugerir {k n : ℕ} (hk : s.app.home.sugestoes[k]? = some (n, t)) :
      Jogada t loc s {e | ∃ items : List Suggestion, ∃ hoje,
        (∃ i ∈ items, i.coordinates = some loc) ∧
          e = .app (.home (.suggestCallback k (some items)) hoje)}
  /-- A suggestion shown is tapped. -/
  | suggestSelect (h : s.NaHome) (hview : s.app.home.searchResultHidden = false) (row : ℕ) :
      Jogada t loc s {e | ∃ ordem hoje, e = .app (.home (.suggestSelect row (some ordem)) hoje)}
  /-- A reverse geocoding is answered. -/
  | geocodificar (k : ℕ) :
      Jogada t loc s {e | ∃ hoje, e = .app (.home (.geocodeCallback k true) hoje)}
  /-- A garage of the second step is tapped. -/
  | parkingSelect (h : s.NaHome) (hstep : s.app.home.secondStepHidden = false) (row : ℕ) :
      Jogada t loc s {e | ∃ hoje, e = .app (.home (.parkingSelect row) hoje)}
  /-- The request button of the third step is pressed; its segue fires before its action. -/
  | requestPark (h : s.NaHome) (hstep : s.app.home.thirdStepHidden = false) :
      Jogada t loc s {e | ∃ hoje, e = .app (.home (.requestPark .seguePrimeiro) hoje)}
  | marca (h : s.NoPedido) (texto : String) : Jogada t loc s {.app (.pedido (.marca texto))}
  | modelo (h : s.NoPedido) (texto : String) : Jogada t loc s {.app (.pedido (.modelo texto))}
  | placa (h : s.NoPedido) (texto : String) : Jogada t loc s {.app (.pedido (.placa texto))}
  | definirHora (h : s.NoPedido) (n : ℕ) : Jogada t loc s {.app (.pedido (.definirHora n))}
  /-- `Prosseguir para Pagamento`. -/
  | prosseguir (h : s.NoPedido) :
      Jogada t loc s {e | ∃ ordem, e = .app (.pedido (.prosseguir ordem true))}
  /-- The checkout is confirmed by a user signed in to Firebase. -/
  | confirmar (h : s.NoPedido) :
      Jogada t loc s {e | ∃ userID, e = .app (.pedido (.confirmar (some userID)))}
  /-- Firebase answers a query with the profile. -/
  | firebase (k : ℕ) :
      Jogada t loc s
        {e | ∃ firstname, e = .app (.pedido (.firebase k (.dicionario firstname) true))}
  /-- The approvals list is opened. -/
  | abrir (h : s.NaHome) :
      Jogada t loc s {e | ∃ ordem ordemVaga, e = .abrir (some ordem) (some ordemVaga)}
  /-- The list renders a row. -/
  | render (row : ℕ) : Jogada t loc s {.render row}
  | selecionar (row : ℕ) : Jogada t loc s {.selecionar row}
  | aprovar : Jogada t loc s {.aprovar true}

variable {env : Ambiente} {t : String} {loc : GeoCoordinates} {s : Aprovacoes}

/-- An event of Home. -/
lemma step_home {e : Home.Event} {h : Home}
    (hs : s.app.home.step env (e.comFetch s.app.view) = some h) (hoje : Date) :
    step env s (.app (.home e hoje)) =
      some { s with app := { s.app with home := h, pedido := s.app.segue hoje e } } := by
  simp [step, App.step, App.opera, hs]

/-- The application with the request screens at `p`, after their write. -/
def comPedido (s : Aprovacoes) (w : Write Change) (p : Pedido) : Aprovacoes :=
  { s with app := { s.app with pedido := p, ctx := s.app.ctx.exec w } }

@[simp] lemma view_comPedido (s : Aprovacoes) (w : Write Change) (p : Pedido) :
    (s.comPedido w p).app.view = Edit.applyAll w.changes s.app.view :=
  ManagedContext.view_exec s.app.ctx w

/-- An event of the request screens. -/
lemma step_pedido {e : Pedido.Event} {w : Write Change} {p : Pedido}
    (hs : s.app.pedido.step s.app.view e = some (w, p)) :
    step env s (.app (.pedido e)) = some (s.comPedido w p) := by
  simp [step, App.step, App.opera, hs, comPedido]

/-- The approvals list appears. -/
lemma step_aparece {de : Frente} (h : s.frente = de) (fetch : Option (List (ObjectID × Requisicao)))
    (fetchVaga : Option (List (ObjectID × Vaga))) :
    s.aparece env de fetch fetchVaga = some ⟨{ s.app with confirmacao := { s.app.confirmacao with
      lista := s.app.confirmacao.lista.viewWillAppear s.app.view fetch fetchVaga } }, .lista,
      fetch.isSome⟩ := by
  simp [aparece, h, App.step, App.opera, Confirmacao.step]

/-! ## Back to the search -/

/-- The users can leave the approvals screens. -/
lemma forces_fora (s : Aprovacoes) : Runs.Forces (step env) (Jogada t loc)
    (fun s' => s'.frente = .fora ∧ s'.app.ctx = s.app.ctx ∧ s'.app.home = s.app.home ∧
      s'.app.pedido = s.app.pedido) s := by
  have hlista : ∀ s' : Aprovacoes, s'.frente = .lista ∧ s'.app.ctx = s.app.ctx ∧
      s'.app.home = s.app.home ∧ s'.app.pedido = s.app.pedido →
      Runs.Forces (step env) (Jogada t loc) (fun s' => s'.frente = .fora ∧
        s'.app.ctx = s.app.ctx ∧ s'.app.home = s.app.home ∧ s'.app.pedido = s.app.pedido) s' := by
    rintro s' ⟨hf, h⟩
    refine .of_step .voltar ⟨_, none, none, rfl⟩ ?_
    rintro e ⟨fetch, fetchVaga, rfl⟩
    exact ⟨{ s' with frente := .fora }, by simp [step, hf], rfl, h⟩
  cases hf : s.frente with
  | fora => exact .goal ⟨hf, rfl, rfl, rfl⟩
  | lista => exact hlista s ⟨hf, rfl, rfl, rfl⟩
  | confirmar =>
    refine .trans (.of_step .voltar ⟨_, none, none, rfl⟩ ?_) hlista
    rintro e ⟨fetch, fetchVaga, rfl⟩
    exact ⟨_, (if_neg (by simp [hf])).trans (step_aparece hf fetch fetchVaga), rfl, rfl, rfl, rfl⟩
  | alerta =>
    refine .trans (.of_step .dispensar ⟨_, none, none, rfl⟩ ?_) hlista
    rintro e ⟨fetch, fetchVaga, rfl⟩
    exact ⟨_, step_aparece hf fetch fetchVaga, rfl, rfl, rfl, rfl⟩

/-- From there they can leave the request screens. -/
lemma forces_naHome (hf : s.frente = .fora) : Runs.Forces (step env) (Jogada t loc)
    (fun s' => s'.NaHome ∧ s'.app.ctx = s.app.ctx ∧ s'.app.home = s.app.home) s := by
  have hrequest : ∀ s' : Aprovacoes, s'.frente = .fora ∧ s'.app.ctx = s.app.ctx ∧
      s'.app.home = s.app.home ∧ s'.app.pedido.checkout = none →
      Runs.Forces (step env) (Jogada t loc)
        (fun s' => s'.NaHome ∧ s'.app.ctx = s.app.ctx ∧ s'.app.home = s.app.home) s' := by
    rintro s' ⟨hf, hctx, hhome, hcheckout⟩
    cases hr : s'.app.pedido.request with
    | none => exact .goal ⟨⟨hf, hr⟩, hctx, hhome⟩
    | some r =>
      refine .of_step (.voltarPedido ⟨hf, by simp [hr]⟩) (Set.singleton_nonempty _) ?_
      rintro e rfl
      have hvolta : s'.app.pedido.step s'.app.view .voltar =
          some (.none, { s'.app.pedido with request := none }) := by
        simp [Pedido.step, hcheckout]
      refine ⟨_, step_pedido hvolta, ⟨hf, rfl⟩, ?_, hhome⟩
      simpa [comPedido] using hctx
  cases hr : s.app.pedido.request with
  | none => exact .goal ⟨⟨hf, hr⟩, rfl, rfl⟩
  | some r =>
    cases hc : s.app.pedido.checkout with
    | none => exact hrequest s ⟨hf, rfl, rfl, hc⟩
    | some c =>
      refine .trans (.of_step (.voltarPedido ⟨hf, by simp [hr]⟩) (Set.singleton_nonempty _) ?_)
        hrequest
      rintro e rfl
      have hvolta : s.app.pedido.step s.app.view .voltar =
          some (.none, { s.app.pedido with checkout := none }) := by
        simp [Pedido.step, hc]
      exact ⟨_, step_pedido hvolta, hf, by simp [comPedido], rfl, rfl⟩

/-! ## To the third step of Home -/

/-- The application with Home at `h`. -/
def comHome (s : Aprovacoes) (h : Home) : Aprovacoes := { s with app := { s.app with home := h } }

lemma NaHome.comHome (hs : s.NaHome) (h : Home) : (s.comHome h).NaHome := hs

/-- A move that is an event of Home, other than a press of the request button. -/
lemma forces_home {P : Home → Prop} {E : Set Event} (hE : Jogada t loc s E) (hne : E.Nonempty)
    (h : ∀ e ∈ E, ∃ e' hoje, e = .app (.home e' hoje) ∧ (∀ ordem, e' ≠ .requestPark ordem) ∧
      ∃ h' ∈ s.app.home.step env (e'.comFetch s.app.view), P h') :
    Runs.Forces (step env) (Jogada t loc) (fun s' => ∃ h', P h' ∧ s' = s.comHome h') s := by
  refine .of_step hE hne fun e he => ?_
  obtain ⟨e', hoje, rfl, hpedir, h', hstep, hP⟩ := h e he
  have hsegue : s.app.segue hoje e' = s.app.pedido := by
    cases e' with
    | requestPark ordem => exact absurd rfl (hpedir ordem)
    | _ => rfl
  refine ⟨s.comHome h', ?_, h', hP, rfl⟩
  rw [step_home hstep, hsegue]
  rfl

/-- The next move of Home, from a state the moves before have led to. -/
lemma forces_home_trans {P Q : Home → Prop}
    (hP : Runs.Forces (step env) (Jogada t loc) (fun s' => ∃ h, P h ∧ s' = s.comHome h) s)
    (hQ : ∀ h, P h → Runs.Forces (step env) (Jogada t loc)
      (fun s' => ∃ h', Q h' ∧ s' = (s.comHome h).comHome h') (s.comHome h)) :
    Runs.Forces (step env) (Jogada t loc) (fun s' => ∃ h, Q h ∧ s' = s.comHome h) s := by
  refine hP.trans ?_
  rintro s' ⟨h, hh, rfl⟩
  exact hQ h hh

/-- The driver can come to the first step. -/
lemma forces_primeiraEtapa (hs : s.NaHome) (hb : s.app.home.bandeiras.Coerentes) :
    Runs.Forces (step env) (Jogada t loc)
      (fun s' => ∃ h, h.firstStepHidden = false ∧ s' = s.comHome h) s := by
  have hvolta : ∀ s : Aprovacoes, s.NaHome → s.app.home.secondStepHidden = false →
      Runs.Forces (step env) (Jogada t loc)
        (fun s' => ∃ h, h.firstStepHidden = false ∧ s' = s.comHome h) s := by
    intro s hs hdois
    refine forces_home (.backToFirstStep hs hdois) ⟨_, 0, rfl⟩ ?_
    rintro e ⟨hoje, rfl⟩
    exact ⟨_, hoje, rfl, by simp, _, rfl, by rw [Home.goToStep_one_eq]⟩
  cases hum : s.app.home.firstStepHidden with
  | false => exact .goal ⟨s.app.home, hum, rfl⟩
  | true =>
    cases hdois : s.app.home.secondStepHidden with
    | false => exact hvolta s hs hdois
    | true =>
      have htres : s.app.home.thirdStepHidden = false := by
        have hpasso := hb.passo
        simpa [Home.bandeiras, hum, hdois, List.count_cons] using hpasso
      refine forces_home_trans (P := fun h => h.secondStepHidden = false)
        (forces_home (.backToSecondStep hs htres) ⟨_, 0, rfl⟩ ?_) fun h hh =>
          hvolta _ (hs.comHome h) hh
      rintro e ⟨hoje, rfl⟩
      exact ⟨_, hoje, rfl, by simp, _, rfl, rfl⟩

/-- The driver can find a garage near the place, and open it in the third step. -/
lemma forces_escolhido (ht : t ≠ "") (hs : s.NaHome) (hb : s.app.home.bandeiras.Coerentes)
    (hpos : ∀ p ∈ s.app.view.vagas.rows, p.2.posicao.isSome) {vaga : ObjectID × Vaga}
    (hv : vaga ∈ s.app.view.vagas.rows) (hperto : env.Perto loc vaga.2) :
    Runs.Forces (step env) (Jogada t loc)
      (fun s' => ∃ h, h.Escolhido s.app.view.vagas.rows vaga ∧ s' = s.comHome h) s := by
  have hum : Runs.Forces (step env) (Jogada t loc)
      (fun s' => ∃ h : Home, h.firstStepHidden = false ∧ s' = s.comHome h) s :=
    forces_primeiraEtapa hs hb
  have hdigitado := forces_home_trans (Q := Home.Digitado t) hum fun h hh => by
    refine forces_home (.textDidChange (hs.comHome h) hh) ⟨_, 0, rfl⟩ ?_
    rintro e ⟨hoje, rfl⟩
    exact ⟨_, hoje, rfl, by simp, Home.digitado_step ht⟩
  have hsugerido := forces_home_trans (Q := Home.Sugerido loc) hdigitado fun h hh => by
    obtain ⟨k, n, hk⟩ := hh.emVoo
    refine forces_home (.sugerir hk) ⟨_, [⟨t, some loc⟩], 0, by simp, rfl⟩ ?_
    rintro e ⟨items, hoje, hitems, rfl⟩
    exact ⟨_, hoje, rfl, by simp, hh.sugere hk hitems⟩
  have hprocurado := forces_home_trans
      (Q := Home.Procurado env loc s.app.view.vagas.rows vaga) hsugerido fun h hh => by
    obtain ⟨row, hrow, i, hi, hloc⟩ := hh.linha
    refine forces_home (.suggestSelect (hs.comHome h) hh.visivel row) ⟨_, ⟨[], by simp⟩, 0, rfl⟩ ?_
    rintro e ⟨ordem, hoje, rfl⟩
    exact ⟨_, hoje, rfl, by simp,
      Home.procurado_step hrow hi hloc (ObjectTable.fetch_perm _ _) hv hpos⟩
  have hlistado := forces_home_trans
      (Q := Home.Listado s.app.view.vagas.rows vaga) hprocurado fun h hh => by
    obtain ⟨k, q, hk, hq, hpede⟩ := hh.emVoo
    refine forces_home (.geocodificar k) ⟨_, 0, rfl⟩ ?_
    rintro e ⟨hoje, rfl⟩
    exact ⟨_, hoje, rfl, by simp, hh.lista hk hq hpede hperto⟩
  exact forces_home_trans hlistado fun h hh => by
    obtain ⟨row, hrow, a, ha, hvaga, hid⟩ := hh.linha
    refine forces_home (.parkingSelect (hs.comHome h) hh.visivel row) ⟨_, 0, rfl⟩ ?_
    rintro e ⟨hoje, rfl⟩
    exact ⟨_, hoje, rfl, by simp, hh.escolhe hrow ha hvaga hid⟩

/-! ## The request -/

variable {antes : Store}

/-- The request screen is in front with these fields, over the store `antes`. -/
structure Formulario (antes : Store) (campos : Request → Prop) (s : Aprovacoes) : Prop where
  frente : s.frente = .fora
  view : s.app.view = antes
  checkout : s.app.pedido.checkout = none
  request : ∃ r ∈ s.app.pedido.request, campos r

lemma Formulario.noPedido {campos : Request → Prop} (h : s.Formulario antes campos) :
    s.NoPedido := by
  obtain ⟨r, hr, -⟩ := h.request
  exact ⟨h.frente, Option.isSome_of_mem hr⟩

/-- The driver can request the garage of the third step. -/
lemma forces_formulario {vagas : List (ObjectID × Vaga)} {vaga : ObjectID × Vaga} (hs : s.NaHome)
    (hh : s.app.home.Escolhido vagas vaga) (hv : vaga ∈ vagas) (hids : ∀ p ∈ vagas, p.2.id.isSome)
    (hid : vaga.2.id = some vaga.2.chaveHome)
    (hunica : ∀ p ∈ vagas, p.2.id = vaga.2.id → p = vaga) :
    Runs.Forces (step env) (Jogada t loc) (Formulario s.app.view fun r =>
      ∃ hoje, r = RequestViewController.viewDidLoad (some vaga.2) vaga.1 hoje) s := by
  refine .of_step (.requestPark hs hh.visivel) ⟨_, 0, rfl⟩ ?_
  rintro e ⟨hoje, rfl⟩
  obtain ⟨a, hprepare, hvaga⟩ := hh.prepare hv hids hid hunica
  have hpede : s.app.home.requestPark .seguePrimeiro =
      some (s.app.home.goToStep 1, a, some vaga) := by
    simp [Home.requestPark, hprepare]
  have hhome : s.app.home.step env (.requestPark .seguePrimeiro) =
      some (s.app.home.goToStep 1) := by
    simp [Home.step, hh.visivel, hpede]
  have hsegue : s.app.segue hoje (.requestPark .seguePrimeiro) =
      s.app.pedido.abrir (some vaga.2) vaga.1 hoje := by
    simp [App.segue, hh.visivel, hpede, hvaga]
  refine ⟨_, step_home hhome hoje, hs.1, rfl, ?_, ?_⟩
  · show (s.app.segue hoje _).checkout = none
    rw [hsegue]
    rfl
  · refine ⟨RequestViewController.viewDidLoad (some vaga.2) vaga.1 hoje, ?_, hoje, rfl⟩
    show (s.app.segue hoje _).request = _
    rw [hsegue]
    rfl

/-- The driver can edit a field. -/
lemma Formulario.edita {campos : Request → Prop} (hs : s.Formulario antes campos)
    {e : Pedido.Event} {f : Request → Request}
    (he : ∀ view p, Pedido.step view p e = some (.none, p.editar f))
    (hE : s.NoPedido → Jogada t loc s {.app (.pedido e)}) :
    Runs.Forces (step env) (Jogada t loc)
      (Formulario antes fun r' => ∃ r, campos r ∧ r' = f r) s := by
  refine .of_step (hE hs.noPedido) (Set.singleton_nonempty _) ?_
  rintro _ rfl
  obtain ⟨r, hr, hcampos⟩ := hs.request
  have heditar : s.app.pedido.step s.app.view e =
      some (.none, { s.app.pedido with request := some (f r) }) := by
    rw [he]
    simp [Pedido.editar, hs.checkout, Option.mem_def.mp hr]
  exact ⟨_, step_pedido heditar, hs.frente, (view_comPedido _ _ _).trans hs.view, hs.checkout, f r,
    rfl, r, hcampos, rfl⟩

/-- The checkout is in front with these attributes, and a card. -/
structure Pagamento (antes : Store) (dados : Checkout → Prop) (s : Aprovacoes) : Prop where
  noPedido : s.NoPedido
  view : s.app.view = antes
  checkout : ∃ c ∈ s.app.pedido.checkout, dados c ∧ c.validaCartao = true

/-- The form as the driver fills it. -/
def preenche (marca modelo placa : String) (n : ℕ) (r : Request) : Request :=
  RequestViewController.definirHora
    { r with lblMarca := marca, lblModelo := modelo, lblPlaca := placa } n

/-- The driver can fill the form and go on to the payment. -/
lemma forces_pagamento {campos : Request → Prop} (hs : s.Formulario antes campos)
    (hcartao : antes.cartoes.rows ≠ []) (marca modelo placa : String) {n : ℕ} (hn : n ≤ 100) :
    Runs.Forces (step env) (Jogada t loc) (Pagamento antes fun c => ∃ r, campos r ∧
      c = { RequestViewController.prepare (preenche marca modelo placa n r) with
        validaCartao := true }) s := by
  refine (hs.edita (fun _ _ => rfl) fun h => .marca h marca).trans fun s hs => ?_
  refine (hs.edita (fun _ _ => rfl) fun h => .modelo h modelo).trans fun s hs => ?_
  refine (hs.edita (fun _ _ => rfl) fun h => .placa h placa).trans fun s hs => ?_
  refine (hs.edita (f := (RequestViewController.definirHora · n))
    (fun _ _ => by simp [Pedido.step, hn]) fun h => .definirHora h n).trans fun s hs => ?_
  refine .of_step (.prosseguir hs.noPedido) ⟨_, .acaoPrimeiro, rfl⟩ ?_
  rintro e ⟨ordem, rfl⟩
  obtain ⟨_, hr, _, ⟨_, ⟨_, ⟨r, hcampos, rfl⟩, rfl⟩, rfl⟩, rfl⟩ := hs.request
  set r' := preenche marca modelo placa n r with hr'
  obtain ⟨p, hprosseguir, hrequest, hcheckout⟩ : ∃ p,
      s.app.pedido.step s.app.view (.prosseguir ordem true) = some (.none, p) ∧
        p.request = some r' ∧ p.checkout =
          some { RequestViewController.prepare r' with validaCartao := true } := by
    -- an empty field shows an alert, and the segue opens the checkout nevertheless
    refine ⟨s.app.pedido.prosseguir s.app.view r' ordem true, ?_, ?_, ?_⟩
    · simp [Pedido.step, hs.checkout, Option.mem_def.mp hr, hr', preenche]
    · unfold Pedido.prosseguir
      split <;> exact hr
    · have hvalida : (!s.app.view.cartoes.rows.isEmpty) = true := by simpa [hs.view] using hcartao
      unfold Pedido.prosseguir CheckoutVagaViewController.viewDidLoad
      split <;> simp [hvalida]
  exact ⟨_, step_pedido hprosseguir, ⟨hs.frente, by simp [comPedido, hrequest]⟩,
    (view_comPedido _ _ _).trans hs.view, _, hcheckout, ⟨r, hcampos, rfl⟩, rfl⟩

/-- The request is inserted, and its query is in flight. -/
structure Inserida (antes : Store) (dados : Checkout → Prop) (s : Aprovacoes) : Prop where
  naHome : s.NaHome
  view : s.app.view = { antes with requisicoes := antes.requisicoes.insert .nova }
  emVoo : ∃ k : ℕ, ∃ q ∈ s.app.pedido.consultas[k]?,
    q.objUpdate = antes.requisicoes.next ∧ dados q.checkout

/-- The driver can confirm the checkout. -/
lemma Pagamento.confirma {dados : Checkout → Prop} (hs : s.Pagamento antes dados) :
    Runs.Forces (step env) (Jogada t loc) (Inserida antes dados) s := by
  refine .of_step (.confirmar hs.noPedido) ⟨_, "", rfl⟩ ?_
  rintro e ⟨userID, rfl⟩
  obtain ⟨c, hc, hdados, hvalida⟩ := hs.checkout
  have hconfirma : s.app.pedido.step s.app.view (.confirmar (some userID)) =
      some (⟨[.insertRequisicao], none⟩, { s.app.pedido with
        request := none
        checkout := none
        consultas := s.app.pedido.consultas ++ [⟨s.app.view.requisicoes.next, c, userID⟩]
        alerta := some CheckoutVagaViewController.alertaSucesso }) := by
    simp [Pedido.step, Option.mem_def.mp hc, Pedido.confirmar, hvalida]
  refine ⟨_, step_pedido hconfirma, ⟨hs.noPedido.1, rfl⟩, ?_, s.app.pedido.consultas.length,
    ⟨s.app.view.requisicoes.next, c, userID⟩, by simp [comPedido], by rw [hs.view], hdados⟩
  rw [view_comPedido, hs.view]
  rfl

/-- The request is filled as `r`, and no other has changed. -/
structure Preenchida (antes : Store) (k : ObjectID) (r : Requisicao) (s : Aprovacoes) : Prop where
  vagas : s.app.view.vagas = antes.vagas
  outras : ∀ p ∈ antes.requisicoes.rows, p ∈ s.app.view.requisicoes.rows
  nova : ∀ p ∈ antes.requisicoes.rows, p.1 ≠ k
  linha : (k, r) ∈ s.app.view.requisicoes.rows

variable {k : ObjectID} {r : Requisicao}

/-- The screens do not matter for that. -/
lemma Preenchida.of_view_eq (h : s.Preenchida antes k r) {s' : Aprovacoes}
    (hview : s'.app.view = s.app.view) : s'.Preenchida antes k r := by
  constructor
  · rw [hview]
    exact h.vagas
  · rw [hview]
    exact h.outras
  · exact h.nova
  · rw [hview]
    exact h.linha

/-- Firebase can answer it. -/
lemma Inserida.responde {dados : Checkout → Prop} (hs : s.Inserida antes dados) :
    Runs.Forces (step env) (Jogada t loc) (fun s' => s'.NaHome ∧ ∃ c firstname, dados c ∧
      s'.Preenchida antes antes.requisicoes.next
        (CheckoutVagaViewController.preencher c firstname)) s := by
  obtain ⟨k, q, hq, hobj, hdados⟩ := hs.emVoo
  refine .of_step (.firebase k) ⟨_, none, rfl⟩ ?_
  rintro e ⟨firstname, rfl⟩
  set r := CheckoutVagaViewController.preencher q.checkout firstname with hr
  set p : Pedido := { s.app.pedido with
    consultas := s.app.pedido.consultas.eraseIdx k
    entregas := s.app.pedido.entregas ++ [⟨q, .dicionario firstname, true⟩] }
  have hresponde : s.app.pedido.step s.app.view (.firebase k (.dicionario firstname) true) =
      some (⟨[.setRequisicao antes.requisicoes.next r], some true⟩, p) := by
    simp only [Pedido.step, Option.mem_def.mp hq, Pedido.firebaseCallback, hobj]
    rfl
  have hnova : ∀ p ∈ antes.requisicoes.rows, p.1 ≠ antes.requisicoes.next :=
    fun p hp => (antes.requisicoes.lt_next p hp).ne
  have hview : (s.comPedido ⟨[.setRequisicao antes.requisicoes.next r], some true⟩ p).app.view =
      { antes with requisicoes :=
          (antes.requisicoes.insert .nova).modify antes.requisicoes.next fun _ => r } := by
    rw [view_comPedido, hs.view]
    rfl
  refine ⟨_, step_pedido hresponde, ⟨hs.naHome.1, hs.naHome.2⟩, q.checkout, firstname, hdados,
    ?_, fun p hp => ?_, hnova, ?_⟩
  · rw [hview]
  · rw [hview]
    exact ObjectTable.mem_modify_of_ne (ObjectTable.mem_insert.mpr (.inl hp)) (hnova p hp) _
  · rw [hview]
    exact ObjectTable.mem_modify_self (ObjectTable.mem_insert.mpr (.inr rfl)) _

/-! ## The approval -/

/-- The approvals list is in front, with the request. -/
structure NaLista (antes : Store) (k : ObjectID) (r : Requisicao) (row : ℕ) (s : Aprovacoes) :
    Prop where
  frente : s.frente = .lista
  preenchida : s.Preenchida antes k r
  linha : s.app.confirmacao.lista.requisicoes[row]? = some (k, r)
  vagas : s.app.confirmacao.lista.vagas.Perm antes.vagas.rows

/-- The owner can open the approvals list. -/
lemma Preenchida.abre (hs : s.Preenchida antes k r) (hhome : s.NaHome)
    (hestado : r.estado = some "Pendente") :
    Runs.Forces (step env) (Jogada t loc) (fun s' => ∃ row, s'.NaLista antes k r row) s := by
  refine .of_step (.abrir hhome) ⟨_, [], [], rfl⟩ ?_
  rintro e ⟨ordem, ordemVaga, rfl⟩
  have habre : step env s (.abrir (some ordem) (some ordemVaga)) = _ :=
    (if_pos hhome.1).trans
      (step_aparece (s := s.novaLista) hhome.1 (some ordem) (some ordemVaga))
  obtain ⟨row, hrow⟩ : ∃ row : ℕ, ((s.app.view.requisicoes.fetch ordem).rows.filter fun r =>
      (r.2.estado.map contemPendente).getD false)[row]? = some (k, r) := by
    refine List.mem_iff_getElem?.mp (List.mem_filter.mpr ⟨ObjectTable.mem_fetch.mpr hs.linha, ?_⟩)
    rw [hestado]
    decide +kernel
  refine ⟨_, habre, row, rfl, hs.of_view_eq rfl, hrow, ?_⟩
  refine (ObjectTable.fetch_perm s.app.view.vagas ordemVaga).trans ?_
  rw [hs.vagas]

/-- The list can render its row. -/
lemma NaLista.renderiza {row : ℕ} (hs : s.NaLista antes k r row) (hdata : r.data.isSome)
    {vaga : ObjectID × Vaga} (hv : vaga ∈ antes.vagas.rows)
    (hid : r.idConfirmacao = vaga.2.chaveConfirmacao) :
    Runs.Forces (step env) (Jogada t loc) (fun s' => s'.NaLista antes k r row ∧
      s'.app.confirmacao.lista.vagaSelec.isSome) s := by
  refine .of_step (.render row) (Set.singleton_nonempty _) ?_
  rintro e rfl
  obtain ⟨u, hu⟩ : ∃ u, ListaConfirmacoes.buscaVaga r.idConfirmacao
      s.app.confirmacao.lista.vagas = some u := by
    rw [ListaConfirmacoes.buscaVaga_eq_find?, ← Option.isSome_iff_exists, List.find?_isSome]
    exact ⟨vaga, hs.vagas.mem_iff.mpr hv, by simpa using hid⟩
  obtain ⟨data, hdata⟩ := Option.isSome_iff_exists.mp hdata
  have hrender : s.app.confirmacao.lista.render row =
      some { s.app.confirmacao.lista with vagaSelec := some u } := by
    simp [ListaConfirmacoes.render, ListaConfirmacoes.cellForRowAt, hs.linha, hu, hdata]
  refine ⟨{ s with app := { s.app with confirmacao := { s.app.confirmacao with
      lista := { s.app.confirmacao.lista with vagaSelec := some u } } } }, ?_, ?_, rfl⟩
  · simp [step, passa, hs.frente, App.step, App.opera, Confirmacao.step, hrender]
  · exact ⟨hs.frente, hs.preenchida.of_view_eq rfl, hs.linha, hs.vagas⟩

/-- The screen of the request is in front. -/
structure NaTela (antes : Store) (k : ObjectID) (r : Requisicao) (s : Aprovacoes) : Prop where
  frente : s.frente = .confirmar
  preenchida : s.Preenchida antes k r
  aberta : ∃ v, s.app.confirmacao.aberta = some (k, v)

/-- The owner can open the request. -/
lemma NaLista.seleciona {row : ℕ} (hs : s.NaLista antes k r row)
    (hselec : s.app.confirmacao.lista.vagaSelec.isSome) (hdata : r.data.isSome) :
    Runs.Forces (step env) (Jogada t loc) (NaTela antes k r) s := by
  refine .of_step (.selecionar row) (Set.singleton_nonempty _) ?_
  rintro e rfl
  obtain ⟨u, hu⟩ := Option.isSome_iff_exists.mp hselec
  obtain ⟨data, hdata⟩ := Option.isSome_iff_exists.mp hdata
  have hprepare : s.app.confirmacao.lista.prepare row = some ((k, r), u) := by
    simp [ListaConfirmacoes.prepare, hs.linha, hu]
  refine ⟨{ s with
    frente := .confirmar
    app := { s.app with confirmacao := { s.app.confirmacao with aberta := some (k, u.1) } } }, ?_,
    rfl, hs.preenchida.of_view_eq rfl, u.1, rfl⟩
  simp [step, passa, hs.frente, App.step, App.opera, Confirmacao.step, hprepare,
    ConfirmarVagaViewController.viewDidLoad, hdata]

/-- The request is approved on disk, and the others are there as they were. -/
structure Aprovada (antes : Store) (k : ObjectID) (r : Requisicao) (s : Aprovacoes) : Prop where
  outras : ∀ p ∈ antes.requisicoes.rows, p ∈ s.app.persisted.requisicoes.rows
  nova : ∀ p ∈ antes.requisicoes.rows, p.1 ≠ k
  linha : (k, { r with estado := some "Aprovado" }) ∈ s.app.persisted.requisicoes.rows

/-- The owner can approve it. -/
lemma NaTela.aprova (hs : s.NaTela antes k r) :
    Runs.Forces (step env) (Jogada t loc) (Aprovada antes k r) s := by
  refine .of_step .aprovar (Set.singleton_nonempty _) ?_
  rintro e rfl
  obtain ⟨v, hv⟩ := hs.aberta
  set salva : Write Change := ⟨[.setEstado k "Aprovado"], some true⟩ with hsalva
  set s' : Aprovacoes := ⟨{ s.app with
    confirmacao := { s.app.confirmacao with
      alerta := some ConfirmarVagaViewController.alertaAprovada }
    ctx := s.app.ctx.exec salva }, .alerta, s.atualizada⟩ with hs'
  have hstep : step env s (.aprovar true) = some s' := by
    simp [step, passa, hs.frente, App.step, App.opera, Confirmacao.step, hv,
      ConfirmarVagaViewController.save, hs', hsalva]
  have hdisco : s'.app.persisted.requisicoes =
      s.app.view.requisicoes.modify k fun r => { r with estado := some "Aprovado" } :=
    congrArg Store.requisicoes (ManagedContext.persisted_exec_of_saves s.app.ctx (w := salva) rfl)
  refine ⟨s', hstep, fun p hp => ?_, hs.preenchida.nova, ?_⟩
  · rw [hdisco]
    exact ObjectTable.mem_modify_of_ne (hs.preenchida.outras p hp) (hs.preenchida.nova p hp) _
  · rw [hdisco]
    exact ObjectTable.mem_modify_self hs.preenchida.linha _

/-! ## From any state -/

/-- A Requisicao is for `n` hours of the Vaga, at its price. -/
structure Confere (vaga : Vaga) (veiculo placa : String) (n : ℕ) (r : Requisicao) : Prop where
  data : r.data.isSome
  id : r.id = some vaga.chaveConfirmacao
  veiculo : r.veiculo = some veiculo
  placa : r.placa = some placa
  qtdHoras : r.qtdHoras = some (.ofNat n)
  valorTotal : r.valorTotal = vaga.valor.map (·.mul (.ofNat n))

/-- What the answer of Firebase fills for the form of the driver. -/
lemma confere_preencher {vaga : Vaga} (hv : vaga.Integra) (escolhida : ObjectID) (hoje : Date)
    (marca modelo placa : String) (n : ℕ) (firstname : Option String) :
    Confere vaga s!"{marca} {modelo}" placa n (CheckoutVagaViewController.preencher
      { RequestViewController.prepare (preenche marca modelo placa n
          (RequestViewController.viewDidLoad (some vaga) escolhida hoje)) with
        validaCartao := true } firstname) where
  data := rfl
  id := congrArg some hv.chaveRequest
  veiculo := rfl
  placa := rfl
  qtdHoras := rfl
  valorTotal := by
    obtain ⟨valor, hvalor⟩ := Option.isSome_iff_exists.mp hv.valor
    simp [CheckoutVagaViewController.preencher, RequestViewController.prepare, preenche,
      RequestViewController.definirHora, RequestViewController.viewDidLoad, hvalor]

/-- A request for `n` hours of the Vaga is approved on disk, beside the Requisicoes there were. -/
structure Atendida (antes : Store) (vaga : Vaga) (veiculo placa : String) (n : ℕ) (s : Aprovacoes) :
    Prop where
  outras : ∀ p ∈ antes.requisicoes.rows, p ∈ s.app.persisted.requisicoes.rows
  nova : ∃ k r, (∀ p ∈ antes.requisicoes.rows, p.1 ≠ k) ∧
    (k, r) ∈ s.app.persisted.requisicoes.rows ∧ Confere vaga veiculo placa n r ∧
      r.estado = some "Aprovado"

/-- From every state that the invariants allow the users can have the Vaga requested and the request
approved. -/
lemma forces_atendida (ht : t ≠ "") (hpronta : s.app.Pronta)
    (hb : s.app.home.bandeiras.Coerentes) {vaga : ObjectID × Vaga}
    (hvaga : s.app.Oferecida env loc vaga) (marca modelo placa : String) {n : ℕ} (hn : n ≤ 100) :
    Runs.Forces (step env) (Jogada t loc)
      (Atendida s.app.view vaga.2 s!"{marca} {modelo}" placa n) s := by
  have hintegra : ∀ p ∈ s.app.view.vagas.rows, p.2.Integra :=
    fun p hp => (hpronta.formada.view.vagas p hp).integra
  have hv := hintegra vaga hvaga.guardada
  set antes := s.app.view
  -- back on Home, over the same store
  have hnaHome : Runs.Forces (step env) (Jogada t loc)
      (fun s' => s'.NaHome ∧ s'.app.view = antes ∧ s'.app.home = s.app.home) s := by
    refine (forces_fora s).trans ?_
    rintro s' ⟨hf, hctx, hhome, -⟩
    refine (forces_naHome hf).imp ?_
    rintro s'' ⟨hs'', hctx', hhome'⟩
    exact ⟨hs'', congrArg ManagedContext.view (hctx'.trans hctx), hhome'.trans hhome⟩
  -- the garage in the third step
  have hescolhido : Runs.Forces (step env) (Jogada t loc)
      (fun s' => s'.NaHome ∧ s'.app.view = antes ∧
        s'.app.home.Escolhido antes.vagas.rows vaga) s := by
    refine hnaHome.trans ?_
    rintro s' ⟨hs', hview, hhome⟩
    refine (forces_escolhido ht hs' (hhome ▸ hb) (fun p hp => ?_) ?_ hvaga.perto).imp ?_
    · rw [hview] at hp
      exact (hintegra p hp).posicao
    · rw [hview]
      exact hvaga.guardada
    · rintro s'' ⟨h, hh, rfl⟩
      exact ⟨hs'.comHome h, hview, hview ▸ hh⟩
  -- its request, filled and confirmed
  have hinserida : Runs.Forces (step env) (Jogada t loc) (Inserida antes fun c => ∃ r,
      (∃ hoje, r = RequestViewController.viewDidLoad (some vaga.2) vaga.1 hoje) ∧
        c = { RequestViewController.prepare (preenche marca modelo placa n r) with
          validaCartao := true }) s := by
    refine hescolhido.trans ?_
    rintro s' ⟨hs', hview, hh⟩
    have hformulario : Runs.Forces (step env) (Jogada t loc) (Formulario s'.app.view fun r =>
        ∃ hoje, r = RequestViewController.viewDidLoad (some vaga.2) vaga.1 hoje) s' :=
      forces_formulario hs' hh hvaga.guardada (fun p hp => (hintegra p hp).id) hvaga.id hvaga.unica
    rw [hview] at hformulario
    exact (hformulario.trans fun s hs =>
      forces_pagamento hs hvaga.cartao marca modelo placa hn).trans fun s hs => hs.confirma
  -- its answer, and the approval
  refine (hinserida.trans fun s hs => hs.responde).trans ?_
  rintro s' ⟨hs', c, firstname, ⟨r, ⟨hoje, rfl⟩, rfl⟩, hpreenchida⟩
  have hconfere := confere_preencher hv vaga.1 hoje marca modelo placa n firstname
  set r := CheckoutVagaViewController.preencher
    { RequestViewController.prepare (preenche marca modelo placa n
        (RequestViewController.viewDidLoad (some vaga.2) vaga.1 hoje)) with
      validaCartao := true } firstname
  have haprovada : Runs.Forces (step env) (Jogada t loc)
      (Aprovada antes antes.requisicoes.next r) s' := by
    refine (hpreenchida.abre hs' rfl).trans ?_
    rintro s ⟨row, hlista⟩
    exact ((hlista.renderiza hconfere.data hvaga.guardada hv.chaveRequest).trans fun s hs =>
      hs.1.seleciona hs.2 hconfere.data).trans fun s hs => hs.aprova
  exact haprovada.imp fun s hs => ⟨hs.outras, antes.requisicoes.next, _, hs.nova, hs.linha,
    ⟨hconfere.data, hconfere.id, hconfere.veiculo, hconfere.placa, hconfere.qtdHoras,
      hconfere.valorTotal⟩, rfl⟩

/-- The flags of Home make sense together in every run, restarts included. -/
lemma coerentes_throughout (env : Ambiente) (es : List Event) :
    Runs.Throughout (step env) (fun s => s.app.home.bandeiras.Coerentes) es inicial := by
  have hvista : Runs.Throughout (step env)
      (fun s => ∃ v : Vista, s.app.home.bandeiras = v.bandeiras) es inicial := by
    refine throughout_app (P := fun a => ∃ v : Vista, a.home.bandeiras = v.bandeiras)
      ⟨_, Home.bandeiras_viewDidLoad⟩ (fun _ _ ha => ha) ?_
      (fun _ _ => ⟨_, Home.bandeiras_viewDidLoad⟩) es
    rintro a e a' ⟨v, hv⟩ h
    obtain ⟨w, b, hb, rfl⟩ := App.step_eq_some_iff.mp h
    obtain heq | ⟨e', he'⟩ := App.home_of_opera hb
    · exact ⟨v, (congrArg Home.bandeiras heq).trans hv⟩
    · obtain ⟨v', -, hv'⟩ := Home.vista_step hv he'
      exact ⟨v', hv'⟩
  apply hvista.imp
  rintro s ⟨v, hv⟩
  rw [hv]
  exact v.coerentes

/-- **A garage that is stored can be had.** In every state of every run from launch, restarts and
failed saves included, whatever the screens show and whatever is in flight: for a Vaga near a place,
stored with the key of its address and alone with it, while a card is stored, the driver and the
owner can force that the Vaga is requested, with a car and hours of their choice, and the request
approved on disk for those hours of its price. They choose their moves and nothing else: the order
of the objects in a fetch, the other suggestions, the profile and the days are not theirs. The one
choice `Jogada` makes for them is that the segue of the request button fires before its action; with
the action first that press traps. Under it no move traps, and no Requisicao the context had is
lost.

**Proof sketch.** The stage rule, with a stage for each screen: back to the first step of Home,
which the coherent flags allow, the text, its suggestions, the search among the stored Vagas, which
have positions, the list, the third step, the form, the checkout, the insertion, the answer, the
approvals list with a row rendered, and the decision. -/
theorem atendida_throughout (env : Ambiente) (es : List Event) :
    Runs.Throughout (step env) (fun s => ∀ loc vaga, s.app.Oferecida env loc vaga →
      ∀ (t marca modelo placa : String) (n : ℕ), t ≠ "" → n ≤ 100 →
        Runs.Forces (step env) (Jogada t loc)
          (Atendida s.app.view vaga.2 s!"{marca} {modelo}" placa n) s) es inicial := by
  have hpronta : Runs.Throughout (step env) (fun s => s.app.Pronta) es inicial :=
    .of_step (fun _ _ _ hs h => pronta_step hs h) pronta_inicial
  apply (hpronta.and (coerentes_throughout env es)).imp
  rintro s ⟨hs, hb⟩ loc vaga hvaga t marca modelo placa n ht hn
  exact forces_atendida ht hs hb hvaga marca modelo placa hn

/-- After the owner has offered the garage and the driver registered a card, some run has it
requested for two hours and the request approved. -/
theorem exists_run_atendida :
    ∃ s ∈ Runs.run (step Home.ambiente) ((App.oferta ++ App.cadastro).map .app) inicial,
      ∃ vaga, s.app.Oferecida Home.ambiente App.posicao vaga ∧
        ∃ es, ∃ s' ∈ Runs.run (step Home.ambiente) es s,
          Atendida s.app.view vaga.2 ("Fiat" ++ " " ++ "Uno") "AAA-0001" 2 s' := by
  obtain ⟨s, hs, vaga, -, hvaga⟩ :
      ∃ s ∈ Runs.run (step Home.ambiente) ((App.oferta ++ App.cadastro).map .app) inicial,
        ∃ vaga ∈ s.app.view.vagas.rows, s.app.Oferecida Home.ambiente App.posicao vaga := by
    decide +kernel
  have hforces := Runs.throughout_iff_forall_prefix.mp (atendida_throughout Home.ambiente _) _ [] s
    (List.append_nil _).symm hs
  exact ⟨s, hs, vaga, hvaga, (hforces App.posicao vaga hvaga "Rua A" "Fiat" "Uno" "AAA-0001" 2
    (by decide) (by decide)).exists_run⟩

end Aprovacoes

end Parken
