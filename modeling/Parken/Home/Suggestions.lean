import Parken.Home.Map

set_option relaxedAutoImplicit false
set_option autoImplicit false

/-!
# The suggestions

Every change of the search text to a non-empty one issues a suggestion request, and none is ever
cancelled. An answer with a list overwrites the suggestions, whichever request it answers.

The requests are numbered in the order they are issued. `Digitacao` adds to the screen the answers
delivered so far, which the program does not keep.

## Main definitions

* `Parken.Pesquisa`, `Parken.Home.Sugere` — the search, and what an event does to it.
* `Parken.Digitacao`, `Parken.Digitacao.step` — the screen with the answers delivered.
* `Parken.Digitacao.Fresca` — the suggestions are those of the last request.
* `Parken.Digitacao.AtrasadaIgual` — the condition on a late answer.

## Main results

* `Parken.Digitacao.Contada.step` — each request issued is in flight or answered, exactly once.
* `Parken.Digitacao.mostrada_iff_atrasadaIgual` — the list of the last request stays shown exactly
  in the runs whose late answers bring the same list.
* `Parken.Digitacao.fresca_of_atrasadaIgual` — the suggestions are those of the last request in
  every run without a late answer that has another list.
* `Parken.Digitacao.not_fresca_late_answer` — two answers in the wrong order.
-/

namespace Parken

/-- The search text, the requests for suggestions and what they show. -/
structure Pesquisa where
  searchText : String
  consultas : ℕ
  sugestoes : List (ℕ × String)
  suggestAddressList : List Suggestion

/-- The search of a screen. -/
def Home.pesquisa (h : Home) : Pesquisa where
  searchText := h.searchText
  consultas := h.consultas
  sugestoes := h.sugestoes
  suggestAddressList := h.suggestAddressList

namespace Home

variable {env : Ambiente}

/-! ### The functions of the screen on the search -/

/-- A tap on a suggestion leaves the search. -/
lemma pesquisa_selectSuggest (h : Home) (t : TableView) :
    ({ h with suggestAddressTable := t } : Home).pesquisa = h.pesquisa := rfl

@[simp] lemma pesquisa_goToStep_one (h : Home) : (h.goToStep 1).pesquisa = h.pesquisa := by
  rw [goToStep_one_eq]
  rfl

@[simp] lemma pesquisa_setFavoriteSelectedIcon (h : Home) (addressName : String) (b : Bool) :
    (h.setFavoriteSelectedIcon addressName b).pesquisa = h.pesquisa := by
  obtain ⟨_, _, _, heq⟩ := exists_setFavoriteSelectedIcon h addressName b
  rw [heq]
  rfl

@[simp] lemma pesquisa_addParkingFound (h : Home) (p : PedidoEndereco) (ok : Bool) :
    (h.addParkingFound env p ok).pesquisa = h.pesquisa := by
  obtain ⟨_, _, _, _, heq⟩ := exists_addParkingFound env h p ok
  rw [heq]
  rfl

/-- A new destination empties the text and the suggestions. -/
lemma pesquisa_showDestination (h : Home) (addressTitle : String)
    (geoCoordinates : GeoCoordinates) : (h.showDestination addressTitle geoCoordinates).pesquisa =
      { h.pesquisa with searchText := "", suggestAddressList := [] } := by
  rw [showDestination_eq]
  rfl

/-- The fetch and the reverse geocodings of a new destination leave the search. -/
lemma pesquisa_loadParkingLocateNear {h h' : Home} {addressTitle : String}
    {geoCoordinates : GeoCoordinates} {fetch : Option (Fetched Vaga)}
    (hs : h.loadParkingLocateNear env addressTitle geoCoordinates fetch = some h') :
    h'.pesquisa = { h.pesquisa with searchText := "", suggestAddressList := [] } := by
  rw [← pesquisa_showDestination h addressTitle geoCoordinates]
  obtain ⟨_, _, rfl⟩ := exists_loadParkingLocateNear hs
  rfl

/-! ### What a step does to the search -/

/-- The search after an event. -/
inductive Sugere (h : Home) (e : Event) (h' : Home) : Prop where
  /-- Nothing is issued, answered or shown. -/
  | mantem (he : ∀ k resposta, e = .suggestCallback k resposta → h.sugestoes[k]? = none)
      (hp : h'.pesquisa = h.pesquisa)
  /-- The text is emptied. -/
  | limpa (he : ∀ k resposta, e = .suggestCallback k resposta → h.sugestoes[k]? = none)
      (l : List Suggestion)
      (hp : h'.pesquisa = { h.pesquisa with searchText := "", suggestAddressList := l })
  /-- A request is issued for the new text. -/
  | emite (he : ∀ k resposta, e = .suggestCallback k resposta → h.sugestoes[k]? = none)
      (searchText : String)
      (hp : h'.pesquisa = { h.pesquisa with
        searchText := searchText
        consultas := h.consultas + 1
        sugestoes := h.sugestoes ++ [(h.consultas, searchText)] })
  /-- A request is answered: a list takes the place of the suggestions. -/
  | responde {k : ℕ} {q : ℕ × String} (resposta : Option (List Suggestion))
      (he : e = .suggestCallback k resposta) (hq : h.sugestoes[k]? = some q)
      (hp : h'.pesquisa = { h.pesquisa with
        sugestoes := h.sugestoes.eraseIdx k
        suggestAddressList := resposta.getD h.suggestAddressList })

/-- A new text issues a request, or empties the search. -/
lemma sugere_searchAddress {h : Home} {e : Event} {searchText : String} (t : TableView)
    (he : ∀ k resposta, e = .suggestCallback k resposta → h.sugestoes[k]? = none) :
    Sugere h e ({ h with
      favoriteAddressTable := t
      searchText := searchText }.searchAddress searchText) := by
  by_cases ht : searchText.isEmpty = true
  · obtain rfl := String.isEmpty_iff.mp ht
    exact .limpa he h.suggestAddressList rfl
  · refine .emite he searchText ?_
    simp [searchAddress, ht, maximizeDealModal, pesquisa]

/-- **The search in one step.** A step leaves the search, empties its text, issues a request for a
new one, or answers a request. -/
theorem sugere_step {h h' : Home} {e : Event} (hs : step env h e = some h') : Sugere h e h' := by
  cases passo_of_step hs with
  | ignora _ hk _ _ _ _ => exact .mantem hk rfl
  | textDidChange searchText => exact sugere_searchAddress h.favoriteAddressTable (by simp)
  | @suggestCallback k q resposta hq =>
    refine .responde resposta rfl hq ?_
    cases resposta <;> rfl
  | semCoordenadas fetch hrow ha hc => exact .mantem (by simp) rfl
  | destino fetch hrow ha hc hs =>
    have hp := pesquisa_loadParkingLocateNear hs
    rw [pesquisa_selectSuggest] at hp
    exact .limpa (by simp) [] hp
  | favoriteSelect hrow ha => exact sugere_searchAddress _ (by simp)
  | parkingSelect hrow hp => exact .mantem (by simp) rfl
  | geocodeCallback ok hp => exact .mantem (by simp) (pesquisa_addParkingFound ..)
  | maximiza => exact .mantem (by simp) rfl
  | minimiza he => exact .mantem (by rcases he with rfl | rfl <;> simp) rfl
  | toggleFavorite => exact .mantem (by simp) (pesquisa_setFavoriteSelectedIcon ..)
  | backToFirstStep => exact .mantem (by simp) (pesquisa_goToStep_one h)
  | backToSecondStep => exact .limpa (by simp) [] rfl
  | requestPark ht hr => exact .mantem (by simp) (pesquisa_goToStep_one h)
  | userLocate position => exact .mantem (by simp) rfl

/-- The answer an event delivers, with the number of its request. -/
def respostaDe (h : Home) : Event → List (ℕ × Option (List Suggestion))
  | .suggestCallback k resposta => (h.sugestoes[k]?.map fun q => (q.1, resposta)).toList
  | _ => []

/-- An event that answers no request delivers nothing. -/
lemma respostaDe_eq_nil {h : Home} {e : Event}
    (he : ∀ k resposta, e = .suggestCallback k resposta → h.sugestoes[k]? = none) :
    h.respostaDe e = [] := by
  cases e with
  | suggestCallback k resposta => simp [respostaDe, he k resposta rfl]
  | _ => rfl

end Home

/-! ## The answers delivered -/

/-- The screen with the answers delivered so far, each with the number of its request. -/
structure Digitacao where
  home : Home
  respostas : List (ℕ × Option (List Suggestion))

namespace Digitacao

variable {env : Ambiente}

/-- The screen at launch. -/
def inicial : Digitacao := ⟨Home.viewDidLoad, []⟩

/-- One event of the screen. -/
def step (env : Ambiente) (d : Digitacao) (e : Home.Event) : Option Digitacao :=
  (d.home.step env e).map fun h => ⟨h, d.respostas ++ d.home.respostaDe e⟩

/-- Once no request is in flight, a non-empty text shows the list the last request was answered
with, if it was answered with a list. -/
def Fresca (d : Digitacao) : Prop :=
  d.home.sugestoes = [] → d.home.searchText ≠ "" →
    ∀ r ∈ d.respostas, r.1 + 1 = d.home.consultas →
      ∀ items ∈ r.2, d.home.suggestAddressList = items

instance (d : Digitacao) : Decidable d.Fresca :=
  inferInstanceAs (Decidable (_ → _ → ∀ r ∈ d.respostas, _ → ∀ items ∈ r.2, _ = items))

/-- The condition on an answer: a list for an earlier request, delivered after the last request
was answered with a list and before the text is emptied, is the list shown. -/
def AtrasadaIgual (d : Digitacao) : Home.Event → Prop
  | .suggestCallback k (some items) =>
    ∀ q ∈ d.home.sugestoes[k]?, d.home.searchText ≠ "" →
      (∃ r ∈ d.respostas, r.1 + 1 = d.home.consultas ∧ r.2.isSome) →
        items = d.home.suggestAddressList
  | _ => True

instance (d : Digitacao) : ∀ e, Decidable (d.AtrasadaIgual e)
  | .suggestCallback k (some items) =>
    inferInstanceAs (Decidable (∀ q ∈ d.home.sugestoes[k]?, d.home.searchText ≠ "" →
      (∃ r ∈ d.respostas, r.1 + 1 = d.home.consultas ∧ r.2.isSome) →
        items = d.home.suggestAddressList))
  | .suggestCallback _ none | .textDidChange _ | .suggestSelect _ _ | .favoriteSelect _
  | .parkingSelect _ | .geocodeCallback _ _ | .togglePopup | .dismissPopup | .toggleFavorite
  | .backToFirstStep | .backToSecondStep | .requestPark _ | .userLocate _ => .isTrue trivial

/-- Each request issued is in flight or answered, exactly once. -/
def Contada (d : Digitacao) : Prop :=
  (d.home.sugestoes.map Prod.fst ++ d.respostas.map Prod.fst).Perm
    (List.range d.home.consultas)

/-- The suggestions are those of the last request as soon as it is answered. -/
def Mostrada (d : Digitacao) : Prop :=
  d.home.searchText ≠ "" → ∀ r ∈ d.respostas, r.1 + 1 = d.home.consultas →
    ∀ items ∈ r.2, d.home.suggestAddressList = items

/-! ### One step -/

/-- A request in flight is one of those issued. -/
lemma Contada.lt {d : Digitacao} (hd : Contada d) :
    (∀ q ∈ d.home.sugestoes, q.1 < d.home.consultas) ∧
      ∀ r ∈ d.respostas, r.1 < d.home.consultas := by
  have hlt (n : ℕ) (hn : n ∈ d.home.sugestoes.map Prod.fst ++ d.respostas.map Prod.fst) :
      n < d.home.consultas := List.mem_range.mp (hd.mem_iff.mp hn)
  refine ⟨fun q hq => hlt q.1 ?_, fun r hr => hlt r.1 ?_⟩
  · exact List.mem_append_left _ (List.mem_map_of_mem hq)
  · exact List.mem_append_right _ (List.mem_map_of_mem hr)

/-- **Nothing is lost or answered twice.** Every step keeps each request issued in flight or
answered, exactly once. -/
theorem Contada.step {d d' : Digitacao} {e : Home.Event} (hd : Contada d)
    (hs : d.step env e = some d') : Contada d' := by
  obtain ⟨h, hh, rfl⟩ := Option.map_eq_some_iff.mp hs
  unfold Contada at hd ⊢
  cases Home.sugere_step hh with
  | mantem he hp =>
    obtain ⟨-, hc, hsug, -⟩ := Pesquisa.mk.inj hp
    simp only [Home.respostaDe_eq_nil he, List.append_nil, hc, hsug]
    exact hd
  | limpa he l hp =>
    obtain ⟨-, hc, hsug, -⟩ := Pesquisa.mk.inj hp
    simp only [Home.respostaDe_eq_nil he, List.append_nil, hc, hsug]
    exact hd
  | emite he searchText hp =>
    obtain ⟨-, hc, hsug, -⟩ := Pesquisa.mk.inj hp
    simp only [Home.respostaDe_eq_nil he, hc, hsug, List.append_nil, List.map_append,
      List.range_succ]
    refine List.Perm.trans ?_ (hd.append_right [d.home.consultas])
    rw [List.append_assoc, List.append_assoc]
    exact List.perm_append_comm.append_left _
  | @responde k q resposta he hq hp =>
    subst he
    obtain ⟨-, hc, hsug, -⟩ := Pesquisa.mk.inj hp
    obtain ⟨hlt, hget⟩ := List.getElem?_eq_some_iff.mp hq
    have hperm : (q.1 :: (d.home.sugestoes.eraseIdx k).map Prod.fst).Perm
        (d.home.sugestoes.map Prod.fst) := by
      have := (List.getElem_cons_eraseIdx_perm hlt).map Prod.fst
      rwa [List.map_cons, hget] at this
    simp only [Home.respostaDe, hq, Option.map_some, Option.toList_some, List.map_append, hsug, hc]
    refine List.Perm.trans ?_ hd
    rw [← List.append_assoc]
    exact List.perm_append_comm.trans (List.Perm.append_right _ hperm)

/-- An event that answers no request meets the condition. -/
lemma atrasadaIgual_of_none {d : Digitacao} {e : Home.Event}
    (he : ∀ k resposta, e = .suggestCallback k resposta → d.home.sugestoes[k]? = none) :
    d.AtrasadaIgual e := by
  cases e with
  | suggestCallback k resposta => cases resposta <;> simp [AtrasadaIgual, he k _ rfl]
  | _ => trivial

/-- A step keeps the list of the last request shown exactly when it meets the condition.

**Proof sketch.** A new request has no answer yet, and an empty text promises nothing. An answer
to the last request shows its own list; an answer to an earlier one keeps what the last request
shows exactly when it brings the same list. -/
lemma mostrada_step_iff {d d' : Digitacao} {e : Home.Event} (hd : Contada d) (hm : Mostrada d)
    (hs : d.step env e = some d') : Mostrada d' ↔ d.AtrasadaIgual e := by
  obtain ⟨h, hh, rfl⟩ := Option.map_eq_some_iff.mp hs
  cases Home.sugere_step hh with
  | mantem he hp =>
    obtain ⟨ht, hc, -, hl⟩ := Pesquisa.mk.inj hp
    refine iff_of_true ?_ (atrasadaIgual_of_none he)
    simp only [Mostrada, Home.respostaDe_eq_nil he, List.append_nil, ht, hc, hl]
    exact hm
  | limpa he l hp =>
    obtain ⟨ht, -, -, -⟩ := Pesquisa.mk.inj hp
    exact iff_of_true (fun h => absurd ht h) (atrasadaIgual_of_none he)
  | emite he searchText hp =>
    obtain ⟨-, hc, -, -⟩ := Pesquisa.mk.inj hp
    refine iff_of_true ?_ (atrasadaIgual_of_none he)
    simp only [Mostrada, Home.respostaDe_eq_nil he, List.append_nil, hc]
    intro _ r hr hlast
    have := hd.lt.2 r hr
    omega
  | @responde k q resposta he hq hp =>
    subst he
    obtain ⟨ht, hc, -, hl⟩ := Pesquisa.mk.inj hp
    have hqmem := List.mem_of_getElem? hq
    have hresp : d.home.respostaDe (.suggestCallback k resposta) = [(q.1, resposta)] := by
      simp [Home.respostaDe, hq]
    have hmostrada : Mostrada ⟨h, d.respostas ++ [(q.1, resposta)]⟩ ↔
        (d.home.searchText ≠ "" → ∀ r ∈ d.respostas ++ [(q.1, resposta)],
          r.1 + 1 = d.home.consultas → ∀ items ∈ r.2,
            resposta.getD d.home.suggestAddressList = items) := by
      simp only [Mostrada, ht, hc, hl]
      rfl
    rw [hresp, hmostrada]
    cases resposta with
    | none =>
      refine iff_of_true (fun htext r hr hlast => ?_) trivial
      rcases List.mem_append.mp hr with hr | hr
      · exact hm htext r hr hlast
      · obtain rfl := List.mem_singleton.mp hr
        simp
    | some items =>
      constructor
      · intro h q' hq' htext
        rintro ⟨r, hr, hlast, hsome⟩
        obtain ⟨lista, hlista⟩ := Option.isSome_iff_exists.mp hsome
        have hnovo := h htext r (List.mem_append_left _ hr) hlast lista hlista
        exact hnovo.trans (hm htext r hr hlast lista hlista).symm
      · intro h htext r hr hlast lista hlista
        rcases List.mem_append.mp hr with hr | hr
        · have := h q hq htext ⟨r, hr, hlast, by simp [Option.mem_def.mp hlista]⟩
          exact this.trans (hm htext r hr hlast lista hlista)
        · obtain rfl := List.mem_singleton.mp hr
          exact Option.some.inj hlista

/-! ### Whole runs -/

/-- At launch no request was issued. -/
lemma contada_inicial : Contada inicial := by
  unfold Contada inicial
  decide

/-- **The list of the last request is shown exactly while late answers bring it.** In a run from
launch a non-empty text shows the list its request was answered with, from that answer on, if and
only if each later answer to an earlier request brings the list shown.

**Proof sketch.** Each request is in flight or answered once, in every run. Next to that, a step
keeps the list shown exactly when it meets the condition. -/
theorem mostrada_iff_atrasadaIgual (env : Ambiente) (es : List Home.Event) :
    Runs.Throughout (step env) Mostrada es inicial ↔
      Runs.Meets (step env) AtrasadaIgual es inicial :=
  Runs.throughout_iff_meets (J := Contada) (fun _ _ _ hd hs => hd.step hs)
    (fun _ _ _ hd hm hs => mostrada_step_iff hd hm hs) contada_inicial
    (fun h => absurd rfl h)

/-- **The suggestions are fresh while late answers bring the list shown.** In a run from launch
whose late answers bring the list shown, whenever no request is in flight, a non-empty text shows
the list its request was answered with. -/
theorem fresca_of_atrasadaIgual {es : List Home.Event}
    (h : Runs.Meets (step env) AtrasadaIgual es inicial) :
    Runs.Throughout (step env) Fresca es inicial := by
  have hmostrada := (mostrada_iff_atrasadaIgual env es).mpr h
  exact hmostrada.imp fun d hm _ htext => hm htext

/-- The driver types two letters, and the two requests are answered in the order they were
issued. -/
theorem fresca_in_order :
    Runs.Throughout (step Home.ambiente) Fresca
      [.textDidChange "R", .textDidChange "Ru", .suggestCallback 0 (some [⟨"R", none⟩]),
        .suggestCallback 0 (some [⟨"Ru", none⟩])] inicial :=
  fresca_of_atrasadaIgual (by decide)

/-- The answers come in the other order, and the list of the first letter stays. -/
theorem not_fresca_late_answer :
    ¬ ∀ (env : Ambiente) (es : List Home.Event),
      Runs.Throughout (step env) Fresca es inicial := by
  intro h
  have := h Home.ambiente [.textDidChange "R", .textDidChange "Ru",
    .suggestCallback 1 (some [⟨"Ru", none⟩]), .suggestCallback 0 (some [⟨"R", none⟩])]
  exact absurd this (by decide)

end Digitacao

end Parken
