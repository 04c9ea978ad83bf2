import Parken.Home.Search
import Parken.Pedido

set_option relaxedAutoImplicit false
set_option autoImplicit false

/-!
# The Vaga handed to the request screen

The entry the driver selects does not carry its record. `prepare(for:sender:)` looks for it among
the fetched Vagas, by comparing the id each of them has stored with the key the entry has rebuilt
from its attributes, and stops at the first that matches. Where none does, the loop has left the
last record in the variable it hands over.

## Main results

* `Parken.Home.vagaFinal_eq_some_iff` — where the loop ends.
* `Parken.Home.prepare_iff_primeira` — the record handed over is the one of the selected entry
  exactly where no record before it has its key stored, and it has the key stored or is the last.
* `Parken.Home.viewDidLoad_entrada` — so the request screen has the price and the id of the row.
* `Parken.Home.not_prepare_same_key` — two garages of one key, and the other one is handed over.
-/

namespace Parken

namespace Home

variable {env : Ambiente}

/-- The id a record has stored, as the loop of `prepare(for:sender:)` reads it. -/
def idGuardado (v : Vaga) : String := v.id.getD "Titulo"

/-- The loop ends at a record exactly where no record before it has the id, and it has the id or
is the last one.

**Proof sketch.** Induction on the records. The loop stops at the first one if that has the id, and
goes on to the others if not, with the first one as what it would leave. -/
lemma vagaFinal_eq_some_iff {id : String} {ultima : Option (ObjectID × Vaga)}
    {vagas : List (ObjectID × Vaga)} {v : ObjectID × Vaga} :
    vagaFinal id ultima vagas = some v ↔
      (vagas = [] ∧ ultima = some v) ∨
        ∃ antes depois, vagas = antes ++ v :: depois ∧ (∀ u ∈ antes, idGuardado u.2 ≠ id) ∧
          (idGuardado v.2 = id ∨ depois = []) := by
  induction vagas generalizing ultima with
  | nil => simp [vagaFinal]
  | cons u vagas ih =>
    by_cases hu : u.2.id.getD "Titulo" = id
    · rw [vagaFinal, if_pos hu]
      constructor
      · rintro ⟨⟩
        exact .inr ⟨[], vagas, rfl, by simp, .inl hu⟩
      · rintro (⟨h, -⟩ | ⟨antes, depois, h, hantes, -⟩)
        · cases h
        · cases antes with
          | nil => exact congrArg some (List.cons.inj h).1
          | cons w antes =>
            obtain ⟨rfl, -⟩ := List.cons.inj h
            exact absurd hu (hantes u (by simp))
    · rw [vagaFinal, if_neg hu, ih]
      constructor
      · rintro (⟨rfl, h⟩ | ⟨antes, depois, rfl, hantes, hv⟩)
        · obtain rfl := Option.some.inj h
          exact .inr ⟨[], [], rfl, by simp, .inr rfl⟩
        · exact .inr ⟨u :: antes, depois, rfl, List.forall_mem_cons.mpr ⟨hu, hantes⟩, hv⟩
      · rintro (⟨h, -⟩ | ⟨antes, depois, h, hantes, hv⟩)
        · cases h
        · cases antes with
          | nil =>
            obtain ⟨rfl, rfl⟩ := List.cons.inj h
            exact .inl ⟨hv.resolve_left hu, rfl⟩
          | cons w antes =>
            obtain ⟨rfl, rfl⟩ := List.cons.inj h
            exact .inr ⟨antes, depois, rfl, fun x hx => hantes x (List.mem_cons_of_mem _ hx), hv⟩

/-- **The record handed over.** In every reachable state, with a row selected, `requestSegue` hands
over the record the entry of that row was built from if and only if the last fetch returned that
record with no record before it whose stored id is its rebuilt key, and it has that key stored or
is the last record.

**Proof sketch.** An entry carries the key rebuilt from the attributes of its own record
(`retrata_of_run`), so the loop looks for that key. -/
theorem prepare_iff_primeira {es : List Event} {h : Home} {item : ℕ} {a : Achado}
    (hr : Runs.run (step env) es viewDidLoad = some h)
    (hsel : h.parkingLocateTable.selected = some item)
    (ha : h.parkingLocateList[item]? = some a) :
    h.prepare = some (a, some a.vaga) ↔
      ∃ antes depois, h.vagas = antes ++ a.vaga :: depois ∧
        (∀ v ∈ antes, idGuardado v.2 ≠ a.vaga.2.chaveHome) ∧
        (idGuardado a.vaga.2 = a.vaga.2.chaveHome ∨ depois = []) := by
  obtain ⟨loc, hretrata⟩ := retrata_of_run hr a (List.mem_of_getElem? ha)
  have hid : a.id = a.vaga.2.chaveHome := hretrata.id
  have hprepare : h.prepare = some (a, vagaFinal a.vaga.2.chaveHome none h.vagas) := by
    simp [prepare, hsel, ha, hid]
  rw [hprepare, Option.some.injEq, Prod.mk.injEq, vagaFinal_eq_some_iff]
  simp

/-- Two of four garages are found, and the second entry is tapped: it is the third record. -/
theorem prepare_quatroVagas :
    ∃ h a, Runs.run (step ambiente) (sugestao ++ [.suggestSelect 0 (some quatroVagas),
        .geocodeCallback 0 true, .geocodeCallback 1 true, .parkingSelect 1]) viewDidLoad = some h ∧
      h.prepare = some (a, some (2, vagaNaRua "Rua B")) := by
  have hprimeira := @prepare_iff_primeira ambiente (sugestao ++ [.suggestSelect 0
    (some quatroVagas), .geocodeCallback 0 true, .geocodeCallback 1 true, .parkingSelect 1]) _ 1 _
    rfl rfl rfl
  refine ⟨_, _, rfl, hprimeira.mpr ⟨quatroVagas.rows.take 2, quatroVagas.rows.drop 3, rfl, ?_, ?_⟩⟩
  · decide
  · exact .inl (by decide)

/-- The request screen of the selected entry's own record has the price and the id of the row,
where the record has its price and the attributes of its key. -/
theorem viewDidLoad_entrada {es : List Event} {h : Home} {a : Achado}
    (hr : Runs.run (step env) es viewDidLoad = some h) (ha : a ∈ h.parkingLocateList)
    (hv : a.vaga.2.ComEndereco) (hvalor : a.vaga.2.valor.isSome) (hoje : Date) :
    let r := RequestViewController.viewDidLoad (some a.vaga.2) a.vaga.1 hoje
    r.id = a.id ∧ a.ammount = s!"R$ {env.description r.valorHora}" := by
  obtain ⟨loc, hretrata⟩ := retrata_of_run hr a ha
  obtain ⟨valor, hvalor⟩ := Option.isSome_iff_exists.mp hvalor
  refine ⟨?_, ?_⟩
  · rw [hretrata.id, hv.chaveHome_eq]
    exact hv.chaveRequest_eq
  · rw [hretrata.ammount]
    simp [RequestViewController.viewDidLoad, hvalor]

/-- A second garage at the same address under the same title, for another price. -/
def vagaMaisCara : Vaga := { vagaComPosicao with valor := some (.finite 20) }

/-- The driver finds two garages of one key, and taps the second. -/
def buscaDuas : List Event :=
  [.textDidChange "Rua A", .suggestCallback 0 (some [⟨"Rua A", vagaComPosicao.posicao⟩]),
    .suggestSelect 0 (some ⟨[(0, vagaComPosicao), (1, vagaMaisCara)], by decide⟩),
    .geocodeCallback 0 true, .geocodeCallback 0 true, .parkingSelect 1]

/-- The two garages of `buscaDuas` are handed over as one. -/
theorem not_prepare_same_key :
    ¬ ∀ (env : Ambiente) (es : List Event) (h : Home) (item : ℕ) (a : Achado),
      Runs.run (step env) es viewDidLoad = some h →
      h.parkingLocateTable.selected = some item → h.parkingLocateList[item]? = some a →
      a.vaga ∈ h.vagas → h.prepare = some (a, some a.vaga) := by
  intro h
  have hsegue := h ambiente buscaDuas _ 1 _ rfl rfl rfl (by decide)
  exact absurd hsegue (by decide)

end Home

end Parken
