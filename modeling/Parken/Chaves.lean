import Parken.Confirmacao
import Parken.Pedido

set_option relaxedAutoImplicit false
set_option autoImplicit false

/-!
# The join key on the three screens

Home, the request screen and the approvals screen each build the key of a Vaga from its street,
its number, its postal code and its title, and each has its own texts for the attributes that are
absent. Street and title have the same text on the three of them. The number is `Numero` on Home
and `N/D` on the other two; the postal code is `CEP`, `00000-000` and `N/D`.

A Requisicao carries the key of the request screen from the form through the checkout to the
answer of Firebase, whatever the driver does on the way.

## Main definitions

* `Parken.Pedido.anda` — the request screens on their own.
* `Parken.Pedido.DaChave` — the screens carry a key.
* `Parken.Vaga.Casa` — every Requisicao built from a Vaga finds it on the approvals screen.

## Main results

* `Parken.Vaga.chaveHome_eq_chaveRequest_iff`,
  `Parken.Vaga.chaveRequest_eq_chaveConfirmacao_iff` — where two encoders agree.
* `Parken.Vaga.casa_iff` — a Requisicao finds its Vaga exactly where the postal code is present.
* `Parken.Vaga.chaves_iff` — the encoders agree exactly on the Vagas with a number and a postal
  code.
-/

namespace Parken

/-- Two keys of one street and one title differ in what stands between the two. -/
lemma chave_eq_iff {rua titulo numero numero' cep cep' : String} :
    chave rua numero cep titulo = chave rua numero' cep' titulo ↔
      numero ++ "-" ++ cep = numero' ++ "-" ++ cep' := by
  have hsplit : ∀ n c, chave rua n c titulo = rua ++ "-" ++ (n ++ "-" ++ c) ++ ("-" ++ titulo) := by
    intro n c
    simp [chave, String.append_assoc, toString]
  rw [hsplit, hsplit, String.append_left_inj, String.append_right_inj]

namespace Vaga

variable {v : Vaga}

/-- Home and the request screen build the same key exactly of a Vaga with a number and a postal
code. -/
lemma chaveHome_eq_chaveRequest_iff :
    v.chaveHome = v.chaveRequest ↔ v.numero.isSome ∧ v.cep.isSome := by
  rw [chaveHome, chaveRequest, chave_eq_iff]
  cases v.numero with
  | none =>
    -- the texts of the absent number stand before the same separator
    cases v.cep with
    | none => decide
    | some cep => simp
  | some numero => cases v.cep <;> simp

/-- The request screen and the approvals screen build the same key exactly of a Vaga with a postal
code. -/
lemma chaveRequest_eq_chaveConfirmacao_iff :
    v.chaveRequest = v.chaveConfirmacao ↔ v.cep.isSome := by
  rw [chaveRequest, chaveConfirmacao, chave_eq_iff, String.append_right_inj]
  cases v.cep with
  | none => decide
  | some cep => simp

end Vaga

/-! ## The key a Requisicao carries -/

namespace Pedido

/-- The request screens on their own: an event finds the shared context in some state. -/
def anda (p : Pedido) (e : Store × Event) : Option Pedido := (p.step e.1 e.2).map Prod.snd

/-- The form, the checkout and the queries in flight carry the key. -/
def DaChave (id : String) : Pedido → Prop := Guarda (fun r => r.id = id) fun c => c.id = some id

variable {id : String} {p : Pedido}

/-- The screens opened on a Vaga carry its key of the request screen. -/
lemma daChave_abrir (vaga : Vaga) (escolhida : ObjectID) (hoje : Date) :
    DaChave vaga.chaveRequest (inicial.abrir (some vaga) escolhida hoje) where
  request := by
    rintro r ⟨⟩
    rfl
  checkout := by simp [abrir]
  consultas := by simp [abrir, inicial]

/-- Every event keeps the key: no edit touches it, and the segue copies it. -/
lemma DaChave.step {view : Store} {p' : Pedido} {e : Event} {w : Write Change}
    (hp : DaChave id p) (h : p.step view e = some (w, p')) : DaChave id p' := by
  have hestavel : Estavel (fun r => r.id = id) fun c => c.id = some id :=
    ⟨fun _ _ _ _ _ hr => hr, fun _ _ hr => hr, fun _ _ _ hr => congrArg some hr⟩
  exact Guarda.step hestavel hp h

/-- What the screens fill a Requisicao with has the key. -/
lemma DaChave.id_eq {view : Store} {p' : Pedido} {e : Event} {w : Write Change} {k : ObjectID}
    {r : Requisicao} (hp : DaChave id p) (h : p.step view e = some (w, p'))
    (hw : .setRequisicao k r ∈ w.changes) : r.id = some id := by
  cases escrita_of_step h with
  | nada | outro => simp [Write.none] at hw
  | confirma userID hc hconsultas he => simp at hw
  | @preenche i q _ firstname ok hq hc he =>
    obtain ⟨rfl, rfl⟩ : k = q.objUpdate ∧ r = _ := by simpa using hw
    exact hp.consultas q (List.mem_of_getElem? hq)

end Pedido

namespace Vaga

/-- Every Requisicao built from the Vaga finds it on the approvals screen: whatever the driver
does on the request screens opened on the Vaga, the loop matches what they fill a Requisicao with
to the Vaga. -/
def Casa (v : Vaga) : Prop :=
  ∀ (k : ObjectID) (hoje : Date) (es : List (Store × Pedido.Event)) (p p' : Pedido) (view : Store)
    (e : Pedido.Event) (w : Write Change) (j : ObjectID) (r : Requisicao),
    Runs.run Pedido.anda es (Pedido.inicial.abrir (some v) k hoje) = some p →
    p.step view e = some (w, p') → .setRequisicao j r ∈ w.changes →
    ListaConfirmacoes.buscaVaga r.idConfirmacao [(k, v)] = some (k, v)

/-- The loop matches a Requisicao to a Vaga exactly where its id is the key of the Vaga. -/
lemma buscaVaga_singleton {id : String} {k : ObjectID} {v : Vaga} :
    ListaConfirmacoes.buscaVaga id [(k, v)] = some (k, v) ↔ id = v.chaveConfirmacao := by
  by_cases h : id = v.chaveConfirmacao <;> simp [ListaConfirmacoes.buscaVaga, h]

/-- A store with a card. -/
def comCartao : Store :=
  { Store.empty with cartoes := ObjectTable.empty.insert ⟨some "ANA", some "1", none, none⟩ }

/-- The driver fills the form, goes on to the checkout and confirms. -/
def confirmado : List (Store × Pedido.Event) :=
  [.marca "Fiat", .modelo "Uno", .placa "ABC1D23", .definirHora 1,
    .prosseguir .acaoPrimeiro true, .confirmar (some "ana")].map fun e => (comCartao, e)

/-- **When a Requisicao finds its Vaga.** Every Requisicao built from a Vaga is matched to it on
the approvals screen exactly where the Vaga has a postal code.

**Proof sketch.** What the screens fill in has the key of the request screen, which is then the
key of the approvals screen. Conversely, a driver who confirms a checkout builds one. -/
theorem casa_iff {v : Vaga} : v.Casa ↔ v.cep.isSome := by
  rw [← chaveRequest_eq_chaveConfirmacao_iff]
  constructor
  · intro h
    have hcasa := h 0 0 confirmado _ _ comCartao (.firebase 0 (.dicionario (some "Ana")) true) _ 0 _
      rfl rfl (List.mem_singleton_self _)
    exact buscaVaga_singleton.mp hcasa
  · intro heq k hoje es p p' view e w j r hrun hstep hw
    have hp : p.DaChave v.chaveRequest := by
      refine Runs.Reachable.invariant (P := fun p => p.DaChave v.chaveRequest) ?_
        (Pedido.daChave_abrir v k hoje) ⟨es, hrun⟩
      intro q e q' hq hs
      obtain ⟨⟨w, _⟩, hqs, rfl⟩ := Option.map_eq_some_iff.mp hs
      exact hq.step hqs
    rw [buscaVaga_singleton, Requisicao.idConfirmacao, hp.id_eq hstep hw]
    exact heq

/-- **Agreement of the encoders.** The keys of Home, of the request screen and of the approvals
screen are the same, and every Requisicao built from the Vaga is matched to it, exactly where the
Vaga has a number and a postal code. Street and title may be absent.

**Proof sketch.** Home and the request screen disagree on an absent number, and all three on an
absent postal code. -/
theorem chaves_iff (v : Vaga) :
    (v.chaveHome = v.chaveRequest ∧ v.chaveRequest = v.chaveConfirmacao ∧ v.Casa) ↔
      v.numero.isSome ∧ v.cep.isSome := by
  rw [chaveHome_eq_chaveRequest_iff, chaveRequest_eq_chaveConfirmacao_iff, casa_iff]
  constructor
  · rintro ⟨h, -, -⟩
    exact h
  · rintro ⟨hn, hc⟩
    exact ⟨⟨hn, hc⟩, hc, hc⟩

/-- A garage on the map of which no postal code is stored. -/
def semCep : Vaga where
  id := some "Rua A-1--Garagem"
  titulo := some "Garagem"
  descricao := some "Coberta"
  valor := some (.finite 10)
  cep := none
  rua := some "Rua A"
  numero := some "1"
  complemento := none
  bairro := none
  cidade := none
  uf := none
  largura := none
  comprimento := none
  altura := none
  latitude := some (.finite 0)
  longitude := some (.finite 0)
  frequencia := none

/-- Of a garage without a postal code the three screens build three keys. -/
theorem not_chaves_without_cep :
    ¬ ∀ v : Vaga, v.chaveHome = v.chaveRequest ∧ v.chaveRequest = v.chaveConfirmacao ∧ v.Casa := by
  intro h
  obtain ⟨-, hkey, -⟩ := h semCep
  exact absurd hkey (by decide)

end Vaga

end Parken
