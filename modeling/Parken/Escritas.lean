import Parken.App
import Parken.Lib.Runs

set_option relaxedAutoImplicit false
set_option autoImplicit false

/-!
# The write operations

Seven operations of five screens change the shared context and save it, and only print when the
save throws. None of them takes its change back: it stays pending, is read by every screen, and
goes to disk with the next save that succeeds, whichever operation calls it.

## Main definitions

* `Parken.Operacao`, `Parken.Operacao.escrita` — the operations and their writes.
* `Parken.ateUltimoSalvo` — a run up to its last successful save.
* `Parken.App.escritas` — the writes of a run of the application.

## Main results

* `Parken.persisted_operacoes` — what any run of the operations leaves on disk and in the
  context.
* `Parken.App.ctx_of_run` — a run of the application acts on the context by its writes.
-/

namespace Parken

open Edit ManagedContext

/-- A write operation of a screen. -/
inductive Operacao where
  /-- The form stores a Vaga. -/
  | criarVaga (v : Vaga)
  /-- A Vaga is deleted from the list. -/
  | excluirVaga (vaga : ObjectID)
  /-- The days of a Vaga are updated. -/
  | atualizarFrequencia (vaga : Option ObjectID) (f : Frequencia)
  /-- A card is created (`none`) or edited. -/
  | salvarCartao (cartao : Option ObjectID) (f : CartaoForm)
  /-- A card is deleted from the list. -/
  | excluirCartao (cartao : ObjectID)
  /-- A request is approved. -/
  | aprovar (requisicao : Option ObjectID)
  /-- A request is rejected. -/
  | rejeitar (requisicao : Option ObjectID)
deriving DecidableEq

/-- The write of an operation whose save succeeds or throws. -/
def Operacao.escrita : Operacao → Bool → Write Change
  | .criarVaga v => NovaVagaViewController.save v
  | .excluirVaga vaga => VagasTableViewController.excluir vaga
  | .atualizarFrequencia vaga f => AtualizarFrequenciaViewController.save vaga f
  | .salvarCartao cartao f => PagamentoViewController.save cartao f
  | .excluirCartao cartao => PagamentoTableViewController.excluir cartao
  | .aprovar requisicao => ConfirmarVagaViewController.save requisicao "Aprovado"
  | .rejeitar requisicao => ConfirmarVagaViewController.save requisicao "Rejeitado"

/-- The changes of an operation. -/
def Operacao.changes (o : Operacao) : List Change := (o.escrita true).changes

/-- The changes of an operation are made before its save, whatever the save does. -/
lemma Operacao.changes_escrita (o : Operacao) (ok : Bool) : (o.escrita ok).changes = o.changes := by
  cases o with
  | atualizarFrequencia vaga f => cases vaga <;> rfl
  | salvarCartao cartao f => cases cartao <;> rfl
  | aprovar requisicao => cases requisicao <;> rfl
  | rejeitar requisicao => cases requisicao <;> rfl
  | _ => rfl

/-- Every operation saves. -/
lemma Operacao.saves_escrita (o : Operacao) (ok : Bool) : (o.escrita ok).Saves ↔ ok = true := by
  have hsave : (o.escrita ok).save = some ok := by
    cases o with
    | atualizarFrequencia vaga f => cases vaga <;> rfl
    | salvarCartao cartao f => cases cartao <;> rfl
    | aprovar requisicao => cases requisicao <;> rfl
    | rejeitar requisicao => cases requisicao <;> rfl
    | _ => rfl
  simp [Write.Saves, hsave]

/-- The context after operations with the outcomes of their saves, over a store. -/
def operacoes (s : Store) (ops : List (Operacao × Bool)) : Contexto :=
  (opened s).execAll (ops.map fun o => o.1.escrita o.2)

/-- The operations up to and including the last one whose save succeeded. -/
def ateUltimoSalvo (ops : List (Operacao × Bool)) : List (Operacao × Bool) :=
  ops.rdropWhile fun o => !o.2

/-- The writes up to the last successful save are those of the operations up to it. -/
lemma flushed_escritas (ops : List (Operacao × Bool)) :
    flushed (ops.map fun o => o.1.escrita o.2) =
      (ateUltimoSalvo ops).map fun o => o.1.escrita o.2 := by
  have hpred : ((fun w : Write Change => decide (¬ w.Saves)) ∘ fun o : Operacao × Bool =>
      o.1.escrita o.2) = fun o => !o.2 := by
    funext o
    simp [Operacao.saves_escrita]
  simp only [flushed, ateUltimoSalvo, List.rdropWhile, ← List.map_reverse, List.dropWhile_map,
    hpred]

/-- **What failed writes leave.** After any run of the write operations over a store, the store
on disk is the initial one with the changes of every operation up to the last one whose save
succeeded, those of failed saves among them included, and of none after it; the context shows
the changes of all operations.

**Proof sketch.** The general fact on contexts (`ManagedContext.persisted_execAll`) at the
writes of the operations: each makes its changes first and saves last. -/
theorem persisted_operacoes (s : Store) (ops : List (Operacao × Bool)) :
    (operacoes s ops).persisted =
        applyAll ((ateUltimoSalvo ops).flatMap fun o => o.1.changes) s ∧
      (operacoes s ops).view = applyAll (ops.flatMap fun o => o.1.changes) s := by
  have hchanges : ∀ l : List (Operacao × Bool),
      (l.map fun o => o.1.escrita o.2).flatMap Write.changes = l.flatMap fun o => o.1.changes := by
    intro l
    simp [List.flatMap_map, Operacao.changes_escrita]
  constructor
  · rw [operacoes, persisted_execAll, flushed_escritas, hchanges]
  · rw [operacoes, view_execAll, hchanges, view_opened]

/-- The changes of the operations whose own save succeeded. -/
def bemSucedidas (ops : List (Operacao × Bool)) : List Change :=
  (ops.filter fun o => o.2).flatMap fun o => o.1.changes

/-- A Vaga is stored, its deletion fails, and a card is stored: the deletion goes to disk with
the card. -/
theorem not_persisted_bemSucedidas :
    ¬ ∀ (s : Store) (ops : List (Operacao × Bool)),
      (operacoes s ops).persisted = applyAll (bemSucedidas ops) s := by
  intro h
  have hvaga := congrArg (fun st : Store => st.vagas.rows.length) (h .empty
    [(.criarVaga (NovaVagaViewController.novaVaga ⟨0, "", .finite 10, [], ""⟩ App.formulario
        App.posicao), true),
      (.excluirVaga 0, false), (.salvarCartao none ⟨"Ana", "4444", "01/30", "123"⟩, true)])
  exact absurd hvaga (by decide +kernel)

/-! ## Runs of the application -/

namespace App

variable {env : Ambiente}

/-- The writes of a run, up to a trap. -/
def escritas (env : Ambiente) : List Event → App → List (Write Change)
  | [], _ => []
  | e :: es, s => match s.opera env e with
    | none => []
    | some (w, t) => w :: escritas env es { t with ctx := s.ctx.exec w }

/-- A run of the application acts on the context by its writes, so that what it leaves on disk
is what `ManagedContext.persisted_execAll` says of them. -/
theorem ctx_of_run {es : List Event} {s s' : App} (h : Runs.run (step env) es s = some s') :
    s'.ctx = s.ctx.execAll (escritas env es s) := by
  induction es generalizing s with
  | nil =>
    obtain rfl := Option.some.inj h
    rfl
  | cons e es ih =>
    obtain ⟨t, ht, hrun⟩ := Option.bind_eq_some_iff.mp h
    obtain ⟨w, u, hu, rfl⟩ := step_eq_some_iff.mp ht
    rw [ih hrun]
    simp [escritas, hu]

/-- After a run from launch the store on disk holds the changes of the writes up to the last
successful save. -/
theorem persisted_of_run {es : List Event} {s' : App}
    (h : Runs.run (step env) es inicial = some s') :
    s'.persisted = applyAll ((flushed (escritas env es inicial)).flatMap Write.changes) .empty := by
  rw [persisted, ctx_of_run h]
  exact persisted_execAll _ _

end App

end Parken
