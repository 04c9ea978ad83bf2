import Parken.Falhas
import Parken.Lib.Copies

set_option relaxedAutoImplicit false
set_option autoImplicit false

/-!
# The cycle of a request

What a Requisicao is for can be said without the screens: it waits for the answer of Firebase, is
lost to it, or is filled by it and then decided on. The table of the context and that on disk are
the records of two such maps (`Copies`), and every event of the application, save that throws, and
restart moves them as these few cases allow.

## Main definitions

* `Parken.Situacao` — what has become of a request; `Parken.Situacao.registro` is its record.
* `Parken.Situacao.Edita` — the changes to the requests.
* `Parken.App.Representa` — the tables of the application are the records of the two maps.

## Main results

* `Parken.App.edita_of_opera` — what an event does to the requests.
* `Parken.Aprovacoes.ciclo_throughout` — every state of a run represents two maps that the moves
  reach.
* `Parken.Aprovacoes.avanca_throughout` — on disk no Requisicao is lost or goes back.
-/

namespace Parken

open Edit

/-! ## The requests -/

/-- What the owner has said to a request. -/
inductive Decisao where
  | pendente
  | aprovado
  | rejeitado
deriving DecidableEq

/-- The `estado` of its record. -/
def Decisao.texto : Decisao → String
  | .pendente => "Pendente"
  | .aprovado => "Aprovado"
  | .rejeitado => "Rejeitado"

/-- A checkout with its attributes set. -/
abbrev CheckoutCompleto := {c : Checkout // Pedido.Completo c}

/-- What may become of a record: it stays, is filled if it was as inserted, or gets a decision if it
was filled. -/
def Requisicao.Avanca (r r' : Requisicao) : Prop :=
  r' = r ∨ (r = .nova ∧ r'.Preenchida) ∨
    (r.Preenchida ∧ ∃ estado, (estado = "Aprovado" ∨ estado = "Rejeitado") ∧
      r' = { r with estado := some estado })

/-- What has become of a request. -/
inductive Situacao where
  /-- Firebase has been asked for the profile. -/
  | aguardando (c : CheckoutCompleto)
  /-- No profile will come. -/
  | perdida (c : CheckoutCompleto)
  /-- The profile has come. -/
  | feita (c : CheckoutCompleto) (firstname : Option String) (d : Decisao)

namespace Situacao

/-- The record of a request. -/
def registro : Situacao → Requisicao
  | aguardando _ | perdida _ => .nova
  | feita c firstname d =>
    { CheckoutVagaViewController.preencher c.1 firstname with estado := some d.texto }

/-- What a restart makes of a request: nothing waits any more. -/
def reinicia : Situacao → Situacao
  | aguardando c => perdida c
  | a => a

/-- A change to the requests. -/
inductive Edita (m : ObjectID → Option Situacao) : (ObjectID → Option Situacao) → Prop where
  /-- None. -/
  | nada : Edita m m
  /-- A checkout is confirmed. -/
  | pede (k : ObjectID) (c : CheckoutCompleto) (hk : m k = none) :
      Edita m (Function.update m k (some (aguardando c)))
  /-- The answer is no profile. -/
  | perde (k : ObjectID) (c : CheckoutCompleto) (hk : m k = some (aguardando c)) :
      Edita m (Function.update m k (some (perdida c)))
  /-- The answer is a profile. -/
  | preenche (k : ObjectID) (c : CheckoutCompleto) (firstname : Option String)
      (hk : m k = some (aguardando c)) :
      Edita m (Function.update m k (some (feita c firstname .pendente)))
  /-- The owner decides, or decides again. -/
  | decide (k : ObjectID) (c : CheckoutCompleto) (firstname : Option String) (d d' : Decisao)
      (hk : m k = some (feita c firstname d)) (hd : d' ≠ .pendente) :
      Edita m (Function.update m k (some (feita c firstname d')))

/-- What may become of a request. -/
inductive Segue : Situacao → Situacao → Prop where
  | mesma (a : Situacao) : Segue a a
  | perdida (c : CheckoutCompleto) : Segue (aguardando c) (perdida c)
  | feita (c : CheckoutCompleto) (firstname : Option String) (d : Decisao) :
      Segue (aguardando c) (feita c firstname d)
  | decidida (c : CheckoutCompleto) (firstname : Option String) (d d' : Decisao)
      (hd : d' ≠ .pendente) : Segue (feita c firstname d) (feita c firstname d')

lemma Segue.trans {a b c : Situacao} (h : Segue a b) (h' : Segue b c) : Segue a c := by
  cases h with
  | mesma => exact h'
  | perdida c =>
    cases h'
    exact .perdida c
  | feita c firstname d =>
    cases h' with
    | mesma => exact .feita c firstname d
    | decidida _ _ _ d' hd => exact .feita c firstname d'
  | decidida c firstname d d' hd =>
    cases h' with
    | mesma => exact .decidida c firstname d d' hd
    | decidida _ _ _ d'' hd' => exact .decidida c firstname d d'' hd'

instance : Preorder Situacao where
  le := Segue
  le_refl := .mesma
  le_trans _ _ _ := .trans

/-- No change takes a request back. -/
lemma Edita.below {m m' : ObjectID → Option Situacao} (h : Edita m m') : Copies.Below m m' := by
  cases h with
  | nada => exact .refl _
  | pede k c hk => exact .update (by simp [hk])
  | perde k c hk =>
    refine .update fun a ha => ?_
    obtain rfl := Option.some.inj (hk.symm.trans ha)
    exact Segue.perdida c
  | preenche k c firstname hk =>
    refine .update fun a ha => ?_
    obtain rfl := Option.some.inj (hk.symm.trans ha)
    exact Segue.feita c firstname .pendente
  | decide k c firstname d d' hk hd =>
    refine .update fun a ha => ?_
    obtain rfl := Option.some.inj (hk.symm.trans ha)
    exact Segue.decidida c firstname d d' hd

/-- Nor does a restart. -/
lemma le_reinicia : ∀ a : Situacao, a ≤ a.reinicia
  | aguardando c => Segue.perdida c
  | perdida c => Segue.mesma (perdida c)
  | feita c firstname d => Segue.mesma (feita c firstname d)

/-- It leaves the record as it is. -/
@[simp] lemma registro_reinicia (a : Situacao) : a.reinicia.registro = a.registro := by
  cases a <;> rfl

/-- The requests with a filled record are those that were filled. -/
lemma exists_feita_of_preenchida {a : Situacao} (h : a.registro.Preenchida) :
    ∃ c firstname d, a = feita c firstname d := by
  cases a with
  | feita c firstname d => exact ⟨c, firstname, d, rfl⟩
  | _ => exact absurd rfl h.data_ne

/-- The record of a filled request is filled. -/
lemma preenchida_registro (c : CheckoutCompleto) (firstname : Option String) (d : Decisao) :
    (feita c firstname d).registro.Preenchida :=
  (Requisicao.preenchida_preencher c.2 firstname).setEstado d.texto

/-- What becomes of a request, its record follows. -/
lemma registro_avanca {a b : Situacao} (h : a ≤ b) : a.registro.Avanca b.registro := by
  cases h with
  | mesma | perdida => exact .inl rfl
  | feita c firstname d => exact .inr (.inl ⟨rfl, preenchida_registro c firstname d⟩)
  | decidida c firstname d d' hd =>
    refine .inr (.inr ⟨preenchida_registro c firstname d, d'.texto, ?_, rfl⟩)
    cases d' with
    | pendente => exact absurd rfl hd
    | aprovado => exact .inl rfl
    | rejeitado => exact .inr rfl

end Situacao

/-! ## The tables -/

/-- The table has the records of the requests. -/
def Registra (t : ObjectTable Requisicao) (m : ObjectID → Option Situacao) : Prop :=
  ∀ k, t.get? k = (m k).map Situacao.registro

/-- The requests that wait are the objects of the queries in flight, each with the checkout of its
query. -/
def Espera (cs : List Consulta) (m : ObjectID → Option Situacao) : Prop :=
  ∀ k c, m k = some (.aguardando c) ↔ ∃ q ∈ cs, q.objUpdate = k ∧ q.checkout = c.1

/-- One request is replaced, and its record. -/
lemma Registra.update {t t' : ObjectTable Requisicao} {m : ObjectID → Option Situacao}
    (h : Registra t m) {k : ObjectID} {a : Situacao}
    (ht : ∀ j, t'.get? j = if j = k then some a.registro else t.get? j) :
    Registra t' (Function.update m k (some a)) := by
  intro j
  rw [ht j]
  by_cases hj : j = k
  · subst hj
    simp
  · rw [if_neg hj, Function.update_of_ne hj]
    exact h j

/-- A request that does not wait is replaced by another that does not. -/
lemma Espera.update {cs : List Consulta} {m : ObjectID → Option Situacao} (h : Espera cs m)
    {k : ObjectID} {a : Situacao} (hk : ∀ c, m k ≠ some (.aguardando c))
    (ha : ∀ c, a ≠ .aguardando c) : Espera cs (Function.update m k (some a)) := by
  intro j c
  by_cases hj : j = k
  · subst hj
    rw [Function.update_self, ← h j c]
    exact iff_of_false (fun heq => ha c (Option.some.inj heq)) (hk c)
  · rw [Function.update_of_ne hj]
    exact h j c

/-- A checkout is confirmed. -/
lemma Espera.insere {cs : List Consulta} {m : ObjectID → Option Situacao} (h : Espera cs m)
    {k : ObjectID} (hk : m k = none) (c : CheckoutCompleto) (userID : String) :
    Espera (cs ++ [⟨k, c.1, userID⟩]) (Function.update m k (some (.aguardando c))) := by
  have hnenhuma : ∀ q ∈ cs, ∀ c' : CheckoutCompleto, ¬ (q.objUpdate = k ∧ q.checkout = c'.1) := by
    intro q hq c' hqk
    have hm := (h k c').mpr ⟨q, hq, hqk⟩
    rw [hk] at hm
    cases hm
  intro j c'
  by_cases hj : j = k
  · subst hj
    rw [Function.update_self]
    constructor
    · intro heq
      obtain rfl : c = c' := by simpa using heq
      exact ⟨_, List.mem_append_right _ (List.mem_singleton.mpr rfl), rfl, rfl⟩
    · rintro ⟨q, hq, hqj⟩
      rcases List.mem_append.mp hq with hq | hq
      · exact absurd hqj (hnenhuma q hq c')
      · obtain rfl := List.mem_singleton.mp hq
        rw [Subtype.ext hqj.2]
  · rw [Function.update_of_ne hj, h j c']
    constructor
    · rintro ⟨q, hq, hqj⟩
      exact ⟨q, List.mem_append_left _ hq, hqj⟩
    · rintro ⟨q, hq, hqj⟩
      rcases List.mem_append.mp hq with hq | hq
      · exact ⟨q, hq, hqj⟩
      · obtain rfl := List.mem_singleton.mp hq
        exact absurd hqj.1.symm hj

/-- An answer is delivered. -/
lemma Espera.entrega {cs : List Consulta} {t : ObjectTable Requisicao}
    {m : ObjectID → Option Situacao} (h : Espera cs m) (hv : EmVoo cs t) {i : ℕ} {q : Consulta}
    (hq : cs[i]? = some q) {a : Situacao} (ha : ∀ c, a ≠ .aguardando c) :
    Espera (cs.eraseIdx i) (Function.update m q.objUpdate (some a)) := by
  intro j c
  by_cases hj : j = q.objUpdate
  · subst hj
    rw [Function.update_self]
    refine iff_of_false (fun heq => ha c (Option.some.inj heq)) ?_
    -- no other query is about this request
    rintro ⟨p, hp, hpq, -⟩
    exact hv.ne_of_mem_eraseIdx hq hp hpq
  · rw [Function.update_of_ne hj, h j c]
    constructor
    · rintro ⟨p, hp, hpj⟩
      obtain ⟨hi, rfl⟩ := List.getElem?_eq_some_iff.mp hq
      have hperm := List.getElem_cons_eraseIdx_perm hi
      rcases List.mem_cons.mp (hperm.mem_iff.mpr hp) with rfl | hp
      · exact absurd hpj.1.symm hj
      · exact ⟨p, hp, hpj⟩
    · rintro ⟨p, hp, hpj⟩
      exact ⟨p, List.mem_of_mem_eraseIdx hp, hpj⟩

namespace App

variable {env : Ambiente}

/-- The Requisicoes of the context and those on disk are the records of the requests. -/
structure Representa (s : App) (c : Copies ObjectID Situacao) : Prop where
  contexto : Registra s.view.requisicoes c.volatile
  disco : Registra s.persisted.requisicoes c.durable
  espera : Espera s.pedido.consultas c.volatile

/-- **What an event does to the requests.**

**Proof sketch.** The case analysis of `App.efeito_of_opera`. A checkout confirmed is complete, and
its object is new; an answer is about the request of its query; a decision is about a filled
request. -/
theorem edita_of_opera {s t : App} {e : Event} {w : Write Change} {m : ObjectID → Option Situacao}
    (hs : s.Pronta) (hm : Registra s.view.requisicoes m) (hw : Espera s.pedido.consultas m)
    (h : s.opera env e = some (w, t)) :
    ∃ m', Situacao.Edita m m' ∧ Registra (applyAll w.changes s.view).requisicoes m' ∧
      Espera t.pedido.consultas m' := by
  have hef := efeito_of_opera h
  generalize t.pedido = p at hef ⊢
  cases hef with
  | alheio hne hent hc hentregas =>
    refine ⟨m, .nada, ?_, hc ▸ hw⟩
    rw [requisicoes_applyAll hent]
    exact hm
  | decide k estado ok hd _ =>
    obtain ⟨⟨r, hr, hcheia⟩, hestado⟩ :=
      hs.cheia_of_setEstado h (List.mem_singleton.mpr rfl)
    have hget : (m k).map Situacao.registro = some r :=
      (hm k).symm.trans (ObjectTable.get?_eq_some_iff.mpr hr)
    obtain ⟨a, hk, rfl⟩ := Option.map_eq_some_iff.mp hget
    obtain ⟨c, firstname, d, rfl⟩ := Situacao.exists_feita_of_preenchida hcheia
    obtain ⟨d', hd', rfl⟩ : ∃ d' : Decisao, d' ≠ .pendente ∧ d'.texto = estado := by
      obtain rfl | rfl := hestado
      · exact ⟨.aprovado, by decide, rfl⟩
      · exact ⟨.rejeitado, by decide, rfl⟩
    refine ⟨_, .decide k c firstname d d' hk hd', hm.update fun j => ?_, hw.update ?_ ?_⟩
    · show (s.view.requisicoes.modify k _).get? j = _
      rw [ObjectTable.get?_modify]
      split_ifs with hj
      · rw [hj, hm k, hk]
        rfl
      · rfl
    · intro c'
      simp [hk]
    · intro c'
      simp
  | pedido hp =>
    cases hp with
    | nada hf hc hent => exact ⟨m, .nada, hm, hc ▸ hw⟩
    | @confirma c p' userID hc hcons hent =>
      have hk : m s.view.requisicoes.next = none := by
        have hnone : s.view.requisicoes.get? s.view.requisicoes.next = none := by
          refine Option.eq_none_iff_forall_not_mem.mpr fun r hr => ?_
          exact absurd (s.view.requisicoes.lt_next _ (ObjectTable.get?_eq_some_iff.mp hr))
            (Nat.lt_irrefl _)
        simpa [hnone] using hm s.view.requisicoes.next
      have hcompleto : Pedido.Completo c := hs.pedido.checkout c hc
      refine ⟨_, .pede _ ⟨c, hcompleto⟩ hk, hm.update fun j => ?_, ?_⟩
      · exact ObjectTable.get?_insert _ _ j
      · rw [hcons]
        exact hw.insere hk ⟨c, hcompleto⟩ userID
    | @outro i q p' ok hq hc hent =>
      have hmem := List.mem_of_getElem? hq
      have hk := (hw q.objUpdate ⟨q.checkout, hs.pedido.consultas q hmem⟩).mpr
        ⟨q, hmem, rfl, rfl⟩
      refine ⟨_, .perde _ _ hk, hm.update fun j => ?_, ?_⟩
      · show s.view.requisicoes.get? j = _
        split_ifs with hj
        · rw [hj, hm q.objUpdate, hk]
          rfl
        · rfl
      · rw [hc]
        exact hw.entrega hs.emVoo hq (by simp)
    | @preenche i q p' firstname ok hq hc hent =>
      have hmem := List.mem_of_getElem? hq
      have hk := (hw q.objUpdate ⟨q.checkout, hs.pedido.consultas q hmem⟩).mpr
        ⟨q, hmem, rfl, rfl⟩
      refine ⟨_, .preenche _ _ firstname hk, hm.update fun j => ?_, ?_⟩
      · show (s.view.requisicoes.modify q.objUpdate _).get? j = _
        rw [ObjectTable.get?_modify]
        split_ifs with hj
        · rw [hj, hm q.objUpdate, hk]
          rfl
        · rfl
      · rw [hc]
        exact hw.entrega hs.emVoo hq (by simp)

end App

namespace Aprovacoes

variable {env : Ambiente}

/-- The moves of the requests. -/
abbrev Move : Copies ObjectID Situacao → Copies ObjectID Situacao → Prop :=
  Copies.Move Situacao.Edita Situacao.reinicia

/-- A step is a move of the requests. -/
lemma move_of_step {s s' : Aprovacoes} {e : Event} {c : Copies ObjectID Situacao}
    (hs : s.app.Pronta) (hc : s.app.Representa c) (h : step env s e = some s') :
    ∃ c', Move c c' ∧ s'.app.Representa c' := by
  cases anda_of_step h with
  | parada conf hconf h' =>
    refine ⟨c, .edit .nada, ?_⟩
    rw [h']
    exact ⟨hc.contexto, hc.disco, hc.espera⟩
  | passo conf e' hconf _ _ h' =>
    have hp := pronta_novaLista hs hconf
    obtain ⟨w, t, ht, heq⟩ := App.step_eq_some_iff.mp h'
    obtain ⟨m', hedita, hm', hw'⟩ := App.edita_of_opera hp hc.contexto hc.espera ht
    rw [heq]
    by_cases hsaves : w.Saves
    · refine ⟨⟨m', m'⟩, .commit hedita, ?_, ?_, hw'⟩
      · rw [App.view_exec]
        exact hm'
      · rw [App.persisted_exec, if_pos hsaves]
        exact hm'
    · refine ⟨⟨m', c.durable⟩, .edit hedita, ?_, ?_, hw'⟩
      · rw [App.view_exec]
        exact hm'
      · rw [App.persisted_exec, if_neg hsaves]
        exact hc.disco
  | reinicia =>
    refine ⟨_, .crash, fun k => ?_, hc.disco, fun k c' => ?_⟩
    · rw [Option.map_map]
      have hfun : Situacao.registro ∘ Situacao.reinicia = Situacao.registro :=
        funext Situacao.registro_reinicia
      rw [hfun]
      exact hc.disco k
    · refine iff_of_false (fun heq => ?_) (fun ⟨q, hq, _⟩ => absurd hq List.not_mem_nil)
      obtain ⟨a, -, ha⟩ := Option.map_eq_some_iff.mp heq
      cases a <;> cases ha

/-- At launch there are no requests. -/
lemma representa_inicial : inicial.app.Representa Copies.empty :=
  ⟨fun _ => rfl, fun _ => rfl, fun _ _ => iff_of_false (by simp [Copies.empty])
    fun ⟨_, hq, _⟩ => absurd hq List.not_mem_nil⟩

/-- Every state of a run from a state that represents the requests represents some that their moves
reach. -/
lemma representa_throughout {s : Aprovacoes} {c : Copies ObjectID Situacao} (hs : s.app.Pronta)
    (hc : s.app.Representa c) (es : List Event) :
    Runs.Throughout (step env) (fun s' => ∃ c', Relation.ReflTransGen Move c c' ∧
      s'.app.Pronta ∧ s'.app.Representa c') es s := by
  refine .of_simulation (fun t a e t' ht hstep => ?_) ⟨hs, hc⟩
  obtain ⟨a', hmove, ha'⟩ := move_of_step ht.1 ht.2 hstep
  exact ⟨a', hmove, pronta_step ht.1 hstep, ha'⟩

/-- **The requests have a cycle.** In every run from launch, with any number of restarts, any order
of the events and answers, and any saves that throw, the Requisicoes of the context and those on
disk are the records of two maps of requests, with the queries in flight those of the requests that
wait. The maps are reached by moves alone: a checkout becomes a request that waits; its answer fills
it, as pending, or loses it; the owner decides on a filled one; a save makes the map of the context
durable, and a restart loses what waits.

**Proof sketch.** Each step is a move (`move_of_step`); the run follows by the simulation rule. -/
theorem ciclo_throughout (env : Ambiente) (es : List Event) :
    Runs.Throughout (step env) (fun s => ∃ c, Relation.ReflTransGen Move Copies.empty c ∧
      s.app.Representa c) es inicial :=
  (representa_throughout pronta_inicial representa_inicial es).imp
    fun _ ⟨c, hmoves, _, hc⟩ => ⟨c, hmoves, hc⟩

/-- **On disk no Requisicao is lost or goes back.** In a run from launch, with any number of
restarts and any saves that throw, a Requisicao that is on disk at some moment is there at every
later one, as it was, or filled since, or with a decision of the owner as its `estado` and
everything else the same. So a filled one never loses a value, and none that is decided on is
pending again.

**Proof sketch.** No move takes a request back (`Situacao.Edita.below`), and so no durable request
is lost or goes back (`Copies.below_of_moves`). -/
theorem avanca_throughout (env : Ambiente) (es : List Event) :
    Runs.Throughout (step env) (fun s => ∀ es', Runs.Throughout (step env)
      (fun s' => ∀ k r, (k, r) ∈ s.app.persisted.requisicoes.rows →
        ∃ r', (k, r') ∈ s'.app.persisted.requisicoes.rows ∧ r.Avanca r') es' s) es inicial := by
  refine (representa_throughout pronta_inicial representa_inicial es).imp fun s hs es' => ?_
  obtain ⟨c, hmoves, hpronta, hc⟩ := hs
  have hbelow : Copies.Below c.durable c.volatile :=
    (Copies.below_of_moves (fun _ _ => Situacao.Edita.below) Situacao.le_reinicia (.refl _)
      hmoves).2
  refine (representa_throughout hpronta hc es').imp fun s' hs' k r hr => ?_
  obtain ⟨c', hmoves', -, hc'⟩ := hs'
  have hdur : Copies.Below c.durable c'.durable :=
    (Copies.below_of_moves (fun _ _ => Situacao.Edita.below) Situacao.le_reinicia hbelow
      hmoves').1
  -- the request of the record, and what has become of it
  obtain ⟨a, ha, rfl⟩ := Option.map_eq_some_iff.mp
    ((hc.disco k).symm.trans (ObjectTable.get?_eq_some_iff.mpr hr))
  obtain ⟨b, hb, hab⟩ := hdur k a ha
  refine ⟨b.registro, ObjectTable.get?_eq_some_iff.mp ?_, Situacao.registro_avanca hab⟩
  rw [hc'.disco k, Option.mem_def.mp hb]
  rfl

end Aprovacoes

end Parken
