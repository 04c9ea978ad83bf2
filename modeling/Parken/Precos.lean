import Parken.Requisicoes

set_option relaxedAutoImplicit false
set_option autoImplicit false

/-!
# The price of a request

The hours and the amount of a request are kept three times: in the stepper, in two fields of the
request screen that follow it, and in each checkout pushed from there. Firebase answers later, and
the Requisicao is filled from the checkout.

`Caixa` adds to the application what the screens do not keep: the Vaga of the request screen, what
each checkout was pushed with, and which push each inserted Requisicao belongs to.

## Main definitions

* `Parken.Lancamento`, `Parken.Lancamento.Combina` — a push, and what goes with it.
* `Parken.Caixa`, `Parken.Caixa.step` — the application with its pushes on record.
* `Parken.TotalArredondado` — the total of a price and a number of hours.
* `Parken.Caixa.Cobrada` — every Requisicao filled goes with its push.

## Main results

* `Parken.Anotacao.Fiel.step` — every event keeps the screens in step with the record.
* `Parken.Caixa.cobrada_throughout` — every Requisicao filled goes with its push, in every run.
-/

namespace Parken

open Edit

/-- What a checkout was pushed with: the Vaga its request screen was opened for, and the stepper. -/
structure Lancamento where
  vaga : Option Vaga
  horas : ℕ

/-- Hours, total and id go with a push: the hours are those of the stepper, the total is as `Total`
has it for the price of the Vaga (1 where it has none) and the hours, and the id is its key. -/
structure Lancamento.Combina (Total : Double → ℕ → Option Double → Prop) (reg : Lancamento)
    (qtdHoras valorTotal : Option Double) (id : Option String) : Prop where
  qtdHoras : qtdHoras = some (.ofNat reg.horas)
  valorTotal : ∀ v ∈ reg.vaga, Total (v.valor.getD (.finite 1)) reg.horas valorTotal
  id : ∀ v ∈ reg.vaga, id = some v.chaveRequest

/-- The total is the price times the hours, in exact arithmetic. -/
def TotalExato (preco : Double) (horas : ℕ) (total : Option Double) : Prop :=
  ∀ p, preco = .finite p → total = some (.finite (p * horas))

/-- The total is the product of the price and the hours as doubles: rounded to nearest, and exact
where the exact product is a double. For no hours it may be the zero that the screen opens with,
which is the product unless the price is an infinity or not a number. -/
structure TotalArredondado (preco : Double) (horas : ℕ) (total : Option Double) : Prop where
  produto : total = some (preco.mul (.ofNat horas)) ∨ horas = 0 ∧ total = some (.finite 0)
  proximo : ∀ p, preco = .finite p → |p * horas| < Double.limit →
    ∃ t, total = some (.finite t) ∧ Double.binary64.Nearest (p * horas) t
  exato : ∀ p, preco = .finite p → |p * horas| < Double.limit →
    Double.binary64.Representable (p * horas) → total = some (.finite (p * horas))

/-- The product of doubles. -/
lemma totalArredondado_mul (preco : Double) (horas : ℕ) :
    TotalArredondado preco horas (some (preco.mul (.ofNat horas))) := by
  have hproximo : ∀ p, preco = .finite p → |p * horas| < Double.limit → ∃ t,
      preco.mul (.ofNat horas) = .finite t ∧ Double.binary64.Nearest (p * horas) t := by
    rintro p rfl hp
    exact Double.nearest_mul hp
  refine ⟨.inl rfl, fun p hp hlim => ?_, fun p hp hlim hrep => ?_⟩
  · obtain ⟨t, ht, hnear⟩ := hproximo p hp hlim
    exact ⟨t, congrArg some ht, hnear⟩
  · obtain ⟨t, ht, hnear⟩ := hproximo p hp hlim
    rw [ht, hnear.eq_self hrep]

/-- The zero of a screen just opened. -/
lemma totalArredondado_zero (preco : Double) :
    TotalArredondado preco 0 (some (.finite 0)) := by
  cases preco with
  | finite p =>
    rw [← Double.finite_mul_zero p]
    exact totalArredondado_mul (.finite p) 0
  | infinity | nan => exact ⟨.inr ⟨rfl, rfl⟩, by simp, by simp⟩

/-- The pushes on record: the Vaga of the request screen opened last, the push of the checkout
shown last, and the push of each Requisicao inserted. -/
structure Anotacao where
  vaga : Option Vaga
  push : Lancamento
  confirmados : List (ObjectID × Lancamento)

namespace Anotacao

/-- The record after an event of the request screens. -/
def apos (a : Anotacao) (view : Store) (p : Pedido) : Pedido.Event → Anotacao
  | .prosseguir _ _ =>
    match p.request, p.checkout with
    | some r, none => { a with push := ⟨a.vaga, r.stepHoras⟩ }
    | _, _ => a
  | .confirmar _ =>
    match p.checkout with
    | some c =>
      if c.validaCartao then
        { a with confirmados := a.confirmados ++ [(view.requisicoes.next, a.push)] }
      else a
    | none => a
  | _ => a

/-- The request screen is in step with the record. -/
structure Aberta (a : Anotacao) (r : Request) : Prop where
  valorHora : ∀ v ∈ a.vaga, r.valorHora = v.valor.getD (.finite 1)
  combina : Lancamento.Combina TotalArredondado ⟨a.vaga, r.stepHoras⟩ (some r.qtdHora)
    (some r.valorTotal) (some r.id)

/-- The request screens are in step with the record, whose Requisicoes were all inserted. -/
structure Fiel (a : Anotacao) (next : ObjectID) (p : Pedido) : Prop where
  request : ∀ r ∈ p.request, a.Aberta r
  checkout : ∀ c ∈ p.checkout, a.push.Combina TotalArredondado c.qtdHoras (some c.valorVaga) c.id
  consultas : ∀ q ∈ p.consultas, ∃ reg, a.confirmados.lookup q.objUpdate = some reg ∧
    reg.Combina TotalArredondado q.checkout.qtdHoras (some q.checkout.valorVaga) q.checkout.id
  inseridas : ∀ c ∈ a.confirmados, c.1 < next

/-- Identifiers are handed out, never taken back. -/
lemma next_applyAll_le (ds : List Change) (s : Store) :
    s.requisicoes.next ≤ (applyAll ds s).requisicoes.next := by
  induction ds generalizing s with
  | nil => exact Nat.le_refl _
  | cons d ds ih =>
    refine Nat.le_trans ?_ (ih (Edit.apply d s))
    cases d <;> first | exact Nat.le_refl _ | exact Nat.le_succ _

/-- A record grows without what it has of a Requisicao changing. -/
lemma lookup_append_of_some {l l' : List (ObjectID × Lancamento)} {k : ObjectID} {reg : Lancamento}
    (h : l.lookup k = some reg) : (l ++ l').lookup k = some reg := by
  simp [List.lookup_append, h]

/-- The record of a Requisicao just inserted. -/
lemma lookup_append_next {l : List (ObjectID × Lancamento)} {next : ObjectID}
    (h : ∀ c ∈ l, c.1 < next) (reg : Lancamento) :
    (l ++ [(next, reg)]).lookup next = some reg := by
  have hnone : l.lookup next = none := by
    rw [List.lookup_eq_none_iff]
    intro c hc
    simpa using Nat.ne_of_gt (h c hc)
  simp [List.lookup_append, hnone]

/-- The identifiers in use may grow. -/
lemma Fiel.mono {a : Anotacao} {next next' : ObjectID} {p : Pedido} (h : a.Fiel next p)
    (hn : next ≤ next') : a.Fiel next' p :=
  { h with inseridas := fun c hc => Nat.lt_of_lt_of_le (h.inseridas c hc) hn }

/-- An edit that leaves the hours and the amounts keeps the request screen in step. -/
lemma Fiel.editar {a : Anotacao} {next : ObjectID} {p : Pedido} (h : a.Fiel next p)
    {f : Request → Request} (hf : ∀ r, a.Aberta r → a.Aberta (f r)) : a.Fiel next (p.editar f) := by
  unfold Pedido.editar
  split_ifs
  · exact h
  · refine { h with request := fun r hr => ?_ }
    obtain ⟨r₀, hr₀, rfl⟩ := Option.map_eq_some_iff.mp hr
    exact hf r₀ (h.request r₀ hr₀)

/-- A request screen just opened is in step with its Vaga. -/
lemma aberta_viewDidLoad (a : Anotacao) (vaga : Option Vaga) (escolhida : ObjectID) (hoje : Date) :
    Aberta { a with vaga := vaga } (RequestViewController.viewDidLoad vaga escolhida hoje) := by
  refine ⟨?_, congrArg (some ∘ Double.finite) (by simp [RequestViewController.viewDidLoad]), ?_, ?_⟩
  · rintro v rfl
    rfl
  · rintro v rfl
    exact totalArredondado_zero _
  · rintro v rfl
    rfl

/-- The stepper moves the hours and the amount along. -/
lemma Aberta.definirHora {a : Anotacao} {r : Request} (h : a.Aberta r) (n : ℕ) :
    a.Aberta (RequestViewController.definirHora r n) where
  valorHora := h.valorHora
  combina :=
    { qtdHoras := rfl
      valorTotal := fun v hv => by
        rw [← h.valorHora v hv]
        exact totalArredondado_mul r.valorHora n
      id := h.combina.id }

/-- A push copies what the request screen shows. -/
lemma Aberta.combina_prepare {a : Anotacao} {r : Request} (h : a.Aberta r) (view : Store)
    (fetch : Bool) :
    let c := CheckoutVagaViewController.viewDidLoad view (RequestViewController.prepare r) fetch
    Lancamento.Combina TotalArredondado ⟨a.vaga, r.stepHoras⟩ c.qtdHoras (some c.valorVaga) c.id :=
  h.combina

/-- **One event of the request screens.** Every event keeps the screens in step with the record. -/
theorem Fiel.step {a : Anotacao} {view : Store} {p p' : Pedido} {e : Pedido.Event}
    {w : Write Change} (ha : a.Fiel view.requisicoes.next p) (h : p.step view e = some (w, p')) :
    (a.apos view p e).Fiel (applyAll w.changes view).requisicoes.next p' := by
  have hn := next_applyAll_le w.changes view
  cases Pedido.passo_of_step h with
  | @ignora e hp hc hf =>
    have hapos : a.apos view p e = a := by
      cases e with
      | prosseguir ordem fetch =>
        simp only [apos]
        split
        next r hr hc => exact absurd hc (hp ordem fetch r rfl hr)
        next => rfl
      | confirmar userID => simp only [apos, hc userID rfl]
      | _ => rfl
    rw [hapos]
    exact ha.mono hn
  | marca | modelo | placa | data => exact (ha.mono hn).editar fun _ hr => ⟨hr.1, hr.2⟩
  | definirHora n => exact (ha.mono hn).editar fun _ hr => hr.definirHora n
  | @prosseguir ordem fetch r alerta hr hc =>
    have hpush := (ha.request r hr).combina_prepare view fetch
    have hapos : a.apos view p (.prosseguir ordem fetch) =
        { a with push := ⟨a.vaga, r.stepHoras⟩ } := by simp only [apos, hr, hc]
    rw [hapos]
    refine ⟨fun r' hr' => ⟨(ha.request r' hr').1, (ha.request r' hr').2⟩, ?_, ha.consultas,
      ha.inseridas⟩
    rintro c ⟨⟩
    exact hpush
  | @confirma c userID hc hcartao =>
    simp only [apos, hc]
    rw [if_pos hcartao]
    refine ⟨by simp, by simp, fun q hq => ?_, fun c' hc' => ?_⟩
    · rcases List.mem_append.mp hq with hq | hq
      · obtain ⟨reg, hreg, hcombina⟩ := ha.consultas q hq
        exact ⟨reg, lookup_append_of_some hreg, hcombina⟩
      · obtain rfl := List.mem_singleton.mp hq
        exact ⟨a.push, lookup_append_next ha.inseridas a.push, ha.checkout c hc⟩
    · rcases List.mem_append.mp hc' with hc' | hc'
      · exact Nat.lt_succ_of_lt (ha.inseridas c' hc')
      · obtain rfl := List.mem_singleton.mp hc'
        exact Nat.lt_succ_self _
  | @recusa c userID hc hcartao =>
    have hapos : a.apos view p (.confirmar userID) = a := by
      simp only [apos, hc, hcartao]
      rfl
    rw [hapos]
    exact { ha.mono hn with }
  | outro ok hq =>
    exact { ha.mono hn with
      consultas := fun q' hq' => ha.consultas q' (List.mem_of_mem_eraseIdx hq') }
  | preenche firstname ok hq =>
    exact { ha.mono hn with
      consultas := fun q' hq' => ha.consultas q' (List.mem_of_mem_eraseIdx hq') }
  | fechaCheckout => exact { ha.mono hn with checkout := by simp }
  | fechaRequest hc => exact { ha.mono hn with request := by simp }

/-- A request screen opened by Home is in step with the Vaga it was opened for. -/
lemma Fiel.abrir {a : Anotacao} {next : ObjectID} {p : Pedido} (h : a.Fiel next p)
    (vaga : Option Vaga) (escolhida : ObjectID) (hoje : Date) :
    Fiel { a with vaga := vaga } next (p.abrir vaga escolhida hoje) where
  request := by
    rintro r ⟨⟩
    exact aberta_viewDidLoad a vaga escolhida hoje
  checkout := by simp [Pedido.abrir]
  consultas := h.consultas
  inseridas := h.inseridas

end Anotacao

/-! ## The application with its pushes on record -/

/-- The application, and the pushes on record. -/
structure Caixa where
  app : App
  anotacao : Anotacao

namespace Caixa

variable {env : Ambiente}

/-- The application at launch. -/
def inicial : Caixa := ⟨.inicial, ⟨none, ⟨none, 0⟩, []⟩⟩

/-- The record after an event. -/
def apos (s : App) (a : Anotacao) : App.Event → Anotacao
  | .home (.requestPark ordem) _ =>
    if s.home.thirdStepHidden then a
    else match s.home.requestPark ordem with
      | some (_, _, vagaFinal) => { a with vaga := vagaFinal.map Prod.snd }
      | none => a
  | .pedido e => a.apos s.view s.pedido e
  | _ => a

/-- One event of the application. -/
def step (env : Ambiente) (c : Caixa) (e : App.Event) : Option Caixa :=
  (c.app.step env e).map fun s => ⟨s, apos c.app c.anotacao e⟩

/-- Every Requisicao of the table that a checkout filled goes with its push. -/
def Confere (Total : Double → ℕ → Option Double → Prop) (a : Anotacao)
    (t : ObjectTable Requisicao) : Prop :=
  ∀ r ∈ t.rows, r.2.data ≠ none → ∃ reg, a.confirmados.lookup r.1 = some reg ∧
    reg.Combina Total r.2.qtdHoras r.2.valorTotal r.2.id

/-- Every Requisicao that a checkout filled goes with its push, in the context and on disk. -/
structure Cobrada (Total : Double → ℕ → Option Double → Prop) (c : Caixa) : Prop where
  contexto : Confere Total c.anotacao c.app.view.requisicoes
  gravadas : Confere Total c.anotacao c.app.persisted.requisicoes

/-- What holds in every run: the request screens and the Requisicoes are in step with the
record. -/
structure Fiel (c : Caixa) : Prop where
  pedido : c.anotacao.Fiel c.app.view.requisicoes.next c.app.pedido
  cobrada : Cobrada TotalArredondado c

/-- The record of a Requisicao never changes. -/
lemma lookup_apos {s : App} {a : Anotacao} {k : ObjectID} {reg : Lancamento}
    (h : a.confirmados.lookup k = some reg) (e : App.Event) :
    (apos s a e).confirmados.lookup k = some reg := by
  cases e with
  | home e hoje =>
    cases e with
    | requestPark ordem =>
      simp only [apos]
      repeat' split
      all_goals exact h
    | _ => exact h
  | pedido e =>
    cases e with
    | prosseguir ordem fetch =>
      simp only [apos, Anotacao.apos]
      split <;> exact h
    | confirmar userID =>
      simp only [apos, Anotacao.apos]
      repeat' split
      all_goals first | exact h | exact Anotacao.lookup_append_of_some h
    | _ => exact h
  | _ => exact h

/-- What the record says of a table, the record after an event says of it. -/
lemma Confere.apos {Total : Double → ℕ → Option Double → Prop} {a : Anotacao}
    {t : ObjectTable Requisicao} (h : Confere Total a t) (s : App) (e : App.Event) :
    Confere Total (apos s a e) t := by
  intro r hr hd
  obtain ⟨reg, hreg, hcombina⟩ := h r hr hd
  exact ⟨reg, lookup_apos hreg e, hcombina⟩

/-- A write of the application leaves the Requisicoes filled in step with the record. -/
lemma Confere.escrita {s : App} {a : Anotacao} {w : Write Change} {t : ObjectTable Requisicao}
    (h : Confere TotalArredondado a s.view.requisicoes)
    (ha : a.Fiel s.view.requisicoes.next s.pedido) (hw : App.Escrita s w t) :
    Confere TotalArredondado a t := by
  cases hw with
  | alheia => exact h
  | insere =>
    intro r hr hd
    rcases ObjectTable.mem_insert.mp hr with hr | rfl
    · exact h r hr hd
    · exact absurd rfl hd
  | decide k estado ok =>
    intro r hr hd
    obtain ⟨r₀, hr₀, rfl⟩ := ObjectTable.mem_modify.mp hr
    dsimp only at hd ⊢
    split_ifs at hd ⊢ <;> exact h r₀ hr₀ hd
  | @preenche q hq firstname ok =>
    intro r hr hd
    obtain ⟨r₀, hr₀, rfl⟩ := ObjectTable.mem_modify.mp hr
    dsimp only at hd ⊢
    split_ifs at hd ⊢ with hk
    · rw [hk]
      exact ha.consultas q hq
    · exact h r₀ hr₀ hd

/-- The record of the request screens after an event of the application. -/
lemma fiel_apos {s t : App} {a : Anotacao} {e : App.Event} {w : Write Change}
    (ha : a.Fiel s.view.requisicoes.next s.pedido) (h : s.opera env e = some (w, t)) :
    (apos s a e).Fiel (applyAll w.changes s.view).requisicoes.next t.pedido := by
  have hn := Anotacao.next_applyAll_le w.changes s.view
  cases e with
  | pedido e =>
    obtain ⟨⟨w', p⟩, hr, h⟩ := Option.map_eq_some_iff.mp h
    cases h
    exact ha.step hr
  | home e hoje =>
    obtain ⟨r, hr, h⟩ := Option.map_eq_some_iff.mp h
    cases h
    simp only [App.segue, apos]
    cases e with
    | requestPark ordem =>
      dsimp only
      split_ifs
      · exact ha
      · cases s.home.requestPark ordem with
        | none => exact ha
        | some r => exact ha.abrir _ _ _
    | _ => exact ha
  | _ =>
    obtain ⟨r, hr, h⟩ := Option.map_eq_some_iff.mp h
    cases h
    exact ha.mono hn

/-- **One event of the application.** Every step keeps the screens and the Requisicoes in step
with the record. -/
theorem Fiel.step {c c' : Caixa} {e : App.Event} (hc : Fiel c) (h : c.step env e = some c') :
    Fiel c' := by
  obtain ⟨s, hs, rfl⟩ := Option.map_eq_some_iff.mp h
  obtain ⟨w, t, ht, rfl⟩ := App.step_eq_some_iff.mp hs
  have hescrita := (App.efeito_of_opera ht).escrita
  have hview := (hc.cobrada.contexto.escrita hc.pedido hescrita).apos c.app e
  refine ⟨?_, ?_, ?_⟩
  · rw [App.view_exec]
    have hpedido := fiel_apos hc.pedido ht
    exact hpedido
  · rw [App.view_exec]
    exact hview
  · rw [App.persisted_exec]
    split_ifs
    · exact hview
    · exact hc.cobrada.gravadas.apos c.app e

/-- **Every request is charged as it was pushed.** In every run from launch each Requisicao that a
checkout filled, in the context and on disk, has the hours of the stepper when its checkout was
pushed, the price of the Vaga of the request screen times these hours, rounded as doubles are, and
the key of that Vaga, whatever the stepper, the screens and Firebase do later.

**Proof sketch.** The request screen is in step with its Vaga and its stepper, a push takes down
both and copies what the screen shows, and the record of a Requisicao never changes. -/
theorem cobrada_throughout (env : Ambiente) (es : List App.Event) :
    Runs.Throughout (step env) (Cobrada TotalArredondado) es inicial := by
  have hinicial : Fiel inicial := by
    refine ⟨⟨?_, ?_, ?_, ?_⟩, ⟨?_, ?_⟩⟩
    all_goals simp [inicial, App.inicial, Pedido.inicial, Confere, App.view, App.persisted,
      Store.empty]
  have hfiel : Runs.Throughout (step env) Fiel es inicial :=
    .of_step (fun _ _ _ hc h => hc.step h) hinicial
  exact hfiel.imp fun _ hc => hc.cobrada

/-- The garage is offered for a tenth an hour, and requested for three hours. -/
def decimos : List App.Event :=
  [.garage .abrirNova, .garage (.editar 0 { App.formulario with txtPreco := "0.1" }),
    .garage (.salvar 0), .garage (.geocode 0 (some App.posicao) true)] ++
    App.cadastro ++ App.escolha ++
    [.pedido (.marca "Fiat"), .pedido (.modelo "Uno"), .pedido (.placa "AAA-0001"),
      .pedido (.definirHora 3), .pedido (.prosseguir .acaoPrimeiro true),
      .pedido (.confirmar (some "ana")), .pedido (.firebase 0 (.dicionario (some "Ana")) true)]

/-- The double of a tenth times three is no double: the total stored is another number. -/
theorem not_cobrada_exato :
    ¬ ∀ (env : Ambiente) (es : List App.Event),
      Runs.Throughout (step env) (Cobrada TotalExato) es inicial := by
  intro h
  set decimo := Double.binary64.round (1 / 10) with hdecimo
  have htotal : Runs.Throughout (step Home.ambiente) (fun c =>
      ∀ r ∈ c.app.view.requisicoes.rows, r.2.data ≠ none →
        ∀ reg ∈ c.anotacao.confirmados.lookup r.1,
          ∀ v ∈ reg.vaga, v.valor = some (.finite decimo) →
            r.2.valorTotal = some (.finite (decimo * reg.horas))) decimos inicial := by
    refine (h Home.ambiente decimos).imp fun c hc r hr hd reg hreg v hv hvalor => ?_
    obtain ⟨reg', hreg', hcombina⟩ := hc.contexto r hr hd
    obtain rfl : reg' = reg := Option.some.inj (hreg'.symm.trans hreg)
    exact hcombina.valorTotal v hv decimo (by rw [hvalor]; rfl)
  rw [hdecimo] at htotal
  exact absurd htotal (by decide +kernel)

end Caixa

end Parken
