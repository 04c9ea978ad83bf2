import Parken.Entities
import Parken.Lib.Runs

set_option relaxedAutoImplicit false
set_option autoImplicit false

/-!
# The way in

The screens of `Welcome.storyboard` before Home, and the Firebase Auth calls they issue. The
calls are answered at any time and in any order: first Firebase sets its current user, later the
completion runs. A completion that finds its screen gone does nothing (`[weak self]`).

Home is presented over these screens; of Home and the screens reached from it only what reads
the current user is modelled here.

## Main definitions

* `Parken.Tela`, `Parken.Chamada`, `Parken.Welcome` — a screen, a call and the state.
* `Parken.AccessViewController.validateEmail`, `Parken.Welcome.signInClick`,
  `Parken.Welcome.registerClick`, `Parken.Welcome.completion` — the functions of the screens.
* `Parken.Welcome.step` — the events.
* `Parken.Welcome.Segura` — the invariant: a user is signed in while one is relied on.
* `Parken.Welcome.SoComUsuario` — the condition on a step.

## Main results

* `Parken.Welcome.Segura.step` — a step that meets the condition keeps the invariant.
* `Parken.Welcome.comUsuario_of_soComUsuario` — then Home is shown only with a user signed in,
  and no forced unwrap of the current user traps.
* `Parken.Welcome.not_comUsuario_button` — a tap that shows Home with no user.
-/

namespace Parken

/-- A screen of `Welcome.storyboard`, with the fields that are read back. -/
inductive Tela where
  | access (emailTextField passwordTextField : String)
  | register (emailField passwordField : String)
  | signIn
  | registerUpdate
  | presentation
  | terms
  | privacy
deriving DecidableEq

/-- The access screen. -/
def Tela.isAccess : Tela → Bool
  | .access _ _ => true
  | _ => false

/-- The Firebase Auth calls. -/
inductive Tipo where
  /-- `signIn` of the access screen. -/
  | signIn
  /-- `createUser` of the registration screen. -/
  | createUser
  /-- The `signIn` in the completion of `createUser`. -/
  | signInCadastro
deriving DecidableEq

/-- A Firebase Auth call whose completion has not run. -/
structure Chamada where
  /-- The screen that issued it (`self`). -/
  tela : ℕ
  tipo : Tipo
  email : String
  password : String
  /-- Whether it succeeded, once Firebase has decided. -/
  resultado : Option Bool
deriving DecidableEq

/-- The state of the screens. -/
structure Welcome where
  /-- The navigation stack, the front screen first. Every screen pushed is a new instance. -/
  pilha : List (ℕ × Tela)
  /-- The number of the next instance. -/
  proxima : ℕ
  /-- Home is shown, over the stack. -/
  home : Bool
  /-- The menu of Home (`CustomNavViewController`) has loaded its view. -/
  menu : Bool
  /-- `Auth.auth().currentUser?.uid`. -/
  currentUser : Option String
  chamadas : List Chamada
  /-- The alert shown last. -/
  alerta : Option Alerta

namespace AccessViewController

/-- `[A-Z0-9a-z._%+-]`. -/
def caractereLocal (c : Char) : Bool := c.isAlphanum || c ∈ ['.', '_', '%', '+', '-']

/-- `[A-Za-z0-9.-]`. -/
def caractereDominio (c : Char) : Bool := c.isAlphanum || c ∈ ['.', '-']

/-- `validateEmail(emailTyped:)`: the pattern
`[A-Z0-9a-z._%+-]+@[A-Za-z0-9.-]+\\.[A-Za-z]{2,64}` matches the whole text. Neither the local
part nor the domain contains `@`, and the last part contains no point, so the text is split at
its only `@` and its last point. -/
def validateEmail (emailTyped : String) : Bool :=
  let (localPart, resto) := emailTyped.toList.span (· ≠ '@')
  let (ultima, antes) := resto.tail.reverse.span (· ≠ '.')
  let dominio := antes.tail
  !localPart.isEmpty && localPart.all caractereLocal && !resto.isEmpty && !antes.isEmpty &&
    !dominio.isEmpty && dominio.all caractereDominio && ultima.all Char.isAlpha &&
    decide (2 ≤ ultima.length ∧ ultima.length ≤ 64)

/-- The alert of `showEmptyDataAlert`. -/
def alertaDados : Alerta := ⟨"Dados incorretos", "Os dados inseridos estao incorretos"⟩

example : validateEmail "ana@parken.com.br" = true ∧ validateEmail "ana@parken" = false := by
  decide +kernel

end AccessViewController

namespace Welcome

/-- A screen is pushed. -/
def push (w : Welcome) (t : Tela) : Welcome :=
  { w with pilha := (w.proxima, t) :: w.pilha, proxima := w.proxima + 1 }

/-- The front screen is popped; the root stays. -/
def pop (w : Welcome) : Welcome :=
  match w.pilha with
  | _ :: t :: pilha => { w with pilha := t :: pilha }
  | _ => w

/-- The front screen shows `t` from now on. -/
def editar (w : Welcome) (t : Tela) : Welcome :=
  match w.pilha with
  | (i, _) :: pilha => { w with pilha := (i, t) :: pilha }
  | [] => w

/-- The screen that issued a call is still there. -/
def viva (w : Welcome) (tela : ℕ) : Bool := tela ∈ w.pilha.map Prod.fst

/-- `signInClick` of access screen `tela`. -/
def signInClick (w : Welcome) (tela : ℕ) (email password : String) : Welcome :=
  if email.isEmpty || password.isEmpty then w
  else if AccessViewController.validateEmail email then
    { w with chamadas := w.chamadas ++ [⟨tela, .signIn, email, password, none⟩] }
  else { w with alerta := some AccessViewController.alertaDados }

/-- `registerClick` of registration screen `tela`. -/
def registerClick (w : Welcome) (tela : ℕ) (email password : String) : Welcome :=
  { w with chamadas := w.chamadas ++ [⟨tela, .createUser, email, password, none⟩] }

/-- `SignInViewController.viewDidLoad`: `none` where no user is signed in (`userID!`). -/
def pushSignIn (w : Welcome) : Option Welcome :=
  w.currentUser.map fun _ => w.push .signIn

/-- The completion of a call that succeeded or failed. `signOut` is the outcome of the
`signOut` of a registration. `none` where it traps. -/
def completion (w : Welcome) (c : Chamada) (ok signOut : Bool) : Option Welcome :=
  if w.viva c.tela then
    match c.tipo, ok with
    | .signIn, false => some { w with alerta := some AccessViewController.alertaDados }
    | .signIn, true => w.pushSignIn
    | .createUser, false => some w
    | .createUser, true =>
      let w : Welcome := { w with
        chamadas := w.chamadas ++ [⟨c.tela, .signInCadastro, c.email, c.password, none⟩] }
      -- `user!.uid`
      match w.currentUser with
      | none => none
      | some _ => some (if signOut then { w with currentUser := none } else w)
    | .signInCadastro, _ => some w
  else some w

/-- An event. The taps are those of the controls wired in the storyboards. -/
inductive Event where
  /-- The user edits the fields of the access screen. -/
  | editar (email password : String)
  /-- The user edits the fields of the registration screen. -/
  | editarCadastro (email password : String)
  /-- `Entrar`. -/
  | entrar
  /-- `Registrar`: its action `signInClick` and its segue, which touch different things. -/
  | registrar
  /-- `Termos`. -/
  | termos
  /-- `Política de Privacidade`. -/
  | privacidade
  /-- `Conheça o Serviço`. -/
  | conheca
  /-- `Esqueci a minha senha`. -/
  | esqueci
  /-- The button `Qtd-6O-1VR`, titled `Button`. -/
  | button
  /-- `Finalizar Cadastro`: its action `registerClick` and its segue. Its other action,
  `acessarClick`, names the screen of another scene, which is not loaded; it is left out. -/
  | finalizarCadastro
  /-- `Atualizar Conta`: its segue; the password reset leaves the current user. -/
  | atualizarConta
  /-- `Skip`, or the way back of the navigation bar. -/
  | voltar
  /-- `Verificar` (`acessarClick`); `Verificar por e-mail` is not wired. -/
  | verificar
  /-- Firebase decides the `k`-th call: it fails, or the user it signs in becomes the current
  one. -/
  | firebase (k : ℕ) (uid : Option String)
  /-- The completion of the `k`-th call runs. -/
  | completion (k : ℕ) (signOut : Bool)
  /-- `openNavClick` of Home; the menu loads its view the first time. -/
  | openNav
  /-- A checkout with a card is confirmed. -/
  | confirmar
deriving DecidableEq

/-- The screens at launch, with no restored session. -/
def inicial : Welcome where
  pilha := [(0, .access "" "")]
  proxima := 1
  home := false
  menu := false
  currentUser := none
  chamadas := []
  alerta := none

/-- The front screen, while Home does not cover the stack. -/
def frente (w : Welcome) : Option (ℕ × Tela) := if w.home then none else w.pilha.head?

/-- A tap on a control of the access screen: nothing where another screen is in front. -/
def noAccess (w : Welcome) (f : ℕ → String → String → Welcome) : Welcome :=
  match w.frente with
  | some (i, .access email password) => f i email password
  | _ => w

/-- A tap of the registration screen. -/
def noRegister (w : Welcome) (f : ℕ → String → String → Welcome) : Welcome :=
  match w.frente with
  | some (i, .register email password) => f i email password
  | _ => w

/-- A tap of a screen without fields. -/
def naTela (w : Welcome) (t : Tela) (f : Welcome) : Welcome :=
  if w.frente.map Prod.snd = some t then f else w

/-- Firebase decides a call. -/
def decide (w : Welcome) (k : ℕ) (uid : Option String) : Welcome :=
  match w.chamadas[k]? with
  | none => w
  | some c =>
    match c.resultado with
    | some _ => w
    | none => { w with
        chamadas := w.chamadas.set k { c with resultado := some uid.isSome }
        currentUser := uid.or w.currentUser }

/-- One event, or `none` where the program traps. -/
def step (w : Welcome) : Event → Option Welcome
  | .editar email password => some (w.noAccess fun _ _ _ => w.editar (.access email password))
  | .editarCadastro email password =>
    some (w.noRegister fun _ _ _ => w.editar (.register email password))
  | .entrar => some (w.noAccess w.signInClick)
  | .registrar =>
    some (w.noAccess fun i email password =>
      (w.signInClick i email password).push (.register email password))
  | .termos => some (w.noAccess fun _ _ _ => w.push .terms)
  | .privacidade => some (w.noAccess fun _ _ _ => w.push .privacy)
  | .conheca => some (w.noAccess fun _ _ _ => w.push .presentation)
  | .esqueci => some (w.noAccess fun _ _ _ => w.push .registerUpdate)
  | .button => some (w.noAccess fun _ _ _ => { w with home := true })
  | .finalizarCadastro =>
    some (w.noRegister fun i email password =>
      (w.registerClick i email password).push (.access email ""))
  | .atualizarConta => some (w.naTela .registerUpdate (w.push (.access "" "")))
  | .voltar => some (if w.home then w else w.pop)
  | .verificar => some (w.naTela .signIn { w with home := true })
  | .firebase k uid => some (w.decide k uid)
  | .completion k signOut =>
    match w.chamadas[k]? with
    | none => some w
    | some c =>
      match c.resultado with
      | none => some w
      | some ok => { w with chamadas := w.chamadas.eraseIdx k }.completion c ok signOut
  | .openNav =>
    if w.home && !w.menu then
      -- `CustomNavViewController.viewDidLoad`: `userID!`
      w.currentUser.map fun _ => { w with menu := true }
    else some w
  | .confirmar =>
    -- `CheckoutVagaViewController.save`: `userID!`
    if w.home then w.currentUser.map fun _ => w else some w

/-! ## The gate -/

/-- The current user is relied on: Home is shown, the verification screen is on the stack, or a
sign-in of a live access screen has succeeded and its completion is about to run. -/
def Exposta (w : Welcome) : Prop :=
  w.home = true ∨ (∃ p ∈ w.pilha, p.2 = .signIn) ∨
    ∃ c ∈ w.chamadas, c.tipo = .signIn ∧ c.resultado = some true ∧ w.viva c.tela = true

instance (w : Welcome) : Decidable w.Exposta := inferInstanceAs (Decidable (_ ∨ _))

/-- What holds in every run that meets the condition below: a user is signed in while one is
relied on, and the calls are of screens that were pushed. -/
structure Segura (w : Welcome) : Prop where
  usuario : w.Exposta → w.currentUser.isSome
  pilha : ∀ p ∈ w.pilha, p.1 < w.proxima
  chamadas : ∀ c ∈ w.chamadas, c.tela < w.proxima

lemma viva_iff {w : Welcome} {i : ℕ} : w.viva i = true ↔ ∃ t, (i, t) ∈ w.pilha := by
  simp [viva]

/-- The screens of the stack were all pushed, a new one included. -/
lemma Segura.pilha_push {w : Welcome} (h : Segura w) (t : Tela) :
    ∀ p ∈ (w.push t).pilha, p.1 < (w.push t).proxima := by
  intro p hp
  show p.1 < w.proxima + 1
  rcases List.mem_cons.mp hp with rfl | hp
  · show w.proxima < w.proxima + 1
    omega
  · have hlt := h.pilha p hp
    omega

/-- So were the screens the calls wait for. -/
lemma Segura.chamadas_push {w : Welcome} (h : Segura w) (t : Tela) :
    ∀ c ∈ (w.push t).chamadas, c.tela < (w.push t).proxima := by
  intro c hc
  show c.tela < w.proxima + 1
  have hlt := h.chamadas c hc
  omega

/-- A screen other than the verification screen is pushed. -/
lemma Segura.push {w : Welcome} (h : Segura w) {t : Tela} (ht : t ≠ .signIn) :
    Segura (w.push t) := by
  refine ⟨fun hexp => h.usuario ?_, h.pilha_push t, h.chamadas_push t⟩
  · obtain hh | ⟨p, hp, hs⟩ | ⟨c, hc, hct, hcr, hv⟩ := hexp
    · exact .inl hh
    · rcases List.mem_cons.mp hp with rfl | hp
      · exact absurd hs ht
      · exact .inr (.inl ⟨p, hp, hs⟩)
    · refine .inr (.inr ⟨c, hc, hct, hcr, viva_iff.mpr ?_⟩)
      obtain ⟨u, hu⟩ := viva_iff.mp hv
      rcases List.mem_cons.mp hu with heq | hu
      · have hlt := h.chamadas c hc
        have htela : c.tela = w.proxima := (Prod.mk.inj heq).1
        omega
      · exact ⟨u, hu⟩

/-- The front screen is popped. -/
lemma Segura.pop {w : Welcome} (h : Segura w) : Segura w.pop := by
  unfold Welcome.pop
  split
  next a t pilha hp =>
    have hsub : ∀ p ∈ t :: pilha, p ∈ w.pilha := fun p hm => hp ▸ List.mem_cons_of_mem _ hm
    refine ⟨fun hexp => h.usuario ?_, fun p hm => h.pilha p (hsub p hm), h.chamadas⟩
    obtain hh | ⟨p, hm, hs⟩ | ⟨c, hc, hct, hcr, hv⟩ := hexp
    · exact .inl hh
    · exact .inr (.inl ⟨p, hsub p hm, hs⟩)
    · obtain ⟨u, hu⟩ := viva_iff.mp hv
      exact .inr (.inr ⟨c, hc, hct, hcr, viva_iff.mpr ⟨u, hsub _ hu⟩⟩)
  next => exact h

/-- The fields of the front screen are edited. -/
lemma Segura.editar {w : Welcome} (h : Segura w) {t : Tela} (ht : t ≠ .signIn) :
    Segura (w.editar t) := by
  unfold Welcome.editar
  split
  next i u pilha hp =>
    refine ⟨fun hexp => h.usuario ?_, ?_, h.chamadas⟩
    · obtain hh | ⟨p, hm, hs⟩ | ⟨c, hc, hct, hcr, hv⟩ := hexp
      · exact .inl hh
      · rcases List.mem_cons.mp hm with rfl | hm
        · exact absurd hs ht
        · exact .inr (.inl ⟨p, hp ▸ List.mem_cons_of_mem _ hm, hs⟩)
      · refine .inr (.inr ⟨c, hc, hct, hcr, ?_⟩)
        simpa [viva, hp] using hv
    · intro p hm
      rcases List.mem_cons.mp hm with rfl | hm
      · exact h.pilha (i, u) (hp ▸ List.mem_cons_self)
      · exact h.pilha p (hp ▸ List.mem_cons_of_mem _ hm)
  next => exact h

/-- A call that Firebase has not decided relies on no user. -/
lemma exposta_of_chama {w : Welcome} {c : Chamada} (hr : c.resultado = none)
    (h : Exposta { w with chamadas := w.chamadas ++ [c] }) : w.Exposta := by
  obtain hh | hs | ⟨c', hc, hct, hcr, hv⟩ := h
  · exact .inl hh
  · exact .inr (.inl hs)
  · rcases List.mem_append.mp hc with hc | hc
    · exact .inr (.inr ⟨c', hc, hct, hcr, hv⟩)
    · obtain rfl := List.mem_singleton.mp hc
      exact absurd (hr.symm.trans hcr) (by simp)

/-- A call less relies on no more. -/
lemma exposta_of_eraseIdx {w : Welcome} {k : ℕ}
    (h : Exposta { w with chamadas := w.chamadas.eraseIdx k }) : w.Exposta :=
  h.imp_right (Or.imp_right fun ⟨c, hc, h⟩ => ⟨c, List.mem_of_mem_eraseIdx hc, h⟩)

/-- A call is issued by a screen that was pushed. -/
lemma Segura.chama {w : Welcome} (h : Segura w) {c : Chamada} (hr : c.resultado = none)
    (ht : c.tela < w.proxima) : Segura { w with chamadas := w.chamadas ++ [c] } := by
  refine ⟨fun hexp => h.usuario (exposta_of_chama hr hexp), h.pilha, fun c' hc => ?_⟩
  rcases List.mem_append.mp hc with hc | hc
  · exact h.chamadas c' hc
  · obtain rfl := List.mem_singleton.mp hc
    exact ht

/-- An alert changes nothing the gate depends on. -/
lemma Segura.alerta {w : Welcome} (h : Segura w) (a : Option Alerta) :
    Segura { w with alerta := a } :=
  ⟨h.usuario, h.pilha, h.chamadas⟩

lemma Segura.signInClick {w : Welcome} (h : Segura w) {i : ℕ} (hi : i < w.proxima)
    (email password : String) : Segura (w.signInClick i email password) := by
  unfold Welcome.signInClick
  split_ifs
  · exact h
  · exact h.chama rfl hi
  · exact h.alerta _

/-- The completion of the `k`-th call signs the user out: it ends a registration that succeeded,
its screen is still there, and the `signOut` in it succeeds. -/
def sai (w : Welcome) (k : ℕ) (signOut : Bool) : Bool :=
  match w.chamadas[k]? with
  | some c => c.tipo = .createUser && c.resultado = some true && w.viva c.tela && signOut
  | none => false

/-- The condition on a step: the button `Qtd-6O-1VR` is tapped only while a user is signed in,
and no registration signs out while the current user is relied on. -/
def SoComUsuario (w : Welcome) : Event → Prop
  | .button => ∀ p ∈ w.frente, p.2.isAccess = true → w.currentUser.isSome
  | .completion k signOut => w.sai k signOut = true → ¬ w.Exposta
  | _ => True

instance (w : Welcome) : ∀ e, Decidable (SoComUsuario w e)
  | .button => inferInstanceAs (Decidable (∀ p ∈ w.frente, p.2.isAccess = true → _))
  | .completion _ _ => inferInstanceAs (Decidable (_ → ¬ w.Exposta))
  | .editar _ _ | .editarCadastro _ _ | .entrar | .registrar | .termos | .privacidade | .conheca
  | .esqueci | .finalizarCadastro | .atualizarConta | .voltar | .verificar | .firebase _ _
  | .openNav | .confirmar => .isTrue trivial

/-- The forced unwraps of `currentUser?.uid` in the verification screen, in the menu of Home and
in the checkout do not trap: the steps that run one complete. -/
def NaoTrapa (w : Welcome) : Event → Prop
  | .completion k signOut => (∀ c ∈ w.chamadas[k]?, c.tipo = .signIn) →
    (w.step (.completion k signOut)).isSome
  | .openNav => (w.step .openNav).isSome
  | .confirmar => (w.step .confirmar).isSome
  | _ => True

/-- The screen in front is on the stack, and Home does not cover it. -/
lemma mem_of_frente {w : Welcome} {p : ℕ × Tela} (h : w.frente = some p) :
    w.home = false ∧ p ∈ w.pilha := by
  unfold frente at h
  split_ifs at h with hh
  exact ⟨by simpa using hh, List.mem_of_head? h⟩

/-- A tap of the access screen keeps the gate safe if what it does there does. -/
lemma Segura.noAccess {w : Welcome} (h : Segura w) {f : ℕ → String → String → Welcome}
    (hf : ∀ i email password, w.frente = some (i, .access email password) →
      Segura (f i email password)) : Segura (w.noAccess f) := by
  unfold Welcome.noAccess
  split
  next i email password hfrente => exact hf i email password hfrente
  next => exact h

/-- A tap of the registration screen keeps the gate safe if what it does there does. -/
lemma Segura.noRegister {w : Welcome} (h : Segura w) {f : ℕ → String → String → Welcome}
    (hf : ∀ i email password, w.frente = some (i, .register email password) →
      Segura (f i email password)) : Segura (w.noRegister f) := by
  unfold Welcome.noRegister
  split
  next i email password hfrente => exact hf i email password hfrente
  next => exact h

/-- A tap of a screen without fields keeps the gate safe if what it does there does. -/
lemma Segura.naTela {w w' : Welcome} (h : Segura w) {t : Tela}
    (hf : ∀ i, w.frente = some (i, t) → Segura w') : Segura (w.naTela t w') := by
  unfold Welcome.naTela
  split_ifs with hfrente
  · obtain ⟨⟨i, _⟩, hp, rfl⟩ := Option.map_eq_some_iff.mp hfrente
    exact hf i hp
  · exact h

/-- Firebase decides a call. -/
lemma Segura.decide {w : Welcome} (h : Segura w) (k : ℕ) (uid : Option String) :
    Segura (w.decide k uid) := by
  unfold Welcome.decide
  split
  next => exact h
  next c hc =>
    split
    next => exact h
    next hr =>
      have hmem := List.mem_of_getElem? hc
      refine ⟨fun hexp => ?_, h.pilha, ?_⟩
      · cases uid with
        | some uid => rfl
        | none =>
          refine h.usuario ?_
          obtain hh | hs | ⟨c', hc', hct, hcr, hv⟩ := hexp
          · exact .inl hh
          · exact .inr (.inl hs)
          · rcases List.mem_or_eq_of_mem_set hc' with hc' | rfl
            · exact .inr (.inr ⟨c', hc', hct, hcr, hv⟩)
            · cases hcr
      · intro c' hc'
        rcases List.mem_or_eq_of_mem_set hc' with hc' | rfl
        · exact h.chamadas c' hc'
        · exact h.chamadas c hmem

/-- A call whose completion runs is no longer waiting. -/
lemma Segura.eraseIdx {w : Welcome} (h : Segura w) (k : ℕ) :
    Segura { w with chamadas := w.chamadas.eraseIdx k } :=
  ⟨fun hexp => h.usuario (exposta_of_eraseIdx hexp), h.pilha,
    fun c hc => h.chamadas c (List.mem_of_mem_eraseIdx hc)⟩

/-- The verification screen is pushed while a user is signed in. -/
lemma Segura.pushSignIn {w w' : Welcome} (h : Segura w) (hs : w.pushSignIn = some w') :
    Segura w' := by
  obtain ⟨uid, huser, rfl⟩ := Option.map_eq_some_iff.mp hs
  exact ⟨fun _ => Option.isSome_of_mem huser, h.pilha_push .signIn, h.chamadas_push .signIn⟩

/-- The completion of a call keeps the gate safe, under the condition on sign-outs. -/
lemma Segura.completion {w w' : Welcome} (h : Segura w) {k : ℕ} {c : Chamada} {ok signOut : Bool}
    (hc : w.chamadas[k]? = some c) (hr : c.resultado = some ok)
    (hcond : SoComUsuario w (.completion k signOut))
    (hs : { w with chamadas := w.chamadas.eraseIdx k }.completion c ok signOut = some w') :
    Segura w' := by
  have hsem := h.eraseIdx k
  have htela := h.chamadas c (List.mem_of_getElem? hc)
  unfold Welcome.completion at hs
  by_cases hviva : ({ w with chamadas := w.chamadas.eraseIdx k } : Welcome).viva c.tela = true
  · rw [if_pos hviva] at hs
    split at hs
    · cases hs
      exact hsem.alerta _
    · exact hsem.pushSignIn hs
    · cases hs
      exact hsem
    next htipo =>
      have hchama := hsem.chama (c := ⟨c.tela, .signInCadastro, c.email, c.password, none⟩) rfl
        htela
      dsimp only at hs
      split at hs
      · cases hs
      · cases signOut with
        | false =>
          cases hs
          exact hchama
        | true =>
          cases hs
          -- the sign-out leaves nothing that relies on a user
          have hexposta : ¬ w.Exposta :=
            hcond (by simpa [sai, hc, htipo, hr, viva] using hviva)
          refine ⟨fun hexp => absurd ?_ hexposta, hchama.pilha, hchama.chamadas⟩
          exact exposta_of_eraseIdx (exposta_of_chama rfl hexp)
    · cases hs
      exact hsem
  · rw [if_neg hviva] at hs
    cases hs
    exact hsem

/-- A step that meets the condition keeps the gate safe.

**Proof sketch.** One case for each event: the button and the verification screen show Home
only with a user, the completion of a sign-in finds the user Firebase set, and a registration
signs out only where no user is relied on. -/
theorem Segura.step {w w' : Welcome} {e : Event} (h : Segura w) (hcond : SoComUsuario w e)
    (hs : w.step e = some w') : Segura w' := by
  cases e with
  | editar email password =>
    cases hs
    exact h.noAccess fun _ _ _ _ => h.editar (by simp)
  | editarCadastro email password =>
    cases hs
    exact h.noRegister fun _ _ _ _ => h.editar (by simp)
  | entrar =>
    cases hs
    exact h.noAccess fun _ email password hf =>
      h.signInClick (h.pilha _ (mem_of_frente hf).2) email password
  | registrar =>
    cases hs
    refine h.noAccess fun _ email password hf => Segura.push ?_ (by simp)
    exact h.signInClick (h.pilha _ (mem_of_frente hf).2) email password
  | termos | privacidade | conheca | esqueci =>
    cases hs
    exact h.noAccess fun _ _ _ _ => h.push (by simp)
  | button =>
    cases hs
    refine h.noAccess fun _ _ _ hf => ?_
    exact ⟨fun _ => hcond _ hf rfl, h.pilha, h.chamadas⟩
  | finalizarCadastro =>
    cases hs
    refine h.noRegister fun _ _ _ hf => Segura.push ?_ (by simp)
    exact h.chama rfl (h.pilha _ (mem_of_frente hf).2)
  | atualizarConta =>
    cases hs
    exact h.naTela fun _ _ => h.push (by simp)
  | voltar =>
    cases hs
    split_ifs
    · exact h
    · exact h.pop
  | verificar =>
    cases hs
    refine h.naTela fun _ hf => ?_
    have huser := h.usuario (.inr (.inl ⟨_, (mem_of_frente hf).2, rfl⟩))
    exact ⟨fun _ => huser, h.pilha, h.chamadas⟩
  | firebase k uid =>
    cases hs
    exact h.decide k uid
  | completion k signOut =>
    simp only [Welcome.step] at hs
    split at hs
    · cases hs
      exact h
    next c hc =>
      split at hs
      · cases hs
        exact h
      next ok hr => exact h.completion hc hr hcond hs
  | openNav =>
    simp only [Welcome.step] at hs
    split_ifs at hs
    · obtain ⟨_, _, rfl⟩ := Option.map_eq_some_iff.mp hs
      exact ⟨h.usuario, h.pilha, h.chamadas⟩
    · cases hs
      exact h
  | confirmar =>
    simp only [Welcome.step] at hs
    split_ifs at hs
    · obtain ⟨_, _, rfl⟩ := Option.map_eq_some_iff.mp hs
      exact h
    · cases hs
      exact h

/-- While the gate is safe no forced unwrap of the current user traps. -/
theorem Segura.naoTrapa {w : Welcome} (h : Segura w) (e : Event) : NaoTrapa w e := by
  cases e with
  | completion k signOut =>
    intro hsign
    simp only [Welcome.step]
    split
    · rfl
    next c hc =>
      split
      · rfl
      next ok hr =>
        unfold Welcome.completion
        by_cases hviva :
            ({ w with chamadas := w.chamadas.eraseIdx k } : Welcome).viva c.tela = true
        · rw [if_pos hviva, hsign c hc]
          cases ok with
          | false => rfl
          | true =>
            have huser := h.usuario (.inr (.inr
              ⟨c, List.mem_of_getElem? hc, hsign c hc, hr, hviva⟩))
            simpa [Welcome.pushSignIn] using huser
        · rw [if_neg hviva]
          rfl
  | openNav =>
    simp only [NaoTrapa, Welcome.step]
    split_ifs with hh
    · simpa using h.usuario (.inl (by simp at hh; exact hh.1))
    · rfl
  | confirmar =>
    simp only [NaoTrapa, Welcome.step]
    split_ifs with hh
    · simpa using h.usuario (.inl hh)
    · rfl
  | _ => trivial

/-- At launch nothing relies on a user. -/
lemma segura_inicial : Segura inicial := by
  refine ⟨?_, by simp [inicial], by simp [inicial]⟩
  rintro (hh | ⟨p, hp, hs⟩ | ⟨c, hc, _⟩)
  · cases hh
  · obtain rfl : p = (0, .access "" "") := by simpa [inicial] using hp
    cases hs
  · cases hc

/-- Home is shown only while a user is signed in. -/
def ComUsuario (w : Welcome) : Prop := w.home = true → w.currentUser.isSome

instance (w : Welcome) : Decidable w.ComUsuario := inferInstanceAs (Decidable (_ → _))

/-- **The gate to Home.** In a run from launch whose steps meet the condition, Home is shown only
while a user is signed in, and no forced unwrap of the current user traps. -/
theorem comUsuario_of_soComUsuario (es : List Event)
    (h : Runs.Meets step SoComUsuario es inicial) :
    Runs.Throughout step ComUsuario es inicial ∧ Runs.Attempts step NaoTrapa es inicial := by
  have hstep : ∀ w e w', Segura w → SoComUsuario w e → step w e = some w' → Segura w' :=
    fun _ _ _ hw hcond hs => hw.step hcond hs
  constructor
  · have hsegura := Runs.Throughout.of_meets hstep segura_inicial h
    exact hsegura.imp fun w hw hh => hw.usuario (.inl hh)
  · exact Runs.Attempts.of_meets hstep (fun _ e hw => hw.naoTrapa e) segura_inicial h

/-- A sign-in, the verification screen, Home, its menu and a checkout. -/
def entrada : List Event :=
  [.editar "ana@parken.com" "123456", .entrar, .firebase 0 (some "ana"), .completion 0 false,
    .verificar, .openNav, .confirmar]

/-- The gate holds in a run that signs in and reaches the checkout. -/
theorem comUsuario_entrada :
    Runs.Throughout step ComUsuario entrada inicial ∧
      Runs.Attempts step NaoTrapa entrada inicial :=
  comUsuario_of_soComUsuario entrada (by decide +kernel)

/-- The gate does not hold in every run: the button `Qtd-6O-1VR` of the access screen shows Home
with no user signed in. -/
theorem not_comUsuario_button :
    ¬ ∀ es, Runs.Throughout step ComUsuario es inicial ∧
      Runs.Attempts step NaoTrapa es inicial := by
  intro h
  have hbutton := (h [.button]).1
  exact absurd hbutton (by decide)

/-- After that tap opening the menu of Home traps. -/
example : Runs.run step [.button, .openNav] inicial = none := rfl

end Welcome

end Parken
