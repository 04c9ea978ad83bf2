import Parken.Access

set_option relaxedAutoImplicit false
set_option autoImplicit false

/-!
# A registration

`registerClick` of `RegisterViewController` creates an account; its completion issues a sign-in it
does not wait for, writes the profile under the uid of the current user, with the fields as the
screen shows them by then, and signs the current user out. Firebase decides the calls in any order
and sets its current user at once; the completions run later.

The screens may be open several at a time, each pressed any number of times. The accounts and the
profiles are those of Firebase; a uid is the place of an account among all accounts ever created.

## Main definitions

* `Parken.RegisterViewController.perfil` — the profile a screen writes.
* `Parken.Cadastro`, `Parken.Cadastro.step` — the state of the registrations and their events.
* `Parken.Cadastro.Projeta` — the registrations as `Parken.Welcome` has them.
* `Parken.Cadastro.PerfisProprios`, `Parken.Cadastro.Encerrada` — every profile is under the account
  of its e-mail, and after the last completion no user is signed in.
* `Parken.Cadastro.SessaoPropria` — the condition on an event.

## Main results

* `Parken.Cadastro.Projeta.step_completion`, `Parken.Cadastro.Projeta.decide`,
  `Parken.Cadastro.Projeta.registerClick` — the two models agree on a registration.
* `Parken.Cadastro.passo_iff` — next to the invariant, what an event does is decided by the
  condition.
* `Parken.Cadastro.registra_of_sessaoPropria` — the runs that meet the condition do not trap, write
  their own profiles and end signed out.
* `Parken.Cadastro.limpa_iff_sessaoPropria` — the condition is exact for what holds before the last
  completion.
-/

namespace Parken

/-- The fields of `RegisterViewController`. -/
structure Campos where
  firstNameField : String
  lastNameField : String
  documentNumberField : String
  phoneNumberField : String
  emailField : String
  passwordField : String
deriving DecidableEq

/-- A profile, as written to the database under `users`. -/
structure Perfil where
  firstname : String
  lastname : String
  cpf : String
  phone : String
  email : String
  password : String
deriving DecidableEq

namespace RegisterViewController

/-- `viewDidLoad`, with what the access screen handed over. -/
def viewDidLoad (emailAddress passwordTyped : String) : Campos :=
  ⟨"", "", "", "", emailAddress, passwordTyped⟩

/-- The value of `setValue`. -/
def perfil (campos : Campos) : Perfil where
  firstname := campos.firstNameField
  lastname := campos.lastNameField
  cpf := campos.documentNumberField
  phone := campos.phoneNumberField
  email := campos.emailField
  password := campos.passwordField

end RegisterViewController

/-- An account of Firebase. -/
structure Conta where
  email : String
  password : String
deriving DecidableEq

/-- The state of the registrations. -/
structure Cadastro where
  /-- The registration screens that are there, with their fields. -/
  telas : List (ℕ × Campos)
  /-- The number of the next screen. -/
  proxima : ℕ
  /-- The accounts, the oldest first. -/
  contas : List Conta
  /-- `Auth.auth().currentUser?.uid`. -/
  currentUser : Option ℕ
  /-- The calls whose completion has not run. -/
  chamadas : List Chamada
  /-- The profiles written, with the uid each is under. -/
  perfis : List (ℕ × Perfil)

namespace Cadastro

/-- The registrations at launch, with the accounts there are and no user signed in. -/
def inicial (contas : List Conta) : Cadastro := ⟨[], 0, contas, none, [], []⟩

/-- The fields of a screen, while it is there. -/
def campos (s : Cadastro) (tela : ℕ) : Option Campos := s.telas.lookup tela

/-- A call is issued. -/
def chama (s : Cadastro) (tela : ℕ) (tipo : Tipo) (email password : String) : Cadastro :=
  { s with chamadas := s.chamadas ++ [⟨tela, tipo, email, password, none⟩] }

/-- `registerClick` of a screen. -/
def registerClick (s : Cadastro) (tela : ℕ) : Cadastro :=
  match s.campos tela with
  | none => s
  | some campos => s.chama tela .createUser campos.emailField campos.passwordField

/-- The uid a call signs in, if Firebase lets it succeed (`ok`): a new account where none has the
e-mail yet, or the account with this e-mail and password. -/
def uidDe (s : Cadastro) (c : Chamada) (ok : Bool) : Option ℕ :=
  if ok then
    if c.tipo = .createUser then
      if ∃ conta ∈ s.contas, conta.email = c.email then none else some s.contas.length
    else s.contas.findIdx? fun conta => conta.email = c.email ∧ conta.password = c.password
  else none

/-- Firebase decides a call: it fails, or the user it signs in becomes the current one. -/
def decide (s : Cadastro) (k : ℕ) (ok : Bool) : Cadastro :=
  match s.chamadas[k]? with
  | none => s
  | some c =>
    match c.resultado with
    | some _ => s
    | none =>
      let uid := s.uidDe c ok
      { s with
        contas := if c.tipo = .createUser ∧ uid.isSome then s.contas ++ [⟨c.email, c.password⟩]
          else s.contas
        chamadas := s.chamadas.set k { c with resultado := some uid.isSome }
        currentUser := uid.or s.currentUser }

/-- The completion of a `createUser` that succeeded, over a screen with these fields; `none` where
it traps. -/
def cadastrado (s : Cadastro) (c : Chamada) (campos : Campos) (signOut : Bool) : Option Cadastro :=
  let s := s.chama c.tela .signInCadastro c.email c.password
  -- `user!.uid`
  match s.currentUser with
  | none => none
  | some uid => some { s with
      perfis := s.perfis ++ [(uid, RegisterViewController.perfil campos)]
      currentUser := if signOut then none else some uid }

/-- The completion of a call. The completion of the sign-in, and one whose screen is gone
(`[weak self]`) or whose call failed, do nothing. -/
def completion (s : Cadastro) (c : Chamada) (signOut : Bool) : Option Cadastro :=
  match s.campos c.tela with
  | none => some s
  | some campos =>
    if c.tipo = .createUser ∧ c.resultado = some true then s.cadastrado c campos signOut
    else some s

/-- An event. -/
inductive Event where
  /-- A registration screen is opened from the access screen. -/
  | abrir (emailAddress passwordTyped : String)
  /-- The user edits the fields of a screen. -/
  | editar (tela : ℕ) (campos : Campos)
  /-- A screen goes away. -/
  | fechar (tela : ℕ)
  /-- `Finalizar Cadastro` is pressed. -/
  | registerClick (tela : ℕ)
  /-- Firebase decides the `k`-th call. -/
  | firebase (k : ℕ) (ok : Bool)
  /-- The completion of the `k`-th call runs; `signOut` is the outcome of its `signOut`. -/
  | completion (k : ℕ) (signOut : Bool)

/-- One event, or `none` where the program traps. -/
def step (s : Cadastro) : Event → Option Cadastro
  | .abrir emailAddress passwordTyped => some { s with
      telas := s.telas ++
        [(s.proxima, RegisterViewController.viewDidLoad emailAddress passwordTyped)]
      proxima := s.proxima + 1 }
  | .editar tela campos => some { s with
      telas := s.telas.map fun t => if t.1 = tela then (tela, campos) else t }
  | .fechar tela => some { s with telas := s.telas.filter fun t => t.1 ≠ tela }
  | .registerClick tela => some (s.registerClick tela)
  | .firebase k ok => some (s.decide k ok)
  | .completion k signOut =>
    match s.chamadas[k]? with
    | none => some s
    | some c =>
      if c.resultado.isSome then
        { s with chamadas := s.chamadas.eraseIdx k }.completion c signOut
      else some s

/-! ## The screens on the way in

`Welcome` has the same calls among those of the other screens, without accounts and profiles. -/

/-- The registrations as `Welcome` has them: the same calls, none of them of the access screen, a
user signed in or not, and the screens the calls wait for. -/
structure Projeta (s : Cadastro) (w : Welcome) : Prop where
  chamadas : w.chamadas = s.chamadas
  tipos : ∀ c ∈ s.chamadas, c.tipo ≠ .signIn
  usuario : w.currentUser.isSome = s.currentUser.isSome
  telas : ∀ c ∈ s.chamadas, w.viva c.tela = (s.campos c.tela).isSome

/-- A call less is still the same calls. -/
lemma Projeta.eraseIdx {s : Cadastro} {w : Welcome} (h : Projeta s w) (k : ℕ) :
    Projeta { s with chamadas := s.chamadas.eraseIdx k }
      { w with chamadas := w.chamadas.eraseIdx k } where
  chamadas := by rw [h.chamadas]
  tipos c hc := h.tipos c (List.mem_of_mem_eraseIdx hc)
  usuario := h.usuario
  telas c hc := h.telas c (List.mem_of_mem_eraseIdx hc)

/-- The same call is issued. -/
lemma Projeta.chama {s : Cadastro} {w : Welcome} (h : Projeta s w) {tela : ℕ} {tipo : Tipo}
    {email password : String} (ht : tipo ≠ .signIn)
    (hv : w.viva tela = (s.campos tela).isSome) :
    Projeta (s.chama tela tipo email password)
      { w with chamadas := w.chamadas ++ [⟨tela, tipo, email, password, none⟩] } := by
  refine ⟨?_, fun c hc => ?_, h.usuario, fun c hc => ?_⟩
  · rw [h.chamadas]
    rfl
  · rcases List.mem_append.mp hc with hc | hc
    · exact h.tipos c hc
    · obtain rfl := List.mem_singleton.mp hc
      exact ht
  · rcases List.mem_append.mp hc with hc | hc
    · exact h.telas c hc
    · obtain rfl := List.mem_singleton.mp hc
      exact hv

/-- A completion issues the same sign-in, traps where `Welcome` does, and signs out where it
does. -/
lemma Projeta.completion {s : Cadastro} {w : Welcome} (h : Projeta s w) {c : Chamada} {ok : Bool}
    (ht : c.tipo ≠ .signIn) (hr : c.resultado = some ok)
    (hv : w.viva c.tela = (s.campos c.tela).isSome) (signOut : Bool) :
    Option.Rel Projeta (s.completion c signOut) (w.completion c ok signOut) := by
  unfold Cadastro.completion Welcome.completion
  rw [hv]
  cases hcampos : s.campos c.tela with
  | none => exact .some h
  | some campos =>
    have hnada : Option.Rel Projeta (some s) (some w) := .some h
    cases htipo : c.tipo with
    | signIn => exact absurd htipo ht
    | signInCadastro => simpa [htipo] using hnada
    | createUser =>
      cases ok with
      | false => simpa [hr] using hnada
      | true =>
        have hnova := @Projeta.chama s w h c.tela .signInCadastro c.email c.password (by simp) hv
        have husuario := h.usuario
        simp only [hr, cadastrado, and_self, if_true, Option.isSome_some]
        cases hu : s.currentUser with
        | none =>
          -- no user to unwrap in either
          have hw : w.currentUser = none := by simpa [hu] using husuario
          simp only [Cadastro.chama, hu, hw]
          exact .none
        | some uid =>
          obtain ⟨id, hw⟩ : ∃ id, w.currentUser = some id := by
            simpa [hu, Option.isSome_iff_exists] using husuario
          simp only [Cadastro.chama, hu, hw]
          refine .some ?_
          cases signOut with
          | false => exact ⟨hnova.chamadas, hnova.tipos, rfl, hnova.telas⟩
          | true => exact ⟨hnova.chamadas, hnova.tipos, rfl, hnova.telas⟩

/-- **The two models of a completion.** The completion of a registration's call has the same
outcome here and in `Welcome`. -/
theorem Projeta.step_completion {s : Cadastro} {w : Welcome} (h : Projeta s w) (k : ℕ)
    (signOut : Bool) :
    Option.Rel Projeta (s.step (.completion k signOut)) (w.step (.completion k signOut)) := by
  simp only [step, Welcome.step, h.chamadas]
  cases hc : s.chamadas[k]? with
  | none => exact .some h
  | some c =>
    have hmem := List.mem_of_getElem? hc
    dsimp only
    cases hr : c.resultado with
    | none => exact .some h
    | some ok =>
      have hresto := h.eraseIdx k
      rw [h.chamadas] at hresto
      simpa [hr] using hresto.completion (h.tipos c hmem) hr (h.telas c hmem) signOut

/-- **The two models of a decision.** So has the decision of Firebase, if both let the call
succeed or neither does. -/
theorem Projeta.decide {s : Cadastro} {w : Welcome} (h : Projeta s w) (k : ℕ) {ok : Bool}
    {uid : Option String} (huid : ∀ c ∈ s.chamadas[k]?, uid.isSome = (s.uidDe c ok).isSome) :
    Projeta (s.decide k ok) (w.decide k uid) := by
  unfold Cadastro.decide Welcome.decide
  rw [h.chamadas]
  cases hc : s.chamadas[k]? with
  | none => exact h
  | some c =>
    have hmem := List.mem_of_getElem? hc
    dsimp only
    cases hr : c.resultado with
    | some r => exact h
    | none =>
      have hsome := huid c hc
      refine ⟨by rw [hsome], fun c' hc' => ?_, ?_, fun c' hc' => ?_⟩
      · rcases List.mem_or_eq_of_mem_set hc' with hc' | rfl
        · exact h.tipos c' hc'
        · exact h.tipos c hmem
      · simp only [Option.isSome_or, hsome, h.usuario]
      · rcases List.mem_or_eq_of_mem_set hc' with hc' | rfl
        · exact h.telas c' hc'
        · exact h.telas c hmem

/-- So has a press. -/
theorem Projeta.registerClick {s : Cadastro} {w : Welcome} (h : Projeta s w) {tela : ℕ}
    {campos : Campos} (hcampos : s.campos tela = some campos) (hv : w.viva tela = true) :
    Projeta (s.registerClick tela)
      (w.registerClick tela campos.emailField campos.passwordField) := by
  unfold Cadastro.registerClick
  rw [hcampos]
  exact h.chama (by simp) (by rw [hv, hcampos]; rfl)

/-! ## The property and its condition -/

/-- The e-mail an account was created with. -/
def emailDe (s : Cadastro) (uid : ℕ) : Option String := s.contas[uid]?.map Conta.email

/-- Every profile is under the account created with its e-mail. -/
def PerfisProprios (s : Cadastro) : Prop := ∀ p ∈ s.perfis, s.emailDe p.1 = some p.2.email

/-- Once every completion has run, no user is signed in. -/
def Encerrada (s : Cadastro) : Prop := s.chamadas = [] → s.currentUser = none

/-- A `createUser` that succeeded waits for its completion. -/
def Aguarda (chamadas : List Chamada) : Prop :=
  ∃ c ∈ chamadas, c.tipo = .createUser ∧ c.resultado = some true

/-- Every profile is under its account, and while a user is signed in a `createUser` that succeeded
waits for the completion that signs out. -/
def Limpa (s : Cadastro) : Prop := s.PerfisProprios ∧ (s.currentUser.isSome → Aguarda s.chamadas)

/-- The condition on the completion of a `createUser` that succeeded: if its screen is there, the
current user is the account with the e-mail in the e-mail field; and another one waits if the
completion leaves a user signed in, because the screen is gone or the `signOut` throws. -/
def ConcluiPropria (s : Cadastro) (c : Chamada) (resto : List Chamada) (signOut : Bool) : Prop :=
  match s.campos c.tela with
  | none => s.currentUser.isSome → Aguarda resto
  | some campos => s.currentUser.bind s.emailDe = some campos.emailField ∧
      (signOut = false → Aguarda resto)

/-- The condition on an event: `ConcluiPropria` for the completion of a registration, and a sign-in
succeeds only while a `createUser` that succeeded waits. -/
def SessaoPropria (s : Cadastro) : Event → Prop
  | .firebase k ok => ∀ c ∈ s.chamadas[k]?, c.tipo ≠ .createUser → c.resultado = none →
      (s.uidDe c ok).isSome → Aguarda s.chamadas
  | .completion k signOut => ∀ c ∈ s.chamadas[k]?, c.tipo = .createUser →
      c.resultado = some true → s.ConcluiPropria c (s.chamadas.eraseIdx k) signOut
  | _ => True

instance (s : Cadastro) : Decidable s.Encerrada := inferInstanceAs (Decidable (_ → _))

instance (chamadas : List Chamada) : Decidable (Aguarda chamadas) :=
  inferInstanceAs (Decidable (∃ c ∈ chamadas, _))

instance (s : Cadastro) (c : Chamada) (resto : List Chamada) (signOut : Bool) :
    Decidable (s.ConcluiPropria c resto signOut) :=
  match h : s.campos c.tela with
  | none => decidable_of_iff (s.currentUser.isSome → Aguarda resto) (by simp [ConcluiPropria, h])
  | some campos =>
    decidable_of_iff (s.currentUser.bind s.emailDe = some campos.emailField ∧
      (signOut = false → Aguarda resto)) (by simp [ConcluiPropria, h])

instance (s : Cadastro) : ∀ e, Decidable (s.SessaoPropria e)
  | .firebase k ok => inferInstanceAs (Decidable (∀ c ∈ s.chamadas[k]?,
      c.tipo ≠ .createUser → c.resultado = none → (s.uidDe c ok).isSome → Aguarda s.chamadas))
  | .completion k signOut => inferInstanceAs (Decidable (∀ c ∈ s.chamadas[k]?,
      c.tipo = .createUser → c.resultado = some true →
        s.ConcluiPropria c (s.chamadas.eraseIdx k) signOut))
  | .abrir _ _ | .editar _ _ | .fechar _ | .registerClick _ => .isTrue trivial

/-! ## The calls -/

/-- A call that is not decided is not waited for. -/
lemma aguarda_append {chamadas : List Chamada} {c : Chamada} (hc : c.resultado = none) :
    Aguarda (chamadas ++ [c]) ↔ Aguarda chamadas := by
  simp [Aguarda, or_and_right, exists_or, hc]

/-- A completion takes a call from the list. -/
lemma aguarda_iff_eraseIdx {chamadas : List Chamada} {k : ℕ} {c : Chamada}
    (hc : chamadas[k]? = some c) : Aguarda chamadas ↔
      (c.tipo = .createUser ∧ c.resultado = some true) ∨ Aguarda (chamadas.eraseIdx k) := by
  obtain ⟨hk, rfl⟩ := List.getElem?_eq_some_iff.mp hc
  have hperm := List.getElem_cons_eraseIdx_perm hk
  unfold Aguarda
  simp only [← hperm.mem_iff, List.mem_cons, or_and_right, exists_or, exists_eq_left]

/-- Firebase decides a call of the list. -/
lemma aguarda_set {chamadas : List Chamada} {k : ℕ} {c c' : Chamada}
    (hc : chamadas[k]? = some c) (hr : c.resultado = none) : Aguarda (chamadas.set k c') ↔
      (c'.tipo = .createUser ∧ c'.resultado = some true) ∨ Aguarda chamadas := by
  obtain ⟨hk, hget⟩ := List.getElem?_eq_some_iff.mp hc
  have hset : (chamadas.set k c')[k]? = some c' := by simp [hk]
  rw [aguarda_iff_eraseIdx hset, List.eraseIdx_set_eq, aguarda_iff_eraseIdx hc]
  simp [hr]

/-! ## One event -/

/-- A new account leaves the e-mails of the others. -/
lemma emailDe_append {s : Cadastro} {uid : ℕ} {email : String} (conta : Conta)
    (h : s.emailDe uid = some email) :
    (s.contas ++ [conta])[uid]?.map Conta.email = some email := by
  obtain ⟨a, ha, rfl⟩ := Option.map_eq_some_iff.mp h
  obtain ⟨hlt, -⟩ := List.getElem?_eq_some_iff.mp ha
  rw [List.getElem?_append_left hlt, ha]
  rfl

/-- A call issued changes neither the profiles nor what is waited for. -/
lemma limpa_chama {s : Cadastro} {tela : ℕ} {tipo : Tipo} {email password : String} :
    (s.chama tela tipo email password).Limpa ↔ s.Limpa :=
  and_congr Iff.rfl (imp_congr Iff.rfl (aguarda_append rfl))

/-- A decision of Firebase: a `createUser` that succeeds waits itself, a sign-in that succeeds
needs one that waits. -/
lemma limpa_decide_iff {s : Cadastro} (hs : s.Limpa) (k : ℕ) (ok : Bool) :
    (s.decide k ok).Limpa ↔ s.SessaoPropria (.firebase k ok) := by
  simp only [SessaoPropria, Option.mem_def]
  unfold decide
  cases hc : s.chamadas[k]? with
  | none => simp [hs]
  | some c =>
    cases hr : c.resultado with
    | some r => simp [hs, hr]
    | none =>
      simp only [Option.some.injEq, forall_eq', hr, true_implies]
      have hperfis : ∀ contas, (contas = s.contas ∨ ∃ conta, contas = s.contas ++ [conta]) →
          ∀ p ∈ s.perfis, contas[p.1]?.map Conta.email = some p.2.email := by
        rintro _ (rfl | ⟨conta, rfl⟩) p hp
        · exact hs.1 p hp
        · exact emailDe_append conta (hs.1 p hp)
      have hcontas : ∀ p ∈ s.perfis, (if c.tipo = .createUser ∧ (s.uidDe c ok).isSome then
          s.contas ++ [⟨c.email, c.password⟩] else s.contas)[p.1]?.map Conta.email =
          some p.2.email := by
        apply hperfis
        split_ifs
        · exact .inr ⟨_, rfl⟩
        · exact .inl rfl
      simp only [Limpa, PerfisProprios, emailDe, aguarda_set hc hr]
      rw [and_iff_right hcontas]
      cases huid : s.uidDe c ok with
      | none => simpa using hs.2
      | some uid => by_cases ht : c.tipo = .createUser <;> simp [ht]

/-- The completion of a `createUser` that succeeded, over its screen: it does not trap, and the
profile is under its account, exactly where the current user is the account of the e-mail shown. -/
lemma cadastrado_iff {s : Cadastro} (hs : s.PerfisProprios) (c : Chamada) (campos : Campos)
    (signOut : Bool) :
    (∃ s', s.cadastrado c campos signOut = some s' ∧ s'.Limpa) ↔
      s.currentUser.bind s.emailDe = some campos.emailField ∧
        (signOut = false → Aguarda s.chamadas) := by
  unfold cadastrado
  cases hu : s.currentUser with
  | none => simp [chama, hu]
  | some uid =>
    simp only [chama, hu, Option.some.injEq, exists_eq_left', Option.bind_some]
    refine and_congr ?_ ?_
    · constructor
      · intro h
        exact h (uid, RegisterViewController.perfil campos) (by simp)
      · intro h p hp
        rcases List.mem_append.mp hp with hp | hp
        · exact hs p hp
        · obtain rfl := List.mem_singleton.mp hp
          exact h
    · rw [aguarda_append rfl]
      cases signOut <;> simp

/-- A completion: that of a `createUser` that succeeded is to meet `ConcluiPropria`. -/
lemma completion_iff {s : Cadastro} {k : ℕ} {c : Chamada} (hs : s.Limpa)
    (hc : s.chamadas[k]? = some c) (signOut : Bool) :
    (∃ s', { s with chamadas := s.chamadas.eraseIdx k }.completion c signOut = some s' ∧ s'.Limpa) ↔
      (c.tipo = .createUser → c.resultado = some true →
        s.ConcluiPropria c (s.chamadas.eraseIdx k) signOut) := by
  have hperfis : { s with chamadas := s.chamadas.eraseIdx k }.PerfisProprios := hs.1
  have hresto : { s with chamadas := s.chamadas.eraseIdx k }.Limpa ↔
      (s.currentUser.isSome → Aguarda (s.chamadas.eraseIdx k)) := and_iff_right hperfis
  have htela : { s with chamadas := s.chamadas.eraseIdx k }.campos c.tela = s.campos c.tela := rfl
  rw [completion, ConcluiPropria, htela]
  by_cases hcria : c.tipo = .createUser ∧ c.resultado = some true
  · simp only [hcria.1, hcria.2, true_implies, and_self, if_true]
    cases s.campos c.tela with
    | none => simpa using hresto
    | some campos => exact cadastrado_iff hperfis c campos signOut
  · -- the user signed in, if any, is waited for by another call
    have hlimpa : { s with chamadas := s.chamadas.eraseIdx k }.Limpa :=
      hresto.mpr fun hu => ((aguarda_iff_eraseIdx hc).mp (hs.2 hu)).resolve_left hcria
    have hnada : (c.tipo = .createUser → c.resultado = some true →
        match s.campos c.tela with
        | none => s.currentUser.isSome → Aguarda (s.chamadas.eraseIdx k)
        | some campos => s.currentUser.bind s.emailDe = some campos.emailField ∧
          (signOut = false → Aguarda (s.chamadas.eraseIdx k))) :=
      fun ht hr => absurd ⟨ht, hr⟩ hcria
    refine iff_of_true ?_ hnada
    cases s.campos c.tela with
    | none => exact ⟨_, rfl, hlimpa⟩
    | some campos =>
      dsimp only
      rw [if_neg hcria]
      exact ⟨_, rfl, hlimpa⟩

/-- **One event.** With every profile under its account and a `createUser` waiting while a user is
signed in, an event completes and leaves it so exactly where it meets the condition.

**Proof sketch.** Firebase signs in with a `createUser` that waits from then on, or with a sign-in;
a completion that runs takes its call from those that wait. Nothing else changes what is asked. -/
theorem passo_iff {s : Cadastro} (hs : s.Limpa) (e : Event) :
    (∃ s', s.step e = some s' ∧ s'.Limpa) ↔ s.SessaoPropria e := by
  cases e with
  | abrir emailAddress passwordTyped => exact iff_of_true ⟨_, rfl, hs⟩ trivial
  | editar tela campos => exact iff_of_true ⟨_, rfl, hs⟩ trivial
  | fechar tela => exact iff_of_true ⟨_, rfl, hs⟩ trivial
  | registerClick tela =>
    refine iff_of_true ⟨_, rfl, ?_⟩ trivial
    unfold registerClick
    cases s.campos tela with
    | none => exact hs
    | some campos => exact limpa_chama.mpr hs
  | firebase k ok => simpa [step] using limpa_decide_iff hs k ok
  | completion k signOut =>
    simp only [step, SessaoPropria, Option.mem_def]
    cases hc : s.chamadas[k]? with
    | none => simpa using hs
    | some c =>
      cases hr : c.resultado with
      | none => simpa [hr] using hs
      | some r => simpa [hr] using completion_iff hs hc signOut

/-! ## Whole runs -/

/-- At launch nothing is written and no user is signed in. -/
lemma limpa_inicial (contas : List Conta) : (inicial contas).Limpa := by
  simp [Limpa, PerfisProprios, inicial]

/-- A step that meets the condition keeps the invariant. -/
lemma Limpa.step {s s' : Cadastro} {e : Event} (hs : s.Limpa) (hc : s.SessaoPropria e)
    (h : s.step e = some s') : s'.Limpa := by
  obtain ⟨t, ht, hlimpa⟩ := (passo_iff hs e).mpr hc
  obtain rfl : s' = t := Option.some.inj (h.symm.trans ht)
  exact hlimpa

/-- **The registrations.** In a run from launch whose events meet the condition no event traps,
every profile is written under the uid of the account created with its e-mail, and whenever no
completion is left to run no user is signed in.

**Proof sketch.** `Limpa` is kept (`passo_iff`), and where no call is left none waits. -/
theorem registra_of_sessaoPropria (contas : List Conta) (es : List Event)
    (h : Runs.Attempts step SessaoPropria es (inicial contas)) :
    Runs.Attempts step (fun s e => (s.step e).isSome) es (inicial contas) ∧
      Runs.Throughout step (fun s => s.PerfisProprios ∧ s.Encerrada) es (inicial contas) := by
  have hstep : ∀ s e s', Limpa s → SessaoPropria s e → s.step e = some s' → Limpa s' :=
    fun _ _ _ hs hc h => hs.step hc h
  constructor
  · refine h.imp hstep (fun s e hs hc => ?_) (limpa_inicial contas)
    obtain ⟨t, ht, -⟩ := (passo_iff hs e).mpr hc
    rw [ht]
    rfl
  · have hlimpa := Runs.Throughout.of_meets hstep (limpa_inicial contas) h.meets
    refine hlimpa.imp fun s hs => ⟨hs.1, fun hvazia => ?_⟩
    cases hu : s.currentUser with
    | none => rfl
    | some uid =>
      obtain ⟨c, hc, -⟩ := hs.2 (by simp [hu])
      simp [hvazia] at hc

/-- Ana registers, and her account is created. -/
def criada : List Event :=
  [.abrir "ana@parken.com" "123456", .registerClick 0, .firebase 0 true, .completion 0 true]

/-- The sign-in of the registration fails. -/
theorem registra_criada :
    Runs.Attempts step (fun s e => (s.step e).isSome) (criada ++ [.firebase 0 false,
      .completion 0 true]) (inicial []) ∧
      Runs.Throughout step (fun s => s.PerfisProprios ∧ s.Encerrada) (criada ++
        [.firebase 0 false, .completion 0 true]) (inicial []) :=
  registra_of_sessaoPropria [] _ (by decide)

/-- The sign-in of the registration succeeds after its sign-out: Ana stays signed in. -/
theorem not_registra_signIn :
    ¬ ∀ (contas : List Conta) (es : List Event),
      Runs.Attempts step (fun s e => (s.step e).isSome) es (inicial contas) ∧
        Runs.Throughout step (fun s => s.PerfisProprios ∧ s.Encerrada) es (inicial contas) := by
  intro h
  have hrun := (h [] (criada ++ [.firebase 0 true, .completion 0 true])).2.imp
    (Q := Encerrada) fun _ hs => hs.2
  exact absurd hrun (by decide)

/-- Two registrations from one screen: the first completion signs the user of the second out, and
the second traps. -/
example : Runs.run step [.abrir "ana@parken.com" "123456", .registerClick 0,
    .editar 0 ⟨"Bia", "", "", "", "bia@parken.com", "123456"⟩, .registerClick 0, .firebase 0 true,
    .firebase 1 true, .completion 0 true, .completion 0 true] (inicial []) = none := rfl

/-- The condition is exact: a run from launch traps nowhere, keeps every profile under its account
and a `createUser` waiting while a user is signed in, if and only if every event it attempts meets
the condition. -/
theorem limpa_iff_sessaoPropria (contas : List Conta) (es : List Event) :
    Runs.Attempts step (fun s e => ∃ s', s.step e = some s' ∧ s'.Limpa) es (inicial contas) ↔
      Runs.Attempts step SessaoPropria es (inicial contas) :=
  Runs.attempts_congr (J := Limpa) (fun _ _ _ hs hc h => hs.step hc h)
    (fun _ e hs => passo_iff hs e) (limpa_inicial contas)

end Cadastro

end Parken
