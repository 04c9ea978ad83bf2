import Parken.Cadastro
import Parken.Digitos

set_option relaxedAutoImplicit false
set_option autoImplicit false

/-!
# The CPF and the phone of a profile

`documentNumberField` and `phoneNumberField` of `RegisterViewController` are masked: what is typed
into them shows rewritten, and the profile takes what they show. `Cadastro` lets the fields change
in any way; here they change as the fields let them.

## Main definitions

* `Parken.Registro.Event`, `Parken.Registro.step` — the registrations with their masked fields.
* `Parken.Registro.Escrito` — a text of a masked field.

## Main results

* `Parken.Registro.alcancado_throughout` — they are registrations of `Cadastro`.
* `Parken.Registro.perfis_throughout` — the CPF and the phone of every profile are in their masks.
-/

namespace Parken

/-- The text of a masked field. -/
def Campos.texto (campos : Campos) : Mascarado → String
  | .documentNumberField => campos.documentNumberField
  | .phoneNumberField => campos.phoneNumberField

/-- The fields once a masked one shows another text. -/
def Campos.escreve (campos : Campos) (m : Mascarado) (texto : String) : Campos :=
  match m with
  | .documentNumberField => { campos with documentNumberField := texto }
  | .phoneNumberField => { campos with phoneNumberField := texto }

/-- It shows that text, and the other one its own. -/
lemma Campos.texto_escreve (campos : Campos) (m m' : Mascarado) (texto : String) :
    (campos.escreve m texto).texto m' = if m = m' then texto else campos.texto m' := by
  cases m <;> cases m' <;> rfl

/-- A masked field. -/
def Campos.mascarado (campos : Campos) (m : Mascarado) : SwiftMaskTextfield :=
  { m.vazio with text := (campos.texto m).toList }

namespace Registro

variable (cs : CharacterSets)

/-- The event is an edit of the fields. -/
def editar (e : Cadastro.Event) : Bool :=
  match e with
  | .editar _ _ => true
  | _ => false

/-- An event. -/
inductive Event where
  /-- Any but an edit of the fields. -/
  | cadastro (e : {e : Cadastro.Event // editar e = false})
  /-- The user edits the fields of a screen that have no mask. -/
  | edita (tela : ℕ) (campos : Campos)
  /-- The user edits one that has. -/
  | digita (tela : ℕ) (m : Mascarado) (e : SwiftMaskTextfield.Event)

/-- One event, or `none` where the program traps. -/
def step (s : Cadastro) : Event → Option Cadastro
  | .cadastro e => s.step e.1
  | .edita tela novos =>
    match s.campos tela with
    | none => some s
    | some campos => s.step (.editar tela { novos with
        documentNumberField := campos.documentNumberField
        phoneNumberField := campos.phoneNumberField })
  | .digita tela m e =>
    match s.campos tela with
    | none => some s
    | some campos => do
      let f ← (campos.mascarado m).step cs e
      s.step (.editar tela (campos.escreve m (String.ofList f.text)))

variable {cs}

/-- **The registrations with their masked fields are registrations.** An event of theirs leaves
everything or is one of `Cadastro`. -/
theorem passo {s s' : Cadastro} {e : Event} (h : step cs s e = some s') :
    s' = s ∨ ∃ e', s.step e' = some s' := by
  cases e with
  | cadastro e => exact .inr ⟨e.1, h⟩
  | edita tela novos =>
    simp only [step] at h
    cases hcampos : s.campos tela with
    | none =>
      rw [hcampos] at h
      exact .inl (Option.some.inj h).symm
    | some campos =>
      rw [hcampos] at h
      exact .inr ⟨_, h⟩
  | digita tela m e =>
    simp only [step] at h
    cases hcampos : s.campos tela with
    | none =>
      rw [hcampos] at h
      exact .inl (Option.some.inj h).symm
    | some campos =>
      rw [hcampos] at h
      obtain ⟨f, -, h⟩ := Option.bind_eq_some_iff.mp h
      exact .inr ⟨_, h⟩

/-- Every state a run of theirs visits is one the registrations of `Cadastro` reach. -/
theorem alcancado_throughout (contas : List Conta) (es : List Event) :
    Runs.Throughout (step cs) (Runs.Reachable Cadastro.step (Cadastro.inicial contas)) es
      (Cadastro.inicial contas) := by
  refine .of_step (fun s e s' hs h => ?_) ⟨[], rfl⟩
  obtain rfl | ⟨e', he'⟩ := passo h
  · exact hs
  · obtain ⟨es', hes'⟩ := hs
    refine ⟨es' ++ [e'], ?_⟩
    rw [Runs.run_append, hes', Option.bind_some, Runs.run_cons, he', Option.bind_some, Runs.run_nil]

/-- A text of a masked field: the beginning of an instance of the pattern; its digits in the mask,
followed at most by fixed characters; no longer than the pattern. -/
structure Escrito (cs : CharacterSets) (m : Mascarado) (texto : String) : Prop where
  fits : (SwiftMaskTextfield.mascara cs m.formatPattern).Fits texto.toList
  digitos : ∃ l, texto.toList = (SwiftMaskTextfield.mascara cs m.formatPattern).fill
    (texto.toList.filter cs.decimalDigits) ++ l ∧ ∀ c ∈ l, cs.decimalDigits c = false
  length_le : texto.length ≤ m.formatPattern.length

/-- What begins an instance of the pattern is a text of the field. -/
lemma escrito_of_fits {m : Mascarado} {texto : String}
    (h : (SwiftMaskTextfield.mascara cs m.formatPattern).Fits texto.toList) :
    Escrito cs m texto where
  fits := h
  digitos := h.eq_fill_append (SwiftMaskTextfield.deDigitos_mascarado m).ofClass
  length_le := by
    have hle := h.length_le
    rwa [SwiftMaskTextfield.mascara, List.length_map, String.length_toList] at hle

/-- A field without a prefix that is in its mask begins an instance of the pattern. -/
lemma fits_of_emMascara {f : SwiftMaskTextfield} (hp : f.prefixo = []) (h : f.EmMascara cs) :
    (SwiftMaskTextfield.mascara cs f.formatPattern).Fits f.text := by
  obtain h | ⟨x, -, h, hfits⟩ := h
  · rw [h]
    exact Mask.fits_nil _
  · rwa [h, hp]

/-- Both texts of a screen are of their fields. -/
def Mascarada (cs : CharacterSets) (campos : Campos) : Prop :=
  ∀ m, (SwiftMaskTextfield.mascara cs (Mascarado.formatPattern m)).Fits (campos.texto m).toList

/-- An edit of a masked field leaves a text of the field, and does not trap. -/
lemma Mascarada.digita {campos : Campos} (h : Mascarada cs campos) (m : Mascarado)
    (e : SwiftMaskTextfield.Event) : ∃ f, (campos.mascarado m).step cs e = some f ∧
      Mascarada cs (campos.escreve m (String.ofList f.text)) := by
  have hdigitos : SwiftMaskTextfield.DeDigitos cs (Mascarado.formatPattern m) :=
    SwiftMaskTextfield.deDigitos_mascarado m
  have hne : (campos.mascarado m).formatPattern ≠ [] := hdigitos.ne_nil
  obtain ⟨f, hstep⟩ : ∃ f, (campos.mascarado m).step cs e = some f :=
    ⟨_, SwiftMaskTextfield.step_eq hne e⟩
  obtain ⟨hpat, hp⟩ : f.formatPattern = m.formatPattern ∧ f.prefixo = [] := by
    rw [SwiftMaskTextfield.step_eq hne] at hstep
    cases hstep
    exact ⟨rfl, rfl⟩
  have hfits := fits_of_emMascara hp (SwiftMaskTextfield.emMascara_step hne hstep)
  rw [hpat] at hfits
  refine ⟨f, hstep, fun m' => ?_⟩
  rw [Campos.texto_escreve]
  split_ifs with hm
  · rw [← hm, String.toList_ofList]
    exact hfits
  · exact h m'

/-- The invariant: the screens and the profiles have texts of the masked fields. -/
structure Mascarados (cs : CharacterSets) (s : Cadastro) : Prop where
  telas : ∀ t ∈ s.telas, Mascarada cs t.2
  perfis : ∀ p ∈ s.perfis, ∃ campos, Mascarada cs campos ∧
    p.2 = RegisterViewController.perfil campos

/-- The screen a profile is written from is there. -/
lemma Mascarados.campos {s : Cadastro} (hs : Mascarados cs s) {tela : ℕ} {campos : Campos}
    (h : s.campos tela = some campos) : Mascarada cs campos := by
  obtain ⟨antes, depois, htelas, -⟩ := List.lookup_eq_some_iff.mp h
  exact hs.telas (tela, campos) (by simp [htelas])

/-- An edit of a screen that leaves its texts in their masks leaves them all. -/
lemma Mascarados.editar {s s' : Cadastro} (hs : Mascarados cs s) {tela : ℕ} {campos : Campos}
    (hcampos : Mascarada cs campos) (h : s.step (.editar tela campos) = some s') :
    Mascarados cs s' := by
  cases h
  refine ⟨fun t ht => ?_, hs.perfis⟩
  obtain ⟨u, hu, rfl⟩ := List.mem_map.mp ht
  split_ifs
  · exact hcampos
  · exact hs.telas u hu

/-- A completion writes what a screen shows. -/
lemma Mascarados.completion {s s' : Cadastro} (hs : Mascarados cs s) {c : Chamada} {signOut : Bool}
    (h : s.completion c signOut = some s') : Mascarados cs s' := by
  unfold Cadastro.completion at h
  cases hcampos : s.campos c.tela with
  | none =>
    rw [hcampos] at h
    cases h
    exact hs
  | some campos =>
    rw [hcampos] at h
    dsimp only at h
    split_ifs at h
    · unfold Cadastro.cadastrado at h
      cases hu : s.currentUser with
      | none => simp [Cadastro.chama, hu] at h
      | some uid =>
        simp only [Cadastro.chama, hu, Option.some.injEq] at h
        subst h
        refine ⟨hs.telas, fun p hp => ?_⟩
        rcases List.mem_append.mp hp with hp | hp
        · exact hs.perfis p hp
        · rw [List.mem_singleton.mp hp]
          exact ⟨campos, hs.campos hcampos, rfl⟩
    · cases h
      exact hs

/-- **One event** leaves every text in its mask.

**Proof sketch.** A screen opens with both fields empty, an edit of one rewrites its text, and a
profile is written from the screen as it stands. Firebase touches neither. -/
lemma Mascarados.step {s s' : Cadastro} (hs : Mascarados cs s) {e : Event}
    (h : step cs s e = some s') : Mascarados cs s' := by
  cases e with
  | edita tela novos =>
    simp only [Registro.step] at h
    cases hcampos : s.campos tela with
    | none =>
      rw [hcampos] at h
      cases h
      exact hs
    | some campos =>
      rw [hcampos] at h
      refine hs.editar (fun m => ?_) h
      cases m with
      | documentNumberField => exact hs.campos hcampos .documentNumberField
      | phoneNumberField => exact hs.campos hcampos .phoneNumberField
  | digita tela m e =>
    simp only [Registro.step] at h
    cases hcampos : s.campos tela with
    | none =>
      rw [hcampos] at h
      cases h
      exact hs
    | some campos =>
      obtain ⟨f, hf, hmascarada⟩ := (hs.campos hcampos).digita m e
      rw [hcampos] at h
      dsimp only at h
      rw [hf] at h
      exact hs.editar hmascarada h
  | cadastro e =>
    obtain ⟨e, he⟩ := e
    cases e with
    | abrir emailAddress passwordTyped =>
      cases h
      refine ⟨fun t ht => ?_, hs.perfis⟩
      rcases List.mem_append.mp ht with ht | ht
      · exact hs.telas t ht
      · rw [List.mem_singleton.mp ht]
        intro m
        cases m <;> exact Mask.fits_nil _
    | editar tela campos => exact absurd he (by simp [Registro.editar])
    | fechar tela =>
      cases h
      exact ⟨fun t ht => hs.telas t (List.mem_of_mem_filter ht), hs.perfis⟩
    | registerClick tela =>
      cases h
      unfold Cadastro.registerClick
      cases s.campos tela with
      | none => exact hs
      | some campos => exact ⟨hs.telas, hs.perfis⟩
    | firebase k ok =>
      cases h
      unfold Cadastro.decide
      split
      · exact hs
      · split
        · exact hs
        · exact ⟨hs.telas, hs.perfis⟩
    | completion k signOut =>
      have hresto : Mascarados cs { s with chamadas := s.chamadas.eraseIdx k } :=
        ⟨hs.telas, hs.perfis⟩
      simp only [Registro.step, Cadastro.step] at h
      split at h
      · cases h
        exact hs
      · split_ifs at h
        · exact hresto.completion h
        · cases h
          exact hs

/-- **The CPF and the phone of every profile are in their masks.** Over every run of the
registrations, with any number of screens, any edits, and Firebase deciding in any order, every
profile ever written has a CPF and a phone that begin an instance of their patterns: their digits in
the mask, at most those the pattern has places for, followed at most by fixed characters. And no
edit of a masked field traps. -/
theorem perfis_throughout (contas : List Conta) (es : List Event) :
    Runs.Throughout (Registro.step cs) (fun s =>
      (∀ p ∈ s.perfis, Escrito cs .documentNumberField p.2.cpf ∧
        Escrito cs .phoneNumberField p.2.phone) ∧
      ∀ tela m e, (Registro.step cs s (.digita tela m e)).isSome) es (Cadastro.inicial contas) := by
  have hinicial : Mascarados cs (Cadastro.inicial contas) :=
    ⟨by simp [Cadastro.inicial], by simp [Cadastro.inicial]⟩
  have hinv : Runs.Throughout (Registro.step cs) (Mascarados cs) es (Cadastro.inicial contas) :=
    .of_step (fun s e s' hs h => hs.step h) hinicial
  refine hinv.imp fun s hs => ⟨fun p hp => ?_, fun tela m e => ?_⟩
  · obtain ⟨campos, hcampos, hperfil⟩ := hs.perfis p hp
    rw [hperfil]
    exact ⟨escrito_of_fits (hcampos .documentNumberField),
      escrito_of_fits (hcampos .phoneNumberField)⟩
  · simp only [Registro.step]
    cases hcampos : s.campos tela with
    | none => rfl
    | some campos =>
      obtain ⟨f, hf, -⟩ := (hs.campos hcampos).digita m e
      dsimp only
      rw [hf]
      rfl

end Registro

end Parken
