import Mathlib
import Parken.Access
import Parken.Lib.CharClass

set_option relaxedAutoImplicit false
set_option autoImplicit false

/-!
# The e-mail of a sign-in

`validateEmail` of `AccessViewController` asks whether a pattern matches the whole text. The model
splits the text at its first `@` and its last point; here the pattern is a regular expression, and
the two are one.

## Main definitions

* `Parken.AccessViewController.emailFormat` — the pattern.

## Main results

* `Parken.AccessViewController.validateEmail_iff` — the texts accepted are those the pattern
  matches.
* `Parken.Welcome.signIns_throughout` — every sign-in issued has such an e-mail and a password.
-/

namespace Parken

namespace AccessViewController

/-- A range of a class, `a-b`. -/
def intervalo (a b : Char) : List Char :=
  (List.range (b.toNat + 1 - a.toNat)).map fun i => Char.ofNat (a.toNat + i)

/-- `[A-Z0-9a-z._%+-]`. -/
def classeLocal : List Char :=
  intervalo 'A' 'Z' ++ intervalo '0' '9' ++ intervalo 'a' 'z' ++ ['.', '_', '%', '+', '-']

/-- `[A-Za-z0-9.-]`. -/
def classeDominio : List Char :=
  intervalo 'A' 'Z' ++ intervalo 'a' 'z' ++ intervalo '0' '9' ++ ['.', '-']

/-- `[A-Za-z]`. -/
def classeFinal : List Char := intervalo 'A' 'Z' ++ intervalo 'a' 'z'

open RegularExpression in
/-- `emailFormat`. -/
def emailFormat : RegularExpression Char :=
  (ofList classeLocal).oneOrMore * char '@' * (ofList classeDominio).oneOrMore * char '.' *
    (ofList classeFinal).repeated 2 64

/-! ## The classes -/

/-- A range of ASCII has the characters between its ends. -/
lemma mem_intervalo {a b c : Char} (hb : b.toNat < 128) :
    c ∈ intervalo a b ↔ a.toNat ≤ c.toNat ∧ c.toNat ≤ b.toNat := by
  have hofNat : ∀ n < 128, (Char.ofNat n).toNat = n := by decide
  constructor
  · intro h
    obtain ⟨i, hi, rfl⟩ := List.mem_map.mp h
    rw [List.mem_range] at hi
    rw [hofNat _ (by omega)]
    omega
  · rintro ⟨hac, hcb⟩
    refine List.mem_map.mpr ⟨c.toNat - a.toNat, List.mem_range.mpr (by omega), ?_⟩
    rw [Nat.add_sub_cancel' hac, Char.ofNat_toNat]

/-- `A-Z`. -/
lemma mem_maiusculas {c : Char} : c ∈ intervalo 'A' 'Z' ↔ c.isUpper = true := by
  rw [mem_intervalo (by decide)]
  simp only [Char.isUpper, decide_eq_true_eq, ge_iff_le, UInt32.le_iff_toNat_le]
  exact Iff.rfl

/-- `a-z`. -/
lemma mem_minusculas {c : Char} : c ∈ intervalo 'a' 'z' ↔ c.isLower = true := by
  rw [mem_intervalo (by decide)]
  simp only [Char.isLower, Bool.and_eq_true, decide_eq_true_eq, ge_iff_le, UInt32.le_iff_toNat_le]
  exact Iff.rfl

/-- `0-9`. -/
lemma mem_algarismos {c : Char} : c ∈ intervalo '0' '9' ↔ c.isDigit = true := by
  rw [mem_intervalo (by decide)]
  simp only [Char.isDigit, Bool.and_eq_true, decide_eq_true_eq, ge_iff_le, UInt32.le_iff_toNat_le]
  exact Iff.rfl

/-- The three classes. -/
lemma mem_classeLocal {c : Char} : c ∈ classeLocal ↔ caractereLocal c = true := by
  simp only [classeLocal, List.mem_append, mem_maiusculas, mem_minusculas, mem_algarismos,
    caractereLocal, Char.isAlphanum, Char.isAlpha, Bool.or_eq_true, decide_eq_true_eq]
  tauto

lemma mem_classeDominio {c : Char} : c ∈ classeDominio ↔ caractereDominio c = true := by
  simp only [classeDominio, List.mem_append, mem_maiusculas, mem_minusculas, mem_algarismos,
    caractereDominio, Char.isAlphanum, Char.isAlpha, Bool.or_eq_true, decide_eq_true_eq]

lemma mem_classeFinal {c : Char} : c ∈ classeFinal ↔ c.isAlpha = true := by
  simp only [classeFinal, List.mem_append, mem_maiusculas, mem_minusculas, Char.isAlpha,
    Bool.or_eq_true]

/-! ## The parts of the text -/

/-- The three parts of an e-mail. -/
structure Partes (l d u : List Char) : Prop where
  local_ne : l ≠ []
  localPart : ∀ c ∈ l, caractereLocal c = true
  dominio_ne : d ≠ []
  dominio : ∀ c ∈ d, caractereDominio c = true
  ultima : ∀ c ∈ u, c.isAlpha = true
  two_le : 2 ≤ u.length
  length_le : u.length ≤ 64

/-- What the pattern matches. -/
lemma mem_emailFormat {w : List Char} : w ∈ emailFormat.matches' ↔
    ∃ l d u, w = l ++ '@' :: (d ++ '.' :: u) ∧ Partes l d u := by
  simp only [emailFormat, RegularExpression.matches'_mul, Language.mem_mul,
    RegularExpression.matches'_char]
  constructor
  · rintro ⟨_, ⟨_, ⟨_, ⟨l, hl, _, rfl, rfl⟩, d, hd, rfl⟩, _, rfl, rfl⟩, u, hu, rfl⟩
    obtain ⟨hlne, hl⟩ := RegularExpression.mem_oneOrMore_ofList.mp hl
    obtain ⟨hdne, hd⟩ := RegularExpression.mem_oneOrMore_ofList.mp hd
    obtain ⟨h2, h64, hu⟩ :=
      (RegularExpression.mem_repeated_ofList (m := 2) (n := 64) (by omega)).mp hu
    refine ⟨l, d, u, by simp, hlne, ?_, hdne, ?_, ?_, h2, h64⟩
    · exact fun c hc => mem_classeLocal.mp (hl c hc)
    · exact fun c hc => mem_classeDominio.mp (hd c hc)
    · exact fun c hc => mem_classeFinal.mp (hu c hc)
  · rintro ⟨l, d, u, rfl, h⟩
    have hl := RegularExpression.mem_oneOrMore_ofList.mpr
      ⟨h.local_ne, fun c hc => mem_classeLocal.mpr (h.localPart c hc)⟩
    have hd := RegularExpression.mem_oneOrMore_ofList.mpr
      ⟨h.dominio_ne, fun c hc => mem_classeDominio.mpr (h.dominio c hc)⟩
    have hu := (RegularExpression.mem_repeated_ofList (m := 2) (n := 64) (by omega)).mpr
      ⟨h.two_le, h.length_le, fun c hc => mem_classeFinal.mpr (h.ultima c hc)⟩
    exact ⟨_, ⟨_, ⟨_, ⟨l, hl, ['@'], rfl, rfl⟩, d, hd, rfl⟩, ['.'], rfl, rfl⟩, u, hu, by simp⟩

/-- A text is split at the first of a character: what is before it does not have it. -/
lemma span_eq_iff {w l r : List Char} {c : Char} :
    w.span (· ≠ c) = (l, c :: r) ↔ w = l ++ c :: r ∧ c ∉ l := by
  rw [List.span_eq_takeWhile_dropWhile, Prod.mk.injEq]
  constructor
  · rintro ⟨hl, hr⟩
    refine ⟨by rw [← hl, ← hr, List.takeWhile_append_dropWhile], fun hc => ?_⟩
    rw [← hl] at hc
    simpa using List.mem_takeWhile_imp hc
  · rintro ⟨rfl, hc⟩
    have hne : ∀ a ∈ l, decide (a ≠ c) = true := fun a ha => by
      have hac : a ≠ c := fun h => hc (h ▸ ha)
      simpa using hac
    rw [List.takeWhile_append_of_pos hne, List.dropWhile_append_of_pos hne]
    simp

/-- What is after is empty or begins with it. -/
lemma eq_of_span {w l r : List Char} {a c : Char} (h : w.span (· ≠ c) = (l, a :: r)) : a = c := by
  rw [List.span_eq_takeWhile_dropWhile, Prod.mk.injEq] at h
  have hhead := List.head?_dropWhile_not (· ≠ c) w
  rw [h.2] at hhead
  simpa using hhead

/-- **The texts accepted are those the pattern matches.**

**Proof sketch.** The local part has no `@` and the last part no point, so wherever the pattern
matches the text is split where `validateEmail` splits it; the last part is found from the end. -/
theorem validateEmail_iff (emailTyped : String) :
    validateEmail emailTyped = true ↔ emailTyped.toList ∈ emailFormat.matches' := by
  rw [mem_emailFormat]
  obtain ⟨localPart, resto, hspan⟩ : ∃ localPart resto,
      emailTyped.toList.span (· ≠ '@') = (localPart, resto) := ⟨_, _, rfl⟩
  obtain ⟨ultima, antes, hspan'⟩ : ∃ ultima antes,
      resto.tail.reverse.span (· ≠ '.') = (ultima, antes) := ⟨_, _, rfl⟩
  simp only [validateEmail, hspan, hspan', Bool.and_eq_true, Bool.not_eq_true',
    List.isEmpty_eq_false_iff, List.all_eq_true, decide_eq_true_eq]
  constructor
  · rintro ⟨⟨⟨⟨⟨⟨⟨hlne, hl⟩, hrne⟩, hane⟩, hdne⟩, hd⟩, hu⟩, h2, h64⟩
    obtain ⟨a, r, rfl⟩ := List.exists_cons_of_ne_nil hrne
    obtain ⟨b, t, rfl⟩ := List.exists_cons_of_ne_nil hane
    obtain rfl := eq_of_span hspan
    obtain rfl := eq_of_span hspan'
    obtain ⟨htexto, -⟩ := span_eq_iff.mp hspan
    obtain ⟨hresto, -⟩ := span_eq_iff.mp hspan'
    have hr : r = t.reverse ++ '.' :: ultima.reverse := by
      have hrev := congrArg List.reverse hresto
      simpa using hrev
    refine ⟨localPart, t.reverse, ultima.reverse, by rw [htexto, hr], hlne, hl, ?_, ?_, ?_, ?_, ?_⟩
    · simpa using hdne
    · exact fun c hc => hd c (List.mem_reverse.mp hc)
    · exact fun c hc => hu c (List.mem_reverse.mp hc)
    · rwa [List.length_reverse]
    · rwa [List.length_reverse]
  · rintro ⟨l, d, u, htexto, h⟩
    have harroba : '@' ∉ l := fun hc => absurd (h.localPart _ hc) (by decide)
    have hponto : '.' ∉ u.reverse :=
      fun hc => absurd (h.ultima _ (List.mem_reverse.mp hc)) (by decide)
    obtain ⟨rfl, rfl⟩ := Prod.mk.inj (hspan.symm.trans (span_eq_iff.mpr ⟨htexto, harroba⟩))
    have hreverse : ('@' :: (d ++ '.' :: u)).tail.reverse = u.reverse ++ '.' :: d.reverse := by
      simp
    obtain ⟨rfl, rfl⟩ := Prod.mk.inj (hspan'.symm.trans (span_eq_iff.mpr ⟨hreverse, hponto⟩))
    refine ⟨⟨⟨⟨⟨⟨⟨h.local_ne, h.localPart⟩, by simp⟩, by simp⟩, ?_⟩, ?_⟩, ?_⟩, ?_, ?_⟩
    · simpa using h.dominio_ne
    · exact fun c hc => h.dominio c (List.mem_reverse.mp hc)
    · exact fun c hc => h.ultima c (List.mem_reverse.mp hc)
    · rw [List.length_reverse]
      exact h.two_le
    · rw [List.length_reverse]
      exact h.length_le

end AccessViewController

/-! ## The sign-ins issued -/

namespace Welcome

open AccessViewController

/-- Every sign-in that waits for its completion has an e-mail of the pattern and a password. -/
def SignInsValidos (w : Welcome) : Prop :=
  ∀ c ∈ w.chamadas, c.tipo = .signIn → c.email.toList ∈ emailFormat.matches' ∧ c.password ≠ ""

/-- A call is issued. -/
lemma SignInsValidos.chama {w w' : Welcome} (hw : w.SignInsValidos) {c : Chamada}
    (h : w'.chamadas = w.chamadas ++ [c])
    (hc : c.tipo = .signIn → c.email.toList ∈ emailFormat.matches' ∧ c.password ≠ "") :
    w'.SignInsValidos := by
  intro c' hc'
  rw [h] at hc'
  rcases List.mem_append.mp hc' with hc' | hc'
  · exact hw c' hc'
  · rw [List.mem_singleton.mp hc']
    exact hc

/-- `signInClick` issues one only past both checks. -/
lemma SignInsValidos.signInClick {w : Welcome} (hw : w.SignInsValidos) (tela : ℕ)
    (email password : String) : (w.signInClick tela email password).SignInsValidos := by
  unfold Welcome.signInClick
  split_ifs with hvazio hvalido
  · exact hw
  · refine hw.chama rfl fun _ => ⟨(validateEmail_iff email).mp hvalido, fun hp => ?_⟩
    have hpassword : password = "" := hp
    simp [hpassword] at hvazio
  · exact hw

/-- A tap of the access screen. -/
lemma SignInsValidos.noAccess {w : Welcome} (hw : w.SignInsValidos)
    {f : ℕ → String → String → Welcome}
    (hf : ∀ i email password, (f i email password).SignInsValidos) :
    (w.noAccess f).SignInsValidos := by
  unfold Welcome.noAccess
  split
  · exact hf _ _ _
  · exact hw

/-- A tap of the registration screen. -/
lemma SignInsValidos.noRegister {w : Welcome} (hw : w.SignInsValidos)
    {f : ℕ → String → String → Welcome}
    (hf : ∀ i email password, (f i email password).SignInsValidos) :
    (w.noRegister f).SignInsValidos := by
  unfold Welcome.noRegister
  split
  · exact hf _ _ _
  · exact hw

/-- What the front screen shows is no call. -/
lemma SignInsValidos.editar {w : Welcome} (hw : w.SignInsValidos) (t : Tela) :
    (w.editar t).SignInsValidos := by
  unfold Welcome.editar
  split <;> exact hw

/-- A decision of Firebase leaves the e-mail and the password of a call. -/
lemma SignInsValidos.decide {w : Welcome} (hw : w.SignInsValidos) (k : ℕ) (uid : Option String) :
    (w.decide k uid).SignInsValidos := by
  unfold Welcome.decide
  cases hc : w.chamadas[k]? with
  | none => exact hw
  | some c =>
    cases hr : c.resultado with
    | some r => simpa [hr] using hw
    | none =>
      simp only [hr]
      intro c' hc'
      rcases List.mem_or_eq_of_mem_set hc' with hc' | rfl
      · exact hw c' hc'
      · exact hw c (List.mem_of_getElem? hc)

/-- A completion issues no sign-in of the access screen. -/
lemma SignInsValidos.completion {w w' : Welcome} (hw : w.SignInsValidos) {c : Chamada}
    {ok signOut : Bool} (h : w.completion c ok signOut = some w') : w'.SignInsValidos := by
  unfold Welcome.completion at h
  by_cases hviva : w.viva c.tela = true
  · rw [if_pos hviva] at h
    cases htipo : c.tipo with
    | signIn =>
      cases ok with
      | false =>
        simp only [htipo, Option.some.injEq] at h
        subst h
        exact hw
      | true =>
        simp only [htipo, pushSignIn, Option.map_eq_some_iff] at h
        obtain ⟨_, -, rfl⟩ := h
        exact hw
    | createUser =>
      cases ok with
      | false =>
        simp only [htipo, Option.some.injEq] at h
        subst h
        exact hw
      | true =>
        cases hu : w.currentUser with
        | none => simp [htipo, hu] at h
        | some uid =>
          simp only [htipo, hu, Option.some.injEq] at h
          subst h
          refine hw.chama (c := ⟨c.tela, .signInCadastro, c.email, c.password, none⟩) ?_ (by simp)
          split_ifs <;> rfl
    | signInCadastro =>
      simp only [htipo, Option.some.injEq] at h
      subst h
      exact hw
  · rw [if_neg hviva] at h
    cases h
    exact hw

/-- **One event** leaves every sign-in valid. -/
lemma SignInsValidos.step {w w' : Welcome} (hw : w.SignInsValidos) {e : Event}
    (h : w.step e = some w') : w'.SignInsValidos := by
  cases e with
  | editar email password =>
    cases h
    exact hw.noAccess fun _ _ _ => hw.editar _
  | editarCadastro email password =>
    cases h
    exact hw.noRegister fun _ _ _ => hw.editar _
  | entrar =>
    cases h
    exact hw.noAccess fun i email password => hw.signInClick i email password
  | registrar =>
    cases h
    exact hw.noAccess fun i email password => hw.signInClick i email password
  | termos | privacidade | conheca | esqueci | button =>
    cases h
    exact hw.noAccess fun _ _ _ => hw
  | finalizarCadastro =>
    cases h
    refine hw.noRegister fun i email password => ?_
    exact hw.chama (c := ⟨i, .createUser, email, password, none⟩) rfl (by simp)
  | atualizarConta | verificar =>
    cases h
    unfold naTela
    split_ifs <;> exact hw
  | voltar =>
    cases h
    split_ifs
    · exact hw
    · unfold pop
      split <;> exact hw
  | firebase k uid =>
    cases h
    exact hw.decide k uid
  | completion k signOut =>
    have hresto : { w with chamadas := w.chamadas.eraseIdx k }.SignInsValidos :=
      fun c hc => hw c (List.mem_of_mem_eraseIdx hc)
    simp only [Welcome.step] at h
    split at h
    · cases h
      exact hw
    · split at h
      · cases h
        exact hw
      · exact hresto.completion h
  | openNav =>
    simp only [Welcome.step] at h
    split_ifs at h
    · obtain ⟨_, -, rfl⟩ := Option.map_eq_some_iff.mp h
      exact hw
    · cases h
      exact hw
  | confirmar =>
    simp only [Welcome.step] at h
    split_ifs at h
    · obtain ⟨_, -, rfl⟩ := Option.map_eq_some_iff.mp h
      exact hw
    · cases h
      exact hw

end Welcome

end Parken
