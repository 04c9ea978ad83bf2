import Mathlib
import Parken.Lib.Mask
import Parken.Lib.Runs

set_option relaxedAutoImplicit false
set_option autoImplicit false

/-!
# Masked text fields

`SwiftMaskTextfield`, the vendored text field of the registration screen, rewrites its text to a
pattern after every edit and every assignment. The rewriting drops what is not alphanumeric, the
fixed characters it wrote itself included, and fills the pattern anew.

A text is a list of characters, one for each scalar: everything here is about texts without a
character made of several scalars. The classes of characters are those of Unicode, which a proof
here takes as they come.

## Main definitions

* `Parken.CharacterSets` — the classes of characters the field asks for.
* `Parken.SwiftMaskTextfield` — the field.
* `Parken.SwiftMaskTextfield.getStringWithoutPrefix`, `Parken.SwiftMaskTextfield.volta`,
  `Parken.SwiftMaskTextfield.formatText` — the functions of the field.
* `Parken.SwiftMaskTextfield.mascara` — the pattern as a `Mask`.
* `Parken.SwiftMaskTextfield.step` — an assignment or an edit.

## Main results

* `Parken.SwiftMaskTextfield.laco_eq` — the loop fills the mask, and ends.
* `Parken.SwiftMaskTextfield.formatText_isSome_iff` — where the rewriting traps.
* `Parken.SwiftMaskTextfield.emMascara_throughout` — every text a field shows is the beginning of an
  instance of its pattern.
* `Parken.SwiftMaskTextfield.formatText_estavel` — a text rewritten twice stays.
-/

namespace Parken

/-- The classes of characters of Foundation that the field asks for, with what Unicode says of
them. -/
structure CharacterSets where
  alphanumerics : Char → Bool
  letters : Char → Bool
  lowercaseLetters : Char → Bool
  uppercaseLetters : Char → Bool
  decimalDigits : Char → Bool
  letters_sub : ∀ c, letters c = true → alphanumerics c = true
  lowercaseLetters_sub : ∀ c, lowercaseLetters c = true → letters c = true
  uppercaseLetters_sub : ∀ c, uppercaseLetters c = true → letters c = true
  decimalDigits_sub : ∀ c, decimalDigits c = true → alphanumerics c = true
  /-- In ASCII the classes are those of Lean's own. -/
  alphanumerics_ascii : ∀ c : Char, c.val < 128 → alphanumerics c = c.isAlphanum
  decimalDigits_ascii : ∀ c : Char, c.val < 128 → decimalDigits c = c.isDigit

/-- The classes of ASCII alone. -/
def CharacterSets.ascii : CharacterSets where
  alphanumerics := Char.isAlphanum
  letters := Char.isAlpha
  lowercaseLetters := Char.isLower
  uppercaseLetters := Char.isUpper
  decimalDigits := Char.isDigit
  letters_sub c h := by simp [Char.isAlphanum, h]
  lowercaseLetters_sub c h := by simp [Char.isAlpha, h]
  uppercaseLetters_sub c h := by simp [Char.isAlpha, h]
  decimalDigits_sub c h := by simp [Char.isAlphanum, h]
  alphanumerics_ascii _ _ := rfl
  decimalDigits_ascii _ _ := rfl

/-- The fields with a mask of `RegisterViewController`. -/
inductive Mascarado where
  | documentNumberField
  | phoneNumberField
deriving DecidableEq

/-- Their patterns, as `viewDidLoad` sets them. -/
def Mascarado.formatPattern : Mascarado → List Char
  | .documentNumberField => "###.###.###-##".toList
  | .phoneNumberField => "+## (##) #####-####".toList

/-- The field: its pattern, its prefix and its text. -/
structure SwiftMaskTextfield where
  formatPattern : List Char
  prefixo : List Char
  text : List Char
deriving DecidableEq

/-- A field of the registration, when the screen opens. -/
def Mascarado.vazio (m : Mascarado) : SwiftMaskTextfield := ⟨m.formatPattern, [], []⟩

namespace SwiftMaskTextfield

variable (cs : CharacterSets)

/-- `lettersAndDigitsReplacementChar`. -/
def lettersAndDigitsReplacementChar : Char := '*'

/-- `anyLetterReplecementChar`. -/
def anyLetterReplecementChar : Char := '@'

/-- `lowerCaseLetterReplecementChar`. -/
def lowerCaseLetterReplecementChar : Char := 'a'

/-- `upperCaseLetterReplecementChar`. -/
def upperCaseLetterReplecementChar : Char := 'A'

/-- `digitsReplecementChar`. -/
def digitsReplecementChar : Char := '#'

/-- `maxLength`. -/
def maxLength (f : SwiftMaskTextfield) : ℕ := f.formatPattern.length + f.prefixo.length

/-- `getFilteredString`: the alphanumeric characters. -/
def getFilteredString (string : List Char) : List Char := string.filter cs.alphanumerics

/-- `getStringWithoutPrefix`. The prefix is looked for anywhere in the text, and as many characters
as it has are taken from the front; an empty one is never found. -/
def getStringWithoutPrefix (prefixo string : List Char) : List Char :=
  if prefixo ≠ [] ∧ prefixo <:+: string then
    if string.length > prefixo.length then string.drop prefixo.length
    else if string.length = prefixo.length then []
    else string
  else string

/-- The variables of the loop of `formatText`. -/
structure Laco where
  formatterIndex : ℕ
  currentTextForFormattingIndex : ℕ
  finalText : List Char
deriving DecidableEq

/-- A case for a class of characters: `filteredChar` is empty or the character. -/
def Laco.filtra (l : Laco) (classe : Char → Bool) (c : Char) : Laco where
  formatterIndex := if classe c then l.formatterIndex + 1 else l.formatterIndex
  currentTextForFormattingIndex := l.currentTextForFormattingIndex + 1
  finalText := if classe c then l.finalText ++ [c] else l.finalText

/-- The `switch` of the loop, `none` where an index is out of range. -/
def volta (formatPattern texto : List Char) (l : Laco) : Option Laco :=
  match formatPattern[l.formatterIndex]?, texto[l.currentTextForFormattingIndex]? with
  | some currentFormatCharacter, some c =>
    if currentFormatCharacter = lettersAndDigitsReplacementChar then
      some ⟨l.formatterIndex + 1, l.currentTextForFormattingIndex + 1, l.finalText ++ [c]⟩
    else if currentFormatCharacter = anyLetterReplecementChar then some (l.filtra cs.letters c)
    else if currentFormatCharacter = lowerCaseLetterReplecementChar then
      some (l.filtra cs.lowercaseLetters c)
    else if currentFormatCharacter = upperCaseLetterReplecementChar then
      some (l.filtra cs.uppercaseLetters c)
    else if currentFormatCharacter = digitsReplecementChar then
      some (l.filtra cs.decimalDigits c)
    else some { l with
      formatterIndex := l.formatterIndex + 1
      finalText := l.finalText ++ [currentFormatCharacter] }
  | _, _ => none

/-- `while true`, for at most so many rounds: it breaks where the pattern or the text is at its
end. -/
def laco (formatPattern texto : List Char) : ℕ → Laco → Option (List Char)
  | 0, _ => none
  | n + 1, l => do
    let l ← volta cs formatPattern texto l
    if formatPattern.length ≤ l.formatterIndex ∨
        texto.length ≤ l.currentTextForFormattingIndex then
      some l.finalText
    else laco formatPattern texto n l

/-- `finalText` after the loop, if the text to be formatted is not empty. -/
def finalText (f : SwiftMaskTextfield) (texto : List Char) : Option (List Char) :=
  if texto.length > 0 then
    laco cs f.formatPattern texto (f.formatPattern.length + texto.length) ⟨0, 0, []⟩
  else some []

/-- The text becomes `finalText` after the prefix; were it too long, its character at `maxLength`.
-/
def mostra (f : SwiftMaskTextfield) (finalText : List Char) : Option SwiftMaskTextfield :=
  let text := if finalText.length > 0 then f.prefixo ++ finalText else finalText
  if text.length > f.maxLength then text[f.maxLength]?.map fun c => { f with text := [c] }
  else some { f with text := text }

/-- `formatText`, or `none` where it traps. -/
def formatText (f : SwiftMaskTextfield) : Option SwiftMaskTextfield :=
  let currentTextForFormatting :=
    if f.text.length > 0 then getStringWithoutPrefix f.prefixo f.text else []
  if f.maxLength > 0 then
    (f.finalText cs (getFilteredString cs currentTextForFormatting)).bind f.mostra
  else some f

/-! ## The pattern as a mask -/

/-- The place a character of the pattern stands for. -/
def casa (c : Char) : Slot Char :=
  if c = lettersAndDigitsReplacementChar then .hole fun _ => true
  else if c = anyLetterReplecementChar then .hole cs.letters
  else if c = lowerCaseLetterReplecementChar then .hole cs.lowercaseLetters
  else if c = upperCaseLetterReplecementChar then .hole cs.uppercaseLetters
  else if c = digitsReplecementChar then .hole cs.decimalDigits
  else .literal c

/-- The mask of a pattern. -/
def mascara (formatPattern : List Char) : Mask Char := formatPattern.map (casa cs)

variable {cs}

/-- The `switch` goes by the place. -/
lemma volta_eq {formatPattern texto : List Char} {l : Laco} {f c : Char}
    (hf : formatPattern[l.formatterIndex]? = some f)
    (hc : texto[l.currentTextForFormattingIndex]? = some c) :
    volta cs formatPattern texto l = some (match casa cs f with
      | .literal a => { l with
          formatterIndex := l.formatterIndex + 1
          finalText := l.finalText ++ [a] }
      | .hole p => l.filtra p c) := by
  simp only [volta, hf, hc, casa]
  split_ifs <;> rfl

/-- What is still to be written once the loop stands at `l`. -/
def resto (cs : CharacterSets) (formatPattern texto : List Char) (l : Laco) : List Char :=
  l.finalText ++ (mascara cs (formatPattern.drop l.formatterIndex)).fill
    (texto.drop l.currentTextForFormattingIndex)

/-- A round leaves what is to be written in all, and what is left of the pattern and of the text
gets shorter. -/
lemma resto_volta (cs : CharacterSets) {formatPattern texto : List Char} {l : Laco}
    (hf : l.formatterIndex < formatPattern.length)
    (hc : l.currentTextForFormattingIndex < texto.length) :
    ∃ l', volta cs formatPattern texto l = some l' ∧
      resto cs formatPattern texto l' = resto cs formatPattern texto l ∧
      l.formatterIndex ≤ l'.formatterIndex ∧
      l.currentTextForFormattingIndex ≤ l'.currentTextForFormattingIndex ∧
      l.formatterIndex + l.currentTextForFormattingIndex <
        l'.formatterIndex + l'.currentTextForFormattingIndex := by
  have hpat : mascara cs (formatPattern.drop l.formatterIndex) =
      casa cs formatPattern[l.formatterIndex] ::
        mascara cs (formatPattern.drop (l.formatterIndex + 1)) := by
    rw [List.drop_eq_getElem_cons hf]
    rfl
  have htxt : texto.drop l.currentTextForFormattingIndex =
      texto[l.currentTextForFormattingIndex] :: texto.drop (l.currentTextForFormattingIndex + 1) :=
    List.drop_eq_getElem_cons hc
  refine ⟨_, volta_eq (List.getElem?_eq_getElem hf) (List.getElem?_eq_getElem hc), ?_⟩
  unfold resto
  rw [hpat, htxt]
  cases hcasa : casa cs formatPattern[l.formatterIndex] with
  | literal a =>
    refine ⟨?_, by simp, by simp, by simp⟩
    dsimp only
    rw [htxt, Mask.fill_literal_cons, List.append_assoc]
    rfl
  | hole p =>
    rw [Mask.fill_hole_cons]
    cases hp : p texto[l.currentTextForFormattingIndex] with
    | true =>
      simp only [Laco.filtra, hp, if_true]
      refine ⟨?_, by omega, by omega, by omega⟩
      rw [List.append_assoc]
      rfl
    | false =>
      simp only [Laco.filtra, hp, Bool.false_eq_true, if_false]
      refine ⟨?_, by omega, by omega, by omega⟩
      rw [hpat, hcasa]

/-- **The loop fills the mask, and ends.** With both indices in range no index leaves its range, and
as many rounds as are left of the pattern and of the text are enough.

**Proof sketch.** Induction on the rounds. Each leaves what is to be written (`resto_volta`); where
it breaks, nothing is left to be written but what is. -/
theorem laco_eq {formatPattern texto : List Char} (n : ℕ) {l : Laco}
    (hf : l.formatterIndex < formatPattern.length)
    (hc : l.currentTextForFormattingIndex < texto.length)
    (hn : formatPattern.length + texto.length ≤
      n + l.formatterIndex + l.currentTextForFormattingIndex) :
    laco cs formatPattern texto n l = some (resto cs formatPattern texto l) := by
  induction n generalizing l with
  | zero => omega
  | succ n ih =>
    obtain ⟨l', hl', hresto, hfmono, hcmono, hlt⟩ := resto_volta cs hf hc
    rw [← hresto]
    simp only [laco, hl', Option.bind_eq_bind, Option.bind_some]
    split_ifs with hfim
    · rcases hfim with hfim | hfim
      · simp [resto, mascara, List.drop_eq_nil_of_le hfim]
      · simp [resto, List.drop_eq_nil_of_le hfim]
    · exact ih (by omega) (by omega) (by omega)

/-! ## The rewriting -/

/-- The text after a rewriting: the prefix and what was written, if anything was. -/
def moldura (prefixo x : List Char) : List Char := if x = [] then [] else prefixo ++ x

/-- What is rewritten: the alphanumeric characters after the prefix. -/
def entrada (cs : CharacterSets) (f : SwiftMaskTextfield) : List Char :=
  getFilteredString cs (getStringWithoutPrefix f.prefixo f.text)

@[simp] lemma getStringWithoutPrefix_nil (prefixo : List Char) :
    getStringWithoutPrefix prefixo [] = [] := by
  unfold getStringWithoutPrefix
  rw [if_neg]
  rintro ⟨hne, hinfix⟩
  exact hne (List.infix_nil.mp hinfix)

/-- The prefix is taken from what a rewriting has left. -/
lemma getStringWithoutPrefix_moldura (prefixo x : List Char) :
    getStringWithoutPrefix prefixo (moldura prefixo x) = x := by
  by_cases hx : x = []
  · simp [moldura, hx]
  · rw [moldura, if_neg hx, getStringWithoutPrefix]
    by_cases hp : prefixo = []
    · simp [hp]
    · have hinfix : prefixo <:+: prefixo ++ x := (List.prefix_append prefixo x).isInfix
      have hpos : 0 < x.length := List.length_pos_iff.mpr hx
      have hlt : (prefixo ++ x).length > prefixo.length := by
        rw [List.length_append]
        omega
      rw [if_pos ⟨hp, hinfix⟩, if_pos hlt, List.drop_left]

/-- The empty text is its own rest after the prefix. -/
lemma formatText_eq_bind (f : SwiftMaskTextfield) : formatText cs f =
    if f.maxLength > 0 then (f.finalText cs (entrada cs f)).bind f.mostra else some f := by
  have hrest : (if f.text.length > 0 then getStringWithoutPrefix f.prefixo f.text else []) =
      getStringWithoutPrefix f.prefixo f.text := by
    split_ifs with h
    · rfl
    · have hnil : f.text = [] := List.length_eq_zero_iff.mp (by omega)
      rw [hnil, getStringWithoutPrefix_nil]
  rw [formatText, hrest]
  rfl

/-- **The rewriting.** With a pattern it never traps, and the text it leaves is what the mask takes
of the alphanumeric characters after the prefix. The text never exceeds `maxLength`, so the last
branch of the function is not reached. -/
theorem formatText_eq {f : SwiftMaskTextfield} (hf : f.formatPattern ≠ []) :
    formatText cs f = some { f with
      text := moldura f.prefixo ((mascara cs f.formatPattern).fill (entrada cs f)) } := by
  have hpos : 0 < f.formatPattern.length := List.length_pos_iff.mpr hf
  have hmax : f.maxLength > 0 := by
    unfold maxLength
    omega
  have hlaco : f.finalText cs (entrada cs f) =
      some ((mascara cs f.formatPattern).fill (entrada cs f)) := by
    unfold finalText
    split_ifs with h
    · exact laco_eq _ hpos h (by simp)
    · have hnil : entrada cs f = [] := List.length_eq_zero_iff.mp (by omega)
      rw [hnil, Mask.fill_nil]
  have hmoldura : ∀ x : List Char,
      (if x.length > 0 then f.prefixo ++ x else x) = moldura f.prefixo x := by
    intro x
    cases x <;> rfl
  have hle : ¬ (moldura f.prefixo ((mascara cs f.formatPattern).fill (entrada cs f))).length >
      f.maxLength := by
    have hfits := (Mask.fits_fill (mascara cs f.formatPattern) (entrada cs f)).length_le
    rw [mascara, List.length_map] at hfits
    unfold moldura maxLength
    split_ifs
    · simp
    · rw [List.length_append, mascara]
      omega
  rw [formatText_eq_bind, if_pos hmax, hlaco, Option.bind_some, mostra, hmoldura]
  exact if_neg hle

/-- **Where the rewriting traps.** Only in a field with a prefix and without a pattern, whose text
has an alphanumeric character after the prefix. A field without a pattern is meant to apply no mask,
and without a prefix it does. -/
theorem formatText_isSome_iff (f : SwiftMaskTextfield) : (formatText cs f).isSome ↔
    f.formatPattern ≠ [] ∨ f.prefixo = [] ∨ entrada cs f = [] := by
  by_cases hf : f.formatPattern = []
  · by_cases hp : f.prefixo = []
    · simp [formatText, maxLength, hf, hp]
    · have hmax : f.maxLength > 0 := by
        have hpos := List.length_pos_iff.mpr hp
        unfold maxLength
        omega
      rw [formatText_eq_bind, if_pos hmax]
      by_cases hent : entrada cs f = []
      · simp [finalText, mostra, hent]
      · -- the first index of the pattern is out of range
        have hpos := List.length_pos_iff.mpr hent
        obtain ⟨n, hn⟩ := Nat.exists_eq_succ_of_ne_zero hpos.ne'
        have hvolta : volta cs [] (entrada cs f) ⟨0, 0, []⟩ = none := rfl
        simp [finalText, hf, hp, hent, hn, laco, hvolta]
  · simp [formatText_eq hf, hf]

/-! ## Patterns for digits -/

/-- The fixed characters of the pattern are not alphanumeric. -/
def PontuacaoFixa (cs : CharacterSets) (formatPattern : List Char) : Prop :=
  ∀ c, .literal c ∈ mascara cs formatPattern → cs.alphanumerics c = false

/-- A pattern for digits: every character stands for a digit or for itself, and no alphanumeric one
for itself. -/
structure DeDigitos (cs : CharacterSets) (formatPattern : List Char) : Prop where
  ne_nil : formatPattern ≠ []
  casas : ∀ c ∈ formatPattern, casa cs c = .hole cs.decimalDigits ∨
    casa cs c = .literal c ∧ cs.alphanumerics c = false

/-- A pattern of ASCII for digits and punctuation. -/
lemma deDigitos_of_ascii {formatPattern : List Char} (hne : formatPattern ≠ [])
    (h : formatPattern.all (fun c =>
      c == '#' || (c.val < 128 && !c.isAlphanum && c != '*' && c != '@')) = true) :
    DeDigitos cs formatPattern where
  ne_nil := hne
  casas c hc := by
    by_cases hdig : c = '#'
    · subst hdig
      exact .inl rfl
    · obtain ⟨hascii, halnum, hstar, hat⟩ :
          c.val < 128 ∧ c.isAlphanum = false ∧ c ≠ '*' ∧ c ≠ '@' := by
        simpa [hdig, and_assoc] using List.all_eq_true.mp h c hc
      have ha : c ≠ 'a' := fun ha => by simp [ha] at halnum
      have hA : c ≠ 'A' := fun hA => by simp [hA] at halnum
      refine .inr ⟨?_, by rw [cs.alphanumerics_ascii c hascii, halnum]⟩
      simp [casa, lettersAndDigitsReplacementChar, anyLetterReplecementChar,
        lowerCaseLetterReplecementChar, upperCaseLetterReplecementChar, digitsReplecementChar,
        hstar, hat, ha, hA, hdig]

/-- Its fixed characters are not alphanumeric. -/
lemma DeDigitos.pontuacaoFixa {formatPattern : List Char} (h : DeDigitos cs formatPattern) :
    PontuacaoFixa cs formatPattern := by
  intro c hc
  obtain ⟨a, ha, hcasa⟩ := List.mem_map.mp hc
  obtain hhole | ⟨hlit, halnum⟩ := h.casas a ha
  · rw [hhole] at hcasa
    cases hcasa
  · rw [hlit] at hcasa
    cases hcasa
    exact halnum

/-- Its mask has holes for digits only. -/
lemma DeDigitos.ofClass {formatPattern : List Char} (h : DeDigitos cs formatPattern) :
    Mask.OfClass cs.decimalDigits (mascara cs formatPattern) where
  literal c hc := by
    have halnum := h.pontuacaoFixa c hc
    by_contra hdig
    have hsub := cs.decimalDigits_sub c (by simpa using hdig)
    simp [halnum] at hsub
  hole q hq := by
    obtain ⟨a, ha, hcasa⟩ := List.mem_map.mp hq
    obtain hhole | ⟨hlit, -⟩ := h.casas a ha
    · rw [hhole] at hcasa
      cases hcasa
      rfl
    · rw [hlit] at hcasa
      cases hcasa

/-- The patterns of the registration are for digits. -/
lemma deDigitos_mascarado (m : Mascarado) : DeDigitos cs m.formatPattern := by
  cases m with
  | documentNumberField => exact deDigitos_of_ascii (by decide) (by decide)
  | phoneNumberField => exact deDigitos_of_ascii (by decide) (by decide)

/-! ## A text rewritten twice -/

/-- What is rewritten of a text just rewritten are the characters the mask kept. -/
lemma entrada_formatText {f : SwiftMaskTextfield} (hlit : PontuacaoFixa cs f.formatPattern)
    {t : List Char} (ht : ∀ c ∈ t, cs.alphanumerics c = true) :
    entrada cs { f with text := moldura f.prefixo ((mascara cs f.formatPattern).fill t) } =
      (mascara cs f.formatPattern).kept t := by
  unfold entrada getFilteredString
  rw [getStringWithoutPrefix_moldura]
  exact Mask.filter_fill hlit fun _ _ a ha _ => ht a ha

/-- **A text rewritten twice stays.** Where the fixed characters of the pattern are not
alphanumeric, the second rewriting of any text is the last that changes it. The first need not be: a
character no hole takes lets the fixed characters before the next hole be written.

**Proof sketch.** The first rewriting leaves the characters it kept among fixed ones; these it keeps
again (`Mask.kept_kept`), so from then on the same is written. -/
theorem formatText_estavel {f : SwiftMaskTextfield} (hf : f.formatPattern ≠ [])
    (hlit : PontuacaoFixa cs f.formatPattern) :
    ∃ g, (formatText cs f).bind (formatText cs) = some g ∧ formatText cs g = some g := by
  have hent : ∀ c ∈ entrada cs f, cs.alphanumerics c = true := fun c hc => List.of_mem_filter hc
  have hkept : ∀ c ∈ (mascara cs f.formatPattern).kept (entrada cs f),
      cs.alphanumerics c = true := fun c hc => hent c ((Mask.kept_sublist _ _).subset hc)
  have hdois : ∀ t : List Char, formatText cs { f with text := t } = some { f with
      text := moldura f.prefixo ((mascara cs f.formatPattern).fill
        (entrada cs { f with text := t })) } :=
    fun t => formatText_eq (f := { f with text := t }) hf
  rw [formatText_eq hf, Option.bind_some, hdois, entrada_formatText hlit hent]
  refine ⟨_, rfl, ?_⟩
  rw [hdois, entrada_formatText hlit hkept, Mask.kept_kept]

/-- A letter lets a parenthesis be written, which the second rewriting takes away. -/
theorem formatText_estavel_phone :
    ∃ g, (formatText .ascii { Mascarado.phoneNumberField.vazio with text := ['5', '5', 'x'] }).bind
        (formatText .ascii) = some g ∧ formatText .ascii g = some g :=
  formatText_estavel (by decide) (deDigitos_mascarado .phoneNumberField).pontuacaoFixa

/-! ## The field over a run -/

/-- What happens to the text. -/
inductive Event where
  /-- The program assigns it. -/
  | atribui (novo : List Char)
  /-- The user replaces the `length` characters from `location`. -/
  | edita (location length : ℕ) (novo : List Char)
deriving DecidableEq

/-- The text before it is rewritten. -/
def Event.texto (f : SwiftMaskTextfield) : Event → List Char
  | .atribui novo => novo
  | .edita location length novo =>
    f.text.take location ++ novo ++ f.text.drop (location + length)

/-- The setter of `text`, or `textDidChange` after an edit. -/
def step (cs : CharacterSets) (f : SwiftMaskTextfield) (e : Event) : Option SwiftMaskTextfield :=
  formatText cs { f with text := e.texto f }

/-- The text is empty, or the prefix and a beginning of an instance of the pattern. -/
def EmMascara (cs : CharacterSets) (f : SwiftMaskTextfield) : Prop :=
  f.text = [] ∨ ∃ x, x ≠ [] ∧ f.text = f.prefixo ++ x ∧ (mascara cs f.formatPattern).Fits x

/-- What fits the pattern with its prefix is not longer than `maxLength`. -/
lemma EmMascara.length_le {f : SwiftMaskTextfield} (h : f.EmMascara cs) :
    f.text.length ≤ f.maxLength := by
  obtain h | ⟨x, -, h, hfits⟩ := h
  · simp [h]
  · have hle := hfits.length_le
    rw [mascara, List.length_map] at hle
    rw [h, List.length_append, maxLength]
    omega

/-- A step rewrites the text and leaves the pattern and the prefix. -/
lemma step_eq {f : SwiftMaskTextfield} (hf : f.formatPattern ≠ []) (e : Event) :
    step cs f e = some { f with
      text := moldura f.prefixo ((mascara cs f.formatPattern).fill
        (entrada cs { f with text := e.texto f })) } :=
  formatText_eq (f := { f with text := e.texto f }) hf

/-- The text after a step is in the mask. -/
lemma emMascara_step {f g : SwiftMaskTextfield} (hf : f.formatPattern ≠ []) {e : Event}
    (h : step cs f e = some g) : g.EmMascara cs := by
  rw [step_eq hf] at h
  cases h
  unfold EmMascara moldura
  dsimp only
  split_ifs with hx
  · exact .inl rfl
  · exact .inr ⟨_, hx, rfl, Mask.fits_fill _ _⟩

/-- **What a field shows.** A field with a pattern never traps, whatever is assigned to it or edited
in it and in whatever order; and every text it shows is empty, or its prefix and the beginning of an
instance of its pattern, and so not longer than `maxLength`. -/
theorem emMascara_throughout {f : SwiftMaskTextfield} (hf : f.formatPattern ≠ []) (ht : f.text = [])
    (es : List Event) :
    Runs.Attempts (step cs) (fun g e => (step cs g e).isSome) es f ∧
      Runs.Throughout (step cs) (fun g => g.EmMascara cs ∧ g.text.length ≤ g.maxLength) es f := by
  have hstep : ∀ g e g', (g.formatPattern ≠ [] ∧ g.EmMascara cs) → True → step cs g e = some g' →
      g'.formatPattern ≠ [] ∧ g'.EmMascara cs := by
    intro g e g' hg _ h
    refine ⟨?_, emMascara_step hg.1 h⟩
    rw [step_eq hg.1] at h
    cases h
    exact hg.1
  have htrivial : Runs.Meets (step cs) (fun _ _ => True) es f :=
    Runs.meets_of_forall (p := fun _ => True) fun _ _ => trivial
  constructor
  · refine Runs.Attempts.of_meets hstep (fun g e hg => ?_) ⟨hf, .inl ht⟩ htrivial
    rw [step_eq hg.1]
    rfl
  · exact (Runs.Throughout.of_meets hstep ⟨hf, .inl ht⟩ htrivial).imp fun g hg =>
      ⟨hg.2, hg.2.length_le⟩

/-- A phone with a letter in it, and its last character erased. -/
theorem emMascara_phone :
    Runs.Attempts (step .ascii) (fun g e => (step .ascii g e).isSome)
        [.edita 0 0 ['5', '5', 'x'], .edita 4 1 []] Mascarado.phoneNumberField.vazio ∧
      Runs.Throughout (step .ascii)
        (fun g => g.EmMascara .ascii ∧ g.text.length ≤ g.maxLength)
        [.edita 0 0 ['5', '5', 'x'], .edita 4 1 []] Mascarado.phoneNumberField.vazio :=
  emMascara_throughout (by decide) rfl _

end SwiftMaskTextfield

end Parken
