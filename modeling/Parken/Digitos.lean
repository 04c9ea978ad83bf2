import Parken.Mascara

set_option relaxedAutoImplicit false
set_option autoImplicit false

/-!
# Masked text fields for digits

The registration asks for a CPF and a phone in fields whose patterns have places for digits only.
Such a field is a line of digits that holds as many as the pattern has places: an edit does to its
digits what it does to the line, and the text is the line in the mask.

## Main definitions

* `Parken.SwiftMaskTextfield.digitos` — the digits of the text.
* `Parken.SwiftMaskTextfield.Digitacao.aplica`, `Parken.SwiftMaskTextfield.Tecla.aplica` — the line
  of digits under an edit and under a key.
* `Parken.SwiftMaskTextfield.Reflete`, `Parken.SwiftMaskTextfield.Mostra` — the text is the line in
  the mask, up to fixed characters at its end, and exactly.

## Main results

* `Parken.SwiftMaskTextfield.reflete_throughout` — a field for digits is a bounded line of digits.
* `Parken.SwiftMaskTextfield.teclado` — typed on a keypad, it shows the line and nothing else.
-/

namespace Parken

namespace SwiftMaskTextfield

variable {cs : CharacterSets}

/-! ## The line of digits -/

/-- The digits of the text. -/
def digitos (cs : CharacterSets) (f : SwiftMaskTextfield) : List Char :=
  f.text.filter cs.decimalDigits

/-- What happens to a line of digits: all of them are replaced, or some. -/
inductive Digitacao where
  | atribui (d : List Char)
  | edita (location length : ℕ) (d : List Char)

/-- The line of at most `n` digits after it happened. -/
def Digitacao.aplica (n : ℕ) (linha : List Char) : Digitacao → List Char
  | .atribui d => d.take n
  | .edita location length d =>
    (linha.take location ++ d ++ linha.drop (location + length)).take n

/-- What an event does to the digits: an edit replaces the digits of the range by those typed. -/
def Event.digitacao (cs : CharacterSets) (f : SwiftMaskTextfield) : Event → Digitacao
  | .atribui novo => .atribui (novo.filter cs.decimalDigits)
  | .edita location length novo =>
    .edita ((f.text.take location).filter cs.decimalDigits).length
      (((f.text.drop location).take length).filter cs.decimalDigits).length
      (novo.filter cs.decimalDigits)

/-- The digits of what is rewritten are those of the text. -/
lemma filter_entrada {f : SwiftMaskTextfield} (hp : f.prefixo = []) :
    (entrada cs f).filter cs.decimalDigits = f.digitos cs := by
  have hrest : getStringWithoutPrefix f.prefixo f.text = f.text := by
    simp [getStringWithoutPrefix, hp]
  rw [entrada, getFilteredString, hrest, List.filter_filter, digitos]
  apply List.filter_congr
  intro c _
  cases hd : cs.decimalDigits c with
  | false => simp
  | true => simp [cs.decimalDigits_sub c hd]

/-- The digits of a text an edit leaves. -/
lemma filter_texto (f : SwiftMaskTextfield) (e : Event) (n : ℕ) :
    ((e.texto f).filter cs.decimalDigits).take n =
      (e.digitacao cs f).aplica n (f.digitos cs) := by
  cases e with
  | atribui novo => rfl
  | edita location length novo =>
    have htext : f.text = f.text.take location ++ ((f.text.drop location).take length ++
        f.text.drop (location + length)) := by
      rw [← List.drop_drop, List.take_append_drop, List.take_append_drop]
    have hdigitos : f.digitos cs = (f.text.take location).filter cs.decimalDigits ++
        (((f.text.drop location).take length).filter cs.decimalDigits ++
          (f.text.drop (location + length)).filter cs.decimalDigits) := by
      rw [digitos]
      conv_lhs => rw [htext]
      rw [List.filter_append, List.filter_append]
    have hdrop : ∀ a b c : List Char, (a ++ (b ++ c)).drop (a.length + b.length) = c := by
      intro a b c
      rw [← List.drop_drop, List.drop_left, List.drop_left]
    simp only [Event.texto, Event.digitacao, Digitacao.aplica, List.filter_append]
    rw [hdigitos, List.take_left, hdrop]

/-- The text is the digits in the mask, but for fixed characters at its end. -/
def Reflete (cs : CharacterSets) (f : SwiftMaskTextfield) : Prop :=
  ∃ l, f.text = (mascara cs f.formatPattern).fill (f.digitos cs) ++ l ∧
    ∀ c ∈ l, cs.decimalDigits c = false

/-- The digits after a step. -/
lemma digitos_step {f g : SwiftMaskTextfield} (hd : DeDigitos cs f.formatPattern)
    (hp : f.prefixo = []) {e : Event} (h : step cs f e = some g) :
    g.digitos cs = (e.digitacao cs f).aplica (mascara cs f.formatPattern).holes (f.digitos cs) ∧
      g.Reflete cs := by
  rw [step_eq hd.ne_nil] at h
  cases h
  have hmoldura : ∀ x : List Char, moldura f.prefixo x = x := by
    intro x
    cases x <;> simp [moldura, hp]
  have hclasse := hd.ofClass
  constructor
  · have hentrada : (entrada cs { f with text := e.texto f }).filter cs.decimalDigits =
        digitos cs { f with text := e.texto f } := filter_entrada hp
    rw [digitos]
    dsimp only
    rw [hmoldura, hclasse.filter_fill, Mask.kept_eq_take hclasse, hentrada]
    exact filter_texto f e _
  · unfold Reflete digitos
    dsimp only
    rw [hmoldura]
    exact (Mask.fits_fill _ _).eq_fill_append hclasse

/-- **A field for digits is a bounded line of digits.** In a field without a prefix that starts
empty, over every sequence of assignments and edits, of any range and with any characters typed or
pasted, the text shown is the digits of the
line in the mask, followed at most by fixed characters; and each event does to the digits what it
does to a line that holds as many as the pattern has places, the digits of the range replaced by
those typed.

**Proof sketch.** The mask keeps the first digits of what is typed (`Mask.kept_eq_take`), the
filters before it lose none (`filter_entrada`), and what fits the mask is a filling with its digits
(`Mask.Fits.eq_fill_append`). -/
theorem reflete_throughout {f : SwiftMaskTextfield} (hd : DeDigitos cs f.formatPattern)
    (hp : f.prefixo = []) (ht : f.text = []) (es : List Event) :
    Runs.Throughout (step cs) (fun g => g.Reflete cs ∧ ∀ e, ∀ g' ∈ step cs g e,
      g'.digitos cs = (e.digitacao cs g).aplica (mascara cs f.formatPattern).holes (g.digitos cs))
      es f := by
  have hinv : Runs.Throughout (step cs)
      (fun g => (g.formatPattern = f.formatPattern ∧ g.prefixo = []) ∧ g.Reflete cs) es f := by
    refine .of_step (fun g e g' hg h => ?_) ⟨⟨rfl, hp⟩, [], by simp [digitos, ht], by simp⟩
    have hreflete := (digitos_step (hg.1.1 ▸ hd) hg.1.2 h).2
    rw [step_eq (hg.1.1 ▸ hd.ne_nil)] at h
    cases h
    exact ⟨hg.1, hreflete⟩
  refine hinv.imp fun g hg => ⟨hg.2, fun e g' h => ?_⟩
  rw [← hg.1.1]
  exact (digitos_step (hg.1.1 ▸ hd) hg.1.2 h).1

/-- A CPF pasted, and two of its characters replaced. -/
theorem reflete_documentNumber :
    Runs.Throughout (step .ascii) (fun g => g.Reflete .ascii ∧ ∀ e, ∀ g' ∈ step .ascii g e,
      g'.digitos .ascii = (e.digitacao .ascii g).aplica
        (mascara .ascii Mascarado.documentNumberField.vazio.formatPattern).holes (g.digitos .ascii))
      [.edita 0 0 ['1', '2', '3', '-', '4'], .edita 2 2 ['x', '5']]
      Mascarado.documentNumberField.vazio :=
  reflete_throughout (deDigitos_mascarado .documentNumberField) rfl rfl _

/-! ## The keypad -/

/-- A key: a digit typed at the end of the text, or the character at the end erased. -/
inductive Tecla (cs : CharacterSets) where
  | digito (c : {c : Char // cs.decimalDigits c = true})
  | apaga

/-- The edit a key makes. -/
def Tecla.evento (f : SwiftMaskTextfield) : Tecla cs → Event
  | .digito c => .edita f.text.length 0 [c.1]
  | .apaga => .edita (f.text.length - 1) 1 []

/-- The line of at most `n` digits after a key. -/
def Tecla.aplica (n : ℕ) (linha : List Char) : Tecla cs → List Char
  | .digito c => (linha ++ [c.1]).take n
  | .apaga => linha.dropLast

/-- The text is the line in the mask. -/
structure Mostra (cs : CharacterSets) (f : SwiftMaskTextfield) (linha : List Char) : Prop where
  text : f.text = (mascara cs f.formatPattern).fill linha
  digitos : ∀ c ∈ linha, cs.decimalDigits c = true
  length_le : linha.length ≤ (mascara cs f.formatPattern).holes

/-- The alphanumeric characters of the text are those of the line. -/
lemma Mostra.filter_text {f : SwiftMaskTextfield} (hd : DeDigitos cs f.formatPattern)
    {linha : List Char} (h : f.Mostra cs linha) : f.text.filter cs.alphanumerics = linha := by
  have halnum : ∀ a ∈ linha, cs.alphanumerics a = true := fun a ha =>
    cs.decimalDigits_sub a (h.digitos a ha)
  have hfilter : linha.filter cs.decimalDigits = linha := List.filter_eq_self.mpr h.digitos
  rw [h.text, Mask.filter_fill hd.pontuacaoFixa fun _ _ a ha _ => halnum a ha,
    Mask.kept_eq_take hd.ofClass, hfilter, List.take_of_length_le h.length_le]

/-- The text after a key, before it is rewritten, has the alphanumeric characters of the line after
it, but for a digit too many.

**Proof sketch.** What is erased is the last digit of the line: no fixed character follows it
(`Mask.OfClass.exists_fill_concat`). -/
lemma filter_tecla {f : SwiftMaskTextfield} (hd : DeDigitos cs f.formatPattern) {linha : List Char}
    (h : f.Mostra cs linha) (t : Tecla cs) :
    ((t.evento f).texto f).filter cs.alphanumerics =
      match t with
      | .digito c => linha ++ [c.1]
      | .apaga => linha.dropLast := by
  have hfilter := h.filter_text hd
  cases t with
  | digito c =>
    have halnum : cs.alphanumerics c.1 = true := cs.decimalDigits_sub c.1 c.2
    simp [Tecla.evento, Event.texto, hfilter, halnum]
  | apaga =>
    have hfim : f.text.length ≤ f.text.length - 1 + 1 := by omega
    have hevento : ((Tecla.apaga : Tecla cs).evento f).texto f = f.text.dropLast := by
      simp [Tecla.evento, Event.texto, List.dropLast_eq_take, List.drop_eq_nil_of_le hfim]
    rw [hevento]
    rcases List.eq_nil_or_concat linha with rfl | ⟨d, a, rfl⟩
    · simp [h.text]
    · rw [List.concat_eq_append] at h hfilter ⊢
      have ha := h.digitos a (by simp)
      obtain ⟨y, hy⟩ := hd.ofClass.exists_fill_concat (fun b hb => h.digitos b (by simp [hb])) ha
        h.length_le
      rw [h.text, hy] at hfilter ⊢
      have halnum : cs.alphanumerics a = true := cs.decimalDigits_sub a ha
      rw [List.filter_append, List.filter_singleton, halnum, cond_true] at hfilter
      rw [List.dropLast_concat, List.dropLast_concat]
      exact List.append_cancel_right hfilter

/-- **A key.** It does to the text what it does to the line. -/
lemma Mostra.tecla {f : SwiftMaskTextfield} (hd : DeDigitos cs f.formatPattern)
    (hlast : f.formatPattern.getLast? = some digitsReplecementChar) (hp : f.prefixo = [])
    {linha : List Char} (h : f.Mostra cs linha) (t : Tecla cs) :
    ∃ text, step cs f (t.evento f) = some { f with text := text } ∧
      Mostra cs { f with text := text }
        (t.aplica (mascara cs f.formatPattern).holes linha) := by
  refine ⟨_, step_eq hd.ne_nil _, ?_⟩
  have hrest : entrada cs { f with text := (t.evento f).texto f } =
      ((t.evento f).texto f).filter cs.alphanumerics := by
    simp [entrada, getFilteredString, getStringWithoutPrefix, hp]
  have hmoldura : ∀ x : List Char, moldura f.prefixo x = x := by
    intro x
    cases x <;> simp [moldura, hp]
  have hhole : (mascara cs f.formatPattern).getLast? = some (.hole cs.decimalDigits) := by
    rw [mascara, List.getLast?_map, hlast]
    rfl
  rw [hmoldura, hrest, filter_tecla hd h t]
  cases t with
  | digito c =>
    have hdig : ∀ b ∈ linha ++ [c.1], cs.decimalDigits b = true := by
      intro b hb
      rcases List.mem_append.mp hb with hb | hb
      · exact h.digitos b hb
      · rw [List.mem_singleton.mp hb]
        exact c.2
    exact ⟨(hd.ofClass.fill_take hhole hdig).symm, fun b hb => hdig b (List.mem_of_mem_take hb),
      List.length_take_le _ _⟩
  | apaga =>
    have hle := h.length_le
    refine ⟨rfl, fun b hb => h.digitos b (List.dropLast_subset _ hb), ?_⟩
    rw [Tecla.aplica, List.length_dropLast]
    exact (Nat.sub_le _ _).trans hle

/-- So do several, in the order they are pressed. -/
lemma Mostra.teclas {f : SwiftMaskTextfield} (hd : DeDigitos cs f.formatPattern)
    (hlast : f.formatPattern.getLast? = some digitsReplecementChar) (hp : f.prefixo = [])
    {linha : List Char} (h : f.Mostra cs linha) (ts : List (Tecla cs)) :
    ∃ text, Runs.run (fun g t => step cs g (Tecla.evento g t)) ts f = some { f with text := text } ∧
      Mostra cs { f with text := text }
        (ts.foldl (Tecla.aplica (mascara cs f.formatPattern).holes) linha) := by
  induction ts generalizing f linha with
  | nil => exact ⟨f.text, rfl, h⟩
  | cons t ts ih =>
    obtain ⟨text, hstep, h'⟩ := h.tecla hd hlast hp t
    obtain ⟨text', hrun, h''⟩ := ih (f := { f with text := text }) hd hlast hp h'
    exact ⟨text', by rw [Runs.run_cons, hstep, Option.bind_some, hrun], h''⟩

/-- **The keypad.** Over every sequence of keys an empty field for digits without a prefix, whose
pattern ends with one, shows the line they type: the text is the mask filled with it, and nothing
else.

**Proof sketch.** Each key leaves the line it types in the mask (`Mostra.tecla`), so all of them do
(`Mostra.teclas`). -/
theorem teclado {f : SwiftMaskTextfield} (hd : DeDigitos cs f.formatPattern)
    (hlast : f.formatPattern.getLast? = some digitsReplecementChar) (hp : f.prefixo = [])
    (ht : f.text = []) (ts : List (Tecla cs)) :
    Runs.run (fun g t => step cs g (Tecla.evento g t)) ts f = some { f with
      text := (mascara cs f.formatPattern).fill
        (ts.foldl (Tecla.aplica (mascara cs f.formatPattern).holes) []) } := by
  have hinicial : f.Mostra cs [] := ⟨by simp [ht], by simp, by simp⟩
  obtain ⟨text, hrun, hmostra⟩ := hinicial.teclas hd hlast hp ts
  rw [hrun]
  exact congrArg (fun x => some { f with text := x }) hmostra.text

/-- A digit typed and erased. -/
def digitaEApaga : List (Tecla .ascii) := [.digito ⟨'1', rfl⟩, .apaga]

/-- Typed into the field for the CPF. -/
theorem teclado_documentNumber :
    Runs.run (fun g t => step .ascii g (Tecla.evento g t)) digitaEApaga
        Mascarado.documentNumberField.vazio = some { Mascarado.documentNumberField.vazio with
      text := (mascara .ascii Mascarado.documentNumberField.vazio.formatPattern).fill
        (digitaEApaga.foldl (Tecla.aplica
          (mascara .ascii Mascarado.documentNumberField.vazio.formatPattern).holes) []) } :=
  teclado (deDigitos_mascarado .documentNumberField) rfl rfl rfl _

end SwiftMaskTextfield

end Parken
