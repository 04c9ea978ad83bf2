import Mathlib.Data.List.DropRight
import Mathlib.Tactic.Common

set_option relaxedAutoImplicit false
set_option autoImplicit false

/-!
# Managed object contexts

A managed object context sits between a program and a persisted store. The program's changes
are held back in the context as pending; `save` either writes all of them or throws and writes
none, and then they stay pending. The program reads the store through the context, with the
pending changes applied.

The kind of store and of change is arbitrary; `Edit.apply` is the effect of one change.

## Main definitions

* `ManagedContext` — the persisted store and the pending changes.
* `ManagedContext.view` — the store as the program reads it.
* `Write` — what one operation does to a context: its changes, and whether it saves.
* `ManagedContext.exec`, `ManagedContext.execAll` — one operation, and several in order.
* `Versions` — the abstract context: the persisted version and the visible version.

## Main results

* `ManagedContext.versions_exec` — a context refines its two versions.
* `ManagedContext.view_execAll` — the program reads every change made so far.
* `ManagedContext.persisted_execAll` — what is persisted after a run is every change up to
  the last successful save, and none after it.
* `ManagedContext.versions_execAll` — so does a run.
-/

/-- Changes of type `δ` to a store of type `σ`. -/
class Edit (δ : Type*) (σ : outParam (Type*)) where
  /-- The store after a change. -/
  apply : δ → σ → σ

/-- The store after a list of changes. -/
def Edit.applyAll {δ σ : Type*} [Edit δ σ] (ds : List δ) (s : σ) : σ :=
  ds.foldl (fun s d => Edit.apply d s) s

/-- A persisted store and the changes pending over it. -/
structure ManagedContext (σ δ : Type*) where
  /-- The store on disk. -/
  persisted : σ
  /-- The changes no save has written yet, oldest first. -/
  pending : List δ

/-- What an operation does to the context: it makes `changes`, and calls `save` unless `save`
is `none`. `some true` is a save that succeeds, `some false` one that throws. -/
structure Write (δ : Type*) where
  /-- The changes the operation makes. -/
  changes : List δ
  /-- The outcome of its save, if it saves. -/
  save : Option Bool
deriving DecidableEq

/-- The write of an operation that leaves the context alone. -/
def Write.none {δ : Type*} : Write δ := ⟨[], Option.none⟩

/-- A save of what is pending, without changes of its own. -/
def Write.flush {δ : Type*} (ok : Bool) : Write δ := ⟨[], some ok⟩

/-- The write's save succeeds. -/
def Write.Saves {δ : Type*} (w : Write δ) : Prop := w.save = some true

instance {δ : Type*} (w : Write δ) : Decidable w.Saves :=
  inferInstanceAs (Decidable (w.save = some true))

/-- The abstract context: two versions of the store. -/
structure Versions (σ : Type*) where
  /-- What a restart would find. -/
  persisted : σ
  /-- What the running program sees. -/
  visible : σ

/-- An operation on the two versions: the visible one takes the changes, and a successful save
copies it over the persisted one. -/
def Versions.exec {σ δ : Type*} [Edit δ σ] (v : Versions σ) (w : Write δ) : Versions σ :=
  let visible := Edit.applyAll w.changes v.visible
  ⟨if w.Saves then visible else v.persisted, visible⟩

namespace ManagedContext

variable {σ δ : Type*} [Edit δ σ]

open Edit

/-- The store as the program reads it: the pending changes applied to the persisted store. -/
def view (c : ManagedContext σ δ) : σ := applyAll c.pending c.persisted

/-- The context after changes that are not saved yet. -/
def record (c : ManagedContext σ δ) (ds : List δ) : ManagedContext σ δ :=
  { c with pending := c.pending ++ ds }

/-- `save`: all pending changes are written, or it throws and none is. -/
def save (c : ManagedContext σ δ) (ok : Bool) : ManagedContext σ δ :=
  if ok then ⟨c.view, []⟩ else c

/-- The context after an operation. -/
def exec (c : ManagedContext σ δ) (w : Write δ) : ManagedContext σ δ :=
  match w.save with
  | none => c.record w.changes
  | some ok => (c.record w.changes).save ok

/-- The context after several operations. -/
def execAll (c : ManagedContext σ δ) (ws : List (Write δ)) : ManagedContext σ δ :=
  ws.foldl exec c

/-- The context of a freshly opened store. -/
def opened (s : σ) : ManagedContext σ δ := ⟨s, []⟩

@[simp] lemma applyAll_nil (s : σ) : applyAll ([] : List δ) s = s := rfl

@[simp] lemma applyAll_cons (d : δ) (ds : List δ) (s : σ) :
    applyAll (d :: ds) s = applyAll ds (apply d s) := rfl

@[simp] lemma applyAll_append (ds es : List δ) (s : σ) :
    applyAll (ds ++ es) s = applyAll es (applyAll ds s) := by
  simp [applyAll, List.foldl_append]

/-- What every change keeps of two stores, a list of changes keeps. -/
lemma applyAll_congr {R : σ → σ → Prop}
    (hR : ∀ (d : δ) (s t : σ), R s t → R (apply d s) (apply d t)) (ds : List δ) {s t : σ}
    (h : R s t) : R (applyAll ds s) (applyAll ds t) := by
  induction ds generalizing s t with
  | nil => exact h
  | cons d ds ih => exact ih (hR d s t h)

@[simp] lemma view_opened (s : σ) : (opened s : ManagedContext σ δ).view = s := rfl

omit [Edit δ σ] in
@[simp] lemma persisted_opened (s : σ) : (opened s : ManagedContext σ δ).persisted = s := rfl

@[simp] lemma view_record (c : ManagedContext σ δ) (ds : List δ) :
    (c.record ds).view = applyAll ds c.view := by
  simp [view, record]

/-- A save changes nothing the program reads, whether it succeeds or throws. -/
@[simp] lemma view_save (c : ManagedContext σ δ) (ok : Bool) : (c.save ok).view = c.view := by
  cases ok <;> simp [save, view]

/-- The program reads an operation's changes, saved or not. -/
@[simp] lemma view_exec (c : ManagedContext σ δ) (w : Write δ) :
    (c.exec w).view = applyAll w.changes c.view := by
  rcases w with ⟨ds, _ | ok⟩ <;> simp [exec]

omit [Edit δ σ] in
/-- An operation that leaves the context alone. -/
@[simp] lemma record_nil (c : ManagedContext σ δ) : c.record [] = c := by
  simp [record]

@[simp] lemma exec_none (c : ManagedContext σ δ) : c.exec .none = c := c.record_nil

/-- An operation whose save succeeds writes everything the program sees. -/
lemma persisted_exec_of_saves (c : ManagedContext σ δ) {w : Write δ} (h : w.Saves) :
    (c.exec w).persisted = applyAll w.changes c.view := by
  obtain ⟨ds, sv⟩ := w
  obtain rfl : sv = some true := h
  simp [exec, save]

/-- An operation whose save does not succeed writes nothing. -/
lemma persisted_exec_of_not_saves (c : ManagedContext σ δ) {w : Write δ} (h : ¬ w.Saves) :
    (c.exec w).persisted = c.persisted := by
  obtain ⟨ds, sv⟩ := w
  rcases sv with _ | _ | _
  · rfl
  · rfl
  · exact absurd rfl h

/-- What an operation leaves persisted is either what was, or all the program sees. -/
lemma persisted_exec (c : ManagedContext σ δ) (w : Write δ) :
    (c.exec w).persisted = if w.Saves then (c.exec w).view else c.persisted := by
  split_ifs with h
  · rw [view_exec, persisted_exec_of_saves c h]
  · exact persisted_exec_of_not_saves c h

/-- What is pending after an operation: nothing after a successful save, and the operation's own
changes too after any other. -/
lemma pending_exec (c : ManagedContext σ δ) (w : Write δ) :
    (c.exec w).pending = if w.Saves then [] else c.pending ++ w.changes := by
  rcases w with ⟨ds, _ | _ | _⟩ <;> rfl

/-- If an operation saves or makes only changes of a kind, what is pending stays of that kind. -/
lemma forall_pending_exec {Q : δ → Prop} {c : ManagedContext σ δ} {w : Write δ}
    (hc : ∀ d ∈ c.pending, Q d) (hw : w.Saves ∨ ∀ d ∈ w.changes, Q d) :
    ∀ d ∈ (c.exec w).pending, Q d := by
  rw [pending_exec]
  split_ifs with hsaves
  · simp
  · intro d hd
    rcases List.mem_append.mp hd with hd | hd
    · exact hc d hd
    · exact hw.resolve_left hsaves d hd

/-! ## Runs of operations -/

@[simp] lemma execAll_nil (c : ManagedContext σ δ) : c.execAll [] = c := rfl

@[simp] lemma execAll_cons (c : ManagedContext σ δ) (w : Write δ) (ws : List (Write δ)) :
    c.execAll (w :: ws) = (c.exec w).execAll ws := rfl

lemma execAll_append (c : ManagedContext σ δ) (ws vs : List (Write δ)) :
    c.execAll (ws ++ vs) = (c.execAll ws).execAll vs := by
  simp [execAll, List.foldl_append]

/-- The program reads every change made so far, whatever the saves did. -/
theorem view_execAll (c : ManagedContext σ δ) (ws : List (Write δ)) :
    (c.execAll ws).view = applyAll (ws.flatMap Write.changes) c.view := by
  induction ws generalizing c with
  | nil => rfl
  | cons w ws ih => simp [ih]

/-- A run without a successful save writes nothing. -/
lemma persisted_execAll_of_not_saves (c : ManagedContext σ δ) {ws : List (Write δ)}
    (h : ∀ w ∈ ws, ¬ w.Saves) : (c.execAll ws).persisted = c.persisted := by
  induction ws generalizing c with
  | nil => rfl
  | cons w ws ih =>
    rw [execAll_cons, ih _ fun v hv => h v (List.mem_cons_of_mem _ hv)]
    exact persisted_exec_of_not_saves c (h w (by simp))

/-- The operations up to and including the last one whose save succeeds. -/
def flushed (ws : List (Write δ)) : List (Write δ) :=
  ws.rdropWhile fun w => ¬ w.Saves

/-- The operations after the last successful save save nothing. -/
lemma flushed_append (ws : List (Write δ)) :
    ∃ vs, ws = flushed ws ++ vs ∧ ∀ w ∈ vs, ¬ w.Saves := by
  refine ⟨ws.rtakeWhile fun w => ¬ w.Saves, (List.rdropWhile_append_rtakeWhile).symm, ?_⟩
  intro w hw
  simpa using List.mem_rtakeWhile_imp hw

/-- The run up to the last successful save is empty or ends with that save. -/
lemma flushed_eq_nil_or (ws : List (Write δ)) :
    flushed ws = [] ∨ ∃ vs w, flushed ws = vs ++ [w] ∧ w.Saves := by
  rcases List.eq_nil_or_concat (flushed ws) with h | ⟨vs, w, h⟩
  · exact .inl h
  · refine .inr ⟨vs, w, by simpa using h, ?_⟩
    have hne : flushed ws ≠ [] := by simp [h]
    have hlast : ¬ decide (¬ ((flushed ws).getLast hne).Saves) = true :=
      List.rdropWhile_last_not _ ws hne
    have hw : (flushed ws).getLast hne = w := by simp [h]
    rw [hw] at hlast
    simpa using hlast

/-- **What is persisted.** After any run of operations over a context with nothing pending,
with any pattern of saves, the persisted store holds the changes of every operation up to the
last one whose save succeeded, those of failed saves included, and of none after it.

**Proof sketch.** Split the run after its last successful save. That save writes all the
program sees (`view_execAll`), and no later operation writes anything. -/
theorem persisted_execAll (s : σ) (ws : List (Write δ)) :
    ((opened s : ManagedContext σ δ).execAll ws).persisted =
      applyAll ((flushed ws).flatMap Write.changes) s := by
  obtain ⟨vs, hws, hvs⟩ := flushed_append ws
  conv_lhs => rw [hws]
  rw [execAll_append, persisted_execAll_of_not_saves _ hvs]
  rcases flushed_eq_nil_or ws with h | ⟨us, w, h, hw⟩
  · rw [h]; rfl
  · rw [h, execAll_append]
    simp only [execAll_cons, execAll_nil, List.flatMap_append, applyAll_append]
    rw [persisted_exec_of_saves _ hw, view_execAll]
    simp

/-! ## The two versions -/

/-- The two versions of a context. -/
def versions (c : ManagedContext σ δ) : Versions σ := ⟨c.persisted, c.view⟩

/-- **Refinement.** An operation on a context is the operation on its two versions. -/
theorem versions_exec (c : ManagedContext σ δ) (w : Write δ) :
    (c.exec w).versions = c.versions.exec w := by
  simp [versions, Versions.exec, persisted_exec]

/-- A run of operations on a context is the run on its two versions. -/
theorem versions_execAll (c : ManagedContext σ δ) (ws : List (Write δ)) :
    (c.execAll ws).versions = ws.foldl Versions.exec c.versions := by
  induction ws generalizing c with
  | nil => rfl
  | cons w ws ih => rw [execAll_cons, ih, versions_exec, List.foldl_cons]

end ManagedContext
