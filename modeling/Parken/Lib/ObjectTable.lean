import Mathlib.Data.List.Nodup
import Mathlib.Data.List.Perm.Basic
import Mathlib.Tactic.Common

set_option relaxedAutoImplicit false
set_option autoImplicit false

/-!
# Object tables

A table of objects of one kind. Every object has an identifier, handed out by the table when
the object is inserted and never handed out again, so that two objects with equal contents
stay distinct. The identifiers are distinct and below the next free one by construction.

## Main definitions

* `ObjectTable` — the objects of one kind with their identifiers.
* `ObjectTable.insert`, `ObjectTable.modify`, `ObjectTable.erase` — the edits.
* `ObjectTable.modifyAll` — updates one after the other.
* `ObjectTable.get?` — the contents of an object.
* `Fetched` — what a fetch returns: objects in some order, each at most once.
* `ObjectTable.fetch` — the fetch of a whole table in a given order.
* `ObjectTable.Distinct` — no two objects have the same value of an attribute.
* `ObjectTable.Lists` — a list of objects of the table, each at most once.

## Main results

* `ObjectTable.get?_eq_some_iff` — looking an object up is finding its row.
* `ObjectTable.get?_insert`, `ObjectTable.get?_modify` — the contents after an edit.
* `ObjectTable.modifyAll_perm` — the order of updates of distinct objects does not matter.
* `ObjectTable.fetch_perm` — a fetch returns every object of the table once.
* `ObjectTable.forall_perm_find?_iff` — a first-match search finds the same object in every
  order exactly when that object is the only match.
* `ObjectTable.lists_erase_iff` — after a removal a list is still one of the table exactly when the
  object removed is not on it.
* `ObjectTable.distinct_insert` — an insertion keeps the values of an attribute apart exactly
  when the new one is not in use.
-/

/-- The objects of one kind. `next` is the first identifier not handed out yet. -/
structure ObjectTable (α : Type*) where
  /-- The objects with their identifiers. -/
  rows : List (ℕ × α)
  /-- The identifier of the next object. -/
  next : ℕ
  /-- Every identifier in use has been handed out. -/
  lt_next : ∀ p ∈ rows, p.1 < next
  /-- No identifier is in use twice. -/
  nodup : (rows.map Prod.fst).Nodup
deriving DecidableEq

/-- The result of a fetch: objects in the order the store returned them, each at most once. -/
structure Fetched (α : Type*) where
  /-- The objects with their identifiers. -/
  rows : List (ℕ × α)
  /-- No object is returned twice. -/
  nodup : (rows.map Prod.fst).Nodup
deriving DecidableEq

namespace ObjectTable

variable {α : Type*}

/-- The table without objects. -/
def empty : ObjectTable α := ⟨[], 0, by simp, by simp⟩

/-- Add an object under the next identifier. -/
def insert (t : ObjectTable α) (a : α) : ObjectTable α where
  rows := t.rows ++ [(t.next, a)]
  next := t.next + 1
  lt_next p hp := by
    rcases List.mem_append.mp hp with h | h
    · have hlt := t.lt_next p h
      omega
    · rw [List.mem_singleton.mp h]
      show t.next < t.next + 1
      omega
  nodup := by
    rw [List.map_append, List.nodup_append]
    refine ⟨t.nodup, by simp, ?_⟩
    rintro a ha b hb rfl
    obtain ⟨p, hp, rfl⟩ := List.mem_map.mp ha
    have := t.lt_next p hp
    simp_all

/-- Apply `f` to the contents of object `k`, if there is one. -/
def modify (t : ObjectTable α) (k : ℕ) (f : α → α) : ObjectTable α where
  rows := t.rows.map fun p => (p.1, if p.1 = k then f p.2 else p.2)
  next := t.next
  lt_next p hp := by
    obtain ⟨q, hq, rfl⟩ := List.mem_map.mp hp
    exact t.lt_next q hq
  nodup := by rw [List.map_map]; exact t.nodup

/-- Remove object `k`, if there is one. Its identifier stays used up. -/
def erase (t : ObjectTable α) (k : ℕ) : ObjectTable α where
  rows := t.rows.filter fun p => p.1 ≠ k
  next := t.next
  lt_next p hp := t.lt_next p (List.mem_of_mem_filter hp)
  nodup := t.nodup.sublist (List.filter_sublist.map Prod.fst)

/-- The contents of object `k`. -/
def get? (t : ObjectTable α) (k : ℕ) : Option α :=
  (t.rows.find? fun p => p.1 = k).map Prod.snd

@[simp] lemma rows_empty : (empty : ObjectTable α).rows = [] := rfl

@[simp] lemma rows_insert (t : ObjectTable α) (a : α) :
    (t.insert a).rows = t.rows ++ [(t.next, a)] := rfl

@[simp] lemma next_insert (t : ObjectTable α) (a : α) : (t.insert a).next = t.next + 1 := rfl

/-- The rows after an insertion: the old ones and the new object's. -/
lemma mem_insert {t : ObjectTable α} {a : α} {p : ℕ × α} :
    p ∈ (t.insert a).rows ↔ p ∈ t.rows ∨ p = (t.next, a) := by simp

/-- The rows after an update. -/
lemma mem_modify {t : ObjectTable α} {k : ℕ} {f : α → α} {p : ℕ × α} :
    p ∈ (t.modify k f).rows ↔ ∃ q ∈ t.rows, (q.1, if q.1 = k then f q.2 else q.2) = p := by
  simp only [modify, List.mem_map]

/-- An update leaves the other rows. -/
lemma mem_modify_of_ne {t : ObjectTable α} {j k : ℕ} {a : α} (h : (j, a) ∈ t.rows) (hj : j ≠ k)
    (f : α → α) : (j, a) ∈ (t.modify k f).rows :=
  mem_modify.mpr ⟨(j, a), h, by rw [if_neg hj]⟩

/-- An update changes its row. -/
lemma mem_modify_self {t : ObjectTable α} {k : ℕ} {a : α} (h : (k, a) ∈ t.rows) (f : α → α) :
    (k, f a) ∈ (t.modify k f).rows :=
  mem_modify.mpr ⟨(k, a), h, by rw [if_pos rfl]⟩

/-- An update leaves the identifiers. -/
@[simp] lemma map_fst_modify (t : ObjectTable α) (k : ℕ) (f : α → α) :
    (t.modify k f).rows.map Prod.fst = t.rows.map Prod.fst := by
  rw [modify, List.map_map]
  rfl

/-- An update that changes nothing in its row leaves the table. -/
lemma modify_eq_self {t : ObjectTable α} {k : ℕ} {f : α → α}
    (h : ∀ a, (k, a) ∈ t.rows → f a = a) : t.modify k f = t := by
  have hrows : (t.modify k f).rows = t.rows := by
    refine (List.map_congr_left fun p hp => ?_).trans (List.map_id _)
    obtain ⟨j, a⟩ := p
    by_cases hj : j = k
    · subst hj
      simp [h a hp]
    · simp [hj]
  obtain ⟨rows, next, hlt, hnodup⟩ := t
  simpa [modify] using hrows

/-- Updates of distinct objects may be exchanged. -/
lemma modify_comm {j k : ℕ} (h : j ≠ k) (t : ObjectTable α) (f g : α → α) :
    (t.modify j f).modify k g = (t.modify k g).modify j f := by
  have hrows : ((t.modify j f).modify k g).rows = ((t.modify k g).modify j f).rows := by
    simp only [modify, List.map_map]
    refine List.map_congr_left fun p _ => ?_
    by_cases hj : p.1 = j
    · simp [hj, h]
    · simp [hj]
  unfold modify at hrows ⊢
  simpa using hrows

/-- Updates one after the other. -/
def modifyAll (t : ObjectTable α) (us : List (ℕ × (α → α))) : ObjectTable α :=
  us.foldl (fun t u => t.modify u.1 u.2) t

lemma modifyAll_append (t : ObjectTable α) (us vs : List (ℕ × (α → α))) :
    t.modifyAll (us ++ vs) = (t.modifyAll us).modifyAll vs := List.foldl_append

/-- **The order of the updates.** Updates of distinct objects have the same outcome in every
order. -/
theorem modifyAll_perm (t : ObjectTable α) {us vs : List (ℕ × (α → α))} (h : us.Perm vs)
    (hnodup : (us.map Prod.fst).Nodup) : t.modifyAll us = t.modifyAll vs := by
  refine h.foldl_eq' (fun u hu v hv t => ?_) t
  by_cases huv : u = v
  · rw [huv]
  · have hne : u.1 ≠ v.1 := fun heq => huv (List.inj_on_of_nodup_map hnodup hu hv heq)
    exact modify_comm hne t u.2 v.2

/-- The rows after a removal. -/
@[simp] lemma mem_erase {t : ObjectTable α} {k : ℕ} {p : ℕ × α} :
    p ∈ (t.erase k).rows ↔ p ∈ t.rows ∧ p.1 ≠ k := by
  simp [erase]

/-- A row determines the contents of its object. -/
lemma eq_of_mem {t : ObjectTable α} {k : ℕ} {a b : α} (ha : (k, a) ∈ t.rows)
    (hb : (k, b) ∈ t.rows) : a = b := by
  have hinj := List.inj_on_of_nodup_map t.nodup ha hb rfl
  exact congrArg Prod.snd hinj

/-- Looking an object up is finding its row. -/
@[simp] lemma get?_eq_some_iff {t : ObjectTable α} {k : ℕ} {a : α} :
    t.get? k = some a ↔ (k, a) ∈ t.rows := by
  constructor
  · intro h
    obtain ⟨p, hp, rfl⟩ := Option.map_eq_some_iff.mp h
    have hk : p.1 = k := by simpa using List.find?_some hp
    exact hk ▸ List.mem_of_find?_eq_some hp
  · intro h
    cases hf : t.rows.find? fun p => p.1 = k with
    | none => exact absurd (List.find?_eq_none.mp hf (k, a) h) (by simp)
    | some p =>
      have hk : p.1 = k := by simpa using List.find?_some hf
      have hp : (k, p.2) ∈ t.rows := hk ▸ List.mem_of_find?_eq_some hf
      simp [get?, hf, eq_of_mem hp h]

/-- An insertion adds the contents of the new object. -/
lemma get?_insert (t : ObjectTable α) (a : α) (k : ℕ) :
    (t.insert a).get? k = if k = t.next then some a else t.get? k := by
  ext b
  rw [get?_eq_some_iff, mem_insert]
  split_ifs with hk
  · subst hk
    constructor
    · rintro (h | h)
      · exact absurd (t.lt_next _ h) (Nat.lt_irrefl _)
      · exact congrArg some (Prod.mk.inj h).2.symm
    · rintro ⟨⟩
      exact .inr rfl
  · simp [hk]

/-- An update changes the contents of its object. -/
lemma get?_modify (t : ObjectTable α) (k : ℕ) (f : α → α) (j : ℕ) :
    (t.modify k f).get? j = if j = k then (t.get? j).map f else t.get? j := by
  ext b
  rw [get?_eq_some_iff, mem_modify]
  constructor
  · rintro ⟨⟨i, a⟩, ha, h⟩
    obtain ⟨rfl, rfl⟩ := Prod.mk.inj h
    have hget : t.get? i = some a := get?_eq_some_iff.mpr ha
    dsimp only
    split_ifs <;> simp [hget]
  · split_ifs with hj
    · intro h
      obtain ⟨a, ha, rfl⟩ := Option.map_eq_some_iff.mp h
      exact ⟨(j, a), get?_eq_some_iff.mp ha, by simp [hj]⟩
    · intro h
      exact ⟨(j, b), get?_eq_some_iff.mp h, by simp [hj]⟩

/-- The whole table in the order `ordem`, or in the table's own order when `ordem` does not
list exactly the table's rows. -/
def fetch [DecidableEq α] (t : ObjectTable α) (ordem : List (ℕ × α)) : Fetched α :=
  if h : ordem.Perm t.rows then ⟨ordem, (h.map Prod.fst).nodup_iff.mpr t.nodup⟩
  else ⟨t.rows, t.nodup⟩

/-- A fetch returns every object of the table once. -/
lemma fetch_perm [DecidableEq α] (t : ObjectTable α) (ordem : List (ℕ × α)) :
    (t.fetch ordem).rows.Perm t.rows := by
  unfold fetch
  split_ifs with h
  · exact h
  · exact List.Perm.refl _

/-- A fetched object is an object of the table. -/
lemma mem_fetch [DecidableEq α] {t : ObjectTable α} {ordem : List (ℕ × α)} {p : ℕ × α} :
    p ∈ (t.fetch ordem).rows ↔ p ∈ t.rows := (t.fetch_perm ordem).mem_iff

/-- A first-match search finds object `k` in every order of the rows exactly when some row of
`k` matches and every match is a row of `k`.

**Proof sketch.** If another row matched, the search would stop there in the order that puts
it first. Conversely, the search stops at some match, and all matches are rows of `k`. -/
theorem forall_perm_find?_iff {t : ObjectTable α} {q : ℕ × α → Bool} {k : ℕ} :
    (∀ l : List (ℕ × α), l.Perm t.rows → (l.find? q).map Prod.fst = some k) ↔
      (∃ p ∈ t.rows, q p = true) ∧ ∀ p ∈ t.rows, q p = true → p.1 = k := by
  constructor
  · intro h
    constructor
    · obtain ⟨p, hp, -⟩ := Option.map_eq_some_iff.mp (h t.rows (List.Perm.refl _))
      exact ⟨p, List.mem_of_find?_eq_some hp, List.find?_some hp⟩
    · intro p hp hq
      obtain ⟨l₁, l₂, hl⟩ := List.append_of_mem hp
      have hperm : (p :: (l₁ ++ l₂)).Perm t.rows := by
        rw [hl]; exact List.perm_middle.symm
      have := h _ hperm
      simpa [List.find?_cons, hq] using this
  · rintro ⟨⟨p, hp, hq⟩, hall⟩ l hl
    cases hf : l.find? q with
    | none => exact absurd hq (List.find?_eq_none.mp hf p (hl.mem_iff.mpr hp))
    | some p' =>
      have hp' := hl.mem_iff.mp (List.mem_of_find?_eq_some hf)
      simp [hall p' hp' (List.find?_some hf)]

/-! ## Attributes that tell the objects apart -/

variable {β : Type*}

/-- No two objects of the table have the same value of `f`. -/
def Distinct (t : ObjectTable α) (f : α → β) : Prop :=
  ∀ p ∈ t.rows, ∀ q ∈ t.rows, f p.2 = f q.2 → p.1 = q.1

@[simp] lemma distinct_empty (f : α → β) : (empty : ObjectTable α).Distinct f :=
  fun _ hp => absurd hp List.not_mem_nil

/-- An insertion keeps the values apart exactly when the new one is not in use. -/
lemma distinct_insert {t : ObjectTable α} {f : α → β} {a : α} :
    (t.insert a).Distinct f ↔ t.Distinct f ∧ ∀ p ∈ t.rows, f p.2 ≠ f a := by
  constructor
  · refine fun h => ⟨fun p hp q hq => ?_, fun p hp heq => ?_⟩
    · exact h p (mem_insert.mpr (.inl hp)) q (mem_insert.mpr (.inl hq))
    · have := h p (mem_insert.mpr (.inl hp)) (t.next, a) (mem_insert.mpr (.inr rfl)) heq
      exact absurd (t.lt_next p hp) (by omega)
  · rintro ⟨h, hne⟩ p hp q hq heq
    rcases mem_insert.mp hp with hp | rfl <;> rcases mem_insert.mp hq with hq | rfl
    · exact h p hp q hq heq
    · exact absurd heq (hne p hp)
    · exact absurd heq.symm (hne q hq)
    · rfl

/-- A removal keeps the values apart. -/
lemma Distinct.erase {t : ObjectTable α} {f : α → β} (h : t.Distinct f) (k : ℕ) :
    (t.erase k).Distinct f :=
  fun p hp q hq => h p (mem_erase.mp hp).1 q (mem_erase.mp hq).1

/-- An update that leaves the attribute keeps the values apart. -/
lemma Distinct.modify {t : ObjectTable α} {f : α → β} (h : t.Distinct f) (k : ℕ) {g : α → α}
    (hg : ∀ a, f (g a) = f a) : (t.modify k g).Distinct f := by
  intro p hp q hq heq
  obtain ⟨p₀, hp₀, rfl⟩ := mem_modify.mp hp
  obtain ⟨q₀, hq₀, rfl⟩ := mem_modify.mp hq
  refine h p₀ hp₀ q₀ hq₀ ?_
  have hval : ∀ r : ℕ × α, f (if r.1 = k then g r.2 else r.2) = f r.2 := by
    intro r
    split_ifs
    · exact hg r.2
    · rfl
  simpa only [hval] using heq

/-! ## Lists of objects -/

/-- The identifiers of the list are of objects of the table, each at most once. -/
structure Lists (t : ObjectTable α) (ks : List ℕ) : Prop where
  nodup : ks.Nodup
  stored : ∀ k ∈ ks, ∃ a, (k, a) ∈ t.rows

lemma lists_nil (t : ObjectTable α) : t.Lists [] := ⟨List.nodup_nil, by simp⟩

/-- A fetch lists the table. -/
lemma lists_fetch [DecidableEq α] (t : ObjectTable α) (ordem : List (ℕ × α)) :
    t.Lists ((t.fetch ordem).rows.map Prod.fst) where
  nodup := (t.fetch ordem).nodup
  stored k hk := by
    obtain ⟨⟨j, a⟩, ha, rfl⟩ := List.mem_map.mp hk
    exact ⟨a, mem_fetch.mp ha⟩

lemma Lists.insert {t : ObjectTable α} {ks : List ℕ} (h : t.Lists ks) (a : α) :
    (t.insert a).Lists ks :=
  ⟨h.nodup, fun k hk => (h.stored k hk).imp fun _ hb => mem_insert.mpr (.inl hb)⟩

lemma Lists.modify {t : ObjectTable α} {ks : List ℕ} (h : t.Lists ks) (k : ℕ) (f : α → α) :
    (t.modify k f).Lists ks where
  nodup := h.nodup
  stored j hj := by
    obtain ⟨a, ha⟩ := h.stored j hj
    exact ⟨_, mem_modify.mpr ⟨(j, a), ha, rfl⟩⟩

/-- A removal leaves a list one of the table exactly when the object removed is not on it. -/
theorem lists_erase_iff {t : ObjectTable α} {ks : List ℕ} (h : t.Lists ks) {k : ℕ} :
    (t.erase k).Lists ks ↔ k ∉ ks := by
  constructor
  · intro h' hk
    obtain ⟨a, ha⟩ := h'.stored k hk
    exact (mem_erase.mp ha).2 rfl
  · intro hk
    refine ⟨h.nodup, fun j hj => ?_⟩
    obtain ⟨a, ha⟩ := h.stored j hj
    have hne : j ≠ k := fun heq => hk (heq ▸ hj)
    exact ⟨a, mem_erase.mpr ⟨ha, hne⟩⟩

/-- The object of a row is removed together with the row. -/
lemma Lists.eraseIdx {t : ObjectTable α} {ks : List ℕ} (h : t.Lists ks) {i k : ℕ}
    (hk : ks[i]? = some k) : (t.erase k).Lists (ks.eraseIdx i) := by
  obtain ⟨hi, rfl⟩ := List.getElem?_eq_some_iff.mp hk
  have hperm := List.getElem_cons_eraseIdx_perm hi
  have hnodup := hperm.nodup_iff.mpr h.nodup
  rw [List.nodup_cons] at hnodup
  have hresto : t.Lists (ks.eraseIdx i) :=
    ⟨hnodup.2, fun j hj => h.stored j (List.mem_of_mem_eraseIdx hj)⟩
  exact (lists_erase_iff hresto).mpr hnodup.1

end ObjectTable
