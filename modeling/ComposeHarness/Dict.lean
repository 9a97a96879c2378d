/-!
# Dictionaries

A finite map from texts to values, kept as its entries in ascending order of their keys. Texts are
ordered by code point. Two dictionaries with the same lookups are equal.
-/
namespace ComposeHarness

/-- A map from texts, as entries with strictly ascending keys. -/
structure Dict (α : Type) where
  entries : List (String × α)
  sorted : entries.Pairwise (fun a b => a.1 < b.1)
  deriving Repr

namespace Dict

variable {α β : Type}

def empty : Dict α := ⟨[], .nil⟩

instance : Inhabited (Dict α) := ⟨empty⟩
instance : EmptyCollection (Dict α) := ⟨empty⟩

instance [DecidableEq α] : DecidableEq (Dict α) := fun a b =>
  match a, b with
  | ⟨xs, _⟩, ⟨ys, _⟩ =>
    if h : xs = ys then .isTrue (by subst h; rfl) else .isFalse (fun e => h (congrArg entries e))

def keys (d : Dict α) : List String := d.entries.map (·.1)

def find (k : String) : List (String × α) → Option α
  | [] => none
  | (l, v) :: rest => if l = k then some v else find k rest

def get? (d : Dict α) (k : String) : Option α := find k d.entries

/-- Puts an entry at its place, or in the place of the one with its key. -/
def put (k : String) (v : α) : List (String × α) → List (String × α)
  | [] => [(k, v)]
  | (l, w) :: rest =>
    if k < l then (k, v) :: (l, w) :: rest
    else if k = l then (k, v) :: rest
    else (l, w) :: put k v rest

theorem mem_put {k : String} {v : α} {xs : List (String × α)} {e : String × α}
    (h : e ∈ put k v xs) : e = (k, v) ∨ e ∈ xs := by
  induction xs with
  | nil => simpa [put] using h
  | cons x rest ih =>
    obtain ⟨l, w⟩ := x
    unfold put at h
    split at h
    · simpa using h
    · split at h
      · rcases List.mem_cons.1 h with h | h
        · exact .inl h
        · exact .inr (List.mem_cons_of_mem _ h)
      · rcases List.mem_cons.1 h with h | h
        · exact .inr (h ▸ List.mem_cons_self)
        · exact (ih h).imp id (List.mem_cons_of_mem _)

theorem lt_of_not_lt_of_ne {k l : String} (h : ¬k < l) (hne : k ≠ l) : l < k := by
  rcases Decidable.em (l < k) with hlt | hlt
  · exact hlt
  · exact absurd (String.le_antisymm (String.not_lt.1 hlt) (String.not_lt.1 h)) hne

theorem sorted_put {k : String} {v : α} {xs : List (String × α)}
    (h : xs.Pairwise (fun a b => a.1 < b.1)) :
    (put k v xs).Pairwise (fun a b => a.1 < b.1) := by
  induction xs with
  | nil => simp [put]
  | cons x rest ih =>
    obtain ⟨l, w⟩ := x
    obtain ⟨hl, hrest⟩ := List.pairwise_cons.1 h
    unfold put
    split
    · next hk =>
      refine List.pairwise_cons.2 ⟨fun e he => ?_, h⟩
      rcases List.mem_cons.1 he with he | he
      · exact he ▸ hk
      · exact String.lt_trans hk (hl e he)
    · next hk =>
      split
      · next heq => exact List.pairwise_cons.2 ⟨fun e he => heq ▸ hl e he, hrest⟩
      · next hne =>
        refine List.pairwise_cons.2 ⟨fun e he => ?_, ih hrest⟩
        rcases mem_put he with he | he
        · exact he ▸ lt_of_not_lt_of_ne hk hne
        · exact hl e he

def insert (d : Dict α) (k : String) (v : α) : Dict α := ⟨put k v d.entries, sorted_put d.sorted⟩

/-- The dictionary of some entries; of two with one key the later counts. -/
def ofList (xs : List (String × α)) : Dict α := xs.foldl (fun d e => d.insert e.1 e.2) empty

/-- Adds all entries of the second dictionary, which win over those of the first. -/
def override (d e : Dict α) : Dict α := e.entries.foldl (fun d x => d.insert x.1 x.2) d

theorem find_put (k : String) (v : α) (xs : List (String × α)) (j : String) :
    find j (put k v xs) = if j = k then some v else find j xs := by
  induction xs with
  | nil => simp [put, find, @eq_comm _ k]
  | cons x rest ih =>
    obtain ⟨l, w⟩ := x
    unfold put
    split
    · by_cases h : j = k
      · simp [find, h]
      · simp [find, h, Ne.symm h]
    · split
      · next heq =>
        by_cases h : j = k
        · simp [find, h]
        · have : ¬l = j := fun e => h (heq ▸ e.symm)
          simp [find, h, Ne.symm h, this]
      · next hne =>
        by_cases h : l = j
        · have : ¬j = k := fun e => hne (h.trans e).symm
          simp [find, h, this]
        · simp [find, h, ih]

@[simp] theorem get?_insert (d : Dict α) (k : String) (v : α) (j : String) :
    (d.insert k v).get? j = if j = k then some v else d.get? j :=
  find_put k v d.entries j

@[simp] theorem get?_empty (k : String) : (empty : Dict α).get? k = none := rfl

theorem find_eq_none_of_lt {k : String} {xs : List (String × α)} (h : ∀ e ∈ xs, k < e.1) :
    find k xs = none := by
  induction xs with
  | nil => rfl
  | cons x rest ih =>
    have hx := h x List.mem_cons_self
    have : ¬x.1 = k := fun e => String.lt_irrefl k (e ▸ hx)
    simp [find, this, ih (fun e he => h e (List.mem_cons_of_mem _ he))]

theorem find_eq_some_iff {xs : List (String × α)} (h : xs.Pairwise (fun a b => a.1 < b.1))
    {k : String} {v : α} : find k xs = some v ↔ (k, v) ∈ xs := by
  induction xs with
  | nil => simp [find]
  | cons x rest ih =>
    obtain ⟨l, w⟩ := x
    obtain ⟨hl, hrest⟩ := List.pairwise_cons.1 h
    by_cases hk : l = k
    · subst hk
      have : (l, v) ∉ rest := fun hm => String.lt_irrefl l (hl _ hm)
      simp [find, this, eq_comm]
    · simp [find, hk, ih hrest, Ne.symm hk]

/-- An entry is in the dictionary exactly if it is found under its key. -/
theorem get?_eq_some_iff (d : Dict α) {k : String} {v : α} :
    d.get? k = some v ↔ (k, v) ∈ d.entries :=
  find_eq_some_iff d.sorted

theorem eq_of_find_eq {xs ys : List (String × α)} (hx : xs.Pairwise (fun a b => a.1 < b.1))
    (hy : ys.Pairwise (fun a b => a.1 < b.1)) (h : ∀ k, find k xs = find k ys) : xs = ys := by
  induction xs generalizing ys with
  | nil =>
    cases ys with
    | nil => rfl
    | cons y ys => simpa [find] using h y.1
  | cons x xs ih =>
    cases ys with
    | nil => simpa [find] using h x.1
    | cons y ys =>
      obtain ⟨hxl, hxr⟩ := List.pairwise_cons.1 hx
      obtain ⟨hyl, hyr⟩ := List.pairwise_cons.1 hy
      have hkey : x.1 = y.1 := by
        rcases Decidable.em (x.1 < y.1) with hlt | hnlt
        · have := h x.1
          rw [@find_eq_none_of_lt _ _ (y :: ys)] at this
          · simp [find] at this
          · intro e he
            rcases List.mem_cons.1 he with he | he
            · exact he ▸ hlt
            · exact String.lt_trans hlt (hyl e he)
        · rcases Decidable.em (x.1 = y.1) with he | hne
          · exact he
          · have hlt := lt_of_not_lt_of_ne hnlt hne
            have := h y.1
            rw [@find_eq_none_of_lt _ _ (x :: xs)] at this
            · simp [find] at this
            · intro e he
              rcases List.mem_cons.1 he with he | he
              · exact he ▸ hlt
              · exact String.lt_trans hlt (hxl e he)
      have hval : x.2 = y.2 := by
        have := h x.1
        simp only [find, ← hkey, if_true] at this
        exact Option.some.inj this
      have hxy : x = y := Prod.ext hkey hval
      subst hxy
      refine congrArg _ (ih hxr hyr fun k => ?_)
      have := h k
      by_cases hk : x.1 = k
      · rw [find_eq_none_of_lt (fun e he => hk ▸ hxl e he),
          find_eq_none_of_lt (fun e he => hk ▸ hyl e he)]
      · simpa [find, hk] using this

/-- Dictionaries are equal if every key finds the same in both. -/
@[ext] theorem ext_get? {d e : Dict α} (h : ∀ k, d.get? k = e.get? k) : d = e := by
  obtain ⟨xs, hx⟩ := d
  obtain ⟨ys, hy⟩ := e
  have : xs = ys := eq_of_find_eq hx hy h
  subst this
  rfl

/-- Changes every value and keeps the keys. -/
def mapValues (f : String → α → β) (d : Dict α) : Dict β :=
  ⟨d.entries.map (fun e => (e.1, f e.1 e.2)), by
    rw [List.pairwise_map]; exact d.sorted⟩

/-- Changes every value, unless one of the changes fails; the first failure in the order of keys
is the failure of all. -/
def mapValuesM {ε : Type} (f : String → α → Except ε β) (d : Dict α) : Except ε (Dict β) :=
  (d.entries.mapM (fun e => (f e.1 e.2).map fun v => (e.1, v))).map ofList

end Dict
end ComposeHarness
