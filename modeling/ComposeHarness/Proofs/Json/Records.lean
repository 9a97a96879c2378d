import ComposeHarness.Json.Value
import ComposeHarness.Proofs.Data.Fields

/-!
# Records in JSON

An object can be read as a record if its members have names and no field has two of them; an array, if
it is no longer than the record. What a field holds is then the value of its one member, or the value
at its position.
-/
namespace ComposeHarness.Json

open Data (Record Source Key)

/-- The number of the field that a member with the key is for. -/
def fieldOf (fields : List (List String)) (key : Text) : Option Nat :=
  key.bind fun name => Source.fieldIndex fields (.name name)

@[simp] theorem fieldOf_nil (key : Text) : fieldOf [] key = none := by
  cases key <;> rfl

/-- The members are those of a record with the fields: each has a name, and no two of them are for
one field. -/
structure Fit (fields : List (List String)) (members : List (Text × Value)) : Prop where
  named : ∀ m ∈ members, m.1.isSome
  once : (members.filterMap fun m => fieldOf fields m.1).Nodup

namespace Value

/-- The value can be read as a record with the fields. -/
def IsRecord (fields : List (List String)) : Value → Prop
  | .object members => Fit fields members
  | .array items => items.length ≤ fields.length
  | _ => False

/-- The record holds the second value for the field with a number. -/
def HoldsAt (fields : List (List String)) (i : Nat) : Value → Value → Prop
  | .object members, x => ∃ m ∈ members, fieldOf fields m.1 = some i ∧ m.2 = x
  | .array items, x => i < fields.length ∧ items[i]? = some x
  | _, _ => False

/-- What a record holds for the field, if anything. -/
def held (fields : List (List String)) (i : Nat) : Value → Option Value
  | .object members => (members.find? fun m => fieldOf fields m.1 = some i).map (·.2)
  | .array items => if i < fields.length then items[i]? else none
  | _ => none

/-- The object with a member for every field, under the first name of the field. -/
def normalRecord (fields : List (List String)) (v : Value) : Value :=
  .object (fields.zipIdx.map fun e => (e.1.head?, (v.held fields e.2).getD .null))

/-- What a record holds for the field stands for the result. -/
def Required {α : Type} (fields : List (List String)) (i : Nat) (Reads : Value → α → Prop)
    (v : Value) (a : α) : Prop :=
  ∃ x, v.HoldsAt fields i x ∧ Reads x a

/-- As above, but the record may hold null or nothing for the field. -/
def Nullable {α : Type} (fields : List (List String)) (i : Nat) (Reads : Value → α → Prop)
    (v : Value) : Option α → Prop
  | none => ∀ x, v.HoldsAt fields i x → x = .null
  | some a => ∃ x, v.HoldsAt fields i x ∧ x ≠ .null ∧ Reads x a

end Value

section
variable {fields : List (List String)} {members members' : List (Text × Value)} {key : Text}
  {v : Value}

theorem fit_cons_iff : Fit fields ((key, v) :: members) ↔
    key.isSome ∧ (∀ i, fieldOf fields key = some i → ∀ m ∈ members, fieldOf fields m.1 ≠ some i) ∧
      Fit fields members := by
  have hfit : ∀ ms, Fit fields ms ↔
      (∀ m ∈ ms, m.1.isSome) ∧ (ms.filterMap fun m => fieldOf fields m.1).Nodup :=
    fun ms => ⟨fun h => ⟨h.named, h.once⟩, fun h => ⟨h.1, h.2⟩⟩
  simp only [hfit, List.forall_mem_cons, List.filterMap_cons]
  cases fieldOf fields key with
  | none => simp [and_assoc]
  | some i =>
    simp only [List.nodup_cons, List.mem_filterMap, Option.some.injEq, forall_eq']
    push Not
    tauto

theorem Fit.perm (h : Fit fields members) (hperm : members.Perm members') : Fit fields members' where
  named m hm := h.named m (hperm.mem_iff.2 hm)
  once := (hperm.filterMap _).nodup_iff.1 h.once

theorem Value.holdsAt_cons_iff {i : Nat} {x : Value} :
    (Value.object ((key, v) :: members)).HoldsAt fields i x ↔
      fieldOf fields key = some i ∧ v = x ∨ (Value.object members).HoldsAt fields i x := by
  simp only [HoldsAt, List.exists_mem_cons_iff]

theorem Value.holdsAt_perm (hperm : members.Perm members') {i : Nat} {x : Value} :
    (Value.object members).HoldsAt fields i x ↔ (Value.object members').HoldsAt fields i x := by
  simp only [HoldsAt, hperm.mem_iff]

/-- A record holds one value for a field. -/
theorem Value.held_eq_some_iff (h : v.IsRecord fields) {i : Nat} {x : Value} :
    v.held fields i = some x ↔ v.HoldsAt fields i x := by
  cases v with
  | object members =>
    induction members with
    | nil => simp [held, HoldsAt]
    | cons m members ih =>
      obtain ⟨key, v⟩ := m
      obtain ⟨-, hothers, hfit⟩ := fit_cons_iff.1 h
      rw [holdsAt_cons_iff, ← ih hfit, held, List.find?_cons]
      by_cases hi : fieldOf fields key = some i
      · have hnone : (Value.object members).held fields i = none := by
          rw [held, Option.map_eq_none_iff, List.find?_eq_none]
          intro m hm
          simpa using hothers i hi m hm
        simp [hi, hnone]
      · simp [hi, held]
  | array items => simp [held, HoldsAt]
  | _ => simp [held, HoldsAt]

theorem Value.Required.reads_held {α : Type} {Reads : Value → α → Prop} {i : Nat} {a : α}
    (h : v.Required fields i Reads a) (hrecord : v.IsRecord fields) :
    Reads ((v.held fields i).getD .null) a := by
  obtain ⟨x, hx, ha⟩ := h
  rwa [(held_eq_some_iff hrecord).2 hx]

theorem Value.Nullable.held_eq {α : Type} {f : α → Value} {i : Nat} {a : Option α}
    (h : v.Nullable fields i (fun x b => x = f b) a) (hrecord : v.IsRecord fields) :
    (v.held fields i).getD .null = (a.map f).getD .null := by
  cases a with
  | none =>
    cases hheld : v.held fields i with
    | none => rfl
    | some x => exact h x ((held_eq_some_iff hrecord).1 hheld)
  | some b =>
    obtain ⟨x, hx, -, hb⟩ := h
    rw [(held_eq_some_iff hrecord).2 hx]
    exact hb

end

/-! ### Placing members -/

section
variable {fields : List (List String)} {members : List (Text × Value)} {room : Nat}

/-- The members with their names as keys. -/
def keyed (room : Nat) (members : List (Text × Value)) : List (Key × Cursor) :=
  members.filterMap fun m => m.1.map fun name => (.name name, ⟨room, m.2⟩)

theorem cursorMembers_eq_ok_iff {entries : List (Key × Cursor)} :
    cursorMembers room members = .ok entries ↔
      (∀ m ∈ members, m.1.isSome) ∧ entries = keyed room members := by
  induction members generalizing entries with
  | nil =>
    have hnil : cursorMembers room [] = .ok [] := rfl
    rw [hnil, Except.ok.injEq, eq_comm, and_iff_right (List.forall_mem_nil _)]
    rfl
  | cons m members ih =>
    obtain ⟨key, v⟩ := m
    cases key with
    | none => simp [cursorMembers, readText, bind, Except.bind]
    | some name =>
      have hcons : cursorMembers room ((some name, v) :: members) =
          (cursorMembers room members).map fun rest => (.name name, ⟨room, v⟩) :: rest := by
        rw [cursorMembers, List.mapM_cons]
        change (cursorMembers room members >>= fun rest =>
          .ok ((.name name, ⟨room, v⟩) :: rest)) = _
        cases cursorMembers room members <;> rfl
      have hkeyed : keyed room ((some name, v) :: members) =
          (.name name, ⟨room, v⟩) :: keyed room members := rfl
      rw [hcons, hkeyed, List.forall_mem_cons]
      constructor
      · intro h
        obtain ⟨rest, hrest, rfl⟩ := Sequence.map_eq_ok_iff.1 h
        obtain ⟨hnamed, rfl⟩ := ih.1 hrest
        exact ⟨⟨rfl, hnamed⟩, rfl⟩
      · rintro ⟨⟨-, hnamed⟩, rfl⟩
        exact Sequence.map_eq_ok_iff.2 ⟨_, ih.2 ⟨hnamed, rfl⟩, rfl⟩

theorem filterMap_keyed : ((keyed room members).filterMap fun e => Source.fieldIndex fields e.1) =
    members.filterMap fun m => fieldOf fields m.1 := by
  rw [keyed, List.filterMap_filterMap]
  congr 1
  funext m
  cases m.1 <;> rfl

/-- Fields are placed exactly if their places are free, and all of them different. -/
theorem exists_placeFields_iff {entries : List (Key × Cursor)} {values : List (Option Cursor)} :
    (∃ out, Source.placeFields fields false entries values = .ok out) ↔
      (entries.filterMap fun e => Source.fieldIndex fields e.1).Nodup ∧
        ∀ i ∈ entries.filterMap fun e => Source.fieldIndex fields e.1, values[i]? = some none := by
  induction entries generalizing values with
  | nil => simp [Source.placeFields]
  | cons e entries ih =>
    obtain ⟨key, c⟩ := e
    cases hkey : Source.fieldIndex fields key with
    | none => simpa [Source.placeFields, hkey] using ih
    | some i =>
      simp only [Source.placeFields, hkey, List.filterMap_cons, List.nodup_cons,
        List.forall_mem_cons]
      by_cases hfree : values[i]? = some none
      · have hi : i < values.length := (List.getElem?_eq_some_iff.1 hfree).1
        -- what has been placed is free for no other field
        have hset : ∀ j, (values.set i (some c))[j]? = some none ↔
            j ≠ i ∧ values[j]? = some none := by
          intro j
          by_cases hij : i = j
          · subst hij
            simp [List.getElem?_set_self hi]
          · simp [List.getElem?_set_ne hij, Ne.symm hij]
        simp only [hfree, ih, hset, true_and]
        constructor
        · rintro ⟨hnodup, hplaces⟩
          exact ⟨⟨fun hmem => (hplaces i hmem).1 rfl, hnodup⟩, fun j hj => (hplaces j hj).2⟩
        · rintro ⟨⟨hnot, hnodup⟩, hplaces⟩
          exact ⟨hnodup, fun j hj => ⟨fun h => hnot (h ▸ hj), hplaces j hj⟩⟩
      · split
        · next h => exact absurd h hfree
        · simp [hfree]

/-- Each place has what was there before or what has been placed there. -/
theorem placeFields_getElem? {entries : List (Key × Cursor)} {values out : List (Option Cursor)}
    (h : Source.placeFields fields false entries values = .ok out) (i : Nat) (c : Cursor) :
    out[i]? = some (some c) ↔ values[i]? = some (some c) ∨
      ∃ e ∈ entries, Source.fieldIndex fields e.1 = some i ∧ e.2 = c := by
  induction entries generalizing values with
  | nil =>
    cases h
    simp
  | cons e entries ih =>
    obtain ⟨key, c'⟩ := e
    simp only [Source.placeFields] at h
    split at h
    · next hkey =>
      rw [if_neg Bool.false_ne_true] at h
      simp [ih h, hkey]
    · next j hkey =>
      split at h
      · next hfree =>
        have hj : j < values.length := (List.getElem?_eq_some_iff.1 hfree).1
        rw [ih h, List.exists_mem_cons_iff, hkey, Option.some.injEq]
        by_cases hij : j = i
        · subst hij
          simp [List.getElem?_set_self hj, hfree]
        · simp [List.getElem?_set_ne hij, hij]
      · cases h

/-! ### Reading records -/

theorem readRecord_object :
    source.readRecord fields false ⟨room + 1, .object members⟩ =
      (cursorMembers room members >>= fun entries =>
        (Source.placeFields fields false entries (fields.map fun _ => none)).map fun values =>
          ⟨values, false⟩) := by
  have hrecord : source.record ⟨room + 1, .object members⟩ =
      Data.Shape.named <$> cursorMembers room members := rfl
  rw [Source.readRecord, hrecord]
  cases cursorMembers room members <;> rfl

theorem readRecord_array {items : List Value} :
    source.readRecord fields false ⟨room + 1, .array items⟩ =
      if fields.length < items.length then .error "too many values"
      else .ok ⟨((items.map (Cursor.mk room)).take fields.length).map some ++
        List.replicate (fields.length - items.length) none, true⟩ := by
  have hrecord : source.record ⟨room + 1, .array items⟩ =
      .ok (.positional (items.map (Cursor.mk room))) := rfl
  rw [Source.readRecord, hrecord]
  simp [source]

/-- A record has values inside. -/
theorem exists_room_of_readRecord {v : Value} {r : Record Cursor}
    (h : source.readRecord fields false ⟨room, v⟩ = .ok r) : ∃ inner, room = inner + 1 := by
  cases room with
  | zero => cases v <;> simp [Source.readRecord, source, enter, bind, Except.bind] at h
  | succ inner => exact ⟨inner, rfl⟩

/-- A value is read as a record exactly if it can be. -/
theorem exists_readRecord_iff {v : Value} :
    (∃ r, source.readRecord fields false ⟨room + 1, v⟩ = .ok r) ↔ v.IsRecord fields := by
  cases v with
  | object members =>
    rw [readRecord_object]
    constructor
    · rintro ⟨r, hr⟩
      obtain ⟨entries, hentries, hmap⟩ := Sequence.bind_eq_ok_iff.1 hr
      obtain ⟨hnamed, rfl⟩ := cursorMembers_eq_ok_iff.1 hentries
      obtain ⟨out, hout, -⟩ := Sequence.map_eq_ok_iff.1 hmap
      exact ⟨hnamed, filterMap_keyed ▸ (exists_placeFields_iff.1 ⟨out, hout⟩).1⟩
    · rintro ⟨hnamed, honce⟩
      have hfree : ∀ i ∈ (keyed room members).filterMap fun e => Source.fieldIndex fields e.1,
          (fields.map fun _ => (none : Option Cursor))[i]? = some none := by
        intro i hi
        obtain ⟨e, -, he⟩ := List.mem_filterMap.1 hi
        simp [Source.lt_of_fieldIndex he]
      obtain ⟨out, hout⟩ := exists_placeFields_iff.2 ⟨filterMap_keyed ▸ honce, hfree⟩
      exact ⟨_, Sequence.bind_eq_ok_iff.2 ⟨_, cursorMembers_eq_ok_iff.2 ⟨hnamed, rfl⟩,
        Sequence.map_eq_ok_iff.2 ⟨out, hout, rfl⟩⟩⟩
  | array items =>
    rw [readRecord_array]
    by_cases hlong : fields.length < items.length
    · simp [hlong, Value.IsRecord]
    · simp [hlong, Value.IsRecord, Nat.not_lt.1 hlong]
  | null | bool | number | text => simp [Source.readRecord, source, Value.IsRecord]

/-- What a record holds is what its value holds. -/
theorem value?_of_readRecord {v : Value} {r : Record Cursor}
    (h : source.readRecord fields false ⟨room + 1, v⟩ = .ok r) (i : Nat) (c : Cursor) :
    r.value? i = some c ↔ ∃ x, v.HoldsAt fields i x ∧ c = ⟨room, x⟩ := by
  cases v with
  | object members =>
    rw [readRecord_object] at h
    obtain ⟨entries, hentries, hmap⟩ := Sequence.bind_eq_ok_iff.1 h
    obtain ⟨hnamed, rfl⟩ := cursorMembers_eq_ok_iff.1 hentries
    obtain ⟨out, hout, rfl⟩ := Sequence.map_eq_ok_iff.1 hmap
    have hfree : (fields.map fun _ => (none : Option Cursor))[i]? ≠ some (some c) := by
      rw [List.getElem?_map]
      cases fields[i]? <;> simp
    rw [Record.value?, Option.join_eq_some_iff, placeFields_getElem? hout, or_iff_right hfree]
    constructor
    · rintro ⟨e, he, hindex, rfl⟩
      obtain ⟨m, hm, hkey⟩ := List.mem_filterMap.1 he
      obtain ⟨name, hname, rfl⟩ := Option.map_eq_some_iff.1 hkey
      exact ⟨m.2, ⟨m, hm, by rwa [fieldOf, hname], rfl⟩, rfl⟩
    · rintro ⟨x, ⟨m, hm, hindex, rfl⟩, rfl⟩
      obtain ⟨name, hname, hindex⟩ := Option.bind_eq_some_iff.1 hindex
      exact ⟨_, List.mem_filterMap.2 ⟨m, hm, by rw [hname]; rfl⟩, hindex, rfl⟩
  | array items =>
    rw [readRecord_array] at h
    split at h
    · cases h
    · next hlong =>
      cases h
      have hshort := Nat.not_lt.1 hlong
      rw [Record.value?, List.take_of_length_le (by simpa using hshort)]
      by_cases hi : i < items.length
      · rw [List.getElem?_append_left (by simpa using hi)]
        simp [Value.HoldsAt, hi, Nat.lt_of_lt_of_le hi hshort, eq_comm]
      · rw [List.getElem?_append_right (by simpa using hi), List.getElem?_replicate,
          apply_ite Option.join]
        simp [Value.HoldsAt, hi]
  | null | bool | number | text => simp [Source.readRecord, source] at h

/-! ### Reading fields -/

variable {α : Type} {read : Cursor → Except String α} {Reads : Value → α → Prop} {v : Value}
  {r : Record Cursor}

theorem required_eq_ok_iff (h : source.readRecord fields false ⟨room + 1, v⟩ = .ok r)
    (hread : ∀ x a, read ⟨room, x⟩ = .ok a ↔ Reads x a) {i : Nat} {a : α} :
    r.required read i = .ok a ↔ v.Required fields i Reads a := by
  rw [Record.required_eq_ok_iff]
  constructor
  · rintro ⟨c, hc, ha⟩
    obtain ⟨x, hx, rfl⟩ := (value?_of_readRecord h i c).1 hc
    exact ⟨x, hx, (hread x a).1 ha⟩
  · rintro ⟨x, hx, ha⟩
    exact ⟨_, (value?_of_readRecord h i _).2 ⟨x, hx, rfl⟩, (hread x a).2 ha⟩

theorem nullable_eq_ok_iff (h : source.readRecord fields false ⟨room + 1, v⟩ = .ok r)
    (hread : ∀ x a, read ⟨room, x⟩ = .ok a ↔ Reads x a) {i : Nat} {a : Option α} :
    r.withDefault (source.readOption read) none i = .ok a ↔ v.Nullable fields i Reads a := by
  have hvalue := value?_of_readRecord h i
  rw [Record.withDefault]
  cases hc : r.value? i with
  | none =>
    have hnothing : ∀ x, ¬v.HoldsAt fields i x := by
      intro x hx
      simpa [hc] using (hvalue ⟨room, x⟩).2 ⟨x, hx, rfl⟩
    cases a <;> simp [Value.Nullable, hnothing]
  | some c =>
    obtain ⟨x, hx, rfl⟩ := (hvalue c).1 hc
    -- a record holds one value for a field
    have honly : ∀ y, v.HoldsAt fields i y ↔ y = x := by
      intro y
      refine ⟨fun hy => ?_, fun hy => hy ▸ hx⟩
      have hy' := (hvalue ⟨room, y⟩).2 ⟨y, hy, rfl⟩
      rw [hc, Option.some.injEq, Cursor.mk.injEq] at hy'
      exact hy'.2.symm
    by_cases hnull : x = .null
    · subst hnull
      have hread : source.readOption read ⟨room, .null⟩ = .ok none := rfl
      cases a <;> simp [hread, Value.Nullable, honly]
    · have hread' : source.readOption read ⟨room, x⟩ = some <$> read ⟨room, x⟩ := by
        cases x with
        | null => exact absurd rfl hnull
        | _ => rfl
      cases a <;> simp [hread', Sequence.map_eq_ok_iff, hread, Value.Nullable, honly, hnull]

end

end ComposeHarness.Json
