import ComposeHarness.Proofs.Sequence
import ComposeHarness.Yaml.Source

/-!
# Fields of records

What a record that could be read looked like: which keys it had, where the value of a field was
found, and that the keys that name no field made no difference.
-/
namespace ComposeHarness
namespace Data

variable {ν α : Type}

theorem Record.required_eq_ok_iff {r : Record ν} {read : ν → Except String α} {i : Nat} {a : α} :
    r.required read i = .ok a ↔ ∃ v, r.value? i = some v ∧ read v = .ok a := by
  unfold Record.required
  cases r.value? i <;> simp

namespace Source

/-- The key is that of a field. -/
def knows (fields : List (List String)) (key : Key) : Bool := (fieldIndex fields key).isSome

end Source

/-- Each key is that of a field, and no field has two of them. -/
structure Exact (fields : List (List String)) (keys : List Key) : Prop where
  known : ∀ key ∈ keys, Source.knows fields key
  once : (keys.map (Source.fieldIndex fields)).Nodup

namespace Shape

/-- The keys that are written. -/
def keys : Shape ν → List Key
  | .named entries => entries.map (·.1)
  | .positional _ => []

/-- The value at the first key of a field, or at its position. -/
def member? (fields : List (List String)) (name : String) : Shape ν → Option ν
  | .named entries =>
    let index := Source.fieldIndex fields (.name name)
    (entries.find? fun e => Source.fieldIndex fields e.1 == index).map (·.2)
  | .positional values => (Source.fieldIndex fields (.name name)).bind fun i => values[i]?

end Shape

namespace Source

theorem lt_of_fieldIndex {fields : List (List String)} {key : Key} {i : Nat}
    (h : fieldIndex fields key = some i) : i < fields.length := by
  cases key with
  | name s => exact (List.findIdx?_eq_some_iff_findIdx_eq.1 h).1
  | index n =>
    simp only [fieldIndex, Option.ite_none_right_eq_some, Option.some.injEq] at h
    exact h.2 ▸ h.1

/-! ### Placing fields -/

section
variable {fields : List (List String)} {entries : List (Key × ν)} {values out : List (Option ν)}

/-- Passing over keys without a field is having only the others. -/
theorem placeFields_false : placeFields fields false entries values =
    placeFields fields true (entries.filter fun e => knows fields e.1) values := by
  induction entries generalizing values with
  | nil => rfl
  | cons e entries ih =>
    obtain ⟨key, v⟩ := e
    cases hkey : fieldIndex fields key with
    | none => simp [placeFields, knows, hkey, ih]
    | some i => simp [placeFields, knows, hkey, ih]

theorem placeFields_true_cons_eq_ok {key : Key} {v : ν}
    (h : placeFields fields true ((key, v) :: entries) values = .ok out) :
    ∃ i, fieldIndex fields key = some i ∧ values[i]? = some none ∧
      placeFields fields true entries (values.set i (some v)) = .ok out := by
  simp only [placeFields] at h
  split at h
  · cases h
  · next i hi =>
    split at h
    · next hfree => exact ⟨i, hi, hfree, h⟩
    · cases h

/-- The fields of a strict record had free places, all of them different, and their values are at
these places. -/
theorem placeFields_true_eq_ok (h : placeFields fields true entries values = .ok out) :
    (∀ e ∈ entries, ∃ i, fieldIndex fields e.1 = some i ∧ values[i]? = some none) ∧
      (entries.map fun e => fieldIndex fields e.1).Nodup ∧
      ∀ i, (out[i]?).join =
        ((entries.find? fun e => fieldIndex fields e.1 == some i).map (·.2)).or
          (values[i]?).join := by
  induction entries generalizing values with
  | nil =>
    cases h
    simp
  | cons e entries ih =>
    obtain ⟨j, hkey, hfree, hrest⟩ := placeFields_true_cons_eq_ok h
    obtain ⟨hplaces, hnodup, hout⟩ := ih hrest
    have hj : j < values.length := (List.getElem?_eq_some_iff.1 hfree).1
    -- the place that has just been taken is not free for any other field
    have hothers : ∀ e ∈ entries, ∃ i, fieldIndex fields e.1 = some i ∧ i ≠ j ∧
        values[i]? = some none := by
      intro e he
      obtain ⟨i, hi, hnone⟩ := hplaces e he
      have hne : i ≠ j := by
        rintro rfl
        rw [List.getElem?_set_self hj] at hnone
        cases hnone
      rw [List.getElem?_set_ne hne.symm] at hnone
      exact ⟨i, hi, hne, hnone⟩
    refine ⟨?_, ?_, fun i => ?_⟩
    · rw [List.forall_mem_cons]
      refine ⟨⟨j, hkey, hfree⟩, fun e he => ?_⟩
      obtain ⟨i, hi, -, hnone⟩ := hothers e he
      exact ⟨i, hi, hnone⟩
    · rw [List.map_cons, List.nodup_cons]
      refine ⟨fun hmem => ?_, hnodup⟩
      obtain ⟨e, he, heq⟩ := List.mem_map.1 hmem
      obtain ⟨i, hi, hne, -⟩ := hothers e he
      rw [hi, hkey] at heq
      exact hne (Option.some.inj heq)
    · rw [hout, List.find?_cons, hkey]
      by_cases hij : j = i
      · subst hij
        have hnone : entries.find? (fun e => fieldIndex fields e.1 == some j) = none := by
          rw [List.find?_eq_none]
          intro e he heq
          obtain ⟨k, hk, hne, -⟩ := hothers e he
          rw [hk, beq_iff_eq, Option.some.injEq] at heq
          exact hne heq
        simp [hnone, List.getElem?_set_self hj]
      · have hfalse : (some j == some i) = false := by simp [hij]
        simp only [hfalse, List.getElem?_set_ne hij]

theorem placeFields_eq_ok {strict : Bool} (h : placeFields fields strict entries values = .ok out) :
    placeFields fields true (entries.filter fun e => knows fields e.1) values = .ok out ∧
      (strict → ∀ e ∈ entries, knows fields e.1) := by
  cases strict with
  | false => exact ⟨placeFields_false ▸ h, nofun⟩
  | true =>
    obtain ⟨hplaces, -⟩ := placeFields_true_eq_ok h
    have hknown : ∀ e ∈ entries, knows fields e.1 := by
      intro e he
      obtain ⟨i, hi, -⟩ := hplaces e he
      rw [knows, hi]
      rfl
    exact ⟨by rwa [List.filter_eq_self.2 hknown], fun _ => hknown⟩

end

/-! ### Reading records -/

section
variable {src : Source ν} {fields : List (List String)} {strict : Bool} {v : ν} {r : Record ν}

/-- A record that could be read had its fields once each, a strict one had no other keys, and the
values are those at the keys or positions of the fields. -/
theorem readRecord_eq_ok (h : src.readRecord fields strict v = .ok r) :
    ∃ shape, src.record v = .ok shape ∧
      Exact fields (shape.keys.filter (knows fields)) ∧
      (strict → ∀ key ∈ shape.keys, knows fields key) ∧
      ∀ name i, fieldIndex fields (.name name) = some i →
        r.value? i = shape.member? fields name := by
  unfold readRecord at h
  split at h
  · cases h
  · next entries hrecord =>
    obtain ⟨out, hplace, rfl⟩ := Sequence.map_eq_ok_iff.1 h
    obtain ⟨hkept, hstrict⟩ := placeFields_eq_ok hplace
    obtain ⟨-, hnodup, hout⟩ := placeFields_true_eq_ok hkept
    have hkeys : (Shape.named entries).keys.filter (knows fields) =
        (entries.filter fun e => knows fields e.1).map (·.1) := by
      rw [Shape.keys, List.filter_map]
      rfl
    refine ⟨.named entries, hrecord, ⟨?_, ?_⟩, ?_, fun name i hi => ?_⟩
    · intro key hkey
      exact (List.mem_filter.1 hkey).2
    · rw [hkeys, List.map_map]
      exact hnodup
    · simpa only [Shape.keys, List.forall_mem_map] using hstrict
    · have hfree : ((fields.map fun _ => (none : Option ν))[i]?).join = none := by
        rw [List.getElem?_map]
        cases fields[i]? <;> rfl
      rw [Record.value?, hout, hfree, Option.or_none, Shape.member?, hi, List.find?_filter]
      congr 2
      funext e
      cases hindex : fieldIndex fields e.1 <;> simp [knows, hindex, Bool.beq_eq_decide_eq]
  · next values hrecord =>
    split at h
    · cases h
    · cases h
      refine ⟨.positional values, hrecord, ⟨nofun, .nil⟩, fun _ => nofun, fun name i hi => ?_⟩
      have hlt : i < fields.length := lt_of_fieldIndex hi
      rw [Shape.member?, hi, Option.bind_some, Record.value?]
      by_cases hvalues : i < values.length
      · rw [List.getElem?_append_left (by simp; omega)]
        simp [hlt, hvalues]
      · rw [List.getElem?_append_right (by simp; omega), List.getElem?_replicate,
          List.getElem?_eq_none (Nat.not_lt.1 hvalues)]
        split <;> rfl

theorem exact_of_readRecord (h : src.readRecord fields true v = .ok r) :
    ∃ shape, src.record v = .ok shape ∧ Exact fields shape.keys ∧
      ∀ name i, fieldIndex fields (.name name) = some i →
        r.value? i = shape.member? fields name := by
  obtain ⟨shape, hrecord, hexact, hknown, hvalue⟩ := readRecord_eq_ok h
  rw [List.filter_eq_self.2 (hknown rfl)] at hexact
  exact ⟨shape, hrecord, hexact, hvalue⟩

end

/-! ### Members of records -/

section
variable (src : Source ν) (fields : List (List String)) (v : ν) (name : String)

/-- The keys of a record. -/
def keys : List Key :=
  match src.record v with
  | .ok shape => shape.keys
  | .error _ => []

/-- The value of a field of a record. -/
def member? : Option ν :=
  match src.record v with
  | .ok shape => shape.member? fields name
  | .error _ => none

/-- What is in the list that a field of a record holds. -/
def items : List ν :=
  match src.member? fields v name with
  | some list => (src.list list).toOption.getD []
  | none => []

end

section
variable {src : Source ν} {v : ν} {shape : Shape ν}

theorem keys_eq (h : src.record v = .ok shape) : src.keys v = shape.keys := by
  rw [keys, h]

theorem member?_eq (h : src.record v = .ok shape) {fields : List (List String)} {name : String} :
    src.member? fields v name = shape.member? fields name := by
  rw [member?, h]

end

section
variable {src : Source ν} {fields : List (List String)} {v : ν} {r : Record ν} {name : String}
  {i : Nat} {read : ν → Except String α}

theorem items_of_readList {list : ν} {xs : List α} (hmember : src.member? fields v name = some list)
    (h : src.readList read list = .ok xs) :
    List.Forall₂ (fun w x => read w = .ok x) (src.items fields v name) xs := by
  obtain ⟨values, hvalues, hread⟩ := Sequence.bind_eq_ok_iff.1 h
  simp only [items, hmember, hvalues]
  exact Sequence.mapM_eq_ok_iff.1 hread

/-- A list that must be there was read from what is in it. -/
theorem items_of_required (hvalue : r.value? i = src.member? fields v name) {xs : List α}
    (h : r.required (src.readList read) i = .ok xs) :
    List.Forall₂ (fun w x => read w = .ok x) (src.items fields v name) xs := by
  obtain ⟨list, hlist, hread⟩ := Record.required_eq_ok_iff.1 h
  exact items_of_readList (hvalue.symm.trans hlist) hread

/-- A list that may be left out was read from what is in it. -/
theorem items_of_withDefault (hvalue : r.value? i = src.member? fields v name) {xs : List α}
    (h : r.withDefault (src.readList read) [] i = .ok xs) :
    List.Forall₂ (fun w x => read w = .ok x) (src.items fields v name) xs := by
  unfold Record.withDefault at h
  split at h
  · next list hlist => exact items_of_readList (hvalue.symm.trans hlist) h
  · next hnone =>
    cases h
    rw [Source.items, ← hvalue, hnone]
    exact .nil

end

/-- A variant is found under its name. -/
theorem variantIndex_name_eq_some {names : List String} {name : String} {i : Nat}
    (h : variantIndex names (.name name) = some i) : names[i]? = some name := by
  obtain ⟨hi, hname, -⟩ := List.findIdx?_eq_some_iff_getElem.1 h
  rw [List.getElem?_eq_getElem hi, beq_iff_eq.1 hname]

/-- The choice that is made by a name has that name. -/
theorem choice_name {α : Type} {choices : List (String × α)} {name name' : String} {a : α}
    (h : (variantIndex (choices.map (·.1)) (.name name)).bind (fun i => choices[i]?) =
      some (name', a)) : name' = name ∧ (name, a) ∈ choices := by
  obtain ⟨i, hi, ha⟩ := Option.bind_eq_some_iff.1 h
  have hname := variantIndex_name_eq_some hi
  rw [List.getElem?_map, ha] at hname
  cases hname
  exact ⟨rfl, List.mem_of_getElem? ha⟩

/-- A choice with a text is read from a variant of that choice and its text. -/
theorem readTextVariant_eq_ok_iff {src : Source ν} {choices : List (String × (String → α))} {v : ν}
    {a : α} : src.readTextVariant choices v = .ok a ↔
      ∃ key w name make s, src.variant v = .ok (key, some w) ∧
        (variantIndex (choices.map (·.1)) key).bind (fun i => choices[i]?) = some (name, make) ∧
        src.text w = .ok s ∧ make s = a := by
  rw [readTextVariant, Sequence.bind_eq_ok_iff]
  constructor
  · rintro ⟨⟨key, payload⟩, hvariant, h⟩
    cases payload with
    | none => cases h
    | some w =>
      simp only at h
      split at h
      · next name make hchoice =>
        obtain ⟨s, hs, rfl⟩ := Sequence.map_eq_ok_iff.1 h
        exact ⟨key, w, name, make, s, hvariant, hchoice, hs, rfl⟩
      · cases h
  · rintro ⟨key, w, name, make, s, hvariant, hchoice, hs, rfl⟩
    refine ⟨(key, some w), hvariant, ?_⟩
    simp only [hchoice, hs]
    rfl

end Source

namespace Content

/-! ### What content answers -/

theorem text_eq_ok_iff {c : Content} {s : String} : source.text c = .ok s ↔ c = .text s := by
  cases c <;> simp [source]

theorem entries_eq_ok_iff {c : Content} {entries : List (Content × Content)} :
    source.entries c = .ok entries ↔ c = .map entries := by
  cases c <;> simp [source]

theorem variant_eq_ok_iff {c w : Content} {key : Key} :
    source.variant c = .ok (key, some w) ↔ ∃ k, c = .map [(k, w)] ∧ k.key = .ok key := by
  constructor
  · intro h
    simp only [source] at h
    split at h
    · cases h
    · next k v =>
      obtain ⟨key', hkey, heq⟩ := Sequence.map_eq_ok_iff.1 h
      cases heq
      exact ⟨k, rfl, hkey⟩
    · cases h
  · rintro ⟨k, rfl, hkey⟩
    simp only [source, hkey]
    rfl

theorem record_named_eq_ok_iff {c : Content} {named : List (Key × Content)} :
    source.record c = .ok (.named named) ↔
      ∃ entries, c = .map entries ∧ namedFields entries = .ok named := by
  constructor
  · intro h
    cases c with
    | map entries =>
      obtain ⟨_, hnamed, heq⟩ := Sequence.map_eq_ok_iff.1 h
      cases heq
      exact ⟨entries, rfl, hnamed⟩
    | _ => cases h
  · rintro ⟨entries, rfl, hnamed⟩
    exact Sequence.map_eq_ok_iff.2 ⟨named, hnamed, rfl⟩

/-! ### Content without the members that are passed over -/

/-- The key is that of a field. -/
def isUsed (fields : List (List String)) (c : Content) : Bool :=
  match c.key with
  | .ok key => Source.knows fields key
  | .error _ => false

/-- The content with the members that are fields, and no others. -/
def used (fields : List (List String)) : Content → Content
  | .map entries => .map (entries.filter fun e => e.1.isUsed fields)
  | c => c

theorem namedFields_cons_eq_ok {k v : Content} {entries : List (Content × Content)}
    {named : List (Key × Content)} (h : namedFields ((k, v) :: entries) = .ok named) :
    ∃ key more, k.key = .ok key ∧ namedFields entries = .ok more ∧ named = (key, v) :: more := by
  obtain ⟨key, hkey, h⟩ := Sequence.bind_eq_ok_iff.1 h
  obtain ⟨more, hmore, h⟩ := Sequence.bind_eq_ok_iff.1 h
  cases h
  exact ⟨key, more, hkey, hmore, rfl⟩

theorem namedFields_filter {fields : List (List String)} {entries : List (Content × Content)}
    {named : List (Key × Content)} (h : namedFields entries = .ok named) :
    namedFields (entries.filter fun e => e.1.isUsed fields) =
      .ok (named.filter fun e => Source.knows fields e.1) := by
  induction entries generalizing named with
  | nil =>
    cases h
    rfl
  | cons e entries ih =>
    obtain ⟨key, more, hkey, hmore, rfl⟩ := namedFields_cons_eq_ok h
    have hused : e.1.isUsed fields = Source.knows fields key := by rw [isUsed, hkey]
    cases hknown : Source.knows fields key with
    | false => simpa [List.filter_cons, hused, hknown] using ih hmore
    | true =>
      simp only [List.filter_cons, hused, hknown, if_true, namedFields, hkey, ih hmore]
      rfl

/-- A record is read as if the members that are no fields had not been written. -/
theorem readRecord_used {fields : List (List String)} {c : Content} {shape : Shape Content}
    (h : source.record c = .ok shape) :
    source.readRecord fields false (c.used fields) = source.readRecord fields false c := by
  cases c with
  | map entries =>
    obtain ⟨named, hnamed, rfl⟩ := Sequence.map_eq_ok_iff.1 h
    have hused : source.record (Content.map entries |>.used fields) =
        .ok (.named (named.filter fun e => Source.knows fields e.1)) :=
      Sequence.map_eq_ok_iff.2 ⟨_, namedFields_filter hnamed, rfl⟩
    have hsame : ∀ values, Source.placeFields fields false
        (named.filter fun e => Source.knows fields e.1) values =
          Source.placeFields fields false named values := by
      intro values
      rw [Source.placeFields_false, List.filter_filter, Source.placeFields_false]
      simp only [Bool.and_self]
    simp only [Source.readRecord, hused, h, hsame]
  | _ => rfl

/-- The fields of a record of content, and their values. -/
theorem readRecord_eq_ok {fields : List (List String)} {c : Content} {r : Record Content}
    (h : source.readRecord fields false c = .ok r) :
    Exact fields ((source.keys c).filter (Source.knows fields)) ∧
      ∀ name i, Source.fieldIndex fields (.name name) = some i →
        r.value? i = source.member? fields c name := by
  obtain ⟨shape, hrecord, hexact, -, hvalue⟩ := Source.readRecord_eq_ok h
  refine ⟨?_, fun name i hi => ?_⟩
  · rw [Source.keys_eq hrecord]
    exact hexact
  · rw [Source.member?_eq hrecord]
    exact hvalue name i hi

end Content
end Data

/-- A record of a document is a mapping with the fields and no other keys. -/
theorem Yaml.Document.readRecord_eq_ok {document : Document} {fields : List (List String)}
    {c : Cursor} {r : Data.Record Cursor} (h : document.source.readRecord fields true c = .ok r) :
    (∃ entries, document.record c = .ok (.named entries) ∧
        Data.Exact fields (entries.map (·.1))) ∧
      ∀ name i, Data.Source.fieldIndex fields (.name name) = some i →
        r.value? i = document.source.member? fields c name := by
  obtain ⟨shape, hrecord, hexact, hvalue⟩ := Data.Source.exact_of_readRecord h
  obtain ⟨pairs, -, hshape⟩ := Sequence.bind_eq_ok_iff.1 hrecord
  obtain ⟨entries, -, hshape⟩ := Sequence.bind_eq_ok_iff.1 hshape
  cases hshape
  refine ⟨⟨entries, hrecord, hexact⟩, fun name i hi => ?_⟩
  rw [Data.Source.member?_eq hrecord]
  exact hvalue name i hi

end ComposeHarness
