import ComposeHarness.Json.Value
import ComposeHarness.Proofs.Related
import ComposeHarness.Proofs.Sequence

/-!
# What JSON values answer

Which values answer to a request, and with what.
-/
namespace ComposeHarness.Json

open Data (Source Key)

namespace Value

variable {α : Type}

def IsText (v : Value) (s : String) : Prop := v = .text (some s)

def IsFlag (v : Value) (b : Bool) : Prop := v = .bool b

/-- The items of the array stand for the results, one by one. -/
def IsList (Reads : Value → α → Prop) (v : Value) (results : List α) : Prop :=
  ∃ items, v = .array items ∧ List.Forall₂ Reads items results

/-- An entry of a dictionary as a member of an object. -/
def dictMember (entry : String × String) : Text × Value := (some entry.1, .text (some entry.2))

/-- The members of the object are the entries of the dictionary. -/
def IsDict (v : Value) (dict : Dict String) : Prop :=
  ∃ entries, v = .object (entries.map dictMember) ∧ dict = Dict.ofList entries

end Value

section
variable {α : Type} {room : Nat} {v : Value}

theorem text_eq_ok_iff {s : String} : source.text ⟨room, v⟩ = .ok s ↔ v.IsText s := by
  cases v with
  | text t => cases t <;> simp [source, readText, Value.IsText]
  | _ => simp [source, Value.IsText]

theorem bool_eq_ok_iff {b : Bool} : source.bool ⟨room, v⟩ = .ok b ↔ v.IsFlag b := by
  cases v <;> simp [source, Value.IsFlag]

theorem readList_eq_ok_iff {read : Cursor → Except String α} {Reads : Value → α → Prop}
    (hread : ∀ x a, read ⟨room, x⟩ = .ok a ↔ Reads x a) {results : List α} :
    source.readList read ⟨room + 1, v⟩ = .ok results ↔ v.IsList Reads results := by
  cases v with
  | array items =>
    have hlist : source.list ⟨room + 1, .array items⟩ = .ok (items.map (Cursor.mk room)) := rfl
    simp [Source.readList, Sequence.bind_eq_ok_iff, hlist, Sequence.mapM_eq_ok_iff,
      List.forall₂_map_left_iff, hread, Value.IsList]
  | _ => simp [Source.readList, Sequence.bind_eq_ok_iff, source, Value.IsList]

theorem readDict_eq_ok_iff {labels : Dict String} :
    source.readDict source.text ⟨room + 1, v⟩ = .ok labels ↔ v.IsDict labels := by
  cases v with
  | object members =>
    have hmember : ∀ (m : Text × Value) (e : String × String),
        (do
          let key ← source.text ⟨room, .text m.1⟩
          let value ← source.text ⟨room, m.2⟩
          Except.ok (key, value)) = .ok e ↔ m = Value.dictMember e := by
      intro m e
      simp [Sequence.bind_eq_ok_iff, text_eq_ok_iff, Value.IsText, Value.dictMember, Prod.ext_iff]
    have hread : source.readDict source.text ⟨room + 1, .object members⟩ =
        ((members.map fun m => (⟨room, .text m.1⟩, ⟨room, m.2⟩)).mapM fun e : Cursor × Cursor => do
          let key ← source.text e.1
          let value ← source.text e.2
          Except.ok (key, value)) >>= fun pairs => .ok (Dict.ofList pairs) := rfl
    rw [hread, Sequence.bind_eq_ok_iff]
    constructor
    · rintro ⟨pairs, hpairs, h⟩
      cases h
      rw [Sequence.mapM_eq_ok_iff, List.forall₂_map_left_iff] at hpairs
      refine ⟨pairs, congrArg Value.object ?_, rfl⟩
      have := hpairs.imp fun m e => (hmember m e).1
      rwa [← List.forall₂_eq_eq_eq, List.forall₂_map_right_iff]
    · rintro ⟨pairs, h, rfl⟩
      cases h
      refine ⟨pairs, ?_, rfl⟩
      rw [Sequence.mapM_eq_ok_iff, List.forall₂_map_left_iff, List.forall₂_map_left_iff]
      exact List.forall₂_same.2 fun e _ => (hmember _ e).2 rfl
  | _ => simp [Source.readDict, Sequence.bind_eq_ok_iff, source, Value.IsDict]

/-- A variant is a name, or an object with one member under its name. -/
theorem variant_eq_ok {c : Cursor} {key : Key} {payload : Option Cursor}
    (h : source.variant c = .ok (key, payload)) :
    ∃ name, key = .name name ∧
      (payload = none ∧ c.value = .text (some name) ∨
        ∃ room x, payload = some ⟨room, x⟩ ∧ c.value = .object [(some name, x)]) := by
  simp only [source] at h
  split at h
  · next t ht =>
    obtain ⟨name, hname, heq⟩ := Sequence.map_eq_ok_iff.1 h
    cases heq
    cases t with
    | none => cases hname
    | some s =>
      cases hname
      exact ⟨name, rfl, .inl ⟨rfl, ht⟩⟩
  · next k x hx =>
    obtain ⟨room, -, h⟩ := Sequence.bind_eq_ok_iff.1 h
    obtain ⟨name, hname, heq⟩ := Sequence.bind_eq_ok_iff.1 h
    cases heq
    cases k with
    | none => cases hname
    | some s =>
      cases hname
      exact ⟨name, rfl, .inr ⟨room, x, rfl, hx⟩⟩
  · cases h

/-- Only a text has text for its content. -/
theorem content_eq_text_iff {s : String} : content room v = .ok (.text s) ↔ v.IsText s := by
  cases v with
  | text t => cases t <;> simp [content, readText, Except.map, Value.IsText]
  | number n =>
    cases n with
    | int n => by_cases hn : 0 ≤ n <;> simp [content, hn, Value.IsText]
    | _ => simp [content, Value.IsText]
  | array items =>
    cases room with
    | zero => simp [content, Value.IsText]
    | succ room => cases h : contents room items <;> simp [content, h, Except.map, Value.IsText]
  | object members =>
    cases room with
    | zero => simp [content, Value.IsText]
    | succ room =>
      cases h : contentMembers room members <;> simp [content, h, Except.map, Value.IsText]
  | _ => simp [content, Value.IsText]

end

end ComposeHarness.Json
