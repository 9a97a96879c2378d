import ComposeHarness.Inspection.Decoding
import ComposeHarness.Proofs.Json.Answers
import ComposeHarness.Proofs.Json.Grammar
import ComposeHarness.Proofs.Json.Records

/-!
# What an inspection describes

The output of an inspection describes one object with each value of its array. What is said here of
the members of such a value, of those of its configuration and of a mount is all that counts for the
object: a value is read exactly if it describes an object, and it is read as that object.
-/
namespace ComposeHarness

open Json (Value)

/-- The value is a record whose one field may hold null or nothing. -/
structure Json.Value.IsHolder {α : Type} (field : String) (Reads : Value → α → Prop) (v : Value)
    (a : Option α) : Prop where
  record : v.IsRecord [[field]]
  nullable : v.Nullable [[field]] 0 Reads a

/-! ### Objects -/

/-- The value describes the mount. -/
structure Mount.Described (v : Value) (m : Mount) : Prop where
  record : v.IsRecord fields
  type : v.Required fields 0 Value.IsText m.type
  source : v.Nullable fields 1 Value.IsText m.source
  target : v.Required fields 2 Value.IsText m.target
  readOnly : v.Nullable fields 3 Value.IsFlag m.readOnly

namespace InspectedObject

/-- The name is the object's own without the slashes before it, or else its first tag. -/
inductive Named : (own : Option String) → (tags : Option (List String)) → String → Prop
  | own {own : String} {tags : Option (List String)} {slashes : List Char} {name : String}
      (h : own.toList = slashes ++ name.toList) (hslashes : ∀ c ∈ slashes, c = '/')
      (hname : name.toList.head? ≠ some '/') : Named (some own) tags name
  | tag {tag : String} {tags : List String} : Named none (some (tag :: tags)) tag
  | neither {tags : Option (List String)} (h : tags.getD [] = []) : Named none tags ""

/-- The labels are those of the configuration, or else the object's own. -/
inductive Labelled : (config own : Option (Dict String)) → Dict String → Prop
  | config {labels : Dict String} {own : Option (Dict String)} : Labelled (some labels) own labels
  | own {labels : Dict String} : Labelled none (some labels) labels
  | neither : Labelled none none .empty

/-- The fields of an inspected object that are read. -/
def fields : List (List String) := [["Name"], ["RepoTags"], ["Labels"], ["Config"], ["HostConfig"]]

/-- The value describes the object. -/
inductive Described : Value → InspectedObject → Prop
  | intro {v : Value} {o : InspectedObject} {own : Option String} {tags : Option (List String)}
      {labels : Option (Dict String)} {config : Option (Option (Dict String))}
      {hostConfig : Option (Option (List Mount))}
      (record : v.IsRecord fields)
      (hname : v.Nullable fields 0 Value.IsText own)
      (htags : v.Nullable fields 1 (Value.IsList Value.IsText) tags)
      (hlabels : v.Nullable fields 2 Value.IsDict labels)
      (hconfig : v.Nullable fields 3 (Value.IsHolder "Labels" Value.IsDict) config)
      (hhostConfig : v.Nullable fields 4
        (Value.IsHolder "Mounts" (Value.IsList Mount.Described)) hostConfig)
      (named : Named own tags o.name) (labelled : Labelled config.join labels o.labels)
      (mounted : o.mounts = hostConfig.join.getD []) : Described v o

theorem named_iff {own : Option String} {tags : Option (List String)} {name : String} :
    Named own tags name ↔ pickName own tags = name := by
  constructor
  · rintro (⟨hown, hslashes, hname⟩ | _ | hnone)
    · have hdrop : name.toList.dropWhile (· == '/') = name.toList := by
        cases hcs : name.toList with
        | nil => rfl
        | cons c cs => exact List.dropWhile_cons_of_neg (by simpa [hcs] using hname)
      rw [pickName, hown, List.dropWhile_append_of_pos (by simpa using hslashes), hdrop,
        String.ofList_toList]
    · rfl
    · cases tags with
      | none => rfl
      | some tags =>
        cases hnone
        rfl
  · rintro rfl
    cases own with
    | some own =>
      have hslashes : ∀ c ∈ own.toList.takeWhile (· == '/'), c = '/' := by
        intro c hc
        simpa using List.all_eq_true.1 List.all_takeWhile c hc
      have hname := List.head?_dropWhile_not (· == '/') own.toList
      refine .own (by rw [pickName, String.toList_ofList, List.takeWhile_append_dropWhile])
        hslashes fun hhead => ?_
      rw [pickName, String.toList_ofList] at hhead
      simp [hhead] at hname
    | none =>
      cases tags with
      | none => exact .neither rfl
      | some tags =>
        cases tags with
        | nil => exact .neither rfl
        | cons tag tags => exact .tag

theorem labelled_iff {config own : Option (Dict String)} {labels : Dict String} :
    Labelled config own labels ↔ (config.orElse fun _ => own).getD .empty = labels := by
  constructor
  · rintro (_ | _ | _) <;> rfl
  · rintro rfl
    cases config with
    | some labels => exact .config
    | none =>
      cases own with
      | some labels => exact .own
      | none => exact .neither

end InspectedObject

theorem Mount.decode_eq_ok_iff {room : Nat} {v : Value} {m : Mount} :
    decode Json.source ⟨room + 1, v⟩ = .ok m ↔ Described v m := by
  simp only [decode, Sequence.bind_eq_ok_iff]
  constructor
  · rintro ⟨r, hr, type, htype, source, hsource, target, htarget, readOnly, hreadOnly, h⟩
    cases h
    exact ⟨Json.exists_readRecord_iff.1 ⟨r, hr⟩,
      (Json.required_eq_ok_iff hr fun _ _ => Json.text_eq_ok_iff).1 htype,
      (Json.nullable_eq_ok_iff hr fun _ _ => Json.text_eq_ok_iff).1 hsource,
      (Json.required_eq_ok_iff hr fun _ _ => Json.text_eq_ok_iff).1 htarget,
      (Json.nullable_eq_ok_iff hr fun _ _ => Json.bool_eq_ok_iff).1 hreadOnly⟩
  · rintro ⟨hrecord, htype, hsource, htarget, hreadOnly⟩
    obtain ⟨r, hr⟩ : ∃ r, Json.source.readRecord fields false ⟨room + 1, v⟩ = .ok r :=
      Json.exists_readRecord_iff.2 hrecord
    exact ⟨r, hr, _, (Json.required_eq_ok_iff hr fun _ _ => Json.text_eq_ok_iff).2 htype,
      _, (Json.nullable_eq_ok_iff hr fun _ _ => Json.text_eq_ok_iff).2 hsource,
      _, (Json.required_eq_ok_iff hr fun _ _ => Json.text_eq_ok_iff).2 htarget,
      _, (Json.nullable_eq_ok_iff hr fun _ _ => Json.bool_eq_ok_iff).2 hreadOnly, rfl⟩

/-- A holder is read by reading what its field holds. -/
theorem Json.holder_eq_ok_iff {α : Type} {field : String} {room : Nat}
    {read : Json.Cursor → Except String α} {Reads : Value → α → Prop}
    (hread : ∀ x a, read ⟨room, x⟩ = .ok a ↔ Reads x a) {v : Value} {a : Option α} :
    (do
      let c ← Json.source.readRecord [[field]] false ⟨room + 1, v⟩
      InspectedObject.readNullable Json.source c read 0) = .ok a ↔ v.IsHolder field Reads a := by
  rw [Sequence.bind_eq_ok_iff]
  constructor
  · rintro ⟨r, hr, ha⟩
    exact ⟨exists_readRecord_iff.1 ⟨r, hr⟩, (nullable_eq_ok_iff hr hread).1 ha⟩
  · rintro ⟨hrecord, ha⟩
    obtain ⟨r, hr⟩ : ∃ r, source.readRecord [[field]] false ⟨room + 1, v⟩ = .ok r :=
      exists_readRecord_iff.2 hrecord
    exact ⟨r, hr, (nullable_eq_ok_iff hr hread).2 ha⟩

theorem InspectedObject.decode_eq_ok_iff {room : Nat} {v : Value} {o : InspectedObject} :
    decode Json.source ⟨room + 4, v⟩ = .ok o ↔ Described v o := by
  have htexts : ∀ x tags, Json.source.readList Json.source.text ⟨room + 3, x⟩ = .ok tags ↔
      x.IsList Value.IsText tags :=
    fun _ _ => Json.readList_eq_ok_iff fun _ _ => Json.text_eq_ok_iff
  have hmounts : ∀ x mounts, Json.source.readList (Mount.decode Json.source) ⟨room + 2, x⟩ =
      .ok mounts ↔ x.IsList Mount.Described mounts :=
    fun _ _ => Json.readList_eq_ok_iff fun _ _ => Mount.decode_eq_ok_iff
  rw [decode, Sequence.bind_eq_ok_iff]
  constructor
  · rintro ⟨r, hr, h⟩
    obtain ⟨own, hown, h⟩ := Sequence.bind_eq_ok_iff.1 h
    obtain ⟨tags, htags, h⟩ := Sequence.bind_eq_ok_iff.1 h
    obtain ⟨labels, hlabels, h⟩ := Sequence.bind_eq_ok_iff.1 h
    obtain ⟨config, hconfig, h⟩ := Sequence.bind_eq_ok_iff.1 h
    obtain ⟨hostConfig, hhostConfig, h⟩ := Sequence.bind_eq_ok_iff.1 h
    cases h
    exact .intro (Json.exists_readRecord_iff.1 ⟨r, hr⟩)
      ((Json.nullable_eq_ok_iff hr fun _ _ => Json.text_eq_ok_iff).1 hown)
      ((Json.nullable_eq_ok_iff hr htexts).1 htags)
      ((Json.nullable_eq_ok_iff hr fun _ _ => Json.readDict_eq_ok_iff).1 hlabels)
      ((Json.nullable_eq_ok_iff hr fun _ _ =>
        Json.holder_eq_ok_iff fun _ _ => Json.readDict_eq_ok_iff).1 hconfig)
      ((Json.nullable_eq_ok_iff hr fun _ _ => Json.holder_eq_ok_iff hmounts).1 hhostConfig)
      (named_iff.2 rfl) (labelled_iff.2 rfl) rfl
  · rintro ⟨hrecord, hown, htags, hlabels, hconfig, hhostConfig, hnamed, hlabelled, hmounted⟩
    obtain ⟨r, hr⟩ : ∃ r, Json.source.readRecord fields false ⟨room + 4, v⟩ = .ok r :=
      Json.exists_readRecord_iff.2 hrecord
    refine ⟨r, hr, Sequence.bind_eq_ok_iff.2 ⟨_,
      (Json.nullable_eq_ok_iff hr fun _ _ => Json.text_eq_ok_iff).2 hown, ?_⟩⟩
    refine Sequence.bind_eq_ok_iff.2 ⟨_, (Json.nullable_eq_ok_iff hr htexts).2 htags, ?_⟩
    refine Sequence.bind_eq_ok_iff.2 ⟨_,
      (Json.nullable_eq_ok_iff hr fun _ _ => Json.readDict_eq_ok_iff).2 hlabels, ?_⟩
    refine Sequence.bind_eq_ok_iff.2 ⟨_, (Json.nullable_eq_ok_iff hr fun _ _ =>
      Json.holder_eq_ok_iff fun _ _ => Json.readDict_eq_ok_iff).2 hconfig, ?_⟩
    refine Sequence.bind_eq_ok_iff.2 ⟨_, (Json.nullable_eq_ok_iff hr fun _ _ =>
      Json.holder_eq_ok_iff hmounts).2 hhostConfig, ?_⟩
    rw [named_iff.1 hnamed, labelled_iff.1 hlabelled, ← hmounted]

/-! ### Documents -/

/-- A text is read exactly if it is one way of writing an array of values that describe objects, and
these are the objects that it is read as. -/
theorem InspectedObject.parseAll_eq_ok_iff {text : String} {objects : List InspectedObject} :
    parseAll text = .ok objects ↔
      ∃ elements, Json.Spells (.array elements) text ∧ List.Forall₂ Described elements objects := by
  -- objects are one level inside the document
  have hread : ∀ v, Json.source.readList (decode Json.source) (Json.root v) = .ok objects ↔
      v.IsList Described objects :=
    fun _ => Json.readList_eq_ok_iff fun _ _ => decode_eq_ok_iff
  have hparse : parseAll text = .ok objects ↔
      (Json.parse text >>= fun v => Json.source.readList (decode Json.source) (Json.root v)) =
        .ok objects := by
    rw [parseAll]
    cases Json.parse text >>= fun v => Json.source.readList (decode Json.source) (Json.root v) <;>
      simp
  simp only [hparse, Sequence.bind_eq_ok_iff, Json.parse_eq_ok_iff, hread]
  constructor
  · rintro ⟨_, hspells, elements, rfl, helements⟩
    exact ⟨elements, hspells, helements⟩
  · rintro ⟨elements, hspells, helements⟩
    exact ⟨_, hspells, elements, rfl, helements⟩

end ComposeHarness
