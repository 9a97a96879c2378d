import ComposeHarness.Proofs.Inspection.Description
import ComposeHarness.Proofs.Related
import Mathlib.Data.List.Nodup
import Mathlib.Data.List.Perm.Basic
import Mathlib.Logic.Relation

/-!
# Rearranged documents

The output of an inspection may be written in many ways that describe the same objects: its members
may stand in another order, be left out where they are null, have another of their names, and stand
beside members that nothing knows. Which of this is possible at a place of the document depends on
what is read there.
-/
namespace ComposeHarness

/-- Pairs with different keys make the same dictionary in any order. -/
theorem Dict.ofList_perm {α : Type} {xs ys : List (String × α)} (h : xs.Perm ys)
    (hkeys : (xs.map (·.1)).Nodup) : ofList xs = ofList ys := by
  refine h.foldl_eq' (fun x hx y hy d => ?_) _
  by_cases hxy : x.1 = y.1
  · rw [List.inj_on_of_nodup_map hkeys hx hy hxy]
  · ext k s
    simp only [get?_insert]
    split <;> split <;> simp_all

namespace Inspection

open Json (Value Text Fit fieldOf)
open InspectedObject (Described)

/-! ### Places -/

/-- What is read at a place of a document. -/
inductive Place where
  | objects
  | object
  | config
  | hostConfig
  | labels
  | tags
  | mounts
  | mount
  | text
  | flag
  /-- What stands here is passed over. -/
  | unread
  deriving DecidableEq

namespace Place

def fields : Place → List (List String)
  | .object => InspectedObject.fields
  | .config => [["Labels"]]
  | .hostConfig => [["Mounts"]]
  | .mount => Mount.fields
  | _ => []

/-- The place of what a record holds for the field with a number. -/
def field : Place → Nat → Place
  | .object, 0 => .text
  | .object, 1 => .tags
  | .object, 2 => .labels
  | .object, 3 => .config
  | .object, 4 => .hostConfig
  | .config, 0 => .labels
  | .hostConfig, 0 => .mounts
  | .mount, 0 => .text
  | .mount, 1 => .text
  | .mount, 2 => .text
  | .mount, 3 => .flag
  | _, _ => .unread

/-- Whether a record has to hold something for the field. -/
def requires : Place → Nat → Bool
  | .mount, 0 => true
  | .mount, 2 => true
  | _, _ => false

/-- The place of a member of an object. -/
def member (p : Place) (key : Text) : Place :=
  match fieldOf p.fields key with
  | some i => p.field i
  | none => if p = .labels then .text else .unread

/-- The place of an item of an array. -/
def item : Place → Nat → Place
  | .objects, _ => .object
  | .tags, _ => .text
  | .mounts, _ => .mount
  | p, i => p.field i

/-- What is read at the place. -/
def Result : Place → Type
  | .objects => List InspectedObject
  | .object => InspectedObject
  | .config => Option (Dict String)
  | .hostConfig => Option (List Mount)
  | .labels => Dict String
  | .tags => List String
  | .mounts => List Mount
  | .mount => Mount
  | .text => String
  | .flag => Bool
  | .unread => Unit

/-- The value stands for the result. -/
def Reads : (p : Place) → Value → p.Result → Prop
  | .objects => Value.IsList Described
  | .object => Described
  | .config => Value.IsHolder "Labels" Value.IsDict
  | .hostConfig => Value.IsHolder "Mounts" (Value.IsList Mount.Described)
  | .labels => Value.IsDict
  | .tags => Value.IsList Value.IsText
  | .mounts => Value.IsList Mount.Described
  | .mount => Mount.Described
  | .text => Value.IsText
  | .flag => Value.IsFlag
  | .unread => fun _ _ => True

/-- The second value stands for whatever the first one stands for. -/
def Keeps (p : Place) (v v' : Value) : Prop := ∀ a, p.Reads v a → p.Reads v' a

end Place

/-! ### Rearrangements -/

/-- The members of an object at the place are written in another way. -/
inductive Reshaped (p : Place) : List (Text × Value) → List (Text × Value) → Prop
  /-- Of two labels with one key the later counts. -/
  | permute {members members' : List (Text × Value)} (h : members.Perm members')
      (hkeys : p = .labels → (members.map (·.1)).Nodup) : Reshaped p members members'
  /-- Where members are read, their names have to be texts. -/
  | add {members : List (Text × Value)} {key : Text} {v : Value} (hplace : p ≠ .labels)
      (hunknown : fieldOf p.fields key = none) (hkey : p ≠ .unread → key.isSome) :
      Reshaped p members ((key, v) :: members)
  | omitNull {members : List (Text × Value)} {key : Text} {i : Nat}
      (hfield : fieldOf p.fields key = some i) (hnull : p.requires i = false) :
      Reshaped p ((key, .null) :: members) members
  | writeNull {members : List (Text × Value)} {key : Text} {i : Nat}
      (hfield : fieldOf p.fields key = some i) (hnull : p.requires i = false)
      (habsent : ∀ m ∈ members, fieldOf p.fields m.1 ≠ some i) :
      Reshaped p members ((key, .null) :: members)
  | rename {members : List (Text × Value)} {key key' : Text} {v : Value} {i : Nat}
      (hfield : fieldOf p.fields key = some i) (hfield' : fieldOf p.fields key' = some i) :
      Reshaped p ((key, v) :: members) ((key', v) :: members)

/-- The value at the place is written in another way, itself or somewhere inside. -/
inductive Rearranged : Place → Value → Value → Prop
  | members {p : Place} {members members' : List (Text × Value)} (h : Reshaped p members members') :
      Rearranged p (.object members) (.object members')
  | member {p : Place} {before after : List (Text × Value)} {key : Text} {x x' : Value}
      (h : Rearranged (p.member key) x x') :
      Rearranged p (.object (before ++ (key, x) :: after)) (.object (before ++ (key, x') :: after))
  | item {p : Place} {before after : List Value} {x x' : Value}
      (h : Rearranged (p.item before.length) x x') :
      Rearranged p (.array (before ++ x :: after)) (.array (before ++ x' :: after))

theorem Rearranged.ne_null {p : Place} {v v' : Value} (h : Rearranged p v v') :
    v ≠ .null ∧ v' ≠ .null := by
  cases h <;> exact ⟨nofun, nofun⟩

/-! ### Records -/

/-- The second record is like the first one but for nulls and for how its values are written. -/
structure Varied (p : Place) (v v' : Value) : Prop where
  record : v'.IsRecord p.fields
  keeps : ∀ i x, v.HoldsAt p.fields i x → (x ≠ .null ∨ p.requires i) →
    ∃ x', v'.HoldsAt p.fields i x' ∧ (x ≠ .null → x' ≠ .null) ∧ (p.field i).Keeps x x'
  null : ∀ i x', v'.HoldsAt p.fields i x' → x' ≠ .null → ∃ x, v.HoldsAt p.fields i x ∧ x ≠ .null

namespace Varied

variable {p : Place} {v v' : Value}

theorem of_holdsAt (hrecord : v'.IsRecord p.fields)
    (h : ∀ i x, (x ≠ .null ∨ p.requires i) →
      (v.HoldsAt p.fields i x ↔ v'.HoldsAt p.fields i x)) : Varied p v v' where
  record := hrecord
  keeps i x hx hnull := ⟨x, (h i x hnull).1 hx, id, fun _ => id⟩
  null i x hx hnull := ⟨x, (h i x (.inl hnull)).2 hx, hnull⟩

theorem required (h : Varied p v v') {i : Nat} (hi : p.requires i) {a : (p.field i).Result}
    (ha : v.Required p.fields i (p.field i).Reads a) :
    v'.Required p.fields i (p.field i).Reads a := by
  obtain ⟨x, hx, ha⟩ := ha
  obtain ⟨x', hx', -, hkeeps⟩ := h.keeps i x hx (.inr hi)
  exact ⟨x', hx', hkeeps a ha⟩

theorem nullable (h : Varied p v v') {i : Nat} {a : Option (p.field i).Result}
    (ha : v.Nullable p.fields i (p.field i).Reads a) :
    v'.Nullable p.fields i (p.field i).Reads a := by
  cases a with
  | none =>
    intro x' hx'
    by_contra hne
    obtain ⟨x, hx, hnull⟩ := h.null i x' hx' hne
    exact hnull (ha x hx)
  | some a =>
    obtain ⟨x, hx, hne, ha⟩ := ha
    obtain ⟨x', hx', hne', hkeeps⟩ := h.keeps i x hx (.inl hne)
    exact ⟨x', hx', hne' hne, hkeeps a ha⟩

theorem keeps_mount (h : v.IsRecord Mount.fields → Varied .mount v v') :
    Place.mount.Keeps v v' := by
  intro m hm
  have h := h hm.record
  exact ⟨h.record, h.required rfl hm.type, h.nullable hm.source, h.required rfl hm.target,
    h.nullable hm.readOnly⟩

theorem keeps_config (h : v.IsRecord [["Labels"]] → Varied .config v v') :
    Place.config.Keeps v v' := by
  intro labels hlabels
  have h := h hlabels.record
  exact ⟨h.record, h.nullable hlabels.nullable⟩

theorem keeps_hostConfig (h : v.IsRecord [["Mounts"]] → Varied .hostConfig v v') :
    Place.hostConfig.Keeps v v' := by
  intro mounts hmounts
  have h := h hmounts.record
  exact ⟨h.record, h.nullable hmounts.nullable⟩

theorem keeps_object (h : v.IsRecord InspectedObject.fields → Varied .object v v') :
    Place.object.Keeps v v' := by
  rintro o ⟨hrecord, hname, htags, hlabels, hconfig, hhostConfig, hnamed, hlabelled, hmounted⟩
  have h := h hrecord
  exact .intro h.record (h.nullable hname) (h.nullable htags) (h.nullable hlabels)
    (h.nullable hconfig) (h.nullable hhostConfig) hnamed hlabelled hmounted

end Varied

/-- Members that hold the same are as good as one another. -/
theorem Reshaped.varied {p : Place} {members members' : List (Text × Value)}
    (h : Reshaped p members members') (hp : p ≠ .unread) (hfit : Fit p.fields members) :
    Varied p (.object members) (.object members') := by
  cases h with
  | permute hperm => exact .of_holdsAt (hfit.perm hperm) fun _ _ _ => Json.Value.holdsAt_perm hperm
  | add _ hunknown hkey =>
    refine .of_holdsAt (Json.fit_cons_iff.2 ⟨hkey hp, by simp [hunknown], hfit⟩) fun i x _ => ?_
    simp [Json.Value.holdsAt_cons_iff, hunknown]
  | @omitNull _ _ i hfield hnull =>
    refine .of_holdsAt (Json.fit_cons_iff.1 hfit).2.2 fun j x hx => ?_
    rw [Json.Value.holdsAt_cons_iff, or_iff_right]
    rintro ⟨hj, rfl⟩
    cases hfield.symm.trans hj
    simp [hnull] at hx
  | @writeNull _ key i hfield hnull habsent =>
    have hkey : key.isSome := by
      cases key with
      | none => cases hfield
      | some => rfl
    refine .of_holdsAt (Json.fit_cons_iff.2 ⟨hkey, fun j hj => ?_, hfit⟩) fun j x hx => ?_
    · cases hfield.symm.trans hj
      exact habsent
    · rw [Json.Value.holdsAt_cons_iff, or_iff_right]
      rintro ⟨hj, rfl⟩
      cases hfield.symm.trans hj
      simp [hnull] at hx
  | @rename _ key key' _ i hfield hfield' =>
    have hkey : key'.isSome := by
      cases key' with
      | none => cases hfield'
      | some => rfl
    obtain ⟨-, hothers, hrest⟩ := Json.fit_cons_iff.1 hfit
    refine .of_holdsAt (Json.fit_cons_iff.2 ⟨hkey, hfield' ▸ hfield ▸ hothers, hrest⟩)
      fun j x _ => ?_
    rw [Json.Value.holdsAt_cons_iff, Json.Value.holdsAt_cons_iff, hfield, hfield']

/-- A record goes on holding what it holds where one value is written in another way. -/
theorem varied_member {p : Place} {before after : List (Text × Value)} {key : Text} {x x' : Value}
    (hfit : Fit p.fields (before ++ (key, x) :: after)) (hx : x ≠ .null) (hx' : x' ≠ .null)
    (hkeeps : (p.member key).Keeps x x') :
    Varied p (.object (before ++ (key, x) :: after)) (.object (before ++ (key, x') :: after)) := by
  have hfront : ∀ y, (before ++ (key, y) :: after).Perm ((key, y) :: (before ++ after)) :=
    fun y => List.perm_middle
  have hfield : ∀ i, fieldOf p.fields key = some i → (p.field i).Keeps x x' := by
    intro i hi
    rwa [Place.member, hi] at hkeeps
  constructor
  · have := Json.fit_cons_iff.1 (hfit.perm (hfront x))
    exact (Json.fit_cons_iff.2 this).perm (hfront x').symm
  · intro i y hy _
    rw [Json.Value.holdsAt_perm (hfront x), Json.Value.holdsAt_cons_iff] at hy
    simp only [Json.Value.holdsAt_perm (hfront x'), Json.Value.holdsAt_cons_iff]
    rcases hy with ⟨hi, rfl⟩ | hy
    · exact ⟨x', .inl ⟨hi, rfl⟩, fun _ => hx', hfield i hi⟩
    · exact ⟨y, .inr hy, id, fun _ => id⟩
  · intro i y hy hnull
    rw [Json.Value.holdsAt_perm (hfront x'), Json.Value.holdsAt_cons_iff] at hy
    simp only [Json.Value.holdsAt_perm (hfront x), Json.Value.holdsAt_cons_iff]
    rcases hy with ⟨hi, rfl⟩ | hy
    · exact ⟨x, .inl ⟨hi, rfl⟩, hx⟩
    · exact ⟨y, .inr hy, hnull⟩

theorem varied_item {p : Place} {before after : List Value} {x x' : Value}
    (hrecord : (Value.array (before ++ x :: after)).IsRecord p.fields) (hx : x ≠ .null)
    (hx' : x' ≠ .null) (hkeeps : (p.field before.length).Keeps x x') :
    Varied p (.array (before ++ x :: after)) (.array (before ++ x' :: after)) := by
  have hother : ∀ i, i ≠ before.length →
      (before ++ x' :: after)[i]? = (before ++ x :: after)[i]? := by
    intro i hi
    have hset : before ++ x' :: after = (before ++ x :: after).set before.length x' := by simp
    rw [hset, List.getElem?_set_ne hi.symm]
  have hhere : ∀ y, (before ++ y :: after)[before.length]? = some y := by simp
  constructor
  · simpa [Value.IsRecord] using hrecord
  · rintro i y ⟨hi, hy⟩ _
    by_cases hplace : i = before.length
    · subst hplace
      cases (hhere x).symm.trans hy
      exact ⟨x', ⟨hi, hhere x'⟩, fun _ => hx', hkeeps⟩
    · exact ⟨y, ⟨hi, (hother i hplace).trans hy⟩, id, fun _ => id⟩
  · rintro i y ⟨hi, hy⟩ hnull
    by_cases hplace : i = before.length
    · subst hplace
      exact ⟨x, ⟨hi, hhere x⟩, hx⟩
    · exact ⟨y, ⟨hi, (hother i hplace).symm.trans hy⟩, hnull⟩

/-! ### Labels and lists -/

theorem keeps_labels {members members' : List (Text × Value)} (h : members.Perm members')
    (hkeys : (members.map (·.1)).Nodup) :
    Place.labels.Keeps (.object members) (.object members') := by
  rintro labels ⟨pairs, hmembers, rfl⟩
  cases hmembers
  -- the pairs can be put into the order of the members
  obtain ⟨pairs', rfl, hperm⟩ := (congrFun₂ (List.eq_map_comp_perm Value.dictMember) _ _).mpr h.symm
  refine ⟨pairs', rfl, Dict.ofList_perm hperm.symm ?_⟩
  rw [List.map_map] at hkeys
  exact List.Nodup.of_map some (by rwa [List.map_map])

theorem keeps_list {α : Type} {Reads : Value → α → Prop} {before after : List Value} {x x' : Value}
    {results : List α} (hkeeps : ∀ a, Reads x a → Reads x' a)
    (h : (Value.array (before ++ x :: after)).IsList Reads results) :
    (Value.array (before ++ x' :: after)).IsList Reads results := by
  obtain ⟨_, ⟨⟩, hitems⟩ := h
  obtain ⟨before', a, after', rfl, hbefore, hx, hafter⟩ := exists_of_forall₂_append_cons hitems
  exact ⟨_, rfl, forall₂_replace hbefore (hkeeps a hx) hafter⟩

/-! ### Whole documents -/

/-- What is read of a value is read of every rearrangement of it. -/
theorem Rearranged.keeps {p : Place} {v v' : Value} (h : Rearranged p v v') : p.Keeps v v' := by
  induction h with
  | @members p members members' h =>
    cases p with
    | object => exact Varied.keeps_object (h.varied nofun)
    | config => exact Varied.keeps_config (h.varied nofun)
    | hostConfig => exact Varied.keeps_hostConfig (h.varied nofun)
    | mount => exact Varied.keeps_mount (h.varied nofun)
    | labels =>
      cases h with
      | permute hperm hkeys => exact keeps_labels hperm (hkeys rfl)
      | add hplace => exact absurd rfl hplace
      | omitNull hfield | writeNull hfield | rename hfield => simp [Place.fields] at hfield
    -- an object is none of these
    | objects | tags | mounts => rintro a ⟨_, h, _⟩; cases h
    | text | flag => rintro a h; cases h
    | unread => exact fun _ => id
  | @member p before after key x x' h ih =>
    obtain ⟨hx, hx'⟩ := h.ne_null
    cases p with
    | object => exact Varied.keeps_object fun hfit => varied_member hfit hx hx' ih
    | config => exact Varied.keeps_config fun hfit => varied_member hfit hx hx' ih
    | hostConfig => exact Varied.keeps_hostConfig fun hfit => varied_member hfit hx hx' ih
    | mount => exact Varied.keeps_mount fun hfit => varied_member hfit hx hx' ih
    | labels =>
      rintro labels ⟨pairs, hmembers, -⟩
      have hmem : (key, x) ∈ pairs.map Value.dictMember := by
        rw [← Value.object.inj hmembers]
        simp
      obtain ⟨label, -, hlabel⟩ := List.mem_map.1 hmem
      -- there is one way of writing a text
      cases hlabel
      cases h
    | objects | tags | mounts => rintro a ⟨_, h, _⟩; cases h
    | text | flag => rintro a h; cases h
    | unread => exact fun _ => id
  | @item p before after x x' h ih =>
    obtain ⟨hx, hx'⟩ := h.ne_null
    cases p with
    | object => exact Varied.keeps_object fun hrecord => varied_item hrecord hx hx' ih
    | config => exact Varied.keeps_config fun hrecord => varied_item hrecord hx hx' ih
    | hostConfig => exact Varied.keeps_hostConfig fun hrecord => varied_item hrecord hx hx' ih
    | mount => exact Varied.keeps_mount fun hrecord => varied_item hrecord hx hx' ih
    | objects => exact fun _ => keeps_list ih
    | tags => exact fun _ => keeps_list ih
    | mounts => exact fun _ => keeps_list ih
    -- an array is none of these
    | labels => rintro a ⟨_, h, _⟩; cases h
    | text | flag => rintro a h; cases h
    | unread => exact fun _ => id

theorem keeps_of_reflTransGen {p : Place} {v v' : Value}
    (h : Relation.ReflTransGen (Rearranged p) v v') : p.Keeps v v' := by
  induction h with
  | refl => exact fun _ => id
  | tail _ hstep ih => exact fun a ha => hstep.keeps a (ih a ha)

end Inspection

namespace InspectedObject

open Inspection (Rearranged)

/-- The objects of a text are those that the elements of its array describe, one by one. They stay the
same however its tokens are laid out, and however the document is rearranged. -/
theorem parseAll_rearranged {text : String} {objects : List InspectedObject}
    (h : parseAll text = .ok objects) :
    ∃ elements tokens, Json.Phrase (.array elements) tokens ∧ Json.Laid tokens text.toList ∧
      List.Forall₂ Described elements objects ∧
      (∀ text', Json.Laid tokens text'.toList → parseAll text' = .ok objects) ∧
      ∀ document, Relation.ReflTransGen (Rearranged .objects) (.array elements) document →
        ∀ text', Json.Spells document text' → parseAll text' = .ok objects := by
  obtain ⟨elements, ⟨tokens, hphrase, hlaid⟩, helements⟩ := parseAll_eq_ok_iff.1 h
  refine ⟨elements, tokens, hphrase, hlaid, helements, fun text' hlaid' => ?_,
    fun document hdocument text' htext' => ?_⟩
  · exact parseAll_eq_ok_iff.2 ⟨elements, ⟨tokens, hphrase, hlaid'⟩, helements⟩
  · obtain ⟨elements', rfl, helements'⟩ :=
      Inspection.keeps_of_reflTransGen hdocument objects ⟨elements, rfl, helements⟩
    exact parseAll_eq_ok_iff.2 ⟨elements', htext', helements'⟩

/-- A container is read the same with a member that nothing knows. -/
theorem webServer_parseAll_rearranged :
    parseAll "[\x7b\"Name\":\"/web\"\x7d]" = .ok [⟨"web", .empty, []⟩] ∧
      parseAll "[\x7b\"Tty\":true, \"Name\":\"/web\"\x7d]" = .ok [⟨"web", .empty, []⟩] := by
  have hmembers := Json.Members.last (.of_plain "Name" rfl) (.text (.of_plain "/web" rfl))
  have hparse : Json.parse "[\x7b\"Name\":\"/web\"\x7d]" =
      .ok (.array [.object [(some "Name", .text (some "/web"))]]) :=
    Json.parse_eq_ok_iff.2 ⟨_, .items (.last (.members hmembers)), .flatten (by decide)⟩
  have hspells : Json.Spells
      (.array [.object [(some "Tty", .bool true), (some "Name", .text (some "/web"))]])
      "[\x7b\"Tty\":true, \"Name\":\"/web\"\x7d]" :=
    ⟨_, .items (.last (.members (.more (.of_plain "Tty" rfl) .isTrue hmembers))),
      Json.Laid.append [['['], ['\x7b'], "\"Tty\"".toList, [':'], "true".toList, [',']]
        (@Json.Laid.cons [' '] _ _ _ (by simp [Json.isBlank]) (by simp) (.flatten (by decide)))
        (by decide)⟩
  have hread : parseAll "[\x7b\"Name\":\"/web\"\x7d]" = .ok [⟨"web", .empty, []⟩] := by
    rw [parseAll, hparse]
    rfl
  obtain ⟨elements, tokens, hphrase, hlaid, -, -, hrearranged⟩ := parseAll_rearranged hread
  cases hparse.symm.trans (Json.parse_eq_ok_iff.2 ⟨tokens, hphrase, hlaid⟩)
  have hadd : Rearranged .objects (.array [.object [(some "Name", .text (some "/web"))]])
      (.array [.object [(some "Tty", .bool true), (some "Name", .text (some "/web"))]]) :=
    @Rearranged.item .objects [] [] _ _ (.members (.add (by decide) rfl fun _ => rfl))
  exact ⟨hread, hrearranged _ (.single hadd) _ hspells⟩

/-- A name with half a surrogate pair is well-formed, but it is not a text. -/
theorem parseAll_refuses_halfName :
    parseAll "[\x7b\x7d]" = .ok [⟨"", .empty, []⟩] ∧
      Json.parse "[\x7b\"\\ud800\":true\x7d]" = .ok (.array [.object [(none, .bool true)]]) ∧
      (parseAll "[\x7b\"\\ud800\":true\x7d]").toOption = none := by
  have hempty : Json.parse "[\x7b\x7d]" = .ok (.array [.object []]) :=
    Json.parse_eq_ok_iff.2 ⟨_, .items (.last .noMembers), .flatten (by decide)⟩
  have hhex : Json.Hex "d800".toList 0xD800 := ⟨rfl, by decide, by decide⟩
  have hhalf := Json.Spelling.highHalf hhex ⟨by decide, by decide⟩
    (by rintro ⟨_, _, _, _, _, h⟩; cases h) .nil
  have hparse : Json.parse "[\x7b\"\\ud800\":true\x7d]" =
      .ok (.array [.object [(none, .bool true)]]) :=
    Json.parse_eq_ok_iff.2
      ⟨_, .items (.last (.members (.last (.mk hhalf) .isTrue))), .flatten (by decide)⟩
  refine ⟨?_, hparse, ?_⟩
  · rw [parseAll, hempty]
    rfl
  · rw [parseAll, hparse]
    rfl

end InspectedObject
end ComposeHarness
