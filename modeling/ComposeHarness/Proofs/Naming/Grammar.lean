import ComposeHarness.Proofs.Naming.Sharing
import ComposeHarness.Proofs.Naming.Substitution

/-!
# The grammar of placeholders

By the grammar, a placeholder names a resource: a network, a volume or an image by its name, and a
container by its service, with an index in decimal digits after a colon or without one. Expansion
accepts all of this, and two things beyond it: the service before an index may be missing, and the
index may have a plus sign.
-/
namespace ComposeHarness

/-- The name that a resource has within its project. -/
def Resource.name : Resource → String
  | .container service _ => service
  | .network name => name
  | .volume name => name
  | .image service => service

@[simp] theorem Resource.name_named (name : String) (kind : NamingScheme.Placeholder) :
    (named name kind).name = name := by
  cases kind <;> rfl

namespace NamingScheme

variable {scheme : NamingScheme} {project : String} {text key : List Char} {r : Resource}

/-! ### Groups and their keys -/

/-- The text has an innermost group with this key. -/
def HasGroup (text key : List Char) : Prop :=
  NoBrace key ∧ ∃ before after, text = before ++ '\x7b' :: (key ++ '\x7d' :: after)

theorem group_mem_divide_iff : .group key ∈ divide text ↔ HasGroup text key := by
  constructor
  · intro h
    obtain ⟨front, back, hd⟩ := List.append_of_mem h
    have hsource := flatMap_source_divide text
    rw [hd, List.flatMap_append, List.flatMap_cons] at hsource
    exact ⟨noBrace_of_mem_divide h, front.flatMap Piece.source, back.flatMap Piece.source,
      by simp [← hsource, Piece.source]⟩
  · rintro ⟨hkey, before, after, htext⟩
    obtain ⟨front, back, hd, -⟩ := exists_group_divide text before key after hkey htext
    simp [hd]

/-- One or more decimal digits. -/
def IsPlain (digits : List Char) : Prop := digits ≠ [] ∧ ∀ c ∈ digits, c.isDigit

/-- By the grammar, the key of a placeholder names a resource. -/
inductive Names : List Char → Resource → Prop
  /-- A network, volume or image. -/
  | resource {kind : Placeholder} {name : List Char} (h : kind ≠ .container) (given : name ≠ []) :
      Names (kind.word ++ ':' :: name) (.named (String.ofList name) kind)
  | service {service : List Char} (given : service ≠ []) (whole : ':' ∉ service) :
      Names (Placeholder.container.word ++ ':' :: service) (.container (String.ofList service) 1)
  | indexed {service digits : List Char} {index : UInt32} (given : service ≠ [])
      (whole : ':' ∉ service) (plain : IsPlain digits)
      (value : Nat.ofDigitChars 10 digits 0 = index.toNat) :
      Names (Placeholder.container.word ++ ':' :: (service ++ ':' :: digits))
        (.container (String.ofList service) index)

/-- Beyond the grammar, a key may leave out the service before an index, or give the index a plus
sign. -/
inductive NamesLoosely : List Char → Resource → Prop
  | nameless {count : List Char} {index : UInt32} (h : IsCount count index.toNat) :
      NamesLoosely (Placeholder.container.word ++ ':' :: ':' :: count) (.container "" index)
  | signed {service digits : List Char} {index : UInt32} (given : service ≠ [])
      (whole : ':' ∉ service) (plain : IsPlain digits)
      (value : Nat.ofDigitChars 10 digits 0 = index.toNat) :
      NamesLoosely (Placeholder.container.word ++ ':' :: (service ++ ':' :: '+' :: digits))
        (.container (String.ofList service) index)

/-! ### Keys within and beyond the grammar -/

/-- What stands before the first colon of a text, and what stands after it, are determined. -/
theorem colon_injective {before before' after after' : List Char} (h : ':' ∉ before)
    (h' : ':' ∉ before') (heq : before ++ ':' :: after = before' ++ ':' :: after') :
    before = before' ∧ after = after' := by
  have hcut := cut_of_not_mem h after
  rw [heq, cut_of_not_mem h'] at hcut
  obtain ⟨hbefore, hafter⟩ := Prod.mk.inj (Option.some.inj hcut)
  exact ⟨hbefore.symm, hafter.symm⟩

theorem word_injective {kind kind' : Placeholder} {argument argument' : List Char}
    (h : kind.word ++ ':' :: argument = kind'.word ++ ':' :: argument') :
    kind = kind' ∧ argument = argument' := by
  obtain ⟨hword, hargument⟩ := colon_injective kind.colon_not_mem_word kind'.colon_not_mem_word h
  have hkind := kind.ofKey?_word
  rw [hword, kind'.ofKey?_word] at hkind
  exact ⟨(Option.some.inj hkind).symm, hargument⟩

theorem service_eq_nil {service rest count : List Char} (whole : ':' ∉ service)
    (h : Placeholder.container.word ++ ':' :: (service ++ ':' :: rest) =
      Placeholder.container.word ++ ':' :: ':' :: count) : service = [] :=
  (colon_injective whole List.not_mem_nil (word_injective h).2).1

/-- By the grammar, a service stands before each index. -/
theorem Names.key_ne (h : Names key r) (count : List Char) :
    key ≠ Placeholder.container.word ++ ':' :: ':' :: count := by
  intro hkey
  cases h with
  | resource hkind _ => exact hkind (word_injective hkey).1
  | service _ whole =>
    rw [(word_injective hkey).2] at whole
    simp at whole
  | indexed given whole _ _ => exact given (service_eq_nil whole hkey)

/-- By the grammar, no sign stands before the digits of an index. -/
theorem Names.key_ne_signed {service : List Char} (h : Names key r) (whole : ':' ∉ service)
    (digits : List Char) :
    key ≠ Placeholder.container.word ++ ':' :: (service ++ ':' :: '+' :: digits) := by
  have hplus : ¬('+').isDigit := by decide
  intro hkey
  cases h with
  | resource hkind _ => exact hkind (word_injective hkey).1
  | service _ whole' =>
    rw [(word_injective hkey).2] at whole'
    simp at whole'
  | indexed _ whole' plain _ =>
    have hdigits := (colon_injective whole' whole (word_injective hkey).2).2
    exact hplus (plain.2 '+' (by simp [hdigits]))

/-- What is accepted beyond the grammar is not in it. -/
theorem NamesLoosely.not_names (h : NamesLoosely key r) (r' : Resource) : ¬Names key r' := by
  intro hnames
  cases h with
  | nameless _ => exact hnames.key_ne _ rfl
  | signed _ whole _ _ => exact hnames.key_ne_signed whole _ rfl

theorem ofList_ne_empty {name : List Char} (h : name ≠ []) : String.ofList name ≠ "" :=
  fun heq => h (by simpa using congrArg String.toList heq)

/-- What a key names is without a name exactly if the key leaves out a service. -/
theorem name_eq_empty_iff (h : Names key r ∨ NamesLoosely key r) :
    r.name = "" ↔ ∃ count, key = Placeholder.container.word ++ ':' :: ':' :: count := by
  rcases h with hnames | hloose
  · have hname : r.name ≠ "" := by
      cases hnames with
      | resource _ given => simpa using ofList_ne_empty given
      | service given _ => exact ofList_ne_empty given
      | indexed given _ _ _ => exact ofList_ne_empty given
    simp [hname, hnames.key_ne]
  · cases hloose with
    | @nameless count _ _ => exact ⟨fun _ => ⟨count, rfl⟩, fun _ => rfl⟩
    | signed given whole _ _ =>
      refine ⟨fun hname => absurd hname (ofList_ne_empty given), ?_⟩
      rintro ⟨count, hkey⟩
      exact absurd (service_eq_nil whole hkey) given

/-! ### What is accepted -/

theorem nameOf_named (name : String) {kind : Placeholder} (h : kind ≠ .container) :
    scheme.nameOf project (.named name kind) = scheme.join project name := by
  cases kind with
  | container => exact absurd rfl h
  | network => rfl
  | volume => rfl
  | image => rfl

theorem isCount_of_isPlain {digits : List Char} {index : UInt32} (plain : IsPlain digits)
    (value : Nat.ofDigitChars 10 digits 0 = index.toNat) :
    IsCount digits index.toNat ∧ IsCount ('+' :: digits) index.toNat :=
  ⟨⟨digits, .inl rfl, plain.1, plain.2, value, index.toNat_lt⟩,
    ⟨digits, .inr rfl, plain.1, plain.2, value, index.toNat_lt⟩⟩

/-- An index is within or beyond the grammar. -/
theorem names_of_isCount {service index : List Char} {n : Nat} (whole : ':' ∉ service)
    (h : IsCount index n) :
    let key := Placeholder.container.word ++ ':' :: (service ++ ':' :: index)
    ∃ m : UInt32, m.toNat = n ∧ (Names key (.container (String.ofList service) m) ∨
      NamesLoosely key (.container (String.ofList service) m)) := by
  have hn : n < 2 ^ 32 := by
    obtain ⟨_, _, _, _, _, hlt⟩ := h
    exact hlt
  refine ⟨UInt32.ofNat n, UInt32.toNat_ofNat_of_lt' hn, ?_⟩
  obtain rfl | given := eq_or_ne service []
  · exact .inr (.nameless (by rwa [UInt32.toNat_ofNat_of_lt' hn]))
  · obtain ⟨digits, hindex, hne, hdigits, hvalue, -⟩ := h
    have value : Nat.ofDigitChars 10 digits 0 = (UInt32.ofNat n).toNat := by
      rw [hvalue, UInt32.toNat_ofNat_of_lt' hn]
    rcases hindex with rfl | rfl
    · exact .inl (.indexed given whole ⟨hne, hdigits⟩ value)
    · exact .inr (.signed given whole ⟨hne, hdigits⟩ value)

/-- A key stands for the project, or for the name of the resource that it names. -/
theorem standsFor_iff {value : String} :
    StandsFor scheme project key value ↔ (key = "project".toList ∧ value = project) ∨
      ∃ r, (Names key r ∨ NamesLoosely key r) ∧ value = scheme.nameOf project r := by
  constructor
  · intro h
    cases h with
    | project => exact .inl ⟨rfl, rfl⟩
    | @resource kind name hkind named =>
      exact .inr ⟨_, .inl (.resource hkind named), (nameOf_named _ hkind).symm⟩
    | container named whole => exact .inr ⟨_, .inl (.service named whole), rfl⟩
    | indexed first hn =>
      obtain ⟨m, rfl, hnames⟩ := names_of_isCount first hn
      exact .inr ⟨_, hnames, rfl⟩
  · rintro (⟨rfl, rfl⟩ | ⟨r, hnames | hloose, rfl⟩)
    · exact .project
    · cases hnames with
      | resource h given =>
        rw [nameOf_named _ h]
        exact .resource h given
      | service given whole => exact .container given whole
      | indexed given whole plain value => exact .indexed whole (isCount_of_isPlain plain value).1
    · cases hloose with
      | nameless h =>
        have first : ':' ∉ ([] : List Char) := List.not_mem_nil
        exact .indexed first h
      | signed given whole plain value => exact .indexed whole (isCount_of_isPlain plain value).2

/-- A key of one of the four kinds is malformed exactly if it names nothing. -/
theorem malformed_iff (kind : Placeholder) (argument : List Char) :
    (∃ failure, Malformed (kind.word ++ ':' :: argument) failure) ↔
      ¬∃ r, Names (kind.word ++ ':' :: argument) r ∨
        NamesLoosely (kind.word ++ ':' :: argument) r := by
  constructor
  · rintro ⟨failure, hm⟩ ⟨r, hr⟩
    have hstands : StandsFor standard "" _ _ := standsFor_iff.2 (.inr ⟨r, hr, rfl⟩)
    cases (placeholder_of_standsFor hstands).symm.trans (placeholder_of_malformed hm)
  · intro h
    refine (standsFor_or_malformed standard "" kind argument).resolve_left ?_
    rintro ⟨value, hvalue⟩
    obtain ⟨hproject, -⟩ | ⟨r, hr, -⟩ := standsFor_iff.1 hvalue
    · exact word_append_ne_project kind argument hproject
    · exact h ⟨r, hr⟩

theorem Malformed.exists_kind {failure : Failure} (h : Malformed key failure) :
    ∃ (kind : Placeholder) (argument : List Char), key = kind.word ++ ':' :: argument := by
  cases h with
  | nameless kind => exact ⟨kind, [], rfl⟩
  | badIndex _ _ => exact ⟨.container, _, rfl⟩

/-- All keys of the four kinds name something by the grammar. -/
def InGrammar (text : List Char) : Prop :=
  ∀ (kind : Placeholder) argument, HasGroup text (kind.word ++ ':' :: argument) →
    ∃ r, Names (kind.word ++ ':' :: argument) r

/-- Some key names something beyond the grammar. -/
def IsLoose (text : List Char) : Prop := ∃ key r, HasGroup text key ∧ NamesLoosely key r

theorem NamesLoosely.exists_argument (h : NamesLoosely key r) :
    ∃ argument, key = Placeholder.container.word ++ ':' :: argument := by
  cases h with
  | nameless _ => exact ⟨_, rfl⟩
  | signed _ _ _ _ => exact ⟨_, rfl⟩

theorem IsLoose.not_inGrammar (h : IsLoose text) : ¬InGrammar text := by
  obtain ⟨key, r, hgroup, hloose⟩ := h
  obtain ⟨argument, rfl⟩ := hloose.exists_argument
  intro hgrammar
  obtain ⟨r', hnames⟩ := hgrammar .container argument hgroup
  exact hloose.not_names r' hnames

theorem exists_expand_iff_names {input : String} :
    (∃ out, scheme.expand input project = .ok out) ↔
      ∀ (kind : Placeholder) argument, HasGroup input.toList (kind.word ++ ':' :: argument) →
        ∃ r, Names (kind.word ++ ':' :: argument) r ∨
          NamesLoosely (kind.word ++ ':' :: argument) r := by
  simp only [exists_expand_eq_ok_iff, group_mem_divide_iff]
  constructor
  · intro h kind argument hgroup
    by_contra hnone
    obtain ⟨failure, hm⟩ := (malformed_iff kind argument).2 hnone
    exact h _ failure hgroup hm
  · intro h key failure hgroup hm
    obtain ⟨kind, argument, rfl⟩ := hm.exists_kind
    exact (malformed_iff kind argument).1 ⟨failure, hm⟩ (h kind argument hgroup)

/-- A text can be expanded exactly if each group of the four kinds names a resource, by the grammar
or beyond it. So expansion and the grammar part exactly at the texts that are expanded although a
group of theirs is named loosely. A name that is inserted has an empty part exactly if its group
leaves out the service. -/
theorem expand_accepts_grammar_and_loose_names (scheme : NamingScheme) (input project : String) :
    ((∃ out, scheme.expand input project = .ok out) ↔
      ∀ (kind : Placeholder) argument, HasGroup input.toList (kind.word ++ ':' :: argument) →
        ∃ r, Names (kind.word ++ ':' :: argument) r ∨
          NamesLoosely (kind.word ++ ':' :: argument) r) ∧
    (((∃ out, scheme.expand input project = .ok out) ↔ InGrammar input.toList) ↔
      ¬((∃ out, scheme.expand input project = .ok out) ∧ IsLoose input.toList)) ∧
    ∀ key value, HasGroup input.toList key → placeholder scheme project key = .ok (some value) →
      (key = "project".toList ∧ value = project) ∨
        ∃ r : Resource, (Names key r ∨ NamesLoosely key r) ∧ value = scheme.nameOf project r ∧
          (r.name = "" ↔ ∃ count, key = Placeholder.container.word ++ ':' :: ':' :: count) := by
  refine ⟨exists_expand_iff_names, ⟨?_, ?_⟩, ?_⟩
  · rintro hagree ⟨hexpands, hloose⟩
    exact hloose.not_inGrammar (hagree.1 hexpands)
  · intro hstrict
    constructor
    · intro hexpands kind argument hgroup
      obtain ⟨r, hnames | hloose⟩ := exists_expand_iff_names.1 hexpands kind argument hgroup
      · exact ⟨r, hnames⟩
      · exact absurd ⟨hexpands, _, r, hgroup, hloose⟩ hstrict
    · intro hgrammar
      refine exists_expand_iff_names.2 fun kind argument hgroup => ?_
      exact (hgrammar kind argument hgroup).imp fun _ => .inl
  · intro key value _ hvalue
    refine (standsFor_iff.1 (placeholder_eq_some_iff.1 hvalue)).imp_right ?_
    rintro ⟨r, hnames, rfl⟩
    exact ⟨r, hnames, rfl, name_eq_empty_iff hnames⟩

/-- A container without a service is accepted and inserted, and so is a signed index. -/
theorem nameless_container_expands :
    let nameless := "{container::1}"
    let signed := "{container:web:+1}"
    (standard.expand nameless "demo" = .ok "demo__1" ∧ ¬InGrammar nameless.toList) ∧
      standard.expand signed "demo" = .ok "demo_web_1" ∧ ¬InGrammar signed.toList := by
  intro nameless signed
  have one : IsPlain ['1'] := ⟨List.cons_ne_nil _ _, List.forall_mem_singleton.2 rfl⟩
  have web : "web".toList ≠ [] := by decide
  have hnameless : IsLoose nameless.toList :=
    ⟨"container::1".toList, .container "" 1, ⟨⟨by decide, by decide⟩, [], [], by decide⟩,
      .nameless (isCount_of_isPlain one (by decide)).1⟩
  have hsigned : IsLoose signed.toList :=
    ⟨"container:web:+1".toList, .container "web" 1, ⟨⟨by decide, by decide⟩, [], [], by decide⟩,
      .signed web (by decide) one (by decide)⟩
  exact ⟨⟨by decide +kernel, hnameless.not_inGrammar⟩, by decide +kernel, hsigned.not_inGrammar⟩

end NamingScheme
end ComposeHarness
