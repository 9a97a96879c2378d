import ComposeHarness.Naming

/-!
# What a placeholder stands for

The text between two braces is read by rules on its shape: some shapes stand for the project or for
a name derived from it, some are malformed placeholders, and all others are literal text.
-/
namespace ComposeHarness.NamingScheme

/-- The text of a 32-bit count: decimal digits with an optional plus sign before them. -/
def IsCount (text : List Char) (n : Nat) : Prop :=
  ∃ digits, (text = digits ∨ text = '+' :: digits) ∧ digits ≠ [] ∧ (∀ c ∈ digits, c.isDigit) ∧
    Nat.ofDigitChars 10 digits 0 = n ∧ n < Nat.pow 2 32

theorem index?_eq_some_iff {text : List Char} {n : Nat} :
    index? text = some n ↔ IsCount text n := by
  have hplus : ¬('+').isDigit := by decide
  unfold index?
  rw [Option.filter_eq_some_iff]
  simp only [Text.numeral?_ten_eq_some_iff, decide_eq_true_eq]
  constructor
  · rintro ⟨⟨hne, hd, hn⟩, hlt⟩
    refine ⟨_, ?_, hne, hd, hn, hlt⟩
    split
    · exact .inr rfl
    · exact .inl rfl
  · rintro ⟨digits, rfl | rfl, hne, hd, hn, hlt⟩
    · split
      · exact absurd (hd '+' (by simp)) hplus
      · exact ⟨⟨hne, hd, hn⟩, hlt⟩
    · exact ⟨⟨hne, hd, hn⟩, hlt⟩

/-- The word that names a kind of placeholder. -/
def Placeholder.word : Placeholder → List Char
  | .container => "container".toList
  | .network => "network".toList
  | .volume => "volume".toList
  | .image => "image".toList

theorem Placeholder.ofKey?_word (kind : Placeholder) : ofKey? kind.word = some kind := by
  cases kind <;> decide

theorem Placeholder.word_of_ofKey? {key : List Char} {kind : Placeholder}
    (h : ofKey? key = some kind) : key = kind.word := by
  unfold ofKey? at h
  split at h
  · next hk => cases h; exact hk
  · split at h
    · next hk => cases h; exact hk
    · split at h
      · next hk => cases h; exact hk
      · split at h
        · next hk => cases h; exact hk
        · cases h

theorem Placeholder.colon_not_mem_word (kind : Placeholder) : ':' ∉ kind.word := by
  cases kind <;> decide

/-- What the text between two braces stands for. -/
inductive StandsFor (scheme : NamingScheme) (project : String) : List Char → String → Prop where
  | project : StandsFor scheme project "project".toList project
  /-- A network, volume or image. -/
  | resource {kind : Placeholder} {name : List Char} (h : kind ≠ .container) (named : name ≠ []) :
      StandsFor scheme project (kind.word ++ ':' :: name)
        (project ++ scheme.separator.toString ++ String.ofList name)
  | container {service : List Char} (named : service ≠ []) (whole : ':' ∉ service) :
      StandsFor scheme project (Placeholder.container.word ++ ':' :: service)
        (scheme.containerName project (String.ofList service) 1)
  /-- A container with its index, split at the first colon after the kind. -/
  | indexed {service index : List Char} {n : Nat} (first : ':' ∉ service)
      (h : IsCount index n) :
      StandsFor scheme project (Placeholder.container.word ++ ':' :: (service ++ ':' :: index))
        (scheme.containerName project (String.ofList service) n)

/-- What is wrong with the text between two braces, if it is of one of the four kinds. -/
inductive Malformed : List Char → Failure → Prop where
  | nameless (kind : Placeholder) :
      Malformed (kind.word ++ [':'])
        (.config ("placeholder " ++ braced (kind.word ++ [':']) ++ " is missing a name"))
  | badIndex {service index : List Char} (first : ':' ∉ service)
      (h : ∀ n, ¬IsCount index n) :
      Malformed (Placeholder.container.word ++ ':' :: (service ++ ':' :: index))
        (.config ("placeholder " ++
          braced (Placeholder.container.word ++ ':' :: (service ++ ':' :: index)) ++
          " has an invalid index"))

variable {scheme : NamingScheme} {project : String} {key : List Char}

theorem word_append_ne_project (kind : Placeholder) (argument : List Char) :
    kind.word ++ ':' :: argument ≠ "project".toList := by
  intro h
  have hmem : ':' ∈ "project".toList := h ▸ by simp
  exact absurd hmem (by decide)

theorem placeholder_of_standsFor {value : String} (h : StandsFor scheme project key value) :
    placeholder scheme project key = .ok (some value) := by
  cases h with
  | project => rfl
  | @resource kind name hkind named =>
    rw [placeholder, if_neg (word_append_ne_project kind name),
      cut_of_not_mem kind.colon_not_mem_word]
    cases kind with
    | container => exact absurd rfl hkind
    | network | volume | image => simp [Placeholder.ofKey?_word, named]; rfl
  | @container service named whole =>
    rw [placeholder, if_neg (word_append_ne_project _ _),
      cut_of_not_mem (Placeholder.colon_not_mem_word _)]
    simp [Placeholder.ofKey?_word, named, cut_eq_none_iff.2 whole]
  | @indexed service index n first hn =>
    rw [placeholder, if_neg (word_append_ne_project _ _),
      cut_of_not_mem (Placeholder.colon_not_mem_word _)]
    simp [Placeholder.ofKey?_word, cut_of_not_mem first, index?_eq_some_iff.2 hn]

theorem placeholder_of_malformed {failure : Failure} (h : Malformed key failure) :
    placeholder scheme project key = .error failure := by
  cases h with
  | nameless kind =>
    rw [placeholder, if_neg (word_append_ne_project kind []),
      cut_of_not_mem kind.colon_not_mem_word]
    simp [Placeholder.ofKey?_word]
  | @badIndex service index first hn =>
    have hindex : index? index = none :=
      Option.eq_none_iff_forall_ne_some.2 fun n h => hn n (index?_eq_some_iff.1 h)
    rw [placeholder, if_neg (word_append_ne_project _ _),
      cut_of_not_mem (Placeholder.colon_not_mem_word _)]
    simp [Placeholder.ofKey?_word, cut_of_not_mem first, hindex]

/-- A key of one of the four kinds stands for something or is malformed. -/
theorem standsFor_or_malformed (scheme : NamingScheme) (project : String) (kind : Placeholder)
    (argument : List Char) :
    (∃ value, StandsFor scheme project (kind.word ++ ':' :: argument) value) ∨
      ∃ failure, Malformed (kind.word ++ ':' :: argument) failure := by
  by_cases named : argument = []
  · subst named
    exact .inr ⟨_, .nameless kind⟩
  by_cases hkind : kind = .container
  · subst hkind
    cases hcut : cut ':' argument with
    | none => exact .inl ⟨_, .container named (cut_eq_none_iff.1 hcut)⟩
    | some parts =>
      obtain ⟨service, index⟩ := parts
      obtain ⟨rfl, first⟩ := cut_eq_some_iff.1 hcut
      by_cases hn : ∃ n, IsCount index n
      · obtain ⟨n, hn⟩ := hn
        exact .inl ⟨_, .indexed first hn⟩
      · exact .inr ⟨_, .badIndex first (not_exists.1 hn)⟩
  · exact .inl ⟨_, .resource hkind named⟩

/-- A key that is neither the project nor of one of the four kinds is literal. -/
theorem placeholder_eq_none (hproject : key ≠ "project".toList)
    (hkind : ∀ (kind : Placeholder) argument, key ≠ kind.word ++ ':' :: argument) :
    placeholder scheme project key = .ok none := by
  rw [placeholder, if_neg hproject]
  split
  · rfl
  · next word argument hcut =>
    split
    · rfl
    · next kind hk =>
      have hkey := cut_append hcut
      rw [Placeholder.word_of_ofKey? hk] at hkey
      exact absurd hkey (hkind kind argument)

/-- Each key stands for something, is malformed or is literal. -/
theorem placeholder_cases (scheme : NamingScheme) (project : String) (key : List Char) :
    (∃ value, StandsFor scheme project key value) ∨ (∃ failure, Malformed key failure) ∨
      placeholder scheme project key = .ok none := by
  by_cases hproject : key = "project".toList
  · exact .inl ⟨project, hproject ▸ .project⟩
  by_cases hkind : ∃ (kind : Placeholder) (argument : List Char), key = kind.word ++ ':' :: argument
  · obtain ⟨kind, argument, rfl⟩ := hkind
    exact (standsFor_or_malformed scheme project kind argument).imp_right .inl
  · refine .inr (.inr (placeholder_eq_none hproject fun kind argument h => ?_))
    exact hkind ⟨kind, argument, h⟩

theorem placeholder_eq_some_iff {value : String} :
    placeholder scheme project key = .ok (some value) ↔ StandsFor scheme project key value := by
  refine ⟨fun h => ?_, placeholder_of_standsFor⟩
  obtain ⟨other, hs⟩ | ⟨failure, hm⟩ | hn := placeholder_cases scheme project key
  · cases h.symm.trans (placeholder_of_standsFor hs)
    exact hs
  · cases h.symm.trans (placeholder_of_malformed hm)
  · cases h.symm.trans hn

theorem placeholder_eq_error_iff {failure : Failure} :
    placeholder scheme project key = .error failure ↔ Malformed key failure := by
  refine ⟨fun h => ?_, placeholder_of_malformed⟩
  obtain ⟨value, hs⟩ | ⟨other, hm⟩ | hn := placeholder_cases scheme project key
  · cases h.symm.trans (placeholder_of_standsFor hs)
  · cases h.symm.trans (placeholder_of_malformed hm)
    exact hm
  · cases h.symm.trans hn

end ComposeHarness.NamingScheme
