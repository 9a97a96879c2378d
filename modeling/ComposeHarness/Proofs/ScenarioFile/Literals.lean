import ComposeHarness.Proofs.Related
import ComposeHarness.Proofs.ScenarioFile.Expansion
import ComposeHarness.Proofs.ScenarioFile.Patterns

/-!
# Texts that are used as they are written

The templates of an action are checked with its file and expanded when it is performed, so that
performing the action is performing what they expand to. Three texts are no templates although they
stand beside some: the key of a label, and the type and the target of a mount. These are neither
checked nor expanded.
-/
namespace ComposeHarness

variable {σ : Type}

/-! ### Malformed placeholders -/

/-- Some innermost group of the text is a malformed placeholder. -/
def HasMalformed (text : String) : Prop :=
  ∃ key failure, .group key ∈ NamingScheme.divide text.toList ∧ NamingScheme.Malformed key failure

/-- A text without malformed placeholders can be expanded, whatever the project and separator. -/
theorem exists_expand_iff (scheme : NamingScheme) (project text : String) :
    (∃ out, scheme.expand text project = .ok out) ↔ ¬HasMalformed text := by
  rw [NamingScheme.exists_expand_eq_ok_iff, HasMalformed]
  simp only [not_exists, not_and]

theorem checkPlaceholders_iff_not_hasMalformed {text : String} :
    checkPlaceholders text = .ok () ↔ ¬HasMalformed text := by
  rw [checkPlaceholders_eq_ok_iff .standard trialProject, exists_expand_iff]

/-! ### Dictionaries made of entries in order -/

namespace Dict

variable {α : Type}

/-- Entries with ascending keys win over those that a dictionary has. -/
theorem get?_foldl_insert {xs : List (String × α)} (sorted : xs.Pairwise fun a b => a.1 < b.1)
    (d : Dict α) (k : String) :
    (xs.foldl (fun d e => d.insert e.1 e.2) d).get? k = (find k xs).or (d.get? k) := by
  induction xs generalizing d with
  | nil => rfl
  | cons x xs ih =>
    obtain ⟨hx, hxs⟩ := List.pairwise_cons.1 sorted
    rw [List.foldl_cons, ih hxs, get?_insert]
    by_cases hk : k = x.1
    · have hnone : find k xs = none := find_eq_none_of_lt fun e he => hk ▸ hx e he
      simp [find, hk, hk ▸ hnone]
    · simp [find, hk, Ne.symm hk]

theorem ofList_entries (d : Dict α) : ofList d.entries = d := by
  apply ext_get?
  intro k
  rw [ofList, get?_foldl_insert d.sorted, get?_empty, Option.or_none]
  rfl

theorem entries_ofList {xs : List (String × α)} (sorted : xs.Pairwise fun a b => a.1 < b.1) :
    (ofList xs).entries = xs :=
  congrArg entries (ofList_entries ⟨xs, sorted⟩)

end Dict

/-! ### Operands of matchers -/

@[simp] theorem Matcher.operand_withOperand (m : Matcher) (text : String) :
    (m.withOperand text).operand = text := by
  cases m <;> rfl

@[simp] theorem Matcher.withOperand_withOperand (m : Matcher) (text other : String) :
    (m.withOperand text).withOperand other = m.withOperand other := by
  cases m <;> rfl

section
variable {f : String → Except Failure String}

theorem Matcher.mapOperand_eq_ok_iff {m m' : Matcher} :
    m.mapOperand f = .ok m' ↔ ∃ out, f m.operand = .ok out ∧ m.withOperand out = m' :=
  Sequence.map_eq_ok_iff

theorem Expectation.mapOperand_eq_ok_iff {e e' : Expectation} :
    e.mapOperand f = .ok e' ↔
      ∃ out, f e.matcher.operand = .ok out ∧
        { e with matcher := e.matcher.withOperand out } = e' := by
  have hmap : e.mapOperand f = .ok e' ↔
      ∃ m, e.matcher.mapOperand f = .ok m ∧ { e with matcher := m } = e' :=
    Sequence.map_eq_ok_iff
  simp only [hmap, Matcher.mapOperand_eq_ok_iff]
  constructor
  · rintro ⟨m, ⟨out, hout, rfl⟩, he⟩
    exact ⟨out, hout, he⟩
  · rintro ⟨out, hout, he⟩
    exact ⟨_, ⟨out, hout, rfl⟩, he⟩

end

namespace Action

/-! ### The texts of an action -/

/-- The texts of an action that are no templates: the keys of labels, and the types and targets of
mounts. -/
def literals : Action → List String
  | .run .. | .httpGet .. | .waitFor .. => []
  | .inspectLabels _ _ labels => labels.keys
  | .inspectMounts _ mounts => mounts.flatMap fun m => [m.type, m.target]

section
variable (f : String → Except Failure String)

/-- Changes a text that may be left out. -/
def changeOption : Option String → Except Failure (Option String)
  | some text => some <$> f text
  | none => .ok none

/-- Changes the value of a label and keeps its key. -/
def changeLabel (label : String × Option String) : Except Failure (String × Option String) :=
  (label.1, ·) <$> changeOption f label.2

/-- Changes the source of a mount and keeps its type and target. -/
def changeMount (m : Mount) : Except Failure Mount :=
  (fun source => { m with source }) <$> changeOption f m.source

/-- The action with its templates changed and its literals kept. -/
def changeTemplates : Action → Except Failure Action
  | .run arguments allowError exitCode expect => do
    let arguments ← arguments.mapM f
    let expect ← expect.mapM (·.mapOperand f)
    .ok (.run arguments allowError exitCode expect)
  | .httpGet url status timing expect => do
    let url ← f url
    let expect ← expect.mapM (·.mapOperand f)
    .ok (.httpGet url status timing expect)
  | .waitFor arguments expect timing => do
    let arguments ← arguments.mapM f
    let expect ← expect.mapOperand f
    .ok (.waitFor arguments expect timing)
  | .inspectLabels target kind labels => do
    let target ← f target
    let labels ← labels.entries.mapM (changeLabel f)
    .ok (.inspectLabels target kind (.ofList labels))
  | .inspectMounts target mounts => do
    let target ← f target
    let mounts ← mounts.mapM (changeMount f)
    .ok (.inspectMounts target mounts)

end

/-- Performs an action with all of its texts as they are written. -/
def performAsWritten (host : Host σ) (ctx : Context) (a : Action) : Act σ Unit :=
  a.performWith pure (fun x => x) host ctx

/-! ### Performing what an action expands to -/

section
variable {f : String → Except Failure String}

theorem mapM_ofExcept {α β : Type} {f : α → Except Failure β} {xs : List α} {ys : List β}
    (h : xs.mapM f = .ok ys) :
    (xs.mapM fun x => Act.ofExcept (f x) : Act σ (List β)) = pure ys := by
  rw [← Act.ofExcept_mapM, h]
  rfl

theorem mapM_pure_self {α : Type} (xs : List α) : (xs.mapM pure : Act σ (List α)) = pure xs := by
  simpa using List.mapM_pure (m := Act σ) (l := xs) (f := id)

theorem forM_congr_of_mapM {α β : Type} {f : α → Except Failure β} {xs : List α} {ys : List β}
    (h : xs.mapM f = .ok ys) {x : α → Act σ Unit} {y : β → Act σ Unit}
    (hxy : ∀ a b, f a = .ok b → x a = y b) : xs.forM x = ys.forM y := by
  have hall := Sequence.mapM_eq_ok_iff.1 h
  clear h
  induction hall with
  | nil => rfl
  | cons hab _ ih => simp only [List.forM, hxy _ _ hab, ih]

theorem expandOption_ofExcept (text : Option String) :
    (expandOption (fun t => Act.ofExcept (f t)) text : Act σ (Option String)) =
      Act.ofExcept (changeOption f text) := by
  cases text with
  | none => rfl
  | some text => exact (Act.ofExcept_map some (f text)).symm

theorem expandOption_pure (text : Option String) :
    (expandOption pure text : Act σ (Option String)) = pure text := by
  cases text <;> simp [expandOption]

theorem mapM_expandLabel {labels labels' : List (String × Option String)}
    (h : labels.mapM (changeLabel f) = .ok labels') :
    (labels.mapM fun e => (e.1, ·) <$> expandOption (fun t => Act.ofExcept (f t)) e.2 :
      Act σ (List (String × Option String))) = pure labels' := by
  simp only [expandOption_ofExcept, ← Act.ofExcept_map]
  exact mapM_ofExcept h

theorem mapM_expandMount {mounts mounts' : List Mount}
    (h : mounts.mapM (changeMount f) = .ok mounts') :
    (mounts.mapM fun m => (fun source => { m with source }) <$>
      expandOption (fun t => Act.ofExcept (f t)) m.source : Act σ (List Mount)) = pure mounts' := by
  simp only [expandOption_ofExcept, ← Act.ofExcept_map]
  exact mapM_ofExcept h

/-- Performing an action is performing the one that its templates expand to. -/
theorem perform_eq_performAsWritten (host : Host σ) {ctx : Context} {a b : Action}
    (h : a.changeTemplates ctx.expand = .ok b) :
    a.perform host ctx = b.performAsWritten host ctx := by
  rw [← performWith_eq_perform, performAsWritten]
  have hpure : ∀ {text out : String}, ctx.expand text = .ok out →
      (Act.ofExcept (ctx.expand text) : Act σ String) = pure out := fun h => by rw [h]; rfl
  cases a with
  | run arguments allowError exitCode expect =>
    obtain ⟨arguments', harguments, h⟩ := Sequence.bind_eq_ok_iff.1 h
    obtain ⟨expect', hexpect, h⟩ := Sequence.bind_eq_ok_iff.1 h
    cases h
    simp only [performWith, mapM_ofExcept harguments, mapM_pure_self, pure_bind]
    refine bind_congr fun r => bind_congr fun _ => ?_
    refine forM_congr_of_mapM hexpect fun e e' he => ?_
    obtain ⟨out, hout, rfl⟩ := Expectation.mapOperand_eq_ok_iff.1 he
    simp only [hpure hout, pure_bind, Matcher.operand_withOperand, Matcher.withOperand_withOperand]
  | httpGet url status timing expect =>
    obtain ⟨url', hurl, h⟩ := Sequence.bind_eq_ok_iff.1 h
    obtain ⟨expect', hexpect, h⟩ := Sequence.bind_eq_ok_iff.1 h
    cases h
    simp only [performWith, hpure hurl, pure_bind]
    refine bind_congr fun body => forM_congr_of_mapM hexpect fun m m' hm => ?_
    obtain ⟨out, hout, rfl⟩ := Matcher.mapOperand_eq_ok_iff.1 hm
    simp only [hpure hout, pure_bind, Matcher.operand_withOperand, Matcher.withOperand_withOperand]
  | waitFor arguments expect timing =>
    obtain ⟨arguments', harguments, h⟩ := Sequence.bind_eq_ok_iff.1 h
    obtain ⟨expect', hexpect, h⟩ := Sequence.bind_eq_ok_iff.1 h
    cases h
    obtain ⟨out, hout, rfl⟩ := Expectation.mapOperand_eq_ok_iff.1 hexpect
    simp only [performWith, mapM_ofExcept harguments, mapM_pure_self, hpure hout, pure_bind,
      Matcher.operand_withOperand, Matcher.withOperand_withOperand]
  | inspectLabels target kind labels =>
    obtain ⟨target', htarget, h⟩ := Sequence.bind_eq_ok_iff.1 h
    obtain ⟨labels', hlabels, h⟩ := Sequence.bind_eq_ok_iff.1 h
    cases h
    simp only [performWith, hpure htarget, mapM_expandLabel hlabels, expandOption_pure, map_pure,
      List.mapM_pure, List.map_id', pure_bind, Dict.ofList_entries]
  | inspectMounts target mounts =>
    obtain ⟨target', htarget, h⟩ := Sequence.bind_eq_ok_iff.1 h
    obtain ⟨mounts', hmounts, h⟩ := Sequence.bind_eq_ok_iff.1 h
    cases h
    simp only [performWith, hpure htarget, mapM_expandMount hmounts, expandOption_pure, map_pure,
      List.mapM_pure, List.map_id', pure_bind]

/-! ### The texts of the changed action -/

theorem forall₂_map {α : Type} {change : α → Except Failure α} {text : α → String}
    (hchange : ∀ x y, change x = .ok y → f (text x) = .ok (text y)) {xs ys : List α}
    (h : xs.mapM change = .ok ys) :
    List.Forall₂ (fun t out => f t = .ok out) (xs.map text) (ys.map text) := by
  rw [List.forall₂_map_left_iff, List.forall₂_map_right_iff]
  exact (Sequence.mapM_eq_ok_iff.1 h).imp hchange

theorem forall₂_filterMap {α : Type} {change : α → Except Failure α} {text : α → Option String}
    (hchange : ∀ x y, change x = .ok y → changeOption f (text x) = .ok (text y)) {xs ys : List α}
    (h : xs.mapM change = .ok ys) :
    List.Forall₂ (fun t out => f t = .ok out) (xs.filterMap text) (ys.filterMap text) := by
  have hall := Sequence.mapM_eq_ok_iff.1 h
  clear h
  induction hall with
  | nil => exact .nil
  | @cons x y xs ys hxy _ ih =>
    have htext := hchange x y hxy
    cases hx : text x with
    | none =>
      rw [hx] at htext
      have hy : text y = none := (Except.ok.inj htext).symm
      rwa [List.filterMap_cons_none hx, List.filterMap_cons_none hy]
    | some t =>
      rw [hx] at htext
      obtain ⟨out, hout, hy⟩ := Sequence.map_eq_ok_iff.1 htext
      rw [List.filterMap_cons_some hx, List.filterMap_cons_some hy.symm]
      exact .cons hout ih

theorem changeLabel_eq_ok {label label' : String × Option String}
    (h : changeLabel f label = .ok label') :
    label'.1 = label.1 ∧ changeOption f label.2 = .ok label'.2 := by
  obtain ⟨value, hvalue, rfl⟩ := Sequence.map_eq_ok_iff.1 h
  exact ⟨rfl, hvalue⟩

theorem changeMount_eq_ok {m m' : Mount} (h : changeMount f m = .ok m') :
    (m'.type = m.type ∧ m'.target = m.target) ∧ changeOption f m.source = .ok m'.source := by
  obtain ⟨source, hsource, rfl⟩ := Sequence.map_eq_ok_iff.1 h
  exact ⟨⟨rfl, rfl⟩, hsource⟩

/-- Changed labels keep their keys, so they are still in order. -/
theorem entries_changeLabel {labels : Dict (Option String)}
    {labels' : List (String × Option String)} (h : labels.entries.mapM (changeLabel f) = .ok labels') :
    (Dict.ofList labels').entries = labels' ∧ (Dict.ofList labels').keys = labels.keys := by
  have hkeys : labels'.map (·.1) = labels.entries.map (·.1) :=
    map_eq_map_of_forall₂ (Sequence.mapM_eq_ok_iff.1 h) fun _ _ h => (changeLabel_eq_ok h).1
  have hsorted : (labels'.map (·.1)).Pairwise (· < ·) := by
    rw [hkeys, List.pairwise_map]
    exact labels.sorted
  have hentries := Dict.entries_ofList (List.pairwise_map.1 hsorted)
  exact ⟨hentries, by rw [Dict.keys, hentries, hkeys, Dict.keys]⟩

/-- The templates of the changed action are what those of the action are changed to, and its
literals are the same. -/
theorem templates_of_changeTemplates {a b : Action} (h : a.changeTemplates f = .ok b) :
    a.templates.mapM f = .ok b.templates ∧ b.literals = a.literals := by
  rw [Sequence.mapM_eq_ok_iff]
  have hmatcher : ∀ m m' : Matcher, m.mapOperand f = .ok m' → f m.operand = .ok m'.operand := by
    intro m m' hm
    obtain ⟨out, hout, rfl⟩ := Matcher.mapOperand_eq_ok_iff.1 hm
    rwa [Matcher.operand_withOperand]
  have hexpect : ∀ e e' : Expectation,
      e.mapOperand f = .ok e' → f e.matcher.operand = .ok e'.matcher.operand := by
    intro e e' he
    obtain ⟨out, hout, rfl⟩ := Expectation.mapOperand_eq_ok_iff.1 he
    rwa [Matcher.operand_withOperand]
  cases a with
  | run arguments allowError exitCode expect =>
    obtain ⟨arguments', harguments, h⟩ := Sequence.bind_eq_ok_iff.1 h
    obtain ⟨expect', hexpect', h⟩ := Sequence.bind_eq_ok_iff.1 h
    cases h
    exact ⟨List.rel_append (Sequence.mapM_eq_ok_iff.1 harguments) (forall₂_map hexpect hexpect'),
      rfl⟩
  | httpGet url status timing expect =>
    obtain ⟨url', hurl, h⟩ := Sequence.bind_eq_ok_iff.1 h
    obtain ⟨expect', hexpect', h⟩ := Sequence.bind_eq_ok_iff.1 h
    cases h
    exact ⟨.cons hurl (forall₂_map hmatcher hexpect'), rfl⟩
  | waitFor arguments expect timing =>
    obtain ⟨arguments', harguments, h⟩ := Sequence.bind_eq_ok_iff.1 h
    obtain ⟨expect', hexpect', h⟩ := Sequence.bind_eq_ok_iff.1 h
    cases h
    exact ⟨List.rel_append (Sequence.mapM_eq_ok_iff.1 harguments)
      (.cons (hexpect _ _ hexpect') .nil), rfl⟩
  | inspectLabels target kind labels =>
    obtain ⟨target', htarget, h⟩ := Sequence.bind_eq_ok_iff.1 h
    obtain ⟨labels', hlabels, h⟩ := Sequence.bind_eq_ok_iff.1 h
    cases h
    obtain ⟨hentries, hkeys⟩ := entries_changeLabel hlabels
    simp only [templates, literals, hentries, hkeys, and_true]
    exact .cons htarget (forall₂_filterMap (fun _ _ h => (changeLabel_eq_ok h).2) hlabels)
  | inspectMounts target mounts =>
    obtain ⟨target', htarget, h⟩ := Sequence.bind_eq_ok_iff.1 h
    obtain ⟨mounts', hmounts, h⟩ := Sequence.bind_eq_ok_iff.1 h
    cases h
    have hkept : mounts'.map (fun m => [m.type, m.target]) =
        mounts.map fun m => [m.type, m.target] := by
      refine map_eq_map_of_forall₂ (Sequence.mapM_eq_ok_iff.1 hmounts) fun m m' hm => ?_
      obtain ⟨⟨htype, htarget⟩, -⟩ := changeMount_eq_ok hm
      rw [htype, htarget]
    simp only [templates, literals, List.flatMap_def, hkept, and_true]
    exact .cons htarget (forall₂_filterMap (fun _ _ h => (changeMount_eq_ok h).2) hmounts)

/-! ### When the templates can be changed -/

theorem exists_changeOption_iff {text : Option String} :
    (∃ out, changeOption f text = .ok out) ↔ ∀ t, text = some t → ∃ out, f t = .ok out := by
  cases text with
  | none => simp [changeOption]
  | some text => simp [changeOption, Sequence.map_eq_ok_iff]

theorem forall_mem_filterMap {α : Type} {xs : List α} {text : α → Option String}
    {P : String → Prop} :
    (∀ t ∈ xs.filterMap text, P t) ↔ ∀ x ∈ xs, ∀ t, text x = some t → P t := by
  simp only [List.mem_filterMap, forall_exists_index, and_imp]
  exact ⟨fun h x hx t ht => h t x hx ht, fun h t x hx ht => h x hx t ht⟩

/-- An action can be changed exactly if each of its templates can. -/
theorem exists_changeTemplates_iff {a : Action} :
    (∃ b, a.changeTemplates f = .ok b) ↔ ∀ text ∈ a.templates, ∃ out, f text = .ok out := by
  have hmatcher : ∀ m : Matcher, (∃ m', m.mapOperand f = .ok m') ↔ ∃ out, f m.operand = .ok out :=
    fun m => by simp [Matcher.mapOperand_eq_ok_iff]
  have hexpect : ∀ e : Expectation,
      (∃ e', e.mapOperand f = .ok e') ↔ ∃ out, f e.matcher.operand = .ok out :=
    fun e => by simp [Expectation.mapOperand_eq_ok_iff]
  have hlabel : ∀ label, (∃ out, changeLabel f label = .ok out) ↔
      ∀ t, label.2 = some t → ∃ out, f t = .ok out :=
    fun label => by simp [changeLabel, Sequence.map_eq_ok_iff, ← exists_changeOption_iff]
  have hmount : ∀ m, (∃ out, changeMount f m = .ok out) ↔
      ∀ t, m.source = some t → ∃ out, f t = .ok out :=
    fun m => by simp [changeMount, Sequence.map_eq_ok_iff, ← exists_changeOption_iff]
  cases a with
  | run arguments allowError exitCode expect =>
    simp only [changeTemplates, Sequence.exists_bind_eq_ok_iff, Except.ok.injEq, exists_eq',
      and_true, exists_and_right, Sequence.exists_mapM_eq_ok_iff, hexpect, templates,
      List.forall_mem_append, List.forall_mem_map]
  | httpGet url status timing expect =>
    simp only [changeTemplates, Sequence.exists_bind_eq_ok_iff, Except.ok.injEq, exists_eq',
      and_true, exists_and_right, Sequence.exists_mapM_eq_ok_iff, hmatcher, templates,
      List.forall_mem_cons, List.forall_mem_map]
  | waitFor arguments expect timing =>
    simp only [changeTemplates, Sequence.exists_bind_eq_ok_iff, Except.ok.injEq, exists_eq',
      and_true, exists_and_right, Sequence.exists_mapM_eq_ok_iff, hexpect, templates,
      List.forall_mem_append, List.forall_mem_singleton]
  | inspectLabels target kind labels =>
    simp only [changeTemplates, Sequence.exists_bind_eq_ok_iff, Except.ok.injEq, exists_eq',
      and_true, exists_and_right, Sequence.exists_mapM_eq_ok_iff, hlabel, templates,
      List.forall_mem_cons, forall_mem_filterMap]
  | inspectMounts target mounts =>
    simp only [changeTemplates, Sequence.exists_bind_eq_ok_iff, Except.ok.injEq, exists_eq',
      and_true, exists_and_right, Sequence.exists_mapM_eq_ok_iff, hmount, templates,
      List.forall_mem_cons, forall_mem_filterMap]

end

/-! ### What the check of an action looks at -/

/-- A command has something to be run with. -/
def HasArguments : Action → Prop
  | .run arguments .. | .waitFor arguments .. => arguments ≠ []
  | .httpGet .. | .inspectLabels .. | .inspectMounts .. => True

theorem checkArguments_eq_ok_iff {kind : String} {arguments : List String} :
    checkArguments kind arguments = .ok () ↔
      arguments ≠ [] ∧ ∀ text ∈ arguments, ¬HasMalformed text := by
  simp only [← checkPlaceholders_iff_not_hasMalformed]
  cases arguments with
  | nil => simp [checkArguments]
  | cons first rest => simp only [checkArguments, List.isEmpty_cons, Bool.false_eq_true, if_false,
      Sequence.forM_eq_ok_iff, ne_eq, List.cons_ne_nil, not_false_eq_true, true_and]

theorem matcher_validate_eq_ok_iff {m : Matcher} :
    m.validate = .ok () ↔ ¬HasMalformed m.operand ∧ m.checkPattern = .ok () := by
  rw [Matcher.validate, Sequence.seq_eq_ok_iff, checkPlaceholders_iff_not_hasMalformed]

/-- An action is accepted exactly if it has the arguments that it needs, no template of it has a
malformed placeholder, and its patterns compile. -/
theorem validate_eq_ok_iff {a : Action} :
    a.validate = .ok () ↔ a.HasArguments ∧ (∀ text ∈ a.templates, ¬HasMalformed text) ∧
      ∀ m ∈ a.matchers, m.checkPattern = .ok () := by
  cases a with
  | run arguments allowError exitCode expect =>
    simp only [validate, Sequence.seq_eq_ok_iff, checkArguments_eq_ok_iff, Sequence.forM_eq_ok_iff,
      matcher_validate_eq_ok_iff, forall_and, HasArguments, templates, matchers,
      List.forall_mem_append, List.forall_mem_map, and_assoc]
  | httpGet url status timing expect =>
    simp only [validate, Sequence.seq_eq_ok_iff, checkPlaceholders_iff_not_hasMalformed,
      Sequence.forM_eq_ok_iff, matcher_validate_eq_ok_iff, forall_and, HasArguments, templates,
      matchers, List.forall_mem_cons, List.forall_mem_map, and_assoc, true_and]
  | waitFor arguments expect timing =>
    simp only [validate, Sequence.seq_eq_ok_iff, checkArguments_eq_ok_iff,
      matcher_validate_eq_ok_iff, HasArguments, templates, matchers, List.forall_mem_append,
      List.forall_mem_singleton, and_assoc]
  | inspectLabels target kind labels =>
    simp only [validate, Sequence.seq_eq_ok_iff, checkPlaceholders_iff_not_hasMalformed,
      Sequence.forM_eq_ok_iff, HasArguments, templates, matchers, List.forall_mem_cons,
      List.not_mem_nil, false_imp_iff, implies_true, and_true, true_and]
  | inspectMounts target mounts =>
    simp only [validate, Sequence.seq_eq_ok_iff, checkPlaceholders_iff_not_hasMalformed,
      Sequence.forM_eq_ok_iff, HasArguments, templates, matchers, List.forall_mem_cons,
      List.not_mem_nil, false_imp_iff, implies_true, and_true, true_and]

/-- What is expanded and what is not, for every action. It can be performed without a failed
expansion exactly if none of its templates has a malformed placeholder, and performing it is then
performing what its templates expand to, with its literals as they are written. So all of its texts
are used in expanded form exactly if each literal expands to itself. The check of the action looks
for malformed placeholders in the same templates, and a file with one of them is not accepted. -/
theorem templates_expand_and_literals_stay (host : Host σ) (ctx : Context) (a : Action) :
    ((∃ b, a.changeTemplates ctx.expand = .ok b) ↔ ∀ text ∈ a.templates, ¬HasMalformed text) ∧
    (∀ b, a.changeTemplates ctx.expand = .ok b →
      a.perform host ctx = b.performAsWritten host ctx ∧
        a.templates.mapM ctx.expand = .ok b.templates ∧ b.literals = a.literals ∧
        (a.literals.mapM ctx.expand = .ok b.literals ↔
          ∀ text ∈ a.literals, ctx.expand text = .ok text)) ∧
    (a.validate = .ok () ↔ a.HasArguments ∧ (∀ text ∈ a.templates, ¬HasMalformed text) ∧
      ∀ m ∈ a.matchers, m.checkPattern = .ok ()) ∧
    ∀ (f : ScenarioFile) (d : StepDefinition), d ∈ f.definitions → a ∈ d.actions →
      (∃ text ∈ a.templates, HasMalformed text) → f.validate ≠ .ok () := by
  have hexpands : (∃ b, a.changeTemplates ctx.expand = .ok b) ↔
      ∀ text ∈ a.templates, ¬HasMalformed text := by
    simp only [exists_changeTemplates_iff, ← exists_expand_iff ctx.naming ctx.project.text]
    rfl
  refine ⟨hexpands, fun b h => ?_, validate_eq_ok_iff, ?_⟩
  · obtain ⟨htemplates, hliterals⟩ := templates_of_changeTemplates h
    refine ⟨perform_eq_performAsWritten host h, htemplates, hliterals, ?_⟩
    rw [hliterals, Sequence.mapM_eq_ok_iff, List.forall₂_same]
  · rintro f d hd ha ⟨text, htext, hmalformed⟩ hvalid
    obtain ⟨-, hwell, -⟩ := validate_eq_ok_iff.1 (ScenarioFile.validate_of_mem hvalid hd ha)
    exact hwell text htext hmalformed

end Action

/-- A host on which every command prints one container with a volume at some place. -/
def volumeHost (place : String) : Host Unit where
  __ := silentHost
  spawn _ :=
    let listing := "[\x7b\"HostConfig\":\x7b\"Mounts\":[\x7b\"Type\":\"volume\",\"Target\":\"" ++
      place ++ "\"\x7d]\x7d\x7d]"
    pure (.ok ⟨.code 0, [⟨.stdout, listing.toUTF8.toList⟩]⟩)

/-- A look at the volume that a container has at some place. -/
def volumeAt (place : String) : Action :=
  .inspectMounts "{container:web}" [⟨"volume", none, place, none⟩]

/-- A file with a malformed placeholder in the key of a label and in the type and the target of a
mount. -/
def mislaid : ScenarioFile where
  name := "mislaid"
  steps := [⟨"look", false, [
    .inspectLabels "web" .container (.ofList [("{network:}", none)]),
    .inspectMounts "web" [⟨"{image:}", none, "{volume:}", none⟩]]⟩]

def demoContext : Context := ⟨"demo", .ofBinary ⟨"docker"⟩, ⟨"demo"⟩, ⟨'-'⟩, .standard⟩

/-- A file is accepted with malformed placeholders in literals. A target with a placeholder is not
found although the mount is at the place that it expands to. -/
theorem literals_are_no_templates :
    (∀ text ∈ ["{network:}", "{image:}", "{volume:}"],
      HasMalformed text ∧ text ∈ mislaid.steps.flatMap fun d => d.actions.flatMap Action.literals) ∧
    mislaid.validate = .ok () ∧
    demoContext.expand "/{project}" = .ok "/demo" ∧
    (((volumeAt "/{project}").perform (volumeHost "/demo") demoContext).run.run .zero ()).value ≠
      .ok () ∧
    (((volumeAt "/demo").perform (volumeHost "/demo") demoContext).run.run .zero ()).value =
      .ok () := by
  have hmalformed : ∀ text, checkPlaceholders text ≠ .ok () → HasMalformed text :=
    fun text h => not_not.1 (checkPlaceholders_iff_not_hasMalformed.not.1 h)
  refine ⟨?_, by decide +kernel, by decide +kernel, by decide +kernel, by decide +kernel⟩
  simp only [List.forall_mem_cons]
  exact ⟨⟨hmalformed _ (by decide +kernel), by decide +kernel⟩,
    ⟨hmalformed _ (by decide +kernel), by decide +kernel⟩,
    ⟨hmalformed _ (by decide +kernel), by decide +kernel⟩, by simp⟩

end ComposeHarness
