import ComposeHarness.Inspection
import Mathlib.Data.List.Perm.Basic
import Mathlib.Logic.Relation

/-!
# Objects that are as expected

An object has the labels and the mounts that are expected of it if it has each of them. Otherwise the
failure tells of every one that it lacks, in the order in which they are expected, and of no other.
What makes the object richer or the expectation weaker never turns a success into a failure.
-/
namespace ComposeHarness

/-- All offences of a list: one for each member of which the condition does not hold, in the order of
the list, and none for the others. -/
inductive Offences {α β : Type} (Holds : α → Prop) (Offends : α → β → Prop) :
    List α → List β → Prop where
  | nil : Offences Holds Offends [] []
  | holds {x : α} {xs : List α} {ys : List β} (h : Holds x) (rest : Offences Holds Offends xs ys) :
      Offences Holds Offends (x :: xs) ys
  | offends {x : α} {y : β} {xs : List α} {ys : List β} (h : ¬Holds x) (told : Offends x y)
      (rest : Offences Holds Offends xs ys) : Offences Holds Offends (x :: xs) (y :: ys)

section
variable {α β : Type} {Holds : α → Prop} {Offends : α → β → Prop} {xs : List α} {ys zs : List β}

theorem Offences.nil_iff (h : Offences Holds Offends xs ys) : ys = [] ↔ ∀ x ∈ xs, Holds x := by
  induction h with
  | nil => simp
  | holds hx _ ih => rw [ih, List.forall_mem_cons, and_iff_right hx]
  | offends hx => simp [hx]

/-- Where each member is told of in one way, there is one list of offences. -/
theorem Offences.unique (hunique : ∀ x y z, Offends x y → Offends x z → y = z)
    (hy : Offences Holds Offends xs ys) (hz : Offences Holds Offends xs zs) : ys = zs := by
  induction hy generalizing zs with
  | nil => cases hz; rfl
  | holds hx _ ih =>
    cases hz with
    | holds _ rest => exact ih rest
    | offends hn => exact absurd hx hn
  | offends hx told _ ih =>
    cases hz with
    | holds hx' => exact absurd hx' hx
    | offends _ told' rest => rw [hunique _ _ _ told told', ih rest]

/-- A verdict that fails exactly if there are offences, and then with something made of them all, is
settled by what holds of the list. -/
theorem Offences.verdict {ε : Type} {verdict : Except ε Unit} {tell : List β → ε}
    (h : Offences Holds Offends xs ys) (hunique : ∀ x y z, Offends x y → Offends x z → y = z)
    (hnone : ys = [] → verdict = .ok ()) (hsome : ys ≠ [] → verdict = .error (tell ys)) :
    (verdict = .ok () ↔ ∀ x ∈ xs, Holds x) ∧
      ∀ failure, verdict = .error failure ↔
        ∃ told, told ≠ [] ∧ Offences Holds Offends xs told ∧ failure = tell told := by
  rw [← h.nil_iff]
  by_cases hys : ys = []
  · have hverdict := hnone hys
    refine ⟨by simp [hverdict, hys], fun failure => ⟨fun he => ?_, ?_⟩⟩
    · rw [hverdict] at he
      cases he
    · rintro ⟨told, hne, htold, -⟩
      exact absurd ((h.unique hunique htold).symm.trans hys) hne
  · have hverdict := hsome hys
    refine ⟨by simp [hverdict, hys], fun failure => ⟨fun he => ?_, ?_⟩⟩
    · rw [hverdict] at he
      cases he
      exact ⟨ys, hys, h, rfl⟩
    · rintro ⟨told, -, htold, rfl⟩
      rw [hverdict, h.unique hunique htold]

/-- A check that gives nothing for what holds and an offence for what does not gives all offences. -/
theorem offences_filterMap {f : α → Option β} (hnone : ∀ x, f x = none ↔ Holds x)
    (hsome : ∀ x y, f x = some y → Offends x y) (xs : List α) :
    Offences Holds Offends xs (xs.filterMap f) := by
  induction xs with
  | nil => exact .nil
  | cons x xs ih =>
    cases hx : f x with
    | none =>
      rw [List.filterMap_cons_none hx]
      exact .holds ((hnone x).1 hx) ih
    | some y =>
      rw [List.filterMap_cons_some hx]
      exact .offends (mt (hnone x).2 (by simp [hx])) (hsome x y hx) ih

end

/-! ### Mounts -/

namespace Mount

/-- What an expected mount asks of an actual one: the same type and target, and the same source and
flag where it says something about them. An actual mount without the flag can be written to. -/
structure Meets (actual want : Mount) : Prop where
  type : actual.type = want.type
  target : actual.target = want.target
  source : ∀ s ∈ want.source, actual.source = some s
  readOnly : ∀ flag ∈ want.readOnly,
    actual.readOnly = some flag ∨ actual.readOnly = none ∧ flag = false

theorem satisfiedBy_iff {want actual : Mount} : want.satisfiedBy actual ↔ actual.Meets want := by
  have hflag : ∀ flag, actual.readOnly.getD false = flag ↔
      actual.readOnly = some flag ∨ actual.readOnly = none ∧ flag = false := by
    intro flag
    cases actual.readOnly <;> simp [eq_comm]
  have hsource : want.source.all (fun s => actual.source == some s) ↔
      ∀ s ∈ want.source, actual.source = some s := by
    cases want.source <;> simp
  have hreadOnly : want.readOnly.all (fun flag => actual.readOnly.getD false == flag) ↔
      ∀ flag ∈ want.readOnly,
        actual.readOnly = some flag ∨ actual.readOnly = none ∧ flag = false := by
    cases want.readOnly with
    | none => simp
    | some flag => simpa using hflag flag
  rw [satisfiedBy, Bool.and_eq_true, Bool.and_eq_true, Bool.and_eq_true, hsource, hreadOnly,
    beq_iff_eq, beq_iff_eq]
  constructor
  · rintro ⟨⟨⟨type, target⟩, source⟩, readOnly⟩
    exact ⟨type.symm, target.symm, source, readOnly⟩
  · rintro ⟨type, target, source, readOnly⟩
    exact ⟨⟨⟨type.symm, target.symm⟩, source⟩, readOnly⟩

theorem meets_self (m : Mount) : m.Meets m :=
  ⟨rfl, rfl, fun _ h => h, fun _ h => .inl h⟩

theorem Meets.unsetSource {actual want : Mount} (h : actual.Meets want) :
    actual.Meets { want with source := none } :=
  { h with source := nofun }

theorem Meets.unsetReadOnly {actual want : Mount} (h : actual.Meets want) :
    actual.Meets { want with readOnly := none } :=
  { h with readOnly := nofun }

/-- A type and a target as they are written for a mount, with the source between them if there is
one. -/
inductive Placed : Mount → String → Prop where
  | withoutSource {type target : String} {readOnly : Option Bool} :
      Placed ⟨type, none, target, readOnly⟩ (type ++ " " ++ target)
  | withSource {type source target : String} {readOnly : Option Bool} :
      Placed ⟨type, some source, target, readOnly⟩ (type ++ " " ++ source ++ ":" ++ target)

/-- How a mount is written in a failure: where it is, and a mark if it is known to be read-only. -/
inductive Written : Mount → String → Prop where
  | plain {m : Mount} {text : String} (h : m.readOnly ≠ some true) (placed : Placed m text) :
      Written m text
  | readOnly {m : Mount} {text : String} (h : m.readOnly = some true) (placed : Placed m text) :
      Written m (text ++ " (ro)")

/-- A mount is written in one way. -/
theorem written_iff {m : Mount} {text : String} : Written m text ↔ text = m.describe := by
  obtain ⟨type, source, target, readOnly⟩ := m
  constructor
  · intro h
    cases h with
    | plain h placed | readOnly h placed =>
      cases placed <;> simp_all [describe, String.append_assoc]
  · rintro rfl
    have placed : Placed ⟨type, source, target, readOnly⟩
        (describe ⟨type, source, target, none⟩) := by
      cases source with
      | none => simpa [describe] using Placed.withoutSource
      | some source => simpa [describe, String.append_assoc] using Placed.withSource
    by_cases h : readOnly = some true
    · simpa [describe, h] using Written.readOnly h placed
    · simpa [describe, h] using Written.plain h placed

theorem forall₂_written_iff {mounts : List Mount} {texts : List String} :
    List.Forall₂ Written mounts texts ↔ texts = mounts.map describe := by
  induction mounts generalizing texts with
  | nil => simp
  | cons m mounts ih => cases texts <;> simp [ih, written_iff]

/-- One of the mounts is as the expected one. -/
def MetIn (mounts : List Mount) (want : Mount) : Prop := ∃ m ∈ mounts, m.Meets want

/-- A change of the mounts that an object has, which stand first, or of those that are expected of
it, which makes the object richer, the expectation weaker, or only the order of either another. -/
inductive Eases : List Mount × List Mount → List Mount × List Mount → Prop where
  | addActual (before after expected : List Mount) (m : Mount) :
      Eases (before ++ after, expected) (before ++ m :: after, expected)
  | permuteActual {actual actual' : List Mount} (h : actual.Perm actual') (expected : List Mount) :
      Eases (actual, expected) (actual', expected)
  | permuteExpected (actual : List Mount) {expected expected' : List Mount}
      (h : expected.Perm expected') : Eases (actual, expected) (actual, expected')
  | dropExpected (actual before after : List Mount) (want : Mount) :
      Eases (actual, before ++ want :: after) (actual, before ++ after)
  | unsetSource (actual before after : List Mount) (want : Mount) :
      Eases (actual, before ++ want :: after)
        (actual, before ++ { want with source := none } :: after)
  | unsetReadOnly (actual before after : List Mount) (want : Mount) :
      Eases (actual, before ++ want :: after)
        (actual, before ++ { want with readOnly := none } :: after)

/-- All that is expected is met. -/
def AllMet (side : List Mount × List Mount) : Prop := ∀ want ∈ side.2, MetIn side.1 want

/-- An expected mount may say less. -/
theorem AllMet.weaken {actual before after : List Mount} {want want' : Mount}
    (h : AllMet (actual, before ++ want :: after))
    (hweaker : ∀ m : Mount, m.Meets want → m.Meets want') :
    AllMet (actual, before ++ want' :: after) := by
  obtain ⟨hbefore, ⟨m, hm, hmeets⟩, hafter⟩ := List.forall_mem_append.1 h |>.imp_right
    List.forall_mem_cons.1
  exact List.forall_mem_append.2
    ⟨hbefore, List.forall_mem_cons.2 ⟨⟨m, hm, hweaker m hmeets⟩, hafter⟩⟩

theorem AllMet.of_eases {a b : List Mount × List Mount} (h : Eases a b) (hmet : AllMet a) :
    AllMet b := by
  -- mounts that an object still has meet what they met
  have hactual : ∀ {actual actual' expected : List Mount}, actual ⊆ actual' →
      AllMet (actual, expected) → AllMet (actual', expected) := by
    intro actual actual' expected hsub hall want hwant
    obtain ⟨m, hm, hmeets⟩ := hall want hwant
    exact ⟨m, hsub hm, hmeets⟩
  cases h with
  | addActual before after _ m =>
    exact hactual ((List.sublist_cons_self m after).append_left before).subset hmet
  | permuteActual hperm => exact hactual hperm.subset hmet
  | permuteExpected _ hperm => exact fun want hwant => hmet want (hperm.mem_iff.2 hwant)
  | dropExpected _ before after want =>
    exact fun w hw => hmet w (((List.sublist_cons_self want after).append_left before).subset hw)
  | unsetSource => exact hmet.weaken fun _ => Meets.unsetSource
  | unsetReadOnly => exact hmet.weaken fun _ => Meets.unsetReadOnly

theorem AllMet.of_eased {a b : List Mount × List Mount} (h : Relation.ReflTransGen Eases a b)
    (hmet : AllMet a) : AllMet b := by
  induction h with
  | refl => exact hmet
  | tail _ last ih => exact ih.of_eases last

end Mount

namespace InspectedObject

/-- What is told of an expected mount that is not met. -/
inductive MountFault : Mount → String → Prop where
  | unmet {want : Mount} {text : String} (written : want.Written text) :
      MountFault want ("mount " ++ text)

theorem MountFault.unique (want : Mount) (y z : String) (hy : MountFault want y)
    (hz : MountFault want z) : y = z := by
  obtain ⟨hy⟩ := hy
  obtain ⟨hz⟩ := hz
  rw [Mount.written_iff.1 hy, Mount.written_iff.1 hz]

theorem offences_missingMounts (o : InspectedObject) (expected : List Mount) :
    Offences (Mount.MetIn o.mounts) MountFault expected
      ((o.missingMounts expected).map fun want => "mount " ++ want.describe) := by
  rw [missingMounts, ← List.filterMap_eq_filter, List.map_filterMap]
  refine offences_filterMap (fun want => ?_) (fun want told h => ?_) expected
  · rw [Option.map_eq_none_iff, Option.guard_eq_none_iff, Bool.not_eq_false', List.any_eq_true]
    simp only [Mount.MetIn, Mount.satisfiedBy_iff]
  · obtain ⟨unmet, hunmet, rfl⟩ := Option.map_eq_some_iff.1 h
    obtain rfl := (Option.guard_eq_some_iff.1 hunmet).1
    exact .unmet (Mount.written_iff.2 rfl)

theorem expectMounts_verdict (o : InspectedObject) (expected : List Mount) :
    (o.expectMounts expected = .ok () ↔ Mount.AllMet (o.mounts, expected)) ∧
      ∀ failure, o.expectMounts expected = .error failure ↔ ∃ problems, problems ≠ [] ∧
        Offences (Mount.MetIn o.mounts) MountFault expected problems ∧
        failure = .expectation (String.intercalate "; " problems) ("mounts of '" ++ o.name ++ "'")
          (String.intercalate "\n" (o.mounts.map Mount.describe)) := by
  refine (o.offences_missingMounts expected).verdict MountFault.unique
    (fun hnone => ?_) (fun hsome => ?_)
  · rw [expectMounts, List.map_eq_nil_iff.1 hnone]
  · unfold expectMounts
    split
    · next hnone => exact absurd (List.map_eq_nil_iff.2 hnone) hsome
    · rfl

/-- An object has the mounts that are expected of it exactly if each of them is met by one of its
own. If it has not, the failure names exactly those that are not met, in their order, each by its
type, its source, its target and whether it is read-only, and shows all mounts of the object. A
success stays one when mounts are added to the object, expected ones are dropped or say less, or
either list is put into another order; and every object has its own mounts. -/
theorem expectMounts_tells_unmet (o : InspectedObject) (expected : List Mount) :
    (o.expectMounts expected = .ok () ↔ ∀ want ∈ expected, ∃ m ∈ o.mounts, m.Meets want) ∧
    (∀ failure, o.expectMounts expected = .error failure ↔ ∃ problems shown, problems ≠ [] ∧
      Offences (fun want => ∃ m ∈ o.mounts, m.Meets want) MountFault expected problems ∧
      List.Forall₂ Mount.Written o.mounts shown ∧
      failure = .expectation (String.intercalate "; " problems) ("mounts of '" ++ o.name ++ "'")
        (String.intercalate "\n" shown)) ∧
    (∀ mounts expected',
      Relation.ReflTransGen Mount.Eases (o.mounts, expected) (mounts, expected') →
        o.expectMounts expected = .ok () → { o with mounts }.expectMounts expected' = .ok ()) ∧
    o.expectMounts o.mounts = .ok () := by
  obtain ⟨hok, herror⟩ := o.expectMounts_verdict expected
  refine ⟨hok, fun failure => ?_, ?_, ?_⟩
  · refine (herror failure).trans ⟨?_, ?_⟩
    · rintro ⟨problems, hne, hall, rfl⟩
      exact ⟨problems, _, hne, hall, Mount.forall₂_written_iff.2 rfl, rfl⟩
    · rintro ⟨problems, shown, hne, hall, hshown, rfl⟩
      rw [Mount.forall₂_written_iff.1 hshown]
      exact ⟨problems, hne, hall, rfl⟩
  · intro mounts expected' hchanges h
    exact (expectMounts_verdict _ _).1.2 ((hok.1 h).of_eased hchanges)
  · exact (expectMounts_verdict _ _).1.2 fun m hm => ⟨m, hm, m.meets_self⟩

/-- A web server with a volume that it may only read and one that it may write to. -/
def webServer : InspectedObject where
  name := "demo_web_1"
  labels := .ofList [("project", "demo"), ("service", "web")]
  mounts :=
    [⟨"volume", some "demo_static", "/usr/share/nginx/html", some true⟩,
      ⟨"volume", none, "/usr/src/app/node_modules", none⟩]

/-- The server still has what is expected when it gets one more mount, and when it does not matter
any more where the first of its mounts comes from. A bind mount in the place of its first one and a
third volume are told of if they are expected. -/
theorem webServer_expectMounts_eased :
    let expected : List Mount :=
      [⟨"volume", none, "/usr/src/app/node_modules", some false⟩,
        ⟨"volume", some "demo_static", "/usr/share/nginx/html", some true⟩]
    let mounts := ⟨"bind", some "/srv", "/srv", none⟩ :: webServer.mounts
    let expected' : List Mount :=
      [⟨"volume", none, "/usr/src/app/node_modules", some false⟩,
        ⟨"volume", none, "/usr/share/nginx/html", some true⟩]
    let lacking : List Mount :=
      [⟨"bind", none, "/usr/share/nginx/html", none⟩,
        ⟨"volume", none, "/usr/src/app/node_modules", none⟩,
        ⟨"volume", some "demo_media", "/media", some true⟩]
    Relation.ReflTransGen Mount.Eases (webServer.mounts, expected) (mounts, expected') ∧
      webServer.expectMounts expected = .ok () ∧
      { webServer with mounts }.expectMounts expected' = .ok () ∧
      webServer.expectMounts lacking = .error (.expectation
        "mount bind /usr/share/nginx/html; mount volume demo_media:/media (ro)"
        "mounts of 'demo_web_1'"
        "volume demo_static:/usr/share/nginx/html (ro)\nvolume /usr/src/app/node_modules") := by
  intro expected mounts expected' lacking
  have hchanges : Relation.ReflTransGen Mount.Eases (webServer.mounts, expected)
      (mounts, expected') :=
    .tail (.single (.addActual [] _ _ _)) (.unsetSource _ [_] [] _)
  have hmet : webServer.expectMounts expected = .ok () := by decide +kernel
  obtain ⟨-, -, heased, -⟩ := expectMounts_tells_unmet webServer expected
  obtain ⟨-, htold, -⟩ := expectMounts_tells_unmet webServer lacking
  have hunmet : ∀ want, webServer.mounts.any want.satisfiedBy = false →
      ¬∃ m ∈ webServer.mounts, m.Meets want := by
    simp [← Mount.satisfiedBy_iff]
  have hsecond : ∃ m ∈ webServer.mounts,
      m.Meets ⟨"volume", none, "/usr/src/app/node_modules", none⟩ :=
    ⟨_, List.mem_cons_of_mem _ List.mem_cons_self, Mount.satisfiedBy_iff.1 (by decide)⟩
  have hproblems : Offences (fun want => ∃ m ∈ webServer.mounts, m.Meets want) MountFault lacking
      _ :=
    .offends (hunmet _ (by decide +kernel)) (.unmet (.plain (by decide) .withoutSource))
      (.holds hsecond
        (.offends (hunmet _ (by decide +kernel)) (.unmet (.readOnly rfl .withSource)) .nil))
  have hshown : List.Forall₂ Mount.Written webServer.mounts _ :=
    .cons (.readOnly rfl .withSource) (.cons (.plain (by decide) .withoutSource) .nil)
  exact ⟨hchanges, hmet, heased mounts expected' hchanges hmet,
    (htold _).2 ⟨_, _, by simp, hproblems, hshown, by decide +kernel⟩⟩

/-! ### Labels -/

/-- The object has the label, and with the expected value if there is one. -/
def Carries (labels : Dict String) (entry : String × Option String) : Prop :=
  ∃ actual, labels.get? entry.1 = some actual ∧ ∀ want ∈ entry.2, actual = want

/-- What is told of an expected label that an object does not carry. -/
inductive LabelFault (labels : Dict String) : String × Option String → String → Prop where
  | missing {key : String} {want : Option String} (h : labels.get? key = none) :
      LabelFault labels (key, want) ("missing label " ++ Text.quoted key)
  | other {key actual want : String} (h : labels.get? key = some actual) (hne : actual ≠ want) :
      LabelFault labels (key, some want)
        ("label " ++ Text.quoted key ++ " is " ++ Text.quoted actual ++ ", expected " ++
          Text.quoted want)

theorem labelProblem_eq_none_iff {labels : Dict String} {entry : String × Option String} :
    labelProblem (labels.get? entry.1) entry.1 entry.2 = none ↔ Carries labels entry := by
  obtain ⟨key, want⟩ := entry
  simp only [Carries]
  cases labels.get? key <;> cases want <;> simp [labelProblem]

theorem LabelFault.of_labelProblem {labels : Dict String} {entry : String × Option String}
    {problem : String} (h : labelProblem (labels.get? entry.1) entry.1 entry.2 = some problem) :
    LabelFault labels entry problem := by
  obtain ⟨key, want⟩ := entry
  simp only at h
  cases hactual : labels.get? key with
  | none =>
    rw [hactual] at h
    cases h
    exact .missing hactual
  | some actual =>
    cases want with
    | none => simp [labelProblem, hactual] at h
    | some want =>
      simp only [labelProblem, hactual] at h
      split at h
      · cases h
      · next hne =>
        cases h
        exact .other hactual hne

theorem LabelFault.unique {labels : Dict String} (entry : String × Option String) (y z : String)
    (hy : LabelFault labels entry y) (hz : LabelFault labels entry z) : y = z := by
  cases hy with
  | missing hnone =>
    cases hz with
    | missing => rfl
    | other hsome => simp [hnone] at hsome
  | other hsome =>
    cases hz with
    | missing hnone => simp [hnone] at hsome
    | other hsome' =>
      obtain rfl := Option.some.inj (hsome.symm.trans hsome')
      rfl

/-- A change of the labels that an object has, which stand first, or of those that are expected of
it, which makes the object richer or the expectation weaker. -/
inductive EasesLabels :
    Dict String × Dict (Option String) → Dict String × Dict (Option String) → Prop where
  | addActual (actual : Dict String) (expected : Dict (Option String)) {key : String}
      (new : actual.get? key = none) (value : String) :
      EasesLabels (actual, expected) (actual.insert key value, expected)
  | dropExpected (actual : Dict String) (expected : Dict (Option String)) {key : String}
      (rest : expected.get? key = none) (want : Option String) :
      EasesLabels (actual, expected.insert key want) (actual, expected)
  | unsetValue (actual : Dict String) {expected : Dict (Option String)} {key value : String}
      (h : expected.get? key = some (some value)) :
      EasesLabels (actual, expected) (actual, expected.insert key none)

/-- The object carries all labels that are expected. -/
def CarriesAll (side : Dict String × Dict (Option String)) : Prop :=
  ∀ key want, side.2.get? key = some want → Carries side.1 (key, want)

theorem CarriesAll.of_eases {a b : Dict String × Dict (Option String)} (h : EasesLabels a b)
    (hall : CarriesAll a) : CarriesAll b := by
  intro key want hkey
  cases h with
  | addActual actual expected new value =>
    obtain ⟨found, hfound, hwant⟩ := hall key want hkey
    refine ⟨found, ?_, hwant⟩
    simp only [Dict.get?_insert]
    split
    · next heq => simp [heq ▸ hfound] at new
    · exact hfound
  | dropExpected actual expected rest dropped =>
    refine hall key want ?_
    simp only [Dict.get?_insert]
    split
    · next heq => simp [heq ▸ rest] at hkey
    · exact hkey
  | @unsetValue actual expected changed value hvalue =>
    simp only [Dict.get?_insert] at hkey
    split at hkey
    · next heq =>
      cases hkey
      obtain ⟨found, hfound, -⟩ := hall changed (some value) hvalue
      exact ⟨found, heq ▸ hfound, nofun⟩
    · exact hall key want hkey

theorem CarriesAll.of_eased {a b : Dict String × Dict (Option String)}
    (h : Relation.ReflTransGen EasesLabels a b) (hall : CarriesAll a) : CarriesAll b := by
  induction h with
  | refl => exact hall
  | tail _ last ih => exact ih.of_eases last

theorem offences_labelProblems (o : InspectedObject) (expected : Dict (Option String)) :
    Offences (Carries o.labels) (LabelFault o.labels) expected.entries
      (o.labelProblems expected) :=
  offences_filterMap (fun _ => labelProblem_eq_none_iff) (fun _ _ => LabelFault.of_labelProblem)
    expected.entries

theorem carriesAll_iff {labels : Dict String} {expected : Dict (Option String)} :
    CarriesAll (labels, expected) ↔ ∀ e ∈ expected.entries, Carries labels e := by
  simp only [CarriesAll, Dict.get?_eq_some_iff, Prod.forall]

theorem expectLabels_verdict (o : InspectedObject) (expected : Dict (Option String)) :
    (o.expectLabels expected = .ok () ↔ CarriesAll (o.labels, expected)) ∧
      ∀ failure, o.expectLabels expected = .error failure ↔ ∃ problems, problems ≠ [] ∧
        Offences (Carries o.labels) (LabelFault o.labels) expected.entries problems ∧
        failure = .expectation (String.intercalate "; " problems) ("labels of '" ++ o.name ++ "'")
          (describeLabels o.labels) := by
  rw [carriesAll_iff]
  refine (o.offences_labelProblems expected).verdict LabelFault.unique
    (fun hnone => ?_) (fun hsome => ?_)
  · rw [expectLabels, hnone]
  · unfold expectLabels
    split
    · next hnone => exact absurd hnone hsome
    · rfl

/-- An object has the labels that are expected of it exactly if it has every key, and with the
expected value where there is one. If it has not, the failure tells of each key that is missing or
has another value once, in the order of keys, and shows all labels of the object. A success stays one
when labels with new keys are added to the object, and when expected keys are dropped or lose their
value; and every object has its own labels. -/
theorem expectLabels_tells_faults (o : InspectedObject) (expected : Dict (Option String)) :
    (o.expectLabels expected = .ok () ↔ ∀ key want, expected.get? key = some want →
      ∃ actual, o.labels.get? key = some actual ∧ ∀ value ∈ want, actual = value) ∧
    (∀ failure, o.expectLabels expected = .error failure ↔ ∃ problems, problems ≠ [] ∧
      Offences (Carries o.labels) (LabelFault o.labels) expected.entries problems ∧
      failure = .expectation (String.intercalate "; " problems) ("labels of '" ++ o.name ++ "'")
        (String.intercalate "\n" (o.labels.entries.map fun (key, value) =>
          Text.quoted key ++ ": " ++ Text.quoted value))) ∧
    (∀ labels expected',
      Relation.ReflTransGen EasesLabels (o.labels, expected) (labels, expected') →
        o.expectLabels expected = .ok () → { o with labels }.expectLabels expected' = .ok ()) ∧
    o.expectLabels (o.labels.mapValues fun _ value => some value) = .ok () := by
  obtain ⟨hok, herror⟩ := o.expectLabels_verdict expected
  refine ⟨hok, herror, ?_, ?_⟩
  · intro labels expected' hchanges h
    exact (expectLabels_verdict _ _).1.2 ((hok.1 h).of_eased hchanges)
  · refine (expectLabels_verdict _ _).1.2 fun key want hwant => ?_
    obtain ⟨e, he, heq⟩ := List.mem_map.1 ((Dict.get?_eq_some_iff _).1 hwant)
    cases heq
    exact ⟨e.2, (Dict.get?_eq_some_iff _).2 he, fun _ h => Option.some.inj h⟩

/-- A worker has the label that is expected of it also with a second one, and whatever its value. -/
theorem worker_expectLabels_eased :
    let worker : InspectedObject := ⟨"demo_worker_1", .ofList [("service", "worker")], []⟩
    let expected : Dict (Option String) := .ofList [("service", some "worker")]
    let labels := worker.labels.insert "project" "demo"
    let expected' := expected.insert "service" none
    Relation.ReflTransGen EasesLabels (worker.labels, expected) (labels, expected') ∧
      worker.expectLabels expected = .ok () ∧
      { worker with labels }.expectLabels expected' = .ok () := by
  intro worker expected labels expected'
  have hchanges : Relation.ReflTransGen EasesLabels (worker.labels, expected)
      (labels, expected') :=
    .tail (.single (.addActual _ _ (by decide +kernel) _))
      (.unsetValue _ (by decide +kernel : expected.get? "service" = some (some "worker")))
  have hcarried : worker.expectLabels expected = .ok () := by decide +kernel
  obtain ⟨-, -, heased, -⟩ := expectLabels_tells_faults worker expected
  exact ⟨hchanges, hcarried, heased labels expected' hchanges hcarried⟩

end InspectedObject
end ComposeHarness
