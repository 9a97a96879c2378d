import ComposeHarness.Proofs.Data.Fields
import ComposeHarness.Proofs.Related
import ComposeHarness.ScenarioFile.Validation

/-!
# Members that are passed over

What of the text of a scenario file is used. A file and its steps are refused if a key of theirs is
not known. The members of an action that are no fields of its kind are passed over, and of an
expectation only the stream and the first matcher count; nothing tells of the others.
-/
namespace ComposeHarness

open Data (Source Content Key Exact)

/-! ### Matchers -/

namespace Matcher

/-- The key names a matcher. -/
def isKey : Key → Bool
  | .name s => (choices.lookup s).isSome
  | .index _ => false

/-- The number of the matcher with a key. -/
def number (key : Key) : Option Nat := Source.variantIndex (choices.map (·.1)) key

/-- Content with one member, whose key is that of the matcher. -/
def WrittenAs (m : Matcher) (c : Content) : Prop :=
  ∃ k key, c = .map [(k, .text m.operand)] ∧ k.key = .ok key ∧ number key = number (.name m.key)

theorem choices_getElem? {i : Nat} {name : String} {make : String → Matcher}
    (h : choices[i]? = some (name, make)) (operand : String) :
    (make operand).key = name ∧ (make operand).operand = operand ∧
      number (.name name) = some i := by
  rcases i with _ | _ | _ | _ | i
  all_goals cases h
  all_goals exact ⟨rfl, rfl, rfl⟩

theorem exists_choice (m : Matcher) : ∃ i make, number (.name m.key) = some i ∧
    choices[i]? = some (m.key, make) ∧ make m.operand = m := by
  cases m with
  | contains s => exact ⟨0, .contains, rfl, rfl, rfl⟩
  | notContains s => exact ⟨1, .notContains, rfl, rfl, rfl⟩
  | equals s => exact ⟨2, .equals, rfl, rfl, rfl⟩
  | pattern s => exact ⟨3, .pattern, rfl, rfl, rfl⟩

theorem lookup_choices {name : String} {make : String → Matcher}
    (h : choices.lookup name = some make) (operand : String) :
    (make operand).key = name ∧ (make operand).operand = operand := by
  have hmem : (name, make) ∈ choices := by
    obtain ⟨before, after, hsplit, -⟩ := List.lookup_eq_some_iff.1 h
    rw [hsplit]
    exact List.mem_append_right _ List.mem_cons_self
  obtain ⟨i, hi⟩ := List.getElem?_of_mem hmem
  obtain ⟨hkey, hoperand, -⟩ := choices_getElem? hi operand
  exact ⟨hkey, hoperand⟩

theorem exists_lookup (m : Matcher) :
    ∃ make, choices.lookup m.key = some make ∧ make m.operand = m := by
  cases m with
  | contains s => exact ⟨.contains, rfl, rfl⟩
  | notContains s => exact ⟨.notContains, rfl, rfl⟩
  | equals s => exact ⟨.equals, rfl, rfl⟩
  | pattern s => exact ⟨.pattern, rfl, rfl⟩

/-- A bare matcher has one member and no others. -/
theorem decode_eq_ok_iff {c : Content} {m : Matcher} :
    decode Content.source c = .ok m ↔ m.WrittenAs c := by
  rw [decode, Source.readTextVariant_eq_ok_iff]
  constructor
  · rintro ⟨key, w, name, make, operand, hvariant, hchoice, hoperand, rfl⟩
    obtain ⟨k, rfl, hkey⟩ := Content.variant_eq_ok_iff.1 hvariant
    obtain ⟨i, hi, hmake⟩ := Option.bind_eq_some_iff.1 hchoice
    obtain ⟨hname, hm, hnumber⟩ := choices_getElem? hmake operand
    refine ⟨k, key, ?_, hkey, ?_⟩
    · rw [hm, Content.text_eq_ok_iff.1 hoperand]
    · rw [hname, hnumber]
      exact hi
  · rintro ⟨k, key, rfl, hkey, hnumber⟩
    obtain ⟨i, make, hi, hmake, hm⟩ := exists_choice m
    refine ⟨key, _, m.key, make, m.operand, Content.variant_eq_ok_iff.2 ⟨k, rfl, hkey⟩, ?_, rfl, hm⟩
    exact Option.bind_eq_some_iff.2 ⟨i, hnumber.trans hi, hmake⟩

end Matcher

/-! ### Expectations -/

namespace Expectation

/-- The contents that are written for the stream. -/
def streams (members : List (Key × Content)) : List Content :=
  (members.filter fun e => decide (e.1 = .name "stream")).map (·.2)

/-- The members with names that may be those of matchers. -/
def others (members : List (Key × Content)) : List (String × Content) :=
  members.filterMap fun e =>
    match e.1 with
    | .name s => if s = "stream" then none else some (s, e.2)
    | .index _ => none

/-- Content from which the expectation is read. Its matcher is the first one that is named, and its
stream the only one that is written, if there is one; no other member matters. -/
structure WrittenAs (e : Expectation) (c : Content) (members : List (Key × Content)) : Prop where
  record : Content.source.record c = .ok (.named members)
  matcher : members.find? (fun x => Matcher.isKey x.1) =
    some (.name e.matcher.key, .text e.matcher.operand)
  stream : ∃ stream : Option Stream,
    (streams members).mapM (Stream.decode Content.source) = .ok stream.toList ∧
      e.stream = stream.getD .combined

section
variable {k v : Content} {key : Key} {n : Nat} {entries : List (Content × Content)}

theorem exists_namedFields_cons (hkey : k.key = .ok key) {P : List (Key × Content) → Prop} :
    (∃ members, Content.namedFields ((k, v) :: entries) = .ok members ∧ P members) ↔
      ∃ members, Content.namedFields entries = .ok members ∧ P ((key, v) :: members) := by
  constructor
  · rintro ⟨members, hmembers, h⟩
    obtain ⟨key', more, hkey', hmore, rfl⟩ := Content.namedFields_cons_eq_ok hmembers
    obtain rfl : key = key' := Except.ok.inj (hkey.symm.trans hkey')
    exact ⟨more, hmore, h⟩
  · rintro ⟨members, hmembers, h⟩
    refine ⟨_, ?_, h⟩
    rw [Content.namedFields, hkey, hmembers]
    rfl

theorem splitMembers_index (hkey : k.key = .ok (.index n)) :
    splitMembers Content.source ((k, v) :: entries) = splitMembers Content.source entries := by
  have hread : Content.source.key k = .ok (.index n) := hkey
  rw [splitMembers, hread]
  rfl

end

section
variable {ν : Type} {src : Source ν} {k v : ν} {entries : List (ν × ν)} {stream : Option Stream}
  {found : List (String × Content)}

theorem splitMembers_stream_eq_ok_iff (hkey : src.key k = .ok (.name "stream")) :
    splitMembers src ((k, v) :: entries) = .ok (stream, found) ↔
      ∃ s, Stream.decode src v = .ok s ∧ stream = some s ∧
        splitMembers src entries = .ok (none, found) := by
  simp only [splitMembers, hkey, Sequence.bind_eq_ok_iff, Except.ok.injEq, exists_eq_left',
    if_true]
  constructor
  · rintro ⟨s, hs, ⟨other, members⟩, hrest, h⟩
    cases other with
    | none =>
      cases h
      exact ⟨s, hs, rfl, hrest⟩
    | some _ => cases h
  · rintro ⟨s, hs, rfl, hrest⟩
    exact ⟨s, hs, _, hrest, rfl⟩

theorem splitMembers_name_eq_ok_iff {s : String} (hkey : src.key k = .ok (.name s))
    (hs : s ≠ "stream") :
    splitMembers src ((k, v) :: entries) = .ok (stream, found) ↔
      ∃ c more, src.content v = .ok c ∧ splitMembers src entries = .ok (stream, more) ∧
        (s, c) :: more = found := by
  simp only [splitMembers, hkey, Sequence.bind_eq_ok_iff, Except.ok.injEq, exists_eq_left',
    if_neg hs]
  constructor
  · rintro ⟨c, hc, ⟨other, more⟩, hrest, h⟩
    cases h
    exact ⟨c, more, hc, hrest, rfl⟩
  · rintro ⟨c, more, hc, hrest, rfl⟩
    exact ⟨c, hc, _, hrest, rfl⟩

end

section
variable {entries : List (Content × Content)} {stream : Option Stream}
  {found : List (String × Content)}

/-- What is read of the members one by one is the stream, of which there may be one, and the members
that may be matchers. -/
theorem splitMembers_eq_ok_iff :
    splitMembers Content.source entries = .ok (stream, found) ↔
      ∃ members, Content.namedFields entries = .ok members ∧
        (streams members).mapM (Stream.decode Content.source) = .ok stream.toList ∧
        others members = found := by
  induction entries generalizing stream found with
  | nil =>
    cases stream <;> simp [splitMembers, Content.namedFields, streams, others, pure, Except.pure]
  | cons e entries ih =>
    obtain ⟨k, v⟩ := e
    cases hkey : k.key with
    | error reason =>
      have hsplit : splitMembers Content.source ((k, v) :: entries) = .error reason := by
        have hread : Content.source.key k = .error reason := hkey
        rw [splitMembers, hread]
        rfl
      have hnamed : Content.namedFields ((k, v) :: entries) = .error reason := by
        rw [Content.namedFields, hkey]
        rfl
      simp [hsplit, hnamed]
    | ok key =>
      rw [exists_namedFields_cons hkey]
      cases key with
      | index n =>
        rw [splitMembers_index hkey, ih]
        rfl
      | name s =>
        by_cases hs : s = "stream"
        · subst hs
          have hstreams : ∀ members,
              streams ((.name "stream", v) :: members) = v :: streams members := by
            simp [streams]
          have hothers : ∀ members, others ((.name "stream", v) :: members) = others members := by
            simp [others]
          have hread : Content.source.key k = .ok (.name "stream") := hkey
          simp only [splitMembers_stream_eq_ok_iff hread, ih, hstreams, hothers]
          constructor
          · rintro ⟨s, hs, rfl, members, hmembers, hrest, rfl⟩
            refine ⟨members, hmembers, ?_, rfl⟩
            rw [List.mapM_cons, hs, hrest]
            rfl
          · rintro ⟨members, hmembers, hstream, rfl⟩
            rw [Sequence.mapM_eq_ok_iff, List.forall₂_cons_left_iff] at hstream
            obtain ⟨s, rest, hs, hrest, hstream⟩ := hstream
            cases stream with
            | none => cases hstream
            | some s' =>
              cases hstream
              exact ⟨s, hs, rfl, members, hmembers, Sequence.mapM_eq_ok_iff.2 hrest, rfl⟩
        · have hstreams : ∀ members, streams ((.name s, v) :: members) = streams members := by
            simp [streams, hs]
          have hothers : ∀ members,
              others ((.name s, v) :: members) = (s, v) :: others members := by
            simp [others, hs]
          have hread : Content.source.key k = .ok (.name s) := hkey
          simp only [splitMembers_name_eq_ok_iff hread hs, ih, hstreams, hothers]
          constructor
          · rintro ⟨c, more, hc, ⟨members, hmembers, hstream, rfl⟩, rfl⟩
            cases hc
            exact ⟨members, hmembers, hstream, rfl⟩
          · rintro ⟨members, hmembers, hstream, rfl⟩
            exact ⟨v, _, rfl, ⟨members, hmembers, hstream, rfl⟩, rfl⟩

end

theorem firstMatcher_cons_eq_ok_iff {name : String} {c : Content}
    {rest : List (String × Content)} {m : Matcher} :
    firstMatcher ((name, c) :: rest) = .ok m ↔
      if Matcher.isKey (.name name) then name = m.key ∧ c = .text m.operand
      else firstMatcher rest = .ok m := by
  rw [firstMatcher, Matcher.isKey]
  cases hlookup : Matcher.choices.lookup name with
  | none => simp
  | some make =>
    simp only [Option.isSome_some, if_true, Sequence.map_eq_ok_iff, Content.text_eq_ok_iff]
    constructor
    · rintro ⟨operand, rfl, rfl⟩
      obtain ⟨hkey, hoperand⟩ := Matcher.lookup_choices hlookup operand
      exact ⟨hkey.symm, by rw [hoperand]⟩
    · rintro ⟨rfl, rfl⟩
      obtain ⟨make', hlookup', hmake⟩ := m.exists_lookup
      obtain rfl : make = make' := Option.some.inj (hlookup.symm.trans hlookup')
      exact ⟨_, rfl, hmake⟩

theorem firstMatcher_others_eq_ok_iff {members : List (Key × Content)} {m : Matcher} :
    firstMatcher (others members) = .ok m ↔
      members.find? (fun x => Matcher.isKey x.1) = some (.name m.key, .text m.operand) := by
  induction members with
  | nil => simp [others, firstMatcher]
  | cons x members ih =>
    obtain ⟨key, c⟩ := x
    cases key with
    | index n => exact ih
    | name s =>
      by_cases hs : s = "stream"
      · subst hs
        exact ih
      · have hothers : others ((.name s, c) :: members) = (s, c) :: others members := by
          simp [others, hs]
        rw [hothers, firstMatcher_cons_eq_ok_iff, List.find?_cons]
        cases hkey : Matcher.isKey (.name s) with
        | false => simpa [hkey] using ih
        | true => simp

/-- An expectation is read from its first matcher and its stream, and from nothing else. -/
theorem decode_eq_ok_iff {c : Content} {e : Expectation} :
    decode Content.source c = .ok e ↔ ∃ members, e.WrittenAs c members := by
  constructor
  · intro h
    obtain ⟨entries, hentries, h⟩ := Sequence.bind_eq_ok_iff.1 h
    obtain ⟨⟨stream, found⟩, hsplit, h⟩ := Sequence.bind_eq_ok_iff.1 h
    obtain ⟨m, hmatcher, h⟩ := Sequence.bind_eq_ok_iff.1 h
    cases h
    obtain ⟨members, hmembers, hstream, rfl⟩ := splitMembers_eq_ok_iff.1 hsplit
    obtain rfl := Content.entries_eq_ok_iff.1 hentries
    exact ⟨members, Sequence.map_eq_ok_iff.2 ⟨members, hmembers, rfl⟩,
      firstMatcher_others_eq_ok_iff.1 hmatcher, stream, hstream, rfl⟩
  · rintro ⟨members, hrecord, hmatcher, stream, hstream, hdefault⟩
    obtain ⟨entries, rfl, hmembers⟩ := Content.record_named_eq_ok_iff.1 hrecord
    have hsplit : splitMembers Content.source entries = .ok (stream, others members) :=
      splitMembers_eq_ok_iff.2 ⟨members, hmembers, hstream, rfl⟩
    refine Sequence.bind_eq_ok_iff.2 ⟨entries, rfl, ?_⟩
    refine Sequence.bind_eq_ok_iff.2 ⟨_, hsplit, ?_⟩
    refine Sequence.bind_eq_ok_iff.2 ⟨_, firstMatcher_others_eq_ok_iff.2 hmatcher, ?_⟩
    rw [← hdefault]

/-- An expectation that could be read has a matcher. -/
theorem WrittenAs.exists_isKey {e : Expectation} {c : Content} {members : List (Key × Content)}
    (h : e.WrittenAs c members) : ∃ key ∈ Content.source.keys c, Matcher.isKey key := by
  have hkeys : Content.source.keys c = members.map (·.1) := Source.keys_eq h.record
  have hmem := List.mem_of_find?_eq_some h.matcher
  have hkey : Matcher.isKey (.name e.matcher.key) :=
    List.find?_some (p := fun x : Key × Content => Matcher.isKey x.1) h.matcher
  refine ⟨_, ?_, hkey⟩
  rw [hkeys]
  exact List.mem_map_of_mem hmem

/-- The keys of an expectation of which no use is made: all but the stream and the first that names
a matcher. -/
def passedOver (keys : List Key) : List Key :=
  (keys.eraseP Matcher.isKey).filter fun key => decide (key ≠ .name "stream")

/-- One key names a matcher, and there is none beside it but the stream. -/
structure OneMatcher (keys : List Key) : Prop where
  one : keys.countP Matcher.isKey = 1
  known : ∀ key ∈ keys, key = .name "stream" ∨ Matcher.isKey key

theorem passedOver_eq_nil_iff {keys : List Key} (h : ∃ key ∈ keys, Matcher.isKey key) :
    passedOver keys = [] ↔ OneMatcher keys := by
  obtain ⟨key, hmem, hkey⟩ := h
  obtain ⟨first, before, after, hbefore, hfirst, rfl, herase⟩ := List.exists_of_eraseP hmem hkey
  have hstream : Matcher.isKey (.name "stream") = false := rfl
  have hcount : before.countP Matcher.isKey = 0 :=
    List.countP_eq_zero.2 fun key hkey => by simpa using hbefore key hkey
  rw [passedOver, herase, List.filter_eq_nil_iff]
  simp only [decide_eq_true_eq, not_not]
  constructor
  · intro hstreams
    refine ⟨?_, fun key hkey => ?_⟩
    · have hafter : after.countP Matcher.isKey = 0 := by
        refine List.countP_eq_zero.2 fun key hkey => ?_
        rw [hstreams key (List.mem_append_right _ hkey), hstream]
        exact Bool.false_ne_true
      rw [List.countP_append, List.countP_cons_of_pos hfirst, hcount, hafter]
    · rcases List.mem_append.1 hkey with hkey | hkey
      · exact .inl (hstreams key (List.mem_append_left _ hkey))
      · rcases List.mem_cons.1 hkey with rfl | hkey
        · exact .inr hfirst
        · exact .inl (hstreams key (List.mem_append_right _ hkey))
  · rintro ⟨hone, hknown⟩ key hkey
    rw [List.countP_append, List.countP_cons_of_pos hfirst, hcount] at hone
    have hafter : after.countP Matcher.isKey = 0 := by omega
    have hnot : ¬Matcher.isKey key := by
      rcases List.mem_append.1 hkey with hkey | hkey
      · exact hbefore key hkey
      · exact List.countP_eq_zero.1 hafter key hkey
    have hmem : key ∈ before ++ first :: after := by
      rcases List.mem_append.1 hkey with hkey | hkey
      · exact List.mem_append_left _ hkey
      · exact List.mem_append_right _ (List.mem_cons_of_mem _ hkey)
    exact (hknown key hmem).resolve_right hnot

end Expectation

/-! ### Actions -/

namespace Action

/-- The name of an action's kind in documents. -/
def kind : Action → String
  | .run .. => "run"
  | .httpGet .. => "http_get"
  | .waitFor .. => "wait_for"
  | .inspectLabels .. => "inspect_labels"
  | .inspectMounts .. => "inspect_mounts"

/-- The expectations of an action on what a command prints. -/
def expectations : Action → List Expectation
  | .run _ _ _ expect => expect
  | .waitFor _ expect _ => [expect]
  | .httpGet .. | .inspectLabels .. | .inspectMounts .. => []

/-- The matchers of an action that stand by themselves. -/
def bareMatchers : Action → List Matcher
  | .httpGet _ _ _ expect => expect
  | .run .. | .waitFor .. | .inspectLabels .. | .inspectMounts .. => []

/-- An action as it is written: the name of its kind, and the content of its other members. -/
structure Written where
  kind : String
  members : Content

namespace Written

/-- The fields of an action of the kind. -/
def fields (w : Written) : List (List String) :=
  match w.kind with
  | "run" => [["args"], ["allow_error"], ["exit_code"], ["expect"]]
  | "http_get" => [["url"], ["status"], ["interval_ms"], ["timeout_secs"], ["expect"]]
  | "wait_for" => [["args"], ["expect"], ["interval_ms"], ["timeout_secs"]]
  | "inspect_labels" => [["target"], ["kind"], ["labels"]]
  | "inspect_mounts" => [["target"], ["mounts"]]
  | _ => []

def keys (w : Written) : List Key := Content.source.keys w.members

/-- The contents that are written for expectations. -/
def expectations (w : Written) : List Content :=
  match w.kind with
  | "run" => Content.source.items w.fields w.members "expect"
  | "wait_for" => (Content.source.member? w.fields w.members "expect").toList
  | _ => []

/-- The contents that are written for bare matchers. -/
def bareMatchers (w : Written) : List Content :=
  match w.kind with
  | "http_get" => Content.source.items w.fields w.members "expect"
  | _ => []

/-- The keys of an action and its expectations of which no use is made. -/
def passedOver (w : Written) : List Key :=
  w.keys.filter (fun key => !Source.knows w.fields key) ++
    w.expectations.flatMap fun c => Expectation.passedOver (Content.source.keys c)

/-- How an action was read: each of its fields is there at most once, and its expectations and
matchers are those that are written. -/
structure Reads (w : Written) (a : Action) : Prop where
  kind : w.kind = a.kind
  fields : Exact w.fields (w.keys.filter (Source.knows w.fields))
  read : ofMembers w.kind w.members = .ok a
  expectations :
    List.Forall₂ (fun c e => ∃ members, Expectation.WrittenAs e c members) w.expectations
      a.expectations
  bareMatchers : List.Forall₂ (fun c m => Matcher.WrittenAs m c) w.bareMatchers a.bareMatchers

end Written

section
variable {members : Content} {a : Action}

theorem reads_of_decodeRun (hread : decodeRun members = .ok a) :
    Written.Reads ⟨"run", members⟩ a := by
  obtain ⟨r, hr, h⟩ := Sequence.bind_eq_ok_iff.1 hread
  obtain ⟨hfields, hvalue⟩ := Content.readRecord_eq_ok hr
  obtain ⟨arguments, -, h⟩ := Sequence.bind_eq_ok_iff.1 h
  obtain ⟨allowError, -, h⟩ := Sequence.bind_eq_ok_iff.1 h
  obtain ⟨exitCode, -, h⟩ := Sequence.bind_eq_ok_iff.1 h
  obtain ⟨expect, hexpect, h⟩ := Sequence.bind_eq_ok_iff.1 h
  cases h
  have hitems := Source.items_of_withDefault (hvalue "expect" 3 rfl) hexpect
  exact ⟨rfl, hfields, hread, hitems.imp fun c e => Expectation.decode_eq_ok_iff.1, .nil⟩

theorem reads_of_decodeHttpGet (hread : decodeHttpGet members = .ok a) :
    Written.Reads ⟨"http_get", members⟩ a := by
  obtain ⟨r, hr, h⟩ := Sequence.bind_eq_ok_iff.1 hread
  obtain ⟨hfields, hvalue⟩ := Content.readRecord_eq_ok hr
  obtain ⟨url, -, h⟩ := Sequence.bind_eq_ok_iff.1 h
  obtain ⟨status, -, h⟩ := Sequence.bind_eq_ok_iff.1 h
  obtain ⟨interval, -, h⟩ := Sequence.bind_eq_ok_iff.1 h
  obtain ⟨timeout, -, h⟩ := Sequence.bind_eq_ok_iff.1 h
  obtain ⟨expect, hexpect, h⟩ := Sequence.bind_eq_ok_iff.1 h
  cases h
  have hitems := Source.items_of_withDefault (hvalue "expect" 4 rfl) hexpect
  exact ⟨rfl, hfields, hread, .nil, hitems.imp fun c m => Matcher.decode_eq_ok_iff.1⟩

theorem reads_of_decodeWaitFor (hread : decodeWaitFor members = .ok a) :
    Written.Reads ⟨"wait_for", members⟩ a := by
  obtain ⟨r, hr, h⟩ := Sequence.bind_eq_ok_iff.1 hread
  obtain ⟨hfields, hvalue⟩ := Content.readRecord_eq_ok hr
  obtain ⟨arguments, -, h⟩ := Sequence.bind_eq_ok_iff.1 h
  obtain ⟨expect, hexpect, h⟩ := Sequence.bind_eq_ok_iff.1 h
  obtain ⟨interval, -, h⟩ := Sequence.bind_eq_ok_iff.1 h
  obtain ⟨timeout, -, h⟩ := Sequence.bind_eq_ok_iff.1 h
  cases h
  obtain ⟨c, hc, hcontent⟩ := Data.Record.required_eq_ok_iff.1 hexpect
  have hwritten : Content.source.member? _ members "expect" = some c :=
    (hvalue "expect" 1 rfl).symm.trans hc
  refine ⟨rfl, hfields, hread, ?_, .nil⟩
  simp only [Written.expectations, Written.fields, hwritten]
  exact .cons (Expectation.decode_eq_ok_iff.1 hcontent) .nil

theorem reads_of_decodeInspectLabels (hread : decodeInspectLabels members = .ok a) :
    Written.Reads ⟨"inspect_labels", members⟩ a := by
  obtain ⟨r, hr, h⟩ := Sequence.bind_eq_ok_iff.1 hread
  obtain ⟨hfields, hvalue⟩ := Content.readRecord_eq_ok hr
  obtain ⟨target, -, h⟩ := Sequence.bind_eq_ok_iff.1 h
  obtain ⟨kind, -, h⟩ := Sequence.bind_eq_ok_iff.1 h
  obtain ⟨labels, -, h⟩ := Sequence.bind_eq_ok_iff.1 h
  cases h
  exact ⟨rfl, hfields, hread, .nil, .nil⟩

theorem reads_of_decodeInspectMounts (hread : decodeInspectMounts members = .ok a) :
    Written.Reads ⟨"inspect_mounts", members⟩ a := by
  obtain ⟨r, hr, h⟩ := Sequence.bind_eq_ok_iff.1 hread
  obtain ⟨hfields, hvalue⟩ := Content.readRecord_eq_ok hr
  obtain ⟨target, -, h⟩ := Sequence.bind_eq_ok_iff.1 h
  obtain ⟨mounts, -, h⟩ := Sequence.bind_eq_ok_iff.1 h
  cases h
  exact ⟨rfl, hfields, hread, .nil, .nil⟩

end

/-- Each kind has its own reading, and members of no kind cannot be read. -/
theorem ofMembers_cases (kind : String) :
    (kind = "run" ∧ ofMembers kind = decodeRun) ∨
    (kind = "http_get" ∧ ofMembers kind = decodeHttpGet) ∨
    (kind = "wait_for" ∧ ofMembers kind = decodeWaitFor) ∨
    (kind = "inspect_labels" ∧ ofMembers kind = decodeInspectLabels) ∨
    (kind = "inspect_mounts" ∧ ofMembers kind = decodeInspectMounts) ∨
    ofMembers kind = fun _ => .error "unknown variant" := by
  by_cases hrun : kind = "run"
  · exact .inl ⟨hrun, by rw [hrun]; rfl⟩
  by_cases hget : kind = "http_get"
  · exact .inr (.inl ⟨hget, by rw [hget]; rfl⟩)
  by_cases hwait : kind = "wait_for"
  · exact .inr (.inr (.inl ⟨hwait, by rw [hwait]; rfl⟩))
  by_cases hlabels : kind = "inspect_labels"
  · exact .inr (.inr (.inr (.inl ⟨hlabels, by rw [hlabels]; rfl⟩)))
  by_cases hmounts : kind = "inspect_mounts"
  · exact .inr (.inr (.inr (.inr (.inl ⟨hmounts, by rw [hmounts]; rfl⟩))))
  refine .inr (.inr (.inr (.inr (.inr (funext fun members => ?_)))))
  simp only [ofMembers, if_neg hrun, if_neg hget, if_neg hwait, if_neg hlabels, if_neg hmounts]

theorem reads_of_ofMembers {w : Written} {a : Action} (h : ofMembers w.kind w.members = .ok a) :
    w.Reads a := by
  obtain ⟨kind, members⟩ := w
  obtain ⟨rfl, hkind⟩ | ⟨rfl, hkind⟩ | ⟨rfl, hkind⟩ | ⟨rfl, hkind⟩ | ⟨rfl, hkind⟩ | hkind :=
    ofMembers_cases kind
  · exact reads_of_decodeRun (hkind ▸ h)
  · exact reads_of_decodeHttpGet (hkind ▸ h)
  · exact reads_of_decodeWaitFor (hkind ▸ h)
  · exact reads_of_decodeInspectLabels (hkind ▸ h)
  · exact reads_of_decodeInspectMounts (hkind ▸ h)
  · rw [hkind] at h
    cases h

theorem Written.Reads.passedOver_eq_nil_iff {w : Written} {a : Action} (h : w.Reads a) :
    w.passedOver = [] ↔ (∀ key ∈ w.keys, Source.knows w.fields key) ∧
      ∀ c ∈ w.expectations, Expectation.OneMatcher (Content.source.keys c) := by
  have hexpectation : ∀ c ∈ w.expectations,
      (Expectation.passedOver (Content.source.keys c) = [] ↔
        Expectation.OneMatcher (Content.source.keys c)) := by
    intro c hc
    obtain ⟨e, -, members, hwritten⟩ := exists_of_mem_forall₂ h.expectations hc
    exact Expectation.passedOver_eq_nil_iff hwritten.exists_isKey
  rw [Written.passedOver, List.append_eq_nil_iff, List.filter_eq_nil_iff, List.flatMap_eq_nil_iff]
  refine and_congr ?_ (forall₂_congr hexpectation)
  simp only [Bool.not_eq_true', Bool.not_eq_false]

/-- An action is read as if the members that are no fields of its kind had not been written. -/
theorem ofMembers_used {w : Written} {shape : Data.Shape Content}
    (h : Content.source.record w.members = .ok shape) :
    ofMembers w.kind (w.members.used w.fields) = ofMembers w.kind w.members := by
  obtain ⟨kind, members⟩ := w
  -- each reading starts with the record of its own fields
  have hread : ∀ {fields : List (List String)} {next : Data.Record Content → Except String Action},
      (src.readRecord fields false (members.used fields) >>= next) =
        src.readRecord fields false members >>= next :=
    fun {_ next} => congrArg (· >>= next) (Content.readRecord_used h)
  obtain ⟨rfl, hkind⟩ | ⟨rfl, hkind⟩ | ⟨rfl, hkind⟩ | ⟨rfl, hkind⟩ | ⟨rfl, hkind⟩ | hkind :=
    ofMembers_cases kind
  all_goals rw [hkind]
  · exact hread
  · exact hread
  · exact hread
  · exact hread
  · exact hread

/-- The action that a node of a document is. -/
def written (document : Yaml.Document) (c : Yaml.Cursor) : Except String Written := do
  let (kind, members) ← document.source.splitMember "action" c
  .ok ⟨← document.source.text kind, members⟩

theorem reads_of_decode {document : Yaml.Document} {c : Yaml.Cursor} {a : Action}
    (h : decode document.source c = .ok a) : ∃ w, written document c = .ok w ∧ w.Reads a := by
  obtain ⟨⟨node, members⟩, hsplit, h⟩ := Sequence.bind_eq_ok_iff.1 h
  obtain ⟨kind, hkind, h⟩ := Sequence.bind_eq_ok_iff.1 h
  have hwritten : written document c = .ok ⟨kind, members⟩ :=
    Sequence.bind_eq_ok_iff.2 ⟨_, hsplit, Sequence.bind_eq_ok_iff.2 ⟨kind, hkind, rfl⟩⟩
  exact ⟨_, hwritten, reads_of_ofMembers h⟩

end Action

/-! ### Steps and files -/

/-- How a step was read: it has no other members than its fields, each at most once, and its actions
are those that are written. -/
structure StepDefinition.Reads (document : Yaml.Document) (c : Yaml.Cursor) (d : StepDefinition) :
    Prop where
  fields : ∃ entries, document.record c = .ok (.named entries) ∧
    Exact StepDefinition.fields (entries.map (·.1))
  actions : List.Forall₂ (fun c a => ∃ w, Action.written document c = .ok w ∧ w.Reads a)
    (document.source.items StepDefinition.fields c "actions") d.actions

theorem StepDefinition.reads_of_decode {document : Yaml.Document} {c : Yaml.Cursor}
    {d : StepDefinition} (h : decode document.source c = .ok d) : Reads document c d := by
  obtain ⟨r, hr, h⟩ := Sequence.bind_eq_ok_iff.1 h
  obtain ⟨name, -, h⟩ := Sequence.bind_eq_ok_iff.1 h
  obtain ⟨bestEffort, -, h⟩ := Sequence.bind_eq_ok_iff.1 h
  obtain ⟨actions, hactions, h⟩ := Sequence.bind_eq_ok_iff.1 h
  cases h
  obtain ⟨hfields, hvalue⟩ := document.readRecord_eq_ok hr
  have hitems := Source.items_of_required (hvalue "actions" 2 rfl) hactions
  exact ⟨hfields, hitems.imp fun c a => Action.reads_of_decode⟩

namespace ScenarioFile

/-- The nodes of a document that are its steps, the cleanups last. -/
def stepNodes (document : Yaml.Document) : List Yaml.Cursor :=
  document.source.items fields document.cursor "steps" ++
    document.source.items fields document.cursor "cleanup"

/-- All actions of a document as they are written. -/
def writtenActions (document : Yaml.Document) : List Action.Written :=
  (stepNodes document).flatMap fun c =>
    (document.source.items StepDefinition.fields c "actions").filterMap fun c =>
      (Action.written document c).toOption

/-- The keys of a document's actions of which no use is made. -/
def passedOver (document : Yaml.Document) : List Key :=
  (writtenActions document).flatMap Action.Written.passedOver

/-- How a file was read: it has no other members than its fields, each at most once, and its steps
are those that are written. -/
structure Reads (document : Yaml.Document) (f : ScenarioFile) : Prop where
  fields : ∃ entries, document.record document.cursor = .ok (.named entries) ∧
    Exact ScenarioFile.fields (entries.map (·.1))
  steps : List.Forall₂ (StepDefinition.Reads document) (stepNodes document) f.definitions

theorem reads_of_ofYaml {text : String} {f : ScenarioFile} (h : ofYaml text = .ok f) :
    ∃ document, Yaml.Document.parse text = .ok document ∧ Reads document f := by
  obtain ⟨document, hdocument, h⟩ := Sequence.bind_eq_ok_iff.1 h
  obtain ⟨r, hr, h⟩ := Sequence.bind_eq_ok_iff.1 h
  obtain ⟨name, -, h⟩ := Sequence.bind_eq_ok_iff.1 h
  obtain ⟨description, -, h⟩ := Sequence.bind_eq_ok_iff.1 h
  obtain ⟨project, -, h⟩ := Sequence.bind_eq_ok_iff.1 h
  obtain ⟨workingDir, -, h⟩ := Sequence.bind_eq_ok_iff.1 h
  obtain ⟨env, -, h⟩ := Sequence.bind_eq_ok_iff.1 h
  obtain ⟨steps, hsteps, h⟩ := Sequence.bind_eq_ok_iff.1 h
  obtain ⟨cleanup, hcleanup, h⟩ := Sequence.bind_eq_ok_iff.1 h
  cases h
  obtain ⟨hfields, hvalue⟩ := document.readRecord_eq_ok hr
  have hstepItems := Source.items_of_withDefault (hvalue "steps" 5 rfl) hsteps
  have hcleanupItems := Source.items_of_withDefault (hvalue "cleanup" 6 rfl) hcleanup
  refine ⟨document, hdocument, hfields, List.rel_append ?_ ?_⟩
  · exact hstepItems.imp fun c d => StepDefinition.reads_of_decode
  · exact hcleanupItems.imp fun c d => StepDefinition.reads_of_decode

theorem ofYaml_of_parse {text : String} {f : ScenarioFile} (h : parse text = .ok f) :
    ofYaml text = .ok f := by
  unfold parse at h
  cases hread : ofYaml text with
  | error reason =>
    rw [hread] at h
    cases h
  | ok f' =>
    rw [hread] at h
    obtain ⟨-, h⟩ := Sequence.seq_eq_ok_iff.1 h
    cases h
    rfl

/-- Every action that is written was read as one of the file. -/
theorem Reads.exists_action {document : Yaml.Document} {f : ScenarioFile} (h : Reads document f)
    {w : Action.Written} (hw : w ∈ writtenActions document) :
    ∃ d ∈ f.definitions, ∃ a ∈ d.actions, w.Reads a := by
  obtain ⟨c, hc, hw⟩ := List.mem_flatMap.1 hw
  obtain ⟨c', hc', hw⟩ := List.mem_filterMap.1 hw
  obtain ⟨d, hd, hstep⟩ := exists_of_mem_forall₂ h.steps hc
  obtain ⟨a, ha, w', hwritten, hreads⟩ := exists_of_mem_forall₂ hstep.actions hc'
  rw [hwritten] at hw
  obtain rfl : w' = w := Option.some.inj hw
  exact ⟨d, hd, a, ha, hreads⟩

/-- No key of an accepted document is without use exactly if no action has a member that its kind
does not know, and each expectation has one matcher and nothing beside it but a stream. -/
theorem Reads.passedOver_eq_nil_iff {document : Yaml.Document} {f : ScenarioFile}
    (h : Reads document f) :
    passedOver document = [] ↔ ∀ w ∈ writtenActions document,
      (∀ key ∈ w.keys, Source.knows w.fields key) ∧
        ∀ c ∈ w.expectations, Expectation.OneMatcher (Content.source.keys c) := by
  rw [passedOver, List.flatMap_eq_nil_iff]
  refine forall₂_congr fun w hw => ?_
  obtain ⟨d, -, a, -, hreads⟩ := h.exists_action hw
  exact hreads.passedOver_eq_nil_iff

/-- What of a document is used. A document that is accepted has no members in its file and its steps
but their fields; its actions have each of their fields at most once, and members that are no fields
make no difference to them; an expectation is read from its stream and its first matcher, whatever
stands beside them; and a bare matcher has one member. -/
theorem members_used_and_passed_over (text : String) :
    (∀ f, parse text = .ok f → ∃ document, Yaml.Document.parse text = .ok document ∧
      Reads document f ∧
      (passedOver document = [] ↔ ∀ w ∈ writtenActions document,
        (∀ key ∈ w.keys, Source.knows w.fields key) ∧
          ∀ c ∈ w.expectations, Expectation.OneMatcher (Content.source.keys c))) ∧
    (∀ (w : Action.Written) (shape : Data.Shape Content),
      Content.source.record w.members = .ok shape →
        Action.ofMembers w.kind (w.members.used w.fields) = Action.ofMembers w.kind w.members) ∧
    (∀ c e, Expectation.decode Content.source c = .ok e ↔ ∃ members, e.WrittenAs c members) ∧
    ∀ c m, Matcher.decode Content.source c = .ok m ↔ m.WrittenAs c := by
  refine ⟨fun f h => ?_, fun w shape => Action.ofMembers_used,
    fun c e => Expectation.decode_eq_ok_iff, fun c m => Matcher.decode_eq_ok_iff⟩
  obtain ⟨document, hdocument, hreads⟩ := reads_of_ofYaml (ofYaml_of_parse h)
  exact ⟨document, hdocument, hreads, hreads.passedOver_eq_nil_iff⟩

/-- A file with a member of an action that is misspelt, and with two matchers in one expectation. -/
def leaky : String :=
  "name: x\nsteps:\n  - name: ps\n    actions:\n      - action: run\n        args: [ps]\n" ++
    "        expct:\n          - contains: api\n" ++
    "        expect:\n          - contains: web\n            not_contains: db\n"

/-- The file is accepted, and what its action expects is less than what is written. -/
theorem leaky_passes_over :
    ((parse leaky).toOption.map fun f => f.definitions.map StepDefinition.actions) =
      some [[.run ["ps"] false none [⟨.combined, .contains "web"⟩]]] ∧
    (Yaml.Document.parse leaky).toOption.map passedOver =
      some [.name "expct", .name "not_contains"] := by
  decide +kernel

end ScenarioFile

end ComposeHarness
