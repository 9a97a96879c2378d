import ComposeHarness.Expectation.Encoding
import ComposeHarness.Proofs.Json.Answers
import ComposeHarness.Proofs.ScenarioFile.PassedOver
import Mathlib.Data.List.Perm.Basic

/-!
# Expectations in JSON

An expectation is read from the members of an object, each on its own: one of them may be the stream,
and the first one with the name of a matcher is the matcher. So the order of the members matters only
among those with names of matchers.
-/
namespace ComposeHarness

open Json (Value Text Cursor source)
open Data (Source Content Key)

/-! ### Streams -/

namespace Stream

/-- A stream that is written as a variant with nothing in it, written as a text. -/
def normal : Value → Value
  | .object [(name, .null)] => .text name
  | v => v

theorem key_of_mem_choices {name : String} {s : Stream} (h : (name, s) ∈ choices) :
    s.key = name := by
  simp only [choices, List.mem_cons, Prod.mk.injEq, List.not_mem_nil, or_false] at h
  obtain ⟨rfl, rfl⟩ | ⟨rfl, rfl⟩ | ⟨rfl, rfl⟩ := h <;> rfl

theorem encode_of_decode {c : Cursor} {s : Stream} (h : decode source c = .ok s) :
    s.encode = normal c.value := by
  obtain ⟨⟨key, payload⟩, hvariant, h⟩ := Sequence.bind_eq_ok_iff.1 h
  simp only at h
  split at h
  · next hunit =>
    obtain ⟨name, rfl, hvalue⟩ := Json.variant_eq_ok hvariant
    split at h
    · next hchoice =>
      cases h
      obtain ⟨-, hmem⟩ := Source.choice_name hchoice
      rw [encode, key_of_mem_choices hmem]
      rcases hvalue with ⟨-, hvalue⟩ | ⟨room, x, rfl, hvalue⟩
      · rw [hvalue, normal]
        exact nofun
      · -- a variant without a value has null instead
        cases x with
        | null => rw [hvalue, normal]
        | _ => cases hunit
    · cases h
  · cases h

end Stream

/-! ### Matchers -/

namespace Matcher

/-- The name of a member is that of a matcher. -/
def isName (key : Text) : Bool := key.any fun name => isKey (.name name)

theorem not_isName_stream : ¬isName (some "stream") := by decide

theorem encode_of_decode {c : Cursor} {m : Matcher} (h : decode source c = .ok m) :
    m.encode = c.value := by
  obtain ⟨key, w, name, make, operand, hvariant, hchoice, hoperand, rfl⟩ :=
    Source.readTextVariant_eq_ok_iff.1 h
  obtain ⟨name', rfl, ⟨hnone, -⟩ | ⟨room, x, hw, hvalue⟩⟩ := Json.variant_eq_ok hvariant
  · cases hnone
  · cases hw
    obtain ⟨rfl, -⟩ := Source.choice_name hchoice
    obtain ⟨i, -, hi⟩ := Option.bind_eq_some_iff.1 hchoice
    obtain ⟨hkey, hmake, -⟩ := choices_getElem? hi operand
    cases x with
    | text t =>
      cases t with
      | some s =>
        cases hoperand
        rw [hvalue, encode, member, hkey, hmake]
      | none => cases hoperand
    | _ => cases hoperand

end Matcher

namespace Expectation

/-! ### Members -/

/-- What is read of a member: the stream, or content under a name. -/
abbrev Part := Stream ⊕ (String × Content)

namespace Part

def streams (parts : List Part) : List Stream := parts.filterMap Sum.getLeft?

/-- What is not the stream. -/
def others (parts : List Part) : List (String × Content) := parts.filterMap Sum.getRight?

/-- The content that has the name of a matcher. -/
def matchers (parts : List Part) : List (String × Content) :=
  (others parts).filter fun x => Matcher.isKey (.name x.1)

theorem matchers_other (name : String) (c : Content) (parts : List Part) :
    matchers (.inr (name, c) :: parts) =
      if Matcher.isName (some name) then (name, c) :: matchers parts else matchers parts :=
  List.filter_cons

end Part

/-- The part is read of the member. -/
inductive Reads (room : Nat) : Text × Value → Part → Prop
  | stream {v : Value} {s : Stream} (h : Stream.decode source ⟨room, v⟩ = .ok s) :
      Reads room (some "stream", v) (.inl s)
  | other {name : String} {v : Value} {c : Content} (hname : name ≠ "stream")
      (h : Json.content room v = .ok c) : Reads room (some name, v) (.inr (name, c))

/-- The parts make up the expectation: the only stream, if there is one, and the first matcher. -/
structure MadeOf (e : Expectation) (parts : List Part) : Prop where
  stream : ∃ stream : Option Stream,
    Part.streams parts = stream.toList ∧ e.stream = stream.getD .combined
  matcher : (Part.matchers parts).head? = some (e.matcher.key, .text e.matcher.operand)

section
variable {room : Nat} {members members' : List (Text × Value)} {parts parts' : List Part}

theorem splitMembers_members_iff {stream : Option Stream} {found : List (String × Content)} :
    splitMembers source (members.map fun m => (⟨room, .text m.1⟩, ⟨room, m.2⟩)) =
        .ok (stream, found) ↔
      ∃ parts, List.Forall₂ (Reads room) members parts ∧
        Part.streams parts = stream.toList ∧ Part.others parts = found := by
  induction members generalizing stream found with
  | nil => cases stream <;> simp [splitMembers, Part.streams, Part.others]
  | cons m members ih =>
    obtain ⟨key, v⟩ := m
    rw [List.map_cons]
    cases key with
    | none =>
      have hsplit : ∀ entries, splitMembers source ((⟨room, .text none⟩, ⟨room, v⟩) :: entries) =
          .error "lone surrogate in a text" := fun _ => rfl
      rw [hsplit]
      constructor
      · intro h
        cases h
      · rintro ⟨_, _ | ⟨hpart, -⟩, -⟩
        cases hpart
    | some name =>
      have hkey : source.key ⟨room, .text (some name)⟩ = .ok (.name name) := rfl
      by_cases hname : name = "stream"
      · subst hname
        rw [splitMembers_stream_eq_ok_iff hkey]
        constructor
        · rintro ⟨s, hs, rfl, hrest⟩
          obtain ⟨parts, hparts, hstream, hfound⟩ := ih.1 hrest
          exact ⟨.inl s :: parts, .cons (.stream hs) hparts, congrArg (s :: ·) hstream, hfound⟩
        · rintro ⟨_, _ | ⟨hpart, hparts⟩, hstream, hfound⟩
          cases hpart with
          | @stream _ s hs =>
            cases stream with
            | none => cases hstream
            | some s' =>
              obtain ⟨rfl, hrest⟩ := List.cons.inj hstream
              exact ⟨s, hs, rfl, ih.2 ⟨_, hparts, hrest, hfound⟩⟩
          | other hname => exact absurd rfl hname
      · rw [splitMembers_name_eq_ok_iff hkey hname]
        constructor
        · rintro ⟨c, more, hc, hrest, rfl⟩
          obtain ⟨parts, hparts, hstream, hfound⟩ := ih.1 hrest
          exact ⟨.inr (name, c) :: parts, .cons (.other hname hc) hparts, hstream,
            congrArg ((name, c) :: ·) hfound⟩
        · rintro ⟨_, _ | ⟨hpart, hparts⟩, hstream, hfound⟩
          cases hpart with
          | stream => exact absurd rfl hname
          | @other _ _ c _ hc =>
            subst hfound
            exact ⟨c, _, hc, ih.2 ⟨_, hparts, hstream, rfl⟩, rfl⟩

theorem firstMatcher_eq_ok_iff {found : List (String × Content)} {m : Matcher} :
    firstMatcher found = .ok m ↔
      (found.filter fun x => Matcher.isKey (.name x.1)).head? = some (m.key, .text m.operand) := by
  induction found with
  | nil => simp [firstMatcher]
  | cons x found ih =>
    obtain ⟨name, c⟩ := x
    rw [firstMatcher_cons_eq_ok_iff, List.filter_cons, ih]
    cases Matcher.isKey (.name name) <;> simp

/-- An expectation is made of what is read of the members of an object. -/
theorem decode_members_iff {c : Cursor} {e : Expectation} :
    decode source c = .ok e ↔ ∃ room members parts, c = ⟨room + 1, .object members⟩ ∧
      List.Forall₂ (Reads room) members parts ∧ e.MadeOf parts := by
  constructor
  · intro h
    obtain ⟨entries, hentries, h⟩ := Sequence.bind_eq_ok_iff.1 h
    obtain ⟨⟨stream, found⟩, hsplit, h⟩ := Sequence.bind_eq_ok_iff.1 h
    obtain ⟨m, hmatcher, h⟩ := Sequence.bind_eq_ok_iff.1 h
    cases h
    obtain ⟨_ | room, v⟩ := c
    · cases v <;> cases hentries
    · cases v with
      | object members =>
        cases hentries
        obtain ⟨parts, hparts, hstream, rfl⟩ := splitMembers_members_iff.1 hsplit
        exact ⟨room, members, parts, rfl, hparts, ⟨stream, hstream, rfl⟩,
          firstMatcher_eq_ok_iff.1 hmatcher⟩
      | _ => cases hentries
  · rintro ⟨room, members, parts, rfl, hparts, ⟨stream, hstream, hdefault⟩, hmatcher⟩
    have hsplit := splitMembers_members_iff.2 ⟨parts, hparts, hstream, rfl⟩
    refine Sequence.bind_eq_ok_iff.2 ⟨_, rfl, ?_⟩
    refine Sequence.bind_eq_ok_iff.2 ⟨_, hsplit, ?_⟩
    refine Sequence.bind_eq_ok_iff.2 ⟨_, firstMatcher_eq_ok_iff.2 hmatcher, ?_⟩
    rw [← hdefault]

/-! ### Normal forms -/

/-- The object with the stream as a text, combined if there is none, and the first member with the
name of a matcher. -/
def normal : Value → Value
  | .object members =>
    .object [(some "stream",
        match members.find? fun m => m.1 = some "stream" with
        | some m => Stream.normal m.2
        | none => .text (some "combined")),
      (members.find? fun m => Matcher.isName m.1).getD (none, .null)]
  | v => v

theorem normal_stream {stream : Option Stream} (hparts : List.Forall₂ (Reads room) members parts)
    (hstream : Part.streams parts = stream.toList) :
    (stream.getD .combined).encode =
      match members.find? fun m => m.1 = some "stream" with
      | some m => Stream.normal m.2
      | none => .text (some "combined") := by
  induction hparts with
  | nil =>
    cases stream with
    | none => rfl
    | some s => cases hstream
  | cons hpart _ ih =>
    cases hpart with
    | stream hs =>
      cases stream with
      | none => cases hstream
      | some s =>
        cases (List.cons.inj hstream).1
        rw [List.find?_cons_of_pos (by simp)]
        exact Stream.encode_of_decode hs
    | other hname =>
      rw [List.find?_cons_of_neg (by simpa using hname)]
      exact ih hstream

theorem normal_matcher {m : Matcher} (hparts : List.Forall₂ (Reads room) members parts)
    (hmatcher : (Part.matchers parts).head? = some (m.key, .text m.operand)) :
    members.find? (fun m => Matcher.isName m.1) = some m.member := by
  induction hparts with
  | nil => cases hmatcher
  | cons hpart _ ih =>
    cases hpart with
    | stream =>
      rw [List.find?_cons_of_neg (by exact Matcher.not_isName_stream)]
      exact ih hmatcher
    | @other name v c _ hc =>
      rw [Part.matchers_other] at hmatcher
      by_cases hname : Matcher.isName (some name)
      · rw [if_pos hname] at hmatcher
        cases hmatcher
        rw [List.find?_cons_of_pos (by exact hname), Matcher.member,
          Json.content_eq_text_iff.1 hc]
      · rw [if_neg hname] at hmatcher
        rw [List.find?_cons_of_neg (by exact hname)]
        exact ih hmatcher

theorem encode_of_decode {c : Cursor} {e : Expectation} (h : decode source c = .ok e) :
    e.encode = normal c.value := by
  obtain ⟨room, members, parts, rfl, hparts, ⟨stream, hstream, hdefault⟩, hmatcher⟩ :=
    decode_members_iff.1 h
  rw [encode, normal, hdefault, normal_stream hparts hstream, normal_matcher hparts hmatcher,
    Option.getD_some]

/-! ### Other ways of writing an expectation -/

/-- The second object is the first one written in another way: with its members in another order, if
one of them is a matcher, or without a stream, or with one, where the stream is the usual one. -/
inductive Alike : Value → Value → Prop
  | permute {members members' : List (Text × Value)} (h : members.Perm members')
      (hone : members.countP (fun m => Matcher.isName m.1) = 1) :
      Alike (.object members) (.object members')
  | omitStream {members : List (Text × Value)} :
      Alike (.object ((some "stream", .text (some "combined")) :: members)) (.object members)
  | writeStream {members : List (Text × Value)} (habsent : ∀ m ∈ members, m.1 ≠ some "stream") :
      Alike (.object members) (.object ((some "stream", .text (some "combined")) :: members))

/-- The parts may stand in any order if one of them is a matcher. -/
theorem MadeOf.perm {e : Expectation} (h : e.MadeOf parts) (hperm : parts.Perm parts')
    (hone : (Part.matchers parts).length = 1) : e.MadeOf parts' := by
  obtain ⟨⟨stream, hstream, hdefault⟩, hmatcher⟩ := h
  refine ⟨⟨stream, ?_, hdefault⟩, ?_⟩
  · have hstreams : (Part.streams parts).Perm (Part.streams parts') := hperm.filterMap _
    rw [hstream] at hstreams
    cases stream with
    | none => exact List.nil_perm.1 hstreams
    | some s => exact (List.singleton_perm.1 hstreams).symm
  · have hmatchers : (Part.matchers parts).Perm (Part.matchers parts') :=
      (hperm.filterMap _).filter _
    obtain ⟨x, hx⟩ := List.length_eq_one_iff.1 hone
    rw [hx] at hmatchers hmatcher
    rw [← List.singleton_perm.1 hmatchers]
    exact hmatcher

/-- The stream that is usual may as well be left out. -/
theorem madeOf_combined_iff {e : Expectation} :
    e.MadeOf (.inl .combined :: parts) ↔ e.MadeOf parts ∧ Part.streams parts = [] := by
  constructor
  · rintro ⟨⟨stream, hstream, hdefault⟩, hmatcher⟩
    cases stream with
    | none => cases hstream
    | some s =>
      obtain ⟨rfl, hnone⟩ := List.cons.inj hstream
      exact ⟨⟨⟨none, hnone, hdefault⟩, hmatcher⟩, hnone⟩
  · rintro ⟨⟨⟨stream, hstream, hdefault⟩, hmatcher⟩, hnone⟩
    have hcombined : e.stream = .combined := by
      cases stream with
      | none => exact hdefault
      | some s => cases hnone.symm.trans hstream
    exact ⟨⟨some .combined, congrArg (Stream.combined :: ·) hnone, hcombined⟩, hmatcher⟩

theorem length_matchers (hparts : List.Forall₂ (Reads room) members parts) :
    (Part.matchers parts).length = members.countP fun m => Matcher.isName m.1 := by
  induction hparts with
  | nil => rfl
  | cons hpart _ ih =>
    cases hpart with
    | stream =>
      rw [List.countP_cons_of_neg (by exact Matcher.not_isName_stream)]
      exact ih
    | other =>
      rw [Part.matchers_other, List.countP_cons, ← ih]
      split <;> rfl

theorem streams_eq_nil (hparts : List.Forall₂ (Reads room) members parts)
    (habsent : ∀ m ∈ members, m.1 ≠ some "stream") : Part.streams parts = [] := by
  induction hparts with
  | nil => rfl
  | cons hpart _ ih =>
    obtain ⟨hname, hrest⟩ := List.forall_mem_cons.1 habsent
    cases hpart with
    | stream => exact absurd rfl hname
    | other => exact ih hrest

theorem decode_alike {v v' : Value} {e : Expectation} (halike : Alike v v')
    (h : decode source ⟨room, v⟩ = .ok e) : decode source ⟨room, v'⟩ = .ok e := by
  obtain ⟨room, members, parts, heq, hparts, hmade⟩ := decode_members_iff.1 h
  cases heq
  cases halike with
  | permute hperm hone =>
    obtain ⟨parts', hparts', hperm'⟩ := List.perm_comp_forall₂ hperm.symm hparts
    have hmade' := hmade.perm hperm'.symm ((length_matchers hparts).trans hone)
    exact decode_members_iff.2 ⟨room, _, parts', rfl, hparts', hmade'⟩
  | omitStream =>
    cases hparts with
    | cons hpart hparts =>
      cases hpart with
      | stream hs =>
        cases hs
        exact decode_members_iff.2 ⟨room, _, _, rfl, hparts, (madeOf_combined_iff.1 hmade).1⟩
      | other hname => exact absurd rfl hname
  | writeStream habsent =>
    have hmade' := madeOf_combined_iff.2 ⟨hmade, streams_eq_nil hparts habsent⟩
    exact decode_members_iff.2 ⟨room, _, _, rfl, .cons (.stream rfl) hparts, hmade'⟩

end

end Expectation
end ComposeHarness
