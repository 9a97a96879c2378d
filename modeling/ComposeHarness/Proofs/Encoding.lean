import ComposeHarness.Inspection.Encoding
import ComposeHarness.Proofs.Expectation.Members
import ComposeHarness.Proofs.Inspection.Rearrangement
import ComposeHarness.Proofs.Json.Writing

/-!
# What is written is read back

Expectations, matchers and mounts are written in one way and read in many. What is written is read as
the value that it was written for, and whatever is read as a value has that one way of writing it as
its normal form.
-/
namespace ComposeHarness

open Json (Value Cursor Text source Writable)

/-! ### Lawful encodings -/

/-- An encoding and the decoding of it agree. -/
structure Json.Lawful {α : Type} (decode : Cursor → Except String α) (encode : α → Value)
    (normal : Value → Value) (Alike : Value → Value → Prop) : Prop where
  /-- What is written is read back, wherever an object may stand. -/
  decode_encode (room : Nat) (a : α) : decode ⟨room + 1, encode a⟩ = .ok a
  /-- Everything can be written as a text, and is read back from any such text. -/
  decode_text (a : α) : (∃ text, Json.Spells (encode a) text) ∧
    ∀ text, Json.Spells (encode a) text →
      (Json.parse text >>= fun v => decode (Json.root v)) = .ok a
  /-- What is read is written as the normal form of that from which it was read. -/
  encode_decode {c : Cursor} {a : α} (h : decode c = .ok a) : encode a = normal c.value
  /-- Values that are alike are read the same. -/
  decode_alike {room : Nat} {v v' : Value} {a : α} (halike : Relation.ReflTransGen Alike v v')
    (h : decode ⟨room, v⟩ = .ok a) : decode ⟨room, v'⟩ = .ok a

theorem Json.Lawful.of_steps {α : Type} {decode : Cursor → Except String α} {encode : α → Value}
    {normal : Value → Value} {Alike : Value → Value → Prop}
    (decode_encode : ∀ room a, decode ⟨room + 1, encode a⟩ = .ok a)
    (writable : ∀ a, Writable (encode a))
    (encode_decode : ∀ {c a}, decode c = .ok a → encode a = normal c.value)
    (decode_alike : ∀ {room v v' a}, Alike v v' → decode ⟨room, v⟩ = .ok a →
      decode ⟨room, v'⟩ = .ok a) : Json.Lawful decode encode normal Alike where
  decode_encode := decode_encode
  decode_text a := by
    refine ⟨(writable a).exists_spells, fun text htext => ?_⟩
    rw [Json.parse_eq_ok_iff.2 htext]
    exact decode_encode 126 a
  encode_decode := encode_decode
  decode_alike halike h := by
    induction halike with
    | refl => exact h
    | tail _ hstep ih => exact decode_alike hstep ih

/-! ### Matchers and expectations -/

/-- The second object has the members of the first one. -/
inductive Json.Value.Permuted : Value → Value → Prop
  | intro {members members' : List (Text × Value)} (h : members.Perm members') :
      Permuted (.object members) (.object members')

namespace Matcher

theorem decode_encode (room : Nat) (m : Matcher) : decode source ⟨room + 1, m.encode⟩ = .ok m := by
  cases m <;> rfl

theorem writable_encode (m : Matcher) : Writable m.encode :=
  Json.writable_object (by simpa [member] using Json.writable_text m.operand)

theorem decode_permuted {room : Nat} {v v' : Value} {m : Matcher} (hperm : v.Permuted v')
    (h : decode source ⟨room, v⟩ = .ok m) : decode source ⟨room, v'⟩ = .ok m := by
  obtain ⟨hperm⟩ := hperm
  -- a matcher has no other member
  cases encode_of_decode h
  cases List.singleton_perm.1 hperm
  exact h

end Matcher

namespace Expectation

theorem decode_encode (room : Nat) (e : Expectation) :
    decode source ⟨room + 1, e.encode⟩ = .ok e := by
  obtain ⟨stream, m⟩ := e
  cases stream <;> cases m <;> rfl

theorem writable_encode (e : Expectation) : Writable e.encode :=
  Json.writable_object (by
    simpa [Matcher.member, Stream.encode] using
      ⟨Json.writable_text e.stream.key, Json.writable_text e.matcher.operand⟩)

end Expectation

/-! ### Mounts -/

namespace Mount

theorem decode_encode (room : Nat) (m : Mount) :
    decode Json.source ⟨room + 1, m.encode⟩ = .ok m := by
  obtain ⟨type, source, target, readOnly⟩ := m
  cases source <;> cases readOnly <;> rfl

theorem writable_encode (m : Mount) : Writable m.encode := by
  have hsource : Writable ((m.source.map fun s => .text (some s)).getD .null) := by
    cases m.source with
    | none => exact Json.writable_null
    | some s => exact Json.writable_text s
  have hreadOnly : Writable ((m.readOnly.map .bool).getD .null) := by
    cases m.readOnly with
    | none => exact Json.writable_null
    | some b => exact Json.writable_bool b
  refine Json.writable_object ?_
  simp only [List.forall_mem_cons, List.not_mem_nil, false_implies, implies_true, and_true]
  exact ⟨⟨rfl, Json.writable_text m.type⟩, ⟨rfl, hsource⟩, ⟨rfl, Json.writable_text m.target⟩, rfl,
    hreadOnly⟩

theorem Described.encode_eq {v : Value} {m : Mount} (h : Described v m) :
    m.encode = v.normalRecord fields := by
  have hnormal : v.normalRecord fields = .object
      [(some "Type", (v.held fields 0).getD .null), (some "Source", (v.held fields 1).getD .null),
        (some "Target", (v.held fields 2).getD .null),
        (some "ReadOnly", (v.held fields 3).getD .null)] := rfl
  rw [hnormal, h.type.reads_held h.record, h.source.held_eq h.record,
    h.target.reads_held h.record, h.readOnly.held_eq h.record, encode]

theorem exists_described {room : Nat} {v : Value} {m : Mount}
    (h : decode Json.source ⟨room, v⟩ = .ok m) : Described v m ∧ ∃ inner, room = inner + 1 := by
  obtain ⟨r, hr, -⟩ := Sequence.bind_eq_ok_iff.1 h
  obtain ⟨inner, rfl⟩ := Json.exists_room_of_readRecord hr
  exact ⟨decode_eq_ok_iff.1 h, inner, rfl⟩

theorem encode_of_decode {c : Cursor} {m : Mount} (h : decode Json.source c = .ok m) :
    m.encode = c.value.normalRecord fields :=
  (exists_described h).1.encode_eq

theorem decode_rearranged {room : Nat} {v v' : Value} {m : Mount}
    (hv : Inspection.Rearranged .mount v v') (h : decode Json.source ⟨room, v⟩ = .ok m) :
    decode Json.source ⟨room, v'⟩ = .ok m := by
  obtain ⟨hm, inner, rfl⟩ := exists_described h
  exact decode_eq_ok_iff.2 (hv.keeps m hm)

end Mount

/-- Expectations, matchers and mounts are read as they are written, and from nothing but what has the
way of writing them as its normal form. -/
theorem encodings_lawful :
    Json.Lawful (Expectation.decode source) Expectation.encode Expectation.normal Expectation.Alike ∧
      Json.Lawful (Matcher.decode source) Matcher.encode id Value.Permuted ∧
      Json.Lawful (Mount.decode source) Mount.encode (Value.normalRecord Mount.fields)
        (Inspection.Rearranged .mount) :=
  ⟨.of_steps Expectation.decode_encode Expectation.writable_encode Expectation.encode_of_decode
      Expectation.decode_alike,
    .of_steps Matcher.decode_encode Matcher.writable_encode Matcher.encode_of_decode
      Matcher.decode_permuted,
    .of_steps Mount.decode_encode Mount.writable_encode Mount.encode_of_decode
      Mount.decode_rearranged⟩

/-- An expectation without a stream and a mount with other names than the usual ones have the normal
forms of what is read, and an expectation is read the same with its members the other way round. -/
theorem uptime_encodings_lawful :
    Expectation.encode ⟨.combined, .equals "up"⟩ =
        .object [(some "stream", .text (some "combined")), (some "equals", .text (some "up"))] ∧
      Mount.encode ⟨"bind", none, "/data", none⟩ =
        Value.normalRecord Mount.fields (.object [(some "target", .text (some "/data")),
          (some "Type", .text (some "bind")), (some "read_only", .null)]) ∧
      Expectation.decode source ⟨1, .object [(some "equals", .text (some "up")),
        (some "stream", .text (some "combined"))]⟩ = .ok ⟨.combined, .equals "up"⟩ := by
  obtain ⟨hexpectation, -, hmount⟩ := encodings_lawful
  have hread : Expectation.decode source ⟨1, .object [(some "equals", .text (some "up"))]⟩ =
      .ok ⟨.combined, .equals "up"⟩ := rfl
  have hread' : Mount.decode source ⟨1, .object [(some "target", .text (some "/data")),
      (some "Type", .text (some "bind")), (some "read_only", .null)]⟩ =
        .ok ⟨"bind", none, "/data", none⟩ := rfl
  have hswap : Expectation.Alike (Expectation.encode ⟨.combined, .equals "up"⟩)
      (.object [(some "equals", .text (some "up")), (some "stream", .text (some "combined"))]) :=
    .permute (.swap ..) (by decide)
  exact ⟨hexpectation.encode_decode hread, hmount.encode_decode hread',
    hexpectation.decode_alike (.single hswap) (hexpectation.decode_encode 0 _)⟩

end ComposeHarness
