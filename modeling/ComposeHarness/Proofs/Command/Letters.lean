import Mathlib.Data.List.Induction
import ComposeHarness.Machine.Basic
import ComposeHarness.Proofs.Command.Capture
import ComposeHarness.Proofs.Text.Letters

/-!
# Letters in a combined capture

The combined capture takes the bytes of two pipes in the order of the reads, and is read as text
only when it has ended. A read may end within a letter. The capture keeps the letters of the two
pipes whole exactly if no bytes of one pipe are read while the other is within a letter.
-/
namespace ComposeHarness.Command

open Text

def Pipe.other : Pipe → Pipe
  | .stdout => .stderr
  | .stderr => .stdout

@[simp] theorem Pipe.other_other (pipe : Pipe) : pipe.other.other = pipe := by
  cases pipe <;> rfl

theorem Pipe.other_ne (pipe : Pipe) : pipe.other ≠ pipe := by
  cases pipe <;> simp [Pipe.other]

theorem Pipe.eq_or_eq_other (p pipe : Pipe) : p = pipe ∨ p = pipe.other := by
  cases p <;> cases pipe <;> simp [Pipe.other]

/-- Whenever bytes of a pipe are read, what has been read of the other pipe is text. -/
def KeepsLetters (reads : List Read) : Prop :=
  ∀ before r after, reads = before ++ r :: after → r.bytes ≠ [] →
    IsText ((Captured.ofReads before).bytes r.pipe.other)

section Order

variable {reads : List Read} {r : Read}

theorem keepsLetters_nil : KeepsLetters [] := by
  intro before r after h
  simp at h

theorem keepsLetters_append_singleton :
    KeepsLetters (reads ++ [r]) ↔ KeepsLetters reads ∧
      (r.bytes ≠ [] → IsText ((Captured.ofReads reads).bytes r.pipe.other)) := by
  constructor
  · refine fun h => ⟨fun before r' after hr => ?_, h reads r [] rfl⟩
    exact h before r' (after ++ [r]) (by rw [hr, List.append_assoc, List.cons_append])
  · rintro ⟨hreads, hr⟩ before r' after h
    rcases List.eq_nil_or_concat after with rfl | ⟨after, last, rfl⟩
    · obtain ⟨rfl, h⟩ := List.append_inj' h rfl
      obtain rfl : r = r' := by simpa using h
      exact hr
    · rw [List.concat_eq_append, ← List.cons_append, ← List.append_assoc] at h
      exact hreads before r' after (List.append_inj' h rfl).1

end Order

/-! ### Merging letters -/

/-- The letters of two pipes after more of them have come from one. -/
def addLetters (letters : Pipe → List Char) (pipe : Pipe) (more : List Char) (p : Pipe) :
    List Char :=
  if p = pipe then letters p ++ more else letters p

theorem addLetters_self (letters : Pipe → List Char) (pipe : Pipe) (more : List Char) :
    addLetters letters pipe more pipe = letters pipe ++ more := if_pos rfl

theorem addLetters_other (letters : Pipe → List Char) (pipe : Pipe) (more : List Char) :
    addLetters letters pipe more pipe.other = letters pipe.other := if_neg pipe.other_ne

theorem Interleaves.addLetters {letters : Pipe → List Char} {merged : List Char}
    (h : Interleaves (letters .stdout) (letters .stderr) merged) (pipe : Pipe) (more : List Char) :
    Interleaves (addLetters letters pipe more .stdout) (addLetters letters pipe more .stderr)
      (merged ++ more) := by
  cases pipe with
  | stdout => exact h.append_left more
  | stderr => exact h.append_right more

theorem Interleaves.perm {α : Type} {xs ys zs : List α} (h : Interleaves xs ys zs) :
    zs.Perm (xs ++ ys) := by
  induction h with
  | nil => exact .nil
  | left _ ih => exact ih.cons _
  | right _ ih => exact (ih.cons _).trans List.perm_middle.symm

/-- The capture has merged the letters of two pipes. Only the first of them may be within a letter,
and then the piece it has of it comes last. -/
structure Merged (c : Captured) (pipe : Pipe) (letters : Pipe → List Char) (merged : List Char)
    (piece : Bytes) : Prop where
  combined : c.combined = encodeChars merged ++ piece
  here : c.bytes pipe = encodeChars (letters pipe) ++ piece
  other : c.bytes pipe.other = encodeChars (letters pipe.other)
  interleaves : Interleaves (letters .stdout) (letters .stderr) merged

section Merging

variable {c : Captured} {pipe p : Pipe} {letters : Pipe → List Char} {merged : List Char}
  {piece part : Bytes}

theorem merged_start (pipe : Pipe) : Merged {} pipe (fun _ => []) [] [] where
  combined := rfl
  here := by cases pipe <;> rfl
  other := by cases pipe <;> rfl
  interleaves := .nil

/-- Without a piece, the roles of the pipes can be swapped. -/
theorem Merged.change (h : Merged c pipe letters merged []) (p : Pipe) :
    Merged c p letters merged [] where
  combined := h.combined
  here := by
    rcases p.eq_or_eq_other pipe with rfl | rfl
    · exact h.here
    · rw [h.other, List.append_nil]
  other := by
    rcases p.eq_or_eq_other pipe with rfl | rfl
    · exact h.other
    · rw [Pipe.other_other, h.here, List.append_nil]
  interleaves := h.interleaves

/-- When the pipe is not within a letter, all that has been read is merged. -/
theorem Merged.complete (h : Merged c pipe letters merged piece) (text : IsText (c.bytes pipe)) :
    ∃ letters merged, Merged c pipe letters merged [] := by
  rw [h.here, IsText.append_iff ⟨_, rfl⟩] at text
  obtain ⟨more, rfl⟩ := text
  refine ⟨addLetters letters pipe more, merged ++ more, ⟨?_, ?_, ?_, h.interleaves.addLetters ..⟩⟩
  · rw [h.combined, encodeChars_append, List.append_nil]
  · rw [h.here, addLetters_self, encodeChars_append, List.append_nil]
  · rw [h.other, addLetters_other]

/-- A read of the same pipe completes the piece, adds letters and ends with a new piece. -/
theorem Merged.take (h : Merged c pipe letters merged piece) (opened : c.isOpen pipe) {rest : Bytes}
    (text : IsText (c.bytes pipe ++ (part ++ rest))) :
    ∃ letters merged piece, Merged (c.take ⟨pipe, part⟩) pipe letters merged piece := by
  rw [h.here, List.append_assoc, IsText.append_iff ⟨_, rfl⟩, ← List.append_assoc] at text
  obtain ⟨more, piece', hmore, -⟩ := exists_piece text
  refine ⟨addLetters letters pipe more, merged ++ more, piece',
    ⟨?_, ?_, ?_, h.interleaves.addLetters ..⟩⟩
  · rw [Captured.combined_take opened, h.combined, List.append_assoc, hmore, encodeChars_append,
      List.append_assoc]
  · rw [Captured.bytes_take opened, if_pos rfl, h.here, List.append_assoc, hmore, addLetters_self,
      encodeChars_append, List.append_assoc]
  · rw [Captured.bytes_take opened, if_neg pipe.other_ne, h.other, addLetters_other]

/-- The end of a pipe adds nothing. -/
theorem Merged.takeEnd (h : Merged c pipe letters merged piece) (opened : c.isOpen p) :
    Merged (c.take ⟨p, []⟩) pipe letters merged piece := by
  have hbytes : ∀ q, (c.take ⟨p, []⟩).bytes q = c.bytes q := fun q => by
    rw [Captured.bytes_take opened, List.append_nil, ite_self]
  refine ⟨?_, hbytes pipe ▸ h.here, hbytes pipe.other ▸ h.other, h.interleaves⟩
  rw [Captured.combined_take opened, List.append_nil, h.combined]

/-! ### Cutting letters -/

/-- Bytes of another letter come after a piece of one. -/
def IsCut (bs : Bytes) : Prop :=
  ∃ cs p b rest, IsPiece p ∧ ¬isTail b ∧ bs = encodeChars cs ++ (p ++ b :: rest)

theorem IsCut.append {bs : Bytes} (h : IsCut bs) (more : Bytes) : IsCut (bs ++ more) := by
  obtain ⟨cs, p, b, rest, hp, hb, rfl⟩ := h
  exact ⟨cs, p, b, rest ++ more, hp, hb, by simp⟩

theorem IsCut.not_isText {bs : Bytes} (h : IsCut bs) : ¬IsText bs := by
  obtain ⟨cs, p, b, rest, hp, hb, rfl⟩ := h
  rw [IsText.append_iff ⟨_, rfl⟩]
  exact hp.not_isText hb

/-- A read of the one pipe while the other is within a letter cuts that letter. -/
theorem Merged.isCut (h : Merged c pipe letters merged piece) (within : ¬IsText (c.bytes pipe))
    {left : Bytes} (textHere : IsText (c.bytes pipe ++ left)) (opened : c.isOpen pipe.other)
    (some : part ≠ []) {rest : Bytes} (text : IsText (c.bytes pipe.other ++ (part ++ rest))) :
    IsCut (c.take ⟨pipe.other, part⟩).combined := by
  rw [h.other, IsText.append_iff ⟨_, rfl⟩] at text
  rw [h.here, IsText.append_iff ⟨_, rfl⟩] at within
  rw [h.here, List.append_assoc, IsText.append_iff ⟨_, rfl⟩] at textHere
  obtain ⟨more, p, rfl, hp⟩ := exists_piece textHere
  obtain ⟨b, part, rfl⟩ := List.exists_cons_of_ne_nil some
  obtain ⟨_, _, _, hletter, -⟩ := text.exists_letter
  refine ⟨merged ++ more, p, b, part, hp.resolve_left ?_, hletter.first, ?_⟩
  · rintro rfl
    exact within ⟨more, (List.append_nil _).symm⟩
  · rw [Captured.combined_take opened, h.combined]
    simp

end Merging

/-! ### The loop -/

section Loop

variable {contents : Pipe → Bytes} {reads : List Read} {left : Pipe → Bytes} {c : Captured}
  {pipe : Pipe}

/-- Either no letter has been cut so far, and the letters are merged, or one has. -/
def Letterwise (reads : List Read) (c : Captured) : Prop :=
  (KeepsLetters reads ∧ ∃ pipe letters merged piece, Merged c pipe letters merged piece) ∨
    (¬KeepsLetters reads ∧ IsCut c.combined)

theorem Letterwise.take {part rest : Bytes} (h : Letterwise reads c)
    (faithful : Faithful contents reads left c) (text : ∀ pipe, IsText (contents pipe))
    (opened : c.isOpen pipe) (here : left pipe = part ++ rest) :
    Letterwise (reads ++ [⟨pipe, part⟩]) (c.take ⟨pipe, part⟩) := by
  have hbytes : ∀ p, IsText (c.bytes p ++ left p) := fun p => faithful.bytes_append p ▸ text p
  have hhere := here ▸ hbytes pipe
  rw [Letterwise, keepsLetters_append_singleton, faithful.ofReads_eq]
  rcases h with ⟨keeps, p, letters, merged, piece, h⟩ | ⟨cuts, h⟩
  · by_cases hpart : part = []
    · subst hpart
      exact .inl ⟨⟨keeps, absurd rfl⟩, p, letters, merged, piece, h.takeEnd opened⟩
    rcases pipe.eq_or_eq_other p with rfl | rfl
    -- Only this pipe may be within a letter, which the read continues.
    · have hother : IsText (c.bytes pipe.other) := ⟨_, h.other.symm⟩
      exact .inl ⟨⟨keeps, fun _ => hother⟩, pipe, h.take opened hhere⟩
    -- The other pipe may be: then the read cuts its letter, and nothing mends that.
    · by_cases hwithin : IsText (c.bytes p)
      · obtain ⟨letters, merged, h⟩ := h.complete hwithin
        exact .inl ⟨⟨keeps, fun _ => p.other_other.symm ▸ hwithin⟩, p.other,
          (h.change p.other).take opened hhere⟩
      · refine .inr ⟨fun keeps => hwithin ?_, h.isCut hwithin (hbytes p) opened hpart hhere⟩
        simpa using keeps.2 hpart
  · refine .inr ⟨fun keeps => cuts keeps.1, ?_⟩
    rw [Captured.combined_take opened]
    exact h.append part

theorem Drains.letterwise (h : Drains contents reads left c)
    (text : ∀ pipe, IsText (contents pipe)) : Letterwise reads c := by
  induction h with
  | start => exact .inl ⟨keepsLetters_nil, .stdout, _, _, _, merged_start .stdout⟩
  | part h pipe bytes opened here some fits ih => exact ih.take h.faithful text opened here
  | finish h pipe opened none ih =>
    exact ih.take h.faithful text opened (show _ = [] ++ [] from none)

/-! ### The combined text -/

/-- If no letter has been cut, the combined text merges the letters of the two others. -/
theorem Merged.result {letters : Pipe → List Char} {merged : List Char}
    (h : Merged (Captured.ofReads reads) pipe letters merged []) (s : Session)
    (arguments : List String) (status : ExitStatus) :
    (s.result arguments ⟨status, reads⟩).stdout.toList = letters .stdout ∧
      (s.result arguments ⟨status, reads⟩).stderr.toList = letters .stderr ∧
      (s.result arguments ⟨status, reads⟩).combined.toList = merged := by
  have hout := (h.change .stdout).here
  have herr := (h.change .stderr).here
  have hcombined := h.combined
  simp only [Captured.bytes] at hout herr
  simp only [Session.result, decodeLossy, String.toList_ofList, hout, herr, hcombined,
    List.append_nil, decodeLossyChars_encodeChars, and_self]

/-- If the combined text merges the letters of two texts, its bytes are text: they are those of
the letters, in another order. -/
theorem Faithful.isText_combined (h : Faithful contents reads left c)
    (text : ∀ pipe, IsText (c.bytes pipe))
    (merges : Interleaves (decodeLossyChars c.stdout) (decodeLossyChars c.stderr)
      (decodeLossyChars c.combined)) : IsText c.combined := by
  have hout : IsText c.stdout := text .stdout
  have herr : IsText c.stderr := text .stderr
  have hletters := encodeChars_perm merges.perm
  rw [encodeChars_append, isText_iff.1 hout, isText_iff.1 herr] at hletters
  exact isText_of_perm (hletters.trans h.interleaves.perm.symm)

/-- What the combined text has to do with the texts of the two pipes. -/
structure CombinedOf (reads : List Read) (r : Result) : Prop where
  interleaves_iff :
    Interleaves r.stdout.toList r.stderr.toList r.combined.toList ↔ KeepsLetters reads
  replacement_iff : replacementChar ∈ r.combined.toList ↔
    ¬KeepsLetters reads ∨ replacementChar ∈ r.stdout.toList ∨ replacementChar ∈ r.stderr.toList

theorem Drains.combinedOf (h : Drains contents reads left c) (ended : c.hasEnded)
    (text : ∀ pipe, IsText (contents pipe)) (s : Session) (arguments : List String)
    (status : ExitStatus) : CombinedOf reads (s.result arguments ⟨status, reads⟩) := by
  have faithful := h.faithful
  have hbytes : ∀ pipe, IsText (c.bytes pipe) := fun pipe =>
    (faithful.bytes_eq ended pipe).symm ▸ text pipe
  rcases h.letterwise text with ⟨keeps, pipe, _, _, _, hmerged⟩ | ⟨cuts, hcut⟩
  · obtain ⟨letters, merged, hmerged⟩ := hmerged.complete (hbytes pipe)
    rw [← faithful.ofReads_eq] at hmerged
    obtain ⟨hout, herr, hcombined⟩ := hmerged.result s arguments status
    constructor <;> rw [hout, herr, hcombined]
    · exact iff_of_true hmerged.interleaves keeps
    · rw [hmerged.interleaves.perm.mem_iff, List.mem_append, or_iff_right (not_not_intro keeps)]
  · have hno := hcut.not_isText
    constructor <;>
      simp only [Session.result, decodeLossy, String.toList_ofList, faithful.ofReads_eq]
    · exact iff_of_false (fun merges => hno (faithful.isText_combined hbytes merges)) cuts
    · exact iff_of_true (replacementChar_mem hno) (.inl cuts)

end Loop

/-- Reads that give whole letters give text. -/
theorem isText_ofReads {reads : List Read} (text : ∀ r ∈ reads, IsText r.bytes) (pipe : Pipe) :
    IsText ((Captured.ofReads reads).bytes pipe) := by
  induction reads using List.reverseRecOn with
  | nil => cases pipe <;> exact isText_nil
  | append_singleton reads r ih =>
    have hreads := ih fun r' hr' => text r' (List.mem_append_left _ hr')
    rw [ofReads_append_singleton]
    by_cases opened : (Captured.ofReads reads).isOpen r.pipe
    · rw [Captured.bytes_take opened]
      split
      · rw [hreads.append_iff]
        exact text r (by simp)
      · exact hreads
    · simpa [Captured.take, opened] using hreads

theorem keepsLetters_of_isText {reads : List Read} (text : ∀ r ∈ reads, IsText r.bytes) :
    KeepsLetters reads := by
  rintro before r after rfl -
  exact isText_ofReads (fun r' hr' => text r' (List.mem_append_left _ hr')) r.pipe.other

variable {σ : Type}

/-- The texts of a command that writes valid text to two pipes tell just what it has written. The
combined text merges their letters exactly if no bytes of one pipe are read while the other is
within a letter, as it is when every read gives whole letters. Otherwise it has a replacement
character that may be in neither of them. -/
theorem combined_merges_iff_keepsLetters {contents : Pipe → Bytes} {reads : List Read}
    {left : Pipe → Bytes} {c : Captured} (h : Drains contents reads left c) (ended : c.hasEnded)
    (text : ∀ pipe, (decodeStrict (contents pipe)).isSome) (host : Host σ) (s : Session)
    (arguments : List String) (now : Duration) (world : σ) (status : ExitStatus)
    (spawned : ((host.spawn (s.invocation arguments)).run now world).value =
      .ok ⟨status, reads⟩) :
    ∃ r, ((s.runAllowingError host arguments).run.run now world).value = .ok r ∧
      encode r.stdout = contents .stdout ∧ encode r.stderr = contents .stderr ∧
      CombinedOf reads r ∧ ((∀ r ∈ reads, IsText r.bytes) → KeepsLetters reads) := by
  have htext : ∀ pipe, IsText (contents pipe) := fun pipe => isSome_decodeStrict.1 (text pipe)
  obtain ⟨hout, herr⟩ := h.faithful.tellsOf_result ended s arguments status
  refine ⟨s.result arguments ⟨status, reads⟩, ?_, ?_, ?_,
    h.combinedOf ended htext s arguments status, keepsLetters_of_isText⟩
  · simp only [runAllowingError_run, spawned]
    rfl
  · rw [hout, encode, decodeLossy, String.toList_ofList, isText_iff.1 (htext .stdout)]
  · rw [herr, encode, decodeLossy, String.toList_ofList, isText_iff.1 (htext .stderr)]

/-- A machine on which every program ends in the same way. -/
def endingIn (done : Completion) : Host Machine :=
  { Machine.host with spawn := fun _ => pure (.ok done) }

theorem isSome_twoPipes (pipe : Pipe) : (decodeStrict (twoPipes pipe)).isSome := by
  rw [isSome_decodeStrict]
  cases pipe with
  | stdout => exact ⟨['é', '\n'], rfl⟩
  | stderr => exact ⟨['!'], rfl⟩

/-- The letter comes in two reads, but nothing comes in between. -/
def wholeLetter : List Read :=
  [⟨.stdout, [0xc3]⟩, ⟨.stdout, [0xa9]⟩, ⟨.stderr, [0x21]⟩, ⟨.stderr, []⟩, ⟨.stdout, [0x0a]⟩,
    ⟨.stdout, []⟩]

theorem keepsLetters_wholeLetter : KeepsLetters wholeLetter := by
  have h : KeepsLetters ([] ++ [⟨.stdout, [0xc3]⟩] ++ [⟨.stdout, [0xa9]⟩] ++ [⟨.stderr, [0x21]⟩] ++
      [⟨.stderr, []⟩] ++ [⟨.stdout, [0x0a]⟩] ++ [⟨.stdout, []⟩]) := by
    simp only [keepsLetters_append_singleton]
    exact ⟨⟨⟨⟨⟨⟨keepsLetters_nil, fun _ => ⟨[], rfl⟩⟩, fun _ => ⟨[], rfl⟩⟩, fun _ => ⟨['é'], rfl⟩⟩,
      fun _ => ⟨['é'], rfl⟩⟩, fun _ => ⟨['!'], rfl⟩⟩, fun _ => ⟨['!'], rfl⟩⟩
  exact h

theorem drains_wholeLetter : ∃ left, Drains twoPipes wholeLetter left
    ⟨[0xc3, 0xa9, 0x0a], [0x21], [0xc3, 0xa9, 0x21, 0x0a], false, false⟩ := by
  have h₀ : Drains twoPipes [] twoPipes {} := .start
  have h₁ := h₀.part .stdout [0xc3] rfl (show _ = _ ++ [0xa9, 0x0a] from rfl) (by simp) (by decide)
  have h₂ := h₁.part .stdout [0xa9] rfl (show _ = _ ++ [0x0a] from rfl) (by simp) (by decide)
  have h₃ := h₂.part .stderr [0x21] rfl (show _ = _ ++ [] from rfl) (by simp) (by decide)
  have h₄ := h₃.finish .stderr rfl rfl
  have h₅ := h₄.part .stdout [0x0a] rfl (show _ = _ ++ [] from rfl) (by simp) (by decide)
  exact ⟨_, h₅.finish .stdout rfl rfl⟩

theorem wholeLetter_combined_merges : ∃ r,
    (((Session.ofBinary ⟨"app"⟩).runAllowingError (endingIn ⟨.code 0, wholeLetter⟩) []).run.run .zero
      (Machine.bare [] .empty)).value = .ok r ∧
    encode r.stdout = twoPipes .stdout ∧ encode r.stderr = twoPipes .stderr ∧
    Interleaves r.stdout.toList r.stderr.toList r.combined.toList := by
  obtain ⟨left, h⟩ := drains_wholeLetter
  obtain ⟨r, hr, hout, herr, hcombined, -⟩ := combined_merges_iff_keepsLetters h rfl isSome_twoPipes
    (endingIn ⟨.code 0, wholeLetter⟩) (.ofBinary ⟨"app"⟩) [] .zero (Machine.bare [] .empty) (.code 0)
    rfl
  exact ⟨r, hr, hout, herr, hcombined.interleaves_iff.2 keepsLetters_wholeLetter⟩

/-- The exclamation mark stands within the letter, which is no letter any more. -/
theorem cutLetter_combined_not_merged : ∃ left c, Drains twoPipes cutLetter left c ∧ c.hasEnded ∧
    (∀ pipe, (decodeStrict (twoPipes pipe)).isSome) ∧ ∃ r,
      (((Session.ofBinary ⟨"app"⟩).runAllowingError (endingIn ⟨.code 0, cutLetter⟩) []).run.run .zero
        (Machine.bare [] .empty)).value = .ok r ∧
      r.stdout = "é\n" ∧ r.stderr = "!" ∧ r.combined = "\uFFFD!\uFFFD\n" ∧
      ¬Interleaves r.stdout.toList r.stderr.toList r.combined.toList ∧
      replacementChar ∈ r.combined.toList ∧
      replacementChar ∉ r.stdout.toList ∧ replacementChar ∉ r.stderr.toList := by
  obtain ⟨left, h⟩ := drains_cutLetter
  have hr : (Session.ofBinary ⟨"app"⟩).result [] ⟨.code 0, cutLetter⟩ =
      ⟨"app", 0, "é\n", "!", "\uFFFD!\uFFFD\n"⟩ := by decide +kernel
  refine ⟨left, _, h, rfl, isSome_twoPipes, _, congrArg Except.ok hr, rfl, rfl, rfl, ?_⟩
  -- A merged text would be no longer than the two others together.
  exact ⟨fun merges => absurd merges.length_eq (by decide), by decide, by decide, by decide⟩

end ComposeHarness.Command
