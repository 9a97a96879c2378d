import ComposeHarness.Command.Run

/-!
# Captures are faithful

A capture reads two pipes until both have reached their end. Which of them is read next, and how
much of it, is left open. Whatever happens, nothing that was written to a pipe is lost, repeated or
put out of order, and the combined capture interleaves what has been read of the two.
-/
namespace ComposeHarness.Command

open Text (Bytes)

/-! ### Interleavings -/

/-- The third list is made up of the first two, each in its own order. -/
inductive Interleaves {α : Type} : List α → List α → List α → Prop where
  | nil : Interleaves [] [] []
  | left {x : α} {xs ys zs : List α} (h : Interleaves xs ys zs) :
      Interleaves (x :: xs) ys (x :: zs)
  | right {y : α} {xs ys zs : List α} (h : Interleaves xs ys zs) :
      Interleaves xs (y :: ys) (y :: zs)

namespace Interleaves

variable {α : Type} {xs ys zs : List α}

theorem swap (h : Interleaves xs ys zs) : Interleaves ys xs zs := by
  induction h with
  | nil => exact .nil
  | left _ ih => exact .right ih
  | right _ ih => exact .left ih

theorem self (xs : List α) : Interleaves xs [] xs := by
  induction xs with
  | nil => exact .nil
  | cons x xs ih => exact .left ih

/-- What is added to the first list comes last in the interleaving. -/
theorem append_left (h : Interleaves xs ys zs) (more : List α) :
    Interleaves (xs ++ more) ys (zs ++ more) := by
  induction h with
  | nil => exact self more
  | left _ ih => exact .left ih
  | right _ ih => exact .right ih

theorem append_right (h : Interleaves xs ys zs) (more : List α) :
    Interleaves xs (ys ++ more) (zs ++ more) :=
  (h.swap.append_left more).swap

theorem length_eq (h : Interleaves xs ys zs) : zs.length = xs.length + ys.length := by
  induction h with
  | nil => rfl
  | left _ ih => simp only [List.length_cons, ih]; omega
  | right _ ih => simp only [List.length_cons, ih]; omega

end Interleaves

/-! ### One read -/

namespace Captured

variable {c : Captured} {pipe : Pipe} {part : Bytes}

/-- What has been captured of a pipe. -/
def bytes (c : Captured) : Pipe → Bytes
  | .stdout => c.stdout
  | .stderr => c.stderr

theorem hasEnded_iff : c.hasEnded ↔ ∀ pipe, c.isOpen pipe = false := by
  constructor
  · intro h pipe
    obtain ⟨hout, herr⟩ : c.stdoutOpen = false ∧ c.stderrOpen = false := by simpa [hasEnded] using h
    cases pipe with
    | stdout => exact hout
    | stderr => exact herr
  · intro h
    have hout : c.stdoutOpen = false := h .stdout
    have herr : c.stderrOpen = false := h .stderr
    simp [hasEnded, hout, herr]

/-- Once both pipes have ended, nothing is taken in. -/
theorem foldl_take_of_hasEnded (ended : c.hasEnded) (reads : List Read) :
    reads.foldl take c = c := by
  induction reads with
  | nil => rfl
  | cons r reads ih =>
    have htake : c.take r = c := by simp [take, hasEnded_iff.1 ended r.pipe]
    rw [List.foldl_cons, htake, ih]

/-- A read adds its bytes to those of its pipe. -/
theorem bytes_take (opened : c.isOpen pipe) (part : Bytes) (other : Pipe) :
    (c.take ⟨pipe, part⟩).bytes other =
      if other = pipe then c.bytes other ++ part else c.bytes other := by
  cases pipe <;> cases other <;> cases part <;> simp_all [take, bytes]

/-- A read adds its bytes to the combined capture. -/
theorem combined_take (opened : c.isOpen pipe) :
    (c.take ⟨pipe, part⟩).combined = c.combined ++ part := by
  cases pipe <;> cases part <;> simp_all [take]

/-- An empty read closes its pipe, and nothing else does. -/
theorem isOpen_take (opened : c.isOpen pipe) (other : Pipe) :
    (c.take ⟨pipe, part⟩).isOpen other = false ↔
      c.isOpen other = false ∨ other = pipe ∧ part = [] := by
  cases pipe <;> cases other <;> cases part <;> simp_all [take, isOpen]

theorem interleaves_take (opened : c.isOpen pipe) (h : Interleaves c.stdout c.stderr c.combined) :
    Interleaves (c.take ⟨pipe, part⟩).stdout (c.take ⟨pipe, part⟩).stderr
      (c.take ⟨pipe, part⟩).combined := by
  have hout := bytes_take opened part .stdout
  have herr := bytes_take opened part .stderr
  rw [combined_take opened]
  simp only [bytes] at hout herr
  rw [hout, herr]
  cases pipe with
  | stdout => simpa using h.append_left part
  | stderr => simpa using h.append_right part

/-- How many pipes have reached their end. -/
def closedPipes (c : Captured) : Nat :=
  (if c.stdoutOpen then 0 else 1) + if c.stderrOpen then 0 else 1

theorem closedPipes_le (c : Captured) : c.closedPipes ≤ 2 := by
  unfold closedPipes
  split <;> split <;> omega

/-- Each read brings the capture nearer to its end: by its bytes, or by one pipe. -/
theorem progress_take (opened : c.isOpen pipe) (part : Bytes) :
    c.combined.length + c.closedPipes <
      (c.take ⟨pipe, part⟩).combined.length + (c.take ⟨pipe, part⟩).closedPipes := by
  rw [combined_take opened]
  cases pipe <;> cases part <;> simp_all [take, isOpen, closedPipes]

end Captured

/-! ### The loop -/

/-- The moments of a capture of two pipes with these contents: the reads that have completed, what
is left in each pipe, and what has been captured. As long as a pipe is open it may be the one that
is read next. The read gives some of what is left there, or the end if nothing is. -/
inductive Drains (contents : Pipe → Bytes) : List Read → (Pipe → Bytes) → Captured → Prop where
  | start : Drains contents [] contents {}
  | part {reads : List Read} {left : Pipe → Bytes} {c : Captured} {rest : Bytes}
      (h : Drains contents reads left c) (pipe : Pipe) (bytes : Bytes) (opened : c.isOpen pipe)
      (here : left pipe = bytes ++ rest) (some : bytes ≠ []) (fits : bytes.length ≤ readSize) :
      Drains contents (reads ++ [⟨pipe, bytes⟩]) (fun p => if p = pipe then rest else left p)
        (c.take ⟨pipe, bytes⟩)
  | finish {reads : List Read} {left : Pipe → Bytes} {c : Captured}
      (h : Drains contents reads left c) (pipe : Pipe) (opened : c.isOpen pipe)
      (none : left pipe = []) :
      Drains contents (reads ++ [⟨pipe, []⟩]) left (c.take ⟨pipe, []⟩)

/-- What holds of a capture at every moment. -/
structure Faithful (contents : Pipe → Bytes) (reads : List Read) (left : Pipe → Bytes)
    (c : Captured) : Prop where
  ofReads_eq : Captured.ofReads reads = c
  /-- What has been captured of a pipe and what is left there make up its content. -/
  bytes_append : ∀ pipe, c.bytes pipe ++ left pipe = contents pipe
  interleaves : Interleaves c.stdout c.stderr c.combined
  /-- A pipe is closed exactly if its end has been read. -/
  closed_iff : ∀ pipe, c.isOpen pipe = false ↔ ⟨pipe, []⟩ ∈ reads
  left_eq_nil : ∀ pipe, c.isOpen pipe = false → left pipe = []
  length_le : reads.length ≤ c.combined.length + c.closedPipes

theorem ofReads_append_singleton (reads : List Read) (r : Read) :
    Captured.ofReads (reads ++ [r]) = (Captured.ofReads reads).take r := by
  simp [Captured.ofReads]

variable {contents : Pipe → Bytes} {reads : List Read} {left : Pipe → Bytes} {c : Captured}
  {pipe : Pipe}

theorem faithful_start (contents : Pipe → Bytes) : Faithful contents [] contents {} where
  ofReads_eq := rfl
  bytes_append pipe := by cases pipe <;> rfl
  interleaves := .nil
  closed_iff pipe := by cases pipe <;> simp [Captured.isOpen]
  left_eq_nil pipe closed := by cases pipe <;> cases closed
  length_le := Nat.zero_le _

/-- The invariant does not tell the end of a pipe from other reads, apart from what is left. -/
theorem Faithful.take {part : Bytes} {left' : Pipe → Bytes} (h : Faithful contents reads left c)
    (opened : c.isOpen pipe) (here : left pipe = part ++ left' pipe)
    (others : ∀ p ≠ pipe, left' p = left p) (drained : part = [] → left' pipe = []) :
    Faithful contents (reads ++ [⟨pipe, part⟩]) left' (c.take ⟨pipe, part⟩) where
  ofReads_eq := by rw [ofReads_append_singleton, h.ofReads_eq]
  bytes_append p := by
    rw [Captured.bytes_take opened]
    by_cases hp : p = pipe
    · subst hp
      simpa [here] using h.bytes_append p
    · simpa [hp, others p hp] using h.bytes_append p
  interleaves := Captured.interleaves_take opened h.interleaves
  closed_iff p := by
    rw [Captured.isOpen_take opened, h.closed_iff]
    simp [eq_comm]
  left_eq_nil p closed := by
    by_cases hp : p = pipe
    · subst hp
      rcases (Captured.isOpen_take opened p).1 closed with hclosed | ⟨-, hpart⟩
      · cases opened.symm.trans hclosed
      · exact drained hpart
    · rw [others p hp]
      exact h.left_eq_nil p (by simpa [Captured.isOpen_take opened, hp] using closed)
  length_le := by
    have hprogress := Captured.progress_take opened part
    have hlength := h.length_le
    rw [List.length_append, List.length_singleton]
    omega

theorem Drains.faithful (h : Drains contents reads left c) : Faithful contents reads left c := by
  induction h with
  | start => exact faithful_start contents
  | part _ _ _ opened here some fits ih =>
    exact ih.take opened (by simpa using here) (fun p hp => by simp [hp]) (absurd · some)
  | finish _ _ opened none ih =>
    exact ih.take opened (by simp) (fun _ _ => rfl) (fun _ => none)

/-- As long as a pipe is open, a read of it can complete. -/
theorem Drains.exists_next (h : Drains contents reads left c) (opened : c.isOpen pipe) :
    ∃ part left' c', Drains contents (reads ++ [⟨pipe, part⟩]) left' c' := by
  cases hleft : left pipe with
  | nil => exact ⟨_, _, _, h.finish pipe opened hleft⟩
  | cons b rest =>
    exact ⟨_, _, _, h.part pipe [b] opened hleft (by simp) (by simp [readSize])⟩

/-- No capture takes more reads than there are bytes, and one for the end of each pipe. -/
theorem Faithful.length_reads_le (h : Faithful contents reads left c) :
    reads.length ≤ (contents .stdout).length + (contents .stderr).length + 2 := by
  have hout := congrArg List.length (h.bytes_append .stdout)
  have herr := congrArg List.length (h.bytes_append .stderr)
  have hclosed := c.closedPipes_le
  have hlength := h.length_le
  rw [h.interleaves.length_eq] at hlength
  simp only [List.length_append, Captured.bytes] at hout herr
  omega

/-- A capture has ended exactly if the end of both pipes has been read. -/
theorem Faithful.hasEnded_iff (h : Faithful contents reads left c) :
    c.hasEnded ↔ ∀ pipe, ⟨pipe, []⟩ ∈ reads := by
  simp only [Captured.hasEnded_iff, h.closed_iff]

/-- At its end a capture holds the whole content of each pipe. -/
theorem Faithful.bytes_eq (h : Faithful contents reads left c) (ended : c.hasEnded)
    (pipe : Pipe) : c.bytes pipe = contents pipe := by
  rw [← h.bytes_append pipe, h.left_eq_nil pipe (Captured.hasEnded_iff.1 ended pipe),
    List.append_nil]

/-- What comes after the end of a capture is not read. -/
theorem Faithful.ofReads_append (h : Faithful contents reads left c) (ended : c.hasEnded)
    (more : List Read) : Captured.ofReads (reads ++ more) = c := by
  have hreads : reads.foldl Captured.take {} = c := h.ofReads_eq
  rw [Captured.ofReads, List.foldl_append, hreads, Captured.foldl_take_of_hasEnded ended]

/-! ### The texts of a command -/

variable {σ : Type}

/-- A command that is started gives the result of its completion, once it has completed. -/
theorem runAllowingError_run (host : Host σ) (s : Session) (arguments : List String)
    (now : Duration) (world : σ) :
    (s.runAllowingError host arguments).run.run now world =
      let span := (host.spawn (s.invocation arguments)).run now world
      ⟨(span.value.mapError (.spawn (s.commandLine arguments))).map (s.result arguments),
        span.spent, span.world⟩ := by
  have hlift : (s.runAllowingError host arguments).run =
      host.spawn (s.invocation arguments) >>= fun outcome =>
        pure ((outcome.mapError (.spawn (s.commandLine arguments))).map (s.result arguments)) := by
    refine (ExceptT.run_bind_lift ..).trans (bind_congr fun outcome => ?_)
    cases outcome <;> rfl
  rw [hlift]
  rfl

/-- The texts of a command's result are those of what was written to its pipes. -/
def TellsOf (contents : Pipe → Bytes) (r : Result) : Prop :=
  r.stdout = Text.decodeLossy (contents .stdout) ∧ r.stderr = Text.decodeLossy (contents .stderr)

theorem Faithful.tellsOf_result (h : Faithful contents reads left c) (ended : c.hasEnded)
    (s : Session) (arguments : List String) (status : ExitStatus) :
    TellsOf contents (s.result arguments ⟨status, reads⟩) := by
  have hout := h.bytes_eq ended .stdout
  have herr := h.bytes_eq ended .stderr
  simp only [Captured.bytes] at hout herr
  simp only [TellsOf, Session.result, h.ofReads_eq, hout, herr, and_self]

/-- However the reads of two pipes are cut and ordered, at every moment the capture holds a first
part of the content of each pipe, and the two interleaved. The loop goes on until it has read the
end of both, which it does after finitely many reads, and then it holds all that was written. So
the texts of a command depend on nothing but what was written to each pipe. -/
theorem capture_is_faithful (h : Drains contents reads left c) :
    Faithful contents reads left c ∧ (c.hasEnded ↔ ∀ pipe, ⟨pipe, []⟩ ∈ reads) ∧
      (∀ pipe, c.isOpen pipe →
        ∃ part left' c', Drains contents (reads ++ [⟨pipe, part⟩]) left' c') ∧
      reads.length ≤ (contents .stdout).length + (contents .stderr).length + 2 ∧
      (c.hasEnded → c.stdout = contents .stdout ∧ c.stderr = contents .stderr ∧
        (∀ more, Captured.ofReads (reads ++ more) = c) ∧
        ∀ (host : Host σ) (s : Session) (arguments : List String) (now : Duration) (world : σ)
          (status : ExitStatus),
          ((host.spawn (s.invocation arguments)).run now world).value = .ok ⟨status, reads⟩ →
          ∃ r, ((s.runAllowingError host arguments).run.run now world).value = .ok r ∧
            TellsOf contents r) := by
  have faithful := h.faithful
  refine ⟨faithful, faithful.hasEnded_iff, fun pipe => h.exists_next, faithful.length_reads_le,
    fun ended => ⟨faithful.bytes_eq ended .stdout, faithful.bytes_eq ended .stderr,
      faithful.ofReads_append ended, ?_⟩⟩
  intro host s arguments now world status spawned
  refine ⟨_, ?_, faithful.tellsOf_result ended s arguments status⟩
  simp only [runAllowingError_run, spawned]
  rfl

/-- A letter of two bytes and a line end on one pipe, an exclamation mark on the other. -/
def twoPipes : Pipe → Bytes
  | .stdout => [0xc3, 0xa9, 0x0a]
  | .stderr => [0x21]

/-- The reads cut the letter in two, and the other pipe ends in between. -/
def cutLetter : List Read :=
  [⟨.stdout, [0xc3]⟩, ⟨.stderr, [0x21]⟩, ⟨.stderr, []⟩, ⟨.stdout, [0xa9, 0x0a]⟩, ⟨.stdout, []⟩]

theorem drains_cutLetter : ∃ left, Drains twoPipes cutLetter left
    ⟨[0xc3, 0xa9, 0x0a], [0x21], [0xc3, 0x21, 0xa9, 0x0a], false, false⟩ := by
  have h₀ : Drains twoPipes [] twoPipes {} := .start
  have h₁ := h₀.part .stdout [0xc3] rfl (show _ = _ ++ [0xa9, 0x0a] from rfl) (by simp) (by decide)
  have h₂ := h₁.part .stderr [0x21] rfl (show _ = _ ++ [] from rfl) (by simp) (by decide)
  have h₃ := h₂.finish .stderr rfl rfl
  have h₄ := h₃.part .stdout [0xa9, 0x0a] rfl (show _ = _ ++ [] from rfl) (by simp) (by decide)
  exact ⟨_, h₄.finish .stdout rfl rfl⟩

theorem cutLetter_capture_is_faithful : ∃ left c, Drains twoPipes cutLetter left c ∧ c.hasEnded ∧
    c.stdout = twoPipes .stdout ∧ c.stderr = twoPipes .stderr ∧
      ∀ more, Captured.ofReads (cutLetter ++ more) = c := by
  obtain ⟨left, h⟩ := drains_cutLetter
  obtain ⟨-, -, -, -, hended⟩ := capture_is_faithful (σ := Unit) h
  obtain ⟨hout, herr, hmore, -⟩ := hended rfl
  exact ⟨left, _, h, rfl, hout, herr, hmore⟩

end ComposeHarness.Command
