import ComposeHarness.Proofs.ScenarioFile.Judgement

/-!
# Command lines read back

A quoted command line is read from its start. The program ends before the first space, and after it
a space starts an argument unless it stands between two quotes. This gives back every invocation
whose program holds no space and whose arguments hold no quote, so its line belongs to no other
invocation of that kind.
-/
namespace ComposeHarness.Command

/-- The line of this invocation can be read. -/
structure Readable (program : String) (arguments : List String) : Prop where
  program : ' ' ∉ program.toList
  arguments : ∀ a ∈ arguments, '\'' ∉ a.toList

/-! ### Reading a line -/

/-- The texts between the spaces that stand outside of quotes. A quote opens or closes, and is not
kept. -/
def unquoted (inside : Bool) : List Char → List (List Char)
  | [] => [[]]
  | c :: rest =>
    if c = '\'' then unquoted (!inside) rest
    else if c = ' ' && !inside then [] :: unquoted inside rest
    else (unquoted inside rest).modifyHead (c :: ·)

/-- The program and the arguments of a line. -/
def readLine (text : String) : String × List String :=
  let program := text.toList.takeWhile (· != ' ')
  let rest := text.toList.dropWhile (· != ' ')
  (String.ofList program, (unquoted false rest).tail.map String.ofList)

/-- The characters of the arguments in a line. -/
def argumentChars (arguments : List String) : List Char :=
  arguments.flatMap fun a => ' ' :: (word a).toList

theorem toList_line (program : String) (arguments : List String) :
    (line program arguments).toList = program.toList ++ argumentChars arguments := by
  unfold line
  induction arguments generalizing program with
  | nil => simp [argumentChars]
  | cons a arguments ih =>
    rw [List.foldl_cons, ih]
    simp [argumentChars]

/-- A text without quotes is taken as it is, if it holds no space or stands between quotes. -/
theorem unquoted_append {inside : Bool} {cs : List Char} (hquote : '\'' ∉ cs)
    (hspace : inside = true ∨ ' ' ∉ cs) (rest : List Char) :
    unquoted inside (cs ++ rest) = (unquoted inside rest).modifyHead (cs ++ ·) := by
  induction cs with
  | nil => cases h : unquoted inside rest <;> simp [h]
  | cons c cs ih =>
    simp only [List.mem_cons, not_or] at hquote hspace
    have hc : ¬(c = ' ' && !inside) = true := by
      rcases hspace with rfl | ⟨hc, -⟩
      · simp
      · simp [Ne.symm hc]
    rw [List.cons_append, unquoted, if_neg (Ne.symm hquote.1), if_neg hc,
      ih hquote.2 (hspace.imp_right And.right)]
    cases unquoted inside rest <;> rfl

theorem space_not_mem_of_plain {a : String} (h : needsQuotes a = false) : ' ' ∉ a.toList := by
  intro hmem
  simp only [needsQuotes, Bool.or_eq_false_iff, List.any_eq_false] at h
  exact h.2 ' ' hmem Text.isBlank_space

/-- An argument is taken whole, whether it had to be quoted or not. -/
theorem unquoted_word {a : String} (h : '\'' ∉ a.toList) (rest : List Char) :
    unquoted false ((word a).toList ++ rest) = (unquoted false rest).modifyHead (a.toList ++ ·) := by
  cases hquotes : needsQuotes a with
  | false =>
    simp only [word, hquotes, Bool.false_eq_true, if_false]
    exact unquoted_append h (.inr (space_not_mem_of_plain hquotes)) rest
  | true =>
    have hchars : (word a).toList ++ rest = '\'' :: (a.toList ++ '\'' :: rest) := by
      simp [word, hquotes]
    rw [hchars, unquoted, if_pos rfl, Bool.not_false, unquoted_append h (.inl rfl), unquoted,
      if_pos rfl, Bool.not_true]

theorem unquoted_argumentChars {arguments : List String}
    (h : ∀ a ∈ arguments, '\'' ∉ a.toList) :
    unquoted false (argumentChars arguments) = [] :: arguments.map String.toList := by
  induction arguments with
  | nil => rfl
  | cons a arguments ih =>
    obtain ⟨ha, hrest⟩ := List.forall_mem_cons.1 h
    have hchars : argumentChars (a :: arguments) =
        ' ' :: ((word a).toList ++ argumentChars arguments) := by simp [argumentChars]
    rw [hchars, unquoted, if_neg (by decide), if_pos (by decide), unquoted_word ha, ih hrest]
    simp

/-- The arguments start at the first space of the line. -/
theorem dropWhile_argumentChars (arguments : List String) :
    (argumentChars arguments).takeWhile (· != ' ') = [] ∧
      (argumentChars arguments).dropWhile (· != ' ') = argumentChars arguments := by
  cases arguments <;> simp [argumentChars]

/-- Reading a line gives back the invocation it was written for. -/
theorem readLine_line {program : String} {arguments : List String}
    (h : Readable program arguments) : readLine (line program arguments) = (program, arguments) := by
  have hprogram : ∀ c ∈ program.toList, (c != ' ') = true := by
    intro c hc
    simp only [bne_iff_ne]
    rintro rfl
    exact h.program hc
  obtain ⟨htake, hdrop⟩ := dropWhile_argumentChars arguments
  simp only [readLine, toList_line, List.takeWhile_append_of_pos hprogram,
    List.dropWhile_append_of_pos hprogram, htake, hdrop, unquoted_argumentChars h.arguments]
  simp

/-! ### Quoted lines -/

variable {σ : Type}

/-- The command line that a result, or the failure to get one, quotes. -/
def quotedLine? : Except Failure Result → Option String
  | .ok r => some r.command
  | .error (.spawn command _) => some command
  | .error (.exit command ..) => some command
  | .error _ => none

theorem quotedLine?_runAllowingError (host : Host σ) (s : Session) (arguments : List String)
    (now : Duration) (world : σ) :
    quotedLine? ((s.runAllowingError host arguments).run.run now world).value =
      some (s.commandLine arguments) := by
  simp only [runAllowingError_run]
  cases ((host.spawn (s.invocation arguments)).run now world).value with
  | error cause => rfl
  | ok done => rfl

/-- Requiring success does not change the line that is quoted. -/
theorem quotedLine?_bind_requireSuccess (outcome : Except Failure Result) :
    quotedLine? (outcome >>= Result.requireSuccess) = quotedLine? outcome := by
  cases outcome with
  | error failure => rfl
  | ok r =>
    change quotedLine? r.requireSuccess = some r.command
    unfold Result.requireSuccess
    split <;> rfl

theorem quotedLine?_run (host : Host σ) (s : Session) (arguments : List String)
    (now : Duration) (world : σ) :
    quotedLine? ((s.run host arguments).run.run now world).value =
      some (s.commandLine arguments) := by
  rw [Session.run, Act.run_bind_ofExcept, quotedLine?_bind_requireSuccess,
    quotedLine?_runAllowingError]

/-- Two invocations whose programs hold no space and whose arguments hold no quote have the same
line only if they have the same program and the same arguments. Arguments may be empty and hold
blanks of any kind. Whatever comes of running a session's binary, it quotes this line, and so it
tells what was run. -/
theorem line_identifies_invocation {p q : String} {as bs : List String} (h : Readable p as)
    (h' : Readable q bs) :
    (line p as = line q bs ↔ p = q ∧ as = bs) ∧
      ∀ (host : Host σ) (s : Session) (now : Duration) (world : σ), s.binary = ⟨p⟩ →
        quotedLine? ((s.runAllowingError host as).run.run now world).value = some (line p as) ∧
          quotedLine? ((s.run host as).run.run now world).value = some (line p as) := by
  refine ⟨⟨fun hline => ?_, ?_⟩, ?_⟩
  · have hread := congrArg readLine hline
    rw [readLine_line h, readLine_line h'] at hread
    exact Prod.mk.inj hread
  · rintro ⟨rfl, rfl⟩
    rfl
  · intro host s now world hbinary
    rw [quotedLine?_runAllowingError, quotedLine?_run, Session.commandLine, hbinary]
    exact ⟨rfl, rfl⟩

/-- An argument with a space in it, and the same letters as two arguments; both with an empty one. -/
theorem spacedArgument_line_identifies :
    Readable "docker" ["ps", "a b", ""] ∧ Readable "docker" ["ps", "a", "b", ""] ∧
      line "docker" ["ps", "a b", ""] ≠ line "docker" ["ps", "a", "b", ""] := by
  have h : Readable "docker" ["ps", "a b", ""] := ⟨by decide, by decide⟩
  have h' : Readable "docker" ["ps", "a", "b", ""] := ⟨by decide, by decide⟩
  refine ⟨h, h', fun hline => ?_⟩
  have hsame := (line_identifies_invocation (σ := Unit) h h').1.1 hline
  exact absurd hsame.2 (by decide)

/-- A quote in an argument can be taken for one around it. -/
example : line "docker" ["''"] = line "docker" [""] := by decide +kernel

end ComposeHarness.Command
