/-!
# Scripts

The commands of a machine's shell. A word is a list of parts; a part that is quoted is neither split
into fields nor taken for a pattern. Texts are texts of bytes.
-/
namespace ComposeHarness.Machine

/-- What a parameter stands for when it has no value. -/
inductive Missing where
  | useDefault
  | assignDefault
  | fail
  /-- The word stands for the parameter when it does have a value. -/
  | useAlternative
  deriving Repr, DecidableEq

/-- What a redirection does with its target. -/
inductive Direction where
  | read
  /-- With force even where files that are there are to be kept. -/
  | write (force : Bool)
  | append
  | readWrite
  | duplicate
  /-- The target is itself the text to be read. -/
  | text
  deriving Repr, DecidableEq

mutual

inductive Part where
  | literal (quoted : Bool) (text : String)
  /-- A quotation mark, because of which the field counts even if it is empty. -/
  | mark
  | parameter (quoted : Bool) (name : String) (use : Use)
  /-- What a script writes. -/
  | output (quoted : Bool) (body : List Command)
  | arithmetic (quoted : Bool) (expression : List Part)

/-- How the value of a parameter is used. -/
inductive Use where
  | value
  | length
  /-- With a colon, an empty value counts as missing. -/
  | whenMissing (colon : Bool) (what : Missing) (word : List Part)
  /-- Without what a pattern matches at one end. -/
  | trim (atEnd longest : Bool) (pattern : List Part)
  /-- In a way that there is not. -/
  | unknown

inductive Redirection where
  | to (descriptor : Nat) (direction : Direction) (target : List Part)

inductive Command where
  | simple (line : Nat) (assignments : List (String × List Part)) (words : List (List Part))
      (redirections : List Redirection)
  | pipeline (stages : List Command)
  | negation (body : Command)
  | both (first second : Command)
  | either (first second : Command)
  | background (body : Command)
  | subshell (body : List Command)
  | group (body : List Command)
  | redirected (line : Nat) (body : Command) (redirections : List Redirection)
  | branch (arms : List (List Command × List Command)) (otherwise : List Command)
  /-- Repeats the body while the condition has the wanted truth. -/
  | repeatWhile (wanted : Bool) (condition body : List Command)
  | forEach (line : Nat) (name : String) (words : Option (List (List Part))) (body : List Command)
  | select (line : Nat) (word : List Part) (arms : List (List (List Part) × List Command))
  | define (line : Nat) (name : String) (body : Command)

end

instance : Inhabited Command := ⟨.group []⟩

abbrev Word := List Part

abbrev Script := List Command

end ComposeHarness.Machine
