/-!
# Home directories in words

A tilde at the start of a word stands for a home directory: that of the shell, or of the account whose
name follows. The name ends at a slash, and in assignments at a colon, after which there may be
another tilde.
-/
namespace ComposeHarness.Machine.Shell

/-- The accounts of a machine, each with its home. -/
def accounts : List (String × String) :=
  [("root", "/root"), ("daemon", "/usr/sbin"), ("bin", "/bin"), ("sys", "/dev"),
    ("sync", "/bin"), ("games", "/usr/games"), ("man", "/var/cache/man"),
    ("lp", "/var/spool/lpd"), ("mail", "/var/mail"), ("news", "/var/spool/news"),
    ("uucp", "/var/spool/uucp"), ("proxy", "/bin"), ("www-data", "/var/www"),
    ("backup", "/var/backups"), ("list", "/var/list"), ("irc", "/run/ircd"),
    ("nobody", "/nonexistent")]

/-- The home that a name after a tilde stands for. -/
def homeOf (own : Option String) (name : String) : Option String :=
  if name.isEmpty then own else accounts.lookup name

/-- A text, and whether it stands in place of a tilde. -/
abbrev Placed := Bool × List Char

/-- Adds a character in front of what follows it. -/
def prepend (c : Char) : List Placed → List Placed
  | (false, cs) :: rest => (false, c :: cs) :: rest
  | rest => (false, [c]) :: rest

/-- Replaces tildes in the text of a word. `may` says whether one counts here, `again` after which
characters it does, and `final` whether the word ends with the text. -/
def placed (own : Option String) (again : List Char) (final : Bool) :
    (fuel : Nat) → (may : Bool) → List Char → List Placed
  | 0, _, _ => []
  | _, _, [] => []
  | fuel + 1, may, c :: rest =>
    let further := placed own again final fuel
    -- an equals sign counts once
    let plain := prepend c <|
      if c = '=' && again.contains '=' then placed own [':'] final fuel true rest
      else further (c = ':' && again = [':']) rest
    if c = '~' && may then
      let ends (d : Char) : Bool := d = '/' || (d = ':' && !again.isEmpty)
      let name := rest.takeWhile fun d => !ends d
      let after := rest.drop name.length
      match if after.isEmpty && !final then none else homeOf own (String.ofList name) with
      | some home => (true, home.toList) :: further false after
      | none => plain
    else plain

/-- Where tildes count in a word. -/
inductive Tildes where
  | nowhere
  | atStart
  /-- In the value of an assignment: at its start and after colons. -/
  | inValue
  /-- In a whole assignment: as in the value after its equals sign. -/
  | inAssignment
  deriving Repr, DecidableEq

/-- Replaces tildes in a part of a word, of which it may be the first and the last one. -/
def Tildes.place (t : Tildes) (own : Option String) (first final : Bool) (text : String) :
    List Placed :=
  let (again, may) := match t with
    | .nowhere => ([], false)
    | .atStart => ([], first)
    | .inValue => ([':'], first)
    | .inAssignment => (if first then ['='] else [':'], false)
  placed own again final (text.length + 1) may text.toList

example : Tildes.place .inValue (some "/root") true true "~:~/a" =
    [(true, "/root".toList), (false, [':']), (true, "/root".toList), (false, "/a".toList)] := by
  decide +kernel

end ComposeHarness.Machine.Shell
