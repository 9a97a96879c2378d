import ComposeHarness.Text.Octets

/-!
# Names in messages of programs

A name in a message is written as a shell would have to write it, so that the message is one line
whatever the name holds.
-/
namespace ComposeHarness.Machine.Programs

/-- Bytes that are written by a letter after a backslash. -/
def escapeLetters : List (Nat × Char) :=
  [(7, 'a'), (8, 'b'), (9, 't'), (10, 'n'), (11, 'v'), (12, 'f'), (13, 'r')]

def isPrintable (c : Char) : Bool := 32 ≤ c.toNat && c.toNat ≤ 126

/-- Three octal digits after a backslash, or a letter. -/
def escapeOf (c : Char) : String :=
  match escapeLetters.lookup c.toNat with
  | some letter => String.ofList ['\\', letter]
  | none =>
    let digits := Nat.toDigits 8 c.toNat
    "\\" ++ String.ofList (List.replicate (3 - digits.length) '0' ++ digits)

/-- A name between apostrophes. What cannot be shown stands between others that let escapes count. -/
def betweenApostrophes : (escaping : Bool) → List Char → String
  | _, [] => "'"
  | escaping, c :: rest =>
    if isPrintable c then
      (if escaping then "''" else "") ++
        (if c = '\'' then "'\\''" else String.singleton c) ++ betweenApostrophes false rest
    else (if escaping then "" else "'$'") ++ escapeOf c ++ betweenApostrophes true rest

/-- Whether a character means the same between quotation marks. -/
def isPlainInMarks (c : Char) : Bool :=
  c.isAlphanum || " %+,-./:=@]_\x7b\x7d^#~'".toList.contains c

/-- A name in quotes. -/
def quoted (name : String) : String :=
  let cs := name.toList
  if cs.contains '\'' && cs.all isPlainInMarks then "\"" ++ name ++ "\""
  else "'" ++ betweenApostrophes false cs

/-- Whether a name can be written without quotes. -/
def isBare (name : String) : Bool :=
  let isSafe (c : Char) : Bool := c.isAlphanum || "%+,-./@]_".toList.contains c
  let cs := name.toList
  !cs.isEmpty && name ≠ "\x7b" && name ≠ "\x7d" &&
    cs.all (fun c => isSafe c || c = '#' || c = '~' || c = '\x7b' || c = '\x7d') &&
    cs.head? ≠ some '#' && cs.head? ≠ some '~'

/-- A name, in quotes only where it needs them. -/
def named (name : String) : String := if isBare name then name else quoted name

example : quoted "a b" = "'a b'" ∧ quoted "it's" = "\"it's\"" ∧
    quoted "\x01x" = "''$'\\001''x'" ∧ named "a.txt" = "a.txt" := by decide +kernel

end ComposeHarness.Machine.Programs
