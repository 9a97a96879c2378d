import ComposeHarness.Machine.Arithmetic
import ComposeHarness.Machine.Format
import ComposeHarness.Machine.Programs.Basic
import ComposeHarness.Regex
import ComposeHarness.Text.Occurrence

/-!
# Programs that write and select text
-/
namespace ComposeHarness.Machine.Programs

open Text (Bytes)
open Run (update)

/-! ### Writing -/

/-- Writes its arguments; escapes count only on request. -/
def echo : Program := fun args => do
  let isFlag (a : String) : Bool :=
    match a.toList with
    | '-' :: c :: cs => (c :: cs).all fun c => c == 'n' || c == 'e' || c == 'E'
    | _ => false
  let flags := (args.takeWhile isFlag).flatMap String.toList
  let text := String.intercalate " " (args.dropWhile isFlag)
  let (text, stops) := if flags.contains 'e' then Format.escaped text else (text, false)
  say "echo" (if flags.contains 'n' || stops then text else text ++ "\n")

def printf : Program := fun args => do
  match (if args.head? = some "--" then args.drop 1 else args) with
  | [] => missingOperand "printf"
  | format :: args =>
    let (text, warnings, failure) := Format.print format args
    say "printf" text
    (warnings ++ failure.toList).forM fun text => complain "printf" text

/-- Writes a text in front of each line, made from the line's number. -/
def numbered (title : Nat → String) (bytes : Bytes) : Bytes :=
  ((lines bytes).zipIdx 1).flatMap fun (l, n) =>
    Text.Octets.bytes (title n) ++ l ++ [newline]

/-- Hands files on as they come. -/
def cat : Program := fun args => do
  let a ← arguments "cat" "nbEsTAevtu" args
  if !(← get).isWritable 1 then
    complain "cat" "standard output: Bad file descriptor"
    Run.halt
  let mark (l : Bytes) : Bytes := if a.has 'E' then l ++ [36] else l
  if a.has 'n' || a.has 'E' then
    let bytes ← contents "cat" a.operands
    let title (n : Nat) : String := if a.has 'n' then padded 6 n ++ "\t" else ""
    put "cat" (numbered title (unlines ((lines bytes).map mark)))
  else
    for name in orInput a.operands do
      match ← source name with
      | .ok c =>
        let p ← get
        if (p.channel? 1).any (p.world.feedsItself c) then
          complain "cat" (named name ++ ": input file is output file")
        else forChunks c (put "cat") persistence
      | .error e =>
        complain "cat" (unreadable "cat" name e)
        if e = .badDescriptor then complain "cat" ("closing standard input: " ++ e.reason)

def tee : Program := fun args => do
  let a ← arguments "tee" "aip" args
  let mut outputs : List Channel := []
  for name in a.operands do
    match (← get).openFile ⟨name⟩ (if a.has 'a' then .append else .write false) with
    | .ok (c, p) =>
      set p
      outputs := outputs ++ [c]
    | .error e => complain "tee" (named name ++ ": " ++ e.reason)
  let channels := outputs
  match ← source "-" with
  | .ok c =>
    forChunks c (fun bytes => do
      put "tee" bytes
      update fun p => channels.foldl (fun p c => p.withWorld (p.world.write c bytes)) p)
      persistence
  | .error e => complain "tee" ("read error: " ++ e.reason)

/-- How many lines are written at once that are to be repeated for ever. -/
def repetitions : Nat := 512

def yes : Program := fun args => do
  let line := Text.Octets.bytes (if args.isEmpty then "y" else String.intercalate " " args)
  let block := unlines (List.replicate repetitions line)
  let rec again : (fuel : Nat) → Run Unit
    | 0 => pure ()
    | fuel + 1 => do
      put "yes" block
      again fuel
  again persistence

/-! ### Selecting -/

/-- Turns a count that is its own option into one of the usual form. -/
def spellCount (args : List String) : List String :=
  args.flatMap fun a =>
    match a.toList with
    | '-' :: ds => if !ds.isEmpty && ds.all Char.isDigit then ["-n", String.ofList ds] else [a]
    | _ => [a]

/-- The count of an option, and whether it has a sign in front. -/
def countOf (program what : String) (value : Option String) : Run (Option Char × Nat) := do
  match value.map String.toList with
  | none => return (none, 10)
  | some cs =>
    let (sign, digits) := match cs with
      | '-' :: rest => (some '-', rest)
      | '+' :: rest => (some '+', rest)
      | rest => (none, rest)
    match Text.numeral? 10 digits with
    | some n => return (sign, n)
    | none => do
      complain program ("invalid number of " ++ what ++ ": " ++ quoted (String.ofList cs))
      Run.halt

/-- How many bytes the first lines of a content take; nothing if there are fewer of them. -/
def lengthOfLines : (count : Nat) → Bytes → Option Nat
  | 0, _ => some 0
  | _, [] => none
  | count + 1, b :: rest =>
    (lengthOfLines (if b = newline then count else count + 1) rest).map (· + 1)

/-- A title for each of several files. -/
def titled (names : List String) (show? : String → Run Unit) (program : String) : Run Unit := do
  for (name, i) in names.zipIdx do
    if 1 < names.length then
      say program ((if i = 0 then "" else "\n") ++ "==> " ++
        (if name = "-" then "standard input" else name) ++ " <==\n")
    show? name

def head : Program := fun args => do
  let a ← arguments "head" "n:c:qvz" (spellCount args)
  let byBytes := (a.value? 'c').isSome
  let (sign, n) ← countOf "head" (if byBytes then "bytes" else "lines")
    (a.value? 'c' <|> a.value? 'n')
  let enough (bytes : Bytes) : Option Nat :=
    if byBytes then (if n ≤ bytes.length then some n else none) else lengthOfLines n bytes
  titled (orInput a.operands) (fun name => do
    match ← source name with
    | .error e => complain "head" (unreadable "head" name e)
    | .ok c =>
      if sign = some '-' then
        let bytes ← Run.readAll c
        put "head" (if byBytes then bytes.take (bytes.length - n)
          else unlines ((lines bytes).take ((lines bytes).length - n)))
      else put "head" (← Run.readUntil c enough)) "head"

def tail : Program := fun args => do
  let a ← arguments "tail" "n:c:qvfz" (spellCount args)
  let byBytes := (a.value? 'c').isSome
  let (sign, n) ← countOf "tail" (if byBytes then "bytes" else "lines")
    (a.value? 'c' <|> a.value? 'n')
  titled (orInput a.operands) (fun name => do
    match ← content "tail" name with
    | none => pure ()
    | some bytes =>
      let skipped (total : Nat) : Nat := if sign = some '+' then n - 1 else total - n
      put "tail" (bytes.drop (if byBytes then skipped bytes.length
        else (lengthOfLines (skipped (lines bytes).length) bytes).getD bytes.length))) "tail"

/-- The value of an argument of the form name=value. -/
def settingOf (name : String) (args : List String) : Option String :=
  args.findSome? fun a =>
    if a.startsWith (name ++ "=") then some (String.ofList (a.toList.drop (name.length + 1)))
    else none

/-- Copies blocks of bytes, and tells how many. -/
def dd : Program := fun args => do
  let number (name : String) (usual : Option Nat) : Option Nat :=
    match settingOf name args with
    | some text => Text.numeral? 10 text.toList
    | none => usual
  let size := (number "bs" (some 512)).getD 512
  let limit := (number "count" none).map (· * size)
  match settingOf "of" args with
  | none => pure ()
  | some name =>
    match (← get).openFile ⟨name⟩ (.write false) with
    | .ok (c, p) => set (p.connect 1 c)
    | .error e => do
      complain "dd" ("failed to open " ++ quoted name ++ ": " ++ e.reason)
      Run.halt
  match ← source ((settingOf "if" args).getD "-") with
  | .error e => complain "dd" ("failed to open " ++ quoted ((settingOf "if" args).getD "-") ++
      ": " ++ e.reason)
  | .ok c =>
    let bytes ← match limit with
      | some n => Run.readUntil c fun bytes => if n ≤ bytes.length then some n else none
      | none => Run.readAll c
    put "dd" bytes
    let records := toString (bytes.length / size) ++ "+" ++
      (if bytes.length % size = 0 then "0" else "1")
    if settingOf "status" args ≠ some "none" then
      update fun p => ((p.complain (records ++ " records in")).complain (records ++ " records out"))

/-- The number of words: runs of bytes that are no blanks. -/
def wordCount (bytes : Bytes) : Nat :=
  (bytes.foldl (fun (n, inside) b =>
    let blank := b = 32 || (9 ≤ b && b ≤ 13)
    (if !blank && !inside then n + 1 else n, !blank)) (0, false)).1

/-- The counts of a content that the flags ask for. -/
def countsOf (flags : List Char) (bytes : Bytes) : List Nat :=
  let wanted (c : Char) : Bool := flags.isEmpty || flags.contains c
  (if wanted 'l' then [bytes.count newline] else []) ++
  (if wanted 'w' then [wordCount bytes] else []) ++
  (if flags.contains 'm' then [bytes.length] else []) ++
  (if wanted 'c' then [bytes.length] else [])

/-- Counts lines, words and bytes. The columns are as wide as the size of all files, if that is
known before they are read. -/
def wc : Program := fun args => do
  let a ← arguments "wc" "lwcmL" args
  let flags := a.options.map (·.1)
  let mut found : List (String × Bytes) := []
  for name in orInput a.operands do
    match ← content "wc" name with
    | some bytes => found := found ++ [(name, bytes)]
    | none => pure ()
  let p ← get
  let regular := !a.operands.isEmpty && a.operands.all fun name => p.files.isFile p.cwd ⟨name⟩
  let counts := found.map fun x =>
    (if a.operands.isEmpty then "" else " " ++ x.1, countsOf flags x.2)
  let total := countsOf flags (found.flatMap (·.2))
  let rows := if 1 < a.operands.length then counts ++ [(" total", total)] else counts
  let width :=
    if rows.length = 1 && total.length = 1 then 1
    else if regular then (toString (found.flatMap (·.2)).length).length
    else 7
  say "wc" (String.join (rows.map fun row =>
    String.intercalate " " (row.2.map (padded width)) ++ row.1 ++ "\n"))

/-- The number at the start of a text. -/
def leadingNumber (s : String) : Int :=
  let (negative, cs) := Text.splitSign (s.toList.dropWhile fun c => c == ' ' || c == '\t')
  let n : Int := Text.numeral 10 (cs.takeWhile Char.isDigit)
  if negative then -n else n

/-- A list in which only the first of neighbours that are alike is left. -/
def onlyFirst (same : String → String → Bool) : List String → List String
  | x :: y :: rest =>
    if same x y then onlyFirst same (x :: rest) else x :: onlyFirst same (y :: rest)
  | xs => xs
termination_by xs => xs.length

def sort : Program := fun args => do
  let a ← arguments "sort" "nrufbdik:t:so:c" args 2
  let bytes ← contents "sort" a.operands 2
  let before (x y : String) : Bool :=
    if a.has 'n' then
      leadingNumber x < leadingNumber y || (leadingNumber x == leadingNumber y && x ≤ y)
    else x ≤ y
  let sorted := (textLines bytes).mergeSort before
  let sorted := if a.has 'r' then sorted.reverse else sorted
  let same (x y : String) : Bool := if a.has 'n' then leadingNumber x == leadingNumber y else x == y
  put "sort" (ofTextLines (if a.has 'u' then onlyFirst same sorted else sorted))

/-- Runs of equal lines, each with its length. -/
def runs : List Bytes → List (Nat × Bytes)
  | [] => []
  | l :: rest =>
    match runs rest with
    | (n, first) :: more => if l = first then (n + 1, l) :: more else (1, l) :: (n, first) :: more
    | [] => [(1, l)]

def uniq : Program := fun args => do
  let a ← arguments "uniq" "cdui" args
  filter "uniq" (fun bytes =>
    let kept := (runs (lines bytes)).filter fun x =>
      (!a.has 'd' || 1 < x.1) && (!a.has 'u' || x.1 = 1)
    unlines (kept.map fun x =>
      if a.has 'c' then Text.Octets.bytes (padded 7 x.1 ++ " ") ++ x.2 else x.2)) a.operands

/-! ### Replacing -/

/-- The classes that sets of characters can name. -/
def setClasses : List (String × (Char → Bool)) :=
  [("[:lower:]", Char.isLower), ("[:upper:]", Char.isUpper), ("[:digit:]", Char.isDigit),
    ("[:alpha:]", Char.isAlpha), ("[:alnum:]", Char.isAlphanum),
    ("[:space:]", fun c => c == ' ' || (9 ≤ c.toNat && c.toNat ≤ 13)),
    ("[:blank:]", fun c => c == ' ' || c == '\t'),
    ("[:punct:]", fun c => isPrintable c && c ≠ ' ' && !c.isAlphanum),
    ("[:print:]", isPrintable), ("[:graph:]", fun c => isPrintable c && c ≠ ' '),
    ("[:cntrl:]", fun c => c.toNat < 32 || c.toNat = 127)]

def allBytes : List Char := (List.range 256).map Char.ofNat

/-- The characters of a set, in order. -/
def charset : (fuel : Nat) → List Char → List Char
  | 0, _ => []
  | _, [] => []
  | fuel + 1, c :: rest =>
    match setClasses.find? fun x => x.1.toList.isPrefixOf (c :: rest) with
    | some (name, holds) =>
      allBytes.filter holds ++ charset fuel ((c :: rest).drop name.length)
    | none =>
      let (first, rest) := if c = '\\' then Format.escape rest else (c, rest)
      match rest with
      | '-' :: last :: after =>
        let (last, after) := if last = '\\' then Format.escape after else (last, after)
        ((List.range (last.toNat + 1 - first.toNat)).map fun i => Char.ofNat (first.toNat + i)) ++
          charset fuel after
      | _ => first :: charset fuel rest

/-- A text in which a character of a set stands only once where it would be repeated. -/
def squeeze (set : List Char) : List Char → List Char
  | c :: d :: rest =>
    if c = d && set.contains c then squeeze set (d :: rest) else c :: squeeze set (d :: rest)
  | cs => cs

def tr : Program := fun args => do
  let a ← arguments "tr" "dscCt" args
  match a.operands.map fun s => charset (s.length + 1) s.toList with
  | [] => missingOperand "tr"
  | source :: rest =>
    let source := if a.has 'c' || a.has 'C' then
        allBytes.filter fun c => !source.contains c
      else source
    let bytes ← contents "tr" []
    let cs := (Text.Octets.ofBytes bytes).toList
    let dest := rest.headD []
    let cs :=
      if a.has 'd' then cs.filter fun c => !source.contains c
      else
        match dest.getLast? with
        | none => cs
        | some last => cs.map fun c =>
          match source.findIdx? (· == c) with
          | some i => (dest[i]?).getD last
          | none => c
    let cs := if a.has 's' then squeeze (if dest.isEmpty then source else dest) cs else cs
    put "tr" (Text.Octets.bytes (String.ofList cs))

/-- Whether a list of fields and ranges names a field. -/
def inFields (list : String) (n : Nat) : Bool :=
  let number? (s : String) : Option Nat := Text.numeral? 10 s.toList
  (list.splitOn ",").any fun part =>
    match part.splitOn "-" with
    | [a] => number? a = some n
    | [a, b] => (number? a).getD 1 ≤ n && (b.isEmpty || n ≤ (number? b).getD 0)
    | _ => false

def cut : Program := fun args => do
  let a ← arguments "cut" "d:f:c:b:sn" args
  let places := a.value? 'c' <|> a.value? 'b'
  if (a.value? 'f').isNone && places.isNone then
    refuse "cut" "you must specify a list of bytes, characters, or fields"
  let pick (line : String) : Option String :=
    match a.value? 'f', places with
    | some list, _ =>
      let d := (a.value? 'd').getD "\t"
      let parts := line.splitOn d
      if parts.length = 1 then (if a.has 's' then none else some line)
      else some (String.intercalate d
        (((parts.zipIdx 1).filter fun x => inFields list x.2).map (·.1)))
    | none, some list => some (String.ofList
      (((line.toList.zipIdx 1).filter fun x => inFields list x.2).map (·.1)))
    | none, none => some line
  filter "cut" (fun bytes => ofTextLines ((textLines bytes).filterMap pick)) a.operands

/-! ### Finding -/

/-- A basic pattern in the notation of an extended one: what is special only after a backslash and
what is special only without one change places. -/
def extended : List Char → List Char
  | '\\' :: c :: rest =>
    if "()\x7b\x7d+?|".toList.contains c then c :: extended rest else '\\' :: c :: extended rest
  | c :: rest =>
    if "()\x7b\x7d+?|".toList.contains c then '\\' :: c :: extended rest
    else c :: extended rest
  | [] => []

/-- Which lines a pattern finds; none if the pattern is wrong. -/
def lineTest? (a : Arguments) (pattern : String) : Option (String → Bool) :=
  if a.has 'F' then
    some fun line => if a.has 'x' then line == pattern else Text.contains pattern line
  else
    let spelled := if a.has 'E' then pattern else String.ofList (extended pattern.toList)
    let whole := if a.has 'x' then "^(?:" ++ spelled ++ ")$" else spelled
    match Regex.compile (Text.Octets.toText (if a.has 'i' then "(?i)" ++ whole else whole)) with
    | .ok regex => some fun line => regex.isMatch (Text.Octets.toText line)
    | .error _ => none

def grep : Program := fun args => do
  let a ← arguments "grep" "e:EFGPivcnqxwlLhHosrm:" args 2
  let (pattern, names) := match a.value? 'e' with
    | some pattern => (some pattern, a.operands)
    | none => (a.operands.head?, a.operands.drop 1)
  match pattern.map (lineTest? a) with
  | none =>
    update fun p => ((p.complain "Usage: grep [OPTION]... PATTERNS [FILE]...").complain
      "Try 'grep --help' for more information.").withStatus 2
  | some none => complain "grep" "Invalid regular expression" 2
  | some (some fits) =>
    let mut any := false
    for name in orInput names do
      match ← content "grep" name 2 with
      | none => pure ()
      | some bytes =>
        let title := if 1 < names.length && !a.has 'h' then name ++ ":" else ""
        let found := ((textLines bytes).zipIdx 1).filter fun x => fits x.1 != a.has 'v'
        any := any || !found.isEmpty
        if a.has 'q' then pure ()
        else if a.has 'c' then say "grep" (title ++ toString found.length ++ "\n")
        else if a.has 'l' then say "grep" (if found.isEmpty then "" else name ++ "\n")
        else
          say "grep" (String.join (found.map fun x =>
            title ++ (if a.has 'n' then toString x.2 ++ ":" else "") ++ x.1 ++ "\n"))
    if (← get).status = 0 && !any then leave 1

/-- Counts from a number to another one. -/
def seq : Program := fun args => do
  let isNumber (s : String) : Bool := (Arithmetic.number? (some 10) s).isSome
  let (options, numbers) := match args with
    | "-s" :: value :: rest => ([value], rest)
    | "-w" :: rest => ([], rest)
    | _ => ([], args)
  match numbers.find? fun s => !isNumber s with
  | some bad => refuse "seq" ("invalid floating point argument: " ++ quoted bad)
  | none =>
    let (first, step, last) : Int × Int × Int ←
      match numbers.filterMap (Arithmetic.number? (some 10)) with
      | [] => missingOperand "seq"
      | [last] => pure (1, 1, last)
      | [first, last] => pure (first, 1, last)
      | [first, step, last] => pure (first, step, last)
      | _ => refuse "seq" ("extra operand " ++ quoted (numbers[3]?.getD ""))
    if step = 0 then refuse "seq" "invalid Zero increment value: '0'"
    let length := (Int.fdiv (last - first) step + 1).toNat
    let texts := (List.range length).map fun (i : Nat) => toString (first + step * (i : Int))
    if !texts.isEmpty then say "seq" (String.intercalate (options.headD "\n") texts ++ "\n")

end ComposeHarness.Machine.Programs
