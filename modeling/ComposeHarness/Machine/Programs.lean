import ComposeHarness.Machine.Condition
import ComposeHarness.Machine.Programs.Files
import ComposeHarness.Machine.Programs.Text

/-!
# The programs of a machine

What the programs that every machine has do with their arguments and input.
-/
namespace ComposeHarness.Machine.Programs

open Run (update)

/-! ### Names and times -/

/-- The directory part of a path. -/
def directoryPart (text : String) : String :=
  let trimmed := text.toList.reverse.dropWhile (· == '/')
  let cut := (trimmed.dropWhile (· != '/')).dropWhile (· == '/')
  if cut.isEmpty then (if text.toList.head? = some '/' then "/" else ".")
  else String.ofList cut.reverse

def dirname : Program := fun args => do
  let a ← arguments "dirname" "z" args
  if a.operands.isEmpty then missingOperand "dirname"
  say "dirname" (String.join (a.operands.map fun a => directoryPart a ++ "\n"))

/-- The last name of a path, without a suffix that is not all of it. -/
def lastName (text suffix : String) : String :=
  let cs := text.toList
  let base := ((cs.reverse.dropWhile (· == '/')).takeWhile (· != '/')).reverse
  let base := if base.isEmpty && !cs.isEmpty then ['/'] else base
  let s := suffix.toList
  String.ofList (if s.isSuffixOf base && s.length < base.length then
    base.take (base.length - s.length) else base)

def basename : Program := fun args => do
  let a ← arguments "basename" "as:z" args
  match a.operands with
  | [] => missingOperand "basename"
  | text :: rest =>
    if a.has 'a' || a.has 's' then
      let suffix := (a.value? 's').getD ""
      say "basename" (String.join (a.operands.map fun text => lastName text suffix ++ "\n"))
    else if 1 < rest.length then refuse "basename" ("extra operand " ++ quoted (rest[1]?.getD ""))
    else say "basename" (lastName text (rest.headD "") ++ "\n")

def pwd : Program := fun _ => do say "pwd" ((← get).cwd.path.text ++ "\n")

/-- The nanoseconds of a decimal number with an optional unit. -/
def nanoseconds? (text : String) : Option Nat :=
  let cs := text.toList
  let (scale, cs) := match cs.reverse with
    | 's' :: rest => (1, rest.reverse)
    | 'm' :: rest => (60, rest.reverse)
    | 'h' :: rest => (3600, rest.reverse)
    | 'd' :: rest => (86400, rest.reverse)
    | _ => (1, cs)
  let whole := cs.takeWhile Char.isDigit
  let places := match cs.dropWhile Char.isDigit with
    | [] => some []
    | '.' :: rest => if rest.all Char.isDigit then some rest else none
    | _ => none
  places.bind fun places =>
    if whole.isEmpty && places.isEmpty then none
    else
      let nanos := Text.numeral 10 ((places ++ List.replicate 9 '0').take 9)
      some (scale * (Text.numeral 10 whole * Duration.nanosPerSecond + nanos))

def sleep : Program := fun args => do
  let a ← arguments "sleep" "" args
  if a.operands.isEmpty then missingOperand "sleep"
  let bad := a.operands.filter fun s => (nanoseconds? s).isNone
  if !bad.isEmpty then
    bad.forM fun s => complain "sleep" ("invalid time interval " ++ quoted s)
    update (·.complain "Try 'sleep --help' for more information.")
  else Run.sleep ⟨(a.operands.filterMap nanoseconds?).foldr (· + ·) 0⟩

/-! ### Conditions and calculations -/

/-- The truth of the arguments as a status. -/
def condition (name : String) (args : List String) : Run Unit := do
  let p ← get
  match Condition.holds ⟨p.files, p.cwd⟩ args with
  | .ok b => leave (if b then 0 else 1)
  | .error text => complain name text 2

def bracket : Program := fun args =>
  if args.getLast? = some "]" then condition "[" args.dropLast
  else complain "[" "missing ']'" 2

/-- The value of two operands and an operator; nothing if that is none. -/
def calculated (a op b : String) : Except String String :=
  let number? (s : String) : Option Int :=
    let (_, digits) := match s.toList with
      | '-' :: rest => (true, rest)
      | rest => (false, rest)
    if digits.all Char.isDigit then Arithmetic.number? (some 10) s else none
  let truth (b : Bool) : Except String String := .ok (if b then "1" else "0")
  let compared (f : Ordering → Bool) : Except String String :=
    match number? a, number? b with
    | some x, some y => truth (f (compare x y))
    | _, _ => truth (f (compare a b))
  let both (f : Int → Int → Except String Int) : Except String String :=
    match number? a, number? b with
    | some x, some y => (f x y).map toString
    | _, _ => .error "non-integer argument"
  match op with
  | "+" => both fun x y => .ok (x + y)
  | "-" => both fun x y => .ok (x - y)
  | "*" => both fun x y => .ok (x * y)
  | "/" => both fun x y => if y = 0 then .error "division by zero" else .ok (x.tdiv y)
  | "%" => both fun x y => if y = 0 then .error "division by zero" else .ok (x.tmod y)
  | "=" | "==" => compared (· == .eq)
  | "!=" => compared (· != .eq)
  | "<" => compared (· == .lt)
  | "<=" => compared (· != .gt)
  | ">" => compared (· == .gt)
  | ">=" => compared (· != .lt)
  | "|" => .ok (if a.isEmpty || a = "0" then (if b.isEmpty then "0" else b) else a)
  | "&" => .ok (if a.isEmpty || a = "0" || b.isEmpty || b = "0" then "0" else a)
  | _ => .error ("syntax error: unexpected argument " ++ quoted op)

def expr : Program := fun args => do
  let outcome : Except String String := match args with
    | [a] => .ok a
    | ["length", a] => .ok (toString a.length)
    | [a, b] =>
      .error ("syntax error: unexpected argument " ++ quoted (if a.isEmpty then a else b))
    | [a, op, b] => calculated a op b
    | _ => .error ("syntax error: unexpected argument " ++ quoted (args[3]?.getD ""))
  if args.isEmpty then refuse "expr" "missing operand" 2
  match outcome with
  | .ok text =>
    say "expr" (text ++ "\n")
    leave (if text = "0" || text.isEmpty then 1 else 0)
  | .error text => complain "expr" text 2

/-! ### Variables and programs -/

/-- Shows variables: those that are named, or all of them. -/
def printenv : Program := fun args => do
  let all := (← get).environment
  if args.isEmpty then say "printenv" (String.join (all.map fun (k, v) => k ++ "=" ++ v ++ "\n"))
  else
    for name in args do
      match all.lookup name with
      | some value => say "printenv" (value ++ "\n")
      | none => leave 1

/-- Tells that a program cannot be run in a changed environment. -/
def refuseCommand (name : String) (cause : SystemError) : Run Unit :=
  complain "env" (quoted name ++ ": " ++ cause.reason) (if cause = .noEntry then 127 else 126)

/-- Tells where programs are. -/
def which : Program := fun args => do
  for name in args.filter (· != "-a") do
    let p ← get
    match findProgram p.files p.cwd p.searchPath name with
    | .ok path => say "which" (path.text ++ "\n")
    | .error _ => leave 1

def succeed : Program := fun _ => leave 0

def fail : Program := fun _ => leave 1

/-- The programs that are files of the machine, by name. -/
def table : List (String × Program) :=
  [("echo", echo), ("printf", printf), ("cat", cat), ("tee", tee), ("head", head),
    ("tail", tail), ("wc", wc), ("sort", sort), ("uniq", uniq), ("tr", tr), ("cut", cut),
    ("grep", grep), ("seq", seq), ("ls", ls), ("mkdir", mkdir), ("touch", touch), ("cp", cp),
    ("mv", mv), ("rm", rm), ("rmdir", rmdir), ("ln", ln), ("chmod", chmod),
    ("readlink", readlink), ("dirname", dirname), ("basename", basename), ("pwd", pwd),
    ("sleep", sleep), ("test", condition "test"), ("[", bracket), ("expr", expr),
    ("printenv", printenv), ("which", which), ("yes", yes), ("dd", dd), ("true", succeed),
    ("false", fail)]

end ComposeHarness.Machine.Programs
