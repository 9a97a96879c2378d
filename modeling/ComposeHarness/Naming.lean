import ComposeHarness.Failure
import ComposeHarness.Text.Digits

/-!
# Names derived from a project

Every container, network, volume and image of a scenario is named after its project. Texts may hold
placeholders in braces, which stand for such names; every other brace is copied as it is.
-/
namespace ComposeHarness

/-- How the parts of a resource name are composed: with one separator between them. -/
structure NamingScheme where
  separator : Char
  deriving Repr, DecidableEq

namespace NamingScheme

def standard : NamingScheme := ⟨'_'⟩

instance : Inhabited NamingScheme := ⟨standard⟩

/-- A project and a name with the separator between them. -/
def join (scheme : NamingScheme) (project name : String) : String :=
  project ++ scheme.separator.toString ++ name

def containerName (scheme : NamingScheme) (project service : String) (index : Nat) : String :=
  scheme.join (scheme.join project service) (toString index)

def networkName (scheme : NamingScheme) (project network : String) : String :=
  scheme.join project network

def volumeName (scheme : NamingScheme) (project volume : String) : String :=
  scheme.join project volume

def imageName (scheme : NamingScheme) (project service : String) : String :=
  scheme.join project service

/-- The part before the first occurrence of a character and the part after it. -/
def cut (c : Char) : List Char → Option (List Char × List Char)
  | [] => none
  | d :: rest => if d == c then some ([], rest) else (cut c rest).map fun (a, b) => (d :: a, b)

theorem cut_append {c : Char} {cs before after : List Char} (h : cut c cs = some (before, after)) :
    cs = before ++ c :: after := by
  induction cs generalizing before with
  | nil => simp [cut] at h
  | cons d rest ih =>
    unfold cut at h
    split at h
    · simp_all
    · obtain ⟨⟨a, b⟩, hab, heq⟩ := Option.map_eq_some_iff.1 h
      cases heq
      rw [ih hab]
      rfl

theorem cut_length {c : Char} {cs before after : List Char} (h : cut c cs = some (before, after)) :
    after.length < cs.length := by
  have := congrArg List.length (cut_append h)
  simp at this
  omega

theorem not_mem_of_cut {c : Char} {cs before after : List Char}
    (h : cut c cs = some (before, after)) : c ∉ before := by
  induction cs generalizing before with
  | nil => simp [cut] at h
  | cons d rest ih =>
    unfold cut at h
    split at h
    · simp_all
    · next hd =>
      obtain ⟨⟨a, b⟩, hab, heq⟩ := Option.map_eq_some_iff.1 h
      cases heq
      have hne : c ≠ d := fun e => hd (by simp [e])
      simpa [hne] using ih hab

theorem cut_of_not_mem {c : Char} {before : List Char} (h : c ∉ before) (after : List Char) :
    cut c (before ++ c :: after) = some (before, after) := by
  induction before with
  | nil => simp [cut]
  | cons d rest ih =>
    simp only [List.mem_cons, not_or] at h
    simp [cut, Ne.symm h.1, ih h.2]

theorem cut_eq_some_iff {c : Char} {cs before after : List Char} :
    cut c cs = some (before, after) ↔ cs = before ++ c :: after ∧ c ∉ before :=
  ⟨fun h => ⟨cut_append h, not_mem_of_cut h⟩, fun ⟨h, hc⟩ => h ▸ cut_of_not_mem hc after⟩

theorem cut_eq_none_iff {c : Char} {cs : List Char} : cut c cs = none ↔ c ∉ cs := by
  induction cs with
  | nil => simp [cut]
  | cons d rest ih =>
    by_cases h : d = c
    · simp [cut, h]
    · simp [cut, h, ih, Ne.symm h]

/-- Reads a 32-bit count: decimal digits with an optional plus sign before them. -/
def index? (cs : List Char) : Option Nat :=
  let digits := match cs with
    | '+' :: rest => rest
    | _ => cs
  (Text.numeral? 10 digits).filter (· < Nat.pow 2 32)

/-- The kinds of placeholder that take a name. -/
inductive Placeholder where
  | container
  | network
  | volume
  | image
  deriving Repr, DecidableEq

def Placeholder.ofKey? (key : List Char) : Option Placeholder :=
  if key = "container".toList then some .container
  else if key = "network".toList then some .network
  else if key = "volume".toList then some .volume
  else if key = "image".toList then some .image
  else none

def braced (key : List Char) : String := String.ofList ('\x7b' :: key ++ ['\x7d'])

/-- The value of the text between two braces, or none if the braces are literal. -/
def placeholder (scheme : NamingScheme) (project : String) (key : List Char) :
    Except Failure (Option String) :=
  if key = "project".toList then .ok (some project)
  else
    match cut ':' key with
    | none => .ok none
    | some (kindText, argument) =>
      match Placeholder.ofKey? kindText with
      | none => .ok none
      | some kind =>
        if argument.isEmpty then
          .error (.config ("placeholder " ++ braced key ++ " is missing a name"))
        else
          let name := String.ofList argument
          match kind with
          | .network => .ok (some (scheme.networkName project name))
          | .volume => .ok (some (scheme.volumeName project name))
          | .image => .ok (some (scheme.imageName project name))
          | .container =>
            match cut ':' argument with
            | none => .ok (some (scheme.containerName project name 1))
            | some (service, index) =>
              match index? index with
              | some n => .ok (some (scheme.containerName project (String.ofList service) n))
              | none =>
                .error (.config ("placeholder " ++ braced key ++ " has an invalid index"))

/-- Copies the text, with the value of each placeholder in its place. The key of a brace reaches to
the next closing one; a key with an opening brace in it makes the first brace literal. -/
def expandChars (scheme : NamingScheme) (project : String) :
    List Char → Except Failure (List Char)
  | [] => .ok []
  | c :: rest =>
    if c != '\x7b' then (c :: ·) <$> expandChars scheme project rest
    else
      match _h : cut '\x7d' rest with
      | none => .ok (c :: rest)
      | some (key, after) =>
        if key.contains '\x7b' then (c :: ·) <$> expandChars scheme project rest
        else
          match placeholder scheme project key with
          | .error e => .error e
          | .ok none => (c :: ·) <$> expandChars scheme project rest
          | .ok (some value) => (value.toList ++ ·) <$> expandChars scheme project after
termination_by cs => cs.length
decreasing_by
  · simp
  · simp
  · simp
  · have := cut_length ‹_›
    simp
    omega

/-- Expands the placeholders of a text for one project. -/
def expand (scheme : NamingScheme) (input project : String) : Except Failure String :=
  String.ofList <$> expandChars scheme project input.toList

end NamingScheme

/-- The identifier that keeps the resources of one scenario apart from those of another. -/
structure ProjectId where
  text : String
  deriving Repr, DecidableEq

namespace ProjectId

def isLower (c : Char) : Bool := 'a' ≤ c && c ≤ 'z'

def isPart (c : Char) : Bool := isLower c || c.isDigit || c == '-' || c == '_'

def isStart (c : Char) : Bool := c.isAlphanum

/-- Lower-case letters, digits, hyphens and underscores, with a letter or digit first. -/
def isValid (id : List Char) : Bool :=
  id.all isPart && id.head?.any isStart

def ofString? (id : String) : Except Failure ProjectId :=
  if id.isEmpty then .error (.config "project identifier must not be empty")
  else if isValid id.toList then .ok ⟨id⟩
  else .error (.config ("invalid project identifier '" ++ id ++
    "': use lowercase letters, digits, '-' and '_'"))

/-- One step of a slug: letters and digits are kept in lower case, anything else becomes one hyphen
between two runs of them. The slug is built from its end. -/
def slugStep (reversed : List Char) (c : Char) : List Char :=
  if c.isAlphanum then c.toLower :: reversed
  else
    match reversed with
    | [] => []
    | '-' :: _ => reversed
    | _ => '-' :: reversed

/-- The runs of letters and digits of a text, in lower case, joined by single hyphens. -/
def slug (text : String) : List Char :=
  ((text.toList.foldl slugStep []).dropWhile (· == '-')).reverse

/-- The last eight characters of a generated identifier. -/
def suffix (seed : BitVec 32) : List Char :=
  (List.range 8).map fun i => Nat.digitChar (seed.toNat / Nat.pow 16 (7 - i) % 16)

/-- An identifier made from a scenario's name and a random seed. -/
def generate (name : String) (seed : BitVec 32) : ProjectId :=
  let stem := slug name
  let stem := if stem.isEmpty then "scenario".toList else stem
  ⟨String.ofList (stem ++ '-' :: suffix seed)⟩

end ProjectId
end ComposeHarness
