import Mathlib.Data.List.Induction
import ComposeHarness.Machine.FileTree

/-!
# How paths lead through files

Files are taken as what lies at each location. A path leads from a directory to a location, piece by
piece: `..` leads to the directory above, a name leads below, and a link on the way is replaced by
what it points to. What is there stays reachable when more is added, and a path into an empty
directory that never goes up stays in it.
-/
namespace ComposeHarness

open Machine (Location Entry)
open ComposeHarness.Path (isSilent)

/-- What lies at each location. -/
abbrev Files := Location → Option Entry

namespace Files

/-- Puts an entry somewhere. -/
def add (t : Files) (l : Location) (e : Entry) : Files := fun x => if x = l then some e else t x

/-- Takes an entry away with everything below it. -/
def prune (t : Files) (l : Location) : Files := fun x => if l <+: x then none else t x

/-- Everything in a tree lies in a directory. -/
def Rooted (t : Files) : Prop :=
  ∀ l name, t (l ++ [name]) ≠ none → t l = some .directory

/-- What is there in one tree is there in the other, too. -/
def Within (t t' : Files) : Prop := ∀ x e, t x = some e → t' x = some e

variable {t t' : Files} {l x : Location} {e : Entry}

@[simp] theorem add_self : t.add l e l = some e := by simp [add]

@[simp] theorem add_of_ne (h : x ≠ l) : t.add l e x = t x := by simp [add, h]

@[simp] theorem prune_below (h : l <+: x) : t.prune l x = none := by simp [prune, h]

@[simp] theorem prune_elsewhere (h : ¬l <+: x) : t.prune l x = t x := by simp [prune, h]

theorem within_add (h : t l = none) : t.Within (t.add l e) := by
  intro x e' hx
  have hne : x ≠ l := by
    rintro rfl
    rw [h] at hx
    cases hx
  rw [add_of_ne hne, hx]

/-- Nothing is pruned where there is nothing. -/
theorem prune_of_fresh (h : ∀ x, l <+: x → t x = none) : t.prune l = t := by
  funext x
  by_cases hx : l <+: x
  · rw [prune_below hx, h x hx]
  · rw [prune_elsewhere hx]

/-- What has been put below a place goes with it. -/
theorem prune_add_below {g : Location} (h : l <+: g) : (t.add g e).prune l = t.prune l := by
  funext x
  by_cases hx : l <+: x
  · rw [prune_below hx, prune_below hx]
  · have hne : x ≠ g := fun heq => hx (heq ▸ h)
    rw [prune_elsewhere hx, prune_elsewhere hx, add_of_ne hne]

/-- What has been put elsewhere stays. -/
theorem prune_add_elsewhere {g : Location} (h : ¬l <+: g) :
    (t.add g e).prune l = (t.prune l).add g e := by
  funext x
  by_cases hx : x = g
  · subst hx
    rw [prune_elsewhere h, add_self, add_self]
  · rw [add_of_ne hx]
    by_cases hl : l <+: x
    · rw [prune_below hl, prune_below hl]
    · rw [prune_elsewhere hl, prune_elsewhere hl, add_of_ne hx]

/-- Where nothing lies, nothing lies below. -/
theorem Rooted.eq_none (rooted : t.Rooted) (h : t l = none) : l <+: x → t x = none := by
  rintro ⟨names, rfl⟩
  induction names using List.reverseRecOn with
  | nil => simpa using h
  | append_singleton names name ih =>
    cases hx : t (l ++ (names ++ [name])) with
    | none => rfl
    | some e =>
      have habove : t (l ++ names) = some .directory := by
        apply rooted _ name
        rw [List.append_assoc, hx]
        simp
      rw [ih] at habove
      cases habove

end Files

/-- A piece that leads to an entry of the directory. -/
structure IsEntryName (piece : String) : Prop where
  notSilent : isSilent piece = false
  notParent : piece ≠ ".."

/-- From where the target of a link is followed. -/
def Path.origin (p : Path) (here : Location) : Location := if p.isAbsolute then [] else here

/-- Where the pieces of a path lead from a directory. A link at the very end is not followed, and
nothing need be there. -/
inductive Leads (t : Files) : Location → List String → Location → Prop
  | here (here : Location) : Leads t here [] here
  | silent {here goal : Location} {piece : String} {rest : List String}
      (directory : t here = some .directory) (silent : isSilent piece = true)
      (leads : Leads t here rest goal) : Leads t here (piece :: rest) goal
  | up {here goal : Location} {rest : List String} (directory : t here = some .directory)
      (leads : Leads t here.dropLast rest goal) : Leads t here (".." :: rest) goal
  | last {here : Location} {piece : String} (directory : t here = some .directory)
      (name : IsEntryName piece) : Leads t here [piece] (here ++ [piece])
  | down {here goal : Location} {piece : String} {rest : List String}
      (directory : t here = some .directory) (name : IsEntryName piece) (more : rest ≠ [])
      (below : t (here ++ [piece]) = some .directory)
      (leads : Leads t (here ++ [piece]) rest goal) : Leads t here (piece :: rest) goal
  | follow {here goal : Location} {piece : String} {rest : List String} {target : Path}
      (directory : t here = some .directory) (name : IsEntryName piece) (more : rest ≠ [])
      (link : t (here ++ [piece]) = some (.link target))
      (leads : Leads t (target.origin here) (target.pieces ++ rest) goal) :
      Leads t here (piece :: rest) goal

namespace Leads

variable {t t' : Files} {here goal l : Location} {pieces rest more : List String} {piece : String}

theorem silent_iff (silent : isSilent piece = true) :
    Leads t here (piece :: rest) goal ↔ t here = some .directory ∧ Leads t here rest goal := by
  constructor
  · intro h
    cases h with
    | silent directory _ leads => exact ⟨directory, leads⟩
    | up => cases silent
    | last _ name => cases name.notSilent.symm.trans silent
    | down _ name => cases name.notSilent.symm.trans silent
    | follow _ name => cases name.notSilent.symm.trans silent
  · exact fun ⟨directory, leads⟩ => .silent directory silent leads

theorem up_iff : Leads t here (".." :: rest) goal ↔
    t here = some .directory ∧ Leads t here.dropLast rest goal := by
  constructor
  · intro h
    cases h with
    | silent _ silent => cases silent
    | up directory leads => exact ⟨directory, leads⟩
    | last _ name => exact absurd rfl name.notParent
    | down _ name => exact absurd rfl name.notParent
    | follow _ name => exact absurd rfl name.notParent
  · exact fun ⟨directory, leads⟩ => .up directory leads

theorem single_iff (name : IsEntryName piece) :
    Leads t here [piece] goal ↔ t here = some .directory ∧ goal = here ++ [piece] := by
  constructor
  · intro h
    cases h with
    | silent _ silent => cases name.notSilent.symm.trans silent
    | up => exact absurd rfl name.notParent
    | last directory => exact ⟨directory, rfl⟩
    | down _ _ more => exact absurd rfl more
    | follow _ _ more => exact absurd rfl more
  · rintro ⟨directory, rfl⟩
    exact .last directory name

/-- A name that is not the last piece is that of a directory or of a link. -/
theorem name_iff (name : IsEntryName piece) (hrest : rest ≠ []) :
    Leads t here (piece :: rest) goal ↔ t here = some .directory ∧
      (t (here ++ [piece]) = some .directory ∧ Leads t (here ++ [piece]) rest goal ∨
        ∃ target, t (here ++ [piece]) = some (.link target) ∧
          Leads t (target.origin here) (target.pieces ++ rest) goal) := by
  constructor
  · intro h
    cases h with
    | silent _ silent => cases name.notSilent.symm.trans silent
    | up => exact absurd rfl name.notParent
    | last => exact absurd rfl hrest
    | down directory _ _ below leads => exact ⟨directory, .inl ⟨below, leads⟩⟩
    | follow directory _ _ link leads => exact ⟨directory, .inr ⟨_, link, leads⟩⟩
  · rintro ⟨directory, ⟨below, leads⟩ | ⟨target, link, leads⟩⟩
    · exact .down directory name hrest below leads
    · exact .follow directory name hrest link leads

/-- A path that leads to a directory goes on from there. -/
theorem of_append (h : Leads t here pieces l) (directory : t l = some .directory)
    (h' : Leads t here (pieces ++ more) goal) : Leads t l more goal := by
  induction h with
  | here => exact h'
  | silent _ silent _ ih => exact ih directory ((silent_iff silent).1 h').2
  | up _ _ ih => exact ih directory (up_iff.1 h').2
  | last _ name =>
    by_cases hmore : more = []
    · subst hmore
      rw [((single_iff name).1 h').2]
      exact .here _
    · rcases ((name_iff name hmore).1 h').2 with ⟨-, leads⟩ | ⟨target, link, -⟩
      · exact leads
      · cases link.symm.trans directory
  | down _ name hrest below _ ih =>
    have hmore := List.append_ne_nil_of_left_ne_nil hrest more
    rcases ((name_iff name hmore).1 h').2 with ⟨-, leads⟩ | ⟨target, link, -⟩
    · exact ih directory leads
    · cases link.symm.trans below
  | follow _ name hrest link _ ih =>
    have hmore := List.append_ne_nil_of_left_ne_nil hrest more
    rcases ((name_iff name hmore).1 h').2 with ⟨below, -⟩ | ⟨target, link', leads⟩
    · cases link.symm.trans below
    · obtain rfl := Entry.link.inj (Option.some.inj (link.symm.trans link'))
      rw [← List.append_assoc] at leads
      exact ih directory leads

/-- A path that ends with a silent piece leads to a directory. -/
theorem directory_of_silent_end (h : Leads t here pieces goal) {front : List String}
    (hend : pieces = front ++ [piece]) (silent : isSilent piece = true) :
    t goal = some .directory := by
  induction h generalizing front with
  | here => simp at hend
  | silent directory _ leads ih =>
    cases front with
    | nil =>
      obtain ⟨rfl, rfl⟩ := List.cons.inj hend
      cases leads
      exact directory
    | cons first front => exact ih (List.cons.inj hend).2
  | up directory leads ih =>
    cases front with
    | nil =>
      obtain ⟨rfl, -⟩ := List.cons.inj hend
      cases silent
    | cons first front => exact ih (List.cons.inj hend).2
  | @last here only directory name =>
    have hmem : piece ∈ [only] := by simp [hend]
    rw [List.mem_singleton.1 hmem] at silent
    cases name.notSilent.symm.trans silent
  | down directory name hrest below leads ih =>
    cases front with
    | nil => exact absurd (List.cons.inj hend).2 hrest
    | cons first front => exact ih (List.cons.inj hend).2
  | @follow here goal name rest target directory hname hrest link leads ih =>
    cases front with
    | nil => exact absurd (List.cons.inj hend).2 hrest
    | cons first front =>
      have hrest : rest = front ++ [piece] := (List.cons.inj hend).2
      have hend : target.pieces ++ rest = target.pieces ++ front ++ [piece] := by
        rw [hrest, List.append_assoc]
      exact ih hend

/-- In an empty directory, a path that does not go up leads to the directory or to one of its
entries. -/
theorem of_empty (h : Leads t here pieces goal) (empty : ∀ name, t (here ++ [name]) = none)
    (stays : ".." ∉ pieces) : goal = here ∨ ∃ name, goal = here ++ [name] := by
  induction h with
  | here => exact .inl rfl
  | silent _ _ _ ih => exact ih empty fun hmem => stays (List.mem_cons_of_mem _ hmem)
  | up => exact absurd List.mem_cons_self stays
  | last => exact .inr ⟨_, rfl⟩
  | down _ _ _ below => cases (empty _).symm.trans below
  | follow _ _ _ link => cases (empty _).symm.trans link

end Leads
end ComposeHarness
