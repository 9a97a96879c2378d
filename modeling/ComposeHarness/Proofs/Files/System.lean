import ComposeHarness.Host
import ComposeHarness.Proofs.Files.Resolution
import ComposeHarness.Proofs.Path.Components

/-!
# Hosts with files

What a host is relied on for when it makes directories, links and removals: paths are resolved piece
by piece, a new directory or link is put where nothing was, and a removal takes away what lies at or
below a directory and nothing else.
-/
namespace ComposeHarness

open Machine (Location)

variable {σ : Type}

/-- A host whose worlds hold files. -/
structure FileSystem (host : Host σ) where
  files : σ → Files
  /-- The directory from which relative paths are followed. -/
  cwd : σ → Location
  /-- How a piece of a path is written in names. -/
  write : String → String
  /-- Where the host can follow a path to; a link at its end is not followed. -/
  leads : σ → Path → Location → Prop
  root : ∀ world, files world [] = some .directory
  write_empty : write "" = ""
  write_parent : ∀ piece, write piece = ".." → piece = ".."
  resolves : ∀ {world p l}, leads world p l →
    Leads (files world) (p.origin (cwd world)) (p.pieces.map write) l
  /-- What could be reached still can be while nothing has gone. -/
  keeps : ∀ {world later p l}, leads world p l → (files world).Within (files later) →
    cwd later = cwd world → leads later p l
  /-- A new directory is made where nothing was. -/
  makeStaging_ok : ∀ {world dir later}, host.makeStaging world = (.ok dir, later) →
    ∃ l, leads world dir l ∧ files world l = none ∧
      files later = (files world).add l .directory ∧ cwd later = cwd world
  makeStaging_error : ∀ {world cause later}, host.makeStaging world = (.error cause, later) →
    files later = files world
  /-- A link is made where nothing was. -/
  link_ok : ∀ {world source target later}, host.link source target world = (.ok (), later) →
    ∃ l written, leads world target l ∧ files world l = none ∧
      files later = (files world).add l (.link written) ∧ cwd later = cwd world
  link_error : ∀ {world source target cause later},
    host.link source target world = (.error cause, later) →
      files later = files world ∧ cwd later = cwd world
  /-- A directory that can be reached is removed with what is below it. -/
  removeTree_ok : ∀ {world dir l}, leads world dir l → files world l = some .directory → l ≠ [] →
    ∃ later, host.removeTree dir world = (.ok (), later) ∧ files later = (files world).prune l

namespace FileSystem

variable {host : Host σ} (fs : FileSystem host) {world later : σ} {dir q : Path} {l goal : Location}

theorem isSilent_write_empty : Path.isSilent (fs.write "") = true := by
  rw [fs.write_empty]
  decide

/-- The path of a place where nothing is does not end with a slash. -/
theorem getLast?_pieces_ne (leads : fs.leads world dir l) (free : fs.files world l = none) :
    dir.pieces.getLast? ≠ some "" := by
  intro hlast
  obtain ⟨front, hfront⟩ := List.getLast?_eq_some_iff.1 hlast
  have hpieces : dir.pieces.map fs.write = front.map fs.write ++ [fs.write ""] := by simp [hfront]
  have hdirectory := (fs.resolves leads).directory_of_silent_end hpieces fs.isSilent_write_empty
  cases free.symm.trans hdirectory

/-- A relative path below a directory is followed from there. -/
theorem leads_join (hend : dir.pieces.getLast? ≠ some "") (hq : q.isAbsolute = false)
    (leads : fs.leads world dir l) (directory : fs.files world l = some .directory)
    (below : fs.leads world (dir.join q) goal) :
    Leads (fs.files world) l (q.pieces.map fs.write) goal := by
  have hbelow := fs.resolves below
  rw [Path.pieces_join hend hq, List.map_append] at hbelow
  have horigin : (dir.join q).origin (fs.cwd world) = dir.origin (fs.cwd world) := by
    rw [Path.origin, Path.isAbsolute_join hend hq, Path.origin]
  rw [horigin] at hbelow
  exact (fs.resolves leads).of_append directory hbelow

end FileSystem
end ComposeHarness
