import ComposeHarness.Proofs.Config.Choice
import ComposeHarness.Proofs.Files.System
import ComposeHarness.Proofs.Harness.Setup
import ComposeHarness.Proofs.Machine.Files

/-!
# What a setup leaves in the files

A staging makes a directory where nothing was and puts a link where its path leads. A teardown takes
away the directory with everything below it. So everything is as before exactly if the link lies
below the directory, and this is so if the name of the binary is a relative path that never goes up.
A setup that fails leaves nothing behind.
-/
namespace ComposeHarness.Bootstrap

open Machine (Location)

variable {σ : Type} {host : Host σ} (fs : FileSystem host) {world before after : σ}
  {staged : StagedBinary} {source : Path} {name : String} {l g : Location}

/-- Between two worlds a binary has been staged: its directory has been made where nothing was, and
its link somewhere else, and nothing else has changed. -/
structure Stages (before after : σ) (staged : StagedBinary) (l g : Location) : Prop where
  fresh : ∀ x, l <+: x → fs.files before x = none
  free : fs.files before g = none
  apart : g ≠ l
  changed : ∃ target,
    fs.files after = ((fs.files before).add l .directory).add g (.link target)
  cwd : fs.cwd after = fs.cwd before
  dir : fs.leads before staged.dir l
  path : fs.leads after staged.path g

variable {fs}

namespace Stages

theorem ne_root (h : Stages fs before after staged l g) : l ≠ [] := by
  rintro rfl
  cases (fs.root before).symm.trans (h.fresh [] List.prefix_rfl)

theorem directory (h : Stages fs before after staged l g) :
    fs.files after l = some .directory := by
  obtain ⟨target, hchanged⟩ := h.changed
  rw [hchanged, Files.add_of_ne h.apart.symm, Files.add_self]

theorem leads_dir (h : Stages fs before after staged l g) : fs.leads after staged.dir l := by
  refine fs.keeps h.dir ?_ h.cwd
  obtain ⟨target, hchanged⟩ := h.changed
  have hfree : (fs.files before).add l .directory g = none := by
    rw [Files.add_of_ne h.apart, h.free]
  intro x e hx
  rw [hchanged]
  exact Files.within_add hfree x e (Files.within_add (h.fresh l List.prefix_rfl) x e hx)

/-- A relative name that does not go up is that of an entry of the directory. -/
theorem exists_entry (h : Stages fs before after staged l g)
    (hrelative : (Path.mk staged.name).isAbsolute = false)
    (hstays : .parent ∉ (Path.mk staged.name).components) : ∃ entry, g = l ++ [entry] := by
  refine Classical.byContradiction fun hnone => ?_
  have hend := fs.getLast?_pieces_ne h.dir (h.fresh l List.prefix_rfl)
  have hleads := fs.leads_join hend hrelative h.leads_dir h.directory h.path
  have hup : ".." ∉ (Path.mk staged.name).pieces.map fs.write := by
    intro hmem
    obtain ⟨piece, hpiece, hwrite⟩ := List.mem_map.1 hmem
    rw [fs.write_parent piece hwrite] at hpiece
    exact hstays (Path.parent_mem_components hpiece)
  -- If the link is no entry of the directory, then the directory is empty.
  have hempty : ∀ entry, fs.files after (l ++ [entry]) = none := by
    intro entry
    obtain ⟨target, hchanged⟩ := h.changed
    have hlink : l ++ [entry] ≠ g := fun heq => hnone ⟨entry, heq.symm⟩
    have hself : l ++ [entry] ≠ l := by simp
    rw [hchanged, Files.add_of_ne hlink, Files.add_of_ne hself]
    exact h.fresh _ (List.prefix_append _ _)
  rcases hleads.of_empty hempty hup with heq | hentry
  · exact h.apart heq
  · exact hnone hentry

/-- Without the directory and what is below it, all is as before, but for a link elsewhere. -/
theorem prune_eq (h : Stages fs before after staged l g) :
    (l <+: g → (fs.files after).prune l = fs.files before) ∧
      (¬l <+: g → ∃ target,
        (fs.files after).prune l = (fs.files before).add g (.link target)) := by
  obtain ⟨target, hchanged⟩ := h.changed
  have hdir : ((fs.files before).add l .directory).prune l = fs.files before := by
    rw [Files.prune_add_below List.prefix_rfl, Files.prune_of_fresh h.fresh]
  rw [hchanged]
  refine ⟨fun hbelow => ?_, fun helsewhere => ⟨target, ?_⟩⟩
  · rw [Files.prune_add_below hbelow, hdir]
  · rw [Files.prune_add_elsewhere helsewhere, hdir]

end Stages

/-- The ways of a staging, with what comes of it and the world after it. -/
inductive StageCourse (host : Host σ) (name : String) (before : σ) :
    Except Failure StagedBinary → σ → Prop where
  | unresolved (failure : Failure) : StageCourse host name before (.error failure) before
  | unmade (failure : Failure) {cause : PathError} {after : σ}
      (make : host.makeStaging before = (.error cause, after)) :
      StageCourse host name before (.error failure) after
  | unlinked (failure : Failure) {dir source : Path} {cause : SystemError} {mid after : σ}
      (make : host.makeStaging before = (.ok dir, mid))
      (link : host.link source (StagedBinary.path ⟨dir, name⟩) mid = (.error cause, after)) :
      StageCourse host name before (.error failure) (host.removeTree dir after).2
  | linked {dir source : Path} {mid after : σ} (make : host.makeStaging before = (.ok dir, mid))
      (link : host.link source (StagedBinary.path ⟨dir, name⟩) mid = (.ok (), after)) :
      StageCourse host name before (.ok ⟨dir, name⟩) after

theorem stageCourse (host : Host σ) (source : Path) (name : String) (before : σ) :
    StageCourse host name before (stage host source name before).1
      (stage host source name before).2 := by
  unfold stage
  split
  · exact .unresolved _
  · split
    · next hmake => exact .unmade _ hmake
    · next hmake =>
      dsimp only
      split
      · next hlink => exact .linked hmake hlink
      · next hlink => exact .unlinked _ hmake hlink

/-- A staging that succeeds makes a directory and a link. -/
theorem StageCourse.exists_stages (rooted : (fs.files before).Rooted)
    (h : StageCourse host name before (.ok staged) after) :
    staged.name = name ∧ ∃ l g, Stages fs before after staged l g := by
  cases h with
  | @linked dir source mid _ make link =>
    obtain ⟨l, hdir, hfresh, hmid, hcwd⟩ := fs.makeStaging_ok make
    obtain ⟨g, target, hpath, hfree, hafter, hcwd'⟩ := fs.link_ok link
    have hapart : g ≠ l := by
      rintro rfl
      rw [hmid, Files.add_self] at hfree
      cases hfree
    refine ⟨rfl, l, g, {
      fresh := fun x hx => rooted.eq_none hfresh hx
      free := by rwa [hmid, Files.add_of_ne hapart] at hfree
      apart := hapart
      changed := ⟨target, by rw [hafter, hmid]⟩
      cwd := hcwd'.trans hcwd
      dir := hdir
      path := fs.keeps hpath ?_ hcwd' }⟩
    rw [hafter]
    exact Files.within_add hfree

/-- A staging that fails leaves the files as they were: a directory without a link is removed. -/
theorem StageCourse.files_of_error (rooted : (fs.files before).Rooted) {failure : Failure}
    (h : StageCourse host name before (.error failure) after) :
    fs.files after = fs.files before := by
  cases h with
  | unresolved => rfl
  | unmade _ make => exact fs.makeStaging_error make
  | @unlinked _ dir source cause mid last make link =>
    obtain ⟨l, hdir, hfresh, hmid, hcwd⟩ := fs.makeStaging_ok make
    obtain ⟨hfiles, hcwd'⟩ := fs.link_error link
    have hlast : fs.files last = (fs.files before).add l .directory := hfiles.trans hmid
    have hleads : fs.leads last dir l :=
      fs.keeps hdir (hlast ▸ Files.within_add hfresh) (hcwd'.trans hcwd)
    have hroot : l ≠ [] := by
      rintro rfl
      cases (fs.root before).symm.trans hfresh
    obtain ⟨later, hremove, hpruned⟩ :=
      fs.removeTree_ok hleads (by rw [hlast, Files.add_self]) hroot
    rw [hremove, hpruned, hlast, Files.prune_add_below List.prefix_rfl,
      Files.prune_of_fresh fun x hx => rooted.eq_none hfresh hx]

/-- A teardown takes away the directory with what is below it; so does dropping it. -/
theorem exists_teardown {later : σ} (hdir : fs.leads later staged.dir l)
    (hdirectory : fs.files later l = some .directory) (hl : l ≠ []) :
    ∃ last, teardown host staged later = (.ok (), last) ∧
      host.removeTree staged.dir later = (.ok (), last) ∧
      fs.files last = (fs.files later).prune l := by
  obtain ⟨last, hremove, hfiles⟩ := fs.removeTree_ok hdir hdirectory hl
  exact ⟨last, by simp [teardown, hremove], hremove, hfiles⟩

/-- The world in which the staging of a setup starts. -/
def prepared (host : Host σ) (config : BinaryConfig) (now : Duration) (world : σ) : σ :=
  ((prepare host config).run.run now world).world

/-- A setup that fails has not staged anything, or has failed in its staging; one that succeeds has
staged the binary by its configured name. -/
theorem setupCourse (host : Host σ) (config : BinaryConfig) (now : Duration) (world : σ) :
    let done := (setup host config).run.run now world
    StageCourse host config.name (prepared host config now world) done.value done.world := by
  simp only [prepared, setup_eq, ExceptT.run_bind, Timed.run_bind]
  obtain ⟨value, spent, next⟩ := (prepare host config).run.run now world
  cases value with
  | error failure => exact .unresolved failure
  | ok source => exact stageCourse host source config.name next

/-- A setup that fails leaves the files as they were when its staging started. One that succeeds has
made a directory where nothing was and a link, and nothing else; a teardown takes away the directory
and what is below it at any time, and at once it leaves everything as it was exactly if the link is
below the directory. A link elsewhere stays. A relative name that does not go up is that of an entry
of the directory. -/
theorem teardown_undoes_staging_iff (fs : FileSystem host) (config : BinaryConfig) (now : Duration)
    (world : σ) (rooted : (fs.files (prepared host config now world)).Rooted) :
    let before := prepared host config now world
    let done := (setup host config).run.run now world
    (∀ failure, done.value = .error failure → fs.files done.world = fs.files before) ∧
      ∀ staged, done.value = .ok staged → ∃ l g, Stages fs before done.world staged l g ∧
        ((Path.mk config.name).isAbsolute = false →
          .parent ∉ (Path.mk config.name).components → ∃ entry, g = l ++ [entry]) ∧
        (∀ later, fs.leads later staged.dir l → fs.files later l = some .directory →
          ∃ last, teardown host staged later = (.ok (), last) ∧
            host.removeTree staged.dir later = (.ok (), last) ∧
            fs.files last = (fs.files later).prune l) ∧
        ∃ last, teardown host staged done.world = (.ok (), last) ∧
          (fs.files last = fs.files before ↔ l <+: g) ∧
          (¬l <+: g → ∃ target, fs.files last = (fs.files before).add g (.link target)) := by
  intro before done
  have hcourse : StageCourse host config.name before done.value done.world :=
    setupCourse host config now world
  refine ⟨fun failure hvalue => ?_, fun staged hvalue => ?_⟩
  · rw [hvalue] at hcourse
    exact hcourse.files_of_error rooted
  · rw [hvalue] at hcourse
    obtain ⟨hname, l, g, stages⟩ := hcourse.exists_stages rooted
    obtain ⟨last, hteardown, -, hlast⟩ :=
      exists_teardown stages.leads_dir stages.directory stages.ne_root
    obtain ⟨hbelow, helsewhere⟩ := stages.prune_eq
    refine ⟨l, g, stages, fun hrelative hstays => ?_, fun later hdir hdirectory => ?_, last,
      hteardown, ⟨fun hsame => ?_, fun h => hlast.trans (hbelow h)⟩, fun h => ?_⟩
    · exact stages.exists_entry (hname ▸ hrelative) (hname ▸ hstays)
    · exact exists_teardown hdir hdirectory stages.ne_root
    · refine Classical.byContradiction fun h => ?_
      obtain ⟨target, hleft⟩ := helsewhere h
      have hlink : fs.files before g = some (.link target) := by
        rw [← hsame, hlast, hleft, Files.add_self]
      cases stages.free.symm.trans hlink
    · rw [hlast]
      exact helsewhere h

/-! ### A machine with two programs -/

section TwoPrograms

open Machine (Entry FileTree inside)

/-- A machine with a program in a directory and another one above it. -/
def twoPrograms : Machine where
  files := { entries := [(["tmp"], .directory), (["opt"], .directory), (["opt", "bin"], .directory),
    (["opt", "bin", "cli"], .file [] true), (["opt", "cli"], .file [] true)] }
  cwd := []
  vars := .empty

def stagingDir : Path := ⟨"/tmp/compose-e2e-000000"⟩

def stagingPlace : Location := ["tmp", "compose-e2e-000000"]

/-- Its files with a staging directory. -/
def stagingFiles : FileTree := twoPrograms.files.put stagingPlace .directory

theorem find_stagingDir : twoPrograms.files.find [] false (inside stagingDir) =
    .ok ⟨stagingPlace, none⟩ :=
  FileTree.find_of_straight (by decide +kernel) (by decide +kernel) (by decide)

theorem makeStaging_twoPrograms : Machine.host.makeStaging twoPrograms =
    (.ok stagingDir, { twoPrograms with files := stagingFiles }) := by
  have hpath : twoPrograms.temporaryPath 0 = stagingDir := by decide +kernel
  have hcwd : twoPrograms.cwd = [] := rfl
  have hfresh : twoPrograms.freshPath = some stagingDir := by
    rw [Machine.freshPath, List.range_succ_eq_map, List.map_cons, hpath, List.find?_cons_of_pos]
    simp [hcwd, find_stagingDir]
  have hend : FileTree.withoutEndSlash (inside stagingDir) = inside stagingDir := by
    decide +kernel
  have hmake : twoPrograms.files.makeDirectory [] (inside stagingDir) = .ok stagingFiles := by
    rw [FileTree.makeDirectory, hend, FileTree.create_of_find find_stagingDir]
    rfl
  simp [Machine.host, Machine.makeStaging, hfresh, hcwd, hmake]

/-- A setup on this machine, by where the path of the binary and that of its link lead. -/
theorem setup_twoPrograms {dir : Path} {name : String} {g : Location}
    (hsource : twoPrograms.files.find [] true (inside (dir.join ⟨name⟩)) =
      .ok ⟨["opt", "cli"], some (.file [] true)⟩)
    (htarget : stagingFiles.find [] false (inside (stagingDir.join ⟨name⟩)) = .ok ⟨g, none⟩) :
    (setup Machine.host { name, dir := some dir }).run.run .zero twoPrograms =
      ⟨.ok ⟨stagingDir, name⟩, .zero,
        { twoPrograms with files := stagingFiles.put g (.link ⟨"/opt/cli"⟩) }⟩ := by
  have hentry : twoPrograms.files.entry twoPrograms.cwd (inside (dir.join ⟨name⟩)) = _ :=
    FileTree.entry_of_find hsource
  have hfile : Machine.host.isFile (dir.join ⟨name⟩) twoPrograms = true := by
    simp only [Machine.host, FileTree.isFile, hentry]
  have hlocate : locate Machine.host { name, dir := some dir } twoPrograms =
      .ok (dir.join ⟨name⟩) := by
    rw [BinaryConfig.locate_of_dir Machine.host rfl, if_pos hfile]
  have hcanonical : Machine.host.canonical (dir.join ⟨name⟩) twoPrograms = .ok ⟨"/opt/cli"⟩ := by
    simp only [Machine.host, Machine.canonical, hentry]
    decide +kernel
  have hlink : Machine.host.link ⟨"/opt/cli"⟩ (stagingDir.join ⟨name⟩)
      { twoPrograms with files := stagingFiles } =
        (.ok (), { twoPrograms with files := stagingFiles.put g (.link ⟨"/opt/cli"⟩) }) := by
    have hinside : inside ⟨"/opt/cli"⟩ = ⟨"/opt/cli"⟩ := by decide +kernel
    have hcwd : twoPrograms.cwd = [] := rfl
    simp only [Machine.host, Machine.link, hcwd, FileTree.create_of_find htarget, hinside]
  have hstage : stage Machine.host (dir.join ⟨name⟩) name twoPrograms =
      (.ok ⟨stagingDir, name⟩,
        { twoPrograms with files := stagingFiles.put g (.link ⟨"/opt/cli"⟩) }) := by
    simp only [stage, hcanonical, makeStaging_twoPrograms, StagedBinary.path, hlink]
  have hprepare : (prepare Machine.host { name, dir := some dir }).run.run .zero twoPrograms =
      ⟨.ok (dir.join ⟨name⟩), .zero, twoPrograms⟩ := by
    rw [← hlocate]
    rfl
  simp only [setup_eq, ExceptT.run_bind, Timed.run_bind, hprepare, run_ofState, hstage]
  rfl

/-- After a setup for a plain name and its teardown, everything is as before. -/
theorem plainName_torn_down : Files.Rooted twoPrograms.files.get? ∧
    let done := (setup Machine.host { name := "cli", dir := some ⟨"/opt"⟩ }).run.run .zero
      twoPrograms
    done.value = .ok ⟨stagingDir, "cli"⟩ ∧
      ∃ last, teardown Machine.host ⟨stagingDir, "cli"⟩ done.world = (.ok (), last) ∧
        last.files.get? = twoPrograms.files.get? := by
  have hsource : twoPrograms.files.find [] true (inside ((Path.mk "/opt").join ⟨"cli"⟩)) =
      .ok ⟨["opt", "cli"], some (.file [] true)⟩ :=
    FileTree.find_of_straight (by decide +kernel) (by decide +kernel) (by decide)
  have htarget : stagingFiles.find [] false (inside (stagingDir.join ⟨"cli"⟩)) =
      .ok ⟨["tmp", "compose-e2e-000000", "cli"], none⟩ :=
    FileTree.find_of_straight (by decide +kernel) (by decide +kernel) (by decide)
  have rooted : Files.Rooted twoPrograms.files.get? := FileTree.rooted_of_forall (by decide)
  have hvalue : ((setup Machine.host { name := "cli", dir := some ⟨"/opt"⟩ }).run.run .zero
      twoPrograms).value = .ok ⟨stagingDir, "cli"⟩ := by rw [setup_twoPrograms hsource htarget]
  obtain ⟨l, g, -, hentry, -, last, hteardown, hiff, -⟩ :=
    (teardown_undoes_staging_iff Machine.fileSystem { name := "cli", dir := some ⟨"/opt"⟩ } .zero
      twoPrograms rooted).2 _ hvalue
  obtain ⟨entry, rfl⟩ := hentry (by decide) (by decide +kernel)
  exact ⟨rooted, hvalue, last, hteardown, hiff.2 (List.prefix_append l [entry])⟩

/-- A name that goes up is linked beside the staging directory, and the link outlives it. -/
theorem outerName_link_stays :
    let done := (setup Machine.host { name := "../cli", dir := some ⟨"/opt/bin"⟩ }).run.run .zero
      twoPrograms
    done.value = .ok ⟨stagingDir, "../cli"⟩ ∧ ¬stagingPlace <+: ["tmp", "cli"] ∧
      twoPrograms.files.get? ["tmp", "cli"] = none ∧
      ∃ last, teardown Machine.host ⟨stagingDir, "../cli"⟩ done.world = (.ok (), last) ∧
        last.files.get? ["tmp", "cli"] = some (.link ⟨"/opt/cli"⟩) := by
  have hsource : twoPrograms.files.find [] true (inside ((Path.mk "/opt/bin").join ⟨"../cli"⟩)) =
      .ok ⟨["opt", "cli"], some (.file [] true)⟩ :=
    FileTree.find_of_straight (by decide +kernel) (by decide +kernel) (by decide)
  have htarget : stagingFiles.find [] false (inside (stagingDir.join ⟨"../cli"⟩)) =
      .ok ⟨["tmp", "cli"], none⟩ :=
    FileTree.find_of_straight (by decide +kernel) (by decide +kernel) (by decide)
  have hdir : (stagingFiles.put ["tmp", "cli"] (.link ⟨"/opt/cli"⟩)).find [] false
      (inside stagingDir) = .ok ⟨stagingPlace, some .directory⟩ :=
    FileTree.find_of_straight (by decide +kernel) (by decide +kernel) (by decide)
  have helsewhere : ¬stagingPlace <+: ["tmp", "cli"] := by decide
  obtain ⟨last, hremove, hlast⟩ := Machine.exists_of_removeTree
    (m := { twoPrograms with files := stagingFiles.put ["tmp", "cli"] (.link ⟨"/opt/cli"⟩) })
    hdir (by decide) (by decide)
  rw [setup_twoPrograms hsource htarget]
  refine ⟨rfl, helsewhere, by decide, last, ?_, ?_⟩
  · simp only [teardown, Machine.host, hremove]
  · rw [hlast, Files.prune_elsewhere helsewhere]
    decide

end TwoPrograms
end ComposeHarness.Bootstrap
