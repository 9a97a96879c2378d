import ComposeHarness.Bootstrap
import ComposeHarness.Proofs.Path.Components

/-!
# The binary that the command line names

A text that names the binary may be a path. If its last component is a name and not its only one, it
sets directory and name, and the configuration makes no difference to where the binary is looked
for. Any other text is taken for the name as it stands, slashes included, and leaves the directory
as it was configured.
-/
namespace ComposeHarness.BinaryConfig

open ComposeHarness.Path (Component)

variable {text : String}

/-- A path that splits sets directory and name. -/
theorem exists_named {front : List Component} {name : String} (hfront : front ≠ [])
    (h : (Path.mk text).components = front ++ [.name name]) :
    ∃ dir : Path, dir.components = front ∧
      (dir.join ⟨name⟩).components = (Path.mk text).components ∧
      ∀ config : BinaryConfig, config.named text = { config with name, dir := some dir } := by
  obtain ⟨dir, hparent, hempty, hdir, hjoin⟩ := Path.exists_parent hfront h
  refine ⟨dir, hdir, hjoin, fun config => ?_⟩
  simp [named, hparent, Path.fileName_eq h, hempty]

/-- Any other text sets the name only. -/
theorem named_of_not_splits (h : ¬(Path.mk text).Splits) (config : BinaryConfig) :
    config.named text = { config with name := text } := by
  unfold named
  split
  · next dir name hparent hname =>
    split
    · rfl
    · next hempty =>
      exact absurd (Path.splits_of_parent hname hparent (by simpa using hempty)) h
  · rfl

theorem choose_binary (config : BinaryConfig) (text : String) :
    config.choose ⟨some text, none⟩ = config.named text := rfl

theorem choose_binary_dir (config : BinaryConfig) (text : String) (dir : Path) :
    config.choose ⟨some text, some dir⟩ = { config.named text with dir := some dir } := rfl

/-- Where a binary with a directory is looked for. -/
theorem locate_of_dir {σ : Type} (host : Host σ) {config : BinaryConfig} {dir : Path}
    (h : config.dir = some dir) (world : σ) :
    Bootstrap.locate host config world =
      if host.isFile (dir.join ⟨config.name⟩) world then .ok (dir.join ⟨config.name⟩)
      else .error (.bootstrap ("binary not found at " ++ (dir.join ⟨config.name⟩).text)) := by
  simp only [Bootstrap.locate, h]
  rfl

/-- A text on the command line decides where the binary is. Alone, it sets a directory and a name
that are the same for every configuration, and joined they have the components of the text; beside
a directory, it sets the name to its last component. -/
structure Decides (text : String) : Prop where
  alone : ∃ (dir : Path) (name : String),
    (dir.join ⟨name⟩).components = (Path.mk text).components ∧
      ∀ config : BinaryConfig, (config.choose ⟨some text, none⟩).dir = some dir ∧
        (config.choose ⟨some text, none⟩).name = name
  beside : ∀ (config : BinaryConfig) (dir : Path),
    (config.choose ⟨some text, some dir⟩).dir = some dir ∧
      (Path.mk text).components.getLast? =
        some (.name (config.choose ⟨some text, some dir⟩).name)

theorem decides_of_splits (h : (Path.mk text).Splits) : Decides text := by
  obtain ⟨front, name, hfront, hcomponents⟩ := h
  obtain ⟨dir, -, hjoin, hnamed⟩ := exists_named hfront hcomponents
  refine ⟨⟨dir, name, hjoin, fun config => ?_⟩, fun config other => ?_⟩
  · simp [choose_binary, hnamed]
  · simp [choose_binary_dir, hnamed, hcomponents]

/-- A text that does not split sets no directory. -/
theorem splits_of_decides (h : Decides text) : (Path.mk text).Splits := by
  refine Classical.byContradiction fun hsplits => ?_
  obtain ⟨dir, name, -, hchoose⟩ := h.alone
  have hdir := (hchoose {}).1
  rw [choose_binary, named_of_not_splits hsplits] at hdir
  cases hdir

/-- A text on the command line decides where the binary is exactly if its last component is a name
and not its only component. Then its parent and this name are taken for directory and name, and
nothing else changes; the binary is looked for at the path with the components of the text. Any
other text is taken for the name as a whole, and the directory stays that of the configuration or
of the command line. -/
theorem decides_iff_splits (text : String) :
    (Decides text ↔ (Path.mk text).Splits) ∧
      (∀ front name, front ≠ [] → (Path.mk text).components = front ++ [.name name] →
        ∃ dir : Path, dir.components = front ∧
          (dir.join ⟨name⟩).components = (Path.mk text).components ∧
          ∀ config : BinaryConfig,
            config.choose ⟨some text, none⟩ = { config with name, dir := some dir } ∧
            (∀ other, config.choose ⟨some text, some other⟩ =
              { config with name, dir := some other }) ∧
            ∀ {σ : Type} (host : Host σ) (world : σ),
              Bootstrap.locate host (config.choose ⟨some text, none⟩) world =
                if host.isFile (dir.join ⟨name⟩) world then .ok (dir.join ⟨name⟩)
                else .error (.bootstrap ("binary not found at " ++ (dir.join ⟨name⟩).text))) ∧
      (¬(Path.mk text).Splits → ∀ config : BinaryConfig,
        config.choose ⟨some text, none⟩ = { config with name := text } ∧
          ∀ other, config.choose ⟨some text, some other⟩ =
            { config with name := text, dir := some other }) := by
  refine ⟨⟨splits_of_decides, decides_of_splits⟩, fun front name hfront h => ?_,
    fun hsplits config => ?_⟩
  · obtain ⟨dir, hdir, hjoin, hnamed⟩ := exists_named hfront h
    refine ⟨dir, hdir, hjoin, fun config => ?_⟩
    have hchoose : config.choose ⟨some text, none⟩ = { config with name, dir := some dir } :=
      hnamed config
    refine ⟨hchoose, fun other => ?_, fun host world => ?_⟩
    · rw [choose_binary_dir, hnamed]
    · rw [hchoose, locate_of_dir host rfl]
  · have hnamed := named_of_not_splits hsplits config
    refine ⟨hnamed, fun other => ?_⟩
    rw [choose_binary_dir, hnamed]

/-- A path with a slash too many and a dot in it. -/
theorem nestedPath_decides :
    (Path.mk "../build//./docker/").Splits ∧ Decides "../build//./docker/" := by
  have h : (Path.mk "../build//./docker/").Splits :=
    ⟨[.parent, .name "build"], "docker", by decide, by decide +kernel⟩
  exact ⟨h, (decides_iff_splits _).1.2 h⟩

/-- A name with a slash after it sets no directory, so that of the configuration is still looked
into. -/
theorem trailingSlash_keeps_directory :
    '/' ∈ "docker/".toList ∧ ¬Decides "docker/" ∧
      ({ dir := some ⟨"/opt"⟩ } : BinaryConfig).choose ⟨some "docker/", none⟩ =
        { name := "docker/", dir := some ⟨"/opt"⟩ } ∧
      ((Path.mk "/opt").join ⟨"docker/"⟩).components ≠ (Path.mk "docker/").components := by
  refine ⟨by decide, fun h => ?_, by decide +kernel, by decide +kernel⟩
  obtain ⟨dir, name, -, hchoose⟩ := h.alone
  have hnone : (({} : BinaryConfig).choose ⟨some "docker/", none⟩).dir = none := by decide +kernel
  cases hnone.symm.trans (hchoose {}).1

end ComposeHarness.BinaryConfig
