import ComposeHarness.Path
import ComposeHarness.Proofs.Text.Pieces

/-!
# Components of joined and divided paths

The pieces of a path are what stands between its slashes, and its components are read off them. A
relative path that is joined to another one adds its components at the end. A path whose last
component is a name, and not its only one, is divided into a parent and that name, and joining the
two gives back the components.
-/
namespace ComposeHarness.Path

variable {p q : Path}

/-! ### Pieces -/

theorem split_eq_splitOn (cs : List Char) : split cs = cs.splitOn '/' := by
  induction cs with
  | nil => rfl
  | cons c cs ih =>
    rw [split, ih, List.splitOn_cons_eq_if_modifyHead]
    cases h : cs.splitOn '/' with
    | nil => exact absurd h (List.splitOn_ne_nil _ _)
    | cons piece rest => rfl

theorem pieces_eq (p : Path) : p.pieces = (p.text.toList.splitOn '/').map String.ofList := by
  rw [pieces, split_eq_splitOn]

theorem pieces_ne_nil (p : Path) : p.pieces ≠ [] := by
  simp [pieces_eq]

/-- The pieces of two texts with a slash between them. -/
theorem pieces_append (a b : String) :
    (Path.mk (a ++ "/" ++ b)).pieces = (Path.mk a).pieces ++ (Path.mk b).pieces := by
  have htext : (a ++ "/" ++ b).toList = a.toList ++ '/' :: b.toList := by simp
  simp only [pieces_eq, htext, List.splitOn_append_cons_self, List.map_append]

theorem slash_not_mem {piece : String} (h : piece ∈ p.pieces) : '/' ∉ piece.toList := by
  rw [pieces_eq, List.mem_map] at h
  obtain ⟨cs, hcs, rfl⟩ := h
  simpa using Text.not_mem_of_mem_splitOn hcs

/-- Pieces that are put together are the pieces of the path. -/
theorem pieces_intercalate {ps : List String} (full : ps ≠ [])
    (h : ∀ piece ∈ ps, '/' ∉ piece.toList) : (Path.mk (String.intercalate "/" ps)).pieces = ps := by
  have hsplit : ([('/' : Char)].intercalate (ps.map String.toList)).splitOn '/' =
      ps.map String.toList := by
    apply List.splitOn_intercalate
    · simpa using h
    · simpa using full
  have htext : (String.intercalate "/" ps).toList = ['/'].intercalate (ps.map String.toList) := by
    simp
  simp only [pieces_eq, htext, hsplit, List.map_map]
  exact List.map_id'' (fun piece => String.ofList_toList) ps

/-- A path is got back from its pieces. -/
theorem intercalate_pieces (p : Path) : String.intercalate "/" p.pieces = p.text := by
  apply String.toList_injective
  simp [pieces_eq, Function.comp_def, List.intercalate_splitOn]

theorem pieces_of_not_mem {s : String} (h : '/' ∉ s.toList) : (Path.mk s).pieces = [s] := by
  simp [pieces_eq, List.splitOn_eq_singleton h]

theorem isEmpty_iff : p.isEmpty = true ↔ p.pieces = [""] := by
  rw [isEmpty, String.isEmpty_iff]
  constructor
  · intro h
    rw [pieces_eq, h]
    rfl
  · intro h
    rw [← intercalate_pieces, h]
    simp

theorem isAbsolute_iff : p.isAbsolute = true ↔ ∃ rest, p.pieces = "" :: rest ∧ rest ≠ [] := by
  rw [isAbsolute, pieces_eq]
  cases p.text.toList with
  | nil => simp
  | cons c cs =>
    rw [List.splitOn_cons_eq_if_modifyHead]
    by_cases hc : c = '/'
    · simp [hc]
    · cases h : cs.splitOn '/' with
      | nil => exact absurd h (List.splitOn_ne_nil _ _)
      | cons piece rest => simp [hc]

/-- A path that does not end with a slash keeps its pieces before those of a relative one. -/
theorem pieces_join (hp : p.pieces.getLast? ≠ some "") (hq : q.isAbsolute = false) :
    (p.join q).pieces = p.pieces ++ q.pieces := by
  have hempty : p.isEmpty = false := by
    rw [← Bool.not_eq_true, isEmpty_iff]
    exact fun h => hp (by simp [h])
  have hslash : p.text.toList.getLast? ≠ some '/' := by
    intro hlast
    obtain ⟨front, hfront⟩ := List.getLast?_eq_some_iff.1 hlast
    exact hp (by simp [pieces_eq, hfront, List.splitOn_append_cons_self])
  have hjoin : p.join q = ⟨p.text ++ "/" ++ q.text⟩ := by simp [join, hq, hempty, hslash]
  rw [hjoin, pieces_append]

theorem isAbsolute_join (hp : p.pieces.getLast? ≠ some "") (hq : q.isAbsolute = false) :
    (p.join q).isAbsolute = p.isAbsolute := by
  rw [Bool.eq_iff_iff, isAbsolute_iff, isAbsolute_iff, pieces_join hp hq]
  obtain ⟨first, rest, hpieces⟩ := List.exists_cons_of_ne_nil p.pieces_ne_nil
  rw [hpieces] at hp ⊢
  have hrest : first = "" → rest ≠ [] := by
    rintro rfl rfl
    exact hp rfl
  constructor
  · rintro ⟨all, heq, -⟩
    obtain ⟨rfl, -⟩ := List.cons.inj heq
    exact ⟨rest, rfl, hrest rfl⟩
  · rintro ⟨later, heq, hlater⟩
    exact ⟨later ++ q.pieces, by rw [heq]; rfl, by simp [hlater]⟩

/-! ### Components -/

/-- The components of the pieces after the first. -/
def later (pieces : List String) : List Component :=
  (pieces.filter fun piece => !isSilent piece).map componentOf

/-- The component that a path starts with, if any. -/
def leading : List String → List Component
  | [] => []
  | "" :: rest => if rest.isEmpty then [] else [.root]
  | first :: _ => [componentOf first]

theorem later_append (ps qs : List String) : later (ps ++ qs) = later ps ++ later qs := by
  simp [later]

theorem later_singleton {s : String} (h : isSilent s = false) : later [s] = [componentOf s] := by
  simp [later, h]

theorem components_eq (p : Path) : p.components = leading p.pieces ++ later p.pieces.tail := by
  unfold components
  cases h : p.pieces with
  | nil => rfl
  | cons first rest =>
    by_cases hfirst : first = ""
    · subst hfirst
      have habsolute : p.isAbsolute = !rest.isEmpty := by
        rw [Bool.eq_iff_iff, isAbsolute_iff, h]
        simp
      cases rest <;> simp_all [leading, later]
    · simp [leading, later, hfirst]

/-- A piece with two dots goes up. -/
theorem parent_mem_components (h : ".." ∈ p.pieces) : .parent ∈ p.components := by
  rw [components_eq]
  cases hpieces : p.pieces with
  | nil => exact absurd hpieces p.pieces_ne_nil
  | cons first rest =>
    rw [hpieces] at h
    rcases List.mem_cons.1 h with rfl | h
    · exact List.mem_append_left _ (List.mem_singleton.2 rfl)
    · exact List.mem_append_right _ (List.mem_map.2 ⟨"..", by simpa [isSilent] using h, rfl⟩)

/-- More pieces make more components at the end, unless the first pieces are no path at all. -/
theorem leading_append {ps : List String} (full : ps ≠ []) (h : ps ≠ [""]) (qs : List String) :
    leading (ps ++ qs) = leading ps := by
  cases ps with
  | nil => exact absurd rfl full
  | cons first rest =>
    by_cases hfirst : first = ""
    · subst hfirst
      have hrest : rest ≠ [] := fun hrest => h (by rw [hrest])
      simp [leading, hrest]
    · simp [leading]

theorem leading_append_later {ps : List String} (full : ps ≠ []) (h : ps ≠ [""])
    (qs : List String) :
    leading (ps ++ qs) ++ later (ps ++ qs).tail = leading ps ++ later ps.tail ++ later qs := by
  rw [leading_append full h, List.tail_append_of_ne_nil full, later_append, List.append_assoc]

/-- The components before a slash, of which the very first one means the root. -/
theorem components_slash (a b : String) :
    (Path.mk (a ++ "/" ++ b)).components =
      (if a = "" then [.root] else (Path.mk a).components) ++ later (Path.mk b).pieces := by
  rw [components_eq, pieces_append]
  by_cases ha : a = ""
  · subst ha
    have hpieces : (Path.mk "").pieces = [""] := isEmpty_iff.1 rfl
    simp [hpieces, leading, pieces_ne_nil]
  · have hempty : (Path.mk a).pieces ≠ [""] := by
      rw [Ne, ← isEmpty_iff]
      simpa [isEmpty] using ha
    rw [leading_append_later (pieces_ne_nil _) hempty, if_neg ha, ← components_eq]

/-- A relative path that is joined to another one adds its components, but for a dot at its start. -/
theorem components_join (hp : p.isEmpty = false) (hq : q.isAbsolute = false) :
    (p.join q).components = p.components ++ later q.pieces := by
  have htext : p.text ≠ "" := by simpa [isEmpty] using hp
  by_cases hslash : p.text.toList.getLast? = some '/'
  · obtain ⟨front, hfront⟩ := List.getLast?_eq_some_iff.1 hslash
    have hend : p.text = String.ofList front ++ "/" ++ "" := by
      apply String.toList_injective
      simp [hfront]
    have hjoin : p.join q = ⟨String.ofList front ++ "/" ++ q.text⟩ := by
      simp [join, hq, hp, hend]
    have hp' : p = ⟨String.ofList front ++ "/" ++ ""⟩ := congrArg Path.mk hend
    have hnone : later (Path.mk "").pieces = [] := by rw [isEmpty_iff.1 rfl]; rfl
    rw [hjoin, components_slash, hp', components_slash, hnone, List.append_nil]
  · have hjoin : p.join q = ⟨p.text ++ "/" ++ q.text⟩ := by simp [join, hq, hp, hslash]
    rw [hjoin, components_slash, if_neg htext]

/-- A name below a directory. -/
theorem components_join_name {s : String} (hp : p.isEmpty = false) (h : '/' ∉ s.toList)
    (hs : isSilent s = false) : (p.join ⟨s⟩).components = p.components ++ [componentOf s] := by
  have hrelative : (Path.mk s).isAbsolute = false := by
    rw [isAbsolute, decide_eq_false_iff_not]
    exact fun hhead => h (List.mem_of_mem_head? hhead)
  rw [components_join hp hrelative, pieces_of_not_mem h, later_singleton hs]

/-! ### Parent and name -/

theorem dropSilentEnd_cons (piece : String) (rest : List String) :
    dropSilentEnd (piece :: rest) =
      if (dropSilentEnd rest).isEmpty && isSilent piece then []
      else piece :: dropSilentEnd rest := rfl

theorem later_dropSilentEnd (ps : List String) : later (dropSilentEnd ps) = later ps := by
  induction ps with
  | nil => rfl
  | cons piece rest ih =>
    have hsplit : later (piece :: rest) = later [piece] ++ later rest := later_append [piece] rest
    rw [dropSilentEnd_cons, hsplit, ← ih]
    split
    · next h =>
      simp only [Bool.and_eq_true, List.isEmpty_iff] at h
      simp [later, h]
    · exact later_append [piece] _

theorem dropSilentEnd_eq_nil_iff {ps : List String} : dropSilentEnd ps = [] ↔ later ps = [] := by
  constructor
  · intro h
    rw [← later_dropSilentEnd, h]
    rfl
  · induction ps with
    | nil => exact fun _ => rfl
    | cons piece rest ih =>
      intro h
      have hsplit : later [piece] ++ later rest = [] := (later_append [piece] rest).symm.trans h
      obtain ⟨hpiece, hrest⟩ := List.append_eq_nil_iff.1 hsplit
      cases hs : isSilent piece with
      | true => simp [dropSilentEnd_cons, ih hrest, hs]
      | false => simp [later_singleton hs] at hpiece

/-- What is left after the silent pieces at the end have gone ends with a component. -/
theorem exists_dropSilentEnd {ps : List String} (h : dropSilentEnd ps ≠ []) :
    ∃ front last, dropSilentEnd ps = front ++ [last] ∧ isSilent last = false := by
  induction ps with
  | nil => exact absurd rfl h
  | cons piece rest ih =>
    by_cases hrest : dropSilentEnd rest = []
    · rw [dropSilentEnd_cons, hrest] at h ⊢
      cases hs : isSilent piece with
      | true => simp [hs] at h
      | false => exact ⟨[], piece, by simp, hs⟩
    · obtain ⟨front, last, heq, hlast⟩ := ih hrest
      refine ⟨piece :: front, last, ?_, hlast⟩
      simp [dropSilentEnd_cons, heq]

theorem mem_of_mem_dropSilentEnd {ps : List String} {piece : String}
    (h : piece ∈ dropSilentEnd ps) : piece ∈ ps := by
  induction ps with
  | nil => exact h
  | cons first rest ih =>
    rw [dropSilentEnd_cons] at h
    split at h
    · simp at h
    · exact List.mem_cons.2 ((List.mem_cons.1 h).imp_right ih)

/-- A path whose last component is a name, and not its only component. -/
def Splits (p : Path) : Prop :=
  ∃ front name, front ≠ [] ∧ p.components = front ++ [.name name]

theorem length_leading_le (ps : List String) : (leading ps).length ≤ 1 := by
  unfold leading
  split
  · simp
  · split <;> simp
  · simp

theorem fileName_eq {front : List Component} {name : String}
    (h : p.components = front ++ [.name name]) : p.fileName = some name := by
  simp [fileName, h]

theorem eq_of_componentOf_eq_name {piece name : String} (h : componentOf piece = .name name) :
    piece = name := by
  unfold componentOf at h
  split at h
  · cases h
  · split at h <;> cases h
    rfl

/-- The first piece and what is left of the others without the silent ones at their end. -/
theorem components_of_pieces {first : String} {rest : List String}
    (h : p.pieces = first :: rest) :
    p.components = leading (first :: rest) ++ later (dropSilentEnd rest) := by
  rw [components_eq, h, List.tail_cons, later_dropSilentEnd]

/-- The parent of a path with a last component behind its first piece. -/
theorem parent_eq {first last : String} {rest front : List String} (h : p.pieces = first :: rest)
    (hkept : dropSilentEnd rest = front ++ [last]) :
    ∃ dir, p.parent = some dir ∧ dir.isEmpty = false ∧
      dir.components = leading (first :: rest) ++ later front := by
  have hrest : rest ≠ [] := by
    rintro rfl
    simp [dropSilentEnd] at hkept
  have hparent : p.parent =
      if first :: dropSilentEnd front == [""] then
        some (if p.isAbsolute then ⟨"/"⟩ else ⟨""⟩)
      else some ⟨String.intercalate "/" (first :: dropSilentEnd front)⟩ := by
    have hdrop : (front ++ [last]).dropLast = front := List.dropLast_concat
    have hcons : ∃ kept more, front ++ [last] = kept :: more := by
      cases front <;> simp
    obtain ⟨kept, more, hmore⟩ := hcons
    simp only [parent, h, hkept]
    rw [hmore] at hdrop ⊢
    simp only [hdrop]
  by_cases habove : first :: dropSilentEnd front = [""]
  · -- Only the root is above the last component.
    obtain ⟨rfl, hfront⟩ := List.cons.inj habove
    have habsolute : p.isAbsolute = true := isAbsolute_iff.2 ⟨rest, h, hrest⟩
    refine ⟨⟨"/"⟩, by simp [hparent, habove, habsolute], by decide, ?_⟩
    have hlater : later front = [] := dropSilentEnd_eq_nil_iff.1 hfront
    simp [hlater, leading, hrest]
    decide
  · have hpieces : (Path.mk (String.intercalate "/" (first :: dropSilentEnd front))).pieces =
        first :: dropSilentEnd front := by
      refine pieces_intercalate (List.cons_ne_nil _ _) fun piece hpiece => slash_not_mem (p := p) ?_
      rw [h]
      rcases List.mem_cons.1 hpiece with rfl | hpiece
      · exact List.mem_cons_self
      · apply List.mem_cons_of_mem
        apply mem_of_mem_dropSilentEnd
        rw [hkept]
        exact List.mem_append_left _ (mem_of_mem_dropSilentEnd hpiece)
    have hleading : leading (first :: dropSilentEnd front) = leading (first :: rest) := by
      by_cases hfirst : first = ""
      · subst hfirst
        have hfront : dropSilentEnd front ≠ [] := fun hfront => habove (by rw [hfront])
        simp [leading, hfront, hrest]
      · simp [leading]
    refine ⟨_, by rw [hparent, if_neg (by simpa using habove)], ?_, ?_⟩
    · rw [← Bool.not_eq_true, isEmpty_iff, hpieces]
      exact habove
    · rw [components_eq, hpieces, List.tail_cons, hleading, later_dropSilentEnd]

/-- A path that splits is divided into its parent and its name, and both together have its
components. -/
theorem exists_parent {front : List Component} {name : String} (hfront : front ≠ [])
    (h : p.components = front ++ [.name name]) :
    ∃ dir, p.parent = some dir ∧ dir.isEmpty = false ∧ dir.components = front ∧
      (dir.join ⟨name⟩).components = p.components := by
  obtain ⟨first, rest, hpieces⟩ := List.exists_cons_of_ne_nil p.pieces_ne_nil
  have hcomponents := components_of_pieces hpieces
  -- Something is left behind the first piece, or there would be one component at most.
  have hkept : dropSilentEnd rest ≠ [] := by
    intro hnil
    have hlength := congrArg List.length (h.symm.trans hcomponents)
    have hle := length_leading_le (first :: rest)
    have hpos := List.length_pos_iff.2 hfront
    simp [hnil, later] at hlength
    omega
  obtain ⟨inner, last, heq, hlast⟩ := exists_dropSilentEnd hkept
  obtain ⟨dir, hparent, hempty, hdir⟩ := parent_eq hpieces heq
  rw [heq, later_append, later_singleton hlast, ← List.append_assoc, ← hdir] at hcomponents
  obtain ⟨hsame, hname⟩ := List.append_inj' (h.symm.trans hcomponents) rfl
  have hname : componentOf last = .name name := (List.cons.inj hname).1.symm
  obtain rfl := eq_of_componentOf_eq_name hname
  have hslash : '/' ∉ last.toList := by
    apply slash_not_mem (p := p)
    rw [hpieces]
    apply List.mem_cons_of_mem
    apply mem_of_mem_dropSilentEnd
    simp [heq]
  refine ⟨dir, hparent, hempty, hsame.symm, ?_⟩
  rw [components_join_name hempty hslash hlast, hname, h, hsame]

/-- A path that has a parent and a name, and whose parent is not empty, splits. -/
theorem splits_of_parent {dir : Path} {name : String} (hname : p.fileName = some name)
    (hparent : p.parent = some dir) (hdir : dir.isEmpty = false) : p.Splits := by
  obtain ⟨first, rest, hpieces⟩ := List.exists_cons_of_ne_nil p.pieces_ne_nil
  have hlast : p.components.getLast? = some (.name name) := by
    unfold fileName at hname
    split at hname
    · next heq =>
      cases hname
      exact heq
    · cases hname
  obtain ⟨front, hfront⟩ := List.getLast?_eq_some_iff.1 hlast
  refine ⟨front, name, ?_, hfront⟩
  rintro rfl
  have hcomponents := hfront.symm.trans (components_of_pieces hpieces)
  by_cases hkept : dropSilentEnd rest = []
  · -- Then the parent is empty, if there is one.
    simp only [parent, hpieces, hkept] at hparent
    split at hparent
    · cases hparent
    · cases hparent
      simp [isEmpty] at hdir
  · obtain ⟨inner, last, heq, hlast⟩ := exists_dropSilentEnd hkept
    have hrest : rest ≠ [] := by
      rintro rfl
      exact hkept rfl
    have hleading : leading (first :: rest) ≠ [] := by
      by_cases hfirst : first = ""
      · simp [hfirst, leading, hrest]
      · simp [leading]
    have hlength := congrArg List.length hcomponents
    have hpos := List.length_pos_iff.2 hleading
    simp [heq, later_append, later_singleton hlast] at hlength
    omega

end ComposeHarness.Path
