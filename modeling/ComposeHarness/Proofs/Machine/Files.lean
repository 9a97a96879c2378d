import ComposeHarness.Machine.Basic
import ComposeHarness.Proofs.Files.System
import ComposeHarness.Proofs.Naming.Source
import ComposeHarness.Proofs.Text.Octets

/-!
# The files of a machine

A machine is a host with files. Its walks lead where the pieces of a path lead, and a walk that
comes to its end does so wherever more is there. What is put where nothing was, and what is pruned,
changes nothing else.
-/
namespace ComposeHarness.Machine

open Text.Octets

/-! ### Trees -/

namespace FileTree

variable {t t' : FileTree} {here l : Location} {e : Entry} {pieces : List String} {links : Nat}
  {place : Place}

theorem get?_put_of_free (free : t.get? l = none) : (t.put l e).get? = Files.add t.get? l e := by
  have hl : l ≠ [] := by
    rintro rfl
    simp [get?] at free
  have hlookup : t.entries.lookup l = none := by simpa [get?, hl] using free
  funext x
  by_cases hx : x = l
  · subst hx
    simp [get?, put, touch, hl, hlookup, List.lookup_append]
  · have hne : (x == l) = false := beq_eq_false_iff_ne.2 hx
    simp [get?, put, touch, hlookup, List.lookup_append, List.lookup_cons, hx, hne]

theorem lookup_filter {α β : Type} [BEq α] [LawfulBEq α] (keep : α → Bool) (x : α)
    (entries : List (α × β)) :
    (entries.filter fun entry => keep entry.1).lookup x =
      if keep x then entries.lookup x else none := by
  induction entries with
  | nil => simp
  | cons entry rest ih =>
    obtain ⟨key, value⟩ := entry
    by_cases hkey : x = key
    · subst hkey
      cases hkeep : keep x <;> simp [hkeep, ih]
    · have hne : (x == key) = false := beq_eq_false_iff_ne.2 hkey
      cases hkeep : keep key <;> simp [hkeep, List.lookup_cons, hne, ih]

theorem get?_prune (hl : l ≠ []) : (t.prune l).get? = Files.prune t.get? l := by
  funext x
  by_cases hx : x = []
  · subst hx
    have hnot : ¬l <+: [] := by simpa using hl
    simp [get?, hnot]
  · have hlookup : (t.prune l).entries.lookup x =
        if !l.isPrefixOf x then t.entries.lookup x else none :=
      lookup_filter (fun key => !l.isPrefixOf key) x t.entries
    by_cases h : l <+: x
    · have hkeep : l.isPrefixOf x = true := List.isPrefixOf_iff_prefix.2 h
      rw [get?, if_neg hx, hlookup, hkeep, Files.prune_below h]
      rfl
    · have hkeep : l.isPrefixOf x = false := by simpa [← List.isPrefixOf_iff_prefix] using h
      rw [get?, if_neg hx, hlookup, hkeep, Files.prune_elsewhere h, get?, if_neg hx]
      rfl

/-- A tree in which every entry lies in a directory. -/
theorem rooted_of_forall (h : ∀ x ∈ t.entries, t.get? x.1.dropLast = some .directory) :
    Files.Rooted t.get? := by
  intro l name hthere
  obtain ⟨e, he⟩ := Option.ne_none_iff_exists'.1 hthere
  have hlookup : t.entries.lookup (l ++ [name]) = some e := by simpa [get?] using he
  obtain ⟨front, back, hentries, -⟩ := List.lookup_eq_some_iff.1 hlookup
  have hmem : (l ++ [name], e) ∈ t.entries := by simp [hentries]
  simpa using h _ hmem

theorem isDirectory_iff : t.isDirectory here = true ↔ t.get? here = some .directory := by
  simp [isDirectory]

theorem directory_of_not_refused (h : ¬(!t.isDirectory here) = true) :
    t.get? here = some .directory := by
  simpa [isDirectory] using h

/-- Only in a directory a walk goes on. -/
theorem directory_of_walk {piece : String} {rest : List String}
    (h : t.walk false links here (piece :: rest) = .ok place) :
    t.get? here = some .directory := by
  rw [walk] at h
  split at h
  · cases h
  · next hdirectory => exact directory_of_not_refused hdirectory

section Step

variable {followLast : Bool} {piece : String} {rest : List String}
  (directory : t.get? here = some .directory)
include directory

theorem walk_silent (silent : Path.isSilent piece = true) :
    t.walk followLast links here (piece :: rest) = t.walk followLast links here rest := by
  rw [walk]
  simp [isDirectory_iff.2 directory, silent]

theorem walk_up :
    t.walk followLast links here (".." :: rest) = t.walk followLast links here.dropLast rest := by
  have hsilent : Path.isSilent ".." = false := by decide
  rw [walk]
  simp [isDirectory_iff.2 directory, hsilent]

variable (name : IsEntryName piece) (short : ¬nameLimit < piece.length)
include name short

theorem walk_down (entry : ∀ target, t.get? (here ++ [piece]) ≠ some (.link target)) :
    t.walk followLast links here (piece :: rest) =
      t.walk followLast links (here ++ [piece]) rest := by
  rw [walk]
  simp only [isDirectory_iff.2 directory, name.notSilent, name.notParent, short]
  cases hentry : t.get? (here ++ [piece]) with
  | none => simp
  | some e =>
    cases e with
    | link target => exact absurd hentry (entry target)
    | _ => simp

/-- A walk ends at the last name, whatever is there. -/
theorem walk_last :
    t.walk false links here [piece] = .ok ⟨here ++ [piece], t.get? (here ++ [piece])⟩ := by
  rw [walk]
  simp only [isDirectory_iff.2 directory, name.notSilent, name.notParent, short]
  cases hentry : t.get? (here ++ [piece]) with
  | none => simp [walk, hentry]
  | some e => cases e <;> simp [walk, hentry]

theorem walk_follow {target : Path} (more : rest ≠ [])
    (link : t.get? (here ++ [piece]) = some (.link target)) :
    t.walk followLast (links + 1) here (piece :: rest) =
      t.walk followLast links (target.origin here) (target.pieces ++ rest) := by
  rw [walk]
  simp [isDirectory_iff.2 directory, name.notSilent, name.notParent, short, link, more, Path.origin]

end Step

/-- A walk leads where the pieces lead, and tells what is there. -/
theorem leads_of_walk (h : t.walk false links here pieces = .ok place) :
    Leads t.get? here pieces place.location ∧ place.entry = t.get? place.location := by
  fun_induction FileTree.walk t false links here pieces with
  | case1 =>
    cases h
    exact ⟨.here _, rfl⟩
  | case2 => cases h
  | case3 links here piece rest directory silent ih =>
    obtain ⟨leads, hentry⟩ := ih h
    exact ⟨.silent (directory_of_not_refused directory) silent leads, hentry⟩
  | case4 links here rest directory _ ih =>
    obtain ⟨leads, hentry⟩ := ih h
    exact ⟨.up (directory_of_not_refused directory) leads, hentry⟩
  | case5 => cases h
  | case6 links here piece rest directory silent parent _ target link last =>
    cases h
    obtain rfl := List.isEmpty_iff.1 (by simpa using last)
    exact ⟨.last (directory_of_not_refused directory) ⟨by simpa using silent, parent⟩, link.symm⟩
  | case7 => cases h
  | case8 here piece rest directory silent parent _ target link last links ih =>
    obtain ⟨leads, hentry⟩ := ih h
    have hmore : rest ≠ [] := by simpa using last
    exact ⟨.follow (directory_of_not_refused directory) ⟨by simpa using silent, parent⟩ hmore
      link leads, hentry⟩
  | case9 links here piece rest directory silent parent _ entry ih =>
    obtain ⟨leads, hentry⟩ := ih h
    have hdirectory := directory_of_not_refused directory
    have hname : IsEntryName piece := ⟨by simpa using silent, parent⟩
    refine ⟨?_, hentry⟩
    cases rest with
    | nil =>
      rw [walk] at h
      cases h
      exact .last hdirectory hname
    | cons next rest =>
      exact .down hdirectory hname (List.cons_ne_nil _ _) (directory_of_walk h) leads

/-- A walk is the same where more is there, but for what is at its end. -/
theorem walk_of_within (within : Files.Within t.get? t'.get?)
    (h : t.walk false links here pieces = .ok place) :
    ∃ e, t'.walk false links here pieces = .ok ⟨place.location, e⟩ := by
  have hthere : ∀ {l}, ¬(!t.isDirectory l) = true → t'.get? l = some .directory :=
    fun hl => within _ _ (directory_of_not_refused hl)
  fun_induction FileTree.walk t false links here pieces with
  | case1 links here =>
    cases h
    exact ⟨t'.get? here, by rw [walk]⟩
  | case2 => cases h
  | case3 links here piece rest directory silent ih =>
    rw [walk_silent (hthere directory) silent]
    exact ih h
  | case4 links here rest directory _ ih =>
    rw [walk_up (hthere directory)]
    exact ih h
  | case5 => cases h
  | case6 links here piece rest directory silent parent short target link last =>
    cases h
    obtain rfl := List.isEmpty_iff.1 (by simpa using last)
    exact ⟨_, walk_last (hthere directory) ⟨by simpa using silent, parent⟩ short⟩
  | case7 => cases h
  | case8 here piece rest directory silent parent short target link last links ih =>
    have hmore : rest ≠ [] := by simpa using last
    rw [walk_follow (hthere directory) ⟨by simpa using silent, parent⟩ short hmore
      (within _ _ link)]
    exact ih h
  | case9 links here piece rest directory silent parent short entry ih =>
    have hname : IsEntryName piece := ⟨by simpa using silent, parent⟩
    cases rest with
    | nil =>
      -- There may be a link now where nothing was, but at the end it is not followed.
      rw [walk] at h
      cases h
      exact ⟨_, walk_last (hthere directory) hname short⟩
    | cons next rest =>
      have hbelow := within _ _ (directory_of_walk h)
      rw [walk_down (hthere directory) hname short (by simp [hbelow])]
      exact ih h

/-- A path without a slash at its end stays as it is. -/
theorem withoutEndSlash_of_getLast? {p : Path} (h : p.text.toList.getLast? ≠ some '/') :
    withoutEndSlash p = p := by
  have hkept : (p.text.toList.reverse.dropWhile (· == '/')).reverse = p.text.toList := by
    rw [← List.head?_reverse] at h
    cases hback : p.text.toList.reverse with
    | nil => simpa using hback.symm
    | cons c cs =>
      have hc : ¬(c == '/') = true := by simpa [hback] using h
      have hdrop : (c :: cs).dropWhile (· == '/') = c :: cs := List.dropWhile_cons_of_neg hc
      rw [hdrop, ← hback, List.reverse_reverse]
  simp only [withoutEndSlash, hkept, String.ofList_toList]
  split <;> rfl

/-- Where pieces lead if there is no link on the way. -/
def straight? (t : FileTree) : Location → List String → Option Location
  | here, [] => some here
  | here, piece :: rest =>
    if !t.isDirectory here then none
    else if Path.isSilent piece then t.straight? here rest
    else if piece = ".." then t.straight? here.dropLast rest
    else if nameLimit < piece.length then none
    else
      match t.get? (here ++ [piece]) with
      | some (.link _) => none
      | _ => t.straight? (here ++ [piece]) rest

/-- A walk without links is straight. -/
theorem walk_of_straight {followLast : Bool} (h : t.straight? here pieces = some l) :
    t.walk followLast links here pieces = .ok ⟨l, t.get? l⟩ := by
  fun_induction straight? t here pieces with
  | case1 here =>
    cases h
    rw [walk]
  | case2 => cases h
  | case3 here piece rest directory silent ih =>
    rw [walk_silent (directory_of_not_refused directory) silent]
    exact ih h
  | case4 here rest directory _ ih =>
    rw [walk_up (directory_of_not_refused directory)]
    exact ih h
  | case5 => cases h
  | case6 => cases h
  | case7 here piece rest directory silent parent short entry ih =>
    rw [walk_down (directory_of_not_refused directory) ⟨by simpa using silent, parent⟩ short entry]
    exact ih h

theorem find_of_straight {cwd : Location} {followLast : Bool} {p : Path} {entry : Option Entry}
    (full : p.isEmpty = false) (h : t.straight? (p.origin cwd) p.pieces = some l)
    (hentry : t.get? l = entry) : t.find cwd followLast p = .ok ⟨l, entry⟩ := by
  rw [find, full, if_neg Bool.false_ne_true, ← hentry]
  exact walk_of_straight h

theorem entry_of_find {cwd : Location} {p : Path} (h : t.find cwd true p = .ok ⟨l, some e⟩) :
    t.entry cwd p = .ok ⟨l, some e⟩ := by
  rw [entry, h]
  rfl

theorem create_of_find {cwd : Location} {p : Path} (h : t.find cwd false p = .ok ⟨l, none⟩) :
    t.create cwd p e = .ok (t.put l e) := by
  rw [create, h]
  rfl

end FileTree

/-! ### Paths -/

variable {t t' : FileTree} {cwd l : Location} {p : Path} {place : Place}

theorem ofText_intercalate (ps : List String) :
    ofText (String.intercalate "/" ps) = String.intercalate "/" (ps.map ofText) := by
  have hslash : ofText "/" = "/" := by decide
  induction ps with
  | nil => decide
  | cons piece rest ih =>
    cases rest with
    | nil => simp
    | cons next rest =>
      rw [String.intercalate_cons_cons, ofText_append, ofText_append, ih, hslash]
      simp [String.intercalate_cons_cons]

/-- The machine divides a path where it is divided outside. -/
theorem pieces_inside (p : Path) : (inside p).pieces = p.pieces.map ofText := by
  have htext : inside p = ⟨String.intercalate "/" (p.pieces.map ofText)⟩ := by
    rw [inside, ← ofText_intercalate, Path.intercalate_pieces]
  rw [htext]
  refine Path.pieces_intercalate (by simpa using p.pieces_ne_nil) fun piece hpiece => ?_
  obtain ⟨outer, houter, rfl⟩ := List.mem_map.1 hpiece
  rw [mem_ofText_iff (by decide)]
  exact Path.slash_not_mem houter

theorem isAbsolute_inside (p : Path) : (inside p).isAbsolute = p.isAbsolute := by
  rw [Bool.eq_iff_iff, Path.isAbsolute_iff, Path.isAbsolute_iff, pieces_inside]
  cases p.pieces with
  | nil => simp
  | cons first rest => simp

theorem walk_of_find (h : t.find cwd false (inside p) = .ok place) :
    t.walk false FileTree.linkLimit (p.origin cwd) (p.pieces.map ofText) = .ok place := by
  unfold FileTree.find at h
  split at h
  · cases h
  · rwa [isAbsolute_inside, pieces_inside] at h

theorem leads_of_find (h : t.find cwd false (inside p) = .ok place) :
    Leads t.get? (p.origin cwd) (p.pieces.map ofText) place.location ∧
      place.entry = t.get? place.location :=
  FileTree.leads_of_walk (walk_of_find h)

theorem find_of_within (within : Files.Within t.get? t'.get?)
    (h : t.find cwd false (inside p) = .ok place) :
    ∃ e, t'.find cwd false (inside p) = .ok ⟨place.location, e⟩ := by
  unfold FileTree.find at h ⊢
  split at h
  · cases h
  · next hempty =>
    rw [if_neg hempty]
    exact FileTree.walk_of_within within h

/-! ### Temporary directories -/

/-- The name of a temporary directory holds no slash. -/
theorem slash_not_mem_temporaryName (n : Nat) :
    '/' ∉ ("compose-e2e-" ++ sixDigits n).toList := by
  have hdigits : '/' ∉ Nat.toDigits 10 (n % 1000000) := NamingScheme.not_mem_toDigits (by decide) _
  simp [sixDigits, hdigits]

/-- Joined to anything, a name without a slash stands at the end of the text. -/
theorem withoutEndSlash_join {dir : Path} {name : String} (hslash : '/' ∉ name.toList)
    (hname : name ≠ "") :
    FileTree.withoutEndSlash (inside (dir.join ⟨name⟩)) = inside (dir.join ⟨name⟩) := by
  have htext : ∃ front, (dir.join ⟨name⟩).text = front ++ name := by
    unfold Path.join
    split
    · exact ⟨"", by simp⟩
    · split
      · exact ⟨dir.text, rfl⟩
      · exact ⟨dir.text ++ "/", rfl⟩
  obtain ⟨front, hfront⟩ := htext
  apply FileTree.withoutEndSlash_of_getLast?
  have hfull : (ofText name).toList ≠ [] := by simpa using hname
  rw [inside, hfront, ofText_append, String.toList_append, List.getLast?_append_of_ne_nil _ hfull]
  intro hlast
  exact hslash ((mem_ofText_iff (by decide)).1 (List.mem_of_getLast? hlast))

theorem exists_temporaryPath {m : Machine} {dir : Path} (h : m.freshPath = some dir) :
    ∃ n, dir = m.temporaryPath n := by
  obtain ⟨n, -, rfl⟩ := List.mem_map.1 (List.mem_of_find?_eq_some h)
  exact ⟨n, rfl⟩

/-- What is created lies where its path leads, and nothing was there. -/
theorem exists_of_create {e : Entry} (h : t.create cwd (inside p) e = .ok t') :
    ∃ l, t.find cwd false (inside p) = .ok ⟨l, none⟩ ∧ t.get? l = none ∧
      t'.get? = Files.add t.get? l e := by
  unfold FileTree.create at h
  cases hfind : t.find cwd false (inside p) with
  | error cause =>
    rw [hfind] at h
    cases h
  | ok place =>
    obtain ⟨l, entry⟩ := place
    have hfree := (leads_of_find hfind).2
    rw [hfind] at h
    cases entry with
    | some _ => cases h
    | none =>
      cases h
      exact ⟨l, rfl, hfree.symm, FileTree.get?_put_of_free hfree.symm⟩

theorem exists_of_makeStaging {m later : Machine} {dir : Path}
    (h : m.makeStaging = (.ok dir, later)) :
    ∃ l, m.files.find m.cwd false (inside dir) = .ok ⟨l, none⟩ ∧ m.files.get? l = none ∧
      later.files.get? = Files.add m.files.get? l .directory ∧ later.cwd = m.cwd := by
  unfold makeStaging at h
  split at h
  · cases h
  · next hfresh =>
    split at h
    · next files hmake =>
      cases h
      obtain ⟨n, hdir⟩ := exists_temporaryPath hfresh
      have hname : "compose-e2e-" ++ sixDigits n ≠ "" := by simp
      rw [FileTree.makeDirectory, hdir, temporaryPath,
        withoutEndSlash_join (slash_not_mem_temporaryName n) hname] at hmake
      obtain ⟨l, hfind, hfree, hadd⟩ := exists_of_create hmake
      rw [hdir]
      exact ⟨l, hfind, hfree, hadd, rfl⟩
    · cases h

theorem eq_of_makeStaging_error {m later : Machine} {cause : PathError}
    (h : m.makeStaging = (.error cause, later)) : later = m := by
  unfold makeStaging at h
  split at h
  · cases h
    rfl
  · split at h
    · cases h
    · cases h
      rfl

theorem exists_of_link {m later : Machine} {source target : Path}
    (h : m.link source target = (.ok (), later)) :
    ∃ l, m.files.find m.cwd false (inside target) = .ok ⟨l, none⟩ ∧ m.files.get? l = none ∧
      later.files.get? = Files.add m.files.get? l (.link (inside source)) ∧ later.cwd = m.cwd := by
  unfold link at h
  split at h
  · next files hcreate =>
    cases h
    obtain ⟨l, hfind, hfree, hadd⟩ := exists_of_create hcreate
    exact ⟨l, hfind, hfree, hadd, rfl⟩
  · cases h

theorem eq_of_link_error {m later : Machine} {source target : Path} {cause : SystemError}
    (h : m.link source target = (.error cause, later)) : later = m := by
  unfold link at h
  split at h
  · cases h
  · cases h
    rfl

theorem exists_of_removeTree {m : Machine} {dir : Path}
    (hfind : m.files.find m.cwd false (inside dir) = .ok place)
    (hdirectory : m.files.get? place.location = some .directory) (hl : place.location ≠ []) :
    ∃ later, m.removeTree dir = (.ok (), later) ∧
      later.files.get? = Files.prune m.files.get? place.location := by
  have hentry : place.entry.isSome = true := by
    rw [(leads_of_find hfind).2, hdirectory]
    rfl
  refine ⟨{ m with files := m.files.prune place.location }, ?_, FileTree.get?_prune hl⟩
  simp [removeTree, hfind, hentry]

/-- What is made in a machine, and what is removed from it, is so in its files. -/
def fileSystem : FileSystem host where
  files m := m.files.get?
  cwd := Machine.cwd
  write := ofText
  leads m p l := ∃ e, m.files.find m.cwd false (inside p) = .ok ⟨l, e⟩
  root m := by simp [FileTree.get?]
  write_empty := by decide
  write_parent piece h := (ofText_inj (b := "..")).1 h
  resolves := fun ⟨_, h⟩ => (leads_of_find h).1
  keeps := by
    rintro world later p l ⟨e, h⟩ within hcwd
    rw [hcwd]
    exact find_of_within within h
  makeStaging_ok := by
    intro world dir later h
    simp only [host] at h
    obtain ⟨l, hfind, hrest⟩ := exists_of_makeStaging h
    exact ⟨l, ⟨none, hfind⟩, hrest⟩
  makeStaging_error := by
    intro world cause later h
    simp only [host] at h
    rw [eq_of_makeStaging_error h]
  link_ok := by
    intro world source target later h
    simp only [host] at h
    obtain ⟨l, hfind, hrest⟩ := exists_of_link h
    exact ⟨l, inside source, ⟨none, hfind⟩, hrest⟩
  link_error := by
    intro world source target cause later h
    simp only [host] at h
    rw [eq_of_link_error h]
    exact ⟨rfl, rfl⟩
  removeTree_ok := by
    intro world dir l hleads hdirectory hl
    obtain ⟨e, hfind⟩ := hleads
    simp only [host]
    exact exists_of_removeTree hfind hdirectory hl

end ComposeHarness.Machine
