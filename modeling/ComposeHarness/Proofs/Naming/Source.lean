import ComposeHarness.Proofs.Naming.Placeholder
import ComposeHarness.Proofs.Naming.Sharing

/-!
# Where a name comes from

A name is read back from both of its ends: the project ends before the first separator, and the
index of a container starts after the last one. What stands between the two may hold the separator.
This needs projects without the separator in them, and for containers a separator that is no digit.
-/
namespace ComposeHarness.NamingScheme

open Resource (named)

variable {scheme : NamingScheme}

/-! ### Reading a name -/

/-- The part after the last occurrence of a character and the part before it. -/
def cutLast (c : Char) (cs : List Char) : Option (List Char × List Char) :=
  (cut c cs.reverse).map fun (after, before) => (before.reverse, after.reverse)

/-- The project and the resource of a kind that a name was made for. -/
def source? (scheme : NamingScheme) (kind : Placeholder) (name : String) :
    Option (String × Resource) := do
  let (project, rest) ← cut scheme.separator name.toList
  match kind with
  | .container =>
    let (service, index) ← cutLast scheme.separator rest
    let n ← index? index
    return (String.ofList project, .container (String.ofList service) (UInt32.ofNat n))
  | kind => return (String.ofList project, named (String.ofList rest) kind)

theorem cutLast_of_not_mem {c : Char} {after : List Char} (h : c ∉ after) (before : List Char) :
    cutLast c (before ++ c :: after) = some (before, after) := by
  have hreverse : (before ++ c :: after).reverse = after.reverse ++ c :: before.reverse := by simp
  simp [cutLast, hreverse, cut_of_not_mem (mt List.mem_reverse.1 h)]

theorem cut_join {project : String} (h : scheme.separator ∉ project.toList) (rest : String) :
    cut scheme.separator (scheme.join project rest).toList =
      some (project.toList, rest.toList) := by
  rw [toList_join, cut_of_not_mem h]

/-! ### Printed indexes -/

/-- The digits of a 32-bit number are read as that number. -/
theorem isCount_toDigits (n : UInt32) : IsCount (Nat.toDigits 10 n.toNat) n.toNat := by
  refine ⟨Nat.toDigits 10 n.toNat, .inl rfl, Nat.toDigits_ne_nil, ?_, ?_, n.toNat_lt⟩
  · intro c hc
    exact Nat.isDigit_of_mem_toDigits (by decide) (by decide) hc
  · exact Nat.ofDigitChars_ten_toDigits

theorem toList_containerName (project service : String) (n : Nat) :
    (scheme.containerName project service n).toList = project.toList ++
      scheme.separator :: (service.toList ++ scheme.separator :: Nat.toDigits 10 n) := by
  simp [containerName, toList_join]

theorem not_mem_toDigits {c : Char} (h : ¬c.isDigit) (n : Nat) : c ∉ Nat.toDigits 10 n :=
  fun hc => h (Nat.isDigit_of_mem_toDigits (by decide) (by decide) hc)

/-! ### Names that can be read -/

/-- Reading a name gives back what it was made for. -/
theorem source?_nameOf {project : String} {r : Resource} (h : scheme.separator ∉ project.toList)
    (hdigit : r.kind = .container → ¬scheme.separator.isDigit) :
    scheme.source? r.kind (scheme.nameOf project r) = some (project, r) := by
  cases r with
  | container service index =>
    -- No separator in the index: the last one is that between service and index.
    have hindex := not_mem_toDigits (hdigit rfl) index.toNat
    have hread : index? (Nat.toDigits 10 index.toNat) = some index.toNat :=
      index?_eq_some_iff.2 (isCount_toDigits index)
    simp [source?, nameOf, Resource.kind, toList_containerName, cut_of_not_mem h,
      cutLast_of_not_mem hindex, hread]
  | network name => simp [source?, nameOf, networkName, Resource.kind, cut_join h, named]
  | volume name => simp [source?, nameOf, volumeName, Resource.kind, cut_join h, named]
  | image service => simp [source?, nameOf, imageName, Resource.kind, cut_join h, named]

theorem nameOf_eq_nameOf_iff {p q : String} {a b : Resource} (hp : scheme.separator ∉ p.toList)
    (hq : scheme.separator ∉ q.toList) (hkind : a.kind = b.kind)
    (hdigit : a.kind = .container → ¬scheme.separator.isDigit) :
    scheme.nameOf p a = scheme.nameOf q b ↔ p = q ∧ a = b := by
  constructor
  · intro h
    have ha := source?_nameOf hp hdigit
    have hb := source?_nameOf hq (hkind ▸ hdigit)
    rw [← hkind, ← h, ha] at hb
    exact Prod.mk.injEq .. ▸ Option.some.inj hb
  · rintro ⟨rfl, rfl⟩
    rfl

/-! ### Separators that are digits -/

/-- A digit between two others makes an index. -/
theorem toDigits_between {c : Char} (h : c.isDigit) :
    ∃ n : UInt32, Nat.toDigits 10 n.toNat = ['1', c, '1'] ∧ n ≠ 1 := by
  have hdigits : ∀ v < 10, Nat.toDigits 10 (UInt32.ofNat (101 + 10 * v)).toNat =
      ['1', Nat.digitChar v, '1'] ∧ UInt32.ofNat (101 + 10 * v) ≠ 1 := by decide
  have hlow : 48 ≤ c.toNat := by
    simp only [Char.isDigit, Bool.and_eq_true, decide_eq_true_eq] at h
    exact h.1
  have hhigh : c.toNat ≤ 57 := by
    simp only [Char.isDigit, Bool.and_eq_true, decide_eq_true_eq] at h
    exact h.2
  have hc : Nat.digitChar (c.toNat - 48) = c := by
    apply Char.toNat_inj.1
    rw [Nat.toNat_digitChar_of_lt_ten (by omega)]
    omega
  obtain ⟨hn, hne⟩ := hdigits (c.toNat - 48) (by omega)
  rw [hc] at hn
  exact ⟨_, hn, hne⟩

/-- If the separator is a digit, it may just as well belong to the index. -/
theorem exists_container_eq (h : scheme.separator.isDigit) (project : String) :
    ∃ a b : Resource, a.kind = .container ∧ b.kind = .container ∧ a ≠ b ∧
      scheme.nameOf project a = scheme.nameOf project b := by
  obtain ⟨n, hn, hne⟩ := toDigits_between h
  refine ⟨.container "web" n, .container (scheme.join "web" "1") 1, rfl, rfl, ?_, ?_⟩
  · intro heq
    exact hne (Resource.container.inj heq).2
  · apply String.toList_injective
    have hone : Nat.toDigits 10 1 = ['1'] := by decide
    simp [nameOf, toList_containerName, toList_join, hn, hone]

/-- A name tells for which project and which resource of its kind it was made, if the projects do
not hold the separator and, for containers, the separator is no digit. Services, networks and
volumes may be any texts. With a digit for a separator no project's containers can be told apart;
the standard separator is in no generated identifier. -/
theorem names_tell_their_source (scheme : NamingScheme) :
    (∀ (p q : ProjectId) (a b : Resource), scheme.separator ∉ p.text.toList →
      scheme.separator ∉ q.text.toList → a.kind = b.kind →
      (a.kind = .container → ¬scheme.separator.isDigit) →
      (scheme.nameOf p.text a = scheme.nameOf q.text b ↔ p = q ∧ a = b)) ∧
    (scheme.separator.isDigit → ∀ p : ProjectId, ∃ a b : Resource, a.kind = .container ∧
      b.kind = .container ∧ a ≠ b ∧ scheme.nameOf p.text a = scheme.nameOf p.text b) ∧
    ∀ name seed, standard.separator ∉ (ProjectId.generate name seed).text.toList := by
  refine ⟨?_, fun h p => exists_container_eq h p.text, ProjectId.not_mem_generate⟩
  intro p q a b hp hq hkind hdigit
  rw [nameOf_eq_nameOf_iff hp hq hkind hdigit]
  obtain ⟨p⟩ := p
  obtain ⟨q⟩ := q
  simp

/-- The separator in the service makes no difference. -/
theorem dashedService_tells_its_source :
    let scheme : NamingScheme := ⟨'-'⟩
    let demo : ProjectId := ⟨"demo"⟩
    scheme.separator ∉ demo.text.toList ∧ ¬scheme.separator.isDigit ∧
      scheme.nameOf demo.text (.container "web-1" 2) = "demo-web-1-2" ∧
      scheme.nameOf demo.text (.container "web-1" 2) ≠
        scheme.nameOf demo.text (.container "web" 1) := by
  intro scheme demo
  have free : scheme.separator ∉ demo.text.toList := by decide
  have nodigit : ¬scheme.separator.isDigit := by decide
  refine ⟨free, nodigit, by decide, fun h => ?_⟩
  have heq := ((names_tell_their_source scheme).1 demo demo (.container "web-1" 2)
    (.container "web" 1) free free rfl fun _ => nodigit).1 h
  exact absurd heq.2 (by decide)

end ComposeHarness.NamingScheme
