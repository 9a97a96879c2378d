import ComposeHarness.Config.Basic
import ComposeHarness.Naming

/-!
# Names that two projects share

The names of a project go on from its identifier after a separator. If the identifier of another
project does, too, the two have names in common. Identifiers may hold hyphens and underscores, and
the separator is one of these by default.
-/
namespace ComposeHarness

/-- A resource of a project. -/
inductive Resource where
  | container (service : String) (index : UInt32)
  | network (name : String)
  | volume (name : String)
  | image (service : String)
  deriving Repr, DecidableEq

namespace Resource

open NamingScheme (Placeholder)

def kind : Resource → Placeholder
  | container .. => .container
  | network _ => .network
  | volume _ => .volume
  | image _ => .image

/-- The resource of a kind with a name; a container is the first one of its service. -/
def named (name : String) : Placeholder → Resource
  | .container => container name 1
  | .network => network name
  | .volume => volume name
  | .image => image name

@[simp] theorem kind_named (name : String) (kind : Placeholder) :
    (named name kind).kind = kind := by
  cases kind <;> rfl

end Resource

namespace NamingScheme

variable (scheme : NamingScheme)

def nameOf (project : String) : Resource → String
  | .container service index => scheme.containerName project service index.toNat
  | .network name => scheme.networkName project name
  | .volume name => scheme.volumeName project name
  | .image service => scheme.imageName project service

/-- Two projects have resources of a kind with the same name. -/
def Shares (kind : Placeholder) (p q : String) : Prop :=
  ∃ a b : Resource, a.kind = kind ∧ b.kind = kind ∧ scheme.nameOf p a = scheme.nameOf q b

/-- One identifier goes on from another after a separator. -/
def Extends (p q : String) : Prop := ∃ rest, q = scheme.join p rest

theorem join_join (p x y : String) :
    scheme.join (scheme.join p x) y = scheme.join p (scheme.join x y) := by
  simp only [join, String.append_assoc]

theorem toList_join (p x : String) :
    (scheme.join p x).toList = p.toList ++ scheme.separator :: x.toList := by
  simp [join]

/-- Whatever the resource, its name goes on from the identifier of its project. -/
theorem exists_nameOf_eq_join (p : String) (a : Resource) :
    ∃ x, scheme.nameOf p a = scheme.join p x := by
  cases a with
  | container service index => exact ⟨_, scheme.join_join p service _⟩
  | network name => exact ⟨name, rfl⟩
  | volume name => exact ⟨name, rfl⟩
  | image service => exact ⟨service, rfl⟩

/-- What goes on from a longer identifier also goes on from a shorter one. -/
theorem nameOf_join (p rest x : String) (kind : Placeholder) :
    scheme.nameOf (scheme.join p rest) (.named x kind) =
      scheme.nameOf p (.named (scheme.join rest x) kind) := by
  cases kind <;>
    simp only [nameOf, Resource.named, containerName, networkName, volumeName, imageName, join_join]

variable {scheme}

theorem eq_or_extends_of_join_eq {p q x y : String} (h : scheme.join p x = scheme.join q y) :
    p = q ∨ scheme.Extends p q ∨ scheme.Extends q p := by
  have hlist := congrArg String.toList h
  rw [toList_join, toList_join] at hlist
  have hextends : ∀ {p q : String} {a x y : List Char}, q.toList = p.toList ++ a →
      scheme.separator :: x = a ++ scheme.separator :: y → p = q ∨ scheme.Extends p q := by
    intro p q a x y hq hx
    cases a with
    | nil => exact .inl (String.toList_injective (by simpa using hq.symm))
    | cons c rest =>
      obtain ⟨rfl, -⟩ := List.cons_eq_cons.1 hx
      exact .inr ⟨String.ofList rest, String.toList_injective (by simp [toList_join, hq])⟩
  rcases List.append_eq_append_iff.1 hlist with ⟨a, hq, hx⟩ | ⟨a, hp, hy⟩
  · exact (hextends hq hx).imp_right .inl
  · exact (hextends hp hy).imp Eq.symm .inr

theorem shares_iff {kind : Placeholder} {p q : String} :
    scheme.Shares kind p q ↔ p = q ∨ scheme.Extends p q ∨ scheme.Extends q p := by
  constructor
  · rintro ⟨a, b, -, -, h⟩
    obtain ⟨x, hx⟩ := scheme.exists_nameOf_eq_join p a
    obtain ⟨y, hy⟩ := scheme.exists_nameOf_eq_join q b
    exact eq_or_extends_of_join_eq (hx.symm.trans (h.trans hy))
  · rintro (rfl | ⟨rest, rfl⟩ | ⟨rest, rfl⟩)
    · exact ⟨.named "" kind, .named "" kind, by simp, by simp, rfl⟩
    · exact ⟨.named (scheme.join rest "") kind, .named "" kind, by simp, by simp,
        (scheme.nameOf_join p rest "" kind).symm⟩
    · exact ⟨.named "" kind, .named (scheme.join rest "") kind, by simp, by simp,
        scheme.nameOf_join q rest "" kind⟩

theorem Extends.separator_mem {p q : String} (h : scheme.Extends p q) :
    scheme.separator ∈ q.toList := by
  obtain ⟨rest, rfl⟩ := h
  simp [toList_join]

/-- Projects without the separator in their identifiers have no names in common. -/
theorem not_shares_of_not_mem {kind : Placeholder} {p q : String} (hne : p ≠ q)
    (hp : scheme.separator ∉ p.toList) (hq : scheme.separator ∉ q.toList) :
    ¬scheme.Shares kind p q := by
  rw [shares_iff]
  rintro (rfl | h | h)
  · exact hne rfl
  · exact hq h.separator_mem
  · exact hp h.separator_mem

end NamingScheme

namespace ProjectId

/-- The identifier is one that a scenario may choose. -/
def Accepted (p : ProjectId) : Prop := ofString? p.text = .ok p

theorem accepted_iff {p : ProjectId} : p.Accepted ↔ isValid p.text.toList := by
  unfold Accepted ofString?
  split
  · next hempty =>
    rw [String.isEmpty_iff] at hempty
    simp [hempty, isValid]
  · split <;> simp_all

theorem Accepted.isPart {p : ProjectId} (h : p.Accepted) {c : Char} (hc : c ∈ p.text.toList) :
    isPart c := by
  have hvalid := accepted_iff.1 h
  rw [isValid, Bool.and_eq_true, List.all_eq_true] at hvalid
  exact hvalid.1 c hc

theorem toLower_ne_underscore {c : Char} (h : c.isAlphanum) : c.toLower ≠ '_' := by
  intro heq
  unfold Char.toLower at heq
  split at heq
  · next hupper =>
    have hsum : (c.toNat + 32) % 4294967296 = 95 := by simpa using congrArg (·.val.toNat) heq
    have hlow : 65 ≤ c.toNat := hupper.1
    have hhigh : c.toNat ≤ 90 := hupper.2
    omega
  · subst heq
    exact absurd h (by decide)

theorem slugStep_ne_underscore {reversed : List Char} (c : Char) (h : ∀ d ∈ reversed, d ≠ '_') :
    ∀ d ∈ slugStep reversed c, d ≠ '_' := by
  unfold slugStep
  split
  · next hc => exact List.forall_mem_cons.2 ⟨toLower_ne_underscore hc, h⟩
  · split
    · exact h
    · exact h
    · exact List.forall_mem_cons.2 ⟨by decide, h⟩

theorem slug_ne_underscore (text : String) : ∀ d ∈ slug text, d ≠ '_' := by
  have hfold : ∀ (cs reversed : List Char), (∀ d ∈ reversed, d ≠ '_') →
      ∀ d ∈ cs.foldl slugStep reversed, d ≠ '_' := by
    intro cs
    induction cs with
    | nil => exact fun _ h => h
    | cons c cs ih => exact fun reversed h => ih _ (slugStep_ne_underscore c h)
  intro d hd
  rw [slug, List.mem_reverse] at hd
  exact hfold text.toList [] (by simp) d (List.dropWhile_subset _ hd)

theorem suffix_ne_underscore (seed : BitVec 32) : ∀ d ∈ suffix seed, d ≠ '_' := by
  have hdigit : ∀ n < 16, Nat.digitChar n ≠ '_' := by decide
  intro d hd
  obtain ⟨i, -, rfl⟩ := List.mem_map.1 hd
  exact hdigit _ (Nat.mod_lt _ (by decide))

/-- A generated identifier has no underscore in it. -/
theorem not_mem_generate (name : String) (seed : BitVec 32) :
    '_' ∉ (generate name seed).text.toList := by
  intro h
  simp only [generate, String.toList_ofList, List.mem_append, List.mem_cons] at h
  rcases h with h | h | h
  · split at h
    · exact absurd h (by decide)
    · exact slug_ne_underscore name _ h rfl
  · exact absurd h (by decide)
  · exact suffix_ne_underscore seed _ h rfl

/-- If the separator may be part of an identifier, some identifiers go on from others after it. -/
theorem exists_extends {scheme : NamingScheme} (h : isPart scheme.separator) :
    ∃ p q : ProjectId, p.Accepted ∧ q.Accepted ∧ p ≠ q ∧ scheme.Extends p.text q.text := by
  have hlist : (scheme.join "a" "b").toList = ['a', scheme.separator, 'b'] := by
    simp [NamingScheme.toList_join]
  refine ⟨⟨"a"⟩, ⟨scheme.join "a" "b"⟩, rfl, ?_, fun heq => ?_, "b", rfl⟩
  · have hother : isPart 'a' ∧ isPart 'b' ∧ isStart 'a' := by decide
    simp [accepted_iff, hlist, isValid, h, hother]
  · have hlength := congrArg (·.text.toList.length) heq
    simp [hlist] at hlength

end ProjectId

/-- Two projects have names in common exactly if one identifier goes on from the other after a
separator. Identifiers that may be chosen are safe from it exactly if the separator cannot be part
of one. By default it can; generated identifiers are safe even so. -/
theorem shares_iff_extends (scheme : NamingScheme) :
    (∀ kind p q, scheme.Shares kind p q ↔ p = q ∨ scheme.Extends p q ∨ scheme.Extends q p) ∧
    ((∀ p q : ProjectId, p.Accepted → q.Accepted → p ≠ q →
      ∀ kind, ¬scheme.Shares kind p.text q.text) ↔ ¬ProjectId.isPart scheme.separator) ∧
    ∀ name name' seed seed', ProjectId.generate name seed ≠ .generate name' seed' → ∀ kind,
      ¬NamingScheme.standard.Shares kind (ProjectId.generate name seed).text
        (ProjectId.generate name' seed').text := by
  refine ⟨fun _ _ _ => NamingScheme.shares_iff,
    ⟨fun safe hpart => ?_, fun hpart p q hp hq hne kind => ?_⟩, ?_⟩
  · obtain ⟨p, q, hp, hq, hne, hextends⟩ := ProjectId.exists_extends hpart
    exact safe p q hp hq hne .network (NamingScheme.shares_iff.2 (.inr (.inl hextends)))
  · exact NamingScheme.not_shares_of_not_mem (fun h => hne (congrArg ProjectId.mk h))
      (fun h => hpart (hp.isPart h)) fun h => hpart (hq.isPart h)
  · intro name name' seed seed' hne kind
    exact NamingScheme.not_shares_of_not_mem (fun h => hne (congrArg ProjectId.mk h))
      (ProjectId.not_mem_generate name seed) (ProjectId.not_mem_generate name' seed')

/-- With the separator that is set by default, every kind of resource is shared by these two. -/
theorem default_scheme_shares_names :
    let scheme := ({} : Config).naming
    ProjectId.ofString? "a" = .ok ⟨"a"⟩ ∧ ProjectId.ofString? "a_b" = .ok ⟨"a_b"⟩ ∧
      scheme.containerName "a" "b_web" 1 = scheme.containerName "a_b" "web" 1 ∧
      scheme.networkName "a" "b_net" = scheme.networkName "a_b" "net" ∧
      scheme.volumeName "a" "b_data" = scheme.volumeName "a_b" "data" ∧
      scheme.imageName "a" "b_web" = scheme.imageName "a_b" "web" := by
  exact ⟨rfl, rfl, by decide, by decide, by decide, by decide⟩

end ComposeHarness
