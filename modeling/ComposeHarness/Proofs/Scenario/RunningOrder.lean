import ComposeHarness.Proofs.Scenario.Registration
import ComposeHarness.Proofs.Scenario.Watching

/-!
# The order in which a scenario runs its steps

Regular and best-effort steps run in the order of their registration, the cleanups after them in
the reverse order. Every step runs once, whatever the endings of the others.
-/
namespace ComposeHarness

variable {σ α β : Type}

namespace Scenario

/-- Whether the step at place `i` is to run before the one at place `j`. -/
def RunsBefore (steps : List (Step σ)) (i j : Nat) : Prop :=
  match steps[i]?, steps[j]? with
  | some a, some b => if isCleanup a then isCleanup b ∧ j < i else isCleanup b ∨ i < j
  | _, _ => False

/-- The elements that do not satisfy `p`, then those that do, the last of these first. -/
def putOff (p : α → Bool) (xs : List α) : List α := xs.filter (!p ·) ++ (xs.filter p).reverse

theorem order_eq_putOff (steps : List (Step σ)) : order steps = putOff isCleanup steps := rfl

theorem putOff_map (p : β → Bool) (f : α → β) (xs : List α) :
    putOff p (xs.map f) = (putOff (p ∘ f) xs).map f := by
  simp [putOff, List.filter_map, Function.comp_def]

theorem putOff_perm (p : α → Bool) (xs : List α) : (putOff p xs).Perm xs := by
  have h : (putOff p xs).Perm (xs.filter p ++ xs.filter (!p ·)) :=
    List.perm_append_comm.trans ((List.reverse_perm _).append_right _)
  exact h.trans (List.filter_append_perm p xs)

theorem mem_putOff {p : α → Bool} {xs : List α} {x : α} : x ∈ putOff p xs ↔ x ∈ xs :=
  (putOff_perm p xs).mem_iff

/-- If `xs` is ordered by `R`, putting elements off orders it by: first what is not put off, by
`R`, then what is, against `R`. -/
theorem pairwise_putOff {R : α → α → Prop} {p : α → Bool} {xs : List α} (h : xs.Pairwise R) :
    (putOff p xs).Pairwise fun a b => if p a then p b ∧ R b a else p b ∨ R a b := by
  refine List.pairwise_append.2 ⟨?_, ?_, ?_⟩
  · refine List.Pairwise.imp_of_mem ?_ (h.filter _)
    intro a b ha _ hab
    have hp : p a = false := by simpa using (List.mem_filter.1 ha).2
    simp [hp, hab]
  · refine List.pairwise_reverse.2 (List.Pairwise.imp_of_mem ?_ (h.filter _))
    intro a b ha hb hab
    simp [(List.mem_filter.1 ha).2, (List.mem_filter.1 hb).2, hab]
  · intro a ha b hb
    have hp : p a = false := by simpa using (List.mem_filter.1 ha).2
    have hq : p b := (List.mem_filter.1 (List.mem_reverse.1 hb)).2
    simp [hp, hq]

/-- The steps with their places, in the order in which they run. -/
def placed (steps : List (Step σ)) : List (Step σ × Nat) :=
  putOff (fun x => isCleanup x.1) steps.zipIdx

theorem map_fst_placed (steps : List (Step σ)) : (placed steps).map (·.1) = order steps := by
  have h := putOff_map isCleanup (fun x : Step σ × Nat => x.1) steps.zipIdx
  rw [List.zipIdx_map_fst] at h
  exact h.symm

theorem map_watched_placed (steps : List (Step σ)) :
    (placed steps).map (fun x => x.1.watched x.2) = order (steps.mapIdx Step.watched) := by
  rw [List.mapIdx_eq_zipIdx_map, order_eq_putOff, putOff_map]
  rfl

theorem getElem?_of_mem_placed {steps : List (Step σ)} {x : Step σ × Nat} (h : x ∈ placed steps) :
    steps[x.2]? = some x.1 :=
  List.mem_zipIdx_iff_getElem?.1 (mem_putOff.1 h)

theorem map_snd_placed_perm (steps : List (Step σ)) :
    ((placed steps).map (·.2)).Perm (List.range steps.length) := by
  have h := (putOff_perm (fun x => isCleanup x.1) steps.zipIdx).map (·.2)
  rwa [List.zipIdx_map_snd, ← List.range_eq_range'] at h

theorem pairwise_placed (steps : List (Step σ)) :
    ((placed steps).map (·.2)).Pairwise (RunsBefore steps) := by
  have sorted : steps.zipIdx.Pairwise (fun x y => x.2 < y.2) := by
    have h := List.pairwise_lt_range (n := steps.length)
    rw [List.range_eq_range', ← List.zipIdx_map_snd] at h
    exact List.pairwise_map.1 h
  refine List.pairwise_map.2 (List.Pairwise.imp_of_mem ?_ (pairwise_putOff sorted))
  intro x y hx hy hxy
  simpa [RunsBefore, getElem?_of_mem_placed hx, getElem?_of_mem_placed hy] using hxy

/-- The executions of a run of the scenario. -/
def executions (s : Scenario σ) (now : Duration) (world : σ) : List Execution :=
  Execution.all s.context (placed s.steps) now world

theorem run_run (s : Scenario σ) (now : Duration) (world : σ) :
    s.run.run now world =
      let span := ((order s.steps).mapM (Step.run s.context)).run now world
      ⟨⟨s.name, s.project.text, span.value, span.spent⟩, span.spent, span.world⟩ := by
  simp [run]

/-- Watching a scenario changes nothing, and its log tells of the executions. -/
theorem run_watched (s : Scenario σ) (now : Duration) (world : σ) {log : List Event} :
    s.watched.run.run now (world, log) =
      let span := s.run.run now world
      ⟨span.value, span.spent,
        (span.world, log ++ (s.executions now world).flatMap Execution.events)⟩ := by
  have h := mapM_run_watched s.context (placed s.steps) now world log
  rw [map_watched_placed, map_fst_placed] at h
  have hctx : s.watched.context = s.context := rfl
  simp only [run_run, hctx]
  simp only [watched, h, executions]

end Scenario

open Scenario in
/-- A scenario built by any registrations executes every step exactly once, one after the other:
those that are no cleanups in the order of registration, then the cleanups, the latest first. The
endings of the actions have no part in it. Its report tells of the executions in their order, each
under the name and kind of its step. -/
theorem run_executes_every_step_once (name : String) (session : Session) (project : ProjectId)
    (naming : NamingScheme) (poll : PollSpec) (calls : List (Registration σ)) (now : Duration)
    (world : σ) :
    let s : Scenario σ := registerAll ⟨name, session, project, naming, poll, []⟩ calls
    let steps := calls.map Registration.toStep
    let span := s.run.run now world
    ∃ xs : List Execution,
      s.watched.run.run now (world, []) =
        ⟨span.value, span.spent, (span.world, xs.flatMap Execution.events)⟩ ∧
      (xs.map Execution.step).Perm (List.range calls.length) ∧
      (xs.map Execution.step).Pairwise (RunsBefore steps) ∧
      Execution.Unbroken now xs (now + span.spent) ∧
      span.value.steps.map some = xs.map (Execution.report? steps) ∧
      span.value.steps.length = s.size := by
  intro s steps span
  have hsteps : s.steps = steps := by simp [s, steps, registerAll_eq]
  have hmap : (s.executions now world).map Execution.step = (placed steps).map (·.2) := by
    rw [executions, Execution.map_step_all, hsteps]
  have hreports : span.value.steps.map some =
      (s.executions now world).map (Execution.report? steps) := by
    have h := map_some_reports s.context
      (fun x (hx : x ∈ placed s.steps) => getElem?_of_mem_placed hx) now world
    rw [map_fst_placed] at h
    exact hsteps ▸ h
  have hperm : ((s.executions now world).map Execution.step).Perm (List.range calls.length) := by
    rw [hmap]
    simpa [steps] using map_snd_placed_perm steps
  refine ⟨s.executions now world, run_watched s now world, hperm, ?_, ?_, hreports, ?_⟩
  · rw [hmap]
    exact pairwise_placed steps
  · have h := unbroken_all s.context (placed s.steps) now world
    rwa [map_fst_placed] at h
  · have h := congrArg List.length hreports
    have hlength := hperm.length_eq
    simp only [List.length_map, List.length_range] at h hlength
    rw [h, hlength, size, hsteps, List.length_map]

end ComposeHarness
