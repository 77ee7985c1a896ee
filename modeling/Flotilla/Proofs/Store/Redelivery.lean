import Flotilla.Proofs.Store.Cells

/-! # Batches that are delivered again

An update that comes again later in a batch makes its first coming unseen, cell by cell. So
a batch that repeats every update of the one before it leaves what it would have left alone,
although an update that was ignored before may be accepted now. -/
namespace Flotilla

open Flotilla.Store

/-! ## Steps of which the last one has the say -/

section Steps

variable {σ υ : Type} {step : σ → υ → σ}

/-- Steps that, when they are taken again behind another one, make their first taking unseen. -/
structure LastSays (step : σ → υ → σ) : Prop where
  again : ∀ x u, step (step x u) u = step x u
  absorbs : ∀ x u v, step (step (step x u) v) u = step (step x v) u

theorem LastSays.foldl_step (h : LastSays step) {us : List υ} {u : υ} (hu : u ∈ us) (x : σ) :
    us.foldl step (step x u) = us.foldl step x := by
  induction us generalizing x with
  | nil => cases hu
  | cons v us ih =>
    rcases List.mem_cons.mp hu with rfl | later
    · show us.foldl step (step (step x u) u) = us.foldl step (step x u)
      rw [h.again]
    · -- the step is put in front of the others once more, where it hides the first one
      calc us.foldl step (step (step x u) v)
          = us.foldl step (step (step (step x u) v) u) := (ih later _).symm
        _ = us.foldl step (step (step x v) u) := by rw [h.absorbs]
        _ = us.foldl step (step x v) := ih later _

/-- Steps that are all taken again need not have been taken before. -/
theorem LastSays.foldl_foldl (h : LastSays step) {us vs : List υ} (sub : ∀ u ∈ us, u ∈ vs)
    (x : σ) : vs.foldl step (us.foldl step x) = vs.foldl step x := by
  induction us generalizing x with
  | nil => rfl
  | cons u us ih =>
    obtain ⟨hu, sub⟩ := List.forall_mem_cons.mp sub
    exact (ih sub (step x u)).trans (h.foldl_step hu x)

end Steps

theorem Cell.lastSays (c : Cell) :
    LastSays fun (x : c.Content) (u : Update) => (u.effect c).run x where
  again x u := (u.effect c).run_run x
  absorbs x u v := (u.effect c).run_absorbs (v.effect c) x

namespace Store

/-! ## Batches -/

/-- A batch acts on each cell by itself. -/
theorem content_applyAll (s : Store) (us : List Update) (c : Cell) :
    (s.applyAll us).1.content c = us.foldl (fun x u => (u.effect c).run x) (s.content c) := by
  induction us generalizing s with
  | nil => rfl
  | cons u us ih =>
    show ((s.apply u).1.applyAll us).1.content c = _
    rw [ih, content_apply]
    rfl

theorem airBases_applyAll {us : List Update}
    (kept : ∀ u ∈ us, ∀ s : Store, (s.apply u).1.airBases = s.airBases) (s : Store) :
    (s.applyAll us).1.airBases = s.airBases := by
  induction us generalizing s with
  | nil => rfl
  | cons u us ih =>
    obtain ⟨hu, kept⟩ := List.forall_mem_cons.mp kept
    exact (ih kept (s.apply u).1).trans (hu s)

theorem arranged_or_all_kept (us : List Update) :
    (∀ s : Store, (s.applyAll us).1.Arranged) ∨
      ∀ u ∈ us, ∀ s : Store, (s.apply u).1.airBases = s.airBases := by
  induction us with
  | nil => exact .inr nofun
  | cons u us ih =>
    rcases arranged_or_kept u with first | first
    · exact .inl fun s => (first s).applyAll us
    · rcases ih with rest | rest
      · exact .inl fun s => rest (s.apply u).1
      · exact .inr (List.forall_mem_cons.mpr ⟨first, rest⟩)

/-- A batch that has every update of the one before it leaves what it leaves alone. -/
theorem applyAll_of_subset (s : Store) {us vs : List Update} (sub : ∀ u ∈ us, u ∈ vs) :
    ((s.applyAll us).1.applyAll vs).1 = (s.applyAll vs).1 := by
  refine eq_of_content (fun c => ?_) ?_
  · rw [content_applyAll, content_applyAll, content_applyAll]
    exact c.lastSays.foldl_foldl sub _
  · rcases arranged_or_all_kept vs with arranged | kept
    · exact .inr ⟨arranged _, arranged _⟩
    · have before : (s.applyAll us).1.airBases = s.airBases :=
        airBases_applyAll (fun u hu => kept u (sub u hu)) s
      refine .inl ?_
      rw [airBases_applyAll kept, airBases_applyAll kept, before]

/-- A batch leaves in each cell what its updates do there one after the other, and leaves the
store at that when it is delivered again. -/
theorem applyAll_again (s : Store) (us : List Update) :
    ((s.applyAll us).1.applyAll us).1 = (s.applyAll us).1 ∧
      ∀ c, (s.applyAll us).1.content c
        = us.foldl (fun x u => (u.effect c).run x) (s.content c) :=
  ⟨s.applyAll_of_subset fun _ hu => hu, s.content_applyAll us⟩

/-- A patch in front of its record is ignored at first and accepted when it comes again. -/
example :
    let us : List Update := [.shipPatch 7 [("level", .int 3)], .ships [{ id := 7, level := 2 }]]
    let once := (applyAll {} us)
    let twice := once.1.applyAll us
    once.2 = ⟨1, 1⟩ ∧ twice.2 = ⟨2, 0⟩ ∧ twice.1 = once.1 := by
  decide +kernel

end Store

end Flotilla
