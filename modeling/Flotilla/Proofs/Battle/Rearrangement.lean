import Flotilla.Proofs.Battle.Bounds

/-! # Phases in another order

Sums that are held at the greatest integer depend on their order in general, for what goes past it
is lost before a negative term could bring it back. No damage is negative, so the damage at a
position is the same for every order of the phases of a segment, and of the attacks of a shelling
phase. With it the whole summary is the same. -/
namespace Flotilla.Battle

/-! ## Orders -/

/-- A phase and the same one with its attacks in another order. Only shelling is a list of
attacks. -/
inductive Phase.Rearranged : Phase → Phase → Prop
  | same (p : Phase) : Rearranged p p
  | attacks {stage : ShellingStage} {as bs : List ShellingAttack} (order : as.Perm bs) :
      Rearranged (.shelling ⟨stage, as⟩) (.shelling ⟨stage, bs⟩)

/-- A segment and the same one with its phases in another order, each of which may itself be
rearranged. -/
structure Segment.Rearranged (s t : Segment) : Prop where
  friendly : t.friendly = s.friendly
  enemy : t.enemy = s.enemy
  phases : ∃ ps, List.Forall₂ Phase.Rearranged s.phases ps ∧ ps.Perm t.phases

/-- A battle and the same one with rearranged segments. -/
structure Rearranged (b c : Battle) : Prop where
  day : Option.Rel Segment.Rearranged b.day c.day
  night : Option.Rel Segment.Rearranged b.night c.night
  elsewhere : c = { b with day := c.day, night := c.night }

/-! ## The damage of rearranged phases -/

theorem perm_hitsOn (stage : ShellingStage) {as bs : List ShellingAttack} (order : as.Perm bs)
    (side : Side) :
    (ShellingPhase.hitsOn ⟨stage, as⟩ side).Perm (ShellingPhase.hitsOn ⟨stage, bs⟩ side) :=
  ((order.filter _).flatMap_right _).filter _

theorem Phase.Rearranged.lossAt_eq {p q : Phase} (hr : p.Rearranged q) (h : p.Decoded)
    (side : Side) (position : Nat) : q.lossAt side position = p.lossAt side position := by
  cases hr with
  | same => rfl
  | @attacks stage as bs order =>
    have struck := ((perm_hitsOn stage order side).filter (·.target == position)).map (·.damage)
    rw [lossAt_shelling, lossAt_shelling]
    exact (sumCapped_perm (ShellingPhase.struck_nonneg h side position) struck).symm

theorem map_lossAt_rearranged {ps qs : List Phase} (hr : List.Forall₂ Phase.Rearranged ps qs)
    (h : ∀ p ∈ ps, p.Decoded) (side : Side) (position : Nat) :
    qs.map (·.lossAt side position) = ps.map (·.lossAt side position) := by
  induction hr with
  | nil => rfl
  | cons first _ ih =>
    obtain ⟨hp, hps⟩ := List.forall_mem_cons.mp h
    rw [List.map_cons, List.map_cons, first.lossAt_eq hp, ih hps]

/-! ## What two segments have in common -/

/-- Two segments give the same hit points for a side and take the same damage at each position. -/
structure Segment.Alike (side : Side) (s t : Segment) : Prop where
  side_eq : t.side side = s.side side
  damage_eq : ∀ p, (t.damageTaken side).getD p 0 = (s.damageTaken side).getD p 0

theorem Segment.Rearranged.alike {s t : Segment} (hr : s.Rearranged t) (h : s.Decoded)
    (side : Side) : Segment.Alike side s t := by
  refine ⟨?_, fun p => ?_⟩
  · cases side with
    | friendly => exact hr.friendly
    | enemy => exact hr.enemy
  · obtain ⟨ps, inside, order⟩ := hr.phases
    have nonneg : ∀ x ∈ s.phases.map (·.lossAt side p), 0 ≤ x.toInt := by
      intro x hx
      obtain ⟨q, hq, rfl⟩ := List.mem_map.mp hx
      exact (h q hq).lossAt_nonneg side p
    have moved : (s.phases.map (·.lossAt side p)).Perm (t.phases.map (·.lossAt side p)) := by
      rw [← map_lossAt_rearranged inside h]
      exact order.map _
    rw [getD_damageTaken, getD_damageTaken, sumCapped_perm nonneg moved]

theorem Segment.Alike.left?_eq {side : Side} {s t : Segment} (h : Segment.Alike side s t) :
    t.left? side = s.left? side := by
  have left : t.left side = s.left side := by
    refine List.ext_getElem? fun p => ?_
    simp only [Segment.getElem?_left, h.side_eq, h.damage_eq]
  rw [Segment.left?, Segment.left?, h.side_eq, left]

theorem map_eq_of_forall₂ {α β : Type} {R : α → α → Prop} {f : α → β} {xs ys : List α}
    (h : List.Forall₂ R xs ys) (hf : ∀ x y, R x y → f y = f x) : ys.map f = xs.map f := by
  induction h with
  | nil => rfl
  | cons hxy _ ih => rw [List.map_cons, List.map_cons, hf _ _ hxy, ih]

theorem forall₂_toList {α : Type} {R : α → α → Prop} {o o' : Option α} (h : Option.Rel R o o') :
    List.Forall₂ R o.toList o'.toList := by
  cases h with
  | some hr => exact .cons hr .nil
  | none => exact .nil

/-! ## The summary of rearranged battles -/

section

variable {b c : Battle} {side : Side}

theorem bind_left?_alike {o o' : Option Segment} (h : Option.Rel (Segment.Alike side) o o') :
    o'.bind (·.left? side) = o.bind (·.left? side) := by
  cases h with
  | some alike => exact alike.left?_eq
  | none => rfl

theorem summarizeSide_alike (day : Option.Rel (Segment.Alike side) b.day c.day)
    (night : Option.Rel (Segment.Alike side) b.night c.night) (roster : Nat)
    (identity : Nat → Identity) :
    summarizeSide c side roster identity = summarizeSide b side roster identity := by
  have segments :
      List.Forall₂ (Segment.Alike side) (b.segments.map (·.2)) (c.segments.map (·.2)) := by
    rw [segments_eq, segments_eq]
    exact List.rel_append (forall₂_toList day) (forall₂_toList night)
  have same : (c.segments.map (·.2)).map (·.side side) = (b.segments.map (·.2)).map (·.side side) :=
    map_eq_of_forall₂ segments fun _ _ alike => alike.side_eq
  have damage (p : Nat) :
      damageAcross (c.segments.map (·.2)) side p = damageAcross (b.segments.map (·.2)) side p := by
    rw [damageAcross_eq, damageAcross_eq,
      map_eq_of_forall₂ segments fun _ _ alike => alike.damage_eq p]
  have hp : c.hitPoints side = b.hitPoints side := by
    rw [hitPoints_eq, hitPoints_eq, bind_left?_alike day, bind_left?_alike night]
  have row (r : Reconciled) : combatantRow (c.segments.map (·.2)) side r identity
      = combatantRow (b.segments.map (·.2)) side r identity := by
    funext p
    rw [combatantRow_congr same r, damage]
    rfl
  unfold hitPoints at hp
  simp only [summarizeSide, sideReach_congr same, row, hp]

theorem alike_of_rearranged {o o' : Option Segment} (hr : Option.Rel Segment.Rearranged o o')
    (h : ∀ s ∈ o, s.Decoded) (side : Side) : Option.Rel (Segment.Alike side) o o' := by
  cases hr with
  | some hr => exact .some (hr.alike (h _ rfl) side)
  | none => exact .none

/-- The summary of an accepted battle does not depend on the order of the phases of a segment, nor
on that of the attacks of a shelling phase. -/
theorem summarize_rearranged (s : Store) {text : String} (h : ofText text = .ok b)
    (hr : Rearranged b c) : summarize s c = summarize s b := by
  obtain ⟨decodedDay, decodedNight⟩ := decoded_of_ofText h
  have side_eq (side : Side) : (summarize s c).side side = (summarize s b).side side := by
    obtain ⟨roster, identity, hb, hc⟩ := summarize_side_with s b c.day c.night side
    rw [← hr.elsewhere] at hc
    rw [hb, hc]
    exact summarizeSide_alike (alike_of_rearranged hr.day decodedDay side)
      (alike_of_rearranged hr.night decodedNight side) roster identity
  have sides : summarize s c = { summarize s b with
      friendly := (summarize s c).side .friendly, enemy := (summarize s c).side .enemy } := by
    rw [hr.elsewhere]
    rfl
  rw [sides, side_eq, side_eq]
  rfl

end

/-- A feed with a salvo that takes as much as can be, and two attacks that take more. -/
def meleeText : String :=
  "[\"melee\",0,0,0,1,0,[[1,1]],[[],[[50,20]]," ++
    "[[\"torpedo\",\"opening\",[[0],[9223372036854775807]]]," ++
    "[\"shelling\",\"first\",[[\"friendly\",0,0,[0],[7]],[\"friendly\",1,0,[0,1],[2,4]]]]]]]"

/-- A battle of two enemies with a list of phases. -/
def meleeOf (phases : List Phase) : Battle where
  id := "melee"
  enemy := { shipIds := [1, 1] }
  day := some { enemy := { nowHps := [50, 20] }, phases }

/-- The salvo of the feed. -/
def meleeSalvo : Phase :=
  .torpedo { friendly := some ⟨[⟨0, [0]⟩], [{ damage := 9223372036854775807 }]⟩ }

/-- The attacks of the feed. -/
def meleeAttacks : List ShellingAttack :=
  [⟨.friendly, 0, 0, [⟨0, 7, none, false, .normal⟩]⟩,
    ⟨.friendly, 1, 0, [⟨0, 2, none, false, .normal⟩, ⟨1, 4, none, false, .normal⟩]⟩]

theorem ofText_melee :
    ofText meleeText = .ok (meleeOf [meleeSalvo, .shelling ⟨.first, meleeAttacks⟩]) := by
  decide +kernel

theorem melee_rearranged :
    Rearranged (meleeOf [meleeSalvo, .shelling ⟨.first, meleeAttacks⟩])
      (meleeOf [.shelling ⟨.first, meleeAttacks.reverse⟩, meleeSalvo]) where
  day := .some
    { friendly := rfl
      enemy := rfl
      phases := ⟨[meleeSalvo, .shelling ⟨.first, meleeAttacks.reverse⟩],
        .cons (.same _) (.cons (.attacks (List.reverse_perm _).symm) .nil), .swap _ _ _⟩ }
  night := .none
  elsewhere := rfl

/-- The salvo may come last: what the attacks take first is not on top of the greatest integer. -/
theorem summarize_rearranged_melee :
    summarize {} (meleeOf [.shelling ⟨.first, meleeAttacks.reverse⟩, meleeSalvo])
      = summarize {} (meleeOf [meleeSalvo, .shelling ⟨.first, meleeAttacks⟩]) :=
  summarize_rearranged {} ofText_melee melee_rearranged

end Flotilla.Battle
