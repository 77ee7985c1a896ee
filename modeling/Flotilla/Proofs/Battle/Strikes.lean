import Mathlib.Data.List.Nodup
import Flotilla.Proofs.Battle.Grouping

/-! # Air strikes by target

A strike without launching ships is grouped by recording the positions that it shows; one with
launching ships by turning round attacks of every ship on all of these. Both give the same rows,
up to the attackers: one for each position that a bombing or torpedo flag marks, in ascending
order, with the outcome that the strike has for the position. The flag of a row is made anew
from the hit of the outcome, and gives that hit again. -/
namespace Flotilla.Battle

open TargetGroups

theorem eraseDups_of_nodup {ps : List Nat} (h : ps.Nodup) : ps.eraseDups = ps := by
  induction ps with
  | nil => rfl
  | cons p ps ih =>
    obtain ⟨fresh, rest⟩ := List.nodup_cons.mp h
    have same : ps.filter (fun q => !q == p) = ps := by
      refine List.filter_eq_self.mpr fun q hq => ?_
      have ne : q ≠ p := fun h => fresh (h ▸ hq)
      simpa using ne
    rw [List.eraseDups_cons, same, ih rest]

/-! ## The hit of an outcome -/

theorem classify_eq_miss {d : Int64} {flag : Option Int64} :
    classify (some d) flag = .miss ↔ d = 0 := by
  unfold classify
  split
  · simp_all
  · rename_i same
    obtain rfl := Option.some.inj same
    split
    · simp_all
    · split <;> simp_all

/-- An entry whose hit is the one that its damage and some flag make. -/
def StrikeEntry.Classified (e : StrikeEntry) : Prop :=
  ∃ flag, e.hit = classify (some e.damage) flag

theorem StrikeEntry.Classified.hit_received {e : StrikeEntry} (h : e.Classified) :
    classify (some e.received.damage) e.received.critical = e.hit := by
  obtain ⟨flag, hflag⟩ := h
  have damage : e.received.damage = e.damage := rfl
  rw [damage]
  by_cases zero : e.damage = 0
  · rw [classify_eq_miss.mpr zero, hflag, classify_eq_miss.mpr zero]
  · have hit_ : e.hit ≠ .miss := fun hm => zero (classify_eq_miss.mp (hflag ▸ hm))
    cases hit : e.hit with
    | miss => exact absurd hit hit_
    | normal => simp [received, hit, classify, zero, normalFlag, criticalFlag]
    | critical => simp [received, hit, classify, zero]

theorem AirStrike.Decoded.classified {s : AirStrike} (h : s.Decoded) :
    ∀ e ∈ s.targets, e.Classified := by
  obtain ⟨l, rfl⟩ := h
  intro e he
  obtain ⟨p, -, rfl⟩ := List.mem_map.mp he
  exact ⟨l.critical[p]?, rfl⟩

/-! ## The positions that are shown -/

namespace AirStrike

variable {s : AirStrike}

theorem Decoded.ascending (h : s.Decoded) : s.struck.Pairwise (· < ·) := by
  obtain ⟨l, rfl⟩ := h
  have places : (l.decode.targets.map (·.index)).Pairwise (· < ·) := by
    simp [StrikeLists.decode, StrikeLists.entry, Function.comp_def, List.pairwise_lt_range]
  exact places.sublist (List.filter_sublist.map _)

theorem Decoded.nodup_struck (h : s.Decoded) : s.struck.Nodup :=
  h.ascending.imp Nat.ne_of_lt

/-- The struck positions that launching ships can name, which they do as 64-bit integers. -/
def nameable (s : AirStrike) : List Nat := s.struck.filter fun t => decide (t < 2 ^ 63)

theorem mem_nameable {t : Nat} : t ∈ s.nameable ↔ t ∈ s.struck ∧ t < 2 ^ 63 := by
  rw [nameable, List.mem_filter, decide_eq_true_iff]

theorem Decoded.nodup_nameable (h : s.Decoded) : s.nameable.Nodup := h.nodup_struck.filter _

theorem named_launcher {l : Launcher} (hl : l ∈ s.launchers) : l.named = s.nameable := by
  obtain ⟨index, -, rfl⟩ := List.mem_map.mp hl
  rw [Launcher.named, List.filterMap_filterMap, nameable, struck, List.filter_map,
    ← List.filterMap_eq_map, List.filterMap_filter]
  refine List.filterMap_congr fun e _ => ?_
  simp only [Function.comp_apply]
  by_cases fits : e.index < 2 ^ 63
  · obtain ⟨t, ht, htp⟩ := int64OfInt?_ofNat fits
    have nonneg : 0 ≤ t := by
      rw [Int64.le_iff_toInt_le, htp, Int64.toInt_zero]
      exact Int.natCast_nonneg _
    rw [if_pos (decide_eq_true fits), ht]
    simp [position?, nonneg, htp]
  · rw [if_neg (mt of_decide_eq_true fits), int64OfInt?_beyond fits]
    rfl

theorem attacksOf_launchers :
    attacksOf s.launchers = s.planeFrom.flatMap fun i => s.nameable.map fun t => (t, i) := by
  have named : ∀ l ∈ s.launchers, (l.named.map fun t => (t, l.index))
      = s.nameable.map fun t => (t, l.index) := fun l hl => by rw [named_launcher hl]
  rw [attacksOf, List.flatMap_congr named, launchers, List.flatMap_map]

/-- Every launching ship attacks every position that it can name, once. -/
theorem Decoded.attackersIn_history (h : s.Decoded) (t : Nat) :
    attackersIn s.history t = if t ∈ s.nameable then s.planeFrom else [] := by
  unfold history
  split
  · rename_i hfrom
    rw [hfrom, ite_self]
    simp [attackersIn, List.filter_map, Function.comp_def]
  · have once : ∀ i : Nat, ((s.nameable.map fun t => (t, i)).filter (·.1 == t)).map (·.2)
        = if t ∈ s.nameable then [i] else [] := by
      intro i
      rw [List.filter_map, List.map_map]
      show (s.nameable.filter (· == t)).map (fun _ => i) = _
      rw [List.filter_beq, h.nodup_nameable.count]
      split <;> rfl
    rw [attackersIn_hitsOf, attacksOf_launchers, List.filter_flatMap, List.map_flatMap]
    simp only [once]
    split <;> simp

/-- Every position of a strike is a 64-bit integer, so launching ships can name it. -/
def Fits (s : AirStrike) : Prop := ∀ e ∈ s.targets, e.index < 2 ^ 63

theorem Fits.nameable (h : s.Fits) : s.nameable = s.struck := by
  refine List.filter_eq_self.mpr fun t ht => ?_
  obtain ⟨e, he, -, rfl⟩ := mem_struck.mp ht
  exact decide_eq_true (h e he)

/-! ## Grouping, with and without launching ships -/

theorem Fits.eraseDups_history (h : s.Fits) (hs : s.Decoded) :
    (s.history.map (·.1)).eraseDups = s.struck := by
  unfold history
  split
  · rw [List.map_map]
    exact eraseDups_of_nodup hs.nodup_struck
  · rename_i hfrom
    obtain ⟨i, is, hi⟩ := List.exists_cons_of_ne_nil hfrom
    -- the first launching ship hits all positions, and the others hit the same
    have again : ((is.flatMap fun i => s.struck.map fun t => (t, i)).map (·.1)).removeAll s.struck
        = [] := by
      refine List.filter_eq_nil_iff.mpr fun t ht => ?_
      simp only [List.mem_map, List.mem_flatMap] at ht
      obtain ⟨_, ⟨_, -, t, mem, rfl⟩, rfl⟩ := ht
      simpa using mem
    have first : (s.struck.map fun t => (t, i)).map (·.1) = s.struck := by
      simp [Function.comp_def]
    rw [targets_hitsOf, attacksOf_launchers, h.nameable, hi, List.flatMap_cons, List.map_append, first,
      List.eraseDups_append, again, eraseDups_of_nodup hs.nodup_struck]
    exact List.append_nil _

theorem Decoded.order_groupStrike (hs : s.Decoded) (h : s.Fits) :
    (groupStrike s).order = s.struck := by
  rw [hs.tells_groupStrike.order_eq, h.eraseDups_history hs]

/-- The row of a position that a strike shows is made of the outcome there and of all launching
ships. -/
theorem Decoded.get?_groupStrike (hs : s.Decoded) (h : s.Fits) {e : StrikeEntry}
    (he : e ∈ s.shownTargets) :
    (groupStrike s).get? e.index
      = some { TargetRow.first e.index e.received with attackers := s.planeFrom } := by
  have struck : e.index ∈ s.struck := List.mem_map_of_mem he
  have tells := hs.tells_groupStrike
  rw [tells.row e.index (by rwa [hs.order_groupStrike h]), tally, hs.attackersIn_history,
    h.nameable, if_pos struck, hs.receivedAt (s.shownTargets_subset e he)]

theorem Decoded.get?_groupStrike_eq_none (hs : s.Decoded) (h : s.Fits) {p : Nat}
    (hp : p ∉ s.struck) : (groupStrike s).get? p = none := by
  rw [← hs.order_groupStrike h, hs.tells_groupStrike.held] at hp
  simpa using hp

/-- Without its launching ships a strike has the same rows, but for the attackers. -/
theorem Decoded.get?_groupStrike_quiet {t : AirStrike} (hs : s.Decoded) (ht : t.Decoded)
    (h : s.Fits) (targets : t.targets = s.targets) (quiet : t.planeFrom = []) (p : Nat) :
    (groupStrike t).get? p
      = ((groupStrike s).get? p).map fun row => { row with attackers := [] } := by
  have ht' : t.Fits := by
    unfold Fits
    rw [targets]
    exact h
  have shown : t.shownTargets = s.shownTargets := by rw [shownTargets, shownTargets, targets]
  by_cases hp : p ∈ s.struck
  · obtain ⟨e, he, rfl⟩ := List.mem_map.mp hp
    rw [hs.get?_groupStrike h he, ht.get?_groupStrike ht' (shown ▸ he), quiet]
    rfl
  · have hp' : p ∉ t.struck := by
      rw [struck, shown]
      exact hp
    rw [hs.get?_groupStrike_eq_none h hp, ht.get?_groupStrike_eq_none ht' hp', Option.map_none]

end AirStrike

/-! ## Lists of the feed -/

theorem flagged_iff {flags : List Int64} {p : Nat} : flagged flags p ↔ 0 < flags.getD p 0 := by
  rw [flagged, List.getD_eq_getElem?_getD]
  cases flags[p]? <;> simp

theorem lt_length_of_flagged {flags : List Int64} {p : Nat} (h : flagged flags p) :
    p < flags.length := by
  by_contra beyond
  rw [flagged, List.getElem?_eq_none (by omega)] at h
  cases h

namespace StrikeLists

theorem lt_size_of_flagged {l : StrikeLists} {p : Nat}
    (h : flagged l.bombing p ∨ flagged l.torpedo p) : p < l.size := by
  have reach : p < l.bombing.length ∨ p < l.torpedo.length :=
    h.imp lt_length_of_flagged lt_length_of_flagged
  simp only [size, List.foldl_cons, List.foldl_nil]
  omega

theorem mem_struck_decode {l : StrikeLists} {p : Nat} :
    p ∈ l.decode.struck ↔ 0 < l.bombing.getD p 0 ∨ 0 < l.torpedo.getD p 0 := by
  rw [AirStrike.mem_struck, ← flagged_iff, ← flagged_iff]
  constructor
  · rintro ⟨e, he, shown, rfl⟩
    obtain ⟨p, -, rfl⟩ := List.mem_map.mp he
    simpa [entry, StrikeEntry.shown] using shown
  · intro h
    refine ⟨l.entry p, List.mem_map.mpr ⟨p, List.mem_range.mpr (lt_size_of_flagged h), rfl⟩, ?_, rfl⟩
    simpa [entry, StrikeEntry.shown] using h

theorem fits_decode {l : StrikeLists} (h : l.size ≤ 2 ^ 63) : l.decode.Fits := by
  intro e he
  obtain ⟨p, hp, rfl⟩ := List.mem_map.mp he
  exact Nat.lt_of_lt_of_le (List.mem_range.mp hp) h

end StrikeLists

/-- The groups of a strike as the feed gives it have just the positions that a bombing or torpedo
flag marks, in ascending order and with a row for each. A row has the damage, the shielding and
the hit of the outcome at its position, and all launching ships as its attackers. Without
launching ships nothing but the attackers is different. The lists are as long as lists in memory
can be: launching ships name positions as 64-bit integers, and no memory holds a list with a
position beyond these. -/
theorem groupStrike_shows_flagged (l : StrikeLists) (fits : l.size ≤ 2 ^ 63) :
    let g := groupStrike l.decode
    let quiet := groupStrike { l with planeFrom := [] }.decode
    g.order.Pairwise (· < ·) ∧
      (∀ p, p ∈ g.order ↔ 0 < l.bombing.getD p 0 ∨ 0 < l.torpedo.getD p 0) ∧
      g.rows.map (·.target) = g.order ∧
      (∀ row ∈ g.rows, ∃ e, l.decode.targets[row.target]? = some e ∧
        row.damage = e.damage ∧ row.shielded = e.shielded ∧ row.hit = e.hit ∧
        row.attackers = (l.planeFrom.filter (0 ≤ ·)).map (·.toInt.toNat)) ∧
      quiet.order = g.order ∧
      ∀ p, quiet.get? p = (g.get? p).map fun row => { row with attackers := [] } := by
  intro g quiet
  have decoded : l.decode.Decoded := ⟨l, rfl⟩
  have decoded' : { l with planeFrom := [] }.decode.Decoded := ⟨_, rfl⟩
  have fits := StrikeLists.fits_decode fits
  have order : g.order = l.decode.struck := decoded.order_groupStrike fits
  refine ⟨?_, fun p => ?_, decoded.tells_groupStrike.targets_rows, fun row hrow => ?_, ?_,
    decoded.get?_groupStrike_quiet decoded' fits rfl rfl⟩
  · rw [order]
    exact decoded.ascending
  · rw [order]
    exact StrikeLists.mem_struck_decode
  · obtain ⟨t, ht, hget⟩ := mem_rows.mp hrow
    rw [order] at ht
    obtain ⟨e, he, rfl⟩ := List.mem_map.mp ht
    rw [decoded.get?_groupStrike fits he] at hget
    obtain rfl := Option.some.inj hget
    have mem := l.decode.shownTargets_subset e he
    obtain ⟨p, hp⟩ := List.mem_iff_getElem?.mp mem
    refine ⟨e, ?_, rfl, rfl, (decoded.classified e mem).hit_received, ?_⟩
    · rw [← decoded.index hp] at hp
      exact hp
    · exact filterMap_position? l.planeFrom
  · rw [order, decoded'.order_groupStrike fits]
    rfl

/-- Lists of unequal lengths: the flags reach further than the damage, and one launching ship
is named twice. -/
def unevenLists : StrikeLists :=
  { planeFrom := [2, -1, 0, 2], damage := [0.0, 4.0], bombing := [0, 1], torpedo := [0, 0, -1, 5],
    critical := [2, 2] }

theorem groupStrike_uneven :
    unevenLists.size ≤ 2 ^ 63 ∧
      let g := groupStrike unevenLists.decode
      (1 ∈ g.order ∧ 3 ∈ g.order ∧ 0 ∉ g.order ∧ 2 ∉ g.order) ∧
        ∀ row ∈ g.rows, row.attackers = [2, 0, 2] := by
  have fits : unevenLists.size ≤ 2 ^ 63 := by decide
  obtain ⟨-, marked, -, rows, -⟩ := groupStrike_shows_flagged unevenLists fits
  refine ⟨fits, ⟨?_, ?_, ?_, ?_⟩, fun row hrow => ?_⟩
  · exact (marked 1).mpr (by decide)
  · exact (marked 3).mpr (by decide)
  · exact fun h => absurd ((marked 0).mp h) (by decide)
  · exact fun h => absurd ((marked 2).mp h) (by decide)
  · obtain ⟨e, -, -, -, -, attackers⟩ := rows row hrow
    rw [attackers]
    decide

end Flotilla.Battle
