import Flotilla.Proofs.Text.Pieces
import Flotilla.Server.Basic

/-! # Targets that name a battle

The target of a view of a battle holds the id of the battle as it is. A question mark in the id
ends the path, and a slash in it parts the id, so the path leads to the view exactly when the id
has neither. Whatever the id, the target leads to a view, to the list of battles or nowhere. -/
namespace Flotilla

namespace Server

/-! ## Ids in a path -/

/-- An id that can stand as a segment of a path. -/
def Addressable (id : String) : Prop := '/' ∉ id.toList ∧ '?' ∉ id.toList

instance (id : String) : Decidable (Addressable id) := inferInstanceAs (Decidable (_ ∧ _))

theorem Request.addressable_of_mem_segments {r : Request} {id : String} (h : id ∈ r.segments) :
    Addressable id := by
  obtain ⟨piece, member, rfl⟩ := List.mem_map.mp h
  have noMark : '?' ∉ r.path := fun h => by simpa using List.mem_takeWhile_imp h
  have among : piece ⊆ r.path := fun _ h =>
    Text.strip_subset '/' r.path ((Text.piece_of_mem_splitOn member).2 h)
  rw [Addressable, String.toList_ofList]
  exact ⟨(Text.piece_of_mem_splitOn member).1, fun h => noMark (among h)⟩

/-- A view of an archived battle. -/
inductive BattleView where
  | summary
  | tables

namespace BattleView

/-- The last segment of the path of a view. -/
def segment : BattleView → String
  | .summary => "summary"
  | .tables => "phases"

/-- What a request for a view asks for. -/
def route (id : String) : BattleView → Route
  | .summary => .summary id
  | .tables => .tables id

/-- The target of a view. -/
def target (v : BattleView) (id : String) : String := "/api/battles/" ++ (id ++ ("/" ++ v.segment))

end BattleView

namespace Request

/-- The request asks for a view of the battle with an id. -/
def Asks (r : Request) (v : BattleView) (id : String) : Prop :=
  r.method = "GET" ∧ r.target = v.target id

instance (r : Request) (v : BattleView) (id : String) : Decidable (r.Asks v id) :=
  inferInstanceAs (Decidable (_ ∧ _))

variable {r : Request} {v : BattleView} {id : String}

/-- The segments of a target below the battles; slashes at its end make no difference. -/
theorem segments_below {rest below : List Char}
    (h : r.target.toList = "/api/battles/".toList ++ rest)
    (hbelow : (rest.takeWhile (· != '?')).rdropWhile (· == '/') = below) :
    r.segments = "api" :: "battles" ::
      if below = [] then [] else (below.splitOn '/').map String.ofList := by
  have path : r.path = "/api/battles/".toList ++ rest.takeWhile (· != '?') := by
    rw [Request.path, h]
    exact List.takeWhile_append_of_pos (List.all_eq_true.mp rfl)
  have stripped : Text.strip '/' r.path
      = ("api/battles/".toList ++ rest.takeWhile (· != '?')).rdropWhile (· == '/') := by
    rw [path]
    rfl
  rw [segments, stripped, Text.rdropWhile_append, hbelow]
  -- with nothing behind it, the slash below the battles is dropped too
  split
  · decide
  · have pieces : ("api".toList ++ '/' :: ("battles".toList ++ '/' :: below)).splitOn '/'
        = "api".toList :: "battles".toList :: below.splitOn '/' := by
      rw [List.splitOn_append_cons_self_of_not_mem (by decide),
        List.splitOn_append_cons_self_of_not_mem (by decide)]
    exact congrArg (List.map String.ofList) pieces

theorem Asks.target_toList (h : r.Asks v id) :
    r.target.toList = "/api/battles/".toList ++ (id.toList ++ '/' :: v.segment.toList) := by
  rw [h.2, BattleView.target, String.toList_append, String.toList_append, String.toList_append]
  rfl

theorem Asks.segments (h : r.Asks v id) (addressable : Addressable id) :
    r.segments = ["api", "battles", id, v.segment] := by
  obtain ⟨noSlash, noMark⟩ := addressable
  have unmarked : (id.toList ++ '/' :: v.segment.toList).takeWhile (· != '?')
      = id.toList ++ '/' :: v.segment.toList := by
    refine List.takeWhile_eq_self_iff.mpr fun c hc => ?_
    rcases List.mem_append.mp hc with hc | hc
    · exact bne_iff_ne.mpr fun same => noMark (same ▸ hc)
    · have segment : ('/' :: v.segment.toList).all (· != '?') = true := by cases v <;> rfl
      exact List.all_eq_true.mp segment c hc
  have whole : ((id.toList ++ '/' :: v.segment.toList).takeWhile (· != '?')).rdropWhile (· == '/')
      = id.toList ++ '/' :: v.segment.toList := by
    rw [unmarked, Text.rdropWhile_append, if_neg (by cases v <;> decide)]
    cases v <;> rfl
  have pieces : (id.toList ++ '/' :: v.segment.toList).splitOn '/'
      = [id.toList, v.segment.toList] := by
    rw [List.splitOn_append_cons_self_of_not_mem noSlash,
      List.splitOn_eq_singleton (by cases v <;> decide)]
  rw [segments_below h.target_toList whole, if_neg (by simp), pieces]
  simp

/-- A request for a view of a battle that can be addressed asks for just that. -/
theorem Asks.route? (h : r.Asks v id) (addressable : Addressable id) :
    r.route? = some (v.route id) := by
  rw [Request.route?, h.1, h.segments addressable]
  cases v <;> rfl

/-- Whatever the id, a target with it leads to the list of battles, to a view of a battle that can
be addressed, or nowhere. -/
theorem Asks.route?_cases (h : r.Asks v id) :
    r.route? = none ∨ r.route? = some .battles ∨
      ∃ (w : BattleView) (other : String), Addressable other ∧ r.route? = some (w.route other) := by
  obtain ⟨more, below⟩ : ∃ more, r.segments = "api" :: "battles" :: more :=
    ⟨_, segments_below h.target_toList rfl⟩
  have addressable {other : String} (member : other ∈ more) : Addressable other :=
    addressable_of_mem_segments (r := r) (by simp [below, member])
  rw [Request.route?, h.1, below]
  rcases more with _ | ⟨other, _ | ⟨last, _ | ⟨extra, more⟩⟩⟩
  · exact .inr (.inl rfl)
  · exact .inl rfl
  · by_cases summary : last = "summary"
    · exact .inr (.inr ⟨.summary, other, addressable List.mem_cons_self, summary ▸ rfl⟩)
    · by_cases tables : last = "phases"
      · exact .inr (.inr ⟨.tables, other, addressable List.mem_cons_self, tables ▸ rfl⟩)
      · left
        split <;> simp_all
  · left
    split <;> simp_all

end Request

end Server

end Flotilla
