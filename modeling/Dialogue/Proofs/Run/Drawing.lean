import Dialogue.Proofs.Run.Moment
import Mathlib.Data.List.Nodup
/-!
# Drawing ids

A run draws an id for every call that it comes to, whether or not the call can be issued, and for
nothing else.  So the next id after a move, or at the end of a run, tells how many were drawn.  Ids
come round again after `UInt64.size` of them, and up to then they are all different.
-/

namespace Dialogue

/-- How many ids the next move of a run draws.  A call draws one, even if it cannot be issued. -/
def Moment.draws (moment : Moment) : Nat :=
  match moment.steps with
  | ⟨_, .call _⟩ :: _ => 1
  | _ => 0

/-- A move counts the id that it draws. -/
theorem Move.nextId_eq {link : Link} {moment next : Moment} (move : Move link moment next) :
    next.nextId = moment.nextId + UInt64.ofNat moment.draws := by
  cases move with
  | call pending issued listening => simp [Moment.draws, pending]
  | skip pending received => simp [Moment.draws, pending]
  | drop pending received offered => simp [Moment.draws, pending]
  | keep pending received offered => simp [Moment.draws, pending]
  | satisfy pending received offered => simp [Moment.draws, pending]

/-- A move sends nothing, or it sends a frame under the id that it draws. -/
theorem Move.sent_cases {link : Link} {moment next : Moment} (move : Move link moment next) :
    next.sent = moment.sent ∨
      moment.draws = 1 ∧
        ∃ call : Call, next.sent = moment.sent ++ [call.toFrame moment.nextId] := by
  cases move with
  | @call name spec rest reached call pending issued listening =>
      exact .inr ⟨by simp [Moment.draws, pending], call, rfl⟩
  | skip pending received => exact .inl rfl
  | drop pending received offered => exact .inl rfl
  | keep pending received offered => exact .inl rfl
  | satisfy pending received offered => exact .inl rfl

/-- A run that ends with a call has drawn an id for it. -/
theorem Halt.report_nextId {link : Link} {moment : Moment} {finish : Finish}
    (halt : Halt link moment finish) :
    (moment.report link).nextId = moment.nextId + UInt64.ofNat moment.draws := by
  cases halt with
  | done finished => simp [Moment.report, Moment.draws, finished, execute]
  | output pending projected => simp [Moment.report, Moment.draws, pending, execute, projected]
  | unprojected pending refused => simp [Moment.report, Moment.draws, pending, execute, refused]
  | unissued pending refused => simp [Moment.report, Moment.draws, pending, execute, refused]
  | unsent pending issued deaf => simp [Moment.report, Moment.draws, pending, execute, issued, deaf]
  | starved pending exhausted =>
      simp [Moment.report, Moment.draws, pending, execute, exhausted, awaitStep]
  | rejected pending received refused =>
      simp [Moment.report, Moment.draws, pending, execute, received, awaitStep, refused]
  | failed pending received offered =>
      simp [Moment.report, Moment.draws, pending, execute, received, awaitStep, offered]

/-- Different numbers up to the number of all ids stand for different ids. -/
theorem id_ne_of_lt (firstId : CallId) {earlier later : Nat} (less : earlier < later)
    (bounded : later < UInt64.size) :
    firstId + UInt64.ofNat earlier ≠ firstId + UInt64.ofNat later := by
  intro same
  have numbers : UInt64.ofNat earlier = UInt64.ofNat later := by
    simpa using same
  have values := congrArg UInt64.toNat numbers
  rw [UInt64.toNat_ofNat_of_lt' (Nat.lt_trans less bounded),
    UInt64.toNat_ofNat_of_lt' bounded] at values
  omega

/-- After the first id the others are drawn from the one after it. -/
theorem drawnIds_succ (firstId : CallId) (count : Nat) :
    drawnIds firstId (count + 1) = firstId :: drawnIds (firstId + 1) count := rfl

/-- Drawing counts up from the first id. -/
theorem drawnIds_eq_map (firstId : CallId) (count : Nat) :
    drawnIds firstId count = (List.range count).map fun number => firstId + UInt64.ofNat number := by
  induction count generalizing firstId with
  | zero => rfl
  | succ count inductionHypothesis =>
      rw [List.range_succ_eq_map, List.map_cons, List.map_map, drawnIds_succ, inductionHypothesis]
      refine congrArg₂ List.cons (by simp) (List.map_congr_left fun number _ => ?_)
      rw [Function.comp_apply, Nat.succ_eq_add_one, UInt64.ofNat_add,
        UInt64.add_comm (UInt64.ofNat number), UInt64.add_assoc]
      rfl

/-- After the greatest id they come round again. -/
example : drawnIds 18446744073709551614 3 = [18446744073709551614, 18446744073709551615, 0] := by
  decide

/-- Ids that are drawn without coming round are all different. -/
theorem nodup_drawnIds (firstId : CallId) {count : Nat} (bounded : count ≤ UInt64.size) :
    (drawnIds firstId count).Nodup := by
  rw [drawnIds_eq_map]
  refine List.Nodup.map_on ?_ List.nodup_range
  intro one inRange other otherInRange same
  have oneBounded : one < UInt64.size := Nat.lt_of_lt_of_le (List.mem_range.mp inRange) bounded
  have otherBounded : other < UInt64.size :=
    Nat.lt_of_lt_of_le (List.mem_range.mp otherInRange) bounded
  rcases Nat.lt_trichotomy one other with less | equal | greater
  · exact absurd same (id_ne_of_lt firstId less otherBounded)
  · exact equal
  · exact absurd same.symm (id_ne_of_lt firstId greater oneBounded)

end Dialogue
