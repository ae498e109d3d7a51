import Dialogue.Proofs.Pool.Operation
import Mathlib.Data.Fintype.EquivFin
/-!
# The registry of a pool

A pool that has come about by operations never holds more sessions than there may be.  Only a
registration can add a session, and it is refused exactly where all places are taken and the session
is not among those that have one; a session that has a place keeps it when it is registered anew.
Checkouts and checkins mark sessions that are known, so they change neither which sessions these are
nor what their targets are, and a removal concerns one session only.

What clients do at the same time is one sequence of operations here, as in the account of the
operations themselves.  Asking whether there is room changes nothing, so it is asked of the pool
that a sequence leads to.
-/

namespace Dialogue

/-- The operation changes nothing but whether a session is in use. -/
def Operation.Marks : Operation → Prop
  | .register _ => False
  | .checkout _ => True
  | .checkin _ => True
  | .remove _ => False

namespace Pool

variable {pool : Pool} {operation : Operation} {handle : SessionHandle} {sessionId : String}

/-- The target of a registered session. -/
def target? (pool : Pool) (sessionId : String) : Option String :=
  (pool.handle? sessionId).map SessionHandle.targetId

/-- Not more sessions are registered than there may be. -/
def Bounded (pool : Pool) : Prop :=
  pool.active ≤ pool.capacity

/-! ### What is registered -/

/-- Storing a handle takes a place unless its session has one. -/
theorem active_store (sound : pool.Sound) (sessionId : String) (handle : SessionHandle) :
    (pool.store sessionId handle).active =
      if (pool.handle? sessionId).isSome then pool.active else pool.active + 1 :=
  sound.ascending.size_insert sessionId handle

/-- A checkout and a checkin leave the pool as it is, or they store a known handle anew that differs
in its mark at most. -/
theorem perform_eq_store_of_marks (sound : pool.Sound) (marks : operation.Marks) :
    pool.perform operation = pool ∨
      ∃ known marked, pool.handle? known.sessionId = some known ∧
        marked.targetId = known.targetId ∧
        pool.perform operation = pool.store known.sessionId marked := by
  cases operation with
  | register other => exact marks.elim
  | remove other => exact marks.elim
  | checkout choice =>
      rw [perform]
      cases taken : pool.checkout choice with
      | none => exact .inl rfl
      | some outcome =>
          obtain ⟨other, next⟩ := outcome
          obtain ⟨stored, idle, rfl, rfl⟩ := checkout_eq_some taken
          obtain ⟨known, _⟩ := sound.mem_idle_iff.mp idle
          exact .inr ⟨stored, { stored with inUse := true }, known, rfl, rfl⟩
  | checkin other =>
      rw [perform]
      cases known : pool.handle? other with
      | none => exact .inl (checkin_eq_of_unknown known)
      | some stored =>
          obtain rfl : stored.sessionId = other := sound.sessionId_of_handle? known
          exact .inr
            ⟨stored, { stored with inUse := false }, known, rfl, checkin_eq_of_handle? known⟩

/-- Marking keeps every session and its target. -/
theorem target?_perform_of_marks (sound : pool.Sound) (marks : operation.Marks)
    (sessionId : String) :
    (pool.perform operation).target? sessionId = pool.target? sessionId := by
  rcases perform_eq_store_of_marks sound marks with same | ⟨known, marked, found, target, stores⟩
  · rw [same]
  · rw [stores, target?, target?, handle?_store]
    by_cases own : sessionId = known.sessionId
    · rw [if_pos own, own, found, Option.map_some, Option.map_some, target]
    · rw [if_neg own]

/-- Marking neither takes a place nor frees one. -/
theorem active_perform_of_marks (sound : pool.Sound) (marks : operation.Marks) :
    (pool.perform operation).active = pool.active := by
  rcases perform_eq_store_of_marks sound marks with same | ⟨known, marked, found, target, stores⟩
  · rw [same]
  · rw [stores, active_store sound, found]
    rfl

/-! ### How much is registered -/

/-- No operation changes how many sessions there may be. -/
theorem capacity_perform (pool : Pool) (operation : Operation) :
    (pool.perform operation).capacity = pool.capacity := by
  cases operation with
  | register handle =>
      rw [perform, register_eq]
      by_cases accepted : pool.active < pool.capacity ∨ (pool.handle? handle.sessionId).isSome
      · rw [if_pos accepted]
        rfl
      · rw [if_neg accepted]
  | checkout choice =>
      rw [perform]
      cases taken : pool.checkout choice with
      | none => rfl
      | some outcome =>
          obtain ⟨handle, next⟩ := outcome
          obtain ⟨stored, _, rfl, rfl⟩ := checkout_eq_some taken
          rfl
  | checkin sessionId =>
      rw [perform]
      cases known : pool.handle? sessionId with
      | none => rw [checkin_eq_of_unknown known]
      | some handle => rw [checkin_eq_of_handle? known]; rfl
  | remove sessionId => rfl

theorem capacity_after (pool : Pool) (operations : List Operation) :
    (pool.after operations).capacity = pool.capacity := by
  induction operations generalizing pool with
  | nil => rfl
  | cons operation rest inductionHypothesis =>
      exact (inductionHypothesis (pool.perform operation)).trans (capacity_perform pool operation)

namespace Bounded

theorem new (capacity : Nat) : Bounded { capacity } :=
  Nat.zero_le capacity

/-- A registration takes a place only if one is free. -/
theorem register (bounded : pool.Bounded) (sound : pool.Sound) (handle : SessionHandle) :
    (pool.perform (.register handle)).Bounded := by
  rw [perform, register_eq]
  by_cases accepted : pool.active < pool.capacity ∨ (pool.handle? handle.sessionId).isSome
  · rw [if_pos accepted]
    change (pool.store handle.sessionId { handle with inUse := false }).active ≤ pool.capacity
    rw [active_store sound]
    split
    · exact bounded
    · rename_i unknown
      exact accepted.resolve_right unknown
  · rw [if_neg accepted]
    exact bounded

/-- Every operation keeps within the capacity. -/
theorem perform (bounded : pool.Bounded) (sound : pool.Sound) (operation : Operation) :
    (pool.perform operation).Bounded := by
  have marked : operation.Marks → (pool.perform operation).Bounded := by
    intro marks
    rw [Bounded, active_perform_of_marks sound marks, capacity_perform]
    exact bounded
  cases operation with
  | register handle => exact bounded.register sound handle
  | checkout choice => exact marked trivial
  | checkin sessionId => exact marked trivial
  | remove sessionId => exact Nat.le_trans (Table.size_erase_le _ _) bounded

/-- Every sequence of operations keeps within the capacity. -/
theorem after (bounded : pool.Bounded) (sound : pool.Sound) (operations : List Operation) :
    (pool.after operations).Bounded := by
  induction operations generalizing pool with
  | nil => exact bounded
  | cons operation rest inductionHypothesis =>
      exact inductionHypothesis (bounded.perform sound operation) (sound.perform operation)

end Bounded

/-! ### Who is refused -/

/-- A registration is refused exactly for want of a place, and then for no other reason. -/
theorem register_eq_error_iff (bounded : pool.Bounded) (handle : SessionHandle)
    (error : RunError) :
    pool.register handle = .error error ↔
      pool.active = pool.capacity ∧ pool.handle? handle.sessionId = none ∧
        error = .poolExhausted pool.capacity := by
  rw [register_eq]
  constructor
  · intro refused
    split at refused
    · cases refused
    · rename_i full
      rcases not_or.mp full with ⟨noRoom, unknown⟩
      cases refused
      exact ⟨Nat.le_antisymm bounded (Nat.le_of_not_lt noRoom), by simpa using unknown, rfl⟩
  · rintro ⟨full, unknown, rfl⟩
    rw [if_neg]
    simp [full, unknown]

/-- A pool does not know every session that there could be. -/
theorem exists_unknown (pool : Pool) : ∃ sessionId, pool.handle? sessionId = none := by
  obtain ⟨sessionId, fresh⟩ := Infinite.exists_notMem_finset pool.sessions.keys.toFinset
  refine ⟨sessionId, Option.eq_none_iff_forall_ne_some.mpr fun handle known => fresh ?_⟩
  rw [List.mem_toFinset]
  exact List.mem_map_of_mem (Table.mem_of_lookup known)

/-- There is room exactly where every unknown session would be registered. -/
theorem hasCapacity_iff (bounded : pool.Bounded) :
    pool.hasCapacity = true ↔
      ∀ handle : SessionHandle, pool.handle? handle.sessionId = none →
        ∃ next, pool.register handle = .ok next := by
  have room : pool.hasCapacity = true ↔ pool.active < pool.capacity := by
    simp [hasCapacity]
  rw [room]
  constructor
  · intro less handle _
    rw [register_eq, if_pos (.inl less)]
    exact ⟨_, rfl⟩
  · intro registers
    obtain ⟨sessionId, unknown⟩ := exists_unknown pool
    obtain ⟨next, accepted⟩ := registers { sessionId, targetId := "" } unknown
    refine Nat.lt_of_le_of_ne bounded fun full => ?_
    have refused := (register_eq_error_iff bounded { sessionId, targetId := "" } _).mpr
      ⟨full, unknown, rfl⟩
    rw [accepted] at refused
    cases refused

/-! ### The registry after any history -/

/-- What is registered in a pool of this capacity, and what the next operation does to it. -/
structure Registry (capacity : Nat) (pool : Pool) : Prop where
  capacity_eq : pool.capacity = capacity
  bounded : pool.active ≤ capacity
  /-- No two entries are for the same session, so the entries can be counted for the sessions. -/
  once : pool.sessions.keys.Nodup
  own : ∀ sessionId handle, (sessionId, handle) ∈ pool.sessions.entries →
    handle.sessionId = sessionId
  refused_iff : ∀ handle error, pool.register handle = .error error ↔
    pool.active = capacity ∧ pool.handle? handle.sessionId = none ∧
      error = .poolExhausted capacity
  refused_unchanged : ∀ handle error, pool.register handle = .error error →
    pool.perform (.register handle) = pool
  hasCapacity_iff : pool.hasCapacity = true ↔
    ∀ handle : SessionHandle, pool.handle? handle.sessionId = none →
      ∃ next, pool.register handle = .ok next
  /-- A checkout and a checkin change neither the registered ids nor their targets. -/
  marked : ∀ operation : Operation, operation.Marks → ∀ sessionId,
    (pool.perform operation).target? sessionId = pool.target? sessionId
  removed : ∀ removed sessionId, (pool.perform (.remove removed)).handle? sessionId =
    if sessionId = removed then none else pool.handle? sessionId

/-- The registry of a pool keeps its order.  Take a new pool of any capacity, zero included, and any
operations on it.  Then not more sessions are registered than there may be, each under its own id; a
registration is refused exactly where all places are taken and the session has none, for that reason
and without a change to the pool; there is room exactly where any unknown session would be
registered next; checkouts and checkins change neither the registered ids nor their targets; and a
removal affects no other session. -/
theorem registry_of_history (capacity : Nat) (operations : List Operation) :
    (Pool.after { capacity } operations).Registry capacity := by
  have sound : (Pool.after { capacity } operations).Sound := (Sound.new capacity).after operations
  have bounded : (Pool.after { capacity } operations).Bounded :=
    (Bounded.new capacity).after (Sound.new capacity) operations
  have same : (Pool.after { capacity } operations).capacity = capacity :=
    capacity_after { capacity } operations
  constructor
  case capacity_eq => exact same
  case bounded => exact Nat.le_trans bounded (Nat.le_of_eq same)
  case once => exact sound.ascending.nodup_keys
  case own => exact sound.own
  case refused_iff =>
    intro handle error
    rw [register_eq_error_iff bounded, same]
  case refused_unchanged =>
    intro handle error refused
    rw [perform, refused]
  case hasCapacity_iff => exact hasCapacity_iff bounded
  case marked =>
    intro operation marks sessionId
    exact target?_perform_of_marks sound marks sessionId
  case removed =>
    intro removed sessionId
    exact handle?_remove _ removed sessionId

/-- In a full pool a known session is registered anew, and another one only after it is removed. -/
example :
    let one : SessionHandle := { sessionId := "s1", targetId := "T1" }
    let other : SessionHandle := { sessionId := "s2", targetId := "T2" }
    let full := Pool.after { capacity := 1 } [.register one, .checkout 0]
    full.register other = .error (.poolExhausted 1) ∧
      (full.perform (.register { one with targetId := "T3" })).target? "s1" = some "T3" ∧
      (full.after [.remove "s1", .checkin "s1", .register other]).target? "s2" = some "T2" :=
  ⟨rfl, rfl, rfl⟩

end Pool

end Dialogue
