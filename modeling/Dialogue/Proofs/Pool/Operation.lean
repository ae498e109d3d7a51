import Dialogue.Pool
import Dialogue.Proofs.Table.Ascending
/-!
# Operations on a pool

Clients of a pool register, check out, check in and remove sessions, each in one step that nothing
interrupts.  Whatever the clients are and however their steps interleave, what the pool goes through
is one sequence of operations, and all that can come of it is `Pool.after` of such a sequence.  A
checkout carries the choice that was made among the idle sessions.

In a pool that has come about so, every session is registered under its own id and only once
(`Pool.Sound`), so what a checkout hands out is what the pool knows of that session.
-/

namespace Dialogue

/-- One operation of some client. -/
inductive Operation where
  | register (handle : SessionHandle)
  | checkout (choice : Nat)
  | checkin (sessionId : String)
  | remove (sessionId : String)

namespace Pool

/-- The pool after an operation.  A refused registration and a checkout when no session is idle
leave it as it was. -/
def perform (pool : Pool) : Operation → Pool
  | .register handle =>
      match pool.register handle with
      | .ok next => next
      | .error _ => pool
  | .checkout choice =>
      match pool.checkout choice with
      | some (_, next) => next
      | none => pool
  | .checkin sessionId => pool.checkin sessionId
  | .remove sessionId => (pool.remove sessionId).2

/-- The pool after operations, in their order. -/
def after (pool : Pool) (operations : List Operation) : Pool :=
  operations.foldl perform pool

theorem after_cons (pool : Pool) (operation : Operation) (rest : List Operation) :
    pool.after (operation :: rest) = (pool.perform operation).after rest := rfl

/-- The pool with a handle stored under a session id. -/
def store (pool : Pool) (sessionId : String) (handle : SessionHandle) : Pool :=
  { pool with sessions := pool.sessions.insert sessionId handle }

/-- What a pool knows of a session. -/
def handle? (pool : Pool) (sessionId : String) : Option SessionHandle :=
  pool.sessions.get? sessionId

/-- Every session is registered once, and under its own id. -/
structure Sound (pool : Pool) : Prop where
  ascending : pool.sessions.Ascending
  own : ∀ sessionId handle, (sessionId, handle) ∈ pool.sessions.entries →
    handle.sessionId = sessionId

variable {pool next : Pool} {handle : SessionHandle} {sessionId : String}

theorem handle?_store (pool : Pool) (sessionId other : String) (handle : SessionHandle) :
    (pool.store sessionId handle).handle? other =
      if other = sessionId then some handle else pool.handle? other :=
  Table.get?_insert pool.sessions sessionId other handle

theorem handle?_remove (pool : Pool) (sessionId other : String) :
    (pool.remove sessionId).2.handle? other =
      if other = sessionId then none else pool.handle? other :=
  Table.get?_erase pool.sessions sessionId other

/-! ### What an operation does -/

/-- A registration stores the handle as idle, or is refused for want of a place. -/
theorem register_eq (pool : Pool) (handle : SessionHandle) :
    pool.register handle =
      if pool.active < pool.capacity ∨ (pool.handle? handle.sessionId).isSome then
        .ok (pool.store handle.sessionId { handle with inUse := false })
      else .error (.poolExhausted pool.capacity) := by
  have test : (pool.hasCapacity || pool.sessions.contains handle.sessionId) = true ↔
      pool.active < pool.capacity ∨ (pool.handle? handle.sessionId).isSome := by
    simp [hasCapacity, Table.contains, handle?]
  by_cases accepted : pool.active < pool.capacity ∨ (pool.handle? handle.sessionId).isSome
  · rw [register, if_pos (test.mpr accepted), if_pos accepted]
    rfl
  · rw [register, if_neg (mt test.mp accepted), if_neg accepted]

/-- A checkout hands out an idle handle, and stores it as in use. -/
theorem checkout_eq_some {choice : Nat} (taken : pool.checkout choice = some (handle, next)) :
    ∃ stored ∈ pool.idle, handle = { stored with inUse := true } ∧
      next = pool.store handle.sessionId handle := by
  rw [checkout] at taken
  cases picked : pool.idle[choice % pool.idle.length]? with
  | none => simp [picked] at taken
  | some stored =>
      simp only [picked, Option.some.injEq, Prod.mk.injEq] at taken
      obtain ⟨rfl, rfl⟩ := taken
      exact ⟨stored, List.mem_of_getElem? picked, rfl, rfl⟩

/-- Every idle handle may be the one that is handed out. -/
theorem exists_checkout_of_mem_idle (idle : handle ∈ pool.idle) :
    ∃ choice next, pool.checkout choice = some ({ handle with inUse := true }, next) := by
  obtain ⟨choice, inRange, picked⟩ := List.mem_iff_getElem.mp idle
  refine ⟨choice, pool.store handle.sessionId { handle with inUse := true }, ?_⟩
  rw [checkout, Nat.mod_eq_of_lt inRange, List.getElem?_eq_getElem inRange, picked]
  rfl

/-- A checkin stores what is known of the session as idle. -/
theorem checkin_eq_of_handle? (known : pool.handle? sessionId = some handle) :
    pool.checkin sessionId = pool.store sessionId { handle with inUse := false } := by
  rw [handle?] at known
  rw [checkin, known]
  rfl

/-- A checkin of an unknown session does nothing. -/
theorem checkin_eq_of_unknown (unknown : pool.handle? sessionId = none) :
    pool.checkin sessionId = pool := by
  rw [handle?] at unknown
  rw [checkin, unknown]

namespace Sound

/-- A new pool is sound. -/
theorem new (capacity : Nat) : Sound { capacity } where
  ascending := .empty
  own := by simp [Table.empty]

/-- Storing a handle under its own id keeps a pool sound. -/
theorem store (sound : pool.Sound) (own : handle.sessionId = sessionId) :
    (pool.store sessionId handle).Sound where
  ascending := sound.ascending.insert sessionId handle
  own := by
    intro key stored member
    rcases Table.mem_insertEntry member with same | earlier
    · cases same
      exact own
    · exact sound.own key stored earlier

/-- In a sound pool what is known under an id has that id. -/
theorem sessionId_of_handle? (sound : pool.Sound) (known : pool.handle? sessionId = some handle) :
    handle.sessionId = sessionId :=
  sound.own sessionId handle (Table.mem_of_lookup known)

/-- In a sound pool the idle handles are those that are known and not in use. -/
theorem mem_idle_iff (sound : pool.Sound) :
    handle ∈ pool.idle ↔ pool.handle? handle.sessionId = some handle ∧ handle.inUse = false := by
  constructor
  · intro member
    obtain ⟨listed, free⟩ := List.mem_filter.mp member
    obtain ⟨⟨key, stored⟩, entry, rfl⟩ := List.mem_map.mp listed
    rw [sound.own key stored entry]
    exact ⟨sound.ascending.mem_entries_iff.mp entry, by simpa using free⟩
  · rintro ⟨known, free⟩
    have entry := sound.ascending.mem_entries_iff.mpr known
    exact List.mem_filter.mpr ⟨List.mem_map.mpr ⟨_, entry, rfl⟩, by simp [free]⟩

/-- Every operation keeps a pool sound. -/
theorem perform (sound : pool.Sound) (operation : Operation) : (pool.perform operation).Sound := by
  cases operation with
  | register handle =>
      rw [Pool.perform, register_eq]
      by_cases accepted : pool.active < pool.capacity ∨ (pool.handle? handle.sessionId).isSome
      · rw [if_pos accepted]
        exact sound.store rfl
      · rw [if_neg accepted]
        exact sound
  | checkout choice =>
      rw [Pool.perform]
      cases taken : pool.checkout choice with
      | none => exact sound
      | some outcome =>
          obtain ⟨handle, next⟩ := outcome
          obtain ⟨stored, _, rfl, rfl⟩ := checkout_eq_some taken
          exact sound.store rfl
  | checkin sessionId =>
      rw [Pool.perform]
      cases known : pool.handle? sessionId with
      | none => rw [checkin_eq_of_unknown known]; exact sound
      | some handle =>
          have own : handle.sessionId = sessionId := sound.sessionId_of_handle? known
          rw [checkin_eq_of_handle? known]
          exact sound.store own
  | remove sessionId =>
      exact
        { ascending := sound.ascending.erase sessionId
          own := fun key stored member => sound.own key stored (List.mem_filter.mp member).1 }

/-- Every sequence of operations keeps a pool sound. -/
theorem after (sound : pool.Sound) (operations : List Operation) :
    (pool.after operations).Sound := by
  induction operations generalizing pool with
  | nil => exact sound
  | cons operation rest inductionHypothesis => exact inductionHypothesis (sound.perform operation)

end Sound

end Pool

end Dialogue
