import Dialogue.Proofs.Pool.Operation
/-!
# Who holds a session

A session that was handed out is held until it is checked in or removed, and a held session is not
handed out.  Registering it anew ends the hold as well, without its holder having any part in it:
a registration stores the session as idle, whatever it was.  These are all the ways in which a
session can be handed out twice (`checked_out_again_iff`).
-/

namespace Dialogue

/-- The operation gives the session back. -/
def Operation.Releases (sessionId : String) : Operation → Prop
  | .checkin released => released = sessionId
  | .remove released => released = sessionId
  | _ => False

/-- The operation registers the session. -/
def Operation.Registers (sessionId : String) : Operation → Prop
  | .register handle => handle.sessionId = sessionId
  | _ => False

namespace Pool

variable {pool next : Pool} {operation : Operation} {operations : List Operation}
  {handle : SessionHandle} {sessionId : String}

/-- The pool knows the session. -/
def Knows (pool : Pool) (sessionId : String) : Prop :=
  ∃ handle, pool.handle? sessionId = some handle

/-- The pool knows the session as one that is in use. -/
def Holds (pool : Pool) (sessionId : String) : Prop :=
  ∃ handle, pool.handle? sessionId = some handle ∧ handle.inUse = true

theorem Holds.knows (holds : pool.Holds sessionId) : pool.Knows sessionId :=
  holds.imp fun _ known => known.1

/-- What a checkout has handed out is held. -/
theorem holds_of_checkout {choice : Nat} (taken : pool.checkout choice = some (handle, next)) :
    next.Holds handle.sessionId := by
  obtain ⟨stored, _, rfl, rfl⟩ := checkout_eq_some taken
  exact ⟨{ stored with inUse := true }, by simp [handle?_store], rfl⟩

/-- A held session is not handed out. -/
theorem Holds.ne_of_checkout (holds : pool.Holds sessionId) (sound : pool.Sound) {choice : Nat}
    (taken : pool.checkout choice = some (handle, next)) : handle.sessionId ≠ sessionId := by
  rintro rfl
  obtain ⟨stored, idle, rfl, _⟩ := checkout_eq_some taken
  obtain ⟨held, known, inUse⟩ := holds
  obtain ⟨listed, free⟩ := sound.mem_idle_iff.mp idle
  obtain rfl : stored = held := Option.some.inj (listed.symm.trans known)
  rw [free] at inUse
  cases inUse

/-! ### What the pool keeps of a session -/

/-- Unless an operation gives a session back, what is known of the session stays as it was, or it is
registered anew, or handed out. -/
theorem handle?_perform (pool : Pool) (kept : ¬operation.Releases sessionId) :
    (pool.perform operation).handle? sessionId = pool.handle? sessionId ∨
      ∃ handle, (pool.perform operation).handle? sessionId = some handle ∧
        (operation.Registers sessionId ∨ handle.inUse = true) := by
  cases operation with
  | register other =>
      rw [perform, register_eq]
      by_cases accepted : pool.active < pool.capacity ∨ (pool.handle? other.sessionId).isSome
      · rw [if_pos accepted]
        by_cases same : sessionId = other.sessionId
        · exact .inr ⟨_, by rw [handle?_store, if_pos same], .inl same.symm⟩
        · exact .inl (by rw [handle?_store, if_neg same])
      · rw [if_neg accepted]
        exact .inl rfl
  | checkout choice =>
      rw [perform]
      cases taken : pool.checkout choice with
      | none => exact .inl rfl
      | some outcome =>
          obtain ⟨other, next⟩ := outcome
          obtain ⟨stored, _, rfl, rfl⟩ := checkout_eq_some taken
          by_cases same : sessionId = stored.sessionId
          · exact .inr ⟨_, by rw [handle?_store, if_pos same], .inr rfl⟩
          · exact .inl (by rw [handle?_store, if_neg same])
  | checkin other =>
      have different : sessionId ≠ other := Ne.symm kept
      rw [perform]
      cases known : pool.handle? other with
      | none => rw [checkin_eq_of_unknown known]; exact .inl rfl
      | some handle =>
          rw [checkin_eq_of_handle? known, handle?_store, if_neg different]
          exact .inl rfl
  | remove other =>
      have different : sessionId ≠ other := Ne.symm kept
      rw [perform, handle?_remove, if_neg different]
      exact .inl rfl

/-- A session that is not given back stays known. -/
theorem Knows.perform (knows : pool.Knows sessionId) (kept : ¬operation.Releases sessionId) :
    (pool.perform operation).Knows sessionId := by
  rcases handle?_perform pool kept with same | ⟨handle, known, _⟩
  · rw [Knows, same]
    exact knows
  · exact ⟨handle, known⟩

/-- A held session that is neither given back nor registered anew stays held. -/
theorem Holds.perform (holds : pool.Holds sessionId) (kept : ¬operation.Releases sessionId)
    (notAnew : ¬operation.Registers sessionId) : (pool.perform operation).Holds sessionId := by
  rcases handle?_perform pool kept with same | ⟨handle, known, anew | inUse⟩
  · rw [Holds, same]
    exact holds
  · exact absurd anew notAnew
  · exact ⟨handle, known, inUse⟩

/-- After operations that do not give a session back it is known. -/
theorem Knows.after (knows : pool.Knows sessionId)
    (kept : ∀ operation ∈ operations, ¬operation.Releases sessionId) :
    (pool.after operations).Knows sessionId := by
  induction operations generalizing pool with
  | nil => exact knows
  | cons operation rest inductionHypothesis =>
      have first := knows.perform (kept operation List.mem_cons_self)
      exact inductionHypothesis first fun later member => kept later (List.mem_cons_of_mem _ member)

/-- After operations that neither give a session back nor register it anew it is held. -/
theorem Holds.after (holds : pool.Holds sessionId)
    (kept : ∀ operation ∈ operations, ¬operation.Releases sessionId)
    (notAnew : ∀ operation ∈ operations, ¬operation.Registers sessionId) :
    (pool.after operations).Holds sessionId := by
  induction operations generalizing pool with
  | nil => exact holds
  | cons operation rest inductionHypothesis =>
      have first := holds.perform (kept operation List.mem_cons_self)
        (notAnew operation List.mem_cons_self)
      exact inductionHypothesis first
        (fun later member => kept later (List.mem_cons_of_mem _ member))
        (fun later member => notAnew later (List.mem_cons_of_mem _ member))

/-- A known session may be handed out right after it is registered anew. -/
theorem Knows.exists_checkout (knows : pool.Knows sessionId) (sound : pool.Sound)
    (anew : operation.Registers sessionId) :
    ∃ choice handle next, (pool.perform operation).checkout choice = some (handle, next) ∧
      handle.sessionId = sessionId := by
  cases operation with
  | register other =>
      obtain rfl : other.sessionId = sessionId := anew
      obtain ⟨stored, known⟩ := knows
      have stores : pool.perform (.register other) =
          pool.store other.sessionId { other with inUse := false } := by
        rw [Pool.perform, register_eq, if_pos (.inr (by simp [known]))]
      have registered : ({ other with inUse := false } : SessionHandle) ∈
          (pool.perform (.register other)).idle := by
        rw [(sound.perform _).mem_idle_iff, stores]
        exact ⟨by simp [handle?_store], rfl⟩
      obtain ⟨choice, next, taken⟩ := exists_checkout_of_mem_idle registered
      exact ⟨choice, _, next, taken, rfl⟩
  | checkout choice => exact anew.elim
  | checkin other => exact anew.elim
  | remove other => exact anew.elim

/-! ### Exclusive checkout -/

/-- What is handed out is handed out again, before it was given back, exactly where it is registered
anew.  Take any history of a new pool of any capacity, at the end of which a session is handed out,
and any operations after that which do not give it back.  If none of these registers the session, no
checkout among or after them returns it, whatever it chooses; if one of them does, then right
after that some choice returns it. -/
theorem checked_out_again_iff (capacity : Nat) (before between : List Operation) (choice : Nat)
    (handle : SessionHandle) (taken : Pool)
    (checkedOut : (Pool.after { capacity } before).checkout choice = some (handle, taken))
    (kept : ∀ operation ∈ between, ¬operation.Releases handle.sessionId) :
    (∃ early, early <+: between ∧ ∃ again other next,
        (taken.after early).checkout again = some (other, next) ∧
          other.sessionId = handle.sessionId) ↔
      ∃ operation ∈ between, operation.Registers handle.sessionId := by
  have soundBefore : (Pool.after { capacity } before).Sound := (Sound.new capacity).after before
  have soundTaken : taken.Sound := by
    simpa [perform, checkedOut] using soundBefore.perform (.checkout choice)
  have holds : taken.Holds handle.sessionId := holds_of_checkout checkedOut
  constructor
  · rintro ⟨early, initial, again, other, next, returned, same⟩
    refine Classical.byContradiction fun notAnew => ?_
    have stillHeld : (taken.after early).Holds handle.sessionId :=
      holds.after (fun operation member => kept operation (initial.subset member))
        (fun operation member anew => notAnew ⟨operation, initial.subset member, anew⟩)
    exact stillHeld.ne_of_checkout (soundTaken.after early) returned same
  · rintro ⟨operation, member, anew⟩
    obtain ⟨early, late, rfl⟩ := List.append_of_mem member
    have known : (taken.after early).Knows handle.sessionId :=
      holds.knows.after fun earlier member => kept earlier (List.mem_append_left _ member)
    obtain ⟨again, other, next, returned, same⟩ :=
      known.exists_checkout (soundTaken.after early) anew
    refine ⟨early ++ [operation], ⟨late, by simp⟩, again, other, next, ?_, same⟩
    simpa [after] using returned

/-- One session in a pool of one: registered again while it is held, it is handed out again. -/
theorem checked_out_again_in_pool_of_one :
    let only : SessionHandle := { sessionId := "s1", targetId := "T1" }
    ∃ early, early <+: [Operation.register only] ∧ ∃ again other next,
      ((Pool.after { capacity := 1 } [.register only, .checkout 0]).after early).checkout again =
          some (other, next) ∧
        other.sessionId = "s1" := by
  intro only
  have unreleased : ∀ operation ∈ [Operation.register only], ¬operation.Releases "s1" := by
    simp [Operation.Releases]
  exact (checked_out_again_iff 1 [.register only] [.register only] 0
    { only with inUse := true } (Pool.after { capacity := 1 } [.register only, .checkout 0]) rfl
    unreleased).mpr ⟨.register only, by simp, rfl⟩

/-- Holding a session is not exclusive: what a checkout hands out, a later one may hand out again
though nobody gave it back. -/
theorem checkout_not_exclusive :
    ¬∀ (capacity : Nat) (before between : List Operation) (choice : Nat) (handle : SessionHandle)
      (taken : Pool), (Pool.after { capacity } before).checkout choice = some (handle, taken) →
      (∀ operation ∈ between, ¬operation.Releases handle.sessionId) →
      ∀ (again : Nat) (other : SessionHandle) (next : Pool),
        (taken.after between).checkout again = some (other, next) →
        other.sessionId ≠ handle.sessionId := by
  intro exclusive
  let only : SessionHandle := { sessionId := "s1", targetId := "T1" }
  have unreleased : ∀ operation ∈ [Operation.register only], ¬operation.Releases "s1" := by
    simp [Operation.Releases]
  exact exclusive 1 [.register only] [.register only] 0 { only with inUse := true } _ rfl unreleased
    0 { only with inUse := true } _ rfl rfl

end Pool

end Dialogue
