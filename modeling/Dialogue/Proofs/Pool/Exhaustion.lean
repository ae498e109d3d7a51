import Dialogue.Proofs.Pool.Registry
/-!
# Checking out what is idle

Consecutive checkouts hand out the idle sessions one by one.  Each takes one of them, whichever it is
offered first, and leaves the other sessions as they were, so no session is handed out twice, all of
them are handed out if there are enough checkouts, and from then on there is nothing to hand out.
Checking in what was handed out makes it idle again, in any order, and that is all that the checkouts
had changed.

The map in which the sessions are kept offers its entries in some order that nothing is known of.
A checkout returns the first idle one in that order, which is to say any of them: the choice of
`Pool.checkout` stands for the order.
-/

namespace Dialogue.Pool

variable {pool next one other : Pool} {handle : SessionHandle} {sessionId : String}

/-- What checkouts return that are made one after the other, with these choices. -/
def returned (pool : Pool) : List Nat → List (Option SessionHandle)
  | [] => []
  | choice :: rest =>
      (pool.checkout choice).map Prod.fst :: (pool.perform (.checkout choice)).returned rest

/-! ### What is idle -/

namespace Sound

/-- No two idle handles are for the same session. -/
theorem nodup_idle (sound : pool.Sound) : (pool.idle.map SessionHandle.sessionId).Nodup := by
  have ids : (pool.sessions.entries.map Prod.snd).map SessionHandle.sessionId =
      pool.sessions.keys := by
    rw [List.map_map, Table.keys]
    refine List.map_congr_left ?_
    rintro ⟨key, stored⟩ entry
    exact sound.own key stored entry
  have once := sound.ascending.nodup_keys
  rw [← ids] at once
  exact once.sublist (List.filter_sublist.map _)

/-- Sound pools of one capacity that know the same are the same. -/
theorem ext (sound : one.Sound) (otherSound : other.Sound) (capacity : one.capacity = other.capacity)
    (same : ∀ sessionId, one.handle? sessionId = other.handle? sessionId) : one = other := by
  have sessions : one.sessions = other.sessions :=
    sound.ascending.ext otherSound.ascending same
  cases one
  cases other
  rw [mk.injEq]
  exact ⟨capacity, sessions⟩

end Sound

/-- There is nothing to hand out exactly where nothing is idle, whatever the choice. -/
theorem checkout_eq_none_iff {choice : Nat} : pool.checkout choice = none ↔ pool.idle = [] := by
  rw [checkout]
  cases pool.idle with
  | nil => simp
  | cons first rest =>
      have inRange : choice % (first :: rest).length < (first :: rest).length :=
        Nat.mod_lt choice (Nat.succ_pos _)
      rw [List.getElem?_eq_getElem inRange]
      simp

/-- In whatever order the sessions are offered, the first idle one is what some choice hands out. -/
theorem exists_checkout_of_order {order : List SessionHandle}
    (offered : order.Perm (pool.sessions.entries.map Prod.snd)) :
    ∃ choice, (pool.checkout choice).map Prod.fst =
      (order.find? (!·.inUse)).map fun handle => { handle with inUse := true } := by
  cases first : order.find? (!·.inUse) with
  | none =>
      have noneIdle : pool.idle = [] := by
        refine List.filter_eq_nil_iff.mpr fun stored listed => ?_
        exact List.find?_eq_none.mp first stored (offered.mem_iff.mpr listed)
      refine ⟨0, ?_⟩
      rw [checkout_eq_none_iff.mpr noneIdle]
      rfl
  | some stored =>
      have listed := offered.mem_iff.mp (List.mem_of_find?_eq_some first)
      have free : (!stored.inUse) = true := by simpa using List.find?_some first
      have idle : stored ∈ pool.idle := List.mem_filter.mpr ⟨listed, free⟩
      obtain ⟨choice, next, taken⟩ := exists_checkout_of_mem_idle idle
      refine ⟨choice, ?_⟩
      rw [taken]
      rfl

/-! ### One checkout, one checkin -/

/-- What a checkout hands out was idle, and is in use from then on. -/
theorem Sound.of_checkout (sound : pool.Sound) {choice : Nat}
    (taken : pool.checkout choice = some (handle, next)) :
    handle.inUse = true ∧ pool.handle? handle.sessionId = some { handle with inUse := false } ∧
      next = pool.store handle.sessionId handle := by
  obtain ⟨stored, idle, rfl, rfl⟩ := checkout_eq_some taken
  obtain ⟨known, free⟩ := sound.mem_idle_iff.mp idle
  refine ⟨rfl, known.trans ?_, rfl⟩
  rw [← free]

/-- After a checkout the other sessions are idle that were idle before. -/
theorem Sound.mem_idle_of_checkout_iff (sound : pool.Sound) {choice : Nat}
    (taken : pool.checkout choice = some (handle, next)) {other : SessionHandle} :
    other ∈ next.idle ↔ other ∈ pool.idle ∧ other.sessionId ≠ handle.sessionId := by
  obtain ⟨inUse, known, rfl⟩ := sound.of_checkout taken
  rw [(sound.store rfl).mem_idle_iff, sound.mem_idle_iff, handle?_store]
  by_cases same : other.sessionId = handle.sessionId
  · rw [if_pos same]
    refine ⟨fun ⟨stored, free⟩ => ?_, fun ⟨_, different⟩ => absurd same different⟩
    rw [← Option.some.inj stored, inUse] at free
    cases free
  · simp [same]

/-- A checkout takes one session from the idle ones and leaves the others. -/
theorem Sound.perm_idle_of_checkout (sound : pool.Sound) {choice : Nat}
    (taken : pool.checkout choice = some (handle, next)) :
    ({ handle with inUse := false } :: next.idle).Perm pool.idle := by
  obtain ⟨_, known, stores⟩ := sound.of_checkout taken
  have nextSound : next.Sound := stores ▸ sound.store rfl
  refine (List.perm_ext_iff_of_nodup ?_ (sound.nodup_idle.of_map _)).mpr fun other => ?_
  · refine List.nodup_cons.mpr ⟨fun again => ?_, nextSound.nodup_idle.of_map _⟩
    exact ((sound.mem_idle_of_checkout_iff taken).mp again).2 rfl
  · rw [List.mem_cons, sound.mem_idle_of_checkout_iff taken]
    constructor
    · rintro (rfl | ⟨idle, _⟩)
      · exact sound.mem_idle_iff.mpr ⟨known, rfl⟩
      · exact idle
    · intro idle
      by_cases same : other.sessionId = handle.sessionId
      · obtain ⟨listed, _⟩ := sound.mem_idle_iff.mp idle
        rw [same, known] at listed
        exact .inl (Option.some.inj listed).symm
      · exact .inr ⟨idle, same⟩

/-- A checkin makes one session idle, if it is known, and leaves the others. -/
theorem handle?_checkin (pool : Pool) (returned sessionId : String) :
    (pool.checkin returned).handle? sessionId =
      if sessionId = returned then
        (pool.handle? sessionId).map fun handle => { handle with inUse := false }
      else pool.handle? sessionId := by
  cases known : pool.handle? returned with
  | none =>
      rw [checkin_eq_of_unknown known]
      by_cases same : sessionId = returned <;> simp [same, known]
  | some stored =>
      rw [checkin_eq_of_handle? known, handle?_store]
      by_cases same : sessionId = returned <;> simp [same, known]

/-! ### Many of them -/

/-- Checkins make every session idle that is among them, and leave the others. -/
theorem handle?_after_checkins (pool : Pool) (order : List String) (sessionId : String) :
    (pool.after (order.map .checkin)).handle? sessionId =
      if sessionId ∈ order then
        (pool.handle? sessionId).map fun handle => { handle with inUse := false }
      else pool.handle? sessionId := by
  induction order generalizing pool with
  | nil => rfl
  | cons first rest inductionHypothesis =>
      rw [List.map_cons, after_cons, perform, inductionHypothesis, handle?_checkin]
      by_cases same : sessionId = first
      · cases pool.handle? sessionId <;> simp [same]
      · simp [same]

/-- What checkouts return and what they do to the pool: the idle sessions one by one until there are
none left, each marked as in use. -/
structure HandsOut (pool : Pool) (choices : List Nat) (handed : List SessionHandle) : Prop where
  returned_eq : pool.returned choices =
    handed.map some ++ List.replicate (choices.length - handed.length) none
  length_eq : handed.length = min choices.length pool.idle.length
  distinct : (handed.map SessionHandle.sessionId).Nodup
  idle : ∀ handle ∈ handed, handle.inUse = true ∧
    pool.handle? handle.sessionId = some { handle with inUse := false }
  taken : ∀ handle ∈ handed,
    (pool.after (choices.map .checkout)).handle? handle.sessionId = some handle
  left : ∀ sessionId, sessionId ∉ handed.map SessionHandle.sessionId →
    (pool.after (choices.map .checkout)).handle? sessionId = pool.handle? sessionId

namespace HandsOut

variable {choice : Nat} {rest : List Nat} {handed : List SessionHandle}

/-- Where nothing is idle a checkout returns nothing and changes nothing. -/
theorem cons_none (hands : pool.HandsOut rest handed) (refused : pool.checkout choice = none) :
    pool.HandsOut (choice :: rest) handed := by
  have same : pool.perform (.checkout choice) = pool := by rw [perform, refused]
  have afterwards : pool.after ((choice :: rest).map .checkout) =
      pool.after (rest.map .checkout) := by
    rw [List.map_cons, after_cons, same]
  have noneIdle : pool.idle = [] := checkout_eq_none_iff.mp refused
  have noneHanded : handed = [] := by
    have length := hands.length_eq
    rw [noneIdle] at length
    simpa using length
  subst noneHanded
  constructor
  case returned_eq =>
    rw [returned, refused, same, hands.returned_eq]
    simp [List.replicate_succ]
  case length_eq => simp [noneIdle]
  case distinct => exact hands.distinct
  case idle => exact hands.idle
  case taken =>
    rw [afterwards]
    exact hands.taken
  case left =>
    rw [afterwards]
    exact hands.left

/-- A checkout that hands out an idle session leaves the other ones to those behind it. -/
theorem cons_some (sound : pool.Sound) (taken : pool.checkout choice = some (handle, next))
    (hands : next.HandsOut rest handed) : pool.HandsOut (choice :: rest) (handle :: handed) := by
  obtain ⟨inUse, known, stores⟩ := sound.of_checkout taken
  have moves : pool.perform (.checkout choice) = next := by rw [perform, taken]
  have afterwards : pool.after ((choice :: rest).map .checkout) =
      next.after (rest.map .checkout) := by
    rw [List.map_cons, after_cons, moves]
  have stored (sessionId : String) : next.handle? sessionId =
      if sessionId = handle.sessionId then some handle else pool.handle? sessionId := by
    rw [stores, handle?_store]
  have fresh : handle.sessionId ∉ handed.map SessionHandle.sessionId := by
    intro again
    obtain ⟨other, member, same⟩ := List.mem_map.mp again
    have idle := (hands.idle other member).2
    rw [same, stored, if_pos rfl] at idle
    rw [Option.some.inj idle] at inUse
    cases inUse
  have differs {other : SessionHandle} (member : other ∈ handed) :
      other.sessionId ≠ handle.sessionId := fun same =>
    fresh (same ▸ List.mem_map_of_mem member)
  constructor
  case returned_eq =>
    rw [returned, taken, moves, hands.returned_eq]
    simp
  case length_eq =>
    have idle := (sound.perm_idle_of_checkout taken).length_eq
    rw [List.length_cons] at idle
    rw [List.length_cons, List.length_cons, hands.length_eq]
    omega
  case distinct => exact List.nodup_cons.mpr ⟨fresh, hands.distinct⟩
  case idle =>
    refine List.forall_mem_cons.mpr ⟨⟨inUse, known⟩, fun other member => ?_⟩
    have idle := hands.idle other member
    rwa [stored, if_neg (differs member)] at idle
  case taken =>
    rw [afterwards]
    refine List.forall_mem_cons.mpr ⟨?_, hands.taken⟩
    rw [hands.left _ fresh, stored, if_pos rfl]
  case left =>
    intro sessionId others
    obtain ⟨notFirst, notLater⟩ := not_or.mp (mt List.mem_cons.mpr others)
    rw [afterwards, hands.left sessionId notLater, stored, if_neg notFirst]

end HandsOut

/-- Checkouts hand out what is idle. -/
theorem Sound.exists_handsOut (sound : pool.Sound) (choices : List Nat) :
    ∃ handed, pool.HandsOut choices handed := by
  induction choices generalizing pool with
  | nil =>
      exact ⟨[],
        { returned_eq := rfl
          length_eq := by simp
          distinct := List.nodup_nil
          idle := by simp
          taken := by simp
          left := fun _ _ => rfl }⟩
  | cons choice rest inductionHypothesis =>
      cases taken : pool.checkout choice with
      | none =>
          obtain ⟨handed, hands⟩ := inductionHypothesis sound
          exact ⟨handed, hands.cons_none taken⟩
      | some outcome =>
          obtain ⟨handle, next⟩ := outcome
          obtain ⟨_, _, stores⟩ := sound.of_checkout taken
          have nextSound : next.Sound := stores ▸ sound.store rfl
          obtain ⟨handed, hands⟩ := inductionHypothesis nextSound
          exact ⟨handle :: handed, .cons_some sound taken hands⟩

/-- Checking in what was handed out restores the pool, in any order. -/
theorem HandsOut.restores {choices : List Nat} {handed : List SessionHandle}
    (hands : pool.HandsOut choices handed) (sound : pool.Sound) {order : List String}
    (permuted : order.Perm (handed.map SessionHandle.sessionId)) :
    (pool.after (choices.map .checkout)).after (order.map .checkin) = pool := by
  refine Sound.ext ((sound.after _).after _) sound ?_ fun sessionId => ?_
  · rw [capacity_after, capacity_after]
  · rw [handle?_after_checkins]
    by_cases member : sessionId ∈ handed.map SessionHandle.sessionId
    · rw [if_pos (permuted.mem_iff.mpr member)]
      obtain ⟨handle, listed, rfl⟩ := List.mem_map.mp member
      rw [hands.taken handle listed, (hands.idle handle listed).2]
      rfl
    · rw [if_neg (mt permuted.mem_iff.mp member), hands.left sessionId member]

/-- Consecutive checkouts hand out each idle session once and none other.  Take any history of a new
pool of any capacity and any number of checkouts after it, whatever they choose.  As many of the
first ones as there are idle sessions succeed and all others return nothing; what they return are
idle sessions, no two of them the same, each with its target and marked as in use; the pool holds
these as they were returned and all others as they were.  Checking in the returned ones restores the
pool, in any order, and checking in an unknown session changes nothing.  And in whatever order the
sessions are offered to a checkout, the first idle one is what it hands out by some choice. -/
theorem checkouts_exhaust_idle (capacity : Nat) (history : List Operation) (choices : List Nat) :
    let pool := Pool.after { capacity } history
    (∃ handed, pool.HandsOut choices handed ∧
      ∀ order : List String, order.Perm (handed.map SessionHandle.sessionId) →
        (pool.after (choices.map .checkout)).after (order.map .checkin) = pool) ∧
    (∀ sessionId, pool.handle? sessionId = none → pool.checkin sessionId = pool) ∧
    ∀ order : List SessionHandle, order.Perm (pool.sessions.entries.map Prod.snd) →
      ∃ choice, (pool.checkout choice).map Prod.fst =
        (order.find? (!·.inUse)).map fun handle => { handle with inUse := true } := by
  intro pool
  have sound : pool.Sound := (Sound.new capacity).after history
  obtain ⟨handed, hands⟩ := sound.exists_handsOut choices
  refine ⟨⟨handed, hands, fun order permuted => hands.restores sound permuted⟩, ?_, ?_⟩
  · intro sessionId unknown
    exact checkin_eq_of_unknown unknown
  · intro order offered
    exact exists_checkout_of_order offered

/-- Three sessions, one of which is handed out. -/
def twoIdle : List Operation :=
  [.register { sessionId := "s1", targetId := "T1" },
    .register { sessionId := "s2", targetId := "T2" },
    .register { sessionId := "s3", targetId := "T3" }, .checkout 0]

/-- Of three checkouts the first two succeed, the later session first, and both sessions can be
checked in again. -/
theorem two_idle_handed_out :
    let pool := Pool.after { capacity := 3 } twoIdle
    pool.returned [1, 0, 0] =
        [some { sessionId := "s3", targetId := "T3", inUse := true },
          some { sessionId := "s2", targetId := "T2", inUse := true }, none] ∧
      (pool.after ([1, 0, 0].map .checkout)).after (["s2", "s3"].map .checkin) = pool ∧
      pool.checkin "s4" = pool := by
  intro pool
  obtain ⟨⟨handed, hands, restores⟩, unknown, _⟩ := checkouts_exhaust_idle 3 twoIdle [1, 0, 0]
  have two : handed.length = 2 := hands.length_eq.trans rfl
  obtain ⟨first, second, rfl⟩ := List.length_eq_two.mp two
  have listed := hands.returned_eq
  cases listed
  exact ⟨rfl, restores ["s2", "s3"] (.swap _ _ _), unknown "s4" rfl⟩

end Dialogue.Pool
