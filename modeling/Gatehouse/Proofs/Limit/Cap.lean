import Gatehouse.Limit.Permits
import Mathlib.Data.List.Induction

/-!
# The cap on permits

In every schedule the number of connections is the number of permits that are held, so the cap is never
passed and a permit that is given back never takes the number below zero. The invariant is that a call
that is about to swap knows a number below the cap, however old it is: the swap succeeds only where
that number is still the right one. A call is refused on a number that was the right one at some
moment while it was asking. Where no two operations overlap, what is left is `Connections`.
-/

namespace Gatehouse.Permits

variable {words max : Nat} {p : Permits} {moves : List Move} {i : Nat} {stage : Stage}

/-! ### Words -/

theorem raised_of_lt {n : Nat} (h : n + 1 < words) : raised words n = n + 1 :=
  Nat.mod_eq_of_lt h

theorem lowered_of_pos {n : Nat} (hpos : 0 < n) (h : n < words) : lowered words n = n - 1 := by
  have hsum : n + (words - 1) = n - 1 + words := by omega
  rw [lowered, hsum, Nat.add_mod_right, Nat.mod_eq_of_lt (by omega)]

/-! ### One turn of one call -/

section Turn

variable {c : Connections} {seen : Nat}

theorem next_looked_of_le (h : c.max ≤ seen) (words : Nat) (fails : Bool) :
    next words fails c (.looked seen) = (c, .refused) := by
  rw [next, if_pos h]

theorem next_looked_of_lt (h : seen < c.max) (words : Nat) (fails : Bool) :
    next words fails c (.looked seen) = (c, .trying seen) := by
  rw [next, if_neg (Nat.not_le.mpr h)]

theorem next_trying_of_hit (words : Nat) (c : Connections) :
    next words false c (.trying c.active)
      = ({ c with active := raised words c.active }, .taken c.active) := by
  rw [next, if_pos ⟨rfl, rfl⟩]

theorem next_trying_of_miss {fails : Bool} (h : ¬(c.active = seen ∧ fails = false)) (words : Nat) :
    next words fails c (.trying seen) = (c, .looked c.active) := by
  rw [next, if_neg h]

end Turn

/-! ### One move -/

theorem run_append (words max : Nat) (moves more : List Move) :
    run words max (moves ++ more) = more.foldl (step words) (run words max moves) := by
  rw [run, List.foldl_append]
  rfl

theorem run_concat (words max : Nat) (moves : List Move) (m : Move) :
    run words max (moves ++ [m]) = (run words max moves).step words m :=
  run_append words max moves [m]

theorem step_turn (h : p.calls[i]? = some stage) (words : Nat) (fails : Bool) :
    p.step words (.turn i fails)
      = ⟨(next words fails p.shared stage).1,
          p.calls.set i (next words fails p.shared stage).2⟩ := by
  rw [step, h]

theorem step_turn_of_none (h : p.calls[i]? = none) (words : Nat) (fails : Bool) :
    p.step words (.turn i fails) = p := by
  rw [step, h]

theorem calls_step_turn (h : p.calls[i]? = some stage) (words : Nat) (fails : Bool) (j : Nat) :
    (p.step words (.turn i fails)).calls[j]?
      = if i = j then some (next words fails p.shared stage).2 else p.calls[j]? := by
  have hi : i < p.calls.length := (List.getElem?_eq_some_iff.mp h).1
  rw [step_turn h, List.getElem?_set]
  by_cases hij : i = j
  · rw [if_pos hij, if_pos hij, if_pos (hij ▸ hi)]
  · rw [if_neg hij, if_neg hij]

theorem calls_step_call {s : Stage} (words : Nat)
    (h : (p.step words .call).calls[i]? = some s) :
    p.calls[i]? = some s ∨ s = .called := by
  rw [step, List.getElem?_append] at h
  split at h
  · exact .inl h
  · apply Or.inr
    have hmem := List.mem_of_getElem? h
    exact List.mem_singleton.mp hmem

theorem held_step_call (words : Nat) (p : Permits) : (p.step words .call).held = p.held := by
  rw [held, step, List.countP_append]
  rfl

/-- A turn changes the number of permits that are held by what it changes for one call. -/
theorem held_step_turn (h : p.calls[i]? = some stage) (words : Nat) (fails : Bool) :
    (p.step words (.turn i fails)).held + (if stage.holds then 1 else 0)
      = p.held + if (next words fails p.shared stage).2.holds then 1 else 0 := by
  obtain ⟨hi, hstage⟩ := List.getElem?_eq_some_iff.mp h
  have hcount : (if stage.holds then 1 else 0) ≤ p.calls.countP Stage.holds := by
    split
    · next hholds =>
      apply List.one_le_countP_iff.mpr
      exact ⟨stage, List.mem_of_getElem? h, hholds⟩
    · exact Nat.zero_le _
  rw [step_turn h, held, held, List.countP_set hi, hstage]
  omega

theorem held_pos (h : p.calls[i]? = some stage) (hholds : stage.holds = true) : 0 < p.held :=
  List.countP_pos_iff.mpr ⟨stage, List.mem_of_getElem? h, hholds⟩

/-! ### The number of permits -/

/-- What every move keeps: the number is that of the permits that are held, and a swap is tried on a
number below the cap only. -/
structure IsExact (max : Nat) (p : Permits) : Prop where
  cap : p.shared.max = max
  counts : p.shared.active = p.held
  bounded : p.held ≤ max
  below : ∀ (i seen : Nat), p.calls[i]? = some (.trying seen) → seen < max

theorem lt_of_next_eq_trying {c : Connections} {fails : Bool} {seen : Nat}
    (h : (next words fails c stage).2 = .trying seen) : seen < c.max := by
  cases stage with
  | looked n =>
    by_cases hfull : c.max ≤ n
    · rw [next_looked_of_le hfull] at h
      cases h
    · rw [next_looked_of_lt (Nat.lt_of_not_le hfull)] at h
      obtain rfl := Stage.trying.inj h
      omega
  | trying n =>
    rw [next] at h
    split at h <;> cases h
  | called | taken | refused | held | dropped | gone => cases h

theorem isExact_start (max : Nat) : IsExact max (start max) where
  cap := rfl
  counts := rfl
  bounded := Nat.zero_le max
  below _ _ h := by cases h

theorem IsExact.of_turn {fails : Bool} (h : IsExact max p) (hi : p.calls[i]? = some stage)
    (hcap : (next words fails p.shared stage).1.max = p.shared.max)
    (hactive : (next words fails p.shared stage).1.active = (p.step words (.turn i fails)).held)
    (hbounded : (p.step words (.turn i fails)).held ≤ max) :
    IsExact max (p.step words (.turn i fails)) where
  cap := by
    rw [step_turn hi]
    exact hcap.trans h.cap
  counts := by
    rw [← hactive, step_turn hi]
  bounded := hbounded
  below j seen hj := by
    rw [calls_step_turn hi] at hj
    split at hj
    · exact h.cap ▸ lt_of_next_eq_trying (Option.some.inj hj)
    · exact h.below j seen hj

theorem IsExact.of_idle {fails : Bool} (h : IsExact max p) (hi : p.calls[i]? = some stage)
    (hcap : (next words fails p.shared stage).1.max = p.shared.max)
    (hactive : (next words fails p.shared stage).1.active = p.shared.active)
    (hholds : (next words fails p.shared stage).2.holds = stage.holds) :
    IsExact max (p.step words (.turn i fails)) := by
  have hheld : (p.step words (.turn i fails)).held = p.held := by
    have hturn := held_step_turn hi words fails
    rw [hholds] at hturn
    omega
  apply h.of_turn hi hcap
  · rw [hactive, hheld, h.counts]
  · rw [hheld]
    exact h.bounded

theorem isExact_turn (hmax : max < words) (h : IsExact max p) (hi : p.calls[i]? = some stage)
    (fails : Bool) : IsExact max (p.step words (.turn i fails)) := by
  have hturn := held_step_turn hi words fails
  have hcounts := h.counts
  have hbounded := h.bounded
  cases stage with
  | called | taken | refused | dropped | gone => exact h.of_idle hi rfl rfl rfl
  | looked seen =>
    apply h.of_idle hi rfl rfl
    rw [next]
    dsimp only
    split <;> rfl
  | trying seen =>
    by_cases hswap : p.shared.active = seen ∧ fails = false
    · -- the number that the call knows is the right one, and it is below the cap
      obtain ⟨rfl, rfl⟩ := hswap
      have hlt := h.below i _ hi
      have hnext := next_trying_of_hit words p.shared
      rw [raised_of_lt (by omega)] at hnext
      have hheld : (p.step words (.turn i false)).held = p.held + 1 := by
        rw [hnext] at hturn
        exact hturn
      apply h.of_turn hi
      · rw [hnext]
      · rw [hnext]
        show p.shared.active + 1 = _
        omega
      · omega
    · have hnext := next_trying_of_miss hswap words
      apply h.of_idle hi
      · rw [hnext]
      · rw [hnext]
      · rw [hnext]
        rfl
  | held =>
    have hpos := held_pos hi rfl
    have hnext : next words fails p.shared .held
        = ({ p.shared with active := p.shared.active - 1 }, .dropped p.shared.active) := by
      rw [next, lowered_of_pos (by omega) (by omega)]
    have hheld : (p.step words (.turn i fails)).held + 1 = p.held := by
      rw [hnext] at hturn
      exact hturn
    apply h.of_turn hi
    · rw [hnext]
    · rw [hnext]
      show p.shared.active - 1 = _
      omega
    · omega

theorem isExact_step (hmax : max < words) (h : IsExact max p) (m : Move) :
    IsExact max (p.step words m) := by
  cases m with
  | call =>
    have hheld := held_step_call words p
    refine ⟨h.cap, h.counts.trans hheld.symm, hheld ▸ h.bounded, fun i seen hi => ?_⟩
    rcases calls_step_call words hi with hold | hnew
    · exact h.below i seen hold
    · cases hnew
  | turn i fails =>
    cases hi : p.calls[i]? with
    | none =>
      rw [step_turn_of_none hi]
      exact h
    | some stage => exact isExact_turn hmax h hi fails

theorem isExact_run (hmax : max < words) (moves : List Move) :
    IsExact max (run words max moves) := by
  induction moves using List.reverseRecOn with
  | nil => exact isExact_start max
  | append_singleton moves m ih =>
    rw [run_concat]
    exact isExact_step hmax ih m

/-! ### Refusals -/

/-- Whether the number was `n` at some moment of a schedule at which the call was asking. -/
def Reads (words max : Nat) (moves : List Move) (i n : Nat) : Prop :=
  ∃ before after, moves = before ++ after ∧ (run words max before).shared.active = n ∧
    ∃ stage, (run words max before).calls[i]? = some stage ∧ stage.isAsking = true

theorem Reads.concat {n : Nat} (h : Reads words max moves i n) (m : Move) :
    Reads words max (moves ++ [m]) i n := by
  obtain ⟨before, after, rfl, hrest⟩ := h
  exact ⟨before, after ++ [m], by rw [List.append_assoc], hrest⟩

theorem reads_now (h : (run words max moves).calls[i]? = some stage)
    (hasking : stage.isAsking = true) (m : Move) :
    Reads words max (moves ++ [m]) i (run words max moves).shared.active :=
  ⟨moves, [m], rfl, rfl, stage, h, hasking⟩

theorem Reads.le {n : Nat} (hmax : max < words) (h : Reads words max moves i n) : n ≤ max := by
  obtain ⟨before, after, -, rfl, -⟩ := h
  have hexact := isExact_run hmax before
  rw [hexact.counts]
  exact hexact.bounded

/-- The number that a call goes by: the last one that it read, or the cap once it is refused. -/
def goesBy (max : Nat) : Stage → Option Nat
  | .looked seen => some seen
  | .trying seen => some seen
  | .refused => some max
  | _ => none

/-- After a turn a call goes by the number as before, by the one that it has just read, or by the cap
because the number that it went by was no lower. -/
theorem goesBy_next {c : Connections} {fails : Bool} {n : Nat} (hcap : c.max = max)
    (hn : goesBy max (next words fails c stage).2 = some n) :
    goesBy max stage = some n ∨ (stage.isAsking = true ∧ c.active = n) ∨
      (n = max ∧ ∃ seen, max ≤ seen ∧ goesBy max stage = some seen) := by
  cases stage with
  | called => exact .inr (.inl ⟨rfl, Option.some.inj hn⟩)
  | looked seen =>
    by_cases hfull : c.max ≤ seen
    · rw [next_looked_of_le hfull] at hn
      exact .inr (.inr ⟨(Option.some.inj hn).symm, seen, hcap ▸ hfull, rfl⟩)
    · rw [next_looked_of_lt (Nat.lt_of_not_le hfull)] at hn
      exact .inl hn
  | trying seen =>
    by_cases hswap : c.active = seen ∧ fails = false
    · obtain ⟨rfl, rfl⟩ := hswap
      rw [next_trying_of_hit] at hn
      cases hn
    · rw [next_trying_of_miss hswap] at hn
      exact .inr (.inl ⟨rfl, Option.some.inj hn⟩)
  | refused => exact .inl hn
  | taken | held | dropped | gone => cases hn

/-- A call goes by a number that was the right one while it was asking. -/
theorem reads_of_goesBy (hmax : max < words) {n : Nat}
    (h : (run words max moves).calls[i]? = some stage) (hn : goesBy max stage = some n) :
    Reads words max moves i n := by
  induction moves using List.reverseRecOn generalizing stage n with
  | nil => cases h
  | append_singleton moves m ih =>
    rw [run_concat] at h
    cases m with
    | call =>
      rcases calls_step_call words h with hold | rfl
      · exact (ih hold hn).concat .call
      · cases hn
    | turn j fails =>
      cases hj : (run words max moves).calls[j]? with
      | none =>
        rw [step_turn_of_none hj] at h
        exact (ih h hn).concat _
      | some old =>
        rw [calls_step_turn hj] at h
        by_cases hij : j = i
        · subst hij
          rw [if_pos rfl] at h
          obtain rfl := Option.some.inj h
          have hcap := (isExact_run hmax moves).cap
          rcases goesBy_next hcap hn with hsame | ⟨hasking, rfl⟩ | ⟨rfl, seen, hfull, hseen⟩
          · exact (ih hj hsame).concat _
          · exact reads_now hj hasking _
          · have hread := ih hj hseen
            have hle := hread.le hmax
            obtain rfl : seen = n := by omega
            exact hread.concat _
        · rw [if_neg hij] at h
          exact (ih h hn).concat _

/-! ### One call alone -/

/-- The turns of a call that nobody interrupts. -/
def alone (words : Nat) (c : Connections) (attempts : List Bool) : Connections × Stage :=
  attempts.foldl (fun (c, stage) fails => next words fails c stage) (c, .called)

/-- What a call has done to the number of connections when nobody interrupted it. -/
inductive Solo (c : Connections) : Connections × Stage → Prop where
  | called : Solo c (c, .called)
  | looked : Solo c (c, .looked c.active)
  | trying (free : c.active < c.max) : Solo c (c, .trying c.active)
  | refused (full : c.max ≤ c.active) : Solo c (c, .refused)
  | taken (free : c.active < c.max) :
    Solo c ({ c with active := c.active + 1 }, .taken c.active)
  | held (free : c.active < c.max) : Solo c (⟨c.max, c.active + 1, c.active + 1⟩, .held)
  | dropped (after : Connections) (before : Nat) : Solo c (after, .dropped before)
  | gone (after : Connections) : Solo c (after, .gone)

theorem Solo.next {c : Connections} {s : Connections × Stage} (hmax : c.max < words)
    (h : Solo c s) (fails : Bool) : Solo c (Permits.next words fails s.1 s.2) := by
  cases h with
  | called => exact .looked
  | looked =>
    rw [Permits.next]
    split
    · next full => exact .refused full
    · next free => exact .trying (Nat.lt_of_not_le free)
  | trying free =>
    rw [Permits.next]
    split
    · rw [raised_of_lt (by omega)]
      exact .taken free
    · exact .looked
  | refused full => exact .refused full
  | taken free =>
    rw [Permits.next, raised_of_lt (by omega)]
    exact .held free
  | held free => exact .dropped _ _
  | dropped after before => exact .gone _
  | gone after => exact .gone _

theorem solo_alone {c : Connections} (hmax : c.max < words) (attempts : List Bool) :
    Solo c (alone words c attempts) := by
  induction attempts using List.reverseRecOn with
  | nil => exact .called
  | append_singleton attempts fails ih =>
    rw [alone, List.foldl_append]
    exact ih.next hmax fails

def asking (i : Nat) (attempts : List Bool) : List Move :=
  .call :: attempts.map (.turn i)

theorem run_asking (words max : Nat) (moves : List Move) (attempts : List Bool) :
    run words max (moves ++ asking (run words max moves).calls.length attempts)
      = ⟨(alone words (run words max moves).shared attempts).1,
          (run words max moves).calls
            ++ [(alone words (run words max moves).shared attempts).2]⟩ := by
  rw [run_append]
  generalize run words max moves = p
  induction attempts using List.reverseRecOn with
  | nil => rfl
  | append_singleton attempts fails ih =>
    have hmoves : asking p.calls.length (attempts ++ [fails])
        = asking p.calls.length attempts ++ [.turn p.calls.length fails] := by
      rw [asking, List.map_append]
      rfl
    have hstands (stage : Stage) : (p.calls ++ [stage])[p.calls.length]? = some stage := by simp
    have hset (stage after : Stage) :
        (p.calls ++ [stage]).set p.calls.length after = p.calls ++ [after] := by simp
    rw [hmoves, List.foldl_append, ih, List.foldl_cons, List.foldl_nil, step_turn (hstands _), hset,
      alone, alone, List.foldl_append]
    rfl

def IsAnswered (p : Permits) (i : Nat) : Prop :=
  p.calls[i]? = some .held ∨ p.calls[i]? = some .refused

/-- The attempts of a call whose compare-and-swap fails some times for no reason. -/
def patient (failures : Nat) : List Bool :=
  [false, false] ++ (List.replicate failures [true, false]).flatten ++ [false, false]

theorem foldl_refused (words : Nat) (c : Connections) (attempts : List Bool) :
    attempts.foldl (fun (c, stage) fails => next words fails c stage) (c, .refused)
      = (c, .refused) := by
  induction attempts with
  | nil => rfl
  | cons fails attempts ih => exact ih

theorem foldl_trying {c : Connections} (h : c.active < c.max) (words failures : Nat) :
    (List.replicate failures [true, false]).flatten.foldl
      (fun (c, stage) fails => next words fails c stage) (c, .trying c.active)
      = (c, .trying c.active) := by
  have hlook := next_looked_of_lt h words false
  have hfail : next words true c (.trying c.active) = (c, .looked c.active) :=
    next_trying_of_miss (fun hswap => Bool.noConfusion hswap.2) words
  induction failures with
  | zero => rfl
  | succ failures ih =>
    rw [List.replicate_succ, List.flatten_cons, List.foldl_append, List.foldl_cons, List.foldl_cons,
      List.foldl_nil]
    dsimp only
    rw [hfail]
    dsimp only
    rw [hlook]
    exact ih

/-- A call that is not interrupted is answered once an attempt does not fail for no reason. -/
theorem alone_patient (words : Nat) (c : Connections) (failures : Nat) :
    (alone words c (patient failures)).2 = .held ∨
      (alone words c (patient failures)).2 = .refused := by
  have hlook : [false, false].foldl (fun (c, stage) fails => next words fails c stage) (c, .called)
      = (c, if c.max ≤ c.active then .refused else .trying c.active) := rfl
  rw [alone, patient, List.foldl_append, List.foldl_append, hlook]
  by_cases hfull : c.max ≤ c.active
  · rw [if_pos hfull, foldl_refused, foldl_refused]
    exact .inr rfl
  · have hswap := next_trying_of_hit words c
    rw [if_neg hfull, foldl_trying (Nat.lt_of_not_le hfull), List.foldl_cons]
    dsimp only
    rw [hswap]
    exact .inl rfl

/-! ### One operation after the other -/

/-- Schedules in which an operation ends before the next one begins. -/
inductive Serial (words max : Nat) : List Move → Prop where
  | start : Serial words max []
  | acquire {moves : List Move} (earlier : Serial words max moves) (attempts : List Bool)
    (answered : IsAnswered
      (run words max (moves ++ asking (run words max moves).calls.length attempts))
      (run words max moves).calls.length) :
    Serial words max (moves ++ asking (run words max moves).calls.length attempts)
  | release {moves : List Move} (earlier : Serial words max moves) (i : Nat)
    (holds : (run words max moves).calls[i]? = some .held) (first second : Bool) :
    Serial words max (moves ++ [.turn i first, .turn i second])

/-- Taking a permit without interruption is taking it in one step. -/
theorem shared_acquire (hmax : max < words) (moves : List Move) (attempts : List Bool)
    {after : Permits}
    (hrun : run words max (moves ++ asking (run words max moves).calls.length attempts) = after)
    (hanswered : IsAnswered after (run words max moves).calls.length) :
    (after.calls[(run words max moves).calls.length]? = some .held
      ∧ (run words max moves).shared.acquire? = some after.shared) ∨
    (after.calls[(run words max moves).calls.length]? = some .refused
      ∧ (run words max moves).shared.acquire? = none
      ∧ after.shared = (run words max moves).shared) := by
  have hcap := (isExact_run hmax moves).cap
  rw [run_asking] at hrun
  subst hrun
  have hsolo := solo_alone (c := (run words max moves).shared) (hcap ▸ hmax) attempts
  generalize alone words (run words max moves).shared attempts = s at hsolo hanswered ⊢
  obtain ⟨shared, stage⟩ := s
  have hlast : ((run words max moves).calls ++ [stage])[(run words max moves).calls.length]?
      = some stage := by simp
  unfold IsAnswered at hanswered
  rw [hlast] at hanswered ⊢
  rcases hanswered with heq | heq
  · obtain rfl := Option.some.inj heq
    cases hsolo with
    | held free => exact .inl ⟨rfl, if_neg (Nat.not_le.mpr free)⟩
  · obtain rfl := Option.some.inj heq
    cases hsolo with
    | refused full => exact .inr ⟨rfl, if_pos full, rfl⟩

/-- A call that is not interrupted gets its permit just if fewer than the cap are held. -/
theorem acquired_iff (hmax : max < words) (moves : List Move) (attempts : List Bool)
    {after : Permits}
    (hrun : run words max (moves ++ asking (run words max moves).calls.length attempts) = after)
    (hanswered : IsAnswered after (run words max moves).calls.length) :
    (after.calls[(run words max moves).calls.length]? = some .held
      ↔ (run words max moves).held < max) ∧
    after.shared = (run words max moves).shared.acquire?.getD (run words max moves).shared := by
  have hexact := isExact_run hmax moves
  have hcounts := hexact.counts
  have hcap := hexact.cap
  rcases shared_acquire hmax moves attempts hrun hanswered with
    ⟨hheld, hsome⟩ | ⟨hrefused, hnone, hsame⟩
  · have hfree : (run words max moves).held < max := by
      by_contra hfull
      rw [Connections.acquire?, if_pos (by omega)] at hsome
      cases hsome
    exact ⟨⟨fun _ => hfree, fun _ => hheld⟩, by rw [hsome, Option.getD_some]⟩
  · have hfull : ¬(run words max moves).held < max := by
      intro hfree
      rw [Connections.acquire?, if_neg (by omega)] at hnone
      cases hnone
    refine ⟨⟨fun hheld => ?_, fun hfree => absurd hfree hfull⟩, ?_⟩
    · rw [hrefused] at hheld
      cases hheld
    · rw [hnone, Option.getD_none, hsame]

/-- Giving a permit back without interruption is giving it back in one step. -/
theorem shared_release (hmax : max < words) (moves : List Move)
    (hi : (run words max moves).calls[i]? = some .held) (first second : Bool) :
    (run words max (moves ++ [.turn i first, .turn i second])).shared
      = (run words max moves).shared.release := by
  have hexact := isExact_run hmax moves
  have hpos := held_pos hi rfl
  have hcounts := hexact.counts
  have hbounded := hexact.bounded
  rw [run_append]
  generalize run words max moves = p at hi hpos hcounts hbounded ⊢
  have hlowered : lowered words p.shared.active = p.shared.active - 1 :=
    lowered_of_pos (by omega) (by omega)
  have hstands : (p.step words (.turn i first)).calls[i]? = some (.dropped p.shared.active) := by
    rw [calls_step_turn hi, if_pos rfl]
    rfl
  rw [List.foldl_cons, List.foldl_cons, List.foldl_nil, step_turn hstands, step_turn hi]
  show Connections.mk p.shared.max (lowered words p.shared.active) (p.shared.active - 1) = _
  rw [hlowered]
  rfl

/-- Between operations that do not overlap the gauge shows the number. -/
theorem Serial.gauge_eq (hmax : max < words) (h : Serial words max moves) :
    (run words max moves).shared.gauge = (run words max moves).shared.active := by
  induction h with
  | start => rfl
  | acquire earlier attempts answered ih =>
    rcases shared_acquire hmax _ attempts rfl answered with ⟨-, hsome⟩ | ⟨-, -, hsame⟩
    · rw [Connections.acquire?] at hsome
      split at hsome
      · cases hsome
      · rw [← Option.some.inj hsome]
    · rw [hsame]
      exact ih
  | release earlier i holds first second ih =>
    rw [shared_release hmax _ holds]
    rfl

/-- In every schedule, for every cap that is a word, the number of connections is that of the permits
that are held; it does not pass the cap, and it is positive where a permit is given back. A call is
refused only if the number was the cap at some moment while it was asking. Between operations that do
not overlap the gauge shows the number, and a call gets its permit just if fewer than the cap are
held; it is answered however often its compare-and-swap fails for no reason, as long as it does not
do so for ever. -/
theorem cap_exact (hmax : max < words) {moves : List Move} {p : Permits}
    (hrun : run words max moves = p) :
    (p.shared.active = p.held ∧ p.held ≤ max ∧
      ∀ i : Nat, p.calls[i]? = some .held → 0 < p.shared.active) ∧
    (∀ i : Nat, p.calls[i]? = some .refused → Reads words max moves i max) ∧
    (Serial words max moves →
      p.shared.gauge = p.shared.active ∧
      (∀ attempts after, run words max (moves ++ asking p.calls.length attempts) = after →
        IsAnswered after p.calls.length →
          (after.calls[p.calls.length]? = some .held ↔ p.held < max) ∧
          after.shared = p.shared.acquire?.getD p.shared ∧
          after.shared.gauge = after.shared.active) ∧
      (∀ failures, IsAnswered
        (run words max (moves ++ asking p.calls.length (patient failures))) p.calls.length) ∧
      ∀ (i : Nat) first second after, p.calls[i]? = some .held →
        run words max (moves ++ [.turn i first, .turn i second]) = after →
          after.shared = p.shared.release ∧ after.shared.gauge = after.shared.active) := by
  subst hrun
  have hexact := isExact_run hmax moves
  refine ⟨⟨hexact.counts, hexact.bounded, ?positive⟩, ?refused, fun hserial =>
    ⟨hserial.gauge_eq hmax, ?acquire, ?answered, ?release⟩⟩
  case positive =>
    intro i hi
    rw [hexact.counts]
    exact held_pos hi rfl
  case refused =>
    intro i hi
    exact reads_of_goesBy hmax hi rfl
  case acquire =>
    rintro attempts after rfl hanswered
    have hgauge := (hserial.acquire attempts hanswered).gauge_eq hmax
    obtain ⟨hiff, hshared⟩ := acquired_iff hmax moves attempts rfl hanswered
    exact ⟨hiff, hshared, hgauge⟩
  case answered =>
    intro failures
    rw [run_asking, IsAnswered]
    have hanswer := alone_patient words (run words max moves).shared failures
    generalize alone words (run words max moves).shared (patient failures) = s at hanswer
    simpa using hanswer
  case release =>
    rintro i first second after hi rfl
    have hgauge := (hserial.release i hi first second).gauge_eq hmax
    exact ⟨shared_release hmax moves hi first second, hgauge⟩

/-- Two calls for one permit that read the number before either swaps. The second finds its number out
of date, looks again and is refused. -/
def race : List Move :=
  [.call, .call, .turn 0 false, .turn 1 false, .turn 0 false, .turn 1 false, .turn 0 false,
    .turn 1 false, .turn 1 false]

theorem cap_exact_race :
    1 < UInt64.size ∧ run UInt64.size 1 race = ⟨⟨1, 1, 0⟩, [.taken 0, .refused]⟩ ∧
      Reads UInt64.size 1 race 1 1 := by
  have hmax : 1 < UInt64.size := by decide
  have hrun : run UInt64.size 1 race = ⟨⟨1, 1, 0⟩, [.taken 0, .refused]⟩ := by decide
  obtain ⟨-, hrefused, -⟩ := cap_exact hmax hrun
  exact ⟨hmax, hrun, hrefused 1 rfl⟩

end Gatehouse.Permits
