import Gatehouse.Proofs.Keyed
import Gatehouse.Proofs.Limit.Enforcing
import Mathlib.Data.List.Chain

/-!
# Buckets of different clients

All clients share one list of buckets, and every check sweeps and changes it. A client that does not
stay away for longer than a bucket is kept is answered nevertheless as if it asked alone. Its bucket
lets as many requests through as the burst allows, and no other one before a period is over.
-/

namespace Gatehouse.Limit

variable {q : Quota} {bs : Buckets} {client other : String} {now : Nat}

/-! ### One check -/

theorem fst_check (q : Quota) (bs : Buckets) (client : String) (now : Nat) :
    (check (some q) bs client now).1
      = (((Keyed.get? client (bs.sweep now)).getD (.fresh q now)).check q now).1 := rfl

theorem get?_check_self (q : Quota) (bs : Buckets) (client : String) (now : Nat) :
    Keyed.get? client (check (some q) bs client now).2
      = some (((Keyed.get? client (bs.sweep now)).getD (.fresh q now)).check q now).2 :=
  Keyed.get?_insert_self client _ _

theorem get?_check_of_ne (h : other ≠ client) (q : Quota) (bs : Buckets) (now : Nat) :
    Keyed.get? other (check (some q) bs client now).2 = Keyed.get? other (bs.sweep now) :=
  Keyed.get?_insert_of_ne h _ _

theorem lastSeen_check (q : Quota) (b : Bucket) (now : Nat) : (b.check q now).2.lastSeen = now := by
  unfold Bucket.check
  dsimp only
  split <;> rfl

/-! ### Clients that are not forgotten -/

/-- Times between which no bucket is forgotten. -/
def Steady (times : List Nat) : Prop :=
  times.IsChain fun earlier later => later - earlier ≤ idleLimit

/-- When a client was last seen, and the times at which it asks after that. -/
def visits (bs : Buckets) (client : String) (times : List Nat) : List Nat :=
  ((Keyed.get? client bs).map Bucket.lastSeen).toList ++ times

theorem visits_of_get?_none (h : Keyed.get? client bs = none) (times : List Nat) :
    visits bs client times = times := by
  rw [visits, h]
  rfl

theorem visits_of_get?_some {b : Bucket} (h : Keyed.get? client bs = some b) (times : List Nat) :
    visits bs client times = b.lastSeen :: times := by
  rw [visits, h]
  rfl

theorem steady_visits_nil (bs : Buckets) (client : String) : Steady (visits bs client []) := by
  cases h : Keyed.get? client bs with
  | none =>
    rw [visits_of_get?_none h]
    exact .nil
  | some b =>
    rw [visits_of_get?_some h]
    exact .singleton _

/-- A sweep spares the bucket of a client that will ask again soon enough. -/
theorem get?_sweep {next : Nat} {times : List Nat}
    (hsteady : Steady (visits bs client (next :: times))) (hnow : now ≤ next) :
    Keyed.get? client (bs.sweep now) = Keyed.get? client bs := by
  cases h : Keyed.get? client bs with
  | none =>
    apply Keyed.get?_eq_none_iff.mpr
    intro hmem
    obtain ⟨p, hp, hkey⟩ := List.mem_map.mp hmem
    exact Keyed.get?_eq_none_iff.mp h (List.mem_map.mpr ⟨p, List.mem_of_mem_filter hp, hkey⟩)
  | some b =>
    rw [visits_of_get?_some h] at hsteady
    obtain ⟨hgap, -⟩ := List.isChain_cons_cons.mp hsteady
    apply Keyed.get?_filter_of_keep h
    apply decide_eq_true
    show now - b.lastSeen ≤ idleLimit
    omega

/-! ### One client among others -/

def requestsOf (client : String) (requests : List (String × Nat)) : List (String × Nat) :=
  requests.filter fun request => request.1 = client

def timesOf (client : String) (requests : List (String × Nat)) : List Nat :=
  (requestsOf client requests).map Prod.snd

def answersTo (client : String) (requests : List (String × Nat)) (answers : List Admission) :
    List Admission :=
  ((requests.zip answers).filter fun answered => answered.1.1 = client).map Prod.snd

theorem timesOf_cons_self (client : String) (now : Nat) (requests : List (String × Nat)) :
    timesOf client ((client, now) :: requests) = now :: timesOf client requests := by
  simp [timesOf, requestsOf]

theorem timesOf_cons_of_ne (h : other ≠ client) (now : Nat) (requests : List (String × Nat)) :
    timesOf client ((other, now) :: requests) = timesOf client requests := by
  simp [timesOf, requestsOf, h]

theorem timesOf_requestsOf (client : String) (requests : List (String × Nat)) :
    timesOf client (requestsOf client requests) = timesOf client requests := by
  rw [timesOf, requestsOf, requestsOf, List.filter_filter]
  simp only [Bool.and_self]
  rfl

theorem answersTo_cons_self (client : String) (now : Nat) (requests : List (String × Nat))
    (answer : Admission) (answers : List Admission) :
    answersTo client ((client, now) :: requests) (answer :: answers)
      = answer :: answersTo client requests answers := by
  simp [answersTo]

theorem answersTo_cons_of_ne (h : other ≠ client) (now : Nat) (requests : List (String × Nat))
    (answer : Admission) (answers : List Admission) :
    answersTo client ((other, now) :: requests) (answer :: answers)
      = answersTo client requests answers := by
  simp [answersTo, h]

/-- To a client that asks alone all answers go. -/
theorem answersTo_requestsOf (quota : Option Quota) (bs : Buckets) (client : String)
    (requests : List (String × Nat)) :
    answersTo client (requestsOf client requests) (run quota bs (requestsOf client requests)).1
      = (run quota bs (requestsOf client requests)).1 := by
  induction requests generalizing bs with
  | nil => rfl
  | cons request rest ih =>
    obtain ⟨other, now⟩ := request
    by_cases h : other = client
    · subst h
      have hown : requestsOf other ((other, now) :: rest) = (other, now) :: requestsOf other rest := by
        simp [requestsOf]
      rw [hown, run, answersTo_cons_self, ih]
    · have hskip : requestsOf client ((other, now) :: rest) = requestsOf client rest := by
        simp [requestsOf, h]
      rw [hskip, ih]

/-- The answers of one bucket, which the first request makes where there is none. -/
def Bucket.answers (q : Quota) : Option Bucket → List Nat → List Admission
  | _, [] => []
  | b, now :: times =>
    let (answer, next) := (b.getD (.fresh q now)).check q now
    answer :: answers q (some next) times

theorem Bucket.answers_cons (q : Quota) (b : Option Bucket) (now : Nat) (times : List Nat) :
    answers q b (now :: times)
      = ((b.getD (.fresh q now)).check q now).1
        :: answers q (some ((b.getD (.fresh q now)).check q now).2) times := rfl

/-- A client is answered by its bucket alone. The induction is on the requests of all clients: those
of others only sweep, and none of them forgets a client that will still ask. -/
theorem answersTo_run (q : Quota) (bs : Buckets) {requests : List (String × Nat)}
    (hsorted : requests.Pairwise fun a b => a.2 ≤ b.2)
    (hsteady : Steady (visits bs client (timesOf client requests))) :
    answersTo client requests (run (some q) bs requests).1
      = Bucket.answers q (Keyed.get? client bs) (timesOf client requests) := by
  induction requests generalizing bs with
  | nil => rfl
  | cons request rest ih =>
    obtain ⟨asking, now⟩ := request
    obtain ⟨hlater, hrest⟩ := List.pairwise_cons.mp hsorted
    by_cases hsame : asking = client
    · subst hsame
      rw [timesOf_cons_self] at hsteady ⊢
      have hkept := get?_sweep hsteady (Nat.le_refl now)
      have hself := get?_check_self q bs asking now
      have hnext : Steady (visits (check (some q) bs asking now).2 asking (timesOf asking rest)) := by
        rw [visits_of_get?_some hself, lastSeen_check]
        exact List.IsChain.right_of_append hsteady
      rw [run, answersTo_cons_self, ih _ hrest hnext, hself, fst_check, hkept, Bucket.answers_cons]
    · have hclient : client ≠ asking := Ne.symm hsame
      have hothers := get?_check_of_ne hclient q bs now
      rw [timesOf_cons_of_ne hsame] at hsteady ⊢
      rw [run, answersTo_cons_of_ne hsame]
      cases htimes : timesOf client rest with
      | nil =>
        -- the client may be forgotten now, but it will not ask again
        have hnext := steady_visits_nil (check (some q) bs asking now).2 client
        rw [← htimes] at hnext
        rw [ih _ hrest hnext, htimes, Bucket.answers, Bucket.answers]
      | cons next times =>
        have hnow : now ≤ next := by
          have hmem : next ∈ timesOf client rest := htimes ▸ List.mem_cons_self
          obtain ⟨request, hrequest, rfl⟩ := List.mem_map.mp hmem
          exact hlater request (List.mem_of_mem_filter hrequest)
        rw [htimes] at hsteady
        have hkept := get?_sweep hsteady hnow
        have hnext : Steady (visits (check (some q) bs asking now).2 client (timesOf client rest)) := by
          rw [visits, hothers, hkept, htimes]
          exact hsteady
        rw [ih _ hrest hnext, hothers, hkept, htimes]

/-! ### One period -/

/-- The bucket of a client that has been let through `count` times within a period of its first
request at `first`. -/
def Bucket.spent (q : Quota) (first count lastSeen : Nat) : Bucket :=
  ⟨first + (count + 1) * q.period, lastSeen⟩

section Window

variable {first count : Nat}

theorem one_le_wholeSeconds (nanos : Nat) : 1 ≤ wholeSeconds nanos :=
  Nat.le_max_left _ _

theorem Bucket.check_spent_of_lt (seen : Nat) (hcount : count < q.burst) (hfirst : first ≤ now)
    (hnow : now < first + q.period) :
    (spent q first count seen).check q now = (.allowed, spent q first (count + 1) now) := by
  have hmul : (count + 1) * q.period ≤ q.period * q.burst := by
    rw [Nat.mul_comm q.period]
    exact Nat.mul_le_mul_right _ hcount
  have hone : q.period ≤ (count + 1) * q.period := Nat.le_mul_of_pos_left _ (Nat.succ_pos count)
  have hadd : (count + 1 + 1) * q.period = (count + 1) * q.period + q.period := Nat.succ_mul _ _
  have hnot : ¬now < (spent q first count seen).arrival - q.tolerance := by
    show ¬now < first + (count + 1) * q.period - q.period * q.burst
    omega
  have hmax : max (spent q first count seen).arrival now = first + (count + 1) * q.period := by
    apply Nat.max_eq_left
    show now ≤ first + (count + 1) * q.period
    omega
  unfold check
  rw [if_neg hnot, hmax, spent, hadd, Nat.add_assoc]

theorem Bucket.check_spent_of_le (seen : Nat) (hcount : q.burst ≤ count)
    (hnow : now < first + q.period) :
    ∃ wait, 1 ≤ wait ∧
      (spent q first count seen).check q now = (.limited wait, spent q first count now) := by
  have hmul : q.period * q.burst ≤ count * q.period := by
    rw [Nat.mul_comm q.period]
    exact Nat.mul_le_mul_right _ hcount
  have hadd : (count + 1) * q.period = count * q.period + q.period := Nat.succ_mul _ _
  have hearly : now < (spent q first count seen).arrival - q.tolerance := by
    show now < first + (count + 1) * q.period - q.period * q.burst
    omega
  unfold check
  rw [if_pos hearly]
  exact ⟨_, one_le_wholeSeconds _, rfl⟩

/-- Within a period of the first request, as many more are let through as the burst still allows. -/
theorem Bucket.answers_spent (q : Quota) (count seen : Nat) {times : List Nat}
    (hsorted : times.Pairwise (· ≤ ·)) (hfirst : ∀ t ∈ times, first ≤ t) {i t : Nat}
    (hi : times[i]? = some t) (ht : t < first + q.period) :
    (count + i < q.burst →
      (answers q (some (spent q first count seen)) times)[i]? = some .allowed) ∧
    (q.burst ≤ count + i → ∃ wait, 1 ≤ wait ∧
      (answers q (some (spent q first count seen)) times)[i]? = some (.limited wait)) := by
  induction times generalizing count seen i with
  | nil => cases hi
  | cons now times ih =>
    obtain ⟨hlater, htimes⟩ := List.pairwise_cons.mp hsorted
    have hfrom : ∀ t ∈ times, first ≤ t := fun t ht => hfirst t (List.mem_cons_of_mem _ ht)
    have hstart : first ≤ now := hfirst now List.mem_cons_self
    have hnow : now < first + q.period := by
      have hle : now ≤ t := by
        rcases List.mem_cons.mp (List.mem_of_getElem? hi) with heq | hmem
        · omega
        · exact hlater t hmem
      omega
    rw [answers_cons, Option.getD_some]
    by_cases hcount : count < q.burst
    · rw [check_spent_of_lt seen hcount hstart hnow]
      cases i with
      | zero => exact ⟨fun _ => rfl, fun hle => absurd hle (by omega)⟩
      | succ i =>
        have hstep : count + (i + 1) = count + 1 + i := by omega
        rw [hstep]
        exact ih (count + 1) now htimes hfrom hi
    · obtain ⟨wait, hwait, hcheck⟩ := check_spent_of_le seen (Nat.le_of_not_lt hcount) hnow
      rw [hcheck]
      cases i with
      | zero => exact ⟨fun hlt => absurd hlt (by omega), fun _ => ⟨wait, hwait, rfl⟩⟩
      | succ i =>
        obtain ⟨-, hlimited⟩ := ih count now htimes hfrom hi
        exact ⟨fun hlt => absurd hlt (by omega), fun _ => hlimited (by omega)⟩

theorem Bucket.answers_none (q : Quota) (first : Nat) (times : List Nat) :
    answers q none (first :: times)
      = answers q (some (spent q first 0 first)) (first :: times) := by
  have hfresh : Bucket.fresh q first = spent q first 0 first := by
    simp [fresh, spent]
  rw [answers_cons, answers_cons, Option.getD_none, Option.getD_some, hfresh]

end Window

theorem pairwise_timesOf {requests : List (String × Nat)}
    (hsorted : requests.Pairwise fun a b => a.2 ≤ b.2) (client : String) :
    (timesOf client requests).Pairwise (· ≤ ·) :=
  List.pairwise_map.mpr (hsorted.filter _)

/-- A client that asks often enough to be remembered gets the answers that it would get alone,
whatever others ask in between, and every request is answered where a bucket can be made. Of its
requests within a period of the first one, as many as the burst are let through, and those after them
are told to wait for a second at least. -/
theorem answers_exact {rate : Float} {burst : Nat} (henabled : Quota.ofRate? rate burst = some q)
    {requests : List (String × Nat)} (hsorted : requests.Pairwise fun a b => a.2 ≤ b.2)
    (hsteady : Steady (timesOf client requests)) :
    q.burst = max 1 burst ∧ period? rate = some q.period ∧
    (q.Fits → run? (some q) [] requests = some (run (some q) [] requests)) ∧
    answersTo client requests (run (some q) [] requests).1
      = (run (some q) [] (requestsOf client requests)).1 ∧
    ∀ first later, timesOf client requests = first :: later →
      ∀ i t, (timesOf client requests)[i]? = some t → t < first + q.period →
        (i < q.burst →
          (answersTo client requests (run (some q) [] requests).1)[i]? = some .allowed) ∧
        (q.burst ≤ i → ∃ wait, 1 ≤ wait ∧
          (answersTo client requests (run (some q) [] requests).1)[i]?
            = some (.limited wait)) := by
  obtain ⟨period, hperiod, rfl⟩ := Option.map_eq_some_iff.mp henabled
  have hanswers := answersTo_run ⟨period, max 1 burst⟩ [] hsorted hsteady
  refine ⟨rfl, hperiod, fun hfits => run?_eq_some_run hfits [] requests, ?alone, ?window⟩
  case alone =>
    have hown : (requestsOf client requests).Pairwise fun a b => a.2 ≤ b.2 := hsorted.filter _
    have hsteady' : Steady (timesOf client (requestsOf client requests)) := by
      rw [timesOf_requestsOf]
      exact hsteady
    have halone := answersTo_run ⟨period, max 1 burst⟩ [] hown hsteady'
    rw [answersTo_requestsOf, timesOf_requestsOf] at halone
    rw [hanswers, halone]
  case window =>
    intro first later htimes i t hi ht
    have hordered := pairwise_timesOf hsorted client
    have hfirst : ∀ t ∈ timesOf client requests, first ≤ t := by
      rw [htimes] at hordered ⊢
      intro t ht
      rcases List.mem_cons.mp ht with rfl | hmem
      · exact Nat.le_refl t
      · exact (List.pairwise_cons.mp hordered).1 t hmem
    have hwindow := Bucket.answers_spent ⟨period, max 1 burst⟩ 0 first hordered hfirst hi ht
    rw [hanswers, Keyed.get?_nil, htimes, Bucket.answers_none, ← htimes]
    rwa [Nat.zero_add] at hwindow

/-- Two clients at once, one of which asks three times in the first second. -/
theorem answers_exact_shared :
    Quota.ofRate? 1 2 = some ⟨second, 2⟩ ∧
      answersTo "a" [("a", 0), ("b", 1), ("a", 2), ("a", 3)]
        (run (some ⟨second, 2⟩) [] [("a", 0), ("b", 1), ("a", 2), ("a", 3)]).1
          = (run (some ⟨second, 2⟩) [] [("a", 0), ("a", 2), ("a", 3)]).1 ∧
      ∃ wait, 1 ≤ wait ∧
        (run (some ⟨second, 2⟩) [] [("a", 0), ("a", 2), ("a", 3)]).1[2]? = some (.limited wait) := by
  have hquota : Quota.ofRate? 1 2 = some ⟨second, 2⟩ := by decide +kernel
  have hsorted : [("a", 0), ("b", 1), ("a", 2), ("a", 3)].Pairwise fun a b => a.2 ≤ b.2 := by
    decide
  have htimes : timesOf "a" [("a", 0), ("b", 1), ("a", 2), ("a", 3)] = [0, 2, 3] := by decide
  have hsteady : Steady (timesOf "a" [("a", 0), ("b", 1), ("a", 2), ("a", 3)]) := by
    rw [htimes]
    simp [Steady, idleLimit, second]
  obtain ⟨-, -, -, halone, hwindow⟩ := answers_exact hquota hsorted hsteady
  obtain ⟨-, hlimited⟩ := hwindow 0 [2, 3] htimes 2 3 (by rw [htimes]; rfl) (by decide)
  have hown : requestsOf "a" [("a", 0), ("b", 1), ("a", 2), ("a", 3)]
      = [("a", 0), ("a", 2), ("a", 3)] := by decide
  rw [hown] at halone
  rw [halone] at hlimited
  exact ⟨hquota, halone, hlimited (Nat.le_refl 2)⟩

end Gatehouse.Limit
