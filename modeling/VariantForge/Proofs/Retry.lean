import Mathlib.Data.List.Chain
import VariantForge.Proofs.Execution
import VariantForge.Retry

/-!
# Retry — what a run of attempts does

A `Call` is an attempt that was made: its number, and the worlds that its operation found and left. `Calls` says
that some calls follow each other with nothing between two of them but the warning about the failure, one wait and
the line that announces the next. `Ending` says how the run goes on from the last call, or without any. Each run
has such a course (`run_calls`), from which it follows what a run without an abort does (`run_books`) and what an
abort does to one (`run_aborted`).
-/

namespace VariantForge

open Forge

/-- The world after some events that change nothing else. -/
def World.noting (w : World) (es : List Event) : World := { w with journal := w.journal ++ es }

theorem World.noting_noting (w : World) (es es' : List Event) :
    (w.noting es).noting es' = w.noting (es ++ es') := by
  simp [noting]

@[simp] theorem World.noting_cancelled (w : World) (es : List Event) : (w.noting es).cancelled = w.cancelled := rfl

theorem Forge.runOn_words (w : World) (f : Failure) :
    runOn w (words f) = (if f.hasWords then .ok f.message else .error .noText, w) := by
  rw [words]
  split <;> rfl

namespace Retry

variable {α : Type} {o : Outside} {description : String} {p : RetryPolicy} {operation : Nat → Forge α}

/-! ## The number of attempts -/

/-- A policy with a finite number allows that many attempts, cut to a whole number and one at least. -/
theorem limit_finite {q : Rat} (hq : p.maxAttempts = .finite q) : limit p = .finite (max 1 q.floor : Int) := by
  have hone : (1 : Number) = .finite 1 := rfl
  rw [limit, hq, Number.floor, hone, Number.larger]
  · by_cases h : 1 < q.floor
    · have hless : (Number.finite 1) < .finite (q.floor : Rat) := by
        show decide _ = true
        rw [decide_eq_true_iff]
        exact_mod_cast h
      rw [if_pos hless, Int.max_eq_right (by omega)]
    · have hless : ¬ (Number.finite 1) < .finite (q.floor : Rat) := by
        show ¬ decide _ = true
        rw [decide_eq_true_iff]
        exact_mod_cast h
      rw [if_neg hless, Int.max_eq_left (by omega)]
      rfl
  · exact fun h => by cases h
  · exact fun h => by cases h

theorem more?_limit {q : Rat} (hq : p.maxAttempts = .finite q) :
    ∃ n, more? (limit p) = some n ∧ n + 1 = (max 1 q.floor).toNat := by
  refine ⟨_, by rw [limit_finite hq, more?], ?_⟩
  rw [Rat.floor_intCast]
  omega

theorem limit_eq_ofNat {q : Rat} (hq : p.maxAttempts = .finite q) : limit p = .ofNat (max 1 q.floor).toNat := by
  have hcast : ((max 1 q.floor).toNat : Int) = max 1 q.floor := Int.toNat_of_nonneg (by omega)
  rw [limit_finite hq, Number.ofNat, ← Rat.intCast_natCast, hcast]

theorem more?_eq_none_iff : more? (limit p) = none ↔ limit p = .nan := by
  cases limit p <;> simp [more?]

/-- How many attempts a policy allows, if that is a number at all. -/
def allowance (p : RetryPolicy) : Option Nat := (more? (limit p)).map (· + 1)

theorem allowance_finite {q : Rat} (hq : p.maxAttempts = .finite q) : allowance p = some (max 1 q.floor).toNat := by
  obtain ⟨more, hmore, hn⟩ := more?_limit hq
  rw [allowance, hmore, Option.map_some, hn]

theorem allowance_eq_none_iff : allowance p = none ↔ limit p = .nan := by
  rw [allowance, Option.map_eq_none_iff, more?_eq_none_iff]

/-! ## Lines of the log -/

/-- The line that announces an attempt. -/
def announcement (description : String) (p : RetryPolicy) (n : Nat) : Event :=
  .logged .info s!"attempt {n}/{(limit p).text}: {description}" none

/-- The warning that an attempt failed which is not the last one. -/
def retryWarning (description : String) (p : RetryPolicy) (n : Nat) (f : Failure) : Event :=
  .logged .warn s!"{description} failed, retrying in {((delay p).dividedBy 1000).rounded.text}s"
    (some [("attempt", .ofNat n), ("err", .text f.message)])

/-- The warning that the last attempt failed. -/
def lastWarning (description : String) (p : RetryPolicy) (f : Failure) : Event :=
  .logged .warn s!"{description} failed after {(limit p).text} attempts" (some [("err", .text f.message)])

/-- What happens between two attempts, the first of which has the number `n`. -/
def between (description : String) (p : RetryPolicy) (n : Nat) (f : Failure) : List Event :=
  [retryWarning description p n f, .waited (delay p), announcement description p (n + 1)]

/-- Whether the run is aborted before a wait ends that follows a failure. -/
def abortsWait (o : Outside) (description : String) (p : RetryPolicy) (w : World) (n : Nat) (f : Failure) : Bool :=
  w.cancelled || o.cancelsWait (w.noting [retryWarning description p n f])

theorem runOn_pause (w : World) (n : Nat) (f : Failure) :
    runOn w (pause o description p n f) =
      if f.hasWords then
        (if abortsWait o description p w n f then .error .cancelledWait else .ok (),
          { w.noting [retryWarning description p n f, .waited (delay p)] with
            cancelled := abortsWait o description p w n f })
      else (.error .noText, w) := by
  have hwait (w : World) : runOn w (wait o (delay p)) =
      (if w.cancelled || o.cancelsWait w then .error .cancelledWait else .ok (),
        { w.noting [.waited (delay p)] with cancelled := w.cancelled || o.cancelsWait w }) := runOn_wait w o (delay p)
  rw [pause]
  split
  · rename_i hf
    have hwords : runOn w (words f) = (.ok f.message, w) := by rw [runOn_words, if_pos hf]
    rw [runOn_bind_ok hwords, runOn_bind_ok (runOn_log ..), hwait]
    simp [abortsWait, retryWarning, World.noting]
  · rename_i hf
    have hwords : runOn w (words f) = (.error .noText, w) := by rw [runOn_words, if_neg hf]
    rw [runOn_bind_error hwords]

/-! ## The course of a run -/

/-- An attempt that was made: its number, and what its operation found, gave and left. -/
structure Call (α : Type) where
  number : Nat
  found : World
  result : Except Failure α
  left : World

/-- Whether a call follows another one: that one failed, and there is nothing between the two but what belongs
there. -/
def Follows (description : String) (p : RetryPolicy) (c next : Call α) : Prop :=
  ∃ f, c.result = .error f ∧ next.found = c.left.noting (between description p c.number f)

/-- Whether some calls follow each other, the first of which has the number `n` and begins in `w`; none begins
after an abort or has a greater number than is allowed. -/
structure Calls (description : String) (p : RetryPolicy) (operation : Nat → Forge α) (allowed : Option Nat) (n : Nat)
    (w : World) (cs : List (Call α)) : Prop where
  made : ∀ c ∈ cs, runOn c.found (operation c.number) = (c.result, c.left)
  live : ∀ c ∈ cs, c.found.cancelled = false
  within : ∀ c ∈ cs, ∃ k ∈ allowed, c.number ≤ k
  numbers : cs.map Call.number = List.range' n cs.length
  first : ∀ c ∈ cs.head?, c.found = w.noting [announcement description p n]
  follow : cs.IsChain (Follows description p)

/-- How a run that begins in `w` goes on after its calls. -/
inductive Ending (o : Outside) (description : String) (p : RetryPolicy) (allowed : Option Nat) (w : World)
    (cs : List (Call α)) : Except Failure (Retried α) → World → Prop where
  /-- The run was aborted before it made an attempt. -/
  | refused (hcs : cs = []) (hw : w.cancelled = true) : Ending o description p allowed w cs (.error .cancelled) w
  /-- The number of attempts is none, so there is none. -/
  | idle (hcs : cs = []) (hallowed : allowed = none) :
      Ending o description p allowed w cs (.ok (.failed (.value .null) (limit p)))
        (w.noting [lastWarning description p (.value .null)])
  /-- The last attempt succeeded. -/
  | done (c : Call α) (a : α) (hc : c ∈ cs.getLast?) (ha : c.result = .ok a) :
      Ending o description p allowed w cs (.ok (.done a c.number)) c.left
  /-- The last attempt failed, and there may be no other. -/
  | failed (c : Call α) (f : Failure) (hc : c ∈ cs.getLast?) (hf : c.result = .error f) (hwords : f.hasWords = true)
      (hallowed : allowed = some c.number) :
      Ending o description p allowed w cs (.ok (.failed f (limit p))) (c.left.noting [lastWarning description p f])
  /-- The last attempt failed, and its failure cannot be put in words. -/
  | speechless (c : Call α) (f : Failure) (hc : c ∈ cs.getLast?) (hf : c.result = .error f)
      (hwords : f.hasWords = false) : Ending o description p allowed w cs (.error .noText) c.left
  /-- The run was aborted during the last attempt or in the wait after it. -/
  | interrupted (c : Call α) (f : Failure) (hc : c ∈ cs.getLast?) (hf : c.result = .error f)
      (hallowed : ∃ k ∈ allowed, c.number < k) (habort : abortsWait o description p c.left c.number f = true) :
      Ending o description p allowed w cs (.error .cancelledWait)
        { c.left.noting [retryWarning description p c.number f, .waited (delay p)] with cancelled := true }

variable {allowed : Option Nat} {n : Nat} {w w' : World} {cs : List (Call α)} {c next : Call α}

theorem Calls.single (hmade : runOn (w.noting [announcement description p n]) (operation n) = (c.result, c.left))
    (hw : w.cancelled = false) (hallowed : ∃ k ∈ allowed, n ≤ k) (hn : c.number = n)
    (hfound : c.found = w.noting [announcement description p n]) :
    Calls description p operation allowed n w [c] where
  made := by simp [hn, hfound, hmade]
  live := by simp [hfound, hw]
  within := by simpa [hn] using hallowed
  numbers := by simp [hn]
  first := by simp [hfound]
  follow := by simp

/-- A call may come before others that begin where its failure and the wait after it lead. -/
theorem Calls.cons {f : Failure} (h : Calls description p operation allowed n w [c]) (hf : c.result = .error f)
    (hcs : Calls description p operation allowed (n + 1)
      (c.left.noting [retryWarning description p n f, .waited (delay p)]) cs) :
    Calls description p operation allowed n w (c :: cs) := by
  have hn : c.number = n := by simpa using h.numbers
  refine ⟨?_, ?_, ?_, ?_, ?_, ?_⟩
  · exact List.forall_mem_cons.2 ⟨h.made c (by simp), hcs.made⟩
  · exact List.forall_mem_cons.2 ⟨h.live c (by simp), hcs.live⟩
  · exact List.forall_mem_cons.2 ⟨h.within c (by simp), hcs.within⟩
  · rw [List.map_cons, hcs.numbers, hn, List.length_cons, List.range'_succ]
  · simpa using h.first
  · refine List.isChain_cons.2 ⟨fun next hnext => ⟨f, hf, ?_⟩, hcs.follow⟩
    rw [hcs.first next hnext, World.noting_noting, hn]
    rfl

/-- What a run comes to after some calls it comes to after one more before them. -/
theorem Ending.cons {r : Except Failure (Retried α)}
    (h : Ending o description p allowed w cs r w') (hcs : cs ≠ []) {w₀ : World} :
    Ending o description p allowed w₀ (c :: cs) r w' := by
  have hlast : (c :: cs).getLast? = cs.getLast? := by
    cases cs with
    | nil => exact absurd rfl hcs
    | cons next rest => rw [List.getLast?_cons_cons]
  cases h with
  | refused h => exact absurd h hcs
  | idle h => exact absurd h hcs
  | done c a hc ha => exact .done c a (hlast ▸ hc) ha
  | failed c f hc hf hwords hallowed => exact .failed c f (hlast ▸ hc) hf hwords hallowed
  | speechless c f hc hf hwords => exact .speechless c f (hlast ▸ hc) hf hwords
  | interrupted c f hc hf hallowed habort => exact .interrupted c f (hlast ▸ hc) hf hallowed habort

/-- What a run makes of its attempts. -/
def settle (description : String) (p : RetryPolicy) : Except Failure (α × Nat) → Forge (Retried α)
  | .ok (a, attempts) => pure (.done a attempts)
  | .error f => do
    log .warn s!"{description} failed after {(limit p).text} attempts" (some [("err", .text (← words f))])
    return .failed f (limit p)

theorem run_of_some {more : Nat} (h : more? (limit p) = some more) :
    run o description p operation = tryFrom o description p operation more 1 >>= settle description p := by
  rw [run, h]
  show tryFrom o description p operation more 1 >>= _ = _
  refine congrArg _ (funext fun outcome => ?_)
  rcases outcome with f | ⟨a, attempts⟩ <;> rfl

theorem run_of_none (h : more? (limit p) = none) :
    run o description p operation = settle description p (.error (.value .null)) := by
  rw [run, h]
  rfl

theorem runOn_settle_error (w : World) (f : Failure) :
    runOn w (settle (α := α) description p (.error f)) =
      if f.hasWords then (.ok (.failed f (limit p)), w.noting [lastWarning description p f])
      else (.error .noText, w) := by
  rw [settle]
  split
  · rename_i hf
    have hwords : runOn w (words f) = (.ok f.message, w) := by rw [runOn_words, if_pos hf]
    rw [runOn_bind_ok hwords, runOn_bind_ok (runOn_log ..)]
    rfl
  · rename_i hf
    have hwords : runOn w (words f) = (.error .noText, w) := by rw [runOn_words, if_neg hf]
    rw [runOn_bind_error hwords]

/-- The world in which the operation of an attempt begins. -/
def announced (description : String) (p : RetryPolicy) (n : Nat) (w : World) : World :=
  w.noting [announcement description p n]

theorem runOn_tryFrom (hw : w.cancelled = false) (more n : Nat) :
    runOn w (tryFrom o description p operation more n) =
      match runOn (announced description p n w) (operation n), more with
      | (.ok a, w₁), _ => (.ok (.ok (a, n)), w₁)
      | (.error f, w₁), 0 => (.ok (.error f), w₁)
      | (.error f, w₁), more + 1 => runOn w₁ (do
          pause o description p n f
          tryFrom o description p operation more (n + 1)) := by
  have hcheck : runOn w checkCancelled = (.ok (), w) := by
    rw [runOn_checkCancelled, hw]
    rfl
  have hlog : runOn w (log .info s!"attempt {n}/{(limit p).text}: {description}") =
      (.ok (), announced description p n w) := runOn_log ..
  rw [tryFrom, runOn_bind_ok hcheck, runOn_bind_ok hlog, runOn_bind_ok (runOn_attempt ..)]
  rcases runOn (announced description p n w) (operation n) with ⟨f | a, w₁⟩
  · cases more <;> rfl
  · rfl

theorem runOn_pause_wordless {f : Failure} (hf : f.hasWords = false) (w : World) (n : Nat) :
    runOn w (pause o description p n f) = (.error .noText, w) := by
  rw [runOn_pause, if_neg (by simp [hf])]

theorem runOn_pause_aborted {f : Failure} (hf : f.hasWords = true) (habort : abortsWait o description p w n f = true) :
    runOn w (pause o description p n f) = (.error .cancelledWait,
      { w.noting [retryWarning description p n f, .waited (delay p)] with cancelled := true }) := by
  rw [runOn_pause, if_pos hf, if_pos habort, habort]

theorem runOn_pause_over {f : Failure} (hf : f.hasWords = true) (habort : abortsWait o description p w n f = false) :
    runOn w (pause o description p n f) =
      (.ok (), w.noting [retryWarning description p n f, .waited (delay p)]) := by
  have hw : w.cancelled = false := (Bool.or_eq_false_iff.1 habort).1
  rw [runOn_pause, if_pos hf, if_neg (by simp [habort]), habort, ← hw]
  rfl

/-- Whether a run that goes on with the attempt `n` makes a call, and then others, and ends as a run may. -/
def HasCourse (o : Outside) (description : String) (p : RetryPolicy) (operation : Nat → Forge α)
    (allowed : Option Nat) (n : Nat) (w : World) (x : Forge (Retried α)) : Prop :=
  ∃ cs, cs ≠ [] ∧ Calls description p operation allowed n w cs ∧
    Ending o description p allowed w cs (runOn w x).1 (runOn w x).2

theorem tryFrom_course_done {a : α} {w₁ : World} (more : Nat) (hw : w.cancelled = false)
    (hx : runOn (announced description p n w) (operation n) = (.ok a, w₁)) :
    HasCourse o description p operation (some (n + more)) n w
      (tryFrom o description p operation more n >>= settle description p) := by
  have htry : runOn w (tryFrom o description p operation more n) = (.ok (.ok (a, n)), w₁) := by
    rw [runOn_tryFrom hw, hx]
  let c : Call α := ⟨n, announced description p n w, .ok a, w₁⟩
  refine ⟨[c], by simp, .single hx hw ⟨_, rfl, by omega⟩ rfl rfl, ?_⟩
  rw [runOn_bind_ok htry]
  exact .done c a rfl rfl

theorem tryFrom_course_last {f : Failure} {w₁ : World} (hw : w.cancelled = false)
    (hx : runOn (announced description p n w) (operation n) = (.error f, w₁)) :
    HasCourse o description p operation (some n) n w
      (tryFrom o description p operation 0 n >>= settle description p) := by
  have htry : runOn w (tryFrom o description p operation 0 n) = (.ok (.error f), w₁) := by
    rw [runOn_tryFrom hw, hx]
  let c : Call α := ⟨n, announced description p n w, .error f, w₁⟩
  refine ⟨[c], by simp, .single hx hw ⟨_, rfl, by omega⟩ rfl rfl, ?_⟩
  rw [runOn_bind_ok htry, runOn_settle_error]
  split
  · rename_i hf
    exact .failed c f rfl rfl hf rfl
  · rename_i hf
    exact .speechless c f rfl rfl (by simpa using hf)

/-- After a failure that is not the last one the run ends in the pause, or goes on with the next attempt. -/
theorem tryFrom_course_again {f : Failure} {w₁ : World} (more : Nat) (hw : w.cancelled = false)
    (hx : runOn (announced description p n w) (operation n) = (.error f, w₁))
    (hrest : ∀ {w : World}, w.cancelled = false →
      HasCourse o description p operation (some (n + 1 + more)) (n + 1) w
        (tryFrom o description p operation more (n + 1) >>= settle description p)) :
    HasCourse o description p operation (some (n + (more + 1))) n w
      (tryFrom o description p operation (more + 1) n >>= settle description p) := by
  have hgo : runOn w (tryFrom o description p operation (more + 1) n >>= settle description p) = runOn w₁ (do
      pause o description p n f
      tryFrom o description p operation more (n + 1) >>= settle description p) := by
    rw [runOn_bind, runOn_tryFrom hw, hx, ← bind_assoc, runOn_bind w₁]
  let c : Call α := ⟨n, announced description p n w, .error f, w₁⟩
  have hc : Calls description p operation (some (n + (more + 1))) n w [c] :=
    .single hx hw ⟨_, rfl, by omega⟩ rfl rfl
  rw [HasCourse, hgo]
  cases hf : f.hasWords with
  | false =>
    -- the warning cannot be written, so there is no wait
    refine ⟨[c], by simp, hc, ?_⟩
    rw [runOn_bind_error (runOn_pause_wordless hf w₁ n)]
    exact .speechless c f rfl rfl hf
  | true =>
    cases habort : abortsWait o description p w₁ n f with
    | true =>
      refine ⟨[c], by simp, hc, ?_⟩
      rw [runOn_bind_error (runOn_pause_aborted hf habort)]
      exact .interrupted c f rfl rfl ⟨_, rfl, by simp [c]⟩ habort
    | false =>
      have hw₁ : w₁.cancelled = false := (Bool.or_eq_false_iff.1 habort).1
      rw [runOn_bind_ok (runOn_pause_over hf habort)]
      obtain ⟨cs, hne, hcs, hend⟩ := hrest (w := w₁.noting _) hw₁
      rw [Nat.add_right_comm] at hcs hend
      exact ⟨c :: cs, by simp, hc.cons rfl hcs, hend.cons hne⟩

/-- From an attempt on that is not refused a run has its course. The induction is on how many others may follow. -/
theorem tryFrom_course (more n : Nat) (hw : w.cancelled = false) :
    HasCourse o description p operation (some (n + more)) n w
      (tryFrom o description p operation more n >>= settle description p) := by
  induction more generalizing n w with
  | zero =>
    rcases hx : runOn (announced description p n w) (operation n) with ⟨f | a, w₁⟩
    · exact tryFrom_course_last hw hx
    · exact tryFrom_course_done 0 hw hx
  | succ more ih =>
    rcases hx : runOn (announced description p n w) (operation n) with ⟨f | a, w₁⟩
    · exact tryFrom_course_again more hw hx (ih (n + 1))
    · exact tryFrom_course_done (more + 1) hw hx

/-- Each run of attempts has its course: its calls follow each other as they should, and it ends as a run may after
them. -/
theorem run_calls (o : Outside) (description : String) (p : RetryPolicy) (operation : Nat → Forge α) (w : World) :
    ∃ cs, Calls description p operation (allowance p) 1 w cs ∧
      Ending o description p (allowance p) w cs (runOn w (run o description p operation)).1
        (runOn w (run o description p operation)).2 := by
  have hnone : Calls description p operation (allowance p) 1 w [] := by
    constructor <;> simp
  have hnull : (Failure.value .null).hasWords = true := rfl
  cases hmore : more? (limit p) with
  | none =>
    refine ⟨[], hnone, ?_⟩
    rw [run_of_none hmore, runOn_settle_error, if_pos hnull, allowance, hmore]
    exact .idle rfl rfl
  | some more =>
    have hallowed : allowance p = some (1 + more) := by rw [allowance, hmore, Option.map_some, Nat.add_comm]
    rw [run_of_some hmore]
    cases hw : w.cancelled with
    | true =>
      have hrefused : runOn w (tryFrom o description p operation more 1) = (.error .cancelled, w) := by
        rw [tryFrom, runOn_bind_error]
        rw [runOn_checkCancelled, hw]
        rfl
      -- `tryFrom_course` is about attempts that are not refused, so this case stands apart
      refine ⟨[], hnone, ?_⟩
      rw [runOn_bind_error hrefused]
      exact .refused rfl hw
    | false =>
      have hcourse : HasCourse o description p operation (some (1 + more)) 1 w
          (tryFrom o description p operation more 1 >>= settle description p) := tryFrom_course more 1 hw
      obtain ⟨cs, -, hcs, hend⟩ := hcourse
      rw [← hallowed] at hcs hend
      exact ⟨cs, hcs, hend⟩

/-! ## Runs without an abort, and runs with one -/

theorem Calls.number_last (h : Calls description p operation allowed 1 w cs) (hc : c ∈ cs.getLast?) :
    c.number = cs.length := by
  have hlast : (cs.map Call.number).getLast? = some c.number := by rw [List.getLast?_map, hc, Option.map_some]
  rw [h.numbers, List.getLast?_range'] at hlast
  split at hlast
  · cases hlast
  · rename_i hne
    have : 1 + cs.length - 1 = c.number := by simpa using hlast
    omega

/-- If it is never aborted and failures have words, a run of a policy with a finite number calls its operation up to
`N` times, in order and with nothing between two calls but the warning, one wait and the line of the next; it gives
the value of the last call if that succeeded, or else the failure of call `N`, of which it warns. -/
theorem run_books {q : Rat} (hq : p.maxAttempts = .finite q) (hw : w.cancelled = false)
    (hwaits : ∀ w, o.cancelsWait w = false) (hop : ∀ n, Keeps (fun w => w.cancelled = false) (operation n))
    (hwords : ∀ n w f, (runOn w (operation n)).1 = .error f → f.hasWords = true) :
    limit p = .ofNat (max 1 q.floor).toNat ∧
    ∃ cs, Calls description p operation (some (max 1 q.floor).toNat) 1 w cs ∧
      ∃ c ∈ cs.getLast?, c.number = cs.length ∧
        ((∃ a, c.result = .ok a ∧
            runOn w (run o description p operation) = (.ok (.done a cs.length), c.left)) ∨
          ∃ f, c.result = .error f ∧ cs.length = (max 1 q.floor).toNat ∧
            runOn w (run o description p operation) =
              (.ok (.failed f (.ofNat (max 1 q.floor).toNat)), c.left.noting [lastWarning description p f])) := by
  refine ⟨limit_eq_ofNat hq, ?_⟩
  obtain ⟨cs, hcs, hend⟩ := run_calls o description p operation w
  rw [allowance_finite hq] at hcs hend
  have hleft : ∀ c ∈ cs.getLast?, c.left.cancelled = false := by
    intro c hc
    have hmem : c ∈ cs := List.mem_of_getLast? hc
    have hkept := hop c.number c.found (hcs.live c hmem)
    rwa [hcs.made c hmem] at hkept
  have hspeaks : ∀ c ∈ cs.getLast?, ∀ f, c.result = .error f → f.hasWords = true := by
    intro c hc f hf
    refine hwords c.number c.found f ?_
    rw [hcs.made c (List.mem_of_getLast? hc), hf]
  refine ⟨cs, hcs, ?_⟩
  rcases hrun : runOn w (run o description p operation) with ⟨r, w'⟩
  rw [hrun] at hend
  -- of the ways that a run can go on, two need an abort, one no number of attempts, and one a failure without words
  cases hend with
  | refused _ h => exact absurd (hw.symm.trans h) (by decide)
  | idle _ h => cases h
  | done c a hc ha => exact ⟨c, hc, hcs.number_last hc, .inl ⟨a, ha, by rw [hcs.number_last hc]⟩⟩
  | failed c f hc hf _ hallowed =>
    have hn : cs.length = (max 1 q.floor).toNat := by
      rw [← hcs.number_last hc]
      exact (Option.some.inj hallowed).symm
    exact ⟨c, hc, hcs.number_last hc, .inr ⟨f, hf, hn, by rw [limit_eq_ofNat hq]; rfl⟩⟩
  | speechless c f hc hf h => simp [hspeaks c hc f hf] at h
  | interrupted c f hc _ _ habort => simp [abortsWait, hleft c hc, hwaits] at habort

/-- An outside that runs nothing and never aborts. -/
def quiet : Outside where
  run w _ := ⟨w.disk, false, .ok ⟨some 0, "", ""⟩⟩
  fetch _ _ := (false, .silent)
  cancelsWait _ := false
  clock _ := some 0
  searchPath := none
  processors := 1

/-- A world without anything in it. -/
def bare : World := { disk := ⟨[], []⟩ }

/-- An operation that fails in its first attempt. -/
def slow (n : Nat) : Forge Nat := if n < 2 then throw (.other "x") else pure n

/-- The value that a run gives, and the number of the attempt that gave it. -/
def gave? : Retried α → Option (α × Nat)
  | .done a n => some (a, n)
  | .failed .. => none

theorem run_books_slow :
    ((runOn bare (run quiet "d" ⟨3, 5⟩ slow)).1.toOption.bind gave?) = some (2, 2) ∧
      ∃ cs, Calls "d" ⟨3, 5⟩ slow (some 3) 1 bare cs ∧ cs.length = 2 := by
  have hgives : ((runOn bare (run quiet "d" ⟨3, 5⟩ slow)).1.toOption.bind gave?) = some (2, 2) := by
    decide +kernel
  have hkeeps (n : Nat) : Keeps (fun w => w.cancelled = false) (slow n) := .ite (.throw _) (.pure _)
  have hwords (n : Nat) (w : World) (f : Failure) (h : (runOn w (slow n)).1 = .error f) : f.hasWords = true := by
    rw [slow] at h
    split at h
    · cases h
      rfl
    · cases h
  have hfinite : (⟨3, 5⟩ : RetryPolicy).maxAttempts = .finite 3 := rfl
  have hlive : bare.cancelled = false := rfl
  have hwaits (w : World) : quiet.cancelsWait w = false := rfl
  obtain ⟨-, cs, hcs, c, -, -, hend⟩ := run_books hfinite hlive hwaits hkeeps hwords
  have hthree : (max 1 (3 : Rat).floor).toNat = 3 := by decide +kernel
  rw [hthree] at hcs
  refine ⟨hgives, cs, hcs, ?_⟩
  rcases hend with ⟨a, -, hrun⟩ | ⟨f, -, -, hrun⟩
  · rw [hrun] at hgives
    exact congrArg Prod.snd (Option.some.inj hgives)
  · rw [hrun] at hgives
    cases hgives

/-- A value that cannot be made a text. -/
def textless : Data := .record [("toString", .number 1), ("valueOf", .number 1)] []

/-- A failure without words is not given back as a value: what was to be told about it cannot be written. -/
theorem run_wordless {f : Failure} {w₁ : World} (hp : limit p ≠ .nan) (hw : w.cancelled = false)
    (hx : runOn (announced description p 1 w) (operation 1) = (.error f, w₁)) (hf : f.hasWords = false) :
    runOn w (run o description p operation) = (.error .noText, w₁) := by
  cases hmore : more? (limit p) with
  | none => exact absurd (more?_eq_none_iff.1 hmore) hp
  | some more =>
    rw [run_of_some hmore, runOn_bind, runOn_tryFrom hw, hx]
    cases more with
    | zero => exact (runOn_settle_error w₁ f).trans (if_neg (by simp [hf]))
    | succ more =>
      dsimp only
      rw [runOn_bind_error (runOn_pause_wordless hf w₁ 1)]

theorem run_textless : (⟨2, 0⟩ : RetryPolicy).maxAttempts = .finite 2 ∧ bare.cancelled = false ∧
    (runOn bare (run quiet "d" ⟨2, 0⟩ fun _ => (throw (.value textless) : Forge Nat))).1 = .error .noText := by
  refine ⟨rfl, rfl, ?_⟩
  rw [run_wordless (by decide +kernel) rfl (runOn_throw ..) (by decide +kernel)]

/-- If it was aborted, a run makes no call after that, and it fails or gives the value of its last call; but what it
gives is a failure if no number of attempts was allowed, or if the abort came in the last one allowed, which failed
then. -/
theorem run_aborted (habort : (runOn w (run o description p operation)).2.cancelled = true) :
    ∃ cs, Calls description p operation (allowance p) 1 w cs ∧
      Ending o description p (allowance p) w cs (runOn w (run o description p operation)).1
        (runOn w (run o description p operation)).2 ∧
      ((∃ f, (runOn w (run o description p operation)).1 = .error f) ∨
        (∃ c ∈ cs.getLast?, ∃ a, c.result = .ok a ∧
          (runOn w (run o description p operation)).1 = .ok (.done a c.number)) ∨
        ∃ f, (runOn w (run o description p operation)).1 = .ok (.failed f (limit p)) ∧
          ((limit p = .nan ∧ cs = [] ∧ w.cancelled = true) ∨
            ∃ c ∈ cs.getLast?, allowance p = some c.number ∧ c.result = .error f ∧
              c.found.cancelled = false ∧ c.left.cancelled = true)) := by
  obtain ⟨cs, hcs, hend⟩ := run_calls o description p operation w
  refine ⟨cs, hcs, hend, ?_⟩
  rcases hrun : runOn w (run o description p operation) with ⟨r, w'⟩
  rw [hrun] at hend habort
  cases hend with
  | refused => exact .inl ⟨_, rfl⟩
  | idle hcs h => exact .inr (.inr ⟨_, rfl, .inl ⟨allowance_eq_none_iff.1 h, hcs, habort⟩⟩)
  | done c a hc ha => exact .inr (.inl ⟨c, hc, a, ha, rfl⟩)
  | failed c f hc hf _ hallowed =>
    have hlive := hcs.live c (List.mem_of_getLast? hc)
    exact .inr (.inr ⟨f, rfl, .inr ⟨c, hc, hallowed, hf, hlive, habort⟩⟩)
  | speechless => exact .inl ⟨_, rfl⟩
  | interrupted => exact .inl ⟨_, rfl⟩

/-- An operation that fails as it is aborted. -/
def broken (_ : Nat) : Forge Nat := do
  modify fun w => { w with cancelled := true }
  throw (.other "x")

/-- An abort in the first of two attempts ends the run. -/
theorem run_aborted_early : (runOn bare (run quiet "d" ⟨2, 0⟩ broken)).2.cancelled = true ∧
    ∃ cs f, Calls "d" ⟨2, 0⟩ broken (allowance ⟨2, 0⟩) 1 bare cs ∧
      (runOn bare (run quiet "d" ⟨2, 0⟩ broken)).1 = .error f := by
  have habort : (runOn bare (run quiet "d" ⟨2, 0⟩ broken)).2.cancelled = true := by decide +kernel
  have hfails : (runOn bare (run quiet "d" ⟨2, 0⟩ broken)).1.toOption.isNone = true := by decide +kernel
  obtain ⟨cs, hcs, -, ⟨f, hf⟩ | ⟨_, -, _, -, hok⟩ | ⟨_, hok, -⟩⟩ := run_aborted habort
  · exact ⟨habort, cs, f, hcs, hf⟩
  · rw [hok] at hfails
    cases hfails
  · rw [hok] at hfails
    cases hfails

/-- An abort in the last attempt allowed is taken for a failure like any other. -/
theorem run_aborted_late : bare.cancelled = false ∧
    (runOn bare (run quiet "d" ⟨1, 0⟩ broken)).2.cancelled = true ∧
    (runOn bare (run quiet "d" ⟨1, 0⟩ broken)).1 = .ok (.failed (.other "x") 1) := by
  have hmore : more? (limit ⟨1, 0⟩) = some 0 := by decide +kernel
  rw [run_of_some hmore, runOn_bind, runOn_tryFrom rfl]
  exact ⟨rfl, rfl, rfl⟩

end Retry

end VariantForge
