import VariantForge.Pattern.Matching
import VariantForge.Proofs.Text.Search

/-!
# Moves — trees that fit in one way

Most trees fit in one way at most at each position. Running such a tree is a move from one position to
another (`Node.Moves`), and the move of a sequence is made of the moves of its parts. A repetition tries
several ways in turn: a greedy one the longest run first (`Node.rounds_greedy`), a lazy one the nearest
place first (`Node.rounds_lazy`). The first match in a text is the one at the first position where there is any.
-/

namespace VariantForge.Pattern

open Text

variable {s : Subject} {names : List (List Nat × Nat)} {k : Continuation} {x y : Found} {i j n : Nat}
  {a b : Node} {move moveA moveB : Nat → Option Nat} {items : List CharItem} {negated : Bool} {p : Nat}
  {part us : List UInt16}

/-! ## Flags under which units are read and case counts -/

/-- Whether units are read one by one, each as itself, and a match may begin anywhere. -/
structure Flags.Plain (f : Flags) : Prop where
  ignoreCase : f.ignoreCase = false
  unicode : f.unicode = false
  sets : f.sets = false
  sticky : f.sticky = false

theorem Flags.Plain.byPoint {f : Flags} (h : f.Plain) : f.byPoint = false := by
  rw [Flags.byPoint, h.unicode, h.sets]
  rfl

/-- Whether a subject is some units, which are read one by one. -/
structure Subject.Reads (s : Subject) (us : List UInt16) : Prop where
  plain : s.flags.Plain
  input : s.input = us.toArray

theorem Subject.Reads.unit? (h : s.Reads us) (i : Nat) : s.unit? i = us[i]?.map (·.toNat) := by
  rw [Subject.unit?, h.input, List.getElem?_toArray]

theorem Subject.Reads.size (h : s.Reads us) : s.input.size = us.length := by rw [h.input, List.size_toArray]

theorem Subject.Reads.ahead? (h : s.Reads us) (i : Nat) : s.ahead? i = (s.unit? i).map fun p => (p, i + 1) := by
  rw [Subject.ahead?, Subject.unit?]
  cases s.input[i]? with
  | none => rfl
  | some u => simp [h.plain.byPoint]

theorem Flags.Plain.fitsClass_range {f : Flags} (h : f.Plain) (low high p : Nat) :
    fitsClass f [.range low high] negated p = ((decide (low ≤ p) && decide (p ≤ high)) != negated) := by
  simp [fitsClass, CharItem.has, Flags.alike, h.ignoreCase, h.sets]

/-! ## One way -/

theorem Node.run_sequence : (Node.sequence a b).run s names false k = a.run s names false (b.run s names false k) := rfl

/-- Whether a tree fits in one way at most at each position: then up to the position that `move` gives, and it
leaves the groups as they are. -/
def Node.Moves (s : Subject) (n : Node) (move : Nat → Option Nat) : Prop :=
  ∀ names k x, n.run s names false k x = (move x.position).bind fun i => k { x with position := i }

namespace Node.Moves

theorem empty : Node.empty.Moves s some := fun _ _ _ => rfl

theorem congr (h : a.Moves s moveA) (heq : ∀ i, moveA i = moveB i) : a.Moves s moveB := by
  rw [← funext heq]
  exact h

theorem sequence (ha : a.Moves s moveA) (hb : b.Moves s moveB) :
    (Node.sequence a b).Moves s fun i => (moveA i).bind moveB := by
  intro names k x
  rw [Node.run_sequence, ha]
  dsimp only
  cases moveA x.position with
  | none => rfl
  | some i => exact hb names k _

theorem oneOf (hs : s.Reads us) :
    (Node.oneOf items negated).Moves s fun i =>
      (s.unit? i).bind fun p => if fitsClass s.flags items negated p then some (i + 1) else none := by
  intro names k x
  have hrun : (Node.oneOf items negated).run s names false k x =
      s.step false (fitsClass s.flags items negated) k x := rfl
  rw [hrun, Subject.step, Subject.read?, if_neg Bool.false_ne_true, hs.ahead?]
  dsimp only
  cases s.unit? x.position with
  | none => rfl
  | some p =>
    simp only [Option.map_some, Option.bind_some]
    split <;> rfl

theorem lineStart : Node.lineStart.Moves s fun i => if s.lineStartAt i then some i else none := by
  intro names k x
  simp only [Node.run]
  split <;> rfl

theorem wordEdge : (Node.wordEdge negated).Moves s fun i =>
    if (s.wordBefore i != s.wordAt i) != negated then some i else none := by
  intro names k x
  simp only [Node.run]
  split <;> rfl

theorem char (hs : s.Reads us) (u : UInt16) :
    (Node.char u.toNat).Moves s fun i => if us[i]? = some u then some (i + 1) else none := by
  refine (oneOf hs).congr fun i => ?_
  rw [hs.unit?]
  cases us[i]? with
  | none => rfl
  | some v =>
    simp only [Option.map_some, Option.bind_some, hs.plain.fitsClass_range, Option.some.injEq]
    congr 1
    simp only [Bool.bne_false, Bool.and_eq_true, decide_eq_true_eq, ← Nat.le_antisymm_iff, UInt16.toNat_inj, eq_iff_iff]
    exact eq_comm

end Node.Moves

/-- A tree, and characters one after the other. -/
def Node.thenChars (n : Node) (ps : List Nat) : Node := ps.foldl (fun n p => .sequence n (.char p)) n

/-- Characters move over the place where they stand. -/
theorem Node.Moves.thenChars (hs : s.Reads us) (h : a.Moves s move) :
    (a.thenChars (part.map (·.toNat))).Moves s fun i => (move i).bind fun j =>
      if standsAt part us j then some (j + part.length) else none := by
  induction part generalizing a move with
  | nil => exact h.congr fun i => by simp [standsAt_nil]
  | cons u part ih =>
    refine (ih (h.sequence (.char hs u))).congr fun i => ?_
    cases move i with
    | none => rfl
    | some j =>
      simp only [Option.bind_some, standsAt_cons, List.length_cons]
      by_cases hu : us[j]? = some u
      · simp [hu, Nat.add_assoc, Nat.add_comm 1]
      · simp [hu]

/-! ## Repetitions -/

/-- A repetition as often as wanted, of a tree without groups. -/
def Node.star (a : Node) (greedy : Bool) : Node := .repeated a 0 none greedy 0 0

/-- The rounds of such a repetition, at most so many of them. -/
def Node.rounds (a : Node) (s : Subject) (names : List (List Nat × Nat)) (greedy : Bool) (k : Continuation)
    (bound : Nat) : Continuation :=
  Pattern.rounds (a.run s names false) (·.forget 0 0) greedy k bound 0 none

theorem Node.run_star {greedy : Bool} (hs : s.Reads us) :
    (a.star greedy).run s names false k = a.rounds s names greedy k (us.length + 1) := by
  rw [Node.rounds, ← hs.size, ← Nat.zero_add s.input.size]
  rfl

/-- A round of a tree that fits in one way, and covers something when it does. -/
theorem Node.rounds_succ {greedy : Bool} {bound : Nat} (ha : a.Moves s move)
    (hmove : ∀ i j, move i = some j → i < j) :
    a.rounds s names greedy k (bound + 1) x =
      let more := (move x.position).bind fun i => a.rounds s names greedy k bound { x with position := i }
      if greedy then more.or (k x) else (k x).or more := by
  have hround (again : Continuation) : a.run s names false again (x.forget 0 0) =
      (move x.position).bind fun i => again { x with position := i } := ha names again x
  rw [Node.rounds, Pattern.rounds, if_neg (by simp), if_neg (Nat.lt_irrefl 0)]
  simp only [hround]
  cases hi : move x.position with
  | none =>
    cases greedy
    · cases k x <;> rfl
    · rfl
  | some i =>
    have hne : ¬ (True ∧ i = x.position) := fun h => (hmove _ _ hi).ne' h.2
    simp only [Option.bind_some, if_neg hne]
    cases greedy
    · cases hk : k x <;> rfl
    · rw [if_pos rfl, if_pos rfl]
      cases hmore : a.rounds s names true k bound { x with position := i } <;> simp_all [Node.rounds]

section

variable {fits : UInt16 → Bool}

/-- The move over one unit of a class. -/
def stepOver (us : List UInt16) (fits : UInt16 → Bool) (i : Nat) : Option Nat :=
  if (us[i]?).any fits then some (i + 1) else none

theorem lt_of_stepOver (i j : Nat) (h : stepOver us fits i = some j) : i < j := by
  rw [stepOver] at h
  split at h
  · cases h
    exact Nat.lt_succ_self i
  · cases h

/-- A class is the move over the units that fit it. -/
theorem Node.Moves.oneOf_stepOver (hs : s.Reads us)
    (h : ∀ u : UInt16, fitsClass s.flags items negated u.toNat = fits u) :
    (Node.oneOf items negated).Moves s (stepOver us fits) := by
  refine (Node.Moves.oneOf hs).congr fun i => ?_
  rw [hs.unit?, stepOver]
  cases us[i]? with
  | none => rfl
  | some u => simp only [Option.map_some, Option.bind_some, h, Option.any_some]

/-- Where there is a unit of a class, there is no character outside of it. -/
theorem no_char_of_stepOver {u : UInt16} (hu : fits u = false) (h : stepOver us fits i = some (i + 1)) :
    (if us[i]? = some u then some (i + 1) else none) = none := by
  rw [if_neg]
  intro hunit
  rw [stepOver, hunit, Option.any_some, hu] at h
  cases h

theorem stepOver_cases (us : List UInt16) (fits : UInt16 → Bool) (i : Nat) :
    (i < us.length ∧ stepOver us fits i = some (i + 1) ∧ runEnd us fits i = runEnd us fits (i + 1)) ∨
      (stepOver us fits i = none ∧ runEnd us fits i = i) := by
  rw [stepOver]
  cases hi : us[i]? with
  | none => exact .inr ⟨rfl, runEnd_of_not_fits (by simp [hi])⟩
  | some u =>
    cases hu : fits u with
    | true => exact .inl ⟨(List.getElem?_eq_some_iff.1 hi).1, by simp [hu], runEnd_of_fits hi hu⟩
    | false => exact .inr ⟨by simp [hu], runEnd_of_not_fits (by simp [hi, hu])⟩

variable {bound : Nat}

/-- A greedy repetition runs to the end of the units that fit if what follows goes on from there. -/
theorem Node.rounds_greedy (ha : a.Moves s (stepOver us fits)) (hbound : us.length - x.position < bound)
    (h : k { x with position := runEnd us fits x.position } = some y) : a.rounds s names true k bound x = some y := by
  induction bound generalizing x with
  | zero => exact absurd hbound (Nat.not_lt_zero _)
  | succ bound ih =>
    rw [Node.rounds_succ ha lt_of_stepOver]
    rcases stepOver_cases us fits x.position with ⟨hlt, hstep, hend⟩ | ⟨hstep, hend⟩
    · rw [hend] at h
      have hmore := ih (x := { x with position := x.position + 1 }) (by dsimp only; omega) h
      simp [hstep, hmore]
    · rw [hend] at h
      simp [hstep, h]

/-- A greedy repetition runs to the end of the units that fit if what follows cannot begin at one of these. -/
theorem Node.rounds_greedy_of_stop (ha : a.Moves s (stepOver us fits)) (hbound : us.length - x.position < bound)
    (hk : ∀ i, stepOver us fits i = some (i + 1) → k { x with position := i } = none) :
    a.rounds s names true k bound x = k { x with position := runEnd us fits x.position } := by
  induction bound generalizing x with
  | zero => exact absurd hbound (Nat.not_lt_zero _)
  | succ bound ih =>
    rw [Node.rounds_succ ha lt_of_stepOver]
    rcases stepOver_cases us fits x.position with ⟨hlt, hstep, hend⟩ | ⟨hstep, hend⟩
    · have hx : k x = none := hk x.position hstep
      have hmore := ih (x := { x with position := x.position + 1 }) (by dsimp only; omega) hk
      simp [hstep, hmore, hx, hend]
    · simp [hstep, hend]

theorem Node.Moves.starThen {c : Node} (hs : s.Reads us) (ha : a.Moves s moveA) (hc : c.Moves s (stepOver us fits))
    (hb : b.Moves s moveB) (hstop : ∀ i, stepOver us fits i = some (i + 1) → moveB i = none) :
    (Node.sequence (.sequence a (c.star true)) b).Moves s fun i =>
      (moveA i).bind fun j => moveB (runEnd us fits j) := by
  intro names k x
  have hb' (i : Nat) : b.run s names false k { x with position := i } =
      (moveB i).bind fun j => k { x with position := j } := hb names k _
  rw [Node.run_sequence, Node.run_sequence, ha]
  dsimp only
  cases moveA x.position with
  | none => rfl
  | some j =>
    have hk (i : Nat) (hi : stepOver us fits i = some (i + 1)) : b.run s names false k { x with position := i } = none := by
      rw [hb', hstop i hi]
      rfl
    have hbound : us.length - (⟨j, x.captures⟩ : Found).position < us.length + 1 := Nat.lt_succ_of_le (Nat.sub_le ..)
    rw [Option.bind_some, Option.bind_some, Node.run_star hs, Node.rounds_greedy_of_stop hc hbound hk, hb']

end

/-- Whether a lazy repetition that begins at a position comes to try another, all positions that it tried
before having failed. -/
inductive Tries (move : Nat → Option Nat) (stop : Nat → Option Found) : Nat → Nat → Prop where
  | here {i : Nat} : Tries move stop i i
  | later {i j r : Nat} (hstop : stop i = none) (hmove : move i = some j) (h : Tries move stop j r) :
      Tries move stop i r

/-- What the moves keep holds wherever a lazy repetition comes to. -/
theorem Tries.keeps {stop : Nat → Option Found} {P : Nat → Prop} {r : Nat}
    (hstep : ∀ a b, P a → move a = some b → P b) (h : Tries move stop i r) (hi : P i) : P r := by
  induction h with
  | here => exact hi
  | later hstop hmove h ih => exact ih (hstep _ _ hi hmove)

/-- A lazy repetition stops at the first position at which what follows goes on. -/
theorem Node.rounds_lazy {bound r : Nat} (ha : a.Moves s move)
    (hmove : ∀ i j, move i = some j → i < j ∧ j ≤ us.length) (hbound : us.length - x.position < bound)
    (h : Tries move (fun i => k { x with position := i }) x.position r)
    (hr : k { x with position := r } = some y) :
    a.rounds s names false k bound x = some y := by
  induction bound generalizing x with
  | zero => exact absurd hbound (Nat.not_lt_zero _)
  | succ bound ih =>
    rw [Node.rounds_succ ha fun i j hi => (hmove i j hi).1]
    cases h with
    | here =>
      have hx : k x = some y := hr
      simp [hx]
    | @later _ j _ hk hj h =>
      have hx : k x = none := hk
      have hlt := hmove _ _ hj
      have hmore := ih (x := { x with position := j }) (by dsimp only; omega) h hr
      simp [hx, hj, hmore]

/-- A lazy repetition fails if what follows goes on from nowhere. -/
theorem Node.rounds_lazy_none {bound : Nat} (ha : a.Moves s move) (hmove : ∀ i j, move i = some j → i < j)
    (h : ∀ r, Tries move (fun i => k { x with position := i }) x.position r → k { x with position := r } = none) :
    a.rounds s names false k bound x = none := by
  induction bound generalizing x with
  | zero => rfl
  | succ bound ih =>
    have hx : k x = none := h _ .here
    have hmore : ((move x.position).bind fun i => a.rounds s names false k bound { x with position := i }) = none := by
      cases hi : move x.position with
      | none => rfl
      | some i => exact ih fun r hr => h r (.later hx hi hr)
    rw [Node.rounds_succ ha hmove, hmore, hx]
    rfl

/-! ## The first match -/

namespace Compiled

variable {c : Compiled} {m : Match} {start bound : Nat}

/-- The search ends at the first position where there is a match. -/
theorem searchFrom_eq_some (hsticky : s.flags.sticky = false) (hi : i < start + bound) (hsize : i ≤ s.input.size)
    (hstart : start ≤ i) (hm : c.matchAt? s i = some m) (hbefore : ∀ j, start ≤ j → j < i → c.matchAt? s j = none) :
    c.searchFrom s bound start = some m := by
  induction bound generalizing start with
  | zero => omega
  | succ bound ih =>
    rw [searchFrom, if_neg (by omega)]
    rcases Nat.eq_or_lt_of_le hstart with rfl | hlt
    · rw [hm]
    · rw [hbefore start (Nat.le_refl _) hlt]
      simp only [hsticky, Bool.false_eq_true, if_false]
      exact ih (by omega) hlt fun j hj => hbefore j (by omega)

/-- The search finds nothing if there is no match anywhere. -/
theorem searchFrom_eq_none (h : ∀ j, start ≤ j → j ≤ s.input.size → c.matchAt? s j = none) :
    c.searchFrom s bound start = none := by
  induction bound generalizing start with
  | zero => rfl
  | succ bound ih =>
    rw [searchFrom]
    split
    · rfl
    · rw [h start (Nat.le_refl _) (by omega)]
      dsimp only
      split
      · rfl
      · exact ih fun j hj => h j (by omega)

theorem search?_eq_some {t : Text} (hsticky : c.flags.sticky = false) (hi : i ≤ t.units.length)
    (hm : c.matchAt? (c.subject t) i = some m) (hbefore : ∀ j < i, c.matchAt? (c.subject t) j = none) :
    c.search? t = some m := by
  have hsize : (c.subject t).input.size = t.units.length := List.size_toArray
  rw [search?, hsize]
  exact searchFrom_eq_some hsticky (by omega) (hsize ▸ hi) (Nat.zero_le _) hm fun j _ hj => hbefore j hj

theorem search?_eq_none {t : Text} (h : ∀ j ≤ t.units.length, c.matchAt? (c.subject t) j = none) :
    c.search? t = none := by
  have hsize : (c.subject t).input.size = t.units.length := List.size_toArray
  exact searchFrom_eq_none fun j _ hj => h j (hsize ▸ hj)

/-- A pattern that matches only where a test passes is found at the first such place, if no place after one
without a match has any. -/
theorem search?_eq_firstPlace? {t : Text} {test : Nat → Bool} {found : Nat → Option Match}
    (hsticky : c.flags.sticky = false)
    (h : ∀ j, c.matchAt? (c.subject t) j = if test j then found j else none)
    (hlater : ∀ i j, i ≤ j → found i = none → found j = none) :
    c.search? t = (firstPlace? t.units test).bind found := by
  cases hi : firstPlace? t.units test with
  | none =>
    refine search?_eq_none fun j hj => (h j).trans ?_
    simp [firstPlace?_eq_none.1 hi j hj]
  | some i =>
    obtain ⟨hle, hpasses, hfirst⟩ := firstPlace?_eq_some.1 hi
    have hbefore (j : Nat) (hj : j < i) : c.matchAt? (c.subject t) j = none := by simp [h j, hfirst j hj]
    rw [Option.bind_some]
    cases hm : found i with
    | some m => exact search?_eq_some hsticky hle (by rw [h, if_pos hpasses, hm]) hbefore
    | none =>
      refine search?_eq_none fun j _ => ?_
      rcases Nat.lt_or_ge j i with hlt | hge
      · exact hbefore j hlt
      · rw [h, hlater i j hge hm, ite_self]

theorem matchAt?_of_moves (h : c.node.Moves s move) :
    c.matchAt? s i = (move i).map fun j => ⟨i, j, List.replicate (c.groups + 1) none⟩ := by
  rw [matchAt?, h]
  cases move i <;> rfl

end Compiled

end VariantForge.Pattern
