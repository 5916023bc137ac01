import VariantForge.Proofs.Disk.Names
import VariantForge.Proofs.Path.Through

/-!
# Straight paths

A path is straight if it starts at the root and no part of it goes nowhere or up, as all paths do
that were joined or resolved. Where no link is on the way (`Clear`), such a path can only lead to
the place with its own names, and whether it gets there depends on nothing but what is on the way.

Blank names and single points on a path may be dropped: what it leads to is still reached (`Squeezes.walk`).
-/

namespace VariantForge.Disk

open Path

/-! ## Places of paths -/

/-- The place that the names of a path spell. -/
@[irreducible] def placeOf (path : String) : Place := (names path).filter (· != "")

/-- Whether a path starts at the root and goes on by names alone. -/
structure Straight (path : String) : Prop where
  root : fromRoot path = true
  steps : ∀ n ∈ names path, n = "" ∨ IsStep n

/-- Whether no link is at a place or on the way to it. -/
def Clear (d : Disk) (p : Place) : Prop := ∀ q, q <+: p → ∀ target, d.get? q ≠ some (.link target)

variable {d d' : Disk} {follow : Bool} {here p q : Place} {ns : List String} {path : String}

theorem nil_append_placeOf (path : String) :
    [] ++ (names path).filter (· != "") = placeOf path := by
  rw [List.nil_append, placeOf]

theorem Clear.above (h : Clear d p) (hq : q <+: p) : Clear d q :=
  fun r hr => h r (hr.trans hq)

theorem filter_cons_blank (ns : List String) :
    ("" :: ns).filter (· != "") = ns.filter (· != "") := by
  simp

theorem filter_cons_step {n : String} (h : IsStep n) (ns : List String) :
    (n :: ns).filter (· != "") = n :: ns.filter (· != "") := by
  simp [h.ne_blank]

/-! ## Walks -/

/-- A leg along names on which there is no link gets to their place or stops. -/
theorem leg_straight (follow : Bool) (hns : ∀ n ∈ ns, n = "" ∨ IsStep n)
    (hc : Clear d (here ++ ns.filter (· != ""))) :
    d.leg follow here ns = .arrived (here ++ ns.filter (· != "")) ∨
      ∃ r, d.leg follow here ns = .stopped r := by
  induction ns generalizing here with
  | nil =>
    left
    rw [leg, List.filter_nil, List.append_nil]
  | cons n ns ih =>
    have hrest : ∀ m ∈ ns, m = "" ∨ IsStep m := fun m hm => hns m (List.mem_cons_of_mem _ hm)
    rcases hns n (List.mem_cons_self ..) with rfl | hn
    · rw [filter_cons_blank] at hc ⊢
      rw [leg_blank (.inl rfl)]
      exact ih hrest hc
    · rw [filter_cons_step hn] at hc ⊢
      rw [List.append_cons] at hc ⊢
      rw [leg_step hn]
      by_cases hlong : isLongName n = true
      · rw [if_pos hlong]
        exact .inr ⟨_, rfl⟩
      rw [if_neg hlong]
      cases hget : d.get? (here ++ [n]) with
      | none =>
        dsimp only
        split
        · rename_i hnil
          left
          rw [List.isEmpty_iff.1 hnil, List.filter_nil, List.append_nil]
        · exact .inr ⟨_, rfl⟩
      | some e =>
        cases e with
        | directory => exact ih hrest hc
        | file bytes mode =>
          dsimp only
          split
          · rename_i hnil
            left
            rw [List.isEmpty_iff.1 hnil, List.filter_nil, List.append_nil]
          · exact .inr ⟨_, rfl⟩
        | link target => exact absurd hget (hc _ (List.prefix_append ..) target)

theorem walk_straight {n : Nat} (hns : ∀ n ∈ ns, n = "" ∨ IsStep n)
    (hc : Clear d (here ++ ns.filter (· != ""))) (h : d.walk follow n here ns = .ok p) :
    p = here ++ ns.filter (· != "") := by
  rcases walk_ok h with hleg | ⟨_, _, _, _, _, hleg, _⟩
  · rcases leg_straight follow hns hc with hs | ⟨r, hs⟩
    · rw [hs] at hleg
      cases hleg
      rfl
    · rw [hs] at hleg
      cases hleg
  · rcases leg_straight follow hns hc with hs | ⟨r, hs⟩ <;>
      · rw [hs] at hleg
        cases hleg

/-- A straight path on which there is no link leads to its place or nowhere. -/
theorem walkPath_straight (hs : Straight path) (hc : Clear d (placeOf path))
    (h : d.walkPath follow path = .ok p) : p = placeOf path := by
  rw [walkPath, hs.root, if_pos rfl] at h
  split at h
  · cases h
  split at h
  · cases h
  rw [← nil_append_placeOf] at hc ⊢
  exact walk_straight hs.steps hc h

/-- A leg that gets to the place of its names has gone through the directory above. -/
theorem leg_above (hns : ∀ n ∈ ns, n = "" ∨ IsStep n)
    (hc : Clear d (here ++ ns.filter (· != ""))) (hhere : d.get? here = some .directory)
    (h : d.leg follow here ns = .arrived p) (hp : p ≠ here) :
    d.get? p.dropLast = some .directory := by
  induction ns generalizing here with
  | nil =>
    rw [leg] at h
    cases h
    exact absurd rfl hp
  | cons n ns ih =>
    have hrest : ∀ m ∈ ns, m = "" ∨ IsStep m := fun m hm => hns m (List.mem_cons_of_mem _ hm)
    rcases hns n (List.mem_cons_self ..) with rfl | hn
    · rw [filter_cons_blank] at hc
      rw [leg_blank (.inl rfl)] at h
      exact ih hrest hc hhere h hp
    · rw [filter_cons_step hn, List.append_cons] at hc
      have hlast : (here ++ [n]).dropLast = here := List.dropLast_concat
      rw [leg_step hn] at h
      split at h
      · cases h
      cases hget : d.get? (here ++ [n]) with
      | none =>
        rw [hget] at h
        dsimp only at h
        split at h <;> cases h
        rwa [hlast]
      | some e =>
        rw [hget] at h
        cases e with
        | directory =>
          by_cases hp' : p = here ++ [n]
          · rwa [hp', hlast]
          · exact ih hrest hc hget h hp'
        | file bytes mode =>
          dsimp only at h
          split at h <;> cases h
          rwa [hlast]
        | link target => exact absurd hget (hc _ (List.prefix_append ..) target)

theorem walkPath_above (hs : Straight path) (hc : Clear d (placeOf path))
    (h : d.walkPath follow path = .ok p) : d.get? p.dropLast = some .directory := by
  have hp := walkPath_straight hs hc h
  by_cases hnil : p = []
  · rw [hnil]
    rfl
  rw [walkPath, hs.root, if_pos rfl] at h
  split at h
  · cases h
  split at h
  · cases h
  rw [← nil_append_placeOf] at hc
  rcases walk_ok h with hleg | ⟨_, _, _, _, _, hleg, _⟩
  · exact leg_above hs.steps hc (get?_nil d) hleg hnil
  · rcases leg_straight follow hs.steps hc with hs | ⟨r, hs⟩ <;>
      · rw [hs] at hleg
        cases hleg

/-- A leg that misses something stops on its way at a place where there is nothing. -/
theorem leg_missing (hns : ∀ n ∈ ns, n = "" ∨ IsStep n)
    (h : d.leg follow here ns = .stopped .missing) :
    ∃ q, q <+: here ++ ns.filter (· != "") ∧ d.get? q = none := by
  induction ns generalizing here with
  | nil =>
    rw [leg] at h
    cases h
  | cons n ns ih =>
    have hrest : ∀ m ∈ ns, m = "" ∨ IsStep m := fun m hm => hns m (List.mem_cons_of_mem _ hm)
    rcases hns n (List.mem_cons_self ..) with rfl | hn
    · rw [filter_cons_blank]
      rw [leg_blank (.inl rfl)] at h
      exact ih hrest h
    · rw [filter_cons_step hn, List.append_cons]
      rw [leg_step hn] at h
      split at h
      · cases h
      split at h
      · rename_i hget
        exact ⟨_, List.prefix_append .., hget⟩
      · exact ih hrest h
      · split at h <;> cases h
      · split at h <;> cases h

theorem walkPath_missing (hs : Straight path) (hc : Clear d (placeOf path))
    (h : d.walkPath follow path = .error .missing) : ∃ q, q <+: placeOf path ∧ d.get? q = none := by
  have hempty : path.isEmpty = false := by
    have hroot := hs.root
    by_contra hc
    rw [Bool.not_eq_false, String.isEmpty_iff] at hc
    rw [hc] at hroot
    cases hroot
  rw [walkPath, hs.root, hempty, if_pos rfl, if_neg (by simp)] at h
  split at h
  · cases h
  rw [← nil_append_placeOf] at hc ⊢
  rw [walk] at h
  rcases leg_straight follow hs.steps hc with hleg | ⟨r, hleg⟩
  · rw [hleg] at h
    cases h
  · rw [hleg] at h
    cases h
    exact leg_missing hs.steps hleg

/-- The last name of a straight path is the last one of its place, and those before lead to the
place above. -/
theorem Straight.split (hs : Straight path) {last : String} {before : List String}
    (h : (names path).reverse.dropWhile (·.isEmpty) = last :: before) :
    IsStep last ∧ (∀ n ∈ before.reverse, n = "" ∨ IsStep n) ∧
      placeOf path = before.reverse.filter (· != "") ++ [last] := by
  obtain ⟨blanks, hnames, hblanks, hlast⟩ := names_split h
  have hsteps := hs.steps
  rw [hnames] at hsteps
  have hstep : IsStep last := (hsteps last (by simp)).resolve_left hlast
  refine ⟨hstep, fun n hn => hsteps n (List.mem_append_left _ hn), ?_⟩
  have hnone : blanks.filter (· != "") = [] :=
    List.filter_eq_nil_iff.2 fun b hb => by simp [hblanks b hb]
  rw [placeOf, hnames, List.filter_append, filter_cons_step hstep, hnone]

theorem names_eq_map (path : String) : names path = (parts path.toList).map shownPart := by
  rw [names_eq, parts_shownChars, List.map_map]
  rfl

theorem Straight.names_eq (hs : Straight path) : names path = "" :: (names path).tail := by
  obtain ⟨cs, hcs⟩ : ∃ cs, path.toList = '/' :: cs := by
    have hroot := hs.root
    rw [fromRoot, beq_iff_eq, List.head?_eq_some_iff] at hroot
    exact hroot
  rw [names_eq_map, hcs, parts_slash]
  rfl

/-! ## Names that lead nowhere -/

variable {a b ms : List String} {n : Nat}

/-- Whether some names are what is left of others without some that lead nowhere. -/
inductive Squeezes : List String → List String → Prop where
  | nil : Squeezes [] []
  | drop {n : String} {a b : List String} (hblank : n = "" ∨ n = ".") (hrest : Squeezes a b) : Squeezes (n :: a) b
  | keep {n : String} {a b : List String} (hrest : Squeezes a b) : Squeezes (n :: a) (n :: b)

theorem Squeezes.refl : Squeezes a a := by
  induction a with
  | nil => exact .nil
  | cons n a ih => exact .keep ih

theorem Squeezes.append_left (h : Squeezes a b) : Squeezes (ms ++ a) (ms ++ b) := by
  induction ms with
  | nil => exact h
  | cons n ms ih => exact .keep ih

theorem Squeezes.leg (h : Squeezes a b) :
    (∀ p, d.leg true here a = .arrived p → d.leg true here b = .arrived p) ∧
      ∀ there target rest, d.leg true here a = .link there target rest →
        ∃ rest', Squeezes rest rest' ∧ d.leg true here b = .link there target rest' := by
  induction h generalizing here with
  | nil => exact ⟨fun _ h => h, fun _ _ rest h => ⟨rest, .refl, h⟩⟩
  | drop hblank _ ih =>
    rw [leg_blank hblank]
    exact ih
  | @keep n a b hrest ih =>
    by_cases hblank : n = "" ∨ n = "."
    · rw [leg_blank hblank, leg_blank hblank]
      exact ih
    by_cases hup : n = ".."
    · subst hup
      rw [leg_up, leg_up]
      exact ih
    have hstep : IsStep n := ⟨fun hn => hblank (.inl hn), fun hn => hblank (.inr hn), hup⟩
    have hnil : a.isEmpty = true → b.isEmpty = true := by
      intro ha
      rw [List.isEmpty_iff] at ha
      subst ha
      cases hrest
      rfl
    rw [leg_step hstep, leg_step hstep]
    by_cases hlong : isLongName n = true
    · simp [hlong]
    rw [if_neg hlong, if_neg hlong]
    cases hget : d.get? (here ++ [n]) with
    | none => cases ha : a.isEmpty <;> simp_all
    | some e =>
      cases e with
      | directory => exact ih
      | file bytes mode => cases ha : a.isEmpty <;> simp_all
      | link target =>
        simp only [Bool.not_true, Bool.and_false, Bool.false_eq_true, if_false]
        refine ⟨nofun, fun there target' rest h => ?_⟩
        cases h
        exact ⟨b, hrest, rfl⟩

/-- A walk that leads somewhere leads there without the names that lead nowhere. -/
theorem Squeezes.walk (h : Squeezes a b) (hp : d.walk true n here a = .ok p) : d.walk true n here b = .ok p := by
  induction n generalizing here a b with
  | zero =>
    rcases walk_ok hp with hleg | ⟨_, _, _, _, hn, _, _⟩
    · exact walk_of_arrived 0 (h.leg.1 p hleg)
    · cases hn
  | succ n ih =>
    rcases walk_ok hp with hleg | ⟨_, there, target, rest, hn, hleg, hrest⟩
    · exact walk_of_arrived _ (h.leg.1 p hleg)
    · cases hn
      obtain ⟨rest', hsqueeze, hlink⟩ := h.leg.2 there target rest hleg
      rw [walk_of_link n hlink]
      exact ih hsqueeze.append_left hrest

theorem squeezes_filter (ps : List Part) :
    Squeezes (ps.map shownPart) ((ps.filter fun p => ¬ (p = [] ∨ p = ['.'])).map shownPart) := by
  induction ps with
  | nil => exact .nil
  | cons p ps ih =>
    by_cases hblank : p = [] ∨ p = ['.']
    · rw [List.filter_cons_of_neg (by rw [decide_eq_true_eq, not_not]; exact hblank)]
      refine .drop ?_ ih
      rcases hblank with rfl | rfl
      · exact .inl (by decide)
      · exact .inr (by decide)
    · rw [List.filter_cons_of_pos (by simpa using hblank)]
      exact .keep ih

/-! ## Paths in normal form -/

theorem straight_of_parts (hroot : isAbsolute path = true)
    (h : ∀ q ∈ parts path.toList, q = [] ∨ IsName q) : Straight path := by
  refine ⟨hroot, fun n hn => ?_⟩
  rw [names_eq_map] at hn
  obtain ⟨q, hq, rfl⟩ := List.mem_map.1 hn
  exact (h q hq).imp (fun hq => by rw [hq]; decide) isStep_shownPart

theorem placeOf_eq (path : String) :
    placeOf path = ((parts path.toList).filter (· ≠ [])).map shownPart := by
  rw [placeOf, names_eq_map, List.filter_map]
  congr 1
  refine List.filter_congr fun q _ => ?_
  have hblank : (shownPart q = "") ↔ q = [] := shownPart_eq_iff isPlain_nil
  rw [Function.comp_apply, bne, beq_eq_decide, decide_eq_decide.2 hblank, decide_not]

theorem parts_absolute {ns : List Part} (h : ∀ q ∈ ns, IsName q) (hne : ns ≠ []) :
    parts (absolute ns).toList = [] :: ns := by
  rw [toList_absolute, parts_slash, parts_joinParts (fun q hq => (h q hq).no_slash) hne]

end VariantForge.Disk

namespace VariantForge.Path

open Disk

variable {path : String} {ns : List Part}

/-- The parts of a path that goes through some names are these and blank ones. -/
theorem Through.parts (h : Through path ns) :
    (∀ q ∈ Path.parts path.toList, q = [] ∨ IsName q) ∧ (Path.parts path.toList).filter (· ≠ []) = ns := by
  have hkeep : ns.filter (· ≠ []) = ns :=
    List.filter_eq_self.2 fun q hq => decide_eq_true (h.names q hq).ne_nil
  by_cases hns : ns = []
  · subst hns
    obtain rfl : path = absolute [] := h.text.resolve_right fun hc => hc.1 rfl
    have hroot : Path.parts (absolute []).toList = [[], []] := by decide
    rw [hroot]
    exact ⟨by simp, rfl⟩
  · have hparts := Disk.parts_absolute h.names hns
    rcases h.text with rfl | ⟨-, htext⟩
    · rw [hparts]
      refine ⟨fun q hq => (List.mem_cons.1 hq).imp id (h.names q), ?_⟩
      rw [List.filter_cons_of_neg (by simp), hkeep]
    · have hblank : Path.parts [] = [[]] := by decide
      rw [htext, parts_append_slash, hparts, hblank]
      refine ⟨fun q hq => ?_, ?_⟩
      · simp only [List.cons_append, List.mem_cons, List.mem_append, List.not_mem_nil, or_false] at hq
        rcases hq with hq | hq | hq
        · exact .inl hq
        · exact .inr (h.names q hq)
        · exact .inl hq
      · rw [List.cons_append, List.filter_cons_of_neg (by simp), List.filter_append, hkeep]
        simp

theorem Through.straight (h : Through path ns) : Straight path :=
  straight_of_parts h.isAbsolute h.parts.1

theorem Through.placeOf_eq (h : Through path ns) :
    placeOf path = ns.map shownPart := by
  rw [Disk.placeOf_eq, h.parts.2]

end VariantForge.Path
