import VariantForge.Proofs.Disk.Lookup

/-!
# Walk — where paths lead

A walk is a list of legs, each up to a link. A walk through a directory goes on from there
(`walk_through`), and where directories and links stay, so does the way to what is there
(`Ways.walk`). Not to follow a link at the end changes nothing else (`walk_self`, `walk_follow`).

A walk that begins inside a directory stays there if it climbs only at its front, no higher than
that directory, and if the links that it meets point to paths of that kind (`walk_inside`).

The bound on links only decides whether a walk ends (`walk_le`).
-/

namespace VariantForge.Disk

variable {d d' : Disk} {follow : Bool} {here p root : Place} {name target : String}
  {ns rest : List String}

/-! ## Equations -/

/-- A name that is walked along: it is not blank and goes neither nowhere nor up. -/
structure IsStep (name : String) : Prop where
  ne_blank : name ≠ ""
  ne_here : name ≠ "."
  ne_up : name ≠ ".."

theorem leg_blank (h : name = "" ∨ name = ".") :
    d.leg follow here (name :: rest) = d.leg follow here rest := by
  rw [leg, if_pos h]

theorem leg_up : d.leg follow here (".." :: rest) = d.leg follow here.dropLast rest := by
  rw [leg, if_neg (by decide), if_pos rfl]

theorem leg_step (h : IsStep name) :
    d.leg follow here (name :: rest) =
      if isLongName name then .stopped .nameTooLong
      else match d.get? (here ++ [name]) with
      | none => if rest.isEmpty then .arrived (here ++ [name]) else .stopped .missing
      | some .directory => d.leg follow (here ++ [name]) rest
      | some (.file ..) =>
        if rest.isEmpty then .arrived (here ++ [name]) else .stopped .notDirectory
      | some (.link target) =>
        if rest.isEmpty && !follow then .arrived (here ++ [name]) else .link here target rest := by
  rw [leg]
  exact (if_neg (not_or.2 ⟨h.ne_blank, h.ne_here⟩)).trans (if_neg h.ne_up)

theorem walk_of_arrived (links : Nat) (h : d.leg follow here ns = .arrived p) :
    d.walk follow links here ns = .ok p := by
  rw [walk, h]

theorem walk_of_link (links : Nat) {there : Place} (h : d.leg follow here ns = .link there target rest) :
    d.walk follow (links + 1) here ns =
      d.walk follow links (if fromRoot target then [] else there) (names target ++ rest) := by
  rw [walk, h]

theorem walk_skip {n : Nat} (h : name = "" ∨ name = ".") :
    d.walk follow n here (name :: rest) = d.walk follow n here rest := by
  rw [walk, leg_blank h, ← walk]

theorem walk_climb {n : Nat} : d.walk follow n here (".." :: rest) = d.walk follow n here.dropLast rest := by
  rw [walk, leg_up, ← walk]

theorem walk_step {n : Nat} (h : IsStep name) :
    d.walk follow n here (name :: rest) =
      if isLongName name then .error .nameTooLong
      else match d.get? (here ++ [name]) with
      | none => if rest.isEmpty then .ok (here ++ [name]) else .error .missing
      | some .directory => d.walk follow n (here ++ [name]) rest
      | some (.file ..) => if rest.isEmpty then .ok (here ++ [name]) else .error .notDirectory
      | some (.link target) =>
        if rest.isEmpty && !follow then .ok (here ++ [name])
        else match n with
        | 0 => .error .tooManyLinks
        | n + 1 => d.walk follow n (if fromRoot target then [] else here) (names target ++ rest) := by
  rw [walk, leg_step h]
  by_cases hlong : isLongName name = true
  · simp only [if_pos hlong]
  simp only [if_neg hlong]
  cases d.get? (here ++ [name]) with
  | none => cases rest <;> rfl
  | some e =>
    cases e with
    | directory => exact (show d.walk follow n (here ++ [name]) rest = _ by rw [walk]).symm
    | file bytes mode => cases rest <;> rfl
    | link target =>
      by_cases hend : (rest.isEmpty && !follow) = true
      · simp only [if_pos hend]
      · cases n <;> simp only [if_neg hend]

theorem walk_blanks {n : Nat} {blank : List String} (h : ∀ b ∈ blank, b = "") : d.walk follow n here blank = .ok here := by
  induction blank with
  | nil => rw [walk, leg]
  | cons b blank ih =>
    rw [walk_skip (.inl (h b (by simp)))]
    exact ih fun c hc => h c (by simp [hc])

theorem walk_blank {n : Nat} : d.walk follow n here ("" :: rest) = d.walk follow n here rest := walk_skip (.inl rfl)

/-- A walk that gets somewhere either needs no link or follows one. -/
theorem walk_ok {links : Nat} (h : d.walk follow links here ns = .ok p) :
    d.leg follow here ns = .arrived p ∨
      ∃ n there target rest, links = n + 1 ∧ d.leg follow here ns = .link there target rest ∧
        d.walk follow n (if fromRoot target then [] else there) (names target ++ rest) = .ok p := by
  rw [walk] at h
  cases hleg : d.leg follow here ns with
  | arrived q =>
    rw [hleg] at h
    cases h
    exact .inl rfl
  | stopped r =>
    rw [hleg] at h
    cases h
  | link there target rest =>
    rw [hleg] at h
    cases links with
    | zero => cases h
    | succ n => exact .inr ⟨n, there, target, rest, rfl, rfl, h⟩

/-! ## Walks through a directory -/

/-- A leg that reaches a directory goes on from there. -/
theorem leg_append_of_arrived {a : List String} (h : d.leg true here a = .arrived p)
    (hp : d.get? p = some .directory) (b : List String) :
    d.leg follow here (a ++ b) = d.leg follow p b := by
  induction a generalizing here with
  | nil =>
    rw [leg] at h
    cases h
    rfl
  | cons name a ih =>
    rw [List.cons_append]
    by_cases hblank : name = "" ∨ name = "."
    · rw [leg_blank hblank] at h ⊢
      exact ih h
    by_cases hup : name = ".."
    · subst hup
      rw [leg_up] at h ⊢
      exact ih h
    have hstep : IsStep name := ⟨fun hn => hblank (.inl hn), fun hn => hblank (.inr hn), hup⟩
    rw [leg_step hstep] at h ⊢
    split at h
    · cases h
    rename_i hlong
    rw [if_neg hlong]
    cases hg : d.get? (here ++ [name]) with
    | none =>
      simp only [hg] at h
      split at h
      · cases h
        rw [hg] at hp
        cases hp
      · cases h
    | some e =>
      cases e with
      | directory =>
        simp only [hg] at h ⊢
        exact ih h
      | file bytes mode =>
        simp only [hg] at h
        split at h
        · cases h
          rw [hg] at hp
          cases hp
        · cases h
      | link target =>
        simp [hg] at h

theorem leg_append_of_link {a : List String} {there : Place}
    (h : d.leg true here a = .link there target rest) (b : List String) (hb : follow = true ∨ b ≠ []) :
    d.leg follow here (a ++ b) = .link there target (rest ++ b) := by
  induction a generalizing here with
  | nil =>
    rw [leg] at h
    cases h
  | cons name a ih =>
    rw [List.cons_append]
    by_cases hblank : name = "" ∨ name = "."
    · rw [leg_blank hblank] at h ⊢
      exact ih h
    by_cases hup : name = ".."
    · subst hup
      rw [leg_up] at h ⊢
      exact ih h
    have hstep : IsStep name := ⟨fun hn => hblank (.inl hn), fun hn => hblank (.inr hn), hup⟩
    rw [leg_step hstep] at h ⊢
    split at h
    · cases h
    rename_i hlong
    rw [if_neg hlong]
    cases hg : d.get? (here ++ [name]) with
    | none =>
      simp only [hg] at h
      split at h <;> cases h
    | some e =>
      cases e with
      | directory =>
        simp only [hg] at h ⊢
        exact ih h
      | file bytes mode =>
        simp only [hg] at h
        split at h <;> cases h
      | link t =>
        simp only [hg, Bool.not_true, Bool.and_false, Bool.false_eq_true, if_false] at h ⊢
        cases h
        have : ((rest ++ b).isEmpty && !follow) = false := by
          rcases hb with rfl | hb
          · simp
          · simp [hb]
        rw [this, if_neg (by simp)]

/-- A walk along names that lead to a directory goes on from that directory. -/
theorem walk_through {m n : Nat} {a b : List String} (ha : d.walk true m here a = .ok root)
    (hroot : d.get? root = some .directory) (hb : follow = true ∨ b ≠ [])
    (h : d.walk follow n here (a ++ b) = .ok p) :
    ∃ n, d.walk follow n root b = .ok p := by
  induction m generalizing here a n with
  | zero =>
    rcases walk_ok ha with hleg | ⟨_, _, _, _, hm, _, _⟩
    · refine ⟨n, ?_⟩
      rw [walk, leg_append_of_arrived hleg hroot, ← walk] at h
      exact h
    · cases hm
  | succ m ih =>
    rcases walk_ok ha with hleg | ⟨_, there, target, rest, hm, hleg, hrest⟩
    · refine ⟨n, ?_⟩
      rw [walk, leg_append_of_arrived hleg hroot, ← walk] at h
      exact h
    · cases hm
      rcases walk_ok h with hleg' | ⟨n', there', target', rest', rfl, hleg', hrest'⟩
      · rw [leg_append_of_link hleg b hb] at hleg'
        cases hleg'
      · rw [leg_append_of_link hleg b hb] at hleg'
        cases hleg'
        rw [← List.append_assoc] at hrest'
        exact ih hrest hrest'

/-! ## Walks without links -/

theorem leg_plain (hs : ∀ n ∈ ns, IsStep n)
    (hl : ∀ a, a <+: ns → a ≠ ns → a ≠ [] → ∀ target, d.get? (here ++ a) ≠ some (.link target)) :
    (∀ p, d.leg false here ns = .arrived p → p = here ++ ns) ∧
      ∀ there target rest, d.leg false here ns ≠ .link there target rest := by
  induction ns generalizing here with
  | nil =>
    rw [leg]
    exact ⟨fun p h => by cases h; simp, fun _ _ _ h => by cases h⟩
  | cons name ns ih =>
    rw [leg_step (hs name (by simp))]
    by_cases hlong : isLongName name = true
    · simp [hlong]
    rw [if_neg hlong]
    have hend (h : ns.isEmpty = true) : here ++ [name] = here ++ name :: ns := by
      rw [List.isEmpty_iff.1 h]
    cases hget : d.get? (here ++ [name]) with
    | none =>
      refine ⟨fun p h => ?_, fun _ _ _ h => ?_⟩
      · dsimp only at h
        split at h
        · rename_i hlast
          cases h
          exact hend hlast
        · cases h
      · dsimp only at h
        split at h <;> cases h
    | some e =>
      cases e with
      | directory =>
        have hlinks : ∀ a, a <+: ns → a ≠ ns → a ≠ [] →
            ∀ target, d.get? (here ++ [name] ++ a) ≠ some (.link target) := by
          intro a ha hne _ target
          rw [List.append_assoc, List.singleton_append]
          exact hl (name :: a) (List.cons_prefix_cons.2 ⟨rfl, ha⟩) (by simpa using hne) (by simp) target
        simpa using ih (fun n hn => hs n (by simp [hn])) hlinks
      | file bytes mode =>
        refine ⟨fun p h => ?_, fun _ _ _ h => ?_⟩
        · dsimp only at h
          split at h
          · rename_i hlast
            cases h
            exact hend hlast
          · cases h
        · dsimp only at h
          split at h <;> cases h
      | link target =>
        cases hns : ns with
        | nil => simp
        | cons m ms =>
          refine absurd hget (hl [name] ?_ ?_ (by simp) target)
          · exact List.cons_prefix_cons.2 ⟨rfl, List.nil_prefix⟩
          · simp [hns]

/-- Where no link is on the way, a walk along names leads where they say. -/
theorem walk_plain {n : Nat} (hs : ∀ n ∈ ns, IsStep n)
    (hl : ∀ a, a <+: ns → a ≠ ns → a ≠ [] → ∀ target, d.get? (here ++ a) ≠ some (.link target))
    (h : d.walk false n here ns = .ok p) : p = here ++ ns := by
  rcases walk_ok h with hleg | ⟨_, _, _, _, _, hleg, _⟩
  · exact (leg_plain hs hl).1 p hleg
  · exact absurd hleg ((leg_plain hs hl).2 _ _ _)

/-! ## Walks in another disk -/

/-- Where the directories and links are the same, names are walked along up to what is there as
before, and so are those up to a link. -/
theorem Ways.leg (hw : Ways d d') :
    (∀ p e, d.leg follow here ns = .arrived p → d.get? p = some e →
        (e.isFile = true → (d'.get? p).any Entry.isFile = true) →
        d'.leg follow here ns = .arrived p) ∧
      ∀ there target rest, d.leg follow here ns = .link there target rest →
        d'.leg follow here ns = .link there target rest := by
  induction ns generalizing here with
  | nil =>
    refine ⟨fun p e h _ _ => ?_, fun there target rest h => ?_⟩
    · rw [Disk.leg] at h ⊢
      exact h
    · rw [Disk.leg] at h
      cases h
  | cons name ns ih =>
    by_cases hblank : name = "" ∨ name = "."
    · rw [leg_blank hblank, leg_blank hblank]
      exact ih
    by_cases hup : name = ".."
    · subst hup
      rw [leg_up, leg_up]
      exact ih
    have hstep : IsStep name := ⟨fun hn => hblank (.inl hn), fun hn => hblank (.inr hn), hup⟩
    rw [leg_step hstep, leg_step hstep]
    by_cases hlong : isLongName name = true
    · simp [hlong]
    rw [if_neg hlong, if_neg hlong]
    cases hget : d.get? (here ++ [name]) with
    | none =>
      refine ⟨fun p e h hp _ => ?_, fun there target rest h => ?_⟩
      · simp only at h
        split at h
        · cases h
          rw [hget] at hp
          cases hp
        · cases h
      · simp only at h
        split at h <;> cases h
    | some x =>
      cases x with
      | directory =>
        rw [hw _ _ hget rfl]
        exact ih
      | file bytes mode =>
        refine ⟨fun p e h hp hfile => ?_, fun there target rest h => ?_⟩
        · simp only at h
          split at h
          · rename_i hlast
            cases h
            rw [hget] at hp
            cases hp
            have hfile := hfile rfl
            cases hget' : d'.get? (here ++ [name]) with
            | none => simp [hget'] at hfile
            | some y => cases y <;> simp [hget', Entry.isFile, hlast] at hfile ⊢
          · cases h
        · simp only at h
          split at h <;> cases h
      | link target =>
        rw [hw _ _ hget rfl]
        exact ⟨fun p e h _ _ => h, fun _ _ _ h => h⟩

/-- The way to what is there stays, if it is there still. -/
theorem Ways.walk (hw : Ways d d') {n : Nat} {e : Entry} (h : d.walk follow n here ns = .ok p)
    (hp : d.get? p = some e) (hfile : e.isFile = true → (d'.get? p).any Entry.isFile = true) :
    d'.walk follow n here ns = .ok p := by
  induction n generalizing here ns with
  | zero =>
    rcases walk_ok h with hleg | ⟨_, _, _, _, hn, _, _⟩
    · exact walk_of_arrived 0 (hw.leg.1 p e hleg hp hfile)
    · cases hn
  | succ n ih =>
    rcases walk_ok h with hleg | ⟨_, there, target, rest, hn, hleg, hrest⟩
    · exact walk_of_arrived _ (hw.leg.1 p e hleg hp hfile)
    · cases hn
      rw [walk_of_link n (hw.leg.2 there target rest hleg)]
      exact ih hrest

theorem Grows.walk (hg : Grows d d') {n : Nat} {e : Entry} (h : d.walk follow n here ns = .ok p)
    (hp : d.get? p = some e) : d'.walk follow n here ns = .ok p :=
  hg.ways.walk h hp fun hfile => hg.files p (by simpa [hp] using hfile)

/-- Where a walk ends at nothing, it ends at what is put there, unless that is a link to be followed. -/
theorem leg_put_new {e : Entry} (hp : d.get? p = none) (he : follow = false ∨ ∀ t, e ≠ .link t)
    (h : d.leg follow here ns = .arrived p) : (d.put p e).leg follow here ns = .arrived p := by
  have hx : Extends d (d.put p e) := .put_new hp
  have hnil : p ≠ [] := by
    rintro rfl
    cases hp
  induction ns generalizing here with
  | nil =>
    rw [Disk.leg] at h ⊢
    exact h
  | cons name ns ih =>
    by_cases hblank : name = "" ∨ name = "."
    · rw [leg_blank hblank] at h ⊢
      exact ih h
    by_cases hup : name = ".."
    · subst hup
      rw [leg_up] at h ⊢
      exact ih h
    have hstep : IsStep name := ⟨fun hn => hblank (.inl hn), fun hn => hblank (.inr hn), hup⟩
    rw [leg_step hstep] at h ⊢
    split at h
    · cases h
    rename_i hlong
    rw [if_neg hlong]
    cases hget : d.get? (here ++ [name]) with
    | none =>
      simp only [hget] at h
      split at h
      · rename_i hlast
        cases h
        rw [get?_put_self hnil]
        cases e with
        | directory =>
          dsimp only
          rw [List.isEmpty_iff.1 hlast, Disk.leg]
        | file bytes mode => exact if_pos hlast
        | link target =>
          rcases he with rfl | he
          · exact if_pos (by simp [hlast])
          · exact absurd rfl (he target)
      · cases h
    | some x =>
      rw [hx _ _ hget]
      cases x with
      | directory =>
        simp only [hget] at h ⊢
        exact ih h
      | file bytes mode =>
        simp only [hget] at h ⊢
        exact h
      | link target =>
        simp only [hget] at h ⊢
        exact h

theorem walk_put_new {n : Nat} {e : Entry} (hp : d.get? p = none)
    (he : follow = false ∨ ∀ t, e ≠ .link t) (h : d.walk follow n here ns = .ok p) :
    (d.put p e).walk follow n here ns = .ok p := by
  have hx : Extends d (d.put p e) := .put_new hp
  induction n generalizing here ns with
  | zero =>
    rcases walk_ok h with hleg | ⟨_, _, _, _, hn, _, _⟩
    · exact walk_of_arrived 0 (leg_put_new hp he hleg)
    · cases hn
  | succ n ih =>
    rcases walk_ok h with hleg | ⟨_, there, target, rest, hn, hleg, hrest⟩
    · exact walk_of_arrived _ (leg_put_new hp he hleg)
    · cases hn
      rw [walk_of_link n (hx.ways.leg.2 there target rest hleg)]
      exact ih hrest

/-! ## Links at the end -/

/-- A leg that does not follow a link at its end differs from one that does only there. -/
theorem leg_self (d : Disk) (here : Place) (ns : List String) :
    d.leg false here ns = d.leg true here ns ∨
      ∃ there target q, d.leg true here ns = .link there target [] ∧
        d.leg false here ns = .arrived q ∧ d.get? q = some (.link target) := by
  induction ns generalizing here with
  | nil => exact .inl (by rw [leg, leg])
  | cons name ns ih =>
    by_cases hblank : name = "" ∨ name = "."
    · rw [leg_blank hblank, leg_blank hblank]
      exact ih _
    by_cases hup : name = ".."
    · subst hup
      rw [leg_up, leg_up]
      exact ih _
    have hstep : IsStep name := ⟨fun hn => hblank (.inl hn), fun hn => hblank (.inr hn), hup⟩
    rw [leg_step hstep, leg_step hstep]
    by_cases hlong : isLongName name = true
    · simp [hlong]
    rw [if_neg hlong, if_neg hlong]
    cases hget : d.get? (here ++ [name]) with
    | none => exact .inl rfl
    | some x =>
      cases x with
      | directory => exact ih _
      | file bytes mode => exact .inl rfl
      | link target =>
        cases ns with
        | nil => exact .inr ⟨here, target, here ++ [name], by simp, by simp, hget⟩
        | cons m ms => exact .inl rfl

/-- Where following the link at the end leads somewhere, there is that place or a link. -/
theorem walk_self {n : Nat} (h : d.walk true n here ns = .ok p) :
    d.walk false n here ns = .ok p ∨
      ∃ q target, d.walk false n here ns = .ok q ∧ d.get? q = some (.link target) := by
  induction n generalizing here ns with
  | zero =>
    rcases walk_ok h with hleg | ⟨_, _, _, _, hn, _, _⟩
    · rcases leg_self d here ns with hself | ⟨_, _, _, hlink, -⟩
      · exact .inl (walk_of_arrived 0 (hself.trans hleg))
      · rw [hlink] at hleg
        cases hleg
    · cases hn
  | succ n ih =>
    rcases leg_self d here ns with hself | ⟨_, target, q, _, hq, hget⟩
    · rcases walk_ok h with hleg | ⟨_, there, target, rest, hn, hleg, hrest⟩
      · exact .inl (walk_of_arrived _ (hself.trans hleg))
      · cases hn
        rw [walk_of_link n (hself.trans hleg)]
        exact ih hrest
    · exact .inr ⟨q, target, walk_of_arrived _ hq, hget⟩

/-- What is no link is where following it leads. -/
theorem walk_follow {n : Nat} (h : d.walk false n here ns = .ok p)
    (hp : ∀ target, d.get? p ≠ some (.link target)) : d.walk true n here ns = .ok p := by
  induction n generalizing here ns with
  | zero =>
    rcases walk_ok h with hleg | ⟨_, _, _, _, hn, _, _⟩
    · rcases leg_self d here ns with hself | ⟨_, target, q, _, hq, hget⟩
      · exact walk_of_arrived 0 (hself.symm.trans hleg)
      · rw [hq] at hleg
        cases hleg
        exact absurd hget (hp target)
    · cases hn
  | succ n ih =>
    rcases leg_self d here ns with hself | ⟨_, target, q, _, hq, hget⟩
    · rcases walk_ok h with hleg | ⟨_, there, target, rest, hn, hleg, hrest⟩
      · exact walk_of_arrived _ (hself.symm.trans hleg)
      · cases hn
        rw [walk_of_link n (hself.symm.trans hleg)]
        exact ih hrest
    · rw [walk_of_arrived _ hq] at h
      cases h
      exact absurd hget (hp target)

/-- A leg along names that end in one that is walked along ends there, or has it still to go. -/
theorem leg_ends {a : List String} (hx : IsStep name) :
    (∀ p, d.leg false here (a ++ [name]) = .arrived p → ∃ q, p = q ++ [name]) ∧
      ∀ there target rest, d.leg false here (a ++ [name]) = .link there target rest →
        ∃ b, rest = b ++ [name] := by
  induction a generalizing here with
  | nil =>
    rw [List.nil_append, leg_step hx]
    by_cases hlong : isLongName name = true
    · simp [hlong]
    rw [if_neg hlong]
    cases d.get? (here ++ [name]) with
    | none => exact ⟨fun p h => by cases h; exact ⟨here, rfl⟩, fun _ _ _ h => by cases h⟩
    | some e =>
      cases e with
      | directory =>
        dsimp only
        rw [leg]
        exact ⟨fun p h => by cases h; exact ⟨here, rfl⟩, fun _ _ _ h => by cases h⟩
      | file bytes mode => exact ⟨fun p h => by cases h; exact ⟨here, rfl⟩, fun _ _ _ h => by cases h⟩
      | link target => exact ⟨fun p h => by cases h; exact ⟨here, rfl⟩, fun _ _ _ h => by cases h⟩
  | cons m a ih =>
    rw [List.cons_append]
    by_cases hblank : m = "" ∨ m = "."
    · rw [leg_blank hblank]
      exact ih
    by_cases hup : m = ".."
    · subst hup
      rw [leg_up]
      exact ih
    have hstep : IsStep m := ⟨fun hn => hblank (.inl hn), fun hn => hblank (.inr hn), hup⟩
    have hmore : (a ++ [name]).isEmpty = false := by simp
    rw [leg_step hstep]
    by_cases hlong : isLongName m = true
    · simp [hlong]
    rw [if_neg hlong]
    cases d.get? (here ++ [m]) with
    | none => simp [hmore]
    | some e =>
      cases e with
      | directory => exact ih
      | file bytes mode => simp [hmore]
      | link target =>
        simp only [hmore, Bool.false_and, Bool.false_eq_true, if_false]
        exact ⟨fun _ h => (by cases h), fun _ _ _ h => by cases h; exact ⟨a, rfl⟩⟩

theorem walk_ends {n : Nat} {a : List String} (hx : IsStep name)
    (h : d.walk false n here (a ++ [name]) = .ok p) : ∃ q, p = q ++ [name] := by
  induction n generalizing here a with
  | zero =>
    rcases walk_ok h with hleg | ⟨_, _, _, _, hn, _, _⟩
    · exact (leg_ends hx).1 p hleg
    · cases hn
  | succ n ih =>
    rcases walk_ok h with hleg | ⟨_, there, target, rest, hn, hleg, hrest⟩
    · exact (leg_ends hx).1 p hleg
    · cases hn
      obtain ⟨b, rfl⟩ := (leg_ends hx).2 there target rest hleg
      rw [← List.append_assoc] at hrest
      exact ih hrest

/-! ## Walks that stay inside -/

/-- Whether names climb only at the front, at most `depth` times. -/
def Descends : Nat → List String → Prop
  | _, [] => True
  | depth, name :: rest =>
    if name = "" ∨ name = "." then Descends depth rest
    else if name = ".." then 0 < depth ∧ Descends (depth - 1) rest
    else ".." ∉ rest

instance : ∀ depth ns, Decidable (Descends depth ns)
  | _, [] => isTrue trivial
  | depth, name :: rest =>
    have := instDecidableDescends depth rest
    have := instDecidableDescends (depth - 1) rest
    inferInstanceAs (Decidable (if name = "" ∨ name = "." then Descends depth rest
      else if name = ".." then 0 < depth ∧ Descends (depth - 1) rest else ".." ∉ rest))

theorem descends_of_notMem {depth : Nat} (h : ".." ∉ ns) : Descends depth ns := by
  induction ns with
  | nil => trivial
  | cons name rest ih =>
    have hrest : ".." ∉ rest := fun hm => h (List.mem_cons_of_mem _ hm)
    rw [Descends]
    split
    · exact ih hrest
    · rw [if_neg fun he => h (by simp [he])]
      exact hrest

theorem Descends.append {depth : Nat} (h : Descends depth ns) (hrest : ".." ∉ rest) :
    Descends depth (ns ++ rest) := by
  induction ns generalizing depth with
  | nil => exact descends_of_notMem hrest
  | cons name ns ih =>
    rw [List.cons_append]
    rw [Descends] at h ⊢
    split at h
    · rename_i hblank
      rw [if_pos hblank]
      exact ih h
    · rename_i hblank
      rw [if_neg hblank]
      split at h
      · rename_i hup
        rw [if_pos hup]
        exact ⟨h.1, ih h.2⟩
      · rename_i hup
        rw [if_neg hup]
        simp [h, hrest]

-- comparing two statements about paths must not take the paths apart
attribute [irreducible] Descends

/-- Whether the links below a directory point to paths that climb only at the front, no higher than
that directory. -/
def LinksStay (d : Disk) (root : Place) : Prop :=
  ∀ q target, root <+: q → d.get? q = some (.link target) →
    fromRoot target = false ∧ Descends (q.length - 1 - root.length) (names target)

theorem leg_inside (hl : d.LinksStay root) (hin : root <+: here)
    (hns : Descends (here.length - root.length) ns) :
    (∀ p, d.leg follow here ns = .arrived p → root <+: p) ∧
      ∀ there target rest, d.leg follow here ns = .link there target rest →
        root <+: there ∧ fromRoot target = false ∧
          Descends (there.length - root.length) (names target ++ rest) := by
  induction ns generalizing here with
  | nil =>
    refine ⟨fun p h => ?_, fun there target rest h => ?_⟩
    · rw [leg] at h
      cases h
      exact hin
    · rw [leg] at h
      cases h
  | cons name ns ih =>
    rw [Descends] at hns
    by_cases hblank : name = "" ∨ name = "."
    · rw [if_pos hblank] at hns
      rw [leg_blank hblank]
      exact ih hin hns
    rw [if_neg hblank] at hns
    by_cases hup : name = ".."
    · rw [if_pos hup] at hns
      subst hup
      rw [leg_up]
      have hlen : here.dropLast.length = here.length - 1 := List.length_dropLast
      have hin' : root <+: here.dropLast :=
        List.prefix_of_prefix_length_le hin (List.dropLast_prefix here) (by omega)
      refine ih hin' ?_
      rw [hlen, Nat.sub_right_comm]
      exact hns.2
    rw [if_neg hup] at hns
    have hstep : IsStep name := ⟨fun hn => hblank (.inl hn), fun hn => hblank (.inr hn), hup⟩
    have hthere : root <+: here ++ [name] := hin.trans (List.prefix_append here [name])
    rw [leg_step hstep]
    by_cases hlong : isLongName name = true
    · simp [hlong]
    rw [if_neg hlong]
    cases hget : d.get? (here ++ [name]) with
    | none =>
      refine ⟨fun p h => ?_, fun there target rest h => ?_⟩
      · simp only at h
        split at h <;> cases h
        exact hthere
      · simp only at h
        split at h <;> cases h
    | some e =>
      cases e with
      | directory => exact ih hthere (descends_of_notMem hns)
      | file bytes mode =>
        refine ⟨fun p h => ?_, fun there target rest h => ?_⟩
        · simp only at h
          split at h <;> cases h
          exact hthere
        · simp only at h
          split at h <;> cases h
      | link target =>
        obtain ⟨hroot, htarget⟩ := hl _ target hthere hget
        refine ⟨fun p h => ?_, fun there t rest h => ?_⟩
        · simp only at h
          split at h <;> cases h
          exact hthere
        · simp only at h
          split at h <;> cases h
          refine ⟨hin, hroot, Descends.append ?_ hns⟩
          simpa using htarget

theorem walk_inside (hl : d.LinksStay root) {n : Nat} (hin : root <+: here)
    (hns : Descends (here.length - root.length) ns) (h : d.walk follow n here ns = .ok p) :
    root <+: p := by
  induction n generalizing here ns with
  | zero =>
    rcases walk_ok h with hleg | ⟨_, _, _, _, hn, _, _⟩
    · exact (leg_inside hl hin hns).1 p hleg
    · cases hn
  | succ n ih =>
    rcases walk_ok h with hleg | ⟨_, there, target, rest, hn, hleg, hrest⟩
    · exact (leg_inside hl hin hns).1 p hleg
    · cases hn
      obtain ⟨hthere, hroot, hnames⟩ := (leg_inside hl hin hns).2 there target rest hleg
      rw [hroot] at hrest
      exact ih hthere hnames hrest

/-! ## Links and starts -/

/-- A walk with a lower bound on its links leads where one with a higher bound leads, or it meets too many. -/
theorem walk_le {m n : Nat} (h : m ≤ n) :
    d.walk follow m here ns = d.walk follow n here ns ∨ d.walk follow m here ns = .error .tooManyLinks := by
  induction m generalizing n here ns with
  | zero =>
    rw [walk, walk]
    cases d.leg follow here ns with
    | arrived p => exact .inl rfl
    | stopped reason => exact .inl rfl
    | link there target rest => exact .inr rfl
  | succ m ih =>
    obtain ⟨k, rfl⟩ : ∃ k, n = k + 1 := ⟨n - 1, by omega⟩
    rw [walk, walk]
    cases d.leg follow here ns with
    | arrived p => exact .inl rfl
    | stopped reason => exact .inl rfl
    | link there target rest => exact ih (by omega)

theorem leg_here (start : Place) : ({ d with here := start } : Disk).leg follow here ns = d.leg follow here ns := by
  induction ns generalizing here with
  | nil => rw [leg, leg]
  | cons name ns ih =>
    rw [leg, leg, ih, ih]
    dsimp only
    rw [ih]
    rfl

/-- Where relative paths start does not matter to a walk. -/
theorem walk_here {n : Nat} (start : Place) :
    ({ d with here := start } : Disk).walk follow n here ns = d.walk follow n here ns := by
  induction n generalizing here ns with
  | zero => rw [walk, walk, leg_here]
  | succ n ih =>
    rw [walk, walk, leg_here]
    cases d.leg follow here ns with
    | arrived p => rfl
    | stopped reason => rfl
    | link there target rest => exact ih

end VariantForge.Disk
