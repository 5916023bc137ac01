import Mathlib.Data.List.Basic
import VariantForge.CommandLine.Invocation

/-!
# Words of a command line — what stands by position, and where the values of flags come from

The words of a command line are read twice. Once they are gone through from left to right, where each word gets its
role from the role of the word before it (`role`, `getElem?_roles_succ`): what follows a flag with a value is passed
over, whatever it is. And the value of a flag is looked for by itself, after the first place where the flag stands,
also if that place is passed over.

So a word may be taken twice. That happens exactly where a flag stands first as the value of the other, before a
plain word, and where a flag is followed by the word that gives the other its value (`takenOnce_iff`); it does not
happen on a command line on which no flag has a value that looks like a flag (`takenOnce_of_plain`).
-/

namespace VariantForge.Arguments

open Invocation (configFlag profileFlag)

/-! ## From left to right -/

/-- What a word is to the reading from left to right. -/
inductive Role where
  | flag
  | value
  | option
  | position
  deriving DecidableEq

/-- The role of a word that comes after one with some role. -/
def role (flags : List String) (before : Option Role) (a : String) : Role :=
  if before = some .flag then .value
  else if flags.contains a then .flag
  else if Text.startsWith a "--" then .option
  else .position

/-- The roles of words that come after one with some role. -/
def rolesAfter (flags : List String) (before : Option Role) : List String → List Role
  | [] => []
  | a :: rest => role flags before a :: rolesAfter flags (some (role flags before a)) rest

/-- The roles of the words of a command line. -/
def roles (flags args : List String) : List Role := rolesAfter flags none args

/-- The words that have a role, in their order. -/
def wordsOf (r : Role) (args : List String) (roles : List Role) : List String :=
  ((args.zip roles).filter fun w => w.2 = r).map (·.1)

variable {flags args : List String} {name other word a : String} {before : Option Role} {r : Role} {i : Nat}

theorem role_of_flag : role flags (some .flag) a = .value := if_pos rfl

theorem role_eq_flag_iff (hbefore : before ≠ some .flag) : role flags before a = .flag ↔ a ∈ flags := by
  rw [role, if_neg hbefore]
  by_cases h : a ∈ flags
  · simp [h]
  · simp only [List.contains_eq_mem, decide_eq_true_eq, h, if_false, iff_false]
    split <;> simp

theorem role_eq_value_iff : role flags before a = .value ↔ before = some .flag := by
  rw [role]
  split
  · rename_i h
    simp [h]
  · rename_i h
    split
    · simp [h]
    · split <;> simp [h]

theorem role_eq_position_iff :
    role flags before a = .position ↔ before ≠ some .flag ∧ a ∉ flags ∧ Text.startsWith a "--" = false := by
  rw [role]
  split
  · rename_i h
    simp [h]
  · rename_i h
    by_cases hflag : a ∈ flags
    · simp [hflag]
    · by_cases hdash : Text.startsWith a "--" = true
      · simp [h, hflag, hdash]
      · simp [h, hflag, hdash]

/-- A flag is taken for one, unless it is passed over as the value of another. -/
theorem role_of_mem (h : a ∈ flags) : role flags before a = .flag ∨ role flags before a = .value := by
  by_cases hbefore : before = some .flag
  · rw [hbefore]
    exact .inr role_of_flag
  · exact .inl ((role_eq_flag_iff hbefore).2 h)

/-! ### Role by role -/

theorem getElem?_rolesAfter_zero : (rolesAfter flags before args)[0]? = args[0]?.map (role flags before) := by
  cases args <;> rfl

/-- The role of a word is decided by the role of the word before. -/
theorem getElem?_rolesAfter_succ (i : Nat) :
    (rolesAfter flags before args)[i + 1]? =
      args[i + 1]?.map (role flags (rolesAfter flags before args)[i]?) := by
  induction args generalizing before i with
  | nil => rfl
  | cons a rest ih =>
    rw [rolesAfter, List.getElem?_cons_succ, List.getElem?_cons_succ]
    cases i with
    | zero => rw [getElem?_rolesAfter_zero, List.getElem?_cons_zero]
    | succ i => rw [ih, List.getElem?_cons_succ]

theorem getElem?_roles_succ (i : Nat) :
    (roles flags args)[i + 1]? = args[i + 1]?.map (role flags (roles flags args)[i]?) :=
  getElem?_rolesAfter_succ i

/-- Every role is that of a word after some role. -/
theorem exists_role (h : (roles flags args)[i]? = some r) :
    ∃ a before, args[i]? = some a ∧ role flags before a = r := by
  cases i with
  | zero =>
    rw [roles, getElem?_rolesAfter_zero] at h
    obtain ⟨a, ha, hr⟩ := Option.map_eq_some_iff.1 h
    exact ⟨a, _, ha, hr⟩
  | succ i =>
    rw [getElem?_roles_succ] at h
    obtain ⟨a, ha, hr⟩ := Option.map_eq_some_iff.1 h
    exact ⟨a, _, ha, hr⟩

/-- Every word has a role. -/
theorem exists_before (h : args[i]? = some a) : ∃ before, (roles flags args)[i]? = some (role flags before a) := by
  cases i with
  | zero => exact ⟨none, by rw [roles, getElem?_rolesAfter_zero, h, Option.map_some]⟩
  | succ i => exact ⟨_, by rw [getElem?_roles_succ, h, Option.map_some]⟩

/-- What is passed over comes after a flag. -/
theorem exists_flag (h : (roles flags args)[i]? = some .value) :
    ∃ j name, i = j + 1 ∧ args[j]? = some name ∧ name ∈ flags := by
  cases i with
  | zero =>
    rw [roles, getElem?_rolesAfter_zero] at h
    obtain ⟨a, -, ha⟩ := Option.map_eq_some_iff.1 h
    cases role_eq_value_iff.1 ha
  | succ j =>
    rw [getElem?_roles_succ] at h
    obtain ⟨a, -, ha⟩ := Option.map_eq_some_iff.1 h
    obtain ⟨name, before, hname, hflag⟩ := exists_role (role_eq_value_iff.1 ha)
    refine ⟨j, name, rfl, hname, (role_eq_flag_iff fun hbefore => ?_).1 hflag⟩
    rw [hbefore, role_of_flag] at hflag
    cases hflag

/-- The words by position are those whose role it is to be one. -/
theorem positional_eq (flags args : List String) :
    positional flags args = wordsOf .position args (roles flags args) := by
  -- a flag and its value are taken in one step, after which the role of the value does not count
  have hafter : ∀ before, before ≠ some Role.flag →
      positional flags args = wordsOf .position args (rolesAfter flags before args) := by
    fun_induction positional flags args with
    | case1 => intro before _; rfl
    | case2 a hflag =>
      intro before hbefore
      have hrole : role flags before a = .flag := (role_eq_flag_iff hbefore).2 (by simpa using hflag)
      simp [wordsOf, rolesAfter, hrole]
    | case3 a hflag b rest ih =>
      intro before hbefore
      have hrole : role flags before a = .flag := (role_eq_flag_iff hbefore).2 (by simpa using hflag)
      rw [ih (some .value) (by simp)]
      simp [wordsOf, rolesAfter, hrole, role_of_flag]
    | case4 a rest hflag hdash ih =>
      intro before hbefore
      have hrole : role flags before a = .option := by simp_all [role]
      rw [ih (some .option) (by simp)]
      simp [wordsOf, rolesAfter, hrole]
    | case5 a rest hflag hdash ih =>
      intro before hbefore
      have hrole : role flags before a = .position := role_eq_position_iff.2 (by simp_all)
      rw [ih (some .position) (by simp)]
      simp [wordsOf, rolesAfter, hrole]
  exact hafter none (by simp)

/-! ## The value of a flag -/

/-- Where the word stands that comes after the first occurrence of a flag, unless that word is blank. -/
def placeAfter? (name : String) (args : List String) : Option Nat :=
  if (args[args.idxOf name + 1]?).any (!·.isEmpty) then some (args.idxOf name + 1) else none

/-- Where the first word stands that begins with a flag and an equals sign. -/
def placeWithin? (name : String) (args : List String) : Option Nat :=
  args.findIdx? (Text.startsWith · (name ++ "="))

/-- Where the word stands from which the value of a flag is taken. -/
def place? (args : List String) (name : String) : Option Nat := (placeAfter? name args).or (placeWithin? name args)

theorem placeAfter?_eq_some :
    placeAfter? name args = some i ↔ i = args.idxOf name + 1 ∧ ∃ word, args[i]? = some word ∧ word ≠ "" := by
  rw [placeAfter?]
  constructor
  · intro h
    split at h
    · rename_i hany
      cases h
      cases hword : args[args.idxOf name + 1]? with
      | none => simp [hword] at hany
      | some word => exact ⟨rfl, word, rfl, by simpa [hword] using hany⟩
    · cases h
  · rintro ⟨rfl, word, hword, hne⟩
    rw [if_pos (by simp [hword, hne])]

/-- A flag with a word after its first occurrence stands there. -/
theorem getElem?_before_place (h : placeAfter? name args = some i) : args[args.idxOf name]? = some name := by
  obtain ⟨rfl, word, hword, -⟩ := placeAfter?_eq_some.1 h
  have hlt : args.idxOf name + 1 < args.length := (List.getElem?_eq_some_iff.1 hword).1
  exact List.getElem?_idxOf (List.idxOf_lt_length_iff.1 (by omega))

theorem valueAfter_eq (name : String) (args : List String) :
    valueAfter name args = (placeAfter? name args).bind (args[·]?) := by
  induction args with
  | nil => rfl
  | cons a rest ih =>
    rw [valueAfter, placeAfter?]
    by_cases ha : a = name
    · rw [if_pos ha, List.idxOf_cons, ha]
      cases rest with
      | nil => simp
      | cons b rest => by_cases hb : b = "" <;> simp [hb]
    · rw [if_neg ha, ih, placeAfter?, List.idxOf_cons_ne _ ha, List.getElem?_cons_succ]
      by_cases hany : (rest[rest.idxOf name + 1]?).any (!·.isEmpty) = true
      · rw [if_pos hany, if_pos hany]
        rfl
      · rw [if_neg hany, if_neg hany]
        rfl

theorem valueWithin_eq (name : String) (args : List String) :
    valueWithin name args =
      (placeWithin? name args).bind fun i => args[i]?.map fun a => String.ofList (a.toList.drop (name.length + 1)) := by
  rw [valueWithin, List.find?_eq_bind_findIdx?_getElem?, Option.map_bind]
  rfl

/-- The value of a flag is the word at its place, or what that word says after the equals sign. -/
theorem value?_eq (args : List String) (name : String) :
    value? args name =
      match placeAfter? name args with
      | some i => args[i]?
      | none => (placeWithin? name args).bind fun i =>
          args[i]?.map fun a => String.ofList (a.toList.drop (name.length + 1)) := by
  rw [value?, valueAfter_eq, valueWithin_eq]
  cases hafter : placeAfter? name args with
  | none => rfl
  | some i =>
    obtain ⟨-, word, hword, -⟩ := placeAfter?_eq_some.1 hafter
    simp [hword]

theorem startsWith_iff {s start : String} : Text.startsWith s start = true ↔ start.toList <+: s.toList :=
  List.isPrefixOf_iff_prefix

theorem placeWithin?_spec (h : placeWithin? name args = some i) :
    ∃ word, args[i]? = some word ∧ (name ++ "=").toList <+: word.toList := by
  obtain ⟨hi, hword, -⟩ := List.findIdx?_eq_some_iff_getElem.1 h
  exact ⟨args[i], List.getElem?_eq_getElem hi, startsWith_iff.1 hword⟩

/-! ## Words that are taken twice -/

/-- The flags that take a value. -/
def valued : List String := [configFlag, profileFlag]

/-- Whether no word of a command line is taken twice: none by position is the value of a flag, and none is the value
of both flags. -/
def TakenOnce (args : List String) : Prop :=
  (∀ name ∈ valued, ∀ i, place? args name = some i → (roles valued args)[i]? ≠ some .position) ∧
    ∀ i, place? args configFlag = some i → place? args profileFlag ≠ some i

/-- Whether the first occurrence of a flag is passed over as the value of another, and the word after it, which is the
value of the flag, stands by position. -/
def PassedOver (args : List String) (name : String) : Prop :=
  ∃ word, args[args.idxOf name + 1]? = some word ∧ word ≠ "" ∧
    (roles valued args)[args.idxOf name]? = some .value ∧ Text.startsWith word "--" = false

/-- Whether the word after the first occurrence of a flag, which is its value, is also the first word that gives
another flag its value with an equals sign, and counts for that. -/
def Shares (args : List String) (name other : String) : Prop :=
  placeAfter? name args = some (args.idxOf name + 1) ∧ placeAfter? other args = none ∧
    placeWithin? other args = some (args.idxOf name + 1)

theorem dashes_of_valued (h : name ∈ valued) : "--".toList <+: name.toList := by
  have hall : ∀ name ∈ valued, "--".toList <+: name.toList := by decide
  exact hall name h

theorem dashes_of_assigning (h : name ∈ valued) : "--".toList <+: (name ++ "=").toList := by
  refine (dashes_of_valued h).trans ?_
  rw [String.toList_append]
  exact List.prefix_append _ _

/-- No word by position gives a flag its value with an equals sign. -/
theorem placeWithin?_not_position (hname : name ∈ valued) (h : placeWithin? name args = some i) :
    (roles valued args)[i]? ≠ some .position := by
  intro hrole
  obtain ⟨word, hword, hstart⟩ := placeWithin?_spec h
  obtain ⟨a, before, ha, hposition⟩ := exists_role hrole
  obtain rfl : word = a := Option.some.inj (hword.symm.trans ha)
  have hdashes : "--".toList <+: word.toList := (dashes_of_assigning hname).trans hstart
  have hnone := (role_eq_position_iff.1 hposition).2.2
  rw [startsWith_iff.2 hdashes] at hnone
  cases hnone

theorem position_iff (hname : name ∈ valued) :
    (∃ i, place? args name = some i ∧ (roles valued args)[i]? = some .position) ↔ PassedOver args name := by
  constructor
  · rintro ⟨i, hplace, hrole⟩
    rcases Option.or_eq_some_iff.1 hplace with hafter | ⟨-, hwithin⟩
    · obtain ⟨rfl, word, hword, hne⟩ := placeAfter?_eq_some.1 hafter
      rw [getElem?_roles_succ, hword, Option.map_some, Option.some.injEq] at hrole
      obtain ⟨hnot, -, hdash⟩ := role_eq_position_iff.1 hrole
      -- the flag has one of two roles, and one of them would take the word with it
      obtain ⟨before, hbefore⟩ :
          ∃ before, (roles valued args)[args.idxOf name]? = some (role valued before name) :=
        exists_before (getElem?_before_place hafter)
      have hroles : role valued before name = .flag ∨ role valued before name = .value := role_of_mem hname
      rcases hroles with hflag | hvalue
      · rw [hbefore, hflag] at hnot
        exact absurd rfl hnot
      · exact ⟨word, hword, hne, by rw [hbefore, hvalue], hdash⟩
    · exact absurd hrole (placeWithin?_not_position hname hwithin)
  · rintro ⟨word, hword, hne, hvalue, hdash⟩
    have hafter : placeAfter? name args = some (args.idxOf name + 1) := placeAfter?_eq_some.2 ⟨rfl, word, hword, hne⟩
    refine ⟨args.idxOf name + 1, by rw [place?, hafter]; rfl, ?_⟩
    rw [getElem?_roles_succ, hword, hvalue, Option.map_some, Option.some.injEq]
    refine role_eq_position_iff.2 ⟨by simp, fun hmem => ?_, hdash⟩
    rw [startsWith_iff.2 (dashes_of_valued hmem)] at hdash
    cases hdash

/-- No word gives two flags their values with equals signs. -/
theorem placeWithin?_ne (h : placeWithin? configFlag args = some i) : placeWithin? profileFlag args ≠ some i := by
  intro h'
  obtain ⟨word, hword, hstart⟩ := placeWithin?_spec h
  obtain ⟨word', hword', hstart'⟩ := placeWithin?_spec h'
  obtain rfl : word = word' := Option.some.inj (hword.symm.trans hword')
  rcases List.prefix_or_prefix_of_prefix hstart hstart' with hpre | hpre
  · exact absurd hpre (by decide)
  · exact absurd hpre (by decide)

/-- No word comes after the first occurrences of two flags. -/
theorem placeAfter?_ne (hne : name ≠ other) (h : placeAfter? name args = some i) : placeAfter? other args ≠ some i := by
  intro h'
  have hidx : args.idxOf name = args.idxOf other := by
    have := (placeAfter?_eq_some.1 h).1
    have := (placeAfter?_eq_some.1 h').1
    omega
  have hname := getElem?_before_place h
  rw [hidx, getElem?_before_place h'] at hname
  exact hne (Option.some.inj hname).symm

theorem place?_eq_some : place? args name = some i ↔
    placeAfter? name args = some i ∨ placeAfter? name args = none ∧ placeWithin? name args = some i :=
  Option.or_eq_some_iff

theorem Shares.place (h : Shares args name other) :
    place? args name = some (args.idxOf name + 1) ∧ place? args other = some (args.idxOf name + 1) :=
  ⟨place?_eq_some.2 (.inl h.1), place?_eq_some.2 (.inr h.2)⟩

theorem shares_of_places (hafter : placeAfter? name args = some i) (hnone : placeAfter? other args = none)
    (hwithin : placeWithin? other args = some i) : Shares args name other := by
  obtain ⟨rfl, -⟩ := placeAfter?_eq_some.1 hafter
  exact ⟨hafter, hnone, hwithin⟩

theorem shared_iff :
    (∃ i, place? args configFlag = some i ∧ place? args profileFlag = some i) ↔
      Shares args configFlag profileFlag ∨ Shares args profileFlag configFlag := by
  constructor
  · rintro ⟨i, hconfig, hprofile⟩
    rcases place?_eq_some.1 hconfig with hconfig | ⟨hconfig, hconfig'⟩ <;>
      rcases place?_eq_some.1 hprofile with hprofile | ⟨hprofile, hprofile'⟩
    · exact absurd hprofile (placeAfter?_ne (by decide) hconfig)
    · exact .inl (shares_of_places hconfig hprofile hprofile')
    · exact .inr (shares_of_places hprofile hconfig hconfig')
    · exact absurd hprofile' (placeWithin?_ne hconfig')
  · rintro (h | h)
    · exact ⟨_, h.place⟩
    · exact ⟨_, h.place.symm⟩

/-- On every command line the words by position are those of that role, in their order, and the value of a flag is
the word at its place, or what that word says after the equals sign. No word is taken twice exactly if neither flag is
passed over before a plain word and neither shares the word after it with the other. -/
theorem takenOnce_iff (args : List String) :
    positional [configFlag, profileFlag] args = wordsOf .position args (roles valued args) ∧
      (∀ name, value? args name =
        match placeAfter? name args with
        | some i => args[i]?
        | none => (placeWithin? name args).bind fun i =>
            args[i]?.map fun a => String.ofList (a.toList.drop (name.length + 1))) ∧
      (TakenOnce args ↔ (∀ name ∈ valued, ¬ PassedOver args name) ∧
        ¬ Shares args configFlag profileFlag ∧ ¬ Shares args profileFlag configFlag) := by
  refine ⟨positional_eq valued args, value?_eq args, and_congr ?_ ?_⟩
  · refine forall₂_congr fun name hname => ?_
    rw [← position_iff hname, not_exists]
    exact forall_congr' fun i => not_and.symm
  · rw [← not_or, ← shared_iff, not_exists]
    exact forall_congr' fun i => not_and.symm

/-- A flag that stands first as the value of the other takes a word by position for its value, and the word that gives
the other its value may be the value of a flag before it. -/
theorem not_takenOnce :
    (¬ TakenOnce ["--profile", "--config", "tiger"] ∧
      positional [configFlag, profileFlag] ["--profile", "--config", "tiger"] = ["tiger"] ∧
      value? ["--profile", "--config", "tiger"] configFlag = some "tiger") ∧
    ¬ TakenOnce ["--config", "--profile=ci"] ∧
      value? ["--config", "--profile=ci"] configFlag = some "--profile=ci" ∧
      value? ["--config", "--profile=ci"] profileFlag = some "ci" := by
  refine ⟨⟨fun h => ?_, by decide +kernel⟩, fun h => ?_, by decide +kernel⟩
  · exact h.1 configFlag (by decide) 2 (by decide +kernel) (by decide +kernel)
  · exact h.2 1 (by decide +kernel) (by decide +kernel)

/-- Where no flag is followed by a word that looks like a flag no word is taken twice. -/
theorem takenOnce_of_plain (h : ∀ name ∈ valued, ∀ i word, args[i]? = some name → args[i + 1]? = some word →
    Text.startsWith word "--" = false) : TakenOnce args := by
  have hplain {name word : String} {i : Nat} (hname : name ∈ valued) (ha : args[i]? = some name)
      (hword : args[i + 1]? = some word) : ¬ "--".toList <+: word.toList := fun hdashes => by
    have hnone := h name hname i word ha hword
    rw [startsWith_iff.2 hdashes] at hnone
    cases hnone
  have hshares {name other : String} (hname : name ∈ valued) (hother : other ∈ valued) : ¬ Shares args name other := by
    rintro ⟨hafter, -, hwithin⟩
    obtain ⟨word, hword, hstart⟩ := placeWithin?_spec hwithin
    exact hplain hname (getElem?_before_place hafter) hword ((dashes_of_assigning hother).trans hstart)
  refine ⟨fun name hname i hplace hrole => ?_, fun i hconfig hprofile => ?_⟩
  · obtain ⟨word, hword, hne, hvalue, -⟩ := (position_iff hname).1 ⟨i, hplace, hrole⟩
    -- the flag is passed over, so it is the word after another
    obtain ⟨j, flag, hj, hflag, hmem⟩ := exists_flag hvalue
    have hfirst := getElem?_before_place (placeAfter?_eq_some.2 ⟨rfl, word, hword, hne⟩)
    rw [hj] at hfirst
    exact hplain hmem hflag hfirst (dashes_of_valued hname)
  · rcases shared_iff.1 ⟨i, hconfig, hprofile⟩ with hshared | hshared
    · exact hshares (by decide) (by decide) hshared
    · exact hshares (by decide) (by decide) hshared

end VariantForge.Arguments
