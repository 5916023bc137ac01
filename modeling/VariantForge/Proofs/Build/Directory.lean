import VariantForge.Proofs.Path.Joined
import VariantForge.Proofs.Run.Course

/-!
# The build directory

A build comes to its directory in three ways: it removes it with all that is in it, it tells both of
its programs to build there, and it names what they made there. The first and the last join the
configured path to the working copy, the programs resolve it from there (`run_worksIn`). That is one
place, and one below every working copy, exactly if the configured path leads below whatever directory
it is read from (`run_directory`).
-/

namespace VariantForge

open Path Forge

/-- The directory that a step's program is told to build in, which is what follows `setup` or `-C`. The
program resolves it from where it is run. -/
def Command.buildsIn (here : String) (cmd : Command) : Option String :=
  match cmd.directory, cmd.arguments with
  | some root, first :: directory :: _ =>
    if first = "setup" ∨ first = "-C" then some (resolve here [root, directory]) else none
  | _, _ => none

namespace Build

variable {o : Outside} {opts : BuildOptions} {c : WorkingCopy} {t : Toolchain} {label : String}

/-- The path of the build directory, as it is removed. -/
def directory (opts : BuildOptions) (c : WorkingCopy) : String := join [c.root, opts.directory]

/-- Whether a build that goes through some moments has removed a directory before the first of them, tells
each command to build in another, and finds what both commands made in the first. -/
structure WorksIn (opts : BuildOptions) (c : WorkingCopy) (removed : String) (told : String → String)
    (l : List Moment) (r : Except Failure BuildResult) : Prop where
  removes : ∀ m ∈ l.head?, ∃ d : Disk, d.removeAll removed = .ok m.world.disk
  tells : ∀ m ∈ l, ∃ cmd, m.event = .ran cmd ∧ ∀ here, cmd.buildsIn here = some (told here)
  gives : ∀ b, r = .ok b → l.length = 2 ∧ b.artifact = join [removed, opts.target]

theorem command_buildsIn {cmd : Command} (h : cmd ∈ commands o opts c t label) (here : String) :
    cmd.buildsIn here = some (resolve here [c.root, opts.directory]) := by
  rcases List.mem_cons.1 h with rfl | h
  · rfl
  · obtain rfl := List.mem_singleton.1 h
    rfl

/-- A build removes nothing recursively but its directory. -/
theorem run_removes : Within o (fun a => ∀ path, a = .removeAll path → path = directory opts c)
    (run o opts c t label) := by
  refine (run_within t).mono fun a ha path hpath => ?_
  subst hpath
  cases ha with
  | clear => rfl

/-- A build removes its directory as it is joined to the working copy, its programs are told it as they
resolve it from there, and its result is in the former. -/
theorem run_worksIn (w : World) :
    Yields o isCommand w (run o opts c t label) fun l r _ =>
      WorksIn opts c (directory opts c) (fun here => resolve here [c.root, opts.directory]) l r := by
  have hnone {f : Failure} : WorksIn opts c (directory opts c)
      (fun here => resolve here [c.root, opts.directory]) [] (.error f) :=
    ⟨by simp, by simp, nofun⟩
  refine .makeDirectories_bind (fun _ _ _ => hnone) fun w₁ _ => ?_
  refine .change_bind (fun _ _ => hnone) fun d₂ _ => ?_
  refine .change_bind (fun _ _ => hnone) fun d₃ _ => ?_
  refine .change_bind (fun _ _ => hnone) fun d₄ hclear => ?_
  have hbuilds {cmd : Command} (h : cmd ∈ commands o opts c t label) := command_buildsIn h
  have hconfigure := hbuilds (List.mem_cons_self ..)
  have hcompile := hbuilds (List.mem_cons_of_mem _ (List.mem_singleton.2 rfl))
  refine .log_bind rfl ((runStep_yields _ _ _ _ _).bind ?_ ?_)
  · rintro l _ w₅ ⟨rfl, -⟩
    refine .log_bind rfl ((runStep_yields _ _ _ _ _).bind ?_ ?_)
    · rintro l _ w₆ ⟨rfl, -⟩
      refine .pure ⟨?_, List.forall_mem_cons.2 ⟨⟨_, rfl, hconfigure⟩,
        List.forall_mem_singleton.2 ⟨_, rfl, hcompile⟩⟩, ?_⟩
      · rintro m ⟨⟩
        exact ⟨d₃, hclear⟩
      · rintro b ⟨⟩
        exact ⟨rfl, rfl⟩
    · rintro l f w₆ ⟨rfl, -⟩
      refine ⟨?_, List.forall_mem_cons.2 ⟨⟨_, rfl, hconfigure⟩,
        List.forall_mem_singleton.2 ⟨_, rfl, hcompile⟩⟩, nofun⟩
      rintro m ⟨⟩
      exact ⟨d₃, hclear⟩
  · rintro l f w₅ ⟨rfl, -⟩
    refine ⟨?_, List.forall_mem_singleton.2 ⟨_, rfl, hconfigure⟩, nofun⟩
    rintro m ⟨⟩
    exact ⟨d₃, hclear⟩

/-- Whatever it is configured with, a build removes one path with all below it, tells its programs one and names
its result in one. The three are one place, strictly below the working copy, in every working copy exactly if the
configured directory leads below whatever directory it is read from. -/
theorem run_directory (o : Outside) (opts : BuildOptions) (t : Toolchain) (label : String) :
    (∀ c, Within o (fun a => ∀ path, a = .removeAll path → path = directory opts c) (run o opts c t label) ∧
        ∀ w, Yields o isCommand w (run o opts c t label) fun l r _ =>
          WorksIn opts c (directory opts c) (fun here => resolve here [c.root, opts.directory]) l r) ∧
      ((∀ (c : WorkingCopy) here,
          components (resolve here [directory opts c]) = components (resolve here [c.root, opts.directory]) ∧
            Below (resolve here [c.root]) (resolve here [directory opts c])) ↔
        LeadsBelow opts.directory) := by
  refine ⟨fun c => ⟨run_removes, run_worksIn⟩, ?_⟩
  rw [← leadsBelow_iff]
  exact ⟨fun h here root => h ⟨root, "", "", "", default, none, false⟩ here, fun h c here => h here c.root⟩

/-- Builds in an absolute directory. -/
def absoluteOptions : BuildOptions :=
  { chamber := "/c", directory := "/tmp/b", target := "out.so", configureLogTail := .ofNat 30
    compileLogTail := .ofNat 50
    profile := { apiLevel := .ofNat 35, hostTag := "linux-x86_64", ccache := false } }

/-- An absolute build directory is removed below the working copy, and built in where it is. -/
theorem absolute_directory_apart :
    components (resolve "/" [directory absoluteOptions ⟨"/c/mesa", "", "", "", default, none, false⟩]) =
        ["c", "mesa", "tmp", "b"] ∧
      components (resolve "/" ["/c/mesa", absoluteOptions.directory]) = ["tmp", "b"] := by
  decide +kernel

end Build

end VariantForge
