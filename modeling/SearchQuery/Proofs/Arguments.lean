import SearchQuery.Command.Invocation

/-!
# The options of `init`

The command takes no operands, so each of its arguments is an option, or the `--` that ends them.
Hence an option is in force exactly if it stands among the arguments, unless help is asked for.
-/
namespace SearchQuery.Invocation

variable {g g' : Given} {pending : Pending} {arg : String} {args : List String} {cs : List Char}

/-- What is in force after an argument of `init`: what was before, and what the argument names. -/
structure Given.Adds (g : Given) (arg : String) (g' : Given) : Prop where
  global : g'.global = true ↔ g.global = true ∨ arg = "--global"
  force : g'.force = true ↔ g.force = true ∨ arg = "--force"
  operands : g'.operands = g.operands

theorem adds_of_withFlag {name : String} (taken : g.withFlag .init name = some g') :
    g.Adds ("--" ++ name) g' := by
  unfold Given.withFlag at taken
  split at taken
  · cases taken
    exact ⟨by simp, by simp, rfl⟩
  · cases ‹Subcommand.init = .parse›
  · split at taken
    · cases taken
    · cases taken
      exact ⟨by simp, by simp, rfl⟩
  · split at taken
    · cases taken
    · cases taken
      exact ⟨by simp, by simp, rfl⟩
  · cases taken

theorem adds_of_long (text : arg.toList = '-' :: '-' :: cs)
    (read : long .init g cs = some pending) :
    pending = .help g ∨ ∃ g', pending = .nothing g' ∧ g.Adds arg g' := by
  simp only [long, reduceCtorEq, false_and, ite_false] at read
  split at read
  · rename_i plain
    split at read
    · exact .inl (Option.some.inj read).symm
    obtain ⟨g', taken, rfl⟩ := Option.map_eq_some_iff.mp read
    have whole : cs.takeWhile (· ≠ '=') ++ cs.dropWhile (· ≠ '=') = cs :=
      List.takeWhile_append_dropWhile
    rw [plain, List.append_nil] at whole
    have named : "--" ++ String.ofList cs = arg := by
      rw [← String.toList_inj, text]
      simp
    rw [whole] at taken
    exact .inr ⟨g', rfl, named ▸ adds_of_withFlag taken⟩
  · cases read

/-- An argument with one minus sign in front is no long option. -/
theorem ne_long {c : Char} (text : arg.toList = '-' :: c :: cs) (single : c ≠ '-') (name : String) :
    arg ≠ "--" ++ name := by
  rintro rfl
  rw [String.toList_append] at text
  exact single (List.cons.inj (List.cons.inj text).2).1.symm

theorem adds_of_shorts {c : Char} (text : arg.toList = '-' :: c :: cs) (single : c ≠ '-')
    (read : shorts .init g (c :: cs) = some pending) :
    (∃ g', pending = .help g') ∨ ∃ g', pending = .nothing g' ∧ g.Adds arg g' := by
  have raised : ∀ (cs : List Char) (g : Given), shorts .init g cs = some pending →
      (∃ g', pending = .help g') ∨
        ∃ verbose, pending = .nothing { g with verbose := verbose } := by
    intro cs
    induction cs with
    | nil =>
      intro g read
      cases read
      exact .inr ⟨g.verbose, rfl⟩
    | cons c cs ih =>
      intro g read
      unfold shorts at read
      split at read
      · cases ‹c :: cs = []›
      · cases ‹c :: cs = _›
        exact ih { g with verbose := g.verbose + 1 } read
      · exact .inl ⟨g, (Option.some.inj read).symm⟩
      · cases read
      · cases read
  refine (raised _ g read).imp_right ?_
  rintro ⟨verbose, rfl⟩
  have noGlobal : arg ≠ "--global" := ne_long text single "global"
  have noForce : arg ≠ "--force" := ne_long text single "force"
  exact ⟨_, rfl, ⟨by simp [noGlobal], by simp [noForce], rfl⟩⟩

/-- An argument of `init` asks for help, is an operand, or an option that stays in force. -/
theorem adds_of_pending? (read : pending? .init g arg = some pending) :
    (∃ g', pending = .help g') ∨
      ∃ g', pending = .nothing g' ∧ (g'.operands ≠ [] ∨ g.Adds arg g') := by
  unfold pending? at read
  split at read
  · rcases adds_of_long ‹_› read with shape | ⟨g', shape, adds⟩
    · exact .inl ⟨g, shape⟩
    · exact .inr ⟨g', shape, .inr adds⟩
  · refine (adds_of_shorts ‹_› ‹_› read).imp_right ?_
    rintro ⟨g', shape, adds⟩
    exact ⟨g', shape, .inr adds⟩
  · cases read
    exact .inr ⟨_, rfl, .inl (by simp)⟩

theorem behind_ended {subcommand : Subcommand} (g : Given) (args : List String) :
    behind subcommand g ("--" :: args) = some { g with operands := g.operands ++ args } := by
  unfold behind
  exact if_pos rfl

theorem behind_init_cons (open_end : arg ≠ "--") (noHelp : g'.help = false)
    (read : behind .init g (arg :: args) = some g') :
    ∃ g₁, behind .init g₁ args = some g' ∧ (g₁.operands ≠ [] ∨ g.Adds arg g₁) := by
  unfold behind at read
  rw [if_neg open_end] at read
  split at read
  · cases read
  · rename_i taken
    obtain ⟨_, ⟨⟩⟩ | ⟨g₁, ⟨⟩, adds⟩ := adds_of_pending? taken
    exact ⟨_, read, adds⟩
  · cases read
    cases noHelp
  · cases read
  · -- The option would wait for its value, which none of `init` does.
    rename_i taken
    obtain ⟨_, ⟨⟩⟩ | ⟨_, ⟨⟩, -⟩ := adds_of_pending? taken

/-- Without help and operands, the options in force are those among the arguments. -/
theorem options_of_behind (read : behind .init g args = some g') (noHelp : g'.help = false)
    (noOperands : g'.operands = []) :
    g.operands = [] ∧ (g'.global = true ↔ g.global = true ∨ "--global" ∈ args) ∧
      (g'.force = true ↔ g.force = true ∨ "--force" ∈ args) := by
  induction args generalizing g with
  | nil =>
    cases read
    exact ⟨noOperands, by simp, by simp⟩
  | cons arg args ih =>
    by_cases ended : arg = "--"
    · rw [ended, behind_ended] at read
      cases read
      obtain ⟨before, none_left⟩ := List.append_eq_nil_iff.mp noOperands
      subst ended none_left
      exact ⟨before, by simp, by simp⟩
    · obtain ⟨g₁, further, operand | adds⟩ := behind_init_cons ended noHelp read
      · exact absurd (ih further).1 operand
      · obtain ⟨before, global, force⟩ := ih further
        refine ⟨adds.operands ▸ before, ?_, ?_⟩
        · rw [global, adds.global, List.mem_cons, or_assoc, eq_comm (a := arg)]
        · rw [force, adds.force, List.mem_cons, or_assoc, eq_comm (a := arg)]

/-- `init` has the options that stand among the arguments. -/
theorem options_of_init {verbose verbosity : Nat} {global force : Bool}
    (read : ofArguments? verbose args = some ⟨verbosity, .init global force⟩) :
    (global = true ↔ "--global" ∈ args) ∧ (force = true ↔ "--force" ∈ args) := by
  induction args generalizing verbose with
  | nil => cases read
  | cons arg args ih =>
    rw [ofArguments?] at read
    split at read
    · rename_i cs text
      split at read
      · rename_i named
        obtain rfl : arg = "--verbose" := by
          rw [← String.toList_inj, text, ← String.toList_ofList (l := cs), named]
          rfl
        simpa using ih read
      · split at read <;> cases read
    · rename_i c cs single text
      split at read
      · rename_i raised
        have noGlobal : arg ≠ "--global" := ne_long text single "global"
        have noForce : arg ≠ "--force" := ne_long text single "force"
        simpa [noGlobal.symm, noForce.symm] using ih read
      · split at read <;> cases read
    · rename_i noLong noShort
      split at read
      · obtain ⟨topic, -, ⟨⟩⟩ := Option.map_eq_some_iff.mp read
      simp only [Option.bind_eq_bind, Option.bind_eq_some_iff] at read
      obtain ⟨subcommand, named, given', behind_read, command, asked, whole⟩ := read
      cases whole
      have init : subcommand = .init ∧ given'.help = false ∧ given'.operands = [] ∧
          given'.global = global ∧ given'.force = force := by
        unfold command? at asked
        split at asked
        · split at asked <;> cases asked
        · split at asked <;> cases asked
          exact ⟨rfl, Bool.eq_false_iff.mpr ‹_›, ‹_›, rfl, rfl⟩
      obtain ⟨rfl, noHelp, noOperands, rfl, rfl⟩ := init
      have options := (options_of_behind behind_read noHelp noOperands).2
      have noGlobal : arg ≠ "--global" := by
        rintro rfl
        exact noLong "global".toList rfl
      have noForce : arg ≠ "--force" := by
        rintro rfl
        exact noLong "force".toList rfl
      simpa [noGlobal.symm, noForce.symm] using options

end SearchQuery.Invocation
