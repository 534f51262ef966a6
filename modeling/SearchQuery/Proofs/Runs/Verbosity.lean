import Mathlib.Data.List.Basic
import Mathlib.Data.List.Flatten
import SearchQuery.Command.Run
import SearchQuery.Proofs.Settings.Walk

/-!
# Verbosity

Raising the log in front of a command adds log lines and changes nothing else. Every command does
its work without the verbosity, which decides only afterwards which of the notes are written; what
is written up to a level is a part of what is written up to a higher one, in the same order.
-/
namespace SearchQuery

open scoped List

/-! ### Levels, and the notes shown -/

theorem Level.rank_next (level : Level) : level.next.rank = min (level.rank + 1) trace.rank := by
  cases level <;> rfl

theorem Level.rank_le_trace (level : Level) : level.rank ≤ trace.rank := by
  cases level <;> decide

theorem Level.rank_raised (level : Level) (steps : Nat) :
    (level.raised steps).rank = min (level.rank + steps) trace.rank := by
  induction steps generalizing level with
  | zero => exact (Nat.min_eq_left level.rank_le_trace).symm
  | succ steps ih =>
    rw [raised, ih, rank_next]
    omega

theorem Level.rank_raised_le (level : Level) {steps steps' : Nat} (fewer : steps ≤ steps') :
    (level.raised steps).rank ≤ (level.raised steps').rank := by
  rw [rank_raised, rank_raised]
  omega

variable {low high : Level}

theorem Note.isShown_of_le (below : low.rank ≤ high.rank) (note : Note)
    (shown : note.isShown low = true) : note.isShown high = true := by
  cases note with
  | event e => exact decide_eq_true (Nat.le_trans (of_decide_eq_true shown) below)
  | complaint c => rfl

namespace Outcome

variable {o o' : Outcome}

/-- The lines written beside the result, the last being the empty one behind the last line end. -/
def errorLines (o : Outcome) : List (List Char) := Text.split '\n' o.stderr.toList

/-- What is left of an outcome if events are logged up to a level. -/
def upTo (o : Outcome) (level : Level) : Outcome :=
  { o with notes := o.notes.filter (Note.isShown level) }

theorem split_unlines (lines : List String) : Text.split '\n' (unlines lines).toList =
    lines.flatMap (fun line => Text.split '\n' line.toList) ++ [[]] := by
  rw [unlines, String.toList_join]
  induction lines with
  | nil => rfl
  | cons line lines ih =>
    rw [List.map_cons, List.flatMap_cons, String.toList_append, List.append_assoc,
      show "\n".toList = ['\n'] from rfl, List.singleton_append, Text.split_append_separator, ih,
      List.flatMap_cons, List.append_assoc]

theorem errorLines_sublist (fewer : o.notes <+ o'.notes) : o.errorLines <+ o'.errorLines := by
  rw [errorLines, errorLines, stderr, stderr, split_unlines, split_unlines]
  exact ((fewer.flatMap _).flatMap _).append (List.Sublist.refl _)

theorem errorLines_upTo_sublist (o : Outcome) (below : low.rank ≤ high.rank) :
    (o.upTo low).errorLines <+ (o.upTo high).errorLines :=
  errorLines_sublist (List.monotone_filter_right o.notes (Note.isShown_of_le below))

/-- Complaints are written at any level. -/
theorem upTo_eq_self (complaints : ∀ note ∈ o.notes, ∃ c, note = .complaint c) (level : Level) :
    o.upTo level = o := by
  have all : o.notes.filter (Note.isShown level) = o.notes := by
    refine List.filter_eq_self.mpr fun note member => ?_
    obtain ⟨c, rfl⟩ := complaints note member
    rfl
  rw [upTo, all]

end Outcome

/-! ### Arguments that raise the log -/

namespace Invocation

/-- The arguments raise the log so many times: `--verbose` once, `-v` once for each `v`. -/
inductive Raises : List String → Nat → Prop
  | none : Raises [] 0
  | long {front : List String} {n : Nat} (others : Raises front n) :
      Raises ("--verbose" :: front) (n + 1)
  | short {front : List String} {n : Nat} (count : Nat) (others : Raises front n) :
      Raises (String.ofList ('-' :: List.replicate (count + 1) 'v') :: front) (n + (count + 1))

variable {front front' args : List String} {m n : Nat}

theorem ofArguments?_of_raises (raises : Raises front n) (verbose : Nat) :
    ofArguments? verbose (front ++ args) = ofArguments? (verbose + n) args := by
  induction raises generalizing verbose with
  | none => rfl
  | long _ ih =>
    rw [← Nat.add_comm 1, ← Nat.add_assoc, ← ih]
    rfl
  | short count _ ih =>
    rw [← Nat.add_comm (count + 1), ← Nat.add_assoc, ← ih, List.cons_append, ofArguments?]
    simp [List.replicate_succ]

theorem rel_bind {α β : Type} {r : β → β → Prop} {f g : α → Option β} (o : Option α)
    (alike : ∀ a, Option.Rel r (f a) (g a)) : Option.Rel r (o >>= f) (o >>= g) := by
  cases o with
  | none => exact .none
  | some a => exact alike a

/-- How often the log has been raised before decides nothing but the verbosity, which it does not
lower. -/
theorem ofArguments?_alike (args : List String) (m n : Nat) :
    Option.Rel (fun i i' => i.command = i'.command ∧ (m ≤ n → i.verbosity ≤ i'.verbosity))
      (ofArguments? m args) (ofArguments? n args) := by
  induction args generalizing m n with
  | nil => exact .none
  | cons arg args ih =>
    have capped : m ≤ n → min m verbosityLimit ≤ min n verbosityLimit := by omega
    rw [ofArguments?, ofArguments?]
    split
    · split
      · simpa only [Nat.add_le_add_iff_right] using ih (m + 1) (n + 1)
      · split
        · exact .some ⟨rfl, capped⟩
        · exact .none
    · rename_i c cs _ _
      split
      · simpa only [Nat.add_le_add_iff_right] using ih (m + (c :: cs).length) (n + (c :: cs).length)
      · split
        · exact .some ⟨rfl, capped⟩
        · exact .none
    · split
      · cases Topic.ofNames? args with
        | none => exact .none
        | some topic => exact .some ⟨rfl, capped⟩
      · refine rel_bind _ fun subcommand => rel_bind _ fun given => rel_bind _ fun command => ?_
        refine .some ⟨rfl, fun fewer => ?_⟩
        dsimp only
        split <;> omega

/-- With the log raised in front, the same arguments are a usage error, or name the same command. -/
theorem read_alike (raises : Raises front m) (raises' : Raises front' n) :
    (ofArguments? 0 (front ++ args) = none ∧ ofArguments? 0 (front' ++ args) = none) ∨
    ∃ verbosity verbosity' command, ofArguments? 0 (front ++ args) = some ⟨verbosity, command⟩ ∧
      ofArguments? 0 (front' ++ args) = some ⟨verbosity', command⟩ ∧
      (m ≤ n → verbosity ≤ verbosity') := by
  rw [ofArguments?_of_raises raises, ofArguments?_of_raises raises', Nat.zero_add, Nat.zero_add]
  have alike := ofArguments?_alike args m n
  generalize ofArguments? m args = read, ofArguments? n args = read' at alike ⊢
  cases alike with
  | none => exact .inl ⟨rfl, rfl⟩
  | @some i i' louder =>
    obtain ⟨verbosity, command⟩ := i
    obtain ⟨rfl, order⟩ := louder
    exact .inr ⟨_, _, _, rfl, rfl, order⟩

end Invocation

/-! ### What the verbosity decides -/

namespace Run

variable {s : Surroundings} {arguments front front' : List String} {m n : Nat}

/-- The level that the settings set, if they can be loaded. -/
def settingsLevel? (s : Surroundings) : Option Level :=
  (context s).toOption.map (·.settings.level)

/-- The level that is configured for a command; `init` and help work without the settings. -/
def configured? (s : Surroundings) : Command → Option Level
  | .init _ _ | .help _ => some ({} : Settings).level
  | _ => settingsLevel? s

/-- The level up to which a run logs: what is configured, raised by the verbosity. -/
def logLevel? (s : Surroundings) (arguments : List String) : Option Level :=
  (Invocation.ofArguments? 0 arguments).bind fun i =>
    (configured? s i.command).map fun level => level.raised i.verbosity

theorem exists_loaded_eq (s : Surroundings) (work : Settings → Outcome) :
    ∃ o : Outcome, ∀ verbosity, loaded s verbosity work =
      (settingsLevel? s).elim o fun level => o.upTo (level.raised verbosity) := by
  cases loads : context s with
  | error complaint =>
    refine ⟨failed s complaint, fun verbosity => ?_⟩
    rw [loaded, settingsLevel?, loads]
    rfl
  | ok effective =>
    refine ⟨work effective.settings, fun verbosity => ?_⟩
    rw [loaded, settingsLevel?, loads]
    rfl

theorem init_complains (s : Surroundings) (global force : Bool) :
    ∀ note ∈ (init s global force).notes, ∃ c, note = .complaint c := by
  have alone : ∀ complaint, ∀ note ∈ (failed s complaint).notes, ∃ c, note = .complaint c :=
    fun complaint _ member => ⟨complaint, List.mem_singleton.mp member⟩
  unfold init
  split
  · exact alone _
  · split
    · exact alone _
    · split
      · exact alone _
      · split
        · exact alone _
        · simp

/-- A command does its work without the verbosity, which decides only what is logged. -/
theorem exists_invocation_eq (s : Surroundings) (command : Command) :
    ∃ o : Outcome, ∀ verbosity, invocation s ⟨verbosity, command⟩ =
      (configured? s command).elim o fun level => o.upTo (level.raised verbosity) := by
  cases command with
  | parse queries format raw =>
    exact exists_loaded_eq s fun settings => parse settings queries format raw s.store
  | tokens query =>
    exact exists_loaded_eq s fun _ => ⟨0, unlines (tokenLines (tokens query)), [], s.store⟩
  | config =>
    exact exists_loaded_eq s fun settings =>
      ⟨0, configText (s.settingsFiles s.here.path) settings, [], s.store⟩
  | init global force =>
    have complaints := init_complains s global force
    exact ⟨init s global force, fun _ => (Outcome.upTo_eq_self complaints _).symm⟩
  | help topic => exact ⟨⟨0, unlines topic.lines, [], s.store⟩, fun _ => rfl⟩

theorem run_of_read {i : Invocation} (read : Invocation.ofArguments? 0 arguments = some i) :
    run s arguments = invocation s i := by
  rw [run, read]

theorem logLevel?_of_read {i : Invocation} (read : Invocation.ofArguments? 0 arguments = some i) :
    logLevel? s arguments =
      (configured? s i.command).map fun level => level.raised i.verbosity := by
  rw [logLevel?, read]
  rfl

theorem logLevel?_of_unread (unread : Invocation.ofArguments? 0 arguments = none) :
    logLevel? s arguments = none := by
  rw [logLevel?, unread]
  rfl

/-- Whatever raises the log in front of its arguments, a run does the same work, and shows of the
notes what its level says, if it has one. -/
theorem runs_alike (s : Surroundings) (arguments : List String)
    (raises : Invocation.Raises front m) (raises' : Invocation.Raises front' n) :
    (logLevel? s (front ++ arguments) = none ∧ logLevel? s (front' ++ arguments) = none ∧
      run s (front ++ arguments) = run s (front' ++ arguments)) ∨
    ∃ (o : Outcome) (level level' : Level), (m ≤ n → level.rank ≤ level'.rank) ∧
      logLevel? s (front ++ arguments) = some level ∧ run s (front ++ arguments) = o.upTo level ∧
      logLevel? s (front' ++ arguments) = some level' ∧
      run s (front' ++ arguments) = o.upTo level' := by
  rcases Invocation.read_alike raises raises' with
    ⟨unread, unread'⟩ | ⟨verbosity, verbosity', command, read, read', order⟩
  · refine .inl ⟨logLevel?_of_unread unread, logLevel?_of_unread unread', ?_⟩
    rw [run, run, unread, unread']
  · obtain ⟨o, work⟩ := exists_invocation_eq s command
    rw [logLevel?_of_read read, logLevel?_of_read read', run_of_read read, run_of_read read', work,
      work]
    cases configured? s command with
    | none => exact .inl ⟨rfl, rfl, rfl⟩
    | some level =>
      refine .inr ⟨o, level.raised verbosity, level.raised verbosity', ?_, rfl, rfl, rfl, rfl⟩
      exact fun fewer => level.rank_raised_le (order fewer)

/-! ### What `config` prints -/

theorem exists_document_eq (settings : Settings) : ∃ before,
    settings.document = before ++ "\n\n[log]\nlevel = \"" ++ settings.level.name ++ "\"\n" :=
  ⟨_, rfl⟩

theorem exists_configText_eq (files : List Path) (settings : Settings) :
    ∃ before, configText files settings = before ++ settings.document :=
  ⟨_, rfl⟩

theorem config_prints {verbosity : Nat} {effective : Effective}
    (read : Invocation.ofArguments? 0 arguments = some ⟨verbosity, .config⟩)
    (loads : context s = .ok effective) :
    logLevel? s arguments = some (effective.settings.level.raised verbosity) ∧
    ∃ before, (run s arguments).stdout =
      before ++ "\n\n[log]\nlevel = \"" ++ effective.settings.level.name ++ "\"\n" := by
  have printed : (run s arguments).stdout =
      configText (s.settingsFiles s.here.path) effective.settings := by
    rw [run_of_read read, invocation, loaded, loads]
  have configured : configured? s .config = some effective.settings.level := by
    show settingsLevel? s = _
    rw [settingsLevel?, loads]
    rfl
  obtain ⟨files, whole⟩ := exists_configText_eq (s.settingsFiles s.here.path) effective.settings
  obtain ⟨others, shown⟩ := exists_document_eq effective.settings
  refine ⟨by rw [logLevel?_of_read read, configured]; rfl, files ++ others, ?_⟩
  rw [printed, whole, shown]
  simp only [String.append_assoc]

/-- The runs differ in nothing but log lines: unless the arguments are a usage error, what the first
writes beside the result is a part of what the second does if its level, should there be one, is no
higher. What `config` prints is the level that is set, not the one that is raised. -/
structure DifferInLog (s : Surroundings) (arguments arguments' : List String) : Prop where
  stdout : (run s arguments).stdout = (run s arguments').stdout
  code : (run s arguments).code = (run s arguments').code
  store : (run s arguments).store = (run s arguments').store
  lines : Invocation.ofArguments? 0 arguments ≠ none →
    (∀ level ∈ logLevel? s arguments, ∀ level' ∈ logLevel? s arguments', level.rank ≤ level'.rank) →
      (run s arguments).errorLines <+ (run s arguments').errorLines
  config {verbosity : Nat} {effective : Effective} :
    Invocation.ofArguments? 0 arguments = some ⟨verbosity, .config⟩ →
      context s = .ok effective →
        logLevel? s arguments = some (effective.settings.level.raised verbosity) ∧
        ∃ before, (run s arguments).stdout =
          before ++ "\n\n[log]\nlevel = \"" ++ effective.settings.level.name ++ "\"\n"

/-- However often the log is raised in front of the same arguments, the runs differ in nothing but
log lines; raising it more often does not lower the level. -/
theorem verbosity_adds_lines (s : Surroundings) (arguments : List String)
    (raises : Invocation.Raises front m) (raises' : Invocation.Raises front' n) :
    DifferInLog s (front ++ arguments) (front' ++ arguments) ∧
    (m ≤ n → ∀ level ∈ logLevel? s (front ++ arguments),
      ∀ level' ∈ logLevel? s (front' ++ arguments), level.rank ≤ level'.rank) := by
  rcases runs_alike s arguments raises raises' with
    ⟨unlogged, unlogged', same⟩ | ⟨o, level, level', order, logged, ran, logged', ran'⟩
  · refine ⟨⟨congrArg _ same, congrArg _ same, congrArg _ same, ?_, config_prints⟩, ?_⟩
    · intro _ _
      rw [same]
    · intro _ level known
      cases unlogged.symm.trans known
  · refine ⟨⟨?_, ?_, ?_, ?_, config_prints⟩, ?_⟩
    · rw [ran, ran', Outcome.upTo, Outcome.upTo]
    · rw [ran, ran', Outcome.upTo, Outcome.upTo]
    · rw [ran, ran', Outcome.upTo, Outcome.upTo]
    · intro _ below
      rw [ran, ran']
      exact o.errorLines_upTo_sublist (below level logged level' logged')
    · intro fewer first known second known'
      obtain rfl : level = first := Option.some.inj (logged.symm.trans known)
      obtain rfl : level' = second := Option.some.inj (logged'.symm.trans known')
      exact order fewer

/-- In `/w`, where a settings file keeps the log to errors. -/
def muted : Surroundings :=
  { Surroundings.nested "[log]\nlevel = \"error\"\n" "" none with here := ["w"] }

/-- Raised once, the log is kept to warnings, and raised three times, it tells of the tokens that
were ignored; raised twice, it is still one kept to errors in what `config` prints. -/
theorem verbosity_adds_lines_muted :
    (run muted ["-v", "parse", "a) b"]).errorLines <+
      (run muted ["-vvv", "parse", "a) b"]).errorLines ∧
    ∃ before, (run muted ["-v", "--verbose", "config"]).stdout =
      before ++ "\n\n[log]\nlevel = \"" ++ Level.error.name ++ "\"\n" := by
  have parse : DifferInLog muted ["-v", "parse", "a) b"] ["-vvv", "parse", "a) b"] :=
    (verbosity_adds_lines muted ["parse", "a) b"] (.short 0 .none) (.short 2 .none)).1
  have config : DifferInLog muted ["-v", "--verbose", "config"] ["config"] :=
    (verbosity_adds_lines muted ["config"] (.short 0 (.long .none)) .none).1
  have level : logLevel? muted ["-v", "parse", "a) b"] = some .warn := by decide +kernel
  have level' : logLevel? muted ["-vvv", "parse", "a) b"] = some .debug := by decide +kernel
  have read : Invocation.ofArguments? 0 ["-v", "--verbose", "config"] = some ⟨2, .config⟩ := by
    decide +kernel
  have loads : context muted = .ok ⟨{ level := .error }, some ⟨"/w"⟩⟩ := by decide +kernel
  refine ⟨parse.lines (by decide +kernel) ?_, (config.config read loads).2⟩
  rw [level, level']
  decide

end Run
end SearchQuery
