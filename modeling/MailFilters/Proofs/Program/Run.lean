import MailFilters.Program.Run
import MailFilters.Proofs.Program.CommandLine
import MailFilters.Proofs.Program.Convert

/-!
# Runs of the program

* **`RunEnds`**, **`run_ends`** — how a run ends that has an exit code.
* **`run_looks`** — a run that is not told to write asks for lists of labels only.
* **`mem_log_iff`** — the lines of the log that a run shows.
-/

namespace MailFilters

open CommandLine (Written Item Options readArguments)
open Document (Files)

/-! ## What a run asks for -/

/-- A session asks an account for lists of labels only until it is another one. -/
def OnlyLists (before after : Session) : Prop :=
  ∃ calls, after.account.calls = before.account.calls ++ calls ∧
    ∀ call ∈ calls, call = .listLabels

theorem OnlyLists.of_same {before after : Session} (same : after.account = before.account) :
    OnlyLists before after := ⟨[], by simp [same], by simp⟩

section Convert

variable {files : Files} {name : String} {showOnly : Bool} {session : Session}
  {set : RuleSet Rule}

/-- What is told about rules that were set aside asks for nothing. -/
theorem writeRules_account (named : ∀ rule ∈ set.rules, rule.HasNames) (mode : Mode)
    (session : Session) :
    (writeRules mode set session).2.account =
      (installEach mode TagTable.initial set.rules (session.writing set)).2.account := by
  cases ran : installEach mode TagTable.initial set.rules (session.writing set) with
  | mk outcome middle =>
      cases outcome with
      | error failure => rw [writeRules_failed ran]
      | ok rejections =>
          obtain ⟨log, done⟩ := writeRules_done (installEach_shown named ran) ran
          rw [done]

/-- A dry conversion, or one that shows the rules, asks for lists of labels only. -/
theorem convert_looks {mode : Mode} (harmless : mode = .dry ∨ showOnly = true) :
    OnlyLists session (convert files name mode showOnly session).2 := by
  rcases read : (Document.readNamed files name).1 with cause | _ | set
  · exact .of_same (convert_unread (by simp [read]))
  · exact .of_same (convert_unread (by simp [read]))
  have named := Document.readNamed_names read
  cases showOnly with
  | true =>
      obtain ⟨text, shown⟩ := RuleSet.text_of_names named
      rw [convert_shown read shown]
      exact .of_same rfl
  | false =>
      obtain rfl : mode = .dry := harmless.resolve_right (by simp)
      obtain ⟨calls, asked, lists⟩ := installEach_looks TagTable.initial set.rules
        ((session.reading files name).writing set)
      refine ⟨calls, ?_, lists⟩
      rw [convert_written read, writeRules_account named, asked]
      rfl

end Convert

variable {arguments : List String} {files : Files} {session : Session}

theorem ofReport_session (level : LogLevel) (ran : Except Failure Report × Session) :
    (ProgramRun.ofReport level ran).session = ran.2 := by
  obtain ⟨_ | _, _⟩ := ran <;> rfl

theorem ofReport_level (level : LogLevel) (ran : Except Failure Report × Session) :
    (ProgramRun.ofReport level ran).level = level := by
  obtain ⟨_ | _, _⟩ := ran <;> rfl

/-- A run with options converts the rules file, or does nothing if that has no name. -/
theorem runConversion_cases (options : Options) :
    (∃ name, options.rulesFile = some name ∧
      runConversion files options session =
        ProgramRun.ofReport (if options.verbose then .debug else .info)
          (convert files name (if options.dryRun then .dry else .real) options.showRules
            session)) ∨
      (options.rulesFile = none ∧
        runConversion files options session =
          { exitCode := .error .unnamedFile, level := if options.verbose then .debug else .info
            session }) := by
  rw [runConversion]
  cases options.rulesFile with
  | none => exact .inr ⟨rfl, rfl⟩
  | some name => exact .inl ⟨name, rfl, rfl⟩

/-- **Looking.** Unless the arguments are a command line without the switches for a dry run and for
showing rules, the program asks for lists of labels only. -/
theorem run_looks
    (harmless : ∀ items, Written arguments items →
      .switch .dryRun ∈ items ∨ .switch .showRules ∈ items) :
    OnlyLists session (run arguments files session).session := by
  rw [run]
  cases read : readArguments arguments with
  | error cause => exact .of_same rfl
  | ok invocation =>
      cases invocation with
      | help => exact .of_same rfl
      | run options =>
          obtain ⟨items, value, written, _, rfl⟩ := CommandLine.readArguments_run_iff.mp read
          show OnlyLists session (runConversion files _ session).session
          rcases runConversion_cases (CommandLine.optionsOf items value) with
            ⟨name, _, same⟩ | ⟨_, same⟩
          · rw [same, ofReport_session]
            refine convert_looks ?_
            rcases harmless items written with dry | shows
            · exact .inl (if_pos (List.contains_iff_mem.mpr dry))
            · exact .inr (List.contains_iff_mem.mpr shows)
          · exact .of_same (by rw [same])

/-! ## How a run ends -/

/-- How a run ends that has an exit code: the arguments are refused and nothing is done, or help is
given, or a file is converted and the report tells the exit code. -/
inductive RunEnds (arguments : List String) (files : Files) (session : Session) :
    ProgramRun → Nat → Prop
  | refused {cause : CommandLine.UsageError} : readArguments arguments = .error cause →
      RunEnds arguments files session
        { exitCode := .ok 2, complained := CommandLine.complaint cause, session } 2
  | helped : readArguments arguments = .ok .help →
      RunEnds arguments files session
        { exitCode := .ok 0, printed := CommandLine.help, session } 0
  | converted {items : List Item} {name : String} {report : Report} {after : Session} :
      Written arguments items → (items.filterMap Item.value?).getLast? = some name →
      Ends files name (if items.contains (.switch .dryRun) then .dry else .real)
        (items.contains (.switch .showRules)) session report after →
      RunEnds arguments files session
        { exitCode := .ok report.exitCode, printed := report.printed
          level := if items.contains (.switch .verbose) then .debug else .info, session := after }
        report.exitCode

/-- **Endings.** A run that has an exit code ends in one of these ways. -/
theorem run_ends {code : Nat} (exits : (run arguments files session).exitCode = .ok code) :
    RunEnds arguments files session (run arguments files session) code := by
  rw [run] at exits ⊢
  cases read : readArguments arguments with
  | error cause =>
      rw [read] at exits
      obtain rfl : 2 = code := Except.ok.inj exits
      exact .refused read
  | ok invocation =>
      rw [read] at exits
      cases invocation with
      | help =>
          obtain rfl : 0 = code := Except.ok.inj exits
          exact .helped read
      | run options =>
          obtain ⟨items, value, written, last, rfl⟩ := CommandLine.readArguments_run_iff.mp read
          have exits : (runConversion files (CommandLine.optionsOf items value) session).exitCode =
              .ok code := exits
          show RunEnds arguments files session (runConversion files _ session) code
          rcases runConversion_cases (CommandLine.optionsOf items value) with
            ⟨name, named, same⟩ | ⟨_, same⟩
          · obtain rfl := CommandLine.fileName?_eq_some named
            rw [same] at exits ⊢
            cases ran : convert files value
                (if items.contains (.switch .dryRun) then .dry else .real)
                (items.contains (.switch .showRules)) session with
            | mk outcome after =>
                have ran' : convert files value
                    (if (CommandLine.optionsOf items value).dryRun then .dry else .real)
                    (CommandLine.optionsOf items value).showRules session = (outcome, after) := ran
                rw [ran'] at exits ⊢
                cases outcome with
                | error failure => simp [ProgramRun.ofReport] at exits
                | ok report =>
                    obtain rfl : report.exitCode = code := Except.ok.inj exits
                    exact .converted written last (ends_of_report ran)
          · rw [same] at exits
            simp at exits

/-! ## What a run shows of the log -/

/-- The arguments let the program run, and tell it to show lines for debugging. -/
def IsVerbose (arguments : List String) : Prop :=
  ∃ items value, Written arguments items ∧ (items.filterMap Item.value?).getLast? = some value ∧
    .switch .verbose ∈ items

theorem isVerbose_iff :
    IsVerbose arguments ↔
      ∃ options, readArguments arguments = .ok (.run options) ∧ options.verbose = true := by
  constructor
  · rintro ⟨items, value, written, last, verbose⟩
    exact ⟨_, CommandLine.readArguments_run_iff.mpr ⟨items, value, written, last, rfl⟩,
      List.contains_iff_mem.mpr verbose⟩
  · rintro ⟨options, read, verbose⟩
    obtain ⟨items, value, written, last, rfl⟩ := CommandLine.readArguments_run_iff.mp read
    exact ⟨items, value, written, last, List.contains_iff_mem.mp verbose⟩

theorem run_level :
    ((run arguments files session).level = .debug ∧ IsVerbose arguments) ∨
      ((run arguments files session).level = .info ∧ ¬ IsVerbose arguments) := by
  rw [isVerbose_iff, run]
  cases read : readArguments arguments with
  | error cause => exact .inr ⟨rfl, by simp⟩
  | ok invocation =>
      cases invocation with
      | help => exact .inr ⟨rfl, by simp⟩
      | run options =>
          have level : (runConversion files options session).level =
              if options.verbose then .debug else .info := by
            rcases @runConversion_cases files session options with
              ⟨name, _, same⟩ | ⟨_, same⟩
            · rw [same, ofReport_level]
            · rw [same]
          show ((runConversion files options session).level = _ ∧ _) ∨
            ((runConversion files options session).level = _ ∧ _)
          cases verbose : options.verbose <;> simp [level, verbose]

/-- **Log.** A run shows all lines of the log but those for debugging, and these too if the
arguments tell it to. -/
theorem mem_log_iff {entry : LogEntry} :
    entry ∈ (run arguments files session).log ↔
      entry ∈ (run arguments files session).session.log ∧
        (entry.level = .debug → IsVerbose arguments) := by
  rw [ProgramRun.log, Log.atLeast, List.mem_filter]
  refine and_congr_right fun _ => ?_
  rcases @run_level arguments files session with ⟨level, verbose⟩ | ⟨level, quiet⟩
  · simp [level, verbose, LogLevel.rank]
  · rw [level]
    cases told : entry.level <;> simp [quiet, LogLevel.rank]

end MailFilters
