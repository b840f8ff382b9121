import FaultWatch.CommandLine.Outcome
import FaultWatch.Proofs.CommandLine.Arguments

/-! What can be told from an outcome. A run that succeeds has no complaint; one that fails has
printed no result and complains, except where help was asked for after the command. For this every
fault can be written, and no message but the usage starts as the usage does, whatever was typed. The
main statement is `runDisciplined`. -/
namespace FaultWatch.CommandLine

inductive Disciplined (asked : Prop) : Outcome → Prop
  | done {stdout : String} : Disciplined asked ⟨0, stdout, ""⟩
  | failed {stderr : String} (complains : stderr ≠ "") : Disciplined asked ⟨1, "", stderr⟩
  | helped (asks : asked) : Disciplined asked ⟨1, ended usage, ""⟩

def HelpAfter (words : List String) : Prop :=
  ∃ command arguments, words = command :: arguments ∧ command ≠ "-h" ∧ command ≠ "--help" ∧
    HelpAsked .none arguments

variable {asked : Prop} {c : Char} {text front rest line : String} {lines words : List String}
  {options : Options} {refusal : Refusal} {faults : List Fault}

theorem headFront (head : front.toList.head? = some c) : (front ++ rest).toList.head? = some c := by
  rw [String.toList_append, List.head?_append, head]
  rfl

theorem unopened (head : text.toList.head? = some c) (apart : ('U' == c) = false) :
    opensUsage text = false := by
  obtain ⟨more, cut⟩ := List.head?_eq_some_iff.mp head
  rw [opensUsage, cut]
  change ('U' == c && _) = false
  rw [apart, Bool.false_and]

theorem usageOpens : opensUsage usage = true := by
  have first : "Usage:".toList <+: "Usage: fault-decode <command> [options]".toList := by decide
  rw [opensUsage, List.isPrefixOf_iff_prefix, usage, usageLines, unlines, ended]
  rw [String.toList_append, String.toList_append]
  exact (first.trans (List.prefix_append _ _)).trans (List.prefix_append _ _)

theorem problemUnopened (problem : Input.Problem) : opensUsage problem.message = false := by
  cases problem with
  | category word => exact unopened (headFront (headFront rfl)) rfl
  | family word => exact unopened (headFront (headFront rfl)) rfl
  | code word => exact unopened (headFront (headFront rfl)) rfl
  | mask word => exact unopened (headFront (headFront rfl)) rfl
  | fieldCount count => exact unopened (headFront rfl) rfl

def Refusal.Fair : Refusal → Prop
  | .optionsNotTaken command => command = "mask" ∨ command = "categories"
  | _ => True

theorem messageUnopened (fair : refusal.Fair) (other : refusal ≠ .helpAsked) :
    opensUsage refusal.message = false := by
  cases refusal with
  | helpAsked => contradiction
  | missingCommand => exact unopened rfl rfl
  | unknownCommand word => exact unopened (headFront rfl) rfl
  | missingFamily => exact unopened rfl rfl
  | unknownOption word => exact unopened (headFront rfl) rfl
  | input error => exact problemUnopened error
  | optionsNotTaken command =>
    rcases fair with rfl | rfl
    · exact unopened (headFront rfl) rfl
    · exact unopened (headFront rfl) rfl
  | missingCategory => exact unopened rfl rfl
  | missingMask => exact unopened rfl rfl
  | manyMasks => exact unopened rfl rfl
  | wordCount count => exact unopened (headFront (headFront rfl)) rfl
  | missingPath => exact unopened rfl rfl
  | manyPaths => exact unopened rfl rfl

theorem splitFair {arguments : List String} (refused : split options arguments = .error refusal) :
    refusal.Fair := by
  fun_induction split options arguments with
  | case1 | case8 => contradiction
  | case2 | case4 | case6 | case7 =>
    cases refused
    trivial
  | case3 options rest _ ih => exact ih refused
  | case5 options name rest family known _ _ ih => exact ih refused
  | case9 options word rest _ _ _ _ refusal more ih =>
    cases refused
    exact ih more

structure OfCommand (refusal : Refusal) : Prop where
  fair : refusal.Fair
  other : refusal ≠ .helpAsked

theorem decodeRefusal (refused : decodeCommand options words = .error refusal) :
    OfCommand refusal := by
  unfold decodeCommand at refused
  split at refused
  · split at refused <;> cases refused
    exact ⟨trivial, by simp⟩
  · cases refused
    exact ⟨trivial, by simp⟩

theorem batchRefusal (refused : batchCommand options words = .error refusal) :
    OfCommand refusal := by
  unfold batchCommand at refused
  split at refused <;> cases refused <;> exact ⟨trivial, by simp⟩

theorem maskRefusal (refused : maskCommand words = .error refusal) : OfCommand refusal := by
  unfold maskCommand at refused
  split at refused <;> cases refused
  exact ⟨trivial, by simp⟩

theorem categoriesRefusal (refused : categoriesCommand words = .error refusal) :
    OfCommand refusal := by
  unfold categoriesCommand at refused
  split at refused <;> cases refused <;> exact ⟨trivial, by simp⟩

theorem optionsRefusal {command : String} {after : Except Refusal Command}
    (named : command = "mask" ∨ command = "categories")
    (later : ∀ refusal, after = .error refusal → OfCommand refusal)
    (refused : withoutOptions command options after = .error refusal) : OfCommand refusal := by
  unfold withoutOptions at refused
  split at refused
  · exact later refusal refused
  · cases refused
    exact ⟨named, by simp⟩

theorem commandRefusal {name : String} (refused : commandOf name words options = .error refusal) :
    OfCommand refusal := by
  unfold commandOf at refused
  split at refused
  · exact decodeRefusal refused
  split at refused
  · exact batchRefusal refused
  split at refused
  · next named => exact optionsRefusal (.inl named) (fun _ => maskRefusal) refused
  split at refused
  · next named => exact optionsRefusal (.inr named) (fun _ => categoriesRefusal) refused
  · cases refused
    exact ⟨trivial, by simp⟩

theorem requestRefusal (refused : Request.ofWords words = .error refusal) :
    words = [] ∧ refusal = .missingCommand ∨
      ∃ command arguments, words = command :: arguments ∧ ¬ isHelp command = true ∧
        (split .none arguments = .error refusal ∨ OfCommand refusal) := by
  cases words with
  | nil =>
    cases refused
    exact .inl ⟨rfl, rfl⟩
  | cons command arguments =>
    rw [Request.ofWords] at refused
    split at refused
    · contradiction
    · next other =>
      refine .inr ⟨command, arguments, rfl, other, ?_⟩
      cases options : split .none arguments with
      | error wrong =>
        rw [options] at refused
        cases refused
        exact .inl rfl
      | ok given =>
        rw [options] at refused
        cases read : commandOf command given.1 given.2 with
        | ok =>
          simp only [read, Except.map] at refused
          contradiction
        | error reason =>
          simp only [read, Except.map] at refused
          cases refused
          exact .inr (commandRefusal read)

theorem requestFair (refused : Request.ofWords words = .error refusal) : refusal.Fair := by
  rcases requestRefusal refused with ⟨-, rfl⟩ | ⟨_, _, -, -, wrong | refusal⟩
  · trivial
  · exact splitFair wrong
  · exact refusal.fair

theorem requestAsked : Request.ofWords words = .error .helpAsked ↔ HelpAfter words := by
  constructor
  · intro refused
    rcases requestRefusal refused with ⟨-, same⟩ | ⟨command, arguments, rfl, other, wrong | refusal⟩
    · contradiction
    · rw [helpWord, not_or] at other
      exact ⟨command, arguments, rfl, other.1, other.2, helpSplit wrong⟩
    · exact absurd rfl refusal.other
  · rintro ⟨command, arguments, rfl, short, long, asked⟩
    have other : ¬ isHelp command = true := by
      rw [helpWord, not_or]
      exact ⟨short, long⟩
    rw [Request.ofWords, if_neg other, splitAsked asked]

theorem usageExact (refused : Request.ofWords words = .error refusal) :
    opensUsage refusal.message = true ↔ HelpAfter words := by
  rw [← requestAsked, refused, Except.error.injEq]
  constructor
  · intro opens
    by_cases other : refusal = .helpAsked
    · exact other
    · rw [messageUnopened (requestFair refused) other] at opens
      contradiction
  · rintro rfl
    exact usageOpens

theorem unlinesSome (some : lines ≠ []) : unlines lines ≠ "" := by
  cases lines with
  | nil => contradiction
  | cons line lines =>
    intro empty
    have length := congrArg (·.toList.length) empty
    simp [unlines, ended] at length

theorem complaintsDisciplined (some : lines ≠ []) : Disciplined asked (.complaints lines) :=
  .failed (unlinesSome some)

theorem printAll : printEach options.render faults = .results (faults.map options.report) := by
  induction faults with
  | nil => rfl
  | cons raw rest ih =>
    rw [printEach, Options.render, ih]
    rfl

theorem batchComplains {text : String} {errors : List Input.LineProblem}
    (refused : Input.batch text = .error errors) : errors ≠ [] := by
  unfold Input.batch Input.Tally.result at refused
  split at refused
  · contradiction
  · next some =>
    cases refused
    exact some

theorem batchDisciplined {path : String} {read : Except ReadError String} :
    Disciplined asked (runBatch path options read) := by
  unfold runBatch
  split
  · exact complaintsDisciplined (by simp)
  · split
    · rw [printAll]
      exact .done
    · next refused => exact complaintsDisciplined (by simp [batchComplains refused])

theorem maskDisciplined : Disciplined asked (runMask words) := by
  unfold runMask
  split
  · exact .done
  · exact complaintsDisciplined (by simp)

theorem categoriesDisciplined : Disciplined asked (runCategories line) := by
  unfold runCategories
  split
  · exact .done
  · exact complaintsDisciplined (by simp)

theorem commandDisciplined {read : String → Except ReadError String} (command : Command) :
    Disciplined asked (command.run read) := by
  cases command with
  | decode raw options =>
    rw [Command.run, printAll]
    exact .done
  | batch path options => exact batchDisciplined
  | mask words => exact maskDisciplined
  | categories word => exact categoriesDisciplined

theorem refusedAsked : refused .helpAsked = ⟨1, ended usage, ""⟩ := if_pos usageOpens

theorem runAsked {read : String → Except ReadError String} (asks : HelpAfter words) :
    run read words = ⟨1, ended usage, ""⟩ := by
  rw [run, requestAsked.mpr asks, respond, refusedAsked]

theorem refusedDisciplined (refused : Request.ofWords words = .error refusal) :
    Disciplined (HelpAfter words) (CommandLine.refused refusal) := by
  by_cases asks : HelpAfter words
  · rw [requestAsked.mpr asks] at refused
    rw [← Except.error.inj refused, refusedAsked]
    exact .helped asks
  · have other : ¬ opensUsage refusal.message = true := mt (usageExact refused).mp asks
    rw [CommandLine.refused, if_neg other]
    exact complaintsDisciplined (by simp)

theorem runDisciplined (read : String → Except ReadError String) (words : List String) :
    Disciplined (HelpAfter words) (run read words) ∧
      (HelpAfter words → run read words = ⟨1, ended usage, ""⟩) ∧
      (∀ refusal, Request.ofWords words = .error refusal →
        ("Usage:".toList <+: refusal.message.toList ↔ HelpAfter words)) ∧
      ∀ options faults, printEach (Options.render options) faults =
        .results (faults.map options.report) := by
  refine ⟨?_, runAsked, ?_, fun _ _ => printAll⟩
  · rw [run]
    match asked : Request.ofWords words with
    | .ok .help => exact .done
    | .ok (.run command) => exact commandDisciplined command
    | .error refusal => exact refusedDisciplined asked
  · intro refusal refused
    rw [← List.isPrefixOf_iff_prefix]
    exact usageExact refused

theorem helpAmongWords :
    let read : String → Except ReadError String := fun _ => .error .notFound
    HelpAfter ["decode", "--arch", "arm64", "-1", "-h", "--bogus"] ∧
      run read ["decode", "--arch", "arm64", "-1", "-h", "--bogus"] = ⟨1, ended usage, ""⟩ ∧
      ¬ "Usage:".toList <+: (Refusal.unknownCommand "Usage:").message.toList := by
  intro read
  have before : Spelled .none ["--arch", "arm64", "-1"] ["-1"] ⟨some .arm64, .text⟩ :=
    .family rfl (.word (by decide) .nil)
  have asks : HelpAfter ["decode", "--arch", "arm64", "-1", "-h", "--bogus"] :=
    ⟨"decode", _, rfl, by decide, by decide, _, _, _, "-h", ["--bogus"], before, .inl rfl, rfl⟩
  refine ⟨asks, (runDisciplined read _).2.1 asks, ?_⟩
  rw [(runDisciplined read ["Usage:"]).2.2.1 (.unknownCommand "Usage:") rfl]
  rintro ⟨command, arguments, same, -, -, front, _, _, help, after, -, -, none⟩
  cases same
  exact absurd none (by simp)

end FaultWatch.CommandLine
