import FaultWatch.CommandLine.Request

/-! The words after a command told apart. `Spelled` is the grammar: plain words and options in any
order, each `--arch` with a family after it. Splitting reads just these, and help is asked for just
where it stands after some of these. The main statements are `splitExact` and `helpExact`. -/
namespace FaultWatch.CommandLine

structure Plain (word : String) : Prop where
  noHelp : word ≠ "-h"
  noOption : ¬ "--".toList <+: word.toList

instance (word : String) : Decidable (Plain word) :=
  decidable_of_iff (word ≠ "-h" ∧ ¬ "--".toList <+: word.toList)
    ⟨fun both => ⟨both.1, both.2⟩, fun plain => ⟨plain.noHelp, plain.noOption⟩⟩

inductive Spelled : Options → List String → List String → Options → Prop
  | nil {options : Options} : Spelled options [] [] options
  | word {options final : Options} {word : String} {rest words : List String} (plain : Plain word)
      (more : Spelled options rest words final) :
      Spelled options (word :: rest) (word :: words) final
  | json {options final : Options} {rest words : List String}
      (more : Spelled { options with form := .json } rest words final) :
      Spelled options ("--json" :: rest) words final
  | family {options final : Options} {name : String} {family : Family} {rest words : List String}
      (known : Input.family name = .ok family)
      (more : Spelled { options with family := some family } rest words final) :
      Spelled options ("--arch" :: name :: rest) words final

/-- A `-h` or `--help` where it can be seen: not as the value of `--arch`, nor after anything
wrong. -/
def HelpAsked (options : Options) (arguments : List String) : Prop :=
  ∃ before words final help after, Spelled options before words final ∧
    (help = "-h" ∨ help = "--help") ∧ arguments = before ++ help :: after

variable {options final : Options} {word help : String} {rest words arguments : List String}
  {refusal : Refusal}

theorem optionExact : isOption word = true ↔ "--".toList <+: word.toList := by
  rw [isOption, beq_iff_eq, List.prefix_iff_eq_take]
  exact eq_comm

theorem helpWord : isHelp help = true ↔ help = "-h" ∨ help = "--help" := by
  rw [isHelp, Bool.or_eq_true, beq_iff_eq, beq_iff_eq, Or.comm]

theorem plainOf (help : ¬ isHelp word = true) (option : ¬ isOption word = true) : Plain word := by
  refine ⟨?_, fun starts => option (optionExact.mpr starts)⟩
  rintro rfl
  exact help rfl

theorem plainNot {other : String} (plain : Plain word) (option : isOption other = true) :
    word ≠ other := by
  rintro rfl
  exact plain.noOption (optionExact.mp option)

theorem splitHelp (asked : isHelp help = true) :
    split options (help :: rest) = .error .helpAsked := by
  cases rest <;> exact if_pos asked

theorem splitJson :
    split options ("--json" :: rest) = split { options with form := .json } rest := by
  cases rest <;> rfl

theorem splitFamily {name : String} {family : Family} (known : Input.family name = .ok family) :
    split options ("--arch" :: name :: rest) =
      split { options with family := some family } rest := by
  rw [split.eq_def]
  simp only [known]
  rfl

theorem splitPlain (plain : Plain word) :
    split options (word :: rest) =
      (split options rest).map fun read => (word :: read.1, read.2) := by
  have noHelp : ¬ isHelp word = true := by
    rw [helpWord, not_or]
    exact ⟨plain.noHelp, plainNot plain rfl⟩
  have noOption : ¬ isOption word = true := fun option => plain.noOption (optionExact.mp option)
  rw [split.eq_def]
  simp only [if_neg noHelp, if_neg (plainNot plain (show isOption "--json" = true from rfl)),
    if_neg (plainNot plain (show isOption "--arch" = true from rfl)), if_neg noOption]
  cases split options rest <;> rfl

theorem splitAfter {before words : List String} (spelled : Spelled options before words final) :
    split options (before ++ rest) =
      (split final rest).map fun read => (words ++ read.1, read.2) := by
  induction spelled with
  | @nil options => cases read : split options rest <;> exact read
  | @word _ final _ _ _ plain more ih =>
    rw [List.cons_append, splitPlain plain, ih]
    cases split final rest <;> rfl
  | json more ih => rw [List.cons_append, splitJson, ih]
  | family known more ih => rw [List.cons_append, List.cons_append, splitFamily known, ih]

theorem splitSpelled {words : List String} (spelled : Spelled options arguments words final) :
    split options arguments = .ok (words, final) := by
  have whole := @splitAfter _ _ [] _ _ spelled
  have none : split final [] = .ok ([], final) := rfl
  rw [List.append_nil, none] at whole
  rw [whole, Except.map, List.append_nil]

theorem spelledSplit {words : List String} (read : split options arguments = .ok (words, final)) :
    Spelled options arguments words final := by
  fun_induction split options arguments generalizing words final with
  | case1 options =>
    cases read
    exact .nil
  | case2 | case4 | case6 | case7 | case9 => contradiction
  | case3 options rest _ ih => exact .json (ih read)
  | case5 options name rest family known _ _ ih => exact .family known (ih read)
  | case8 options word rest noHelp _ _ noOption words final more ih =>
    cases read
    exact .word (plainOf noHelp noOption) (ih more)

theorem splitExact {words : List String} :
    split options arguments = .ok (words, final) ↔ Spelled options arguments words final :=
  ⟨spelledSplit, splitSpelled⟩

theorem requestRead {command : String} {words : List String} (other : ¬ isHelp command = true)
    (spelled : Spelled .none arguments words final) :
    Request.ofWords (command :: arguments) = (commandOf command words final).map .run := by
  rw [Request.ofWords, if_neg other, splitSpelled spelled]

theorem helpSplit (read : split options arguments = .error .helpAsked) :
    HelpAsked options arguments := by
  fun_induction split options arguments with
  | case1 | case8 => contradiction
  | case4 | case6 | case7 => cases read
  | case2 options help rest asked =>
    exact ⟨[], [], options, help, rest, .nil, helpWord.mp asked, rfl⟩
  | case3 options rest _ ih =>
    obtain ⟨before, words, final, help, after, spelled, asked, rfl⟩ := ih read
    exact ⟨_, words, final, help, after, .json spelled, asked, rfl⟩
  | case5 options name rest family known _ _ ih =>
    obtain ⟨before, words, final, help, after, spelled, asked, rfl⟩ := ih read
    exact ⟨_, words, final, help, after, .family known spelled, asked, rfl⟩
  | case9 options word rest noHelp _ _ noOption refusal more ih =>
    cases read
    obtain ⟨before, words, final, help, after, spelled, asked, rfl⟩ := ih more
    exact ⟨_, _, final, help, after, .word (plainOf noHelp noOption) spelled, asked, rfl⟩

theorem splitAsked (asked : HelpAsked options arguments) :
    split options arguments = .error .helpAsked := by
  obtain ⟨before, words, final, help, after, spelled, asked, rfl⟩ := asked
  rw [splitAfter spelled, splitHelp (helpWord.mpr asked)]
  rfl

theorem helpExact : split options arguments = .error .helpAsked ↔ HelpAsked options arguments :=
  ⟨helpSplit, splitAsked⟩

end FaultWatch.CommandLine
