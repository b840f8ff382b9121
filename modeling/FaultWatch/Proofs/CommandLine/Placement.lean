import FaultWatch.Proofs.CommandLine.Arguments
import FaultWatch.Proofs.Input.Code

/-! Where options stand among the words of a call. The arguments after the command fall into items,
read from the left: plain words, `--json`, and each `--arch` with the next argument, whatever that
is. They are refused just if some item is not well formed, and of the options only the last family
and the presence of `--json` count, wherever these stand. The main statement is `placementFree`. -/
namespace FaultWatch.CommandLine

inductive Item
  | word (text : String)
  | json
  | family (value : String)
  | lacking
  deriving DecidableEq, Repr

def Item.arguments : Item → List String
  | .word text => [text]
  | .json => ["--json"]
  | .family value => ["--arch", value]
  | .lacking => ["--arch"]

def argumentsOf (laid : List Item) : List String := laid.flatMap Item.arguments

/-- The items of arguments. Only a last `--arch` lacks its value. -/
def items : List String → List Item
  | [] => []
  | text :: rest =>
    if text = "--json" then .json :: items rest
    else if text = "--arch" then
      match rest with
      | [] => [.lacking]
      | value :: rest => .family value :: items rest
    else .word text :: items rest

inductive Item.Fine : Item → Prop
  | word {text : String} (plain : Plain text) : Fine (.word text)
  | json : Fine .json
  | family {value : String} {family : Family} (known : Input.family value = .ok family) :
      Fine (.family value)

def Item.word? : Item → Option String
  | .word text => some text
  | _ => none

def Item.family? : Item → Option Family
  | .family value => Family.ofText? value.toList
  | _ => none

def wordsOf (laid : List Item) : List String := laid.filterMap Item.word?

def lastFamily? (laid : List Item) : Option Family := (laid.filterMap Item.family?).getLast?

def Options.after (options : Options) (laid : List Item) : Options :=
  ⟨(lastFamily? laid).or options.family, if .json ∈ laid then .json else options.form⟩

variable {options final : Options} {text value command : String}
  {rest words arguments : List String} {laid : List Item} {item : Item} {family : Family}

theorem itemsJson : items ("--json" :: rest) = .json :: items rest := by
  cases rest <;> rfl

theorem itemsFamily : items ("--arch" :: value :: rest) = .family value :: items rest := rfl

theorem itemsWord (plain : Plain text) : items (text :: rest) = .word text :: items rest := by
  rw [items.eq_def]
  simp only [if_neg (plainNot plain (show isOption "--json" = true from rfl)),
    if_neg (plainNot plain (show isOption "--arch" = true from rfl))]

theorem itemsArguments (arguments : List String) : argumentsOf (items arguments) = arguments := by
  fun_induction items arguments with
  | case1 | case3 => rfl
  | case2 rest ih | case4 value rest _ ih | case5 text rest _ _ ih =>
    rw [argumentsOf, List.flatMap_cons]
    exact congrArg _ ih

theorem fineItems (spelled : Spelled options arguments words final) :
    ∀ item ∈ items arguments, item.Fine := by
  induction spelled with
  | nil => simp [items]
  | word plain _ ih =>
    rw [itemsWord plain]
    exact List.forall_mem_cons.mpr ⟨.word plain, ih⟩
  | json _ ih =>
    rw [itemsJson]
    exact List.forall_mem_cons.mpr ⟨.json, ih⟩
  | family known _ ih =>
    rw [itemsFamily]
    exact List.forall_mem_cons.mpr ⟨.family known, ih⟩

theorem afterWord : options.after (.word text :: laid) = options.after laid := by
  simp [Options.after, lastFamily?, Item.family?]

theorem afterJson :
    options.after (.json :: laid) = { options with form := .json : Options }.after laid := by
  simp [Options.after, lastFamily?, Item.family?]

theorem afterFamily (known : Input.family value = .ok family) :
    options.after (.family value :: laid) =
      { options with family := some family : Options }.after laid := by
  have read : Family.ofText? value.toList = some family := Input.acceptOk.mp known
  have last : lastFamily? (.family value :: laid) = (lastFamily? laid).or (some family) := by
    simp [lastFamily?, Item.family?, read, List.getLast?_cons]
  simp [Options.after, last]

theorem laidSpelled (fine : ∀ item ∈ laid, item.Fine) :
    Spelled options (argumentsOf laid) (wordsOf laid) (options.after laid) := by
  induction laid generalizing options with
  | nil => exact .nil
  | cons item laid ih =>
    obtain ⟨here, later⟩ := List.forall_mem_cons.mp fine
    cases here with
    | word plain =>
      rw [afterWord]
      exact .word plain (ih later)
    | json =>
      rw [afterJson]
      exact .json (ih later)
    | family known =>
      rw [afterFamily known]
      exact .family known (ih later)

theorem splitItems (fine : ∀ item ∈ items arguments, item.Fine) :
    split options arguments =
      .ok (wordsOf (items arguments), options.after (items arguments)) := by
  have spelled := @laidSpelled options _ fine
  rw [itemsArguments] at spelled
  exact splitSpelled spelled

theorem requestLaid (other : ¬ isHelp command = true) (fine : ∀ item ∈ laid, item.Fine) :
    Request.ofWords (command :: argumentsOf laid) =
      (commandOf command (wordsOf laid) (Options.none.after laid)).map .run :=
  requestRead other (laidSpelled fine)

theorem afterSome (fine : ∀ item ∈ laid, item.Fine) (some : ∃ item ∈ laid, item.word? = none) :
    Options.none.after laid ≠ .none := by
  obtain ⟨item, there, option⟩ := some
  intro none
  cases fine item there with
  | word => contradiction
  | json =>
    have form := congrArg Options.form none
    simp [Options.after, Options.none, there] at form
  | family known =>
    have last := congrArg Options.family none
    simp [Options.after, Options.none, lastFamily?] at last
    have unread := last _ there
    rw [Item.family?, Input.acceptOk.mp known] at unread
    contradiction

theorem optionsRefused (given : options ≠ .none)
    (named : command = "mask" ∨ command = "categories") :
    commandOf command words options = .error (.optionsNotTaken command) := by
  rcases named with rfl | rfl <;> exact if_neg given

theorem placementFree :
    (∀ arguments, argumentsOf (items arguments) = arguments ∧
      ((∃ read, split .none arguments = .ok read) ↔ ∀ item ∈ items arguments, item.Fine)) ∧
    (∀ arguments words options, split .none arguments = .ok (words, options) →
      words = wordsOf (items arguments) ∧ (options.form = .json ↔ .json ∈ items arguments) ∧
        options.family = lastFamily? (items arguments)) ∧
    (∀ laid other : List Item, (∀ item ∈ laid, item.Fine) → (∀ item ∈ other, item.Fine) →
      wordsOf laid = wordsOf other → lastFamily? laid = lastFamily? other →
      (.json ∈ laid ↔ .json ∈ other) → ∀ command ∈ ["decode", "batch"],
        Request.ofWords (command :: argumentsOf laid) =
          Request.ofWords (command :: argumentsOf other)) ∧
    ∀ laid : List Item, (∀ item ∈ laid, item.Fine) → (∃ item ∈ laid, item.word? = none) →
      ∀ command ∈ ["mask", "categories"],
        Request.ofWords (command :: argumentsOf laid) = .error (.optionsNotTaken command) := by
  have fine : ∀ {arguments read}, split .none arguments = .ok read →
      ∀ item ∈ items arguments, item.Fine := fun read => fineItems (splitExact.mp read)
  refine ⟨fun arguments => ⟨itemsArguments arguments, ?_⟩, ?_, ?_, ?_⟩
  · exact ⟨fun ⟨_, read⟩ => fine read, fun fine => ⟨_, splitItems fine⟩⟩
  · intro arguments words options read
    rw [splitItems (fine read)] at read
    cases read
    refine ⟨rfl, ?_, ?_⟩
    · simp [Options.after, Options.none]
    · simp [Options.after, Options.none]
  · intro laid other laidFine otherFine sameWords sameFamily sameForm command named
    have either : command = "decode" ∨ command = "batch" := by simpa using named
    have plain : ¬ isHelp command = true := by rcases either with rfl | rfl <;> decide
    have same : Options.none.after laid = Options.none.after other := by
      simp only [Options.after, sameFamily, sameForm]
    rw [requestLaid plain laidFine, requestLaid plain otherFine, sameWords, same]
  · intro laid laidFine some command named
    have either : command = "mask" ∨ command = "categories" := by simpa using named
    have plain : ¬ isHelp command = true := by rcases either with rfl | rfl <;> decide
    rw [requestLaid plain laidFine, optionsRefused (afterSome laidFine some) either]
    rfl

theorem scatteredSame :
    let laid : List Item :=
      [.json, .word "software", .family "arm64", .word "-1", .family " X86", .word "-"]
    let other : List Item :=
      [.word "software", .word "-1", .word "-", .family "x86_64", .json, .json]
    argumentsOf laid = ["--json", "software", "--arch", "arm64", "-1", "--arch", " X86", "-"] ∧
      Request.ofWords ("decode" :: argumentsOf laid) =
        Request.ofWords ("decode" :: argumentsOf other) ∧
      Request.ofWords ("mask" :: argumentsOf laid) = .error (.optionsNotTaken "mask") ∧
      ["software", "-1", "-"] = wordsOf (items (argumentsOf laid)) ∧
      ¬ ∃ read, split .none ["crash", "--arch", "--json"] = .ok read := by
  intro laid other
  obtain ⟨reads, told, same, refused⟩ := placementFree
  have laidFine : ∀ item ∈ laid, item.Fine := by
    simp only [laid, List.forall_mem_cons]
    exact ⟨.json, .word (by decide), .family rfl, .word (by decide), .family rfl,
      .word (by decide), by simp⟩
  have otherFine : ∀ item ∈ other, item.Fine := by
    simp only [other, List.forall_mem_cons]
    exact ⟨.word (by decide), .word (by decide), .word (by decide), .family rfl, .json, .json,
      by simp⟩
  have read : split .none (argumentsOf laid) = .ok (["software", "-1", "-"], ⟨some .x86, .json⟩) :=
    splitSpelled (laidSpelled laidFine)
  refine ⟨rfl, same laid other laidFine otherFine rfl rfl (by decide) "decode" (by simp),
    refused laid laidFine ⟨.json, by simp [laid], rfl⟩ "mask" (by simp), (told _ _ _ read).1, ?_⟩
  rw [(reads _).2]
  intro fine
  cases fine (.family "--json") (by decide) with
  | family known => cases known

end FaultWatch.CommandLine
