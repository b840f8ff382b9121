import FaultWatch.Proofs.Input.Word

/-! Written batches read back. `Written` is the grammar: each line holds one triple or none, the words
of a triple stand apart, a comment may end any line, and a line is ended by a line feed, with or
without a carriage return before it. What is read does not depend on the spelling chosen. The main
statement is `batchReadsBack`. -/
namespace FaultWatch.Input

def Run (kind : Char → Bool) (text : List Char) : Prop := ∀ c ∈ text, kind c = true ∧ c ≠ '\n'

instance (kind : Char → Bool) (text : List Char) : Decidable (Run kind text) :=
  List.decidableBAll _ text

inductive Content : Option Fault → List Char → Prop
  | blank {text : List Char} (blank : Run Text.isBlank text) : Content none text
  | triple {raw : Fault} {lead first gap second gap' third trail : List Char}
      (leading : Run separates lead) (category : CategoryText raw.category first)
      (apart : Run separates gap) (nonempty : gap ≠ []) (code : CodeText raw.code second)
      (apart' : Run separates gap') (nonempty' : gap' ≠ []) (subcode : CodeText raw.subcode third)
      (trailing : Run separates trail) :
      Content (some raw) (lead ++ (first ++ (gap ++ (second ++ (gap' ++ (third ++ trail))))))

inductive Comment : List Char → Prop
  | absent : Comment []
  | present {text : List Char} (unbroken : '\n' ∉ text) : Comment ('#' :: text)

inductive Line (held : Option Fault) : List Char → Prop
  | line {text comment : List Char} (content : Content held text) (noted : Comment comment) :
      Line held (text ++ comment)

inductive Ending : List Char → Prop
  | feed : Ending ['\n']
  | returnFeed : Ending ['\r', '\n']

inductive Written : List Fault → List Char → Prop
  | last {held : Option Fault} {text : List Char} (line : Line held text) :
      Written held.toList text
  | line {held : Option Fault} {faults : List Fault} {text ending rest : List Char}
      (line : Line held text) (ended : Ending ending) (after : Written faults rest) :
      Written (held.toList ++ faults) (text ++ (ending ++ rest))

variable {n : Nat} {line text gap rest : List Char} {later : List (List Char)}
  {held : Option Fault} {raw : Fault} {faults : List Fault}

def Inner (text : List Char) : Prop := ∀ c ∈ text, c ≠ '\n' ∧ c ≠ '#'

theorem innerAppend (front : Inner text) (back : Inner rest) : Inner (text ++ rest) := by
  intro c member
  rcases List.mem_append.mp member with early | late
  · exact front c early
  · exact back c late

theorem solidInner (solid : Solid text) : Inner text := by
  intro c member
  have plain := solid.plain c member
  constructor <;> rintro rfl <;> contradiction

theorem runInner (apart : Run separates gap) : Inner gap := by
  intro c member
  obtain ⟨separator, unbroken⟩ := apart c member
  refine ⟨unbroken, ?_⟩
  rintro rfl
  contradiction

theorem blankSeparates {c : Char} (blank : Text.isBlank c = true) : separates c = true := by
  rw [separates, blank, Bool.true_or]

theorem blankRun (blank : Run Text.isBlank text) : Run separates text :=
  fun c member => ⟨blankSeparates (blank c member).1, (blank c member).2⟩

theorem contentInner (content : Content held text) : Inner text := by
  cases content with
  | blank blank => exact runInner (blankRun blank)
  | triple leading category apart _ code apart' _ subcode trailing =>
    have first := solidInner (categorySolid category)
    have second := solidInner (codeSolid code)
    have third := solidInner (codeSolid subcode)
    have close := innerAppend third (runInner trailing)
    have middle := innerAppend second (innerAppend (runInner apart') close)
    exact innerAppend (runInner leading) (innerAppend first (innerAppend (runInner apart) middle))

theorem contentCut (inner : Inner text) (noted : Comment rest) : content (text ++ rest) = text := by
  have kept : ∀ c ∈ text, decide (c ≠ '#') = true := by
    intro c member
    simpa using (inner c member).2
  rw [content, List.takeWhile_append_of_pos kept]
  cases noted <;> simp

theorem lineUnbroken (written : Line held line) : '\n' ∉ line := by
  obtain ⟨content, noted⟩ := written
  intro there
  rcases List.mem_append.mp there with inside | after
  · exact (contentInner content _ inside).1 rfl
  · cases noted with
    | absent => contradiction
    | present unbroken => simp [unbroken] at after

theorem solidField (solid : Solid text) : Text.fields separates text = [text] := by
  apply Text.fieldsWord solid.nonempty
  intro c member
  have plain := solid.plain c member
  rw [delimits, Bool.or_eq_false_iff] at plain
  exact plain.1

theorem runSeparates (apart : Run separates gap) : ∀ c ∈ gap, separates c = true :=
  fun c member => (apart c member).1

theorem tripleRead {first second third : List Char} (category : CategoryText raw.category first)
    (code : CodeText raw.code second) (subcode : CodeText raw.subcode third) :
    triple (String.ofList first) (String.ofList second) (String.ofList third) = .ok raw := by
  simp only [triple, Input.category, Input.code, String.toList_ofList, categoryRead category,
    codeRead code, codeRead subcode, accept]
  rfl

theorem lineRead (written : Line held line) : lineOf line = .ok held := by
  obtain ⟨content, noted⟩ := written
  rw [lineOf, fieldsOf, contentCut (contentInner content) noted]
  cases content with
  | blank blank =>
    rw [if_pos (by simpa using fun c member => (blank c member).1)]
  | @triple raw lead first gap second gap' third trail leading category apart nonempty code apart'
      nonempty' subcode trailing =>
    have fields : Text.fields separates
        (lead ++ (first ++ (gap ++ (second ++ (gap' ++ (third ++ trail)))))) =
          [first, second, third] := by
      rw [Text.fieldsLead (runSeparates leading), Text.fieldsGap (runSeparates apart) nonempty,
        Text.fieldsGap (runSeparates apart') nonempty', Text.fieldsTrail (runSeparates trailing),
        solidField (categorySolid category), solidField (codeSolid code),
        solidField (codeSolid subcode)]
      rfl
    have unblank : ¬ (lead ++ (first ++ (gap ++ (second ++ (gap' ++ (third ++ trail)))))).all
        Text.isBlank = true := by
      intro blank
      have run := fun c member => blankSeparates (List.all_eq_true.mp blank c member)
      rw [← List.nil_append (lead ++ _), Text.fieldsTrail run] at fields
      contradiction
    rw [if_neg unblank, fields]
    change (triple _ _ _).map some = _
    rw [tripleRead category code subcode]
    rfl

theorem contentReturn :
    content (line ++ ['\r']) = content line ∨ content (line ++ ['\r']) = content line ++ ['\r'] := by
  unfold content
  rw [List.takeWhile_append]
  split
  · next whole =>
    have all : line.takeWhile (· ≠ '#') = line :=
      (List.takeWhile_sublist _).eq_of_length whole
    rw [all]
    exact .inr rfl
  · exact .inl rfl

theorem returnIgnored : lineOf (line ++ ['\r']) = lineOf line := by
  unfold lineOf fieldsOf
  have run : ∀ c ∈ ['\r'], separates c = true := runSeparates (by decide)
  rcases @contentReturn line with same | longer
  · rw [same]
  · rw [longer, Text.fieldsTrail run, List.all_append]
    simp [Text.isBlank]

theorem endingIgnored : lineOf (Text.dropReturn line) = lineOf line := by
  unfold Text.dropReturn
  split
  · next returned =>
    obtain ⟨front, rfl⟩ := List.getLast?_eq_some_iff.mp returned
    rw [List.dropLast_concat, returnIgnored]
  · rfl

theorem linesWritten {ending : List Char} (unbroken : '\n' ∉ line) (ended : Ending ending) :
    ∃ first, lineOf first = lineOf line ∧
      Text.lines (line ++ (ending ++ rest)) = first :: Text.lines rest := by
  cases ended with
  | feed => exact ⟨_, endingIgnored, Text.linesCut unbroken⟩
  | returnFeed =>
    have whole : '\n' ∉ line ++ ['\r'] := by simp [unbroken]
    refine ⟨_, endingIgnored.trans returnIgnored, ?_⟩
    rw [← Text.linesCut whole, List.append_assoc]
    rfl

theorem tallyLine (read : lineOf line = .ok held) :
    tally n (line :: later) =
      ⟨held.toList ++ (tally (n + 1) later).faults, (tally (n + 1) later).errors⟩ := by
  rw [tally, read]
  cases held <;> rfl

theorem tallyRead (written : Written faults text) :
    ∀ n, tally n (Text.lines text) = ⟨faults, []⟩ := by
  induction written with
  | last line =>
    intro n
    have read := lineRead line
    rw [Text.linesLast (lineUnbroken line)]
    split
    · next empty =>
      subst empty
      cases Except.ok.inj (read : Except.ok none = _)
      rfl
    · rw [tallyLine read]
      simp [tally]
  | line line ended after ih =>
    intro n
    obtain ⟨first, same, cut⟩ := linesWritten (lineUnbroken line) ended
    rw [cut, tallyLine (same.trans (lineRead line)), ih]

theorem batchRead (written : Written faults text) : batch (String.ofList text) = .ok faults := by
  rw [batch, tallyText, String.toList_ofList, tallyRead written 1]
  rfl

theorem someWritten : ∀ faults, ∃ text, Written faults text
  | [] =>
    have line : Line none ([] ++ []) := .line (.blank (by decide)) .absent
    ⟨_, .last line⟩
  | raw :: faults => by
    obtain ⟨rest, after⟩ := someWritten faults
    have content : Content (some raw) ([] ++ (raw.category.name.toList ++ ([' '] ++
        (Fault.wordText raw.code ++ ([' '] ++ (Fault.wordText raw.subcode ++ [])))))) :=
      .triple (by decide) .name (by decide) (by decide) (.shown _) (by decide) (by decide) (.shown _)
        (by decide)
    exact ⟨_, .line (.line content .absent) .feed after⟩

theorem batchReadsBack (faults : List Fault) :
    (∃ text, Written faults text) ∧
      ∀ text, Written faults text → batch (String.ofList text) = .ok faults :=
  ⟨someWritten faults, fun _ => batchRead⟩

theorem mixedReadsBack :
    batch "# faults\r\n \t\nbad-access,\u3000-9223372036854775808 NoNe\r\n,13 0xffffffffffffffff\t0x0#" =
      .ok [⟨.badAccess, some Int64.minValue, none⟩, ⟨.corpseNotify, some (-1), some 0⟩] := by
  have nothing : Run Text.isBlank [] := by decide
  have header : Line none "# faults".toList := .line (.blank nothing) (.present (by decide))
  have blanks : Run Text.isBlank " \t".toList := by decide
  have blank : Line none (" \t".toList ++ []) := .line (.blank blanks) .absent
  have lowest : CodeText (some Int64.minValue) "-9223372036854775808".toList := .decimal _
  have missing : CodeText none "NoNe".toList := .named (by decide)
  have wide : Run separates ",\u3000".toList := by decide
  have space : Run separates " ".toList := by decide
  have first : Content (some ⟨.badAccess, some Int64.minValue, none⟩) _ :=
    .triple (blankRun nothing) .name wide (by decide) lowest space (by decide) missing
      (blankRun nothing)
  have corpse : CategoryText .corpseNotify "13".toList := .number
  have ones : CodeText (some (-1)) "0xffffffffffffffff".toList := .shown (some (-1))
  have zero : CodeText (some 0) "0x0".toList := .shown (some 0)
  have comma : Run separates ",".toList := by decide
  have tab : Run separates "\t".toList := by decide
  have second : Content (some ⟨.corpseNotify, some (-1), some 0⟩) _ :=
    .triple comma corpse space (by decide) ones tab (by decide) zero (blankRun nothing)
  have remark : Comment "#".toList := .present (by decide)
  exact (batchReadsBack _).2 _ (.line header .returnFeed (.line blank .feed
    (.line (.line first .absent) .returnFeed (.last (.line second remark)))))

end FaultWatch.Input
