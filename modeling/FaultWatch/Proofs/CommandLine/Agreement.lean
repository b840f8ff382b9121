import FaultWatch.Proofs.CommandLine.Discipline
import FaultWatch.Proofs.Input.Batch
import FaultWatch.Proofs.Input.Line

/-! A batch against its triples one by one. Each triple is also decoded by a call of its own, with
the same options; the batch prints what those calls print, or, when some of them fail, one line for
each that fails, with the complaint of that call. The main statement is `batchAgrees`. -/
namespace FaultWatch.CommandLine

structure Call (options : Options) where
  first : String
  second : String
  third : String
  arguments : List String
  spelled : Spelled .none arguments [first, second, third] options
  firstSolid : Input.Solid first.toList
  secondSolid : Input.Solid second.toList
  thirdSolid : Input.Solid third.toList

def Call.outcome {options : Options} (read : String → Except ReadError String)
    (call : Call options) : Outcome :=
  run read ("decode" :: call.arguments)

def Call.line {options : Options} (call : Call options) : List Char :=
  call.first.toList ++ ([' '] ++ (call.second.toList ++ ([' '] ++ call.third.toList)))

inductive Listed : List (List Char) → List Char → Prop
  | none : Listed [] []
  | last {line : List Char} : Listed [line] line
  | next {line ending text : List Char} {lines : List (List Char)} (ended : Input.Ending ending)
      (more : Listed lines text) : Listed (line :: lines) (line ++ (ending ++ text))

/-- What is said of a batch from line `n` on, where each line alone has the outcome given for it. -/
inductive Complaints (path : String) : Nat → List Outcome → List String → Prop
  | nil {n : Nat} : Complaints path n [] []
  | done {n : Nat} {stdout : String} {outcomes : List Outcome} {lines : List String}
      (more : Complaints path (n + 1) outcomes lines) :
      Complaints path n (⟨0, stdout, ""⟩ :: outcomes) lines
  | failed {n : Nat} {message : String} {outcomes : List Outcome} {lines : List String}
      (oneLine : '\n' ∉ message.toList) (more : Complaints path (n + 1) outcomes lines) :
      Complaints path n (⟨1, "", unlines ["error: " ++ message, usage]⟩ :: outcomes)
        ((path ++ ":" ++ ("line " ++ String.ofList (Text.decimal n) ++ ": " ++ message)) :: lines)

variable {n : Nat} {options : Options} {path : String} {read : String → Except ReadError String}
  {call : Call options} {calls : List (Call options)} {problem : Input.Problem}
  {text : List Char} {lines : List (List Char)}

theorem lineInner : Input.Inner call.line := by
  have space : Input.Inner [' '] := by
    intro c there
    cases List.mem_singleton.mp there
    decide
  have last := Input.innerAppend space (Input.solidInner call.thirdSolid)
  have middle := Input.innerAppend space
    (Input.innerAppend (Input.solidInner call.secondSolid) last)
  exact Input.innerAppend (Input.solidInner call.firstSolid) middle

theorem lineFields : Input.fieldsOf call.line = [call.first, call.second, call.third] := by
  have whole := Input.contentCut (@lineInner _ call) .absent
  have space : ∀ c ∈ [' '], Input.separates c = true := Input.runSeparates (by decide)
  rw [List.append_nil] at whole
  rw [Input.fieldsOf, whole, Call.line, Text.fieldsGap space (by simp),
    Text.fieldsGap space (by simp), Input.solidField call.firstSolid,
    Input.solidField call.secondSolid, Input.solidField call.thirdSolid]
  simp

theorem callLine :
    Input.lineOf call.line = (Input.triple call.first call.second call.third).map some := by
  rw [Input.lineSplit (by rw [lineFields]; simp), lineFields]
  rfl

theorem callOutcome : call.outcome read =
    match Input.triple call.first call.second call.third with
    | .ok raw => .results [options.report raw]
    | .error problem => .complaints ["error: " ++ problem.message, usage] := by
  have decode : ¬ isHelp "decode" = true := by decide
  rw [Call.outcome, run, requestRead decode call.spelled]
  cases read : Input.triple call.first call.second call.third with
  | ok raw =>
    simp only [commandOf, if_true, decodeCommand, read]
    exact printAll
  | error problem =>
    simp only [commandOf, if_true, decodeCommand, read]
    have unopened : ¬ opensUsage (Refusal.input problem).message = true := by
      rw [Bool.not_eq_true]
      exact problemUnopened problem
    exact if_neg unopened

theorem tripleRefusal {first second third : String}
    (refused : Input.triple first second third = .error problem) :
    problem = .category first ∨ problem = .code second ∨ problem = .code third := by
  unfold Input.triple at refused
  cases category : Input.category first with
  | error other =>
    rw [category] at refused
    cases refused
    exact .inl (Input.acceptError.mp category).2.symm
  | ok category' =>
    cases code : Input.code second with
    | error other =>
      rw [category, code] at refused
      cases refused
      exact .inr (.inl (Input.acceptError.mp code).2.symm)
    | ok held =>
      cases subcode : Input.code third with
      | error other =>
        rw [category, code, subcode] at refused
        cases refused
        exact .inr (.inr (Input.acceptError.mp subcode).2.symm)
      | ok held' =>
        rw [category, code, subcode] at refused
        contradiction

theorem quotedLine {front word : String} (unbroken : '\n' ∉ front.toList)
    (solid : Input.Solid word.toList) : '\n' ∉ (front ++ word ++ "`").toList := by
  have inner : '\n' ∉ word.toList := fun there => (Input.solidInner solid _ there).1 rfl
  have mark : '\n' ∉ "`".toList := by decide
  simp only [String.toList_append, List.mem_append, not_or]
  exact ⟨⟨unbroken, inner⟩, mark⟩

theorem problemLine (refused : Input.triple call.first call.second call.third = .error problem) :
    '\n' ∉ problem.message.toList := by
  rcases tripleRefusal refused with rfl | rfl | rfl
  · exact quotedLine (by decide) call.firstSolid
  · exact quotedLine (by decide) call.secondSolid
  · exact quotedLine (by decide) call.thirdSolid

theorem callTold (read : String → Except ReadError String) (call : Call options) :
    (∃ raw, Input.lineOf call.line = .ok (some raw) ∧
      call.outcome read = ⟨0, ended (options.report raw), ""⟩) ∨
    ∃ problem, Input.lineOf call.line = .error problem ∧ '\n' ∉ problem.message.toList ∧
      call.outcome read = ⟨1, "", unlines ["error: " ++ problem.message, usage]⟩ := by
  rw [callLine, callOutcome]
  cases told : Input.triple call.first call.second call.third with
  | ok raw =>
    refine .inl ⟨raw, rfl, ?_⟩
    simp [Outcome.results, unlines]
  | error problem => exact .inr ⟨problem, rfl, problemLine told, rfl⟩

theorem complaintsTold (path : String) (read : String → Except ReadError String) (n : Nat) :
    Complaints path n (calls.map (Call.outcome read))
      ((Input.tally n (calls.map Call.line)).errors.map fun e => path ++ ":" ++ e.message) := by
  induction calls generalizing n with
  | nil => exact .nil
  | cons call calls ih =>
    rw [List.map_cons, List.map_cons, Input.tally]
    rcases callTold read call with ⟨raw, told, outcome⟩ | ⟨problem, told, oneLine, outcome⟩
    · rw [told, outcome]
      exact .done (ih (n + 1))
    · rw [told, outcome]
      exact .failed oneLine (ih (n + 1))

theorem errorsNone (read : String → Except ReadError String) (n : Nat) :
    (Input.tally n (calls.map Call.line)).errors = [] ↔
      ∀ call ∈ calls, (call.outcome read).exit = 0 := by
  induction calls generalizing n with
  | nil => simp [Input.tally]
  | cons call calls ih =>
    rw [List.map_cons, Input.tally, List.forall_mem_cons, ← ih (n + 1)]
    rcases callTold read call with ⟨raw, told, outcome⟩ | ⟨problem, told, -, outcome⟩
    · rw [told, outcome]
      simp
    · rw [told, outcome]
      simp

theorem reportsJoined (n : Nat) (done : ∀ call ∈ calls, (call.outcome read).exit = 0) :
    unlines ((Input.tally n (calls.map Call.line)).faults.map options.report) =
      String.join (calls.map fun call => (call.outcome read).stdout) := by
  induction calls generalizing n with
  | nil => rfl
  | cons call calls ih =>
    obtain ⟨here, later⟩ := List.forall_mem_cons.mp done
    rw [List.map_cons, List.map_cons, Input.tally, String.join_cons, ← ih (n + 1) later]
    rcases callTold read call with ⟨raw, told, outcome⟩ | ⟨problem, told, -, outcome⟩
    · rw [told, outcome]
      rfl
    · rw [outcome] at here
      contradiction

theorem tallyListed (listed : Listed lines text) (unbroken : ∀ line ∈ lines, '\n' ∉ line)
    (nonempty : ∀ line ∈ lines, line ≠ []) (n : Nat) :
    Input.tally n (Text.lines text) = Input.tally n lines := by
  induction listed generalizing n with
  | none => rfl
  | @last line =>
    rw [Text.linesLast (unbroken line (by simp)), if_neg (nonempty line (by simp))]
  | @next line ending text lines ended more ih =>
    obtain ⟨here, later⟩ := List.forall_mem_cons.mp unbroken
    obtain ⟨-, nonempty⟩ := List.forall_mem_cons.mp nonempty
    obtain ⟨first, same, cut⟩ := Input.linesWritten here ended
    rw [cut, Input.tally, Input.tally, same, ih later nonempty]

theorem lineUnbroken : ∀ line ∈ calls.map Call.line, '\n' ∉ line := by
  intro line there
  obtain ⟨call, -, rfl⟩ := List.mem_map.mp there
  exact fun broken => (lineInner _ broken).1 rfl

theorem lineNonempty : ∀ line ∈ calls.map Call.line, line ≠ [] := by
  intro line there
  obtain ⟨call, -, rfl⟩ := List.mem_map.mp there
  simp [Call.line]

theorem batchOutcome {path text : String} {arguments : List String}
    (named : Spelled .none arguments [path] options) (readable : read path = .ok text)
    (listed : Listed (calls.map Call.line) text.toList) :
    run read ("batch" :: arguments) =
      match (Input.tally 1 (calls.map Call.line)).result with
      | .ok faults => .results (faults.map options.report)
      | .error errors => .complaints (errors.map fun e => path ++ ":" ++ e.message) := by
  have batch : ¬ isHelp "batch" = true := by decide
  have tallied : Input.batch text = (Input.tally 1 (calls.map Call.line)).result := by
    rw [Input.batch, Input.tallyText, tallyListed listed lineUnbroken lineNonempty]
  rw [run, requestRead batch named]
  change runBatch path options (read path) = _
  rw [readable]
  cases read : (Input.tally 1 (calls.map Call.line)).result with
  | ok faults => simp only [runBatch, tallied, read, printAll]
  | error errors => simp only [runBatch, tallied, read]

theorem batchAgrees (read : String → Except ReadError String) (path text : String)
    (arguments : List String) (options : Options) (calls : List (Call options))
    (named : Spelled .none arguments [path] options) (readable : read path = .ok text)
    (listed : Listed (calls.map Call.line) text.toList) :
    ((∀ call ∈ calls, (call.outcome read).exit = 0) →
      run read ("batch" :: arguments) =
        ⟨0, String.join (calls.map fun call => (call.outcome read).stdout), ""⟩) ∧
    ((∃ call ∈ calls, (call.outcome read).exit ≠ 0) →
      ∃ lines, Complaints path 1 (calls.map (Call.outcome read)) lines ∧
        run read ("batch" :: arguments) = ⟨1, "", unlines lines⟩) := by
  rw [batchOutcome named readable listed, Input.Tally.result]
  constructor
  · intro done
    rw [if_pos ((errorsNone read 1).mpr done), ← reportsJoined 1 done]
    rfl
  · rintro ⟨call, there, failed⟩
    have errors : (Input.tally 1 (calls.map Call.line)).errors ≠ [] :=
      fun none => failed ((errorsNone read 1).mp none call there)
    rw [if_neg errors]
    exact ⟨_, complaintsTold path read 1, rfl⟩

theorem misspeltComplains :
    let options : Options := ⟨some .arm64, .json⟩
    let read : String → Except ReadError String := fun _ => .ok "syscall 5 -\r\nbad-acess 1 0"
    ∃ calls : List (Call options),
      calls.map Call.line = ["syscall 5 -".toList, "bad-acess 1 0".toList] ∧
        ∃ lines, Complaints "faults.txt" 1 (calls.map (Call.outcome read)) lines ∧
          run read ["batch", "--json", "faults.txt", "--arch", "arm64"] =
            ⟨1, "", unlines lines⟩ := by
  intro options read
  have syscall : Spelled .none ["syscall", "--arch", "arm64", "5", "--json", "-"]
      ["syscall", "5", "-"] options :=
    .word (by decide) (.family rfl (.word (by decide) (.json (.word (by decide) .nil))))
  have access : Spelled .none ["--json", "--arch", "arm64", "bad-acess", "1", "0"]
      ["bad-acess", "1", "0"] options :=
    .json (.family rfl (.word (by decide) (.word (by decide) (.word (by decide) .nil))))
  have batch : Spelled .none ["--json", "faults.txt", "--arch", "arm64"] ["faults.txt"] options :=
    .json (.word (by decide) (.family rfl .nil))
  let good : Call options := ⟨_, _, _, _, syscall, by decide, by decide, by decide⟩
  let bad : Call options := ⟨_, _, _, _, access, by decide, by decide, by decide⟩
  have first : good.line = "syscall 5 -".toList := by
    change "syscall".toList ++ ([' '] ++ ("5".toList ++ ([' '] ++ "-".toList))) = _
    decide
  have second : bad.line = "bad-acess 1 0".toList := by
    change "bad-acess".toList ++ ([' '] ++ ("1".toList ++ ([' '] ++ "0".toList))) = _
    decide
  have lines : [good, bad].map Call.line = ["syscall 5 -".toList, "bad-acess 1 0".toList] := by
    rw [List.map_cons, List.map_cons, List.map_nil, first, second]
  have listed : Listed ([good, bad].map Call.line) "syscall 5 -\r\nbad-acess 1 0".toList := by
    rw [lines]
    exact @Listed.next "syscall 5 -".toList _ _ _ .returnFeed .last
  have refused : Input.triple "bad-acess" "1" "0" = .error (.category "bad-acess") := rfl
  have failed : (bad.outcome read).exit ≠ 0 := by
    rw [callOutcome, refused]
    exact Nat.one_ne_zero
  exact ⟨[good, bad], lines,
    (batchAgrees read "faults.txt" _ _ options [good, bad] batch rfl listed).2
      ⟨bad, by simp, failed⟩⟩

end FaultWatch.CommandLine
