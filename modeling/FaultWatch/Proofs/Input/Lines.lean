import FaultWatch.Proofs.Input.Batch
import FaultWatch.Proofs.Text.Runs

/-! Batches line by line. A batch is read when every line is, and then holds what its lines hold, in
their order; else just the lines that fail are told, by number. A batch that follows whole lines
reads as on its own, with its lines so many further down. How lines end, and whether the last one
is ended, makes no difference. The main statement is `batchByLines`. -/
namespace FaultWatch.Input

def LineProblem.down (count : Nat) (e : LineProblem) : LineProblem :=
  { e with line := e.line + count }

namespace Tally

def ofLine (number : Nat) : Except Problem (Option Fault) → Tally
  | .ok held => ⟨held.toList, []⟩
  | .error problem => ⟨[], [⟨number, problem⟩]⟩

def append (first second : Tally) : Tally :=
  ⟨first.faults ++ second.faults, first.errors ++ second.errors⟩

instance : Append Tally := ⟨append⟩

def down (count : Nat) (t : Tally) : Tally := { t with errors := t.errors.map (.down count) }

end Tally

/-- The result for two texts in one, from the results for both, where the first has that many line
feeds. -/
def joined (feeds : Nat) : Except (List LineProblem) (List Fault) →
    Except (List LineProblem) (List Fault) → Except (List LineProblem) (List Fault)
  | .ok faults, .ok more => .ok (faults ++ more)
  | .ok _, .error later => .error (later.map (.down feeds))
  | .error errors, .ok _ => .error errors
  | .error errors, .error later => .error (errors ++ later.map (.down feeds))

/-- The lines that fail, each once, by rising number; the first line has number one. -/
structure Failing (rows : List (List Char)) (errors : List LineProblem) : Prop where
  rising : errors.Pairwise fun first second => first.line < second.line
  told : ∀ number problem, ⟨number, problem⟩ ∈ errors ↔
    ∃ i row, number = i + 1 ∧ rows[i]? = some row ∧ lineOf row = .error problem

structure Tells (rows : List (List Char)) (result : Except (List LineProblem) (List Fault)) :
    Prop where
  clear : (∃ faults, result = .ok faults) ↔ ∀ row ∈ rows, ∃ held, lineOf row = .ok held
  faults : ∀ faults, result = .ok faults ↔
    ∃ held : List (Option Fault), rows.map lineOf = held.map .ok ∧ held.reduceOption = faults
  errors : ∀ errors, result = .error errors ↔ errors ≠ [] ∧ Failing rows errors

def returned : List Char → List Char
  | [] => []
  | c :: rest => if c = '\n' then '\r' :: '\n' :: returned rest else c :: returned rest

variable {n count number : Nat} {problem : Problem} {row text before : List Char}
  {rows rest more : List (List Char)} {held : List (Option Fault)} {faults : List Fault}
  {errors other : List LineProblem} {t second third : Tally}

theorem tallyCons : tally n (row :: rest) = .ofLine n (lineOf row) ++ tally (n + 1) rest := by
  rw [tally]
  cases lineOf row with
  | ok held => cases held <;> rfl
  | error problem => rfl

theorem appendAssoc : t ++ second ++ third = t ++ (second ++ third) := by
  change Tally.append (Tally.append _ _) _ = Tally.append _ (Tally.append _ _)
  simp [Tally.append]

theorem tallyAppend : tally n (rows ++ more) = tally n rows ++ tally (n + rows.length) more := by
  induction rows generalizing n with
  | nil => rfl
  | cons row rest ih =>
    rw [List.cons_append, tallyCons, tallyCons, ih, appendAssoc, List.length_cons,
      Nat.add_right_comm, Nat.add_assoc]

theorem tallySame (same : rows.map lineOf = more.map lineOf) : tally n rows = tally n more := by
  induction rows generalizing n more with
  | nil =>
    rw [List.map_nil, eq_comm, List.map_eq_nil_iff] at same
    rw [same]
  | cons row rest ih =>
    obtain ⟨second, later, rfl, here, there⟩ := List.map_eq_cons_iff.mp same.symm
    rw [tallyCons, tallyCons, ih there.symm, here]

theorem downAppend : (t ++ second).down count = t.down count ++ second.down count := by
  change Tally.down count (Tally.append _ _) = Tally.append _ _
  simp [Tally.down, Tally.append]

theorem ofLineDown {read : Except Problem (Option Fault)} :
    Tally.ofLine (n + count) read = (Tally.ofLine n read).down count := by
  cases read <;> rfl

theorem tallyDown : tally (n + count) rows = (tally n rows).down count := by
  induction rows generalizing n with
  | nil => rfl
  | cons row rest ih =>
    rw [tallyCons, tallyCons, downAppend, ofLineDown, ← ih, Nat.add_right_comm]

theorem resultJoined : (t ++ second.down count).result = joined count t.result second.result := by
  obtain ⟨faults, errors⟩ := t
  obtain ⟨more, later⟩ := second
  change Tally.result ⟨faults ++ more, errors ++ later.map (.down count)⟩ = _
  cases errors <;> cases later <;> simp [Tally.result, joined]

theorem resultOk : t.result = .ok faults ↔ t.errors = [] ∧ t.faults = faults := by
  unfold Tally.result
  split <;> simp [*]

theorem resultError : t.result = .error errors ↔ errors ≠ [] ∧ t.errors = errors := by
  unfold Tally.result
  split
  · next clear =>
    rw [clear]
    grind
  · next failed => grind

theorem tallyErrors : ⟨number, problem⟩ ∈ (tally n rows).errors ↔
    ∃ i row, number = n + i ∧ rows[i]? = some row ∧ lineOf row = .error problem := by
  induction rows generalizing n with
  | nil => simp [tally]
  | cons first rest ih =>
    have here : ⟨number, problem⟩ ∈ (Tally.ofLine n (lineOf first)).errors ↔
        number = n ∧ lineOf first = .error problem := by
      cases lineOf first <;> simp [Tally.ofLine, eq_comm]
    rw [tallyCons]
    change _ ∈ _ ++ _ ↔ _
    rw [List.mem_append, here, ih]
    constructor
    · rintro (⟨rfl, failed⟩ | ⟨i, row, rfl, there, failed⟩)
      · exact ⟨0, first, rfl, rfl, failed⟩
      · exact ⟨i + 1, row, by omega, there, failed⟩
    · rintro ⟨i, row, rfl, there, failed⟩
      cases i with
      | zero =>
        cases Option.some.inj there
        exact .inl ⟨rfl, failed⟩
      | succ i => exact .inr ⟨i, row, by omega, there, failed⟩

theorem tallyRising :
    (tally n rows).errors.Pairwise fun first second => first.line < second.line := by
  induction rows generalizing n with
  | nil => exact .nil
  | cons row rest ih =>
    rw [tallyCons]
    cases lineOf row with
    | ok held => exact ih
    | error problem =>
      refine List.pairwise_cons.mpr ⟨?_, ih⟩
      intro later there
      obtain ⟨i, row, same, -⟩ := tallyErrors.mp there
      change n < later.line
      omega

theorem tallyFailing : Failing rows (tally 1 rows).errors := by
  refine ⟨tallyRising, ?_⟩
  intro number problem
  simp only [tallyErrors, Nat.add_comm]

theorem failingOne (failing : Failing rows errors) (again : Failing rows other) :
    errors = other := by
  have once : ∀ {list : List LineProblem},
      list.Pairwise (fun first second => first.line < second.line) → list.Nodup := by
    intro list rising
    exact rising.imp fun less same => absurd less (by rw [same]; exact Nat.lt_irrefl _)
  have same : errors.Perm other := by
    rw [List.perm_ext_iff_of_nodup (once failing.rising) (once again.rising)]
    rintro ⟨number, problem⟩
    rw [failing.told, again.told]
  exact same.eq_of_pairwise (fun _ _ _ _ less more => absurd more (Nat.lt_asymm less))
    failing.rising again.rising

theorem tallyFaults (read : rows.map lineOf = held.map .ok) :
    tally n rows = ⟨held.reduceOption, []⟩ := by
  induction rows generalizing n held with
  | nil =>
    rw [List.map_nil, eq_comm, List.map_eq_nil_iff] at read
    rw [read]
    rfl
  | cons row rest ih =>
    obtain ⟨own, later, rfl, here, there⟩ := List.map_eq_cons_iff.mp read.symm
    rw [tallyCons, ih there.symm, ← here]
    cases own <;> rfl

theorem tallyClear (clear : (tally n rows).errors = []) :
    ∃ held : List (Option Fault), rows.map lineOf = held.map .ok := by
  induction rows generalizing n with
  | nil => exact ⟨[], rfl⟩
  | cons row rest ih =>
    rw [tallyCons] at clear
    obtain ⟨here, there⟩ := List.append_eq_nil_iff.mp clear
    obtain ⟨held, read⟩ := ih there
    cases own : lineOf row with
    | error problem =>
      rw [own] at here
      contradiction
    | ok one => exact ⟨one :: held, by rw [List.map_cons, List.map_cons, own, read]⟩

theorem clearExact : (∃ faults, (tally 1 rows).result = .ok faults) ↔
    ∀ row ∈ rows, ∃ held, lineOf row = .ok held := by
  constructor
  · rintro ⟨faults, ok⟩ row there
    obtain ⟨held, read⟩ := tallyClear (resultOk.mp ok).1
    have member := List.mem_map_of_mem (f := lineOf) there
    rw [read] at member
    obtain ⟨own, -, same⟩ := List.mem_map.mp member
    exact ⟨own, same.symm⟩
  · intro each
    refine ⟨_, resultOk.mpr ⟨?_, rfl⟩⟩
    apply List.eq_nil_iff_forall_not_mem.mpr
    rintro ⟨number, problem⟩ failed
    obtain ⟨i, row, -, there, refused⟩ := tallyErrors.mp failed
    obtain ⟨held, read⟩ := each row (List.mem_of_getElem? there)
    rw [refused] at read
    contradiction

theorem faultsExact : (tally 1 rows).result = .ok faults ↔
    ∃ held : List (Option Fault), rows.map lineOf = held.map .ok ∧ held.reduceOption = faults := by
  constructor
  · intro ok
    obtain ⟨held, read⟩ := tallyClear (resultOk.mp ok).1
    rw [tallyFaults read] at ok
    exact ⟨held, read, Except.ok.inj ok⟩
  · rintro ⟨held, read, rfl⟩
    rw [tallyFaults read]
    rfl

theorem errorsExact :
    (tally 1 rows).result = .error errors ↔ errors ≠ [] ∧ Failing rows errors := by
  refine resultError.trans (and_congr_right fun _ => ?_)
  constructor
  · rintro rfl
    exact tallyFailing
  · exact failingOne tallyFailing

theorem tallyTells : Tells rows (tally 1 rows).result :=
  ⟨clearExact, fun _ => faultsExact, fun _ => errorsExact⟩

theorem tallyRows : ∀ rows n, tally n (Text.linesOf rows) = tally n rows
  | [], _ => rfl
  | [last], n => by
    rw [Text.linesOf]
    split
    · next empty =>
      rw [empty]
      rfl
    · rfl
  | row :: next :: rest, n => by
    rw [Text.linesOf, tallyCons, tallyCons, endingIgnored, tallyRows (next :: rest)]

theorem batchRows (text : String) :
    batch text = (tally 1 (Text.pieces (· == '\n') text.toList)).result := by
  rw [batch, tallyText, Text.lines, tallyRows]

theorem returnsIgnored (unbroken : '\n' ∉ before) :
    (Text.pieces (· == '\n') (before ++ returned text)).map lineOf =
      (Text.pieces (· == '\n') (before ++ text)).map lineOf := by
  induction text generalizing before with
  | nil => rfl
  | cons c text ih =>
    rw [returned]
    split
    · next feed =>
      subst feed
      have whole : '\n' ∉ before ++ ['\r'] := by simp [unbroken]
      have rest := @ih [] (by simp)
      rw [List.nil_append, List.nil_append] at rest
      rw [List.append_cons before '\r', Text.piecesCut rfl, Text.lineWhole whole,
        Text.piecesCut rfl, Text.lineWhole unbroken, List.map_append, List.map_append, rest,
        List.map_singleton, returnIgnored, List.map_singleton]
    · next other =>
      have whole : '\n' ∉ before ++ [c] := by simp [unbroken, Ne.symm other]
      rw [List.append_cons, List.append_cons before c text]
      exact ih whole

theorem linesJoined (ended : before = [] ∨ before.getLast? = some '\n') :
    Text.lines (before ++ text) = Text.lines before ++ Text.lines text ∧
      (Text.lines before).length = before.count '\n' := by
  rcases ended with rfl | fed
  · exact ⟨rfl, rfl⟩
  · obtain ⟨front, rfl⟩ := List.getLast?_eq_some_iff.mp fed
    have alone : Text.lines (front ++ ['\n']) =
        (Text.pieces (· == '\n') front).map Text.dropReturn := by
      rw [Text.linesFeed]
      exact List.append_nil _
    refine ⟨?_, ?_⟩
    · rw [List.append_assoc, List.singleton_append, Text.linesFeed, alone]
    · rw [alone, List.length_map, Text.piecesCount, List.count_append]
      rfl

theorem finalFeed : tally n (Text.pieces (· == '\n') (text ++ ['\n'])) =
    tally n (Text.pieces (· == '\n') text) := by
  have blank : ∀ n, tally n [[]] = ⟨[], []⟩ := fun _ => rfl
  rw [Text.piecesCut rfl, Text.pieces, tallyAppend, blank]
  change Tally.append _ _ = _
  simp [Tally.append]

theorem batchByLines (text : String) :
    (∃ rows, Text.Rows text.toList rows) ∧
    (∀ rows, Text.Rows text.toList rows → Tells rows (batch text)) ∧
    (∀ before : String, before.toList = [] ∨ before.toList.getLast? = some '\n' →
      batch (before ++ text) = joined (before.toList.count '\n') (batch before) (batch text)) ∧
    batch (String.ofList (returned text.toList)) = batch text ∧
    batch (text ++ "\n") = batch text := by
  refine ⟨⟨_, Text.rowsOf _⟩, ?_, ?_, ?_, ?_⟩
  · intro rows has
    rw [batchRows, Text.rowsExact.mp has]
    exact tallyTells
  · intro before ended
    obtain ⟨lines, count⟩ := @linesJoined text.toList _ ended
    rw [batch, tallyText, String.toList_append, lines, tallyAppend, count, tallyDown, resultJoined]
    rfl
  · have same := @returnsIgnored text.toList [] (by simp)
    rw [List.nil_append, List.nil_append] at same
    rw [batchRows, batchRows, String.toList_ofList, tallySame same]
  · rw [batchRows, batchRows, String.toList_append]
    exact congrArg Tally.result finalFeed

theorem laterLinesTold : ("\ncrash 1 2\r\n".toList.getLast? = some '\n') ∧
    batch ("\ncrash 1 2\r\n" ++ "bogus 1 2\n# none\n,software x") =
      .error [⟨3, .category "bogus"⟩, ⟨5, .fieldCount 2⟩] := by
  obtain ⟨-, -, after, -⟩ := batchByLines "bogus 1 2\n# none\n,software x"
  have ended : "\ncrash 1 2\r\n".toList.getLast? = some '\n' := by decide
  refine ⟨ended, ?_⟩
  rw [after _ (.inr ended)]
  rfl

end FaultWatch.Input
