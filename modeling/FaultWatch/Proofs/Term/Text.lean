import FaultWatch.Term
import FaultWatch.Proofs.Text.Numeral
import FaultWatch.Proofs.Text.Split

/-! Structured text is unambiguous. No name, number or label holds a mark, so up to its first mark a
text is the head of a term or all of a word, and the mark tells which. The induction is on the
term; what carries it is that a text is followed by one of the marks that end a term. The main
statement is `textOwn`. -/
namespace FaultWatch.Term

def isMark (c : Char) : Bool :=
  c == '(' || c == ')' || c == '\x7b' || c == '\x7d' || c == ':' || c == ',' || c == '\n'

def Unmarked (cs : List Char) : Prop := cs.all (fun c => !isMark c) = true

instance (cs : List Char) : Decidable (Unmarked cs) := inferInstanceAs (Decidable (_ = true))

mutual

@[simp] def Plain : Term → Prop
  | word cs => Unmarked cs
  | applied head argument => Unmarked head.toList ∧ argument.Plain
  | record head parts => Unmarked head.toList ∧ parts ≠ [] ∧ PartsPlain parts

@[simp] def PartsPlain : List (String × Term) → Prop
  | [] => True
  | (label, part) :: rest => Unmarked label.toList ∧ part.Plain ∧ PartsPlain rest

end

def marked (c : Char) (rest : List Char) : List Char :=
  (if c = '\x7b' ∨ c = '\x7d' then [' '] else []) ++ c :: rest

def Ends (c : Char) : Prop := c = ')' ∨ c = ',' ∨ c = '\x7d' ∨ c = '\n'

theorem closeEnds : Ends ')' := .inl rfl

theorem commaEnds : Ends ',' := .inr (.inl rfl)

theorem braceEnds : Ends '\x7d' := .inr (.inr (.inl rfl))

theorem lineEnds : Ends '\n' := .inr (.inr (.inr rfl))

theorem openingGoesOn : ¬ Ends '(' ∧ ¬ Ends '\x7b' := by
  simp [Ends]

def Told (t : Term) : Prop :=
  ∀ ⦃u : Term⦄ ⦃c d : Char⦄ ⦃rest others : List Char⦄, u.Plain → Ends c → Ends d →
    t.text ++ marked c rest = u.text ++ marked d others → t = u ∧ c = d ∧ rest = others

def partsText (parts : List (String × Term)) : List Char :=
  List.intercalate ", ".toList (partTexts parts)

def PartsTold (parts : List (String × Term)) : Prop :=
  ∀ ⦃labelled : List (String × Term)⦄ ⦃rest others : List Char⦄, PartsPlain labelled →
    labelled ≠ [] →
    partsText parts ++ marked '\x7d' rest = partsText labelled ++ marked '\x7d' others →
      parts = labelled ∧ rest = others

variable {t u argument part : Term} {c d : Char} {cs ds rest others : List Char}
  {head label : String} {parts labelled : List (String × Term)} {next : String × Term}

theorem endsMark (ends : Ends c) : isMark c = true := by
  rcases ends with rfl | rfl | rfl | rfl <;> rfl

theorem unmarkedLead (unmarked : Unmarked cs) (mark : isMark c = true) :
    (cs ++ c :: rest).takeWhile (fun c => !isMark c) = cs ∧
      (cs ++ c :: rest).dropWhile (fun c => !isMark c) = c :: rest := by
  have all := List.all_eq_true.mp unmarked
  rw [List.takeWhile_append_of_pos all, List.dropWhile_append_of_pos all]
  simp [mark]

theorem cut (unmarked : Unmarked cs) (unmarked' : Unmarked ds) (mark : isMark c = true)
    (mark' : isMark d = true) (same : cs ++ c :: rest = ds ++ d :: others) :
    cs = ds ∧ c = d ∧ rest = others := by
  obtain ⟨lead, tail⟩ := @unmarkedLead c cs rest unmarked mark
  obtain ⟨lead', tail'⟩ := @unmarkedLead d ds others unmarked' mark'
  rw [same] at lead tail
  exact ⟨lead.symm.trans lead', List.cons.inj (tail.symm.trans tail')⟩

theorem markedCut (unmarked : Unmarked cs) (unmarked' : Unmarked ds) (mark : isMark c = true)
    (mark' : isMark d = true) (same : cs ++ marked c rest = ds ++ marked d others) :
    cs = ds ∧ c = d ∧ rest = others := by
  have gap : ∀ c, Unmarked (if c = '\x7b' ∨ c = '\x7d' then [' '] else []) := by
    intro c
    split <;> decide
  have wide : ∀ {cs : List Char} (c : Char), Unmarked cs →
      Unmarked (cs ++ if c = '\x7b' ∨ c = '\x7d' then [' '] else []) := by
    intro cs c unmarked
    rw [Unmarked, List.all_append, Bool.and_eq_true]
    exact ⟨unmarked, gap c⟩
  rw [marked, marked, ← List.append_assoc, ← List.append_assoc] at same
  obtain ⟨lead, rfl, tail⟩ := cut (wide c unmarked) (wide d unmarked') mark mark' same
  exact ⟨List.append_cancel_right lead, rfl, tail⟩

theorem appliedText : (applied head argument).text ++ rest =
    head.toList ++ marked '(' (argument.text ++ marked ')' rest) := by
  simp [text, marked]

theorem recordText : (record head parts).text ++ rest =
    head.toList ++ marked '\x7b' (' ' :: (partsText parts ++ marked '\x7d' rest)) := by
  simp [text, marked, partsText]

theorem lastText : partsText [(label, part)] ++ rest =
    label.toList ++ marked ':' (' ' :: (part.text ++ rest)) := by
  simp [partsText, partTexts, marked]

theorem nextText : partsText ((label, part) :: next :: parts) ++ rest =
    label.toList ++ marked ':' (' ' :: (part.text ++
      marked ',' (' ' :: (partsText (next :: parts) ++ rest)))) := by
  simp [partsText, partTexts, marked]

theorem markedSame (ends : Ends c) (ends' : Ends d) (same : marked c rest = marked d others) :
    c = d ∧ rest = others :=
  (@markedCut c d [] [] rest others rfl rfl (endsMark ends) (endsMark ends') same).2

theorem wordTold (unmarked : Unmarked cs) : (word cs).Told := by
  intro u c d rest others plain ends ends' same
  cases u with
  | word ds =>
    obtain ⟨rfl, follows⟩ := markedCut unmarked plain (endsMark ends) (endsMark ends') same
    exact ⟨rfl, follows⟩
  | applied head argument =>
    rw [appliedText] at same
    obtain ⟨_, rfl, _⟩ := markedCut unmarked plain.1 (endsMark ends) rfl same
    exact absurd ends openingGoesOn.1
  | record head parts =>
    rw [recordText] at same
    obtain ⟨_, rfl, _⟩ := markedCut unmarked plain.1 (endsMark ends) rfl same
    exact absurd ends openingGoesOn.2

theorem appliedTold (unmarked : Unmarked head.toList) (told : argument.Told) :
    (applied head argument).Told := by
  intro u c d rest others plain ends ends' same
  rw [appliedText] at same
  cases u with
  | word ds =>
    obtain ⟨_, rfl, _⟩ := markedCut unmarked plain rfl (endsMark ends') same
    exact absurd ends' openingGoesOn.1
  | applied head' argument' =>
    rw [appliedText] at same
    obtain ⟨heads, _, inner⟩ := markedCut unmarked plain.1 rfl rfl same
    obtain ⟨rfl, _, after⟩ := told plain.2 closeEnds closeEnds inner
    rw [String.toList_inj.mp heads]
    exact ⟨rfl, markedSame ends ends' after⟩
  | record head parts =>
    rw [recordText] at same
    have differ := (markedCut unmarked plain.1 rfl rfl same).2.1
    exact absurd differ (by decide)

theorem recordTold (unmarked : Unmarked head.toList) (told : PartsTold parts) :
    (record head parts).Told := by
  intro u c d rest others plain ends ends' same
  rw [recordText] at same
  cases u with
  | word ds =>
    obtain ⟨_, rfl, _⟩ := markedCut unmarked plain rfl (endsMark ends') same
    exact absurd ends' openingGoesOn.2
  | applied head argument =>
    rw [appliedText] at same
    have differ := (markedCut unmarked plain.1 rfl rfl same).2.1
    exact absurd differ (by decide)
  | record head' parts' =>
    rw [recordText] at same
    obtain ⟨heads, _, inner⟩ := markedCut unmarked plain.1 rfl rfl same
    obtain ⟨rfl, after⟩ := told plain.2.2 plain.2.1 (List.cons.inj inner).2
    rw [String.toList_inj.mp heads]
    exact ⟨rfl, markedSame ends ends' after⟩

theorem lastTold (unmarked : Unmarked label.toList) (told : part.Told) :
    PartsTold [(label, part)] := by
  intro labelled rest others plain nonempty same
  rw [lastText] at same
  match labelled, nonempty with
  | [(label', part')], _ =>
    rw [lastText] at same
    obtain ⟨labels, _, inner⟩ := markedCut unmarked plain.1 rfl rfl same
    obtain ⟨rfl, _, after⟩ := told plain.2.1 braceEnds braceEnds (List.cons.inj inner).2
    rw [String.toList_inj.mp labels]
    exact ⟨rfl, after⟩
  | (label', part') :: next :: more, _ =>
    rw [nextText] at same
    obtain ⟨_, _, inner⟩ := markedCut unmarked plain.1 rfl rfl same
    have differ := (told plain.2.1 braceEnds commaEnds (List.cons.inj inner).2).2.1
    exact absurd differ (by decide)

theorem nextTold (unmarked : Unmarked label.toList) (told : part.Told)
    (later : PartsTold (next :: parts)) : PartsTold ((label, part) :: next :: parts) := by
  intro labelled rest others plain nonempty same
  rw [nextText] at same
  match labelled, nonempty with
  | [(label', part')], _ =>
    rw [lastText] at same
    obtain ⟨_, _, inner⟩ := markedCut unmarked plain.1 rfl rfl same
    have differ := (told plain.2.1 commaEnds braceEnds (List.cons.inj inner).2).2.1
    exact absurd differ (by decide)
  | (label', part') :: next' :: more, _ =>
    rw [nextText] at same
    obtain ⟨labels, _, inner⟩ := markedCut unmarked plain.1 rfl rfl same
    obtain ⟨rfl, _, after⟩ := told plain.2.1 commaEnds commaEnds (List.cons.inj inner).2
    obtain ⟨same, follows⟩ := later plain.2.2 (by simp) (List.cons.inj after).2
    rw [String.toList_inj.mp labels, same]
    exact ⟨rfl, follows⟩

mutual

theorem allTold : (t : Term) → t.Plain → t.Told
  | word _, plain => wordTold plain
  | applied _ argument, plain => appliedTold plain.1 (allTold argument plain.2)
  | record _ parts, plain => recordTold plain.1 (partsTold parts plain.2.1 plain.2.2)

theorem partsTold : (parts : List (String × Term)) → parts ≠ [] → PartsPlain parts →
    PartsTold parts
  | [], nonempty, _ => absurd rfl nonempty
  | [(_, part)], _, plain => lastTold plain.1 (allTold part plain.2.1)
  | (_, part) :: next :: rest, _, plain =>
    nextTold plain.1 (allTold part plain.2.1) (partsTold (next :: rest) (by simp) plain.2.2)

end

theorem textOwn (plain : t.Plain) (plain' : u.Plain) (same : t.text = u.text) : t = u :=
  (@allTold t plain u '\n' '\n' [] [] plain' lineEnds lineEnds (by rw [same])).1

theorem unmarkedLine (unmarked : Unmarked cs) : ∀ c ∈ cs, c ≠ '\n' := by
  rintro c there rfl
  simpa [isMark] using List.all_eq_true.mp unmarked _ there

mutual

theorem oneLine : (t : Term) → t.Plain → ∀ c ∈ t.text, c ≠ '\n'
  | word _, plain => unmarkedLine plain
  | applied _ argument, plain => by
    have within := oneLine argument plain.2
    simpa [text, or_imp, forall_and] using ⟨unmarkedLine plain.1, within⟩
  | record _ parts, plain => by
    have within : ∀ c ∈ List.intercalate ", ".toList (partTexts parts), c ≠ '\n' :=
      Text.joinedAll (by simp) (partsLine parts plain.2.2)
    simpa [text, or_imp, forall_and] using ⟨unmarkedLine plain.1, within⟩

theorem partsLine : (parts : List (String × Term)) → PartsPlain parts →
    ∀ word ∈ partTexts parts, ∀ c ∈ word, c ≠ '\n'
  | [], _ => by simp [partTexts]
  | (_, part) :: rest, plain => by
    refine List.forall_mem_cons.mpr ⟨?_, partsLine rest plain.2.2⟩
    have within := oneLine part plain.2.1
    simpa [or_imp, forall_and] using ⟨unmarkedLine plain.1, within⟩

end

theorem numberUnmarked (n : Int) : Unmarked (Text.signedDecimal n) := by
  have plain : ∀ c ∈ Text.signedDecimal n, isMark c = false :=
    Text.signedPlain (by decide) (by decide)
  simpa [Unmarked] using plain

theorem hexadecimalUnmarked (n : Nat) : Unmarked (Text.hexadecimal n) := by
  have plain : ∀ c ∈ Nat.toDigits 16 n, isMark c = false :=
    Text.digitsPlain Text.sixteen (by decide)
  have lead : isMark '0' = false ∧ isMark 'x' = false := by decide
  simpa [Unmarked, Text.hexadecimal, lead] using plain

@[simp] theorem numberPlain {n : Int} : (number n).Plain := numberUnmarked n

@[simp] theorem namePlain {s : String} : (name s).Plain ↔ Unmarked s.toList := Iff.rfl

@[simp] theorem numberSame {n m : Int} : number n = number m ↔ n = m :=
  ⟨fun same => Text.signedOwn (word.inj same), fun same => by rw [same]⟩

@[simp high] theorem naturalSame {n m : Nat} : number n = number m ↔ n = m :=
  numberSame.trans Int.natCast_inj

@[simp] theorem nameSame {s other : String} : name s = name other ↔ s = other := by
  rw [name, name, word.injEq, String.toList_inj]

@[simp] theorem nameRecord {s : String} : name s ≠ record head parts := Term.noConfusion

@[simp] theorem recordName {s : String} : record head parts ≠ name s := Term.noConfusion

@[simp] theorem nameApplied {s : String} : name s ≠ applied head argument := Term.noConfusion

@[simp] theorem appliedName {s : String} : applied head argument ≠ name s := Term.noConfusion

/-- A value's term is plain, and no other value has it. -/
structure Clear (write : α → Term) : Prop where
  plain : ∀ value, (write value).Plain
  own : ∀ value other, write value = write other → value = other

theorem Clear.same {write : α → Term} (clear : Clear write) {value other : α} :
    write value = write other ↔ value = other :=
  ⟨clear.own value other, fun same => by rw [same]⟩

end FaultWatch.Term
