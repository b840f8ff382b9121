import FaultWatch.Json.Parse
import FaultWatch.Proofs.Text.Numeral
import FaultWatch.Proofs.Text.Split

/-! JSON text read back. A value that holds whole numbers only is read back from its text, whatever
its strings and keys contain, and nothing of what follows it is taken. The induction is on the value
itself; what carries it is that a text is at least as long as the readers' recursion is deep. The
main statement is `textRead`. -/
namespace FaultWatch.Json

mutual

@[simp] def Whole : Json → Prop
  | real _ => False
  | array items => AllWhole items
  | object members => MembersWhole members
  | _ => True

@[simp] def AllWhole : List Json → Prop
  | [] => True
  | item :: rest => item.Whole ∧ AllWhole rest

@[simp] def MembersWhole : List (String × Json) → Prop
  | [] => True
  | (_, value) :: rest => value.Whole ∧ MembersWhole rest

end

variable {c : Char} {cs rest : List Char} {bound n : Nat}

theorem fourRead : ∀ n < 32, (fourDigits n).length = 4 ∧ Text.digits? 16 (fourDigits n) = some n := by
  decide

theorem codeUnitRead {unit : List Char} (four : unit.length = 4)
    (read : Text.digits? 16 unit = some n) : codeUnit? (unit ++ rest) = some (n, rest) := by
  match unit, four with
  | [a, b, c, d], _ =>
    change (Text.digits? 16 [a, b, c, d]).map (fun unit => (unit, rest)) = _
    rw [read]
    rfl

theorem codePointRead (small : n < 32) :
    codePoint? (fourDigits n ++ rest) = some (Char.ofNat n, rest) := by
  obtain ⟨four, read⟩ := fourRead n small
  have notLow : isLowSurrogate n = false := by simp [isLowSurrogate]; omega
  have notHigh : isHighSurrogate n = false := by simp [isHighSurrogate]; omega
  simp [codePoint?, codeUnitRead four read, notLow, notHigh]

theorem numbered {code : Nat} (same : c.toNat = code) : c = Char.ofNat code := by
  rw [← same, Char.ofNat_toNat]

theorem characterRead : character? (escaped c ++ rest) = some (c, rest) := by
  unfold escaped
  split
  · next special => rcases special with rfl | rfl <;> rfl
  split
  · next here => rw [here]; rfl
  split
  · next here => rw [here]; rfl
  split
  · next here => rw [here]; rfl
  split
  · next here => rw [numbered here]; rfl
  split
  · next here => rw [numbered here]; rfl
  split
  · next small =>
    change codePoint? (fourDigits c.toNat ++ rest) = _
    rw [codePointRead small, Char.ofNat_toNat]
  · next plain _ _ _ _ _ large =>
    have plain : c ≠ '\\' := fun same => plain (.inr same)
    unfold character?
    split <;> simp_all

theorem escapedHead : ∃ first others, escaped c = first :: others ∧ first ≠ '"' := by
  unfold escaped
  split
  · exact ⟨_, _, rfl, by decide⟩
  · next plain =>
    repeat' split
    all_goals first
      | exact ⟨_, _, rfl, by decide⟩
      | exact ⟨_, _, rfl, fun same => plain (.inl same)⟩

theorem unquotedRead (enough : cs.length < bound) :
    unquoted? bound (cs.flatMap escaped ++ '"' :: rest) = some (cs, rest) := by
  induction cs generalizing bound with
  | nil =>
    cases bound with
    | zero => contradiction
    | succ bound => rfl
  | cons c cs ih =>
    cases bound with
    | zero => contradiction
    | succ bound =>
      have later := ih (Nat.lt_of_succ_lt_succ enough)
      have here : character? (escaped c ++ (cs.flatMap escaped ++ '"' :: rest)) =
        some (c, cs.flatMap escaped ++ '"' :: rest) := characterRead
      obtain ⟨first, others, text, open'⟩ := @escapedHead c
      rw [List.flatMap_cons, List.append_assoc]
      rw [text, List.cons_append] at here ⊢
      rw [unquoted?]
      · simp [here, later]
      · intro more same
        exact open' (List.cons.inj same).1

theorem escapedLength : cs.length ≤ (cs.flatMap escaped).length := by
  induction cs with
  | nil => simp
  | cons c cs ih =>
    obtain ⟨first, others, text, _⟩ := @escapedHead c
    simp only [List.flatMap_cons, List.length_append, List.length_cons, text]
    omega

theorem stringRead {s : String} :
    stringBody? (s.toList.flatMap escaped ++ '"' :: rest) = some (s, rest) := by
  have enough : s.toList.length < (s.toList.flatMap escaped ++ '"' :: rest).length := by
    have long := @escapedLength s.toList
    simp only [List.length_append, List.length_cons]
    omega
  rw [stringBody?, unquotedRead enough]
  simp

def Ends (rest : List Char) : Prop := ∀ c ∈ rest.head?, c = ',' ∨ c = ']' ∨ c = '\x7d'

theorem decimalDigit (there : c ∈ Text.decimal n) : c.isDigit = true := by
  obtain ⟨d, small, rfl⟩ := Text.digitOf Text.ten.many there
  have digit : ∀ d < 10, (Nat.digitChar d).isDigit = true := by decide
  exact digit d small

theorem decimalHead (positive : 0 < n) : ∃ c cs, Text.decimal n = c :: cs ∧ c ≠ '0' := by
  induction n using Nat.strongRecOn with
  | ind n ih =>
    rw [Text.decimal, Nat.toDigits_eq_if (by decide)]
    split
    · next small =>
      refine ⟨_, [], rfl, ?_⟩
      have first : ∀ d < 10, 0 < d → Nat.digitChar d ≠ '0' := by decide
      exact first n small positive
    · next large =>
      obtain ⟨c, cs, digits, first⟩ := ih (n / 10) (by omega) (by omega)
      rw [Text.decimal] at digits
      rw [digits]
      exact ⟨c, cs ++ _, rfl, first⟩

theorem decimalWhole : isWhole (Text.decimal n) = true := by
  rcases Nat.eq_zero_or_pos n with rfl | positive
  · rfl
  · obtain ⟨c, cs, digits, first⟩ := decimalHead positive
    simp [isWhole, digits, first]

theorem digitsTaken (ends : Ends rest) : digitsOf (Text.decimal n ++ rest) = Text.decimal n := by
  have stop : digitsOf rest = [] := by
    cases rest with
    | nil => rfl
    | cons c rest =>
      obtain rfl | rfl | rfl := ends c rfl <;> rfl
  rw [digitsOf, List.takeWhile_append_of_pos fun c there => decimalDigit there]
  simpa [digitsOf] using stop

theorem signTaken {sign : List Char} (signed : sign = [] ∨ sign = ['-']) :
    signOf (sign ++ (Text.decimal n ++ rest)) = sign := by
  obtain rfl | rfl := signed
  · cases digits : Text.decimal n with
    | nil => exact absurd digits Nat.toDigits_ne_nil
    | cons c cs =>
      have digit : c.isDigit = true := decimalDigit (n := n) (by simp [digits])
      unfold signOf
      split
      · next same =>
        cases same
        contradiction
      · rfl
  · rfl

theorem wholeRead {sign : List Char} (signed : sign = [] ∨ sign = ['-']) (ends : Ends rest) :
    numeral? (sign ++ (Text.decimal n ++ rest)) =
      some (number (if sign = [] then (n : Int) else -(n : Int)), rest) := by
  have noFraction : fractionOf rest = [] := by
    cases rest with
    | nil => rfl
    | cons c rest => obtain rfl | rfl | rfl := ends c rfl <;> rfl
  have noExponent : exponentOf rest = [] := by
    cases rest with
    | nil => rfl
    | cons c rest => obtain rfl | rfl | rfl := ends c rfl <;> rfl
  have read : Text.digits? 10 (Text.decimal n) = some n := Text.digitsRead Text.ten n
  simp [numeral?, signTaken signed, digitsTaken ends, noFraction, noExponent, decimalWhole, read]

theorem numeralRead {n : Int} (ends : Ends rest) :
    numeral? (Text.signedDecimal n ++ rest) = some (number n, rest) := by
  cases n with
  | ofNat n => exact wholeRead (.inl rfl) ends
  | negSucc n => exact wholeRead (n := n + 1) (.inr rfl) ends

theorem numeralHead (n : Int) :
    ∃ c cs, Text.signedDecimal n = c :: cs ∧ (c = '-' ∨ c.isDigit = true) := by
  cases n with
  | negSucc n => exact ⟨_, _, rfl, .inl rfl⟩
  | ofNat n =>
    cases digits : Text.decimal n with
    | nil => exact absurd digits Nat.toDigits_ne_nil
    | cons c cs => exact ⟨c, cs, digits, .inr (decimalDigit (n := n) (by simp [digits]))⟩

theorem numeralFirst (numeral : c = '-' ∨ c.isDigit = true) {other : Char}
    (mark : other ≠ '-' ∧ other.isDigit = false) : c ≠ other := by
  rintro rfl
  simp [mark] at numeral

theorem valueNumeral (numeral : c = '-' ∨ c.isDigit = true) :
    value? (bound + 1) (c :: cs) = numeral? (c :: cs) := by
  rw [value?]
  all_goals
    intro tail same
    exact numeralFirst numeral (by decide) (List.cons.inj same).1

theorem textHead (j : Json) (whole : j.Whole) :
    ∃ c cs, j.text = c :: cs ∧ isSpace c = false ∧ c ≠ ']' := by
  cases j with
  | null => exact ⟨_, _, rfl, by decide⟩
  | bool b => cases b <;> exact ⟨_, _, rfl, by decide⟩
  | number n =>
    obtain ⟨c, cs, text, numeral⟩ := numeralHead n
    refine ⟨c, cs, text, ?_, numeralFirst numeral (by decide)⟩
    have apart := fun other => @numeralFirst c numeral other
    simp [isSpace, apart ' ' (by decide), apart '\n' (by decide), apart '\r' (by decide),
      apart '\t' (by decide)]
  | real => contradiction
  | string => exact ⟨_, _, rfl, by decide⟩
  | array => exact ⟨_, _, rfl, by decide⟩
  | object => exact ⟨_, _, rfl, by decide⟩

theorem skipSolid (solid : isSpace c = false) : skipSpace (c :: cs) = c :: cs :=
  List.dropWhile_cons_of_neg (by simp [solid])

theorem quotedAppend {s : String} :
    quoted s ++ rest = '"' :: (s.toList.flatMap escaped ++ '"' :: rest) := by
  simp [quoted]

theorem valueString {s : String} :
    value? (bound + 1) (quoted s ++ rest) = some (string s, rest) := by
  rw [quotedAppend, value?, stringRead]
  rfl

theorem valueArray (solid : isSpace c = false) (opens : c ≠ ']') :
    value? (bound + 1) ('[' :: c :: cs) =
      (items? bound (c :: cs)).map fun found => (array found.1, found.2) := by
  rw [value?, skipSolid solid]
  split
  · next same => exact absurd (List.cons.inj same).1 opens
  · cases items? bound (c :: cs) <;> rfl

theorem itemsLast {item : Json} (here : value? bound cs = some (item, ']' :: rest)) :
    items? (bound + 1) cs = some ([item], rest) := by
  rw [items?, here]
  rfl

theorem itemsMore {item : Json} {others : List Json} {more : List Char}
    (here : value? bound cs = some (item, ',' :: c :: more)) (solid : isSpace c = false)
    (later : items? bound (c :: more) = some (others, rest)) :
    items? (bound + 1) cs = some (item :: others, rest) := by
  rw [items?, here]
  change Option.bind (items? bound (skipSpace (c :: more))) _ = _
  rw [skipSolid solid, later]
  rfl

theorem valueObject :
    value? (bound + 1) ('\x7b' :: '"' :: cs) =
      (memberList? bound ('"' :: cs)).map fun found => (object found.1, found.2) := by
  rw [value?]
  change Option.bind (memberList? bound ('"' :: cs)) _ = _
  cases memberList? bound ('"' :: cs) <;> rfl

variable {key : String} {value : Json} {others : List (String × Json)}

theorem membersLast (solid : isSpace c = false)
    (here : value? bound (c :: cs) = some (value, '\x7d' :: rest)) :
    memberList? (bound + 1) (quoted key ++ ':' :: c :: cs) = some ([(key, value)], rest) := by
  rw [quotedAppend, memberList?]
  change (stringBody? (key.toList.flatMap escaped ++ '"' :: ':' :: c :: cs)).bind _ = _
  rw [stringRead]
  change (value? bound (skipSpace (c :: cs))).bind _ = _
  rw [skipSolid solid, here]
  rfl

theorem membersMore {more : List Char} (solid : isSpace c = false)
    (here : value? bound (c :: cs) = some (value, ',' :: '"' :: more))
    (later : memberList? bound ('"' :: more) = some (others, rest)) :
    memberList? (bound + 1) (quoted key ++ ':' :: c :: cs) = some ((key, value) :: others, rest) := by
  rw [quotedAppend, memberList?]
  change (stringBody? (key.toList.flatMap escaped ++ '"' :: ':' :: c :: cs)).bind _ = _
  rw [stringRead]
  change (value? bound (skipSpace (c :: cs))).bind _ = _
  rw [skipSolid solid, here]
  change (memberList? bound ('"' :: more)).bind _ = _
  rw [later]
  rfl

theorem arrayText {items : List Json} :
    (array items).text ++ rest = '[' :: (List.intercalate [','] (texts items) ++ ']' :: rest) := by
  simp [text]

theorem objectText {members : List (String × Json)} :
    (object members).text ++ rest =
      '\x7b' :: (List.intercalate [','] (memberTexts members) ++ '\x7d' :: rest) := by
  simp [text]

theorem textsHead {item : Json} {items : List Json} (whole : item.Whole) :
    ∃ c cs, List.intercalate [','] (texts (item :: items)) = c :: cs ∧ isSpace c = false ∧
      c ≠ ']' := by
  obtain ⟨c, cs, text, solid, opens⟩ := textHead item whole
  cases items with
  | nil => exact ⟨c, cs, by simp [texts, text], solid, opens⟩
  | cons next items => exact ⟨c, _, by simp [texts, text]; rfl, solid, opens⟩

theorem memberTextsHead {member : String × Json} :
    ∃ cs, List.intercalate [','] (memberTexts (member :: others)) = '"' :: cs := by
  cases others with
  | nil => exact ⟨_, by simp [memberTexts, quoted]; rfl⟩
  | cons => exact ⟨_, by simp [memberTexts, quoted]; rfl⟩

/-- Every text that is within a bound is read back by the readers that have this bound. -/
structure Reads (bound : Nat) : Prop where
  value : ∀ (j : Json) rest, j.Whole → j.text.length ≤ bound → Ends rest →
    value? bound (j.text ++ rest) = some (j, rest)
  items : ∀ item items rest, AllWhole (item :: items) →
    (List.intercalate [','] (texts (item :: items))).length < bound →
    items? bound (List.intercalate [','] (texts (item :: items)) ++ ']' :: rest) =
      some (item :: items, rest)
  members : ∀ member members rest, MembersWhole (member :: members) →
    (List.intercalate [','] (memberTexts (member :: members))).length < bound →
    memberList? bound
        (List.intercalate [','] (memberTexts (member :: members)) ++ '\x7d' :: rest) =
      some (member :: members, rest)

theorem valueStep (inner : Reads bound) {j : Json} (whole : j.Whole)
    (enough : j.text.length ≤ bound + 1) (ends : Ends rest) :
    value? (bound + 1) (j.text ++ rest) = some (j, rest) := by
  cases j with
  | null => rfl
  | bool b => cases b <;> rfl
  | real => contradiction
  | number n =>
    obtain ⟨c, cs, digits, numeral⟩ := numeralHead n
    rw [text, digits, List.cons_append, valueNumeral numeral, ← List.cons_append, ← digits]
    exact numeralRead ends
  | string s => exact valueString
  | array items =>
    cases items with
    | nil => rfl
    | cons item items =>
      obtain ⟨c, cs, first, solid, opens⟩ := @textsHead item items whole.1
      simp only [text, List.length_append, List.length_cons] at enough
      have read := inner.items item items rest whole (by omega)
      rw [first, List.cons_append] at read
      rw [arrayText, first, List.cons_append, valueArray solid opens, read]
      rfl
  | object members =>
    cases members with
    | nil => rfl
    | cons member members =>
      obtain ⟨cs, first⟩ := @memberTextsHead members member
      simp only [text, List.length_append, List.length_cons] at enough
      have read := inner.members member members rest whole (by omega)
      rw [first, List.cons_append] at read
      rw [objectText, first, List.cons_append, valueObject, read]
      rfl

theorem itemsStep (inner : Reads bound) {item : Json} {items : List Json}
    (whole : AllWhole (item :: items))
    (enough : (List.intercalate [','] (texts (item :: items))).length < bound + 1) :
    items? (bound + 1) (List.intercalate [','] (texts (item :: items)) ++ ']' :: rest) =
      some (item :: items, rest) := by
  cases items with
  | nil =>
    rw [texts, texts, List.intercalate_singleton] at enough ⊢
    exact itemsLast (inner.value item (']' :: rest) whole.1 (by omega) (by simp [Ends]))
  | cons next items =>
    obtain ⟨c, cs, first, solid, _⟩ := @textsHead next items whole.2.1
    rw [texts, texts, List.intercalate_cons_cons, ← texts] at enough ⊢
    simp only [List.length_append, List.length_cons] at enough
    have here := inner.value item (',' :: c :: (cs ++ ']' :: rest)) whole.1 (by omega)
      (by simp [Ends])
    have later := inner.items next items rest whole.2 (by omega)
    rw [first, List.cons_append] at later
    simp only [first, List.append_assoc, List.cons_append, List.nil_append]
    exact itemsMore here solid later

theorem membersStep (inner : Reads bound) {member : String × Json} {members : List (String × Json)}
    (whole : MembersWhole (member :: members))
    (enough : (List.intercalate [','] (memberTexts (member :: members))).length < bound + 1) :
    memberList? (bound + 1)
        (List.intercalate [','] (memberTexts (member :: members)) ++ '\x7d' :: rest) =
      some (member :: members, rest) := by
  obtain ⟨key, value⟩ := member
  obtain ⟨c, cs, text, solid, _⟩ := textHead value whole.1
  cases members with
  | nil =>
    rw [memberTexts, memberTexts, List.intercalate_singleton] at enough ⊢
    simp only [List.length_append, List.length_cons] at enough
    have here := inner.value value ('\x7d' :: rest) whole.1 (by omega) (by simp [Ends])
    rw [text, List.cons_append] at here
    simp only [text, List.append_assoc, List.cons_append]
    exact membersLast solid here
  | cons next members =>
    obtain ⟨nextKey, nextValue⟩ := next
    obtain ⟨more, first⟩ := @memberTextsHead members (nextKey, nextValue)
    rw [memberTexts, memberTexts, List.intercalate_cons_cons, ← memberTexts] at enough ⊢
    simp only [List.length_append, List.length_cons] at enough
    have here := inner.value value (',' :: '"' :: (more ++ '\x7d' :: rest)) whole.1 (by omega)
      (by simp [Ends])
    have later := inner.members (nextKey, nextValue) members rest whole.2 (by omega)
    rw [first, List.cons_append] at later
    rw [text, List.cons_append] at here
    simp only [first, text, List.append_assoc, List.cons_append, List.nil_append]
    exact membersMore solid here later

theorem readsAll (bound : Nat) : Reads bound := by
  induction bound with
  | zero =>
    refine ⟨?_, fun _ _ _ _ enough => by contradiction, fun _ _ _ _ enough => by contradiction⟩
    intro j rest whole enough
    obtain ⟨c, cs, first, _⟩ := textHead j whole
    simp [first] at enough
  | succ bound inner =>
    exact ⟨fun _ _ => valueStep inner, fun _ _ _ => itemsStep inner,
      fun _ _ _ => membersStep inner⟩

theorem textRead {j : Json} (whole : j.Whole) : parse? j.text = some j := by
  obtain ⟨c, cs, first, solid, _⟩ := textHead j whole
  have read := (readsAll j.text.length).value j [] whole (Nat.le_refl _) (by simp [Ends])
  rw [List.append_nil] at read
  have skip : skipSpace j.text = j.text := by rw [first, skipSolid solid]
  rw [parse?, skip, read]
  rfl

theorem escapedLine : ∀ other ∈ escaped c, other ≠ '\n' := by
  have digits : ∀ n < 32, (fourDigits n).all (· ≠ '\n') = true := by decide
  unfold escaped
  split
  · next special => rcases special with rfl | rfl <;> simp
  split
  · simp
  split
  · simp
  split
  · simp
  split
  · simp
  split
  · simp
  split
  · next small => simpa using List.all_eq_true.mp (digits c.toNat small)
  · next other _ _ _ _ _ => simpa using other

theorem quotedLine (s : String) : ∀ c ∈ quoted s, c ≠ '\n' := by
  intro c there
  simp only [quoted, List.cons_append, List.mem_cons, List.mem_append, List.mem_flatMap] at there
  rcases there with rfl | ⟨_, _, inside⟩ | rfl | none
  · decide
  · exact escapedLine c inside
  · decide
  · contradiction

theorem numeralLine (n : Int) : ∀ c ∈ Text.signedDecimal n, c ≠ '\n' := by
  have plain : ∀ c ∈ Text.signedDecimal n, (c == '\n') = false :=
    Text.signedPlain (by decide) (by decide)
  simpa using plain

mutual

theorem oneLine : (j : Json) → j.Whole → ∀ c ∈ j.text, c ≠ '\n'
  | null, _ => by simp [text]
  | bool true, _ => by simp [text]
  | bool false, _ => by simp [text]
  | number n, _ => numeralLine n
  | real _, whole => whole.elim
  | string s, _ => quotedLine s
  | array items, whole => by
    have within : ∀ c ∈ List.intercalate [','] (texts items), c ≠ '\n' :=
      Text.joinedAll (by simp) (itemsLine items whole)
    simpa [text, or_imp, forall_and] using within
  | object members, whole => by
    have within : ∀ c ∈ List.intercalate [','] (memberTexts members), c ≠ '\n' :=
      Text.joinedAll (by simp) (membersLine members whole)
    simpa [text, or_imp, forall_and] using within

theorem itemsLine : (items : List Json) → AllWhole items →
    ∀ word ∈ texts items, ∀ c ∈ word, c ≠ '\n'
  | [], _ => by simp [texts]
  | item :: rest, whole =>
    List.forall_mem_cons.mpr ⟨oneLine item whole.1, itemsLine rest whole.2⟩

theorem membersLine : (members : List (String × Json)) → MembersWhole members →
    ∀ word ∈ memberTexts members, ∀ c ∈ word, c ≠ '\n'
  | [], _ => by simp [memberTexts]
  | (key, value) :: rest, whole => by
    refine List.forall_mem_cons.mpr ⟨?_, membersLine rest whole.2⟩
    intro c there
    rcases List.mem_append.mp there with inKey | inValue
    · exact quotedLine key c inKey
    · rcases List.mem_cons.mp inValue with rfl | inside
      · decide
      · exact oneLine value whole.1 c inside

end

end FaultWatch.Json
