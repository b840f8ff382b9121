/-! Lists whose entries are known by number. A new entry comes last, an entry is replaced where it
stands, and no number ever moves. Where entries are known by a key of their own instead, looking the
key up finds the entry. -/
namespace FaultWatch.Slots

variable {β : Type} {list : List β} {value old : β} {index i : Nat}

theorem added : (list ++ [value])[i]? = if i = list.length then some value else list[i]? := by
  rw [List.getElem?_append, List.getElem?_singleton]
  split
  · next inside => rw [if_neg (Nat.ne_of_lt inside)]
  · next beyond =>
    rw [List.getElem?_eq_none (Nat.le_of_not_lt beyond)]
    by_cases last : i = list.length
    · simp [last]
    · rw [if_neg last, if_neg (by omega)]

theorem replaced (here : list[index]? = some old) :
    (list.set index value)[i]? = if i = index then some value else list[i]? := by
  obtain ⟨inside, _⟩ := List.getElem?_eq_some_iff.mp here
  rw [List.getElem?_set, if_pos inside]
  simp only [eq_comm]

theorem replacedSame (here : list[index]? = some old) : list.set index old = list := by
  obtain ⟨inside, rfl⟩ := List.getElem?_eq_some_iff.mp here
  exact List.set_getElem_self inside

theorem keyed {γ : Type} [BEq γ] [LawfulBEq γ] {key : β → γ} (listed : value ∈ list)
    (own : ∀ other ∈ list, key other = key value → other = value) :
    list.find? (fun other => key other == key value) = some value := by
  cases found : list.find? (fun other => key other == key value) with
  | none =>
    have missed := List.find?_eq_none.mp found value listed
    simp at missed
  | some other =>
    have same : key other = key value := by simpa using List.find?_some found
    rw [own other (List.mem_of_find?_eq_some found) same]

end FaultWatch.Slots
