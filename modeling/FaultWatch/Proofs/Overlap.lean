import FaultWatch.Proofs.Layout
import Mathlib.Data.List.FinRange
import Mathlib.Data.List.Pairwise

/-! What the overlaps of a layout mean. The list of overlaps goes through the pairs of positions in
their order and holds just those whose fields have a bit in common; it is empty just if it does not
matter in which order the fields are written, for then two writes commute, and a bit in common
holds what was written last. The main statement is `overlapExact`. -/
namespace FaultWatch

def Field.Share (f g : Field) : Prop := ∃ bit, f.covers bit = true ∧ g.covers bit = true

namespace Layout

/-- The positions of the fields that share a bit, in lexicographic order. -/
def sharing : (fields : List Field) → List (Fin fields.length × Fin fields.length)
  | [] => []
  | f :: rest =>
    ((List.finRange rest.length).filter fun j => f.overlaps (rest.get j)).map
        (fun j => (0, j.succ)) ++
      (sharing rest).map (Prod.map Fin.succ Fin.succ)

def assign (layout : Layout) (values : Fin layout.fields.length → UInt64)
    (order : List (Fin layout.fields.length)) : List Edit :=
  order.map fun i => .direct (layout.fields.get i) (values i)

/-- All orders of writing the fields lead from a word to the same word, whatever is written. -/
def OrderFree (layout : Layout) : Prop :=
  ∀ (word : UInt64) (values : Fin layout.fields.length → UInt64)
    (order other : List (Fin layout.fields.length)),
    order.Perm (List.finRange _) → other.Perm (List.finRange _) →
      layout.editAll word (layout.assign values order) =
        layout.editAll word (layout.assign values other)

end Layout

namespace Field

variable {f g : Field} {word value other : UInt64} {writes order : List (Field × UInt64)}

theorem overlapsExact : f.overlaps g = true ↔ f.Share g := by
  have first := f.ordered
  have second := g.ordered
  simp only [overlaps, Share, covers, Bool.and_eq_true, decide_eq_true_eq]
  constructor
  · rintro ⟨below, above⟩
    exact ⟨max f.lsb g.lsb, by omega, by omega⟩
  · rintro ⟨bit, inside, within⟩
    omega

theorem writesCommute (apart : f.overlaps g = false) :
    g.insert (f.insert word value) other = f.insert (g.insert word other) value := by
  have disjoint : ¬ (f.lsb ≤ g.msb ∧ g.lsb ≤ f.msb) := by simpa [overlaps] using apart
  apply sameBits
  intro i _
  rw [writtenBit, writtenBit, writtenBit, writtenBit]
  by_cases inside : f.lsb ≤ i ∧ i ≤ f.msb
  · have outside : ¬ (g.lsb ≤ i ∧ i ≤ g.msb) := by omega
    simp only [if_pos inside, if_neg outside]
  · simp only [if_neg inside]

theorem writeAllPerm (apart : Apart writes) (shuffled : order.Perm writes) :
    writeAll word order = writeAll word writes := by
  have commute : ∀ first ∈ writes, ∀ second ∈ writes, ∀ word,
      second.1.insert (first.1.insert word first.2) second.2 =
        first.1.insert (second.1.insert word second.2) first.2 := by
    have symmetric : Std.Symm fun first second : Field × UInt64 => ∀ word,
        second.1.insert (first.1.insert word first.2) second.2 =
          first.1.insert (second.1.insert word second.2) first.2 :=
      ⟨fun _ _ same word => (same word).symm⟩
    exact List.Pairwise.forall_of_forall (fun _ _ _ => rfl)
      (apart.imp fun apart _ => writesCommute apart)
  exact shuffled.foldl_eq' (fun first there second also word =>
    commute first (shuffled.subset there) second (shuffled.subset also) word) word

end Field

namespace Layout

variable {layout : Layout} {fields : List Field}

theorem sharingRising : (sharing fields).Pairwise (Prod.Lex (· < ·) (· < ·)) := by
  induction fields with
  | nil => exact .nil
  | cons f rest ih =>
    rw [sharing, List.pairwise_append, List.pairwise_map, List.pairwise_map]
    refine ⟨?_, ?_, ?_⟩
    · refine ((List.pairwise_lt_finRange _).filter _).imp fun less => ?_
      exact .right _ (Fin.succ_lt_succ_iff.mpr less)
    · refine ih.imp fun less => ?_
      rw [Prod.lex_iff] at less ⊢
      simpa using less
    · intro first here second later
      obtain ⟨j, -, rfl⟩ := List.mem_map.mp here
      obtain ⟨pair, -, rfl⟩ := List.mem_map.mp later
      exact .left _ _ (Fin.succ_pos _)

theorem sharingExact {i j : Fin fields.length} :
    (i, j) ∈ sharing fields ↔ i < j ∧ (fields.get i).Share (fields.get j) := by
  induction fields with
  | nil => exact i.elim0
  | cons f rest ih =>
    rw [sharing, List.mem_append, List.mem_map, List.mem_map]
    cases i using Fin.cases with
    | zero =>
      cases j using Fin.cases with
      | zero => simp
      | succ j => simp [← Field.overlapsExact]
    | succ i =>
      cases j using Fin.cases with
      | zero => simp
      | succ j => simp [ih, (Fin.succ_ne_zero i).symm]

theorem sharingListed :
    overlapsWithin fields = (sharing fields).map fun p => (fields.get p.1, fields.get p.2) := by
  induction fields with
  | nil => rfl
  | cons f rest ih =>
    have here : rest.filter f.overlaps =
        ((List.finRange rest.length).filter fun j => f.overlaps (rest.get j)).map rest.get := by
      conv_lhs => rw [← List.map_get_finRange rest, List.filter_map]
      rfl
    rw [overlapsWithin, sharing, List.map_append, List.map_map, List.map_map, here, List.map_map,
      ih]
    rfl

theorem overlappingNone : layout.overlapping = [] ↔
    ∀ i j, i < j → (layout.fields.get i).overlaps (layout.fields.get j) = false := by
  rw [overlapping, sharingListed, List.map_eq_nil_iff, List.eq_nil_iff_forall_not_mem, Prod.forall]
  refine forall_congr' fun i => forall_congr' fun j => ?_
  rw [sharingExact, not_and, ← Field.overlapsExact, Bool.not_eq_true]

theorem assignAll {word : UInt64} {values : Fin layout.fields.length → UInt64}
    {order : List (Fin layout.fields.length)} :
    layout.editAll word (layout.assign values order) =
      Field.writeAll word (order.map fun i => (layout.fields.get i, values i)) := by
  rw [← Field.editAllDirect layout, List.map_map]
  rfl

theorem assignApart (none : layout.overlapping = []) (values : Fin layout.fields.length → UInt64) :
    Field.Apart ((List.finRange _).map fun i => (layout.fields.get i, values i)) := by
  rw [Field.Apart, List.pairwise_map]
  exact (List.pairwise_lt_finRange _).imp (overlappingNone.mp none _ _)

theorem orderFree (none : layout.overlapping = []) : layout.OrderFree := by
  intro word values order other shuffled reshuffled
  have apart := assignApart none values
  rw [assignAll, assignAll, Field.writeAllPerm apart (shuffled.map _),
    Field.writeAllPerm apart (reshuffled.map _)]

theorem ownValue (none : layout.overlapping = []) {word : UInt64}
    {values : Fin layout.fields.length → UInt64} {order : List (Fin layout.fields.length)}
    (shuffled : order.Perm (List.finRange _)) (i : Fin layout.fields.length) :
    ((layout.fields.get i).extract (layout.editAll word (layout.assign values order))).toNat =
      (values i).toNat % (1 <<< (layout.fields.get i).width) := by
  have apart := (Field.apartPerm (shuffled.map _)).mpr (assignApart none values)
  have member : i ∈ order := shuffled.mem_iff.mpr (List.mem_finRange i)
  rw [assignAll, Field.readAll apart (List.mem_map_of_mem member), Field.keptNat]

theorem lastBit {word : UInt64} {values : Fin layout.fields.length → UInt64}
    {order : List (Fin layout.fields.length)} {i : Fin layout.fields.length} {bit : Nat}
    (covered : (layout.fields.get i).covers bit = true) :
    (layout.editAll word (layout.assign values (order ++ [i]))).toBitVec.getLsbD bit =
      (values i).toBitVec.getLsbD (bit - (layout.fields.get i).lsb) := by
  rw [assign, List.map_append, List.map_singleton, editAllSnoc]
  change ((layout.fields.get i).insert _ (values i)).toBitVec.getLsbD bit = _
  rw [Field.writtenBit, if_pos (by simpa [Field.covers] using covered)]

theorem sharedMatters {i j : Fin layout.fields.length} (apart : i ≠ j)
    (shared : (layout.fields.get i).Share (layout.fields.get j)) : ¬ layout.OrderFree := by
  obtain ⟨bit, first, second⟩ := shared
  let values := fun k => if k = i then (0xffffffffffffffff : UInt64) else 0
  let rest := ((List.finRange layout.fields.length).erase i).erase j
  have all : (i :: j :: rest).Perm (List.finRange _) := by
    have there : j ∈ (List.finRange layout.fields.length).erase i :=
      (List.mem_erase_of_ne apart.symm).mpr (List.mem_finRange j)
    exact ((List.perm_cons_erase (List.mem_finRange i)).trans
      ((List.perm_cons_erase there).cons i)).symm
  have onesFirst : (rest ++ [i] ++ [j]).Perm (List.finRange _) := by
    rw [List.append_assoc]
    exact List.perm_append_comm.trans all
  have onesLast : (rest ++ [j] ++ [i]).Perm (List.finRange _) := by
    rw [List.append_assoc]
    exact List.perm_append_comm.trans ((List.Perm.swap i j rest).trans all)
  intro free
  have same := congrArg (fun word : UInt64 => word.toBitVec.getLsbD bit)
    (free 0 values _ _ onesFirst onesLast)
  have zeros : values j = 0 := if_neg apart.symm
  have ones : values i = 0xffffffffffffffff := if_pos rfl
  simp only [lastBit first, lastBit second, zeros, ones] at same
  have inside : bit - (layout.fields.get i).lsb < 64 := by
    have fits : (layout.fields.get i).msb < 64 := (layout.fields.get i).fits
    simp only [Field.covers, Bool.and_eq_true, decide_eq_true_eq] at first
    omega
  have all : (0xffffffffffffffff : UInt64).toBitVec = BitVec.allOnes 64 := rfl
  rw [all, BitVec.getLsbD_allOnes, decide_eq_true inside] at same
  simp at same

theorem freeNone (free : layout.OrderFree) : layout.overlapping = [] := by
  rw [overlappingNone]
  intro i j less
  rw [Bool.eq_false_iff, Ne, Field.overlapsExact]
  exact fun shared => sharedMatters (Fin.ne_of_lt less) shared free

theorem overlapExact (layout : Layout) :
    (∃ places : List (Fin layout.fields.length × Fin layout.fields.length),
      layout.overlapping =
          places.map (fun p => (layout.fields.get p.1, layout.fields.get p.2)) ∧
        places.Pairwise (Prod.Lex (· < ·) (· < ·)) ∧
        ∀ i j, (i, j) ∈ places ↔ i < j ∧ (layout.fields.get i).Share (layout.fields.get j)) ∧
    (layout.overlapping = [] ↔ layout.OrderFree) ∧
    (layout.overlapping = [] →
      ∀ (word : UInt64) (values : Fin layout.fields.length → UInt64)
        (order : List (Fin layout.fields.length)) (i : Fin layout.fields.length),
        order.Perm (List.finRange _) →
          ((layout.fields.get i).extract (layout.editAll word (layout.assign values order))).toNat =
            (values i).toNat % (1 <<< (layout.fields.get i).width)) :=
  ⟨⟨sharing layout.fields, sharingListed, sharingRising, fun _ _ => sharingExact⟩,
    ⟨orderFree, freeNone⟩, fun none _ _ _ i shuffled => ownValue none shuffled i⟩

theorem tiledInAnyOrder :
    let top : Field := { name := "top", lsb := 63, msb := 63 }
    let low : Field := { name := "low", lsb := 0, msb := 3 }
    let middle : Field := { name := "middle", lsb := 4, msb := 62 }
    let tiled : Layout := ⟨"tiled", [top, low, middle]⟩
    let twice : Layout := ⟨"twice", [top, low, top]⟩
    let values : Fin 3 → UInt64 := [0xffffffffffffffff, 0x1f5, 7].get
    tiled.overlapping = [] ∧ [2, 0, 1].Perm (List.finRange 3) ∧ tiled.OrderFree ∧
      (low.extract (tiled.editAll 0xff (tiled.assign values [2, 0, 1]))).toNat = 5 ∧
      twice.overlapping = [(top, top)] ∧ ¬ twice.OrderFree := by
  intro top low middle tiled twice values
  have none : tiled.overlapping = [] := by decide
  have shuffled : [2, 0, 1].Perm (List.finRange 3) := by decide
  have shared : twice.overlapping = [(top, top)] := by decide
  obtain ⟨-, free, own⟩ := overlapExact tiled
  have matters := (overlapExact twice).2.1
  have kept := own none 0xff values [2, 0, 1] 1 shuffled
  refine ⟨none, shuffled, free.mp none, kept.trans (by decide), shared, ?_⟩
  rw [← matters, shared]
  simp

end Layout
end FaultWatch
