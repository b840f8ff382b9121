import FaultWatch.Decoder
import FaultWatch.Proofs.Field

/-! The layout of resource words, both ways. A kind, one of its flavors and the kind's own fields,
written into both words over whatever they held and in whatever order, decode to that kind and
flavor with each value cut to its field; and of the two words nothing else counts. Kinds and flavors
that are not declared do not decode. The main statement is `limitsExact`. -/
namespace FaultWatch.Resource

def CpuFlavor.number : CpuFlavor → UInt64
  | monitor => 1
  | monitorFatal => 2

def WakeupsFlavor.number : WakeupsFlavor → UInt64
  | monitor => 1

def MemoryFlavor.number : MemoryFlavor → UInt64
  | highWatermark => 1

def IoFlavor.number : IoFlavor → UInt64
  | physicalWrites => 1
  | logicalWrites => 2

def ThreadsFlavor.number : ThreadsFlavor → UInt64
  | highWatermark => 1

def declared : List (UInt64 × UInt64) := [(1, 1), (1, 2), (2, 1), (3, 1), (4, 1), (4, 2), (5, 1)]

def codeFieldsOf : Nat → List Field
  | 1 => [cpuInterval, cpuLimit]
  | 2 => [wakeupsInterval, wakeupsPermitted]
  | 3 => [memoryLimit]
  | 4 => [ioInterval, ioLimit]
  | 5 => [threadsCount]
  | _ => []

def subcodeFieldsOf : Nat → List Field
  | 1 => [cpuUtilization]
  | 2 => [wakeupsObserved]
  | 4 => [ioCount]
  | _ => []

/-- What is written into the code and into the subcode, and the resource that it stands for. -/
inductive Stands : List (Field × UInt64) → List (Field × UInt64) → Resource → Prop
  | cpu {why : CpuFlavor} {interval limit utilization : UInt64} :
      Stands
        [(kindField, 1), (flavorField, why.number), (cpuInterval, interval), (cpuLimit, limit)]
        [(cpuUtilization, utilization)]
        (.cpu why (interval % 0x2000000) (limit % 0x80) (utilization % 0x80))
  | wakeups {why : WakeupsFlavor} {interval permitted observed : UInt64} :
      Stands
        [(kindField, 2), (flavorField, why.number), (wakeupsInterval, interval),
          (wakeupsPermitted, permitted)]
        [(wakeupsObserved, observed)]
        (.wakeups why (interval % 0x1000) (permitted % 0x100000) (observed % 0x80))
  | memory {why : MemoryFlavor} {limit : UInt64} :
      Stands [(kindField, 3), (flavorField, why.number), (memoryLimit, limit)] []
        (.memory why (limit % 0x2000))
  | io {why : IoFlavor} {interval limit count : UInt64} :
      Stands
        [(kindField, 4), (flavorField, why.number), (ioInterval, interval), (ioLimit, limit)]
        [(ioCount, count)]
        (.io why (interval % 0x20000) (limit % 0x8000) (count % 0x8000))
  | threads {why : ThreadsFlavor} {count : UInt64} :
      Stands [(kindField, 5), (flavorField, why.number), (threadsCount, count)] []
        (.threads why (count % 0x80000000))

variable {code subcode other another : UInt64} {limits seen limitOrder seenOrder : List (Field × UInt64)}
  {resource : Resource}

theorem limitsApart (stands : Stands limits seen resource) : Field.Apart limits := by
  cases stands <;> simp [Field.Apart] <;> decide

theorem seenApart (stands : Stands limits seen resource) : Field.Apart seen := by
  cases stands <;> simp [Field.Apart]

theorem standsDecoded (stands : Stands limits seen resource) (limitsShuffled : limitOrder.Perm limits)
    (seenShuffled : seenOrder.Perm seen) :
    ofWords? (Field.writeAll code limitOrder) (Field.writeAll subcode seenOrder) =
      some resource := by
  have limitsTold : ∀ f value, (f, value) ∈ limits →
      f.extract (Field.writeAll code limitOrder) = value &&& f.mask := fun f value member =>
    Field.readAll ((Field.apartPerm limitsShuffled).mpr (limitsApart stands))
      (limitsShuffled.mem_iff.mpr member)
  have seenTold : ∀ f value, (f, value) ∈ seen →
      f.extract (Field.writeAll subcode seenOrder) = value &&& f.mask := fun f value member =>
    Field.readAll ((Field.apartPerm seenShuffled).mpr (seenApart stands))
      (seenShuffled.mem_iff.mpr member)
  generalize Field.writeAll code limitOrder = packed at limitsTold
  generalize Field.writeAll subcode seenOrder = observation at seenTold
  cases stands with
  | @cpu why interval limit utilization =>
    have kind : kindField.extract packed = 1 := (limitsTold kindField 1 (by simp)).trans (by decide)
    have flavor : flavor? CpuFlavor.all (flavorField.extract packed) = some why := by
      rw [limitsTold flavorField why.number (by simp)]
      cases why <;> rfl
    have every : cpuInterval.extract packed = interval % 0x2000000 :=
      (limitsTold cpuInterval interval (by simp)).trans (Field.keptRem rfl)
    have most : cpuLimit.extract packed = limit % 0x80 :=
      (limitsTold cpuLimit limit (by simp)).trans (Field.keptRem rfl)
    have used : cpuUtilization.extract observation = utilization % 0x80 :=
      (seenTold cpuUtilization utilization (by simp)).trans (Field.keptRem rfl)
    simp [ofWords?, kind, flavor, every, most, used]
  | @wakeups why interval permitted observed =>
    have kind : kindField.extract packed = 2 := (limitsTold kindField 2 (by simp)).trans (by decide)
    have flavor : flavor? WakeupsFlavor.all (flavorField.extract packed) = some why := by
      rw [limitsTold flavorField why.number (by simp)]
      cases why
      rfl
    have every : wakeupsInterval.extract packed = interval % 0x1000 :=
      (limitsTold wakeupsInterval interval (by simp)).trans (Field.keptRem rfl)
    have most : wakeupsPermitted.extract packed = permitted % 0x100000 :=
      (limitsTold wakeupsPermitted permitted (by simp)).trans (Field.keptRem rfl)
    have used : wakeupsObserved.extract observation = observed % 0x80 :=
      (seenTold wakeupsObserved observed (by simp)).trans (Field.keptRem rfl)
    simp [ofWords?, kind, flavor, every, most, used]
  | @memory why limit =>
    have kind : kindField.extract packed = 3 := (limitsTold kindField 3 (by simp)).trans (by decide)
    have flavor : flavor? MemoryFlavor.all (flavorField.extract packed) = some why := by
      rw [limitsTold flavorField why.number (by simp)]
      cases why
      rfl
    have most : memoryLimit.extract packed = limit % 0x2000 :=
      (limitsTold memoryLimit limit (by simp)).trans (Field.keptRem rfl)
    simp [ofWords?, kind, flavor, most]
  | @io why interval limit count =>
    have kind : kindField.extract packed = 4 := (limitsTold kindField 4 (by simp)).trans (by decide)
    have flavor : flavor? IoFlavor.all (flavorField.extract packed) = some why := by
      rw [limitsTold flavorField why.number (by simp)]
      cases why <;> rfl
    have every : ioInterval.extract packed = interval % 0x20000 :=
      (limitsTold ioInterval interval (by simp)).trans (Field.keptRem rfl)
    have most : ioLimit.extract packed = limit % 0x8000 :=
      (limitsTold ioLimit limit (by simp)).trans (Field.keptRem rfl)
    have used : ioCount.extract observation = count % 0x8000 :=
      (seenTold ioCount count (by simp)).trans (Field.keptRem rfl)
    simp [ofWords?, kind, flavor, every, most, used]
  | @threads why count =>
    have kind : kindField.extract packed = 5 := (limitsTold kindField 5 (by simp)).trans (by decide)
    have flavor : flavor? ThreadsFlavor.all (flavorField.extract packed) = some why := by
      rw [limitsTold flavorField why.number (by simp)]
      cases why
      rfl
    have most : threadsCount.extract packed = count % 0x80000000 :=
      (limitsTold threadsCount count (by simp)).trans (Field.keptRem rfl)
    simp [ofWords?, kind, flavor, most]

theorem flavorUndeclared {flavor : UInt64} {all : List α} :
    flavor? all flavor = none ↔ flavor = 0 ∨ all.length < flavor.toNat := by
  unfold flavor?
  split
  · next zero => simp [zero]
  · next positive =>
    have counted : flavor.toNat ≠ 0 := fun same => positive (UInt64.toNat_inj.mp same)
    simp only [List.getElem?_eq_none_iff, positive, false_or]
    omega

theorem undecoded : ofWords? code subcode = none ↔
    (kindField.extract code, flavorField.extract code) ∉ declared := by
  simp only [declared, List.mem_cons, Prod.mk.injEq, List.not_mem_nil, or_false,
    ← UInt64.toNat_inj, UInt64.reduceToNat]
  unfold ofWords?
  split
  case h_6 =>
    constructor
    · intro _
      grind
    · intro _
      rfl
  all_goals next here =>
    rw [Option.map_eq_none_iff, flavorUndeclared, ← UInt64.toNat_inj, here]
    simp [CpuFlavor.all, WakeupsFlavor.all, MemoryFlavor.all, IoFlavor.all, ThreadsFlavor.all]
    omega

theorem limitsLow {kind : Nat} : ∀ f ∈ codeFieldsOf kind, f.msb < 32 := by
  unfold codeFieldsOf
  split <;> decide

theorem fieldsDecide (kind : kindField.extract other = kindField.extract code)
    (flavor : flavorField.extract other = flavorField.extract code)
    (limits : ∀ f ∈ codeFieldsOf (kindField.extract code).toNat, f.extract other = f.extract code)
    (seen : ∀ f ∈ subcodeFieldsOf (kindField.extract code).toNat,
      f.extract another = f.extract subcode) :
    ofWords? other another = ofWords? code subcode := by
  unfold ofWords?
  rw [kind, flavor]
  split <;> next here => simp_all [codeFieldsOf, subcodeFieldsOf]

theorem decodedResource {decoder : Decoder} {code subcode : Int64} :
    decoder.decode? ⟨.resourceLimit, some code, some subcode⟩ =
      (ofWords? code.toUInt64 subcode.toUInt64).map .resourceLimit := rfl

theorem limitsExact (decoder : Decoder) :
    (∀ limits seen resource, Stands limits seen resource →
      ∀ limitOrder seenOrder : List (Field × UInt64),
        limitOrder.Perm limits → seenOrder.Perm seen → ∀ code subcode,
        let packed := codeLayout.editAll code (limitOrder.map fun write => .direct write.1 write.2)
        let observation :=
          subcodeLayout.editAll subcode (seenOrder.map fun write => .direct write.1 write.2)
        decoder.decode? ⟨.resourceLimit, some packed.toInt64, some observation.toInt64⟩ =
          some (.resourceLimit resource)) ∧
    (∀ first second, decoder.decode? ⟨.resourceLimit, first, second⟩ = none ↔
      first = none ∨ second = none ∨ ∃ code, first = some code ∧
        (kindField.extract code.toUInt64, flavorField.extract code.toUInt64) ∉ declared) ∧
    (∀ code subcode other another : Int64,
      kindField.extract other.toUInt64 = kindField.extract code.toUInt64 →
      flavorField.extract other.toUInt64 = flavorField.extract code.toUInt64 →
      (∀ f ∈ codeFieldsOf (kindField.extract code.toUInt64).toNat,
        f.extract other.toUInt64 = f.extract code.toUInt64) →
      (∀ f ∈ subcodeFieldsOf (kindField.extract code.toUInt64).toNat,
        f.extract another.toUInt64 = f.extract subcode.toUInt64) →
      decoder.decode? ⟨.resourceLimit, some other, some another⟩ =
        decoder.decode? ⟨.resourceLimit, some code, some subcode⟩) ∧
    (∀ code subcode other another : Int64,
      (∀ i < 64, i < 32 ∨ 57 < i → other.toBitVec.getLsbD i = code.toBitVec.getLsbD i) →
      (∀ f ∈ subcodeFieldsOf (kindField.extract code.toUInt64).toNat, ∀ i < 64,
        f.lsb ≤ i → i ≤ f.msb → another.toBitVec.getLsbD i = subcode.toBitVec.getLsbD i) →
      decoder.decode? ⟨.resourceLimit, some other, some another⟩ =
        decoder.decode? ⟨.resourceLimit, some code, some subcode⟩) := by
  refine ⟨?_, ?_, ?_, ?_⟩
  · intro limits seen resource stands limitOrder seenOrder limitsShuffled seenShuffled code subcode
      packed observation
    have filled : packed = Field.writeAll code limitOrder := Field.editAllDirect codeLayout
    have observed : observation = Field.writeAll subcode seenOrder :=
      Field.editAllDirect subcodeLayout
    rw [decodedResource, UInt64.toUInt64_toInt64, UInt64.toUInt64_toInt64, filled, observed,
      standsDecoded stands limitsShuffled seenShuffled]
    rfl
  · intro first second
    match first, second with
    | none, _ => simp [Decoder.decode?]
    | some code, none => simp [Decoder.decode?]
    | some code, some subcode => simp [decodedResource, undecoded]
  · intro code subcode other another kind flavor limits seen
    rw [decodedResource, decodedResource, fieldsDecide kind flavor limits seen]
  · intro code subcode other another outside observed
    have kept : ∀ f : Field, f.msb < 32 ∨ 57 < f.lsb →
        f.extract other.toUInt64 = f.extract code.toUInt64 := by
      intro f clear
      apply Field.readSame
      intro i small low high
      exact outside i small (by omega)
    rw [decodedResource, decodedResource,
      fieldsDecide (kept kindField (by decide)) (kept flavorField (by decide))
        (fun f member => kept f (.inl (limitsLow f member)))
        (fun f member => Field.readSame (observed f member))]

theorem brimmingProcessor :
    let limits := [(kindField, 1), (flavorField, 2), (cpuInterval, 0xffffffff), (cpuLimit, 0xff)]
    let limitOrder := [(cpuLimit, 0xff), (kindField, 1), (cpuInterval, 0xffffffff), (flavorField, 2)]
    let seen := [(cpuUtilization, 0x1ff)]
    let packed := codeLayout.editAll 0xffffffffffffffff
      (limitOrder.map fun write => .direct write.1 write.2)
    let observation := subcodeLayout.editAll 0xffffffffffffffff
      (seen.map fun write => .direct write.1 write.2)
    let resource : Resource := .cpu .monitorFatal 0x1ffffff 0x7f 0x7f
    Stands limits seen resource ∧ limitOrder.Perm limits ∧
      Decoder.host.decode? ⟨.resourceLimit, some packed.toInt64, some observation.toInt64⟩ =
        some (.resourceLimit resource) ∧
      Decoder.host.decode? ⟨.resourceLimit, some 0x28000000ffffffff, some (-1)⟩ =
        Decoder.host.decode? ⟨.resourceLimit, some 0x2bffffffffffffff, some 0x7f⟩ := by
  intro limits limitOrder seen packed observation resource
  have stands : Stands limits seen resource := @Stands.cpu .monitorFatal 0xffffffff 0xff 0x1ff
  have shuffled : limitOrder.Perm limits := by decide
  obtain ⟨decodes, _, byFields, byBits⟩ := limitsExact .host
  have same := byFields 0x2bffffffffffffff 0x7f 0x28000000ffffffff 0x7f (by decide) (by decide)
    (by decide) (by decide)
  have trimmed := byBits 0x28000000ffffffff 0x7f 0x28000000ffffffff (-1) (by decide) (by decide)
  exact ⟨stands, shuffled, decodes limits seen _ stands limitOrder seen shuffled (.refl _) _ _,
    trimmed.trans same⟩

end FaultWatch.Resource
