import PetlibroRelay.Camera.CheckedPackets

namespace PetlibroRelay
namespace Camera

open Foundations

/-!
# Units behind start codes

A unit of the byte stream is a start code of three bytes with a byte behind it.  The scan
looks for start codes of three and of four bytes while five bytes are left, so a unit in the
last four bytes is found only behind another zero, as a start code of four bytes.
-/

/-- A start code with a byte behind it. -/
structure UnitAt (data : Packet) (position : Nat) (header : UInt8) : Prop where
  first : data[position]? = some 0
  second : data[position + 1]? = some 0
  third : data[position + 2]? = some 1
  header : data[position + 3]? = some header

/-- A header is of the wanted type, if there is one. -/
def isWanted (wantedType : Option UInt8) (header : UInt8) : Bool :=
  wantedType.all (fun wanted => decide (header &&& 0x1F = wanted))

/-- The scan stops at the index with this byte as header. -/
def FoundAt (data : Packet) (index : Nat) (header : UInt8) : Prop :=
  index + 4 < data.length ∧ (UnitAt data index header ∨
    (data[index]? = some 0 ∧ UnitAt data (index + 1) header))

theorem unitAt_cons {first : UInt8} {data : Packet} {position : Nat} {header : UInt8} :
    UnitAt (first :: data) (position + 1) header ↔ UnitAt data position header :=
  ⟨fun ⟨one, two, three, four⟩ => ⟨one, two, three, four⟩,
    fun ⟨one, two, three, four⟩ => ⟨one, two, three, four⟩⟩

theorem foundAt_cons {first : UInt8} {data : Packet} {index : Nat} {header : UInt8} :
    FoundAt (first :: data) (index + 1) header ↔ FoundAt data index header := by
  rw [FoundAt, FoundAt, unitAt_cons, unitAt_cons, List.getElem?_cons_succ, List.length_cons]
  exact and_congr_left' (by omega)

theorem unitAt_iff {data : Packet} {position : Nat} {header : UInt8} :
    UnitAt data position header ↔ data[position]? = some 0 ∧ data[position + 1]? = some 0 ∧
      data[position + 2]? = some 1 ∧ data[position + 3]? = some header :=
  ⟨fun ⟨first, second, third, last⟩ => ⟨first, second, third, last⟩,
    fun ⟨first, second, third, last⟩ => ⟨first, second, third, last⟩⟩

/-- What is found in the first bytes. -/
theorem foundAt_zero {first second third fourth fifth : UInt8} {rest : Packet} {header : UInt8} :
    FoundAt (first :: second :: third :: fourth :: fifth :: rest) 0 header ↔
      (startCodeLength first second third fourth = 3 ∧ header = fourth) ∨
        (startCodeLength first second third fourth = 4 ∧ header = fifth) := by
  rw [FoundAt, unitAt_iff, unitAt_iff, startCodeLength, eq_comm (b := fourth), eq_comm (b := fifth)]
  simp only [Nat.zero_add, List.length_cons, List.getElem?_cons_zero, List.getElem?_cons_succ,
    Option.some.injEq]
  have inside : 4 < rest.length + 1 + 1 + 1 + 1 + 1 := by omega
  by_cases three : first = 0 ∧ second = 0 ∧ third = 1
  · obtain ⟨rfl, rfl, rfl⟩ := three
    simp [inside]
  · by_cases four : first = 0 ∧ second = 0 ∧ third = 0 ∧ fourth = 1
    · obtain ⟨rfl, rfl, rfl, rfl⟩ := four
      simp [inside]
    · rw [if_neg three, if_neg four]
      refine iff_of_false ?_ (by omega)
      rintro ⟨-, ⟨one, two, last, -⟩ | ⟨one, two, next, last, -⟩⟩
      · exact three ⟨one, two, last⟩
      · exact four ⟨one, two, next, last⟩

/-- The scan finds what stops it at some index. -/
theorem findH264NAL_iff (wantedType : Option UInt8) (data : Packet) :
    findH264NAL wantedType data = true ↔ exists index header, FoundAt data index header ∧
      isWanted wantedType header = true := by
  induction data using findH264NAL.induct with
  | case1 first second third fourth fifth rest inductionHypothesis =>
      rw [findH264NAL, Bool.or_eq_true, inductionHypothesis]
      constructor
      · rintro (here | ⟨index, header, found, wanted⟩)
        · rcases startCodeLength_cases first second third fourth with three | four | none
          · rw [three] at here
            exact ⟨0, fourth, foundAt_zero.mpr (Or.inl ⟨three, rfl⟩), here⟩
          · rw [four] at here
            exact ⟨0, fifth, foundAt_zero.mpr (Or.inr ⟨four, rfl⟩), here⟩
          · rw [none] at here
            cases here
        · exact ⟨index + 1, header, foundAt_cons.mpr found, wanted⟩
      · rintro ⟨index, header, found, wanted⟩
        cases index with
        | zero =>
            refine Or.inl ?_
            rcases foundAt_zero.mp found with ⟨three, rfl⟩ | ⟨four, rfl⟩
            · rw [three]
              exact wanted
            · rw [four]
              exact wanted
        | succ index => exact Or.inr ⟨index, header, foundAt_cons.mp found, wanted⟩
  | case2 data short =>
      rw [findH264NAL.eq_2 _ _ short]
      refine iff_of_false Bool.false_ne_true ?_
      rintro ⟨index, header, ⟨inside, -⟩, -⟩
      obtain ⟨first, second, third, fourth, fifth, rest, split⟩ :=
        @exists_drop_eq_cons data 0 (by omega)
      exact short first second third fourth fifth rest split

/-! ## Which units are found -/

/-- A unit has a byte behind it or a zero before it. -/
def IsScanned (data : Packet) (position : Nat) : Prop :=
  position + 4 < data.length ∨ exists before, position = before + 1 ∧ data[before]? = some 0

theorem UnitAt.inside {data : Packet} {position : Nat} {header : UInt8}
    (unit : UnitAt data position header) : position + 3 < data.length :=
  (List.getElem?_eq_some_iff.mp unit.header).1

/-- The scan finds the units that have a byte behind them or a zero before them. -/
theorem findH264NAL_iff_scanned (wantedType : Option UInt8) (data : Packet) :
    findH264NAL wantedType data = true ↔ exists position header, UnitAt data position header ∧
      isWanted wantedType header = true ∧
        IsScanned data position := by
  rw [findH264NAL_iff]
  constructor
  · rintro ⟨index, header, ⟨inside, three | ⟨zero, four⟩⟩, wanted⟩
    · exact ⟨index, header, three, wanted, Or.inl inside⟩
    · exact ⟨index + 1, header, four, wanted, Or.inr ⟨index, rfl, zero⟩⟩
  · rintro ⟨position, header, unit, wanted, behind | ⟨before, rfl, zero⟩⟩
    · exact ⟨position, header, ⟨behind, Or.inl unit⟩, wanted⟩
    · have inside := unit.inside
      exact ⟨before, header, ⟨by omega, Or.inr ⟨zero, unit⟩⟩, wanted⟩

/-- The data ends in a start code of three bytes and a header that is accepted, there is no
zero before it, and no unit before it has a header that is accepted. -/
def LostAtEnd (data : Packet) (accepts : UInt8 -> Bool) : Prop :=
  exists before header, data = before ++ [0, 0, 1, header] ∧ before.getLast? ≠ some 0 ∧
    accepts header = true ∧ forall position other, UnitAt data position other ->
      position + 4 < data.length -> accepts other = false

theorem unitAt_end (before : Packet) (header : UInt8) :
    UnitAt (before ++ [0, 0, 1, header]) before.length header := by
  refine unitAt_iff.mpr ⟨?_, ?_, ?_, ?_⟩
  · rw [List.getElem?_append_right (Nat.le_refl _), Nat.sub_self]
    rfl
  · rw [List.getElem?_append_right (Nat.le_add_right _ _), Nat.add_sub_cancel_left]
    rfl
  · rw [List.getElem?_append_right (Nat.le_add_right _ _), Nat.add_sub_cancel_left]
    rfl
  · rw [List.getElem?_append_right (Nat.le_add_right _ _), Nat.add_sub_cancel_left]
    rfl

/-- A unit at the end is the last four bytes. -/
theorem UnitAt.eq_append {data : Packet} {position : Nat} {header : UInt8}
    (unit : UnitAt data position header) (last : position + 4 = data.length) :
    data = data.take position ++ [0, 0, 1, header] := by
  refine (List.take_append_drop position data).symm.trans (congrArg (data.take position ++ ·) ?_)
  refine List.ext_getElem? ?_
  intro index
  rw [List.getElem?_drop]
  match index with
  | 0 => exact unit.first
  | 1 => exact unit.second
  | 2 => exact unit.third
  | 3 => exact unit.header
  | further + 4 =>
      rw [List.getElem?_eq_none (by omega)]
      rfl

/-- The scan is exact for the headers it accepts, unless the only unit of them is lost at the
end. -/
theorem findH264NAL_exact_iff (wantedType : Option UInt8) (data : Packet) :
    (findH264NAL wantedType data = true ↔ exists position header, UnitAt data position header ∧
      isWanted wantedType header = true) ↔
      ¬ LostAtEnd data (isWanted wantedType) := by
  rw [findH264NAL_iff_scanned]
  constructor
  · rintro complete ⟨before, header, rfl, bare, accepted, alone⟩
    obtain ⟨position, other, unit, wanted, scanned⟩ :=
      complete.mpr ⟨before.length, header, unitAt_end before header, accepted⟩
    have last : ¬ position + 4 < (before ++ [0, 0, 1, header]).length := by
      intro behind
      have refused := alone position other unit behind
      rw [wanted] at refused
      cases refused
    rcases scanned with behind | ⟨previous, rfl, zero⟩
    · exact last behind
    · have inside := unit.inside
      rw [List.length_append] at last inside
      simp only [List.length_cons, List.length_nil] at last inside
      have place : previous = before.length - 1 := by omega
      rw [List.getElem?_append_left (by omega), place, ← List.getLast?_eq_getElem?] at zero
      exact bare zero
  · intro kept
    constructor
    · rintro ⟨position, header, unit, wanted, -⟩
      exact ⟨position, header, unit, wanted⟩
    · rintro ⟨position, header, unit, wanted⟩
      by_contra missed
      have unscanned : forall {position header}, UnitAt data position header ->
          isWanted wantedType header = true ->
            ¬ IsScanned data position :=
        fun unit wanted scanned => missed ⟨_, _, unit, wanted, scanned⟩
      have inside := unit.inside
      have last : position + 4 = data.length := by
        have none := not_or.mp (unscanned unit wanted)
        omega
      refine kept ⟨data.take position, header, unit.eq_append last, ?_, wanted, ?_⟩
      · intro zero
        rw [List.getLast?_eq_getElem?, List.length_take, Nat.min_eq_left (by omega)] at zero
        have before := (List.getElem?_eq_some_iff.mp zero).1
        rw [List.length_take] at before
        rw [List.getElem?_take_of_lt (by omega)] at zero
        exact unscanned unit wanted (Or.inr ⟨position - 1, by omega, zero⟩)
      · intro other header unit behind
        rw [← Bool.not_eq_true]
        exact fun wanted => unscanned unit wanted (Or.inl behind)

theorem containsH264NAL_of_unitAt {data : Packet} {position : Nat} {header : UInt8}
    (unit : UnitAt data position header) (kept : ¬ LostAtEnd data (isWanted none)) :
    containsH264NAL data = true :=
  ((findH264NAL_exact_iff none data).mpr kept).mpr ⟨position, header, unit, rfl⟩

theorem containsH264NAL_eq_false {data : Packet}
    (nowhere : forall position header, ¬ UnitAt data position header) :
    containsH264NAL data = false := by
  have kept : ¬ LostAtEnd data (isWanted none) := by
    rintro ⟨before, header, rfl, -⟩
    exact nowhere _ _ (unitAt_end before header)
  rw [← Bool.not_eq_true]
  intro found
  obtain ⟨position, header, unit, -⟩ := ((findH264NAL_exact_iff none data).mpr kept).mp found
  exact nowhere position header unit

/-- Both searches are exact and read nothing out of range, unless the only unit, or the only
one of a refresh picture, is lost at the end. -/
theorem nal_detection_iff (data : Packet) :
    ((containsH264NAL data = true ↔ exists position header, UnitAt data position header) ∧
      (containsH264IDR data = true ↔ exists position header, UnitAt data position header ∧
        header &&& 0x1F = 5) ∧
      findH264NALChecked data none 0 = some (containsH264NAL data) ∧
      findH264NALChecked data (some 5) 0 = some (containsH264IDR data)) ↔
      ¬ (LostAtEnd data (isWanted none) ∨ LostAtEnd data (isWanted (some 5))) := by
  have any := findH264NAL_exact_iff none data
  have refresh := findH264NAL_exact_iff (some 5) data
  simp only [isWanted, Option.all_none, and_true] at any
  simp only [isWanted, Option.all_some, decide_eq_true_eq] at refresh
  rw [not_or, containsH264NAL, containsH264IDR, findH264NALChecked_eq, findH264NALChecked_eq,
    List.drop_zero]
  constructor
  · rintro ⟨anyFound, refreshFound, -⟩
    exact ⟨any.mp anyFound, refresh.mp refreshFound⟩
  · rintro ⟨anyKept, refreshKept⟩
    exact ⟨any.mpr anyKept, refresh.mpr refreshKept, rfl, rfl⟩

/-- A frame that is one unit of a refresh picture with nothing but its header. -/
theorem bare_unit_not_detected :
    ¬ ((containsH264NAL [0, 0, 1, 0x65] = true ↔ exists position header,
        UnitAt [0, 0, 1, 0x65] position header) ∧
      (containsH264IDR [0, 0, 1, 0x65] = true ↔ exists position header,
        UnitAt [0, 0, 1, 0x65] position header ∧ header &&& 0x1F = 5)) := by
  rintro ⟨any, -⟩
  have missed : containsH264NAL [0, 0, 1, 0x65] = false := by
    decide
  rw [any.mpr ⟨0, 0x65, unitAt_end [] 0x65⟩] at missed
  cases missed

end Camera
end PetlibroRelay
