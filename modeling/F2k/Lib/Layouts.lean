import F2k.Lib.Memory

namespace F2k.Lib

/-! Fixed layouts: numbers of known widths one behind another, and records of one length. -/

/-- Every field is its width in bytes and its number, which is written with the high byte first. -/
def packedBytes (fields : List (Nat × Nat)) : Bytes :=
  fields.flatMap fun field => toBe field.1 field.2

def packedLength (fields : List (Nat × Nat)) : Nat :=
  (fields.map Prod.fst).sum

theorem packedBytes_append (fields more : List (Nat × Nat)) :
    packedBytes (fields ++ more) = packedBytes fields ++ packedBytes more :=
  List.flatMap_append

theorem length_packedBytes (fields : List (Nat × Nat)) :
    (packedBytes fields).length = packedLength fields := by
  rw [packedBytes, List.length_flatMap, packedLength]
  simp only [length_toBe]

namespace Mem

/-- A field is found behind the widths of the ones before it. -/
theorem slice_packed {memory : Mem} {fields : List (Nat × Nat)}
    (starts : memory.StartsWith (packedBytes fields)) {index width number : Nat}
    (found : fields[index]? = some (width, number)) :
    (memory.shift ((fields.map Prod.fst).take index).sum).slice width = toBe width number := by
  obtain ⟨inside, here⟩ := List.getElem?_eq_some_iff.mp found
  have split : fields = fields.take index ++ (width, number) :: fields.drop (index + 1) := by
    rw [← here, ← List.drop_eq_getElem_cons inside, List.take_append_drop]
  rw [split, packedBytes_append, Mem.startsWith_append, length_packedBytes, packedLength,
    List.map_take] at starts
  have own : packedBytes ((width, number) :: fields.drop (index + 1)) =
      toBe width number ++ packedBytes (fields.drop (index + 1)) := rfl
  rw [own, Mem.startsWith_append] at starts
  have read := starts.2.1
  rwa [Mem.StartsWith, length_toBe] at read

/-- Records of one length are found at the multiples of it. -/
theorem startsWith_record {Record : Type} {bytes : Record → Bytes} {length : Nat}
    (same : ∀ record, (bytes record).length = length) {memory : Mem} {records : List Record}
    (starts : memory.StartsWith (records.flatMap bytes)) {index : Nat} {record : Record}
    (found : records[index]? = some record) :
    (memory.shift (length * index)).StartsWith (bytes record) := by
  induction records generalizing memory index with
  | nil => cases found
  | cons first rest ih =>
      rw [List.flatMap_cons, Mem.startsWith_append, same] at starts
      cases index with
      | zero =>
          cases found
          rw [Nat.mul_zero, Mem.shift_zero]
          exact starts.1
      | succ index =>
          have later := ih starts.2 found
          rwa [Mem.shift_shift, Nat.add_comm, ← Nat.mul_succ] at later

end Mem

end F2k.Lib
