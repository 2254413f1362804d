import ClassRename.Mapping
import ClassRename.Proofs.RenameMap

/-! # The class renames of two token trees

Every class rename joins a legacy colour and a current colour of equal value under one prefix, and
every legacy colour that has a partner is renamed under every prefix. Classes may coincide, since
paths may repeat and a prefix may go on like a path, so later renames replace earlier ones; neither
statement depends on which of them stays.
-/

namespace ClassRename.Mapping

variable {legacy current : ColorToken} {prefixes : List String}

/-- A pair joins two colours whose values are equal in lower case. -/
theorem mem_colorPairs_iff {legacyPath currentPath : String} :
    (legacyPath, currentPath) ∈ colorPairs legacy current ↔
      ∃ legacyValue currentValue, (legacyPath, legacyValue) ∈ legacy.flatten ∧
        (currentPath, currentValue) ∈ current.flatten ∧
        Text.lowercase legacyValue = Text.lowercase currentValue := by
  simp only [colorPairs, List.mem_flatMap, List.mem_map, List.mem_filter, beq_iff_eq, Prod.mk.injEq]
  constructor
  · rintro ⟨⟨_, legacyValue⟩, isLegacy, _, ⟨⟨⟨_, currentValue⟩, isCurrent, rfl⟩, same⟩, rfl, rfl⟩
    exact ⟨legacyValue, currentValue, isLegacy, isCurrent, same.symm⟩
  · rintro ⟨legacyValue, currentValue, isLegacy, isCurrent, same⟩
    exact ⟨_, isLegacy, _, ⟨⟨_, isCurrent, rfl⟩, same.symm⟩, rfl, rfl⟩

/-- A class rename comes of a prefix and of two colours of equal value. -/
theorem mem_classPairs_iff {old new : String} :
    (old, new) ∈ classPairs prefixes (colorPairs legacy current) ↔
      ∃ before ∈ prefixes, ∃ legacyPath legacyValue currentPath currentValue,
        (legacyPath, legacyValue) ∈ legacy.flatten ∧
        (currentPath, currentValue) ∈ current.flatten ∧
        Text.lowercase legacyValue = Text.lowercase currentValue ∧
        old = before ++ "-" ++ legacyPath ∧ new = before ++ "-" ++ currentPath := by
  simp only [classPairs, List.mem_flatMap, List.mem_map, Prod.mk.injEq, className]
  constructor
  · rintro ⟨before, isPrefix, ⟨legacyPath, currentPath⟩, paired, rfl, rfl⟩
    obtain ⟨legacyValue, currentValue, isLegacy, isCurrent, same⟩ := mem_colorPairs_iff.1 paired
    exact ⟨before, isPrefix, legacyPath, legacyValue, currentPath, currentValue, isLegacy, isCurrent,
      same, rfl, rfl⟩
  · rintro ⟨before, isPrefix, legacyPath, legacyValue, currentPath, currentValue, isLegacy, isCurrent,
      same, rfl, rfl⟩
    have paired : (legacyPath, currentPath) ∈ colorPairs legacy current :=
      mem_colorPairs_iff.2 ⟨legacyValue, currentValue, isLegacy, isCurrent, same⟩
    exact ⟨before, isPrefix, _, paired, rfl, rfl⟩

/-- A class rename keeps the colour and the prefix, and exactly the classes of legacy colours that
have a partner are renamed. -/
theorem build_classes_sameColor (prefixes : List String) (legacy current : ColorToken) :
    (∀ old new, (old, new) ∈ (build prefixes legacy current).classes.toList →
      ∃ before ∈ prefixes, ∃ legacyPath legacyValue currentPath currentValue,
        (legacyPath, legacyValue) ∈ legacy.flatten ∧
        (currentPath, currentValue) ∈ current.flatten ∧
        Text.lowercase legacyValue = Text.lowercase currentValue ∧
        old = before ++ "-" ++ legacyPath ∧ new = before ++ "-" ++ currentPath) ∧
    ∀ key, key ∈ (build prefixes legacy current).classes.keys ↔
      ∃ before ∈ prefixes, ∃ legacyPath legacyValue, (legacyPath, legacyValue) ∈ legacy.flatten ∧
        (∃ currentPath currentValue, (currentPath, currentValue) ∈ current.flatten ∧
          Text.lowercase legacyValue = Text.lowercase currentValue) ∧
        key = before ++ "-" ++ legacyPath := by
  constructor
  · intro old new member
    exact mem_classPairs_iff.1 (RenameMap.mem_of_mem_toList_ofList member)
  · intro key
    have keys : key ∈ (build prefixes legacy current).classes.keys ↔
        ∃ new, (key, new) ∈ classPairs prefixes (colorPairs legacy current) := by
      rw [build, RenameMap.mem_keys_ofList_iff]
      simp
    rw [keys]
    constructor
    · rintro ⟨new, member⟩
      obtain ⟨before, isPrefix, legacyPath, legacyValue, currentPath, currentValue, isLegacy,
        isCurrent, same, rfl, -⟩ := mem_classPairs_iff.1 member
      exact ⟨before, isPrefix, legacyPath, legacyValue, isLegacy,
        ⟨currentPath, currentValue, isCurrent, same⟩, rfl⟩
    · rintro ⟨before, isPrefix, legacyPath, legacyValue, isLegacy,
        ⟨currentPath, currentValue, isCurrent, same⟩, rfl⟩
      exact ⟨_, mem_classPairs_iff.2 ⟨before, isPrefix, legacyPath, legacyValue, currentPath,
        currentValue, isLegacy, isCurrent, same, rfl, rfl⟩⟩

end ClassRename.Mapping
