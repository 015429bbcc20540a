import OtcDesk.Proofs.Json.Body

namespace OtcDesk.Json

/-- More opening brackets than there are levels left are too deep. -/
theorem readValue_brackets (levels : Nat) : ∀ (fuel count : Nat) (rest : List Char),
    levels < count → 2 * levels < fuel →
      readValue fuel levels (List.replicate count '[' ++ rest) = .error .tooDeep := by
  induction levels with
  | zero =>
      intro fuel count rest many enough
      obtain ⟨fuel, rfl⟩ := Nat.exists_eq_succ_of_ne_zero (Nat.ne_of_gt (Nat.zero_lt_of_lt enough))
      obtain ⟨count, rfl⟩ := Nat.exists_eq_succ_of_ne_zero (Nat.ne_of_gt many)
      rfl
  | succ levels ih =>
      intro fuel count rest many enough
      obtain ⟨fuel, rfl⟩ : ∃ less, fuel = less + 2 := ⟨fuel - 2, by omega⟩
      obtain ⟨count, rfl⟩ : ∃ fewer, count = fewer + 2 := ⟨count - 2, by omega⟩
      have inner := ih fuel (count + 1) rest (by omega) (by omega)
      rw [List.replicate_succ, List.cons_append] at inner ⊢
      rw [List.replicate_succ, List.cons_append, readValue, enter,
        skipGap_solid _ (by decide : isGap '[' = false)]
      split
      · rename_i closed
        cases (List.cons.inj closed).1
      · rw [readItems, inner]
        rfl

/-- A text that begins with too many brackets is too deep, whatever follows them. -/
theorem readList_brackets {count : Nat} (many : nestingLimit < count) (rest : List Char) :
    readList (List.replicate count '[' ++ rest) = .error .tooDeep := by
  have started : skipGap (List.replicate count '[' ++ rest) = List.replicate count '[' ++ rest := by
    obtain ⟨fewer, rfl⟩ := Nat.exists_eq_succ_of_ne_zero (Nat.ne_of_gt (Nat.zero_lt_of_lt many))
    exact skipGap_solid _ (by decide)
  rw [readList, started, readValue_brackets nestingLimit _ count rest many]
  · rfl
  · rw [List.length_append, List.length_replicate]
    omega

theorem read_brackets {count : Nat} (many : nestingLimit < count) (rest : List Char) :
    read (String.ofList (List.replicate count '[' ++ rest)) = .error .tooDeep := by
  rw [read, String.toList_ofList]
  exact readList_brackets many rest

theorem unitChar_toNat (c : Char) : unitChar c.toNat = c := by
  have whole : ¬ (isHighSurrogate c.toNat || isLowSurrogate c.toNat) = true :=
    Bool.eq_false_iff.mp (not_isHalf_toNat c)
  rw [unitChar, if_neg whole, Char.ofNat_toNat]

/-- So is a body in which such a text is written. -/
theorem readBody_brackets {count : Nat} (many : nestingLimit < count) (rest : List Char) :
    readBody (Encoding.utf8.encode ((List.replicate count '[' ++ rest).map Char.toNat)) =
      .error .tooDeep := by
  have spelled : ((List.replicate count '[' ++ rest).map Char.toNat).map unitChar =
      List.replicate count '[' ++ rest := by
    rw [List.map_map]
    exact List.map_id'' unitChar_toNat _
  have writes : Encoding.utf8.Writes ((List.replicate count '[' ++ rest).map Char.toNat) := by
    refine ⟨?_, fun _ _ => nofun⟩
    intro point member
    obtain ⟨c, -, rfl⟩ := List.mem_map.mp member
    have range := Utf8.char_range c
    omega
  obtain ⟨fewer, rfl⟩ : ∃ fewer, count = fewer + 2 :=
    ⟨count - 2, by unfold nestingLimit at many; omega⟩
  have ascii : IsAscii '['.toNat := ⟨by decide, by decide⟩
  have found := bodyPoints?_encode writes spelled ascii ascii
  rw [readBody, bodyText?, found, Option.map_some, spelled]
  exact readList_brackets many rest

end OtcDesk.Json
