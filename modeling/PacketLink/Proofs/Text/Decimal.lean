/-!
# Numbers in decimal

* `toString_append_inj`: a number can be read off a text that opens with its decimal digits, as
  long as no further digit follows them.
-/

namespace PacketLink.Text

/-- A text that does not open with a digit. -/
def NoDigitAhead (s : List Char) : Prop := ∀ c ∈ s.head?, c.isDigit = false

@[simp] theorem noDigitAhead_nil : NoDigitAhead [] := by simp [NoDigitAhead]

@[simp] theorem noDigitAhead_cons {c : Char} {s : List Char} :
    NoDigitAhead (c :: s) ↔ c.isDigit = false := by simp [NoDigitAhead]

theorem isDigit_of_mem_toString {n : Nat} {c : Char} (h : c ∈ (toString n).toList) :
    c.isDigit = true := by
  have hc : c ∈ Nat.toDigits 10 n := by simpa [Nat.repr] using h
  exact Nat.isDigit_of_mem_toDigits (by decide) (by decide) hc

/-- The digits end where the first other character stands. -/
theorem takeWhile_toString_append (n : Nat) {s : List Char} (hs : NoDigitAhead s) :
    ((toString n).toList ++ s).takeWhile Char.isDigit = (toString n).toList := by
  rw [List.takeWhile_append_of_pos fun c hc => isDigit_of_mem_toString hc]
  cases s with
  | nil => simp
  | cons c s => simp [noDigitAhead_cons.mp hs]

theorem toString_toList_inj {m n : Nat} (h : (toString m).toList = (toString n).toList) :
    m = n := by
  have hdigits : Nat.toDigits 10 m = Nat.toDigits 10 n := by simpa [Nat.repr] using h
  calc
    m = Nat.ofDigitChars 10 (Nat.toDigits 10 m) 0 := Nat.ofDigitChars_ten_toDigits.symm
    _ = Nat.ofDigitChars 10 (Nat.toDigits 10 n) 0 := by rw [hdigits]
    _ = n := Nat.ofDigitChars_ten_toDigits

/-- Two texts that open with numbers are equal only if the numbers and the rests are. -/
theorem toString_append_inj {m n : Nat} {s t : List Char} (hs : NoDigitAhead s)
    (ht : NoDigitAhead t) (h : (toString m).toList ++ s = (toString n).toList ++ t) :
    m = n ∧ s = t := by
  have hdigits := congrArg (List.takeWhile Char.isDigit) h
  rw [takeWhile_toString_append m hs, takeWhile_toString_append n ht] at hdigits
  obtain rfl : m = n := toString_toList_inj hdigits
  exact ⟨rfl, List.append_cancel_left h⟩

end PacketLink.Text
