/-!
# Numbers around a ring

Frames are numbered from the first on, and the frame with number `n` has the slot `n % c` in a ring
of `c` slots. Within one lap, a window of at most `c` numbers, no two frames share a slot
(`eq_of_mod_eq`), and every slot belongs to one of them (`exists_mod_eq`). Over several laps they
share a slot if whole laps lie between them (`mod_eq_mod_iff`).
-/

namespace PacketLink.Ring

variable {a c i x y : Nat}

/-- Two numbers share a slot exactly if whole laps lie between them. -/
theorem mod_eq_mod_iff (h : x ≤ y) : x % c = y % c ↔ c ∣ y - x := by
  constructor
  · intro he
    exact Nat.dvd_of_mod_eq_zero (Nat.sub_mod_eq_zero_of_mod_eq he.symm)
  · rintro ⟨k, hk⟩
    rw [show y = x + c * k by omega, Nat.add_mul_mod_self_left]

/-- Within one lap the slot tells the number. -/
theorem eq_of_mod_eq (hx : a ≤ x ∧ x < a + c) (hy : a ≤ y ∧ y < a + c) (h : x % c = y % c) :
    x = y := by
  rcases Nat.le_total x y with hle | hle
  · have := Nat.eq_zero_of_dvd_of_lt ((mod_eq_mod_iff hle).mp h) (by omega)
    omega
  · have := Nat.eq_zero_of_dvd_of_lt ((mod_eq_mod_iff hle).mp h.symm) (by omega)
    omega

theorem mod_ne_mod (hx : a ≤ x ∧ x < a + c) (hy : a ≤ y ∧ y < a + c) (h : x ≠ y) :
    x % c ≠ y % c := fun he => h (eq_of_mod_eq hx hy he)

/-- The lap may just as well end at a number. -/
theorem mod_ne_mod_of_le (hx : x < a ∧ a ≤ x + c) (hy : y < a ∧ a ≤ y + c) (h : x ≠ y) :
    x % c ≠ y % c := mod_ne_mod (a := a - c) (by omega) (by omega) h

/-- Within one lap every slot has a number. -/
theorem exists_mod_eq (a : Nat) (hi : i < c) : ∃ x, a ≤ x ∧ x < a + c ∧ x % c = i := by
  have hm := Nat.mod_lt a (by omega : 0 < c)
  have hd := Nat.div_add_mod a c
  -- The slot lies ahead in the present round, or else in the next one.
  rcases Nat.lt_or_ge i (a % c) with hlt | hge
  · refine ⟨c * (a / c) + c + i, by omega, by omega, ?_⟩
    rw [Nat.add_assoc, Nat.mul_add_mod, Nat.add_mod_left, Nat.mod_eq_of_lt hi]
  · refine ⟨c * (a / c) + i, by omega, by omega, ?_⟩
    rw [Nat.mul_add_mod, Nat.mod_eq_of_lt hi]

theorem mod_add_one_mod (x c : Nat) : (x % c + 1) % c = (x + 1) % c := Nat.mod_add_mod x c 1

end PacketLink.Ring
