import PacketLink.Host.Calls
import PacketLink.Proofs.Computation

/-!
# Calls that only succeed or fail

* `ending c n`: how the `n`-th of the next calls of a sort ends, if it only succeeds or fails.
  `plainCall_run` is what such a call does.
* `Makes h made h'`: the calls in `made`, and no others, lead from `h` to `h'`. A call ends as it
  would have without the calls of other sorts before it (`Makes.call`).
-/

namespace PacketLink.Host

/-- How the `n`-th of the next calls of a sort ends, if it only succeeds or fails. -/
def ending (h : Host) (c : Call) (n : Nat) : Outcome Unit :=
  if 0 < h.script.failure c (h.countOf c + n) then
    .error ⟨(h.script.failure c (h.countOf c + n)).toNat⟩
  else .ok ()

theorem Call.all_place (c : Call) : Call.all[c.place]? = some c := by cases c <;> rfl

theorem Call.place_inj {c d : Call} (h : c.place = d.place) : c = d := by
  have hc := c.all_place
  rw [h, d.all_place] at hc
  exact (Option.some.inj hc).symm

theorem Call.place_lt (c : Call) : c.place < Call.all.length :=
  (List.getElem?_eq_some_iff.mp c.all_place).1

/-- A call counts once, and for its own sort only. -/
theorem countOf_enter (c d : Call) (h : Host) :
    ((enter c).run h).2.countOf d = h.countOf d + if c = d then 1 else 0 := by
  show (h.counted c).getD d.place 0 = _
  have hd := d.place_lt
  have hplace : c.place = d.place ↔ c = d := ⟨Call.place_inj, congrArg _⟩
  simp only [counted, Array.getD_eq_getD_getElem?, Array.getElem?_modify, Array.getElem?_map,
    Array.getElem?_range, hd, if_true, Option.map_some, hplace, countOf]
  split <;> rfl

/-- These calls with their events, and no others, lead from one host to another. -/
structure Makes (h : Host) (made : List (Call × Event)) (h' : Host) : Prop where
  script : h'.script = h.script
  count : ∀ c, h'.countOf c = h.countOf c + made.countP (·.1 = c)
  trace : h'.trace = (made.map Prod.snd).reverse ++ h.trace

variable {h k : Host} {made : List (Call × Event)}

theorem Makes.refl (h : Host) : Makes h [] h := ⟨rfl, fun _ => rfl, rfl⟩

theorem plainCall_run (c : Call) (event : Outcome Unit → Event) (h : Host) :
    (plainCall c event).run h = (h.ending c 0,
      { ((enter c).run h).2 with trace := event (h.ending c 0) :: h.trace }) := by
  simp only [plainCall, attempt, run_bind]
  by_cases hcode : 0 < h.script.failure c (h.countOf c)
  · have hending : h.ending c 0 = .error ⟨(h.script.failure c (h.countOf c)).toNat⟩ := if_pos hcode
    rw [if_pos (show 0 < ((enter c).run h).1 from hcode), hending]
    rfl
  · have hending : h.ending c 0 = .ok () := if_neg hcode
    rw [if_neg (show ¬ 0 < ((enter c).run h).1 from hcode), hending]
    rfl

/-- The next call ends as its own sort has it, whatever other calls were made before. -/
theorem Makes.call (hm : Makes h made k) (c : Call) (event : Outcome Unit → Event) :
    ((plainCall c event).run k).1 = h.ending c (made.countP (·.1 = c)) ∧
      Makes h (made ++ [(c, event (h.ending c (made.countP (·.1 = c))))])
        ((plainCall c event).run k).2 := by
  have hending : k.ending c 0 = h.ending c (made.countP (·.1 = c)) := by
    simp only [Host.ending, hm.script, hm.count, Nat.add_zero]
  rw [plainCall_run, hending]
  refine ⟨rfl, hm.script, fun d => ?_, ?_⟩
  · show ((enter c).run k).2.countOf d = _
    rw [countOf_enter, List.countP_append, ← Nat.add_assoc, ← hm.count d]
    simp [List.countP_singleton]
  · simp [hm.trace]

end PacketLink.Host
