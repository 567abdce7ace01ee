/-!
# Computations with a state

* `run_bind` and its companions: what a computation does, one step after the other.
* `Keeps part act`: whatever the state, `act` leaves a part of it as it was.
* `Stays P act`: a state of which `P` holds is followed by one of which it holds.
* `Gives P act`: whatever the state, `P` holds of what `act` gives.
* `ComesTo act s post`: computations with a bound come to one result if the bound is high enough.
-/

namespace PacketLink

variable {σ α β γ : Type}

/-! The proofs stand in brackets so that `simp` rewrites with them and does not leave it to the
kernel to evaluate a computation again. -/

theorem run_bind (act : StateM σ α) (next : α → StateM σ β) (s : σ) :
    (act >>= next).run s = (next (act.run s).1).run (act.run s).2 := (rfl)

theorem run_get (s : σ) : (get : StateM σ σ).run s = (s, s) := (rfl)

theorem run_pure (a : α) (s : σ) : (pure a : StateM σ α).run s = (a, s) := (rfl)

theorem run_modify (f : σ → σ) (s : σ) : (modify f : StateM σ Unit).run s = ((), f s) := (rfl)

/-- Whatever the state, `act` leaves what `part` tells about it as it was. -/
def Keeps (part : σ → γ) (act : StateM σ α) : Prop := ∀ s, part (act.run s).2 = part s

theorem Keeps.pure {part : σ → γ} (a : α) : Keeps part (pure a : StateM σ α) := fun _ => rfl

theorem Keeps.get {part : σ → γ} : Keeps part (get : StateM σ σ) := fun _ => rfl

theorem Keeps.bind {part : σ → γ} {act : StateM σ α} {next : α → StateM σ β}
    (ha : Keeps part act) (hn : ∀ a, Keeps part (next a)) : Keeps part (act >>= next) := by
  intro s
  exact (hn _ _).trans (ha s)

theorem Keeps.modify {part : σ → γ} {f : σ → σ} (hf : ∀ s, part (f s) = part s) :
    Keeps part (modify f : StateM σ Unit) := fun s => hf s

/-- A state of which `P` holds is followed by one of which it holds. -/
def Stays (P : σ → Prop) (act : StateM σ α) : Prop := ∀ s, P s → P (act.run s).2

theorem Stays.pure {P : σ → Prop} (a : α) : Stays P (pure a : StateM σ α) := fun _ hp => hp

theorem Stays.get {P : σ → Prop} : Stays P (get : StateM σ σ) := fun _ hp => hp

theorem Stays.bind {P : σ → Prop} {act : StateM σ α} {next : α → StateM σ β} (ha : Stays P act)
    (hn : ∀ a, Stays P (next a)) : Stays P (act >>= next) := fun s hp => hn _ _ (ha s hp)

/-- Whatever the state, `P` holds of what `act` gives. -/
def Gives (P : α → Prop) (act : StateM σ α) : Prop := ∀ s, P (act.run s).1

theorem Gives.pure {P : α → Prop} {a : α} (ha : P a) : Gives P (pure a : StateM σ α) := fun _ => ha

theorem Gives.bind {P : α → Prop} {Q : β → Prop} {act : StateM σ α} {next : α → StateM σ β}
    (ha : Gives P act) (hn : ∀ a, P a → Gives Q (next a)) : Gives Q (act >>= next) :=
  fun s => hn _ (ha s) _

theorem Gives.then {Q : β → Prop} {act : StateM σ α} {next : α → StateM σ β}
    (hn : ∀ a, Gives Q (next a)) : Gives Q (act >>= next) := fun _ => hn _ _

/-- With a bound that is high enough, all of these computations come to one result, of which `post`
holds. -/
def ComesTo (act : Nat → StateM σ α) (s : σ) (post : α → σ → Prop) : Prop :=
  ∃ bound a s', post a s' ∧ ∀ n, bound ≤ n → (act n).run s = (a, s')

namespace ComesTo

variable {act : Nat → StateM σ α} {s : σ} {post : α → σ → Prop}

/-- A computation that does not look at the bound. -/
theorem of_run {act : StateM σ α} (hp : post (act.run s).1 (act.run s).2) :
    ComesTo (fun _ => act) s post := ⟨0, _, _, hp, fun _ _ => rfl⟩

theorem bind {next : Nat → α → StateM σ β} {post' : β → σ → Prop} (ha : ComesTo act s post)
    (hn : ∀ a s', post a s' → ComesTo (fun n => next n a) s' post') :
    ComesTo (fun n => act n >>= next n) s post' := by
  obtain ⟨bound, a, s', hp, hrun⟩ := ha
  obtain ⟨bound', b, s'', hp', hrun'⟩ := hn a s' hp
  refine ⟨max bound bound', b, s'', hp', fun n hle => ?_⟩
  rw [run_bind, hrun n (by omega)]
  exact hrun' n (by omega)

end ComesTo

end PacketLink
