import PacketLink.Host.Event

/-!
# The life of a socket in a record of calls

* `Standing`: how far a socket has come: not made yet, open with or without a ring, or closed. A
  call out of turn is a misuse, and `Arrow` lists the turns.
* `standing es s`: how far `s` has come with the calls `es`.
* `tally_through`: a number read off the standing that goes up along the arrows for certain events
  counts these events.
* `Settled`: calls after which nothing is left open or mapped, and nothing was given back twice.
  They are settled if every socket is over (`settled_of_isOver`).
-/

namespace PacketLink.Host

/-! ## Events of a socket -/

/-- The socket that an event makes or names. -/
def Event.socket? : Event → Option SocketId
  | .socket _ (.ok s) => some s
  | .socket _ (.error _) => none
  | .map owner _ _ | .unmap owner _ _ => owner
  | .nonblock s _ | .bind s _ _ | .setOption s _ _ _ | .statistics s _ | .close s _
  | .sendTo s _ _ _ | .flush s _ | .transmit s _ _ | .receive s _ _ | .hardwareAddress s _ _ =>
    some s
  | .interfaceIndex _ _ => none

/-- Whether an event makes a socket. -/
def Event.makes (s : SocketId) : Event → Bool
  | .socket _ (.ok s') => s' = s
  | _ => false

/-- Whether an event closes a socket, whatever comes of it. -/
def Event.closes (s : SocketId) : Event → Bool
  | .close s' _ => s' = s
  | _ => false

/-- Whether an event maps a ring of this length. -/
def Event.maps (owner : Option SocketId) (length : Nat) : Event → Bool
  | .map owner' length' (.ok ()) => owner' = owner && length' = length
  | _ => false

/-- Whether an event unmaps a ring of this length, whatever comes of it. -/
def Event.unmaps (owner : Option SocketId) (length : Nat) : Event → Bool
  | .unmap owner' length' _ => owner' = owner && length' = length
  | _ => false

/-- Whether an event is about a mapping that belongs to no socket. -/
def Event.isAnonymous : Event → Bool
  | .map none _ _ | .unmap none _ _ => true
  | _ => false

/-- Whether an event leaves a socket that is open as it is. -/
def Event.isUse : Event → Bool
  | .socket _ _ | .map _ _ (.ok ()) | .unmap _ _ _ | .close _ _ => false
  | _ => true

/-! ## Standings -/

/-- How far a socket has come. -/
inductive Standing where
  | absent
  /-- It is open and never had a ring. -/
  | bare
  /-- It is open, with a ring of this length mapped. -/
  | ringed (length : Nat)
  /-- It is open, and its ring is unmapped again. -/
  | stripped (length : Nat)
  /-- It is closed; this was the length of its ring, if it had one. -/
  | closed (ring : Option Nat)
  /-- There was a call out of turn. -/
  | misused
deriving DecidableEq, Repr

namespace Standing

/-- Whether the socket is open. -/
def isOpen : Standing → Bool
  | .bare | .ringed _ | .stripped _ => true
  | .absent | .closed _ | .misused => false

/-- Whether the socket is in nobody's care: it was never made, or it is closed. -/
def isOver : Standing → Bool
  | .absent | .closed _ => true
  | .bare | .ringed _ | .stripped _ | .misused => false

/-- How far a socket has come after an event that concerns it. -/
def next (x : Standing) : Event → Standing
  | .socket _ _ => if x = .absent then .bare else .misused
  | .map _ length (.ok ()) => if x = .bare then .ringed length else .misused
  | .unmap _ length _ => if x = .ringed length then .stripped length else .misused
  | .close _ _ =>
    match x with
    | .bare => .closed none
    | .stripped length => .closed (some length)
    | _ => .misused
  | _ => if x.isOpen then x else .misused

/-- How far a socket has come after an event. A mapping that belongs to no socket would be in
nobody's care, so it counts as a misuse of every socket. -/
def after (s : SocketId) (x : Standing) (e : Event) : Standing :=
  if e.isAnonymous then .misused
  else if e.socket? = some s then x.next e
  else x

/-- How far a socket has come after some events, in order. -/
def through (s : SocketId) (x : Standing) (es : List Event) : Standing := es.foldl (after s) x

/-- Whether the socket was made. -/
def made : Standing → Nat
  | .absent => 0
  | _ => 1

/-- Whether the socket was closed. -/
def shut : Standing → Nat
  | .closed _ => 1
  | _ => 0

/-- Whether a ring of this length was mapped. -/
def mapped (length : Nat) : Standing → Nat
  | .ringed n | .stripped n | .closed (some n) => if n = length then 1 else 0
  | _ => 0

/-- Whether a ring of this length was unmapped. -/
def unmapped (length : Nat) : Standing → Nat
  | .stripped n | .closed (some n) => if n = length then 1 else 0
  | _ => 0

variable {s : SocketId} {x : Standing} {e : Event} {es : List Event}

theorem next_misused (e : Event) : misused.next e = .misused := by
  cases e with
  | map owner length outcome => rcases outcome with _ | ⟨⟩ <;> rfl
  | _ => rfl

theorem after_misused (s : SocketId) (e : Event) : misused.after s e = .misused := by
  simp only [after, next_misused, ite_self]

/-- A misuse cannot be made good. -/
theorem through_misused (s : SocketId) (es : List Event) : misused.through s es = .misused := by
  induction es with
  | nil => rfl
  | cons e es ih => rw [through, List.foldl_cons, after_misused]; exact ih

theorem through_append (s : SocketId) (x : Standing) (es es' : List Event) :
    x.through s (es ++ es') = (x.through s es).through s es' := List.foldl_append

theorem through_cons (s : SocketId) (x : Standing) (e : Event) (es : List Event) :
    x.through s (e :: es) = (x.after s e).through s es := rfl

theorem after_ne_misused (h : (x.after s e).through s es ≠ .misused) : x.after s e ≠ .misused := by
  intro hx
  rw [hx, through_misused] at h
  exact h rfl

/-! ### Arrows -/

/-- The arrows along which a socket goes on. -/
inductive Arrow (s : SocketId) : Standing → Event → Standing → Prop where
  | other {x : Standing} {e : Event} (hs : e.socket? ≠ some s) (hn : e.isAnonymous = false) :
    Arrow s x e x
  | used {x : Standing} {e : Event} (hs : e.socket? = some s) (hu : e.isUse = true)
    (ho : x.isOpen = true) : Arrow s x e x
  | made (family : SocketFamily) : Arrow s .absent (.socket family (.ok s)) .bare
  | mapped (length : Nat) : Arrow s .bare (.map (some s) length (.ok ())) (.ringed length)
  | unmapped (length : Nat) (outcome : Outcome Unit) :
    Arrow s (.ringed length) (.unmap (some s) length outcome) (.stripped length)
  | closed (outcome : Outcome Unit) : Arrow s .bare (.close s outcome) (.closed none)
  | closedStripped (length : Nat) (outcome : Outcome Unit) :
    Arrow s (.stripped length) (.close s outcome) (.closed (some length))

theorem next_of_isUse (hu : e.isUse = true) (x : Standing) :
    x.next e = if x.isOpen then x else .misused := by
  cases e with
  | socket | unmap | close => cases hu
  | map owner length outcome =>
    rcases outcome with _ | ⟨⟩
    · rfl
    · cases hu
  | _ => rfl

theorem arrow_next (hs : e.socket? = some s) (h : x.next e ≠ .misused) :
    Arrow s x e (x.next e) := by
  by_cases hu : e.isUse = true
  · rw [next_of_isUse hu] at h ⊢
    by_cases ho : x.isOpen = true
    · rw [if_pos ho]
      exact .used hs hu ho
    · rw [if_neg ho] at h
      exact absurd rfl h
  · cases e with
    | socket family outcome =>
      cases outcome with
      | error => cases hs
      | ok =>
        cases hs
        cases x with
        | absent => exact .made family
        | _ => exact absurd rfl h
    | map owner length outcome =>
      rcases outcome with _ | ⟨⟩
      · exact absurd rfl hu
      · obtain rfl : owner = some s := hs
        cases x with
        | bare => exact .mapped length
        | _ => exact absurd rfl h
    | unmap owner length outcome =>
      obtain rfl : owner = some s := hs
      by_cases hx : x = .ringed length
      · subst hx
        rw [show (ringed length).next (.unmap (some s) length outcome) = .stripped length from
          if_pos rfl]
        exact .unmapped length outcome
      · exact absurd (if_neg hx) h
    | close s' outcome =>
      cases hs
      cases x with
      | bare => exact .closed outcome
      | stripped length => exact .closedStripped length outcome
      | _ => exact absurd rfl h
    | _ => exact absurd rfl hu

/-- Whatever is no misuse goes along an arrow. -/
theorem arrow (h : x.after s e ≠ .misused) : Arrow s x e (x.after s e) := by
  unfold after at h ⊢
  cases hn : e.isAnonymous with
  | true =>
    rw [hn] at h
    exact absurd rfl h
  | false =>
    rw [hn] at h
    simp only [Bool.false_eq_true, if_false] at h ⊢
    by_cases hs : e.socket? = some s
    · rw [if_pos hs] at h ⊢
      exact arrow_next hs h
    · rw [if_neg hs]
      exact .other hs hn

/-! ### Tallies -/

theorem socket?_of_makes (h : e.makes s = true) : e.socket? = some s ∧ e.isUse = false := by
  cases e with
  | socket family outcome =>
    cases outcome with
    | error => cases h
    | ok s' => exact ⟨congrArg some (of_decide_eq_true h), rfl⟩
  | _ => cases h

theorem socket?_of_closes (h : e.closes s = true) : e.socket? = some s ∧ e.isUse = false := by
  cases e with
  | close s' outcome => exact ⟨congrArg some (of_decide_eq_true h), rfl⟩
  | _ => cases h

theorem socket?_of_maps {length : Nat} (h : e.maps (some s) length = true) :
    e.socket? = some s ∧ e.isUse = false := by
  cases e with
  | map owner length' outcome =>
    rcases outcome with _ | ⟨⟩
    · cases h
    · simp only [Event.maps, Bool.and_eq_true, decide_eq_true_eq] at h
      exact ⟨h.1, rfl⟩
  | _ => cases h

theorem socket?_of_unmaps {length : Nat} (h : e.unmaps (some s) length = true) :
    e.socket? = some s ∧ e.isUse = false := by
  cases e with
  | unmap owner length' outcome =>
    simp only [Event.unmaps, Bool.and_eq_true, decide_eq_true_eq] at h
    exact ⟨h.1, rfl⟩
  | _ => cases h

/-- A tally that counts certain events along the arrows for them counts them. -/
theorem tally_after {tally : Standing → Nat} {p : Event → Bool}
    (hp : ∀ e, p e = true → e.socket? = some s ∧ e.isUse = false)
    (turn : ∀ x e y, Arrow s x e y → e.socket? = some s → e.isUse = false →
      tally y = tally x + (p e).toNat)
    (h : x.after s e ≠ .misused) : tally (x.after s e) = tally x + (p e).toNat := by
  have ha := arrow h
  generalize x.after s e = y at ha
  by_cases hq : e.socket? = some s ∧ e.isUse = false
  · exact turn x e y ha hq.1 hq.2
  · have hnone : p e = false := Bool.eq_false_iff.mpr fun hpe => hq (hp e hpe)
    rw [hnone]
    cases ha with
    | other | used => rfl
    | _ => exact absurd ⟨rfl, rfl⟩ hq

/-- Such a tally tells how many of these events there were. -/
theorem tally_through {tally : Standing → Nat} {p : Event → Bool}
    (hp : ∀ e, p e = true → e.socket? = some s ∧ e.isUse = false)
    (turn : ∀ x e y, Arrow s x e y → e.socket? = some s → e.isUse = false →
      tally y = tally x + (p e).toNat)
    (h : x.through s es ≠ .misused) : tally (x.through s es) = tally x + es.countP p := by
  induction es generalizing x with
  | nil => rfl
  | cons e es ih =>
    rw [through_cons] at h ⊢
    rw [ih h, tally_after hp turn (after_ne_misused h), List.countP_cons]
    cases p e with
    | true => simp only [Bool.toNat_true, if_true]; omega
    | false => simp

theorem made_through (h : x.through s es ≠ .misused) :
    (x.through s es).made = x.made + es.countP (Event.makes s) := by
  refine tally_through (fun e => socket?_of_makes) (fun x e y ha hs hu => ?_) h
  cases ha with
  | other hs' => exact absurd hs hs'
  | used _ hu' => rw [hu] at hu'; cases hu'
  | made => simp [made, Event.makes]
  | _ => rfl

theorem shut_through (h : x.through s es ≠ .misused) :
    (x.through s es).shut = x.shut + es.countP (Event.closes s) := by
  refine tally_through (fun e => socket?_of_closes) (fun x e y ha hs hu => ?_) h
  cases ha with
  | other hs' => exact absurd hs hs'
  | used _ hu' => rw [hu] at hu'; cases hu'
  | closed | closedStripped => simp [shut, Event.closes]
  | _ => rfl

theorem mapped_through (h : x.through s es ≠ .misused) (length : Nat) :
    (x.through s es).mapped length = x.mapped length + es.countP (Event.maps (some s) length) := by
  refine tally_through (fun e => socket?_of_maps) (fun x e y ha hs hu => ?_) h
  cases ha with
  | other hs' => exact absurd hs hs'
  | used _ hu' => rw [hu] at hu'; cases hu'
  | mapped n => by_cases hn : n = length <;> simp [mapped, Event.maps, hn]
  | _ => rfl

theorem unmapped_through (h : x.through s es ≠ .misused) (length : Nat) :
    (x.through s es).unmapped length =
      x.unmapped length + es.countP (Event.unmaps (some s) length) := by
  refine tally_through (fun e => socket?_of_unmaps) (fun x e y ha hs hu => ?_) h
  cases ha with
  | other hs' => exact absurd hs hs'
  | used _ hu' => rw [hu] at hu'; cases hu'
  | unmapped n => by_cases hn : n = length <;> simp [unmapped, Event.unmaps, hn]
  | _ => rfl

/-- Nothing names a socket that is closed. -/
theorem closed_silent {ring : Option Nat} (h : (closed ring).through s es ≠ .misused) :
    ∀ e ∈ es, e.socket? ≠ some s := by
  induction es with
  | nil => nofun
  | cons e es ih =>
    rw [through_cons] at h
    have ha := arrow (after_ne_misused h)
    generalize (closed ring).after s e = y at ha h
    cases ha with
    | other hs => exact fun e' he' => (List.mem_cons.mp he').elim (fun hx => hx ▸ hs) (ih h e')
    | used _ _ ho => cases ho

end Standing

/-! ## Calls that leave nothing behind -/

/-- How far a socket has come with these calls. -/
def standing (es : List Event) (s : SocketId) : Standing := Standing.through s .absent es

/-- Nothing is left open or mapped, and nothing was given back twice. -/
structure Settled (es : List Event) : Prop where
  made_once : ∀ s, es.countP (Event.makes s) ≤ 1
  closed_once : ∀ s family, .socket family (.ok s) ∈ es → es.countP (Event.closes s) = 1
  /-- Whatever names a socket comes after the call that made it. -/
  named_after : ∀ before e after s, es = before ++ e :: after → e.socket? = some s →
    e.makes s = true ∨ before.countP (Event.makes s) = 1
  /-- Nothing names a socket after it is closed. -/
  silent : ∀ before after s outcome, es = before ++ .close s outcome :: after →
    ∀ e ∈ after, e.socket? ≠ some s
  owned : ∀ e ∈ es, e.isAnonymous = false
  /-- After a ring is mapped, it is unmapped once. -/
  unmapped_once : ∀ before after owner length, es = before ++ .map owner length (.ok ()) :: after →
    after.countP (Event.unmaps owner length) = 1
  /-- Before a ring is unmapped, it was mapped, and not unmapped since. -/
  mapped_before : ∀ before after owner length outcome,
    es = before ++ .unmap owner length outcome :: after →
      before.countP (Event.maps owner length) = before.countP (Event.unmaps owner length) + 1
  /-- Before a socket is closed, all its rings were unmapped. -/
  unmapped_first : ∀ before after s outcome, es = before ++ .close s outcome :: after →
    ∀ length, before.countP (Event.maps (some s) length) =
      before.countP (Event.unmaps (some s) length)

namespace Standing

variable {s : SocketId} {x : Standing} {e : Event} {es before after : List Event}

theorem ne_misused (h : x.isOver = true) : x ≠ .misused := by
  rintro rfl
  cases h

theorem made_le_one (x : Standing) : x.made ≤ 1 := by
  cases x with
  | absent => exact Nat.zero_le 1
  | _ => exact Nat.le_refl 1

theorem made_of_isOpen (h : x.isOpen = true) : x.made = 1 := by
  cases x with
  | absent | closed | misused => cases h
  | _ => rfl

theorem shut_of_isOver (h : x.isOver = true) : x.shut = x.made := by
  cases x with
  | absent | closed => rfl
  | _ => cases h

/-- A socket that is over has no ring left. -/
theorem unmapped_of_isOver (h : x.isOver = true) (length : Nat) :
    x.unmapped length = x.mapped length := by
  cases x with
  | absent => rfl
  | closed ring => cases ring <;> rfl
  | _ => cases h

theorem unmapped_le_one (x : Standing) (length : Nat) : x.unmapped length ≤ 1 := by
  have hone (n : Nat) : (if n = length then 1 else 0) ≤ 1 := by
    split <;> decide
  match x with
  | .stripped n | .closed (some n) => exact hone n
  | .closed none | .absent | .bare | .ringed _ | .misused => exact Nat.zero_le 1

/-- A socket that is open without a ring has had no ring or has it unmapped. -/
theorem unmapped_of_closes {outcome : Outcome Unit} {y : Standing}
    (ha : Arrow s x (.close s outcome) y) (length : Nat) : x.mapped length = x.unmapped length := by
  cases ha with
  | other hs => exact absurd rfl hs
  | used _ hu => cases hu
  | closed | closedStripped => rfl

/-- Where something names a socket, it was made or is being made. -/
theorem made_of_arrow {y : Standing} (ha : Arrow s x e y) (hs : e.socket? = some s) :
    e.makes s = true ∨ x.made = 1 := by
  cases ha with
  | other hs' => exact absurd hs hs'
  | made => exact .inl (decide_eq_true rfl)
  | used _ _ ho => exact .inr (made_of_isOpen ho)
  | _ => exact .inr rfl

theorem owned_of_arrow {y : Standing} (ha : Arrow s x e y) : e.isAnonymous = false := by
  cases ha with
  | other _ hn => exact hn
  | used hs hu =>
    cases e with
    | map owner =>
      cases hs
      rfl
    | unmap => cases hu
    | _ => rfl
  | _ => rfl

end Standing

open Standing

variable {s : SocketId} {es : List Event}

theorem made_standing (h : standing es s ≠ .misused) :
    (standing es s).made = es.countP (Event.makes s) :=
  (made_through h).trans (Nat.zero_add _)

theorem shut_standing (h : standing es s ≠ .misused) :
    (standing es s).shut = es.countP (Event.closes s) :=
  (shut_through h).trans (Nat.zero_add _)

theorem mapped_standing (h : standing es s ≠ .misused) (length : Nat) :
    (standing es s).mapped length = es.countP (Event.maps (some s) length) :=
  (mapped_through h length).trans (Nat.zero_add _)

theorem unmapped_standing (h : standing es s ≠ .misused) (length : Nat) :
    (standing es s).unmapped length = es.countP (Event.unmaps (some s) length) :=
  (unmapped_through h length).trans (Nat.zero_add _)

/-- An event in the middle of calls after which a socket is over goes along an arrow. -/
theorem isOver_split {before after : List Event} {e : Event}
    (h : (standing (before ++ e :: after) s).isOver = true) :
    ∃ x y, standing before s = x ∧ x ≠ .misused ∧ Arrow s x e y ∧
      (y.through s after).isOver = true := by
  rw [standing, through_append, through_cons] at h
  have hne := after_ne_misused (ne_misused h)
  refine ⟨_, _, rfl, fun hx => hne ?_, arrow hne, h⟩
  rw [show Standing.through s .absent before = .misused from hx, after_misused]

theorem owned_of_isOver (h : ∀ s, (standing es s).isOver = true) :
    ∀ e ∈ es, e.isAnonymous = false := by
  intro e he
  obtain ⟨before, after, rfl⟩ := List.append_of_mem he
  obtain ⟨x, y, -, -, ha, -⟩ := isOver_split (h ⟨0⟩)
  exact owned_of_arrow ha

theorem closed_once_of_isOver (h : (standing es s).isOver = true) {family : SocketFamily}
    (he : .socket family (.ok s) ∈ es) : es.countP (Event.closes s) = 1 := by
  have hpos : 0 < es.countP (Event.makes s) :=
    List.countP_pos_iff.mpr ⟨_, he, decide_eq_true rfl⟩
  have hle := made_le_one (standing es s)
  rw [← made_standing (ne_misused h)] at hpos
  rw [← shut_standing (ne_misused h), shut_of_isOver h]
  omega

theorem unmapped_once_of_isOver {before after : List Event} {length : Nat}
    (h : (standing (before ++ .map (some s) length (.ok ()) :: after) s).isOver = true) :
    after.countP (Event.unmaps (some s) length) = 1 := by
  obtain ⟨x, y, -, -, ha, hover⟩ := isOver_split h
  cases ha with
  | other hs => exact absurd rfl hs
  | used _ hu => cases hu
  | mapped =>
    have hm := mapped_through (ne_misused hover) length
    have hu := unmapped_through (ne_misused hover) length
    have hle := unmapped_le_one ((ringed length).through s after) length
    have hone : (ringed length).mapped length = 1 := if_pos rfl
    have hzero : (ringed length).unmapped length = 0 := rfl
    rw [← unmapped_of_isOver hover] at hm
    omega

/-- If every socket is over, nothing is left behind. -/
theorem settled_of_isOver (h : ∀ s, (standing es s).isOver = true) : Settled es where
  made_once s := by
    rw [← made_standing (ne_misused (h s))]
    exact made_le_one _
  closed_once s family he := closed_once_of_isOver (h s) he
  named_after before e after s hes hn := by
    subst hes
    obtain ⟨x, y, rfl, hne, ha, -⟩ := isOver_split (h s)
    rw [← made_standing hne]
    exact made_of_arrow ha hn
  silent before after s outcome hes := by
    subst hes
    obtain ⟨x, y, -, -, ha, hover⟩ := isOver_split (h s)
    cases ha with
    | other hs => exact absurd rfl hs
    | used _ hu => cases hu
    | closed | closedStripped => exact closed_silent (ne_misused hover)
  owned := owned_of_isOver h
  unmapped_once before after owner length hes := by
    subst hes
    cases owner with
    | none => cases owned_of_isOver h (.map none length (.ok ())) (by simp)
    | some s => exact unmapped_once_of_isOver (h s)
  mapped_before before after owner length outcome hes := by
    subst hes
    cases owner with
    | none => cases owned_of_isOver h (.unmap none length outcome) (by simp)
    | some s =>
      obtain ⟨x, y, hx, hne, ha, -⟩ := isOver_split (h s)
      rw [← hx] at hne
      rw [← mapped_standing hne, ← unmapped_standing hne, hx]
      cases ha with
      | other hs => exact absurd rfl hs
      | used _ hu => cases hu
      | unmapped => simp only [mapped, unmapped, if_true]
  unmapped_first before after s outcome hes length := by
    subst hes
    obtain ⟨x, y, rfl, hne, ha, -⟩ := isOver_split (h s)
    rw [← mapped_standing hne, ← unmapped_standing hne]
    exact unmapped_of_closes ha length

end PacketLink.Host
