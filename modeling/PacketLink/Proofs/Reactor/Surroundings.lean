import PacketLink.Proofs.Computation
import PacketLink.Reactor.Basic

/-!
# What the event loop may rely on

An event of a descriptor tells that it has become ready. There is one whenever a descriptor is ready
at the time of its registration and whenever something arrives later, and only collecting takes it
away.

* `View`: what can be known of the descriptors: whether they are ready, their events, the datagrams
  that arrived and those that wait.
* `View.Quiet`: nothing happens at a descriptor but arrivals. This is what its watcher may rely on
  while others have their turns.
* `View.FoundEmpty`: the descriptor was found empty, and only arrivals have happened since.
* `Laws`: surroundings in which events are not lost and workers are idle only after they found their
  descriptor empty.

A view may count nothing: if it takes all numbers for zero and nobody for a reader, the laws are
about readiness and events only.
-/

namespace PacketLink.Reactor

/-- What can be known of the descriptors in the surroundings of the loop. -/
structure View (σ β : Type) where
  /-- The descriptor is ready. -/
  level : σ → Nat → Readiness → Prop
  /-- An event of the descriptor waits to be collected. -/
  pending : σ → Nat → Readiness → Prop
  /-- The number of datagrams that have arrived at the descriptor. -/
  arrived : σ → Nat → Nat
  /-- The number of datagrams that wait at the descriptor. -/
  waiting : σ → Nat → Nat
  /-- How often a worker answered that it had handled the descriptor. -/
  handled : σ → Nat → Nat
  /-- The worker works on this descriptor and on no other. -/
  serves : β → Nat → Readiness → Prop
  /-- Whoever works on the descriptor reads one datagram whenever it answers that it has handled
  one, and none otherwise. -/
  isReader : Nat → Prop

/-- How many datagrams a reader has read with this answer. -/
def readBy : Except LinkError Dispatch → Nat
  | .ok .handled => 1
  | _ => 0

/-- The sum of a number over some descriptors. -/
def sumOver (f : Nat → Nat) (ds : List Nat) : Nat := ds.foldr (f · + ·) 0

theorem sumOver_cons (f : Nat → Nat) (d : Nat) (ds : List Nat) :
    sumOver f (d :: ds) = f d + sumOver f ds := rfl

theorem sumOver_congr {f g : Nat → Nat} {ds : List Nat} (h : ∀ d ∈ ds, f d = g d) :
    sumOver f ds = sumOver g ds := by
  induction ds with
  | nil => rfl
  | cons d ds ih =>
    rw [sumOver_cons, sumOver_cons, h d (List.mem_cons_self ..),
      ih fun d' hd' => h d' (List.mem_cons_of_mem d hd')]

namespace View

variable {σ β α γ : Type} (v : View σ β) (d : Nat) (r : Readiness)

/-- Datagrams may have arrived at a descriptor, and none was read. -/
structure Unread (s s' : σ) : Prop where
  waiting : v.arrived s' d + v.waiting s d = v.arrived s d + v.waiting s' d
  handled : v.handled s' d = v.handled s d

/-- Nothing has happened at a descriptor but arrivals: its event is still there, and if it has
become ready it has one. -/
structure Quiet (s s' : σ) : Prop where
  unread : v.Unread d s s'
  pending : v.pending s d r → v.pending s' d r
  level : v.level s' d r → v.level s d r ∨ v.pending s' d r

/-- Whatever the state, `act` does nothing at a descriptor but let datagrams arrive. -/
def Quietly (act : StateM σ α) : Prop := ∀ s, v.Quiet d r s (act.run s).2

/-- How often workers answered that they had handled one of some descriptors. -/
def total (ds : List Nat) (s : σ) : Nat := sumOver (v.handled s) ds

/-- The descriptor was found empty, and nothing has happened at it since but arrivals. -/
def FoundEmpty (s : σ) : Prop := ∃ s₁, ¬ v.level s₁ d r ∧ v.Quiet d r s₁ s

variable {v d r} {s s' s'' : σ}

theorem Unread.refl (s : σ) : v.Unread d s s := ⟨rfl, rfl⟩

theorem Unread.trans (h : v.Unread d s s') (h' : v.Unread d s' s'') : v.Unread d s s'' := by
  obtain ⟨hw, hh⟩ := h
  obtain ⟨hw', hh'⟩ := h'
  exact ⟨by omega, hh'.trans hh⟩

theorem Quiet.refl (s : σ) : v.Quiet d r s s := ⟨.refl s, id, .inl⟩

theorem Quiet.trans (h : v.Quiet d r s s') (h' : v.Quiet d r s' s'') : v.Quiet d r s s'' := by
  refine ⟨h.unread.trans h'.unread, fun hp => h'.pending (h.pending hp), fun hl => ?_⟩
  rcases h'.level hl with hl' | hp
  · exact (h.level hl').imp_right h'.pending
  · exact .inr hp

theorem Quietly.pure (a : α) : v.Quietly d r (pure a : StateM σ α) := fun s => .refl s

theorem Quietly.bind {act : StateM σ α} {next : α → StateM σ γ} (ha : v.Quietly d r act)
    (hn : ∀ a, v.Quietly d r (next a)) : v.Quietly d r (act >>= next) := by
  intro s
  exact (ha s).trans (hn _ _)

theorem FoundEmpty.quiet (h : v.FoundEmpty d r s) (hq : v.Quiet d r s s') :
    v.FoundEmpty d r s' := by
  obtain ⟨s₁, he, hq₁⟩ := h
  exact ⟨s₁, he, hq₁.trans hq⟩

theorem total_congr {ds : List Nat} (h : ∀ d ∈ ds, v.handled s' d = v.handled s d) :
    v.total ds s' = v.total ds s :=
  sumOver_congr h

/-- Whoever reads nothing anywhere keeps the total. -/
theorem keeps_total {act : StateM σ α} (h : ∀ d s, v.Unread d s (act.run s).2) (ds : List Nat) :
    Keeps (v.total ds) act :=
  fun s => total_congr fun d _ => (h d s).handled

theorem Quietly.keeps_total {act : StateM σ α} (h : ∀ d r, v.Quietly d r act) (ds : List Nat) :
    Keeps (v.total ds) act :=
  View.keeps_total (fun d s => (h d .readable s).unread) ds

/-- What was handled at one descriptor counts once in the total. -/
theorem total_add {ds : List Nat} (hn : ds.Nodup) (hd : d ∈ ds) {k : Nat}
    (h : v.handled s' d = v.handled s d + k)
    (hother : ∀ d', d' ≠ d → v.handled s' d' = v.handled s d') :
    v.total ds s' = v.total ds s + k := by
  induction ds with
  | nil => cases hd
  | cons x ds ih =>
    rw [List.nodup_cons] at hn
    have hcons (t : σ) : v.total (x :: ds) t = v.handled t x + v.total ds t := sumOver_cons ..
    rw [hcons, hcons]
    by_cases hx : x = d
    · subst hx
      rw [total_congr fun d' hd' => hother d' fun he => hn.1 (he ▸ hd'), h]
      omega
    · rw [hother x hx, ih hn.2 ((List.mem_cons.mp hd).resolve_left (Ne.symm hx))]
      omega

/-- A descriptor that was found empty and is ready again has an event. -/
theorem FoundEmpty.pending (h : v.FoundEmpty d r s) (hl : v.level s d r) : v.pending s d r := by
  obtain ⟨s₁, he, hq⟩ := h
  exact (hq.level hl).resolve_left he

end View

/-- All of some descriptors have readers only. -/
def View.AllRead {σ β : Type} (v : View σ β) (ds : List Nat) : Prop := ∀ d ∈ ds, v.isReader d

/-- Surroundings in which no event is lost. -/
structure Laws {σ β : Type} (p : Platform σ β) (v : View σ β) : Prop where
  probe_quiet : ∀ d r d' r', v.Quietly d' r' (p.probe d r)
  report_quiet : ∀ e d r, v.Quietly d r (p.report e)
  interruption_quiet : ∀ d r, v.Quietly d r p.interruption
  sleep_quiet : ∀ resume d r, v.Quietly d r (p.sleep resume)
  /-- Collecting the event of one descriptor leaves the others alone. -/
  collect_quiet : ∀ d r d' r', d' ≠ d → v.Quietly d' r' (p.collect d r)
  collect_unread : ∀ d r s, v.Unread d s ((p.collect d r).run s).2
  /-- No event is found only if there is none or the descriptor is not ready. -/
  collect_none : ∀ d r s s', (p.collect d r).run s = (.ok false, s') →
    ∃ s₁, v.Quiet d r s s₁ ∧ ¬ (v.level s₁ d r ∧ v.pending s₁ d r) ∧
      (v.level s' d r → v.level s₁ d r ∨ v.pending s' d r)
  /-- Whoever fails to collect an event has not taken it. -/
  collect_failed : ∀ d r s e s', (p.collect d r).run s = (.error e, s') → v.Quiet d r s s'
  /-- A probe that finds nothing to do has found the descriptor empty. -/
  probe_empty : ∀ d r s s', (p.probe d r).run s = (.ok false, s') → v.FoundEmpty d r s'
  /-- A worker leaves the descriptors of others alone. -/
  onReady_quiet : ∀ b d r d' r', v.serves b d r → d' ≠ d → v.Quietly d' r' (p.onReady b)
  onReady_serves : ∀ b d r s, v.serves b d r → v.serves ((p.onReady b).run s).1.2 d r
  /-- A worker is idle only after it found its descriptor empty. -/
  onReady_idle : ∀ b d r s b' s', v.serves b d r →
    (p.onReady b).run s = ((.ok .idle, b'), s') → v.FoundEmpty d r s'
  /-- The same holds of one that is to be idle after it failed for one frame. -/
  afterError_idle : ∀ b d r s e b' s', v.serves b d r →
    (p.onReady b).run s = ((.error e, b'), s') → e.isResource = false →
      p.afterError b' = .idle → v.FoundEmpty d r s'
  onReady_reader : ∀ b d r s answer b' s', v.serves b d r →
    (p.onReady b).run s = ((answer, b'), s') → v.isReader d →
      v.arrived s' d + v.waiting s d = v.arrived s d + v.waiting s' d + readBy answer ∧
      v.handled s' d = v.handled s d + readBy answer
  /-- The descriptor of a reader is ready if datagrams wait. -/
  level_of_waiting : ∀ b d r s, v.serves b d r → v.isReader d → 0 < v.waiting s d →
    v.level s d r

end PacketLink.Reactor
