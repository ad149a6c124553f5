import MetricsAgent.Cycle.Roster

/-!
# What the channels hold of a name

An operation on the roster is described by what each channel holds of each name afterwards (`at?`). The
invariant is that a roster holds exactly the known names, each on the one channel to which it is routed
(`Routed`). Moving the metrics to other routes establishes it whatever the channels held before, although
a name that was moved is met again on a later channel.
-/

namespace MetricsAgent.Roster

variable {ε : Type}

/-- What a channel holds of a name. -/
def at? (r : Roster ε) (name : String) (c : Channel) : Option ε := (r.on c).get? name

/-! ## Putting and erasing -/

theorem on_setOn (r : Roster ε) (c k : Channel) (m : NameMap ε) :
    (r.setOn c m).on k = if k = c then m else r.on k := by
  cases c <;> cases k <;> rfl

@[simp] theorem at?_eraseOn (r : Roster ε) (name n : String) (c k : Channel) :
    (r.eraseOn name c).at? n k = if n = name ∧ k = c then none else r.at? n k := by
  simp only [at?, eraseOn, on_setOn]
  by_cases hk : k = c
  · subst hk; simp
  · simp [hk]

@[simp] theorem at?_insertOn (r : Roster ε) (name n : String) (e : ε) (c k : Channel) :
    (r.insertOn name e c).at? n k = if n = name ∧ k = c then some e else r.at? n k := by
  simp only [at?, insertOn, on_setOn]
  by_cases hk : k = c
  · subst hk; simp
  · simp [hk]

@[simp] theorem at?_retire (r : Roster ε) (e : ε) (withheld : Bool) :
    (r.retire e withheld).at? = r.at? := rfl

@[simp] theorem at?_clearRetired (r : Roster ε) : r.clearRetired.at? = r.at? := rfl

@[simp] theorem at?_empty (name : String) (c : Channel) : (empty : Roster ε).at? name c = none := by
  cases c <;> rfl

/-- A metric that is placed stands on its channel alone. -/
theorem at?_place (r : Roster ε) (name n : String) (e : ε) (c k : Channel) :
    (r.place name e c).at? n k =
      if n = name then (if k = c then some e else none) else r.at? n k := by
  by_cases hn : n = name
  · subst hn
    cases c <;> cases k <;> simp [place, Channel.all]
  · cases c <;> simp [place, Channel.all, hn]

/-- What is left of a name when its metric, if the source has one, was moved to the target. -/
def moved (held : Channel → Option ε) (source target k : Channel) : Option ε :=
  if k = target then (held source).or (held k) else if k = source then none else held k

theorem moved_moved (held : Channel → Option ε) (source target : Channel) :
    moved (moved held source target) source target = moved held source target := by
  funext k
  by_cases hs : source = target
  · subst hs; by_cases hk : k = source <;> simp [moved, hk]
  · by_cases hk : k = target
    · simp [moved, hs, hk]
    · by_cases hks : k = source <;> simp [moved, hs, hk, hks]

theorem moved_of_none {held : Channel → Option ε} {source : Channel} (h : held source = none)
    (target : Channel) : moved held source target = held := by
  funext k
  by_cases hk : k = source
  · subst hk; by_cases ht : k = target <;> simp [moved, h, ht]
  · by_cases ht : k = target <;> simp [moved, h, hk, ht]

theorem moved_self (held : Channel → Option ε) (c : Channel) : moved held c c = held := by
  funext k
  by_cases hk : k = c <;> simp [moved, hk]

theorem at?_move (r : Roster ε) (name n : String) (source target : Channel) :
    (r.move name source target).at? n = if n = name then moved (r.at? n) source target else r.at? n := by
  unfold move
  cases h : (r.on source).get? name with
  | none =>
      have hn : r.at? name source = none := h
      show r.at? n = _
      split
      · rename_i heq; rw [heq, moved_of_none hn]
      · rfl
  | some e =>
      have he : r.at? name source = some e := h
      show ((r.eraseOn name source).insertOn name e target).at? n = _
      funext k
      by_cases hn : n = name
      · subst hn; by_cases hk : k = target <;> simp [moved, he, hk]
      · simp [hn]

/-! ## Other routes -/

theorem at?_foldl_move (route : String → Channel) (c : Channel) (names : List String) (r : Roster ε)
    (n : String) :
    (names.foldl (fun r name => if route name = c then r else r.move name c (route name)) r).at? n =
      if n ∈ names then moved (r.at? n) c (route n) else r.at? n := by
  induction names generalizing r with
  | nil => simp
  | cons x names ih =>
      have hx : (if route x = c then r else r.move x c (route x)).at? n =
          if n = x then moved (r.at? n) c (route n) else r.at? n := by
        split
        · rename_i hc
          split
          · rename_i hn; rw [hn, hc, moved_self]
          · rfl
        · rw [at?_move]
          split
          · rename_i hn; rw [hn]
          · rfl
      rw [List.foldl_cons, ih, hx]
      by_cases hn : n = x
      · simp only [hn, ↓reduceIte, List.mem_cons_self]
        split
        · exact moved_moved _ _ _
        · rfl
      · simp [hn]

theorem at?_refreshChannel (route : String → Channel) (r : Roster ε) (c : Channel) (n : String) :
    (r.refreshChannel route c).at? n = moved (r.at? n) c (route n) := by
  unfold refreshChannel
  rw [at?_foldl_move]
  split
  · rfl
  · rename_i hn
    have hnone : r.at? n c = none := by simpa [NameMap.mem_names_iff, at?] using hn
    rw [moved_of_none hnone]

/-- With other routes a name stands on its new channel alone, and it does as soon as any channel held
it. -/
theorem isSome_at?_refresh (route : String → Channel) (r : Roster ε) (n : String) (k : Channel) :
    ((r.refresh route).at? n k).isSome = (Channel.all.any (fun c => (r.at? n c).isSome) && k = route n) := by
  simp only [refresh, Channel.all, List.foldl_cons, List.foldl_nil, at?_refreshChannel]
  cases route n <;> cases k <;>
    simp [moved, Bool.or_comm, Bool.or_left_comm, Bool.or_assoc]

/-! ## One channel for each name -/

/-- No name stands on two channels. -/
def Separate (r : Roster ε) : Prop :=
  ∀ name c k, (r.at? name c).isSome → (r.at? name k).isSome → c = k

theorem Separate.eq_none {r : Roster ε} {name : String} {c k : Channel} {e : ε} (h : r.Separate)
    (he : r.at? name c = some e) (hk : k ≠ c) : r.at? name k = none := by
  cases hk' : r.at? name k with
  | none => rfl
  | some e' => exact absurd (h name k c (by simp [hk']) (by simp [he])) hk

/-- A removed name stands nowhere, and the others stay where they were. -/
theorem at?_remove {r : Roster ε} (h : r.Separate) (name n : String) (k : Channel) :
    (r.remove name).at? n k = if n = name then none else r.at? n k := by
  unfold remove
  by_cases hn : n = name
  · subst hn
    split
    · rename_i e he
      have he : r.at? n .unrestricted = some e := he
      by_cases hk : k = .unrestricted
      · simp [hk]
      · simpa [hk] using h.eq_none he hk
    · rename_i hu
      have hu : r.at? n .unrestricted = none := hu
      split
      · rename_i e he
        have he : r.at? n .restricted = some e := he
        by_cases hk : k = .restricted
        · simp [hk]
        · simpa [hk] using h.eq_none he hk
      · rename_i hr
        have hr : r.at? n .restricted = none := hr
        cases k <;> simp [hu, hr]
  · split
    · simp [hn]
    · split <;> simp [hn]

/-- The roster holds exactly the known names, each on the channel to which it is routed. -/
def Routed (r : Roster ε) (route : String → Channel) (known : String → Bool) : Prop :=
  ∀ name c, (r.at? name c).isSome = (known name && c = route name)

namespace Routed

variable {r r' : Roster ε} {route : String → Channel} {known : String → Bool}

theorem of_empty (route : String → Channel) : (empty : Roster ε).Routed route fun _ => false := by
  intro name c; simp

theorem of_at?_eq (h : r.Routed route known) (he : r'.at? = r.at?) : r'.Routed route known := by
  intro name c; rw [he]; exact h name c

theorem separate (h : r.Routed route known) : r.Separate := by
  intro name c k hc hk
  rw [h, Bool.and_eq_true, decide_eq_true_eq] at hc hk
  exact hc.2.trans hk.2.symm

theorem register (h : r.Routed route known) (name : String) (e : ε) :
    (r.register route name e).Routed route fun n => n == name || known n := by
  intro n c
  rw [Roster.register, at?_place]
  by_cases hn : n = name
  · subst hn; by_cases hc : c = route n <;> simp [hc]
  · have hb : (n == name) = false := beq_false_of_ne hn
    simp [hn, hb, h n c]

theorem remove (h : r.Routed route known) (name : String) :
    (r.remove name).Routed route fun n => n != name && known n := by
  intro n c
  rw [at?_remove h.separate]
  by_cases hn : n = name
  · simp [hn]
  · have hb : (n == name) = false := beq_false_of_ne hn
    simp [hn, bne, hb, h n c]

theorem refresh (h : r.Routed route known) (route' : String → Channel) :
    (r.refresh route').Routed route' known := by
  intro n c
  rw [isSome_at?_refresh]
  congr 1
  rw [Bool.eq_iff_iff, List.any_eq_true]
  constructor
  · rintro ⟨k, _, hk⟩
    rw [h, Bool.and_eq_true] at hk
    exact hk.1
  · intro hn
    refine ⟨route n, by cases route n <;> simp [Channel.all], ?_⟩
    rw [h, hn]; simp

theorem channelOf?_eq (h : r.Routed route known) (name : String) :
    r.channelOf? name = if known name then some (route name) else none := by
  have hf : (fun c => (r.on c).contains name) = fun c => known name && decide (c = route name) := by
    funext c; exact h name c
  rw [channelOf?, hf]
  cases known name with
  | false => simp
  | true => cases hc : route name <;> simp [Channel.all]

end Routed

end MetricsAgent.Roster
